import ChatAssistant.Environment.Value

/-!
How a value is written in an environment file. The reader takes the texts that are written so, and
gives the parts they stand for.
-/

namespace ChatAssistant.Environment

def Escapes (written meant : Char) : Prop :=
  written = 'n' ∧ meant = '\n' ∨ written ∈ ['\\', '\'', '\"', '$', ' '] ∧ meant = written

def Trails (text : List Char) : Prop :=
  ∃ blanks comment, text = blanks ++ comment ∧ (∀ char ∈ blanks, char = ' ' ∨ char = '\t') ∧
    ∀ first ∈ comment.head?, first = '#'

theorem Trails.nil : Trails [] :=
  ⟨[], [], rfl, List.forall_mem_nil _, fun _ first => by cases first⟩

theorem Trails.sign (comment : List Char) : Trails ('#' :: comment) := by
  refine ⟨[], '#' :: comment, rfl, List.forall_mem_nil _, ?_⟩
  rintro first ⟨⟩
  rfl

theorem Trails.cons {blank : Char} {text : List Char} (isBlank : blank = ' ' ∨ blank = '\t')
    (trails : Trails text) : Trails (blank :: text) := by
  obtain ⟨blanks, comment, rfl, blank_of_mem, first⟩ := trails
  exact ⟨blank :: blanks, comment, rfl, List.forall_mem_cons.mpr ⟨isBlank, blank_of_mem⟩, first⟩

/-- The texts that may stand in a value, between double quotes or not, up to its end, and the parts
they stand for. -/
inductive Spells : Bool → List Char → List Part → Prop where
  | done : Spells false [] []
  /-- A character that stands for itself. -/
  | char {isQuoted : Bool} {char : Char} {text : List Char} {parts : List Part}
      (anywhere : char ∉ ['$', '\\', '\"'])
      (outside : isQuoted = false → char ∉ ['\'', ' ', '\t']) (rest : Spells isQuoted text parts) :
      Spells isQuoted (char :: text) (.char char :: parts)
  | escape {isQuoted : Bool} {written meant : Char} {text : List Char} {parts : List Part}
      (escapes : Escapes written meant) (rest : Spells isQuoted text parts) :
      Spells isQuoted ('\\' :: written :: text) (.char meant :: parts)
  | backslash : Spells false ['\\'] []
  /-- Where double quotes begin or end. -/
  | quote {isQuoted : Bool} {text : List Char} {parts : List Part}
      (rest : Spells (!isQuoted) text parts) : Spells isQuoted ('\"' :: text) parts
  | single {inner text : List Char} {parts : List Part} (inside : '\'' ∉ inner)
      (rest : Spells false text parts) :
      Spells false ('\'' :: (inner ++ '\'' :: text)) (inner.map .char ++ parts)
  | braced {isQuoted : Bool} {name text : List Char} {parts : List Part} (inside : '\x7d' ∉ name)
      (rest : Spells isQuoted text parts) :
      Spells isQuoted ('$' :: '\x7b' :: (name ++ '\x7d' :: text)) (.variable name :: parts)
  /-- A variable without braces, and the character that ends its name. -/
  | name {isQuoted : Bool} {name : List Char} {char : Char} {text : List Char}
      {parts : List Part} (inside : ∀ char ∈ name, Text.isAlphanumeric char = true)
      (ends : Text.isAlphanumeric char = false) (single : char ≠ '$')
      (unbraced : name = [] → char ≠ '\x7b') (rest : Spells isQuoted text parts) :
      Spells isQuoted ('$' :: (name ++ char :: text)) (.variable name :: .char char :: parts)
  /-- A variable with another one right behind it. -/
  | names {isQuoted : Bool} {name text : List Char} {parts : List Part}
      (inside : ∀ char ∈ name, Text.isAlphanumeric char = true)
      (rest : Spells isQuoted ('$' :: text) parts) :
      Spells isQuoted ('$' :: (name ++ '$' :: text)) (.variable name :: parts)
  | lastName {name : List Char} (inside : ∀ char ∈ name, Text.isAlphanumeric char = true) :
      Spells false ('$' :: name) [.variable name]
  | behind {blank : Char} {text : List Char} (isBlank : blank = ' ' ∨ blank = '\t')
      (trails : Trails text) : Spells false (blank :: text) []

theorem isSpaceOrTab_iff (char : Char) : isSpaceOrTab char = true ↔ char = ' ' ∨ char = '\t' := by
  rw [isSpaceOrTab, Bool.or_eq_true, decide_eq_true_eq, decide_eq_true_eq]

theorem unescaped?_eq_some_iff (written meant : Char) :
    unescaped? written = some meant ↔ Escapes written meant := by
  unfold unescaped? Escapes
  by_cases isLine : written = 'n'
  · have other : 'n' ∉ ['\\', '\'', '\"', '$', ' '] := by decide
    rw [if_pos isLine, isLine, Option.some.injEq]
    constructor
    · exact fun same => Or.inl ⟨rfl, same.symm⟩
    · rintro (⟨_, same⟩ | ⟨member, _⟩)
      · exact same.symm
      · exact absurd member other
  · rw [if_neg isLine]
    split
    · rename_i listed
      rw [Option.some.injEq]
      constructor
      · exact fun same => Or.inr ⟨List.contains_iff_mem.mp listed, same.symm⟩
      · rintro (⟨same, _⟩ | ⟨_, same⟩)
        · exact absurd same isLine
        · exact same.symm
    · rename_i unlisted
      refine iff_of_false (by simp only [reduceCtorEq, not_false_eq_true]) ?_
      rintro (⟨same, _⟩ | ⟨member, _⟩)
      · exact isLine same
      · exact unlisted (List.contains_iff_mem.mpr member)

namespace Place

theorem next?_plain_dollar (isQuoted : Bool) :
    next? '$' (.plain isQuoted) = some ([], .name isQuoted []) := rfl

theorem next?_plain_backslash (isQuoted : Bool) :
    next? '\\' (.plain isQuoted) = some ([], .escaped isQuoted) := rfl

theorem next?_plain_double (isQuoted : Bool) :
    next? '\"' (.plain isQuoted) = some ([], .plain !isQuoted) := rfl

theorem next?_plain_single : next? '\'' (.plain false) = some ([], .singleQuoted) := rfl

theorem next?_plain_of_blank {blank : Char} (isBlank : blank = ' ' ∨ blank = '\t') :
    next? blank (.plain false) = some ([], .behind) := by
  rcases isBlank with rfl | rfl <;> rfl

theorem next?_plain_of_char {isQuoted : Bool} {char : Char} (anywhere : char ∉ ['$', '\\', '\"'])
    (outside : isQuoted = false → char ∉ ['\'', ' ', '\t']) :
    next? char (.plain isQuoted) = some ([.char char], .plain isQuoted) := by
  simp only [List.mem_cons, List.not_mem_nil, or_false, not_or] at anywhere outside
  obtain ⟨notVariable, notEscape, notQuote⟩ := anywhere
  rw [next?, if_neg notVariable, if_neg notEscape, if_neg notQuote]
  cases isQuoted with
  | true => rfl
  | false =>
      obtain ⟨notSingle, notSpace, notTab⟩ := outside rfl
      have visible : ¬isSpaceOrTab char = true := by
        rw [isSpaceOrTab_iff, not_or]
        exact ⟨notSpace, notTab⟩
      rw [if_neg Bool.false_ne_true, if_neg notSingle, if_neg visible]

theorem next?_escaped (isQuoted : Bool) {written meant : Char} (escapes : Escapes written meant) :
    next? written (.escaped isQuoted) = some ([.char meant], .plain isQuoted) := by
  rw [next?, (unescaped?_eq_some_iff written meant).mpr escapes]
  rfl

theorem next?_singleQuoted_single : next? '\'' .singleQuoted = some ([], .plain false) := rfl

theorem next?_singleQuoted_of_ne {char : Char} (other : char ≠ '\'') :
    next? char .singleQuoted = some ([.char char], .singleQuoted) :=
  if_neg other

theorem next?_name_of_alphanumeric (isQuoted : Bool) (read : List Char) {char : Char}
    (inside : Text.isAlphanumeric char = true) :
    next? char (.name isQuoted read) = some ([], .name isQuoted (read ++ [char])) :=
  if_pos inside

theorem next?_name_brace (isQuoted : Bool) :
    next? '\x7b' (.name isQuoted []) = some ([], .bracedName isQuoted []) := by
  have ends : Text.isAlphanumeric '\x7b' = false := by decide +kernel
  rw [next?, ends]
  rfl

theorem next?_name_dollar (isQuoted : Bool) (read : List Char) :
    next? '$' (.name isQuoted read) = some ([.variable read], .name isQuoted []) := by
  have ends : Text.isAlphanumeric '$' = false := by decide +kernel
  rw [next?, ends]
  rfl

theorem next?_name_of_end (isQuoted : Bool) {read : List Char} {char : Char}
    (ends : Text.isAlphanumeric char = false) (single : char ≠ '$')
    (unbraced : read = [] → char ≠ '\x7b') :
    next? char (.name isQuoted read) = some ([.variable read, .char char], .plain isQuoted) := by
  have notBraced : ¬(char = '\x7b' ∧ read = []) := fun both => unbraced both.2 both.1
  rw [next?, ends, if_neg Bool.false_ne_true, if_neg notBraced, if_neg single]

theorem next?_bracedName_brace (isQuoted : Bool) (read : List Char) :
    next? '\x7d' (.bracedName isQuoted read) = some ([.variable read], .plain isQuoted) := rfl

theorem next?_bracedName_of_ne (isQuoted : Bool) (read : List Char) {char : Char}
    (other : char ≠ '\x7d') :
    next? char (.bracedName isQuoted read) = some ([], .bracedName isQuoted (read ++ [char])) :=
  if_neg other

theorem next?_behind_of_blank {blank : Char} (isBlank : blank = ' ' ∨ blank = '\t') :
    next? blank .behind = some ([], .behind) :=
  if_pos ((isSpaceOrTab_iff blank).mpr isBlank)

theorem next?_behind_sign : next? '#' .behind = some ([], .comment) := rfl

theorem next?_comment (char : Char) : next? char .comment = some ([], .comment) := rfl

end Place

theorem readParts?_of_next {place next : Place} {char : Char} {text : List Char}
    {parts rest : List Part} (step : place.next? char = some (parts, next))
    (read : readParts? next text = some rest) :
    readParts? place (char :: text) = some (parts ++ rest) := by
  rw [readParts?, step]
  change (readParts? next text).bind _ = _
  rw [read]
  rfl

theorem readParts?_of_silent {place next : Place} {char : Char} {text : List Char}
    {parts : List Part} (step : place.next? char = some ([], next))
    (read : readParts? next text = some parts) :
    readParts? place (char :: text) = some parts :=
  readParts?_of_next step read

theorem exists_next_of_readParts? {place : Place} {char : Char} {text : List Char}
    {all : List Part} (read : readParts? place (char :: text) = some all) :
    ∃ parts next rest, place.next? char = some (parts, next) ∧
      readParts? next text = some rest ∧ all = parts ++ rest := by
  rw [readParts?] at read
  obtain ⟨⟨parts, next⟩, step, read⟩ := Option.bind_eq_some_iff.mp read
  obtain ⟨rest, read, same⟩ := Option.bind_eq_some_iff.mp read
  exact ⟨parts, next, rest, step, read, (Option.some.inj same).symm⟩

section Written

/-! What is written is read. -/

open Place

theorem readParts?_singleQuoted {inner text : List Char} {parts : List Part}
    (inside : '\'' ∉ inner) (read : readParts? (.plain false) text = some parts) :
    readParts? .singleQuoted (inner ++ '\'' :: text) = some (inner.map .char ++ parts) := by
  induction inner with
  | nil => exact readParts?_of_silent next?_singleQuoted_single read
  | cons char inner ih =>
      rw [List.mem_cons, not_or] at inside
      rw [List.map_cons, List.cons_append, List.cons_append, ← List.singleton_append]
      exact readParts?_of_next (next?_singleQuoted_of_ne (Ne.symm inside.1)) (ih inside.2)

theorem readParts?_bracedName {isQuoted : Bool} {read name text : List Char} {parts : List Part}
    (inside : '\x7d' ∉ name) (rest : readParts? (.plain isQuoted) text = some parts) :
    readParts? (.bracedName isQuoted read) (name ++ '\x7d' :: text) =
      some (.variable (read ++ name) :: parts) := by
  induction name generalizing read with
  | nil =>
      rw [List.append_nil]
      exact readParts?_of_next (next?_bracedName_brace isQuoted read) rest
  | cons char name ih =>
      rw [List.mem_cons, not_or] at inside
      rw [List.append_cons read]
      exact readParts?_of_silent (next?_bracedName_of_ne isQuoted read (Ne.symm inside.1))
        (ih inside.2)

theorem readParts?_name {isQuoted : Bool} {read name text : List Char} {parts : List Part}
    (inside : ∀ char ∈ name, Text.isAlphanumeric char = true)
    (rest : readParts? (.name isQuoted (read ++ name)) text = some parts) :
    readParts? (.name isQuoted read) (name ++ text) = some parts := by
  induction name generalizing read with
  | nil =>
      rw [List.append_nil] at rest
      exact rest
  | cons char name ih =>
      rw [List.forall_mem_cons] at inside
      rw [List.append_cons] at rest
      exact readParts?_of_silent (next?_name_of_alphanumeric isQuoted read inside.1)
        (ih inside.2 rest)

theorem readParts?_comment (text : List Char) : readParts? .comment text = some [] := by
  induction text with
  | nil => rfl
  | cons char text ih => exact readParts?_of_silent (next?_comment char) ih

theorem readParts?_behind {text : List Char} (trails : Trails text) :
    readParts? .behind text = some [] := by
  obtain ⟨blanks, comment, rfl, blank, first⟩ := trails
  induction blanks with
  | nil =>
      cases comment with
      | nil => rfl
      | cons char comment =>
          rw [first char rfl]
          exact readParts?_of_silent next?_behind_sign (readParts?_comment comment)
  | cons char blanks ih =>
      rw [List.forall_mem_cons] at blank
      exact readParts?_of_silent (next?_behind_of_blank blank.1) (ih blank.2)

theorem Spells.read {isQuoted : Bool} {text : List Char} {parts : List Part}
    (spells : Spells isQuoted text parts) : readParts? (.plain isQuoted) text = some parts := by
  induction spells with
  | done => rfl
  | char anywhere outside _ ih =>
      exact readParts?_of_next (next?_plain_of_char anywhere outside) ih
  | @escape isQuoted _ _ _ _ escapes _ ih =>
      exact readParts?_of_silent (next?_plain_backslash isQuoted)
        (readParts?_of_next (next?_escaped isQuoted escapes) ih)
  | backslash => rfl
  | @quote isQuoted _ _ _ ih => exact readParts?_of_silent (next?_plain_double isQuoted) ih
  | single inside _ ih =>
      exact readParts?_of_silent next?_plain_single (readParts?_singleQuoted inside ih)
  | @braced isQuoted _ _ _ inside _ ih =>
      exact readParts?_of_silent (next?_plain_dollar isQuoted)
        (readParts?_of_silent (next?_name_brace isQuoted) (readParts?_bracedName inside ih))
  | @name isQuoted _ _ _ _ inside ends single unbraced _ ih =>
      have rest := readParts?_of_next (next?_name_of_end isQuoted ends single unbraced) ih
      exact readParts?_of_silent (next?_plain_dollar isQuoted) (readParts?_name inside rest)
  | @names isQuoted name _ _ inside _ ih =>
      -- The second variable is read as it is where a value begins with it.
      obtain ⟨_, _, rest, step, read, rfl⟩ := exists_next_of_readParts? ih
      cases step
      have later := readParts?_of_next (next?_name_dollar isQuoted name) read
      exact readParts?_of_silent (next?_plain_dollar isQuoted) (readParts?_name inside later)
  | @lastName name inside =>
      have rest : readParts? (.name false ([] ++ name)) [] = some [.variable name] := rfl
      have whole := readParts?_name inside rest
      rw [List.append_nil] at whole
      exact readParts?_of_silent (next?_plain_dollar false) whole
  | behind isBlank trails =>
      exact readParts?_of_silent (next?_plain_of_blank isBlank) (readParts?_behind trails)

end Written

section Read

/-! What is read has been written. -/

def Place.Fits : Place → Prop
  | .name _ read => ∀ char ∈ read, Text.isAlphanumeric char = true
  | .bracedName _ read => '\x7d' ∉ read
  | _ => True

def Place.Completes : Place → List Char → List Part → Prop
  | .plain isQuoted, text, parts => Spells isQuoted text parts
  | .escaped isQuoted, text, parts => Spells isQuoted ('\\' :: text) parts
  | .singleQuoted, text, parts =>
      ∃ inner rest behind, '\'' ∉ inner ∧ text = inner ++ '\'' :: rest ∧
        Spells false rest behind ∧ parts = inner.map .char ++ behind
  | .name isQuoted read, text, parts => Spells isQuoted ('$' :: (read ++ text)) parts
  | .bracedName isQuoted read, text, parts =>
      Spells isQuoted ('$' :: '\x7b' :: (read ++ text)) parts
  | .behind, text, parts => Trails text ∧ parts = []
  | .comment, _, parts => parts = []

theorem Place.completes_nil {place : Place} {parts : List Part} (fits : place.Fits)
    (last : place.last? = some parts) : place.Completes [] parts := by
  cases place with
  | plain isQuoted =>
      cases isQuoted with
      | true => cases last
      | false => cases last; exact .done
  | escaped isQuoted =>
      cases isQuoted with
      | true => cases last
      | false => cases last; exact .backslash
  | singleQuoted => cases last
  | name isQuoted read =>
      cases isQuoted with
      | true => cases last
      | false =>
          cases last
          rw [Completes, List.append_nil]
          exact .lastName fits
  | bracedName isQuoted read => cases last
  | behind =>
      cases last
      exact ⟨.nil, rfl⟩
  | comment => cases last; rfl

theorem next?_plain_cases {isQuoted : Bool} {char : Char} {parts : List Part} {next : Place}
    (step : Place.next? char (.plain isQuoted) = some (parts, next)) :
    (char = '$' ∧ parts = [] ∧ next = .name isQuoted []) ∨
      (char = '\\' ∧ parts = [] ∧ next = .escaped isQuoted) ∨
      (char = '\"' ∧ parts = [] ∧ next = .plain !isQuoted) ∨
      (char ∉ ['$', '\\', '\"'] ∧ (isQuoted = false → char ∉ ['\'', ' ', '\t']) ∧
        parts = [.char char] ∧ next = .plain isQuoted) ∨
      (isQuoted = false ∧ char = '\'' ∧ parts = [] ∧ next = .singleQuoted) ∨
      (isQuoted = false ∧ (char = ' ' ∨ char = '\t') ∧ parts = [] ∧ next = .behind) := by
  rw [Place.next?] at step
  split at step
  · rename_i isDollar
    cases step
    exact Or.inl ⟨isDollar, rfl, rfl⟩
  rename_i notDollar
  split at step
  · rename_i isBackslash
    cases step
    exact Or.inr (Or.inl ⟨isBackslash, rfl, rfl⟩)
  rename_i notBackslash
  split at step
  · rename_i isDouble
    cases step
    exact Or.inr (Or.inr (Or.inl ⟨isDouble, rfl, rfl⟩))
  rename_i notDouble
  have anywhere : char ∉ ['$', '\\', '\"'] := by
    simp only [List.mem_cons, List.not_mem_nil, or_false, not_or]
    exact ⟨notDollar, notBackslash, notDouble⟩
  -- From here on the character has a meaning of its own only outside of quotes.
  right; right; right
  cases isQuoted with
  | true =>
      cases step
      exact Or.inl ⟨anywhere, Bool.noConfusion, rfl, rfl⟩
  | false =>
      rw [if_neg Bool.false_ne_true] at step
      split at step
      · rename_i isSingle
        cases step
        exact Or.inr (Or.inl ⟨rfl, isSingle, rfl, rfl⟩)
      rename_i notSingle
      split at step
      · rename_i blank
        cases step
        exact Or.inr (Or.inr ⟨rfl, (isSpaceOrTab_iff char).mp blank, rfl, rfl⟩)
      · rename_i visible
        rw [isSpaceOrTab_iff, not_or] at visible
        cases step
        refine Or.inl ⟨anywhere, fun _ => ?_, rfl, rfl⟩
        simp only [List.mem_cons, List.not_mem_nil, or_false, not_or]
        exact ⟨notSingle, visible⟩

theorem next?_name_cases {isQuoted : Bool} {read : List Char} {char : Char} {parts : List Part}
    {next : Place} (step : Place.next? char (.name isQuoted read) = some (parts, next)) :
    (Text.isAlphanumeric char = true ∧ parts = [] ∧ next = .name isQuoted (read ++ [char])) ∨
      (char = '\x7b' ∧ read = [] ∧ parts = [] ∧ next = .bracedName isQuoted []) ∨
      (char = '$' ∧ parts = [.variable read] ∧ next = .name isQuoted []) ∨
      (Text.isAlphanumeric char = false ∧ char ≠ '$' ∧ (read = [] → char ≠ '\x7b') ∧
        parts = [.variable read, .char char] ∧ next = .plain isQuoted) := by
  rw [Place.next?] at step
  split at step
  · rename_i inside
    cases step
    exact Or.inl ⟨inside, rfl, rfl⟩
  rename_i ends
  rw [Bool.not_eq_true] at ends
  split at step
  · rename_i opens
    cases step
    exact Or.inr (Or.inl ⟨opens.1, opens.2, rfl, rfl⟩)
  rename_i unopened
  split at step
  · rename_i isDollar
    cases step
    exact Or.inr (Or.inr (Or.inl ⟨isDollar, rfl, rfl⟩))
  · rename_i notDollar
    cases step
    exact Or.inr (Or.inr (Or.inr
      ⟨ends, notDollar, fun empty isBrace => unopened ⟨isBrace, empty⟩, rfl, rfl⟩))

theorem Place.fits_of_next {place next : Place} {char : Char} {parts : List Part}
    (fits : place.Fits) (step : place.next? char = some (parts, next)) : next.Fits := by
  cases place with
  | name isQuoted read =>
      rcases next?_name_cases step with ⟨inside, _, rfl⟩ | ⟨_, _, _, rfl⟩ | ⟨_, _, rfl⟩ |
          ⟨_, _, _, _, rfl⟩
      · exact List.forall_mem_append.mpr ⟨fits, List.forall_mem_singleton.mpr inside⟩
      · exact List.not_mem_nil
      · exact List.forall_mem_nil _
      · trivial
  | bracedName isQuoted read =>
      rw [next?] at step
      split at step
      · cases step; trivial
      · rename_i other
        cases step
        rw [Fits, List.mem_append, List.mem_singleton, not_or]
        exact ⟨fits, Ne.symm other⟩
  | plain isQuoted =>
      rcases next?_plain_cases step with ⟨_, _, rfl⟩ | ⟨_, _, rfl⟩ | ⟨_, _, rfl⟩ | ⟨_, _, _, rfl⟩ |
          ⟨_, _, _, rfl⟩ | ⟨_, _, _, rfl⟩
      · exact List.forall_mem_nil _
      all_goals trivial
  | escaped isQuoted =>
      obtain ⟨meant, _, same⟩ := Option.map_eq_some_iff.mp step
      cases same
      trivial
  | singleQuoted => rw [next?] at step; split at step <;> cases step <;> trivial
  | behind => rw [next?] at step; (repeat' split at step) <;> cases step <;> trivial
  | comment => cases step; trivial

theorem Place.completes_of_next {place next : Place} {char : Char} {text : List Char}
    {parts rest : List Part} (fits : place.Fits) (step : place.next? char = some (parts, next))
    (completes : next.Completes text rest) : place.Completes (char :: text) (parts ++ rest) := by
  cases place with
  | plain isQuoted =>
      rcases next?_plain_cases step with ⟨rfl, rfl, rfl⟩ | ⟨rfl, rfl, rfl⟩ | ⟨rfl, rfl, rfl⟩ |
          ⟨anywhere, outside, rfl, rfl⟩ | ⟨rfl, rfl, rfl, rfl⟩ | ⟨rfl, blank, rfl, rfl⟩
      · exact completes
      · exact completes
      · exact .quote completes
      · exact .char anywhere outside completes
      · obtain ⟨inner, after, behind, inside, rfl, spells, rfl⟩ := completes
        exact .single inside spells
      · obtain ⟨trails, rfl⟩ := completes
        exact .behind blank trails
  | escaped isQuoted =>
      obtain ⟨meant, read, same⟩ := Option.map_eq_some_iff.mp step
      cases same
      exact .escape ((unescaped?_eq_some_iff char meant).mp read) completes
  | singleQuoted =>
      rw [next?] at step
      split at step
      · rename_i ends
        cases step
        cases ends
        exact ⟨[], text, rest, List.not_mem_nil, rfl, completes, rfl⟩
      · rename_i other
        cases step
        obtain ⟨inner, after, behind, inside, rfl, spells, rfl⟩ := completes
        have inside_too := List.not_mem_cons_of_ne_of_not_mem (Ne.symm other) inside
        exact ⟨char :: inner, after, behind, inside_too, rfl, spells, rfl⟩
  | name isQuoted read =>
      rcases next?_name_cases step with ⟨_, rfl, rfl⟩ | ⟨rfl, rfl, rfl, rfl⟩ | ⟨rfl, rfl, rfl⟩ |
          ⟨ends, single, unbraced, rfl, rfl⟩
      · rw [Completes, ← List.append_cons] at completes
        exact completes
      · exact completes
      · exact .names fits completes
      · exact .name fits ends single unbraced completes
  | bracedName isQuoted read =>
      rw [next?] at step
      split at step
      · rename_i ends
        cases step
        cases ends
        exact .braced fits completes
      · cases step
        rw [Completes, ← List.append_cons] at completes
        exact completes
  | behind =>
      rw [next?] at step
      split at step
      · rename_i blank
        cases step
        exact ⟨completes.1.cons ((isSpaceOrTab_iff char).mp blank), completes.2⟩
      · split at step
        · rename_i sign
          cases step
          cases sign
          exact ⟨.sign text, completes⟩
        · cases step
  | comment =>
      cases step
      exact completes

theorem Place.completes_of_readParts? {place : Place} {text : List Char} {parts : List Part}
    (fits : place.Fits) (read : readParts? place text = some parts) :
    place.Completes text parts := by
  induction text generalizing place parts with
  | nil => exact completes_nil fits read
  | cons char text ih =>
      obtain ⟨first, next, rest, step, later, rfl⟩ := exists_next_of_readParts? read
      exact completes_of_next fits step (ih (fits_of_next fits step) later)

end Read

theorem readParts?_eq_some_iff (isQuoted : Bool) (text : List Char) (parts : List Part) :
    readParts? (.plain isQuoted) text = some parts ↔ Spells isQuoted text parts := by
  constructor
  · intro read
    have fits : (Place.plain isQuoted).Fits := trivial
    exact Place.completes_of_readParts? fits read
  · exact Spells.read

/-- The texts that may stand in the place of a value. A comment there is a value of no parts. -/
def IsValue (text : List Char) (parts : List Part) : Prop :=
  if text.head? = some '#' then parts = [] else Spells false text parts

theorem readValue?_eq_some_iff (text : List Char) (parts : List Part) :
    readValue? text = some parts ↔ IsValue text parts := by
  unfold readValue? IsValue
  by_cases sign : text.head? = some '#'
  · rw [if_pos sign, if_pos (by rw [sign, decide_eq_true rfl, Bool.or_true]), Option.some.injEq,
      eq_comm]
  · rw [if_neg sign, ← readParts?_eq_some_iff]
    cases text with
    | nil => rfl
    | cons char text => rw [List.isEmpty_cons, decide_eq_false sign]; rfl

end ChatAssistant.Environment
