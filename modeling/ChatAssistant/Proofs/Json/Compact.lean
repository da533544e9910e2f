import ChatAssistant.Proofs.Decimal.Digits
import ChatAssistant.Proofs.Json.Strings

/-!
Compact text of JSON values. It is read back as the document that holds the same value, behind
whatever it stands and whatever stands behind it.
-/

namespace ChatAssistant.Json

inductive IsExact : Json → Prop
  | null : IsExact .null
  | bool (value : Bool) : IsExact (.bool value)
  | integer (value : Int) : IsExact (.integer value)
  | string (text : String) : IsExact (.string text)
  | array (items : List Json) (exact : ∀ item ∈ items, IsExact item) : IsExact (.array items)
  | object (members : List (String × Json)) (exact : ∀ member ∈ members, IsExact member.2) :
      IsExact (.object members)

namespace Document

def ofText (text : String) : List Symbol :=
  text.toList.map Symbol.ofChar

mutual

def ofJson : Json → Document
  | .null => .null
  | .bool value => .bool value
  | .integer value => .number ⟨value < 0, Decimal.digits value.natAbs, none, none⟩
  | .real _ => .null
  | .string text => .string (ofText text)
  | .array items => .array (ofItems items)
  | .object members => .object (ofMembers members)

def ofItems : List Json → List Document
  | [] => []
  | item :: items => ofJson item :: ofItems items

def ofMembers : List (String × Json) → List (List Symbol × Document)
  | [] => []
  | (name, value) :: members => (ofText name, ofJson value) :: ofMembers members

end

/-! ### Numbers -/

def EndsNumber (rest : List Char) : Prop :=
  ∀ char, rest.head? = some char →
    char.isDigit = false ∧ char ≠ '.' ∧ char ≠ 'e' ∧ char ≠ 'E'

theorem endsNumber_nil : EndsNumber [] := by
  intro char first
  cases first

theorem endsNumber_cons {char : Char} {rest : List Char}
    (other : char.isDigit = false ∧ char ≠ '.' ∧ char ≠ 'e' ∧ char ≠ 'E') :
    EndsNumber (char :: rest) := by
  intro first same
  cases same
  exact other

theorem readDigits_append {digits rest : List Char} (nonempty : digits ≠ [])
    (allDigits : ∀ char ∈ digits, char.isDigit = true)
    (ends : ∀ char, rest.head? = some char → char.isDigit = false) :
    readDigits (digits ++ rest) = some (digits, rest) := by
  have taken : (digits ++ rest).takeWhile Char.isDigit = digits := by
    rw [List.takeWhile_append_of_pos allDigits]
    cases rest with
    | nil => simp
    | cons char rest => simp [ends char rfl]
  have left : (digits ++ rest).dropWhile Char.isDigit = rest := by
    rw [List.dropWhile_append_of_pos allDigits]
    cases rest with
    | nil => simp
    | cons char rest => simp [ends char rfl]
  simp [readDigits, taken, left, nonempty]

theorem readWhole_digits (number : Nat) {rest : List Char}
    (ends : ∀ char, rest.head? = some char → char.isDigit = false) :
    readWhole (Decimal.digits number ++ rest) = some (Decimal.digits number, rest) := by
  obtain ⟨first, more, spelled, _, leading⟩ := Decimal.digits_eq_cons number
  by_cases zero : first = '0'
  · have none : number = 0 := leading zero
    subst none
    rfl
  · have whole : readWhole (first :: more ++ rest) = readDigits (first :: more ++ rest) := by
      simp [readWhole, zero]
    rw [spelled, whole, ← spelled]
    refine readDigits_append ?_ (fun _ => Decimal.isDigit_of_mem_digits) ends
    rw [spelled]
    exact List.cons_ne_nil first more

theorem readExponent_of_ends {rest : List Char} (ends : EndsNumber rest) :
    readExponent rest = some (none, rest) := by
  cases rest with
  | nil => rfl
  | cons char rest => simp [readExponent, (ends char rfl).2.2]

theorem readMagnitude_digits (isNegative : Bool) (number : Nat) {rest : List Char}
    (ends : EndsNumber rest) :
    readMagnitude isNegative (Decimal.digits number ++ rest) =
      some (.number ⟨isNegative, Decimal.digits number, none, none⟩, rest) := by
  have whole := readWhole_digits number fun char first => (ends char first).1
  have noFraction : readFraction rest = some (none, rest) := by
    cases rest with
    | nil => rfl
    | cons char rest => simp [readFraction, (ends char rfl).2.1]
  simp [readMagnitude, whole, noFraction, readExponent_of_ends ends]

theorem readMagnitude_point (isNegative : Bool) (number : Nat) {places rest : List Char}
    (nonempty : places ≠ []) (allDigits : ∀ char ∈ places, char.isDigit = true)
    (ends : EndsNumber rest) :
    readMagnitude isNegative (Decimal.digits number ++ '.' :: (places ++ rest)) =
      some (.number ⟨isNegative, Decimal.digits number, some places, none⟩, rest) := by
  have point : ∀ char, ('.' :: (places ++ rest)).head? = some char → char.isDigit = false := by
    rintro char ⟨⟩
    decide
  have fraction := readDigits_append nonempty allDigits fun char first => (ends char first).1
  simp [readMagnitude, readWhole_digits number point, readFraction, fraction,
    readExponent_of_ends ends]

theorem readNumber_integerText (value : Int) (rest : List Char) :
    readNumber (integerText value ++ rest) =
      readMagnitude (value < 0) (Decimal.digits value.natAbs ++ rest) := by
  cases value with
  | ofNat number =>
      obtain ⟨first, more, spelled, digit, _⟩ := Decimal.digits_eq_cons number
      have unsigned : first ≠ '-' := by
        intro minus
        subst minus
        contradiction
      have positive : ¬(number : Int) < 0 := Int.not_lt.mpr (Int.natCast_nonneg number)
      simp [integerText, spelled, readNumber, unsigned, positive]
  | negSucc number => simp [integerText, readNumber, Int.negSucc_lt_zero]

/-! ### Values -/

theorem skipBlanks_cons {char : Char} (printed : isBlank char = false) (text : List Char) :
    skipBlanks (char :: text) = char :: text := by
  simp [skipBlanks, printed]

theorem isBlank_of_isDigit {char : Char} (digit : char.isDigit = true) : isBlank char = false := by
  rw [Bool.eq_false_iff]
  intro blank
  simp only [isBlank, Bool.or_eq_true, decide_eq_true_eq, or_assoc] at blank
  rcases blank with rfl | rfl | rfl | rfl <;> contradiction

theorem integerText_eq_cons (value : Int) :
    ∃ first rest, integerText value = first :: rest ∧ (first = '-' ∨ first.isDigit = true) := by
  cases value with
  | ofNat number =>
      obtain ⟨first, rest, spelled, digit, _⟩ := Decimal.digits_eq_cons number
      exact ⟨first, rest, spelled, Or.inr digit⟩
  | negSucc number => exact ⟨'-', _, rfl, Or.inl rfl⟩

theorem compact_eq_cons {json : Json} (exact : IsExact json) :
    ∃ first rest, json.compact = first :: rest ∧ isBlank first = false ∧ first ≠ ']' := by
  cases exact with
  | null => exact ⟨_, _, rfl, by decide, by decide⟩
  | bool value => cases value <;> exact ⟨_, _, rfl, by decide, by decide⟩
  | integer value =>
      obtain ⟨first, rest, spelled, minus | digit⟩ := integerText_eq_cons value
      · subst minus
        exact ⟨_, _, spelled, by decide, by decide⟩
      · refine ⟨_, _, spelled, isBlank_of_isDigit digit, ?_⟩
        intro bracket
        subst bracket
        contradiction
  | string text => exact ⟨_, _, rfl, by decide, by decide⟩
  | array items exact =>
      cases items with
      | nil => exact ⟨_, _, rfl, by decide, by decide⟩
      | cons item items => exact ⟨_, _, rfl, by decide, by decide⟩
  | object members exact =>
      cases members with
      | nil => exact ⟨_, _, rfl, by decide, by decide⟩
      | cons member members => exact ⟨_, _, rfl, by decide, by decide⟩

/-- Wherever the text stands, it is read as the document, and nothing behind it is read. -/
def Spells (text : List Char) (document : Document) : Prop :=
  ∀ depth rest, text.length ≤ depth → EndsNumber rest →
    readValue depth (text ++ rest) = some (document, rest)

theorem readValue_numeric {first : Char} (numeric : first = '-' ∨ first.isDigit = true)
    (depth : Nat) (text : List Char) :
    readValue (depth + 1) (first :: text) = readNumber (first :: text) := by
  have printed : isBlank first = false := by
    rcases numeric with minus | digit
    · rw [minus]
      decide
    · exact isBlank_of_isDigit digit
  rw [readValue.eq_def]
  simp only [skipBlanks_cons printed]
  -- No other value begins with a sign or a digit.
  split <;> first | rfl | (rcases numeric with minus | digit <;> simp_all)

theorem spells_of_readNumber {text : List Char} {document : Document}
    (numeric : ∃ first more, text = first :: more ∧ (first = '-' ∨ first.isDigit = true))
    (read : ∀ rest, EndsNumber rest → readNumber (text ++ rest) = some (document, rest)) :
    Spells text document := by
  intro depth rest deep ends
  obtain ⟨first, more, rfl, numeric⟩ := numeric
  cases depth with
  | zero => cases deep
  | succ depth =>
      rw [List.cons_append, readValue_numeric numeric, ← List.cons_append, read rest ends]

theorem spells_integer (value : Int) : Spells (integerText value) (ofJson (.integer value)) := by
  refine spells_of_readNumber (integerText_eq_cons value) ?_
  intro rest ends
  rw [readNumber_integerText, readMagnitude_digits _ _ ends, ofJson]

theorem spells_point (value : Int) {places : List Char} (nonempty : places ≠ [])
    (allDigits : ∀ char ∈ places, char.isDigit = true) :
    Spells (integerText value ++ '.' :: places)
      (.number ⟨value < 0, Decimal.digits value.natAbs, some places, none⟩) := by
  obtain ⟨first, more, spelled, numeric⟩ := integerText_eq_cons value
  refine spells_of_readNumber ⟨first, more ++ '.' :: places, by rw [spelled]; rfl, numeric⟩ ?_
  intro rest ends
  rw [List.append_assoc, List.cons_append, readNumber_integerText,
    readMagnitude_point _ _ nonempty allDigits ends]

theorem Spells.unique {text : List Char} {first second : Document} (spells : Spells text first)
    (other : Spells text second) : first = second := by
  have read := spells text.length [] (Nat.le_refl _) endsNumber_nil
  rw [other text.length [] (Nat.le_refl _) endsNumber_nil] at read
  cases read
  rfl

theorem stringText_append (text : String) (rest : List Char) :
    stringText text ++ rest = '\"' :: (text.toList.flatMap escaped ++ '\"' :: rest) := by
  simp [stringText]

theorem spells_string (text : String) : Spells (stringText text) (ofJson (.string text)) := by
  intro depth rest deep _
  cases depth with
  | zero => simp [stringText] at deep
  | succ depth =>
      rw [stringText_append, readValue.eq_def]
      simp [skipBlanks, isBlank, ofJson, ofText]

theorem readItems_compact {read : List Char → Option (Document × List Char)} {item : Json}
    {items : List Json} {steps : Nat} (rest : List Char) (enough : items.length < steps)
    (reads : ∀ json ∈ item :: items, ∀ rest, EndsNumber rest →
      read (json.compact ++ rest) = some (ofJson json, rest)) :
    readItems read steps (item.compact ++ (compactItems items ++ ']' :: rest)) =
      some (ofItems (item :: items), rest) := by
  induction items generalizing item steps with
  | nil =>
      cases steps with
      | zero => contradiction
      | succ steps =>
          have first := reads item (by simp) (']' :: rest) (endsNumber_cons (by decide))
          rw [compactItems, List.nil_append, readItems, first]
          simp [skipBlanks, isBlank, ofItems]
  | cons next items ih =>
      cases steps with
      | zero => contradiction
      | succ steps =>
          have first := reads item (by simp)
            (',' :: (next.compact ++ (compactItems items ++ ']' :: rest)))
            (endsNumber_cons (by decide))
          have others : readItems read steps
                (next.compact ++ (compactItems items ++ ']' :: rest)) =
              some (ofItems (next :: items), rest) :=
            ih (by simpa using enough) fun json member =>
              reads json (List.mem_cons_of_mem item member)
          have split : compactItems (next :: items) ++ ']' :: rest =
              ',' :: (next.compact ++ (compactItems items ++ ']' :: rest)) := by
            simp [compactItems]
          rw [split, readItems, first]
          simp [skipBlanks, isBlank, others, ofItems]

theorem readName_stringText (name : String) (rest : List Char) :
    readName (stringText name ++ ':' :: rest) = some (ofText name, rest) := by
  rw [stringText_append, readName]
  simp [skipBlanks, isBlank, ofText]

theorem readMembers_compact {read : List Char → Option (Document × List Char)} {name : String}
    {value : Json} {members : List (String × Json)} {steps : Nat} (rest : List Char)
    (enough : members.length < steps)
    (reads : ∀ member ∈ (name, value) :: members, ∀ rest, EndsNumber rest →
      read (member.2.compact ++ rest) = some (ofJson member.2, rest)) :
    readMembers read steps
        (stringText name ++ ':' :: (value.compact ++ (compactMembers members ++ '\x7d' :: rest))) =
      some (ofMembers ((name, value) :: members), rest) := by
  induction members generalizing name value steps with
  | nil =>
      cases steps with
      | zero => contradiction
      | succ steps =>
          have first := reads (name, value) (by simp) ('\x7d' :: rest) (endsNumber_cons (by decide))
          rw [compactMembers, List.nil_append, readMembers, readName_stringText]
          simp [first, skipBlanks, isBlank, ofMembers]
  | cons next members ih =>
      obtain ⟨nextName, nextValue⟩ := next
      cases steps with
      | zero => contradiction
      | succ steps =>
          have others : readMembers read steps
                (stringText nextName ++ ':' ::
                  (nextValue.compact ++ (compactMembers members ++ '\x7d' :: rest))) =
              some (ofMembers ((nextName, nextValue) :: members), rest) :=
            ih (by simpa using enough) fun member inside =>
              reads member (List.mem_cons_of_mem (name, value) inside)
          have split : compactMembers ((nextName, nextValue) :: members) ++ '\x7d' :: rest =
              ',' :: (stringText nextName ++ ':' ::
                (nextValue.compact ++ (compactMembers members ++ '\x7d' :: rest))) := by
            simp [compactMembers]
          have first := reads (name, value) (by simp)
            (',' :: (stringText nextName ++ ':' ::
              (nextValue.compact ++ (compactMembers members ++ '\x7d' :: rest))))
            (endsNumber_cons (by decide))
          rw [split, readMembers, readName_stringText]
          simp [first, skipBlanks, isBlank, others, ofMembers]

theorem length_le_compactItems (items : List Json) :
    items.length ≤ (compactItems items).length := by
  induction items with
  | nil => exact Nat.zero_le _
  | cons item items ih =>
      simp only [compactItems, List.length_cons, List.length_append]
      omega

theorem length_le_compactMembers (members : List (String × Json)) :
    members.length ≤ (compactMembers members).length := by
  induction members with
  | nil => exact Nat.zero_le _
  | cons member members ih =>
      simp only [compactMembers, List.length_cons, List.length_append]
      omega

theorem compact_length_lt_of_mem_items {item : Json} {items : List Json} (member : item ∈ items) :
    item.compact.length < (compactItems items).length := by
  induction items with
  | nil => cases member
  | cons other items ih =>
      simp only [compactItems, List.length_cons, List.length_append]
      cases member with
      | head => omega
      | tail _ later =>
          have shorter := ih later
          omega

theorem compact_length_lt_of_mem_members {member : String × Json} {members : List (String × Json)}
    (inside : member ∈ members) :
    member.2.compact.length < (compactMembers members).length := by
  induction members with
  | nil => cases inside
  | cons other members ih =>
      simp only [compactMembers, List.length_cons, List.length_append]
      cases inside with
      | head => omega
      | tail _ later =>
          have shorter := ih later
          omega

theorem readValue_array {first : Char} (printed : isBlank first = false) (other : first ≠ ']')
    (depth : Nat) (text : List Char) :
    readValue (depth + 1) ('[' :: first :: text) =
      (readItems (readValue depth) ((first :: text).length + 1) (first :: text)).map
        fun (items, rest) => (.array items, rest) := by
  rw [readValue.eq_def]
  simp only [skipBlanks_cons (show isBlank '[' = false by decide), skipBlanks_cons printed]
  split
  · simp_all
  · rfl

theorem spells_array {items : List Json} (exact : ∀ item ∈ items, IsExact item)
    (each : ∀ item ∈ items, Spells item.compact (ofJson item)) :
    Spells (Json.array items).compact (ofJson (.array items)) := by
  intro depth rest deep _
  cases depth with
  | zero => cases items <;> simp [compact] at deep
  | succ depth =>
      cases items with
      | nil => simp [compact, readValue, skipBlanks, isBlank, ofJson, ofItems]
      | cons item items =>
          simp only [compact, List.length_cons, List.length_append, List.length_nil] at deep
          -- The depth left is still more than an item is long, so that each is read at it.
          have reads : ∀ json ∈ item :: items, ∀ rest, EndsNumber rest →
              readValue depth (json.compact ++ rest) = some (ofJson json, rest) := by
            intro json member rest ends
            refine each json member depth rest ?_ ends
            cases member with
            | head => omega
            | tail _ later =>
                have shorter := compact_length_lt_of_mem_items later
                omega
          have enough : items.length <
              (item.compact ++ (compactItems items ++ ']' :: rest)).length + 1 := by
            have count := length_le_compactItems items
            simp only [List.length_append]
            omega
          have split : (Json.array (item :: items)).compact ++ rest =
              '[' :: (item.compact ++ (compactItems items ++ ']' :: rest)) := by
            simp [compact]
          obtain ⟨first, more, spelled, printed, other⟩ :=
            compact_eq_cons (exact item List.mem_cons_self)
          have read := readItems_compact rest enough reads
          rw [split]
          rw [spelled, List.cons_append] at read ⊢
          rw [readValue_array printed other, read, ofJson]
          rfl

theorem readValue_object (depth : Nat) (text : List Char) :
    readValue (depth + 1) ('\x7b' :: '\"' :: text) =
      (readMembers (readValue depth) (('\"' :: text).length + 1) ('\"' :: text)).map
        fun (members, rest) => (.object members, rest) := by
  simp [readValue, skipBlanks, isBlank]

theorem spells_object {members : List (String × Json)}
    (each : ∀ member ∈ members, Spells member.2.compact (ofJson member.2)) :
    Spells (Json.object members).compact (ofJson (.object members)) := by
  intro depth rest deep _
  cases depth with
  | zero => cases members <;> simp [compact] at deep
  | succ depth =>
      cases members with
      | nil => simp [compact, readValue, skipBlanks, isBlank, ofJson, ofMembers]
      | cons member members =>
          obtain ⟨name, value⟩ := member
          simp only [compact, List.length_cons, List.length_append, List.length_nil] at deep
          have reads : ∀ member ∈ (name, value) :: members, ∀ rest, EndsNumber rest →
              readValue depth (member.2.compact ++ rest) = some (ofJson member.2, rest) := by
            intro member inside rest ends
            refine each member inside depth rest ?_ ends
            cases inside with
            | head =>
                dsimp only
                omega
            | tail _ later =>
                have shorter := compact_length_lt_of_mem_members later
                omega
          have enough : members.length <
              (stringText name ++ ':' ::
                (value.compact ++ (compactMembers members ++ '\x7d' :: rest))).length + 1 := by
            have count := length_le_compactMembers members
            simp only [List.length_append, List.length_cons]
            omega
          have split : (Json.object ((name, value) :: members)).compact ++ rest =
              '\x7b' :: (stringText name ++ ':' ::
                (value.compact ++ (compactMembers members ++ '\x7d' :: rest))) := by
            simp [compact]
          have read := readMembers_compact rest enough reads
          rw [split]
          rw [stringText_append] at read ⊢
          rw [readValue_object, read, ofJson]
          rfl

theorem spells_compact {json : Json} (exact : IsExact json) :
    Spells json.compact (ofJson json) := by
  induction exact with
  | null =>
      intro depth rest deep _
      cases depth with
      | zero => contradiction
      | succ depth => simp [compact, readValue, skipBlanks, isBlank, ofJson]
  | bool value =>
      intro depth rest deep _
      cases depth with
      | zero => cases value <;> contradiction
      | succ depth => cases value <;> simp [compact, readValue, skipBlanks, isBlank, ofJson]
  | integer value => exact spells_integer value
  | string text => exact spells_string text
  | array items exact ih => exact spells_array exact ih
  | object members _ ih => exact spells_object ih

theorem read?_compact {json : Json} (exact : IsExact json) :
    read? json.compact = some (ofJson json) := by
  have read := spells_compact exact (json.compact.length + 1) [] (Nat.le_succ _) endsNumber_nil
  rw [List.append_nil] at read
  rw [read?, read]
  rfl

end Document

end ChatAssistant.Json
