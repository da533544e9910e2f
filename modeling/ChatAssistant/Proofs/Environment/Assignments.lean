import ChatAssistant.Environment.Assignment
import ChatAssistant.Proofs.Environment.Value
import ChatAssistant.Proofs.Text.Blank
import Mathlib.Data.List.TakeWhile

/-!
What a line of an environment file says, and what the lines of a file assign up to the first bad
one.
-/

namespace ChatAssistant.Environment

open Text

def IsName (name : List Char) : Prop :=
  ∃ first rest, name = first :: rest ∧ (first.isAlpha = true ∨ first = '_') ∧
    ∀ char ∈ rest, char.isAlphanum = true ∨ char = '_' ∨ char = '.'

def IsGap (text : List Char) : Prop :=
  ∀ char ∈ text, isBlank char = true

def NamesValue (text : List Char) (assignment : Assignment) : Prop :=
  ∃ name before after value, text = name ++ (before ++ '=' :: (after ++ value)) ∧
    IsName name ∧ IsGap before ∧ IsGap after ∧ (∀ first ∈ value.head?, isBlank first = false) ∧
    IsValue value assignment.value ∧ assignment.name = String.ofList name

/-- The word `export` and a gap may stand before an assignment. -/
def Assigns (text : List Char) (assignment : Assignment) : Prop :=
  NamesValue text assignment ∨
    ∃ gap rest, text = exportWord ++ (gap ++ rest) ∧ gap ≠ [] ∧ IsGap gap ∧
      NamesValue rest assignment

/-- A line without white space around it says nothing, if it is empty or a comment, or makes an
assignment. -/
inductive Says : List Char → Option Assignment → Prop where
  | nothing {text : List Char} (empty : text = [] ∨ text.head? = some '#') : Says text none
  | assignment {text : List Char} {assignment : Assignment} (assigns : Assigns text assignment) :
      Says text (some assignment)

def Line.Says (line : Line) (said : Option Assignment) : Prop :=
  ∃ text, line = .complete text ∧ Environment.Says (trim text) said

/-- What lines assign, one after another, up to the first that says nothing that can be read. -/
inductive Tells : List Line → List Assignment → Prop where
  | done : Tells [] []
  | bad {line : Line} {lines : List Line} (unread : ∀ said, ¬line.Says said) :
      Tells (line :: lines) []
  | nothing {line : Line} {lines : List Line} {assignments : List Assignment}
      (told : line.Says none) (rest : Tells lines assignments) : Tells (line :: lines) assignments
  | assignment {line : Line} {lines : List Line} {assignment : Assignment}
      {assignments : List Assignment} (told : line.Says (some assignment))
      (rest : Tells lines assignments) : Tells (line :: lines) (assignment :: assignments)

section Names

theorem startsName_iff (char : Char) :
    startsName char = true ↔ char.isAlpha = true ∨ char = '_' := by
  rw [startsName, Bool.or_eq_true, decide_eq_true_eq]

theorem continuesName_iff (char : Char) :
    continuesName char = true ↔ char.isAlphanum = true ∨ char = '_' ∨ char = '.' := by
  rw [continuesName, Bool.or_eq_true, Bool.or_eq_true, decide_eq_true_eq, decide_eq_true_eq,
    or_assoc]

theorem continuesName_of_startsName {char : Char} (starts : startsName char = true) :
    continuesName char = true := by
  rw [startsName_iff] at starts
  rw [continuesName_iff]
  rcases starts with letter | underscore
  · left
    rw [Char.isAlphanum, letter, Bool.true_or]
  · exact Or.inr (Or.inl underscore)

theorem toNat_of_isAlphanum {char : Char} (inside : char.isAlphanum = true) :
    48 ≤ char.toNat ∧ char.toNat ≤ 122 := by
  delta Char.isAlphanum Char.isAlpha Char.isUpper Char.isLower Char.isDigit at inside
  simp only [Bool.or_eq_true, Bool.and_eq_true, decide_eq_true_eq, UInt32.le_iff_toNat_le,
    ge_iff_le] at inside
  change (65 ≤ char.toNat ∧ char.toNat ≤ 90 ∨ 97 ≤ char.toNat ∧ char.toNat ≤ 122) ∨
    48 ≤ char.toNat ∧ char.toNat ≤ 57 at inside
  omega

theorem isBlank_of_continuesName {char : Char} (inside : continuesName char = true) :
    isBlank char = false := by
  rw [continuesName_iff] at inside
  rcases inside with inside | rfl | rfl
  · obtain ⟨low, high⟩ := toNat_of_isAlphanum inside
    simp only [isBlank, CodePoints.has, blankCodePoints, CodePoints.covers, Bool.or_false,
      Bool.if_false_left, Bool.and_eq_false_imp, Bool.not_eq_eq_eq_not, Bool.not_true,
      decide_eq_false_iff_not, not_lt, Bool.or_eq_false_iff, not_le]
    omega
  · rfl
  · rfl

theorem continuesName_of_isBlank {char : Char} (blank : isBlank char = true) :
    continuesName char = false := by
  rw [Bool.eq_false_iff]
  intro inside
  rw [isBlank_of_continuesName inside] at blank
  cases blank

theorem takeWhile_append_of_stop {p : Char → Bool} {inside rest : List Char}
    (all : ∀ char ∈ inside, p char = true) (stop : ∀ first ∈ rest.head?, p first = false) :
    (inside ++ rest).takeWhile p = inside ∧ (inside ++ rest).dropWhile p = rest := by
  rw [List.takeWhile_append_of_pos all, List.dropWhile_append_of_pos all]
  cases rest with
  | nil => exact ⟨List.append_nil inside, rfl⟩
  | cons first rest =>
      have stops : ¬p first = true := by rw [stop first rfl]; exact Bool.false_ne_true
      rw [List.takeWhile_cons_of_neg stops, List.dropWhile_cons_of_neg stops]
      exact ⟨List.append_nil inside, rfl⟩

theorem of_head?_dropWhile (p : Char → Bool) (text : List Char) :
    ∀ first ∈ (text.dropWhile p).head?, p first = false := by
  intro first isFirst
  have stops := List.head?_dropWhile_not p text
  rw [Option.mem_def.mp isFirst] at stops
  exact stops

theorem isName_iff (name : List Char) :
    IsName name ↔ ∃ first rest, name = first :: rest ∧ startsName first = true ∧
      ∀ char ∈ rest, continuesName char = true := by
  simp only [IsName, startsName_iff, continuesName_iff]

theorem readName?_eq_some_iff (text name rest : List Char) :
    readName? text = some (name, rest) ↔
      ∃ gap, text = name ++ (gap ++ rest) ∧ IsName name ∧ IsGap gap ∧
        (∀ first ∈ rest.head?, isBlank first = false) ∧
        ∀ first ∈ (gap ++ rest).head?, continuesName first = false := by
  constructor
  · intro read
    cases text with
    | nil => cases read
    | cons first text =>
        rw [readName?] at read
        split at read
        · rename_i starts
          cases read
          refine ⟨(text.dropWhile continuesName).takeWhile isBlank, ?_, ?_, ?_, ?_, ?_⟩
          · rw [List.takeWhile_append_dropWhile, List.cons_append,
              List.takeWhile_append_dropWhile]
          · exact (isName_iff _).mpr ⟨first, _, rfl, starts, fun _ => List.mem_takeWhile_imp⟩
          · exact fun _ => List.mem_takeWhile_imp
          · exact of_head?_dropWhile isBlank _
          · rw [List.takeWhile_append_dropWhile]
            exact of_head?_dropWhile continuesName text
        · cases read
  · rintro ⟨gap, rfl, isName, isGap, visible, ends⟩
    obtain ⟨first, inside, rfl, starts, continues⟩ := (isName_iff _).mp isName
    obtain ⟨taken, dropped⟩ := takeWhile_append_of_stop continues ends
    obtain ⟨_, behind⟩ := takeWhile_append_of_stop isGap visible
    rw [List.cons_append, readName?, if_pos starts, taken, dropped, behind]

end Names

section Targets

theorem readEquals?_eq_some_iff (text value : List Char) :
    readEquals? text = some value ↔ text = '=' :: value := by
  constructor
  · intro read
    unfold readEquals? at read
    split at read
    · cases read; rfl
    · cases read
  · rintro rfl
    rfl

theorem readName?_equals_iff (text name value : List Char) :
    readName? text = some (name, '=' :: value) ↔
      ∃ gap, text = name ++ (gap ++ '=' :: value) ∧ IsName name ∧ IsGap gap := by
  rw [readName?_eq_some_iff]
  constructor
  · rintro ⟨gap, split, isName, isGap, _⟩
    exact ⟨gap, split, isName, isGap⟩
  · rintro ⟨gap, split, isName, isGap⟩
    refine ⟨gap, split, isName, isGap, ?_, ?_⟩
    · rintro first ⟨⟩
      rfl
    · cases gap with
      | nil => rintro first ⟨⟩; rfl
      | cons blank gap =>
          rintro first ⟨⟩
          exact continuesName_of_isBlank (isGap _ List.mem_cons_self)

theorem isName_exportWord : IsName exportWord := by
  have continues : ['x', 'p', 'o', 'r', 't'].all continuesName = true := by decide
  refine ⟨'e', _, rfl, by decide, fun char member => ?_⟩
  exact (continuesName_iff char).mp (List.all_eq_true.mp continues char member)

/-- Where another name follows upon the word `export`, there is a gap between them. -/
theorem readName?_exportWord_iff {text rest : List Char} {name behind : List Char}
    (next : readName? rest = some (name, behind)) :
    readName? text = some (exportWord, rest) ↔
      ∃ gap, text = exportWord ++ (gap ++ rest) ∧ gap ≠ [] ∧ IsGap gap := by
  obtain ⟨_, split, isName, _⟩ := (readName?_eq_some_iff rest name behind).mp next
  obtain ⟨first, inside, rfl, starts, _⟩ := (isName_iff name).mp isName
  subst split
  have continues := continuesName_of_startsName starts
  rw [readName?_eq_some_iff]
  constructor
  · rintro ⟨gap, split, _, isGap, _, ends⟩
    refine ⟨gap, split, ?_, isGap⟩
    rintro rfl
    rw [ends first rfl] at continues
    cases continues
  · rintro ⟨gap, split, nonempty, isGap⟩
    refine ⟨gap, split, isName_exportWord, isGap, ?_, ?_⟩
    · rintro other ⟨⟩
      exact isBlank_of_continuesName continues
    · cases gap with
      | nil => exact absurd rfl nonempty
      | cons blank gap =>
          rintro other ⟨⟩
          exact continuesName_of_isBlank (isGap _ List.mem_cons_self)

theorem readTarget?_eq_some_iff (text name value : List Char) :
    readTarget? text = some (name, value) ↔
      readName? text = some (name, '=' :: value) ∨
        ∃ rest, readName? text = some (exportWord, rest) ∧
          readName? rest = some (name, '=' :: value) := by
  constructor
  · intro read
    rw [readTarget?] at read
    obtain ⟨⟨word, rest⟩, first, read⟩ := Option.bind_eq_some_iff.mp read
    dsimp only at read
    split at read
    · rename_i found equals
      cases read
      rw [(readEquals?_eq_some_iff rest _).mp equals] at first
      exact Or.inl first
    · split at read
      · rename_i isExport
        obtain ⟨⟨other, behind⟩, second, read⟩ := Option.bind_eq_some_iff.mp read
        obtain ⟨found, equals, same⟩ := Option.bind_eq_some_iff.mp read
        cases same
        rw [(readEquals?_eq_some_iff behind _).mp equals] at second
        exact Or.inr ⟨rest, isExport ▸ first, second⟩
      · cases read
  · rintro (plain | ⟨rest, exported, target⟩)
    · rw [readTarget?, plain]
      rfl
    · -- A name follows upon the word, so no equals sign does.
      have unequal : readEquals? rest = none := by
        rw [Option.eq_none_iff_forall_ne_some]
        intro value equals
        rw [(readEquals?_eq_some_iff rest value).mp equals] at target
        cases target
      have equals : readEquals? ('=' :: value) = some value := rfl
      simp only [readTarget?, exported, unequal, target, equals, Option.bind_eq_bind,
        Option.bind_some, if_true, Option.pure_def]

end Targets

section Lines

theorem namesValue_iff (text : List Char) (assignment : Assignment) :
    NamesValue text assignment ↔
      ∃ name value, readName? text = some (name, '=' :: value) ∧
        readValue? (value.dropWhile isBlank) = some assignment.value ∧
        assignment.name = String.ofList name := by
  constructor
  · rintro ⟨name, before, after, value, rfl, isName, isBefore, isAfter, visible, isValue, named⟩
    refine ⟨name, after ++ value, ?_, ?_, named⟩
    · exact (readName?_equals_iff _ _ _).mpr ⟨before, rfl, isName, isBefore⟩
    · rw [(takeWhile_append_of_stop isAfter visible).2]
      exact (readValue?_eq_some_iff value _).mpr isValue
  · rintro ⟨name, value, target, read, named⟩
    obtain ⟨before, split, isName, isBefore⟩ := (readName?_equals_iff _ _ _).mp target
    refine ⟨name, before, value.takeWhile isBlank, value.dropWhile isBlank, ?_, isName, isBefore,
      fun _ => List.mem_takeWhile_imp, of_head?_dropWhile isBlank value,
      (readValue?_eq_some_iff _ _).mp read, named⟩
    rw [List.takeWhile_append_dropWhile]
    exact split

theorem assigns_iff (text : List Char) (assignment : Assignment) :
    Assigns text assignment ↔
      ∃ name value, readTarget? text = some (name, value) ∧
        readValue? (value.dropWhile isBlank) = some assignment.value ∧
        assignment.name = String.ofList name := by
  simp only [Assigns, namesValue_iff, readTarget?_eq_some_iff]
  constructor
  · rintro (⟨name, value, target, read⟩ | ⟨gap, rest, split, nonempty, isGap, later⟩)
    · exact ⟨name, value, Or.inl target, read⟩
    · obtain ⟨name, value, target, read⟩ := later
      have exported := (readName?_exportWord_iff target).mpr ⟨gap, split, nonempty, isGap⟩
      exact ⟨name, value, Or.inr ⟨rest, exported, target⟩, read⟩
  · rintro ⟨name, value, plain | ⟨rest, exported, target⟩, read⟩
    · exact Or.inl ⟨name, value, plain, read⟩
    · obtain ⟨gap, split, nonempty, isGap⟩ := (readName?_exportWord_iff target).mp exported
      exact Or.inr ⟨gap, rest, split, nonempty, isGap, name, value, target, read⟩

theorem not_nothing_of_assigns {text : List Char} {assignment : Assignment}
    (assigns : Assigns text assignment) : ¬(text = [] ∨ text.head? = some '#') := by
  obtain ⟨name, value, target, _⟩ := (assigns_iff text assignment).mp assigns
  have read : ∃ word rest, readName? text = some (word, rest) := by
    rcases (readTarget?_eq_some_iff text name value).mp target with plain | ⟨rest, exported, _⟩
    · exact ⟨name, _, plain⟩
    · exact ⟨exportWord, rest, exported⟩
  obtain ⟨word, rest, read⟩ := read
  obtain ⟨gap, rfl, isName, _⟩ := (readName?_eq_some_iff text word rest).mp read
  obtain ⟨first, inside, rfl, starts, _⟩ := (isName_iff word).mp isName
  rintro (empty | comment)
  · cases empty
  · cases comment
    cases starts

theorem assignment?_eq_some_iff (line : List Char) (said : Option Assignment) :
    assignment? line = some said ↔ Says (trim line) said := by
  have nothing_iff : ((trim line).isEmpty || decide ((trim line).head? = some '#')) = true ↔
      trim line = [] ∨ (trim line).head? = some '#' := by
    rw [Bool.or_eq_true, List.isEmpty_iff, decide_eq_true_eq]
  by_cases nothing : trim line = [] ∨ (trim line).head? = some '#'
  · have read : assignment? line = some none := if_pos (nothing_iff.mpr nothing)
    rw [read, Option.some.injEq]
    constructor
    · rintro rfl
      exact .nothing nothing
    · intro told
      cases told with
      | nothing => rfl
      | assignment assigns => exact absurd nothing (not_nothing_of_assigns assigns)
  · have read : assignment? line = (readTarget? (trim line)).bind fun target =>
        (readValue? (target.2.dropWhile isBlank)).bind fun parts =>
          some (some ⟨String.ofList target.1, parts⟩) := if_neg (mt nothing_iff.mp nothing)
    simp only [read, Option.bind_eq_some_iff]
    constructor
    · rintro ⟨⟨name, value⟩, target, parts, found, same⟩
      cases same
      exact .assignment ((assigns_iff _ _).mpr ⟨name, value, target, found, rfl⟩)
    · intro told
      cases told with
      | nothing empty => exact absurd empty nothing
      | @assignment found assigns =>
          obtain ⟨name, value, target, read, named⟩ := (assigns_iff _ _).mp assigns
          exact ⟨(name, value), target, found.value, read, by rw [← named]⟩

theorem Line.says_iff (line : Line) (said : Option Assignment) :
    line.Says said ↔ ∃ text, line = .complete text ∧ assignment? text = some said := by
  simp only [Line.Says, assignment?_eq_some_iff]

theorem Line.isGood_iff (line : Line) : line.isGood = true ↔ ∃ said, line.Says said := by
  simp only [Line.says_iff]
  cases line with
  | bad => exact iff_of_false Bool.false_ne_true (by rintro ⟨_, _, ⟨⟩, _⟩)
  | complete text =>
      rw [Line.isGood, Option.isSome_iff_exists]
      constructor
      · rintro ⟨said, read⟩
        exact ⟨said, text, rfl, read⟩
      · rintro ⟨said, _, ⟨⟩, read⟩
        exact ⟨said, read⟩

theorem assignmentsOf_cons_of_line {line : Line} {said : Option Assignment}
    (told : line.Says said) (lines : List Line) :
    assignmentsOf (line :: lines) = said.toList ++ assignmentsOf lines := by
  obtain ⟨text, rfl, read⟩ := (line.says_iff said).mp told
  rw [assignmentsOf, read]

theorem assignmentsOf_cons_of_bad {line : Line} (unread : ∀ said, ¬line.Says said)
    (lines : List Line) : assignmentsOf (line :: lines) = [] := by
  cases line with
  | bad => rfl
  | complete text =>
      have bad : assignment? text = none := by
        rw [Option.eq_none_iff_forall_ne_some]
        intro said read
        exact unread said ((Line.says_iff _ said).mpr ⟨text, rfl, read⟩)
      rw [assignmentsOf, bad]

theorem tells_iff (lines : List Line) (assignments : List Assignment) :
    Tells lines assignments ↔ assignmentsOf lines = assignments := by
  constructor
  · intro tells
    induction tells with
    | done => rfl
    | bad unread => exact assignmentsOf_cons_of_bad unread _
    | nothing told _ ih => rw [assignmentsOf_cons_of_line told, ih]; rfl
    | assignment told _ ih => rw [assignmentsOf_cons_of_line told, ih]; rfl
  · rintro rfl
    induction lines with
    | nil => exact .done
    | cons line lines ih =>
        by_cases read : ∃ said, line.Says said
        · obtain ⟨said, told⟩ := read
          rw [assignmentsOf_cons_of_line told]
          cases said with
          | none => exact .nothing told ih
          | some assignment => exact .assignment told ih
        · rw [assignmentsOf_cons_of_bad (not_exists.mp read)]
          exact .bad (not_exists.mp read)

theorem assignmentsOf_append {good : List Line} (allGood : ∀ line ∈ good, ∃ said, line.Says said)
    (behind : List Line) :
    assignmentsOf (good ++ behind) = assignmentsOf good ++ assignmentsOf behind := by
  induction good with
  | nil => rfl
  | cons line good ih =>
      rw [List.forall_mem_cons] at allGood
      obtain ⟨said, told⟩ := allGood.1
      rw [List.cons_append, assignmentsOf_cons_of_line told, assignmentsOf_cons_of_line told,
        ih allGood.2, List.append_assoc]

end Lines

end ChatAssistant.Environment
