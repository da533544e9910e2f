import ChatAssistant.Text.Blank
import Mathlib.Data.List.DropRight
import Mathlib.Data.List.TakeWhile

/-!
Text without the white space around it: what is taken away is white space, and what is left begins
and ends with something else.
-/

namespace ChatAssistant.Text

theorem exists_trim_split (text : List Char) :
    ∃ front back, text = front ++ trim text ++ back ∧
      (∀ char ∈ front, isBlank char = true) ∧ ∀ char ∈ back, isBlank char = true := by
  let back := ((text.dropWhile isBlank).reverse.takeWhile isBlank).reverse
  have tail : trim text ++ back = text.dropWhile isBlank := by
    rw [trim, ← List.reverse_append, List.takeWhile_append_dropWhile, List.reverse_reverse]
  refine ⟨text.takeWhile isBlank, back, ?_, ?_, ?_⟩
  · rw [List.append_assoc, tail, List.takeWhile_append_dropWhile]
  · intro char member
    exact List.mem_takeWhile_imp member
  · intro char member
    exact List.mem_takeWhile_imp (List.mem_reverse.mp member)

theorem trim_eq_nil_iff (text : List Char) :
    trim text = [] ↔ ∀ char ∈ text, isBlank char = true := by
  constructor
  · intro empty
    obtain ⟨front, back, split, blankFront, blankBack⟩ := exists_trim_split text
    rw [empty, List.append_nil] at split
    rw [split]
    exact List.forall_mem_append.mpr ⟨blankFront, blankBack⟩
  · intro blank
    have none : text.dropWhile isBlank = [] := List.dropWhile_eq_nil_iff.mpr blank
    rw [trim, none]
    rfl

theorem head?_trim_of_not_blank {first : Char} (notBlank : isBlank first = false)
    (text : List Char) : (trim (first :: text)).head? = some first := by
  obtain ⟨front, back, split, blankFront, blankBack⟩ := exists_trim_split (first :: text)
  have noFront : front = [] := by
    cases front with
    | nil => rfl
    | cons char front =>
        have same : first = char := List.head_eq_of_cons_eq split
        rw [same, blankFront char List.mem_cons_self] at notBlank
        cases notBlank
  rw [noFront, List.nil_append] at split
  cases kept : trim (first :: text) with
  | nil =>
      rw [kept, List.nil_append] at split
      rw [blankBack first (split ▸ List.mem_cons_self)] at notBlank
      cases notBlank
  | cons char rest =>
      rw [kept] at split
      rw [List.head_eq_of_cons_eq split]
      rfl

theorem dropWhile_of_not_blank {text : List Char}
    (visible : ∀ first ∈ text.head?, isBlank first = false) : text.dropWhile isBlank = text := by
  cases text with
  | nil => rfl
  | cons first text =>
      rw [List.dropWhile_cons_of_neg]
      rw [visible first rfl]
      exact Bool.false_ne_true

theorem dropWhile_append_of_not_blank (lead : List Char) {text : List Char}
    (visible : ∀ first ∈ text.head?, isBlank first = false) :
    (lead ++ text).dropWhile isBlank = lead.dropWhile isBlank ++ text := by
  induction lead with
  | nil => exact dropWhile_of_not_blank visible
  | cons char lead ih =>
      rw [List.cons_append, List.dropWhile_cons, List.dropWhile_cons]
      split
      · exact ih
      · rfl

theorem trim_trim (text : List Char) : trim (trim text) = trim text := by
  cases kept : text.dropWhile isBlank with
  | nil =>
      have empty : trim text = [] := by
        rw [trim, kept]
        rfl
      rw [empty]
      rfl
  | cons first rest =>
      have visible : isBlank first = false := by
        have head := List.head?_dropWhile_not isBlank text
        rw [kept] at head
        simpa using head
      have last : ∀ char ∈ [first].head?, isBlank char = false := by
        rintro char ⟨⟩
        exact visible
      have shape : trim text = first :: (rest.reverse.dropWhile isBlank).reverse := by
        rw [trim, kept, List.reverse_cons, dropWhile_append_of_not_blank _ last,
          List.reverse_append]
        rfl
      have front : ∀ char ∈ (first :: (rest.reverse.dropWhile isBlank).reverse).head?,
          isBlank char = false := by
        rintro char ⟨⟩
        exact visible
      rw [shape, trim, dropWhile_of_not_blank front, List.reverse_cons, List.reverse_reverse,
        dropWhile_append_of_not_blank _ last, List.dropWhile_idempotent, List.reverse_append]
      rfl

theorem trim_append (lead : List Char) {text : List Char} (nonempty : text ≠ [])
    (first : ∀ char ∈ text.head?, isBlank char = false)
    (last : ∀ char ∈ text.getLast?, isBlank char = false) :
    trim (lead ++ text) = lead.dropWhile isBlank ++ text := by
  have ends : ∀ char ∈ (lead.dropWhile isBlank ++ text).reverse.head?, isBlank char = false := by
    rw [List.getLast?_eq_some_getLast nonempty] at last
    rw [List.head?_reverse, List.getLast?_append, List.getLast?_eq_some_getLast nonempty,
      Option.some_or]
    exact last
  rw [trim, dropWhile_append_of_not_blank lead first, dropWhile_of_not_blank ends,
    List.reverse_reverse]

theorem forall_mem_trim_iff {P : Char → Prop} (blank : ∀ char, isBlank char = true → P char)
    (text : List Char) : (∀ char ∈ trim text, P char) ↔ ∀ char ∈ text, P char := by
  obtain ⟨front, back, split, blankFront, blankBack⟩ := exists_trim_split text
  have outside : (∀ char ∈ front, P char) ∧ ∀ char ∈ back, P char :=
    ⟨fun char member => blank char (blankFront char member),
      fun char member => blank char (blankBack char member)⟩
  constructor
  · intro held
    rw [split]
    exact List.forall_mem_append.mpr ⟨List.forall_mem_append.mpr ⟨outside.1, held⟩, outside.2⟩
  · intro held char member
    have inside : char ∈ front ++ trim text ++ back :=
      List.mem_append_left _ (List.mem_append_right _ member)
    rw [← split] at inside
    exact held char inside

end ChatAssistant.Text
