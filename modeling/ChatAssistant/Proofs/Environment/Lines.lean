import ChatAssistant.Proofs.Environment.Assignments

/-!
The lines of an environment file. Text behind complete lines does not reach back into them.
-/

namespace ChatAssistant

namespace Environment

open Text

/-- Every line of a file says something, be it nothing at all. -/
def IsGoodText (bytes : List UInt8) : Prop :=
  ∀ line ∈ lines bytes, ∃ said, line.Says said

theorem isGoodFile_iff (bytes : List UInt8) : isGoodFile bytes = true ↔ IsGoodText bytes := by
  rw [isGoodFile, List.all_eq_true]
  simp only [IsGoodText, Line.isGood_iff]

instance (bytes : List UInt8) : Decidable (IsGoodText bytes) :=
  decidable_of_iff _ (isGoodFile_iff bytes)

def EndsLine (bytes : List UInt8) : Prop :=
  ∀ byte ∈ bytes.getLast?, byte = 0x0A

theorem EndsLine.tail {byte : UInt8} {bytes : List UInt8} (ends : EndsLine (byte :: bytes)) :
    EndsLine bytes := by
  intro last isLast
  cases bytes with
  | nil => cases isLast
  | cons next bytes =>
      apply ends
      rw [List.getLast?_cons_cons]
      exact isLast

theorem physicalLines_ne_nil {bytes : List UInt8} (nonempty : bytes ≠ []) :
    physicalLines bytes ≠ [] := by
  cases bytes with
  | nil => exact absurd rfl nonempty
  | cons byte bytes =>
      rw [physicalLines]
      split
      · exact List.cons_ne_nil _ _
      · split <;> exact List.cons_ne_nil _ _

theorem physicalLines_append {bytes : List UInt8} (ends : EndsLine bytes) (more : List UInt8) :
    physicalLines (bytes ++ more) = physicalLines bytes ++ physicalLines more := by
  induction bytes with
  | nil => rfl
  | cons byte bytes ih =>
      have behind := ih ends.tail
      by_cases isEnd : byte = 0x0A
      · rw [List.cons_append, physicalLines, physicalLines, if_pos isEnd, if_pos isEnd, behind,
          List.cons_append]
      · -- The line goes on behind this byte, so it is no byte of the text added.
        have nonempty : bytes ≠ [] := by
          rintro rfl
          exact isEnd (ends byte rfl)
        obtain ⟨line, lines, split⟩ :=
          List.exists_cons_of_ne_nil (physicalLines_ne_nil nonempty)
        rw [List.cons_append, physicalLines, physicalLines, if_neg isEnd, if_neg isEnd, behind,
          split, List.cons_append]
        rfl

/-- A line of the file is bad, ends a line, or leaves one open; what stands behind it has no part
in this. -/
theorem join_cons (before : List Char) (position : Position) (line : List UInt8) :
    (∀ physical, join before position (line :: physical) = [.bad]) ∨
    (∃ text, ∀ physical,
      join before position (line :: physical) = .complete text :: join [] .plain physical) ∨
    (∃ text next, next ≠ .plain ∧ ∀ physical,
      join before position (line :: physical) = join text next physical) := by
  cases read : Utf8.decode? line with
  | none => exact Or.inl fun physical => by rw [join, read]
  | some text =>
      by_cases isComment : startsComment (before ++ text) = true
      · refine Or.inr (Or.inl ⟨[], fun physical => ?_⟩)
        rw [join, read]
        exact if_pos isComment
      · cases isEnd : ending position text with
        | comment uncommented =>
            refine Or.inr (Or.inl ⟨before ++ uncommented, fun physical => ?_⟩)
            simp only [join, read, if_neg isComment, isEnd]
        | «at» next =>
            by_cases isPlain : next = .plain
            · refine Or.inr (Or.inl ⟨withoutLineEnd (before ++ text), fun physical => ?_⟩)
              simp only [join, read, if_neg isComment, isEnd, isPlain]
            · refine Or.inr (Or.inr ⟨before ++ text, next, isPlain, fun physical => ?_⟩)
              simp only [join, read, if_neg isComment, isEnd]

/-- Lines that are all complete are joined without a look at what comes behind them. -/
theorem join_append {before : List Char} {position : Position}
    (fresh : position = .plain → before = []) (physical more : List (List UInt8))
    (complete : Line.bad ∉ join before position physical) :
    join before position (physical ++ more) =
      join before position physical ++ join [] .plain more := by
  induction physical generalizing before position with
  | nil =>
      rw [join] at complete ⊢
      split at complete
      · rename_i isPlain
        rw [if_pos isPlain, fresh isPlain, isPlain]
        rfl
      · exact absurd (List.mem_singleton_self _) complete
  | cons line physical ih =>
      rw [List.cons_append]
      rcases join_cons before position line with
        isBad | ⟨text, isComplete⟩ | ⟨text, next, isOpen, goesOn⟩
      · rw [isBad] at complete
        exact absurd (List.mem_singleton_self _) complete
      · rw [isComplete, List.mem_cons, not_or] at complete
        rw [isComplete, isComplete, ih (fun _ => rfl) complete.2, List.cons_append]
      · rw [goesOn] at complete
        rw [goesOn, goesOn]
        exact ih (fun isPlain => absurd isPlain isOpen) complete

theorem not_prefix_of_endsLine {bytes more : List UInt8} (ends : EndsLine bytes)
    (nonempty : bytes ≠ []) (unmarked : ¬byteOrderMark <+: bytes) :
    ¬byteOrderMark <+: bytes ++ more := by
  intro marked
  rcases List.prefix_or_prefix_of_prefix marked (List.prefix_append bytes more) with
    whole | part
  · exact unmarked whole
  · -- The text would be a part of the mark, in which no line ends.
    have last := ends _ (List.getLast?_eq_some_getLast nonempty)
    have member : (0x0A : UInt8) ∈ byteOrderMark := by
      rw [← last]
      exact part.subset (List.getLast_mem nonempty)
    exact absurd member (by decide)

theorem withoutMark_append {bytes : List UInt8} (ends : EndsLine bytes) (nonempty : bytes ≠ [])
    (more : List UInt8) :
    EndsLine (withoutMark bytes) ∧ withoutMark (bytes ++ more) = withoutMark bytes ++ more := by
  unfold withoutMark
  by_cases marked : byteOrderMark <+: bytes
  · obtain ⟨text, rfl⟩ := marked
    have front (rest : List UInt8) : byteOrderMark.isPrefixOf (byteOrderMark ++ rest) = true :=
      List.isPrefixOf_iff_prefix.mpr (List.prefix_append _ _)
    rw [List.append_assoc, if_pos (front text), if_pos (front (text ++ more)),
      List.drop_left, List.drop_left]
    refine ⟨?_, rfl⟩
    intro last isLast
    apply ends
    rw [List.getLast?_append, Option.mem_def.mp isLast, Option.some_or]
    rfl
  · have unmarked := mt List.isPrefixOf_iff_prefix.mp marked
    have notPrefix : ¬byteOrderMark <+: bytes ++ more := not_prefix_of_endsLine ends nonempty marked
    have unmarkedMore := mt List.isPrefixOf_iff_prefix.mp notPrefix
    rw [if_neg unmarked, if_neg unmarkedMore]
    exact ⟨ends, rfl⟩

/-- Behind a file of good lines that are all ended, further text makes further lines. -/
theorem lines_append {bytes : List UInt8} (ends : EndsLine bytes) (good : IsGoodText bytes)
    (more : List UInt8) : ∃ behind, lines (bytes ++ more) = lines bytes ++ behind := by
  by_cases empty : bytes = []
  · subst empty
    exact ⟨lines more, rfl⟩
  · obtain ⟨endsText, split⟩ := withoutMark_append ends empty more
    have complete : Line.bad ∉ lines bytes := by
      intro bad
      obtain ⟨_, _, same, _⟩ := good _ bad
      cases same
    refine ⟨join [] .plain (physicalLines more), ?_⟩
    unfold lines at complete ⊢
    rw [split, physicalLines_append endsText, join_append (fun _ => rfl) _ _ complete]

/-- What good lines assign, they assign first, whatever is added behind them. -/
theorem assignments_append {bytes : List UInt8} (ends : EndsLine bytes) (good : IsGoodText bytes)
    (more : List UInt8) :
    ∃ behind, assignments (bytes ++ more) = assignments bytes ++ behind := by
  obtain ⟨behind, split⟩ := lines_append ends good more
  refine ⟨assignmentsOf behind, ?_⟩
  unfold assignments
  rw [split, assignmentsOf_append good]

end Environment

end ChatAssistant
