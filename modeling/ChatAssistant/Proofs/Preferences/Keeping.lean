import ChatAssistant.Preferences
import Mathlib.Algebra.Group.Nat.Even

/-!
Preferences under changes of which any may fail to reach the file: whether the file would give
back the flag that is held.
-/

namespace ChatAssistant

theorem Storage.content?_of_save? {storage saved : Storage} {content : List UInt8}
    (written : storage.save? content = some saved) : saved.content? = some content := by
  cases storage with
  | blocked => cases written
  | missing =>
      cases written
      rfl
  | directory entry => cases entry <;> cases written <;> rfl

namespace Preferences

theorem readFlag_encode (isDark : Bool) :
    readFlag (Text.Utf8.encode (flagText isDark)) = isDark := by
  cases isDark <;> decide +kernel

theorem load_of_save? {storage saved : Storage} {isDark : Bool}
    (written : storage.save? (Text.Utf8.encode (flagText isDark)) = some saved) :
    load saved = ⟨isDark, saved⟩ := by
  unfold load
  rw [Storage.content?_of_save? written, Option.any_some, readFlag_encode]

/-- The file would give back the flag that is held. -/
def IsKept (preferences : Preferences) : Prop :=
  (load preferences.storage).isDark = preferences.isDark

instance (preferences : Preferences) : Decidable preferences.IsKept :=
  inferInstanceAs (Decidable (_ = _))

theorem load_isKept (storage : Storage) : (load storage).IsKept :=
  rfl

inductive Change where
  | set (isDark : Bool)
  | toggle

def Change.aim (isDark : Bool) : Change → Bool
  | .set aimed => aimed
  | .toggle => !isDark

structure Attempt where
  change : Change
  canWrite : Bool

def Attempt.write (attempt : Attempt) : Writer := fun storage content =>
  if attempt.canWrite then storage.save? content else none

def attempt (preferences : Preferences) (attempt : Attempt) : Bool × Preferences :=
  match attempt.change with
  | .set isDark => preferences.set attempt.write isDark
  | .toggle => preferences.toggle attempt.write

theorem attempt_eq_set (preferences : Preferences) (attempt : Attempt) :
    preferences.attempt attempt =
      preferences.set attempt.write (attempt.change.aim preferences.isDark) := by
  unfold Preferences.attempt
  cases attempt.change <;> rfl

theorem attempt_cases (preferences : Preferences) (attempt : Attempt) :
    (attempt.change.aim preferences.isDark = preferences.isDark ∧
      preferences.attempt attempt = (true, preferences)) ∨
    (attempt.change.aim preferences.isDark = !preferences.isDark ∧
      ∃ saved, load saved = ⟨!preferences.isDark, saved⟩ ∧
        preferences.attempt attempt = (true, ⟨!preferences.isDark, saved⟩)) ∨
    (attempt.change.aim preferences.isDark = !preferences.isDark ∧
      preferences.attempt attempt = (false, ⟨!preferences.isDark, preferences.storage⟩)) := by
  rw [attempt_eq_set]
  unfold Preferences.set
  by_cases inPlace : preferences.isDark = attempt.change.aim preferences.isDark
  · rw [if_pos inPlace]
    exact Or.inl ⟨inPlace.symm, rfl⟩
  · have other : attempt.change.aim preferences.isDark = !preferences.isDark :=
      Bool.eq_not.mpr (Ne.symm inPlace)
    rw [if_neg inPlace, other]
    cases written : attempt.write preferences.storage
        (Text.Utf8.encode (flagText (!preferences.isDark))) with
    | none => exact Or.inr (Or.inr ⟨rfl, rfl⟩)
    | some saved =>
        refine Or.inr (Or.inl ⟨rfl, saved, ?_, rfl⟩)
        unfold Attempt.write at written
        split at written
        · exact load_of_save? written
        · cases written

def after (preferences : Preferences) (attempts : List Attempt) : Preferences :=
  attempts.foldl (fun preferences attempt => (preferences.attempt attempt).2) preferences

/-- The number of failures since the flag was last saved. A change that finds the flag in place
saves nothing. -/
def failuresSinceSaved (preferences : Preferences) (failures : Nat) : List Attempt → Nat
  | [] => failures
  | attempt :: attempts =>
      let (accepted, next) := preferences.attempt attempt
      let failures :=
        if accepted then if next.isDark = preferences.isDark then failures else 0
        else failures + 1
      next.failuresSinceSaved failures attempts

private theorem not_isKept_of_failed (preferences : Preferences) :
    (⟨!preferences.isDark, preferences.storage⟩ : Preferences).IsKept ↔ ¬preferences.IsKept := by
  unfold IsKept
  rw [Bool.eq_not]

/-- Each failure since the flag was last saved has turned the flag over once. -/
theorem after_isKept_iff (preferences : Preferences) (failures : Nat)
    (kept : preferences.IsKept ↔ Even failures) (attempts : List Attempt) :
    (preferences.after attempts).IsKept ↔
      Even (preferences.failuresSinceSaved failures attempts) := by
  -- The parity of the failures is the invariant; a change that is saved sets it back to none.
  induction attempts generalizing preferences failures with
  | nil => exact kept
  | cons attempt attempts ih =>
      simp only [after, List.foldl_cons, failuresSinceSaved]
      rcases preferences.attempt_cases attempt with
        ⟨_, inPlace⟩ | ⟨_, saved, loaded, written⟩ | ⟨_, failed⟩
      · simp only [inPlace, if_true]
        exact ih preferences failures kept
      · simp only [written, if_true, Bool.not_eq_self, if_false]
        apply ih
        rw [IsKept, loaded]
        exact iff_of_true rfl Even.zero
      · simp only [failed, Bool.false_eq_true, if_false]
        apply ih
        rw [not_isKept_of_failed, kept, Nat.even_add_one]

/-- A change with which nothing goes wrong leaves the file with the flag that is held exactly if it
turns the flag over, or if an even number of changes has failed since the flag was last saved. -/
theorem attempt_isKept_iff (storage : Storage) (attempts : List Attempt) (attempt : Attempt)
    (accepted : (((load storage).after attempts).attempt attempt).1 = true) :
    (((load storage).after attempts).attempt attempt).2.IsKept ↔
      attempt.change.aim ((load storage).after attempts).isDark =
          !((load storage).after attempts).isDark ∨
        Even ((load storage).failuresSinceSaved 0 attempts) := by
  have kept := (load storage).after_isKept_iff 0
    (iff_of_true (load_isKept storage) Even.zero) attempts
  rcases ((load storage).after attempts).attempt_cases attempt with
    ⟨aimed, inPlace⟩ | ⟨aimed, saved, loaded, written⟩ | ⟨_, failed⟩
  · rw [inPlace, kept, aimed]
    exact (or_iff_right (Bool.eq_not_self _).mp).symm
  · rw [written, IsKept, loaded]
    exact iff_of_true rfl (Or.inl aimed)
  · rw [failed] at accepted
    cases accepted

/-- One change has failed, the next ones find the flag in place, and the last one is saved. -/
theorem attempt_isKept_iff_saved :
    let attempts : List Attempt := [⟨.toggle, false⟩, ⟨.set true, true⟩, ⟨.set true, false⟩]
    let last := ((load .missing).after attempts).attempt ⟨.toggle, true⟩
    last.1 = true ∧ last.2.IsKept := by
  intro attempts last
  have accepted : last.1 = true := by decide +kernel
  have turned : Change.aim ((load .missing).after attempts).isDark .toggle =
      !((load .missing).after attempts).isDark := rfl
  exact ⟨accepted, (attempt_isKept_iff .missing attempts ⟨.toggle, true⟩ accepted).mpr
    (Or.inl turned)⟩

/-- A change that has failed goes well when it is asked for again, and still is not saved. -/
theorem attempt_set_again :
    let preferences := (load .blocked).after [⟨.set true, true⟩]
    (preferences.attempt ⟨.set true, true⟩).1 = true ∧
      ¬(preferences.attempt ⟨.set true, true⟩).2.IsKept := by
  decide +kernel

end Preferences

end ChatAssistant
