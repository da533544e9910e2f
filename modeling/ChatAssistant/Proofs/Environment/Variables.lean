import ChatAssistant.Environment.Assignment

/-!
The variables of an environment behind assignments. A variable that holds a text keeps it, and
another one takes the first value it is given.
-/

namespace ChatAssistant.Environment

theorem lookup_filter_ne (entries : List (String × Held)) {name other : String}
    (apart : other ≠ name) :
    (entries.filter (·.1 ≠ name)).lookup other = entries.lookup other := by
  induction entries with
  | nil => rfl
  | cons entry entries ih =>
      obtain ⟨first, held⟩ := entry
      by_cases same : first = name
      · have skipped : (other == first) = false := beq_false_of_ne (same ▸ apart)
        rw [List.filter_cons_of_neg (by simpa using same), ih, List.lookup_cons, skipped]
      · rw [List.filter_cons_of_pos (by simpa using same), List.lookup_cons, List.lookup_cons, ih]

theorem lookup_filter_self (entries : List (String × Held)) (name : String) :
    (entries.filter (·.1 ≠ name)).lookup name = none := by
  rw [List.lookup_eq_none_iff]
  intro entry member
  have other : entry.1 ≠ name := of_decide_eq_true (List.mem_filter.mp member).2
  exact bne_iff_ne.mpr (Ne.symm other)

theorem held?_set_self (environment : Environment) (name value : String) :
    (environment.set name value).held? name = some (.text value) := by
  rw [held?, set, List.lookup_append, lookup_filter_self, Option.none_or, List.lookup_cons,
    beq_self_eq_true]

theorem held?_set_of_ne (environment : Environment) {name other : String} (value : String)
    (apart : other ≠ name) :
    (environment.set name value).held? other = environment.held? other := by
  have last : [(name, Held.text value)].lookup other = none := by
    rw [List.lookup_cons, beq_false_of_ne apart]
    rfl
  rw [held?, held?, set, List.lookup_append, last, Option.or_none, lookup_filter_ne _ apart]

theorem value?_congr {before after : Environment} {name : String}
    (same : after.held? name = before.held? name) : after.value? name = before.value? name := by
  rw [value?, value?, same]

section Add

variable {environment next : Environment} {name value : String}

theorem add_of_held (held : environment.value? name ≠ none) :
    environment.add name value = .ok environment := by
  obtain ⟨text, held⟩ := Option.ne_none_iff_exists'.mp held
  rw [add, held]

theorem add_of_absent (absent : environment.value? name = none) (fits : '\x00' ∉ value.toList) :
    environment.add name value = .ok (environment.set name value) := by
  rw [add, absent]
  exact if_neg (mt List.contains_iff_mem.mp fits)

theorem add_of_unfit (absent : environment.value? name = none) (unfit : '\x00' ∈ value.toList) :
    environment.add name value = .error ⟨name, value⟩ := by
  rw [add, absent]
  exact if_pos (List.contains_iff_mem.mpr unfit)

theorem add_cases (environment : Environment) (name value : String) :
    (environment.value? name ≠ none ∧ environment.add name value = .ok environment) ∨
    (environment.value? name = none ∧ '\x00' ∉ value.toList ∧
      environment.add name value = .ok (environment.set name value)) ∨
    (environment.value? name = none ∧ '\x00' ∈ value.toList ∧
      environment.add name value = .error ⟨name, value⟩) := by
  by_cases absent : environment.value? name = none
  · by_cases unfit : '\x00' ∈ value.toList
    · exact Or.inr (Or.inr ⟨absent, unfit, add_of_unfit absent unfit⟩)
    · exact Or.inr (Or.inl ⟨absent, unfit, add_of_absent absent unfit⟩)
  · exact Or.inl ⟨absent, add_of_held absent⟩

theorem held?_of_add_ne {other : String} (added : environment.add name value = .ok next)
    (apart : other ≠ name) : next.held? other = environment.held? other := by
  rcases add_cases environment name value with ⟨_, same⟩ | ⟨_, _, set⟩ | ⟨_, _, fails⟩
  · rw [same] at added; cases added; rfl
  · rw [set] at added; cases added; exact held?_set_of_ne environment value apart
  · rw [fails] at added; cases added

theorem held?_of_add_held {other : String} (added : environment.add name value = .ok next)
    (held : environment.value? other ≠ none) : next.held? other = environment.held? other := by
  by_cases apart : other = name
  · subst apart
    rw [add_of_held held] at added
    cases added
    rfl
  · exact held?_of_add_ne added apart

theorem value?_of_add_absent (added : environment.add name value = .ok next)
    (absent : environment.value? name = none) : next.value? name = some value := by
  rcases add_cases environment name value with ⟨held, _⟩ | ⟨_, _, set⟩ | ⟨_, _, fails⟩
  · exact absurd absent held
  · rw [set] at added
    cases added
    rw [value?, held?_set_self]
    rfl
  · rw [fails] at added; cases added

theorem value?_of_add_ne_none (added : environment.add name value = .ok next) :
    next.value? name ≠ none := by
  by_cases absent : environment.value? name = none
  · rw [value?_of_add_absent added absent]
    exact Option.some_ne_none value
  · rw [value?_congr (held?_of_add_held added absent)]
    exact absent

end Add

/-- The first of some assignments to a variable gives it a value. Other variables in the value are
taken as they are by then. -/
def Gives (environment : Environment) (assignments : List Assignment) (name value : String) :
    Prop :=
  ∃ before parts behind earlier, assignments = before ++ ⟨name, parts⟩ :: behind ∧
    (∀ assignment ∈ before, assignment.name ≠ name) ∧ environment.addAll before = .ok earlier ∧
    value = Assignment.text earlier.value? ⟨name, parts⟩

theorem Gives.append {environment : Environment} {assignments : List Assignment}
    {name value : String} (gives : environment.Gives assignments name value)
    (more : List Assignment) : environment.Gives (assignments ++ more) name value := by
  obtain ⟨before, parts, behind, earlier, rfl, apart, reached, given⟩ := gives
  refine ⟨before, parts, behind ++ more, earlier, ?_, apart, reached, given⟩
  rw [List.append_assoc, List.cons_append]

section AddAll

variable {environment later : Environment} {assignments : List Assignment} {name value : String}

theorem addAll_cons_eq_ok_iff (environment : Environment) (assignment : Assignment)
    (assignments : List Assignment) (later : Environment) :
    environment.addAll (assignment :: assignments) = .ok later ↔
      ∃ next, environment.add assignment.name (assignment.text environment.value?) = .ok next ∧
        next.addAll assignments = .ok later := by
  rw [addAll]
  cases environment.add assignment.name (assignment.text environment.value?) with
  | error fault => exact iff_of_false (by rintro ⟨⟩) (by rintro ⟨_, ⟨⟩, _⟩)
  | ok next =>
      constructor
      · exact fun added => ⟨next, rfl, added⟩
      · rintro ⟨_, ⟨⟩, added⟩
        exact added

theorem not_gives_nil (environment : Environment) (name value : String) :
    ¬environment.Gives [] name value := by
  rintro ⟨before, parts, behind, earlier, split, _⟩
  exact List.append_ne_nil_of_right_ne_nil before (List.cons_ne_nil _ behind) split.symm

theorem gives_cons_iff (environment : Environment) (assignment : Assignment)
    (assignments : List Assignment) (name value : String) :
    environment.Gives (assignment :: assignments) name value ↔
      (assignment.name = name ∧ value = assignment.text environment.value?) ∨
      (assignment.name ≠ name ∧
        ∃ next, environment.add assignment.name (assignment.text environment.value?) = .ok next ∧
          next.Gives assignments name value) := by
  constructor
  · rintro ⟨before, parts, behind, earlier, split, apart, reached, given⟩
    cases before with
    | nil =>
        cases split
        cases reached
        exact Or.inl ⟨rfl, given⟩
    | cons first before =>
        obtain ⟨rfl, rfl⟩ := List.cons.inj split
        rw [List.forall_mem_cons] at apart
        obtain ⟨next, added, reached⟩ := (addAll_cons_eq_ok_iff _ _ _ _).mp reached
        exact Or.inr ⟨apart.1, next, added, before, parts, behind, earlier, rfl, apart.2, reached,
          given⟩
  · rintro (⟨rfl, given⟩ | ⟨apart, next, added, before, parts, behind, earlier, rfl, others,
      reached, given⟩)
    · exact ⟨[], assignment.value, assignments, environment, rfl, List.forall_mem_nil _, rfl, given⟩
    · refine ⟨assignment :: before, parts, behind, earlier, rfl, ?_, ?_, given⟩
      · exact List.forall_mem_cons.mpr ⟨apart, others⟩
      · exact (addAll_cons_eq_ok_iff _ _ _ _).mpr ⟨next, added, reached⟩

theorem held?_addAll_of_held (added : environment.addAll assignments = .ok later)
    (held : environment.value? name ≠ none) : later.held? name = environment.held? name := by
  induction assignments generalizing environment with
  | nil => cases added; rfl
  | cons assignment assignments ih =>
      obtain ⟨next, first, rest⟩ := (addAll_cons_eq_ok_iff _ _ _ _).mp added
      have kept := held?_of_add_held first held
      rw [← value?_congr kept] at held
      exact (ih rest held).trans kept

theorem held?_addAll_of_absent (added : environment.addAll assignments = .ok later)
    (absent : later.value? name = none) : later.held? name = environment.held? name := by
  induction assignments generalizing environment with
  | nil => cases added; rfl
  | cons assignment assignments ih =>
      obtain ⟨next, first, rest⟩ := (addAll_cons_eq_ok_iff _ _ _ _).mp added
      have apart : name ≠ assignment.name := by
        rintro rfl
        have held := value?_of_add_ne_none first
        rw [← value?_congr (held?_addAll_of_held rest held)] at held
        exact held absent
      exact (ih rest).trans (held?_of_add_ne first apart)

theorem value?_addAll_iff (added : environment.addAll assignments = .ok later)
    (absent : environment.value? name = none) (value : String) :
    later.value? name = some value ↔ environment.Gives assignments name value := by
  induction assignments generalizing environment with
  | nil =>
      cases added
      refine iff_of_false ?_ (not_gives_nil _ name value)
      rw [absent]
      exact (Option.some_ne_none value).symm
  | cons assignment assignments ih =>
      obtain ⟨next, first, rest⟩ := (addAll_cons_eq_ok_iff _ _ _ _).mp added
      rw [gives_cons_iff]
      by_cases same : assignment.name = name
      · subst same
        have given := value?_of_add_absent first absent
        have kept := held?_addAll_of_held rest (value?_of_add_ne_none first)
        rw [value?_congr kept, given, Option.some.injEq, eq_comm]
        simp only [true_and, ne_eq, not_true_eq_false, false_and, or_false]
      · have kept := held?_of_add_ne first (Ne.symm same)
        rw [← value?_congr kept] at absent
        rw [ih rest absent]
        simp only [same, false_and, ne_eq, not_false_eq_true, true_and, false_or, first,
          Except.ok.injEq, exists_eq_left']

/-- Assignments fail at the first value that a variable is to take and that has a zero character. -/
theorem addAll_eq_error_iff (environment : Environment) (assignments : List Assignment)
    (fault : Fault) :
    environment.addAll assignments = .error fault ↔
      environment.value? fault.name = none ∧
        environment.Gives assignments fault.name fault.value ∧ '\x00' ∈ fault.value.toList := by
  induction assignments generalizing environment with
  | nil =>
      refine iff_of_false (by rintro ⟨⟩) ?_
      rintro ⟨_, given, _⟩
      exact not_gives_nil environment _ _ given
  | cons assignment assignments ih =>
      rw [gives_cons_iff, addAll]
      cases first : environment.add assignment.name (assignment.text environment.value?) with
      | ok next =>
          change next.addAll assignments = .error fault ↔ _
          rw [ih next]
          constructor
          · rintro ⟨absent, given, unfit⟩
            have apart : assignment.name ≠ fault.name := by
              intro same
              rw [← same] at absent
              exact value?_of_add_ne_none first absent
            rw [value?_congr (held?_of_add_ne first (Ne.symm apart))] at absent
            exact ⟨absent, Or.inr ⟨apart, next, rfl, given⟩, unfit⟩
          · rintro ⟨absent, ⟨same, value⟩ | ⟨apart, _, ⟨⟩, given⟩, unfit⟩
            · -- The variable would have been set to this very value.
              rw [← same] at absent
              rw [value] at unfit
              rw [add_of_unfit absent unfit] at first
              cases first
            · rw [← value?_congr (held?_of_add_ne first (Ne.symm apart))] at absent
              exact ⟨absent, given, unfit⟩
      | error found =>
          have reason := add_cases environment assignment.name (assignment.text environment.value?)
          rw [first] at reason
          obtain ⟨_, ⟨⟩⟩ | ⟨_, _, ⟨⟩⟩ | ⟨absent, unfit, ⟨⟩⟩ := reason
          constructor
          · rintro ⟨⟩
            exact ⟨absent, Or.inl ⟨rfl, rfl⟩, unfit⟩
          · rintro ⟨_, ⟨same, value⟩ | ⟨_, _, ⟨⟩, _⟩, _⟩
            obtain ⟨name, value'⟩ := fault
            cases same
            cases value
            rfl

end AddAll

end ChatAssistant.Environment
