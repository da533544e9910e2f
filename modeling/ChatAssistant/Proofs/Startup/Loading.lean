import ChatAssistant.Proofs.Environment.Lines
import ChatAssistant.Proofs.Environment.Variables
import ChatAssistant.Startup

/-!
What the start of the program makes of the environment: a variable that holds a text does not
change, and what is added is told by the good lines at the beginning of the file that is found.
-/

namespace ChatAssistant.Startup

open Environment (EndsLine IsGoodText assignments)
open Text

theorem defaultAssignment?_comment (text : String) :
    Environment.defaultAssignment? (Environment.comment text).toList = none := by
  have begins : (Environment.comment text).toList = '#' :: ("# ".toList.drop 1 ++ text.toList) := by
    rw [Environment.comment, String.toList_append]
    rfl
  have kept : (trim (Environment.comment text).toList).head? = some '#' := by
    rw [begins]
    exact head?_trim_of_not_blank (by decide) _
  have isComment : ((trim (Environment.comment text).toList).isEmpty ||
      (trim (Environment.comment text).toList).head? = some '#') = true := by
    rw [kept, decide_eq_true rfl, Bool.or_true]
  exact if_pos isComment

theorem defaults_eq_nil : Environment.defaults = [] := by
  have empty : Environment.defaultAssignment? "".toList = none := rfl
  rw [Environment.defaults, List.filterMap_eq_nil_iff, Environment.defaultLines]
  simp only [List.forall_mem_cons, defaultAssignment?_comment, empty, List.not_mem_nil,
    false_implies, implies_true, and_self]

theorem loaded_eq (environment : Environment) (places : List FileEntry) :
    loaded environment places = environment.addAll (ownAssignments places) := by
  rw [loaded, defaults_eq_nil]
  cases environment.addAll (ownAssignments places) with
  | error fault => rfl
  | ok own =>
      change (if _ then _ else _) = _
      split <;> rfl

theorem run_eq_ok_iff (environment : Environment) (places : List FileEntry) (startup : Startup) :
    run environment places = .ok startup ↔
      environment.addAll (ownAssignments places) = .ok startup.environment ∧
        startup.launches = 1 := by
  rw [run, loaded_eq]
  cases environment.addAll (ownAssignments places) with
  | error fault => exact iff_of_false (by rintro ⟨⟩) (by rintro ⟨⟨⟩, _⟩)
  | ok later =>
      obtain ⟨found, launches⟩ := startup
      change Except.ok (launch ⟨later, 0⟩) = Except.ok _ ↔ _
      rw [launch, Except.ok.injEq, Except.ok.injEq, Startup.mk.injEq]
      exact and_congr_right fun _ => eq_comm

theorem run_eq_error_iff (environment : Environment) (places : List FileEntry)
    (fault : Environment.Fault) :
    run environment places = .error fault ↔
      environment.addAll (ownAssignments places) = .error fault := by
  rw [run, loaded_eq]
  cases environment.addAll (ownAssignments places) with
  | error found =>
      change Except.error found = Except.error fault ↔ _
      rw [Except.error.injEq, Except.error.injEq]
  | ok later => exact iff_of_false (by rintro ⟨⟩) (by rintro ⟨⟩)

theorem ownAssignments_of_first {before : List FileEntry}
    (none : ∀ place ∈ before, place.isFile = false) (content : List UInt8)
    (above : List FileEntry) :
    ownAssignments (before ++ .file content :: above) = assignments content := by
  have missed : before.find? FileEntry.isFile = .none :=
    List.find?_eq_none.mpr fun place member => by rw [none place member]; exact Bool.false_ne_true
  rw [ownAssignments, content?, selected?, List.find?_append, missed, Option.none_or]
  rfl

/-- The value that a variable takes from the first file on the way up: that of its first assignment
on the good lines at the beginning. -/
def FirstValue (environment : Environment) (places : List FileEntry) (name value : String) :
    Prop :=
  ∃ before content above told, places = before ++ .file content :: above ∧
    (∀ place ∈ before, place.isFile = false) ∧
    Environment.Tells (Environment.lines content) told ∧ environment.Gives told name value

theorem firstValue_iff (environment : Environment) (places : List FileEntry)
    (name value : String) :
    FirstValue environment places name value ↔
      environment.Gives (ownAssignments places) name value := by
  constructor
  · rintro ⟨before, content, above, told, rfl, none, tells, gives⟩
    rw [ownAssignments_of_first none, assignments, (Environment.tells_iff _ _).mp tells]
    exact gives
  · intro gives
    cases found : selected? places with
    | none =>
        rw [ownAssignments, content?, found] at gives
        exact absurd gives (Environment.not_gives_nil environment name value)
    | some place =>
        obtain ⟨isFile, before, above, split, others⟩ := List.find?_eq_some_iff_append.mp found
        have none : ∀ place ∈ before, place.isFile = false := by
          intro place member
          simpa using others place member
        cases place with
        | file content =>
            rw [split, ownAssignments_of_first none] at gives
            exact ⟨before, content, above, _, split, none,
              (Environment.tells_iff _ _).mpr rfl, gives⟩
        | locked =>
            rw [ownAssignments, content?, found] at gives
            exact absurd gives (Environment.not_gives_nil environment name value)
        | absent | directory => cases isFile

theorem value?_eq_some_iff_of_run {environment : Environment} {places : List FileEntry}
    {startup : Startup} (ran : run environment places = .ok startup) (name value : String) :
    startup.environment.value? name = some value ↔
      environment.value? name = some value ∨
        environment.value? name = none ∧ FirstValue environment places name value := by
  obtain ⟨added, _⟩ := (run_eq_ok_iff _ _ _).mp ran
  by_cases absent : environment.value? name = none
  · rw [firstValue_iff, Environment.value?_addAll_iff added absent, absent]
    simp only [reduceCtorEq, true_and, false_or]
  · rw [Environment.value?_congr (Environment.held?_addAll_of_held added absent)]
    simp only [absent, false_and, or_false]

theorem FirstValue.append {environment : Environment} {before : List FileEntry}
    (none : ∀ place ∈ before, place.isFile = false) {content : List UInt8}
    (ends : EndsLine content) (good : IsGoodText content) (more : List UInt8)
    (above : List FileEntry) {name value : String}
    (first : FirstValue environment (before ++ .file content :: above) name value) :
    FirstValue environment (before ++ .file (content ++ more) :: above) name value := by
  rw [firstValue_iff, ownAssignments_of_first none] at first ⊢
  obtain ⟨behind, split⟩ := Environment.assignments_append ends good more
  rw [split]
  exact first.append behind

theorem held?_eq_of_run {environment : Environment} {places : List FileEntry} {startup : Startup}
    (ran : run environment places = .ok startup) {name : String}
    (untouched : environment.value? name ≠ none ∨
      ∀ value, ¬FirstValue environment places name value) :
    startup.environment.held? name = environment.held? name := by
  obtain ⟨added, _⟩ := (run_eq_ok_iff _ _ _).mp ran
  by_cases absent : environment.value? name = none
  · have valueless := untouched.resolve_left (fun held => held absent)
    apply Environment.held?_addAll_of_absent added
    rw [Option.eq_none_iff_forall_ne_some]
    intro value taken
    rw [Environment.value?_addAll_iff added absent, ← firstValue_iff] at taken
    exact valueless value taken
  · exact Environment.held?_addAll_of_held added absent

theorem value?_run_append {environment : Environment} {before above : List FileEntry}
    {content more : List UInt8} {startup longer : Startup}
    (none : ∀ place ∈ before, place.isFile = false) (ends : EndsLine content)
    (good : IsGoodText content)
    (ran : run environment (before ++ .file content :: above) = .ok startup)
    (ranLonger : run environment (before ++ .file (content ++ more) :: above) = .ok longer)
    {name value : String} (holds : startup.environment.value? name = some value) :
    longer.environment.value? name = some value := by
  rw [value?_eq_some_iff_of_run ran] at holds
  rw [value?_eq_some_iff_of_run ranLonger]
  exact holds.imp_right fun ⟨absent, first⟩ => ⟨absent, first.append none ends good more above⟩

theorem settings_eq_read_of_run {environment : Environment} {places : List FileEntry}
    {startup : Startup} (ran : run environment places = .ok startup)
    {lookup : String → Option String}
    (rule : ∀ name value, lookup name = some value ↔ environment.value? name = some value ∨
      environment.value? name = none ∧ FirstValue environment places name value) :
    startup.settings = Settings.read lookup := by
  have same : lookup = startup.environment.value? := by
    funext name
    apply Option.ext
    intro value
    rw [rule, value?_eq_some_iff_of_run ran]
  rw [settings, same]

theorem run_eq_error_iff_takes_zero (environment : Environment) (places : List FileEntry)
    (fault : Environment.Fault) :
    run environment places = .error fault ↔
      environment.value? fault.name = none ∧
        FirstValue environment places fault.name fault.value ∧ '\x00' ∈ fault.value.toList := by
  rw [run_eq_error_iff, Environment.addAll_eq_error_iff, firstValue_iff]

theorem exists_run_eq_ok_iff (environment : Environment) (places : List FileEntry) :
    (∃ startup, run environment places = .ok startup ∧ startup.launches = 1) ↔
      ∀ name value, environment.value? name = none →
        FirstValue environment places name value → '\x00' ∉ value.toList := by
  constructor
  · rintro ⟨startup, ran, _⟩ name value absent first zero
    have stopped := (run_eq_error_iff_takes_zero environment places ⟨name, value⟩).mpr
      ⟨absent, first, zero⟩
    rw [ran] at stopped
    cases stopped
  · intro fits
    cases ran : run environment places with
    | ok startup => exact ⟨startup, rfl, ((run_eq_ok_iff _ _ _).mp ran).2⟩
    | error fault =>
        obtain ⟨absent, first, zero⟩ := (run_eq_error_iff_takes_zero _ _ fault).mp ran
        exact absurd zero (fits fault.name fault.value absent first)

/-- A variable changes at the start of the program only if it holds no text and takes a value from
the file. That is the value of its first assignment on the good lines at the beginning of the first
file that is found. What is written behind good lines that are all ended takes nothing from the
variables they set. The settings are those of the environment that comes of this, and the one window
is opened in it, unless a value that a variable would take has a zero character; then the program
stops at the first of these. -/
theorem run_adds_first_values (environment : Environment) (places : List FileEntry) :
    (∀ startup, run environment places = .ok startup →
      (∀ name, environment.value? name ≠ none ∨
        (∀ value, ¬FirstValue environment places name value) →
          startup.environment.held? name = environment.held? name) ∧
      (∀ name value, environment.value? name = none →
        (startup.environment.value? name = some value ↔
          FirstValue environment places name value)) ∧
      (∀ before content above, places = before ++ .file content :: above →
        (∀ place ∈ before, place.isFile = false) → EndsLine content → IsGoodText content →
        ∀ more longer,
          run environment (before ++ .file (content ++ more) :: above) = .ok longer →
          ∀ name value, startup.environment.value? name = some value →
            longer.environment.value? name = some value) ∧
      (∀ lookup : String → Option String,
        (∀ name value, lookup name = some value ↔ environment.value? name = some value ∨
          environment.value? name = none ∧ FirstValue environment places name value) →
        startup.settings = Settings.read lookup)) ∧
    ((∃ startup, run environment places = .ok startup ∧ startup.launches = 1) ↔
      ∀ name value, environment.value? name = none →
        FirstValue environment places name value → '\x00' ∉ value.toList) ∧
    (∀ fault, run environment places = .error fault ↔
      environment.value? fault.name = none ∧
        FirstValue environment places fault.name fault.value ∧ '\x00' ∈ fault.value.toList) := by
  refine ⟨fun startup ran => ⟨?_, ?_, ?_, ?_⟩, exists_run_eq_ok_iff environment places,
    run_eq_error_iff_takes_zero environment places⟩
  · exact fun name untouched => held?_eq_of_run ran untouched
  · intro name value absent
    rw [value?_eq_some_iff_of_run ran, absent]
    simp only [reduceCtorEq, true_and, false_or]
  · rintro before content above rfl none ends good more longer ranLonger name value holds
    exact value?_run_append none ends good ran ranLonger holds
  · exact fun lookup rule => settings_eq_read_of_run ran rule

/-- The variable is set to a blank value, a directory stands in the place of the file, and the file
above it goes wrong on its last line. -/
theorem run_adds_first_values_blank :
    let environment : Environment := ⟨[("ROTYCHAT_DATA_DIR", .text " ")]⟩
    let content :=
      "ROTYCHAT_DATA_DIR=a\nHOME=b\nHOME='c'\nXDG_DATA_HOME=\"${HOME}/d\"\n=".toUTF8.toList
    let places := [.directory, .file content]
    ∃ startup, run environment places = .ok startup ∧ startup.launches = 1 ∧
      startup.environment.held? "ROTYCHAT_DATA_DIR" = some (.text " ") ∧
      FirstValue environment places "HOME" "b" ∧
      FirstValue environment places "XDG_DATA_HOME" "b/d" := by
  intro environment content places
  have ran : run environment places = .ok ⟨⟨[("ROTYCHAT_DATA_DIR", .text " "),
      ("HOME", .text "b"), ("XDG_DATA_HOME", .text "b/d")]⟩, 1⟩ := by decide +kernel
  obtain ⟨whenOk, _⟩ := run_adds_first_values environment places
  obtain ⟨kept, added, _⟩ := whenOk _ ran
  refine ⟨_, ran, rfl, ?_, ?_, ?_⟩
  · exact kept "ROTYCHAT_DATA_DIR" (Or.inl (by decide))
  · exact (added "HOME" "b" (by decide)).mp (by decide)
  · exact (added "XDG_DATA_HOME" "b/d" (by decide)).mp (by decide)

/-- A zero character in a file stops the program before its window is opened, and a variable that
is set to bytes which are no text is set anew. -/
theorem run_stops_and_replaces :
    (¬∃ startup, run ⟨[]⟩ [.file [0x41, 0x3D, 0x00]] = .ok startup) ∧
    ∃ startup,
      run ⟨[("A", .bytes [0xFF] (by decide +kernel))]⟩ [.file [0x41, 0x3D, 0x62]] = .ok startup ∧
      startup.environment.held? "A" = some (.text "b") := by
  have stopped : run ⟨[]⟩ [.file [0x41, 0x3D, 0x00]] = .error ⟨"A", "\x00"⟩ := by decide +kernel
  have replaced : run ⟨[("A", .bytes [0xFF] (by decide +kernel))]⟩ [.file [0x41, 0x3D, 0x62]] =
      .ok ⟨⟨[("A", .text "b")]⟩, 1⟩ := by decide +kernel
  refine ⟨?_, _, replaced, by decide⟩
  rintro ⟨startup, ran⟩
  rw [stopped] at ran
  cases ran

end ChatAssistant.Startup
