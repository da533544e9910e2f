import ChatAssistant.Proofs.Message.Notation
import ChatAssistant.Proofs.Timestamp.DayNumber
import ChatAssistant.Proofs.Timestamp.Parts

/-!
The time under a message. It is the written time less the written offset, around the clock, on every
day of the calendar; there is none only when universal time is past the last year.
-/

namespace ChatAssistant

namespace Timestamp

/-- Nanoseconds from the beginning of the year 0 in universal time. -/
def instant (timestamp : Timestamp) : Int :=
  ((timestamp.date.number * minutesPerDay + timestamp.universalMinute) * 60 +
    timestamp.second) * 10 ^ fractionDigits + timestamp.nanosecond

def startOfYear (year : Int) : Timestamp :=
  ⟨⟨year, 1, 1⟩, 0, 0, 0, 0, 0⟩

/-- Two digits for the hours and two for the minutes, which make up a minute of the day. -/
def IsClock (text : String) (minute : Int) : Prop :=
  ∃ hours minutes, text.toList = hours ++ ':' :: minutes ∧
    hours.length = 2 ∧ minutes.length = 2 ∧
    (∀ char ∈ hours ++ minutes, char.isDigit = true) ∧
    Decimal.ofDigits hours < 24 ∧ Decimal.ofDigits minutes < 60 ∧
    60 * (Decimal.ofDigits hours : Int) + Decimal.ofDigits minutes = minute

variable {timestamp : Timestamp}

/-- The day and the minute change together, so that the moment stays. -/
theorem universalDate_number (proper : timestamp.IsProper) :
    timestamp.universalDate.isValid = true ∧
      timestamp.universalDate.number * minutesPerDay + timestamp.universalMinuteOfDay =
        timestamp.date.number * minutesPerDay + timestamp.universalMinute := by
  have valid := proper.date_valid
  have day : minutesPerDay = 1440 := rfl
  have range : -1440 < timestamp.universalMinute ∧ timestamp.universalMinute < 2 * 1440 := by
    have hour := proper.hour_le
    have minute := proper.minute_le
    have offset := proper.offset_lt
    rw [universalMinute]
    omega
  -- The offset is less than a day, so that no day beyond the neighbouring ones comes up.
  unfold universalDate
  split
  · refine ⟨Date.previous_isValid valid, ?_⟩
    rw [Date.number_previous valid, universalMinuteOfDay, day]
    omega
  · split
    · refine ⟨valid, ?_⟩
      rw [universalMinuteOfDay, day]
      omega
    · refine ⟨Date.next_isValid valid, ?_⟩
      rw [Date.number_next valid, universalMinuteOfDay, day]
      omega

theorem universalDate_year_le_iff (proper : timestamp.IsProper) (last : Int) :
    timestamp.universalDate.year ≤ last ↔
      timestamp.instant < (startOfYear (last + 1)).instant := by
  obtain ⟨valid, moment⟩ := universalDate_number proper
  have second := proper.second_le
  have nanosecond := proper.nanosecond_lt
  have minute : timestamp.universalMinuteOfDay < 1440 := by
    simp only [universalMinuteOfDay, minutesPerDay]
    omega
  have start : (startOfYear (last + 1)).instant =
      daysBeforeYear (last + 1) * 1440 * 60 * 10 ^ fractionDigits := by
    have january : daysBeforeMonth (last + 1) 1 = 0 := rfl
    simp only [startOfYear, instant, Date.number, january, universalMinute, minutesPerDay,
      fractionDigits]
    omega
  rw [Date.year_le_iff valid, instant, ← moment, start]
  simp only [minutesPerDay, fractionDigits] at nanosecond ⊢
  omega

theorem ofDigits_twoDigits {number : Nat} (small : number < 100) :
    Decimal.ofDigits (twoDigits number) = number := by
  have first : Decimal.digitValue (Nat.digitChar (number / 10 % 10)) = number / 10 % 10 :=
    Decimal.digitValue_digitChar (Nat.mod_lt _ (by decide))
  have second : Decimal.digitValue (Nat.digitChar (number % 10)) = number % 10 :=
    Decimal.digitValue_digitChar (Nat.mod_lt _ (by decide))
  rw [twoDigits, Decimal.ofDigits, List.foldl_cons, List.foldl_cons, List.foldl_nil, first, second]
  omega

theorem isClock_twoDigits {minute : Nat} (small : minute < 1440) :
    IsClock (String.ofList (twoDigits (minute / 60) ++ ':' :: twoDigits (minute % 60))) minute := by
  have digits : ∀ number, ∀ char ∈ digitsOf 2 number, char.isDigit = true :=
    fun number char member => isDigit_of_mem_digitsOf member
  have hours := ofDigits_twoDigits (show minute / 60 < 100 by omega)
  have minutes := ofDigits_twoDigits (show minute % 60 < 100 by omega)
  refine ⟨_, _, String.toList_ofList, rfl, rfl, ?_, ?_, ?_, ?_⟩
  · intro char member
    rcases List.mem_append.mp member with inside | inside
    · exact digits _ char inside
    · exact digits _ char inside
  · omega
  · omega
  · omega

theorem clock?_of_lt (proper : timestamp.IsProper)
    (early : timestamp.instant < (startOfYear 10000).instant) :
    ∃ clock, timestamp.clock? = some clock ∧
      IsClock clock (timestamp.universalMinute % minutesPerDay) := by
  have year : timestamp.universalDate.year ≤ lastYear :=
    (universalDate_year_le_iff proper lastYear).mpr early
  have minute : (timestamp.universalMinuteOfDay : Int) =
      timestamp.universalMinute % minutesPerDay := by
    simp only [universalMinuteOfDay, minutesPerDay]
    omega
  have small : timestamp.universalMinuteOfDay < 1440 := by
    simp only [minutesPerDay] at minute
    omega
  rw [clock?, if_pos year, ← minute]
  exact ⟨_, rfl, isClock_twoDigits small⟩

theorem clock?_eq_none_iff (proper : timestamp.IsProper) :
    timestamp.clock? = none ↔ (startOfYear 10000).instant ≤ timestamp.instant := by
  rw [← Int.not_lt]
  constructor
  · intro none early
    obtain ⟨clock, some, _⟩ := clock?_of_lt proper early
    rw [none] at some
    cases some
  · intro late
    have year : ¬timestamp.universalDate.year ≤ lastYear := fun year =>
      late ((universalDate_year_le_iff proper lastYear).mp year)
    rw [clock?, if_neg year]

end Timestamp

namespace Message

def writtenTime? (text : String) : Option String := do
  let document ← Json.Document.read? text.toList
  match ← document.fields? ["id", "role", "content", "timestamp", "searchResults"] with
  | [_, _, _, time, _] => Json.Document.required? Json.Document.text? time
  | _ => none

theorem exists_writtenTime? {text : String} {message : Message} (read : read? text = some message) :
    ∃ written, writtenTime? text = some written ∧
      Timestamp.read? written.toList = some message.timestamp := by
  obtain ⟨document, _, _, _, time, _, documentRead, fieldsRead, _, timeRead⟩ := fields_of_read? read
  obtain ⟨timeDocument, present, timeRead⟩ := Option.bind_eq_some_iff.mp timeRead
  obtain ⟨written, words, timeRead⟩ := Option.bind_eq_some_iff.mp timeRead
  refine ⟨written, ?_, timeRead⟩
  simp only [writtenTime?, documentRead, fieldsRead, Option.bind_eq_bind, Option.bind_some,
    Json.Document.required?, present, words]

/-- Every message that is read and comes before the year 10000 in universal time has a time of day,
and this is the written hour and minute less the written offset, around the clock. A time of day is
missing only after that. -/
theorem clock?_of_read? {text : String} {message : Message} (read : read? text = some message) :
    ∃ written, ∃ parts : Timestamp.Parts, writtenTime? text = some written ∧
      parts.text = written.toList ∧ parts.InRange ∧ parts.timestamp = message.timestamp ∧
      (message.timestamp.instant < (Timestamp.startOfYear 10000).instant →
        ∃ clock, message.timestamp.clock? = some clock ∧
          Timestamp.IsClock clock
            ((60 * parts.hour + parts.minute - parts.zone.minutes) % 1440)) ∧
      (message.timestamp.clock? = none ↔
        (Timestamp.startOfYear 10000).instant ≤ message.timestamp.instant) := by
  obtain ⟨written, inText, timeRead⟩ := exists_writtenTime? read
  obtain ⟨parts, range, spelled, same⟩ := Timestamp.exists_parts_of_read? timeRead
  have proper := Timestamp.isProper_of_read? timeRead
  refine ⟨written, parts, inText, spelled, range, same, ?_, Timestamp.clock?_eq_none_iff proper⟩
  intro early
  obtain ⟨clock, shown, minute⟩ := Timestamp.clock?_of_lt proper early
  rw [← same] at minute
  exact ⟨clock, shown, minute⟩

/-- The last moment that has a time of day: a leap second, just before the year 10000. -/
theorem clock?_of_read?_leapSecond :
    let text := "\x7b\"id\":1,\"role\":\"user\",\"content\":\"\"," ++
      "\"timestamp\":\"9999-12-31 18:29:60.5-05:30\"\x7d"
    let message : Message := ⟨1, .user, "", ⟨⟨9999, 12, 31⟩, 18, 29, 59, 999999999, -330⟩, none⟩
    Message.read? text = some message ∧
      message.timestamp.instant < (Timestamp.startOfYear 10000).instant ∧
      ∃ written, ∃ parts : Timestamp.Parts, writtenTime? text = some written ∧
        parts.text = written.toList ∧ parts.InRange ∧ parts.timestamp = message.timestamp ∧
        (∃ clock, message.timestamp.clock? = some clock ∧
          Timestamp.IsClock clock
            ((60 * parts.hour + parts.minute - parts.zone.minutes) % 1440)) ∧
        message.timestamp.clock? ≠ none := by
  intro text message
  have read : Message.read? text = some message := by decide +kernel
  have early : message.timestamp.instant < (Timestamp.startOfYear 10000).instant := by decide
  obtain ⟨written, parts, inText, spelled, range, same, shown, missing⟩ := clock?_of_read? read
  exact ⟨read, early, written, parts, inText, spelled, range, same, shown early,
    fun none => (missing.mp none).not_gt early⟩

end Message

end ChatAssistant
