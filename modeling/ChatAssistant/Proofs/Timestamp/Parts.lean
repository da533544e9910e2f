import ChatAssistant.Timestamp.Notation
import Mathlib.Algebra.Ring.Nat
import Mathlib.Data.List.TakeWhile

/-!
The parts of a timestamp as it is written. Whatever is read as a time has all of them, one behind
the other, and nothing else.
-/

namespace ChatAssistant.Timestamp

/-- The distance from universal time as it is written: a letter for none, or hours and minutes
behind a sign. -/
inductive Zone where
  | letter (isSmall : Bool)
  | ahead (hours minutes : Nat)
  | behind (hours minutes : Nat)
  deriving DecidableEq, Repr

namespace Zone

def text : Zone → List Char
  | .letter isSmall => [if isSmall then 'z' else 'Z']
  | .ahead hours minutes => '+' :: (twoDigits hours ++ ':' :: twoDigits minutes)
  | .behind hours minutes => '-' :: (twoDigits hours ++ ':' :: twoDigits minutes)

def minutes : Zone → Int
  | .letter _ => 0
  | .ahead hours minutes => 60 * hours + minutes
  | .behind hours minutes => -(60 * hours + minutes)

def InRange : Zone → Prop
  | .letter _ => True
  | .ahead hours minutes => hours ≤ 23 ∧ minutes ≤ 59
  | .behind hours minutes => hours ≤ 23 ∧ minutes ≤ 59

theorem natAbs_minutes_lt {zone : Zone} (range : zone.InRange) :
    zone.minutes.natAbs < minutesPerDay := by
  cases zone with
  | letter isSmall => exact show ((0 : Int).natAbs : Int) < 1440 by decide
  | ahead hours minutes =>
      simp only [InRange, Zone.minutes, minutesPerDay] at range ⊢
      omega
  | behind hours minutes =>
      simp only [InRange, Zone.minutes, minutesPerDay] at range ⊢
      omega

end Zone

structure Parts where
  year : Nat
  month : Nat
  day : Nat
  separator : Char
  hour : Nat
  minute : Nat
  second : Nat
  /-- The digits behind a point, if there is one. -/
  fraction : Option (List Char)
  zone : Zone
  deriving DecidableEq, Repr

namespace Parts

def date (parts : Parts) : Date :=
  ⟨parts.year, parts.month, parts.day⟩

/-- The date is one of the calendar, and every number of the time of day has its place in it. -/
structure InRange (parts : Parts) : Prop where
  year : parts.year < 10000
  date : parts.date.isValid = true
  hour : parts.hour ≤ 23
  minute : parts.minute ≤ 59
  second : parts.second ≤ 60
  fraction : ∀ digits, parts.fraction = some digits →
    digits ≠ [] ∧ ∀ char ∈ digits, char.isDigit = true
  zone : parts.zone.InRange

def fractionText (parts : Parts) : List Char :=
  parts.fraction.elim [] ('.' :: ·)

def text (parts : Parts) : List Char :=
  digitsOf 4 parts.year ++ '-' :: (twoDigits parts.month ++ '-' :: (twoDigits parts.day ++
    parts.separator :: (twoDigits parts.hour ++ ':' :: (twoDigits parts.minute ++
      ':' :: (twoDigits parts.second ++ (parts.fractionText ++ parts.zone.text))))))

/-- The local date and time of the parts. The second 60 is the last instant before it. -/
def timestamp (parts : Parts) : Timestamp where
  date := parts.date
  hour := parts.hour
  minute := parts.minute
  second := min parts.second 59
  nanosecond :=
    if parts.second = 60 then 999999999 else parts.fraction.elim 0 nanoseconds
  offset := parts.zone.minutes

end Parts

/-! ### Numbers of a fixed length -/

theorem digit?_eq_some {char : Char} {digit : Nat} (read : digit? char = some digit) :
    digit < 10 ∧ char = Nat.digitChar digit := by
  unfold digit? at read
  split at read
  · rename_i isDigit
    cases read
    simp only [Char.isDigit, Bool.and_eq_true, decide_eq_true_eq] at isDigit
    have lower : 48 ≤ char.toNat := isDigit.1
    have upper : char.toNat ≤ 57 := isDigit.2
    have zero : '0'.toNat = 48 := rfl
    have small : char.toNat - '0'.toNat < 10 := by omega
    refine ⟨small, ?_⟩
    rw [← Char.toNat_inj, Nat.toNat_digitChar_of_lt_ten small]
    omega
  · cases read

theorem digitsOf_succ (count number : Nat) :
    digitsOf (count + 1) number =
      Nat.digitChar (number / 10 ^ count % 10) :: digitsOf count number := by
  induction count generalizing number with
  | zero => simp [digitsOf]
  | succ count ih =>
      rw [digitsOf, ih, digitsOf, Nat.div_div_eq_div_mul, Nat.pow_succ']
      rfl

theorem readDigits_eq_some {count start number : Nat} {text rest : List Char}
    (read : readDigits count start text = some (number, rest)) :
    text = digitsOf count number ++ rest ∧ number / 10 ^ count = start := by
  -- What has been read before stays at the front of the number.
  induction count generalizing start text with
  | zero =>
      cases read
      simp [digitsOf]
  | succ count ih =>
      cases text with
      | nil => cases read
      | cons char text =>
          cases value : digit? char with
          | none => simp [readDigits, value] at read
          | some digit =>
              simp only [readDigits, value, Option.bind_eq_bind, Option.bind_some] at read
              obtain ⟨spelled, above⟩ := ih read
              obtain ⟨small, spelling⟩ := digit?_eq_some value
              have last : number / 10 ^ count % 10 = digit := by omega
              constructor
              · rw [digitsOf_succ, last, ← spelling, spelled]
                rfl
              · rw [Nat.pow_succ, ← Nat.div_div_eq_div_mul, above]
                omega

theorem readNumber_eq_some {count number : Nat} {text rest : List Char}
    (read : readNumber count text = some (number, rest)) :
    text = digitsOf count number ++ rest ∧ number < 10 ^ count := by
  obtain ⟨spelled, above⟩ := readDigits_eq_some read
  exact ⟨spelled, (Nat.div_eq_zero_iff_lt (Nat.pow_pos (by decide))).mp above⟩

/-! ### What stands between them -/

theorem readMark_eq_some {mark : Char} {text rest : List Char}
    (read : readMark mark text = some rest) : text = mark :: rest := by
  cases text with
  | nil => cases read
  | cons char text =>
      rw [readMark, Option.ite_none_right_eq_some, Option.some_inj] at read
      rw [read.1, read.2]

theorem readSeparator_eq_some {text rest : List Char} (read : readSeparator text = some rest) :
    ∃ separator, text = separator :: rest := by
  cases text with
  | nil => cases read
  | cons char text =>
      rw [readSeparator, Option.ite_none_right_eq_some, Option.some_inj] at read
      exact ⟨char, by rw [read.2]⟩

theorem readFraction_eq_some {text rest : List Char} {nanosecond : Nat}
    (read : readFraction text = some (nanosecond, rest)) :
    ∃ fraction : Option (List Char), text = fraction.elim [] ('.' :: ·) ++ rest ∧
      nanosecond = fraction.elim 0 nanoseconds ∧
      ∀ digits, fraction = some digits → digits ≠ [] ∧ ∀ char ∈ digits, char.isDigit = true := by
  unfold readFraction at read
  split at read
  · rename_i text
    rw [Option.ite_none_left_eq_some, List.isEmpty_iff] at read
    obtain ⟨nonempty, same⟩ := read
    cases same
    refine ⟨some (text.takeWhile Char.isDigit), ?_, rfl, ?_⟩
    · rw [Option.elim_some, List.cons_append, List.takeWhile_append_dropWhile]
    · intro digits same
      cases same
      exact ⟨nonempty, fun char member => List.mem_takeWhile_imp member⟩
  · cases read
    exact ⟨none, rfl, rfl, fun digits same => by cases same⟩

theorem readOffsetMinutes_eq_some {text rest : List Char} {minutes : Nat}
    (read : readOffsetMinutes text = some (minutes, rest)) :
    ∃ hour minute, text = twoDigits hour ++ ':' :: (twoDigits minute ++ rest) ∧
      minutes = 60 * hour + minute ∧ hour ≤ 23 ∧ minute ≤ 59 := by
  simp only [readOffsetMinutes, Option.bind_eq_bind, Option.bind_eq_some_iff,
    Option.ite_none_right_eq_some] at read
  obtain ⟨⟨hour, _⟩, hourRead, _, colon, ⟨minute, _⟩, minuteRead, range, same⟩ := read
  cases same
  dsimp only at colon minuteRead
  refine ⟨hour, minute, ?_, rfl, range⟩
  rw [(readNumber_eq_some hourRead).1, readMark_eq_some colon, (readNumber_eq_some minuteRead).1]
  rfl

theorem readOffset_eq_some {text rest : List Char} {offset : Int}
    (read : readOffset text = some (offset, rest)) :
    ∃ zone : Zone, text = zone.text ++ rest ∧ offset = zone.minutes ∧ zone.InRange := by
  unfold readOffset at read
  split at read
  · cases read
    exact ⟨.letter false, rfl, rfl, trivial⟩
  · cases read
    exact ⟨.letter true, rfl, rfl, trivial⟩
  · obtain ⟨⟨minutes, rest⟩, met, same⟩ := Option.map_eq_some_iff.mp read
    obtain ⟨hour, minute, spelled, rfl, range⟩ := readOffsetMinutes_eq_some met
    cases same
    refine ⟨.ahead hour minute, ?_, rfl, range⟩
    simp [spelled, Zone.text]
  · obtain ⟨⟨minutes, rest⟩, met, same⟩ := Option.map_eq_some_iff.mp read
    obtain ⟨hour, minute, spelled, rfl, range⟩ := readOffsetMinutes_eq_some met
    cases same
    refine ⟨.behind hour minute, ?_, rfl, range⟩
    simp [spelled, Zone.text]
  · cases read

theorem readDate_eq_some {text rest : List Char} {date : Date}
    (read : readDate text = some (date, rest)) :
    ∃ year month day : Nat, date = ⟨year, month, day⟩ ∧ year < 10000 ∧ date.isValid = true ∧
      text = digitsOf 4 year ++ '-' :: (twoDigits month ++ '-' :: (twoDigits day ++ rest)) := by
  simp only [readDate, Option.bind_eq_bind, Option.bind_eq_some_iff,
    Option.ite_none_right_eq_some] at read
  obtain ⟨⟨year, _⟩, yearRead, _, first, ⟨month, _⟩, monthRead, _, second, ⟨day, _⟩, dayRead,
    valid, same⟩ := read
  cases same
  dsimp only at first monthRead second dayRead ⊢
  obtain ⟨yearText, yearRange⟩ := readNumber_eq_some yearRead
  refine ⟨year, month, day, rfl, yearRange, valid, ?_⟩
  rw [yearText, readMark_eq_some first, (readNumber_eq_some monthRead).1, readMark_eq_some second,
    (readNumber_eq_some dayRead).1]
  rfl

/-- A time of day has at most 60 seconds, and with 60 of them it is the last instant before. -/
theorem withSeconds?_eq_some {timestamp taken : Timestamp}
    (read : timestamp.withSeconds? = some taken) :
    timestamp.second ≤ 60 ∧
      taken = { timestamp with
        second := min timestamp.second 59
        nanosecond := if timestamp.second = 60 then 999999999 else timestamp.nanosecond } := by
  unfold withSeconds? at read
  split at read
  · rename_i small
    cases read
    have other : timestamp.second ≠ 60 := by omega
    rw [Nat.min_eq_left small, if_neg other]
    exact ⟨by omega, rfl⟩
  · rw [Option.ite_none_right_eq_some, Bool.and_eq_true, decide_eq_true_eq] at read
    obtain ⟨⟨leap, _⟩, same⟩ := read
    cases same
    rw [leap, if_pos rfl]
    exact ⟨Nat.le_refl 60, rfl⟩

theorem exists_parts_of_read? {text : List Char} {timestamp : Timestamp}
    (read : read? text = some timestamp) :
    ∃ parts : Parts, parts.InRange ∧ parts.text = text ∧ parts.timestamp = timestamp := by
  simp only [read?, Option.bind_eq_bind, Option.bind_eq_some_iff,
    Option.ite_none_right_eq_some] at read
  obtain ⟨⟨date, _⟩, dateRead, _, separatorRead, ⟨hour, _⟩, hourRead, _, first, ⟨minute, _⟩,
    minuteRead, _, last, ⟨second, _⟩, secondRead, ⟨nanosecond, _⟩, fractionRead, ⟨offset, rest⟩,
    offsetRead, ⟨hourRange, minuteRange, ended⟩, taken⟩ := read
  dsimp only at separatorRead hourRead first minuteRead last secondRead fractionRead offsetRead
  dsimp only at taken
  obtain ⟨year, month, day, rfl, yearRange, valid, dateText⟩ := readDate_eq_some dateRead
  obtain ⟨separator, separatorText⟩ := readSeparator_eq_some separatorRead
  obtain ⟨fraction, fractionText, rfl, fractionDigits⟩ := readFraction_eq_some fractionRead
  obtain ⟨zone, zoneText, rfl, zoneRange⟩ := readOffset_eq_some offsetRead
  have withoutRest : rest = [] := List.isEmpty_iff.mp ended
  refine ⟨⟨year, month, day, separator, hour, minute, second, fraction, zone⟩, ?_, ?_, ?_⟩
  · exact ⟨yearRange, valid, hourRange, minuteRange, (withSeconds?_eq_some taken).1,
      fractionDigits, zoneRange⟩
  · rw [dateText, separatorText, (readNumber_eq_some hourRead).1, readMark_eq_some first,
      (readNumber_eq_some minuteRead).1, readMark_eq_some last, (readNumber_eq_some secondRead).1,
      fractionText, zoneText, withoutRest, List.append_nil]
    rfl
  · rw [(withSeconds?_eq_some taken).2]
    rfl

end ChatAssistant.Timestamp
