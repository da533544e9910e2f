import ChatAssistant.Proofs.Timestamp.DayNumber
import ChatAssistant.Proofs.Timestamp.Parts
import Mathlib.Data.List.Induction
import Mathlib.Data.List.TakeWhile
import Mathlib.Tactic.Ring

/-!
Timestamps as text. Every time that is read has a notation, and its notation is read as that time.
-/

namespace ChatAssistant.Timestamp

/-- Every part of the time is in the range that its notation has room for. -/
structure IsProper (timestamp : Timestamp) : Prop where
  date_valid : timestamp.date.isValid = true
  year_range : 0 ≤ timestamp.date.year ∧ timestamp.date.year ≤ lastYear
  hour_le : timestamp.hour ≤ 23
  minute_le : timestamp.minute ≤ 59
  second_le : timestamp.second ≤ 59
  nanosecond_lt : timestamp.nanosecond < 10 ^ fractionDigits
  offset_lt : timestamp.offset.natAbs < minutesPerDay

/-! ### Numbers of a fixed length -/

theorem digit?_digitChar {digit : Nat} (small : digit < 10) :
    digit? (Nat.digitChar digit) = some digit := by
  have digits : ∀ digit < 10, digit? (Nat.digitChar digit) = some digit := by decide
  exact digits digit small

/-- Digits are read from the first one on, but written from the last one back. -/
theorem readDigits_succ {count start number digit : Nat} {text rest : List Char} {char : Char}
    (read : readDigits count start text = some (number, char :: rest))
    (last : digit? char = some digit) :
    readDigits (count + 1) start text = some (number * 10 + digit, rest) := by
  induction count generalizing start text with
  | zero =>
      cases read
      simp [readDigits, last]
  | succ count ih =>
      cases text with
      | nil => cases read
      | cons first text =>
          cases value : digit? first with
          | none => simp [readDigits, value] at read
          | some value' =>
              simp only [readDigits, value, Option.bind_eq_bind, Option.bind_some] at read
              rw [readDigits, value, Option.bind_eq_bind, Option.bind_some]
              exact ih read

theorem readNumber_digitsOf {count number : Nat} (fits : number < 10 ^ count) (rest : List Char) :
    readNumber count (digitsOf count number ++ rest) = some (number, rest) := by
  induction count generalizing number rest with
  | zero =>
      have zero : number = 0 := by simpa using fits
      rw [zero]
      rfl
  | succ count ih =>
      have front : number / 10 < 10 ^ count := by
        rw [pow_succ] at fits
        omega
      have last : digit? (Nat.digitChar (number % 10)) = some (number % 10) :=
        digit?_digitChar (by omega)
      have whole : number / 10 * 10 + number % 10 = number := by omega
      rw [digitsOf, List.append_assoc]
      have read := readDigits_succ (ih front (Nat.digitChar (number % 10) :: rest)) last
      rwa [whole] at read

theorem readNumber_twoDigits {number : Nat} (fits : number < 100) (rest : List Char) :
    readNumber 2 (twoDigits number ++ rest) = some (number, rest) := by
  have spelled : twoDigits number = digitsOf 2 number := rfl
  rw [spelled]
  exact readNumber_digitsOf fits rest

/-! ### Fractions -/

def digitsValue (digits : List Char) : Nat :=
  digits.foldl (fun number char => number * 10 + (digit? char).getD 0) 0

theorem digitsValue_concat (digits : List Char) (char : Char) :
    digitsValue (digits ++ [char]) = digitsValue digits * 10 + (digit? char).getD 0 := by
  simp [digitsValue]

theorem digitsValue_digitsOf {count number : Nat} (fits : number < 10 ^ count) :
    digitsValue (digitsOf count number) = number := by
  induction count generalizing number with
  | zero =>
      have zero : number = 0 := by simpa using fits
      rw [zero]
      rfl
  | succ count ih =>
      have front : number / 10 < 10 ^ count := by
        rw [pow_succ] at fits
        omega
      rw [digitsOf, digitsValue_concat, ih front, digit?_digitChar (by omega), Option.getD_some]
      omega

theorem digitsValue_lt (digits : List Char) : digitsValue digits < 10 ^ digits.length := by
  induction digits using List.reverseRecOn with
  | nil => decide
  | append_singleton digits char ih =>
      have small : (digit? char).getD 0 < 10 := by
        cases read : digit? char with
        | none => decide
        | some digit => exact (digit?_eq_some read).1
      rw [digitsValue_concat, List.length_append, List.length_singleton, pow_succ]
      omega

theorem nanoseconds_lt (digits : List Char) : nanoseconds digits < 10 ^ fractionDigits := by
  have bound := digitsValue_lt
    ((digits ++ List.replicate fractionDigits '0').take fractionDigits)
  rwa [List.length_take_of_le (by simp)] at bound

theorem isDigit_of_mem_digitsOf {count number : Nat} {char : Char}
    (member : char ∈ digitsOf count number) : char.isDigit = true := by
  induction count generalizing number with
  | zero => cases member
  | succ count ih =>
      rw [digitsOf, List.mem_append, List.mem_singleton] at member
      rcases member with earlier | rfl
      · exact ih earlier
      · rw [Nat.isDigit_digitChar, decide_eq_true_eq]
        omega

theorem digitsOf_length (count number : Nat) : (digitsOf count number).length = count := by
  induction count generalizing number with
  | zero => rfl
  | succ count ih => simp [digitsOf, ih]

def trimmed (digits : List Char) : List Char :=
  (digits.reverse.dropWhile (· = '0')).reverse

theorem trimmed_append_zeros (digits : List Char) :
    trimmed digits ++ List.replicate (digits.length - (trimmed digits).length) '0' = digits := by
  have zeros : digits.reverse.takeWhile (· = '0') =
      List.replicate (digits.reverse.takeWhile (· = '0')).length '0' := by
    rw [List.eq_replicate_iff]
    refine ⟨rfl, ?_⟩
    intro char member
    simpa using List.mem_takeWhile_imp member
  have split : trimmed digits ++ (digits.reverse.takeWhile (· = '0')).reverse = digits := by
    rw [trimmed, ← List.reverse_append, List.takeWhile_append_dropWhile, List.reverse_reverse]
  have count : digits.length - (trimmed digits).length =
      (digits.reverse.takeWhile (· = '0')).length := by
    have lengths := congrArg List.length split
    rw [List.length_append, List.length_reverse] at lengths
    omega
  rw [zeros, List.reverse_replicate] at split
  rw [count]
  exact split

theorem nanoseconds_trimmed {digits : List Char} (full : digits.length = fractionDigits) :
    nanoseconds (trimmed digits) = digitsValue digits := by
  have whole := trimmed_append_zeros digits
  have shorter : (trimmed digits).length ≤ fractionDigits := by
    have lengths := congrArg List.length whole
    rw [List.length_append] at lengths
    omega
  have padded : (trimmed digits ++ List.replicate fractionDigits '0').take fractionDigits =
      digits := by
    rw [List.take_append, List.take_of_length_le shorter, List.take_replicate,
      Nat.min_eq_left (Nat.sub_le _ _), ← full]
    exact whole
  rw [nanoseconds, padded]
  rfl

theorem fractionText_eq (nanosecond : Nat) :
    fractionText nanosecond =
      if trimmed (digitsOf fractionDigits nanosecond) = [] then []
      else '.' :: trimmed (digitsOf fractionDigits nanosecond) := by
  simp [fractionText, trimmed]

def EndsFraction (rest : List Char) : Prop :=
  ∀ char, rest.head? = some char → char.isDigit = false ∧ char ≠ '.'

theorem readFraction_fractionText {nanosecond : Nat} (fits : nanosecond < 10 ^ fractionDigits)
    {rest : List Char} (ends : EndsFraction rest) :
    readFraction (fractionText nanosecond ++ rest) = some (nanosecond, rest) := by
  have value : nanoseconds (trimmed (digitsOf fractionDigits nanosecond)) = nanosecond := by
    rw [nanoseconds_trimmed (digitsOf_length _ _), digitsValue_digitsOf fits]
  rw [fractionText_eq]
  by_cases empty : trimmed (digitsOf fractionDigits nanosecond) = []
  · have zero : nanosecond = 0 := by
      rw [empty] at value
      rw [← value]
      decide
    rw [if_pos empty, zero]
    cases rest with
    | nil => rfl
    | cons char rest => simp [readFraction, (ends char rfl).2]
  · have allDigits : ∀ char ∈ trimmed (digitsOf fractionDigits nanosecond),
        char.isDigit = true := by
      intro char member
      have inside : char ∈ digitsOf fractionDigits nanosecond :=
        trimmed_append_zeros (digitsOf fractionDigits nanosecond) ▸ List.mem_append_left _ member
      exact isDigit_of_mem_digitsOf inside
    have noMore : rest.takeWhile Char.isDigit = [] ∧ rest.dropWhile Char.isDigit = rest := by
      cases rest with
      | nil => simp
      | cons char rest => simp [(ends char rfl).1]
    rw [if_neg empty, List.cons_append, readFraction, List.takeWhile_append_of_pos allDigits,
      List.dropWhile_append_of_pos allDigits, noMore.1, noMore.2, List.append_nil, value]
    simp [empty]

/-! ### Offsets -/

theorem readOffsetMinutes_twoDigits {minutes : Nat} (fits : minutes < 1440) (rest : List Char) :
    readOffsetMinutes (twoDigits (minutes / 60) ++ ':' :: (twoDigits (minutes % 60) ++ rest)) =
      some (minutes, rest) := by
  have whole : 60 * (minutes / 60) + minutes % 60 = minutes := by omega
  have ranges : minutes / 60 ≤ 23 ∧ minutes % 60 ≤ 59 := by omega
  simp only [readOffsetMinutes, readNumber_twoDigits (show minutes / 60 < 100 by omega),
    readNumber_twoDigits (show minutes % 60 < 100 by omega), Option.bind_eq_bind,
    Option.bind_some, readMark, if_true, ranges, and_self, whole]

theorem readOffset_offsetText {offset : Int} (fits : offset.natAbs < minutesPerDay)
    (rest : List Char) :
    readOffset (offsetText offset ++ rest) = some (offset, rest) := by
  have small : offset.natAbs < 1440 := by
    simp only [minutesPerDay] at fits
    omega
  have minutes := readOffsetMinutes_twoDigits small rest
  by_cases zero : offset = 0
  · subst zero
    rfl
  · by_cases behind : offset < 0
    · have size : -(offset.natAbs : Int) = offset := by omega
      simp only [offsetText, if_neg zero, if_pos behind, List.cons_append, List.append_assoc,
        readOffset, minutes, Option.map_some, size]
    · have size : (offset.natAbs : Int) = offset := by omega
      simp only [offsetText, if_neg zero, if_neg behind, List.cons_append, List.append_assoc,
        readOffset, minutes, Option.map_some, size]

/-! ### Dates and times -/

theorem daysInMonth_le (year : Int) (month : Nat) : daysInMonth year month ≤ 31 := by
  unfold daysInMonth
  split <;> first | omega | (split <;> omega)

theorem month_lt_of_isValid {date : Date} (valid : date.isValid = true) : date.month < 100 := by
  have months := Date.month_bounds_of_isValid valid
  omega

theorem day_lt_of_isValid {date : Date} (valid : date.isValid = true) : date.day < 100 := by
  have longest := daysInMonth_le date.year date.month
  have range := Date.isValid_iff.mp valid
  omega

theorem readDate_digits {date : Date} (valid : date.isValid = true)
    (range : 0 ≤ date.year ∧ date.year ≤ lastYear) (rest : List Char) :
    readDate (digitsOf 4 date.year.toNat ++
        '-' :: (twoDigits date.month ++ '-' :: (twoDigits date.day ++ rest))) =
      some (date, rest) := by
  have fits : date.year.toNat < 10 ^ 4 := by
    simp only [lastYear] at range
    omega
  have year : ((date.year.toNat : Nat) : Int) = date.year := Int.toNat_of_nonneg range.1
  simp only [readDate, readNumber_digitsOf fits, Option.bind_eq_bind, Option.bind_some, readMark,
    if_true, readNumber_twoDigits (month_lt_of_isValid valid),
    readNumber_twoDigits (day_lt_of_isValid valid), year, valid]

theorem endsFraction_offsetText (offset : Int) (rest : List Char) :
    EndsFraction (offsetText offset ++ rest) := by
  intro char first
  unfold offsetText at first
  split at first
  · cases first
    decide
  · split at first
    · cases first
      decide
    · cases first
      decide

theorem read?_text {timestamp : Timestamp} (proper : timestamp.IsProper) :
    read? timestamp.text = some timestamp := by
  obtain ⟨valid, years, hours, minutes, seconds, fraction, offset⟩ := proper
  have date := readDate_digits valid years
  have split : timestamp.text =
      digitsOf 4 timestamp.date.year.toNat ++ '-' :: (twoDigits timestamp.date.month ++
        '-' :: (twoDigits timestamp.date.day ++ 'T' :: (twoDigits timestamp.hour ++
          ':' :: (twoDigits timestamp.minute ++ ':' :: (twoDigits timestamp.second ++
            (fractionText timestamp.nanosecond ++ (offsetText timestamp.offset ++ []))))))) := by
    simp [text]
  have separator : ∀ text, readSeparator ('T' :: text) = some text := fun _ => rfl
  rw [split]
  simp only [read?, date, Option.bind_eq_bind, Option.bind_some, separator, readMark, if_true,
    readNumber_twoDigits (show timestamp.hour < 100 by omega),
    readNumber_twoDigits (show timestamp.minute < 100 by omega),
    readNumber_twoDigits (show timestamp.second < 100 by omega),
    readFraction_fractionText fraction (endsFraction_offsetText timestamp.offset []),
    readOffset_offsetText offset]
  simp [hours, minutes, withSeconds?, seconds]

/-- A leap second is an instant before it, so that every part has its place. -/
theorem Parts.isProper_timestamp {parts : Parts} (range : parts.InRange) :
    parts.timestamp.IsProper where
  date_valid := range.date
  year_range := by
    have year := range.year
    simp only [timestamp, date, lastYear]
    omega
  hour_le := range.hour
  minute_le := range.minute
  second_le := Nat.min_le_right _ _
  nanosecond_lt := by
    simp only [timestamp]
    split
    · decide
    · cases parts.fraction with
      | none => decide
      | some digits => exact nanoseconds_lt digits
  offset_lt := Zone.natAbs_minutes_lt range.zone

theorem isProper_of_read? {text : List Char} {timestamp : Timestamp}
    (read : read? text = some timestamp) : timestamp.IsProper := by
  obtain ⟨parts, range, _, rfl⟩ := exists_parts_of_read? read
  exact parts.isProper_timestamp range

theorem isWritable_of_isProper {timestamp : Timestamp} (proper : timestamp.IsProper) :
    timestamp.isWritable = true := by
  simp only [isWritable, proper.year_range.1, proper.year_range.2, proper.offset_lt, decide_true,
    Bool.and_self]

end ChatAssistant.Timestamp
