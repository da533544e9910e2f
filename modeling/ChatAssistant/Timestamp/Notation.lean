import ChatAssistant.Timestamp.Basic

/-!
Timestamps as text: the date, any one byte, the time of day with an optional fraction, and the
offset.
-/

namespace ChatAssistant.Timestamp

def digit? (char : Char) : Option Nat :=
  if char.isDigit then some (char.toNat - '0'.toNat) else none

def readDigits : Nat → Nat → List Char → Option (Nat × List Char)
  | 0, number, text => some (number, text)
  | _ + 1, _, [] => none
  | count + 1, number, char :: text => do
      readDigits count (number * 10 + (← digit? char)) text

def readNumber (count : Nat) (text : List Char) : Option (Nat × List Char) :=
  readDigits count 0 text

def readMark (mark : Char) : List Char → Option (List Char)
  | [] => none
  | char :: text => if char = mark then some text else none

/-- Any character that is one byte long. -/
def readSeparator : List Char → Option (List Char)
  | [] => none
  | char :: text => if char.toNat < 0x80 then some text else none

def fractionDigits : Nat := 9

/-- The nanoseconds of the digits behind a point: nine of them count, and those missing are
zero. -/
def nanoseconds (digits : List Char) : Nat :=
  ((digits ++ List.replicate fractionDigits '0').take fractionDigits).foldl
    (fun number char => number * 10 + (digit? char).getD 0) 0

def readFraction : List Char → Option (Nat × List Char)
  | '.' :: text =>
      let digits := text.takeWhile Char.isDigit
      if digits.isEmpty then none else some (nanoseconds digits, text.dropWhile Char.isDigit)
  | text => some (0, text)

def readOffsetMinutes (text : List Char) : Option (Nat × List Char) := do
  let (hours, text) ← readNumber 2 text
  let text ← readMark ':' text
  let (minutes, text) ← readNumber 2 text
  if hours ≤ 23 ∧ minutes ≤ 59 then some (60 * hours + minutes, text) else none

/-- The letter Z stands for no offset. -/
def readOffset : List Char → Option (Int × List Char)
  | 'Z' :: text => some (0, text)
  | 'z' :: text => some (0, text)
  | '+' :: text => (readOffsetMinutes text).map fun (minutes, text) => ((minutes : Int), text)
  | '-' :: text => (readOffsetMinutes text).map fun (minutes, text) => (-(minutes : Int), text)
  | _ => none

def readDate (text : List Char) : Option (Date × List Char) := do
  let (year, text) ← readNumber 4 text
  let text ← readMark '-' text
  let (month, text) ← readNumber 2 text
  let text ← readMark '-' text
  let (day, text) ← readNumber 2 text
  let date : Date := ⟨year, month, day⟩
  if date.isValid then some (date, text) else none

/-- A leap second is the last second of a month in universal time. -/
def isLeapSecond (timestamp : Timestamp) : Bool :=
  timestamp.universalMinuteOfDay = 1439 && timestamp.universalDate.isLastOfMonth

/-- Second 60 stands for the last nanosecond before the end of the minute, where a leap second
can be. -/
def withSeconds? (timestamp : Timestamp) : Option Timestamp :=
  if timestamp.second ≤ 59 then some timestamp
  else if timestamp.second = 60 && isLeapSecond timestamp then
    some { timestamp with second := 59, nanosecond := 999999999 }
  else none

def read? (text : List Char) : Option Timestamp := do
  let (date, text) ← readDate text
  let text ← readSeparator text
  let (hour, text) ← readNumber 2 text
  let text ← readMark ':' text
  let (minute, text) ← readNumber 2 text
  let text ← readMark ':' text
  let (second, text) ← readNumber 2 text
  let (nanosecond, text) ← readFraction text
  let (offset, text) ← readOffset text
  if hour ≤ 23 ∧ minute ≤ 59 ∧ text.isEmpty then
    withSeconds? ⟨date, hour, minute, second, nanosecond, offset⟩
  else none

/-- The digits of a number, highest first, with zeros before them up to `count`. -/
def digitsOf : Nat → Nat → List Char
  | 0, _ => []
  | count + 1, number => digitsOf count (number / 10) ++ [Nat.digitChar (number % 10)]

/-- The digits of a fraction without the zeros at its end, behind a point if any are left. -/
def fractionText (nanosecond : Nat) : List Char :=
  let digits := ((digitsOf fractionDigits nanosecond).reverse.dropWhile (· = '0')).reverse
  if digits.isEmpty then [] else '.' :: digits

def offsetText (offset : Int) : List Char :=
  if offset = 0 then ['Z']
  else
    (if offset < 0 then '-' else '+') :: twoDigits (offset.natAbs / 60) ++
      ':' :: twoDigits (offset.natAbs % 60)

/-- Years are written in four digits, and no offset is as long as a day. -/
def isWritable (timestamp : Timestamp) : Bool :=
  0 ≤ timestamp.date.year && timestamp.date.year ≤ lastYear &&
    timestamp.offset.natAbs < minutesPerDay

def text (timestamp : Timestamp) : List Char :=
  digitsOf 4 timestamp.date.year.toNat ++ '-' :: twoDigits timestamp.date.month ++
    '-' :: twoDigits timestamp.date.day ++ 'T' :: twoDigits timestamp.hour ++
    ':' :: twoDigits timestamp.minute ++ ':' :: twoDigits timestamp.second ++
    fractionText timestamp.nanosecond ++ offsetText timestamp.offset

end ChatAssistant.Timestamp
