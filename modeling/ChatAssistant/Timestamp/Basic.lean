import ChatAssistant.Timestamp.Calendar

/-!
Points in time as they are written: a date, a time of day and the distance of both from
universal time.
-/

namespace ChatAssistant

/-- A local date and time. It is `offset` minutes ahead of universal time. -/
structure Timestamp where
  date : Timestamp.Date
  hour : Nat
  minute : Nat
  second : Nat
  nanosecond : Nat
  offset : Int
  deriving DecidableEq, Repr

namespace Timestamp

def minutesPerDay : Int := 1440

/-- The minute of the day in universal time, counted from the beginning of the local day. -/
def universalMinute (timestamp : Timestamp) : Int :=
  60 * timestamp.hour + timestamp.minute - timestamp.offset

/-- The day in universal time: no offset reaches further than the neighbouring days. -/
def universalDate (timestamp : Timestamp) : Date :=
  if timestamp.universalMinute < 0 then timestamp.date.previous
  else if timestamp.universalMinute < minutesPerDay then timestamp.date
  else timestamp.date.next

def universalMinuteOfDay (timestamp : Timestamp) : Nat :=
  (timestamp.universalMinute % minutesPerDay).toNat

def twoDigits (number : Nat) : List Char :=
  [Nat.digitChar (number / 10 % 10), Nat.digitChar (number % 10)]

def lastYear : Int := 9999

/-- Hours and minutes in universal time. The calendar ends with the last year. -/
def clock? (timestamp : Timestamp) : Option String :=
  if timestamp.universalDate.year ≤ lastYear then
    some (String.ofList (twoDigits (timestamp.universalMinuteOfDay / 60) ++
      ':' :: twoDigits (timestamp.universalMinuteOfDay % 60)))
  else none

end Timestamp

end ChatAssistant
