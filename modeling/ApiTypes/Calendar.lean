import ApiTypes.Text

/-!
# Dates and times

Days of the Gregorian calendar from year 1 to year 9999, with or without a time
of day and a distance from universal time.
-/

namespace ApiTypes

/-- Every fourth year is a leap year, save those of a century that four hundred does not
divide. -/
def isLeapYear (year : Nat) : Bool :=
  year % 4 == 0 && (year % 100 != 0 || year % 400 == 0)

/-- The number of days of a month. -/
def daysInMonth (year month : Nat) : Nat :=
  if month = 2 then (if isLeapYear year then 29 else 28)
  else if month = 4 ∨ month = 6 ∨ month = 9 ∨ month = 11 then 30
  else 31

/-- Why numbers do not name a day, a time or an offset. -/
inductive CalendarError where
  | year (year : Nat)
  | month
  | day
  | hour
  | minute
  | second
  | offset (minutes : Int)
  deriving DecidableEq

structure Date where
  year : Nat
  month : Nat
  day : Nat
  yearInRange : 1 ≤ year ∧ year ≤ 9999
  monthInRange : 1 ≤ month ∧ month ≤ 12
  dayInRange : 1 ≤ day ∧ day ≤ daysInMonth year month
  deriving DecidableEq

/-- A day with a time, and a distance from universal time in minutes if it is known. -/
structure DateTime where
  date : Date
  hour : Nat
  minute : Nat
  second : Nat
  microsecond : Nat
  offset : Option Int
  deriving DecidableEq

namespace CalendarError

/-- A duration in minutes as a count of days and seconds, the seconds never negative. -/
def durationText (minutes : Int) : Text :=
  let days := minutes.fdiv 1440
  let seconds := (minutes.fmod 1440) * 60
  let parts : List Text :=
    (if days = 0 then [] else [Text.ofString "days=" ++ Text.ofInt days]) ++
      (if seconds = 0 then [] else [Text.ofString "seconds=" ++ Text.ofInt seconds])
  let content : Text := if parts.isEmpty then "0" else Text.join ", " parts
  "datetime.timedelta(" ++ content ++ ")"

/-- The report of an impossible date, time or offset. -/
def message : CalendarError → Text
  | .year number => "year " ++ Text.ofNat number ++ " is out of range"
  | .month => "month must be in 1..12"
  | .day => "day is out of range for month"
  | .hour => "hour must be in 0..23"
  | .minute => "minute must be in 0..59"
  | .second => "second must be in 0..59"
  | .offset minutes =>
      "offset must be a timedelta strictly between -timedelta(hours=24) and "
        ++ "timedelta(hours=24), not " ++ durationText minutes ++ "."

end CalendarError

namespace Date

/-- The day with the given numbers, if there is one; the year is looked at first. -/
def make (year month day : Nat) : Except CalendarError Date :=
  if yearInRange : 1 ≤ year ∧ year ≤ 9999 then
    if monthInRange : 1 ≤ month ∧ month ≤ 12 then
      if dayInRange : 1 ≤ day ∧ day ≤ daysInMonth year month then
        .ok { year, month, day, yearInRange, monthInRange, dayInRange }
      else .error .day
    else .error .month
  else .error (.year year)

/-- Year, month and day with hyphens between them. -/
def isoText (date : Date) : Text :=
  Text.padded 4 date.year ++ "-" ++ Text.padded 2 date.month ++ "-" ++ Text.padded 2 date.day

/-- The three numbers of a date, as messages show them. -/
def numbers (date : Date) : List Nat :=
  [date.year, date.month, date.day]

def display (date : Date) : Text :=
  "datetime.date(" ++ Text.join ", " (date.numbers.map Text.ofNat) ++ ")"

/-- The number of days before the first day of a year. -/
def daysBeforeYear (year : Nat) : Nat :=
  let past := year - 1
  past * 365 + past / 4 - past / 100 + past / 400

/-- The number of days from the first day of year 1 to a date. -/
def dayNumber (date : Date) : Nat :=
  (List.range (date.month - 1)).foldl
    (fun days earlier => days + daysInMonth date.year (earlier + 1))
    (daysBeforeYear date.year + (date.day - 1))

end Date

namespace DateTime

/-- The time with the given numbers; the date is looked at before the time of day. -/
def make (year month day hour minute second microsecond : Nat) (offset : Option Int) :
    Except CalendarError DateTime := do
  let date ← Date.make year month day
  if 23 < hour then .error .hour
  else if 59 < minute then .error .minute
  else if 59 < second then .error .second
  else .ok { date, hour, minute, second, microsecond, offset }

/-- A distance from universal time with its sign. -/
def offsetText (minutes : Int) : Text :=
  .scalar (if minutes < 0 then '-' else '+') :: Text.padded 2 (minutes.natAbs / 60) ++ ":"
    ++ Text.padded 2 (minutes.natAbs % 60)

/-- Date, time, six digits of microseconds if there are any, and the offset if it is known. -/
def isoText (time : DateTime) : Text :=
  let fraction : Text :=
    if time.microsecond = 0 then [] else .scalar '.' :: Text.padded 6 time.microsecond
  time.date.isoText ++ "T" ++ Text.padded 2 time.hour ++ ":" ++ Text.padded 2 time.minute ++ ":"
    ++ Text.padded 2 time.second ++ fraction
    ++ (time.offset.map offsetText).getD []

/-- A time as messages show it: seconds and microseconds are left out where all that follows
is zero. -/
def display (time : DateTime) : Text :=
  let clock :=
    [time.hour, time.minute] ++
      (if time.second = 0 ∧ time.microsecond = 0 then [] else [time.second]) ++
      (if time.microsecond = 0 then [] else [time.microsecond])
  let zone : List Text :=
    match time.offset with
    | none => []
    | some minutes =>
        if minutes = 0 then ["tzinfo=datetime.timezone.utc"]
        else ["tzinfo=datetime.timezone(" ++ CalendarError.durationText minutes ++ ")"]
  "datetime.datetime(" ++ Text.join ", " ((time.date.numbers ++ clock).map Text.ofNat ++ zone)
    ++ ")"

/-- The microseconds from the beginning of year 1, in universal time if the offset is known. -/
def instant (time : DateTime) : Int :=
  let minutes : Int :=
    (time.date.dayNumber * 1440 + time.hour * 60 + time.minute : Nat) - time.offset.getD 0
  (minutes * 60 + time.second) * 1000000 + time.microsecond

/-- Two times name one instant, and both or neither know their offset. -/
def sameInstant (left right : DateTime) : Bool :=
  left.offset.isSome == right.offset.isSome && left.instant == right.instant

end DateTime

end ApiTypes
