import ApiTypes.Data
import ApiTypes.Text.Blank
import ApiTypes.Yaml.Fault

/-!
# Timestamps in YAML

A date, or a date with a time of day and perhaps a distance from universal time.
Month, day and hour may have a single digit in the long form.
-/

namespace ApiTypes.Yaml

/-- The numbers that a timestamp spells. -/
structure Timestamp where
  year : Nat
  month : Nat
  day : Nat
  /-- Month and day have two digits. -/
  padded : Bool
  /-- Hour, minute, second, and the digits of a fraction of a second. -/
  clock : Option (Nat × Nat × Nat × List Nat)
  /-- The distance from universal time in minutes. -/
  offset : Option Int
  deriving DecidableEq

namespace Timestamp

/-- A number with a number of digits between two bounds, and what follows it. -/
def number? (least greatest : Nat) (text : Text) : Option (List Nat × Text) :=
  let (digits, rest) := Text.splitDigits text
  if least ≤ digits.length ∧ digits.length ≤ greatest then some (digits, rest) else none

/-- What follows one code point at the beginning of a text. -/
def after? (char : Char) : Text → Option Text
  | [] => none
  | point :: rest => if point == .scalar char then some rest else none

/-- The distance from universal time at the end of a timestamp; none if nothing is left. -/
def zone? (text : Text) : Option (Option Int) :=
  if text.isEmpty then some none
  else
    match text.dropWhile fun point => point == .scalar ' ' || point == .scalar '\t' with
    | [.scalar 'Z'] => some (some 0)
    | sign :: rest =>
        if sign == .scalar '+' || sign == .scalar '-' then do
          let (hour, rest) ← number? 1 2 rest
          let (minute, rest) ←
            match rest with
            | .scalar ':' :: rest => number? 2 2 rest
            | _ => some ([], rest)
          if rest.isEmpty then
            let minutes : Nat := Text.valueOfDigits 10 hour * 60 + Text.valueOfDigits 10 minute
            some (some (if sign == .scalar '-' then -(minutes : Int) else minutes))
          else none
        else none
    | [] => none

/-- The time of day and the zone after a date. -/
def clock? (text : Text) : Option ((Nat × Nat × Nat × List Nat) × Option Int) := do
  let (hour, rest) ← number? 1 2 text
  let (minute, rest) ← number? 2 2 (← after? ':' rest)
  let (second, rest) ← number? 2 2 (← after? ':' rest)
  let (fraction, rest) :=
    match rest with
    | .scalar '.' :: rest => Text.splitDigits rest
    | _ => ([], rest)
  let offset ← zone? rest
  let value := Text.valueOfDigits 10
  return ((value hour, value minute, value second, fraction), offset)

/-- What follows the mark between date and time: a letter, or blanks. -/
def afterDate? : Text → Option Text
  | [] => none
  | point :: rest =>
      if point == .scalar 'T' || point == .scalar 't' then some rest
      else if point == .scalar ' ' || point == .scalar '\t' then
        some (rest.dropWhile fun point => point == .scalar ' ' || point == .scalar '\t')
      else none

def ofText? (text : Text) : Option Timestamp := do
  let (year, rest) ← number? 4 4 text
  let (month, rest) ← number? 1 2 (← after? '-' rest)
  let (day, rest) ← number? 1 2 (← after? '-' rest)
  let value := Text.valueOfDigits 10
  let padded := month.length == 2 && day.length == 2
  if rest.isEmpty then
    return { year := value year, month := value month, day := value day, padded, clock := none,
             offset := none }
  else
    let (clock, offset) ← clock? (← afterDate? rest)
    return { year := value year, month := value month, day := value day, padded,
             clock := some clock, offset }

/-- A plain scalar of this form is a timestamp: without a time, month and day need two digits. -/
def isPlain (timestamp : Timestamp) : Bool :=
  timestamp.padded || timestamp.clock.isSome

/-- The first six digits of a fraction of a second, filled up with zeros. -/
def microseconds (fraction : List Nat) : Nat :=
  let digits := fraction.take 6
  Text.valueOfDigits 10 digits * Nat.pow 10 (6 - digits.length)

/-- The day or time that a timestamp names.  The offset, less than a day in either direction,
is looked at first. -/
def toData (timestamp : Timestamp) : Except CalendarError Data :=
  match timestamp.clock with
  | none => do
      return .date (← Date.make timestamp.year timestamp.month timestamp.day)
  | some (hour, minute, second, fraction) => do
      match timestamp.offset with
      | some minutes => if 1440 ≤ minutes.natAbs then throw (.offset minutes)
      | none => pure ()
      return .dateTime
        (← DateTime.make timestamp.year timestamp.month timestamp.day hour minute second
          (microseconds fraction) timestamp.offset)

end Timestamp

end ApiTypes.Yaml
