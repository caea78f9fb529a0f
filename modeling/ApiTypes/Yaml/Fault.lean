import ApiTypes.Calendar
import ApiTypes.Double.Numeral

/-!
# Faults of YAML documents

A document that breaks the grammar is malformed.  The other faults are scalars
that no value belongs to, although the grammar admits them.
-/

namespace ApiTypes.Yaml

/-- Why a text is no YAML document. -/
inductive Fault where
  /-- The text breaks a rule of the grammar, or a tag does not fit its node. -/
  | malformed
  /-- An escape names a number beyond the last code point. -/
  | escapeOutOfRange (number : Nat)
  | calendar (error : CalendarError)
  | integer (error : IntegerError)
  /-- A number has no digits at all. -/
  | emptyNumber
  | notADouble (content : Text)
  | notABoolean (content : Text)
  | notATimestamp
  /-- A timestamp is written as a mapping. -/
  | timestampMapping
  /-- A sexagesimal place is beyond the range of finite numbers. -/
  | placeTooLarge
  /-- A default value leads back to itself. -/
  | endless
  deriving DecidableEq

namespace Fault

/-- The report of a fault; where the stack is exhausted, the words are up to the system. -/
def message? : Fault → Option Text
  | .malformed => some "<yaml>"
  | .escapeOutOfRange number =>
      if number < 0x80000000 then some "chr() arg not in range(0x110000)"
      else some "Python int too large to convert to C int"
  | .calendar error => error.message
  | .integer error => error.message
  | .emptyNumber => some "string index out of range"
  | .notADouble content => some ("could not convert string to float: " ++ content.quoted)
  | .notABoolean content => some content.quoted
  | .notATimestamp => some "'NoneType' object has no attribute 'groupdict'"
  | .timestampMapping => some "expected string or bytes-like object, got 'list'"
  | .placeTooLarge => some "int too large to convert to float"
  | .endless => none

end Fault

end ApiTypes.Yaml
