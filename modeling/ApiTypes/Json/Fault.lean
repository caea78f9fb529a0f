import ApiTypes.Double.Numeral

/-!
# Faults of JSON texts

A fault is a broken rule of the grammar with the place where it is seen, or an
integer with more digits than a numeral may have.
-/

namespace ApiTypes.Json

/-- What is wrong at a place of a text. -/
inductive Problem where
  | valueExpected
  | nameExpected
  | colonExpected
  | commaExpected
  | endExpected
  | stringNotClosed
  | controlCharacter
  | unknownEscape
  | escapeWithoutDigits
  deriving DecidableEq

inductive Fault where
  | malformed (problem : Problem) (line column position : Nat)
  | integer (error : IntegerError)
  deriving DecidableEq

namespace Problem

def message : Problem → Text
  | .valueExpected => "Expecting value"
  | .nameExpected => "Expecting property name enclosed in double quotes"
  | .colonExpected => "Expecting ':' delimiter"
  | .commaExpected => "Expecting ',' delimiter"
  | .endExpected => "Extra data"
  | .stringNotClosed => "Unterminated string starting at"
  | .controlCharacter => "Invalid control character at"
  | .unknownEscape => "Invalid \\escape"
  | .escapeWithoutDigits => "Invalid \\uXXXX escape"

/-- A problem with the line and the column of a position in a text. -/
def locatedIn (problem : Problem) (text : Text) (position : Nat) : Fault :=
  let before := text.take position
  .malformed problem
    (before.count (.scalar '\n') + 1)
    ((before.reverse.takeWhile (· != .scalar '\n')).length + 1)
    position

end Problem

namespace Fault

def message : Fault → Text
  | .malformed problem line column position =>
      problem.message ++ ": line " ++ Text.ofNat line ++ " column " ++ Text.ofNat column
        ++ " (char " ++ Text.ofNat position ++ ")"
  | .integer error => error.message

end Fault

end ApiTypes.Json
