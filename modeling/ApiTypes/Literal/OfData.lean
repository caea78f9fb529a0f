import ApiTypes.Literal
import ApiTypes.Log

/-!
# Literals of loaded data

Data becomes a literal of the same shape.  Dates and times become their texts,
and integers the nearest number of double precision.  Entries of a mapping whose
key is no text are left out and reported, and their values are not looked at.
-/

namespace ApiTypes

inductive LiteralFault where
  /-- There are no literals of this kind. -/
  | noLiteral (kind : Text)
  /-- An integer is beyond the range of finite numbers. -/
  | integerTooLarge
  /-- A collection holds itself, so that its conversion does not end on any stack. -/
  | endless
  deriving DecidableEq

namespace LiteralFault

/-- The report of data that is no literal; where the stack is exhausted, the words are up to the
system. -/
def message? : LiteralFault → Option Text
  | .noLiteral kind => some ("Cannot convert " ++ kind ++ " to a literal value")
  | .integerTooLarge => some "int too large to convert to float"
  | .endless => none

end LiteralFault

namespace Literal

mutual

def ofData : Data → Logged LiteralFault Literal
  | .null => pure .null
  | .boolean value => pure (.boolean value)
  | .integer value =>
      match Double.ofInt? value with
      | some double => pure (.number double)
      | none => Logged.fail .integerTooLarge
  | .float value => pure (.number value)
  | .text value => pure (.text value)
  | .bytes _ => Logged.fail (.noLiteral "bytes")
  | .date value => pure (.text value.isoText)
  | .dateTime value => pure (.text value.isoText)
  | .list items => do return .list (← ofItems items)
  | .tuple items => do return .list (← ofItems items)
  | .set _ => Logged.fail (.noLiteral "set")
  | .mapping entries => do return .map (← ofEntries entries)
  | .enclosing _ => Logged.fail .endless

def ofItems : List Data → Logged LiteralFault (List Literal)
  | [] => pure []
  | item :: items => do
      let literal ← ofData item
      let literals ← ofItems items
      return literal :: literals

/-- The entries of a mapping whose key is a text. -/
def ofEntries : List (Data × Data) → Logged LiteralFault (List (Literal × Literal))
  | [] => pure []
  | (.text name, value) :: entries => do
      let literal ← ofData value
      let literals ← ofEntries entries
      return (.text name, literal) :: literals
  | (key, _) :: entries => do
      Logged.report (.keyDropped key)
      ofEntries entries

end

end Literal

end ApiTypes
