import ApiTypes.Text

/-!
# Kinds of schemas

The kinds of values that a schema may name.
-/

namespace ApiTypes

inductive SchemaKind where
  | number
  | text
  | boolean
  | array
  | object
  | unknown
  | enumeration
  deriving DecidableEq, Repr

namespace SchemaKind

/-- The kind that a word stands for. -/
def ofName? (name : Text) : Option SchemaKind :=
  if name = "integer" ∨ name = "number" then some .number
  else if name = "string" then some .text
  else if name = "boolean" then some .boolean
  else if name = "array" then some .array
  else if name = "object" then some .object
  else if name = "unknown" then some .unknown
  else if name = "enum" then some .enumeration
  else none

end SchemaKind

end ApiTypes
