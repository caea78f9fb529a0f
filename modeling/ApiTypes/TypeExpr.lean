import ApiTypes.Literal

/-!
# Type expressions

The types that schemas are lowered to, and their TypeScript text.  An
intersection without members is `unknown` and a union without members `never`.
-/

namespace ApiTypes

/-- A member of a record with a type of its own. -/
structure Field (Expr : Type) where
  name : Text
  required : Bool
  type : Expr

/-- A type of TypeScript. -/
inductive TypeExpr where
  | array (element : TypeExpr)
  | intersection (members : List TypeExpr)
  | union (members : List TypeExpr)
  | named (name : Text)
  | record (fields : List (Field TypeExpr))
  | literal (value : Literal)

namespace TypeExpr

instance : Inhabited TypeExpr := ⟨.record []⟩

/-- The types that need no declaration. -/
def number : TypeExpr := .named "number"

def string : TypeExpr := .named "string"

def boolean : TypeExpr := .named "boolean"

def date : TypeExpr := .named "Date"

def any : TypeExpr := .named "any"

/-- The type of which nothing is known. -/
def unknown : TypeExpr := .named "unknown"

/-- Unions and intersections with members, which need parentheses under an array suffix. -/
def isCompound : TypeExpr → Bool
  | .intersection members => !members.isEmpty
  | .union members => !members.isEmpty
  | _ => false

def quoteName (name : Text) : Text :=
  .scalar '"' :: Literal.escape (.scalar '"') name ++ [.scalar '"']

/-- A field of a record whose type has the given text. -/
def fieldText (name : Text) (required : Bool) (type : Text) : Text :=
  quoteName name ++ (if required then "" else " ?") ++ " : " ++ type ++ ";"

mutual

/-- The text of a type. -/
def render : TypeExpr → Text
  | .array element =>
      if element.isCompound then "(" ++ render element ++ ")[]" else render element ++ "[]"
  | .intersection members =>
      if members.isEmpty then "unknown" else Text.join " & " (renderMembers members)
  | .union members =>
      if members.isEmpty then "never" else Text.join "|" (renderMembers members)
  | .named name => name
  | .record fields => "\x7b" ++ renderFields fields ++ "\x7d"
  | .literal value => value.render

def renderMembers : List TypeExpr → List Text
  | [] => []
  | member :: members => render member :: renderMembers members

/-- The texts of the fields of a record, one after another. -/
def renderFields : List (Field TypeExpr) → Text
  | [] => []
  | ⟨name, required, type⟩ :: fields =>
      fieldText name required (render type) ++ renderFields fields

end

theorem renderMembers_eq_map (members : List TypeExpr) :
    renderMembers members = members.map render := by
  induction members with
  | nil => rfl
  | cons member members ih => simp [renderMembers, ih]

theorem renderFields_eq_flatMap (fields : List (Field TypeExpr)) :
    renderFields fields =
      fields.flatMap fun field => fieldText field.name field.required field.type.render := by
  induction fields with
  | nil => rfl
  | cons field fields ih => simp [renderFields, ih]

end TypeExpr

end ApiTypes
