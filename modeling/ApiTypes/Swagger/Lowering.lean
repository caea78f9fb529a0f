import ApiTypes.Declaration
import ApiTypes.Reference
import ApiTypes.SchemaKind
import ApiTypes.Swagger.Document

/-!
# Types of Swagger 2.0 schemas

A schema is a reference, an intersection, or a type of its kind, in this order of
precedence.  A schema without a kind is an empty record, and one of a kind that
is not known admits anything.
-/

namespace ApiTypes.Swagger

def referenceOpening : Text := "#/definitions/"

/-- The type of a text with an enumeration or a format. -/
def textType (enumeration : Option (List Text)) (format : Option Text) : TypeExpr :=
  match enumeration with
  | some words => .union (words.map fun word => .literal (.text word))
  | none => if format = some (Text.ofString "date-time") then TypeExpr.date else TypeExpr.string

namespace Schema

mutual

def lower (schema : Schema) : Except ForeignReference TypeExpr :=
  match schema with
  | { reference, kind, format, enumeration, required, items, properties, allOf, .. } =>
      match reference with
      | some target => do return .named (← localName referenceOpening target)
      | none =>
          match allOf with
          | some members => do return .intersection (← lowerMembers members)
          | none =>
              match kind with
              | none => .ok (.record [])
              | some name =>
                  match SchemaKind.ofName? name with
                  | some .number => .ok TypeExpr.number
                  | some .text => .ok (textType enumeration format)
                  | some .boolean => .ok TypeExpr.boolean
                  | some .array =>
                      match items with
                      | some item => do return .array (← lower item)
                      | none => .ok TypeExpr.any
                  | some .object =>
                      match properties with
                      | some properties => do
                          return .record (← lowerProperties (required.getD []) properties)
                      | none => .ok (.record [])
                  | _ => .ok TypeExpr.any

def lowerMembers : List Schema → Except ForeignReference (List TypeExpr)
  | [] => .ok []
  | member :: members => do
      let type ← lower member
      let types ← lowerMembers members
      return type :: types

/-- The fields for properties, of which some are required. -/
def lowerProperties (required : List Text) :
    List (Text × Schema) → Except ForeignReference (List (Field TypeExpr))
  | [] => .ok []
  | (name, schema) :: properties => do
      let type ← lower schema
      let fields ← lowerProperties required properties
      return { name, required := required.contains name, type } :: fields

end

end Schema

def declare : List (Text × Schema) → Except ForeignReference (List Declaration)
  | [] => .ok []
  | (name, schema) :: schemas => do
      let type ← schema.lower
      let declarations ← declare schemas
      return { name, type } :: declarations

/-- The declarations for the definitions of a document. -/
def Document.declarations (document : Document) : Except ForeignReference (List Declaration) :=
  declare (document.definitions.getD [])

end ApiTypes.Swagger
