import ApiTypes.Declaration
import ApiTypes.Literal.OfData
import ApiTypes.OpenApi.Document
import ApiTypes.Reference
import ApiTypes.SchemaKind

/-!
# Types of OpenAPI 3.0 schemas

A schema is an intersection or a type of its kind.  The members of an enumeration
keep their kind.  A schema of a kind that is not known has no type, and neither
has an array without items.
-/

namespace ApiTypes.OpenApi

def referenceOpening : Text := "#/components/schemas/"

inductive LoweringFault where
  | foreignReference (foreign : ForeignReference)
  | arrayWithoutItems (schema : Schema)
  | unknownKind (kind : Text) (schema : Schema)
  | literal (fault : LiteralFault)

namespace LoweringFault

/-- The report of a schema without a type. -/
def message? : LoweringFault → Option Text
  | .foreignReference foreign => some foreign.message
  | .arrayWithoutItems _ => some "Unable to convert array schema without 'items'"
  | .unknownKind kind _ => some ("Attempting to parse schema with unknown type '" ++ kind ++ "'")
  | .literal fault => fault.message?

end LoweringFault

/-- The literals of the members of an enumeration. -/
def enumerationMembers : List Data → Logged LiteralFault (List TypeExpr)
  | [] => pure []
  | member :: members => do
      let literal ← Literal.ofData member
      let types ← enumerationMembers members
      return .literal literal :: types

/-- The union of the members of an enumeration. -/
def enumerationType (members : List Data) : Logged LoweringFault TypeExpr :=
  (TypeExpr.union <$> enumerationMembers members).mapFault .literal

/-- The formats of texts that stand for dates. -/
def dateFormats : List Text := ["date", "date-time"]

/-- The type of a text with an enumeration or a format. -/
def textType (enumeration : Option (List Data)) (format : Option Text) :
    Logged LoweringFault TypeExpr :=
  match enumeration with
  | some members => enumerationType members
  | none => pure (if format.any dateFormats.contains then TypeExpr.date else TypeExpr.string)

/-- The name in a reference as a type. -/
def referenceType (target : Text) : Logged LoweringFault TypeExpr :=
  match localName referenceOpening target with
  | .ok name => pure (.named name)
  | .error foreign => Logged.fail (.foreignReference foreign)

namespace Schema

mutual

def lower (schema : Schema) : Logged LoweringFault TypeExpr :=
  match schema with
  | { kind, format, enumeration, required, items, properties, allOf, .. } =>
      match allOf with
      | some members => do return .intersection (← lowerMembers members)
      | none =>
          match kind with
          | none =>
              match enumeration with
              | some members => enumerationType members
              | none =>
                  match properties with
                  | some properties => do
                      return .record (← lowerProperties (required.getD []) properties)
                  | none => pure TypeExpr.any
          | some name =>
              match SchemaKind.ofName? name with
              | some .number => pure TypeExpr.number
              | some .text => textType enumeration format
              | some .boolean => pure TypeExpr.boolean
              | some .array =>
                  match items with
                  | some slot => do return .array (← lowerSlot slot)
                  | none => Logged.fail (.arrayWithoutItems schema)
              | some .object =>
                  match properties with
                  | some properties => do
                      return .record (← lowerProperties (required.getD []) properties)
                  | none => pure (.record [])
              | some .unknown => pure TypeExpr.unknown
              | some .enumeration => enumerationType (enumeration.getD [])
              | none => Logged.fail (.unknownKind name schema)

/-- The type of a reference or of a schema. -/
def lowerSlot : Slot Schema → Logged LoweringFault TypeExpr
  | .reference target => referenceType target
  | .inline schema => lower schema

def lowerMembers : List (Slot Schema) → Logged LoweringFault (List TypeExpr)
  | [] => pure []
  | member :: members => do
      let type ← lowerSlot member
      let types ← lowerMembers members
      return type :: types

/-- The fields for properties, of which some are required. -/
def lowerProperties (required : List Text) :
    List (Text × Slot Schema) → Logged LoweringFault (List (Field TypeExpr))
  | [] => pure []
  | (name, slot) :: properties => do
      let type ← lowerSlot slot
      let fields ← lowerProperties required properties
      return { name, required := required.contains name, type } :: fields

end

end Schema

def declare : List (Text × Slot Schema) → Logged LoweringFault (List Declaration)
  | [] => pure []
  | (name, slot) :: schemas => do
      let type ← Schema.lowerSlot slot
      let declarations ← declare schemas
      return { name, type } :: declarations

/-- The declarations for the schemas of a document. -/
def Document.declarations (document : Document) : Logged LoweringFault (List Declaration) :=
  match document.components.bind Components.schemas with
  | some schemas => declare schemas
  | none => do
      Logged.report .noSchemas
      return []

end ApiTypes.OpenApi
