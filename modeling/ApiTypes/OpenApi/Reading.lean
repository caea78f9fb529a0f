import ApiTypes.OpenApi.Document

/-!
# Reading of OpenAPI 3.0 documents

A slot is read as a reference if it can be one.  Extensions among the paths and
among the responses are left out.
-/

namespace ApiTypes.OpenApi

open Shape

/-- How deep schemas, parameters and operations may be nested. -/
def deepestNesting : Nat := 254

section Places

variable {Place : Type} [View Place]

/-- The target of a reference, for which one level is needed. -/
def readReference (levels : Nat) (place : Place) : Checked Text :=
  match levels with
  | 0 => .refuse .recursion (View.displayed place)
  | _ + 1 => place |> object fun members => members.needed "$ref" "ref" text

/-- A reference, or else a part with the given name. -/
def readSlot (levels : Nat) (name : Text) (read : Place → Checked α) (place : Place) :
    Checked (Slot α) :=
  Slot.reference <$> (readReference levels place).labelled "Reference"
    <|> Slot.inline <$> (read place).labelled name

/-- The data at a place, whatever it is. -/
def anything (place : Place) : Checked Data :=
  .valid (View.data place)

/-- A schema within parts of which `levels` more may be nested. -/
def readSchema : (levels : Nat) → Place → Checked Schema
  | 0, place => .refuse .recursion (View.displayed place)
  | levels + 1, place =>
      match View.enter place with
      | none => .refuse .recursion (View.displayed place)
      | some place =>
          let slot := readSlot levels "Schema" (readSchema levels)
          let additional (place : Place) : Checked (Bool ⊕ Slot Schema) :=
            Sum.inl <$> (truth place).labelled "bool" <|> Sum.inr <$> slot place
          place |> object fun members =>
            Schema.mk
              <$> members.optional "title" "title" text
              <*> members.optional "description" "description" text
              <*> members.optional "multipleOf" "multiple_of" number
              <*> members.optional "required" "required" (list text)
              <*> members.optional "enum" "enum_values" (list anything)
              <*> members.optional "type" "schema_type" text
              <*> members.optional "format" "format" text
              <*> members.optional "nullable" "nullable" truth
              <*> members.optional "default" "default" anything
              <*> members.optional "oneOf" "one_of" (list slot)
              <*> members.optional "allOf" "all_of" (list slot)
              <*> members.optional "anyOf" "any_of" (list slot)
              <*> members.optional "not" "not_" slot
              <*> members.optional "items" "items" slot
              <*> members.optional "properties" "properties" (dictionary slot)
              <*> members.optional "additionalProperties" "additional_properties" additional

/-- A schema or a reference to one. -/
def readSchemaSlot (levels : Nat) (place : Place) : Checked (Slot Schema) :=
  readSlot levels "Schema" (readSchema levels) place

def locationOf (content : Data) : Checked ParameterLocation :=
  let name? : Option Text :=
    match content with
    | .text name => some name
    | .bytes name => (Bytes.decode name).toOption
    | _ => none
  match name?.bind ParameterLocation.ofName? with
  | some location => .valid location
  | none => .refuse .notInEnumeration content

def readParameter (levels : Nat) (place : Place) : Checked Parameter :=
  match levels with
  | 0 => .refuse .recursion (View.displayed place)
  | levels + 1 =>
      place |> object fun members =>
        Parameter.mk
          <$> members.needed "name" "name" text
          <*> members.needed "in" "location" (scalar locationOf .notInEnumeration)
          <*> members.optional "required" "required" truth
          <*> members.optional "deprecated" "deprecated" truth
          <*> members.optional "schema" "param_schema" (readSchemaSlot levels)

def readParameters (levels : Nat) (place : Place) : Checked (List (Slot Parameter)) :=
  list (readSlot levels "Parameter" (readParameter levels)) place

def readHeader (levels : Nat) (place : Place) : Checked Header :=
  place |> object fun members =>
    Header.mk
      <$> members.optional "required" "required" truth
      <*> members.optional "deprecated" "deprecated" truth
      <*> members.optional "allowEmptyValue" "allow_empty_value" truth
      <*> members.optional "schema" "header_schema" (readSchemaSlot levels)

def readMediaType (levels : Nat) (place : Place) : Checked MediaType :=
  place |> object fun members =>
    MediaType.mk <$> members.optional "schema" "media_schema" (readSchemaSlot levels)

def readResponse (levels : Nat) (place : Place) : Checked Response :=
  place |> object fun members =>
    Response.mk
      <$> members.optional "description" "description" text
      <*> members.optional "headers" "headers"
        (dictionary (readSlot levels "Header" (readHeader levels)))
      <*> members.optional "content" "content" (dictionary (readMediaType levels))

def readOperation (levels : Nat) (place : Place) : Checked Operation :=
  match levels with
  | 0 => .refuse .recursion (View.displayed place)
  | levels + 1 =>
      place |> object fun members =>
        Operation.mk
          <$> members.optional "operationId" "operation_id" text
          <*> members.optional "summary" "summary" text
          <*> members.optional "parameters" "parameters" (readParameters levels)
          <*> members.needed "responses" "responses"
            (dictionaryWithoutExtensions (readSlot levels "Response" (readResponse levels)))

def readPathItem (levels : Nat) (place : Place) : Checked PathItem :=
  place |> object fun members =>
    PathItem.mk
      <$> members.optional "$ref" "ref" text
      <*> members.optional "get" "get" (readOperation levels)
      <*> members.optional "put" "put" (readOperation levels)
      <*> members.optional "post" "post" (readOperation levels)
      <*> members.optional "delete" "delete" (readOperation levels)
      <*> members.optional "options" "options" (readOperation levels)
      <*> members.optional "head" "head" (readOperation levels)
      <*> members.optional "patch" "patch" (readOperation levels)
      <*> members.optional "trace" "trace" (readOperation levels)
      <*> members.optional "parameters" "parameters" (readParameters levels)

def readContact (place : Place) : Checked Contact :=
  place |> object fun members =>
    Contact.mk
      <$> members.optional "name" "name" text
      <*> members.optional "url" "url" text
      <*> members.optional "email" "email" text

def readLicense (place : Place) : Checked License :=
  place |> object fun members =>
    License.mk
      <$> members.needed "name" "name" text
      <*> members.optional "url" "url" text

def readInfo (place : Place) : Checked Info :=
  place |> object fun members =>
    Info.mk
      <$> members.needed "title" "title" text
      <*> members.needed "version" "version" text
      <*> members.optional "description" "description" text
      <*> members.optional "termsOfService" "terms_of_service" text
      <*> members.optional "contact" "contact" readContact
      <*> members.optional "license" "license" readLicense

def readComponents (levels : Nat) (place : Place) : Checked Components :=
  place |> object fun members =>
    Components.mk
      <$> members.optional "schemas" "schemas" (dictionary (readSchemaSlot levels))

def readDocument (place : Place) : Checked Document :=
  place |> object fun members =>
    Document.mk
      <$> members.needed "openapi" "openapi" text
      <*> members.needed "info" "info" readInfo
      <*> members.needed "paths" "paths"
        (dictionaryWithoutExtensions (readPathItem deepestNesting))
      <*> members.optional "components" "components" (readComponents deepestNesting)

end Places

end ApiTypes.OpenApi
