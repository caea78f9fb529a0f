import ApiTypes.Swagger.Document

/-!
# Reading of Swagger 2.0 documents

The members of an enumeration are texts, and scalars that are written without
quotation marks stand for their own spelling.
-/

namespace ApiTypes.Swagger

open Shape

/-- How deep schemas may be nested. -/
def deepestNesting : Nat := 254

section Places

variable {Place : Type} [View Place]

def readInfo (place : Place) : Checked Info :=
  place |> object fun members =>
    Info.mk
      <$> members.optional "title" "title" text
      <*> members.optional "version" "version" text
      <*> members.optional "description" "description" text

/-- The spelling of a scalar of an enumeration; other data has none. -/
def spelling? : Data → Option Text
  | .null => some "null"
  | .boolean value => some (if value then "true" else "false")
  | .integer value => some (Text.ofInt value)
  | .float value => some value.text
  | .date value => some value.isoText
  | .dateTime value => some value.isoText
  | _ => none

/-- An integer that is too long to be spelled. -/
def isUnspeakable : Data → Bool
  | .integer value => decide (unwritableMagnitude ≤ value.natAbs)
  | _ => false

def readMember (place : Place) : Checked Text :=
  match View.layer place with
  | .scalar content => ((spelling? content).map Checked.valid).getD (textOf content)
  | _ => .refuse .notAText (View.displayed place)

/-- An enumeration.  Scalars are read by their spelling in lists only. -/
def readEnumeration (place : Place) : Checked (List Text) :=
  match View.layer place with
  | .sequence .list items =>
      if items.any fun item => isUnspeakable (View.data item) then
        .refuse .valueRefused (View.displayed place)
      else list readMember place
  | _ => list text place

/-- A schema within schemas of which `levels` more may be nested. -/
def readSchema : (levels : Nat) → Place → Checked Schema
  | 0, place => .refuse .recursion (View.displayed place)
  | levels + 1, place =>
      match View.enter place with
      | none => .refuse .recursion (View.displayed place)
      | some place =>
          place |> object fun members =>
            Schema.mk
              <$> members.optional "$ref" "ref" text
              <*> members.optional "description" "description" text
              <*> members.optional "type" "schema_type" text
              <*> members.optional "format" "format" text
              <*> members.optional "enum" "enum_values" readEnumeration
              <*> members.optional "required" "required" (list text)
              <*> members.optional "items" "items" (readSchema levels)
              <*> members.optional "properties" "properties" (dictionary (readSchema levels))
              <*> members.optional "allOf" "all_of" (list (readSchema levels))

def readDocument (place : Place) : Checked Document :=
  place |> object fun members =>
    Document.mk
      <$> members.needed "swagger" "swagger" text
      <*> members.optional "info" "info" readInfo
      <*> members.optional "definitions" "definitions" (dictionary (readSchema deepestNesting))

end Places

end ApiTypes.Swagger
