import ApiTypes.Shape.Collection

/-!
# Grammar of documents

The objects that the documents of both formats are made of, with the names of
their members.  Data is tried in one format and then in the other, so that the
root and the information about a document are the same parts in both.
-/

namespace ApiTypes

open Shape

/-- A kind of objects of a document.  A part for which a reference may stand comes with the member
that makes it one. -/
inductive Part where
  | document
  | info
  | contact
  | license
  /-- A schema of the older format. -/
  | definition
  | components
  /-- A schema of the newer format. -/
  | schema
  | pathItem
  | operation
  | parameter
  | response
  | header
  | mediaType
  deriving DecidableEq

/-- What a member of an object holds. -/
inductive Content where
  /-- Data without parts of the grammar. -/
  | plain
  | part (part : Part)
  | list (part : Part)
  /-- Schemas under names of their own, which are declared or become fields. -/
  | named (part : Part)
  /-- Other parts under names. -/
  | dictionary (part : Part)
  deriving DecidableEq

/-- A member of an object: its name in specifications, and the second name under which it is
found. -/
structure Member where
  wire : Text
  own : Text
  content : Content
  deriving DecidableEq

namespace Part

def members : Part → List Member
  | .document => [⟨"swagger", "swagger", .plain⟩, ⟨"info", "info", .part .info⟩,
      ⟨"definitions", "definitions", .named .definition⟩, ⟨"openapi", "openapi", .plain⟩,
      ⟨"paths", "paths", .dictionary .pathItem⟩,
      ⟨"components", "components", .part .components⟩]
  | .info => [⟨"title", "title", .plain⟩, ⟨"version", "version", .plain⟩,
      ⟨"description", "description", .plain⟩, ⟨"termsOfService", "terms_of_service", .plain⟩,
      ⟨"contact", "contact", .part .contact⟩, ⟨"license", "license", .part .license⟩]
  | .contact => [⟨"name", "name", .plain⟩, ⟨"url", "url", .plain⟩, ⟨"email", "email", .plain⟩]
  | .license => [⟨"name", "name", .plain⟩, ⟨"url", "url", .plain⟩]
  | .definition => [⟨"$ref", "ref", .plain⟩, ⟨"description", "description", .plain⟩,
      ⟨"type", "schema_type", .plain⟩, ⟨"format", "format", .plain⟩,
      ⟨"enum", "enum_values", .plain⟩, ⟨"required", "required", .plain⟩,
      ⟨"items", "items", .part .definition⟩, ⟨"properties", "properties", .named .definition⟩,
      ⟨"allOf", "all_of", .list .definition⟩]
  | .components => [⟨"schemas", "schemas", .named .schema⟩]
  | .schema => [⟨"$ref", "ref", .plain⟩, ⟨"title", "title", .plain⟩,
      ⟨"description", "description", .plain⟩, ⟨"multipleOf", "multiple_of", .plain⟩,
      ⟨"required", "required", .plain⟩, ⟨"enum", "enum_values", .plain⟩,
      ⟨"type", "schema_type", .plain⟩, ⟨"format", "format", .plain⟩,
      ⟨"nullable", "nullable", .plain⟩, ⟨"default", "default", .plain⟩,
      ⟨"oneOf", "one_of", .list .schema⟩, ⟨"allOf", "all_of", .list .schema⟩,
      ⟨"anyOf", "any_of", .list .schema⟩, ⟨"not", "not_", .part .schema⟩,
      ⟨"items", "items", .part .schema⟩, ⟨"properties", "properties", .named .schema⟩,
      ⟨"additionalProperties", "additional_properties", .part .schema⟩]
  | .pathItem => [⟨"$ref", "ref", .plain⟩, ⟨"get", "get", .part .operation⟩,
      ⟨"put", "put", .part .operation⟩, ⟨"post", "post", .part .operation⟩,
      ⟨"delete", "delete", .part .operation⟩, ⟨"options", "options", .part .operation⟩,
      ⟨"head", "head", .part .operation⟩, ⟨"patch", "patch", .part .operation⟩,
      ⟨"trace", "trace", .part .operation⟩, ⟨"parameters", "parameters", .list .parameter⟩]
  | .operation => [⟨"operationId", "operation_id", .plain⟩, ⟨"summary", "summary", .plain⟩,
      ⟨"parameters", "parameters", .list .parameter⟩,
      ⟨"responses", "responses", .dictionary .response⟩]
  | .parameter => [⟨"$ref", "ref", .plain⟩, ⟨"name", "name", .plain⟩,
      ⟨"in", "location", .plain⟩, ⟨"required", "required", .plain⟩,
      ⟨"deprecated", "deprecated", .plain⟩, ⟨"schema", "param_schema", .part .schema⟩]
  | .response => [⟨"$ref", "ref", .plain⟩, ⟨"description", "description", .plain⟩,
      ⟨"headers", "headers", .dictionary .header⟩,
      ⟨"content", "content", .dictionary .mediaType⟩]
  | .header => [⟨"$ref", "ref", .plain⟩, ⟨"required", "required", .plain⟩,
      ⟨"deprecated", "deprecated", .plain⟩, ⟨"allowEmptyValue", "allow_empty_value", .plain⟩,
      ⟨"schema", "header_schema", .part .schema⟩]
  | .mediaType => [⟨"schema", "media_schema", .part .schema⟩]

/-- The names that specifications use in a part. -/
def wireKeys (part : Part) : List Text :=
  part.members.map Member.wire

/-- The member that an entry with a key may be. -/
def member? (part : Part) (key : Data) : Option Member :=
  part.members.find? fun member =>
    Data.sameKey key (.text member.wire) || Data.sameKey key (.text member.own)

/-- What an entry with a key holds. -/
def content (part : Part) (key : Data) : Content :=
  ((part.member? key).map Member.content).getD .plain

/-- The way from an object to what an entry with a key holds. -/
def step (part : Part) (key : Data) : Step :=
  .name (((part.member? key).map Member.wire).getD [])

/-- No two members have a name in common. -/
theorem member?_wire_and_own (part : Part) :
    ∀ member ∈ part.members, part.member? (.text member.wire) = some member ∧
      part.member? (.text member.own) = some member := by
  cases part <;> decide +kernel

/-- Members that share a name are one member. -/
theorem eq_of_shared_name {part : Part} {member other : Member} {name : Text}
    (isMember : member ∈ part.members) (isOther : other ∈ part.members)
    (named : name = member.wire ∨ name = member.own)
    (otherNamed : name = other.wire ∨ name = other.own) : member = other := by
  obtain ⟨wire, own⟩ := part.member?_wire_and_own member isMember
  obtain ⟨otherWire, otherOwn⟩ := part.member?_wire_and_own other isOther
  have found : part.member? (.text name) = some member := by
    rcases named with rfl | rfl
    · exact wire
    · exact own
  have otherFound : part.member? (.text name) = some other := by
    rcases otherNamed with rfl | rfl
    · exact otherWire
    · exact otherOwn
  exact Option.some.inj (found.symm.trans otherFound)

end Part

end ApiTypes
