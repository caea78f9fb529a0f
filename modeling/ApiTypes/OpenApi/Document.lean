import ApiTypes.Shape.Collection

/-!
# OpenAPI 3.0 documents

The parts of a document with their members.  In many places a reference may
stand for a part.
-/

namespace ApiTypes.OpenApi

/-- A part of a document, or a reference to one. -/
inductive Slot (Part : Type) where
  | reference (target : Text)
  | inline (part : Part)

structure Schema where
  title : Option Text
  description : Option Text
  multipleOf : Option Double
  required : Option (List Text)
  enumeration : Option (List Data)
  kind : Option Text
  format : Option Text
  nullable : Option Bool
  preset : Option Data
  oneOf : Option (List (Slot Schema))
  allOf : Option (List (Slot Schema))
  anyOf : Option (List (Slot Schema))
  negated : Option (Slot Schema)
  items : Option (Slot Schema)
  properties : Option (List (Text × Slot Schema))
  additionalProperties : Option (Bool ⊕ Slot Schema)

inductive ParameterLocation where
  | query
  | header
  | path
  | cookie
  deriving DecidableEq, Repr

namespace ParameterLocation

def name : ParameterLocation → Text
  | .query => "query"
  | .header => "header"
  | .path => "path"
  | .cookie => "cookie"

def all : List ParameterLocation :=
  [.query, .header, .path, .cookie]

/-- The location that a word stands for. -/
def ofName? (name : Text) : Option ParameterLocation :=
  all.find? fun location => location.name = name

end ParameterLocation

structure Parameter where
  name : Text
  location : ParameterLocation
  required : Option Bool
  deprecated : Option Bool
  schema : Option (Slot Schema)

structure Header where
  required : Option Bool
  deprecated : Option Bool
  allowEmptyValue : Option Bool
  schema : Option (Slot Schema)

structure MediaType where
  schema : Option (Slot Schema)

structure Response where
  description : Option Text
  headers : Option (Dictionary (Slot Header))
  content : Option (Dictionary MediaType)

/-- An operation on a path. -/
structure Operation where
  operationId : Option Text
  summary : Option Text
  parameters : Option (List (Slot Parameter))
  responses : Dictionary (Slot Response)

structure PathItem where
  reference : Option Text
  get : Option Operation
  put : Option Operation
  post : Option Operation
  delete : Option Operation
  options : Option Operation
  head : Option Operation
  patch : Option Operation
  trace : Option Operation
  parameters : Option (List (Slot Parameter))

structure Contact where
  name : Option Text
  url : Option Text
  email : Option Text

structure License where
  name : Text
  url : Option Text

structure Info where
  title : Text
  version : Text
  description : Option Text
  termsOfService : Option Text
  contact : Option Contact
  license : Option License

structure Components where
  schemas : Option (Dictionary (Slot Schema))

structure Document where
  openapi : Text
  info : Info
  paths : Dictionary PathItem
  components : Option Components

end ApiTypes.OpenApi
