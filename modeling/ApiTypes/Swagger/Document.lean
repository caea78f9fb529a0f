import ApiTypes.Shape.Collection

/-!
# Swagger 2.0 documents

The parts of a document that its definitions are made of.
-/

namespace ApiTypes.Swagger

structure Info where
  title : Option Text
  version : Option Text
  description : Option Text

/-- A schema.  With a reference it stands for another definition. -/
structure Schema where
  reference : Option Text
  description : Option Text
  kind : Option Text
  format : Option Text
  enumeration : Option (List Text)
  required : Option (List Text)
  items : Option Schema
  properties : Option (List (Text × Schema))
  allOf : Option (List Schema)

structure Document where
  swagger : Text
  info : Option Info
  definitions : Option (Dictionary Schema)

end ApiTypes.Swagger
