import ApiTypes.Comment
import ApiTypes.TypeExpr

/-!
# Declarations

Named types and the text of a module that declares them.
-/

namespace ApiTypes

/-- A type with the name under which it is exported. -/
structure Declaration where
  name : Text
  type : TypeExpr

namespace Declaration

/-- The notice at the head of a module. -/
def banner : Text :=
  "// This file was generated by ts-oas-generator. Do not edit by hand."

def line (declaration : Declaration) : Text :=
  "export type " ++ declaration.name ++ " = " ++ declaration.type.render ++ ";\n"

/-- The text of a module: the notice, and a line for each declaration. -/
def moduleText (declarations : List Declaration) : Text :=
  banner.lineComment ++ "\n" ++ declarations.flatMap line

end Declaration

end ApiTypes
