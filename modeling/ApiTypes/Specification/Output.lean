import ApiTypes.Declaration.Selection
import ApiTypes.Identifier
import ApiTypes.OpenApi.Lowering
import ApiTypes.Specification
import ApiTypes.Swagger.Lowering

/-!
# Output for specifications

The declarations of a specification, and the text of a module with those that
are selected.
-/

namespace ApiTypes.Specification

/-- The declarations for the named schemas of a specification. -/
def declarations (specification : Specification) :
    Logged OpenApi.LoweringFault (List Declaration) := do
  let declarations ←
    match specification with
    | .swagger document => Logged.ofExcept (document.declarations.mapError .foreignReference)
    | .openApi document => document.declarations
  Logged.report (.declared declarations.length)
  return declarations

/-- The reports of declarations whose name is no identifier. -/
def nameWarnings (declarations : List Declaration) : List Event :=
  (declarations.filter fun declaration => !declaration.name.isIdentifier).map
    fun declaration => .invalidName declaration.name

/-- The text of a module with the selected declarations. -/
def output (specification : Specification) (selection : Selection) :
    Logged OpenApi.LoweringFault Text := do
  let declarations ← specification.declarations
  let kept := selection.kept declarations
  Logged.reportAll (selection.dropped declarations ++ nameWarnings kept)
  return Declaration.moduleText kept

end ApiTypes.Specification
