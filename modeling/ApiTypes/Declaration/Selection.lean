import ApiTypes.Declaration
import ApiTypes.Log
import ApiTypes.TypeExpr.Filter

/-!
# Selection of declarations

Which declarations become part of the output, and what is left of their types.
-/

namespace ApiTypes

/-- What to leave out. -/
structure Selection where
  /-- Types that have nothing but empty composites are left out. -/
  skipsEmpty : Bool := false
  /-- The types with these names are left out, and all references to them. -/
  excluded : List Text := []

namespace Selection

/-- The type that is left of a declaration that is not excluded itself. -/
def reduce (selection : Selection) (type : TypeExpr) : Except DropReason TypeExpr :=
  match if selection.skipsEmpty then type.prune else some type with
  | none => .error .empty
  | some pruned =>
      match pruned.exclude selection.excluded with
      | none => .error .onlyExcludedNames
      | some left => .ok left

/-- What is left of a declaration, or why nothing is. -/
def apply (selection : Selection) (declaration : Declaration) :
    Except DropReason Declaration :=
  if selection.excluded.contains declaration.name then .error .excluded
  else (selection.reduce declaration.type).map fun type => { declaration with type }

def kept (selection : Selection) (declarations : List Declaration) : List Declaration :=
  declarations.filterMap fun declaration => (selection.apply declaration).toOption

/-- The reports of the declarations that are not. -/
def dropped (selection : Selection) (declarations : List Declaration) : List Event :=
  declarations.filterMap fun declaration =>
    match selection.apply declaration with
    | .ok _ => none
    | .error reason => some (.declarationDropped declaration.name reason)

end Selection

end ApiTypes
