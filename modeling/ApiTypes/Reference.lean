import ApiTypes.Text

/-!
# References

A reference to a named schema of the same document is an opening that the format
fixes, and the name behind it.
-/

namespace ApiTypes

/-- A reference that does not begin with the opening of its format. -/
structure ForeignReference where
  reference : Text
  opening : Text
  deriving DecidableEq

namespace ForeignReference

/-- The report of a reference that does not point into the document. -/
def message (foreign : ForeignReference) : Text :=
  "Unable to parse reference '" ++ foreign.reference ++ "': expected prefix '"
    ++ foreign.opening ++ "'"

end ForeignReference

def localName (opening reference : Text) : Except ForeignReference Text :=
  match reference.after? opening with
  | some name => .ok name
  | none => .error { reference, opening }

end ApiTypes
