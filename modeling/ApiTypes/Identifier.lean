import ApiTypes.Text.Blank

/-!
# Identifiers

The names that may stand for a type.
-/

namespace ApiTypes.Text

/-- A letter of ASCII, an underscore or a dollar sign. -/
def isIdentifierStart (point : CodePoint) : Bool :=
  point.isAsciiLetter || point.isOneOf "_$"

/-- A code point of an identifier after the first one. -/
def isIdentifierPart (point : CodePoint) : Bool :=
  isIdentifierStart point || point.isDigit

/-- A name of letters, digits, underscores and dollar signs that begins with no digit; one line
feed may follow it. -/
def isIdentifier (text : Text) : Bool :=
  match text.withoutLineFeed with
  | [] => false
  | first :: rest => isIdentifierStart first && rest.all isIdentifierPart

end ApiTypes.Text
