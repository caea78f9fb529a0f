import ApiTypes.Text

/-!
# Blank code points and line ends

Two classes of code points: those that are trimmed from the ends of a text, and
those that end a line.
-/

namespace ApiTypes

namespace CodePoint

/-- White space of any script, and the four separators of ASCII. -/
def isBlank (point : CodePoint) : Bool :=
  let number := point.toNat
  (0x09 ≤ number && number ≤ 0x0D) || (0x1C ≤ number && number ≤ 0x20) ||
    number == 0x85 || number == 0xA0 || number == 0x1680 ||
    (0x2000 ≤ number && number ≤ 0x200A) || number == 0x2028 || number == 0x2029 ||
    number == 0x202F || number == 0x205F || number == 0x3000

/-- Code points with the Unicode property `White_Space`. -/
def isWhiteSpace (point : CodePoint) : Bool :=
  point.isBlank && !(0x1C ≤ point.toNat && point.toNat ≤ 0x1F)

/-- A code point that ends a line. -/
def isLineEnd (point : CodePoint) : Bool :=
  let number := point.toNat
  (0x0A ≤ number && number ≤ 0x0D) || (0x1C ≤ number && number ≤ 0x1E) ||
    number == 0x85 || number == 0x2028 || number == 0x2029

end CodePoint

namespace Text

/-- A text without blank code points at its two ends. -/
def strip (text : Text) : Text :=
  text.trim CodePoint.isBlank

/-- A text without one line feed at its end. -/
def withoutLineFeed (text : Text) : Text :=
  if text.getLast? = some (.scalar '\n') then text.dropLast else text

/-- The lines of a text without the code points that end them; a carriage return and the
line feed after it end one line together, and nothing follows the last line end. -/
def lines : Text → List Text
  | [] => []
  | .scalar '\r' :: .scalar '\n' :: rest => [] :: lines rest
  | point :: rest =>
      if point.isLineEnd then [] :: lines rest
      else
        match lines rest with
        | [] => [[point]]
        | line :: others => (point :: line) :: others

end Text

end ApiTypes
