import ApiTypes.Text.Printable

/-!
# Quoted text

Messages show texts and octets between quotation marks.  The single mark is
used unless the content holds it and no double mark.  What is not printable is
shown as an escape of two, four or eight hexadecimal digits.
-/

namespace ApiTypes

namespace Text

/-- The mark that goes around a content: double exactly when the content holds a single mark
and no double mark. -/
def quotationMark (content : Text) : CodePoint :=
  if content.contains (.scalar '\'') && !content.contains (.scalar '"') then .scalar '"'
  else .scalar '\''

/-- The escapes that have a letter of their own, and those of the mark and the backslash. -/
def quoteSpecial? (mark point : CodePoint) : Option Text :=
  if point = mark ∨ point = .scalar '\\' then some [.scalar '\\', point]
  else if point = .scalar '\n' then some "\\n"
  else if point = .scalar '\r' then some "\\r"
  else if point = .scalar '\t' then some "\\t"
  else none

/-- A code point as it stands between quotation marks. -/
def quotePoint (mark point : CodePoint) : Text :=
  match quoteSpecial? mark point with
  | some escape => escape
  | none =>
      if point.isPrintable then [point]
      else
        let number := point.toNat
        if number < 0x100 then "\\x" ++ hex 2 number
        else if number < 0x10000 then "\\u" ++ hex 4 number
        else "\\U" ++ hex 8 number

def quoted (content : Text) : Text :=
  let mark := quotationMark content
  mark :: content.flatMap (quotePoint mark) ++ [mark]

/-- Texts between quotation marks, as a list in brackets. -/
def quotedList (contents : List Text) : Text :=
  "[" ++ join ", " (contents.map quoted) ++ "]"

end Text

namespace Bytes

/-- An octet as it stands between quotation marks. -/
def quoteOctet (mark : CodePoint) (octet : UInt8) : Text :=
  let point := CodePoint.ofNat octet.toNat
  match Text.quoteSpecial? mark point with
  | some escape => escape
  | none =>
      if octet.toNat < 0x80 && point.isPrintable then [point]
      else "\\x" ++ Text.hex 2 octet.toNat

/-- Octets between quotation marks, after the letter `b`. -/
def quoted (content : Bytes) : Text :=
  let mark := Text.quotationMark (content.map fun octet => CodePoint.ofNat octet.toNat)
  .scalar 'b' :: mark :: content.flatMap (quoteOctet mark) ++ [mark]

end Bytes

end ApiTypes
