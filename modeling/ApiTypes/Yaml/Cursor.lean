import ApiTypes.Text

/-!
# Places in a YAML text

A cursor is what is left of a text together with the place that has been
reached.  Classes of code points are asked of the code point at some distance
ahead; the end of the text belongs to some of them.
-/

namespace ApiTypes

namespace CodePoint

def isBreak (point : CodePoint) : Bool :=
  point == .scalar '\n' || point == .scalar '\r' || point == .scalar '\x85' ||
    point == .scalar '\u2028' || point == .scalar '\u2029'

def isSpaceOrTab (point : CodePoint) : Bool :=
  point == .scalar ' ' || point == .scalar '\t'

/-- A code point that a YAML text may hold as it is. -/
def isYamlPrintable (point : CodePoint) : Bool :=
  let number := point.toNat
  number == 0x09 || number == 0x0A || number == 0x0D || (0x20 ≤ number && number ≤ 0x7E) ||
    number == 0x85 || (0xA0 ≤ number && number ≤ 0xD7FF) ||
    (0xE000 ≤ number && number ≤ 0xFFFD) || 0x10000 ≤ number

/-- A letter, a digit, a hyphen or an underscore. -/
def isWord (point : CodePoint) : Bool :=
  point.isDigit || point.isAsciiLetter || point == .scalar '-' || point == .scalar '_'

/-- A code point that a tag may hold. -/
def isTagPoint (point : CodePoint) : Bool :=
  point.isDigit || point.isAsciiLetter || point.isOneOf "-;/?:@&=+$,_.!~*'()[]%"

end CodePoint

namespace Yaml

/-- The end of the text, or a line break. -/
def endsLine : Option CodePoint → Bool
  | none => true
  | some point => point.isBreak

/-- The end of the text, a line break or a space. -/
def endsPart : Option CodePoint → Bool
  | none => true
  | some point => point.isBreak || point == .scalar ' '

/-- The end of the text, a line break, a space or a tab. -/
def endsToken : Option CodePoint → Bool
  | none => true
  | some point => point.isBreak || point.isSpaceOrTab

/-- What is left of a text, how long that is, and where it begins. -/
structure Cursor where
  rest : Text
  remaining : Nat
  remaining_eq : remaining = rest.length
  index : Nat
  line : Nat
  column : Nat

namespace Cursor

def start (text : Text) : Cursor :=
  { rest := text, remaining := text.length, remaining_eq := rfl, index := 0, line := 0
    column := 0 }

def peek (cursor : Cursor) (distance : Nat) : Option CodePoint :=
  cursor.rest[distance]?

def head (cursor : Cursor) : Option CodePoint :=
  cursor.rest.head?

/-- The place after one code point.  The two code points of a line break that has two end their
line together, and a byte order mark takes no column. -/
def advance (cursor : Cursor) : Cursor :=
  match split : cursor.rest with
  | [] => cursor
  | point :: rest =>
      let ended := point.isBreak && !(point == .scalar '\r' && rest.head? == some (.scalar '\n'))
      { rest
        remaining := cursor.remaining - 1
        remaining_eq := by simp [cursor.remaining_eq, split]
        index := cursor.index + 1
        line := if ended then cursor.line + 1 else cursor.line
        column :=
          if ended then 0
          else if point == .scalar '\uFEFF' then cursor.column
          else cursor.column + 1 }

/-- The place after a number of code points. -/
def advanceBy (cursor : Cursor) : Nat → Cursor
  | 0 => cursor
  | count + 1 => cursor.advance.advanceBy count

/-- The code points of a class at the cursor, and the place after them. -/
def takeWhile (cursor : Cursor) (isTaken : CodePoint → Bool) : Text × Cursor :=
  let taken := cursor.rest.takeWhile isTaken
  (taken, cursor.advanceBy taken.length)

/-- The place after the code points of a class. -/
def skipWhile (cursor : Cursor) (isSkipped : CodePoint → Bool) : Cursor :=
  (cursor.takeWhile isSkipped).2

def skipSpaces (cursor : Cursor) : Cursor :=
  cursor.skipWhile (· == .scalar ' ')

/-- The place after a comment, if one begins at the cursor. -/
def skipComment (cursor : Cursor) : Cursor :=
  if cursor.head == some (.scalar '#') then cursor.skipWhile fun point => !point.isBreak
  else cursor

/-- The line break at the cursor and the place after it; every break but the two separators of
Unicode is read as a line feed. -/
def takeBreak (cursor : Cursor) : Text × Cursor :=
  match cursor.rest with
  | .scalar '\r' :: .scalar '\n' :: _ => ([.scalar '\n'], cursor.advanceBy 2)
  | point :: _ =>
      if point == .scalar '\u2028' || point == .scalar '\u2029' then ([point], cursor.advance)
      else if point.isBreak then ([.scalar '\n'], cursor.advance)
      else ([], cursor)
  | [] => ([], cursor)

/-- One of the two document marks at the cursor. -/
def atDocumentMark (cursor : Cursor) : Bool :=
  let mark := cursor.rest.take 3
  (mark == Text.ofString "---" || mark == Text.ofString "...") && endsToken (cursor.peek 3)

end Cursor

end Yaml

end ApiTypes
