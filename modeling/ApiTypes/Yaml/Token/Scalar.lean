import ApiTypes.Yaml.Cursor
import ApiTypes.Yaml.Fault

/-!
# Scalars in a YAML text

Readers for the three ways to write a scalar: plain, quoted, and as a block.
Each returns the content and the place after the scalar.  Content is collected
in reverse while it is read.
-/

namespace ApiTypes.Yaml

/-- Line breaks inside a folded scalar: a single line feed becomes a space, and of several the
first one is dropped. -/
def foldBreaks (first others : Text) : Text :=
  if first != [.scalar '\n'] then first ++ others
  else if others.isEmpty then [.scalar ' ']
  else others

/-! ## Plain scalars -/

/-- A plain scalar stops before this code point. -/
def stopsPlain (inFlow : Bool) (point : CodePoint) (next : Option CodePoint) : Bool :=
  point.isBreak || point.isSpaceOrTab ||
    (point == .scalar ':' &&
      (endsToken next || (inFlow && (next.any fun point => point.isOneOf ",[]\x7b\x7d")))) ||
    (inFlow && point.isOneOf ",?[]\x7b\x7d")

/-- The number of code points up to the first stop. -/
def plainLength (inFlow : Bool) : Text → Nat
  | [] => 0
  | point :: rest =>
      if stopsPlain inFlow point rest.head? then 0 else plainLength inFlow rest + 1

/-- What lies between two parts of a plain scalar. -/
structure Gap where
  /-- What the gap adds to the content if the scalar goes on; nothing if it cannot go on. -/
  content : Text
  cursor : Cursor
  brokeLine : Bool

/-- The line breaks and indentation after the first line break of a gap, unless a document mark
is among them. -/
def plainBreaks : (fuel : Nat) → Cursor → (reversed : Text) → Option Text × Cursor
  | 0, cursor, _ => (none, cursor)
  | fuel + 1, cursor, reversed =>
      match cursor.head with
      | none => (some reversed.reverse, cursor)
      | some point =>
          if point == .scalar ' ' then plainBreaks fuel cursor.advance reversed
          else if point.isBreak then
            let (lineBreak, next) := cursor.takeBreak
            if next.atDocumentMark then (none, next)
            else plainBreaks fuel next (lineBreak.reverse ++ reversed)
          else (some reversed.reverse, cursor)

def plainGap (cursor : Cursor) : Gap :=
  let (blanks, after) := cursor.takeWhile (· == .scalar ' ')
  if after.head.any CodePoint.isBreak then
    let (first, next) := after.takeBreak
    if next.atDocumentMark then { content := [], cursor := next, brokeLine := true }
    else
      match plainBreaks (next.remaining + 1) next [] with
      | (none, stop) => { content := [], cursor := stop, brokeLine := true }
      | (some others, stop) =>
          { content := foldBreaks first others, cursor := stop, brokeLine := true }
  else { content := blanks, cursor := after, brokeLine := false }

/-- A plain scalar from its parts: the content, the place after the scalar and the gap behind
it, and whether that gap broke a line. -/
def plainFrom (inFlow : Bool) (indentation : Int) :
    (fuel : Nat) → Cursor → (gap reversed : Text) → (brokeLine : Bool) → Text × Cursor × Bool
  | 0, cursor, _, reversed, brokeLine => (reversed.reverse, cursor, brokeLine)
  | fuel + 1, cursor, gap, reversed, brokeLine =>
      let length := plainLength inFlow cursor.rest
      if cursor.head == some (.scalar '#') || length == 0 then
        (reversed.reverse, cursor, brokeLine)
      else
        let collected := (cursor.rest.take length).reverse ++ (gap.reverse ++ reversed)
        let next := plainGap (cursor.advanceBy length)
        if next.content.isEmpty || next.cursor.head == some (.scalar '#') ||
            (!inFlow && next.cursor.column < indentation) then
          (collected.reverse, next.cursor, next.brokeLine)
        else plainFrom inFlow indentation fuel next.cursor next.content collected next.brokeLine

def plainScalar (inFlow : Bool) (indentation : Int) (cursor : Cursor) : Text × Cursor × Bool :=
  plainFrom inFlow indentation (cursor.remaining + 1) cursor [] [] false

/-! ## Quoted scalars -/

/-- The line breaks and indentation after the first line break in a quoted scalar. -/
def quotedBreaks : (fuel : Nat) → Cursor → (reversed : Text) → Except Fault (Text × Cursor)
  | 0, _, _ => .error .malformed
  | fuel + 1, cursor, reversed =>
      if cursor.atDocumentMark then .error .malformed
      else
        let next := cursor.skipWhile CodePoint.isSpaceOrTab
        if next.head.any CodePoint.isBreak then
          let (lineBreak, after) := next.takeBreak
          quotedBreaks fuel after (lineBreak.reverse ++ reversed)
        else .ok (reversed.reverse, next)

/-- The code point that an escape of one letter stands for. -/
def escapedLetter? : CodePoint → Option CodePoint
  | .scalar char =>
      let meaning : List (Char × Char) :=
        [('0', '\x00'), ('a', '\x07'), ('b', '\x08'), ('t', '\t'), ('\t', '\t'), ('n', '\n'),
          ('v', '\x0B'), ('f', '\x0C'), ('r', '\r'), ('e', '\x1B'), (' ', ' '), ('"', '"'),
          ('\\', '\\'), ('/', '/'), ('N', '\x85'), ('_', '\xA0'), ('L', '\u2028'),
          ('P', '\u2029')]
      (meaning.lookup char).map .scalar
  | .surrogate _ => none

/-- The number of hexadecimal digits after the letter of an escape. -/
def escapeWidth? (letter : CodePoint) : Option Nat :=
  if letter == .scalar 'x' then some 2
  else if letter == .scalar 'u' then some 4
  else if letter == .scalar 'U' then some 8
  else none

/-- The number that the first digits of a text spell in base sixteen. -/
def hexNumber? (width : Nat) (text : Text) : Option Nat :=
  let digits := (text.take width).filterMap CodePoint.hexValue?
  if digits.length = width then some (Text.valueOfDigits 16 digits) else none

/-- The escape whose backslash has been passed: what it stands for, and the place after it. -/
def readEscape (cursor : Cursor) : Except Fault (Text × Cursor) :=
  match cursor.head with
  | none => .error .malformed
  | some letter =>
      match escapedLetter? letter with
      | some point => .ok ([point], cursor.advance)
      | none =>
          match escapeWidth? letter with
          | some width =>
              match hexNumber? width cursor.advance.rest with
              | none => .error .malformed
              | some number =>
                  match CodePoint.ofNat? number with
                  | some point => .ok ([point], cursor.advanceBy (width + 1))
                  | none => .error (.escapeOutOfRange number)
          | none =>
              if letter.isBreak then
                let next := cursor.takeBreak.2
                quotedBreaks (next.remaining + 1) next []
              else .error .malformed

/-- Blanks and line breaks inside a quoted scalar. -/
def quotedGap (cursor : Cursor) : Except Fault (Text × Cursor) :=
  let (blanks, after) := cursor.takeWhile CodePoint.isSpaceOrTab
  match after.head with
  | none => .error .malformed
  | some point =>
      if point.isBreak then do
        let (first, next) := after.takeBreak
        let (others, stop) ← quotedBreaks (next.remaining + 1) next []
        return (foldBreaks first others, stop)
      else .ok (blanks, after)

/-- A quoted scalar after its opening mark. -/
def quotedFrom (mark : CodePoint) : (fuel : Nat) → Cursor → (reversed : Text) →
    Except Fault (Text × Cursor)
  | 0, _, _ => .error .malformed
  | fuel + 1, cursor, reversed =>
      match cursor.head with
      | none => .error .malformed
      | some point =>
          if point == mark then
            if mark == .scalar '\'' && cursor.peek 1 == some mark then
              quotedFrom mark fuel (cursor.advanceBy 2) (mark :: reversed)
            else .ok (reversed.reverse, cursor.advance)
          else if mark == .scalar '"' && point == .scalar '\\' then do
            let (content, next) ← readEscape cursor.advance
            quotedFrom mark fuel next (content.reverse ++ reversed)
          else if point.isSpaceOrTab || point.isBreak then do
            let (content, next) ← quotedGap cursor
            quotedFrom mark fuel next (content.reverse ++ reversed)
          else quotedFrom mark fuel cursor.advance (point :: reversed)

def quotedScalar (mark : CodePoint) (cursor : Cursor) : Except Fault (Text × Cursor) :=
  quotedFrom mark (cursor.remaining + 1) cursor.advance []

/-! ## Block scalars -/

/-- What becomes of the line breaks at the end of a block scalar. -/
inductive Chomping where
  | strip
  | clip
  | keep
  deriving DecidableEq

/-- The mark for the line breaks at the end. -/
def chomping? (point : CodePoint) : Option Chomping :=
  if point == .scalar '+' then some .keep
  else if point == .scalar '-' then some .strip
  else none

/-- The two marks after the indicator of a block scalar, in either order: what becomes of the
last line breaks, and the indentation of the content. -/
def blockMarks (cursor : Cursor) : Except Fault (Chomping × Option Nat × Cursor) :=
  let chomp (cursor : Cursor) : Chomping × Cursor :=
    match cursor.head.bind chomping? with
    | some chomping => (chomping, cursor.advance)
    | none => (.clip, cursor)
  let indent (cursor : Cursor) : Option Nat × Cursor :=
    match cursor.head.bind CodePoint.digitValue? with
    | some digit => (some digit, cursor.advance)
    | none => (none, cursor)
  let (chomping, increment, stop) :=
    if (cursor.head.bind chomping?).isSome then
      let (chomping, next) := chomp cursor
      let (increment, stop) := indent next
      (chomping, increment, stop)
    else
      let (increment, next) := indent cursor
      if increment.isSome then
        let (chomping, stop) := chomp next
        (chomping, increment, stop)
      else (.clip, none, next)
  if increment == some 0 || !endsPart stop.head then .error .malformed
  else .ok (chomping, increment, stop)

/-- The rest of a line that may hold nothing but a comment. -/
def restOfLine (cursor : Cursor) : Except Fault Cursor :=
  let next := cursor.skipSpaces.skipComment
  if endsLine next.head then .ok next.takeBreak.2 else .error .malformed

/-- The blank lines before a block scalar of unknown indentation: their breaks, the greatest
indentation among them and the first line with content, and the place after it. -/
def blockIndentation : (fuel : Nat) → Cursor → (reversed : Text) → (greatest : Nat) →
    Text × Nat × Cursor
  | 0, cursor, reversed, greatest => (reversed.reverse, greatest, cursor)
  | fuel + 1, cursor, reversed, greatest =>
      match cursor.head with
      | none => (reversed.reverse, greatest, cursor)
      | some point =>
          if point == .scalar ' ' then
            let next := cursor.advance
            blockIndentation fuel next reversed (max greatest next.column)
          else if point.isBreak then
            let (lineBreak, next) := cursor.takeBreak
            blockIndentation fuel next (lineBreak.reverse ++ reversed) greatest
          else (reversed.reverse, greatest, cursor)

/-- The place after at most the given indentation. -/
def skipIndentation (indentation : Nat) : (fuel : Nat) → Cursor → Cursor
  | 0, cursor => cursor
  | fuel + 1, cursor =>
      if cursor.column < indentation && cursor.head == some (.scalar ' ') then
        skipIndentation indentation fuel cursor.advance
      else cursor

/-- Blank lines of a block scalar and the indentation after them. -/
def blockBreaks (indentation : Nat) : (fuel : Nat) → Cursor → (reversed : Text) → Text × Cursor
  | 0, cursor, reversed => (reversed.reverse, cursor)
  | fuel + 1, cursor, reversed =>
      let next := skipIndentation indentation indentation cursor
      if next.head.any CodePoint.isBreak then
        let (lineBreak, after) := next.takeBreak
        blockBreaks indentation fuel after (lineBreak.reverse ++ reversed)
      else (reversed.reverse, next)

/-- The end of a block scalar with the line breaks that it keeps. -/
def chomp (chomping : Chomping) (reversed lineBreak breaks : Text) : Text :=
  reversed.reverse ++
    match chomping with
    | .strip => []
    | .clip => lineBreak
    | .keep => lineBreak ++ breaks

/-- The lines of a block scalar with the given indentation. -/
def blockFrom (folded : Bool) (chomping : Chomping) (indentation : Nat) :
    (fuel : Nat) → Cursor → (lineBreak breaks reversed : Text) → Text × Cursor
  | 0, cursor, lineBreak, breaks, reversed => (chomp chomping reversed lineBreak breaks, cursor)
  | fuel + 1, cursor, lineBreak, breaks, reversed =>
      if cursor.column = indentation ∧ cursor.head.isSome then
        let opensWithText := !cursor.head.any CodePoint.isSpaceOrTab
        let (line, after) := cursor.takeWhile fun point => !point.isBreak
        let collected := line.reverse ++ (breaks.reverse ++ reversed)
        let (lineBreak, next) := after.takeBreak
        let (breaks, start) := blockBreaks indentation (next.remaining + 1) next []
        if start.column = indentation ∧ start.head.isSome then
          let joined :=
            if folded && lineBreak == [.scalar '\n'] && opensWithText &&
                !start.head.any CodePoint.isSpaceOrTab then
              if breaks.isEmpty then .scalar ' ' :: collected else collected
            else lineBreak.reverse ++ collected
          blockFrom folded chomping indentation fuel start lineBreak breaks joined
        else (chomp chomping collected lineBreak breaks, start)
      else (chomp chomping reversed lineBreak breaks, cursor)

/-- The block scalar at the cursor, inside a block with the given indentation. -/
def blockScalar (folded : Bool) (outer : Int) (cursor : Cursor) : Except Fault (Text × Cursor) := do
  let (chomping, increment, afterMarks) ← blockMarks cursor.advance
  let first ← restOfLine afterMarks
  let least := (max (outer + 1) 1).toNat
  let fuel := first.remaining + 1
  match increment with
  | some increment =>
      let indentation := least + increment - 1
      let (breaks, start) := blockBreaks indentation fuel first []
      return blockFrom folded chomping indentation fuel start [] breaks []
  | none =>
      let (breaks, greatest, start) := blockIndentation fuel first [] 0
      return blockFrom folded chomping (max least greatest) fuel start [] breaks []

end ApiTypes.Yaml
