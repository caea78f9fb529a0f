import ApiTypes.Text.Encoding
import ApiTypes.Yaml.Token
import ApiTypes.Yaml.Token.Scalar

/-!
# Reading tokens

A scanner walks through a text once.  A mapping key is recognised only at the
colon behind it, so the scanner remembers where a key may have begun, for each
level of flow collections, and inserts the key token there afterwards.
-/

namespace ApiTypes.Yaml

/-- A place where a mapping key may have begun. -/
structure PossibleKey where
  /-- The number of flow collections around it. -/
  level : Nat
  /-- The number of tokens before it. -/
  position : Nat
  /-- A colon has to follow, since nothing else may stand at this indentation. -/
  required : Bool
  index : Nat
  line : Nat
  column : Nat

/-- The state of reading tokens. -/
structure Scanner where
  cursor : Cursor
  /-- The tokens so far, the last one first. -/
  tokens : List Token
  count : Nat
  flowLevel : Nat
  /-- The column of the innermost block collection, below zero outside of all. -/
  indentation : Int
  /-- The columns of the block collections around it, the nearest first. -/
  outer : List Int
  /-- A key may begin at the cursor. -/
  allowsKey : Bool
  possibleKeys : List PossibleKey

namespace Scanner

def start (text : Text) : Scanner :=
  { cursor := Cursor.start text, tokens := [], count := 0, flowLevel := 0, indentation := -1
    outer := [], allowsKey := true, possibleKeys := [] }

/-- The scanner after one more token. -/
def emit (scanner : Scanner) (token : Token) : Scanner :=
  { scanner with tokens := token :: scanner.tokens, count := scanner.count + 1 }

/-- The scanner with one more token at a position, before all tokens that stand there. -/
def insert (scanner : Scanner) (position : Nat) (token : Token) : Scanner :=
  { scanner with
    tokens := scanner.tokens.insertIdx (scanner.count - position) token
    count := scanner.count + 1 }

/-- The scanner after a token of the given number of code points. -/
def emitAt (scanner : Scanner) (token : Token) (length : Nat) : Scanner :=
  { scanner with cursor := scanner.cursor.advanceBy length }.emit token

/-- A possible key is too far behind: on another line or more than 1024 code points away. -/
def isStale (scanner : Scanner) (key : PossibleKey) : Bool :=
  key.line != scanner.cursor.line || key.index + 1024 < scanner.cursor.index

/-- The scanner without the possible keys that are too far behind. -/
def dropStaleKeys (scanner : Scanner) : Except Fault Scanner :=
  if scanner.possibleKeys.any fun key => scanner.isStale key && key.required then
    .error .malformed
  else
    .ok
      { scanner with
        possibleKeys := scanner.possibleKeys.filter fun key => !scanner.isStale key }

/-- The scanner without the possible key of the current level. -/
def dropKey (scanner : Scanner) : Except Fault Scanner :=
  let isCurrent (key : PossibleKey) : Bool := key.level == scanner.flowLevel
  if scanner.possibleKeys.any fun key => isCurrent key && key.required then .error .malformed
  else
    .ok { scanner with possibleKeys := scanner.possibleKeys.filter fun key => !isCurrent key }

/-- The scanner that remembers the cursor as a possible key, if a key may begin there. -/
def saveKey (scanner : Scanner) : Except Fault Scanner :=
  if scanner.allowsKey then do
    let cleared ← scanner.dropKey
    let key : PossibleKey :=
      { level := scanner.flowLevel, position := scanner.count
        required := scanner.flowLevel == 0 && scanner.indentation == scanner.cursor.column
        index := scanner.cursor.index, line := scanner.cursor.line
        column := scanner.cursor.column }
    return { cleared with possibleKeys := key :: cleared.possibleKeys }
  else .ok scanner

/-- The column of the innermost block collection that a column leaves open, the columns of those
around it, and the number of collections that end before the column. -/
def closeBlocks (column indentation : Int) : (outer : List Int) → Int × List Int × Nat
  | [] => (indentation, [], 0)
  | nearest :: outer =>
      if column < indentation then
        let (indentation, outer, closed) := closeBlocks column nearest outer
        (indentation, outer, closed + 1)
      else (indentation, nearest :: outer, 0)

/-- The scanner after the end of all block collections that a column closes.  Inside flow
collections indentation means nothing. -/
def unwind (scanner : Scanner) (column : Int) : Scanner :=
  if scanner.flowLevel = 0 then
    let (indentation, outer, closed) := closeBlocks column scanner.indentation scanner.outer
    { scanner with
      indentation, outer
      tokens := List.replicate closed .blockEnd ++ scanner.tokens
      count := scanner.count + closed }
  else scanner

/-- The scanner inside a block collection at a column, with the opening token inserted at a
position if the column opens a new one. -/
def openBlock (scanner : Scanner) (column : Nat) (token : Token) (position : Nat) : Scanner :=
  if scanner.indentation < column then
    { scanner with
      indentation := column
      outer := scanner.indentation :: scanner.outer }.insert position token
  else scanner

/-- The place of the next token, after blanks, comments and line breaks; outside flow
collections a key may begin on a new line. -/
def skipToToken : (fuel : Nat) → Scanner → Scanner
  | 0, scanner => scanner
  | fuel + 1, scanner =>
      let atMark := scanner.cursor.index == 0 && scanner.cursor.head == some (.scalar '\uFEFF')
      let cursor := if atMark then scanner.cursor.advance else scanner.cursor
      let next := cursor.skipSpaces.skipComment
      let moved := { scanner with cursor := next }
      if next.head.any CodePoint.isBreak then
        skipToToken fuel
          { moved with
            cursor := next.takeBreak.2
            allowsKey := scanner.allowsKey || scanner.flowLevel == 0 }
      else moved

/-! ## Tags and directives -/

/-- The handle of a tag: an exclamation mark, or a word between two of them. -/
def tagHandle (cursor : Cursor) : Except Fault (Text × Cursor) :=
  if cursor.head != some (.scalar '!') then .error .malformed
  else if cursor.peek 1 == some (.scalar ' ') then .ok (cursor.rest.take 1, cursor.advance)
  else
    let (word, after) := cursor.advance.takeWhile CodePoint.isWord
    if after.head == some (.scalar '!') then
      .ok (.scalar '!' :: word ++ [.scalar '!'], after.advance)
    else .error .malformed

/-- Octets written as escapes of two hexadecimal digits. -/
def tagOctets : (fuel : Nat) → Cursor → (reversed : Bytes) → Except Fault (Bytes × Cursor)
  | 0, _, _ => .error .malformed
  | fuel + 1, cursor, reversed =>
      if cursor.head == some (.scalar '%') then
        match hexNumber? 2 cursor.advance.rest with
        | some number => tagOctets fuel (cursor.advanceBy 3) (UInt8.ofNat number :: reversed)
        | none => .error .malformed
      else .ok (reversed.reverse, cursor)

/-- The code points of a tag, with its escapes read as UTF-8. -/
def tagPoints : (fuel : Nat) → Cursor → (reversed : Text) → Except Fault (Text × Cursor)
  | 0, _, _ => .error .malformed
  | fuel + 1, cursor, reversed =>
      match cursor.head with
      | none => .ok (reversed.reverse, cursor)
      | some point =>
          if point == .scalar '%' then do
            let (octets, next) ← tagOctets (cursor.remaining + 1) cursor []
            match Bytes.decode octets with
            | .ok text => tagPoints fuel next (text.reverse ++ reversed)
            | .error _ => .error .malformed
          else if point.isTagPoint then tagPoints fuel cursor.advance (point :: reversed)
          else .ok (reversed.reverse, cursor)

/-- The part of a tag after its handle, which may not be empty. -/
def tagSuffix (cursor : Cursor) : Except Fault (Text × Cursor) :=
  match cursor.head with
  | none => .error .malformed
  | some point =>
      if point.isTagPoint then tagPoints (cursor.remaining + 1) cursor []
      else .error .malformed

/-- Before the next exclamation mark the text has neither a space nor an end of line. -/
def hasTagHandle : Text → Bool
  | [] => false
  | point :: rest =>
      if point == .scalar '!' then true
      else if point.isBreak || point == .scalar ' ' then false
      else hasTagHandle rest

def readTag (cursor : Cursor) : Except Fault (Token × Cursor) := do
  let next := cursor.peek 1
  let (token, stop) ←
    if next == some (.scalar '<') then
      let (suffix, stop) ← tagSuffix (cursor.advanceBy 2)
      if stop.head == some (.scalar '>') then
        pure (Token.tag none suffix, stop.advance)
      else .error .malformed
    else if endsToken next then
      pure (Token.tag none [.scalar '!'], cursor.advance)
    else if hasTagHandle (cursor.rest.drop 1) then
      let (handle, after) ← tagHandle cursor
      let (suffix, stop) ← tagSuffix after
      pure (Token.tag (some handle) suffix, stop)
    else
      let (suffix, stop) ← tagSuffix cursor.advance
      pure (Token.tag (some [.scalar '!']) suffix, stop)
  if endsPart stop.head then return (token, stop) else .error .malformed

/-- The digits of a version at the cursor. -/
def versionNumber (cursor : Cursor) : Except Fault (Nat × Cursor) :=
  let (digits, after) := cursor.takeWhile CodePoint.isDigit
  if digits.isEmpty then .error .malformed
  else if Text.longestInteger < digits.length then .error (.integer (.tooLong digits.length))
  else .ok (Text.valueOfDigits 10 (digits.filterMap CodePoint.digitValue?), after)

/-- The directive at the cursor, up to the end of its line. -/
def readDirective (cursor : Cursor) : Except Fault (Token × Cursor) := do
  let (name, after) := cursor.advance.takeWhile CodePoint.isWord
  if name.isEmpty || !endsPart after.head then .error .malformed
  else
    let (token, stop) ←
      if name == Text.ofString "YAML" then
        let (major, point) ← versionNumber after.skipSpaces
        if point.head != some (.scalar '.') then .error .malformed
        else
          let (_, stop) ← versionNumber point.advance
          if endsPart stop.head then pure (Token.versionDirective major, stop)
          else .error .malformed
      else if name == Text.ofString "TAG" then
        let (handle, afterHandle) ← tagHandle after.skipSpaces
        if afterHandle.head != some (.scalar ' ') then .error .malformed
        else
          let (opening, stop) ← tagSuffix afterHandle.skipSpaces
          if endsPart stop.head then pure (Token.tagDirective handle opening, stop)
          else .error .malformed
      else pure (Token.otherDirective, after.skipWhile fun point => !point.isBreak)
    return (token, ← restOfLine stop)

/-- The name of an anchor or of an alias, after its indicator. -/
def anchorName (cursor : Cursor) : Except Fault (Text × Cursor) :=
  let (name, after) := cursor.advance.takeWhile CodePoint.isWord
  if name.isEmpty then .error .malformed
  else if endsToken after.head || after.head.any fun point => point.isOneOf "?:,]\x7d%@\x60" then
    .ok (name, after)
  else .error .malformed

/-! ## One token -/

/-- The end of the text. -/
def readStreamEnd (scanner : Scanner) : Except Fault Scanner := do
  let cleared ← (scanner.unwind (-1)).dropKey
  return { cleared with allowsKey := false, possibleKeys := [] }.emit .streamEnd

def readDirectiveToken (scanner : Scanner) : Except Fault Scanner := do
  let cleared ← (scanner.unwind (-1)).dropKey
  let (token, stop) ← readDirective scanner.cursor
  return { cleared with allowsKey := false, cursor := stop }.emit token

/-- One of the two document marks. -/
def readDocumentMark (scanner : Scanner) (token : Token) : Except Fault Scanner := do
  let cleared ← (scanner.unwind (-1)).dropKey
  return { cleared with allowsKey := false }.emitAt token 3

/-- The beginning of a flow collection, which may itself begin a key. -/
def readFlowStart (scanner : Scanner) (token : Token) : Except Fault Scanner := do
  let saved ← scanner.saveKey
  return { saved with flowLevel := saved.flowLevel + 1, allowsKey := true }.emitAt token 1

def readFlowEnd (scanner : Scanner) (token : Token) : Except Fault Scanner := do
  let cleared ← scanner.dropKey
  return { cleared with flowLevel := cleared.flowLevel - 1, allowsKey := false }.emitAt token 1

/-- A comma between the members of a flow collection. -/
def readFlowEntry (scanner : Scanner) : Except Fault Scanner := do
  let cleared ← scanner.dropKey
  return { cleared with allowsKey := true }.emitAt .flowEntry 1

/-- The hyphen before a member of a block sequence. -/
def readBlockEntry (scanner : Scanner) : Except Fault Scanner := do
  if scanner.flowLevel = 0 ∧ !scanner.allowsKey then .error .malformed
  else
    let opened :=
      if scanner.flowLevel = 0 then
        scanner.openBlock scanner.cursor.column .blockSequenceStart scanner.count
      else scanner
    let cleared ← { opened with allowsKey := true }.dropKey
    return cleared.emitAt .blockEntry 1

/-- The question mark before a key. -/
def readKey (scanner : Scanner) : Except Fault Scanner := do
  if scanner.flowLevel = 0 ∧ !scanner.allowsKey then .error .malformed
  else
    let opened :=
      if scanner.flowLevel = 0 then
        scanner.openBlock scanner.cursor.column .blockMappingStart scanner.count
      else scanner
    let cleared ← { opened with allowsKey := scanner.flowLevel == 0 }.dropKey
    return cleared.emitAt .key 1

/-- The colon before a value.  If a key may have begun before it, the key token is inserted
there, and the token that opens a block mapping before it. -/
def readValue (scanner : Scanner) : Except Fault Scanner := do
  match scanner.possibleKeys.find? fun key => key.level == scanner.flowLevel with
  | some key =>
      let others := scanner.possibleKeys.filter fun key => key.level != scanner.flowLevel
      let announced :=
        { scanner with
          possibleKeys := others
          allowsKey := false }.insert key.position .key
      let opened :=
        if scanner.flowLevel = 0 then
          announced.openBlock key.column .blockMappingStart key.position
        else announced
      return opened.emitAt .value 1
  | none =>
      if scanner.flowLevel = 0 ∧ !scanner.allowsKey then .error .malformed
      else
        let opened :=
          if scanner.flowLevel = 0 then
            scanner.openBlock scanner.cursor.column .blockMappingStart scanner.count
          else scanner
        let cleared ← { opened with allowsKey := scanner.flowLevel == 0 }.dropKey
        return cleared.emitAt .value 1

/-- An alias or an anchor. -/
def readAnchor (scanner : Scanner) (token : Text → Token) : Except Fault Scanner := do
  let saved ← scanner.saveKey
  let (name, stop) ← anchorName scanner.cursor
  return { saved with allowsKey := false, cursor := stop }.emit (token name)

def readTagToken (scanner : Scanner) : Except Fault Scanner := do
  let saved ← scanner.saveKey
  let (token, stop) ← readTag scanner.cursor
  return { saved with allowsKey := false, cursor := stop }.emit token

def readBlockScalar (scanner : Scanner) (folded : Bool) : Except Fault Scanner := do
  let cleared ← scanner.dropKey
  let (content, stop) ← blockScalar folded scanner.indentation scanner.cursor
  return { cleared with allowsKey := true, cursor := stop }.emit (.scalar content false)

def readQuotedScalar (scanner : Scanner) (mark : CodePoint) : Except Fault Scanner := do
  let saved ← scanner.saveKey
  let (content, stop) ← quotedScalar mark scanner.cursor
  return { saved with allowsKey := false, cursor := stop }.emit (.scalar content false)

/-- A plain scalar; a key may begin behind it if it ends at the beginning of a line. -/
def readPlainScalar (scanner : Scanner) : Except Fault Scanner := do
  let saved ← scanner.saveKey
  let (content, stop, brokeLine) :=
    plainScalar (scanner.flowLevel != 0) (scanner.indentation + 1) scanner.cursor
  return { saved with allowsKey := brokeLine, cursor := stop }.emit (.scalar content true)

/-- A plain scalar may begin with this code point before the next one. -/
def opensPlain (inFlow : Bool) (point : CodePoint) (next : Option CodePoint) : Bool :=
  (!point.isBreak && !point.isSpaceOrTab && !point.isOneOf "-?:,[]\x7b\x7d#&*!|>'\"%@\x60") ||
    (!endsToken next && (point == .scalar '-' || (!inFlow && point.isOneOf "?:")))

/-- The scanner after the token at the cursor, which stands neither at a blank nor at a line
break. -/
def readToken (scanner : Scanner) : Except Fault Scanner :=
  let cursor := scanner.cursor
  let inFlow := scanner.flowLevel != 0
  match cursor.head with
  | none => scanner.readStreamEnd
  | some point =>
      let next := cursor.peek 1
      let is (char : Char) : Bool := point == .scalar char
      let atLineStart := cursor.column == 0
      if is '%' && atLineStart then scanner.readDirectiveToken
      else if is '-' && atLineStart && cursor.atDocumentMark then
        scanner.readDocumentMark .documentStart
      else if is '.' && atLineStart && cursor.atDocumentMark then
        scanner.readDocumentMark .documentEnd
      else if is '[' then scanner.readFlowStart .flowSequenceStart
      else if is '\x7b' then scanner.readFlowStart .flowMappingStart
      else if is ']' then scanner.readFlowEnd .flowSequenceEnd
      else if is '\x7d' then scanner.readFlowEnd .flowMappingEnd
      else if is ',' then scanner.readFlowEntry
      else if is '-' && endsToken next then scanner.readBlockEntry
      else if is '?' && (inFlow || endsToken next) then scanner.readKey
      else if is ':' && (inFlow || endsToken next) then scanner.readValue
      else if is '*' then scanner.readAnchor .alias
      else if is '&' then scanner.readAnchor .anchor
      else if is '!' then scanner.readTagToken
      else if is '|' && !inFlow then scanner.readBlockScalar false
      else if is '>' && !inFlow then scanner.readBlockScalar true
      else if is '\'' || is '"' then scanner.readQuotedScalar point
      else if opensPlain inFlow point next then scanner.readPlainScalar
      else .error .malformed

/-- The scanner after the next token with all that comes before it. -/
def step (scanner : Scanner) : Except Fault Scanner := do
  let moved := scanner.skipToToken (scanner.cursor.remaining + 1)
  let fresh ← moved.dropStaleKeys
  (fresh.unwind fresh.cursor.column).readToken

/-- The number of tokens that are certain: a key token may still come before the others. -/
def settled (scanner : Scanner) : Nat :=
  (scanner.possibleKeys.filter fun key => !scanner.isStale key).foldl
    (fun least key => min least key.position) scanner.count

/-- The certain tokens and a fault, which hides the others. -/
def failed (scanner : Scanner) (fault : Fault) : List Token :=
  (.fault fault :: scanner.tokens.drop (scanner.count - scanner.settled)).reverse

/-- All tokens of a text.  A fault is the last token, so that the tokens before it are still
read. -/
def run : (fuel : Nat) → Scanner → List Token
  | 0, scanner => scanner.failed .malformed
  | fuel + 1, scanner =>
      match scanner.step with
      | .error fault => scanner.failed fault
      | .ok next =>
          if next.tokens.head? == some .streamEnd then next.tokens.reverse else run fuel next

end Scanner

def Token.ofText (text : Text) : List Token :=
  if text.all CodePoint.isYamlPrintable then
    Scanner.run (text.length + 2) (Scanner.start text)
  else [.fault .malformed]

end ApiTypes.Yaml
