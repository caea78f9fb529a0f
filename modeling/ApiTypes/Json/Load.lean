import ApiTypes.Json.Scalar

/-!
# Loading of JSON

The data of a JSON text.  A name that comes twice in an object keeps its first
place and gets its last value.  Numbers that are not finite may be written as
words.
-/

namespace ApiTypes.Json

/-- The four code points that may stand between tokens. -/
def isSpace (point : CodePoint) : Bool :=
  point = .scalar ' ' || point = .scalar '\t' || point = .scalar '\n' || point = .scalar '\r'

/-- A text without the space at its beginning. -/
def skipSpace (text : Text) : Text :=
  text.dropWhile isSpace

mutual

/-- The value at the beginning of a text.  Every call takes a unit of fuel, and two units for
each code point and one more are enough. -/
def value : (fuel : Nat) → Text → Except Stop (Data × Text)
  | 0, text => .error (.problem .valueExpected text)
  | fuel + 1, text =>
      match text with
      | .scalar '"' :: rest => do
          let (content, rest) ← stringFrom text 0 rest
          return (.text content, rest)
      | .scalar '\x7b' :: rest =>
          match skipSpace rest with
          | .scalar '\x7d' :: rest => .ok (.mapping [], rest)
          | rest => do
              let (entries, rest) ← members fuel rest
              return (.mapping (Data.ofEntries entries), rest)
      | .scalar '[' :: rest =>
          match skipSpace rest with
          | .scalar ']' :: rest => .ok (.list [], rest)
          | rest => do
              let (items, rest) ← elements fuel rest
              return (.list items, rest)
      | _ =>
          match word? text with
          | some result => .ok result
          | none => number text

/-- The members of an object up to the closing brace. -/
def members : (fuel : Nat) → Text → Except Stop (List (Data × Data) × Text)
  | 0, text => .error (.problem .valueExpected text)
  | fuel + 1, text =>
      match text with
      | .scalar '"' :: rest => do
          let (name, rest) ← stringFrom text 0 rest
          match skipSpace rest with
          | .scalar ':' :: rest => do
              let (content, rest) ← value fuel (skipSpace rest)
              match skipSpace rest with
              | .scalar '\x7d' :: rest => return ([(.text name, content)], rest)
              | .scalar ',' :: rest => do
                  let (entries, rest) ← members fuel (skipSpace rest)
                  return ((.text name, content) :: entries, rest)
              | rest => .error (.problem .commaExpected rest)
          | rest => .error (.problem .colonExpected rest)
      | _ => .error (.problem .nameExpected text)

/-- The elements of an array up to the closing bracket. -/
def elements : (fuel : Nat) → Text → Except Stop (List Data × Text)
  | 0, text => .error (.problem .valueExpected text)
  | fuel + 1, text => do
      let (item, rest) ← value fuel text
      match skipSpace rest with
      | .scalar ']' :: rest => return ([item], rest)
      | .scalar ',' :: rest => do
          let (items, rest) ← elements fuel (skipSpace rest)
          return (item :: items, rest)
      | rest => .error (.problem .commaExpected rest)

end

/-- A value that is the whole of a text, with space around it. -/
def document (text : Text) : Except Stop Data := do
  let (data, rest) ← value (2 * text.length + 1) (skipSpace text)
  match skipSpace rest with
  | [] => return data
  | rest => .error (.problem .endExpected rest)

def load (text : Text) : Except Fault Data :=
  match document text with
  | .ok data => .ok data
  | .error (.integer error) => .error (.integer error)
  | .error (.problem problem rest) => .error (problem.locatedIn text (text.length - rest.length))

end ApiTypes.Json
