import ApiTypes.Identifier
import ApiTypes.TypeExpr

/-!
# Reading of type texts

A reader for the text of types.  A union is alternatives separated by bars, an
alternative is operands separated by ampersands, and an operand is followed by
the brackets of the arrays it is the element of:

    union := operands ('|' operands)*
    operands := suffixed (' & ' suffixed)*
    suffixed := primary '[]'*
    primary := '(' union ')' | record | token

A record is fields between braces, each a quoted name, a mark if it is optional,
and a union.  Names and literals are tokens.
-/

namespace ApiTypes

/-- What a type text says.  Names and literals are known by their text. -/
inductive Reading where
  | leaf (token : Text)
  | array (element : Reading)
  | record (fields : List (Field Reading))
  | intersection (operands : List Reading)
  | union (alternatives : List Reading)

namespace Reading

/-- Operands together; one alone is no intersection. -/
def ofOperands : List Reading → Reading
  | [operand] => operand
  | operands => .intersection operands

/-- Alternatives together, each with its operands; one alone is no union. -/
def ofAlternatives : List (List Reading) → Reading
  | [operands] => ofOperands operands
  | alternatives => .union (alternatives.map ofOperands)

/-- A code point of a name, of a number or of another word. -/
def isWordPart (point : CodePoint) : Bool :=
  Text.isIdentifierPart point || point.isOneOf "+-."

/-- The content up to a mark, without the backslashes that escape, and the text behind it. -/
def quoted? (mark : CodePoint) : Text → Option (Text × Text)
  | [] => none
  | point :: rest =>
      if point = mark then some ([], rest)
      else if point = .scalar '\\' then
        match rest with
        | [] => none
        | escaped :: rest =>
            (quoted? mark rest).map fun (content, rest) => (escaped :: content, rest)
      else (quoted? mark rest).map fun (content, rest) => (point :: content, rest)

/-- The text behind the last of the closing brackets that are due, the innermost one first.
Brackets in quoted texts do not count. -/
def behindBrackets? : (due : List CodePoint) → (inQuotes : Bool) → Text → Option Text
  | [], _, text => some text
  | _ :: _, _, [] => none
  | closer :: outer, true, point :: rest =>
      if point = .scalar '\\' then
        match rest with
        | [] => none
        | _ :: rest => behindBrackets? (closer :: outer) true rest
      else behindBrackets? (closer :: outer) (point != .scalar '\'') rest
  | closer :: outer, false, point :: rest =>
      if point = closer then behindBrackets? outer false rest
      else if point = .scalar '\'' then behindBrackets? (closer :: outer) true rest
      else if point = .scalar '[' then behindBrackets? (.scalar ']' :: closer :: outer) false rest
      else if point = .scalar '\x7b' then
        behindBrackets? (.scalar '\x7d' :: closer :: outer) false rest
      else if point.isOneOf "]\x7d" then none
      else behindBrackets? (closer :: outer) false rest

/-- The text behind a name or a literal. -/
def behindToken? : Text → Option Text
  | [] => none
  | point :: rest =>
      if point = .scalar '\'' then (quoted? point rest).map Prod.snd
      else if point = .scalar '[' then behindBrackets? [.scalar ']'] false rest
      else if point = .scalar '\x7b' then behindBrackets? [.scalar '\x7d'] false rest
      else if isWordPart point then some (rest.dropWhile isWordPart)
      else none

/-- A name or a literal as a leaf with its text. -/
def token? (text : Text) : Option (Reading × Text) :=
  (behindToken? text).map fun rest => (.leaf (text.take (text.length - rest.length)), rest)

/-- The array types that brackets make of their element type. -/
def suffixes (element : Reading) : Text → Reading × Text
  | .scalar '[' :: .scalar ']' :: rest => suffixes (.array element) rest
  | rest => (element, rest)

/-- What follows the opening brace of a record.  A map has no quotation mark there. -/
def recordBody? (text : Text) : Option Text :=
  (text.after? "\x7b").filter fun body =>
    body.head? = some (.scalar '"') ∨ body.head? = some (.scalar '\x7d')

/-- The name of a field, whether it is required, and the text of its type. -/
def fieldHead? (text : Text) : Option (Text × Bool × Text) := do
  let opened ← text.after? "\""
  let (name, rest) ← quoted? (.scalar '"') opened
  match rest.after? " ?" with
  | some rest => return (name, false, ← rest.after? " : ")
  | none => return (name, true, ← rest.after? " : ")

mutual

/-- Alternatives with their operands. -/
def union? (text : Text) : Option (List (List Reading) × Text) :=
  match operands? text with
  | none => none
  | some (operands, rest) =>
      match rest.after? "|" with
      | none => some ([operands], rest)
      | some next =>
          if next.length < text.length then
            (union? next).map fun (alternatives, rest) => (operands :: alternatives, rest)
          else none
termination_by (text.length, 3)

/-- The operands of one alternative. -/
def operands? (text : Text) : Option (List Reading × Text) :=
  match suffixed? text with
  | none => none
  | some (operand, rest) =>
      match rest.after? " & " with
      | none => some ([operand], rest)
      | some next =>
          if next.length < text.length then
            (operands? next).map fun (operands, rest) => (operand :: operands, rest)
          else none
termination_by (text.length, 2)

/-- One operand. -/
def suffixed? (text : Text) : Option (Reading × Text) :=
  (primary? text).map fun (primary, rest) => suffixes primary rest
termination_by (text.length, 1)

/-- One operand without the brackets behind it. -/
def primary? (text : Text) : Option (Reading × Text) :=
  match text.after? "(" with
  | some inner =>
      if inner.length < text.length then
        match union? inner with
        | none => none
        | some (alternatives, rest) =>
            (rest.after? ")").map fun rest => (ofAlternatives alternatives, rest)
      else none
  | none =>
      match recordBody? text with
      | some body =>
          if body.length < text.length then
            (fields? body).map fun (fields, rest) => (.record fields, rest)
          else none
      | none => token? text
termination_by (text.length, 0)

/-- The fields of a record up to the closing brace. -/
def fields? (text : Text) : Option (List (Field Reading) × Text) :=
  match text.after? "\x7d" with
  | some rest => some ([], rest)
  | none =>
      match fieldHead? text with
      | none => none
      | some (name, required, start) =>
          if start.length < text.length then
            match union? start with
            | none => none
            | some (alternatives, rest) =>
                match rest.after? ";" with
                | none => none
                | some next =>
                    if next.length < text.length then
                      (fields? next).map fun (fields, rest) =>
                        ({ name, required, type := ofAlternatives alternatives } :: fields, rest)
                    else none
          else none
termination_by (text.length, 4)

end

/-- The reading of a whole text. -/
def ofText? (text : Text) : Option Reading :=
  match union? text with
  | some (alternatives, []) => some (ofAlternatives alternatives)
  | _ => none

end Reading

end ApiTypes
