import ApiTypes.Data
import ApiTypes.Json.Fault

/-!
# Strings and numbers of JSON

Readers take the text from a place on and give what they read and the text
behind it.  A reader that stops gives the problem and the text from the place of
the problem on.
-/

namespace ApiTypes.Json

inductive Stop where
  | problem (problem : Problem) (rest : Text)
  | integer (error : IntegerError)

/-- The value of four hexadecimal digits at the beginning of a text. -/
def fourDigits? (text : Text) : Option Nat :=
  match (text.take 4).mapM CodePoint.hexValue? with
  | some digits => if digits.length = 4 then some (Text.valueOfDigits 16 digits) else none
  | none => none

/-- The code point of an escape with a letter. -/
def letterEscape? (letter : CodePoint) : Option CodePoint :=
  match letter with
  | .scalar '"' => some '"'
  | .scalar '\\' => some '\\'
  | .scalar '/' => some '/'
  | .scalar 'b' => some '\x08'
  | .scalar 'f' => some '\x0C'
  | .scalar 'n' => some '\n'
  | .scalar 'r' => some '\r'
  | .scalar 't' => some '\t'
  | _ => none

/-- The code point that a high surrogate forms with the escape behind it, if that is the
escape of a low surrogate and the text goes on behind it.  No code point means that the
surrogate stands alone. -/
def lowHalf? (high : CodePoint) (rest : Text) : Except Stop (Option CodePoint) :=
  match rest with
  | .scalar '\\' :: .scalar 'u' :: digits =>
      if (digits.drop 4).isEmpty then .ok none
      else
        match fourDigits? digits with
        | none => .error (.problem .escapeWithoutDigits (.scalar 'u' :: digits))
        | some number =>
            let low := CodePoint.ofNat number
            .ok (if low.isLowSurrogate then some (CodePoint.joinSurrogates high low) else none)
  | _ => .ok none

/-- The code point of an escape and the number of code points behind the backslash. -/
def escape (opening : Text) : Text → Except Stop (CodePoint × Nat)
  | [] => .error (.problem .stringNotClosed opening)
  | .scalar 'u' :: digits =>
      if (digits.drop 4).isEmpty then
        .error (.problem .escapeWithoutDigits (.scalar 'u' :: digits))
      else
        match fourDigits? digits with
        | none => .error (.problem .escapeWithoutDigits (.scalar 'u' :: digits))
        | some number =>
            let point := CodePoint.ofNat number
            if point.isHighSurrogate then do
              match ← lowHalf? point (digits.drop 4) with
              | some joined => return (joined, 11)
              | none => return (point, 5)
            else .ok (point, 5)
  | letter :: rest =>
      match letterEscape? letter with
      | some point => .ok (point, 1)
      | none => .error (.problem .unknownEscape (.scalar '\\' :: letter :: rest))

/-- The content of a string after its opening mark; `skipped` code points belong to an escape
that has been read. -/
def stringFrom (opening : Text) : (skipped : Nat) → Text → Except Stop (Text × Text)
  | _, [] => .error (.problem .stringNotClosed opening)
  | skipped + 1, _ :: rest => stringFrom opening skipped rest
  | 0, point :: rest =>
      if point = .scalar '"' then .ok ([], rest)
      else if point = .scalar '\\' then do
        let (value, length) ← escape opening rest
        let (content, rest) ← stringFrom opening length rest
        return (value :: content, rest)
      else if point.toNat < 0x20 then
        .error (.problem .controlCharacter (point :: rest))
      else do
        let (content, rest) ← stringFrom opening 0 rest
        return (point :: content, rest)

/-- The digits of a whole number, of which only the number zero begins with a zero. -/
def wholeDigits (text : Text) : List Nat × Text :=
  match text with
  | .scalar '0' :: rest => ([0], rest)
  | _ => Text.splitDigits text

/-- The digits behind a point; a point without digits is left. -/
def fraction (text : Text) : Option (List Nat) × Text :=
  match text with
  | .scalar '.' :: rest =>
      match Text.splitDigits rest with
      | ([], _) => (none, text)
      | (digits, rest) => (some digits, rest)
  | _ => (none, text)

/-- The number behind an exponent mark; a mark without digits is left. -/
def exponent (text : Text) : Option Int × Text :=
  match text with
  | mark :: rest =>
      if mark = .scalar 'e' ∨ mark = .scalar 'E' then
        let (negative, rest) := Text.splitSign rest
        match Text.splitDigits rest with
        | ([], _) => (none, text)
        | (digits, rest) => (some (Double.signed negative (Text.valueOfDigits 10 digits)), rest)
      else (none, text)
  | [] => (none, text)

/-- A number that begins at `start`: an integer unless it has a fraction or an exponent. -/
def number (start : Text) : Except Stop (Data × Text) :=
  let (negative, rest) :=
    match start with
    | .scalar '-' :: rest => (true, rest)
    | _ => (false, start)
  match wholeDigits rest with
  | ([], _) => .error (.problem .valueExpected start)
  | (whole, rest) =>
      match fraction rest with
      | (digits, rest) =>
          match exponent rest with
          | (power, rest) =>
              if digits.isNone && power.isNone then
                if Text.longestInteger < whole.length then
                  .error (.integer (.tooLong whole.length))
                else
                  .ok (.integer (Double.signed negative (Text.valueOfDigits 10 whole)), rest)
              else
                .ok (.float (Double.ofNumeral negative whole (digits.getD []) (power.getD 0)), rest)

/-- The values that are written as words. -/
def words : List (Text × Data) :=
  [("null", .null), ("true", .boolean true), ("false", .boolean false),
    ("NaN", .float .notANumber), ("Infinity", .float (.infinite false)),
    ("-Infinity", .float (.infinite true))]

/-- The word at the beginning of a text. -/
def word? (text : Text) : Option (Data × Text) :=
  words.findSome? fun (spelling, value) => (text.after? spelling).map fun rest => (value, rest)

end ApiTypes.Json
