/-!
# Text

Text is a list of code points.  Documents may spell one half of a surrogate
pair by an escape without its partner, so a code point is either a Unicode
scalar value or such a lone half.

The module holds the type, its numbering, the classes of code points that have
the same meaning everywhere, and the operations on whole texts.
-/

namespace ApiTypes

/-- A Unicode scalar value, or one half of a surrogate pair that stands alone. -/
inductive CodePoint where
  | scalar (char : Char)
  | surrogate (half : Fin 2048)
  deriving DecidableEq, Repr

/-- A sequence of code points. -/
abbrev Text := List CodePoint

/-- A sequence of octets. -/
abbrev Bytes := List UInt8

namespace CodePoint

instance : Inhabited CodePoint := ⟨.scalar 'A'⟩

instance : Coe Char CodePoint := ⟨.scalar⟩

/-- The number that Unicode gives to a code point. -/
def toNat : CodePoint → Nat
  | .scalar char => char.toNat
  | .surrogate half => 0xD800 + half.val

/-- The code point with a given number, if there is one. -/
def ofNat? (number : Nat) : Option CodePoint :=
  if valid : number.isValidChar then
    some (.scalar (Char.ofNatAux number valid))
  else if surrogate : 0xD800 ≤ number ∧ number < 0xE000 then
    some (.surrogate ⟨number - 0xD800, by omega⟩)
  else
    none

/-- The code point of a number below the end of Unicode, and the replacement
character for any greater number. -/
def ofNat (number : Nat) : CodePoint :=
  (ofNat? number).getD (.scalar '\uFFFD')

/-- A code point of a string of characters. -/
def isOneOf (point : CodePoint) (characters : String) : Bool :=
  match point with
  | .scalar char => characters.toList.contains char
  | .surrogate _ => false

/-- One of the digits `0` to `9`. -/
def isDigit (point : CodePoint) : Bool :=
  0x30 ≤ point.toNat && point.toNat ≤ 0x39

theorem isDigit_scalar (char : Char) : isDigit (.scalar char) = char.isDigit := by
  simp only [isDigit, Char.isDigit, toNat, Char.toNat, ge_iff_le, UInt32.le_iff_toNat_le]
  rfl

/-- One of the letters `A` to `Z` and `a` to `z`. -/
def isAsciiLetter (point : CodePoint) : Bool :=
  (0x41 ≤ point.toNat && point.toNat ≤ 0x5A) || (0x61 ≤ point.toNat && point.toNat ≤ 0x7A)

/-- The value of one of the digits `0` to `9`. -/
def digitValue? (point : CodePoint) : Option Nat :=
  if point.isDigit then some (point.toNat - 0x30) else none

/-- The value of a hexadecimal digit in either case. -/
def hexValue? (point : CodePoint) : Option Nat :=
  let number := point.toNat
  if 0x30 ≤ number ∧ number ≤ 0x39 then some (number - 0x30)
  else if 0x41 ≤ number ∧ number ≤ 0x46 then some (number - 0x37)
  else if 0x61 ≤ number ∧ number ≤ 0x66 then some (number - 0x57)
  else none

/-- The small letter for one of the capital letters `A` to `Z`. -/
def toAsciiLower (point : CodePoint) : CodePoint :=
  if 0x41 ≤ point.toNat ∧ point.toNat ≤ 0x5A then ofNat (point.toNat + 0x20) else point

/-- The half of a surrogate pair that has to come first. -/
def isHighSurrogate (point : CodePoint) : Bool :=
  0xD800 ≤ point.toNat && point.toNat ≤ 0xDBFF

/-- The half of a surrogate pair that has to come second. -/
def isLowSurrogate (point : CodePoint) : Bool :=
  0xDC00 ≤ point.toNat && point.toNat ≤ 0xDFFF

/-- The scalar value that a high and a low surrogate stand for together. -/
def joinSurrogates (high low : CodePoint) : CodePoint :=
  ofNat (0x10000 + (high.toNat - 0xD800) * 0x400 + (low.toNat - 0xDC00))

end CodePoint

namespace Text

def ofString (string : String) : Text :=
  string.toList.map .scalar

instance : Coe String Text := ⟨ofString⟩

/-- The text of a list of characters. -/
def ofChars (chars : List Char) : Text :=
  chars.map .scalar

/-- The string of a text, with the replacement character for each lone surrogate. -/
def toString (text : Text) : String :=
  String.ofList (text.map fun
    | .scalar char => char
    | .surrogate _ => '\uFFFD')

/-- The decimal numeral of a natural number. -/
def ofNat (number : Nat) : Text :=
  ofChars (Nat.toDigits 10 number)

/-- The decimal numeral of an integer, with a minus sign before a negative one. -/
def ofInt : Int → Text
  | .ofNat number => ofNat number
  | .negSucc number => .scalar '-' :: ofNat (number + 1)

/-- A numeral in lower-case hexadecimal digits, filled up with zeros on the left. -/
def hex (width number : Nat) : Text :=
  let digits := Nat.toDigits 16 number
  ofChars (List.replicate (width - digits.length) '0' ++ digits)

/-- A decimal numeral filled up with zeros on the left. -/
def padded (width number : Nat) : Text :=
  let digits := Nat.toDigits 10 number
  ofChars (List.replicate (width - digits.length) '0' ++ digits)

/-- Texts one after another with a separator between neighbours. -/
def join (separator : Text) : List Text → Text
  | [] => []
  | [part] => part
  | part :: parts => part ++ separator ++ join separator parts

/-- The pieces of a text between the occurrences of one code point. -/
def splitOn (separator : CodePoint) : Text → List Text
  | [] => [[]]
  | point :: rest =>
      if point = separator then [] :: splitOn separator rest
      else
        match splitOn separator rest with
        | [] => [[point]]
        | piece :: pieces => (point :: piece) :: pieces

/-- A text without the code points of a class at its two ends. -/
def trim (isOuter : CodePoint → Bool) (text : Text) : Text :=
  ((text.dropWhile isOuter).reverse.dropWhile isOuter).reverse

/-- What follows an opening of the text, if the text opens that way. -/
def after? (text opening : Text) : Option Text :=
  if opening.isPrefixOf text then some (text.drop opening.length) else none

theorem after?_append (opening rest : Text) : (opening ++ rest).after? opening = some rest := by
  simp [after?]

/-- A text is what it opens with and what follows. -/
theorem eq_append_of_after?_eq_some {text opening rest : Text}
    (opens : text.after? opening = some rest) : text = opening ++ rest := by
  unfold after? at opens
  split at opens
  · rename_i isOpening
    obtain ⟨others, rfl⟩ := List.isPrefixOf_iff_prefix.mp isOpening
    simpa using opens
  · simp at opens

/-- A text opens with nothing whose first code point is another one than its own. -/
theorem after?_eq_none {text opening : Text} (first : CodePoint)
    (opens : opening.head? = some first) (differs : text.head? ≠ some first) :
    text.after? opening = none := by
  cases found : text.after? opening with
  | none => rfl
  | some rest =>
      have whole := eq_append_of_after?_eq_some found
      cases opening with
      | nil => simp at opens
      | cons point opening =>
          rw [whole] at differs
          exact absurd opens differs

/-- The code points of a class at the beginning of a text end where one of another class
stands. -/
theorem takeWhile_append {isIn : CodePoint → Bool} {first rest : Text}
    (inside : ∀ point ∈ first, isIn point = true)
    (ends : ∀ point ∈ rest.head?, isIn point = false) : (first ++ rest).takeWhile isIn = first := by
  rw [List.takeWhile_append_of_pos inside]
  cases rest with
  | nil => simp
  | cons point rest => simp [ends point rfl]

theorem dropWhile_append {isIn : CodePoint → Bool} {first rest : Text}
    (inside : ∀ point ∈ first, isIn point = true)
    (ends : ∀ point ∈ rest.head?, isIn point = false) : (first ++ rest).dropWhile isIn = rest := by
  rw [List.dropWhile_append_of_pos inside]
  cases rest with
  | nil => rfl
  | cons point rest => simp [ends point rfl]

/-- A text with a small letter for each of the capital letters `A` to `Z`. -/
def toAsciiLower (text : Text) : Text :=
  text.map CodePoint.toAsciiLower

/-- The value of digits in a base, the most significant digit first. -/
def valueOfDigits (base : Nat) (digits : List Nat) : Nat :=
  digits.foldl (fun value digit => value * base + digit) 0

end Text

end ApiTypes
