import ApiTypes.Double.Numeral
import ApiTypes.Shape.Checked
import ApiTypes.Shape.View
import ApiTypes.Text.Encoding

/-!
# Scalars of documents

Scalars of one kind are accepted where another kind is expected if their meaning
is clear: numbers as texts, numerals as numbers, and several words as truth
values.
-/

namespace ApiTypes.Shape

/-- The greatest magnitude that integers may not reach to be written in digits. -/
def unwritableMagnitude : Nat := Nat.pow 10 Text.longestInteger

/-- The bounds of the integers of 64 bits. -/
def isInt64 (value : Int) : Bool :=
  decide (-(Nat.pow 2 63 : Int) ≤ value ∧ value < (Nat.pow 2 63 : Int))

/-- Data as a text: texts, the text of UTF-8 octets, and the numerals of numbers. -/
def textOf : Data → Checked Text
  | .text content => .valid content
  | .bytes content =>
      match Bytes.decode content with
      | .ok text => .valid text
      | .error _ => .refuse .textNotUnicode (.bytes content)
  | .integer value =>
      if value.natAbs < unwritableMagnitude then .valid (Text.ofInt value) else .unwritable
  | .float value => .valid value.text
  | content => .refuse .notAText content

def truthWords : List (Text × Bool) :=
  [("0", false), ("off", false), ("f", false), ("false", false), ("n", false), ("no", false),
    ("1", true), ("on", true), ("t", true), ("true", true), ("y", true), ("yes", true)]

/-- A word for a truth value, in letters of either case. -/
def truthOfWord (word : Text) : Checked Bool :=
  match truthWords.lookup word.toAsciiLower with
  | some value => .valid value
  | none => .refuse .truthValueUnreadable (.text word)

/-- The numbers zero and one as truth values. -/
def truthOfInteger (value : Int) : Checked Bool :=
  if value = 0 then .valid false
  else if value = 1 then .valid true
  else .refuse .truthValueUnreadable (.integer value)

def truthOf : Data → Checked Bool
  | .boolean value => .valid value
  | .text word => truthOfWord word
  | .bytes content =>
      match Bytes.decode content with
      | .ok word => truthOfWord word
      | .error _ => .refuse .truthValueUnreadable (.bytes content)
  | .integer value =>
      if isInt64 value then truthOfInteger value else .refuse .notATruthValue (.integer value)
  | .float number =>
      match number.toInt? with
      | some value =>
          if value.natAbs < Nat.pow 2 63 then truthOfInteger value
          else .refuse .notATruthValue (.float number)
      | none => .refuse .notATruthValue (.float number)
  | content => .refuse .notATruthValue content

/-- A text without its underscores, if it has some and each stands alone and inside. -/
def withoutUnderscores? (text : Text) : Option Text :=
  let underscore : CodePoint := .scalar '_'
  let pieces := text.splitOn underscore
  if text.contains underscore && pieces.all (!·.isEmpty) then some pieces.flatten else none

/-- A numeral with blanks around it or with underscores in it. -/
def numberOfNumeral (numeral : Text) : Checked Double :=
  match (Double.ofText? (numeral.trim CodePoint.isWhiteSpace)).or
      ((withoutUnderscores? numeral).bind Double.ofText?) with
  | some number => .valid number
  | none => .refuse .numberUnreadable (.text numeral)

def numberOf : Data → Checked Double
  | .float number => .valid number
  | .boolean value => .valid (Double.nearestInt (if value then 1 else 0))
  | .integer value =>
      match Double.ofInt? value with
      | some number => .valid number
      | none => .refuse .notANumber (.integer value)
  | .text numeral => numberOfNumeral numeral
  | .bytes content =>
      match Bytes.decode content with
      | .ok numeral => numberOfNumeral numeral
      | .error _ => .refuse .numberUnreadable (.bytes content)
  | content => .refuse .notANumber content

section Places

variable {Place : Type} [View Place]

/-- The scalar at a place, read in one way; collections are no scalars. -/
def scalar (read : Data → Checked α) (complaint : Complaint) (place : Place) : Checked α :=
  match View.layer place with
  | .scalar content => read content
  | _ => .refuse complaint (View.displayed place)

def text (place : Place) : Checked Text :=
  scalar textOf .notAText place

def truth (place : Place) : Checked Bool :=
  scalar truthOf .notATruthValue place

def number (place : Place) : Checked Double :=
  scalar numberOf .notANumber place

/-- Nothing stands at a place. -/
def isNull (place : Place) : Bool :=
  match View.layer place with
  | .scalar .null => true
  | _ => false

end Places

end ApiTypes.Shape
