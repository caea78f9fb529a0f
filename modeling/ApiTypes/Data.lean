import ApiTypes.Calendar
import ApiTypes.Double.Text
import ApiTypes.Text.Quoted

/-!
# Loaded data

What a document holds once its text is loaded: scalars of eight kinds and
collections of four.  Mappings keep the order in which their members came; sets
have theirs in the order in which they yield them, which need not be the same.
A collection may hold one of the collections around it; such a place says only
how far up the other one is.
-/

namespace ApiTypes

/-- The content of a loaded document. -/
inductive Data where
  | null
  | boolean (value : Bool)
  | integer (value : Int)
  | float (value : Double)
  | text (value : Text)
  | bytes (value : Bytes)
  | date (value : Date)
  | dateTime (value : DateTime)
  | list (items : List Data)
  | tuple (items : List Data)
  /-- A set, with its members in the order in which it yields them. -/
  | set (items : List Data)
  | mapping (entries : List (Data × Data))
  /-- The collection that encloses this place, `up` collections above the nearest one. -/
  | enclosing (up : Nat)

namespace Data

instance : Inhabited Data := ⟨.null⟩

/-- The name of the kind of data in messages. -/
def kindName : Data → Text
  | .null => "NoneType"
  | .boolean _ => "bool"
  | .integer _ => "int"
  | .float _ => "float"
  | .text _ => "str"
  | .bytes _ => "bytes"
  | .date _ => "date"
  | .dateTime _ => "datetime"
  | .list _ => "list"
  | .tuple _ => "tuple"
  | .set _ => "set"
  | .mapping _ => "dict"
  | .enclosing _ => "list"

/-- The integer that a number or a truth value equals. -/
def asInteger? : Data → Option Int
  | .boolean value => some (if value then 1 else 0)
  | .integer value => some value
  | .float value => value.toInt?
  | _ => none

mutual

/-- Two keys are one when they are equal: numbers by value, truth values as zero and one,
times by the instant.  What is no number is equal to nothing. -/
def sameKey (left right : Data) : Bool :=
  match left, right with
  | .null, .null => true
  | .text leftText, .text rightText => leftText == rightText
  | .bytes leftBytes, .bytes rightBytes => leftBytes == rightBytes
  | .date leftDate, .date rightDate => leftDate == rightDate
  | .dateTime leftTime, .dateTime rightTime => leftTime.sameInstant rightTime
  | .tuple leftItems, .tuple rightItems => sameKeys leftItems rightItems
  | _, _ =>
      match left.asInteger?, right.asInteger? with
      | some leftInteger, some rightInteger => leftInteger == rightInteger
      | none, none =>
          match left, right with
          | .float leftFloat, .float rightFloat =>
              leftFloat == rightFloat && leftFloat != .notANumber
          | _, _ => false
      | _, _ => false

/-- Keys that are equal one by one. -/
def sameKeys : List Data → List Data → Bool
  | [], [] => true
  | left :: lefts, right :: rights => sameKey left right && sameKeys lefts rights
  | _, _ => false

end

/-- The entries of a mapping after one more: an equal key keeps its place and gets the new
value. -/
def insert (key value : Data) : List (Data × Data) → List (Data × Data)
  | [] => [(key, value)]
  | (present, old) :: entries =>
      if sameKey present key then (present, value) :: entries
      else (present, old) :: insert key value entries

/-- The entries of a mapping filled from left to right. -/
def ofEntries (entries : List (Data × Data)) : List (Data × Data) :=
  entries.foldl (fun mapping (key, value) => insert key value mapping) []

mutual

def display : Data → Text
  | .null => "None"
  | .boolean value => if value then "True" else "False"
  | .integer value => Text.ofInt value
  | .float value => value.text
  | .text value => value.quoted
  | .bytes value => Bytes.quoted value
  | .date value => value.display
  | .dateTime value => value.display
  | .list items => "[" ++ Text.join ", " (displays items) ++ "]"
  | .tuple items =>
      "(" ++ Text.join ", " (displays items) ++ (if items.length = 1 then ",)" else ")")
  | .set items =>
      if items.isEmpty then "set()" else "\x7b" ++ Text.join ", " (displays items) ++ "\x7d"
  | .mapping entries => "\x7b" ++ Text.join ", " (displayEntries entries) ++ "\x7d"
  | .enclosing _ => "[...]"

def displays : List Data → List Text
  | [] => []
  | item :: items => display item :: displays items

/-- The entries of a mapping as messages show them. -/
def displayEntries : List (Data × Data) → List Text
  | [] => []
  | (key, value) :: entries => (display key ++ ": " ++ display value) :: displayEntries entries

end

mutual

/-- Data in which no collection holds a collection around it. -/
def isTree : Data → Bool
  | .enclosing _ => false
  | .list items => areTrees items
  | .tuple items => areTrees items
  | .set items => areTrees items
  | .mapping entries => areEntryTrees entries
  | _ => true

/-- List counterpart of `isTree`. -/
def areTrees : List Data → Bool
  | [] => true
  | item :: items => isTree item && areTrees items

/-- Entries whose keys and values are trees. -/
def areEntryTrees : List (Data × Data) → Bool
  | [] => true
  | (key, value) :: entries => isTree key && isTree value && areEntryTrees entries

end

mutual

/-- How many of the collections around data it holds, where `depth` collections around it do not
count. -/
def outward (depth : Nat) : Data → Nat
  | .enclosing up => up + 1 - depth
  | .list items => itemsOutward (depth + 1) items
  | .tuple items => itemsOutward (depth + 1) items
  | .set items => itemsOutward (depth + 1) items
  | .mapping entries => entriesOutward (depth + 1) entries
  | _ => 0

def itemsOutward (depth : Nat) : List Data → Nat
  | [] => 0
  | item :: items => max (outward depth item) (itemsOutward depth items)

/-- How many of the collections around a mapping its entries hold. -/
def entriesOutward (depth : Nat) : List (Data × Data) → Nat
  | [] => 0
  | (_, value) :: entries => max (outward depth value) (entriesOutward depth entries)

end

mutual

/-- The integers in data at any depth, those in keys included. -/
def integers : Data → List Int
  | .integer value => [value]
  | .list items => itemsIntegers items
  | .tuple items => itemsIntegers items
  | .set items => itemsIntegers items
  | .mapping entries => entriesIntegers entries
  | _ => []

def itemsIntegers : List Data → List Int
  | [] => []
  | item :: items => integers item ++ itemsIntegers items

/-- The integers in the entries of a mapping. -/
def entriesIntegers : List (Data × Data) → List Int
  | [] => []
  | (key, value) :: entries => integers key ++ integers value ++ entriesIntegers entries

end

end Data

end ApiTypes
