import ApiTypes.Data

/-!
# Checked values

Reading data as a value of a fixed shape gives the value or all issues at once,
each with the path of steps to its place.  One circumstance stops reading
without an issue: an integer that stands for a text but is too long to be
written.
-/

namespace ApiTypes.Shape

/-- One step of a path: the key of an entry, the index of an item, or the name of one of
several shapes that are tried. -/
inductive Step where
  | name (name : Text)
  | number (number : Int)
  deriving DecidableEq

/-- What is wrong with the data at a place. -/
inductive Complaint where
  | missing
  | notAText
  | textNotUnicode
  | notATruthValue
  | truthValueUnreadable
  | notANumber
  | numberUnreadable
  | notAList
  | notADictionary
  | notAnObject
  | notInEnumeration
  | valueRefused
  | recursion
  deriving DecidableEq

/-- A complaint with the path to its place. -/
structure Issue where
  path : List Step
  complaint : Complaint
  /-- The data that is wrong, or the object that lacks a member. -/
  content : Data

namespace Complaint

/-- The code that reports give to a complaint. -/
def code : Complaint → Text
  | .missing => "missing"
  | .notAText => "string_type"
  | .textNotUnicode => "string_unicode"
  | .notATruthValue => "bool_type"
  | .truthValueUnreadable => "bool_parsing"
  | .notANumber => "float_type"
  | .numberUnreadable => "float_parsing"
  | .notAList => "list_type"
  | .notADictionary => "dict_type"
  | .notAnObject => "model_type"
  | .notInEnumeration => "enum"
  | .valueRefused => "value_error"
  | .recursion => "recursion_loop"

end Complaint

/-- The value at a place, or what is wrong there. -/
inductive Checked (α : Type) where
  | valid (value : α)
  | invalid (issues : List Issue)
  | unwritable

namespace Checked

def refuse (complaint : Complaint) (content : Data) : Checked α :=
  .invalid [{ path := [], complaint, content }]

/-- A function of a value that is valid. -/
protected def map (function : α → β) : Checked α → Checked β
  | .valid value => .valid (function value)
  | .invalid issues => .invalid issues
  | .unwritable => .unwritable

/-- A function applied to a value where both are valid; otherwise the issues of both. -/
protected def seq : Checked (α → β) → Checked α → Checked β
  | .unwritable, _ => .unwritable
  | _, .unwritable => .unwritable
  | .valid function, .valid value => .valid (function value)
  | .valid _, .invalid issues => .invalid issues
  | .invalid issues, .valid _ => .invalid issues
  | .invalid issues, .invalid others => .invalid (issues ++ others)

instance : Applicative Checked where
  map := Checked.map
  pure := .valid
  seq function value := function.seq (value ())

/-- The first value if it is valid, otherwise the second one; the issues of both if neither
is. -/
protected def orElse (first : Checked α) (second : Unit → Checked α) : Checked α :=
  match first with
  | .valid value => .valid value
  | .unwritable => .unwritable
  | .invalid issues =>
      match second () with
      | .invalid others => .invalid (issues ++ others)
      | other => other

instance : OrElse (Checked α) := ⟨Checked.orElse⟩

/-- The same with its issues one step further down. -/
def under (step : Step) : Checked α → Checked α
  | .invalid issues =>
      .invalid (issues.map fun issue => { issue with path := step :: issue.path })
  | other => other

/-- The same with its issues under the name of a shape. -/
def labelled (label : Text) (checked : Checked α) : Checked α :=
  checked.under (.name label)

/-- All values where every one is valid; otherwise the issues of all. -/
def collect : List (Checked α) → Checked (List α)
  | [] => .valid []
  | checked :: others => List.cons <$> checked <*> collect others

end Checked

end ApiTypes.Shape
