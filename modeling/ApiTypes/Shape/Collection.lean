import ApiTypes.Shape.Scalar

/-!
# Collections of documents

Lists, dictionaries from texts, and objects with named members.  A member is
looked up under its name in documents and then under a second one.
-/

namespace ApiTypes

/-- Values under distinct names, in the order in which the names came first. -/
abbrev Dictionary (α : Type) := List (Text × α)

namespace Dictionary

/-- A dictionary after one more entry: a name that is there already keeps its place and gets the
new value. -/
def insert (name : Text) (value : α) : Dictionary α → Dictionary α
  | [] => [(name, value)]
  | (present, old) :: entries =>
      if present = name then (present, value) :: entries
      else (present, old) :: insert name value entries

/-- A dictionary filled from left to right. -/
def ofEntries (entries : List (Text × α)) : Dictionary α :=
  entries.foldl (fun dictionary (name, value) => insert name value dictionary) []

end Dictionary

namespace Shape

/-- The key of an entry as a step of a path. -/
def stepOfKey (key : Data) : Step :=
  match key with
  | .text name => .name name
  | .boolean value => .number (if value then 1 else 0)
  | .integer value =>
      if isInt64 value then .number value
      else if value.natAbs < unwritableMagnitude then .name key.display
      else .name "<unprintable int object>"
  | key => .name key.display

variable {Place : Type} [View Place]

/-- The list of what stands at a place, which may be any collection without keys. -/
def list (read : Place → Checked α) (place : Place) : Checked (List α) :=
  match View.layer place with
  | .sequence _ items =>
      Checked.collect (items.mapIdx fun index item => (read item).under (.number index))
  | _ => .refuse .notAList (View.displayed place)

/-- One entry of a dictionary; the key may be wrong as well as the value. -/
def entry (read : Place → Checked α) (key : Data) (place : Place) : Checked (Text × α) :=
  let step := stepOfKey key
  Prod.mk <$> ((textOf key).labelled "[key]").under step <*> (read place).under step

/-- The dictionary at a place. -/
def dictionary (read : Place → Checked α) (place : Place) : Checked (Dictionary α) :=
  match View.layer place with
  | .mapping entries =>
      Dictionary.ofEntries <$>
        Checked.collect (entries.map fun (key, value) => entry read key value)
  | _ => .refuse .notADictionary (View.displayed place)

/-- A key that begins like an extension of a format. -/
def isExtension : Data → Bool
  | .text name => (name.after? "x-").isSome
  | _ => false

/-- The dictionary at a place without the extensions in it. -/
def dictionaryWithoutExtensions (read : Place → Checked α) (place : Place) :
    Checked (Dictionary α) :=
  match View.layer place with
  | .mapping entries =>
      Dictionary.ofEntries <$>
        Checked.collect ((entries.filter fun (key, _) => !isExtension key).map
          fun (key, value) => entry read key value)
  | _ => .refuse .notADictionary (View.displayed place)

/-- The entries of an object. -/
abbrev Members (Place : Type) := List (Data × Place)

/-- The object at a place, read from its members. -/
def object (read : Members Place → Checked α) (place : Place) : Checked α :=
  match View.layer place with
  | .mapping entries => read entries
  | _ => .refuse .notAnObject (View.displayed place)

namespace Members

def find? (members : Members Place) (name : Text) : Option Place :=
  (List.find? (fun (key, _) => Data.sameKey key (.text name)) members).map Prod.snd

/-- The name under which a member is found, and its place. -/
def locate? (members : Members Place) (wire own : Text) : Option (Text × Place) :=
  match find? members wire with
  | some place => some (wire, place)
  | none => (find? members own).map fun place => (own, place)

/-- The object with the given members as a message shows it. -/
def displayed (members : Members Place) : Data :=
  .mapping (members.map fun (key, place) => (key, View.displayed place))

/-- A member that has to be there. -/
def needed (members : Members Place) (wire own : Text) (read : Place → Checked α) :
    Checked α :=
  match members.locate? wire own with
  | some (name, place) => (read place).labelled name
  | none => (Checked.refuse .missing members.displayed).labelled wire

/-- A member that may be missing or null. -/
def optional (members : Members Place) (wire own : Text) (read : Place → Checked α) :
    Checked (Option α) :=
  match members.locate? wire own with
  | some (name, place) =>
      if isNull place then .valid none else some <$> (read place).labelled name
  | none => .valid none

end Members

end Shape

end ApiTypes
