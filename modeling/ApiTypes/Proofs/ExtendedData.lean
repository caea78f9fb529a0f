import ApiTypes.Shape.Collection

/-!
# Documents with further extensions

Data of a document and data with further extensions among its paths and among the
responses of its operations.  From the root to these two maps, the objects around them
are the same but for the members on the way.
-/

namespace ApiTypes

open Shape

/-! ## Relations of mappings -/

/-- Entries with further extensions among them, which hold anything, and with related values under
the same keys. -/
inductive Inserts (related : Data → Data → Prop) : Members Data → Members Data → Prop
  | nil : Inserts related [] []
  | extension {name : Text} {entries others : Members Data} (value : Data)
      (isExtension : (name.after? "x-").isSome = true) (tail : Inserts related entries others) :
      Inserts related entries ((.text name, value) :: others)
  | kept {value other : Data} {entries others : Members Data} (key : Data)
      (head : related value other) (tail : Inserts related entries others) :
      Inserts related ((key, value) :: entries) ((key, other) :: others)

/-- Entries with related values under some names; all other entries are the same. -/
inductive Edits (names : List Text) (related : Data → Data → Prop) :
    Members Data → Members Data → Prop
  | nil : Edits names related [] []
  | same {entries others : Members Data} (entry : Data × Data)
      (tail : Edits names related entries others) :
      Edits names related (entry :: entries) (entry :: others)
  | edited {name : Text} {value other : Data} {entries others : Members Data}
      (isNamed : name ∈ names) (head : related value other)
      (tail : Edits names related entries others) :
      Edits names related ((.text name, value) :: entries) ((.text name, other) :: others)

/-- Data that is the same or a mapping with further extensions. -/
inductive MapExtended (related : Data → Data → Prop) : Data → Data → Prop
  | same (data : Data) : MapExtended related data data
  | inserted {entries others : Members Data} (inserts : Inserts related entries others) :
      MapExtended related (.mapping entries) (.mapping others)

/-- Data that is the same or an object with edited members. -/
inductive ObjectExtended (names : List Text) (related : Data → Data → Prop) : Data → Data → Prop
  | same (data : Data) : ObjectExtended names related data data
  | edited {entries others : Members Data} (edits : Edits names related entries others) :
      ObjectExtended names related (.mapping entries) (.mapping others)

/-! ## Documents -/

/-- The names of the operations of a path item. -/
def operationNames : List Text :=
  ["get", "put", "post", "delete", "options", "head", "patch", "trace"]

def ResponsesExtended : Data → Data → Prop :=
  MapExtended Eq

def OperationExtended : Data → Data → Prop :=
  ObjectExtended ["responses"] ResponsesExtended

def PathItemExtended : Data → Data → Prop :=
  ObjectExtended operationNames OperationExtended

def PathsExtended : Data → Data → Prop :=
  MapExtended PathItemExtended

/-- The data of a document with further extensions among its paths and among the responses of its
operations. -/
def DocumentExtended : Data → Data → Prop :=
  ObjectExtended ["paths"] PathsExtended

/-! ## What related data has in common -/

/-- Related data is the same, or both are mappings. -/
def KeepsKind (related : Data → Data → Prop) : Prop :=
  ∀ data other, related data other →
    other = data ∨ ∃ entries others, data = .mapping entries ∧ other = .mapping others

theorem keepsKind_eq : KeepsKind Eq :=
  fun _ _ same => .inl same.symm

theorem keepsKind_mapExtended (related : Data → Data → Prop) : KeepsKind (MapExtended related) := by
  rintro _ _ (_ | _)
  · exact .inl rfl
  · exact .inr ⟨_, _, rfl, rfl⟩

theorem keepsKind_objectExtended (names : List Text) (related : Data → Data → Prop) :
    KeepsKind (ObjectExtended names related) := by
  rintro _ _ (_ | _)
  · exact .inl rfl
  · exact .inr ⟨_, _, rfl, rfl⟩

theorem edits_same (names : List Text) (related : Data → Data → Prop) (entries : Members Data) :
    Edits names related entries entries := by
  induction entries with
  | nil => exact .nil
  | cons entry entries induction => exact .same entry induction

theorem inserts_same {related : Data → Data → Prop} (reflexive : ∀ data, related data data)
    (entries : Members Data) : Inserts related entries entries := by
  induction entries with
  | nil => exact .nil
  | cons entry entries induction => exact .kept entry.1 (reflexive entry.2) induction

/-- An object is extended by edits of its members. -/
theorem ObjectExtended.cases_mapping {names : List Text} {related : Data → Data → Prop}
    {data other : Data} (extended : ObjectExtended names related data other) :
    (∃ entries others, data = .mapping entries ∧ other = .mapping others ∧
      Edits names related entries others) ∨
    (other = data ∧ ∀ entries, data ≠ .mapping entries) := by
  cases extended with
  | edited edits => exact .inl ⟨_, _, rfl, rfl, edits⟩
  | same =>
      cases data with
      | mapping entries =>
          exact .inl ⟨entries, entries, rfl, rfl, edits_same names related entries⟩
      | _ => exact .inr ⟨rfl, nofun⟩

theorem MapExtended.cases_mapping {related : Data → Data → Prop}
    (reflexive : ∀ data, related data data) {data other : Data}
    (extended : MapExtended related data other) :
    (∃ entries others, data = .mapping entries ∧ other = .mapping others ∧
      Inserts related entries others) ∨
    (other = data ∧ ∀ entries, data ≠ .mapping entries) := by
  cases extended with
  | inserted inserts => exact .inl ⟨_, _, rfl, rfl, inserts⟩
  | same =>
      cases data with
      | mapping entries => exact .inl ⟨entries, entries, rfl, rfl, inserts_same reflexive entries⟩
      | _ => exact .inr ⟨rfl, nofun⟩

end ApiTypes
