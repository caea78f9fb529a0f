import ApiTypes.TypeExpr

/-!
# Filtering of type expressions

A type is rebuilt without the names that a predicate rejects.  A composite type
is dropped with its last member.  One that has had no members all along is
dropped only on demand.
-/

namespace ApiTypes.TypeExpr

mutual

/-- The type without the rejected names, and without composites that are empty if
`dropsEmpty` is set.  No type is left if nothing of it is. -/
def filter (keeps : Text → Bool) (dropsEmpty : Bool) : TypeExpr → Option TypeExpr
  | .array element => (filter keeps dropsEmpty element).map .array
  | .intersection members =>
      let kept := filterMembers keeps dropsEmpty members
      if kept.isEmpty && (dropsEmpty || !members.isEmpty) then none
      else some (.intersection kept)
  | .union members =>
      let kept := filterMembers keeps dropsEmpty members
      if kept.isEmpty && (dropsEmpty || !members.isEmpty) then none
      else some (.union kept)
  | .named name => if keeps name then some (.named name) else none
  | .record fields =>
      let kept := filterFields keeps dropsEmpty fields
      if kept.isEmpty && (dropsEmpty || !fields.isEmpty) then none
      else some (.record kept)
  | .literal value => some (.literal value)

/-- The members of which something is left. -/
def filterMembers (keeps : Text → Bool) (dropsEmpty : Bool) : List TypeExpr → List TypeExpr
  | [] => []
  | member :: members =>
      match filter keeps dropsEmpty member with
      | some kept => kept :: filterMembers keeps dropsEmpty members
      | none => filterMembers keeps dropsEmpty members

/-- The fields of whose types something is left. -/
def filterFields (keeps : Text → Bool) (dropsEmpty : Bool) :
    List (Field TypeExpr) → List (Field TypeExpr)
  | [] => []
  | ⟨name, required, type⟩ :: fields =>
      match filter keeps dropsEmpty type with
      | some kept => ⟨name, required, kept⟩ :: filterFields keeps dropsEmpty fields
      | none => filterFields keeps dropsEmpty fields

end

theorem filterMembers_eq_filterMap (keeps : Text → Bool) (dropsEmpty : Bool)
    (members : List TypeExpr) :
    filterMembers keeps dropsEmpty members = members.filterMap (filter keeps dropsEmpty) := by
  induction members with
  | nil => rfl
  | cons member members ih =>
      cases left : filter keeps dropsEmpty member <;> simp [filterMembers, left, ih]

theorem filterFields_eq_filterMap (keeps : Text → Bool) (dropsEmpty : Bool)
    (fields : List (Field TypeExpr)) :
    filterFields keeps dropsEmpty fields =
      fields.filterMap fun field =>
        (filter keeps dropsEmpty field.type).map fun type => { field with type } := by
  induction fields with
  | nil => rfl
  | cons field fields ih =>
      cases left : filter keeps dropsEmpty field.type <;> simp [filterFields, left, ih]

def prune (type : TypeExpr) : Option TypeExpr :=
  type.filter (fun _ => true) true

def exclude (names : List Text) (type : TypeExpr) : Option TypeExpr :=
  type.filter (fun name => !names.contains name) false

end ApiTypes.TypeExpr
