import ApiTypes.TypeExpr.Filter

/-!
# Names in types

The names that occur in a type, and what filtering leaves of them.
-/

namespace ApiTypes

namespace TypeExpr

mutual

/-- The names in a type at any depth, in order. -/
def names : TypeExpr → List Text
  | .array element => names element
  | .intersection members => membersNames members
  | .union members => membersNames members
  | .named name => [name]
  | .record fields => fieldsNames fields
  | .literal _ => []

def membersNames : List TypeExpr → List Text
  | [] => []
  | member :: members => names member ++ membersNames members

/-- The names in the types of fields. -/
def fieldsNames : List (Field TypeExpr) → List Text
  | [] => []
  | ⟨_, _, type⟩ :: fields => names type ++ fieldsNames fields

end

theorem membersNames_eq_flatMap (members : List TypeExpr) :
    membersNames members = members.flatMap names := by
  induction members with
  | nil => rfl
  | cons member members induction => simp [membersNames, induction]

/-- Whether a composite without members is dropped makes no difference to the names. -/
private theorem collapse_elim_names {α : Type} (build : List α → TypeExpr)
    (namesOf : List α → List Text) (drops : Bool) (kept : List α)
    (namesBuild : names (build kept) = namesOf kept) (namesNil : namesOf [] = []) :
    (if kept.isEmpty && drops then none else some (build kept)).elim [] names =
      namesOf kept := by
  cases kept with
  | nil => cases drops <;> simp [namesBuild, namesNil]
  | cons member kept => simpa using namesBuild

mutual

/-- Filtering removes the rejected names and no others, whether or not a type is left. -/
theorem names_filter (keeps : Text → Bool) (dropsEmpty : Bool) (type : TypeExpr) :
    (type.filter keeps dropsEmpty).elim [] names = type.names.filter keeps := by
  cases type with
  | array element =>
      have elementNames := names_filter keeps dropsEmpty element
      cases left : element.filter keeps dropsEmpty <;>
        simpa [filter, names, left] using elementNames
  | intersection members =>
      rw [filter, names, ← membersNames_filterMembers keeps dropsEmpty members]
      exact collapse_elim_names intersection membersNames _ _ (by rw [names]) rfl
  | union members =>
      rw [filter, names, ← membersNames_filterMembers keeps dropsEmpty members]
      exact collapse_elim_names union membersNames _ _ (by rw [names]) rfl
  | named name =>
      cases kept : keeps name <;> simp [filter, names, kept]
  | record fields =>
      rw [filter, names, ← fieldsNames_filterFields keeps dropsEmpty fields]
      exact collapse_elim_names record fieldsNames _ _ (by rw [names]) rfl
  | literal value => rfl

/-- List counterpart of `names_filter`. -/
theorem membersNames_filterMembers (keeps : Text → Bool) (dropsEmpty : Bool)
    (members : List TypeExpr) :
    membersNames (filterMembers keeps dropsEmpty members) =
      (membersNames members).filter keeps := by
  cases members with
  | nil => rfl
  | cons member members =>
      have memberNames := names_filter keeps dropsEmpty member
      have membersNames := membersNames_filterMembers keeps dropsEmpty members
      cases left : member.filter keeps dropsEmpty <;>
        rw [left] at memberNames <;>
        simp [filterMembers, TypeExpr.membersNames, left, membersNames, ← memberNames]

/-- Counterpart of `names_filter` for the fields of a record. -/
theorem fieldsNames_filterFields (keeps : Text → Bool) (dropsEmpty : Bool)
    (fields : List (Field TypeExpr)) :
    fieldsNames (filterFields keeps dropsEmpty fields) =
      (fieldsNames fields).filter keeps := by
  cases fields with
  | nil => rfl
  | cons field fields =>
      obtain ⟨name, required, type⟩ := field
      have typeNames := names_filter keeps dropsEmpty type
      have fieldsNames := fieldsNames_filterFields keeps dropsEmpty fields
      cases left : type.filter keeps dropsEmpty <;>
        rw [left] at typeNames <;>
        simp [filterFields, TypeExpr.fieldsNames, left, fieldsNames, ← typeNames]

end

/-- A type that is left holds the names that were kept. -/
theorem names_of_filter_eq_some {keeps : Text → Bool} {dropsEmpty : Bool}
    {type left : TypeExpr} (success : type.filter keeps dropsEmpty = some left) :
    left.names = type.names.filter keeps := by
  rw [← names_filter keeps dropsEmpty type, success]
  rfl

end TypeExpr

end ApiTypes
