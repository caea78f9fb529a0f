import ApiTypes.Draft
import ApiTypes.TypeExpr.Filter

/-!
# Distinct field names

A record has fields of distinct names, which is checked when it is put together.
A filter puts records together from fields of other ones, in their order, so that
the check never fails.
-/

namespace ApiTypes.TypeExpr

mutual

/-- The fields of every record in a type have distinct names. -/
def hasDistinctFields : TypeExpr → Bool
  | .array element => hasDistinctFields element
  | .intersection members => haveDistinctFields members
  | .union members => haveDistinctFields members
  | .named _ => true
  | .record fields => decide (fields.map Field.name).Nodup && fieldsHaveDistinctFields fields
  | .literal _ => true

def haveDistinctFields : List TypeExpr → Bool
  | [] => true
  | member :: members => hasDistinctFields member && haveDistinctFields members

/-- List counterpart of `hasDistinctFields` for the types of fields. -/
def fieldsHaveDistinctFields : List (Field TypeExpr) → Bool
  | [] => true
  | ⟨_, _, type⟩ :: fields => hasDistinctFields type && fieldsHaveDistinctFields fields

end

/-- The record of fields, unless a name comes twice. -/
def recordOf (fields : List (Field TypeExpr)) : Except DuplicateFields TypeExpr :=
  let names := fields.map Field.name
  if names.Nodup then .ok (.record fields) else .error { names }

section Rebuild

variable (keeps : Text → Bool) (dropsEmpty : Bool)

mutual

/-- The filter with a check of every record that it puts together. -/
def rebuild : TypeExpr → Except DuplicateFields (Option TypeExpr)
  | .array element => do return (← rebuild element).map .array
  | .intersection members => do
      let kept ← rebuildMembers members
      return if kept.isEmpty && (dropsEmpty || !members.isEmpty) then none
        else some (.intersection kept)
  | .union members => do
      let kept ← rebuildMembers members
      return if kept.isEmpty && (dropsEmpty || !members.isEmpty) then none
        else some (.union kept)
  | .named name => return if keeps name then some (.named name) else none
  | .record fields => do
      let kept ← rebuildFields fields
      let record ← recordOf kept
      return if kept.isEmpty && (dropsEmpty || !fields.isEmpty) then none else some record
  | .literal value => return some (.literal value)

def rebuildMembers : List TypeExpr → Except DuplicateFields (List TypeExpr)
  | [] => return []
  | member :: members => do
      let kept ← rebuild member
      let others ← rebuildMembers members
      return kept.toList ++ others

def rebuildFields : List (Field TypeExpr) → Except DuplicateFields (List (Field TypeExpr))
  | [] => return []
  | ⟨name, required, type⟩ :: fields => do
      let kept ← rebuild type
      let others ← rebuildFields fields
      return (kept.map fun type => ⟨name, required, type⟩).toList ++ others

end

/-- The fields that are left have some of the names, in their order. -/
theorem names_filterFields_sublist (fields : List (Field TypeExpr)) :
    ((filterFields keeps dropsEmpty fields).map Field.name).Sublist (fields.map Field.name) := by
  induction fields with
  | nil => exact .slnil
  | cons field fields induction =>
      obtain ⟨name, required, type⟩ := field
      cases left : type.filter keeps dropsEmpty with
      | none => simpa [filterFields, left] using induction.cons name
      | some kept => simpa [filterFields, left] using induction.cons_cons name

theorem nodup_names_filterFields {fields : List (Field TypeExpr)}
    (distinct : (fields.map Field.name).Nodup) :
    ((filterFields keeps dropsEmpty fields).map Field.name).Nodup :=
  distinct.sublist (names_filterFields_sublist keeps dropsEmpty fields)

/-- What is left of a composite has distinct field names, if its members have. -/
private theorem collapse_all_distinct {α : Type} {build : List α → TypeExpr} {kept : List α}
    (drops : Bool) (distinct : (build kept).hasDistinctFields = true) :
    (if kept.isEmpty && drops then none else some (build kept)).all hasDistinctFields = true := by
  split
  · rfl
  · exact distinct

mutual

theorem hasDistinctFields_filter (type : TypeExpr) (distinct : type.hasDistinctFields = true) :
    (type.filter keeps dropsEmpty).all hasDistinctFields = true := by
  cases type with
  | array element =>
      have elementDistinct := hasDistinctFields_filter element distinct
      rw [filter]
      cases left : element.filter keeps dropsEmpty with
      | none => rfl
      | some kept => simpa [hasDistinctFields, left] using elementDistinct
  | intersection members =>
      rw [filter]
      apply collapse_all_distinct
      exact haveDistinctFields_filterMembers members distinct
  | union members =>
      rw [filter]
      apply collapse_all_distinct
      exact haveDistinctFields_filterMembers members distinct
  | named name =>
      rw [filter]
      split <;> rfl
  | record fields =>
      simp only [hasDistinctFields, Bool.and_eq_true, decide_eq_true_eq] at distinct
      rw [filter]
      apply collapse_all_distinct
      simp only [hasDistinctFields, Bool.and_eq_true, decide_eq_true_eq]
      constructor
      · exact nodup_names_filterFields keeps dropsEmpty distinct.1
      · exact fieldsHaveDistinctFields_filterFields fields distinct.2
  | literal value => rfl

/-- List counterpart of `hasDistinctFields_filter`. -/
theorem haveDistinctFields_filterMembers (members : List TypeExpr)
    (distinct : haveDistinctFields members = true) :
    haveDistinctFields (filterMembers keeps dropsEmpty members) = true := by
  cases members with
  | nil => rfl
  | cons member members =>
      simp only [haveDistinctFields, Bool.and_eq_true] at distinct
      have memberDistinct := hasDistinctFields_filter member distinct.1
      have others := haveDistinctFields_filterMembers members distinct.2
      cases left : member.filter keeps dropsEmpty <;>
        simp_all [filterMembers, haveDistinctFields]

/-- Counterpart of `hasDistinctFields_filter` for the fields of a record. -/
theorem fieldsHaveDistinctFields_filterFields (fields : List (Field TypeExpr))
    (distinct : fieldsHaveDistinctFields fields = true) :
    fieldsHaveDistinctFields (filterFields keeps dropsEmpty fields) = true := by
  cases fields with
  | nil => rfl
  | cons field fields =>
      obtain ⟨name, required, type⟩ := field
      simp only [fieldsHaveDistinctFields, Bool.and_eq_true] at distinct
      have typeDistinct := hasDistinctFields_filter type distinct.1
      have others := fieldsHaveDistinctFields_filterFields fields distinct.2
      cases left : type.filter keeps dropsEmpty <;>
        simp_all [filterFields, fieldsHaveDistinctFields]

end

mutual

/-- The check of a record that is put together never fails. -/
theorem rebuild_eq_ok_filter (type : TypeExpr) (distinct : type.hasDistinctFields = true) :
    rebuild keeps dropsEmpty type = .ok (type.filter keeps dropsEmpty) := by
  cases type with
  | array element =>
      rw [rebuild, rebuild_eq_ok_filter element distinct, filter]
      rfl
  | intersection members =>
      rw [rebuild, rebuildMembers_eq_ok_filterMembers members distinct, filter]
      rfl
  | union members =>
      rw [rebuild, rebuildMembers_eq_ok_filterMembers members distinct, filter]
      rfl
  | named name => rfl
  | record fields =>
      simp only [hasDistinctFields, Bool.and_eq_true, decide_eq_true_eq] at distinct
      have checked : recordOf (filterFields keeps dropsEmpty fields) =
          .ok (.record (filterFields keeps dropsEmpty fields)) :=
        if_pos (nodup_names_filterFields keeps dropsEmpty distinct.1)
      rw [rebuild, rebuildFields_eq_ok_filterFields fields distinct.2, filter]
      dsimp only [bind, Except.bind]
      rw [checked]
      rfl
  | literal value => rfl

/-- List counterpart of `rebuild_eq_ok_filter`. -/
theorem rebuildMembers_eq_ok_filterMembers (members : List TypeExpr)
    (distinct : haveDistinctFields members = true) :
    rebuildMembers keeps dropsEmpty members = .ok (filterMembers keeps dropsEmpty members) := by
  cases members with
  | nil => rfl
  | cons member members =>
      simp only [haveDistinctFields, Bool.and_eq_true] at distinct
      rw [rebuildMembers, rebuild_eq_ok_filter member distinct.1,
        rebuildMembers_eq_ok_filterMembers members distinct.2, filterMembers]
      cases member.filter keeps dropsEmpty <;> rfl

/-- Counterpart of `rebuild_eq_ok_filter` for the fields of a record. -/
theorem rebuildFields_eq_ok_filterFields (fields : List (Field TypeExpr))
    (distinct : fieldsHaveDistinctFields fields = true) :
    rebuildFields keeps dropsEmpty fields = .ok (filterFields keeps dropsEmpty fields) := by
  cases fields with
  | nil => rfl
  | cons field fields =>
      obtain ⟨name, required, type⟩ := field
      simp only [fieldsHaveDistinctFields, Bool.and_eq_true] at distinct
      rw [rebuildFields, rebuild_eq_ok_filter type distinct.1,
        rebuildFields_eq_ok_filterFields fields distinct.2, filterFields]
      cases type.filter keeps dropsEmpty <;> rfl

end

end Rebuild

end ApiTypes.TypeExpr
