import ApiTypes.TypeExpr.Filter

/-!
# Leaves of types

The leaves of a type are its names, its literals, and its composites without
members.  Filtering keeps those that are not rejected, in their order and with the
way that leads to each of them, and leaves no type only if it keeps none.
-/

namespace ApiTypes

namespace TypeExpr

/-! ## Leaves -/

/-- A branch on the way to a leaf.  The place of a member among the others does not count. -/
inductive Branch where
  | element
  | operand
  | alternative
  | field (name : Text) (required : Bool)

inductive Leaf where
  | named (name : Text)
  | literal (value : Literal)
  | emptyIntersection
  | emptyUnion
  | emptyRecord

namespace Leaf

/-- A composite without members. -/
def isEmpty : Leaf → Bool
  | .named _ => false
  | .literal _ => false
  | _ => true

def isNamedIn (names : List Text) : Leaf → Bool
  | .named name => names.contains name
  | _ => false

/-- The leaves that are left by a filter. -/
def survives (keeps : Text → Bool) (dropsEmpty : Bool) : Leaf → Bool
  | .named name => keeps name
  | .literal _ => true
  | _ => !dropsEmpty

theorem survives_of_isEmpty {leaf : Leaf} (empty : leaf.isEmpty = true) (keeps : Text → Bool)
    (dropsEmpty : Bool) : leaf.survives keeps dropsEmpty = !dropsEmpty := by
  cases leaf with
  | named name => cases empty
  | literal value => cases empty
  | _ => rfl

theorem survives_prune : survives (fun _ => true) true = fun leaf => !leaf.isEmpty := by
  funext leaf
  cases leaf <;> rfl

theorem survives_exclude (names : List Text) :
    survives (fun name => !names.contains name) false = fun leaf => !leaf.isNamedIn names := by
  funext leaf
  cases leaf <;> rfl

end Leaf

/-- Leaves seen from one branch further up. -/
def along (branch : Branch) (leaves : List (List Branch × Leaf)) : List (List Branch × Leaf) :=
  leaves.map fun (path, leaf) => (branch :: path, leaf)

mutual

/-- The leaves of a type from left to right, each with the way that leads to it. -/
def leaves : TypeExpr → List (List Branch × Leaf)
  | .array element => along .element (leaves element)
  | .intersection members =>
      if members.isEmpty then [([], .emptyIntersection)] else membersLeaves .operand members
  | .union members =>
      if members.isEmpty then [([], .emptyUnion)] else membersLeaves .alternative members
  | .named name => [([], .named name)]
  | .record fields => if fields.isEmpty then [([], .emptyRecord)] else fieldsLeaves fields
  | .literal value => [([], .literal value)]

/-- The leaves of the members of an intersection or of a union. -/
def membersLeaves (branch : Branch) : List TypeExpr → List (List Branch × Leaf)
  | [] => []
  | member :: members => along branch (leaves member) ++ membersLeaves branch members

def fieldsLeaves : List (Field TypeExpr) → List (List Branch × Leaf)
  | [] => []
  | ⟨name, required, type⟩ :: fields =>
      along (.field name required) (leaves type) ++ fieldsLeaves fields

end

mutual

theorem leaves_ne_nil (type : TypeExpr) : type.leaves ≠ [] := by
  cases type with
  | array element => simpa [leaves, along] using leaves_ne_nil element
  | intersection members =>
      rw [leaves]
      split
      · simp
      · exact membersLeaves_ne_nil .operand members (by simp_all)
  | union members =>
      rw [leaves]
      split
      · simp
      · exact membersLeaves_ne_nil .alternative members (by simp_all)
  | named name => simp [leaves]
  | record fields =>
      rw [leaves]
      split
      · simp
      · exact fieldsLeaves_ne_nil fields (by simp_all)
  | literal value => simp [leaves]

theorem membersLeaves_ne_nil (branch : Branch) (members : List TypeExpr)
    (present : members ≠ []) : membersLeaves branch members ≠ [] := by
  cases members with
  | nil => exact absurd rfl present
  | cons member members =>
      have memberLeaves := leaves_ne_nil member
      simp [membersLeaves, along, memberLeaves]

theorem fieldsLeaves_ne_nil (fields : List (Field TypeExpr)) (present : fields ≠ []) :
    fieldsLeaves fields ≠ [] := by
  cases fields with
  | nil => exact absurd rfl present
  | cons field fields =>
      obtain ⟨name, required, type⟩ := field
      have typeLeaves := leaves_ne_nil type
      simp [fieldsLeaves, along, typeLeaves]

end

/-! ## Leaves of filtered types -/

section Filter

variable (keeps : Text → Bool) (dropsEmpty : Bool)

/-- The leaves that survive a filter, with their ways. -/
def survivors (leaves : List (List Branch × Leaf)) : List (List Branch × Leaf) :=
  leaves.filter fun (_, leaf) => leaf.survives keeps dropsEmpty

theorem survivors_append (first second : List (List Branch × Leaf)) :
    survivors keeps dropsEmpty (first ++ second) =
      survivors keeps dropsEmpty first ++ survivors keeps dropsEmpty second :=
  List.filter_append ..

/-- Whether a leaf survives does not depend on its way. -/
theorem survivors_along (branch : Branch) (leaves : List (List Branch × Leaf)) :
    survivors keeps dropsEmpty (along branch leaves) =
      along branch (survivors keeps dropsEmpty leaves) :=
  List.filter_map

/-- A composite that has lost its members has no leaf left, and one that had none all along is a
leaf itself. -/
private theorem collapse_elim_leaves {α : Type} {build : List α → TypeExpr} {empty : Leaf}
    {inside : List α → List (List Branch × Leaf)}
    (leavesBuild : ∀ parts, leaves (build parts) =
      if parts.isEmpty then [([], empty)] else inside parts)
    (isEmpty : empty.isEmpty = true) {members kept : List α} (insideNil : inside [] = [])
    (keptNil : members = [] → kept = [])
    (insideKept : inside kept = survivors keeps dropsEmpty (inside members)) :
    (if kept.isEmpty && (dropsEmpty || !members.isEmpty) then none
      else some (build kept)).elim [] leaves =
      survivors keeps dropsEmpty (leaves (build members)) := by
  cases members with
  | nil =>
      rw [keptNil rfl]
      cases dropsEmpty <;> simp [leavesBuild, survivors, Leaf.survives_of_isEmpty isEmpty]
  | cons member members =>
      cases kept with
      | nil => simpa [leavesBuild, insideNil] using insideKept
      | cons left kept => simpa [leavesBuild] using insideKept

mutual

/-- Filtering keeps the leaves that survive, whether or not a type is left. -/
theorem leaves_filter (type : TypeExpr) :
    (type.filter keeps dropsEmpty).elim [] leaves = survivors keeps dropsEmpty type.leaves := by
  cases type with
  | array element =>
      have elementLeaves := leaves_filter element
      rw [leaves, survivors_along, ← elementLeaves, filter]
      cases element.filter keeps dropsEmpty <;> simp [leaves, along]
  | intersection members =>
      rw [filter]
      exact collapse_elim_leaves keeps dropsEmpty (fun parts => by rw [leaves]) rfl rfl
        (by rintro rfl; rfl) (membersLeaves_filterMembers .operand members)
  | union members =>
      rw [filter]
      exact collapse_elim_leaves keeps dropsEmpty (fun parts => by rw [leaves]) rfl rfl
        (by rintro rfl; rfl) (membersLeaves_filterMembers .alternative members)
  | named name =>
      cases kept : keeps name <;> simp [filter, leaves, survivors, Leaf.survives, kept]
  | record fields =>
      rw [filter]
      exact collapse_elim_leaves keeps dropsEmpty (fun parts => by rw [leaves]) rfl rfl
        (by rintro rfl; rfl) (fieldsLeaves_filterFields fields)
  | literal value => rfl

/-- List counterpart of `leaves_filter`. -/
theorem membersLeaves_filterMembers (branch : Branch) (members : List TypeExpr) :
    membersLeaves branch (filterMembers keeps dropsEmpty members) =
      survivors keeps dropsEmpty (membersLeaves branch members) := by
  cases members with
  | nil => rfl
  | cons member members =>
      have memberLeaves := leaves_filter member
      have others := membersLeaves_filterMembers branch members
      rw [membersLeaves, survivors_append, survivors_along, ← memberLeaves, ← others]
      cases left : member.filter keeps dropsEmpty <;>
        simp [filterMembers, membersLeaves, along, left]

/-- Counterpart of `leaves_filter` for the fields of a record. -/
theorem fieldsLeaves_filterFields (fields : List (Field TypeExpr)) :
    fieldsLeaves (filterFields keeps dropsEmpty fields) =
      survivors keeps dropsEmpty (fieldsLeaves fields) := by
  cases fields with
  | nil => rfl
  | cons field fields =>
      obtain ⟨name, required, type⟩ := field
      have typeLeaves := leaves_filter type
      have others := fieldsLeaves_filterFields fields
      rw [fieldsLeaves, survivors_append, survivors_along, ← typeLeaves, ← others]
      cases left : type.filter keeps dropsEmpty <;>
        simp [filterFields, fieldsLeaves, along, left]

end

end Filter

end TypeExpr

end ApiTypes
