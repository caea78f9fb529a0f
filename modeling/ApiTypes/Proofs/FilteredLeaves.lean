import ApiTypes.Proofs.DistinctFields
import ApiTypes.Proofs.FilterComposition
import ApiTypes.Proofs.TypePaths

/-!
# Leaves that filtering removes

Exclusion removes the excluded names from the leaves of a type, and pruning the
composites without members.  Nothing else is lost, moved or changed, and no type is
left exactly if no leaf is.
-/

namespace ApiTypes

namespace TypeExpr

section Filter

variable {keeps : Text → Bool} {dropsEmpty : Bool}

theorem leaves_of_filter_eq_some {type left : TypeExpr}
    (success : type.filter keeps dropsEmpty = some left) :
    left.leaves = survivors keeps dropsEmpty type.leaves := by
  rw [← leaves_filter, success]
  rfl

theorem mem_leaves_of_filter_eq_some {type left : TypeExpr}
    (success : type.filter keeps dropsEmpty = some left) {leaf : List Branch × Leaf} :
    leaf ∈ left.leaves ↔ leaf ∈ type.leaves ∧ leaf.2.survives keeps dropsEmpty = true := by
  rw [leaves_of_filter_eq_some success]
  exact List.mem_filter

/-- No type is left exactly if no leaf survives, since every type has a leaf. -/
theorem filter_eq_none_iff (type : TypeExpr) :
    type.filter keeps dropsEmpty = none ↔ survivors keeps dropsEmpty type.leaves = [] := by
  rw [← leaves_filter]
  cases type.filter keeps dropsEmpty with
  | none => simp
  | some left => simpa using left.leaves_ne_nil

end Filter

theorem elim_leaves_prune (type : TypeExpr) :
    type.prune.elim [] leaves = type.leaves.filter fun (_, leaf) => !leaf.isEmpty := by
  rw [prune_eq_filter, leaves_filter, survivors, Leaf.survives_prune]

theorem elim_leaves_exclude (names : List Text) (type : TypeExpr) :
    (type.exclude names).elim [] leaves =
      type.leaves.filter fun (_, leaf) => !leaf.isNamedIn names := by
  rw [exclude, leaves_filter, survivors, Leaf.survives_exclude]

/-- An intersection, a union or a record without members. -/
def isEmptyComposite : TypeExpr → Bool
  | .intersection members => members.isEmpty
  | .union members => members.isEmpty
  | .record fields => fields.isEmpty
  | _ => false

theorem exists_mem_leaves_of_isEmptyComposite {type : TypeExpr}
    (empty : type.isEmptyComposite = true) : ∃ leaf ∈ type.leaves, leaf.2.isEmpty = true := by
  cases type with
  | intersection members =>
      obtain rfl : members = [] := List.isEmpty_iff.mp empty
      exact ⟨([], .emptyIntersection), List.mem_singleton.mpr rfl, rfl⟩
  | union members =>
      obtain rfl : members = [] := List.isEmpty_iff.mp empty
      exact ⟨([], .emptyUnion), List.mem_singleton.mpr rfl, rfl⟩
  | record fields =>
      obtain rfl : fields = [] := List.isEmpty_iff.mp empty
      exact ⟨([], .emptyRecord), List.mem_singleton.mpr rfl, rfl⟩
  | _ => cases empty

/-- After pruning and exclusion, no part at any depth is an empty composite or an excluded
name. -/
theorem at?_of_prune_bind_exclude {type left part : TypeExpr} {names : List Text}
    (success : type.prune.bind (exclude names) = some left) {path : List Step}
    (leads : left.at? path = some part) :
    part.isEmptyComposite = false ∧ ∀ name ∈ names, part ≠ .named name := by
  rw [prune_bind_exclude] at success
  have survives (leaf : List Branch × Leaf) (isLeaf : leaf ∈ part.leaves) :
      leaf.2.survives (outside names) true = true := by
    obtain ⟨branches, isLeafAbove⟩ := exists_mem_leaves_of_at? leads isLeaf
    exact ((mem_leaves_of_filter_eq_some success).mp isLeafAbove).2
  constructor
  · apply Bool.eq_false_iff.mpr
    intro empty
    obtain ⟨leaf, isLeaf, isEmpty⟩ := exists_mem_leaves_of_isEmptyComposite empty
    have left := survives leaf isLeaf
    rw [Leaf.survives_of_isEmpty isEmpty] at left
    cases left
  · rintro name isExcluded rfl
    have left : outside names name = true := survives ([], .named name) (by simp [leaves])
    exact outside_eq_true_iff.mp left isExcluded

end TypeExpr

open TypeExpr

/-- The leaves of a type after exclusion are its leaves without the excluded names, and after
pruning without the empty composites, each with the way that leads to it.  No type is left exactly
if no leaf is.  The records that a filter puts together have fields of distinct names again, so
that their check never fails.  After both passes there is neither an empty composite nor an
excluded name at any depth. -/
theorem filtering_removes_rejected_leaves {type : TypeExpr}
    (distinct : type.hasDistinctFields = true) (names : List Text) :
    ((type.exclude names).elim [] leaves =
      type.leaves.filter fun (_, leaf) => !leaf.isNamedIn names) ∧
    (type.prune.elim [] leaves = type.leaves.filter fun (_, leaf) => !leaf.isEmpty) ∧
    (type.exclude names = none ↔ ∀ leaf ∈ type.leaves, leaf.2.isNamedIn names = true) ∧
    (type.prune = none ↔ ∀ leaf ∈ type.leaves, leaf.2.isEmpty = true) ∧
    (∀ left, type.exclude names = some left ∨ type.prune = some left → left.leaves ≠ []) ∧
    (∀ (keeps : Text → Bool) (dropsEmpty : Bool),
      type.rebuild keeps dropsEmpty = .ok (type.filter keeps dropsEmpty) ∧
        ∀ left, type.filter keeps dropsEmpty = some left → left.hasDistinctFields = true) ∧
    ∀ left, type.prune.bind (exclude names) = some left →
      ∀ path part, left.at? path = some part →
        part.isEmptyComposite = false ∧ ∀ name ∈ names, part ≠ .named name := by
  refine ⟨elim_leaves_exclude names type, elim_leaves_prune type, ?_, ?_, ?_, ?_, ?_⟩
  · rw [exclude, filter_eq_none_iff, survivors, Leaf.survives_exclude]
    simp [List.filter_eq_nil_iff]
  · rw [prune, filter_eq_none_iff, survivors, Leaf.survives_prune]
    simp [List.filter_eq_nil_iff]
  · intro left _
    exact left.leaves_ne_nil
  · intro keeps dropsEmpty
    refine ⟨rebuild_eq_ok_filter keeps dropsEmpty type distinct, ?_⟩
    intro left success
    have leftDistinct := hasDistinctFields_filter keeps dropsEmpty type distinct
    rw [success] at leftDistinct
    exact leftDistinct
  · intro left success path part leads
    exact at?_of_prune_bind_exclude success leads

/-- A record of an array that is emptied, of an empty record, and of an intersection that loses
one of its members. -/
def mixedRecord : TypeExpr :=
  .record
    [⟨"errors", true, .array (.named "Error")⟩,
      ⟨"meta", false, .record []⟩,
      ⟨"pet", false, .intersection [.named "Pet", .union [.named "Error"], .literal .null]⟩]

/-- A field goes with its only leaf, and an empty record that was there all along stays. -/
theorem mixedRecord_leaves_without_errors :
    mixedRecord.hasDistinctFields = true ∧
      (mixedRecord.exclude ["Error"]).elim [] leaves =
        [([.field "meta" false], .emptyRecord),
          ([.field "pet" false, .operand], .named "Pet"),
          ([.field "pet" false, .operand], .literal .null)] := by
  have distinct : mixedRecord.hasDistinctFields = true := by decide
  refine ⟨distinct, ?_⟩
  rw [(filtering_removes_rejected_leaves distinct ["Error"]).1]
  rfl

end ApiTypes
