import ApiTypes.Proofs.FilteredLeaves
import ApiTypes.Proofs.ReferenceClosure

/-!
# Fates of declarations

A declaration is dropped for one of three reasons, which the leaves of its type
decide, or it is kept with the leaves that survive.  `Accounts` says of what is kept
and of what is reported that they share out the declarations, each list in their
order, with the right reason for each that is dropped.
-/

namespace ApiTypes

namespace Selection

open TypeExpr (outside survivors Leaf)

/-- The leaves of a type that a selection leaves, with their ways. -/
def leavesLeft (selection : Selection) (type : TypeExpr) :
    List (List TypeExpr.Branch × Leaf) :=
  survivors (outside selection.excluded) selection.skipsEmpty type.leaves

/-- A type with empty composites only, which are skipped. -/
def IsSkippedAsEmpty (selection : Selection) (type : TypeExpr) : Prop :=
  selection.skipsEmpty = true ∧ ∀ leaf ∈ type.leaves, leaf.2.isEmpty = true

/-- Why a declaration is dropped. -/
inductive Drops (selection : Selection) (declaration : Declaration) : DropReason → Prop where
  | excluded : declaration.name ∈ selection.excluded → Drops selection declaration .excluded
  | empty : declaration.name ∉ selection.excluded →
      selection.IsSkippedAsEmpty declaration.type → Drops selection declaration .empty
  | onlyExcludedNames : declaration.name ∉ selection.excluded →
      ¬ selection.IsSkippedAsEmpty declaration.type →
      (∀ leaf ∈ declaration.type.leaves, (selection.skipsEmpty = true → leaf.2.isEmpty = false) →
        ∃ name ∈ selection.excluded, leaf.2 = .named name) →
      Drops selection declaration .onlyExcludedNames

/-- Declarations shared out among those that are kept and the reports of those that are not. -/
inductive Accounts (selection : Selection) :
    List Declaration → List Declaration → List Event → Prop where
  | nil : Accounts selection [] [] []
  | kept {declaration left : Declaration} {declarations others : List Declaration}
      {reports : List Event} :
      (∀ reason, ¬ selection.Drops declaration reason) →
      left.name = declaration.name →
      left.type.leaves = selection.leavesLeft declaration.type → left.type.leaves ≠ [] →
      Accounts selection declarations others reports →
      Accounts selection (declaration :: declarations) (left :: others) reports
  | dropped {declaration : Declaration} {reason : DropReason}
      {declarations others : List Declaration} {reports : List Event} :
      selection.Drops declaration reason →
      Accounts selection declarations others reports →
      Accounts selection (declaration :: declarations) others
        (.declarationDropped declaration.name reason :: reports)

/-- A leaf does not survive if it is an excluded name or an empty composite that is skipped. -/
theorem survives_eq_false_iff (selection : Selection) (leaf : Leaf) :
    leaf.survives (outside selection.excluded) selection.skipsEmpty = false ↔
      ((selection.skipsEmpty = true → leaf.isEmpty = false) →
        ∃ name ∈ selection.excluded, leaf = .named name) := by
  cases leaf with
  | named name => simp [Leaf.survives, Leaf.isEmpty, outside]
  | literal value => simp [Leaf.survives, Leaf.isEmpty]
  | _ => simp [Leaf.survives, Leaf.isEmpty]

theorem leavesLeft_eq_nil_iff (selection : Selection) (type : TypeExpr) :
    selection.leavesLeft type = [] ↔
      ∀ leaf ∈ type.leaves, (selection.skipsEmpty = true → leaf.2.isEmpty = false) →
        ∃ name ∈ selection.excluded, leaf.2 = .named name := by
  rw [leavesLeft, survivors, List.filter_eq_nil_iff]
  apply forall₂_congr
  intro leaf _
  rw [Bool.not_eq_true, survives_eq_false_iff]

theorem leaves_of_reduce_eq_ok {selection : Selection} {type left : TypeExpr}
    (success : selection.reduce type = .ok left) : left.leaves = selection.leavesLeft type := by
  have filtered := selection.reduce_toOption type
  rw [success] at filtered
  exact TypeExpr.leaves_of_filter_eq_some filtered.symm

theorem leavesLeft_of_reduce_eq_error {selection : Selection} {type : TypeExpr}
    {reason : DropReason} (dropped : selection.reduce type = .error reason) :
    selection.leavesLeft type = [] := by
  have filtered := selection.reduce_toOption type
  rw [dropped] at filtered
  exact (TypeExpr.filter_eq_none_iff type).mp filtered.symm

theorem reduce_eq_error_empty_iff (selection : Selection) (type : TypeExpr) :
    selection.reduce type = .error .empty ↔ selection.IsSkippedAsEmpty type := by
  have pruned : type.prune = none ↔ ∀ leaf ∈ type.leaves, leaf.2.isEmpty = true := by
    rw [TypeExpr.prune, TypeExpr.filter_eq_none_iff, survivors, Leaf.survives_prune]
    simp [List.filter_eq_nil_iff]
  rw [IsSkippedAsEmpty, ← pruned, reduce]
  cases selection.skipsEmpty with
  | false =>
      rw [if_neg Bool.false_ne_true]
      cases excluded : type.exclude selection.excluded <;> simp [excluded]
  | true =>
      rw [if_pos rfl]
      cases type.prune with
      | none => simp
      | some left =>
          cases excluded : left.exclude selection.excluded <;> simp [excluded]

theorem reduce_eq_error_onlyExcludedNames_iff (selection : Selection) (type : TypeExpr) :
    selection.reduce type = .error .onlyExcludedNames ↔
      ¬ selection.IsSkippedAsEmpty type ∧ selection.leavesLeft type = [] := by
  constructor
  · intro dropped
    refine ⟨?_, leavesLeft_of_reduce_eq_error dropped⟩
    rw [← reduce_eq_error_empty_iff, dropped]
    exact DropReason.noConfusion ∘ Except.error.inj
  · rintro ⟨notEmpty, nothingLeft⟩
    rcases selection.reduce_cases type with ⟨left, success⟩ | ⟨-, empty⟩ | dropped
    · rw [← leaves_of_reduce_eq_ok success] at nothingLeft
      exact absurd nothingLeft left.leaves_ne_nil
    · exact absurd ((selection.reduce_eq_error_empty_iff type).mp empty) notEmpty
    · exact dropped

theorem apply_of_excluded {selection : Selection} {declaration : Declaration}
    (isExcluded : declaration.name ∈ selection.excluded) :
    selection.apply declaration = .error .excluded := by
  rw [apply, if_pos (List.contains_iff_mem.mpr isExcluded)]

theorem apply_of_not_excluded {selection : Selection} {declaration : Declaration}
    (included : declaration.name ∉ selection.excluded) :
    selection.apply declaration =
      (selection.reduce declaration.type).map fun type => { declaration with type } := by
  rw [apply, if_neg (by simpa using included)]

/-- A selection drops a declaration for the reason that its name and the leaves of its type
give. -/
theorem apply_eq_error_iff (selection : Selection) (declaration : Declaration)
    (reason : DropReason) :
    selection.apply declaration = .error reason ↔ selection.Drops declaration reason := by
  by_cases isExcluded : declaration.name ∈ selection.excluded
  · rw [apply_of_excluded isExcluded]
    constructor
    · intro same
      obtain rfl := Except.error.inj same
      exact .excluded isExcluded
    · intro drops
      cases drops with
      | excluded => rfl
      | empty included => exact absurd isExcluded included
      | onlyExcludedNames included => exact absurd isExcluded included
  · have reduced : selection.apply declaration = .error reason ↔
        selection.reduce declaration.type = .error reason := by
      rw [apply_of_not_excluded isExcluded]
      cases selection.reduce declaration.type <;> simp [Except.map]
    rw [reduced]
    constructor
    · intro dropped
      cases reason with
      | excluded =>
          rcases selection.reduce_cases declaration.type with ⟨left, other⟩ | ⟨-, other⟩ | other
          all_goals
            rw [dropped] at other
            cases other
      | empty =>
          exact .empty isExcluded ((selection.reduce_eq_error_empty_iff _).mp dropped)
      | onlyExcludedNames =>
          obtain ⟨notEmpty, nothingLeft⟩ :=
            (selection.reduce_eq_error_onlyExcludedNames_iff _).mp dropped
          exact .onlyExcludedNames isExcluded notEmpty
            ((selection.leavesLeft_eq_nil_iff _).mp nothingLeft)
    · intro drops
      cases drops with
      | excluded included => exact absurd included isExcluded
      | empty _ empty => exact (selection.reduce_eq_error_empty_iff _).mpr empty
      | onlyExcludedNames _ notEmpty onlyNames =>
          apply (selection.reduce_eq_error_onlyExcludedNames_iff _).mpr
          exact ⟨notEmpty, (selection.leavesLeft_eq_nil_iff _).mpr onlyNames⟩

theorem leaves_of_apply_eq_ok {selection : Selection} {declaration left : Declaration}
    (success : selection.apply declaration = .ok left) :
    left.type.leaves = selection.leavesLeft declaration.type := by
  have included := (names_of_apply_eq_ok success).2.1
  rw [apply_of_not_excluded included] at success
  cases reduced : selection.reduce declaration.type with
  | error reason =>
      rw [reduced] at success
      cases success
  | ok type =>
      rw [reduced] at success
      obtain rfl := Except.ok.inj success
      exact leaves_of_reduce_eq_ok reduced

theorem accounts_kept_dropped (selection : Selection) (declarations : List Declaration) :
    selection.Accounts declarations (selection.kept declarations)
      (selection.dropped declarations) := by
  induction declarations with
  | nil => exact .nil
  | cons declaration declarations induction =>
      rw [kept, dropped, List.filterMap_cons, List.filterMap_cons]
      cases applied : selection.apply declaration with
      | ok left =>
          refine .kept ?_ (names_of_apply_eq_ok applied).1 (leaves_of_apply_eq_ok applied)
            left.type.leaves_ne_nil induction
          intro reason drops
          rw [← apply_eq_error_iff, applied] at drops
          cases drops
      | error reason =>
          exact .dropped ((selection.apply_eq_error_iff declaration reason).mp applied) induction

end Selection

/-- The declarations that a selection keeps and its reports together account for every declaration
once, in their order: with a reason that its name and the leaves of its type give, of which there
is at most one, or else under its own name with a type of which some leaf is left. -/
theorem every_declaration_is_kept_or_reported (selection : Selection)
    (declarations : List Declaration) :
    selection.Accounts declarations (selection.kept declarations)
      (selection.dropped declarations) ∧
    (∀ declaration reason,
      selection.apply declaration = .error reason ↔ selection.Drops declaration reason) ∧
    (∀ declaration first second, selection.Drops declaration first →
      selection.Drops declaration second → first = second) ∧
    ∀ report ∈ selection.dropped declarations, report.level = .debug := by
  refine ⟨selection.accounts_kept_dropped declarations, selection.apply_eq_error_iff, ?_, ?_⟩
  · intro declaration first second dropsFirst dropsSecond
    rw [← selection.apply_eq_error_iff] at dropsFirst dropsSecond
    rw [dropsFirst] at dropsSecond
    exact Except.error.inj dropsSecond
  · intro report isReport
    obtain ⟨declaration, -, reported⟩ := List.mem_filterMap.mp isReport
    cases applied : selection.apply declaration with
    | ok left => simp [applied] at reported
    | error reason =>
        obtain rfl : Event.declarationDropped declaration.name reason = report := by
          simpa [applied] using reported
        rfl

end ApiTypes
