import ApiTypes.Declaration.Selection

/-!
# Composition of filtering passes

Two passes over a type leave what a single pass leaves that keeps the names both
keep and drops empty composites if either does.  The laws of pruning, exclusion
and selection are instances of this one.
-/

namespace ApiTypes

namespace TypeExpr

/-- The collapse of a composite that is filtered twice.  If the first pass leaves it without
members, it has either lost them there or had none all along, and only then may the second
pass be the one that drops it. -/
private theorem collapse_bind_collapse {α : Type} (build : List α → TypeExpr)
    {pass : TypeExpr → Option TypeExpr} {firstDrops secondDrops : Bool}
    (first second : List α → List α) (firstNil : first [] = []) (secondNil : second [] = [])
    (passBuild : ∀ once, pass (build once) =
      if (second once).isEmpty && (secondDrops || !once.isEmpty) then none
      else some (build (second once)))
    (members : List α) :
    (if (first members).isEmpty && (firstDrops || !members.isEmpty) then none
      else some (build (first members))).bind pass =
      if (second (first members)).isEmpty && ((firstDrops || secondDrops) || !members.isEmpty)
      then none
      else some (build (second (first members))) := by
  cases once : first members with
  | nil =>
      rw [secondNil]
      cases members <;> cases firstDrops <;> cases secondDrops <;> simp [passBuild, secondNil]
  | cons left others =>
      cases members with
      | nil => simp [firstNil] at once
      | cons member members => simp [passBuild]

mutual

/-- Two passes are one. -/
theorem filter_bind_filter
    (firstKeeps secondKeeps : Text → Bool) (firstDrops secondDrops : Bool) (type : TypeExpr) :
    (type.filter firstKeeps firstDrops).bind (filter secondKeeps secondDrops) =
      type.filter (fun name => firstKeeps name && secondKeeps name)
        (firstDrops || secondDrops) := by
  cases type with
  | array element =>
      have elementTwice :=
        filter_bind_filter firstKeeps secondKeeps firstDrops secondDrops element
      cases once : element.filter firstKeeps firstDrops with
      | none =>
          rw [once] at elementTwice
          simp [filter, once, ← elementTwice]
      | some left =>
          rw [once] at elementTwice
          simpa [filter, once] using congrArg (Option.map array) elementTwice
  | intersection members =>
      have membersTwice :=
        filterMembers_filterMembers firstKeeps secondKeeps firstDrops secondDrops members
      simp only [filter]
      rw [← membersTwice]
      exact collapse_bind_collapse intersection (filterMembers firstKeeps firstDrops)
        (filterMembers secondKeeps secondDrops) rfl rfl (fun once => by rw [filter]) _
  | union members =>
      have membersTwice :=
        filterMembers_filterMembers firstKeeps secondKeeps firstDrops secondDrops members
      simp only [filter]
      rw [← membersTwice]
      exact collapse_bind_collapse union (filterMembers firstKeeps firstDrops)
        (filterMembers secondKeeps secondDrops) rfl rfl (fun once => by rw [filter]) _
  | named name =>
      by_cases kept : firstKeeps name = true <;> simp [filter, kept]
  | record fields =>
      have fieldsTwice :=
        filterFields_filterFields firstKeeps secondKeeps firstDrops secondDrops fields
      simp only [filter]
      rw [← fieldsTwice]
      exact collapse_bind_collapse record (filterFields firstKeeps firstDrops)
        (filterFields secondKeeps secondDrops) rfl rfl (fun once => by rw [filter]) _
  | literal value => simp [filter]

/-- List counterpart of `filter_bind_filter`. -/
theorem filterMembers_filterMembers
    (firstKeeps secondKeeps : Text → Bool) (firstDrops secondDrops : Bool)
    (members : List TypeExpr) :
    filterMembers secondKeeps secondDrops (filterMembers firstKeeps firstDrops members) =
      filterMembers (fun name => firstKeeps name && secondKeeps name)
        (firstDrops || secondDrops) members := by
  cases members with
  | nil => rfl
  | cons member members =>
      have memberTwice :=
        filter_bind_filter firstKeeps secondKeeps firstDrops secondDrops member
      have membersTwice :=
        filterMembers_filterMembers firstKeeps secondKeeps firstDrops secondDrops members
      cases once : member.filter firstKeeps firstDrops with
      | none =>
          rw [once] at memberTwice
          simp [filterMembers, once, ← memberTwice, membersTwice]
      | some left =>
          rw [once, Option.bind_some] at memberTwice
          simp [filterMembers, once, ← memberTwice, membersTwice]

/-- Counterpart of `filter_bind_filter` for the fields of a record. -/
theorem filterFields_filterFields
    (firstKeeps secondKeeps : Text → Bool) (firstDrops secondDrops : Bool)
    (fields : List (Field TypeExpr)) :
    filterFields secondKeeps secondDrops (filterFields firstKeeps firstDrops fields) =
      filterFields (fun name => firstKeeps name && secondKeeps name)
        (firstDrops || secondDrops) fields := by
  cases fields with
  | nil => rfl
  | cons field fields =>
      obtain ⟨name, required, type⟩ := field
      have typeTwice :=
        filter_bind_filter firstKeeps secondKeeps firstDrops secondDrops type
      have fieldsTwice :=
        filterFields_filterFields firstKeeps secondKeeps firstDrops secondDrops fields
      cases once : type.filter firstKeeps firstDrops with
      | none =>
          rw [once] at typeTwice
          simp [filterFields, once, ← typeTwice, fieldsTwice]
      | some left =>
          rw [once, Option.bind_some] at typeTwice
          simp [filterFields, once, ← typeTwice, fieldsTwice]

end

/-- The names that exclusion keeps. -/
def outside (names : List Text) (name : Text) : Bool :=
  !names.contains name

theorem outside_eq_true_iff {names : List Text} {name : Text} :
    outside names name = true ↔ name ∉ names := by
  simp [outside]

theorem outside_append (names others : List Text) :
    outside (names ++ others) = fun name => outside names name && outside others name := by
  funext name
  simp [outside]

/-- Which names exclusion keeps depends neither on their order nor on their repetition. -/
theorem outside_congr {names others : List Text}
    (same : ∀ name, name ∈ names ↔ name ∈ others) : outside names = outside others := by
  funext name
  rw [Bool.eq_iff_iff, outside_eq_true_iff, outside_eq_true_iff, same name]

theorem exclude_eq_filter (names : List Text) : exclude names = filter (outside names) false :=
  rfl

theorem prune_eq_filter : prune = filter (fun _ => true) true :=
  rfl

theorem prune_bind_exclude (names : List Text) (type : TypeExpr) :
    type.prune.bind (exclude names) = type.filter (outside names) true := by
  rw [prune_eq_filter, exclude_eq_filter, filter_bind_filter]
  simp

theorem exclude_bind_prune (names : List Text) (type : TypeExpr) :
    (type.exclude names).bind prune = type.filter (outside names) true := by
  rw [prune_eq_filter, exclude_eq_filter, filter_bind_filter]
  simp

end TypeExpr

namespace Selection

open TypeExpr (outside)

/-- A selection that leaves out what either of two leaves out. -/
def both (first second : Selection) : Selection :=
  { skipsEmpty := first.skipsEmpty || second.skipsEmpty
    excluded := first.excluded ++ second.excluded }

/-- What a selection leaves of a type is the result of one pass. -/
theorem reduce_toOption (selection : Selection) (type : TypeExpr) :
    (selection.reduce type).toOption =
      type.filter (outside selection.excluded) selection.skipsEmpty := by
  unfold reduce
  cases skips : selection.skipsEmpty with
  | true =>
      rw [← TypeExpr.prune_bind_exclude, if_pos rfl]
      cases type.prune with
      | none => rfl
      | some pruned =>
          dsimp only [Option.bind_some]
          cases pruned.exclude selection.excluded <;> rfl
  | false =>
      rw [← TypeExpr.exclude_eq_filter, if_neg Bool.false_ne_true]
      dsimp only
      cases type.exclude selection.excluded <;> rfl

/-- A declaration under an excluded name is dropped, and any other one is filtered. -/
theorem apply_toOption (selection : Selection) (declaration : Declaration) :
    (selection.apply declaration).toOption =
      if outside selection.excluded declaration.name then
        (declaration.type.filter (outside selection.excluded) selection.skipsEmpty).map
          fun type => { declaration with type }
      else none := by
  rw [← reduce_toOption, apply, outside]
  cases selection.excluded.contains declaration.name with
  | true => rfl
  | false => cases selection.reduce declaration.type <;> rfl

theorem apply_both (first second : Selection) (declaration : Declaration) :
    ((first.apply declaration).toOption.bind fun left => (second.apply left).toOption) =
      ((first.both second).apply declaration).toOption := by
  simp only [apply_toOption, both, TypeExpr.outside_append]
  rw [← TypeExpr.filter_bind_filter]
  cases outside first.excluded declaration.name with
  | false => simp
  | true =>
      cases declaration.type.filter (outside first.excluded) first.skipsEmpty <;>
        cases kept : outside second.excluded declaration.name <;> simp [kept]

theorem kept_kept (first second : Selection) (declarations : List Declaration) :
    second.kept (first.kept declarations) = (first.both second).kept declarations := by
  simp only [kept, List.filterMap_filterMap, apply_both]

theorem kept_congr {skipsEmpty : Bool} {names others : List Text}
    (same : ∀ name, name ∈ names ↔ name ∈ others) :
    kept { skipsEmpty, excluded := names } = kept { skipsEmpty, excluded := others } := by
  funext declarations
  simp only [kept, apply_toOption, TypeExpr.outside_congr same]

end Selection

/-- Filtering passes compose: two passes over a type, or two selections of declarations, leave
what one pass or one selection leaves out together.  Pruning and exclusion are therefore
idempotent and commute, and a list of excluded names counts as a set. -/
theorem filtering_passes_compose :
    (∀ (firstKeeps secondKeeps : Text → Bool) (firstDrops secondDrops : Bool) (type : TypeExpr),
      (type.filter firstKeeps firstDrops).bind (TypeExpr.filter secondKeeps secondDrops) =
        type.filter (fun name => firstKeeps name && secondKeeps name)
          (firstDrops || secondDrops)) ∧
    (∀ (first second : Selection) (declarations : List Declaration),
      second.kept (first.kept declarations) =
        Selection.kept
          { skipsEmpty := first.skipsEmpty || second.skipsEmpty
            excluded := first.excluded ++ second.excluded } declarations) ∧
    (∀ type : TypeExpr, type.prune.bind TypeExpr.prune = type.prune) ∧
    (∀ (names : List Text) (type : TypeExpr),
      (type.exclude names).bind (TypeExpr.exclude names) = type.exclude names) ∧
    (∀ (names : List Text) (type : TypeExpr),
      type.prune.bind (TypeExpr.exclude names) = (type.exclude names).bind TypeExpr.prune) ∧
    (∀ names others : List Text, (∀ name, name ∈ names ↔ name ∈ others) →
      TypeExpr.exclude names = TypeExpr.exclude others ∧
        ∀ skipsEmpty, Selection.kept { skipsEmpty, excluded := names } =
          Selection.kept { skipsEmpty, excluded := others }) := by
  refine ⟨TypeExpr.filter_bind_filter, Selection.kept_kept, ?_, ?_, ?_, ?_⟩
  · intro type
    rw [TypeExpr.prune_eq_filter, TypeExpr.filter_bind_filter]
    simp
  · intro names type
    rw [TypeExpr.exclude_eq_filter, TypeExpr.filter_bind_filter]
    simp
  · intro names type
    rw [TypeExpr.prune_bind_exclude, TypeExpr.exclude_bind_prune]
  · intro names others same
    refine ⟨?_, fun skipsEmpty => Selection.kept_congr same⟩
    rw [TypeExpr.exclude_eq_filter, TypeExpr.exclude_eq_filter, TypeExpr.outside_congr same]

/-- The order of excluded names and a name given twice make no difference. -/
theorem filtering_passes_compose_reordered :
    (∀ name : Text, name ∈ (["Date", "Error", "Date"] : List Text) ↔
      name ∈ (["Error", "Date"] : List Text)) ∧
    TypeExpr.exclude ["Date", "Error", "Date"] = TypeExpr.exclude ["Error", "Date"] := by
  have same : ∀ name : Text, name ∈ (["Date", "Error", "Date"] : List Text) ↔
      name ∈ (["Error", "Date"] : List Text) := by
    intro name
    simp [or_comm]
  exact ⟨same, (filtering_passes_compose.2.2.2.2.2 _ _ same).1⟩

end ApiTypes
