import ApiTypes.Proofs.FilterComposition
import ApiTypes.Proofs.TypeNames
import ApiTypes.Specification.Output

/-!
# References among selected declarations

A reference resolves if its name is built in or declared.  Selection removes the
references to excluded names and no others.  A reference to a declaration that is
dropped for want of content stays, and no longer resolves.
-/

namespace ApiTypes

/-- The names that need no declaration. -/
def TypeExpr.builtInNames : List Text :=
  membersNames [number, string, boolean, date, any, unknown]

namespace Declaration

/-- A name stands for a built-in type or for one of the declarations. -/
def Resolves (declarations : List Declaration) (name : Text) : Prop :=
  name ∈ TypeExpr.builtInNames ∨ ∃ declaration ∈ declarations, declaration.name = name

/-- All names at any depth of declared types resolve. -/
def ReferencesResolve (declarations : List Declaration) : Prop :=
  ∀ declaration ∈ declarations, ∀ name ∈ declaration.type.names, Resolves declarations name

end Declaration

namespace Selection

open Declaration (Resolves ReferencesResolve)

/-- What is left of a declaration keeps its name, which is not excluded, and all names of its
type that are not excluded. -/
theorem names_of_apply_eq_ok {selection : Selection} {declaration left : Declaration}
    (success : selection.apply declaration = .ok left) :
    left.name = declaration.name ∧ declaration.name ∉ selection.excluded ∧
      left.type.names = declaration.type.names.filter (TypeExpr.outside selection.excluded) := by
  have filtered := selection.apply_toOption declaration
  rw [success] at filtered
  cases kept : TypeExpr.outside selection.excluded declaration.name with
  | false => simp [kept, Except.toOption] at filtered
  | true =>
      simp only [Except.toOption, kept, if_true] at filtered
      obtain ⟨type, typeLeft, rfl⟩ := Option.map_eq_some_iff.mp filtered.symm
      exact ⟨rfl, TypeExpr.outside_eq_true_iff.mp kept,
        TypeExpr.names_of_filter_eq_some typeLeft⟩

theorem mem_kept_iff {selection : Selection} {declarations : List Declaration}
    {left : Declaration} :
    left ∈ selection.kept declarations ↔
      ∃ declaration ∈ declarations, selection.apply declaration = .ok left := by
  simp only [kept, List.mem_filterMap]
  refine exists_congr fun declaration => and_congr_right fun _ => ?_
  cases selection.apply declaration <;> simp [Except.toOption]

/-- A type without content is empty, which counts only if empty types are skipped, or has
nothing but excluded names. -/
theorem reduce_cases (selection : Selection) (type : TypeExpr) :
    (∃ left, selection.reduce type = .ok left) ∨
      (selection.skipsEmpty = true ∧ selection.reduce type = .error .empty) ∨
      selection.reduce type = .error .onlyExcludedNames := by
  unfold reduce
  split
  next emptied =>
    cases skips : selection.skipsEmpty with
    | true => exact .inr (.inl ⟨rfl, rfl⟩)
    | false => simp [skips] at emptied
  next pruned _ =>
    cases pruned.exclude selection.excluded with
    | none => exact .inr (.inr rfl)
    | some left => exact .inl ⟨left, rfl⟩

/-- A declaration under a name that is not excluded is kept or has lost its content. -/
theorem apply_cases_of_not_excluded {selection : Selection} {declaration : Declaration}
    (included : declaration.name ∉ selection.excluded) :
    (∃ left, selection.apply declaration = .ok left) ∨
      (selection.skipsEmpty = true ∧ selection.apply declaration = .error .empty) ∨
      selection.apply declaration = .error .onlyExcludedNames := by
  have applied : selection.apply declaration =
      (selection.reduce declaration.type).map fun type => { declaration with type } := by
    simp [apply, included]
  rcases selection.reduce_cases declaration.type with ⟨left, kept⟩ | ⟨skips, empty⟩ | excluded
  · exact .inl ⟨{ declaration with type := left }, by rw [applied, kept]; rfl⟩
  · exact .inr (.inl ⟨skips, by rw [applied, empty]; rfl⟩)
  · exact .inr (.inr (by rw [applied, excluded]; rfl))

/-- A name resolves after selection if a declaration of that name is kept. -/
theorem resolves_kept_iff {selection : Selection} {declarations : List Declaration}
    {name : Text} :
    Resolves (selection.kept declarations) name ↔
      name ∈ TypeExpr.builtInNames ∨
        ∃ declaration ∈ declarations, declaration.name = name ∧
          ∃ left, selection.apply declaration = .ok left := by
  refine or_congr_right ⟨?_, ?_⟩
  · rintro ⟨left, leftKept, rfl⟩
    obtain ⟨declaration, declared, success⟩ := mem_kept_iff.mp leftKept
    exact ⟨declaration, declared, (names_of_apply_eq_ok success).1.symm, left, success⟩
  · rintro ⟨declaration, declared, rfl, left, success⟩
    exact ⟨left, mem_kept_iff.mpr ⟨declaration, declared, success⟩,
      (names_of_apply_eq_ok success).1⟩

end Selection

open Declaration (Resolves ReferencesResolve)

/-- If all references resolve before selection, then no excluded name is left afterwards, and a
reference that does not resolve any more is one to declarations which have all been dropped for
want of content.  Conversely, such a reference of a declaration that is kept stays, so that the
references resolve after selection exactly if no kept declaration has one. -/
theorem kept_references_resolve_unless_emptied (selection : Selection)
    (declarations : List Declaration) (resolved : ReferencesResolve declarations) :
    (∀ left ∈ selection.kept declarations, ∀ name ∈ left.type.names,
      name ∉ selection.excluded ∧
        (Resolves (selection.kept declarations) name ∨
          (∃ declaration ∈ declarations, declaration.name = name) ∧
            ∀ declaration ∈ declarations, declaration.name = name →
              (selection.skipsEmpty = true ∧ selection.apply declaration = .error .empty) ∨
                selection.apply declaration = .error .onlyExcludedNames)) ∧
    (ReferencesResolve (selection.kept declarations) ↔
      ∀ referrer ∈ declarations, (∃ left, selection.apply referrer = .ok left) →
        ∀ name ∈ referrer.type.names, name ∉ selection.excluded →
          name ∈ TypeExpr.builtInNames ∨
            ∃ declaration ∈ declarations, declaration.name = name ∧
              ∃ left, selection.apply declaration = .ok left) := by
  constructor
  · intro left leftKept name referenced
    obtain ⟨referrer, declared, success⟩ := Selection.mem_kept_iff.mp leftKept
    rw [(Selection.names_of_apply_eq_ok success).2.2, List.mem_filter,
      TypeExpr.outside_eq_true_iff] at referenced
    obtain ⟨referencedBefore, included⟩ := referenced
    refine ⟨included, ?_⟩
    rcases resolved referrer declared name referencedBefore with builtIn | declaredName
    · exact .inl (.inl builtIn)
    · by_cases resolves : Resolves (selection.kept declarations) name
      · exact .inl resolves
      · refine .inr ⟨declaredName, ?_⟩
        rintro declaration declared rfl
        rcases Selection.apply_cases_of_not_excluded included with kept | emptied
        · exact absurd
            (Selection.resolves_kept_iff.mpr (.inr ⟨declaration, declared, rfl, kept⟩)) resolves
        · exact emptied
  · constructor
    · rintro resolvedAfter referrer declared ⟨left, success⟩ name referenced included
      apply Selection.resolves_kept_iff.mp
      apply resolvedAfter left (Selection.mem_kept_iff.mpr ⟨referrer, declared, success⟩)
      rw [(Selection.names_of_apply_eq_ok success).2.2, List.mem_filter,
        TypeExpr.outside_eq_true_iff]
      exact ⟨referenced, included⟩
    · intro contentLeft left leftKept name referenced
      obtain ⟨referrer, declared, success⟩ := Selection.mem_kept_iff.mp leftKept
      rw [(Selection.names_of_apply_eq_ok success).2.2, List.mem_filter,
        TypeExpr.outside_eq_true_iff] at referenced
      exact Selection.resolves_kept_iff.mpr
        (contentLeft referrer declared ⟨left, success⟩ name referenced.1 referenced.2)

/-- An empty type, and a type that refers to it and has another field. -/
def emptyAndPet : List Declaration :=
  [{ name := "Empty", type := .record [] },
    { name := "Pet", type := .record [⟨"tag", false, .named "Empty"⟩,
      ⟨"name", true, TypeExpr.string⟩] }]

/-- If the name of the empty type is excluded as well, the reference to it goes with it. -/
theorem kept_references_resolve_with_empty_excluded :
    ReferencesResolve emptyAndPet ∧
      ReferencesResolve
        (Selection.kept { skipsEmpty := true, excluded := ["Empty"] } emptyAndPet) := by
  have stringBuiltIn : ("string" : Text) ∈ TypeExpr.builtInNames := by decide
  have resolved : ReferencesResolve emptyAndPet := by
    simp [ReferencesResolve, Resolves, emptyAndPet, TypeExpr.names, TypeExpr.fieldsNames,
      TypeExpr.string, stringBuiltIn]
  refine ⟨resolved, (kept_references_resolve_unless_emptied _ _ resolved).2.mpr ?_⟩
  intro referrer declared _kept name referenced included
  have isString : name = "string" := by
    simp only [emptyAndPet, List.mem_cons, List.not_mem_nil, or_false] at declared
    rcases declared with rfl | rfl
    · simp [TypeExpr.names, TypeExpr.fieldsNames] at referenced
    · simp only [TypeExpr.names, TypeExpr.fieldsNames, TypeExpr.string, List.cons_append,
        List.nil_append, List.mem_cons, List.not_mem_nil, or_false] at referenced
      rcases referenced with rfl | rfl
      · exact absurd (List.mem_singleton.mpr rfl) included
      · rfl
  rw [isString]
  exact .inl stringBuiltIn

/-- An object without properties. -/
def objectSchema : Swagger.Schema :=
  { reference := none, description := none, kind := some "object", format := none
    enumeration := none, required := none, items := none, properties := none, allOf := none }

/-- A specification of an empty object and an array of references to it. -/
def emptyAndEmpties : Specification :=
  .swagger
    { swagger := "2.0", info := none
      definitions := some
        [("Empty", objectSchema),
          ("Empties", { objectSchema with
            kind := some "array"
            items := some { objectSchema with reference := some "#/definitions/Empty" } })] }

/-- An array of an empty record keeps its reference when the empty record is dropped. -/
theorem kept_reference_to_empty_dangles :
    ¬ ∀ (specification : Specification) (declarations : List Declaration) (selection : Selection),
      specification.declarations.outcome = .ok declarations → ReferencesResolve declarations →
        ReferencesResolve (selection.kept declarations) := by
  intro resolvesAlways
  have resolvesBefore : ReferencesResolve
      [⟨"Empty", .record []⟩, ⟨"Empties", .array (.named "Empty")⟩] := by
    simp [ReferencesResolve, Resolves, TypeExpr.names, TypeExpr.fieldsNames]
  have resolvesAfter : ReferencesResolve [⟨"Empties", .array (.named "Empty")⟩] :=
    resolvesAlways emptyAndEmpties _ { skipsEmpty := true } (by rfl) resolvesBefore
  have resolves := resolvesAfter _ List.mem_cons_self "Empty" (by simp [TypeExpr.names])
  have unresolved : ¬ Resolves [⟨"Empties", .array (.named "Empty")⟩] "Empty" := by
    rintro (builtIn | ⟨declaration, declared, sameName⟩)
    · exact absurd builtIn (by decide)
    · obtain rfl := List.mem_singleton.mp declared
      exact absurd sameName (by decide)
  exact unresolved resolves

end ApiTypes
