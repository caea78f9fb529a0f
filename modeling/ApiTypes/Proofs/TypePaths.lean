import ApiTypes.Proofs.TypeLeaves

/-!
# Paths into types

A path is steps from a type to a part of it.  Filtering leaves a part where it was,
but for the members before it that are gone, so that `moved` tells the step to what is
left of it.  The text of a part is a part of the text.
-/

namespace ApiTypes

namespace TypeExpr

/-- A step from a type to a part of it. -/
inductive Step where
  | element
  | operand (index : Nat)
  | alternative (index : Nat)
  | field (name : Text)

def child? : TypeExpr → Step → Option TypeExpr
  | .array element, .element => some element
  | .intersection members, .operand index => members[index]?
  | .union members, .alternative index => members[index]?
  | .record fields, .field name => (fields.find? fun field => field.name = name).map Field.type
  | _, _ => none

/-- The part of a type at the end of a path. -/
def at? (type : TypeExpr) : List Step → Option TypeExpr
  | [] => some type
  | step :: path => (type.child? step).bind fun part => part.at? path

theorem at?_cons (type : TypeExpr) (step : Step) (path : List Step) :
    type.at? (step :: path) = (type.child? step).bind fun part => part.at? path :=
  rfl

/-- The ways from a type to a part of it. -/
theorem child?_cases {type part : TypeExpr} {step : Step} (leads : type.child? step = some part) :
    (type = .array part ∧ step = .element) ∨
    (∃ members index, type = .intersection members ∧ step = .operand index ∧
      members[index]? = some part) ∨
    (∃ members index, type = .union members ∧ step = .alternative index ∧
      members[index]? = some part) ∨
    (∃ fields field, type = .record fields ∧ step = .field field.name ∧ field.type = part ∧
      fields.find? (fun other => other.name = field.name) = some field) := by
  cases type with
  | array element =>
      cases step with
      | element => exact .inl ⟨congrArg array (Option.some.inj leads), rfl⟩
      | _ => cases leads
  | intersection members =>
      cases step with
      | operand index => exact .inr (.inl ⟨members, index, rfl, rfl, leads⟩)
      | _ => cases leads
  | union members =>
      cases step with
      | alternative index => exact .inr (.inr (.inl ⟨members, index, rfl, rfl, leads⟩))
      | _ => cases leads
  | record fields =>
      cases step with
      | field name =>
          obtain ⟨field, found, typeEq⟩ := Option.map_eq_some_iff.mp leads
          obtain rfl : field.name = name := by simpa using List.find?_some found
          exact .inr (.inr (.inr ⟨fields, field, rfl, rfl, typeEq, found⟩))
      | _ => cases leads
  | named name => cases leads
  | literal value => cases leads

/-! ## Leaves -/

theorem mem_membersLeaves {branch : Branch} {members : List TypeExpr} {member : TypeExpr}
    (isMember : member ∈ members) {leaf : List Branch × Leaf} (isLeaf : leaf ∈ member.leaves) :
    (branch :: leaf.1, leaf.2) ∈ membersLeaves branch members := by
  induction members with
  | nil => cases isMember
  | cons first members induction =>
      rw [membersLeaves]
      apply List.mem_append.mpr
      rcases List.mem_cons.mp isMember with rfl | isMember
      · left
        exact List.mem_map.mpr ⟨leaf, isLeaf, rfl⟩
      · right
        exact induction isMember

theorem mem_fieldsLeaves {fields : List (Field TypeExpr)} {field : Field TypeExpr}
    (isField : field ∈ fields) {leaf : List Branch × Leaf} (isLeaf : leaf ∈ field.type.leaves) :
    (.field field.name field.required :: leaf.1, leaf.2) ∈ fieldsLeaves fields := by
  induction fields with
  | nil => cases isField
  | cons first fields induction =>
      rw [fieldsLeaves]
      apply List.mem_append.mpr
      rcases List.mem_cons.mp isField with rfl | isField
      · left
        exact List.mem_map.mpr ⟨leaf, isLeaf, rfl⟩
      · right
        exact induction isField

/-- The leaves of a part are leaves. -/
theorem exists_mem_leaves_of_child? {type part : TypeExpr} {step : Step}
    (leads : type.child? step = some part) {leaf : List Branch × Leaf}
    (isLeaf : leaf ∈ part.leaves) : ∃ branch, (branch :: leaf.1, leaf.2) ∈ type.leaves := by
  rcases child?_cases leads with ⟨rfl, -⟩ | ⟨members, index, rfl, -, found⟩ |
    ⟨members, index, rfl, -, found⟩ | ⟨fields, field, rfl, -, rfl, found⟩
  · exact ⟨.element, List.mem_map.mpr ⟨leaf, isLeaf, rfl⟩⟩
  · have isMember := List.mem_of_getElem? found
    refine ⟨.operand, ?_⟩
    rw [leaves, if_neg (by simpa using List.ne_nil_of_mem isMember)]
    exact mem_membersLeaves isMember isLeaf
  · have isMember := List.mem_of_getElem? found
    refine ⟨.alternative, ?_⟩
    rw [leaves, if_neg (by simpa using List.ne_nil_of_mem isMember)]
    exact mem_membersLeaves isMember isLeaf
  · have isField := List.mem_of_find?_eq_some found
    refine ⟨.field field.name field.required, ?_⟩
    rw [leaves, if_neg (by simpa using List.ne_nil_of_mem isField)]
    exact mem_fieldsLeaves isField isLeaf

theorem exists_mem_leaves_of_at? {type part : TypeExpr} {path : List Step}
    (leads : type.at? path = some part) {leaf : List Branch × Leaf} (isLeaf : leaf ∈ part.leaves) :
    ∃ branches, (branches, leaf.2) ∈ type.leaves := by
  induction path generalizing type with
  | nil =>
      obtain rfl : type = part := Option.some.inj leads
      exact ⟨leaf.1, isLeaf⟩
  | cons step path induction =>
      obtain ⟨next, nextLeads, partLeads⟩ := Option.bind_eq_some_iff.mp leads
      obtain ⟨branches, isNextLeaf⟩ := induction partLeads
      obtain ⟨branch, isLeafAbove⟩ := exists_mem_leaves_of_child? nextLeads isNextLeaf
      exact ⟨branch :: branches, isLeafAbove⟩

/-! ## Filtering -/

section Filter

variable (keeps : Text → Bool) (dropsEmpty : Bool)

/-- The step of a filtered type that leads to what is left of a part. -/
def moved : TypeExpr → Step → Step
  | .intersection members, .operand index =>
      .operand (filterMembers keeps dropsEmpty (members.take index)).length
  | .union members, .alternative index =>
      .alternative (filterMembers keeps dropsEmpty (members.take index)).length
  | _, step => step

/-- The path of a filtered type that leads to what is left of a part. -/
def movedPath (type : TypeExpr) : List Step → List Step
  | [] => []
  | step :: path =>
      moved keeps dropsEmpty type step ::
        (type.child? step).elim path fun part => part.movedPath path

/-- The members behind a part that is left do not change its place. -/
theorem getElem?_filterMembers {members : List TypeExpr} {index : Nat} {part left : TypeExpr}
    (found : members[index]? = some part) (kept : part.filter keeps dropsEmpty = some left) :
    (filterMembers keeps dropsEmpty members)[
      (filterMembers keeps dropsEmpty (members.take index)).length]? = some left := by
  obtain ⟨inside, rfl⟩ := List.getElem?_eq_some_iff.mp found
  have split : members = members.take index ++ members[index] :: members.drop (index + 1) := by
    rw [← List.drop_eq_getElem_cons inside, List.take_append_drop]
  have splitKept : filterMembers keeps dropsEmpty members =
      filterMembers keeps dropsEmpty (members.take index) ++
        left :: filterMembers keeps dropsEmpty (members.drop (index + 1)) := by
    rw [filterMembers_eq_filterMap, congrArg (List.filterMap _) split, List.filterMap_append,
      List.filterMap_cons, kept, ← filterMembers_eq_filterMap, ← filterMembers_eq_filterMap]
  rw [splitKept, List.getElem?_append_right (Nat.le_refl _), Nat.sub_self]
  rfl

theorem find?_filterFields {fields : List (Field TypeExpr)} {field : Field TypeExpr}
    {left : TypeExpr} (found : fields.find? (fun other => other.name = field.name) = some field)
    (kept : field.type.filter keeps dropsEmpty = some left) :
    (filterFields keeps dropsEmpty fields).find? (fun other => other.name = field.name) =
      some { field with type := left } := by
  induction fields with
  | nil => cases found
  | cons first fields induction =>
      by_cases same : first.name = field.name
      · obtain rfl : first = field := by simpa [same] using found
        simp [filterFields, kept]
      · have others := induction (by simpa [same] using found)
        cases firstKept : first.type.filter keeps dropsEmpty <;>
          simpa [filterFields, firstKept, same] using others

/-- A type is left if a part of it is, and what is left of the part is a part of it. -/
theorem child?_filter {type part left : TypeExpr} {step : Step}
    (leads : type.child? step = some part) (kept : part.filter keeps dropsEmpty = some left) :
    ∃ leftType, type.filter keeps dropsEmpty = some leftType ∧
      leftType.child? (moved keeps dropsEmpty type step) = some left := by
  rcases child?_cases leads with ⟨rfl, rfl⟩ | ⟨members, index, rfl, rfl, found⟩ |
    ⟨members, index, rfl, rfl, found⟩ | ⟨fields, field, rfl, rfl, rfl, found⟩
  · exact ⟨.array left, by simp [filter, kept], rfl⟩
  · have place := getElem?_filterMembers keeps dropsEmpty found kept
    refine ⟨.intersection (filterMembers keeps dropsEmpty members), ?_, place⟩
    have present := List.ne_nil_of_mem (List.mem_of_getElem? place)
    simp [filter, present]
  · have place := getElem?_filterMembers keeps dropsEmpty found kept
    refine ⟨.union (filterMembers keeps dropsEmpty members), ?_, place⟩
    have present := List.ne_nil_of_mem (List.mem_of_getElem? place)
    simp [filter, present]
  · have place := find?_filterFields keeps dropsEmpty found kept
    refine ⟨.record (filterFields keeps dropsEmpty fields), ?_, ?_⟩
    · have present := List.ne_nil_of_mem (List.mem_of_find?_eq_some place)
      simp [filter, present]
    · simp [moved, child?, place]

/-- The same at the end of a path. -/
theorem at?_filter {type part left : TypeExpr} {path : List Step}
    (leads : type.at? path = some part) (kept : part.filter keeps dropsEmpty = some left) :
    ∃ leftType, type.filter keeps dropsEmpty = some leftType ∧
      leftType.at? (movedPath keeps dropsEmpty type path) = some left := by
  induction path generalizing type with
  | nil =>
      obtain rfl : type = part := Option.some.inj leads
      exact ⟨left, kept, rfl⟩
  | cons step path induction =>
      obtain ⟨next, nextLeads, partLeads⟩ := Option.bind_eq_some_iff.mp leads
      obtain ⟨leftNext, nextKept, leftLeads⟩ := induction partLeads
      obtain ⟨leftType, typeKept, stepLeads⟩ := child?_filter keeps dropsEmpty nextLeads nextKept
      refine ⟨leftType, typeKept, ?_⟩
      rw [movedPath, nextLeads, Option.elim_some, at?_cons, stepLeads, Option.bind_some, leftLeads]

end Filter

/-! ## Texts -/

theorem isInfix_join {separator part : Text} {parts : List Text} (isPart : part ∈ parts) :
    part <:+: Text.join separator parts := by
  induction parts with
  | nil => cases isPart
  | cons first parts induction =>
      cases parts with
      | nil =>
          obtain rfl := List.mem_singleton.mp isPart
          exact List.infix_rfl
      | cons second parts =>
          change part <:+: first ++ separator ++ Text.join separator (second :: parts)
          rcases List.mem_cons.mp isPart with rfl | isPart
          · rw [List.append_assoc]
            exact (List.prefix_append _ _).isInfix
          · exact (induction isPart).trans (List.suffix_append _ _).isInfix

theorem fieldText_isInfix_render {fields : List (Field TypeExpr)} {field : Field TypeExpr}
    (isField : field ∈ fields) :
    fieldText field.name field.required field.type.render <:+: (record fields).render := by
  rw [render, renderFields_eq_flatMap]
  obtain ⟨before, after, rfl⟩ := List.append_of_mem isField
  let text (field : Field TypeExpr) := fieldText field.name field.required field.type.render
  refine ⟨"\x7b" ++ before.flatMap text, after.flatMap text ++ "\x7d", ?_⟩
  simp [text]

theorem render_isInfix_of_child? {type part : TypeExpr} {step : Step}
    (leads : type.child? step = some part) : part.render <:+: type.render := by
  rcases child?_cases leads with ⟨rfl, -⟩ | ⟨members, index, rfl, -, found⟩ |
    ⟨members, index, rfl, -, found⟩ | ⟨fields, field, rfl, -, rfl, found⟩
  · rw [render]
    split
    · exact ⟨"(", ")[]", by simp⟩
    · exact (List.prefix_append _ _).isInfix
  · have isMember := List.mem_of_getElem? found
    rw [render, if_neg (by simpa using List.ne_nil_of_mem isMember), renderMembers_eq_map]
    exact isInfix_join (List.mem_map_of_mem isMember)
  · have isMember := List.mem_of_getElem? found
    rw [render, if_neg (by simpa using List.ne_nil_of_mem isMember), renderMembers_eq_map]
    exact isInfix_join (List.mem_map_of_mem isMember)
  · have isField := List.mem_of_find?_eq_some found
    refine List.IsInfix.trans ?_ (fieldText_isInfix_render isField)
    refine ⟨quoteName field.name ++ (if field.required then "" else " ?") ++ " : ", ";", ?_⟩
    simp [fieldText]

/-- The text of a type contains the texts of its parts. -/
theorem render_isInfix_of_at? {type part : TypeExpr} {path : List Step}
    (leads : type.at? path = some part) : part.render <:+: type.render := by
  induction path generalizing type with
  | nil =>
      obtain rfl : type = part := Option.some.inj leads
      exact List.infix_rfl
  | cons step path induction =>
      obtain ⟨next, nextLeads, partLeads⟩ := Option.bind_eq_some_iff.mp leads
      exact (induction partLeads).trans (render_isInfix_of_child? nextLeads)

end TypeExpr

end ApiTypes
