import ApiTypes.Proofs.RenderReading

/-!
# Reading rendered intersections

The text of an intersection is its members with ampersands between them, and
without parentheses.  It is read as the intersection of what the members are read
as if none of them is read as a union.  If one is, the ampersands bind tighter
than its bars, and the text is read as a union.
-/

namespace ApiTypes

open Reading

namespace Reading

/-- The operands that a type contributes to an intersection: those of an intersection, and any
other type itself. -/
def operands : Reading → List Reading
  | .intersection operands => operands
  | reading => [reading]

def isUnion : Reading → Bool
  | .union _ => true
  | _ => false

theorem ofOperands_of_two_le {several : List Reading} (two : 2 ≤ several.length) :
    ofOperands several = .intersection several := by
  match several, two with
  | _ :: _ :: _, _ => rfl

theorem operands_ofOperands {several : List Reading}
    (simple : ∀ operand ∈ several, operand.isCompound = false) :
    (ofOperands several).operands = several := by
  match several with
  | [] => rfl
  | [operand] =>
      have isSimple := simple operand (by simp)
      cases operand with
      | intersection _ => simp [isCompound] at isSimple
      | _ => rfl
  | _ :: _ :: _ => rfl

theorem isUnion_ofOperands {several : List Reading}
    (simple : ∀ operand ∈ several, operand.isCompound = false) :
    (ofOperands several).isUnion = false := by
  match several with
  | [] => rfl
  | [operand] =>
      have isSimple := simple operand (by simp)
      cases operand with
      | union _ => simp [isCompound] at isSimple
      | _ => rfl
  | _ :: _ :: _ => rfl

/-- Two alternatives are read as a union. -/
theorem ofAlternatives_of_two_le {alternatives : List (List Reading)}
    (two : 2 ≤ alternatives.length) :
    ofAlternatives alternatives = .union (alternatives.map ofOperands) := by
  match alternatives, two with
  | _ :: _ :: _, _ => rfl

theorem Grouped.eq_singleton_or_two_le {alternatives : List (List Reading)}
    (grouped : Grouped alternatives) :
    alternatives = [(ofAlternatives alternatives).operands] ∧
        (ofAlternatives alternatives).isUnion = false ∨
      2 ≤ alternatives.length ∧ (ofAlternatives alternatives).isUnion = true := by
  match alternatives with
  | [] => exact absurd rfl grouped.1
  | [several] =>
      have simple := (grouped.2 several (by simp)).2
      exact .inl ⟨by rw [ofAlternatives, operands_ofOperands simple], isUnion_ofOperands simple⟩
  | _ :: _ :: _ => exact .inr ⟨by simp, rfl⟩

/-! ## Splicing many -/

theorem length_splice (left right : List (List Reading)) (leftPresent : left ≠ [])
    (rightPresent : right ≠ []) :
    (splice left right).length + 1 = left.length + right.length := by
  match left, right with
  | [last], first :: right => simp [splice, Nat.add_comm]
  | operands :: next :: left, right =>
      have others := length_splice (next :: left) right (by simp) rightPresent
      simp only [splice, List.length_cons] at others ⊢
      omega

/-- No alternatives are lost by splicing but those that become one. -/
theorem length_le_length_foldr_splice {parts : List (List (List Reading))}
    (partsPresent : ∀ part ∈ parts, part ≠ []) {part : List (List Reading)}
    (member : part ∈ parts) : part.length ≤ (parts.foldr splice []).length := by
  induction parts with
  | nil => simp at member
  | cons first parts induction =>
      have firstPresent := partsPresent first (by simp)
      have othersPresent : ∀ part ∈ parts, part ≠ [] := fun part isPart =>
        partsPresent part (by simp [isPart])
      rw [List.foldr_cons]
      cases parts with
      | nil =>
          obtain rfl := List.mem_singleton.mp member
          simp
      | cons second parts =>
          have spliced : (second :: parts).foldr splice [] ≠ [] :=
            ampersand_joins.foldr_ne_nil (by simp) othersPresent
          have total := length_splice _ _ firstPresent spliced
          have firstPositive := List.length_pos_iff.mpr firstPresent
          have othersPositive := List.length_pos_iff.mpr spliced
          rcases List.mem_cons.mp member with rfl | later
          · omega
          · have := induction othersPresent later
            omega

/-- Single alternatives are spliced to one with all their operands. -/
theorem foldr_splice_singletons {groups : List (List Reading)} (present : groups ≠ []) :
    (groups.map fun group => [group]).foldr splice [] = [groups.flatten] := by
  induction groups with
  | nil => exact absurd rfl present
  | cons group groups induction =>
      cases groups with
      | nil => simp
      | cons next groups =>
          rw [List.map_cons, List.foldr_cons, induction (by simp)]
          rfl

end Reading

namespace TypeExpr

theorem reading_intersection {members : List TypeExpr} (present : members ≠ []) :
    (intersection members).reading =
      ofAlternatives ((members.map alternatives).foldr splice []) := by
  rw [reading, alternatives, membersAlternatives_eq_map]
  simp [present]

/-- A type that is read as no union has one alternative. -/
theorem alternatives_of_no_union {type : TypeExpr} (noUnion : type.reading.isUnion = false) :
    type.alternatives = [type.reading.operands] := by
  rcases type.alternatives_grouped.eq_singleton_or_two_le with ⟨single, -⟩ | ⟨-, isUnion⟩
  · exact single
  · rw [reading, isUnion] at noUnion
    simp at noUnion

theorem operands_ne_nil_of_no_union {type : TypeExpr} (noUnion : type.reading.isUnion = false) :
    type.reading.operands ≠ [] := by
  have grouped := type.alternatives_grouped
  rw [alternatives_of_no_union noUnion] at grouped
  exact (grouped.2 _ (by simp)).1

/-- An intersection is read with the operands of its members if no member is read as a union. -/
theorem reading_intersection_of_no_union {members : List TypeExpr} (several : 2 ≤ members.length)
    (noUnion : ∀ member ∈ members, member.reading.isUnion = false) :
    (intersection members).reading =
      .intersection (members.flatMap fun member => member.reading.operands) := by
  have present : members ≠ [] := by
    rintro rfl
    simp at several
  have parts : members.map alternatives =
      (members.map fun member => member.reading.operands).map fun group => [group] := by
    rw [List.map_map]
    exact List.map_congr_left fun member isMember =>
      alternatives_of_no_union (noUnion member isMember)
  have two : 2 ≤ (members.flatMap fun member => member.reading.operands).length := by
    match members, several, noUnion with
    | first :: second :: members, _, noUnion =>
        have firstPositive := List.length_pos_iff.mpr
          (operands_ne_nil_of_no_union (noUnion first (by simp)))
        have secondPositive := List.length_pos_iff.mpr
          (operands_ne_nil_of_no_union (noUnion second (by simp)))
        simp only [List.flatMap_cons, List.length_append]
        omega
  rw [reading_intersection present, parts, foldr_splice_singletons (by simpa using present),
    ← List.flatMap_def]
  exact ofOperands_of_two_le two

/-- An intersection with a member that is read as a union is read as a union. -/
theorem reading_intersection_of_union {members : List TypeExpr} {member : TypeExpr}
    (isMember : member ∈ members) (isUnion : member.reading.isUnion = true) :
    ∃ alternatives, (intersection members).reading = .union alternatives := by
  have present : members ≠ [] := List.ne_nil_of_mem isMember
  have two : 2 ≤ member.alternatives.length := by
    rcases member.alternatives_grouped.eq_singleton_or_two_le with ⟨-, noUnion⟩ | ⟨two, -⟩
    · rw [reading, noUnion] at isUnion
      simp at isUnion
    · exact two
  have partsPresent : ∀ part ∈ members.map alternatives, part ≠ [] := by
    intro part isPart
    obtain ⟨other, -, rfl⟩ := List.mem_map.mp isPart
    exact other.alternatives_grouped.1
  have atLeast := length_le_length_foldr_splice partsPresent (List.mem_map_of_mem isMember)
  exact ⟨_, by rw [reading_intersection present, ofAlternatives_of_two_le (by omega)]⟩

end TypeExpr

/-- The text of every member reads as a type, and the text of their intersection reads as the
intersection of these, nested ones flattened, exactly if none of them is a union.  Otherwise it
reads as a union. -/
theorem intersection_reads_back_iff_no_union {members : List TypeExpr}
    (several : 2 ≤ members.length)
    (identifiers : ∀ name ∈ TypeExpr.membersNames members, name.IsIdentifier) :
    (∀ member ∈ members, ofText? member.render = some member.reading) ∧
      (ofText? (TypeExpr.intersection members).render =
          some (.intersection (members.flatMap fun member => member.reading.operands)) ↔
        ∀ member ∈ members, member.reading.isUnion = false) ∧
      ((∃ member ∈ members, member.reading.isUnion = true) →
        ∃ alternatives,
          ofText? (TypeExpr.intersection members).render = some (.union alternatives)) := by
  have whole : ofText? (TypeExpr.intersection members).render =
      some (TypeExpr.intersection members).reading :=
    ofText?_render (by simpa [TypeExpr.names] using identifiers)
  refine ⟨?_, ⟨?_, ?_⟩, ?_⟩
  · intro member isMember
    refine ofText?_render fun name isName => identifiers name ?_
    rw [TypeExpr.membersNames_eq_flatMap]
    exact List.mem_flatMap.mpr ⟨member, isMember, isName⟩
  · intro readsBack member isMember
    cases isUnion : member.reading.isUnion with
    | false => rfl
    | true =>
        obtain ⟨alternatives, asUnion⟩ := TypeExpr.reading_intersection_of_union isMember isUnion
        rw [whole, asUnion] at readsBack
        simp at readsBack
  · intro noUnion
    rw [whole, TypeExpr.reading_intersection_of_no_union several noUnion]
  · rintro ⟨member, isMember, isUnion⟩
    obtain ⟨alternatives, asUnion⟩ := TypeExpr.reading_intersection_of_union isMember isUnion
    exact ⟨alternatives, by rw [whole, asUnion]⟩

/-- Two texts of an enumeration and a name. -/
def choiceAndName : List TypeExpr :=
  [.union [.literal (.text "a"), .literal (.text "b")], .named "C"]

/-- The bars of an enumeration in an intersection separate the whole of it. -/
theorem intersection_with_choice_reads_as_union :
    2 ≤ choiceAndName.length ∧
      (∀ name ∈ TypeExpr.membersNames choiceAndName, name.IsIdentifier) ∧
      ofText? (TypeExpr.intersection choiceAndName).render ≠
        some (.intersection [.union [.leaf "'a'", .leaf "'b'"], .leaf "C"]) ∧
      ∃ alternatives,
        ofText? (TypeExpr.intersection choiceAndName).render = some (.union alternatives) := by
  have several : 2 ≤ choiceAndName.length := by decide
  have identifiers : ∀ name ∈ TypeExpr.membersNames choiceAndName, name.IsIdentifier := by
    decide
  obtain ⟨-, iff, asUnion⟩ := intersection_reads_back_iff_no_union several identifiers
  obtain ⟨alternatives, read⟩ := asUnion ⟨_, List.mem_cons_self, rfl⟩
  refine ⟨several, identifiers, ?_, alternatives, read⟩
  rw [read]
  simp

end ApiTypes
