import ApiTypes.Proofs.IntersectionReading

/-!
# Normal forms of types

What a type says apart from the way it is put together: a union or an
intersection of one member is that member, unions in unions and intersections in
intersections are one, and those without members are words.  The text of a type
reads as its normal form unless a union is an operand of an intersection, of
which the text has no parentheses.
-/

namespace ApiTypes

open Reading

namespace Reading

/-- The alternatives that a type contributes to a union: those of a union, and any other type
itself. -/
def choices : Reading → List Reading
  | .union alternatives => alternatives
  | reading => [reading]

/-- Members in one: the parts of all, if there are several.  A member alone is itself, and no
members at all are a word. -/
def together (word : Text) (join : List Reading → Reading) (parts : Reading → List Reading) :
    List Reading → Reading
  | [] => .leaf word
  | [member] => member
  | members => join (members.flatMap parts)

theorem choices_of_isUnion_eq_false {reading : Reading} (noUnion : reading.isUnion = false) :
    reading.choices = [reading] := by
  cases reading with
  | union alternatives => simp [isUnion] at noUnion
  | _ => rfl

/-- Alternatives are the choices of what they are together. -/
theorem Grouped.choices_ofAlternatives {alternatives : List (List Reading)}
    (grouped : Grouped alternatives) :
    (ofAlternatives alternatives).choices = alternatives.map ofOperands := by
  match alternatives with
  | [] => exact absurd rfl grouped.1
  | [operands] =>
      have simple := (grouped.2 operands (by simp)).2
      exact choices_of_isUnion_eq_false (isUnion_ofOperands simple)
  | _ :: _ :: _ => rfl

end Reading

namespace TypeExpr

mutual

/-- The normal form of a type. -/
def normalForm : TypeExpr → Reading
  | .array element => .array (normalForm element)
  | .intersection members => together "unknown" .intersection operands (normalForms members)
  | .union members => together "never" .union choices (normalForms members)
  | .named name => .leaf name
  | .record fields => .record (normalFields fields)
  | .literal value => value.reading

def normalForms : List TypeExpr → List Reading
  | [] => []
  | member :: members => normalForm member :: normalForms members

/-- The fields of a record with the normal forms of their types. -/
def normalFields : List (Field TypeExpr) → List (Field Reading)
  | [] => []
  | ⟨name, required, type⟩ :: fields => ⟨name, required, normalForm type⟩ :: normalFields fields

end

mutual

/-- Somewhere in the type, an intersection of two or more members has a member whose normal form
is a union. -/
def hasUnionOperand : TypeExpr → Bool
  | .array element => hasUnionOperand element
  | .intersection members =>
      (2 ≤ members.length && (normalForms members).any isUnion) || haveUnionOperand members
  | .union members => haveUnionOperand members
  | .named _ => false
  | .record fields => fieldsHaveUnionOperand fields
  | .literal _ => false

def haveUnionOperand : List TypeExpr → Bool
  | [] => false
  | member :: members => hasUnionOperand member || haveUnionOperand members

/-- List counterpart of `hasUnionOperand` for the types of fields. -/
def fieldsHaveUnionOperand : List (Field TypeExpr) → Bool
  | [] => false
  | ⟨_, _, type⟩ :: fields => hasUnionOperand type || fieldsHaveUnionOperand fields

end

theorem reading_array (element : TypeExpr) : (array element).reading = .array element.reading :=
  rfl

theorem reading_record (fields : List (Field TypeExpr)) :
    (record fields).reading = .record (fieldsReading fields) :=
  rfl

theorem reading_intersection_singleton (member : TypeExpr) :
    (intersection [member]).reading = member.reading := by
  simp [reading, alternatives, membersAlternatives]

theorem reading_union_singleton (member : TypeExpr) :
    (union [member]).reading = member.reading := by
  simp [reading, alternatives, membersAlternatives]

theorem foldr_append_membersAlternatives (members : List TypeExpr) :
    (membersAlternatives members).foldr (· ++ ·) [] = members.flatMap alternatives := by
  induction members with
  | nil => rfl
  | cons member members induction => simp [membersAlternatives, induction]

/-- A union of several members is read with the choices of all. -/
theorem reading_union {members : List TypeExpr} (several : 2 ≤ members.length) :
    (union members).reading = .union (members.flatMap fun member => member.reading.choices) := by
  have present : members ≠ [] := by
    rintro rfl
    simp at several
  have total : (union members).alternatives = members.flatMap alternatives := by
    rw [alternatives, if_neg (by simpa using present), foldr_append_membersAlternatives]
  have two : 2 ≤ (members.flatMap alternatives).length := by
    match members, several with
    | first :: second :: members, _ =>
        have firstPositive := List.length_pos_iff.mpr first.alternatives_grouped.1
        have secondPositive := List.length_pos_iff.mpr second.alternatives_grouped.1
        simp only [List.flatMap_cons, List.length_append]
        omega
  have choices (member : TypeExpr) :
      member.alternatives.map ofOperands = member.reading.choices :=
    member.alternatives_grouped.choices_ofAlternatives.symm
  rw [reading, total, ofAlternatives_of_two_le two, List.map_flatMap]
  simp only [choices]

mutual

/-- A type is read as its normal form, if no union is an operand of an intersection in it. -/
theorem reading_eq_normalForm (type : TypeExpr) (noUnion : type.hasUnionOperand = false) :
    type.reading = type.normalForm := by
  cases type with
  | array element =>
      rw [reading_array, normalForm, reading_eq_normalForm element noUnion]
  | intersection members =>
      simp only [hasUnionOperand, Bool.or_eq_false_iff] at noUnion
      have readings := map_reading_eq_normalForms members noUnion.2
      match members with
      | [] => rfl
      | [member] =>
          rw [reading_intersection_singleton]
          simpa [normalForm, normalForms, together] using readings
      | first :: second :: members =>
          have operandsSimple : ∀ member ∈ first :: second :: members,
              member.reading.isUnion = false := by
            intro member isMember
            have simple := List.any_eq_false.mp (by simpa using noUnion.1) member.reading
            rw [← readings] at simple
            simpa using simple (List.mem_map_of_mem isMember)
          rw [reading_intersection_of_no_union (by simp) operandsSimple, normalForm, ← readings]
          simp [together, List.flatMap_map]
  | union members =>
      have readings := map_reading_eq_normalForms members noUnion
      match members with
      | [] => rfl
      | [member] =>
          rw [reading_union_singleton]
          simpa [normalForm, normalForms, together] using readings
      | first :: second :: members =>
          rw [reading_union (by simp), normalForm, ← readings]
          simp [together, List.flatMap_map]
  | named name => rfl
  | record fields =>
      rw [reading_record, normalForm, fieldsReading_eq_normalFields fields noUnion]
  | literal value => rfl

/-- List counterpart of `reading_eq_normalForm`. -/
theorem map_reading_eq_normalForms (members : List TypeExpr)
    (noUnion : haveUnionOperand members = false) :
    members.map reading = normalForms members := by
  cases members with
  | nil => rfl
  | cons member members =>
      simp only [haveUnionOperand, Bool.or_eq_false_iff] at noUnion
      rw [List.map_cons, normalForms, reading_eq_normalForm member noUnion.1,
        map_reading_eq_normalForms members noUnion.2]

/-- Counterpart of `reading_eq_normalForm` for the fields of a record. -/
theorem fieldsReading_eq_normalFields (fields : List (Field TypeExpr))
    (noUnion : fieldsHaveUnionOperand fields = false) :
    fieldsReading fields = normalFields fields := by
  cases fields with
  | nil => rfl
  | cons field fields =>
      obtain ⟨name, required, type⟩ := field
      simp only [fieldsHaveUnionOperand, Bool.or_eq_false_iff] at noUnion
      have typeReading := reading_eq_normalForm type noUnion.1
      rw [fieldsReading, normalFields, ← typeReading,
        fieldsReading_eq_normalFields fields noUnion.2]
      rfl

end

end TypeExpr

/-- The whole text of a type whose names are identifiers is read as the normal form of the type,
if no union is an operand of an intersection in it.  So such types have the same text only if they
have the same normal form. -/
theorem render_reads_back_as_normalForm {type : TypeExpr}
    (identifiers : ∀ name ∈ type.names, name.IsIdentifier)
    (noUnion : type.hasUnionOperand = false) :
    ofText? type.render = some type.normalForm ∧
      ∀ other : TypeExpr, (∀ name ∈ other.names, name.IsIdentifier) →
        other.hasUnionOperand = false → other.render = type.render →
          other.normalForm = type.normalForm := by
  have readsBack : ofText? type.render = some type.normalForm := by
    rw [ofText?_render identifiers, TypeExpr.reading_eq_normalForm type noUnion]
  refine ⟨readsBack, ?_⟩
  intro other otherIdentifiers otherNoUnion sameText
  have otherReadsBack : ofText? other.render = some other.normalForm := by
    rw [ofText?_render otherIdentifiers, TypeExpr.reading_eq_normalForm other otherNoUnion]
  rw [sameText, readsBack] at otherReadsBack
  exact (Option.some.inj otherReadsBack).symm

/-- A record with a field of any name, an array of a union, and members that are no types of
their own. -/
def nestedRecord : TypeExpr :=
  .record
    [⟨"\"\\: ;", false, .array (.union [.literal (.text "x]'"), .union [.named "Pet"]])⟩,
      ⟨"rest", true, .intersection [.named "A", .intersection [.union [], .literal (.map [])]]⟩]

/-- Delimiters in names and literals stay what they are. -/
theorem nestedRecord_reads_back :
    (∀ name ∈ nestedRecord.names, name.IsIdentifier) ∧ nestedRecord.hasUnionOperand = false ∧
      ofText? nestedRecord.render =
        some (.record
          [⟨"\"\\: ;", false, .array (.union [.leaf "'x]\\''", .leaf "Pet"])⟩,
            ⟨"rest", true, .intersection [.leaf "A", .leaf "never", .record []]⟩]) := by
  have identifiers : ∀ name ∈ nestedRecord.names, name.IsIdentifier := by decide
  have noUnion : nestedRecord.hasUnionOperand = false := by decide
  refine ⟨identifiers, noUnion, ?_⟩
  rw [(render_reads_back_as_normalForm identifiers noUnion).1]
  rfl

end ApiTypes
