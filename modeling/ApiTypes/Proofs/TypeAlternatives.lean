import ApiTypes.Proofs.ReadingSteps

/-!
# Alternatives of types

The alternatives that a type contributes to a text.  An intersection puts nothing
around its members: the last alternative of a member and the first one of the
next are one, which is what `splice` says.
-/

namespace ApiTypes

open Reading

/-- How the text of a literal is read.  The map without entries looks like the record without
fields. -/
def Literal.reading : Literal → Reading
  | .map [] => .record []
  | value => .leaf value.render

namespace TypeExpr

mutual

/-- The alternatives, each with its operands, that the text of a type contributes to the text
around it. -/
def alternatives : TypeExpr → List (List Reading)
  | .array element => [[.array (ofAlternatives (alternatives element))]]
  | .intersection members =>
      if members.isEmpty then [[.leaf "unknown"]]
      else (membersAlternatives members).foldr splice []
  | .union members =>
      if members.isEmpty then [[.leaf "never"]]
      else (membersAlternatives members).foldr (· ++ ·) []
  | .named name => [[.leaf name]]
  | .record fields => [[.record (fieldsReading fields)]]
  | .literal value => [[value.reading]]

def membersAlternatives : List TypeExpr → List (List (List Reading))
  | [] => []
  | member :: members => alternatives member :: membersAlternatives members

/-- The fields of a record as they are read. -/
def fieldsReading : List (Field TypeExpr) → List (Field Reading)
  | [] => []
  | ⟨name, required, type⟩ :: fields =>
      ⟨name, required, ofAlternatives (alternatives type)⟩ :: fieldsReading fields

end

/-- What the text of a type is read as. -/
def reading (type : TypeExpr) : Reading :=
  ofAlternatives type.alternatives

theorem membersAlternatives_eq_map (members : List TypeExpr) :
    membersAlternatives members = members.map alternatives := by
  induction members with
  | nil => rfl
  | cons member members induction => simp [membersAlternatives, induction]

/-- A type that needs no parentheses under an array suffix is read as one operand. -/
theorem alternatives_of_not_isCompound {type : TypeExpr} (simple : type.isCompound = false) :
    type.alternatives = [[type.reading]] := by
  unfold reading
  cases type with
  | intersection members =>
      cases members with
      | nil => simp [alternatives, ofAlternatives, ofOperands]
      | cons member members => simp [isCompound] at simple
  | union members =>
      cases members with
      | nil => simp [alternatives, ofAlternatives, ofOperands]
      | cons member members => simp [isCompound] at simple
  | _ => simp [alternatives, ofAlternatives, ofOperands]

end TypeExpr

namespace Reading

/-- Intersections and unions. -/
def isCompound : Reading → Bool
  | .intersection _ => true
  | .union _ => true
  | _ => false

/-- There are alternatives, each with operands, and no operand is an intersection or a union. -/
def Grouped (alternatives : List (List Reading)) : Prop :=
  alternatives ≠ [] ∧ ∀ operands ∈ alternatives,
    operands ≠ [] ∧ ∀ operand ∈ operands, operand.isCompound = false

theorem grouped_singleton {operand : Reading} (simple : operand.isCompound = false) :
    Grouped [[operand]] := by
  simp [Grouped, simple]

theorem Grouped.append {left right : List (List Reading)} (leftGrouped : Grouped left)
    (rightGrouped : Grouped right) : Grouped (left ++ right) := by
  refine ⟨by simp [leftGrouped.1], ?_⟩
  intro operands member
  rcases List.mem_append.mp member with inLeft | inRight
  · exact leftGrouped.2 operands inLeft
  · exact rightGrouped.2 operands inRight

theorem Grouped.splice {left right : List (List Reading)} (leftGrouped : Grouped left)
    (rightGrouped : Grouped right) : Grouped (splice left right) := by
  match left, right with
  | [], right => exact rightGrouped
  | [last], [] => exact leftGrouped
  | [last], first :: right =>
      obtain ⟨lastPresent, lastSimple⟩ := leftGrouped.2 last (by simp)
      obtain ⟨firstPresent, firstSimple⟩ := rightGrouped.2 first (by simp)
      refine ⟨by simp [Reading.splice], ?_⟩
      intro operands member
      rcases List.mem_cons.mp member with rfl | member
      · refine ⟨by simp [lastPresent], ?_⟩
        intro operand isOperand
        rcases List.mem_append.mp isOperand with inLast | inFirst
        · exact lastSimple operand inLast
        · exact firstSimple operand inFirst
      · exact rightGrouped.2 operands (by simp [member])
  | operands :: next :: left, right =>
      have others : Grouped (Reading.splice (next :: left) right) :=
        Grouped.splice ⟨by simp, fun operands member => leftGrouped.2 operands (by simp [member])⟩
          rightGrouped
      refine ⟨by simp [Reading.splice], ?_⟩
      intro group member
      rcases List.mem_cons.mp member with rfl | member
      · exact leftGrouped.2 group (by simp)
      · exact others.2 group member

theorem Grouped.foldr {combine : List (List Reading) → List (List Reading) → List (List Reading)}
    (combineNil : ∀ left, combine left [] = left)
    (combineGrouped : ∀ {left right}, Grouped left → Grouped right → Grouped (combine left right))
    {parts : List (List (List Reading))} (present : parts ≠ [])
    (partsGrouped : ∀ part ∈ parts, Grouped part) : Grouped (parts.foldr combine []) := by
  induction parts with
  | nil => exact absurd rfl present
  | cons part parts induction =>
      have partGrouped := partsGrouped part (by simp)
      cases parts with
      | nil => simpa [combineNil] using partGrouped
      | cons next parts =>
          exact combineGrouped partGrouped
            (induction (by simp) fun part member => partsGrouped part (by simp [member]))

end Reading

namespace TypeExpr

theorem membersAlternatives_ne_nil {members : List TypeExpr} (present : members ≠ []) :
    membersAlternatives members ≠ [] := by
  simpa [membersAlternatives_eq_map] using present

mutual

/-- The alternatives of a type are well grouped. -/
theorem alternatives_grouped (type : TypeExpr) : Grouped type.alternatives := by
  cases type with
  | array element => exact grouped_singleton rfl
  | intersection members =>
      have membersGrouped := membersAlternatives_grouped members
      rw [alternatives]
      split
      · exact grouped_singleton rfl
      · rename_i someMember
        exact Grouped.foldr splice_nil Grouped.splice
          (membersAlternatives_ne_nil (by simpa using someMember)) membersGrouped
  | union members =>
      have membersGrouped := membersAlternatives_grouped members
      rw [alternatives]
      split
      · exact grouped_singleton rfl
      · rename_i someMember
        exact Grouped.foldr List.append_nil Grouped.append
          (membersAlternatives_ne_nil (by simpa using someMember)) membersGrouped
  | named name => exact grouped_singleton rfl
  | record fields => exact grouped_singleton rfl
  | literal value =>
      refine grouped_singleton ?_
      unfold Literal.reading
      split <;> rfl

/-- List counterpart of `alternatives_grouped`. -/
theorem membersAlternatives_grouped (members : List TypeExpr) :
    ∀ alternatives ∈ membersAlternatives members, Grouped alternatives := by
  cases members with
  | nil => simp [membersAlternatives]
  | cons member members =>
      have memberGrouped := alternatives_grouped member
      have membersGrouped := membersAlternatives_grouped members
      simpa [membersAlternatives] using ⟨memberGrouped, membersGrouped⟩

end

end TypeExpr

end ApiTypes
