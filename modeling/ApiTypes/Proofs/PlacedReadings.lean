import ApiTypes.Specification

/-!
# Readings with the places of their issues

What a report tells of an issue is the path to its place and the complaint.  Readings
that agree on this have the same value, or the same issues at the same places, or stop at
the same integer, whatever data the issues show.
-/

namespace ApiTypes

namespace Shape

/-- An issue without the data that it shows. -/
def Issue.placed (issue : Issue) : Issue :=
  { issue with content := .null }

namespace Checked

variable {α β : Type}

/-- The same without the data that its issues show. -/
def placed : Checked α → Checked α
  | .invalid issues => .invalid (issues.map Issue.placed)
  | other => other

@[simp] theorem placed_valid (value : α) : (valid value).placed = valid value :=
  rfl

@[simp] theorem placed_refuse (complaint : Complaint) (content : Data) :
    (refuse complaint content : Checked α).placed = refuse complaint .null :=
  rfl

@[simp] theorem placed_map (function : α → β) (checked : Checked α) :
    (function <$> checked).placed = function <$> checked.placed := by
  cases checked <;> rfl

@[simp] theorem placed_seq (function : Checked (α → β)) (checked : Checked α) :
    (function <*> checked).placed = function.placed <*> checked.placed := by
  cases function with
  | invalid issues =>
      cases checked with
      | invalid others => exact congrArg invalid List.map_append
      | _ => rfl
  | _ => cases checked <;> rfl

@[simp] theorem placed_under (step : Step) (checked : Checked α) :
    (checked.under step).placed = checked.placed.under step := by
  cases checked with
  | invalid issues => exact congrArg invalid (by simp [Issue.placed])
  | _ => rfl

@[simp] theorem placed_labelled (label : Text) (checked : Checked α) :
    (checked.labelled label).placed = checked.placed.labelled label :=
  placed_under _ checked

@[simp] theorem placed_orElse (first second : Checked α) :
    (first <|> second).placed = (first.placed <|> second.placed) := by
  cases first with
  | invalid issues =>
      cases second with
      | invalid others => exact congrArg invalid List.map_append
      | _ => rfl
  | _ => rfl

theorem placed_collect (parts : List (Checked α)) :
    (collect parts).placed = collect (parts.map placed) := by
  induction parts with
  | nil => rfl
  | cons part parts induction => simp [collect, induction]

end Checked

end Shape

/-- A rejection without the data that its issues show. -/
def Rejection.placed : Rejection → Rejection
  | .mismatch swagger openApi =>
      .mismatch (swagger.map Shape.Issue.placed) (openApi.map Shape.Issue.placed)
  | other => other

namespace Specification

/-- Readings that agree on the places of their issues give the same specification, or rejections
that do. -/
theorem placed_ofRoot [Shape.View Place] (root : Place) :
    (ofRoot root).mapFault Rejection.placed =
      attempt .swagger2 (Specification.swagger <$> (Swagger.readDocument root).placed)
        fun swagger =>
          attempt .openApi3 (Specification.openApi <$> (OpenApi.readDocument root).placed)
            fun openApi => Logged.fail (.mismatch swagger openApi) := by
  unfold ofRoot
  cases Swagger.readDocument root with
  | invalid issues =>
      have count : (issues.map Shape.Issue.placed).length = issues.length := List.length_map _
      cases OpenApi.readDocument root with
      | invalid others =>
          have otherCount : (others.map Shape.Issue.placed).length = others.length :=
            List.length_map _
          simp only [attempt, Functor.map, Shape.Checked.map, Shape.Checked.placed, count,
            otherCount]
          rfl
      | _ =>
          simp only [attempt, Functor.map, Shape.Checked.map, Shape.Checked.placed, count]
          rfl
  | _ => rfl

end Specification

end ApiTypes
