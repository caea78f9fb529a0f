import ApiTypes.Shape.Checked

/-!
# Readings without their issues

Two readings agree if both have the same value, both are invalid, or both stop
at an integer that is too long.  They agree if they are equal once the issues
are taken away, and what is left obeys the laws by which shapes are read.
-/

namespace ApiTypes.Shape.Checked

variable {α β γ : Type}

/-- The same without what is wrong. -/
def bare : Checked α → Checked α
  | .invalid _ => .invalid []
  | other => other

@[simp] theorem bare_valid (value : α) : (valid value).bare = valid value :=
  rfl

@[simp] theorem bare_invalid (issues : List Issue) :
    (invalid issues : Checked α).bare = invalid [] :=
  rfl

@[simp] theorem bare_unwritable : (unwritable : Checked α).bare = unwritable :=
  rfl

@[simp] theorem bare_refuse (complaint : Complaint) (content : Data) :
    (refuse complaint content : Checked α).bare = invalid [] :=
  rfl

@[simp] theorem bare_bare (checked : Checked α) : checked.bare.bare = checked.bare := by
  cases checked <;> rfl

@[simp] theorem bare_map (function : α → β) (checked : Checked α) :
    (function <$> checked).bare = function <$> checked.bare := by
  cases checked <;> rfl

@[simp] theorem bare_seq (function : Checked (α → β)) (checked : Checked α) :
    (function <*> checked).bare = function.bare <*> checked.bare := by
  cases function <;> cases checked <;> rfl

@[simp] theorem bare_under (step : Step) (checked : Checked α) :
    (checked.under step).bare = checked.bare := by
  cases checked <;> rfl

@[simp] theorem bare_labelled (label : Text) (checked : Checked α) :
    (checked.labelled label).bare = checked.bare :=
  bare_under _ checked

@[simp] theorem bare_orElse (first second : Checked α) :
    (first <|> second).bare = (first.bare <|> second.bare) := by
  cases first with
  | invalid issues => cases second <;> rfl
  | _ => rfl

theorem labelled_eq_valid_iff {label : Text} {checked : Checked α} {value : α} :
    checked.labelled label = .valid value ↔ checked = .valid value := by
  cases checked <;> simp [labelled, under]

/-! ## Laws -/

theorem map_map (second : β → γ) (first : α → β) (checked : Checked α) :
    second <$> first <$> checked = (second ∘ first) <$> checked := by
  cases checked <;> rfl

theorem id_map (checked : Checked α) : id <$> checked = checked := by
  cases checked <;> rfl

theorem map_seq (change : β → γ) (function : Checked (α → β)) (checked : Checked α) :
    change <$> (function <*> checked) = (change ∘ ·) <$> function <*> checked := by
  cases function <;> cases checked <;> rfl

theorem seq_map (function : Checked (β → γ)) (change : α → β) (checked : Checked α) :
    function <*> change <$> checked = (· ∘ change) <$> function <*> checked := by
  cases function <;> cases checked <;> rfl

theorem map_orElse (change : α → β) (first second : Checked α) :
    change <$> (first <|> second) = (change <$> first <|> change <$> second) := by
  cases first with
  | invalid issues => cases second <;> rfl
  | _ => rfl

end ApiTypes.Shape.Checked
