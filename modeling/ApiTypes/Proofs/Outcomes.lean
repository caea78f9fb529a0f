import ApiTypes.Text

/-!
# Outcomes of computations

What is known of the result of a computation, and of the fault if it fails.
`Ends` speaks about an outcome, and `Keeps` about a computation with a state of
which an invariant holds.
-/

namespace ApiTypes

theorem eq_ok_of_toOption_eq_some {outcome : Except ε α} {result : α}
    (found : outcome.toOption = some result) : outcome = .ok result := by
  cases outcome with
  | ok value => exact congrArg Except.ok (Option.some.inj found)
  | error fault => cases found

/-- The result has one property, or the fault another one. -/
def Ends (accepts : α → Prop) (admits : ε → Prop) : Except ε α → Prop
  | .ok result => accepts result
  | .error fault => admits fault

namespace Ends

variable {α β ε : Type} {accepts : α → Prop} {accepted : β → Prop} {admits : ε → Prop}

theorem anyway (outcome : Except ε α) : Ends (fun _ => True) (fun _ => True) outcome := by
  cases outcome <;> exact trivial

theorem weaken {weaker : α → Prop} {admitted : ε → Prop} {outcome : Except ε α}
    (ends : Ends accepts admits outcome) (onResult : ∀ result, accepts result → weaker result)
    (onFault : ∀ fault, admits fault → admitted fault) : Ends weaker admitted outcome := by
  cases outcome with
  | ok result => exact onResult result ends
  | error fault => exact onFault fault ends

theorem bind {first : Except ε α} {next : α → Except ε β} (ends : Ends accepts admits first)
    (nextEnds : ∀ result, accepts result → Ends accepted admits (next result)) :
    Ends accepted admits (first >>= next) := by
  cases first with
  | ok result => exact nextEnds result ends
  | error fault => exact ends

theorem ite {condition : Prop} [Decidable condition] {outcome alternative : Except ε α}
    (ends : Ends accepts admits outcome) (alternativeEnds : Ends accepts admits alternative) :
    Ends accepts admits (if condition then outcome else alternative) := by
  split
  · exact ends
  · exact alternativeEnds

/-- What holds of the first value and is kept by every item holds of the last value. -/
theorem foldlM {items : List β} {advance : α → β → Except ε α} {start : α}
    (startAccepted : accepts start)
    (advances : ∀ value, accepts value → ∀ item ∈ items, Ends accepts admits (advance value item)) :
    Ends accepts admits (items.foldlM advance start) := by
  induction items generalizing start with
  | nil => exact startAccepted
  | cons item items induction =>
      rw [List.foldlM_cons]
      refine bind (advances start startAccepted item (by simp)) fun value isAccepted => ?_
      exact induction isAccepted fun value isAccepted other member =>
        advances value isAccepted other (by simp [member])

end Ends

/-- The invariant of the state is kept, and the result has a property; or the fault has another
one. -/
def Keeps (invariant : σ → Prop) (admits : ε → Prop) (accepts : α → Prop)
    (computation : StateT σ (Except ε) α) : Prop :=
  ∀ state, invariant state →
    Ends (fun (result, next) => accepts result ∧ invariant next) admits (computation state)

namespace Keeps

variable {α β ε σ : Type} {invariant : σ → Prop} {admits : ε → Prop} {accepts : α → Prop}
  {accepted : β → Prop}

theorem pure {result : α} (isAccepted : accepts result) :
    Keeps invariant admits accepts (pure result) :=
  fun _ kept => ⟨isAccepted, kept⟩

theorem bind {first : StateT σ (Except ε) α} {next : α → StateT σ (Except ε) β}
    (keeps : Keeps invariant admits accepts first)
    (nextKeeps : ∀ result, accepts result → Keeps invariant admits accepted (next result)) :
    Keeps invariant admits accepted (first >>= next) :=
  fun state kept =>
    (keeps state kept).bind fun (result, state) ⟨isAccepted, kept⟩ =>
      nextKeeps result isAccepted state kept

theorem throw {fault : ε} (isAdmitted : admits fault) :
    Keeps invariant admits accepts (throw fault) :=
  fun _ _ => isAdmitted

theorem get : Keeps invariant admits invariant get :=
  fun _ kept => ⟨kept, kept⟩

theorem modify {change : σ → σ}
    (changeKeeps : ∀ state, invariant state → invariant (change state)) :
    Keeps invariant admits (fun _ => True) (modify change) :=
  fun state kept => ⟨trivial, changeKeeps state kept⟩

theorem set {state : σ} (kept : invariant state) :
    Keeps invariant admits (fun _ => True) (set state) :=
  fun _ _ => ⟨trivial, kept⟩

theorem lift {outcome : Except ε α} (ends : Ends accepts admits outcome) :
    Keeps invariant admits accepts (liftM outcome) :=
  fun _ kept => ends.bind fun _ isAccepted => ⟨isAccepted, kept⟩

theorem mapM {items : List β} {read : β → StateT σ (Except ε) α}
    (reads : ∀ item ∈ items, Keeps invariant admits (fun _ => True) (read item)) :
    Keeps invariant admits (fun _ => True) (items.mapM read) := by
  induction items with
  | nil => exact pure trivial
  | cons item items induction =>
      rw [List.mapM_cons]
      refine bind (reads item (by simp)) fun result _ => ?_
      refine bind (induction fun other member => reads other (by simp [member])) fun results _ => ?_
      exact pure trivial

theorem forM {items : List β} {act : β → StateT σ (Except ε) PUnit}
    (acts : ∀ item ∈ items, Keeps invariant admits (fun _ => True) (act item)) :
    Keeps invariant admits (fun _ => True) (items.forM act) := by
  induction items with
  | nil => exact pure trivial
  | cons item items induction =>
      change Keeps invariant admits (fun _ => True) (act item >>= fun _ => items.forM act)
      refine bind (acts item (by simp)) fun _ _ => ?_
      exact induction fun other member => acts other (by simp [member])

theorem foldlM {items : List β} {advance : α → β → StateT σ (Except ε) α} {start : α}
    (startAccepted : accepts start)
    (advances : ∀ value, accepts value → ∀ item ∈ items,
      Keeps invariant admits accepts (advance value item)) :
    Keeps invariant admits accepts (items.foldlM advance start) := by
  induction items generalizing start with
  | nil => exact pure startAccepted
  | cons item items induction =>
      rw [List.foldlM_cons]
      refine bind (advances start startAccepted item (by simp)) fun value isAccepted => ?_
      exact induction isAccepted fun value isAccepted other member =>
        advances value isAccepted other (by simp [member])

end Keeps

end ApiTypes
