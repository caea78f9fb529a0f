import ApiTypes.Proofs.AlikeReadings
import Mathlib.Data.List.Forall2

/-!
# Readings of related values

Two readings are related if both give values that are related, or both fail in the same
way.  The readers of lists, dictionaries and objects keep a relation that holds of what
is read inside these.
-/

namespace ApiTypes

open Shape

/-- Values under the same name that are related. -/
inductive Named (related : α → β → Prop) : Text × α → Text × β → Prop
  | intro {name : Text} {value : α} {other : β} (values : related value other) :
      Named related (name, value) (name, other)

namespace Shape.Checked

variable {α β γ δ : Type}

/-- Two readings that have related values or none, up to what is wrong. -/
inductive Related (related : α → β → Prop) : Checked α → Checked β → Prop
  | valid {value : α} {other : β} (values : related value other) :
      Related related (.valid value) (.valid other)
  | invalid (issues others : List Issue) : Related related (.invalid issues) (.invalid others)
  | unwritable : Related related .unwritable .unwritable

namespace Related

variable {related : α → β → Prop} {results : γ → δ → Prop}

theorem refl {related : α → α → Prop} (reflexive : ∀ value, related value value)
    (checked : Checked α) : Related related checked checked := by
  cases checked with
  | valid value => exact .valid (reflexive value)
  | invalid issues => exact .invalid issues issues
  | unwritable => exact .unwritable

theorem imp {weaker : α → β → Prop} {checked : Checked α} {other : Checked β}
    (implies : ∀ {value other}, related value other → weaker value other)
    (readings : Related related checked other) : Related weaker checked other := by
  cases readings with
  | valid values => exact .valid (implies values)
  | invalid issues others => exact .invalid issues others
  | unwritable => exact .unwritable

theorem refuse (complaint otherComplaint : Complaint) (content other : Data) :
    Related related (.refuse complaint content) (.refuse otherComplaint other) :=
  .invalid _ _

theorem map {function : α → γ} {otherFunction : β → δ} {checked : Checked α}
    {other : Checked β} (keeps : ∀ {value other}, related value other →
      results (function value) (otherFunction other))
    (readings : Related related checked other) :
    Related results (function <$> checked) (otherFunction <$> other) := by
  cases readings with
  | valid values => exact .valid (keeps values)
  | invalid issues others => exact .invalid issues others
  | unwritable => exact .unwritable

theorem seq {functions : Checked (α → γ)} {otherFunctions : Checked (β → δ)}
    {checked : Checked α} {other : Checked β}
    (keeps : Related (fun function otherFunction => ∀ {value other}, related value other →
      results (function value) (otherFunction other)) functions otherFunctions)
    (readings : Related related checked other) :
    Related results (functions <*> checked) (otherFunctions <*> other) := by
  cases keeps with
  | valid keeps => cases readings <;> first | exact .valid (keeps ‹_›) | constructor
  | invalid issues others => cases readings <;> constructor
  | unwritable => cases readings <;> constructor

theorem bare_iff {checked : Checked α} {other : Checked β} :
    Related related checked.bare other.bare ↔ Related related checked other := by
  constructor
  · intro readings
    cases checked <;> cases other <;> cases readings <;> constructor
    assumption
  · intro readings
    cases readings <;> constructor
    assumption

theorem collect {parts : List (Checked α)} {others : List (Checked β)}
    (readings : List.Forall₂ (Related related) parts others) :
    Related (List.Forall₂ related) (Checked.collect parts) (Checked.collect others) := by
  induction readings with
  | nil => exact .valid .nil
  | cons head _ induction => exact .seq (head.map fun values _ _ => .cons values) induction

end Related

end Shape.Checked

/-! ## Dictionaries -/

namespace Dictionary

variable {α β : Type} {related : α → β → Prop}

theorem insert_related (name : Text) {value : α} {other : β} (values : related value other)
    {entries : Dictionary α} {others : Dictionary β}
    (alike : List.Forall₂ (Named related) entries others) :
    List.Forall₂ (Named related) (insert name value entries) (insert name other others) := by
  induction alike with
  | nil => exact .cons (.intro values) .nil
  | cons head tail induction =>
      cases head with
      | @intro present _ _ old =>
          unfold insert
          split
          · exact .cons (.intro values) tail
          · exact .cons (.intro old) induction

theorem ofEntries_related {entries : List (Text × α)} {others : List (Text × β)}
    (alike : List.Forall₂ (Named related) entries others) :
    List.Forall₂ (Named related) (ofEntries entries) (ofEntries others) := by
  have along {dictionary : Dictionary α} {other : Dictionary β}
      (start : List.Forall₂ (Named related) dictionary other) :
      List.Forall₂ (Named related)
        (entries.foldl (fun dictionary entry => insert entry.1 entry.2 dictionary) dictionary)
        (others.foldl (fun dictionary entry => insert entry.1 entry.2 dictionary) other) := by
    induction alike generalizing dictionary other with
    | nil => exact start
    | cons head _ induction =>
        cases head with
        | intro values => exact induction (insert_related _ values start)
  exact along .nil

end Dictionary

/-! ## Readers -/

/-- A reader that reads related values from alike data. -/
def Relates (edited : Part → Members Data → Members Data → Prop) (content : Content)
    (read : Data → Checked α) (related : α → α → Prop) : Prop :=
  ∀ ⦃data other⦄, Alike edited .still content data other →
    Checked.Related related (read data) (read other)

section Readers

variable {α : Type} {edited : Part → Members Data → Members Data → Prop}
  {read : Data → Checked α} {related : α → α → Prop}

theorem relates_plain (edited : Part → Members Data → Members Data → Prop)
    (read : Data → Checked α) : Relates edited .plain read Eq := by
  intro data other alike
  rw [alike.eq_of_plain]
  exact .refl (fun _ => rfl) _

theorem Relates.items {part : Part} (relates : Relates edited (.part part) read related)
    {index : Nat} {items others : List Data}
    (alike : ItemsAlike edited .still part index items others) :
    List.Forall₂ (Checked.Related related) (items.map fun item => (read item).bare)
      (others.map fun item => (read item).bare) := by
  induction items generalizing index others with
  | nil =>
      cases alike
      exact .nil
  | cons item items induction =>
      cases alike with
      | cons head tail => exact .cons (Checked.Related.bare_iff.mpr (relates head)) (induction tail)

theorem Relates.list {part : Part} (relates : Relates edited (.part part) read related) :
    Relates edited (.list part) (Shape.list read) (List.Forall₂ related) := by
  intro data other alike
  rcases alike.list_cases with ⟨kind, items, others, rfl, rfl, alikeItems⟩ | ⟨rfl, noList⟩
  · rw [← Checked.Related.bare_iff, bare_list, bare_list]
    exact .collect (relates.items alikeItems)
  · unfold Shape.list
    split
    next kind items layer =>
      cases other <;> cases layer
      · exact absurd rfl (noList .list _)
      · exact absurd rfl (noList .tuple _)
      · exact absurd rfl (noList .set _)
    next => exact .refuse ..

theorem Relates.entries {part : Part} (relates : Relates edited (.part part) read related)
    {entries others : Members Data} (alike : ValuesAlike edited .still part entries others) :
    List.Forall₂ (Checked.Related (Named related)) (entries.map (readEntry read))
      (others.map (readEntry read)) := by
  induction entries generalizing others with
  | nil =>
      cases alike
      exact .nil
  | cons entry entries induction =>
      cases alike with
      | @cons _ _ key value other _ others head tail =>
          refine .cons (.seq ?_ (Checked.Related.bare_iff.mpr (relates head))) (induction tail)
          refine .map ?_ (.refl (fun _ => rfl) (textOf key).bare)
          rintro name _ rfl _ _ values
          exact .intro values

theorem Relates.named {part : Part} (relates : Relates edited (.part part) read related) :
    Relates edited (.named part) (Shape.dictionary read) (List.Forall₂ (Named related)) := by
  intro data other alike
  have values {entries others : Members Data}
      (values : ValuesAlike edited .still part entries others) :
      Checked.Related (List.Forall₂ (Named related)) (dictionary read (.mapping entries))
        (dictionary read (.mapping others)) := by
    rw [← Checked.Related.bare_iff, bare_dictionary, bare_dictionary]
    exact .map Dictionary.ofEntries_related (.collect (relates.entries values))
  rcases alike.named_cases with ⟨entries, others, rfl, rfl, -, alikeValues⟩ |
    ⟨entries, others, rfl, rfl, -, alikeValues⟩ | ⟨rfl, noMapping⟩
  · exact values alikeValues
  · rw [arrange_of_unmoved Ranks.still_here] at alikeValues
    exact values alikeValues
  · cases other with
    | mapping entries => exact absurd rfl (noMapping entries)
    | _ => exact .refuse ..

/-- A member that may be missing is related if what it holds is. -/
theorem Relates.optional {content : Content} (relates : Relates edited content read related)
    {entries others : Members Data} {wire own : Text}
    (held : Option.Rel (Alike edited .still content) (entries.held? ⟨wire, own, content⟩)
      (others.held? ⟨wire, own, content⟩)) :
    Checked.Related (Option.Rel related) (entries.optional wire own read)
      (others.optional wire own read) := by
  rw [← Checked.Related.bare_iff, bare_optional entries wire own content,
    bare_optional others wire own content]
  cases here : entries.held? ⟨wire, own, content⟩ <;>
    cases there : others.held? ⟨wire, own, content⟩ <;> rw [here, there] at held <;> cases held
  · exact .valid .none
  next both => exact .map .some (Checked.Related.bare_iff.mpr (relates both))

end Readers

end ApiTypes
