import ApiTypes.Proofs.Outcomes
import ApiTypes.Yaml.Load

/-!
# Steps of loading

What loading a document keeps.  The only changes are values that nodes get, collections
that are reached and merge keys that are resolved, so a property that these keep is kept
by every step and by loading as a whole.
-/

namespace ApiTypes.Yaml

/-- An invariant of loading, a property of the values that nodes get, and one of the faults. -/
structure Maintained (invariant : Loading → Prop) (accepts : Value → Prop)
    (admits : Fault → Prop) : Prop where
  malformed : admits .malformed
  valueOf {loading : Loading} (number : Nat) : invariant loading →
    Ends accepts admits (loading.document.valueOf number)
  stored {loading : Loading} {number : Nat} {value : Value} : invariant loading →
    loading.values[number]?.join = some value → accepts value
  withValue {loading : Loading} {value : Value} (number : Nat) : invariant loading → accepts value →
    invariant { loading with values := loading.values.setIfInBounds number (some value) }
  withReached {loading : Loading} (reached : List Nat) : invariant loading →
    invariant { loading with reached }
  resolve {loading : Loading} {number : Nat} : invariant loading →
    loading.document.isMapping number = true →
    Ends (fun document => invariant { loading with document }) admits
      (loading.document.resolve number)
  ofList (items : List Nat) : accepts (.collection (.list items))
  ofPairs (pairs : List (Nat × Nat)) : accepts (.collection (.pairs pairs))
  ofNoEntries : accepts (.collection (.mapping []))
  insertEntry {key : Scalar} {entries : List (Scalar × Nat)} (value : Nat) :
    accepts (.scalar key) → accepts (.collection (.mapping entries)) →
    accepts (.collection (.mapping (Collection.insertEntry key value entries)))
  ofKeys {entries : List (Scalar × Nat)} : accepts (.collection (.mapping entries)) →
    accepts (.collection (.set (entries.map Prod.fst)))

namespace Maintained

open Loader

variable {invariant : Loading → Prop} {accepts : Value → Prop} {admits : Fault → Prop}

theorem keeps_reach (maintained : Maintained invariant accepts admits) (number : Nat) :
    Keeps invariant admits accepts (reach number) := by
  apply Keeps.bind Keeps.get
  intro loading kept
  split
  next value found => exact Keeps.pure (maintained.stored kept found)
  · apply Keeps.bind Keeps.get
    intro loading kept
    apply Keeps.bind (Keeps.lift (maintained.valueOf number kept))
    intro value isAccepted
    apply Keeps.bind
    · apply Keeps.modify
      intro loading kept
      exact maintained.withReached _ (maintained.withValue number kept isAccepted)
    · intro _ _
      exact Keeps.pure isAccepted

theorem keeps_discard_reach (maintained : Maintained invariant accepts admits) (number : Nat) :
    Keeps invariant admits (fun _ => True) (discard (reach number)) :=
  Keeps.bind (maintained.keeps_reach number) fun _ _ => Keeps.pure trivial

theorem keeps_items (maintained : Maintained invariant accepts admits) (number : Nat) :
    Keeps invariant admits (fun _ => True) (items number) := by
  apply Keeps.bind Keeps.get
  intro loading _
  split
  · exact Keeps.pure trivial
  · exact Keeps.throw maintained.malformed

theorem keeps_list (maintained : Maintained invariant accepts admits) (number : Nat) :
    Keeps invariant admits (fun _ => True) (Loader.list number) := by
  apply Keeps.bind (maintained.keeps_items number)
  intro items _
  apply Keeps.bind
  · apply Keeps.forM
    intro item _
    exact maintained.keeps_discard_reach item
  · intro _ _
    exact Keeps.pure trivial

theorem keeps_pairs (maintained : Maintained invariant accepts admits) (number : Nat) :
    Keeps invariant admits (fun _ => True) (Loader.pairs number) := by
  apply Keeps.bind (maintained.keeps_items number)
  intro items _
  apply Keeps.mapM
  intro item _
  apply Keeps.bind Keeps.get
  intro loading _
  split
  next key value _ =>
    apply Keeps.bind (maintained.keeps_discard_reach key)
    intro _ _
    apply Keeps.bind (maintained.keeps_discard_reach value)
    intro _ _
    exact Keeps.pure trivial
  · exact Keeps.throw maintained.malformed

theorem keeps_entries (maintained : Maintained invariant accepts admits) (number : Nat) :
    Keeps invariant admits (fun entries => accepts (.collection (.mapping entries)))
      (entries number) := by
  apply Keeps.bind Keeps.get
  intro loading kept
  dsimp only
  split
  next isMapping =>
    apply Keeps.bind (Keeps.lift (maintained.resolve kept isMapping))
    intro document documentKept
    refine Keeps.bind (Keeps.set documentKept) fun _ _ => ?_
    apply Keeps.foldlM
    · exact maintained.ofNoEntries
    · rintro entries isAccepted ⟨key, value⟩ _
      apply Keeps.bind (maintained.keeps_reach key)
      intro keyValue keyAccepted
      split
      · apply Keeps.bind (maintained.keeps_discard_reach value)
        intro _ _
        exact Keeps.pure (maintained.insertEntry value keyAccepted isAccepted)
      · exact Keeps.throw maintained.malformed
  · exact Keeps.throw maintained.malformed

theorem keeps_fill (maintained : Maintained invariant accepts admits) (number : Nat) :
    Keeps invariant admits (fun _ => True) (fill number) := by
  unfold fill
  extract_lets finish
  have finishes {collection : Collection} (isAccepted : accepts (.collection collection)) :
      Keeps invariant admits (fun _ => True) (finish collection) := by
    apply Keeps.modify
    intro loading kept
    exact maintained.withValue number kept isAccepted
  apply Keeps.bind Keeps.get
  intro loading _
  split
  · exact Keeps.bind (maintained.keeps_entries number) fun _ isAccepted =>
      finishes (maintained.ofKeys isAccepted)
  · exact Keeps.bind (maintained.keeps_entries number) fun _ isAccepted => finishes isAccepted
  · exact Keeps.bind (maintained.keeps_pairs number) fun pairs _ =>
      finishes (maintained.ofPairs pairs)
  · exact Keeps.bind (maintained.keeps_pairs number) fun pairs _ =>
      finishes (maintained.ofPairs pairs)
  · exact Keeps.bind (maintained.keeps_list number) fun items _ =>
      finishes (maintained.ofList items)

theorem keeps_fillLevels (maintained : Maintained invariant accepts admits) (fuel : Nat) :
    Keeps invariant admits (fun _ => True) (fillLevels fuel) := by
  induction fuel with
  | zero => exact Keeps.pure trivial
  | succ fuel induction =>
      unfold fillLevels
      apply Keeps.bind Keeps.get
      intro loading _
      extract_lets level
      apply Keeps.bind
      · apply Keeps.modify
        intro loading kept
        exact maintained.withReached [] kept
      · intro _ _
        apply Keeps.bind
        · apply Keeps.forM
          intro number _
          exact maintained.keeps_fill number
        · intro _ _
          split
          · exact Keeps.pure trivial
          · exact induction

/-- The data of a document is assembled from values for which the invariant holds. -/
theorem ends_load {acceptsData : Data → Prop} {order : SetOrder} {document : Document}
    (maintained : Maintained invariant accepts admits)
    (start : invariant
      { document, values := Array.replicate document.nodes.size none, reached := [] })
    (assembles : ∀ loading, invariant loading →
      acceptsData (assemble order loading.values (document.nodes.size + 1) [] document.root)) :
    Ends acceptsData admits (document.load order) := by
  unfold Document.load
  apply Ends.bind (maintained.keeps_reach document.root _ start)
  rintro ⟨value, reached⟩ ⟨_, reachedKept⟩
  apply Ends.bind (maintained.keeps_fillLevels (document.nodes.size + 1) reached reachedKept)
  rintro ⟨_, loaded⟩ ⟨_, loadedKept⟩
  exact assembles loaded loadedKept

end Maintained

end ApiTypes.Yaml
