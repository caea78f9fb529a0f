import ApiTypes.Shape.Collection

/-!
# Distinct keys

The entries of a mapping have distinct keys.  A mapping that is filled entry by entry
has, and one that has them already stays as it is.
-/

namespace ApiTypes

open Shape

/-- No two entries have the same key. -/
def HasDistinctKeys (entries : Members Data) : Prop :=
  entries.Pairwise fun first second => Data.sameKey first.1 second.1 = false

instance (entries : Members Data) : Decidable (HasDistinctKeys entries) :=
  inferInstanceAs (Decidable (List.Pairwise _ _))

namespace Data

mutual

/-- The entries of every mapping in data have distinct keys. -/
def hasDistinctKeys : Data → Bool
  | .list items => haveDistinctKeys items
  | .tuple items => haveDistinctKeys items
  | .set items => haveDistinctKeys items
  | .mapping entries => decide (HasDistinctKeys entries) && valuesHaveDistinctKeys entries
  | _ => true

/-- List counterpart of `hasDistinctKeys`. -/
def haveDistinctKeys : List Data → Bool
  | [] => true
  | item :: items => hasDistinctKeys item && haveDistinctKeys items

/-- Counterpart of `hasDistinctKeys` for the values of a mapping. -/
def valuesHaveDistinctKeys : List (Data × Data) → Bool
  | [] => true
  | (_, value) :: entries => hasDistinctKeys value && valuesHaveDistinctKeys entries

end

/-- A key that is not there yet comes last. -/
theorem insert_of_unlike {key : Data} {entries : Members Data}
    (unlike : ∀ entry ∈ entries, sameKey entry.1 key = false) (value : Data) :
    insert key value entries = entries ++ [(key, value)] := by
  induction entries with
  | nil => rfl
  | cons entry entries induction =>
      obtain ⟨present, old⟩ := entry
      obtain ⟨here, others⟩ := List.forall_mem_cons.mp unlike
      rw [insert, here, if_neg Bool.false_ne_true, induction others]
      rfl

/-- Filling a mapping with entries of distinct keys gives these entries. -/
theorem ofEntries_of_hasDistinctKeys {entries : Members Data}
    (distinct : HasDistinctKeys entries) : ofEntries entries = entries := by
  have behind (others mapping : Members Data) (distinct : HasDistinctKeys (mapping ++ others)) :
      others.foldl (fun mapping entry => insert entry.1 entry.2 mapping) mapping =
        mapping ++ others := by
    induction others generalizing mapping with
    | nil => simp
    | cons entry others induction =>
        obtain ⟨key, value⟩ := entry
        have unlike : ∀ entry ∈ mapping, sameKey entry.1 key = false := by
          intro entry present
          exact (List.pairwise_append.mp distinct).2.2 entry present (key, value) (by simp)
        rw [List.foldl_cons, insert_of_unlike unlike, induction _ (by simpa using distinct)]
        simp
  exact behind entries [] distinct

theorem forall_mem_insert (keyHolds valueHolds : Data → Prop) {key value : Data}
    {entries : Members Data} (keyHeld : keyHolds key) (valueHeld : valueHolds value)
    (entriesHeld : ∀ entry ∈ entries, keyHolds entry.1 ∧ valueHolds entry.2) :
    ∀ entry ∈ insert key value entries, keyHolds entry.1 ∧ valueHolds entry.2 := by
  induction entries with
  | nil => simpa [insert] using ⟨keyHeld, valueHeld⟩
  | cons entry entries induction =>
      obtain ⟨firstHeld, othersHeld⟩ := List.forall_mem_cons.mp entriesHeld
      unfold insert
      split
      · exact List.forall_mem_cons.mpr ⟨⟨firstHeld.1, valueHeld⟩, othersHeld⟩
      · exact List.forall_mem_cons.mpr ⟨firstHeld, induction othersHeld⟩

/-- A mapping that is filled entry by entry has no other keys and values. -/
theorem forall_mem_ofEntries (keyHolds valueHolds : Data → Prop) {entries : Members Data}
    (entriesHeld : ∀ entry ∈ entries, keyHolds entry.1 ∧ valueHolds entry.2) :
    ∀ entry ∈ ofEntries entries, keyHolds entry.1 ∧ valueHolds entry.2 := by
  have fromMapping : ∀ mapping : Members Data,
      (∀ entry ∈ mapping, keyHolds entry.1 ∧ valueHolds entry.2) →
        ∀ entry ∈ entries.foldl (fun mapping entry => insert entry.1 entry.2 mapping) mapping,
          keyHolds entry.1 ∧ valueHolds entry.2 := by
    induction entries with
    | nil => exact fun mapping mappingHeld => mappingHeld
    | cons entry entries induction =>
        obtain ⟨firstHeld, othersHeld⟩ := List.forall_mem_cons.mp entriesHeld
        intro mapping mappingHeld
        exact induction othersHeld _
          (forall_mem_insert keyHolds valueHolds firstHeld.1 firstHeld.2 mappingHeld)
  exact fromMapping [] (by simp)

theorem hasDistinctKeys_insert {entries : Members Data} (distinct : HasDistinctKeys entries)
    (key value : Data) : HasDistinctKeys (insert key value entries) := by
  induction entries with
  | nil => exact List.pairwise_singleton _ _
  | cons entry entries induction =>
      obtain ⟨present, old⟩ := entry
      obtain ⟨unlike, others⟩ := List.pairwise_cons.mp distinct
      unfold insert
      split
      · exact List.pairwise_cons.mpr ⟨unlike, others⟩
      next isOther =>
        have unlikeKey : sameKey present key = false := Bool.eq_false_iff.mpr isOther
        have unlikeAll : ∀ entry ∈ insert key value entries,
            sameKey present entry.1 = false ∧ True :=
          forall_mem_insert (sameKey present · = false) (fun _ => True) unlikeKey trivial
            fun entry isEntry => ⟨unlike entry isEntry, trivial⟩
        exact List.pairwise_cons.mpr
          ⟨fun entry isEntry => (unlikeAll entry isEntry).1, induction others⟩

/-- A mapping that is filled entry by entry has distinct keys. -/
theorem hasDistinctKeys_ofEntries (entries : Members Data) :
    HasDistinctKeys (ofEntries entries) := by
  have filled (mapping : Members Data) (distinct : HasDistinctKeys mapping) :
      HasDistinctKeys
        (entries.foldl (fun mapping entry => insert entry.1 entry.2 mapping) mapping) := by
    induction entries generalizing mapping with
    | nil => exact distinct
    | cons entry entries induction =>
        exact induction _ (hasDistinctKeys_insert distinct entry.1 entry.2)
  exact filled [] .nil

end Data

end ApiTypes
