import ApiTypes.Proofs.AlikeReadings
import Mathlib.Data.List.Forall2
import Mathlib.Data.List.Induction
import Mathlib.Data.List.Nodup

/-!
# Names that keys stand for

Keys of a mapping that differ may stand for one name.  A dictionary has each name once,
at the place of the first key that stands for it, and with the value of the last one.
-/

namespace ApiTypes

open Shape

namespace Shape.Checked

variable {α β γ : Type}

theorem map_eq_valid_iff {function : α → β} {checked : Checked α} {result : β} :
    function <$> checked = .valid result ↔
      ∃ value, checked = .valid value ∧ function value = result := by
  cases checked <;> simp [Functor.map, Checked.map]

theorem seq_eq_valid_iff {function : Checked (α → β)} {checked : Checked α} {result : β} :
    function <*> checked = .valid result ↔
      ∃ applied value, function = .valid applied ∧ checked = .valid value ∧
        applied value = result := by
  cases function <;> cases checked <;> simp [Seq.seq, Checked.seq]

theorem under_eq_valid_iff {step : Step} {checked : Checked α} {value : α} :
    checked.under step = .valid value ↔ checked = .valid value := by
  cases checked <;> simp [under]

theorem forall₂_of_collect_eq_valid {items : List γ} {read : γ → Checked α} {values : List α}
    (collected : collect (items.map read) = .valid values) :
    List.Forall₂ (fun item value => read item = .valid value) items values := by
  have same := List.forall₂_eq_eq_eq.symm ▸ collect_eq_valid_iff.mp collected
  rwa [List.forall₂_map_left_iff, List.forall₂_map_right_iff] at same

end Shape.Checked

namespace Dictionary

variable {α : Type}

theorem ofEntries_concat (entries : List (Text × α)) (name : Text) (value : α) :
    ofEntries (entries ++ [(name, value)]) = insert name value (ofEntries entries) :=
  List.foldl_append

/-- A new name comes last, and the others stay where they are. -/
theorem names_insert (name : Text) (value : α) (dictionary : Dictionary α) :
    (insert name value dictionary).map Prod.fst =
      if name ∈ dictionary.map Prod.fst then dictionary.map Prod.fst
      else dictionary.map Prod.fst ++ [name] := by
  induction dictionary with
  | nil => rfl
  | cons entry entries induction =>
      obtain ⟨present, old⟩ := entry
      by_cases same : present = name
      · simp [insert, same]
      · have other : name ≠ present := Ne.symm same
        rw [insert, if_neg same, List.map_cons, induction]
        by_cases later : name ∈ entries.map Prod.fst <;> simp_all

/-- The value of the first entry under a name. -/
def find? (entries : List (Text × α)) (name : Text) : Option α :=
  (List.find? (fun entry => entry.1 = name) entries).map Prod.snd

theorem find?_cons (entry : Text × α) (entries : List (Text × α)) (name : Text) :
    find? (entry :: entries) name =
      if entry.1 = name then some entry.2 else find? entries name := by
  by_cases same : entry.1 = name <;> simp [find?, same]

theorem find?_insert (name other : Text) (value : α) (dictionary : Dictionary α) :
    find? (insert name value dictionary) other =
      if name = other then some value else find? dictionary other := by
  induction dictionary with
  | nil => exact find?_cons (name, value) [] other
  | cons entry entries induction =>
      obtain ⟨present, old⟩ := entry
      by_cases same : present = name
      · subst present
        rw [insert, if_pos rfl, find?_cons, find?_cons]
        split <;> rfl
      · rw [insert, if_neg same, find?_cons, find?_cons, induction]
        dsimp only
        split
        next here => rw [if_neg (here ▸ Ne.symm same)]
        · rfl

/-- A name keeps the place of its first entry. -/
theorem names_ofEntries (entries : List (Text × α)) :
    (ofEntries entries).map Prod.fst = (entries.map Prod.fst).eraseDups := by
  induction entries using List.reverseRecOn with
  | nil => rfl
  | append_singleton entries entry induction =>
      obtain ⟨name, value⟩ := entry
      rw [ofEntries_concat, names_insert, induction, List.map_append, List.eraseDups_append]
      by_cases present : name ∈ entries.map Prod.fst
      · simp [present, List.removeAll]
      · simp [present, List.removeAll, List.eraseDups_cons]

/-- A name gets the value of its last entry. -/
theorem find?_ofEntries (entries : List (Text × α)) (name : Text) :
    find? (ofEntries entries) name = find? entries.reverse name := by
  induction entries using List.reverseRecOn with
  | nil => rfl
  | append_singleton entries entry induction =>
      rw [ofEntries_concat, find?_insert, induction, List.reverse_append, List.reverse_singleton,
        List.singleton_append, find?_cons]

theorem nodup_names_ofEntries (entries : List (Text × α)) :
    ((ofEntries entries).map Prod.fst).Nodup := by
  induction entries using List.reverseRecOn with
  | nil => exact .nil
  | append_singleton entries entry induction =>
      obtain ⟨name, value⟩ := entry
      rw [ofEntries_concat, names_insert]
      split
      · exact induction
      next absent =>
        refine List.nodup_append.mpr ⟨induction, List.nodup_singleton name, ?_⟩
        rintro present isName _ isLast rfl
        exact absent (List.mem_singleton.mp isLast ▸ isName)

theorem find?_eq_some_of_mem {dictionary : Dictionary α}
    (distinct : (dictionary.map Prod.fst).Nodup) {name : Text} {value : α}
    (present : (name, value) ∈ dictionary) : find? dictionary name = some value := by
  induction dictionary with
  | nil => cases present
  | cons entry entries induction =>
      obtain ⟨absent, othersDistinct⟩ := List.nodup_cons.mp distinct
      rw [find?_cons]
      rcases List.mem_cons.mp present with rfl | later
      · exact if_pos rfl
      · have other : entry.1 ≠ name := by
          rintro rfl
          exact absent (List.mem_map.mpr ⟨_, later, rfl⟩)
        rw [if_neg other, induction othersDistinct later]

end Dictionary

/-! ## Places under keys -/

section Places

variable {Place : Type} {α : Type}

/-- The place of the last entry with a key that stands for a name. -/
def lastNamed? (entries : Members Place) (name : Text) : Option Place :=
  (List.find? (fun entry => entry.1.keyName = name) entries.reverse).map Prod.snd

/-- The names that the keys of entries stand for, each at its first place. -/
def keyNames (entries : Members Place) : List Text :=
  (entries.map fun entry => entry.1.keyName).eraseDups

/-- The names are those that the keys of entries stand for, and every key stands for one. -/
structure NamedAfter (entries : Members Place) (names : List Text) : Prop where
  written : ∀ entry ∈ entries, textOf entry.1 = .valid entry.1.keyName
  names_eq : names = keyNames entries

/-- Named values that are read at the places of entries.  A name keeps the place of the first key
that stands for it and gets the value of the last one. -/
structure Gathers (reads : Place → α → Prop) (entries : Members Place)
    (named : List (Text × α)) : Prop where
  names : NamedAfter entries (named.map Prod.fst)
  distinct : (named.map Prod.fst).Nodup
  last : ∀ name value, (name, value) ∈ named →
    ∃ place, lastNamed? entries name = some place ∧ reads place value

theorem gathers_nil (reads : Place → α → Prop) : Gathers reads [] [] where
  names := ⟨nofun, rfl⟩
  distinct := .nil
  last := nofun

/-- An entry stands for a named value. -/
def NamesValue (reads : Place → α → Prop) (entry : Data × Place) (named : Text × α) : Prop :=
  textOf entry.1 = .valid named.1 ∧ reads entry.2 named.2

variable {reads : Place → α → Prop}

theorem NamesValue.keyName_eq {entry : Data × Place} {named : Text × α}
    (names : NamesValue reads entry named) : entry.1.keyName = named.1 := by
  rw [Data.keyName, names.1]

theorem exists_find?_of_namesValue {entries : Members Place} {named : List (Text × α)}
    (related : List.Forall₂ (NamesValue reads) entries named) {name : Text} {value : α}
    (found : Dictionary.find? named name = some value) :
    ∃ place, (List.find? (fun entry => entry.1.keyName = name) entries).map Prod.snd = some place ∧
      reads place value := by
  induction related with
  | nil => cases found
  | @cons entry first entries others names related induction =>
      have keyName := names.keyName_eq
      rw [Dictionary.find?_cons] at found
      by_cases same : first.1 = name
      · obtain rfl : first.2 = value := by simpa [same] using found
        exact ⟨entry.2, by simp [keyName, same], names.2⟩
      · obtain ⟨place, placeFound, placeReads⟩ := induction (by simpa [same] using found)
        exact ⟨place, by simpa [keyName, same] using placeFound, placeReads⟩

theorem namedAfter_ofEntries {entries : Members Place} {named : List (Text × α)}
    (related : List.Forall₂ (NamesValue reads) entries named) :
    NamedAfter entries ((Dictionary.ofEntries named).map Prod.fst) := by
  constructor
  · intro entry isEntry
    obtain ⟨index, inside, rfl⟩ := List.mem_iff_getElem.mp isEntry
    have namedInside := related.length_eq ▸ inside
    have names : NamesValue reads entries[index] named[index] := related.get inside namedInside
    rw [names.keyName_eq]
    exact names.1
  · rw [Dictionary.names_ofEntries, keyNames]
    congr 1
    induction related with
    | nil => rfl
    | cons names related induction => rw [List.map_cons, List.map_cons, induction, names.keyName_eq]

theorem gathers_ofEntries {entries : Members Place} {named : List (Text × α)}
    (related : List.Forall₂ (NamesValue reads) entries named) :
    Gathers reads entries (Dictionary.ofEntries named) where
  names := namedAfter_ofEntries related
  distinct := Dictionary.nodup_names_ofEntries named
  last name value present := by
    have found := Dictionary.find?_eq_some_of_mem (Dictionary.nodup_names_ofEntries named) present
    rw [Dictionary.find?_ofEntries] at found
    exact exists_find?_of_namesValue (List.forall₂_reverse_iff.mpr related) found

theorem entry_eq_valid_iff {read : Place → Checked α} {key : Data} {place : Place} {name : Text}
    {value : α} :
    Shape.entry read key place = .valid (name, value) ↔
      textOf key = .valid name ∧ read place = .valid value := by
  simp [Shape.entry, Checked.map_seq_eq_valid_iff, Checked.under_eq_valid_iff, Checked.labelled]

/-- A dictionary has the values that are read at the places of its entries. -/
theorem exists_gathers_of_dictionary_eq_valid [View Place] {read : Place → Checked α}
    {place : Place} {named : Dictionary α} (valid : dictionary read place = .valid named) :
    ∃ entries, View.layer place = .mapping entries ∧
      Gathers (fun place value => read place = .valid value) entries named := by
  unfold dictionary at valid
  split at valid
  next entries layer =>
    obtain ⟨values, collected, rfl⟩ := Checked.map_eq_valid_iff.mp valid
    refine ⟨entries, layer, gathers_ofEntries ?_⟩
    apply (Checked.forall₂_of_collect_eq_valid collected).imp
    intro entry value entryValid
    exact entry_eq_valid_iff.mp entryValid
  · cases valid

end Places

end ApiTypes
