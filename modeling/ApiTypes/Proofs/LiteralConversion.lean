import ApiTypes.Proofs.DistinctKeys
import ApiTypes.Proofs.FaultyNodes
import ApiTypes.Proofs.IntegerRange
import Mathlib.Data.List.TakeWhile

/-!
# Conversion of data to literals

Conversion goes through data in order and does not look at the values of entries that
it leaves out.  It stops at the first part for which there is no literal.  Up to there
it reports every key that is no text, and if it comes to the end, the literal is a copy
of all that it has looked at.
-/

namespace ApiTypes

namespace Logged

/-- Of two computations one after another, the second one is reported if the first one succeeds. -/
theorem events_bind_bind_pure (first : Logged ε α) (second : Logged ε β) (result : α → β → γ) :
    (first >>= fun left => second >>= fun right => pure (result left right)).events =
      first.events ++ if (faultOf? first.outcome).isNone then second.events else [] := by
  obtain ⟨events, outcome⟩ := first
  obtain ⟨others, otherOutcome⟩ := second
  cases outcome <;> cases otherOutcome <;>
    simp [bind, Logged.bind, pure, Logged.pure, faultOf?]

theorem events_bind_pure (computation : Logged ε α) (result : α → β) :
    (computation >>= fun value => pure (result value)).events = computation.events := by
  obtain ⟨events, outcome⟩ := computation
  cases outcome <;> simp [bind, Logged.bind, pure, Logged.pure]

end Logged

/-- What conversion comes to: a part of the data, or a key that is no text. -/
inductive Encounter where
  | node (data : Data)
  | strayKey (key : Data)

namespace Encounter

def node? : Encounter → Option Data
  | .node data => some data
  | .strayKey _ => none

def strayKey? : Encounter → Option Data
  | .node _ => none
  | .strayKey key => some key

/-- Conversion goes on behind this. -/
def isSound : Encounter → Bool
  | .node data => data.literalFault?.isNone
  | .strayKey _ => true

/-- The keys among what conversion comes to before it stops. -/
def keysMet (encounters : List Encounter) : List Data :=
  (encounters.takeWhile isSound).filterMap strayKey?

theorem keysMet_append (first second : List Encounter) :
    keysMet (first ++ second) =
      keysMet first ++ if first.all isSound then keysMet second else [] := by
  induction first with
  | nil => simp [keysMet]
  | cons encounter first induction =>
      unfold keysMet at induction ⊢
      cases sound : encounter.isSound with
      | false => simp [sound]
      | true =>
          cases encounter <;>
            simpa [sound, strayKey?, List.filterMap_cons] using induction

end Encounter

namespace Data

open Encounter (keysMet)

mutual

/-- The parts of data and the keys that are no texts, in the order in which conversion comes to
them.  It does not come to what stands under such a key. -/
def encounters : Data → List Encounter
  | .list items => .node (.list items) :: itemsEncounters items
  | .tuple items => .node (.tuple items) :: itemsEncounters items
  | .mapping entries => .node (.mapping entries) :: entriesEncounters entries
  | data => [.node data]

def itemsEncounters : List Data → List Encounter
  | [] => []
  | item :: items => encounters item ++ itemsEncounters items

/-- List counterpart of `encounters` for the entries of a mapping. -/
def entriesEncounters : List (Data × Data) → List Encounter
  | [] => []
  | (.text _, value) :: entries => encounters value ++ entriesEncounters entries
  | (key, _) :: entries => .strayKey key :: entriesEncounters entries

end

mutual

theorem filterMap_node?_encounters (data : Data) :
    data.encounters.filterMap Encounter.node? = data.live := by
  cases data with
  | list items => exact congrArg (List.cons _) (filterMap_node?_itemsEncounters items)
  | tuple items => exact congrArg (List.cons _) (filterMap_node?_itemsEncounters items)
  | mapping entries => exact congrArg (List.cons _) (filterMap_node?_entriesEncounters entries)
  | _ => rfl

/-- List counterpart of `filterMap_node?_encounters`. -/
theorem filterMap_node?_itemsEncounters (items : List Data) :
    (itemsEncounters items).filterMap Encounter.node? = liveItems items := by
  cases items with
  | nil => rfl
  | cons item items =>
      rw [itemsEncounters, List.filterMap_append, filterMap_node?_encounters item,
        filterMap_node?_itemsEncounters items, liveItems]

/-- Counterpart of `filterMap_node?_encounters` for the entries of a mapping. -/
theorem filterMap_node?_entriesEncounters (entries : List (Data × Data)) :
    (entriesEncounters entries).filterMap Encounter.node? = liveEntries entries := by
  cases entries with
  | nil => rfl
  | cons entry entries =>
      obtain ⟨key, value⟩ := entry
      cases key with
      | text name =>
          rw [entriesEncounters, List.filterMap_append, filterMap_node?_encounters value,
            filterMap_node?_entriesEncounters entries, liveEntries]
      | _ => exact filterMap_node?_entriesEncounters entries

end

theorem all_isSound_eq (encounters : List Encounter) :
    encounters.all Encounter.isSound =
      ((encounters.filterMap Encounter.node?).findSome? literalFault?).isNone := by
  induction encounters with
  | nil => rfl
  | cons encounter encounters induction =>
      cases encounter with
      | strayKey key => exact induction
      | node data =>
          rw [List.all_cons, induction]
          cases fault : data.literalFault? <;> simp [Encounter.isSound, Encounter.node?, fault]

theorem all_isSound_encounters (data : Data) :
    data.encounters.all Encounter.isSound = (faultOf? (Literal.ofData data).outcome).isNone := by
  rw [all_isSound_eq, filterMap_node?_encounters, faultOf?_ofData]

mutual

/-- Conversion reports the keys that it comes to before it stops. -/
theorem events_ofData (data : Data) :
    (Literal.ofData data).events = (keysMet data.encounters).map .keyDropped := by
  cases data with
  | list items => exact (Logged.events_bind_pure _ _).trans (events_ofItems items)
  | tuple items => exact (Logged.events_bind_pure _ _).trans (events_ofItems items)
  | mapping entries => exact (Logged.events_bind_pure _ _).trans (events_ofEntries entries)
  | integer value =>
      have single : keysMet (Data.integer value).encounters = [] := by
        cases sound : (Encounter.node (.integer value)).isSound <;>
          simp [keysMet, encounters, sound, Encounter.strayKey?]
      rw [single, Literal.ofData]
      cases Double.ofInt? value <;> rfl
  | _ => rfl

/-- List counterpart of `events_ofData`. -/
theorem events_ofItems (items : List Data) :
    (Literal.ofItems items).events = (keysMet (itemsEncounters items)).map .keyDropped := by
  cases items with
  | nil => rfl
  | cons item items =>
      rw [Literal.ofItems, Logged.events_bind_bind_pure, events_ofData item, events_ofItems items,
        itemsEncounters, Encounter.keysMet_append, all_isSound_encounters, List.map_append]
      split <;> rfl

/-- Counterpart of `events_ofData` for the entries of a mapping. -/
theorem events_ofEntries (entries : List (Data × Data)) :
    (Literal.ofEntries entries).events =
      (keysMet (entriesEncounters entries)).map .keyDropped := by
  cases entries with
  | nil => rfl
  | cons entry entries =>
      obtain ⟨key, value⟩ := entry
      cases key with
      | text name =>
          rw [Literal.ofEntries, Logged.events_bind_bind_pure, events_ofData value,
            events_ofEntries entries, entriesEncounters, Encounter.keysMet_append,
            all_isSound_encounters, List.map_append]
          split <;> rfl
      | _ => exact congrArg (List.cons _) (events_ofEntries entries)

end

/-! ## Parts without a literal -/

mutual

theorem isTree_of_mem_live {data : Data} (tree : data.isTree = true) {node : Data}
    (isLive : node ∈ data.live) : node.isTree = true := by
  cases data with
  | list items =>
      rcases List.mem_cons.mp isLive with rfl | inside
      · exact tree
      · exact isTree_of_mem_liveItems tree inside
  | tuple items =>
      rcases List.mem_cons.mp isLive with rfl | inside
      · exact tree
      · exact isTree_of_mem_liveItems tree inside
  | mapping entries =>
      rcases List.mem_cons.mp isLive with rfl | inside
      · exact tree
      · exact isTree_of_mem_liveEntries tree inside
  | _ =>
      obtain rfl := List.mem_singleton.mp isLive
      exact tree

/-- List counterpart of `isTree_of_mem_live`. -/
theorem isTree_of_mem_liveItems {items : List Data} (trees : areTrees items = true) {node : Data}
    (isLive : node ∈ liveItems items) : node.isTree = true := by
  cases items with
  | nil => cases isLive
  | cons item items =>
      obtain ⟨tree, others⟩ := Bool.and_eq_true_iff.mp trees
      rcases List.mem_append.mp isLive with here | later
      · exact isTree_of_mem_live tree here
      · exact isTree_of_mem_liveItems others later

/-- Counterpart of `isTree_of_mem_live` for the entries of a mapping. -/
theorem isTree_of_mem_liveEntries {entries : List (Data × Data)}
    (trees : areEntryTrees entries = true) {node : Data} (isLive : node ∈ liveEntries entries) :
    node.isTree = true := by
  cases entries with
  | nil => cases isLive
  | cons entry entries =>
      obtain ⟨key, value⟩ := entry
      obtain ⟨here, others⟩ := Bool.and_eq_true_iff.mp trees
      cases key with
      | text name =>
          rcases List.mem_append.mp isLive with inside | later
          · exact isTree_of_mem_live (Bool.and_eq_true_iff.mp here).2 inside
          · exact isTree_of_mem_liveEntries others later
      | _ => exact isTree_of_mem_liveEntries others isLive

end

end Data

/-! ## Copies -/

namespace Literal

mutual

/-- A literal has the shape of data, but for the entries whose key is no text.  The keys of its
maps are distinct texts. -/
inductive Copies : Data → Literal → Prop
  | null : Copies .null .null
  | boolean (value : Bool) : Copies (.boolean value) (.boolean value)
  | integer (value : Int) : Copies (.integer value) (.number (Double.nearestInt value))
  | float (value : Double) : Copies (.float value) (.number value)
  | text (content : Text) : Copies (.text content) (.text content)
  | date (value : Date) : Copies (.date value) (.text value.isoText)
  | dateTime (value : DateTime) : Copies (.dateTime value) (.text value.isoText)
  | list {items : List Data} {literals : List Literal} (copies : CopyItems items literals) :
      Copies (.list items) (.list literals)
  | tuple {items : List Data} {literals : List Literal} (copies : CopyItems items literals) :
      Copies (.tuple items) (.list literals)
  | mapping {entries : List (Data × Data)} {named : List (Text × Literal)}
      (copies : CopyEntries entries named) (distinct : (named.map Prod.fst).Nodup) :
      Copies (.mapping entries) (.map (named.map fun (name, literal) => (.text name, literal)))

/-- A literal for each item. -/
inductive CopyItems : List Data → List Literal → Prop
  | nil : CopyItems [] []
  | cons {item : Data} {items : List Data} {literal : Literal} {literals : List Literal}
      (head : Copies item literal) (tail : CopyItems items literals) :
      CopyItems (item :: items) (literal :: literals)

/-- A literal for the value of each entry whose key is a text. -/
inductive CopyEntries : List (Data × Data) → List (Text × Literal) → Prop
  | nil : CopyEntries [] []
  | named {name : Text} {value : Data} {entries : List (Data × Data)} {literal : Literal}
      {named : List (Text × Literal)} (head : Copies value literal)
      (tail : CopyEntries entries named) :
      CopyEntries ((.text name, value) :: entries) ((name, literal) :: named)
  | stray {key value : Data} {entries : List (Data × Data)} {named : List (Text × Literal)}
      (noText : ∀ name, key ≠ .text name) (tail : CopyEntries entries named) :
      CopyEntries ((key, value) :: entries) named

end

theorem CopyEntries.mem_keys {entries : List (Data × Data)} {named : List (Text × Literal)}
    (copies : CopyEntries entries named) {name : Text} (isName : name ∈ named.map Prod.fst) :
    .text name ∈ entries.map Prod.fst := by
  induction entries generalizing named with
  | nil =>
      cases copies
      cases isName
  | cons entry entries induction =>
      cases copies with
      | named head tail =>
          rcases List.mem_cons.mp isName with rfl | later
          · exact List.mem_cons_self
          · exact List.mem_cons_of_mem _ (induction tail later)
      | stray noText tail => exact List.mem_cons_of_mem _ (induction tail isName)

theorem CopyEntries.nodup {entries : List (Data × Data)} {named : List (Text × Literal)}
    (copies : CopyEntries entries named) (distinct : HasDistinctKeys entries) :
    (named.map Prod.fst).Nodup := by
  induction entries generalizing named with
  | nil =>
      cases copies
      exact .nil
  | cons entry entries induction =>
      obtain ⟨unlike, othersDistinct⟩ := List.pairwise_cons.mp distinct
      cases copies with
      | @named name value _ literal others head tail =>
          refine List.nodup_cons.mpr ⟨?_, induction tail othersDistinct⟩
          intro again
          obtain ⟨other, present, keyEq⟩ := List.mem_map.mp (tail.mem_keys again)
          have same := unlike other present
          rw [keyEq] at same
          simp [Data.sameKey] at same
      | stray noText tail => exact induction tail othersDistinct

mutual

theorem copies_of_ofData {data : Data} (distinct : data.hasDistinctKeys = true)
    {literal : Literal} (success : (ofData data).outcome = .ok literal) : Copies data literal := by
  cases data with
  | null =>
      obtain rfl := Except.ok.inj success
      exact .null
  | boolean value =>
      obtain rfl := Except.ok.inj success
      exact .boolean value
  | integer value =>
      rw [ofData, Double.ofInt?] at success
      cases near : Double.nearestInt value with
      | infinite negative =>
          rw [near] at success
          cases success
      | _ =>
          rw [near] at success
          obtain rfl := Except.ok.inj success
          rw [← near]
          exact .integer value
  | float value =>
      obtain rfl := Except.ok.inj success
      exact .float value
  | text content =>
      obtain rfl := Except.ok.inj success
      exact .text content
  | date value =>
      obtain rfl := Except.ok.inj success
      exact .date value
  | dateTime value =>
      obtain rfl := Except.ok.inj success
      exact .dateTime value
  | list items =>
      rw [ofData] at success
      obtain ⟨literals, itemsSuccess, rfl⟩ := Logged.exists_of_outcome_bind_pure_eq_ok success
      exact .list (copyItems_of_ofItems distinct itemsSuccess)
  | tuple items =>
      rw [ofData] at success
      obtain ⟨literals, itemsSuccess, rfl⟩ := Logged.exists_of_outcome_bind_pure_eq_ok success
      exact .tuple (copyItems_of_ofItems distinct itemsSuccess)
  | mapping entries =>
      rw [ofData] at success
      obtain ⟨literals, entriesSuccess, rfl⟩ := Logged.exists_of_outcome_bind_pure_eq_ok success
      obtain ⟨keysDistinct, valuesDistinct⟩ := Bool.and_eq_true_iff.mp distinct
      obtain ⟨named, rfl, copies⟩ := copyEntries_of_ofEntries valuesDistinct entriesSuccess
      exact .mapping copies (copies.nodup (of_decide_eq_true keysDistinct))
  | bytes content => cases success
  | set items => cases success
  | enclosing up => cases success

/-- List counterpart of `copies_of_ofData`. -/
theorem copyItems_of_ofItems {items : List Data} (distinct : Data.haveDistinctKeys items = true)
    {literals : List Literal} (success : (ofItems items).outcome = .ok literals) :
    CopyItems items literals := by
  cases items with
  | nil =>
      obtain rfl := Except.ok.inj success
      exact .nil
  | cons item items =>
      rw [ofItems] at success
      obtain ⟨literal, others, itemSuccess, othersSuccess, rfl⟩ :=
        Logged.exists_of_outcome_bind_bind_pure_eq_ok success
      obtain ⟨itemDistinct, othersDistinct⟩ := Bool.and_eq_true_iff.mp distinct
      exact .cons (copies_of_ofData itemDistinct itemSuccess)
        (copyItems_of_ofItems othersDistinct othersSuccess)

/-- Counterpart of `copies_of_ofData` for the entries of a mapping. -/
theorem copyEntries_of_ofEntries {entries : List (Data × Data)}
    (distinct : Data.valuesHaveDistinctKeys entries = true) {literals : List (Literal × Literal)}
    (success : (ofEntries entries).outcome = .ok literals) :
    ∃ named : List (Text × Literal),
      literals = named.map (fun (name, literal) => (.text name, literal)) ∧
        CopyEntries entries named := by
  cases entries with
  | nil =>
      obtain rfl := Except.ok.inj success
      exact ⟨[], rfl, .nil⟩
  | cons entry entries =>
      obtain ⟨key, value⟩ := entry
      obtain ⟨valueDistinct, othersDistinct⟩ := Bool.and_eq_true_iff.mp distinct
      cases key with
      | text name =>
          rw [ofEntries] at success
          obtain ⟨literal, others, valueSuccess, othersSuccess, rfl⟩ :=
            Logged.exists_of_outcome_bind_bind_pure_eq_ok success
          obtain ⟨named, rfl, copies⟩ := copyEntries_of_ofEntries othersDistinct othersSuccess
          exact ⟨(name, literal) :: named, rfl,
            .named (copies_of_ofData valueDistinct valueSuccess) copies⟩
      | _ =>
          have othersSuccess : (ofEntries entries).outcome = .ok literals := success
          obtain ⟨named, rfl, copies⟩ := copyEntries_of_ofEntries othersDistinct othersSuccess
          exact ⟨named, rfl, .stray (fun name => nofun) copies⟩

end

end Literal

end ApiTypes
