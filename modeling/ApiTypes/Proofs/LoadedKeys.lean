import ApiTypes.Proofs.JsonIntegers
import ApiTypes.Proofs.LoadingSteps
import ApiTypes.Specification

/-!
# Keys of loaded data

The mappings of JSON and of YAML are filled entry by entry, so that all mappings in
loaded data have distinct keys.  In YAML a collection may hold itself; data of JSON is
a tree.
-/

namespace ApiTypes

namespace Data

theorem areTrees_iff {items : List Data} :
    areTrees items = true ↔ ∀ item ∈ items, item.isTree = true := by
  induction items with
  | nil => simp [areTrees]
  | cons item items induction => simp [areTrees, induction]

theorem areEntryTrees_iff {entries : List (Data × Data)} :
    areEntryTrees entries = true ↔
      ∀ entry ∈ entries, entry.1.isTree = true ∧ entry.2.isTree = true := by
  induction entries with
  | nil => simp [areEntryTrees]
  | cons entry entries induction =>
      rw [areEntryTrees, Bool.and_eq_true, Bool.and_eq_true, List.forall_mem_cons, induction]

theorem haveDistinctKeys_iff {items : List Data} :
    haveDistinctKeys items = true ↔ ∀ item ∈ items, item.hasDistinctKeys = true := by
  induction items with
  | nil => simp [haveDistinctKeys]
  | cons item items induction => simp [haveDistinctKeys, induction]

theorem valuesHaveDistinctKeys_iff {entries : List (Data × Data)} :
    valuesHaveDistinctKeys entries = true ↔
      ∀ entry ∈ entries, entry.2.hasDistinctKeys = true := by
  induction entries with
  | nil => simp [valuesHaveDistinctKeys]
  | cons entry entries induction =>
      rw [valuesHaveDistinctKeys, Bool.and_eq_true, List.forall_mem_cons, induction]

theorem hasDistinctKeys_mapping {entries : List (Data × Data)} (distinct : HasDistinctKeys entries)
    (values : ∀ entry ∈ entries, entry.2.hasDistinctKeys = true) :
    (mapping entries).hasDistinctKeys = true := by
  rw [hasDistinctKeys, Bool.and_eq_true, decide_eq_true_eq]
  exact ⟨distinct, valuesHaveDistinctKeys_iff.mpr values⟩

end Data

/-! ## JSON -/

namespace Json

theorem inherited_isTree : Inherited (·.isTree = true) where
  number data isNumber _ := by cases data <;> first | rfl | cases isNumber
  text _ := rfl
  word word member := by
    simp only [words, List.mem_cons, List.not_mem_nil, or_false] at member
    rcases member with rfl | rfl | rfl | rfl | rfl | rfl <;> rfl
  list _ := Data.areTrees_iff.mpr
  mapping _ trees := Data.areEntryTrees_iff.mpr
    (Data.forall_mem_ofEntries (·.isTree = true) (·.isTree = true) trees)

theorem inherited_hasDistinctKeys : Inherited (·.hasDistinctKeys = true) where
  number data isNumber _ := by cases data <;> first | rfl | cases isNumber
  text _ := rfl
  word word member := by
    simp only [words, List.mem_cons, List.not_mem_nil, or_false] at member
    rcases member with rfl | rfl | rfl | rfl | rfl | rfl <;> rfl
  list _ := Data.haveDistinctKeys_iff.mpr
  mapping entries distinct :=
    Data.hasDistinctKeys_mapping (Data.hasDistinctKeys_ofEntries entries) fun entry isEntry =>
      (Data.forall_mem_ofEntries (·.hasDistinctKeys = true) (·.hasDistinctKeys = true)
        distinct entry isEntry).2

theorem accepts_of_load {accepts : Data → Prop} (inherited : Inherited accepts) {text : Text}
    {data : Data} (loaded : load text = .ok data) : accepts data := by
  have documentEnds := ends_document inherited text
  unfold load at loaded
  split at loaded
  next documentEq =>
    obtain rfl := Except.ok.inj loaded
    rwa [documentEq] at documentEnds
  · cases loaded
  · cases loaded

/-- No collection of JSON holds itself. -/
theorem isTree_of_load {text : Text} {data : Data} (loaded : load text = .ok data) :
    data.isTree = true :=
  accepts_of_load inherited_isTree loaded

end Json

/-! ## YAML -/

namespace Yaml

/-- No two entries have the same key. -/
def HasDistinctScalars (entries : List (Scalar × Nat)) : Prop :=
  entries.Pairwise fun first second => Scalar.sameKey first.1 second.1 = false

/-- The scalar is no mapping with two entries of one key. -/
def Scalar.IsDistinct (scalar : Scalar) : Prop :=
  scalar.data.hasDistinctKeys = true

/-- Entries with scalars as keys, no two of them the same. -/
structure AreDistinct (entries : List (Scalar × Nat)) : Prop where
  pairwise : HasDistinctScalars entries
  keys : ∀ entry ∈ entries, entry.1.IsDistinct

/-- What a node becomes has no two entries of one key. -/
def Value.IsDistinct : Value → Prop
  | .scalar value => value.IsDistinct
  | .collection (.set members) => ∀ member ∈ members, member.IsDistinct
  | .collection (.mapping entries) => AreDistinct entries
  | .collection _ => True

/-- No node has got a value with two entries of one key so far. -/
def Loading.IsDistinct (loading : Loading) : Prop :=
  ∀ (number : Nat) (value : Value), loading.values[number]?.join = some value → value.IsDistinct

namespace AreDistinct

/-- One more entry does not bring a key that is not the new one. -/
theorem forall_mem_insertEntry (keyHolds : Scalar → Prop) {key : Scalar} (value : Nat)
    {entries : List (Scalar × Nat)} (keyHeld : keyHolds key)
    (entriesHeld : ∀ entry ∈ entries, keyHolds entry.1) :
    ∀ entry ∈ Collection.insertEntry key value entries, keyHolds entry.1 := by
  induction entries with
  | nil => simpa [Collection.insertEntry] using keyHeld
  | cons entry entries induction =>
      obtain ⟨firstHeld, othersHeld⟩ := List.forall_mem_cons.mp entriesHeld
      unfold Collection.insertEntry
      split
      · exact List.forall_mem_cons.mpr ⟨firstHeld, othersHeld⟩
      · exact List.forall_mem_cons.mpr ⟨firstHeld, induction othersHeld⟩

theorem pairwise_insertEntry {entries : List (Scalar × Nat)}
    (distinct : HasDistinctScalars entries) (key : Scalar) (value : Nat) :
    HasDistinctScalars (Collection.insertEntry key value entries) := by
  induction entries with
  | nil => exact List.pairwise_singleton _ _
  | cons entry entries induction =>
      obtain ⟨present, old⟩ := entry
      obtain ⟨unlike, others⟩ := List.pairwise_cons.mp distinct
      unfold Collection.insertEntry
      split
      · exact List.pairwise_cons.mpr ⟨unlike, others⟩
      next isOther =>
        have unlikeKey : present.sameKey key = false := Bool.eq_false_iff.mpr isOther
        have unlikeAll :=
          forall_mem_insertEntry (present.sameKey · = false) value unlikeKey unlike
        exact List.pairwise_cons.mpr ⟨unlikeAll, induction others⟩

theorem insertEntry {entries : List (Scalar × Nat)} (distinct : AreDistinct entries)
    {key : Scalar} (keyDistinct : key.IsDistinct) (value : Nat) :
    AreDistinct (Collection.insertEntry key value entries) where
  pairwise := pairwise_insertEntry distinct.pairwise key value
  keys := forall_mem_insertEntry Scalar.IsDistinct value keyDistinct distinct.keys

end AreDistinct

namespace Scalar

theorem ends_integer (content : Text) :
    Ends (·.hasDistinctKeys = true) (fun _ => True) (integer content) := by
  unfold integer
  apply Ends.bind (Ends.anyway _)
  rintro ⟨negative, unsigned⟩ _
  dsimp only
  split
  · exact trivial
  · split
    · exact rfl
    · exact trivial

theorem ends_float (content : Text) :
    Ends (·.hasDistinctKeys = true) (fun _ => True) (float content) := by
  apply Ends.bind (Ends.anyway _)
  rintro ⟨negative, unsigned⟩ _
  apply Ends.bind (Ends.anyway _)
  intro number _
  exact rfl

theorem ends_binary (content : Text) :
    Ends (·.hasDistinctKeys = true) (fun _ => True) (binary content) := by
  unfold binary
  split
  · apply Ends.bind (Ends.anyway _)
    intro octets _
    exact rfl
  · exact trivial

theorem ends_toData (timestamp : Timestamp) :
    Ends (·.hasDistinctKeys = true) (fun _ => True) timestamp.toData := by
  unfold Timestamp.toData
  split
  · apply Ends.bind (Ends.anyway _)
    intro date _
    exact rfl
  · extract_lets goOn
    have goesOn : Ends (·.hasDistinctKeys = true) (fun _ => True) (goOn ()) := by
      apply Ends.bind (Ends.anyway _)
      intro time _
      exact rfl
    split
    · split
      · exact trivial
      · exact goesOn
    · exact goesOn

theorem ends_timestamp (content : Text) :
    Ends (·.hasDistinctKeys = true) (fun _ => True) (timestamp content) := by
  unfold timestamp
  split
  · exact trivial
  next found _ =>
    have dataEnds := ends_toData found
    cases made : found.toData with
    | error error => exact trivial
    | ok data => rwa [made] at dataEnds

/-- What a scalar spells is no mapping. -/
theorem ends_value (tag : Tag) (content : Text) :
    Ends (·.hasDistinctKeys = true) (fun _ => True) (value tag content) := by
  cases tag with
  | null => exact rfl
  | boolean =>
      simp only [value, boolean]
      split
      · exact rfl
      · exact trivial
  | integer => exact ends_integer content
  | float => exact ends_float content
  | binary => exact ends_binary content
  | timestamp => exact ends_timestamp content
  | text => exact rfl
  | _ => exact trivial

theorem ends_ofContent (number : Nat) (tag : Tag) (content : Text) :
    Ends IsDistinct (fun _ => True) (ofContent number tag content) :=
  Ends.bind (ends_value tag content) fun _ distinct => distinct

end Scalar

theorem Document.ends_valueOf (document : Document) (number : Nat) :
    Ends Value.IsDistinct (fun _ => True) (document.valueOf number) := by
  unfold valueOf
  split
  · exact trivial
  · exact trivial
  · exact trivial
  · exact (nofun : ∀ member ∈ [], Scalar.IsDistinct member)
  · exact ⟨.nil, nofun⟩
  · split
    · apply Ends.bind (Ends.anyway _)
      intro content _
      split
      · exact trivial
      · apply Ends.bind (Scalar.ends_ofContent number (document.tag number) content)
        intro scalar distinct
        exact distinct
    · exact trivial

/-! ### Loading -/

theorem isDistinct_withValue {loading : Loading} {value : Value} (number : Nat)
    (distinct : loading.IsDistinct) (valueDistinct : value.IsDistinct) :
    Loading.IsDistinct
      { loading with values := loading.values.setIfInBounds number (some value) } := by
  intro other present found
  simp only [Array.getElem?_setIfInBounds] at found
  split at found
  · split at found
    · obtain rfl : value = present := by simpa using found
      exact valueDistinct
    · cases found
  · exact distinct other present found

theorem maintained_isDistinct :
    Maintained Loading.IsDistinct Value.IsDistinct (fun _ => True) where
  malformed := trivial
  valueOf number _ := Document.ends_valueOf _ number
  stored distinct found := distinct _ _ found
  withValue := isDistinct_withValue
  withReached _ distinct := distinct
  resolve distinct _ := (Ends.anyway _).weaken (fun _ _ => distinct) (fun _ => id)
  ofList _ := trivial
  ofPairs _ := trivial
  ofNoEntries := ⟨.nil, nofun⟩
  insertEntry value keyDistinct distinct := AreDistinct.insertEntry distinct keyDistinct value
  ofKeys distinct := List.forall_mem_map.mpr distinct.keys

theorem hasDistinctKeys_assemble (order : SetOrder) {loading : Loading}
    (distinct : loading.IsDistinct) (fuel : Nat) (path : Path) (number : Nat) :
    (assemble order loading.values fuel path number).hasDistinctKeys = true := by
  induction fuel generalizing path number with
  | zero => rfl
  | succ fuel induction =>
      unfold assemble
      split
      · rfl
      next scalar found => exact distinct number _ found
      next collection found =>
        have collectionDistinct := distinct number _ found
        split
        · rfl
        · dsimp only
          cases collection with
          | list items =>
              apply Data.haveDistinctKeys_iff.mpr
              exact List.forall_mem_map.mpr fun item _ => induction _ item
          | pairs pairs =>
              apply Data.haveDistinctKeys_iff.mpr
              refine List.forall_mem_map.mpr fun pair _ => Data.haveDistinctKeys_iff.mpr ?_
              simpa using ⟨induction _ pair.1, induction _ pair.2⟩
          | set members =>
              apply Data.haveDistinctKeys_iff.mpr
              intro item arranged
              have member := (order.perm number _).mem_iff.mp arranged
              obtain ⟨scalar, isMember, rfl⟩ := List.mem_map.mp member
              exact collectionDistinct scalar isMember
          | mapping entries =>
              apply Data.hasDistinctKeys_mapping
              · apply List.pairwise_map.mpr
                apply collectionDistinct.pairwise.imp
                intro first second unlike
                exact (Bool.or_eq_false_iff.mp unlike).2
              · exact List.forall_mem_map.mpr fun entry _ => induction _ entry.2

theorem hasDistinctKeys_ends_load (order : SetOrder) (document : Document) :
    Ends (·.hasDistinctKeys = true) (fun _ => True) (document.load order) := by
  apply maintained_isDistinct.ends_load
  · intro number value found
    rw [Array.getElem?_replicate] at found
    split at found <;> cases found
  · exact fun loading distinct => hasDistinctKeys_assemble order distinct _ _ _

theorem ends_load (order : SetOrder) (text : Text) :
    Ends (·.hasDistinctKeys = true) (fun _ => True) (load order text) := by
  apply Ends.bind (Ends.anyway _)
  intro found _
  cases found with
  | none => exact rfl
  | some document => exact hasDistinctKeys_ends_load order document

end Yaml

/-- The mappings in loaded data have distinct keys at every depth. -/
theorem hasDistinctKeys_of_loadText {order : Yaml.SetOrder} {text : Text} {data : Data}
    (loaded : loadText order text = .ok data) : data.hasDistinctKeys = true := by
  unfold loadText at loaded
  split at loaded
  · cases read : Json.load text with
    | error fault => rw [read] at loaded; cases loaded
    | ok found =>
        rw [read] at loaded
        obtain rfl := Except.ok.inj loaded
        exact Json.accepts_of_load Json.inherited_hasDistinctKeys read
  · have yamlEnds := Yaml.ends_load order text
    cases read : Yaml.load order text with
    | error fault => rw [read] at loaded; cases loaded
    | ok found =>
        rw [read] at loaded yamlEnds
        obtain rfl := Except.ok.inj loaded
        exact yamlEnds

end ApiTypes
