import ApiTypes.OpenApi.Reading
import ApiTypes.Swagger.Reading

/-!
# Integers that can be written

Documents whose integers are all short enough to be written are read to the end:
their shape fits or it does not.
-/

namespace ApiTypes

open Shape (View unwritableMagnitude)

namespace Data

/-- All integers in the data are short enough to be written. -/
def IsWritable (data : Data) : Prop :=
  ∀ value ∈ data.integers, value.natAbs < unwritableMagnitude

theorem mem_itemsIntegers {value : Int} {items : List Data} :
    value ∈ itemsIntegers items ↔ ∃ item ∈ items, value ∈ item.integers := by
  induction items with
  | nil => simp [itemsIntegers]
  | cons item items induction => simp [itemsIntegers, induction]

theorem mem_entriesIntegers {value : Int} {entries : List (Data × Data)} :
    value ∈ entriesIntegers entries ↔
      ∃ entry ∈ entries, value ∈ entry.1.integers ∨ value ∈ entry.2.integers := by
  induction entries with
  | nil => simp [entriesIntegers]
  | cons entry entries induction => simp [entriesIntegers, induction, or_assoc]

theorem forall_itemsIntegers {items : List Data} :
    (∀ value ∈ itemsIntegers items, value.natAbs < unwritableMagnitude) ↔
      ∀ item ∈ items, item.IsWritable := by
  simp only [mem_itemsIntegers, IsWritable]
  constructor
  · intro writable item member value inside
    exact writable value ⟨item, member, inside⟩
  · rintro writable value ⟨item, member, inside⟩
    exact writable item member value inside

theorem isWritable_list {items : List Data} :
    (Data.list items).IsWritable ↔ ∀ item ∈ items, item.IsWritable := by
  rw [IsWritable, integers, forall_itemsIntegers]

theorem isWritable_tuple {items : List Data} :
    (Data.tuple items).IsWritable ↔ ∀ item ∈ items, item.IsWritable := by
  rw [IsWritable, integers, forall_itemsIntegers]

theorem isWritable_set {items : List Data} :
    (Data.set items).IsWritable ↔ ∀ item ∈ items, item.IsWritable := by
  rw [IsWritable, integers, forall_itemsIntegers]

theorem isWritable_mapping {entries : List (Data × Data)} :
    (Data.mapping entries).IsWritable ↔
      ∀ entry ∈ entries, entry.1.IsWritable ∧ entry.2.IsWritable := by
  simp only [IsWritable, integers, mem_entriesIntegers]
  constructor
  · intro writable entry member
    exact ⟨fun value inside => writable value ⟨entry, member, .inl inside⟩,
      fun value inside => writable value ⟨entry, member, .inr inside⟩⟩
  · rintro writable value ⟨entry, member, inside | inside⟩
    · exact (writable entry member).1 value inside
    · exact (writable entry member).2 value inside

end Data

namespace Shape

namespace Checked

/-- The value is known, or what is wrong. -/
def isSettled : Checked α → Bool
  | .unwritable => false
  | _ => true

@[simp] theorem isSettled_valid (value : α) : (valid value).isSettled = true :=
  rfl

@[simp] theorem isSettled_refuse (complaint : Complaint) (content : Data) :
    (refuse complaint content : Checked α).isSettled = true :=
  rfl

@[simp] theorem isSettled_map (function : α → β) (checked : Checked α) :
    (function <$> checked).isSettled = checked.isSettled := by
  cases checked <;> rfl

@[simp] theorem isSettled_seq (function : Checked (α → β)) (checked : Checked α) :
    (function <*> checked).isSettled = (function.isSettled && checked.isSettled) := by
  cases function <;> cases checked <;> rfl

@[simp] theorem isSettled_under (step : Step) (checked : Checked α) :
    (checked.under step).isSettled = checked.isSettled := by
  cases checked <;> rfl

@[simp] theorem isSettled_labelled (label : Text) (checked : Checked α) :
    (checked.labelled label).isSettled = checked.isSettled :=
  isSettled_under _ checked

@[simp] theorem isSettled_collect (parts : List (Checked α)) :
    (collect parts).isSettled = parts.all isSettled := by
  induction parts with
  | nil => rfl
  | cons part parts induction => simp [collect, induction]

theorem isSettled_orElse {first second : Checked α} (firstSettled : first.isSettled = true)
    (secondSettled : second.isSettled = true) : (first <|> second).isSettled = true := by
  cases first with
  | valid value => rfl
  | unwritable => simp [isSettled] at firstSettled
  | invalid issues =>
      cases second with
      | valid value => rfl
      | invalid others => rfl
      | unwritable => simp [isSettled] at secondSettled

end Checked

/-- A property of places that hold integers which can be written, with all that is below them. -/
structure Writable {Place : Type} [View Place] (isWritable : Place → Prop) : Prop where
  content {place : Place} {content : Data} : isWritable place →
    View.layer place = .scalar content → content.IsWritable
  items {place : Place} {kind : SequenceKind} {items : List Place} : isWritable place →
    View.layer place = .sequence kind items → ∀ item ∈ items, isWritable item
  entries {place : Place} {entries : List (Data × Place)} : isWritable place →
    View.layer place = .mapping entries →
      ∀ entry ∈ entries, entry.1.IsWritable ∧ isWritable entry.2
  inner {place inner : Place} : isWritable place → View.enter place = some inner →
    isWritable inner

/-- A reader that comes to an end at all places with a property. -/
def Settles {Place : Type} (isWritable : Place → Prop) (read : Place → Checked α) : Prop :=
  ∀ place, isWritable place → (read place).isSettled = true

/-! ## Readers of scalars and collections -/

theorem isSettled_textOf {content : Data} (writable : content.IsWritable) :
    (textOf content).isSettled = true := by
  cases content with
  | integer value =>
      have short : value.natAbs < unwritableMagnitude := writable value (by simp [Data.integers])
      simp only [textOf, short, if_true]
      rfl
  | bytes content => simp only [textOf]; split <;> rfl
  | _ => rfl

theorem isSettled_truthOfInteger (value : Int) : (truthOfInteger value).isSettled = true := by
  unfold truthOfInteger
  repeat' split
  all_goals rfl

theorem isSettled_truthOfWord (word : Text) : (truthOfWord word).isSettled = true := by
  unfold truthOfWord
  split <;> rfl

theorem isSettled_truthOf (content : Data) : (truthOf content).isSettled = true := by
  unfold truthOf
  repeat' split
  all_goals simp [isSettled_truthOfInteger, isSettled_truthOfWord]

theorem isSettled_numberOfNumeral (numeral : Text) :
    (numberOfNumeral numeral).isSettled = true := by
  unfold numberOfNumeral
  split <;> rfl

theorem isSettled_numberOf (content : Data) : (numberOf content).isSettled = true := by
  unfold numberOf
  repeat' split
  all_goals simp [isSettled_numberOfNumeral]

section Entries

variable {Place : Type} {isWritable : Place → Prop}

theorem isSettled_entry {read : Place → Checked α} (settles : Settles isWritable read)
    {entry : Data × Place} (entryWritable : entry.1.IsWritable ∧ isWritable entry.2) :
    (Shape.entry read entry.1 entry.2).isSettled = true := by
  simp [Shape.entry, isSettled_textOf entryWritable.1, settles entry.2 entryWritable.2]

/-- What holds at all places of an object holds where a member is found. -/
theorem Members.holds_of_find? {holds : Place → Prop} {members : Members Place}
    (all : ∀ entry ∈ members, holds entry.2) {name : Text} {place : Place}
    (found : members.find? name = some place) : holds place := by
  obtain ⟨entry, foundEntry, rfl⟩ := Option.map_eq_some_iff.mp found
  exact all entry (List.mem_of_find?_eq_some foundEntry)

theorem Members.holds_of_locate? {holds : Place → Prop} {members : Members Place}
    (all : ∀ entry ∈ members, holds entry.2) {wire own name : Text} {place : Place}
    (found : members.locate? wire own = some (name, place)) : holds place := by
  unfold locate? at found
  split at found
  next foundPlace underWire =>
    obtain ⟨rfl, rfl⟩ := Prod.mk.inj (Option.some.inj found)
    exact holds_of_find? all underWire
  · obtain ⟨foundPlace, underOwn, pairEq⟩ := Option.map_eq_some_iff.mp found
    obtain ⟨rfl, rfl⟩ := Prod.mk.inj pairEq
    exact holds_of_find? all underOwn

theorem Members.isSettled_needed [View Place] {members : Members Place}
    (writable : ∀ entry ∈ members, isWritable entry.2) {read : Place → Checked α}
    (settles : Settles isWritable read) (wire own : Text) :
    (members.needed wire own read).isSettled = true := by
  unfold needed
  split
  next name place found =>
    rw [Checked.isSettled_labelled]
    exact settles place (holds_of_locate? writable found)
  · rfl

end Entries

section Places

variable {Place : Type} [View Place] {isWritable : Place → Prop}

namespace Writable

theorem scalar (writable : Writable isWritable) {read : Data → Checked α} {complaint : Complaint}
    (settled : ∀ content : Data, content.IsWritable → (read content).isSettled = true) :
    Settles isWritable (scalar read complaint) := by
  intro place placeWritable
  unfold Shape.scalar
  split
  next content layer => exact settled content (writable.content placeWritable layer)
  · rfl

theorem text (writable : Writable isWritable) : Settles isWritable text :=
  writable.scalar fun _ => isSettled_textOf

theorem truth (writable : Writable isWritable) : Settles isWritable truth :=
  writable.scalar fun content _ => isSettled_truthOf content

theorem number (writable : Writable isWritable) : Settles isWritable number :=
  writable.scalar fun content _ => isSettled_numberOf content

theorem list (writable : Writable isWritable) {read : Place → Checked α}
    (settles : Settles isWritable read) : Settles isWritable (list read) := by
  intro place placeWritable
  unfold Shape.list
  split
  next kind items layer =>
    have itemsWritable := writable.items placeWritable layer
    rw [Checked.isSettled_collect, List.all_eq_true]
    intro part member
    obtain ⟨index, inside, rfl⟩ := List.mem_mapIdx.mp member
    rw [Checked.isSettled_under]
    exact settles _ (itemsWritable _ (List.getElem_mem inside))
  · rfl

theorem dictionary (writable : Writable isWritable) {read : Place → Checked α}
    (settles : Settles isWritable read) : Settles isWritable (dictionary read) := by
  intro place placeWritable
  unfold Shape.dictionary
  split
  next entries layer =>
    have entriesWritable := writable.entries placeWritable layer
    rw [Checked.isSettled_map, Checked.isSettled_collect, List.all_map, List.all_eq_true]
    exact fun entry member => isSettled_entry settles (entriesWritable entry member)
  · rfl

theorem dictionaryWithoutExtensions (writable : Writable isWritable) {read : Place → Checked α}
    (settles : Settles isWritable read) :
    Settles isWritable (dictionaryWithoutExtensions read) := by
  intro place placeWritable
  unfold Shape.dictionaryWithoutExtensions
  split
  next entries layer =>
    have entriesWritable := writable.entries placeWritable layer
    rw [Checked.isSettled_map, Checked.isSettled_collect, List.all_map, List.all_eq_true]
    exact fun entry member =>
      isSettled_entry settles (entriesWritable entry (List.mem_filter.mp member).1)
  · rfl

/-! ## Readers of objects -/

/-- An object is read to the end if all its members are. -/
theorem object (writable : Writable isWritable) {read : Members Place → Checked α}
    (settled : ∀ members : Members Place, (∀ entry ∈ members, isWritable entry.2) →
      (read members).isSettled = true) :
    Settles isWritable (object read) := by
  intro place placeWritable
  unfold Shape.object
  split
  next entries layer =>
    have entriesWritable := writable.entries placeWritable layer
    exact settled entries fun entry member => (entriesWritable entry member).2
  · rfl

end Writable

namespace Members

variable {members : Members Place}

theorem isSettled_optional (writable : ∀ entry ∈ members, isWritable entry.2)
    {read : Place → Checked α} (settles : Settles isWritable read) (wire own : Text) :
    (members.optional wire own read).isSettled = true := by
  unfold optional
  split
  next name place found =>
    split
    · rfl
    · rw [Checked.isSettled_map, Checked.isSettled_labelled]
      exact settles place (holds_of_locate? writable found)
  · rfl

end Members

end Places

end Shape

end ApiTypes
