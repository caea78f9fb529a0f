import ApiTypes.Proofs.AlikeData
import ApiTypes.Proofs.ExtendedData
import ApiTypes.Proofs.PlacedReadings
import Mathlib.Data.List.Forall2

/-!
# Places that show trees

A place of a document in which collections may hold themselves shows a tree of data if
what stands there is related to the tree and no place around it that is being read can be
met again.  Readers agree if they read the same at the tree and at every place that shows
it, up to the data that issues show.

Further extensions may hold collections around them.  Their places are not reached, so
nothing is asked of these.
-/

namespace ApiTypes

open Shape

variable {related : Data → Data → Prop} {names : List Text}

/-- A tree of data is related to what stands at a place, and the path to the place is longer than
those of the places that are being read. -/
structure Shows (related : Data → Data → Prop) (data : Data) (cursor : Cursor) : Prop where
  related : related data cursor.content
  isTree : data.isTree = true
  fresh : ∀ path ∈ cursor.reading, path.length < cursor.path.length

namespace Shows

theorem mono {weaker : Data → Data → Prop} (implies : ∀ data other, related data other →
    weaker data other) {data : Data} {cursor : Cursor} (shows : Shows related data cursor) :
    Shows weaker data cursor :=
  { shows with related := implies _ _ shows.related }

/-- A place that shows a tree is not being read already. -/
theorem enter {data : Data} {cursor : Cursor} (shows : Shows related data cursor) :
    ∃ inner, View.enter cursor = some inner ∧ inner.content = cursor.content ∧
      ∀ path ∈ inner.reading, path.length ≤ inner.path.length := by
  have unread : ¬ cursor.reading.contains cursor.path = true := by
    intro isRead
    exact Nat.lt_irrefl _ (shows.fresh cursor.path (List.contains_iff_mem.mp isRead))
  refine ⟨{ cursor with reading := cursor.path :: cursor.reading }, if_neg unread, rfl, ?_⟩
  intro path member
  rcases List.mem_cons.mp member with rfl | earlier
  · exact Nat.le_refl _
  · exact Nat.le_of_lt (shows.fresh path earlier)

/-- A member of a collection that is being read shows the tree that it is related to. -/
theorem member (keeps : KeepsKind related) {cursor : Cursor}
    (within : ∀ path ∈ cursor.reading, path.length ≤ cursor.path.length) {data content : Data}
    (isRelated : related data content) (isTree : data.isTree = true) (index : Nat) :
    Shows related data (cursor.member index content) := by
  have ownPlace : cursor.member index content =
      { cursor with
        content, path := index :: cursor.path,
        around := (cursor.content, cursor.path) :: cursor.around } := by
    rcases keeps data content isRelated with rfl | ⟨entries, others, -, rfl⟩
    · cases content with
      | enclosing up => cases isTree
      | _ => rfl
    · rfl
  rw [ownPlace]
  exact ⟨isRelated, isTree, fun path earlier => Nat.lt_succ_of_le (within path earlier)⟩

end Shows

/-! ## Entries -/

/-- A member of an object shows the same tree under the same key, or under one of some names a
related one. -/
def EntryShows (names : List Text) (related : Data → Data → Prop) (entry : Data × Data)
    (member : Data × Cursor) : Prop :=
  member.1 = entry.1 ∧
    (Shows Eq entry.2 member.2 ∨
      (∃ name ∈ names, entry.1 = .text name) ∧ Shows related entry.2 member.2)

theorem layer_mapping {cursor : Cursor} {entries : Members Data}
    (content : cursor.content = .mapping entries) :
    View.layer cursor =
      .mapping (entries.mapIdx fun index entry => (entry.1, cursor.member index entry.2)) := by
  simp only [View.layer, content]
  congr 1
  apply List.ext_getElem <;> simp [Cursor.members]

/-- The members of an object that has been edited show its entries. -/
theorem forall₂_of_edits (keeps : KeepsKind related) {cursor : Cursor}
    (within : ∀ path ∈ cursor.reading, path.length ≤ cursor.path.length)
    {entries others : Members Data} (edits : Edits names related entries others)
    (areTrees : Data.areEntryTrees entries = true) (position : Nat → Nat) :
    List.Forall₂ (EntryShows names related) entries
      (others.mapIdx fun index entry => (entry.1, cursor.member (position index) entry.2)) := by
  induction edits generalizing position with
  | nil => exact .nil
  | same entry tail induction =>
      simp only [Data.areEntryTrees, Bool.and_eq_true] at areTrees
      rw [List.mapIdx_cons]
      refine .cons ⟨rfl, .inl ?_⟩ (induction areTrees.2 fun index => position (index + 1))
      exact Shows.member keepsKind_eq within rfl areTrees.1.2 _
  | edited isNamed head tail induction =>
      simp only [Data.areEntryTrees, Bool.and_eq_true] at areTrees
      rw [List.mapIdx_cons]
      refine .cons ⟨rfl, .inr ⟨⟨_, isNamed, rfl⟩, ?_⟩⟩
        (induction areTrees.2 fun index => position (index + 1))
      exact Shows.member keeps within head areTrees.1.2 _

/-- Without its extensions a mapping shows the entries that are no extensions. -/
theorem forall₂_of_inserts (keeps : KeepsKind related) {cursor : Cursor}
    (within : ∀ path ∈ cursor.reading, path.length ≤ cursor.path.length)
    {entries others : Members Data} (inserts : Inserts related entries others)
    (areTrees : Data.areEntryTrees entries = true) (position : Nat → Nat) :
    List.Forall₂ (fun entry member => member.1 = entry.1 ∧ Shows related entry.2 member.2)
      (entries.filter fun (key, _) => !isExtension key)
      ((others.mapIdx fun index entry => (entry.1, cursor.member (position index) entry.2)).filter
        fun (key, _) => !isExtension key) := by
  induction inserts generalizing position with
  | nil => exact .nil
  | @extension name entries others value isExtension tail induction =>
      have dropped : Shape.isExtension (.text name) = true := isExtension
      rw [List.mapIdx_cons, List.filter_cons_of_neg (by simp [dropped])]
      exact induction areTrees fun index => position (index + 1)
  | kept key head tail induction =>
      simp only [Data.areEntryTrees, Bool.and_eq_true] at areTrees
      have others := induction areTrees.2 fun index => position (index + 1)
      rw [List.mapIdx_cons]
      cases extension : Shape.isExtension key with
      | true =>
          rw [List.filter_cons_of_neg (by simp [extension]),
            List.filter_cons_of_neg (by simp [extension])]
          exact others
      | false =>
          rw [List.filter_cons_of_pos (by simp [extension]),
            List.filter_cons_of_pos (by simp [extension])]
          exact .cons ⟨rfl, Shows.member keeps within head areTrees.1.2 _⟩ others

/-! ## Readers that agree -/

/-- A reader of trees and a reader of places read the same, up to the data that issues show. -/
def Agrees (related : Data → Data → Prop) (read : Data → Checked α) (readAt : Cursor → Checked α) :
    Prop :=
  ∀ data cursor, Shows related data cursor → (readAt cursor).placed = (read data).placed

section Agrees

variable {α : Type} {read : Data → Checked α} {readAt : Cursor → Checked α}

theorem Agrees.mono {weaker : Data → Data → Prop} (implies : ∀ data other, related data other →
    weaker data other) (agrees : Agrees weaker read readAt) : Agrees related read readAt :=
  fun data cursor shows => agrees data cursor (shows.mono implies)

theorem Agrees.of_reflexive (reflexive : ∀ data, related data data)
    (agrees : Agrees related read readAt) : Agrees Eq read readAt := by
  refine agrees.mono ?_
  rintro data _ rfl
  exact reflexive data

theorem isNull_of_shows (keeps : KeepsKind related) {data : Data} {cursor : Cursor}
    (shows : Shows related data cursor) : isNull cursor = isNull data := by
  rcases keeps data cursor.content shows.related with same | ⟨entries, others, rfl, content⟩
  · cases data <;> simp [isNull, View.layer, same]
  · simp [isNull, View.layer, content]

theorem agrees_scalar (keeps : KeepsKind related) (read : Data → Checked α)
    (complaint : Complaint) : Agrees related (scalar read complaint) (scalar read complaint) := by
  intro data cursor shows
  rcases keeps data cursor.content shows.related with same | ⟨entries, others, rfl, content⟩
  · cases data <;> simp [scalar, View.layer, same]
  · simp [scalar, View.layer, content]

theorem isTree_getElem {items : List Data} (areTrees : Data.areTrees items = true) (index : Nat)
    (bound : index < items.length) : items[index].isTree = true := by
  induction items generalizing index with
  | nil => cases bound
  | cons item items induction =>
      simp only [Data.areTrees, Bool.and_eq_true] at areTrees
      cases index with
      | zero => exact areTrees.1
      | succ index => exact induction areTrees.2 index (Nat.lt_of_succ_lt_succ bound)

theorem map_data_members {cursor : Cursor}
    (within : ∀ path ∈ cursor.reading, path.length ≤ cursor.path.length) {items : List Data}
    (areTrees : Data.areTrees items = true) : (cursor.members items).map View.data = items := by
  apply List.ext_getElem
  · simp [Cursor.members]
  · intro index here bound
    have shows := Shows.member keepsKind_eq within rfl (isTree_getElem areTrees index bound) index
    rw [List.getElem_map]
    simp only [Cursor.members, List.getElem_mapIdx]
    exact shows.related.symm

/-- What is collected from the items of a list agrees. -/
theorem Agrees.items (agrees : Agrees Eq read readAt) {cursor : Cursor}
    (within : ∀ path ∈ cursor.reading, path.length ≤ cursor.path.length) {items : List Data}
    (areTrees : Data.areTrees items = true) :
    (Checked.collect ((cursor.members items).mapIdx fun index item =>
        (readAt item).under (.number index))).placed =
      (Checked.collect (items.mapIdx fun index item =>
        (read item).under (.number index))).placed := by
  rw [Checked.placed_collect, Checked.placed_collect]
  congr 1
  apply List.ext_getElem
  · simp [Cursor.members]
  · intro index here there
    have bound : index < items.length := by simpa using there
    have shows := Shows.member keepsKind_eq within rfl (isTree_getElem areTrees index bound) index
    simp [Cursor.members, agrees _ _ shows]

theorem Agrees.list (agrees : Agrees Eq read readAt) :
    Agrees Eq (Shape.list read) (Shape.list readAt) := by
  intro data cursor shows
  have within := fun path member => Nat.le_of_lt (shows.fresh path member)
  have content : cursor.content = data := shows.related.symm
  have isTree := shows.isTree
  cases data with
  | list items | tuple items | set items =>
      simp only [Shape.list, View.layer, content]
      exact agrees.items within isTree
  | _ => simp [Shape.list, View.layer, content]

theorem Agrees.entries (agrees : Agrees related read readAt) {entries : Members Data}
    {members : Members Cursor} (shown : List.Forall₂ (fun entry member =>
      member.1 = entry.1 ∧ Shows related entry.2 member.2) entries members) :
    (Checked.collect (members.map fun (key, value) => entry readAt key value)).placed =
      (Checked.collect (entries.map fun (key, value) => entry read key value)).placed := by
  rw [Checked.placed_collect, Checked.placed_collect]
  congr 1
  induction shown with
  | nil => rfl
  | @cons here there entries members head tail induction =>
      obtain ⟨key, value⟩ := here
      obtain ⟨otherKey, place⟩ := there
      obtain ⟨rfl, shows⟩ := head
      simp only [List.map_cons, induction, List.cons.injEq, and_true]
      simp [entry, agrees value place shows]

theorem Agrees.dictionary (agrees : Agrees Eq read readAt) :
    Agrees Eq (Shape.dictionary read) (Shape.dictionary readAt) := by
  intro data cursor shows
  have within := fun path member => Nat.le_of_lt (shows.fresh path member)
  have content : cursor.content = data := shows.related.symm
  cases data with
  | mapping entries =>
      have edited := forall₂_of_edits keepsKind_eq within (edits_same [] Eq entries) shows.isTree id
      have shown := edited.imp fun entry member shows =>
        And.intro shows.1 (shows.2.resolve_right (by simp))
      unfold Shape.dictionary
      rw [layer_mapping content]
      simp only [View.layer, Checked.placed_map]
      exact congrArg _ (agrees.entries shown)
  | _ => simp [Shape.dictionary, View.layer, content]

theorem Agrees.dictionaryWithoutExtensions (keeps : KeepsKind related)
    (reflexive : ∀ data, related data data) (agrees : Agrees related read readAt) :
    Agrees (MapExtended related) (Shape.dictionaryWithoutExtensions read)
      (Shape.dictionaryWithoutExtensions readAt) := by
  intro data cursor shows
  have within := fun path member => Nat.le_of_lt (shows.fresh path member)
  rcases shows.related.cases_mapping reflexive with ⟨entries, others, rfl, content, inserts⟩ |
    ⟨same, noMapping⟩
  · have shown := forall₂_of_inserts keeps within inserts shows.isTree id
    unfold Shape.dictionaryWithoutExtensions
    rw [layer_mapping content]
    simp only [View.layer, Checked.placed_map]
    exact congrArg _ (agrees.entries shown)
  · cases data with
    | mapping entries => exact absurd rfl (noMapping entries)
    | _ => simp [Shape.dictionaryWithoutExtensions, View.layer, same]

/-! ## Objects -/

/-- Objects are read the same if their members are. -/
theorem placed_object_of_within (keeps : KeepsKind related)
    {readMembers : Members Data → Checked α} {readMembersAt : Members Cursor → Checked α}
    (agree : ∀ entries members, List.Forall₂ (EntryShows names related) entries members →
      (readMembersAt members).placed = (readMembers entries).placed)
    {data : Data} {cursor : Cursor} (extended : ObjectExtended names related data cursor.content)
    (isTree : data.isTree = true)
    (within : ∀ path ∈ cursor.reading, path.length ≤ cursor.path.length) :
    (object readMembersAt cursor).placed = (object readMembers data).placed := by
  rcases extended.cases_mapping with ⟨entries, others, rfl, content, edits⟩ | ⟨same, noMapping⟩
  · unfold object
    rw [layer_mapping content]
    exact agree _ _ (forall₂_of_edits keeps within edits isTree id)
  · cases data with
    | mapping entries => exact absurd rfl (noMapping entries)
    | _ => simp [object, View.layer, same]

theorem agrees_object (keeps : KeepsKind related) {readMembers : Members Data → Checked α}
    {readMembersAt : Members Cursor → Checked α}
    (agree : ∀ entries members, List.Forall₂ (EntryShows names related) entries members →
      (readMembersAt members).placed = (readMembers entries).placed) :
    Agrees (ObjectExtended names related) (object readMembers) (object readMembersAt) :=
  fun _ _ shows => placed_object_of_within keeps agree shows.related shows.isTree
    fun path member => Nat.le_of_lt (shows.fresh path member)

/-- An object without edited members. -/
theorem agrees_plainObject {readMembers : Members Data → Checked α}
    {readMembersAt : Members Cursor → Checked α}
    (agree : ∀ entries members, List.Forall₂ (EntryShows [] Eq) entries members →
      (readMembersAt members).placed = (readMembers entries).placed) :
    Agrees Eq (object readMembers) (object readMembersAt) :=
  (agrees_object keepsKind_eq agree).of_reflexive .same

/-- A schema is entered before its members are read. -/
theorem placed_object_of_enter {readMembers : Members Data → Checked α}
    {readMembersAt : Members Cursor → Checked α}
    (agree : ∀ entries members, List.Forall₂ (EntryShows [] Eq) entries members →
      (readMembersAt members).placed = (readMembers entries).placed)
    {data : Data} {cursor inner : Cursor} (shows : Shows Eq data cursor)
    (content : inner.content = cursor.content)
    (within : ∀ path ∈ inner.reading, path.length ≤ inner.path.length) :
    (object readMembersAt inner).placed = (object readMembers data).placed := by
  refine placed_object_of_within keepsKind_eq agree ?_ shows.isTree within
  rw [content, ← shows.related]
  exact .same data

/-! ## Members -/

section Members

variable {entries : Members Data} {members : Members Cursor}

/-- What stands under a name among the members shows what stands there among the entries. -/
def NamedShows (names : List Text) (related : Data → Data → Prop) (name : Text) (data : Data)
    (cursor : Cursor) : Prop :=
  Shows Eq data cursor ∨ name ∈ names ∧ Shows related data cursor

theorem NamedShows.isNull_eq (keeps : KeepsKind related) {name : Text} {data : Data}
    {cursor : Cursor} (shows : NamedShows names related name data cursor) :
    isNull cursor = isNull data := by
  rcases shows with same | ⟨-, edited⟩
  · exact isNull_of_shows keepsKind_eq same
  · exact isNull_of_shows keeps edited

theorem find?_of_forall₂ (shown : List.Forall₂ (EntryShows names related) entries members)
    (name : Text) :
    Option.Rel (NamedShows names related name) (entries.find? name) (members.find? name) := by
  induction shown with
  | nil => exact .none
  | @cons entry member entries members head tail induction =>
      obtain ⟨_, value⟩ := entry
      obtain ⟨key, place⟩ := member
      obtain ⟨rfl, shows⟩ := head
      simp only [Members.find?, List.find?_cons]
      cases found : Data.sameKey key (.text name) with
      | false => exact induction
      | true =>
          obtain rfl := Data.sameKey_text.mp found
          refine .some (shows.imp_right ?_)
          rintro ⟨⟨edited, isNamed, same⟩, shows⟩
          exact ⟨Data.text.inj same ▸ isNamed, shows⟩

/-- What is located among the members shows what is located among the entries, under the same
name. -/
theorem locate?_of_forall₂ (shown : List.Forall₂ (EntryShows names related) entries members)
    (wire own : Text) :
    (entries.locate? wire own = none ∧ members.locate? wire own = none) ∨
      ∃ name data cursor, (name = wire ∨ name = own) ∧
        entries.locate? wire own = some (name, data) ∧
        members.locate? wire own = some (name, cursor) ∧
        NamedShows names related name data cursor := by
  have atWire := find?_of_forall₂ shown wire
  have atOwn := find?_of_forall₂ shown own
  unfold Members.locate?
  cases here : entries.find? wire <;> cases there : members.find? wire <;>
    rw [here, there] at atWire <;> cases atWire
  · cases ownHere : entries.find? own <;> cases ownThere : members.find? own <;>
      rw [ownHere, ownThere] at atOwn <;> cases atOwn
    · exact .inl ⟨rfl, rfl⟩
    next both => exact .inr ⟨own, _, _, .inr rfl, rfl, rfl, both⟩
  next both => exact .inr ⟨wire, _, _, .inl rfl, rfl, rfl, both⟩

section Agree

variable {wire own : Text} (keeps : KeepsKind related)
  (shown : List.Forall₂ (EntryShows names related) entries members)
  (agree : ∀ name, name = wire ∨ name = own → ∀ data cursor,
    NamedShows names related name data cursor → (readAt cursor).placed = (read data).placed)
include shown agree

theorem placed_needed :
    (members.needed wire own readAt).placed = (entries.needed wire own read).placed := by
  unfold Members.needed
  rcases locate?_of_forall₂ shown wire own with ⟨here, there⟩ |
    ⟨name, data, cursor, isNamed, here, there, shows⟩
  · simp [here, there]
  · simp [here, there, agree name isNamed data cursor shows]

include keeps in
theorem placed_optional :
    (members.optional wire own readAt).placed = (entries.optional wire own read).placed := by
  unfold Members.optional
  rcases locate?_of_forall₂ shown wire own with ⟨here, there⟩ |
    ⟨name, data, cursor, isNamed, here, there, shows⟩
  · simp [here, there]
  · simp only [here, there, shows.isNull_eq keeps]
    split
    · rfl
    · simp [agree name isNamed data cursor shows]

end Agree

theorem Agrees.named_of_notMem (agrees : Agrees Eq read readAt) {wire own : Text}
    (absent : wire ∉ names ∧ own ∉ names) (name : Text) (isNamed : name = wire ∨ name = own)
    (data : Data) (cursor : Cursor) (shows : NamedShows names related name data cursor) :
    (readAt cursor).placed = (read data).placed := by
  rcases shows with same | ⟨edited, -⟩
  · exact agrees data cursor same
  · rcases isNamed with rfl | rfl
    · exact absurd edited absent.1
    · exact absurd edited absent.2

theorem Agrees.named (reflexive : ∀ data, related data data) (agrees : Agrees related read readAt)
    (name : Text) (data : Data) (cursor : Cursor)
    (shows : NamedShows names related name data cursor) :
    (readAt cursor).placed = (read data).placed := by
  rcases shows with same | ⟨-, edited⟩
  · exact agrees.of_reflexive reflexive data cursor same
  · exact agrees data cursor edited

section Reading

variable (shown : List.Forall₂ (EntryShows names related) entries members) ⦃wire own : Text⦄
include shown

theorem needed_plain (agrees : Agrees Eq read readAt) (absent : wire ∉ names ∧ own ∉ names) :
    (members.needed wire own readAt).placed = (entries.needed wire own read).placed :=
  placed_needed shown (agrees.named_of_notMem absent)

theorem optional_plain (keeps : KeepsKind related) (agrees : Agrees Eq read readAt)
    (absent : wire ∉ names ∧ own ∉ names) :
    (members.optional wire own readAt).placed = (entries.optional wire own read).placed :=
  placed_optional keeps shown (agrees.named_of_notMem absent)

theorem needed_edited (reflexive : ∀ data, related data data)
    (agrees : Agrees related read readAt) :
    (members.needed wire own readAt).placed = (entries.needed wire own read).placed :=
  placed_needed shown fun name _ => agrees.named reflexive name

theorem optional_edited (keeps : KeepsKind related) (reflexive : ∀ data, related data data)
    (agrees : Agrees related read readAt) :
    (members.optional wire own readAt).placed = (entries.optional wire own read).placed :=
  placed_optional keeps shown fun name _ => agrees.named reflexive name

end Reading

end Members

end Agrees

end ApiTypes
