import ApiTypes.Proofs.Arrangement
import ApiTypes.Proofs.BareReadings
import ApiTypes.Proofs.Grammar

/-!
# Data that is read alike

Two trees of data are compared along the grammar of documents.  Where an object is
expected, the members may have been edited, and the entries related in a way that
keeps what its members hold; named schemas may come in another order.  All other
data is the same.  A reader follows such a difference if it reads the same, up to
the order of names.
-/

namespace ApiTypes

open Shape

namespace Shape.SequenceKind

/-- A collection without keys. -/
def data : SequenceKind → List Data → Data
  | .list, items => .list items
  | .tuple, items => .tuple items
  | .set, items => .set items

@[simp] theorem layer_data (kind : SequenceKind) (items : List Data) :
    View.layer (kind.data items) = .sequence kind items := by
  cases kind <;> rfl

end Shape.SequenceKind

namespace Data

def isCollection : Data → Bool
  | .list _ => true
  | .tuple _ => true
  | .set _ => true
  | .mapping _ => true
  | _ => false

/-- The name that a key of a dictionary stands for. -/
def keyName (key : Data) : Text :=
  match textOf key with
  | .valid name => name
  | _ => []

/-- An entry under a text. -/
def entry (named : Text × Data) : Data × Data :=
  (.text named.1, named.2)

theorem sameKey_text {key : Data} {name : Text} :
    sameKey key (.text name) = true ↔ key = .text name := by
  cases key with
  | float value =>
      simp only [sameKey, asInteger?, reduceCtorEq, iff_false]
      cases value.toInt? <;> exact Bool.false_ne_true
  | _ => simp [sameKey, asInteger?]

theorem sameKey_text_eq_false {key : Data} {name : Text} :
    sameKey key (.text name) = false ↔ key ≠ .text name := by
  rw [Bool.eq_false_iff, ne_eq, sameKey_text]

end Data

/-! ## Alike data -/

section Alike

variable (related : Part → Members Data → Members Data → Prop)

mutual

/-- Data that differs in parts of the grammar only. -/
inductive Alike : Ranks → Content → Data → Data → Prop
  | same {content : Content} (data : Data) : Alike .still content data data
  | plain {ranks : Ranks} (data : Data) : Alike ranks .plain data data
  | leaf {ranks : Ranks} {content : Content} {data : Data}
      (isLeaf : data.isCollection = false) : Alike ranks content data data
  | object {ranks : Ranks} {part : Part} {entries edited others : Members Data}
      (members : MembersAlike ranks part entries edited)
      (keeps : related part edited others) :
      Alike ranks (.part part) (.mapping entries) (.mapping others)
  | list {ranks : Ranks} {part : Part} {kind : SequenceKind} {items others : List Data}
      (alike : ItemsAlike ranks part 0 items others) :
      Alike ranks (.list part) (kind.data items) (kind.data others)
  | dictionary {ranks : Ranks} {part : Part} {entries others : Members Data}
      (values : ValuesAlike ranks part entries others) :
      Alike ranks (.dictionary part) (.mapping entries) (.mapping others)
  | named {ranks : Ranks} {part : Part} {entries others : Members Data}
      (unmoved : ∀ name, ranks.here name = 0) (values : ValuesAlike ranks part entries others) :
      Alike ranks (.named part) (.mapping entries) (.mapping others)
  | arranged {ranks : Ranks} {part : Part} {entries : List (Text × Data)}
      {others : Members Data} (distinct : (entries.map Prod.fst).Nodup)
      (values : ValuesAlike ranks part
        ((arrange ranks.here Prod.fst entries).map Data.entry) others) :
      Alike ranks (.named part) (.mapping (entries.map Data.entry)) (.mapping others)

/-- Entries of an object with the same keys. -/
inductive MembersAlike : Ranks → Part → Members Data → Members Data → Prop
  | nil {ranks : Ranks} {part : Part} : MembersAlike ranks part [] []
  | cons {ranks : Ranks} {part : Part} {key value other : Data} {entries others : Members Data}
      (head : Alike (ranks.under (part.step key)) (part.content key) value other)
      (tail : MembersAlike ranks part entries others) :
      MembersAlike ranks part ((key, value) :: entries) ((key, other) :: others)

/-- Parts in a list of which the first one has the given index. -/
inductive ItemsAlike : Ranks → Part → Nat → List Data → List Data → Prop
  | nil {ranks : Ranks} {part : Part} {index : Nat} : ItemsAlike ranks part index [] []
  | cons {ranks : Ranks} {part : Part} {index : Nat} {item other : Data}
      {items others : List Data}
      (head : Alike (ranks.under (.number index)) (.part part) item other)
      (tail : ItemsAlike ranks part (index + 1) items others) :
      ItemsAlike ranks part index (item :: items) (other :: others)

/-- Parts under the same keys. -/
inductive ValuesAlike : Ranks → Part → Members Data → Members Data → Prop
  | nil {ranks : Ranks} {part : Part} : ValuesAlike ranks part [] []
  | cons {ranks : Ranks} {part : Part} {key value other : Data} {entries others : Members Data}
      (head : Alike (ranks.under (.name key.keyName)) (.part part) value other)
      (tail : ValuesAlike ranks part entries others) :
      ValuesAlike ranks part ((key, value) :: entries) ((key, other) :: others)

end

variable {related}

theorem Alike.eq_of_plain {ranks : Ranks} {data other : Data}
    (alike : Alike related ranks .plain data other) : other = data := by
  cases alike <;> rfl

theorem Alike.isNull_eq {ranks : Ranks} {content : Content} {data other : Data}
    (alike : Alike related ranks content data other) : isNull other = isNull data := by
  cases alike with
  | @list part kind items others values => simp [isNull]
  | _ => rfl

theorem itemsAlike_same (part : Part) (index : Nat) (items : List Data) :
    ItemsAlike related .still part index items items := by
  induction items generalizing index with
  | nil => exact .nil
  | cons item items induction => exact .cons (.same item) (induction (index + 1))

theorem valuesAlike_same (part : Part) (entries : Members Data) :
    ValuesAlike related .still part entries entries := by
  induction entries with
  | nil => exact .nil
  | cons entry entries induction => exact .cons (.same entry.2) induction

end Alike

/-! ## What the members of an object hold -/

/-- What a member of an object holds, unless it is nothing. -/
def Shape.Members.held? (members : Members Data) (member : Member) : Option Data :=
  ((members.locate? member.wire member.own).map Prod.snd).filter fun value => !isNull value

/-- Entries whose members hold the same. -/
def HoldSame (part : Part) (entries others : Members Data) : Prop :=
  ∀ member ∈ part.members, others.held? member = entries.held? member

/-- Entries whose members hold what is alike. -/
def HoldAlike (related : Part → Members Data → Members Data → Prop) (ranks : Ranks) (part : Part)
    (entries others : Members Data) : Prop :=
  ∀ member ∈ part.members,
    Option.Rel (Alike related (ranks.under (.name member.wire)) member.content)
      (entries.held? member) (others.held? member)

section Holding

variable {related : Part → Members Data → Members Data → Prop}

theorem MembersAlike.find? {ranks : Ranks} {part : Part} {entries others : Members Data}
    (alike : MembersAlike related ranks part entries others) {name : Text} {member : Member}
    (isMember : part.member? (.text name) = some member) :
    Option.Rel (Alike related (ranks.under (.name member.wire)) member.content)
      (entries.find? name) (others.find? name) := by
  induction entries generalizing others with
  | nil =>
      cases alike
      exact .none
  | cons entry entries induction =>
      cases alike with
      | @cons _ _ key value other _ others head tail =>
          simp only [Members.find?, List.find?_cons]
          cases found : Data.sameKey key (.text name) with
          | false => exact induction tail
          | true =>
              obtain rfl := Data.sameKey_text.mp found
              refine .some ?_
              simpa [Part.step, Part.content, isMember] using head

theorem MembersAlike.locate? {ranks : Ranks} {part : Part} {entries others : Members Data}
    (alike : MembersAlike related ranks part entries others) {member : Member}
    (isMember : member ∈ part.members) :
    Option.Rel (Alike related (ranks.under (.name member.wire)) member.content)
      ((entries.locate? member.wire member.own).map Prod.snd)
      ((others.locate? member.wire member.own).map Prod.snd) := by
  obtain ⟨wire, own⟩ := part.member?_wire_and_own member isMember
  have atWire := alike.find? wire
  have atOwn := alike.find? own
  unfold Members.locate?
  cases here : entries.find? member.wire <;> cases there : others.find? member.wire <;>
    rw [here, there] at atWire <;> cases atWire
  · cases ownHere : entries.find? member.own <;> cases ownThere : others.find? member.own <;>
      rw [ownHere, ownThere] at atOwn <;> cases atOwn
    · exact .none
    next both => exact .some both
  next both => exact .some both

theorem MembersAlike.holdAlike {ranks : Ranks} {part : Part} {entries others : Members Data}
    (alike : MembersAlike related ranks part entries others) :
    HoldAlike related ranks part entries others := by
  intro member isMember
  have located := alike.locate? isMember
  unfold Members.held?
  cases here : (entries.locate? member.wire member.own).map Prod.snd <;>
    cases there : (others.locate? member.wire member.own).map Prod.snd <;>
    rw [here, there] at located <;> cases located
  · exact .none
  next both =>
    simp only [Option.filter_some, both.isNull_eq]
    split
    · exact .some both
    · exact .none

theorem holdAlike_same (part : Part) (entries : Members Data) :
    HoldAlike related .still part entries entries := by
  intro member isMember
  cases entries.held? member with
  | none => exact .none
  | some value => exact .some (.same value)

/-- An object is alike to an object whose members hold what is alike. -/
theorem Alike.object_cases (keeps : ∀ part entries others,
      related part entries others → HoldSame part entries others)
    {ranks : Ranks} {part : Part} {data other : Data}
    (alike : Alike related ranks (.part part) data other) :
    (∃ entries others, data = .mapping entries ∧ other = .mapping others ∧
      HoldAlike related ranks part entries others) ∨
    (other = data ∧ ∀ entries, data ≠ .mapping entries) := by
  cases alike with
  | same =>
      cases data with
      | mapping entries => exact .inl ⟨entries, entries, rfl, rfl, holdAlike_same part entries⟩
      | _ => exact .inr ⟨rfl, nofun⟩
  | leaf isLeaf =>
      refine .inr ⟨rfl, ?_⟩
      rintro entries rfl
      simp [Data.isCollection] at isLeaf
  | @object _ _ entries edited others members isRelated =>
      refine .inl ⟨entries, others, rfl, rfl, fun member isMember => ?_⟩
      rw [keeps part edited others isRelated member isMember]
      exact members.holdAlike member isMember

theorem Alike.list_cases {ranks : Ranks} {part : Part} {data other : Data}
    (alike : Alike related ranks (.list part) data other) :
    (∃ kind items others, data = SequenceKind.data kind items ∧
      other = SequenceKind.data kind others ∧ ItemsAlike related ranks part 0 items others) ∨
    (other = data ∧ ∀ kind items, data ≠ SequenceKind.data kind items) := by
  cases alike with
  | same =>
      cases data with
      | list items => exact .inl ⟨.list, items, items, rfl, rfl, itemsAlike_same part 0 items⟩
      | tuple items => exact .inl ⟨.tuple, items, items, rfl, rfl, itemsAlike_same part 0 items⟩
      | set items => exact .inl ⟨.set, items, items, rfl, rfl, itemsAlike_same part 0 items⟩
      | _ =>
          refine .inr ⟨rfl, fun kind items => ?_⟩
          cases kind <;> exact nofun
  | leaf isLeaf =>
      refine .inr ⟨rfl, fun kind items => ?_⟩
      rintro rfl
      cases kind <;> simp [SequenceKind.data, Data.isCollection] at isLeaf
  | @list _ _ kind items others alikeItems =>
      exact .inl ⟨kind, items, others, rfl, rfl, alikeItems⟩

theorem Alike.dictionary_cases {ranks : Ranks} {part : Part} {data other : Data}
    (alike : Alike related ranks (.dictionary part) data other) :
    (∃ entries others, data = .mapping entries ∧ other = .mapping others ∧
      ValuesAlike related ranks part entries others) ∨
    (other = data ∧ ∀ entries, data ≠ .mapping entries) := by
  cases alike with
  | same =>
      cases data with
      | mapping entries => exact .inl ⟨entries, entries, rfl, rfl, valuesAlike_same part entries⟩
      | _ => exact .inr ⟨rfl, nofun⟩
  | leaf isLeaf =>
      refine .inr ⟨rfl, ?_⟩
      rintro entries rfl
      simp [Data.isCollection] at isLeaf
  | @dictionary _ _ entries others values => exact .inl ⟨entries, others, rfl, rfl, values⟩

/-- Named schemas stay where they are, or have distinct names and come in the order of the ranks
of these. -/
theorem Alike.named_cases {ranks : Ranks} {part : Part} {data other : Data}
    (alike : Alike related ranks (.named part) data other) :
    (∃ entries others, data = .mapping entries ∧ other = .mapping others ∧
      (∀ name, ranks.here name = 0) ∧ ValuesAlike related ranks part entries others) ∨
    (∃ (entries : List (Text × Data)) (others : Members Data),
      data = .mapping (entries.map Data.entry) ∧ other = .mapping others ∧
      (entries.map Prod.fst).Nodup ∧
      ValuesAlike related ranks part
        ((arrange ranks.here Prod.fst entries).map Data.entry) others) ∨
    (other = data ∧ ∀ entries, data ≠ .mapping entries) := by
  cases alike with
  | same =>
      cases data with
      | mapping entries =>
          exact .inl ⟨entries, entries, rfl, rfl, fun name => rfl, valuesAlike_same part entries⟩
      | _ => exact .inr (.inr ⟨rfl, nofun⟩)
  | leaf isLeaf =>
      refine .inr (.inr ⟨rfl, ?_⟩)
      rintro entries rfl
      simp [Data.isCollection] at isLeaf
  | @named _ _ entries others unmoved values =>
      exact .inl ⟨entries, others, rfl, rfl, unmoved, values⟩
  | @arranged _ _ entries others distinct values =>
      exact .inr (.inl ⟨entries, others, rfl, rfl, distinct, values⟩)

end Holding

end ApiTypes
