import ApiTypes.Proofs.AlikeDocuments
import ApiTypes.Specification.Output

/-!
# Keys that are not heard

An object is read by the names of its members.  Entries under other keys do not
count, and neither do second names of members that are there under their first
ones.  A second name alone counts as the first one.
-/

namespace ApiTypes

open Shape

/-- A key is no name that specifications use in a part, and no second name of a member that would
be found under it. -/
def Part.Ignores (part : Part) (entries : Members Data) (key : Data) : Prop :=
  ∀ member ∈ part.members, Data.sameKey key (.text member.wire) = false ∧
    (Data.sameKey key (.text member.own) = true → (entries.find? member.wire).isSome)

instance (part : Part) (entries : Members Data) (key : Data) :
    Decidable (part.Ignores entries key) :=
  inferInstanceAs (Decidable (∀ member ∈ part.members, _ ∧ (_ → _)))

/-- The entries of an object, of which one may be added that is ignored, or stand under the name
that specifications use instead of the second one. -/
inductive Rewords (part : Part) : Members Data → Members Data → Prop
  | kept (entries : Members Data) : Rewords part entries entries
  | added {before after : Members Data} {key value : Data}
      (ignored : part.Ignores (before ++ after) key) :
      Rewords part (before ++ after) (before ++ (key, value) :: after)
  | respelled {before after : Members Data} {member : Member} {value : Data}
      (isMember : member ∈ part.members)
      (wireAbsent : Members.find? (before ++ after) member.wire = none)
      (ownAbsent : Members.find? (before ++ after) member.own = none) :
      Rewords part (before ++ (.text member.own, value) :: after)
        (before ++ (.text member.wire, value) :: after)

namespace Shape.Members

theorem find?_append_cons_of_unlike {before after : Members Data} {key value : Data} {name : Text}
    (unlike : Data.sameKey key (.text name) = false) :
    find? (before ++ (key, value) :: after) name = find? (before ++ after) name := by
  simp [find?, List.find?_append, unlike]

theorem find?_append_cons_of_absent {before after : Members Data} {value : Data} {name : Text}
    (absent : find? (before ++ after) name = none) :
    find? (before ++ (.text name, value) :: after) name = some value := by
  have notBefore : List.find? (fun entry => Data.sameKey entry.1 (.text name)) before = none := by
    simp only [find?, List.find?_append, Option.map_eq_none_iff, Option.or_eq_none_iff] at absent
    exact absent.1
  simp [find?, List.find?_append, notBefore, Data.sameKey_text]

end Shape.Members

theorem holdSame_of_ignored {part : Part} {before after : Members Data} {key value : Data}
    (ignored : part.Ignores (before ++ after) key) :
    HoldSame part (before ++ after) (before ++ (key, value) :: after) := by
  intro member isMember
  obtain ⟨noWire, heard⟩ := ignored member isMember
  have sameWire : Members.find? (before ++ (key, value) :: after) member.wire =
      Members.find? (before ++ after) member.wire :=
    Members.find?_append_cons_of_unlike noWire
  unfold Members.held? Members.locate?
  rw [sameWire]
  cases atWire : Members.find? (before ++ after) member.wire with
  | some found => rfl
  | none =>
      -- Under the second name the entry would be heard here.
      have noOwn : Data.sameKey key (.text member.own) = false := by
        rw [Bool.eq_false_iff]
        intro isOwn
        have isSome := heard isOwn
        rw [atWire] at isSome
        exact Bool.noConfusion isSome
      rw [Members.find?_append_cons_of_unlike noOwn]

theorem holdSame_of_respelled {part : Part} {before after : Members Data} {member : Member}
    {value : Data} (isMember : member ∈ part.members)
    (wireAbsent : Members.find? (before ++ after) member.wire = none)
    (ownAbsent : Members.find? (before ++ after) member.own = none) :
    HoldSame part (before ++ (.text member.own, value) :: after)
      (before ++ (.text member.wire, value) :: after) := by
  intro other isOther
  by_cases same : other = member
  · subst other
    by_cases oneName : member.own = member.wire
    · rw [oneName]
    · have ownUnlike : Data.sameKey (.text member.own) (.text member.wire) = false :=
        Data.sameKey_text_eq_false.mpr (by simpa using oneName)
      have noWire : Members.find? (before ++ (.text member.own, value) :: after) member.wire =
          none := by
        rw [Members.find?_append_cons_of_unlike ownUnlike, wireAbsent]
      simp [Members.held?, Members.locate?, noWire,
        Members.find?_append_cons_of_absent wireAbsent,
        Members.find?_append_cons_of_absent ownAbsent]
  · have unlike (name otherName : Text) (named : name = member.wire ∨ name = member.own)
        (otherNamed : otherName = other.wire ∨ otherName = other.own) :
        Data.sameKey (.text name) (.text otherName) = false := by
      rw [Data.sameKey_text_eq_false]
      intro shared
      obtain rfl : name = otherName := Data.text.inj shared
      exact same (Part.eq_of_shared_name isOther isMember otherNamed named)
    simp only [Members.held?, Members.locate?,
      Members.find?_append_cons_of_unlike (unlike member.wire other.wire (.inl rfl) (.inl rfl)),
      Members.find?_append_cons_of_unlike (unlike member.wire other.own (.inl rfl) (.inr rfl)),
      Members.find?_append_cons_of_unlike (unlike member.own other.wire (.inr rfl) (.inl rfl)),
      Members.find?_append_cons_of_unlike (unlike member.own other.own (.inr rfl) (.inr rfl))]

theorem Rewords.holdSame (part : Part) (entries others : Members Data)
    (rewords : Rewords part entries others) : HoldSame part entries others := by
  cases rewords with
  | kept => exact fun member isMember => rfl
  | added ignored => exact holdSame_of_ignored ignored
  | respelled isMember wireAbsent ownAbsent =>
      exact holdSame_of_respelled isMember wireAbsent ownAbsent

theorem readSlot_eq_reference_iff_readReference (levels : Nat) (name : Text)
    (read : Data → Checked α) (place : Data) (target : Text) :
    OpenApi.readSlot levels name read place = .valid (.reference target) ↔
      OpenApi.readReference levels place = .valid target := by
  unfold OpenApi.readSlot
  cases OpenApi.readReference levels place with
  | valid found =>
      change Checked.valid (OpenApi.Slot.reference found) = .valid (.reference target) ↔ _
      simp
  | invalid issues => cases read place <;> exact iff_of_false nofun nofun
  | unwritable => exact iff_of_false nofun nofun

/-- A slot is a reference exactly if it has the member that makes it one, under either of its
names, and this can be read as a text. -/
theorem readSlot_eq_reference_iff (levels : Nat) (name : Text) (read : Data → Checked α)
    (entries : Members Data) (target : Text) :
    OpenApi.readSlot (levels + 1) name read (Data.mapping entries) =
        .valid (.reference target) ↔
      ∃ value, (entries.find? "$ref" = some value ∨
          entries.find? "$ref" = none ∧ entries.find? "ref" = some value) ∧
        text value = .valid target := by
  rw [readSlot_eq_reference_iff_readReference]
  change entries.needed "$ref" "ref" text = .valid target ↔ _
  unfold Members.needed Members.locate?
  cases entries.find? "$ref" with
  | some value => simp [Checked.labelled_eq_valid_iff]
  | none =>
      cases entries.find? "ref" with
      | some value => simp [Checked.labelled_eq_valid_iff]
      | none => simp [Checked.labelled_eq_valid_iff, Checked.refuse]

namespace Specification

/-- Entries that are ignored change nothing at any places of a tree of data, and a second name by
itself is read like the name that specifications use.  So a slot is a reference under both. -/
theorem rewording_changes_nothing (data other : Data) (isTree : data.isTree = true)
    (otherIsTree : other.isTree = true)
    (alike : Alike Rewords .still (.part .document) data other) :
    (ofData other).outcome.toOption = (ofData data).outcome.toOption ∧
      ∀ (α : Type) (levels : Nat) (name : Text) (read : Data → Checked α)
        (entries : Members Data) (target : Text),
        OpenApi.readSlot (levels + 1) name read (Data.mapping entries) =
            .valid (.reference target) ↔
          ∃ value, (entries.find? "$ref" = some value ∨
              entries.find? "$ref" = none ∧ entries.find? "ref" = some value) ∧
            text value = .valid target := by
  refine ⟨?_, fun _ => readSlot_eq_reference_iff⟩
  rw [toOption_ofData_of_alike Rewords.holdSame isTree otherIsTree alike]
  cases (ofData data).outcome.toOption with
  | none => rfl
  | some specification => exact congrArg some specification.rearrange_still

/-- A document with one schema. -/
def documentWith (schema : Data) : Data :=
  .mapping [(.text "openapi", .text "3.0.0"),
    (.text "info", .mapping [(.text "title", .text "T"), (.text "version", .text "1")]),
    (.text "paths", .mapping []),
    (.text "components",
      .mapping [(.text "schemas", .mapping [(.text "Pet", schema)])])]

theorem documentWith_alike {schema other : Data}
    (alike : Alike Rewords .still (.part .schema) schema other) :
    Alike Rewords .still (.part .document) (documentWith schema) (documentWith other) := by
  refine .object (.cons (.same _) (.cons (.same _) (.cons (.same _) (.cons ?_ .nil)))) (.kept _)
  refine .object (.cons ?_ .nil) (.kept _)
  exact .named (fun _ => rfl) (.cons alike .nil)

/-- The members of a schema of texts, with one more entry. -/
def textWith (key : Text) : Members Data :=
  [(.text "type", .text "string"), (.text key, .text "x")]

/-- An entry under an unknown key changes nothing, but one under the second name of a reference
makes the schema a reference, which cannot be translated here. -/
theorem strayReference_is_heard :
    (ofData (documentWith (.mapping (textWith "x-ref")))).outcome.toOption =
        (ofData (documentWith (.mapping [(.text "type", .text "string")]))).outcome.toOption ∧
      OpenApi.readSlot 254 "Schema" (OpenApi.readSchema 254) (Data.mapping (textWith "ref")) =
        .valid (.reference "x") ∧
      ((ofData (documentWith (.mapping [(.text "type", .text "string")]))).outcome.toOption.map
        fun specification => specification.declarations.outcome.toOption.isSome) = some true ∧
      ((ofData (documentWith (.mapping (textWith "ref")))).outcome.toOption.map
        fun specification => specification.declarations.outcome.toOption.isSome) = some false := by
  have added : Rewords .schema ([(.text "type", .text "string")] ++ [])
      ([(.text "type", .text "string")] ++ (.text "x-ref", .text "x") :: []) :=
    .added (by decide +kernel)
  obtain ⟨unheard, referenceIff⟩ := rewording_changes_nothing
    (documentWith (.mapping [(.text "type", .text "string")]))
    (documentWith (.mapping (textWith "x-ref"))) (by decide) (by decide)
    (documentWith_alike (.object (.cons (.same _) .nil) added))
  have heard := (referenceIff _ 253 "Schema" (OpenApi.readSchema 254) (textWith "ref") "x").mpr
    ⟨.text "x", .inr ⟨rfl, rfl⟩, rfl⟩
  exact ⟨unheard, heard, by decide +kernel, by decide +kernel⟩

end Specification

end ApiTypes
