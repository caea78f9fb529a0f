import ApiTypes.Proofs.AlikeDocuments
import ApiTypes.Proofs.ArrangedTypes
import ApiTypes.Proofs.DistinctKeys

/-!
# Values that members hold

An object is read by which of its members hold which values.  The order of its
entries does not count, and neither do members that hold nothing.  The order of
named schemas is the order of declarations, and that of properties the order of
fields.
-/

namespace ApiTypes

open Shape

namespace Part

/-- An entry is no member that holds nothing. -/
def tells (part : Part) (entry : Data × Data) : Bool :=
  !(isNull entry.2 && part.wireKeys.any fun wire => Data.sameKey entry.1 (.text wire))

/-- An object uses no second names, except for those that are first ones as well. -/
def NamesWire (part : Part) (entries : Members Data) : Prop :=
  ∀ entry ∈ entries, ∀ member ∈ part.members,
    Data.sameKey entry.1 (.text member.own) = true → member.own = member.wire

end Part

instance (part : Part) (entries : Members Data) : Decidable (part.NamesWire entries) :=
  inferInstanceAs (Decidable (∀ entry ∈ entries, ∀ member ∈ part.members, _ → _))

/-- The entries of an object in another order, where members that hold nothing may come and go. -/
structure Permutes (part : Part) (entries others : Members Data) : Prop where
  distinct : HasDistinctKeys entries
  othersDistinct : HasDistinctKeys others
  namesWire : part.NamesWire entries
  perm : (others.filter part.tells).Perm (entries.filter part.tells)

theorem find?_eq_some_iff {entries : Members Data} (distinct : HasDistinctKeys entries)
    {name : Text} {value : Data} :
    entries.find? name = some value ↔ (Data.text name, value) ∈ entries := by
  induction entries with
  | nil => simp [Members.find?]
  | cons entry entries induction =>
      obtain ⟨key, present⟩ := entry
      obtain ⟨apart, distinct⟩ := List.pairwise_cons.mp distinct
      have below := induction distinct
      simp only [Members.find?, List.find?_cons] at below ⊢
      cases same : Data.sameKey key (.text name) with
      | true =>
          obtain rfl := Data.sameKey_text.mp same
          constructor
          · rintro found
            obtain rfl : present = value := by simpa using found
            simp
          · intro member
            rcases List.mem_cons.mp member with here | below
            · obtain rfl : value = present := (Prod.mk.inj here).2
              rfl
            · have different := apart _ below
              rw [same] at different
              exact Bool.noConfusion different
      | false =>
          have notHere : (Data.text name, value) ≠ (key, present) := by
            intro here
            obtain rfl : Data.text name = key := (Prod.mk.inj here).1
            rw [Data.sameKey_text.mpr rfl] at same
            exact Bool.noConfusion same
          rw [below, List.mem_cons, or_iff_right notHere]

/-- A member of an object without second names holds what stands under its name. -/
theorem held?_eq_some_iff {part : Part} {entries : Members Data}
    (distinct : HasDistinctKeys entries) (namesWire : part.NamesWire entries) {member : Member}
    (isMember : member ∈ part.members) {value : Data} :
    entries.held? member = some value ↔
      (Data.text member.wire, value) ∈ entries ∧ isNull value = false := by
  have located : (entries.locate? member.wire member.own).map Prod.snd =
      entries.find? member.wire := by
    unfold Members.locate?
    cases atWire : entries.find? member.wire with
    | some found => rfl
    | none =>
        cases atOwn : entries.find? member.own with
        | none => rfl
        | some found =>
            have inside := (find?_eq_some_iff distinct).mp atOwn
            rw [namesWire _ inside member isMember (Data.sameKey_text.mpr rfl), atWire] at atOwn
            cases atOwn
  unfold Members.held?
  rw [located, Option.filter_eq_some_iff, find?_eq_some_iff distinct]
  simp

theorem Permutes.othersNamesWire {part : Part} {entries others : Members Data}
    (permutes : Permutes part entries others) : part.NamesWire others := by
  intro entry inside member isMember isOwn
  by_cases tells : part.tells entry
  · have there : entry ∈ entries.filter part.tells :=
      permutes.perm.mem_iff.mp (List.mem_filter.mpr ⟨inside, tells⟩)
    exact permutes.namesWire entry (List.mem_filter.mp there).1 member isMember isOwn
  · rw [Data.sameKey_text] at isOwn
    obtain ⟨other, isOther, shared⟩ : ∃ other ∈ part.members, entry.1 = .text other.wire := by
      simp only [Part.tells, Part.wireKeys, Bool.not_eq_true, Bool.not_eq_false',
        Bool.and_eq_true, List.any_map, List.any_eq_true, Function.comp_apply,
        Data.sameKey_text] at tells
      exact tells.2
    have sameMember : member = other :=
      Part.eq_of_shared_name isMember isOther (.inr rfl) (.inl (Data.text.inj (isOwn ▸ shared)))
    subst other
    exact Data.text.inj (isOwn ▸ shared)

theorem Permutes.holdSame (part : Part) (entries others : Members Data)
    (permutes : Permutes part entries others) : HoldSame part entries others := by
  intro member isMember
  apply Option.ext
  intro value
  rw [held?_eq_some_iff permutes.othersDistinct permutes.othersNamesWire isMember,
    held?_eq_some_iff permutes.distinct permutes.namesWire isMember]
  refine and_congr_left fun something => ?_
  have tells : part.tells (Data.text member.wire, value) = true := by
    simp [Part.tells, something]
  have sameEntries := permutes.perm.mem_iff (a := (Data.text member.wire, value))
  simpa only [List.mem_filter, tells, and_true] using sameEntries

namespace Specification

/-- Data that differs in the order of the entries of its objects, in members that hold nothing and
in the order of its named schemas and properties is the same specification up to this order, or is
rejected in both cases.  The declarations and the fields of their records come in the same order as
the schemas and properties they are made from, and nothing else changes.  Ranks of distinct names
bring these in any order. -/
theorem permuting_permutes_declarations :
    (∀ (ranks : Ranks) (data other : Data), data.isTree = true → other.isTree = true →
      Alike Permutes ranks (.part .document) data other →
        (ofData other).outcome.toOption = (ofData data).outcome.toOption.map (rearrange ranks) ∧
        (ranks = .still → (ofData other).outcome.toOption = (ofData data).outcome.toOption)) ∧
    (∀ (ranks : Ranks) (specification : Specification),
      (specification.rearrange ranks).declarations.result? =
        specification.declarations.result?.map
          (Declaration.rearrangeAll (specification.schemaRanks ranks))) ∧
    (∀ entries others : List (Text × Data), others.Perm entries →
      (entries.map Prod.fst).Nodup → ∃ rank, arrange rank Prod.fst entries = others) := by
  refine ⟨fun ranks data other isTree otherIsTree alike => ?_,
    fun ranks specification => specification.result?_declarations_rearrange ranks,
    fun entries others perm distinct => exists_arrange_eq perm distinct⟩
  have rearranged := toOption_ofData_of_alike Permutes.holdSame isTree otherIsTree alike
  refine ⟨rearranged, ?_⟩
  rintro rfl
  rw [rearranged]
  cases (ofData data).outcome.toOption with
  | none => rfl
  | some specification => exact congrArg some specification.rearrange_still

/-- The order of the alphabet on the names below. -/
def alphabet : Ranks := fun _ name =>
  if name = "A" ∨ name = "x" then 0 else 1

def textSchema : Data :=
  .mapping [(.text "type", .text "string")]

def pointSchema (properties : List (Text × Data)) : Data :=
  .mapping [(.text "type", .text "object"),
    (.text "properties", .mapping (properties.map Data.entry))]

def descending : List (Text × Data) := [("y", textSchema), ("x", textSchema)]

def ascending : List (Text × Data) := [("x", textSchema), ("y", textSchema)]

def descendingWith (point : Data) : List (Text × Data) := [("B", point), ("A", textSchema)]

def ascendingWith (point : Data) : List (Text × Data) := [("A", textSchema), ("B", point)]

/-- A document whose definitions and properties go down the alphabet. -/
def descendingDocument : Data :=
  .mapping [(.text "definitions",
      .mapping ((descendingWith (pointSchema descending)).map Data.entry)),
    (.text "swagger", .text "2.0")]

/-- The same up the alphabet, with its entries in another order and a member that holds
nothing. -/
def ascendingDocument : Data :=
  .mapping [(.text "swagger", .text "2.0"), (.text "info", .null),
    (.text "definitions",
      .mapping ((ascendingWith (pointSchema ascending)).map Data.entry))]

theorem textSchema_alike (ranks : Ranks) :
    Alike Permutes ranks (.part .definition) textSchema textSchema :=
  .object (.cons (.plain _) .nil) ⟨by decide, by decide, by decide, .refl _⟩

theorem pointSchema_alike :
    Alike Permutes alphabet (.part .definition) (pointSchema descending)
      (pointSchema ascending) := by
  have inOrder : arrange alphabet.here Prod.fst descending = ascending :=
    arrange_eq_of_pairwise (.swap _ _ _) (by decide)
  have properties : Alike Permutes alphabet (.named .definition)
      (.mapping (descending.map Data.entry)) (.mapping (ascending.map Data.entry)) := by
    refine .arranged (by decide) ?_
    rw [inOrder]
    exact .cons (textSchema_alike _) (.cons (textSchema_alike _) .nil)
  exact .object (.cons (.plain _) (.cons properties .nil))
    ⟨by decide, by decide, by decide, .refl _⟩

theorem descendingDocument_alike :
    Alike Permutes alphabet (.part .document) descendingDocument ascendingDocument := by
  have inOrder : arrange alphabet.here Prod.fst (descendingWith (pointSchema descending)) =
      ascendingWith (pointSchema descending) :=
    arrange_eq_of_pairwise (.swap _ _ _) (by decide)
  have definitions : Alike Permutes alphabet (.named .definition)
      (.mapping ((descendingWith (pointSchema descending)).map Data.entry))
      (.mapping ((ascendingWith (pointSchema ascending)).map Data.entry)) := by
    refine .arranged (by decide) ?_
    rw [inOrder]
    exact .cons (textSchema_alike _) (.cons pointSchema_alike .nil)
  exact .object (.cons definitions (.cons (.plain _) .nil))
    ⟨by decide, by decide, by decide, .swap _ _ _⟩

/-- The declarations and the fields of the second document go up the alphabet, as those of the
first one do once they are arranged. -/
theorem ascendingDocument_declares_in_order :
    (ofData ascendingDocument).outcome.toOption =
        (ofData descendingDocument).outcome.toOption.map (rearrange alphabet) ∧
      ((ofData descendingDocument).outcome.toOption.bind fun specification =>
        specification.declarations.result?.map (List.map Declaration.name)) =
          some [Text.ofString "B", Text.ofString "A"] ∧
      ((ofData ascendingDocument).outcome.toOption.bind fun specification =>
        specification.declarations.result?.map (List.map Declaration.name)) =
          some [Text.ofString "A", Text.ofString "B"] ∧
      ∃ rank, arrange rank Prod.fst descending = ascending := by
  refine ⟨?_, by decide +kernel, by decide +kernel, ?_⟩
  · exact (permuting_permutes_declarations.1 alphabet descendingDocument ascendingDocument
      (by decide) (by decide) descendingDocument_alike).1
  · exact permuting_permutes_declarations.2.2 descending ascending (.swap _ _ _) (by decide)

end Specification

end ApiTypes
