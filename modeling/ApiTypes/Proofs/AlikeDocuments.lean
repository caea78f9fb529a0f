import ApiTypes.Proofs.AlikeReadings
import ApiTypes.Proofs.ArrangedDocuments

/-!
# Reading of alike documents

The readers of both formats follow every difference of data along the grammar, so
that alike data is the same specification up to the order of named schemas, or is
rejected alike.
-/

namespace ApiTypes

open Shape

section Readers

variable {related : Part → Members Data → Members Data → Prop}

/-! ## The older format -/

namespace Swagger

section

variable (keeps : ∀ part entries others, related part entries others → HoldSame part entries others)
include keeps

theorem follows_readInfo : Follows related (.part .info) readInfo fun _ => id := by
  refine follows_object keeps fun ranks entries others alike => ?_
  simp (disch := decide) only [Checked.bare_seq, Checked.bare_map,
    alike.optional_plain text, Checked.id_map]

theorem follows_readSchema (levels : Nat) :
    Follows related (.part .definition) (readSchema levels) Schema.rearrange := by
  induction levels with
  | zero =>
      intro ranks data other alike
      rfl
  | succ levels induction =>
      refine follows_object keeps fun ranks entries others alike => ?_
      simp (disch := decide) only [Checked.bare_seq, Checked.bare_map,
        alike.optional_plain text, alike.optional_plain readEnumeration,
        alike.optional_plain (list text), alike.optional induction, alike.optional induction.named,
        alike.optional induction.list, Checked.map_map, Checked.map_seq, Checked.seq_map]
      congr 9
      funext reference description kind format enumeration required items properties allOf
      simp [Schema.rearrange_eq]

theorem follows_readDocument :
    Follows related (.part .document) readDocument Document.rearrange := by
  refine follows_object keeps fun ranks entries others alike => ?_
  have info := follows_readInfo keeps
  have definitions := (follows_readSchema keeps deepestNesting).named
  simp (disch := decide) only [Checked.bare_seq, Checked.bare_map,
    alike.needed_plain text rfl, alike.optional info, alike.optional definitions,
    Checked.map_map, Checked.map_seq, Checked.seq_map]
  congr 3
  funext swagger info definitions
  simp [Document.rearrange]

end

end Swagger

/-! ## The newer format -/

namespace OpenApi

section

variable (keeps : ∀ part entries others, related part entries others → HoldSame part entries others)
include keeps

theorem follows_readReference (levels : Nat) {part : Part}
    (isMember : ⟨"$ref", "ref", .plain⟩ ∈ part.members) :
    Follows related (.part part) (readReference levels) fun _ => id := by
  cases levels with
  | zero =>
      intro ranks data other alike
      rfl
  | succ levels =>
      refine follows_object keeps fun ranks entries others alike => ?_
      rw [alike.needed_plain text rfl isMember, Checked.id_map]

theorem follows_readSlot (levels : Nat) (name : Text) {part : Part} {read : Data → Checked α}
    {change : Ranks → α → α} (isMember : ⟨"$ref", "ref", .plain⟩ ∈ part.members)
    (follows : Follows related (.part part) read change) :
    Follows related (.part part) (readSlot levels name read) (Slot.change change) := by
  intro ranks data other alike
  simp only [readSlot, Checked.bare_orElse, Checked.bare_map, Checked.bare_labelled,
    follows_readReference keeps levels isMember _ _ _ alike, follows _ _ _ alike,
    Checked.map_orElse, Checked.map_map, Checked.id_map]
  rfl

/-- Truth values are read the same, and objects are none. -/
theorem follows_truth (part : Part) : Follows related (.part part) truth fun _ => id := by
  intro ranks data other alike
  rcases alike.object_cases keeps with ⟨entries, others, rfl, rfl, -⟩ | ⟨rfl, -⟩
  · rfl
  · rw [Checked.id_map]

theorem follows_readSchema (levels : Nat) :
    Follows related (.part .schema) (readSchema levels) Schema.rearrange := by
  induction levels with
  | zero =>
      intro ranks data other alike
      rfl
  | succ levels induction =>
      have slot : Follows related (.part .schema) (readSlot levels "Schema" (readSchema levels))
          Schema.rearrangeSlot := by
        rw [Schema.rearrangeSlot_eq_change]
        exact follows_readSlot keeps levels "Schema" (by decide) induction
      have additional : Follows related (.part .schema)
          (fun place => Sum.inl <$> (truth place).labelled "bool" <|>
            Sum.inr <$> readSlot levels "Schema" (readSchema levels) place)
          fun ranks => Sum.map id (Schema.rearrangeSlot ranks) := by
        intro ranks data other alike
        simp only [Checked.bare_orElse, Checked.bare_map, Checked.bare_labelled,
          follows_truth keeps .schema _ _ _ alike, slot _ _ _ alike, Checked.map_orElse,
          Checked.map_map, Checked.id_map]
        rfl
      refine follows_object keeps fun ranks entries others alike => ?_
      simp (disch := decide) only [Checked.bare_seq, Checked.bare_map, alike.optional_plain text,
        alike.optional_plain number, alike.optional_plain truth, alike.optional_plain anything,
        alike.optional_plain (list text), alike.optional_plain (list anything),
        alike.optional slot, alike.optional slot.list, alike.optional slot.named,
        alike.optional additional, Checked.map_map, Checked.map_seq, Checked.seq_map]
      congr 16
      funext title description multipleOf required enumeration kind format nullable preset oneOf
        allOf anyOf negated items properties additionalProperties
      simp [Schema.rearrange_eq]

theorem follows_readSchemaSlot (levels : Nat) :
    Follows related (.part .schema) (readSchemaSlot levels) Schema.rearrangeSlot := by
  rw [Schema.rearrangeSlot_eq_change]
  exact follows_readSlot keeps levels "Schema" (by decide) (follows_readSchema keeps levels)

theorem follows_readParameter (levels : Nat) :
    Follows related (.part .parameter) (readParameter levels) Parameter.rearrange := by
  cases levels with
  | zero =>
      intro ranks data other alike
      rfl
  | succ levels =>
      have schema := follows_readSchemaSlot keeps levels
      refine follows_object keeps fun ranks entries others alike => ?_
      simp (disch := decide) only [Checked.bare_seq, Checked.bare_map,
        alike.needed_plain text rfl,
        alike.needed_plain (scalar locationOf .notInEnumeration) rfl,
        alike.optional_plain truth, alike.optional schema, Checked.map_map, Checked.map_seq,
        Checked.seq_map]
      rfl

theorem follows_readParameters (levels : Nat) :
    Follows related (.list .parameter) (readParameters levels) rearrangeParameters :=
  (follows_readSlot keeps levels "Parameter" (by decide) (follows_readParameter keeps levels)).list

theorem follows_readHeader (levels : Nat) :
    Follows related (.part .header) (readHeader levels) Header.rearrange := by
  have schema := follows_readSchemaSlot keeps levels
  refine follows_object keeps fun ranks entries others alike => ?_
  simp (disch := decide) only [Checked.bare_seq, Checked.bare_map, alike.optional_plain truth,
    alike.optional schema, Checked.map_map, Checked.map_seq, Checked.seq_map]
  rfl

theorem follows_readMediaType (levels : Nat) :
    Follows related (.part .mediaType) (readMediaType levels) MediaType.rearrange := by
  have schema := follows_readSchemaSlot keeps levels
  refine follows_object keeps fun ranks entries others alike => ?_
  simp (disch := decide) only [Checked.bare_map, alike.optional schema, Checked.map_map]
  rfl

theorem follows_readResponse (levels : Nat) :
    Follows related (.part .response) (readResponse levels) Response.rearrange := by
  have header := (follows_readSlot keeps levels "Header" (by decide)
    (follows_readHeader keeps levels)).dictionary
  have mediaType := (follows_readMediaType keeps levels).dictionary
  refine follows_object keeps fun ranks entries others alike => ?_
  simp (disch := decide) only [Checked.bare_seq, Checked.bare_map, alike.optional_plain text,
    alike.optional header, alike.optional mediaType, Checked.map_map, Checked.map_seq,
    Checked.seq_map]
  rfl

theorem follows_readOperation (levels : Nat) :
    Follows related (.part .operation) (readOperation levels) Operation.rearrange := by
  cases levels with
  | zero =>
      intro ranks data other alike
      rfl
  | succ levels =>
      have parameters := follows_readParameters keeps levels
      have responses := (follows_readSlot keeps levels "Response" (by decide)
        (follows_readResponse keeps levels)).dictionaryWithoutExtensions
      refine follows_object keeps fun ranks entries others alike => ?_
      simp (disch := decide) only [Checked.bare_seq, Checked.bare_map, alike.optional_plain text,
        alike.optional parameters, alike.needed responses rfl, Checked.map_map, Checked.map_seq,
        Checked.seq_map]
      rfl

theorem follows_readPathItem (levels : Nat) :
    Follows related (.part .pathItem) (readPathItem levels) PathItem.rearrange := by
  have operation := follows_readOperation keeps levels
  have parameters := follows_readParameters keeps levels
  refine follows_object keeps fun ranks entries others alike => ?_
  simp (disch := decide) only [Checked.bare_seq, Checked.bare_map, alike.optional_plain text,
    alike.optional operation, alike.optional parameters, Checked.map_map, Checked.map_seq,
    Checked.seq_map]
  rfl

theorem follows_readContact : Follows related (.part .contact) readContact fun _ => id := by
  refine follows_object keeps fun ranks entries others alike => ?_
  simp (disch := decide) only [Checked.bare_seq, Checked.bare_map, alike.optional_plain text,
    Checked.id_map]

theorem follows_readLicense : Follows related (.part .license) readLicense fun _ => id := by
  refine follows_object keeps fun ranks entries others alike => ?_
  simp (disch := decide) only [Checked.bare_seq, Checked.bare_map,
    alike.needed_plain text rfl, alike.optional_plain text, Checked.id_map]

theorem follows_readInfo : Follows related (.part .info) readInfo fun _ => id := by
  have contact := follows_readContact keeps
  have license := follows_readLicense keeps
  refine follows_object keeps fun ranks entries others alike => ?_
  simp (disch := decide) only [Checked.bare_seq, Checked.bare_map,
    alike.needed_plain text rfl, alike.optional_plain text, alike.optional contact,
    alike.optional license, Option.map_id, Checked.id_map]

theorem follows_readComponents (levels : Nat) :
    Follows related (.part .components) (readComponents levels) Components.rearrange := by
  have schemas := (follows_readSchemaSlot keeps levels).named
  refine follows_object keeps fun ranks entries others alike => ?_
  simp (disch := decide) only [Checked.bare_map, alike.optional schemas, Checked.map_map]
  rfl

theorem follows_readDocument :
    Follows related (.part .document) readDocument Document.rearrange := by
  have info := follows_readInfo keeps
  have paths := (follows_readPathItem keeps deepestNesting).dictionaryWithoutExtensions
  have components := follows_readComponents keeps deepestNesting
  refine follows_object keeps fun ranks entries others alike => ?_
  simp (disch := decide) only [Checked.bare_seq, Checked.bare_map,
    alike.needed_plain text rfl, alike.needed info rfl, alike.needed paths rfl,
    alike.optional components, Checked.map_map, Checked.map_seq, Checked.seq_map, Checked.id_map]
  rfl

end

end OpenApi

/-! ## Specifications -/

namespace Specification

/-- The specification at a root, if there is one. -/
theorem toOption_ofRoot (root : Data) :
    (ofRoot root).outcome.toOption =
      match (Swagger.readDocument root).bare with
      | .valid document => some (.swagger document)
      | .unwritable => none
      | .invalid _ =>
          match (OpenApi.readDocument root).bare with
          | .valid document => some (.openApi document)
          | _ => none := by
  unfold ofRoot
  cases Swagger.readDocument root with
  | invalid issues => cases OpenApi.readDocument root <;> rfl
  | _ => rfl

theorem toOption_ofRoot_of_alike
    (keeps : ∀ part entries others, related part entries others → HoldSame part entries others)
    {ranks : Ranks} {data other : Data} (alike : Alike related ranks (.part .document) data other) :
    (ofRoot other).outcome.toOption = (ofRoot data).outcome.toOption.map (rearrange ranks) := by
  rw [toOption_ofRoot, toOption_ofRoot, Swagger.follows_readDocument keeps _ _ _ alike,
    OpenApi.follows_readDocument keeps _ _ _ alike]
  cases (Swagger.readDocument data).bare with
  | invalid issues => cases (OpenApi.readDocument data).bare <;> rfl
  | _ => rfl

/-- Alike trees of data are the same specification up to the order of named schemas, or both are
rejected. -/
theorem toOption_ofData_of_alike
    (keeps : ∀ part entries others, related part entries others → HoldSame part entries others)
    {ranks : Ranks} {data other : Data} (isTree : data.isTree = true)
    (otherIsTree : other.isTree = true)
    (alike : Alike related ranks (.part .document) data other) :
    (ofData other).outcome.toOption = (ofData data).outcome.toOption.map (rearrange ranks) := by
  have atRoot := toOption_ofRoot_of_alike keeps alike
  rcases alike.object_cases keeps with ⟨entries, others, rfl, rfl, -⟩ | ⟨rfl, noMapping⟩
  · simpa only [ofData, isTree, otherIsTree, if_true] using atRoot
  · cases other with
    | mapping entries => exact absurd rfl (noMapping entries)
    | _ => rfl

end Specification

end Readers

end ApiTypes
