import ApiTypes.OpenApi.Lowering
import ApiTypes.Proofs.VisitedSchemas

/-!
# Schemas of both formats

Most schemas of the older format can be written in the newer one, with the
references respelled.  Such a schema has the same type in both formats, without
any report, if it has a type at all, which fails only where a visited schema
refers outside the definitions.
-/

namespace ApiTypes.Swagger

/-- A reference as the newer format spells it. -/
def respelled (target : Text) : Text :=
  match target.after? referenceOpening with
  | some name => OpenApi.referenceOpening ++ name
  | none => target

namespace Schema

mutual

/-- A schema as the newer format writes it. -/
def toOpenApi (schema : Schema) : OpenApi.Slot OpenApi.Schema :=
  match schema with
  | { reference, kind, format, enumeration, required, items, properties, allOf, .. } =>
      match reference with
      | some target => .reference (respelled target)
      | none =>
          .inline {
            title := none
            description := none
            multipleOf := none
            required
            enumeration := enumeration.map fun words => words.map .text
            kind
            format
            nullable := none
            preset := none
            oneOf := none
            allOf :=
              match allOf with
              | some members => some (membersToOpenApi members)
              | none => none
            anyOf := none
            negated := none
            items :=
              match items with
              | some item => some (toOpenApi item)
              | none => none
            properties :=
              match properties with
              | some properties => some (propertiesToOpenApi properties)
              | none => none
            additionalProperties := none }

def membersToOpenApi : List Schema → List (OpenApi.Slot OpenApi.Schema)
  | [] => []
  | member :: members => toOpenApi member :: membersToOpenApi members

/-- List counterpart of `toOpenApi` for properties. -/
def propertiesToOpenApi : List (Text × Schema) → List (Text × OpenApi.Slot OpenApi.Schema)
  | [] => []
  | (name, schema) :: properties => (name, toOpenApi schema) :: propertiesToOpenApi properties

end

/-- A kind that both formats know, with what it needs there: the items of an array, and for a
text without an enumeration no format of which only one of them takes notice. -/
def isCommonKind (schema : Schema) (kind : Text) : Bool :=
  (["integer", "number", "boolean", "object"] : List Text).contains kind ||
    (kind == Text.ofString "string" &&
      (schema.enumeration.isSome || schema.format != some (Text.ofString "date"))) ||
    (kind == Text.ofString "array" && schema.items.isSome)

/-- A schema that both formats know: a reference to a definition, an intersection, or one of a
common kind. -/
def isCommon (schema : Schema) : Bool :=
  (schema.reference.any fun target => (target.after? referenceOpening).isSome) ||
    schema.allOf.isSome || schema.kind.any schema.isCommonKind

/-- A schema is no reference, or one to a definition. -/
def refersInside (schema : Schema) : Bool :=
  schema.reference.all fun target => (target.after? referenceOpening).isSome

theorem foreign?_eq_none_iff (schema : Schema) :
    schema.foreign? = none ↔ schema.refersInside = true := by
  unfold foreign? refersInside
  cases schema.reference with
  | none => simp
  | some target =>
      cases opened : target.after? referenceOpening <;> simp [localName, faultOf?, opened]

/-- A common schema that is neither a reference nor an intersection is of one of five kinds. -/
theorem ofName?_of_isCommon {schema : Schema} {word : Text} (isCommon : schema.isCommon = true)
    (noReference : schema.reference = none) (noMembers : schema.allOf = none)
    (isKind : schema.kind = some word) :
    SchemaKind.ofName? word = some .number ∨ SchemaKind.ofName? word = some .boolean ∨
      SchemaKind.ofName? word = some .object ∨
      (SchemaKind.ofName? word = some .text ∧
        (schema.enumeration = none → schema.format ≠ some "date")) ∨
      (SchemaKind.ofName? word = some .array ∧ schema.items.isSome) := by
  have isCommonKind : schema.isCommonKind word = true := by
    simpa [Schema.isCommon, noReference, noMembers, isKind] using isCommon
  simp only [Schema.isCommonKind, Bool.or_eq_true, List.contains_iff_mem, List.mem_cons,
    List.not_mem_nil, or_false, Bool.and_eq_true, beq_iff_eq, bne_iff_ne] at isCommonKind
  rcases isCommonKind with ((rfl | rfl | rfl | rfl) | ⟨rfl, noDate⟩) | ⟨rfl, hasItems⟩
  · exact .inl (by decide)
  · exact .inl (by decide)
  · exact .inr (.inl (by decide))
  · exact .inr (.inr (.inl (by decide)))
  · refine .inr (.inr (.inr (.inl ⟨by decide, ?_⟩)))
    intro noEnumeration
    simpa [noEnumeration] using noDate
  · exact .inr (.inr (.inr (.inr ⟨by decide, hasItems⟩)))

theorem referenceType_respelled {target name : Text}
    (isLocal : localName referenceOpening target = .ok name) :
    OpenApi.referenceType (respelled target) = pure (.named name) := by
  cases opened : target.after? referenceOpening with
  | none => simp [localName, opened] at isLocal
  | some rest =>
      obtain rfl : rest = name := by simpa [localName, opened] using isLocal
      simp [OpenApi.referenceType, localName, respelled, opened, Text.after?_append]

/-- The members of an enumeration of texts. -/
theorem enumerationType_map_text (words : List Text) :
    OpenApi.enumerationType (words.map .text) =
      pure (.union (words.map fun word => .literal (.text word))) := by
  have members : OpenApi.enumerationMembers (words.map .text) =
      pure (words.map fun word => TypeExpr.literal (.text word)) := by
    induction words with
    | nil => rfl
    | cons word words induction =>
        simp [OpenApi.enumerationMembers, Literal.ofData, induction]
  simp [OpenApi.enumerationType, members]

/-- The type of a text does not depend on the format, if dates play no part in it. -/
theorem textType_map_text {enumeration : Option (List Text)} {format : Option Text}
    (noDate : enumeration = none → format ≠ some "date") :
    OpenApi.textType (enumeration.map fun words => words.map .text) format =
      pure (textType enumeration format) := by
  cases enumeration with
  | some words => exact enumerationType_map_text words
  | none =>
      have sameDates : format.any OpenApi.dateFormats.contains =
          decide (format = some (Text.ofString "date-time")) := by
        cases format with
        | none => rfl
        | some name =>
            have otherName : name ≠ "date" := by simpa using noDate rfl
            simp [OpenApi.dateFormats, otherName]
      simp [OpenApi.textType, textType, sameDates]

mutual

/-- A schema of which all visited parts are common has the same type in the newer format. -/
theorem lowerSlot_toOpenApi {schema : Schema} {type : TypeExpr}
    (common : ∀ node ∈ schema.visited, node.isCommon = true)
    (lowered : schema.lower = .ok type) :
    OpenApi.Schema.lowerSlot schema.toOpenApi = pure type := by
  obtain ⟨reference, description, kind, format, enumeration, required, items, properties, allOf⟩ :=
    schema
  rw [visited.eq_def] at common
  rw [lower.eq_def] at lowered
  rw [toOpenApi.eq_def]
  simp only [List.mem_cons, forall_eq_or_imp] at common
  obtain ⟨isCommon, inside⟩ := common
  cases reference with
  | some target =>
      obtain ⟨name, isLocal, rfl⟩ := exists_of_bind_pure_eq_ok lowered
      exact referenceType_respelled isLocal
  | none =>
      dsimp only at lowered inside ⊢
      rw [OpenApi.Schema.lowerSlot, OpenApi.Schema.lower.eq_def]
      cases allOf with
      | some members =>
          obtain ⟨types, membersLowered, rfl⟩ := exists_of_bind_pure_eq_ok lowered
          simp only [lowerMembers_membersToOpenApi inside membersLowered, Logged.pure_bind]
      | none =>
          dsimp only at lowered inside ⊢
          cases kind with
          | none => simp [Schema.isCommon] at isCommon
          | some word =>
              dsimp only [Option.bind_some] at lowered inside ⊢
              rcases ofName?_of_isCommon isCommon rfl rfl rfl with
                known | known | known | ⟨known, noDate⟩ | ⟨known, hasItems⟩
              · rw [known] at lowered ⊢
                exact congrArg pure (Except.ok.inj lowered)
              · rw [known] at lowered ⊢
                exact congrArg pure (Except.ok.inj lowered)
              · rw [known] at lowered inside ⊢
                dsimp only at lowered inside ⊢
                cases properties with
                | none => exact congrArg pure (Except.ok.inj lowered)
                | some properties =>
                    obtain ⟨fields, propertiesLowered, rfl⟩ := exists_of_bind_pure_eq_ok lowered
                    simp only [lowerProperties_propertiesToOpenApi inside propertiesLowered,
                      Logged.pure_bind]
              · rw [known] at lowered ⊢
                rw [← Except.ok.inj lowered]
                exact textType_map_text noDate
              · rw [known] at lowered inside ⊢
                dsimp only at lowered inside ⊢
                cases items with
                | none => simp at hasItems
                | some item =>
                    obtain ⟨element, itemLowered, rfl⟩ := exists_of_bind_pure_eq_ok lowered
                    simp only [lowerSlot_toOpenApi inside itemLowered, Logged.pure_bind]

theorem lowerMembers_membersToOpenApi {members : List Schema} {types : List TypeExpr}
    (common : ∀ node ∈ visitedMembers members, node.isCommon = true)
    (lowered : lowerMembers members = .ok types) :
    OpenApi.Schema.lowerMembers (membersToOpenApi members) = pure types := by
  cases members with
  | nil =>
      obtain rfl : [] = types := Except.ok.inj lowered
      rfl
  | cons member members =>
      simp only [visitedMembers, List.mem_append] at common
      obtain ⟨type, others, memberLowered, othersLowered, rfl⟩ :=
        exists_of_bind_bind_pure_eq_ok lowered
      have memberAlike := lowerSlot_toOpenApi (fun node isNode => common node (.inl isNode))
        memberLowered
      have othersAlike := lowerMembers_membersToOpenApi
        (fun node isNode => common node (.inr isNode)) othersLowered
      simp [membersToOpenApi, OpenApi.Schema.lowerMembers, memberAlike, othersAlike]

/-- List counterpart of `lowerSlot_toOpenApi` for properties. -/
theorem lowerProperties_propertiesToOpenApi {required : List Text}
    {properties : List (Text × Schema)} {fields : List (Field TypeExpr)}
    (common : ∀ node ∈ visitedProperties properties, node.isCommon = true)
    (lowered : lowerProperties required properties = .ok fields) :
    OpenApi.Schema.lowerProperties required (propertiesToOpenApi properties) = pure fields := by
  cases properties with
  | nil =>
      obtain rfl : [] = fields := Except.ok.inj lowered
      rfl
  | cons property properties =>
      obtain ⟨name, schema⟩ := property
      simp only [visitedProperties, List.mem_append] at common
      obtain ⟨type, others, schemaLowered, othersLowered, rfl⟩ :=
        exists_of_bind_bind_pure_eq_ok lowered
      have schemaAlike := lowerSlot_toOpenApi (fun node isNode => common node (.inl isNode))
        schemaLowered
      have othersAlike := lowerProperties_propertiesToOpenApi
        (fun node isNode => common node (.inr isNode)) othersLowered
      simp [propertiesToOpenApi, OpenApi.Schema.lowerProperties, schemaAlike, othersAlike]

end

end Schema

/-- A schema of which all visited parts are common has the same type in both formats, if no
visited part refers outside the definitions; if one does, it has no type. -/
theorem common_schema_lowers_alike {schema : Schema}
    (common : ∀ node ∈ schema.visited, node.isCommon = true) :
    ((∀ node ∈ schema.visited, node.refersInside = true) →
      ∃ type, schema.lower = .ok type ∧
        OpenApi.Schema.lowerSlot schema.toOpenApi = pure type) ∧
      ((∃ node ∈ schema.visited, node.refersInside = false) →
        ∃ foreign, schema.lower = .error foreign) := by
  constructor
  · intro inside
    obtain ⟨type, lowered⟩ := schema.exists_lower_eq_ok_iff.mpr fun node isNode =>
      node.foreign?_eq_none_iff.mpr (inside node isNode)
    exact ⟨type, lowered, Schema.lowerSlot_toOpenApi common lowered⟩
  · rintro ⟨node, isNode, outside⟩
    cases lowered : schema.lower with
    | error foreign => exact ⟨foreign, rfl⟩
    | ok type =>
        have noForeign := schema.exists_lower_eq_ok_iff.mp ⟨type, lowered⟩ node isNode
        rw [Schema.foreign?_eq_none_iff, outside] at noForeign
        cases noForeign

/-- A schema that says nothing. -/
def blank : Schema :=
  { reference := none, description := none, kind := none, format := none, enumeration := none
    required := none, items := none, properties := none, allOf := none }

/-- An object with a list of pets or of one of two words, and a day that is required. -/
def visit : Schema :=
  { blank with
    kind := some "object"
    required := some ["day"]
    properties := some
      [("guests", { blank with
          kind := some "array"
          items := some { blank with
            allOf := some
              [{ blank with reference := some "#/definitions/Pet" },
                { blank with kind := some "string", enumeration := some ["cat", "dog"] }] } }),
        ("day", { blank with kind := some "string", format := some "date-time" })] }

theorem visit_lowers_alike :
    (∀ node ∈ visit.visited, node.isCommon = true) ∧
      (∀ node ∈ visit.visited, node.refersInside = true) ∧
      OpenApi.Schema.lowerSlot visit.toOpenApi =
        pure (.record
          [⟨"guests", false, .array (.intersection
              [.named "Pet", .union [.literal (.text "cat"), .literal (.text "dog")]])⟩,
            ⟨"day", true, .named "Date"⟩]) := by
  have common : ∀ node ∈ visit.visited, node.isCommon = true := by
    simp only [← List.all_eq_true]
    decide
  have inside : ∀ node ∈ visit.visited, node.refersInside = true := by
    simp only [← List.all_eq_true]
    decide
  obtain ⟨type, lowered, alike⟩ := (common_schema_lowers_alike common).1 inside
  refine ⟨common, inside, ?_⟩
  rw [alike, ← Except.ok.inj lowered]
  rfl

/-- An intersection that is a reference to no definition as well. -/
def foreignIntersection : Schema :=
  { blank with reference := some "Pet", allOf := some [] }

/-- What a schema has besides a reference outside the definitions does not give it a type. -/
theorem foreignIntersection_has_no_type :
    (∀ node ∈ foreignIntersection.visited, node.isCommon = true) ∧
      ¬ ∃ type, foreignIntersection.lower = .ok type ∧
        OpenApi.Schema.lowerSlot foreignIntersection.toOpenApi = pure type := by
  constructor
  · simp only [← List.all_eq_true]
    decide
  · rintro ⟨type, lowered, -⟩
    cases lowered

end ApiTypes.Swagger
