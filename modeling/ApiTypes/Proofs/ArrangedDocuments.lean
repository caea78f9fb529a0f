import ApiTypes.OpenApi.Document
import ApiTypes.Proofs.Arrangement
import ApiTypes.Specification
import ApiTypes.Swagger.Document

/-!
# Arranged documents

The schemas and documents of both formats with their named schemas in the order
of ranks.  A place is the way to it along the names that specifications use.
-/

namespace ApiTypes

open Shape (Step)

/-! ## The older format -/

namespace Swagger

namespace Schema

mutual

def rearrange (ranks : Ranks) (schema : Schema) : Schema :=
  match schema with
  | { reference, description, kind, format, enumeration, required, items, properties, allOf } =>
      { reference, description, kind, format, enumeration, required
        items :=
          match items with
          | some item => some (rearrange (ranks.under (.name "items")) item)
          | none => none
        properties :=
          match properties with
          | some properties =>
              let ranks := ranks.under (.name "properties")
              some (arrange ranks.here Prod.fst (rearrangeProperties ranks properties))
          | none => none
        allOf :=
          match allOf with
          | some members => some (rearrangeMembers (ranks.under (.name "allOf")) 0 members)
          | none => none }

def rearrangeMembers (ranks : Ranks) (index : Nat) : List Schema → List Schema
  | [] => []
  | member :: members =>
      rearrange (ranks.under (.number index)) member :: rearrangeMembers ranks (index + 1) members

/-- Properties whose schemas are rearranged, in the order that they have. -/
def rearrangeProperties (ranks : Ranks) : List (Text × Schema) → List (Text × Schema)
  | [] => []
  | (name, schema) :: properties =>
      (name, rearrange (ranks.under (.name name)) schema) :: rearrangeProperties ranks properties

end

theorem rearrangeMembers_eq (ranks : Ranks) (index : Nat) (members : List Schema) :
    rearrangeMembers ranks index members = changeItems rearrange ranks index members := by
  induction members generalizing index with
  | nil => rfl
  | cons member members induction => rw [rearrangeMembers, changeItems, induction]

theorem rearrangeProperties_eq (ranks : Ranks) (properties : List (Text × Schema)) :
    rearrangeProperties ranks properties = changeNamed rearrange ranks properties := by
  induction properties with
  | nil => rfl
  | cons property properties induction =>
      obtain ⟨name, schema⟩ := property
      rw [rearrangeProperties, induction]
      rfl

theorem rearrange_eq (ranks : Ranks) (schema : Schema) :
    schema.rearrange ranks =
      { schema with
        items := schema.items.map (rearrange (ranks.under (.name "items")))
        properties :=
          schema.properties.map (arrangeNamed rearrange (ranks.under (.name "properties")))
        allOf := schema.allOf.map (changeItems rearrange (ranks.under (.name "allOf")) 0) } := by
  obtain ⟨_, _, _, _, _, _, items, properties, allOf⟩ := schema
  cases items <;> cases properties <;> cases allOf <;>
    simp [rearrange, rearrangeMembers_eq, rearrangeProperties_eq, arrangeNamed]

mutual

theorem rearrange_still (schema : Schema) : schema.rearrange .still = schema := by
  match schema with
  | { items, properties, allOf, .. } =>
      have itemsStill : items.map (rearrange .still) = items := by
        cases items with
        | none => rfl
        | some item => exact congrArg some (rearrange_still item)
      have propertiesStill : properties.map (arrangeNamed rearrange .still) = properties := by
        cases properties with
        | none => rfl
        | some properties =>
            rw [Option.map_some, arrangeNamed, ← rearrangeProperties_eq,
              rearrangeProperties_still properties, arrange_of_unmoved Ranks.still_here]
      have allOfStill : allOf.map (changeItems rearrange .still 0) = allOf := by
        cases allOf with
        | none => rfl
        | some members =>
            rw [Option.map_some, ← rearrangeMembers_eq, rearrangeMembers_still 0 members]
      rw [rearrange_eq]
      simp only [Ranks.still_under, itemsStill, propertiesStill, allOfStill]

theorem rearrangeMembers_still (index : Nat) (members : List Schema) :
    rearrangeMembers .still index members = members := by
  match members with
  | [] => rfl
  | member :: members =>
      rw [rearrangeMembers, Ranks.still_under, rearrange_still member,
        rearrangeMembers_still (index + 1) members]

/-- Ranks that leave all entries where they are leave properties as they are. -/
theorem rearrangeProperties_still (properties : List (Text × Schema)) :
    rearrangeProperties .still properties = properties := by
  match properties with
  | [] => rfl
  | (name, schema) :: properties =>
      rw [rearrangeProperties, Ranks.still_under, rearrange_still schema,
        rearrangeProperties_still properties]

end

end Schema

/-- A document with its definitions and their properties in the order of ranks. -/
def Document.rearrange (ranks : Ranks) (document : Document) : Document :=
  { document with
    definitions :=
      document.definitions.map
        (arrangeNamed Schema.rearrange (ranks.under (.name "definitions"))) }

theorem Document.rearrange_still (document : Document) : document.rearrange .still = document := by
  obtain ⟨swagger, info, definitions⟩ := document
  cases definitions <;> simp [rearrange, arrangeNamed_still Schema.rearrange_still]

end Swagger

/-! ## The newer format -/

namespace OpenApi

/-- A change of the part that is in a slot. -/
def Slot.change (change : Ranks → α → α) (ranks : Ranks) : Slot α → Slot α
  | .reference target => .reference target
  | .inline part => .inline (change ranks part)

theorem Slot.change_still {change : Ranks → α → α} (keeps : ∀ part, change .still part = part)
    (slot : Slot α) : slot.change change .still = slot := by
  cases slot <;> simp [Slot.change, keeps]

namespace Schema

mutual

def rearrange (ranks : Ranks) (schema : Schema) : Schema :=
  match schema with
  | { title, description, multipleOf, required, enumeration, kind, format, nullable, preset, oneOf,
      allOf, anyOf, negated, items, properties, additionalProperties } =>
      { title, description, multipleOf, required, enumeration, kind, format, nullable, preset
        oneOf := rearrangeMembers? (ranks.under (.name "oneOf")) oneOf
        allOf := rearrangeMembers? (ranks.under (.name "allOf")) allOf
        anyOf := rearrangeMembers? (ranks.under (.name "anyOf")) anyOf
        negated := rearrangeSlot? (ranks.under (.name "not")) negated
        items := rearrangeSlot? (ranks.under (.name "items")) items
        properties := rearrangeProperties? (ranks.under (.name "properties")) properties
        additionalProperties :=
          rearrangeAdditional? (ranks.under (.name "additionalProperties"))
            additionalProperties }

/-- A slot whose schema, if it has one, is rearranged. -/
def rearrangeSlot (ranks : Ranks) : Slot Schema → Slot Schema
  | .reference target => .reference target
  | .inline schema => .inline (rearrange ranks schema)

def rearrangeMembers (ranks : Ranks) (index : Nat) : List (Slot Schema) → List (Slot Schema)
  | [] => []
  | member :: members =>
      rearrangeSlot (ranks.under (.number index)) member ::
        rearrangeMembers ranks (index + 1) members

/-- Properties whose schemas are rearranged, in the order that they have. -/
def rearrangeProperties (ranks : Ranks) : List (Text × Slot Schema) → List (Text × Slot Schema)
  | [] => []
  | (name, slot) :: properties =>
      (name, rearrangeSlot (ranks.under (.name name)) slot) ::
        rearrangeProperties ranks properties

def rearrangeSlot? (ranks : Ranks) : Option (Slot Schema) → Option (Slot Schema)
  | none => none
  | some slot => some (rearrangeSlot ranks slot)

def rearrangeMembers? (ranks : Ranks) : Option (List (Slot Schema)) → Option (List (Slot Schema))
  | none => none
  | some members => some (rearrangeMembers ranks 0 members)

def rearrangeProperties? (ranks : Ranks) :
    Option (List (Text × Slot Schema)) → Option (List (Text × Slot Schema))
  | none => none
  | some properties => some (arrange ranks.here Prod.fst (rearrangeProperties ranks properties))

def rearrangeAdditional? (ranks : Ranks) : Option (Bool ⊕ Slot Schema) → Option (Bool ⊕ Slot Schema)
  | none => none
  | some (.inl allowed) => some (.inl allowed)
  | some (.inr slot) => some (.inr (rearrangeSlot ranks slot))

end

theorem rearrangeSlot_eq_change : rearrangeSlot = Slot.change rearrange := by
  funext ranks slot
  cases slot <;> simp [rearrangeSlot, Slot.change]

theorem rearrangeMembers_eq (ranks : Ranks) (index : Nat) (members : List (Slot Schema)) :
    rearrangeMembers ranks index members = changeItems rearrangeSlot ranks index members := by
  induction members generalizing index with
  | nil => rfl
  | cons member members induction => rw [rearrangeMembers, changeItems, induction]

theorem rearrangeProperties_eq (ranks : Ranks) (properties : List (Text × Slot Schema)) :
    rearrangeProperties ranks properties = changeNamed rearrangeSlot ranks properties := by
  induction properties with
  | nil => rfl
  | cons property properties induction =>
      obtain ⟨name, slot⟩ := property
      rw [rearrangeProperties, induction]
      rfl

theorem rearrange_eq (ranks : Ranks) (schema : Schema) :
    schema.rearrange ranks =
      { schema with
        oneOf := schema.oneOf.map (changeItems rearrangeSlot (ranks.under (.name "oneOf")) 0)
        allOf := schema.allOf.map (changeItems rearrangeSlot (ranks.under (.name "allOf")) 0)
        anyOf := schema.anyOf.map (changeItems rearrangeSlot (ranks.under (.name "anyOf")) 0)
        negated := schema.negated.map (rearrangeSlot (ranks.under (.name "not")))
        items := schema.items.map (rearrangeSlot (ranks.under (.name "items")))
        properties :=
          schema.properties.map (arrangeNamed rearrangeSlot (ranks.under (.name "properties")))
        additionalProperties :=
          schema.additionalProperties.map
            (Sum.map id (rearrangeSlot (ranks.under (.name "additionalProperties")))) } := by
  obtain ⟨_, _, _, _, _, _, _, _, _, oneOf, allOf, anyOf, negated, items, properties,
    additionalProperties⟩ := schema
  rw [rearrange]
  congr 1
  · cases oneOf <;> simp [rearrangeMembers?, rearrangeMembers_eq]
  · cases allOf <;> simp [rearrangeMembers?, rearrangeMembers_eq]
  · cases anyOf <;> simp [rearrangeMembers?, rearrangeMembers_eq]
  · cases negated <;> simp [rearrangeSlot?]
  · cases items <;> simp [rearrangeSlot?]
  · cases properties <;> simp [rearrangeProperties?, rearrangeProperties_eq, arrangeNamed]
  · rcases additionalProperties with _ | _ | _ <;> simp [rearrangeAdditional?]

mutual

theorem rearrange_still (schema : Schema) : schema.rearrange .still = schema := by
  match schema with
  | { oneOf, allOf, anyOf, negated, items, properties, additionalProperties, .. } =>
      simp only [rearrange, Ranks.still_under, rearrangeMembers?_still oneOf,
        rearrangeMembers?_still allOf, rearrangeMembers?_still anyOf, rearrangeSlot?_still negated,
        rearrangeSlot?_still items, rearrangeProperties?_still properties,
        rearrangeAdditional?_still additionalProperties]

theorem rearrangeSlot_still (slot : Slot Schema) : rearrangeSlot .still slot = slot := by
  match slot with
  | .reference target => rfl
  | .inline schema => rw [rearrangeSlot, rearrange_still schema]

theorem rearrangeMembers_still (index : Nat) (members : List (Slot Schema)) :
    rearrangeMembers .still index members = members := by
  match members with
  | [] => rfl
  | member :: members =>
      rw [rearrangeMembers, Ranks.still_under, rearrangeSlot_still member,
        rearrangeMembers_still (index + 1) members]

/-- Ranks that leave all entries where they are leave properties as they are. -/
theorem rearrangeProperties_still (properties : List (Text × Slot Schema)) :
    rearrangeProperties .still properties = properties := by
  match properties with
  | [] => rfl
  | (name, slot) :: properties =>
      rw [rearrangeProperties, Ranks.still_under, rearrangeSlot_still slot,
        rearrangeProperties_still properties]

theorem rearrangeSlot?_still (slot? : Option (Slot Schema)) :
    rearrangeSlot? .still slot? = slot? := by
  match slot? with
  | none => rfl
  | some slot => rw [rearrangeSlot?, rearrangeSlot_still slot]

theorem rearrangeMembers?_still (members? : Option (List (Slot Schema))) :
    rearrangeMembers? .still members? = members? := by
  match members? with
  | none => rfl
  | some members => rw [rearrangeMembers?, rearrangeMembers_still 0 members]

theorem rearrangeProperties?_still (properties? : Option (List (Text × Slot Schema))) :
    rearrangeProperties? .still properties? = properties? := by
  match properties? with
  | none => rfl
  | some properties =>
      rw [rearrangeProperties?, rearrangeProperties_still properties,
        arrange_of_unmoved Ranks.still_here]

theorem rearrangeAdditional?_still (additional? : Option (Bool ⊕ Slot Schema)) :
    rearrangeAdditional? .still additional? = additional? := by
  match additional? with
  | none => rfl
  | some (.inl allowed) => rfl
  | some (.inr slot) => rw [rearrangeAdditional?, rearrangeSlot_still slot]

end

end Schema

/-! ### The other parts -/

namespace Parameter

def rearrange (ranks : Ranks) (parameter : Parameter) : Parameter :=
  { parameter with
    schema := parameter.schema.map (Schema.rearrangeSlot (ranks.under (.name "schema"))) }

theorem rearrange_still (parameter : Parameter) : parameter.rearrange .still = parameter := by
  obtain ⟨name, location, required, deprecated, schema⟩ := parameter
  cases schema <;> simp [rearrange, Schema.rearrangeSlot_still]

end Parameter

namespace Header

def rearrange (ranks : Ranks) (header : Header) : Header :=
  { header with schema := header.schema.map (Schema.rearrangeSlot (ranks.under (.name "schema"))) }

theorem rearrange_still (header : Header) : header.rearrange .still = header := by
  obtain ⟨required, deprecated, allowEmptyValue, schema⟩ := header
  cases schema <;> simp [rearrange, Schema.rearrangeSlot_still]

end Header

namespace MediaType

def rearrange (ranks : Ranks) (mediaType : MediaType) : MediaType :=
  { schema := mediaType.schema.map (Schema.rearrangeSlot (ranks.under (.name "schema"))) }

theorem rearrange_still (mediaType : MediaType) : mediaType.rearrange .still = mediaType := by
  obtain ⟨schema⟩ := mediaType
  cases schema <;> simp [rearrange, Schema.rearrangeSlot_still]

end MediaType

namespace Response

def rearrange (ranks : Ranks) (response : Response) : Response :=
  { response with
    headers :=
      response.headers.map
        (changeNamed (Slot.change Header.rearrange) (ranks.under (.name "headers")))
    content :=
      response.content.map (changeNamed MediaType.rearrange (ranks.under (.name "content"))) }

theorem rearrange_still (response : Response) : response.rearrange .still = response := by
  obtain ⟨description, headers, content⟩ := response
  cases headers <;> cases content <;>
    simp [rearrange, changeNamed_still MediaType.rearrange_still,
      changeNamed_still (Slot.change_still Header.rearrange_still)]

end Response

/-- Parameters whose schemas are rearranged. -/
def rearrangeParameters (ranks : Ranks) (parameters : List (Slot Parameter)) :
    List (Slot Parameter) :=
  changeItems (Slot.change Parameter.rearrange) ranks 0 parameters

theorem rearrangeParameters_still (parameters : List (Slot Parameter)) :
    rearrangeParameters .still parameters = parameters :=
  changeItems_still (Slot.change_still Parameter.rearrange_still) 0 parameters

namespace Operation

def rearrange (ranks : Ranks) (operation : Operation) : Operation :=
  { operation with
    parameters := operation.parameters.map (rearrangeParameters (ranks.under (.name "parameters")))
    responses :=
      changeNamed (Slot.change Response.rearrange) (ranks.under (.name "responses"))
        operation.responses }

theorem rearrange_still (operation : Operation) : operation.rearrange .still = operation := by
  obtain ⟨operationId, summary, parameters, responses⟩ := operation
  cases parameters <;>
    simp [rearrange, rearrangeParameters_still,
      changeNamed_still (Slot.change_still Response.rearrange_still)]

end Operation

namespace PathItem

def rearrange (ranks : Ranks) (item : PathItem) : PathItem :=
  { item with
    get := item.get.map (Operation.rearrange (ranks.under (.name "get")))
    put := item.put.map (Operation.rearrange (ranks.under (.name "put")))
    post := item.post.map (Operation.rearrange (ranks.under (.name "post")))
    delete := item.delete.map (Operation.rearrange (ranks.under (.name "delete")))
    options := item.options.map (Operation.rearrange (ranks.under (.name "options")))
    head := item.head.map (Operation.rearrange (ranks.under (.name "head")))
    patch := item.patch.map (Operation.rearrange (ranks.under (.name "patch")))
    trace := item.trace.map (Operation.rearrange (ranks.under (.name "trace")))
    parameters := item.parameters.map (rearrangeParameters (ranks.under (.name "parameters"))) }

theorem rearrange_still (item : PathItem) : item.rearrange .still = item := by
  have operationStill : ∀ operation? : Option Operation,
      operation?.map (Operation.rearrange .still) = operation? := by
    rintro (_ | operation)
    · rfl
    · exact congrArg some operation.rearrange_still
  have parametersStill : ∀ parameters? : Option (List (Slot Parameter)),
      parameters?.map (rearrangeParameters .still) = parameters? := by
    rintro (_ | parameters)
    · rfl
    · exact congrArg some (rearrangeParameters_still parameters)
  simp only [rearrange, Ranks.still_under, operationStill, parametersStill]

end PathItem

namespace Components

def rearrange (ranks : Ranks) (components : Components) : Components :=
  { schemas :=
      components.schemas.map
        (arrangeNamed Schema.rearrangeSlot (ranks.under (.name "schemas"))) }

theorem rearrange_still (components : Components) : components.rearrange .still = components := by
  obtain ⟨schemas⟩ := components
  cases schemas <;> simp [rearrange, arrangeNamed_still Schema.rearrangeSlot_still]

end Components

namespace Document

/-- A document with its schemas and their properties in the order of ranks. -/
def rearrange (ranks : Ranks) (document : Document) : Document :=
  { document with
    paths := changeNamed PathItem.rearrange (ranks.under (.name "paths")) document.paths
    components :=
      document.components.map (Components.rearrange (ranks.under (.name "components"))) }

theorem rearrange_still (document : Document) : document.rearrange .still = document := by
  obtain ⟨openapi, info, paths, components⟩ := document
  cases components <;>
    simp [rearrange, changeNamed_still PathItem.rearrange_still, Components.rearrange_still]

end Document

end OpenApi

/-- A specification with its schemas and their properties in the order of ranks. -/
def Specification.rearrange (ranks : Ranks) : Specification → Specification
  | .swagger document => .swagger (document.rearrange ranks)
  | .openApi document => .openApi (document.rearrange ranks)

theorem Specification.rearrange_still (specification : Specification) :
    specification.rearrange .still = specification := by
  cases specification <;>
    simp [rearrange, Swagger.Document.rearrange_still, OpenApi.Document.rearrange_still]

end ApiTypes
