import ApiTypes.Proofs.FaultyNodes
import ApiTypes.Proofs.TypePaths
import Mathlib.Data.List.Forall2

/-!
# Paths into schemas

A schema is an intersection of members, an array of items, a record of properties, or
has no parts, and its type is made the same way of the types of its parts.  So a path
into a schema leads, by the matching steps, to the type of the schema at its end.
-/

namespace ApiTypes

/-- No record, or one without fields. -/
def TypeExpr.IsFieldless (type : TypeExpr) : Prop :=
  ∀ fields, type = .record fields → fields = []

theorem TypeExpr.isFieldless_named (name : Text) : (named name).IsFieldless := by
  intro fields same
  cases same

theorem TypeExpr.isFieldless_union (members : List TypeExpr) : (union members).IsFieldless := by
  intro fields same
  cases same

/-- A step from a schema to a part of it. -/
inductive SchemaStep where
  | allOf (index : Nat)
  | items
  | property (name : Text)

namespace SchemaStep

/-- The step in the type that matches a step in the schema. -/
def inType : SchemaStep → TypeExpr.Step
  | .allOf index => .operand index
  | .items => .element
  | .property name => .field name

end SchemaStep

/-- What a schema is made of, as far as its type is concerned. -/
inductive Makeup (Node : Type) where
  | plain
  | intersection (members : List Node)
  | array (item : Node)
  | record (required : List Text) (properties : List (Text × Node))

namespace Makeup

variable {Node : Type}

def child? : Makeup Node → SchemaStep → Option Node
  | .intersection members, .allOf index => members[index]?
  | .array item, .items => some item
  | .record _ properties, .property name =>
      (properties.find? fun property => property.1 = name).map Prod.snd
  | _, _ => none

/-- The parts to which one step leads. -/
def parts : Makeup Node → List Node
  | .plain => []
  | .intersection members => members
  | .array item => [item]
  | .record _ properties => properties.map Prod.snd

/-- The part of a schema at the end of a path. -/
def at? (makeup : Node → Makeup Node) (node : Node) : List SchemaStep → Option Node
  | [] => some node
  | step :: path => ((makeup node).child? step).bind fun part => at? makeup part path

/-- A field stands for a property, and is required if its name is listed. -/
def IsFieldOf (lowers : Node → TypeExpr → Prop) (required : List Text) (property : Text × Node)
    (field : Field TypeExpr) : Prop :=
  field.name = property.1 ∧ field.required = required.contains property.1 ∧
    lowers property.2 field.type

/-- A type is made of the types of the parts as the schema is made of the parts. -/
def Shapes (lowers : Node → TypeExpr → Prop) : Makeup Node → TypeExpr → Prop
  | .plain, type => type.IsFieldless
  | .intersection members, type =>
      ∃ types, type = .intersection types ∧ List.Forall₂ lowers members types
  | .array item, type => ∃ element, type = .array element ∧ lowers item element
  | .record required properties, type =>
      ∃ fields, type = .record fields ∧
        List.Forall₂ (IsFieldOf lowers required) properties fields

variable {lowers : Node → TypeExpr → Prop}

theorem exists_getElem?_of_forall₂ {members : List Node} {types : List TypeExpr}
    (related : List.Forall₂ lowers members types) {index : Nat} {member : Node}
    (found : members[index]? = some member) :
    ∃ type, types[index]? = some type ∧ lowers member type := by
  induction related generalizing index with
  | nil => cases found
  | cons first others induction =>
      cases index with
      | zero =>
          obtain rfl := Option.some.inj found
          exact ⟨_, rfl, first⟩
      | succ index => exact induction found

theorem exists_find?_of_forall₂ {required : List Text} {properties : List (Text × Node)}
    {fields : List (Field TypeExpr)}
    (related : List.Forall₂ (IsFieldOf lowers required) properties fields)
    {name : Text} {property : Text × Node}
    (found : properties.find? (fun property => property.1 = name) = some property) :
    ∃ field, fields.find? (fun field => field.name = name) = some field ∧
      lowers property.2 field.type := by
  induction related with
  | nil => cases found
  | @cons first field properties fields isField others induction =>
      obtain ⟨sameName, -, lowered⟩ := isField
      by_cases same : first.1 = name
      · obtain rfl : first = property := by simpa [same] using found
        exact ⟨field, by simp [sameName, same], lowered⟩
      · obtain ⟨later, laterFound, laterLowered⟩ := induction (by simpa [same] using found)
        exact ⟨later, by simpa [sameName, same] using laterFound, laterLowered⟩

/-- The fields of a record have the names of the properties, in their order, and the marks that
the list of required names gives them. -/
theorem map_mark_of_forall₂ {required : List Text} {properties : List (Text × Node)}
    {fields : List (Field TypeExpr)}
    (related : List.Forall₂ (IsFieldOf lowers required) properties fields) :
    (fields.map fun field => (field.name, field.required)) =
      properties.map fun property => (property.1, decide (property.1 ∈ required)) := by
  induction related with
  | nil => rfl
  | cons isField others induction =>
      rw [List.map_cons, List.map_cons, induction, isField.1, isField.2.1, List.contains_eq_mem]

theorem Shapes.child? {makeup : Makeup Node} {type : TypeExpr} (shapes : makeup.Shapes lowers type)
    {step : SchemaStep} {node : Node} (leads : makeup.child? step = some node) :
    ∃ part, type.child? step.inType = some part ∧ lowers node part := by
  cases makeup with
  | plain => cases leads
  | intersection members =>
      obtain ⟨types, rfl, related⟩ := shapes
      cases step with
      | allOf index => exact exists_getElem?_of_forall₂ related leads
      | _ => cases leads
  | array item =>
      obtain ⟨element, rfl, lowered⟩ := shapes
      cases step with
      | items =>
          obtain rfl := Option.some.inj leads
          exact ⟨element, rfl, lowered⟩
      | _ => cases leads
  | record required properties =>
      obtain ⟨fields, rfl, related⟩ := shapes
      cases step with
      | property name =>
          obtain ⟨property, found, rfl⟩ := Option.map_eq_some_iff.mp leads
          obtain ⟨field, fieldFound, lowered⟩ := exists_find?_of_forall₂ related found
          exact ⟨field.type, congrArg (Option.map Field.type) fieldFound, lowered⟩
      | _ => cases leads

/-- If every schema with a type has one that is made as the schema is, then a path leads to the
type of the schema at its end. -/
theorem exists_at?_of_lowers {makeup : Node → Makeup Node}
    (shapes : ∀ node type, lowers node type → (makeup node).Shapes lowers type)
    {node part : Node} {type : TypeExpr} (lowered : lowers node type) {path : List SchemaStep}
    (leads : at? makeup node path = some part) :
    ∃ partType, type.at? (path.map SchemaStep.inType) = some partType ∧ lowers part partType := by
  induction path generalizing node type with
  | nil =>
      obtain rfl : node = part := Option.some.inj leads
      exact ⟨type, rfl, lowered⟩
  | cons step path induction =>
      obtain ⟨next, nextLeads, partLeads⟩ := Option.bind_eq_some_iff.mp leads
      obtain ⟨nextType, typeLeads, nextLowered⟩ := (shapes node type lowered).child? nextLeads
      obtain ⟨partType, nextTypeLeads, partLowered⟩ := induction nextLowered partLeads
      refine ⟨partType, ?_, partLowered⟩
      rw [List.map_cons, TypeExpr.at?_cons, typeLeads]
      exact nextTypeLeads

end Makeup

/-! ## The older format -/

namespace Swagger.Schema

/-- What a schema is made of. -/
def makeup (schema : Schema) : Makeup Schema :=
  match schema.reference, schema.allOf with
  | some _, _ => .plain
  | none, some members => .intersection members
  | none, none =>
      match schema.kind.bind SchemaKind.ofName? with
      | some .array => (schema.items.map Makeup.array).getD .plain
      | some .object => .record (schema.required.getD []) (schema.properties.getD [])
      | _ => .plain

theorem visitedMembers_eq_flatMap (members : List Schema) :
    visitedMembers members = members.flatMap visited := by
  induction members with
  | nil => rfl
  | cons member members induction => simp [visitedMembers, induction]

theorem visitedProperties_eq_flatMap (properties : List (Text × Schema)) :
    visitedProperties properties = (properties.map Prod.snd).flatMap visited := by
  induction properties with
  | nil => rfl
  | cons property properties induction => simp [visitedProperties, induction]

/-- Lowering comes to a schema and then to its parts. -/
theorem visited_eq_cons_parts (schema : Schema) :
    schema.visited = schema :: schema.makeup.parts.flatMap visited := by
  obtain ⟨reference, description, kind, format, enumeration, required, items, properties, allOf⟩ :=
    schema
  rw [visited.eq_def]
  apply congrArg (List.cons _)
  cases reference with
  | some target => rfl
  | none =>
      cases allOf with
      | some members => exact visitedMembers_eq_flatMap members
      | none =>
          simp only [makeup]
          cases kind.bind SchemaKind.ofName? with
          | none => rfl
          | some kind =>
              cases kind with
              | array => cases items <;> simp [Makeup.parts]
              | object =>
                  cases properties with
                  | none => rfl
                  | some properties => exact visitedProperties_eq_flatMap properties
              | _ => rfl

/-- A schema has a type. -/
def Lowers (schema : Schema) (type : TypeExpr) : Prop :=
  schema.lower = .ok type

theorem isFieldless_textType (enumeration : Option (List Text)) (format : Option Text) :
    (textType enumeration format).IsFieldless := by
  cases enumeration with
  | some words => apply TypeExpr.isFieldless_union
  | none =>
      rw [textType]
      split
      · apply TypeExpr.isFieldless_named
      · apply TypeExpr.isFieldless_named

theorem forall₂_of_lowerMembers_eq_ok {members : List Schema} {types : List TypeExpr}
    (lowered : lowerMembers members = .ok types) : List.Forall₂ Lowers members types := by
  induction members generalizing types with
  | nil =>
      obtain rfl := Except.ok.inj lowered
      exact .nil
  | cons member members induction =>
      rw [lowerMembers] at lowered
      obtain ⟨type, others, memberLowered, othersLowered, rfl⟩ :=
        exists_of_bind_bind_pure_eq_ok lowered
      exact .cons memberLowered (induction othersLowered)

theorem forall₂_of_lowerProperties_eq_ok {required : List Text}
    {properties : List (Text × Schema)} {fields : List (Field TypeExpr)}
    (lowered : lowerProperties required properties = .ok fields) :
    List.Forall₂ (Makeup.IsFieldOf Lowers required) properties fields := by
  induction properties generalizing fields with
  | nil =>
      obtain rfl := Except.ok.inj lowered
      exact .nil
  | cons property properties induction =>
      rw [lowerProperties] at lowered
      obtain ⟨type, others, propertyLowered, othersLowered, rfl⟩ :=
        exists_of_bind_bind_pure_eq_ok lowered
      exact .cons ⟨rfl, rfl, propertyLowered⟩ (induction othersLowered)

theorem shapes_makeup (schema : Schema) (type : TypeExpr) (lowered : schema.Lowers type) :
    schema.makeup.Shapes Lowers type := by
  obtain ⟨reference, description, kind, format, enumeration, required, items, properties, allOf⟩ :=
    schema
  rw [Lowers, lower.eq_def] at lowered
  cases reference with
  | some target =>
      obtain ⟨name, -, rfl⟩ := exists_of_bind_pure_eq_ok lowered
      exact TypeExpr.isFieldless_named name
  | none =>
      cases allOf with
      | some members =>
          obtain ⟨types, membersLowered, rfl⟩ := exists_of_bind_pure_eq_ok lowered
          exact ⟨types, rfl, forall₂_of_lowerMembers_eq_ok membersLowered⟩
      | none =>
          cases kind with
          | none =>
              obtain rfl := Except.ok.inj lowered
              rintro fields ⟨⟩
              rfl
          | some word =>
              dsimp only at lowered
              simp only [makeup, Option.bind_some]
              cases known : SchemaKind.ofName? word with
              | none =>
                  rw [known] at lowered
                  obtain rfl := Except.ok.inj lowered
                  apply TypeExpr.isFieldless_named
              | some kind =>
                  rw [known] at lowered
                  cases kind with
                  | array =>
                      cases items with
                      | none =>
                          obtain rfl := Except.ok.inj lowered
                          apply TypeExpr.isFieldless_named
                      | some item =>
                          obtain ⟨element, itemLowered, rfl⟩ := exists_of_bind_pure_eq_ok lowered
                          exact ⟨element, rfl, itemLowered⟩
                  | object =>
                      cases properties with
                      | none =>
                          obtain rfl := Except.ok.inj lowered
                          exact ⟨[], rfl, .nil⟩
                      | some properties =>
                          obtain ⟨fields, propertiesLowered, rfl⟩ :=
                            exists_of_bind_pure_eq_ok lowered
                          exact ⟨fields, rfl, forall₂_of_lowerProperties_eq_ok propertiesLowered⟩
                  | text =>
                      obtain rfl := Except.ok.inj lowered
                      exact isFieldless_textType enumeration format
                  | _ =>
                      obtain rfl := Except.ok.inj lowered
                      apply TypeExpr.isFieldless_named

end Swagger.Schema

/-! ## The newer format -/

/-- What translation comes to as a slot, but for the members of enumerations. -/
def OpenApi.Node.slot? : OpenApi.Node → Option (OpenApi.Slot OpenApi.Schema)
  | .reference target => some (.reference target)
  | .schema content => some (.inline content)
  | .member _ => none

namespace OpenApi.Schema

/-- What a reference or a schema is made of. -/
def makeup : Slot Schema → Makeup (Slot Schema)
  | .reference _ => .plain
  | .inline schema =>
      match schema.allOf, schema.kind with
      | some members, _ => .intersection members
      | none, none =>
          match schema.enumeration, schema.properties with
          | none, some properties => .record (schema.required.getD []) properties
          | _, _ => .plain
      | none, some name =>
          match SchemaKind.ofName? name with
          | some .array => (schema.items.map Makeup.array).getD .plain
          | some .object => .record (schema.required.getD []) (schema.properties.getD [])
          | _ => .plain

/-- The references and schemas that lowering of a slot comes to. -/
def visitedSlots (slot : Slot Schema) : List (Slot Schema) :=
  (visitedSlot slot).filterMap Node.slot?

theorem visitedMembers_eq_flatMap (members : List (Slot Schema)) :
    visitedMembers members = members.flatMap visitedSlot := by
  induction members with
  | nil => rfl
  | cons member members induction => simp [visitedMembers, induction]

theorem visitedProperties_eq_flatMap (properties : List (Text × Slot Schema)) :
    visitedProperties properties = (properties.map Prod.snd).flatMap visitedSlot := by
  induction properties with
  | nil => rfl
  | cons property properties induction => simp [visitedProperties, induction]

theorem filterMap_slot?_members (members : List Data) :
    (members.map Node.member).filterMap Node.slot? = [] := by
  simp [Node.slot?, List.filterMap_map, Function.comp_def]

theorem visitedSlots_eq_cons_parts (slot : Slot Schema) :
    visitedSlots slot = slot :: (makeup slot).parts.flatMap visitedSlots := by
  cases slot with
  | reference target => rfl
  | inline schema =>
      obtain ⟨title, description, multipleOf, required, enumeration, kind, format, nullable, preset,
        oneOf, allOf, anyOf, negated, items, properties, additionalProperties⟩ := schema
      rw [visitedSlots, visitedSlot, visited.eq_def, List.filterMap_cons]
      apply congrArg (List.cons _)
      cases allOf with
      | some members =>
          dsimp only [makeup, Makeup.parts]
          rw [visitedMembers_eq_flatMap, List.filterMap_flatMap]
          rfl
      | none =>
          have ofProperties (properties : List (Text × Slot Schema)) :
              (visitedProperties properties).filterMap Node.slot? =
                (Makeup.record (required.getD []) properties).parts.flatMap visitedSlots := by
            rw [visitedProperties_eq_flatMap, List.filterMap_flatMap]
            rfl
          cases kind with
          | none =>
              cases enumeration with
              | some members => exact filterMap_slot?_members members
              | none =>
                  cases properties with
                  | none => rfl
                  | some properties => exact ofProperties properties
          | some word =>
              simp only [makeup]
              cases SchemaKind.ofName? word with
              | none => rfl
              | some kind =>
                  cases kind with
                  | text => exact filterMap_slot?_members (enumeration.getD [])
                  | enumeration => exact filterMap_slot?_members (enumeration.getD [])
                  | array =>
                      cases items with
                      | none => rfl
                      | some item => simp [Makeup.parts, visitedSlots]
                  | object =>
                      cases properties with
                      | none => rfl
                      | some properties => exact ofProperties properties
                  | _ => rfl

def Lowers (slot : Slot Schema) (type : TypeExpr) : Prop :=
  (lowerSlot slot).outcome = .ok type

theorem forall₂_of_lowerMembers_eq_ok {members : List (Slot Schema)} {types : List TypeExpr}
    (lowered : (lowerMembers members).outcome = .ok types) :
    List.Forall₂ Lowers members types := by
  induction members generalizing types with
  | nil =>
      obtain rfl := Except.ok.inj lowered
      exact .nil
  | cons member members induction =>
      rw [lowerMembers] at lowered
      obtain ⟨type, others, memberLowered, othersLowered, rfl⟩ :=
        Logged.exists_of_outcome_bind_bind_pure_eq_ok lowered
      exact .cons memberLowered (induction othersLowered)

theorem forall₂_of_lowerProperties_eq_ok {required : List Text}
    {properties : List (Text × Slot Schema)} {fields : List (Field TypeExpr)}
    (lowered : (lowerProperties required properties).outcome = .ok fields) :
    List.Forall₂ (Makeup.IsFieldOf Lowers required) properties fields := by
  induction properties generalizing fields with
  | nil =>
      obtain rfl := Except.ok.inj lowered
      exact .nil
  | cons property properties induction =>
      rw [lowerProperties] at lowered
      obtain ⟨type, others, propertyLowered, othersLowered, rfl⟩ :=
        Logged.exists_of_outcome_bind_bind_pure_eq_ok lowered
      exact .cons ⟨rfl, rfl, propertyLowered⟩ (induction othersLowered)

theorem isFieldless_enumerationType {members : List Data} {type : TypeExpr}
    (lowered : (enumerationType members).outcome = .ok type) : type.IsFieldless := by
  rw [enumerationType] at lowered
  generalize enumerationMembers members = computation at lowered
  obtain ⟨events, outcome⟩ := computation
  cases outcome with
  | error fault => cases lowered
  | ok types =>
      obtain rfl := Except.ok.inj lowered
      apply TypeExpr.isFieldless_union

theorem isFieldless_textType {enumeration : Option (List Data)} {format : Option Text}
    {type : TypeExpr} (lowered : (textType enumeration format).outcome = .ok type) :
    type.IsFieldless := by
  cases enumeration with
  | some members => exact isFieldless_enumerationType lowered
  | none =>
      obtain rfl := Except.ok.inj lowered
      split
      · apply TypeExpr.isFieldless_named
      · apply TypeExpr.isFieldless_named

theorem isFieldless_referenceType {target : Text} {type : TypeExpr}
    (lowered : (referenceType target).outcome = .ok type) : type.IsFieldless := by
  unfold referenceType at lowered
  split at lowered
  · obtain rfl := Except.ok.inj lowered
    apply TypeExpr.isFieldless_named
  · cases lowered

/-- A record is made of properties. -/
private theorem shapes_record {required : List Text} {properties : List (Text × Slot Schema)}
    {type : TypeExpr}
    (lowered : (lowerProperties required properties >>= fun fields =>
      pure (TypeExpr.record fields)).outcome = .ok type) :
    (Makeup.record required properties).Shapes Lowers type := by
  obtain ⟨fields, propertiesLowered, rfl⟩ := Logged.exists_of_outcome_bind_pure_eq_ok lowered
  exact ⟨fields, rfl, forall₂_of_lowerProperties_eq_ok propertiesLowered⟩

theorem shapes_makeup (slot : Slot Schema) (type : TypeExpr) (lowered : Lowers slot type) :
    (makeup slot).Shapes Lowers type := by
  cases slot with
  | reference target =>
      rw [Lowers, lowerSlot] at lowered
      exact isFieldless_referenceType lowered
  | inline schema =>
      obtain ⟨title, description, multipleOf, required, enumeration, kind, format, nullable, preset,
        oneOf, allOf, anyOf, negated, items, properties, additionalProperties⟩ := schema
      rw [Lowers, lowerSlot, lower.eq_def] at lowered
      cases allOf with
      | some members =>
          obtain ⟨types, membersLowered, rfl⟩ := Logged.exists_of_outcome_bind_pure_eq_ok lowered
          exact ⟨types, rfl, forall₂_of_lowerMembers_eq_ok membersLowered⟩
      | none =>
          cases kind with
          | none =>
              cases enumeration with
              | some members => exact isFieldless_enumerationType lowered
              | none =>
                  cases properties with
                  | none =>
                      obtain rfl := Except.ok.inj lowered
                      apply TypeExpr.isFieldless_named
                  | some properties => exact shapes_record lowered
          | some word =>
              dsimp only at lowered
              simp only [makeup]
              cases known : SchemaKind.ofName? word with
              | none =>
                  rw [known] at lowered
                  cases lowered
              | some kind =>
                  rw [known] at lowered
                  cases kind with
                  | array =>
                      cases items with
                      | none => cases lowered
                      | some item =>
                          obtain ⟨element, itemLowered, rfl⟩ :=
                            Logged.exists_of_outcome_bind_pure_eq_ok lowered
                          exact ⟨element, rfl, itemLowered⟩
                  | object =>
                      cases properties with
                      | none =>
                          obtain rfl := Except.ok.inj lowered
                          exact ⟨[], rfl, .nil⟩
                      | some properties => exact shapes_record lowered
                  | text => exact isFieldless_textType lowered
                  | enumeration => exact isFieldless_enumerationType lowered
                  | _ =>
                      obtain rfl := Except.ok.inj lowered
                      apply TypeExpr.isFieldless_named

end OpenApi.Schema

end ApiTypes
