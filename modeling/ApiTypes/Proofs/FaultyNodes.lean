import ApiTypes.Proofs.VisitedSchemas
import ApiTypes.Specification.Output

/-!
# Faulty nodes

The nodes of a specification that its declarations are made from, in the order in
which translation comes to them: references, schemas, and the members of
enumerations.  Translation fails exactly if one of them is faulty, and with the
fault of the first one.
-/

namespace ApiTypes

namespace Logged

theorem outcome_bind (first : Logged ε α) (next : α → Logged ε β) :
    (first >>= next).outcome = first.outcome >>= fun result => (next result).outcome := by
  obtain ⟨events, outcome⟩ := first
  cases outcome <;> rfl

/-- Of two computations one after another, the first one that fails decides. -/
theorem faultOf?_outcome_bind_bind_pure (first : Logged ε α) (second : Logged ε β)
    (result : α → β → γ) :
    faultOf? (first >>= fun left => second >>= fun right => pure (result left right)).outcome =
      (faultOf? first.outcome).or (faultOf? second.outcome) := by
  rw [outcome_bind]
  simp only [outcome_bind]
  exact faultOf?_bind_bind_pure _ _ _

theorem faultOf?_outcome_bind_pure (computation : Logged ε α) (result : α → β) :
    faultOf? (computation >>= fun value => pure (result value)).outcome =
      faultOf? computation.outcome := by
  obtain ⟨events, outcome⟩ := computation
  cases outcome <;> rfl

theorem faultOf?_outcome_mapFault (tell : ε → δ) (computation : Logged ε α) :
    faultOf? (computation.mapFault tell).outcome = (faultOf? computation.outcome).map tell := by
  obtain ⟨events, outcome⟩ := computation
  cases outcome <;> rfl

theorem exists_of_outcome_bind_pure_eq_ok {computation : Logged ε α} {function : α → β}
    {result : β}
    (success : (computation >>= fun value => pure (function value)).outcome = .ok result) :
    ∃ value, computation.outcome = .ok value ∧ function value = result := by
  rw [outcome_bind] at success
  exact exists_of_bind_pure_eq_ok success

theorem exists_of_outcome_bind_bind_pure_eq_ok {first : Logged ε α} {second : Logged ε β}
    {function : α → β → γ} {result : γ}
    (success : (first >>= fun left => second >>= fun right =>
      pure (function left right)).outcome = .ok result) :
    ∃ left right, first.outcome = .ok left ∧ second.outcome = .ok right ∧
      function left right = result := by
  simp only [outcome_bind] at success
  exact exists_of_bind_bind_pure_eq_ok success

end Logged

/-- What is wrong with a reference that does not begin with the opening of its format. -/
def foreign? (opening target : Text) : Option ForeignReference :=
  if (target.after? opening).isSome then none else some { reference := target, opening }

theorem faultOf?_localName (opening target : Text) :
    faultOf? (localName opening target) = foreign? opening target := by
  unfold localName foreign?
  cases target.after? opening <;> rfl

/-! ## Data without a literal -/

namespace Data

mutual

/-- The parts of data that have a part in its literal, each before those inside it.  What stands
under a key that is no text has none. -/
def live : Data → List Data
  | .list items => .list items :: liveItems items
  | .tuple items => .tuple items :: liveItems items
  | .mapping entries => .mapping entries :: liveEntries entries
  | data => [data]

def liveItems : List Data → List Data
  | [] => []
  | item :: items => live item ++ liveItems items

/-- List counterpart of `live` for the entries of a mapping. -/
def liveEntries : List (Data × Data) → List Data
  | [] => []
  | (.text _, value) :: entries => live value ++ liveEntries entries
  | _ :: entries => liveEntries entries

end

/-- Why there is no literal for data, whatever is inside it. -/
def literalFault? : Data → Option LiteralFault
  | .bytes _ => some (.noLiteral "bytes")
  | .set _ => some (.noLiteral "set")
  | .integer value => if (Double.ofInt? value).isSome then none else some .integerTooLarge
  | .enclosing _ => some .endless
  | _ => none

mutual

/-- Data has no literal exactly if a part of it has none, and the first such part decides. -/
theorem faultOf?_ofData (data : Data) :
    faultOf? (Literal.ofData data).outcome = data.live.findSome? literalFault? := by
  cases data with
  | integer value =>
      simp only [Literal.ofData, live, List.findSome?_singleton, literalFault?]
      cases Double.ofInt? value <;> rfl
  | list items =>
      rw [Literal.ofData, Logged.faultOf?_outcome_bind_pure, faultOf?_ofItems items]
      rfl
  | tuple items =>
      rw [Literal.ofData, Logged.faultOf?_outcome_bind_pure, faultOf?_ofItems items]
      rfl
  | mapping entries =>
      rw [Literal.ofData, Logged.faultOf?_outcome_bind_pure, faultOf?_ofEntries entries]
      rfl
  | _ => rfl

/-- List counterpart of `faultOf?_ofData`. -/
theorem faultOf?_ofItems (items : List Data) :
    faultOf? (Literal.ofItems items).outcome = (liveItems items).findSome? literalFault? := by
  cases items with
  | nil => rfl
  | cons item items =>
      rw [Literal.ofItems, Logged.faultOf?_outcome_bind_bind_pure, faultOf?_ofData item,
        faultOf?_ofItems items, liveItems, List.findSome?_append]

/-- Counterpart of `faultOf?_ofData` for the entries of a mapping. -/
theorem faultOf?_ofEntries (entries : List (Data × Data)) :
    faultOf? (Literal.ofEntries entries).outcome =
      (liveEntries entries).findSome? literalFault? := by
  cases entries with
  | nil => rfl
  | cons entry entries =>
      obtain ⟨key, value⟩ := entry
      cases key with
      | text name =>
          rw [Literal.ofEntries, Logged.faultOf?_outcome_bind_bind_pure, faultOf?_ofData value,
            faultOf?_ofEntries entries, liveEntries, List.findSome?_append]
      | _ => exact faultOf?_ofEntries entries

end

end Data

/-! ## The newer format -/

namespace OpenApi

/-- What translation comes to. -/
inductive Node where
  | reference (target : Text)
  | schema (schema : Schema)
  | member (member : Data)

/-- What is wrong with a schema itself, unless it is an intersection. -/
def Schema.fault? (schema : Schema) : Option LoweringFault :=
  if schema.allOf.isSome then none
  else
    schema.kind.bind fun name =>
      match SchemaKind.ofName? name with
      | some .array => if schema.items.isSome then none else some (.arrayWithoutItems schema)
      | some _ => none
      | none => some (.unknownKind name schema)

/-- What is wrong with a node, whatever is inside it. -/
def Node.fault? : Node → Option LoweringFault
  | .reference target => (foreign? referenceOpening target).map .foreignReference
  | .schema content => content.fault?
  | .member content => (content.live.findSome? Data.literalFault?).map .literal

namespace Schema

mutual

/-- A schema and the nodes inside it that lowering comes to, in this order. -/
def visited (schema : Schema) : List Node :=
  match schema with
  | { kind, enumeration, items, properties, allOf, .. } =>
      .schema schema ::
        match allOf with
        | some members => visitedMembers members
        | none =>
            match kind with
            | none =>
                match enumeration with
                | some members => members.map .member
                | none =>
                    match properties with
                    | some properties => visitedProperties properties
                    | none => []
            | some name =>
                match SchemaKind.ofName? name with
                | some .text => (enumeration.getD []).map .member
                | some .enumeration => (enumeration.getD []).map .member
                | some .array =>
                    match items with
                    | some slot => visitedSlot slot
                    | none => []
                | some .object =>
                    match properties with
                    | some properties => visitedProperties properties
                    | none => []
                | _ => []

/-- The same for a reference, inside which there is nothing, or a schema. -/
def visitedSlot : Slot Schema → List Node
  | .reference target => [.reference target]
  | .inline schema => visited schema

def visitedMembers : List (Slot Schema) → List Node
  | [] => []
  | member :: members => visitedSlot member ++ visitedMembers members

/-- List counterpart of `visitedSlot` for properties. -/
def visitedProperties : List (Text × Slot Schema) → List Node
  | [] => []
  | (_, slot) :: properties => visitedSlot slot ++ visitedProperties properties

end

end Schema

theorem faultOf?_referenceType (target : Text) :
    faultOf? (referenceType target).outcome =
      (foreign? referenceOpening target).map .foreignReference := by
  rw [← faultOf?_localName]
  unfold referenceType
  cases localName referenceOpening target <;> rfl

theorem faultOf?_enumerationMembers (members : List Data) :
    faultOf? (enumerationMembers members).outcome =
      members.findSome? fun member => member.live.findSome? Data.literalFault? := by
  induction members with
  | nil => rfl
  | cons member members induction =>
      rw [enumerationMembers, Logged.faultOf?_outcome_bind_bind_pure, member.faultOf?_ofData,
        induction, List.findSome?_cons]
      cases member.live.findSome? Data.literalFault? <;> rfl

/-- The first member of an enumeration without a literal decides. -/
theorem faultOf?_enumerationType (members : List Data) :
    faultOf? (enumerationType members).outcome =
      (members.map Node.member).findSome? Node.fault? := by
  have union : faultOf? (TypeExpr.union <$> enumerationMembers members).outcome =
      faultOf? (enumerationMembers members).outcome :=
    Logged.faultOf?_outcome_bind_pure _ _
  rw [enumerationType, Logged.faultOf?_outcome_mapFault, union, faultOf?_enumerationMembers,
    List.map_findSome?, List.findSome?_map]
  rfl

theorem faultOf?_textType (enumeration : Option (List Data)) (format : Option Text) :
    faultOf? (textType enumeration format).outcome =
      ((enumeration.getD []).map Node.member).findSome? Node.fault? := by
  cases enumeration with
  | some members => exact faultOf?_enumerationType members
  | none => rfl

namespace Schema

mutual

/-- Lowering fails at the first visited node that is faulty, and nowhere else. -/
theorem faultOf?_lower (schema : Schema) :
    faultOf? schema.lower.outcome = schema.visited.findSome? Node.fault? := by
  obtain ⟨title, description, multipleOf, required, enumeration, kind, format, nullable, preset,
    oneOf, allOf, anyOf, negated, items, properties, additionalProperties⟩ := schema
  -- The schema is the first node: what is wrong with itself comes before anything inside it.
  rw [lower.eq_def, visited.eq_def]
  simp only [List.findSome?_cons, Node.fault?, fault?]
  cases allOf with
  | some members =>
      simpa using (Logged.faultOf?_outcome_bind_pure _ _).trans (faultOf?_lowerMembers members)
  | none =>
      cases kind with
      | none =>
          cases enumeration with
          | some members => exact faultOf?_enumerationType members
          | none =>
              cases properties with
              | none => rfl
              | some properties =>
                  exact (Logged.faultOf?_outcome_bind_pure _ _).trans
                    (faultOf?_lowerProperties (required.getD []) properties)
      | some name =>
          simp only [Option.isSome_none, Option.bind_some]
          cases SchemaKind.ofName? name with
          | none => rfl
          | some kind =>
              cases kind with
              | text => exact faultOf?_textType enumeration format
              | enumeration => exact faultOf?_enumerationType (enumeration.getD [])
              | array =>
                  cases items with
                  | none => rfl
                  | some slot =>
                      exact (Logged.faultOf?_outcome_bind_pure _ _).trans (faultOf?_lowerSlot slot)
              | object =>
                  cases properties with
                  | none => rfl
                  | some properties =>
                      exact (Logged.faultOf?_outcome_bind_pure _ _).trans
                        (faultOf?_lowerProperties (required.getD []) properties)
              | _ => rfl

/-- Counterpart of `faultOf?_lower` for slots. -/
theorem faultOf?_lowerSlot (slot : Slot Schema) :
    faultOf? (lowerSlot slot).outcome = (visitedSlot slot).findSome? Node.fault? := by
  cases slot with
  | reference target =>
      rw [lowerSlot, faultOf?_referenceType, visitedSlot, List.findSome?_singleton]
      rfl
  | inline schema => exact faultOf?_lower schema

/-- List counterpart of `faultOf?_lowerSlot`. -/
theorem faultOf?_lowerMembers (members : List (Slot Schema)) :
    faultOf? (lowerMembers members).outcome =
      (visitedMembers members).findSome? Node.fault? := by
  cases members with
  | nil => rfl
  | cons member members =>
      rw [lowerMembers, Logged.faultOf?_outcome_bind_bind_pure, faultOf?_lowerSlot member,
        faultOf?_lowerMembers members, visitedMembers, List.findSome?_append]

/-- Counterpart of `faultOf?_lowerMembers` for properties. -/
theorem faultOf?_lowerProperties (required : List Text) (properties : List (Text × Slot Schema)) :
    faultOf? (lowerProperties required properties).outcome =
      (visitedProperties properties).findSome? Node.fault? := by
  cases properties with
  | nil => rfl
  | cons property properties =>
      obtain ⟨name, slot⟩ := property
      rw [lowerProperties, Logged.faultOf?_outcome_bind_bind_pure, faultOf?_lowerSlot slot,
        faultOf?_lowerProperties required properties, visitedProperties, List.findSome?_append]

end

end Schema

end OpenApi

/-! ## Specifications -/

namespace Specification

/-- What translation of a specification comes to. -/
inductive Node where
  | swagger (schema : Swagger.Schema)
  | openApi (node : OpenApi.Node)

/-- What is wrong with a node, whatever is inside it.  In the older format it is only a reference
that leads outside the definitions. -/
def Node.fault? : Node → Option OpenApi.LoweringFault
  | .swagger schema =>
      (schema.reference.bind (ApiTypes.foreign? Swagger.referenceOpening)).map .foreignReference
  | .openApi node => node.fault?

/-- The nodes of the named schemas in the order of their declarations. -/
def visited : Specification → List Node
  | .swagger document =>
      (document.definitions.getD []).flatMap fun (_, schema) => schema.visited.map .swagger
  | .openApi document =>
      ((document.components.bind OpenApi.Components.schemas).getD []).flatMap fun (_, slot) =>
        (OpenApi.Schema.visitedSlot slot).map .openApi

end Specification

end ApiTypes
