import ApiTypes.Proofs.AlikeReadings
import ApiTypes.Proofs.ArrangedDocuments
import ApiTypes.Specification.Output

/-!
# Types of arranged documents

Schemas whose properties come in the order of ranks have records whose fields do,
and a document whose named schemas do has declarations in that order.
-/

namespace ApiTypes

open Shape (Checked)

/-! ## Arranged types -/

namespace TypeExpr

mutual

/-- A type with the fields of its records in the order of ranks, where a place is the way to it in
the schema that the type is made from. -/
def rearrange (ranks : Ranks) : TypeExpr → TypeExpr
  | .array element => .array (rearrange (ranks.under (.name "items")) element)
  | .intersection members =>
      .intersection (rearrangeMembers (ranks.under (.name "allOf")) 0 members)
  | .record fields =>
      let ranks := ranks.under (.name "properties")
      .record (arrange ranks.here Field.name (rearrangeFields ranks fields))
  | .union members => .union members
  | .named name => .named name
  | .literal value => .literal value

def rearrangeMembers (ranks : Ranks) (index : Nat) : List TypeExpr → List TypeExpr
  | [] => []
  | member :: members =>
      rearrange (ranks.under (.number index)) member :: rearrangeMembers ranks (index + 1) members

/-- Fields whose types are rearranged, in the order that they have. -/
def rearrangeFields (ranks : Ranks) : List (Field TypeExpr) → List (Field TypeExpr)
  | [] => []
  | ⟨name, required, type⟩ :: fields =>
      ⟨name, required, rearrange (ranks.under (.name name)) type⟩ :: rearrangeFields ranks fields

end

theorem rearrange_emptyRecord (ranks : Ranks) : rearrange ranks (.record []) = .record [] := by
  simp [rearrange, rearrangeFields, arrange]

end TypeExpr

/-- Declarations whose types are rearranged, in the order of the ranks of their names. -/
def Declaration.rearrangeAll (ranks : Ranks) (declarations : List Declaration) :
    List Declaration :=
  arrange ranks.here Declaration.name
    (declarations.map fun declaration =>
      { declaration with
        type := declaration.type.rearrange (ranks.under (.name declaration.name)) })

/-! ## Results without faults -/

section Results

variable {α β γ ε : Type}

theorem toOption_bind_pure (outcome : Except ε α) (result : α → β) :
    (outcome >>= fun value => pure (result value)).toOption = outcome.toOption.map result := by
  cases outcome <;> rfl

theorem toOption_bind_bind_pure (first : Except ε α) (second : Except ε β) (result : α → β → γ) :
    (first >>= fun left => second >>= fun right => pure (result left right)).toOption =
      first.toOption.bind fun left => second.toOption.map (result left) := by
  cases first <;> cases second <;> rfl

namespace Logged

/-- The result of a computation, if it has one. -/
def result? (computation : Logged ε α) : Option α :=
  computation.outcome.toOption

theorem result?_bind_pure (computation : Logged ε α) (result : α → β) :
    (computation >>= fun value => pure (result value)).result? =
      computation.result?.map result := by
  obtain ⟨events, outcome⟩ := computation
  cases outcome <;> rfl

theorem result?_bind_bind_pure (first : Logged ε α) (second : Logged ε β) (result : α → β → γ) :
    (first >>= fun left => second >>= fun right => pure (result left right)).result? =
      first.result?.bind fun left => second.result?.map (result left) := by
  obtain ⟨events, outcome⟩ := first
  obtain ⟨others, otherOutcome⟩ := second
  cases outcome <;> cases otherOutcome <;> rfl

end Logged

namespace Shape.Checked

/-- A value that is there is valid. -/
def ofOption : Option α → Checked α
  | some value => .valid value
  | none => .invalid []

theorem ofOption_injective {first second : Option α} (same : ofOption first = ofOption second) :
    first = second := by
  cases first <;> cases second <;> simp_all [ofOption]

theorem map_ofOption (change : α → β) (value? : Option α) :
    change <$> ofOption value? = ofOption (value?.map change) := by
  cases value? <;> rfl

theorem bare_collect_ofOption (make : α → Option β) (items : List α) :
    (collect (items.map fun item => ofOption (make item))).bare = ofOption (items.mapM make) := by
  induction items with
  | nil => rfl
  | cons item items induction =>
      rw [List.map_cons, collect, bare_seq, bare_map, induction, List.mapM_cons]
      cases make item <;> cases items.mapM make <;> rfl

end Shape.Checked

/-- What is made of arranged items is arranged the same way. -/
theorem mapM_arrange (rank : Text → Nat) (name : α → Text) (otherName : β → Text)
    (make : α → Option β) (keeps : ∀ item value, make item = some value →
      otherName value = name item) (items : List α) :
    (arrange rank name items).mapM make = (items.mapM make).map (arrange rank otherName) := by
  -- What may be missing is a reading without issues.
  have keepsValid : ∀ item value, Checked.ofOption (make item) = .valid value →
      otherName value = name item :=
    fun item value isValid => keeps item value (Checked.ofOption_injective isValid)
  have arranged := Checked.bare_collect_arrange rank name otherName
    (fun item => Checked.ofOption (make item)) keepsValid items
  rw [Checked.bare_collect_ofOption, Checked.bare_collect_ofOption, Checked.map_ofOption]
    at arranged
  exact Checked.ofOption_injective arranged

end Results

/-! ## The older format -/

namespace Swagger

namespace Schema

theorem toOption_lowerProperties (required : List Text) (properties : List (Text × Schema)) :
    (lowerProperties required properties).toOption =
      properties.mapM fun property =>
        property.2.lower.toOption.map fun type =>
          { name := property.1, required := required.contains property.1, type } := by
  induction properties with
  | nil => rfl
  | cons property properties induction =>
      obtain ⟨name, schema⟩ := property
      rw [lowerProperties, toOption_bind_bind_pure, induction, List.mapM_cons]
      cases schema.lower.toOption with
      | none => rfl
      | some type => exact Option.map_eq_bind

theorem toOption_lowerProperties_arrange (required : List Text) (rank : Text → Nat)
    (properties : List (Text × Schema)) :
    (lowerProperties required (arrange rank Prod.fst properties)).toOption =
      (lowerProperties required properties).toOption.map (arrange rank Field.name) := by
  rw [toOption_lowerProperties, toOption_lowerProperties]
  apply mapM_arrange rank Prod.fst Field.name
  rintro ⟨name, schema⟩ field made
  obtain ⟨type, -, rfl⟩ := Option.map_eq_some_iff.mp made
  rfl

theorem toOption_textType (ranks : Ranks) (enumeration : Option (List Text))
    (format : Option Text) :
    (textType enumeration format).rearrange ranks = textType enumeration format := by
  cases enumeration with
  | some words => rfl
  | none =>
      simp only [textType]
      split <;> rfl

mutual

/-- A rearranged schema has the rearranged type, if there is one. -/
theorem toOption_lower_rearrange (ranks : Ranks) (schema : Schema) :
    (schema.rearrange ranks).lower.toOption =
      schema.lower.toOption.map (TypeExpr.rearrange ranks) := by
  match schema with
  | { reference, kind, enumeration, format, required, items, properties, allOf, .. } =>
      rw [rearrange_eq, lower.eq_def, lower.eq_def]
      dsimp only
      cases reference with
      | some target =>
          simp only [toOption_bind_pure, Option.map_map]
          rfl
      | none =>
          cases allOf with
          | some members =>
              have lowered :=
                toOption_lowerMembers_rearrange (ranks.under (.name "allOf")) 0 members
              simp only [Option.map_some, toOption_bind_pure, ← rearrangeMembers_eq, lowered,
                Option.map_map]
              rfl
          | none =>
              cases kind with
              | none => simp [Except.toOption, TypeExpr.rearrange_emptyRecord]
              | some word =>
                  dsimp only [Option.map_none]
                  cases SchemaKind.ofName? word with
                  | none => rfl
                  | some known =>
                      cases known with
                      | text => simp [Except.toOption, toOption_textType]
                      | array =>
                          cases items with
                          | none => rfl
                          | some item =>
                              have lowered :=
                                toOption_lower_rearrange (ranks.under (.name "items")) item
                              simp only [Option.map_some, toOption_bind_pure, lowered,
                                Option.map_map]
                              rfl
                      | object =>
                          cases properties with
                          | none => simp [Except.toOption, TypeExpr.rearrange_emptyRecord]
                          | some properties =>
                              have lowered := toOption_lowerProperties_rearrange
                                (required.getD []) (ranks.under (.name "properties")) properties
                              simp only [Option.map_some, toOption_bind_pure, arrangeNamed,
                                toOption_lowerProperties_arrange, ← rearrangeProperties_eq, lowered,
                                Option.map_map]
                              rfl
                      | _ => rfl

theorem toOption_lowerMembers_rearrange (ranks : Ranks) (index : Nat) (members : List Schema) :
    (lowerMembers (rearrangeMembers ranks index members)).toOption =
      (lowerMembers members).toOption.map (TypeExpr.rearrangeMembers ranks index) := by
  match members with
  | [] => rfl
  | member :: members =>
      rw [rearrangeMembers, lowerMembers, lowerMembers, toOption_bind_bind_pure,
        toOption_bind_bind_pure, toOption_lower_rearrange _ member,
        toOption_lowerMembers_rearrange ranks (index + 1) members]
      cases member.lower.toOption <;> cases (lowerMembers members).toOption <;> rfl

/-- List counterpart of `toOption_lower_rearrange` for properties. -/
theorem toOption_lowerProperties_rearrange (required : List Text) (ranks : Ranks)
    (properties : List (Text × Schema)) :
    (lowerProperties required (rearrangeProperties ranks properties)).toOption =
      (lowerProperties required properties).toOption.map (TypeExpr.rearrangeFields ranks) := by
  match properties with
  | [] => rfl
  | (name, schema) :: properties =>
      rw [rearrangeProperties, lowerProperties, lowerProperties, toOption_bind_bind_pure,
        toOption_bind_bind_pure, toOption_lower_rearrange _ schema,
        toOption_lowerProperties_rearrange required ranks properties]
      cases schema.lower.toOption <;> cases (lowerProperties required properties).toOption <;> rfl

end

end Schema

theorem toOption_declare (schemas : List (Text × Schema)) :
    (declare schemas).toOption =
      schemas.mapM fun named => named.2.lower.toOption.map (Declaration.mk named.1) := by
  induction schemas with
  | nil => rfl
  | cons named schemas induction =>
      obtain ⟨name, schema⟩ := named
      rw [declare, toOption_bind_bind_pure, induction, List.mapM_cons]
      cases schema.lower.toOption with
      | none => rfl
      | some type => exact Option.map_eq_bind

end Swagger

/-! ## The newer format -/

namespace OpenApi

theorem result?_enumerationType (ranks : Ranks) (members : List Data) :
    (enumerationType members).result?.map (TypeExpr.rearrange ranks) =
      (enumerationType members).result? := by
  have union : (enumerationType members).result? =
      (enumerationMembers members).result?.map TypeExpr.union := by
    unfold enumerationType
    cases enumerationMembers members with
    | mk events outcome => cases outcome <;> rfl
  rw [union, Option.map_map]
  rfl

theorem result?_textType (ranks : Ranks) (enumeration : Option (List Data))
    (format : Option Text) :
    (textType enumeration format).result?.map (TypeExpr.rearrange ranks) =
      (textType enumeration format).result? := by
  cases enumeration with
  | some members => exact result?_enumerationType ranks members
  | none =>
      simp only [textType]
      split <;> rfl

theorem result?_referenceType (ranks : Ranks) (target : Text) :
    (referenceType target).result?.map (TypeExpr.rearrange ranks) =
      (referenceType target).result? := by
  unfold referenceType
  cases localName referenceOpening target <;> rfl

namespace Schema

theorem result?_lowerProperties (required : List Text) (properties : List (Text × Slot Schema)) :
    (lowerProperties required properties).result? =
      properties.mapM fun property =>
        (lowerSlot property.2).result?.map fun type =>
          { name := property.1, required := required.contains property.1, type } := by
  induction properties with
  | nil => rfl
  | cons property properties induction =>
      obtain ⟨name, slot⟩ := property
      rw [lowerProperties, Logged.result?_bind_bind_pure, induction, List.mapM_cons]
      cases (lowerSlot slot).result? with
      | none => rfl
      | some type => exact Option.map_eq_bind

theorem result?_lowerProperties_arrange (required : List Text) (rank : Text → Nat)
    (properties : List (Text × Slot Schema)) :
    (lowerProperties required (arrange rank Prod.fst properties)).result? =
      (lowerProperties required properties).result?.map (arrange rank Field.name) := by
  rw [result?_lowerProperties, result?_lowerProperties]
  apply mapM_arrange rank Prod.fst Field.name
  rintro ⟨name, slot⟩ field made
  obtain ⟨type, -, rfl⟩ := Option.map_eq_some_iff.mp made
  rfl

mutual

/-- A rearranged schema has the rearranged type, if there is one. -/
theorem result?_lower_rearrange (ranks : Ranks) (schema : Schema) :
    (schema.rearrange ranks).lower.result? =
      schema.lower.result?.map (TypeExpr.rearrange ranks) := by
  match schema with
  | { kind, enumeration, format, required, items, properties, allOf, .. } =>
      rw [rearrange_eq, lower.eq_def, lower.eq_def]
      dsimp only
      cases allOf with
      | some members =>
          have lowered := result?_lowerMembers_rearrange (ranks.under (.name "allOf")) 0 members
          simp only [Option.map_some, Logged.result?_bind_pure, ← rearrangeMembers_eq, lowered,
            Option.map_map]
          rfl
      | none =>
          have record (properties : List (Text × Slot Schema)) (lowered :
              (lowerProperties (required.getD [])
                  (rearrangeProperties (ranks.under (.name "properties")) properties)).result? =
                (lowerProperties (required.getD []) properties).result?.map
                  (TypeExpr.rearrangeFields (ranks.under (.name "properties")))) :
              (lowerProperties (required.getD [])
                  (arrangeNamed rearrangeSlot (ranks.under (.name "properties")) properties) >>=
                fun fields => pure (TypeExpr.record fields)).result? =
              (lowerProperties (required.getD []) properties >>=
                fun fields => pure (TypeExpr.record fields)).result?.map
                  (TypeExpr.rearrange ranks) := by
            simp only [Logged.result?_bind_pure, arrangeNamed, result?_lowerProperties_arrange,
              ← rearrangeProperties_eq, lowered, Option.map_map]
            rfl
          cases kind with
          | none =>
              cases enumeration with
              | some members => exact (result?_enumerationType ranks members).symm
              | none =>
                  cases properties with
                  | none => rfl
                  | some properties =>
                      exact record properties (result?_lowerProperties_rearrange
                        (required.getD []) (ranks.under (.name "properties")) properties)
          | some word =>
              dsimp only [Option.map_none]
              cases SchemaKind.ofName? word with
              | none => rfl
              | some known =>
                  cases known with
                  | text => exact (result?_textType ranks enumeration format).symm
                  | enumeration => exact (result?_enumerationType ranks _).symm
                  | array =>
                      cases items with
                      | none => rfl
                      | some slot =>
                          have lowered :=
                            result?_lowerSlot_rearrange (ranks.under (.name "items")) slot
                          simp only [Option.map_some, Logged.result?_bind_pure, lowered,
                            Option.map_map]
                          rfl
                  | object =>
                      cases properties with
                      | none =>
                          exact congrArg some (TypeExpr.rearrange_emptyRecord ranks).symm
                      | some properties =>
                          exact record properties (result?_lowerProperties_rearrange
                            (required.getD []) (ranks.under (.name "properties")) properties)
                  | _ => rfl

theorem result?_lowerSlot_rearrange (ranks : Ranks) (slot : Slot Schema) :
    (lowerSlot (rearrangeSlot ranks slot)).result? =
      (lowerSlot slot).result?.map (TypeExpr.rearrange ranks) := by
  match slot with
  | .reference target =>
      rw [rearrangeSlot, lowerSlot]
      exact (result?_referenceType ranks target).symm
  | .inline schema =>
      rw [rearrangeSlot, lowerSlot, lowerSlot]
      exact result?_lower_rearrange ranks schema

theorem result?_lowerMembers_rearrange (ranks : Ranks) (index : Nat)
    (members : List (Slot Schema)) :
    (lowerMembers (rearrangeMembers ranks index members)).result? =
      (lowerMembers members).result?.map (TypeExpr.rearrangeMembers ranks index) := by
  match members with
  | [] => rfl
  | member :: members =>
      rw [rearrangeMembers, lowerMembers, lowerMembers, Logged.result?_bind_bind_pure,
        Logged.result?_bind_bind_pure, result?_lowerSlot_rearrange _ member,
        result?_lowerMembers_rearrange ranks (index + 1) members]
      cases (lowerSlot member).result? <;> cases (lowerMembers members).result? <;> rfl

/-- List counterpart of `result?_lowerSlot_rearrange` for properties. -/
theorem result?_lowerProperties_rearrange (required : List Text) (ranks : Ranks)
    (properties : List (Text × Slot Schema)) :
    (lowerProperties required (rearrangeProperties ranks properties)).result? =
      (lowerProperties required properties).result?.map (TypeExpr.rearrangeFields ranks) := by
  match properties with
  | [] => rfl
  | (name, slot) :: properties =>
      rw [rearrangeProperties, lowerProperties, lowerProperties, Logged.result?_bind_bind_pure,
        Logged.result?_bind_bind_pure, result?_lowerSlot_rearrange _ slot,
        result?_lowerProperties_rearrange required ranks properties]
      cases (lowerSlot slot).result? <;>
        cases (lowerProperties required properties).result? <;> rfl

end

end Schema

theorem result?_declare (schemas : List (Text × Slot Schema)) :
    (declare schemas).result? =
      schemas.mapM fun named =>
        (Schema.lowerSlot named.2).result?.map (Declaration.mk named.1) := by
  induction schemas with
  | nil => rfl
  | cons named schemas induction =>
      obtain ⟨name, slot⟩ := named
      rw [declare, Logged.result?_bind_bind_pure, induction, List.mapM_cons]
      cases (Schema.lowerSlot slot).result? with
      | none => rfl
      | some type => exact Option.map_eq_bind

end OpenApi

/-! ## Declarations -/

section Declarations

variable {σ : Type} {change : Ranks → σ → σ}

/-- Declarations of named schemas come in the order of the schemas. -/
theorem mapM_declaration_arrangeNamed (lower? : σ → Option TypeExpr)
    (lowers : ∀ ranks schema, lower? (change ranks schema) =
      (lower? schema).map (TypeExpr.rearrange ranks)) (ranks : Ranks) (schemas : List (Text × σ)) :
    ((arrangeNamed change ranks schemas).mapM fun named =>
        (lower? named.2).map (Declaration.mk named.1)) =
      (schemas.mapM fun named => (lower? named.2).map (Declaration.mk named.1)).map
        (Declaration.rearrangeAll ranks) := by
  have inPlace : ((changeNamed change ranks schemas).mapM fun named =>
        (lower? named.2).map (Declaration.mk named.1)) =
      (schemas.mapM fun named => (lower? named.2).map (Declaration.mk named.1)).map
        (List.map fun declaration =>
          { declaration with
            type := declaration.type.rearrange (ranks.under (.name declaration.name)) }) := by
    induction schemas with
    | nil => rfl
    | cons named schemas induction =>
        rw [changeNamed, List.map_cons, List.mapM_cons, List.mapM_cons, ← changeNamed, induction,
          lowers]
        cases lower? named.2 <;>
          cases (schemas.mapM fun named => (lower? named.2).map (Declaration.mk named.1)) <;> rfl
  have arranged := mapM_arrange ranks.here Prod.fst Declaration.name
    (fun named : Text × σ => (lower? named.2).map (Declaration.mk named.1)) (by
      rintro ⟨name, schema⟩ declaration made
      obtain ⟨type, -, rfl⟩ := Option.map_eq_some_iff.mp made
      rfl)
    (changeNamed change ranks schemas)
  rw [arrangeNamed, arranged, inPlace, Option.map_map]
  rfl

end Declarations

namespace Specification

/-- The ranks of the names of schemas in a specification. -/
def schemaRanks (ranks : Ranks) : Specification → Ranks
  | .swagger _ => ranks.under (.name "definitions")
  | .openApi _ => (ranks.under (.name "components")).under (.name "schemas")

/-- The declarations of a specification, if all its schemas have types. -/
theorem result?_declarations (specification : Specification) :
    specification.declarations.result? =
      match specification with
      | .swagger document =>
          (document.definitions.getD []).mapM fun named =>
            named.2.lower.toOption.map (Declaration.mk named.1)
      | .openApi document =>
          ((document.components.bind OpenApi.Components.schemas).getD []).mapM fun named =>
            (OpenApi.Schema.lowerSlot named.2).result?.map (Declaration.mk named.1) := by
  have reported (translated : Logged OpenApi.LoweringFault (List Declaration)) :
      (translated >>= fun declarations =>
        Logged.report (.declared declarations.length) >>= fun _ => pure declarations).result? =
          translated.result? := by
    obtain ⟨events, outcome⟩ := translated
    cases outcome <;> rfl
  unfold declarations
  cases specification with
  | swagger document =>
      rw [reported]
      refine Eq.trans ?_ (Swagger.toOption_declare (document.definitions.getD []))
      change ((Swagger.declare _).mapError _).toOption = _
      cases Swagger.declare (document.definitions.getD []) <;> rfl
  | openApi document =>
      rw [reported]
      refine Eq.trans ?_ (OpenApi.result?_declare
        ((document.components.bind OpenApi.Components.schemas).getD []))
      unfold OpenApi.Document.declarations
      cases document.components.bind OpenApi.Components.schemas <;> rfl

/-- Arranged schemas are declared in the order of their ranks, with arranged types. -/
theorem result?_declarations_rearrange (ranks : Ranks) (specification : Specification) :
    (specification.rearrange ranks).declarations.result? =
      specification.declarations.result?.map
        (Declaration.rearrangeAll (specification.schemaRanks ranks)) := by
  rw [result?_declarations, result?_declarations]
  have nothing (ranks : Ranks) : Declaration.rearrangeAll ranks [] = [] := by
    simp [Declaration.rearrangeAll, arrange]
  cases specification with
  | swagger document =>
      obtain ⟨swagger, info, definitions⟩ := document
      cases definitions with
      | none => exact congrArg some (nothing _).symm
      | some definitions =>
          exact mapM_declaration_arrangeNamed
            (fun schema : Swagger.Schema => schema.lower.toOption)
            Swagger.Schema.toOption_lower_rearrange _ definitions
  | openApi document =>
      obtain ⟨openapi, info, paths, components⟩ := document
      rcases components with _ | ⟨_ | schemas⟩
      · exact congrArg some (nothing _).symm
      · exact congrArg some (nothing _).symm
      · exact mapM_declaration_arrangeNamed
          (fun slot => (OpenApi.Schema.lowerSlot slot).result?)
          OpenApi.Schema.result?_lowerSlot_rearrange _ schemas

end Specification

end ApiTypes
