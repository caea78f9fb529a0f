import ApiTypes.Proofs.RelatedReadings
import ApiTypes.Proofs.VisitedSchemas

/-!
# Schemas without a kind

A schema without a kind is an empty record, whatever properties it has.  Some of the
schemas in a document that have neither a kind nor a reference nor members of an
intersection are given the kind of objects, and then they have the fields of their
properties.  What the translation of the document was before remains as long as no
visited schema with properties is among them.
-/

namespace ApiTypes.Swagger

/-- The kind of schemas that have properties. -/
def objectKind : Text := "object"

/-- A schema, and the same one after some schemas in it have been given the kind of objects. -/
inductive Schema.Gives : Schema → Schema → Prop
  | schema {reference description kind otherKind format : Option Text}
      {enumeration required : Option (List Text)} {items otherItems : Option Schema}
      {properties otherProperties : Option (List (Text × Schema))}
      {allOf otherMembers : Option (List Schema)}
      (given : otherKind = kind ∨
        kind = none ∧ otherKind = some objectKind ∧ reference = none ∧ allOf = none)
      (item : Option.Rel Gives items otherItems)
      (named : Option.Rel (List.Forall₂ (Named Gives)) properties otherProperties)
      (members : Option.Rel (List.Forall₂ Gives) allOf otherMembers) :
      Gives
        { reference, description, kind, format, enumeration, required, items, properties, allOf }
        { reference, description, kind := otherKind, format, enumeration, required,
          items := otherItems, properties := otherProperties, allOf := otherMembers }

namespace Schema

mutual

/-- The schemas that lowering comes to, each with the schema in its place in another schema. -/
def visitedPairs (schema other : Schema) : List (Schema × Schema) :=
  match schema with
  | { reference, kind, items, properties, allOf, .. } =>
      (schema, other) ::
        match reference with
        | some _ => []
        | none =>
            match allOf with
            | some members => visitedMemberPairs members (other.allOf.getD [])
            | none =>
                match kind.bind SchemaKind.ofName? with
                | some .array =>
                    match items, other.items with
                    | some item, some otherItem => visitedPairs item otherItem
                    | _, _ => []
                | some .object =>
                    match properties with
                    | some properties => visitedPropertyPairs properties (other.properties.getD [])
                    | none => []
                | _ => []

def visitedMemberPairs : List Schema → List Schema → List (Schema × Schema)
  | member :: members, other :: others =>
      visitedPairs member other ++ visitedMemberPairs members others
  | _, _ => []

/-- List counterpart of `visitedPairs` for properties. -/
def visitedPropertyPairs : List (Text × Schema) → List (Text × Schema) → List (Schema × Schema)
  | (_, schema) :: properties, (_, other) :: others =>
      visitedPairs schema other ++ visitedPropertyPairs properties others
  | _, _ => []

end

/-- A schema with properties has been given a kind, and the fields for the properties with it. -/
def GainsFields (schema other : Schema) : Prop :=
  other.kind ≠ schema.kind ∧ schema.properties.getD [] ≠ []

theorem ofName?_objectKind : SchemaKind.ofName? objectKind = some .object := by
  decide

mutual

/-- Without fields that are gained the type stays the same. -/
theorem lower_of_gives {schema other : Schema} (gives : schema.Gives other)
    (gainless : ∀ pair ∈ visitedPairs schema other, ¬ GainsFields pair.1 pair.2) :
    other.lower = schema.lower := by
  obtain ⟨reference, description, kind, format, enumeration, required, items, properties, allOf⟩ :=
    schema
  cases gives with
  | @schema _ _ _ otherKind _ _ _ _ otherItems _ otherProperties _ otherMembers given item named
      members =>
  rw [visitedPairs.eq_def] at gainless
  rw [lower.eq_def, lower.eq_def]
  simp only [List.mem_cons, forall_eq_or_imp] at gainless
  obtain ⟨here, inside⟩ := gainless
  cases reference with
  | some target => rfl
  | none =>
      cases members with
      | some membersGive =>
          dsimp only at inside ⊢
          rw [lowerMembers_of_give membersGive inside]
      | none =>
          dsimp only at inside ⊢
          rcases given with same | ⟨rfl, rfl, -, -⟩
          · subst otherKind
            cases kind with
            | none => rfl
            | some name =>
                dsimp only [Option.bind_some] at inside ⊢
                cases known : SchemaKind.ofName? name with
                | none => rfl
                | some kind =>
                    rw [known] at inside
                    cases kind with
                    | array =>
                        cases item with
                        | none => rfl
                        | some gives =>
                            dsimp only at inside ⊢
                            rw [lower_of_gives gives inside]
                    | object =>
                        cases named with
                        | none => rfl
                        | some give =>
                            dsimp only at inside ⊢
                            rw [lowerProperties_of_give (required.getD []) give inside]
                    | _ => rfl
          · dsimp only
            rw [ofName?_objectKind]
            cases named with
            | none => rfl
            | @some properties _ give =>
                cases give with
                | nil => rfl
                | cons => exact absurd ⟨nofun, nofun⟩ here

/-- List counterpart of `lower_of_gives`. -/
theorem lowerMembers_of_give {members others : List Schema}
    (give : List.Forall₂ Gives members others)
    (gainless : ∀ pair ∈ visitedMemberPairs members others, ¬ GainsFields pair.1 pair.2) :
    lowerMembers others = lowerMembers members := by
  cases members with
  | nil =>
      cases give
      rfl
  | cons member members =>
      cases give with
      | @cons _ other _ others head tail =>
          simp only [visitedMemberPairs, List.mem_append] at gainless
          rw [lowerMembers, lowerMembers,
            lower_of_gives head fun pair isPair => gainless pair (.inl isPair),
            lowerMembers_of_give tail fun pair isPair => gainless pair (.inr isPair)]

/-- Counterpart of `lower_of_gives` for properties. -/
theorem lowerProperties_of_give {properties others : List (Text × Schema)} (required : List Text)
    (give : List.Forall₂ (Named Gives) properties others)
    (gainless : ∀ pair ∈ visitedPropertyPairs properties others, ¬ GainsFields pair.1 pair.2) :
    lowerProperties required others = lowerProperties required properties := by
  cases properties with
  | nil =>
      cases give
      rfl
  | cons property properties =>
      cases give with
      | @cons _ other _ others head tail =>
          obtain ⟨name, schema⟩ := property
          cases head with
          | @intro _ _ other gives =>
              simp only [visitedPropertyPairs, List.mem_append] at gainless
              rw [lowerProperties, lowerProperties,
                lower_of_gives gives fun pair isPair => gainless pair (.inl isPair),
                lowerProperties_of_give required tail fun pair isPair =>
                  gainless pair (.inr isPair)]

end

mutual

/-- Fields that are gained change the type. -/
theorem gainless_of_lower {schema other : Schema} {type : TypeExpr} (gives : schema.Gives other)
    (lowered : schema.lower = .ok type) (otherLowered : other.lower = .ok type) :
    ∀ pair ∈ visitedPairs schema other, ¬ GainsFields pair.1 pair.2 := by
  obtain ⟨reference, description, kind, format, enumeration, required, items, properties, allOf⟩ :=
    schema
  cases gives with
  | @schema _ _ _ otherKind _ _ _ _ otherItems _ otherProperties _ otherMembers given item named
      members =>
  rw [visitedPairs.eq_def]
  rw [lower.eq_def] at lowered otherLowered
  rcases given with same | ⟨rfl, rfl, rfl, rfl⟩
  · subst otherKind
    refine List.forall_mem_cons.mpr ⟨fun gains => gains.1 rfl, ?_⟩
    cases reference with
    | some target => exact nofun
    | none =>
        cases members with
        | some give =>
            obtain ⟨types, membersLowered, rfl⟩ := exists_of_bind_pure_eq_ok lowered
            obtain ⟨others, othersLowered, same⟩ := exists_of_bind_pure_eq_ok otherLowered
            obtain rfl := TypeExpr.intersection.inj same
            exact gainless_of_lowerMembers give membersLowered othersLowered
        | none =>
            cases kind with
            | none => exact nofun
            | some name =>
                dsimp only [Option.bind_some] at lowered otherLowered ⊢
                cases known : SchemaKind.ofName? name with
                | none => exact nofun
                | some kind =>
                    rw [known] at lowered otherLowered
                    cases kind with
                    | array =>
                        cases item with
                        | none => exact nofun
                        | some gives =>
                            obtain ⟨element, itemLowered, rfl⟩ := exists_of_bind_pure_eq_ok lowered
                            obtain ⟨other, otherItemLowered, same⟩ :=
                              exists_of_bind_pure_eq_ok otherLowered
                            obtain rfl := TypeExpr.array.inj same
                            exact gainless_of_lower gives itemLowered otherItemLowered
                    | object =>
                        cases named with
                        | none => exact nofun
                        | some give =>
                            obtain ⟨fields, propertiesLowered, rfl⟩ :=
                              exists_of_bind_pure_eq_ok lowered
                            obtain ⟨others, othersLowered, same⟩ :=
                              exists_of_bind_pure_eq_ok otherLowered
                            obtain rfl := TypeExpr.record.inj same
                            exact gainless_of_lowerProperties give propertiesLowered othersLowered
                    | _ => exact nofun
  · cases members
    refine List.forall_mem_cons.mpr ⟨?_, nofun⟩
    cases named with
    | none => exact fun gains => gains.2 rfl
    | @some properties others give =>
        -- Without a kind the type has no fields, so that there can be no properties.
        dsimp only at lowered otherLowered
        rw [ofName?_objectKind] at otherLowered
        obtain ⟨fields, othersLowered, same⟩ := exists_of_bind_pure_eq_ok otherLowered
        rw [← Except.ok.inj lowered] at same
        obtain rfl := TypeExpr.record.inj same
        cases give with
        | nil => exact fun gains => gains.2 rfl
        | @cons _ other _ others head tail =>
            obtain ⟨name, other⟩ := other
            obtain ⟨_, _, -, -, noFields⟩ := exists_of_bind_bind_pure_eq_ok othersLowered
            cases noFields

/-- List counterpart of `gainless_of_lower`. -/
theorem gainless_of_lowerMembers {members others : List Schema} {types : List TypeExpr}
    (give : List.Forall₂ Gives members others) (lowered : lowerMembers members = .ok types)
    (otherLowered : lowerMembers others = .ok types) :
    ∀ pair ∈ visitedMemberPairs members others, ¬ GainsFields pair.1 pair.2 := by
  cases members with
  | nil => exact nofun
  | cons member members =>
      cases give with
      | cons head tail =>
          obtain ⟨type, types, headLowered, tailLowered, rfl⟩ :=
            exists_of_bind_bind_pure_eq_ok lowered
          obtain ⟨other, others, otherHead, otherTail, same⟩ :=
            exists_of_bind_bind_pure_eq_ok otherLowered
          obtain ⟨rfl, rfl⟩ := List.cons.inj same
          rw [visitedMemberPairs]
          exact List.forall_mem_append.mpr
            ⟨gainless_of_lower head headLowered otherHead,
              gainless_of_lowerMembers tail tailLowered otherTail⟩

/-- Counterpart of `gainless_of_lower` for properties. -/
theorem gainless_of_lowerProperties {properties others : List (Text × Schema)}
    {required : List Text} {fields : List (Field TypeExpr)}
    (give : List.Forall₂ (Named Gives) properties others)
    (lowered : lowerProperties required properties = .ok fields)
    (otherLowered : lowerProperties required others = .ok fields) :
    ∀ pair ∈ visitedPropertyPairs properties others, ¬ GainsFields pair.1 pair.2 := by
  cases properties with
  | nil => exact nofun
  | cons property properties =>
      cases give with
      | @cons _ other _ others head tail =>
          obtain ⟨name, schema⟩ := property
          cases head with
          | intro gives =>
              obtain ⟨type, fields, headLowered, tailLowered, rfl⟩ :=
                exists_of_bind_bind_pure_eq_ok lowered
              obtain ⟨other, others, otherHead, otherTail, same⟩ :=
                exists_of_bind_bind_pure_eq_ok otherLowered
              obtain ⟨fieldsSame, rfl⟩ := List.cons.inj same
              obtain ⟨-, -, rfl⟩ := Field.mk.inj fieldsSame
              rw [visitedPropertyPairs]
              exact List.forall_mem_append.mpr
                ⟨gainless_of_lower gives headLowered otherHead,
                  gainless_of_lowerProperties tail tailLowered otherTail⟩

end

end Schema

/-! ## Documents -/

/-- A declaration as a field that need not be there. -/
def fieldOfDeclaration (declaration : Declaration) : Field TypeExpr :=
  { name := declaration.name, required := false, type := declaration.type }

theorem lowerProperties_eq_declare (schemas : List (Text × Schema)) :
    Schema.lowerProperties [] schemas = List.map fieldOfDeclaration <$> declare schemas := by
  induction schemas with
  | nil => rfl
  | cons named schemas induction =>
      obtain ⟨name, schema⟩ := named
      rw [Schema.lowerProperties, declare, induction]
      cases schema.lower with
      | error fault => rfl
      | ok type => cases declare schemas <;> rfl

theorem fieldOfDeclaration_injective (declaration other : Declaration)
    (same : fieldOfDeclaration declaration = fieldOfDeclaration other) : declaration = other := by
  obtain ⟨names, -, types⟩ := Field.mk.inj same
  cases declaration
  cases other
  cases names
  cases types
  rfl

/-- Definitions are declared the same exactly if they are lowered the same as properties. -/
theorem declare_eq_declare_iff (schemas others : List (Text × Schema)) :
    declare others = declare schemas ↔
      Schema.lowerProperties [] others = Schema.lowerProperties [] schemas := by
  rw [lowerProperties_eq_declare, lowerProperties_eq_declare]
  refine ⟨congrArg _, fun same => ?_⟩
  cases here : declare schemas with
  | error fault =>
      cases there : declare others with
      | error other =>
          rw [here, there] at same
          exact congrArg Except.error (Except.error.inj same)
      | ok others =>
          rw [here, there] at same
          cases same
  | ok declarations =>
      cases there : declare others with
      | error other =>
          rw [here, there] at same
          cases same
      | ok others =>
          rw [here, there] at same
          have fields := Except.ok.inj same
          exact congrArg Except.ok ((List.map_inj_right fieldOfDeclaration_injective).mp fields)

namespace Document

/-- A document, and the same one after some schemas in it have been given the kind of objects. -/
structure Gives (document other : Document) : Prop where
  swagger : other.swagger = document.swagger
  info : other.info = document.info
  definitions :
    Option.Rel (List.Forall₂ (Named Schema.Gives)) document.definitions other.definitions

/-- The schemas that the translation of a document comes to, each with the schema in its place in
another document. -/
def visitedPairs (document other : Document) : List (Schema × Schema) :=
  Schema.visitedPropertyPairs (document.definitions.getD []) (other.definitions.getD [])

/-- Kinds that are given to schemas are not noticed exactly if the translation fails all the same,
or none of the schemas it comes to gains fields with its kind. -/
theorem declarations_eq_iff_of_gives {document other : Document} (gives : document.Gives other) :
    other.declarations = document.declarations ↔
      (∃ fault, document.declarations = .error fault ∧ other.declarations = .error fault) ∨
        ∀ pair ∈ document.visitedPairs other, ¬ Schema.GainsFields pair.1 pair.2 := by
  have give : List.Forall₂ (Named Schema.Gives) (document.definitions.getD [])
      (other.definitions.getD []) := by
    have definitions := gives.definitions
    cases here : document.definitions <;> cases there : other.definitions <;>
      rw [here, there] at definitions <;> cases definitions
    · exact .nil
    next give => exact give
  constructor
  · intro same
    cases translated : document.declarations with
    | error fault => exact .inl ⟨fault, rfl, same.trans translated⟩
    | ok declarations =>
        right
        have lowered := lowerProperties_eq_declare (document.definitions.getD [])
        have otherLowered := lowerProperties_eq_declare (other.definitions.getD [])
        rw [show declare _ = _ from translated] at lowered
        rw [show declare _ = _ from same.trans translated] at otherLowered
        exact Schema.gainless_of_lowerProperties give lowered otherLowered
  · rintro (⟨fault, fails, otherFails⟩ | gainless)
    · rw [fails, otherFails]
    · exact (declare_eq_declare_iff _ _).mpr (Schema.lowerProperties_of_give [] give gainless)

end Document

end ApiTypes.Swagger
