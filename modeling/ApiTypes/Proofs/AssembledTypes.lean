import ApiTypes.Proofs.DistinctFields
import ApiTypes.Proofs.FaultyNodes

/-!
# Types assembled with checks

Translation puts records together, and selection puts them together once more.  Here
both are done with a check of the field names of every record.  Where the properties of
schemas have distinct names, the checks never fail, and the results are the same.
-/

namespace ApiTypes

/-! ## Checked computations -/

/-- A computation with checks does what the one without them does, and its result has a
property. -/
structure Assembles (isSound : α → Prop) (checked : Except (ε ⊕ DuplicateFields) α)
    (plain : Except ε α) : Prop where
  same : checked = plain.mapError .inl
  sound : ∀ result, plain = .ok result → isSound result

namespace Assembles

variable {α β ε : Type} {isSound : α → Prop} {nextSound : β → Prop}

theorem pure {result : α} (sound : isSound result) :
    Assembles (ε := ε) isSound (.ok result) (.ok result) where
  same := rfl
  sound := by
    rintro _ ⟨⟩
    exact sound

theorem bind {checked : Except (ε ⊕ DuplicateFields) α} {plain : Except ε α}
    (first : Assembles isSound checked plain)
    {checkedNext : α → Except (ε ⊕ DuplicateFields) β} {next : α → Except ε β}
    (rest : ∀ result, isSound result → Assembles nextSound (checkedNext result) (next result)) :
    Assembles nextSound (checked >>= checkedNext) (plain >>= next) := by
  obtain ⟨rfl, sound⟩ := first
  cases plain with
  | ok result => exact rest result (sound result rfl)
  | error fault => exact ⟨rfl, nofun⟩

end Assembles

/-- The same for computations that report on the way. -/
structure Logged.Assembles (isSound : α → Prop) (checked : Logged (ε ⊕ DuplicateFields) α)
    (plain : Logged ε α) : Prop where
  same : checked = plain.mapFault .inl
  sound : ∀ result, plain.outcome = .ok result → isSound result

namespace Logged.Assembles

variable {α β ε : Type} {isSound : α → Prop} {nextSound : β → Prop}

theorem pure {result : α} (sound : isSound result) :
    @Logged.Assembles α ε isSound (Pure.pure result) (Pure.pure result) where
  same := rfl
  sound := by
    rintro _ ⟨⟩
    exact sound

theorem report (event : Event) :
    Logged.Assembles (ε := ε) (fun _ => True) (Logged.report event) (Logged.report event) :=
  ⟨rfl, fun _ _ => trivial⟩

/-- A computation without records needs no checks. -/
theorem unchecked {plain : Logged ε α}
    (sound : ∀ result, plain.outcome = .ok result → isSound result) :
    Logged.Assembles isSound (plain.mapFault .inl) plain :=
  ⟨rfl, sound⟩

theorem fail (fault : ε) :
    Logged.Assembles isSound (Logged.fail (.inl fault)) (Logged.fail fault) where
  same := rfl
  sound := by
    rintro _ ⟨⟩

theorem bind {checked : Logged (ε ⊕ DuplicateFields) α} {plain : Logged ε α}
    (first : Logged.Assembles isSound checked plain)
    {checkedNext : α → Logged (ε ⊕ DuplicateFields) β} {next : α → Logged ε β}
    (rest : ∀ result, isSound result →
      Logged.Assembles nextSound (checkedNext result) (next result)) :
    Logged.Assembles nextSound (checked >>= checkedNext) (plain >>= next) := by
  obtain ⟨rfl, sound⟩ := first
  obtain ⟨events, outcome⟩ := plain
  cases outcome with
  | ok result =>
      obtain ⟨same, restSound⟩ := rest result (sound result rfl)
      refine ⟨?_, restSound⟩
      change Logged.mk (events ++ (checkedNext result).events) (checkedNext result).outcome = _
      rw [same]
      rfl
  | error fault => exact ⟨rfl, nofun⟩

end Logged.Assembles

namespace TypeExpr

theorem recordOf_eq_ok {fields : List (Field TypeExpr)}
    (distinct : (fields.map Field.name).Nodup) : recordOf fields = .ok (.record fields) :=
  if_pos distinct

theorem hasDistinctFields_record {fields : List (Field TypeExpr)}
    (distinct : (fields.map Field.name).Nodup)
    (fieldsDistinct : fieldsHaveDistinctFields fields = true) :
    (record fields).hasDistinctFields = true := by
  simp [hasDistinctFields, distinct, fieldsDistinct]

theorem haveDistinctFields_literals (values : List Literal) :
    haveDistinctFields (values.map .literal) = true := by
  induction values with
  | nil => rfl
  | cons value values induction => exact induction

end TypeExpr

open TypeExpr

/-- The fields of a record for properties with the given names. -/
def AreFieldsNamed (names : List Text) (fields : List (Field TypeExpr)) : Prop :=
  fields.map Field.name = names ∧ fieldsHaveDistinctFields fields = true

theorem AreFieldsNamed.cons {names : List Text} {fields : List (Field TypeExpr)}
    (areFields : AreFieldsNamed names fields) (name : Text) (required : Bool) {type : TypeExpr}
    (distinct : type.hasDistinctFields = true) :
    AreFieldsNamed (name :: names) ({ name, required, type } :: fields) :=
  ⟨congrArg (List.cons name) areFields.1, Bool.and_eq_true_iff.mpr ⟨distinct, areFields.2⟩⟩

/-! ## The older format -/

namespace Swagger.Schema

/-- No name stands for two properties of a schema. -/
def NamesDistinct (schema : Schema) : Prop :=
  ((schema.properties.getD []).map Prod.fst).Nodup

mutual

/-- Lowering with a check of every record that it puts together. -/
def assemble (schema : Schema) : Except (ForeignReference ⊕ DuplicateFields) TypeExpr :=
  match schema with
  | { reference, kind, format, enumeration, required, items, properties, allOf, .. } =>
      match reference with
      | some target => do
          return .named (← (localName referenceOpening target).mapError .inl)
      | none =>
          match allOf with
          | some members => do return .intersection (← assembleMembers members)
          | none =>
              match kind with
              | none => (recordOf []).mapError .inr
              | some name =>
                  match SchemaKind.ofName? name with
                  | some .number => .ok TypeExpr.number
                  | some .text => .ok (textType enumeration format)
                  | some .boolean => .ok TypeExpr.boolean
                  | some .array =>
                      match items with
                      | some item => do return .array (← assemble item)
                      | none => .ok TypeExpr.any
                  | some .object =>
                      match properties with
                      | some properties => do
                          let fields ← assembleProperties (required.getD []) properties
                          (recordOf fields).mapError .inr
                      | none => (recordOf []).mapError .inr
                  | _ => .ok TypeExpr.any

def assembleMembers : List Schema → Except (ForeignReference ⊕ DuplicateFields) (List TypeExpr)
  | [] => .ok []
  | member :: members => do
      let type ← assemble member
      let types ← assembleMembers members
      return type :: types

/-- The fields for properties, of which some are required. -/
def assembleProperties (required : List Text) :
    List (Text × Schema) → Except (ForeignReference ⊕ DuplicateFields) (List (Field TypeExpr))
  | [] => .ok []
  | (name, schema) :: properties => do
      let type ← assemble schema
      let fields ← assembleProperties required properties
      return { name, required := required.contains name, type } :: fields

end

theorem hasDistinctFields_textType (enumeration : Option (List Text)) (format : Option Text) :
    (textType enumeration format).hasDistinctFields = true := by
  cases enumeration with
  | some words =>
      have literals := haveDistinctFields_literals (words.map .text)
      rwa [List.map_map] at literals
  | none =>
      rw [textType]
      split <;> rfl

mutual

/-- Where the properties of schemas have distinct names, the checks never fail. -/
theorem assembles_lower (schema : Schema)
    (distinct : ∀ node ∈ schema.visited, node.NamesDistinct) :
    Assembles (·.hasDistinctFields = true) schema.assemble schema.lower := by
  obtain ⟨reference, description, kind, format, enumeration, required, items, properties, allOf⟩ :=
    schema
  rw [visited.eq_def] at distinct
  obtain ⟨here, distinct⟩ := List.forall_mem_cons.mp distinct
  rw [assemble.eq_def, lower.eq_def]
  cases reference with
  | some target =>
      exact Assembles.bind ⟨rfl, fun _ _ => trivial⟩ fun _ (_ : True) => .pure rfl
  | none =>
      cases allOf with
      | some members =>
          exact (assembles_lowerMembers members distinct).bind fun _ sound => .pure sound
      | none =>
          cases kind with
          | none => exact .pure rfl
          | some word =>
              dsimp only [Option.bind_some] at distinct ⊢
              cases known : SchemaKind.ofName? word with
              | none => exact .pure rfl
              | some kind =>
                  rw [known] at distinct
                  cases kind with
                  | text => exact .pure (hasDistinctFields_textType enumeration format)
                  | array =>
                      cases items with
                      | none => exact .pure rfl
                      | some item =>
                          exact (assembles_lower item distinct).bind fun _ sound => .pure sound
                  | object =>
                      cases properties with
                      | none => exact .pure rfl
                      | some properties =>
                          refine (assembles_lowerProperties (required.getD []) properties
                            distinct).bind ?_
                          rintro fields ⟨names, fieldsDistinct⟩
                          have fieldNames : (fields.map Field.name).Nodup := names ▸ here
                          rw [recordOf_eq_ok fieldNames]
                          exact .pure (hasDistinctFields_record fieldNames fieldsDistinct)
                  | _ => exact .pure rfl

/-- List counterpart of `assembles_lower`. -/
theorem assembles_lowerMembers (members : List Schema)
    (distinct : ∀ node ∈ visitedMembers members, node.NamesDistinct) :
    Assembles (haveDistinctFields · = true) (assembleMembers members) (lowerMembers members) := by
  cases members with
  | nil => exact .pure rfl
  | cons member members =>
      obtain ⟨here, others⟩ := List.forall_mem_append.mp distinct
      refine (assembles_lower member here).bind fun type typeDistinct => ?_
      refine (assembles_lowerMembers members others).bind fun types typesDistinct => ?_
      exact .pure (Bool.and_eq_true_iff.mpr ⟨typeDistinct, typesDistinct⟩)

/-- Counterpart of `assembles_lower` for properties. -/
theorem assembles_lowerProperties (required : List Text) (properties : List (Text × Schema))
    (distinct : ∀ node ∈ visitedProperties properties, node.NamesDistinct) :
    Assembles (AreFieldsNamed (properties.map Prod.fst)) (assembleProperties required properties)
      (lowerProperties required properties) := by
  cases properties with
  | nil => exact .pure ⟨rfl, rfl⟩
  | cons property properties =>
      obtain ⟨name, schema⟩ := property
      obtain ⟨here, others⟩ := List.forall_mem_append.mp distinct
      refine (assembles_lower schema here).bind fun type typeDistinct => ?_
      refine (assembles_lowerProperties required properties others).bind fun fields areFields => ?_
      exact .pure (areFields.cons name _ typeDistinct)

end

end Swagger.Schema

/-! ## The newer format -/

namespace OpenApi

/-- No name stands for two properties, if the node is a schema. -/
def Node.NamesDistinct : Node → Prop
  | .schema content => ((content.properties.getD []).map Prod.fst).Nodup
  | _ => True

namespace Schema

/-- The record of fields, unless a name comes twice. -/
def assembleRecord (fields : List (Field TypeExpr)) :
    Logged (LoweringFault ⊕ DuplicateFields) TypeExpr :=
  Logged.ofExcept ((recordOf fields).mapError .inr)

mutual

/-- Lowering with a check of every record that it puts together. -/
def assemble (schema : Schema) : Logged (LoweringFault ⊕ DuplicateFields) TypeExpr :=
  match schema with
  | { kind, format, enumeration, required, items, properties, allOf, .. } =>
      match allOf with
      | some members => do return .intersection (← assembleMembers members)
      | none =>
          match kind with
          | none =>
              match enumeration with
              | some members => (enumerationType members).mapFault .inl
              | none =>
                  match properties with
                  | some properties => do
                      assembleRecord (← assembleProperties (required.getD []) properties)
                  | none => pure TypeExpr.any
          | some name =>
              match SchemaKind.ofName? name with
              | some .number => pure TypeExpr.number
              | some .text => (textType enumeration format).mapFault .inl
              | some .boolean => pure TypeExpr.boolean
              | some .array =>
                  match items with
                  | some slot => do return .array (← assembleSlot slot)
                  | none => Logged.fail (.inl (.arrayWithoutItems schema))
              | some .object =>
                  match properties with
                  | some properties => do
                      assembleRecord (← assembleProperties (required.getD []) properties)
                  | none => assembleRecord []
              | some .unknown => pure TypeExpr.unknown
              | some .enumeration => (enumerationType (enumeration.getD [])).mapFault .inl
              | none => Logged.fail (.inl (.unknownKind name schema))

/-- The type of a reference or of a schema. -/
def assembleSlot : Slot Schema → Logged (LoweringFault ⊕ DuplicateFields) TypeExpr
  | .reference target => (referenceType target).mapFault .inl
  | .inline schema => assemble schema

def assembleMembers :
    List (Slot Schema) → Logged (LoweringFault ⊕ DuplicateFields) (List TypeExpr)
  | [] => pure []
  | member :: members => do
      let type ← assembleSlot member
      let types ← assembleMembers members
      return type :: types

/-- The fields for properties, of which some are required. -/
def assembleProperties (required : List Text) :
    List (Text × Slot Schema) →
      Logged (LoweringFault ⊕ DuplicateFields) (List (Field TypeExpr))
  | [] => pure []
  | (name, slot) :: properties => do
      let type ← assembleSlot slot
      let fields ← assembleProperties required properties
      return { name, required := required.contains name, type } :: fields

end

theorem exists_literals_of_enumerationMembers {members : List Data} {types : List TypeExpr}
    (lowered : (enumerationMembers members).outcome = .ok types) :
    ∃ values : List Literal, types = values.map .literal := by
  induction members generalizing types with
  | nil =>
      obtain rfl := Except.ok.inj lowered
      exact ⟨[], rfl⟩
  | cons member members induction =>
      rw [enumerationMembers] at lowered
      obtain ⟨literal, others, -, othersLowered, rfl⟩ :=
        Logged.exists_of_outcome_bind_bind_pure_eq_ok lowered
      obtain ⟨values, rfl⟩ := induction othersLowered
      exact ⟨literal :: values, rfl⟩

theorem exists_literals_of_enumerationType {members : List Data} {type : TypeExpr}
    (lowered : (enumerationType members).outcome = .ok type) :
    ∃ values : List Literal, type = .union (values.map .literal) := by
  have ofMembers := @exists_literals_of_enumerationMembers members
  rw [enumerationType] at lowered
  generalize enumerationMembers members = computation at lowered ofMembers
  obtain ⟨events, outcome⟩ := computation
  cases outcome with
  | error fault => cases lowered
  | ok types =>
      obtain rfl := Except.ok.inj lowered
      obtain ⟨values, rfl⟩ := ofMembers rfl
      exact ⟨values, rfl⟩

theorem assembles_enumerationType (members : List Data) :
    Logged.Assembles (·.hasDistinctFields = true) ((enumerationType members).mapFault .inl)
      (enumerationType members) := by
  apply Logged.Assembles.unchecked
  intro type lowered
  obtain ⟨values, rfl⟩ := exists_literals_of_enumerationType lowered
  exact haveDistinctFields_literals values

theorem assembles_textType (enumeration : Option (List Data)) (format : Option Text) :
    Logged.Assembles (·.hasDistinctFields = true) ((textType enumeration format).mapFault .inl)
      (textType enumeration format) := by
  cases enumeration with
  | some members => exact assembles_enumerationType members
  | none =>
      apply Logged.Assembles.unchecked
      intro type lowered
      obtain rfl := Except.ok.inj lowered
      split <;> rfl

theorem assembles_referenceType (target : Text) :
    Logged.Assembles (·.hasDistinctFields = true) ((referenceType target).mapFault .inl)
      (referenceType target) := by
  apply Logged.Assembles.unchecked
  intro type lowered
  unfold referenceType at lowered
  split at lowered
  · obtain rfl := Except.ok.inj lowered
    rfl
  · cases lowered

/-- The check of a record does not fail if its fields are those of distinct properties. -/
theorem assembles_record {names : List Text} (distinct : names.Nodup)
    {checked : Logged (LoweringFault ⊕ DuplicateFields) (List (Field TypeExpr))}
    {plain : Logged LoweringFault (List (Field TypeExpr))}
    (assembles : Logged.Assembles (AreFieldsNamed names) checked plain) :
    Logged.Assembles (·.hasDistinctFields = true) (checked >>= assembleRecord)
      (plain >>= fun fields => pure (TypeExpr.record fields)) := by
  refine assembles.bind fun fields areFields => ?_
  have fieldNames : (fields.map Field.name).Nodup := areFields.1 ▸ distinct
  rw [assembleRecord, recordOf_eq_ok fieldNames]
  exact .pure (hasDistinctFields_record fieldNames areFields.2)

mutual

/-- Where the properties of schemas have distinct names, the checks never fail. -/
theorem assembles_lower (schema : Schema)
    (distinct : ∀ node ∈ schema.visited, node.NamesDistinct) :
    Logged.Assembles (·.hasDistinctFields = true) schema.assemble schema.lower := by
  obtain ⟨title, description, multipleOf, required, enumeration, kind, format, nullable, preset,
    oneOf, allOf, anyOf, negated, items, properties, additionalProperties⟩ := schema
  rw [visited.eq_def] at distinct
  obtain ⟨here, distinct⟩ := List.forall_mem_cons.mp distinct
  rw [assemble.eq_def, lower.eq_def]
  cases allOf with
  | some members =>
      exact (assembles_lowerMembers members distinct).bind fun _ sound => .pure sound
  | none =>
      cases kind with
      | none =>
          cases enumeration with
          | some members => exact assembles_enumerationType members
          | none =>
              cases properties with
              | none => exact .pure rfl
              | some properties =>
                  have areFields := assembles_lowerProperties (required.getD []) properties distinct
                  exact assembles_record here areFields
      | some word =>
          dsimp only at distinct ⊢
          cases known : SchemaKind.ofName? word with
          | none => exact .fail _
          | some kind =>
              rw [known] at distinct
              cases kind with
              | text => exact assembles_textType enumeration format
              | enumeration => exact assembles_enumerationType (enumeration.getD [])
              | array =>
                  cases items with
                  | none => exact .fail _
                  | some slot =>
                      exact (assembles_lowerSlot slot distinct).bind fun _ sound => .pure sound
              | object =>
                  cases properties with
                  | none => exact .pure rfl
                  | some properties =>
                      have areFields :=
                        assembles_lowerProperties (required.getD []) properties distinct
                      exact assembles_record here areFields
              | _ => exact .pure rfl

/-- Counterpart of `assembles_lower` for a reference or a schema. -/
theorem assembles_lowerSlot (slot : Slot Schema)
    (distinct : ∀ node ∈ visitedSlot slot, node.NamesDistinct) :
    Logged.Assembles (·.hasDistinctFields = true) (assembleSlot slot) (lowerSlot slot) := by
  cases slot with
  | reference target => exact assembles_referenceType target
  | inline schema => exact assembles_lower schema distinct

/-- List counterpart of `assembles_lowerSlot`. -/
theorem assembles_lowerMembers (members : List (Slot Schema))
    (distinct : ∀ node ∈ visitedMembers members, node.NamesDistinct) :
    Logged.Assembles (haveDistinctFields · = true) (assembleMembers members)
      (lowerMembers members) := by
  cases members with
  | nil => exact .pure rfl
  | cons member members =>
      obtain ⟨here, others⟩ := List.forall_mem_append.mp distinct
      refine (assembles_lowerSlot member here).bind fun type typeDistinct => ?_
      refine (assembles_lowerMembers members others).bind fun types typesDistinct => ?_
      exact .pure (Bool.and_eq_true_iff.mpr ⟨typeDistinct, typesDistinct⟩)

/-- Counterpart of `assembles_lowerSlot` for properties. -/
theorem assembles_lowerProperties (required : List Text) (properties : List (Text × Slot Schema))
    (distinct : ∀ node ∈ visitedProperties properties, node.NamesDistinct) :
    Logged.Assembles (AreFieldsNamed (properties.map Prod.fst))
      (assembleProperties required properties) (lowerProperties required properties) := by
  cases properties with
  | nil => exact .pure ⟨rfl, rfl⟩
  | cons property properties =>
      obtain ⟨name, slot⟩ := property
      obtain ⟨here, others⟩ := List.forall_mem_append.mp distinct
      refine (assembles_lowerSlot slot here).bind fun type typeDistinct => ?_
      refine (assembles_lowerProperties required properties others).bind fun fields areFields => ?_
      exact .pure (areFields.cons name _ typeDistinct)

end

end Schema

end OpenApi

/-! ## Declarations -/

/-- Declarations with the given names, in which all records have distinct field names. -/
def AreDeclarationsNamed (names : List Text) (declarations : List Declaration) : Prop :=
  declarations.map Declaration.name = names ∧
    ∀ declaration ∈ declarations, declaration.type.hasDistinctFields = true

theorem AreDeclarationsNamed.cons {names : List Text} {declarations : List Declaration}
    (areDeclarations : AreDeclarationsNamed names declarations) (name : Text) {type : TypeExpr}
    (distinct : type.hasDistinctFields = true) :
    AreDeclarationsNamed (name :: names) ({ name, type } :: declarations) :=
  ⟨congrArg (List.cons name) areDeclarations.1,
    List.forall_mem_cons.mpr ⟨distinct, areDeclarations.2⟩⟩

namespace Swagger

/-- The declarations of schemas with a check of every record. -/
def assembleAll :
    List (Text × Schema) → Except (ForeignReference ⊕ DuplicateFields) (List Declaration)
  | [] => .ok []
  | (name, schema) :: schemas => do
      let type ← schema.assemble
      let declarations ← assembleAll schemas
      return { name, type } :: declarations

theorem assembles_declare (schemas : List (Text × Schema))
    (distinct : ∀ schema ∈ schemas, ∀ node ∈ schema.2.visited, node.NamesDistinct) :
    Assembles (AreDeclarationsNamed (schemas.map Prod.fst)) (assembleAll schemas)
      (declare schemas) := by
  induction schemas with
  | nil => exact .pure ⟨rfl, nofun⟩
  | cons entry schemas induction =>
      obtain ⟨name, schema⟩ := entry
      obtain ⟨here, others⟩ := List.forall_mem_cons.mp distinct
      refine (schema.assembles_lower here).bind fun type typeDistinct => ?_
      refine (induction others).bind fun declarations areDeclarations => ?_
      exact .pure (areDeclarations.cons name typeDistinct)

/-- The declarations for the definitions of a document with these checks. -/
def Document.assemble (document : Document) :
    Except (ForeignReference ⊕ DuplicateFields) (List Declaration) :=
  assembleAll (document.definitions.getD [])

end Swagger

namespace OpenApi

/-- The declarations of schemas with a check of every record. -/
def assembleAll :
    List (Text × Slot Schema) → Logged (LoweringFault ⊕ DuplicateFields) (List Declaration)
  | [] => pure []
  | (name, slot) :: schemas => do
      let type ← Schema.assembleSlot slot
      let declarations ← assembleAll schemas
      return { name, type } :: declarations

theorem assembles_declare (schemas : List (Text × Slot Schema))
    (distinct : ∀ schema ∈ schemas, ∀ node ∈ Schema.visitedSlot schema.2, node.NamesDistinct) :
    Logged.Assembles (AreDeclarationsNamed (schemas.map Prod.fst)) (assembleAll schemas)
      (declare schemas) := by
  induction schemas with
  | nil => exact .pure ⟨rfl, nofun⟩
  | cons entry schemas induction =>
      obtain ⟨name, slot⟩ := entry
      obtain ⟨here, others⟩ := List.forall_mem_cons.mp distinct
      refine (Schema.assembles_lowerSlot slot here).bind fun type typeDistinct => ?_
      refine (induction others).bind fun declarations areDeclarations => ?_
      exact .pure (areDeclarations.cons name typeDistinct)

/-- The declarations for the schemas of a document with these checks. -/
def Document.assemble (document : Document) :
    Logged (LoweringFault ⊕ DuplicateFields) (List Declaration) :=
  match document.components.bind Components.schemas with
  | some schemas => assembleAll schemas
  | none => do
      Logged.report .noSchemas
      return []

end OpenApi

namespace Specification

/-- No name stands for two properties, if the node is a schema. -/
def Node.NamesDistinct : Node → Prop
  | .swagger schema => schema.NamesDistinct
  | .openApi node => node.NamesDistinct

/-- The names of the named schemas. -/
def schemaNames : Specification → List Text
  | .swagger document => (document.definitions.getD []).map Prod.fst
  | .openApi document =>
      ((document.components.bind OpenApi.Components.schemas).getD []).map Prod.fst

/-- The declarations with a check of every record that is put together. -/
def assemble (specification : Specification) :
    Logged (OpenApi.LoweringFault ⊕ DuplicateFields) (List Declaration) := do
  let declarations ←
    match specification with
    | .swagger document =>
        Logged.ofExcept (document.assemble.mapError (Sum.map .foreignReference id))
    | .openApi document => document.assemble
  Logged.report (.declared declarations.length)
  return declarations

/-- Where the properties of all visited schemas have distinct names, the checks never fail. -/
theorem assembles_declarations (specification : Specification)
    (distinct : ∀ node ∈ specification.visited, node.NamesDistinct) :
    Logged.Assembles (AreDeclarationsNamed specification.schemaNames) specification.assemble
      specification.declarations := by
  have reported {checked : Logged (OpenApi.LoweringFault ⊕ DuplicateFields) (List Declaration)}
      {plain : Logged OpenApi.LoweringFault (List Declaration)} {names : List Text}
      (assembles : Logged.Assembles (AreDeclarationsNamed names) checked plain) :
      Logged.Assembles (AreDeclarationsNamed names)
        (checked >>= fun declarations =>
          Logged.report (.declared declarations.length) >>= fun _ => pure declarations)
        (plain >>= fun declarations =>
          Logged.report (.declared declarations.length) >>= fun _ => pure declarations) :=
    assembles.bind fun declarations sound =>
      (Logged.Assembles.report _).bind fun _ _ => .pure sound
  cases specification with
  | swagger document =>
      apply reported
      have assembles := Swagger.assembles_declare (document.definitions.getD []) <| by
        intro entry isEntry node isVisited
        refine distinct (.swagger node) (List.mem_flatMap.mpr ⟨entry, isEntry, ?_⟩)
        exact List.mem_map_of_mem isVisited
      rw [Swagger.Document.assemble, assembles.same, Swagger.Document.declarations]
      cases declared : Swagger.declare (document.definitions.getD []) with
      | error foreign => exact .fail _
      | ok declarations => exact .pure (assembles.sound declarations declared)
  | openApi document =>
      apply reported
      simp only [visited, schemaNames] at distinct ⊢
      unfold OpenApi.Document.assemble OpenApi.Document.declarations
      cases named : document.components.bind OpenApi.Components.schemas with
      | none => exact (Logged.Assembles.report _).bind fun _ _ => .pure ⟨rfl, List.forall_mem_nil _⟩
      | some schemas =>
          rw [named] at distinct
          apply OpenApi.assembles_declare
          intro entry isEntry node isVisited
          refine distinct (.openApi node) (List.mem_flatMap.mpr ⟨entry, isEntry, ?_⟩)
          exact List.mem_map_of_mem isVisited

end Specification

/-! ## Selection -/

namespace Selection

/-- Pruning with a check of every record that is put together again. -/
def rebuildPruned (selection : Selection) (type : TypeExpr) :
    Except DuplicateFields (Option TypeExpr) :=
  if selection.skipsEmpty then type.rebuild (fun _ => true) true else .ok (some type)

/-- What is left of a type, with these checks. -/
def rebuild (selection : Selection) (type : TypeExpr) :
    Except DuplicateFields (Except DropReason TypeExpr) := do
  match ← selection.rebuildPruned type with
  | none => return .error .empty
  | some pruned =>
      match ← pruned.rebuild (fun name => !selection.excluded.contains name) false with
      | none => return .error .onlyExcludedNames
      | some left => return .ok left

/-- What is left of a declaration, or why nothing is, with the same checks. -/
def assemble (selection : Selection) (declaration : Declaration) :
    Except DuplicateFields (Except DropReason Declaration) :=
  if selection.excluded.contains declaration.name then .ok (.error .excluded)
  else do
    let left ← selection.rebuild declaration.type
    return left.map fun type => { declaration with type }

/-- What pruning leaves of a type, if the selection prunes. -/
private theorem pruned_hasDistinctFields (selection : Selection) {type : TypeExpr}
    (distinct : type.hasDistinctFields = true) :
    (if selection.skipsEmpty then type.prune else some type).all hasDistinctFields = true := by
  split
  · exact hasDistinctFields_filter _ _ type distinct
  · exact distinct

theorem hasDistinctFields_of_reduce_eq_ok {selection : Selection} {type left : TypeExpr}
    (distinct : type.hasDistinctFields = true) (success : selection.reduce type = .ok left) :
    left.hasDistinctFields = true := by
  have prunedDistinct := pruned_hasDistinctFields selection distinct
  unfold reduce at success
  split at success
  · cases success
  next pruned isPruned =>
    rw [isPruned] at prunedDistinct
    have leftDistinct := hasDistinctFields_filter
      (fun name => !selection.excluded.contains name) false pruned prunedDistinct
    split at success
    · cases success
    next rest isLeft =>
      obtain rfl := Except.ok.inj success
      rw [exclude] at isLeft
      rwa [isLeft] at leftDistinct

/-- The checks never fail on a type with distinct field names. -/
theorem rebuild_eq_ok (selection : Selection) {type : TypeExpr}
    (distinct : type.hasDistinctFields = true) :
    selection.rebuild type = .ok (selection.reduce type) := by
  have prunedDistinct := pruned_hasDistinctFields selection distinct
  have pruning : selection.rebuildPruned type =
      .ok (if selection.skipsEmpty then type.prune else some type) := by
    unfold rebuildPruned
    split
    · exact rebuild_eq_ok_filter _ _ type distinct
    · rfl
  unfold rebuild reduce
  rw [pruning]
  cases left : if selection.skipsEmpty then type.prune else some type with
  | none => rfl
  | some pruned =>
      rw [left] at prunedDistinct
      dsimp only [bind, Except.bind]
      rw [rebuild_eq_ok_filter _ _ pruned prunedDistinct, exclude]
      cases pruned.filter (fun name => !selection.excluded.contains name) false <;> rfl

theorem assemble_eq_ok (selection : Selection) {declaration : Declaration}
    (distinct : declaration.type.hasDistinctFields = true) :
    selection.assemble declaration = .ok (selection.apply declaration) := by
  unfold assemble apply
  split
  · rfl
  · rw [selection.rebuild_eq_ok distinct]
    rfl

theorem exists_reduce_of_apply_eq_ok {selection : Selection} {declaration left : Declaration}
    (applied : selection.apply declaration = .ok left) :
    ∃ type, selection.reduce declaration.type = .ok type ∧ left = { declaration with type } := by
  unfold apply at applied
  split at applied
  · cases applied
  · cases reduced : selection.reduce declaration.type with
    | error reason =>
        rw [reduced] at applied
        cases applied
    | ok type =>
        rw [reduced] at applied
        exact ⟨type, rfl, (Except.ok.inj applied).symm⟩

/-- The declarations that are kept have some of the names, in their order. -/
theorem names_kept_sublist (selection : Selection) (declarations : List Declaration) :
    ((selection.kept declarations).map Declaration.name).Sublist
      (declarations.map Declaration.name) := by
  induction declarations with
  | nil => exact .slnil
  | cons declaration declarations induction =>
      cases applied : selection.apply declaration with
      | error reason => simpa [kept, applied, Except.toOption] using induction.cons declaration.name
      | ok left =>
          obtain ⟨type, -, rfl⟩ := exists_reduce_of_apply_eq_ok applied
          simpa [kept, applied, Except.toOption] using induction.cons_cons declaration.name

theorem hasDistinctFields_of_mem_kept (selection : Selection) {declarations : List Declaration}
    (distinct : ∀ declaration ∈ declarations, declaration.type.hasDistinctFields = true) :
    ∀ left ∈ selection.kept declarations, left.type.hasDistinctFields = true := by
  intro left isKept
  obtain ⟨declaration, isDeclaration, keeps⟩ := List.mem_filterMap.mp isKept
  cases applied : selection.apply declaration with
  | error reason =>
      rw [applied] at keeps
      cases keeps
  | ok found =>
      rw [applied] at keeps
      obtain rfl : found = left := Option.some.inj keeps
      obtain ⟨type, reduced, rfl⟩ := exists_reduce_of_apply_eq_ok applied
      exact hasDistinctFields_of_reduce_eq_ok (distinct declaration isDeclaration) reduced

end Selection

end ApiTypes
