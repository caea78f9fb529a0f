import ApiTypes.Proofs.Outcomes
import ApiTypes.Proofs.SourcePlaces

/-!
# No duplicate fields

The check of field names never fails on a specification that is read from data, since
the names of properties are distinct once they are read.  Keys of the data that differ
may still stand for one name, and then the first one decides the place and the last one
the schema.
-/

namespace ApiTypes

open Shape

theorem Logged.exists_of_outcome_bind_eq_ok {first : Logged ε α} {next : α → Logged ε β}
    {result : β} (success : (first >>= next).outcome = .ok result) :
    ∃ value, first.outcome = .ok value ∧ (next value).outcome = .ok result := by
  obtain ⟨events, outcome⟩ := first
  cases outcome with
  | ok value => exact ⟨value, rfl, success⟩
  | error fault => cases success

namespace Specification

section Root

variable {Place : Type} [View Place]

/-- The entries for the named schemas of a document. -/
def schemaEntries (root : Place) : Format → Members Place
  | .swagger2 => entriesUnder root "definitions" "definitions"
  | .openApi3 =>
      ((memberAt? root "components" "components").map fun components =>
        entriesUnder components "schemas" "schemas").getD []

/-- The schema at a place of a document has a type. -/
def TypedAt : Format → Place → TypeExpr → Prop
  | .swagger2 => Swagger.TypedAt
  | .openApi3 => OpenApi.TypedAt

/-- Declarations are named after the keys of the named schemas.  Each has the type that comes from
the last entry for its name. -/
def DeclaresFrom (root : Place) (format : Format) (declarations : List Declaration) : Prop :=
  NamedAfter (schemaEntries root format) (declarations.map Declaration.name) ∧
    ∀ declaration ∈ declarations,
      Sourced (TypedAt format) (lastNamed? (schemaEntries root format) declaration.name)
        declaration.type

/-- A declaration of a named schema. -/
def Declares {Node : Type} (lowers : Node → TypeExpr → Prop) (schema : Text × Node)
    (declaration : Declaration) : Prop :=
  declaration.name = schema.1 ∧ lowers schema.2 declaration.type

theorem declaresFrom_of_gathers {Node : Type} {root : Place} {format : Format}
    {reads : Place → Node → Prop} {lowers : Node → TypeExpr → Prop}
    {schemas : List (Text × Node)} {declarations : List Declaration}
    (gathers : Gathers reads (schemaEntries root format) schemas)
    (sources : Sources (TypedAt format) reads lowers)
    (declared : List.Forall₂ (Declares lowers) schemas declarations) :
    DeclaresFrom root format declarations := by
  constructor
  · have names : declarations.map Declaration.name = schemas.map Prod.fst := by
      clear gathers
      induction declared with
      | nil => rfl
      | cons declares others induction =>
          rw [List.map_cons, List.map_cons, induction, declares.1]
    rw [names]
    exact gathers.names
  · intro declaration isDeclaration
    obtain ⟨index, inside, rfl⟩ := List.mem_iff_getElem.mp isDeclaration
    have schemaInside := declared.length_eq ▸ inside
    have declares : Declares lowers schemas[index] declarations[index] :=
      declared.get schemaInside inside
    obtain ⟨sameName, lowered⟩ := declares
    obtain ⟨source, isSource, readSource⟩ := gathers.last _ _ (List.getElem_mem schemaInside)
    rw [sameName]
    exact isSource ▸ sources source _ _ readSource lowered

theorem forall₂_of_declareSwagger {schemas : List (Text × Swagger.Schema)}
    {declarations : List Declaration} (declared : Swagger.declare schemas = .ok declarations) :
    List.Forall₂ (Declares Swagger.Schema.Lowers) schemas declarations := by
  induction schemas generalizing declarations with
  | nil =>
      obtain rfl := Except.ok.inj declared
      exact .nil
  | cons schema schemas induction =>
      rw [Swagger.declare] at declared
      obtain ⟨type, others, lowered, othersDeclared, rfl⟩ :=
        exists_of_bind_bind_pure_eq_ok declared
      exact .cons ⟨rfl, lowered⟩ (induction othersDeclared)

theorem forall₂_of_declareOpenApi {schemas : List (Text × OpenApi.Slot OpenApi.Schema)}
    {declarations : List Declaration}
    (declared : (OpenApi.declare schemas).outcome = .ok declarations) :
    List.Forall₂ (Declares OpenApi.Schema.Lowers) schemas declarations := by
  induction schemas generalizing declarations with
  | nil =>
      obtain rfl := Except.ok.inj declared
      exact .nil
  | cons schema schemas induction =>
      rw [OpenApi.declare] at declared
      obtain ⟨type, others, lowered, othersDeclared, rfl⟩ :=
        Logged.exists_of_outcome_bind_bind_pure_eq_ok declared
      exact .cons ⟨rfl, lowered⟩ (induction othersDeclared)

/-- A specification whose named schemas are read at the entries for them. -/
def GathersFrom (root : Place) : Specification → Prop
  | .swagger document =>
      Gathers (fun place schema =>
          Swagger.readSchema Swagger.deepestNesting place = .valid schema)
        (schemaEntries root .swagger2) (document.definitions.getD [])
  | .openApi document =>
      Gathers (fun place slot =>
          OpenApi.readSchemaSlot OpenApi.deepestNesting place = .valid slot)
        (schemaEntries root .openApi3)
        ((document.components.bind OpenApi.Components.schemas).getD [])

theorem gathersFrom_swagger {root : Place} {document : Swagger.Document}
    (valid : Swagger.readDocument root = .valid document) :
    GathersFrom root (.swagger document) := by
  unfold Swagger.readDocument object at valid
  dsimp only at valid
  split at valid
  next members layer =>
    revert document
    simp only [Checked.forall_seq_eq_valid, Checked.forall_map_eq_valid]
    intro _ _ _ _ definitions definitionsValid
    rw [← membersAt_of_layer layer] at definitionsValid
    exact gathers_of_optional definitionsValid
  · cases valid

theorem gathersFrom_openApi {root : Place} {document : OpenApi.Document}
    (valid : OpenApi.readDocument root = .valid document) :
    GathersFrom root (.openApi document) := by
  unfold OpenApi.readDocument object at valid
  dsimp only at valid
  split at valid
  next members layer =>
    revert document
    simp only [Checked.forall_seq_eq_valid, Checked.forall_map_eq_valid]
    intro _ _ _ _ _ _ components componentsValid
    rw [← membersAt_of_layer layer] at componentsValid
    dsimp only [GathersFrom, schemaEntries]
    cases components with
    | none =>
        have nothing : ((memberAt? root "components" "components").map fun components =>
            entriesUnder components "schemas" "schemas").getD [] = [] := by
          cases isMember : memberAt? root "components" "components" with
          | none => rfl
          | some member =>
              have noMembers := membersAt_of_optional_eq_none componentsValid isMember
              simp [entriesUnder, memberAt?, noMembers, Members.locate?, Members.find?]
        rw [nothing]
        exact gathers_nil _
    | some components =>
        obtain ⟨member, isMember, memberValid⟩ := exists_memberAt?_of_optional componentsValid
        unfold OpenApi.readComponents object at memberValid
        dsimp only at memberValid
        split at memberValid
        next members memberLayer =>
          obtain ⟨schemas, schemasValid, rfl⟩ := Checked.map_eq_valid_iff.mp memberValid
          rw [← membersAt_of_layer memberLayer] at schemasValid
          rw [isMember]
          exact gathers_of_optional schemasValid
        · cases memberValid
  · cases valid

theorem gathersFrom_of_ofRoot {root : Place} {specification : Specification}
    (accepted : (ofRoot root).outcome = .ok specification) : GathersFrom root specification := by
  have isRead := isReadAt_of_ofRoot accepted
  cases specification with
  | swagger document => exact gathersFrom_swagger isRead
  | openApi document => exact gathersFrom_openApi isRead

/-- No name stands for two properties of a schema that translation comes to. -/
theorem GathersFrom.namesDistinct {root : Place} {specification : Specification}
    (gathers : specification.GathersFrom root) :
    ∀ node ∈ specification.visited, node.NamesDistinct := by
  intro node isVisited
  cases specification with
  | swagger document =>
      obtain ⟨⟨name, schema⟩, isSchema, inside⟩ := List.mem_flatMap.mp isVisited
      obtain ⟨visited, isInside, rfl⟩ := List.mem_map.mp inside
      obtain ⟨source, -, read⟩ := Gathers.last gathers name schema isSchema
      exact Swagger.namesDistinct_of_readSchema _ read visited isInside
  | openApi document =>
      obtain ⟨⟨name, slot⟩, isSchema, inside⟩ := List.mem_flatMap.mp isVisited
      obtain ⟨visited, isInside, rfl⟩ := List.mem_map.mp inside
      obtain ⟨source, -, read⟩ := Gathers.last gathers name slot isSchema
      cases visited with
      | schema content =>
          refine OpenApi.namesDistinct_of_readSchemaSlot _ read content ?_
          exact List.mem_filterMap.mpr ⟨.schema content, isInside, rfl⟩
      | _ => trivial

theorem GathersFrom.nodup_schemaNames {root : Place} {specification : Specification}
    (gathers : specification.GathersFrom root) : specification.schemaNames.Nodup := by
  cases specification with
  | swagger document => exact Gathers.distinct gathers
  | openApi document => exact Gathers.distinct gathers

theorem GathersFrom.declaresFrom {root : Place} {specification : Specification}
    (gathers : specification.GathersFrom root) {declarations : List Declaration}
    (declared : specification.declarations.outcome = .ok declarations) :
    DeclaresFrom root specification.format declarations := by
  unfold Specification.declarations at declared
  cases specification with
  | swagger document =>
      obtain ⟨named, isNamed, reported⟩ := Logged.exists_of_outcome_bind_eq_ok declared
      obtain rfl := Except.ok.inj reported
      refine declaresFrom_of_gathers gathers (Swagger.sourced_of_readSchema _) ?_
      apply forall₂_of_declareSwagger
      change (Except.mapError _ document.declarations) = _ at isNamed
      unfold Swagger.Document.declarations at isNamed
      cases found : Swagger.declare (document.definitions.getD []) with
      | ok declarations =>
          rw [found] at isNamed
          exact congrArg Except.ok (Except.ok.inj isNamed)
      | error foreign =>
          rw [found] at isNamed
          cases isNamed
  | openApi document =>
      obtain ⟨named, isNamed, reported⟩ := Logged.exists_of_outcome_bind_eq_ok declared
      obtain rfl := Except.ok.inj reported
      refine declaresFrom_of_gathers gathers (OpenApi.sourced_of_readSchemaSlot _) ?_
      apply forall₂_of_declareOpenApi
      unfold OpenApi.Document.declarations at isNamed
      cases found : document.components.bind OpenApi.Components.schemas with
      | some schemas =>
          rw [found] at isNamed
          exact isNamed
      | none =>
          rw [found] at isNamed
          exact isNamed

end Root

theorem exists_gathersFrom {data : Data} {specification : Specification}
    (accepted : (ofData data).outcome = .ok specification) :
    (data.isTree = true → specification.GathersFrom data) ∧
      (data.isTree = false → specification.GathersFrom (Cursor.root data)) := by
  unfold ofData at accepted
  split at accepted
  next entries =>
    split at accepted
    next isTree => exact ⟨fun _ => gathersFrom_of_ofRoot accepted, by simp [isTree]⟩
    next noTree => exact ⟨by simp [noTree], fun _ => gathersFrom_of_ofRoot accepted⟩
  · cases accepted

/-- The check of field names never fails for a specification that is read from data, neither when
types are made nor when they are filtered.  Records at every depth have distinct field names, and
declarations have distinct names, before and after any selection.  Where several keys of the data
stand for one name, a field or a declaration has the place of the first one and the type of the
schema under the last one. -/
theorem duplicate_fields_are_unreachable (data : Data) (specification : Specification)
    (accepted : (ofData data).outcome = .ok specification) :
    specification.assemble = specification.declarations.mapFault .inl ∧
    ∀ declarations, specification.declarations.outcome = .ok declarations →
      (declarations.map Declaration.name).Nodup ∧
      (∀ declaration ∈ declarations, declaration.type.hasDistinctFields = true) ∧
      (∀ selection : Selection,
        (∀ declaration ∈ declarations,
          selection.assemble declaration = .ok (selection.apply declaration)) ∧
        ((selection.kept declarations).map Declaration.name).Nodup ∧
        (∀ declaration ∈ selection.kept declarations,
          declaration.type.hasDistinctFields = true) ∧
        (specification.output selection).outcome =
          .ok (Declaration.moduleText (selection.kept declarations))) ∧
      (data.isTree = true → DeclaresFrom data specification.format declarations) ∧
      (data.isTree = false →
        DeclaresFrom (Cursor.root data) specification.format declarations) := by
  obtain ⟨ofTree, ofOther⟩ := exists_gathersFrom accepted
  obtain ⟨namesDistinct, schemaNames⟩ :
      (∀ node ∈ specification.visited, node.NamesDistinct) ∧ specification.schemaNames.Nodup := by
    cases isTree : data.isTree with
    | true => exact ⟨(ofTree isTree).namesDistinct, (ofTree isTree).nodup_schemaNames⟩
    | false => exact ⟨(ofOther isTree).namesDistinct, (ofOther isTree).nodup_schemaNames⟩
  obtain ⟨same, sound⟩ := specification.assembles_declarations namesDistinct
  refine ⟨same, fun declarations declared => ?_⟩
  obtain ⟨names, distinct⟩ := sound declarations declared
  have nodup : (declarations.map Declaration.name).Nodup := names ▸ schemaNames
  refine ⟨nodup, distinct, fun selection => ⟨?_, ?_, ?_, ?_⟩, ?_, ?_⟩
  · intro declaration isDeclaration
    exact selection.assemble_eq_ok (distinct declaration isDeclaration)
  · exact nodup.sublist (selection.names_kept_sublist declarations)
  · exact selection.hasDistinctFields_of_mem_kept distinct
  · unfold output
    rw [Logged.outcome_bind, declared]
    rfl
  · exact fun isTree => (ofTree isTree).declaresFrom declared
  · exact fun noTree => (ofOther noTree).declaresFrom declared

/-- A document with a schema of three properties, of which the first and the last one have keys
that stand for the same name. -/
def likeKeysDocument : Data :=
  .mapping
    [(.text "swagger", .text "2.0"),
      (.text "definitions", .mapping
        [(.text "Pet", .mapping
          [(.text "type", .text "object"),
            (.text "properties", .mapping
              [(.integer 1, .mapping [(.text "type", .text "string")]),
                (.text "tag", .mapping [(.text "type", .text "string")]),
                (.text "1", .mapping [(.text "type", .text "integer")])])])])]

/-- The two keys make one field, in the first place and of the last type. -/
theorem likeKeysDocument_declares_one_field :
    ∃ specification declarations, (ofData likeKeysDocument).outcome = .ok specification ∧
      specification.assemble = specification.declarations.mapFault .inl ∧
      specification.declarations.outcome = .ok declarations ∧
      (declarations.map fun declaration => (declaration.name, declaration.type.render)) =
        [(Text.ofString "Pet", Text.ofString "\x7b\"1\" ? : number;\"tag\" ? : string;\x7d")] ∧
      DeclaresFrom likeKeysDocument specification.format declarations := by
  have rendered : ((ofData likeKeysDocument).outcome.toOption.bind fun specification =>
      specification.declarations.outcome.toOption.map fun declarations =>
        declarations.map fun declaration => (declaration.name, declaration.type.render)) =
      some [(Text.ofString "Pet",
        Text.ofString "\x7b\"1\" ? : number;\"tag\" ? : string;\x7d")] := by
    decide +kernel
  obtain ⟨specification, isRead, isDeclared⟩ := Option.bind_eq_some_iff.mp rendered
  obtain ⟨declarations, areDeclared, texts⟩ := Option.map_eq_some_iff.mp isDeclared
  have accepted := eq_ok_of_toOption_eq_some isRead
  have declared := eq_ok_of_toOption_eq_some areDeclared
  obtain ⟨same, unreachable⟩ :=
    duplicate_fields_are_unreachable likeKeysDocument specification accepted
  obtain ⟨-, -, -, ofTree, -⟩ := unreachable declarations declared
  exact ⟨specification, declarations, accepted, same, declared, texts, ofTree (by decide)⟩

end Specification

end ApiTypes
