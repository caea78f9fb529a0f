import ApiTypes.Proofs.DeclarationFates
import ApiTypes.Proofs.SchemaPaths

/-!
# Marks of required fields

At every depth of a schema, the record of its properties has a field for each of
them, in their order, which is required exactly if the schema itself lists its name.
Selection keeps the mark of each field that is left, and the text of the field shows
it.
-/

namespace ApiTypes

namespace TypeExpr

/-- A record with a field for each property, required if its name is listed. -/
def IsRecordOf {Node : Type} (required : List Text) (properties : List (Text × Node))
    (type : TypeExpr) : Prop :=
  ∃ fields, type = .record fields ∧
    (fields.map fun field => (field.name, field.required)) =
      properties.map fun property => (property.1, decide (property.1 ∈ required))

/-- The text of a field has a question mark behind the name exactly if it is not required. -/
theorem isSome_after?_fieldText (name : Text) (required : Bool) (type : Text) :
    ((fieldText name required type).after? (quoteName name ++ " ?")).isSome = !required := by
  cases required with
  | false =>
      have opened : fieldText name false type =
          (quoteName name ++ " ?") ++ (" : " ++ type ++ ";") := by
        simp [fieldText]
      rw [opened, Text.after?_append]
      rfl
  | true =>
      have unmarked : fieldText name true type = quoteName name ++ (" : " ++ type ++ ";") := by
        simp [fieldText, Text.ofString]
      have unopened : ¬ (quoteName name ++ " ?" : Text) <+: fieldText name true type := by
        rw [unmarked, List.prefix_append_right_inj]
        rintro ⟨rest, same⟩
        cases same
      rw [Text.after?, if_neg (by simpa using unopened)]
      rfl

end TypeExpr

namespace Makeup

variable {Node : Type} {lowers : Node → TypeExpr → Prop}

theorem Shapes.isRecordOf {required : List Text} {properties : List (Text × Node)}
    {type : TypeExpr} (shapes : (record required properties).Shapes lowers type) :
    type.IsRecordOf required properties := by
  obtain ⟨fields, rfl, related⟩ := shapes
  exact ⟨fields, rfl, map_mark_of_forall₂ related⟩

/-- Only properties make fields. -/
theorem Shapes.exists_eq_record {makeup : Makeup Node} {fields : List (Field TypeExpr)}
    (shapes : makeup.Shapes lowers (.record fields)) (present : fields ≠ []) :
    ∃ required properties, makeup = .record required properties := by
  cases makeup with
  | plain => exact absurd (shapes fields rfl) present
  | intersection members =>
      obtain ⟨types, same, -⟩ := shapes
      cases same
  | array item =>
      obtain ⟨element, same, -⟩ := shapes
      cases same
  | record required properties => exact ⟨required, properties, rfl⟩

end Makeup

theorem Swagger.Schema.eq_of_makeup_eq_record {schema : Schema} {required : List Text}
    {properties : List (Text × Schema)} (isRecord : schema.makeup = .record required properties) :
    required = schema.required.getD [] ∧ properties = schema.properties.getD [] := by
  unfold makeup at isRecord
  split at isRecord
  · cases isRecord
  · cases isRecord
  · split at isRecord
    · cases found : schema.items <;> simp [found] at isRecord
    · cases isRecord
      exact ⟨rfl, rfl⟩
    · cases isRecord

theorem OpenApi.Schema.eq_of_makeup_eq_record {slot : Slot Schema} {required : List Text}
    {properties : List (Text × Slot Schema)}
    (isRecord : makeup slot = .record required properties) :
    ∃ schema, slot = .inline schema ∧ required = schema.required.getD [] ∧
      properties = schema.properties.getD [] := by
  cases slot with
  | reference target => cases isRecord
  | inline schema =>
      refine ⟨schema, rfl, ?_⟩
      unfold makeup at isRecord
      dsimp only at isRecord
      split at isRecord
      · cases isRecord
      · split at isRecord
        · rename_i found
          cases isRecord
          exact ⟨rfl, by rw [found]; rfl⟩
        · cases isRecord
      · split at isRecord
        · cases found : schema.items <;> simp [found] at isRecord
        · cases isRecord
          exact ⟨rfl, rfl⟩
        · cases isRecord

namespace Selection

open TypeExpr (outside movedPath)

theorem filter_of_reduce_eq_ok {selection : Selection} {type left : TypeExpr}
    (success : selection.reduce type = .ok left) :
    type.filter (outside selection.excluded) selection.skipsEmpty = some left := by
  rw [← selection.reduce_toOption, success]
  rfl

/-- A field of which something is left keeps its mark, in the type and in the text. -/
theorem exists_field_of_reduce_eq_ok {selection : Selection} {declaration : Declaration}
    (included : declaration.name ∉ selection.excluded) {path : List TypeExpr.Step}
    {fields : List (Field TypeExpr)} (leads : declaration.type.at? path = some (.record fields))
    {field : Field TypeExpr} (isField : field ∈ fields) {fieldType : TypeExpr}
    (success : selection.reduce field.type = .ok fieldType) :
    ∃ left fieldsLeft, selection.apply declaration = .ok left ∧
      left.type.at? (movedPath (outside selection.excluded) selection.skipsEmpty
        declaration.type path) = some (.record fieldsLeft) ∧
      { field with type := fieldType } ∈ fieldsLeft ∧
      (∀ other ∈ fieldsLeft, ∃ original ∈ fields, other = { original with type := other.type }) ∧
      TypeExpr.fieldText field.name field.required fieldType.render <:+: left.line := by
  let fieldsLeft := TypeExpr.filterFields (outside selection.excluded) selection.skipsEmpty fields
  have isLeft : { field with type := fieldType } ∈ fieldsLeft := by
    rw [show fieldsLeft = _ from TypeExpr.filterFields_eq_filterMap ..]
    apply List.mem_filterMap.mpr
    exact ⟨field, isField, by rw [filter_of_reduce_eq_ok success]; rfl⟩
  have wasField (other : Field TypeExpr) (otherLeft : other ∈ fieldsLeft) :
      ∃ original ∈ fields, other = { original with type := other.type } := by
    rw [show fieldsLeft = _ from TypeExpr.filterFields_eq_filterMap ..] at otherLeft
    obtain ⟨original, isOriginal, filtered⟩ := List.mem_filterMap.mp otherLeft
    obtain ⟨type, -, rfl⟩ := Option.map_eq_some_iff.mp filtered
    exact ⟨original, isOriginal, rfl⟩
  have recordLeft : (TypeExpr.record fields).filter (outside selection.excluded)
      selection.skipsEmpty = some (.record fieldsLeft) := by
    have present : fieldsLeft ≠ [] := List.ne_nil_of_mem isLeft
    rw [TypeExpr.filter]
    simp only [fieldsLeft] at present
    simp [fieldsLeft, present]
  obtain ⟨type, typeLeft, recordLeads⟩ := TypeExpr.at?_filter _ _ leads recordLeft
  refine ⟨{ declaration with type }, fieldsLeft, ?_, recordLeads, isLeft, wasField, ?_⟩
  · have kept := selection.apply_toOption declaration
    rw [if_pos (TypeExpr.outside_eq_true_iff.mpr included), typeLeft] at kept
    cases applied : selection.apply declaration with
    | error reason =>
        rw [applied] at kept
        cases kept
    | ok left =>
        rw [applied] at kept
        exact congrArg Except.ok (Option.some.inj kept)
  · have inRecord := TypeExpr.fieldText_isInfix_render isLeft
    have inType := TypeExpr.render_isInfix_of_at? recordLeads
    refine (inRecord.trans inType).trans ?_
    exact ⟨"export type " ++ declaration.name ++ " = ", ";\n", rfl⟩

end Selection

/-- Lowering comes to a schema and then to its members, items or properties.  For every schema with
a type, in either format, a path through them leads by the matching steps to the type of the schema
at its end.  If that is a record of properties, its fields are the properties in their order, each
required if the schema at this place lists its name, and nothing else makes fields.  For every
selection, a field of which something is left keeps its mark, and it is written with a question
mark exactly if it is not required. -/
theorem required_marks_at_every_depth :
    (∀ schema : Swagger.Schema,
      schema.visited = schema :: schema.makeup.parts.flatMap Swagger.Schema.visited) ∧
    (∀ (schema : Swagger.Schema) (type : TypeExpr), schema.lower = .ok type →
      ∀ path node, Makeup.at? Swagger.Schema.makeup schema path = some node →
        ∃ part, type.at? (path.map SchemaStep.inType) = some part ∧ node.lower = .ok part ∧
          (∀ required properties, node.makeup = .record required properties →
            required = node.required.getD [] ∧ properties = node.properties.getD [] ∧
              part.IsRecordOf required properties) ∧
          ∀ fields, part = .record fields → fields ≠ [] →
            ∃ required properties, node.makeup = .record required properties) ∧
    (∀ slot : OpenApi.Slot OpenApi.Schema,
      OpenApi.Schema.visitedSlots slot =
        slot :: (OpenApi.Schema.makeup slot).parts.flatMap OpenApi.Schema.visitedSlots) ∧
    (∀ (slot : OpenApi.Slot OpenApi.Schema) (type : TypeExpr),
      (OpenApi.Schema.lowerSlot slot).outcome = .ok type →
      ∀ path node, Makeup.at? OpenApi.Schema.makeup slot path = some node →
        ∃ part, type.at? (path.map SchemaStep.inType) = some part ∧
          (OpenApi.Schema.lowerSlot node).outcome = .ok part ∧
          (∀ required properties, OpenApi.Schema.makeup node = .record required properties →
            (∃ schema, node = .inline schema ∧ required = schema.required.getD [] ∧
              properties = schema.properties.getD []) ∧
              part.IsRecordOf required properties) ∧
          ∀ fields, part = .record fields → fields ≠ [] →
            ∃ required properties, OpenApi.Schema.makeup node = .record required properties) ∧
    (∀ (selection : Selection) (declaration : Declaration),
      declaration.name ∉ selection.excluded →
      ∀ path fields field fieldType, declaration.type.at? path = some (.record fields) →
        field ∈ fields → selection.reduce field.type = .ok fieldType →
        ∃ left fieldsLeft, selection.apply declaration = .ok left ∧
          left.type.at? (TypeExpr.movedPath (TypeExpr.outside selection.excluded)
            selection.skipsEmpty declaration.type path) = some (.record fieldsLeft) ∧
          { field with type := fieldType } ∈ fieldsLeft ∧
          (∀ other ∈ fieldsLeft, ∃ original ∈ fields,
            other = { original with type := other.type }) ∧
          TypeExpr.fieldText field.name field.required fieldType.render <:+: left.line) ∧
    ∀ (name : Text) (required : Bool) (type : Text),
      ((TypeExpr.fieldText name required type).after?
        (TypeExpr.quoteName name ++ " ?")).isSome = true ↔ required = false := by
  refine ⟨Swagger.Schema.visited_eq_cons_parts, ?_, OpenApi.Schema.visitedSlots_eq_cons_parts,
    ?_, ?_, ?_⟩
  · intro schema type lowered path node leads
    obtain ⟨part, partLeads, nodeLowered⟩ :=
      Makeup.exists_at?_of_lowers Swagger.Schema.shapes_makeup lowered leads
    have shapes := Swagger.Schema.shapes_makeup node part nodeLowered
    refine ⟨part, partLeads, nodeLowered, ?_, ?_⟩
    · intro required properties isRecord
      obtain ⟨requiredEq, propertiesEq⟩ := Swagger.Schema.eq_of_makeup_eq_record isRecord
      rw [isRecord] at shapes
      exact ⟨requiredEq, propertiesEq, shapes.isRecordOf⟩
    · rintro fields rfl present
      exact shapes.exists_eq_record present
  · intro slot type lowered path node leads
    obtain ⟨part, partLeads, nodeLowered⟩ :=
      Makeup.exists_at?_of_lowers OpenApi.Schema.shapes_makeup lowered leads
    have shapes := OpenApi.Schema.shapes_makeup node part nodeLowered
    refine ⟨part, partLeads, nodeLowered, ?_, ?_⟩
    · intro required properties isRecord
      rw [isRecord] at shapes
      exact ⟨OpenApi.Schema.eq_of_makeup_eq_record isRecord, shapes.isRecordOf⟩
    · rintro fields rfl present
      exact shapes.exists_eq_record present
  · intro selection declaration included path fields field fieldType leads isField success
    exact Selection.exists_field_of_reduce_eq_ok included leads isField success
  · intro name required type
    rw [TypeExpr.isSome_after?_fieldText, Bool.not_eq_true']

/-- A schema of a kind, which lists names as required, with the given properties. -/
def schemaWith (kind : Text) (required : List Text) (properties : List (Text × Swagger.Schema)) :
    Swagger.Schema :=
  { reference := none, description := none, kind := some kind, format := none
    enumeration := none, required := some required, items := none
    properties := some properties, allOf := none }

/-- An object of two texts, of which the name is required. -/
def tagSchema : Swagger.Schema :=
  schemaWith "object" ["name"]
    [("id", schemaWith "string" [] []), ("name", schemaWith "string" [] [])]

/-- An intersection with an object that requires a number, a list of tags, and a name for which it
has no property. -/
def taggedSchema : Swagger.Schema :=
  { schemaWith "object" [] [] with
    allOf := some
      [schemaWith "object" ["id", "tags", "name"]
        [("id", schemaWith "integer" [] []),
          ("tags", { schemaWith "array" [] [] with items := some tagSchema })]] }

/-- The names that the outer object requires make no difference to the tags inside it. -/
theorem taggedSchema_marks_tags :
    Makeup.at? Swagger.Schema.makeup taggedSchema [.allOf 0, .property "tags", .items] =
      some tagSchema ∧
    ∃ part, tagSchema.lower = .ok part ∧
      part.IsRecordOf ["name"]
        [("id", schemaWith "string" [] []), ("name", schemaWith "string" [] [])] := by
  have leads : Makeup.at? Swagger.Schema.makeup taggedSchema
      [.allOf 0, .property "tags", .items] = some tagSchema := by rfl
  refine ⟨leads, ?_⟩
  obtain ⟨part, -, lowered, isRecord, -⟩ :=
    required_marks_at_every_depth.2.1 taggedSchema _ (by rfl) _ _ leads
  exact ⟨part, lowered, (isRecord _ _ (by rfl)).2.2⟩

end ApiTypes
