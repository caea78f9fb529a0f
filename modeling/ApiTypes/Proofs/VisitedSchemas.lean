import ApiTypes.Swagger.Lowering

/-!
# Visited schemas

The schemas that have a part in the type of a schema: nothing below a reference,
the members of an intersection, the items of an array and the properties of an
object.  Lowering stops at the first of them that refers outside the definitions.
-/

namespace ApiTypes

/-- The fault of a computation, if it fails. -/
def faultOf? : Except ε α → Option ε
  | .error fault => some fault
  | .ok _ => none

@[simp] theorem faultOf?_map (function : α → β) (computation : Except ε α) :
    faultOf? (function <$> computation) = faultOf? computation := by
  cases computation <;> rfl

/-- Of two computations one after another, the first one that fails decides. -/
theorem faultOf?_bind_bind_pure (first : Except ε α) (second : Except ε β)
    (result : α → β → γ) :
    faultOf? (first >>= fun left => second >>= fun right => pure (result left right)) =
      (faultOf? first).or (faultOf? second) := by
  cases first <;> cases second <;> rfl

theorem exists_of_bind_pure_eq_ok {computation : Except ε α} {function : α → β} {result : β}
    (success : (computation >>= fun value => pure (function value)) = .ok result) :
    ∃ value, computation = .ok value ∧ function value = result := by
  cases computation with
  | error fault => cases success
  | ok value => exact ⟨value, rfl, Except.ok.inj success⟩

theorem exists_of_bind_bind_pure_eq_ok {first : Except ε α} {second : Except ε β}
    {function : α → β → γ} {result : γ}
    (success : (first >>= fun left => second >>= fun right => pure (function left right)) =
      .ok result) :
    ∃ left right, first = .ok left ∧ second = .ok right ∧ function left right = result := by
  cases first with
  | error fault => cases success
  | ok left =>
      obtain ⟨right, rightEq, resultEq⟩ := exists_of_bind_pure_eq_ok success
      exact ⟨left, right, rfl, rightEq, resultEq⟩

theorem exists_eq_ok_iff (computation : Except ε α) :
    (∃ result, computation = .ok result) ↔ faultOf? computation = none := by
  cases computation <;> simp [faultOf?]

namespace Swagger.Schema

mutual

/-- A schema and those inside it that lowering comes to, in this order. -/
def visited (schema : Schema) : List Schema :=
  match schema with
  | { reference, kind, items, properties, allOf, .. } =>
      schema ::
        match reference with
        | some _ => []
        | none =>
            match allOf with
            | some members => visitedMembers members
            | none =>
                match kind.bind SchemaKind.ofName? with
                | some .array =>
                    match items with
                    | some item => visited item
                    | none => []
                | some .object =>
                    match properties with
                    | some properties => visitedProperties properties
                    | none => []
                | _ => []

def visitedMembers : List Schema → List Schema
  | [] => []
  | member :: members => visited member ++ visitedMembers members

/-- List counterpart of `visited` for properties. -/
def visitedProperties : List (Text × Schema) → List Schema
  | [] => []
  | (_, schema) :: properties => visited schema ++ visitedProperties properties

end

/-- What is wrong with the reference of a schema, if it has one that leads outside the
definitions. -/
def foreign? (schema : Schema) : Option ForeignReference :=
  schema.reference.bind fun target => faultOf? (localName referenceOpening target)

mutual

/-- Lowering fails at the first visited schema that refers outside the definitions, and nowhere
else. -/
theorem faultOf?_lower (schema : Schema) :
    faultOf? schema.lower = schema.visited.findSome? foreign? := by
  obtain ⟨reference, description, kind, format, enumeration, required, items, properties, allOf⟩ :=
    schema
  rw [lower.eq_def, visited.eq_def]
  simp only [List.findSome?_cons]
  cases reference with
  | some target =>
      cases found : faultOf? (localName referenceOpening target) <;> simp [foreign?, found]
  | none =>
      simp only [foreign?, Option.bind_none]
      cases allOf with
      | some members =>
          simpa using faultOf?_lowerMembers members
      | none =>
          cases kind with
          | none => rfl
          | some name =>
              simp only [Option.bind_some]
              cases SchemaKind.ofName? name with
              | none => rfl
              | some kind =>
                  cases kind with
                  | array =>
                      cases items with
                      | none => rfl
                      | some item =>
                          simpa using faultOf?_lower item
                  | object =>
                      cases properties with
                      | none => rfl
                      | some properties =>
                          simpa using
                            faultOf?_lowerProperties (required.getD []) properties
                  | _ => rfl

/-- List counterpart of `faultOf?_lower`. -/
theorem faultOf?_lowerMembers (members : List Schema) :
    faultOf? (lowerMembers members) = (visitedMembers members).findSome? foreign? := by
  cases members with
  | nil => rfl
  | cons member members =>
      rw [lowerMembers, visitedMembers, List.findSome?_append, ← faultOf?_lower member,
        ← faultOf?_lowerMembers members]
      exact faultOf?_bind_bind_pure _ _ _

/-- Counterpart of `faultOf?_lower` for properties. -/
theorem faultOf?_lowerProperties (required : List Text) (properties : List (Text × Schema)) :
    faultOf? (lowerProperties required properties) =
      (visitedProperties properties).findSome? foreign? := by
  cases properties with
  | nil => rfl
  | cons property properties =>
      obtain ⟨name, schema⟩ := property
      rw [lowerProperties, visitedProperties, List.findSome?_append, ← faultOf?_lower schema,
        ← faultOf?_lowerProperties required properties]
      exact faultOf?_bind_bind_pure _ _ _

end

/-- A schema has a type exactly if no visited schema refers outside the definitions. -/
theorem exists_lower_eq_ok_iff (schema : Schema) :
    (∃ type, schema.lower = .ok type) ↔ ∀ node ∈ schema.visited, node.foreign? = none := by
  rw [exists_eq_ok_iff, faultOf?_lower, List.findSome?_eq_none_iff]

end Swagger.Schema

end ApiTypes
