import ApiTypes.Proofs.AssembledTypes
import ApiTypes.Proofs.GatheredNames
import ApiTypes.Proofs.SchemaPaths

/-!
# Places that types come from

The type of a schema is made of the types of the schemas inside it, which are read at
places inside its own place.  A field comes from the last entry whose key stands for its
name.
-/

namespace ApiTypes

open Shape

namespace Shape

namespace Checked

variable {α β : Type} {holds : β → Prop}

theorem forall_map_eq_valid {function : α → β} {checked : Checked α} :
    (∀ result, function <$> checked = .valid result → holds result) ↔
      ∀ value, checked = .valid value → holds (function value) := by
  simp [map_eq_valid_iff]

theorem forall_seq_eq_valid {function : Checked (α → β)} {checked : Checked α} :
    (∀ result, function <*> checked = .valid result → holds result) ↔
      ∀ applied, function = .valid applied →
        ∀ value, checked = .valid value → holds (applied value) := by
  simp only [seq_eq_valid_iff]
  constructor
  · rintro all applied isApplied value isValue
    exact all _ ⟨applied, value, isApplied, isValue, rfl⟩
  · rintro all _ ⟨applied, value, isApplied, isValue, rfl⟩
    exact all applied isApplied value isValue

end Checked

variable {Place : Type} [View Place] {α : Type}

/-! ## Places inside a place -/

def membersAt (place : Place) : Members Place :=
  match View.layer place with
  | .mapping entries => entries
  | _ => []

def itemsAt (place : Place) : List Place :=
  match View.layer place with
  | .sequence _ items => items
  | _ => []

/-- The place of a member of the object at a place. -/
def memberAt? (place : Place) (wire own : Text) : Option Place :=
  ((membersAt place).locate? wire own).map Prod.snd

/-- The entries of the dictionary that is a member of the object at a place. -/
def entriesUnder (place : Place) (wire own : Text) : Members Place :=
  ((memberAt? place wire own).map membersAt).getD []

/-- The entries for the properties of the schema at a place. -/
def propertyEntries (place : Place) : Members Place :=
  ((View.enter place).map fun inner => entriesUnder inner "properties" "properties").getD []

/-- The place of a part of the schema at a place.  Of the entries that stand for the name of a
property, it is the last one. -/
def partPlace? (place : Place) : SchemaStep → Option Place
  | .items => (View.enter place).bind fun inner => memberAt? inner "items" "items"
  | .allOf index =>
      (View.enter place).bind fun inner =>
        (memberAt? inner "allOf" "all_of").bind fun members => (itemsAt members)[index]?
  | .property name => lastNamed? (propertyEntries place) name

theorem membersAt_of_layer {place : Place} {members : Members Place}
    (layer : View.layer place = .mapping members) : membersAt place = members := by
  rw [membersAt, layer]

theorem membersAt_of_isNull {place : Place} (isNothing : isNull place = true) :
    membersAt place = [] := by
  unfold isNull at isNothing
  unfold membersAt
  cases layer : View.layer place with
  | scalar content => rfl
  | _ => simp [layer] at isNothing

/-- A member that is read stands at its place. -/
theorem exists_memberAt?_of_optional {place : Place} {wire own : Text} {read : Place → Checked α}
    {value : α} (valid : (membersAt place).optional wire own read = .valid (some value)) :
    ∃ member, memberAt? place wire own = some member ∧ read member = .valid value := by
  unfold Members.optional at valid
  unfold memberAt?
  cases located : (membersAt place).locate? wire own with
  | none =>
      rw [located] at valid
      cases valid
  | some found =>
      obtain ⟨name, member⟩ := found
      rw [located] at valid
      dsimp only at valid
      split at valid
      · cases valid
      · obtain ⟨result, isResult, same⟩ := Checked.map_eq_valid_iff.mp valid
        obtain rfl := Option.some.inj same
        exact ⟨member, rfl, Checked.labelled_eq_valid_iff.mp isResult⟩

/-- A member that is not read is missing or null. -/
theorem membersAt_of_optional_eq_none {place : Place} {wire own : Text} {read : Place → Checked α}
    (valid : (membersAt place).optional wire own read = .valid none) {member : Place}
    (isMember : memberAt? place wire own = some member) : membersAt member = [] := by
  unfold Members.optional at valid
  unfold memberAt? at isMember
  cases located : (membersAt place).locate? wire own with
  | none =>
      rw [located] at isMember
      cases isMember
  | some found =>
      rw [located] at valid isMember
      obtain rfl := Option.some.inj isMember
      dsimp only at valid
      split at valid
      next isNothing => exact membersAt_of_isNull isNothing
      · obtain ⟨result, -, same⟩ := Checked.map_eq_valid_iff.mp valid
        cases same

/-- A dictionary that may be missing has the values of its entries. -/
theorem gathers_of_optional {place : Place} {wire own : Text} {read : Place → Checked α}
    {named : Option (Dictionary α)}
    (valid : (membersAt place).optional wire own (dictionary read) = .valid named) :
    Gathers (fun place value => read place = .valid value) (entriesUnder place wire own)
      (named.getD []) := by
  cases named with
  | some named =>
      obtain ⟨member, isMember, memberValid⟩ := exists_memberAt?_of_optional valid
      obtain ⟨entries, layer, gathers⟩ := exists_gathers_of_dictionary_eq_valid memberValid
      have entriesEq : entriesUnder place wire own = entries := by
        rw [entriesUnder, isMember]
        exact membersAt_of_layer layer
      rwa [entriesEq]
  | none =>
      have nothing : entriesUnder place wire own = [] := by
        unfold entriesUnder
        cases isMember : memberAt? place wire own with
        | none => rfl
        | some member => exact membersAt_of_optional_eq_none valid isMember
      rw [nothing]
      exact gathers_nil _

theorem exists_getElem?_itemsAt {place : Place} {read : Place → Checked α} {values : List α}
    (valid : list read place = .valid values) {index : Nat} {value : α}
    (found : values[index]? = some value) :
    ∃ item, (itemsAt place)[index]? = some item ∧ read item = .valid value := by
  unfold list at valid
  split at valid
  next kind items layer =>
    have entered : itemsAt place = items := by simp only [itemsAt, layer]
    rw [entered]
    have parts := Checked.collect_eq_valid_iff.mp valid
    have part := congrArg (fun parts => parts[index]?) parts
    simp only [List.getElem?_mapIdx, List.getElem?_map, found, Option.map_some] at part
    obtain ⟨item, isItem, itemValid⟩ := Option.map_eq_some_iff.mp part
    exact ⟨item, isItem, Checked.under_eq_valid_iff.mp itemValid⟩
  · cases valid

/-- The parts of the schema at a place are read at their places. -/
structure ReadsParts {Node : Type} (reads : Place → Node → Prop) (place : Place)
    (items : Option Node) (properties : Option (List (Text × Node)))
    (allOf : Option (List Node)) : Prop where
  item : ∀ item, items = some item → ∃ part, partPlace? place .items = some part ∧ reads part item
  properties : Gathers reads (propertyEntries place) (properties.getD [])
  member : ∀ members, allOf = some members → ∀ index member, members[index]? = some member →
    ∃ part, partPlace? place (.allOf index) = some part ∧ reads part member

/-- A part of a schema, as far as its type is concerned. -/
def IsPart {Node : Type} (items : Option Node) (properties : Option (List (Text × Node)))
    (allOf : Option (List Node)) (part : Node) : Prop :=
  items = some part ∨ (∃ name, (name, part) ∈ properties.getD []) ∨ part ∈ allOf.getD []

theorem ReadsParts.exists_reads {Node : Type} {reads : Place → Node → Prop} {place : Place}
    {items : Option Node} {properties : Option (List (Text × Node))} {allOf : Option (List Node)}
    (parts : ReadsParts reads place items properties allOf) {part : Node}
    (isPart : IsPart items properties allOf part) : ∃ source, reads source part := by
  rcases isPart with isItem | ⟨name, isProperty⟩ | isMember
  · obtain ⟨source, -, readItem⟩ := parts.item part isItem
    exact ⟨source, readItem⟩
  · obtain ⟨source, -, readProperty⟩ := parts.properties.last name part isProperty
    exact ⟨source, readProperty⟩
  · cases allOf with
    | none => cases isMember
    | some members =>
        obtain ⟨index, found⟩ := List.mem_iff_getElem?.mp isMember
        obtain ⟨source, -, readMember⟩ := parts.member members rfl index part found
        exact ⟨source, readMember⟩

theorem readsParts_of_optional {Node : Type} {place inner : Place} {members : Members Place}
    (entered : View.enter place = some inner) (layer : View.layer inner = .mapping members)
    {read : Place → Checked Node} {items : Option Node}
    {properties : Option (List (Text × Node))} {allOf : Option (List Node)}
    (itemsValid : members.optional "items" "items" read = .valid items)
    (propertiesValid : members.optional "properties" "properties" (dictionary read) =
      .valid properties)
    (allOfValid : members.optional "allOf" "all_of" (list read) = .valid allOf) :
    ReadsParts (fun place node => read place = .valid node) place items properties allOf := by
  rw [← membersAt_of_layer layer] at itemsValid propertiesValid allOfValid
  refine ⟨?_, ?_, ?_⟩
  · rintro item rfl
    simpa [partPlace?, entered] using exists_memberAt?_of_optional itemsValid
  · simpa [propertyEntries, entered] using gathers_of_optional propertiesValid
  · rintro allOf rfl index member found
    obtain ⟨list, isList, listValid⟩ := exists_memberAt?_of_optional allOfValid
    simpa [partPlace?, entered, isList] using exists_getElem?_itemsAt listValid found

end Shape

/-! ## Types and their places -/

section Sources

variable {Place : Type} [View Place]

/-- A type that stands for the schema at a place, if there is one, and is made at every depth of
types that stand for the schemas at the places of its parts. -/
inductive Sourced (typed : Place → TypeExpr → Prop) : Option Place → TypeExpr → Prop
  | named {place : Place} {name : Text} (isTyped : typed place (.named name)) :
      Sourced typed (some place) (.named name)
  | literals {place : Place} {values : List Literal}
      (isTyped : typed place (.union (values.map .literal))) :
      Sourced typed (some place) (.union (values.map .literal))
  | empty {place : Place} (isTyped : typed place (.record [])) :
      Sourced typed (some place) (.record [])
  | array {place : Place} {element : TypeExpr} (isTyped : typed place (.array element))
      (sourced : Sourced typed (partPlace? place .items) element) :
      Sourced typed (some place) (.array element)
  | intersection {place : Place} {members : List TypeExpr}
      (isTyped : typed place (.intersection members))
      (sourced : ∀ index member, members[index]? = some member →
        Sourced typed (partPlace? place (.allOf index)) member) :
      Sourced typed (some place) (.intersection members)
  | record {place : Place} {fields : List (Field TypeExpr)} (isTyped : typed place (.record fields))
      (names : NamedAfter (propertyEntries place) (fields.map Field.name))
      (sourced : ∀ field ∈ fields,
        Sourced typed (lastNamed? (propertyEntries place) field.name) field.type) :
      Sourced typed (some place) (.record fields)

/-- Schemas that are read have types that come from their places. -/
def Sources {Node : Type} (typed : Place → TypeExpr → Prop) (reads : Place → Node → Prop)
    (lowers : Node → TypeExpr → Prop) : Prop :=
  ∀ place node type, reads place node → lowers node type → Sourced typed (some place) type

variable {Node : Type} {typed : Place → TypeExpr → Prop} {reads : Place → Node → Prop}
  {lowers : Node → TypeExpr → Prop} {place : Place} {items : Option Node}
  {properties : Option (List (Text × Node))} {allOf : Option (List Node)}

theorem Sourced.of_item (parts : ReadsParts reads place items properties allOf)
    (sources : Sources typed reads lowers) {item : Node} (isItem : items = some item)
    {element : TypeExpr} (lowered : lowers item element) (isTyped : typed place (.array element)) :
    Sourced typed (some place) (.array element) := by
  obtain ⟨part, isPart, readItem⟩ := parts.item item isItem
  exact .array isTyped (isPart ▸ sources part item element readItem lowered)

theorem Sourced.of_members (parts : ReadsParts reads place items properties allOf)
    (sources : Sources typed reads lowers) {members : List Node} (areMembers : allOf = some members)
    {types : List TypeExpr} (lowered : List.Forall₂ lowers members types)
    (isTyped : typed place (.intersection types)) :
    Sourced typed (some place) (.intersection types) := by
  refine .intersection isTyped fun index type found => ?_
  obtain ⟨inside, rfl⟩ := List.getElem?_eq_some_iff.mp found
  have memberInside := lowered.length_eq ▸ inside
  obtain ⟨part, isPart, readMember⟩ := parts.member members areMembers index members[index]
    (List.getElem?_eq_getElem memberInside)
  exact isPart ▸ sources part _ _ readMember (lowered.get memberInside inside)

theorem Sourced.of_properties (parts : ReadsParts reads place items properties allOf)
    (sources : Sources typed reads lowers) {required : List Text}
    {fields : List (Field TypeExpr)}
    (lowered : List.Forall₂ (Makeup.IsFieldOf lowers required) (properties.getD []) fields)
    (isTyped : typed place (.record fields)) :
    Sourced typed (some place) (.record fields) := by
  refine .record isTyped ?_ fun field isField => ?_
  · have marks := congrArg (List.map Prod.fst) (Makeup.map_mark_of_forall₂ lowered)
    simp only [List.map_map, Function.comp_def] at marks
    rw [marks]
    exact parts.properties.names
  · obtain ⟨index, inside, rfl⟩ := List.mem_iff_getElem.mp isField
    have propertyInside := lowered.length_eq ▸ inside
    have isFieldOf : Makeup.IsFieldOf lowers required (properties.getD [])[index] fields[index] :=
      lowered.get propertyInside inside
    obtain ⟨sameName, -, typeLowered⟩ := isFieldOf
    obtain ⟨source, isSource, readProperty⟩ :=
      parts.properties.last _ _ (List.getElem_mem propertyInside)
    rw [sameName]
    exact isSource ▸ sources source _ _ readProperty typeLowered

end Sources

/-! ## The older format -/

namespace Swagger

variable {Place : Type} [View Place]

/-- The schema at a place has a type. -/
def TypedAt (place : Place) (type : TypeExpr) : Prop :=
  ∃ levels schema, readSchema levels place = .valid schema ∧ schema.lower = .ok type

theorem readsParts_of_readSchema {levels : Nat} {place : Place} {schema : Schema}
    (valid : readSchema (levels + 1) place = .valid schema) :
    ReadsParts (fun place node => readSchema levels place = .valid node) place schema.items
      schema.properties schema.allOf := by
  unfold readSchema at valid
  split at valid
  · cases valid
  next inner entered =>
    unfold object at valid
    split at valid
    next members layer =>
      revert schema
      simp only [Checked.forall_seq_eq_valid, Checked.forall_map_eq_valid]
      intro _ _ _ _ _ _ _ _ _ _ _ _ items itemsValid properties propertiesValid allOf allOfValid
      exact readsParts_of_optional entered layer itemsValid propertiesValid allOfValid
    · cases valid

theorem sourced_textType {typed : Place → TypeExpr → Prop} {place : Place}
    {enumeration : Option (List Text)} {format : Option Text}
    (isTyped : typed place (textType enumeration format)) :
    Sourced typed (some place) (textType enumeration format) := by
  cases enumeration with
  | some words =>
      have literals : textType (some words) format =
          .union ((words.map Literal.text).map .literal) := by
        rw [List.map_map]
        rfl
      rw [literals] at isTyped ⊢
      exact .literals isTyped
  | none =>
      rw [textType] at isTyped ⊢
      split
      next isDate =>
        rw [if_pos isDate] at isTyped
        exact .named isTyped
      next noDate =>
        rw [if_neg noDate] at isTyped
        exact .named isTyped

theorem sourced_of_readSchema (levels : Nat) :
    Sources TypedAt (fun (place : Place) node => readSchema levels place = .valid node)
      Schema.Lowers := by
  induction levels with
  | zero =>
      intro place schema type valid
      cases valid
  | succ levels induction =>
      intro place schema type valid lowered
      have isTyped : TypedAt place type := ⟨levels + 1, schema, valid, lowered⟩
      have parts := readsParts_of_readSchema valid
      obtain ⟨reference, description, kind, format, enumeration, required, items, properties,
        allOf⟩ := schema
      rw [Schema.Lowers, Schema.lower.eq_def] at lowered
      cases reference with
      | some target =>
          obtain ⟨name, -, rfl⟩ := exists_of_bind_pure_eq_ok lowered
          exact .named isTyped
      | none =>
          cases allOf with
          | some members =>
              obtain ⟨types, membersLowered, rfl⟩ := exists_of_bind_pure_eq_ok lowered
              exact .of_members parts induction rfl
                (Schema.forall₂_of_lowerMembers_eq_ok membersLowered) isTyped
          | none =>
              cases kind with
              | none =>
                  obtain rfl := Except.ok.inj lowered
                  exact .empty isTyped
              | some word =>
                  dsimp only at lowered
                  cases known : SchemaKind.ofName? word with
                  | none =>
                      rw [known] at lowered
                      obtain rfl := Except.ok.inj lowered
                      exact .named isTyped
                  | some kind =>
                      rw [known] at lowered
                      cases kind with
                      | array =>
                          cases items with
                          | none =>
                              obtain rfl := Except.ok.inj lowered
                              exact .named isTyped
                          | some item =>
                              obtain ⟨element, itemLowered, rfl⟩ :=
                                exists_of_bind_pure_eq_ok lowered
                              exact .of_item parts induction rfl itemLowered isTyped
                      | object =>
                          cases properties with
                          | none =>
                              obtain rfl := Except.ok.inj lowered
                              exact .empty isTyped
                          | some properties =>
                              obtain ⟨fields, propertiesLowered, rfl⟩ :=
                                exists_of_bind_pure_eq_ok lowered
                              exact .of_properties parts induction
                                (Schema.forall₂_of_lowerProperties_eq_ok propertiesLowered) isTyped
                      | text =>
                          obtain rfl := Except.ok.inj lowered
                          exact sourced_textType isTyped
                      | _ =>
                          obtain rfl := Except.ok.inj lowered
                          exact .named isTyped

theorem isPart_of_mem_parts {schema part : Schema} (isPart : part ∈ schema.makeup.parts) :
    IsPart schema.items schema.properties schema.allOf part := by
  obtain ⟨reference, description, kind, format, enumeration, required, items, properties, allOf⟩ :=
    schema
  cases reference with
  | some target => cases isPart
  | none =>
      cases allOf with
      | some members => exact .inr (.inr isPart)
      | none =>
          simp only [Schema.makeup] at isPart
          split at isPart
          · cases items with
            | none => cases isPart
            | some item => exact .inl (congrArg some (List.mem_singleton.mp isPart).symm)
          · obtain ⟨⟨name, node⟩, isProperty, rfl⟩ := List.mem_map.mp isPart
            exact .inr (.inl ⟨name, isProperty⟩)
          · cases isPart

/-- No name stands for two properties of a schema that is read, or of one inside it. -/
theorem namesDistinct_of_readSchema (levels : Nat) {place : Place} {schema : Schema}
    (valid : readSchema levels place = .valid schema) :
    ∀ node ∈ schema.visited, node.NamesDistinct := by
  induction levels generalizing place schema with
  | zero => cases valid
  | succ levels induction =>
      have parts := readsParts_of_readSchema valid
      rw [Schema.visited_eq_cons_parts]
      refine List.forall_mem_cons.mpr ⟨parts.properties.distinct, fun node inside => ?_⟩
      obtain ⟨part, isPart, isVisited⟩ := List.mem_flatMap.mp inside
      obtain ⟨source, readPart⟩ := parts.exists_reads (isPart_of_mem_parts isPart)
      exact induction readPart node isVisited

end Swagger

/-! ## The newer format -/

namespace OpenApi

variable {Place : Type} [View Place]

/-- The reference or the schema at a place has a type. -/
def TypedAt (place : Place) (type : TypeExpr) : Prop :=
  ∃ levels slot, readSchemaSlot levels place = .valid slot ∧
    (Schema.lowerSlot slot).outcome = .ok type

theorem readSchema_of_readSchemaSlot {levels : Nat} {place : Place} {schema : Schema}
    (valid : readSchemaSlot levels place = .valid (.inline schema)) :
    readSchema levels place = .valid schema := by
  unfold readSchemaSlot readSlot at valid
  cases reading : readReference levels place with
  | valid target =>
      rw [reading] at valid
      cases valid
  | unwritable =>
      rw [reading] at valid
      cases valid
  | invalid issues =>
      rw [reading] at valid
      cases schemaRead : readSchema levels place with
      | valid found =>
          rw [schemaRead] at valid
          cases valid
          rfl
      | _ =>
          rw [schemaRead] at valid
          cases valid

theorem readsParts_of_readSchema {levels : Nat} {place : Place} {schema : Schema}
    (valid : readSchema (levels + 1) place = .valid schema) :
    ReadsParts (fun place node => readSchemaSlot levels place = .valid node) place schema.items
      schema.properties schema.allOf := by
  unfold readSchema at valid
  split at valid
  · cases valid
  next inner entered =>
    unfold object at valid
    dsimp only at valid
    split at valid
    next members layer =>
      revert schema
      simp only [Checked.forall_seq_eq_valid, Checked.forall_map_eq_valid]
      intro _ _ _ _ _ _ _ _ _ _ _ _ _ _ _ _ _ _ _ _ allOf allOfValid _ _ _ _ items itemsValid
        properties propertiesValid _ _
      exact readsParts_of_optional entered layer itemsValid propertiesValid allOfValid
    · cases valid

theorem sourced_of_enumerationType {typed : Place → TypeExpr → Prop} {place : Place}
    {members : List Data} {type : TypeExpr}
    (lowered : (enumerationType members).outcome = .ok type) (isTyped : typed place type) :
    Sourced typed (some place) type := by
  obtain ⟨values, rfl⟩ := Schema.exists_literals_of_enumerationType lowered
  exact .literals isTyped

theorem sourced_of_textType {typed : Place → TypeExpr → Prop} {place : Place}
    {enumeration : Option (List Data)} {format : Option Text} {type : TypeExpr}
    (lowered : (textType enumeration format).outcome = .ok type) (isTyped : typed place type) :
    Sourced typed (some place) type := by
  cases enumeration with
  | some members => exact sourced_of_enumerationType lowered isTyped
  | none =>
      obtain rfl := Except.ok.inj lowered
      split at isTyped
      next isDate =>
        rw [if_pos isDate]
        exact .named isTyped
      next noDate =>
        rw [if_neg noDate]
        exact .named isTyped

theorem sourced_of_readSchemaSlot (levels : Nat) :
    Sources TypedAt (fun (place : Place) node => readSchemaSlot levels place = .valid node)
      Schema.Lowers := by
  induction levels with
  | zero =>
      intro place slot type valid
      cases valid
  | succ levels induction =>
      intro place slot type valid lowered
      have isTyped : TypedAt place type := ⟨levels + 1, slot, valid, lowered⟩
      cases slot with
      | reference target =>
          rw [Schema.Lowers, Schema.lowerSlot, referenceType] at lowered
          split at lowered
          · obtain rfl := Except.ok.inj lowered
            exact .named isTyped
          · cases lowered
      | inline schema =>
          have parts := readsParts_of_readSchema (readSchema_of_readSchemaSlot valid)
          obtain ⟨title, description, multipleOf, required, enumeration, kind, format, nullable,
            preset, oneOf, allOf, anyOf, negated, items, properties, additionalProperties⟩ := schema
          have ofProperties {properties : List (Text × Slot Schema)}
              (parts : ReadsParts (fun place node => readSchemaSlot levels place = .valid node)
                place items (some properties) allOf)
              (lowered : (Schema.lowerProperties (required.getD []) properties >>= fun fields =>
                pure (TypeExpr.record fields)).outcome = .ok type) :
              Sourced TypedAt (some place) type := by
            obtain ⟨fields, propertiesLowered, rfl⟩ :=
              Logged.exists_of_outcome_bind_pure_eq_ok lowered
            exact .of_properties parts induction
              (Schema.forall₂_of_lowerProperties_eq_ok propertiesLowered) isTyped
          rw [Schema.Lowers, Schema.lowerSlot, Schema.lower.eq_def] at lowered
          cases allOf with
          | some members =>
              obtain ⟨types, membersLowered, rfl⟩ :=
                Logged.exists_of_outcome_bind_pure_eq_ok lowered
              exact .of_members parts induction rfl
                (Schema.forall₂_of_lowerMembers_eq_ok membersLowered) isTyped
          | none =>
              cases kind with
              | none =>
                  cases enumeration with
                  | some members => exact sourced_of_enumerationType lowered isTyped
                  | none =>
                      cases properties with
                      | none =>
                          obtain rfl := Except.ok.inj lowered
                          exact .named isTyped
                      | some properties => exact ofProperties parts lowered
              | some word =>
                  dsimp only at lowered
                  cases known : SchemaKind.ofName? word with
                  | none =>
                      rw [known] at lowered
                      cases lowered
                  | some kind =>
                      rw [known] at lowered
                      cases kind with
                      | array =>
                          cases items with
                          | none => cases lowered
                          | some item =>
                              obtain ⟨element, itemLowered, rfl⟩ :=
                                Logged.exists_of_outcome_bind_pure_eq_ok lowered
                              exact .of_item parts induction rfl itemLowered isTyped
                      | object =>
                          cases properties with
                          | none =>
                              obtain rfl := Except.ok.inj lowered
                              exact .empty isTyped
                          | some properties => exact ofProperties parts lowered
                      | text => exact sourced_of_textType lowered isTyped
                      | enumeration => exact sourced_of_enumerationType lowered isTyped
                      | _ =>
                          obtain rfl := Except.ok.inj lowered
                          exact .named isTyped

theorem isPart_of_mem_parts {schema : Schema} {part : Slot Schema}
    (isPart : part ∈ (Schema.makeup (.inline schema)).parts) :
    IsPart schema.items schema.properties schema.allOf part := by
  obtain ⟨title, description, multipleOf, required, enumeration, kind, format, nullable, preset,
    oneOf, allOf, anyOf, negated, items, properties, additionalProperties⟩ := schema
  have ofProperties {required : List Text} {properties : List (Text × Slot Schema)}
      (isPart : part ∈ (Makeup.record required properties).parts) :
      IsPart items (some properties) allOf part := by
    obtain ⟨⟨name, node⟩, isProperty, rfl⟩ := List.mem_map.mp isPart
    exact .inr (.inl ⟨name, isProperty⟩)
  cases allOf with
  | some members => exact .inr (.inr isPart)
  | none =>
      cases kind with
      | none =>
          cases enumeration with
          | some members => cases isPart
          | none =>
              cases properties with
              | none => cases isPart
              | some properties => exact ofProperties isPart
      | some word =>
          simp only [Schema.makeup] at isPart
          split at isPart
          · cases items with
            | none => cases isPart
            | some item => exact .inl (congrArg some (List.mem_singleton.mp isPart).symm)
          · cases properties with
            | none => cases isPart
            | some properties => exact ofProperties isPart
          · cases isPart

/-- No name stands for two properties of a schema that is read, or of one inside it. -/
theorem namesDistinct_of_readSchemaSlot (levels : Nat) {place : Place} {slot : Slot Schema}
    (valid : readSchemaSlot levels place = .valid slot) :
    ∀ schema, .inline schema ∈ Schema.visitedSlots slot →
      ((schema.properties.getD []).map Prod.fst).Nodup := by
  induction levels generalizing place slot with
  | zero => cases valid
  | succ levels induction =>
      rw [Schema.visitedSlots_eq_cons_parts]
      intro schema isVisited
      cases slot with
      | reference target => simp [Schema.makeup, Makeup.parts] at isVisited
      | inline found =>
          have parts := readsParts_of_readSchema (readSchema_of_readSchemaSlot valid)
          rcases List.mem_cons.mp isVisited with here | inside
          · obtain rfl := OpenApi.Slot.inline.inj here
            exact parts.properties.distinct
          · obtain ⟨part, isPart, isVisited⟩ := List.mem_flatMap.mp inside
            obtain ⟨source, readPart⟩ := parts.exists_reads (isPart_of_mem_parts isPart)
            exact induction readPart schema isVisited

end OpenApi

/-! ## Documents -/

namespace Specification

variable {Place : Type} [View Place]

/-- The document of a specification is what is read at a place. -/
def IsReadAt (root : Place) : Specification → Prop
  | .swagger document => Swagger.readDocument root = .valid document
  | .openApi document => OpenApi.readDocument root = .valid document

theorem isReadAt_of_ofRoot {root : Place} {specification : Specification}
    (accepted : (ofRoot root).outcome = .ok specification) : specification.IsReadAt root := by
  unfold ofRoot attempt at accepted
  cases swagger : Swagger.readDocument root with
  | valid document =>
      rw [swagger] at accepted
      obtain rfl := Except.ok.inj accepted
      exact swagger
  | unwritable =>
      rw [swagger] at accepted
      cases accepted
  | invalid issues =>
      rw [swagger] at accepted
      cases openApi : OpenApi.readDocument root with
      | valid document =>
          rw [openApi] at accepted
          obtain rfl := Except.ok.inj accepted
          exact openApi
      | _ =>
          rw [openApi] at accepted
          cases accepted

end Specification

end ApiTypes
