import ApiTypes.Proofs.UnheardKeys
import ApiTypes.Proofs.UntypedSchemas

/-!
# Objects without a type

Some of the schemas in a tree of data that have properties, but neither a type nor a
reference nor members of an intersection, get the type of objects.  The data is read as
before, except that these schemas have a kind, and documents of the newer format are
what they were.  A document of the older format keeps its declarations only if no
schema gains fields.
-/

namespace ApiTypes

open Shape

/-- The entries of an object, to which the type of objects may have been added if it is a schema
of the older format with properties and without anything that takes precedence of these. -/
inductive TypesObject (part : Part) : Members Data → Members Data → Prop
  | kept (entries : Members Data) : TypesObject part entries entries
  | typed {before after : Members Data} {properties : Data} (isSchema : part = .definition)
      (hasProperties : (before ++ after).find? "properties" = some properties)
      (noReference : (before ++ after).locate? "$ref" "ref" = none)
      (noMembers : (before ++ after).locate? "allOf" "all_of" = none)
      (noType : (before ++ after).locate? "type" "schema_type" = none) :
      TypesObject part (before ++ after)
        (before ++ (.text "type", .text Swagger.objectKind) :: after)

/-- Parts in which there are no schemas of the older format. -/
def Part.isApart : Part → Bool
  | .document => false
  | .definition => false
  | _ => true

/-- What is no schema of the older format and has none in it. -/
def Content.isApart : Content → Bool
  | .plain => true
  | .part inner => inner.isApart
  | .list inner => inner.isApart
  | .named inner => inner.isApart
  | .dictionary inner => inner.isApart

theorem TypesObject.eq_of_ne_definition {part : Part} {entries others : Members Data}
    (types : TypesObject part entries others) (differs : part ≠ .definition) :
    others = entries := by
  cases types with
  | kept => rfl
  | typed isSchema => exact absurd isSchema differs

theorem isApart_content {part : Part} (apart : part.isApart = true) (key : Data) :
    (part.content key).isApart = true := by
  have members : ∀ member ∈ part.members, member.content.isApart = true := by
    revert apart
    cases part <;> decide
  unfold Part.content
  cases found : part.member? key with
  | none => rfl
  | some member => exact members member (List.mem_of_find?_eq_some found)

/-- Where there are no schemas of the older format, nothing is different. -/
theorem Alike.eq_of_isApart {ranks : Ranks} {content : Content} {data other : Data}
    (alike : Alike TypesObject ranks content data other) (still : ranks = .still)
    (apart : content.isApart = true) : other = data := by
  -- The induction is on all four relations at once.
  refine @Alike.rec TypesObject
    (fun ranks content data other _ => ranks = .still → content.isApart = true → other = data)
    (fun ranks part entries others _ => ranks = .still → part.isApart = true → others = entries)
    (fun ranks part _ items others _ => ranks = .still → part.isApart = true → others = items)
    (fun ranks part entries others _ => ranks = .still → part.isApart = true → others = entries)
    ?same ?plain ?leaf ?object ?list ?dictionary ?named ?arranged ?noMembers ?members ?noItems
    ?items ?noValues ?values ranks content data other alike still apart
  case same => exact fun _ _ _ => rfl
  case plain => exact fun _ _ _ => rfl
  case leaf => exact fun _ _ _ => rfl
  case object =>
    intro _ _ _ _ _ _ types members still apart
    rw [types.eq_of_ne_definition (by rintro rfl; cases apart), members still apart]
  case list =>
    intro _ _ _ _ _ _ items still apart
    rw [items still apart]
  case dictionary =>
    intro _ _ _ _ _ values still apart
    rw [values still apart]
  case named =>
    intro _ _ _ _ _ _ values still apart
    rw [values still apart]
  case arranged =>
    intro _ _ _ _ _ _ values still apart
    rw [values still apart, still, arrange_of_unmoved Ranks.still_here]
  case noMembers => exact fun _ _ => rfl
  case members =>
    rintro _ _ key _ _ _ _ _ _ head tail rfl apart
    rw [head rfl (isApart_content apart key), tail rfl apart]
  case noItems => exact fun _ _ => rfl
  case items =>
    rintro _ _ _ _ _ _ _ _ _ head tail rfl apart
    rw [head rfl apart, tail rfl apart]
  case noValues => exact fun _ _ => rfl
  case values =>
    rintro _ _ _ _ _ _ _ _ _ head tail rfl apart
    rw [head rfl apart, tail rfl apart]

theorem relates_apart {α : Type} {content : Content} (read : Data → Checked α)
    (apart : content.isApart = true) : Relates TypesObject content read Eq := by
  intro data other alike
  rw [alike.eq_of_isApart rfl apart]
  exact .refl (fun _ => rfl) _

/-- Two objects are other data, or their entries are alike but for a type. -/
theorem Alike.typed_cases {part : Part} {data other : Data}
    (alike : Alike TypesObject .still (.part part) data other) :
    (∃ entries edited others, data = .mapping entries ∧ other = .mapping others ∧
      HoldAlike TypesObject .still part entries edited ∧ TypesObject part edited others) ∨
    (other = data ∧ ∀ entries, data ≠ .mapping entries) := by
  cases alike with
  | same =>
      cases data with
      | mapping entries =>
          exact .inl ⟨entries, entries, entries, rfl, rfl, holdAlike_same part entries, .kept _⟩
      | _ => exact .inr ⟨rfl, nofun⟩
  | leaf isLeaf =>
      refine .inr ⟨rfl, ?_⟩
      rintro entries rfl
      simp [Data.isCollection] at isLeaf
  | @object _ _ entries edited others members types =>
      exact .inl ⟨entries, edited, others, rfl, rfl, members.holdAlike, types⟩

theorem relates_object {α : Type} {part : Part} {readMembers : Members Data → Checked α}
    {related : α → α → Prop}
    (relates : ∀ {entries edited others}, HoldAlike TypesObject .still part entries edited →
      TypesObject part edited others →
        Checked.Related related (readMembers entries) (readMembers others)) :
    Relates TypesObject (.part part) (object readMembers) related := by
  intro data other alike
  rcases alike.typed_cases with ⟨entries, edited, others, rfl, rfl, held, types⟩ | ⟨rfl, noMapping⟩
  · exact relates held types
  · cases other with
    | mapping entries => exact absurd rfl (noMapping entries)
    | _ => exact .refuse ..

/-- A type is no other member of a schema. -/
theorem held?_of_typed {before after : Members Data} {value : Data} {member : Member}
    (isMember : member ∈ Part.definition.members) (isOther : member.wire ≠ "type") :
    Members.held? (before ++ (.text "type", value) :: after) member =
      Members.held? (before ++ after) member := by
  have unlike : Data.sameKey (.text "type") (.text member.wire) = false ∧
      Data.sameKey (.text "type") (.text member.own) = false := by
    revert isOther
    revert member
    decide
  simp only [Members.held?, Members.locate?, Members.find?_append_cons_of_unlike unlike.1,
    Members.find?_append_cons_of_unlike unlike.2]

theorem held?_eq_none_of_locate? {members : Members Data} {wire own : Text}
    (absent : members.locate? wire own = none) (content : Content) :
    members.held? ⟨wire, own, content⟩ = none := by
  simp [Members.held?, absent]

theorem held?_type_of_typed {before after : Members Data}
    (noType : Members.locate? (before ++ after) "type" "schema_type" = none) :
    Members.held? (before ++ (.text "type", .text Swagger.objectKind) :: after)
      ⟨"type", "schema_type", .plain⟩ = some (.text Swagger.objectKind) := by
  have absent : Members.find? (before ++ after) "type" = none := by
    unfold Members.locate? at noType
    split at noType
    · cases noType
    next absent => exact absent
  simp [Members.held?, Members.locate?, Members.find?_append_cons_of_absent absent, isNull,
    View.layer]

namespace Swagger

theorem eq_of_rel_eq {first second : Option α} (same : Option.Rel Eq first second) :
    second = first := by
  cases same with
  | none => rfl
  | some same => rw [same]

/-- Either the members of a schema hold what is alike, or also a kind is given where there is
none. -/
theorem exists_given {entries edited others : Members Data}
    (held : HoldAlike TypesObject .still .definition entries edited)
    (types : TypesObject .definition edited others) :
    ∃ given : Prop,
      (given → entries.held? ⟨"$ref", "ref", .plain⟩ = none ∧
        entries.held? ⟨"allOf", "all_of", .list .definition⟩ = none) ∧
      Checked.Related
        (fun kind other => other = kind ∨ given ∧ kind = none ∧ other = some objectKind)
        (entries.optional "type" "schema_type" text) (others.optional "type" "schema_type" text) ∧
      ∀ member ∈ Part.definition.members, member.wire ≠ "type" →
        Option.Rel (Alike TypesObject .still member.content) (entries.held? member)
          (others.held? member) := by
  have absent {member : Member} (isMember : member ∈ Part.definition.members)
      (absent : edited.held? member = none) : entries.held? member = none := by
    have rel := held member isMember
    rw [absent] at rel
    cases found : entries.held? member with
    | none => rfl
    | some value =>
        rw [found] at rel
        cases rel
  cases types with
  | kept =>
      refine ⟨False, False.elim, ?_, fun member isMember _ => held member isMember⟩
      have kind : ⟨"type", "schema_type", .plain⟩ ∈ Part.definition.members := by decide
      exact ((relates_plain TypesObject text).optional (held _ kind)).imp
        fun same => .inl (eq_of_rel_eq same)
  | typed _ hasProperties noReference noMembers noType =>
      refine ⟨True, fun _ => ⟨?_, ?_⟩, ?_, ?_⟩
      · exact absent (by decide) (held?_eq_none_of_locate? noReference .plain)
      · exact absent (by decide) (held?_eq_none_of_locate? noMembers (.list .definition))
      · rw [← Checked.Related.bare_iff, bare_optional _ "type" "schema_type" .plain,
          bare_optional _ "type" "schema_type" .plain,
          absent (by decide) (held?_eq_none_of_locate? noType .plain), held?_type_of_typed noType]
        exact .valid (.inr ⟨trivial, rfl, rfl⟩)
      · intro member isMember isOther
        rw [held?_of_typed isMember isOther]
        exact held member isMember

/-- A member that holds nothing is read as none. -/
theorem related_optional_of_absent {given : Prop} {entries : Members Data} {wire own : Text}
    {content : Content} {read : Data → Checked α} {other : Checked β}
    {related : Option α → β → Prop}
    (absent : given → entries.held? ⟨wire, own, content⟩ = none)
    (readings : Checked.Related related (entries.optional wire own read) other) :
    Checked.Related (fun value other => related value other ∧ (given → value = none))
      (entries.optional wire own read) other := by
  have bare := bare_optional entries wire own content read
  cases reading : entries.optional wire own read with
  | valid value =>
      rw [reading] at readings bare
      cases readings with
      | valid values =>
          refine .valid ⟨values, fun isGiven => ?_⟩
          rw [absent isGiven] at bare
          cases bare
          rfl
  | _ =>
      rw [reading] at readings
      cases readings
      constructor

theorem relates_readSchema (levels : Nat) :
    Relates TypesObject (.part .definition) (readSchema levels) Schema.Gives := by
  induction levels with
  | zero => exact fun _ _ _ => .refuse ..
  | succ levels schemas =>
      refine relates_object fun {entries edited others} held types => ?_
      obtain ⟨given, alone, kind, alike⟩ := exists_given held types
      have plain {α : Type} (read : Data → Checked α) (wire own : Text)
          (isMember : ⟨wire, own, .plain⟩ ∈ Part.definition.members)
          (isOther : wire ≠ Text.ofString "type") :
          Checked.Related Eq (entries.optional wire own read) (others.optional wire own read) :=
        ((relates_plain TypesObject read).optional (alike _ isMember isOther)).imp
          fun same => (eq_of_rel_eq same).symm
      have reference := related_optional_of_absent (fun isGiven => (alone isGiven).1)
        (plain text "$ref" "ref" (by decide) (by decide))
      have description := plain text "description" "description" (by decide) (by decide)
      have format := plain text "format" "format" (by decide) (by decide)
      have enumeration := plain readEnumeration "enum" "enum_values" (by decide) (by decide)
      have required := plain (list text) "required" "required" (by decide) (by decide)
      have items := schemas.optional (alike ⟨"items", "items", _⟩ (by decide) (by decide))
      have properties :=
        schemas.named.optional (alike ⟨"properties", "properties", _⟩ (by decide) (by decide))
      have members := related_optional_of_absent (fun isGiven => (alone isGiven).2)
        (schemas.list.optional (alike ⟨"allOf", "all_of", _⟩ (by decide) (by decide)))
      refine .seq (.seq (.seq (.seq (.seq (.seq (.seq (.seq (.map ?gives reference) description)
        kind) format) enumeration) required) items) properties) members
      intro reference _ ⟨rfl, noReference⟩ description _ rfl kind _ kindGiven format _ rfl
        enumeration _ rfl required _ rfl items _ itemGives properties _ give allOf _
        ⟨membersGive, noMembers⟩
      refine .schema ?_ itemGives give membersGive
      exact kindGiven.imp_right fun ⟨isGiven, noKind, isObject⟩ =>
        ⟨noKind, isObject, noReference isGiven, noMembers isGiven⟩

theorem relates_readDocument :
    Relates TypesObject (.part .document) readDocument Document.Gives := by
  refine relates_object fun {entries edited others} held types => ?_
  obtain rfl := types.eq_of_ne_definition (by decide)
  have swagger : Checked.Related Eq (entries.needed "swagger" "swagger" text)
      (others.needed "swagger" "swagger" text) := by
    rw [← Checked.Related.bare_iff, held.needed_plain text rfl (by decide)]
    exact .refl (fun _ => rfl) _
  have info := (relates_apart readInfo rfl).optional
    (held ⟨"info", "info", .part .info⟩ (by decide))
  have definitions := (relates_readSchema deepestNesting).named.optional
    (held ⟨"definitions", "definitions", _⟩ (by decide))
  refine .seq (.seq (.map ?gives swagger) info) definitions
  intro swagger _ same info _ sameInfo definitions _ give
  exact ⟨same.symm, eq_of_rel_eq sameInfo, give⟩

end Swagger

/-- A document of the newer format does not have these schemas in it. -/
theorem OpenApi.bare_readDocument_of_typed {data other : Data}
    (alike : Alike TypesObject .still (.part .document) data other) :
    (readDocument other).bare = (readDocument data).bare := by
  rcases alike.typed_cases with ⟨entries, edited, others, rfl, rfl, held, types⟩ | ⟨rfl, -⟩
  · obtain rfl := types.eq_of_ne_definition (by decide)
    have same {member : Member} (isMember : member ∈ Part.document.members)
        (apart : member.content.isApart = true) :
        Members.held? others member = Members.held? entries member := by
      have rel := held member isMember
      cases here : Members.held? entries member <;> cases there : Members.held? others member <;>
        rw [here, there] at rel <;> cases rel
      next alike => rw [alike.eq_of_isApart rfl apart]
    have needed {α : Type} (read : Data → Checked α) (refuses : (read .null).bare = .invalid [])
        (wire own : Text) (content : Content)
        (isMember : ⟨wire, own, content⟩ ∈ Part.document.members)
        (apart : content.isApart = true) :
        (Members.needed others wire own read).bare =
          (Members.needed entries wire own read).bare := by
      rw [bare_needed others wire own content refuses, bare_needed entries wire own content refuses,
        same isMember apart]
    have components : (Members.optional others "components" "components"
          (readComponents deepestNesting)).bare =
        (Members.optional entries "components" "components"
          (readComponents deepestNesting)).bare := by
      rw [bare_optional others "components" "components" (.part .components),
        bare_optional entries "components" "components" (.part .components),
        same (by decide) rfl]
    simp only [readDocument, object, View.layer, Checked.bare_seq, Checked.bare_map]
    rw [needed text rfl "openapi" "openapi" .plain (by decide) rfl,
      needed readInfo rfl "info" "info" (.part .info) (by decide) rfl,
      needed _ rfl "paths" "paths" (.dictionary .pathItem) (by decide) rfl, components]
  · rfl

namespace Specification

/-- Specifications of the same format that are the same but for kinds of schemas that are given. -/
inductive Gives : Specification → Specification → Prop
  | swagger {document other : Swagger.Document} (gives : document.Gives other) :
      Gives (.swagger document) (.swagger other)
  | openApi (document : OpenApi.Document) : Gives (.openApi document) (.openApi document)

theorem gives_of_typed {data other : Data} (isTree : data.isTree = true)
    (otherIsTree : other.isTree = true)
    (alike : Alike TypesObject .still (.part .document) data other) :
    Option.Rel Gives (ofData data).outcome.toOption (ofData other).outcome.toOption := by
  have atRoot :
      Option.Rel Gives (ofRoot data).outcome.toOption (ofRoot other).outcome.toOption := by
    rw [toOption_ofRoot, toOption_ofRoot, OpenApi.bare_readDocument_of_typed alike]
    have swagger := Checked.Related.bare_iff.mpr (Swagger.relates_readDocument alike)
    cases here : (Swagger.readDocument data).bare <;>
      cases there : (Swagger.readDocument other).bare <;> rw [here, there] at swagger <;>
      cases swagger
    next gives => exact .some (.swagger gives)
    · dsimp only
      cases (OpenApi.readDocument data).bare with
      | valid document => exact .some (.openApi document)
      | _ => exact .none
    · exact .none
  rcases alike.typed_cases with ⟨entries, edited, others, rfl, rfl, -⟩ | ⟨rfl, noMapping⟩
  · simpa only [ofData, isTree, otherIsTree, if_true] using atRoot
  · cases other with
    | mapping entries => exact absurd rfl (noMapping entries)
    | _ => exact .none

theorem outcome_declarations_swagger (document : Swagger.Document) :
    (Specification.swagger document).declarations.outcome =
      document.declarations.mapError .foreignReference := by
  cases translated : document.declarations <;> simp only [declarations, translated] <;> rfl

/-- Translations have the same outcome exactly if the older format declares the same. -/
theorem outcome_declarations_eq_iff (document other : Swagger.Document) :
    (Specification.swagger other).declarations.outcome =
        (Specification.swagger document).declarations.outcome ↔
      other.declarations = document.declarations := by
  rw [outcome_declarations_swagger, outcome_declarations_swagger]
  cases document.declarations <;> cases other.declarations <;> simp [Except.mapError]

/-- The type of objects, wherever it is added to schemas with properties that have neither a type
nor a reference nor members of an intersection, does not change whether there is a specification,
nor one of the newer format.  It changes the declarations of a document of the older format exactly
if a schema that translation comes to gets fields, unless this fails at the same reference before
and after. -/
theorem type_of_objects_is_noticed_iff {data other : Data} (isTree : data.isTree = true)
    (otherIsTree : other.isTree = true)
    (alike : Alike TypesObject .still (.part .document) data other) :
    Option.Rel Gives (ofData data).outcome.toOption (ofData other).outcome.toOption ∧
      ∀ document, (ofData data).outcome = .ok (.swagger document) →
        ∃ typed, (ofData other).outcome = .ok (.swagger typed) ∧ document.Gives typed ∧
          ((Specification.swagger typed).declarations.outcome =
              (Specification.swagger document).declarations.outcome ↔
            (∃ fault, document.declarations = .error fault ∧ typed.declarations = .error fault) ∨
              ∀ pair ∈ document.visitedPairs typed,
                ¬ Swagger.Schema.GainsFields pair.1 pair.2) := by
  have gives := gives_of_typed isTree otherIsTree alike
  refine ⟨gives, fun document accepted => ?_⟩
  rw [accepted] at gives
  cases there : (ofData other).outcome with
  | error rejection =>
      rw [there] at gives
      cases gives
  | ok specification =>
      rw [there] at gives
      cases gives with
      | some gives =>
          cases gives with
          | @swagger _ typed gives =>
              refine ⟨typed, rfl, gives, ?_⟩
              rw [outcome_declarations_eq_iff]
              exact Swagger.Document.declarations_eq_iff_of_gives gives

/-- A document with the definition of a pet that has a name. -/
def petData (before : Members Data) : Data :=
  .mapping [(.text "swagger", .text "2.0"),
    (.text "definitions", .mapping [(.text "Pet", .mapping (before ++
      [(.text "properties",
        .mapping [(.text "name", .mapping [(.text "type", .text "string")])])]))])]

/-- A schema of the given kind with the given properties. -/
def schemaOfKind (kind : Option Text) (properties : Option (List (Text × Swagger.Schema))) :
    Swagger.Schema :=
  { reference := none, description := none, kind, format := none, enumeration := none,
    required := none, items := none, properties, allOf := none }

def petDocument (kind : Option Text) : Swagger.Document :=
  { swagger := "2.0", info := none,
    definitions := some
      [("Pet", schemaOfKind kind (some [("name", schemaOfKind (some "string") none)]))] }

/-- A pet is an empty record until it has a type, and then it has a name. -/
theorem untypedPet_gains_its_field :
    (ofData (petData [])).outcome = .ok (.swagger (petDocument none)) ∧
      (Specification.swagger (petDocument none)).declarations.outcome =
        .ok [{ name := "Pet", type := .record [] }] ∧
      (ofData (petData [(.text "type", .text "object")])).outcome =
        .ok (.swagger (petDocument (some "object"))) ∧
      (Specification.swagger (petDocument (some "object"))).declarations.outcome ≠
        (Specification.swagger (petDocument none)).declarations.outcome := by
  have alike : Alike TypesObject .still (.part .document) (petData [])
      (petData [(.text "type", .text "object")]) := by
    refine .object (.cons (.same _) (.cons ?_ .nil)) (.kept _)
    refine .named (fun _ => rfl) (.cons (.object (.cons (.same _) .nil) ?_) .nil)
    exact @TypesObject.typed .definition [] _ _ rfl rfl rfl rfl rfl
  obtain ⟨-, documents⟩ := type_of_objects_is_noticed_iff (by decide) (by decide) alike
  obtain ⟨typed, read, -, noticed⟩ := documents (petDocument none) rfl
  obtain rfl : petDocument (some "object") = typed :=
    Specification.swagger.inj (Except.ok.inj read)
  refine ⟨rfl, rfl, read, fun same => ?_⟩
  rcases noticed.mp same with ⟨fault, fails, -⟩ | gainless
  · cases fails
  · exact gainless _ (.head _) ⟨nofun, nofun⟩

end Specification

end ApiTypes
