import ApiTypes.Proofs.MirroredDocuments
import ApiTypes.Proofs.NumeralReading
import ApiTypes.Proofs.Outcomes
import ApiTypes.Proofs.SourcePlaces
import ApiTypes.Proofs.WritableIntegers
import ApiTypes.Specification.Output

/-!
# Extensions are not seen

Further extensions among the paths of a document, or among the responses of its
operations, change neither its specification nor the places and kinds of its faults.  The
paths and responses of a document that is read have no names like those of extensions,
unless octets are keys.
-/

namespace ApiTypes

open Shape

namespace Specification

/-- Trees of data that differ by extensions are read alike at their roots, whatever is known of
the collections around places. -/
theorem placed_ofRoot_of_extended {data other : Data} (isTree : data.isTree = true)
    (extended : DocumentExtended data other) :
    (ofRoot (Cursor.root other)).mapFault Rejection.placed =
      (ofRoot data).mapFault Rejection.placed := by
  have shows : Shows DocumentExtended data (Cursor.root other) := ⟨extended, isTree, nofun⟩
  rw [placed_ofRoot, placed_ofRoot, Swagger.agrees_readDocument data _ shows,
    OpenApi.agrees_readDocument data _ shows]

/-- Further extensions leave the outcome as it is, even if they hold collections around them. -/
theorem placed_ofData_of_extended {data other : Data} (isTree : data.isTree = true)
    (extended : DocumentExtended data other) :
    (ofData other).mapFault Rejection.placed = (ofData data).mapFault Rejection.placed := by
  have atRoot := placed_ofRoot_of_extended isTree extended
  rcases extended.cases_mapping with ⟨entries, others, rfl, rfl, -⟩ | ⟨rfl, -⟩
  · rw [ofData, ofData, if_pos isTree]
    split
    next otherIsTree => rw [← atRoot, placed_ofRoot_of_extended otherIsTree (.same _)]
    next => exact atRoot
  · rfl

end Specification

/-! ## Names of paths and responses -/

namespace Data

mutual

/-- No mapping in data has octets as a key. -/
def hasNoOctetKeys : Data → Bool
  | .list items => haveNoOctetKeys items
  | .tuple items => haveNoOctetKeys items
  | .set items => haveNoOctetKeys items
  | .mapping entries => entriesHaveNoOctetKeys entries
  | _ => true

/-- List counterpart of `hasNoOctetKeys`. -/
def haveNoOctetKeys : List Data → Bool
  | [] => true
  | item :: items => hasNoOctetKeys item && haveNoOctetKeys items

/-- Counterpart of `hasNoOctetKeys` for the entries of a mapping. -/
def entriesHaveNoOctetKeys : List (Data × Data) → Bool
  | [] => true
  | (.bytes _, _) :: _ => false
  | (_, value) :: entries => hasNoOctetKeys value && entriesHaveNoOctetKeys entries

end

theorem forall_mem_of_entriesHaveNoOctetKeys {entries : List (Data × Data)}
    (noOctets : entriesHaveNoOctetKeys entries = true) :
    ∀ entry ∈ entries, (∀ octets, entry.1 ≠ .bytes octets) ∧ entry.2.hasNoOctetKeys = true := by
  induction entries with
  | nil => exact List.forall_mem_nil _
  | cons entry entries induction =>
      obtain ⟨key, value⟩ := entry
      have split : (∀ octets, key ≠ .bytes octets) ∧ value.hasNoOctetKeys = true ∧
          entriesHaveNoOctetKeys entries = true := by
        cases key <;> simp_all [entriesHaveNoOctetKeys]
      exact List.forall_mem_cons.mpr ⟨⟨split.1, split.2.1⟩, induction split.2.2⟩

end Data

/-- The text of a number begins with no letter but those of the numbers that are not finite. -/
theorem after?_text_eq_none (number : Double) : number.text.after? "x-" = none := by
  refine Text.after?_eq_none (.scalar 'x') rfl ?_
  cases number with
  | notANumber => decide
  | infinite negative => cases negative <;> decide
  | finite negative mantissa exponent canonical =>
      obtain ⟨first, others, opens, isDigit⟩ :=
        Double.decimal_opens_with_digit (Decimal.shortest mantissa exponent canonical)
      rw [Double.text, opens]
      cases negative with
      | true => rintro ⟨⟩
      | false =>
          rintro ⟨⟩
          cases isDigit

theorem after?_ofInt_eq_none (value : Int) : (Text.ofInt value).after? "x-" = none := by
  refine Text.after?_eq_none (.scalar 'x') rfl ?_
  cases value with
  | ofNat number =>
      obtain ⟨first, others, opens, isDigit⟩ := Double.ofNat_opens_with_digit number
      rw [Text.ofInt, opens]
      rintro ⟨⟩
      cases isDigit
  | negSucc number => nofun

/-- Only a key of octets can stand for the name of an extension without being one. -/
theorem after?_eq_none_of_textOf {key : Data} {name : Text} (stands : textOf key = .valid name)
    (noExtension : isExtension key = false) (noOctets : ∀ octets, key ≠ .bytes octets) :
    name.after? "x-" = none := by
  cases key with
  | text content =>
      cases stands
      simpa [isExtension] using noExtension
  | bytes octets => exact absurd rfl (noOctets octets)
  | integer value =>
      simp only [textOf] at stands
      split at stands
      · cases stands
        exact after?_ofInt_eq_none value
      · cases stands
  | float number =>
      cases stands
      exact after?_text_eq_none number
  | _ => cases stands

section Reading

variable {α : Type} {read : Data → Checked α}

/-- A member of an object that has no octets as keys has none either. -/
theorem hasNoOctetKeys_of_locate? {entries : Members Data}
    (noOctets : Data.entriesHaveNoOctetKeys entries = true) {wire own name : Text} {place : Data}
    (found : entries.locate? wire own = some (name, place)) : place.hasNoOctetKeys = true := by
  have inside := Data.forall_mem_of_entriesHaveNoOctetKeys noOctets
  exact @Members.holds_of_locate? _ (fun place => place.hasNoOctetKeys = true) _
    (fun entry member => (inside entry member).2) _ _ _ _ found

theorem exists_of_needed {entries : Members Data}
    (noOctets : Data.entriesHaveNoOctetKeys entries = true) {wire own : Text} {value : α}
    (valid : Members.needed entries wire own read = .valid value) :
    ∃ place, place.hasNoOctetKeys = true ∧ read place = .valid value := by
  unfold Members.needed at valid
  split at valid
  next name place found =>
    exact ⟨place, hasNoOctetKeys_of_locate? noOctets found,
      Checked.labelled_eq_valid_iff.mp valid⟩
  · cases valid

theorem exists_of_optional {entries : Members Data}
    (noOctets : Data.entriesHaveNoOctetKeys entries = true) {wire own : Text} {value : α}
    (valid : Members.optional entries wire own read = .valid (some value)) :
    ∃ place, place.hasNoOctetKeys = true ∧ read place = .valid value := by
  unfold Members.optional at valid
  split at valid
  next name place found =>
    split at valid
    · cases valid
    · obtain ⟨result, isResult, same⟩ := Checked.map_eq_valid_iff.mp valid
      obtain rfl := Option.some.inj same
      exact ⟨place, hasNoOctetKeys_of_locate? noOctets found,
        Checked.labelled_eq_valid_iff.mp isResult⟩
  · cases valid

/-- The names of a dictionary without extensions are not like those of extensions, and its values
are read at places that have no octets as keys either. -/
theorem forall_mem_of_dictionaryWithoutExtensions {data : Data}
    (noOctets : data.hasNoOctetKeys = true) {named : Dictionary α}
    (valid : dictionaryWithoutExtensions read data = .valid named) :
    ∀ entry ∈ named, entry.1.after? "x-" = none ∧
      ∃ place, place.hasNoOctetKeys = true ∧ read place = .valid entry.2 := by
  cases data with
  | mapping entries =>
      have inside := Data.forall_mem_of_entriesHaveNoOctetKeys noOctets
      rw [dictionaryWithoutExtensions_mapping] at valid
      obtain ⟨_, ⟨⟩, gathers⟩ := exists_gathers_of_dictionary_eq_valid valid
      rintro ⟨name, value⟩ isNamed
      have isName : name ∈ keyNames _ := gathers.names.names_eq ▸ List.mem_map_of_mem isNamed
      obtain ⟨entry, isEntry, rfl⟩ := List.mem_map.mp (List.mem_eraseDups.mp isName)
      obtain ⟨place, isLast, isRead⟩ := gathers.last _ value isNamed
      obtain ⟨last, found, rfl⟩ := Option.map_eq_some_iff.mp isLast
      obtain ⟨isPresent, noExtension⟩ := List.mem_filter.mp isEntry
      have isLastPresent := List.mem_of_mem_filter
        (List.mem_reverse.mp (List.mem_of_find?_eq_some found))
      refine ⟨?_, last.2, (inside last isLastPresent).2, isRead⟩
      exact after?_eq_none_of_textOf (gathers.names.written entry isEntry)
        (by simpa using noExtension) (inside entry isPresent).1
  | _ => cases valid

end Reading

namespace OpenApi

/-- The operations of a path item. -/
def PathItem.operations (item : PathItem) : List Operation :=
  [item.get, item.put, item.post, item.delete, item.options, item.head, item.patch,
    item.trace].filterMap id

/-- No path and no response of an operation has a name like that of an extension. -/
def Document.HasNoExtensions (document : Document) : Prop :=
  ∀ path ∈ document.paths, path.1.after? "x-" = none ∧
    ∀ operation ∈ path.2.operations, ∀ response ∈ operation.responses,
      response.1.after? "x-" = none

/-- An object of a tree of data is a mapping. -/
theorem exists_of_object_eq_valid {readMembers : Members Data → Checked α} {data : Data} {value : α}
    (noOctets : data.hasNoOctetKeys = true) (valid : object readMembers data = .valid value) :
    ∃ entries, Data.entriesHaveNoOctetKeys entries = true ∧ readMembers entries = .valid value := by
  cases data with
  | mapping entries => exact ⟨entries, noOctets, valid⟩
  | _ => cases valid

theorem noExtensions_of_readOperation {levels : Nat} {data : Data}
    (noOctets : data.hasNoOctetKeys = true) {operation : Operation}
    (valid : readOperation levels data = .valid operation) :
    ∀ response ∈ operation.responses, response.1.after? "x-" = none := by
  cases levels with
  | zero => cases valid
  | succ levels =>
      obtain ⟨entries, noOctets, isRead⟩ := exists_of_object_eq_valid noOctets valid
      clear valid
      revert operation
      simp only [Checked.forall_seq_eq_valid, Checked.forall_map_eq_valid]
      intro _ _ _ _ _ _ responses responsesValid
      obtain ⟨place, placeNoOctets, isRead⟩ := exists_of_needed noOctets responsesValid
      exact fun response isResponse =>
        (forall_mem_of_dictionaryWithoutExtensions placeNoOctets isRead response isResponse).1

theorem noExtensions_of_readPathItem {levels : Nat} {data : Data}
    (noOctets : data.hasNoOctetKeys = true) {item : PathItem}
    (valid : readPathItem levels data = .valid item) :
    ∀ operation ∈ item.operations, ∀ response ∈ operation.responses,
      response.1.after? "x-" = none := by
  obtain ⟨entries, noOctets, isRead⟩ := exists_of_object_eq_valid noOctets valid
  clear valid
  revert item
  simp only [Checked.forall_seq_eq_valid, Checked.forall_map_eq_valid]
  intro _ _ get getValid put putValid post postValid delete deleteValid options optionsValid head
    headValid patch patchValid trace traceValid _ _ operation isOperation
  have noExtensions {found : Option Operation} {wire own : Text}
      (foundValid : Members.optional entries wire own (readOperation levels) = .valid found) :
      ∀ operation, found = some operation → ∀ response ∈ operation.responses,
        response.1.after? "x-" = none := by
    rintro operation rfl
    obtain ⟨place, placeNoOctets, isRead⟩ := exists_of_optional noOctets foundValid
    exact noExtensions_of_readOperation placeNoOctets isRead
  have each : ∀ found ∈ [get, put, post, delete, options, head, patch, trace],
      ∀ operation, found = some operation → ∀ response ∈ operation.responses,
        response.1.after? "x-" = none := by
    simp only [List.forall_mem_cons, List.not_mem_nil, false_imp_iff, implies_true, and_true]
    exact ⟨noExtensions getValid, noExtensions putValid, noExtensions postValid,
      noExtensions deleteValid, noExtensions optionsValid, noExtensions headValid,
      noExtensions patchValid, noExtensions traceValid⟩
  obtain ⟨found, isFound, isOperation⟩ := List.mem_filterMap.mp isOperation
  exact each found isFound operation isOperation

theorem noExtensions_of_readDocument {data : Data} (noOctets : data.hasNoOctetKeys = true)
    {document : Document} (valid : readDocument data = .valid document) :
    document.HasNoExtensions := by
  obtain ⟨entries, noOctets, isRead⟩ := exists_of_object_eq_valid noOctets valid
  clear valid
  revert document
  simp only [Checked.forall_seq_eq_valid, Checked.forall_map_eq_valid]
  intro _ _ _ _ paths pathsValid _ _ path isPath
  obtain ⟨place, placeNoOctets, isRead⟩ := exists_of_needed noOctets pathsValid
  obtain ⟨noExtension, itemPlace, itemNoOctets, itemRead⟩ :=
    forall_mem_of_dictionaryWithoutExtensions placeNoOctets isRead path isPath
  exact ⟨noExtension, noExtensions_of_readPathItem itemNoOctets itemRead⟩

end OpenApi

namespace Specification

theorem noExtensions_of_ofData {data : Data} (isTree : data.isTree = true)
    (noOctets : data.hasNoOctetKeys = true) {document : OpenApi.Document}
    (accepted : (ofData data).outcome = .ok (.openApi document)) : document.HasNoExtensions := by
  cases data with
  | mapping entries =>
      rw [ofData, if_pos isTree] at accepted
      exact OpenApi.noExtensions_of_readDocument noOctets (isReadAt_of_ofRoot accepted)
  | _ => cases accepted

theorem toOption_mapFault (computation : Logged ε α) (tell : ε → δ) :
    (computation.mapFault tell).outcome.toOption = computation.outcome.toOption := by
  obtain ⟨events, outcome⟩ := computation
  cases outcome <;> rfl

/-- Further extensions among the paths of a tree of data and among the responses of its operations
change neither its specification nor the places and kinds of its faults, and so no declaration and
no output.  The document that is read has no names like those of extensions. -/
theorem extensions_change_nothing (data other : Data) (isTree : data.isTree = true)
    (extended : DocumentExtended data other) :
    (ofData other).mapFault Rejection.placed = (ofData data).mapFault Rejection.placed ∧
      (ofData other).outcome.toOption.map declarations =
        (ofData data).outcome.toOption.map declarations ∧
      (∀ selection, (ofData other).outcome.toOption.map (output · selection) =
        (ofData data).outcome.toOption.map (output · selection)) ∧
      (data.hasNoOctetKeys = true → ∀ document,
        (ofData other).outcome = .ok (.openApi document) → document.HasNoExtensions) := by
  have alike := placed_ofData_of_extended isTree extended
  have sameSpecification : (ofData other).outcome.toOption = (ofData data).outcome.toOption := by
    rw [← toOption_mapFault _ Rejection.placed, alike, toOption_mapFault]
  refine ⟨alike, by rw [sameSpecification], fun selection => by rw [sameSpecification], ?_⟩
  intro noOctets document accepted
  cases found : (ofData data).outcome with
  | error rejection => simp [accepted, found, Except.toOption] at sameSpecification
  | ok specification =>
      obtain rfl : Specification.openApi document = specification := by
        simpa [accepted, found, Except.toOption] using sameSpecification
      exact noExtensions_of_ofData isTree noOctets found

/-- The data of a document with one path, where other entries stand before the path and before the
response of its operation. -/
def petsData (paths responses : Members Data) : Data :=
  .mapping [(.text "openapi", .text "3.0.0"),
    (.text "info", .mapping [(.text "title", .text "T"), (.text "version", .text "1")]),
    (.text "paths", .mapping (paths ++ [(.text "/pets",
      .mapping [(.text "get", .mapping [(.text "responses",
        .mapping (responses ++ [(.text "200", .mapping [])]))])])]))]

/-- The document with extensions that hold the collection around them and a number. -/
def extendedPetsData : Data :=
  petsData [(.text "x-paths", .enclosing 0)] [(.text "x-code", .integer 1)]

theorem documentExtended_petsData : DocumentExtended (petsData [] []) extendedPetsData := by
  refine .edited (.same _ (.same _ (.edited (by decide) (.inserted ?_) .nil)))
  refine .extension _ rfl (.kept _ (.edited (.edited (by decide) (.edited ?_) .nil)) .nil)
  exact .edited (by decide) (.inserted (.extension _ rfl (.kept _ rfl .nil))) .nil

/-- The paths of a document of OpenAPI, and those of no other document. -/
def pathNames? : Specification → Option (List Text)
  | .swagger _ => none
  | .openApi document => some (document.paths.map Prod.fst)

theorem extendedPetsData_is_read_without_extensions :
    (ofData extendedPetsData).mapFault Rejection.placed =
        (ofData (petsData [] [])).mapFault Rejection.placed ∧
      ∃ document, (ofData extendedPetsData).outcome = .ok (.openApi document) ∧
        document.HasNoExtensions ∧ document.paths.map Prod.fst = (["/pets"] : List Text) := by
  obtain ⟨alike, -, -, noExtensions⟩ := extensions_change_nothing (petsData [] [])
    extendedPetsData (by decide) documentExtended_petsData
  have named : (ofData extendedPetsData).outcome.toOption.bind pathNames? =
      some (["/pets"] : List Text) := by
    decide +kernel
  obtain ⟨specification, isRead, areNamed⟩ := Option.bind_eq_some_iff.mp named
  have accepted := eq_ok_of_toOption_eq_some isRead
  cases specification with
  | swagger document => cases areNamed
  | openApi document =>
      exact ⟨alike, document, accepted, noExtensions (by decide) document accepted,
        Option.some.inj areNamed⟩

end Specification

end ApiTypes
