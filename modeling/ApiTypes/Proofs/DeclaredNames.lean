import ApiTypes.Proofs.LiteralConversion
import ApiTypes.Proofs.OutputLines
import Mathlib.Data.List.Basic

/-!
# Names of declarations

An identifier is spelled with letters of ASCII, digits, underscores and dollar signs, and
begins with no digit.  The names that are taken for identifiers are those and the same with
one line feed behind them, so that the names that are reported are all that are misspelled
exactly if no kept declaration has a name of the second kind.
-/

namespace ApiTypes

/-! ## Identifiers -/

/-- A letter of ASCII, a digit, an underscore or a dollar sign. -/
def CodePoint.spellsIdentifiers : CodePoint → Bool
  | .scalar char => char.isAlphanum || char == '_' || char == '$'
  | .surrogate _ => false

theorem CodePoint.isAsciiLetter_scalar (char : Char) :
    isAsciiLetter (.scalar char) = char.isAlpha := by
  have isUpper : char.isUpper = decide ('A'.val ≤ char.val ∧ char.val ≤ 'Z'.val) := rfl
  have isLower : char.isLower = (decide ('a'.val ≤ char.val) && decide (char.val ≤ 'z'.val)) := rfl
  change _ = (char.isUpper || char.isLower)
  rw [isUpper, isLower, Bool.decide_and]
  rfl

namespace Text

/-- A text that spells an identifier. -/
def SpellsIdentifier (name : Text) : Prop :=
  name ≠ [] ∧ (∀ point ∈ name, point.spellsIdentifiers = true) ∧
    ∀ first ∈ name.head?, first.isDigit = false

instance (name : Text) : Decidable name.SpellsIdentifier :=
  inferInstanceAs (Decidable (_ ∧ _ ∧ _))

theorem isIdentifierPart_eq (point : CodePoint) :
    isIdentifierPart point = point.spellsIdentifiers := by
  cases point with
  | scalar char =>
      have marks : "_$".toList = ['_', '$'] := by decide
      simp only [isIdentifierPart, isIdentifierStart, CodePoint.isDigit_scalar,
        CodePoint.isAsciiLetter_scalar, CodePoint.isOneOf, marks, List.contains_cons,
        List.contains_nil, Bool.or_false, CodePoint.spellsIdentifiers, Char.isAlphanum]
      ac_rfl
  | surrogate half =>
      have above : ¬ CodePoint.toNat (.surrogate half) ≤ 0x7A := by
        simp only [CodePoint.toNat]
        omega
      have noLetter : CodePoint.isAsciiLetter (.surrogate half) = false := by
        simp only [CodePoint.isAsciiLetter, Bool.or_eq_false_iff, Bool.and_eq_false_iff,
          decide_eq_false_iff_not]
        omega
      have noDigit : CodePoint.isDigit (.surrogate half) = false := by
        simp only [CodePoint.isDigit, Bool.and_eq_false_iff, decide_eq_false_iff_not]
        omega
      simp [isIdentifierPart, isIdentifierStart, CodePoint.isOneOf, CodePoint.spellsIdentifiers,
        noLetter, noDigit]

/-- An identifier begins with a part of identifiers that is no digit. -/
theorem isIdentifierStart_iff (point : CodePoint) :
    isIdentifierStart point = true ↔
      point.spellsIdentifiers = true ∧ point.isDigit = false := by
  rw [← isIdentifierPart_eq, isIdentifierPart, Bool.or_eq_true]
  constructor
  · intro start
    refine ⟨.inl start, ?_⟩
    -- Letters and the two marks are apart from the digits.
    rw [isIdentifierStart, Bool.or_eq_true] at start
    rcases start with letter | mark
    · simp only [CodePoint.isAsciiLetter, Bool.or_eq_true, Bool.and_eq_true,
        decide_eq_true_eq] at letter
      simp only [CodePoint.isDigit, Bool.and_eq_false_iff, decide_eq_false_iff_not]
      omega
    · obtain ⟨char, member, rfl⟩ := CodePoint.exists_of_isOneOf mark
      have isMark : char = '_' ∨ char = '$' := by simpa using member
      rcases isMark with rfl | rfl <;> decide
  · rintro ⟨start | digit, noDigit⟩
    · exact start
    · rw [digit] at noDigit
      cases noDigit

theorem isIdentifier_iff_withoutLineFeed (name : Text) :
    name.isIdentifier = true ↔ name.withoutLineFeed.SpellsIdentifier := by
  unfold isIdentifier
  cases name.withoutLineFeed with
  | nil => simp [SpellsIdentifier]
  | cons first rest =>
      simp only [SpellsIdentifier, Bool.and_eq_true, isIdentifierStart_iff, List.all_eq_true,
        isIdentifierPart_eq, List.forall_mem_cons, List.head?_cons, Option.mem_def,
        Option.some.injEq, forall_eq', ne_eq, reduceCtorEq, not_false_eq_true, true_and]
      exact and_right_comm

theorem lineFeed_notMem_of_spellsIdentifier {name : Text} (spells : name.SpellsIdentifier) :
    .scalar '\n' ∉ name := by
  intro member
  have spelled := spells.2.1 _ member
  revert spelled
  decide

/-- The names that are taken for identifiers. -/
theorem isIdentifier_iff (name : Text) :
    name.isIdentifier = true ↔
      name.SpellsIdentifier ∨
        ∃ spelled : Text, spelled.SpellsIdentifier ∧ name = spelled ++ "\n" := by
  rw [isIdentifier_iff_withoutLineFeed, withoutLineFeed]
  split
  next ended =>
    obtain ⟨spelled, rfl⟩ := List.getLast?_eq_some_iff.mp ended
    rw [List.dropLast_concat]
    constructor
    · intro spells
      exact .inr ⟨spelled, spells, rfl⟩
    · rintro (spells | ⟨other, spells, same⟩)
      · exact absurd (by simp) (lineFeed_notMem_of_spellsIdentifier spells)
      · have sameLists : spelled ++ [.scalar '\n'] = other ++ [.scalar '\n'] := same
        rwa [List.append_cancel_right sameLists]
  next notEnded =>
    constructor
    · exact .inl
    · rintro (spells | ⟨other, spells, rfl⟩)
      · exact spells
      · exact absurd (by simp [ofString]) notEnded

end Text

/-! ## Reports -/

namespace Logged

/-- All events that a computation reports have a property. -/
def Reports (admits : Event → Prop) (computation : Logged ε α) : Prop :=
  ∀ event ∈ computation.events, admits event

variable {admits : Event → Prop}

theorem reports_pure (result : α) : Reports admits (pure result : Logged ε α) :=
  List.forall_mem_nil _

theorem reports_fail (fault : ε) : Reports admits (fail fault : Logged ε α) :=
  List.forall_mem_nil _

theorem reports_report {event : Event} (admitted : admits event) :
    Reports admits (report event : Logged ε Unit) :=
  List.forall_mem_singleton.mpr admitted

theorem Reports.bind {first : Logged ε α} {next : α → Logged ε β} (reports : Reports admits first)
    (nextReports : ∀ result, Reports admits (next result)) :
    Reports admits (first >>= next) := by
  obtain ⟨events, outcome⟩ := first
  cases outcome with
  | error fault => exact reports
  | ok result =>
      exact List.forall_mem_append.mpr ⟨reports, nextReports result⟩

theorem Reports.bind_pure {computation : Logged ε α} (reports : Reports admits computation)
    (result : α → β) : Reports admits (computation >>= fun value => pure (result value)) :=
  reports.bind fun _ => reports_pure _

end Logged

/-- The report of a key of a mapping that is no text. -/
def Event.IsDroppedKey (event : Event) : Prop :=
  ∃ key, event = .keyDropped key

namespace OpenApi

open Logged

theorem reports_enumerationMembers (members : List Data) :
    Reports Event.IsDroppedKey (enumerationMembers members) := by
  induction members with
  | nil => exact reports_pure _
  | cons member members induction =>
      refine Reports.bind ?_ fun literal => induction.bind_pure _
      intro event isReported
      rw [Data.events_ofData] at isReported
      obtain ⟨key, -, rfl⟩ := List.mem_map.mp isReported
      exact ⟨key, rfl⟩

theorem reports_enumerationType (members : List Data) :
    Reports Event.IsDroppedKey (enumerationType members) :=
  (reports_enumerationMembers members).bind_pure TypeExpr.union

theorem reports_textType (enumeration : Option (List Data)) (format : Option Text) :
    Reports Event.IsDroppedKey (textType enumeration format) := by
  cases enumeration with
  | some members => exact reports_enumerationType members
  | none => exact reports_pure _

theorem reports_referenceType (target : Text) :
    Reports Event.IsDroppedKey (referenceType target) := by
  unfold referenceType
  cases localName referenceOpening target with
  | ok name => exact reports_pure _
  | error foreign => exact reports_fail _

namespace Schema

mutual

/-- Lowering reports nothing but keys that are no texts. -/
theorem reports_lower (schema : Schema) : Reports Event.IsDroppedKey schema.lower := by
  obtain ⟨title, description, multipleOf, required, enumeration, kind, format, nullable, preset,
    oneOf, allOf, anyOf, negated, items, properties, additionalProperties⟩ := schema
  rw [lower.eq_def]
  cases allOf with
  | some members => exact (reports_lowerMembers members).bind_pure _
  | none =>
      cases kind with
      | none =>
          cases enumeration with
          | some members => exact reports_enumerationType members
          | none =>
              cases properties with
              | some properties =>
                  exact (reports_lowerProperties (required.getD []) properties).bind_pure _
              | none => exact reports_pure _
      | some name =>
          dsimp only
          cases SchemaKind.ofName? name with
          | none => exact reports_fail _
          | some kind =>
              cases kind with
              | text => exact reports_textType enumeration format
              | enumeration => exact reports_enumerationType (enumeration.getD [])
              | array =>
                  cases items with
                  | some slot => exact (reports_lowerSlot slot).bind_pure _
                  | none => exact reports_fail _
              | object =>
                  cases properties with
                  | some properties =>
                      exact (reports_lowerProperties (required.getD []) properties).bind_pure _
                  | none => exact reports_pure _
              | _ => exact reports_pure _

/-- Counterpart of `reports_lower` for slots. -/
theorem reports_lowerSlot (slot : Slot Schema) :
    Reports Event.IsDroppedKey (lowerSlot slot) := by
  cases slot with
  | reference target => exact reports_referenceType target
  | inline schema => exact reports_lower schema

/-- List counterpart of `reports_lowerSlot`. -/
theorem reports_lowerMembers (members : List (Slot Schema)) :
    Reports Event.IsDroppedKey (lowerMembers members) := by
  cases members with
  | nil => exact reports_pure _
  | cons member members =>
      exact (reports_lowerSlot member).bind fun type =>
        (reports_lowerMembers members).bind_pure _

/-- Counterpart of `reports_lowerMembers` for properties. -/
theorem reports_lowerProperties (required : List Text) (properties : List (Text × Slot Schema)) :
    Reports Event.IsDroppedKey (lowerProperties required properties) := by
  cases properties with
  | nil => exact reports_pure _
  | cons property properties =>
      obtain ⟨name, slot⟩ := property
      exact (reports_lowerSlot slot).bind fun type =>
        (reports_lowerProperties required properties).bind_pure _

end

end Schema

theorem reports_declare (schemas : List (Text × Slot Schema)) :
    Reports Event.IsDroppedKey (declare schemas) := by
  induction schemas with
  | nil => exact reports_pure _
  | cons schema schemas induction =>
      obtain ⟨name, slot⟩ := schema
      exact (Schema.reports_lowerSlot slot).bind fun type => induction.bind_pure _

end OpenApi

/-- The report of a name that is not taken for an identifier. -/
def Event.isNameReport : Event → Bool
  | .invalidName _ => true
  | _ => false

namespace Specification

open Logged

theorem reports_openApi_declarations (document : OpenApi.Document) :
    Reports (fun event => event.isNameReport = false) document.declarations := by
  unfold OpenApi.Document.declarations
  split
  next schemas _ =>
    intro event isReported
    obtain ⟨key, rfl⟩ := OpenApi.reports_declare schemas event isReported
    rfl
  next =>
    refine Reports.bind_pure ?_ _
    exact reports_report rfl

/-- Translation reports no names. -/
theorem reports_declarations (specification : Specification) :
    Reports (fun event => event.isNameReport = false) specification.declarations := by
  have counted (declarations : List Declaration) :
      Reports (fun event => event.isNameReport = false)
        (do
          Logged.report (.declared declarations.length)
          return declarations : Logged OpenApi.LoweringFault (List Declaration)) := by
    refine Reports.bind_pure ?_ _
    exact reports_report rfl
  cases specification with
  | swagger document => exact Reports.bind (List.forall_mem_nil _) counted
  | openApi document => exact (reports_openApi_declarations document).bind counted

/-- The names that the output reports are those of kept declarations that are not taken for
identifiers. -/
theorem filter_isNameReport_events_output {specification : Specification}
    {declarations : List Declaration} (selection : Selection)
    (translates : specification.declarations.outcome = .ok declarations) :
    (specification.output selection).events.filter Event.isNameReport =
      nameWarnings (selection.kept declarations) := by
  have events : (specification.output selection).events =
      specification.declarations.events ++
        (selection.dropped declarations ++ nameWarnings (selection.kept declarations)) := by
    simp [output, bind, Logged.bind, translates, Logged.reportAll, pure, Logged.pure]
  have translation : specification.declarations.events.filter Event.isNameReport = [] := by
    rw [List.filter_eq_nil_iff]
    intro event isReported
    simp [specification.reports_declarations event isReported]
  have dropped : (selection.dropped declarations).filter Event.isNameReport = [] := by
    rw [List.filter_eq_nil_iff]
    intro event isReported
    obtain ⟨declaration, -, isDropped⟩ := List.mem_filterMap.mp isReported
    cases applied : selection.apply declaration with
    | ok left => simp [applied] at isDropped
    | error reason =>
        obtain rfl : _ = event := by simpa [applied] using isDropped
        simp [Event.isNameReport]
  have warnings : (nameWarnings (selection.kept declarations)).filter Event.isNameReport =
      nameWarnings (selection.kept declarations) := by
    rw [List.filter_eq_self]
    intro event isReported
    obtain ⟨declaration, -, rfl⟩ := List.mem_map.mp isReported
    rfl
  rw [events, List.filter_append, List.filter_append, translation, dropped, warnings,
    List.nil_append, List.nil_append]

/-- All misspelled names are reported exactly if no other name is taken for an identifier. -/
theorem nameWarnings_eq_iff (declarations : List Declaration) :
    nameWarnings declarations =
        (declarations.filter fun declaration => !decide declaration.name.SpellsIdentifier).map
          (fun declaration => .invalidName declaration.name) ↔
      ∀ declaration ∈ declarations,
        declaration.name.isIdentifier = true → declaration.name.SpellsIdentifier := by
  have accepted (declaration : Declaration) (spells : declaration.name.SpellsIdentifier) :
      declaration.name.isIdentifier = true :=
    (Text.isIdentifier_iff _).mpr (.inl spells)
  unfold nameWarnings
  constructor
  · intro same declaration isDeclared isAccepted
    have sublist : (declarations.filter fun declaration => !declaration.name.isIdentifier).Sublist
        (declarations.filter fun declaration => !decide declaration.name.SpellsIdentifier) := by
      refine List.monotone_filter_right _ fun declaration refused => ?_
      by_contra spells
      simp [accepted declaration (by simpa using spells)] at refused
    have equal := sublist.eq_of_length (by simpa using congrArg List.length same)
    by_contra misspelled
    have isRefused : declaration ∈ declarations.filter fun declaration =>
        !declaration.name.isIdentifier := by
      rw [equal]
      simp [isDeclared, misspelled]
    simp [isAccepted] at isRefused
  · intro agree
    congr 1
    refine List.filter_congr fun declaration isDeclared => ?_
    rw [Bool.not_inj_iff, Bool.eq_iff_iff, decide_eq_true_eq]
    exact ⟨agree declaration isDeclared, accepted declaration⟩

/-- The names of kept declarations that are reported are those that neither spell an identifier nor
do so in front of one line feed.  These are all that do not spell an identifier exactly if no kept
declaration has a name of the second kind.  Where none is reported, an identifier, with a line feed
or without, is what every kept declaration is headed by. -/
theorem name_reports_are_exact_iff {specification : Specification}
    {declarations : List Declaration} (selection : Selection)
    (translates : specification.declarations.outcome = .ok declarations) :
    (specification.output selection).outcome =
        .ok (Declaration.moduleText (selection.kept declarations)) ∧
      (specification.output selection).events.filter Event.isNameReport =
        ((selection.kept declarations).filter fun declaration =>
          !declaration.name.isIdentifier).map (fun declaration => .invalidName declaration.name) ∧
      (∀ name : Text, name.isIdentifier = true ↔
        name.SpellsIdentifier ∨
          ∃ spelled : Text, spelled.SpellsIdentifier ∧ name = spelled ++ "\n") ∧
      ((specification.output selection).events.filter Event.isNameReport =
          ((selection.kept declarations).filter fun declaration =>
            !decide declaration.name.SpellsIdentifier).map
              (fun declaration => .invalidName declaration.name) ↔
        ∀ declaration ∈ selection.kept declarations, ∀ spelled : Text,
          spelled.SpellsIdentifier → declaration.name ≠ spelled ++ "\n") ∧
      ((specification.output selection).events.filter Event.isNameReport = [] →
        ∀ declaration ∈ selection.kept declarations, ∃ spelled ending : Text,
          spelled.SpellsIdentifier ∧ (ending = [] ∨ ending = "\n") ∧
            declaration.line = "export type " ++ spelled ++ ending ++ " = " ++
              declaration.type.render ++ ";\n") := by
  have reported := filter_isNameReport_events_output selection translates
  refine ⟨specification.output_outcome_of_declarations_eq_ok selection translates, reported,
    Text.isIdentifier_iff, ?_, ?_⟩
  · rw [reported, nameWarnings_eq_iff]
    refine forall₂_congr fun declaration _ => ?_
    rw [Text.isIdentifier_iff]
    constructor
    · intro onlySpelled spelled spells ended
      have whole := onlySpelled (.inr ⟨spelled, spells, ended⟩)
      refine Text.lineFeed_notMem_of_spellsIdentifier whole ?_
      rw [ended]
      simp [Text.ofString]
    · rintro noneEnded (spells | ⟨spelled, spells, ended⟩)
      · exact spells
      · exact absurd ended (noneEnded spelled spells)
  · intro noneReported declaration isKept
    rw [reported, nameWarnings, List.map_eq_nil_iff, List.filter_eq_nil_iff] at noneReported
    have accepted : declaration.name.isIdentifier = true := by
      simpa using noneReported declaration isKept
    rcases (Text.isIdentifier_iff _).mp accepted with spells | ⟨spelled, spells, ended⟩
    · exact ⟨declaration.name, [], spells, .inl rfl, by simp [Declaration.line]⟩
    · exact ⟨spelled, "\n", spells, .inr rfl, by simp [Declaration.line, ended]⟩

/-- A name with a line feed behind it is no identifier, but it is not reported either. -/
theorem endedName_is_not_reported :
    (twoWords "Pet\n").declarations.outcome = .ok [twoWordsDeclaration "Pet\n"] ∧
      ((twoWords "Pet\n").output {}).events.filter Event.isNameReport = [] ∧
      ¬ Text.SpellsIdentifier "Pet\n" ∧
      (twoWordsDeclaration "Pet\n").line =
        "export type " ++ "Pet" ++ "\n" ++ " = " ++ "'cat'|'dog'" ++ ";\n" := by
  have translates : (twoWords "Pet\n").declarations.outcome =
      .ok [twoWordsDeclaration "Pet\n"] := by
    rfl
  obtain ⟨-, reported, -⟩ := name_reports_are_exact_iff {} translates
  refine ⟨translates, ?_, by decide, by decide⟩
  rw [reported]
  rfl

end Specification

end ApiTypes
