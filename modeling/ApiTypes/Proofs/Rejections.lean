import ApiTypes.Proofs.JsonIntegers
import ApiTypes.Proofs.NodeFaults
import ApiTypes.Proofs.RunEffects
import ApiTypes.Proofs.TokenFaults
import ApiTypes.Proofs.UnfitNodes
import ApiTypes.Proofs.WritableDocuments

/-!
# Rejected specifications

Octets that are no specification are rejected with an explanation, unless reading
stops at a scalar without a value.  Then the rejection is a fault of that scalar,
and runs end with another code.
-/

namespace ApiTypes

/-- The text is read as JSON. -/
def Text.OpensWithBrace (text : Text) : Prop :=
  (text.dropWhile CodePoint.isBlank).head? = some (.scalar '\x7b')

/-- A scalar of a text that has no value, and the rejection that it leads to. -/
inductive UnreadableScalar (text : Text) : Rejection → Prop where
  /-- A number of JSON has too many digits. -/
  | number {digits : Text} : text.OpensWithBrace → digits <:+: text → digits.IsTooLong →
      UnreadableScalar text (.notLoaded (.json (.integer (.tooLong digits.length))))
  /-- An escape of YAML is beyond the last code point. -/
  | escape {number : Nat} : ¬ text.OpensWithBrace → 0x10FFFF < number →
      .fault (.escapeOutOfRange number) ∈ Yaml.Token.ofText text →
      UnreadableScalar text (.notLoaded (.yaml (.escapeOutOfRange number)))
  /-- The version of YAML has too many digits. -/
  | version {digits : Nat} : ¬ text.OpensWithBrace → Text.longestInteger < digits →
      .fault (.integer (.tooLong digits)) ∈ Yaml.Token.ofText text →
      UnreadableScalar text (.notLoaded (.yaml (.integer (.tooLong digits))))
  /-- A node of YAML does not fit its tag. -/
  | node {document : Yaml.Document} {fault : Yaml.Fault} : ¬ text.OpensWithBrace →
      Yaml.Document.ofTokens (Yaml.Token.ofText text) = .ok (some document) →
      document.Unfit fault → UnreadableScalar text (.notLoaded (.yaml fault))
  /-- An integer of YAML is too long to be written. -/
  | integer {order : Yaml.SetOrder} {data : Data} {value : Int} : ¬ text.OpensWithBrace →
      Yaml.load order text = .ok data → value ∈ data.integers →
      Shape.unwritableMagnitude ≤ value.natAbs → UnreadableScalar text .unwritableInteger

theorem Yaml.Document.Unfit.ne_malformed {document : Yaml.Document} {fault : Yaml.Fault}
    (unfit : document.Unfit fault) : fault ≠ .malformed := by
  cases unfit with
  | content isScalar standsFor hasNoValue notMalformed => exact notMalformed
  | timestampMapping isTimestamp isMapping => exact Yaml.Fault.noConfusion
  | endless isTag isMapping => exact Yaml.Fault.noConfusion

/-- No scalar without a value is explained as a broken rule of a grammar. -/
theorem UnreadableScalar.isExplained_eq_false {text : Text} {rejection : Rejection}
    (unreadable : UnreadableScalar text rejection) : rejection.isExplained = false := by
  cases unreadable with
  | number => rfl
  | escape => rfl
  | version => rfl
  | @node document fault _ _ unfit =>
      have notMalformed := unfit.ne_malformed
      cases fault with
      | malformed => exact absurd rfl notMalformed
      | _ => rfl
  | integer => rfl

namespace Specification

/-- The rejection is explained, or it is due to a scalar of the text. -/
def IsDue (text : Text) (rejection : Rejection) : Prop :=
  rejection.isExplained = true ∨ UnreadableScalar text rejection

theorem isDue_of_mem_tokens {text : Text} (noBrace : ¬ text.OpensWithBrace) {fault : Yaml.Fault}
    (member : .fault fault ∈ Yaml.Token.ofText text) : IsDue text (.notLoaded (.yaml fault)) := by
  have lexical := Yaml.Token.isLexical_of_mem_ofText member
  cases fault with
  | malformed => exact .inl rfl
  | escapeOutOfRange number => exact .inr (.escape noBrace lexical member)
  | integer error =>
      cases error with
      | tooLong digits => exact .inr (.version noBrace lexical member)
      | notANumeral base content => exact False.elim lexical
  | _ => exact False.elim lexical

/-- A fault of a YAML text is a broken rule, or due to one of its tokens or nodes. -/
theorem ends_loadYaml (order : Yaml.SetOrder) {text : Text} (noBrace : ¬ text.OpensWithBrace) :
    Ends (fun _ => True) (fun fault => IsDue text (.notLoaded (.yaml fault)))
      (Yaml.load order text) := by
  have documentEnds := Yaml.Document.ends_ofTokens (Yaml.Token.ofText text)
  unfold Yaml.load
  cases documentEq : Yaml.Document.ofTokens (Yaml.Token.ofText text) with
  | error fault =>
      rw [documentEq] at documentEnds
      rcases documentEnds with rfl | member
      · exact .inl rfl
      · exact isDue_of_mem_tokens noBrace member
  | ok found =>
      cases found with
      | none => exact trivial
      | some document =>
          apply (document.ends_load order).weaken (fun _ => id)
          rintro fault (rfl | unfit)
          · exact .inl rfl
          · exact .inr (.node noBrace documentEq unfit)

/-- The integers of a text that loads can be written if it is JSON. -/
theorem ends_loadText (order : Yaml.SetOrder) (text : Text) :
    Ends (fun data => data.IsWritable ∨ ¬ text.OpensWithBrace ∧ Yaml.load order text = .ok data)
      (fun fault => IsDue text (.notLoaded fault)) (loadText order text) := by
  unfold loadText
  split
  next brace =>
    have jsonEnds := Json.ends_load text
    cases loaded : Json.load text with
    | ok data =>
        rw [loaded] at jsonEnds
        exact .inl jsonEnds
    | error fault =>
        rw [loaded] at jsonEnds
        rcases jsonEnds with ⟨problem, line, column, position, rfl⟩ | ⟨digits, inside, tooLong, rfl⟩
        · exact .inl rfl
        · exact .inr (.number brace inside tooLong)
  next noBrace =>
    have yamlEnds := ends_loadYaml order noBrace
    cases loaded : Yaml.load order text with
    | ok data => exact .inr ⟨noBrace, rfl⟩
    | error fault =>
        rw [loaded] at yamlEnds
        exact yamlEnds

theorem ends_ofText (order : Yaml.SetOrder) (text : Text) :
    Ends (fun _ => True) (IsDue text) (ofText order text).outcome := by
  have textEnds := ends_loadText order text
  unfold ofText
  cases loaded : loadText order text with
  | error fault =>
      rw [loaded] at textEnds
      exact textEnds
  | ok data =>
      rw [loaded] at textEnds
      apply (ends_ofData data).weaken (fun _ => id)
      rintro rejection (explained | ⟨rfl, unwritable⟩)
      · exact .inl explained
      · -- JSON cannot be the reason, since its integers are never too long.
        rcases textEnds with writable | ⟨noBrace, loadedYaml⟩
        · exact absurd writable unwritable
        · simp only [Data.IsWritable, not_forall, Nat.not_lt] at unwritable
          obtain ⟨value, inside, tooLong⟩ := unwritable
          exact .inr (.integer noBrace loadedYaml inside tooLong)

theorem ends_ofBytes (order : Yaml.SetOrder) (bytes : Bytes) :
    Ends (fun _ => True)
      (fun rejection => rejection.isExplained = true ∨
        ∃ text, bytes.withoutMark.decode = .ok text ∧ UnreadableScalar text rejection)
      (ofBytes order bytes).outcome := by
  unfold ofBytes
  cases decoded : bytes.withoutMark.decode with
  | error fault => exact .inl rfl
  | ok text =>
      apply (ends_ofText order text).weaken (fun _ => id)
      rintro rejection (explained | unreadable)
      · exact .inl explained
      · exact .inr ⟨text, rfl, unreadable⟩

end Specification

namespace CommandLine

/-- The code of a run tells whether the rejection of what it reads is explained. -/
theorem code_run_of_rejected {world : World} {bytes : Bytes} {rejection : Rejection}
    (refused : (Specification.ofBytes world.setOrder bytes).outcome = .error rejection)
    {arguments : List Text} {options : Options} (accepted : parse arguments = .ok options)
    (obtained : world.source options = .ok bytes) :
    (world.run arguments).1.status.code = if rejection.isExplained then 2 else 3 := by
  obtain ⟨reports, requests, runEq⟩ := run_eq_of_parse_eq_ok world accepted
  have notGenerated : world.generated options = .error (.rejected rejection) := by
    simp [World.generated, obtained, generate, bind, Logged.bind, Logged.mapFault, refused]
  rw [runEq, notGenerated]
  cases explained : rejection.isExplained with
  | true => simp [fail, Failure.status, explained, Status.code]
  | false => simp [fail, Failure.status, explained, Status.code]

/-- Octets are a specification, or they are rejected.  The rejection lacks an explanation exactly if
it is due to a scalar without a value, and the code of every run that reads these octets tells which
of the two it is. -/
theorem rejection_is_explained_unless_unreadable (order : Yaml.SetOrder) (bytes : Bytes) :
    (∃ specification, (Specification.ofBytes order bytes).outcome = .ok specification) ∨
      ∃ rejection, (Specification.ofBytes order bytes).outcome = .error rejection ∧
        (rejection.isExplained = false ↔
          ∃ text, bytes.withoutMark.decode = .ok text ∧ UnreadableScalar text rejection) ∧
        ∀ (world : World) (arguments : List Text) (options : Options),
          world.setOrder = order → parse arguments = .ok options →
            world.source options = .ok bytes →
            (world.run arguments).1.status.code = if rejection.isExplained then 2 else 3 := by
  have ends := Specification.ends_ofBytes order bytes
  cases outcome : (Specification.ofBytes order bytes).outcome with
  | ok specification => exact .inl ⟨specification, rfl⟩
  | error rejection =>
      rw [outcome] at ends
      refine .inr ⟨rejection, rfl, ⟨?_, ?_⟩, ?_⟩
      · intro unexplained
        rcases ends with explained | unreadable
        · rw [explained] at unexplained
          exact Bool.noConfusion unexplained
        · exact unreadable
      · rintro ⟨text, _decoded, unreadable⟩
        exact unreadable.isExplained_eq_false
      · rintro world arguments options rfl accepted obtained
        exact code_run_of_rejected outcome accepted obtained

/-- A document that is a day of the thirteenth month. -/
def impossibleDate : Bytes :=
  Text.encodeEscaped "2020-13-01"

/-- The scalar has no value, and a run that reads it does not end with the code for specifications
that are invalid. -/
theorem impossibleDate_is_unreadable :
    (∃ text, impossibleDate.withoutMark.decode = .ok text ∧
      UnreadableScalar text (.notLoaded (.yaml (.calendar .month)))) ∧
    (({ files := { nodes := [] }, standardInput := impossibleDate
        reaction := .noResponse [] } : World).run ["--stdin"]).1.status.code = 3 := by
  have refused : (Specification.ofBytes .given impossibleDate).outcome =
      .error (.notLoaded (.yaml (.calendar .month))) := by
    have decoded : impossibleDate.withoutMark.decode = .ok "2020-13-01" := by
      decide +kernel
    unfold Specification.ofBytes
    rw [decoded]
    rfl
  rcases rejection_is_explained_unless_unreadable .given impossibleDate with
    ⟨specification, success⟩ | ⟨rejection, failure, unexplained_iff, codes⟩
  · rw [refused] at success
    exact absurd success (by simp)
  · rw [refused] at failure
    obtain rfl := Except.error.inj failure
    have code := codes
      { files := { nodes := [] }, standardInput := impossibleDate, reaction := .noResponse [] }
      ["--stdin"]
      { source := .input, user := none, password := none, output := none, selection := {}
        verbose := false } (by rfl) (by rfl) (by rfl)
    exact ⟨unexplained_iff.mp rfl, code⟩

end CommandLine

end ApiTypes
