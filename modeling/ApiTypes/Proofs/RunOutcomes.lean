import ApiTypes.Proofs.FilterComposition
import ApiTypes.Proofs.GivenOptions
import ApiTypes.Proofs.LoadedSets
import ApiTypes.Proofs.RunEffects
import ApiTypes.Proofs.WrittenFiles

/-!
# Outcomes of runs

The code of a run tells which of its steps has failed, if any: obtaining the
octets, reading them as a specification, generating the module, or delivering it.
A module that is delivered is on the standard output or in the file that was asked
for.  What it says depends on the octets and the selection only, as long as no sets
are loaded from the octets.
-/

namespace ApiTypes.CommandLine

namespace World

/-- The octets that a run reads: those of its file, of its standard input, or of an answer with the
status 200. -/
def Obtains (world : World) (options : Options) (raw : Bytes) : Prop :=
  match options.source with
  | .file path => world.files.read path = .ok raw
  | .url _ => ∃ reason, world.reaction = .response 200 reason raw
  | .input => world.standardInput = raw

/-- The text of the module that a run generates. -/
def Produces (world : World) (options : Options) (text : Text) : Prop :=
  ∃ raw specification, world.Obtains options raw ∧
    (Specification.ofBytes world.setOrder raw).outcome = .ok specification ∧
    (specification.output options.selection).outcome = .ok text

/-- The octets that a run reads are no specification. -/
def Rejects (world : World) (options : Options) (rejection : Rejection) : Prop :=
  ∃ raw, world.Obtains options raw ∧
    (Specification.ofBytes world.setOrder raw).outcome = .error rejection

/-- What becomes of the attempt to deliver a text. -/
def delivery (world : World) (options : Options) (text : Text) : Except FileFault Unit :=
  match options.output with
  | some path => (world.files.write path text).2
  | none =>
      match text.encode with
      | .ok _ => .ok ()
      | .error fault => .error (.unencodable fault)

theorem source_eq_ok_iff (world : World) (options : Options) (raw : Bytes) :
    world.source options = .ok raw ↔ world.Obtains options raw := by
  unfold source Obtains
  cases options.source with
  | file path => cases readEq : world.files.read path <;> simp [readEq]
  | input => simp
  | url url =>
      cases world.reaction with
      | noResponse reason => simp [Request.outcome]
      | broken report => simp [Request.outcome]
      | response status reason content =>
          by_cases success : status = 200 <;> simp [Request.outcome, success]

/-- The code of a run, step by step. -/
def code? (world : World) (options : Options) : Option Nat :=
  match world.source options with
  | .error failure => some failure.status.code
  | .ok raw =>
      match (Specification.ofBytes world.setOrder raw).outcome with
      | .error rejection =>
          if options.verbose && !rejection.isTellable then none
          else some (Failure.rejected rejection).status.code
      | .ok specification =>
          match (specification.output options.selection).outcome with
          | .error _ => some 3
          | .ok text =>
              match world.delivery options text with
              | .error fault => some (Failure.file fault).status.code
              | .ok () => some 0

end World

theorem code?_fail (exhausted : Text) (options : Options) (reports : Text) (failure : Failure) :
    (fail exhausted options reports failure).code? =
      if options.verbose && !failure.isTellable then none else some failure.status.code :=
  rfl

/-- A fault of a file has the code for other failures, unless the file is not found. -/
theorem code_file_of_ne_notFound {fault : FileFault}
    (found : ∀ text, fault ≠ .obstacle .notFound text) :
    (Failure.file fault).status.code = 3 := by
  cases fault with
  | obstacle kind text =>
      cases kind with
      | notFound => exact absurd rfl (found text)
      | _ => rfl
  | _ => rfl

theorem code?_deliver (origin world : World) (options : Options) (reports text : Text) :
    ((deliver origin.host options reports text).run world).1.code? =
      match world.delivery options text with
      | .error fault => some (Failure.file fault).status.code
      | .ok () => some 0 := by
  unfold World.delivery
  cases requested : options.output with
  | none =>
      rw [deliver_run_to_standardOutput requested]
      cases text.encode with
      | error fault => simp [code?_fail, Failure.isTellable]
      | ok bytes => rfl
  | some path =>
      obtain ⟨closing, delivered⟩ := deliver_run_to_file requested origin world reports text
      rw [delivered]
      cases written : (world.files.write path text).2 with
      | ok done => simp [written, Outcome.code?, Status.code]
      | error fault => simp [written, code?_fail, Failure.isTellable]

theorem generated_eq (world : World) (options : Options) {raw : Bytes}
    (obtained : world.source options = .ok raw) :
    world.generated options =
      match (Specification.ofBytes world.setOrder raw).outcome with
      | .error rejection => .error (.rejected rejection)
      | .ok specification =>
          match (specification.output options.selection).outcome with
          | .error fault => .error (.noType fault)
          | .ok text => .ok (specification.format, text) := by
  simp only [World.generated, obtained, generate, bind, Logged.bind, Logged.mapFault]
  cases (Specification.ofBytes world.setOrder raw).outcome with
  | error rejection => rfl
  | ok specification =>
      simp only [mapError_ok]
      cases (specification.output options.selection).outcome <;> rfl

/-- The transport fails, or the status of the answer is not the one that is wanted. -/
def Reaction.IsFailure : Reaction → Prop
  | .response status _ _ => status ≠ 200
  | .noResponse _ => True
  | .broken _ => False

/-- The octets are not obtained where a file cannot be read, the answer is not the one that is
wanted, or the request breaks off. -/
theorem source_eq_error_cases {world : World} {options : Options} {failure : Failure}
    (failed : world.source options = .error failure) :
    (∃ path fault, options.source = .file path ∧ world.files.read path = .error fault ∧
      failure = .file fault) ∨
    (∃ url fault, options.source = .url url ∧ Reaction.IsFailure world.reaction ∧
      failure = .request (.fetch fault)) ∨
    (∃ url report, options.source = .url url ∧ world.reaction = .broken report ∧
      failure = .request (.broken report)) := by
  unfold World.source at failed
  cases sourceEq : options.source with
  | input => simp [sourceEq] at failed
  | file path =>
      rw [sourceEq] at failed
      cases readEq : world.files.read path with
      | ok raw => simp [readEq] at failed
      | error fault =>
          obtain rfl : Failure.file fault = failure := by simpa [readEq] using failed
          exact .inl ⟨path, fault, rfl, readEq, rfl⟩
  | url url =>
      rw [sourceEq] at failed
      apply Or.inr
      cases reacted : world.reaction with
      | broken report =>
          rw [reacted] at failed
          exact .inr ⟨url, report, rfl, rfl, (Except.error.inj failed).symm⟩
      | noResponse reason =>
          rw [reacted] at failed
          exact .inl ⟨url, _, rfl, trivial, (Except.error.inj failed).symm⟩
      | response status reason content =>
          by_cases success : status = 200
          · simp [reacted, Request.outcome, success] at failed
          · simp only [reacted, Request.outcome, if_neg success] at failed
            exact .inl ⟨url, _, rfl, success, (Except.error.inj failed).symm⟩

/-- A fault while the octets are obtained is no mismatch of shapes. -/
theorem isTellable_of_source_eq_error {world : World} {options : Options} {failure : Failure}
    (failed : world.source options = .error failure) : failure.isTellable = true := by
  rcases source_eq_error_cases failed with
    ⟨path, fault, -, -, rfl⟩ | ⟨url, fault, -, -, rfl⟩ | ⟨url, report, -, -, rfl⟩
  · rfl
  · rfl
  · rfl

theorem code?_run {world : World} {arguments : List Text} {options : Options}
    (accepted : parse arguments = .ok options) :
    (world.run arguments).1.code? = world.code? options := by
  obtain ⟨reports, requests, runEq⟩ := run_eq_of_parse_eq_ok world accepted
  rw [runEq]
  unfold World.code?
  cases obtained : world.source options with
  | error failure =>
      have notGenerated : world.generated options = .error failure := by
        simp [World.generated, obtained]
      rw [notGenerated]
      simp [code?_fail, isTellable_of_source_eq_error obtained]
  | ok raw =>
      rw [generated_eq world options obtained]
      dsimp only
      cases (Specification.ofBytes world.setOrder raw).outcome with
      | error rejection => rfl
      | ok specification =>
          dsimp only
          cases (specification.output options.selection).outcome with
          | error fault => simp [code?_fail, Failure.isTellable, Failure.status, Status.code]
          | ok text => exact code?_deliver world { world with requests } options reports text

/-! ## The endings of runs -/

/-- Why the code of a run is what it is. -/
inductive World.Ending (world : World) (options : Options) : Option Nat → Prop
  | delivered {text : Text} (produced : world.Produces options text)
      (delivered : world.delivery options text = .ok ()) : Ending world options (some 0)
  | notFound {path : Path} {text : Text} (source : options.source = .file path)
      (missing : world.files.read path = .error (.obstacle .notFound text)) :
      Ending world options (some 1)
  | unread {path : Path} {fault : FileFault} (source : options.source = .file path)
      (failed : world.files.read path = .error fault)
      (found : ∀ text, fault ≠ .obstacle .notFound text) : Ending world options (some 3)
  | unanswered {url : Text} (source : options.source = .url url)
      (failed : Reaction.IsFailure world.reaction) : Ending world options (some 4)
  | brokenRequest {url report : Text} (source : options.source = .url url)
      (broke : world.reaction = .broken report) : Ending world options (some 3)
  | invalid {rejection : Rejection} (rejected : world.Rejects options rejection)
      (explained : rejection.isExplained = true)
      (told : options.verbose = true → rejection.isTellable = true) :
      Ending world options (some 2)
  | brokenOff {rejection : Rejection} (rejected : world.Rejects options rejection)
      (verbose : options.verbose = true) (untellable : rejection.isTellable = false) :
      Ending world options none
  | unreadable {rejection : Rejection} (rejected : world.Rejects options rejection)
      (unexplained : rejection.isExplained = false) : Ending world options (some 3)
  | untranslated {raw : Bytes} {specification : Specification}
      {fault : OpenApi.LoweringFault} (obtained : world.Obtains options raw)
      (read : (Specification.ofBytes world.setOrder raw).outcome = .ok specification)
      (failed : (specification.output options.selection).outcome = .error fault) :
      Ending world options (some 3)
  | nowhere {text name : Text} (produced : world.Produces options text)
      (missing : world.delivery options text = .error (.obstacle .notFound name)) :
      Ending world options (some 1)
  | undelivered {text : Text} {fault : FileFault} (produced : world.Produces options text)
      (failed : world.delivery options text = .error fault)
      (found : ∀ name, fault ≠ .obstacle .notFound name) : Ending world options (some 3)

/-- Rejections whose data cannot be shown tell what is wrong. -/
theorem isExplained_of_not_isTellable {rejection : Rejection}
    (untellable : rejection.isTellable = false) : rejection.isExplained = true := by
  cases rejection with
  | mismatch swagger openApi => rfl
  | _ => simp [Rejection.isTellable] at untellable

/-- There are such rejections: data of the shape of neither format may hold a number that is too
long to be written. -/
example :
    (match (Specification.ofData (.mapping [(.text "big", .integer (16 ^ 3600))])).outcome with
    | .error rejection => rejection.isTellable
    | .ok _ => true) = false := by
  decide +kernel

theorem World.ending_of_source_eq_error {world : World} {options : Options} {failure : Failure}
    (failed : world.source options = .error failure) :
    world.Ending options (some failure.status.code) := by
  rcases source_eq_error_cases failed with
    ⟨path, fault, source, unread, rfl⟩ | ⟨url, fault, source, failure, rfl⟩ |
      ⟨url, report, source, broke, rfl⟩
  · by_cases missing : ∃ text, fault = .obstacle .notFound text
    · obtain ⟨text, rfl⟩ := missing
      exact .notFound source unread
    · have found : ∀ text, fault ≠ .obstacle .notFound text :=
        fun text missingThere => missing ⟨text, missingThere⟩
      rw [code_file_of_ne_notFound found]
      exact .unread source unread found
  · exact .unanswered source failure
  · exact .brokenRequest source broke

/-- Only a file that is written may be missing at the end. -/
theorem World.write_of_delivery_not_found {world : World} {options : Options} {text name : Text}
    (missing : world.delivery options text = .error (.obstacle .notFound name)) :
    ∃ path, options.output = some path ∧
      (world.files.write path text).2 = .error (.obstacle .notFound name) := by
  unfold World.delivery at missing
  cases requested : options.output with
  | some path =>
      rw [requested] at missing
      exact ⟨path, rfl, missing⟩
  | none =>
      rw [requested] at missing
      cases encoded : text.encode <;> simp [encoded] at missing

theorem World.ending_of_delivery_eq_error {world : World} {options : Options} {text : Text}
    {fault : FileFault} (produced : world.Produces options text)
    (failed : world.delivery options text = .error fault) :
    world.Ending options (some (Failure.file fault).status.code) := by
  by_cases missing : ∃ name, fault = .obstacle .notFound name
  · obtain ⟨name, rfl⟩ := missing
    exact .nowhere produced failed
  · have found : ∀ name, fault ≠ .obstacle .notFound name :=
      fun name missingThere => missing ⟨name, missingThere⟩
    rw [code_file_of_ne_notFound found]
    exact .undelivered produced failed found

theorem World.ending_code? (world : World) (options : Options) :
    world.Ending options (world.code? options) := by
  unfold World.code?
  cases obtained : world.source options with
  | error failure => exact World.ending_of_source_eq_error obtained
  | ok raw =>
      have obtains := (world.source_eq_ok_iff options raw).mp obtained
      dsimp only
      cases reading : (Specification.ofBytes world.setOrder raw).outcome with
      | error rejection =>
          have rejects : world.Rejects options rejection := ⟨raw, obtains, reading⟩
          dsimp only
          split
          next broken =>
            simp only [Bool.and_eq_true, Bool.not_eq_true'] at broken
            exact .brokenOff rejects broken.1 broken.2
          next told =>
            simp only [Bool.and_eq_true, Bool.not_eq_true', not_and, Bool.not_eq_false] at told
            cases explained : rejection.isExplained with
            | true =>
                simpa [Failure.status, explained, Status.code] using
                  Ending.invalid rejects explained told
            | false =>
                simpa [Failure.status, explained, Status.code] using
                  Ending.unreadable rejects explained
      | ok specification =>
          dsimp only
          cases translation : (specification.output options.selection).outcome with
          | error fault => exact .untranslated obtains reading translation
          | ok text =>
              have produces : world.Produces options text :=
                ⟨raw, specification, obtains, reading, translation⟩
              dsimp only
              cases delivering : world.delivery options text with
              | error fault => exact World.ending_of_delivery_eq_error produces delivering
              | ok done => exact .delivered produces delivering

theorem World.code?_of_rejects {world : World} {options : Options} {rejection : Rejection}
    (rejected : world.Rejects options rejection) :
    world.code? options =
      if options.verbose && !rejection.isTellable then none
      else some (Failure.rejected rejection).status.code := by
  obtain ⟨raw, obtained, refused⟩ := rejected
  simp [World.code?, (world.source_eq_ok_iff options raw).mpr obtained, refused]

theorem World.code?_of_produces {world : World} {options : Options} {text : Text}
    (produced : world.Produces options text) :
    world.code? options =
      match world.delivery options text with
      | .error fault => some (Failure.file fault).status.code
      | .ok () => some 0 := by
  obtain ⟨raw, specification, obtained, read, translated⟩ := produced
  simp [World.code?, (world.source_eq_ok_iff options raw).mpr obtained, read, translated]

/-- A run has the code of its ending, and so one ending only. -/
theorem World.Ending.code?_eq {world : World} {options : Options} {code : Option Nat}
    (ending : world.Ending options code) : world.code? options = code := by
  cases ending with
  | delivered produced delivered => rw [World.code?_of_produces produced, delivered]
  | notFound source missing =>
      simp [World.code?, World.source, source, missing, Failure.status, Status.code]
  | unread source failed found =>
      simp [World.code?, World.source, source, failed, code_file_of_ne_notFound found]
  | unanswered source failed =>
      cases reacted : world.reaction with
      | broken report => simp [reacted, Reaction.IsFailure] at failed
      | noResponse reason =>
          simp [World.code?, World.source, source, reacted, Request.outcome, Failure.status,
            Status.code]
      | response status reason content =>
          have unsuccessful : status ≠ 200 := by
            rw [reacted] at failed
            exact failed
          simp [World.code?, World.source, source, reacted, Request.outcome, unsuccessful,
            Failure.status, Status.code]
  | brokenRequest source broke =>
      simp [World.code?, World.source, source, broke, Request.outcome, Failure.status, Status.code]
  | invalid rejected explained told =>
      rw [World.code?_of_rejects rejected, if_neg (by simpa using told)]
      simp [Failure.status, explained, Status.code]
  | brokenOff rejected verbose untellable =>
      rw [World.code?_of_rejects rejected, if_pos (by simp [verbose, untellable])]
  | @unreadable rejection rejected unexplained =>
      have tellable : rejection.isTellable = true := by
        cases shown : rejection.isTellable with
        | true => rfl
        | false => simp [isExplained_of_not_isTellable shown] at unexplained
      rw [World.code?_of_rejects rejected, if_neg (by simp [tellable])]
      simp [Failure.status, unexplained, Status.code]
  | @untranslated raw specification fault obtained read failed =>
      simp [World.code?, (world.source_eq_ok_iff options raw).mpr obtained, read, failed]
  | nowhere produced missing =>
      rw [World.code?_of_produces produced, missing]
      rfl
  | undelivered produced failed found =>
      rw [World.code?_of_produces produced, failed]
      exact congrArg some (code_file_of_ne_notFound found)

theorem code?_run_eq_iff {world : World} {arguments : List Text} {options : Options}
    (accepted : parse arguments = .ok options) (code : Option Nat) :
    (world.run arguments).1.code? = code ↔ world.Ending options code := by
  rw [code?_run accepted]
  constructor
  · rintro rfl
    exact world.ending_code? options
  · exact World.Ending.code?_eq

/-! ### One ending for each code -/

namespace World

variable {world : World} {options : Options}

theorem ending_zero_iff :
    world.Ending options (some 0) ↔
      ∃ text, world.Produces options text ∧ world.delivery options text = .ok () := by
  constructor
  · intro ending
    cases ending with
    | delivered produced delivered => exact ⟨_, produced, delivered⟩
  · rintro ⟨text, produced, delivered⟩
    exact .delivered produced delivered

theorem ending_one_iff :
    world.Ending options (some 1) ↔
      (∃ path name, options.source = .file path ∧
        world.files.read path = .error (.obstacle .notFound name)) ∨
      ∃ text path name, world.Produces options text ∧ options.output = some path ∧
        (world.files.write path text).2 = .error (.obstacle .notFound name) := by
  constructor
  · intro ending
    cases ending with
    | notFound source missing => exact .inl ⟨_, _, source, missing⟩
    | nowhere produced missing =>
        obtain ⟨path, requested, missing⟩ := write_of_delivery_not_found missing
        exact .inr ⟨_, path, _, produced, requested, missing⟩
  · rintro (⟨path, name, source, missing⟩ | ⟨text, path, name, produced, requested, missing⟩)
    · exact .notFound source missing
    · apply Ending.nowhere produced
      rw [delivery, requested]
      exact missing

theorem ending_two_iff :
    world.Ending options (some 2) ↔
      ∃ rejection, world.Rejects options rejection ∧ rejection.isExplained = true ∧
        (options.verbose = true → rejection.isTellable = true) := by
  constructor
  · intro ending
    cases ending with
    | invalid rejected explained told => exact ⟨_, rejected, explained, told⟩
  · rintro ⟨rejection, rejected, explained, told⟩
    exact .invalid rejected explained told

theorem ending_four_iff :
    world.Ending options (some 4) ↔
      ∃ url, options.source = .url url ∧
        ((∃ reason, world.reaction = .noResponse reason) ∨
          ∃ status reason content,
            world.reaction = .response status reason content ∧ status ≠ 200) := by
  constructor
  · intro ending
    cases ending with
    | unanswered source failed =>
        refine ⟨_, source, ?_⟩
        cases reacted : world.reaction with
        | noResponse reason => exact .inl ⟨reason, rfl⟩
        | broken report => simp [reacted, Reaction.IsFailure] at failed
        | response status reason content =>
            rw [reacted] at failed
            exact .inr ⟨status, reason, content, rfl, failed⟩
  · rintro ⟨url, source, ⟨reason, silent⟩ | ⟨status, reason, content, answered, unsuccessful⟩⟩
    · apply Ending.unanswered source
      rw [silent]
      exact trivial
    · apply Ending.unanswered source
      rw [answered]
      exact unsuccessful

theorem ending_none_iff :
    world.Ending options none ↔
      ∃ rejection, world.Rejects options rejection ∧ options.verbose = true ∧
        rejection.isTellable = false := by
  constructor
  · intro ending
    cases ending with
    | brokenOff rejected verbose untellable => exact ⟨_, rejected, verbose, untellable⟩
  · rintro ⟨rejection, rejected, verbose, untellable⟩
    exact .brokenOff rejected verbose untellable

theorem mem_codes_of_ending {code : Nat} (ending : world.Ending options (some code)) :
    code ∈ [0, 1, 2, 3, 4] := by
  cases ending <;> simp

end World

/-! ## What runs deliver -/

/-- What is there after a text has been delivered: its octets, on the standard output or in the
file that the path leads to, and no other change.  In the file they can be read, unless the system
does not let anybody read there. -/
def World.Delivers (world : World) (options : Options) (text : Text)
    (ended : Outcome × World) : Prop :=
  ∃ bytes, text.encode = .ok bytes ∧
    match options.output with
    | none => ended.1.standardOutput = bytes ∧ ended.2.files = world.files
    | some path =>
        ended.1.standardOutput = [] ∧
          ∃ place, ended.2.files.locate path = .ok place ∧
            (∀ other, ended.2.files.content? other =
              if other = place then some bytes else world.files.content? other) ∧
            (world.files.refuses .read place = none → ended.2.files.read path = .ok bytes)

theorem run_of_produces {world : World} {arguments : List Text} {options : Options} {text : Text}
    (accepted : parse arguments = .ok options) (produced : world.Produces options text) :
    ∃ reports requests, world.run arguments =
      (deliver world.host options reports text).run { world with requests } := by
  obtain ⟨raw, specification, obtained, read, translated⟩ := produced
  obtain ⟨reports, requests, runEq⟩ := run_eq_of_parse_eq_ok world accepted
  refine ⟨reports, requests, ?_⟩
  rw [runEq, generated_eq world options ((world.source_eq_ok_iff options raw).mpr obtained), read]
  dsimp only
  rw [translated]

theorem delivers_run {world : World} {arguments : List Text} {options : Options} {text : Text}
    (accepted : parse arguments = .ok options) (produced : world.Produces options text)
    (delivered : world.delivery options text = .ok ()) :
    world.Delivers options text (world.run arguments) := by
  obtain ⟨reports, requests, runEq⟩ := run_of_produces accepted produced
  unfold World.delivery at delivered
  unfold World.Delivers
  rw [runEq]
  cases requested : options.output with
  | none =>
      rw [requested] at delivered
      cases encoded : text.encode with
      | error fault => simp [encoded] at delivered
      | ok bytes =>
          rw [deliver_run_to_standardOutput requested, encoded]
          exact ⟨bytes, rfl, rfl, rfl⟩
  | some path =>
      rw [requested] at delivered
      dsimp only at delivered
      obtain ⟨closing, atEnd⟩ :=
        deliver_run_to_file requested world { world with requests } reports text
      rw [atEnd]
      dsimp only
      rw [delivered]
      obtain ⟨bytes, place, encoded, opened⟩ := Files.write_cases delivered
      have contents := Files.content?_write world.files path text
      refine ⟨bytes, encoded, rfl, place, (Files.locate_write text opened).1, fun other => ?_, ?_⟩
      · rw [contents other, opened, encoded]
        simp [Except.toOption, eq_comm]
      · exact Files.read_write opened encoded

/-! ## What the text depends on -/

theorem World.Obtains.unique {world : World} {options : Options} {raw other : Bytes}
    (first : world.Obtains options raw) (second : world.Obtains options other) : raw = other := by
  rw [← source_eq_ok_iff] at first second
  exact Except.ok.inj (first.symm.trans second)

theorem World.Produces.unique {world : World} {options : Options} {text other : Text}
    (first : world.Produces options text) (second : world.Produces options other) :
    text = other := by
  obtain ⟨raw, specification, obtained, read, translated⟩ := first
  obtain ⟨otherRaw, otherSpecification, otherObtained, otherRead, otherTranslated⟩ := second
  obtain rfl : raw = otherRaw := obtained.unique otherObtained
  obtain rfl := Except.ok.inj (read.symm.trans otherRead)
  exact Except.ok.inj (translated.symm.trans otherTranslated)

/-- The text of a module is the same for selections with the same set of excluded names. -/
theorem output_congr {specification : Specification} {selection other : Selection}
    (sameSkips : selection.skipsEmpty = other.skipsEmpty)
    (sameNames : ∀ name, name ∈ selection.excluded ↔ name ∈ other.excluded) :
    (specification.output selection).outcome = (specification.output other).outcome := by
  obtain ⟨skipsEmpty, excluded⟩ := selection
  obtain ⟨otherSkips, otherExcluded⟩ := other
  obtain rfl : skipsEmpty = otherSkips := sameSkips
  simp only [Specification.output, bind, Logged.bind]
  cases specification.declarations.outcome with
  | error fault => rfl
  | ok declarations =>
      dsimp only
      rw [Selection.kept_congr sameNames]
      rfl

theorem produces_congr {world other : World} {options others : Options} {raw : Bytes}
    (obtained : world.Obtains options raw) (otherObtained : other.Obtains others raw)
    (sameOrder : other.setOrder = world.setOrder ∨ ¬ raw.HoldsSet)
    (sameSkips : options.selection.skipsEmpty = others.selection.skipsEmpty)
    (sameNames : ∀ name,
      name ∈ options.selection.excluded ↔ name ∈ others.selection.excluded) {text : Text}
    (produced : world.Produces options text) : other.Produces others text := by
  obtain ⟨bytes, specification, source, read, translated⟩ := produced
  obtain rfl : raw = bytes := obtained.unique source
  have otherRead : (Specification.ofBytes other.setOrder raw).outcome = .ok specification := by
    rcases sameOrder with same | setless
    · rw [same, read]
    · exact Specification.ofBytes_of_not_holdsSet other.setOrder setless read
  refine ⟨raw, specification, otherObtained, otherRead, ?_⟩
  rw [← translated, output_congr sameSkips sameNames]

/-- The code of a run tells how it ends, and a run that ends well has delivered its text.  The code
for what is not found tells of the file that is read or of the one that is written, and the code for
invalid specifications is missing where a verbose run cannot show the data that is wrong.  The text
depends on the octets and the selection that is given, and not on where the octets come from, on the
order of the options, or on any other option; it depends on the order in which sets yield their
members where there is a set with several of them. -/
theorem code_and_effects_of_run {world : World} {arguments : List Text} {options : Options}
    (accepted : parse arguments = .ok options) :
    ((world.run arguments).1.code? = some 0 ↔
      ∃ text, world.Produces options text ∧ world.delivery options text = .ok ()) ∧
    (∀ text, world.Produces options text → world.delivery options text = .ok () →
      world.Delivers options text (world.run arguments)) ∧
    ((world.run arguments).1.code? = some 1 ↔
      (∃ path name, options.source = .file path ∧
        world.files.read path = .error (.obstacle .notFound name)) ∨
      ∃ text path name, world.Produces options text ∧ options.output = some path ∧
        (world.files.write path text).2 = .error (.obstacle .notFound name)) ∧
    ((world.run arguments).1.code? = some 4 ↔
      ∃ url, options.source = .url url ∧
        ((∃ reason, world.reaction = .noResponse reason) ∨
          ∃ status reason content,
            world.reaction = .response status reason content ∧ status ≠ 200)) ∧
    ((world.run arguments).1.code? = some 2 ↔
      ∃ rejection, world.Rejects options rejection ∧ rejection.isExplained = true ∧
        (options.verbose = true → rejection.isTellable = true)) ∧
    ((world.run arguments).1.code? = none ↔
      ∃ rejection, world.Rejects options rejection ∧ options.verbose = true ∧
        rejection.isTellable = false) ∧
    (∀ code, (world.run arguments).1.code? = some code → code ∈ [0, 1, 2, 3, 4]) ∧
    (∀ (other : World) (others : List Text) (otherOptions : Options) (raw : Bytes) (text : Text),
      parse others = .ok otherOptions →
      world.Obtains options raw → other.Obtains otherOptions raw →
      (other.setOrder = world.setOrder ∨ ¬ raw.HoldsSet) →
      ((∃ argument, Gives arguments .skipEmpty argument) ↔
        ∃ argument, Gives others .skipEmpty argument) →
      (∀ name, Gives arguments .skipName name ↔ Gives others .skipName name) →
      world.Produces options text →
        other.Produces otherOptions text ∧
          ∀ otherText, other.Produces otherOptions otherText → otherText = text) := by
  refine ⟨?_, fun text => delivers_run accepted, ?_, ?_, ?_, ?_, ?_, ?_⟩
  · rw [code?_run_eq_iff accepted, World.ending_zero_iff]
  · rw [code?_run_eq_iff accepted, World.ending_one_iff]
  · rw [code?_run_eq_iff accepted, World.ending_four_iff]
  · rw [code?_run_eq_iff accepted, World.ending_two_iff]
  · rw [code?_run_eq_iff accepted, World.ending_none_iff]
  · intro code ended
    exact World.mem_codes_of_ending ((code?_run_eq_iff accepted (some code)).mp ended)
  · intro other others otherOptions raw text otherAccepted obtained otherObtained sameOrder
      sameSkips sameNames produced
    obtain ⟨skips, names⟩ := selection_of_parse_eq_ok accepted
    obtain ⟨otherSkips, otherNames⟩ := selection_of_parse_eq_ok otherAccepted
    have skipsEq : options.selection.skipsEmpty = otherOptions.selection.skipsEmpty := by
      rw [Bool.eq_iff_iff, skips, otherSkips, sameSkips]
    have otherProduced : other.Produces otherOptions text :=
      produces_congr obtained otherObtained sameOrder skipsEq
        (fun name => by rw [names, otherNames, sameNames]) produced
    exact ⟨otherProduced, fun otherText alsoProduced => alsoProduced.unique otherProduced⟩

/-- A specification without named schemas that is to be written to a file. -/
def emptySpecification : World :=
  { files := { nodes := [] }
    standardInput := Text.encodeEscaped "swagger: '2.0'"
    reaction := .noResponse [] }

/-- The module for the specification is delivered, and the file that was asked for holds it. -/
theorem emptySpecification_is_delivered :
    ∃ (text : Text) (bytes : Bytes), text.encode = .ok bytes ∧
      (emptySpecification.run ["--stdin", "--write", "out.ts"]).1.standardOutput = [] ∧
      (emptySpecification.run ["--stdin", "--write", "out.ts"]).2.files.read
        (Path.ofText "out.ts") = .ok bytes := by
  have accepted : parse ["--stdin", "--write", "out.ts"] =
      .ok { source := .input, user := none, password := none
            output := some (Path.ofText "out.ts"), selection := {}, verbose := false } := by
    rfl
  have outcomes := @code_and_effects_of_run emptySpecification _ _ accepted
  obtain ⟨text, produced, delivered⟩ := outcomes.1.mp (by decide +kernel)
  obtain ⟨bytes, encoded, nothing, place, -, -, readBack⟩ := outcomes.2.1 text produced delivered
  exact ⟨text, bytes, encoded, nothing, readBack rfl⟩

end ApiTypes.CommandLine
