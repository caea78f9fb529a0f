import ApiTypes.CommandLine.Run
import ApiTypes.Proofs.FileContents

/-!
# Effects of runs

A run first obtains and generates, which changes no file, and then delivers.  A
run that fails writes nothing to the standard output, and the only file it may
change is the one it was to write, which is empty afterwards if the text of the
module has no octets.
-/

namespace ApiTypes.CommandLine

@[simp] theorem mapError_ok (relabel : ε → φ) (value : α) :
    (Except.ok value).mapError relabel = .ok value :=
  rfl

@[simp] theorem mapError_error (relabel : ε → φ) (fault : ε) :
    (Except.error fault : Except ε α).mapError relabel = .error (relabel fault) :=
  rfl

namespace World

/-- The octets of the specification that a run reads in a world. -/
def source (world : World) (options : Options) : Except Failure Bytes :=
  match options.source with
  | .file path => (world.files.read path).mapError .file
  | .url url =>
      ((Request.make url options.user options.password).outcome world.reaction).mapError .request
  | .input => .ok world.standardInput

/-- The module that a run is to deliver in a world, with the format of the specification. -/
def generated (world : World) (options : Options) : Except Failure (Format × Text) :=
  match world.source options with
  | .error failure => .error failure
  | .ok raw => (generate world.setOrder options.selection raw).outcome

/-- The file that delivery opens although the text has no octets. -/
def openedInVain? (world : World) (options : Options) (text : Text) : Option Files.Place :=
  match text.encode with
  | .ok _ => none
  | .error _ => options.output.bind world.files.opened?

/-- The file that a run opens although the module it has generated has no octets. -/
def emptied? (world : World) (options : Options) : Option Files.Place :=
  match world.generated options with
  | .error _ => none
  | .ok (_, text) => world.openedInVain? options text

end World

/-- Obtaining a specification changes nothing but the requests that have been made. -/
theorem obtain_run (world : World) (options : Options) :
    ∃ events requests, (obtain world.host options).run world =
      ({ events, outcome := world.source options }, { world with requests }) := by
  unfold obtain World.source
  cases options.source with
  | file path => exact ⟨[], world.requests, rfl⟩
  | url url => exact ⟨_, _, rfl⟩
  | input => exact ⟨[], world.requests, rfl⟩

/-- A run delivers what it has generated, or reports why there is nothing to deliver. -/
theorem run_eq_of_parse_eq_ok (world : World) {arguments : List Text} {options : Options}
    (accepted : parse arguments = .ok options) :
    ∃ reports requests, world.run arguments =
      match world.generated options with
      | .error failure =>
          (fail world.exhausted options reports failure, { world with requests })
      | .ok (_, text) =>
          (deliver world.host options reports text).run { world with requests } := by
  obtain ⟨events, requests, obtained⟩ := obtain_run world options
  have executed : world.run arguments = (execute world.host options).run world := by
    simp [World.run, run, accepted]
  rw [executed, execute, StateT.run_bind, obtained]
  dsimp only [bind, World.generated, World.host_setOrder, World.host_exhausted]
  cases world.source options with
  | error failure => exact ⟨_, requests, rfl⟩
  | ok raw =>
      dsimp only
      cases (generate world.setOrder options.selection raw).outcome with
      | error failure => exact ⟨_, requests, rfl⟩
      | ok produced => exact ⟨_, requests, rfl⟩

/-- Delivery to a file that fails leaves the files as the write does. -/
theorem deliver_run_to_file {options : Options} {path : Path}
    (requested : options.output = some path) (origin world : World) (reports text : Text) :
    ∃ closing, (deliver origin.host options reports text).run world =
      (match (world.files.write path text).2 with
        | .error fault => fail origin.exhausted options reports (.file fault)
        | .ok () => { status := .success, standardOutput := [], standardError := closing },
      { world with files := (world.files.write path text).1 }) := by
  unfold deliver
  rw [requested]
  dsimp only
  rw [StateT.run_bind]
  have written : (origin.host.write path text).run world =
      ((world.files.write path text).2,
        { world with files := (world.files.write path text).1 }) := rfl
  rw [written]
  dsimp only [bind]
  cases (world.files.write path text).2 with
  | error fault => exact ⟨[], rfl⟩
  | ok done => exact ⟨_, rfl⟩

theorem deliver_run_to_standardOutput {options : Options} (unrequested : options.output = none)
    (origin world : World) (reports text : Text) :
    (deliver origin.host options reports text).run world =
      (match text.encode with
        | .error fault => fail origin.exhausted options reports (.file (.unencodable fault))
        | .ok bytes =>
            { status := .success, standardOutput := bytes
              standardError := reports.encodeEscaped },
      world) := by
  unfold deliver
  rw [unrequested]
  dsimp only
  cases text.encode <;> rfl

/-- A failing delivery writes nothing to the standard output, and empties a file that it opens. -/
theorem failing_delivery {options : Options} {origin world : World} {reports text : Text}
    (failed : ((deliver origin.host options reports text).run world).1.status.code ≠ 0) :
    ((deliver origin.host options reports text).run world).1.standardOutput = [] ∧
      ∀ place, ((deliver origin.host options reports text).run world).2.files.content? place =
        if world.openedInVain? options text = some place then some []
        else world.files.content? place := by
  cases requested : options.output with
  | none =>
      rw [deliver_run_to_standardOutput requested] at failed ⊢
      cases encoded : text.encode with
      | error fault => simp [fail, World.openedInVain?, encoded, requested]
      | ok bytes => simp [encoded, Status.code] at failed
  | some path =>
      obtain ⟨closing, delivered⟩ := deliver_run_to_file requested origin world reports text
      rw [delivered] at failed ⊢
      cases written : (world.files.write path text).2 with
      | ok done => simp [written, Status.code] at failed
      | error fault =>
          refine ⟨rfl, fun place => ?_⟩
          rw [Files.content?_write]
          cases encoded : text.encode with
          | error encodingFault =>
              simp [World.openedInVain?, encoded, requested, Except.toOption]
          | ok bytes =>
              have unopened : world.files.opened? path ≠ some place := by
                intro opened
                obtain ⟨encodingFault, unencodable⟩ :=
                  Files.encode_error_of_write_error opened written
                simp [encoded] at unencodable
              simp [World.openedInVain?, encoded, unopened]

/-- A run that fails writes nothing to the standard output, and changes no file but the one that
it has opened to write a module without octets, which is empty afterwards.  It leaves all files as
they were exactly if there is no such file or that file has been empty before. -/
theorem failing_run_changes_only_emptied {world : World} {arguments : List Text}
    {options : Options} (accepted : parse arguments = .ok options)
    (failed : (world.run arguments).1.status.code ≠ 0) :
    (world.run arguments).1.standardOutput = [] ∧
    (∀ place, (world.run arguments).2.files.content? place =
      if world.emptied? options = some place then some [] else world.files.content? place) ∧
    ((∀ place, (world.run arguments).2.files.content? place = world.files.content? place) ↔
      ∀ place, world.emptied? options = some place → world.files.content? place = some []) := by
  have effects : (world.run arguments).1.standardOutput = [] ∧
      ∀ place, (world.run arguments).2.files.content? place =
        if world.emptied? options = some place then some []
        else world.files.content? place := by
    obtain ⟨reports, requests, ended⟩ := run_eq_of_parse_eq_ok world accepted
    rw [ended] at failed ⊢
    unfold World.emptied?
    cases produced : world.generated options with
    | error failure => simp [fail]
    | ok module =>
        rw [produced] at failed
        exact failing_delivery failed
  refine ⟨effects.1, effects.2, ?_⟩
  constructor
  · intro unchanged place emptied
    rw [← unchanged place, effects.2 place, if_pos emptied]
  · intro emptyBefore place
    rw [effects.2 place]
    split
    next emptied => exact (emptyBefore place emptied).symm
    next => rfl

/-- A file to be written, and a specification with one half of a surrogate pair as a name. -/
def loneSurrogateWorld : World :=
  { files := { nodes := [([Path.nameOctets "out.ts"], .file [111, 108, 100])] }
    standardInput :=
      Text.encodeEscaped
        "\x7b\"swagger\":\"2.0\",\"definitions\":\x7b\"\\ud800\":\x7b\x7d\x7d\x7d"
    reaction := .noResponse [] }

/-- The module for a lone surrogate has no octets, and the file it was meant for loses its own. -/
theorem failing_run_empties_file :
    ∃ options, parse ["--stdin", "--write", "out.ts"] = .ok options ∧
      (loneSurrogateWorld.run ["--stdin", "--write", "out.ts"]).1.status.code ≠ 0 ∧
      loneSurrogateWorld.files.content? [Path.nameOctets "out.ts"] = some [111, 108, 100] ∧
      (loneSurrogateWorld.run ["--stdin", "--write", "out.ts"]).2.files.content?
        [Path.nameOctets "out.ts"] = some [] := by
  have failed :
      (loneSurrogateWorld.run ["--stdin", "--write", "out.ts"]).1.status.code ≠ 0 := by
    decide +kernel
  have accepted : parse ["--stdin", "--write", "out.ts"] =
      .ok
        { source := .input, user := none, password := none
          output := some (Path.ofText "out.ts"), selection := {}, verbose := false } := by
    rfl
  have emptied :=
    (failing_run_changes_only_emptied accepted failed).2.1 [Path.nameOctets "out.ts"]
  refine ⟨_, accepted, failed, by decide, ?_⟩
  rw [emptied, if_pos (by decide +kernel)]

end ApiTypes.CommandLine
