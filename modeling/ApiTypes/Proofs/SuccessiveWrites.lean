import ApiTypes.Proofs.WrittenFiles

/-!
# Successive writes

Texts are written one after another to a tree without links.  There a path names
one place, whatever is at it, and other paths may name the same one.  A write
either changes no file or puts the octets of its text into the file at this place.
What there is afterwards is never in the way of the paths that have been written to
before, so that they all lead to the last text at their place.
-/

namespace ApiTypes

/-! ## Paths with octets -/

namespace Text

theorem any_join {separator : Text} {holds : CodePoint → Bool}
    (notSeparator : separator.any holds = false) (parts : List Text) :
    (join separator parts).any holds = parts.any fun part => part.any holds := by
  induction parts with
  | nil => rfl
  | cons part parts induction =>
      cases parts with
      | nil => simp [join]
      | cons next parts => simp [join, notSeparator, induction]

/-- A code point that no name of a file has. -/
def isNameless : CodePoint → Bool
  | .scalar _ => false
  | .surrogate half => (escapedOctet? half).isNone

theorem exists_encodeNameFrom_eq_ok_iff (position : Nat) (text : Text) :
    (∃ octets, encodeNameFrom position text = .ok octets) ↔ text.any isNameless = false := by
  induction text generalizing position with
  | nil => simp [encodeNameFrom]
  | cons point rest induction =>
      have further := induction (position + 1)
      rw [List.any_cons, Bool.or_eq_false_iff, ← further]
      cases encoded : encodeNameFrom (position + 1) rest with
      | ok octets =>
          cases point with
          | scalar char =>
              simp [encodeNameFrom, encoded, isNameless, bind, Except.bind, pure, Except.pure]
          | surrogate half =>
              cases escaped : escapedOctet? half <;>
                simp [encodeNameFrom, encoded, isNameless, escaped, bind, Except.bind, pure,
                  Except.pure]
      | error fault =>
          cases point with
          | scalar char => simp [encodeNameFrom, encoded, bind, Except.bind]
          | surrogate half =>
              cases escaped : escapedOctet? half <;>
                simp [encodeNameFrom, encoded, escaped, bind, Except.bind]

end Text

namespace Path

theorem any_text {holds : CodePoint → Bool} (notDot : holds (.scalar '.') = false)
    (notSlash : holds (.scalar '/') = false) (path : Path) :
    path.text.any holds =
      (path.root.any holds || path.names.any fun name => name.any holds) := by
  have joined : (Text.join "/" path.names).any holds =
      path.names.any fun name => name.any holds := by
    apply Text.any_join
    rw [show Text.ofString "/" = [.scalar '/'] from rfl]
    simp [notSlash]
  unfold text
  split
  next empty =>
    simp only [Bool.and_eq_true, List.isEmpty_iff] at empty
    rw [empty.1, empty.2, show Text.ofString "." = [.scalar '.'] from rfl]
    simp [notDot]
  next => rw [List.any_append, joined]

/-- The system takes a path whose points may all stand in one. -/
theorem exists_encode_eq_ok_iff (path : Path) :
    (∃ octets, path.encode = .ok octets) ↔
      path.text.any Text.isNameless = false ∧ path.holdsNull = false := by
  rw [← Text.exists_encodeNameFrom_eq_ok_iff 0 path.text]
  unfold encode Text.encodeName
  cases Text.encodeNameFrom 0 path.text <;> cases path.holdsNull <;> simp

theorem any_parent {holds : CodePoint → Bool} (notDot : holds (.scalar '.') = false)
    (notSlash : holds (.scalar '/') = false) {path : Path}
    (without : path.text.any holds = false) : path.parent.text.any holds = false := by
  rw [any_text notDot notSlash, Bool.or_eq_false_iff] at without ⊢
  refine ⟨without.1, List.any_eq_false.mpr ?_⟩
  intro name member
  exact List.any_eq_false.mp without.2 name ((List.dropLast_sublist _).subset member)

/-- With a path the system takes those of the directories around it. -/
theorem exists_encode_parent {path : Path} (taken : ∃ octets, path.encode = .ok octets) :
    ∃ octets, path.parent.encode = .ok octets := by
  obtain ⟨named, noNull⟩ := (exists_encode_eq_ok_iff path).mp taken
  apply (exists_encode_eq_ok_iff path.parent).mpr
  exact ⟨any_parent rfl rfl named, any_parent (by decide) (by decide) noNull⟩

end Path

namespace Files

/-! ## Faults -/

/-- Making directories fails only because something is in the way. -/
theorem obstacle_of_makeDirectories (files : Files) (root : Text) (names : List Text)
    (taken : ∃ octets, Path.encode { root, names := names.reverse } = .ok octets) :
    Ends (fun _ => True) (fun (_, fault) => ∃ kind text, fault = .obstacle kind text)
      (files.makeDirectories root names) := by
  induction names with
  | nil => exact trivial
  | cons name names induction =>
      have aroundTaken : ∃ octets, Path.encode { root, names := names.reverse } = .ok octets := by
        simpa [Path.parent] using Path.exists_encode_parent taken
      obtain ⟨octets, encoded⟩ := taken
      unfold makeDirectories
      dsimp only
      rw [encoded]
      dsimp only
      split
      next => exact trivial
      next =>
        apply Ends.bind (induction aroundTaken)
        intro around _
        dsimp only
        split
        next => exact trivial
        next => exact ⟨_, _, rfl⟩
      next => exact ⟨_, _, rfl⟩

theorem obstacle_of_target {files : Files} {path : Path} {fault : FileFault}
    (taken : ∃ octets, path.encode = .ok octets) (failed : files.target path = .error fault) :
    ∃ kind text, fault = .obstacle kind text := by
  obtain ⟨octets, encoded⟩ := taken
  unfold target at failed
  rw [encoded] at failed
  dsimp only at failed
  split at failed
  · exact ⟨_, _, (Except.error.inj failed).symm⟩
  · split at failed
    · exact ⟨_, _, (Except.error.inj failed).symm⟩
    · cases failed

/-- Writing of a text with octets fails only because something is in the way. -/
theorem obstacle_of_write {files : Files} {path : Path} {text : Text} {bytes : Bytes}
    {fault : FileFault} (taken : ∃ octets, path.encode = .ok octets)
    (encodes : text.encode = .ok bytes) (failed : (files.write path text).2 = .error fault) :
    ∃ kind name, fault = .obstacle kind name := by
  have making := obstacle_of_makeDirectories files path.root path.parent.names.reverse
    (by rw [List.reverse_reverse]; exact Path.exists_encode_parent taken)
  unfold write at failed
  cases around : files.makeDirectories path.root path.parent.names.reverse with
  | error left =>
      rw [around] at making failed
      rw [← Except.error.inj failed]
      exact making
  | ok made =>
      rw [around] at failed
      dsimp only at failed
      cases targeted : made.target path with
      | error targetFault =>
          rw [targeted] at failed
          rw [← Except.error.inj failed]
          exact obstacle_of_target taken targeted
      | ok place => simp [targeted, encodes] at failed

/-! ## Places of paths -/

/-- There is no link at any place. -/
def HasNoLinks (files : Files) : Prop :=
  ∀ place link, files.node? place ≠ some (.link link)

theorem HasNoLinks.of_grows {files made : Files} (noLinks : files.HasNoLinks)
    (grows : files.Grows made) : made.HasNoLinks := by
  intro place link isLink
  exact noLinks place link (grows.link isLink)

/-- The place that a name leads to where there are no links, whatever there is. -/
def down (place : Place) (name : Bytes) : Place :=
  if name.isEmpty then place
  else if name = here then place
  else if name = above then place.dropLast
  else place ++ [name]

def placeFrom (place : Place) (names : List Bytes) : Place :=
  names.foldl down place

/-- The place that a path names where there are no links, whatever there is. -/
def placeOf (files : Files) (path : Path) : Place :=
  placeFrom (files.start path) path.steps

/-- A directory that is left need not be there. -/
example : placeOf { nodes := [], workingDirectory := [[104]] } (Path.ofText "./new/../a") =
    [[104], [97]] := by
  decide

theorem eq_down_of_step {files : Files} {place next : Place} {name : Bytes}
    (stepped : files.step place name = .ok next) : next = down place name := by
  have isDirectory := directory_of_step stepped
  unfold step at stepped
  unfold down
  rw [isDirectory] at stepped
  dsimp only at stepped
  split at stepped
  next empty => rw [if_pos empty, Except.ok.inj stepped]
  next notEmpty =>
    rw [if_neg notEmpty]
    split at stepped
    · cases stepped
    · split at stepped
      next isHere => rw [if_pos isHere, Except.ok.inj stepped]
      next notHere =>
        rw [if_neg notHere]
        split at stepped
        next isAbove => rw [if_pos isAbove, Except.ok.inj stepped]
        next notAbove =>
          rw [if_neg notAbove]
          split at stepped
          · cases stepped
          · exact (Except.ok.inj stepped).symm

/-- Without links names lead through directories to the place that they name. -/
theorem places_of_walkFrom {files : Files} (noLinks : files.HasNoLinks) {making : Bool}
    {through : Place → List Bytes → Except Obstacle Place} {place last : Place}
    {names : List Bytes} (walked : files.walkFrom making through place names = .ok last) :
    last = placeFrom place names ∧
      ∀ earlier name, earlier ++ [name] <+: names →
        files.node? (placeFrom place earlier) = some .directory := by
  induction names generalizing place with
  | nil =>
      refine ⟨(Except.ok.inj walked).symm, fun earlier name isPrefix => ?_⟩
      simp at isPrefix
  | cons first names induction =>
      obtain ⟨next, stepped⟩ := exists_step_of_walkFrom walked
      have nextEq := eq_down_of_step stepped
      have further : last = placeFrom next names ∧
          ∀ earlier name, earlier ++ [name] <+: names →
            files.node? (placeFrom next earlier) = some .directory := by
        rw [walkFrom_cons _ _ _ stepped] at walked
        split at walked
        · cases walked
        · split at walked
          next link isLink => exact absurd isLink (noLinks next link)
          next => exact induction walked
          next =>
            -- Where nothing is, the names have come to their end.
            split at walked
            next atEnd =>
              obtain rfl := List.isEmpty_iff.mp atEnd
              exact induction walked
            · cases walked
      obtain rfl := nextEq
      refine ⟨further.1, fun earlier name isPrefix => ?_⟩
      cases earlier with
      | nil => exact directory_of_step stepped
      | cons head earlier =>
          obtain ⟨rfl, isPrefixOfRest⟩ := List.cons_prefix_cons.mp isPrefix
          exact further.2 earlier name isPrefixOfRest

theorem places_of_locate {files : Files} (noLinks : files.HasNoLinks) {path : Path}
    {place : Place} (located : files.locate path = .ok place) :
    place = files.placeOf path ∧
      ∀ earlier name, earlier ++ [name] <+: path.steps →
        files.node? (placeFrom (files.start path) earlier) = some .directory :=
  places_of_walkFrom noLinks (follow_eq_ok_iff.mp (locate_eq_ok_iff.mp located).1).2

theorem placeOf_eq_of_grows {files made : Files} (grows : files.Grows made) (path : Path) :
    made.placeOf path = files.placeOf path := by
  rw [placeOf, placeOf, start_eq_of_grows grows]

/-! ## One write -/

/-- A text on its way to a path, with the files that there are before. -/
structure Attempt where
  before : Files
  path : Path
  text : Text

namespace Attempt

def after (attempt : Attempt) : Files :=
  (attempt.before.write attempt.path attempt.text).1

def outcome (attempt : Attempt) : Except FileFault Unit :=
  (attempt.before.write attempt.path attempt.text).2

def place (attempt : Attempt) : Place :=
  attempt.before.placeOf attempt.path

/-- What there is after a text has been written: all directories that its path leads through, and
the octets of the text in its file, while all other files hold what they held. -/
structure Succeeds (attempt : Attempt) (bytes : Bytes) : Prop where
  outcome : attempt.outcome = .ok ()
  directory {names : List Bytes} : names <+: attempt.path.steps → names ≠ attempt.path.steps →
    attempt.after.node? (placeFrom (attempt.after.start attempt.path) names) = some .directory
  content : attempt.after.content? attempt.place = some bytes
  /-- The octets are read back, unless the system does not let anybody read there. -/
  read : attempt.after.refuses .read attempt.place = none →
    attempt.after.read attempt.path = .ok bytes
  others {place : Place} : place ≠ attempt.place →
    attempt.after.content? place = attempt.before.content? place

/-- Something is in the way of a text, and no file changes. -/
structure Fails (attempt : Attempt) : Prop where
  outcome : ∃ kind text, attempt.outcome = .error (.obstacle kind text)
  contents : attempt.after.content? = attempt.before.content?

end Attempt

/-- The text goes to the place that the path names. -/
theorem opened?_eq_placeOf {files : Files} (noLinks : files.HasNoLinks) {path : Path}
    {place : Place} (opened : files.opened? path = some place) : place = files.placeOf path := by
  have grows := grows_write files path []
  have located := (locate_write [] opened).1
  rw [← placeOf_eq_of_grows grows]
  exact (places_of_locate (noLinks.of_grows grows) located).1

/-- The path of a text that has been written leads to the place that it names. -/
theorem Attempt.locate_after {attempt : Attempt} (noLinks : attempt.before.HasNoLinks)
    (written : attempt.outcome = .ok ()) :
    attempt.after.locate attempt.path = .ok attempt.place := by
  obtain ⟨bytes, place, -, opened⟩ := write_cases written
  rw [Attempt.place, ← opened?_eq_placeOf noLinks opened]
  exact (locate_write attempt.text opened).1

theorem Attempt.succeeds {attempt : Attempt} (noLinks : attempt.before.HasNoLinks)
    (written : attempt.outcome = .ok ()) :
    ∃ bytes, attempt.text.encode = .ok bytes ∧ attempt.Succeeds bytes := by
  obtain ⟨bytes, place, encodes, opened⟩ := write_cases written
  obtain rfl := opened?_eq_placeOf noLinks opened
  have contents := content?_write attempt.before attempt.path attempt.text
  refine ⟨bytes, encodes, ?_⟩
  constructor
  case outcome => exact written
  case directory =>
    rintro names ⟨rest, steps⟩ proper
    cases rest with
    | nil =>
        rw [List.append_nil] at steps
        exact absurd steps proper
    | cons name rest =>
        have noLinksAfter := noLinks.of_grows (grows_write attempt.before attempt.path attempt.text)
        apply (places_of_locate noLinksAfter (Attempt.locate_after noLinks written)).2 names name
        exact ⟨rest, by simpa using steps⟩
  case content =>
    rw [Attempt.after, contents, opened, Attempt.place, if_pos rfl, encodes]
    rfl
  case read =>
    intro readable
    rw [Attempt.after, (grows_write ..).refuses] at readable
    exact read_write opened encodes readable
  case others =>
    intro other differs
    rw [Attempt.after, contents, opened, if_neg]
    intro same
    exact differs (Option.some.inj same).symm

/-- No file is opened for a text with octets that is not written. -/
theorem Attempt.fails {attempt : Attempt} {fault : FileFault} {bytes : Bytes}
    (taken : ∃ octets, attempt.path.encode = .ok octets)
    (encodes : attempt.text.encode = .ok bytes) (failed : attempt.outcome = .error fault) :
    attempt.Fails := by
  constructor
  case outcome =>
    obtain ⟨kind, name, rfl⟩ := obstacle_of_write taken encodes failed
    exact ⟨kind, name, failed⟩
  case contents =>
    funext place
    rw [Attempt.after, content?_write, if_neg]
    intro opened
    obtain ⟨encodingFault, unencodable⟩ := encode_error_of_write_error opened failed
    rw [encodes] at unencodable
    cases unencodable

theorem Attempt.fails_or_succeeds {attempt : Attempt} (noLinks : attempt.before.HasNoLinks)
    (taken : ∃ octets, attempt.path.encode = .ok octets)
    (encodable : ∃ bytes, attempt.text.encode = .ok bytes) :
    attempt.Fails ∨ ∃ bytes, attempt.text.encode = .ok bytes ∧ attempt.Succeeds bytes := by
  cases ended : attempt.outcome with
  | ok done => exact .inr (Attempt.succeeds noLinks ended)
  | error fault =>
      obtain ⟨bytes, encodes⟩ := encodable
      exact .inl (Attempt.fails taken encodes ended)

/-! ## Writes one after another -/

/-- The files after texts have been written one after another. -/
def writeAll (files : Files) (texts : List (Path × Text)) : Files :=
  texts.foldl (fun before (path, text) => (before.write path text).1) files

/-- The attempts to write texts one after another. -/
def attempts (files : Files) : List (Path × Text) → List Attempt
  | [] => []
  | (path, text) :: texts =>
      let attempt : Attempt := { before := files, path, text }
      attempt :: attempts attempt.after texts

/-- The octets that an attempt puts into the file at a place. -/
def Attempt.puts? (attempt : Attempt) (place : Place) : Option Bytes :=
  match attempt.outcome with
  | .ok () => if attempt.place = place then attempt.text.encode.toOption else none
  | .error _ => none

/-- The octets of the texts that have been written to a place, in order. -/
def writtenAt (place : Place) (attempts : List Attempt) : List Bytes :=
  attempts.filterMap fun attempt => attempt.puts? place

theorem getLast?_writtenAt_cons (place : Place) (attempt : Attempt) (attempts : List Attempt) :
    (writtenAt place (attempt :: attempts)).getLast? =
      (writtenAt place attempts).getLast?.or (attempt.puts? place) := by
  unfold writtenAt
  rw [List.filterMap_cons]
  cases attempt.puts? place with
  | none => rw [Option.or_none]
  | some octets =>
      dsimp only
      rw [List.getLast?_cons]
      cases (attempts.filterMap fun attempt => attempt.puts? place).getLast? <;> rfl

theorem content?_after (attempt : Attempt) (noLinks : attempt.before.HasNoLinks)
    (taken : ∃ octets, attempt.path.encode = .ok octets)
    (encodable : ∃ bytes, attempt.text.encode = .ok bytes) (place : Place) :
    attempt.after.content? place =
      (attempt.puts? place).or (attempt.before.content? place) := by
  unfold Attempt.puts?
  rcases Attempt.fails_or_succeeds noLinks taken encodable with fails | ⟨bytes, encodes, succeeds⟩
  · obtain ⟨kind, text, failed⟩ := fails.outcome
    rw [failed, fails.contents]
    rfl
  · rw [succeeds.outcome]
    by_cases same : attempt.place = place
    · simp [← same, succeeds.content, encodes, Except.toOption]
    · simp [same, succeeds.others (Ne.symm same)]

/-- A file holds the last text that has been written to its place, or still its own. -/
theorem content?_writeAll {files : Files} (noLinks : files.HasNoLinks)
    {texts : List (Path × Text)}
    (taken : ∀ path text, (path, text) ∈ texts → ∃ octets, path.encode = .ok octets)
    (encodable : ∀ path text, (path, text) ∈ texts → ∃ bytes, text.encode = .ok bytes)
    (place : Place) :
    (files.writeAll texts).content? place =
      (writtenAt place (files.attempts texts)).getLast?.or (files.content? place) := by
  induction texts generalizing files with
  | nil => rfl
  | cons first texts induction =>
      obtain ⟨path, text⟩ := first
      let attempt : Attempt := { before := files, path, text }
      have further := induction (noLinks.of_grows (grows_write files path text))
        (fun path text member => taken path text (List.mem_cons_of_mem _ member))
        (fun path text member => encodable path text (List.mem_cons_of_mem _ member))
      have first := content?_after attempt noLinks
        (taken path text List.mem_cons_self) (encodable path text List.mem_cons_self) place
      calc
        (files.writeAll ((path, text) :: texts)).content? place =
            (writtenAt place (attempt.after.attempts texts)).getLast?.or
              (attempt.after.content? place) := further
        _ = (writtenAt place (attempt.after.attempts texts)).getLast?.or
              ((attempt.puts? place).or (files.content? place)) := by rw [first]
        _ = (writtenAt place (files.attempts ((path, text) :: texts))).getLast?.or
              (files.content? place) := by
          rw [← Option.or_assoc, ← getLast?_writtenAt_cons]
          rfl

theorem grows_writeAll (files : Files) (texts : List (Path × Text)) :
    files.Grows (files.writeAll texts) := by
  induction texts generalizing files with
  | nil => exact .refl files
  | cons first texts induction => exact (grows_write files first.1 first.2).trans (induction _)

/-- An attempt is made at a text of the list, between what there is before and at the end. -/
theorem mem_attempts {files : Files} {texts : List (Path × Text)} {attempt : Attempt}
    (member : attempt ∈ files.attempts texts) :
    (attempt.path, attempt.text) ∈ texts ∧ files.Grows attempt.before ∧
      attempt.after.Grows (files.writeAll texts) := by
  induction texts generalizing files with
  | nil => cases member
  | cons first texts induction =>
      obtain ⟨path, text⟩ := first
      rcases List.mem_cons.mp member with rfl | later
      · exact ⟨List.mem_cons_self, .refl files, grows_writeAll _ texts⟩
      · obtain ⟨inRest, grows, growsFurther⟩ := induction later
        exact ⟨List.mem_cons_of_mem _ inRest, (grows_write files path text).trans grows,
          growsFurther⟩

theorem Grows.locate {files made : Files} (grows : files.Grows made) {path : Path}
    {place : Place} (noLinks : made.HasNoLinks) (located : files.locate path = .ok place) :
    made.locate path = .ok place := by
  obtain ⟨followed, present⟩ := locate_eq_ok_iff.mp located
  obtain ⟨node, isNode⟩ := Option.isSome_iff_exists.mp present
  obtain ⟨other, isOther, -⟩ := grows.node isNode
  apply locate_eq_ok_iff.mpr
  constructor
  · apply grows.follow _ followed
    refine ⟨other, isOther, ?_⟩
    rintro link rfl
    exact noLinks place link isOther
  · rw [isOther]
    rfl

/-- A text that has been written is the last one at its place, or another one came after it. -/
theorem exists_last_writtenAt {attempt : Attempt} {attempts : List Attempt}
    (member : attempt ∈ attempts) (written : attempt.outcome = .ok ()) {bytes : Bytes}
    (encodes : attempt.text.encode = .ok bytes) :
    ∃ last, (writtenAt attempt.place attempts).getLast? = some last := by
  apply Option.isSome_iff_exists.mp
  apply List.getLast?_isSome.mpr
  apply List.ne_nil_of_mem (a := bytes)
  apply List.mem_filterMap.mpr
  refine ⟨attempt, member, ?_⟩
  simp [Attempt.puts?, written, encodes, Except.toOption]

/-- In a tree without links, where the paths hold no null and name something, a text is written to
one place or changes nothing.  After any number of texts every place holds the last one that has
been written to it, under all paths by which texts have been written there. -/
theorem writes_change_one_file_or_none {files : Files} (noLinks : files.HasNoLinks)
    {texts : List (Path × Text)}
    (encodable : ∀ path text, (path, text) ∈ texts → ∃ bytes, text.encode = .ok bytes)
    (noNull : ∀ path text, (path, text) ∈ texts → path.holdsNull = false)
    (inside : ∀ path text, (path, text) ∈ texts → ∃ octets, path.text.encodeName = .ok octets) :
    (∀ attempt ∈ files.attempts texts,
      attempt.Fails ∨
        ∃ bytes, attempt.text.encode = .ok bytes ∧ attempt.Succeeds bytes) ∧
      (∀ place, (files.writeAll texts).content? place =
        (writtenAt place (files.attempts texts)).getLast?.or (files.content? place)) ∧
      ∀ attempt ∈ files.attempts texts, attempt.outcome = .ok () →
        ∃ bytes,
          (writtenAt (files.placeOf attempt.path) (files.attempts texts)).getLast? = some bytes ∧
            (files.refuses .read (files.placeOf attempt.path) = none →
              (files.writeAll texts).read attempt.path = .ok bytes) := by
  have taken : ∀ path text, (path, text) ∈ texts → ∃ octets, path.encode = .ok octets := by
    intro path text member
    obtain ⟨octets, encoded⟩ := inside path text member
    refine ⟨octets, ?_⟩
    simp [Path.encode, encoded, noNull path text member]
  have contents := content?_writeAll noLinks taken encodable
  have each : ∀ attempt ∈ files.attempts texts,
      attempt.Fails ∨ ∃ bytes, attempt.text.encode = .ok bytes ∧ attempt.Succeeds bytes := by
    intro attempt member
    obtain ⟨given, grows, -⟩ := mem_attempts member
    exact Attempt.fails_or_succeeds (noLinks.of_grows grows) (taken _ _ given) (encodable _ _ given)
  refine ⟨each, contents, ?_⟩
  intro attempt member written
  obtain ⟨given, grows, growsFurther⟩ := mem_attempts member
  obtain ⟨bytes, encodes⟩ := encodable _ _ given
  have samePlace : attempt.place = files.placeOf attempt.path :=
    placeOf_eq_of_grows grows attempt.path
  obtain ⟨last, isLast⟩ := exists_last_writtenAt member written encodes
  rw [samePlace] at isLast
  refine ⟨last, isLast, fun readable => ?_⟩
  have located := Attempt.locate_after (noLinks.of_grows grows) written
  rw [samePlace] at located
  have growsToLast := grows_writeAll files texts
  apply read_of_locate (taken _ _ given)
  · exact growsFurther.locate (noLinks.of_grows growsToLast) located
  · rw [growsToLast.refuses, readable]
  · rw [contents, isLast, Option.some_or]

/-- A tree with nothing below the working directory. -/
def emptyWorkshop : Files :=
  { nodes := [], workingDirectory := [Path.nameOctets "home", Path.nameOctets "work"] }

/-- A text, and then a shorter one for the same file under another path. -/
def twoSpellings : List (Path × Text) :=
  [(Path.ofText "/home/work/out/types.ts", "export type Pet = string;"),
    (Path.ofText "new/../out/./types.ts", "export")]

/-- Both texts are written, and both paths lead to the second one. -/
theorem twoSpellings_lead_to_last_text :
    (∀ attempt ∈ emptyWorkshop.attempts twoSpellings, attempt.outcome = .ok ()) ∧
      ∀ attempt ∈ emptyWorkshop.attempts twoSpellings,
        (emptyWorkshop.writeAll twoSpellings).read attempt.path =
          .ok [101, 120, 112, 111, 114, 116] := by
  have noLinks : emptyWorkshop.HasNoLinks := by
    intro place link
    unfold node?
    split <;> simp [emptyWorkshop]
  have encodable : ∀ path text, (path, text) ∈ twoSpellings →
      ∃ bytes, text.encode = .ok bytes := by
    simp only [twoSpellings, List.mem_cons, Prod.mk.injEq, List.not_mem_nil, or_false]
    rintro path text (⟨-, rfl⟩ | ⟨-, rfl⟩)
    · exact ⟨_, rfl⟩
    · exact ⟨_, rfl⟩
  have noNull : ∀ path text, (path, text) ∈ twoSpellings → path.holdsNull = false := by
    simp only [twoSpellings, List.mem_cons, Prod.mk.injEq, List.not_mem_nil, or_false]
    rintro path text (⟨rfl, -⟩ | ⟨rfl, -⟩) <;> decide
  have inside : ∀ path text, (path, text) ∈ twoSpellings →
      ∃ octets, path.text.encodeName = .ok octets := by
    simp only [twoSpellings, List.mem_cons, Prod.mk.injEq, List.not_mem_nil, or_false]
    rintro path text (⟨rfl, -⟩ | ⟨rfl, -⟩)
    · exact ⟨_, rfl⟩
    · exact ⟨_, rfl⟩
  have written : ∀ attempt ∈ emptyWorkshop.attempts twoSpellings, attempt.outcome = .ok () := by
    have areOk : ∀ attempt ∈ emptyWorkshop.attempts twoSpellings,
        attempt.outcome.isOk = true := by
      decide +kernel
    intro attempt member
    have isOk := areOk attempt member
    cases outcome : attempt.outcome with
    | ok done => rfl
    | error fault =>
        rw [outcome] at isOk
        cases isOk
  have last : ∀ attempt ∈ emptyWorkshop.attempts twoSpellings,
      (writtenAt (emptyWorkshop.placeOf attempt.path)
        (emptyWorkshop.attempts twoSpellings)).getLast? =
          some [101, 120, 112, 111, 114, 116] := by
    decide +kernel
  have outcomes := writes_change_one_file_or_none noLinks encodable noNull inside
  refine ⟨written, fun attempt member => ?_⟩
  obtain ⟨bytes, isLast, readBack⟩ := outcomes.2.2 attempt member (written attempt member)
  rw [last attempt member] at isLast
  rw [Option.some.inj isLast]
  exact readBack rfl

end Files

end ApiTypes
