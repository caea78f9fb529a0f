import ApiTypes.Proofs.FileContents

/-!
# Written files

The names of a path are followed from directory to directory and through links.
More files do not turn a path aside as long as directories and links stay what
they are, so that a file that has been written is found under the path that it
was written to.
-/

namespace ApiTypes

/-- What may become of a node: a file may get another content. -/
inductive Node.Becomes : Node → Node → Prop
  | same (node : Node) : Becomes node node
  | file (content other : Bytes) : Becomes (.file content) (.file other)

theorem Node.Becomes.trans {node between other : Node} (becomes : node.Becomes between)
    (becomesFurther : between.Becomes other) : node.Becomes other := by
  cases becomes with
  | same => exact becomesFurther
  | file content =>
      cases becomesFurther with
      | same => exact .file ..
      | file => exact .file ..

namespace Files

/-- What is there stays there, but for the contents of files, and no links come to it. -/
structure Grows (files made : Files) : Prop where
  workingDirectory : made.workingDirectory = files.workingDirectory
  refuses : made.refuses = files.refuses
  node {place : Place} {node : Node} : files.node? place = some node →
    ∃ other, made.node? place = some other ∧ node.Becomes other
  link {place : Place} {link : Link} : made.node? place = some (.link link) →
    files.node? place = some (.link link)

namespace Grows

theorem refl (files : Files) : files.Grows files :=
  ⟨rfl, rfl, fun found => ⟨_, found, .same _⟩, id⟩

theorem trans {files between made : Files} (grows : files.Grows between)
    (growsFurther : between.Grows made) : files.Grows made where
  workingDirectory := growsFurther.workingDirectory.trans grows.workingDirectory
  refuses := growsFurther.refuses.trans grows.refuses
  node found := by
    obtain ⟨middle, foundMiddle, becomes⟩ := grows.node found
    obtain ⟨other, foundOther, becomesFurther⟩ := growsFurther.node foundMiddle
    exact ⟨other, foundOther, becomes.trans becomesFurther⟩
  link isLink := grows.link (growsFurther.link isLink)

theorem put {files : Files} {place : Place} {node : Node}
    (notDirectory : files.node? place ≠ some .directory)
    (notLink : ∀ link, node ≠ .link link)
    (becomes : ∀ old, files.node? place = some old → old.Becomes node) :
    files.Grows (files.put place node) where
  workingDirectory := rfl
  refuses := rfl
  node {other old} found := by
    rw [node?_put node notDirectory]
    by_cases same : other = place
    · subst other
      exact ⟨node, if_pos rfl, becomes old found⟩
    · exact ⟨old, by rw [if_neg same, found], .same old⟩
  link {other link} isLink := by
    rw [node?_put node notDirectory] at isLink
    split at isLink
    · exact absurd (Option.some.inj isLink) (notLink link)
    · exact isLink

theorem directory {files made : Files} (grows : files.Grows made) {place : Place}
    (isDirectory : files.node? place = some .directory) :
    made.node? place = some .directory := by
  obtain ⟨other, found, becomes⟩ := grows.node isDirectory
  cases becomes
  exact found

end Grows

theorem grows_put_directory {files : Files} {place : Place} (absent : files.node? place = none) :
    files.Grows (files.put place .directory) := by
  apply Grows.put
  · simp [absent]
  · exact fun _ => nofun
  · simp [absent]

/-! ## Following names -/

theorem directory_of_step {files : Files} {place next : Place} {name : Bytes}
    (stepped : files.step place name = .ok next) : files.node? place = some .directory := by
  unfold step at stepped
  split at stepped
  next isDirectory => exact isDirectory
  · cases stepped
  · cases stepped

theorem Grows.step {files made : Files} (grows : files.Grows made) {place next : Place}
    {name : Bytes} (stepped : files.step place name = .ok next) :
    made.step place name = .ok next := by
  have isDirectory := directory_of_step stepped
  unfold Files.step at stepped ⊢
  rw [isDirectory] at stepped
  rw [grows.directory isDirectory, grows.refuses]
  exact stepped

/-- There is a file or a directory at a place. -/
def IsFound (files : Files) (place : Place) : Prop :=
  ∃ node, files.node? place = some node ∧ ∀ link, node ≠ .link link

theorem walkFrom_cons (files : Files) (making : Bool)
    (through : Place → List Bytes → Except Obstacle Place) {place next : Place} {name : Bytes}
    (stepped : files.step place name = .ok next) (names : List Bytes) :
    files.walkFrom making through place (name :: names) =
      if making && names = [[]] then .error .isADirectory
      else
        match files.node? next with
        | some (.link link) =>
            through (if link.isAbsolute then [] else place) (link.steps ++ names)
        | some _ => files.walkFrom making through next names
        | none => if names.isEmpty then .ok next else .error .notFound := by
  rw [walkFrom, stepped]
  rfl

theorem exists_step_of_walkFrom {files : Files} {making : Bool}
    {through : Place → List Bytes → Except Obstacle Place} {place last : Place} {name : Bytes}
    {names : List Bytes} (walked : files.walkFrom making through place (name :: names) = .ok last) :
    ∃ next, files.step place name = .ok next := by
  cases stepped : files.step place name with
  | ok next => exact ⟨next, rfl⟩
  | error obstacle =>
      rw [walkFrom, stepped] at walked
      cases walked

/-- Names that have led to a place lead there still when something is there. -/
theorem Grows.walkFrom {files made : Files} (grows : files.Grows made) {making : Bool}
    {through furtherThrough : Place → List Bytes → Except Obstacle Place} {place last : Place}
    {names : List Bytes} (found : made.IsFound last)
    (passes : ∀ {place names}, through place names = .ok last →
      furtherThrough place names = .ok last)
    (walked : files.walkFrom making through place names = .ok last) :
    made.walkFrom false furtherThrough place names = .ok last := by
  induction names generalizing place with
  | nil => exact walked
  | cons name names induction =>
      obtain ⟨next, stepped⟩ := exists_step_of_walkFrom walked
      rw [walkFrom_cons _ _ _ stepped] at walked
      rw [walkFrom_cons _ _ _ (grows.step stepped), Bool.false_and, if_neg Bool.false_ne_true]
      split at walked
      · cases walked
      · split at walked
        next link isLink =>
          obtain ⟨other, isOther, becomes⟩ := grows.node isLink
          cases becomes
          rw [isOther]
          exact passes walked
        next node notLink isNode =>
          obtain ⟨other, isOther, becomes⟩ := grows.node isNode
          have otherNotLink : ∀ link, other ≠ .link link := by
            rintro link rfl
            cases becomes
            exact notLink link rfl
          rw [isOther]
          cases other with
          | link link => exact absurd rfl (otherNotLink link)
          | _ => exact induction walked
        next absent =>
          -- Nothing was there, so that no names are left, but something may have come since.
          split at walked
          next atEnd =>
            obtain rfl := Except.ok.inj walked
            obtain rfl := List.isEmpty_iff.mp atEnd
            obtain ⟨node, isNode, notLink⟩ := found
            rw [isNode]
            cases node with
            | link link => exact absurd rfl (notLink link)
            | _ => rfl
          · cases walked

theorem Grows.walk {files made : Files} (grows : files.Grows made) {making : Bool} {links : Nat}
    {place last : Place} {names : List Bytes} (found : made.IsFound last)
    (walked : files.walk making links place names = .ok last) :
    made.walk false links place names = .ok last := by
  induction links generalizing place names with
  | zero =>
      unfold Files.walk at walked ⊢
      apply grows.walkFrom found _ walked
      intro _ _ endless
      cases endless
  | succ links induction => exact grows.walkFrom found induction walked

theorem follow_eq_ok_iff {files : Files} {making : Bool} {path : Path} {place : Place} :
    files.follow making path = .ok place ↔
      isTooLong path = false ∧
        files.walk making mostLinks (files.start path) path.steps = .ok place := by
  unfold follow
  cases isTooLong path <;> simp

theorem start_eq_of_grows {files made : Files} (grows : files.Grows made) (path : Path) :
    made.start path = files.start path := by
  rw [start, start, grows.workingDirectory]

theorem Grows.follow {files made : Files} (grows : files.Grows made) {making : Bool} {path : Path}
    {place : Place} (found : made.IsFound place)
    (followed : files.follow making path = .ok place) :
    made.follow false path = .ok place := by
  obtain ⟨short, walked⟩ := follow_eq_ok_iff.mp followed
  apply follow_eq_ok_iff.mpr
  rw [start_eq_of_grows grows]
  exact ⟨short, grows.walk found walked⟩

/-! ## Links are followed -/

theorem not_link_of_walkFrom {files : Files} {making : Bool}
    {through : Place → List Bytes → Except Obstacle Place} {place last : Place}
    {names : List Bytes} (atStart : ∀ link, files.node? place ≠ some (.link link))
    (throughLinks : ∀ {place names}, (∀ link, files.node? place ≠ some (.link link)) →
      through place names = .ok last → ∀ link, files.node? last ≠ some (.link link))
    (walked : files.walkFrom making through place names = .ok last) :
    ∀ link, files.node? last ≠ some (.link link) := by
  induction names generalizing place with
  | nil =>
      obtain rfl := Except.ok.inj walked
      exact atStart
  | cons name names induction =>
      obtain ⟨next, stepped⟩ := exists_step_of_walkFrom walked
      rw [walkFrom_cons _ _ _ stepped] at walked
      split at walked
      · cases walked
      · split at walked
        next link _ =>
          apply throughLinks _ walked
          split
          · simp [node?]
          · exact atStart
        next node notLink isNode =>
          apply induction _ walked
          intro link isLink
          rw [isNode] at isLink
          exact notLink link (Option.some.inj isLink)
        next absent =>
          split at walked
          · obtain rfl := Except.ok.inj walked
            simp [absent]
          · cases walked

/-- Following a path does not end at a link. -/
theorem not_link_of_follow {files : Files} {making : Bool} {path : Path} {place : Place}
    (followed : files.follow making path = .ok place) :
    ∀ link, files.node? place ≠ some (.link link) := by
  have along (links : Nat) {first : Place} {names : List Bytes}
      (atStart : ∀ link, files.node? first ≠ some (.link link))
      (walked : files.walk making links first names = .ok place) :
      ∀ link, files.node? place ≠ some (.link link) := by
    -- What follows a link is walked with one link less to go.
    induction links generalizing first names with
    | zero =>
        unfold walk at walked
        apply not_link_of_walkFrom atStart _ walked
        intro _ _ _ endless
        cases endless
    | succ links induction => exact not_link_of_walkFrom atStart induction walked
  refine along mostLinks ?_ (follow_eq_ok_iff.mp followed).2
  unfold start
  split <;> simp [node?]

/-! ## What writing leaves -/

theorem grows_makeMissing {files made : Files} {path : Path}
    (success : files.makeMissing path = .ok made) : files.Grows made := by
  rcases makeMissing_cases success with rfl | ⟨place, absent, rfl⟩
  · exact .refl made
  · exact grows_put_directory absent

theorem grows_makeDirectories (files : Files) (root : Text) (names : List Text) :
    Ends (fun made => files.Grows made) (fun (left, _) => files.Grows left)
      (files.makeDirectories root names) :=
  keeps_makeDirectories Grows Grows.refl Grows.trans grows_makeMissing files root names

theorem grows_put_target {files : Files} {path : Path} {place : Place} (content : Bytes)
    (targeted : files.target path = .ok place) :
    files.Grows (files.put place (.file content)) := by
  obtain ⟨-, followed, unobstructed⟩ := target_cases targeted
  have notDirectory := not_directory_of_obstacle? unobstructed
  apply Grows.put notDirectory
  · exact fun _ => nofun
  · intro old present
    cases old with
    | file => exact .file ..
    | directory => exact absurd present notDirectory
    | link link => exact absurd present (not_link_of_follow followed link)

/-- A write that opens a file leaves the octets of its text at the place of the file. -/
theorem write_of_opened? {files : Files} {path : Path} (content : Text) {place : Place}
    (opened : files.opened? path = some place) :
    ∃ made : Files, made.target path = .ok place ∧
      (files.write path content).1 =
        made.put place (.file (content.encode.toOption.getD [])) := by
  unfold opened? at opened
  cases around : files.makeDirectories path.root path.parent.names.reverse with
  | error fault => simp [around] at opened
  | ok made =>
      rw [around] at opened
      have targeted := eq_ok_of_toOption_eq_some opened
      refine ⟨made, targeted, ?_⟩
      cases encoded : content.encode <;> simp [write, around, targeted, encoded, Except.toOption]

theorem grows_write (files : Files) (path : Path) (content : Text) :
    files.Grows (files.write path content).1 := by
  have grows := grows_makeDirectories files path.root path.parent.names.reverse
  unfold write
  cases around : files.makeDirectories path.root path.parent.names.reverse with
  | error fault =>
      rw [around] at grows
      exact grows
  | ok made =>
      rw [around] at grows
      dsimp only
      cases targeted : made.target path with
      | error fault => exact grows
      | ok place =>
          cases content.encode with
          | ok bytes => exact grows.trans (grows_put_target bytes targeted)
          | error fault => exact grows.trans (grows_put_target [] targeted)

theorem locate_eq_ok_iff {files : Files} {path : Path} {place : Place} :
    files.locate path = .ok place ↔
      files.follow false path = .ok place ∧ (files.node? place).isSome := by
  unfold locate
  cases files.follow false path with
  | error obstacle => simp [bind, Except.bind]
  | ok found =>
      simp only [bind, Except.bind, Except.ok.injEq]
      by_cases present : (files.node? found).isSome
      · rw [if_pos present]
        constructor
        · intro same
          obtain rfl := Except.ok.inj same
          exact ⟨rfl, present⟩
        · rintro ⟨rfl, -⟩
          rfl
      · rw [if_neg present]
        constructor
        · intro failed
          cases failed
        · rintro ⟨rfl, isPresent⟩
          exact absurd isPresent present

/-- A file that has been written is found under the path that it was written to. -/
theorem locate_write {files : Files} {path : Path} (content : Text) {place : Place}
    (opened : files.opened? path = some place) :
    (files.write path content).1.locate path = .ok place ∧
      (files.write path content).1.node? place =
        some (.file (content.encode.toOption.getD [])) := by
  obtain ⟨made, targeted, written⟩ := write_of_opened? content opened
  obtain ⟨-, followed, unobstructed⟩ := target_cases targeted
  rw [written]
  have isFile : (made.put place (.file (content.encode.toOption.getD []))).node? place =
      some (.file (content.encode.toOption.getD [])) := by
    rw [node?_put _ (not_directory_of_obstacle? unobstructed), if_pos rfl]
  have grows := grows_put_target (content.encode.toOption.getD []) targeted
  refine ⟨locate_eq_ok_iff.mpr ⟨?_, by rw [isFile]; rfl⟩, isFile⟩
  exact grows.follow ⟨_, isFile, fun _ => nofun⟩ followed

theorem read_of_locate {files : Files} {path : Path} {place : Place} {bytes : Bytes}
    (taken : ∃ octets, path.encode = .ok octets) (located : files.locate path = .ok place)
    (readable : files.refuses .read place = none)
    (content : files.content? place = some bytes) : files.read path = .ok bytes := by
  obtain ⟨octets, encoded⟩ := taken
  unfold content? at content
  unfold read
  simp only [encoded, located, readable]
  split at content
  next found =>
    rw [Option.some.inj content] at found
    simp only [found]
  next => cases content

/-- What has been written is read back, unless the system does not let anybody read there. -/
theorem read_write {files : Files} {path : Path} {content : Text} {bytes : Bytes} {place : Place}
    (opened : files.opened? path = some place) (encodes : content.encode = .ok bytes)
    (readable : files.refuses .read place = none) :
    (files.write path content).1.read path = .ok bytes := by
  obtain ⟨made, targeted, -⟩ := write_of_opened? content opened
  have located := (locate_write content opened).1
  apply read_of_locate (target_cases targeted).1 located
  · rw [(grows_write files path content).refuses, readable]
  · rw [content?_write, if_pos opened, encodes]
    rfl

/-- A text that has been written has octets, and a file for them. -/
theorem write_cases {files : Files} {path : Path} {content : Text}
    (success : (files.write path content).2 = .ok ()) :
    ∃ bytes place, content.encode = .ok bytes ∧ files.opened? path = some place := by
  unfold write at success
  unfold opened?
  cases around : files.makeDirectories path.root path.parent.names.reverse with
  | error fault => simp [around] at success
  | ok made =>
      simp only [around] at success ⊢
      cases targeted : made.target path with
      | error fault => simp [targeted] at success
      | ok place =>
          simp only [targeted] at success
          cases encoded : content.encode with
          | error fault => simp [encoded] at success
          | ok bytes => exact ⟨bytes, place, rfl, rfl⟩

end Files

end ApiTypes
