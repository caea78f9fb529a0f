import ApiTypes.Files
import ApiTypes.Proofs.Outcomes

/-!
# Contents of files

What an operation on files does to them is told by the content at every place.
Making directories changes no content, and writing changes the content of at most
one file, the one that it opens.
-/

namespace ApiTypes.Files

/-- The content of the file at a place, if there is one. -/
def content? (files : Files) (place : Place) : Option Bytes :=
  match files.node? place with
  | some (.file content) => some content
  | _ => none

/-- The place of the file that writing to a path opens, if it opens one. -/
def opened? (files : Files) (path : Path) : Option Place :=
  match files.makeDirectories path.root path.parent.names.reverse with
  | .error _ => none
  | .ok made => (made.target path).toOption

/-! ## Putting nodes -/

theorem lookup_putNode (nodes : List (Place × Node)) (place other : Place) (node : Node) :
    (putNode place node nodes).lookup other =
      if other = place then some node else nodes.lookup other := by
  induction nodes with
  | nil =>
      by_cases same : other = place
      · simp [putNode, same]
      · simp [putNode, List.lookup_cons, beq_false_of_ne same, same]
  | cons entry nodes induction =>
      obtain ⟨present, old⟩ := entry
      by_cases atEntry : present = place
      · subst place
        by_cases same : other = present
        · simp [putNode, same]
        · simp [putNode, List.lookup_cons, beq_false_of_ne same, same]
      · by_cases same : other = present
        · subst other
          simp [putNode, atEntry]
        · simp [putNode, atEntry, List.lookup_cons, beq_false_of_ne same, induction]

/-- Where there is no directory, the working directory is not, nor one around it. -/
theorem not_around_of_not_directory {files : Files} {place : Place}
    (notDirectory : files.node? place ≠ some .directory) : ¬ place <+: files.workingDirectory := by
  intro around
  apply notDirectory
  rw [node?, if_pos around]

theorem node?_put {files : Files} {place : Place} (node : Node)
    (notDirectory : files.node? place ≠ some .directory) (other : Place) :
    (files.put place node).node? other =
      if other = place then some node else files.node? other := by
  have apart := not_around_of_not_directory notDirectory
  by_cases around : other <+: files.workingDirectory
  · have differs : other ≠ place := by
      rintro rfl
      exact apart around
    simp [node?, put, around, differs]
  · simp [node?, put, around, lookup_putNode]

theorem content?_put_directory {files : Files} {place : Place}
    (absent : files.node? place = none) :
    (files.put place .directory).content? = files.content? := by
  funext other
  by_cases same : other = place
  · subst other
    simp [content?, node?_put, absent]
  · simp [content?, node?_put, absent, same]

theorem content?_put_file {files : Files} {place : Place} (content : Bytes)
    (notDirectory : files.node? place ≠ some .directory) (other : Place) :
    (files.put place (.file content)).content? other =
      if other = place then some content else files.content? other := by
  by_cases same : other = place <;> simp [content?, node?_put _ notDirectory, same]

/-! ## Making directories -/

/-- A directory is made where there is nothing. -/
theorem makeDirectory_cases {files made : Files} {path : Path}
    (success : files.makeDirectory path = .ok made) :
    ∃ place, files.node? place = none ∧ made = files.put place .directory := by
  unfold makeDirectory at success
  split at success
  · cases success
  · split at success
    · cases success
    next name _ =>
      cases walked : files.walk false mostLinks (files.start path) path.steps.dropLast with
      | error obstacle => simp [walked, bind, Except.bind] at success
      | ok around =>
          cases stepped : files.step around name with
          | error obstacle => simp [walked, stepped, bind, Except.bind] at success
          | ok place =>
              simp only [walked, stepped, bind, Except.bind] at success
              split at success
              · cases success
              next absent =>
                split at success
                · cases success
                · exact ⟨place, by simpa using absent, (Except.ok.inj success).symm⟩

/-- A missing directory is made where there is nothing, or nothing has to be made. -/
theorem makeMissing_cases {files made : Files} {path : Path}
    (success : files.makeMissing path = .ok made) :
    made = files ∨ ∃ place, files.node? place = none ∧ made = files.put place .directory := by
  unfold makeMissing at success
  split at success
  next direct =>
    obtain rfl := Except.ok.inj success
    exact .inr (makeDirectory_cases direct)
  · cases success
  · split at success
    · split at success
      · exact .inl (Except.ok.inj success).symm
      · cases success
    · cases success

theorem content?_makeMissing {files made : Files} {path : Path}
    (success : files.makeMissing path = .ok made) : made.content? = files.content? := by
  rcases makeMissing_cases success with rfl | ⟨place, absent, rfl⟩
  · rfl
  · exact content?_put_directory absent

/-- Directories are only made where there is nothing, also those that a fault leaves.  What making
one missing directory keeps is kept by all of them. -/
theorem keeps_makeDirectories (keeps : Files → Files → Prop) (refl : ∀ files, keeps files files)
    (trans : ∀ {files between made}, keeps files between → keeps between made → keeps files made)
    (step : ∀ {files made path}, Files.makeMissing files path = .ok made → keeps files made)
    (files : Files) (root : Text) (names : List Text) :
    Ends (fun made => keeps files made) (fun (left, _) => keeps files left)
      (files.makeDirectories root names) := by
  induction names with
  | nil => exact refl files
  | cons name names induction =>
      unfold makeDirectories
      dsimp only
      split
      · exact refl files
      · split
        next direct => exact step direct
        next =>
          apply Ends.bind induction
          intro around kept
          dsimp only
          split
          next inside => exact trans kept (step inside)
          next => exact kept
        next => exact refl files

theorem content?_makeDirectories (files : Files) (root : Text) (names : List Text) :
    Ends (fun made => made.content? = files.content?)
      (fun (left, _) => left.content? = files.content?) (files.makeDirectories root names) := by
  apply keeps_makeDirectories fun files made => made.content? = files.content?
  · exact fun _ => rfl
  · intro files between made kept keptFurther
    exact keptFurther.trans kept
  · exact content?_makeMissing

/-! ## Writing -/

theorem target_cases {files : Files} {path : Path} {place : Place}
    (targeted : files.target path = .ok place) :
    (∃ bytes, path.encode = .ok bytes) ∧ files.follow true path = .ok place ∧
      files.obstacle? place = none := by
  unfold target at targeted
  split at targeted
  · cases targeted
  next bytes encoded =>
    split at targeted
    · cases targeted
    next found followed =>
      split at targeted
      · cases targeted
      next unobstructed =>
        obtain rfl := Except.ok.inj targeted
        exact ⟨⟨bytes, encoded⟩, followed, unobstructed⟩

theorem not_directory_of_obstacle? {files : Files} {place : Place}
    (unobstructed : files.obstacle? place = none) : files.node? place ≠ some .directory := by
  intro isDirectory
  simp [obstacle?, isDirectory] at unobstructed

/-- Writing puts the octets of the text into the file it opens, or empties that file if the
text has none, and changes no other file. -/
theorem content?_write (files : Files) (path : Path) (text : Text) (place : Place) :
    (files.write path text).1.content? place =
      if files.opened? path = some place then some (text.encode.toOption.getD [])
      else files.content? place := by
  have unchanged := content?_makeDirectories files path.root path.parent.names.reverse
  cases around : files.makeDirectories path.root path.parent.names.reverse with
  | error fault =>
      have unchanged : fault.1.content? = files.content? := by rwa [around] at unchanged
      simp [write, opened?, around, unchanged]
  | ok made =>
      have unchanged : made.content? = files.content? := by rwa [around] at unchanged
      cases targeted : made.target path with
      | error fault => simp [write, opened?, around, targeted, unchanged, Except.toOption]
      | ok target =>
          have notDirectory := not_directory_of_obstacle? (target_cases targeted).2.2
          cases encoded : text.encode <;>
            simp [write, opened?, around, targeted, encoded, content?_put_file _ notDirectory,
              unchanged, Except.toOption, eq_comm]

/-- A write that opens a file fails only if its text has no octets. -/
theorem encode_error_of_write_error {files : Files} {path : Path} {text : Text}
    {place : Place} {fault : FileFault} (opened : files.opened? path = some place)
    (failed : (files.write path text).2 = .error fault) :
    ∃ encodingFault, text.encode = .error encodingFault := by
  unfold opened? at opened
  unfold write at failed
  cases around : files.makeDirectories path.root path.parent.names.reverse with
  | error aroundFault => simp [around] at opened
  | ok made =>
      simp only [around] at opened failed
      cases targeted : made.target path with
      | error targetFault => simp [targeted, Except.toOption] at opened
      | ok target =>
          cases encoded : text.encode with
          | error encodingFault => exact ⟨encodingFault, rfl⟩
          | ok bytes => simp [targeted, encoded] at failed

end ApiTypes.Files
