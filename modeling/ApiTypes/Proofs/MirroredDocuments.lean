import ApiTypes.Proofs.MirroredPlaces

/-!
# Reading at places that show trees

The readers of both formats agree, and those on the way to the paths and to the responses
of operations also where further extensions stand among these.
-/

namespace ApiTypes

open Shape

theorem agrees_text : Agrees Eq text text :=
  agrees_scalar keepsKind_eq textOf .notAText

theorem agrees_truth : Agrees Eq truth truth :=
  agrees_scalar keepsKind_eq truthOf .notATruthValue

theorem agrees_number : Agrees Eq number number :=
  agrees_scalar keepsKind_eq numberOf .notANumber

/-! ## The older format -/

namespace Swagger

theorem agrees_readInfo : Agrees Eq readInfo readInfo := by
  refine agrees_plainObject fun entries members shown => ?_
  simp (disch := decide) only [Checked.placed_seq, Checked.placed_map,
    optional_plain shown keepsKind_eq agrees_text]

theorem agrees_readMember : Agrees Eq readMember readMember := by
  intro data cursor shows
  have content : cursor.content = data := shows.related.symm
  cases data <;> simp [readMember, View.layer, content]

/-- Integers that cannot be spelled are found at the places of the members. -/
theorem agrees_readEnumeration : Agrees Eq readEnumeration readEnumeration := by
  intro data cursor shows
  have content : cursor.content = data := shows.related.symm
  have asTexts := agrees_text.list data cursor shows
  cases data with
  | list items =>
      have asMembers := agrees_readMember.list (.list items) cursor shows
      have same : (cursor.members items).any (fun item => isUnspeakable (View.data item)) =
          items.any fun item => isUnspeakable (View.data item) := by
        have within := fun path member => Nat.le_of_lt (shows.fresh path member)
        have mapped := congrArg (List.any · isUnspeakable) (map_data_members within shows.isTree)
        rw [List.any_map] at mapped
        exact mapped
      simp only [readEnumeration, View.layer, content, same]
      split
      · rfl
      · exact asMembers
  | _ => simpa only [readEnumeration, View.layer, content] using asTexts

theorem agrees_readSchema (levels : Nat) : Agrees Eq (readSchema levels) (readSchema levels) := by
  induction levels with
  | zero =>
      intro data cursor shows
      rfl
  | succ levels induction =>
      intro data cursor shows
      obtain ⟨inner, entered, content, within⟩ := shows.enter
      simp only [readSchema, entered]
      refine placed_object_of_enter (fun entries members shown => ?_) shows content within
      simp (disch := decide) only [Checked.placed_seq, Checked.placed_map,
        optional_plain shown keepsKind_eq agrees_text,
        optional_plain shown keepsKind_eq agrees_readEnumeration,
        optional_plain shown keepsKind_eq agrees_text.list,
        optional_plain shown keepsKind_eq induction,
        optional_plain shown keepsKind_eq induction.dictionary,
        optional_plain shown keepsKind_eq induction.list]

theorem agrees_readDocument : Agrees DocumentExtended readDocument readDocument := by
  have definitions := (agrees_readSchema deepestNesting).dictionary
  refine agrees_object (keepsKind_mapExtended _) fun entries members shown => ?_
  simp (disch := decide) only [Checked.placed_seq, Checked.placed_map,
    needed_plain shown agrees_text,
    optional_plain shown (keepsKind_mapExtended _) agrees_readInfo,
    optional_plain shown (keepsKind_mapExtended _) definitions]

end Swagger

/-! ## The newer format -/

namespace OpenApi

theorem agrees_readReference (levels : Nat) :
    Agrees Eq (readReference levels) (readReference levels) := by
  cases levels with
  | zero =>
      intro data cursor shows
      rfl
  | succ levels =>
      refine agrees_plainObject fun entries members shown => ?_
      exact needed_plain shown agrees_text (by decide)

theorem agrees_readSlot (levels : Nat) (name : Text) {read : Data → Checked α}
    {readAt : Cursor → Checked α} (agrees : Agrees Eq read readAt) :
    Agrees Eq (readSlot levels name read) (readSlot levels name readAt) := by
  intro data cursor shows
  simp only [readSlot, Checked.placed_orElse, Checked.placed_map, Checked.placed_labelled,
    agrees_readReference levels data cursor shows, agrees data cursor shows]

/-- What may be anything is kept as it stands in the document. -/
theorem agrees_anything : Agrees Eq anything anything :=
  fun _ _ shows => congrArg Checked.valid shows.related.symm

theorem agrees_readSchema (levels : Nat) : Agrees Eq (readSchema levels) (readSchema levels) := by
  induction levels with
  | zero =>
      intro data cursor shows
      rfl
  | succ levels induction =>
      have slot := agrees_readSlot levels "Schema" induction
      have additional : Agrees Eq
          (fun place => Sum.inl <$> (truth place).labelled "bool" <|>
            Sum.inr <$> readSlot levels "Schema" (readSchema levels) place)
          (fun place => Sum.inl <$> (truth place).labelled "bool" <|>
            Sum.inr <$> readSlot levels "Schema" (readSchema levels) place) := by
        intro data cursor shows
        simp only [Checked.placed_orElse, Checked.placed_map, Checked.placed_labelled,
          agrees_truth data cursor shows, slot data cursor shows]
      intro data cursor shows
      obtain ⟨inner, entered, content, within⟩ := shows.enter
      simp only [readSchema, entered]
      refine placed_object_of_enter (fun entries members shown => ?_) shows content within
      simp (disch := decide) only [Checked.placed_seq, Checked.placed_map,
        optional_plain shown keepsKind_eq agrees_text,
        optional_plain shown keepsKind_eq agrees_number,
        optional_plain shown keepsKind_eq agrees_truth,
        optional_plain shown keepsKind_eq agrees_anything,
        optional_plain shown keepsKind_eq agrees_text.list,
        optional_plain shown keepsKind_eq agrees_anything.list,
        optional_plain shown keepsKind_eq slot,
        optional_plain shown keepsKind_eq slot.list,
        optional_plain shown keepsKind_eq slot.dictionary,
        optional_plain shown keepsKind_eq additional]

theorem agrees_readSchemaSlot (levels : Nat) :
    Agrees Eq (readSchemaSlot levels) (readSchemaSlot levels) :=
  agrees_readSlot levels "Schema" (agrees_readSchema levels)

theorem agrees_readParameter (levels : Nat) :
    Agrees Eq (readParameter levels) (readParameter levels) := by
  cases levels with
  | zero =>
      intro data cursor shows
      rfl
  | succ levels =>
      have location := agrees_scalar keepsKind_eq locationOf .notInEnumeration
      refine agrees_plainObject fun entries members shown => ?_
      simp (disch := decide) only [Checked.placed_seq, Checked.placed_map,
        needed_plain shown agrees_text, needed_plain shown location,
        optional_plain shown keepsKind_eq agrees_truth,
        optional_plain shown keepsKind_eq (agrees_readSchemaSlot levels)]

theorem agrees_readParameters (levels : Nat) :
    Agrees Eq (readParameters levels) (readParameters levels) :=
  (agrees_readSlot levels "Parameter" (agrees_readParameter levels)).list

theorem agrees_readHeader (levels : Nat) : Agrees Eq (readHeader levels) (readHeader levels) := by
  refine agrees_plainObject fun entries members shown => ?_
  simp (disch := decide) only [Checked.placed_seq, Checked.placed_map,
    optional_plain shown keepsKind_eq agrees_truth,
    optional_plain shown keepsKind_eq (agrees_readSchemaSlot levels)]

theorem agrees_readMediaType (levels : Nat) :
    Agrees Eq (readMediaType levels) (readMediaType levels) := by
  refine agrees_plainObject fun entries members shown => ?_
  simp (disch := decide) only [Checked.placed_map,
    optional_plain shown keepsKind_eq (agrees_readSchemaSlot levels)]

theorem agrees_readResponse (levels : Nat) :
    Agrees Eq (readResponse levels) (readResponse levels) := by
  have header := (agrees_readSlot levels "Header" (agrees_readHeader levels)).dictionary
  have content := (agrees_readMediaType levels).dictionary
  refine agrees_plainObject fun entries members shown => ?_
  simp (disch := decide) only [Checked.placed_seq, Checked.placed_map,
    optional_plain shown keepsKind_eq agrees_text, optional_plain shown keepsKind_eq header,
    optional_plain shown keepsKind_eq content]

theorem agrees_readOperation (levels : Nat) :
    Agrees OperationExtended (readOperation levels) (readOperation levels) := by
  cases levels with
  | zero =>
      intro data cursor shows
      rfl
  | succ levels =>
      have keeps : KeepsKind ResponsesExtended := keepsKind_mapExtended _
      have responses : Agrees ResponsesExtended _ _ :=
        (agrees_readSlot levels "Response"
          (agrees_readResponse levels)).dictionaryWithoutExtensions keepsKind_eq fun _ => rfl
      refine agrees_object keeps fun entries members shown => ?_
      simp (disch := decide) only [Checked.placed_seq, Checked.placed_map,
        optional_plain shown keeps agrees_text,
        optional_plain shown keeps (agrees_readParameters levels),
        needed_edited shown .same responses]

theorem agrees_readPathItem (levels : Nat) :
    Agrees PathItemExtended (readPathItem levels) (readPathItem levels) := by
  have keeps : KeepsKind OperationExtended := keepsKind_objectExtended _ _
  have operation := agrees_readOperation levels
  refine agrees_object keeps fun entries members shown => ?_
  simp (disch := decide) only [Checked.placed_seq, Checked.placed_map,
    optional_plain shown keeps agrees_text,
    optional_plain shown keeps (agrees_readParameters levels),
    optional_edited shown keeps .same operation]

theorem agrees_readContact : Agrees Eq readContact readContact := by
  refine agrees_plainObject fun entries members shown => ?_
  simp (disch := decide) only [Checked.placed_seq, Checked.placed_map,
    optional_plain shown keepsKind_eq agrees_text]

theorem agrees_readLicense : Agrees Eq readLicense readLicense := by
  refine agrees_plainObject fun entries members shown => ?_
  simp (disch := decide) only [Checked.placed_seq, Checked.placed_map,
    needed_plain shown agrees_text, optional_plain shown keepsKind_eq agrees_text]

theorem agrees_readInfo : Agrees Eq readInfo readInfo := by
  refine agrees_plainObject fun entries members shown => ?_
  simp (disch := decide) only [Checked.placed_seq, Checked.placed_map,
    needed_plain shown agrees_text, optional_plain shown keepsKind_eq agrees_text,
    optional_plain shown keepsKind_eq agrees_readContact,
    optional_plain shown keepsKind_eq agrees_readLicense]

theorem agrees_readComponents (levels : Nat) :
    Agrees Eq (readComponents levels) (readComponents levels) := by
  have schemas := (agrees_readSchemaSlot levels).dictionary
  refine agrees_plainObject fun entries members shown => ?_
  simp (disch := decide) only [Checked.placed_map, optional_plain shown keepsKind_eq schemas]

theorem agrees_readDocument : Agrees DocumentExtended readDocument readDocument := by
  have keeps : KeepsKind PathsExtended := keepsKind_mapExtended _
  have paths : Agrees PathsExtended _ _ :=
    (agrees_readPathItem deepestNesting).dictionaryWithoutExtensions
      (keepsKind_objectExtended _ _) .same
  refine agrees_object keeps fun entries members shown => ?_
  simp (disch := decide) only [Checked.placed_seq, Checked.placed_map,
    needed_plain shown agrees_text, needed_plain shown agrees_readInfo,
    needed_edited shown .same paths,
    optional_plain shown keeps (agrees_readComponents deepestNesting)]

end OpenApi

end ApiTypes
