import ApiTypes.Proofs.AlikeData

/-!
# Reading of alike data

Readers of lists, dictionaries and objects follow a difference of data if the
readers of what these hold do.
-/

namespace ApiTypes

open Shape

namespace Shape.Checked

variable {α β γ : Type}

theorem bare_collect (parts : List (Checked α)) :
    (collect parts).bare = collect (parts.map bare) := by
  induction parts with
  | nil => rfl
  | cons part parts induction => simp [collect, induction]

theorem map_seq_eq_valid_iff {function : α → β → γ} {first : Checked α} {second : Checked β}
    {result : γ} :
    function <$> first <*> second = .valid result ↔
      ∃ left right, first = .valid left ∧ second = .valid right ∧ function left right = result := by
  cases first <;> cases second <;> simp [Functor.map, Seq.seq, Checked.map, Checked.seq]

theorem map_seq_eq_unwritable_iff {function : α → β → γ} {first : Checked α}
    {second : Checked β} :
    function <$> first <*> second = .unwritable ↔ first = .unwritable ∨ second = .unwritable := by
  cases first <;> cases second <;> simp [Functor.map, Seq.seq, Checked.map, Checked.seq]

theorem collect_eq_valid_iff {parts : List (Checked α)} {values : List α} :
    collect parts = .valid values ↔ parts = values.map .valid := by
  induction parts generalizing values with
  | nil => cases values <;> simp [collect]
  | cons part parts induction =>
      rw [collect, map_seq_eq_valid_iff]
      simp only [induction]
      cases values with
      | nil => simp
      | cons value values => simp

theorem collect_eq_unwritable_iff {parts : List (Checked α)} :
    collect parts = .unwritable ↔ .unwritable ∈ parts := by
  induction parts with
  | nil => simp [collect]
  | cons part parts induction =>
      rw [collect, map_seq_eq_unwritable_iff, induction, List.mem_cons, eq_comm]

theorem exists_map_valid {parts : List (Checked α)}
    (valid : ∀ part ∈ parts, ∃ value, part = .valid value) :
    ∃ values : List α, parts = values.map .valid := by
  induction parts with
  | nil => exact ⟨[], rfl⟩
  | cons part parts induction =>
      obtain ⟨value, rfl⟩ := valid part (by simp)
      obtain ⟨values, rfl⟩ := induction fun part member => valid part (by simp [member])
      exact ⟨value :: values, rfl⟩

theorem map_eq_of_map_eq_valid {name : α → γ} {otherName : β → γ} {read : α → Checked β}
    (keeps : ∀ item value, read item = .valid value → otherName value = name item)
    {items : List α} {values : List β} (parts : items.map read = values.map .valid) :
    values.map otherName = items.map name := by
  induction items generalizing values with
  | nil =>
      cases values with
      | nil => rfl
      | cons value values => simp at parts
  | cons item items induction =>
      cases values with
      | nil => simp at parts
      | cons value values =>
          simp only [List.map_cons, List.cons.injEq] at parts ⊢
          exact ⟨keeps item value parts.1, induction parts.2⟩

/-- The name of what has been read, if anything has. -/
def nameRead (name : α → Text) : Checked α → Text
  | .valid value => name value
  | _ => []

/-- What is read of arranged items is arranged the same way, if the names of what is read are the
names of the items. -/
theorem bare_collect_arrange (rank : Text → Nat) (name : α → Text) (otherName : β → Text)
    (read : α → Checked β) (keeps : ∀ item value, read item = .valid value →
      otherName value = name item) (items : List α) :
    (collect ((arrange rank name items).map read)).bare =
      arrange rank otherName <$> (collect (items.map read)).bare := by
  have sameParts := (arrange_perm rank name items).map read
  cases inOrder : collect (items.map read) with
  | valid values =>
      have partsEq := collect_eq_valid_iff.mp inOrder
      have named : ∀ item ∈ items, nameRead otherName (read item) = name item := by
        intro item member
        have isPart : read item ∈ values.map Checked.valid := partsEq ▸ List.mem_map_of_mem member
        obtain ⟨value, -, valueEq⟩ := List.mem_map.mp isPart
        rw [← valueEq]
        exact keeps item value valueEq.symm
      have arranged : (arrange rank name items).map read =
          (arrange rank otherName values).map .valid := by
        rw [map_arrange (nameRead otherName) named, partsEq]
        exact (map_arrange (nameRead otherName) fun value _ => rfl).symm
      rw [collect_eq_valid_iff.mpr arranged]
      rfl
  | unwritable =>
      have unwritten := collect_eq_unwritable_iff.mp inOrder
      rw [collect_eq_unwritable_iff.mpr (sameParts.mem_iff.mpr unwritten)]
      rfl
  | invalid issues =>
      cases arranged : collect ((arrange rank name items).map read) with
      | invalid others => rfl
      | unwritable =>
          have unwritten := sameParts.mem_iff.mp (collect_eq_unwritable_iff.mp arranged)
          rw [collect_eq_unwritable_iff.mpr unwritten] at inOrder
          cases inOrder
      | valid values =>
          have partsEq := collect_eq_valid_iff.mp arranged
          have allValid : ∀ part ∈ items.map read, ∃ value, part = .valid value := by
            intro part member
            rw [← sameParts.mem_iff, partsEq] at member
            obtain ⟨value, -, valueEq⟩ := List.mem_map.mp member
            exact ⟨value, valueEq.symm⟩
          obtain ⟨others, othersEq⟩ := exists_map_valid allValid
          rw [collect_eq_valid_iff.mpr othersEq] at inOrder
          cases inOrder

end Shape.Checked

/-! ## Dictionaries -/

namespace Dictionary

variable {α β : Type}

theorem insert_changeNamed (change : Ranks → α → β) (ranks : Ranks) (name : Text) (value : α)
    (dictionary : Dictionary α) :
    insert name (change (ranks.under (.name name)) value) (changeNamed change ranks dictionary) =
      changeNamed change ranks (insert name value dictionary) := by
  induction dictionary with
  | nil => rfl
  | cons entry entries induction =>
      obtain ⟨present, old⟩ := entry
      by_cases same : present = name
      · subst present
        simp [insert, changeNamed]
      · simp only [insert, changeNamed, List.map_cons, if_neg same, List.cons.injEq, true_and]
        exact induction

theorem ofEntries_changeNamed (change : Ranks → α → β) (ranks : Ranks)
    (entries : List (Text × α)) :
    ofEntries (changeNamed change ranks entries) =
      changeNamed change ranks (ofEntries entries) := by
  have along (dictionary : Dictionary α) :
      (changeNamed change ranks entries).foldl
          (fun dictionary entry => insert entry.1 entry.2 dictionary)
          (changeNamed change ranks dictionary) =
        changeNamed change ranks
          (entries.foldl (fun dictionary entry => insert entry.1 entry.2 dictionary)
            dictionary) := by
    induction entries generalizing dictionary with
    | nil => rfl
    | cons entry entries induction =>
        obtain ⟨name, value⟩ := entry
        rw [List.foldl_cons, ← induction (insert name value dictionary),
          ← insert_changeNamed change ranks name value dictionary]
        rfl
  exact along []

theorem insert_of_notMem {name : Text} {dictionary : Dictionary α}
    (absent : name ∉ dictionary.map Prod.fst) (value : α) :
    insert name value dictionary = dictionary ++ [(name, value)] := by
  induction dictionary with
  | nil => rfl
  | cons entry entries induction =>
      obtain ⟨present, old⟩ := entry
      simp only [List.map_cons, List.mem_cons, not_or] at absent
      simp [insert, Ne.symm absent.1, induction absent.2]

/-- A dictionary of entries with distinct names has these entries. -/
theorem ofEntries_of_nodup {entries : List (Text × α)} (distinct : (entries.map Prod.fst).Nodup) :
    ofEntries entries = entries := by
  have along (others : List (Text × α)) (dictionary : Dictionary α)
      (distinct : ((dictionary ++ others).map Prod.fst).Nodup) :
      others.foldl (fun dictionary entry => insert entry.1 entry.2 dictionary) dictionary =
        dictionary ++ others := by
    induction others generalizing dictionary with
    | nil => simp
    | cons entry others induction =>
        obtain ⟨name, value⟩ := entry
        have absent : name ∉ dictionary.map Prod.fst := by
          simp only [List.map_append, List.map_cons, List.nodup_append, List.mem_cons] at distinct
          intro present
          exact distinct.2.2 name present name (.inl rfl) rfl
        rw [List.foldl_cons]
        change others.foldl _ (insert name value dictionary) = _
        rw [insert_of_notMem absent]
        simpa using induction (dictionary ++ [(name, value)]) (by simpa using distinct)
  exact along entries [] distinct

end Dictionary

/-! ## Readers that follow -/

/-- A reader that reads the same from alike data, up to a change by the ranks of names. -/
def Follows (related : Part → Members Data → Members Data → Prop) (content : Content)
    (read : Data → Checked α) (change : Ranks → α → α) : Prop :=
  ∀ ranks data other, Alike related ranks content data other →
    (read other).bare = change ranks <$> (read data).bare

section Follows

variable {α : Type} {related : Part → Members Data → Members Data → Prop} {read : Data → Checked α}
  {change : Ranks → α → α}

theorem follows_plain (related : Part → Members Data → Members Data → Prop)
    (read : Data → Checked α) : Follows related .plain read fun _ => id := by
  intro ranks data other alike
  rw [alike.eq_of_plain, Checked.id_map]

theorem bare_list (read : Data → Checked α) (kind : SequenceKind) (items : List Data) :
    (list read (kind.data items)).bare =
      Checked.collect (items.map fun item => (read item).bare) := by
  simp only [list, SequenceKind.layer_data, Checked.bare_collect]
  congr 1
  apply List.ext_getElem <;> simp

theorem Follows.collect {part : Part} (follows : Follows related (.part part) read change)
    {ranks : Ranks} {index : Nat} {items others : List Data}
    (alike : ItemsAlike related ranks part index items others) :
    Checked.collect (others.map fun item => (read item).bare) =
      changeItems change ranks index <$>
        Checked.collect (items.map fun item => (read item).bare) := by
  induction items generalizing index others with
  | nil =>
      cases alike
      rfl
  | cons item items induction =>
      cases alike with
      | @cons _ _ _ _ other _ others head tail =>
          rw [List.map_cons, List.map_cons, Checked.collect, Checked.collect, induction tail,
            follows _ _ _ head]
          simp only [Checked.map_map, Checked.map_seq, Checked.seq_map]
          rfl

theorem Follows.list {part : Part} (follows : Follows related (.part part) read change) :
    Follows related (.list part) (Shape.list read) fun ranks => changeItems change ranks 0 := by
  intro ranks data other alike
  rcases alike.list_cases with ⟨kind, items, others, rfl, rfl, alikeItems⟩ | ⟨rfl, noList⟩
  · rw [bare_list, bare_list]
    exact follows.collect alikeItems
  · unfold Shape.list
    split
    next kind items layer =>
      cases other <;> cases layer
      · exact absurd rfl (noList .list _)
      · exact absurd rfl (noList .tuple _)
      · exact absurd rfl (noList .set _)
    next => rfl

/-- What is read of an entry of a dictionary. -/
def readEntry (read : Data → Checked α) (entry : Data × Data) : Checked (Text × α) :=
  Prod.mk <$> (textOf entry.1).bare <*> (read entry.2).bare

theorem bare_dictionary (read : Data → Checked α) (entries : Members Data) :
    (dictionary read (.mapping entries)).bare =
      Dictionary.ofEntries <$> Checked.collect (entries.map (readEntry read)) := by
  simp only [dictionary, View.layer, Checked.bare_map, Checked.bare_collect, List.map_map]
  congr 2
  apply List.map_congr_left
  intro entry _member
  simp [Shape.entry, readEntry]

theorem readEntry_eq_of_alike {part : Part} (follows : Follows related (.part part) read change)
    {ranks : Ranks} {key value other : Data}
    (alike : Alike related (ranks.under (.name key.keyName)) (.part part) value other) :
    readEntry read (key, other) =
      (fun named => (named.1, change (ranks.under (.name named.1)) named.2)) <$>
        readEntry read (key, value) := by
  unfold readEntry
  rw [follows _ _ _ alike]
  unfold Data.keyName
  cases textOf key with
  | valid name => cases (read value).bare <;> rfl
  | _ => cases (read value).bare <;> rfl

theorem Follows.collectEntries {part : Part} (follows : Follows related (.part part) read change)
    {ranks : Ranks} {entries others : Members Data}
    (alike : ValuesAlike related ranks part entries others) :
    Checked.collect (others.map (readEntry read)) =
      changeNamed change ranks <$> Checked.collect (entries.map (readEntry read)) := by
  induction entries generalizing others with
  | nil =>
      cases alike
      rfl
  | cons entry entries induction =>
      cases alike with
      | @cons _ _ key value other _ others head tail =>
          rw [List.map_cons, List.map_cons, Checked.collect, Checked.collect, induction tail,
            readEntry_eq_of_alike follows head]
          simp only [Checked.map_map, Checked.map_seq, Checked.seq_map]
          rfl

theorem Follows.dictionary {part : Part} (follows : Follows related (.part part) read change) :
    Follows related (.dictionary part) (Shape.dictionary read) (changeNamed change) := by
  intro ranks data other alike
  rcases alike.dictionary_cases with ⟨entries, others, rfl, rfl, values⟩ | ⟨rfl, noMapping⟩
  · rw [bare_dictionary, bare_dictionary, follows.collectEntries values, Checked.map_map,
      Checked.map_map]
    congr 1
    funext named
    exact Dictionary.ofEntries_changeNamed change ranks named
  · cases other with
    | mapping entries => exact absurd rfl (noMapping entries)
    | _ => rfl

/-- Extensions stay where they are, whatever they hold. -/
theorem ValuesAlike.withoutExtensions {ranks : Ranks} {part : Part} {entries others : Members Data}
    (alike : ValuesAlike related ranks part entries others) :
    ValuesAlike related ranks part (entries.filter fun (key, _) => !isExtension key)
      (others.filter fun (key, _) => !isExtension key) := by
  induction entries generalizing others with
  | nil =>
      cases alike
      exact .nil
  | cons entry entries induction =>
      cases alike with
      | @cons _ _ key value other _ others head tail =>
          simp only [List.filter_cons]
          split
          · exact .cons head (induction tail)
          · exact induction tail

theorem dictionaryWithoutExtensions_mapping (read : Data → Checked α) (entries : Members Data) :
    dictionaryWithoutExtensions read (.mapping entries) =
      Shape.dictionary read (.mapping (entries.filter fun (key, _) => !isExtension key)) :=
  rfl

theorem Follows.dictionaryWithoutExtensions {part : Part}
    (follows : Follows related (.part part) read change) :
    Follows related (.dictionary part) (Shape.dictionaryWithoutExtensions read)
      (changeNamed change) := by
  intro ranks data other alike
  rcases alike.dictionary_cases with ⟨entries, others, rfl, rfl, values⟩ | ⟨rfl, noMapping⟩
  · rw [dictionaryWithoutExtensions_mapping, dictionaryWithoutExtensions_mapping]
    exact follows.dictionary ranks _ _ (.dictionary values.withoutExtensions)
  · cases other with
    | mapping entries => exact absurd rfl (noMapping entries)
    | _ => rfl

@[simp] theorem bare_readEntry (read : Data → Checked α) (entry : Data × Data) :
    (readEntry read entry).bare = readEntry read entry := by
  simp [readEntry]

theorem name_eq_of_readEntry_eq_valid {named : Text × Data} {value : Text × α}
    (valid : readEntry read (Data.entry named) = .valid value) : value.1 = named.1 := by
  unfold readEntry Data.entry at valid
  cases reading : (read named.2).bare with
  | valid content =>
      rw [reading] at valid
      cases valid
      rfl
  | _ =>
      rw [reading] at valid
      cases valid

/-- What is read of entries with distinct texts as keys has these names. -/
theorem names_eq_of_collect_eq_valid {entries : List (Text × Data)} {values : List (Text × α)}
    (collected : Checked.collect (entries.map (readEntry read ∘ Data.entry)) = .valid values) :
    values.map Prod.fst = entries.map Prod.fst :=
  Checked.map_eq_of_map_eq_valid (fun _ _ => name_eq_of_readEntry_eq_valid)
    (Checked.collect_eq_valid_iff.mp collected)

theorem collect_arrange (rank : Text → Nat) (entries : List (Text × Data)) :
    Checked.collect ((arrange rank Prod.fst entries).map (readEntry read ∘ Data.entry)) =
      arrange rank Prod.fst <$> Checked.collect (entries.map (readEntry read ∘ Data.entry)) := by
  have arranged := Checked.bare_collect_arrange rank Prod.fst Prod.fst
    (readEntry read ∘ Data.entry) (fun _ _ => name_eq_of_readEntry_eq_valid) entries
  simpa only [Checked.bare_collect, List.map_map, Function.comp_def, bare_readEntry] using arranged

theorem Follows.named {part : Part} (follows : Follows related (.part part) read change) :
    Follows related (.named part) (Shape.dictionary read) (arrangeNamed change) := by
  intro ranks data other alike
  rcases alike.named_cases with ⟨entries, others, rfl, rfl, unmoved, values⟩ |
    ⟨entries, others, rfl, rfl, distinct, values⟩ | ⟨rfl, noMapping⟩
  · rw [follows.dictionary ranks _ _ (.dictionary values)]
    congr 1
    funext named
    rw [arrangeNamed, arrange_of_unmoved unmoved]
  · rw [bare_dictionary, bare_dictionary, follows.collectEntries values, List.map_map,
      List.map_map, collect_arrange]
    cases inOrder : Checked.collect (entries.map (readEntry read ∘ Data.entry)) with
    | valid named =>
        -- Where names are distinct, a dictionary is the list of what has been read, and this may
        -- be arranged before or after the change.
        have names := names_eq_of_collect_eq_valid inOrder
        have namedDistinct : (named.map Prod.fst).Nodup := names ▸ distinct
        have arranged : changeNamed change ranks (arrange ranks.here Prod.fst named) =
            arrangeNamed change ranks named :=
          map_arrange Prod.fst fun _ _ => rfl
        have arrangedDistinct : ((arrangeNamed change ranks named).map Prod.fst).Nodup := by
          rw [← arranged]
          have perm := (arrange_perm ranks.here Prod.fst named).map Prod.fst
          simpa [changeNamed, Function.comp_def] using perm.nodup_iff.mpr namedDistinct
        change Checked.valid (Dictionary.ofEntries
            (changeNamed change ranks (arrange ranks.here Prod.fst named))) =
          Checked.valid (arrangeNamed change ranks (Dictionary.ofEntries named))
        rw [arranged, Dictionary.ofEntries_of_nodup arrangedDistinct,
          Dictionary.ofEntries_of_nodup namedDistinct]
    | _ => rfl
  · cases other with
    | mapping entries => exact absurd rfl (noMapping entries)
    | _ => rfl

/-! ## Objects -/

theorem follows_object (keeps : ∀ part entries others,
      related part entries others → HoldSame part entries others)
    {part : Part} {readMembers : Members Data → Checked α}
    (follows : ∀ ranks entries others, HoldAlike related ranks part entries others →
      (readMembers others).bare = change ranks <$> (readMembers entries).bare) :
    Follows related (.part part) (object readMembers) change := by
  intro ranks data other alike
  rcases alike.object_cases keeps with ⟨entries, others, rfl, rfl, holdAlike⟩ | ⟨rfl, noMapping⟩
  · exact follows ranks entries others holdAlike
  · cases other with
    | mapping entries => exact absurd rfl (noMapping entries)
    | _ => rfl

/-- A member that may be missing is read from what it holds. -/
theorem bare_optional (members : Members Data) (wire own : Text) (content : Content)
    (read : Data → Checked α) :
    (members.optional wire own read).bare =
      match members.held? ⟨wire, own, content⟩ with
      | some value => some <$> (read value).bare
      | none => .valid none := by
  unfold Members.optional Members.held?
  cases members.locate? wire own with
  | none => rfl
  | some located =>
      obtain ⟨name, value⟩ := located
      cases nothing : isNull value <;> simp [nothing, Option.filter_some]

/-- A member that has to be there is read from what it holds, if nothing is refused there. -/
theorem bare_needed (members : Members Data) (wire own : Text) (content : Content)
    (refuses : (read .null).bare = .invalid []) :
    (members.needed wire own read).bare =
      match members.held? ⟨wire, own, content⟩ with
      | some value => (read value).bare
      | none => .invalid [] := by
  unfold Members.needed Members.held?
  cases members.locate? wire own with
  | none => rfl
  | some located =>
      obtain ⟨name, value⟩ := located
      cases nothing : isNull value with
      | false => simp [nothing, Option.filter_some]
      | true =>
          have isNothing : value = .null := by
            cases value <;> simp_all [isNull, View.layer]
          simp [isNothing, Option.filter_some, refuses, isNull, View.layer]

section Members

variable {ranks : Ranks} {part : Part} {entries others : Members Data} {content : Content}

theorem HoldAlike.optional (alike : HoldAlike related ranks part entries others)
    (follows : Follows related content read change) ⦃wire own : Text⦄
    (isMember : ⟨wire, own, content⟩ ∈ part.members) :
    (others.optional wire own read).bare =
      Option.map (change (ranks.under (.name wire))) <$> (entries.optional wire own read).bare := by
  rw [bare_optional others wire own content, bare_optional entries wire own content]
  have held := alike ⟨wire, own, content⟩ isMember
  cases here : entries.held? ⟨wire, own, content⟩ <;>
    cases there : others.held? ⟨wire, own, content⟩ <;> rw [here, there] at held <;> cases held
  · rfl
  next both =>
    dsimp only
    rw [follows _ _ _ both]
    simp only [Checked.map_map]
    rfl

theorem HoldAlike.needed (alike : HoldAlike related ranks part entries others)
    (follows : Follows related content read change) (refuses : (read .null).bare = .invalid [])
    ⦃wire own : Text⦄ (isMember : ⟨wire, own, content⟩ ∈ part.members) :
    (others.needed wire own read).bare =
      change (ranks.under (.name wire)) <$> (entries.needed wire own read).bare := by
  rw [bare_needed others wire own content refuses, bare_needed entries wire own content refuses]
  have held := alike ⟨wire, own, content⟩ isMember
  cases here : entries.held? ⟨wire, own, content⟩ <;>
    cases there : others.held? ⟨wire, own, content⟩ <;> rw [here, there] at held <;> cases held
  · rfl
  next both => exact follows _ _ _ both

/-- A member without parts of the grammar is read the same. -/
theorem HoldAlike.optional_plain (alike : HoldAlike related ranks part entries others)
    (read : Data → Checked α) ⦃wire own : Text⦄
    (isMember : ⟨wire, own, .plain⟩ ∈ part.members) :
    (others.optional wire own read).bare = (entries.optional wire own read).bare := by
  rw [alike.optional (follows_plain related read) isMember, Option.map_id, Checked.id_map]

theorem HoldAlike.needed_plain (alike : HoldAlike related ranks part entries others)
    (read : Data → Checked α) (refuses : (read .null).bare = .invalid []) ⦃wire own : Text⦄
    (isMember : ⟨wire, own, .plain⟩ ∈ part.members) :
    (others.needed wire own read).bare = (entries.needed wire own read).bare := by
  rw [alike.needed (follows_plain related read) refuses isMember, Checked.id_map]

end Members

end Follows

end ApiTypes
