import ApiTypes.Proofs.Outcomes
import ApiTypes.Proofs.WritableIntegers
import ApiTypes.Specification

/-!
# Documents whose integers can be written

The readers of both formats come to an end on such documents, so that reading a
specification from its data stops early only at an integer that is too long.
-/

namespace ApiTypes

open Shape

section Places

variable {Place : Type} [View Place] {isWritable : Place → Prop}

/-! ## The older format -/

namespace Swagger

theorem settles_readInfo (writable : Writable isWritable) : Settles isWritable readInfo := by
  apply writable.object
  intro members membersWritable
  simp [Members.isSettled_optional membersWritable writable.text]

/-- Integers without a spelling are refused before the members of an enumeration are read. -/
theorem settles_readMember (writable : Writable isWritable) : Settles isWritable readMember := by
  intro place placeWritable
  unfold readMember
  split
  next content layer =>
    cases spelling? content with
    | none => exact isSettled_textOf (writable.content placeWritable layer)
    | some spelling => rfl
  · rfl

theorem settles_readEnumeration (writable : Writable isWritable) :
    Settles isWritable readEnumeration := by
  intro place placeWritable
  unfold readEnumeration
  split
  · split
    · rfl
    · exact writable.list (settles_readMember writable) place placeWritable
  · exact writable.list writable.text place placeWritable

theorem settles_readSchema (writable : Writable isWritable) (levels : Nat) :
    Settles isWritable (readSchema levels) := by
  induction levels with
  | zero =>
      intro place _placeWritable
      rfl
  | succ levels induction =>
      intro place placeWritable
      unfold readSchema
      split
      · rfl
      next inner entered =>
        apply writable.object _ inner (writable.inner placeWritable entered)
        intro members membersWritable
        simp [Members.isSettled_optional membersWritable writable.text,
          Members.isSettled_optional membersWritable (settles_readEnumeration writable),
          Members.isSettled_optional membersWritable (writable.list writable.text),
          Members.isSettled_optional membersWritable induction,
          Members.isSettled_optional membersWritable (writable.dictionary induction),
          Members.isSettled_optional membersWritable (writable.list induction)]

theorem settles_readDocument (writable : Writable isWritable) :
    Settles isWritable readDocument := by
  apply writable.object
  intro members membersWritable
  have schemas := settles_readSchema writable deepestNesting
  simp [Members.isSettled_needed membersWritable writable.text,
    Members.isSettled_optional membersWritable (settles_readInfo writable),
    Members.isSettled_optional membersWritable (writable.dictionary schemas)]

end Swagger

/-! ## The newer format -/

namespace OpenApi

theorem settles_readReference (writable : Writable isWritable) (levels : Nat) :
    Settles isWritable (readReference levels) := by
  cases levels with
  | zero =>
      intro place _placeWritable
      rfl
  | succ levels =>
      apply writable.object
      intro members membersWritable
      exact Members.isSettled_needed membersWritable writable.text _ _

theorem settles_readSlot (writable : Writable isWritable) (levels : Nat) (name : Text)
    {read : Place → Checked α} (settles : Settles isWritable read) :
    Settles isWritable (readSlot levels name read) := by
  intro place placeWritable
  apply Checked.isSettled_orElse
  · simp [settles_readReference writable levels place placeWritable]
  · simp [settles place placeWritable]

theorem settles_anything : Settles isWritable anything := by
  intro place _placeWritable
  rfl

theorem settles_readSchema (writable : Writable isWritable) (levels : Nat) :
    Settles isWritable (readSchema levels) := by
  induction levels with
  | zero =>
      intro place _placeWritable
      rfl
  | succ levels induction =>
      have slot := settles_readSlot writable levels "Schema" induction
      have additional : Settles isWritable fun place =>
          Sum.inl <$> (truth place).labelled "bool" <|>
            Sum.inr <$> readSlot levels "Schema" (readSchema levels) place := by
        intro place placeWritable
        apply Checked.isSettled_orElse
        · simp [writable.truth place placeWritable]
        · simp [slot place placeWritable]
      intro place placeWritable
      unfold readSchema
      split
      · rfl
      next inner entered =>
        apply writable.object _ inner (writable.inner placeWritable entered)
        intro members membersWritable
        simp [Members.isSettled_optional membersWritable writable.text,
          Members.isSettled_optional membersWritable writable.number,
          Members.isSettled_optional membersWritable writable.truth,
          Members.isSettled_optional membersWritable (writable.list writable.text),
          Members.isSettled_optional membersWritable settles_anything,
          Members.isSettled_optional membersWritable (writable.list settles_anything),
          Members.isSettled_optional membersWritable slot,
          Members.isSettled_optional membersWritable (writable.list slot),
          Members.isSettled_optional membersWritable (writable.dictionary slot),
          Members.isSettled_optional membersWritable additional]

theorem settles_readSchemaSlot (writable : Writable isWritable) (levels : Nat) :
    Settles isWritable (readSchemaSlot levels) :=
  settles_readSlot writable levels "Schema" (settles_readSchema writable levels)

theorem isSettled_locationOf (content : Data) : (locationOf content).isSettled = true := by
  unfold locationOf
  cases content <;> (dsimp only; split <;> rfl)

theorem settles_readParameter (writable : Writable isWritable) (levels : Nat) :
    Settles isWritable (readParameter levels) := by
  cases levels with
  | zero =>
      intro place _placeWritable
      rfl
  | succ levels =>
      have location : Settles isWritable (scalar locationOf .notInEnumeration) :=
        writable.scalar fun content _ => isSettled_locationOf content
      apply writable.object
      intro members membersWritable
      simp [Members.isSettled_needed membersWritable writable.text,
        Members.isSettled_needed membersWritable location,
        Members.isSettled_optional membersWritable writable.truth,
        Members.isSettled_optional membersWritable (settles_readSchemaSlot writable levels)]

theorem settles_readParameters (writable : Writable isWritable) (levels : Nat) :
    Settles isWritable (readParameters levels) :=
  writable.list
    (settles_readSlot writable levels "Parameter" (settles_readParameter writable levels))

theorem settles_readHeader (writable : Writable isWritable) (levels : Nat) :
    Settles isWritable (readHeader levels) := by
  apply writable.object
  intro members membersWritable
  simp [Members.isSettled_optional membersWritable writable.truth,
    Members.isSettled_optional membersWritable (settles_readSchemaSlot writable levels)]

theorem settles_readMediaType (writable : Writable isWritable) (levels : Nat) :
    Settles isWritable (readMediaType levels) := by
  apply writable.object
  intro members membersWritable
  simp [Members.isSettled_optional membersWritable (settles_readSchemaSlot writable levels)]

theorem settles_readResponse (writable : Writable isWritable) (levels : Nat) :
    Settles isWritable (readResponse levels) := by
  have header := settles_readSlot writable levels "Header" (settles_readHeader writable levels)
  have content := settles_readMediaType writable levels
  apply writable.object
  intro members membersWritable
  simp [Members.isSettled_optional membersWritable writable.text,
    Members.isSettled_optional membersWritable (writable.dictionary header),
    Members.isSettled_optional membersWritable (writable.dictionary content)]

theorem settles_readOperation (writable : Writable isWritable) (levels : Nat) :
    Settles isWritable (readOperation levels) := by
  cases levels with
  | zero =>
      intro place _placeWritable
      rfl
  | succ levels =>
      have response :=
        settles_readSlot writable levels "Response" (settles_readResponse writable levels)
      apply writable.object
      intro members membersWritable
      simp [Members.isSettled_optional membersWritable writable.text,
        Members.isSettled_optional membersWritable (settles_readParameters writable levels),
        Members.isSettled_needed membersWritable (writable.dictionaryWithoutExtensions response)]

theorem settles_readPathItem (writable : Writable isWritable) (levels : Nat) :
    Settles isWritable (readPathItem levels) := by
  apply writable.object
  intro members membersWritable
  simp [Members.isSettled_optional membersWritable writable.text,
    Members.isSettled_optional membersWritable (settles_readOperation writable levels),
    Members.isSettled_optional membersWritable (settles_readParameters writable levels)]

theorem settles_readContact (writable : Writable isWritable) :
    Settles isWritable readContact := by
  apply writable.object
  intro members membersWritable
  simp [Members.isSettled_optional membersWritable writable.text]

theorem settles_readLicense (writable : Writable isWritable) :
    Settles isWritable readLicense := by
  apply writable.object
  intro members membersWritable
  simp [Members.isSettled_needed membersWritable writable.text,
    Members.isSettled_optional membersWritable writable.text]

theorem settles_readInfo (writable : Writable isWritable) : Settles isWritable readInfo := by
  apply writable.object
  intro members membersWritable
  simp [Members.isSettled_needed membersWritable writable.text,
    Members.isSettled_optional membersWritable writable.text,
    Members.isSettled_optional membersWritable (settles_readContact writable),
    Members.isSettled_optional membersWritable (settles_readLicense writable)]

theorem settles_readComponents (writable : Writable isWritable) (levels : Nat) :
    Settles isWritable (readComponents levels) := by
  have schema := settles_readSchemaSlot writable levels
  apply writable.object
  intro members membersWritable
  simp [Members.isSettled_optional membersWritable (writable.dictionary schema)]

theorem settles_readDocument (writable : Writable isWritable) :
    Settles isWritable readDocument := by
  have path := settles_readPathItem writable deepestNesting
  apply writable.object
  intro members membersWritable
  simp [Members.isSettled_needed membersWritable writable.text,
    Members.isSettled_needed membersWritable (settles_readInfo writable),
    Members.isSettled_needed membersWritable (writable.dictionaryWithoutExtensions path),
    Members.isSettled_optional membersWritable (settles_readComponents writable deepestNesting)]

end OpenApi

end Places

/-! ## Data and cursors -/

namespace Shape

/-- A place that is its own data. -/
theorem writable_data : Writable Data.IsWritable where
  content := by
    intro place content placeWritable layer
    cases place <;> simp [View.layer] at layer <;> exact layer ▸ placeWritable
  items := by
    intro place kind items placeWritable layer
    cases place with
    | list members =>
        obtain ⟨_kindEq, rfl⟩ := Layer.sequence.inj layer
        exact Data.isWritable_list.mp placeWritable
    | tuple members =>
        obtain ⟨_kindEq, rfl⟩ := Layer.sequence.inj layer
        exact Data.isWritable_tuple.mp placeWritable
    | set members =>
        obtain ⟨_kindEq, rfl⟩ := Layer.sequence.inj layer
        exact Data.isWritable_set.mp placeWritable
    | _ => simp [View.layer] at layer
  entries := by
    intro place entries placeWritable layer
    cases place with
    | mapping members =>
        obtain rfl := Layer.mapping.inj layer
        exact Data.isWritable_mapping.mp placeWritable
    | _ => simp [View.layer] at layer
  inner := by
    intro place inner placeWritable entered
    obtain rfl := Option.some.inj entered
    exact placeWritable

namespace Cursor

/-- The integers at a place and in all collections around it can be written. -/
def IsWritable (cursor : Cursor) : Prop :=
  cursor.content.IsWritable ∧ ∀ collection ∈ cursor.around, collection.1.IsWritable

/-- A member that stands for a collection around its place is that collection. -/
theorem isWritable_member {cursor : Cursor} (writable : cursor.IsWritable) (index : Nat)
    {content : Data} (contentWritable : content.IsWritable) :
    (cursor.member index content).IsWritable := by
  have aroundWritable : ∀ collection ∈ (cursor.content, cursor.path) :: cursor.around,
      collection.1.IsWritable :=
    List.forall_mem_cons.mpr writable
  simp only [member]
  split
  next up =>
    split
    next collection path farther found =>
      have areAround : ∀ other ∈ (collection, path) :: farther,
          other ∈ (cursor.content, cursor.path) :: cursor.around := by
        rw [← found]
        intro other member
        exact List.mem_of_mem_drop member
      constructor
      · exact aroundWritable (collection, path) (areAround _ (by simp))
      · intro other member
        exact aroundWritable other (areAround other (by simp [member]))
    · constructor
      · intro value inside
        simp [Data.integers] at inside
      · exact aroundWritable
  · exact ⟨contentWritable, aroundWritable⟩

theorem isWritable_members {cursor : Cursor} (writable : cursor.IsWritable) {contents : List Data}
    (contentsWritable : ∀ content ∈ contents, content.IsWritable) :
    ∀ place ∈ cursor.members contents, place.IsWritable := by
  intro place member
  obtain ⟨index, inside, rfl⟩ := List.mem_mapIdx.mp member
  exact isWritable_member writable index (contentsWritable _ (List.getElem_mem inside))

theorem writable : Writable IsWritable where
  content := by
    intro place content placeWritable layer
    simp only [View.layer] at layer
    split at layer <;> simp at layer
    exact layer ▸ placeWritable.1
  items := by
    intro place kind items placeWritable layer
    have contentWritable := placeWritable.1
    simp only [View.layer] at layer
    split at layer <;> simp at layer
    next contents contentEq =>
      rw [← layer.2]
      exact isWritable_members placeWritable
        (Data.isWritable_list.mp (contentEq ▸ contentWritable))
    next contents contentEq =>
      rw [← layer.2]
      exact isWritable_members placeWritable
        (Data.isWritable_tuple.mp (contentEq ▸ contentWritable))
    next contents contentEq =>
      rw [← layer.2]
      exact isWritable_members placeWritable
        (Data.isWritable_set.mp (contentEq ▸ contentWritable))
  entries := by
    intro place entries placeWritable layer
    have contentWritable := placeWritable.1
    simp only [View.layer] at layer
    split at layer <;> simp at layer
    next contents contentEq =>
      have contentsWritable := Data.isWritable_mapping.mp (contentEq ▸ contentWritable)
      have valuesWritable : ∀ value ∈ place.members (contents.map Prod.snd), value.IsWritable := by
        apply isWritable_members placeWritable
        intro content member
        obtain ⟨entry, entryMember, rfl⟩ := List.mem_map.mp member
        exact (contentsWritable entry entryMember).2
      rw [← layer]
      rintro ⟨key, value⟩ member
      obtain ⟨keyMember, valueMember⟩ := List.of_mem_zip member
      obtain ⟨entry, entryMember, rfl⟩ := List.mem_map.mp keyMember
      exact ⟨(contentsWritable entry entryMember).1, valuesWritable value valueMember⟩
  inner := by
    intro place inner placeWritable entered
    simp only [View.enter] at entered
    split at entered <;> simp at entered
    subst entered
    exact placeWritable

theorem isWritable_root {data : Data} (writable : data.IsWritable) : (root data).IsWritable :=
  ⟨writable, by simp [root]⟩

end Cursor

end Shape

namespace Specification

section Rejections

variable {admits : Rejection → Prop}

theorem ends_attempt (format : Format) {checked : Checked Specification}
    {otherwise : List Issue → Logged Rejection Specification}
    (unwritten : checked.isSettled = false → admits .unwritableInteger)
    (ends : ∀ issues, Ends (fun _ => True) admits (otherwise issues).outcome) :
    Ends (fun _ => True) admits (attempt format checked otherwise).outcome := by
  cases checked with
  | valid specification => exact trivial
  | unwritable => exact unwritten rfl
  | invalid issues =>
      have outcomeEq : (attempt format (.invalid issues) otherwise).outcome =
          (otherwise issues).outcome := by
        rfl
      rw [outcomeEq]
      exact ends issues

variable {Place : Type} [View Place] {isWritable : Place → Prop}

theorem ends_ofRoot (writable : Writable isWritable) (root : Place)
    (mismatched : ∀ swagger openApi, admits (.mismatch swagger openApi))
    (unwritten : ¬ isWritable root → admits .unwritableInteger) :
    Ends (fun _ => True) admits (ofRoot root).outcome := by
  have unsettled {α : Type} {read : Place → Checked α} (settles : Settles isWritable read)
      (stops : (read root).isSettled = false) : admits .unwritableInteger := by
    apply unwritten
    intro rootWritable
    rw [settles root rootWritable] at stops
    exact Bool.noConfusion stops
  apply ends_attempt
  · rw [Checked.isSettled_map]
    exact unsettled (Swagger.settles_readDocument writable)
  · intro swaggerIssues
    apply ends_attempt
    · rw [Checked.isSettled_map]
      exact unsettled (OpenApi.settles_readDocument writable)
    · intro openApiIssues
      exact mismatched swaggerIssues openApiIssues

end Rejections

/-- Data is refused with an explanation, unless an integer in it is too long to be written. -/
theorem ends_ofData (data : Data) :
    Ends (fun _ => True)
      (fun rejection =>
        rejection.isExplained = true ∨ rejection = .unwritableInteger ∧ ¬ data.IsWritable)
      (ofData data).outcome := by
  unfold ofData
  split
  next entries =>
    split
    · apply ends_ofRoot writable_data
      · intro swagger openApi
        exact .inl rfl
      · intro unwritable
        exact .inr ⟨rfl, unwritable⟩
    · apply ends_ofRoot Cursor.writable
      · intro swagger openApi
        exact .inl rfl
      · intro unwritable
        exact .inr ⟨rfl, fun writable => unwritable (Cursor.isWritable_root writable)⟩
  · exact .inl rfl

end Specification

end ApiTypes
