import ApiTypes.Proofs.LoadingSteps

/-!
# Nodes without a value

A document loads unless the grammar of its nodes is broken or one of its nodes
has a tag that does not fit it.  Merge keys change documents while they are
loaded, but what a scalar says and which nodes are mappings stays.
-/

namespace ApiTypes.Yaml

namespace Document

/-- The fault of a node with a tag that does not fit it.  A mapping stands for a scalar if it has a
default value, whose content is that of another node. -/
inductive Unfit (document : Document) : Fault → Prop where
  | content {number source : Nat} {content : Text} {fault : Fault} :
      (document.node source).form = .scalar content →
      source = number ∨ document.isMapping number = true →
      Scalar.value (document.tag number) content = .error fault →
      fault ≠ .malformed → Unfit document fault
  | timestampMapping {number : Nat} :
      document.tag number = .timestamp → document.isMapping number = true →
      Unfit document .timestampMapping
  | endless {number : Nat} :
      (document.tag number).takesText = true ∨ document.tag number = .defaultValue →
      document.isMapping number = true → Unfit document .endless

/-! ## Documents after merging -/

/-- A document as loading leaves it: other entries in its mappings, and texts for the keys of
default values. -/
structure Resembles (original document : Document) : Prop where
  tag (number : Nat) : document.tag number = original.tag number ∨
    original.tag number = .defaultValue ∧ document.tag number = .text
  scalar {number : Nat} {content : Text} : (document.node number).form = .scalar content →
    (original.node number).form = .scalar content
  mapping {number : Nat} : document.isMapping number = true → original.isMapping number = true

theorem resembles_refl (document : Document) : Resembles document document where
  tag _ := .inl rfl
  scalar := id
  mapping := id

theorem node_modify (document : Document) (number other : Nat) (change : Node → Node) :
    ({ document with nodes := document.nodes.modify number change } : Document).node other =
        document.node other ∨
      number = other ∧
        ({ document with nodes := document.nodes.modify number change } : Document).node other =
          change (document.node other) := by
  simp only [node, Array.getD_eq_getD_getElem?, Array.getElem?_modify]
  split
  next same =>
    cases document.nodes[other]? with
    | none => exact .inl rfl
    | some node => exact .inr ⟨same, rfl⟩
  · exact .inl rfl

variable {original document : Document}

/-- A change of one node is harmless if it leaves the form or makes other entries of a mapping. -/
theorem Resembles.modify (resembles : Resembles original document) (number : Nat)
    {change : Node → Node}
    (changeTag : (change (document.node number)).tag = document.tag number ∨
      original.tag number = .defaultValue ∧ (change (document.node number)).tag = .text)
    (changeForm : (change (document.node number)).form = (document.node number).form ∨
      original.isMapping number = true ∧
        ∃ entries, (change (document.node number)).form = .mapping entries) :
    Resembles original { document with nodes := document.nodes.modify number change } where
  tag other := by
    rcases document.node_modify number other change with kept | ⟨rfl, changed⟩
    · rw [Document.tag, kept]
      exact resembles.tag other
    · rw [Document.tag, changed]
      rcases changeTag with tagKept | isText
      · rw [tagKept]
        exact resembles.tag number
      · exact .inr isText
  scalar := by
    intro other content isScalar
    rcases document.node_modify number other change with kept | ⟨rfl, changed⟩
    · rw [kept] at isScalar
      exact resembles.scalar isScalar
    · rw [changed] at isScalar
      rcases changeForm with formKept | ⟨_, entries, newEntries⟩
      · rw [formKept] at isScalar
        exact resembles.scalar isScalar
      · rw [newEntries] at isScalar
        exact Form.noConfusion isScalar
  mapping := by
    intro other otherMapping
    rcases document.node_modify number other change with kept | ⟨rfl, changed⟩
    · rw [Document.isMapping, kept] at otherMapping
      exact resembles.mapping otherMapping
    · rcases changeForm with formKept | ⟨isMapping, _⟩
      · rw [Document.isMapping, changed, formKept] at otherMapping
        exact resembles.mapping otherMapping
      · exact isMapping

/-- A tag that is not that of a text is the original one. -/
theorem Resembles.tag_eq (resembles : Resembles original document) {number : Nat}
    (notText : document.tag number ≠ .text) : original.tag number = document.tag number := by
  rcases resembles.tag number with kept | ⟨_, isText⟩
  · exact kept.symm
  · exact absurd isText notText

theorem Resembles.withEntries (resembles : Resembles original document) {number : Nat}
    (isMapping : original.isMapping number = true) (entries : List (Nat × Nat)) :
    Resembles original (document.withEntries number entries) :=
  resembles.modify number (.inl rfl) (.inr ⟨isMapping, entries, rfl⟩)

theorem Resembles.withTextKey (resembles : Resembles original document) (key : Nat) :
    Resembles original (document.withTextKey key) := by
  unfold Document.withTextKey
  split
  next isDefault =>
    have notText : document.tag key ≠ .text := by
      rw [isDefault]
      decide
    have original_isDefault := (resembles.tag_eq notText).trans isDefault
    exact resembles.modify key (.inr ⟨original_isDefault, rfl⟩) (.inl rfl)
  · exact resembles

theorem Resembles.settled (resembles : Resembles original document) (entries : List (Nat × Nat)) :
    Resembles original
      (entries.foldl (fun document entry => document.withTextKey entry.1) document) := by
  induction entries generalizing document with
  | nil => exact resembles
  | cons entry entries induction => exact induction (resembles.withTextKey entry.1)

/-- Merging fails only if what is merged in is no mapping. -/
theorem Resembles.resolveFrom (fuel : Nat) (brought : List (Nat × Nat)) {number : Nat}
    (isMapping : original.isMapping number = true) (resembles : Resembles original document) :
    Ends (Resembles original) (fun fault => fault = .malformed)
      (resolveFrom fuel brought number document) := by
  induction fuel generalizing brought number document with
  | zero => exact rfl
  | succ fuel induction =>
      unfold Document.resolveFrom
      extract_lets entries settled opened finish
      split
      · have settledResembles : Resembles original settled := resembles.settled entries
        split
        · exact settledResembles
        · exact settledResembles.withEntries isMapping _
      · let merged (state : List (Nat × Nat) × Document) : Prop := Resembles original state.2
        have openedMerged : merged ([], opened) := resembles.withEntries isMapping _
        have finishes (sources : List Nat) :
            Ends (Resembles original) (fun fault => fault = .malformed) (finish sources) := by
          refine (Ends.foldlM openedMerged ?_).bind ?_
          · rintro ⟨more, current⟩ currentResembles source _member
            -- A source may be `number` again, so the invariant speaks of the original document only.
            dsimp only
            split
            next sourceMapping =>
              have sourceMapped := currentResembles.mapping sourceMapping
              exact (induction [] sourceMapped currentResembles).bind fun _ resolved => resolved
            · exact rfl
          · rintro ⟨more, resolved⟩ resolvedResembles
            exact induction _ isMapping resolvedResembles
        split
        · exact finishes _
        · exact finishes _
        · exact rfl

/-! ## Values of nodes -/

/-- The content of a scalar comes from a scalar, which is another node only for a mapping. -/
theorem ends_scalarText (document : Document) (fuel number : Nat) :
    Ends (fun content => ∃ source, (document.node source).form = .scalar content ∧
        (source = number ∨ document.isMapping number = true))
      (fun fault => fault = .malformed ∨
        fault = .endless ∧ (fuel = 0 ∨ document.isMapping number = true))
      (document.scalarText fuel number) := by
  induction fuel generalizing number with
  | zero => exact .inr ⟨rfl, .inl rfl⟩
  | succ fuel induction =>
      unfold scalarText
      split
      next content isScalar => exact ⟨number, isScalar, .inl rfl⟩
      · exact .inl rfl
      next entries formEq =>
        have isMapping : document.isMapping number = true := by
          rw [Document.isMapping, formEq]
        split
        · exact .inl rfl
        next value _ =>
          apply (induction value).weaken
          · rintro content ⟨source, isScalar, _⟩
            exact ⟨source, isScalar, .inr isMapping⟩
          · rintro fault (malformed | ⟨endless, _⟩)
            · exact .inl malformed
            · exact .inr ⟨endless, .inr isMapping⟩

/-- The value of a node fails for its tag only. -/
theorem Resembles.ends_valueOf (resembles : Resembles original document) (number : Nat) :
    Ends (fun _ => True) (fun fault => fault = .malformed ∨ original.Unfit fault)
      (document.valueOf number) := by
  unfold valueOf
  split
  · exact trivial
  · exact trivial
  · exact trivial
  · exact trivial
  · exact trivial
  · split
    next takesText =>
      apply ((document.ends_scalarText _ number).weaken (fun _ => id) _).bind
      · rintro content ⟨source, isScalar, standsFor⟩
        split
        next isTimestamp =>
          simp only [Bool.and_eq_true, decide_eq_true_eq] at isTimestamp
          have notText : document.tag number ≠ .text := by
            rw [isTimestamp.1]
            decide
          exact .inr (.timestampMapping ((resembles.tag_eq notText).trans isTimestamp.1)
            (resembles.mapping isTimestamp.2))
        · unfold Scalar.ofContent
          cases valueEq : Scalar.value (document.tag number) content with
          | ok data => exact trivial
          | error fault =>
              by_cases malformed : fault = .malformed
              · exact .inl malformed
              · -- Keys of default values have become texts, to which every content belongs.
                have notText : document.tag number ≠ .text := by
                  intro isText
                  rw [isText] at valueEq
                  simp [Scalar.value] at valueEq
                rw [← resembles.tag_eq notText] at valueEq
                exact .inr (.content (resembles.scalar isScalar)
                  (standsFor.imp id resembles.mapping) valueEq malformed)
      · rintro fault (malformed | ⟨rfl, noFuel | isMapping⟩)
        · exact .inl malformed
        · exact absurd noFuel (Nat.succ_ne_zero _)
        · refine .inr (.endless ?_ (resembles.mapping isMapping))
          rcases resembles.tag number with kept | ⟨isDefault, _⟩
          · exact .inl (kept ▸ takesText)
          · exact .inr isDefault
    · exact .inl rfl

end Document

/-! ## Loading -/

/-- The document of a loader goes on resembling the original one, and loading fails only if a rule
of the grammar is broken or if a node is unfit. -/
theorem maintained_resembles (original : Document) :
    Maintained (fun loading => original.Resembles loading.document) (fun _ => True)
      (fun fault => fault = .malformed ∨ original.Unfit fault) where
  malformed := .inl rfl
  valueOf number resembles := resembles.ends_valueOf number
  stored _ _ := trivial
  withValue _ resembles _ := resembles
  withReached _ resembles := resembles
  resolve resembles isMapping :=
    (resembles.resolveFrom _ [] (resembles.mapping isMapping)).weaken (fun _ => id) fun _ => .inl
  ofList _ := trivial
  ofPairs _ := trivial
  ofNoEntries := trivial
  insertEntry _ _ _ := trivial
  ofKeys _ := trivial

/-- A document that does not load breaks a rule of the grammar or has an unfit node. -/
theorem Document.ends_load (order : SetOrder) (document : Document) :
    Ends (fun _ => True) (fun fault => fault = .malformed ∨ document.Unfit fault)
      (document.load order) :=
  (maintained_resembles document).ends_load document.resembles_refl fun _ _ => trivial

end ApiTypes.Yaml
