import ApiTypes.Proofs.Outcomes
import ApiTypes.Yaml.Token.Scan
import Mathlib.Data.List.InsertIdx

/-!
# Faults of tokens

A YAML text stops being read where it breaks the grammar, and at two numbers: one
that an escape gives to no code point, and one of a version with too many digits.
-/

namespace ApiTypes.Yaml

/-- What may be wrong with the text of a document. -/
def Fault.IsLexical : Fault → Prop
  | .malformed => True
  | .escapeOutOfRange number => 0x10FFFF < number
  | .integer (.tooLong digits) => Text.longestInteger < digits
  | _ => False

/-- A token that marks a fault. -/
def Token.isFault : Token → Bool
  | .fault _ => true
  | _ => false

/-- A reader gives a result with a property or stops at such a fault. -/
abbrev Lexes (accepts : α → Prop) (outcome : Except Fault α) : Prop :=
  Ends accepts Fault.IsLexical outcome

/-! ## Scalars -/

theorem lexes_quotedBreaks (fuel : Nat) (cursor : Cursor) (reversed : Text) :
    Lexes (fun _ => True) (quotedBreaks fuel cursor reversed) := by
  fun_induction quotedBreaks fuel cursor reversed with
  | case1 => exact trivial
  | case2 => exact trivial
  | case3 _ _ _ _ _ _ _ _ _ induction => exact induction
  | case4 => exact trivial

/-- Only numbers beyond the last code point have no code point. -/
theorem lt_of_ofNat?_eq_none {number : Nat} (noPoint : CodePoint.ofNat? number = none) :
    0x10FFFF < number := by
  have invalid : ¬ number.isValidChar := by
    intro valid
    rw [CodePoint.ofNat?, dif_pos valid] at noPoint
    exact absurd noPoint (Option.some_ne_none _)
  rw [CodePoint.ofNat?, dif_neg invalid] at noPoint
  split at noPoint
  · exact absurd noPoint (Option.some_ne_none _)
  next notSurrogate =>
    simp only [Nat.isValidChar] at invalid
    omega

theorem lexes_readEscape (cursor : Cursor) : Lexes (fun _ => True) (readEscape cursor) := by
  unfold readEscape
  split
  · exact trivial
  next letter =>
    split
    · exact trivial
    · split
      · split
        · exact trivial
        · split
          · exact trivial
          next noPoint => exact lt_of_ofNat?_eq_none noPoint
      · split
        · exact lexes_quotedBreaks _ _ _
        · exact trivial

theorem lexes_quotedGap (cursor : Cursor) : Lexes (fun _ => True) (quotedGap cursor) := by
  unfold quotedGap
  dsimp only
  split
  · exact trivial
  · split
    · apply Ends.bind (lexes_quotedBreaks _ _ _)
      intro _ _
      exact trivial
    · exact trivial

theorem lexes_quotedFrom (mark : CodePoint) (fuel : Nat) (cursor : Cursor) (reversed : Text) :
    Lexes (fun _ => True) (quotedFrom mark fuel cursor reversed) := by
  induction fuel generalizing cursor reversed with
  | zero => exact trivial
  | succ fuel induction =>
      unfold quotedFrom
      split
      · exact trivial
      · split
        · split
          · exact induction _ _
          · exact trivial
        · split
          · apply Ends.bind (lexes_readEscape _)
            intro _ _
            exact induction _ _
          · split
            · apply Ends.bind (lexes_quotedGap _)
              intro _ _
              exact induction _ _
            · exact induction _ _

theorem lexes_blockMarks (cursor : Cursor) : Lexes (fun _ => True) (blockMarks cursor) := by
  unfold blockMarks
  extract_lets chomp indent
  split
  split
  · exact trivial
  · exact trivial

theorem lexes_restOfLine (cursor : Cursor) : Lexes (fun _ => True) (restOfLine cursor) := by
  unfold restOfLine
  dsimp only
  split
  · exact trivial
  · exact trivial

theorem lexes_blockScalar (folded : Bool) (outer : Int) (cursor : Cursor) :
    Lexes (fun _ => True) (blockScalar folded outer cursor) := by
  unfold blockScalar
  apply Ends.bind (lexes_blockMarks _)
  intro _ _
  apply Ends.bind (lexes_restOfLine _)
  intro _ _
  dsimp only
  split
  · exact trivial
  · exact trivial

namespace Scanner

/-! ## Tags and directives -/

theorem lexes_tagHandle (cursor : Cursor) : Lexes (fun _ => True) (tagHandle cursor) := by
  unfold tagHandle
  dsimp only
  split
  · exact trivial
  · split
    · exact trivial
    · split
      · exact trivial
      · exact trivial

theorem lexes_tagOctets (fuel : Nat) (cursor : Cursor) (reversed : Bytes) :
    Lexes (fun _ => True) (tagOctets fuel cursor reversed) := by
  induction fuel generalizing cursor reversed with
  | zero => exact trivial
  | succ fuel induction =>
      unfold tagOctets
      split
      · split
        · exact induction _ _
        · exact trivial
      · exact trivial

theorem lexes_tagPoints (fuel : Nat) (cursor : Cursor) (reversed : Text) :
    Lexes (fun _ => True) (tagPoints fuel cursor reversed) := by
  induction fuel generalizing cursor reversed with
  | zero => exact trivial
  | succ fuel induction =>
      unfold tagPoints
      split
      · exact trivial
      · split
        · apply Ends.bind (lexes_tagOctets _ _ _)
          intro _ _
          dsimp only
          split
          · exact induction _ _
          · exact trivial
        · split
          · exact induction _ _
          · exact trivial

theorem lexes_tagSuffix (cursor : Cursor) : Lexes (fun _ => True) (tagSuffix cursor) := by
  unfold tagSuffix
  split
  · exact trivial
  · split
    · exact lexes_tagPoints _ _ _
    · exact trivial

theorem lexes_versionNumber (cursor : Cursor) : Lexes (fun _ => True) (versionNumber cursor) := by
  unfold versionNumber
  dsimp only
  split
  · exact trivial
  · split
    next long => exact long
    · exact trivial

/-- The readers of tags and directives give no fault as a token. -/
theorem lexes_readTag (cursor : Cursor) :
    Lexes (fun (token, _) => token.isFault = false) (readTag cursor) := by
  unfold readTag
  extract_lets next finish
  -- All four forms of a tag end in the same check of what follows.
  have finishes (token : Token) (stop : Cursor) (noFault : token.isFault = false) :
      Lexes (fun (token, _) => token.isFault = false) (finish (token, stop)) := by
    dsimp only [finish]
    split
    · exact noFault
    · exact trivial
  split
  · apply Ends.bind (lexes_tagSuffix _)
    intro _ _
    dsimp only
    split
    · exact finishes _ _ rfl
    · exact trivial
  · split
    · exact finishes _ _ rfl
    · split
      · apply Ends.bind (lexes_tagHandle _)
        intro _ _
        apply Ends.bind (lexes_tagSuffix _)
        intro _ _
        exact finishes _ _ rfl
      · apply Ends.bind (lexes_tagSuffix _)
        intro _ _
        exact finishes _ _ rfl

/-- Counterpart of `lexes_readTag`. -/
theorem lexes_readDirective (cursor : Cursor) :
    Lexes (fun (token, _) => token.isFault = false) (readDirective cursor) := by
  unfold readDirective
  extract_lets finish
  have finishes (token : Token) (stop : Cursor) (noFault : token.isFault = false) :
      Lexes (fun (token, _) => token.isFault = false) (finish (token, stop)) := by
    apply Ends.bind (lexes_restOfLine stop)
    intro _ _
    exact noFault
  split
  split
  · exact trivial
  · split
    · apply Ends.bind (lexes_versionNumber _)
      rintro ⟨major, point⟩ _
      dsimp only
      split
      · exact trivial
      · apply Ends.bind (lexes_versionNumber _)
        rintro ⟨minor, stop⟩ _
        dsimp only
        split
        · exact finishes _ _ rfl
        · exact trivial
    · split
      · apply Ends.bind (lexes_tagHandle _)
        rintro ⟨handle, afterHandle⟩ _
        dsimp only
        split
        · exact trivial
        · apply Ends.bind (lexes_tagSuffix _)
          rintro ⟨opening, stop⟩ _
          dsimp only
          split
          · exact finishes _ _ rfl
          · exact trivial
      · exact finishes _ _ rfl

theorem lexes_anchorName (cursor : Cursor) : Lexes (fun _ => True) (anchorName cursor) := by
  unfold anchorName
  dsimp only
  split
  · exact trivial
  · split
    · exact trivial
    · exact trivial

/-! ## Tokens -/

/-- None of the tokens so far is a fault. -/
def IsClean (scanner : Scanner) : Prop :=
  ∀ token ∈ scanner.tokens, token.isFault = false

variable {scanner : Scanner}

theorem IsClean.emit (clean : scanner.IsClean) {token : Token} (noFault : token.isFault = false) :
    (scanner.emit token).IsClean :=
  List.forall_mem_cons.mpr ⟨noFault, clean⟩

theorem IsClean.insert (clean : scanner.IsClean) (position : Nat) {token : Token}
    (noFault : token.isFault = false) : (scanner.insert position token).IsClean := by
  intro other member
  rcases List.eq_or_mem_of_mem_insertIdx member with rfl | member
  · exact noFault
  · exact clean other member

theorem IsClean.unwind (clean : scanner.IsClean) (column : Int) :
    (scanner.unwind column).IsClean := by
  unfold Scanner.unwind
  split
  · intro token member
    rcases List.mem_append.mp member with closing | before
    · rw [(List.mem_replicate.mp closing).2]
      rfl
    · exact clean token before
  · exact clean

theorem IsClean.openBlock (clean : scanner.IsClean) (column : Nat) {token : Token}
    (noFault : token.isFault = false) (position : Nat) :
    (scanner.openBlock column token position).IsClean := by
  unfold Scanner.openBlock
  split
  · exact IsClean.insert clean position noFault
  · exact clean

theorem IsClean.skipToToken (clean : scanner.IsClean) (fuel : Nat) :
    (scanner.skipToToken fuel).IsClean := by
  induction fuel generalizing scanner with
  | zero => exact clean
  | succ fuel induction =>
      unfold Scanner.skipToToken
      extract_lets atMark cursor next moved
      split
      · exact induction clean
      · exact clean

theorem lexes_dropStaleKeys (clean : scanner.IsClean) : Lexes IsClean scanner.dropStaleKeys := by
  unfold dropStaleKeys
  split
  · exact trivial
  · exact clean

theorem lexes_dropKey (clean : scanner.IsClean) : Lexes IsClean scanner.dropKey := by
  unfold dropKey
  dsimp only
  split
  · exact trivial
  · exact clean

theorem lexes_saveKey (clean : scanner.IsClean) : Lexes IsClean scanner.saveKey := by
  unfold saveKey
  split
  · apply Ends.bind (lexes_dropKey clean)
    intro cleared clearedClean
    exact clearedClean
  · exact clean

/-- Every reader of a token adds no fault to the tokens. -/
theorem lexes_readStreamEnd (clean : scanner.IsClean) : Lexes IsClean scanner.readStreamEnd := by
  apply Ends.bind (lexes_dropKey (clean.unwind (-1)))
  intro cleared clearedClean
  exact IsClean.emit clearedClean rfl

theorem lexes_readDirectiveToken (clean : scanner.IsClean) :
    Lexes IsClean scanner.readDirectiveToken := by
  apply Ends.bind (lexes_dropKey (clean.unwind (-1)))
  intro cleared clearedClean
  apply Ends.bind (lexes_readDirective _)
  rintro ⟨token, stop⟩ noFault
  exact IsClean.emit clearedClean noFault

theorem lexes_readDocumentMark (clean : scanner.IsClean) {token : Token}
    (noFault : token.isFault = false) : Lexes IsClean (scanner.readDocumentMark token) := by
  apply Ends.bind (lexes_dropKey (clean.unwind (-1)))
  intro cleared clearedClean
  exact IsClean.emit clearedClean noFault

theorem lexes_readFlowStart (clean : scanner.IsClean) {token : Token}
    (noFault : token.isFault = false) : Lexes IsClean (scanner.readFlowStart token) := by
  apply Ends.bind (lexes_saveKey clean)
  intro saved savedClean
  exact IsClean.emit savedClean noFault

theorem lexes_readFlowEnd (clean : scanner.IsClean) {token : Token}
    (noFault : token.isFault = false) : Lexes IsClean (scanner.readFlowEnd token) := by
  apply Ends.bind (lexes_dropKey clean)
  intro cleared clearedClean
  exact IsClean.emit clearedClean noFault

theorem lexes_readFlowEntry (clean : scanner.IsClean) : Lexes IsClean scanner.readFlowEntry := by
  apply Ends.bind (lexes_dropKey clean)
  intro cleared clearedClean
  exact IsClean.emit clearedClean rfl

/-- Outside of flow collections an indicator may open a block collection. -/
theorem IsClean.opened (clean : scanner.IsClean) (column : Nat) {token : Token}
    (noFault : token.isFault = false) (position : Nat) :
    (if scanner.flowLevel = 0 then scanner.openBlock column token position
      else scanner).IsClean := by
  split
  · exact clean.openBlock column noFault position
  · exact clean

theorem lexes_readBlockEntry (clean : scanner.IsClean) : Lexes IsClean scanner.readBlockEntry := by
  unfold readBlockEntry
  split
  · exact trivial
  · extract_lets opened
    have openedClean : opened.IsClean := clean.opened _ rfl _
    refine Ends.bind (lexes_dropKey openedClean) ?_
    intro cleared clearedClean
    exact IsClean.emit clearedClean rfl

theorem lexes_readKey (clean : scanner.IsClean) : Lexes IsClean scanner.readKey := by
  unfold readKey
  split
  · exact trivial
  · extract_lets opened
    have openedClean : opened.IsClean := clean.opened _ rfl _
    refine Ends.bind (lexes_dropKey openedClean) ?_
    intro cleared clearedClean
    exact IsClean.emit clearedClean rfl

theorem lexes_readValue (clean : scanner.IsClean) : Lexes IsClean scanner.readValue := by
  unfold readValue
  split
  next key found =>
    extract_lets others announced opened
    have announcedClean : announced.IsClean := IsClean.insert clean _ rfl
    have openedClean : opened.IsClean := by
      dsimp only [opened]
      split
      · exact announcedClean.openBlock _ rfl _
      · exact announcedClean
    exact IsClean.emit openedClean rfl
  · split
    · exact trivial
    · extract_lets opened
      have openedClean : opened.IsClean := clean.opened _ rfl _
      refine Ends.bind (lexes_dropKey openedClean) ?_
      intro cleared clearedClean
      exact IsClean.emit clearedClean rfl

theorem lexes_readAnchor (clean : scanner.IsClean) {token : Text → Token}
    (noFault : ∀ name, (token name).isFault = false) :
    Lexes IsClean (scanner.readAnchor token) := by
  apply Ends.bind (lexes_saveKey clean)
  intro saved savedClean
  apply Ends.bind (lexes_anchorName _)
  rintro ⟨name, stop⟩ _
  exact IsClean.emit savedClean (noFault name)

theorem lexes_readTagToken (clean : scanner.IsClean) : Lexes IsClean scanner.readTagToken := by
  apply Ends.bind (lexes_saveKey clean)
  intro saved savedClean
  apply Ends.bind (lexes_readTag _)
  rintro ⟨token, stop⟩ noFault
  exact IsClean.emit savedClean noFault

theorem lexes_readBlockScalar (clean : scanner.IsClean) (folded : Bool) :
    Lexes IsClean (scanner.readBlockScalar folded) := by
  apply Ends.bind (lexes_dropKey clean)
  intro cleared clearedClean
  apply Ends.bind (lexes_blockScalar _ _ _)
  rintro ⟨content, stop⟩ _
  exact IsClean.emit clearedClean rfl

theorem lexes_readQuotedScalar (clean : scanner.IsClean) (mark : CodePoint) :
    Lexes IsClean (scanner.readQuotedScalar mark) := by
  apply Ends.bind (lexes_saveKey clean)
  intro saved savedClean
  apply Ends.bind (lexes_quotedFrom _ _ _ _)
  rintro ⟨content, stop⟩ _
  exact IsClean.emit savedClean rfl

theorem lexes_readPlainScalar (clean : scanner.IsClean) :
    Lexes IsClean scanner.readPlainScalar := by
  apply Ends.bind (lexes_saveKey clean)
  intro saved savedClean
  exact IsClean.emit savedClean rfl

theorem lexes_readToken (clean : scanner.IsClean) : Lexes IsClean scanner.readToken := by
  unfold readToken
  extract_lets cursor inFlow
  split
  · exact lexes_readStreamEnd clean
  · apply Ends.ite (lexes_readDirectiveToken clean)
    apply Ends.ite (lexes_readDocumentMark clean rfl)
    apply Ends.ite (lexes_readDocumentMark clean rfl)
    apply Ends.ite (lexes_readFlowStart clean rfl)
    apply Ends.ite (lexes_readFlowStart clean rfl)
    apply Ends.ite (lexes_readFlowEnd clean rfl)
    apply Ends.ite (lexes_readFlowEnd clean rfl)
    apply Ends.ite (lexes_readFlowEntry clean)
    apply Ends.ite (lexes_readBlockEntry clean)
    apply Ends.ite (lexes_readKey clean)
    apply Ends.ite (lexes_readValue clean)
    apply Ends.ite (lexes_readAnchor clean fun _ => rfl)
    apply Ends.ite (lexes_readAnchor clean fun _ => rfl)
    apply Ends.ite (lexes_readTagToken clean)
    apply Ends.ite (lexes_readBlockScalar clean _)
    apply Ends.ite (lexes_readBlockScalar clean _)
    apply Ends.ite (lexes_readQuotedScalar clean _)
    apply Ends.ite (lexes_readPlainScalar clean)
    exact trivial

/-- One step adds tokens that are no faults, or stops at a fault of the text. -/
theorem lexes_step (clean : scanner.IsClean) : Lexes IsClean scanner.step := by
  apply Ends.bind (lexes_dropStaleKeys (clean.skipToToken _))
  intro fresh freshClean
  exact lexes_readToken (freshClean.unwind _)

/-- The only fault among the tokens of a scanner that stops is the one it stops at. -/
theorem isLexical_of_mem_failed (clean : scanner.IsClean) {stopped fault : Fault}
    (lexical : stopped.IsLexical) (member : .fault fault ∈ scanner.failed stopped) :
    fault.IsLexical := by
  unfold failed at member
  rcases List.mem_cons.mp (List.mem_reverse.mp member) with same | before
  · obtain rfl := Token.fault.inj same
    exact lexical
  · have noFault := clean _ (List.mem_of_mem_drop before)
    exact Bool.noConfusion noFault

theorem isLexical_of_mem_run (fuel : Nat) (clean : scanner.IsClean) {fault : Fault}
    (member : .fault fault ∈ scanner.run fuel) : fault.IsLexical := by
  induction fuel generalizing scanner with
  | zero =>
      have lexical : Fault.malformed.IsLexical := trivial
      exact isLexical_of_mem_failed clean lexical member
  | succ fuel induction =>
      have stepEnds := lexes_step clean
      unfold run at member
      split at member
      -- Only the step that fails adds a fault, as the last token.
      next stopped stepEq =>
        rw [stepEq] at stepEnds
        exact isLexical_of_mem_failed clean stepEnds member
      next after stepEq =>
        rw [stepEq] at stepEnds
        split at member
        · have noFault := stepEnds _ (List.mem_reverse.mp member)
          exact Bool.noConfusion noFault
        · exact induction stepEnds member

end Scanner

/-- A fault among the tokens of a text is a fault of the text. -/
theorem Token.isLexical_of_mem_ofText {text : Text} {fault : Fault}
    (member : .fault fault ∈ Token.ofText text) : fault.IsLexical := by
  unfold Token.ofText at member
  split at member
  · apply Scanner.isLexical_of_mem_run _ _ member
    intro token inStart
    simp [Scanner.start] at inStart
  · obtain rfl := Token.fault.inj (List.mem_singleton.mp member)
    exact trivial

end ApiTypes.Yaml
