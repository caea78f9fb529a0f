import ApiTypes.Proofs.Outcomes
import ApiTypes.Yaml.Node

/-!
# Faults of documents

Reading the nodes of a document from its tokens meets no faults but broken rules
of the grammar and those that are among the tokens.
-/

namespace ApiTypes.Yaml.Node

/-- The faults of a reader are among those of the tokens that are left, all of which are
admitted, or rules of the grammar are broken. -/
abbrev Meets (admits : Fault → Prop) (reader : Reader α) : Prop :=
  Keeps (fun reading => ∀ fault, .fault fault ∈ reading.tokens → admits fault) admits
    (fun _ => True) reader

section Readers

variable {admits : Fault → Prop}

theorem Meets.bind {reader : Reader α} {next : α → Reader β} (meets : Meets admits reader)
    (nextMeets : ∀ result, Meets admits (next result)) : Meets admits (reader >>= next) :=
  Keeps.bind meets fun result _ => nextMeets result

/-- The last reader gives a part of the result. -/
theorem Meets.into {reader : Reader α} (meets : Meets admits reader) (function : α → β) :
    Meets admits (do return function (← reader)) :=
  meets.bind fun _ => Keeps.pure trivial

theorem Meets.afterSkip {reader : Reader α} (meets : Meets admits reader) :
    Meets admits (do Reader.skip; reader) := by
  apply Keeps.bind
  · apply Keeps.modify
    intro reading admitted fault member
    exact admitted fault (List.mem_of_mem_tail member)
  · intro _ _
    exact meets

theorem meets_complete (number : Nat) (form : Form) :
    Meets admits (Reader.complete number form) := by
  apply Keeps.bind
  · apply Keeps.modify
    intro reading admitted
    exact admitted
  · intro _ _
    exact Keeps.pure trivial

/-- A collection is numbered before its members are read. -/
theorem meets_collection {begin : Reader Nat} {members : Reader α} (beginMeets : Meets admits begin)
    (membersMeet : Meets admits members) (form : α → Form) :
    Meets admits (do
      let number ← begin
      Reader.complete number (form (← members))) := by
  apply beginMeets.bind
  intro number
  apply membersMeet.bind
  intro result
  exact meets_complete number (form result)

variable (malformed : admits .malformed)

include malformed

theorem Meets.afterPeek {next : Token → Reader α} (nextMeets : ∀ token, Meets admits (next token)) :
    Meets admits (Reader.peek >>= next) := by
  apply Meets.bind _ nextMeets
  apply Keeps.bind Keeps.get
  intro reading admitted
  split
  next fault others tokens =>
    apply Keeps.throw
    apply admitted
    rw [tokens]
    exact List.mem_cons_self
  · exact Keeps.pure trivial
  · exact Keeps.throw malformed

theorem meets_newNode (anchor : Option Text) (node : Node) :
    Meets admits (Reader.newNode anchor node) := by
  apply Keeps.bind Keeps.get
  intro reading admitted
  dsimp only
  split
  · apply Keeps.bind (Keeps.set admitted)
    intro _ _
    exact Keeps.pure trivial
  · split
    · exact fun _ _ => malformed
    · apply Keeps.bind (Keeps.set admitted)
      intro _ _
      exact Keeps.pure trivial

theorem meets_anchored (name : Text) : Meets admits (Reader.anchored name) := by
  apply Keeps.bind Keeps.get
  intro reading _
  split
  · exact Keeps.pure trivial
  · exact Keeps.throw malformed

theorem meets_tagName (handle : Option Text) (suffix : Text) :
    Meets admits (Reader.tagName handle suffix) := by
  unfold Reader.tagName
  split
  · exact Keeps.pure trivial
  · apply Keeps.bind Keeps.get
    intro reading _
    split
    · exact Keeps.pure trivial
    · exact Keeps.throw malformed

theorem meets_properties : Meets admits Reader.properties := by
  apply Meets.afterPeek malformed
  intro token
  split
  · apply Meets.afterSkip
    apply Meets.afterPeek malformed
    intro next
    split
    · apply Meets.afterSkip
      exact (meets_tagName malformed _ _).into _
    · exact Keeps.pure trivial
  · apply Meets.afterSkip
    apply Meets.afterPeek malformed
    intro next
    split
    · apply Meets.afterSkip
      exact (meets_tagName malformed _ _).into _
    · exact (meets_tagName malformed _ _).into _
  · exact Keeps.pure trivial

mutual

/-- Readers of nodes call each other with less fuel. -/
theorem meets_read (place : Place) (fuel : Nat) : Meets admits (read place fuel) := by
  cases fuel with
  | zero => exact Keeps.throw malformed
  | succ fuel =>
      unfold read
      apply Meets.afterPeek malformed
      intro token
      split
      · apply Meets.afterSkip
        exact meets_anchored malformed _
      · apply (meets_properties malformed).bind
        rintro ⟨anchor, tag⟩
        have begins (node : Node) := meets_newNode malformed anchor node
        apply Meets.afterPeek malformed
        intro next
        split
        · apply Meets.afterSkip
          exact begins _
        · apply Meets.afterSkip
          exact meets_collection (begins _) (meets_readFlowItems true fuel) _
        · apply Meets.afterSkip
          exact meets_collection (begins _) (meets_readFlowEntries true fuel) _
        · split
          · apply Meets.afterSkip
            exact meets_collection (begins _) (meets_readBlockItems fuel) _
          · split
            · apply Meets.afterSkip
              exact meets_collection (begins _) (meets_readBlockEntries fuel) _
            · split
              · exact meets_collection (begins _) (meets_readPlainItems fuel) _
              · split
                · exact begins _
                · exact Keeps.throw malformed

theorem meets_readUnless (isStop : Token → Bool) (place : Place) (fuel : Nat) :
    Meets admits (readUnless isStop place fuel) := by
  cases fuel with
  | zero => exact Keeps.throw malformed
  | succ fuel =>
      unfold readUnless
      apply Meets.afterPeek malformed
      intro token
      split
      · exact meets_newNode malformed _ _
      · exact meets_read place fuel

theorem meets_readValue (isStop : Token → Bool) (place : Place) (fuel : Nat) :
    Meets admits (readValue isStop place fuel) := by
  cases fuel with
  | zero => exact Keeps.throw malformed
  | succ fuel =>
      unfold readValue
      apply Meets.afterPeek malformed
      intro token
      split
      · apply Meets.afterSkip
        exact meets_readUnless isStop place fuel
      · exact meets_newNode malformed _ _

theorem meets_readBlockItems (fuel : Nat) : Meets admits (readBlockItems fuel) := by
  cases fuel with
  | zero => exact Keeps.throw malformed
  | succ fuel =>
      unfold readBlockItems
      apply Meets.afterPeek malformed
      intro token
      split
      · apply Meets.afterSkip
        apply (meets_readUnless _ _ fuel).bind
        intro item
        exact (meets_readBlockItems fuel).into _
      · apply Meets.afterSkip
        exact Keeps.pure trivial
      · exact Keeps.throw malformed

theorem meets_readPlainItems (fuel : Nat) : Meets admits (readPlainItems fuel) := by
  cases fuel with
  | zero => exact Keeps.throw malformed
  | succ fuel =>
      unfold readPlainItems
      apply Meets.afterPeek malformed
      intro token
      split
      · apply Meets.afterSkip
        apply (meets_readUnless _ _ fuel).bind
        intro item
        exact (meets_readPlainItems fuel).into _
      · exact Keeps.pure trivial

theorem meets_readBlockEntries (fuel : Nat) : Meets admits (readBlockEntries fuel) := by
  cases fuel with
  | zero => exact Keeps.throw malformed
  | succ fuel =>
      unfold readBlockEntries
      apply Meets.afterPeek malformed
      intro token
      split
      · apply Meets.afterSkip
        apply (meets_readUnless _ _ fuel).bind
        intro key
        apply (meets_readValue _ _ fuel).bind
        intro value
        exact (meets_readBlockEntries fuel).into _
      · apply Meets.afterSkip
        exact Keeps.pure trivial
      · exact Keeps.throw malformed

theorem meets_readFlowItems (first : Bool) (fuel : Nat) :
    Meets admits (readFlowItems first fuel) := by
  cases fuel with
  | zero => exact Keeps.throw malformed
  | succ fuel =>
      unfold readFlowItems
      apply Meets.afterPeek malformed
      intro token
      split
      · apply Meets.afterSkip
        exact Keeps.pure trivial
      · extract_lets isStop others
        -- The first item has no comma before it, and the others are read in the same way.
        have othersMeet (start : Unit) : Meets admits (others start) := by
          apply Meets.afterPeek malformed
          intro next
          split
          · apply Meets.afterSkip
            exact Keeps.pure trivial
          · apply Meets.afterSkip
            apply (meets_newNode malformed _ _).bind
            intro number
            apply (meets_readUnless _ _ fuel).bind
            intro key
            apply (meets_readValue _ _ fuel).bind
            intro value
            apply (meets_complete _ _).bind
            intro item
            exact (meets_readFlowItems false fuel).into _
          · apply (meets_read .flow fuel).bind
            intro item
            exact (meets_readFlowItems false fuel).into _
        split
        · apply Meets.afterPeek malformed
          intro next
          split
          · exact (othersMeet ()).afterSkip
          · exact fun _ _ => malformed
        · exact othersMeet ()

theorem meets_readFlowEntries (first : Bool) (fuel : Nat) :
    Meets admits (readFlowEntries first fuel) := by
  cases fuel with
  | zero => exact Keeps.throw malformed
  | succ fuel =>
      unfold readFlowEntries
      apply Meets.afterPeek malformed
      intro token
      split
      · apply Meets.afterSkip
        exact Keeps.pure trivial
      · extract_lets isStop others
        have othersMeet (start : Unit) : Meets admits (others start) := by
          apply Meets.afterPeek malformed
          intro next
          split
          · apply Meets.afterSkip
            exact Keeps.pure trivial
          · apply Meets.afterSkip
            apply (meets_readUnless _ _ fuel).bind
            intro key
            apply (meets_readValue _ _ fuel).bind
            intro value
            exact (meets_readFlowEntries false fuel).into _
          · apply (meets_read .flow fuel).bind
            intro key
            apply (meets_newNode malformed _ _).bind
            intro value
            exact (meets_readFlowEntries false fuel).into _
        split
        · apply Meets.afterPeek malformed
          intro next
          split
          · exact (othersMeet ()).afterSkip
          · exact fun _ _ => malformed
        · exact othersMeet ()

end

/-! ## Documents -/

theorem meets_readDirectives (versioned : Bool) (handles : List (Text × Text)) (fuel : Nat) :
    Meets admits (readDirectives versioned handles fuel) := by
  induction fuel generalizing versioned handles with
  | zero => exact Keeps.throw malformed
  | succ fuel induction =>
      unfold readDirectives
      apply Meets.afterPeek malformed
      intro token
      split
      · split
        · exact Keeps.throw malformed
        · exact (induction _ _).afterSkip
      · split
        · exact Keeps.throw malformed
        · exact (induction _ _).afterSkip
      · exact (induction _ _).afterSkip
      · exact Keeps.pure trivial

theorem meets_skipDocumentEnds (fuel : Nat) : Meets admits (skipDocumentEnds fuel) := by
  induction fuel with
  | zero => exact Keeps.throw malformed
  | succ fuel induction =>
      unfold skipDocumentEnds
      apply Meets.afterPeek malformed
      intro token
      split
      · exact induction.afterSkip
      · exact Keeps.pure trivial

theorem meets_readContent (fuel : Nat) : Meets admits (readContent fuel) := by
  have absentMeets := meets_newNode malformed none absent
  apply Meets.afterPeek malformed
  intro token
  split
  · exact absentMeets
  · exact absentMeets
  · exact absentMeets
  · exact absentMeets
  · exact absentMeets
  · exact absentMeets
  · exact meets_read malformed .block fuel

theorem meets_readExplicit (fuel : Nat) : Meets admits (readExplicit fuel) := by
  apply (meets_readDirectives malformed false [] fuel).bind
  intro declared
  apply Meets.bind
  · apply Keeps.modify
    intro reading admitted
    exact admitted
  · intro _
    apply Meets.afterPeek malformed
    intro token
    split
    · exact (meets_readContent malformed fuel).afterSkip
    · exact Keeps.throw malformed

theorem meets_readStream (fuel : Nat) : Meets admits (readStream fuel) := by
  unfold readStream
  extract_lets isMark finish
  apply Meets.afterPeek malformed
  intro token
  split
  · exact Keeps.pure trivial
  · have finishMeets (root : Nat) : Meets admits (finish root) := by
      apply (meets_skipDocumentEnds malformed fuel).bind
      intro _
      apply Meets.afterPeek malformed
      intro next
      split
      · exact Keeps.pure trivial
      · apply (meets_readDirectives malformed false [] fuel).bind
        intro _
        exact Keeps.throw malformed
    split
    · exact (meets_readExplicit malformed fuel).bind finishMeets
    · exact (meets_read malformed .block fuel).bind finishMeets

end Readers

end ApiTypes.Yaml.Node

namespace ApiTypes.Yaml

/-- Tokens are no document if they break a rule of the grammar or if one of them is a fault. -/
theorem Document.ends_ofTokens (tokens : List Token) :
    Ends (fun _ => True) (fun fault => fault = .malformed ∨ .fault fault ∈ tokens)
      (Document.ofTokens tokens) := by
  let admits (fault : Fault) : Prop := fault = .malformed ∨ .fault fault ∈ tokens
  have malformed : admits .malformed := .inl rfl
  have streamMeets := Node.meets_readStream malformed (4 * tokens.length + 16)
  apply (streamMeets _ fun fault member => .inr member).bind
  intro _ _
  exact trivial

end ApiTypes.Yaml
