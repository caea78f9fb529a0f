import ApiTypes.Json.Load
import ApiTypes.Proofs.DistinctKeys
import ApiTypes.Proofs.Outcomes
import ApiTypes.Proofs.WritableIntegers

/-!
# Integers in JSON

Readers of JSON take their text from the front.  All integers that they give can
be written, and they stop at an integer only where the text has more digits in a
row than an integer may have.
-/

namespace ApiTypes

namespace Data

/-- Data that is an integer or a float. -/
def isNumber : Data → Bool
  | .integer _ => true
  | .float _ => true
  | _ => false

end Data

namespace Text

/-- Digits that are too many for an integer. -/
def IsTooLong (digits : Text) : Prop :=
  digits.all CodePoint.isDigit = true ∧ longestInteger < digits.length

theorem valueOfDigits_lt_pow {base : Nat} {digits : List Nat}
    (below : ∀ digit ∈ digits, digit < base) :
    valueOfDigits base digits < Nat.pow base digits.length := by
  -- A fold may begin with any value, which is less than one more than itself.
  have fromValue (value : Nat) :
      digits.foldl (fun value digit => value * base + digit) value <
        (value + 1) * base ^ digits.length := by
    induction digits generalizing value with
    | nil => simp
    | cons digit digits induction =>
        have digitBelow : digit < base := below digit (by simp)
        have others := induction (fun other member => below other (by simp [member]))
          (value * base + digit)
        have bound : value * base + digit + 1 ≤ (value + 1) * base := by
          rw [Nat.add_mul, Nat.one_mul]
          omega
        calc
          _ < (value * base + digit + 1) * base ^ digits.length := others
          _ ≤ (value + 1) * base * base ^ digits.length := Nat.mul_le_mul_right _ bound
          _ = (value + 1) * base ^ (digits.length + 1) := by rw [Nat.pow_succ', Nat.mul_assoc]
  simpa [valueOfDigits] using fromValue 0

theorem valueOfDigits_lt_of_length_le {base bound : Nat} (positive : 0 < base) {digits : List Nat}
    (below : ∀ digit ∈ digits, digit < base) (short : digits.length ≤ bound) :
    valueOfDigits base digits < Nat.pow base bound := by
  calc
    _ < base ^ digits.length := valueOfDigits_lt_pow below
    _ ≤ base ^ bound := Nat.pow_le_pow_right positive short

/-- The digits at the beginning of a text have the values of a run of it. -/
theorem splitDigits_eq (text : Text) :
    ∃ digits rest, text = digits ++ rest ∧ digits.all CodePoint.isDigit = true ∧
      splitDigits text = (digits.map fun point => point.toNat - 0x30, rest) := by
  refine ⟨_, _, (List.takeWhile_append_dropWhile (p := CodePoint.isDigit)).symm, ?_, rfl⟩
  exact List.all_takeWhile

end Text

namespace Json

/-- A reader stops at an integer only if digits in the text are too many. -/
def Stop.IsDueTo (text : Text) : Stop → Prop
  | .problem _ _ => True
  | .integer error =>
      ∃ digits : Text, digits <:+: text ∧ digits.IsTooLong ∧ error = .tooLong digits.length

/-- The result has a property and the rest is behind it in the text, unless the reader stops. -/
def Takes (accepts : α → Prop) (text : Text) (outcome : Except Stop (α × Text)) : Prop :=
  Ends (fun (result, rest) => accepts result ∧ rest <:+ text) (Stop.IsDueTo text) outcome

namespace Takes

variable {α β : Type} {accepts : α → Prop} {accepted : β → Prop} {text : Text}

theorem ofSuffix {rest : Text} {outcome : Except Stop (α × Text)} (isSuffix : rest <:+ text)
    (takes : Takes accepts rest outcome) : Takes accepts text outcome := by
  apply Ends.weaken takes
  · rintro ⟨result, left⟩ ⟨isAccepted, leftSuffix⟩
    exact ⟨isAccepted, leftSuffix.trans isSuffix⟩
  · intro stop isDue
    cases stop with
    | problem problem place => exact trivial
    | integer error =>
        obtain ⟨digits, inside, tooLong⟩ := isDue
        exact ⟨digits, inside.trans isSuffix.isInfix, tooLong⟩

theorem bind {first : Except Stop (α × Text)} {next : α × Text → Except Stop (β × Text)}
    (takes : Takes accepts text first)
    (nextTakes : ∀ result rest, accepts result → rest <:+ text →
      Takes accepted text (next (result, rest))) :
    Takes accepted text (first >>= next) := by
  apply Ends.bind takes
  rintro ⟨result, rest⟩ ⟨isAccepted, isSuffix⟩
  exact nextTakes result rest isAccepted isSuffix

end Takes

theorem skipSpace_isSuffix (text : Text) : skipSpace text <:+ text :=
  List.dropWhile_suffix _

theorem isSuffix_of_skipSpace_eq_cons {text rest left : Text} {point : CodePoint}
    (isSuffix : rest <:+ text) (found : skipSpace rest = point :: left) : left <:+ text := by
  have spaceSuffix := (skipSpace_isSuffix rest).trans isSuffix
  rw [found] at spaceSuffix
  exact (List.suffix_cons point left).trans spaceSuffix

/-! ## Strings -/

/-- Escapes are broken, but they are no integers. -/
def IsProblem (stop : Stop) : Prop :=
  ∃ problem rest, stop = .problem problem rest

theorem isDueTo_of_isProblem {text : Text} (stop : Stop) (isProblem : IsProblem stop) :
    stop.IsDueTo text := by
  obtain ⟨problem, rest, rfl⟩ := isProblem
  exact trivial

theorem ends_lowHalf? (high : CodePoint) (rest : Text) :
    Ends (fun _ => True) IsProblem (lowHalf? high rest) := by
  unfold lowHalf?
  repeat' split
  all_goals first | exact trivial | exact ⟨_, _, rfl⟩

theorem ends_escape (opening text : Text) :
    Ends (fun _ => True) IsProblem (escape opening text) := by
  unfold escape
  split
  · exact ⟨_, _, rfl⟩
  · split
    · exact ⟨_, _, rfl⟩
    · split
      · exact ⟨_, _, rfl⟩
      · dsimp only
        split
        · apply Ends.bind (ends_lowHalf? _ _)
          intro joined _
          split <;> exact trivial
        · exact trivial
  · split
    · exact trivial
    · exact ⟨_, _, rfl⟩

theorem takes_stringFrom (opening : Text) (skipped : Nat) (text : Text) :
    Takes (fun _ => True) text (stringFrom opening skipped text) := by
  induction text generalizing skipped with
  | nil => exact trivial
  | cons point rest induction =>
      have isSuffix : rest <:+ point :: rest := List.suffix_cons point rest
      cases skipped with
      | succ skipped => exact (induction skipped).ofSuffix isSuffix
      | zero =>
          rw [stringFrom]
          split
          · exact ⟨trivial, isSuffix⟩
          · split
            · have escapeEnds := ends_escape opening rest
              apply Ends.bind (escapeEnds.weaken (fun _ => id) isDueTo_of_isProblem)
              rintro ⟨value, length⟩ _
              change Takes (fun _ => True) (point :: rest) (stringFrom opening length rest >>= _)
              apply Takes.bind ((induction length).ofSuffix isSuffix)
              intro content left _ leftSuffix
              exact ⟨trivial, leftSuffix⟩
            · split
              · exact trivial
              · apply Takes.bind ((induction 0).ofSuffix isSuffix)
                intro content left _ leftSuffix
                exact ⟨trivial, leftSuffix⟩

/-! ## Numbers -/

theorem fraction_isSuffix (text : Text) : (fraction text).2 <:+ text := by
  unfold fraction
  split
  next rest =>
    split
    · exact List.suffix_refl _
    next digits after _ split =>
      have after_eq : after = rest.dropWhile CodePoint.isDigit := (Prod.mk.inj split).2.symm
      rw [after_eq]
      exact (List.dropWhile_suffix _).trans (List.suffix_cons _ _)
  · exact List.suffix_refl _

theorem splitSign_isSuffix (text : Text) : (Text.splitSign text).2 <:+ text := by
  unfold Text.splitSign
  split
  · exact List.suffix_cons _ _
  · exact List.suffix_cons _ _
  · exact List.suffix_refl _

theorem exponent_isSuffix (text : Text) : (exponent text).2 <:+ text := by
  unfold exponent
  split
  next mark rest =>
    split
    · split
      next negative unsigned signSplit =>
        have unsigned_eq : unsigned = (Text.splitSign rest).2 := by rw [signSplit]
        split
        · exact List.suffix_refl _
        next digits after _ digitsSplit =>
          have after_eq : after = unsigned.dropWhile CodePoint.isDigit :=
            (Prod.mk.inj digitsSplit).2.symm
          rw [after_eq, unsigned_eq]
          exact (List.dropWhile_suffix _).trans
            ((splitSign_isSuffix rest).trans (List.suffix_cons _ _))
    · exact List.suffix_refl _
  · exact List.suffix_refl _

/-- The values of the digits of a whole number are those of a run of the text. -/
theorem wholeDigits_eq (text : Text) :
    ∃ digits rest, text = digits ++ rest ∧ digits.all CodePoint.isDigit = true ∧
      wholeDigits text = (digits.map fun point => point.toNat - 0x30, rest) := by
  unfold wholeDigits
  split
  next rest => exact ⟨[.scalar '0'], rest, rfl, by decide, rfl⟩
  · exact Text.splitDigits_eq text

theorem natAbs_signed (negative : Bool) (magnitude : Nat) :
    (Double.signed negative magnitude).natAbs = magnitude := by
  cases negative <;> simp [Double.signed]

/-- The integer of digits that are not too many can be written. -/
theorem isWritable_integer {digits : Text} (areDigits : digits.all CodePoint.isDigit = true)
    (short : digits.length ≤ Text.longestInteger) (negative : Bool) :
    (Data.integer (Double.signed negative
      (Text.valueOfDigits 10 (digits.map fun point => point.toNat - 0x30)))).IsWritable := by
  intro value inside
  obtain rfl := List.mem_singleton.mp inside
  rw [natAbs_signed]
  unfold Shape.unwritableMagnitude
  apply Text.valueOfDigits_lt_of_length_le (by decide)
  · intro digit member
    obtain ⟨point, pointMember, rfl⟩ := List.mem_map.mp member
    have isDigit := List.all_eq_true.mp areDigits point pointMember
    simp only [CodePoint.isDigit, Bool.and_eq_true, decide_eq_true_eq] at isDigit
    omega
  · rwa [List.length_map]

theorem takes_number (start : Text) :
    Takes (fun data => data.isNumber = true ∧ data.IsWritable) start (number start) := by
  unfold number
  split
  next negative unsigned signSplit =>
    have unsignedSuffix : unsigned <:+ start := by
      split at signSplit
      · obtain ⟨_, rfl⟩ := Prod.mk.inj signSplit
        exact List.suffix_cons _ _
      · obtain ⟨_, rfl⟩ := Prod.mk.inj signSplit
        exact List.suffix_refl _
    apply Takes.ofSuffix unsignedSuffix
    -- The digits are as many as their values, which the fault counts.
    obtain ⟨digits, rest, rfl, areDigits, wholeEq⟩ := wholeDigits_eq unsigned
    rw [wholeEq]
    split
    · exact trivial
    next whole afterWhole _ wholeSplit =>
      obtain ⟨rfl, rfl⟩ := Prod.mk.inj wholeSplit
      split
      next fractional afterFraction fractionSplit =>
        split
        next power afterPower powerSplit =>
          have afterSuffix : afterPower <:+ digits ++ rest := by
            have fractionSuffix := fraction_isSuffix rest
            have powerSuffix := exponent_isSuffix afterFraction
            rw [fractionSplit] at fractionSuffix
            rw [powerSplit] at powerSuffix
            exact (powerSuffix.trans fractionSuffix).trans (List.suffix_append _ _)
          split
          · split
            next long =>
              rw [List.length_map] at long ⊢
              exact ⟨digits, (List.prefix_append _ _).isInfix, ⟨areDigits, long⟩, rfl⟩
            next short =>
              rw [List.length_map] at short
              have writable := isWritable_integer areDigits (Nat.le_of_not_lt short) negative
              exact ⟨⟨rfl, writable⟩, afterSuffix⟩
          · refine ⟨⟨rfl, ?_⟩, afterSuffix⟩
            intro value inside
            simp [Data.integers] at inside

/-- What numbers that can be written, texts and words have, and collections have if their parts
have it. -/
structure Inherited (accepts : Data → Prop) : Prop where
  number : ∀ data, data.isNumber = true → data.IsWritable → accepts data
  text : ∀ content, accepts (.text content)
  word : ∀ word ∈ words, accepts word.2
  list : ∀ items, (∀ item ∈ items, accepts item) → accepts (.list items)
  mapping : ∀ entries, (∀ entry ∈ entries, accepts entry.1 ∧ accepts entry.2) →
    accepts (.mapping (Data.ofEntries entries))

section

variable {accepts : Data → Prop}

theorem takes_word? (inherited : Inherited accepts) {text : Text} {result : Data × Text}
    (found : word? text = some result) : accepts result.1 ∧ result.2 <:+ text := by
  unfold word? at found
  obtain ⟨⟨spelling, value⟩, member, opens⟩ := List.exists_of_findSome?_eq_some found
  obtain ⟨rest, afterEq, rfl⟩ := Option.map_eq_some_iff.mp opens
  constructor
  · exact inherited.word _ member
  · exact ⟨spelling, (Text.eq_append_of_after?_eq_some afterEq).symm⟩

/-! ## Values -/

mutual

theorem takes_value (inherited : Inherited accepts) (fuel : Nat) (text : Text) :
    Takes accepts text (value fuel text) := by
  cases fuel with
  | zero => exact trivial
  | succ fuel =>
      unfold value
      split
      next rest =>
        apply Takes.bind ((takes_stringFrom _ 0 rest).ofSuffix (List.suffix_cons _ rest))
        intro content left _ leftSuffix
        exact ⟨inherited.text content, leftSuffix⟩
      next rest =>
        have restSuffix : rest <:+ .scalar '\x7b' :: rest := List.suffix_cons _ rest
        split
        next left closes =>
          refine ⟨?_, isSuffix_of_skipSpace_eq_cons restSuffix closes⟩
          exact inherited.mapping [] nofun
        · have inner := (skipSpace_isSuffix rest).trans restSuffix
          apply Takes.bind ((takes_members inherited fuel _).ofSuffix inner)
          intro entries left entriesAccepted leftSuffix
          exact ⟨inherited.mapping entries entriesAccepted, leftSuffix⟩
      next rest =>
        have restSuffix : rest <:+ .scalar '[' :: rest := List.suffix_cons _ rest
        split
        next left closes =>
          refine ⟨?_, isSuffix_of_skipSpace_eq_cons restSuffix closes⟩
          exact inherited.list [] nofun
        · have inner := (skipSpace_isSuffix rest).trans restSuffix
          apply Takes.bind ((takes_elements inherited fuel _).ofSuffix inner)
          intro items left itemsAccepted leftSuffix
          exact ⟨inherited.list items itemsAccepted, leftSuffix⟩
      · split
        next result found => exact takes_word? inherited found
        · apply Ends.weaken (takes_number text) _ (fun _ => id)
          rintro ⟨data, rest⟩ ⟨⟨isNumber, writable⟩, isSuffix⟩
          exact ⟨inherited.number data isNumber writable, isSuffix⟩

theorem takes_members (inherited : Inherited accepts) (fuel : Nat) (text : Text) :
    Takes (fun entries => ∀ entry ∈ entries, accepts entry.1 ∧ accepts entry.2) text
      (members fuel text) := by
  cases fuel with
  | zero => exact trivial
  | succ fuel =>
      unfold members
      split
      next rest =>
        apply Takes.bind ((takes_stringFrom _ 0 rest).ofSuffix (List.suffix_cons _ rest))
        intro name afterName _ nameSuffix
        dsimp only
        split
        next afterColon colon =>
          have colonSuffix := isSuffix_of_skipSpace_eq_cons nameSuffix colon
          have inner := (skipSpace_isSuffix afterColon).trans colonSuffix
          apply Takes.bind ((takes_value inherited fuel _).ofSuffix inner)
          intro content afterContent contentAccepted contentSuffix
          dsimp only
          split
          next left closes =>
            refine ⟨?_, isSuffix_of_skipSpace_eq_cons contentSuffix closes⟩
            simpa using ⟨inherited.text name, contentAccepted⟩
          next left comma =>
            have leftSuffix := isSuffix_of_skipSpace_eq_cons contentSuffix comma
            have others := (skipSpace_isSuffix left).trans leftSuffix
            apply Takes.bind ((takes_members inherited fuel _).ofSuffix others)
            intro entries last entriesAccepted lastSuffix
            refine ⟨?_, lastSuffix⟩
            exact List.forall_mem_cons.mpr ⟨⟨inherited.text name, contentAccepted⟩, entriesAccepted⟩
          · exact trivial
        · exact trivial
      · exact trivial

theorem takes_elements (inherited : Inherited accepts) (fuel : Nat) (text : Text) :
    Takes (fun items => ∀ item ∈ items, accepts item) text (elements fuel text) := by
  cases fuel with
  | zero => exact trivial
  | succ fuel =>
      unfold elements
      apply Takes.bind (takes_value inherited fuel text)
      intro item rest itemAccepted restSuffix
      dsimp only
      split
      next left closes =>
        refine ⟨?_, isSuffix_of_skipSpace_eq_cons restSuffix closes⟩
        simpa using itemAccepted
      next left comma =>
        have leftSuffix := isSuffix_of_skipSpace_eq_cons restSuffix comma
        have others := (skipSpace_isSuffix left).trans leftSuffix
        apply Takes.bind ((takes_elements inherited fuel _).ofSuffix others)
        intro items last itemsAccepted lastSuffix
        exact ⟨List.forall_mem_cons.mpr ⟨itemAccepted, itemsAccepted⟩, lastSuffix⟩
      · exact trivial

end

theorem ends_document (inherited : Inherited accepts) (text : Text) :
    Ends accepts (Stop.IsDueTo text) (document text) := by
  unfold document
  apply Ends.bind ((takes_value inherited _ _).ofSuffix (skipSpace_isSuffix text))
  rintro ⟨data, rest⟩ ⟨isAccepted, _⟩
  dsimp only
  split
  · exact isAccepted
  · exact trivial

end

/-! ## Integers of documents -/

theorem isWritable_words : ∀ word ∈ words, word.2.IsWritable := by
  intro word member value inside
  simp only [words, List.mem_cons, List.not_mem_nil, or_false] at member
  rcases member with rfl | rfl | rfl | rfl | rfl | rfl <;> simp [Data.integers] at inside

theorem inherited_isWritable : Inherited Data.IsWritable where
  number _ _ writable := writable
  text _ _ inside := by simp [Data.integers] at inside
  word := isWritable_words
  list _ := Data.isWritable_list.mpr
  mapping _ entriesWritable :=
    Data.isWritable_mapping.mpr
      (Data.forall_mem_ofEntries Data.IsWritable Data.IsWritable entriesWritable)

/-- Loaded integers can be written.  A text that does not load is malformed, or digits in it are
too many. -/
theorem ends_load (text : Text) :
    Ends Data.IsWritable
      (fun fault => (∃ problem line column position,
          fault = .malformed problem line column position) ∨
        ∃ digits : Text, digits <:+: text ∧ digits.IsTooLong ∧
          fault = .integer (.tooLong digits.length))
      (load text) := by
  have documentEnds := ends_document inherited_isWritable text
  unfold load
  split
  next data documentEq =>
    rw [documentEq] at documentEnds
    exact documentEnds
  next error documentEq =>
    rw [documentEq] at documentEnds
    obtain ⟨digits, inside, tooLong, rfl⟩ := documentEnds
    exact .inr ⟨digits, inside, tooLong, rfl⟩
  · exact .inl ⟨_, _, _, _, rfl⟩

end Json

end ApiTypes
