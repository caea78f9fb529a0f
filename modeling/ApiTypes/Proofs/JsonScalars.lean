import ApiTypes.Proofs.JsonSpelling
import ApiTypes.Proofs.EncodedText

/-!
# Strings and integers of JSON

A string is read back from every spelling of its characters, and an integer from its
numeral.  Both readers leave the text behind the token.
-/

namespace ApiTypes.Json

open Text (ofChars)

/-! ## Escapes -/

theorem SpellsDigit.hexValue? {value : Nat} {digit : Char} (spells : SpellsDigit value digit) :
    CodePoint.hexValue? (.scalar digit) = some value := by
  have small : ∀ value < 16, CodePoint.hexValue? (.scalar (Nat.digitChar value)) = some value := by
    decide
  have capital : ∀ value < 16,
      CodePoint.hexValue? (.scalar (Nat.digitChar value).toUpper) = some value := by
    decide
  cases spells with
  | small fits => exact small value fits
  | capital fits => exact capital value fits

/-- Four hexadecimal digits are read as their number, and text behind them is found. -/
theorem SpellsUnit.fourDigits? {number : Nat} {digits : List Char}
    (spells : SpellsUnit number digits) (rest : Text) :
    fourDigits? (ofChars digits ++ rest) = some number ∧
      (ofChars digits ++ rest).drop 4 = rest := by
  cases spells with
  | digits spellsFirst spellsSecond spellsThird spellsFourth =>
      have value : Text.valueOfDigits 16
          [number / 0x1000, number / 0x100 % 0x10, number / 0x10 % 0x10, number % 0x10] =
            number := by
        simp only [Text.valueOfDigits, List.foldl_cons, List.foldl_nil]
        omega
      simp [Json.fourDigits?, ofChars, spellsFirst.hexValue?, spellsSecond.hexValue?,
        spellsThird.hexValue?, spellsFourth.hexValue?, value]

theorem SpellsUnit.length_eq {number : Nat} {digits : List Char}
    (spells : SpellsUnit number digits) : digits.length = 4 := by
  cases spells with
  | digits => rfl

section Escapes

variable {opening rest : Text}

/-- An escape with a letter stands for one character. -/
theorem escape_letter {letter char : Char} (listed : (letter, char) ∈ escapeLetters) :
    escape opening (.scalar letter :: rest) = .ok (.scalar char, 1) := by
  simp only [escapeLetters, List.mem_cons, Prod.mk.injEq, List.not_mem_nil, or_false] at listed
  rcases listed with ⟨rfl, rfl⟩ | ⟨rfl, rfl⟩ | ⟨rfl, rfl⟩ | ⟨rfl, rfl⟩ | ⟨rfl, rfl⟩ | ⟨rfl, rfl⟩ |
    ⟨rfl, rfl⟩ | ⟨rfl, rfl⟩ <;> rfl

theorem isHighSurrogate_scalar (char : Char) :
    (CodePoint.scalar char).isHighSurrogate = false := by
  have range := CodePoint.lt_or_gt_surrogates char
  rw [CodePoint.isHighSurrogate, ← Bool.decide_and, decide_eq_false_iff_not]
  simp only [CodePoint.toNat]
  omega

/-- An escape with the number of a character stands for it. -/
theorem escape_unit {char : Char} {digits : List Char} (spells : SpellsUnit char.toNat digits)
    (goesOn : rest ≠ []) :
    escape opening (.scalar 'u' :: ofChars digits ++ rest) =
      .ok (.scalar char, digits.length + 1) := by
  obtain ⟨number, behind⟩ := spells.fourDigits? rest
  rw [List.cons_append, escape, behind, if_neg (by simpa using goesOn), number]
  simp only [CodePoint.ofNat_toNat, isHighSurrogate_scalar, Bool.false_eq_true, if_false,
    spells.length_eq]

theorem toNat_ofNat {number : Nat} (isSurrogate : 0xD800 ≤ number ∧ number < 0xE000) :
    (CodePoint.ofNat number).toNat = number := by
  have noScalar : ¬ number.isValidChar := by
    simp only [Nat.isValidChar]
    omega
  rw [CodePoint.ofNat, CodePoint.ofNat?, dif_neg noScalar, dif_pos isSurrogate]
  exact Nat.add_sub_cancel' isSurrogate.1

theorem lowHalf?_spelled {number : Nat} {digits : List Char} (spells : SpellsUnit number digits)
    (isLow : 0xDC00 ≤ number ∧ number ≤ 0xDFFF) (high : CodePoint) (goesOn : rest ≠ []) :
    lowHalf? high (.scalar '\\' :: .scalar 'u' :: ofChars digits ++ rest) =
      .ok (some (CodePoint.joinSurrogates high (CodePoint.ofNat number))) := by
  obtain ⟨value, behind⟩ := spells.fourDigits? rest
  have low : (CodePoint.ofNat number).isLowSurrogate = true := by
    rw [CodePoint.isLowSurrogate, toNat_ofNat (by omega)]
    simpa using isLow
  simp only [List.cons_append, lowHalf?]
  rw [behind, if_neg (by simpa using goesOn), value]
  simp only [low, if_true]

/-- Escapes with the numbers of two surrogates stand for the character that they form. -/
theorem escape_pair {char : Char} {high low : List Char} (isBeyond : 0x10000 ≤ char.toNat)
    (spellsHigh : SpellsUnit (0xD800 + (char.toNat - 0x10000) / 0x400) high)
    (spellsLow : SpellsUnit (0xDC00 + (char.toNat - 0x10000) % 0x400) low) (goesOn : rest ≠ []) :
    escape opening
        (.scalar 'u' :: ofChars high ++ (.scalar '\\' :: .scalar 'u' :: ofChars low ++ rest)) =
      .ok (.scalar char, high.length + low.length + 3) := by
  have range := CodePoint.lt_or_gt_surrogates char
  obtain ⟨value, behind⟩ :=
    spellsHigh.fourDigits? (.scalar '\\' :: .scalar 'u' :: ofChars low ++ rest)
  have highNumber : (CodePoint.ofNat (0xD800 + (char.toNat - 0x10000) / 0x400)).toNat =
      0xD800 + (char.toNat - 0x10000) / 0x400 := toNat_ofNat (by omega)
  have isHigh :
      (CodePoint.ofNat (0xD800 + (char.toNat - 0x10000) / 0x400)).isHighSurrogate = true := by
    rw [CodePoint.isHighSurrogate, ← Bool.decide_and, decide_eq_true_iff, highNumber]
    omega
  have joined : CodePoint.joinSurrogates
      (CodePoint.ofNat (0xD800 + (char.toNat - 0x10000) / 0x400))
      (CodePoint.ofNat (0xDC00 + (char.toNat - 0x10000) % 0x400)) = .scalar char := by
    have whole : 0x10000 + (0xD800 + (char.toNat - 0x10000) / 0x400 - 0xD800) * 0x400 +
        (0xDC00 + (char.toNat - 0x10000) % 0x400 - 0xDC00) = char.toNat := by omega
    rw [CodePoint.joinSurrogates, highNumber, toNat_ofNat (by omega), whole,
      CodePoint.ofNat_toNat]
  rw [List.cons_append, escape, behind, if_neg (by simp), value]
  simp only [isHigh, if_true]
  rw [lowHalf?_spelled spellsLow (by omega) _ goesOn, joined, spellsHigh.length_eq,
    spellsLow.length_eq]
  rfl

end Escapes

/-! ## Strings -/

theorem stringFrom_skip (opening passed rest : Text) :
    stringFrom opening passed.length (passed ++ rest) = stringFrom opening 0 rest := by
  induction passed with
  | nil => rfl
  | cons point passed induction => exact induction

section Strings

variable {opening rest left content : Text}

/-- A character goes before what is read behind it. -/
theorem stringFrom_spelled {char : Char} {spelling : List Char} (spells : SpellsChar char spelling)
    (reads : stringFrom opening 0 rest = .ok (content, left)) :
    stringFrom opening 0 (ofChars spelling ++ rest) = .ok (.scalar char :: content, left) := by
  have goesOn : rest ≠ [] := by
    rintro rfl
    cases reads
  have behindEscape (escaped : List Char)
      (stands : escape opening (ofChars escaped ++ rest) = .ok (.scalar char, escaped.length)) :
      stringFrom opening 0 (.scalar '\\' :: (ofChars escaped ++ rest)) =
        .ok (.scalar char :: content, left) := by
    have skipped := stringFrom_skip opening (ofChars escaped) rest
    rw [ofChars, List.length_map, ← ofChars] at skipped
    rw [stringFrom, if_neg (by decide), if_pos rfl, stands]
    show (stringFrom opening escaped.length (ofChars escaped ++ rest) >>= _) = _
    rw [skipped, reads]
    rfl
  cases spells with
  | plain isPlain noMark noEscape =>
      have noMark : CodePoint.scalar char ≠ .scalar '"' := by simpa using noMark
      have noEscape : CodePoint.scalar char ≠ .scalar '\\' := by simpa using noEscape
      have noControl : ¬ (CodePoint.scalar char).toNat < 0x20 := Nat.not_lt.mpr isPlain
      show stringFrom opening 0 (.scalar char :: rest) = _
      rw [stringFrom, if_neg noMark, if_neg noEscape, if_neg noControl, reads]
      rfl
  | letter listed => exact behindEscape [_] (escape_letter listed)
  | unit spells => exact behindEscape (_ :: _) (escape_unit spells goesOn)
  | @pair high low isBeyond spellsHigh spellsLow =>
      have whole : ofChars ('u' :: high ++ '\\' :: 'u' :: low) ++ rest =
          .scalar 'u' :: ofChars high ++
            (.scalar '\\' :: .scalar 'u' :: ofChars low ++ rest) := by
        simp [ofChars]
      have length : ('u' :: high ++ '\\' :: 'u' :: low).length = high.length + low.length + 3 := by
        simp only [List.cons_append, List.length_cons, List.length_append]
        omega
      refine behindEscape ('u' :: high ++ '\\' :: 'u' :: low) ?_
      rw [whole, length]
      exact escape_pair isBeyond spellsHigh spellsLow goesOn

/-- The content of a string is read from every spelling of it. -/
theorem stringFrom_of_spellsContent {chars inner : List Char} (spells : SpellsContent chars inner) :
    stringFrom opening 0 (ofChars inner ++ .scalar '"' :: rest) = .ok (ofChars chars, rest) := by
  induction spells with
  | nil => rfl
  | cons spells _ reads =>
      rw [ofChars, List.map_append, List.append_assoc]
      exact stringFrom_spelled spells reads

end Strings

/-! ## Integers -/

/-- The numeral of a positive number does not begin with a zero. -/
theorem head?_toDigits {number : Nat} (positive : 0 < number) :
    (Nat.toDigits 10 number).head? ≠ some '0' := by
  induction number using Nat.strongRecOn with
  | ind number induction =>
      by_cases isDigit : number < 10
      · have nonzero : ∀ number < 10, 0 < number → Nat.digitChar number ≠ '0' := by decide
        rw [Nat.toDigits_of_lt_base isDigit]
        simpa using nonzero number isDigit positive
      · have larger := induction (number / 10) (by omega) (by omega)
        obtain ⟨first, others, split⟩ := List.exists_cons_of_ne_nil
          (Nat.toDigits_ne_nil (b := 10) (n := number / 10))
        rw [split] at larger
        rw [Nat.toDigits_of_base_le (by decide) (by omega), split]
        exact larger

/-- What may stand behind an integer: it goes on with no digit, point or exponent mark. -/
def EndsNumber (rest : Text) : Prop :=
  ∀ point ∈ rest.head?, point.isDigit = false ∧
    point ≠ .scalar '.' ∧ point ≠ .scalar 'e' ∧ point ≠ .scalar 'E'

theorem wholeDigits_ofNat (number : Nat) {rest : Text} (ends : EndsNumber rest) :
    wholeDigits (Text.ofNat number ++ rest) = (digitValues (Nat.toDigits 10 number), rest) := by
  have split := Text.splitDigits_ofChars (isDigits_toDigits number)
    fun point isHead => (ends point isHead).1
  rcases Nat.eq_zero_or_pos number with rfl | positive
  · rfl
  · rw [← Text.ofNat] at split
    rw [← split]
    unfold wholeDigits
    split
    next zero =>
      have noZero := head?_toDigits positive
      obtain ⟨first, others, digits⟩ := List.exists_cons_of_ne_nil
        (Nat.toDigits_ne_nil (b := 10) (n := number))
      rw [Text.ofNat, digits] at zero
      rw [digits] at noZero
      obtain ⟨⟨⟩, -⟩ := List.cons.inj zero
      exact absurd rfl noZero
    next => rfl

theorem fraction_of_endsNumber {rest : Text} (ends : EndsNumber rest) :
    fraction rest = (none, rest) := by
  unfold fraction
  split
  · exact absurd rfl (ends _ rfl).2.1
  · rfl

theorem exponent_of_endsNumber {rest : Text} (ends : EndsNumber rest) :
    exponent rest = (none, rest) := by
  cases rest with
  | nil => rfl
  | cons mark rest =>
      obtain ⟨-, -, noSmall, noCapital⟩ := ends mark rfl
      rw [exponent, if_neg (not_or.mpr ⟨noSmall, noCapital⟩)]

theorem length_digitValues_le {number bound : Nat} (positive : 0 < bound)
    (fits : number < Nat.pow 10 bound) : (digitValues (Nat.toDigits 10 number)).length ≤ bound := by
  rw [length_digitValues]
  exact (Nat.length_toDigits_le_iff (by decide) positive).mpr fits

/-- A numeral is read as its integer, with a sign before it or without one. -/
theorem number_ofNat (negative : Bool) {magnitude : Nat}
    (writable : magnitude < Shape.unwritableMagnitude) {rest : Text} (ends : EndsNumber rest) :
    number ((if negative then "-" else "") ++ (Text.ofNat magnitude ++ rest)) =
      .ok (.integer (Double.signed negative magnitude), rest) := by
  unfold Shape.unwritableMagnitude at writable
  have short := length_digitValues_le (by decide) writable
  obtain ⟨first, others, opens, isDigit⟩ := Double.ofNat_opens_with_digit magnitude
  unfold number
  split
  next isNegative unsigned sign =>
    have unsignedText : isNegative = negative ∧ unsigned = Text.ofNat magnitude ++ rest := by
      cases negative with
      | true =>
          obtain ⟨rfl, rfl⟩ := Prod.mk.inj sign
          exact ⟨rfl, rfl⟩
      | false =>
          rw [opens] at sign ⊢
          split at sign
          next minus =>
            obtain ⟨⟨⟩, -⟩ := List.cons.inj minus
            cases isDigit
          next =>
            obtain ⟨rfl, rfl⟩ := Prod.mk.inj sign
            exact ⟨rfl, rfl⟩
    obtain ⟨rfl, rfl⟩ := unsignedText
    rw [wholeDigits_ofNat magnitude ends]
    split
    next noDigits =>
      have present : digitValues (Nat.toDigits 10 magnitude) ≠ [] := by
        simp [digitValues, Nat.toDigits_ne_nil]
      exact absurd (Prod.mk.inj noDigits).1 present
    next whole behind _ digits =>
      obtain ⟨rfl, rfl⟩ := Prod.mk.inj digits
      simp only [fraction_of_endsNumber ends, exponent_of_endsNumber ends]
      rw [if_pos (by rfl), if_neg (Nat.not_lt.mpr short), Text.valueOfDigits_digitValues,
        Nat.ofDigitChars_ten_toDigits]

end ApiTypes.Json
