import ApiTypes.Double.Numeral
import ApiTypes.Literal
import ApiTypes.Proofs.ShortestDecimals

/-!
# Reading numerals back

The text of every number is a numeral of that number, up to the sign of zero, which
the text of an integer does not show.  Positional and scientific notation are both
digits with a point among them and an exponent behind them.
-/

namespace ApiTypes

/-- Characters that are decimal digits. -/
def IsDigits (chars : List Char) : Prop :=
  ∀ char ∈ chars, char.isDigit = true

def digitValues (chars : List Char) : List Nat :=
  chars.map fun char => char.toNat - 0x30

theorem digitValues_append (first second : List Char) :
    digitValues (first ++ second) = digitValues first ++ digitValues second :=
  List.map_append

theorem length_digitValues (chars : List Char) : (digitValues chars).length = chars.length :=
  List.length_map _

theorem isDigits_toDigits (number : Nat) : IsDigits (Nat.toDigits 10 number) :=
  fun _ => Nat.isDigit_of_mem_toDigits (by decide) (by decide)

theorem isDigits_replicate_zero (count : Nat) : IsDigits (List.replicate count '0') := by
  intro char member
  rw [List.eq_of_mem_replicate member]
  decide

theorem IsDigits.append {first second : List Char} (firstDigits : IsDigits first)
    (secondDigits : IsDigits second) : IsDigits (first ++ second) := by
  intro char member
  rcases List.mem_append.mp member with inFirst | inSecond
  · exact firstDigits char inFirst
  · exact secondDigits char inSecond

theorem IsDigits.sublist {chars others : List Char} (digits : IsDigits chars)
    (sublist : others.Sublist chars) : IsDigits others :=
  fun char member => digits char (sublist.mem member)

namespace CodePoint

/-- A digit is no letter. -/
theorem toAsciiLower_digit {char : Char} (digit : char.isDigit = true) :
    toAsciiLower (.scalar char) = .scalar char := by
  rw [← isDigit_scalar] at digit
  simp only [isDigit, Bool.and_eq_true, decide_eq_true_eq] at digit
  have notCapital : ¬ (0x41 ≤ (CodePoint.scalar char).toNat ∧
      (CodePoint.scalar char).toNat ≤ 0x5A) := by omega
  rw [toAsciiLower, if_neg notCapital]

end CodePoint

namespace Text

theorem splitDigits_ofChars {chars : List Char} {rest : Text} (digits : IsDigits chars)
    (ends : ∀ point ∈ rest.head?, point.isDigit = false) :
    splitDigits (ofChars chars ++ rest) = (digitValues chars, rest) := by
  have allDigits : ∀ point ∈ ofChars chars, point.isDigit = true := by
    intro point member
    obtain ⟨char, charMember, rfl⟩ := List.mem_map.mp member
    rw [CodePoint.isDigit_scalar]
    exact digits char charMember
  rw [splitDigits, takeWhile_append allDigits ends, dropWhile_append allDigits ends, ofChars,
    List.map_map]
  rfl

theorem valueOfDigits_digitValues (chars : List Char) :
    valueOfDigits 10 (digitValues chars) = Nat.ofDigitChars 10 chars 0 := by
  rw [valueOfDigits, digitValues, List.foldl_map, Nat.ofDigitChars_eq_foldl]
  simp only [Nat.mul_comm]
  rfl

/-! ## Exponents -/

theorem exponent?_digits {mark : Text} {negative : Bool} {chars : List Char}
    (isMark : mark = "e-" ∧ negative = true ∨ mark = "e+" ∧ negative = false)
    (present : chars ≠ []) (digits : IsDigits chars) :
    exponent? (mark ++ ofChars chars) =
      some (Double.signed negative (Nat.ofDigitChars 10 chars 0)) := by
  have noRest : ∀ point ∈ ([] : Text).head?, point.isDigit = false := by simp
  have split := splitDigits_ofChars digits noRest
  rw [List.append_nil] at split
  have values : digitValues chars ≠ [] := by simpa [digitValues] using present
  obtain ⟨value, values, valuesEq⟩ := List.exists_cons_of_ne_nil values
  have whole := valueOfDigits_digitValues chars
  rw [valuesEq] at whole
  rcases isMark with ⟨rfl, rfl⟩ | ⟨rfl, rfl⟩
  all_goals
    simp [ofString, exponent?, splitSign, split, valuesEq, whole]

theorem exponent?_padded (exponent : Int) :
    exponent? ((if exponent < 0 then "e-" else "e+") ++ padded 2 exponent.natAbs) =
      some exponent := by
  have digits : IsDigits (List.replicate (2 - (Nat.toDigits 10 exponent.natAbs).length) '0' ++
      Nat.toDigits 10 exponent.natAbs) :=
    (isDigits_replicate_zero _).append (isDigits_toDigits _)
  have value : Nat.ofDigitChars 10 (List.replicate (2 - (Nat.toDigits 10 exponent.natAbs).length)
      '0' ++ Nat.toDigits 10 exponent.natAbs) 0 = exponent.natAbs := by
    rw [Nat.ofDigitChars_append, Nat.ofDigitChars_replicate_zero, Nat.mul_zero,
      Nat.ofDigitChars_ten_toDigits]
  rw [padded]
  by_cases negative : exponent < 0
  · rw [if_pos negative, exponent?_digits (.inl ⟨rfl, rfl⟩) (by simp [Nat.toDigits_ne_nil]) digits,
      value]
    simp only [Double.signed, if_true, Option.some.injEq]
    omega
  · rw [if_neg negative, exponent?_digits (.inr ⟨rfl, rfl⟩) (by simp [Nat.toDigits_ne_nil]) digits,
      value]
    simp only [Double.signed, Bool.false_eq_true, if_false, Option.some.injEq]
    omega

/-- What is read as an exponent goes on with neither a digit nor a point. -/
theorem head?_of_exponent? {text : Text} {exponent : Int}
    (read : exponent? text = some exponent) :
    ∀ point ∈ text.head?, point.isDigit = false ∧ point ≠ .scalar '.' := by
  cases text with
  | nil => simp
  | cons mark rest =>
      rintro point ⟨⟩
      simp only [exponent?] at read
      split at read
      · rename_i isMark
        rcases isMark with rfl | rfl
        · exact ⟨by decide, by decide⟩
        · exact ⟨by decide, by decide⟩
      · simp at read

end Text

namespace Double

/-! ## Digits with a point -/

/-- Digits, and a point before those of a fraction. -/
def pointed (whole fraction : List Char) : Text :=
  Text.ofChars whole ++
    match fraction with
    | [] => []
    | digit :: digits => .scalar '.' :: Text.ofChars (digit :: digits)

theorem pointed_opens {whole : List Char} (present : whole ≠ []) (digits : IsDigits whole)
    (fraction : List Char) (rest : Text) :
    ∃ first others, pointed whole fraction ++ rest = .scalar first :: others ∧
      first.isDigit = true := by
  obtain ⟨first, whole, rfl⟩ := List.exists_cons_of_ne_nil present
  exact ⟨first, _, rfl, digits first (by simp)⟩

theorem ofText?_of_digit {first : Char} (digit : first.isDigit = true) (others : Text) :
    ofText? (.scalar first :: others) = ofUnsigned? false (.scalar first :: others) := by
  have notSign : Text.splitSign (.scalar first :: others) = (false, .scalar first :: others) := by
    unfold Text.splitSign
    split
    · rename_i minus
      obtain ⟨⟨⟩, -⟩ := List.cons.inj minus
      cases digit
    · rename_i plus
      obtain ⟨⟨⟩, -⟩ := List.cons.inj plus
      cases digit
    · rfl
  simp only [ofText?, notSign]

theorem toAsciiLower_ne_of_digit {first : Char} (digit : first.isDigit = true) (others : Text)
    {word : Text} (letter : ∀ point ∈ word.head?, point.isDigit = false) :
    Text.toAsciiLower (.scalar first :: others) ≠ word := by
  rintro rfl
  have notDigit := letter (CodePoint.scalar first).toAsciiLower rfl
  rw [CodePoint.toAsciiLower_digit digit, CodePoint.isDigit_scalar, digit] at notDigit
  cases notDigit

/-- Digits with a point are read together with the exponent behind them. -/
theorem ofUnsigned?_pointed (negative : Bool) {whole fraction : List Char} {rest : Text}
    {exponent : Int} (present : whole ≠ []) (wholeDigits : IsDigits whole)
    (fractionDigits : IsDigits fraction) (read : Text.exponent? rest = some exponent) :
    ofUnsigned? negative (pointed whole fraction ++ rest) =
      some (nearestDecimal negative (Nat.ofDigitChars 10 (whole ++ fraction) 0)
        (exponent - fraction.length)) := by
  have ends := Text.head?_of_exponent? read
  obtain ⟨first, others, text, firstDigit⟩ := pointed_opens present wholeDigits fraction rest
  have noWord (word : Text) (letter : ∀ point ∈ word.head?, point.isDigit = false) :
      (pointed whole fraction ++ rest).toAsciiLower ≠ word := by
    rw [text]
    exact toAsciiLower_ne_of_digit firstDigit others letter
  have notInf := noWord "inf" (by decide)
  have notInfinity := noWord "infinity" (by decide)
  have notNan := noWord "nan" (by decide)
  have restEnds : ∀ point ∈ rest.head?, point.isDigit = false :=
    fun point isHead => (ends point isHead).1
  have wholeValues : (digitValues whole).isEmpty = false := by
    simpa [digitValues] using present
  cases fraction with
  | nil =>
      have split : Text.splitDigits (pointed whole [] ++ rest) = (digitValues whole, rest) := by
        rw [pointed, List.append_nil]
        exact Text.splitDigits_ofChars wholeDigits restEnds
      simp only [ofUnsigned?, notInf, notInfinity, notNan, or_self, if_false, split, wholeValues,
        Bool.false_and, Bool.false_eq_true]
      split
      · exact absurd rfl (ends _ rfl).2
      · simp only [read, Option.map_some, ofNumeral, List.append_nil,
          Text.valueOfDigits_digitValues]
        rfl
  | cons digit digits =>
      have split : Text.splitDigits (pointed whole (digit :: digits) ++ rest) =
          (digitValues whole, .scalar '.' :: (Text.ofChars (digit :: digits) ++ rest)) := by
        rw [pointed, List.append_assoc]
        exact Text.splitDigits_ofChars wholeDigits (by simp; decide)
      have splitFraction := Text.splitDigits_ofChars fractionDigits restEnds
      simp only [ofUnsigned?, notInf, notInfinity, notNan, or_self, if_false, split, splitFraction,
        wholeValues, Bool.false_and, Bool.false_eq_true, read, Option.map_some, ofNumeral]
      rw [← digitValues_append, Text.valueOfDigits_digitValues, length_digitValues]

theorem pointed_of_ne_nil (whole : List Char) {fraction : List Char} (present : fraction ≠ []) :
    pointed whole fraction = Text.ofChars (whole ++ '.' :: fraction) := by
  obtain ⟨digit, digits, rfl⟩ := List.exists_cons_of_ne_nil present
  simp [pointed, Text.ofChars]

/-! ## Decimals -/

/-- Digits that have the value of a decimal with the point between them and an exponent behind
them; zeros may have been added at the end. -/
structure Shows (decimal : Decimal) (whole fraction : List Char) (exponent : Int) : Prop where
  present : whole ≠ []
  wholeDigits : IsDigits whole
  fractionDigits : IsDigits fraction
  value : ∃ zeros : Nat,
    Nat.ofDigitChars 10 (whole ++ fraction) 0 = decimal.digits * 10 ^ zeros ∧
      exponent - fraction.length + zeros = decimal.power

theorem Shows.ofUnsigned? {decimal : Decimal} {whole fraction : List Char} {exponent : Int}
    (shown : Shows decimal whole fraction exponent) {rest : Text}
    (read : Text.exponent? rest = some exponent) (negative : Bool) :
    ofUnsigned? negative (pointed whole fraction ++ rest) =
      some (nearestDecimal negative decimal.digits decimal.power) := by
  obtain ⟨present, wholeDigits, fractionDigits, zeros, digits, power⟩ := shown
  rw [ofUnsigned?_pointed negative present wholeDigits fractionDigits read, digits,
    nearestDecimal_mul_pow_ten, power]

theorem shows_toDigits (number : Nat) :
    Shows { digits := number, power := 0 } (Nat.toDigits 10 number) [] 0 where
  present := Nat.toDigits_ne_nil
  wholeDigits := isDigits_toDigits number
  fractionDigits := isDigits_replicate_zero 0
  value := by
    refine ⟨0, ?_, rfl⟩
    rw [List.append_nil, Nat.ofDigitChars_ten_toDigits, Nat.pow_zero, Nat.mul_one]

section Decimals

variable (decimal : Decimal)

theorem shows_behind_zeros (noWhole : decimal.point ≤ 0) :
    Shows decimal ['0']
      (List.replicate (-decimal.point).toNat '0' ++ Nat.toDigits 10 decimal.digits) 0 where
  present := by simp
  wholeDigits := isDigits_replicate_zero 1
  fractionDigits := (isDigits_replicate_zero _).append (isDigits_toDigits _)
  value := by
    have zeros : ['0'] ++ (List.replicate (-decimal.point).toNat '0' ++
        Nat.toDigits 10 decimal.digits) =
          List.replicate ((-decimal.point).toNat + 1) '0' ++ Nat.toDigits 10 decimal.digits := rfl
    have pointEq : decimal.point = (Nat.toDigits 10 decimal.digits).length + decimal.power := rfl
    refine ⟨0, ?_, ?_⟩
    · rw [zeros, Nat.ofDigitChars_append, Nat.ofDigitChars_replicate_zero, Nat.mul_zero,
        Nat.ofDigitChars_ten_toDigits, Nat.pow_zero, Nat.mul_one]
    · simp only [List.length_append, List.length_replicate]
      omega

theorem shows_split (positive : 0 < decimal.point)
    (within : decimal.point < (Nat.toDigits 10 decimal.digits).length) :
    Shows decimal ((Nat.toDigits 10 decimal.digits).take decimal.point.toNat)
      ((Nat.toDigits 10 decimal.digits).drop decimal.point.toNat) 0 where
  present := by
    apply List.ne_nil_of_length_pos
    rw [List.length_take]
    omega
  wholeDigits := (isDigits_toDigits _).sublist (List.take_sublist ..)
  fractionDigits := (isDigits_toDigits _).sublist (List.drop_sublist ..)
  value := by
    have pointEq : decimal.point = (Nat.toDigits 10 decimal.digits).length + decimal.power := rfl
    refine ⟨0, ?_, ?_⟩
    · rw [List.take_append_drop, Nat.ofDigitChars_ten_toDigits, Nat.pow_zero, Nat.mul_one]
    · rw [List.length_drop]
      omega

theorem shows_before_zeros (beyond : (Nat.toDigits 10 decimal.digits).length ≤ decimal.point) :
    Shows decimal (Nat.toDigits 10 decimal.digits ++ List.replicate decimal.power.toNat '0')
      ['0'] 0 where
  present := by simp [Nat.toDigits_ne_nil]
  wholeDigits := (isDigits_toDigits _).append (isDigits_replicate_zero _)
  fractionDigits := isDigits_replicate_zero 1
  value := by
    have pointEq : decimal.point = (Nat.toDigits 10 decimal.digits).length + decimal.power := rfl
    have zeros : Nat.toDigits 10 decimal.digits ++ List.replicate decimal.power.toNat '0' ++ ['0'] =
        Nat.toDigits 10 decimal.digits ++ List.replicate (decimal.power.toNat + 1) '0' := by
      rw [List.append_assoc, ← List.replicate_succ']
    refine ⟨decimal.power.toNat + 1, ?_, ?_⟩
    · rw [zeros, Nat.ofDigitChars_append, Nat.ofDigitChars_replicate_zero,
        Nat.ofDigitChars_ten_toDigits, Nat.mul_comm]
    · simp only [List.length_cons, List.length_nil]
      omega

theorem exists_shows_positional :
    ∃ whole fraction, decimal.positional = pointed whole fraction ∧
      Shows decimal whole fraction 0 := by
  simp only [Decimal.positional]
  by_cases noWhole : decimal.point ≤ 0
  · refine ⟨_, _, ?_, shows_behind_zeros decimal noWhole⟩
    rw [pointed_of_ne_nil _ (by simp [Nat.toDigits_ne_nil]), if_pos noWhole]
    rfl
  · rw [if_neg noWhole]
    by_cases within : decimal.point < (Nat.toDigits 10 decimal.digits).length
    · refine ⟨_, _, ?_, shows_split decimal (by omega) within⟩
      have present : (Nat.toDigits 10 decimal.digits).drop decimal.point.toNat ≠ [] := by
        apply List.ne_nil_of_length_pos
        rw [List.length_drop]
        omega
      rw [pointed_of_ne_nil _ present, if_pos within]
    · refine ⟨_, _, ?_, shows_before_zeros decimal (by omega)⟩
      rw [pointed_of_ne_nil _ (by simp), if_neg within]

theorem exists_shows_scientific :
    ∃ whole fraction rest exponent, decimal.scientific = pointed whole fraction ++ rest ∧
      Text.exponent? rest = some exponent ∧ Shows decimal whole fraction exponent := by
  have digits := isDigits_toDigits decimal.digits
  have value := Nat.ofDigitChars_ten_toDigits (n := decimal.digits)
  have pointEq : decimal.point = (Nat.toDigits 10 decimal.digits).length + decimal.power := rfl
  obtain ⟨first, others, split⟩ := List.exists_cons_of_ne_nil
    (Nat.toDigits_ne_nil (b := 10) (n := decimal.digits))
  rw [split] at digits value pointEq
  refine ⟨[first], others, _, decimal.point - 1, ?_, Text.exponent?_padded (decimal.point - 1), ?_⟩
  · simp only [Decimal.scientific, split]
    rw [List.append_assoc]
    cases others <;> simp [pointed, Text.ofChars]
  · refine ⟨by simp, digits.sublist (by simp), digits.sublist (List.sublist_cons_self ..), 0,
      ?_, ?_⟩
    · rw [List.singleton_append, value, Nat.pow_zero, Nat.mul_one]
    · rw [pointEq, List.length_cons]
      omega

/-- The text of a decimal is a numeral of it. -/
theorem ofUnsigned?_decimal (negative : Bool) :
    ofUnsigned? negative decimal.text =
      some (nearestDecimal negative decimal.digits decimal.power) := by
  unfold Decimal.text
  split
  · rename_i zero
    have noExponent : Text.exponent? [] = some 0 := rfl
    have noDigits : Nat.ofDigitChars 10 (List.replicate 1 '0' ++ List.replicate 1 '0') 0 = 0 := rfl
    have read := ofUnsigned?_pointed negative (by simp) (isDigits_replicate_zero 1)
      (isDigits_replicate_zero 1) noExponent
    rw [noDigits] at read
    rw [zero]
    exact read
  · split
    · obtain ⟨whole, fraction, text, shown⟩ := exists_shows_positional decimal
      have noExponent : Text.exponent? [] = some 0 := rfl
      have read := shown.ofUnsigned? noExponent negative
      rwa [List.append_nil, ← text] at read
    · obtain ⟨whole, fraction, rest, exponent, text, read, shown⟩ :=
        exists_shows_scientific decimal
      rw [text]
      exact shown.ofUnsigned? read negative

theorem decimal_opens_with_digit :
    ∃ first others, decimal.text = .scalar first :: others ∧ first.isDigit = true := by
  unfold Decimal.text
  split
  · exact ⟨'0', _, rfl, by decide⟩
  · split
    · obtain ⟨whole, fraction, text, shown⟩ := exists_shows_positional decimal
      have opens := pointed_opens shown.present shown.wholeDigits fraction []
      rwa [List.append_nil, ← text] at opens
    · obtain ⟨whole, fraction, rest, exponent, text, read, shown⟩ :=
        exists_shows_scientific decimal
      rw [text]
      exact pointed_opens shown.present shown.wholeDigits fraction rest

end Decimals

/-! ## Numerals -/

/-- A number without the sign of zero. -/
def withoutZeroSign (number : Double) : Double :=
  if number.isZero then signedZero false else number

theorem ofText?_signed (negative : Bool) {unsigned : Text}
    (opens : ∃ first others, unsigned = .scalar first :: others ∧ first.isDigit = true) :
    ofText? ((if negative then "-" else "") ++ unsigned) = ofUnsigned? negative unsigned := by
  cases negative with
  | true => rfl
  | false =>
      obtain ⟨first, others, rfl, digit⟩ := opens
      exact ofText?_of_digit digit others

theorem ofInt_signed (negative : Bool) {magnitude : Nat} (positive : 0 < magnitude) :
    Text.ofInt (signed negative magnitude) =
      (if negative then "-" else "") ++ Text.ofNat magnitude := by
  cases negative with
  | false => rfl
  | true =>
      obtain ⟨less, rfl⟩ := Nat.exists_eq_succ_of_ne_zero (Nat.ne_of_gt positive)
      rfl

theorem ofNat_opens_with_digit (number : Nat) :
    ∃ first others, Text.ofNat number = .scalar first :: others ∧ first.isDigit = true := by
  have opens := pointed_opens Nat.toDigits_ne_nil (isDigits_toDigits number) [] []
  rwa [List.append_nil, pointed, List.append_nil] at opens

theorem ofUnsigned?_ofNat (negative : Bool) (number : Nat) :
    ofUnsigned? negative (Text.ofNat number) = some (nearestDecimal negative number 0) := by
  have noExponent : Text.exponent? [] = some 0 := rfl
  have read := (shows_toDigits number).ofUnsigned? noExponent negative
  rwa [List.append_nil, pointed, List.append_nil] at read

theorem nearestDecimal_shortest (negative : Bool) {mantissa : Nat} {exponent : Int}
    (canonical : IsCanonicalDouble mantissa exponent) :
    nearestDecimal negative (Decimal.shortest mantissa exponent canonical).digits
        (Decimal.shortest mantissa exponent canonical).power =
      .finite negative mantissa exponent canonical := by
  have readsBack := Decimal.toDouble_shortest canonical
  rw [Decimal.toDouble] at readsBack
  cases negative with
  | false => exact readsBack
  | true => rw [nearestDecimal_true, readsBack, negated, Bool.not_false]

theorem ofText?_numeral_of_positive (negative : Bool) {mantissa : Nat} {exponent : Int}
    (canonical : IsCanonicalDouble mantissa exponent) (positive : 0 < mantissa) :
    ofText? (Literal.numeral (.finite negative mantissa exponent canonical)) =
      some (.finite negative mantissa exponent canonical) := by
  by_cases integral : mantissa % 2 ^ (-exponent).toNat = 0
  · have value : mantissa / 2 ^ (-exponent).toNat * 2 ^ exponent.toNat * 2 ^ (-exponent).toNat =
        mantissa * 2 ^ exponent.toNat := by
      rw [Nat.mul_right_comm, Nat.div_mul_cancel (Nat.dvd_of_mod_eq_zero integral)]
    have integerPos : 0 < mantissa / 2 ^ (-exponent).toNat * 2 ^ exponent.toNat := by
      apply Nat.pos_of_ne_zero
      intro zero
      rw [zero, Nat.zero_mul] at value
      exact Nat.ne_of_lt (Nat.mul_pos positive (Nat.two_pow_pos _)) value
    have text : Literal.numeral (.finite negative mantissa exponent canonical) =
        (if negative then "-" else "") ++
          Text.ofNat (mantissa / 2 ^ (-exponent).toNat * 2 ^ exponent.toNat) := by
      rw [← ofInt_signed negative integerPos]
      simp only [Literal.numeral, toInt?, Nat.pow_eq, integral, if_true]
    rw [text, ofText?_signed negative (ofNat_opens_with_digit _), ofUnsigned?_ofNat,
      nearestDecimal_of_integer negative canonical positive value]
  · have text : Literal.numeral (.finite negative mantissa exponent canonical) =
        (if negative then "-" else "") ++ (Decimal.shortest mantissa exponent canonical).text := by
      simp only [Literal.numeral, toInt?, Nat.pow_eq, integral, if_false, text]
    rw [text, ofText?_signed negative (decimal_opens_with_digit _), ofUnsigned?_decimal,
      nearestDecimal_shortest]

theorem numeral_of_isZero {number : Double} (zero : number.isZero = true) :
    Literal.numeral number = Text.ofInt 0 := by
  cases number with
  | finite negative mantissa exponent canonical =>
      obtain rfl : mantissa = 0 := by simpa [isZero] using zero
      cases negative <;> simp [Literal.numeral, toInt?, signed]
  | _ => cases zero

/-- The text of a number is read as the number, zero without its sign. -/
theorem ofText?_numeral (number : Double) :
    ofText? (Literal.numeral number) = some number.withoutZeroSign := by
  by_cases zero : number.isZero = true
  · rw [numeral_of_isZero zero, withoutZeroSign, if_pos zero]
    rfl
  · rw [withoutZeroSign, if_neg zero]
    cases number with
    | notANumber => rfl
    | infinite negative => cases negative <;> rfl
    | finite negative mantissa exponent canonical =>
        have positive : 0 < mantissa := by
          apply Nat.pos_of_ne_zero
          simpa [isZero] using zero
        exact ofText?_numeral_of_positive negative canonical positive

theorem numeral_withoutZeroSign (number : Double) :
    Literal.numeral number.withoutZeroSign = Literal.numeral number := by
  by_cases zero : number.isZero = true
  · have zeroText : Literal.numeral (signedZero false) = Text.ofInt 0 := numeral_of_isZero rfl
    rw [withoutZeroSign, if_pos zero, numeral_of_isZero zero, zeroText]
  · rw [withoutZeroSign, if_neg zero]

end Double

end ApiTypes
