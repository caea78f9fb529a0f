import ApiTypes.Text.Encoding

/-!
# Encoded text

Octets that encode Unicode scalar values decode to these again, with a byte order mark in
front of them or without one.
-/

namespace ApiTypes

namespace CodePoint

theorem ofNat_toNat (char : Char) : ofNat char.toNat = .scalar char := by
  have valid : char.toNat.isValidChar := char.valid
  rw [ofNat, ofNat?, dif_pos valid]
  rfl

theorem lt_or_gt_surrogates (char : Char) :
    char.toNat < 0xD800 ∨ 0xDFFF < char.toNat ∧ char.toNat < 0x110000 :=
  char.valid

end CodePoint

namespace Bytes

theorem toNat_octet {number : Nat} (fits : number < 0x100) :
    (UInt8.ofNat number).toNat = number :=
  UInt8.toNat_ofNat_of_lt' fits

variable {position low : Nat} {rest : Bytes} {text : Text} {sequence : Pending}

theorem decodeFrom_ascii {number : Nat} (isAscii : number < 0x80)
    (decodes : ∀ position, decodeFrom position none rest = .ok text) :
    decodeFrom position none (UInt8.ofNat number :: rest) =
      .ok (CodePoint.ofNat number :: text) := by
  have octet : (UInt8.ofNat number).toNat = number := toNat_octet (by omega)
  rw [decodeFrom, octet, if_pos isAscii, decodes]
  rfl

/-- The first octet of a sequence. -/
theorem decodeFrom_begin {octet : UInt8} (begins : Pending.begin? position octet = some sequence) :
    decodeFrom position none (octet :: rest) =
      decodeFrom (position + 1) (some sequence) rest := by
  have noAscii : ¬ octet.toNat < 0x80 := by
    intro isAscii
    rw [Pending.begin?, if_pos (by omega)] at begins
    cases begins
  rw [decodeFrom, if_neg noAscii, begins]

/-- An octet within a sequence that more octets follow. -/
theorem decodeFrom_further {further : Nat} (isFurther : sequence.further = further + 1)
    (fits : low < 0x40) (within : sequence.least ≤ 0x80 + low ∧ 0x80 + low ≤ sequence.greatest) :
    decodeFrom position (some sequence) (UInt8.ofNat (0x80 + low) :: rest) =
      decodeFrom (position + 1)
        (some
          { sequence with
            further, value := sequence.value * 0x40 + low, least := 0x80, greatest := 0xBF })
        rest := by
  have octet : (UInt8.ofNat (0x80 + low)).toNat = 0x80 + low := toNat_octet (by omega)
  rw [decodeFrom, octet, if_pos within, isFurther, Nat.add_sub_cancel_left]

/-- The last octet of a sequence. -/
theorem decodeFrom_last (isLast : sequence.further = 0) (fits : low < 0x40)
    (within : sequence.least ≤ 0x80 + low ∧ 0x80 + low ≤ sequence.greatest)
    (decodes : ∀ position, decodeFrom position none rest = .ok text) :
    decodeFrom position (some sequence) (UInt8.ofNat (0x80 + low) :: rest) =
      .ok (CodePoint.ofNat (sequence.value * 0x40 + low) :: text) := by
  have octet : (UInt8.ofNat (0x80 + low)).toNat = 0x80 + low := toNat_octet (by omega)
  rw [decodeFrom, octet, if_pos within, isLast, Nat.add_sub_cancel_left, decodes]
  rfl

theorem begin?_of_two {bits : Nat} (least : 2 ≤ bits) (fits : bits < 0x20) :
    Pending.begin? position (UInt8.ofNat (0xC0 + bits)) =
      some { first := UInt8.ofNat (0xC0 + bits), position, further := 0, value := bits,
             least := 0x80, greatest := 0xBF } := by
  have octet : (UInt8.ofNat (0xC0 + bits)).toNat = 0xC0 + bits := toNat_octet (by omega)
  simp only [Pending.begin?, octet]
  rw [if_neg (by omega), if_pos (by omega), Nat.add_sub_cancel_left]

theorem begin?_of_three {bits : Nat} (fits : bits < 0x10) :
    Pending.begin? position (UInt8.ofNat (0xE0 + bits)) =
      some { first := UInt8.ofNat (0xE0 + bits), position, further := 1, value := bits,
             least := if bits = 0 then 0xA0 else 0x80,
             greatest := if bits = 0xD then 0x9F else 0xBF } := by
  have octet : (UInt8.ofNat (0xE0 + bits)).toNat = 0xE0 + bits := toNat_octet (by omega)
  simp only [Pending.begin?, octet]
  rw [if_neg (by omega), if_neg (by omega), if_pos (by omega), Nat.add_sub_cancel_left]
  simp only [Nat.add_eq_left, show 0xE0 + bits = 0xED ↔ bits = 0xD by omega]

theorem begin?_of_four {bits : Nat} (fits : bits < 5) :
    Pending.begin? position (UInt8.ofNat (0xF0 + bits)) =
      some { first := UInt8.ofNat (0xF0 + bits), position, further := 2, value := bits,
             least := if bits = 0 then 0x90 else 0x80,
             greatest := if bits = 4 then 0x8F else 0xBF } := by
  have octet : (UInt8.ofNat (0xF0 + bits)).toNat = 0xF0 + bits := toNat_octet (by omega)
  simp only [Pending.begin?, octet]
  rw [if_neg (by omega), if_neg (by omega), if_neg (by omega), if_pos (by omega),
    Nat.add_sub_cancel_left]
  simp only [Nat.add_eq_left, show 0xF0 + bits = 0xF4 ↔ bits = 4 by omega]

/-- The octets of a code point decode to it, wherever they stand. -/
theorem decodeFrom_encodeScalar (char : Char)
    (decodes : ∀ position, decodeFrom position none rest = .ok text) (position : Nat) :
    decodeFrom position none (CodePoint.encodeScalar char ++ rest) =
      .ok (.scalar char :: text) := by
  have range := CodePoint.lt_or_gt_surrogates char
  rw [← CodePoint.ofNat_toNat char]
  unfold CodePoint.encodeScalar
  generalize char.toNat = number at range
  dsimp only
  -- The four ranges are those of the sequences of one to four octets.
  split
  next isAscii => exact decodeFrom_ascii isAscii decodes
  split
  next noAscii isShort =>
    simp only [List.cons_append, List.nil_append]
    rw [decodeFrom_begin (begin?_of_two (by omega) (by omega)),
      decodeFrom_last rfl (by omega) (by constructor <;> dsimp only <;> omega) decodes,
      show number / 0x40 * 0x40 + number % 0x40 = number by omega]
  split
  next noAscii noShort isMedium =>
    simp only [List.cons_append, List.nil_append]
    rw [decodeFrom_begin (begin?_of_three (by omega)),
      decodeFrom_further rfl (by omega) (by constructor <;> dsimp only <;> split <;> omega),
      decodeFrom_last rfl (by omega) (by constructor <;> dsimp only <;> omega) decodes,
      show (number / 0x1000 * 0x40 + number / 0x40 % 0x40) * 0x40 + number % 0x40 = number by
        omega]
  next noAscii noShort noMedium =>
    simp only [List.cons_append, List.nil_append]
    rw [decodeFrom_begin (begin?_of_four (by omega)),
      decodeFrom_further rfl (by omega) (by constructor <;> dsimp only <;> split <;> omega),
      decodeFrom_further rfl (by omega) (by constructor <;> dsimp only <;> omega),
      decodeFrom_last rfl (by omega) (by constructor <;> dsimp only <;> omega) decodes,
      show ((number / 0x40000 * 0x40 + number / 0x1000 % 0x40) * 0x40 +
        number / 0x40 % 0x40) * 0x40 + number % 0x40 = number by omega]

/-- The octets of a text of scalar values decode to this text. -/
theorem decodeFrom_encode (chars : List Char) (position : Nat) :
    decodeFrom position none (chars.flatMap CodePoint.encodeScalar) =
      .ok (Text.ofChars chars) := by
  induction chars generalizing position with
  | nil => rfl
  | cons char chars decodes => exact decodeFrom_encodeScalar char decodes position

end Bytes

namespace Text

/-- Only lone surrogates cannot be encoded. -/
theorem encode_ofChars (chars : List Char) :
    (ofChars chars).encode = .ok (chars.flatMap CodePoint.encodeScalar) := by
  have fromAny (position : Nat) :
      encodeFrom position (ofChars chars) = .ok (chars.flatMap CodePoint.encodeScalar) := by
    induction chars generalizing position with
    | nil => rfl
    | cons char chars encodes =>
        rw [ofChars, List.map_cons, encodeFrom, ← ofChars, encodes]
        rfl
  exact fromAny 0

/-- The octets of a text of scalar values that opens with ASCII, with a byte order mark in front
of them or without one, decode to this text. -/
theorem decode_of_encode_eq_ok {first : Char} (isAscii : first.toNat < 0x80) {chars : List Char}
    {bytes : Bytes} (encodes : (ofChars (first :: chars)).encode = .ok bytes) :
    bytes.withoutMark.decode = .ok (ofChars (first :: chars)) ∧
      (Bytes.withoutMark (0xEF :: 0xBB :: 0xBF :: bytes)).decode =
        .ok (ofChars (first :: chars)) := by
  obtain rfl : (first :: chars).flatMap CodePoint.encodeScalar = bytes := by
    simpa [encode_ofChars] using encodes
  have unmarked : Bytes.withoutMark ((first :: chars).flatMap CodePoint.encodeScalar) =
      (first :: chars).flatMap CodePoint.encodeScalar := by
    rw [List.flatMap_cons, CodePoint.encodeScalar, if_pos isAscii, List.singleton_append]
    unfold Bytes.withoutMark
    split
    next mark rest isMark =>
      have octet : (UInt8.ofNat first.toNat).toNat = first.toNat :=
        Bytes.toNat_octet (by omega)
      rw [(List.cons.inj isMark).1] at octet
      rw [← octet] at isAscii
      exact absurd isAscii (by decide)
    next noMark => rfl
  rw [unmarked]
  exact ⟨Bytes.decodeFrom_encode _ 0, Bytes.decodeFrom_encode _ 0⟩

end Text

end ApiTypes
