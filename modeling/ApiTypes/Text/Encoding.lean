import ApiTypes.Text

/-!
# UTF-8

Encoding fails exactly at lone surrogates; in names of files some of them stand
for octets that are no UTF-8.  Decoding reads one octet at a time and keeps the
sequence that is under way; a fault covers the longest run of octets that could
still have become a code point.
-/

namespace ApiTypes

def CodePoint.encodeScalar (char : Char) : Bytes :=
  let number := char.toNat
  if number < 0x80 then
    [UInt8.ofNat number]
  else if number < 0x800 then
    [UInt8.ofNat (0xC0 + number / 0x40), UInt8.ofNat (0x80 + number % 0x40)]
  else if number < 0x10000 then
    [UInt8.ofNat (0xE0 + number / 0x1000), UInt8.ofNat (0x80 + number / 0x40 % 0x40),
      UInt8.ofNat (0x80 + number % 0x40)]
  else
    [UInt8.ofNat (0xF0 + number / 0x40000), UInt8.ofNat (0x80 + number / 0x1000 % 0x40),
      UInt8.ofNat (0x80 + number / 0x40 % 0x40), UInt8.ofNat (0x80 + number % 0x40)]

/-- The first run of lone surrogates in a text, which no octets stand for. -/
structure EncodingFault where
  first : Fin 2048
  position : Nat
  length : Nat
  deriving DecidableEq

namespace EncodingFault

/-- The report of a text that cannot be encoded. -/
def message (fault : EncodingFault) : Text :=
  if fault.length = 1 then
    "'utf-8' codec can't encode character '\\u" ++ Text.hex 4 (0xD800 + fault.first.val)
      ++ "' in position " ++ Text.ofNat fault.position ++ ": surrogates not allowed"
  else
    "'utf-8' codec can't encode characters in position " ++ Text.ofNat fault.position ++ "-"
      ++ Text.ofNat (fault.position + fault.length - 1) ++ ": surrogates not allowed"

end EncodingFault

namespace Text

/-- A code point that is half of a surrogate pair. -/
def isLone : CodePoint → Bool
  | .scalar _ => false
  | .surrogate _ => true

/-- Encoding of a text whose first code point stands at the given position. -/
def encodeFrom (position : Nat) : Text → Except EncodingFault Bytes
  | [] => .ok []
  | .scalar char :: rest => do
      let bytes ← encodeFrom (position + 1) rest
      return CodePoint.encodeScalar char ++ bytes
  | .surrogate half :: rest =>
      .error { first := half, position, length := 1 + (rest.takeWhile isLone).length }

def encode (text : Text) : Except EncodingFault Bytes :=
  encodeFrom 0 text

/-- The UTF-8 octets of a text in which each lone surrogate is written as an escape. -/
def encodeEscaped (text : Text) : Bytes :=
  text.flatMap fun
    | .scalar char => CodePoint.encodeScalar char
    | .surrogate half =>
        (("\\u" : Text) ++ Text.hex 4 (0xD800 + half.val)).flatMap fun
          | .scalar char => CodePoint.encodeScalar char
          | .surrogate _ => []

/-- The octet that a lone surrogate stands for in the name of a file.  The surrogates from U+DC80
on stand for the octets that are no UTF-8. -/
def escapedOctet? (half : Fin 2048) : Option UInt8 :=
  if 0x480 ≤ half.val ∧ half.val < 0x500 then some (UInt8.ofNat (half.val - 0x400)) else none

/-- Encoding of a name of files whose first code point stands at the given position. -/
def encodeNameFrom (position : Nat) : Text → Except EncodingFault Bytes
  | [] => .ok []
  | .scalar char :: rest => do
      let bytes ← encodeNameFrom (position + 1) rest
      return CodePoint.encodeScalar char ++ bytes
  | .surrogate half :: rest =>
      match escapedOctet? half with
      | some octet => do
          let bytes ← encodeNameFrom (position + 1) rest
          return octet :: bytes
      | none => .error { first := half, position, length := 1 + (rest.takeWhile isLone).length }

/-- The octets of a text as the name of a file. -/
def encodeName (text : Text) : Except EncodingFault Bytes :=
  encodeNameFrom 0 text

end Text

/-- Why octets are not UTF-8. -/
inductive DecodingReason where
  | invalidStart
  | invalidContinuation
  | unexpectedEnd
  deriving DecidableEq

/-- The octets that do not form a code point. -/
structure DecodingFault where
  reason : DecodingReason
  position : Nat
  first : UInt8
  length : Nat
  deriving DecidableEq

namespace DecodingFault

/-- The report of octets that are not UTF-8. -/
def message (fault : DecodingFault) : Text :=
  let place : Text :=
    if fault.length = 1 then
      "byte 0x" ++ Text.hex 2 fault.first.toNat ++ " in position " ++ Text.ofNat fault.position
    else
      "bytes in position " ++ Text.ofNat fault.position ++ "-"
        ++ Text.ofNat (fault.position + fault.length - 1)
  let reason : Text :=
    match fault.reason with
    | .invalidStart => "invalid start byte"
    | .invalidContinuation => "invalid continuation byte"
    | .unexpectedEnd => "unexpected end of data"
  "'utf-8' codec can't decode " ++ place ++ ": " ++ reason

end DecodingFault

namespace Bytes

/-- A sequence of octets that needs more octets to become a code point. -/
structure Pending where
  /-- The octet that began the sequence. -/
  first : UInt8
  /-- Where that octet stands. -/
  position : Nat
  /-- How many octets are still needed, less one. -/
  further : Nat
  /-- The bits read so far. -/
  value : Nat
  /-- The least octet that may come next. -/
  least : Nat
  /-- The greatest octet that may come next. -/
  greatest : Nat

/-- The sequence that an octet above the ASCII range begins. -/
def Pending.begin? (position : Nat) (octet : UInt8) : Option Pending :=
  let number := octet.toNat
  if number < 0xC2 then none
  else if number < 0xE0 then
    some { first := octet, position, further := 0, value := number - 0xC0,
           least := 0x80, greatest := 0xBF }
  else if number < 0xF0 then
    some { first := octet, position, further := 1, value := number - 0xE0,
           least := if number = 0xE0 then 0xA0 else 0x80,
           greatest := if number = 0xED then 0x9F else 0xBF }
  else if number < 0xF5 then
    some { first := octet, position, further := 2, value := number - 0xF0,
           least := if number = 0xF0 then 0x90 else 0x80,
           greatest := if number = 0xF4 then 0x8F else 0xBF }
  else none

/-- Decoding of the octets from the given position on. -/
def decodeFrom (position : Nat) (pending : Option Pending) :
    Bytes → Except DecodingFault Text
  | [] =>
      match pending with
      | none => .ok []
      | some sequence =>
          .error { reason := .unexpectedEnd, position := sequence.position,
                   first := sequence.first, length := position - sequence.position }
  | octet :: rest =>
      match pending with
      | none =>
          if octet.toNat < 0x80 then do
            let text ← decodeFrom (position + 1) none rest
            return CodePoint.ofNat octet.toNat :: text
          else
            match Pending.begin? position octet with
            | some sequence => decodeFrom (position + 1) (some sequence) rest
            | none => .error { reason := .invalidStart, position, first := octet, length := 1 }
      | some sequence =>
          if sequence.least ≤ octet.toNat ∧ octet.toNat ≤ sequence.greatest then
            let value := sequence.value * 0x40 + (octet.toNat - 0x80)
            match sequence.further with
            | 0 => do
                let text ← decodeFrom (position + 1) none rest
                return CodePoint.ofNat value :: text
            | further + 1 =>
                decodeFrom (position + 1)
                  (some { sequence with further, value, least := 0x80, greatest := 0xBF }) rest
          else
            .error { reason := .invalidContinuation, position := sequence.position,
                     first := sequence.first, length := position - sequence.position }

/-- The text that octets stand for in UTF-8. -/
def decode (bytes : Bytes) : Except DecodingFault Text :=
  decodeFrom 0 none bytes

/-- The octets after a byte order mark, if they begin with one. -/
def withoutMark : Bytes → Bytes
  | 0xEF :: 0xBB :: 0xBF :: rest => rest
  | bytes => bytes

end Bytes

end ApiTypes
