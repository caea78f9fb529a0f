import ApiTypes.Json.Load
import ApiTypes.Proofs.NumeralReading
import ApiTypes.Shape.Scalar

/-!
# Spellings in JSON

The texts that stand for data in JSON.  Data is a sequence of tokens, and space may stand
around every token.  A string may be spelled with any choice of escapes, which goes from
character to character.
-/

namespace ApiTypes.Json

/-! ## Characters of strings -/

/-- One of the hexadecimal digits of a value, which has two from ten on. -/
inductive SpellsDigit (value : Nat) : Char → Prop
  | small (fits : value < 16) : SpellsDigit value value.digitChar
  | capital (fits : value < 16) : SpellsDigit value value.digitChar.toUpper

/-- Four hexadecimal digits of a number of sixteen bits. -/
inductive SpellsUnit (number : Nat) : List Char → Prop
  | digits {first second third fourth : Char}
      (spellsFirst : SpellsDigit (number / 0x1000) first)
      (spellsSecond : SpellsDigit (number / 0x100 % 0x10) second)
      (spellsThird : SpellsDigit (number / 0x10 % 0x10) third)
      (spellsFourth : SpellsDigit (number % 0x10) fourth) :
      SpellsUnit number [first, second, third, fourth]

/-- The letters of escapes with the characters that they stand for. -/
def escapeLetters : List (Char × Char) :=
  [('"', '"'), ('\\', '\\'), ('/', '/'), ('b', '\x08'), ('f', '\x0C'), ('n', '\n'), ('r', '\r'),
    ('t', '\t')]

/-- What a character of a string may be written as. -/
inductive SpellsChar (char : Char) : List Char → Prop
  | plain (isPlain : 0x20 ≤ char.toNat) (noMark : char ≠ '"') (noEscape : char ≠ '\\') :
      SpellsChar char [char]
  | letter {letter : Char} (listed : (letter, char) ∈ escapeLetters) :
      SpellsChar char ['\\', letter]
  | unit {digits : List Char} (spells : SpellsUnit char.toNat digits) :
      SpellsChar char ('\\' :: 'u' :: digits)
  /-- A character beyond the numbers of sixteen bits is two surrogates. -/
  | pair {high low : List Char} (isBeyond : 0x10000 ≤ char.toNat)
      (spellsHigh : SpellsUnit (0xD800 + (char.toNat - 0x10000) / 0x400) high)
      (spellsLow : SpellsUnit (0xDC00 + (char.toNat - 0x10000) % 0x400) low) :
      SpellsChar char ('\\' :: 'u' :: high ++ '\\' :: 'u' :: low)

/-- What stands between the marks of a string. -/
inductive SpellsContent : List Char → List Char → Prop
  | nil : SpellsContent [] []
  | cons {char : Char} {chars spelling others : List Char} (spells : SpellsChar char spelling)
      (spellsOthers : SpellsContent chars others) :
      SpellsContent (char :: chars) (spelling ++ others)

/-! ## Tokens -/

/-- A part of a text that no space divides. -/
inductive Token where
  | structural (char : Char)
  | word (letters : String)
  | integer (value : Int)
  | string (content : Text)

/-- What a token may be written as. -/
inductive Token.Spelled : Token → List Char → Prop
  | structural {char : Char} (listed : char ∈ ['[', ']', '\x7b', '\x7d', ':', ',']) :
      (Token.structural char).Spelled [char]
  | word {letters : String} (listed : letters ∈ ["null", "true", "false"]) :
      (Token.word letters).Spelled letters.toList
  | natural (number : Nat) : (Token.integer number).Spelled (Nat.toDigits 10 number)
  /-- Zero may have a sign. -/
  | negative (number : Nat) : (Token.integer (-number)).Spelled ('-' :: Nat.toDigits 10 number)
  | string {content inner : List Char} (spells : SpellsContent content inner) :
      (Token.string (Text.ofChars content)).Spelled ('"' :: inner ++ ['"'])

/-- The characters that may stand between tokens. -/
def IsSpacing (chars : List Char) : Prop :=
  ∀ char ∈ chars, char ∈ [' ', '\t', '\n', '\r']

/-- Tokens one after another with space before, between and behind them. -/
inductive Spells : List Token → List Char → Prop
  | nil {spacing : List Char} (isSpacing : IsSpacing spacing) : Spells [] spacing
  | cons {token : Token} {tokens : List Token} {spacing chars others : List Char}
      (isSpacing : IsSpacing spacing) (spelled : token.Spelled chars)
      (spells : Spells tokens others) : Spells (token :: tokens) (spacing ++ chars ++ others)

end ApiTypes.Json

namespace ApiTypes.Data

open Json (Token)

mutual

/-- The tokens of data in JSON. -/
def tokens : Data → List Token
  | .null => [.word "null"]
  | .boolean value => [.word (if value then "true" else "false")]
  | .integer value => [.integer value]
  | .text content => [.string content]
  | .list items => .structural '[' :: elementTokens items
  | .mapping entries => .structural '\x7b' :: memberTokens entries
  | _ => []

/-- The tokens of the items of a list and of its end. -/
def elementTokens : List Data → List Token
  | [] => [.structural ']']
  | item :: items => tokens item ++ laterElementTokens items

/-- The tokens of a list behind one of its items. -/
def laterElementTokens : List Data → List Token
  | [] => [.structural ']']
  | item :: items => .structural ',' :: (tokens item ++ laterElementTokens items)

/-- The tokens of the entries of a mapping and of its end. -/
def memberTokens : List (Data × Data) → List Token
  | [] => [.structural '\x7d']
  | (key, value) :: entries =>
      tokens key ++ .structural ':' :: (tokens value ++ laterMemberTokens entries)

/-- The tokens of a mapping behind one of its entries. -/
def laterMemberTokens : List (Data × Data) → List Token
  | [] => [.structural '\x7d']
  | (key, value) :: entries =>
      .structural ',' ::
        (tokens key ++ .structural ':' :: (tokens value ++ laterMemberTokens entries))

end

mutual

/-- Data of the kinds that JSON has: the integers are short enough to be written, texts are
Unicode, and the keys of mappings are texts. -/
def isJson : Data → Bool
  | .null => true
  | .boolean _ => true
  | .integer value => decide (value.natAbs < Shape.unwritableMagnitude)
  | .text content => content.all fun point => !Text.isLone point
  | .list items => areJson items
  | .mapping entries => areJsonMembers entries
  | _ => false

/-- List counterpart of `isJson`. -/
def areJson : List Data → Bool
  | [] => true
  | item :: items => isJson item && areJson items

/-- Counterpart of `isJson` for the entries of a mapping. -/
def areJsonMembers : List (Data × Data) → Bool
  | [] => true
  | (.text name, value) :: entries =>
      isJson (.text name) && isJson value && areJsonMembers entries
  | _ :: _ => false

end

theorem isJson_of_areJsonMembers_cons {key value : Data} {entries : List (Data × Data)}
    (areJson : areJsonMembers ((key, value) :: entries) = true) :
    (∃ name, key = .text name) ∧ key.isJson = true ∧ value.isJson = true ∧
      areJsonMembers entries = true := by
  cases key with
  | text name =>
      simp only [areJsonMembers, Bool.and_eq_true] at areJson
      exact ⟨⟨name, rfl⟩, areJson.1.1, areJson.1.2, areJson.2⟩
  | _ => cases areJson

/-! ## Every value has a spelling -/

theorem exists_spellsUnit {number : Nat} (fits : number < 0x10000) :
    ∃ digits, Json.SpellsUnit number digits :=
  ⟨_, .digits (.small (by omega)) (.small (by omega)) (.small (by omega)) (.small (by omega))⟩

/-- Every character can be escaped. -/
theorem exists_spellsChar (char : Char) : ∃ chars, Json.SpellsChar char chars := by
  have range : char.toNat < 0x110000 := by
    have valid : char.toNat.isValidChar := char.valid
    simp only [Nat.isValidChar] at valid
    omega
  by_cases isBeyond : 0x10000 ≤ char.toNat
  · obtain ⟨high, spellsHigh⟩ :
        ∃ digits, Json.SpellsUnit (0xD800 + (char.toNat - 0x10000) / 0x400) digits :=
      exists_spellsUnit (by omega)
    obtain ⟨low, spellsLow⟩ :
        ∃ digits, Json.SpellsUnit (0xDC00 + (char.toNat - 0x10000) % 0x400) digits :=
      exists_spellsUnit (by omega)
    exact ⟨_, .pair isBeyond spellsHigh spellsLow⟩
  · obtain ⟨digits, spells⟩ := exists_spellsUnit (Nat.lt_of_not_le isBeyond)
    exact ⟨_, .unit spells⟩

theorem exists_spellsContent (chars : List Char) : ∃ inner, Json.SpellsContent chars inner := by
  induction chars with
  | nil => exact ⟨[], .nil⟩
  | cons char chars induction =>
      obtain ⟨spelling, spells⟩ := exists_spellsChar char
      obtain ⟨inner, spellsOthers⟩ := induction
      exact ⟨spelling ++ inner, .cons spells spellsOthers⟩

/-- A text without lone surrogates is made of characters. -/
theorem exists_chars {content : Text} (noLone : content.all (fun point => !Text.isLone point)) :
    ∃ chars, content = Text.ofChars chars := by
  induction content with
  | nil => exact ⟨[], rfl⟩
  | cons point content induction =>
      rw [List.all_cons, Bool.and_eq_true] at noLone
      obtain ⟨chars, rfl⟩ := induction noLone.2
      cases point with
      | scalar char => exact ⟨char :: chars, rfl⟩
      | surrogate half => cases noLone.1

theorem exists_spelled_integer (value : Int) : ∃ chars, (Token.integer value).Spelled chars := by
  obtain ⟨number, rfl | rfl⟩ := Int.eq_nat_or_neg value
  · exact ⟨_, .natural number⟩
  · exact ⟨_, .negative number⟩

theorem mem_laterElementTokens {token : Token} {items : List Data}
    (member : token ∈ elementTokens items) : token ∈ laterElementTokens items := by
  cases items with
  | nil => exact member
  | cons item items => exact List.mem_cons_of_mem _ member

theorem mem_laterMemberTokens {token : Token} {entries : List (Data × Data)}
    (member : token ∈ memberTokens entries) : token ∈ laterMemberTokens entries := by
  cases entries with
  | nil => exact member
  | cons entry entries => exact List.mem_cons_of_mem _ member

mutual

theorem exists_spelled_of_mem_tokens (data : Data) (isJson : data.isJson = true) :
    ∀ token ∈ data.tokens, ∃ chars, token.Spelled chars := by
  cases data with
  | null => exact List.forall_mem_singleton.mpr ⟨_, .word (by decide)⟩
  | boolean truth => exact List.forall_mem_singleton.mpr ⟨_, .word (by cases truth <;> decide)⟩
  | integer value => exact List.forall_mem_singleton.mpr (exists_spelled_integer value)
  | text content =>
      obtain ⟨chars, rfl⟩ := exists_chars isJson
      obtain ⟨inner, spells⟩ := exists_spellsContent chars
      exact List.forall_mem_singleton.mpr ⟨_, .string spells⟩
  | list items =>
      refine List.forall_mem_cons.mpr ⟨⟨_, .structural (by decide)⟩, ?_⟩
      intro token member
      exact exists_spelled_of_mem_laterElementTokens items isJson token
        (mem_laterElementTokens member)
  | mapping entries =>
      refine List.forall_mem_cons.mpr ⟨⟨_, .structural (by decide)⟩, ?_⟩
      intro token member
      exact exists_spelled_of_mem_laterMemberTokens entries isJson token
        (mem_laterMemberTokens member)
  | _ => cases isJson

/-- List counterpart of `exists_spelled_of_mem_tokens`. -/
theorem exists_spelled_of_mem_laterElementTokens (items : List Data)
    (areJson : Data.areJson items = true) :
    ∀ token ∈ laterElementTokens items, ∃ chars, token.Spelled chars := by
  cases items with
  | nil => exact List.forall_mem_singleton.mpr ⟨_, .structural (by decide)⟩
  | cons item items =>
      simp only [Data.areJson, Bool.and_eq_true] at areJson
      simp only [laterElementTokens, List.forall_mem_cons, List.forall_mem_append]
      exact ⟨⟨_, .structural (by decide)⟩, exists_spelled_of_mem_tokens item areJson.1,
        exists_spelled_of_mem_laterElementTokens items areJson.2⟩

/-- Counterpart of `exists_spelled_of_mem_tokens` for the entries of a mapping. -/
theorem exists_spelled_of_mem_laterMemberTokens (entries : List (Data × Data))
    (areJson : areJsonMembers entries = true) :
    ∀ token ∈ laterMemberTokens entries, ∃ chars, token.Spelled chars := by
  cases entries with
  | nil => exact List.forall_mem_singleton.mpr ⟨_, .structural (by decide)⟩
  | cons entry entries =>
      obtain ⟨key, value⟩ := entry
      obtain ⟨-, keyIsJson, valueIsJson, areJson⟩ := isJson_of_areJsonMembers_cons areJson
      simp only [laterMemberTokens, List.forall_mem_cons, List.forall_mem_append]
      exact ⟨⟨_, .structural (by decide)⟩, exists_spelled_of_mem_tokens key keyIsJson,
        ⟨_, .structural (by decide)⟩, exists_spelled_of_mem_tokens value valueIsJson,
        exists_spelled_of_mem_laterMemberTokens entries areJson⟩

end

/-- Data of JSON has a spelling. -/
theorem exists_spells {data : Data} (isJson : data.isJson = true) :
    ∃ chars, Json.Spells data.tokens chars := by
  have unspaced (tokens : List Token)
      (spelled : ∀ token ∈ tokens, ∃ chars, token.Spelled chars) :
      ∃ chars, Json.Spells tokens chars := by
    induction tokens with
    | nil => exact ⟨[], .nil (by simp [Json.IsSpacing])⟩
    | cons token tokens induction =>
        obtain ⟨⟨chars, here⟩, others⟩ := List.forall_mem_cons.mp spelled
        obtain ⟨behind, spells⟩ := induction others
        exact ⟨[] ++ chars ++ behind, .cons (by simp [Json.IsSpacing]) here spells⟩
  exact unspaced data.tokens (exists_spelled_of_mem_tokens data isJson)

end ApiTypes.Data
