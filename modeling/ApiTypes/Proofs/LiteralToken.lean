import ApiTypes.Proofs.TypeReading

/-!
# Literals as tokens

The text of a literal is one token wherever no word goes on behind it.  Numbers
and other words end by themselves, quoted texts end at their mark, and lists and
maps at the bracket that closes them, since the brackets within a literal are
either balanced or quoted.
-/

namespace ApiTypes

namespace Reading

/-- A text of one or more code points that words are made of. -/
def IsWord (word : Text) : Prop :=
  word ≠ [] ∧ ∀ point ∈ word, isWordPart point = true

/-- No word goes on at the beginning of a text. -/
def EndsWord (rest : Text) : Prop :=
  ∀ point ∈ rest.head?, isWordPart point = false

theorem IsWord.append {first second : Text} (firstWord : IsWord first)
    (secondWord : IsWord second) : IsWord (first ++ second) := by
  refine ⟨by simp [firstWord.1], ?_⟩
  intro point member
  rcases List.mem_append.mp member with inFirst | inSecond
  · exact firstWord.2 point inFirst
  · exact secondWord.2 point inSecond

theorem ne_of_class (isIn : CodePoint → Bool) {point other : CodePoint}
    (pointIn : isIn point = true) (otherOut : isIn other = false) : point ≠ other := by
  rintro rfl
  simp [pointIn] at otherOut

theorem isOneOf_eq_false_of_subset {point : CodePoint} {few many : String}
    (subset : few.toList ⊆ many.toList) (out : point.isOneOf many = false) :
    point.isOneOf few = false := by
  cases point with
  | scalar char =>
      simp only [CodePoint.isOneOf, List.contains_eq_mem, decide_eq_false_iff_not] at out ⊢
      exact fun member => out (subset member)
  | surrogate half => rfl

theorem isOneOf_eq_false_of_isWordPart {point : CodePoint} {characters : String}
    (part : isWordPart point = true)
    (noParts : characters.toList.any (fun char => isWordPart (.scalar char)) = false) :
    point.isOneOf characters = false := by
  cases point with
  | scalar char =>
      simp only [CodePoint.isOneOf, List.contains_eq_mem, decide_eq_false_iff_not]
      intro member
      have noPart := List.any_eq_false.mp noParts char member
      exact noPart part
  | surrogate half => rfl

/-- A word opens neither a quoted text nor a list nor a map. -/
theorem IsWord.exists_cons {word : Text} (isWord : IsWord word) :
    ∃ first others, word = first :: others ∧ isWordPart first = true ∧
      first ≠ .scalar '\'' ∧ first ≠ .scalar '[' ∧ first ≠ .scalar '\x7b' := by
  obtain ⟨first, others, rfl⟩ := List.exists_cons_of_ne_nil isWord.1
  have part : isWordPart first = true := isWord.2 first (by simp)
  exact ⟨first, others, rfl, part, ne_of_class isWordPart part (by decide),
    ne_of_class isWordPart part (by decide), ne_of_class isWordPart part (by decide)⟩

/-! ## Numbers -/

theorem isWordPart_digit {char : Char} (digit : char.isDigit = true) :
    isWordPart (.scalar char) = true := by
  rw [← CodePoint.isDigit_scalar] at digit
  simp [isWordPart, Text.isIdentifierPart, digit]

theorem isWordPart_of_mem_toDigits {char : Char} {number : Nat}
    (digit : char ∈ Nat.toDigits 10 number) : isWordPart (.scalar char) = true :=
  isWordPart_digit (Nat.isDigit_of_mem_toDigits (by omega) (by omega) digit)

theorem isWord_ofChars {chars : List Char} (present : chars ≠ [])
    (parts : ∀ char ∈ chars, isWordPart (.scalar char) = true) :
    IsWord (Text.ofChars chars) := by
  refine ⟨by simpa [Text.ofChars] using present, ?_⟩
  intro point member
  obtain ⟨char, charMember, rfl⟩ := List.mem_map.mp member
  exact parts char charMember

theorem isWord_ofNat (number : Nat) : IsWord (Text.ofNat number) :=
  isWord_ofChars Nat.toDigits_ne_nil fun _ digit => isWordPart_of_mem_toDigits digit

theorem isWord_ofInt (value : Int) : IsWord (Text.ofInt value) := by
  cases value with
  | ofNat number => exact isWord_ofNat number
  | negSucc number =>
      have minus : IsWord [.scalar '-'] := ⟨by simp, by decide⟩
      exact minus.append (isWord_ofNat (number + 1))

theorem isWord_padded (width number : Nat) : IsWord (Text.padded width number) := by
  refine isWord_ofChars (by simp [Nat.toDigits_ne_nil]) ?_
  intro char member
  rcases List.mem_append.mp member with zero | digit
  · rw [List.eq_of_mem_replicate zero]
    decide
  · exact isWordPart_of_mem_toDigits digit

theorem isWord_positional (decimal : Decimal) : IsWord decimal.positional := by
  have zero : isWordPart (.scalar '0') = true := by decide
  have point : isWordPart (.scalar '.') = true := by decide
  have digit : ∀ char ∈ Nat.toDigits 10 decimal.digits, isWordPart (.scalar char) = true :=
    fun _ => isWordPart_of_mem_toDigits
  refine isWord_ofChars ?_ ?_
  · split
    · simp
    · split <;> simp
  · intro char member
    split at member
    · simp only [List.mem_append, List.mem_cons, List.not_mem_nil, or_false,
        List.mem_replicate] at member
      rcases member with ((rfl | rfl) | ⟨_, rfl⟩) | inDigits
      · exact zero
      · exact point
      · exact zero
      · exact digit char inDigits
    · split at member
      · simp only [List.mem_append, List.mem_cons] at member
        rcases member with inWhole | rfl | inFraction
        · exact digit char (List.mem_of_mem_take inWhole)
        · exact point
        · exact digit char (List.mem_of_mem_drop inFraction)
      · simp only [List.mem_append, List.mem_cons, List.not_mem_nil, or_false,
          List.mem_replicate] at member
        rcases member with (inDigits | ⟨_, rfl⟩) | rfl | rfl
        · exact digit char inDigits
        · exact zero
        · exact point
        · exact zero

theorem isWord_scientific (decimal : Decimal) : IsWord decimal.scientific := by
  have digit : ∀ char ∈ Nat.toDigits 10 decimal.digits, isWordPart (.scalar char) = true :=
    fun _ => isWordPart_of_mem_toDigits
  unfold Decimal.scientific
  refine IsWord.append (IsWord.append ?_ ?_) (isWord_padded 2 _)
  · cases digits : Nat.toDigits 10 decimal.digits with
    | nil => exact absurd digits Nat.toDigits_ne_nil
    | cons first others =>
        rw [digits] at digit
        cases others with
        | nil => exact isWord_ofChars (by simp) digit
        | cons second others =>
            refine isWord_ofChars (by simp) ?_
            intro char member
            rcases List.mem_cons.mp member with rfl | member
            · exact digit char (by simp)
            · rcases List.mem_cons.mp member with rfl | inFraction
              · decide
              · exact digit char (List.mem_cons_of_mem first inFraction)
  · split
    · exact ⟨by decide, by decide⟩
    · exact ⟨by decide, by decide⟩

theorem isWord_decimal (decimal : Decimal) : IsWord decimal.text := by
  unfold Decimal.text
  split
  · exact ⟨by decide, by decide⟩
  · split
    · exact isWord_positional decimal
    · exact isWord_scientific decimal

/-- The text of a number is a word, whether it is finite or not. -/
theorem isWord_numeral (number : Double) : IsWord (Literal.numeral number) := by
  unfold Literal.numeral
  cases number with
  | notANumber => exact ⟨by decide, by decide⟩
  | infinite negative => cases negative <;> exact ⟨by decide, by decide⟩
  | finite negative mantissa exponent canonical =>
      dsimp only
      split
      · exact isWord_ofInt _
      · cases negative with
        | false => exact isWord_decimal _
        | true =>
            have minus : IsWord "-" := ⟨by decide, by decide⟩
            exact minus.append (isWord_decimal _)

/-! ## Quoted texts -/

/-- Reading undoes the escapes of a quoted text. -/
theorem quoted?_escape (mark : CodePoint) (noBackslash : mark ≠ .scalar '\\')
    (content rest : Text) :
    quoted? mark (Literal.escape mark content ++ mark :: rest) = some (content, rest) := by
  induction content with
  | nil =>
      rw [show Literal.escape mark [] ++ mark :: rest = mark :: rest from rfl,
        quoted?.eq_def]
      simp
  | cons point content induction =>
      by_cases escaped : point = .scalar '\\' ∨ point = mark
      · have text : Literal.escape mark (point :: content) ++ mark :: rest =
            .scalar '\\' :: point :: (Literal.escape mark content ++ mark :: rest) := by
          simp [Literal.escape, escaped]
        rw [text, quoted?.eq_def]
        simp [noBackslash.symm, induction]
      · have text : Literal.escape mark (point :: content) ++ mark :: rest =
            point :: (Literal.escape mark content ++ mark :: rest) := by
          simp [Literal.escape, escaped]
        have notBackslash : point ≠ .scalar '\\' := fun same => escaped (.inl same)
        have notMark : point ≠ mark := fun same => escaped (.inr same)
        rw [text, quoted?.eq_def]
        simp [notBackslash, notMark, induction]

/-! ## Balanced texts -/

/-- A text with which a reader behind an opening bracket gets no nearer to the closing one. -/
def Balanced (text : Text) : Prop :=
  ∀ (closer : CodePoint) (outer : List CodePoint) (rest : Text),
    closer = .scalar ']' ∨ closer = .scalar '\x7d' →
      behindBrackets? (closer :: outer) false (text ++ rest) =
        behindBrackets? (closer :: outer) false rest

theorem Balanced.nil : Balanced [] :=
  fun _ _ _ _ => rfl

theorem Balanced.append {first second : Text} (firstBalanced : Balanced first)
    (secondBalanced : Balanced second) : Balanced (first ++ second) := by
  intro closer outer rest closes
  rw [List.append_assoc, firstBalanced closer outer _ closes,
    secondBalanced closer outer rest closes]

theorem Balanced.join {separator : Text} {parts : List Text} (separatorBalanced : Balanced separator)
    (partsBalanced : ∀ part ∈ parts, Balanced part) : Balanced (Text.join separator parts) := by
  induction parts with
  | nil => exact Balanced.nil
  | cons part parts induction =>
      have partBalanced := partsBalanced part (by simp)
      have others := induction fun part member => partsBalanced part (by simp [member])
      cases parts with
      | nil => exact partBalanced
      | cons next parts => exact (partBalanced.append separatorBalanced).append others

/-- A text without brackets and without quotation marks is balanced. -/
theorem Balanced.of_plain {text : Text}
    (plain : ∀ point ∈ text, point.isOneOf "'[]\x7b\x7d" = false) : Balanced text := by
  intro closer outer rest closes
  induction text with
  | nil => rfl
  | cons point text induction =>
      have pointPlain := plain point (by simp)
      have differs (other : CodePoint) (special : other.isOneOf "'[]\x7b\x7d" = true) :
          point ≠ other := (ne_of_class (·.isOneOf "'[]\x7b\x7d") special pointPlain).symm
      have notCloser : point ≠ closer := by
        rcases closes with rfl | rfl <;> exact differs _ (by decide)
      have closesNothing : point.isOneOf "]\x7d" = false :=
        isOneOf_eq_false_of_subset (by decide) pointPlain
      rw [List.cons_append, behindBrackets?.eq_def]
      simpa [notCloser, differs (.scalar '\'') (by decide), differs (.scalar '[') (by decide),
        differs (.scalar '\x7b') (by decide), closesNothing] using
        induction fun point member => plain point (by simp [member])

theorem IsWord.balanced {word : Text} (isWord : IsWord word) : Balanced word := by
  refine Balanced.of_plain fun point member => ?_
  exact isOneOf_eq_false_of_isWordPart (isWord.2 point member) (by decide)

theorem behindBrackets?_escape (closer : CodePoint) (outer : List CodePoint)
    (content rest : Text) :
    behindBrackets? (closer :: outer) true (Literal.escape (.scalar '\'') content ++ rest) =
      behindBrackets? (closer :: outer) true rest := by
  induction content with
  | nil => rfl
  | cons point content induction =>
      by_cases escaped : point = .scalar '\\' ∨ point = .scalar '\''
      · have text : Literal.escape (.scalar '\'') (point :: content) ++ rest =
            .scalar '\\' :: point :: (Literal.escape (.scalar '\'') content ++ rest) := by
          simp [Literal.escape, escaped]
        rw [text, behindBrackets?.eq_def]
        simp [induction]
      · have text : Literal.escape (.scalar '\'') (point :: content) ++ rest =
            point :: (Literal.escape (.scalar '\'') content ++ rest) := by
          simp [Literal.escape, escaped]
        have notBackslash : point ≠ .scalar '\\' := fun same => escaped (.inl same)
        have notMark : (point != .scalar '\'') = true :=
          bne_iff_ne.mpr fun same => escaped (.inr same)
        rw [text, behindBrackets?.eq_def]
        simp [notBackslash, notMark, induction]

theorem balanced_quote (content : Text) : Balanced (Literal.quote content) := by
  intro closer outer rest closes
  have text : Literal.quote content ++ rest =
      .scalar '\'' :: (Literal.escape (.scalar '\'') content ++ .scalar '\'' :: rest) := by
    simp [Literal.quote]
  have notCloser : .scalar '\'' ≠ closer := by
    rcases closes with rfl | rfl <;> decide
  rw [text, behindBrackets?.eq_def]
  simp only [notCloser, if_false, if_true]
  rw [behindBrackets?_escape, behindBrackets?.eq_def]
  simp

/-- A pair of brackets that enclose the content of a literal. -/
def Encloses (opener closing : CodePoint) : Prop :=
  opener = .scalar '[' ∧ closing = .scalar ']' ∨
    opener = .scalar '\x7b' ∧ closing = .scalar '\x7d'

theorem behindBrackets?_closing (closing : CodePoint) (outer : List CodePoint) (rest : Text) :
    behindBrackets? (closing :: outer) false (closing :: rest) =
      behindBrackets? outer false rest := by
  rw [behindBrackets?.eq_def]
  simp

theorem Balanced.enclosed {opener closing : CodePoint} {inner : Text}
    (pair : Encloses opener closing) (innerBalanced : Balanced inner) :
    Balanced (opener :: inner ++ [closing]) := by
  intro closer outer rest closes
  have inside : behindBrackets? (closing :: closer :: outer) false (inner ++ closing :: rest) =
      behindBrackets? (closer :: outer) false rest := by
    rw [innerBalanced closing _ _ (pair.imp And.right And.right), behindBrackets?_closing]
  have notCloser : opener ≠ closer := by
    rcases pair with ⟨rfl, -⟩ | ⟨rfl, -⟩ <;> rcases closes with rfl | rfl <;> decide
  rw [← inside, List.append_assoc, List.singleton_append, List.cons_append,
    behindBrackets?.eq_def]
  rcases pair with ⟨rfl, rfl⟩ | ⟨rfl, rfl⟩ <;> simp [notCloser]

mutual

theorem balanced_render (value : Literal) : Balanced value.render := by
  cases value with
  | null => exact IsWord.balanced ⟨by decide, by decide⟩
  | text content => exact balanced_quote content
  | boolean value => cases value <;> exact IsWord.balanced ⟨by decide, by decide⟩
  | number value => exact (isWord_numeral value).balanced
  | list items =>
      rw [Literal.render]
      exact Balanced.enclosed (.inl ⟨rfl, rfl⟩)
        (Balanced.join (Balanced.of_plain (by decide)) (balanced_renderItems items))
  | map entries =>
      rw [Literal.render]
      exact Balanced.enclosed (.inr ⟨rfl, rfl⟩)
        (Balanced.join (Balanced.of_plain (by decide)) (balanced_renderEntries entries))

/-- List counterpart of `balanced_render`. -/
theorem balanced_renderItems (items : List Literal) :
    ∀ part ∈ Literal.renderItems items, Balanced part := by
  cases items with
  | nil => simp [Literal.renderItems]
  | cons item items =>
      have itemBalanced := balanced_render item
      have itemsBalanced := balanced_renderItems items
      simpa [Literal.renderItems] using ⟨itemBalanced, itemsBalanced⟩

/-- Counterpart of `balanced_render` for the entries of a map. -/
theorem balanced_renderEntries (entries : List (Literal × Literal)) :
    ∀ part ∈ Literal.renderEntries entries, Balanced part := by
  cases entries with
  | nil => simp [Literal.renderEntries]
  | cons entry entries =>
      obtain ⟨key, value⟩ := entry
      have separator : Balanced " : " := Balanced.of_plain (by decide)
      have entryBalanced :=
        ((balanced_render key).append separator).append (balanced_render value)
      have entriesBalanced := balanced_renderEntries entries
      simpa [Literal.renderEntries] using ⟨by simpa using entryBalanced, entriesBalanced⟩

end

/-! ## Tokens -/

theorem behindToken?_word {word rest : Text} (isWord : IsWord word) (ends : EndsWord rest) :
    behindToken? (word ++ rest) = some rest := by
  have behind := Text.dropWhile_append isWord.2 ends
  obtain ⟨first, others, rfl, part, notMark, notBracket, notBrace⟩ := isWord.exists_cons
  rw [List.cons_append, List.dropWhile_cons_of_pos part] at behind
  simp [behindToken?, notMark, notBracket, notBrace, part, behind]

theorem behindToken?_quote (content rest : Text) :
    behindToken? (Literal.quote content ++ rest) = some rest := by
  have opened : behindToken? (Literal.quote content ++ rest) =
      (quoted? (.scalar '\'') (Literal.escape (.scalar '\'') content ++ .scalar '\'' :: rest)).map
        Prod.snd := by
    simp [Literal.quote, behindToken?]
  rw [opened, quoted?_escape _ (by decide)]
  rfl

theorem behindToken?_enclosed {opener closing : CodePoint} {inner : Text}
    (pair : Encloses opener closing) (balanced : Balanced inner) (rest : Text) :
    behindToken? (opener :: inner ++ [closing] ++ rest) = some rest := by
  have inside : behindBrackets? [closing] false (inner ++ closing :: rest) = some rest := by
    rw [balanced closing _ _ (pair.imp And.right And.right), behindBrackets?_closing]
    simp [behindBrackets?]
  rw [← inside]
  rcases pair with ⟨rfl, rfl⟩ | ⟨rfl, rfl⟩ <;> simp [behindToken?]

theorem behindToken?_render (value : Literal) {rest : Text} (ends : EndsWord rest) :
    behindToken? (value.render ++ rest) = some rest := by
  cases value with
  | null => exact behindToken?_word ⟨by decide, by decide⟩ ends
  | text content => exact behindToken?_quote content rest
  | boolean value => cases value <;> exact behindToken?_word ⟨by decide, by decide⟩ ends
  | number value => exact behindToken?_word (isWord_numeral value) ends
  | list items =>
      rw [Literal.render]
      exact behindToken?_enclosed (.inl ⟨rfl, rfl⟩)
        (Balanced.join (Balanced.of_plain (by decide)) (balanced_renderItems items)) rest
  | map entries =>
      rw [Literal.render]
      exact behindToken?_enclosed (.inr ⟨rfl, rfl⟩)
        (Balanced.join (Balanced.of_plain (by decide)) (balanced_renderEntries entries)) rest

theorem token?_append {token rest : Text} (behind : behindToken? (token ++ rest) = some rest) :
    token? (token ++ rest) = some (.leaf token, rest) := by
  simp [token?, behind]

/-- A word is read as a token. -/
theorem token?_word {word rest : Text} (isWord : IsWord word) (ends : EndsWord rest) :
    token? (word ++ rest) = some (.leaf word, rest) :=
  token?_append (behindToken?_word isWord ends)

/-- The text of a literal is read as one token. -/
theorem token?_render (value : Literal) {rest : Text} (ends : EndsWord rest) :
    token? (value.render ++ rest) = some (.leaf value.render, rest) :=
  token?_append (behindToken?_render value ends)

end Reading

end ApiTypes
