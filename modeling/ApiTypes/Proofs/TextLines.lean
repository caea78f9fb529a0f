import ApiTypes.Proofs.LiteralToken

/-!
# Lines of texts

A text without line ends is one line, whatever follows the line feed behind it.
Quoting, numbers and separators bring no line ends into a text, so that those of
the text of a literal are those of the texts in it.
-/

namespace ApiTypes

namespace Text

/-- No code point of the text ends a line. -/
def isSingleLine (text : Text) : Bool :=
  text.all fun point => !point.isLineEnd

@[simp] theorem isSingleLine_nil : isSingleLine [] = true :=
  rfl

@[simp] theorem isSingleLine_cons (point : CodePoint) (text : Text) :
    isSingleLine (point :: text) = (!point.isLineEnd && text.isSingleLine) :=
  rfl

@[simp] theorem isSingleLine_append (left right : Text) :
    (left ++ right).isSingleLine = (left.isSingleLine && right.isSingleLine) := by
  simp [isSingleLine]

/-- Everything about lines follows from this one equation. -/
theorem lines_append_lineFeed {line : Text} (single : line.isSingleLine = true) (rest : Text) :
    (line ++ .scalar '\n' :: rest).lines = line :: rest.lines := by
  induction line with
  | nil => rw [List.nil_append, lines.eq_def]; rfl
  | cons point line induction =>
      simp only [isSingleLine_cons, Bool.and_eq_true, Bool.not_eq_true'] at single
      obtain ⟨noLineEnd, lineSingle⟩ := single
      have noReturn : point ≠ .scalar '\r' := by
        rintro rfl
        exact absurd noLineEnd (by decide)
      rw [List.cons_append, lines.eq_def]
      split
      next isNil => simp at isNil
      next isReturn => exact absurd (List.cons.inj isReturn).1 noReturn
      next first others _ isCons =>
        obtain ⟨rfl, rfl⟩ := List.cons.inj isCons
        simp [noLineEnd, induction lineSingle]

/-- No line holds a code point that ends a line. -/
theorem isSingleLine_of_mem_lines {text line : Text} (member : line ∈ text.lines) :
    line.isSingleLine = true := by
  fun_induction lines text generalizing line with
  | case1 => simp at member
  | case2 rest induction =>
      rcases List.mem_cons.mp member with rfl | member
      · rfl
      · exact induction member
  | case3 point rest noReturn lineEnd induction =>
      rcases List.mem_cons.mp member with rfl | member
      · rfl
      · exact induction member
  | case4 point rest noReturn noLineEnd noLines induction =>
      obtain rfl := List.mem_singleton.mp member
      simpa using noLineEnd
  | case5 point rest noReturn noLineEnd first others lines induction =>
      rcases List.mem_cons.mp member with rfl | member
      · have firstSingle : first.isSingleLine = true := induction (by simp [lines])
        simpa [noLineEnd] using firstSingle
      · exact induction (by simp [lines, member])

/-- A separator on one line keeps the parts together. -/
theorem isSingleLine_join {separator : Text} (single : separator.isSingleLine = true)
    (parts : List Text) : (join separator parts).isSingleLine = parts.all isSingleLine := by
  induction parts with
  | nil => rfl
  | cons part parts induction =>
      cases parts with
      | nil => simp [join]
      | cons next parts => simp [join, single, induction]

end Text

theorem CodePoint.exists_of_isOneOf {point : CodePoint} {characters : String}
    (isOne : point.isOneOf characters = true) :
    ∃ char ∈ characters.toList, point = .scalar char := by
  cases point with
  | scalar char => exact ⟨char, by simpa [isOneOf] using isOne, rfl⟩
  | surrogate half => simp [isOneOf] at isOne

/-- Words are made of visible characters of ASCII. -/
theorem Reading.toNat_of_isWordPart {point : CodePoint} (part : isWordPart point = true) :
    0x20 < point.toNat ∧ point.toNat < 0x7F := by
  have ofMarks {characters : String} (isOne : point.isOneOf characters = true)
      (visible : (characters.toList.all fun char =>
        0x20 < char.toNat && char.toNat < 0x7F) = true) :
      0x20 < point.toNat ∧ point.toNat < 0x7F := by
    obtain ⟨char, member, rfl⟩ := CodePoint.exists_of_isOneOf isOne
    simpa [CodePoint.toNat] using List.all_eq_true.mp visible char member
  simp only [isWordPart, Text.isIdentifierPart, Text.isIdentifierStart, Bool.or_eq_true] at part
  rcases part with ((letter | mark) | digit) | sign
  · simp only [CodePoint.isAsciiLetter, Bool.or_eq_true, Bool.and_eq_true,
      decide_eq_true_eq] at letter
    omega
  · exact ofMarks mark (by decide)
  · simp only [CodePoint.isDigit, Bool.and_eq_true, decide_eq_true_eq] at digit
    omega
  · exact ofMarks sign (by decide)

theorem Reading.isLineEnd_of_isWordPart {point : CodePoint} (part : isWordPart point = true) :
    point.isLineEnd = false := by
  obtain ⟨above, below⟩ := toNat_of_isWordPart part
  simp only [CodePoint.isLineEnd, Bool.or_eq_false_iff, Bool.and_eq_false_iff,
    decide_eq_false_iff_not, beq_eq_false_iff_ne]
  omega

/-- A word has no line end. -/
theorem Reading.IsWord.isSingleLine {word : Text} (isWord : IsWord word) :
    word.isSingleLine = true := by
  simp only [Text.isSingleLine, List.all_eq_true, Bool.not_eq_true']
  exact fun point member => isLineEnd_of_isWordPart (isWord.2 point member)

namespace Literal

/-- Escaping adds nothing but backslashes. -/
theorem isSingleLine_escape (mark : CodePoint) (content : Text) :
    (escape mark content).isSingleLine = content.isSingleLine := by
  induction content with
  | nil => rfl
  | cons point content induction =>
      have text : escape mark (point :: content) =
          (if point = .scalar '\\' ∨ point = mark then [.scalar '\\', point] else [point]) ++
            escape mark content := by
        simp [escape]
      rw [text, Text.isSingleLine_append, induction]
      split
      · have noLineEnd : (CodePoint.scalar '\\').isLineEnd = false := by decide
        simp [noLineEnd]
      · simp

theorem isSingleLine_quote (content : Text) :
    (quote content).isSingleLine = content.isSingleLine := by
  have noLineEnd : (CodePoint.scalar '\'').isLineEnd = false := by decide
  simp [quote, isSingleLine_escape, noLineEnd]

mutual

/-- The texts in a literal, those that are keys included. -/
def texts : Literal → List Text
  | .text content => [content]
  | .list items => itemsTexts items
  | .map entries => entriesTexts entries
  | _ => []

def itemsTexts : List Literal → List Text
  | [] => []
  | item :: items => texts item ++ itemsTexts items

/-- The texts in the entries of a map. -/
def entriesTexts : List (Literal × Literal) → List Text
  | [] => []
  | (key, value) :: entries => texts key ++ texts value ++ entriesTexts entries

end

mutual

/-- The text of a literal is one line exactly if all texts in it are. -/
theorem isSingleLine_render (value : Literal) :
    value.render.isSingleLine = value.texts.all Text.isSingleLine := by
  cases value with
  | null => decide
  | text content => simp [render, texts, isSingleLine_quote]
  | boolean value => cases value <;> decide
  | number value =>
      simpa [render, texts] using (Reading.isWord_numeral value).isSingleLine
  | list items =>
      have opening : Text.isSingleLine "[" = true := by decide
      have closing : Text.isSingleLine "]" = true := by decide
      rw [render, texts, Text.isSingleLine_append, Text.isSingleLine_append,
        Text.isSingleLine_join (by decide), isSingleLine_renderItems items, opening, closing]
      simp
  | map entries =>
      have opening : Text.isSingleLine "\x7b" = true := by decide
      have closing : Text.isSingleLine "\x7d" = true := by decide
      rw [render, texts, Text.isSingleLine_append, Text.isSingleLine_append,
        Text.isSingleLine_join (by decide), isSingleLine_renderEntries entries, opening, closing]
      simp

/-- List counterpart of `isSingleLine_render`. -/
theorem isSingleLine_renderItems (items : List Literal) :
    (renderItems items).all Text.isSingleLine = (itemsTexts items).all Text.isSingleLine := by
  cases items with
  | nil => rfl
  | cons item items =>
      rw [renderItems, itemsTexts, List.all_cons, List.all_append, isSingleLine_render item,
        isSingleLine_renderItems items]

/-- Counterpart of `isSingleLine_render` for the entries of a map. -/
theorem isSingleLine_renderEntries (entries : List (Literal × Literal)) :
    (renderEntries entries).all Text.isSingleLine = (entriesTexts entries).all Text.isSingleLine := by
  cases entries with
  | nil => rfl
  | cons entry entries =>
      obtain ⟨key, value⟩ := entry
      have separator : Text.isSingleLine " : " = true := by decide
      rw [renderEntries, entriesTexts, List.all_cons, List.all_append, List.all_append,
        Text.isSingleLine_append, Text.isSingleLine_append, isSingleLine_render key,
        isSingleLine_render value, isSingleLine_renderEntries entries, separator]
      simp

end

end Literal

end ApiTypes
