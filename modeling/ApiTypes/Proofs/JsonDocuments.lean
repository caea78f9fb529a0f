import ApiTypes.Proofs.DistinctKeys
import ApiTypes.Proofs.JsonScalars
import ApiTypes.Specification
import Mathlib.Data.Bool.AllAny

/-!
# Documents in JSON

Every spelling of data in JSON loads as this data, so that octets in UTF-8 give the
specification that the data gives.

The readers are followed token by token: each takes the tokens of what it gives and
leaves a spelling of the tokens behind them.
-/

namespace ApiTypes.Json

open Text (ofChars)

variable {token : Token} {tokens : List Token} {chars : List Char} {fuel : Nat}

/-! ## Space and tokens -/

theorem isSpace_of_isSpacing {spacing : List Char} (isSpacing : IsSpacing spacing) :
    ∀ point ∈ ofChars spacing, isSpace point = true := by
  have each : ∀ char ∈ [' ', '\t', '\n', '\r'], isSpace (.scalar char) = true :=
    List.all_iff_forall_prop.mp (by decide)
  intro point member
  obtain ⟨char, charMember, rfl⟩ := List.mem_map.mp member
  exact each char (isSpacing char charMember)

theorem isSpace_digit {char : Char} (isDigit : char.isDigit = true) :
    isSpace (.scalar char) = false := by
  have noDigit : ∀ char ∈ [' ', '\t', '\n', '\r'], char.isDigit = false :=
    List.all_iff_forall_prop.mp (by decide)
  cases space : isSpace (.scalar char) with
  | false => rfl
  | true =>
      simp only [isSpace, Bool.or_eq_true, decide_eq_true_eq, CodePoint.scalar.injEq] at space
      rw [noDigit char (by simpa [or_assoc] using space)] at isDigit
      cases isDigit

/-- A token begins with no space, and a closing bracket begins no other token than itself. -/
theorem Token.Spelled.opens (spelled : token.Spelled chars) :
    ∃ first others, chars = first :: others ∧ isSpace (.scalar first) = false ∧
      (first = ']' → token = .structural ']') := by
  cases spelled with
  | @structural char listed =>
      have noSpace : ∀ char ∈ ['[', ']', '\x7b', '\x7d', ':', ','],
          isSpace (.scalar char) = false := List.all_iff_forall_prop.mp (by decide)
      exact ⟨char, [], rfl, noSpace char listed, fun closing => by rw [closing]⟩
  | word listed =>
      simp only [List.mem_cons, List.not_mem_nil, or_false] at listed
      rcases listed with rfl | rfl | rfl <;>
        exact ⟨_, _, rfl, by decide, fun closing => absurd closing (by decide)⟩
  | natural number =>
      obtain ⟨first, others, digits⟩ := List.exists_cons_of_ne_nil
        (Nat.toDigits_ne_nil (b := 10) (n := number))
      have isDigit : first.isDigit = true := isDigits_toDigits number first (by simp [digits])
      refine ⟨first, others, digits, isSpace_digit isDigit, ?_⟩
      rintro rfl
      cases isDigit
  | negative number => exact ⟨'-', _, rfl, by decide, fun closing => absurd closing (by decide)⟩
  | string spells => exact ⟨'"', _, rfl, by decide, fun closing => absurd closing (by decide)⟩

/-- A text without the space before its first token. -/
theorem skipSpace_of_spells (spells : Spells (token :: tokens) chars) :
    ∃ spelling others, token.Spelled spelling ∧ Spells tokens others ∧
      skipSpace (ofChars chars) = ofChars spelling ++ ofChars others ∧
        others.length < chars.length := by
  cases spells with
  | @cons _ _ spacing spelling others isSpacing spelled spells =>
      obtain ⟨first, inner, rfl, noSpace, -⟩ := spelled.opens
      have shorter : others.length < (spacing ++ first :: inner ++ others).length := by
        simp only [List.length_append, List.length_cons]
        omega
      refine ⟨_, others, spelled, spells, ?_, shorter⟩
      rw [skipSpace, ofChars, List.map_append, List.map_append, List.append_assoc]
      refine Text.dropWhile_append (isSpace_of_isSpacing isSpacing) ?_
      rintro point ⟨⟩
      exact noSpace

theorem skipSpace_structural {char : Char} (spells : Spells (.structural char :: tokens) chars) :
    ∃ others, skipSpace (ofChars chars) = .scalar char :: ofChars others ∧
      Spells tokens others ∧ others.length < chars.length := by
  obtain ⟨spelling, others, spelled, spells, skips, shorter⟩ := skipSpace_of_spells spells
  cases spelled
  exact ⟨others, skips, spells, shorter⟩

/-- Tokens that may stand behind a value: none, or first one that separates or closes. -/
def EndsValue (tokens : List Token) : Prop :=
  ∀ token ∈ tokens.head?, ∃ char ∈ [']', '\x7d', ','], token = .structural char

theorem endsNumber_of_spells (ends : EndsValue tokens) (spells : Spells tokens chars) :
    EndsNumber (ofChars chars) := by
  have each : ∀ char ∈ [' ', '\t', '\n', '\r', ']', '\x7d', ','],
      (CodePoint.scalar char).isDigit = false ∧ CodePoint.scalar char ≠ .scalar '.' ∧
        CodePoint.scalar char ≠ .scalar 'e' ∧ CodePoint.scalar char ≠ .scalar 'E' :=
    List.all_iff_forall_prop.mp (by decide)
  intro point isHead
  cases spells with
  | nil isSpacing =>
      cases chars with
      | nil => cases isHead
      | cons first others =>
          cases isHead
          exact each first (List.mem_append_left _ (isSpacing first (by simp)))
  | @cons token _ spacing spelling others isSpacing spelled _ =>
      cases spacing with
      | nil =>
          obtain ⟨char, closing, rfl⟩ := ends token rfl
          cases spelled
          cases isHead
          exact each char (List.mem_append_right [' ', '\t', '\n', '\r'] closing)
      | cons first _ =>
          cases isHead
          exact each first (List.mem_append_left _ (isSpacing first (by simp)))

/-! ## Scalars -/

/-- A reader that takes from the text of characters what it gives and leaves a spelling of the
tokens behind it. -/
def Gives (outcome : Except Stop (α × Text)) (result : α) (tokens : List Token)
    (chars : List Char) : Prop :=
  ∃ others, outcome = .ok (result, ofChars others) ∧ Spells tokens others ∧
    others.length < chars.length

theorem value_word (letters : String) (listed : letters ∈ ["null", "true", "false"])
    (rest : Text) :
    value (fuel + 1) (ofChars letters.toList ++ rest) =
      .ok (if letters = "null" then .null else .boolean (letters = "true"), rest) := by
  simp only [List.mem_cons, List.not_mem_nil, or_false] at listed
  rcases listed with rfl | rfl | rfl <;> rfl

theorem value_string {content inner : List Char} (spells : SpellsContent content inner)
    (rest : Text) :
    value (fuel + 1) (ofChars ('"' :: inner ++ ['"']) ++ rest) =
      .ok (.text (ofChars content), rest) := by
  have whole : ofChars ('"' :: inner ++ ['"']) ++ rest =
      .scalar '"' :: (ofChars inner ++ .scalar '"' :: rest) := by
    simp [ofChars]
  rw [whole, value, stringFrom_of_spellsContent spells]
  rfl

/-- A sign and a digit begin no word. -/
theorem word?_numeral (negative : Bool) {first : Char} (isDigit : first.isDigit = true)
    (others : Text) :
    word? ((if negative then "-" else "") ++ .scalar first :: others) = none := by
  have noDigits : ∀ letter ∈ ['n', 't', 'f', 'N', 'I', '-'], letter.isDigit = false :=
    List.all_iff_forall_prop.mp (by decide)
  have noLetter : ∀ letter ∈ ['n', 't', 'f', 'N', 'I', '-'], letter ≠ first := by
    rintro letter listed rfl
    rw [noDigits letter listed] at isDigit
    cases isDigit
  simp only [List.forall_mem_cons, List.not_mem_nil, false_imp_iff, implies_true,
    and_true] at noLetter
  cases negative <;> simp [word?, words, Text.after?, Text.ofString, noLetter]

theorem value_number {text : Text}
    (noOpening : ∀ char ∈ ['"', '\x7b', '['], text.head? ≠ some (.scalar char))
    (noWord : word? text = none) : value (fuel + 1) text = number text := by
  unfold value
  split
  · exact absurd rfl (noOpening '"' (by decide))
  · exact absurd rfl (noOpening '\x7b' (by decide))
  · exact absurd rfl (noOpening '[' (by decide))
  · rw [noWord]

theorem value_integer (negative : Bool) {magnitude : Nat}
    (writable : magnitude < Shape.unwritableMagnitude) {rest : Text} (ends : EndsNumber rest) :
    value (fuel + 1) ((if negative then "-" else "") ++ (Text.ofNat magnitude ++ rest)) =
      .ok (.integer (Double.signed negative magnitude), rest) := by
  obtain ⟨first, others, opens, isDigit⟩ := Double.ofNat_opens_with_digit magnitude
  have noWord := word?_numeral negative isDigit (others ++ rest)
  rw [← number_ofNat negative writable ends]
  rw [opens, List.cons_append]
  refine value_number ?_ noWord
  have noSignOrDigit : ∀ char ∈ ['"', '\x7b', '['], char ≠ '-' ∧ char.isDigit = false :=
    List.all_iff_forall_prop.mp (by decide)
  intro char listed isHead
  cases negative with
  | true =>
      cases isHead
      exact absurd rfl (noSignOrDigit '-' listed).1
  | false =>
      cases isHead
      rw [(noSignOrDigit first listed).2] at isDigit
      cases isDigit

/-! ## Collections -/

theorem value_list {rest : Text} (goesOn : (skipSpace rest).head? ≠ some (.scalar ']')) :
    value (fuel + 1) (.scalar '[' :: rest) = (do
      let (items, rest) ← elements fuel (skipSpace rest)
      return (.list items, rest)) := by
  rw [value]
  split
  next closes =>
    rw [closes] at goesOn
    exact absurd rfl goesOn
  · rfl

theorem value_mapping {rest : Text} (goesOn : (skipSpace rest).head? ≠ some (.scalar '\x7d')) :
    value (fuel + 1) (.scalar '\x7b' :: rest) = (do
      let (entries, rest) ← members fuel (skipSpace rest)
      return (.mapping (Data.ofEntries entries), rest)) := by
  rw [value]
  split
  next closes =>
    rw [closes] at goesOn
    exact absurd rfl goesOn
  · rfl

/-- A value begins with a token that does not close a list. -/
theorem head?_skipSpace_of_value {data : Data} (isJson : data.isJson = true)
    (spells : Spells (data.tokens ++ tokens) chars) :
    (skipSpace (ofChars chars)).head? ≠ some (.scalar ']') := by
  have opens : ∃ first others, data.tokens ++ tokens = first :: others ∧
      first ≠ .structural ']' := by
    cases data with
    | null | boolean | integer | text | list | mapping => exact ⟨_, _, rfl, nofun⟩
    | _ => cases isJson
  obtain ⟨first, others, opens, noEnd⟩ := opens
  rw [opens] at spells
  obtain ⟨spelling, behind, spelled, -, skips, -⟩ := skipSpace_of_spells spells
  obtain ⟨char, inner, rfl, -, closing⟩ := spelled.opens
  rw [skips]
  rintro ⟨⟩
  exact noEnd (closing rfl)

theorem head?_skipSpace_of_string {name : Text} (spells : Spells (.string name :: tokens) chars) :
    (skipSpace (ofChars chars)).head? = some (.scalar '"') := by
  obtain ⟨spelling, others, spelled, -, skips, -⟩ := skipSpace_of_spells spells
  cases spelled with
  | string spelled =>
      rw [skips]
      rfl

theorem endsValue_laterElements (items : List Data) (tokens : List Token) :
    EndsValue (Data.laterElementTokens items ++ tokens) := by
  rintro token isHead
  cases items with
  | nil =>
      cases isHead
      exact ⟨']', by decide, rfl⟩
  | cons item items =>
      cases isHead
      exact ⟨',', by decide, rfl⟩

theorem endsValue_laterMembers (entries : List (Data × Data)) (tokens : List Token) :
    EndsValue (Data.laterMemberTokens entries ++ tokens) := by
  rintro token isHead
  cases entries with
  | nil =>
      cases isHead
      exact ⟨'\x7d', by decide, rfl⟩
  | cons entry entries =>
      cases isHead
      exact ⟨',', by decide, rfl⟩

/-- The name of a member is read together with the colon behind it. -/
theorem members_named {name : Text}
    (spells : Spells (.string name :: .structural ':' :: tokens) chars) :
    ∃ others, members (fuel + 1) (skipSpace (ofChars chars)) = (do
      let (content, rest) ← value fuel (skipSpace (ofChars others))
      match skipSpace rest with
      | .scalar '\x7d' :: rest => return ([(.text name, content)], rest)
      | .scalar ',' :: rest => do
          let (entries, rest) ← members fuel (skipSpace rest)
          return ((.text name, content) :: entries, rest)
      | rest => .error (.problem .commaExpected rest)) ∧
      Spells tokens others ∧ others.length < chars.length := by
  obtain ⟨spelling, behind, spelled, spells, skips, shorter⟩ := skipSpace_of_spells spells
  obtain ⟨others, colon, spells, shorterYet⟩ := skipSpace_structural spells
  refine ⟨others, ?_, spells, Nat.lt_trans shorterYet shorter⟩
  cases spelled with
  | @string content inner spelled =>
      have whole : ofChars ('"' :: inner ++ ['"']) ++ ofChars behind =
          .scalar '"' :: (ofChars inner ++ .scalar '"' :: ofChars behind) := by
        simp [ofChars]
      rw [skips, whole, members, stringFrom_of_spellsContent spelled]
      dsimp only [bind, Except.bind]
      rw [colon]
      rfl

mutual

/-- The value at the beginning of a spelling is the data whose tokens come first. -/
theorem value_of_spells (data : Data) (isJson : data.isJson = true)
    (distinct : data.hasDistinctKeys = true) (fuel : Nat) {tokens : List Token} {chars : List Char}
    (ends : EndsValue tokens) (enough : 2 * chars.length < fuel)
    (spells : Spells (data.tokens ++ tokens) chars) :
    Gives (value fuel (skipSpace (ofChars chars))) data tokens chars := by
  obtain ⟨fuel, rfl⟩ := Nat.exists_eq_add_one_of_ne_zero (Nat.ne_zero_of_lt enough)
  cases data with
  | null =>
      obtain ⟨_, others, spelled, left, skips, shorter⟩ := skipSpace_of_spells spells
      cases spelled with
      | word listed => exact ⟨others, by rw [skips, value_word _ listed]; rfl, left, shorter⟩
  | boolean truth =>
      obtain ⟨_, others, spelled, left, skips, shorter⟩ := skipSpace_of_spells spells
      cases spelled with
      | word listed =>
          exact ⟨others, by rw [skips, value_word _ listed]; cases truth <;> rfl, left, shorter⟩
  | integer number =>
      obtain ⟨_, others, spelled, left, skips, shorter⟩ := skipSpace_of_spells spells
      have endsNumber := endsNumber_of_spells ends left
      simp only [Data.isJson, decide_eq_true_eq] at isJson
      cases spelled with
      | natural number =>
          exact ⟨others, by rw [skips]; exact value_integer false isJson endsNumber, left, shorter⟩
      | negative number =>
          rw [Int.natAbs_neg] at isJson
          exact ⟨others, by rw [skips]; exact value_integer true isJson endsNumber, left, shorter⟩
  | text content =>
      obtain ⟨_, others, spelled, left, skips, shorter⟩ := skipSpace_of_spells spells
      cases spelled with
      | string spelled => exact ⟨others, by rw [skips, value_string spelled], left, shorter⟩
  | list items =>
      obtain ⟨inner, skips, spellsInner, shorter⟩ := skipSpace_structural spells
      cases items with
      | nil =>
          obtain ⟨others, closes, left, shorterYet⟩ := skipSpace_structural spellsInner
          refine ⟨others, ?_, left, Nat.lt_trans shorterYet shorter⟩
          rw [skips, value, closes]
          rfl
      | cons item items =>
          obtain ⟨others, reads, left, shorterYet⟩ := elements_of_spells (item :: items)
            (List.cons_ne_nil _ _) isJson distinct fuel (by omega) spellsInner
          refine ⟨others, ?_, left, Nat.lt_trans shorterYet shorter⟩
          rw [skips, value_list, reads]
          · rfl
          · simp only [Data.isJson, Data.areJson, Bool.and_eq_true] at isJson
            have spellsItem : Spells
                (item.tokens ++ (Data.laterElementTokens items ++ tokens)) inner := by
              simpa [Data.elementTokens] using spellsInner
            exact head?_skipSpace_of_value isJson.1 spellsItem
  | mapping entries =>
      obtain ⟨inner, skips, spellsInner, shorter⟩ := skipSpace_structural spells
      simp only [Data.isJson] at isJson
      simp only [Data.hasDistinctKeys, Bool.and_eq_true, decide_eq_true_eq] at distinct
      cases entries with
      | nil =>
          obtain ⟨others, closes, left, shorterYet⟩ := skipSpace_structural spellsInner
          refine ⟨others, ?_, left, Nat.lt_trans shorterYet shorter⟩
          rw [skips, value, closes]
          rfl
      | cons entry entries =>
          obtain ⟨others, reads, left, shorterYet⟩ := members_of_spells (entry :: entries)
            (List.cons_ne_nil _ _) isJson distinct.2 fuel (by omega) spellsInner
          refine ⟨others, ?_, left, Nat.lt_trans shorterYet shorter⟩
          rw [skips, value_mapping, reads]
          · show Except.ok (Data.mapping (Data.ofEntries (entry :: entries)), ofChars others) = _
            rw [Data.ofEntries_of_hasDistinctKeys distinct.1]
          · obtain ⟨key, content⟩ := entry
            obtain ⟨⟨name, rfl⟩, -⟩ := Data.isJson_of_areJsonMembers_cons isJson
            rw [head?_skipSpace_of_string spellsInner]
            nofun
  | _ => cases isJson

/-- List counterpart of `value_of_spells`. -/
theorem elements_of_spells (items : List Data) (present : items ≠ [])
    (areJson : Data.areJson items = true) (distinct : Data.haveDistinctKeys items = true)
    (fuel : Nat) {tokens : List Token} {chars : List Char} (enough : 2 * chars.length + 1 < fuel)
    (spells : Spells (Data.elementTokens items ++ tokens) chars) :
    Gives (elements fuel (skipSpace (ofChars chars))) items tokens chars := by
  obtain ⟨fuel, rfl⟩ := Nat.exists_eq_add_one_of_ne_zero (Nat.ne_zero_of_lt enough)
  cases items with
  | nil => exact absurd rfl present
  | cons item items =>
      simp only [Data.areJson, Data.haveDistinctKeys, Bool.and_eq_true] at areJson distinct
      rw [Data.elementTokens, List.append_assoc] at spells
      obtain ⟨behind, reads, spellsBehind, shorter⟩ := value_of_spells item areJson.1 distinct.1
        fuel (endsValue_laterElements items tokens) (Nat.lt_of_succ_lt_succ enough) spells
      rw [elements, reads]
      cases items with
      | nil =>
          obtain ⟨others, closes, left, shorterYet⟩ := skipSpace_structural spellsBehind
          refine ⟨others, ?_, left, Nat.lt_trans shorterYet shorter⟩
          show (match skipSpace (ofChars behind) with
            | .scalar ']' :: rest => _ | .scalar ',' :: rest => _ | rest => _) = _
          rw [closes]
          rfl
      | cons next items =>
          obtain ⟨inner, separates, spellsInner, shorterYet⟩ := skipSpace_structural spellsBehind
          obtain ⟨others, readsOthers, left, shorterStill⟩ := elements_of_spells (next :: items)
            (List.cons_ne_nil _ _) areJson.2 distinct.2 fuel (by omega) spellsInner
          refine ⟨others, ?_, left, by omega⟩
          show (match skipSpace (ofChars behind) with
            | .scalar ']' :: rest => _ | .scalar ',' :: rest => _ | rest => _) = _
          rw [separates]
          show (elements fuel (skipSpace (ofChars inner)) >>= _) = _
          rw [readsOthers]
          rfl

/-- Counterpart of `value_of_spells` for the entries of a mapping. -/
theorem members_of_spells (entries : List (Data × Data)) (present : entries ≠ [])
    (areJson : Data.areJsonMembers entries = true)
    (distinct : Data.valuesHaveDistinctKeys entries = true)
    (fuel : Nat) {tokens : List Token} {chars : List Char} (enough : 2 * chars.length < fuel)
    (spells : Spells (Data.memberTokens entries ++ tokens) chars) :
    Gives (members fuel (skipSpace (ofChars chars))) entries tokens chars := by
  obtain ⟨fuel, rfl⟩ := Nat.exists_eq_add_one_of_ne_zero (Nat.ne_zero_of_lt enough)
  cases entries with
  | nil => exact absurd rfl present
  | cons entry entries =>
      obtain ⟨key, content⟩ := entry
      obtain ⟨⟨name, rfl⟩, -, isJson, areJson⟩ := Data.isJson_of_areJsonMembers_cons areJson
      simp only [Data.valuesHaveDistinctKeys, Bool.and_eq_true] at distinct
      simp only [Data.memberTokens, Data.tokens, List.append_assoc, List.cons_append,
        List.nil_append] at spells
      obtain ⟨inner, readsName, spellsInner, shorter⟩ := members_named spells
      obtain ⟨behind, reads, spellsBehind, shorterYet⟩ := value_of_spells content isJson distinct.1
        fuel (endsValue_laterMembers entries tokens) (by omega) spellsInner
      rw [readsName, reads]
      cases entries with
      | nil =>
          obtain ⟨others, closes, left, shorterStill⟩ := skipSpace_structural spellsBehind
          refine ⟨others, ?_, left, by omega⟩
          show (match skipSpace (ofChars behind) with
            | .scalar '\x7d' :: rest => _ | .scalar ',' :: rest => _ | rest => _) = _
          rw [closes]
          rfl
      | cons next entries =>
          obtain ⟨more, separates, spellsMore, shorterStill⟩ := skipSpace_structural spellsBehind
          obtain ⟨others, readsOthers, left, least⟩ := members_of_spells (next :: entries)
            (List.cons_ne_nil _ _) areJson distinct.2 fuel (by omega) spellsMore
          refine ⟨others, ?_, left, by omega⟩
          show (match skipSpace (ofChars behind) with
            | .scalar '\x7d' :: rest => _ | .scalar ',' :: rest => _ | rest => _) = _
          rw [separates]
          show (members fuel (skipSpace (ofChars more)) >>= _) = _
          rw [readsOthers]
          rfl

end

/-! ## Whole texts -/

theorem skipSpace_of_spells_nil (spells : Spells [] chars) : skipSpace (ofChars chars) = [] := by
  cases spells with
  | nil isSpacing =>
      rw [skipSpace, ← List.append_nil (ofChars chars)]
      exact Text.dropWhile_append (isSpace_of_isSpacing isSpacing) (by simp)

/-- Every spelling of data loads as the data. -/
theorem load_of_spells {data : Data} (isJson : data.isJson = true)
    (distinct : data.hasDistinctKeys = true) (spells : Spells data.tokens chars) :
    load (ofChars chars) = .ok data := by
  have length : (ofChars chars).length = chars.length := List.length_map _
  rw [← List.append_nil data.tokens] at spells
  obtain ⟨others, reads, left, -⟩ := value_of_spells data isJson distinct
    (2 * (ofChars chars).length + 1) (by rintro _ ⟨⟩) (by omega) spells
  have whole : document (ofChars chars) = .ok data := by
    rw [document, reads]
    dsimp only [bind, Except.bind]
    rw [skipSpace_of_spells_nil left]
    rfl
  rw [load, whole]

end ApiTypes.Json

namespace ApiTypes

open Json (Spells)
open Text (ofChars)

/-- A text whose first token is a brace is loaded as JSON. -/
theorem loadText_of_spells (order : Yaml.SetOrder) {tokens : List Json.Token} {chars : List Char}
    (spells : Spells (.structural '\x7b' :: tokens) chars) :
    loadText order (ofChars chars) = (Json.load (ofChars chars)).mapError .json := by
  have blanks : ∀ char ∈ [' ', '\t', '\n', '\r'], (CodePoint.scalar char).isBlank = true :=
    List.all_iff_forall_prop.mp (by decide)
  cases spells with
  | @cons _ _ spacing _ others isSpacing spelled _ =>
      cases spelled
      have isBlank : ∀ point ∈ ofChars spacing, point.isBlank = true := by
        intro point member
        obtain ⟨char, charMember, rfl⟩ := List.mem_map.mp member
        exact blanks char (isSpacing char charMember)
      have begins : (ofChars (spacing ++ ['\x7b'] ++ others)).dropWhile CodePoint.isBlank =
          .scalar '\x7b' :: ofChars others := by
        simp only [ofChars, List.map_append, List.append_assoc]
        refine Text.dropWhile_append isBlank ?_
        rintro point ⟨⟩
        decide
      rw [loadText, begins, List.head?_cons, if_pos rfl]

/-- The text of a mapping opens with an ASCII character. -/
theorem exists_ascii_of_spells {tokens : List Json.Token} {chars : List Char}
    (spells : Spells (.structural '\x7b' :: tokens) chars) :
    ∃ first others, chars = first :: others ∧ first.toNat < 0x80 := by
  have ascii : ∀ char ∈ [' ', '\t', '\n', '\r'], char.toNat < 0x80 :=
    List.all_iff_forall_prop.mp (by decide)
  cases spells with
  | @cons _ _ spacing _ others isSpacing spelled _ =>
      cases spelled
      cases spacing with
      | nil => exact ⟨'\x7b', others, rfl, by decide⟩
      | cons first _ => exact ⟨first, _, rfl, ascii first (isSpacing first (by simp))⟩

namespace Specification

/-- A mapping of JSON has spellings, and octets that encode any of them, behind a byte order mark
or without one, are read as the mapping is. -/
theorem every_json_spelling_is_read_as_data (order : Yaml.SetOrder) (entries : List (Data × Data))
    (isJson : (Data.mapping entries).isJson = true)
    (distinct : (Data.mapping entries).hasDistinctKeys = true) :
    (∃ chars, Spells (Data.mapping entries).tokens chars) ∧
      ∀ chars, Spells (Data.mapping entries).tokens chars →
        ∃ bytes, (ofChars chars).encode = .ok bytes ∧
          loadText order (ofChars chars) = .ok (.mapping entries) ∧
          ofBytes order bytes = ofData (.mapping entries) ∧
          ofBytes order (0xEF :: 0xBB :: 0xBF :: bytes) = ofData (.mapping entries) := by
  refine ⟨Data.exists_spells isJson, ?_⟩
  intro chars spells
  have loads : loadText order (ofChars chars) = .ok (.mapping entries) := by
    rw [loadText_of_spells order spells, Json.load_of_spells isJson distinct spells]
    rfl
  obtain ⟨first, others, rfl, isAscii⟩ := exists_ascii_of_spells spells
  obtain ⟨unmarked, marked⟩ := Text.decode_of_encode_eq_ok isAscii
    (Text.encode_ofChars (first :: others))
  refine ⟨_, Text.encode_ofChars _, loads, ?_, ?_⟩
  · simp only [ofBytes, unmarked, ofText, loads]
  · simp only [ofBytes, marked, ofText, loads]

/-- A mapping from a character beyond sixteen bits to zero. -/
def pairedEntries : List (Data × Data) :=
  [(.text (ofChars [Char.ofNat 0x1F600]), .integer 0)]

/-- The mapping with its character as two escapes, with a signed zero and with space around
tokens. -/
def pairedChars : List Char :=
  "  \x7b\"\\ud83d\\uDE00\" :\t-0\r\n\x7d".toList

theorem spells_pairedChars : Spells (Data.mapping pairedEntries).tokens pairedChars := by
  have high : Json.SpellsUnit 0xD83D "d83d".toList :=
    .digits (.small (by decide)) (.small (by decide)) (.small (by decide)) (.small (by decide))
  have low : Json.SpellsUnit 0xDE00 "DE00".toList :=
    .digits (.capital (by decide)) (.capital (by decide)) (.small (by decide)) (.small (by decide))
  have highHalf : 0xD800 + ((Char.ofNat 0x1F600).toNat - 0x10000) / 0x400 = 0xD83D := by decide
  have lowHalf : 0xDC00 + ((Char.ofNat 0x1F600).toNat - 0x10000) % 0x400 = 0xDE00 := by decide
  rw [← highHalf] at high
  rw [← lowHalf] at low
  have content := Json.SpellsContent.cons (.pair (by decide) high low) .nil
  have spacing {chars : List Char} (listed : chars.all fun char => " \t\n\r".toList.contains char) :
      Json.IsSpacing chars := by
    intro char member
    simpa using List.all_eq_true.mp listed char member
  exact @Spells.cons _ _ [' ', ' '] _ _ (spacing (by decide)) (.structural (by decide)) <|
    @Spells.cons _ _ [] _ _ (spacing rfl) (.string content) <|
    @Spells.cons _ _ [' '] _ _ (spacing (by decide)) (.structural (by decide)) <|
    @Spells.cons _ _ ['\t'] _ _ (spacing (by decide)) (.negative 0) <|
    @Spells.cons _ _ ['\r', '\n'] _ _ (spacing (by decide)) (.structural (by decide)) <|
    .nil (spacing rfl)

theorem pairedChars_are_read_as_data :
    ∃ bytes, (ofChars pairedChars).encode = .ok bytes ∧
      loadText .given (ofChars pairedChars) = .ok (.mapping pairedEntries) ∧
      ofBytes .given bytes = ofData (.mapping pairedEntries) ∧
      ofBytes .given (0xEF :: 0xBB :: 0xBF :: bytes) = ofData (.mapping pairedEntries) :=
  (every_json_spelling_is_read_as_data .given pairedEntries (by decide +kernel)
    (by decide +kernel)).2 pairedChars spells_pairedChars

end Specification

end ApiTypes
