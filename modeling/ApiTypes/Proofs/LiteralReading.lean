import ApiTypes.Proofs.LiteralToken
import ApiTypes.Proofs.NumeralReading
import ApiTypes.Proofs.ReadingSteps

/-!
# Reading literals back

A reader for the text of literals.  Quoted texts end at their mark, lists and maps at
their bracket, and the words in between are constants or numerals.  The reader gives
back every literal, up to the sign of zero, together with the text behind it.
-/

namespace ApiTypes

namespace Text

theorem join_cons (separator part : Text) {parts : List Text} (present : parts ≠ []) :
    join separator (part :: parts) = part ++ (separator ++ join separator parts) := by
  obtain ⟨next, parts, rfl⟩ := List.exists_cons_of_ne_nil present
  rw [join, List.append_assoc]
  simp

theorem length_lt_behind (part : Text) {separator : Text} (present : separator ≠ [])
    (rest : Text) : rest.length < (part ++ (separator ++ rest)).length := by
  have shorter := length_lt_append present rest
  rw [List.length_append]
  omega

end Text

namespace Literal

/-! ## The reader -/

/-- The literal that a word stands for. -/
def ofWord? (word : Text) : Option Literal :=
  if word = "null" then some .null
  else if word = "true" then some (.boolean true)
  else if word = "false" then some (.boolean false)
  else (Double.ofText? word).map .number

mutual

/-- A literal at the beginning of a text, and the text behind it. -/
def read? (text : Text) : Option (Literal × Text) :=
  match text with
  | [] => none
  | first :: inner =>
      if first = .scalar '\'' then
        (Reading.quoted? first inner).map fun (content, rest) => (.text content, rest)
      else if first = .scalar '[' then
        match Text.after? inner "]" with
        | some rest => some (.list [], rest)
        | none => (items? inner).map fun (items, rest) => (.list items, rest)
      else if first = .scalar '\x7b' then
        match Text.after? inner "\x7d" with
        | some rest => some (.map [], rest)
        | none => (entries? inner).map fun (entries, rest) => (.map entries, rest)
      else
        (ofWord? ((first :: inner).takeWhile Reading.isWordPart)).map fun value =>
          (value, (first :: inner).dropWhile Reading.isWordPart)
termination_by (text.length, 0)

/-- The items of a list, one or more, up to the closing bracket. -/
def items? (text : Text) : Option (List Literal × Text) :=
  match read? text with
  | none => none
  | some (item, rest) =>
      match rest.after? "," with
      | none => (rest.after? "]").map fun rest => ([item], rest)
      | some next =>
          if next.length < text.length then
            (items? next).map fun (items, rest) => (item :: items, rest)
          else none
termination_by (text.length, 1)

/-- One entry of a map. -/
def pair? (text : Text) : Option ((Literal × Literal) × Text) :=
  match read? text with
  | none => none
  | some (key, rest) =>
      match rest.after? " : " with
      | none => none
      | some next =>
          if next.length < text.length then
            (read? next).map fun (value, rest) => ((key, value), rest)
          else none
termination_by (text.length, 1)

/-- The entries of a map, one or more, up to the closing brace. -/
def entries? (text : Text) : Option (List (Literal × Literal) × Text) :=
  match pair? text with
  | none => none
  | some (entry, rest) =>
      match rest.after? "," with
      | none => (rest.after? "\x7d").map fun rest => ([entry], rest)
      | some next =>
          if next.length < text.length then
            (entries? next).map fun (entries, rest) => (entry :: entries, rest)
          else none
termination_by (text.length, 2)

end

/-! ## What is read -/

mutual

/-- A literal without the signs of its zeros. -/
def withoutZeroSigns : Literal → Literal
  | .null => .null
  | .text content => .text content
  | .boolean value => .boolean value
  | .number value => .number value.withoutZeroSign
  | .list items => .list (itemsWithoutZeroSigns items)
  | .map entries => .map (entriesWithoutZeroSigns entries)

def itemsWithoutZeroSigns : List Literal → List Literal
  | [] => []
  | item :: items => withoutZeroSigns item :: itemsWithoutZeroSigns items

def entriesWithoutZeroSigns : List (Literal × Literal) → List (Literal × Literal)
  | [] => []
  | (key, value) :: entries =>
      (withoutZeroSigns key, withoutZeroSigns value) :: entriesWithoutZeroSigns entries

end

theorem numeral_ne (number : Double) {word : Text} (noNumeral : Double.ofText? word = none) :
    numeral number ≠ word := by
  have read := Double.ofText?_numeral number
  intro same
  rw [same, noNumeral] at read
  cases read

theorem numeral_ne_constant (number : Double) :
    numeral number ≠ "null" ∧ numeral number ≠ "true" ∧ numeral number ≠ "false" :=
  ⟨numeral_ne number rfl, numeral_ne number rfl, numeral_ne number rfl⟩

theorem ofWord?_numeral (number : Double) :
    ofWord? (numeral number) = some (.number number.withoutZeroSign) := by
  obtain ⟨notNull, notTrue, notFalse⟩ := numeral_ne_constant number
  rw [ofWord?, if_neg notNull, if_neg notTrue, if_neg notFalse, Double.ofText?_numeral,
    Option.map_some]

theorem read?_word {word rest : Text} {value : Literal} (isWord : Reading.IsWord word)
    (ends : Reading.EndsWord rest) (stands : ofWord? word = some value) :
    read? (word ++ rest) = some (value, rest) := by
  have whole := Text.takeWhile_append isWord.2 ends
  have behind := Text.dropWhile_append isWord.2 ends
  obtain ⟨first, others, rfl, -, notMark, notBracket, notBrace⟩ := isWord.exists_cons
  rw [List.cons_append] at whole behind
  rw [List.cons_append, read?, if_neg notMark, if_neg notBracket, if_neg notBrace, whole, behind,
    stands, Option.map_some]

theorem read?_quote (content rest : Text) :
    read? (quote content ++ rest) = some (.text content, rest) := by
  have opened : read? (quote content ++ rest) =
      (Reading.quoted? (.scalar '\'') (escape (.scalar '\'') content ++ .scalar '\'' :: rest)).map
        fun (content, rest) => (.text content, rest) := by
    simp [quote, read?]
  rw [opened, Reading.quoted?_escape _ (by decide), Option.map_some]

/-! ## Steps of the reader -/

theorem read?_closing {closing : CodePoint}
    (closes : closing = .scalar ']' ∨ closing = .scalar '\x7d') (rest : Text) :
    read? (closing :: rest) = none := by
  have noWord : ofWord? [] = none := rfl
  rcases closes with rfl | rfl
  · have noPart : Reading.isWordPart (.scalar ']') = false := by decide
    simp [read?, noPart, noWord]
  · have noPart : Reading.isWordPart (.scalar '\x7d') = false := by decide
    simp [read?, noPart, noWord]

theorem items?_last {text rest : Text} {item : Literal}
    (read : read? text = some (item, "]" ++ rest)) : items? text = some ([item], rest) := by
  have noComma : Text.after? ("]" ++ rest) "," = none :=
    Text.after?_eq_none (.scalar ',') rfl (by simp [Text.ofString])
  rw [items?, read]
  simp only [noComma, Text.after?_append, Option.map_some]

theorem items?_more {text next rest : Text} {item : Literal} {items : List Literal}
    (read : read? text = some (item, "," ++ next)) (shorter : next.length < text.length)
    (readMore : items? next = some (items, rest)) : items? text = some (item :: items, rest) := by
  rw [items?, read]
  simp only [Text.after?_append, shorter, if_true, readMore, Option.map_some]

theorem pair?_of_read? {text next rest : Text} {key value : Literal}
    (readKey : read? text = some (key, " : " ++ next)) (shorter : next.length < text.length)
    (readValue : read? next = some (value, rest)) : pair? text = some ((key, value), rest) := by
  rw [pair?, readKey]
  simp only [Text.after?_append, shorter, if_true, readValue, Option.map_some]

theorem entries?_last {text rest : Text} {entry : Literal × Literal}
    (read : pair? text = some (entry, "\x7d" ++ rest)) :
    entries? text = some ([entry], rest) := by
  have noComma : Text.after? ("\x7d" ++ rest) "," = none :=
    Text.after?_eq_none (.scalar ',') rfl (by simp [Text.ofString])
  rw [entries?, read]
  simp only [noComma, Text.after?_append, Option.map_some]

theorem entries?_more {text next rest : Text} {entry : Literal × Literal}
    {entries : List (Literal × Literal)} (read : pair? text = some (entry, "," ++ next))
    (shorter : next.length < text.length) (readMore : entries? next = some (entries, rest)) :
    entries? text = some (entry :: entries, rest) := by
  rw [entries?, read]
  simp only [Text.after?_append, shorter, if_true, readMore, Option.map_some]

theorem read?_list {inner rest : Text} {items : List Literal}
    (read : items? inner = some (items, rest)) :
    read? ("[" ++ inner) = some (.list items, rest) := by
  have notEmpty : inner.after? "]" = none := by
    refine Text.after?_eq_none (.scalar ']') rfl ?_
    intro closed
    obtain ⟨others, rfl⟩ := List.head?_eq_some_iff.mp closed
    rw [items?, read?_closing (.inl rfl)] at read
    cases read
  rw [show ("[" : Text) ++ inner = .scalar '[' :: inner from rfl, read?]
  simp [notEmpty, read]

theorem read?_map {inner rest : Text} {entries : List (Literal × Literal)}
    (read : entries? inner = some (entries, rest)) :
    read? ("\x7b" ++ inner) = some (.map entries, rest) := by
  have notEmpty : inner.after? "\x7d" = none := by
    refine Text.after?_eq_none (.scalar '\x7d') rfl ?_
    intro closed
    obtain ⟨others, rfl⟩ := List.head?_eq_some_iff.mp closed
    rw [entries?, pair?, read?_closing (.inr rfl)] at read
    cases read
  rw [show ("\x7b" : Text) ++ inner = .scalar '\x7b' :: inner from rfl, read?]
  simp [notEmpty, read]

/-! ## Literals read back -/

theorem endsWord_of_noPart (mark : CodePoint) (noPart : Reading.isWordPart mark = false)
    (rest : Text) : Reading.EndsWord (mark :: rest) := by
  rintro point ⟨⟩
  exact noPart

mutual

/-- The text of a literal is read as the literal, in front of anything that ends a word. -/
theorem read?_render (value : Literal) {rest : Text} (ends : Reading.EndsWord rest) :
    read? (value.render ++ rest) = some (value.withoutZeroSigns, rest) := by
  cases value with
  | null => exact read?_word ⟨by decide, by decide⟩ ends rfl
  | text content => exact read?_quote content rest
  | boolean value => cases value <;> exact read?_word ⟨by decide, by decide⟩ ends rfl
  | number value => exact read?_word (Reading.isWord_numeral value) ends (ofWord?_numeral value)
  | list items =>
      rw [render, withoutZeroSigns, List.append_assoc, List.append_assoc]
      by_cases empty : items = []
      · subst empty
        simp [renderItems, Text.join, Text.ofString, read?, Text.after?, itemsWithoutZeroSigns]
      · exact read?_list (items?_renderItems items empty rest)
  | map entries =>
      rw [render, withoutZeroSigns, List.append_assoc, List.append_assoc]
      by_cases empty : entries = []
      · subst empty
        simp [renderEntries, Text.join, Text.ofString, read?, Text.after?,
          entriesWithoutZeroSigns]
      · exact read?_map (entries?_renderEntries entries empty rest)

/-- Counterpart of `read?_render` for the items of a list. -/
theorem items?_renderItems (items : List Literal) (present : items ≠ []) (rest : Text) :
    items? (Text.join "," (renderItems items) ++ ("]" ++ rest)) =
      some (itemsWithoutZeroSigns items, rest) := by
  cases items with
  | nil => exact absurd rfl present
  | cons item items =>
      by_cases last : items = []
      · subst last
        exact items?_last (read?_render item (endsWord_of_noPart (.scalar ']') (by decide) rest))
      · have others : renderItems items ≠ [] := by
          rw [renderItems_eq_map]
          simpa using last
        have read := read?_render item (endsWord_of_noPart (.scalar ',') (by decide)
          (Text.join "," (renderItems items) ++ ("]" ++ rest)))
        rw [renderItems, Text.join_cons "," _ others, List.append_assoc, List.append_assoc]
        exact items?_more read (Text.length_lt_behind _ (by decide) _)
          (items?_renderItems items last rest)

/-- Counterpart of `read?_render` for the entries of a map. -/
theorem entries?_renderEntries (entries : List (Literal × Literal)) (present : entries ≠ [])
    (rest : Text) :
    entries? (Text.join "," (renderEntries entries) ++ ("\x7d" ++ rest)) =
      some (entriesWithoutZeroSigns entries, rest) := by
  cases entries with
  | nil => exact absurd rfl present
  | cons entry entries =>
      obtain ⟨key, value⟩ := entry
      have readEntry {behind : Text} (ends : Reading.EndsWord behind) :
          pair? (render key ++ (" : " ++ (render value ++ behind))) =
            some ((key.withoutZeroSigns, value.withoutZeroSigns), behind) := by
        have readKey := read?_render key (endsWord_of_noPart (.scalar ' ') (by decide)
          (.scalar ':' :: .scalar ' ' :: (render value ++ behind)))
        exact pair?_of_read? readKey (Text.length_lt_behind _ (by decide) _)
          (read?_render value ends)
      by_cases last : entries = []
      · subst last
        simp only [renderEntries, Text.join, List.append_assoc]
        exact entries?_last (readEntry (endsWord_of_noPart (.scalar '\x7d') (by decide) rest))
      · have others : renderEntries entries ≠ [] := by
          rw [renderEntries_eq_map]
          simpa using last
        have read := readEntry (endsWord_of_noPart (.scalar ',') (by decide)
          (Text.join "," (renderEntries entries) ++ ("\x7d" ++ rest)))
        have comma : ("," : Text) ≠ [] := by decide
        have shorter := Text.length_lt_behind (render key ++ (" : " ++ render value)) comma
          (Text.join "," (renderEntries entries) ++ ("\x7d" ++ rest))
        simp only [List.append_assoc] at shorter
        simp only [renderEntries, Text.join_cons "," _ others, List.append_assoc]
        exact entries?_more read shorter (entries?_renderEntries entries last rest)

end

/-! ## Texts of equal literals -/

mutual

theorem render_withoutZeroSigns (value : Literal) :
    value.withoutZeroSigns.render = value.render := by
  cases value with
  | number value => rw [withoutZeroSigns, render, render, Double.numeral_withoutZeroSign]
  | list items => rw [withoutZeroSigns, render, render, renderItems_withoutZeroSigns]
  | map entries => rw [withoutZeroSigns, render, render, renderEntries_withoutZeroSigns]
  | _ => rfl

theorem renderItems_withoutZeroSigns (items : List Literal) :
    renderItems (itemsWithoutZeroSigns items) = renderItems items := by
  cases items with
  | nil => rfl
  | cons item items =>
      rw [itemsWithoutZeroSigns, renderItems, renderItems, render_withoutZeroSigns item,
        renderItems_withoutZeroSigns items]

theorem renderEntries_withoutZeroSigns (entries : List (Literal × Literal)) :
    renderEntries (entriesWithoutZeroSigns entries) = renderEntries entries := by
  cases entries with
  | nil => rfl
  | cons entry entries =>
      obtain ⟨key, value⟩ := entry
      rw [entriesWithoutZeroSigns, renderEntries, renderEntries, render_withoutZeroSigns key,
        render_withoutZeroSigns value, renderEntries_withoutZeroSigns entries]

end

theorem render_eq_render_iff (first second : Literal) :
    first.render = second.render ↔ first.withoutZeroSigns = second.withoutZeroSigns := by
  constructor
  · intro same
    have ends : Reading.EndsWord [] := by simp [Reading.EndsWord]
    have readFirst := read?_render first ends
    rw [same, read?_render second ends] at readFirst
    exact (Prod.mk.inj (Option.some.inj readFirst)).1.symm
  · intro same
    rw [← render_withoutZeroSigns first, same, render_withoutZeroSigns]

/-! ## Kinds of literals -/

inductive Kind where
  | null
  | text
  | boolean
  | number
  | list
  | map
  deriving DecidableEq

def kind : Literal → Kind
  | .null => .null
  | .text _ => .text
  | .boolean _ => .boolean
  | .number _ => .number
  | .list _ => .list
  | .map _ => .map

/-- The kind of the literal that a text stands for. -/
def Kind.ofText (text : Text) : Kind :=
  if text.head? = some (.scalar '\'') then .text
  else if text.head? = some (.scalar '[') then .list
  else if text.head? = some (.scalar '\x7b') then .map
  else if text = "null" then .null
  else if text = "true" ∨ text = "false" then .boolean
  else .number

theorem ofText_render (value : Literal) : Kind.ofText value.render = value.kind := by
  cases value with
  | null => decide
  | text content => rfl
  | boolean value => cases value <;> decide
  | list items => rfl
  | map entries => rfl
  | number value =>
      obtain ⟨first, others, text, -, notMark, notBracket, notBrace⟩ :=
        (Reading.isWord_numeral value).exists_cons
      have head : (numeral value).head? = some first := by rw [text, List.head?_cons]
      obtain ⟨notNull, notTrue, notFalse⟩ := numeral_ne_constant value
      simp only [render, Kind.ofText, head, Option.some.injEq, notMark, notBracket, notBrace,
        notNull, notTrue, notFalse, or_self, if_false]
      rfl

/-! ## Unions of literals -/

/-- The texts of literals, each behind a bar. -/
def barred (values : List Literal) : Text :=
  values.flatMap fun value => .scalar '|' :: value.render

theorem barred_cons (value : Literal) (values : List Literal) :
    barred (value :: values) = .scalar '|' :: (value.render ++ barred values) := by
  rw [barred, List.flatMap_cons, List.cons_append]
  rfl

theorem endsWord_barred (values : List Literal) : Reading.EndsWord (barred values) := by
  cases values with
  | nil => simp [Reading.EndsWord, barred]
  | cons value values => exact endsWord_of_noPart (.scalar '|') (by decide) _

theorem barred_withoutZeroSigns (values : List Literal) :
    barred (values.map withoutZeroSigns) = barred values := by
  induction values with
  | nil => rfl
  | cons value values induction =>
      rw [List.map_cons, barred_cons, barred_cons, render_withoutZeroSigns, induction]

theorem eq_of_barred {first second : List Literal} (same : barred first = barred second) :
    first.map withoutZeroSigns = second.map withoutZeroSigns := by
  induction first generalizing second with
  | nil =>
      cases second with
      | nil => rfl
      | cons other second =>
          rw [barred_cons] at same
          cases same
  | cons value first induction =>
      cases second with
      | nil =>
          rw [barred_cons] at same
          cases same
      | cons other second =>
          rw [barred_cons, barred_cons] at same
          have readFirst := read?_render value (endsWord_barred first)
          rw [(List.cons.inj same).2, read?_render other (endsWord_barred second)] at readFirst
          obtain ⟨sameValue, sameRest⟩ := Prod.mk.inj (Option.some.inj readFirst)
          rw [List.map_cons, List.map_cons, sameValue, induction sameRest.symm]

theorem barred_eq_barred_iff (first second : List Literal) :
    barred first = barred second ↔
      first.map withoutZeroSigns = second.map withoutZeroSigns := by
  constructor
  · exact eq_of_barred
  · intro same
    rw [← barred_withoutZeroSigns first, same, barred_withoutZeroSigns]

/-- The text of the union without members is not that of a literal, nor does a literal open it. -/
theorem never_ne (value : Literal) (values : List Literal) :
    ("never" : Text) ≠ value.render ++ barred values := by
  intro same
  have read := read?_render value (endsWord_barred values)
  rw [← same, show ("never" : Text) = .scalar 'n' :: "ever" from rfl, read?] at read
  cases read

theorem render_union_nil : (TypeExpr.union (List.map .literal [])).render = "never" := by
  rw [List.map_nil, TypeExpr.render]
  rfl

theorem render_union_cons (value : Literal) (values : List Literal) :
    (TypeExpr.union ((value :: values).map .literal)).render = value.render ++ barred values := by
  have joined : Text.join "|" (TypeExpr.renderMembers ((value :: values).map .literal)) =
      value.render ++ barred values := by
    induction values generalizing value with
    | nil => simp [TypeExpr.renderMembers, TypeExpr.render, Text.join, barred]
    | cons next values induction =>
        have present : TypeExpr.renderMembers ((next :: values).map .literal) ≠ [] := by
          simp [TypeExpr.renderMembers]
        rw [List.map_cons, TypeExpr.renderMembers, Text.join_cons "|" _ present, induction,
          barred_cons, TypeExpr.render]
        rfl
  rw [TypeExpr.render, joined]
  rfl

/-- The text of a union of literals says which literals are its members. -/
theorem render_union_eq_iff (first second : List Literal) :
    (TypeExpr.union (first.map .literal)).render = (TypeExpr.union (second.map .literal)).render ↔
      first.map withoutZeroSigns = second.map withoutZeroSigns := by
  cases first with
  | nil =>
      cases second with
      | nil => simp
      | cons other second =>
          rw [render_union_nil, render_union_cons]
          simp [never_ne]
  | cons value first =>
      cases second with
      | nil =>
          rw [render_union_nil, render_union_cons]
          simp [(never_ne value first).symm]
      | cons other second =>
          rw [render_union_cons, render_union_cons, ← barred_eq_barred_iff, barred_cons,
            barred_cons, List.cons_inj_right]

/-- What may follow the text of a literal within a larger text. -/
theorem endsWord_of_follower {rest : Text}
    (follower : ∀ point ∈ rest.head?, point.isOneOf ",]\x7d|;)[ " = true) :
    Reading.EndsWord rest := by
  intro point head
  apply Bool.eq_false_iff.mpr
  intro part
  have isFollower := follower point head
  rw [Reading.isOneOf_eq_false_of_isWordPart part (by decide)] at isFollower
  cases isFollower

end Literal

open Literal

/-- The text of a literal determines the literal.  One reader gives back every literal from its
text, up to the sign of zero, in front of whatever follows a literal in a larger text.  So equal
texts are those of equal literals, each kind of literal is known from the text, and unions of
literals that have the same text have the same members. -/
theorem literal_text_determines_value :
    (∀ (value : Literal) (rest : Text),
      (∀ point ∈ rest.head?, point.isOneOf ",]\x7d|;)[ " = true) →
        read? (value.render ++ rest) = some (value.withoutZeroSigns, rest)) ∧
    (∀ first second : Literal, first.render = second.render ↔
      first.withoutZeroSigns = second.withoutZeroSigns) ∧
    (∀ value : Literal, Kind.ofText value.render = value.kind) ∧
    (∀ first second : List Literal,
      (TypeExpr.union (first.map .literal)).render =
          (TypeExpr.union (second.map .literal)).render ↔
        first.map withoutZeroSigns = second.map withoutZeroSigns) := by
  refine ⟨?_, render_eq_render_iff, ofText_render, render_union_eq_iff⟩
  intro value rest follower
  exact read?_render value (endsWord_of_follower follower)

/-- A map within a list, with a key that quotes and escapes and with a negative zero. -/
theorem map_read_within_list :
    (∀ point ∈ (",null]" : Text).head?, point.isOneOf ",]\x7d|;)[ " = true) ∧
      read? ((Literal.map [(.text "it's \\",
          .list [.number (.signedZero true), .text "]", .boolean true])]).render ++ ",null]") =
        some (Literal.map [(.text "it's \\",
          .list [.number (.signedZero false), .text "]", .boolean true])], (",null]" : Text)) := by
  have follows : ∀ point ∈ (",null]" : Text).head?,
      point.isOneOf ",]\x7d|;)[ " = true := by decide
  refine ⟨follows, ?_⟩
  exact literal_text_determines_value.1 _ _ follows

end ApiTypes
