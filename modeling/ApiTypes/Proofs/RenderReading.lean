import ApiTypes.Proofs.LiteralToken
import ApiTypes.Proofs.TypeAlternatives
import ApiTypes.Proofs.TypeNames

/-!
# Reading rendered types

The text of a type, in front of anything that may follow it, is read as the
alternatives that the type contributes.  Types that need no parentheses under an
array suffix are read as one operand.
-/

namespace ApiTypes

/-- An identifier without a line feed behind it. -/
def Text.IsIdentifier (name : Text) : Prop :=
  name.isIdentifier = true ∧ .scalar '\n' ∉ name

instance (name : Text) : Decidable name.IsIdentifier :=
  inferInstanceAs (Decidable (_ ∧ _))

open Reading

theorem Text.IsIdentifier.isWord {name : Text} (identifier : name.IsIdentifier) :
    IsWord name := by
  obtain ⟨accepted, noLineFeed⟩ := identifier
  have whole : name.withoutLineFeed = name := by
    have notLast : name.getLast? ≠ some (.scalar '\n') :=
      fun last => noLineFeed (List.mem_of_getLast? last)
    simp [Text.withoutLineFeed, notLast]
  rw [Text.isIdentifier, whole] at accepted
  cases name with
  | nil => simp at accepted
  | cons first name =>
      simp only [Bool.and_eq_true, List.all_eq_true] at accepted
      refine ⟨by simp, ?_⟩
      intro point member
      rcases List.mem_cons.mp member with rfl | member
      · simp [isWordPart, Text.isIdentifierPart, accepted.1]
      · simp [isWordPart, accepted.2 point member]

namespace Reading

/-- What follows goes on with neither a word nor an array suffix. -/
def EndsOperand (rest : Text) : Prop :=
  EndsWord rest ∧ rest.head? ≠ some (.scalar '[')

theorem suffixes_of_endsOperand (operand : Reading) {rest : Text} (ends : EndsOperand rest) :
    suffixes operand rest = (operand, rest) := by
  rw [suffixes.eq_def]
  split
  · exact absurd rfl ends.2
  · rfl

/-- The text of a type is read as its alternatives, in front of all that may follow it. -/
def ReadsBack (type : TypeExpr) : Prop :=
  ∀ (rest : Text) (result : List (List Reading) × Text), EndsOperand rest →
    resume? type.alternatives rest = some result →
      union? (type.render ++ rest) = some result

/-- The text of a type is read as one operand, in front of array suffixes as well. -/
def ReadsAlone (type : TypeExpr) : Prop :=
  type.render ≠ [] ∧ ∀ rest : Text, EndsWord rest →
    suffixed? (type.render ++ rest) = some (suffixes type.reading rest)

theorem ReadsAlone.readsBack {type : TypeExpr} (alone : ReadsAlone type)
    (simple : type.isCompound = false) : ReadsBack type := by
  intro rest result ends goesOn
  rw [TypeExpr.alternatives_of_not_isCompound simple] at goesOn
  have read := alone.2 rest ends.1
  rw [suffixes_of_endsOperand _ ends] at read
  refine union?_of_suffixed? read ?_ goesOn
  have := List.length_pos_iff.mpr alone.1
  simp only [List.length_append]
  omega

theorem endsOperand_of_head {rest : Text} {first : CodePoint} (head : rest.head? = some first)
    (noPart : isWordPart first = false) (noBracket : first ≠ .scalar '[') :
    EndsOperand rest := by
  refine ⟨?_, by simpa [head] using noBracket⟩
  intro point isHead
  rw [head] at isHead
  obtain rfl := Option.mem_some.mp isHead
  exact noPart

/-- A type is read up to a mark that closes what it stands in. -/
theorem ReadsBack.union?_closed {type : TypeExpr} (back : ReadsBack type) {closing : CodePoint}
    (closes : closing = .scalar ')' ∨ closing = .scalar ';') (rest : Text) :
    union? (type.render ++ closing :: rest) = some (type.alternatives, closing :: rest) := by
  have ends : EndsOperand (closing :: rest) := by
    rcases closes with rfl | rfl <;> exact endsOperand_of_head rfl (by decide) (by decide)
  have noAmpersand : Text.after? (closing :: rest) " & " = none := by
    refine Text.after?_eq_none (.scalar ' ') rfl ?_
    rcases closes with rfl | rfl <;> simp
  have noBar : Text.after? (closing :: rest) "|" = none := by
    refine Text.after?_eq_none (.scalar '|') rfl ?_
    rcases closes with rfl | rfl <;> simp
  exact back _ _ ends (resume?_of_ends _ noAmpersand noBar)

/-! ## Tokens -/

theorem suffixed?_of_token? {text rest : Text} {token : Reading}
    (noParenthesis : text.after? "(" = none) (noRecord : recordBody? text = none)
    (read : token? text = some (token, rest)) :
    suffixed? text = some (suffixes token rest) := by
  rw [suffixed?, primary?, noParenthesis, noRecord]
  simp [read]

theorem recordBody?_eq_none_of_head {text : Text}
    (noBrace : text.head? ≠ some (.scalar '\x7b')) : recordBody? text = none := by
  have notOpened : text.after? "\x7b" = none :=
    Text.after?_eq_none (.scalar '\x7b') rfl noBrace
  simp [recordBody?, notOpened]

/-- A word is read as one operand. -/
theorem suffixed?_word {word rest : Text} (isWord : IsWord word) (ends : EndsWord rest) :
    suffixed? (word ++ rest) = some (suffixes (.leaf word) rest) := by
  have starts (other : CodePoint) (noPart : isWordPart other = false) :
      (word ++ rest).head? ≠ some other := by
    cases word with
    | nil => exact absurd rfl isWord.1
    | cons point word =>
        simpa using ne_of_class isWordPart (isWord.2 point (by simp)) noPart
  exact suffixed?_of_token? (Text.after?_eq_none (.scalar '(') rfl (starts _ (by decide)))
    (recordBody?_eq_none_of_head (starts _ (by decide))) (token?_word isWord ends)

/-- The text of a literal begins with nothing that ends a record, names a field of it or opens a
parenthesis, and only that of a map with a brace. -/
theorem head?_render (value : Literal) :
    ∃ first, value.render.head? = some first ∧ first.isOneOf "(\"\x7d" = false ∧
      (first = .scalar '\x7b' → ∃ entries, value = .map entries) := by
  have ofWord {word : Text} (isWord : IsWord word) :
      ∃ first, word.head? = some first ∧ first.isOneOf "(\"\x7d" = false ∧
        (first = .scalar '\x7b' → ∃ entries, value = .map entries) := by
    obtain ⟨first, others, rfl⟩ := List.exists_cons_of_ne_nil isWord.1
    have part : isWordPart first = true := isWord.2 first (by simp)
    refine ⟨first, rfl, isOneOf_eq_false_of_isWordPart part (by decide), ?_⟩
    intro brace
    exact absurd brace (ne_of_class isWordPart part (by decide))
  cases value with
  | null => exact ofWord ⟨by decide, by decide⟩
  | text content => exact ⟨.scalar '\'', rfl, by decide, by simp⟩
  | boolean value => cases value <;> exact ofWord ⟨by decide, by decide⟩
  | number value => exact ofWord (isWord_numeral value)
  | list items =>
      exact ⟨.scalar '[', by simp [Literal.render, Text.ofString], by decide, by simp⟩
  | map entries =>
      exact ⟨.scalar '\x7b', by simp [Literal.render, Text.ofString], by decide, by simp⟩

/-- A map with entries is no record. -/
theorem recordBody?_render_map (entry : Literal × Literal) (entries : List (Literal × Literal))
    (rest : Text) : recordBody? ((Literal.map (entry :: entries)).render ++ rest) = none := by
  obtain ⟨key, value⟩ := entry
  obtain ⟨first, head, plain, -⟩ := head?_render key
  have notQuote : first ≠ .scalar '"' :=
    (ne_of_class (·.isOneOf "(\"\x7d") (by decide) plain).symm
  have notBrace : first ≠ .scalar '\x7d' :=
    (ne_of_class (·.isOneOf "(\"\x7d") (by decide) plain).symm
  have joined :
      (Text.join "," (Literal.renderEntries ((key, value) :: entries))).head? = some first := by
    rw [Literal.renderEntries]
    cases Literal.renderEntries entries <;> simp [Text.join, head]
  have text : (Literal.map ((key, value) :: entries)).render ++ rest =
      "\x7b" ++ (Text.join "," (Literal.renderEntries ((key, value) :: entries)) ++
        ("\x7d" ++ rest)) := by
    simp [Literal.render]
  rw [text, recordBody?, Text.after?_append]
  simp [joined, notQuote, notBrace]

/-- The fields behind a brace make a record. -/
theorem suffixed?_of_fields? {body rest : Text} {fields : List (Field Reading)}
    (opens : body.head? = some (.scalar '"') ∨ body.head? = some (.scalar '\x7d'))
    (read : fields? body = some (fields, rest)) :
    suffixed? ("\x7b" ++ body) = some (suffixes (.record fields) rest) := by
  have noParenthesis : Text.after? ("\x7b" ++ body) "(" = none :=
    Text.after?_eq_none (.scalar '(') rfl (by simp [Text.ofString])
  have isRecord : recordBody? ("\x7b" ++ body) = some body := by
    rw [recordBody?, Text.after?_append]
    simpa using opens
  have shorter : body.length < (("\x7b" : Text) ++ body).length :=
    Text.length_lt_append (by decide) body
  rw [suffixed?, primary?, noParenthesis, isRecord]
  simp only [shorter, if_true, read, Option.map_some]

theorem fields?_closing (rest : Text) : fields? ("\x7d" ++ rest) = some ([], rest) := by
  rw [fields?, Text.after?_append]

/-- The text of a literal is read as one operand. -/
theorem suffixed?_render (value : Literal) {rest : Text} (ends : EndsWord rest) :
    suffixed? (value.render ++ rest) = some (suffixes value.reading rest) := by
  by_cases isEmpty : value = .map []
  · subst isEmpty
    have text : (Literal.map []).render ++ rest = "\x7b" ++ ("\x7d" ++ rest) := by
      simp [Literal.render, Literal.renderEntries, Text.join]
    rw [text]
    exact suffixed?_of_fields? (by simp [Text.ofString]) (fields?_closing rest)
  · obtain ⟨first, head, plain, ofBrace⟩ := head?_render value
    have starts : (value.render ++ rest).head? = some first := by simp [head]
    have noParenthesis : (value.render ++ rest).after? "(" = none := by
      refine Text.after?_eq_none (.scalar '(') rfl ?_
      simpa [starts] using (ne_of_class (·.isOneOf "(\"\x7d") (by decide) plain).symm
    have noRecord : recordBody? (value.render ++ rest) = none := by
      by_cases brace : first = .scalar '\x7b'
      · obtain ⟨entries, rfl⟩ := ofBrace brace
        cases entries with
        | nil => exact absurd rfl isEmpty
        | cons entry entries => exact recordBody?_render_map entry entries rest
      · exact recordBody?_eq_none_of_head (by simpa [starts] using brace)
    have isLeaf : value.reading = .leaf value.render := by
      unfold Literal.reading
      split
      · exact absurd rfl isEmpty
      · rfl
    rw [isLeaf]
    exact suffixed?_of_token? noParenthesis noRecord (token?_render value ends)

/-! ## Records -/

theorem fieldHead?_fieldText (name : Text) (required : Bool) (start : Text) :
    fieldHead? (TypeExpr.quoteName name ++ ((if required then "" else " ?") ++ (" : " ++ start))) =
      some (name, required, start) := by
  have quoted (behind : Text) : TypeExpr.quoteName name ++ behind =
      "\"" ++ (Literal.escape (.scalar '"') name ++ .scalar '"' :: behind) := by
    simp [TypeExpr.quoteName, Text.ofString]
  rw [fieldHead?, quoted, Text.after?_append]
  simp only [Option.bind_eq_bind, Option.bind_some, quoted?_escape (.scalar '"') (by decide)]
  cases required with
  | false => simp [Text.after?_append]
  | true =>
      have noMark : Text.after? (" : " ++ start) " ?" = none := by
        simp [Text.after?, Text.ofString]
      have isEmpty : Text.ofString "" = [] := rfl
      simp [isEmpty, noMark, Text.after?_append]

/-- The fields of a record are read up to its closing brace. -/
theorem fields?_renderFields {fields : List (Field TypeExpr)}
    (back : ∀ field ∈ fields, ReadsBack field.type) (rest : Text) :
    fields? (TypeExpr.renderFields fields ++ ("\x7d" ++ rest)) =
      some (TypeExpr.fieldsReading fields, rest) := by
  induction fields with
  | nil => exact fields?_closing rest
  | cons field fields induction =>
      obtain ⟨name, required, type⟩ := field
      have others := induction fun field member => back field (by simp [member])
      have typeBack : ReadsBack type := back ⟨name, required, type⟩ (by simp)
      generalize following : TypeExpr.renderFields fields ++ ("\x7d" ++ rest) = next at others
      generalize typeText : type.render ++ (";" ++ next) = start
      have text : TypeExpr.renderFields (⟨name, required, type⟩ :: fields) ++ ("\x7d" ++ rest) =
          TypeExpr.quoteName name ++ ((if required then "" else " ?") ++ (" : " ++ start)) := by
        simp [TypeExpr.renderFields, TypeExpr.fieldText, ← following, ← typeText]
      have noClosing : Text.after? (TypeExpr.quoteName name ++
          ((if required then "" else " ?") ++ (" : " ++ start))) "\x7d" = none :=
        Text.after?_eq_none (.scalar '\x7d') rfl (by simp [TypeExpr.quoteName])
      have typeRead : union? start = some (type.alternatives, ";" ++ next) := by
        rw [← typeText]
        exact typeBack.union?_closed (.inr rfl) next
      have startShorter : start.length < (TypeExpr.quoteName name ++
          ((if required then "" else " ?") ++ (" : " ++ start))).length := by
        simp [TypeExpr.quoteName]
        omega
      have nextShorter : next.length < (TypeExpr.quoteName name ++
          ((if required then "" else " ?") ++ (" : " ++ start))).length := by
        simp [TypeExpr.quoteName, ← typeText]
        omega
      rw [text, fields?, noClosing, fieldHead?_fieldText]
      simp only [startShorter, if_true, typeRead, Text.after?_append, nextShorter, others,
        Option.map_some, TypeExpr.fieldsReading]

theorem readsAlone_record {fields : List (Field TypeExpr)}
    (back : ∀ field ∈ fields, ReadsBack field.type) : ReadsAlone (.record fields) := by
  refine ⟨by simp [TypeExpr.render, Text.ofString], ?_⟩
  intro rest ends
  have text : (TypeExpr.record fields).render ++ rest =
      "\x7b" ++ (TypeExpr.renderFields fields ++ ("\x7d" ++ rest)) := by
    simp [TypeExpr.render]
  rw [text]
  refine suffixed?_of_fields? ?_ (fields?_renderFields back rest)
  cases fields with
  | nil => exact .inr rfl
  | cons field fields =>
      obtain ⟨name, required, type⟩ := field
      exact .inl (by simp [TypeExpr.renderFields, TypeExpr.fieldText, TypeExpr.quoteName])

/-! ## Arrays -/

theorem suffixes_brackets (element : Reading) (rest : Text) :
    suffixes element ("[]" ++ rest) = suffixes (.array element) rest :=
  rfl

/-- An element in parentheses may be any type. -/
theorem readsAlone_array_of_compound {element : TypeExpr} (compound : element.isCompound = true)
    (back : ReadsBack element) : ReadsAlone (.array element) := by
  refine ⟨by simp [TypeExpr.render, compound, Text.ofString], ?_⟩
  intro rest ends
  have text : (TypeExpr.array element).render ++ rest =
      "(" ++ (element.render ++ (")" ++ ("[]" ++ rest))) := by
    simp [TypeExpr.render, compound, Text.ofString]
  have elementRead : union? (element.render ++ (")" ++ ("[]" ++ rest))) =
      some (element.alternatives, ")" ++ ("[]" ++ rest)) :=
    back.union?_closed (.inl rfl) _
  have shorter : (element.render ++ (")" ++ ("[]" ++ rest))).length <
      ("(" ++ (element.render ++ (")" ++ ("[]" ++ rest))) : Text).length :=
    Text.length_lt_append (by decide) _
  rw [text, suffixed?, primary?, Text.after?_append]
  simp only [shorter, if_true, elementRead, Text.after?_append, Option.map_some,
    suffixes_brackets]
  rfl

/-- An element that is read as one operand needs no parentheses. -/
theorem readsAlone_array {element : TypeExpr} (simple : element.isCompound = false)
    (alone : ReadsAlone element) : ReadsAlone (.array element) := by
  refine ⟨by simp [TypeExpr.render, simple, Text.ofString], ?_⟩
  intro rest ends
  have text : (TypeExpr.array element).render ++ rest = element.render ++ ("[]" ++ rest) := by
    simp [TypeExpr.render, simple]
  have bracketEnds : EndsWord ("[]" ++ rest) := by
    intro point isHead
    obtain rfl : CodePoint.scalar '[' = point := by simpa [Text.ofString] using isHead
    decide
  rw [text, alone.2 _ bracketEnds, suffixes_brackets]
  rfl

/-! ## Unions and intersections -/

/-- Members with a separator between neighbours are read as their alternatives together. -/
theorem union?_join {separator : Text}
    {combine : List (List Reading) → List (List Reading) → List (List Reading)}
    (joins : Joins separator combine) (separatorEnds : ∀ next, EndsOperand (separator ++ next))
    {members : List TypeExpr} (present : members ≠ [])
    (back : ∀ member ∈ members, ReadsBack member) {rest : Text}
    {result : List (List Reading) × Text} (ends : EndsOperand rest)
    (goesOn : resume? ((TypeExpr.membersAlternatives members).foldr combine []) rest =
      some result) :
    union? (Text.join separator (TypeExpr.renderMembers members) ++ rest) = some result := by
  induction members generalizing result with
  | nil => exact absurd rfl present
  | cons member members induction =>
      have memberBack := back member (by simp)
      cases members with
      | nil =>
          simp only [TypeExpr.membersAlternatives, List.foldr, joins.combine_nil] at goesOn
          simpa [TypeExpr.renderMembers, Text.join] using memberBack rest result ends goesOn
      | cons next members =>
          have text : Text.join separator (TypeExpr.renderMembers (member :: next :: members)) ++
              rest = member.render ++ (separator ++
                (Text.join separator (TypeExpr.renderMembers (next :: members)) ++ rest)) := by
            simp [TypeExpr.renderMembers, Text.join]
          have othersPresent :
              (TypeExpr.membersAlternatives (next :: members)).foldr combine [] ≠ [] :=
            joins.foldr_ne_nil (TypeExpr.membersAlternatives_ne_nil (by simp)) fun part isPart =>
              (TypeExpr.membersAlternatives_grouped _ part isPart).1
          rw [TypeExpr.membersAlternatives, List.foldr_cons,
            joins.resume?_combine _ _ _ othersPresent] at goesOn
          obtain ⟨others, othersGoOn, combined⟩ := Option.map_eq_some_iff.mp goesOn
          have othersRead := induction (by simp) (fun member isMember => back member (by
            simp [isMember])) othersGoOn
          rw [text]
          refine memberBack _ result (separatorEnds _) ?_
          rw [joins.resume?_separator, othersRead]
          exact congrArg some combined

theorem readsBack_intersection {members : List TypeExpr} (present : members ≠ [])
    (back : ∀ member ∈ members, ReadsBack member) : ReadsBack (.intersection members) := by
  intro rest result ends goesOn
  simp only [TypeExpr.alternatives, List.isEmpty_eq_false_iff.mpr present] at goesOn
  simpa [TypeExpr.render, present] using
    union?_join ampersand_joins
      (fun next => endsOperand_of_head rfl (by decide) (by decide)) present back ends goesOn

theorem readsBack_union {members : List TypeExpr} (present : members ≠ [])
    (back : ∀ member ∈ members, ReadsBack member) : ReadsBack (.union members) := by
  intro rest result ends goesOn
  simp only [TypeExpr.alternatives, List.isEmpty_eq_false_iff.mpr present] at goesOn
  simpa [TypeExpr.render, present] using
    union?_join bar_joins
      (fun next => endsOperand_of_head rfl (by decide) (by decide)) present back ends goesOn

/-! ## All types -/

theorem readsAlone_of_word {type : TypeExpr} {word : Text} (isWord : IsWord word)
    (text : type.render = word) (simple : type.alternatives = [[.leaf word]]) :
    ReadsAlone type := by
  refine ⟨by simpa [text] using isWord.1, ?_⟩
  intro rest ends
  rw [text, TypeExpr.reading, simple]
  exact suffixed?_word isWord ends

theorem readsAlone_literal (value : Literal) : ReadsAlone (.literal value) := by
  obtain ⟨first, head, -⟩ := head?_render value
  refine ⟨?_, fun rest ends => suffixed?_render value ends⟩
  intro isEmpty
  rw [TypeExpr.render] at isEmpty
  simp [isEmpty] at head

mutual

/-- The text of a type whose names are identifiers is read back. -/
theorem readsBack (type : TypeExpr) (identifiers : ∀ name ∈ type.names, name.IsIdentifier) :
    ReadsBack type ∧ (type.isCompound = false → ReadsAlone type) := by
  have ofAlone (simple : type.isCompound = false) (alone : ReadsAlone type) :
      ReadsBack type ∧ (type.isCompound = false → ReadsAlone type) :=
    ⟨alone.readsBack simple, fun _ => alone⟩
  cases type with
  | array element =>
      obtain ⟨back, alone⟩ := readsBack element (by simpa [TypeExpr.names] using identifiers)
      refine ofAlone rfl ?_
      cases compound : element.isCompound with
      | false => exact readsAlone_array compound (alone compound)
      | true => exact readsAlone_array_of_compound compound back
  | intersection members =>
      have back := readsBack_members members (by simpa [TypeExpr.names] using identifiers)
      cases members with
      | nil =>
          have isWord : IsWord "unknown" := ⟨by decide, by decide⟩
          exact ofAlone rfl (readsAlone_of_word isWord rfl rfl)
      | cons member members =>
          exact ⟨readsBack_intersection (by simp) back, by simp [TypeExpr.isCompound]⟩
  | union members =>
      have back := readsBack_members members (by simpa [TypeExpr.names] using identifiers)
      cases members with
      | nil =>
          have isWord : IsWord "never" := ⟨by decide, by decide⟩
          exact ofAlone rfl (readsAlone_of_word isWord rfl rfl)
      | cons member members =>
          exact ⟨readsBack_union (by simp) back, by simp [TypeExpr.isCompound]⟩
  | named name =>
      have identifier := identifiers name (by simp [TypeExpr.names])
      exact ofAlone rfl (readsAlone_of_word identifier.isWord rfl rfl)
  | record fields =>
      exact ofAlone rfl (readsAlone_record
        (readsBack_fields fields (by simpa [TypeExpr.names] using identifiers)))
  | literal value => exact ofAlone rfl (readsAlone_literal value)

/-- List counterpart of `readsBack`. -/
theorem readsBack_members (members : List TypeExpr)
    (identifiers : ∀ name ∈ TypeExpr.membersNames members, name.IsIdentifier) :
    ∀ member ∈ members, ReadsBack member := by
  cases members with
  | nil => simp
  | cons member members =>
      simp only [TypeExpr.membersNames, List.mem_append] at identifiers
      have memberBack := readsBack member fun name isName => identifiers name (.inl isName)
      have membersBack := readsBack_members members fun name isName =>
        identifiers name (.inr isName)
      simpa using ⟨memberBack.1, membersBack⟩

/-- Counterpart of `readsBack` for the fields of a record. -/
theorem readsBack_fields (fields : List (Field TypeExpr))
    (identifiers : ∀ name ∈ TypeExpr.fieldsNames fields, name.IsIdentifier) :
    ∀ field ∈ fields, ReadsBack field.type := by
  cases fields with
  | nil => simp
  | cons field fields =>
      obtain ⟨name, required, type⟩ := field
      simp only [TypeExpr.fieldsNames, List.mem_append] at identifiers
      have typeBack := readsBack type fun name isName => identifiers name (.inl isName)
      have fieldsBack := readsBack_fields fields fun name isName =>
        identifiers name (.inr isName)
      simpa using ⟨typeBack.1, fieldsBack⟩

end

/-- The whole text of a type whose names are identifiers is read as the reading of the type. -/
theorem ofText?_render {type : TypeExpr} (identifiers : ∀ name ∈ type.names, name.IsIdentifier) :
    ofText? type.render = some type.reading := by
  have ends : EndsOperand [] := ⟨by simp [EndsWord], by simp⟩
  have read := (readsBack type identifiers).1 [] _ ends (resume?_of_ends _ rfl rfl)
  rw [List.append_nil] at read
  rw [ofText?, read]
  rfl

end Reading

end ApiTypes
