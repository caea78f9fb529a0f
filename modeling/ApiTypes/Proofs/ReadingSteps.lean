import ApiTypes.Proofs.TypeReading

/-!
# Reading on behind alternatives

A reader that has come to the end of some alternatives goes on behind a bar or an
ampersand.  What it reads behind a bar comes after them; what it reads behind an
ampersand goes on with the last of them.
-/

namespace ApiTypes

namespace Text

theorem length_lt_append {opening : Text} (present : opening ≠ []) (rest : Text) :
    rest.length < (opening ++ rest).length := by
  rw [List.length_append]
  exact Nat.lt_add_of_pos_left (List.length_pos_iff.mpr present)

/-- What follows a separator is shorter than the text. -/
theorem length_lt_of_after?_eq_some {text opening rest : Text} (present : opening ≠ [])
    (opens : text.after? opening = some rest) : rest.length < text.length := by
  rw [eq_append_of_after?_eq_some opens]
  exact length_lt_append present rest

end Text

namespace Reading

/-- Alternatives on two sides of an ampersand: the last one on the left and the first one on the
right are one. -/
def splice : (left right : List (List Reading)) → List (List Reading)
  | [], right => right
  | [last], [] => [last]
  | [last], first :: right => (last ++ first) :: right
  | operands :: next :: left, right => operands :: splice (next :: left) right

@[simp] theorem splice_nil (left : List (List Reading)) : splice left [] = left := by
  induction left with
  | nil => rfl
  | cons operands left induction =>
      cases left with
      | nil => rfl
      | cons next left => simpa [splice] using induction

theorem splice_ne_nil {left right : List (List Reading)} (present : right ≠ []) :
    splice left right ≠ [] := by
  match left, right with
  | [], right => exact present
  | [last], first :: right => simp [splice]
  | operands :: next :: left, right => simp [splice]

theorem append_splice (left : List (List Reading)) {middle : List (List Reading)}
    (present : middle ≠ []) (right : List (List Reading)) :
    splice (left ++ middle) right = left ++ splice middle right := by
  induction left with
  | nil => rfl
  | cons operands left induction =>
      have more : left ++ middle ≠ [] := by simp [present]
      obtain ⟨next, others, rest⟩ := List.exists_cons_of_ne_nil more
      rw [List.cons_append, List.cons_append, ← induction, rest, splice]

theorem splice_append (left : List (List Reading)) {middle : List (List Reading)}
    (present : middle ≠ []) (right : List (List Reading)) :
    splice left (middle ++ right) = splice left middle ++ right := by
  match left, middle with
  | [], middle => rfl
  | [last], first :: middle => rfl
  | operands :: next :: left, middle =>
      simp [splice, splice_append (next :: left) present right]

theorem splice_assoc (left : List (List Reading)) {middle : List (List Reading)}
    (present : middle ≠ []) (right : List (List Reading)) :
    splice (splice left middle) right = splice left (splice middle right) := by
  match left, middle with
  | [], middle => rfl
  | [last], [only] => cases right <;> simp [splice]
  | [last], first :: second :: middle => rfl
  | operands :: next :: left, middle =>
      have more : splice (next :: left) middle ≠ [] := splice_ne_nil present
      obtain ⟨first, others, spliced⟩ := List.exists_cons_of_ne_nil more
      have induction := splice_assoc (next :: left) present right
      rw [spliced] at induction
      simp only [splice, spliced, induction]

/-- The alternatives of a text of which some have been read, and the rest of it is left. -/
def resume? (read : List (List Reading)) (rest : Text) : Option (List (List Reading) × Text) :=
  match rest.after? " & " with
  | some next => (union? next).map fun (alternatives, rest) => (splice read alternatives, rest)
  | none =>
      match rest.after? "|" with
      | some next => (union? next).map fun (alternatives, rest) => (read ++ alternatives, rest)
      | none => some (read, rest)

/-- Behind a text that neither a bar nor an ampersand follows, nothing more is read. -/
theorem resume?_of_ends (read : List (List Reading)) {rest : Text}
    (noAmpersand : rest.after? " & " = none) (noBar : rest.after? "|" = none) :
    resume? read rest = some (read, rest) := by
  simp [resume?, noAmpersand, noBar]

/-- A separator, and how the alternatives on its two sides are combined. -/
structure Joins (separator : Text)
    (combine : List (List Reading) → List (List Reading) → List (List Reading)) : Prop where
  combine_nil : ∀ left, combine left [] = left
  combine_ne_nil : ∀ left right, right ≠ [] → combine left right ≠ []
  resume?_separator : ∀ read next,
    resume? read (separator ++ next) =
      (union? next).map fun (alternatives, rest) => (combine read alternatives, rest)
  resume?_combine : ∀ left right rest, right ≠ [] →
    resume? (combine left right) rest =
      (resume? right rest).map fun (alternatives, rest) => (combine left alternatives, rest)

theorem Joins.foldr_ne_nil {separator : Text}
    {combine : List (List Reading) → List (List Reading) → List (List Reading)}
    (joins : Joins separator combine) {parts : List (List (List Reading))} (present : parts ≠ [])
    (partsPresent : ∀ part ∈ parts, part ≠ []) : parts.foldr combine [] ≠ [] := by
  induction parts with
  | nil => exact absurd rfl present
  | cons part parts induction =>
      cases parts with
      | nil => simpa [joins.combine_nil] using partsPresent part (by simp)
      | cons next parts =>
          exact joins.combine_ne_nil part _
            (induction (by simp) fun part member => partsPresent part (by simp [member]))

/-- Alternatives on the left of a bar stay in front of the others. -/
theorem bar_joins : Joins "|" (· ++ ·) where
  combine_nil := List.append_nil
  combine_ne_nil := fun _ _ => List.append_ne_nil_of_right_ne_nil _
  resume?_separator read next := by
    have noAmpersand : Text.after? ("|" ++ next) " & " = none :=
      Text.after?_eq_none (.scalar ' ') rfl (by simp [Text.ofString])
    simp [resume?, noAmpersand, Text.after?_append]
  resume?_combine left right rest present := by
    unfold resume?
    cases rest.after? " & " with
    | some next => simp [Function.comp_def, append_splice left present]
    | none =>
        cases rest.after? "|" with
        | some next => simp [Function.comp_def]
        | none => rfl

/-- The last alternative on the left of an ampersand goes on behind it. -/
theorem ampersand_joins : Joins " & " splice where
  combine_nil := splice_nil
  combine_ne_nil := fun _ _ => splice_ne_nil
  resume?_separator read next := by
    simp [resume?, Text.after?_append]
  resume?_combine left right rest present := by
    unfold resume?
    cases rest.after? " & " with
    | some next => simp [Function.comp_def, splice_assoc left present]
    | none =>
        cases rest.after? "|" with
        | some next => simp [Function.comp_def, splice_append left present]
        | none => rfl

/-- An operand in front of alternatives belongs to the first of them. -/
theorem union?_of_operand_ampersand {text next rest : Text} {operand : Reading}
    {alternatives : List (List Reading)} (shorter : next.length < text.length)
    (operandRead : operands? text =
      (operands? next).map fun (operands, rest) => (operand :: operands, rest))
    (read : union? next = some (alternatives, rest)) :
    union? text = some (splice [[operand]] alternatives, rest) := by
  rw [union?] at read ⊢
  rw [operandRead]
  cases others : operands? next with
  | none => simp [others] at read
  | some pair =>
      obtain ⟨operands, behind⟩ := pair
      simp only [others, Option.map_some] at read ⊢
      cases bar : behind.after? "|" with
      | none =>
          simp only [bar, Option.some.injEq, Prod.mk.injEq] at read
          obtain ⟨rfl, rfl⟩ := read
          rfl
      | some following =>
          simp only [bar] at read ⊢
          split at read
          · rename_i followingShorter
            have guarded : following.length < text.length := by omega
            simp only [guarded, if_true]
            obtain ⟨last, lastRead, combined⟩ := Option.map_eq_some_iff.mp read
            simp only [Prod.mk.injEq] at combined
            obtain ⟨rfl, rfl⟩ := combined
            simp [lastRead, splice]
          · simp at read

/-- A reader of alternatives reads the first operand and goes on behind it. -/
theorem union?_of_suffixed? {text rest : Text} {operand : Reading}
    {result : List (List Reading) × Text} (read : suffixed? text = some (operand, rest))
    (shorter : rest.length < text.length) (goesOn : resume? [[operand]] rest = some result) :
    union? text = some result := by
  unfold resume? at goesOn
  cases ampersand : rest.after? " & " with
  | none =>
      rw [union?, operands?, read]
      simp only [ampersand] at goesOn ⊢
      cases bar : rest.after? "|" with
      | none => simpa [bar] using goesOn
      | some next =>
          have nextShorter : next.length < rest.length :=
            Text.length_lt_of_after?_eq_some (by decide) bar
          have guarded : next.length < text.length := by omega
          simpa [bar, guarded] using goesOn
  | some next =>
      have nextShorter : next.length < rest.length :=
        Text.length_lt_of_after?_eq_some (by decide) ampersand
      have guarded : next.length < text.length := by omega
      have operandRead : operands? text =
          (operands? next).map fun (operands, rest) => (operand :: operands, rest) := by
        rw [operands?, read]
        simp only [ampersand, guarded, if_true]
      simp only [ampersand] at goesOn
      obtain ⟨others, othersRead, rfl⟩ := Option.map_eq_some_iff.mp goesOn
      exact union?_of_operand_ampersand guarded operandRead othersRead

end Reading

end ApiTypes
