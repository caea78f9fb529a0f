import ApiTypes.Double.Text

/-!
# Literals

Constants of TypeScript with their text.  The keys of a map are literals
themselves.
-/

namespace ApiTypes

/-- A constant. -/
inductive Literal where
  | null
  | text (content : Text)
  | boolean (value : Bool)
  | number (value : Double)
  | list (items : List Literal)
  | map (entries : List (Literal × Literal))

namespace Literal

instance : Inhabited Literal := ⟨.null⟩

/-- A content with a backslash before each backslash and each quotation mark. -/
def escape (mark : CodePoint) (content : Text) : Text :=
  content.flatMap fun point =>
    if point = .scalar '\\' ∨ point = mark then [.scalar '\\', point] else [point]

/-- Marks and backslashes are escaped as by two replacements, that of the backslashes first. -/
theorem escape_eq_replacements (mark : CodePoint) (noBackslash : mark ≠ .scalar '\\')
    (content : Text) :
    escape mark content =
      (content.flatMap fun point =>
          if point = .scalar '\\' then [.scalar '\\', .scalar '\\'] else [point]).flatMap
        fun point => if point = mark then [.scalar '\\', mark] else [point] := by
  rw [escape, List.flatMap_assoc]
  congr 1
  funext point
  by_cases isBackslash : point = .scalar '\\'
  · simp [isBackslash, noBackslash.symm]
  · by_cases isMark : point = mark
    · simp [isMark, noBackslash]
    · simp [isBackslash, isMark]

def quote (content : Text) : Text :=
  .scalar '\'' :: escape (.scalar '\'') content ++ [.scalar '\'']

/-- The text of a number: integers without a fraction and without an exponent, other finite
numbers with the fewest digits that read back. -/
def numeral (number : Double) : Text :=
  match number with
  | .notANumber => "NaN"
  | .infinite negative => if negative then "-Infinity" else "Infinity"
  | .finite _ _ _ _ =>
      match number.toInt? with
      | some value => Text.ofInt value
      | none => number.text

mutual

/-- The text of a literal. -/
def render : Literal → Text
  | .null => "null"
  | .text content => quote content
  | .boolean value => if value then "true" else "false"
  | .number value => numeral value
  | .list items => "[" ++ Text.join "," (renderItems items) ++ "]"
  | .map entries => "\x7b" ++ Text.join "," (renderEntries entries) ++ "\x7d"

def renderItems : List Literal → List Text
  | [] => []
  | item :: items => render item :: renderItems items

/-- The texts of the entries of a map. -/
def renderEntries : List (Literal × Literal) → List Text
  | [] => []
  | (key, value) :: entries => (render key ++ " : " ++ render value) :: renderEntries entries

end

theorem renderItems_eq_map (items : List Literal) : renderItems items = items.map render := by
  induction items with
  | nil => rfl
  | cons item items ih => simp [renderItems, ih]

theorem renderEntries_eq_map (entries : List (Literal × Literal)) :
    renderEntries entries =
      entries.map fun (key, value) => render key ++ " : " ++ render value := by
  induction entries with
  | nil => rfl
  | cons entry entries ih => simp [renderEntries, ih]

end Literal

end ApiTypes
