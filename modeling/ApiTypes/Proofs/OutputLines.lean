import ApiTypes.CommandLine.Run
import ApiTypes.Proofs.TextLines
import ApiTypes.Proofs.TypeNames

/-!
# Lines of modules

The text of a module is the notice and one line for each declaration, unless a
text that is written as it is, or between quotation marks, has a line end of its
own.
-/

namespace ApiTypes

namespace TypeExpr

mutual

/-- The texts in a type that stand between quotation marks: names of fields, and the texts in
literals. -/
def quotedTexts : TypeExpr → List Text
  | .array element => quotedTexts element
  | .intersection members => membersQuotedTexts members
  | .union members => membersQuotedTexts members
  | .named _ => []
  | .record fields => fieldsQuotedTexts fields
  | .literal value => value.texts

def membersQuotedTexts : List TypeExpr → List Text
  | [] => []
  | member :: members => quotedTexts member ++ membersQuotedTexts members

/-- The names of fields and the texts in their types. -/
def fieldsQuotedTexts : List (Field TypeExpr) → List Text
  | [] => []
  | ⟨name, _, type⟩ :: fields => name :: quotedTexts type ++ fieldsQuotedTexts fields

end

theorem isSingleLine_quoteName (name : Text) :
    (quoteName name).isSingleLine = name.isSingleLine := by
  have noLineEnd : (CodePoint.scalar '"').isLineEnd = false := by decide
  simp [quoteName, Literal.isSingleLine_escape, noLineEnd]

theorem isSingleLine_fieldText (name : Text) (required : Bool) (type : Text) :
    (fieldText name required type).isSingleLine = (name.isSingleLine && type.isSingleLine) := by
  have colon : Text.isSingleLine " : " = true := by decide
  have semicolon : Text.isSingleLine ";" = true := by decide
  have mark : Text.isSingleLine "" = true ∧ Text.isSingleLine " ?" = true := by decide
  cases required <;> simp [fieldText, isSingleLine_quoteName, mark, colon, semicolon]

theorem isSingleLine_join_renderMembers {separator word : Text}
    (separatorSingle : separator.isSingleLine = true) (wordSingle : word.isSingleLine = true)
    (members : List TypeExpr) :
    Text.isSingleLine
        (if members.isEmpty then word else Text.join separator (renderMembers members)) =
      (renderMembers members).all Text.isSingleLine := by
  cases members with
  | nil => simpa [renderMembers] using wordSingle
  | cons member members => simp [Text.isSingleLine_join separatorSingle]

mutual

/-- The text of a type is one line exactly if its names and its quoted texts are. -/
theorem isSingleLine_render (type : TypeExpr) :
    type.render.isSingleLine =
      (type.names.all Text.isSingleLine && type.quotedTexts.all Text.isSingleLine) := by
  cases type with
  | array element =>
      have brackets : Text.isSingleLine "[]" = true := by decide
      have parentheses : Text.isSingleLine "(" = true ∧ Text.isSingleLine ")[]" = true := by decide
      rw [names, quotedTexts, ← isSingleLine_render element, render]
      split <;> simp [brackets, parentheses]
  | intersection members =>
      rw [names, quotedTexts, ← isSingleLine_renderMembers members, render]
      exact isSingleLine_join_renderMembers (by decide) (by decide) members
  | union members =>
      rw [names, quotedTexts, ← isSingleLine_renderMembers members, render]
      exact isSingleLine_join_renderMembers (by decide) (by decide) members
  | named name => simp [render, names, quotedTexts]
  | record fields =>
      have opening : Text.isSingleLine "\x7b" = true := by decide
      have closing : Text.isSingleLine "\x7d" = true := by decide
      rw [names, quotedTexts, ← isSingleLine_renderFields fields, render]
      simp [opening, closing]
  | literal value => simp [render, names, quotedTexts, Literal.isSingleLine_render]

/-- List counterpart of `isSingleLine_render`. -/
theorem isSingleLine_renderMembers (members : List TypeExpr) :
    (renderMembers members).all Text.isSingleLine =
      ((membersNames members).all Text.isSingleLine &&
        (membersQuotedTexts members).all Text.isSingleLine) := by
  cases members with
  | nil => rfl
  | cons member members =>
      rw [renderMembers, membersNames, membersQuotedTexts, List.all_cons, List.all_append,
        List.all_append, isSingleLine_render member, isSingleLine_renderMembers members]
      ac_rfl

/-- Counterpart of `isSingleLine_render` for the fields of a record. -/
theorem isSingleLine_renderFields (fields : List (Field TypeExpr)) :
    (renderFields fields).isSingleLine =
      ((fieldsNames fields).all Text.isSingleLine &&
        (fieldsQuotedTexts fields).all Text.isSingleLine) := by
  cases fields with
  | nil => rfl
  | cons field fields =>
      obtain ⟨name, required, type⟩ := field
      rw [renderFields, fieldsNames, fieldsQuotedTexts, List.cons_append, List.all_cons,
        List.all_append, List.all_append, Text.isSingleLine_append, isSingleLine_fieldText,
        isSingleLine_render type, isSingleLine_renderFields fields]
      ac_rfl

end

end TypeExpr

namespace Declaration

/-- The text of a declaration without the line feed behind it. -/
def statement (declaration : Declaration) : Text :=
  "export type " ++ declaration.name ++ " = " ++ declaration.type.render ++ ";"

theorem line_eq_statement (declaration : Declaration) :
    declaration.line = declaration.statement ++ [.scalar '\n'] := by
  simp [line, statement, Text.ofString]

theorem isSingleLine_statement (declaration : Declaration) :
    declaration.statement.isSingleLine =
      (declaration.name.isSingleLine && declaration.type.render.isSingleLine) := by
  have opening : Text.isSingleLine "export type " = true := by decide
  have equals : Text.isSingleLine " = " = true := by decide
  have closing : Text.isSingleLine ";" = true := by decide
  simp [statement, opening, equals, closing]

theorem after?_statement (declaration : Declaration) :
    (declaration.statement.after? "export type ").isSome = true := by
  simp [statement, Text.after?_append]

theorem lines_flatMap_line {declarations : List Declaration}
    (single : ∀ declaration ∈ declarations, declaration.statement.isSingleLine = true) :
    Text.lines (declarations.flatMap line) = declarations.map statement := by
  induction declarations with
  | nil => rfl
  | cons declaration declarations induction =>
      have others := induction fun other member => single other (by simp [member])
      rw [List.flatMap_cons, line_eq_statement, List.append_assoc, List.singleton_append,
        Text.lines_append_lineFeed (single declaration (by simp)), others, List.map_cons]

/-- A module has one line for each declaration below its notice exactly if every declaration is
a single line. -/
theorem lines_moduleText_iff (declarations : List Declaration) :
    (moduleText declarations).lines = banner :: declarations.map statement ↔
      ∀ declaration ∈ declarations, declaration.statement.isSingleLine = true := by
  constructor
  · intro linesEq declaration member
    -- A statement with a line end would be no line of any text.
    have isLine : declaration.statement ∈ (moduleText declarations).lines := by
      rw [linesEq]
      exact List.mem_cons_of_mem _ (List.mem_map_of_mem member)
    exact Text.isSingleLine_of_mem_lines isLine
  · intro single
    have notice : banner.lineComment = banner := by decide
    have noticeSingle : banner.isSingleLine = true := by decide
    have text : moduleText declarations =
        banner ++ .scalar '\n' :: declarations.flatMap line := by
      simp [moduleText, notice, Text.ofString]
    rw [text, Text.lines_append_lineFeed noticeSingle, lines_flatMap_line single]

/-- Counting lines that export a type counts declarations if each of them is one line. -/
theorem countExports_eq_length {declarations : List Declaration} {output : Text}
    (linesEq : output.lines = banner :: declarations.map statement) :
    CommandLine.countExports output = declarations.length := by
  have notice : (banner.after? "export type ").isSome = false := by decide
  rw [CommandLine.countExports, linesEq, List.countP_cons_of_neg (by simp [notice]),
    List.countP_eq_length.mpr, List.length_map]
  intro line member
  obtain ⟨declaration, _declared, rfl⟩ := List.mem_map.mp member
  exact declaration.after?_statement

end Declaration

namespace Specification

/-- A specification that translates has an output. -/
theorem output_outcome_of_declarations_eq_ok {specification : Specification}
    {declarations : List Declaration} (selection : Selection)
    (translates : specification.declarations.outcome = .ok declarations) :
    (specification.output selection).outcome =
      .ok (Declaration.moduleText (selection.kept declarations)) := by
  simp [output, bind, Logged.bind, translates, Logged.reportAll, pure, Logged.pure]

end Specification

open CommandLine (countExports)

/-- Names are written as they are.  Where no text between quotation marks has a line end, the
output has one line for each kept declaration exactly if no name in them has a line end, and then
counting its exports counts the kept declarations. -/
theorem output_lines_eq_statements_iff {specification : Specification}
    {declarations : List Declaration} {selection : Selection}
    (translates : specification.declarations.outcome = .ok declarations)
    (quotedSingle : ∀ declaration ∈ selection.kept declarations,
      ∀ text ∈ declaration.type.quotedTexts, text.isSingleLine = true) :
    ∃ output, (specification.output selection).outcome = .ok output ∧
      (output.lines =
          Declaration.banner :: (selection.kept declarations).map Declaration.statement ↔
        ∀ declaration ∈ selection.kept declarations,
          ∀ name ∈ declaration.name :: declaration.type.names, name.isSingleLine = true) ∧
      ((∀ declaration ∈ selection.kept declarations,
          ∀ name ∈ declaration.name :: declaration.type.names, name.isSingleLine = true) →
        countExports output = (selection.kept declarations).length) := by
  have linesEq_iff :
      (Declaration.moduleText (selection.kept declarations)).lines =
          Declaration.banner :: (selection.kept declarations).map Declaration.statement ↔
        ∀ declaration ∈ selection.kept declarations,
          ∀ name ∈ declaration.name :: declaration.type.names, name.isSingleLine = true := by
    rw [Declaration.lines_moduleText_iff]
    refine forall₂_congr fun declaration kept => ?_
    have quoted : declaration.type.quotedTexts.all Text.isSingleLine = true :=
      List.all_eq_true.mpr (quotedSingle declaration kept)
    rw [Declaration.isSingleLine_statement, TypeExpr.isSingleLine_render, quoted, Bool.and_true,
      ← List.all_eq_true, List.all_cons]
  refine ⟨_, specification.output_outcome_of_declarations_eq_ok selection translates,
    linesEq_iff, fun namesSingle => ?_⟩
  exact Declaration.countExports_eq_length (linesEq_iff.mpr namesSingle)

/-- A specification of a type that admits two words. -/
def twoWords (name : Text) : Specification :=
  .swagger
    { swagger := "2.0", info := none
      definitions := some
        [(name,
          { reference := none, description := none, kind := some "string", format := none
            enumeration := some ["cat", "dog"], required := none, items := none
            properties := none, allOf := none })] }

/-- The declaration of that type. -/
def twoWordsDeclaration (name : Text) : Declaration :=
  { name, type := .union [.literal (.text "cat"), .literal (.text "dog")] }

/-- The output for two words under an ordinary name is two lines. -/
theorem twoWords_output_lines :
    ∃ output, ((twoWords "Pet").output {}).outcome = .ok output ∧
      output.lines = [Declaration.banner, (twoWordsDeclaration "Pet").statement] ∧
      countExports output = 1 := by
  have translates : (twoWords "Pet").declarations.outcome = .ok [twoWordsDeclaration "Pet"] := by
    rfl
  have kept : Selection.kept {} [twoWordsDeclaration "Pet"] = [twoWordsDeclaration "Pet"] := by
    rfl
  have quotedSingle : ∀ declaration ∈ Selection.kept {} [twoWordsDeclaration "Pet"],
      ∀ text ∈ declaration.type.quotedTexts, text.isSingleLine = true := by
    simp only [kept, ← List.all_eq_true]
    decide
  have namesSingle : ∀ declaration ∈ Selection.kept {} [twoWordsDeclaration "Pet"],
      ∀ name ∈ declaration.name :: declaration.type.names, name.isSingleLine = true := by
    simp only [kept, ← List.all_eq_true]
    decide
  obtain ⟨output, success, linesEq_iff, countEq⟩ :=
    output_lines_eq_statements_iff translates quotedSingle
  exact ⟨output, success, linesEq_iff.mpr namesSingle, countEq namesSingle⟩

/-- A line feed in a name makes two lines of a declaration, and here both export a type. -/
theorem lineFeed_in_name_counts_twice :
    ¬ ∀ (specification : Specification) (declarations : List Declaration) (selection : Selection),
      specification.declarations.outcome = .ok declarations →
        ∃ output, (specification.output selection).outcome = .ok output ∧
          output.lines =
            Declaration.banner :: (selection.kept declarations).map Declaration.statement ∧
          countExports output = (selection.kept declarations).length := by
  intro oneLineEach
  obtain ⟨output, success, _linesEq, countEq⟩ :=
    oneLineEach (twoWords "A\nexport type B") [twoWordsDeclaration "A\nexport type B"] {} (by rfl)
  have outputEq : .ok (Declaration.moduleText [twoWordsDeclaration "A\nexport type B"]) =
      (.ok output : Except OpenApi.LoweringFault Text) :=
    success
  have twice :
      countExports (Declaration.moduleText [twoWordsDeclaration "A\nexport type B"]) = 2 := by
    decide
  rw [Except.ok.inj outputEq, countEq] at twice
  exact absurd twice (by decide)

end ApiTypes
