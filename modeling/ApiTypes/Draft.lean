import ApiTypes.Data
import ApiTypes.TypeExpr

/-!
# Drafts of type expressions

Types that are put together by hand may have bare data in the place of a literal
or of a type, and records with two fields of one name.  `Draft.complete` gives
the type expression of a draft that has neither.
-/

namespace ApiTypes

/-- A literal put together by hand. -/
inductive LiteralDraft where
  | bare (content : Data)
  | null
  | text (content : Text)
  | boolean (value : Bool)
  | number (value : Double)
  | list (items : List LiteralDraft)
  | map (entries : List (LiteralDraft × LiteralDraft))

/-- A type put together by hand. -/
inductive Draft where
  | bare (content : Data)
  | array (element : Draft)
  | intersection (members : List Draft)
  | union (members : List Draft)
  | named (name : Text)
  | record (fields : List (Field Draft))
  | literal (value : LiteralDraft)

/-- Why a draft is not complete. -/
inductive DraftFault where
  /-- Bare data stands for a literal. -/
  | unknownLiteral (content : Data)
  /-- Bare data stands for a type. -/
  | unknownType (content : Data)

/-- The names of the fields of a record in which some name comes twice. -/
structure DuplicateFields where
  names : List Text

namespace DraftFault

def message : DraftFault → Text
  | .unknownLiteral content => "Unknown value variant: " ++ content.display
  | .unknownType content => "Unknown type variant: " ++ content.display

end DraftFault

namespace DuplicateFields

/-- The report of a name that comes twice. -/
def message (duplicate : DuplicateFields) : Text :=
  "Duplicate field names in record: " ++ Text.quotedList duplicate.names

end DuplicateFields

namespace LiteralDraft

mutual

/-- The literal of a draft, unless some part of it is bare data. -/
def complete : LiteralDraft → Except DraftFault Literal
  | .bare content => .error (.unknownLiteral content)
  | .null => .ok .null
  | .text content => .ok (.text content)
  | .boolean value => .ok (.boolean value)
  | .number value => .ok (.number value)
  | .list items => do return .list (← completeItems items)
  | .map entries => do return .map (← completeEntries entries)

def completeItems : List LiteralDraft → Except DraftFault (List Literal)
  | [] => .ok []
  | item :: items => do
      let literal ← complete item
      let literals ← completeItems items
      return literal :: literals

/-- The entries of a map, each key before its value. -/
def completeEntries :
    List (LiteralDraft × LiteralDraft) → Except DraftFault (List (Literal × Literal))
  | [] => .ok []
  | (key, value) :: entries => do
      let key ← complete key
      let value ← complete value
      let literals ← completeEntries entries
      return (key, value) :: literals

end

end LiteralDraft

namespace Draft

mutual

/-- The type of a draft, unless some part of it is bare data. -/
def complete : Draft → Except DraftFault TypeExpr
  | .bare content => .error (.unknownType content)
  | .array element => do return .array (← complete element)
  | .intersection members => do return .intersection (← completeMembers members)
  | .union members => do return .union (← completeMembers members)
  | .named name => .ok (.named name)
  | .record fields => do return .record (← completeFields fields)
  | .literal value => do return .literal (← value.complete)

def completeMembers : List Draft → Except DraftFault (List TypeExpr)
  | [] => .ok []
  | member :: members => do
      let type ← complete member
      let types ← completeMembers members
      return type :: types

def completeFields : List (Field Draft) → Except DraftFault (List (Field TypeExpr))
  | [] => .ok []
  | ⟨name, required, draft⟩ :: fields => do
      let type ← complete draft
      let completed ← completeFields fields
      return ⟨name, required, type⟩ :: completed

end

mutual

/-- The first bare data that stands for a type; literals are not looked at. -/
def bareType? : Draft → Option Data
  | .bare content => some content
  | .array element => bareType? element
  | .intersection members => bareMember? members
  | .union members => bareMember? members
  | .named _ => none
  | .record fields => bareField? fields
  | .literal _ => none

def bareMember? : List Draft → Option Data
  | [] => none
  | member :: members => (bareType? member).or (bareMember? members)

/-- The first bare data that stands for a type in the fields of a record. -/
def bareField? : List (Field Draft) → Option Data
  | [] => none
  | ⟨_, _, draft⟩ :: fields => (bareType? draft).or (bareField? fields)

end

mutual

/-- The first record in which a name comes twice; what stands inside a record comes before
it. -/
def duplicateFields? : Draft → Option DuplicateFields
  | .bare _ => none
  | .array element => duplicateFields? element
  | .intersection members => duplicateMember? members
  | .union members => duplicateMember? members
  | .named _ => none
  | .record fields =>
      let names := fields.map Field.name
      (duplicateField? fields).or (if names.Nodup then none else some { names })
  | .literal _ => none

def duplicateMember? : List Draft → Option DuplicateFields
  | [] => none
  | member :: members => (duplicateFields? member).or (duplicateMember? members)

/-- The first such record in the fields of a record. -/
def duplicateField? : List (Field Draft) → Option DuplicateFields
  | [] => none
  | ⟨_, _, draft⟩ :: fields => (duplicateFields? draft).or (duplicateField? fields)

end

/-- What is left of a draft after a filter, which looks at the types first and at the whole
afterwards. -/
def filtered (draft : Draft) (filter : TypeExpr → Option TypeExpr) :
    Except DraftFault (Option TypeExpr) :=
  match draft.bareType? with
  | some content => .error (.unknownType content)
  | none => draft.complete.map filter

end Draft

end ApiTypes
