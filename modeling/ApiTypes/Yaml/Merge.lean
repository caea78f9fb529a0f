import ApiTypes.Yaml.Node

/-!
# Merge keys

A merge key brings the entries of other mappings into its own.  Resolving a
mapping changes the document: the mappings it draws on are resolved on the way
and stay so.  A mapping that draws on itself finds only the entries that it has
at that moment, since a merge key is taken away before its source is looked at.
-/

namespace ApiTypes.Yaml.Document

def node (document : Document) (number : Nat) : Node :=
  document.nodes.getD number .absent

/-- The tag of the node with a number. -/
def tag (document : Document) (number : Nat) : Tag :=
  (document.node number).tag

/-- The entries of a mapping; other nodes have none. -/
def entries (document : Document) (number : Nat) : List (Nat × Nat) :=
  match (document.node number).form with
  | .mapping entries => entries
  | _ => []

def isMapping (document : Document) (number : Nat) : Bool :=
  match (document.node number).form with
  | .mapping _ => true
  | _ => false

/-- The number of all entries of mappings. -/
def entryCount (document : Document) : Nat :=
  document.nodes.foldl
    (fun count node =>
      match node.form with
      | .mapping entries => count + entries.length
      | _ => count)
    0

/-- The document in which a mapping has other entries. -/
def withEntries (document : Document) (number : Nat) (entries : List (Nat × Nat)) : Document :=
  { document with
    nodes := document.nodes.modify number fun node => { node with form := .mapping entries } }

/-- The document in which a key for the default value is a text. -/
def withTextKey (document : Document) (key : Nat) : Document :=
  if document.tag key = .defaultValue then
    { document with nodes := document.nodes.modify key fun node => { node with tag := .text } }
  else document

/-- An entry with a merge key. -/
def isMerge (document : Document) (entry : Nat × Nat) : Bool :=
  document.tag entry.1 = .merge

/-- The document after a mapping is resolved, of which some merge keys have brought the given
entries.  They come before its own; those of a sequence of mappings come from the last one to the
first.  Every step takes one merge key away, so their number bounds the nested calls. -/
def resolveFrom : (fuel : Nat) → (brought : List (Nat × Nat)) → (number : Nat) → Document →
    Except Fault Document
  | 0, _, _, _ => .error .malformed
  | fuel + 1, brought, number, document => do
      let entries := document.entries number
      match entries.find? document.isMerge with
      | none =>
          let settled := entries.foldl (fun document entry => document.withTextKey entry.1) document
          if brought.isEmpty then return settled
          else return settled.withEntries number (brought ++ entries)
      | some (_, source) =>
          let opened := document.withEntries number (entries.eraseP document.isMerge)
          let sources ←
            match (opened.node source).form with
            | .mapping _ => pure [source]
            | .sequence items => pure items
            | .scalar _ => .error .malformed
          let (more, resolved) ←
            sources.foldlM
              (fun (more, document) source =>
                if document.isMapping source then do
                  let resolved ← resolveFrom fuel [] source document
                  return (resolved.entries source ++ more, resolved)
                else .error .malformed)
              ([], opened)
          resolveFrom fuel (brought ++ more) number resolved

/-- A bound for the nested calls in which a mapping is resolved. -/
def resolutionBound (document : Document) (number : Nat) : Nat :=
  if (document.entries number).any document.isMerge then document.entryCount + 1 else 1

/-- The document after the merge keys of a mapping are resolved. -/
def resolve (document : Document) (number : Nat) : Except Fault Document :=
  resolveFrom (document.resolutionBound number) [] number document

end ApiTypes.Yaml.Document
