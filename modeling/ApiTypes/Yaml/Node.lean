import ApiTypes.Yaml.Tag
import ApiTypes.Yaml.Token

/-!
# Nodes of a YAML document

The scalars, sequences and mappings that tokens spell.  Every node has a number,
and collections name their members by number.  An alias gives the number of the
node with its anchor once more, so that a node may be a member of several
collections, and of itself.

Reading is by descent, one function for each place in the grammar.  The fuel of
these functions bounds the number of nested calls; the number of tokens is
always enough for it.
-/

namespace ApiTypes.Yaml

/-- What a node is made of. -/
inductive Form where
  | scalar (content : Text)
  | sequence (items : List Nat)
  | mapping (entries : List (Nat × Nat))

structure Node where
  tag : Tag
  form : Form

/-- A document: its nodes in the order of their numbers, and the number of its root. -/
structure Document where
  nodes : Array Node
  root : Nat

namespace Node

/-- A node that is not written. -/
def absent : Node :=
  { tag := .null, form := .scalar [] }

instance : Inhabited Node := ⟨absent⟩

structure Reading where
  tokens : List Token
  /-- The nodes that have begun. -/
  nodes : Array Node
  /-- The anchors that have been passed, with the numbers of their nodes. -/
  anchors : List (Text × Nat)
  /-- The handles of tags and what they stand for. -/
  handles : List (Text × Text)

/-- Reading that keeps a state and may meet a fault. -/
abbrev Reader := StateT Reading (Except Fault)

namespace Reader

/-- The token at hand.  A fault in the text is met as soon as its token is looked at. -/
def peek : Reader Token := do
  match (← get).tokens with
  | .fault fault :: _ => throw fault
  | token :: _ => return token
  | [] => throw .malformed

/-- The reading goes on after the token at hand. -/
def skip : Reader Unit :=
  modify fun reading => { reading with tokens := reading.tokens.tail }

/-- The number of a new node, which its anchor names from now on.  No anchor names two nodes. -/
def newNode (anchor : Option Text) (node : Node) : Reader Nat := do
  let reading ← get
  let number := reading.nodes.size
  match anchor with
  | none => set { reading with nodes := reading.nodes.push node }
  | some name =>
      if (reading.anchors.lookup name).isSome then throw .malformed
      else
        set
          { reading with
            nodes := reading.nodes.push node
            anchors := (name, number) :: reading.anchors }
  return number

/-- The number of a collection, after its members are known. -/
def complete (number : Nat) (form : Form) : Reader Nat := do
  modify fun reading =>
    { reading with nodes := reading.nodes.modify number fun node => { node with form } }
  return number

/-- The number of the node that an anchor names. -/
def anchored (name : Text) : Reader Nat := do
  match (← get).anchors.lookup name with
  | some number => return number
  | none => throw .malformed

/-- The full name of a tag whose handle has been declared. -/
def tagName (handle : Option Text) (suffix : Text) : Reader Text := do
  match handle with
  | none => return suffix
  | some handle =>
      match (← get).handles.lookup handle with
      | some opening => return opening ++ suffix
      | none => throw .malformed

/-- The anchor and the tag before a node, each at most once and in either order. -/
def properties : Reader (Option Text × Option Text) := do
  match ← peek with
  | .anchor name =>
      skip
      match ← peek with
      | .tag handle suffix =>
          skip
          return (some name, some (← tagName handle suffix))
      | _ => return (some name, none)
  | .tag handle suffix =>
      skip
      match ← peek with
      | .anchor name =>
          skip
          return (some name, some (← tagName handle suffix))
      | _ => return (none, some (← tagName handle suffix))
  | _ => return (none, none)

/-- The tag of a collection: the one that is written, or the usual one. -/
def collectionTag (usual : Tag) : Option Text → Tag
  | none => usual
  | some name => if name = [.scalar '!'] then usual else Tag.ofName name

/-- The tag of a scalar: the one that is written, or that of its form if it is plain or its tag
is a lone exclamation mark. -/
def scalarTag (content : Text) (plain : Bool) : Option Text → Tag
  | none => if plain then Tag.ofPlain content else .text
  | some name => if name = [.scalar '!'] then Tag.ofPlain content else Tag.ofName name

end Reader

open Reader

/-- The kinds of places for a node. -/
inductive Place where
  /-- Inside a flow collection. -/
  | flow
  /-- Inside a block collection. -/
  | block
  /-- As a key or a value of a block mapping, where a sequence needs no indentation. -/
  | entry
  deriving DecidableEq

mutual

/-- A node. -/
def read (place : Place) : (fuel : Nat) → Reader Nat
  | 0 => throw .malformed
  | fuel + 1 => do
      match ← peek with
      | .alias name =>
          skip
          anchored name
      | _ =>
          let (anchor, tag) ← properties
          let newSequence : Reader Nat :=
            newNode anchor { tag := collectionTag .sequence tag, form := .sequence [] }
          let newMapping : Reader Nat :=
            newNode anchor { tag := collectionTag .mapping tag, form := .mapping [] }
          match ← peek with
          | .scalar content plain =>
              skip
              newNode anchor { tag := scalarTag content plain tag, form := .scalar content }
          | .flowSequenceStart =>
              skip
              let number ← newSequence
              complete number (.sequence (← readFlowItems true fuel))
          | .flowMappingStart =>
              skip
              let number ← newMapping
              complete number (.mapping (← readFlowEntries true fuel))
          | token =>
              if token = .blockSequenceStart ∧ place ≠ .flow then
                skip
                let number ← newSequence
                complete number (.sequence (← readBlockItems fuel))
              else if token = .blockMappingStart ∧ place ≠ .flow then
                skip
                let number ← newMapping
                complete number (.mapping (← readBlockEntries fuel))
              else if token = .blockEntry ∧ place = .entry then
                let number ← newSequence
                complete number (.sequence (← readPlainItems fuel))
              else if anchor.isSome || tag.isSome then
                newNode anchor { tag := scalarTag [] true tag, form := .scalar [] }
              else throw .malformed

/-- A node, unless one of the tokens that cannot begin one is at hand. -/
def readUnless (isStop : Token → Bool) (place : Place) : (fuel : Nat) → Reader Nat
  | 0 => throw .malformed
  | fuel + 1 => do
      if isStop (← peek) then newNode none absent else read place fuel

/-- The value behind a key; it may be absent. -/
def readValue (isStop : Token → Bool) (place : Place) : (fuel : Nat) → Reader Nat
  | 0 => throw .malformed
  | fuel + 1 => do
      if (← peek) = .value then
        skip
        readUnless isStop place fuel
      else newNode none absent

/-- The items of a block sequence, up to its end. -/
def readBlockItems : (fuel : Nat) → Reader (List Nat)
  | 0 => throw .malformed
  | fuel + 1 => do
      match ← peek with
      | .blockEntry =>
          skip
          let item ← readUnless (fun token => token = .blockEntry ∨ token = .blockEnd) .block fuel
          return item :: (← readBlockItems fuel)
      | .blockEnd =>
          skip
          return []
      | _ => throw .malformed

/-- The items of a sequence without indentation of its own. -/
def readPlainItems : (fuel : Nat) → Reader (List Nat)
  | 0 => throw .malformed
  | fuel + 1 => do
      match ← peek with
      | .blockEntry =>
          skip
          let item ←
            readUnless
              (fun token =>
                token = .blockEntry ∨ token = .key ∨ token = .value ∨ token = .blockEnd)
              .block fuel
          return item :: (← readPlainItems fuel)
      | _ => return []

/-- The entries of a block mapping, up to its end. -/
def readBlockEntries : (fuel : Nat) → Reader (List (Nat × Nat))
  | 0 => throw .malformed
  | fuel + 1 => do
      let isStop (token : Token) : Bool := token = .key ∨ token = .value ∨ token = .blockEnd
      match ← peek with
      | .key =>
          skip
          let key ← readUnless isStop .entry fuel
          let value ← readValue isStop .entry fuel
          return (key, value) :: (← readBlockEntries fuel)
      | .blockEnd =>
          skip
          return []
      | _ => throw .malformed

/-- The items of a flow sequence, up to its end.  An item with a key is a mapping of one
entry. -/
def readFlowItems (first : Bool) : (fuel : Nat) → Reader (List Nat)
  | 0 => throw .malformed
  | fuel + 1 => do
      if (← peek) = .flowSequenceEnd then
        skip
        return []
      else
        if !first then
          if (← peek) = .flowEntry then skip else throw .malformed
        let isStop (token : Token) : Bool := token = .flowEntry ∨ token = .flowSequenceEnd
        match ← peek with
        | .flowSequenceEnd =>
            skip
            return []
        | .key =>
            skip
            let number ← newNode none { tag := .mapping, form := .mapping [] }
            let key ← readUnless (fun token => token = .value ∨ isStop token) .flow fuel
            let value ← readValue isStop .flow fuel
            let item ← complete number (.mapping [(key, value)])
            return item :: (← readFlowItems false fuel)
        | _ =>
            let item ← read .flow fuel
            return item :: (← readFlowItems false fuel)

/-- The entries of a flow mapping, up to its end.  A node without a key token before it is a
key without a value. -/
def readFlowEntries (first : Bool) : (fuel : Nat) → Reader (List (Nat × Nat))
  | 0 => throw .malformed
  | fuel + 1 => do
      if (← peek) = .flowMappingEnd then
        skip
        return []
      else
        if !first then
          if (← peek) = .flowEntry then skip else throw .malformed
        let isStop (token : Token) : Bool := token = .flowEntry ∨ token = .flowMappingEnd
        match ← peek with
        | .flowMappingEnd =>
            skip
            return []
        | .key =>
            skip
            let key ← readUnless (fun token => token = .value ∨ isStop token) .flow fuel
            let value ← readValue isStop .flow fuel
            return (key, value) :: (← readFlowEntries false fuel)
        | _ =>
            let key ← read .flow fuel
            let value ← newNode none absent
            return (key, value) :: (← readFlowEntries false fuel)

end

def usualHandles : List (Text × Text) :=
  [("!", "!"), ("!!", Tag.standard)]

/-- The directives at hand: whether a version has been declared, and the handles. -/
def readDirectives (versioned : Bool) (handles : List (Text × Text)) :
    (fuel : Nat) → Reader (List (Text × Text))
  | 0 => throw .malformed
  | fuel + 1 => do
      match ← peek with
      | .versionDirective major =>
          if versioned || major != 1 then throw .malformed
          else
            skip
            readDirectives true handles fuel
      | .tagDirective handle opening =>
          if (handles.lookup handle).isSome then throw .malformed
          else
            skip
            readDirectives versioned ((handle, opening) :: handles) fuel
      | .otherDirective =>
          skip
          readDirectives versioned handles fuel
      | _ => return handles

/-- The reading goes on after marks of the end of a document. -/
def skipDocumentEnds : (fuel : Nat) → Reader Unit
  | 0 => throw .malformed
  | fuel + 1 => do
      if (← peek) = .documentEnd then
        skip
        skipDocumentEnds fuel

/-- The content of a document after its mark; it may be absent. -/
def readContent (fuel : Nat) : Reader Nat := do
  match ← peek with
  | .versionDirective _ => newNode none absent
  | .tagDirective _ _ => newNode none absent
  | .otherDirective => newNode none absent
  | .documentStart => newNode none absent
  | .documentEnd => newNode none absent
  | .streamEnd => newNode none absent
  | _ => read .block fuel

/-- A document with directives and a mark. -/
def readExplicit (fuel : Nat) : Reader Nat := do
  let declared ← readDirectives false [] fuel
  modify fun reading => { reading with handles := declared ++ usualHandles }
  if (← peek) = .documentStart then
    skip
    readContent fuel
  else throw .malformed

/-- The root of the document of a text, if there is one; a second document is a fault, which is
met behind its directives. -/
def readStream (fuel : Nat) : Reader (Option Nat) := do
  let isMark : Token → Bool
    | .versionDirective _ => true
    | .tagDirective _ _ => true
    | .otherDirective => true
    | .documentStart => true
    | _ => false
  match ← peek with
  | .streamEnd => return none
  | token =>
      let root ← if isMark token then readExplicit fuel else read .block fuel
      skipDocumentEnds fuel
      if (← peek) = .streamEnd then return some root
      else
        let _ ← readDirectives false [] fuel
        throw .malformed

end Node

/-- The document that tokens spell, if there is one. -/
def Document.ofTokens (tokens : List Token) : Except Fault (Option Document) := do
  let fuel := 4 * tokens.length + 16
  let start : Node.Reading :=
    { tokens, nodes := #[], anchors := [], handles := Node.usualHandles }
  let (root, reading) ← (Node.readStream fuel).run start
  return root.map fun root => { nodes := reading.nodes, root }

end ApiTypes.Yaml
