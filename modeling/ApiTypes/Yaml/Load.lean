import ApiTypes.Yaml.Merge
import ApiTypes.Yaml.Scalar
import ApiTypes.Yaml.Token.Scan

/-!
# Loading YAML

The data that the nodes of a document stand for.

Nodes become values level by level: the members of all collections at one depth
come before those of any deeper one, and a node that is reached again keeps the
value it has.  This order decides which of several faults is met, and what a
mapping finds in another one that it merges in, since merge keys are resolved
when the members of their mapping are due.

A set yields its members in an order of its own, which the text does not tell.
-/

namespace ApiTypes.Yaml

/-- A collection whose members are nodes; keys are scalars. -/
inductive Collection where
  | list (items : List Nat)
  | pairs (pairs : List (Nat × Nat))
  | set (members : List Scalar)
  | mapping (entries : List (Scalar × Nat))

/-- The entries of a mapping after one more: the same key keeps its place and gets the new
value. -/
def Collection.insertEntry (key : Scalar) (value : Nat) :
    List (Scalar × Nat) → List (Scalar × Nat)
  | [] => [(key, value)]
  | (present, old) :: entries =>
      if present.sameKey key then (present, value) :: entries
      else (present, old) :: insertEntry key value entries

/-- What a node has become. -/
inductive Value where
  | scalar (scalar : Scalar)
  | collection (collection : Collection)

/-- The state of loading. -/
structure Loading where
  document : Document
  /-- The values of the nodes by number. -/
  values : Array (Option Value)
  /-- The collections whose members are still to come, the last one first. -/
  reached : List Nat

/-- Loading that keeps a state and may meet a fault. -/
abbrev Loader := StateT Loading (Except Fault)

/-- A tag that makes a value from the text of a node. -/
def Tag.takesText : Tag → Bool
  | .null | .boolean | .integer | .float | .binary | .timestamp | .text => true
  | _ => false

namespace Document

/-- The text of a node that stands where a scalar is wanted: a scalar, or a mapping with a
default value. -/
def scalarText (document : Document) : (fuel : Nat) → (number : Nat) → Except Fault Text
  | 0, _ => .error .endless
  | fuel + 1, number =>
      match (document.node number).form with
      | .scalar content => .ok content
      | .sequence _ => .error .malformed
      | .mapping entries =>
          match entries.find? fun entry => document.tag entry.1 = .defaultValue with
          | none => .error .malformed
          | some (_, value) => document.scalarText fuel value

/-- What a node becomes when it is reached: a scalar, or a collection without members. -/
def valueOf (document : Document) (number : Nat) : Except Fault Value := do
  match document.tag number with
  | .sequence => return .collection (.list [])
  | .orderedMap => return .collection (.pairs [])
  | .pairs => return .collection (.pairs [])
  | .set => return .collection (.set [])
  | .mapping => return .collection (.mapping [])
  | tag =>
      if tag.takesText then
        let content ← document.scalarText (document.nodes.size + 1) number
        if tag = .timestamp && document.isMapping number then throw .timestampMapping
        else return .scalar (← Scalar.ofContent number tag content)
      else throw .malformed

end Document

namespace Loader

/-- The value of a node, which it gets when it is reached for the first time. -/
def reach (number : Nat) : Loader Value := do
  match ((← get).values[number]?).join with
  | some value => return value
  | none =>
      let value ← (← get).document.valueOf number
      modify fun loading =>
        { loading with
          values := loading.values.setIfInBounds number (some value)
          reached :=
            match value with
            | .scalar _ => loading.reached
            | .collection _ => number :: loading.reached }
      return value

/-- The items of a sequence; other nodes have none. -/
def items (number : Nat) : Loader (List Nat) := do
  match ((← get).document.node number).form with
  | .sequence items => return items
  | _ => throw .malformed

def list (number : Nat) : Loader (List Nat) := do
  let items ← items number
  items.forM fun item => discard (reach item)
  return items

/-- The members of a list of pairs, each of which is a mapping with one entry. -/
def pairs (number : Nat) : Loader (List (Nat × Nat)) := do
  (← items number).mapM fun item => do
    match (← get).document.entries item with
    | [(key, value)] =>
        discard (reach key)
        discard (reach value)
        return (key, value)
    | _ => throw .malformed

/-- The entries of a mapping after its merge keys are resolved. -/
def entries (number : Nat) : Loader (List (Scalar × Nat)) := do
  let loading ← get
  if loading.document.isMapping number then
    let document ← loading.document.resolve number
    set { loading with document }
    (document.entries number).foldlM
      (fun entries (key, value) => do
        match ← reach key with
        | .scalar key =>
            discard (reach value)
            return Collection.insertEntry key value entries
        | .collection _ => throw .malformed)
      []
  else throw .malformed

/-- A collection gets its members. -/
def fill (number : Nat) : Loader Unit := do
  let collection ←
    match (← get).document.tag number with
    | .set => do pure (Collection.set ((← entries number).map Prod.fst))
    | .mapping => do pure (Collection.mapping (← entries number))
    | .orderedMap => do pure (Collection.pairs (← pairs number))
    | .pairs => do pure (Collection.pairs (← pairs number))
    | _ => do pure (Collection.list (← list number))
  modify fun loading =>
    { loading with
      values := loading.values.setIfInBounds number (some (.collection collection)) }

/-- All collections that have been reached get their members, and so do those that are reached
on the way.  There are at most as many levels as nodes. -/
def fillLevels : (fuel : Nat) → Loader Unit
  | 0 => return
  | fuel + 1 => do
      let level := (← get).reached.reverse
      modify fun loading => { loading with reached := [] }
      level.forM fill
      if level.isEmpty then return else fillLevels fuel

end Loader

/-- The orders in which the sets of a document yield their members, by the numbers of their
nodes. -/
structure SetOrder where
  arrange : Nat → List Data → List Data
  perm (number : Nat) (members : List Data) : (arrange number members).Perm members

/-- All sets yield their members in the order in which they came. -/
def SetOrder.given : SetOrder where
  arrange _ members := members
  perm _ members := .refl members

/-- Where a collection stands among those around it; `none` marks one that nothing refers to. -/
abbrev Path := List (Option Nat)

/-- The data of a node below the collections on a path.  No path holds a node twice, so that the
number of nodes bounds the nested calls. -/
def assemble (order : SetOrder) (values : Array (Option Value)) :
    (fuel : Nat) → Path → (number : Nat) → Data
  | 0, _, _ => .null
  | fuel + 1, path, number =>
      match values[number]?.join with
      | none => .null
      | some (.scalar scalar) => scalar.data
      | some (.collection collection) =>
          match path.idxOf? (some number) with
          | some up => .enclosing up
          | none =>
              let inner : Path := some number :: path
              match collection with
              | .list items => .list (items.map (assemble order values fuel inner))
              | .pairs pairs =>
                  let member := assemble order values fuel (none :: inner)
                  .list (pairs.map fun (key, value) => .tuple [member key, member value])
              | .set members => .set (order.arrange number (members.map Scalar.data))
              | .mapping entries =>
                  .mapping
                    (entries.map fun (key, value) =>
                      (key.data, assemble order values fuel inner value))

/-- The data of a document. -/
def Document.load (order : SetOrder) (document : Document) : Except Fault Data := do
  let count := document.nodes.size
  let start : Loading := { document, values := Array.replicate count none, reached := [] }
  let (_, reached) ← (Loader.reach document.root).run start
  let (_, loaded) ← (Loader.fillLevels (count + 1)).run reached
  return assemble order loaded.values (count + 1) [] document.root

def load (order : SetOrder) (text : Text) : Except Fault Data := do
  match ← Document.ofTokens (Token.ofText text) with
  | none => return .null
  | some document => document.load order

end ApiTypes.Yaml
