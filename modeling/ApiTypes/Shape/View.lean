import ApiTypes.Data

/-!
# Places of a document

Shapes are read at places.  Where no collection holds itself, a place is the data
that stands there.  Otherwise a place also knows the collections around it, which
places are told apart by their paths, and where a path comes back to a place
that is being read, reading ends.
-/

namespace ApiTypes.Shape

inductive SequenceKind where
  | list
  | tuple
  | set
  deriving DecidableEq

/-- What stands at a place, with the places right below it. -/
inductive Layer (Place : Type) where
  | scalar (content : Data)
  | sequence (kind : SequenceKind) (items : List Place)
  | mapping (entries : List (Data × Place))

/-- The places of a kind of documents. -/
class View (Place : Type) where
  /-- What stands at a place. -/
  layer : Place → Layer Place
  /-- The data of a place with all that is below it. -/
  data : Place → Data
  /-- The data that a message about a place shows. -/
  displayed : Place → Data
  /-- The place as it is seen while it is read, unless it is being read already. -/
  enter : Place → Option Place

instance : View Data where
  layer
    | .list items => .sequence .list items
    | .tuple items => .sequence .tuple items
    | .set items => .sequence .set items
    | .mapping entries => .mapping entries
    | content => .scalar content
  data place := place
  displayed place := place
  enter place := some place

/-- A place of a document in which a collection may hold a collection around it. -/
structure Cursor where
  content : Data
  /-- The indexes on the way to the place, the last one first. -/
  path : List Nat
  /-- The collections around the place with their paths, the nearest one first. -/
  around : List (Data × List Nat)
  /-- The paths of the places that are being read. -/
  reading : List (List Nat)

namespace Cursor

def root (content : Data) : Cursor :=
  { content, path := [], around := [], reading := [] }

/-- The place of a member of the collection at a place. -/
def member (cursor : Cursor) (index : Nat) (content : Data) : Cursor :=
  let around := (cursor.content, cursor.path) :: cursor.around
  match content with
  | .enclosing up =>
      match around.drop up with
      | (collection, path) :: farther =>
          { cursor with content := collection, path, around := farther }
      | [] => { cursor with content := .null, path := index :: cursor.path, around }
  | content => { cursor with content, path := index :: cursor.path, around }

/-- The places of the members of the collection at a place. -/
def members (cursor : Cursor) (contents : List Data) : List Cursor :=
  contents.mapIdx cursor.member

/-- Data with what it shows in a message: the collections around it come to light as far as it
holds them. -/
def displayedFrom (content : Data) : (around : List (Data × List Nat)) → Data
  | [] => content
  | (collection, _) :: farther =>
      if content.outward 0 = 0 then content else displayedFrom collection farther

instance : View Cursor where
  layer cursor :=
    match cursor.content with
    | .list items => .sequence .list (cursor.members items)
    | .tuple items => .sequence .tuple (cursor.members items)
    | .set items => .sequence .set (cursor.members items)
    | .mapping entries =>
        .mapping ((entries.map Prod.fst).zip (cursor.members (entries.map Prod.snd)))
    | content => .scalar content
  data cursor := cursor.content
  displayed cursor := displayedFrom cursor.content cursor.around
  enter cursor :=
    if cursor.reading.contains cursor.path then none
    else some { cursor with reading := cursor.path :: cursor.reading }

end Cursor

end ApiTypes.Shape
