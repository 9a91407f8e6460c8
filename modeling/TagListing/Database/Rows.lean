import TagListing.Database.Statement
import TagListing.Tag.Basic
/-!
Rows as tags and as texts. A cell is a text if its column is text-like, it is not NULL and its bytes
are UTF-8. The first cell of each row is the tag's name; one row without it fails the whole result.
-/
namespace TagListing.Database

def textTypes : List Nat := [25, 1043, 1042, 19, 705]

def cellText? (c : Column) (cell : Cell) : Option String :=
  if textTypes.contains c.type then
    cell.bind fun bytes => String.fromUTF8? ⟨bytes.toArray⟩
  else none

def unreadable : DatabaseError := ⟨none, "error retrieving column"⟩

def nameOf (columns : List Column) (row : List Cell) : Except DatabaseError String :=
  match columns, row with
  | c :: _, cell :: _ =>
    match cellText? c cell with
    | some name => .ok name
    | none => .error unreadable
  | _, _ => .error unreadable

def namesOf (columns : List Column) : List (List Cell) → Except DatabaseError (List String)
  | [] => .ok []
  | row :: rest => do
    let name ← nameOf columns row
    let more ← namesOf columns rest
    .ok (name :: more)

def tagsOf (r : Rows) : Except Failure (List Tag) :=
  match namesOf r.columns r.cells with
  | .ok names => .ok (names.map Tag.mk)
  | .error e => .error (.database e)

def Rows.texts (r : Rows) : List (List (Option String)) :=
  r.cells.map fun row => List.zipWith cellText? r.columns row

end TagListing.Database
