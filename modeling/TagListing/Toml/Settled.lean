import TagListing.Toml.Value
import TagListing.Toml.Moment
/-!
Settled values: the names of a table differ, at every depth. One name is reserved: a table whose
first entry has it stands for the moment which the text there spells, and what follows in that table
is not looked at. After another name the reserved one is a name like any other.
-/
namespace TagListing.Toml

def momentKey : String := "$__toml_private_datetime"

def Value.spelled : Value → Option Value
  | .text s => (normalMoment s.toList).map .moment
  | _ => none

def leadingMoment? : Entries → Option Value
  | (key, v) :: _ => if key = momentKey then some v else none
  | [] => none

mutual
def Value.settled : Value → Option Value
  | .list items => (itemsSettled items).map .list
  | .table _ es =>
    match leadingMoment? es with
    | some v => v.spelled
    | none => (entriesSettled es).map (.table false)
  | v => some v

def itemsSettled : List Value → Option (List Value)
  | [] => some []
  | v :: rest => do
    let v ← v.settled
    let more ← itemsSettled rest
    some (v :: more)

def entriesSettled : List (String × Value) → Option (List (String × Value))
  | [] => some []
  | (key, v) :: rest => do
    let v ← v.settled
    let es ← entriesSettled rest
    if hasEntry key es then none else some ((key, v) :: es)
end

end TagListing.Toml
