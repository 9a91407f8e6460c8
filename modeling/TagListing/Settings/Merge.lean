import TagListing.Settings.Fault
/-!
Merging. A table goes over what is there name by name, at every depth; any other value replaces
what is there. A table without entries leaves a scalar alone. The root names of a source are paths
where they can be read as such; a path makes the tables and lists that it needs. A subscript before
the start of a list has no place to write to.
-/
namespace TagListing.Settings

mutual
def Tree.over (below : Option Tree) : Tree → Tree
  | .table _ es => entriesOver (below.getD .emptyTable) es
  | t => t

def entriesOver (below : Tree) : List (String × Tree) → Tree
  | [] => below
  | (name, t) :: rest => entriesOver (below.put name (Tree.over (below.field? name) t)) rest
end

def padded (n : Nat) (items : List Tree) : List Tree :=
  items ++ List.replicate (n - items.length) .nil

/- A negative subscript counts from the end, and there is nothing before the start. -/
def writePosition (i : Int) (length : Nat) : Option Nat :=
  if 0 ≤ i then some i.toNat
  else if i.natAbs ≤ length then some (length - i.natAbs)
  else none

/- What is no list becomes a new one, long enough. -/
def Tree.putItem (i : Int) (change : Tree → Option Tree) (t : Tree) : Option Tree := do
  let (o, items) := match t with
    | .list o items => (o, items)
    | _ => (none, [])
  let n ← writePosition i items.length
  let items := padded (n + 1) items
  let item ← change (items.getD n .nil)
  some (.list o (items.set n item))

def Tree.assign (value : Tree) : Step → List Step → Tree → Option Tree
  | .field name, [], t => some (t.put name (Tree.over (t.field? name) value))
  | .index i, [], t => t.putItem i fun _ => some value
  | .field name, s :: rest, t => do
    let below ← Tree.assign value s rest ((t.field? name).getD .nil)
    some (t.put name below)
  | .index i, s :: rest, t => t.putItem i (Tree.assign value s rest)

def Tree.assignRoot (root : Tree) (key : String) (value : Tree) : Option Tree :=
  match Path.parse key with
  | .ok p => Tree.assign value (.field p.head) p.steps root
  | .error _ => Tree.assign value (.field key) [] root

def Tree.merge (root : Tree) (source : List (String × Tree)) : Option Tree :=
  source.foldlM (fun t e => t.assignRoot e.1 e.2) root

/- One layer over what is there. Nothing is merged of a layer that cannot be read. -/
def Tree.under (root : Tree) (layer : Except Fault (List (String × Tree))) : Except Fault Tree := do
  let es ← layer
  match root.merge es with
  | some t => .ok t
  | none => .error .overrun

end TagListing.Settings
