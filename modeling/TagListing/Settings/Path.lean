import TagListing.Settings.Tree
/-!
Paths into a settings tree: a name, then fields and subscripts. `Path.parse` reports the fault of
the last thing it tried, which is always the subscript. `Path.find` follows a path; a missing name,
a wrong kind of value and an index outside the list all find nothing.
-/
namespace TagListing.Settings
open TagListing.Numeric

inductive Step where
  | field (name : String)
  | index (i : Int)
  deriving DecidableEq, Repr

structure Path where
  head : String
  steps : List Step
  deriving DecidableEq, Repr

inductive PathFault where
  | noName
  /- A character that starts no step, or a bracket that is not closed. -/
  | noBracket
  | noDigit
  | hugeIndex
  deriving DecidableEq, Repr

def isNameChar (c : Char) : Bool := c.isAlphanum || c = '_' || c = '-' || c = ' '

def isGap (c : Char) : Bool := c = ' ' || c = '\t'

def skipGaps (s : List Char) : List Char := s.dropWhile isGap

def readIndex (s : List Char) : Except PathFault (Int × List Char) :=
  let s := skipGaps s
  let (negative, s) := match s with
    | '-' :: r => (true, r)
    | r => (false, r)
  let digits := s.takeWhile Char.isDigit
  let rest := skipGaps (s.dropWhile Char.isDigit)
  if digits = [] then .error .noDigit
  else
    let n : Int := readDigits 0 digits
    let i := if negative then -n else n
    if !fitsInt64 i then .error .hugeIndex
    else match rest with
      | ']' :: rest => .ok (i, rest)
      | _ => .error .noBracket

def readSubscript : List Char → Except PathFault (Step × List Char)
  | '[' :: rest => (readIndex rest).map fun p => (.index p.1, p.2)
  | _ => .error .noBracket

/- One step: a field if a name follows the point, else what the subscript says. -/
def readStep (s : List Char) : Except PathFault (Step × List Char) :=
  match s with
  | '.' :: rest =>
    match rest.takeWhile isNameChar with
    | [] => readSubscript s
    | name => .ok (.field (String.ofList name), rest.dropWhile isNameChar)
  | _ => readSubscript s

def readSteps : Nat → List Char → Except PathFault (List Step)
  | _, [] => .ok []
  | 0, _ :: _ => .ok []
  | fuel + 1, s => do
    let (step, rest) ← readStep s
    let more ← readSteps fuel rest
    .ok (step :: more)

def Path.parse (s : String) : Except PathFault Path :=
  match s.toList.takeWhile isNameChar with
  | [] => .error .noName
  | name =>
    (readSteps s.length (s.toList.dropWhile isNameChar)).map (⟨String.ofList name, ·⟩)

def position? (i : Int) (length : Nat) : Option Nat :=
  if 0 ≤ i then (if i.toNat < length then some i.toNat else none)
  else if i.natAbs ≤ length then some (length - i.natAbs) else none

def Tree.step? (t : Tree) : Step → Option Tree
  | .field name => t.field? name
  | .index i => (position? i t.items.length).bind fun n => t.items[n]?

def Tree.follow : List Step → Tree → Option Tree
  | [], t => some t
  | s :: rest, t => (t.step? s).bind (follow rest)

def Path.find (p : Path) (root : Tree) : Option Tree :=
  (root.field? p.head).bind (Tree.follow p.steps)

end TagListing.Settings
