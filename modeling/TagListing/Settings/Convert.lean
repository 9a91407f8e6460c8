import TagListing.Settings.Fault
import TagListing.Text.Case
/-!
Conversions between kinds of settings. Scalars convert freely: words such as `yes` and `off` are
truth values and numbers, numbers are texts, and texts are numbers where they can be read as such.
A fault carries the origin of the value and no key.
-/
namespace TagListing.Settings
open TagListing.Numeric

def Tree.refuse {α : Type} (t : Tree) (wanted : Wanted) : Except Fault α :=
  .error (.kind ⟨t.found, wanted, none, t.origin⟩)

def truthWord (s : String) : Option Bool :=
  if s = "true" ∨ s = "on" ∨ s = "yes" then some true
  else if s = "false" ∨ s = "off" ∨ s = "no" then some false
  else none

def truthText (s : String) : Option Bool :=
  if s = "1" then some true else if s = "0" then some false else truthWord s

def Tree.asText (t : Tree) : Except Fault String :=
  match t with
  | .scalar _ (.text s) => .ok s
  | .scalar _ (.bool b) => .ok (if b then "true" else "false")
  | .scalar _ (.int i) => .ok (writeInt i)
  | .scalar _ (.float x) => .ok (DecimalForm.plain.write x)
  | t => t.refuse .text

def intOfBool (b : Bool) : Int := if b then 1 else 0

def intOfText (s : String) : Option Int :=
  match truthWord (Text.lower s) with
  | some b => some (intOfBool b)
  | none => readInt64 s.toList

def Tree.asInt (t : Tree) : Except Fault Int :=
  match t with
  | .scalar _ (.int i) => .ok i
  | .scalar _ (.bool b) => .ok (intOfBool b)
  | .scalar _ (.float x) => .ok (x.roundClamped int64Min int64Max)
  | .scalar o (.text s) =>
    match intOfText s with
    | some i => .ok i
    | none => (Tree.scalar o (.text s)).refuse .int
  | t => t.refuse .int

/- The refused text is shown in lower case, as it was compared. -/
def Tree.asBool (t : Tree) : Except Fault Bool :=
  match t with
  | .scalar _ (.bool b) => .ok b
  | .scalar _ (.int i) => .ok (i != 0)
  | .scalar _ (.float x) => .ok (!x.isZero)
  | .scalar o (.text s) =>
    match truthText (Text.lower s) with
    | some b => .ok b
    | none => (Tree.scalar o (.text (Text.lower s))).refuse .bool
  | t => t.refuse .bool

def floatOfBool (b : Bool) : Binary64 := if b then .ofNat 1 else .ofNat 0

def floatOfText (s : String) : Option Binary64 :=
  match truthWord (Text.lower s) with
  | some b => some (floatOfBool b)
  | none => readBinary64 s.toList

def Tree.asFloat (t : Tree) : Except Fault Binary64 :=
  match t with
  | .scalar _ (.float x) => .ok x
  | .scalar _ (.int i) => .ok (.ofInt i)
  | .scalar _ (.bool b) => .ok (floatOfBool b)
  | .scalar o (.text s) =>
    match floatOfText s with
    | some x => .ok x
    | none => (Tree.scalar o (.text s)).refuse .float
  | t => t.refuse .float

def Tree.asList (t : Tree) : Except Fault (List Tree) :=
  match t with
  | .list _ items => .ok items
  | t => t.refuse .list

def convertAll {α β : Type} (f : α → Except Fault β) : List α → Except Fault (List β)
  | [] => .ok []
  | a :: rest => do
    let b ← f a
    let more ← convertAll f rest
    .ok (b :: more)

end TagListing.Settings
