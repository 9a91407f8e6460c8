import TagListing.Settings.Convert
/-!
Reading settings by key. There are two families. A plain getter takes the value without its origin
and converts it; its faults name neither key nor origin. A decoder reads the value in place; its
faults name both. A key that leads nowhere, or to nil, has no value.
-/
namespace TagListing

structure Settings where
  root : Settings.Tree
  deriving DecidableEq, Repr

namespace Settings
open TagListing.Numeric

mutual
def Tree.bare : Tree → Tree
  | .scalar _ v => .scalar none v
  | .list _ items => .list none (bareItems items)
  | .table _ es => .table none (bareEntries es)

def bareItems : List Tree → List Tree
  | [] => []
  | t :: rest => t.bare :: bareItems rest

def bareEntries : List (String × Tree) → List (String × Tree)
  | [] => []
  | (name, t) :: rest => (name, t.bare) :: bareEntries rest
end

abbrev Decoder (α : Type) := Tree → Except Fault α

/- A conversion that failed for want of the right kind names the key that was read. -/
def Fault.forKey (key : String) : Fault → Fault
  | .kind f => .kind { f with key := some key }
  | f => f

def get {α : Type} (decode : Decoder α) (s : Settings) (key : String) : Except Fault (Option α) :=
  match Path.parse key with
  | .error f => .error (.path f)
  | .ok p =>
    match p.find s.root with
    | none => .ok none
    | some t =>
      if t.isNil then .ok none
      else match decode t with
        | .ok a => .ok (some a)
        | .error f => .error (f.forKey key)

/-! ### Plain getters -/

def getValue (s : Settings) (key : String) : Except Fault (Option Tree) :=
  s.get (fun t => .ok t.bare) key

def convertSome {α β : Type} (f : α → Except Fault β) : Option α → Except Fault (Option β)
  | none => .ok none
  | some a => (f a).map some

def getText (s : Settings) (key : String) : Except Fault (Option String) := do
  convertSome Tree.asText (← s.getValue key)

def getInt (s : Settings) (key : String) : Except Fault (Option Int) := do
  convertSome Tree.asInt (← s.getValue key)

def getBool (s : Settings) (key : String) : Except Fault (Option Bool) := do
  convertSome Tree.asBool (← s.getValue key)

def getList (s : Settings) (key : String) : Except Fault (Option (List Tree)) := do
  convertSome Tree.asList (← s.getValue key)

def getTexts (s : Settings) (key : String) : Except Fault (Option (List String)) := do
  convertSome (convertAll Tree.asText) (← s.getList key)

/-! ### Decoders -/

namespace Decoder

def signed (bits : Nat) : Decoder Int := fun t => t.asInt.map (wrapSigned bits)

def unsigned (bits : Nat) : Decoder Int := fun t => t.asInt.map (wrapUnsigned bits)

def list {α : Type} (item : Decoder α) : Decoder (List α) := fun t =>
  match t with
  | .list _ items => convertAll item items
  | t => .error (.shape (.notSequence t.found))

def table {α : Type} (value : Decoder α) : Decoder (List (String × α)) := fun t =>
  match t with
  | .table _ es => convertAll (fun e => (value e.2).map fun a => (e.1, a)) es
  | t => .error (.shape (.notMap t.found))

end Decoder
end Settings
end TagListing
