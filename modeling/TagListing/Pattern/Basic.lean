import TagListing.Pattern.CharSet
/-!
Patterns and the texts they are found in. A pattern is read as a step between places of a text: from
the places where it may begin to those where it may end. Only whether a pattern is found is of
interest, so nothing here prefers one way to match to another.
-/
namespace TagListing
open TagListing.Text (Sign)

inductive Anchor where
  | textStart
  | textEnd
  /- After a line end; with `returns` a carriage return ends a line as well. -/
  | lineStart (returns : Bool)
  | lineEnd (returns : Bool)
  /- Conditions on the words around the place, `word` being the characters of words. -/
  | wordEdge (word : CharSet)
  | noWordEdge (word : CharSet)
  | wordStart (word : CharSet)
  | wordEnd (word : CharSet)
  | noWordBefore (word : CharSet)
  | noWordAfter (word : CharSet)
  deriving DecidableEq, Repr

inductive Pattern where
  | nothing
  | one (s : CharSet)
  | anchor (a : Anchor)
  | seq (p q : Pattern)
  | either (p q : Pattern)
  | repeated (p : Pattern) (least : Nat) (most : Option Nat)
  deriving DecidableEq, Repr

namespace Anchor

def isLineFeed (s : Option Sign) : Bool := s == some (some '\n')

def isReturn (s : Option Sign) : Bool := s == some (some '\r')

def isOfWord (word : CharSet) : Option Sign → Bool
  | some s => word.holdsSign s
  | none => false

def holds (a : Anchor) (before after : Option Sign) : Bool :=
  match a with
  | .textStart => before.isNone
  | .textEnd => after.isNone
  | .lineStart returns =>
    before.isNone || isLineFeed before || (returns && isReturn before && !isLineFeed after)
  | .lineEnd returns =>
    after.isNone || (returns && isReturn after) ||
      (isLineFeed after && !(returns && isReturn before))
  | .wordEdge word => isOfWord word before != isOfWord word after
  | .noWordEdge word => isOfWord word before == isOfWord word after
  | .wordStart word => !isOfWord word before && isOfWord word after
  | .wordEnd word => isOfWord word before && !isOfWord word after
  | .noWordBefore word => !isOfWord word before
  | .noWordAfter word => !isOfWord word after

def holdsAt (a : Anchor) (text : Array Sign) (place : Nat) : Bool :=
  a.holds (if place = 0 then none else text[place - 1]?) text[place]?

end Anchor

namespace Pattern

def merge (a b : List Nat) : List Nat := a ++ b.filter fun place => !a.contains place

def iterate (step : List Nat → List Nat) : Nat → List Nat → List Nat
  | 0, places => places
  | n + 1, places =>
    let next := step places
    if next = places then places else iterate step n next

def spread (step : List Nat → List Nat) : Nat → List Nat → List Nat → List Nat
  | 0, found, _ => found
  | n + 1, found, fresh =>
    match (step fresh).filter fun place => !found.contains place with
    | [] => found
    | next => spread step n (found ++ next) next

/-- The places where a pattern may end that begins at one of these. Each round of an unlimited
repetition finds another place, so it needs no more rounds than there are places. -/
def ends (text : Array Sign) : Pattern → List Nat → List Nat
  | .nothing, places => places
  | .one s, places =>
    places.filterMap fun place =>
      match text[place]? with
      | some sign => if s.holdsSign sign then some (place + 1) else none
      | none => none
  | .anchor a, places => places.filter (a.holdsAt text)
  | .seq p q, places => ends text q (ends text p places)
  | .either p q, places => merge (ends text p places) (ends text q places)
  | .repeated p least most, places =>
    let first := iterate (ends text p) least places
    let more := match most with
      | some most => most - least
      | none => text.size + 1
    spread (ends text p) more first first

def isFoundIn (p : Pattern) (text : List Sign) : Bool :=
  !(ends text.toArray p (List.range (text.length + 1))).isEmpty

end Pattern
end TagListing
