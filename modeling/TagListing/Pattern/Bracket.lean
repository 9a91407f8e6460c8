import TagListing.Pattern.Escape
/-!
Sets in brackets: characters, ranges, escapes, sets in brackets of their own, and three operations
on what stands before and after them, taken from the left. A caret in front turns the set round.
-/
namespace TagListing.Pattern

inductive SetOperation where
  | common
  | without
  | differing
  deriving DecidableEq, Repr

def SetOperation.apply (o : SetOperation) (a b : CharSet) : CharSet :=
  match o with
  | .common => .common a b
  | .without => .without a b
  | .differing => .differing a b

structure SetState where
  left : Option (CharSet × SetOperation)
  part : CharSet

namespace SetState

def start : SetState := ⟨none, .empty⟩

def add (st : SetState) (s : CharSet) : SetState := { st with part := .union st.part s }

def joined (m : Modes) (st : SetState) : CharSet :=
  match st.left with
  | none => m.fold st.part
  | some (a, o) => o.apply (m.fold a) (m.fold st.part)

def operate (m : Modes) (st : SetState) (o : SetOperation) : SetState :=
  ⟨some (st.joined m, o), .empty⟩

end SetState

def readColonClass (s : List Char) : Option (CharSet × List Char) :=
  match s with
  | ':' :: rest => do
    let (turned, rest) := match rest with
      | '^' :: rest => (true, rest)
      | rest => (false, rest)
    match rest.dropWhile (· ≠ ':') with
    | ':' :: ']' :: after => do
      let name := String.ofList (rest.takeWhile (· ≠ ':'))
      let found ← CharSet.colonClasses.find? (·.1 == name)
      some (if turned then .complement found.2 else found.2, after)
    | _ => none
  | _ => none

def readSetItem (m : Modes) : List Char → Option (Escape × List Char)
  | '\\' :: rest => readEscape m rest
  | c :: rest => some (.char c, rest)
  | [] => none

def mayHold (m : Modes) (c : Char) : Bool := !m.plain || c.toNat < 128

def itemSet (m : Modes) : Escape → Option CharSet
  | .char c => if mayHold m c then some (.single c) else none
  | .set s => some s
  | .anchor _ => none

/- Does a dash begin a range here? Before the closing bracket and before another dash it does
not. -/
def beginsRange (m : Modes) (s : List Char) : Bool :=
  match s with
  | '-' :: rest =>
    match m.skipGaps rest with
    | ']' :: _ => false
    | '-' :: _ => false
    | _ => true
  | _ => false

def readRange (m : Modes) (s : List Char) : Option (CharSet × List Char) := do
  let (first, rest) ← readSetItem m s
  let rest := m.skipGaps rest
  if beginsRange m rest then do
    let (last, rest) ← readSetItem m (m.skipGaps rest.tail)
    match first, last with
    | .char a, .char b =>
      if a ≤ b ∧ mayHold m a ∧ mayHold m b then some (.range a.toNat b.toNat, rest) else none
    | _, _ => none
  else do
    let s ← itemSet m first
    some (s, rest)

/- Dashes at the beginning of a set stand for themselves. -/
def leadingDashes (m : Modes) (st : SetState) : List Char → SetState × List Char
  | '-' :: rest => skip (st.add (.single '-')) rest
  | s => (st, s)
where
  skip (st : SetState) : List Char → SetState × List Char
    | [] => (st, [])
    | c :: rest =>
      if c = '-' ∨ (m.gaps ∧ TagListing.Text.isBlank c) then skip st rest else (st, c :: rest)

def closeSet (m : Modes) (turned : Bool) (st : SetState) : Option CharSet :=
  let s := m.fold (st.joined m)
  if turned then m.complement? s else some s

def openSet (m : Modes) (s : List Char) : Bool × SetState × List Char :=
  let (turned, s) := match m.skipGaps s with
    | '^' :: rest => (true, m.skipGaps rest)
    | s => (false, s)
  match leadingDashes m .start s with
  | (st, ']' :: rest) =>
    if s.head? = some ']' then (turned, st.add (.single ']'), m.skipGaps rest)
    else (turned, st, ']' :: rest)
  | (st, s) => (turned, st, s)

def readSet (m : Modes) : Nat → Bool → SetState → List Char → Option (CharSet × List Char)
  | 0, _, _, _ => none
  | fuel + 1, turned, st, s =>
    match m.skipGaps s with
    | [] => none
    | ']' :: rest => (closeSet m turned st).map (·, rest)
    | '[' :: rest =>
      match readColonClass rest with
      | some (found, rest) => readSet m fuel turned (st.add found) rest
      | none => do
        let (inside, first, rest) := openSet m rest
        let (found, rest) ← readSet m fuel inside first rest
        readSet m fuel turned (st.add found) rest
    | '&' :: '&' :: rest => readSet m fuel turned (st.operate m .common) rest
    | '-' :: '-' :: rest => readSet m fuel turned (st.operate m .without) rest
    | '~' :: '~' :: rest => readSet m fuel turned (st.operate m .differing) rest
    | s => do
      let (found, rest) ← readRange m s
      readSet m fuel turned (st.add found) rest

def readBracket (m : Modes) (s : List Char) : Option (CharSet × List Char) :=
  let (turned, st, rest) := openSet m s
  readSet m (2 * s.length + 2) turned st rest

end TagListing.Pattern
