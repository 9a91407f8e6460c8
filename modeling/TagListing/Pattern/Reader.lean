import TagListing.Pattern.Bracket
/-!
The written form of patterns: literals, the dot, sets, anchors, groups with and without names,
alternatives, repetitions and modes. What looks ahead or behind and what refers back has no
meaning. A pattern is read as a whole or not at all.
-/
namespace TagListing.Pattern
open TagListing.Text

structure ReadState where
  rest : List Char
  modes : Modes
  names : List (List Char)

inductive Item where
  | pattern (p : Pattern)
  | modes

def beside (items : List Item) : Pattern :=
  items.foldl (fun p item => match item with
    | .pattern q => (match p with | .nothing => q | p => .seq q p)
    | .modes => p) .nothing

def closeItems (branches : Option Pattern) (items : List Item) : Pattern :=
  match branches with
  | none => beside items
  | some p => .either p (beside items)

/-! ### Repetitions -/

def maxCount : Nat := 4294967295

def readCount (m : Modes) (s : List Char) : Option (Nat × List Char) :=
  let s := skipBlanks s
  let (digits, rest) := collect s
  if digits = [] then none
  else
    let n := digits.foldl (fun n c => 10 * n + (c.toNat - '0'.toNat)) 0
    if n ≤ maxCount then some (n, m.skipGaps (skipBlanks rest)) else none
where
  collect : List Char → List Char × List Char
    | [] => ([], [])
    | c :: rest =>
      if c.isDigit then
        let (digits, rest) := collect rest
        (c :: digits, rest)
      else if m.gaps && isBlank c then collect rest
      else ([], c :: rest)

def readLimits (m : Modes) (s : List Char) : Option (Nat × Option Nat × List Char) := do
  let (least, rest) ← readCount m (m.skipGaps s)
  match rest with
  | '\x7d' :: rest => some (least, some least, rest)
  | ',' :: rest =>
    match m.skipGaps rest with
    | '\x7d' :: rest => some (least, none, rest)
    | rest => do
      let (most, rest) ← readCount m rest
      match rest with
      | '\x7d' :: rest => if least ≤ most then some (least, some most, rest) else none
      | _ => none
  | _ => none

/- A question mark after a repetition turns its preference round. -/
def skipPreference : List Char → List Char
  | '?' :: rest => rest
  | s => s

def readRepetition (m : Modes) : List Char → Option (Nat × Option Nat × List Char)
  | '?' :: rest => some (0, some 1, skipPreference rest)
  | '*' :: rest => some (0, none, skipPreference rest)
  | '+' :: rest => some (1, none, skipPreference rest)
  | '\x7b' :: rest => do
    let (least, most, rest) ← readLimits m rest
    some (least, most, skipPreference (m.skipGaps rest))
  | _ => none

def isRepetition (c : Char) : Bool := c = '?' || c = '*' || c = '+' || c = '\x7b'

def repeatLast (least : Nat) (most : Option Nat) : List Item → Option (List Item)
  | .pattern p :: items => some (.pattern (.repeated p least most) :: items)
  | _ => none

/-! ### Modes and names -/

/- Modes up to a colon or a closing bracket, which is returned. No letter may be given twice, and
a dash needs a letter after it. -/
def readModes (on : Bool) (seen : List Char) (m : Modes) :
    List Char → Option (Modes × Char × List Char)
  | [] => none
  | c :: rest =>
    if c = ':' ∨ c = ')' then
      if seen.head? = some '-' then none else some (m, c, rest)
    else if c ∈ seen then none
    else if c = '-' then readModes false (c :: seen) m rest
    else do
      let m ← m.set? c on
      readModes on (c :: seen) m rest

def isNameStart (c : Char) : Bool := c = '_' || isAlphabetic c

def isNameChar (c : Char) : Bool :=
  c = '_' || c = '.' || c = '[' || c = ']' || isAlphanumeric c

def readName (s : List Char) : Option (List Char × List Char) :=
  match s.dropWhile (· ≠ '>') with
  | _ :: rest =>
    match s.takeWhile (· ≠ '>') with
    | c :: name => if isNameStart c ∧ name.all isNameChar then some (c :: name, rest) else none
    | [] => none
  | [] => none

inductive GroupStart where
  | group (m : Modes)
  | modes (m : Modes)

def looksAround : List Char → Bool
  | '?' :: '=' :: _ => true
  | '?' :: '!' :: _ => true
  | '?' :: '<' :: '=' :: _ => true
  | '?' :: '<' :: '!' :: _ => true
  | _ => false

def readGroupName (st : ReadState) (s : List Char) : Option (GroupStart × ReadState) := do
  let (name, rest) ← readName s
  if name ∈ st.names then none
  else some (.group st.modes, { st with rest := rest, names := name :: st.names })

def readGroupStart (st : ReadState) : Option (GroupStart × ReadState) :=
  let s := st.modes.skipGaps st.rest
  if looksAround s then none
  else match s with
  | '?' :: 'P' :: '<' :: rest => readGroupName st rest
  | '?' :: '<' :: rest => readGroupName st rest
  | '?' :: rest => do
    let (m, mark, after) ← readModes true [] st.modes rest
    if mark = ':' then some (.group m, { st with rest := after })
    else if rest.head? = some ')' then none
    else some (.modes m, { st with rest := after })
  | s => some (.group st.modes, { st with rest := s })

/-! ### Patterns -/

def readPlain (m : Modes) (c : Char) (rest : List Char) : Option (Pattern × List Char) :=
  match c with
  | '\\' => do
    let (e, rest) ← readEscape m rest
    match e with
    | .char c => some (.one (m.literal c), rest)
    | .set s => some (.one s, rest)
    | .anchor a => some (.anchor a, rest)
  | '.' => m.dot?.map fun s => (.one s, rest)
  | '^' => some (.anchor m.startAnchor, rest)
  | '$' => some (.anchor m.endAnchor, rest)
  | '[' => (readBracket m rest).map fun p => (.one p.1, p.2)
  | c => some (.one (m.literal c), rest)

/-- Alternatives up to the end of the group or of the text, with a bound on the items. Modes that
are set in a group end with it. -/
def readItems : Nat → Bool → ReadState → Option Pattern → List Item → Option (Pattern × ReadState)
  | 0, _, _, _, _ => none
  | fuel + 1, inGroup, st, branches, items =>
    match st.modes.skipGaps st.rest with
    | [] => if inGroup then none else some (closeItems branches items, { st with rest := [] })
    | c :: rest =>
      if c = ')' then
        if inGroup then some (closeItems branches items, { st with rest := rest }) else none
      else if c = '|' then
        readItems fuel inGroup { st with rest := rest } (some (closeItems branches items)) []
      else if c = '(' then do
        let (start, inside) ← readGroupStart { st with rest := rest }
        match start with
        | .modes m =>
          readItems fuel inGroup { inside with modes := m } branches (.modes :: items)
        | .group m => do
          let (p, after) ← readItems fuel true { inside with modes := m } none []
          readItems fuel inGroup { after with modes := st.modes } branches (.pattern p :: items)
      else if isRepetition c then do
        let (least, most, rest) ← readRepetition st.modes (c :: rest)
        let items ← repeatLast least most items
        readItems fuel inGroup { st with rest := rest } branches items
      else do
        let (p, rest) ← readPlain st.modes c rest
        readItems fuel inGroup { st with rest := rest } branches (.pattern p :: items)

def read (s : List Char) : Option Pattern :=
  (readItems (s.length + 1) false ⟨s, {}, []⟩ none []).map (·.1)

/-! ### Literal text -/

def isMeta (c : Char) : Bool :=
  ['\\', '.', '+', '*', '?', '(', ')', '|', '[', ']', '\x7b', '\x7d', '^', '$', '#', '&', '-',
    '~'].contains c

def escaped (s : List Char) : List Char :=
  s.flatMap fun c => if isMeta c then ['\\', c] else [c]

end TagListing.Pattern
