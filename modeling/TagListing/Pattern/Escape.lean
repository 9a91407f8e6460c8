import TagListing.Pattern.Basic
import TagListing.Text.Hex
/-!
Modes of a pattern and what a backslash means in it. An escape stands for a character, a set of
characters or a condition on a place; one without a meaning makes the whole pattern unreadable.
-/
namespace TagListing.Pattern
open TagListing.Text

structure Modes where
  anyCase : Bool := false
  /- The line anchors stand at every line. -/
  multiline : Bool := false
  /- The dot takes line ends as well. -/
  dotAll : Bool := false
  /- Blanks and comments are passed over. -/
  gaps : Bool := false
  /- Classes have characters of the first 128 only. -/
  plain : Bool := false
  /- A carriage return ends a line as well. -/
  returns : Bool := false
  deriving DecidableEq, Repr

namespace Modes

/- Sets the mode of a letter. Which of several ways to match is taken first is no mode here. -/
def set? (m : Modes) (letter : Char) (on : Bool) : Option Modes :=
  match letter with
  | 'i' => some { m with anyCase := on }
  | 'm' => some { m with multiline := on }
  | 's' => some { m with dotAll := on }
  | 'x' => some { m with gaps := on }
  | 'u' => some { m with plain := !on }
  | 'R' => some { m with returns := on }
  | 'U' => some m
  | _ => none

def fold (m : Modes) (s : CharSet) : CharSet :=
  if !m.anyCase then s
  else if m.plain then .common (.range 0 0x7F) (.anyCase s)
  else .anyCase s

def literal (m : Modes) (c : Char) : CharSet :=
  if m.plain && 128 ≤ c.toNat then .single c else m.fold (.single c)

def wordSet (m : Modes) : CharSet := if m.plain then .plainWord else .named .wordChar

def digitSet (m : Modes) : CharSet := if m.plain then .digits else .named .digit

def blankSet (m : Modes) : CharSet := if m.plain then .plainBlank else .named .blank

/- What is left out of a set. Without the other characters there is nothing to choose from. -/
def complement? (m : Modes) (s : CharSet) : Option CharSet :=
  if m.plain then none else some (.complement s)

def dot? (m : Modes) : Option CharSet :=
  if m.dotAll then m.complement? .empty
  else m.complement? (if m.returns then .ofChars ['\r', '\n'] else .single '\n')

def startAnchor (m : Modes) : Anchor := if m.multiline then .lineStart m.returns else .textStart

def endAnchor (m : Modes) : Anchor := if m.multiline then .lineEnd m.returns else .textEnd

def skipGaps (m : Modes) (s : List Char) : List Char := if m.gaps then skip false s else s
where
  skip : Bool → List Char → List Char
    | _, [] => []
    | true, c :: rest => skip (c ≠ '\n') rest
    | false, c :: rest =>
      if isBlank c then skip false rest
      else if c = '#' then skip true rest
      else c :: rest

end Modes

inductive Escape where
  | char (c : Char)
  | set (s : CharSet)
  | anchor (a : Anchor)
  deriving DecidableEq, Repr

def isEscapable (c : Char) : Bool :=
  c.toNat < 128 && !c.isAlphanum && c ≠ '<' && c ≠ '>'

def hexNumber? (digits : List Char) : Option Nat :=
  digits.foldlM (fun n c => (hexValue? c).map (16 * n + ·)) 0

def charOfHex? (digits : List Char) : Option Char := do
  let n ← hexNumber? digits
  if n.isValidChar ∧ digits ≠ [] then some (Char.ofNat n) else none

/- A code point in braces or in so many digits. In plain mode two digits name a single byte. -/
def readHex (m : Modes) (digits : Nat) (s : List Char) : Option (Escape × List Char) :=
  match s with
  | '\x7b' :: rest => do
    let (inside, rest) ← cutAtBrace rest
    let c ← charOfHex? inside
    some (.char c, rest)
  | s => do
    let c ← charOfHex? (s.take digits)
    if s.length < digits ∨ (m.plain ∧ digits = 2 ∧ 128 ≤ c.toNat) then none
    else some (.char c, s.drop digits)
where
  cutAtBrace (s : List Char) : Option (List Char × List Char) :=
    match s.dropWhile (· ≠ '\x7d') with
    | _ :: rest => some (s.takeWhile (· ≠ '\x7d'), rest)
    | [] => none

def plainName (s : List Char) : String :=
  String.ofList ((s.filter fun c => c ≠ ' ' ∧ c ≠ '_' ∧ c ≠ '-').map Char.toLower)

def classNamed? (s : List Char) : Option CharSet :=
  (CharSet.bracedClasses.find? (·.1 == plainName s)).map (·.2)

def readClass (m : Modes) (turned : Bool) (s : List Char) : Option (Escape × List Char) :=
  if m.plain then none
  else match s with
  | '\x7b' :: rest => do
    let (inside, rest) ← readHex.cutAtBrace rest
    match inside with
    | '^' :: name => do
      let found ← classNamed? name
      finish (!turned) found rest
    | name => do
      let found ← classNamed? name
      finish turned found rest
  | c :: rest => do
    let found ← classNamed? [c]
    finish turned found rest
  | [] => none
where
  finish (turned : Bool) (found : CharSet) (rest : List Char) : Option (Escape × List Char) :=
    let found := m.fold found
    some (.set (if turned then .complement found else found), rest)

def namedEdges (word : CharSet) : List (String × Anchor) := [
  ("start", .wordStart word), ("end", .wordEnd word), ("start-half", .noWordBefore word),
  ("end-half", .noWordAfter word)]

/- An edge of a word. What follows in braces names the edge if it begins with a letter or a dash,
else it is a count. -/
def readEdge (m : Modes) (s : List Char) : Option (Escape × List Char) :=
  match s with
  | '\x7b' :: c :: rest =>
    if c.isAlpha ∨ c = '-' then do
      let (inside, rest) ← readHex.cutAtBrace (c :: rest)
      let edge ← (namedEdges m.wordSet).find? (·.1 == String.ofList inside)
      some (.anchor edge.2, rest)
    else some (.anchor (.wordEdge m.wordSet), s)
  | s => some (.anchor (.wordEdge m.wordSet), s)

def readTurned (m : Modes) (s : CharSet) (rest : List Char) : Option (Escape × List Char) :=
  (m.complement? s).map fun s => (.set s, rest)

def readEscape (m : Modes) : List Char → Option (Escape × List Char)
  | [] => none
  | c :: rest =>
    match c with
    | 'x' => readHex m 2 rest
    | 'u' => readHex m 4 rest
    | 'U' => readHex m 8 rest
    | 'p' => readClass m false rest
    | 'P' => readClass m true rest
    | 'd' => some (.set m.digitSet, rest)
    | 's' => some (.set m.blankSet, rest)
    | 'w' => some (.set m.wordSet, rest)
    | 'D' => readTurned m m.digitSet rest
    | 'S' => readTurned m m.blankSet rest
    | 'W' => readTurned m m.wordSet rest
    | 'a' => some (.char '\x07', rest)
    | 'f' => some (.char '\x0c', rest)
    | 't' => some (.char '\t', rest)
    | 'n' => some (.char '\n', rest)
    | 'r' => some (.char '\r', rest)
    | 'v' => some (.char '\x0b', rest)
    | 'A' => some (.anchor .textStart, rest)
    | 'z' => some (.anchor .textEnd, rest)
    | 'b' => readEdge m rest
    | 'B' => some (.anchor (.noWordEdge m.wordSet), rest)
    | '<' => some (.anchor (.wordStart m.wordSet), rest)
    | '>' => some (.anchor (.wordEnd m.wordSet), rest)
    | c => if isEscapable c then some (.char c, rest) else none

end TagListing.Pattern
