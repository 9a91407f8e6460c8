import TagListing.Json.Value
import TagListing.Text.Hex
/-!
The JSON reader. Every function takes the characters that follow and returns what it read and the
rest, or the first fault met. A loop is bounded by the number of characters that follow. A value
that is not wanted is skimmed: its shape is checked, its numbers and escapes are not evaluated.
-/
namespace TagListing.Json
open TagListing.Numeric
open TagListing.Text (hexValue?)

def isBlank (c : Char) : Bool := c = ' ' || c = '\n' || c = '\t' || c = '\r'

def skipBlank (s : List Char) : List Char := s.dropWhile isBlank

inductive Care where
  | keep
  | skim
  deriving DecidableEq, Repr

def word : List Char → List Char → Except Fault (List Char)
  | [], s => .ok s
  | _ :: _, [] => .error .truncated
  | w :: ws, c :: s => if w = c then word ws s else .error .malformed

/-! ### Text -/

def fewerThanFourBytes (s : List Char) : Bool :=
  (s.take 4).foldl (fun n c => n + c.utf8Size) 0 < 4

def hexUnit (s : List Char) : Except Fault (Nat × List Char) :=
  if fewerThanFourBytes s then .error .truncated
  else match s with
    | a :: b :: c :: d :: rest =>
      match hexValue? a, hexValue? b, hexValue? c, hexValue? d with
      | some a, some b, some c, some d => .ok (((a * 16 + b) * 16 + c) * 16 + d, rest)
      | _, _, _, _ => .error .malformed
    | _ => .error .malformed

def expect (c : Char) : List Char → Except Fault (List Char)
  | [] => .error .truncated
  | d :: rest => if c = d then .ok rest else .error .malformed

/- The code point after `\u`: one unit, or a high and a low one. A unit of a pair that stands
alone is a fault. -/
def codePoint (s : List Char) : Except Fault (Char × List Char) := do
  let (n, rest) ← hexUnit s
  if 0xDC00 ≤ n ∧ n ≤ 0xDFFF then .error .malformed
  else if 0xD800 ≤ n ∧ n ≤ 0xDBFF then
    let rest ← expect '\\' rest
    let rest ← expect 'u' rest
    let (m, rest) ← hexUnit rest
    if 0xDC00 ≤ m ∧ m ≤ 0xDFFF then
      .ok (Char.ofNat ((n - 0xD800) * 0x400 + (m - 0xDC00) + 0x10000), rest)
    else .error .malformed
  else .ok (Char.ofNat n, rest)

def escape (care : Care) : List Char → Except Fault (Char × List Char)
  | [] => .error .truncated
  | '"' :: rest => .ok ('"', rest)
  | '\\' :: rest => .ok ('\\', rest)
  | '/' :: rest => .ok ('/', rest)
  | 'b' :: rest => .ok ('\x08', rest)
  | 'f' :: rest => .ok ('\x0c', rest)
  | 'n' :: rest => .ok ('\n', rest)
  | 'r' :: rest => .ok ('\r', rest)
  | 't' :: rest => .ok ('\t', rest)
  | 'u' :: rest =>
    match care with
    | .keep => codePoint rest
    | .skim => (hexUnit rest).map fun p => (Char.ofNat 0xFFFD, p.2)
  | _ :: _ => .error .malformed

def textBody (care : Care) : Nat → List Char → Except Fault (List Char × List Char)
  | 0, _ => .error .truncated
  | _ + 1, [] => .error .truncated
  | fuel + 1, c :: rest =>
    if c = '"' then .ok ([], rest)
    else if c = '\\' then do
      let (e, rest) ← escape care rest
      let (more, rest) ← textBody care fuel rest
      .ok (e :: more, rest)
    else if c.toNat < 32 then .error .malformed
    else do
      let (more, rest) ← textBody care fuel rest
      .ok (c :: more, rest)

def text (care : Care) (s : List Char) : Except Fault (String × List Char) :=
  (textBody care (s.length + 1) s).map fun p => (String.ofList p.1, p.2)

/-! ### Numbers -/

def maxWord : Nat := twoTo 64 - 1

/- Digits taken into a significand while it fits 64 bits, and how many were taken. -/
def takeDigits (n : Nat) : List Char → Nat × Nat
  | [] => (n, 0)
  | c :: rest =>
    let next := 10 * n + digitValue c
    if maxWord < next then (n, 0)
    else
      let (m, taken) := takeDigits next rest
      (m, taken + 1)

/- `significand · 10 ^ exponent` in double arithmetic: one rounded multiplication or division by
a power of ten, more only below the smallest power. An overflow is out of range. -/
def scaleByTen (fuel : Nat) (x : Binary64) (exponent : Int) : Option Binary64 :=
  match fuel with
  | 0 => some x
  | fuel + 1 =>
    if exponent.natAbs ≤ 308 then
      let power := Binary64.ofNat (tenTo exponent.natAbs)
      if 0 ≤ exponent then
        let y := x.scaleUp power
        if y.isFinite then some y else none
      else some (x.scaleDown power)
    else if x.isZero then some x
    else if 0 ≤ exponent then none
    else scaleByTen fuel (x.scaleDown (Binary64.ofNat (tenTo 308))) (exponent + 308)

def signed (negative : Bool) (x : Binary64) : Binary64 := if negative then x.negate else x

structure Literal where
  whole : List Char
  places : Option (List Char)
  power : Option (Bool × List Char)

def powerLimit : Nat := 2147483647

def Literal.value (negative : Bool) (l : Literal) : Option Number :=
  let (head, taken) := takeDigits 0 l.whole
  let dropped := l.whole.length - taken
  if l.places.isNone ∧ l.power.isNone ∧ dropped = 0 then
    if !negative then some (.natural head)
    else if 1 ≤ head ∧ head ≤ twoTo 63 then some (.negative head)
    else some (.real (Binary64.ofNat head).negate)
  else
    let (significand, used) := takeDigits head (l.places.getD [])
    let exponent : Int := (dropped : Int) - used
    match l.power with
    | none =>
      (scaleByTen 8 (Binary64.ofNat significand) exponent).map fun x => .real (signed negative x)
    | some (down, digits) =>
      let p := readDigits 0 digits
      if powerLimit < p then
        if significand ≠ 0 ∧ !down then none else some (.real (Binary64.zero negative))
      else
        let exponent := if down then exponent - p else exponent + p
        (scaleByTen 8 (Binary64.ofNat significand) exponent).map fun x => .real (signed negative x)

/- The fault of a number that stops short: where the text ends it is truncated, unless skimmed. -/
def stopped (care : Care) (rest : List Char) : Fault :=
  if rest = [] ∧ care = .keep then .truncated else .malformed

def places (care : Care) : List Char → Except Fault (Option (List Char) × List Char)
  | '.' :: rest =>
    let digits := rest.takeWhile Char.isDigit
    let rest := rest.dropWhile Char.isDigit
    if digits = [] then .error (stopped care rest) else .ok (some digits, rest)
  | s => .ok (none, s)

def power (care : Care) : List Char → Except Fault (Option (Bool × List Char) × List Char)
  | c :: rest =>
    if c = 'e' ∨ c = 'E' then
      let (down, rest) := takeSign rest
      let digits := rest.takeWhile Char.isDigit
      let rest := rest.dropWhile Char.isDigit
      if digits = [] then .error (stopped care rest) else .ok (some (down, digits), rest)
    else .ok (none, c :: rest)
  | [] => .ok (none, [])

def literal (care : Care) (s : List Char) : Except Fault (Literal × List Char) :=
  let whole := s.takeWhile Char.isDigit
  let rest := s.dropWhile Char.isDigit
  if whole = [] then .error (stopped care rest)
  else if whole.head? = some '0' ∧ 1 < whole.length then .error .malformed
  else do
    let (places, rest) ← places care rest
    let (power, rest) ← power care rest
    .ok (⟨whole, places, power⟩, rest)

def number (care : Care) (negative : Bool) (s : List Char) :
    Except Fault (Number × List Char) := do
  let (l, rest) ← literal care s
  match care with
  | .skim => .ok (.natural 0, rest)
  | .keep =>
    match l.value negative with
    | some n => .ok (n, rest)
    | none => .error .malformed

/-! ### Values -/

def items (item : List Char → Except Fault (Value × List Char)) :
    Nat → List Char → Except Fault (List Value × List Char)
  | 0, _ => .error .truncated
  | fuel + 1, s => do
    let (v, rest) ← item s
    match skipBlank rest with
    | [] => .error .truncated
    | c :: rest =>
      if c = ']' then .ok ([v], rest)
      else if c = ',' then do
        let (more, rest) ← items item fuel rest
        .ok (v :: more, rest)
      else .error .malformed

def memberName (care : Care) (s : List Char) : Except Fault (String × List Char) :=
  match skipBlank s with
  | [] => .error .truncated
  | c :: rest =>
    if c = '"' then do
      let (name, rest) ← text care rest
      .ok (name, rest)
    else .error .malformed

def members (care : Care) (item : List Char → Except Fault (Value × List Char)) :
    Nat → List Char → Except Fault (List (String × Value) × List Char)
  | 0, _ => .error .truncated
  | fuel + 1, s => do
    let (name, rest) ← memberName care s
    let rest ← expect ':' (skipBlank rest)
    let (v, rest) ← item rest
    match skipBlank rest with
    | [] => .error .truncated
    | c :: rest =>
      if c = '\x7d' then .ok ([(name, v)], rest)
      else if c = ',' then do
        let (more, rest) ← members care item fuel rest
        .ok ((name, v) :: more, rest)
      else .error .malformed

/-- A value with at most `nesting` lists and objects around its innermost one. -/
def value (care : Care) (nesting : Nat) (s : List Char) : Except Fault (Value × List Char) :=
  match skipBlank s with
  | [] => .error .truncated
  | c :: rest =>
    if c = 'n' then (word ['u', 'l', 'l'] rest).map (.null, ·)
    else if c = 't' then (word ['r', 'u', 'e'] rest).map (.bool true, ·)
    else if c = 'f' then (word ['a', 'l', 's', 'e'] rest).map (.bool false, ·)
    else if c = '"' then (text care rest).map fun p => (.text p.1, p.2)
    else if c = '-' then (number care true rest).map fun p => (.number p.1, p.2)
    else if c.isDigit then (number care false (c :: rest)).map fun p => (.number p.1, p.2)
    else if c = '[' then
      match nesting with
      | 0 => .error .malformed
      | nesting + 1 =>
        match skipBlank rest with
        | ']' :: rest => .ok (.list [], rest)
        | _ =>
          (items (value care nesting) (rest.length + 1) rest).map fun p => (.list p.1, p.2)
    else if c = '\x7b' then
      match nesting with
      | 0 => .error .malformed
      | nesting + 1 =>
        match skipBlank rest with
        | '\x7d' :: rest => .ok (.object [], rest)
        | _ =>
          (members care (value care nesting) (rest.length + 1) rest).map fun p =>
            (.object p.1, p.2)
    else .error .malformed

def nestingLimit : Nat := 127

def finish {α : Type} (item : α) (rest : List Char) : Except Fault α :=
  if skipBlank rest = [] then .ok item else .error .malformed

def read (s : List Char) : Except Fault Value := do
  let (v, rest) ← value .keep nestingLimit s
  finish v rest

def skim (s : List Char) : Except Fault (List Char) :=
  (value .skim (s.length + 1) s).map Prod.snd

/- The rest after a value of the wrong kind has been met: a scalar is read first, and its own
fault comes before the mismatch. -/
def wrongKind (s : List Char) : Fault :=
  match skipBlank s with
  | [] => .truncated
  | c :: rest =>
    if c = '[' ∨ c = '\x7b' then .mismatch
    else match value .keep 0 (c :: rest) with
      | .ok _ => .mismatch
      | .error f => f

def wantedText (s : List Char) : Except Fault (String × List Char) :=
  match skipBlank s with
  | '"' :: rest => text .keep rest
  | _ => .error (wrongKind s)

end TagListing.Json
