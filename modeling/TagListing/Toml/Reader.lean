import TagListing.Toml.Token
import TagListing.Toml.Moment
import TagListing.Toml.Number
/-!
Values, keys and lines of TOML, read from tokens. A number or a moment spans several tokens where
it has a point, a colon or a plus. Loops are bounded by the number of tokens that follow.
-/
namespace TagListing.Toml
open TagListing.Numeric (Binary64)

abbrev Tokens := List Token

def skipGap : Tokens → Tokens
  | .gap _ :: rest => rest
  | ts => ts

def eat (t : Token) : Tokens → Option Tokens
  | u :: rest => if t = u then some rest else none
  | [] => none

def endLine : Tokens → Option Tokens
  | [] => some []
  | .newline :: rest => some rest
  | [.comment] => some []
  | .comment :: .newline :: rest => some rest
  | _ => none

def skipLines : Tokens → Option Tokens
  | .gap _ :: rest => skipLines rest
  | .newline :: rest => skipLines rest
  | [.comment] => some []
  | .comment :: .newline :: rest => skipLines rest
  | .comment :: _ => none
  | ts => some ts

/-! ### Keys -/

def readKey : Tokens → Option (String × Tokens)
  | .word s :: rest => some (String.ofList s, rest)
  | .text s false :: rest => some (s, rest)
  | _ => none

def readDottedKey : Nat → Tokens → Option (List String × Tokens)
  | 0, _ => none
  | fuel + 1, ts => do
    let (key, rest) ← readKey ts
    match skipGap rest with
    | .period :: rest =>
      let (more, rest) ← readDottedKey fuel (skipGap rest)
      some (key :: more, rest)
    | rest => some ([key], rest)

/-! ### Scalars -/

def takeWord : Tokens → Option (List Char × Tokens)
  | .word s :: rest => some (s, rest)
  | _ => none

def markedWord (t : Token) (c : Char) (ts : Tokens) : Option (List Char × Tokens) :=
  match eat t ts with
  | some rest => (takeWord rest).map fun p => (c :: p.1, p.2)
  | none => some ([], ts)

def readTimeTail (ts : Tokens) : Option (List Char × Tokens) := do
  let (minutes, ts) ← takeWord ts
  let ts ← eat .colon ts
  let (seconds, ts) ← takeWord ts
  let (fraction, ts) ← markedWord .period '.' ts
  let (plus, ts) ← markedWord .plus '+' ts
  let (offset, ts) ← markedWord .colon ':' ts
  some (':' :: minutes ++ ':' :: seconds ++ fraction ++ plus ++ offset, ts)

/- A moment that starts with a word; the colon after an hour may have been taken. -/
def readMoment (start : List Char) (colonTaken : Bool) (ts : Tokens) : Option (Value × Tokens) := do
  let (hour, ts) := match ts with
    | .gap true :: .word h :: rest => (' ' :: h, rest)
    | ts => ([], ts)
  let (tail, ts) ←
    if colonTaken then readTimeTail ts
    else match eat .colon ts with
      | some rest => readTimeTail rest
      | none => some ([], ts)
  let text ← normalMoment (start ++ hour ++ tail)
  some (.moment text, ts)

def startsWith (c : Char) (s : List Char) : Bool := s.head? == some c

/- A power of ten after the digits of a float, possibly in tokens of its own. -/
def readFloatPower (suffix : List Char) (ts : Tokens) : Option (Int × Tokens) :=
  match suffix with
  | [] => some (0, ts)
  | [e] =>
    if e = 'e' ∨ e = 'E' then do
      let ts := (eat .plus ts).getD ts
      let (s, ts) ← takeWord ts
      let power ← readPower false s
      some (power, ts)
    else none
  | e :: rest =>
    if e = 'e' ∨ e = 'E' then (readPower true rest).map (·, ts) else none

def readFloat (s : List Char) (places : Option (List Char)) (ts : Tokens) :
    Option (Value × Tokens) := do
  let (negative, whole, suffix) ← integerRun 10 true false s
  let (places, suffix) ← match places with
    | none => some ([], suffix)
    | some after =>
      if suffix = [] then (integerRun 10 false true after).map fun p => (p.2.1, p.2.2) else none
  let (power, ts) ← readFloatPower suffix ts
  let x ← finiteFloat negative whole places power
  some (x, ts)

def readNumber (s : List Char) (ts : Tokens) : Option (Value × Tokens) :=
  match s with
  | '0' :: 'x' :: digits => (readInteger 16 digits).map (·, ts)
  | '0' :: 'o' :: digits => (readInteger 8 digits).map (·, ts)
  | '0' :: 'b' :: digits => (readInteger 2 digits).map (·, ts)
  | _ =>
    if s.contains 'e' || s.contains 'E' then readFloat s none ts
    else match eat .period ts with
      | some rest => do
        let (after, rest) ← takeWord rest
        readFloat s (some after) rest
      | none =>
        if s = "inf".toList then some (.float (.infinite false), ts)
        else if s = "-inf".toList then some (.float (.infinite true), ts)
        else if s = "nan".toList ∨ s = "-nan".toList then some (.float .nan, ts)
        else (readInteger 10 s).map (·, ts)

def holdsPair (a b : Char) : List Char → Bool
  | x :: y :: rest => (x == a && y == b) || holdsPair a b (y :: rest)
  | _ => false

def startsMoment (s : List Char) : Bool :=
  s.contains 'T' || s.contains 't' ||
    ((s.drop 1).contains '-' && !holdsPair 'e' '-' s && !holdsPair 'E' '-' s)

def readWordValue (s : List Char) (ts : Tokens) : Option (Value × Tokens) :=
  if s = "true".toList then some (.bool true, ts)
  else if s = "false".toList then some (.bool false, ts)
  else if s = "inf".toList ∨ s = "nan".toList ∨ (s.head?.any fun c => c = '-' || c.isDigit) then
    if startsMoment s then readMoment s false ts
    else match eat .colon ts with
      | some rest => readMoment s true rest
      | none => readNumber s ts
  else none

/-! ### Values -/

def readItems (item : Tokens → Option (Value × Tokens)) :
    Nat → Tokens → Option (List Value × Tokens)
  | 0, _ => none
  | fuel + 1, ts => do
    let ts ← skipLines ts
    match ts with
    | .rightBracket :: rest => some ([], rest)
    | ts =>
      let (v, ts) ← item ts
      let ts ← skipLines ts
      match ts with
      | .comma :: rest =>
        let (more, rest) ← readItems item fuel rest
        some (v :: more, rest)
      | .rightBracket :: rest => some ([v], rest)
      | _ => none

def readEntries (item : Tokens → Option (Value × Tokens)) :
    Nat → Entries → Tokens → Option (Entries × Tokens)
  | 0, _, _ => none
  | fuel + 1, es, ts => do
    let (key, ts) ← readDottedKey (ts.length + 1) ts
    let ts ← eat .equals (skipGap ts)
    let (v, ts) ← item (skipGap ts)
    let es ← addEntry key v es
    match skipGap ts with
    | .rightBrace :: rest => some (es, rest)
    | .comma :: rest => readEntries item fuel es (skipGap rest)
    | _ => none

def readValue : Nat → Tokens → Option (Value × Tokens)
  | _, .text s _ :: rest => some (.text s, rest)
  | _, .word s :: rest => readWordValue s rest
  | _, .plus :: .word s :: rest => readNumber s rest
  | fuel + 1, .leftBracket :: rest =>
    (readItems (readValue fuel) (rest.length + 1) rest).map fun p => (.list p.1, p.2)
  | fuel + 1, .leftBrace :: rest =>
    match skipGap rest with
    | .rightBrace :: rest => some (.table false [], rest)
    | rest =>
      (readEntries (readValue fuel) (rest.length + 1) [] rest).map fun p => (.table false p.1, p.2)
  | _, _ => none

/-! ### Lines -/

/-- A section of a document: its header's path, whether the header adds an item to a list of
tables, and its entries. -/
structure Section where
  path : List String
  isItem : Bool
  entries : Entries

def readHeader (isItem : Bool) (ts : Tokens) : Option (Section × Tokens) := do
  let (path, ts) ← readDottedKey (ts.length + 1) (skipGap ts)
  let ts ← eat .rightBracket (skipGap ts)
  let ts ← if isItem then eat .rightBracket ts else some ts
  let ts ← endLine (skipGap ts)
  some (⟨path, isItem, []⟩, ts)

def readLines : Nat → Section → Tokens → Option (List Section)
  | 0, _, _ => none
  | fuel + 1, current, ts => do
    let ts ← skipLines ts
    match ts with
    | [] => some [current]
    | .leftBracket :: .leftBracket :: rest =>
      let (header, rest) ← readHeader true rest
      let more ← readLines fuel header rest
      some (current :: more)
    | .leftBracket :: rest =>
      let (header, rest) ← readHeader false rest
      let more ← readLines fuel header rest
      some (current :: more)
    | ts =>
      let (key, ts) ← readDottedKey (ts.length + 1) ts
      let ts ← eat .equals (skipGap ts)
      let (v, ts) ← readValue (ts.length + 1) (skipGap ts)
      let es ← addEntry key v current.entries
      let ts ← endLine (skipGap ts)
      readLines fuel { current with entries := es } ts

end TagListing.Toml
