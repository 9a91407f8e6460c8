import TagListing.Text.Hex
/-!
Tokens of TOML. A byte order mark at the start is skipped and a carriage return before a line feed
is dropped; every character after that belongs to a token. Loops are bounded by the number of
characters that follow.
-/
namespace TagListing.Toml
open TagListing.Text (hexValue?)

inductive Token where
  | gap (single : Bool)
  | newline
  | comment
  | equals
  | period
  | comma
  | colon
  | plus
  | leftBrace
  | rightBrace
  | leftBracket
  | rightBracket
  | word (s : List Char)
  | text (s : String) (multiline : Bool)
  deriving DecidableEq, Repr

def foldLines : List Char → List Char
  | '\r' :: '\n' :: rest => '\n' :: foldLines rest
  | c :: rest => c :: foldLines rest
  | [] => []

def dropMark : List Char → List Char
  | '\uFEFF' :: rest => rest
  | s => s

def isGap (c : Char) : Bool := c = ' ' || c = '\t'

def isWordChar (c : Char) : Bool := c.isAlphanum || c = '-' || c = '_'

def isCommentChar (c : Char) : Bool := c = '\t' || 32 ≤ c.toNat

def isTextChar (c : Char) : Bool := c = '\t' || (32 ≤ c.toNat && c.toNat ≠ 127)

def hexChar (count : Nat) (s : List Char) : Option (Char × List Char) := do
  let digits ← (s.take count).mapM hexValue?
  let n := digits.foldl (fun n d => 16 * n + d) 0
  if digits.length = count ∧ n.isValidChar then some (Char.ofNat n, s.drop count) else none

/- What follows a backslash: a character, or nothing at the end of a line of a longer text. -/
def escape (multiline : Bool) : List Char → Option (List Char × List Char)
  | '"' :: rest => some (['"'], rest)
  | '\\' :: rest => some (['\\'], rest)
  | 'b' :: rest => some (['\x08'], rest)
  | 'f' :: rest => some (['\x0c'], rest)
  | 'n' :: rest => some (['\n'], rest)
  | 'r' :: rest => some (['\r'], rest)
  | 't' :: rest => some (['\t'], rest)
  | 'u' :: rest => (hexChar 4 rest).map fun p => ([p.1], p.2)
  | 'U' :: rest => (hexChar 8 rest).map fun p => ([p.1], p.2)
  | s =>
    if multiline then
      match s.dropWhile isGap with
      | '\n' :: rest => some ([], rest.dropWhile fun c => isGap c || c = '\n')
      | _ => none
    else none

/- The end of a longer text after its first quote: the text's own last quotes and the rest, or
nothing if the text goes on. -/
def closing (quote : Char) : List Char → Option (List Char × List Char)
  | a :: b :: rest =>
    if a = quote ∧ b = quote then
      let own := (rest.take 2).takeWhile (· = quote)
      some (own, rest.drop own.length)
    else none
  | _ => none

/- The characters of a text up to its end. Only a text in double quotes has escapes. -/
def textBody (quote : Char) (multiline : Bool) : Nat → List Char →
    Option (List Char × List Char)
  | 0, _ => none
  | _ + 1, [] => none
  | fuel + 1, c :: rest =>
    if c = '\n' then
      if multiline then (textBody quote multiline fuel rest).map fun p => ('\n' :: p.1, p.2)
      else none
    else if c = quote then
      if multiline then
        match closing quote rest with
        | some p => some p
        | none => (textBody quote multiline fuel rest).map fun p => (quote :: p.1, p.2)
      else some ([], rest)
    else if c = '\\' ∧ quote = '"' then do
      let (cs, rest) ← escape multiline rest
      let (more, rest) ← textBody quote multiline fuel rest
      some (cs ++ more, rest)
    else if isTextChar c then
      (textBody quote multiline fuel rest).map fun p => (c :: p.1, p.2)
    else none

/- A text after its first quote. A line end right after three quotes is no part of it. -/
def textToken (quote : Char) (s : List Char) : Option (Token × List Char) :=
  match s with
  | a :: b :: rest =>
    if a = quote ∧ b = quote then
      let body := match rest with
        | '\n' :: r => r
        | r => r
      (textBody quote true (body.length + 1) body).map fun p =>
        (.text (String.ofList p.1) true, p.2)
    else if a = quote then some (.text "" false, b :: rest)
    else oneLine
  | [a] => if a = quote then some (.text "" false, []) else oneLine
  | [] => none
where
  oneLine : Option (Token × List Char) :=
    (textBody quote false (s.length + 1) s).map fun p => (.text (String.ofList p.1) false, p.2)

def mark? : Char → Option Token
  | '\n' => some .newline
  | '=' => some .equals
  | '.' => some .period
  | ',' => some .comma
  | ':' => some .colon
  | '+' => some .plus
  | '\x7b' => some .leftBrace
  | '\x7d' => some .rightBrace
  | '[' => some .leftBracket
  | ']' => some .rightBracket
  | _ => none

def nextToken (c : Char) (rest : List Char) : Option (Token × List Char) :=
  match mark? c with
  | some t => some (t, rest)
  | none =>
    if isGap c then
      some (.gap (c = ' ' && !(rest.head?.any isGap)), rest.dropWhile isGap)
    else if c = '#' then some (.comment, rest.dropWhile isCommentChar)
    else if c = '"' ∨ c = '\'' then textToken c rest
    else if isWordChar c then
      some (.word (c :: rest.takeWhile isWordChar), rest.dropWhile isWordChar)
    else none

def tokensFrom : Nat → List Char → Option (List Token)
  | _, [] => some []
  | 0, _ :: _ => none
  | fuel + 1, c :: rest => do
    let (t, rest) ← nextToken c rest
    let more ← tokensFrom fuel rest
    some (t :: more)

def tokens (s : List Char) : Option (List Token) :=
  let s := foldLines (dropMark s)
  tokensFrom s.length s

end TagListing.Toml
