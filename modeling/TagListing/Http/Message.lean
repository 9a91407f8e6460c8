import TagListing.Failure
import TagListing.Text.Hex
import TagListing.Text.Utf8
/-!
Requests and responses. Header names compare without case; of two or more values under one name
the second one given stands in front of the others. A failure that is no concern of the client is
answered by one fixed text.
-/
namespace TagListing.Http
open TagListing.Text (Sign hexValue? signsOf utf8Bytes)

abbrev Bytes := List UInt8

structure Request where
  method : String
  target : String
  headers : List (String × Bytes)
  body : String
  deriving Repr

structure Response where
  status : Nat
  contentType : Option String
  body : String
  deriving DecidableEq, Repr

/-! ### Headers -/

def sameName (a b : String) : Bool := a.toList.map Char.toLower == b.toList.map Char.toLower

def headerValues (name : String) (headers : List (String × Bytes)) : List Bytes :=
  (headers.filter fun h => sameName h.1 name).map (·.2)

/- The value in front: the second of several, the only one of one. -/
def frontValue? : List Bytes → Option Bytes
  | [] => none
  | [v] => some v
  | _ :: v :: _ => some v

def header? (name : String) (headers : List (String × Bytes)) : Option Bytes :=
  frontValue? (headerValues name headers)

/-! ### Paths -/

/- Escapes that stand for a slash or a plus are kept as they are. -/
def isProtected (n : Nat) : Bool := n == '/'.toNat || n == '+'.toNat

/- The bytes of a path with its escapes decoded. An escape without two digits is kept, one that
the path ends in is dropped. -/
def unescapePath : List Char → Bytes
  | '%' :: a :: b :: rest =>
    match hexValue? a, hexValue? b with
    | some x, some y =>
      if isProtected (16 * x + y) then utf8Bytes ['%', a, b] ++ unescapePath rest
      else (16 * x + y).toUInt8 :: unescapePath rest
    | _, _ => utf8Bytes ['%', a, b] ++ unescapePath rest
  | '%' :: _ => []
  | c :: rest => utf8Bytes [c] ++ unescapePath rest
  | [] => []

/- Drops the scheme and the host of an absolute target. A target that is a host alone has no path;
the star is a path of its own. -/
def relativePart (s : List Char) : List Char :=
  if s.head? = some '/' ∨ s = ['*'] then s
  else match afterScheme s with
    | some rest =>
      match rest.dropWhile fun c => c ≠ '/' ∧ c ≠ '?' ∧ c ≠ '#' with
      | '/' :: path => '/' :: path
      | _ => ['/']
    | none => []
where
  afterScheme : List Char → Option (List Char)
    | ':' :: '/' :: '/' :: rest => some rest
    | c :: rest => if c = '?' ∨ c = '#' then none else afterScheme rest
    | [] => none

def Request.path (r : Request) : List Sign :=
  signsOf (unescapePath ((relativePart r.target.toList).takeWhile fun c => c ≠ '?' ∧ c ≠ '#'))

/-! ### Responses -/

def jsonType : String := "application/json"

def Response.json (status : Nat) (v : Json.Value) : Response := ⟨status, some jsonType, v.compact⟩

def Response.empty (status : Nat) : Response := ⟨status, none, ""⟩

def Response.notFound : Response := .empty 404

def internalText : String := "Internal Server Error"

end Http

def Failure.response : Failure → Http.Response
  | .unauthorized reason => .json 401 reason.sorted
  | .disconnected reason => .json 502 (.text reason)
  | _ => .json 500 (.text Http.internalText)

end TagListing
