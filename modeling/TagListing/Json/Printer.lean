import TagListing.Json.Value
import TagListing.Text.Hex
/-!
Compact JSON text. Only the quote, the backslash and the controls below the blank are escaped;
members are written in the order given.
-/
namespace TagListing.Json
open TagListing.Numeric
open TagListing.Text (hexDigit)

def escapeChar (c : Char) : List Char :=
  if c = '"' then ['\\', '"']
  else if c = '\\' then ['\\', '\\']
  else if c = '\n' then ['\\', 'n']
  else if c = '\r' then ['\\', 'r']
  else if c = '\t' then ['\\', 't']
  else if c = '\x08' then ['\\', 'b']
  else if c = '\x0c' then ['\\', 'f']
  else if c.toNat < 32 then
    ['\\', 'u', '0', '0', hexDigit (c.toNat / 16), hexDigit c.toNat]
  else [c]

def printText (s : String) : List Char := '"' :: s.toList.flatMap escapeChar ++ ['"']

def printNumber : Number → List Char
  | .natural n => digitChars n
  | .negative n => '-' :: digitChars n
  | .real x => if x.isFinite then (DecimalForm.exchange.write x).toList else "null".toList

def commaJoined : List (List Char) → List Char
  | [] => []
  | [p] => p
  | p :: q :: rest => p ++ ',' :: commaJoined (q :: rest)

mutual
def printValue : Value → List Char
  | .null => "null".toList
  | .bool true => "true".toList
  | .bool false => "false".toList
  | .number n => printNumber n
  | .text s => printText s
  | .list items => '[' :: commaJoined (printItems items) ++ [']']
  | .object members => '\x7b' :: commaJoined (printMembers members) ++ ['\x7d']

def printItems : List Value → List (List Char)
  | [] => []
  | v :: rest => printValue v :: printItems rest

def printMembers : List (String × Value) → List (List Char)
  | [] => []
  | (name, v) :: rest => (printText name ++ ':' :: printValue v) :: printMembers rest
end

def Value.compact (v : Value) : String := String.ofList (printValue v)

/-! ### One order for the members of an object -/

/- Sets a member: a name that is there already takes the new value, others go before the first
greater name. -/
def putMember (name : String) (v : Value) : List (String × Value) → List (String × Value)
  | [] => [(name, v)]
  | (other, w) :: rest =>
    if name = other then (name, v) :: rest
    else if name < other then (name, v) :: (other, w) :: rest
    else (other, w) :: putMember name v rest

mutual
/- Members of every object in the order of their names, the last of equal names kept. -/
def Value.sorted : Value → Value
  | .list items => .list (sortedItems items)
  | .object members => .object (sortedMembers members [])
  | v => v

def sortedItems : List Value → List Value
  | [] => []
  | v :: rest => v.sorted :: sortedItems rest

def sortedMembers : List (String × Value) → List (String × Value) → List (String × Value)
  | [], done => done
  | (name, v) :: rest, done => sortedMembers rest (putMember name v.sorted done)
end

end TagListing.Json
