import TagListing.Failure
import TagListing.Text.Hex
import TagListing.Text.Parts
/-!
Addresses to listen on: a host and a port behind the last colon. A host is one to four numbers with
points between them, of which the last fills what the others leave of 32 bits, or eight groups in
brackets, or a name. The program can listen on all addresses, on the host itself and on addresses
of groups; of the names only the host's own one is known.
-/
namespace TagListing.Fleet
open TagListing.Numeric (twoTo)
open TagListing.Text (cutAt? hexValue? partsOf)

def readNumber (base : Nat) (s : List Char) : Option Nat :=
  if s = [] then none
  else s.foldlM (fun n c => do
    let d ← hexValue? c
    if d < base then some (base * n + d) else none) 0

def readHostNumber (s : List Char) : Option Nat :=
  match s with
  | ['0'] => some 0
  | '0' :: 'x' :: digits => readNumber 16 digits
  | '0' :: 'X' :: digits => readNumber 16 digits
  | '0' :: digits => readNumber 8 digits
  | s => readNumber 10 s

/- The numbers of a host as one, given how many bytes are left for the last. -/
def joinHostNumbers : Nat → List Nat → Option Nat
  | _, [] => none
  | bytes, [last] => if last < twoTo (8 * bytes) then some last else none
  | 0, _ => none
  | bytes + 1, n :: rest =>
    if n < 256 then (joinHostNumbers bytes rest).map (n * twoTo (8 * bytes) + ·) else none

inductive Host where
  | short (address : Nat)
  | long (groups : List Nat)
  deriving DecidableEq, Repr

def ownName : String := "localhost"

def ownAddress : Nat := 127 * twoTo 24 + 1

def readShortHost (s : List Char) : Option Host := do
  let numbers ← (partsOf '.' s).mapM readHostNumber
  let address ← joinHostNumbers 4 numbers
  some (.short address)

def readGroup (s : List Char) : Option Nat :=
  if s.length ≤ 4 then readNumber 16 s else none

def readGroups (s : List Char) : Option (List Nat) :=
  if s = [] then some [] else (partsOf ':' s).mapM readGroup

def cutAtGap : List Char → Option (List Char × List Char)
  | ':' :: ':' :: rest => some ([], rest)
  | c :: rest => (cutAtGap rest).map fun p => (c :: p.1, p.2)
  | [] => none

/- Eight groups; two colons in a row stand for groups of zero. -/
def readLongHost (s : List Char) : Option Host :=
  match cutAtGap s with
  | none => do
    let groups ← readGroups s
    if groups.length = 8 then some (.long groups) else none
  | some (before, after) => do
    let before ← readGroups before
    let after ← readGroups after
    if before.length + after.length < 8 then
      some (.long (before ++ List.replicate (8 - before.length - after.length) 0 ++ after))
    else none

def Host.read (s : List Char) : Option Host :=
  match s with
  | '[' :: rest => if rest.getLast? = some ']' then readLongHost rest.dropLast else none
  | s =>
    if String.ofList (s.map Char.toLower) = ownName then some (.short ownAddress)
    else readShortHost s

def Host.isOwn : Host → Bool
  | .short address =>
    address == 0 || address / twoTo 24 == 127 || address / twoTo 28 == 14 ||
      address + 1 == twoTo 32
  | .long groups => groups.dropLast.all (· == 0) && groups.getLastD 0 ≤ 1

def readPort (s : List Char) : Option Nat := do
  let n ← readNumber 10 (match s with | '+' :: digits => digits | digits => digits)
  if n < twoTo 16 then some n else none

def cutAtLastColon (s : List Char) : Option (List Char × List Char) :=
  (cutAt? ':' s.reverse).map fun p => (p.2.reverse, p.1.reverse)

def bind (listen : String) : Except SystemFault Unit :=
  match cutAtLastColon listen.toList with
  | none => .error .malformedAddress
  | some (host, port) =>
    match readPort port, Host.read host with
    | none, _ => .error .malformedPort
    | _, none => .error .unknownHost
    | some _, some host => if host.isOwn then .ok () else .error .foreignAddress

end TagListing.Fleet
