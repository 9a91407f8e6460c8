import TagListing.Pattern.Reader
import TagListing.Text.Parts
/-!
Paths of resources. Without braces a path stands for itself; a segment in braces takes what its
pattern says, or anything up to the next slash. A star at the end takes all that follows.
-/
namespace TagListing.Http
open TagListing.Text (Sign signs)

inductive PathPattern where
  | fixed (path : List Char)
  | pattern (p : Pattern)
  | unreadable
  deriving DecidableEq, Repr

def closeBrace : Nat → List Char → Option (List Char × List Char)
  | _, [] => none
  | depth, c :: rest =>
    if c = '\x7d' then
      if depth ≤ 1 then some ([], rest) else more c (closeBrace (depth - 1) rest)
    else if c = '\x7b' then more c (closeBrace (depth + 1) rest)
    else more c (closeBrace depth rest)
where
  more (c : Char) (found : Option (List Char × List Char)) : Option (List Char × List Char) :=
    found.map fun p => (c :: p.1, p.2)

def segmentText (name body : List Char) : List Char :=
  "(?P<".toList ++ name ++ '>' :: body ++ [')']

def pathText : Nat → List Char → Option (List Char)
  | 0, _ => none
  | fuel + 1, s =>
    let before := Pattern.escaped (s.takeWhile (· ≠ '\x7b'))
    match s.dropWhile (· ≠ '\x7b') with
    | [] => some (before ++ ['$'])
    | _ :: rest => do
      let (inside, rest) ← closeBrace 1 rest
      match Text.cutAt? ':' inside with
      | some (name, body) =>
        if rest = ['*'] then none
        else do
          let more ← pathText fuel rest
          some (before ++ segmentText name body ++ more)
      | none =>
        if rest = ['*'] then some (before ++ segmentText inside ['.', '*'])
        else do
          let more ← pathText fuel rest
          some (before ++ segmentText inside "[^/]+".toList ++ more)

def maxSegments : Nat := 16

namespace PathPattern

def ofText (s : List Char) : PathPattern :=
  match Pattern.read ('^' :: s) with
  | some p => .pattern p
  | none => .unreadable

def rooted (s : List Char) : List Char :=
  match s with
  | [] => []
  | '/' :: _ => s
  | s => '/' :: s

def read (path : List Char) : PathPattern :=
  let s := rooted path
  if s.contains '\x7b' then
    match pathText (maxSegments + 1) s with
    | some text => ofText text
    | none => .unreadable
  else if s.getLast? = some '*' then ofText (s.dropLast ++ "(.*)".toList)
  else .fixed s

def isMatchedBy (p : PathPattern) (path : List Sign) : Bool :=
  match p with
  | .fixed s => path == signs s
  | .pattern p => p.isFoundIn path
  | .unreadable => false

end PathPattern
end TagListing.Http
