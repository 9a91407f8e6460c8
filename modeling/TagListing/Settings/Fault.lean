import TagListing.Settings.Path
import TagListing.Text.Quoted
/-!
What can go wrong with settings, by cause, and the words for it. A conversion that fails names the
value found and the kind wanted; the key and the origin are added where they are known.
-/
namespace TagListing.Settings
open TagListing.Numeric

inductive Found where
  | bool (b : Bool)
  | int (i : Int)
  | float (x : Binary64)
  | text (s : String)
  | unit
  | list
  | table
  deriving DecidableEq, Repr

inductive Wanted where
  | text
  | int
  | bool
  | float
  | list
  deriving DecidableEq, Repr

structure KindFault where
  found : Found
  wanted : Wanted
  key : Option String
  origin : Origin
  deriving DecidableEq, Repr

inductive ShapeFault where
  | notSequence (found : Found)
  | notMap (found : Found)
  | notRecord (found : Found) (record : String)
  | missingField (name : String)
  | noElement (record : String)
  | noVariant (union : String)
  deriving DecidableEq, Repr

inductive Fault where
  | frozen
  | absent (key : String)
  | path (fault : PathFault)
  | kind (fault : KindFault)
  | shape (fault : ShapeFault)
  | note (text : String)
  | unparsable
  | noFile (name : String)
  | unknownFormat (path : String)
  /-- A list was to be written before its start, where the program stops without an answer. -/
  | overrun
  deriving DecidableEq, Repr

def Tree.found : Tree → Found
  | .scalar _ .nil => .unit
  | .scalar _ (.bool b) => .bool b
  | .scalar _ (.int i) => .int i
  | .scalar _ (.float x) => .float x
  | .scalar _ (.text s) => .text s
  | .list .. => .list
  | .table .. => .table

/-! ### Words -/

def tick (s : String) : String := "`" ++ s ++ "`"

def Found.describe (form : DecimalForm) : Found → String
  | .bool b => "boolean " ++ tick (if b then "true" else "false")
  | .int i => "integer " ++ tick (writeInt i)
  | .float x => "floating point " ++ tick (form.write x)
  | .text s => "string " ++ Text.quoted s
  | .unit => "unit value"
  | .list => "sequence"
  | .table => "map"

def Wanted.describe : Wanted → String
  | .text => "a string"
  | .int => "an integer"
  | .bool => "a boolean"
  | .float => "a floating point"
  | .list => "an array"

def PathFault.message : PathFault → String
  | .noName => "IsA"
  | .noBracket => "Char"
  | .noDigit => "Digit"
  | .hugeIndex => "Map on Result"

def KindFault.message (f : KindFault) : String :=
  "invalid type: " ++ f.found.describe .plain ++ ", expected " ++ f.wanted.describe
    ++ (match f.key with | some k => " for key " ++ tick k | none => "")
    ++ (match f.origin with | some o => " in " ++ o | none => "")

/- A double that is whole is told from an integer by its point here. -/
def shapeForm (found : Found) : DecimalForm :=
  match found with
  | .float (.finite ..) => .pointed
  | _ => .plain

def ShapeFault.message : ShapeFault → String
  | .notSequence f => "invalid type: " ++ f.describe (shapeForm f) ++ ", expected a sequence"
  | .notMap f => "invalid type: " ++ f.describe (shapeForm f) ++ ", expected a map"
  | .notRecord f r => "invalid type: " ++ f.describe (shapeForm f) ++ ", expected struct " ++ r
  | .missingField name => "missing field " ++ tick name
  | .noElement r => "invalid length 0, expected struct " ++ r ++ " with 1 element"
  | .noVariant u => "data did not match any variant of untagged enum " ++ u

def Fault.message : Fault → String
  | .frozen => "configuration is frozen"
  | .absent key => "configuration property " ++ Text.quoted key ++ " not found"
  | .path f => f.message
  | .kind f => f.message
  | .shape f => f.message
  | .note text => text
  | .unparsable => "the configuration does not parse"
  | .noFile name => "configuration file \"" ++ name ++ "\" not found"
  | .unknownFormat place =>
    "configuration file \"" ++ place ++ "\" is not of a registered file format"
  | .overrun => "capacity overflow"

end TagListing.Settings
