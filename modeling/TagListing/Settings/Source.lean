import TagListing.Settings.Getter
import TagListing.Settings.Merge
import TagListing.Toml.Document
import TagListing.Json.Reader
import TagListing.Json.Printer
/-!
Sources of settings: the text of a file in one of its formats, and the environment. A source is a
list of root entries whose values carry its name.
-/
namespace TagListing.Settings
open TagListing.Numeric

mutual
def ofToml (o : Origin) : Toml.Value → Tree
  | .text s => .scalar o (.text s)
  | .int i => .scalar o (.int i)
  | .float x => .scalar o (.float x)
  | .bool b => .scalar o (.bool b)
  | .moment s => .scalar o (.text s)
  | .list items => .list o (ofTomlItems o items)
  | .table _ es => .table o (ofTomlEntries o es)

def ofTomlItems (o : Origin) : List Toml.Value → List Tree
  | [] => []
  | v :: rest => ofToml o v :: ofTomlItems o rest

def ofTomlEntries (o : Origin) : List (String × Toml.Value) → List (String × Tree)
  | [] => []
  | (key, v) :: rest => (key, ofToml o v) :: ofTomlEntries o rest
end

/- A whole number beyond 64 signed bits becomes a double. -/
def ofJsonNumber : Json.Number → Scalar
  | .natural n => if fitsInt64 n then .int n else .float (.ofNat n)
  | .negative n => .int (-n)
  | .real x => .float x

mutual
def ofJson (o : Origin) : Json.Value → Tree
  | .null => .scalar o .nil
  | .bool b => .scalar o (.bool b)
  | .number n => .scalar o (ofJsonNumber n)
  | .text s => .scalar o (.text s)
  | .list items => .list o (ofJsonItems o items)
  | .object ms => .table o (ofJsonMembers o ms [])

def ofJsonItems (o : Origin) : List Json.Value → List Tree
  | [] => []
  | v :: rest => ofJson o v :: ofJsonItems o rest

def ofJsonMembers (o : Origin) : List (String × Json.Value) → List (String × Tree) →
    List (String × Tree)
  | [], done => done
  | (key, v) :: rest, done => ofJsonMembers o rest (putEntry key (ofJson o v) done)
end

/-! ### Formats -/

/- Formats whose readers are not written here. -/
inductive Foreign where
  | yaml
  | hjson
  | ini
  deriving DecidableEq, Repr

inductive Format where
  | toml
  | json
  | foreign (f : Foreign)
  deriving DecidableEq, Repr

def Format.all : List Format :=
  [.toml, .json, .foreign .yaml, .foreign .hjson, .foreign .ini]

def Format.extensions : Format → List String
  | .toml => ["toml"]
  | .json => ["json"]
  | .foreign .yaml => ["yaml", "yml"]
  | .foreign .hjson => ["hjson"]
  | .foreign .ini => ["ini"]

def formatOf? (extension : String) : Option Format :=
  Format.all.find? fun f => f.extensions.contains extension

/-- What the program leaves open: the order in which it tries the formats, and the readers of the
foreign ones. They give tables with one value per name and whole numbers of 64 bits, as all readers
do. -/
structure Formats where
  order : List Format
  all : order.Perm Format.all
  readForeign : Foreign → Origin → String → Option (List (String × Tree))
  distinct : ∀ f o text es, readForeign f o text = some es → EntriesDistinct es
  fits : ∀ f o text es, readForeign f o text = some es → EntriesFit es

/- TOML and JSON come first and are all that is read. -/
def Formats.plain : Formats where
  order := Format.all
  all := .refl _
  readForeign := fun _ _ _ => none
  distinct := nofun
  fits := nofun

def Formats.extensions (fs : Formats) : List (Format × String) :=
  fs.order.flatMap fun f => f.extensions.map (f, ·)

def readToml (o : Origin) (text : String) : Except Fault (List (String × Tree)) :=
  match Toml.parse text with
  | some es => .ok (ofTomlEntries o es)
  | none => .error .unparsable

/- A JSON text that is no object has no entries. -/
def readJson (o : Origin) (text : String) : Except Fault (List (String × Tree)) :=
  match Json.read text.toList with
  | .ok v => .ok (ofJson o v).entries
  | .error _ => .error .unparsable

def Formats.read (fs : Formats) (o : Origin) (text : String) :
    Format → Except Fault (List (String × Tree))
  | .toml => readToml o text
  | .json => readJson o text
  | .foreign f =>
    match fs.readForeign f o text with
    | some es => .ok es
    | none => .error .unparsable

/-! ### The environment -/

abbrev Environment := List (String × String)

def Environment.lookup? (env : Environment) (name : String) : Option String :=
  (env.find? (·.1 == name)).map (·.2)

def environmentOrigin : Origin := some "the environment"

/- After the mark, in any case, the key in lower case with points for underscores. -/
def variableKey? (name : String) : Option String :=
  if (Text.lower name).toList.take 4 = ['a', 'p', 'p', '_'] then
    let key := (name.toList.drop 4).map fun c => if c = '_' then '.' else c
    some (Text.lower (String.ofList key))
  else none

def environmentEntries (env : Environment) : List (String × Tree) :=
  env.foldl (fun es v =>
    match variableKey? v.1 with
    | some key => putEntry key (.scalar environmentOrigin (.text v.2)) es
    | none => es) []

def ofTomlText (text : String) : Except Fault Settings :=
  (Tree.emptyTable.under (readToml none text)).map (⟨·⟩)

end TagListing.Settings
