import TagListing.Settings.Source
import TagListing.Text.Parts
/-!
Finding a settings file by name. The exact file counts if it is there, and then its extension must
be registered; otherwise the last component of the name takes each registered extension in turn.
The origin of a file is the way to it from the working directory.
-/
namespace TagListing.Settings
open TagListing.Text (partsOf)

/-- The files that there are, and the directory that the program works in. Paths are lists of
components from the root. -/
structure Directory where
  here : List String
  files : List (List String × String)
  settled : ".." ∉ here := by decide

/-! ### Names -/

def isAbsolute (name : String) : Bool := name.toList.head? = some '/'

def components (name : String) : List String :=
  ((partsOf '/' name.toList).map String.ofList).filter fun c => c ≠ "" ∧ c ≠ "."

/- A point at the very start of a component is part of the stem. -/
def splitExtension (c : String) : String × Option String :=
  let tail := c.toList.reverse.takeWhile (· ≠ '.')
  let stem := (c.toList.reverse.drop (tail.length + 1)).reverse
  if tail.length = c.length ∨ stem = [] then (c, none)
  else (String.ofList stem, some (String.ofList tail.reverse))

/- A path that ends by going up has no component that could take an extension. -/
def withExtension? (path : List String) (extension : String) : Option (List String) :=
  match path.getLast? with
  | none => none
  | some c =>
    if c = ".." then none
    else some (path.dropLast ++ [(splitExtension c).1 ++ "." ++ extension])

def namesFile (name : String) : Bool :=
  match (partsOf '/' name.toList).getLast? with
  | some part => part != [] && part != ['.']
  | none => false

/- The way from one path to another: up out of what they do not share, then down. -/
def wayFrom : List String → List String → List String
  | b :: base, c :: path =>
    if b = c then wayFrom base path else (b :: base).map (fun _ => "..") ++ c :: path
  | base, path => base.map (fun _ => "..") ++ path

def fileOrigin (way : List String) : Origin := some ("/".intercalate way)

namespace Directory

def path (d : Directory) (name : String) : List String :=
  if isAbsolute name then components name else d.here ++ components name

def spelled (d : Directory) (name : String) : String :=
  if isAbsolute name then name else "/" ++ "/".intercalate (d.here ++ [name])

def origin (d : Directory) (path : List String) : Origin := fileOrigin (wayFrom d.here path)

/-! ### Files -/

def text? (d : Directory) (path : List String) : Option String :=
  (d.files.find? (·.1 == path)).map (·.2)

/- The working directory is there, and so is everything above it. -/
def isDirectory (d : Directory) (path : List String) : Bool :=
  path.isPrefixOf d.here || d.files.any fun f => f.1.length > path.length && path.isPrefixOf f.1

/- Down and up from a directory. The root is above itself. -/
def walk (d : Directory) : List String → List String → Option (List String)
  | place, [] => some place
  | place, c :: rest =>
    if !d.isDirectory place then none
    else walk d (if c = ".." then place.dropLast else place ++ [c]) rest

def fileAt? (d : Directory) (path : List String) : Option String :=
  (d.walk [] path).bind d.text?

/- The nearest file of a name, in the working directory or above it. -/
def nearest? (d : Directory) (name : String) : Option String :=
  (List.range (d.here.length + 1)).reverse.findSome? fun n => d.text? (d.here.take n ++ [name])

end Directory

/-! ### Finding -/

structure FoundFile where
  text : String
  path : List String
  format : Format

namespace Directory
variable (fs : Formats) (d : Directory)

def withSomeExtension? (path : List String) : Option FoundFile :=
  fs.extensions.findSome? fun e => do
    let p ← withExtension? path e.2
    let text ← d.fileAt? p
    some ⟨text, p, e.1⟩

def find (name : String) : Except Fault FoundFile :=
  let path := d.path name
  match (if namesFile name then d.fileAt? path else none) with
  | some text =>
    match (path.getLast?.bind fun c => (splitExtension c).2).bind formatOf? with
    | some format => .ok ⟨text, path, format⟩
    | none => .error (.unknownFormat (d.spelled name))
  | none =>
    match d.withSomeExtension? fs path with
    | some f => .ok f
    | none => .error (.noFile name)

end Directory

def extensions : List String := Format.all.flatMap Format.extensions

def candidatePaths (path : List String) : List (List String) :=
  path :: extensions.filterMap (withExtension? path)

end TagListing.Settings
