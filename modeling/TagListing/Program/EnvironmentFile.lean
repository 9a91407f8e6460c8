import TagListing.Text.Letter
import TagListing.Text.Parts
/-!
The file of variables in the working directory. Each line sets a variable that is not set yet, so
the first of two lines for a name wins; a line that cannot be read ends the file, what was set
before it stays. Values may be quoted and may refer to variables.
-/
namespace TagListing.Program
open TagListing.Text (isAlphanumeric partsOf skipBlanks trimBlanksEnd)

abbrev Variables := List (String × String)

def isKeyStart (c : Char) : Bool := c.isAlpha || c = '_'

def isKeyChar (c : Char) : Bool := c.isAlphanum || c = '_' || c = '.'

def readKey (s : List Char) : Option (List Char × List Char) :=
  match s with
  | c :: _ => if isKeyStart c then some (s.takeWhile isKeyChar, s.dropWhile isKeyChar) else none
  | [] => none

/- The key of a line and what follows its equals sign. The word `export` in front is passed over
unless it is the key itself. -/
def readAssignment (s : List Char) : Option (List Char × List Char) := do
  let (key, rest) ← readKey s
  match skipBlanks rest with
  | '=' :: rest => some (key, rest)
  | rest =>
    if key = "export".toList then do
      let (key, rest) ← readKey rest
      match skipBlanks rest with
      | '=' :: rest => some (key, rest)
      | _ => none
    else none

inductive Reference where
  | none
  | bare
  | braced
  deriving DecidableEq, Repr

structure ValueState where
  strong : Bool := false
  weak : Bool := false
  escaped : Bool := false
  ending : Bool := false
  reference : Reference := .none
  name : List Char := []
  text : List Char := []

namespace ValueState

def push (st : ValueState) (c : Char) : ValueState := { st with text := st.text ++ [c] }

def resolve (lookup : String → String) (st : ValueState) : ValueState :=
  { st with
    text := st.text ++ (lookup (String.ofList st.name)).toList
    name := [] }

def refer (lookup : String → String) (st : ValueState) (c : Char) : ValueState :=
  if isAlphanumeric c then { st with name := st.name ++ [c] }
  else match st.reference with
    | .braced =>
      if c = '\x7d' then (st.resolve lookup |> fun st => { st with reference := .none })
      else { st with name := st.name ++ [c] }
    | _ =>
      if c = '\x7b' && st.name.isEmpty then { st with reference := .braced }
      else
        let st := st.resolve lookup
        if c = '$' then { st with reference := .bare }
        else { st with reference := .none }.push c

def unescape (st : ValueState) (c : Char) : Option ValueState :=
  let st := { st with escaped := false }
  if c = '\\' ∨ c = '\'' ∨ c = '"' ∨ c = '$' ∨ c = ' ' then some (st.push c)
  else if c = 'n' then some (st.push '\n')
  else none

end ValueState

def readValueChars (lookup : String → String) (st : ValueState) :
    List Char → Option ValueState
  | [] => some st
  | c :: rest =>
    if st.ending then
      if c = ' ' ∨ c = '\t' then readValueChars lookup st rest
      else if c = '#' then some st
      else none
    else if st.escaped then
      match st.unescape c with
      | some st => readValueChars lookup st rest
      | none => none
    else if st.strong then
      if c = '\'' then readValueChars lookup { st with strong := false } rest
      else readValueChars lookup (st.push c) rest
    else if st.reference ≠ .none then readValueChars lookup (st.refer lookup c) rest
    else if c = '$' then readValueChars lookup { st with reference := .bare } rest
    else if st.weak then
      if c = '"' then readValueChars lookup { st with weak := false } rest
      else if c = '\\' then readValueChars lookup { st with escaped := true } rest
      else readValueChars lookup (st.push c) rest
    else if c = '\'' then readValueChars lookup { st with strong := true } rest
    else if c = '"' then readValueChars lookup { st with weak := true } rest
    else if c = '\\' then readValueChars lookup { st with escaped := true } rest
    else if c = ' ' ∨ c = '\t' then readValueChars lookup { st with ending := true } rest
    else readValueChars lookup (st.push c) rest

def readValue (lookup : String → String) (s : List Char) : Option String := do
  let st ← readValueChars lookup {} s
  if st.strong ∨ st.weak ∨ st.reference = .braced then none
  else some (String.ofList (st.resolve lookup).text)

def setting? (vars : Variables) (name : String) : Option String :=
  (vars.find? (·.1 == name)).map (·.2)

def lookupIn (vars given : Variables) (name : String) : String :=
  match setting? vars name with
  | some v => v
  | none => (setting? given name).getD ""

def readLineOf (vars given : Variables) (s : List Char) : Option (Option (String × String)) :=
  let s := skipBlanks (trimBlanksEnd s)
  match s with
  | [] => some none
  | '#' :: _ => some none
  | _ => do
    let (key, rest) ← readAssignment s
    match skipBlanks rest with
    | [] => some (some (String.ofList key, ""))
    | '#' :: _ => some (some (String.ofList key, ""))
    | rest =>
      let value ← readValue (lookupIn vars given) rest
      some (some (String.ofList key, value))

def setVariables (vars given : Variables) : List (List Char) → Variables
  | [] => vars
  | line :: rest =>
    match readLineOf vars given line with
    | none => vars
    | some none => setVariables vars given rest
    | some (some (name, value)) =>
      let given := (name, value) :: given
      match setting? vars name with
      | some _ => setVariables vars given rest
      | none => setVariables (vars ++ [(name, value)]) given rest

def loadVariables (vars : Variables) (text : String) : Variables :=
  setVariables vars [] (partsOf '\n' text.toList)

end TagListing.Program
