import TagListing.Text.Parts
/-!
The command line: one option with a file, help and version. Words are read in order and the first
fault ends the reading; that the option was given twice is noticed at the end.
-/
namespace TagListing.Program
open TagListing.Text (cutAt?)

inductive LineStop where
  | help
  | version
  | emptyValue
  | repeatedOption
  | unknownWord
  | needlessValue
  deriving DecidableEq, Repr

def LineStop.isFault : LineStop → Bool
  | .help => false
  | .version => false
  | _ => true

structure LineState where
  values : List String
  given : Nat
  waiting : Bool

def LineState.start : LineState := ⟨[], 0, false⟩

def LineState.take (s : LineState) (value : String) : LineState :=
  ⟨s.values ++ [value], s.given + 1, false⟩

def cutValue (s : List Char) : String × Option String :=
  match cutAt? '=' s with
  | some (name, value) => (String.ofList name, some (String.ofList value))
  | none => (String.ofList s, none)

def readLong (st : LineState) (s : List Char) : Except LineStop LineState :=
  match cutValue s with
  | ("config", some value) => .ok (st.take value)
  | ("config", none) => .ok { st with given := st.given + 1, waiting := true }
  | ("help", none) => .error .help
  | ("version", none) => .error .version
  | ("help", some _) => .error .needlessValue
  | ("version", some _) => .error .needlessValue
  | _ => .error .unknownWord

/- Letters after one dash. The option takes the letters after it as its value, without one
equals sign before them. -/
def readShort (st : LineState) : List Char → Except LineStop LineState
  | 'c' :: [] => .ok { st with given := st.given + 1, waiting := true }
  | 'c' :: '=' :: value => .ok (st.take (String.ofList value))
  | 'c' :: value => .ok (st.take (String.ofList value))
  | 'h' :: _ => .error .help
  | 'V' :: _ => .error .version
  | _ => .error .unknownWord

def readWords (st : LineState) : List String → Except LineStop LineState
  | [] => .ok st
  | w :: rest =>
    match w.toList with
    | ['-', '-'] => if rest.isEmpty then .ok st else .error .unknownWord
    | '-' :: '-' :: long =>
      match readLong st long with
      | .ok st => readWords st rest
      | .error e => .error e
    | '-' :: c :: short =>
      match readShort st (c :: short) with
      | .ok st => readWords st rest
      | .error e => .error e
    | _ =>
      if st.waiting then readWords { st with values := st.values ++ [w], waiting := false } rest
      else .error .unknownWord

def readLine (words : List String) : Except LineStop (Option String) :=
  match readWords .start words with
  | .error e => .error e
  | .ok st =>
    match st.values with
    | [] => if st.given = 0 then .ok none else .error .emptyValue
    | value :: _ => if 1 < st.given then .error .repeatedOption else .ok (some value)

end TagListing.Program
