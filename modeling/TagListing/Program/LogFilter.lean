import TagListing.Pattern.Reader
import TagListing.Text.Letter
import TagListing.Text.Parts
/-!
The filter of the log. Directives are divided by commas, each for all targets or for those whose
name starts with a given text; the longest text that fits decides, of equal ones the last. Without
directives errors are let through. What follows a slash is a pattern that texts must have in them.
-/
namespace TagListing.Program
open TagListing.Text (partsOf signs trimBlanks)

inductive LogLevel where
  | off
  | error
  | warn
  | info
  | debug
  | trace
  deriving DecidableEq, Repr

namespace LogLevel

def rank : LogLevel → Nat
  | .off => 0
  | .error => 1
  | .warn => 2
  | .info => 3
  | .debug => 4
  | .trace => 5

def names : List (String × LogLevel) :=
  [("off", .off), ("error", .error), ("warn", .warn), ("info", .info), ("debug", .debug),
    ("trace", .trace)]

def ofName? (name : String) : Option LogLevel :=
  (names.find? (·.1 == String.ofList (name.toList.map Char.toLower))).map (·.2)

end LogLevel

structure Directive where
  target : String
  level : LogLevel
  deriving DecidableEq, Repr

/- One directive. A word that is no level is a target that may log all; a directive with an
unknown level, or with two levels, is passed over. -/
def readDirective (s : List Char) : Option Directive :=
  match partsOf '=' s with
  | [[]] => none
  | [word] =>
    match LogLevel.ofName? (String.ofList word) with
    | some level => some ⟨"", level⟩
    | none => some ⟨String.ofList word, .trace⟩
  | [target, level] =>
    match trimBlanks level with
    | [] => some ⟨String.ofList target, .trace⟩
    | name => (LogLevel.ofName? (String.ofList name)).map (⟨String.ofList target, ·⟩)
  | _ => none

structure LogFilter where
  directives : List Directive
  pattern : Option Pattern
  deriving DecidableEq, Repr

def readDirectives (s : List Char) : List Directive := (partsOf ',' s).filterMap readDirective

/- A filter. A pattern that cannot be read is left out; more than one slash spoils all of it. -/
def LogFilter.read (filter : String) : LogFilter :=
  match partsOf '/' filter.toList with
  | [directives] => ⟨readDirectives directives, none⟩
  | [directives, pattern] => ⟨readDirectives directives, Pattern.read pattern⟩
  | _ => ⟨[], none⟩

/- The longest directive that fits, the last of equally long ones. -/
def longest (target : String) (found : Option Directive) : List Directive → Option Directive
  | [] => found
  | d :: rest =>
    if d.target.toList.isPrefixOf target.toList &&
        (match found with | some e => e.target.utf8ByteSize ≤ d.target.utf8ByteSize | none => true)
    then longest target (some d) rest
    else longest target found rest

namespace LogFilter

def admits (f : LogFilter) (target : String) (level : LogLevel) : Bool :=
  match f.directives with
  | [] => level.rank ≤ LogLevel.error.rank
  | directives =>
    match longest target none directives with
    | some d => level.rank ≤ d.level.rank
    | none => false

def letsThrough (f : LogFilter) (target : String) (level : LogLevel) (text : String) : Bool :=
  f.admits target level &&
    match f.pattern with
    | some p => p.isFoundIn (signs text.toList)
    | none => true

end LogFilter

end TagListing.Program
