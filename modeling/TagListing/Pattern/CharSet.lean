import TagListing.Text.Caseless
import TagListing.Text.Letter
import TagListing.Text.Utf8
/-!
Sets of characters as patterns write them: ranges, named classes, and what is made of two sets or of
one. A set without regard to case holds a character iff the set holds one of its case forms.
-/
namespace TagListing
open TagListing.Text

inductive CharClass where
  | digit
  | blank
  | wordChar
  | letter
  | mark
  | number
  | alphabetic
  deriving DecidableEq, Repr

def CharClass.holds : CharClass → Char → Bool
  | .digit => isDecimalDigit
  | .blank => isBlank
  | .wordChar => isWordChar
  | .letter => isLetter
  | .mark => isMark
  | .number => isNumeric
  | .alphabetic => isAlphabetic

inductive CharSet where
  | empty
  | range (first last : Nat)
  | named (c : CharClass)
  | union (a b : CharSet)
  | common (a b : CharSet)
  | without (a b : CharSet)
  /- What exactly one of the two holds. -/
  | differing (a b : CharSet)
  | complement (a : CharSet)
  | anyCase (a : CharSet)
  deriving DecidableEq, Repr

namespace CharSet

def holds : CharSet → Char → Bool
  | .empty, _ => false
  | .range first last, c => first ≤ c.toNat && c.toNat ≤ last
  | .named n, c => n.holds c
  | .union a b, c => a.holds c || b.holds c
  | .common a b, c => a.holds c && b.holds c
  | .without a b, c => a.holds c && !b.holds c
  | .differing a b, c => a.holds c != b.holds c
  | .complement a, c => !a.holds c
  | .anyCase a, c => (caseForms c).any a.holds

def holdsSign (s : CharSet) : Sign → Bool
  | some c => s.holds c
  | none => false

def single (c : Char) : CharSet := .range c.toNat c.toNat

def all : CharSet := .range 0 0x10FFFF

def ofRanges : List (Nat × Nat) → CharSet
  | [] => .empty
  | r :: rest => .union (.range r.1 r.2) (ofRanges rest)

def ofChars (cs : List Char) : CharSet := ofRanges (cs.map fun c => (c.toNat, c.toNat))

/-! ### Classes of the first 128 characters -/

def upper : CharSet := .range 0x41 0x5A

def lower : CharSet := .range 0x61 0x7A

def digits : CharSet := .range 0x30 0x39

def letters : CharSet := .union upper lower

def lettersAndDigits : CharSet := .union letters digits

def plainWord : CharSet := .union lettersAndDigits (single '_')

def plainBlank : CharSet := .union (.range 9 13) (single ' ')

def punctuation : CharSet := ofRanges [(0x21, 0x2F), (0x3A, 0x40), (0x5B, 0x60), (0x7B, 0x7E)]

def colonClasses : List (String × CharSet) := [
  ("alnum", lettersAndDigits), ("alpha", letters), ("ascii", .range 0 0x7F),
  ("blank", ofChars ['\t', ' ']), ("cntrl", ofRanges [(0, 0x1F), (0x7F, 0x7F)]),
  ("digit", digits), ("graph", .range 0x21 0x7E), ("lower", lower), ("print", .range 0x20 0x7E),
  ("punct", punctuation), ("space", plainBlank), ("upper", upper), ("word", plainWord),
  ("xdigit", ofRanges [(0x30, 0x39), (0x41, 0x46), (0x61, 0x66)])]

def bracedClasses : List (String × CharSet) := [
  ("any", all), ("ascii", .range 0 0x7F), ("l", .named .letter), ("letter", .named .letter),
  ("m", .named .mark), ("mark", .named .mark), ("n", .named .number), ("number", .named .number),
  ("nd", .named .digit), ("decimalnumber", .named .digit), ("alphabetic", .named .alphabetic),
  ("alpha", .named .alphabetic), ("whitespace", .named .blank), ("space", .named .blank)]

end CharSet
end TagListing
