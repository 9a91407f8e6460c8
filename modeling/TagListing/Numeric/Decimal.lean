import TagListing.Numeric.Binary64
/-!
Decimal text of doubles. Reading rounds correctly. Writing takes the fewest digits that read back,
the nearest of those; a `DecimalForm` says how the digits are laid out. The literal grammar is the
one of number settings: digits, a point, an exponent, or a name of infinity or of no number.
-/
namespace TagListing.Numeric

structure Decimal where
  negative : Bool
  significand : Nat
  exponent : Int
  deriving DecidableEq, Repr

def digitValue (c : Char) : Nat := c.toNat - '0'.toNat

def readDigits (first : Nat) (digits : List Char) : Nat :=
  digits.foldl (fun n c => 10 * n + digitValue c) first

def digitChars (n : Nat) : List Char := Nat.toDigits 10 n

namespace Decimal

def digitCount (n : Nat) : Nat := (digitChars n).length

/- The double nearest to a decimal. Far outside the range the answer needs no arithmetic. -/
def toBinary64 (d : Decimal) : Binary64 :=
  if d.significand = 0 then .zero d.negative
  else
    let magnitude := d.exponent + digitCount d.significand
    if 400 < magnitude then .infinite d.negative
    else if magnitude < -400 then .zero d.negative
    else if 0 ≤ d.exponent then
      .nearest d.negative (d.significand * tenTo d.exponent.toNat) 1
    else .nearest d.negative d.significand (tenTo (-d.exponent).toNat)

def trimZeros (fuel : Nat) (significand : Nat) (exponent : Int) : Nat × Int :=
  match fuel with
  | 0 => (significand, exponent)
  | fuel + 1 =>
    if significand ≠ 0 ∧ significand % 10 = 0 then
      trimZeros fuel (significand / 10) (exponent + 1)
    else (significand, exponent)

end Decimal

def againstDecimal (num den d : Nat) (k : Int) : Nat × Nat :=
  if 0 ≤ k then (num, d * tenTo k.toNat * den) else (num * tenTo (-k).toNat, d * den)

def leadingExponent (num den : Nat) : Int :=
  if den ≤ num then (Decimal.digitCount (num / den) : Int) - 1
  else search 400 0 num
where
  search : Nat → Nat → Nat → Int
    | 0, places, _ => -places
    | fuel + 1, places, n =>
      if den ≤ n then -places else search fuel (places + 1) (n * 10)

/-- The reals that round to a finite double: its two midpoints, which belong to it iff the
mantissa is even. Below a power of two the gap is half as wide. -/
structure RoundingInterval where
  low : Nat × Nat
  high : Nat × Nat
  closed : Bool

def RoundingInterval.of (mantissa : Nat) (exponent : Int) : RoundingInterval :=
  let low :=
    if mantissa = twoTo 52 ∧ Binary64.minExponent < exponent then
      Binary64.fraction (4 * mantissa - 1) (exponent - 2)
    else Binary64.fraction (2 * mantissa - 1) (exponent - 1)
  ⟨low, Binary64.fraction (2 * mantissa + 1) (exponent - 1), mantissa % 2 == 0⟩

def RoundingInterval.admits (i : RoundingInterval) (d : Nat) (k : Int) : Bool :=
  let (ln, ld) := againstDecimal i.low.1 i.low.2 d k
  let (hn, hd) := againstDecimal i.high.1 i.high.2 d k
  if i.closed then ln ≤ ld && hd ≤ hn else ln < ld && hd < hn

inductive Tie where
  | up
  | even
  deriving DecidableEq, Repr

/-- The shortest decimal that reads back as the double, and of those the nearest. -/
def shortest (tie : Tie) (mantissa : Nat) (exponent : Int) : Nat × Int :=
  let (num, den) := Binary64.fraction mantissa exponent
  let interval := RoundingInterval.of mantissa exponent
  let top := leadingExponent num den
  let (d, k) := search tie interval num den top 17 1
  Decimal.trimZeros 400 d k
where
  below (num den : Nat) (k : Int) : Nat :=
    if 0 ≤ k then num / (den * tenTo k.toNat) else num * tenTo (-k).toNat / den
  takesUpper (tie : Tie) (num den d : Nat) (k : Int) : Bool :=
    let (n, m) := againstDecimal (2 * num) den (2 * d + 1) k
    m < n || (m == n && (tie == .up || d % 2 == 1))
  search (tie : Tie) (interval : RoundingInterval) (num den : Nat) (top : Int) :
      Nat → Nat → Nat × Int
    | 0, places => (below num den (top + 1 - places), top + 1 - places)
    | fuel + 1, places =>
      let k := top + 1 - (places : Int)
      let d := below num den k
      match interval.admits d k, interval.admits (d + 1) k with
      | true, true => if takesUpper tie num den d k then (d + 1, k) else (d, k)
      | true, false => (d, k)
      | false, true => (d + 1, k)
      | false, false => search tie interval num den top fuel (places + 1)

structure DecimalForm where
  positional : Int → Bool
  wholePoint : Bool
  tie : Tie

def DecimalForm.plain : DecimalForm := ⟨fun _ => true, false, .up⟩

def DecimalForm.pointed : DecimalForm := ⟨fun _ => true, true, .up⟩

/- Numbers of data exchange: an exponent below `1e-5` and from `1e+16` on. -/
def DecimalForm.exchange : DecimalForm := ⟨fun e => -5 ≤ e && e < 16, true, .even⟩

def zeros (n : Nat) : List Char := List.replicate n '0'

def positionalDigits (wholePoint : Bool) (digits : List Char) (k : Int) : List Char :=
  if 0 ≤ k then
    digits ++ zeros k.toNat ++ (if wholePoint then ['.', '0'] else [])
  else
    let places := (-k).toNat
    if places < digits.length then
      digits.take (digits.length - places) ++ '.' :: digits.drop (digits.length - places)
    else '0' :: '.' :: zeros (places - digits.length) ++ digits

def exponentDigits (digits : List Char) (top : Int) : List Char :=
  let head := match digits with
    | [d] => [d]
    | d :: rest => d :: '.' :: rest
    | [] => []
  head ++ 'e' :: (if top < 0 then '-' else '+') :: digitChars top.natAbs

def DecimalForm.write (form : DecimalForm) : Binary64 → String
  | .nan => "NaN"
  | .infinite s => if s then "-inf" else "inf"
  | .finite s m e =>
    let (d, k) := if m = 0 then (0, 0) else shortest form.tie m e
    let digits := digitChars d
    let top := k + digits.length - 1
    let body :=
      if form.positional top then positionalDigits form.wholePoint digits k
      else exponentDigits digits top
    String.ofList (if s then '-' :: body else body)

/-! ### Reading -/

def takeSign : List Char → Bool × List Char
  | '-' :: rest => (true, rest)
  | '+' :: rest => (false, rest)
  | s => (false, s)

def asciiLower (s : List Char) : List Char := s.map Char.toLower

def readExponent : List Char → Option Int
  | [] => some 0
  | c :: rest =>
    if c = 'e' ∨ c = 'E' then
      let (negative, digits) := takeSign rest
      if digits ≠ [] ∧ digits.all Char.isDigit then
        let n : Int := readDigits 0 digits
        some (if negative then -n else n)
      else none
    else none

/- Digits with at most one point among them, at least one digit, and an exponent part. -/
def readUnsignedDecimal (negative : Bool) (s : List Char) : Option Decimal :=
  let whole := s.takeWhile Char.isDigit
  let rest := s.dropWhile Char.isDigit
  let (places, rest) := match rest with
    | '.' :: r => (r.takeWhile Char.isDigit, r.dropWhile Char.isDigit)
    | r => ([], r)
  if whole = [] ∧ places = [] then none
  else
    (readExponent rest).map fun e =>
      ⟨negative, readDigits 0 (whole ++ places), e - places.length⟩

def readBinary64 (s : List Char) : Option Binary64 :=
  let (negative, body) := takeSign s
  match asciiLower body with
  | ['i', 'n', 'f'] => some (.infinite negative)
  | ['i', 'n', 'f', 'i', 'n', 'i', 't', 'y'] => some (.infinite negative)
  | ['n', 'a', 'n'] => some .nan
  | _ => (readUnsignedDecimal negative body).map Decimal.toBinary64

/-! ### Whole numbers -/

def int64Min : Int := -9223372036854775808
def int64Max : Int := 9223372036854775807

def fitsInt64 (i : Int) : Bool := int64Min ≤ i && i ≤ int64Max

def readInt64 (s : List Char) : Option Int :=
  let (negative, digits) := takeSign s
  if digits ≠ [] ∧ digits.all Char.isDigit then
    let n : Int := readDigits 0 digits
    let i := if negative then -n else n
    if fitsInt64 i then some i else none
  else none

def writeInt (i : Int) : String := toString i

/- The integer reduced to a width: the two's complement word that its low bits spell. -/
def wrapSigned (bits : Nat) (i : Int) : Int := Int.bmod i (twoTo bits)

def wrapUnsigned (bits : Nat) (i : Int) : Int := Int.emod i (twoTo bits)

end TagListing.Numeric
