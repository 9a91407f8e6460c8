import TagListing.Numeric.Power
/-!
Double-precision numbers as exact data: a finite number is `± mantissa · 2 ^ exponent`, so every
rounding below is integer arithmetic. `nearest` is the only rounding; ties go to the even mantissa.
Nothing here reads or writes text.
-/
namespace TagListing.Numeric

inductive Binary64 where
  | nan
  | infinite (negative : Bool)
  | finite (negative : Bool) (mantissa : Nat) (exponent : Int)
  deriving DecidableEq, Repr

/- The quotient rounded to the nearest natural number, a tie to the even one. -/
def roundQuotient (num den : Nat) : Nat :=
  let q := num / den
  let twice := 2 * (num % den)
  if twice < den then q
  else if den < twice then q + 1
  else if q % 2 = 0 then q else q + 1

def scaledPair (num den : Nat) (shift : Int) : Nat × Nat :=
  if 0 ≤ shift then (num * twoTo shift.toNat, den) else (num, den * twoTo (-shift).toNat)

namespace Binary64

def minExponent : Int := -1074

def maxExponent : Int := 971

def zero (negative : Bool) : Binary64 := .finite negative 0 minExponent

/- The exponent at which `num / den` has 53 significant bits, or the smallest one. -/
def gridExponent (num den : Nat) : Int :=
  let k : Int := (num.log2 : Int) - den.log2
  let (n, d) := scaledPair num den (-k)
  max minExponent (if d ≤ n then k - 52 else k - 53)

/- A rounded mantissa of 54 bits is the power of two above; too large an exponent is infinite. -/
def settle (negative : Bool) (mantissa : Nat) (exponent : Int) : Binary64 :=
  let (m, e) := if mantissa = twoTo 53 then (twoTo 52, exponent + 1) else (mantissa, exponent)
  if maxExponent < e then .infinite negative else .finite negative m e

def nearest (negative : Bool) (num den : Nat) : Binary64 :=
  if num = 0 then zero negative
  else
    let e := gridExponent num den
    let (n, d) := scaledPair num den (-e)
    settle negative (roundQuotient n d) e

def ofNat (n : Nat) : Binary64 := nearest false n 1

def ofInt : Int → Binary64
  | .ofNat n => nearest false n 1
  | .negSucc n => nearest true (n + 1) 1

def isFinite : Binary64 → Bool
  | .finite .. => true
  | _ => false

def isZero : Binary64 → Bool
  | .finite _ m _ => m == 0
  | _ => false

def negate : Binary64 → Binary64
  | .nan => .nan
  | .infinite s => .infinite !s
  | .finite s m e => .finite (!s) m e

def scaleUp (a b : Binary64) : Binary64 :=
  match a, b with
  | .finite s m e, .finite t n f =>
    let (x, y) := scaledPair (m * n) 1 (e + f)
    nearest (s != t) x y
  | .nan, _ => .nan
  | _, .nan => .nan
  | .infinite s, b => if b.isZero then .nan else .infinite (s != isNegative b)
  | a, .infinite t => if a.isZero then .nan else .infinite (isNegative a != t)
where
  isNegative : Binary64 → Bool
    | .nan => false
    | .infinite s => s
    | .finite s _ _ => s

def scaleDown (a b : Binary64) : Binary64 :=
  match a, b with
  | .finite s m e, .finite t n f =>
    let (x, y) := scaledPair m n (e - f)
    nearest (s != t) x y
  | a, _ => a

def fraction (mantissa : Nat) (exponent : Int) : Nat × Nat := scaledPair mantissa 1 exponent

/-- The nearest integer, halves away from zero; not a number counts as zero and an infinity as
a number beyond every bound. The result is clamped to `low … high`. -/
def roundClamped (low high : Int) : Binary64 → Int
  | .nan => 0
  | .infinite true => low
  | .infinite false => high
  | .finite s m e =>
    let (n, d) := fraction m e
    let r : Int := ((2 * n + d) / (2 * d) : Nat)
    max low (min high (if s then -r else r))

end Binary64
end TagListing.Numeric
