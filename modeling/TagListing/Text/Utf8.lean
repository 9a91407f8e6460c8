/-!
Characters of bytes that may be no text. What is read is a row of signs: the characters in their
order, and in place of each byte that belongs to none an empty sign.
-/
namespace TagListing.Text

abbrev Sign := Option Char

def signs (s : List Char) : List Sign := s.map some

def utf8Bytes (s : List Char) : List UInt8 := s.flatMap String.utf8EncodeChar

def continued? (b : UInt8) : Option Nat :=
  if 0x80 ≤ b ∧ b < 0xC0 then some (b.toNat - 0x80) else none

def codePoint? (least n : Nat) : Option Char :=
  if least ≤ n ∧ n.isValidChar then some (Char.ofNat n) else none

def ofTwo? (a b : UInt8) : Option Char := do
  let y ← continued? b
  if 0xC0 ≤ a ∧ a < 0xE0 then codePoint? 0x80 ((a.toNat - 0xC0) * 0x40 + y) else none

def ofThree? (a b c : UInt8) : Option Char := do
  let y ← continued? b
  let z ← continued? c
  if 0xE0 ≤ a ∧ a < 0xF0 then codePoint? 0x800 (((a.toNat - 0xE0) * 0x40 + y) * 0x40 + z)
  else none

def ofFour? (a b c d : UInt8) : Option Char := do
  let x ← continued? b
  let y ← continued? c
  let z ← continued? d
  if 0xF0 ≤ a ∧ a < 0xF8 then
    codePoint? 0x10000 ((((a.toNat - 0xF0) * 0x40 + x) * 0x40 + y) * 0x40 + z)
  else none

def longFront? : List UInt8 → Option (Char × List UInt8)
  | a :: b :: rest =>
    match ofTwo? a b, rest with
    | some c, rest => some (c, rest)
    | none, c :: rest =>
      match ofThree? a b c, rest with
      | some c, rest => some (c, rest)
      | none, d :: rest => (ofFour? a b c d).map (·, rest)
      | none, [] => none
    | none, [] => none
  | _ => none

def readSigns : Nat → List UInt8 → List Sign
  | 0, _ => []
  | _ + 1, [] => []
  | n + 1, b :: rest =>
    if b < 0x80 then some (Char.ofNat b.toNat) :: readSigns n rest
    else match longFront? (b :: rest) with
      | some (c, rest) => some c :: readSigns n rest
      | none => none :: readSigns n rest

def signsOf (bytes : List UInt8) : List Sign := readSigns bytes.length bytes

end TagListing.Text
