import TagListing.Text.Case
/-!
Letters without regard to case. Letters that differ in case only share a form: the small letter,
and for the variants of a small letter the plain one.
-/
namespace TagListing.Text

def letterVariants : List (Nat × Nat) := [
  (0xB5, 0x3BC), (0x17F, 0x73), (0x345, 0x3B9), (0x3C2, 0x3C3), (0x3D0, 0x3B2), (0x3D1, 0x3B8),
  (0x3D5, 0x3C6), (0x3D6, 0x3C0), (0x3F0, 0x3BA), (0x3F1, 0x3C1), (0x3F5, 0x3B5),
  (0x1C80, 0x432), (0x1C81, 0x434), (0x1C82, 0x43E), (0x1C83, 0x441), (0x1C84, 0x442),
  (0x1C85, 0x442), (0x1C86, 0x44A), (0x1C87, 0x463), (0x1C88, 0xA64B), (0x1E9B, 0x1E61),
  (0x1FBE, 0x3B9), (0x1FD3, 0x390), (0x1FE3, 0x3B0), (0xFB05, 0xFB06)]

def smallLetter (c : Char) : Char :=
  match lowerChar c with
  | [small] => small
  | _ => c

def caseless (c : Char) : Char :=
  let small := smallLetter c
  match letterVariants.find? (·.1 == small.toNat) with
  | some variant => Char.ofNat variant.2
  | none => small

def CaseRun.capital? (r : CaseRun) (small : Char) : Option Char :=
  let n := ((small.toNat : Int) - r.distance).toNat
  if r.holds n then some (Char.ofNat n) else none

def capitalLetters (small : Char) : List Char := caseRuns.filterMap (·.capital? small)

def caseForms (c : Char) : List Char :=
  let form := caseless c
  form :: capitalLetters form ++
    (letterVariants.filter (·.2 == form.toNat)).map fun variant => Char.ofNat variant.1

end TagListing.Text
