import TagListing.Numeric.Decimal
import Mathlib.Data.List.Basic

/-! Whole numbers as decimal text with a sign or without one. What is written for a number reads back as
that number, up to both ends of 64 bits. Superfluous zeros in front are not claimed. -/
namespace TagListing.Numeric

/- The decimal digits of a whole number, a minus before those of a negative one. -/
inductive Numeral : List Char → Int → Prop where
  | plain (n : Nat) : Numeral (digitChars n) n
  | plus (n : Nat) : Numeral ('+' :: digitChars n) n
  | minus (n : Nat) : Numeral ('-' :: digitChars n) (-n)

theorem numeralWritten (i : Int) : Numeral (writeInt i).toList i := by
  cases i with
  | ofNat n =>
    have text : (writeInt (.ofNat n)).toList = digitChars n := Nat.toList_repr
    rw [text]
    exact .plain n
  | negSucc n =>
    have text : (writeInt (.negSucc n)).toList = '-' :: digitChars (n + 1) := by
      rw [writeInt, Int.toString_eq_repr, Int.repr_eq_if, if_neg (by omega), String.toList_append,
        Nat.toList_repr]
      rfl
    rw [text, Int.negSucc_eq]
    exact .minus (n + 1)

theorem digitsRead (n : Nat) : readDigits 0 (digitChars n) = n := Nat.ofDigitChars_ten_toDigits

theorem digitsAll {n : Nat} {c : Char} (member : c ∈ digitChars n) : c.isDigit = true :=
  Nat.isDigit_of_mem_toDigits (by decide) (by decide) member

theorem signApart (n : Nat) : takeSign (digitChars n) = (false, digitChars n) := by
  unfold takeSign
  split
  · rename_i rest same
    have sign : '-' ∈ digitChars n := same ▸ List.mem_cons_self
    exact absurd (digitsAll sign) (by decide)
  · rename_i rest same
    have sign : '+' ∈ digitChars n := same ▸ List.mem_cons_self
    exact absurd (digitsAll sign) (by decide)
  · rfl

theorem numeralRead {text : List Char} {i : Int} (numeral : Numeral text i)
    (fits : fitsInt64 i = true) : readInt64 text = some i := by
  have good (n : Nat) : digitChars n ≠ [] ∧ (digitChars n).all Char.isDigit = true :=
    ⟨Nat.toDigits_ne_nil, List.all_eq_true.mpr fun _ member => digitsAll member⟩
  cases numeral with
  | plain n => simp only [readInt64, signApart, if_pos (good n), digitsRead, Bool.false_eq_true,
      if_false, fits, if_true]
  | plus n => simp only [readInt64, takeSign, if_pos (good n), digitsRead, Bool.false_eq_true,
      if_false, fits, if_true]
  | minus n => simp only [readInt64, takeSign, if_pos (good n), digitsRead, fits, if_true]

theorem numeralHead {text : List Char} {i : Int} (numeral : Numeral text i) :
    ∃ c rest, text = c :: rest ∧ (c = '+' ∨ c = '-' ∨ c.isDigit = true) := by
  cases numeral with
  | plain n =>
    obtain ⟨c, rest, same⟩ := List.exists_cons_of_ne_nil (l := digitChars n) Nat.toDigits_ne_nil
    exact ⟨c, rest, same, .inr (.inr (digitsAll (same ▸ List.mem_cons_self)))⟩
  | plus n => exact ⟨_, _, rfl, .inl rfl⟩
  | minus n => exact ⟨_, _, rfl, .inr (.inl rfl)⟩

end TagListing.Numeric
