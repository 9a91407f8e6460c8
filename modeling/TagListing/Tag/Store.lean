import TagListing.Tag.Basic
import TagListing.Failure
/-!
Stores of tags. A store lists its tags in an order of its own and may change its state by that.
`Store.fixed` answers one list for ever; `Store.scripted` answers from a script and counts.
-/
namespace TagListing

structure Store (σ : Type) where
  listAll : σ → Except Failure (List Tag) × σ
  prepare : σ → Except Failure Unit × σ

namespace Store

def fixed (names : List String) : Store Unit where
  listAll s := (.ok (names.map Tag.mk), s)
  prepare s := (.ok (), s)

/- The answer for one call of a script; the last answer is repeated, an empty script has no
tags. -/
def scriptAnswer : List (Except Failure (List Tag)) → Nat → Except Failure (List Tag)
  | [], _ => .ok []
  | [a], _ => a
  | a :: _ :: _, 0 => a
  | _ :: b :: rest, n + 1 => scriptAnswer (b :: rest) n

def scripted (script : List (Except Failure (List Tag))) : Store Nat where
  listAll n := (scriptAnswer script n, n + 1)
  prepare n := (.ok (), n)

end Store
end TagListing
