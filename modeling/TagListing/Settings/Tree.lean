import TagListing.Numeric.Decimal
/-!
The settings tree. A value remembers where it came from, a file or the environment; a table made
by merging came from nowhere. Entries of a table have one value per name and no order of their own.
-/
namespace TagListing.Settings
open TagListing.Numeric

inductive Scalar where
  | nil
  | bool (b : Bool)
  | int (i : Int)
  | float (x : Binary64)
  | text (s : String)
  deriving DecidableEq, Repr

abbrev Origin := Option String

inductive Tree where
  | scalar (origin : Origin) (value : Scalar)
  | list (origin : Origin) (items : List Tree)
  | table (origin : Origin) (entries : List (String × Tree))
  deriving Repr

mutual
def Tree.decideEq : (t u : Tree) → Decidable (t = u)
  | .scalar o v, .scalar o' v' => decidable_of_iff (o = o' ∧ v = v') (by simp)
  | .list o items, .list o' items' =>
    have := decideItemsEq items items'
    decidable_of_iff (o = o' ∧ items = items') (by simp)
  | .table o es, .table o' es' =>
    have := decideEntriesEq es es'
    decidable_of_iff (o = o' ∧ es = es') (by simp)
  | .scalar .., .list .. | .scalar .., .table .. | .list .., .scalar .. | .list .., .table ..
  | .table .., .scalar .. | .table .., .list .. => isFalse nofun

def decideItemsEq : (ts us : List Tree) → Decidable (ts = us)
  | [], [] => isTrue rfl
  | t :: ts, u :: us =>
    have := t.decideEq u
    have := decideItemsEq ts us
    decidable_of_iff (t = u ∧ ts = us) (by simp)
  | [], _ :: _ | _ :: _, [] => isFalse nofun

def decideEntriesEq : (es fs : List (String × Tree)) → Decidable (es = fs)
  | [], [] => isTrue rfl
  | (name, t) :: es, (other, u) :: fs =>
    have := t.decideEq u
    have := decideEntriesEq es fs
    decidable_of_iff ((name = other ∧ t = u) ∧ es = fs) (by simp)
  | [], _ :: _ | _ :: _, [] => isFalse nofun
end

instance : DecidableEq Tree := Tree.decideEq

namespace Tree

def origin : Tree → Origin
  | .scalar o _ => o
  | .list o _ => o
  | .table o _ => o

def nil : Tree := .scalar none .nil

def emptyTable : Tree := .table none []

def isNil : Tree → Bool
  | .scalar _ .nil => true
  | _ => false

end Tree

def entryAt? (name : String) : List (String × Tree) → Option Tree
  | [] => none
  | (other, t) :: rest => if name = other then some t else entryAt? name rest

def putEntry (name : String) (t : Tree) : List (String × Tree) → List (String × Tree)
  | [] => [(name, t)]
  | (other, u) :: rest =>
    if name = other then (name, t) :: rest else (other, u) :: putEntry name t rest

namespace Tree

def entries : Tree → List (String × Tree)
  | .table _ es => es
  | _ => []

def items : Tree → List Tree
  | .list _ ts => ts
  | _ => []

def field? (name : String) (t : Tree) : Option Tree := entryAt? name t.entries

/- What is no table becomes a new one. -/
def put (t : Tree) (name : String) (value : Tree) : Tree :=
  match t with
  | .table o es => .table o (putEntry name value es)
  | _ => .table none [(name, value)]

end Tree

/-! ### What a source of settings gives -/

/- The names of one table differ, at every depth that names alone reach. -/
inductive Tree.Distinct : Tree → Prop where
  | scalar (o v) : Distinct (.scalar o v)
  | list (o items) : Distinct (.list o items)
  | table {o es} (names : (es.map Prod.fst).Nodup) (inner : ∀ e ∈ es, Distinct e.2) :
      Distinct (.table o es)

def EntriesDistinct (es : List (String × Tree)) : Prop :=
  (es.map Prod.fst).Nodup ∧ ∀ e ∈ es, e.2.Distinct

inductive Tree.Every (of : Scalar → Prop) : Tree → Prop where
  | scalar (o) {v} (holds : of v) : Every of (.scalar o v)
  | list (o) {items} (inner : ∀ t ∈ items, Every of t) : Every of (.list o items)
  | table (o) {es} (inner : ∀ e ∈ es, Every of e.2) : Every of (.table o es)

def EveryEntry (of : Scalar → Prop) (es : List (String × Tree)) : Prop := ∀ e ∈ es, e.2.Every of

def Scalar.Fits : Scalar → Prop
  | .int i => fitsInt64 i = true
  | _ => True

abbrev Tree.Fits : Tree → Prop := Tree.Every Scalar.Fits

abbrev EntriesFit : List (String × Tree) → Prop := EveryEntry Scalar.Fits

/-! ### Entries that were set -/

theorem entryPutSame (name : String) (t : Tree) (es : List (String × Tree)) :
    entryAt? name (putEntry name t es) = some t := by
  induction es with
  | nil => simp [putEntry, entryAt?]
  | cons e es ih =>
    obtain ⟨other, u⟩ := e
    by_cases h : name = other <;> simp [putEntry, entryAt?, h, ih]

theorem entryPutOther {name other : String} (h : name ≠ other) (t : Tree)
    (es : List (String × Tree)) : entryAt? name (putEntry other t es) = entryAt? name es := by
  induction es with
  | nil => simp [putEntry, entryAt?, h]
  | cons e es ih =>
    obtain ⟨third, u⟩ := e
    by_cases h₁ : other = third
    · subst h₁; simp [putEntry, entryAt?, h]
    · by_cases h₂ : name = third <;> simp [putEntry, entryAt?, h₁, h₂, ih]

end TagListing.Settings
