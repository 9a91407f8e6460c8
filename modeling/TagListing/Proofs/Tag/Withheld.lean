import TagListing.Proofs.Tag.Served
import Mathlib.Data.List.Forall2

/-! What a client may learn from the tag endpoint. Two runs are set side by side. They agree in the
methods and paths of their requests and in what their stores answer, up to failures that are no
concern of a client. Nothing relates the rest of the requests, nor what the stores keep. How long an
answer takes is not claimed. -/
namespace TagListing
open Http

/-! ### What two runs may differ in -/

def Withheld (f : Failure) : Prop :=
  (∀ reason, f ≠ .unauthorized reason) ∧ ∀ reason, f ≠ .disconnected reason

inductive Alike : Except Failure (List Tag) → Except Failure (List Tag) → Prop where
  | same (answer) : Alike answer answer
  | withheld {f g : Failure} (left : Withheld f) (right : Withheld g) : Alike (.error f) (.error g)

/- Query, headers and body are free. -/
structure SamePlace (r other : Request) : Prop where
  method : r.method = other.method
  path : r.path = other.path

theorem alikeResponse (envelope : Bool) {answer other : Except Failure (List Tag)}
    (alike : Alike answer other) :
    listingResponse envelope answer = listingResponse envelope other := by
  cases alike with
  | same => rfl
  | withheld left right =>
    simp only [listingResponse, hiddenResponse left.1 left.2, hiddenResponse right.1 right.2]

theorem placeRouted {r other : Request} (place : SamePlace r other) : Routed r ↔ Routed other := by
  simp only [Routed, place.method, place.path]

/-! ### Two runs -/

variable {σ τ : Type}

/- The responses are told apart by nothing but the places asked for and what the stores tell of
themselves, the later ones included. -/
theorem nothingElseTold (envelope : Bool) (store : Store σ) (other : Store τ)
    {requests others : List Request} (places : List.Forall₂ SamePlace requests others)
    {s : σ} {t : τ}
    (answers : ∀ n < calls requests, Alike (store.answerAt s n) (other.answerAt t n)) :
    (serve (tagApp envelope store) requests s).1 = (serve (tagApp envelope other) others t).1 := by
  induction places generalizing s t with
  | nil => rfl
  | @cons r r' rest rest' place places ih =>
    by_cases routed : Routed r
    · have also := (placeRouted place).mp routed
      have one : calls (r :: rest) = calls rest + 1 := List.countP_cons_of_pos (by simpa)
      have first : Alike (store.listAll s).1 (other.listAll t).1 := answers 0 (by omega)
      have later := ih (s := (store.listAll s).2) (t := (other.listAll t).2) fun n less =>
        answers (n + 1) (by omega)
      simp only [serve, routedAnswer envelope store routed, routedAnswer envelope other also,
        alikeResponse envelope first, later]
    · have also : ¬ Routed r' := fun there => routed ((placeRouted place).mpr there)
      have none : calls (r :: rest) = calls rest := List.countP_cons_of_neg (by simpa)
      have later := ih (s := s) (t := t) (none ▸ answers)
      simp only [serve, elsewhereAnswer envelope store routed, elsewhereAnswer envelope other also,
        later]

def firstAsked : List Request :=
  [⟨"GET", "/api/tags?page=1", [("Authorization", [0xff])], "tags"⟩, ⟨"POST", "/api/tags", [], ""⟩,
    ⟨"GET", "/api/tags", [], ""⟩]

def secondAsked : List Request :=
  [⟨"GET", "/api/tags", [], ""⟩, ⟨"POST", "/api/tags?page=2", [("Cookie", [0x31])], "tags"⟩,
    ⟨"GET", "/api/tags#end", [], "go"⟩]

def lacksTable : List (Except Failure (List Tag)) :=
  [.error (.database ⟨some "42P01", "relation does not exist"⟩), .ok [⟨"go"⟩]]

def lacksChannel : List (Except Failure (List Tag)) :=
  [.error .channelClosed, .ok [⟨"go"⟩]]

theorem lackUntold :
    List.Forall₂ SamePlace firstAsked secondAsked ∧
    (∀ n < calls firstAsked, Alike ((Store.scripted lacksTable).answerAt 0 n)
      ((Store.scripted lacksChannel).answerAt 0 n)) ∧
    (serve (tagApp false (.scripted lacksTable)) firstAsked 0).1 =
      (serve (tagApp false (.scripted lacksChannel)) secondAsked 0).1 := by
  have places : List.Forall₂ SamePlace firstAsked secondAsked := by
    have asked {r : Request} (rest : List Char)
        (target : r.target.toList = "/api/tags".toList ++ rest)
        (aside : ∀ c ∈ rest.head?, c = '?' ∨ c = '#') : r.path = Text.signs "/api/tags".toList :=
      plainPath ⟨⟨rest, target, aside⟩, rfl, by simp⟩
    have bare := asked [] (r := ⟨"GET", "/api/tags", [], ""⟩) (by decide) nofun
    refine .cons ⟨rfl, ?_⟩ (.cons ⟨rfl, ?_⟩ (.cons ⟨rfl, ?_⟩ .nil))
    · exact (asked "?page=1".toList (by decide) (by simp)).trans bare.symm
    · exact bare.trans (asked "?page=2".toList (by decide) (by simp)).symm
    · exact bare.trans (asked "#end".toList (by decide) (by simp)).symm
  have answers : ∀ n < calls firstAsked, Alike ((Store.scripted lacksTable).answerAt 0 n)
      ((Store.scripted lacksChannel).answerAt 0 n) := by
    have two : calls firstAsked = 2 := by decide
    intro n less
    rw [two] at less
    match n, less with
    | 0, _ => exact .withheld ⟨nofun, nofun⟩ ⟨nofun, nofun⟩
    | 1, _ => exact .same _
  exact ⟨places, answers, nothingElseTold false _ _ places answers⟩

end TagListing
