import TagListing.Proofs.Tag.Wire
import TagListing.Tag.Endpoint
import Mathlib.Data.List.Basic

/-! What an application with the tag endpoint answers to any row of requests, on any store. The
store is a parameter: its answers are those it gives to one call after the other, and what it keeps
between them is its own. How a path is read off a target is the request's business; requests that
are answered at the same time are not claimed. -/
namespace TagListing
open Http

/-! ### One store, one call after the other -/

namespace Store
variable {σ : Type}

def after (store : Store σ) (s : σ) : Nat → σ
  | 0 => s
  | n + 1 => store.after (store.listAll s).2 n

def answerAt (store : Store σ) (s : σ) (call : Nat) : Except Failure (List Tag) :=
  (store.listAll (store.after s call)).1

theorem answerAtSucc (store : Store σ) (s : σ) (n : Nat) :
    store.answerAt s (n + 1) = store.answerAt (store.listAll s).2 n := rfl

end Store

/-! ### What one answer of the store is told as -/

/- The names are those of the tags, one for one. A failure with a cause of its own for the client
tells that cause, every other one tells nothing of it. -/
inductive Tells (envelope : Bool) : Except Failure (List Tag) → Response → Prop where
  | listed {tags : List Tag} {r : Response} (status : r.status = 200)
      (kind : r.contentType = some "application/json")
      (body : Listing.read r.body.toList =
        .ok (let names := tags.map fun t => TagName.mk t.name
          if envelope then .envelope names else .bare names)) :
      Tells envelope (.ok tags) r
  | unauthorized {reason : Json.Value} {r : Response} (status : r.status = 401)
      (kind : r.contentType = some "application/json") (body : r.body = reason.sorted.compact) :
      Tells envelope (.error (.unauthorized reason)) r
  | disconnected {reason : String} {r : Response} (status : r.status = 502)
      (kind : r.contentType = some "application/json")
      (body : r.body = (Json.Value.text reason).compact)
      (read : Json.read r.body.toList = .ok (.text reason)) :
      Tells envelope (.error (.disconnected reason)) r
  | hidden {f : Failure} {r : Response} (told : ∀ reason, f ≠ .unauthorized reason)
      (lost : ∀ reason, f ≠ .disconnected reason) (status : r.status = 500)
      (kind : r.contentType = some "application/json")
      (body : r.body = "\"Internal Server Error\"") :
      Tells envelope (.error f) r

theorem assembled (envelope : Bool) (tags : List Tag) : Listing.assemble envelope tags =
    let names := tags.map fun t => TagName.mk t.name
    if envelope then .envelope names else .bare names := rfl

theorem hiddenResponse {f : Failure} (told : ∀ reason, f ≠ .unauthorized reason)
    (lost : ∀ reason, f ≠ .disconnected reason) : f.response = .json 500 (.text internalText) := by
  cases f with
  | unauthorized reason => exact absurd rfl (told reason)
  | disconnected reason => exact absurd rfl (lost reason)
  | _ => rfl

theorem hiddenTold (envelope : Bool) {f : Failure} (told : ∀ reason, f ≠ .unauthorized reason)
    (lost : ∀ reason, f ≠ .disconnected reason) : Tells envelope (.error f) f.response := by
  refine .hidden told lost ?_ ?_ ?_ <;> rw [hiddenResponse told lost]
  · rfl
  · rfl
  · decide

theorem listingTold (envelope : Bool) (answer : Except Failure (List Tag)) :
    Tells envelope answer (listingResponse envelope answer) := by
  cases answer with
  | ok tags =>
    refine .listed rfl rfl ?_
    rw [← assembled, listingResponse, Response.json, Json.Value.compact, String.toList_ofList]
    exact Listing.readWritten _
  | error f =>
    cases f with
    | unauthorized reason => exact .unauthorized rfl rfl rfl
    | disconnected reason =>
      refine .disconnected rfl rfl rfl ?_
      rw [listingResponse, Failure.response, Response.json, Json.Value.compact,
        String.toList_ofList]
      exact Json.readPrinted (.text _ reason)
    | _ => exact hiddenTold envelope (by simp) (by simp)

/-! ### Targets -/

/- A target from the root whose path is written without escapes, up to a query or a fragment. -/
structure PlainTarget (r : Request) (path : List Char) : Prop where
  target : ∃ rest, r.target.toList = path ++ rest ∧ ∀ c ∈ rest.head?, c = '?' ∨ c = '#'
  rooted : path.head? = some '/'
  plain : ∀ c ∈ path, c.toNat < 128 ∧ c ≠ '%' ∧ c ≠ '?' ∧ c ≠ '#'

theorem plainByte {c : Char} (small : c.toNat < 128) : Text.utf8Bytes [c] = [c.toNat.toUInt8] := by
  have one : c.utf8Size = 1 := by
    rw [Char.utf8Size_eq_one_iff, UInt32.le_iff_toNat_le]
    exact Nat.le_of_lt_succ small
  rw [Text.utf8Bytes, List.flatMap_singleton, String.utf8EncodeChar_eq_singleton one]
  rfl

theorem unescapedPlain {path : List Char} (plain : ∀ c ∈ path, c.toNat < 128 ∧ c ≠ '%') :
    unescapePath path = path.map fun c => c.toNat.toUInt8 := by
  induction path with
  | nil => rfl
  | cons c path ih =>
    obtain ⟨⟨small, other⟩, rest⟩ := List.forall_mem_cons.mp plain
    have step : unescapePath (c :: path) = Text.utf8Bytes [c] ++ unescapePath path := by
      rw [unescapePath]
      · exact fun _ _ _ escaped _ => other escaped
      · exact fun escaped => other escaped
    rw [step, plainByte small, ih rest]
    rfl

theorem signsPlain {path : List Char} (plain : ∀ c ∈ path, c.toNat < 128) :
    Text.signsOf (path.map fun c => c.toNat.toUInt8) = Text.signs path := by
  rw [Text.signsOf, List.length_map]
  induction path with
  | nil => rfl
  | cons c path ih =>
    obtain ⟨small, rest⟩ := List.forall_mem_cons.mp plain
    have word : c.toNat.toUInt8.toNat = c.toNat := by
      rw [Nat.toUInt8_eq, UInt8.toNat_ofNat']
      exact Nat.mod_eq_of_lt (Nat.lt_trans small (by decide))
    have low : c.toNat.toUInt8 < 0x80 := by
      rw [UInt8.lt_iff_toNat_lt, word]
      exact small
    rw [List.map_cons, List.length_cons, Text.readSigns, if_pos low, word, Char.ofNat_toNat,
      ih rest]
    rfl

/- What follows a question mark or a number sign is no part of the path. -/
theorem plainPath {r : Request} {path : List Char} (asked : PlainTarget r path) :
    r.path = Text.signs path := by
  obtain ⟨rest, target, aside⟩ := asked.target
  have whole : relativePart r.target.toList = path ++ rest := by
    rw [target, relativePart, if_pos]
    rw [List.head?_append, asked.rooted]
    exact .inl rfl
  have before : rest.takeWhile (fun c => decide (c ≠ '?' ∧ c ≠ '#')) = [] := by
    cases rest with
    | nil => rfl
    | cons c more =>
      rw [List.takeWhile_cons_of_neg]
      rcases aside c rfl with rfl | rfl <;> decide
  have all : ∀ c ∈ path, decide (c ≠ '?' ∧ c ≠ '#') = true := fun c member =>
    decide_eq_true (asked.plain c member).2.2
  rw [Request.path, whole, List.takeWhile_append_of_pos all, before, List.append_nil,
    unescapedPlain fun c member => ⟨(asked.plain c member).1, (asked.plain c member).2.1⟩,
    signsPlain fun c member => (asked.plain c member).1]

/-! ### One request -/

def Routed (r : Request) : Prop := r.method = "GET" ∧ r.path = Text.signs "/api/tags".toList

instance : DecidablePred Routed := fun r => by unfold Routed; infer_instance

/- How many of the requests go to the store. -/
def calls (requests : List Request) : Nat := requests.countP Routed

theorem belowTags (path : List Text.Sign) :
    below? apiPath path = some (Text.signs tagsPath) ↔ path = Text.signs "/api/tags".toList := by
  have whole : Text.signs "/api/tags".toList = Text.signs apiPath ++ Text.signs tagsPath := by
    decide
  rw [whole]
  constructor
  · intro found
    unfold below? at found
    split at found
    · rename_i start
      obtain ⟨rest, rfl⟩ := List.isPrefixOf_iff_prefix.mp start
      have dropped : (Text.signs apiPath ++ rest).drop apiPath.length = rest := rfl
      simp only [dropped] at found
      split at found
      · rw [Option.some.inj found]
      · contradiction
    · contradiction
  · rintro rfl
    rfl

theorem plainRouted {r : Request} {path : List Char} (asked : PlainTarget r path) :
    Routed r ↔ r.method = "GET" ∧ path = "/api/tags".toList := by
  have same : Text.signs path = Text.signs "/api/tags".toList ↔ path = "/api/tags".toList :=
    List.map_inj_right fun _ _ => Option.some.inj
  rw [Routed, plainPath asked, same]

variable {σ : Type}

theorem routedAnswer (envelope : Bool) (store : Store σ) {r : Request} (routed : Routed r) (s : σ) :
    tagApp envelope store r s =
      (listingResponse envelope (store.listAll s).1, (store.listAll s).2) := by
  have below := (belowTags r.path).mpr routed.2
  simp only [tagApp, scope, below]
  have takes : (tagEndpoint envelope store).Takes (Text.signs tagsPath) r := ⟨rfl, routed.1⟩
  rw [tagRoutes, firstOf takes]
  rfl

theorem elsewhereAnswer (envelope : Bool) (store : Store σ) {r : Request} (other : ¬ Routed r)
    (s : σ) : tagApp envelope store r s = (.notFound, s) := by
  unfold tagApp scope
  split
  · rename_i rest below
    have apart : ¬ (tagEndpoint envelope store).Takes rest r := by
      rintro ⟨rfl, method⟩
      exact other ⟨method, (belowTags r.path).mp below⟩
    rw [tagRoutes, firstAnswers, List.find?_cons_of_neg (by simpa using apart)]
    rfl
  · rfl

/-! ### A row of requests -/

theorem servedState (envelope : Bool) (store : Store σ) (s : σ) (requests : List Request) :
    (serve (tagApp envelope store) requests s).2 = store.after s (calls requests) := by
  induction requests generalizing s with
  | nil => rfl
  | cons r rest ih =>
    by_cases routed : Routed r
    · have one : calls (r :: rest) = calls rest + 1 := List.countP_cons_of_pos (by simpa)
      rw [one, Store.after, ← ih, serve, routedAnswer envelope store routed]
    · have none : calls (r :: rest) = calls rest := List.countP_cons_of_neg (by simpa)
      rw [none, ← ih, serve, elsewhereAnswer envelope store routed]

/- Each response stands for itself: it depends on its request and on the answer to one call. -/
theorem responseAt (envelope : Bool) (store : Store σ) (s : σ) (requests : List Request)
    (i : Nat) : (serve (tagApp envelope store) requests s).1[i]? =
      requests[i]?.map fun r => if Routed r then
          listingResponse envelope (store.answerAt s (calls (requests.take i)))
        else .notFound := by
  induction requests generalizing s i with
  | nil => rfl
  | cons r rest ih =>
    by_cases routed : Routed r
    · rw [serve, routedAnswer envelope store routed]
      cases i with
      | zero =>
        simp only [List.getElem?_cons_zero, Option.map_some, routed, ↓reduceIte]
        rfl
      | succ i =>
        have one : calls (r :: rest.take i) = calls (rest.take i) + 1 :=
          List.countP_cons_of_pos (by simpa)
        simp only [List.getElem?_cons_succ, List.take_succ_cons, one, Store.answerAtSucc]
        exact ih _ i
    · rw [serve, elsewhereAnswer envelope store routed]
      cases i with
      | zero => simp only [List.getElem?_cons_zero, Option.map_some, routed, ↓reduceIte]
      | succ i =>
        have none : calls (r :: rest.take i) = calls (rest.take i) :=
          List.countP_cons_of_neg (by simpa)
        simp only [List.getElem?_cons_succ, List.take_succ_cons, none]
        exact ih s i

/- After any number of the requests the store has been called once for each of them that is routed.
A routed request is told the answer to the call it makes, another one is told that nothing is
there. A response stays what it is on every store that gives the same answer to that one call,
whatever the other calls are answered. Of targets without escapes those of one path are routed. -/
theorem requestsServed (envelope : Bool) (store : Store σ) (s : σ) (requests : List Request) :
    (∀ i, (serve (tagApp envelope store) (requests.take i) s).2 =
      store.after s (calls (requests.take i))) ∧
    (serve (tagApp envelope store) requests s).1.length = requests.length ∧
    (∀ i r, requests[i]? = some r →
      ∃ a, (serve (tagApp envelope store) requests s).1[i]? = some a ∧
        (Routed r → Tells envelope (store.answerAt s (calls (requests.take i))) a) ∧
        (¬ Routed r → a.status = 404)) ∧
    (∀ {τ : Type} (other : Store τ) (t : τ) (i : Nat),
      (∀ r, requests[i]? = some r → Routed r →
        other.answerAt t (calls (requests.take i)) = store.answerAt s (calls (requests.take i))) →
      (serve (tagApp envelope other) requests t).1[i]? =
        (serve (tagApp envelope store) requests s).1[i]?) ∧
    ∀ (r : Request) (path : List Char), PlainTarget r path →
      (Routed r ↔ r.method = "GET" ∧ path = "/api/tags".toList) := by
  refine ⟨fun i => servedState envelope store s _, ?_, ?_, ?_, fun _ _ => plainRouted⟩
  · refine Nat.le_antisymm (List.getElem?_eq_none_iff.mp ?_) (List.getElem?_eq_none_iff.mp ?_)
    · rw [responseAt, List.getElem?_eq_none (Nat.le_refl _)]
      rfl
    · have past := responseAt envelope store s requests
        (serve (tagApp envelope store) requests s).1.length
      rw [List.getElem?_eq_none (Nat.le_refl _)] at past
      exact Option.map_eq_none_iff.mp past.symm
  · intro i r found
    refine ⟨_, (responseAt envelope store s requests i).trans (congrArg _ found), ?_, ?_⟩
    · intro routed
      simp only [routed, ↓reduceIte]
      exact listingTold envelope _
    · intro elsewhere
      simp only [elsewhere, ↓reduceIte]
      rfl
  · intro τ other t i same
    rw [responseAt, responseAt]
    cases found : requests[i]? with
    | none => rfl
    | some r =>
      by_cases routed : Routed r
      · simp only [Option.map_some, routed, ↓reduceIte, same r found routed]
      · simp only [Option.map_some, routed, ↓reduceIte]

def mixedRow : List Request :=
  [⟨"GET", "/api/tags?page=1", [], ""⟩, ⟨"POST", "/api/tags", [], ""⟩, ⟨"GET", "/api/tags", [], ""⟩]

def twoAnswers : List (Except Failure (List Tag)) :=
  [.ok [⟨"go"⟩, ⟨"go"⟩], .error (.disconnected "gone")]

theorem mixedRowServed : ∃ first second third,
    (serve (tagApp true (.scripted twoAnswers)) mixedRow 0).1 = [first, second, third] ∧
    Tells true (.ok [⟨"go"⟩, ⟨"go"⟩]) first ∧ second.status = 404 ∧
    Tells true (.error (.disconnected "gone")) third := by
  obtain ⟨_, length, told, _, routed⟩ :=
    requestsServed true (Store.scripted twoAnswers) 0 mixedRow
  have paged : Routed ⟨"GET", "/api/tags?page=1", [], ""⟩ :=
    (routed _ "/api/tags".toList ⟨⟨"?page=1".toList, by decide, by simp⟩, rfl, by simp⟩).mpr
      ⟨rfl, rfl⟩
  have bare : Routed ⟨"GET", "/api/tags", [], ""⟩ :=
    (routed _ "/api/tags".toList ⟨⟨[], by decide, nofun⟩, rfl, by simp⟩).mpr ⟨rfl, rfl⟩
  obtain ⟨first, second, third, row⟩ := List.length_eq_three.mp length
  rw [row] at told
  obtain ⟨_, here, listed, _⟩ := told 0 _ rfl
  obtain ⟨_, next, _, elsewhere⟩ := told 1 _ rfl
  obtain ⟨_, last, lost, _⟩ := told 2 _ rfl
  cases Option.some.inj here
  cases Option.some.inj next
  cases Option.some.inj last
  have one : calls (mixedRow.take 2) = 1 := by decide
  rw [one] at lost
  exact ⟨first, second, third, row, listed paged,
    elsewhere fun asked => absurd asked.1 (by decide), lost bare⟩

end TagListing
