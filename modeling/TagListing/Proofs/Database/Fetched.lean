import TagListing.Proofs.Database.Budget
import TagListing.Proofs.Tag.Served
import TagListing.Database.Store
import Mathlib.Data.List.Forall2

/-! The tag endpoint over a database. The peer is a parameter: what the link shows, what the server
answers and when either changes are its business. Each request is told how its own query ended, and
a result is listed whole or not at all. Requests that are answered at the same time are not
claimed. -/
namespace TagListing.Database
open Http
open TagListing.Text (utf8Bytes)

/-! ### Rows as texts -/

def FirstText (columns : List Column) (row : List Cell) (name : String) : Prop :=
  ∃ c more rest, columns = c :: more ∧ c.type ∈ textTypes ∧
    row = some (utf8Bytes name.toList) :: rest

theorem utf8Exact (bytes : List UInt8) (name : String) :
    String.fromUTF8? ⟨bytes.toArray⟩ = some name ↔ bytes = utf8Bytes name.toList := by
  have written : name.toByteArray.data.toList = utf8Bytes name.toList := by
    have encoded := String.toByteArray_ofList (l := name.toList)
    rw [String.ofList_toList] at encoded
    rw [encoded, List.utf8Encode, List.toList_data_toByteArray]
    rfl
  unfold String.fromUTF8?
  constructor
  · intro decoded
    split at decoded
    · rw [← written, ← Option.some.inj decoded]
      rfl
    · contradiction
  · rintro rfl
    have same : (⟨(utf8Bytes name.toList).toArray⟩ : ByteArray) = name.toByteArray := by
      rw [← written]
    simp only [same, name.isValidUTF8, ↓reduceDIte]
    rfl

theorem cellExact (c : Column) (cell : Cell) (name : String) : cellText? c cell = some name ↔
    c.type ∈ textTypes ∧ cell = some (utf8Bytes name.toList) := by
  unfold cellText?
  by_cases text : c.type ∈ textTypes
  · rw [if_pos (List.contains_iff_mem.mpr text)]
    cases cell with
    | none => simp
    | some bytes => simp [text, utf8Exact]
  · rw [if_neg fun found => text (List.contains_iff_mem.mp found)]
    simp [text]

theorem nameRead (columns : List Column) (row : List Cell) :
    (∃ name, FirstText columns row name ∧ nameOf columns row = .ok name) ∨
    (∀ name, ¬ FirstText columns row name) ∧ nameOf columns row = .error unreadable := by
  unfold nameOf
  split
  · rename_i c more cell rest
    split
    · rename_i name found
      obtain ⟨text, bytes⟩ := (cellExact c cell name).mp found
      exact .inl ⟨name, ⟨c, more, rest, rfl, text, by rw [bytes]⟩, rfl⟩
    · rename_i none
      refine .inr ⟨?_, rfl⟩
      rintro name ⟨c, more, rest, columns, text, row⟩
      cases columns
      cases row
      exact nomatch none.symm.trans ((cellExact c _ name).mpr ⟨text, rfl⟩)
  · rename_i empty
    refine .inr ⟨?_, rfl⟩
    rintro name ⟨c, more, rest, rfl, text, rfl⟩
    exact empty _ _ _ _ rfl rfl

/- The rows are read to the end, or up to one that is no text. -/
theorem namesRead (columns : List Column) (cells : List (List Cell)) :
    (∃ names, List.Forall₂ (FirstText columns) cells names ∧ namesOf columns cells = .ok names) ∨
    ∃ row ∈ cells, (∀ name, ¬ FirstText columns row name) ∧
      namesOf columns cells = .error unreadable := by
  induction cells with
  | nil => exact .inl ⟨[], .nil, rfl⟩
  | cons row rest ih =>
    rcases nameRead columns row with ⟨name, text, read⟩ | ⟨bad, read⟩
    · rcases ih with ⟨names, texts, more⟩ | ⟨other, member, bad, more⟩
      · exact .inl ⟨name :: names, .cons text texts, by rw [namesOf, read, more]; rfl⟩
      · refine .inr ⟨other, List.mem_cons_of_mem _ member, bad, ?_⟩
        rw [namesOf, read, more]
        rfl
    · exact .inr ⟨row, List.mem_cons_self, bad, by rw [namesOf, read]; rfl⟩

/-! ### What a request is told of its query -/

/- The names of a listing are the cells, one for each row and in their order. -/
inductive Answered (envelope : Bool) : Outcome → Response → Prop where
  | listed {rows names a} (texts : List.Forall₂ (FirstText rows.columns) rows.cells names)
      (status : a.status = 200) (kind : a.contentType = some "application/json")
      (body : Listing.read a.body.toList =
        .ok (if envelope then .envelope (names.map .mk) else .bare (names.map .mk))) :
      Answered envelope (.rows rows) a
  | unreadable {rows row a} (member : row ∈ rows.cells)
      (bad : ∀ name, ¬ FirstText rows.columns row name) (status : a.status = 500)
      (kind : a.contentType = some "application/json")
      (body : a.body = "\"Internal Server Error\"") : Answered envelope (.rows rows) a
  | lost {a} (status : a.status = 502) (kind : a.contentType = some "application/json")
      (body : a.body = "\"Failed to connect to database\"") :
      Answered envelope (.failed .noConnection) a
  | failed {e a} (status : a.status = 500) (kind : a.contentType = some "application/json")
      (body : a.body = "\"Internal Server Error\"") :
      Answered envelope (.failed (.database e)) a

theorem databaseTold (envelope : Bool) (e : DatabaseError) :
    Tells envelope (.error (.database e)) (Failure.database e).response :=
  hiddenTold envelope (by simp) (by simp)

theorem rowsAnswered (envelope : Bool) (rows : Rows) :
    Answered envelope (.rows rows) (listingResponse envelope (listed (some (.rows rows)))) := by
  rcases namesRead rows.columns rows.cells with ⟨names, texts, read⟩ | ⟨row, member, bad, read⟩
  · have found : listed (some (.rows rows)) = .ok (names.map Tag.mk) := by
      simp only [listed, tagsOf, read]
    rw [found]
    cases listingTold envelope (.ok (names.map Tag.mk)) with
    | listed status kind body =>
      refine .listed texts status kind (body.trans ?_)
      rw [List.map_map]
      rfl
  · have found : listed (some (.rows rows)) = .error (.database unreadable) := by
      simp only [listed, tagsOf, read]
    rw [found]
    cases databaseTold envelope unreadable with
    | hidden _ _ status kind body => exact .unreadable member bad status kind body

theorem settledAnswered (envelope : Bool) {log : List Happening} {o : Outcome}
    (settled : Settled log o) :
    Answered envelope o (listingResponse envelope (listed (some o))) := by
  have lost : Answered envelope (.failed .noConnection)
      (listingResponse envelope (listed (some (.failed .noConnection)))) := by
    have body : Failure.noConnection.response.body = "\"Failed to connect to database\"" := by
      decide
    exact .lost rfl rfl body
  have failed (e : DatabaseError) : Answered envelope (.failed (.database e))
      (listingResponse envelope (listed (some (.failed (.database e))))) := by
    cases databaseTold envelope e with
    | hidden _ _ status kind body => exact .failed status kind body
  cases settled with
  | rows => exact rowsAnswered envelope _
  | prepareError => exact failed _
  | executionError => exact failed _
  | noClient => exact lost
  | noStatement => exact lost
  | noExecution => exact lost

theorem textsEach {columns : List Column} {cells : List (List Cell)} {names : List String}
    (texts : List.Forall₂ (FirstText columns) cells names) :
    ∀ row ∈ cells, ∃ name, FirstText columns row name := by
  induction texts with
  | nil => intro row member; contradiction
  | @cons row name cells names text texts ih =>
    intro other member
    rcases List.mem_cons.mp member with rfl | later
    · exact ⟨name, text⟩
    · exact ih other later

theorem answeredWhole {envelope : Bool} {o : Outcome} {a : Response}
    (answered : Answered envelope o a) : a.status = 200 ↔
      ∃ rows, o = .rows rows ∧ ∀ row ∈ rows.cells, ∃ name, FirstText rows.columns row name := by
  cases answered with
  | @listed rows names a texts status =>
    exact iff_of_true status ⟨rows, rfl, textsEach texts⟩
  | unreadable member bad status =>
    refine iff_of_false (by rw [status]; decide) ?_
    rintro ⟨rows, same, texts⟩
    cases same
    obtain ⟨name, text⟩ := texts _ member
    exact bad name text
  | lost status =>
    refine iff_of_false (by rw [status]; decide) ?_
    rintro ⟨rows, same, -⟩
    contradiction
  | failed status =>
    refine iff_of_false (by rw [status]; decide) ?_
    rintro ⟨rows, same, -⟩
    contradiction

variable {σ τ : Type}

theorem queryAlone (p : Peer σ) (cache : Option Prepared) (peer : σ) :
    ∃ log o, (p.call .query cache peer).call.outcome? = some o ∧ Settled log o := by
  let start : Session σ := ⟨.begin .query, cache, peer⟩
  obtain ⟨o, ended⟩ := Option.isSome_iff_exists.mp (Session.runOver p start)
  have same : (start.run p).call =
      (course start.call (start.offers p) (start.call.rank + 1)).call := by
    rw [courseAlone, Session.run, runForTurns]
  exact ⟨_, o, ended, (validEnded (courseValid beginKept _ _) (same ▸ ended)).settled⟩

/-! ### A row of requests -/

/- The cache and the peer as the requests before a position leave them. -/
def reached (p : Peer σ) (envelope : Bool) (s : Option Prepared × σ) (requests : List Request)
    (i : Nat) : Option Prepared × σ :=
  (serve (tagApp envelope (tagStore p)) (requests.take i) s).2

/- The request at a position goes to the store; its query ends with an outcome, and the request
with a response. -/
structure Got (p : Peer σ) (envelope : Bool) (s : Option Prepared × σ) (requests : List Request)
    (i : Nat) (o : Outcome) (a : Response) : Prop where
  routed : ∃ r, requests[i]? = some r ∧ Routed r
  query : (p.call .query (reached p envelope s requests i).1
    (reached p envelope s requests i).2).call.outcome? = some o
  response : (serve (tagApp envelope (tagStore p)) requests s).1[i]? = some a

theorem reachedAnswer (p : Peer σ) (envelope : Bool) (s : Option Prepared × σ)
    {requests : List Request} {i : Nat} {r : Request} (found : requests[i]? = some r)
    (routed : Routed r) : (serve (tagApp envelope (tagStore p)) requests s).1[i]? =
      some (listingResponse envelope (listed (p.call .query (reached p envelope s requests i).1
        (reached p envelope s requests i).2).call.outcome?)) := by
  rw [responseAt, found, Option.map_some, if_pos routed, reached, servedState]
  rfl

theorem gotResponse {p : Peer σ} {envelope : Bool} {s : Option Prepared × σ}
    {requests : List Request} {i : Nat} {o : Outcome} {a : Response}
    (got : Got p envelope s requests i o a) : a = listingResponse envelope (listed (some o)) := by
  obtain ⟨⟨r, found, routed⟩, query, response⟩ := got
  rw [reachedAnswer p envelope s found routed, query] at response
  exact (Option.some.inj response).symm

/-! ### What an execution leaves behind -/

/- Two peers that differ in what executions end with: rows of any kind, or an error that is no
closed connection. -/
structure Peer.Apart (p q : Peer σ) : Prop where
  look : q.look = p.look
  pause : q.pause = p.pause
  prepare : q.prepare = p.prepare
  after : ∀ prepared s, (q.execute prepared s).2 = (p.execute prepared s).2
  answer : ∀ prepared s, (q.execute prepared s).1 = (p.execute prepared s).1 ∨
    ¬ ClosedAnswer (p.execute prepared s).1 ∧ ¬ ClosedAnswer (q.execute prepared s).1

/- Two sessions in step, up to their outcomes. -/
structure Level (a b : Session σ) : Prop where
  cache : b.cache = a.cache
  peer : b.peer = a.peer
  call : b.call = a.call ∨ a.call.outcome?.isSome ∧ b.call.outcome?.isSome

theorem turnFixed {s : Session σ} (p : Peer σ) (ended : s.call.outcome?.isSome) :
    s.turn p = s := by
  obtain ⟨o, ended⟩ := Option.isSome_iff_exists.mp ended
  unfold Call.outcome? at ended
  split at ended
  · rename_i phase
    simp only [Session.turn, phase]
  · contradiction

theorem lastAnswer {c : Call} {p : Prepared} (executing : c.phase = .executing p)
    {answer : Except DatabaseError (List (List Cell))} (last : ¬ ClosedAnswer answer)
    (state : LinkState) (cache : Option Prepared) :
    (c.step state cache (.executed answer)).1.outcome?.isSome ∧
      (c.step state cache (.executed answer)).2 = cache := by
  cases answer with
  | ok cells =>
    simp only [Call.step, executing]
    exact ⟨rfl, trivial⟩
  | error e =>
    have other : ¬ isClosed e = true := fun gone => last ⟨e, rfl, (isClosedExact e).mp gone⟩
    simp only [Call.step, executing, if_neg other]
    exact ⟨rfl, trivial⟩

theorem turnLevel {p q : Peer σ} (apart : p.Apart q) {a b : Session σ} (level : Level a b) :
    Level (a.turn p) (b.turn q) := by
  obtain ⟨call, cache, peer⟩ := a
  obtain ⟨call', cache', peer'⟩ := b
  obtain ⟨rfl, rfl, rfl | ⟨left, right⟩⟩ := level
  · cases phase : call'.phase with
    | ready next =>
      simp only [Session.turn, phase, apart.look]
      exact ⟨rfl, rfl, .inl rfl⟩
    | pausing next =>
      simp only [Session.turn, phase, apart.pause]
      exact ⟨rfl, rfl, .inl rfl⟩
    | preparing client =>
      simp only [Session.turn, phase, apart.prepare]
      exact ⟨rfl, rfl, .inl rfl⟩
    | executing prepared =>
      simp only [Session.turn, phase, Session.stepped, apart.after]
      rcases apart.answer prepared peer' with same | ⟨left, right⟩
      · rw [same]
        exact ⟨rfl, rfl, .inl rfl⟩
      · obtain ⟨leftOver, leftCache⟩ := lastAnswer phase left .initial cache'
        obtain ⟨rightOver, rightCache⟩ := lastAnswer phase right .initial cache'
        exact ⟨rightCache.trans leftCache.symm, rfl, .inr ⟨leftOver, rightOver⟩⟩
    | «over» o =>
      simp only [Session.turn, phase]
      exact ⟨rfl, rfl, .inl rfl⟩
  · rw [turnFixed p left, turnFixed q right]
    exact ⟨rfl, rfl, .inr ⟨left, right⟩⟩

theorem callLevel {p q : Peer σ} (apart : p.Apart q) (aim : Aim) (cache : Option Prepared)
    (peer : σ) : Level (p.call aim cache peer) (q.call aim cache peer) := by
  have turns (n : Nat) : Level ((Session.turn p)^[n] ⟨.begin aim, cache, peer⟩)
      ((Session.turn q)^[n] ⟨.begin aim, cache, peer⟩) := by
    induction n with
    | zero => exact ⟨rfl, rfl, .inl rfl⟩
    | succ n ih =>
      rw [Function.iterate_succ_apply', Function.iterate_succ_apply']
      exact turnLevel apart ih
  rw [Peer.call, Peer.call, Session.run, Session.run, runForTurns, runForTurns]
  exact turns _

theorem afterLevel {p q : Peer σ} (apart : p.Apart q) (s : Option Prepared × σ) (n : Nat) :
    (tagStore q).after s n = (tagStore p).after s n := by
  induction n generalizing s with
  | zero => rfl
  | succ n ih =>
    have level := callLevel apart .query s.1 s.2
    have next : ((tagStore q).listAll s).2 = ((tagStore p).listAll s).2 :=
      Prod.ext level.cache level.peer
    rw [Store.after, Store.after, next, ih]

/- A request is listed whole, every first cell of its rows a text and each of them named once, or
it is told a failure: a lost connection by its own text, anything else by the fixed one. What it is
told depends on how its query ended alone, whatever became of the requests before it; and whether an
execution ends with rows that can be read, with others or with an error, what the store keeps
afterwards is the same. -/
theorem databaseServed (p : Peer σ) (envelope : Bool) (s : Option Prepared × σ)
    (requests : List Request) :
    (∀ i r, requests[i]? = some r → Routed r → ∃ o a, Got p envelope s requests i o a ∧
      Answered envelope o a ∧
      (a.status = 200 ↔ ∃ rows, o = .rows rows ∧
        ∀ row ∈ rows.cells, ∃ name, FirstText rows.columns row name)) ∧
    (∀ {τ : Type} (q : Peer τ) (t : Option Prepared × τ) (others : List Request) (i j : Nat)
      (o : Outcome) (a b : Response), Got p envelope s requests i o a →
        Got q envelope t others j o b → a = b) ∧
    ∀ q : Peer σ, p.Apart q →
      (serve (tagApp envelope (tagStore q)) requests s).2 =
        (serve (tagApp envelope (tagStore p)) requests s).2 := by
  refine ⟨?_, ?_, ?_⟩
  · intro i r found routed
    obtain ⟨log, o, ended, settled⟩ := queryAlone p (reached p envelope s requests i).1
      (reached p envelope s requests i).2
    have response := reachedAnswer p envelope s found routed
    rw [ended] at response
    have answered := settledAnswered envelope settled
    exact ⟨o, _, ⟨⟨r, found, routed⟩, ended, response⟩, answered, answeredWhole answered⟩
  · intro τ q t others i j o a b left right
    rw [gotResponse left, gotResponse right]
  · intro q apart
    rw [servedState, servedState, afterLevel apart]

/- A server whose first result has a NULL for a name. -/
def nullFirst : Peer Nat where
  look n := (.connected ⟨1, 1⟩, n)
  pause n := n
  prepare _ n := (.ok [⟨"tag_name", 25⟩], n)
  execute _ n := (.ok [if n = 0 then [none] else [some [103, 111]]], n + 1)

/- The same server with an error in the place of that result. -/
def errorFirst : Peer Nat :=
  { nullFirst with
    execute := fun p n => if n = 0 then (.error ⟨some "57014", "canceling statement"⟩, n + 1)
      else nullFirst.execute p n }

def listTwice : List Request := [⟨"GET", "/api/tags", [], ""⟩, ⟨"GET", "/api/tags", [], ""⟩]

theorem nullThenListed :
    nullFirst.Apart errorFirst ∧
    (serve (tagApp false (tagStore nullFirst)) listTwice (none, 0)).1.map (·.status) = [500, 200] ∧
    (∃ o a, Got nullFirst false (none, 0) listTwice 1 o a ∧ Answered false o a ∧
      (a.status = 200 ↔ ∃ rows, o = .rows rows ∧
        ∀ row ∈ rows.cells, ∃ name, FirstText rows.columns row name)) ∧
    (serve (tagApp false (tagStore errorFirst)) listTwice (none, 0)).2 =
      (serve (tagApp false (tagStore nullFirst)) listTwice (none, 0)).2 := by
  have apart : nullFirst.Apart errorFirst := by
    refine ⟨rfl, rfl, rfl, ?_, ?_⟩
    · intro prepared n
      simp only [errorFirst]
      split <;> rfl
    · intro prepared n
      simp only [errorFirst]
      split
      · refine .inr ⟨?_, ?_⟩
        · rintro ⟨e, same, -⟩
          contradiction
        · rintro ⟨e, same, closed, -⟩
          cases same
          contradiction
      · exact .inl rfl
  have served := databaseServed nullFirst false (none, 0) listTwice
  exact ⟨apart, by decide, served.1 1 _ rfl (by decide), served.2.2 errorFirst apart⟩

end TagListing.Database
