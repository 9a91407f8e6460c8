import TagListing.Database.Session
import Mathlib.Logic.Function.Iterate

/-! What one query may take. A call is met, turn by turn, with any state of the link, any content
of its statement's cache and any answers; nothing relates one turn's offer to the next, so the
steps of a keeper, of other calls and of a server are all among them. The log holds what the call
did, the newest first. -/
namespace TagListing.Database

structure Offer where
  state : LinkState
  cache : Option Prepared
  columns : Except DatabaseError (List Column)
  cells : Except DatabaseError (List (List Cell))

inductive Happening where
  | looked (state : LinkState)
  | paused
  | prepared (client : Client) (answer : Except DatabaseError (List Column))
  | executed (p : Prepared) (answer : Except DatabaseError (List (List Cell)))

namespace Call

def awaits (o : Offer) (c : Call) : Option CallEvent :=
  match c.phase with
  | .ready _ => some .move
  | .pausing _ => some .wake
  | .preparing _ => some (.prepared o.columns)
  | .executing _ => some (.executed o.cells)
  | .over _ => none

def turn (o : Offer) (c : Call) : Call :=
  match c.awaits o with
  | some e => (c.step o.state o.cache e).1
  | none => c

/- The end of ten looks is not one more look. -/
def happening (o : Offer) (c : Call) : Option Happening :=
  match c.phase with
  | .ready .check => none
  | .ready .look => if c.looks < attempts then some (.looked o.state) else none
  | .pausing _ => some .paused
  | .preparing client => some (.prepared client o.columns)
  | .executing p => some (.executed p o.cells)
  | .over _ => none

end Call

structure Course where
  call : Call
  log : List Happening

def Course.turn (k : Course) (o : Offer) : Course :=
  ⟨k.call.turn o, (k.call.happening o).toList ++ k.log⟩

def course (c : Call) (offers : Nat → Offer) : Nat → Course
  | 0 => ⟨c, []⟩
  | n + 1 => (course c offers n).turn (offers n)

/-! ### Reading a log -/

def Closed (e : DatabaseError) : Prop := e.code = none ∧ e.text = "connection closed"

theorem isClosedExact (e : DatabaseError) : isClosed e = true ↔ Closed e := by
  simp [isClosed, Closed, closedText]

def ClosedAnswer {α : Type} (a : Except DatabaseError α) : Prop := ∃ e, a = .error e ∧ Closed e

namespace Happening

def state? : Happening → Option LinkState
  | .looked s => some s
  | _ => none

def prepare? : Happening → Option (Except DatabaseError (List Column))
  | .prepared _ a => some a
  | _ => none

def execution? : Happening → Option (Except DatabaseError (List (List Cell)))
  | .executed _ a => some a
  | _ => none

def isRequest (h : Happening) : Bool := h.prepare?.isSome || h.execution?.isSome

def isPause : Happening → Bool
  | .paused => true
  | _ => false

/- After these the call goes on. -/
def Passing : Happening → Prop
  | .prepared _ (.error e) => Closed e
  | .executed _ (.ok _) => False
  | .executed _ (.error e) => Closed e
  | _ => True

end Happening

def looks (log : List Happening) : List LinkState := log.filterMap Happening.state?
def prepares (log : List Happening) : List (Except DatabaseError (List Column)) :=
  log.filterMap Happening.prepare?
def executions (log : List Happening) : List (Except DatabaseError (List (List Cell))) :=
  log.filterMap Happening.execution?
def pauses (log : List Happening) : Nat := log.countP Happening.isPause

/- One search for a client lies between two requests, one search for a statement between two
executions. -/
def sinceRequest (log : List Happening) : List Happening := log.takeWhile fun h => !h.isRequest
def sinceExecution (log : List Happening) : List Happening :=
  log.takeWhile fun h => h.execution?.isNone

def Unsettled (log : List Happening) : Prop := ∀ h ∈ log, h.Passing

/- What a log says of the outcome. -/
inductive Settled : List Happening → Outcome → Prop where
  | rows {p cells log} (before : Unsettled log) :
      Settled (.executed p (.ok cells) :: log) (.rows ⟨p.statement.columns, cells⟩)
  | prepareError {client e log} (before : Unsettled log) (other : ¬ Closed e) :
      Settled (.prepared client (.error e) :: log) (.failed (.database e))
  | executionError {p e log} (before : Unsettled log) (other : ¬ Closed e) :
      Settled (.executed p (.error e) :: log) (.failed (.database e))
  | noClient {log} (before : Unsettled log) (ten : (looks (sinceRequest log)).length = 10)
      (none : ∀ s ∈ looks (sinceRequest log), s.client? = .none) :
      Settled log (.failed .noConnection)
  | noStatement {log} (before : Unsettled log)
      (ten : (prepares (sinceExecution log)).length = 10)
      (closed : ∀ a ∈ prepares (sinceExecution log), ClosedAnswer a) :
      Settled log (.failed .noConnection)
  | noExecution {log} (before : Unsettled log) (ten : (executions log).length = 10)
      (closed : ∀ a ∈ executions log, ClosedAnswer a) :
      Settled log (.failed .noConnection)

structure Within (log : List Happening) : Prop where
  executions : (executions log).length ≤ 10
  prepares : (prepares log).length ≤ 100
  pauses : pauses log ≤ 1000

/-! ### The invariant of a query under way -/

def Phase.due : Phase → Nat
  | .pausing _ => 1
  | _ => 0

def Phase.Searching : Phase → Prop
  | .ready _ => True
  | .pausing _ => True
  | _ => False

def Phase.Checking : Phase → Prop
  | .ready .check => True
  | .pausing .check => True
  | _ => False

def Phase.Executing : Phase → Prop
  | .executing _ => True
  | _ => False

/- A look costs at most one pause, a closed prepare ten with the looks before it, a closed execution
a hundred with the prepares before it. -/
structure Kept (c : Call) (log : List Happening) : Prop where
  aim : c.aim = .query
  going : c.outcome? = none
  unsettled : Unsettled log
  executionCount : (executions log).length = c.closedExecutions
  executionRoom : c.closedExecutions < 10
  prepareCount : (prepares (sinceExecution log)).length ≤ c.closedPrepares + 1
  prepareRoom : c.closedPrepares < 10
  prepareTotal :
    (prepares log).length ≤ 10 * c.closedExecutions + (prepares (sinceExecution log)).length
  preparesClosed : ¬ c.phase.Executing →
    (prepares (sinceExecution log)).length = c.closedPrepares ∧
    ∀ a ∈ prepares (sinceExecution log), ClosedAnswer a
  lookRoom : c.looks ≤ 10
  lookCount : c.phase.Searching → (looks (sinceRequest log)).length = c.looks ∧
    ∀ s ∈ looks (sinceRequest log), s.client? = none
  found : ¬ c.phase.Searching → c.looks < 10
  fresh : c.phase.Checking → c.looks = 0
  pauseTotal :
    pauses log + c.phase.due ≤ 100 * c.closedExecutions + 10 * c.closedPrepares + c.looks

def Course.Valid (k : Course) : Prop :=
  Kept k.call k.log ∨ ∃ o, k.call.outcome? = some o ∧ Settled k.log o ∧ Within k.log

theorem beginKept : Kept (.begin .query) [] where
  aim := rfl
  going := rfl
  unsettled := by intro h member; contradiction
  executionCount := rfl
  executionRoom := by decide
  prepareCount := by decide
  prepareRoom := by decide
  prepareTotal := by decide
  preparesClosed := by intro _; exact ⟨rfl, by intro a member; contradiction⟩
  lookRoom := by decide
  lookCount := by intro _; exact ⟨rfl, by intro s member; contradiction⟩
  found := by intro _; decide
  fresh := by intro _; rfl
  pauseTotal := by decide

theorem unsettledExecutions {log : List Happening} (unsettled : Unsettled log) :
    ∀ a ∈ executions log, ClosedAnswer a := by
  intro a member
  obtain ⟨h, inside, same⟩ := List.mem_filterMap.mp member
  have passing := unsettled h inside
  cases h with
  | executed p answer =>
    cases Option.some.inj same
    cases a with
    | ok cells => contradiction
    | error e => exact ⟨e, rfl, passing⟩
  | _ => contradiction

theorem unsettledCons {h : Happening} {log : List Happening} (passing : h.Passing)
    (unsettled : Unsettled log) : Unsettled (h :: log) := by
  intro g member
  rcases List.mem_cons.mp member with rfl | rest
  · exact passing
  · exact unsettled g rest

theorem keptWithin {c : Call} {log : List Happening} (kept : Kept c log) : Within log := by
  obtain ⟨_, _, _, count, room, searched, closed, total, _, look, _, _, _, paused⟩ := kept
  exact ⟨by omega, by omega, by omega⟩

/-! ### One turn -/

theorem reachQuery {c : Call} (aim : c.aim = .query) (client : Client) :
    c.reach client = { c with phase := .preparing client } := by
  simp only [Call.reach, aim]

theorem handQuery {c : Call} (aim : c.aim = .query) (p : Prepared) :
    c.hand p = { c with phase := .executing p } := by
  simp only [Call.hand, aim]

theorem turnCheck {k : Course} {o : Offer} (kept : Kept k.call k.log)
    (ready : k.call.phase = .ready .check) : (k.turn o).Valid := by
  obtain ⟨c, log⟩ := k
  simp only at kept ready
  have idle : ¬ c.phase.Executing := by rw [ready]; exact id
  have paused : pauses log + 0 ≤ 100 * c.closedExecutions + 10 * c.closedPrepares + c.looks := by
    simpa only [ready, Phase.due] using kept.pauseTotal
  have counted := kept.preparesClosed idle
  have looked := kept.lookCount (by rw [ready]; trivial)
  have none : c.looks = 0 := kept.fresh (by rw [ready]; trivial)
  have stale : Kept { c with phase := .ready .look } log :=
    { kept with
      going := rfl
      preparesClosed := fun _ => counted
      lookCount := fun _ => looked
      found := fun no => (no trivial).elim
      fresh := fun no => no.elim
      pauseTotal := paused }
  have current (p : Prepared) : Kept (c.hand p) log := by
    rw [handQuery kept.aim]
    exact { kept with
      going := rfl
      preparesClosed := fun no => (no trivial).elim
      lookCount := fun no => no.elim
      found := fun _ => by simp only [none]; decide
      fresh := fun no => no.elim
      pauseTotal := paused }
  simp only [Course.turn, Call.turn, Call.awaits, Call.happening, ready, Call.step, Call.check,
    Option.toList_none, List.nil_append]
  left
  cases o.cache with
  | none => exact stale
  | some p =>
    simp only
    split
    · exact current p
    · exact stale

theorem turnLook {k : Course} {o : Offer} (kept : Kept k.call k.log)
    (ready : k.call.phase = .ready .look) : (k.turn o).Valid := by
  obtain ⟨c, log⟩ := k
  simp only at kept ready
  have idle : ¬ c.phase.Executing := by rw [ready]; exact id
  have paused : pauses log + 0 ≤ 100 * c.closedExecutions + 10 * c.closedPrepares + c.looks := by
    simpa only [ready, Phase.due] using kept.pauseTotal
  obtain ⟨looked, seen⟩ := kept.lookCount (by rw [ready]; trivial)
  have counted := kept.preparesClosed idle
  have room := kept.lookRoom
  by_cases more : c.looks < attempts
  · have less : c.looks < 10 := more
    simp only [Course.turn, Call.turn, Call.awaits, Call.happening, ready, Call.step, Call.look,
      if_pos more, Option.toList_some, List.singleton_append]
    left
    cases live : o.state.client? with
    | some client =>
      simp only [reachQuery kept.aim]
      exact { kept with
        going := rfl
        unsettled := unsettledCons trivial kept.unsettled
        preparesClosed := fun _ => counted
        lookCount := fun no => no.elim
        found := fun _ => less
        fresh := fun no => no.elim
        pauseTotal := paused }
    | none =>
      exact { kept with
        going := rfl
        unsettled := unsettledCons trivial kept.unsettled
        preparesClosed := fun _ => counted
        lookRoom := less
        lookCount := by
          intro _
          refine ⟨congrArg Nat.succ looked, ?_⟩
          intro s member
          rcases List.mem_cons.mp member with rfl | rest
          · exact live
          · exact seen s rest
        found := fun no => (no trivial).elim
        fresh := fun no => no.elim
        pauseTotal := Nat.succ_le_succ paused }
  · have ten : c.looks = 10 := Nat.le_antisymm room (Nat.not_lt.mp more)
    simp only [Course.turn, Call.turn, Call.awaits, Call.happening, ready, Call.step, Call.look,
      if_neg more, Option.toList_none, List.nil_append]
    exact .inr ⟨_, rfl, .noClient kept.unsettled (looked.trans ten) seen, keptWithin kept⟩

theorem turnPause {k : Course} {o : Offer} {next : Move} (kept : Kept k.call k.log)
    (pausing : k.call.phase = .pausing next) : (k.turn o).Valid := by
  obtain ⟨c, log⟩ := k
  simp only at kept pausing
  have idle : ¬ c.phase.Executing := by rw [pausing]; exact id
  have paused : pauses log + 1 ≤ 100 * c.closedExecutions + 10 * c.closedPrepares + c.looks := by
    simpa only [pausing, Phase.due] using kept.pauseTotal
  have counted := kept.preparesClosed idle
  have looked := kept.lookCount (by rw [pausing]; trivial)
  have fresh : (Phase.ready next).Checking → c.looks = 0 := by
    intro checking
    apply kept.fresh
    rw [pausing]
    cases next
    · trivial
    · exact checking
  simp only [Course.turn, Call.turn, Call.awaits, Call.happening, pausing, Call.step,
    Option.toList_some, List.singleton_append]
  left
  exact { kept with
    going := rfl
    unsettled := unsettledCons trivial kept.unsettled
    preparesClosed := fun _ => counted
    lookCount := fun _ => looked
    found := fun no => (no trivial).elim
    fresh := fresh
    pauseTotal := by
      change pauses (.paused :: log) + 0 ≤ _
      rw [pauses, List.countP_cons_of_pos rfl]
      exact paused }

theorem turnPrepare {k : Course} {o : Offer} {client : Client} (kept : Kept k.call k.log)
    (preparing : k.call.phase = .preparing client) : (k.turn o).Valid := by
  obtain ⟨c, log⟩ := k
  simp only at kept preparing
  have idle : ¬ c.phase.Executing := by rw [preparing]; exact id
  have paused : pauses log + 0 ≤ 100 * c.closedExecutions + 10 * c.closedPrepares + c.looks := by
    simpa only [preparing, Phase.due] using kept.pauseTotal
  have less := kept.found (by rw [preparing]; exact id)
  have room := kept.prepareRoom
  have total := kept.prepareTotal
  obtain ⟨prepared, closed⟩ := kept.preparesClosed idle
  have within := keptWithin kept
  simp only [Course.turn, Call.turn, Call.awaits, Call.happening, preparing, Call.step,
    Option.toList_some, List.singleton_append]
  cases answer : o.columns with
  | ok columns =>
    left
    simp only [handQuery kept.aim]
    exact { kept with
      going := rfl
      unsettled := unsettledCons trivial kept.unsettled
      prepareCount := Nat.succ_le_succ (Nat.le_of_eq prepared)
      prepareTotal := Nat.succ_le_succ total
      preparesClosed := fun no => (no trivial).elim
      lookCount := fun no => no.elim
      found := fun _ => less
      fresh := fun no => no.elim
      pauseTotal := paused }
  | error e =>
    have counted : Within (.prepared client (.error e) :: log) := by
      refine ⟨within.executions, ?_, within.pauses⟩
      change (prepares log).length + 1 ≤ 100
      have executions := kept.executionRoom
      omega
    by_cases gone : isClosed e = true
    · have passing : Closed e := (isClosedExact e).mp gone
      have unsettled : Unsettled (.prepared client (.error e) :: log) :=
        unsettledCons passing kept.unsettled
      have allClosed : ∀ a ∈ prepares (sinceExecution (.prepared client (.error e) :: log)),
          ClosedAnswer a := by
        intro a member
        rcases List.mem_cons.mp member with rfl | rest
        · exact ⟨e, rfl, passing⟩
        · exact closed a rest
      simp only [if_pos gone, Call.prepareClosed]
      by_cases more : c.closedPrepares + 1 < attempts
      · simp only [if_pos more]
        left
        exact { kept with
          going := rfl
          unsettled := unsettled
          prepareCount := Nat.le_succ_of_le (Nat.succ_le_succ (Nat.le_of_eq prepared))
          prepareRoom := more
          prepareTotal := Nat.succ_le_succ total
          preparesClosed := fun _ => ⟨congrArg Nat.succ prepared, allClosed⟩
          lookRoom := Nat.zero_le _
          lookCount := fun _ => ⟨rfl, by intro s member; contradiction⟩
          found := fun no => (no trivial).elim
          fresh := fun no => no.elim
          pauseTotal := by
            change pauses log + 1 ≤ 100 * c.closedExecutions + 10 * (c.closedPrepares + 1) + 0
            omega }
      · simp only [if_neg more]
        have ten : c.closedPrepares + 1 = 10 := Nat.le_antisymm room (Nat.not_lt.mp more)
        exact .inr ⟨_, rfl,
          .noStatement unsettled ((congrArg Nat.succ prepared).trans ten) allClosed, counted⟩
    · simp only [if_neg gone]
      have other : ¬ Closed e := fun passing => gone ((isClosedExact e).mpr passing)
      exact .inr ⟨_, rfl, .prepareError kept.unsettled other, counted⟩

theorem turnExecute {k : Course} {o : Offer} {p : Prepared} (kept : Kept k.call k.log)
    (executing : k.call.phase = .executing p) : (k.turn o).Valid := by
  obtain ⟨c, log⟩ := k
  simp only at kept executing
  have paused : pauses log + 0 ≤ 100 * c.closedExecutions + 10 * c.closedPrepares + c.looks := by
    simpa only [executing, Phase.due] using kept.pauseTotal
  have less := kept.found (by rw [executing]; exact id)
  have room := kept.executionRoom
  have prepareRoom := kept.prepareRoom
  have searched := kept.prepareCount
  have total := kept.prepareTotal
  have count := kept.executionCount
  have within := keptWithin kept
  have counted (answer) : Within (.executed p answer :: log) := by
    refine ⟨?_, within.prepares, within.pauses⟩
    change (executions log).length + 1 ≤ 10
    omega
  simp only [Course.turn, Call.turn, Call.awaits, Call.happening, executing, Call.step,
    Option.toList_some, List.singleton_append]
  cases answer : o.cells with
  | ok cells => exact .inr ⟨_, rfl, .rows kept.unsettled, counted _⟩
  | error e =>
    by_cases gone : isClosed e = true
    · have passing : Closed e := (isClosedExact e).mp gone
      have unsettled : Unsettled (.executed p (.error e) :: log) :=
        unsettledCons passing kept.unsettled
      simp only [if_pos gone, Call.executionClosed]
      by_cases more : c.closedExecutions + 1 < attempts
      · simp only [if_pos more]
        left
        exact { kept with
          going := rfl
          unsettled := unsettled
          executionCount := congrArg Nat.succ count
          executionRoom := more
          prepareCount := Nat.zero_le _
          prepareRoom := Nat.zero_lt_succ _
          prepareTotal := by
            change (prepares log).length ≤ 10 * (c.closedExecutions + 1) + 0
            omega
          preparesClosed := fun _ => ⟨rfl, by intro a member; contradiction⟩
          lookRoom := Nat.zero_le _
          lookCount := fun _ => ⟨rfl, by intro s member; contradiction⟩
          found := fun no => (no trivial).elim
          fresh := fun _ => rfl
          pauseTotal := by
            change pauses log + 1 ≤ 100 * (c.closedExecutions + 1) + 10 * 0 + 0
            omega }
      · simp only [if_neg more]
        have ten : c.closedExecutions + 1 = 10 := Nat.le_antisymm room (Nat.not_lt.mp more)
        exact .inr ⟨_, rfl, .noExecution unsettled ((congrArg Nat.succ count).trans ten)
          (unsettledExecutions unsettled), counted _⟩
    · simp only [if_neg gone]
      have other : ¬ Closed e := fun passing => gone ((isClosedExact e).mpr passing)
      exact .inr ⟨_, rfl, .executionError kept.unsettled other, counted _⟩

theorem turnOver {k : Course} {o : Offer} {out} (ended : k.call.outcome? = some out) :
    k.turn o = k := by
  obtain ⟨c, log⟩ := k
  unfold Call.outcome? at ended
  simp only at ended
  split at ended
  · rename_i phase
    simp only [Course.turn, Call.turn, Call.awaits, Call.happening, phase, Option.toList_none,
      List.nil_append]
  · contradiction

theorem turnValid {k : Course} (valid : k.Valid) (o : Offer) : (k.turn o).Valid := by
  rcases valid with kept | ⟨out, ended, rest⟩
  · cases phase : k.call.phase with
    | ready next =>
      cases next with
      | check => exact turnCheck kept phase
      | look => exact turnLook kept phase
    | pausing next => exact turnPause kept phase
    | preparing client => exact turnPrepare kept phase
    | executing p => exact turnExecute kept phase
    | «over» out =>
      have going := kept.going
      simp only [Call.outcome?, phase, reduceCtorEq] at going
  · rw [turnOver ended]
    exact .inr ⟨out, ended, rest⟩

theorem courseValid {c : Call} (kept : Kept c []) (offers : Nat → Offer) (n : Nat) :
    (course c offers n).Valid := by
  induction n with
  | zero => exact .inl kept
  | succ n ih => exact turnValid ih (offers n)

/-! ### A call that runs alone -/

def Session.offer {σ : Type} (p : Peer σ) (s : Session σ) : Offer where
  state := (p.look s.peer).1
  cache := s.cache
  columns :=
    match s.call.phase with
    | .preparing client => (p.prepare client s.peer).1
    | _ => .error closedError
  cells :=
    match s.call.phase with
    | .executing prepared => (p.execute prepared s.peer).1
    | _ => .error closedError

theorem turnAlone {σ : Type} (p : Peer σ) (s : Session σ) :
    (s.turn p).call = s.call.turn (s.offer p) := by
  cases phase : s.call.phase with
  | ready next => simp only [Session.turn, Session.stepped, Call.turn, Call.awaits, phase]; rfl
  | pausing next =>
    simp only [Session.turn, Session.stepped, Call.turn, Call.awaits, phase, Call.step]
  | preparing client =>
    simp only [Session.turn, Session.stepped, Call.turn, Call.awaits, Session.offer, phase]
    cases (p.prepare client s.peer).1 <;> simp only [Call.step, phase]
  | executing prepared =>
    simp only [Session.turn, Session.stepped, Call.turn, Call.awaits, Session.offer, phase]
    cases (p.execute prepared s.peer).1 <;> simp only [Call.step, phase]
  | «over» out => simp only [Session.turn, Call.turn, Call.awaits, phase]

def Session.offers {σ : Type} (p : Peer σ) (s : Session σ) (n : Nat) : Offer :=
  ((Session.turn p)^[n] s).offer p

theorem courseAlone {σ : Type} (p : Peer σ) (s : Session σ) (n : Nat) :
    (course s.call (s.offers p) n).call = ((Session.turn p)^[n] s).call := by
  induction n with
  | zero => rfl
  | succ n ih =>
    rw [Function.iterate_succ_apply', turnAlone, ← ih]
    rfl

theorem runForTurns {σ : Type} (p : Peer σ) (n : Nat) (s : Session σ) :
    s.runFor p n = (Session.turn p)^[n] s := by
  induction n generalizing s with
  | zero => rfl
  | succ n ih =>
    unfold Session.runFor
    split
    · rename_i out ended
      have fixed : s.turn p = s := by simp only [Session.turn, ended]
      exact (Function.iterate_fixed fixed (n + 1)).symm
    · rw [ih, Function.iterate_succ_apply]

/-! ### The end of a query -/

def Offer.peer (o : Offer) : Peer Unit where
  look s := (o.state, s)
  pause s := s
  prepare _ s := (o.columns, s)
  execute _ s := (o.cells, s)

theorem rankTurn (o : Offer) {c : Call} (going : c.outcome? = none) :
    (c.turn o).rank < c.rank := by
  have same : c.turn ((Session.mk c o.cache ()).offer o.peer) = c.turn o := by
    cases phase : c.phase <;>
      simp only [Call.turn, Call.awaits, Session.offer, Offer.peer, phase]
  rw [← same, ← turnAlone]
  exact Session.rankTurn o.peer going

theorem courseRank (c : Call) (offers : Nat → Offer) (n : Nat) :
    (∃ m o, (course c offers m).call.outcome? = some o) ∨
      (course c offers n).call.rank + n ≤ c.rank := by
  induction n with
  | zero => exact .inr (Nat.le_refl _)
  | succ n ih =>
    rcases ih with ended | lower
    · exact .inl ended
    · cases state : (course c offers n).call.outcome? with
      | some o => exact .inl ⟨n, o, state⟩
      | none =>
        have less := rankTurn (offers n) state
        right
        change ((course c offers n).call.turn (offers n)).rank + (n + 1) ≤ c.rank
        omega

theorem courseEnds (c : Call) (offers : Nat → Offer) :
    ∃ n o, (course c offers n).call.outcome? = some o := by
  rcases courseRank c offers (c.rank + 1) with ended | lower
  · exact ended
  · omega

/- What does not pass comes last and decides the outcome. -/
theorem settledLast {log : List Happening} {o : Outcome} {h : Happening} (settled : Settled log o)
    (inside : h ∈ log) (last : ¬ h.Passing) : ∃ before, log = h :: before := by
  have first {g before} (unsettled : Unsettled before) (member : h ∈ g :: before) :
      ∃ before', g :: before = h :: before' := by
    rcases List.mem_cons.mp member with rfl | rest
    · exact ⟨before, rfl⟩
    · exact absurd (unsettled h rest) last
  cases settled with
  | rows before => exact first before inside
  | prepareError before other => exact first before inside
  | executionError before other => exact first before inside
  | noClient before ten none => exact absurd (before h inside) last
  | noStatement before ten closed => exact absurd (before h inside) last
  | noExecution before ten closed => exact absurd (before h inside) last

theorem settledUnique {log : List Happening} {o other : Outcome} (left : Settled log o)
    (right : Settled log other) : o = other := by
  have passed {h : Happening} {rest} (unsettled : Unsettled (h :: rest)) : h.Passing :=
    unsettled h List.mem_cons_self
  cases left with
  | rows before =>
    cases right with
    | rows => rfl
    | noClient before => exact (passed before).elim
    | noStatement before => exact (passed before).elim
    | noExecution before => exact (passed before).elim
  | prepareError before other =>
    cases right with
    | prepareError => rfl
    | noClient before => exact absurd (passed before) other
    | noStatement before => exact absurd (passed before) other
    | noExecution before => exact absurd (passed before) other
  | executionError before other =>
    cases right with
    | executionError => rfl
    | noClient before => exact absurd (passed before) other
    | noStatement before => exact absurd (passed before) other
    | noExecution before => exact absurd (passed before) other
  | noClient unsettled | noStatement unsettled | noExecution unsettled =>
    cases right with
    | rows => exact (passed unsettled).elim
    | prepareError _ other => exact absurd (passed unsettled) other
    | executionError _ other => exact absurd (passed unsettled) other
    | _ => rfl

structure Course.Ended (k : Course) (o : Outcome) : Prop where
  outcome : k.call.outcome? = some o
  within : Within k.log
  settled : Settled k.log o
  unique : ∀ other, Settled k.log other → other = o
  rows : ∀ p cells, .executed p (.ok cells) ∈ k.log → o = .rows ⟨p.statement.columns, cells⟩
  prepareError : ∀ client e, .prepared client (.error e) ∈ k.log → ¬ Closed e →
    o = .failed (.database e)
  executionError : ∀ p e, .executed p (.error e) ∈ k.log → ¬ Closed e → o = .failed (.database e)

theorem validEnded {k : Course} {o : Outcome} (valid : k.Valid)
    (ended : k.call.outcome? = some o) : k.Ended o := by
  rcases valid with kept | ⟨out, same, settled, within⟩
  · rw [kept.going] at ended
    contradiction
  · cases Option.some.inj (same.symm.trans ended)
    refine ⟨ended, within, settled, fun other also => settledUnique also settled, ?_, ?_, ?_⟩
    · intro p cells inside
      obtain ⟨before, log⟩ := settledLast settled inside id
      rw [log] at settled
      cases settled with
      | rows => rfl
      | noClient unsettled | noStatement unsettled | noExecution unsettled =>
        exact (unsettled _ List.mem_cons_self).elim
    · intro client e inside other
      obtain ⟨before, log⟩ := settledLast settled inside other
      rw [log] at settled
      cases settled with
      | prepareError => rfl
      | noClient unsettled | noStatement unsettled | noExecution unsettled =>
        exact absurd (unsettled _ List.mem_cons_self) other
    · intro p e inside other
      obtain ⟨before, log⟩ := settledLast settled inside other
      rw [log] at settled
      cases settled with
      | executionError => rfl
      | noClient unsettled | noStatement unsettled | noExecution unsettled =>
        exact absurd (unsettled _ List.mem_cons_self) other

/- A query ends within its budget whatever it is met with: with the rows of its first execution
that succeeds, with the first error that is not a closed connection, or without a connection after
ten fruitless looks, ten closed prepares or ten closed executions. Closed executions before the
end leave no trace in the outcome. A query that runs alone is met by its peer. -/
theorem queryEnds :
    (∀ offers : Nat → Offer, ∃ n o, (course (.begin .query) offers n).Ended o) ∧
    ∀ {σ : Type} (p : Peer σ) (cache : Option Prepared) (peer : σ),
      let offers := (Session.mk (.begin .query) cache peer).offers p
      ∃ n o, (p.call .query cache peer).call = (course (.begin .query) offers n).call ∧
        (course (.begin .query) offers n).Ended o := by
  constructor
  · intro offers
    obtain ⟨n, o, ended⟩ := courseEnds (.begin .query) offers
    exact ⟨n, o, validEnded (courseValid beginKept offers n) ended⟩
  · intro σ p cache peer offers
    let start : Session σ := ⟨.begin .query, cache, peer⟩
    have same : (p.call .query cache peer).call =
        (course (.begin .query) offers (start.call.rank + 1)).call := by
      rw [Peer.call, Session.run, runForTurns]
      exact (courseAlone p start _).symm
    obtain ⟨o, ended⟩ := Option.isSome_iff_exists.mp (Session.runOver p start)
    refine ⟨_, o, same, validEnded (courseValid beginKept _ _) ?_⟩
    rw [← same]
    exact ended

end TagListing.Database
