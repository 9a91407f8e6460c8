import TagListing.Database.Statement
/-!
A call that runs alone. It meets a peer: what the link shows at each look, and the answer to each
request. Every turn lowers the rank of the call, so it comes to its end whatever the peer does.
-/
namespace TagListing.Database

structure Peer (σ : Type) where
  look : σ → LinkState × σ
  pause : σ → σ
  prepare : Client → σ → Except DatabaseError (List Column) × σ
  execute : Prepared → σ → Except DatabaseError (List (List Cell)) × σ

structure Session (σ : Type) where
  call : Call
  cache : Option Prepared
  peer : σ

namespace Session

def stepped {σ : Type} (s : Session σ) (state : LinkState) (e : CallEvent) (peer : σ) :
    Session σ :=
  let (call, cache) := s.call.step state s.cache e
  ⟨call, cache, peer⟩

def turn {σ : Type} (p : Peer σ) (s : Session σ) : Session σ :=
  match s.call.phase with
  | .ready _ =>
    let (state, peer) := p.look s.peer
    s.stepped state .move peer
  | .pausing _ => s.stepped .initial .wake (p.pause s.peer)
  | .preparing client =>
    let (answer, peer) := p.prepare client s.peer
    s.stepped .initial (.prepared answer) peer
  | .executing prepared =>
    let (answer, peer) := p.execute prepared s.peer
    s.stepped .initial (.executed answer) peer
  | .over _ => s

end Session

def Phase.rank : Phase → Nat
  | .pausing .check => 6
  | .ready .check => 5
  | .pausing .look => 4
  | .ready .look => 3
  | .preparing _ => 2
  | .executing _ => 1
  | .over _ => 0

/-- Bounds the turns a call may still take. A closed execution costs more than all that a search
for a statement may take, a closed prepare more than all looks for a client. -/
def Call.rank (c : Call) : Nat :=
  (((attempts - c.closedExecutions) * (attempts + 1) + (attempts - c.closedPrepares)) *
    (attempts + 1) + (attempts - c.looks)) * 7 + c.phase.rank

def Session.runFor {σ : Type} (p : Peer σ) : Nat → Session σ → Session σ
  | 0, s => s
  | n + 1, s =>
    match s.call.phase with
    | .over _ => s
    | _ => runFor p n (s.turn p)

def Session.run {σ : Type} (p : Peer σ) (s : Session σ) : Session σ :=
  s.runFor p (s.call.rank + 1)

def Peer.call {σ : Type} (p : Peer σ) (aim : Aim) (cache : Option Prepared) (peer : σ) :
    Session σ :=
  (Session.mk (.begin aim) cache peer).run p

/-! ### The end of a call -/

namespace Call

theorem rankHand {c : Call} {p : Prepared} (h : 1 < c.phase.rank) : (c.hand p).rank < c.rank := by
  unfold hand
  split
  · exact Nat.add_lt_add_left h _
  · exact Nat.add_lt_add_left (Nat.lt_of_succ_lt h) _

theorem rankFinish {c : Call} {o : Outcome} (h : 0 < c.phase.rank) :
    (c.finish o).rank < c.rank := by
  exact Nat.add_lt_add_left h _

theorem rankLook {c : Call} {s : LinkState} (h : c.phase = .ready .look) :
    (c.look s).rank < c.rank := by
  unfold look
  split
  · rename_i room
    split
    · unfold reach
      split
      · exact rankFinish (by simp [h, Phase.rank])
      · simp only [rank, h, Phase.rank]; omega
    · simp only [rank, h, Phase.rank]
      simp only [attempts] at *
      omega
  · exact rankFinish (by simp [h, Phase.rank])

theorem rankCheck {c : Call} {s : LinkState} {cache : Option Prepared}
    (h : c.phase = .ready .check) : (c.check s cache).rank < c.rank := by
  unfold check
  split
  · split
    · exact rankHand (by simp [h, Phase.rank])
    · simp only [rank, h, Phase.rank]; omega
  · simp only [rank, h, Phase.rank]; omega

theorem rankPrepareClosed {c : Call} {client : Client} (h : c.phase = .preparing client) :
    c.prepareClosed.rank < c.rank := by
  unfold prepareClosed
  split
  · simp only [rank, h, Phase.rank]
    simp only [attempts] at *
    omega
  · exact rankFinish (by simp [h, Phase.rank])

theorem rankExecutionClosed {c : Call} {p : Prepared} (h : c.phase = .executing p) :
    c.executionClosed.rank < c.rank := by
  unfold executionClosed
  split
  · simp only [rank, h, Phase.rank]
    simp only [attempts] at *
    omega
  · exact rankFinish (by simp [h, Phase.rank])

end Call

theorem Session.rankTurn {σ : Type} (p : Peer σ) {s : Session σ}
    (h : s.call.outcome? = none) : (s.turn p).call.rank < s.call.rank := by
  unfold Session.turn
  split
  · rename_i next hp
    simp only [Session.stepped, Call.step, hp]
    cases next
    · exact Call.rankCheck hp
    · exact Call.rankLook hp
  · rename_i next hp
    simp only [Session.stepped, Call.step, hp, Call.rank]
    cases next <;> simp only [Phase.rank] <;> omega
  · rename_i client hp
    simp only [Session.stepped, Call.step, hp]
    cases (p.prepare client s.peer).1 with
    | ok columns => exact Call.rankHand (by simp [hp, Phase.rank])
    | error e =>
      simp only
      split
      · exact Call.rankPrepareClosed hp
      · exact Call.rankFinish (by simp [hp, Phase.rank])
  · rename_i prepared hp
    simp only [Session.stepped, Call.step, hp]
    cases (p.execute prepared s.peer).1 with
    | ok cells => exact Call.rankFinish (by simp [hp, Phase.rank])
    | error e =>
      simp only
      split
      · exact Call.rankExecutionClosed hp
      · exact Call.rankFinish (by simp [hp, Phase.rank])
  · rename_i o hp
    simp [Call.outcome?, hp] at h

theorem Session.runForOver {σ : Type} (p : Peer σ) {n : Nat} {s : Session σ}
    (room : s.call.rank < n) : ((s.runFor p n).call.outcome?).isSome = true := by
  induction n generalizing s with
  | zero => omega
  | succ n ih =>
    unfold Session.runFor
    split
    · rename_i o hp
      simp [Call.outcome?, hp]
    · rename_i going
      have h : s.call.outcome? = none := by
        unfold Call.outcome?
        split
        · rename_i o hp; exact absurd hp (going o)
        · rfl
      exact ih (by have := Session.rankTurn p h; omega)

theorem Session.runOver {σ : Type} (p : Peer σ) (s : Session σ) :
    ((s.run p).call.outcome?).isSome = true :=
  Session.runForOver p (Nat.lt_succ_self _)

end TagListing.Database
