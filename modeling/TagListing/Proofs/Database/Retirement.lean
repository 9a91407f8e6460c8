import Mathlib.Data.List.Induction
import TagListing.Proofs.Database.Cycle
import TagListing.Proofs.Rehearsal.Pauses

/-! The end of a keeper, and its pauses until then. Once the last holder lets go nothing is stored, a
pause after a refused attempt may still end in one more dialling, and the keeper stops as soon as it
looks whether the link is held. While the link is held it stops after a clean end only. How long an
attempt or a connection lasts is not claimed. -/
namespace TagListing.Database

namespace Keeper

/- The version that a keeper begins to dial. -/
def dials? (held : Bool) (k : Keeper) (e : KeeperEvent) : Option Nat :=
  match k, (k.step held e).1 with
  | .dialling _, _ => none
  | _, .dialling v => some v
  | _, _ => none

/- A keeper looks whether the link is held where it would go on differently. -/
def Looks (k : Keeper) (e : KeeperEvent) : Prop := k.step true e ≠ k.step false e

/- A keeper, and what may be left of it once the link is released. -/
inductive Retires : Keeper → Keeper → Prop where
  | still (k) : Retires k k
  | dials (v) : Retires (.backoff v) (.dialling v)
  | stops (k) : Retires k .stopped

theorem retiresNext {k l : Keeper} (retires : Retires k l) (e : KeeperEvent) :
    Retires k (l.step false e).1 := by
  cases retires with
  | still =>
    cases k <;> cases e <;> first | exact .still _ | exact .stops _ | exact .dials _
  | dials v => cases e <;> first | exact .dials v | exact .stops _
  | stops => cases e <;> exact .stops k

theorem releasedSilent (k : Keeper) (e : KeeperEvent) : (k.step false e).2 = none := by
  cases k <;> cases e <;> rfl

theorem looksStops {k : Keeper} {e : KeeperEvent} (looks : k.Looks e) :
    (k.step false e).1 = .stopped := by
  cases k <;> cases e <;> first | rfl | exact absurd rfl looks

theorem releasedDials (k : Keeper) (e : KeeperEvent) : k.dials? false e = none ∨
    ∃ v, k = .backoff v ∧ k.dials? false e = some v ∧ (k.step false e).1 = .dialling v := by
  cases k <;> cases e <;> first | exact .inl rfl | exact .inr ⟨_, rfl, rfl, rfl⟩

theorem heldStops {k : Keeper} {e : KeeperEvent} (going : k ≠ .stopped)
    (stops : (k.step true e).1 = .stopped) :
    ∃ c, k = .attached c ∧ e = .ended true ∧ (k.step true e).2 = some (.disconnected c.version) := by
  cases k with
  | stopped => contradiction
  | attached c =>
    cases e with
    | ended clean =>
      cases clean with
      | true => exact ⟨c, rfl, rfl, rfl⟩
      | false => contradiction
    | _ => contradiction
  | _ => cases e <;> contradiction

end Keeper

namespace Shared

def dials? (s : Shared) : SharedEvent → Option Nat
  | .keeper e => s.keeper.dials? s.held e
  | _ => none

def dialled (s : Shared) : List SharedEvent → List Nat
  | [] => []
  | e :: rest => (s.dials? e).toList ++ (s.step e).dialled rest

variable {s t : Shared}

/- Only the keeper moves itself and stores states. -/
theorem othersKeep (s : Shared) (e : SharedEvent) :
    (∃ f, e = .keeper f) ∨ (s.step e).keeper = s.keeper ∧ (s.step e).state = s.state ∧
      s.dials? e = none := by
  cases e with
  | keeper f => exact .inl ⟨f, rfl⟩
  | start statement aim => exact .inr ⟨rfl, rfl, rfl⟩
  | call position e =>
    rw [step, stepCall]
    split <;> exact .inr ⟨rfl, rfl, rfl⟩
  | release => exact .inr ⟨rfl, rfl, rfl⟩

theorem keeperMoves (s : Shared) (e : KeeperEvent) :
    (s.step (.keeper e)).keeper = (s.keeper.step s.held e).1 ∧
      (s.step (.keeper e)).state = (s.keeper.step s.held e).2.getD s.state := ⟨rfl, rfl⟩

theorem heldStep (s : Shared) (e : SharedEvent) :
    (s.step e).held = s.held ∨ e = .release ∧ (s.step e).held = false := by
  cases e with
  | call position e =>
    rw [step, stepCall]
    split <;> exact .inl rfl
  | release => exact .inr ⟨rfl, rfl⟩
  | _ => exact .inl rfl

theorem heldRun {events : List SharedEvent} (alive : .release ∉ events) :
    (s.run events).held = s.held := by
  induction events generalizing s with
  | nil => rfl
  | cons e rest ih =>
    obtain ⟨now, later⟩ := not_or.mp (mt List.mem_cons.mpr alive)
    refine (ih later).trans ?_
    rcases heldStep s e with kept | ⟨rfl, _⟩
    · exact kept
    · exact absurd rfl now

theorem runSnoc (events : List SharedEvent) (e : SharedEvent) :
    s.run (events ++ [e]) = (s.run events).step e := List.foldl_append

/-! ### After the release -/

theorem releasedStep (gone : s.held = false) (e : SharedEvent) : (s.step e).held = false ∧
    (s.step e).state = s.state ∧ ∀ k, Keeper.Retires k s.keeper → Keeper.Retires k (s.step e).keeper := by
  refine ⟨?_, ?_⟩
  · rcases heldStep s e with kept | ⟨-, now⟩
    · exact kept.trans gone
    · exact now
  · rcases othersKeep s e with ⟨e, rfl⟩ | ⟨keeper, state, _⟩
    · simp only [step, stepKeeper, gone, Keeper.releasedSilent, Option.getD_none, true_and]
      exact fun k retires => Keeper.retiresNext retires e
    · rw [keeper]
      exact ⟨state, fun k retires => retires⟩

theorem releasedRun (gone : s.held = false) (events : List SharedEvent) :
    (s.run events).held = false ∧ (s.run events).state = s.state ∧
      Keeper.Retires s.keeper (s.run events).keeper := by
  induction events using List.reverseRecOn with
  | nil => exact ⟨gone, rfl, .still _⟩
  | append_singleton events e ih =>
    obtain ⟨held, state, retires⟩ := ih
    obtain ⟨held', state', next⟩ := releasedStep held e
    rw [runSnoc]
    exact ⟨held', state'.trans state, next _ retires⟩

theorem releasedDialled (gone : s.held = false) (events : List SharedEvent) :
    s.dialled events = [] ∨ ∃ v, s.keeper = .backoff v ∧ s.dialled events = [v] := by
  induction events generalizing s with
  | nil => exact .inl rfl
  | cons e rest ih =>
    obtain ⟨held, _, retires⟩ := releasedStep gone e
    rw [dialled]
    rcases othersKeep s e with ⟨e, rfl⟩ | ⟨keeper, _, silent⟩
    · rcases Keeper.releasedDials s.keeper e with silent | ⟨v, backoff, dials, next⟩
      · have quiet : s.dials? (.keeper e) = none := (congrArg (s.keeper.dials? · e) gone).trans silent
        rw [quiet]
        rcases ih held with quiet | ⟨v, backoff, dials⟩
        · exact .inl quiet
        · have same := retires s.keeper (.still _)
          rw [backoff] at same
          generalize was : s.keeper = k at same ⊢
          cases same
          exact .inr ⟨v, rfl, dials⟩
      · have spoken : s.dials? (.keeper e) = some v := (congrArg (s.keeper.dials? · e) gone).trans dials
        have dialling : (s.step (.keeper e)).keeper = .dialling v :=
          (congrArg (fun held => (s.keeper.step held e).1) gone).trans next
        rw [spoken]
        rcases ih held with quiet | ⟨w, again, _⟩
        · exact .inr ⟨v, backoff, by rw [quiet]; rfl⟩
        · rw [dialling] at again
          contradiction
    · rw [silent, ← keeper]
      exact ih held

/- What is left of a link after its release. -/
structure Retired (t : Shared) (after : List SharedEvent) : Prop where
  silent : (t.run after).state = t.state ∧
    ∀ e, ((t.run after).keeper.step (t.run after).held e).2 = none
  dialled : t.dialled after = [] ∨ ∃ v, t.keeper = .backoff v ∧ t.dialled after = [v]
  keeper : Keeper.Retires t.keeper (t.run after).keeper
  looks : ∀ e, (t.run after).keeper.Looks e → (t.run (after ++ [.keeper e])).keeper = .stopped
  /- A connection that is made is given up. -/
  accepted : ∀ v n, (t.run after).keeper = .dialling v →
    (t.run (after ++ [.keeper (.accepted n)])).keeper = .stopped

theorem released (gone : s.held = false) (after : List SharedEvent) : Retired s after := by
  obtain ⟨held, state, keeper⟩ := releasedRun gone after
  have stops (e : KeeperEvent) (looks : (s.run after).keeper.Looks e) :
      (s.run (after ++ [.keeper e])).keeper = .stopped := by
    rw [runSnoc, step, stepKeeper, held]
    exact Keeper.looksStops looks
  refine ⟨⟨state, fun e => ?_⟩, releasedDialled gone after, keeper, stops, fun v n dialling => ?_⟩
  · rw [held]
    exact Keeper.releasedSilent _ e
  · refine stops _ ?_
    rw [dialling]
    simp [Keeper.Looks, Keeper.step]

/-! ### While the link is held -/

theorem stoppedKeeps (stopped : s.keeper = .stopped) (e : SharedEvent) :
    (s.step e).state = s.state := by
  rcases othersKeep s e with ⟨e, rfl⟩ | ⟨_, state, _⟩
  · rw [step, stepKeeper, stopped]
    cases e <;> rfl
  · exact state

theorem heldEnds (held : s.held = true) (going : s.keeper ≠ .stopped) {events : List SharedEvent}
    (alive : .release ∉ events) (stopped : (s.run events).keeper = .stopped) :
    ∃ before after c, events = before ++ .keeper (.ended true) :: after ∧
      (s.run before).keeper = .attached c ∧ (s.run events).state = .disconnected c.version := by
  induction events using List.reverseRecOn with
  | nil => exact absurd stopped going
  | append_singleton events e ih =>
    have alive' : .release ∉ events := fun member => alive (List.mem_append_left _ member)
    have still : (s.run events).held = true := (heldRun alive').trans held
    rw [runSnoc] at stopped ⊢
    by_cases was : (s.run events).keeper = .stopped
    · obtain ⟨before, after, c, rfl, attached, state⟩ := ih alive' was
      exact ⟨before, after ++ [e], c, by simp, attached, (stoppedKeeps was e).trans state⟩
    · rcases othersKeep (s.run events) e with ⟨e, rfl⟩ | ⟨keeper, _, _⟩
      · simp only [step, stepKeeper, still] at stopped ⊢
        obtain ⟨c, attached, rfl, stored⟩ := Keeper.heldStops was stopped
        refine ⟨events, [], c, rfl, attached, ?_⟩
        rw [stored]
        rfl
      · rw [keeper] at stopped
        exact absurd stopped was

theorem shownRun (statements : Nat) (events : List SharedEvent) :
    ((initial statements).run events).keeper.Shows ((initial statements).run events).state := by
  induction events using List.reverseRecOn with
  | nil => rfl
  | append_singleton events e ih =>
    rw [runSnoc]
    generalize (initial statements).run events = s at ih ⊢
    rcases othersKeep s e with ⟨e, rfl⟩ | ⟨keeper, state, _⟩
    · obtain ⟨keeper, state⟩ := keeperMoves s e
      rw [keeper, state]
      cases stored : (s.keeper.step s.held e).2 with
      | none => exact keeperSilent ih stored
      | some t => exact (keeperStores ih stored).2
    · rw [keeper, state]
      exact ih

/- A pause, and another attempt after it. -/
def Pauses (next : Nat) (t : Shared) : Prop :=
  ∀ more, .release ∉ more → .keeper .wake ∉ more →
    (t.run more).keeper = t.keeper ∧ (t.run more).state = t.state ∧
    (t.run (more ++ [.keeper .wake])).keeper = .dialling next ∧
    (t.run (more ++ [.keeper .wake])).state = .connecting next

theorem pausedRun {k : Keeper} (rests : ∀ e, e ≠ .wake → k.step true e = (k, none))
    (held : s.held = true) (waits : s.keeper = k) {more : List SharedEvent}
    (alive : .release ∉ more) (quiet : .keeper .wake ∉ more) :
    (s.run more).keeper = k ∧ (s.run more).state = s.state := by
  induction more using List.reverseRecOn with
  | nil => exact ⟨waits, rfl⟩
  | append_singleton more e ih =>
    have alive' : .release ∉ more := fun member => alive (List.mem_append_left _ member)
    obtain ⟨keeper, state⟩ := ih alive' fun member => quiet (List.mem_append_left _ member)
    have still : (s.run more).held = true := (heldRun alive').trans held
    rw [runSnoc]
    rcases othersKeep (s.run more) e with ⟨e, rfl⟩ | ⟨keeper', state', _⟩
    · have other : e ≠ .wake := fun wake => quiet (by simp [wake])
      rw [step, stepKeeper, keeper, still, rests e other]
      exact ⟨rfl, state⟩
    · exact ⟨keeper'.trans keeper, state'.trans state⟩

theorem refusedPauses {v : Nat} (held : s.held = true) (waits : s.keeper = .backoff v)
    (shown : s.state = .connecting v) : Pauses v s := by
  intro more alive quiet
  have rests : ∀ e, e ≠ .wake → (Keeper.backoff v).step true e = (.backoff v, none) := by
    intro e other
    cases e <;> first | rfl | contradiction
  obtain ⟨keeper, state⟩ := pausedRun rests held waits alive quiet
  refine ⟨keeper.trans waits.symm, state, ?_, ?_⟩
  · rw [runSnoc, step, stepKeeper, keeper]
    rfl
  · rw [runSnoc, step, stepKeeper, keeper]
    exact state.trans shown

theorem lostPauses {v : Nat} (held : s.held = true) (waits : s.keeper = .resting v) :
    Pauses (v + 1) s := by
  intro more alive quiet
  have rests : ∀ e, e ≠ .wake → (Keeper.resting v).step true e = (.resting v, none) := by
    intro e other
    cases e <;> first | rfl | contradiction
  obtain ⟨keeper, state⟩ := pausedRun rests held waits alive quiet
  have still : (s.run more).held = true := (heldRun alive).trans held
  refine ⟨keeper.trans waits.symm, state, ?_, ?_⟩ <;>
    (rw [runSnoc, step, stepKeeper, keeper, still]; rfl)

end Shared

/-! ### The whole course -/

open Rehearsal (Scene Act tickAfter reconnectPause clockStep)
open Relation (ReflTransGen)

/- A keeper's pauses in virtual time take as long as they should, up to one tick. -/
structure Paced (s : Scene) : Prop where
  refused : ∀ v, s.shared.keeper = .dialling v → (s.server.dial s.now).1 = none →
    s.moveKeeper.Pauses s.now v
  lost : ∀ c, s.shared.keeper = .attached c → s.server.live = none →
    s.moveKeeper.Pauses s.now (c.version + 1)
  length : s.now + reconnectPause < tickAfter s.now reconnectPause ∧
    tickAfter s.now reconnectPause ≤ s.now + reconnectPause + clockStep

theorem paced {s : Scene} (held : s.shared.held = true) : Paced s := by
  refine ⟨fun v dialling => s.refusedPauses held dialling, fun c attached => s.lostPauses held attached,
    Rehearsal.tickAfterLater _ _, Rehearsal.tickAfterSoon _ _⟩

/- While the link is held its keeper stops after a clean end only, shows then that the connection is
gone, and else dials again after one pause: in the same cycle after a refused attempt, in the next one
after a lost connection. From the release on, whenever it comes, nothing is stored; a pause after a
refused attempt may end in one more dialling, and at the next look the keeper stops. -/
theorem keeperRetires :
    (∀ (statements : Nat) (events : List SharedEvent), .release ∉ events →
      let s := (Shared.initial statements).run events
      (s.keeper = .stopped → ∃ before after c, events = before ++ .keeper (.ended true) :: after ∧
        ((Shared.initial statements).run before).keeper = .attached c ∧
        s.state = .disconnected c.version) ∧
      (∀ v, s.keeper = .dialling v → let t := s.step (.keeper .refused)
        t.keeper = .backoff v ∧ t.state = .connecting v ∧ t.Pauses v) ∧
      (∀ c, s.keeper = .attached c → let t := s.step (.keeper (.ended false))
        t.keeper = .resting c.version ∧ t.state = .disconnected c.version ∧ t.Pauses (c.version + 1)) ∧
      ∀ after, (s.step .release).Retired after) ∧
    (∀ s : Scene, s.shared.held = true → Paced s) ∧
    ∀ (s : Scene) (acts : List Act), ReflTransGen Scene.Step s (s.perform acts).2 := by
  refine ⟨fun statements events alive => ?_, fun s => paced, fun s acts => s.performSteps acts⟩
  have held : ((Shared.initial statements).run events).held = true := Shared.heldRun alive
  have shown := Shared.shownRun statements events
  have going : (Shared.initial statements).keeper ≠ .stopped := fun same => nomatch same
  refine ⟨Shared.heldEnds rfl going alive, fun v dialling => ?_, fun c attached => ?_,
    Shared.released rfl⟩
  · generalize (Shared.initial statements).run events = s at *
    obtain ⟨keeper, state⟩ := s.keeperMoves .refused
    rw [dialling] at keeper state shown
    rw [held] at keeper state
    have state : (s.step (.keeper .refused)).state = .connecting v := state.trans shown
    exact ⟨keeper, state, Shared.refusedPauses held keeper state⟩
  · generalize (Shared.initial statements).run events = s at *
    obtain ⟨keeper, state⟩ := s.keeperMoves (.ended false)
    rw [attached, held] at keeper state
    exact ⟨keeper, state, Shared.lostPauses held keeper⟩

/- Released in the pause after a refused attempt: one more dialling, and its connection is given up. -/
theorem releasedInBackoff :
    let s := (Shared.initial 0).run [.keeper .wake, .keeper .refused]
    let t := (Shared.initial 0).run [.keeper .wake, .keeper (.accepted 1)]
    let away := (Scene.opened (.opened false [] []) []).moveKeeper
    let gone := { away with shared := t }
    s.keeper = .backoff 1 ∧ s.Pauses 1 ∧
    (s.step .release).Retired [.keeper .wake, .keeper (.accepted 7)] ∧
    ((s.step .release).run [.keeper .wake, .keeper (.accepted 7)]).keeper = .stopped ∧
    (t.step (.keeper (.ended false))).Pauses 2 ∧
    (∃ before after c, [.keeper .wake, .keeper (.accepted 1), .keeper (.ended true)] =
        before ++ .keeper (.ended true) :: after ∧
      ((Shared.initial 0).run before).keeper = .attached c ∧
      (t.step (.keeper (.ended true))).state = .disconnected c.version) ∧
    away.moveKeeper.Pauses 0 1 ∧ gone.moveKeeper.Pauses 0 2 := by
  obtain ⟨kept, timed, -⟩ := keeperRetires
  obtain ⟨-, refused, -, -⟩ := kept 0 [.keeper .wake] (by simp)
  obtain ⟨-, -, -, released⟩ := kept 0 [.keeper .wake, .keeper .refused] (by simp)
  obtain ⟨-, -, lost, -⟩ := kept 0 [.keeper .wake, .keeper (.accepted 1)] (by simp)
  obtain ⟨ends, -⟩ := kept 0 [.keeper .wake, .keeper (.accepted 1), .keeper (.ended true)] (by simp)
  have away := timed (Scene.opened (.opened false [] []) []).moveKeeper rfl
  have gone := timed { (Scene.opened (.opened false [] []) []).moveKeeper with
    shared := (Shared.initial 0).run [.keeper .wake, .keeper (.accepted 1)] } rfl
  exact ⟨rfl, (refused 1 rfl).2.2, released _, (released [.keeper .wake]).accepted 1 7 rfl,
    (lost ⟨1, 1⟩ rfl).2.2, ends rfl, away.refused 1 rfl rfl, gone.lost ⟨1, 1⟩ rfl rfl⟩

end TagListing.Database
