import Mathlib.Logic.Relation
import TagListing.Rehearsal.Scene

/-! The keeper's pauses in virtual time. A scene goes on by steps: calls and the server act, the
clock moves on, the keeper moves, the last holder lets go. A pause that begins after a refused attempt
or a lost connection is over at one moment, and the keeper's next move is to dial then. What calls and
the server do is not looked into. -/
namespace TagListing.Rehearsal
open Database
open Relation (ReflTransGen)

theorem tickAfterSoon (now milliseconds : Nat) :
    tickAfter now milliseconds ≤ now + milliseconds + clockStep := by
  rw [tickAfter, Nat.add_mul, Nat.one_mul]
  exact Nat.add_le_add_right (Nat.div_mul_le_self _ _) _

namespace Scene

/- What calls and the server leave as it was. -/
structure Frame (s t : Scene) : Prop where
  keeper : t.shared.keeper = s.shared.keeper
  held : t.shared.held = s.shared.held
  due : t.keeperDue = s.keeperDue
  now : t.now = s.now

/- The clock moves on to the end of the keeper's pause at most. -/
inductive Idle (s : Scene) : Scene → Prop where
  | frame {t} (same : Frame s t) : Idle s t
  | clock {time} (due : ∀ d, s.keeperTime? = some d → time ≤ d) : Idle s { s with now := time }

inductive Step (s : Scene) : Scene → Prop where
  | idle {t} (idle : Idle s t) : Step s t
  | keeper (moves : s.keeperMoves = true) : Step s s.moveKeeper
  | release : Step s (s.tell .release)

variable {s t u : Scene}

/-! ### Calls and the server -/

theorem Frame.refl (s : Scene) : Frame s s := ⟨rfl, rfl, rfl, rfl⟩

theorem Frame.trans (first : Frame s t) (second : Frame t u) : Frame s u :=
  ⟨second.keeper.trans first.keeper, second.held.trans first.held, second.due.trans first.due,
    second.now.trans first.now⟩

theorem foldFrame {α : Type} {f : Scene → α → Scene} (each : ∀ s a, Frame s (f s a))
    (as : List α) (s : Scene) : Frame s (as.foldl f s) := by
  induction as generalizing s with
  | nil => exact .refl s
  | cons a as ih => exact (each s a).trans (ih (f s a))

theorem callFrame (s : Scene) (position : Nat) (e : CallEvent) :
    Frame s (s.tell (.call position e)) := by
  have kept : (s.shared.stepCall position e).keeper = s.shared.keeper ∧
      (s.shared.stepCall position e).held = s.shared.held := by
    unfold Shared.stepCall
    split <;> exact ⟨rfl, rfl⟩
  exact ⟨kept.1, kept.2, rfl, rfl⟩

theorem moveCallFrame (s : Scene) (position : Nat) : Frame s (s.moveCall position) := by
  have twice := (callFrame s position .move).trans (callFrame _ position .move)
  unfold moveCall
  dsimp only
  split
  · split
    · exact twice
    · exact twice.trans ⟨rfl, rfl, rfl, rfl⟩
  · exact twice

theorem wakeCallsFrame (s : Scene) : Frame s s.wakeCalls := by
  have woken := foldFrame (fun (s : Scene) (d : Nat × Nat) => callFrame s d.1 .wake)
    (s.callsDue.filter fun d => d.2 ≤ s.now) { s with callsDue := s.callsDue.filter fun d => s.now < d.2 }
  exact Frame.trans (t := { s with callsDue := s.callsDue.filter fun d => s.now < d.2 })
    ⟨rfl, rfl, rfl, rfl⟩ woken

theorem askFrame (s : Scene) (position : Nat) (client : Client) (p : Preparation) :
    Frame s (s.askPrepare position client p).2 := by
  unfold askPrepare
  dsimp only
  split
  · split <;> exact ⟨rfl, rfl, rfl, rfl⟩
  · exact .refl s

theorem requestFrame {position : Nat} {e : Option CallEvent}
    (asks : s.request? position = some (e, t)) : Frame s t := by
  unfold request? at asks
  split at asks
  · split at asks
    · rename_i statement _ _ _ client _
      have asked := askFrame s position client (s.preparation position statement)
      rw [Option.some.inj asks] at asked
      exact asked
    · cases Option.some.inj asks
      exact ⟨rfl, rfl, rfl, rfl⟩
    · contradiction
  · contradiction

theorem collectFrame (positions : List Nat) (s : Scene) : Frame s (s.collect positions).2 := by
  induction positions generalizing s with
  | nil => exact .refl s
  | cons position rest ih =>
    unfold collect
    split
    · exact ih s
    · rename_i e t asks
      exact (requestFrame asks).trans (ih t)

theorem startFrame (asks : List Ask) (s : Scene) : Frame s (s.start asks).2 := by
  induction asks generalizing s with
  | nil => exact .refl s
  | cons ask rest ih =>
    cases ask with
    | call statement aim =>
      exact Frame.trans (t := s.tell (.start statement aim)) ⟨rfl, rfl, rfl, rfl⟩ (ih _)
    | isCurrent version => exact ih s

/-! ### Steps -/

theorem Frame.step (same : Frame s t) : ReflTransGen Step s t := .single (.idle (.frame same))

theorem keeperSteps (s : Scene) : ReflTransGen Step s s.moveKeeperOn := by
  have once (s : Scene) : ReflTransGen Step s (if s.keeperMoves then s.moveKeeper else s) := by
    split
    · rename_i moves
      exact .single (.keeper moves)
    · exact .refl
  exact (once s).trans (once _)

theorem earliestLe {times : List Nat} {first time : Nat} (found : earliest times = some first)
    (member : time ∈ times) : first ≤ time := by
  induction times generalizing first with
  | nil => contradiction
  | cons t rest ih =>
    unfold earliest at found
    split at found
    · rename_i none
      cases Option.some.inj found
      rcases List.mem_cons.mp member with rfl | later
      · exact Nat.le_refl _
      · cases rest with
        | nil => contradiction
        | cons u rest =>
          unfold earliest at none
          split at none <;> contradiction
    · rename_i other found'
      cases Option.some.inj found
      rcases List.mem_cons.mp member with rfl | later
      · exact Nat.min_le_left _ _
      · exact Nat.le_trans (Nat.min_le_right _ _) (ih found' later)

theorem advanceSteps {stop : Option Nat} {time : Nat} (next : s.nextTime? stop = some time) :
    ReflTransGen Step s (s.advance time) := by
  have due : ∀ d, s.keeperTime? = some d → time ≤ d := by
    intro d waits
    refine earliestLe next ?_
    simp [waits]
  have clock : ReflTransGen Step s { s with now := time } := .single (.idle (.clock due))
  have closed : Frame { s with now := time } { s with now := time, server := s.server.close time } :=
    ⟨rfl, rfl, rfl, rfl⟩
  exact ((clock.trans closed.step).trans (keeperSteps _)).trans (wakeCallsFrame _).step

theorem deliverSteps (s : Scene) (answers : List (Nat × Option CallEvent)) :
    ReflTransGen Step s (s.deliver answers) := by
  have moved : ReflTransGen Step s (if s.keeperMoves then s.moveKeeper else s) := by
    split
    · rename_i moves
      exact .single (.keeper moves)
    · exact .refl
  refine moved.trans (foldFrame (fun s a => ?_) answers _).step
  split
  · rename_i e _
    exact callFrame s a.1 e
  · exact .refl s

theorem playSteps (positions : List Nat) (stop : Option Nat) (turns : Nat) (s : Scene) :
    ReflTransGen Step s (s.play positions stop turns) := by
  induction turns generalizing s with
  | zero => exact .refl
  | succ turns ih =>
    have called := (foldFrame moveCallFrame positions s).step
    unfold play
    dsimp only
    generalize positions.foldl moveCall s = s' at called ⊢
    split
    · exact called
    have collected := called.trans (collectFrame positions s').step
    split
    · rename_i t same
      rw [same] at collected
      split
      · exact (collected.trans (keeperSteps t)).trans (ih _)
      · split
        · rename_i time next
          exact (collected.trans (advanceSteps next)).trans (ih _)
        · exact collected
    · rename_i answers t _ same
      rw [same] at collected
      exact (collected.trans (deliverSteps _ answers)).trans (ih _)

theorem actSteps (s : Scene) (a : Act) : ReflTransGen Step s (s.act a).2 := by
  cases a with
  | ask asks => exact (startFrame asks s).step.trans (playSteps _ _ _ _)
  | sleep ms => exact playSteps _ _ _ _
  | release => exact .single .release

/- Whatever is performed is made of steps. -/
theorem performSteps (acts : List Act) (s : Scene) : ReflTransGen Step s (s.perform acts).2 := by
  induction acts generalizing s with
  | nil => exact .refl
  | cons a rest ih => exact (actSteps s a).trans (ih _)

/-! ### Pauses -/

/- The keeper waits for the end of a pause that began at some moment, and dials then. -/
def Pauses (began next : Nat) (s : Scene) : Prop :=
  ∀ t, ReflTransGen Idle s t →
    (t.keeperMoves = true ↔ t.now = tickAfter began reconnectPause) ∧
    (t.keeperMoves = true → t.moveKeeper.shared.keeper = .dialling next)

/- A keeper that waits until a moment that has not passed. -/
structure Waiting (k : Keeper) (due : Nat) (s : Scene) : Prop where
  keeper : s.shared.keeper = k
  held : s.shared.held = true
  ends : s.keeperDue = due
  early : s.now ≤ due

theorem Waiting.idle {k : Keeper} {due : Nat} (waiting : Waiting k due s)
    (rests : ∀ s : Scene, s.shared.keeper = k → s.keeperTime? = some s.keeperDue) (idle : Idle s t) :
    Waiting k due t := by
  cases idle with
  | frame same =>
    exact ⟨same.keeper.trans waiting.keeper, same.held.trans waiting.held,
      same.due.trans waiting.ends, same.now ▸ waiting.early⟩
  | clock bound =>
    exact ⟨waiting.keeper, waiting.held, waiting.ends,
      waiting.ends ▸ bound _ (rests s waiting.keeper)⟩

theorem Waiting.later {k : Keeper} {due : Nat} (waiting : Waiting k due s)
    (rests : ∀ s : Scene, s.shared.keeper = k → s.keeperTime? = some s.keeperDue)
    (idle : ReflTransGen Idle s t) : Waiting k due t := by
  induction idle with
  | refl => exact waiting
  | tail _ last ih => exact ih.idle rests last

theorem Waiting.pauses {began v next : Nat} {k : Keeper} (kind : k = .backoff v ∧ next = v ∨
      k = .resting v ∧ next = v + 1)
    (waiting : Waiting k (tickAfter began reconnectPause) s) : s.Pauses began next := by
  intro t idle
  have rests : ∀ s : Scene, s.shared.keeper = k → s.keeperTime? = some s.keeperDue := by
    intro s same
    rcases kind with ⟨rfl, -⟩ | ⟨rfl, -⟩ <;> simp [keeperTime?, same]
  obtain ⟨keeper, held, ends, early⟩ := waiting.later rests idle
  have moves : t.keeperMoves = true ↔ t.keeperDue ≤ t.now := by
    rcases kind with ⟨rfl, -⟩ | ⟨rfl, -⟩ <;> simp [keeperMoves, keeper]
  refine ⟨moves.trans ?_, fun _ => ?_⟩
  · rw [ends]
    exact ⟨fun late => Nat.le_antisymm early late, fun same => Nat.le_of_eq same.symm⟩
  · rcases kind with ⟨rfl, rfl⟩ | ⟨rfl, rfl⟩ <;>
      simp [moveKeeper, keeper, tellKeeper, tell, Shared.step, Shared.stepKeeper, Keeper.step, held]

theorem refusedPauses {v : Nat} (held : s.shared.held = true)
    (dialling : s.shared.keeper = .dialling v) (refused : (s.server.dial s.now).1 = none) :
    s.moveKeeper.Pauses s.now v := by
  obtain ⟨server, dialled⟩ : ∃ server, s.server.dial s.now = (none, server) := ⟨_, Prod.ext refused rfl⟩
  refine Waiting.pauses (k := .backoff v) (.inl ⟨rfl, rfl⟩) ?_
  have began := Nat.le_of_lt (tickAfterLater s.now reconnectPause)
  refine ⟨?_, ?_, ?_, ?_⟩ <;>
    simp [moveKeeper, dialling, dialled, tellKeeper, tell, Shared.step, Shared.stepKeeper, Keeper.step,
      held]
  omega

theorem lostPauses {c : Client} (held : s.shared.held = true)
    (attached : s.shared.keeper = .attached c) (lost : s.server.live = none) :
    s.moveKeeper.Pauses s.now (c.version + 1) := by
  refine Waiting.pauses (k := .resting c.version) (.inr ⟨rfl, rfl⟩) ?_
  have began := Nat.le_of_lt (tickAfterLater s.now reconnectPause)
  refine ⟨?_, ?_, ?_, ?_⟩ <;>
    simp [moveKeeper, attached, lost, tellKeeper, tell, Shared.step, Shared.stepKeeper, Keeper.step,
      held]
  omega

end Scene
end TagListing.Rehearsal
