import TagListing.Proofs.Database.Ledger

/-! One statement and calls on it that follow one another, with the keeper's steps anywhere between
theirs. The versions of the answered prepares rise: a call prepares only after it has seen that the
cached version is not the live one, and such a version never becomes live again. Calls that run at
the same time are not claimed; two of them may prepare on one version. -/
namespace TagListing.Database

/-! ### Versions that are past -/

namespace LinkState

/- The version is not live and no step of the keeper makes it live. -/
def Past (v : Nat) : LinkState → Prop
  | .disconnected u => v ≤ u
  | .connecting u => v < u
  | .connected c => v < c.version

/- The version is past or live. -/
def Reached (v : Nat) : LinkState → Prop
  | .disconnected u => v ≤ u
  | .connecting u => v < u
  | .connected c => v ≤ c.version

theorem pastNext {v : Nat} {s t : LinkState} (next : s.Next t) (past : s.Past v) : t.Past v := by
  cases next with
  | dial u => exact Nat.lt_succ_of_le past
  | attach u n => exact past
  | lose c => exact Nat.le_of_lt past

theorem reachedNext {v : Nat} {s t : LinkState} (next : s.Next t) (reached : s.Reached v) :
    t.Reached v := by
  cases next with
  | dial u => exact Nat.lt_succ_of_le reached
  | attach u n => exact Nat.le_of_lt reached
  | lose c => exact reached

theorem pastBelow {v u : Nat} {s : LinkState} (below : v < u) (reached : s.Reached u) :
    s.Past v := by
  cases s with
  | disconnected w => exact Nat.le_trans (Nat.le_of_lt below) reached
  | connecting w => exact Nat.lt_trans below reached
  | connected c => exact Nat.lt_of_lt_of_le below reached

theorem pastStale {v : Nat} {s : LinkState} (reached : s.Reached v)
    (stale : s.isCurrent v = false) : s.Past v := by
  cases s with
  | disconnected w => exact reached
  | connecting w => exact reached
  | connected c =>
    have other : c.version ≠ v := by simpa [isCurrent, client?] using stale
    exact Nat.lt_of_le_of_ne reached other.symm

end LinkState

/-! ### One call after the answered prepares -/

/- What the cache holds after these prepares have been answered. -/
def cachedAfter (answered : List (Client × List Column)) : Option Prepared :=
  answered.getLast?.map fun a => .on a.1 a.2

/- The versions of answered prepares rise, and the last of them is past or live. -/
structure Rising (answered : List (Client × List Column)) (s : LinkState) : Prop where
  rises : answered.Pairwise fun a b => a.1.version < b.1.version
  reached : ∀ a ∈ answered, s.Reached a.1.version

variable {answered : List (Client × List Column)} {s : LinkState}

theorem risingNext {t : LinkState} (next : s.Next t) (rising : Rising answered s) :
    Rising answered t :=
  ⟨rising.rises, fun a member => LinkState.reachedNext next (rising.reached a member)⟩

theorem pastAll (rising : Rising answered s)
    (stale : ∀ p, cachedAfter answered = some p → s.isCurrent p.client.version = false) :
    ∀ a ∈ answered, s.Past a.1.version := by
  rcases List.eq_nil_or_concat answered with rfl | ⟨earlier, last, rfl⟩
  · nofun
  · rw [List.concat_eq_append] at rising stale ⊢
    have reached := rising.reached last (by simp)
    intro a member
    rcases List.mem_append.mp member with old | new
    · have below := (List.pairwise_append.mp rising.rises).2.2 a old last (by simp)
      exact LinkState.pastBelow below reached
    · cases List.mem_singleton.mp new
      exact LinkState.pastStale reached (stale (.on last.1 last.2) (by simp [cachedAfter]))

/- A call that looks for a client or prepares on one has all answered versions behind it. -/
def Phase.Ahead (answered : List (Client × List Column)) (s : LinkState) : Phase → Prop
  | .ready .look => ∀ a ∈ answered, s.Past a.1.version
  | .pausing .look => ∀ a ∈ answered, s.Past a.1.version
  | .preparing client => s.Reached client.version ∧ ∀ a ∈ answered, a.1.version < client.version
  | _ => True

theorem Phase.aheadNext {t : LinkState} (next : s.Next t) {phase : Phase}
    (ahead : phase.Ahead answered s) : phase.Ahead answered t := by
  unfold Ahead at ahead ⊢
  split at ahead
  · exact fun a member => LinkState.pastNext next (ahead a member)
  · exact fun a member => LinkState.pastNext next (ahead a member)
  · exact ⟨LinkState.reachedNext next ahead.1, ahead.2⟩
  · trivial

namespace Call

theorem overAhead {c : Call} (finished : c.outcome? ≠ none) : c.phase.Ahead answered s := by
  unfold outcome? at finished
  split at finished
  · rename_i o ended
    rw [ended]
    trivial
  · exact absurd rfl finished

theorem handAhead (c : Call) (p : Prepared) : (c.hand p).phase.Ahead answered s := by
  unfold hand
  split <;> trivial

theorem checkAhead (c : Call) (rising : Rising answered s) :
    (c.check s (cachedAfter answered)).phase.Ahead answered s := by
  unfold check
  split
  · rename_i p cached
    split
    · exact handAhead c p
    · rename_i stale
      refine pastAll rising fun q same => ?_
      rw [cached] at same
      cases Option.some.inj same
      exact Bool.eq_false_iff.mpr stale
  · rename_i none
    refine pastAll rising fun q same => ?_
    rw [none] at same
    contradiction

theorem lookAhead (c : Call) (past : ∀ a ∈ answered, s.Past a.1.version) :
    (c.look s).phase.Ahead answered s := by
  unfold look
  split
  · cases s with
    | connected client =>
      simp only [LinkState.client?, reach]
      split
      · trivial
      · exact ⟨Nat.le_refl _, past⟩
    | _ => exact past
  · trivial

theorem prepareClosedAhead (c : Call) (past : ∀ a ∈ answered, s.Past a.1.version) :
    c.prepareClosed.phase.Ahead answered s := by
  unfold prepareClosed
  split
  · exact past
  · trivial

theorem executionClosedAhead (c : Call) : c.executionClosed.phase.Ahead answered s := by
  unfold executionClosed
  split <;> trivial

theorem stepAhead {c : Call} (e : CallEvent) (ahead : c.phase.Ahead answered s)
    (rising : Rising answered s) (unanswered : c.answered e = none) :
    (c.step s (cachedAfter answered) e).1.phase.Ahead answered s := by
  unfold Call.step
  split
  · exact checkAhead c rising
  · rename_i ready
    rw [ready] at ahead
    exact lookAhead c ahead
  · rename_i next pausing
    rw [pausing] at ahead
    cases next with
    | look => exact ahead
    | check => trivial
  · rename_i preparing
    rw [Call.answered, preparing] at unanswered
    contradiction
  · rename_i client e preparing
    rw [preparing] at ahead
    simp only
    split
    · exact prepareClosedAhead c fun a member => LinkState.pastBelow (ahead.2 a member) ahead.1
    · trivial
  · trivial
  · simp only
    split
    · exact executionClosedAhead c
    · trivial
  · exact ahead

theorem stepAnswered {c : Call} {cache : Option Prepared} {e : CallEvent} {client : Client}
    {columns : List Column} (answer : c.answered e = some (client, columns)) :
    c.step s cache e = (c.hand (.on client columns), some (.on client columns)) := by
  obtain ⟨preparing, rfl⟩ := answeredClient answer
  simp only [Call.step, preparing]

theorem stepUnanswered {c : Call} {cache : Option Prepared} {e : CallEvent}
    (unanswered : c.answered e = none) : (c.step s cache e).2 = cache := by
  rcases stepCache s cache c e with kept | ⟨client, columns, answer, _⟩
  · exact kept
  · rw [unanswered] at answer
    contradiction

theorem stepOver {c : Call} (finished : c.outcome? ≠ none) (cache : Option Prepared)
    (e : CallEvent) : c.step s cache e = (c, cache) := by
  unfold outcome? at finished
  split at finished
  · rename_i o ended
    simp only [Call.step, ended]
  · exact absurd rfl finished

end Call

theorem risingAnswer {client : Client} (columns : List Column) (rising : Rising answered s)
    (ahead : (Phase.preparing client).Ahead answered s) :
    Rising (answered ++ [(client, columns)]) s := by
  refine ⟨List.pairwise_append.mpr ⟨rising.rises, List.pairwise_singleton _ _, ?_⟩, ?_⟩
  · intro a old b new
    cases List.mem_singleton.mp new
    exact ahead.2 a old
  · intro a member
    rcases List.mem_append.mp member with old | new
    · exact rising.reached a old
    · cases List.mem_singleton.mp new
      exact ahead.1

/-! ### Calls one after another -/

namespace Shared

/- A call starts on the one statement, to prepare or to query it, when all earlier ones are over;
everything else may happen at any time. -/
def Turn (s : Shared) : SharedEvent → Prop
  | .start statement aim =>
    statement = 0 ∧ aim ≠ .client ∧ ∀ c ∈ s.calls, c.2.outcome?.isSome
  | _ => True

instance (s : Shared) (e : SharedEvent) : Decidable (s.Turn e) := by
  unfold Turn
  split <;> infer_instance

def InTurn (s : Shared) : List SharedEvent → Prop
  | [] => True
  | e :: rest => s.Turn e ∧ (s.step e).InTurn rest

instance decidableInTurn (s : Shared) (events : List SharedEvent) : Decidable (s.InTurn events) :=
  match events with
  | [] => .isTrue trivial
  | e :: rest =>
    have := decidableInTurn (s.step e) rest
    inferInstanceAs (Decidable (s.Turn e ∧ (s.step e).InTurn rest))

theorem stateAfter {s : Shared} (i : Nat) (e : CallEvent) :
    (s.step (.call i e)).state = s.state := by
  simp only [step, stepCall]
  split <;> rfl

theorem callsAfter {s : Shared} {i a c} (found : s.calls[i]? = some (a, c)) (e : CallEvent)
    (j : Nat) : (s.step (.call i e)).calls[j]? =
      if i = j then some (a, (c.step s.state (s.cache a) e).1) else s.calls[j]? := by
  have inside := (List.getElem?_eq_some_iff.mp found).1
  simp only [step, stepCall, found, List.getElem?_set, inside, ↓reduceIte]

theorem activeBefore {s : Shared} {i j : Nat} {a c e} {d : Nat × Call}
    (found : s.calls[i]? = some (a, c)) (after : (s.step (.call i e)).calls[j]? = some d)
    (active : d.2.outcome? = none) :
    ∃ d₀ : Nat × Call, s.calls[j]? = some d₀ ∧ d₀.2.outcome? = none := by
  rw [callsAfter found] at after
  split at after
  · rename_i same
    subst same
    cases Option.some.inj after
    refine ⟨_, found, ?_⟩
    by_cases waiting : c.outcome? = none
    · exact waiting
    · rwa [Call.stepOver waiting] at active
  · exact ⟨d, after, active⟩

theorem cacheAfter {s : Shared} {i a c} (found : s.calls[i]? = some (a, c)) (e : CallEvent)
    (inside : a < s.caches.length) :
    (s.step (.call i e)).cache a = (c.step s.state (s.cache a) e).2 := by
  simp only [step, stepCall, found, cache, List.getElem?_set_self inside, Option.join_some]

end Shared

namespace Ledger

/- At most one call is under way. The cache is that of the last answered prepare. -/
structure Ordered (l : Ledger) : Prop where
  one : l.shared.caches.length = 1
  first : ∀ c ∈ l.shared.calls, c.1 = 0
  turns : ∀ (i j : Nat) c d, l.shared.calls[i]? = some c → l.shared.calls[j]? = some d →
    c.2.outcome? = none → d.2.outcome? = none → i = j
  cached : l.shared.cache 0 = cachedAfter l.answered
  rising : Rising l.answered l.shared.state
  ahead : ∀ c ∈ l.shared.calls, c.2.phase.Ahead l.answered l.shared.state

theorem initialOrdered : (initial 1).Ordered where
  one := rfl
  first _ member := absurd member List.not_mem_nil
  turns _ _ _ _ found := absurd (List.mem_of_getElem? found) List.not_mem_nil
  cached := rfl
  rising := ⟨.nil, fun _ member => absurd member List.not_mem_nil⟩
  ahead _ member := absurd member List.not_mem_nil

theorem linkOrdered {l m : Ledger} (ordered : l.Ordered)
    (caches : m.shared.caches = l.shared.caches) (calls : m.shared.calls = l.shared.calls)
    (answered : m.answered = l.answered) (rising : Rising l.answered m.shared.state)
    (ahead : ∀ c ∈ l.shared.calls, c.2.phase.Ahead l.answered m.shared.state) : m.Ordered := by
  refine ⟨?_, ?_, ?_, ?_, ?_, ?_⟩
  · rw [caches]
    exact ordered.one
  · rw [calls]
    exact ordered.first
  · rw [calls]
    exact ordered.turns
  · rw [Shared.cache, caches, answered]
    exact ordered.cached
  · rw [answered]
    exact rising
  · rw [calls, answered]
    exact ahead

theorem keeperOrdered {l : Ledger} (sound : l.Sound) (ordered : l.Ordered) (k : KeeperEvent) :
    (l.step (.keeper k)).Ordered := by
  have state : (l.step (.keeper k)).shared.state =
      ((l.shared.keeper.step l.shared.held k).2).getD l.shared.state := rfl
  have answered : (l.step (.keeper k)).answered = l.answered := List.append_nil _
  refine linkOrdered ordered rfl rfl answered ?_ ?_
  all_goals
    rw [state]
    cases stores : (l.shared.keeper.step l.shared.held k).2
  · exact ordered.rising
  · exact risingNext (keeperStores sound.shows stores).1 ordered.rising
  · exact ordered.ahead
  · exact fun c member =>
      Phase.aheadNext (keeperStores sound.shows stores).1 (ordered.ahead c member)

theorem startOrdered {l : Ledger} (ordered : l.Ordered) {statement : Nat} {aim : Aim}
    (turn : l.shared.Turn (.start statement aim)) : (l.step (.start statement aim)).Ordered := by
  obtain ⟨rfl, aims, finished⟩ := turn
  have answered : (l.step (.start 0 aim)).answered = l.answered := List.append_nil _
  have calls : (l.step (.start 0 aim)).shared.calls = l.shared.calls ++ [(0, .begin aim)] := rfl
  have cached : (l.step (.start 0 aim)).shared.cache 0 = l.shared.cache 0 := rfl
  refine ⟨ordered.one, ?_, ?_, ?_, ?_, ?_⟩
  · rw [calls]
    intro c member
    rcases List.mem_append.mp member with old | new
    · exact ordered.first c old
    · rw [List.mem_singleton.mp new]
  · -- Only the new call is not over.
    have last (j : Nat) c (found : (l.shared.calls ++ [(0, .begin aim)])[j]? = some c)
        (active : c.2.outcome? = none) : j = l.shared.calls.length := by
      rcases Nat.lt_or_ge j l.shared.calls.length with inside | beyond
      · rw [List.getElem?_append_left inside] at found
        have ended := finished c (List.mem_of_getElem? found)
        rw [active] at ended
        contradiction
      · have bound := (List.getElem?_eq_some_iff.mp found).1
        rw [List.length_append, List.length_singleton] at bound
        omega
    rw [calls]
    intro i j c d left right activeLeft activeRight
    rw [last i c left activeLeft, last j d right activeRight]
  · rw [cached, answered]
    exact ordered.cached
  · rw [answered]
    exact ordered.rising
  · rw [calls, answered]
    intro c member
    rcases List.mem_append.mp member with old | new
    · exact ordered.ahead c old
    · rw [List.mem_singleton.mp new]
      cases aim with
      | client => exact absurd rfl aims
      | prepare => trivial
      | query => trivial

theorem callAnswered {l : Ledger} {i a c} (found : l.shared.calls[i]? = some (a, c))
    (e : CallEvent) : (l.step (.call i e)).answered = l.answered ++ (c.answered e).toList := by
  simp only [step, Shared.answers, found, Option.bind_some]

theorem callRising {l : Ledger} (ordered : l.Ordered) {c} (member : (0, c) ∈ l.shared.calls)
    (e : CallEvent) : Rising (l.answered ++ (c.answered e).toList) l.shared.state := by
  cases answer : c.answered e with
  | none =>
    rw [Option.toList_none, List.append_nil]
    exact ordered.rising
  | some a =>
    have ahead := ordered.ahead _ member
    rw [(Call.answeredClient answer).1] at ahead
    exact risingAnswer a.2 ordered.rising ahead

/- An answered call is under way, so the others are over. -/
theorem callAhead {l : Ledger} (ordered : l.Ordered) {i c}
    (found : l.shared.calls[i]? = some (0, c)) (e : CallEvent) {d}
    (inside : d ∈ (l.step (.call i e)).shared.calls) :
    d.2.phase.Ahead (l.answered ++ (c.answered e).toList) l.shared.state := by
  have member := List.mem_of_getElem? found
  obtain ⟨j, place⟩ := List.getElem?_of_mem inside
  rw [step, Shared.callsAfter found, ordered.cached] at place
  cases answer : c.answered e with
  | none =>
    rw [Option.toList_none, List.append_nil]
    split at place
    · cases Option.some.inj place
      exact Call.stepAhead e (ordered.ahead _ member) ordered.rising answer
    · exact ordered.ahead d (List.mem_of_getElem? place)
  | some a =>
    split at place
    · cases Option.some.inj place
      rw [Call.stepAnswered answer]
      exact Call.handAhead c _
    · rename_i other
      refine Call.overAhead fun active => other ?_
      refine ordered.turns i j _ d found place ?_ active
      rw [Call.outcome?, (Call.answeredClient answer).1]

theorem callOrdered {l : Ledger} (ordered : l.Ordered) (i : Nat) (e : CallEvent) :
    (l.step (.call i e)).Ordered := by
  cases found : l.shared.calls[i]? with
  | none =>
    have same : l.shared.step (.call i e) = l.shared := by
      simp only [Shared.step, Shared.stepCall, found]
    have answered : (l.step (.call i e)).answered = l.answered := by
      simp only [step, Shared.answers, found, Option.bind_none, Option.toList_none,
        List.append_nil]
    refine linkOrdered ordered ?_ ?_ answered ?_ ?_ <;> rw [step, same]
    · exact ordered.rising
    · exact ordered.ahead
  | some entry =>
    obtain ⟨a, c⟩ := entry
    have member := List.mem_of_getElem? found
    obtain rfl : a = 0 := ordered.first _ member
    have state : (l.step (.call i e)).shared.state = l.shared.state := Shared.stateAfter i e
    have answered := callAnswered found e
    refine ⟨?_, ?_, ?_, ?_, ?_, ?_⟩
    · simp only [step, Shared.step, Shared.stepCall, found, List.length_set, ordered.one]
    · intro d inside
      obtain ⟨j, place⟩ := List.getElem?_of_mem inside
      rw [step, Shared.callsAfter found] at place
      split at place
      · cases Option.some.inj place
        rfl
      · exact ordered.first d (List.mem_of_getElem? place)
    · intro j k d f left right activeLeft activeRight
      obtain ⟨d₀, left, activeLeft⟩ := Shared.activeBefore found left activeLeft
      obtain ⟨f₀, right, activeRight⟩ := Shared.activeBefore found right activeRight
      exact ordered.turns j k d₀ f₀ left right activeLeft activeRight
    · rw [answered, step, Shared.cacheAfter found e (by rw [ordered.one]; exact Nat.one_pos),
        ordered.cached]
      cases answer : c.answered e with
      | none => rw [Call.stepUnanswered answer, Option.toList_none, List.append_nil]
      | some a =>
        rw [Call.stepAnswered answer, Option.toList_some, cachedAfter, List.getLast?_concat]
        rfl
    · rw [answered, state]
      exact callRising ordered member e
    · rw [answered, state]
      exact fun d => callAhead ordered found e

theorem stepOrdered {l : Ledger} (sound : l.Sound) (ordered : l.Ordered) {e : SharedEvent}
    (turn : l.shared.Turn e) : (l.step e).Ordered := by
  cases e with
  | keeper k => exact keeperOrdered sound ordered k
  | start statement aim => exact startOrdered ordered turn
  | release =>
    exact linkOrdered ordered rfl rfl (List.append_nil _) ordered.rising ordered.ahead
  | call i e => exact callOrdered ordered i e

theorem runOrdered {l : Ledger} (sound : l.Sound) (ordered : l.Ordered) {events : List SharedEvent}
    (turns : l.shared.InTurn events) : (l.run events).Ordered := by
  induction events generalizing l with
  | nil => exact ordered
  | cons e rest ih =>
    exact ih (stepSound sound e) (stepOrdered sound ordered turns.1) turns.2

theorem cacheMoves {l : Ledger} (ordered : l.Ordered) (e : SharedEvent) :
    (l.shared.step e).cache 0 = l.shared.cache 0 ∨
    ∃ i c client columns, e = .call i (.prepared (.ok columns)) ∧
      l.shared.calls[i]? = some (0, c) ∧ c.phase = .preparing client ∧
      (l.shared.step e).cache 0 = some (.on client columns) := by
  cases e with
  | call i e =>
    cases found : l.shared.calls[i]? with
    | none =>
      left
      simp only [Shared.step, Shared.stepCall, found]
    | some entry =>
      obtain ⟨a, c⟩ := entry
      obtain rfl : a = 0 := ordered.first _ (List.mem_of_getElem? found)
      rw [Shared.cacheAfter found e (by rw [ordered.one]; exact Nat.one_pos)]
      rcases Call.stepCache l.shared.state (l.shared.cache 0) c e with
        kept | ⟨client, columns, answer, made⟩
      · exact .inl kept
      · obtain ⟨preparing, rfl⟩ := Call.answeredClient answer
        exact .inr ⟨i, c, client, columns, rfl, found, preparing, made⟩
  | _ => exact .inl rfl

theorem versionsOnce {l : Ledger} (ordered : l.Ordered) :
    (l.answered.map fun a => a.1.version).Nodup :=
  List.pairwise_map.mpr (ordered.rising.rises.imp Nat.ne_of_lt)

end Ledger
end TagListing.Database
