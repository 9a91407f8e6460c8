import TagListing.Database.Shared
import TagListing.Proofs.Database.Cycle

/-! The ledger of a shared link: every state stored, every prepare answered and every execution
sent, beside the steps themselves. The keeper, any number of calls and the release of the link
step in any order, and a call's statement may be replaced between any two of its steps. A client
is told from another by its version; that an execution is answered is not claimed. -/
namespace TagListing.Database

namespace Call

def given? (c : Call) : Option Prepared :=
  match c.phase with
  | .executing p => some p
  | .over (.prepared p) => some p
  | _ => none

def client? (c : Call) : Option Client :=
  match c.phase with
  | .preparing client => some client
  | .executing p => some p.client
  | .over (.prepared p) => some p.client
  | .over (.client client) => some client
  | _ => none

theorem givenClient {c : Call} {p} (given : c.given? = some p) : c.client? = some p.client := by
  unfold given? at given
  split at given
  · rename_i executing
    cases Option.some.inj given
    rw [client?, executing]
  · rename_i ended
    cases Option.some.inj given
    rw [client?, ended]
  · contradiction

theorem handGiven (c : Call) (p : Prepared) : (c.hand p).given? = some p := by
  unfold hand
  split <;> rfl

theorem handClient (c : Call) (p : Prepared) : (c.hand p).client? = some p.client := by
  unfold hand
  split <;> rfl

theorem reachGiven (c : Call) (client : Client) : (c.reach client).given? = none := by
  unfold reach
  split <;> rfl

theorem reachClient (c : Call) (client : Client) : (c.reach client).client? = some client := by
  unfold reach
  split <;> rfl

theorem lookGiven (c : Call) (s : LinkState) : (c.look s).given? = none := by
  unfold look
  split
  · split
    · exact reachGiven c _
    · rfl
  · rfl

theorem lookClient {c : Call} {s : LinkState} {client : Client}
    (found : (c.look s).client? = some client) : s.client? = some client := by
  unfold look at found
  split at found
  · split at found
    · rename_i live seen
      rw [reachClient] at found
      rw [seen, found]
    · contradiction
  · contradiction

theorem prepareClosedGiven (c : Call) : c.prepareClosed.given? = none := by
  unfold prepareClosed
  split <;> rfl

theorem prepareClosedClient (c : Call) : c.prepareClosed.client? = none := by
  unfold prepareClosed
  split <;> rfl

theorem executionClosedGiven (c : Call) : c.executionClosed.given? = none := by
  unfold executionClosed
  split <;> rfl

theorem executionClosedClient (c : Call) : c.executionClosed.client? = none := by
  unfold executionClosed
  split <;> rfl

def answered (c : Call) : CallEvent → Option (Client × List Column)
  | .prepared (.ok columns) =>
    match c.phase with
    | .preparing client => some (client, columns)
    | _ => none
  | _ => none

/- A call sends an execution when it comes to wait for one. -/
def sends (before after : Call) : Option (Client × Statement) :=
  match before.phase, after.phase with
  | .executing _, _ => none
  | _, .executing p => some (p.client, p.statement)
  | _, _ => none

theorem sendsGiven {before after : Call} {r} (sent : before.sends after = some r) :
    ∃ p, after.given? = some p ∧ r = (p.client, p.statement) := by
  unfold sends at sent
  split at sent
  · contradiction
  · rename_i p executing _
    cases Option.some.inj sent
    exact ⟨p, by rw [given?, executing], rfl⟩
  · contradiction

theorem answeredClient {c : Call} {e client columns}
    (answer : c.answered e = some (client, columns)) :
    c.phase = .preparing client ∧ e = .prepared (.ok columns) := by
  unfold answered at answer
  split at answer
  · split at answer
    · rename_i preparing
      cases Option.some.inj answer
      exact ⟨preparing, rfl⟩
    · contradiction
  · contradiction

/- Everything that one step can bring to hand: what was there, the answer to a prepare, or the
cached statement while its version is the live one. -/
theorem stepGiven {s cache c e p} (after : (Call.step s cache c e).1.given? = some p) :
    c.given? = some p ∨
    (∃ client columns, c.answered e = some (client, columns) ∧ p = .on client columns) ∨
    (e = .move ∧ c.phase = .ready .check ∧ cache = some p ∧
      s.isCurrent p.client.version = true) := by
  unfold Call.step at after
  split at after
  · rename_i ready
    right; right
    simp only [check] at after
    split at after
    · rename_i cached
      split at after
      · rename_i current
        rw [handGiven] at after
        cases Option.some.inj after
        exact ⟨rfl, ready, rfl, current⟩
      · contradiction
    · contradiction
  · simp only [lookGiven, reduceCtorEq] at after
  · contradiction
  · rename_i client columns preparing
    right; left
    simp only [handGiven] at after
    cases Option.some.inj after
    exact ⟨client, columns, by rw [answered, preparing], rfl⟩
  · simp only at after
    split at after
    · rw [prepareClosedGiven] at after; contradiction
    · contradiction
  · contradiction
  · simp only at after
    split at after
    · rw [executionClosedGiven] at after; contradiction
    · contradiction
  · exact .inl after

theorem stepClient {s cache c e client}
    (after : (Call.step s cache c e).1.client? = some client) :
    c.client? = some client ∨ s.client? = some client ∨
    ∃ p, cache = some p ∧ p.client = client := by
  unfold Call.step at after
  split at after
  · simp only [check] at after
    split at after
    · rename_i p
      split at after
      · rw [handClient] at after
        exact .inr (.inr ⟨p, rfl, Option.some.inj after⟩)
      · contradiction
    · contradiction
  · exact .inr (.inl (lookClient after))
  · contradiction
  · rename_i waiting columns preparing
    simp only [handClient] at after
    left
    rw [client?, preparing]
    exact after
  · simp only at after
    split at after
    · rw [prepareClosedClient] at after; contradiction
    · contradiction
  · contradiction
  · simp only at after
    split at after
    · rw [executionClosedClient] at after; contradiction
    · contradiction
  · exact .inl after

theorem stepCache (s : LinkState) (cache : Option Prepared) (c : Call) (e : CallEvent) :
    (Call.step s cache c e).2 = cache ∨
    ∃ client columns, c.answered e = some (client, columns) ∧
      (Call.step s cache c e).2 = some (.on client columns) := by
  unfold Call.step
  split
  case h_4 client columns preparing =>
    exact .inr ⟨client, columns, by rw [answered, preparing], rfl⟩
  all_goals exact .inl rfl

end Call

namespace Shared

def holds (s : Shared) (p : Prepared) : Prop :=
  some p ∈ s.caches ∨ ∃ c ∈ s.calls, c.2.given? = some p

def knows (s : Shared) (client : Client) : Prop :=
  (∃ p, some p ∈ s.caches ∧ p.client = client) ∨ ∃ c ∈ s.calls, c.2.client? = some client

def stores (s : Shared) : SharedEvent → Option LinkState
  | .keeper e => (s.keeper.step s.held e).2
  | _ => none

def answers (s : Shared) : SharedEvent → Option (Client × List Column)
  | .call position e => (s.calls[position]?).bind fun c => c.2.answered e
  | _ => none

def sends (s : Shared) : SharedEvent → Option (Client × Statement)
  | .call position e =>
    (s.calls[position]?).bind fun c => c.2.sends (c.2.step s.state (s.cache c.1) e).1
  | _ => none

theorem cacheMember {s : Shared} {statement p} (cached : s.cache statement = some p) :
    some p ∈ s.caches := by
  unfold cache at cached
  rw [Option.join_eq_some_iff] at cached
  exact List.mem_of_getElem? cached

theorem stepHolds {s : Shared} {e p} (after : (s.step e).holds p) :
    s.holds p ∨ ∃ client columns, s.answers e = some (client, columns) ∧ p = .on client columns := by
  cases e with
  | keeper e => exact .inl after
  | start statement aim =>
    rcases after with cached | ⟨c, member, given⟩
    · exact .inl (.inl cached)
    · rcases List.mem_append.mp member with old | new
      · exact .inl (.inr ⟨c, old, given⟩)
      · cases List.mem_singleton.mp new
        contradiction
  | release => exact .inl after
  | call position e =>
    simp only [step, stepCall] at after
    cases found : s.calls[position]? with
    | none => rw [found] at after; exact .inl after
    | some entry =>
      obtain ⟨statement, c⟩ := entry
      have member := List.mem_of_getElem? found
      simp only [found] at after
      have fresh {client columns} (answer : c.answered e = some (client, columns)) :
          s.answers (.call position e) = some (client, columns) := by
        simp only [answers, found, Option.bind_some, answer]
      rcases after with cached | ⟨d, inside, given⟩
      · rcases List.mem_or_eq_of_mem_set cached with old | new
        · exact .inl (.inl old)
        · rcases Call.stepCache s.state (s.cache statement) c e with
            kept | ⟨client, columns, answer, made⟩
          · exact .inl (.inl (cacheMember (new.trans kept).symm))
          · cases Option.some.inj (new.trans made)
            exact .inr ⟨client, columns, fresh answer, rfl⟩
      · rcases List.mem_or_eq_of_mem_set inside with old | rfl
        · exact .inl (.inr ⟨d, old, given⟩)
        · rcases Call.stepGiven given with old | ⟨client, columns, answer, made⟩ | ⟨_, _, cached, _⟩
          · exact .inl (.inr ⟨_, member, old⟩)
          · exact .inr ⟨client, columns, fresh answer, made⟩
          · exact .inl (.inl (cacheMember cached))

theorem answersKnown {s : Shared} {e client columns}
    (answer : s.answers e = some (client, columns)) : s.knows client := by
  cases e with
  | call position e =>
    simp only [answers, Option.bind_eq_some_iff] at answer
    obtain ⟨c, found, answer⟩ := answer
    have preparing := (Call.answeredClient answer).1
    exact .inr ⟨c, List.mem_of_getElem? found, by rw [Call.client?, preparing]⟩
  | _ => contradiction

theorem holdsKnows {s : Shared} {p} (holds : s.holds p) : s.knows p.client := by
  rcases holds with cached | ⟨c, member, given⟩
  · exact .inl ⟨p, cached, rfl⟩
  · exact .inr ⟨c, member, Call.givenClient given⟩

theorem stepKnows {s : Shared} {e client} (after : (s.step e).knows client) :
    s.knows client ∨ s.state.client? = some client := by
  rcases after with ⟨p, cached, rfl⟩ | ⟨d, inside, working⟩
  · rcases stepHolds (.inl cached) with old | ⟨client, columns, answer, rfl⟩
    · exact .inl (holdsKnows old)
    · exact .inl (answersKnown answer)
  · cases e with
    | keeper e => exact .inl (.inr ⟨d, inside, working⟩)
    | start statement aim =>
      rcases List.mem_append.mp inside with old | new
      · exact .inl (.inr ⟨d, old, working⟩)
      · cases List.mem_singleton.mp new
        contradiction
    | release => exact .inl (.inr ⟨d, inside, working⟩)
    | call position e =>
      simp only [step, stepCall] at inside
      cases found : s.calls[position]? with
      | none => rw [found] at inside; exact .inl (.inr ⟨d, inside, working⟩)
      | some entry =>
        obtain ⟨statement, c⟩ := entry
        simp only [found] at inside
        rcases List.mem_or_eq_of_mem_set inside with old | rfl
        · exact .inl (.inr ⟨d, old, working⟩)
        · rcases Call.stepClient working with old | live | ⟨p, cached, same⟩
          · exact .inl (.inr ⟨_, List.mem_of_getElem? found, old⟩)
          · exact .inr live
          · exact .inl (.inl ⟨p, cacheMember cached, same⟩)

theorem sendsHeld {s : Shared} {e r} (sent : s.sends e = some r) :
    ∃ p, (s.step e).holds p ∧ r = (p.client, p.statement) := by
  cases e with
  | call position e =>
    simp only [sends, Option.bind_eq_some_iff] at sent
    obtain ⟨⟨statement, c⟩, found, sent⟩ := sent
    obtain ⟨p, given, rfl⟩ := Call.sendsGiven sent
    refine ⟨p, .inr ⟨(statement, (c.step s.state (s.cache statement) e).1), ?_, given⟩, rfl⟩
    obtain ⟨inside, _⟩ := List.getElem?_eq_some_iff.mp found
    simp only [step, stepCall, found]
    exact List.mem_set inside _
  | _ => contradiction

theorem stepGives {s : Shared} {e i a b c d p} (before : s.calls[i]? = some (a, c))
    (after : (s.step e).calls[i]? = some (b, d)) (given : d.given? = some p) :
    c.given? = some p ∨
    (∃ columns, e = .call i (.prepared (.ok columns)) ∧ c.phase = .preparing p.client ∧
      p = .on p.client columns) ∨
    (e = .call i .move ∧ c.phase = .ready .check ∧ s.cache a = some p ∧
      s.state.isCurrent p.client.version = true) := by
  have same (kept : (s.step e).calls[i]? = s.calls[i]?) : c.given? = some p := by
    rw [kept, before] at after
    cases Option.some.inj after
    exact given
  cases e with
  | keeper e => exact .inl (same rfl)
  | start statement aim =>
    have inside := (List.getElem?_eq_some_iff.mp before).1
    exact .inl (same (List.getElem?_append_left inside))
  | release => exact .inl (same rfl)
  | call j e =>
    by_cases here : j = i
    · subst here
      have inside := (List.getElem?_eq_some_iff.mp before).1
      simp only [step, stepCall, before, List.getElem?_set_self inside] at after
      cases Option.some.inj after
      rcases Call.stepGiven given with old | ⟨client, columns, answer, rfl⟩ |
        ⟨rfl, ready, cached, current⟩
      · exact .inl old
      · obtain ⟨preparing, rfl⟩ := Call.answeredClient answer
        exact .inr (.inl ⟨columns, rfl, preparing, rfl⟩)
      · exact .inr (.inr ⟨rfl, ready, cached, current⟩)
    · left
      apply same
      simp only [step, stepCall]
      split
      · rfl
      · exact List.getElem?_set_ne here

end Shared

/-! ### The ledger of a run -/

structure Ledger where
  shared : Shared
  stored : List LinkState
  answered : List (Client × List Column)
  sent : List (Client × Statement)

namespace Ledger

def initial (statements : Nat) : Ledger := ⟨.initial statements, [.initial], [], []⟩

def step (l : Ledger) (e : SharedEvent) : Ledger :=
  ⟨l.shared.step e, l.stored ++ (l.shared.stores e).toList,
    l.answered ++ (l.shared.answers e).toList, l.sent ++ (l.shared.sends e).toList⟩

def run (l : Ledger) (events : List SharedEvent) : Ledger := events.foldl step l

theorem runShared (l : Ledger) (events : List SharedEvent) :
    (l.run events).shared = l.shared.run events := by
  induction events generalizing l with
  | nil => rfl
  | cons e rest ih => exact ih (l.step e)

/- A statement was made on a client if that client answered a prepare with its columns and it
names the client's connection. -/
def Made (l : Ledger) (client : Client) (statement : Statement) : Prop :=
  (client, statement.columns) ∈ l.answered ∧ statement.connection = client.connection

theorem madeLater {l : Ledger} {client statement} (made : l.Made client statement)
    (e : SharedEvent) : (l.step e).Made client statement :=
  ⟨List.mem_append_left _ made.1, made.2⟩

structure Sound (l : Ledger) : Prop where
  shows : l.shared.keeper.Shows l.shared.state
  last : l.stored.getLast? = some l.shared.state
  cycled : Cycled l.stored
  counts : l.shared.state.Counts (connections l.stored)
  known : ∀ client, l.shared.knows client → .connected client ∈ l.stored
  made : ∀ p, l.shared.holds p → l.Made p.client p.statement
  answered : ∀ a ∈ l.answered, .connected a.1 ∈ l.stored
  sent : ∀ r ∈ l.sent, l.Made r.1 r.2

theorem initialSound (statements : Nat) : (initial statements).Sound where
  shows := rfl
  last := rfl
  cycled := initialCycled
  counts := rfl
  known := by
    rintro client (⟨p, cached, _⟩ | ⟨c, member, _⟩)
    · have empty := List.eq_of_mem_replicate cached
      contradiction
    · contradiction
  made := by
    rintro p (cached | ⟨c, member, _⟩)
    · have empty := List.eq_of_mem_replicate cached
      contradiction
    · contradiction
  answered := by
    intro a member
    contradiction
  sent := by
    intro r member
    contradiction

/- Only the keeper changes the state shown, and it keeps to the order of the cycle. -/
theorem stepLink {l : Ledger} (sound : l.Sound) (e : SharedEvent) :
    (l.step e).shared.keeper.Shows (l.step e).shared.state ∧
    (l.step e).stored.getLast? = some (l.step e).shared.state ∧
    Cycled (l.step e).stored ∧
    (l.step e).shared.state.Counts (connections (l.step e).stored) := by
  have idle (kept : l.shared.stores e = none) : (l.step e).stored = l.stored := by
    simp only [step, kept, Option.toList_none, List.append_nil]
  cases e with
  | keeper k =>
    cases stores : (l.shared.keeper.step l.shared.held k).2 with
    | none =>
      have state : (l.step (.keeper k)).shared.state = l.shared.state := by
        simp only [step, Shared.step, Shared.stepKeeper, stores, Option.getD_none]
      rw [state, idle stores]
      exact ⟨keeperSilent sound.shows stores, sound.last, sound.cycled, sound.counts⟩
    | some t =>
      have state : (l.step (.keeper k)).shared.state = t := by
        simp only [step, Shared.step, Shared.stepKeeper, stores, Option.getD_some]
      have stored : (l.step (.keeper k)).stored = l.stored ++ [t] := by
        simp only [step, Shared.stores, stores, Option.toList_some]
      obtain ⟨next, shows⟩ := keeperStores sound.shows stores
      rw [state, stored]
      exact ⟨shows, by simp, cycledNext sound.cycled sound.last next,
        countsNext sound.counts next⟩
  | start statement aim =>
    rw [idle rfl]
    exact ⟨sound.shows, sound.last, sound.cycled, sound.counts⟩
  | release =>
    rw [idle rfl]
    exact ⟨sound.shows, sound.last, sound.cycled, sound.counts⟩
  | call position e =>
    have same : (l.shared.stepCall position e).keeper = l.shared.keeper ∧
        (l.shared.stepCall position e).state = l.shared.state := by
      unfold Shared.stepCall
      split <;> exact ⟨rfl, rfl⟩
    rw [idle rfl]
    simp only [step, Shared.step, same.1, same.2]
    exact ⟨sound.shows, sound.last, sound.cycled, sound.counts⟩

theorem stepSound {l : Ledger} (sound : l.Sound) (e : SharedEvent) : (l.step e).Sound := by
  obtain ⟨shows, last, cycled, counts⟩ := stepLink sound e
  have made : ∀ p, (l.step e).shared.holds p → (l.step e).Made p.client p.statement := by
    intro p holds
    rcases Shared.stepHolds holds with old | ⟨client, columns, answer, rfl⟩
    · exact madeLater (sound.made p old) e
    · refine ⟨List.mem_append_right _ ?_, rfl⟩
      rw [answer]
      exact List.mem_singleton.mpr rfl
  refine ⟨shows, last, cycled, counts, ?_, made, ?_, ?_⟩
  · intro client knows
    apply List.mem_append_left
    rcases Shared.stepKnows knows with old | live
    · exact sound.known client old
    · have shown := List.mem_of_getLast? sound.last
      cases state : l.shared.state with
      | connected c =>
        rw [state] at live shown
        cases Option.some.inj live
        exact shown
      | disconnected v => rw [state] at live; contradiction
      | connecting v => rw [state] at live; contradiction
  · intro a member
    apply List.mem_append_left
    rcases List.mem_append.mp member with old | new
    · exact sound.answered a old
    · exact sound.known _ (Shared.answersKnown (Option.mem_toList.mp new))
  · intro r member
    rcases List.mem_append.mp member with old | new
    · exact madeLater (sound.sent r old) e
    · obtain ⟨p, holds, rfl⟩ := Shared.sendsHeld (Option.mem_toList.mp new)
      exact made p holds

theorem runSound {l : Ledger} (sound : l.Sound) (events : List SharedEvent) :
    (l.run events).Sound := by
  induction events generalizing l with
  | nil => exact sound
  | cons e rest ih => exact ih (stepSound sound e)

theorem currentClient {l : Ledger} (sound : l.Sound) {p : Prepared}
    (known : l.shared.knows p.client)
    (current : l.shared.state.isCurrent p.client.version = true) :
    l.shared.state = .connected p.client := by
  cases state : l.shared.state with
  | connected c =>
    rw [state] at current
    have version : c.version = p.client.version := by
      simpa only [LinkState.isCurrent, LinkState.client?, beq_iff_eq] using current
    have shown := List.mem_of_getLast? sound.last
    rw [state] at shown
    obtain ⟨i, left⟩ := List.getElem?_of_mem shown
    obtain ⟨j, right⟩ := List.getElem?_of_mem (sound.known _ known)
    rw [(clientOfVersion sound.cycled left right version).2]
  | disconnected v => rw [state] at current; contradiction
  | connecting v => rw [state] at current; contradiction

theorem dialledVersion {l : Ledger} (sound : l.Sound) {v : Nat}
    (dialling : l.shared.keeper = .dialling v ∨ l.shared.keeper = .backoff v) :
    v = connections l.stored + 1 := by
  have shows := sound.shows
  have counts := sound.counts
  rcases dialling with k | k
  all_goals
    rw [k] at shows
    rw [shows] at counts
    exact counts.symm

/- The states stored keep the order of the cycle, one version for each connection. Every statement
that is cached or at hand was made on the client it is kept with; a cached one is taken as it is
only while that client is the live one; and every execution went to the client that its statement
was made on, which is the only one where connections have numbers of their own. -/
theorem statementsKeepTheirClient (statements : Nat) (events : List SharedEvent) :
    let l := (initial statements).run events
    l.shared = (Shared.initial statements).run events ∧
    Cycled l.stored ∧
    (∀ (i j : Nat) (c d : Client), l.stored[i]? = some (.connected c) →
      l.stored[j]? = some (.connected d) →
      c.version = d.version → i = j ∧ c = d) ∧
    (∀ v, l.shared.keeper = .dialling v ∨ l.shared.keeper = .backoff v →
      v = connections l.stored + 1) ∧
    (∀ p, l.shared.holds p → l.Made p.client p.statement ∧ .connected p.client ∈ l.stored) ∧
    (∀ e (i : Nat) a b c d p, l.shared.calls[i]? = some (a, c) →
      (l.step e).shared.calls[i]? = some (b, d) → d.given? = some p →
      c.given? = some p ∨
      (∃ columns, e = .call i (.prepared (.ok columns)) ∧ c.phase = .preparing p.client ∧
        p = .on p.client columns) ∨
      (e = .call i .move ∧ c.phase = .ready .check ∧ l.shared.cache a = some p ∧
        l.shared.state = .connected p.client)) ∧
    (∀ r ∈ l.sent, l.Made r.1 r.2 ∧ .connected r.1 ∈ l.stored ∧
      ((∀ c d, .connected c ∈ l.stored → .connected d ∈ l.stored →
          c.connection = d.connection → c = d) →
        ∀ c, .connected c ∈ l.stored → l.Made c r.2 → c = r.1)) := by
  intro l
  have sound : l.Sound := runSound (initialSound statements) events
  refine ⟨runShared _ events, sound.cycled, ?_, ?_, ?_, ?_, ?_⟩
  · intro i j c d left right version
    exact clientOfVersion sound.cycled left right version
  · intro v dialling
    exact dialledVersion sound dialling
  · intro p holds
    exact ⟨sound.made p holds, sound.known _ (Shared.holdsKnows holds)⟩
  · intro e i a b c d p before after given
    rcases Shared.stepGives before after given with old | made | ⟨move, ready, cached, current⟩
    · exact .inl old
    · exact .inr (.inl made)
    · have known := Shared.holdsKnows (.inl (Shared.cacheMember cached))
      exact .inr (.inr ⟨move, ready, cached, currentClient sound known current⟩)
  · intro r member
    have made := sound.sent r member
    have attached := sound.answered _ made.1
    refine ⟨made, attached, ?_⟩
    intro apart c other same
    exact apart c r.1 other attached (same.2.symm.trans made.2)

end Ledger
end TagListing.Database
