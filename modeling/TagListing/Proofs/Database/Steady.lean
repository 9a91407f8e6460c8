import TagListing.Proofs.Database.Succession

/-! A query on a link that stays on one client which answers it well. Whatever was cached before,
the query takes one execution, after one prepare if the cached version is not the live one and after
none if it is. When the events come that it waits for is not claimed. -/
namespace TagListing.Database

def CallEvent.succeeds : CallEvent → Prop
  | .prepared (.error _) => False
  | .executed (.error _) => False
  | _ => True

namespace Call

def expects (c : Call) (e : CallEvent) : Bool :=
  match c.phase, e with
  | .ready _, .move => true
  | .pausing _, .wake => true
  | .preparing _, .prepared _ => true
  | .executing _, .executed _ => true
  | _, _ => false

theorem stepUnexpected {c : Call} {e : CallEvent} (other : c.expects e = false) (s : LinkState)
    (cache : Option Prepared) : c.step s cache e = (c, cache) := by
  obtain ⟨aim, looks, closedPrepares, closedExecutions, phase⟩ := c
  cases phase <;> cases e <;> first | contradiction | simp only [Call.step]

theorem answeredUnexpected {c : Call} {e : CallEvent} (other : c.expects e = false) :
    c.answered e = none := by
  refine Option.eq_none_iff_forall_ne_some.mpr fun a answer => ?_
  obtain ⟨preparing, rfl⟩ := answeredClient answer
  simp only [expects, preparing, reduceCtorEq] at other

theorem overUnexpected {c : Call} (finished : c.outcome? ≠ none) (e : CallEvent) :
    c.expects e = false := by
  unfold outcome? at finished
  split at finished
  · rename_i o ended
    simp only [expects, ended]
  · exact absurd rfl finished

theorem sendsSelf (c : Call) : c.sends c = none := by
  unfold sends
  split
  · rfl
  · rename_i executing other
    exact absurd executing (other _)
  · rfl

/-! ### The stages of a query -/

def queryIn (phase : Phase) : Call := { Call.begin .query with phase := phase }

/- A query's phase on a live client, with the events it has met, what is cached and the prepares
answered and executions sent since it began. -/
inductive Stage (first : Option Prepared) (client : Client) : List CallEvent → Phase →
    Option Prepared → List (Client × List Column) → List (Client × Statement) → Prop where
  | begun : Stage first client [] (.ready .check) first [] []
  | handed {p} (cached : first = some p) (live : p.client = client) :
      Stage first client [.move] (.executing p) first [] [(client, p.statement)]
  | handedOver {p cells} (cached : first = some p) (live : p.client = client) :
      Stage first client [.move, .executed (.ok cells)]
        (.over (.rows ⟨p.statement.columns, cells⟩)) first [] [(client, p.statement)]
  | looking (stale : ∀ p, first = some p → p.client.version ≠ client.version) :
      Stage first client [.move] (.ready .look) first [] []
  | preparing (stale : ∀ p, first = some p → p.client.version ≠ client.version) :
      Stage first client [.move, .move] (.preparing client) first [] []
  | prepared {columns} (stale : ∀ p, first = some p → p.client.version ≠ client.version) :
      Stage first client [.move, .move, .prepared (.ok columns)]
        (.executing (.on client columns)) (some (.on client columns)) [(client, columns)]
        [(client, ⟨client.connection, columns⟩)]
  | preparedOver {columns cells}
      (stale : ∀ p, first = some p → p.client.version ≠ client.version) :
      Stage first client [.move, .move, .prepared (.ok columns), .executed (.ok cells)]
        (.over (.rows ⟨columns, cells⟩)) (some (.on client columns)) [(client, columns)]
        [(client, ⟨client.connection, columns⟩)]

variable {first cache : Option Prepared} {client : Client} {did : List CallEvent} {phase : Phase}
  {answered : List (Client × List Column)} {sent : List (Client × Statement)}

theorem checkStage
    (same : ∀ p, first = some p → p.client.version = client.version → p.client = client) :
    ∃ next, (queryIn (.ready .check)).check (.connected client) first = queryIn next ∧
      Stage first client [.move] next first []
        ((queryIn (.ready .check)).sends (queryIn next)).toList := by
  cases first with
  | none => exact ⟨_, rfl, .looking nofun⟩
  | some p =>
    by_cases live : p.client.version = client.version
    · have owner := same p rfl live
      refine ⟨.executing p, ?_, ?_⟩
      · have current : (client.version == p.client.version) = true := beq_iff_eq.mpr live.symm
        simp only [check, LinkState.isCurrent, LinkState.client?, current, ↓reduceIte]
        rfl
      · have handed : Stage (some p) client _ _ _ _ _ := .handed rfl owner
        rw [← owner] at handed ⊢
        exact handed
    · have stale : (client.version == p.client.version) = false :=
        beq_false_of_ne (Ne.symm live)
      refine ⟨.ready .look, ?_, .looking ?_⟩
      · simp only [check, LinkState.isCurrent, LinkState.client?, stale, Bool.false_eq_true,
          ↓reduceIte]
        rfl
      · intro q cached
        cases Option.some.inj cached
        exact live

theorem Stage.step (stage : Stage first client did phase cache answered sent)
    (same : ∀ p, first = some p → p.client.version = client.version → p.client = client)
    {e : CallEvent} (due : (queryIn phase).expects e) (ok : e.succeeds) :
    let c := (queryIn phase).step (.connected client) cache e
    ∃ next, c.1 = queryIn next ∧ Stage first client (did ++ [e]) next c.2
      (answered ++ ((queryIn phase).answered e).toList)
      (sent ++ ((queryIn phase).sends c.1).toList) := by
  intro c
  cases stage with
  | begun =>
    cases e <;> simp only [expects, queryIn, Bool.false_eq_true] at due
    obtain ⟨next, made, stage⟩ := checkStage same
    refine ⟨next, made, ?_⟩
    have moved : c = (queryIn next, first) := by
      rw [← made]
      rfl
    rw [moved]
    exact stage
  | handed cached live =>
    cases e <;> simp only [expects, queryIn, Bool.false_eq_true] at due
    rename_i answer
    cases answer with
    | error e => exact absurd ok id
    | ok cells => exact ⟨_, rfl, .handedOver cached live⟩
  | looking stale =>
    cases e <;> simp only [expects, queryIn, Bool.false_eq_true] at due
    exact ⟨_, rfl, .preparing stale⟩
  | preparing stale =>
    cases e <;> simp only [expects, queryIn, Bool.false_eq_true] at due
    rename_i answer
    cases answer with
    | error e => exact absurd ok id
    | ok columns => exact ⟨_, rfl, .prepared stale⟩
  | prepared stale =>
    cases e <;> simp only [expects, queryIn, Bool.false_eq_true] at due
    rename_i answer
    cases answer with
    | error e => exact absurd ok id
    | ok cells => exact ⟨_, rfl, .preparedOver stale⟩
  | handedOver cached live =>
    cases e <;> simp only [expects, queryIn, Bool.false_eq_true] at due
  | preparedOver stale =>
    cases e <;> simp only [expects, queryIn, Bool.false_eq_true] at due

end Call

/-! ### The run of a query -/

namespace Shared

/- The event of a call that waits for it. -/
def met (s : Shared) (i : Nat) : SharedEvent → Option CallEvent
  | .call j e =>
    if i = j then (s.calls[i]?).bind fun c => if c.2.expects e then some e else none else none
  | _ => none

def allMet (s : Shared) (i : Nat) : List SharedEvent → List CallEvent
  | [] => []
  | e :: rest => (s.met i e).toList ++ (s.step e).allMet i rest

/- An event that no call waits for changes nothing. -/
structure Unmet (s : Shared) (e : SharedEvent) : Prop where
  met : ∀ i, s.met i e = none
  step : s.step e = s
  answers : s.answers e = none
  sends : s.sends e = none

theorem unmet {s : Shared} {j : Nat} {e : CallEvent}
    (other : ∀ c, s.calls[j]? = some c → c.2.expects e = false) : s.Unmet (.call j e) := by
  cases found : s.calls[j]? with
  | none =>
    refine ⟨fun i => ?_, ?_, ?_, ?_⟩
    · rw [met]
      split
      · rename_i same
        rw [same, found, Option.bind_none]
      · rfl
    · simp only [step, stepCall, found]
    · rw [answers, found, Option.bind_none]
    · rw [sends, found, Option.bind_none]
  | some entry =>
    obtain ⟨a, c⟩ := entry
    have unexpected := other _ found
    have kept := Call.stepUnexpected unexpected s.state (s.cache a)
    refine ⟨fun i => ?_, ?_, ?_, ?_⟩
    · rw [met]
      split
      · rename_i same
        rw [same, found, Option.bind_some, unexpected]
        rfl
      · rfl
    · have caches : s.caches.set a (s.cache a) = s.caches := by
        rcases Nat.lt_or_ge a s.caches.length with inside | beyond
        · rw [cache, List.getElem?_eq_getElem inside, Option.join_some, List.set_getElem_self]
        · exact List.set_eq_of_length_le beyond
      have calls : s.calls.set j (a, c) = s.calls := by
        obtain ⟨inside, here⟩ := List.getElem?_eq_some_iff.mp found
        rw [← here, List.set_getElem_self]
      simp only [step, stepCall, found, kept, caches, calls]
    · rw [answers, found, Option.bind_some, Call.answeredUnexpected unexpected]
    · rw [sends, found, Option.bind_some, kept, Call.sendsSelf]

end Shared

namespace Ledger

/- A query that began on one ledger, its call being the last one, and has led to another. -/
inductive Underway (before : Ledger) (client : Client) (did : List CallEvent) (l : Ledger) :
    Prop where
  | intro {phase : Phase} {cache : Option Prepared} {answered : List (Client × List Column)}
      {sent : List (Client × Statement)}
      (stage : Call.Stage (before.shared.cache 0) client did phase cache answered sent)
      (call : l.shared.calls[before.shared.calls.length]? = some (0, Call.queryIn phase))
      (others : ∀ (j : Nat) c, l.shared.calls[j]? = some c → j ≠ before.shared.calls.length →
        c.2.outcome? ≠ none)
      (one : l.shared.caches.length = 1)
      (cached : l.shared.cache 0 = cache)
      (prepares : l.answered = before.answered ++ answered)
      (executions : l.sent = before.sent ++ sent)

variable {before l : Ledger} {client : Client} {did : List CallEvent}

theorem begun (ordered : before.Ordered)
    (finished : ∀ c ∈ before.shared.calls, c.2.outcome?.isSome) :
    Underway before client [] (before.step (.start 0 .query)) := by
  have calls : (before.step (.start 0 .query)).shared.calls =
      before.shared.calls ++ [(0, Call.queryIn (.ready .check))] := rfl
  refine .intro .begun ?_ ?_ ordered.one rfl rfl rfl
  · rw [calls, List.getElem?_concat_length]
  · intro j c found other active
    rw [calls] at found
    rcases Nat.lt_or_ge j before.shared.calls.length with inside | beyond
    · rw [List.getElem?_append_left inside] at found
      have ended := finished c (List.mem_of_getElem? found)
      rw [active] at ended
      contradiction
    · have bound := (List.getElem?_eq_some_iff.mp found).1
      rw [List.length_append, List.length_singleton] at bound
      omega

/- What changes neither the cache nor the calls leaves the query where it is. -/
theorem idleUnderway {m : Ledger} (underway : Underway before client did l)
    (caches : m.shared.caches = l.shared.caches) (calls : m.shared.calls = l.shared.calls)
    (answered : m.answered = l.answered) (sent : m.sent = l.sent) :
    Underway before client did m := by
  obtain ⟨stage, call, others, one, cached, prepares, executions⟩ := underway
  refine .intro stage ?_ ?_ ?_ ?_ (answered.trans prepares) (sent.trans executions)
  · rw [calls]
    exact call
  · rw [calls]
    exact others
  · rw [caches]
    exact one
  · rw [Shared.cache, caches]
    exact cached

theorem metUnderway (underway : Underway before client did l)
    (same : ∀ p, before.shared.cache 0 = some p → p.client.version = client.version →
      p.client = client)
    (live : l.shared.state = .connected client) {j : Nat} {a : Nat} {c : Call} {e : CallEvent}
    (found : l.shared.calls[j]? = some (a, c)) (due : c.expects e = true)
    (ok : ∀ m ∈ l.shared.met before.shared.calls.length (.call j e), m.succeeds) :
    Underway before client (did ++ (l.shared.met before.shared.calls.length (.call j e)).toList)
      (l.step (.call j e)) := by
  obtain ⟨stage, call, others, one, cached, prepares, executions⟩ := underway
  -- Only the query itself still waits for an event.
  obtain rfl : j = before.shared.calls.length := by
    refine Decidable.not_not.mp fun other => ?_
    rw [Call.overUnexpected (others j _ found other)] at due
    contradiction
  rw [call] at found
  obtain ⟨rfl, rfl⟩ := Prod.mk.inj (Option.some.inj found)
  have met : l.shared.met before.shared.calls.length (.call before.shared.calls.length e) =
      some e := by
    simp only [Shared.met, ↓reduceIte, call, Option.bind_some, due]
  rw [met] at ok ⊢
  obtain ⟨next, moved, stage⟩ := stage.step same due (ok e rfl)
  rw [← live, ← cached] at moved stage
  refine .intro stage ?_ ?_ ?_ ?_ ?_ ?_
  · rw [step, Shared.callsAfter call, if_pos rfl, moved]
  · intro j c found other
    rw [step, Shared.callsAfter call, if_neg (Ne.symm other)] at found
    exact others j c found other
  · simp only [step, Shared.step, Shared.stepCall, call, List.length_set, one]
  · exact Shared.cacheAfter call e (by rw [one]; exact Nat.one_pos)
  · rw [callAnswered call, prepares, List.append_assoc]
  · simp only [step, Shared.sends, call, Option.bind_some, executions, List.append_assoc]

theorem stepUnderway (underway : Underway before client did l)
    (same : ∀ p, before.shared.cache 0 = some p → p.client.version = client.version →
      p.client = client)
    (live : l.shared.state = .connected client) {e : SharedEvent}
    (quiet : ∀ statement aim, e ≠ .start statement aim)
    (ok : ∀ m ∈ l.shared.met before.shared.calls.length e, m.succeeds) :
    Underway before client (did ++ (l.shared.met before.shared.calls.length e).toList)
      (l.step e) := by
  cases e with
  | keeper k =>
    simp only [Shared.met, Option.toList_none, List.append_nil]
    exact idleUnderway underway rfl rfl (List.append_nil _) (List.append_nil _)
  | start statement aim => exact absurd rfl (quiet statement aim)
  | release =>
    simp only [Shared.met, Option.toList_none, List.append_nil]
    exact idleUnderway underway rfl rfl (List.append_nil _) (List.append_nil _)
  | call j e =>
    by_cases due : ∃ c, l.shared.calls[j]? = some c ∧ c.2.expects e = true
    · obtain ⟨⟨a, c⟩, found, due⟩ := due
      exact metUnderway underway same live found due ok
    · have unmet : l.shared.Unmet (.call j e) := Shared.unmet fun c found =>
        Bool.eq_false_iff.mpr fun expected => due ⟨c, found, expected⟩
      rw [unmet.met, Option.toList_none, List.append_nil]
      refine idleUnderway underway ?_ ?_ ?_ ?_
      · rw [step, unmet.step]
      · rw [step, unmet.step]
      · rw [step, unmet.answers, Option.toList_none, List.append_nil]
      · rw [step, unmet.sends, Option.toList_none, List.append_nil]

theorem runUnderway (underway : Underway before client did l)
    (same : ∀ p, before.shared.cache 0 = some p → p.client.version = client.version →
      p.client = client) {events : List SharedEvent}
    (live : ∀ n, (l.run (events.take n)).shared.state = .connected client)
    (quiet : ∀ statement aim, .start statement aim ∉ events)
    (ok : ∀ m ∈ l.shared.allMet before.shared.calls.length events, m.succeeds) :
    Underway before client (did ++ l.shared.allMet before.shared.calls.length events)
      (l.run events) := by
  induction events generalizing l did with
  | nil =>
    rw [Shared.allMet, List.append_nil]
    exact underway
  | cons e rest ih =>
    rw [Shared.allMet, ← List.append_assoc]
    refine ih ?_ (fun n => live (n + 1)) ?_ ?_
    · refine stepUnderway underway same (live 0) ?_ ?_
      · rintro statement aim rfl
        exact quiet statement aim List.mem_cons_self
      · exact fun m member => ok m (List.mem_append_left _ (Option.mem_toList.mpr member))
    · exact fun statement aim member => quiet statement aim (List.mem_cons_of_mem _ member)
    · exact fun m member => ok m (List.mem_append_right _ member)

/- What a query has met that has returned rows, and what it added to the ledger. -/
inductive Returned (before after : Ledger) (client : Client) : List CallEvent → Rows → Prop where
  | current {p cells} (cached : before.shared.cache 0 = some p) (live : p.client = client)
      (prepares : after.answered = before.answered)
      (executions : after.sent = before.sent ++ [(client, p.statement)]) :
      Returned before after client [.move, .executed (.ok cells)] ⟨p.statement.columns, cells⟩
  | renewed {columns cells}
      (stale : ∀ p, before.shared.cache 0 = some p → p.client.version ≠ client.version)
      (prepares : after.answered = before.answered ++ [(client, columns)])
      (executions : after.sent = before.sent ++ [(client, ⟨client.connection, columns⟩)]) :
      Returned before after client [.move, .move, .prepared (.ok columns), .executed (.ok cells)]
        ⟨columns, cells⟩

/- How many events a query waits for. -/
def due (before : Ledger) (client : Client) : Nat :=
  if (before.shared.cache 0).any fun p => p.client.version == client.version then 2 else 4

theorem dueStale (stale : ∀ p, before.shared.cache 0 = some p → p.client.version ≠ client.version) :
    due before client = 4 := by
  unfold due
  cases cached : before.shared.cache 0 with
  | none => rfl
  | some p => rw [Option.any_some, if_neg (fun live => stale p cached (beq_iff_eq.mp live))]

theorem dueLeast : 2 ≤ due before client := by
  unfold due
  split <;> decide

theorem underwayEnds (underway : Underway before client did l) :
    ∃ c, l.shared.calls[before.shared.calls.length]? = some (0, c) ∧
      ((∃ rows, c.phase = .over (.rows rows) ∧ Returned before l client did rows) ∨
        (did.length < due before client ∧ ∃ e : CallEvent, e.succeeds ∧ c.expects e = true)) := by
  obtain ⟨stage, call, others, one, cached, prepares, executions⟩ := underway
  refine ⟨_, call, ?_⟩
  cases stage with
  | begun => exact .inr ⟨Nat.lt_of_lt_of_le Nat.two_pos dueLeast, .move, trivial, rfl⟩
  | handed found owner =>
    exact .inr ⟨dueLeast, .executed (.ok []), trivial, rfl⟩
  | handedOver found owner =>
    exact .inl ⟨_, rfl, .current found owner (prepares.trans (List.append_nil _)) executions⟩
  | looking stale => exact .inr ⟨dueLeast, .move, trivial, rfl⟩
  | preparing stale =>
    rw [dueStale stale]
    exact .inr ⟨Nat.lt_add_of_pos_right Nat.two_pos, .prepared (.ok []), trivial, rfl⟩
  | prepared stale =>
    rw [dueStale stale]
    exact .inr ⟨Nat.lt_succ_self 3, .executed (.ok []), trivial, rfl⟩
  | preparedOver stale => exact .inl ⟨_, rfl, .renewed stale prepares executions⟩

/- Calls on one statement follow one another; the keeper and the server do what they like between
and during them. The cache moves only when a prepare succeeds. No version has two such prepares. A
query during which the link stays on one client and no request fails returns the server's rows once
it has met the events it waits for, two with a current statement in the cache and four without. -/
theorem callsInTurn {events : List SharedEvent} (turns : (Shared.initial 1).InTurn events) :
    let l := (initial 1).run events
    (∀ e, (l.shared.step e).cache 0 = l.shared.cache 0 ∨
      ∃ i c client columns, e = .call i (.prepared (.ok columns)) ∧
        l.shared.calls[i]? = some (0, c) ∧ c.phase = .preparing client ∧
        (l.shared.step e).cache 0 = some (.on client columns)) ∧
    (∀ more, l.shared.InTurn more → (l.run more).answered = l.answered →
      (l.run more).shared.cache 0 = l.shared.cache 0) ∧
    (l.answered.map fun a => a.1.version).Nodup ∧
    ∀ client more, (∀ c ∈ l.shared.calls, c.2.outcome?.isSome) →
      (∀ statement aim, .start statement aim ∉ more) →
      (∀ n, (l.run (.start 0 .query :: more.take n)).shared.state = .connected client) →
      let position := l.shared.calls.length
      let met := (l.shared.step (.start 0 .query)).allMet position more
      (∀ e ∈ met, e.succeeds) →
      let after := l.run (.start 0 .query :: more)
      ∃ c, after.shared.calls[position]? = some (0, c) ∧
        ((∃ rows, c.phase = .over (.rows rows) ∧ Returned l after client met rows) ∨
          (met.length < due l client ∧ ∃ e : CallEvent, e.succeeds ∧ c.expects e = true)) := by
  intro l
  have sound : l.Sound := runSound (initialSound 1) events
  have ordered : l.Ordered := runOrdered (initialSound 1) initialOrdered turns
  refine ⟨cacheMoves ordered, ?_, versionsOnce ordered, ?_⟩
  · intro more inTurn same
    rw [(runOrdered sound ordered inTurn).cached, ordered.cached, same]
  · intro client more finished quiet live position met ok after
    have state : l.shared.state = .connected client := live 0
    have owner (p) (cached : l.shared.cache 0 = some p)
        (version : p.client.version = client.version) : p.client = client := by
      have known := Shared.holdsKnows (.inl (Shared.cacheMember cached))
      have current : l.shared.state.isCurrent p.client.version = true := by
        rw [state]
        exact beq_iff_eq.mpr version.symm
      have same := currentClient sound known current
      rw [state] at same
      exact (LinkState.connected.inj same).symm
    exact underwayEnds (runUnderway (begun ordered finished) owner live quiet ok)

/- Prepared on the first connection, then queried on the second. -/
def reconnected : List SharedEvent :=
  [.keeper .wake, .keeper (.accepted 7), .start 0 .prepare, .call 0 .move, .call 0 .move,
    .call 0 (.prepared (.ok [⟨"name", 25⟩])), .keeper (.ended false), .keeper .wake,
    .keeper (.accepted 8)]

def queriedAgain : List SharedEvent :=
  [.call 1 .move, .keeper .wake, .call 1 .move, .call 1 (.prepared (.ok [⟨"name", 25⟩])),
    .call 1 (.executed (.ok []))]

theorem renewedAfterReconnect :
    let l := (initial 1).run reconnected
    let after := l.run (.start 0 .query :: queriedAgain)
    (Shared.initial 1).InTurn reconnected ∧
    l.shared.cache 0 = some (.on ⟨1, 7⟩ [⟨"name", 25⟩]) ∧
    ∃ c, after.shared.calls[1]? = some (0, c) ∧ ∃ rows, c.phase = .over (.rows rows) ∧
      Returned l after ⟨2, 8⟩ ((l.shared.step (.start 0 .query)).allMet 1 queriedAgain) rows := by
  intro l after
  have turns : (Shared.initial 1).InTurn reconnected := by decide
  have live (n : Nat) : (((initial 1).run reconnected).run
      (.start 0 .query :: queriedAgain.take n)).shared.state = .connected ⟨2, 8⟩ := by
    have each : ∀ k < 5, (((initial 1).run reconnected).run
        (.start 0 .query :: queriedAgain.take k)).shared.state = .connected ⟨2, 8⟩ := by decide
    rcases Nat.lt_or_ge n 5 with early | late
    · exact each n early
    · rw [List.take_of_length_le late]
      rfl
  have quiet statement aim : .start statement aim ∉ queriedAgain := by
    simp [queriedAgain]
  have met : (l.shared.step (.start 0 .query)).allMet 1 queriedAgain =
      [.move, .move, .prepared (.ok [⟨"name", 25⟩]), .executed (.ok [])] := rfl
  have ok : ∀ e ∈ (l.shared.step (.start 0 .query)).allMet 1 queriedAgain, e.succeeds := by
    rw [met]
    simp [CallEvent.succeeds]
  obtain ⟨c, place, returned | ⟨early, _⟩⟩ :=
    (callsInTurn turns).2.2.2 ⟨2, 8⟩ queriedAgain (by decide) quiet live ok
  · exact ⟨turns, rfl, c, place, returned⟩
  · exact absurd early (by decide)

end Ledger
end TagListing.Database
