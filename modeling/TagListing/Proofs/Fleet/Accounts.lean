import TagListing.Fleet.Execute

/-! The launcher's account of its threads, in every order of events. The number it counts down is
that of the spawned threads whose report it has not received, so its channel stays open as long as
it waits, and it ends only when all have left and reported. Which servers start is a parameter. What
a thread does between its messages is not claimed, nor what becomes of one that never reports. -/
namespace TagListing.Fleet

namespace Launcher

/-! ### Received messages -/

def next? (l : Launcher) : Option Message :=
  if (l.waiting ≠ 0 ∨ l.result.isSome) ∨ l.running = 0 then none else l.queue.head?

def taken (l : Launcher) : LauncherEvent → List Message
  | .receive => l.next?.toList
  | _ => []

def received (starts : Nat → Bool) (l : Launcher) : List LauncherEvent → List Message
  | [] => []
  | e :: rest => l.taken e ++ received starts (l.step starts e) rest

/- The spawned threads whose report is not among the received messages. -/
def owing (l : Launcher) (got : List Message) : List Nat :=
  (List.range l.threads.length).filter fun i => .stopped i ∉ got

/-! ### What an event can do -/

inductive Effect (starts : Nat → Bool) (l : Launcher) :
    LauncherEvent → Launcher → List Message → Prop where
  | idle (e) : Effect starts l e l []
  | spawn (more : l.waiting ≠ 0) :
      Effect starts l .spawn { l with
        waiting := l.waiting - 1
        threads := l.threads ++ [.checking]
        running := l.running + 1 } []
  | start {i} (may : starts i) (now : l.threads[i]? = some .checking) :
      Effect starts l (.start i) ((l.setThread i .serving).send (.started i)) []
  | ask {i} (now : l.threads[i]? = some .serving) :
      Effect starts l (.askShutdown i) (l.send .shutdown) []
  | leave {i} (now : l.threads[i]? = some .serving ∨
        (starts i = false ∧ l.threads[i]? = some .checking)) :
      Effect starts l (.leave i) (l.setThread i .left) []
  | report {i} (now : l.threads[i]? = some .left) :
      Effect starts l (.report i) ((l.setThread i .reported).send (.stopped i)) []
  | finish (all : l.waiting = 0) (spent : l.running = 0) :
      Effect starts l .receive { l with result := some (.ok ()) } []
  | take {m rest} (going : l.result = none) (more : l.running ≠ 0) (front : l.queue = m :: rest) :
      Effect starts l .receive ({ l with queue := rest }.handle m) [m]
  | close (more : l.running ≠ 0) (empty : l.queue = []) (closed : l.isOpen = false) :
      Effect starts l .receive { l with result := some (.error .channelClosed) } []

theorem receiveEffect (starts : Nat → Bool) (l : Launcher) :
    Effect starts l .receive l.receive l.next?.toList := by
  unfold receive next?
  by_cases early : l.waiting ≠ 0 ∨ l.result.isSome
  · rw [if_pos early, if_pos (.inl early)]
    exact .idle .receive
  obtain ⟨all, going⟩ := not_or.mp early
  rw [if_neg early]
  by_cases spent : l.running = 0
  · rw [if_pos spent, if_pos (.inr spent)]
    exact .finish (Decidable.not_not.mp all) spent
  rw [if_neg spent, if_neg (not_or.mpr ⟨early, spent⟩)]
  cases front : l.queue with
  | cons m rest => exact .take (Option.not_isSome_iff_eq_none.mp going) spent front
  | nil =>
    cases closed : l.isOpen with
    | true => exact .idle .receive
    | false =>
      have closing : Effect starts l .receive _ _ := .close spent front closed
      rw [front] at closing
      exact closing

theorem stepEffect (starts : Nat → Bool) (l : Launcher) (e : LauncherEvent) :
    Effect starts l e (l.step starts e) (l.taken e) := by
  cases e <;> simp only [step, taken]
  case receive => exact receiveEffect starts l
  all_goals split
  case spawn.isFalse more => exact .spawn more
  case start.isTrue i may => exact .start may.1 may.2
  case askShutdown.isTrue i serving => exact .ask serving
  case leave.isTrue i may => exact .leave (by simpa using may)
  case report.isTrue i left => exact .report left
  all_goals exact .idle _

theorem handleKeeps (l : Launcher) (m : Message) : (l.handle m).waiting = l.waiting ∧
    (l.handle m).threads = l.threads ∧ (l.handle m).queue = l.queue ∧
    (l.handle m).result = l.result := by
  cases m with
  | started i =>
    by_cases shut : l.shuttingDown <;> simp [handle, shut]
  | shutdown => exact ⟨rfl, rfl, rfl, rfl⟩
  | stopped i => exact ⟨rfl, rfl, rfl, rfl⟩

theorem settled {starts : Nat → Bool} {l : Launcher} (ended : l.result.isSome) (turns : Nat) :
    l.run starts (List.replicate turns .receive) = l := by
  induction turns with
  | zero => rfl
  | succ turns ih =>
    have same : l.receive = l := by rw [receive, if_pos (.inr ended)]
    change run starts l.receive _ = l
    rw [same, ih]

/-! ### The account -/

/- A launcher of so many servers that has received these messages. -/
structure Accounted (servers : Nat) (l : Launcher) (got : List Message) : Prop where
  spawned : l.threads.length + l.waiting = servers
  running : l.running = (l.owing got).length
  /- A report has been sent if and only if its thread is past it, and then once. -/
  reports : ∀ i, (got ++ l.queue).count (.stopped i) =
    if l.threads[i]? = some .reported then 1 else 0
  ends : ∀ r, l.result = some r → r = .ok () ∧ l.waiting = 0 ∧ l.running = 0

variable {starts : Nat → Bool} {servers : Nat} {l : Launcher} {got : List Message}

theorem memOwing {i : Nat} : i ∈ l.owing got ↔ i < l.threads.length ∧ .stopped i ∉ got := by
  simp [owing]

theorem owingOther {m : Message} (other : ∀ i, m ≠ .stopped i) :
    l.owing (got ++ [m]) = l.owing got := by
  refine List.filter_congr fun i _ => ?_
  simp [Ne.symm (other i)]

theorem owingPaid {i : Nat} : l.owing (got ++ [.stopped i]) = (l.owing got).erase i := by
  have distinct : (l.owing got).Nodup := List.nodup_range.filter _
  rw [List.Nodup.erase_eq_filter distinct i, owing, owing, List.filter_filter]
  refine List.filter_congr fun j _ => ?_
  by_cases this : j = i <;> simp [this]

namespace Accounted

theorem initial (servers : Nat) : Accounted servers (initial servers) [] :=
  ⟨Nat.zero_add servers, rfl, fun _ => rfl, nofun⟩

theorem isOpen (h : Accounted servers l got) (more : l.running ≠ 0) (empty : l.queue = []) :
    l.isOpen = true := by
  obtain ⟨i, owes⟩ := List.exists_mem_of_length_pos (Nat.pos_of_ne_zero (h.running ▸ more))
  obtain ⟨bound, unpaid⟩ := memOwing.mp owes
  have sent := h.reports i
  rw [empty, List.append_nil, List.count_eq_zero_of_not_mem unpaid] at sent
  refine List.any_eq_true.mpr ⟨l.threads[i], List.getElem_mem bound, ?_⟩
  rw [bne_iff_ne]
  intro reported
  rw [if_pos (by rw [List.getElem?_eq_getElem bound, reported])] at sent
  contradiction

theorem sent (h : Accounted servers l got) {m : Message} (other : ∀ i, m ≠ .stopped i) :
    Accounted servers (l.send m) got := by
  refine ⟨h.spawned, h.running, fun i => ?_, h.ends⟩
  have absent : .stopped i ∉ [m] := fun last => other i (List.mem_singleton.mp last).symm
  rw [send, ← List.append_assoc, List.count_append, List.count_eq_zero_of_not_mem absent]
  exact h.reports i

theorem spawn (h : Accounted servers l got) (more : l.waiting ≠ 0) :
    Accounted servers { l with
      waiting := l.waiting - 1
      threads := l.threads ++ [.checking]
      running := l.running + 1 } got := by
  have fresh : .stopped l.threads.length ∉ got ++ l.queue := by
    refine List.count_eq_zero.mp ((h.reports _).trans (if_neg ?_))
    rw [List.getElem?_eq_none (Nat.le_refl _)]
    nofun
  refine ⟨?_, ?_, fun i => ?_, fun r done => absurd (h.ends r done).2.1 more⟩
  · have total := h.spawned
    simp only [List.length_append, List.length_singleton]
    omega
  · have unpaid : .stopped l.threads.length ∉ got := fun paid => fresh (List.mem_append_left _ paid)
    have one : ((List.range (l.threads ++ [Thread.checking]).length).filter
        fun i => .stopped i ∉ got) = l.owing got ++ [l.threads.length] := by
      simp [owing, List.range_succ, unpaid]
    rw [owing, one, List.length_append, ← h.running]
    rfl
  · rw [h.reports i]
    by_cases known : i < l.threads.length
    · rw [List.getElem?_append_left known]
    · have late : l.threads.length ≤ i := Nat.le_of_not_lt known
      rw [List.getElem?_eq_none late, List.getElem?_append_right late]
      cases i - l.threads.length <;> rfl

theorem moved (h : Accounted servers l got) {i : Nat} {was now : Thread}
    (current : l.threads[i]? = some was) (before : was ≠ .reported) (after : now ≠ .reported) :
    Accounted servers (l.setThread i now) got := by
  have same : (l.setThread i now).threads.length = l.threads.length := List.length_set
  refine ⟨same ▸ h.spawned, ?_, fun j => (h.reports j).trans ?_, h.ends⟩
  · rw [owing, same]
    exact h.running
  · rw [setThread]
    by_cases this : i = j
    · subst this
      obtain ⟨bound, _⟩ := List.getElem?_eq_some_iff.mp current
      rw [current, List.getElem?_set_self bound, if_neg (by simpa using before),
        if_neg (by simpa using after)]
    · rw [List.getElem?_set_ne this]

theorem report (h : Accounted servers l got) {i : Nat} (current : l.threads[i]? = some .left) :
    Accounted servers ((l.setThread i .reported).send (.stopped i)) got := by
  have same : (l.setThread i .reported).threads.length = l.threads.length := List.length_set
  obtain ⟨bound, _⟩ := List.getElem?_eq_some_iff.mp current
  refine ⟨same ▸ h.spawned, ?_, fun j => ?_, h.ends⟩
  · rw [owing, send, same]
    exact h.running
  · have before := h.reports j
    rw [send, setThread, ← List.append_assoc, List.count_append]
    by_cases this : i = j
    · subst this
      rw [current, if_neg (by decide)] at before
      rw [before, List.getElem?_set_self bound]
      simp
    · have absent : Message.stopped j ∉ [.stopped i] := fun last =>
        this (Message.stopped.inj (List.mem_singleton.mp last)).symm
      rw [before, List.getElem?_set_ne this, List.count_eq_zero_of_not_mem absent, Nat.add_zero]

/- A report that is still to be taken is the first of its thread. -/
theorem unpaid (h : Accounted servers l got) {i : Nat} {rest : List Message}
    (front : l.queue = .stopped i :: rest) : i < l.threads.length ∧ .stopped i ∉ got := by
  have once := h.reports i
  rw [front, List.count_append, List.count_cons_self] at once
  split at once
  · rename_i reported
    exact ⟨(List.getElem?_eq_some_iff.mp reported).1, List.count_eq_zero.mp (by omega)⟩
  · contradiction

theorem take (h : Accounted servers l got) (going : l.result = none) {m : Message}
    {rest : List Message} (front : l.queue = m :: rest) :
    Accounted servers ({ l with queue := rest }.handle m) (got ++ [m]) := by
  obtain ⟨waiting, threads, queue, result⟩ := handleKeeps { l with queue := rest } m
  refine ⟨?_, ?_, fun i => ?_, fun r done => ?_⟩
  · rw [waiting, threads]
    exact h.spawned
  · have left : (handle { l with queue := rest } m).owing (got ++ [m]) = l.owing (got ++ [m]) := by
      rw [owing, threads, owing]
    rw [left]
    cases m with
    | stopped i =>
      obtain ⟨bound, unpaid⟩ := h.unpaid front
      rw [owingPaid, List.length_erase_of_mem (memOwing.mpr ⟨bound, unpaid⟩), ← h.running]
      rfl
    | started i =>
      rw [owingOther (m := .started i) (fun _ => nofun), ← h.running]
      by_cases shut : l.shuttingDown <;> simp [handle, shut]
    | shutdown =>
      rw [owingOther (m := .shutdown) (fun _ => nofun), ← h.running]
      rfl
  · rw [queue, threads, List.append_assoc, List.singleton_append, ← front]
    exact h.reports i
  · rw [result, going] at done
    contradiction

theorem effect (h : Accounted servers l got) {e : LauncherEvent} {after : Launcher}
    {more : List Message} (done : Effect starts l e after more) :
    Accounted servers after (got ++ more) := by
  cases done with
  | take going more front => exact h.take going front
  | _ => ?_
  all_goals rw [List.append_nil]
  case idle => exact h
  case spawn more => exact h.spawn more
  case start i may now => exact (h.moved now (by decide) (by decide)).sent (fun _ => nofun)
  case ask i now => exact h.sent (fun _ => nofun)
  case leave i now =>
    rcases now with now | ⟨_, now⟩ <;> exact h.moved now (by decide) (by decide)
  case report i now => exact h.report now
  case finish all spent =>
    exact ⟨h.spawned, h.running, h.reports, fun r done => ⟨(Option.some.inj done).symm, all, spent⟩⟩
  case close more empty closed =>
    rw [h.isOpen more empty] at closed
    contradiction

theorem run (h : Accounted servers l got) (starts : Nat → Bool) (events : List LauncherEvent) :
    Accounted servers (l.run starts events) (got ++ received starts l events) := by
  induction events generalizing l got with
  | nil => exact (List.append_nil got).symm ▸ h
  | cons e rest ih =>
    rw [received, ← List.append_assoc]
    exact ih (h.effect (stepEffect starts l e))

/- Once its threads have all reported, a launcher that goes on receiving comes to its end. -/
theorem drained (h : Accounted servers l got) (all : l.waiting = 0)
    (reported : l.isOpen = false) {turns : Nat} (enough : l.queue.length < turns) :
    (l.run starts (List.replicate turns .receive)).result = some (.ok ()) := by
  induction turns generalizing l got with
  | zero => contradiction
  | succ turns ih =>
    cases done : l.result with
    | some r => rw [settled (by rw [done]; rfl), done, (h.ends r done).1]
    | none =>
      have turn : ¬ (l.waiting ≠ 0 ∨ l.result.isSome) := by simp [all, done]
      by_cases spent : l.running = 0
      · have last : l.receive = { l with result := some (.ok ()) } := by
          rw [receive, if_neg turn, if_pos spent]
        have ended : l.receive.result.isSome := by rw [last]; rfl
        change (Launcher.run starts l.receive _).result = _
        rw [settled ended, last]
      · cases front : l.queue with
        | nil => rw [h.isOpen spent front] at reported; contradiction
        | cons m rest =>
          have next : l.receive = { l with queue := rest }.handle m := by
            rw [receive, if_neg turn, if_neg spent, front]
          obtain ⟨waiting, threads, queue, _⟩ := handleKeeps { l with queue := rest } m
          change (Launcher.run starts l.receive _).result = _
          rw [next]
          refine ih (h.take done front) (waiting.trans all) ?_ ?_
          · rw [Launcher.isOpen, threads]
            exact reported
          · rw [queue]
            rw [front, List.length_cons] at enough
            exact Nat.lt_of_succ_lt_succ enough

end Accounted

/-! ### The order in which every server comes to its end -/

theorem runAppend (first second : List LauncherEvent) :
    l.run starts (first ++ second) = (l.run starts first).run starts second := List.foldl_append

theorem spawnAll {n k : Nat} (room : k ≤ n) :
    (initial n).run starts (List.replicate k .spawn) =
      ⟨n - k, List.replicate k .checking, [], k, [], false, none⟩ := by
  induction k with
  | zero => rfl
  | succ k ih =>
    have more : n - k ≠ 0 := Nat.sub_ne_zero_of_lt room
    rw [List.replicate_succ', runAppend, ih (Nat.le_of_succ_le room), List.replicate_succ']
    simp [run, step, more, Nat.sub_sub]

theorem oneServer (starts : Nat → Bool) {i : Nat} (fresh : l.threads[i]? = some .checking) :
    let after := l.run starts [.start i, .leave i, .report i]
    after.waiting = l.waiting ∧ after.threads = l.threads.set i .reported ∧
      after.queue.length ≤ l.queue.length + 2 := by
  obtain ⟨bound, now⟩ := List.getElem?_eq_some_iff.mp fresh
  cases may : starts i <;> simp [run, step, setThread, send, may, now, bound]

/- So many of the servers have come to their end, the others have only been spawned. -/
structure Part (servers done : Nat) (l : Launcher) : Prop where
  all : l.waiting = 0
  threads : l.threads = List.replicate done .reported ++ List.replicate (servers - done) .checking
  few : l.queue.length ≤ 2 * done

theorem Part.next {done : Nat} (part : Part servers done l) (more : done < servers) :
    Part servers (done + 1) (l.run starts [.start done, .leave done, .report done]) := by
  obtain ⟨left, rest⟩ : ∃ left, servers - done = left + 1 :=
    Nat.exists_eq_add_one_of_ne_zero (Nat.sub_ne_zero_of_lt more)
  have fresh : l.threads[done]? = some .checking := by
    rw [part.threads, rest, List.getElem?_append_right (by simp)]
    simp
  obtain ⟨waiting, threads, queue⟩ := oneServer starts fresh
  refine ⟨waiting.trans part.all, ?_, ?_⟩
  · have remaining : servers - (done + 1) = left := by omega
    have longer : List.replicate (done + 1) Thread.reported =
        List.replicate done .reported ++ [.reported] := List.replicate_succ'
    rw [threads, part.threads, remaining, rest, longer, List.set_append_right _ _ (by simp)]
    simp [List.replicate_succ]
  · have few := part.few
    omega

theorem Part.allOf (starts : Nat → Bool) {done : Nat} (part : Part servers 0 l)
    (room : done ≤ servers) :
    Part servers done (l.run starts
      ((List.range done).flatMap fun i => [.start i, .leave i, .report i])) := by
  induction done with
  | zero => exact part
  | succ done ih =>
    rw [List.range_succ, List.flatMap_append, runAppend]
    exact (ih (Nat.le_of_succ_le room)).next room

theorem plainOrderEnds (starts : Nat → Bool) (servers : Nat) :
    ((initial servers).run starts (plainOrder servers)).result = some (.ok ()) := by
  have spawned : Part servers 0 ((initial servers).run starts (List.replicate servers .spawn)) := by
    rw [spawnAll (Nat.le_refl servers)]
    exact ⟨Nat.sub_self servers, rfl, Nat.le_refl 0⟩
  have ended := spawned.allOf starts (Nat.le_refl servers)
  have first := (Accounted.initial servers).run starts (List.replicate servers .spawn)
  have account := first.run starts
    ((List.range servers).flatMap fun i => [.start i, .leave i, .report i])
  rw [plainOrder, runAppend, runAppend]
  refine account.drained ended.all ?_ (Nat.lt_succ_of_le ended.few)
  rw [isOpen, ended.threads, Nat.sub_self, List.replicate_zero, List.append_nil]
  simp

/-! ### Every order of events -/

/- What holds of a launcher of so many servers that has received these messages. -/
structure Balanced (servers : Nat) (l : Launcher) (got : List Message) : Prop where
  /- It counts the spawned threads whose report has not been received. -/
  running : l.running = (l.owing got).length
  countdown : ∀ i, l.next? = some (.stopped i) → l.receive.running + 1 = l.running
  /- A thread that has not sent its report holds its end of the channel. -/
  holds : ∀ i < l.threads.length, .stopped i ∉ got ++ l.queue → l.threads[i]? ≠ some .reported
  opened : l.running ≠ 0 → l.queue = [] → l.isOpen = true
  result : ∀ r, l.result = some r → r = .ok ()
  ended : l.result = some (.ok ()) →
    l.threads = List.replicate servers .reported ∧ ∀ i < servers, got.count (.stopped i) = 1

theorem Accounted.paid (h : Accounted servers l got) (spent : l.running = 0) {i : Nat}
    (bound : i < l.threads.length) :
    l.threads[i]? = some .reported ∧ got.count (.stopped i) = 1 := by
  have none : l.owing got = [] := List.eq_nil_of_length_eq_zero (h.running.symm.trans spent)
  have paid : .stopped i ∈ got := by
    refine Decidable.not_not.mp fun unpaid => ?_
    have owes := memOwing.mpr ⟨bound, unpaid⟩
    rw [none] at owes
    contradiction
  have some := List.count_pos_iff.mpr paid
  have sent := h.reports i
  rw [List.count_append] at sent
  split at sent
  · rename_i reported
    exact ⟨reported, by omega⟩
  · omega

theorem Accounted.balanced (h : Accounted servers l got) : Balanced servers l got := by
  refine ⟨h.running, fun i front => ?_, fun i _ unsent reported => ?_, fun more => h.isOpen more,
    fun r done => (h.ends r done).1, fun done => ?_⟩
  · unfold next? at front
    split at front
    · contradiction
    · rename_i turn
      obtain ⟨early, more⟩ := not_or.mp turn
      obtain ⟨rest, queue⟩ := List.head?_eq_some_iff.mp front
      rw [receive, if_neg early, if_neg more, queue]
      exact Nat.succ_pred more
  · have sent := h.reports i
    rw [List.count_eq_zero_of_not_mem unsent, if_pos reported] at sent
    contradiction
  · obtain ⟨_, all, spent⟩ := h.ends _ done
    have total : l.threads.length = servers := by rw [← h.spawned, all, Nat.add_zero]
    refine ⟨List.eq_replicate_iff.mpr ⟨total, fun t member => ?_⟩,
      fun i bound => (h.paid spent (total ▸ bound)).2⟩
    obtain ⟨i, bound, rfl⟩ := List.getElem_of_mem member
    exact (List.getElem?_eq_some_iff.mp (h.paid spent bound).1).2

end Launcher

/- A launch follows one order of events. Any other one in which the launcher comes to its end has
the same result. -/
theorem launchSettled {m : Machine} {s : Settings} {names : List String}
    {events : List LauncherEvent} {result : Except Failure Unit}
    (ended : ((Launcher.initial names.length).run (startsAt m s names) events).result =
      some result) : launch m s names = result := by
  have account := (Launcher.Accounted.initial names.length).run (startsAt m s names) events
  rw [(account.ends result ended).1]
  simp only [launch, Launcher.plainOrderEnds, Option.getD_some]

theorem executeSettled {m : Machine} {s : Settings} {names : List String}
    (listed : serverNames s = .ok names) {events : List LauncherEvent}
    {result : Except Failure Unit}
    (ended : ((Launcher.initial names.length).run (startsAt m s names) events).result =
      some result) : execute m s = (result, names.map (report m s)) := by
  rw [execute, listed]
  simp only [launchSettled ended]

theorem fleetBalanced (m : Machine) (s : Settings) :
    match s.getTexts serversKey with
    | .error f => execute m s = (.error (.settings f), [])
    | .ok none => execute m s = (.error (.other .missingServers), [])
    | .ok (some names) =>
      execute m s = (.ok (), names.map (report m s)) ∧
      ∀ (starts : Nat → Bool) (events : List LauncherEvent),
        Launcher.Balanced names.length ((Launcher.initial names.length).run starts events)
          (Launcher.received starts (Launcher.initial names.length) events) := by
  split
  · rename_i f unreadable
    rw [execute, serverNames, unreadable]
  · rename_i missing
    rw [execute, serverNames, missing]
  · rename_i names listed
    refine ⟨?_, fun starts events => ?_⟩
    · exact executeSettled (by rw [serverNames, listed])
        (Launcher.plainOrderEnds _ names.length)
    · exact ((Launcher.Accounted.initial names.length).run starts events).balanced

end TagListing.Fleet
