import TagListing.Fleet.Address
import TagListing.Proofs.Fleet.Company

/-! What becomes of a server beside others. It fails as its first check that fails and starts if none
does; other servers count only where they hold its address, so that with distinct addresses each one
fares as it would alone, and the launcher too. Which addresses clash is a parameter. -/
namespace TagListing.Fleet
open Settings (Tree)

/- Addresses that do not clash do not hinder one another. -/
def Site.Keeps (site : Site) (clash : String → String → Prop) : Prop :=
  ∀ held address, (∀ other ∈ held, ¬ clash address other) → site.bind held address = site.bind [] address

/- No two servers of a list ask for addresses that clash. -/
def Distinct (clash : String → String → Prop) (s : Settings) (names : List String) : Prop :=
  ∀ (i j : Nat) (name other address address' : String), i ≠ j →
    names[i]? = some name → names[j]? = some other →
    readListen s name = .ok address → readListen s other = .ok address' → ¬ clash address address'

namespace Company

variable {site : Site} {s : Settings} {names : List String} {c : Company}

/-! ### Outcomes -/

/- A server that has failed, or has passed all of its checks. -/
def outcome? (s : Settings) (names : List String) (c : Company) (i : Nat) : Option (Option Failure) :=
  match c.failed i with
  | some f => some (some f)
  | none => if c.ready s names i then some none else none

theorem Trail.settled {i passed : Nat} {name : String} {failed : Option Failure}
    (trail : Trail site s names i name passed failed)
    (ended : failed.isSome ∨ passed = (checks s name).length) :
    ∃ others, Others s names i others ∧ firstFailure (site.beside others) s name = failed := by
  obtain ⟨others, apart, passes, fails⟩ := trail.beside
  refine ⟨others, apart, ?_⟩
  cases failed with
  | some f =>
    obtain ⟨check, here, failure⟩ := fails f rfl
    obtain ⟨short, here⟩ := List.getElem?_eq_some_iff.mp here
    refine List.findSome?_eq_some_iff.mpr ⟨_, check, (checks s name).drop (passed + 1), ?_, failure,
      passes⟩
    rw [← here, ← List.drop_eq_getElem_cons short, List.take_append_drop]
  | none =>
    have all : passed = (checks s name).length := ended.resolve_left nofun
    rw [all, List.take_length] at passes
    exact List.findSome?_eq_none_iff.mpr passes

theorem outcomeBeside (sound : Sound site s names c) {i : Nat} {name : String}
    (named : names[i]? = some name) {o : Option Failure} (settled : c.outcome? s names i = some o) :
    ∃ others, Others s names i others ∧ firstFailure (site.beside others) s name = o := by
  have trail := sound.trail i name named
  unfold outcome? at settled
  split at settled
  · rename_i f fails
    cases settled
    rw [fails] at trail
    exact trail.settled (.inl rfl)
  · rename_i going
    split at settled
    · rename_i ready
      cases settled
      obtain ⟨name', named', all⟩ := readyExact.mp ready
      cases Option.some.inj (named.symm.trans named')
      rw [going] at trail
      exact trail.settled (.inr all)
    · contradiction

theorem readyOutcome (sound : Sound site s names c) {i : Nat} (ready : c.ready s names i = true) :
    c.outcome? s names i = some none := by
  obtain ⟨name, named, all⟩ := readyExact.mp ready
  obtain ⟨others, _, _, fails⟩ := (sound.trail i name named).beside
  unfold outcome?
  split
  · rename_i f failed
    obtain ⟨check, here, _⟩ := fails f failed
    obtain ⟨short, _⟩ := List.getElem?_eq_some_iff.mp here
    exact absurd all (Nat.ne_of_lt short)
  · rw [if_pos ready]

/-! ### Distinct addresses -/

theorem planListens {m : Machine} {server : String} {plan : Plan}
    (reads : readPlan m s server = .ok plan) : readListen s server = .ok plan.listen := by
  unfold readPlan at reads
  cases sizes : readSizes m s server with
  | error f => rw [sizes] at reads; contradiction
  | ok sizes' =>
  cases backlog : readBacklog s server with
  | error f => simp only [sizes, backlog, Bind.bind, Except.bind] at reads; contradiction
  | ok backlog' =>
  cases listen : readListen s server with
  | error f => simp only [sizes, backlog, listen, Bind.bind, Except.bind] at reads; contradiction
  | ok address =>
    simp only [sizes, backlog, listen, Bind.bind, Except.bind] at reads
    cases Except.ok.inj reads
    rfl

theorem besideAlone {clash : String → String → Prop} (keeps : site.Keeps clash)
    (distinct : Distinct clash s names) {i : Nat} {name : String} (named : names[i]? = some name)
    {others : List String} (apart : Others s names i others) :
    startServer (site.beside others) s name = startServer site.alone s name := by
  have same : readPlan (site.beside others) s name = readPlan site.alone s name := rfl
  rw [startServer, startServer, same]
  cases reads : readPlan site.alone s name with
  | error f => rfl
  | ok plan =>
    have listen := planListens reads
    have free : site.bind others plan.listen = site.bind [] plan.listen := by
      refine keeps others plan.listen fun other member => ?_
      obtain ⟨j, name', else', named', listen'⟩ := apart other member
      exact distinct i j name name' plan.listen other (Ne.symm else') named named' listen listen'
    simp only [Site.alone, Site.beside, Bind.bind, Except.bind, free]

theorem outcomeAlone {clash : String → String → Prop} (keeps : site.Keeps clash)
    (distinct : Distinct clash s names) (sound : Sound site s names c) {i : Nat} {name : String}
    (named : names[i]? = some name) {o : Option Failure} (settled : c.outcome? s names i = some o) :
    failure? (startServer site.alone s name) = o := by
  obtain ⟨others, apart, first⟩ := outcomeBeside sound named settled
  rw [← besideAlone keeps distinct named apart, firstFails, first]

/- The launcher cannot tell a company from servers of which it is settled beforehand who starts. -/
theorem stepLaunched (site : Site) {starts : Nat → Bool}
    (may : ∀ i, c.ready s names i = true → starts i = true)
    (mayNot : ∀ i, (c.failed i).isSome → starts i = false) (e : CompanyEvent) :
    (c.step site s names e).launcher = c.launcher ∨
      ∃ e', (c.step site s names e).launcher = c.launcher.step starts e' := by
  cases e with
  | check i => exact .inl (checkLauncher site s names c i).1
  | launcher e =>
    cases e with
    | start i =>
      have told : (c.step site s names (.launcher (.start i))).launcher =
          c.launcher.step (c.ready s names) (.start i) := rfl
      rw [told]
      cases ready : c.ready s names i with
      | true => exact .inr ⟨.start i, by simp only [Launcher.step, ready, may i ready]⟩
      | false => exact .inl (by simp [Launcher.step, ready])
    | leave i =>
      rw [step]
      split
      · rename_i leaves
        refine .inr ⟨.leave i, ?_⟩
        rcases of_decide_eq_true leaves with serving | ⟨checking, failed⟩
        · simp only [tell, Launcher.step, serving, true_or, if_true]
        · have never := mayNot i failed
          have unready : c.ready s names i = false := by
            refine Bool.eq_false_iff.mpr fun ready => ?_
            rw [may i ready] at never
            contradiction
          simp only [tell, Launcher.step, unready, never]
      · exact .inl rfl
    | spawn => exact .inr ⟨.spawn, rfl⟩
    | askShutdown i => exact .inr ⟨.askShutdown i, rfl⟩
    | report i => exact .inr ⟨.report i, rfl⟩
    | receive => exact .inr ⟨.receive, rfl⟩

theorem startsExact {m : Machine} {i : Nat} {name : String} (named : names[i]? = some name) :
    startsAt m s names i = (failure? (startServer m s name)).isNone := by
  simp only [startsAt, named]
  cases startServer m s name <;> rfl

/- The launcher sees what it would see of servers that start as they do alone. -/
theorem launcherAlone {clash : String → String → Prop} (keeps : site.Keeps clash)
    (distinct : Distinct clash s names) (events : List CompanyEvent) :
    ∃ launched, (run site s names events).launcher =
      (Launcher.initial names.length).run (startsAt site.alone s names) launched := by
  induction events using List.reverseRecOn with
  | nil => exact ⟨[], rfl⟩
  | append_singleton events e ih =>
    have sound := runSound site s names events
    have next : run site s names (events ++ [e]) = (run site s names events).step site s names e :=
      List.foldl_append
    rw [next]
    generalize run site s names events = c at *
    obtain ⟨launched, same⟩ := ih
    have may (i : Nat) (ready : c.ready s names i = true) :
        startsAt site.alone s names i = true := by
      obtain ⟨name, named, _⟩ := readyExact.mp ready
      rw [startsExact named, outcomeAlone keeps distinct sound named (readyOutcome sound ready)]
      rfl
    have mayNot (i : Nat) (failed : (c.failed i).isSome) :
        startsAt site.alone s names i = false := by
      obtain ⟨f, failed⟩ := Option.isSome_iff_exists.mp failed
      have settled : c.outcome? s names i = some (some f) := by rw [outcome?, failed]
      cases named : names[i]? with
      | none => rw [startsAt, named]
      | some name =>
        rw [startsExact named, outcomeAlone keeps distinct sound named settled]
        rfl
    rcases stepLaunched site may mayNot e with kept | ⟨e', stepped⟩
    · exact ⟨launched, kept.trans same⟩
    · refine ⟨launched ++ [e'], ?_⟩
      rw [stepped, same, Launcher.runAppend]
      rfl

/-! ### Turns -/

theorem checkOnce {i : Nat} {name : String} (named : names[i]? = some name)
    (spawned : c.launcher.threads[i]? = some .checking) :
    ((c.check site s names i).failed i).isSome ∨
      (checks s name).length ≤ (c.check site s names i).passed i ∨
      (c.check site s names i).passed i = c.passed i + 1 := by
  rw [check]
  cases failed : c.failed i with
  | some f =>
    rw [if_neg (by simp)]
    exact .inl (by rw [failed]; rfl)
  | none =>
    rw [if_pos ⟨spawned, rfl⟩]
    cases here : (checks s name)[c.passed i]? with
    | none =>
      have next : c.next? s names i = none := by simp [next?, named, here]
      rw [next]
      exact .inr (.inl (List.getElem?_eq_none_iff.mp here))
    | some one =>
      have next : c.next? s names i = some (name, one) := by simp [next?, named, here]
      rw [next]
      dsimp only [turn]
      split
      · rename_i f fails
        exact .inl (congrArg Option.isSome (Function.update_self i (some f) c.failed))
      · exact .inr (.inr (Function.update_self _ _ _))

theorem settles (sound : Sound site s names c) {i : Nat} {name : String}
    (named : names[i]? = some name) (spawned : c.launcher.threads[i]? = some .checking)
    {turns : Nat}
    (enough : (c.failed i).isSome ∨ (checks s name).length ≤ c.passed i + turns) :
    ∃ o, ((List.replicate turns (.check i)).foldl (step site s names) c).outcome? s names i =
      some o := by
  induction turns generalizing c with
  | zero =>
    rcases enough with failed | all
    · obtain ⟨f, failed⟩ := Option.isSome_iff_exists.mp failed
      exact ⟨some f, by simp [outcome?, failed]⟩
    · have passed := Nat.le_antisymm (sound.trail i name named).short all
      exact ⟨none, readyOutcome sound (readyExact.mpr ⟨name, named, passed⟩)⟩
  | succ turns ih =>
    refine ih (sound.step (.check i)) ?_ ?_
    · exact (congrArg (·.threads[i]?) (checkLauncher site s names c i).1).trans spawned
    · rcases enough with failed | long
      · refine .inl ?_
        have idle : c.step site s names (.check i) = c := by
          rw [step, check, if_neg fun may => by simp [Option.isNone_iff_eq_none.mp may.2] at failed]
        rw [idle]
        exact failed
      · rcases checkOnce named spawned with failed | all | one
        · exact .inl failed
        · exact .inr (Nat.le_add_right_of_le all)
        · refine .inr ?_
          have passed : (c.step site s names (.check i)).passed i = c.passed i + 1 := one
          rw [passed]
          omega

/-! ### How a server fares -/

structure Fares (site : Site) (s : Settings) (names : List String) (i : Nat) (server : String)
    (c : Company) : Prop where
  orders : c.sent.filter (about i) ∈ [[], [.started i], [.stopped i], [.started i, .stopped i]]
  started : .started i ∈ c.sent → c.outcome? s names i = some none
  outcome : ∀ o, c.outcome? s names i = some o →
    ∃ others, Others s names i others ∧ firstFailure (site.beside others) s server = o
  asked : ∀ address, (i, address) ∈ c.asked → ∃ others, Others s names i others ∧
    ∀ check ∈ checks s server, check ≠ .bind → check.failure (site.beside others) s server = none
  held : ∀ address, (i, address) ∈ c.held →
    readListen s server = .ok address ∧ c.outcome? s names i = some none
  settles : c.launcher.threads[i]? = some .checking → ∀ turns, (checks s server).length ≤ turns →
    ∃ o, ((List.replicate turns (.check i)).foldl (step site s names) c).outcome? s names i = some o
  /- Where addresses are distinct, a server and the launcher fare as they do without company. -/
  alone : ∀ clash, site.Keeps clash → Distinct clash s names →
    (∃ launched, c.launcher =
      (Launcher.initial names.length).run (startsAt site.alone s names) launched) ∧
    ∀ o, c.outcome? s names i = some o → ∃ r, r.name = server ∧ r.failure = o ∧
      (serverNames s = .ok names → (execute site.alone s).2[i]? = some r) ∧
      ∀ s', Agree s s' server → serverNames s' = .ok [server] →
        execute site.alone s' = (.ok (), [r])

theorem executed {m : Machine} (listed : serverNames s = .ok names) :
    execute m s = (.ok (), names.map (report m s)) := by
  rw [execute, listed]
  simp only [launch, Launcher.plainOrderEnds, Option.getD_some]

theorem runFares (site : Site) (events : List CompanyEvent) {i : Nat} {server : String}
    (named : names[i]? = some server) :
    Fares site s names i server (run site s names events) := by
  have sound := runSound site s names events
  have said := runTells site s names events i
  have alone : ∀ clash, site.Keeps clash → Distinct clash s names →
      ∃ launched, (run site s names events).launcher =
        (Launcher.initial names.length).run (startsAt site.alone s names) launched :=
    fun _ keeps distinct => launcherAlone keeps distinct events
  generalize run site s names events = c at *
  refine ⟨said.orders, fun told => ?_, fun o => outcomeBeside sound named, fun address asked => ?_,
    fun address held => ?_, fun spawned turns enough => ?_, fun clash keeps distinct =>
    ⟨alone clash keeps distinct, fun o settled => ?_⟩⟩
  · exact readyOutcome sound (said.started (List.mem_filter.mpr ⟨told, by simp [about]⟩))
  · obtain ⟨name, named', long⟩ := sound.asked _ asked
    cases Option.some.inj (named.symm.trans named')
    obtain ⟨others, apart, passes, _⟩ := (sound.trail i server named).beside
    exact ⟨others, apart, fun check member other => passes check (othersTaken long member other)⟩
  · obtain ⟨name, named', listen, all⟩ := sound.held _ held
    cases Option.some.inj (named.symm.trans named')
    exact ⟨listen, readyOutcome sound (readyExact.mpr ⟨server, named, all⟩)⟩
  · exact settles sound named spawned (.inr (Nat.le_add_left_of_le enough))
  · refine ⟨report site.alone s server, rfl, outcomeAlone keeps distinct sound named settled,
      fun listed => ?_, fun s' agree listed => ?_⟩
    · rw [executed listed, List.getElem?_map, named]
      rfl
    · rw [executed listed, agree.reports]
      rfl

end Company

/- A server starts if each of its checks passes, and else fails as the first that does not; only its
own settings and those that all servers share count. Beside others it tells that it has started once
at most, before it tells that it has stopped, and asks for its address only when all other checks have
passed; and unless addresses clash it fares as it does alone, whatever the order of events. -/
theorem serverFares (s : Settings) (server : String) :
    (∀ m, failure? (startServer m s server) = firstFailure m s server ∧
      ∀ f, readPlan m s server = .error f →
        ∀ bind, startServer { m with bind := bind } s server = .error f) ∧
    (∀ s', Agree s s' server → ∀ m,
      startServer m s' server = startServer m s server ∧ report m s' server = report m s server) ∧
    ∀ site names i, names[i]? = some server → ∀ events,
      Company.Fares site s names i server (Company.run site s names events) := by
  refine ⟨fun m => ⟨firstFails m s server, fun f => failsUnbound⟩, fun s' agree m => ?_,
    fun site names i named events => Company.runFares site events named⟩
  exact ⟨(agree.starts m).symm, (agree.reports m).symm⟩

/-! ### Two servers -/

/- A machine where an address is held once. -/
def strictSite : Site where
  processors := 1
  warmUp _ := .ok ()
  bind held address :=
    if address ∈ held then .error (.io .refused)
    else match bind address with
      | .ok _ => .ok ()
      | .error f => .error (.io f)

def textTree (t : String) : Tree := .scalar none (.text t)

def listening (address : String) : Tree :=
  .table none [("services", .list none []), ("listen", textTree address)]

def pairOf (listed : List String) : Settings :=
  ⟨.table none [("servers", .list none (listed.map textTree)), ("a", listening "127.0.0.1:1"),
    ("b", listening "127.0.0.1:2")]⟩

/- Both go through their checks, the second one ahead, and the first one starts. -/
def pairEvents : List CompanyEvent :=
  [.launcher .spawn, .launcher .spawn] ++ (List.replicate 9 [.check 1, .check 0]).flatten ++
    [.launcher (.start 0)]

theorem strictKeeps : strictSite.Keeps Eq := by
  intro held address free
  have fresh : address ∉ held := fun member => free address member rfl
  simp [strictSite, fresh]

theorem pairDistinct : Distinct Eq (pairOf ["a", "b"]) ["a", "b"] := by
  have first : readListen (pairOf ["a", "b"]) "a" = .ok "127.0.0.1:1" := by rfl
  have second : readListen (pairOf ["a", "b"]) "b" = .ok "127.0.0.1:2" := by rfl
  intro i j name other address address' apart named named' listen listen'
  rcases i with _ | _ | i <;> rcases j with _ | _ | j <;> simp at apart named named'
  · subst named named'
    rw [← Except.ok.inj (first.symm.trans listen), ← Except.ok.inj (second.symm.trans listen')]
    decide
  · subst named named'
    rw [← Except.ok.inj (second.symm.trans listen), ← Except.ok.inj (first.symm.trans listen')]
    decide

theorem pairAgrees : Agree (pairOf ["a", "b"]) (pairOf ["a"]) "a" := by
  refine ⟨by rfl, by rfl, by rfl, fun _ => by rfl, fun setting own => ?_⟩
  simp only [ownSettings, List.mem_cons, List.not_mem_nil, or_false] at own
  rcases own with rfl | rfl | rfl | rfl | rfl <;> rfl

theorem firstOfPairFares :
    (∀ bind, startServer { strictSite.alone with bind := bind } (pairOf ["a", "b"]) "c" =
      .error (.other (.missingServices "c"))) ∧
    startServer strictSite.alone (pairOf ["a"]) "a" =
      startServer strictSite.alone (pairOf ["a", "b"]) "a" ∧
    (Company.run strictSite (pairOf ["a", "b"]) ["a", "b"] pairEvents).outcome? (pairOf ["a", "b"])
      ["a", "b"] 0 = some none ∧
    readListen (pairOf ["a", "b"]) "a" = .ok "127.0.0.1:1" ∧
    ∃ r, r.name = "a" ∧ r.failure = none ∧ execute strictSite.alone (pairOf ["a"]) = (.ok (), [r]) := by
  obtain ⟨fails, agrees, beside⟩ := serverFares (pairOf ["a", "b"]) "a"
  have other := serverFares (pairOf ["a", "b"]) "c"
  have fares := beside strictSite ["a", "b"] 0 rfl pairEvents
  have settled := fares.started (by decide +kernel)
  refine ⟨(other.1 strictSite.alone).2 _ (by rfl), (agrees _ pairAgrees strictSite.alone).1, settled,
    (fares.held "127.0.0.1:1" (by decide +kernel)).1, ?_⟩
  obtain ⟨-, alone⟩ := fares.alone Eq strictKeeps pairDistinct
  obtain ⟨r, name, failure, -, only⟩ := alone none settled
  exact ⟨r, name, failure, only _ pairAgrees (by rfl)⟩

end TagListing.Fleet
