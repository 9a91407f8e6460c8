import Mathlib.Data.List.Induction
import Mathlib.Logic.Function.Basic
import TagListing.Proofs.Fleet.Accounts
import TagListing.Proofs.Fleet.Checks

/-! Servers that start beside one another. Each goes through its checks one at a time, in any order
with the others, and binds beside the addresses that are held by then. Kept along every run are the
checks that each server has passed, the addresses beside which it has, and what its thread has told
the launcher. How long a check takes and what a started server answers is not claimed. -/
namespace TagListing.Fleet

structure Site where
  processors : Nat
  warmUp : StoreSettings → Except Failure Unit
  /- Begins to listen on an address beside those that are held. -/
  bind : List String → String → Except Failure Unit

def Site.beside (site : Site) (held : List String) : Machine :=
  ⟨site.processors, site.warmUp, site.bind held⟩

def Site.alone (site : Site) : Machine := site.beside []

def Check.asks (s : Settings) (server : String) : Check → List String
  | .bind => (readListen s server).toOption.toList
  | _ => []

structure Company where
  launcher : Launcher
  /- What threads have told the launcher. -/
  sent : List Message
  /- So many of its checks a server has passed. -/
  passed : Nat → Nat
  failed : Nat → Option Failure
  /- The addresses that were asked for, and those that are held. -/
  asked : List (Nat × String)
  held : List (Nat × String)

inductive CompanyEvent where
  | check (server : Nat)
  | launcher (e : LauncherEvent)

namespace Company

def initial (servers : Nat) : Company := ⟨.initial servers, [], fun _ => 0, fun _ => none, [], []⟩

def addresses (c : Company) : List String := c.held.map Prod.snd

section
variable (site : Site) (s : Settings) (names : List String)

def ready (c : Company) (i : Nat) : Bool :=
  match names[i]? with
  | some name => c.passed i == (checks s name).length
  | none => false

def next? (c : Company) (i : Nat) : Option (String × Check) := do
  let name ← names[i]?
  let check ← (checks s name)[c.passed i]?
  some (name, check)

/- One check of a server that has not failed yet. -/
def turn (c : Company) (i : Nat) (name : String) (check : Check) : Company :=
  let asks := (check.asks s name).map fun address => (i, address)
  match check.failure (site.beside c.addresses) s name with
  | some f => { c with failed := Function.update c.failed i (some f), asked := c.asked ++ asks }
  | none => { c with
    passed := Function.update c.passed i (c.passed i + 1)
    asked := c.asked ++ asks
    held := c.held ++ asks }

def check (c : Company) (i : Nat) : Company :=
  if c.launcher.threads[i]? = some .checking ∧ (c.failed i).isNone then
    match c.next? s names i with
    | some (name, check) => c.turn site s i name check
    | none => c
  else c

/- Only the servers that have passed all of their checks start. -/
def tell (c : Company) (e : LauncherEvent) : Company :=
  let after := c.launcher.step (c.ready s names) e
  { c with launcher := after, sent := c.sent ++ after.queue.drop c.launcher.queue.length }

def leaves (c : Company) (i : Nat) : Bool :=
  c.launcher.threads[i]? = some .serving ∨
    c.launcher.threads[i]? = some .checking ∧ (c.failed i).isSome

/- A thread does not leave between its checks. Who leaves lets the address go. -/
def step (c : Company) : CompanyEvent → Company
  | .check i => c.check site s names i
  | .launcher (.leave i) =>
    if c.leaves i then
      { c.tell s names (.leave i) with held := c.held.filter fun p => p.1 ≠ i }
    else c
  | .launcher e => c.tell s names e

def run (events : List CompanyEvent) : Company :=
  events.foldl (step site s names) (initial names.length)

end

/-! ### Messages -/

def about (i : Nat) : Message → Bool
  | .started j => i = j
  | .stopped j => i = j
  | .shutdown => false

/- What a thread has told, by how far it is. -/
inductive Said (i : Nat) (starts : Prop) : Option Thread → List Message → Prop where
  | absent : Said i starts none []
  | checking : Said i starts (some .checking) []
  | serving (may : starts) : Said i starts (some .serving) [.started i]
  | failed : Said i starts (some .left) []
  | ended (may : starts) : Said i starts (some .left) [.started i]
  | failedTold : Said i starts (some .reported) [.stopped i]
  | endedTold (may : starts) : Said i starts (some .reported) [.started i, .stopped i]

section
variable {i : Nat} {P Q : Prop} {t : Option Thread} {told : List Message}

theorem Said.mono (said : Said i P t told) (more : P → Q) : Said i Q t told := by
  cases said with
  | absent => exact .absent
  | checking => exact .checking
  | serving may => exact .serving (more may)
  | failed => exact .failed
  | ended may => exact .ended (more may)
  | failedTold => exact .failedTold
  | endedTold may => exact .endedTold (more may)

theorem Said.started (said : Said i P t told) (mem : .started i ∈ told) : P := by
  cases said with
  | serving may => exact may
  | ended may => exact may
  | endedTold may => exact may
  | _ => simp at mem

theorem Said.orders (said : Said i P t told) :
    told ∈ [[], [.started i], [.stopped i], [.started i, .stopped i]] := by
  cases said <;> simp

/- A thread that moves on and tells something of its own server. -/
theorem saidMoved {threads : List Thread} {j : Nat} {was now : Thread} {sent more : List Message}
    (said : Said i P threads[i]? (sent.filter (about i))) (current : threads[j]? = some was)
    (own : ∀ m ∈ more, about i m = true → i = j)
    (next : ∀ told, i = j → Said i P (some was) told →
      Said i P (some now) (told ++ more.filter (about i))) :
    Said i P (threads.set j now)[i]? ((sent ++ more).filter (about i)) := by
  rw [List.filter_append]
  by_cases this : i = j
  · subst this
    obtain ⟨bound, _⟩ := List.getElem?_eq_some_iff.mp current
    rw [List.getElem?_set_self bound]
    exact next _ rfl (current ▸ said)
  · have others : more.filter (about i) = [] :=
      List.filter_eq_nil_iff.mpr fun m member mine => this (own m member mine)
    rw [List.getElem?_set_ne (Ne.symm this), others, List.append_nil]
    exact said

theorem saidOn {starts : Nat → Bool} {l after : Launcher} {e : LauncherEvent}
    {taken sent : List Message} (done : Launcher.Effect starts l e after taken)
    (may : starts i = true → P) (said : Said i P l.threads[i]? (sent.filter (about i))) :
    Said i P after.threads[i]?
      ((sent ++ after.queue.drop l.queue.length).filter (about i)) := by
  have quiet : sent ++ l.queue.drop l.queue.length = sent := by simp
  cases done with
  | idle => rwa [quiet]
  | spawn more =>
    rw [quiet]
    dsimp only
    by_cases known : i < l.threads.length
    · rwa [List.getElem?_append_left known]
    · have late : l.threads.length ≤ i := Nat.le_of_not_lt known
      rw [List.getElem?_eq_none late] at said
      rw [List.getElem?_append_right late]
      generalize sent.filter (about i) = told at said ⊢
      cases said
      cases i - l.threads.length with
      | zero => exact .checking
      | succ k => exact .absent
  | @start j starts now =>
    rw [Launcher.send, Launcher.setThread, List.drop_left]
    refine saidMoved said now (by simp [about]) fun told same was => ?_
    subst same
    cases was
    simpa [about] using Said.serving (may starts)
  | @ask j now =>
    rw [Launcher.send, List.drop_left, List.filter_append]
    simpa [about] using said
  | @leave j now =>
    rw [Launcher.setThread]
    rcases now with now | ⟨_, now⟩
    · refine saidMoved said now (by simp) fun told same was => ?_
      cases was with
      | serving may => simpa using Said.ended may
    · refine saidMoved said now (by simp) fun told same was => ?_
      cases was
      simpa using Said.failed
  | @report j now =>
    rw [Launcher.send, Launcher.setThread, List.drop_left]
    refine saidMoved said now (by simp [about]) fun told same was => ?_
    subst same
    cases was with
    | failed => simpa [about] using Said.failedTold
    | ended may => simpa [about] using Said.endedTold may
  | finish all spent => rwa [quiet]
  | @take m rest going more front =>
    obtain ⟨_, threads, queue, _⟩ := Launcher.handleKeeps { l with queue := rest } m
    have spent : rest.drop l.queue.length = [] := by simp [front]
    rw [threads, queue, spent, List.append_nil]
    exact said
  | close more empty closed => rwa [quiet]

end

/-! ### Checks beside one another -/

section
variable (site : Site) (s : Settings) (names : List String)

/- Addresses of servers at other positions. -/
def Others (i : Nat) (addresses : List String) : Prop :=
  ∀ address ∈ addresses, ∃ j name, j ≠ i ∧ names[j]? = some name ∧ readListen s name = .ok address

/- A server that has come so far, and the addresses beside which it has. -/
structure Trail (i : Nat) (name : String) (passed : Nat) (failed : Option Failure) : Prop where
  short : passed ≤ (checks s name).length
  beside : ∃ others, Others s names i others ∧
    (∀ check ∈ (checks s name).take passed, check.failure (site.beside others) s name = none) ∧
    ∀ f, failed = some f → ∃ check, (checks s name)[passed]? = some check ∧
      check.failure (site.beside others) s name = some f

structure Sound (c : Company) : Prop where
  trail : ∀ i name, names[i]? = some name → Trail site s names i name (c.passed i) (c.failed i)
  asked : ∀ p ∈ c.asked, ∃ name, names[p.1]? = some name ∧
    (checks s name).length ≤ c.passed p.1 + 1
  held : ∀ p ∈ c.held, ∃ name, names[p.1]? = some name ∧ readListen s name = .ok p.2 ∧
    c.passed p.1 = (checks s name).length

end

variable {site : Site} {s : Settings} {names : List String} {c : Company}

theorem asksOwn {name address : String} {check : Check} (asks : address ∈ check.asks s name) :
    check = .bind ∧ readListen s name = .ok address := by
  cases check with
  | bind =>
    refine ⟨rfl, ?_⟩
    cases listen : readListen s name with
    | error f => simp [Check.asks, listen, Except.toOption] at asks
    | ok own => simpa [Check.asks, listen, Except.toOption, eq_comm] using asks
  | _ => contradiction

/- The addresses held during the checks of a server are those of others. -/
theorem Sound.others (sound : Sound site s names c) {i : Nat} {name : String}
    (named : names[i]? = some name) (short : c.passed i < (checks s name).length) :
    Others s names i c.addresses := by
  intro address member
  obtain ⟨p, held, rfl⟩ := List.mem_map.mp member
  obtain ⟨name', named', listen, passed⟩ := sound.held p held
  refine ⟨p.1, name', fun same => ?_, named', listen⟩
  rw [same] at named' passed
  rw [named] at named'
  cases named'
  exact absurd passed (Nat.ne_of_lt short)

/- Whatever a server has passed does not depend on the addresses that are held. -/
theorem Sound.early (sound : Sound site s names c) {i : Nat} {name : String}
    (named : names[i]? = some name) (short : c.passed i < (checks s name).length)
    (held : List String) :
    ∀ check ∈ (checks s name).take (c.passed i), check.failure (site.beside held) s name = none := by
  intro check member
  obtain ⟨before, _, passes, _⟩ := (sound.trail i name named).beside
  have unbound : check ≠ .bind := fun same => takenUnbound short (same ▸ member)
  rw [← passes check member]
  exact failureUnbound (m := site.beside before) unbound (site.bind held)

theorem asksLast {i k : Nat} {name : String} {check : Check}
    (next : (checks s name)[k]? = some check) :
    ∀ p ∈ (check.asks s name).map (fun address => (i, address)),
      p.1 = i ∧ readListen s name = .ok p.2 ∧ k + 1 = (checks s name).length := by
  intro p member
  obtain ⟨address, asked, rfl⟩ := List.mem_map.mp member
  obtain ⟨rfl, listen⟩ := asksOwn asked
  exact ⟨rfl, listen, bindAt next⟩

theorem Sound.turn (sound : Sound site s names c) {i : Nat} {name : String} {check : Check}
    (named : names[i]? = some name) (next : (checks s name)[c.passed i]? = some check)
    (going : c.failed i = none) : Sound site s names (c.turn site s i name check) := by
  obtain ⟨short, here⟩ := List.getElem?_eq_some_iff.mp next
  have others := sound.others named short
  have early := sound.early named short c.addresses
  have asks := asksLast (i := i) next
  unfold Company.turn
  dsimp only
  split
  · rename_i f fails
    refine ⟨fun j other named' => ?_, fun p member => ?_, sound.held⟩
    · dsimp only
      by_cases this : j = i
      · subst this
        cases Option.some.inj (named.symm.trans named')
        rw [Function.update_self]
        refine ⟨Nat.le_of_lt short, c.addresses, others, early, fun f' same => ?_⟩
        exact ⟨check, next, fails.trans same⟩
      · rw [Function.update_of_ne this]
        exact sound.trail j other named'
    · rcases List.mem_append.mp member with old | new
      · exact sound.asked p old
      · obtain ⟨same, _, last⟩ := asks p new
        refine ⟨name, same ▸ named, ?_⟩
        rw [same]
        exact Nat.le_of_eq last.symm
  · rename_i passes
    have grows : ∀ j, c.passed j ≤ Function.update c.passed i (c.passed i + 1) j := by
      intro j
      by_cases this : j = i
      · subst this
        rw [Function.update_self]
        exact Nat.le_succ _
      · exact Nat.le_of_eq (Function.update_of_ne this _ _).symm
    refine ⟨fun j other named' => ?_, fun p member => ?_, fun p member => ?_⟩
    · dsimp only
      by_cases this : j = i
      · subst this
        cases Option.some.inj (named.symm.trans named')
        rw [Function.update_self]
        refine ⟨short, c.addresses, others, fun check' member => ?_, fun f fails => ?_⟩
        · rw [List.take_add_one, next] at member
          rcases List.mem_append.mp member with old | new
          · exact early check' old
          · cases List.mem_singleton.mp new
            exact passes
        · rw [going] at fails
          contradiction
      · rw [Function.update_of_ne this]
        exact sound.trail j other named'
    · rcases List.mem_append.mp member with old | new
      · obtain ⟨other, named', asked⟩ := sound.asked p old
        exact ⟨other, named', Nat.le_trans asked (Nat.succ_le_succ (grows p.1))⟩
      · obtain ⟨same, _, last⟩ := asks p new
        refine ⟨name, same ▸ named, ?_⟩
        rw [← last, same]
        exact Nat.succ_le_succ (grows i)
    · rcases List.mem_append.mp member with old | new
      · obtain ⟨other, named', listen, all⟩ := sound.held p old
        have this : p.1 ≠ i := by
          rintro same
          rw [same] at named' all
          cases Option.some.inj (named.symm.trans named')
          exact absurd all (Nat.ne_of_lt short)
        exact ⟨other, named', listen, (Function.update_of_ne this _ _).trans all⟩
      · obtain ⟨same, listen, last⟩ := asks p new
        refine ⟨name, same ▸ named, listen, ?_⟩
        rw [same]
        exact (Function.update_self _ _ _).trans last

theorem Sound.initial : Sound site s names (initial names.length) := by
  refine ⟨fun i name named => ⟨Nat.zero_le _, [], nofun, nofun, nofun⟩, nofun, nofun⟩

theorem nextExact {i : Nat} {name : String} {check : Check}
    (next : c.next? s names i = some (name, check)) :
    names[i]? = some name ∧ (checks s name)[c.passed i]? = some check := by
  obtain ⟨name', named, rest⟩ := Option.bind_eq_some_iff.mp next
  obtain ⟨check', here, same⟩ := Option.bind_eq_some_iff.mp rest
  cases same
  exact ⟨named, here⟩

theorem Sound.step (sound : Sound site s names c) (e : CompanyEvent) :
    Sound site s names (c.step site s names e) := by
  cases e with
  | check i =>
    rw [Company.step, Company.check]
    split
    · rename_i may
      split
      · rename_i name check next
        obtain ⟨named, here⟩ := nextExact next
        exact sound.turn named here (Option.isNone_iff_eq_none.mp may.2)
      · exact sound
    · exact sound
  | launcher e =>
    have told : ∀ e, Sound site s names (c.tell s names e) :=
      fun e => ⟨sound.trail, sound.asked, sound.held⟩
    cases e with
    | leave i =>
      rw [Company.step]
      split
      · exact ⟨sound.trail, sound.asked, fun p member => sound.held p (List.mem_filter.mp member).1⟩
      · exact sound
    | _ => exact told _

theorem runSound (site : Site) (s : Settings) (names : List String) (events : List CompanyEvent) :
    Sound site s names (run site s names events) := by
  induction events using List.reverseRecOn with
  | nil => exact .initial
  | append_singleton events e ih =>
    rw [run, List.foldl_append]
    exact ih.step e

/-! ### Ready and told -/

theorem readyExact {i : Nat} : c.ready s names i = true ↔
    ∃ name, names[i]? = some name ∧ c.passed i = (checks s name).length := by
  unfold ready
  cases names[i]? <;> simp

theorem turnLauncher (i : Nat) (name : String) (check : Check) :
    (c.turn site s i name check).launcher = c.launcher ∧
      (c.turn site s i name check).sent = c.sent := by
  unfold turn
  dsimp only
  split <;> exact ⟨rfl, rfl⟩

theorem checkLauncher (site : Site) (s : Settings) (names : List String) (c : Company) (i : Nat) :
    (c.check site s names i).launcher = c.launcher ∧ (c.check site s names i).sent = c.sent := by
  rw [check]
  split
  · split
    · exact turnLauncher i _ _
    · exact ⟨rfl, rfl⟩
  · exact ⟨rfl, rfl⟩

theorem turnOther {i j : Nat} (other : j ≠ i) (name : String) (check : Check) :
    (c.turn site s i name check).passed j = c.passed j := by
  unfold turn
  dsimp only
  split
  · rfl
  · exact Function.update_of_ne other _ _

/- Who has passed all checks has none to come. -/
theorem readyKept {i : Nat} (ready : c.ready s names i = true) (e : CompanyEvent) :
    (c.step site s names e).ready s names i = true := by
  obtain ⟨name, named, all⟩ := readyExact.mp ready
  refine readyExact.mpr ⟨name, named, ?_⟩
  cases e with
  | check j =>
    rw [step, check]
    split
    · split
      · rename_i name' check next
        obtain ⟨named', here⟩ := nextExact next
        have other : i ≠ j := by
          rintro rfl
          cases Option.some.inj (named.symm.trans named')
          obtain ⟨short, _⟩ := List.getElem?_eq_some_iff.mp here
          exact absurd all (Nat.ne_of_lt short)
        rw [turnOther other, all]
      · exact all
    · exact all
  | launcher e =>
    cases e with
    | leave j =>
      rw [step]
      split <;> exact all
    | _ => exact all

def Tells (s : Settings) (names : List String) (c : Company) : Prop :=
  ∀ i, Said i (c.ready s names i = true) c.launcher.threads[i]? (c.sent.filter (about i))

theorem tellTells (tells : Tells s names c) (e : LauncherEvent) : Tells s names (c.tell s names e) :=
  fun i => saidOn (Launcher.stepEffect (c.ready s names) c.launcher e) id (tells i)

theorem stepTells (site : Site) (tells : Tells s names c) (e : CompanyEvent) :
    Tells s names (c.step site s names e) := by
  cases e with
  | check j =>
    intro i
    obtain ⟨launcher, sent⟩ := checkLauncher site s names c j
    rw [step, launcher, sent]
    exact (tells i).mono fun ready => readyKept ready (.check j)
  | launcher e =>
    have told := tellTells tells
    cases e with
    | leave j =>
      rw [step]
      split
      · exact told (.leave j)
      · exact tells
    | _ => exact told _

theorem runTells (site : Site) (s : Settings) (names : List String) (events : List CompanyEvent) :
    Tells s names (run site s names events) := by
  induction events using List.reverseRecOn with
  | nil => exact fun i => .absent
  | append_singleton events e ih =>
    rw [run, List.foldl_append]
    exact stepTells site ih e

end Company
end TagListing.Fleet
