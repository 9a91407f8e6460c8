import TagListing.Fleet.Server

/-! The checks of a server one by one, in their order: the failure of a server is that of the first
check that fails, every setting is read under the server's own name but for a few that all servers
share, and only the last check binds. What the machine answers is a parameter. -/
namespace TagListing.Fleet
open Services (tagServiceName)

/- A listed service comes with the names listed before it. -/
inductive Check where
  | debug
  | store
  | list
  | service (before : List String) (name : String)
  | prepare
  | stopper
  | workers
  | backlog
  | listen
  | bind
  deriving DecidableEq

def serviceChecks (before : List String) : List String → List Check
  | [] => []
  | name :: rest => .service before name :: serviceChecks (before ++ [name]) rest

def checks (s : Settings) (server : String) : List Check :=
  [.debug, .store, .list] ++ serviceChecks [] ((Services.listed s server).toOption.getD []) ++
    [.prepare, .stopper, .workers, .backlog, .listen, .bind]

/- The failure of a check, taken by itself. Without its settings there is nothing to prepare and
nothing to bind. -/
def Check.failure (m : Machine) (s : Settings) (server : String) : Check → Option Failure
  | .debug => failure? (readDebug s)
  | .store => failure? (orFail (StoreSettings.read s))
  | .list => failure? (Services.listed s server)
  | .service before name =>
    if name ∈ before then some (.other (.repeatedService name))
    else failure? (Services.readService s name)
  | .prepare =>
    match readDebug s, StoreSettings.read s with
    | .ok true, .ok found => failure? (m.warmUp found)
    | _, _ => none
  | .stopper => failure? (readStopper s server)
  | .workers => failure? (readWorkers s server)
  | .backlog => failure? (readBacklog s server)
  | .listen => failure? (readListen s server)
  | .bind =>
    match readListen s server with
    | .ok address => failure? (m.bind address)
    | .error _ => none

def firstFailure (m : Machine) (s : Settings) (server : String) : Option Failure :=
  (checks s server).findSome? (Check.failure m s server)

variable {m : Machine} {s : Settings} {server : String}

/-! ### The first check that fails -/

theorem listedChecks (m : Machine) (server : String) (names : List String) (ss : Services)
    (seen met : List String) (same : ∀ name, name ∈ seen ↔ name ∈ met) :
    failure? (Services.loadListed s seen names ss).1 =
        (serviceChecks met names).findSome? (Check.failure m s server) ∧
      (Services.loadListed s seen names ss).2.store = ss.store := by
  induction names generalizing ss seen met with
  | nil => exact ⟨rfl, rfl⟩
  | cons name rest ih =>
    rw [Services.loadListed, serviceChecks, List.findSome?_cons, Check.failure]
    by_cases known : name ∈ seen
    · rw [if_pos known, if_pos ((same name).mp known)]
      exact ⟨rfl, rfl⟩
    rw [if_neg known, if_neg fun member => known ((same name).mpr member)]
    cases Services.readService s name with
    | error f => exact ⟨rfl, rfl⟩
    | ok service =>
      refine ih { ss with services := ss.services ++ [service] } (name :: seen) (met ++ [name]) ?_
      intro other
      rw [List.mem_cons, List.mem_append, List.mem_singleton, same, or_comm]

/- Of the services a server's own checks know the store only. -/
theorem configuredChecks (m : Machine) (s : Settings) (server : String) :
    failure? (Services.configured s server) =
      ([Check.store, .list] ++ serviceChecks [] ((Services.listed s server).toOption.getD [])).findSome?
        (Check.failure m s server) ∧
    ∀ ss, Services.configured s server = .ok ss → StoreSettings.read s = .ok ss.store := by
  simp only [Services.configured, Services.load, List.cons_append, List.nil_append,
    List.findSome?_cons, Check.failure]
  cases StoreSettings.read s with
  | error f => exact ⟨rfl, nofun⟩
  | ok store =>
    cases Services.listed s server with
    | error f => exact ⟨rfl, nofun⟩
    | ok names =>
      obtain ⟨first, kept⟩ :=
        listedChecks (s := s) m server names { Services.empty with store := store } [] [] fun _ => Iff.rfl
      simp only [orFail, failure?, Except.toOption, Option.getD_some]
      rw [← first]
      generalize Services.loadListed s [] names { Services.empty with store := store } = loaded at *
      obtain ⟨result, ss⟩ := loaded
      cases result with
      | error f => exact ⟨rfl, nofun⟩
      | ok _ =>
        refine ⟨rfl, fun ss' same => ?_⟩
        cases Except.ok.inj same
        exact congrArg Except.ok kept.symm

theorem prepared {debug : Bool} {ss : Services} (flag : readDebug s = .ok debug)
    (store : StoreSettings.read s = .ok ss.store) :
    Check.failure m s server .prepare = failure? (checkStore m debug ss) := by
  rw [Check.failure, flag, store]
  cases debug <;> rfl

theorem firstFails (m : Machine) (s : Settings) (server : String) :
    failure? (startServer m s server) = firstFailure m s server := by
  obtain ⟨services, store⟩ := configuredChecks m s server
  have first : firstFailure m s server = (failure? (readDebug s)).or
      ((failure? (Services.configured s server)).or
        ([Check.prepare, .stopper, .workers, .backlog, .listen, .bind].findSome?
          (Check.failure m s server))) := by
    rw [services, ← List.findSome?_append, firstFailure, checks, List.append_assoc, List.cons_append,
      List.findSome?_cons, Check.failure]
    cases failure? (readDebug s) <;> rfl
  rw [first]
  unfold startServer readPlan readSizes readBase
  cases flag : readDebug s with
  | error f => rfl
  | ok debug =>
  cases loaded : Services.configured s server with
  | error f => rfl
  | ok ss =>
  rw [List.findSome?_cons, prepared flag (store ss loaded)]
  simp only [Bind.bind, Except.bind, List.findSome?_cons, Check.failure]
  cases checkStore m debug ss with
  | error f => rfl
  | ok _ =>
  cases readStopper s server with
  | error f => rfl
  | ok stopper =>
  cases readWorkers s server with
  | error f => rfl
  | ok workers =>
  cases readBacklog s server with
  | error f => rfl
  | ok backlog =>
  cases readListen s server with
  | error f => rfl
  | ok address =>
    dsimp only
    cases m.bind address <;> rfl

/-! ### The last check -/

theorem servicesUnbound (before names : List String) : Check.bind ∉ serviceChecks before names := by
  induction names generalizing before with
  | nil => exact List.not_mem_nil
  | cons name rest ih => simpa [serviceChecks] using ih (before ++ [name])

theorem bindsLast (s : Settings) (server : String) :
    ∃ early, checks s server = early ++ [.bind] ∧ .bind ∉ early := by
  refine ⟨_, (List.append_assoc _ [Check.prepare, .stopper, .workers, .backlog, .listen] [.bind]).symm,
    ?_⟩
  simp [servicesUnbound]

theorem bindAt {k : Nat} (last : (checks s server)[k]? = some .bind) :
    k + 1 = (checks s server).length := by
  obtain ⟨early, parts, unbound⟩ := bindsLast s server
  rw [parts] at last ⊢
  by_cases inside : k < early.length
  · rw [List.getElem?_append_left inside] at last
    exact absurd (List.mem_of_getElem? last) unbound
  · obtain ⟨bound, _⟩ := List.getElem?_eq_some_iff.mp last
    rw [List.length_append, List.length_singleton] at bound ⊢
    omega

theorem takenUnbound {k : Nat} (short : k < (checks s server).length) :
    .bind ∉ (checks s server).take k := by
  obtain ⟨early, parts, unbound⟩ := bindsLast s server
  rw [parts, List.length_append, List.length_singleton] at short
  rw [parts, List.take_append_of_le_length (Nat.le_of_lt_succ short)]
  exact fun member => unbound (List.mem_of_mem_take member)

theorem othersTaken {k : Nat} (long : (checks s server).length ≤ k + 1) {check : Check}
    (member : check ∈ checks s server) (other : check ≠ .bind) : check ∈ (checks s server).take k := by
  obtain ⟨early, parts, _⟩ := bindsLast s server
  rw [parts, List.length_append, List.length_singleton] at long
  rw [parts] at member
  have inside : check ∈ early := by simpa [other] using member
  rw [parts, List.take_append, List.take_of_length_le (Nat.le_of_succ_le_succ long)]
  exact List.mem_append_left _ inside

theorem failureUnbound {check : Check} (other : check ≠ .bind) (bind : String → Except Failure Unit) :
    check.failure { m with bind := bind } s server = check.failure m s server := by
  cases check with
  | bind => contradiction
  | _ => rfl

/- What is never asked of the machine does not matter: with a failure before the last check nothing
is bound. -/
theorem failsUnbound {f : Failure} (fails : readPlan m s server = .error f)
    (bind : String → Except Failure Unit) :
    startServer { m with bind := bind } s server = .error f := by
  have same : readPlan { m with bind := bind } s server = readPlan m s server := rfl
  rw [startServer, same, fails]
  rfl

/-! ### The settings that count -/

def ownSettings : List String := ["services", "stopper", "workers", "backlog", "listen"]

/- Does a server come to load the tag service? -/
def LoadsTag (s : Settings) (server : String) : Prop :=
  (∃ debug, readDebug s = .ok debug) ∧ (∃ store, StoreSettings.read s = .ok store) ∧
    ∃ more, Services.listed s server = .ok (tagServiceName :: more)

/- Settings that are alike where a server looks. -/
structure Agree (s s' : Settings) (server : String) : Prop where
  debug : s.getValue debugKey = s'.getValue debugKey
  url : s.getValue urlKey = s'.getValue urlKey
  seed : s.getValue seedKey = s'.getValue seedKey
  envelope : LoadsTag s server → s.getValue envelopeKey = s'.getValue envelopeKey
  own : ∀ setting ∈ ownSettings,
    s.getValue (serverKey server setting) = s'.getValue (serverKey server setting)

theorem loadedAlike {s' : Settings}
    (each : ∀ name, Services.readService s name = Services.readService s' name) (seen names : List String)
    (ss : Services) : Services.loadListed s seen names ss = Services.loadListed s' seen names ss := by
  induction names generalizing seen ss with
  | nil => rfl
  | cons name rest ih =>
    rw [Services.loadListed, Services.loadListed, each]
    simp only [ih]

namespace Agree

variable {s' : Settings} (agree : Agree s s' server)

include agree

theorem readsDebug : readDebug s = readDebug s' := by
  rw [readDebug, readDebug, Settings.getBool, Settings.getBool, agree.debug]

theorem readsStore : StoreSettings.read s = StoreSettings.read s' := by
  rw [StoreSettings.read, StoreSettings.read, Settings.getText, Settings.getText, Settings.getTexts,
    Settings.getTexts, Settings.getList, Settings.getList, agree.url, agree.seed]

theorem readsList : Services.listed s server = Services.listed s' server := by
  have key : Services.servicesKey server = serverKey server "services" := by
    rw [Services.servicesKey, serverKey, String.append_assoc]
    rfl
  rw [Services.listed, Services.listed, Settings.getTexts, Settings.getTexts, Settings.getList,
    Settings.getList, key, agree.own "services" (by decide)]

/- A list whose first name is another one ends with it. -/
theorem readsServices (debug : ∃ debug, readDebug s = .ok debug) :
    Services.configured s server = Services.configured s' server := by
  have whole : Services.load s server .empty = Services.load s' server .empty := by
    rw [Services.load, Services.load, ← agree.readsStore, ← agree.readsList]
    cases store : StoreSettings.read s with
    | error f => rfl
    | ok store' =>
      cases lists : Services.listed s server with
      | error f => rfl
      | ok names =>
        dsimp only
        cases names with
        | nil => rfl
        | cons name rest =>
          by_cases tag : name = tagServiceName
          · subst tag
            have envelope := agree.envelope ⟨debug, ⟨store', store⟩, ⟨rest, lists⟩⟩
            refine loadedAlike (fun name => ?_) _ _ _
            rw [Services.readService, Services.readService, TagService.read, TagService.read,
              Settings.getBool, Settings.getBool, envelope]
          · simp [Services.loadListed, Services.readService, tag]
  rw [Services.configured, Services.configured, whole]

theorem readsBase (m : Machine) : readBase m s server = readBase m s' server := by
  have stopper : readStopper s server = readStopper s' server := by
    rw [readStopper, readStopper, Settings.getBool, Settings.getBool,
      agree.own "stopper" (by decide)]
  rw [readBase, readBase, ← agree.readsDebug, ← stopper]
  cases flag : readDebug s with
  | error f => rfl
  | ok debug =>
    rw [agree.readsServices ⟨debug, flag⟩]

theorem readsBacklog : readBacklog s server = readBacklog s' server := by
  rw [readBacklog, readBacklog, Settings.getInt, Settings.getInt, agree.own "backlog" (by decide)]

theorem readsSizes (m : Machine) : readSizes m s server = readSizes m s' server := by
  have workers : readWorkers s server = readWorkers s' server := by
    rw [readWorkers, readWorkers, Settings.getInt, Settings.getInt, agree.own "workers" (by decide)]
  rw [readSizes, readSizes, agree.readsBase, workers]

theorem readsPlan (m : Machine) : readPlan m s server = readPlan m s' server := by
  have listen : readListen s server = readListen s' server := by
    rw [readListen, readListen, Settings.getText, Settings.getText, agree.own "listen" (by decide)]
  rw [readPlan, readPlan, agree.readsSizes, agree.readsBacklog, listen]

theorem starts (m : Machine) : startServer m s server = startServer m s' server := by
  rw [startServer, startServer, agree.readsPlan]

theorem reports (m : Machine) : report m s server = report m s' server := by
  rw [report, report, agree.starts, agree.readsPlan, agree.readsSizes, agree.readsBacklog,
    agree.readsDebug]

end Agree

end TagListing.Fleet
