import TagListing.Service.Basic
/-!
What a server needs to start. Its checks have one order: the debug flag, the services, with debug
on the store that must answer, the stopper, the workers, the backlog, the address to listen on, and
at last the bind. The first check that fails is the failure of the server.
-/
namespace TagListing.Fleet

structure Machine where
  processors : Nat
  warmUp : StoreSettings → Except Failure Unit
  bind : String → Except Failure Unit

def serverKey (server setting : String) : String := server ++ "." ++ setting

def debugKey : String := "debug"

def readDebug (s : Settings) : Except Failure Bool :=
  (orFail (s.getBool debugKey)).map (·.getD false)

/- With debug on, a store out of reach fails the server at once. -/
def checkStore (m : Machine) (debug : Bool) (services : Services) : Except Failure Unit :=
  if debug then m.warmUp services.store else .ok ()

def readStopper (s : Settings) (server : String) : Except Failure Bool :=
  (orFail (s.getBool (serverKey server "stopper"))).map (·.getD false)

def readWorkers (s : Settings) (server : String) : Except Failure (Option Int) :=
  match s.getInt (serverKey server "workers") with
  | .error f => .error (.settings f)
  | .ok none => .ok none
  | .ok (some n) => if 0 < n then .ok (some n) else .error (.other (.noWorkers server))

def Machine.workers (m : Machine) (configured : Option Int) : Int := configured.getD m.processors

def readBacklog (s : Settings) (server : String) : Except Failure (Option Int) :=
  match s.getInt (serverKey server "backlog") with
  | .error f => .error (.settings f)
  | .ok none => .ok none
  | .ok (some n) =>
    if 0 < n ∧ n ≤ maxBacklog then .ok (some n) else .error (.other (.backlogOutOfRange server))

def readListen (s : Settings) (server : String) : Except Failure String :=
  match s.getText (serverKey server "listen") with
  | .error f => .error (.settings f)
  | .ok none => .error (.other (.missingListen server))
  | .ok (some address) => .ok address

structure Base where
  debug : Bool
  services : Services
  stopper : Bool
  deriving Repr

structure Sizes where
  base : Base
  workers : Option Int
  deriving Repr

structure Plan where
  sizes : Sizes
  backlog : Option Int
  listen : String
  deriving Repr

def readBase (m : Machine) (s : Settings) (server : String) : Except Failure Base := do
  let debug ← readDebug s
  let services ← Services.configured s server
  checkStore m debug services
  let stopper ← readStopper s server
  .ok ⟨debug, services, stopper⟩

def readSizes (m : Machine) (s : Settings) (server : String) : Except Failure Sizes := do
  let base ← readBase m s server
  let workers ← readWorkers s server
  .ok ⟨base, workers⟩

def readPlan (m : Machine) (s : Settings) (server : String) : Except Failure Plan := do
  let sizes ← readSizes m s server
  let backlog ← readBacklog s server
  let listen ← readListen s server
  .ok ⟨sizes, backlog, listen⟩

def startServer (m : Machine) (s : Settings) (server : String) : Except Failure Plan := do
  let plan ← readPlan m s server
  m.bind plan.listen
  .ok plan

/-! ### Reports -/

structure Report where
  name : String
  debug : Option Bool
  workers : Option (Option Int)
  backlog : Option Int
  listen : Option String
  failure : Option Failure
  deriving Repr

def failure? {α : Type} : Except Failure α → Option Failure
  | .ok _ => none
  | .error f => some f

def report (m : Machine) (s : Settings) (server : String) : Report where
  name := server
  debug := (readDebug s).toOption
  workers := (readSizes m s server).toOption.map (·.workers)
  backlog := (readSizes m s server).toOption.bind fun _ => (readBacklog s server).toOption.join
  listen := (readPlan m s server).toOption.map (·.listen)
  failure := failure? (startServer m s server)

end TagListing.Fleet
