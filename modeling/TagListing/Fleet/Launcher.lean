import TagListing.Failure
/-!
The launcher of servers. It spawns one thread for each server and then receives their messages
until every thread has reported its end. A thread reports once, after its server has failed or
ended; a server that starts says so first. The launcher counts the threads whose report it has not
received yet.
-/
namespace TagListing.Fleet

inductive Thread where
  | checking
  | serving
  | left
  | reported
  deriving DecidableEq, Repr

inductive Message where
  | started (server : Nat)
  | shutdown
  | stopped (server : Nat)
  deriving DecidableEq, Repr

structure Launcher where
  waiting : Nat
  threads : List Thread
  queue : List Message
  running : Nat
  serving : List Nat
  shuttingDown : Bool
  result : Option (Except Failure Unit)

inductive LauncherEvent where
  | spawn
  | start (server : Nat)
  | askShutdown (server : Nat)
  | leave (server : Nat)
  | report (server : Nat)
  | receive
  deriving DecidableEq, Repr

namespace Launcher

def initial (servers : Nat) : Launcher := ⟨servers, [], [], 0, [], false, none⟩

def send (l : Launcher) (m : Message) : Launcher := { l with queue := l.queue ++ [m] }

def setThread (l : Launcher) (server : Nat) (t : Thread) : Launcher :=
  { l with threads := l.threads.set server t }

def handle (l : Launcher) : Message → Launcher
  | .started server =>
    if l.shuttingDown then l else { l with serving := l.serving ++ [server] }
  | .shutdown => { l with shuttingDown := true, serving := [] }
  | .stopped _ => { l with running := l.running - 1 }

/- Can a message still come? A thread holds its end of the channel until it has reported. -/
def isOpen (l : Launcher) : Bool := l.threads.any (· != .reported)

def receive (l : Launcher) : Launcher :=
  if l.waiting ≠ 0 ∨ l.result.isSome then l
  else if l.running = 0 then { l with result := some (.ok ()) }
  else match l.queue with
    | m :: rest => { l with queue := rest }.handle m
    | [] => if l.isOpen then l else { l with result := some (.error .channelClosed) }

/-- The launcher after an event. `starts` says which servers start; an event that cannot happen
changes nothing. -/
def step (starts : Nat → Bool) (l : Launcher) : LauncherEvent → Launcher
  | .spawn =>
    if l.waiting = 0 then l
    else { l with
      waiting := l.waiting - 1
      threads := l.threads ++ [.checking]
      running := l.running + 1 }
  | .start server =>
    if starts server ∧ l.threads[server]? = some .checking then
      (l.setThread server .serving).send (.started server)
    else l
  | .askShutdown server =>
    if l.threads[server]? = some .serving then l.send .shutdown else l
  | .leave server =>
    if l.threads[server]? = some .serving ∨
        (!starts server ∧ l.threads[server]? = some .checking) then
      l.setThread server .left
    else l
  | .report server =>
    if l.threads[server]? = some .left then
      (l.setThread server .reported).send (.stopped server)
    else l
  | .receive => l.receive

def run (starts : Nat → Bool) (l : Launcher) (events : List LauncherEvent) : Launcher :=
  events.foldl (step starts) l

/- One order of events in which every server comes to its end: all are spawned, each one starts if
it can, leaves and reports, and the launcher receives until nothing is left. -/
def plainOrder (servers : Nat) : List LauncherEvent :=
  List.replicate servers .spawn ++
    (List.range servers).flatMap (fun i => [.start i, .leave i, .report i]) ++
    List.replicate (2 * servers + 1) .receive

end Launcher
end TagListing.Fleet
