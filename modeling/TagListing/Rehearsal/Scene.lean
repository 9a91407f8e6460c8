import TagListing.Rehearsal.Server
import TagListing.Database.Shared
import TagListing.Database.Preparation
/-!
A shared link against a scripted server in virtual time. Only pauses take time. At one moment the
server acts first, then the keeper, then the calls in their order; the requests that calls have made
by then are answered together. Every change of the link is a step of `Database.Shared`.
-/
namespace TagListing.Rehearsal
open Database

structure Scene where
  now : Nat
  shared : Shared
  server : Server
  texts : List String
  /- When the keeper's pause is over. -/
  keeperDue : Nat
  /- When the pauses of calls are over, by the call's position. -/
  callsDue : List (Nat × Nat)
  /- Prepares that need more than one request, by the call's position. -/
  preparations : List (Nat × Preparation)

namespace Scene

def opened (server : Server) (texts : List String) : Scene :=
  ⟨0, .initial texts.length, server, texts, 0, [], []⟩

def tell (s : Scene) (e : SharedEvent) : Scene := { s with shared := s.shared.step e }

def phase? (s : Scene) (position : Nat) : Option Phase :=
  (s.shared.calls[position]?).map fun c => c.2.phase

def isOver (s : Scene) (position : Nat) : Bool :=
  match s.phase? position with
  | some (.over _) => true
  | none => true
  | _ => false

/-! ### The keeper -/

def tellKeeper (s : Scene) (e : KeeperEvent) : Scene :=
  { s with keeperDue := tickAfter s.now reconnectPause }.tell (.keeper e)

def keeperMoves (s : Scene) : Bool :=
  match s.shared.keeper with
  | .resting _ => s.keeperDue ≤ s.now
  | .backoff _ => s.keeperDue ≤ s.now
  | .dialling _ => true
  | .attached _ => !s.shared.held || s.server.live.isNone
  | .stopped => false

/- What the keeper waits for has come. A link that nobody holds is closed cleanly; a connection
that is made for nobody is dropped. -/
def moveKeeper (s : Scene) : Scene :=
  match s.shared.keeper with
  | .resting _ => s.tellKeeper .wake
  | .backoff _ => s.tellKeeper .wake
  | .dialling _ =>
    match s.server.dial s.now with
    | (none, server) => { s with server := server }.tellKeeper .refused
    | (some n, server) =>
      let server := if s.shared.held then server else { server with live := none }
      { s with server := server }.tellKeeper (.accepted n)
  | .attached _ =>
    if s.server.live.isNone then s.tellKeeper (.ended false)
    else { s with server := s.server.terminate }.tellKeeper (.ended true)
  | .stopped => s

def keeperTime? (s : Scene) : Option Nat :=
  match s.shared.keeper with
  | .resting _ => some s.keeperDue
  | .backoff _ => some s.keeperDue
  | _ => none

/-! ### Calls -/

def moveCall (s : Scene) (position : Nat) : Scene :=
  let s := (s.tell (.call position .move)).tell (.call position .move)
  match s.phase? position with
  | some (.pausing _) =>
    if s.callsDue.any (·.1 == position) then s
    else { s with callsDue := s.callsDue ++ [(position, tickAfter s.now retryPause)] }
  | _ => s

def wakeCalls (s : Scene) : Scene :=
  let due := s.callsDue.filter fun d => d.2 ≤ s.now
  due.foldl (fun s d => s.tell (.call d.1 .wake))
    { s with callsDue := s.callsDue.filter fun d => s.now < d.2 }

def preparation (s : Scene) (position statement : Nat) : Preparation :=
  match s.preparations.find? (·.1 == position) with
  | some p => p.2
  | none => .begin (s.texts.getD statement "")

def askPrepare (s : Scene) (position : Nat) (client : Client) (p : Preparation) :
    Option CallEvent × Scene :=
  let others := s.preparations.filter (·.1 != position)
  if isSendable p.request then
    let (answer, server) := s.server.prepare client.connection p.request
    match p.next answer with
    | .ask p => (none, { s with server := server, preparations := (position, p) :: others })
    | .over answer => (some (.prepared answer), { s with server := server, preparations := others })
  else (some (.prepared (.error unsendable)), s)

def request? (s : Scene) (position : Nat) : Option (Option CallEvent × Scene) :=
  match s.shared.calls[position]? with
  | some (statement, c) =>
    match c.phase with
    | .preparing client =>
      some (s.askPrepare position client (s.preparation position statement))
    | .executing p =>
      let (answer, server) := s.server.query p.statement.connection
      some (some (.executed answer), { s with server := server })
    | _ => none
  | none => none

def collect (s : Scene) : List Nat → List (Nat × Option CallEvent) × Scene
  | [] => ([], s)
  | position :: rest =>
    match s.request? position with
    | none => collect s rest
    | some (e, s) =>
      let (more, s) := collect s rest
      ((position, e) :: more, s)

/- The keeper sees a connection that was closed before the calls see their answers. -/
def deliver (s : Scene) (answers : List (Nat × Option CallEvent)) : Scene :=
  let s := if s.keeperMoves then s.moveKeeper else s
  answers.foldl (fun s a =>
    match a.2 with
    | some e => s.tell (.call a.1 e)
    | none => s) s

/-! ### Time -/

def earliest : List Nat → Option Nat
  | [] => none
  | t :: rest =>
    match earliest rest with
    | none => some t
    | some u => some (min t u)

def nextTime? (s : Scene) (stop : Option Nat) : Option Nat :=
  earliest (stop.toList ++ s.keeperTime?.toList ++ s.callsDue.map (·.2) ++
    (s.server.live.bind (·.closesAt)).toList)

def moveKeeperOn (s : Scene) : Scene :=
  let s := if s.keeperMoves then s.moveKeeper else s
  if s.keeperMoves then s.moveKeeper else s

def advance (s : Scene) (time : Nat) : Scene :=
  let s := { s with now := time, server := s.server.close time }
  s.moveKeeperOn.wakeCalls

def isDone (s : Scene) (positions : List Nat) (stop : Option Nat) : Bool :=
  match stop with
  | some t => t ≤ s.now
  | none => positions.all s.isOver

def play (positions : List Nat) (stop : Option Nat) : Nat → Scene → Scene
  | 0, s => s
  | turns + 1, s =>
    let s := positions.foldl moveCall s
    if s.isDone positions stop then s
    else match s.collect positions with
      | ([], s) =>
        if s.keeperMoves then play positions stop turns s.moveKeeperOn
        else match s.nextTime? stop with
          | some t => play positions stop turns (s.advance t)
          | none => s
      | (answers, s) => play positions stop turns (s.deliver answers)

end Scene

/-! ### Acts -/

inductive Ask where
  | call (statement : Nat) (aim : Aim)
  | isCurrent (version : Nat)

inductive Answer where
  | outcome (o : Option Outcome)
  | truth (b : Bool)

inductive Act where
  | ask (asks : List Ask)
  | sleep (milliseconds : Nat)
  | release

namespace Scene

def turnsFor (calls : Nat) : Nat := 20000 * (calls + 1)

def outcome? (s : Scene) (position : Nat) : Option Outcome :=
  (s.shared.calls[position]?).bind fun c => c.2.outcome?

inductive Asked where
  | truth (b : Bool)
  | call (position : Nat)

def Asked.position? : Asked → Option Nat
  | .truth _ => none
  | .call position => some position

def start (s : Scene) : List Ask → List Asked × Scene
  | [] => ([], s)
  | .call statement aim :: rest =>
    let (more, t) := start (s.tell (.start statement aim)) rest
    (.call s.shared.calls.length :: more, t)
  | .isCurrent version :: rest =>
    let (more, t) := start s rest
    (.truth (s.shared.state.isCurrent version) :: more, t)

def answer (s : Scene) : Asked → Answer
  | .truth b => .truth b
  | .call position => .outcome (s.outcome? position)

def act (s : Scene) : Act → List Answer × Scene
  | .ask asks =>
    let (asked, s) := s.start asks
    let s := s.play (asked.filterMap Asked.position?) none (turnsFor asks.length)
    (asked.map s.answer, s)
  | .sleep ms => ([], s.play [] (some (tickAfter s.now ms)) (turnsFor 0 + ms))
  | .release => ([], s.tell .release)

def perform (s : Scene) : List Act → List (List Answer) × Scene
  | [] => ([], s)
  | a :: rest =>
    let (answers, s) := s.act a
    let (more, s) := perform s rest
    (answers :: more, s)

end Scene
end TagListing.Rehearsal
