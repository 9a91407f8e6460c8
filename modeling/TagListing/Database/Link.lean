import TagListing.Failure
/-!
The shared link to the database. A keeper holds it up: it dials, shows what state the link is in,
and dials again after a pause when an attempt failed or a connection was lost. Each cycle from one
connection to the next has a version of its own; failed attempts belong to the cycle they are made
in. The keeper stops once nobody holds the link any more, or after a connection that ended cleanly.
-/
namespace TagListing.Database

structure Client where
  version : Nat
  connection : Nat
  deriving DecidableEq, Repr

inductive LinkState where
  | disconnected (version : Nat)
  | connecting (version : Nat)
  | connected (client : Client)
  deriving DecidableEq, Repr

namespace LinkState

def initial : LinkState := .disconnected 0

def client? : LinkState → Option Client
  | .connected c => some c
  | _ => none

def isCurrent (version : Nat) (s : LinkState) : Bool :=
  match s.client? with
  | some c => c.version == version
  | none => false

end LinkState

inductive Keeper where
  | resting (version : Nat)
  | dialling (version : Nat)
  | backoff (version : Nat)
  | attached (client : Client)
  | stopped
  deriving DecidableEq, Repr

inductive KeeperEvent where
  | wake
  | accepted (connection : Nat)
  | refused
  | ended (clean : Bool)
  deriving DecidableEq, Repr

namespace Keeper

def initial : Keeper := .resting 0

/-- The keeper after an event and the state it stores. It stores none once nobody holds the link,
and an event that it does not wait for changes nothing. -/
def step (held : Bool) : Keeper → KeeperEvent → Keeper × Option LinkState
  | .resting v, .wake =>
    if held then (.dialling (v + 1), some (.connecting (v + 1))) else (.stopped, none)
  | .dialling v, .refused => if held then (.backoff v, none) else (.stopped, none)
  | .dialling v, .accepted n =>
    if held then (.attached ⟨v, n⟩, some (.connected ⟨v, n⟩)) else (.stopped, none)
  | .backoff v, .wake => (.dialling v, none)
  | .attached c, .ended clean =>
    if held then
      (if clean then .stopped else .resting c.version, some (.disconnected c.version))
    else (.stopped, none)
  | k, _ => (k, none)

end Keeper
end TagListing.Database
