import TagListing.Database.Statement
/-!
One link shared by statements and by calls on them. The keeper, every call and the release of the
link take their steps in any order; each step is one event. A call belongs to one statement and
sees that statement's cache only.
-/
namespace TagListing.Database

structure Shared where
  keeper : Keeper
  state : LinkState
  held : Bool
  caches : List (Option Prepared)
  calls : List (Nat × Call)

inductive SharedEvent where
  | keeper (e : KeeperEvent)
  | start (statement : Nat) (aim : Aim)
  | call (position : Nat) (e : CallEvent)
  | release

namespace Shared

def initial (statements : Nat) : Shared :=
  ⟨.initial, .initial, true, List.replicate statements none, []⟩

def cache (s : Shared) (statement : Nat) : Option Prepared := (s.caches[statement]?).join

def stepKeeper (s : Shared) (e : KeeperEvent) : Shared :=
  let (keeper, stored) := s.keeper.step s.held e
  { s with keeper := keeper, state := stored.getD s.state }

def stepCall (s : Shared) (position : Nat) (e : CallEvent) : Shared :=
  match s.calls[position]? with
  | none => s
  | some (statement, c) =>
    let (c, cache) := c.step s.state (s.cache statement) e
    { s with caches := s.caches.set statement cache, calls := s.calls.set position (statement, c) }

def step (s : Shared) : SharedEvent → Shared
  | .keeper e => s.stepKeeper e
  | .start statement aim => { s with calls := s.calls ++ [(statement, .begin aim)] }
  | .call position e => s.stepCall position e
  | .release => { s with held := false }

def run (s : Shared) (events : List SharedEvent) : Shared := events.foldl step s

end Shared
end TagListing.Database
