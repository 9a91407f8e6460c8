import TagListing.Database.Statement
import TagListing.Rehearsal.Clock
/-!
A scripted database server. It meets each attempt to connect and each request as its script says,
has at most one live connection and keeps a log of what it saw. Where a script ends the server
accepts, prepares a statement with one text column and answers its own rows.
-/
namespace TagListing.Rehearsal
open Database

inductive Welcome where
  | accept
  | drop
  | refuse
  deriving DecidableEq, Repr

inductive PrepareReply where
  | columns (cs : List Column)
  | drop
  | fail (e : DatabaseError)
  deriving DecidableEq, Repr

/- The code of an error for which a script names none: an internal error. -/
def internalError : String := "XX000"

structure QueryReply where
  rows : List (List Cell)
  error : Option DatabaseError
  drops : Bool
  deriving DecidableEq, Repr

/- What the client makes of the reply. Rows without their end are lost. -/
def QueryReply.answer (r : QueryReply) : Except DatabaseError (List (List Cell)) :=
  if r.drops then .error closedError
  else match r.error with
    | some e => .error e
    | none => .ok r.rows

structure Script where
  welcome : Welcome
  prepares : List PrepareReply
  queries : List QueryReply
  closesAfter : Option Nat
  deriving Repr

def Script.plain : Script := ⟨.accept, [], [], none⟩

structure Connection where
  number : Nat
  prepares : List PrepareReply
  queries : List QueryReply
  closesAt : Option Nat
  deriving Repr

inductive Sight where
  | connect (number : Nat) (w : Welcome)
  | prepare (number : Nat) (text : String)
  | query (number : Nat)
  | terminate (number : Nat)
  deriving DecidableEq, Repr

structure Server where
  present : Bool
  scripts : List Script
  rows : List (List Cell)
  attempts : Nat
  live : Option Connection
  log : List Sight

namespace Server

def opened (present : Bool) (scripts : List Script) (rows : List (List Cell)) : Server :=
  ⟨present, scripts, rows, 0, none, []⟩

def see (s : Server) (e : Sight) : Server := { s with log := s.log ++ [e] }

def defaultColumns : List Column := [⟨"tag_name", 25⟩]

def dial (now : Nat) (s : Server) : Option Nat × Server :=
  if !s.present then (none, s)
  else
    let script := s.scripts.headD .plain
    let n := s.attempts + 1
    let s := { s with scripts := s.scripts.tail, attempts := n }.see (.connect n script.welcome)
    if script.welcome = .accept then
      let c := ⟨n, script.prepares, script.queries, script.closesAfter.map (tickAfter now)⟩
      (some n, { s with live := some c })
    else (none, s)

def prepare (number : Nat) (text : String) (s : Server) :
    Except DatabaseError (List Column) × Server :=
  match s.live with
  | none => (.error closedError, s)
  | some c =>
    if c.number ≠ number then (.error closedError, s)
    else
      let s := { s with live := some { c with prepares := c.prepares.tail } }.see
        (.prepare number text)
      match c.prepares.head? with
      | none => (.ok defaultColumns, s)
      | some (.columns cs) => (.ok cs, s)
      | some .drop => (.error closedError, { s with live := none })
      | some (.fail e) => (.error e, s)

def query (number : Nat) (s : Server) : Except DatabaseError (List (List Cell)) × Server :=
  match s.live with
  | none => (.error closedError, s)
  | some c =>
    if c.number ≠ number then (.error closedError, s)
    else
      let reply := c.queries.headD ⟨s.rows, none, false⟩
      let s := s.see (.query number)
      (reply.answer,
        { s with live := if reply.drops then none else some { c with queries := c.queries.tail } })

def close (now : Nat) (s : Server) : Server :=
  match s.live.bind (·.closesAt) with
  | some t => if t ≤ now then { s with live := none } else s
  | none => s

def terminate (s : Server) : Server :=
  match s.live with
  | some c => { s with live := none }.see (.terminate c.number)
  | none => s

end Server
end TagListing.Rehearsal
