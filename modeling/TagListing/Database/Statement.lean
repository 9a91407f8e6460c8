import TagListing.Database.Link
/-!
Statements and the calls on them. A statement is prepared on first use and again once the link has
another connection. A call looks for a client, prepares, executes; a closed connection is met by
another attempt after a pause, and each kind of attempt has a limit of its own. Between two steps
of a call anything may happen to the link and to the statement's cache.
-/
namespace TagListing.Database

structure Column where
  name : String
  type : Nat
  deriving DecidableEq, Repr

structure Statement where
  connection : Nat
  columns : List Column
  deriving DecidableEq, Repr

structure Prepared where
  client : Client
  statement : Statement
  deriving DecidableEq, Repr

def Prepared.on (client : Client) (columns : List Column) : Prepared :=
  ⟨client, client.connection, columns⟩

/- The bytes of a value; NULL has none. -/
abbrev Cell := Option (List UInt8)

structure Rows where
  columns : List Column
  cells : List (List Cell)
  deriving DecidableEq, Repr

def attempts : Nat := 10

def closedText : String := "connection closed"

def closedError : DatabaseError := ⟨none, closedText⟩

def isClosed (e : DatabaseError) : Bool := e.code.isNone && e.text == closedText

inductive Aim where
  | client
  | prepare
  | query
  deriving DecidableEq, Repr

inductive Outcome where
  | client (c : Client)
  | prepared (p : Prepared)
  | rows (r : Rows)
  | failed (f : Failure)
  deriving Repr

inductive Move where
  | check
  | look
  deriving DecidableEq, Repr

inductive Phase where
  | ready (next : Move)
  | pausing (next : Move)
  | preparing (client : Client)
  | executing (p : Prepared)
  | over (o : Outcome)
  deriving Repr

structure Call where
  aim : Aim
  looks : Nat
  closedPrepares : Nat
  closedExecutions : Nat
  phase : Phase
  deriving Repr

inductive CallEvent where
  | move
  | wake
  | prepared (answer : Except DatabaseError (List Column))
  | executed (answer : Except DatabaseError (List (List Cell)))

namespace Call

def begin (aim : Aim) : Call :=
  ⟨aim, 0, 0, 0, .ready (match aim with | .client => .look | _ => .check)⟩

def finish (c : Call) (o : Outcome) : Call := { c with phase := .over o }

def hand (c : Call) (p : Prepared) : Call :=
  match c.aim with
  | .query => { c with phase := .executing p }
  | _ => c.finish (.prepared p)

def reach (c : Call) (client : Client) : Call :=
  match c.aim with
  | .client => c.finish (.client client)
  | _ => { c with phase := .preparing client }

def look (c : Call) (s : LinkState) : Call :=
  if c.looks < attempts then
    match s.client? with
    | some client => c.reach client
    | none => { c with looks := c.looks + 1, phase := .pausing .look }
  else c.finish (.failed .noConnection)

/- The cached statement counts only while its connection is the live one. -/
def check (c : Call) (s : LinkState) (cache : Option Prepared) : Call :=
  match cache with
  | some p =>
    if s.isCurrent p.client.version then c.hand p else { c with phase := .ready .look }
  | none => { c with phase := .ready .look }

def prepareClosed (c : Call) : Call :=
  if c.closedPrepares + 1 < attempts then
    { c with closedPrepares := c.closedPrepares + 1, looks := 0, phase := .pausing .look }
  else c.finish (.failed .noConnection)

def executionClosed (c : Call) : Call :=
  if c.closedExecutions + 1 < attempts then
    { c with
      closedExecutions := c.closedExecutions + 1
      closedPrepares := 0
      looks := 0
      phase := .pausing .check }
  else c.finish (.failed .noConnection)

/-- The call after an event, and the cache. Only a prepare that succeeds changes the cache, and an
event that the call does not wait for changes nothing. -/
def step (s : LinkState) (cache : Option Prepared) (c : Call) (e : CallEvent) :
    Call × Option Prepared :=
  match c.phase, e with
  | .ready .check, .move => (c.check s cache, cache)
  | .ready .look, .move => (c.look s, cache)
  | .pausing next, .wake => ({ c with phase := .ready next }, cache)
  | .preparing client, .prepared (.ok columns) =>
    (c.hand (.on client columns), some (.on client columns))
  | .preparing _, .prepared (.error e) =>
    (if isClosed e then c.prepareClosed else c.finish (.failed (.database e)), cache)
  | .executing p, .executed (.ok cells) => (c.finish (.rows ⟨p.statement.columns, cells⟩), cache)
  | .executing _, .executed (.error e) =>
    (if isClosed e then c.executionClosed else c.finish (.failed (.database e)), cache)
  | _, _ => (c, cache)

def outcome? (c : Call) : Option Outcome :=
  match c.phase with
  | .over o => some o
  | _ => none

end Call
end TagListing.Database
