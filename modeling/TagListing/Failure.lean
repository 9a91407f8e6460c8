import TagListing.Json.Printer
import TagListing.Settings.Fault
/-!
Failures of the program by cause, and their words. What a client is told of a failure is the
business of `Http.Response`.
-/
namespace TagListing

inductive Complaint where
  | missingServers
  | missingServices (server : String)
  | repeatedService (name : String)
  | unknownService (name : String)
  | noWorkers (server : String)
  | backlogOutOfRange (server : String)
  | missingListen (server : String)
  /- Any other text, with the contexts put around it, the innermost first. -/
  | note (text : String) (contexts : List String)
  deriving DecidableEq, Repr

def maxBacklog : Int := 2147483647

/- Of nested contexts the outermost is shown. -/
def Complaint.message : Complaint → String
  | .missingServers => "missing list of servers"
  | .missingServices server => "missing list of services: " ++ server ++ ".services"
  | .repeatedService name => "service listed more than once: " ++ name
  | .unknownService name => "unknown service: " ++ name
  | .noWorkers server => server ++ ".workers must be > 0"
  | .backlogOutOfRange server =>
    server ++ ".backlog must be between 1 and " ++ Numeric.writeInt maxBacklog
  | .missingListen server => "missing " ++ server ++ ".listen"
  | .note text contexts => contexts.getLast?.getD text

structure DatabaseError where
  code : Option String
  text : String
  deriving DecidableEq, Repr

inductive SystemFault where
  | malformedAddress
  | malformedPort
  | unknownHost
  | foreignAddress
  | refused
  deriving DecidableEq, Repr

def inBraces (s : String) : String := "\x7b " ++ s ++ " \x7d"

def SystemFault.inspected : SystemFault → String
  | .malformedAddress =>
    "Error " ++ inBraces "kind: InvalidInput, message: \"invalid socket address\""
  | .malformedPort => "Error " ++ inBraces "kind: InvalidInput, message: \"invalid port value\""
  | .unknownHost =>
    "Custom " ++ inBraces ("kind: Uncategorized, error: " ++
      "\"failed to lookup address information: Name or service not known\"")
  | .foreignAddress =>
    "Os " ++ inBraces ("code: 99, kind: AddrNotAvailable, " ++
      "message: \"Cannot assign requested address\"")
  | .refused => "Kind(Other)"

inductive Failure where
  | unauthorized (reason : Json.Value)
  | disconnected (reason : String)
  | database (e : DatabaseError)
  | channelClosed
  | io (f : SystemFault)
  | settings (f : Settings.Fault)
  | other (c : Complaint)
  deriving Repr

def Failure.message : Failure → String
  | .unauthorized reason => "unauthorized: " ++ reason.sorted.compact
  | .disconnected reason => "disconnected: " ++ reason
  | .database _ => "postgres error"
  | .channelClosed => "crossbeam recv error"
  | .io _ => "std io error"
  | .settings _ => "config error"
  | .other c => c.message

def Failure.detail : Failure → String
  | .settings f => f.message
  | f => f.message

def Failure.inspected : Failure → String
  | .unauthorized reason => "Unauthorized(" ++ reason.sorted.compact ++ ")"
  | .disconnected reason => "DisconnectedError(" ++ Text.quoted reason ++ ")"
  | .database e => "PgError " ++ inBraces ("source: " ++ e.text)
  | .channelClosed => "RecvError " ++ inBraces "source: RecvError"
  | .io f => "IOError " ++ inBraces ("source: " ++ f.inspected)
  | .settings f => "ConfigError " ++ inBraces ("source: " ++ f.message)
  | .other c => "Other(" ++ c.message ++ ")"

def Failure.noConnection : Failure := .disconnected "Failed to connect to database"

def orFail {α : Type} : Except Settings.Fault α → Except Failure α
  | .ok a => .ok a
  | .error f => .error (.settings f)

end TagListing
