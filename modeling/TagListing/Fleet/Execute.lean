import TagListing.Fleet.Server
import TagListing.Fleet.Launcher
/-!
The fleet of listed servers. Every listed server is launched, and the fleet ends well once all have
ended, whatever became of each of them. Without a list nothing is launched.
-/
namespace TagListing.Fleet

def serversKey : String := "servers"

def serverNames (s : Settings) : Except Failure (List String) :=
  match s.getTexts serversKey with
  | .error f => .error (.settings f)
  | .ok none => .error (.other .missingServers)
  | .ok (some names) => .ok names

def startsAt (m : Machine) (s : Settings) (names : List String) (position : Nat) : Bool :=
  match names[position]? with
  | some name => (startServer m s name).toBool
  | none => false

def launch (m : Machine) (s : Settings) (names : List String) : Except Failure Unit :=
  let l := (Launcher.initial names.length).run (startsAt m s names)
    (Launcher.plainOrder names.length)
  l.result.getD (.error .channelClosed)

def execute (m : Machine) (s : Settings) : Except Failure Unit × List Report :=
  match serverNames s with
  | .error f => (.error f, [])
  | .ok names => (launch m s names, names.map (report m s))

end TagListing.Fleet
