import TagListing.Settings.Source
import TagListing.Failure
/-!
Services and how a server's list of them is loaded. Loading first reads where tags come from, then
goes through the list in order; what was done before a failure stays done.
-/
namespace TagListing

/- Where tags come from. A database goes before the fixed list. -/
structure StoreSettings where
  url : Option String
  tags : List String
  deriving DecidableEq, Repr

def StoreSettings.empty : StoreSettings := ⟨none, []⟩

def urlKey : String := "db.url"

def seedKey : String := "Tag.seed"

def StoreSettings.read (s : Settings) : Except Settings.Fault StoreSettings := do
  let url ← s.getText urlKey
  let tags ← s.getTexts seedKey
  .ok ⟨url, tags.getD []⟩

structure TagService where
  envelope : Bool
  deriving DecidableEq, Repr

def envelopeKey : String := "Tag.envelope"

def TagService.read (s : Settings) : Except Settings.Fault TagService := do
  let envelope ← s.getBool envelopeKey
  .ok ⟨envelope.getD false⟩

structure Services where
  store : StoreSettings
  services : List TagService
  deriving DecidableEq, Repr

namespace Services

def empty : Services := ⟨.empty, []⟩

def tagServiceName : String := "Tag"

def readService (s : Settings) (name : String) : Except Failure TagService :=
  if name = tagServiceName then orFail (TagService.read s)
  else .error (.other (.unknownService name))

/-- Loads listed services one after the other up to the first failure. A name counts as listed
once it has been met, whether or not it could be loaded. -/
def loadListed (s : Settings) (seen : List String) :
    List String → Services → Except Failure Unit × Services
  | [], ss => (.ok (), ss)
  | name :: rest, ss =>
    if name ∈ seen then (.error (.other (.repeatedService name)), ss)
    else match readService s name with
      | .error f => (.error f, ss)
      | .ok service =>
        loadListed s (name :: seen) rest { ss with services := ss.services ++ [service] }

def servicesKey (server : String) : String := server ++ ".services"

def listed (s : Settings) (server : String) : Except Failure (List String) :=
  match s.getTexts (servicesKey server) with
  | .error f => .error (.settings f)
  | .ok none => .error (.other (.missingServices server))
  | .ok (some names) => .ok names

def load (s : Settings) (server : String) (ss : Services) : Except Failure Unit × Services :=
  match StoreSettings.read s with
  | .error f => (.error (.settings f), ss)
  | .ok store =>
    let ss := { ss with store := store }
    match listed s server with
    | .error f => (.error f, ss)
    | .ok names => loadListed s [] names ss

def configured (s : Settings) (server : String) : Except Failure Services :=
  match load s server empty with
  | (.ok (), ss) => .ok ss
  | (.error f, _) => .error f

end Services
end TagListing
