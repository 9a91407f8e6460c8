import TagListing.Service.Basic
import TagListing.Tag.Endpoint
import TagListing.Database.Store
/-!
The application of a server's services. All of them share one store, and each registers the tag
endpoint, so the endpoint of the first one answers.
-/
namespace TagListing
open Http

namespace Services

def register {σ : Type} (store : Store σ) (registered : List (Endpoint σ))
    (service : TagService) : List (Endpoint σ) :=
  registered ++ [tagEndpoint service.envelope store]

def registered {σ : Type} (ss : Services) (store : Store σ) : List (Endpoint σ) :=
  ss.services.foldl (register store) []

def routes {σ : Type} (ss : Services) (store : Store σ) : List Text.Sign → Handler σ :=
  firstAnswers (ss.registered store)

def appOn {σ : Type} (ss : Services) (store : Store σ) : Handler σ :=
  scope apiPath (ss.routes store)

def answer (ss : Services) (r : Request) : Response :=
  match ss.store.url with
  | none => (ss.appOn (Store.fixed ss.store.tags) r ()).1
  | some _ => (ss.appOn (Database.tagStore .absent) r (none, ())).1

def warmUp (ss : StoreSettings) : Except Failure Unit :=
  match ss.url with
  | none => ((Store.fixed ss.tags).prepare ()).1
  | some _ => ((Database.tagStore .absent).prepare (none, ())).1

end Services
end TagListing
