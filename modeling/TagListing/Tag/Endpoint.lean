import TagListing.Tag.Store
import TagListing.Http.Route
/-!
The tag endpoint: one read of the store for each request, answered in the shape that was chosen.
Everyone may read it.
-/
namespace TagListing
open Http

def listingResponse (envelope : Bool) : Except Failure (List Tag) → Response
  | .ok tags => .json 200 (Listing.assemble envelope tags).toJson
  | .error f => f.response

def listTags {σ : Type} (envelope : Bool) (store : Store σ) : Handler σ :=
  guard .publicRead fun _ s =>
    let (answer, s) := store.listAll s
    (listingResponse envelope answer, s)

def apiPath : List Char := ['/', 'a', 'p', 'i']

def tagsPath : List Char := ['/', 't', 'a', 'g', 's']

def tagEndpoint {σ : Type} (envelope : Bool) (store : Store σ) : Endpoint σ :=
  ⟨tagsPath, "GET", listTags envelope store⟩

def tagRoutes {σ : Type} (envelope : Bool) (store : Store σ) : List Text.Sign → Handler σ :=
  firstAnswers [tagEndpoint envelope store]

def tagApp {σ : Type} (envelope : Bool) (store : Store σ) : Handler σ :=
  scope apiPath (tagRoutes envelope store)

def guardedTagApp {σ : Type} (p : Policy) (envelope : Bool) (store : Store σ) : Handler σ :=
  scope apiPath fun rest => guard p (tagRoutes envelope store rest)

def secretApp (path : List Char) (ps : List Policy) : Handler Unit :=
  resource (.read path) "GET" (guards ps) fun _ s => (⟨200, none, "secret"⟩, s)

end TagListing
