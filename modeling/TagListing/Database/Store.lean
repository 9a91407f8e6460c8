import TagListing.Database.Rows
import TagListing.Database.Session
import TagListing.Tag.Store
/-!
The store of tags in a database. It runs its calls one after the other against a peer and keeps the
cache of its one statement between them.
-/
namespace TagListing.Database

def tagQuery : String :=
  "SELECT tag_name FROM article_tags GROUP BY tag_name ORDER BY tag_name"

def listed : Option Outcome → Except Failure (List Tag)
  | some (.rows r) => tagsOf r
  | some (.failed f) => .error f
  | _ => .error .noConnection

def warmed : Option Outcome → Except Failure Unit
  | some (.failed f) => .error f
  | some _ => .ok ()
  | none => .error .noConnection

def tagStore {σ : Type} (p : Peer σ) : Store (Option Prepared × σ) where
  listAll s :=
    let session := p.call .query s.1 s.2
    (listed session.call.outcome?, session.cache, session.peer)
  prepare s :=
    let session := p.call .prepare s.1 s.2
    (warmed session.call.outcome?, session.cache, session.peer)

def Peer.absent : Peer Unit where
  look s := (.connecting 1, s)
  pause s := s
  prepare _ s := (.error closedError, s)
  execute _ s := (.error closedError, s)

end TagListing.Database
