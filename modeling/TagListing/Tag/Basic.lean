import TagListing.Json.Printer
/-!
Tags and their wire forms. A stored tag is a record with a name; on the wire a listing has bare
names, either alone or inside an envelope. Order and multiplicity are the store's.
-/
namespace TagListing

structure Tag where
  name : String
  deriving DecidableEq, Repr

structure TagName where
  text : String
  deriving DecidableEq, Repr

def Tag.wire (t : Tag) : TagName := ⟨t.name⟩

inductive Listing where
  | bare (names : List TagName)
  | envelope (names : List TagName)
  deriving DecidableEq, Repr

namespace Listing

def names : Listing → List TagName
  | .bare ns => ns
  | .envelope ns => ns

def assemble (envelope : Bool) (tags : List Tag) : Listing :=
  let ns := tags.map Tag.wire
  if envelope then .envelope ns else .bare ns

end Listing

open TagListing.Json (Value)

def TagName.toJson (n : TagName) : Value := .text n.text

def Tag.toJson (t : Tag) : Value := .object [("name", .text t.name)]

def Listing.toJson : Listing → Value
  | .bare ns => .list (ns.map TagName.toJson)
  | .envelope ns => .object [("tags", .list (ns.map TagName.toJson))]

end TagListing
