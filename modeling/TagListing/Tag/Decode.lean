import TagListing.Tag.Basic
import TagListing.Settings.Getter
/-!
Tags and listings read from settings. The name of a tag converts like any text; a listing takes
exact texts only.
-/
namespace TagListing
open TagListing.Settings

def TagName.decode : Decoder TagName := fun t => t.asText.map TagName.mk

/- A table with a name, or a list whose first item is one. -/
def Tag.decode : Decoder Tag := fun t =>
  match t with
  | .table _ es =>
    match entryAt? "name" es with
    | some name => name.asText.map Tag.mk
    | none => .error (.shape (.missingField "name"))
  | .list _ (first :: _) => first.asText.map Tag.mk
  | .list _ [] => .error (.shape (.noElement "Tag"))
  | t => .error (.shape (.notRecord t.found "Tag"))

def exactNames? : List Tree → Option (List TagName)
  | [] => some []
  | .scalar _ (.text s) :: rest => (exactNames? rest).map (⟨s⟩ :: ·)
  | _ :: _ => none

def Listing.decode? : Tree → Option Listing
  | .table _ es =>
    match entryAt? "tags" es with
    | some (.list _ items) => (exactNames? items).map .envelope
    | _ => none
  | .list _ items => (exactNames? items).map .bare
  | _ => none

def Listing.decode : Decoder Listing := fun t =>
  match Listing.decode? t with
  | some l => .ok l
  | none => .error (.shape (.noVariant "TagListResponse"))

end TagListing
