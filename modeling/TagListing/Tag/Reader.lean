import TagListing.Tag.Basic
import TagListing.Json.Reader
/-!
Tags and listings read from JSON text. A listing is read as a whole value first and matched then,
so a malformed tail comes before a mismatch. A single tag is read member by member, and the first
value of a wrong kind ends the reading.
-/
namespace TagListing
open TagListing.Json

def namesOf? : List Value → Option (List TagName)
  | [] => some []
  | .text s :: rest => (namesOf? rest).map (⟨s⟩ :: ·)
  | _ :: _ => none

/- An object with exactly one member `tags`, or a list; of texts in both cases. -/
def Listing.ofJson? : Value → Option Listing
  | .object ms =>
    match ms.filter (fun m => m.1 == "tags") with
    | [(_, .list items)] => (namesOf? items).map .envelope
    | _ => none
  | .list items => (namesOf? items).map .bare
  | _ => none

def Listing.read (s : List Char) : Except Fault Listing := do
  let (v, rest) ← value .keep nestingLimit s
  match Listing.ofJson? v with
  | some l => finish l rest
  | none => .error .mismatch

def TagName.read (s : List Char) : Except Fault TagName := do
  let (name, rest) ← wantedText s
  finish ⟨name⟩ rest

/- The members of a tag after the opening brace or a comma. The name may be given once. -/
def tagMembers : Nat → Option String → List Char → Except Fault (Tag × List Char)
  | 0, _, _ => .error .truncated
  | fuel + 1, found, s => do
    let (member, rest) ← memberName .keep s
    let (found, rest) ←
      if member = "name" then
        match found with
        | some _ => .error .mismatch
        | none => do
          let rest ← expect ':' (skipBlank rest)
          let (name, rest) ← wantedText rest
          .ok (some name, rest)
      else do
        let rest ← expect ':' (skipBlank rest)
        let rest ← skim rest
        .ok (found, rest)
    match skipBlank rest with
    | [] => .error .truncated
    | c :: rest =>
      if c = '\x7d' then
        match found with
        | some name => .ok (⟨name⟩, rest)
        | none => .error .mismatch
      else if c = ',' then tagMembers fuel found rest
      else .error .malformed

def Tag.read (s : List Char) : Except Fault Tag :=
  match skipBlank s with
  | '[' :: rest =>
    match skipBlank rest with
    | [] => .error .truncated
    | ']' :: _ => .error .mismatch
    | _ => do
      let (name, rest) ← wantedText rest
      let rest ← expect ']' (skipBlank rest)
      finish ⟨name⟩ rest
  | '\x7b' :: rest =>
    match skipBlank rest with
    | '\x7d' :: _ => .error .mismatch
    | _ => do
      let (t, rest) ← tagMembers (rest.length + 1) none rest
      finish t rest
  | _ => .error (wrongKind s)

end TagListing
