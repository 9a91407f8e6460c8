import TagListing.Toml.Reader
import TagListing.Toml.Settled
/-!
A TOML document as one table. Sections may come in any order; a table has at most one section of
its own, and a name set in it may not head another section. The first section under a name decides
whether the name is a list of tables: each such header then starts the next item, and the sections
up to the following one belong to it. Names that sections set first are subject to the reserved name
as entries are.
-/
namespace TagListing.Toml

def Section.below (s : Section) : Section := { s with path := s.path.tail }

def heads : List Section → List String
  | [] => []
  | s :: rest =>
    match s.path with
    | [] => heads rest
    | k :: _ => k :: (heads rest).filter (· ≠ k)

def itemGroups : List Section → List (List Section)
  | [] => []
  | s :: rest =>
    if s.path = [] ∧ s.isItem then
      match itemGroups rest with
      | [] => [[{ s with isItem := false }]]
      | g :: more =>
        if startsItem rest then [{ s with isItem := false }] :: g :: more
        else ({ s with isItem := false } :: g) :: more
    else match itemGroups rest with
      | [] => [[s]]
      | g :: more => if startsItem rest then [s] :: g :: more else (s :: g) :: more
where
  startsItem : List Section → Bool
    | s :: _ => s.path.isEmpty && s.isItem
    | [] => false

def ownEntries (sections : List Section) : Option Entries :=
  match sections.filter (·.path.isEmpty) with
  | [] => some []
  | [s] => if s.isItem then none else entriesSettled s.entries
  | _ => none

/- Is the reserved name the first that the sections of a table set, and what stands there? A
section below is no text. -/
def leadingSection? : List Section → Option (Option Value)
  | [] => none
  | s :: rest =>
    match s.path, s.entries with
    | key :: _, _ => if key = momentKey then some none else none
    | [], [] => leadingSection? rest
    | [], es => (leadingMoment? es).map some

/-- The items of a list of tables. Sections left over by an item that stands for a moment belong to
the next one, after its own entries; there must be a next one. -/
def assembleItems (table : List Section → Option Entries) :
    List Section → List (List Section) → Option (List Value)
  | left, [] => if left.isEmpty then some [] else none
  | left, group :: more =>
    let group := group.take 1 ++ left ++ group.drop 1
    match leadingSection? group with
    | some v? => do
      let v ← v?
      let moment ← v.spelled
      let rest ← assembleItems table (group.drop 1) more
      some (moment :: rest)
    | none => do
      let es ← table group
      let rest ← assembleItems table [] more
      some (.table false es :: rest)

def assemble : Nat → List Section → Option Entries
  | 0, _ => none
  | fuel + 1, sections => do
    let own ← ownEntries sections
    (heads sections).foldlM (fun es k => addHead (assemble fuel) sections k es) own
where
  addHead (inner : List Section → Option Entries) (sections : List Section) (k : String)
      (es : Entries) : Option Entries :=
    if hasEntry k es then none
    else do
      let v ← valueAt inner ((sections.filter (·.path.head? == some k)).map Section.below)
      some (es ++ [(k, v)])
  /- What the sections under a name make. A moment has no other section. -/
  valueAt (inner : List Section → Option Entries) (under : List Section) : Option Value :=
    if itemGroups.startsItem under then (assembleItems inner [] (itemGroups under)).map .list
    else match leadingSection? under with
      | some v? => if under.length = 1 then v?.bind Value.spelled else none
      | none => (inner under).map (.table false)

def depth (sections : List Section) : Nat := (sections.map (·.path.length)).foldl max 0

/- The table that a text denotes. One that stands for a moment as a whole has no entries. -/
def parse (text : String) : Option Entries := do
  let ts ← tokens text.toList
  let sections ← readLines (ts.length + 1) ⟨[], false, []⟩ ts
  match leadingSection? sections with
  | some v? => do
    let v ← v?
    let _ ← v.spelled
    some []
  | none => assemble (depth sections + 1) sections

end TagListing.Toml
