import TagListing.Proofs.Json.Printed
import TagListing.Tag.Reader

/-! Tags, names and listings on the wire. What is written of one is read back as the same one, a
listing in the shape and with the names it had. Texts that were not written here are not
claimed. -/
namespace TagListing
open TagListing.Json

theorem namesWritten (ns : List TagName) : namesOf? (ns.map TagName.toJson) = some ns := by
  induction ns with
  | nil => rfl
  | cons n ns ih => simp only [List.map_cons, TagName.toJson, namesOf?, ih, Option.map]

theorem namesPlain (n : Nat) (ns : List TagName) : ∀ v ∈ ns.map TagName.toJson, v.Plain n := by
  intro v member
  obtain ⟨name, _, rfl⟩ := List.mem_map.mp member
  exact .text n name.text

namespace Listing

theorem plain (l : Listing) : l.toJson.Plain nestingLimit := by
  cases l with
  | bare ns => exact .list (namesPlain _ ns)
  | envelope ns => exact onlyPlain (.list (namesPlain _ ns)) "tags"

theorem shapeWritten (l : Listing) : ofJson? l.toJson = some l := by
  cases l with
  | bare ns => simp only [toJson, ofJson?, namesWritten, Option.map]
  | envelope ns =>
    have only : [("tags", Value.list (ns.map TagName.toJson))].filter (fun m => m.1 == "tags") =
        [("tags", Value.list (ns.map TagName.toJson))] := List.filter_cons_of_pos (by simp)
    simp only [toJson, ofJson?, only, namesWritten, Option.map]

theorem assembledShape (envelope : Bool) (tags : List Tag) : (assemble envelope tags).toJson =
    let texts := tags.map fun t => Value.text t.name
    if envelope then .object [("tags", .list texts)] else .list texts := by
  have each : (tags.map Tag.wire).map TagName.toJson = tags.map fun t => Value.text t.name := by
    rw [List.map_map]
    rfl
  cases envelope with
  | false => exact congrArg Value.list each
  | true => exact congrArg (fun items => Value.object [("tags", .list items)]) each

theorem readWritten (l : Listing) : Listing.read (printValue l.toJson) = .ok l := by
  have whole := valuePrinted l.plain []
  rw [List.append_nil] at whole
  simp only [Listing.read, whole, bind, Except.bind, shapeWritten]
  rfl

end Listing

theorem TagName.readWritten (n : TagName) : TagName.read (printValue n.toJson) = .ok n := by
  have whole := wantedTextPrinted n.text []
  rw [List.append_nil] at whole
  simp only [TagName.read, TagName.toJson, printValue, whole, bind, Except.bind]
  rfl

namespace Tag

theorem plain (t : Tag) : t.toJson.Plain nestingLimit := onlyPlain (.text _ t.name) "name"

theorem membersWritten (t : Tag) (fuel : Nat) (rest : List Char) :
    tagMembers (fuel + 1) none
        (printText "name" ++ ':' :: (printText t.name ++ '\x7d' :: rest)) = .ok (t, rest) := by
  have colon := skipBlankAt (c := ':') (by decide)
  have brace := skipBlankAt (c := '\x7d') (by decide)
  simp only [tagMembers, memberNamePrinted, ↓reduceIte, colon, expect, wantedTextPrinted, brace,
    bind, Except.bind]

theorem readWritten (t : Tag) : Tag.read (printValue t.toJson) = .ok t := by
  have brace := skipBlankAt (c := '\x7b') (by decide)
  have quote := skipBlankAt (c := '"') (by decide)
  have members := membersWritten t
    (printText "name" ++ ':' :: (printText t.name ++ ['\x7d'])).length []
  simp only [toJson, printValue, printMembers, commaJoined, List.append_assoc, List.cons_append]
  simp only [Tag.read, brace]
  split
  · rename_i empty
    exact absurd (List.cons.inj ((quote _).symm.trans empty)).1 (by decide)
  · rw [members]
    rfl

end Tag

/- What is written is JSON of the wire's shapes, so that others may read it: a listing has its names
as texts, one for each tag and in their order, alone or as the only member of an object. Reading it
here gives the value back. -/
theorem writtenReadBack :
    (∀ (tags : List Tag) (envelope : Bool),
      let names := tags.map fun t => TagName.mk t.name
      let texts := tags.map fun t => Value.text t.name
      let written := (Listing.assemble envelope tags).toJson.compact.toList
      Json.read written = .ok (if envelope then .object [("tags", .list texts)] else .list texts) ∧
      ∃ l, Listing.read written = .ok l ∧
        l = (if envelope then .envelope names else .bare names) ∧ l.names = names) ∧
    (∀ t : Tag, Json.read t.toJson.compact.toList = .ok (.object [("name", .text t.name)]) ∧
      Tag.read t.toJson.compact.toList = .ok t) ∧
    ∀ n : TagName, Json.read n.toJson.compact.toList = .ok (.text n.text) ∧
      TagName.read n.toJson.compact.toList = .ok n := by
  simp only [Value.compact, String.toList_ofList]
  refine ⟨?_, ?_, ?_⟩
  · intro tags envelope
    refine ⟨?_, _, Listing.readWritten _, rfl, ?_⟩
    · rw [readPrinted (Listing.plain _), Listing.assembledShape]
    · cases envelope <;> rfl
  · intro t
    exact ⟨readPrinted t.plain, t.readWritten⟩
  · intro n
    exact ⟨readPrinted (.text _ n.text), n.readWritten⟩

end TagListing
