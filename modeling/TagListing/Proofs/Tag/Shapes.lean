import Mathlib.Data.List.TakeWhile
import TagListing.Proofs.Json.Written
import TagListing.Tag.Reader

/-! Which texts are listings. A text is a list of names or an object around one, and no text is
both; the reader tells which, and a failure is a mismatch exactly when a whole value was there to
be read. Whether another failure is a truncated or a malformed text is not claimed. -/
namespace TagListing
open TagListing.Json

/- A text that is one value, up to the blanks around it. -/
def IsValue (t : List Char) (v : Value) : Prop :=
  ∃ before w after, Blank before ∧ Blank after ∧ t = before ++ w ++ after ∧
    Written nestingLimit w v

/- A list of texts, or an object whose only member `tags` is one. -/
inductive Shaped : Value → Listing → Prop where
  | bare (ns) : Shaped (.list (ns.map TagName.toJson)) (.bare ns)
  | envelope {before after} (ns) (only : ∀ m ∈ before ++ after, m.1 ≠ "tags") :
      Shaped (.object (before ++ ("tags", .list (ns.map TagName.toJson)) :: after)) (.envelope ns)

theorem namesExact {items : List Value} {ns : List TagName} :
    namesOf? items = some ns ↔ items = ns.map TagName.toJson := by
  induction items generalizing ns with
  | nil => cases ns <;> simp [namesOf?]
  | cons v items ih =>
    cases v with
    | text s =>
      rw [namesOf?, Option.map_eq_some_iff]
      constructor
      · rintro ⟨more, read, rfl⟩
        rw [ih.mp read]
        rfl
      · cases ns with
        | nil => exact nofun
        | cons n ns =>
          intro same
          obtain ⟨same, rest⟩ := List.cons.inj same
          cases same
          exact ⟨ns, ih.mpr rest, rfl⟩
    | _ => cases ns <;> simp [namesOf?, TagName.toJson]

theorem filterSingle {α : Type} {p : α → Bool} {xs : List α} {x : α} : xs.filter p = [x] ↔
    ∃ before after, xs = before ++ x :: after ∧ p x = true ∧ ∀ y ∈ before ++ after, ¬ p y = true := by
  rw [List.filter_eq_cons_iff]
  constructor
  · rintro ⟨before, after, rfl, first, passes, later⟩
    refine ⟨before, after, rfl, passes, fun y member => ?_⟩
    rcases List.mem_append.mp member with member | member
    · exact first y member
    · exact List.filter_eq_nil_iff.mp later y member
  · rintro ⟨before, after, rfl, passes, others⟩
    refine ⟨before, after, rfl, fun y member => others y (List.mem_append_left _ member), passes, ?_⟩
    exact List.filter_eq_nil_iff.mpr fun y member => others y (List.mem_append_right _ member)

theorem shapedRead {v : Value} {l : Listing} (shaped : Shaped v l) : Listing.ofJson? v = some l := by
  cases shaped with
  | bare ns => rw [Listing.ofJson?, namesExact.mpr rfl, Option.map_some]
  | @envelope before after ns only =>
    have single : (before ++ ("tags", Value.list (ns.map TagName.toJson)) :: after).filter
        (fun m => m.1 == "tags") = [("tags", .list (ns.map TagName.toJson))] :=
      filterSingle.mpr ⟨before, after, rfl, rfl, fun m member => by simpa using only m member⟩
    simp only [Listing.ofJson?, single, namesExact.mpr rfl, Option.map_some]

theorem shapedFound {v : Value} {l : Listing} (ok : Listing.ofJson? v = some l) : Shaped v l := by
  unfold Listing.ofJson? at ok
  split at ok
  · split at ok
    · rename_i name items single
      obtain ⟨ns, read, rfl⟩ := Option.map_eq_some_iff.mp ok
      obtain ⟨before, after, rfl, named, others⟩ := filterSingle.mp single
      have named : name = "tags" := eq_of_beq named
      rw [namesExact.mp read, named]
      exact .envelope ns fun m member same => others m member (beq_iff_eq.mpr same)
    · contradiction
  · obtain ⟨ns, read, rfl⟩ := Option.map_eq_some_iff.mp ok
    rw [namesExact.mp read]
    exact .bare ns
  · contradiction

theorem isValueIff {t : List Char} {v : Value} :
    IsValue t v ↔ ∃ rest, Begins nestingLimit t v rest ∧ Blank rest := by
  constructor
  · rintro ⟨before, w, after, blank, blank', same, written⟩
    exact ⟨after, ⟨before, w, blank, same, written, endedBlank blank'⟩, blank'⟩
  · rintro ⟨rest, ⟨before, w, blank, same, written, -⟩, blank'⟩
    exact ⟨before, w, rest, blank, blank', same, written⟩

theorem beginsOnce {n : Nat} {t rest rest' : List Char} {v v' : Value} (one : Begins n t v rest)
    (other : Begins n t v' rest') : v = v' ∧ rest = rest' := by
  have read := readIffBegins.mpr one
  rw [readIffBegins.mpr other] at read
  obtain ⟨rfl, rfl⟩ := Prod.mk.inj (Except.ok.inj read)
  exact ⟨rfl, rfl⟩

theorem skippedAll {s : List Char} : skipBlank s = [] ↔ Blank s := List.dropWhile_eq_nil_iff

inductive Reading (t : List Char) : Except Fault Listing → Prop where
  | unread {f} (none : ∀ v rest, ¬ Begins nestingLimit t v rest) (text : f ≠ .mismatch) :
      Reading t (.error f)
  | misshapen {v rest} (begins : Begins nestingLimit t v rest) (none : ∀ l, ¬ Shaped v l) :
      Reading t (.error .mismatch)
  | followed {v rest l} (begins : Begins nestingLimit t v rest) (shaped : Shaped v l)
      (more : ¬ Blank rest) : Reading t (.error .malformed)
  | whole {v rest l} (begins : Begins nestingLimit t v rest) (shaped : Shaped v l)
      (blank : Blank rest) : Reading t (.ok l)

theorem readingOf (t : List Char) : Reading t (Listing.read t) := by
  unfold Listing.read
  cases found : value .keep nestingLimit t with
  | error f =>
    refine .unread (fun v rest begins => ?_) fun same => ?_
    · rw [readIffBegins.mpr begins] at found
      contradiction
    · exact valueTextual _ _ (same ▸ found)
  | ok p =>
    obtain ⟨v, rest⟩ := p
    have begins := readIffBegins.mp found
    simp only [bind, Except.bind]
    cases shape : Listing.ofJson? v with
    | none =>
      refine .misshapen begins fun l shaped => ?_
      rw [shapedRead shaped] at shape
      contradiction
    | some l =>
      simp only [finish]
      split
      · rename_i gone
        exact .whole begins (shapedFound shape) (skippedAll.mp gone)
      · rename_i left
        exact .followed begins (shapedFound shape) fun blank => left (skippedAll.mpr blank)

/- A shape names its listing, and a list has another one than an object. -/
theorem shapedOnce {v : Value} {l l' : Listing} (one : Shaped v l) (other : Shaped v l') : l = l' := by
  have read := shapedRead one
  rw [shapedRead other] at read
  exact (Option.some.inj read).symm

theorem listingRead {t : List Char} {l : Listing} :
    Listing.read t = .ok l ↔ ∃ v, IsValue t v ∧ Shaped v l := by
  have reading := readingOf t
  constructor
  · intro ok
    rw [ok] at reading
    cases reading with
    | whole begins shaped blank => exact ⟨_, isValueIff.mpr ⟨_, begins, blank⟩, shaped⟩
  · rintro ⟨v, value, shaped⟩
    obtain ⟨rest, begins, blank⟩ := isValueIff.mp value
    generalize Listing.read t = x at reading ⊢
    cases reading with
    | unread none text => exact absurd begins (none v rest)
    | misshapen begins' none =>
      obtain ⟨rfl, rfl⟩ := beginsOnce begins begins'
      exact absurd shaped (none l)
    | followed begins' shaped' more =>
      obtain ⟨rfl, rfl⟩ := beginsOnce begins begins'
      exact absurd blank more
    | whole begins' shaped' =>
      obtain ⟨rfl, rfl⟩ := beginsOnce begins begins'
      rw [shapedOnce shaped shaped']

theorem mismatchRead {t : List Char} : Listing.read t = .error .mismatch ↔
    ∃ v rest, Begins nestingLimit t v rest ∧ ∀ l, ¬ Shaped v l := by
  have reading := readingOf t
  constructor
  · intro mismatch
    rw [mismatch] at reading
    cases reading with
    | unread none text => contradiction
    | misshapen begins none => exact ⟨_, _, begins, none⟩
  · rintro ⟨v, rest, begins, none⟩
    generalize Listing.read t = x at reading ⊢
    cases reading with
    | unread none text => exact absurd begins (none v rest)
    | misshapen => rfl
    | followed begins' shaped more =>
      obtain ⟨rfl, rfl⟩ := beginsOnce begins begins'
      exact absurd shaped (none _)
    | whole begins' shaped blank =>
      obtain ⟨rfl, rfl⟩ := beginsOnce begins begins'
      exact absurd shaped (none _)

/- What is left is a fault of the text: inside its value, or behind one of either shape. -/
theorem faultRead {t : List Char} :
    (Listing.read t = .error .malformed ∨ Listing.read t = .error .truncated) ↔
      (∀ v rest, ¬ Begins nestingLimit t v rest) ∨
        ∃ v rest l, Begins nestingLimit t v rest ∧ Shaped v l ∧ ¬ Blank rest := by
  have reading := readingOf t
  generalize Listing.read t = x at reading ⊢
  cases reading with
  | @unread f none text =>
    refine iff_of_true ?_ (.inl none)
    cases f with
    | truncated => exact .inr rfl
    | malformed => exact .inl rfl
    | mismatch => contradiction
  | misshapen begins none =>
    refine iff_of_false (by simp) ?_
    rintro (none' | ⟨v', rest', l, begins', shaped, -⟩)
    · exact none' _ _ begins
    · obtain ⟨rfl, rfl⟩ := beginsOnce begins begins'
      exact none l shaped
  | followed begins shaped more => exact iff_of_true (.inl rfl) (.inr ⟨_, _, _, begins, shaped, more⟩)
  | whole begins shaped blank =>
    refine iff_of_false (by simp) ?_
    rintro (none | ⟨v', rest', l, begins', -, more⟩)
    · exact none _ _ begins
    · obtain ⟨rfl, rfl⟩ := beginsOnce begins begins'
      exact more blank

theorem isValueOnce {t : List Char} {v v' : Value} (one : IsValue t v) (other : IsValue t v') :
    v = v' := by
  obtain ⟨rest, begins, -⟩ := isValueIff.mp one
  obtain ⟨rest', begins', -⟩ := isValueIff.mp other
  exact (beginsOnce begins begins').1

/- A text is read as a list of names exactly when it is one list of texts, and as an envelope exactly
when it is one object whose only member `tags` is such a list; its other members do not matter. No
text is both, so that it does not matter which is tried first. A mismatch is told exactly when the
text begins with a whole value of neither shape, whatever follows. All else is a fault of the text
itself: no whole value begins it, or something follows one that has a shape. -/
theorem listingShapes (t : List Char) :
    (∀ ns, Listing.read t = .ok (.bare ns) ↔ IsValue t (.list (ns.map TagName.toJson))) ∧
    (∀ ns, Listing.read t = .ok (.envelope ns) ↔ ∃ before after,
      (∀ m ∈ before ++ after, m.1 ≠ "tags") ∧
        IsValue t (.object (before ++ ("tags", .list (ns.map TagName.toJson)) :: after))) ∧
    (∀ items ms, IsValue t (.list items) → ¬ IsValue t (.object ms)) ∧
    (Listing.read t = .error .mismatch ↔
      ∃ v rest, Begins nestingLimit t v rest ∧ ∀ l, ¬ Shaped v l) ∧
    ((Listing.read t = .error .malformed ∨ Listing.read t = .error .truncated) ↔
      (∀ v rest, ¬ Begins nestingLimit t v rest) ∨
        ∃ v rest l, Begins nestingLimit t v rest ∧ Shaped v l ∧ ¬ Blank rest) := by
  refine ⟨fun ns => ?_, fun ns => ?_, fun items ms list object => ?_, mismatchRead, faultRead⟩
  · rw [listingRead]
    constructor
    · rintro ⟨v, value, shaped⟩
      cases shaped
      exact value
    · exact fun value => ⟨_, value, .bare ns⟩
  · rw [listingRead]
    constructor
    · rintro ⟨v, value, shaped⟩
      cases shaped with
      | envelope _ only => exact ⟨_, _, only, value⟩
    · rintro ⟨before, after, only, value⟩
      exact ⟨_, value, .envelope ns only⟩
  · exact nomatch isValueOnce list object

/- The member is repeated, once with an escape. -/
example : Listing.read "\x7b\"tags\":[\"a\"],\"t\\u0061gs\":[]\x7d x".toList = .error .mismatch := by
  cbv

/- The wrong type is there before the fault. -/
example : Listing.read "[null,\x7d".toList = .error .malformed := by cbv

end TagListing
