import TagListing.Proofs.Settings.Standing
import Mathlib.Data.List.TakeWhile

/-! A source as values at paths of names. A key that is read as a name and fields is such a path; a
key with a subscript is not, and a key that is not read sets a name that no key reaches. Where no
path of a source begins with another, its standing at a path is that of any entry heard there, and
merging the source gives what this standing says. Paths through lists are not claimed. -/
namespace TagListing.Settings

/-! ### Keys -/

def namesOf? : List Step → Option (List String)
  | [] => some []
  | .field name :: rest => (namesOf? rest).map (name :: ·)
  | .index _ :: _ => none

def dotted? (key : String) : Option (List String) :=
  match Path.parse key with
  | .ok p => (namesOf? p.steps).map (p.head :: ·)
  | .error _ => none

def IsName (name : String) : Prop := name.toList ≠ [] ∧ ∀ c ∈ name.toList, isNameChar c = true

theorem namesOfSome {steps : List Step} {names : List String} (ok : namesOf? steps = some names) :
    steps = names.map .field := by
  induction steps generalizing names with
  | nil => cases Option.some.inj ok; rfl
  | cons s rest ih =>
    cases s with
    | index i => contradiction
    | field name =>
      obtain ⟨more, tail, rfl⟩ := Option.map_eq_some_iff.mp ok
      rw [ih tail]
      rfl

theorem parsedHead {key : String} {p : Path} (ok : Path.parse key = .ok p) : IsName p.head := by
  unfold Path.parse at ok
  split at ok
  · contradiction
  · rename_i name nonempty
    cases steps : readSteps key.length (key.toList.dropWhile isNameChar) with
    | error f => rw [steps] at ok; contradiction
    | ok more =>
      rw [steps] at ok
      cases Except.ok.inj ok
      refine ⟨?_, ?_⟩
      · rw [String.toList_ofList]
        exact nonempty
      · intro c member
        rw [String.toList_ofList] at member
        exact List.mem_takeWhile_imp member

theorem dottedParse {key : String} {q : List String} (ok : dotted? key = some q) :
    ∃ head rest, q = head :: rest ∧ IsName head ∧
      Path.parse key = .ok ⟨head, rest.map .field⟩ := by
  unfold dotted? at ok
  split at ok
  · rename_i p parsed
    obtain ⟨names, fields, rfl⟩ := Option.map_eq_some_iff.mp ok
    exact ⟨p.head, names, rfl, parsedHead parsed, parsed.trans (namesOfSome fields ▸ rfl)⟩
  · contradiction

theorem parseName {name : String} (is : IsName name) : Path.parse name = .ok ⟨name, []⟩ := by
  have all : name.toList.takeWhile isNameChar = name.toList := List.takeWhile_eq_self_iff.mpr is.2
  have none : name.toList.dropWhile isNameChar = [] := List.dropWhile_eq_nil_iff.mpr is.2
  have steps (n : Nat) : readSteps n [] = .ok [] := by cases n <;> rfl
  unfold Path.parse
  rw [all, none, steps]
  split
  · rename_i empty
    exact absurd empty is.1
  · rw [String.ofList_toList]
    rfl

/- A root key of a file with neither points nor brackets. -/
def PlainKey (key : String) : Prop := '.' ∉ key.toList ∧ '[' ∉ key.toList

theorem plainParse {key : String} {p : Path} (plain : PlainKey key)
    (ok : Path.parse key = .ok p) : p = ⟨key, []⟩ := by
  have stuck (c : Char) (s : List Char) (n : Nat) (dot : c ≠ '.') (bracket : c ≠ '[') :
      readSteps (n + 1) (c :: s) = .error .noBracket := by
    have step : readStep (c :: s) = .error .noBracket := by
      unfold readStep
      split
      · exact absurd (List.cons.inj ‹_›).1 dot
      · unfold readSubscript
        split
        · exact absurd (List.cons.inj ‹_›).1 bracket
        · rfl
    simp only [readSteps, step]
    rfl
  cases rest : key.toList.dropWhile isNameChar with
  | nil =>
    have is : IsName key := by
      refine ⟨?_, List.dropWhile_eq_nil_iff.mp rest⟩
      intro empty
      unfold Path.parse at ok
      rw [empty] at ok
      contradiction
    rw [parseName is] at ok
    exact (Except.ok.inj ok).symm
  | cons c s =>
    have member : c ∈ key.toList :=
      (List.dropWhile_suffix isNameChar).subset (rest ▸ List.mem_cons_self)
    obtain ⟨n, length⟩ : ∃ n, key.length = n + 1 := by
      refine ⟨key.length - 1, ?_⟩
      have positive := List.length_pos_of_mem member
      rw [String.length_toList] at positive
      omega
    unfold Path.parse at ok
    split at ok
    · contradiction
    · rw [rest, length, stuck c s n (fun same => plain.1 (same ▸ member))
        (fun same => plain.2 (same ▸ member))] at ok
      contradiction

theorem plainDotted {key : String} {p : Path} (plain : PlainKey key)
    (ok : Path.parse key = .ok p) : dotted? key = some [key] := by
  unfold dotted?
  rw [ok, plainParse plain ok]
  rfl

theorem findAlong {key : String} {q : List String} (ok : dotted? key = some q) (root : Tree) :
    ∃ p, Path.parse key = .ok p ∧ p.find root = root.along q := by
  obtain ⟨head, rest, rfl, _, parsed⟩ := dottedParse ok
  refine ⟨_, parsed, ?_⟩
  simp only [Path.find, Tree.along]
  congr 1
  funext t
  exact Tree.followFields rest t

/-! ### Sources -/

abbrev Placed := List (List String × Tree)

def placed (es : List (String × Tree)) : Placed :=
  es.filterMap fun e => (dotted? e.1).map (·, e.2)

/- Paths of which neither begins with the other. -/
def Aside (p q : List String) : Prop := ¬ p <+: q ∧ ¬ q <+: p

/- A source whose keys are read as paths of names, no path beginning with another. -/
structure Clear (es : List (String × Tree)) : Prop where
  names : (es.map Prod.fst).Nodup
  legible : ∀ key ∈ es.map Prod.fst, ∀ p, Path.parse key = .ok p → ∃ q, dotted? key = some q
  apart : ∀ key ∈ es.map Prod.fst, ∀ other ∈ es.map Prod.fst, key ≠ other →
    ∀ p q, dotted? key = some p → dotted? other = some q → Aside p q
  distinct : ∀ e ∈ es, e.2.Distinct

theorem placedApart {es : List (String × Tree)} (clear : Clear es) :
    (placed es).Pairwise fun a b => Aside a.1 b.1 := by
  rw [placed, List.pairwise_filterMap]
  refine (List.pairwise_map.mp clear.names).imp_of_mem ?_
  intro e f first second differ a here b there
  obtain ⟨p, path, rfl⟩ := Option.map_eq_some_iff.mp here
  obtain ⟨q, path', rfl⟩ := Option.map_eq_some_iff.mp there
  exact clear.apart e.1 (List.mem_map_of_mem first) f.1 (List.mem_map_of_mem second) differ
    p q path path'

theorem clearTail {e : String × Tree} {es : List (String × Tree)} (clear : Clear (e :: es)) :
    Clear es := by
  have inside (key : String) (member : key ∈ es.map Prod.fst) :
      key ∈ (e :: es).map Prod.fst := List.mem_cons_of_mem _ member
  refine ⟨(List.nodup_cons.mp clear.names).2, ?_, ?_, ?_⟩
  · intro key member
    exact clear.legible key (inside key member)
  · intro key member other member'
    exact clear.apart key (inside key member) other (inside other member')
  · intro f member
    exact clear.distinct f (List.mem_cons_of_mem _ member)

namespace Placed

def Holds (src : Placed) (q : List String) (t : Tree) : Prop :=
  ∃ e ∈ src, ∃ r, q = e.1 ++ r ∧ e.2.along r = some t

def Sets (src : Placed) (q : List String) (t : Tree) : Prop := src.Holds q t ∧ ¬ t.IsTable

def Cuts (src : Placed) (q : List String) : Prop :=
  ∃ p r t, q = p ++ r ∧ r ≠ [] ∧ src.Sets p t

def Opens (src : Placed) (q : List String) : Prop := ∃ r t, r ≠ [] ∧ src.Holds (q ++ r) t

def Touches (src : Placed) (q : List String) : Prop :=
  (∃ t, src.Sets q t) ∨ src.Cuts q ∨ src.Opens q

end Placed

/-! ### Standings of entries -/

def Standing.orElse : Standing → Standing → Standing
  | .silent, next => next
  | first, _ => first

def Placed.standing (q : List String) : Placed → Standing
  | [] => .silent
  | e :: src => (e.2.standingAt e.1 q).orElse (standing q src)

theorem standingBelow (v : Tree) (p r : List String) : v.standingAt p (p ++ r) = v.standing r := by
  induction p with
  | nil => rfl
  | cons n p ih => rw [List.cons_append, Tree.standingAt, if_pos rfl, ih]

theorem standingAbove (v : Tree) (q : List String) {r : List String} (more : r ≠ []) :
    v.standingAt (q ++ r) q = .opened := by
  induction q with
  | nil =>
    cases r with
    | nil => contradiction
    | cons n r => rfl
  | cons n q ih => rw [List.cons_append, Tree.standingAt, if_pos rfl, ih]

theorem standingAside (v : Tree) {p q : List String} (aside : Aside p q) :
    v.standingAt p q = .silent := by
  induction p generalizing q with
  | nil => exact absurd List.nil_prefix aside.1
  | cons n p ih =>
    cases q with
    | nil => exact absurd List.nil_prefix aside.2
    | cons m q =>
      rw [Tree.standingAt]
      split
      · rename_i same
        subst same
        exact ih ⟨fun h => aside.1 (List.cons_prefix_cons.mpr ⟨rfl, h⟩),
          fun h => aside.2 (List.cons_prefix_cons.mpr ⟨rfl, h⟩)⟩
      · rfl

/- A path begins with another, or goes on to it, or is aside. -/
theorem placeCases (p q : List String) :
    (∃ r, q = p ++ r) ∨ (∃ r, r ≠ [] ∧ p = q ++ r) ∨ Aside p q := by
  by_cases below : p <+: q
  · obtain ⟨r, rfl⟩ := below
    exact .inl ⟨r, rfl⟩
  · by_cases above : q <+: p
    · obtain ⟨r, rfl⟩ := above
      refine .inr (.inl ⟨r, ?_, rfl⟩)
      intro nothing
      subst nothing
      exact below ⟨[], by rw [List.append_nil, List.append_nil]⟩
    · exact .inr (.inr ⟨below, above⟩)

theorem asideStanding {p p' : List String} (aside : Aside p p') (v v' : Tree) (q : List String) :
    v.standingAt p q = .silent ∨ v'.standingAt p' q = .silent ∨
      (v.standingAt p q = .opened ∧ v'.standingAt p' q = .opened) := by
  rcases placeCases p q with ⟨r, rfl⟩ | ⟨r, more, rfl⟩ | away
  · rcases placeCases p' (p ++ r) with ⟨r', same⟩ | ⟨r', more', rfl⟩ | away'
    · rcases List.prefix_or_prefix_of_prefix ⟨r, rfl⟩ ⟨r', same.symm⟩ with h | h
      · exact absurd h aside.1
      · exact absurd h aside.2
    · exact absurd ⟨r ++ r', by rw [List.append_assoc]⟩ aside.1
    · exact .inr (.inl (standingAside v' away'))
  · rcases placeCases p' q with ⟨r', rfl⟩ | ⟨r', more', rfl⟩ | away'
    · exact absurd ⟨r' ++ r, by rw [List.append_assoc]⟩ aside.2
    · exact .inr (.inr ⟨standingAbove v q more, standingAbove v' q more'⟩)
    · exact .inr (.inl (standingAside v' away'))
  · exact .inl (standingAside v away)

theorem heardFirst {s : Standing} (heard : s ≠ .silent) (next : Standing) : s.orElse next = s := by
  cases s <;> first | rfl | exact absurd rfl heard

namespace Placed

theorem standingSome {src : Placed} {q : List String} (heard : src.standing q ≠ .silent) :
    ∃ e ∈ src, src.standing q = e.2.standingAt e.1 q := by
  induction src with
  | nil => exact absurd rfl heard
  | cons e src ih =>
    by_cases first : e.2.standingAt e.1 q = .silent
    · have rest : standing q (e :: src) = standing q src := by
        rw [standing, first, Standing.orElse]
      rw [rest] at heard ⊢
      obtain ⟨f, member, same⟩ := ih heard
      exact ⟨f, List.mem_cons_of_mem _ member, same⟩
    · exact ⟨e, List.mem_cons_self, heardFirst first _⟩

theorem standingMember {src : Placed} {q : List String}
    (apart : src.Pairwise fun a b => Aside a.1 b.1) {e : List String × Tree} (member : e ∈ src)
    (heard : e.2.standingAt e.1 q ≠ .silent) : src.standing q = e.2.standingAt e.1 q := by
  induction src with
  | nil => contradiction
  | cons f src ih =>
    obtain ⟨first, apart⟩ := List.pairwise_cons.mp apart
    rcases List.mem_cons.mp member with rfl | inside
    · exact heardFirst heard _
    · rcases asideStanding (first e inside) f.2 e.2 q with silent | silent | ⟨opened, same⟩
      · rw [standing, silent, Standing.orElse]
        exact ih apart inside
      · exact absurd silent heard
      · rw [standing, opened, same]
        rfl

end Placed

/-! ### Standings and what a source holds -/

section
variable {src : Placed} {q : List String} {t : Tree}

theorem standingSets (apart : src.Pairwise fun a b => Aside a.1 b.1) (sets : src.Sets q t) :
    src.standing q = .value t := by
  obtain ⟨⟨e, member, r, rfl, found⟩, other⟩ := sets
  have here : e.2.standingAt e.1 (e.1 ++ r) = .value t := by
    rw [standingBelow, standingValue found other]
  rw [Placed.standingMember apart member (here ▸ Standing.noConfusion), here]

theorem standingCuts (apart : src.Pairwise fun a b => Aside a.1 b.1) (cuts : src.Cuts q) :
    src.standing q = .cut := by
  obtain ⟨p, s, t, rfl, more, ⟨e, member, r, rfl, found⟩, other⟩ := cuts
  have here : e.2.standingAt e.1 (e.1 ++ r ++ s) = .cut := by
    rw [List.append_assoc, standingBelow, standingCut found other more]
  rw [Placed.standingMember apart member (here ▸ Standing.noConfusion), here]

theorem standingOpens (apart : src.Pairwise fun a b => Aside a.1 b.1) (opens : src.Opens q) :
    src.standing q = .opened := by
  obtain ⟨s, t, more, e, member, r, same, found⟩ := opens
  have here : e.2.standingAt e.1 q = .opened := by
    rcases placeCases e.1 q with ⟨u, rfl⟩ | ⟨u, on, path⟩ | away
    · rw [List.append_assoc] at same
      rw [standingBelow]
      exact standingOpened (List.append_cancel_left same ▸ found) more
    · rw [path]
      exact standingAbove e.2 q on
    · rcases List.prefix_or_prefix_of_prefix ⟨r, same.symm⟩ ⟨s, rfl⟩ with h | h
      · exact absurd h away.1
      · exact absurd h away.2
  rw [Placed.standingMember apart member (here ▸ Standing.noConfusion), here]

theorem holdsStanding (apart : src.Pairwise fun a b => Aside a.1 b.1) (holds : src.Holds q t) :
    src.standing q ≠ .silent := by
  obtain ⟨e, member, r, rfl, found⟩ := holds
  have here : e.2.standingAt e.1 (e.1 ++ r) ≠ .silent := by
    rw [standingBelow]
    exact standingHollow found
  rw [Placed.standingMember apart member here]
  exact here

end

/- And back: what a source must hold for its standing. -/
def Standing.FromSource (src : Placed) (q : List String) : Standing → Prop
  | .value t => src.Sets q t
  | .cut => src.Cuts q
  | .opened => src.Opens q
  | .hollow => ∃ t, src.Holds q t
  | .silent => True

theorem standingFromSource (src : Placed) (q : List String) :
    (src.standing q).FromSource src q := by
  by_cases heard : src.standing q = .silent
  · rw [heard]
    trivial
  · obtain ⟨e, member, same⟩ := Placed.standingSome heard
    rw [same]
    rcases placeCases e.1 q with ⟨r, rfl⟩ | ⟨r, more, path⟩ | away
    · rw [standingBelow]
      have inner := standingFrom e.2 r
      cases standing : e.2.standing r with
      | value t => rw [standing] at inner; exact ⟨⟨e, member, r, rfl, inner.1⟩, inner.2⟩
      | cut =>
        rw [standing] at inner
        obtain ⟨p, s, t, rfl, more, found, other⟩ := inner
        refine ⟨e.1 ++ p, s, t, ?_, more, ⟨e, member, p, rfl, found⟩, other⟩
        rw [List.append_assoc]
      | opened =>
        rw [standing] at inner
        obtain ⟨s, t, more, found⟩ := inner
        exact ⟨s, t, more, e, member, r ++ s, List.append_assoc .., found⟩
      | hollow =>
        rw [standing] at inner
        obtain ⟨t, found, _⟩ := inner
        exact ⟨t, e, member, r, rfl, found⟩
      | silent => trivial
    · rw [path, standingAbove e.2 q more]
      exact ⟨r, e.2, more, e, member, [], by rw [path, List.append_nil], rfl⟩
    · rw [standingAside e.2 away]
      trivial

theorem untouchedStanding {src : Placed} {q : List String} (untouched : ¬ src.Touches q) :
    src.standing q = .silent ∨ src.standing q = .hollow := by
  have source := standingFromSource src q
  cases standing : src.standing q with
  | value t => rw [standing] at source; exact absurd (.inl ⟨t, source⟩) untouched
  | cut => rw [standing] at source; exact absurd (.inr (.inl source)) untouched
  | opened => rw [standing] at source; exact absurd (.inr (.inr source)) untouched
  | hollow => exact .inr rfl
  | silent => exact .inl rfl

theorem touchedStanding {src : Placed} {q : List String}
    (apart : src.Pairwise fun a b => Aside a.1 b.1) (touches : src.Touches q) :
    src.standing q ≠ .silent ∧ src.standing q ≠ .hollow := by
  rcases touches with ⟨t, sets⟩ | cuts | opens
  · rw [standingSets apart sets]
    exact ⟨Standing.noConfusion, Standing.noConfusion⟩
  · rw [standingCuts apart cuts]
    exact ⟨Standing.noConfusion, Standing.noConfusion⟩
  · rw [standingOpens apart opens]
    exact ⟨Standing.noConfusion, Standing.noConfusion⟩

/-! ### Merging a source -/

theorem silentOrOpened {src : Placed} {p : List String} {v : Tree} (q : List String)
    (aside : ∀ e ∈ src, Aside p e.1) :
    v.standingAt p q = .silent ∨ src.standing q = .silent ∨
      (v.standingAt p q = .opened ∧ src.standing q = .opened) := by
  by_cases heard : src.standing q = .silent
  · exact .inr (.inl heard)
  · obtain ⟨e, member, same⟩ := Placed.standingSome heard
    rw [same]
    exact asideStanding (aside e member) v e.2 q

theorem givesThen {s s' : Standing} {before mid now : Option Tree} (first : s.Gives before mid)
    (next : s'.Gives mid now)
    (agree : s = .silent ∨ s' = .silent ∨ (s = .opened ∧ s' = .opened)) :
    (s.orElse s').Gives before now := by
  rcases agree with rfl | rfl | ⟨rfl, rfl⟩
  · cases first
    exact next
  · cases next
    cases s <;> exact first
  · exact next

/- A root entry either sets a name that no path reads or goes to the end of a path of names. -/
theorem assignClear {key : String} {v : Tree} {es : List (String × Tree)}
    (clear : Clear ((key, v) :: es)) (root : Tree) :
    (dotted? key = none ∧ (∀ head, IsName head → head ≠ key) ∧
      root.assignRoot key v = some (root.put key (Tree.over (root.field? key) v))) ∨
    ∃ first fields, dotted? key = some (first :: fields) ∧
      root.assignRoot key v = Tree.assign v (.field first) (fields.map .field) root := by
  cases path : dotted? key with
  | none =>
    obtain ⟨f, fault⟩ : ∃ f, Path.parse key = .error f := by
      cases parsed : Path.parse key with
      | error f => exact ⟨f, rfl⟩
      | ok p =>
        obtain ⟨q, some⟩ := clear.legible key List.mem_cons_self p parsed
        rw [path] at some
        contradiction
    refine .inl ⟨rfl, fun head name same => ?_, ?_⟩
    · rw [← same, parseName name] at fault
      contradiction
    · simp only [Tree.assignRoot, fault, Tree.assign]
  | some p =>
    obtain ⟨first, fields, rfl, _, parsed⟩ := dottedParse path
    exact .inr ⟨first, fields, rfl, by simp only [Tree.assignRoot, parsed]⟩

theorem mergeClear {es : List (String × Tree)} (clear : Clear es) (root : Tree) :
    ∃ t, root.merge es = some t := by
  induction es generalizing root with
  | nil => exact ⟨root, rfl⟩
  | cons e es ih =>
    obtain ⟨key, v⟩ := e
    obtain ⟨mid, first⟩ : ∃ mid, root.assignRoot key v = some mid := by
      rcases assignClear clear root with ⟨_, _, set⟩ | ⟨first, fields, _, set⟩
      · exact ⟨_, set⟩
      · obtain ⟨t, ok⟩ := assignFields v first fields root
        exact ⟨t, set.trans ok⟩
    obtain ⟨t, rest⟩ := ih (clearTail clear) mid
    refine ⟨t, ?_⟩
    rw [Tree.merge, List.foldlM_cons, first]
    exact rest

theorem mergeAlong {es : List (String × Tree)} (clear : Clear es) {head : String}
    (name : IsName head) (rest : List String) {root t : Tree} (ok : root.merge es = some t) :
    ((placed es).standing (head :: rest)).Gives (root.along (head :: rest))
      (t.along (head :: rest)) := by
  induction es generalizing root with
  | nil =>
    cases Option.some.inj ok
    rfl
  | cons e es ih =>
    obtain ⟨key, v⟩ := e
    rw [Tree.merge, List.foldlM_cons] at ok
    obtain ⟨mid, set, merged⟩ := Option.bind_eq_some_iff.mp ok
    have next := ih (clearTail clear) merged
    rcases assignClear clear root with ⟨unread, aside, put⟩ | ⟨first, fields, path, assign⟩
    · cases Option.some.inj (put.symm.trans set)
      have before : (root.put key (Tree.over (root.field? key) v)).along (head :: rest) =
          root.along (head :: rest) := by
        simp only [Tree.along, Tree.fieldPutOther (aside head name)]
      have same : placed ((key, v) :: es) = placed es := by
        simp only [placed, List.filterMap_cons, unread, Option.map_none]
      rw [before] at next
      rw [same]
      exact next
    · have read : placed ((key, v) :: es) = (first :: fields, v) :: placed es := by
        simp only [placed, List.filterMap_cons, path, Option.map_some]
      have aside := (List.pairwise_cons.mp (read ▸ placedApart clear)).1
      have here := assignAlong (clear.distinct (key, v) List.mem_cons_self)
        (assign.symm.trans set) (head :: rest)
      rw [read]
      exact givesThen here next (silentOrOpened _ aside)

end TagListing.Settings
