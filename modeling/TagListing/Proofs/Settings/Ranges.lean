import TagListing.Settings.Layers
import TagListing.Proofs.Toml.Ranges
import TagListing.Proofs.Json.Written
import TagListing.Proofs.Settings.Names
import TagListing.Proofs.Settings.Precedence
import TagListing.Proofs.Settings.Getters

/-! What holds of every scalar of the sources holds of the merged settings, but for nil, which fills up
lists. So whole numbers of loaded settings fit 64 bits, and what is read from such settings as a whole
number does, of whichever kind it was. -/
namespace TagListing.Settings
open Numeric

/-! ### Every scalar of a tree -/

section
variable {of : Scalar → Prop}

theorem everyNothing : EveryEntry of [] := by simp [EveryEntry]

theorem everyEmptyTable : Tree.emptyTable.Every of := .table none everyNothing

theorem everyEntries {t : Tree} (every : t.Every of) : EveryEntry of t.entries := by
  cases every with
  | table o inner => exact inner
  | _ => exact everyNothing

theorem everyItems {t : Tree} (every : t.Every of) : ∀ u ∈ t.items, u.Every of := by
  cases every with
  | list o inner => exact inner
  | _ => simp [Tree.items]

theorem everyEntry {es : List (String × Tree)} (every : EveryEntry of es) {name : String} {t : Tree}
    (found : entryAt? name es = some t) : t.Every of := by
  induction es with
  | nil => contradiction
  | cons e es ih =>
    obtain ⟨first, more⟩ := List.forall_mem_cons.mp every
    unfold entryAt? at found
    split at found
    · cases Option.some.inj found
      exact first
    · exact ih more found

theorem everyField {t u : Tree} {name : String} (every : t.Every of)
    (found : t.field? name = some u) : u.Every of := everyEntry (everyEntries every) found

theorem everyStep {t u : Tree} {step : Step} (every : t.Every of) (found : t.step? step = some u) :
    u.Every of := by
  cases step with
  | field name => exact everyField every found
  | index i =>
    unfold Tree.step? at found
    obtain ⟨n, _, item⟩ := Option.bind_eq_some_iff.mp found
    exact everyItems every u (List.mem_of_getElem? item)

theorem everyFollow {steps : List Step} {t u : Tree} (every : t.Every of)
    (found : Tree.follow steps t = some u) : u.Every of := by
  induction steps generalizing t with
  | nil =>
    cases Option.some.inj found
    exact every
  | cons step steps ih =>
    unfold Tree.follow at found
    obtain ⟨w, next, found⟩ := Option.bind_eq_some_iff.mp found
    exact ih (everyStep every next) found

theorem everyFound {p : Path} {root t : Tree} (every : root.Every of)
    (found : p.find root = some t) : t.Every of := by
  unfold Path.find at found
  obtain ⟨u, head, found⟩ := Option.bind_eq_some_iff.mp found
  exact everyFollow (everyField every head) found

/-! ### Merging -/

theorem everyPut {t value : Tree} {name : String} (every : t.Every of) (new : value.Every of) :
    (t.put name value).Every of := by
  cases every with
  | table o inner =>
    refine .table o fun e member => ?_
    rcases putMember member with rfl | old
    · exact new
    · exact inner e old
  | _ => exact .table none (List.forall_mem_singleton.mpr new)

mutual
theorem everyOver {below : Option Tree} (before : ∀ t, below = some t → t.Every of) {t : Tree}
    (every : t.Every of) : (Tree.over below t).Every of := by
  cases t with
  | table o es =>
    unfold Tree.over
    refine everyEntriesOver ?_ (everyEntries every)
    cases below with
    | none => exact everyEmptyTable
    | some t => exact before t rfl
  | scalar o v => exact every
  | list o items => exact every

theorem everyEntriesOver {below : Tree} (before : below.Every of) {es : List (String × Tree)}
    (every : EveryEntry of es) : (entriesOver below es).Every of := by
  cases es with
  | nil => exact before
  | cons e es =>
    obtain ⟨name, t⟩ := e
    obtain ⟨first, more⟩ := List.forall_mem_cons.mp every
    unfold entriesOver
    have laid : (Tree.over (below.field? name) t).Every of :=
      everyOver (fun _ found => everyField before found) first
    exact everyEntriesOver (everyPut before laid) more
end

variable (blank : of .nil)
include blank

theorem everyPutItem {t out : Tree} (every : t.Every of) {i : Int} {change : Tree → Option Tree}
    (changed : ∀ u v : Tree, u.Every of → change u = some v → v.Every of)
    (ok : t.putItem i change = some out) : out.Every of := by
  have filled {n : Nat} {items : List Tree} (inner : ∀ u ∈ items, u.Every of) :
      ∀ u ∈ padded n items, u.Every of := by
    intro u member
    rcases List.mem_append.mp member with old | fill
    · exact inner u old
    · rw [List.eq_of_mem_replicate fill]
      exact .scalar none blank
  have written {o : Origin} {items : List Tree} {n : Nat} {item : Tree}
      (inner : ∀ u ∈ items, u.Every of)
      (made : change ((padded (n + 1) items).getD n .nil) = some item) :
      (Tree.list o ((padded (n + 1) items).set n item)).Every of := by
    refine .list o fun u member => ?_
    rcases List.mem_or_eq_of_mem_set member with old | rfl
    · exact filled inner u old
    · refine changed _ _ ?_ made
      rw [List.getD_eq_getElem?_getD]
      cases found : (padded (n + 1) items)[n]? with
      | none => exact .scalar none blank
      | some w => exact filled inner w (List.mem_of_getElem? found)
  unfold Tree.putItem at ok
  obtain ⟨n, _, ok⟩ := Option.bind_eq_some_iff.mp ok
  obtain ⟨item, made, last⟩ := Option.bind_eq_some_iff.mp ok
  cases Option.some.inj last
  cases every with
  | list o inner => exact written inner made
  | _ => exact written (by simp) made

theorem everyAssign {value : Tree} (new : value.Every of) {step : Step} {steps : List Step}
    {t out : Tree} (every : t.Every of) (ok : Tree.assign value step steps t = some out) :
    out.Every of := by
  induction steps generalizing step t out with
  | nil =>
    cases step with
    | field name =>
      cases Option.some.inj ok
      exact everyPut every (everyOver (fun _ found => everyField every found) new)
    | index i =>
      refine everyPutItem blank every (fun u v _ made => ?_) ok
      cases Option.some.inj made
      exact new
  | cons next steps ih =>
    cases step with
    | field name =>
      obtain ⟨below, inner, last⟩ := Option.bind_eq_some_iff.mp ok
      cases Option.some.inj last
      refine everyPut every (ih ?_ inner)
      cases found : t.field? name with
      | none => exact .scalar none blank
      | some u => exact everyField every found
    | index i => exact everyPutItem blank every (fun u v inner => ih inner) ok

theorem everyMerge {root t : Tree} (every : root.Every of) {source : List (String × Tree)}
    (new : EveryEntry of source) (ok : root.merge source = some t) : t.Every of := by
  induction source generalizing root with
  | nil =>
    cases Option.some.inj ok
    exact every
  | cons e source ih =>
    obtain ⟨first, more⟩ := List.forall_mem_cons.mp new
    rw [Tree.merge, List.foldlM_cons] at ok
    obtain ⟨mid, set, merged⟩ := Option.bind_eq_some_iff.mp ok
    refine ih ?_ more merged
    unfold Tree.assignRoot at set
    split at set
    · exact everyAssign blank first every set
    · exact everyAssign blank first every set

theorem everyLayers {root t : Tree} (every : root.Every of) {ls : List (List (String × Tree))}
    (new : ∀ l ∈ ls, EveryEntry of l) (ok : ls.foldlM Tree.merge root = some t) : t.Every of := by
  induction ls generalizing root with
  | nil =>
    cases Option.some.inj ok
    exact every
  | cons l ls ih =>
    obtain ⟨first, more⟩ := List.forall_mem_cons.mp new
    rw [List.foldlM_cons] at ok
    obtain ⟨mid, merged, rest⟩ := Option.bind_eq_some_iff.mp ok
    exact ih (everyMerge blank every first merged) more rest

end

/-! ### Sources -/

theorem fitsExact {i : Int} : fitsInt64 i = true ↔ int64Min ≤ i ∧ i ≤ int64Max := by
  simp only [fitsInt64, Bool.and_eq_true, decide_eq_true_eq]

mutual
theorem tomlFits (o : Origin) {v : Toml.Value} (fits : v.Fits) : (ofToml o v).Fits := by
  cases fits with
  | list inner => exact .list o (tomlItemsFit o inner)
  | table inner => exact .table o (tomlEntriesFit o inner)
  | int fits => exact .scalar o fits
  | text s => exact .scalar o trivial
  | float x => exact .scalar o trivial
  | bool b => exact .scalar o trivial
  | moment s => exact .scalar o trivial

theorem tomlItemsFit (o : Origin) {items : List Toml.Value} (inner : ∀ v ∈ items, v.Fits) :
    ∀ t ∈ ofTomlItems o items, t.Fits := by
  cases items with
  | nil => simp [ofTomlItems]
  | cons v items =>
    obtain ⟨first, more⟩ := List.forall_mem_cons.mp inner
    exact List.forall_mem_cons.mpr ⟨tomlFits o first, tomlItemsFit o more⟩

theorem tomlEntriesFit (o : Origin) {es : List (String × Toml.Value)} (inner : ∀ e ∈ es, e.2.Fits) :
    EntriesFit (ofTomlEntries o es) := by
  cases es with
  | nil => exact everyNothing
  | cons e es =>
    obtain ⟨key, v⟩ := e
    obtain ⟨first, more⟩ := List.forall_mem_cons.mp inner
    exact List.forall_mem_cons.mpr ⟨tomlFits o first, tomlEntriesFit o more⟩
end

/- A negative numeral beyond 64 bits is read as a double. -/
theorem negativeBound {negative : Bool} {l : Json.Literal} {n : Nat}
    (value : l.value negative = some (.negative n)) : n ≤ twoTo 63 := by
  unfold Json.Literal.value at value
  split at value
  rename_i head taken whole
  dsimp only at value
  split at value
  · split at value
    · cases value
    · split at value
      · rename_i bounds
        cases value
        exact bounds.2
      · cases value
  · split at value
    · obtain ⟨x, _, real⟩ := Option.map_eq_some_iff.mp value
      cases real
    · split at value
      · split at value <;> cases value
      · obtain ⟨x, _, real⟩ := Option.map_eq_some_iff.mp value
        cases real

theorem numeralFits {w : List Char} {k : Json.Number} (numeral : Json.Numeral w k) :
    (ofJsonNumber k).Fits := by
  cases k with
  | natural n =>
    rw [ofJsonNumber]
    split
    · assumption
    · trivial
  | negative n =>
    have bound : n ≤ twoTo 63 := by
      cases numeral with
      | plain _ value => exact negativeBound value
      | minus _ value => exact negativeBound value
    rw [show twoTo 63 = 9223372036854775808 from rfl] at bound
    refine fitsExact.mpr ?_
    unfold int64Min int64Max
    omega
  | real x => trivial

theorem jsonItemsFit {o : Origin} {vs : List Json.Value} (inner : ∀ v ∈ vs, (ofJson o v).Fits) :
    ∀ t ∈ ofJsonItems o vs, t.Fits := by
  induction vs with
  | nil => simp [ofJsonItems]
  | cons v vs ih =>
    obtain ⟨first, more⟩ := List.forall_mem_cons.mp inner
    exact List.forall_mem_cons.mpr ⟨first, ih more⟩

theorem jsonMembersFit {o : Origin} {ms : List (String × Json.Value)}
    (inner : ∀ m ∈ ms, (ofJson o m.2).Fits) {done : List (String × Tree)} (before : EntriesFit done) :
    EntriesFit (ofJsonMembers o ms done) := by
  induction ms generalizing done with
  | nil => exact before
  | cons m ms ih =>
    obtain ⟨key, v⟩ := m
    obtain ⟨first, more⟩ := List.forall_mem_cons.mp inner
    refine ih more fun e member => ?_
    rcases putMember member with rfl | old
    · exact first
    · exact before e old

theorem jsonFits {n : Nat} {w : List Char} {v : Json.Value} (written : Json.Written n w v)
    (o : Origin) : (ofJson o v).Fits := by
  induction written with
  | null | yes | no | text => exact .scalar o trivial
  | number numeral => exact .scalar o (numeralFits numeral)
  | emptyList => exact .list o (by simp [ofJsonItems])
  | list _ _ inner => exact .list o (jsonItemsFit (List.forall_mem_map.mpr inner))
  | emptyObject => exact .table o everyNothing
  | object _ _ _ inner => exact .table o (jsonMembersFit (List.forall_mem_map.mpr inner) everyNothing)

theorem tomlRead {o : Origin} {text : String} {es : List (String × Tree)}
    (ok : readToml o text = .ok es) : EntriesFit es := by
  unfold readToml at ok
  split at ok
  · rename_i parsed
    cases Except.ok.inj ok
    exact tomlEntriesFit o (Toml.parsedFit parsed)
  · contradiction

theorem jsonRead {o : Origin} {text : String} {es : List (String × Tree)}
    (ok : readJson o text = .ok es) : EntriesFit es := by
  unfold readJson at ok
  split at ok
  · rename_i v read
    cases Except.ok.inj ok
    obtain ⟨⟨v, rest⟩, value, last⟩ := Json.bindFound read
    obtain ⟨_, _, _, _, written, _⟩ := Json.valueFound value
    dsimp only [Json.finish] at last
    split at last
    · cases Except.ok.inj last
      exact everyEntries (jsonFits written o)
    · contradiction
  · contradiction

theorem readFit {fs : Formats} {format : Format} {o : Origin} {text : String}
    {es : List (String × Tree)} (ok : fs.read o text format = .ok es) : EntriesFit es := by
  cases format with
  | toml => exact tomlRead ok
  | json => exact jsonRead ok
  | foreign f =>
    simp only [Formats.read] at ok
    split at ok
    · rename_i read
      cases Except.ok.inj ok
      exact fs.fits f o text es read
    · contradiction

theorem environmentFits (env : Environment) : EntriesFit (environmentEntries env) := by
  induction env using List.reverseRecOn with
  | nil => exact everyNothing
  | append_singleton env v ih =>
    rw [environmentSnoc]
    split
    · intro e member
      rcases putMember member with rfl | old
      · exact .scalar _ trivial
      · exact ih e old
    · exact ih

theorem directoryFits {fs : Formats} {d : Directory} {name : String} {es : List (String × Tree)}
    (ok : d.entries fs name = .ok es) : EntriesFit es := by
  obtain ⟨f, _, read⟩ := entriesRead.mp ok
  exact readFit read

theorem loadFits {fs : Formats} {d : Directory} {env : Environment} {file : Option String}
    {s : Settings} (ok : load fs d env file = .ok s) : s.root.Fits := by
  obtain ⟨ls, stacked, merged⟩ := loadStacked ok
  have environment := environmentFits env
  refine everyLayers trivial everyEmptyTable ?_ merged
  cases stacked with
  | given defaults upper => simp [directoryFits defaults, directoryFits upper]
  | moded defaults upper => simp [directoryFits defaults, directoryFits upper, environment]
  | modeless defaults absent => simp [directoryFits defaults, environment]

theorem textFits {text : String} {s : Settings} (ok : ofTomlText text = .ok s) : s.root.Fits := by
  unfold ofTomlText at ok
  cases merged : Tree.emptyTable.under (readToml none text) with
  | error f => rw [merged] at ok; contradiction
  | ok root =>
    rw [merged] at ok
    cases Except.ok.inj ok
    obtain ⟨es, read, merged⟩ := underOk merged
    exact everyMerge trivial everyEmptyTable (tomlRead read) merged

/-! ### Whole numbers read -/

theorem readFits {s : List Char} {i : Int} (ok : readInt64 s = some i) : fitsInt64 i = true := by
  unfold readInt64 at ok
  dsimp only at ok
  split at ok
  · generalize (if (takeSign s).1 then _ else _ : Int) = n at ok
    split at ok
    · rename_i fits
      cases Option.some.inj ok
      exact fits
    · contradiction
  · contradiction

theorem clampedFits (x : Binary64) : fitsInt64 (x.roundClamped int64Min int64Max) = true := by
  have bounds : int64Min ≤ int64Max := by decide
  cases x with
  | nan => decide
  | infinite negative => cases negative <;> decide
  | finite negative m e =>
    simp only [fitsExact, Binary64.roundClamped]
    exact ⟨Int.le_max_left _ _, Int.max_le.mpr ⟨bounds, Int.min_le_left _ _⟩⟩

theorem wholeFits {t : Tree} (fits : t.Fits) {i : Int} (converts : t.Scalarly IntOf i) :
    fitsInt64 i = true := by
  obtain ⟨o, whole⟩ := converts
  cases whole with
  | whole i =>
    cases fits with
    | scalar _ fits => exact fits
  | truth b => cases b <;> decide
  | double x => exact clampedFits x
  | @word s b _ => cases b <;> decide
  | numeral _ read => exact readFits read

end TagListing.Settings
