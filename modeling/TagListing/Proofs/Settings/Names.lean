import TagListing.Settings.Source
import Mathlib.Data.List.Nodup

/-! The names in what the readers of settings files give. The names of one table differ, at every
depth that a path of names reaches; tables inside a list are not looked into. Whether a text is
accepted is not claimed. -/
namespace TagListing

/-! ### Tables in TOML -/

namespace Toml

inductive Value.Distinct : Value → Prop where
  | text (s) : Distinct (.text s)
  | int (i) : Distinct (.int i)
  | float (x) : Distinct (.float x)
  | bool (b) : Distinct (.bool b)
  | moment (s) : Distinct (.moment s)
  | list (items) : Distinct (.list items)
  | table {isOpen es} (names : (es.map Prod.fst).Nodup) (inner : ∀ e ∈ es, Distinct e.2) :
      Distinct (.table isOpen es)

def EntriesDistinct (es : Entries) : Prop :=
  (es.map Prod.fst).Nodup ∧ ∀ e ∈ es, e.2.Distinct

theorem emptyDistinct : EntriesDistinct [] := ⟨List.nodup_nil, by simp⟩

theorem absentName {key : String} {es : Entries} (absent : hasEntry key es = false) :
    key ∉ es.map Prod.fst := by
  intro member
  obtain ⟨e, inside, rfl⟩ := List.mem_map.mp member
  have found : hasEntry e.1 es = true := List.any_eq_true.mpr ⟨e, inside, by simp⟩
  rw [absent] at found
  contradiction

theorem spelledDistinct {v w : Value} (ok : v.spelled = some w) : w.Distinct := by
  cases v with
  | text s =>
    simp only [Value.spelled, Option.map_eq_some_iff] at ok
    obtain ⟨normal, _, rfl⟩ := ok
    exact .moment normal
  | _ => contradiction

mutual
theorem settledDistinct {v w : Value} (ok : v.settled = some w) : w.Distinct := by
  cases v with
  | list items =>
    simp only [Value.settled, Option.map_eq_some_iff] at ok
    obtain ⟨settled, _, rfl⟩ := ok
    exact .list settled
  | table isOpen es =>
    unfold Value.settled at ok
    split at ok
    · exact spelledDistinct ok
    · obtain ⟨settled, inner, rfl⟩ := Option.map_eq_some_iff.mp ok
      have distinct := entriesSettledDistinct inner
      exact .table distinct.1 distinct.2
  | text s => cases Option.some.inj ok; exact .text s
  | int i => cases Option.some.inj ok; exact .int i
  | float x => cases Option.some.inj ok; exact .float x
  | bool b => cases Option.some.inj ok; exact .bool b
  | moment s => cases Option.some.inj ok; exact .moment s

theorem entriesSettledDistinct {es out : Entries} (ok : entriesSettled es = some out) :
    EntriesDistinct out := by
  cases es with
  | nil => cases Option.some.inj ok; exact emptyDistinct
  | cons e rest =>
    obtain ⟨key, v⟩ := e
    simp only [entriesSettled, bind, Option.bind_eq_some_iff] at ok
    obtain ⟨w, value, more, tail, last⟩ := ok
    split at last
    · contradiction
    · rename_i absent
      cases Option.some.inj last
      have distinct := entriesSettledDistinct tail
      refine ⟨List.nodup_cons.mpr ⟨absentName (by simpa using absent), distinct.1⟩, ?_⟩
      intro e member
      rcases List.mem_cons.mp member with rfl | inside
      · exact settledDistinct value
      · exact distinct.2 e inside
end

theorem ownDistinct {sections : List Section} {es : Entries}
    (ok : ownEntries sections = some es) : EntriesDistinct es := by
  unfold ownEntries at ok
  split at ok
  · cases Option.some.inj ok; exact emptyDistinct
  · split at ok
    · contradiction
    · exact entriesSettledDistinct ok
  · contradiction

theorem headDistinct {inner : List Section → Option Entries} {sections : List Section}
    {k : String} {es out : Entries} (sound : ∀ s es, inner s = some es → EntriesDistinct es)
    (before : EntriesDistinct es) (ok : assemble.addHead inner sections k es = some out) :
    EntriesDistinct out := by
  unfold assemble.addHead at ok
  split at ok
  · contradiction
  · rename_i absent
    simp only [bind, Option.bind_eq_some_iff] at ok
    obtain ⟨v, value, last⟩ := ok
    cases Option.some.inj last
    have distinct : v.Distinct := by
      unfold assemble.valueAt at value
      split at value
      · obtain ⟨items, _, rfl⟩ := Option.map_eq_some_iff.mp value
        exact .list items
      · split at value
        · split at value
          · obtain ⟨text, _, spelled⟩ := Option.bind_eq_some_iff.mp value
            exact spelledDistinct spelled
          · contradiction
        · obtain ⟨entries, below, rfl⟩ := Option.map_eq_some_iff.mp value
          have table := sound _ _ below
          exact .table table.1 table.2
    refine ⟨?_, ?_⟩
    · rw [List.map_append, List.nodup_append]
      refine ⟨before.1, by simp, ?_⟩
      intro name old other new same
      cases List.mem_singleton.mp new
      exact absentName (by simpa using absent) (same ▸ old)
    · intro e member
      rcases List.mem_append.mp member with old | new
      · exact before.2 e old
      · cases List.mem_singleton.mp new
        exact distinct

theorem headsDistinct {inner : List Section → Option Entries} {sections : List Section}
    {names : List String} {es out : Entries}
    (sound : ∀ s es, inner s = some es → EntriesDistinct es) (before : EntriesDistinct es)
    (ok : names.foldlM (fun es k => assemble.addHead inner sections k es) es = some out) :
    EntriesDistinct out := by
  induction names generalizing es with
  | nil => cases Option.some.inj ok; exact before
  | cons k names ih =>
    simp only [List.foldlM_cons, bind, Option.bind_eq_some_iff] at ok
    obtain ⟨next, added, rest⟩ := ok
    exact ih (headDistinct sound before added) rest

theorem assembleDistinct {fuel : Nat} {sections : List Section} {es : Entries}
    (ok : assemble fuel sections = some es) : EntriesDistinct es := by
  induction fuel generalizing sections es with
  | zero => contradiction
  | succ fuel ih =>
    simp only [assemble, bind, Option.bind_eq_some_iff] at ok
    obtain ⟨own, first, rest⟩ := ok
    exact headsDistinct (fun _ _ => ih) (ownDistinct first) rest

theorem parseDistinct {text : String} {es : Entries} (ok : parse text = some es) :
    EntriesDistinct es := by
  simp only [parse, bind, Option.bind_eq_some_iff] at ok
  obtain ⟨ts, _, sections, _, ok⟩ := ok
  split at ok
  · simp only [Option.bind_eq_some_iff] at ok
    obtain ⟨v, _, moment, _, last⟩ := ok
    cases Option.some.inj last
    exact emptyDistinct
  · exact assembleDistinct ok

end Toml

/-! ### Tables of settings -/

namespace Settings

theorem emptyDistinct : EntriesDistinct [] := ⟨List.nodup_nil, by simp⟩

theorem putNames (name : String) (t : Tree) (es : List (String × Tree)) (other : String) :
    other ∈ (putEntry name t es).map Prod.fst ↔ other = name ∨ other ∈ es.map Prod.fst := by
  induction es with
  | nil => simp [putEntry]
  | cons e es ih =>
    obtain ⟨first, u⟩ := e
    by_cases h : name = first
    · subst h; simp [putEntry]
    · simp only [putEntry, if_neg h, List.map_cons, List.mem_cons, ih]
      exact or_left_comm

theorem putMember {name : String} {t : Tree} {es : List (String × Tree)} {e : String × Tree}
    (member : e ∈ putEntry name t es) : e = (name, t) ∨ e ∈ es := by
  induction es with
  | nil => exact .inl (List.mem_singleton.mp member)
  | cons first es ih =>
    obtain ⟨other, u⟩ := first
    simp only [putEntry] at member
    split at member
    · rcases List.mem_cons.mp member with new | old
      · exact .inl new
      · exact .inr (List.mem_cons_of_mem _ old)
    · rcases List.mem_cons.mp member with same | old
      · exact .inr (same ▸ List.mem_cons_self)
      · rcases ih old with new | inside
        · exact .inl new
        · exact .inr (List.mem_cons_of_mem _ inside)

theorem putNodup {name : String} {t : Tree} {es : List (String × Tree)}
    (names : (es.map Prod.fst).Nodup) : ((putEntry name t es).map Prod.fst).Nodup := by
  induction es with
  | nil => exact List.nodup_singleton _
  | cons first es ih =>
    obtain ⟨other, u⟩ := first
    obtain ⟨absent, rest⟩ := List.nodup_cons.mp names
    by_cases h : name = other
    · simp only [putEntry, if_pos h]
      exact List.nodup_cons.mpr ⟨h ▸ absent, rest⟩
    · simp only [putEntry, if_neg h]
      refine List.nodup_cons.mpr ⟨?_, ih rest⟩
      intro inside
      rcases (putNames name t es other).mp inside with same | old
      · exact h same.symm
      · exact absent old

theorem putDistinct {name : String} {t : Tree} {es : List (String × Tree)} (value : t.Distinct)
    (distinct : EntriesDistinct es) : EntriesDistinct (putEntry name t es) := by
  refine ⟨putNodup distinct.1, ?_⟩
  intro e member
  rcases putMember member with rfl | old
  · exact value
  · exact distinct.2 e old

theorem tomlNames (o : Origin) (es : List (String × Toml.Value)) :
    (ofTomlEntries o es).map Prod.fst = es.map Prod.fst := by
  induction es with
  | nil => rfl
  | cons e es ih => simp [ofTomlEntries, ih]

mutual
theorem tomlDistinct (o : Origin) {v : Toml.Value} (distinct : v.Distinct) :
    (ofToml o v).Distinct := by
  cases v with
  | table isOpen es =>
    cases distinct with
    | table names inner =>
      exact .table ((tomlNames o es).symm ▸ names) (tomlEntriesDistinct o inner)
  | list items => exact .list o _
  | text s => exact .scalar o _
  | int i => exact .scalar o _
  | float x => exact .scalar o _
  | bool b => exact .scalar o _
  | moment s => exact .scalar o _

theorem tomlEntriesDistinct (o : Origin) {es : List (String × Toml.Value)}
    (inner : ∀ e ∈ es, e.2.Distinct) : ∀ e ∈ ofTomlEntries o es, e.2.Distinct := by
  cases es with
  | nil => intro e member; contradiction
  | cons first es =>
    obtain ⟨key, v⟩ := first
    intro e member
    rcases List.mem_cons.mp member with rfl | inside
    · exact tomlDistinct o (inner (key, v) List.mem_cons_self)
    · exact tomlEntriesDistinct o (fun e old => inner e (List.mem_cons_of_mem _ old)) e inside
end

mutual
theorem jsonDistinct (o : Origin) (v : Json.Value) : (ofJson o v).Distinct := by
  cases v with
  | object ms =>
    have distinct := jsonMembersDistinct o ms emptyDistinct
    exact .table distinct.1 distinct.2
  | list items => exact .list o _
  | null => exact .scalar o _
  | bool b => exact .scalar o _
  | number n => exact .scalar o _
  | text s => exact .scalar o _

theorem jsonMembersDistinct (o : Origin) (ms : List (String × Json.Value))
    {done : List (String × Tree)} (before : EntriesDistinct done) :
    EntriesDistinct (ofJsonMembers o ms done) := by
  cases ms with
  | nil => exact before
  | cons m ms =>
    obtain ⟨key, v⟩ := m
    exact jsonMembersDistinct o ms (putDistinct (jsonDistinct o v) before)
end

theorem readDistinct {fs : Formats} {format : Format} {o : Origin} {text : String}
    {es : List (String × Tree)} (ok : fs.read o text format = .ok es) : EntriesDistinct es := by
  cases format with
  | toml =>
    simp only [Formats.read, readToml] at ok
    split at ok
    · rename_i entries parsed
      cases Except.ok.inj ok
      have distinct := Toml.parseDistinct parsed
      exact ⟨(tomlNames o entries).symm ▸ distinct.1, tomlEntriesDistinct o distinct.2⟩
    · contradiction
  | json =>
    simp only [Formats.read, readJson] at ok
    split at ok
    · rename_i v read
      cases Except.ok.inj ok
      cases tree : ofJson o v with
      | table origin es =>
        have distinct := jsonDistinct o v
        rw [tree] at distinct
        cases distinct with
        | table names inner => exact ⟨names, inner⟩
      | scalar origin value => exact emptyDistinct
      | list origin items => exact emptyDistinct
    · contradiction
  | foreign f =>
    simp only [Formats.read] at ok
    split at ok
    · rename_i read
      cases Except.ok.inj ok
      exact fs.distinct f o text es read
    · contradiction

end Settings
end TagListing
