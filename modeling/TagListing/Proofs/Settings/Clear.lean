import TagListing.Proofs.Settings.Placed
import TagListing.Settings.Layers
import Mathlib.Data.List.Induction
import Mathlib.Data.List.Pairwise

/-! The files and the environment as clear sources. A file is clear if its root keys have neither
points nor brackets, the environment if the paths that its variables set are aside. What such an
environment places does not depend on the order of the variables. -/
namespace TagListing.Settings

theorem fileClear {fs : Formats} {format : Format} {o : Origin} {text : String}
    {es : List (String × Tree)} (ok : fs.read o text format = .ok es)
    (plain : ∀ e ∈ es, PlainKey e.1) : Clear es := by
  obtain ⟨names, distinct⟩ := readDistinct ok
  have keys (key) (member : key ∈ es.map Prod.fst) : PlainKey key := by
    obtain ⟨e, inside, rfl⟩ := List.mem_map.mp member
    exact plain e inside
  have single (key) (member : key ∈ es.map Prod.fst) (q) (path : dotted? key = some q) :
      q = [key] := by
    obtain ⟨head, rest, _, _, parsed⟩ := dottedParse path
    rw [plainDotted (keys key member) parsed] at path
    exact (Option.some.inj path).symm
  refine ⟨names, fun key member p parsed => ⟨_, plainDotted (keys key member) parsed⟩, ?_,
    distinct⟩
  intro key member other member' differ p q path path'
  rw [single key member p path, single other member' q path']
  refine ⟨?_, ?_⟩
  · intro h
    exact differ (List.cons_prefix_cons.mp h).1
  · intro h
    exact differ (List.cons_prefix_cons.mp h).1.symm

/-! ### The environment -/

def variablePath? (name : String) : Option (List String) := (variableKey? name).bind dotted?

structure Environment.Apart (env : Environment) : Prop where
  legible : ∀ v ∈ env, ∀ key p, variableKey? v.1 = some key → Path.parse key = .ok p →
    ∃ q, dotted? key = some q
  apart : env.Pairwise fun v w => ∀ p q, variablePath? v.1 = some p →
    variablePath? w.1 = some q → Aside p q

def environmentText (s : String) : Tree := .scalar environmentOrigin (.text s)

theorem environmentSnoc (env : Environment) (v : String × String) :
    environmentEntries (env ++ [v]) =
      match variableKey? v.1 with
      | some key => putEntry key (environmentText v.2) (environmentEntries env)
      | none => environmentEntries env := by
  rw [environmentEntries, List.foldl_append]
  rfl

theorem environmentNames (env : Environment) :
    ((environmentEntries env).map Prod.fst).Nodup := by
  induction env using List.reverseRecOn with
  | nil => exact List.nodup_nil
  | append_singleton env v ih =>
    rw [environmentSnoc]
    split
    · exact putNodup ih
    · exact ih

theorem entryVariable {env : Environment} {e : String × Tree}
    (member : e ∈ environmentEntries env) :
    ∃ v ∈ env, variableKey? v.1 = some e.1 ∧ e.2 = environmentText v.2 := by
  induction env using List.reverseRecOn with
  | nil => contradiction
  | append_singleton env v ih =>
    have earlier (old : e ∈ environmentEntries env) :
        ∃ w ∈ env ++ [v], variableKey? w.1 = some e.1 ∧ e.2 = environmentText w.2 := by
      obtain ⟨w, inside, key, value⟩ := ih old
      exact ⟨w, List.mem_append_left _ inside, key, value⟩
    rw [environmentSnoc] at member
    split at member
    · rename_i key sets
      rcases putMember member with rfl | old
      · exact ⟨v, List.mem_append_right _ (List.mem_singleton_self v), sets, rfl⟩
      · exact earlier old
    · exact earlier member

theorem variableEntry {env : Environment} {v : String × String} {key : String} (inside : v ∈ env)
    (sets : variableKey? v.1 = some key) : key ∈ (environmentEntries env).map Prod.fst := by
  induction env using List.reverseRecOn with
  | nil => contradiction
  | append_singleton env w ih =>
    rw [environmentSnoc]
    rcases List.mem_append.mp inside with old | new
    · split
      · exact (putNames ..).mpr (.inr (ih old))
      · exact ih old
    · cases List.mem_singleton.mp new
      rw [sets]
      exact (putNames ..).mpr (.inl rfl)

theorem asideSymm {p q : List String} (aside : Aside p q) : Aside q p := ⟨aside.2, aside.1⟩

theorem Environment.Apart.different {env : Environment} (apart : env.Apart)
    {v w : String × String} (first : v ∈ env) (second : w ∈ env) (differ : v ≠ w)
    {p q : List String} (path : variablePath? v.1 = some p) (path' : variablePath? w.1 = some q) :
    Aside p q := by
  have symmetric : Std.Symm fun v w : String × String => ∀ p q,
      variablePath? v.1 = some p → variablePath? w.1 = some q → Aside p q :=
    ⟨fun v w h p q here there => asideSymm (h q p there here)⟩
  exact apart.apart.forall first second differ p q path path'

theorem environmentClear {env : Environment} (apart : env.Apart) :
    Clear (environmentEntries env) := by
  have source (key) (member : key ∈ (environmentEntries env).map Prod.fst) :
      ∃ v ∈ env, variableKey? v.1 = some key := by
    obtain ⟨e, inside, rfl⟩ := List.mem_map.mp member
    obtain ⟨v, set, sets, _⟩ := entryVariable inside
    exact ⟨v, set, sets⟩
  refine ⟨environmentNames env, ?_, ?_, ?_⟩
  · intro key member p parsed
    obtain ⟨v, inside, sets⟩ := source key member
    exact apart.legible v inside key p sets parsed
  · intro key member other member' differ p q path path'
    obtain ⟨v, inside, sets⟩ := source key member
    obtain ⟨w, inside', sets'⟩ := source other member'
    refine apart.different inside inside' ?_ (by rw [variablePath?, sets]; exact path)
      (by rw [variablePath?, sets']; exact path')
    intro same
    rw [same, sets'] at sets
    exact differ (Option.some.inj sets).symm
  · intro e member
    obtain ⟨v, _, _, value⟩ := entryVariable member
    rw [value]
    exact .scalar _ _

theorem environmentPlaced {env : Environment} (apart : env.Apart) (q : List String) (t : Tree) :
    (q, t) ∈ placed (environmentEntries env) ↔
      ∃ v ∈ env, variablePath? v.1 = some q ∧ t = environmentText v.2 := by
  constructor
  · intro member
    obtain ⟨e, inside, here⟩ := List.mem_filterMap.mp member
    obtain ⟨p, path, same⟩ := Option.map_eq_some_iff.mp here
    cases same
    obtain ⟨v, inside, sets, value⟩ := entryVariable inside
    exact ⟨v, inside, by rw [variablePath?, sets]; exact path, value⟩
  · intro ⟨v, inside, path, value⟩
    obtain ⟨key, sets, dotted⟩ := Option.bind_eq_some_iff.mp path
    obtain ⟨e, member, rfl⟩ := List.mem_map.mp (variableEntry inside sets)
    obtain ⟨w, inside', sets', value'⟩ := entryVariable member
    have path' : variablePath? w.1 = some q := by rw [variablePath?, sets']; exact dotted
    have same : v = w := by
      by_contra differ
      exact (apart.different inside inside' differ path path').1 (List.prefix_refl q)
    subst same
    refine List.mem_filterMap.mpr ⟨e, member, ?_⟩
    rw [dotted, value, ← value']
    rfl

theorem apartReordered {env env' : Environment} (apart : env.Apart) (order : env'.Perm env) :
    env'.Apart := by
  refine ⟨fun v inside => apart.legible v (order.subset inside), ?_⟩
  refine apart.apart.perm order.symm ?_
  intro v w h p q here there
  exact asideSymm (h q p there here)

end TagListing.Settings
