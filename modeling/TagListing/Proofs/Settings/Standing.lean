import TagListing.Proofs.Settings.Names

/-! What one value set at one path does to every path of names. At each path the value stands in
one of five ways: it holds something that is no table there, or something that is no table on the
way there, or a table with entries, or one without, or nothing. What is found there afterwards
follows from its standing and from what was found there before. -/
namespace TagListing.Settings

namespace Tree

def along : List String → Tree → Option Tree
  | [], t => some t
  | name :: rest, t => (t.field? name).bind (along rest)

def IsTable : Tree → Prop
  | .table .. => True
  | _ => False

theorem followFields (names : List String) (t : Tree) :
    t.follow (names.map .field) = t.along names := by
  induction names generalizing t with
  | nil => rfl
  | cons name rest ih =>
    simp only [List.map_cons, follow, step?, along]
    cases t.field? name with
    | none => rfl
    | some u => exact ih u

theorem alongAppend (p r : List String) (t : Tree) :
    t.along (p ++ r) = (t.along p).bind (along r) := by
  induction p generalizing t with
  | nil => rfl
  | cons name p ih =>
    simp only [List.cons_append, along]
    cases t.field? name with
    | none => rfl
    | some u => exact ih u

theorem fieldPutSame (t : Tree) (name : String) (value : Tree) :
    (t.put name value).field? name = some value := by
  cases t with
  | table o es => exact entryPutSame name value es
  | scalar o v => simp [put, field?, entries, entryAt?]
  | list o items => simp [put, field?, entries, entryAt?]

theorem fieldPutOther {name other : String} (different : name ≠ other) (t value : Tree) :
    (t.put other value).field? name = t.field? name := by
  cases t with
  | table o es => exact entryPutOther different value es
  | scalar o v => simp [put, field?, entries, entryAt?, different]
  | list o items => simp [put, field?, entries, entryAt?, different]

theorem putTable (t : Tree) (name : String) (value : Tree) : (t.put name value).IsTable := by
  cases t <;> trivial

end Tree

inductive Standing where
  | value (t : Tree)
  | cut
  | opened
  | hollow
  | silent

def Tree.standing : List String → Tree → Standing
  | [], .table _ [] => .hollow
  | [], .table _ (_ :: _) => .opened
  | [], t => .value t
  | name :: rest, .table _ es =>
    match entryAt? name es with
    | some t => t.standing rest
    | none => .silent
  | _ :: _, _ => .cut

/- What is found, given what was found before. -/
def Standing.Gives : Standing → Option Tree → Option Tree → Prop
  | .value t, _, now => now = some t
  | .cut, _, now => now = none
  | .opened, _, now => ∃ t, now = some t ∧ t.IsTable
  | .hollow, before, now => now = some (before.getD .emptyTable)
  | .silent, before, now => now = before

theorem entryAbsent {name : String} {es : List (String × Tree)}
    (absent : name ∉ es.map Prod.fst) : entryAt? name es = none := by
  induction es with
  | nil => rfl
  | cons e es ih =>
    obtain ⟨other, t⟩ := e
    rw [List.map_cons, List.mem_cons, not_or] at absent
    rw [entryAt?, if_neg absent.1]
    exact ih absent.2

theorem entryMember {name : String} {t : Tree} {es : List (String × Tree)}
    (found : entryAt? name es = some t) : (name, t) ∈ es := by
  induction es with
  | nil => contradiction
  | cons e es ih =>
    obtain ⟨other, u⟩ := e
    simp only [entryAt?] at found
    split at found
    · rename_i same
      cases Option.some.inj found
      exact same ▸ List.mem_cons_self
    · exact List.mem_cons_of_mem _ (ih found)

theorem entriesOverField {name : String} {es : List (String × Tree)}
    (names : (es.map Prod.fst).Nodup) (below : Tree) :
    (entriesOver below es).field? name =
      match entryAt? name es with
      | some t => some (Tree.over (below.field? name) t)
      | none => below.field? name := by
  induction es generalizing below with
  | nil => rfl
  | cons e es ih =>
    obtain ⟨other, t⟩ := e
    obtain ⟨absent, rest⟩ := List.nodup_cons.mp names
    rw [entriesOver, ih rest]
    by_cases same : name = other
    · subst same
      rw [entryAbsent absent, entryAt?, if_pos rfl]
      exact Tree.fieldPutSame _ _ _
    · rw [entryAt?, if_neg same, Tree.fieldPutOther same]

theorem entriesOverTable (below : Tree) (e : String × Tree) (es : List (String × Tree)) :
    (entriesOver below (e :: es)).IsTable := by
  obtain ⟨name, t⟩ := e
  rw [entriesOver]
  induction es generalizing below name t with
  | nil => exact Tree.putTable _ _ _
  | cons next es ih =>
    obtain ⟨other, u⟩ := next
    rw [entriesOver]
    exact ih _ other u

/- Induction on the path; at each name the value below it goes over what stood at that name. -/
theorem overAlong {v : Tree} (distinct : v.Distinct) (below : Option Tree) (q : List String) :
    (v.standing q).Gives (below.bind (Tree.along q)) ((Tree.over below v).along q) := by
  induction q generalizing v below with
  | nil =>
    cases v with
    | scalar o value => rfl
    | list o items => rfl
    | table o es =>
      cases es with
      | nil => cases below <;> rfl
      | cons e es => exact ⟨_, rfl, entriesOverTable _ e es⟩
  | cons name rest ih =>
    cases v with
    | scalar o value => rfl
    | list o items => rfl
    | table o es =>
      cases distinct with
      | table names inner =>
        have before : below.bind (Tree.along (name :: rest)) =
            ((below.getD .emptyTable).field? name).bind (Tree.along rest) := by
          cases below <;> rfl
        rw [before, Tree.standing, Tree.over, Tree.along, entriesOverField names]
        cases found : entryAt? name es with
        | none => rfl
        | some t => exact ih (inner _ (entryMember found)) _

/- A value that is set at the path p, seen from the path q. -/
def Tree.standingAt (v : Tree) : List String → List String → Standing
  | [], q => v.standing q
  | _ :: _, [] => .opened
  | n :: p, m :: q => if n = m then v.standingAt p q else .silent

/- Along names alone every value has its place. -/
theorem assignFields (v : Tree) (name : String) (p : List String) (root : Tree) :
    ∃ t, Tree.assign v (.field name) (p.map .field) root = some t := by
  induction p generalizing name root with
  | nil => exact ⟨_, rfl⟩
  | cons next p ih =>
    obtain ⟨t, below⟩ := ih next ((root.field? name).getD .nil)
    exact ⟨root.put name t, by simp only [List.map_cons, Tree.assign, below]; rfl⟩

theorem assignAlong {v : Tree} (distinct : v.Distinct) {name : String} {p : List String}
    {root t : Tree} (ok : Tree.assign v (.field name) (p.map .field) root = some t)
    (q : List String) : (v.standingAt (name :: p) q).Gives (root.along q) (t.along q) := by
  induction p generalizing name root t q with
  | nil =>
    cases Option.some.inj ok
    cases q with
    | nil => exact ⟨_, rfl, Tree.putTable _ _ _⟩
    | cons m q =>
      simp only [Tree.standingAt, Tree.along]
      by_cases same : name = m
      · subst same
        rw [if_pos rfl, Tree.fieldPutSame]
        exact overAlong distinct (root.field? name) q
      · rw [if_neg same, Tree.fieldPutOther (Ne.symm same)]
        rfl
  | cons next p ih =>
    obtain ⟨below, inner, last⟩ := Option.bind_eq_some_iff.mp ok
    cases Option.some.inj last
    cases q with
    | nil => exact ⟨_, rfl, Tree.putTable _ _ _⟩
    | cons m q =>
      simp only [Tree.standingAt, Tree.along]
      by_cases same : name = m
      · subst same
        rw [if_pos rfl, Tree.fieldPutSame]
        have inner := ih inner q
        cases q with
        | nil => exact inner
        | cons k q =>
          -- What is missing is made anew, and a new value has nothing below it.
          have before : (root.field? name).bind (Tree.along (k :: q)) =
              ((root.field? name).getD .nil).along (k :: q) := by
            cases root.field? name <;> rfl
          rw [before]
          exact inner
      · rw [if_neg same, Tree.fieldPutOther (Ne.symm same)]
        rfl

/-! ### Standings and what a value holds -/

/- Below what is found at a path, the standing is that of what was found. -/
theorem standingAppend {v t : Tree} {q : List String} (found : v.along q = some t)
    (r : List String) : v.standing (q ++ r) = t.standing r := by
  induction q generalizing v with
  | nil => cases Option.some.inj found; rfl
  | cons name rest ih =>
    cases v with
    | scalar o value => contradiction
    | list o items => contradiction
    | table o es =>
      obtain ⟨u, entry, found⟩ := Option.bind_eq_some_iff.mp found
      have entry : entryAt? name es = some u := entry
      simp only [List.cons_append, Tree.standing, entry]
      exact ih found

theorem standingFound {v t : Tree} {q : List String} (found : v.along q = some t) :
    v.standing q = t.standing [] := by
  have here := standingAppend found []
  rw [List.append_nil] at here
  exact here

theorem standingValue {v t : Tree} {q : List String} (found : v.along q = some t)
    (other : ¬ t.IsTable) : v.standing q = .value t := by
  rw [standingFound found]
  cases t with
  | table o es => exact absurd trivial other
  | scalar o value => rfl
  | list o items => rfl

theorem standingCut {v t : Tree} {q r : List String} (found : v.along q = some t)
    (other : ¬ t.IsTable) (more : r ≠ []) : v.standing (q ++ r) = .cut := by
  rw [standingAppend found]
  cases r with
  | nil => contradiction
  | cons name r =>
    cases t with
    | table o es => exact absurd trivial other
    | scalar o value => rfl
    | list o items => rfl

theorem standingOpened {v t : Tree} {q r : List String} (found : v.along (q ++ r) = some t)
    (more : r ≠ []) : v.standing q = .opened := by
  rw [Tree.alongAppend] at found
  obtain ⟨u, here, below⟩ := Option.bind_eq_some_iff.mp found
  rw [standingFound here]
  cases r with
  | nil => contradiction
  | cons name r =>
    cases u with
    | scalar o value => contradiction
    | list o items => contradiction
    | table o es =>
      cases es with
      | nil => contradiction
      | cons e es => rfl

theorem standingHollow {v t : Tree} {q : List String} (found : v.along q = some t) :
    v.standing q ≠ .silent := by
  rw [standingFound found]
  cases t with
  | scalar o value => exact Standing.noConfusion
  | list o items => exact Standing.noConfusion
  | table o es => cases es <;> exact Standing.noConfusion

/- And back: what a value must hold for its standing. -/
def Standing.From (v : Tree) (q : List String) : Standing → Prop
  | .value t => v.along q = some t ∧ ¬ t.IsTable
  | .cut => ∃ p r t, q = p ++ r ∧ r ≠ [] ∧ v.along p = some t ∧ ¬ t.IsTable
  | .opened => ∃ r t, r ≠ [] ∧ v.along (q ++ r) = some t
  | .hollow => ∃ t, v.along q = some t ∧ t.IsTable
  | .silent => True

theorem standingFrom (v : Tree) (q : List String) : (v.standing q).From v q := by
  induction q generalizing v with
  | nil =>
    cases v with
    | scalar o value => exact ⟨rfl, id⟩
    | list o items => exact ⟨rfl, id⟩
    | table o es =>
      cases es with
      | nil => exact ⟨_, rfl, trivial⟩
      | cons e es =>
        obtain ⟨name, t⟩ := e
        refine ⟨[name], t, by simp, ?_⟩
        simp [Tree.along, Tree.field?, Tree.entries, entryAt?]
  | cons name rest ih =>
    cases v with
    | scalar o value => exact ⟨[], name :: rest, _, rfl, by simp, rfl, id⟩
    | list o items => exact ⟨[], name :: rest, _, rfl, by simp, rfl, id⟩
    | table o es =>
      cases entry : entryAt? name es with
      | none => simp only [Tree.standing, entry]; trivial
      | some u =>
        have field : (Tree.table o es).field? name = some u := entry
        have step (p : List String) : (Tree.table o es).along (name :: p) = u.along p := by
          simp only [Tree.along, field, Option.bind_some]
        have inner := ih u
        simp only [Tree.standing, entry]
        cases standing : u.standing rest with
        | value t => rw [standing] at inner; exact ⟨(step rest).trans inner.1, inner.2⟩
        | cut =>
          rw [standing] at inner
          obtain ⟨p, r, t, rfl, more, found, other⟩ := inner
          exact ⟨name :: p, r, t, rfl, more, (step p).trans found, other⟩
        | opened =>
          rw [standing] at inner
          obtain ⟨r, t, more, found⟩ := inner
          exact ⟨r, t, more, (step (rest ++ r)).trans found⟩
        | hollow =>
          rw [standing] at inner
          obtain ⟨t, found, table⟩ := inner
          exact ⟨t, (step rest).trans found, table⟩
        | silent => trivial

end TagListing.Settings
