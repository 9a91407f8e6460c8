import TagListing.Proofs.Settings.Precedence

/-! Sources whose entries come in another order, at any depth. They stand alike at every path, and
layers that stand alike leave the same at every path that begins with a name. Tables are compared
by what lies below them, not as lists of entries. -/
namespace TagListing.Settings

/- The same value, but for the order of the entries of its tables. -/
inductive Tree.Alike : Tree → Tree → Prop where
  | scalar (o v) : Alike (.scalar o v) (.scalar o v)
  | list {o items items'} (length : items'.length = items.length)
      (inner : ∀ (i : Nat) t u, items[i]? = some t → items'[i]? = some u → Alike t u) :
      Alike (.list o items) (.list o items')
  | table {o es es'} (names : (es'.map Prod.fst).Perm (es.map Prod.fst))
      (inner : ∀ name t u, entryAt? name es = some t → entryAt? name es' = some u → Alike t u) :
      Alike (.table o es) (.table o es')

def Reordered (es es' : List (String × Tree)) : Prop :=
  (es'.map Prod.fst).Perm (es.map Prod.fst) ∧
    ∀ name t u, entryAt? name es = some t → entryAt? name es' = some u → Tree.Alike t u

/- What two lookups find is the same but for the order of entries. -/
inductive Tells : Option Tree → Option Tree → Prop where
  | nothing : Tells none none
  | value {t u} : ¬ t.IsTable → t.Alike u → Tells (some t) (some u)
  | tables {t u} : t.IsTable → u.IsTable → Tells (some t) (some u)

inductive Standing.Alike : Standing → Standing → Prop where
  | value {t u} : ¬ t.IsTable → t.Alike u → Alike (.value t) (.value u)
  | cut : Alike .cut .cut
  | opened : Alike .opened .opened
  | hollow : Alike .hollow .hollow
  | silent : Alike .silent .silent

theorem entryPresent {name : String} {es : List (String × Tree)}
    (present : name ∈ es.map Prod.fst) : ∃ t, entryAt? name es = some t := by
  induction es with
  | nil => contradiction
  | cons e es ih =>
    obtain ⟨other, t⟩ := e
    rw [entryAt?]
    split
    · exact ⟨t, rfl⟩
    · rename_i differ
      rcases List.mem_cons.mp present with same | inside
      · exact absurd same differ
      · exact ih inside

theorem entryOfMember {name : String} {t : Tree} {es : List (String × Tree)}
    (names : (es.map Prod.fst).Nodup) (member : (name, t) ∈ es) : entryAt? name es = some t := by
  induction es with
  | nil => contradiction
  | cons e es ih =>
    obtain ⟨other, u⟩ := e
    obtain ⟨absent, rest⟩ := List.nodup_cons.mp names
    rcases List.mem_cons.mp member with same | inside
    · cases same
      rw [entryAt?, if_pos rfl]
    · rw [entryAt?, if_neg, ih rest inside]
      intro same
      exact absent (same ▸ List.mem_map.mpr ⟨_, inside, rfl⟩)

theorem alikeSelf (t : Tree) : t.Alike t := by
  match t with
  | .scalar o v => exact .scalar o v
  | .list o items =>
    refine .list rfl ?_
    intro i t u found found'
    cases found.symm.trans found'
    have smaller := List.sizeOf_lt_of_mem (List.mem_of_getElem? found)
    exact alikeSelf t
  | .table o es =>
    refine .table (.refl _) ?_
    intro name t u found found'
    cases found.symm.trans found'
    have smaller := List.sizeOf_lt_of_mem (entryMember found)
    exact alikeSelf t
termination_by sizeOf t
decreasing_by
  · simp only [Tree.list.sizeOf_spec]
    omega
  · simp only [Prod.mk.sizeOf_spec] at smaller
    simp only [Tree.table.sizeOf_spec]
    omega

theorem reorderedSelf (es : List (String × Tree)) : Reordered es es := by
  refine ⟨.refl _, ?_⟩
  intro name t u found found'
  cases found.symm.trans found'
  exact alikeSelf t

/- An entry has its counterpart, whichever way the order changed. -/
theorem reorderedBack {es es' : List (String × Tree)} (order : Reordered es es')
    (names : (es.map Prod.fst).Nodup) {e : String × Tree} (member : e ∈ es') :
    ∃ t, (e.1, t) ∈ es ∧ t.Alike e.2 := by
  obtain ⟨t, found⟩ := entryPresent (order.1.subset (List.mem_map.mpr ⟨e, member, rfl⟩))
  exact ⟨t, entryMember found, order.2 e.1 t e.2 found
    (entryOfMember (order.1.symm.nodup names) member)⟩

theorem reorderedForth {es es' : List (String × Tree)} (order : Reordered es es')
    (names : (es.map Prod.fst).Nodup) {e : String × Tree} (member : e ∈ es) :
    ∃ u, (e.1, u) ∈ es' ∧ e.2.Alike u := by
  obtain ⟨u, found⟩ := entryPresent (order.1.symm.subset (List.mem_map.mpr ⟨e, member, rfl⟩))
  exact ⟨u, entryMember found, order.2 e.1 e.2 u (entryOfMember names member) found⟩

theorem alikeDistinct {v w : Tree} (alike : v.Alike w) (distinct : v.Distinct) : w.Distinct := by
  induction alike with
  | scalar o v => exact distinct
  | list length inner ih => exact .list _ _
  | @table o es es' names inner ih =>
    cases distinct with
    | table nodup below =>
      refine .table (names.symm.nodup nodup) ?_
      intro e member
      obtain ⟨t, found⟩ := entryPresent (names.subset (List.mem_map.mpr ⟨e, member, rfl⟩))
      exact ih e.1 t e.2 found (entryOfMember (names.symm.nodup nodup) member)
        (below _ (entryMember found))

theorem reorderedClear {es es' : List (String × Tree)} (clear : Clear es)
    (order : Reordered es es') : Clear es' := by
  have inside (key) (member : key ∈ es'.map Prod.fst) : key ∈ es.map Prod.fst :=
    order.1.subset member
  refine ⟨order.1.symm.nodup clear.names, ?_, ?_, ?_⟩
  · intro key member
    exact clear.legible key (inside key member)
  · intro key member other member'
    exact clear.apart key (inside key member) other (inside other member')
  · intro e member
    obtain ⟨t, old, alike⟩ := reorderedBack order clear.names member
    exact alikeDistinct alike (clear.distinct _ old)

/-! ### Standing alike -/

theorem standingAlike {v w : Tree} (alike : v.Alike w) (q : List String) :
    (v.standing q).Alike (w.standing q) := by
  induction q generalizing v w with
  | nil =>
    cases alike with
    | scalar o v => exact .value id (.scalar o v)
    | list length inner => exact .value id (.list length inner)
    | @table o es es' names inner =>
      cases es with
      | nil =>
        have none : es' = [] := List.map_eq_nil_iff.mp names.eq_nil
        subst none
        exact .hollow
      | cons e es =>
        cases es' with
        | nil => exact absurd names.length_eq (by simp)
        | cons e' es' => exact .opened
  | cons name rest ih =>
    cases alike with
    | scalar o v => exact .cut
    | list length inner => exact .cut
    | @table o es es' names inner =>
      cases found : entryAt? name es with
      | none =>
        have absent : name ∉ es.map Prod.fst := by
          intro member
          obtain ⟨t, present⟩ := entryPresent member
          rw [found] at present
          contradiction
        have none : entryAt? name es' = none :=
          entryAbsent fun member => absent (names.subset member)
        simp only [Tree.standing, found, none]
        exact .silent
      | some t =>
        have member : name ∈ es.map Prod.fst := List.mem_map_of_mem (entryMember found)
        obtain ⟨u, found'⟩ := entryPresent (names.symm.subset member)
        simp only [Tree.standing, found, found']
        exact ih (inner name t u found found')

theorem standingAtAlike {v w : Tree} (alike : v.Alike w) (p q : List String) :
    (v.standingAt p q).Alike (w.standingAt p q) := by
  rcases placeCases p q with ⟨r, rfl⟩ | ⟨r, more, rfl⟩ | away
  · rw [standingBelow, standingBelow]
    exact standingAlike alike r
  · rw [standingAbove v q more, standingAbove w q more]
    exact .opened
  · rw [standingAside v away, standingAside w away]
    exact .silent

theorem silentAlike {s s' : Standing} (alike : s.Alike s') : s = .silent ↔ s' = .silent := by
  cases alike <;> simp

/- Each value of one source has its like in the other, at the same path. -/
structure Rearranged (src src' : Placed) : Prop where
  forth : ∀ p t, (p, t) ∈ src → ∃ u, (p, u) ∈ src' ∧ t.Alike u
  back : ∀ p u, (p, u) ∈ src' → ∃ t, (p, t) ∈ src ∧ t.Alike u

theorem standingRearranged {src src' : Placed} (apart : src.Pairwise fun a b => Aside a.1 b.1)
    (apart' : src'.Pairwise fun a b => Aside a.1 b.1) (same : Rearranged src src')
    (q : List String) : (src.standing q).Alike (src'.standing q) := by
  by_cases heard : src.standing q = .silent
  · by_cases heard' : src'.standing q = .silent
    · rw [heard, heard']
      exact .silent
    · obtain ⟨⟨p, u⟩, member, standing⟩ := Placed.standingSome heard'
      obtain ⟨t, member', alike⟩ := same.back p u member
      have both := standingAtAlike alike p q
      have loud : t.standingAt p q ≠ .silent :=
        fun silent => heard' (standing.trans ((silentAlike both).mp silent))
      exact absurd (Placed.standingMember apart member' loud ▸ heard) loud
  · obtain ⟨⟨p, t⟩, member, standing⟩ := Placed.standingSome heard
    obtain ⟨u, member', alike⟩ := same.forth p t member
    have both := standingAtAlike alike p q
    have loud : u.standingAt p q ≠ .silent :=
      fun silent => heard (standing.trans ((silentAlike both).mpr silent))
    rw [standing, Placed.standingMember apart' member' loud]
    exact both

/-! ### Layers that stand alike -/

theorem givesTells {s s' : Standing} {before before' now now' : Option Tree}
    (alike : s.Alike s') (same : Tells before before') (gives : s.Gives before now)
    (gives' : s'.Gives before' now') : Tells now now' := by
  cases alike with
  | value other like =>
    cases gives
    cases gives'
    exact .value other like
  | cut =>
    cases gives
    cases gives'
    exact .nothing
  | opened =>
    obtain ⟨t, rfl, table⟩ := gives
    obtain ⟨u, rfl, table'⟩ := gives'
    exact .tables table table'
  | hollow =>
    cases gives
    cases gives'
    cases same with
    | nothing => exact .tables trivial trivial
    | value other like => exact .value other like
    | tables table table' => exact .tables table table'
  | silent =>
    cases gives
    cases gives'
    exact same

/- One clear source for another, with the same values at the same paths. -/
def Swapped (es es' : List (String × Tree)) : Prop :=
  Clear es → Clear es' ∧ Rearranged (placed es) (placed es')

theorem foldTells {ls ls' : List (List (String × Tree))} {head : String} (name : IsName head)
    (rest : List String) (clear : ∀ l ∈ ls, Clear l) (same : List.Forall₂ Swapped ls ls')
    {root root' t t' : Tree}
    (before : Tells (root.along (head :: rest)) (root'.along (head :: rest)))
    (ok : ls.foldlM Tree.merge root = some t) (ok' : ls'.foldlM Tree.merge root' = some t') :
    Tells (t.along (head :: rest)) (t'.along (head :: rest)) := by
  induction same generalizing root root' with
  | nil =>
    cases Option.some.inj ok
    cases Option.some.inj ok'
    exact before
  | @cons l l' ls ls' first later ih =>
    have here := clear l List.mem_cons_self
    obtain ⟨there, like⟩ := first here
    have alike := standingRearranged (placedApart here) (placedApart there) like (head :: rest)
    rw [List.foldlM_cons] at ok ok'
    obtain ⟨mid, merged, ok⟩ := Option.bind_eq_some_iff.mp ok
    obtain ⟨mid', merged', ok'⟩ := Option.bind_eq_some_iff.mp ok'
    have now := givesTells alike before (mergeAlong here name rest merged)
      (mergeAlong there name rest merged')
    exact ih (fun l member => clear l (List.mem_cons_of_mem _ member)) now ok ok'

theorem swappedClear {ls ls' : List (List (String × Tree))} (clear : ∀ l ∈ ls, Clear l)
    (same : List.Forall₂ Swapped ls ls') : ∀ l ∈ ls', Clear l := by
  induction same with
  | nil => exact clear
  | cons first later ih =>
    obtain ⟨here, clear⟩ := List.forall_mem_cons.mp clear
    exact List.forall_mem_cons.mpr ⟨(first here).1, ih clear⟩

theorem reorderedPlaced {es es' : List (String × Tree)} (clear : Clear es)
    (order : Reordered es es') : Rearranged (placed es) (placed es') := by
  have place {es : List (String × Tree)} {key : String} {p : List String} {t : Tree}
      (member : (key, t) ∈ es) (path : dotted? key = some p) : (p, t) ∈ placed es :=
    List.mem_filterMap.mpr ⟨_, member, by rw [path]; rfl⟩
  refine ⟨?_, ?_⟩
  · intro p t member
    obtain ⟨e, inside, here⟩ := List.mem_filterMap.mp member
    obtain ⟨q, path, same⟩ := Option.map_eq_some_iff.mp here
    cases same
    obtain ⟨u, there, alike⟩ := reorderedForth order clear.names inside
    exact ⟨u, place there path, alike⟩
  · intro p u member
    obtain ⟨e, inside, here⟩ := List.mem_filterMap.mp member
    obtain ⟨q, path, same⟩ := Option.map_eq_some_iff.mp here
    cases same
    obtain ⟨t, there, alike⟩ := reorderedBack order clear.names inside
    exact ⟨t, place there path, alike⟩

theorem environmentRearranged {env env' : Environment} (apart : env.Apart)
    (order : env'.Perm env) :
    Rearranged (placed (environmentEntries env)) (placed (environmentEntries env')) := by
  have apart' := apartReordered apart order
  refine ⟨?_, ?_⟩
  · intro p t member
    obtain ⟨v, inside, path, rfl⟩ := (environmentPlaced apart p t).mp member
    exact ⟨_, (environmentPlaced apart' p _).mpr ⟨v, order.symm.subset inside, path, rfl⟩,
      .scalar _ _⟩
  · intro p u member
    obtain ⟨v, inside, path, rfl⟩ := (environmentPlaced apart' p u).mp member
    exact ⟨_, (environmentPlaced apart p _).mpr ⟨v, order.subset inside, path, rfl⟩,
      .scalar _ _⟩

theorem reorderedSwapped {es es' : List (String × Tree)} (order : Reordered es es') :
    Swapped es es' :=
  fun clear => ⟨reorderedClear clear order, reorderedPlaced clear order⟩

theorem environmentSwapped {env env' : Environment} (apart : env.Apart) (order : env'.Perm env) :
    Swapped (environmentEntries env) (environmentEntries env') :=
  fun _ => ⟨environmentClear (apartReordered apart order), environmentRearranged apart order⟩

end TagListing.Settings
