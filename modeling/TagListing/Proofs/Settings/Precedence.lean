import TagListing.Proofs.Settings.Clear

/-! Which layer decides what is found at a path. It is the last one that touches the path; later
ones can only hold an empty table there, which shows if the deciding layer has cut the path off.
Which layers there are is read off the files and the environment. -/
namespace TagListing.Settings

/- The last layer that touches a path, and the layers after it. -/
structure LastTouch (ls : List (List (String × Tree))) (q : List String)
    (es : List (String × Tree)) (after : List (List (String × Tree))) : Prop where
  order : ∃ before, ls = before ++ es :: after
  touches : (placed es).Touches q
  untouched : ∀ l ∈ after, ¬ (placed l).Touches q

structure Decided (ls : List (List (String × Tree))) (q : List String) (found : Option Tree) :
    Prop where
  sets : ∀ es after t, LastTouch ls q es after → (placed es).Sets q t → found = some t
  cuts : ∀ es after, LastTouch ls q es after → (placed es).Cuts q →
    (∀ l ∈ after, ∀ t, ¬ (placed l).Holds q t) → found = none
  refills : ∀ es after, LastTouch ls q es after → (placed es).Cuts q →
    (∃ l ∈ after, ∃ t, (placed l).Holds q t) → found = some .emptyTable
  opens : ∀ es after, LastTouch ls q es after → (placed es).Opens q →
    ∃ t, found = some t ∧ t.IsTable
  untouched : (∀ l ∈ ls, ¬ (placed l).Touches q) → found = none ∨ found = some .emptyTable

/-! ### Layers that do not touch a path -/

def Held (ls : List (List (String × Tree))) (q : List String) : Prop :=
  ∃ l ∈ ls, ∃ t, (placed l).Holds q t

theorem foldClear {ls : List (List (String × Tree))} (clear : ∀ l ∈ ls, Clear l) (root : Tree) :
    ∃ t, ls.foldlM Tree.merge root = some t := by
  induction ls generalizing root with
  | nil => exact ⟨root, rfl⟩
  | cons l ls ih =>
    obtain ⟨here, clear⟩ := List.forall_mem_cons.mp clear
    obtain ⟨mid, first⟩ := mergeClear here root
    obtain ⟨t, rest⟩ := ih clear mid
    exact ⟨t, by rw [List.foldlM_cons, first]; exact rest⟩

theorem foldUntouched {after : List (List (String × Tree))} (clear : ∀ l ∈ after, Clear l)
    {head : String} (name : IsName head) {rest : List String}
    (untouched : ∀ l ∈ after, ¬ (placed l).Touches (head :: rest)) {root t : Tree}
    (ok : after.foldlM Tree.merge root = some t) :
    (¬ Held after (head :: rest) ∧ t.along (head :: rest) = root.along (head :: rest)) ∨
    (Held after (head :: rest) ∧
      t.along (head :: rest) = some ((root.along (head :: rest)).getD .emptyTable)) := by
  induction after generalizing root with
  | nil =>
    cases Option.some.inj ok
    refine .inl ⟨?_, rfl⟩
    intro ⟨l, member, _⟩
    contradiction
  | cons l after ih =>
    have here := clear l List.mem_cons_self
    rw [List.foldlM_cons] at ok
    obtain ⟨mid, merged, ok⟩ := Option.bind_eq_some_iff.mp ok
    have gives := mergeAlong here name rest merged
    have next := ih (fun l m => clear l (List.mem_cons_of_mem _ m))
      (fun l m => untouched l (List.mem_cons_of_mem _ m)) ok
    rcases untouchedStanding (untouched l List.mem_cons_self) with silent | hollow
    · rw [silent] at gives
      have same : mid.along (head :: rest) = root.along (head :: rest) := gives
      rw [same] at next
      rcases next with ⟨unheld, found⟩ | ⟨⟨k, member, held⟩, found⟩
      · refine .inl ⟨?_, found⟩
        intro ⟨k, member, t, holds⟩
        rcases List.mem_cons.mp member with rfl | inside
        · exact holdsStanding (placedApart here) holds silent
        · exact unheld ⟨k, inside, t, holds⟩
      · exact .inr ⟨⟨k, List.mem_cons_of_mem _ member, held⟩, found⟩
    · rw [hollow] at gives
      have filled : mid.along (head :: rest) =
          some ((root.along (head :: rest)).getD .emptyTable) := gives
      have source := standingFromSource (placed l) (head :: rest)
      rw [hollow] at source
      refine .inr ⟨⟨l, List.mem_cons_self, source⟩, ?_⟩
      rw [filled] at next
      rcases next with ⟨_, found⟩ | ⟨_, found⟩
      · exact found
      · exact found

/-! ### All layers -/

section
variable {ls after : List (List (String × Tree))} {es : List (String × Tree)} {head : String}
  {rest : List String} {root : Tree}

/- What the last layer that touches a path leaves there, and what comes of it. -/
theorem foldTouched (clear : ∀ l ∈ ls, Clear l) (name : IsName head)
    (ok : ls.foldlM Tree.merge .emptyTable = some root)
    (last : LastTouch ls (head :: rest) es after) :
    Clear es ∧ ∃ before mid, ((placed es).standing (head :: rest)).Gives before mid ∧
      ((¬ Held after (head :: rest) ∧ root.along (head :: rest) = mid) ∨
      (Held after (head :: rest) ∧ root.along (head :: rest) = some (mid.getD .emptyTable))) := by
  obtain ⟨before, rfl⟩ := last.order
  have here := clear es (List.mem_append_right _ List.mem_cons_self)
  have later (l) (member : l ∈ after) : Clear l :=
    clear l (List.mem_append_right _ (List.mem_cons_of_mem _ member))
  rw [List.foldlM_append] at ok
  obtain ⟨below, _, ok⟩ := Option.bind_eq_some_iff.mp ok
  rw [List.foldlM_cons] at ok
  obtain ⟨mid, merged, ok⟩ := Option.bind_eq_some_iff.mp ok
  exact ⟨here, _, _, mergeAlong here name rest merged, foldUntouched later name last.untouched ok⟩

theorem foldDecided (clear : ∀ l ∈ ls, Clear l) (name : IsName head) (rest : List String)
    (ok : ls.foldlM Tree.merge .emptyTable = some root) :
    Decided ls (head :: rest) (root.along (head :: rest)) := by
  refine ⟨?_, ?_, ?_, ?_, ?_⟩
  · intro es after t last sets
    obtain ⟨here, before, mid, gives, outcome⟩ := foldTouched clear name ok last
    rw [standingSets (placedApart here) sets] at gives
    cases gives
    rcases outcome with ⟨_, found⟩ | ⟨_, found⟩
    · exact found
    · exact found
  · intro es after last cuts unheld
    obtain ⟨here, before, mid, gives, outcome⟩ := foldTouched clear name ok last
    rw [standingCuts (placedApart here) cuts] at gives
    cases gives
    rcases outcome with ⟨_, found⟩ | ⟨⟨l, member, t, holds⟩, _⟩
    · exact found
    · exact absurd holds (unheld l member t)
  · intro es after last cuts held
    obtain ⟨here, before, mid, gives, outcome⟩ := foldTouched clear name ok last
    rw [standingCuts (placedApart here) cuts] at gives
    cases gives
    rcases outcome with ⟨unheld, _⟩ | ⟨_, found⟩
    · exact absurd held unheld
    · exact found
  · intro es after last opens
    obtain ⟨here, before, mid, gives, outcome⟩ := foldTouched clear name ok last
    rw [standingOpens (placedApart here) opens] at gives
    obtain ⟨t, rfl, table⟩ := gives
    rcases outcome with ⟨_, found⟩ | ⟨_, found⟩
    · exact ⟨t, found, table⟩
    · exact ⟨t, found, table⟩
  · intro untouched
    rcases foldUntouched clear name untouched ok with ⟨_, found⟩ | ⟨_, found⟩
    · exact .inl found
    · exact .inr found

end

/-! ### The layers of the program -/

section
variable {fs : Formats} {d : Directory} {env : Environment} {file : Option String}

variable (fs d env) in
inductive Stacked : Option String → List (List (String × Tree)) → Prop where
  | given {file defaults es} : d.entries fs defaultsName = .ok defaults →
      d.entries fs file = .ok es → Stacked (some file) [defaults, es]
  | moded {defaults es} : d.entries fs defaultsName = .ok defaults →
      d.entries fs (modeName env.mode) = .ok es →
      Stacked none [defaults, es, environmentEntries env]
  | modeless {defaults f} : d.entries fs defaultsName = .ok defaults →
      d.find fs (modeName env.mode) = .error f →
      Stacked none [defaults, environmentEntries env]

def readNames (env : Environment) : Option String → List String
  | some file => [defaultsName, file]
  | none => [defaultsName, modeName env.mode]

/- No root key of a file that is read has a point or a bracket. -/
def PlainFiles (fs : Formats) (d : Directory) (env : Environment) (file : Option String) : Prop :=
  ∀ name ∈ readNames env file, ∀ es, d.entries fs name = .ok es → ∀ e ∈ es, PlainKey e.1

theorem entriesRead {name : String} {es : List (String × Tree)} :
    d.entries fs name = .ok es ↔ ∃ f, d.find fs name = .ok f ∧ d.read fs f = .ok es := by
  unfold Directory.entries
  cases found : d.find fs name with
  | error f => exact ⟨nofun, nofun⟩
  | ok f => exact ⟨fun ok => ⟨f, rfl, ok⟩, fun ⟨g, same, ok⟩ => Except.ok.inj same ▸ ok⟩

theorem entriesClear {name : String} (plain : PlainFiles fs d env file)
    (read : name ∈ readNames env file) {es : List (String × Tree)}
    (ok : d.entries fs name = .ok es) : Clear es := by
  obtain ⟨f, _, source⟩ := entriesRead.mp ok
  exact fileClear source (plain name read es ok)

theorem stackedClear {ls : List (List (String × Tree))} (stacked : Stacked fs d env file ls)
    (plain : PlainFiles fs d env file) (apart : env.Apart) : ∀ l ∈ ls, Clear l := by
  have environment := environmentClear apart
  cases stacked with
  | given defaults upper =>
    have first := entriesClear plain List.mem_cons_self defaults
    have second := entriesClear plain (List.mem_cons_of_mem _ List.mem_cons_self) upper
    simp [first, second]
  | moded defaults upper =>
    have first := entriesClear plain List.mem_cons_self defaults
    have second := entriesClear plain (List.mem_cons_of_mem _ List.mem_cons_self) upper
    simp [first, second, environment]
  | modeless defaults absent =>
    have first := entriesClear plain List.mem_cons_self defaults
    simp [first, environment]

theorem underRead (root : Tree) (es : List (String × Tree)) :
    root.under (.ok es) = (root.merge es).elim (.error .overrun) .ok := by
  unfold Tree.under
  simp only [bind, Except.bind]
  cases root.merge es <;> rfl

/- Layers that were read are merged, or a list was to be written before its start. -/
theorem foldRead (ls : List (List (String × Tree))) (root : Tree) :
    (ls.map .ok).foldlM Tree.under root =
      (ls.foldlM Tree.merge root).elim (.error .overrun) .ok := by
  induction ls generalizing root with
  | nil => rfl
  | cons l ls ih =>
    rw [List.map_cons, List.foldlM_cons, List.foldlM_cons, underRead]
    cases root.merge l with
    | none => rfl
    | some mid => exact ih mid

theorem underOk {root t : Tree} {layer : Except Fault (List (String × Tree))}
    (ok : root.under layer = .ok t) : ∃ es, layer = .ok es ∧ root.merge es = some t := by
  cases layer with
  | error f => contradiction
  | ok es =>
    rw [underRead] at ok
    cases merged : root.merge es with
    | none => rw [merged] at ok; contradiction
    | some mid =>
      rw [merged] at ok
      cases Except.ok.inj ok
      exact ⟨es, rfl, merged⟩

theorem foldOk {root t : Tree} {layers : List (Except Fault (List (String × Tree)))}
    (ok : layers.foldlM Tree.under root = .ok t) :
    ∃ ls : List (List (String × Tree)),
      layers = ls.map .ok ∧ ls.foldlM Tree.merge root = some t := by
  induction layers generalizing root with
  | nil =>
    cases Except.ok.inj ok
    exact ⟨[], rfl, rfl⟩
  | cons layer layers ih =>
    rw [List.foldlM_cons] at ok
    cases first : root.under layer with
    | error f => rw [first] at ok; contradiction
    | ok mid =>
      rw [first] at ok
      obtain ⟨es, rfl, merged⟩ := underOk first
      obtain ⟨ls, rfl, rest⟩ := ih ok
      exact ⟨es :: ls, rfl, by rw [List.foldlM_cons, merged]; exact rest⟩

/- Settings of layers that were read. -/
def settledBy (ls : List (List (String × Tree))) : Except Fault Settings :=
  (ls.foldlM Tree.merge .emptyTable).elim (.error .overrun) fun root => .ok ⟨root⟩

theorem loadRead {ls : List (List (String × Tree))} (read : layers fs d env file = ls.map .ok) :
    load fs d env file = settledBy ls := by
  rw [load, read, foldRead, settledBy]
  cases ls.foldlM Tree.merge .emptyTable <;> rfl

theorem loadMerged {s : Settings} : load fs d env file = .ok s ↔
    ∃ ls : List (List (String × Tree)),
      layers fs d env file = ls.map .ok ∧ ls.foldlM Tree.merge .emptyTable = some s.root := by
  constructor
  · intro ok
    unfold load at ok
    cases merged : (layers fs d env file).foldlM Tree.under .emptyTable with
    | error f => rw [merged] at ok; contradiction
    | ok root =>
      rw [merged] at ok
      cases Except.ok.inj ok
      exact foldOk merged
  · intro ⟨ls, read, merged⟩
    rw [loadRead read, settledBy, merged]
    rfl

theorem loadStacked {s : Settings} (ok : load fs d env file = .ok s) :
    ∃ ls, Stacked fs d env file ls ∧ ls.foldlM Tree.merge .emptyTable = some s.root := by
  obtain ⟨ls, read, merged⟩ := loadMerged.mp ok
  cases file with
  | some file =>
    obtain ⟨defaults, es, rfl, first, second⟩ : ∃ defaults es, ls = [defaults, es] ∧
        d.entries fs defaultsName = .ok defaults ∧ d.entries fs file = .ok es := by
      simpa [layers, eq_comm, List.map_eq_cons_iff] using read
    exact ⟨_, .given first second, merged⟩
  | none =>
    obtain ⟨defaults, es, rfl, first, second⟩ : ∃ defaults es,
        ls = [defaults, es, environmentEntries env] ∧
        d.entries fs defaultsName = .ok defaults ∧
        d.entriesIfFound fs (modeName env.mode) = .ok es := by
      simpa [layers, eq_comm, List.map_eq_cons_iff] using read
    unfold Directory.entriesIfFound at second
    cases found : d.find fs (modeName env.mode) with
    | error f =>
      rw [found] at second
      cases Except.ok.inj second
      exact ⟨_, .modeless first found, merged⟩
    | ok f =>
      rw [found] at second
      exact ⟨_, .moded first (entriesRead.mpr ⟨f, found, second⟩), merged⟩

theorem stackedLoad {ls : List (List (String × Tree))} {root : Tree}
    (stacked : Stacked fs d env file ls) (merged : ls.foldlM Tree.merge .emptyTable = some root) :
    load fs d env file = .ok ⟨root⟩ := by
  cases stacked with
  | given defaults upper =>
    exact loadMerged.mpr ⟨_, by rw [layers, defaults, upper]; rfl, merged⟩
  | moded defaults upper =>
    obtain ⟨f, found, read⟩ := entriesRead.mp upper
    refine loadMerged.mpr ⟨_, ?_, merged⟩
    rw [layers, defaults, Directory.entriesIfFound, found]
    simp only [read]
    rfl
  | @modeless defaults f first absent =>
    refine loadMerged.mpr ⟨[defaults, [], environmentEntries env], ?_, merged⟩
    rw [layers, first, Directory.entriesIfFound, absent]
    rfl

end
/- A working directory with nothing but files of settings. -/
def settingsFiles (files : List (String × String)) : Directory where
  here := ["work"]
  files := files.map fun f => (["work", "conf", f.1], f.2)

end TagListing.Settings
