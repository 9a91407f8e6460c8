import TagListing.Proofs.Settings.Reordered

/-! What the getters find once the settings are loaded. At every path of names it is what the last
layer that touches the path says, whatever the order of the variables and of the entries. A layer
that cuts a path off does not hide the empty table that a later layer holds there. Keys with
subscripts are not claimed, nor files whose root keys are paths. -/
namespace TagListing.Settings

/- What a getter makes of the value that it finds. -/
def readFound {α : Type} (decode : Decoder α) (key : String) :
    Option Tree → Except Fault (Option α)
  | none => .ok none
  | some t =>
    if t.isNil then .ok none
    else match decode t with
      | .ok a => .ok (some a)
      | .error f => .error (f.forKey key)

theorem getFound {α : Type} (decode : Decoder α) (s : Settings) {key : String} {q : List String}
    (path : dotted? key = some q) : s.get decode key = readFound decode key (s.root.along q) := by
  obtain ⟨p, parsed, found⟩ := findAlong path s.root
  rw [← found]
  unfold get
  simp only [parsed]
  cases p.find s.root <;> rfl

theorem stackedSwapped {fs : Formats} {d : Directory} {env env' : Environment}
    {file : Option String} {ls : List (List (String × Tree))} (stacked : Stacked fs d env file ls)
    (apart : env.Apart) (order : env'.Perm env) (mode : env'.mode = env.mode) :
    ∃ ls', Stacked fs d env' file ls' ∧ List.Forall₂ Swapped ls ls' := by
  have self (es : List (String × Tree)) : Swapped es es := reorderedSwapped (reorderedSelf es)
  have last := environmentSwapped apart order
  cases stacked with
  | given defaults upper =>
    exact ⟨_, .given defaults upper, .cons (self _) (.cons (self _) .nil)⟩
  | moded defaults upper =>
    exact ⟨_, .moded defaults (mode ▸ upper), .cons (self _) (.cons (self _) (.cons last .nil))⟩
  | modeless defaults absent =>
    exact ⟨_, .modeless defaults (mode ▸ absent), .cons (self _) (.cons last .nil)⟩

/- The layers and what they leave at each path; then any other order of the entries, and of the
variables. -/
theorem lastTouchDecides {fs : Formats} {d : Directory} {env : Environment} {file : Option String}
    {s : Settings} (plain : PlainFiles fs d env file) (apart : env.Apart)
    (ok : load fs d env file = .ok s) :
    ∃ ls, Stacked fs d env file ls ∧ ls.foldlM Tree.merge .emptyTable = some s.root ∧
      (∀ key q, dotted? key = some q →
        (∀ {α : Type} (decode : Decoder α),
          s.get decode key = readFound decode key (s.root.along q)) ∧
        Decided ls q (s.root.along q)) ∧
      (∀ ls', List.Forall₂ Reordered ls ls' →
        ∃ root, ls'.foldlM Tree.merge .emptyTable = some root ∧
          ∀ key q, dotted? key = some q → ∀ r,
            Tells (s.root.along (q ++ r)) (root.along (q ++ r))) ∧
      (∀ env' : Environment, env'.Perm env → env'.mode = env.mode →
        ∃ s', load fs d env' file = .ok s' ∧ ∀ key q, dotted? key = some q → ∀ r,
          Tells (s.root.along (q ++ r)) (s'.root.along (q ++ r))) := by
  obtain ⟨ls, stacked, merged⟩ := loadStacked ok
  have clear := stackedClear stacked plain apart
  have tells {ls' : List (List (String × Tree))} {root : Tree}
      (same : List.Forall₂ Swapped ls ls')
      (merged' : ls'.foldlM Tree.merge .emptyTable = some root) (key q)
      (path : dotted? key = some q) (r : List String) :
      Tells (s.root.along (q ++ r)) (root.along (q ++ r)) := by
    obtain ⟨head, rest, rfl, name, _⟩ := dottedParse path
    have start : Tells (Tree.emptyTable.along (head :: (rest ++ r)))
        (Tree.emptyTable.along (head :: (rest ++ r))) := .nothing
    exact foldTells name (rest ++ r) clear same start merged merged'
  refine ⟨ls, stacked, merged, ?_, ?_, ?_⟩
  · intro key q path
    refine ⟨fun decode => getFound decode s path, ?_⟩
    obtain ⟨head, rest, rfl, name, _⟩ := dottedParse path
    exact foldDecided clear name rest merged
  · intro ls' order
    have same := order.imp fun _ _ => reorderedSwapped
    obtain ⟨root, merged'⟩ := foldClear (swappedClear clear same) .emptyTable
    exact ⟨root, merged', tells same merged'⟩
  · intro env' order mode
    obtain ⟨ls', stacked', same⟩ := stackedSwapped stacked apart order mode
    obtain ⟨root, merged'⟩ := foldClear (swappedClear clear same) .emptyTable
    exact ⟨_, stackedLoad stacked' merged', tells same merged'⟩

/-! ### A truth value, and an empty table below it -/

def cutFiles : Directory :=
  settingsFiles [("default.toml", "a = true\n"), ("development.toml", "[a.b]\n")]

def cutDefaults : List (String × Tree) := [("a", .scalar (some "conf/default.toml") (.bool true))]

def cutMode : List (String × Tree) :=
  [("a", .table (some "conf/development.toml") [("b", .table (some "conf/development.toml") [])])]

theorem cutDefaultsFound : cutFiles.entries .plain defaultsName = .ok cutDefaults := by
  have path : cutFiles.path defaultsName = ["work", "conf", "default"] := by decide +kernel
  have found : cutFiles.find .plain defaultsName =
      .ok ⟨"a = true\n", ["work", "conf", "default.toml"], .toml⟩ := by
    rw [Directory.find, path]
    rfl
  rw [Directory.entries, found]
  rfl

theorem cutModeFound : cutFiles.entries .plain "conf/development" = .ok cutMode := by
  have path : cutFiles.path "conf/development" = ["work", "conf", "development"] := by
    decide +kernel
  have found : cutFiles.find .plain "conf/development" =
      .ok ⟨"[a.b]\n", ["work", "conf", "development.toml"], .toml⟩ := by
    rw [Directory.find, path]
    rfl
  rw [Directory.entries, found]
  rfl

theorem cutStacked {env : Environment} (mode : modeName env.mode = "conf/development") :
    Stacked .plain cutFiles env none [cutDefaults, cutMode, environmentEntries env] :=
  .moded cutDefaultsFound (mode ▸ cutModeFound)

theorem cutPlain {env : Environment} (mode : modeName env.mode = "conf/development") :
    PlainFiles .plain cutFiles env none := by
  have plain : PlainKey "a" := by unfold PlainKey; decide +kernel
  intro name read es ok
  rcases List.mem_cons.mp read with rfl | read
  · cases Except.ok.inj (cutDefaultsFound.symm.trans ok)
    simp [cutDefaults, plain]
  · rw [List.mem_singleton.mp read, mode] at ok
    cases Except.ok.inj (cutModeFound.symm.trans ok)
    simp [cutMode, plain]

theorem cutLoad {env : Environment} (mode : modeName env.mode = "conf/development")
    (apart : env.Apart) : ∃ s, load .plain cutFiles env none = .ok s := by
  obtain ⟨root, merged⟩ := foldClear (stackedClear (cutStacked mode) (cutPlain mode) apart)
    .emptyTable
  exact ⟨_, stackedLoad (cutStacked mode) merged⟩

theorem cutAnyway : (placed cutDefaults).Cuts ["a", "b"] := by
  have here : placed cutDefaults = [(["a"], .scalar (some "conf/default.toml") (.bool true))] := by
    rfl
  rw [here]
  exact ⟨["a"], ["b"], _, rfl, by simp, ⟨_, List.mem_singleton_self _, [], rfl, rfl⟩, id⟩

theorem cutModeUntouched : ¬ (placed cutMode).Touches ["a", "b"] := by
  have here : placed cutMode = [(["a"], .table (some "conf/development.toml")
      [("b", .table (some "conf/development.toml") [])])] := by rfl
  rw [here]
  exact fun touches => (touchedStanding (List.pairwise_singleton ..) touches).2 rfl

/- The truth value cuts off what lies below it, no later layer touches the path, and yet an empty
table is found. -/
theorem emptyTableBelowTruth :
    ∃ s, load .plain cutFiles [] none = .ok s ∧ PlainFiles .plain cutFiles [] none ∧
      Environment.Apart [] ∧ dotted? "a.b" = some ["a", "b"] ∧
      ∃ ls after, Stacked .plain cutFiles [] none ls ∧
        LastTouch ls ["a", "b"] cutDefaults after ∧
        (placed cutDefaults).Cuts ["a", "b"] ∧ s.getValue "a.b" = .ok (some .emptyTable) := by
  have mode : modeName (Environment.mode []) = "conf/development" := rfl
  have stacked := cutStacked mode
  have apart : Environment.Apart [] := ⟨by simp, List.Pairwise.nil⟩
  have merged : [cutDefaults, cutMode, []].foldlM Tree.merge .emptyTable =
      some (.table none [("a", .table none [("b", .emptyTable)])]) := by rfl
  refine ⟨_, stackedLoad stacked merged, cutPlain mode, apart, by rfl, _, [cutMode, []], stacked,
    ⟨⟨[], rfl⟩, .inr (.inl cutAnyway), ?_⟩, cutAnyway, by rfl⟩
  intro l member
  rcases List.mem_cons.mp member with rfl | member
  · exact cutModeUntouched
  · rw [List.mem_singleton.mp member]
    exact fun touches => (touchedStanding List.Pairwise.nil touches).1 rfl

def cutVariables : Environment := [("APP_A_C", "x")]

theorem cutVariablesApart : cutVariables.Apart := by
  refine ⟨?_, List.pairwise_singleton ..⟩
  intro v member key p sets parsed
  cases List.mem_singleton.mp member
  have known : variableKey? "APP_A_C" = some "a.c" := by decide +kernel
  cases Option.some.inj (known.symm.trans sets)
  exact ⟨["a", "c"], by rfl⟩

theorem cutVariablesSet :
    (placed (environmentEntries cutVariables)).Sets ["a", "c"] (environmentText "x") := by
  have path : variablePath? "APP_A_C" = some ["a", "c"] := by decide +kernel
  have member := (environmentPlaced cutVariablesApart ["a", "c"] (environmentText "x")).mpr
    ⟨("APP_A_C", "x"), List.mem_singleton_self _, path, rfl⟩
  exact ⟨⟨_, member, [], rfl, rfl⟩, id⟩

theorem lastTouchOfThreeLayers :
    PlainFiles .plain cutFiles cutVariables none ∧ cutVariables.Apart ∧
      ∃ s, load .plain cutFiles cutVariables none = .ok s ∧
        s.getValue "a.c" = .ok (some (.scalar none (.text "x"))) := by
  have mode : modeName cutVariables.mode = "conf/development" := by decide +kernel
  obtain ⟨s, ok⟩ := cutLoad mode cutVariablesApart
  have path : dotted? "a.c" = some ["a", "c"] := by decide +kernel
  refine ⟨cutPlain mode, cutVariablesApart, s, ok, ?_⟩
  obtain ⟨ls, stacked, _, decided, _⟩ := lastTouchDecides (cutPlain mode) cutVariablesApart ok
  obtain ⟨getters, decided⟩ := decided "a.c" ["a", "c"] path
  have last : ∃ before, ls = before ++ environmentEntries cutVariables :: [] := by
    cases stacked with
    | moded defaults upper => exact ⟨[_, _], rfl⟩
    | modeless defaults absent => exact ⟨[_], rfl⟩
  have found := decided.sets _ [] _ ⟨last, .inl ⟨_, cutVariablesSet⟩, by simp⟩ cutVariablesSet
  rw [Settings.getValue, getters, found]
  rfl

end TagListing.Settings
