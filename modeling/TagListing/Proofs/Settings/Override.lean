import TagListing.Proofs.Settings.LastTouch
import TagListing.Service.App
import TagListing.Fleet.Server

/-! One variable that is named after a key. It sets the key in small letters with points for
underscores; a key that is so already takes the variable's text, whatever the files say, and every
other key is read as if the variable were not there. Keys with subscripts are not claimed. -/
namespace TagListing.Settings

/-! ### The letters of a key -/

/- A variable's letter for a letter of a key, and the letter that the variable sets for it. -/
def shouted (c : Char) : Char := if c = '.' then '_' else c.toUpper

def folded (c : Char) : Char := if c = '_' then '.' else c.toLower

def variableOf (key : String) : String :=
  String.ofList ('A' :: 'P' :: 'P' :: '_' :: key.toList.map shouted)

def landing (key : String) : String := String.ofList (key.toList.map folded)

theorem lowerPlain (before : List Char) {s : List Char} (plain : ∀ c ∈ s, c.toNat < 128) :
    Text.lowerFrom before s = s.map Char.toLower := by
  induction s generalizing before with
  | nil => rfl
  | cons c s ih =>
    have small := plain c List.mem_cons_self
    have other : c ≠ 'Σ' := by
      rintro rfl
      exact absurd small (by decide)
    rw [Text.lowerFrom, if_neg other, Text.lowerChar, if_pos small,
      ih _ fun d member => plain d (List.mem_cons_of_mem _ member)]
    rfl

theorem ofPlain {P : Char → Prop} (each : ∀ n < 128, P (Char.ofNat n)) {c : Char}
    (small : c.toNat < 128) : P c := by
  have here := each c.toNat small
  rwa [Char.ofNat_toNat] at here

theorem foldShouted {c : Char} (small : c.toNat < 128) : (shouted c).toNat < 128 ∧
    (if shouted c = '_' then '.' else shouted c).toNat < 128 ∧
    (if shouted c = '_' then '.' else shouted c).toLower = folded c := by
  apply ofPlain ?_ small
  decide

theorem variableLands {key : String} (plain : ∀ c ∈ key.toList, c.toNat < 128) :
    variableKey? (variableOf key) = some (landing key) := by
  have name : (variableOf key).toList = 'A' :: 'P' :: 'P' :: '_' :: key.toList.map shouted :=
    String.toList_ofList
  have shoutedPlain : ∀ c ∈ (variableOf key).toList, c.toNat < 128 := by
    rw [name]
    intro c member
    simp only [List.mem_cons, List.mem_map] at member
    rcases member with rfl | rfl | rfl | rfl | ⟨d, inside, rfl⟩
    iterate 4 decide
    exact (foldShouted (plain d inside)).1
  have mark : (Text.lower (variableOf key)).toList.take 4 = ['a', 'p', 'p', '_'] := by
    rw [Text.lower, String.toList_ofList, lowerPlain [] shoutedPlain, name]
    rfl
  have rest : ((variableOf key).toList.drop 4).map (fun c => if c = '_' then '.' else c) =
      key.toList.map fun c => if shouted c = '_' then '.' else shouted c := by
    rw [name]
    simp only [List.drop_succ_cons, List.drop_zero, List.map_map]
    rfl
  have lowered : Text.lower (String.ofList (key.toList.map fun c =>
      if shouted c = '_' then '.' else shouted c)) = landing key := by
    rw [Text.lower, String.toList_ofList, lowerPlain, List.map_map, landing]
    · exact congrArg String.ofList
        (List.map_congr_left fun c member => (foldShouted (plain c member)).2.2)
    · intro c member
      obtain ⟨d, inside, rfl⟩ := List.mem_map.mp member
      exact (foldShouted (plain d inside)).2.1
  rw [variableKey?, if_pos mark, rest]
  exact congrArg some lowered

/- A key that its variable reaches. -/
def Reachable (key : String) : Prop := ∀ c ∈ key.toList, c ≠ '_' ∧ c.isUpper = false

theorem reachableLanding {key : String} (plain : ∀ c ∈ key.toList, c.toNat < 128) :
    landing key = key ↔ Reachable key := by
  have letter (c : Char) (small : c.toNat < 128) :
      folded c = c ↔ c ≠ '_' ∧ c.isUpper = false := by
    apply ofPlain ?_ small
    decide
  have same : landing key = key ↔ key.toList.map folded = key.toList.map id := by
    rw [landing, List.map_id, ← String.toList_inj, String.toList_ofList]
  rw [same, List.map_inj_left]
  constructor
  · exact fun h c member => (letter c (plain c member)).mp (h c member)
  · exact fun h c member => (letter c (plain c member)).mpr (h c member)

/-! ### The spelling of a path -/

def spelled (q : List String) : List Char := q.flatMap fun name => '.' :: name.toList

theorem stepSpelled {s rest : List Char} {step : Step} (ok : readStep s = .ok (step, rest)) :
    (∃ name, step = .field name ∧ s = '.' :: (name.toList ++ rest) ∧
      ∀ c ∈ name.toList, isNameChar c = true) ∨ ((∃ i, step = .index i) ∧ '[' ∈ s) := by
  have subscript {s : List Char} (ok : readSubscript s = .ok (step, rest)) :
      (∃ i, step = .index i) ∧ '[' ∈ s := by
    unfold readSubscript at ok
    split at ok
    · rename_i inner
      cases read : readIndex inner with
      | error f => rw [read] at ok; contradiction
      | ok p =>
        rw [read] at ok
        cases Except.ok.inj ok
        exact ⟨⟨_, rfl⟩, List.mem_cons_self⟩
    · contradiction
  unfold readStep at ok
  split at ok
  · rename_i after
    split at ok
    · exact .inr (subscript ok)
    · cases Except.ok.inj ok
      refine .inl ⟨_, rfl, ?_, ?_⟩
      · rw [String.toList_ofList, List.takeWhile_append_dropWhile]
      · rw [String.toList_ofList]
        exact fun c member => List.mem_takeWhile_imp member
  · exact .inr (subscript ok)

theorem readStepsCons {fuel : Nat} {c : Char} {s : List Char} {steps : List Step}
    (ok : readSteps (fuel + 1) (c :: s) = .ok steps) :
    ∃ step rest more, readStep (c :: s) = .ok (step, rest) ∧ readSteps fuel rest = .ok more ∧
      steps = step :: more := by
  unfold readSteps at ok
  cases first : readStep (c :: s) with
  | error f => rw [first] at ok; contradiction
  | ok p =>
    rw [first] at ok
    obtain ⟨step, rest⟩ := p
    cases later : readSteps fuel rest with
    | error f => simp only [bind, Except.bind, later] at ok; contradiction
    | ok more =>
      simp only [bind, Except.bind, later] at ok
      exact ⟨step, rest, more, rfl, later, (Except.ok.inj ok).symm⟩

/- Steps that are all fields spell what they were read from. -/
theorem stepsSpelled {fuel : Nat} {s : List Char} {steps : List Step} {names : List String}
    (room : s.length ≤ fuel) (ok : readSteps fuel s = .ok steps)
    (fields : namesOf? steps = some names) :
    spelled names = s ∧ ∀ c ∈ s, c = '.' ∨ isNameChar c = true := by
  induction fuel generalizing s steps names with
  | zero =>
    cases List.eq_nil_of_length_eq_zero (Nat.le_zero.mp room)
    cases Except.ok.inj ok
    cases Option.some.inj fields
    exact ⟨rfl, fun _ member => absurd member List.not_mem_nil⟩
  | succ fuel ih =>
    cases s with
    | nil =>
      cases Except.ok.inj ok
      cases Option.some.inj fields
      exact ⟨rfl, fun _ member => absurd member List.not_mem_nil⟩
    | cons c s =>
      obtain ⟨step, rest, more, first, later, rfl⟩ := readStepsCons ok
      rcases stepSpelled first with ⟨name, rfl, same, letters⟩ | ⟨⟨i, rfl⟩, _⟩
      · obtain ⟨tail, inner, rfl⟩ := Option.map_eq_some_iff.mp fields
        rw [same, List.length_cons, List.length_append] at room
        obtain ⟨spelt, others⟩ := ih (by omega) later inner
        rw [same]
        refine ⟨?_, ?_⟩
        · rw [spelled, List.flatMap_cons, ← spelled, spelt]
          rfl
        · intro d member
          rcases List.mem_cons.mp member with dot | member
          · exact .inl dot
          · rcases List.mem_append.mp member with inside | beyond
            · exact .inr (letters d inside)
            · exact others d beyond
      · contradiction

/- Without a bracket there are only fields. -/
theorem stepsLegible {fuel : Nat} {s : List Char} {steps : List Step} (plain : '[' ∉ s)
    (ok : readSteps fuel s = .ok steps) : ∃ names, namesOf? steps = some names := by
  induction fuel generalizing s steps with
  | zero =>
    cases s <;> cases Except.ok.inj ok <;> exact ⟨[], rfl⟩
  | succ fuel ih =>
    cases s with
    | nil =>
      cases Except.ok.inj ok
      exact ⟨[], rfl⟩
    | cons c s =>
      obtain ⟨step, rest, more, first, later, rfl⟩ := readStepsCons ok
      rcases stepSpelled first with ⟨name, rfl, same, _⟩ | ⟨_, bracket⟩
      · rw [same] at plain
        have beyond : '[' ∉ rest := fun member =>
          plain (List.mem_cons_of_mem _ (List.mem_append_right _ member))
        obtain ⟨names, inner⟩ := ih beyond later
        exact ⟨name :: names, by rw [namesOf?, inner]; rfl⟩
      · exact absurd bracket plain

theorem parsedSteps {key : String} {p : Path} (ok : Path.parse key = .ok p) :
    p.head.toList = key.toList.takeWhile isNameChar ∧
      readSteps key.length (key.toList.dropWhile isNameChar) = .ok p.steps := by
  unfold Path.parse at ok
  split at ok
  · contradiction
  · cases steps : readSteps key.length (key.toList.dropWhile isNameChar) with
    | error f => rw [steps] at ok; contradiction
    | ok more =>
      rw [steps] at ok
      cases Except.ok.inj ok
      exact ⟨String.toList_ofList, rfl⟩

theorem dottedSpelled {key : String} {q : List String} (path : dotted? key = some q) :
    spelled q = '.' :: key.toList ∧ ∀ c ∈ key.toList, c = '.' ∨ isNameChar c = true := by
  unfold dotted? at path
  split at path
  · rename_i p parsed
    obtain ⟨names, fields, rfl⟩ := Option.map_eq_some_iff.mp path
    obtain ⟨head, steps⟩ := parsedSteps parsed
    have room : (key.toList.dropWhile isNameChar).length ≤ key.length := by
      rw [← String.length_toList]
      exact (List.dropWhile_suffix isNameChar).length_le
    obtain ⟨spelt, others⟩ := stepsSpelled room steps fields
    have parts := List.takeWhile_append_dropWhile (p := isNameChar) (l := key.toList)
    refine ⟨?_, ?_⟩
    · rw [spelled, List.flatMap_cons, ← spelled, spelt, head, List.cons_append, parts]
    · intro c member
      rw [← parts] at member
      rcases List.mem_append.mp member with inside | beyond
      · exact .inr (List.mem_takeWhile_imp inside)
      · exact others c beyond
  · contradiction

theorem legibleWithoutBracket {key : String} {p : Path} (plain : '[' ∉ key.toList)
    (parsed : Path.parse key = .ok p) : ∃ q, dotted? key = some q := by
  have rest : '[' ∉ key.toList.dropWhile isNameChar := fun member =>
    plain ((List.dropWhile_suffix isNameChar).subset member)
  obtain ⟨names, fields⟩ := stepsLegible rest (parsedSteps parsed).2
  exact ⟨p.head :: names, by rw [dotted?, parsed]; simp only [fields]; rfl⟩

/-! ### The one variable -/

theorem keyLetter {c : Char} (letter : c = '.' ∨ isNameChar c = true) :
    c.toNat < 128 ∧ folded c ≠ '[' := by
  have small : c.toNat < 128 := by
    rcases letter with rfl | name
    · decide
    · delta isNameChar Char.isAlphanum Char.isAlpha Char.isUpper Char.isLower Char.isDigit at name
      simp only [Bool.or_eq_true, Bool.and_eq_true, decide_eq_true_eq, ge_iff_le,
        UInt32.le_iff_toNat_le] at name
      rcases name with ((((⟨_, upper⟩ | ⟨_, lower⟩) | ⟨_, digit⟩) | rfl) | rfl) | rfl
      · exact Nat.lt_of_le_of_lt upper (by decide)
      · exact Nat.lt_of_le_of_lt lower (by decide)
      · exact Nat.lt_of_le_of_lt digit (by decide)
      all_goals decide
  have solid : c = '.' ∨ isNameChar c = true → folded c ≠ '[' := by
    apply ofPlain ?_ small
    decide
  exact ⟨small, solid letter⟩

/- The paths that a key and its variable stand for are the same or aside. -/
theorem landingAside {key : String} {p q : List String} (path : dotted? key = some q)
    (land : dotted? (landing key) = some p) (other : landing key ≠ key) : Aside p q := by
  have spelt := (dottedSpelled path).1
  have landed := (dottedSpelled land).1
  have long : (spelled p).length = (spelled q).length := by
    rw [spelt, landed, landing, String.toList_ofList, List.length_cons, List.length_cons,
      List.length_map]
  have differ : p ≠ q := by
    rintro rfl
    rw [spelt] at landed
    exact other (String.toList_inj.mp (List.cons.inj landed).2).symm
  have shorter {a r : List String} (same : (spelled a).length = (spelled (a ++ r)).length) :
      r = [] := by
    rw [spelled, spelled, List.flatMap_append, List.length_append] at same
    cases r with
    | nil => rfl
    | cons name r =>
      rw [List.flatMap_cons, List.length_append, List.length_cons] at same
      omega
  refine ⟨?_, ?_⟩
  · rintro ⟨r, rfl⟩
    rw [shorter long, List.append_nil] at differ
    exact differ rfl
  · rintro ⟨r, rfl⟩
    rw [shorter long.symm, List.append_nil] at differ
    exact differ rfl

/- Of the variables that set a key there is one, with one text. -/
structure Environment.Only (env : Environment) (name text : String) : Prop where
  set : (name, text) ∈ env
  only : ∀ v ∈ env, (variableKey? v.1).isSome → v = (name, text)

def Environment.Silent (env : Environment) : Prop := ∀ v ∈ env, variableKey? v.1 = none

theorem silentEntries {env : Environment} (silent : env.Silent) : environmentEntries env = [] := by
  induction env using List.reverseRecOn with
  | nil => rfl
  | append_singleton env v ih =>
    rw [environmentSnoc, silent v (by simp)]
    exact ih fun w member => silent w (List.mem_append_left _ member)

theorem onlyEntries {env : Environment} {name text key : String} (only : env.Only name text)
    (sets : variableKey? name = some key) :
    environmentEntries env = [(key, environmentText text)] := by
  -- The same for every part of the environment, whether the variable stands in it or not.
  have part (env : Environment) (only : ∀ v ∈ env, (variableKey? v.1).isSome → v = (name, text)) :
      environmentEntries env =
        if (name, text) ∈ env then [(key, environmentText text)] else [] := by
    induction env using List.reverseRecOn with
    | nil => rfl
    | append_singleton env v ih =>
      rw [environmentSnoc, ih fun w member => only w (List.mem_append_left _ member)]
      by_cases this : v = (name, text)
      · subst this
        rw [sets, if_pos (List.mem_append_right env (List.mem_singleton_self _))]
        change putEntry key (environmentText text) _ = _
        split
        · rw [putEntry, if_pos rfl]
        · rfl
      · have unset : variableKey? v.1 = none := by
          refine Option.eq_none_iff_forall_ne_some.mpr fun k some => this ?_
          exact only v (List.mem_append_right env (List.mem_singleton_self v)) (by rw [some]; rfl)
        have still : (name, text) ∈ env ++ [v] ↔ (name, text) ∈ env := by
          simp [Ne.symm this]
        rw [unset]
        simp only [still]
  rw [part env only.only, if_pos only.set]

theorem foldSnoc (ls : List (List (String × Tree))) {l : List (String × Tree)} {root t : Tree} :
    (ls ++ [l]).foldlM Tree.merge root = some t ↔
      ∃ mid, ls.foldlM Tree.merge root = some mid ∧ mid.merge l = some t := by
  simp only [List.foldlM_append, List.foldlM_cons, List.foldlM_nil, bind_pure]
  exact Option.bind_eq_some_iff

/- The files alone, and the variable over them. -/
theorem loadOver {fs : Formats} {d : Directory} {env : Environment} {s : Settings}
    {name text key : String} (ok : load fs d env none = .ok s) (only : env.Only name text)
    (sets : variableKey? name = some key) :
    ∃ below : Settings, below.root.merge [(key, environmentText text)] = some s.root ∧
      ∀ bare : Environment, bare.Silent → bare.mode = env.mode →
        load fs d bare none = .ok below := by
  obtain ⟨ls, stacked, merged⟩ := loadStacked ok
  cases stacked with
  | @moded defaults es first upper =>
    rw [onlyEntries only sets] at merged
    obtain ⟨below, files, last⟩ := (foldSnoc [defaults, es]).mp merged
    refine ⟨⟨below⟩, last, fun bare silent mode => ?_⟩
    have stacked : Stacked fs d bare none [defaults, es, environmentEntries bare] :=
      .moded first (mode ▸ upper)
    rw [silentEntries silent] at stacked
    exact stackedLoad stacked ((foldSnoc [defaults, es]).mpr ⟨below, files, rfl⟩)
  | @modeless defaults f first absent =>
    rw [onlyEntries only sets] at merged
    obtain ⟨below, files, last⟩ := (foldSnoc [defaults]).mp merged
    refine ⟨⟨below⟩, last, fun bare silent mode => ?_⟩
    have stacked : Stacked fs d bare none [defaults, environmentEntries bare] :=
      .modeless first (mode ▸ absent)
    rw [silentEntries silent] at stacked
    exact stackedLoad stacked ((foldSnoc [defaults]).mpr ⟨below, files, rfl⟩)

theorem landingClear {key : String} (letters : ∀ c ∈ key.toList, c = '.' ∨ isNameChar c = true)
    (text : String) : Clear [(landing key, environmentText text)] := by
  have plain : '[' ∉ (landing key).toList := by
    rw [landing, String.toList_ofList]
    intro member
    obtain ⟨c, inside, same⟩ := List.mem_map.mp member
    exact (keyLetter (letters c inside)).2 same
  refine ⟨List.nodup_singleton _, ?_, ?_, ?_⟩
  · intro k member p parsed
    cases List.mem_singleton.mp member
    exact legibleWithoutBracket plain parsed
  · intro k member other member' differ
    rw [List.mem_singleton.mp member, List.mem_singleton.mp member'] at differ
    exact absurd rfl differ
  · intro e member
    cases List.mem_singleton.mp member
    exact .scalar _ _

theorem mergeLanding {key : String} {q : List String} (path : dotted? key = some q)
    {text : String} {root t : Tree}
    (merged : root.merge [(landing key, environmentText text)] = some t) :
    (landing key = key → t.along q = some (environmentText text)) ∧
    (landing key ≠ key → t.along q = root.along q) := by
  have clear := landingClear (dottedSpelled path).2 text
  have here (p) (land : dotted? (landing key) = some p) :
      placed [(landing key, environmentText text)] = [(p, environmentText text)] := by
    simp only [placed, List.filterMap_cons, List.filterMap_nil, land, Option.map_some]
  obtain ⟨head, rest, rfl, name, _⟩ := dottedParse path
  have gives := mergeAlong clear name rest merged
  constructor
  · intro same
    have sets : (placed [(landing key, environmentText text)]).Sets (head :: rest)
        (environmentText text) := by
      rw [here _ (same.symm ▸ path)]
      exact ⟨⟨_, List.mem_singleton_self _, [], (List.append_nil _).symm, rfl⟩, id⟩
    rw [standingSets (placedApart clear) sets] at gives
    exact gives
  · intro other
    have silent : (placed [(landing key, environmentText text)]).standing (head :: rest) =
        .silent := by
      cases land : dotted? (landing key) with
      | none => simp only [placed, List.filterMap_cons, List.filterMap_nil, land, Option.map_none,
          Placed.standing]
      | some p =>
        rw [here p land, Placed.standing, standingAside _ (landingAside path land other)]
        rfl
    rw [silent] at gives
    exact gives

/-! ### The keys that are read as one value -/

/- A server's own keys begin with its name. -/
inductive ScalarKey where
  | debug
  | listen (server : String)
  | workers (server : String)
  | backlog (server : String)
  | stopper (server : String)
  | url
  | envelope

inductive Reading where
  | text (answer : Except Fault (Option String))
  | int (answer : Except Fault (Option Int))
  | bool (answer : Except Fault (Option Bool))

namespace ScalarKey

def key : ScalarKey → String
  | .debug => Fleet.debugKey
  | .listen server => Fleet.serverKey server "listen"
  | .workers server => Fleet.serverKey server "workers"
  | .backlog server => Fleet.serverKey server "backlog"
  | .stopper server => Fleet.serverKey server "stopper"
  | .url => urlKey
  | .envelope => envelopeKey

/- What the getter says by which the program reads the key. -/
def read (k : ScalarKey) (s : Settings) : Reading :=
  match k with
  | .debug | .stopper _ | .envelope => .bool (s.getBool k.key)
  | .workers _ | .backlog _ => .int (s.getInt k.key)
  | .listen _ | .url => .text (s.getText k.key)

/- What that getter makes of a text. -/
def convert (k : ScalarKey) (text : String) : Reading :=
  let value : Tree := .scalar none (.text text)
  match k with
  | .debug | .stopper _ | .envelope => .bool (value.asBool.map some)
  | .workers _ | .backlog _ => .int (value.asInt.map some)
  | .listen _ | .url => .text (value.asText.map some)

theorem readText (k : ScalarKey) {s : Settings} {text : String}
    (value : s.getValue k.key = .ok (some (.scalar none (.text text)))) :
    k.read s = k.convert text := by
  cases k <;> simp only [read, convert, getBool, getInt, getText, value] <;> rfl

theorem readSame (k : ScalarKey) {s t : Settings} (same : s.getValue k.key = t.getValue k.key) :
    k.read s = k.read t := by
  cases k <;> simp only [read, getBool, getInt, getText, same]

end ScalarKey

theorem smallKeysReached {fs : Formats} {d : Directory} {env : Environment} {s : Settings}
    {k : ScalarKey} {q : List String} {text : String} (path : dotted? k.key = some q)
    (only : env.Only (variableOf k.key) text) (ok : load fs d env none = .ok s) :
    (Reachable k.key → k.read s = k.convert text) ∧
    (¬ Reachable k.key → ∃ below : Settings, k.read s = k.read below ∧
      ∀ bare : Environment, bare.Silent → bare.mode = env.mode →
        load fs d bare none = .ok below) := by
  have plain : ∀ c ∈ k.key.toList, c.toNat < 128 := fun c member =>
    (keyLetter ((dottedSpelled path).2 c member)).1
  obtain ⟨below, merged, files⟩ := loadOver ok only (variableLands plain)
  obtain ⟨reached, missed⟩ := mergeLanding path merged
  constructor
  · intro reachable
    apply k.readText
    rw [getValue, getFound _ s path, reached ((reachableLanding plain).mpr reachable)]
    rfl
  · intro unreachable
    refine ⟨below, k.readSame ?_, files⟩
    have other := fun same => unreachable ((reachableLanding plain).mp same)
    rw [getValue, getValue, getFound _ s path, getFound _ below path, missed other]

/-! ### A server of tags with one variable -/

def taggedFiles : Directory := settingsFiles [("default.toml", "[api]\nservices = [\"Tag\"]\n")]

def taggedEntries : List (String × Tree) :=
  [("api", .table (some "conf/default.toml")
    [("services", .list (some "conf/default.toml")
      [.scalar (some "conf/default.toml") (.text "Tag")])])]

def taggedTokens : List Toml.Token :=
  [.leftBracket, .word ['a', 'p', 'i'], .rightBracket, .newline,
    .word ['s', 'e', 'r', 'v', 'i', 'c', 'e', 's'], .gap true, .equals, .gap true,
    .leftBracket, .text "Tag" false, .rightBracket, .newline]

theorem taggedStacked {env : Environment} (mode : modeName env.mode = "conf/development") :
    Stacked .plain taggedFiles env none [taggedEntries, environmentEntries env] := by
  have first : taggedFiles.path defaultsName = ["work", "conf", "default"] := by decide +kernel
  have second : taggedFiles.path "conf/development" = ["work", "conf", "development"] := by
    decide +kernel
  have found : taggedFiles.find .plain defaultsName =
      .ok ⟨"[api]\nservices = [\"Tag\"]\n", ["work", "conf", "default.toml"], .toml⟩ := by
    rw [Directory.find, first]
    rfl
  have entries : taggedFiles.entries .plain defaultsName = .ok taggedEntries := by
    have told : Toml.tokens "[api]\nservices = [\"Tag\"]\n".toList = some taggedTokens := by
      decide +kernel
    have parsed : Toml.parse "[api]\nservices = [\"Tag\"]\n" =
        some [("api", .table false [("services", .list [.text "Tag"])])] := by
      rw [Toml.parse, told]
      rfl
    have read : readToml (some "conf/default.toml") "[api]\nservices = [\"Tag\"]\n" =
        .ok taggedEntries := by
      rw [readToml, parsed]
      rfl
    have origin : taggedFiles.origin ["work", "conf", "default.toml"] =
        some "conf/default.toml" := by decide +kernel
    simp only [Directory.entries, found, bind, Except.bind, Directory.read, origin]
    exact read
  obtain ⟨f, absent⟩ : ∃ f, taggedFiles.find .plain "conf/development" = .error f := by
    rw [Directory.find, second]
    exact ⟨_, rfl⟩
  exact .modeless entries (mode ▸ absent)

def taggedTree : Tree :=
  .table none [("api", .table none
    [("services", .list (some "conf/default.toml")
      [.scalar (some "conf/default.toml") (.text "Tag")])])]

theorem taggedLoad {env : Environment} {key text : String} {q : List String}
    (mode : modeName env.mode = "conf/development") (path : dotted? key = some q)
    (only : env.Only (variableOf key) text) :
    ∃ t, taggedTree.merge [(landing key, environmentText text)] = some t ∧
      load .plain taggedFiles env none = .ok ⟨t⟩ := by
  have letters := (dottedSpelled path).2
  have sets := variableLands fun c member => (keyLetter (letters c member)).1
  have files : [taggedEntries].foldlM Tree.merge .emptyTable = some taggedTree := by rfl
  obtain ⟨t, merged⟩ := mergeClear (landingClear letters text) taggedTree
  refine ⟨t, merged, stackedLoad (taggedStacked mode) ?_⟩
  rw [onlyEntries only sets]
  exact (foldSnoc [taggedEntries]).mpr ⟨taggedTree, files, merged⟩

def listenVariable : Environment := [("APP_API_LISTEN", "127.0.0.1:0")]

theorem listenReached :
    ∃ s, load .plain taggedFiles listenVariable none = .ok s ∧
      (ScalarKey.listen "api").read s = .text (.ok (some "127.0.0.1:0")) := by
  have mode : modeName listenVariable.mode = "conf/development" := by decide +kernel
  have path : dotted? (ScalarKey.listen "api").key = some ["api", "listen"] := by decide +kernel
  have only : listenVariable.Only (variableOf (ScalarKey.listen "api").key) "127.0.0.1:0" := by
    have name : variableOf (ScalarKey.listen "api").key = "APP_API_LISTEN" := by decide +kernel
    rw [name]
    exact ⟨List.mem_singleton_self _, fun v member _ => List.mem_singleton.mp member⟩
  have reachable : Reachable (ScalarKey.listen "api").key := by
    simp [Reachable, ScalarKey.key, Fleet.serverKey]
  obtain ⟨t, _, ok⟩ := taggedLoad mode path only
  exact ⟨_, ok, (smallKeysReached path only ok).1 reachable⟩

def envelopeVariable : Environment := [("APP_TAG_ENVELOPE", "true")]

def envelopeTree : Tree :=
  .table none [("api", .table none
    [("services", .list (some "conf/default.toml")
      [.scalar (some "conf/default.toml") (.text "Tag")])]),
    ("tag", .table none [("envelope", environmentText "true")])]

/- The variable of the documented key sets a key that is not read. The tags are listed bare. -/
theorem envelopeMissed :
    envelopeVariable.Only (variableOf envelopeKey) "true" ∧
    ScalarKey.envelope.convert "true" = .bool (.ok (some true)) ∧
    ∃ s ss, load .plain taggedFiles envelopeVariable none = .ok s ∧
      ScalarKey.envelope.read s = .bool (.ok none) ∧
      Services.configured s "api" = .ok ss ∧
      (ss.answer ⟨"GET", "/api/tags", [], ""⟩).body = "[]" := by
  have mode : modeName envelopeVariable.mode = "conf/development" := by decide +kernel
  have path : dotted? envelopeKey = some ["Tag", "envelope"] := by decide +kernel
  have name : variableOf envelopeKey = "APP_TAG_ENVELOPE" := by decide +kernel
  have only : envelopeVariable.Only (variableOf envelopeKey) "true" := by
    rw [name]
    exact ⟨List.mem_singleton_self _, fun v member _ => List.mem_singleton.mp member⟩
  have lands : landing envelopeKey = "tag.envelope" := by decide +kernel
  obtain ⟨t, merged, ok⟩ := taggedLoad mode path only
  have tree : taggedTree.merge [("tag.envelope", environmentText "true")] = some envelopeTree := by
    have parsed : Path.parse "tag.envelope" = .ok ⟨"tag", [.field "envelope"]⟩ := by
      decide +kernel
    simp only [Tree.merge, List.foldlM_cons, Tree.assignRoot, parsed]
    rfl
  rw [lands, tree] at merged
  cases Option.some.inj merged
  refine ⟨only, ?_, _, ⟨.empty, [⟨false⟩]⟩, ok, ?_, ?_, ?_⟩
  · have lowered : Text.lower "true" = "true" := by decide +kernel
    simp only [ScalarKey.convert, Tree.asBool, lowered]
    rfl
  · rfl
  · rfl
  · decide +kernel

end TagListing.Settings
