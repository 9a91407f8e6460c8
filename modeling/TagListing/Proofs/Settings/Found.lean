import TagListing.Settings.Layers
import Mathlib.Data.List.Basic

/-! What finding a settings file depends on: the texts at the paths that its name can stand for, and
nothing else among the files, nor where the working directory is. Names that go up, and absolute ones,
are not claimed. -/
namespace TagListing.Settings

/-! ### Straight paths -/

theorem directoryAbove {d : Directory} {place rest : List String} {c text : String}
    (found : d.text? (place ++ c :: rest) = some text) : d.isDirectory place = true := by
  obtain ⟨f, first, _⟩ := Option.map_eq_some_iff.mp found
  have path : f.1 = place ++ c :: rest := by simpa using List.find?_some first
  have below : f.1.length > place.length ∧ place.isPrefixOf f.1 = true := by
    rw [path, List.isPrefixOf_iff_prefix, List.length_append, List.length_cons]
    exact ⟨by omega, List.prefix_append _ _⟩
  rw [Directory.isDirectory, Bool.or_eq_true]
  exact .inr (List.any_eq_true.mpr ⟨f, List.mem_of_find?_eq_some first, by simpa using below⟩)

/- A walk that never goes up ends at the path itself, or meets something that is no directory. -/
theorem walkStraight {d : Directory} {rest : List String} (level : ".." ∉ rest)
    (place : List String) : d.walk place rest = some (place ++ rest) ∨
      d.walk place rest = none ∧ d.text? (place ++ rest) = none := by
  induction rest generalizing place with
  | nil => exact .inl (by rw [Directory.walk, List.append_nil])
  | cons c rest ih =>
    obtain ⟨down, level⟩ := not_or.mp (List.mem_cons.not.mp level)
    unfold Directory.walk
    cases directory : d.isDirectory place with
    | false =>
      refine .inr ⟨rfl, Option.eq_none_iff_forall_ne_some.mpr fun text found => ?_⟩
      rw [directoryAbove found] at directory
      contradiction
    | true =>
      rw [if_neg (by simp), if_neg (Ne.symm down), List.append_cons place c rest]
      exact ih level (place ++ [c])

theorem fileStraight {d : Directory} {path : List String} (level : ".." ∉ path) :
    d.fileAt? path = d.text? path := by
  rw [Directory.fileAt?]
  rcases walkStraight (d := d) level [] with ends | ⟨stops, absent⟩
  · rw [ends]
    rfl
  · rw [stops]
    exact absent.symm

/-! ### Where a name leads -/

theorem extensionTried {fs : Formats} {f : Format} {e : String} :
    (f, e) ∈ fs.extensions ↔ e ∈ f.extensions := by
  have listed : f ∈ fs.order := by
    refine fs.all.mem_iff.mpr ?_
    cases f with
    | foreign f => cases f <;> decide
    | _ => decide
  simp [Formats.extensions, listed]

theorem extensionKnown {f : Format} {e : String} (one : e ∈ f.extensions) : e ∈ extensions := by
  refine List.mem_flatMap.mpr ⟨f, ?_, one⟩
  exact (Formats.plain.all.mem_iff).mp (by cases f with | foreign f => cases f <;> decide | _ => decide)

theorem longExtension {e : String} (known : e ∈ extensions) (stem : String) :
    stem ++ "." ++ e ≠ ".." := by
  have long : ∀ e ∈ extensions, 3 ≤ e.length := by decide
  intro same
  have lengths := congrArg String.length same
  rw [String.length_append, String.length_append] at lengths
  have := long e known
  have point : ".".length = 1 := by decide
  have points : "..".length = 2 := by decide
  omega

theorem extendedStraight {path p : List String} (level : ".." ∉ path) {e : String}
    (known : e ∈ extensions) (extended : withExtension? path e = some p) : ".." ∉ p := by
  unfold withExtension? at extended
  split at extended
  · contradiction
  · split at extended
    · contradiction
    · cases Option.some.inj extended
      intro member
      rcases List.mem_append.mp member with before | last
      · exact level (List.dropLast_subset _ before)
      · exact longExtension known _ (List.mem_singleton.mp last).symm

/-! ### Paths from the working directory -/

def Directory.below? (d : Directory) (path : List String) : Option String :=
  d.text? (d.here ++ path)

theorem straightBelow (d : Directory) {path : List String} (level : ".." ∉ path) :
    ".." ∉ d.here ++ path := by
  rw [List.mem_append]
  exact not_or.mpr ⟨d.settled, level⟩

theorem fileBelow (d : Directory) {path : List String} (level : ".." ∉ path) :
    d.fileAt? (d.here ++ path) = d.below? path := fileStraight (straightBelow d level)

theorem extendedBelow {path : List String} (some : path ≠ []) (here : List String) (e : String) :
    withExtension? (here ++ path) e = (withExtension? path e).map (here ++ ·) := by
  rw [← List.dropLast_append_getLast some, ← List.append_assoc, withExtension?, withExtension?]
  simp only [List.getLast?_concat, List.dropLast_concat]
  split
  · rfl
  · rw [Option.map_some, List.append_assoc]

theorem originBelow (d : Directory) (path : List String) :
    d.origin (d.here ++ path) = fileOrigin path := by
  have way (here : List String) : wayFrom here (here ++ path) = path := by
    induction here with
    | nil => cases path <;> rfl
    | cons c here ih => rw [List.cons_append, wayFrom, if_pos rfl, ih]
  rw [Directory.origin, way]

/-! ### Two pictures of the files below the working directory -/

/- One file, seen from two places. -/
inductive Directory.SameFile (d d' : Directory) : FoundFile → FoundFile → Prop where
  | below (text path format) :
      SameFile d d' ⟨text, d.here ++ path, format⟩ ⟨text, d'.here ++ path, format⟩

/- A fault that spells a name out from the root spells it out from each of them. -/
inductive Directory.SameFind (d d' : Directory) (name : String) :
    Except Fault FoundFile → Except Fault FoundFile → Prop where
  | file {f f'} : d.SameFile d' f f' → SameFind d d' name (.ok f) (.ok f')
  | unknown : SameFind d d' name (.error (.unknownFormat (d.spelled name)))
      (.error (.unknownFormat (d'.spelled name)))
  | absent : SameFind d d' name (.error (.noFile name)) (.error (.noFile name))

section
variable {fs : Formats} {d d' : Directory} {path : List String}

theorem triedAlike {tried tried' : Format × String → Option FoundFile}
    {es : List (Format × String)} (each : ∀ e ∈ es, Option.Rel (d.SameFile d') (tried e) (tried' e)) :
    Option.Rel (d.SameFile d') (es.findSome? tried) (es.findSome? tried') := by
  induction es with
  | nil => exact .none
  | cons e es ih =>
    have first := each e List.mem_cons_self
    have rest := ih fun e member => each e (List.mem_cons_of_mem _ member)
    rw [List.findSome?_cons, List.findSome?_cons]
    generalize tried e = found at first
    generalize tried' e = found' at first
    cases first with
    | none => exact rest
    | some same => exact .some same

theorem extendedAlike (some : path ≠ []) (level : ".." ∉ path)
    (same : ∀ q ∈ candidatePaths path, d.below? q = d'.below? q) :
    Option.Rel (d.SameFile d') (d.withSomeExtension? fs (d.here ++ path))
      (d'.withSomeExtension? fs (d'.here ++ path)) := by
  refine triedAlike fun e member => ?_
  rw [extendedBelow some, extendedBelow some]
  cases leads : withExtension? path e.2 with
  | none => exact .none
  | some p =>
    have known := extensionKnown (extensionTried.mp member)
    have straight := extendedStraight level known leads
    have text := same p (List.mem_cons_of_mem _ (List.mem_filterMap.mpr ⟨e.2, known, leads⟩))
    simp only [Option.map_some, bind, Option.bind, fileBelow _ straight, text]
    cases d'.below? p with
    | none => exact .none
    | some text => exact .some (.below ..)

theorem findAlike {name : String} (relative : isAbsolute name = false)
    (parts : components name = path) (some : path ≠ []) (level : ".." ∉ path)
    (same : ∀ q ∈ candidatePaths path, d.below? q = d'.below? q) :
    d.SameFind d' name (d.find fs name) (d'.find fs name) := by
  have place (d : Directory) : d.path name = d.here ++ path := by
    rw [Directory.path, relative, parts]
    rfl
  have last (d : Directory) : (d.here ++ path).getLast? = path.getLast? :=
    List.getLast?_append_of_ne_nil _ some
  have exact : d.fileAt? (d.here ++ path) = d'.fileAt? (d'.here ++ path) := by
    rw [fileBelow d level, fileBelow d' level]
    exact same path List.mem_cons_self
  have extended : Option.Rel (d.SameFile d') (d.withSomeExtension? fs (d.here ++ path))
      (d'.withSomeExtension? fs (d'.here ++ path)) := extendedAlike some level same
  unfold Directory.find
  simp only [place, last, exact]
  generalize d.withSomeExtension? fs (d.here ++ path) = found at extended
  generalize d'.withSomeExtension? fs (d'.here ++ path) = found' at extended
  cases (if namesFile name then d'.fileAt? (d'.here ++ path) else none) with
  | some text =>
    cases (path.getLast?.bind fun c => (splitExtension c).2).bind formatOf? with
    | some format => exact .file (.below ..)
    | none => exact .unknown
  | none =>
    cases extended with
    | none => exact .absent
    | some same => exact .file same

end

/-! ### Extensions -/

theorem splitUndotted {c : String} (plain : '.' ∉ c.toList.tail) : splitExtension c = (c, none) := by
  unfold splitExtension
  rw [← String.length_toList]
  cases letters : c.toList with
  | nil => rfl
  | cons first rest =>
    rw [letters, List.tail_cons] at plain
    have passes : ∀ a ∈ rest.reverse, decide (a ≠ '.') = true := by
      intro a member
      rw [List.mem_reverse] at member
      exact decide_eq_true fun point => plain (point ▸ member)
    dsimp only
    rw [List.reverse_cons, List.takeWhile_append_of_pos passes]
    refine if_pos ?_
    by_cases point : first = '.'
    · right
      simp [point]
    · left
      simp [point]

theorem splitDotted {b x : String} (named : b ≠ "") (plain : '.' ∉ x.toList) :
    splitExtension (b ++ "." ++ x) = (b, some x) := by
  have letters : (b ++ "." ++ x).toList.reverse =
      x.toList.reverse ++ '.' :: b.toList.reverse := by
    simp [String.toList_append]
  have passes : ∀ a ∈ x.toList.reverse, decide (a ≠ '.') = true := by
    intro a member
    rw [List.mem_reverse] at member
    exact decide_eq_true fun point => plain (point ▸ member)
  have tail : (b ++ "." ++ x).toList.reverse.takeWhile (· ≠ '.') = x.toList.reverse := by
    rw [letters, List.takeWhile_append_of_pos passes]
    simp
  have stem : (b ++ "." ++ x).toList.reverse.drop (x.toList.reverse.length + 1) =
      b.toList.reverse := by
    rw [letters, List.drop_append]
    simp
  unfold splitExtension
  rw [tail]
  dsimp only
  rw [stem, List.reverse_reverse, List.reverse_reverse, String.ofList_toList, String.ofList_toList]
  refine if_neg (not_or.mpr ⟨?_, ?_⟩)
  · rw [List.length_reverse, String.length_toList, String.length_append, String.length_append]
    have point : ".".length = 1 := by decide
    omega
  · rw [String.toList_eq_nil_iff]
    exact named

/- The last point of a name, where it is not the first letter, stands before an extension. -/
theorem dottedParts {m : String} (dotted : '.' ∈ m.toList.tail) :
    ∃ b x : String, b ≠ "" ∧ '.' ∉ x.toList ∧ m = b ++ "." ++ x := by
  have inside : '.' ∈ m.toList.reverse := List.mem_reverse.mpr (List.mem_of_mem_tail dotted)
  obtain ⟨after, before, parts, plain⟩ := List.eq_append_cons_of_mem inside
  have letters : m.toList = before.reverse ++ '.' :: after.reverse := by
    rw [← List.reverse_reverse m.toList, parts]
    simp
  refine ⟨String.ofList before.reverse, String.ofList after.reverse, ?_, ?_, ?_⟩
  · intro empty
    have none : before = [] := by simpa using congrArg String.toList empty
    rw [letters, none] at dotted
    exact plain (by simpa using dotted)
  · simpa using plain
  · apply String.toList_inj.mp
    simp [letters, String.toList_append]

end TagListing.Settings
