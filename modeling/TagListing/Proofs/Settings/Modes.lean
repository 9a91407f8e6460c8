import TagListing.Proofs.Settings.Found
import TagListing.Proofs.Settings.Precedence

/-! Which files a mode reads. A mode without a point behind the first letter of its name reads its own
files and no other mode's; any other one takes what follows its last point for an extension and puts
another in its place, so that it passes over its own files with an extension. Modes that are paths of
several parts are not claimed. -/
namespace TagListing.Settings
open TagListing.Text (partsOf)

def modeFile (m : String) : List String := ["conf", m]

def extendedFile (m e : String) : List String := ["conf", m ++ "." ++ e]

def extendedFiles (m : String) : List (List String) := extensions.map (extendedFile m)

/- The path of a mode as it is, and with each extension. -/
def filesOf (m : String) : List (List String) := modeFile m :: extendedFiles m

def Undotted (m : String) : Prop := '.' ∉ m.toList.tail ∧ m ≠ "."
instance (m : String) : Decidable (Undotted m) := by unfold Undotted; infer_instance

/- One working directory holds what the other one holds at some paths in it. -/
def Directory.Alike (d d' : Directory) (paths : List (List String)) : Prop :=
  ∀ path ∈ paths, d.below? path = d'.below? path

/- What comes of two working directories is the same. A fault that spells a name out from the root
spells it out from each of them. -/
inductive Directory.SameLoad (d d' : Directory) {α : Type} : Except Fault α → Except Fault α → Prop
  where
  | same (x) : SameLoad d d' x x
  | spelled (name) : SameLoad d d' (.error (.unknownFormat (d.spelled name)))
      (.error (.unknownFormat (d'.spelled name)))

/- Of the path of a mode and the files after a name, one is there. -/
structure Directory.Single (d : Directory) (m b text : String) : Prop where
  there : d.below? (extendedFile b "toml") = some text
  exact : d.below? (modeFile m) = none
  others : ∀ e ∈ extensions, e ≠ "toml" → d.below? (extendedFile b e) = none

/-! ### The path of a mode -/

theorem partsWhole {mark : Char} {s : List Char} (whole : mark ∉ s) : partsOf mark s = [s] := by
  induction s with
  | nil => rfl
  | cons c s ih =>
    obtain ⟨other, rest⟩ := not_or.mp (List.mem_cons.not.mp whole)
    rw [partsOf, if_neg (Ne.symm other), ih rest]

section
variable {m : String}

theorem modeParts (level : '/' ∉ m.toList) :
    partsOf '/' (modeName m).toList = ["conf".toList, m.toList] := by
  have name : (modeName m).toList = 'c' :: 'o' :: 'n' :: 'f' :: '/' :: m.toList := by
    rw [modeName, String.toList_append]
    rfl
  rw [name]
  simp [partsOf, partsWhole level]

theorem modeRelative (m : String) : isAbsolute (modeName m) = false := by
  rw [isAbsolute, modeName, String.toList_append]
  rfl

theorem modeComponents (level : '/' ∉ m.toList) (named : m ≠ "") (other : m ≠ ".") :
    components (modeName m) = modeFile m := by
  rw [components, modeParts level]
  simp [modeFile, named, other]

theorem modePath (d : Directory) (level : '/' ∉ m.toList) (named : m ≠ "") (other : m ≠ ".") :
    d.path (modeName m) = d.here ++ modeFile m := by
  rw [Directory.path, modeRelative, modeComponents level named other]
  rfl

theorem modeNamesFile (level : '/' ∉ m.toList) (named : m ≠ "") (other : m ≠ ".") :
    namesFile (modeName m) = true := by
  have some : m.toList ≠ [] := String.toList_eq_nil_iff.not.mpr named
  have letters : m.toList ≠ ['.'] := fun same => other (String.toList_inj.mp same)
  rw [namesFile, modeParts level]
  simp [some, letters]

theorem modeExtended (up : m ≠ "..") (e : String) :
    withExtension? (modeFile m) e = some (extendedFile (splitExtension m).1 e) := by
  simp [withExtension?, modeFile, extendedFile, up]

theorem modeCandidates (up : m ≠ "..") :
    candidatePaths (modeFile m) = modeFile m :: extendedFiles (splitExtension m).1 := by
  rw [candidatePaths, extendedFiles, ← List.filterMap_eq_map]
  exact congrArg _ (List.filterMap_congr fun e _ => modeExtended up e)

theorem modeStraight (up : m ≠ "..") : ".." ∉ modeFile m := by
  simp [modeFile, Ne.symm up]

theorem undottedNames (undotted : Undotted m) : m ≠ "." ∧ m ≠ ".." ∧ (splitExtension m).1 = m := by
  refine ⟨undotted.2, ?_, by rw [splitUndotted undotted.1]⟩
  rintro rfl
  exact absurd undotted.1 (by decide)

end

/-! ### What is loaded -/

section
variable {fs : Formats} {d d' : Directory} {env : Environment} {m : String}

/- Two directories at one place spell every name alike. -/
theorem sameAtOnePlace {α : Type} {x y : Except Fault α} (place : d.here = d'.here)
    (same : d.SameLoad d' x y) : x = y := by
  cases same with
  | same => rfl
  | spelled name => rw [Directory.spelled, Directory.spelled, place]

theorem entriesAlike {name : String} (found : d.SameFind d' name (d.find fs name) (d'.find fs name)) :
    d.SameLoad d' (d.entries fs name) (d'.entries fs name) ∧
      d.entriesIfFound fs name = d'.entriesIfFound fs name := by
  unfold Directory.entries Directory.entriesIfFound
  generalize d.find fs name = x at found
  generalize d'.find fs name = y at found
  cases found with
  | unknown => exact ⟨.spelled name, rfl⟩
  | absent => exact ⟨.same _, rfl⟩
  | file same =>
    obtain ⟨text, path, format⟩ := same
    have read : d.read fs ⟨text, d.here ++ path, format⟩ =
        d'.read fs ⟨text, d'.here ++ path, format⟩ := by
      rw [Directory.read, Directory.read, originBelow, originBelow]
    refine ⟨?_, read⟩
    change d.SameLoad d' (d.read fs _) (d'.read fs _)
    rw [read]
    exact .same _

theorem modeAlike (level : '/' ∉ m.toList) (named : m ≠ "") (other : m ≠ ".") (up : m ≠ "..")
    (alike : d.Alike d' (modeFile m :: extendedFiles (splitExtension m).1)) :
    d.SameFind d' (modeName m) (d.find fs (modeName m)) (d'.find fs (modeName m)) := by
  refine findAlike (modeRelative m) (modeComponents level named other) (by simp [modeFile])
    (modeStraight up) ?_
  rw [modeCandidates up]
  exact alike

theorem loadAlike (alike : d.Alike d' (filesOf "default"))
    (mode : d.entriesIfFound fs (modeName env.mode) = d'.entriesIfFound fs (modeName env.mode)) :
    d.SameLoad d' (load fs d env none) (load fs d' env none) := by
  have name : defaultsName = modeName "default" := by decide
  have undotted : Undotted "default" := by decide
  obtain ⟨other, up, stem⟩ := undottedNames undotted
  have found : d.SameFind d' _ (d.find fs (modeName "default")) (d'.find fs (modeName "default")) :=
    modeAlike (by decide) (by decide) other up (stem.symm ▸ alike)
  rw [← name] at found
  have defaults := (entriesAlike found).1
  unfold load layers
  rw [mode]
  generalize d.entries fs defaultsName = x at defaults
  generalize d'.entries fs defaultsName = y at defaults
  cases defaults with
  | same => exact .same _
  | spelled name => exact .spelled name

/- The settings are the defaults, the file of the mode and the variables, if there are defaults. -/
def Directory.Loads (fs : Formats) (d : Directory) (env : Environment)
    (es : List (String × Tree)) : Prop :=
  load fs d env none = (d.entries fs defaultsName).bind fun defaults =>
    settledBy [defaults, es, environmentEntries env]

theorem loadFound {text : String} {p : List String} {es : List (String × Tree)}
    (mode : env.mode = m) (found : d.find fs (modeName m) = .ok ⟨text, p, .toml⟩)
    (read : readToml (d.origin p) text = .ok es) : d.Loads fs env es := by
  have upper : d.entriesIfFound fs (modeName env.mode) = .ok es := by
    rw [Directory.entriesIfFound, mode, found]
    exact read
  unfold Directory.Loads
  cases defaults : d.entries fs defaultsName with
  | error f =>
    rw [load, layers, defaults]
    rfl
  | ok first => exact loadRead (by rw [layers, defaults, upper]; rfl)

theorem triedSingle {b text : String} (single : d.Single m b text) (up : m ≠ "..")
    (stem : (splitExtension m).1 = b) : d.withSomeExtension? fs (d.here ++ modeFile m) =
      some ⟨text, d.here ++ extendedFile b "toml", .toml⟩ := by
  have leads (e) : withExtension? (d.here ++ modeFile m) e = some (d.here ++ extendedFile b e) := by
    rw [extendedBelow (by simp [modeFile]), modeExtended up, stem]
    rfl
  have file (e) (known : e ∈ extensions) :
      d.fileAt? (d.here ++ extendedFile b e) = d.below? (extendedFile b e) :=
    fileStraight (extendedStraight (straightBelow d (modeStraight up)) known (leads e))
  have toml : (Format.toml, "toml") ∈ fs.extensions := extensionTried.mpr (by decide)
  obtain ⟨before, after, parts, first⟩ := List.eq_append_cons_of_mem toml
  refine List.findSome?_eq_some_iff.mpr ⟨before, _, after, parts, ?_, fun (f, e) member => ?_⟩
  · simp only [leads, file "toml" (by decide), single.there, bind, Option.bind]
  · have own : e ∈ f.extensions :=
      extensionTried.mp (parts ▸ List.mem_append_left _ member)
    have other : e ≠ "toml" := by
      rintro rfl
      cases f with
      | toml => exact first member
      | json => exact absurd own (by decide)
      | foreign f => cases f <;> exact absurd own (by decide)
    have known := extensionKnown own
    simp only [leads, file e known, single.others e known other, bind, Option.bind]

theorem findSingle {b text : String} (single : d.Single m b text) (level : '/' ∉ m.toList)
    (named : m ≠ "") (other : m ≠ ".") (up : m ≠ "..") (stem : (splitExtension m).1 = b) :
    d.find fs (modeName m) = .ok ⟨text, d.here ++ extendedFile b "toml", .toml⟩ := by
  have absent : d.fileAt? (d.here ++ modeFile m) = none := by
    rw [fileBelow d (modeStraight up), single.exact]
  rw [Directory.find, modePath d level named other, modeNamesFile level named other]
  simp only [absent, triedSingle single up stem, if_true]

end

/-! ### Modes with and without a point -/

/- A mode that reads its own files and no others. -/
structure Own (fs : Formats) (env : Environment) (m : String) : Prop where
  apart : ∀ d d' : Directory, d.Alike d' (filesOf "default" ++ filesOf m) →
    d.SameLoad d' (load fs d env none) (load fs d' env none)
  own : ∀ (d : Directory) (text : String) es, d.Single m m text →
    readToml (fileOrigin (extendedFile m "toml")) text = .ok es →
    d.find fs (modeName m) = .ok ⟨text, d.here ++ extendedFile m "toml", .toml⟩ ∧
      d.Loads fs env es

/- A mode that passes over its own files with an extension, and reads those of the mode that it is
called after up to its last point. -/
structure Stray (fs : Formats) (env : Environment) (m : String) : Prop where
  blind : ∀ d d' : Directory,
    (∀ path, path ∉ extendedFiles m → d.below? path = d'.below? path) →
    d.SameLoad d' (load fs d env none) (load fs d' env none)
  other : ∀ b x : String, m = b ++ "." ++ x → b ≠ "" → '.' ∉ x.toList → m ≠ ".." →
    ∀ (d : Directory) (text : String) es, d.Single m b text →
    readToml (fileOrigin (extendedFile b "toml")) text = .ok es → d.Loads fs env es

section
variable {fs : Formats} {env : Environment} {m : String}

theorem undottedOwn (mode : env.mode = m) (named : m ≠ "") (level : '/' ∉ m.toList)
    (undotted : Undotted m) : Own fs env m := by
  obtain ⟨other, up, stem⟩ := undottedNames undotted
  refine ⟨fun d d' alike => ?_, fun d text es single read => ?_⟩
  · have defaults : d.Alike d' (filesOf "default") :=
      fun path member => alike path (List.mem_append_left _ member)
    have own : d.Alike d' (filesOf m) :=
      fun path member => alike path (List.mem_append_right _ member)
    subst mode
    exact loadAlike defaults (entriesAlike (modeAlike level named other up (stem.symm ▸ own))).2
  · have found : d.find fs (modeName m) = _ := findSingle single level named other up stem
    exact ⟨found, loadFound mode found (originBelow d _ ▸ read)⟩

/- Two points name a directory, so nothing is found. -/
theorem upwardsUnfound (fs : Formats) (d : Directory) : ∃ f, d.find fs (modeName "..") = .error f := by
  have path : d.path (modeName "..") = d.here ++ ["conf", ".."] :=
    modePath d (by decide) (by decide) (by decide)
  have unknown : ((d.here ++ ["conf", ".."]).getLast?.bind fun c => (splitExtension c).2).bind
      formatOf? = none := by
    rw [List.getLast?_append_of_ne_nil _ (by simp)]
    decide +kernel
  have extended : d.withSomeExtension? fs (d.here ++ ["conf", ".."]) = none := by
    refine List.findSome?_eq_none_iff.mpr fun e _ => ?_
    rw [extendedBelow (by simp)]
    rfl
  rw [Directory.find, path]
  simp only [unknown, extended]
  cases (if namesFile (modeName "..") then d.fileAt? (d.here ++ ["conf", ".."]) else none) with
  | none => exact ⟨_, rfl⟩
  | some text => exact ⟨_, rfl⟩

/- One point names the directory of the modes, so files beside it are looked at. -/
theorem pointAlike {d d' : Directory}
    (same : ∀ path, path ∉ extendedFiles "." → d.below? path = d'.below? path) :
    d.SameFind d' (modeName ".") (d.find fs (modeName ".")) (d'.find fs (modeName ".")) := by
  have parts : components (modeName ".") = ["conf"] := by decide +kernel
  have aside : ∀ path ∈ candidatePaths ["conf"], path ∉ extendedFiles "." := by decide +kernel
  exact findAlike (modeRelative ".") parts (by simp) (by decide) fun path member =>
    same path (aside path member)

theorem extendedOnce {n e : String} (known : e ∈ extensions) (some : n ≠ "") (named : m ≠ "")
    (member : extendedFile n e ∈ extendedFiles m) : n = m := by
  have pointless : ∀ e ∈ extensions, '.' ∉ e.toList := by decide
  obtain ⟨e', known', same⟩ := List.mem_map.mp member
  have whole : m ++ "." ++ e' = n ++ "." ++ e := by simpa [extendedFile] using same
  have split := splitDotted some (pointless e known)
  rw [← whole, splitDotted named (pointless e' known')] at split
  exact (Prod.mk.inj split).1.symm

theorem exactApart {n : String} (other : ∀ e, n ≠ m ++ "." ++ e) : modeFile n ∉ extendedFiles m := by
  intro member
  obtain ⟨e, _, same⟩ := List.mem_map.mp member
  exact other e (by simpa [extendedFile, modeFile] using same.symm)

theorem longer (b x : String) : b ≠ b ++ "." ++ x := by
  intro same
  have lengths := congrArg String.length same
  rw [String.length_append, String.length_append] at lengths
  have point : ".".length = 1 := by decide
  omega

theorem dottedBlind {d d' : Directory} (mode : env.mode = m) (named : m ≠ "")
    (level : '/' ∉ m.toList) (dotted : ¬ Undotted m)
    (same : ∀ path, path ∉ extendedFiles m → d.below? path = d'.below? path) :
    d.SameLoad d' (load fs d env none) (load fs d' env none) := by
  have defaults : d.Alike d' (filesOf "default") := by
    refine fun path member => same path ?_
    rcases List.mem_cons.mp member with rfl | member
    · refine exactApart fun e whole => ?_
      have point : '.' ∈ "default".toList := by
        rw [whole]
        simp [String.toList_append]
      exact absurd point (by decide)
    · obtain ⟨e, known, rfl⟩ := List.mem_map.mp member
      intro inside
      have name := extendedOnce known (by decide) named inside
      exact dotted (name ▸ by decide)
  refine loadAlike defaults ?_
  rw [mode]
  by_cases up : m = ".."
  · obtain ⟨f, unfound⟩ := upwardsUnfound fs d
    obtain ⟨f', unfound'⟩ := upwardsUnfound fs d'
    rw [up, Directory.entriesIfFound, Directory.entriesIfFound, unfound, unfound']
  · refine (entriesAlike ?_).2
    by_cases point : m = "."
    · subst point
      exact pointAlike same
    · have inside : '.' ∈ m.toList.tail := by
        by_contra plain
        exact dotted ⟨plain, point⟩
      obtain ⟨b, x, some, plain, rfl⟩ := dottedParts inside
      refine modeAlike level named point up fun path member => same path ?_
      rw [splitDotted some plain] at member
      rcases List.mem_cons.mp member with rfl | member
      · exact exactApart fun e => longer _ e
      · obtain ⟨e, known, rfl⟩ := List.mem_map.mp member
        exact fun inside => longer b x (extendedOnce known some named inside)

theorem dottedStray (mode : env.mode = m) (named : m ≠ "") (level : '/' ∉ m.toList)
    (dotted : ¬ Undotted m) : Stray fs env m := by
  refine ⟨fun d d' => dottedBlind mode named level dotted, ?_⟩
  intro b x parts some plain up d text es single read
  have stem : (splitExtension m).1 = b := by rw [parts, splitDotted some plain]
  have other : m ≠ "." := by
    rintro rfl
    have lengths := congrArg String.length parts
    rw [String.length_append, String.length_append] at lengths
    have point : ".".length = 1 := by decide
    have letters : b.length ≠ 0 := fun none => some (String.length_eq_zero_iff.mp none)
    omega
  exact loadFound mode (findSingle single level named other up stem) (originBelow d _ ▸ read)

end

/- A mode without a point behind the first letter of its name reads its own files; any other one does
not, but for the file of its bare name. -/
theorem modesReadTheirOwn {fs : Formats} {env : Environment} {m : String} (mode : env.mode = m)
    (named : m ≠ "") (level : '/' ∉ m.toList) :
    (Undotted m → Own fs env m) ∧ (¬ Undotted m → Stray fs env m) :=
  ⟨undottedOwn mode named level, dottedStray mode named level⟩

/-! ### Files of several modes -/

def inMode (m : String) : Environment := [(modeVariable, m)]

theorem modeSet (m : String) : (inMode m).mode = m := by
  simp [inMode, Environment.mode, Environment.lookup?]

/- Every file sets `x`. -/
def numbered (files : List (String × String)) : Directory :=
  settingsFiles (files.map fun f => (f.1, "x = " ++ f.2 ++ "\n"))

def numberFrom (file : String) (i : Int) : List (String × Tree) :=
  [("x", .scalar (some file) (.int i))]

def Directory.number (d : Directory) (m : String) : Except Fault (Option Int) :=
  (load .plain d (inMode m) none).bind (·.getInt "x")

def stagingFiles : Directory := numbered [("default.toml", "1"), ("staging.toml", "2")]

def moreFiles : Directory :=
  numbered [("default.toml", "1"), ("staging.toml", "2"), ("production.toml", "3")]

theorem stagingReadsItsOwn :
    (inMode "staging").mode = "staging" ∧ Undotted "staging" ∧
    load .plain moreFiles (inMode "staging") none =
      load .plain stagingFiles (inMode "staging") none ∧
    stagingFiles.number "staging" = .ok (some 2) := by
  have undotted : Undotted "staging" := by decide
  obtain ⟨apart, own⟩ : Own .plain _ _ :=
    (modesReadTheirOwn (modeSet "staging") (by decide) (by decide)).1 undotted
  have alike : moreFiles.Alike stagingFiles (filesOf "default" ++ filesOf "staging") := by
    unfold Directory.Alike
    decide +kernel
  have single : stagingFiles.Single "staging" "staging" "x = 2\n" :=
    ⟨by decide +kernel, by decide +kernel, by decide +kernel⟩
  have read : readToml (fileOrigin (extendedFile "staging" "toml")) "x = 2\n" =
      .ok (numberFrom "conf/staging.toml" 2) := by rfl
  have loads : stagingFiles.Loads .plain (inMode "staging") _ :=
    (own stagingFiles _ _ single read).2
  have place : moreFiles.here = stagingFiles.here := rfl
  refine ⟨modeSet _, undotted, sameAtOnePlace place (apart _ _ alike), ?_⟩
  rw [Directory.number, loads]
  decide +kernel

/- The file of one mode is taken for that of another one. -/
def strayFiles : Directory := numbered [("default.toml", "1"), ("a.b.toml", "2"), ("a.toml", "3")]

def unstrayedFiles : Directory := numbered [("default.toml", "1"), ("a.b.toml", "2")]

theorem dottedModeMisread :
    (inMode "a.b").mode = "a.b" ∧ '/' ∉ "a.b".toList ∧
    strayFiles.Single "a.b" "a.b" "x = 2\n" ∧ strayFiles.number "a.b" = .ok (some 3) ∧
    (¬ ∀ d d' : Directory, d.Alike d' (filesOf "default" ++ filesOf "a.b") →
      d.SameLoad d' (load .plain d (inMode "a.b") none) (load .plain d' (inMode "a.b") none)) ∧
    ¬ ∀ (d : Directory) (text : String) es, d.Single "a.b" "a.b" text →
      readToml (fileOrigin (extendedFile "a.b" "toml")) text = .ok es →
      d.Loads .plain (inMode "a.b") es := by
  have single : strayFiles.Single "a.b" "a.b" "x = 2\n" :=
    ⟨by decide +kernel, by decide +kernel, by decide +kernel⟩
  have misread : strayFiles.number "a.b" = .ok (some 3) := by decide +kernel
  refine ⟨modeSet _, by decide, single, misread, fun apart => ?_, fun own => ?_⟩
  · have alike : strayFiles.Alike unstrayedFiles (filesOf "default" ++ filesOf "a.b") := by
      unfold Directory.Alike
      decide +kernel
    have other : unstrayedFiles.number "a.b" = .ok (some 1) := by decide +kernel
    have place : strayFiles.here = unstrayedFiles.here := rfl
    have same := sameAtOnePlace place (apart _ _ alike)
    rw [Directory.number, same, ← Directory.number, other] at misread
    contradiction
  · have read : readToml (fileOrigin (extendedFile "a.b" "toml")) "x = 2\n" =
        .ok (numberFrom "conf/a.b.toml" 2) := by rfl
    have loads : strayFiles.Loads .plain (inMode "a.b") _ := own _ _ _ single read
    have wanted : strayFiles.number "a.b" = .ok (some 2) := by
      rw [Directory.number, loads]
      decide +kernel
    rw [wanted] at misread
    contradiction

end TagListing.Settings
