import TagListing.Proofs.Numeric.Numerals
import TagListing.Proofs.Settings.Ranges
import TagListing.Proofs.Settings.Override

/-! How many workers and how long a backlog a server has. A number is taken as it stands, whichever kind
of value it was read from, or refused; narrowing it to a machine word and then asking whether it is
positive comes to the same. Digits in a text say what the number itself says. How a value that is no
whole number is rounded is not claimed. -/
namespace TagListing.Fleet
open Settings Numeric

/-! ### Numbers in range -/

/- The key stands for a value that converts to the number. -/
def Holds (s : Settings) (key : String) (i : Int) : Prop :=
  ∃ t, Stands s key t ∧ t.Scalarly IntOf i

/- What a setting of a size says; the complaint is the program's own. -/
inductive SizeRead (s : Settings) (key : String) (within : Int → Prop) (complaint : Complaint) :
    Except Failure (Option Int) → Prop where
  | unread {f} : Path.parse key = .error f →
      SizeRead s key within complaint (.error (.settings (.path f)))
  | unset : Vacant s key → SizeRead s key within complaint (.ok none)
  | set {i} : Holds s key i → within i → SizeRead s key within complaint (.ok (some i))
  | outside {i} : Holds s key i → ¬ within i →
      SizeRead s key within complaint (.error (.other complaint))
  | unfit {t f} : Stands s key t → (∀ i, ¬ t.Scalarly IntOf i) →
      SizeRead s key within complaint (.error (.settings f))

/- A size that was read is in range, or it is refused. -/
def sized (within : Int → Prop) [DecidablePred within] (complaint : Complaint) :
    Except Fault (Option Int) → Except Failure (Option Int)
  | .error f => .error (.settings f)
  | .ok none => .ok none
  | .ok (some i) => if within i then .ok (some i) else .error (.other complaint)

theorem workersSized (s : Settings) (server : String) : readWorkers s server =
    sized (1 ≤ ·) (.noWorkers server) (s.getInt (serverKey server "workers")) := by
  unfold readWorkers
  cases s.getInt (serverKey server "workers") with
  | error f => rfl
  | ok found => cases found <;> rfl

theorem backlogSized (s : Settings) (server : String) : readBacklog s server =
    sized (fun i => 1 ≤ i ∧ i ≤ 2147483647) (.backlogOutOfRange server)
      (s.getInt (serverKey server "backlog")) := by
  unfold readBacklog
  cases s.getInt (serverKey server "backlog") with
  | error f => rfl
  | ok found => cases found <;> rfl

section
variable {s : Settings} {key : String}

theorem getHolds {i : Int} : s.getInt key = .ok (some i) ↔ Holds s key i :=
  readsValue (convertsOnce intConverts) (plainReads intConverts s key)

theorem getVacant : s.getInt key = .ok none ↔ Vacant s key :=
  readsNothing (plainReads intConverts s key)

variable {within : Int → Prop} [DecidablePred within] {complaint : Complaint}

theorem sizedRead : SizeRead s key within complaint (sized within complaint (s.getInt key)) := by
  have reads : Reads (Tree.Scalarly IntOf) s key (s.getInt key) := plainReads intConverts s key
  generalize s.getInt key = answer at reads
  cases reads with
  | unread parsed => exact .unread parsed
  | nothing vacant => exact .unset vacant
  | unfit stands never => exact .unfit stands never
  | @value t i stands whole =>
    by_cases good : within i
    · rw [sized, if_pos good]
      exact .set ⟨t, stands, whole⟩ good
    · rw [sized, if_neg good]
      exact .outside ⟨t, stands, whole⟩ good

theorem sizedNothing : sized within complaint (s.getInt key) = .ok none ↔ Vacant s key := by
  rw [← getVacant]
  cases s.getInt key with
  | error f => exact ⟨nofun, nofun⟩
  | ok found =>
    cases found with
    | none => exact ⟨fun _ => rfl, fun _ => rfl⟩
    | some i =>
      rw [sized]
      split <;> exact ⟨nofun, nofun⟩

theorem sizedValue {n : Int} : sized within complaint (s.getInt key) = .ok (some n) ↔
    s.getInt key = .ok (some n) ∧ within n := by
  cases s.getInt key with
  | error f => exact ⟨nofun, nofun⟩
  | ok found =>
    cases found with
    | none => exact ⟨nofun, nofun⟩
    | some i =>
      by_cases good : within i
      · rw [sized, if_pos good]
        refine ⟨fun same => ?_, fun same => ?_⟩
        · cases same
          exact ⟨rfl, good⟩
        · cases same.1
          rfl
      · rw [sized, if_neg good]
        refine ⟨nofun, fun same => ?_⟩
        cases same.1
        exact absurd same.2 good

end

/-! ### Machine words -/

/- A signed word of 64 bits as an unsigned one, if it is not negative. -/
def unsignedWord? (i : Int64) : Option UInt64 := if 0 ≤ i then some i.toUInt64 else none

/- A signed word of 64 bits as one of 32, if that widens to it again. -/
def halfWord? (i : Int64) : Option Int32 := if i.toInt32.toInt64 = i then some i.toInt32 else none

def workersWord? (i : Int64) : Option UInt64 := (unsignedWord? i).filter (0 < ·)

def backlogWord? (i : Int64) : Option Int32 := (halfWord? i).filter (0 < ·)

theorem unsignedExact {i : Int64} {w : UInt64} :
    unsignedWord? i = some w ↔ (w.toNat : Int) = i.toInt := by
  have word : 0 ≤ i → (i.toUInt64.toNat : Int) = i.toInt := by
    intro positive
    rw [Int64.toNat_toUInt64_of_le positive]
    exact Int.toNat_of_nonneg (Int64.le_iff_toInt_le.mp positive)
  unfold unsignedWord?
  split
  · rename_i positive
    constructor
    · intro same
      cases same
      exact word positive
    · intro same
      rw [← word positive] at same
      exact congrArg some (UInt64.toNat_inj.mp (Int.ofNat.inj same)).symm
  · rename_i negative
    refine ⟨nofun, fun same => ?_⟩
    rw [Int64.le_iff_toInt_le, Int64.toInt_zero, ← same] at negative
    exact absurd (Int.natCast_nonneg _) negative

theorem halfExact {i : Int64} {b : Int32} : halfWord? i = some b ↔ b.toInt = i.toInt := by
  unfold halfWord?
  split
  · rename_i kept
    have word : i.toInt32.toInt = i.toInt := by
      rw [← Int32.toInt_toInt64, kept]
    rw [← word, Int32.toInt_inj]
    exact ⟨fun same => (Option.some.inj same).symm, fun same => congrArg some same.symm⟩
  · rename_i lost
    refine ⟨nofun, fun same => ?_⟩
    have kept : i = b.toInt64 := Int64.toInt_inj.mp (by rw [Int32.toInt_toInt64, same])
    rw [kept, Int32.toInt32_toInt64] at lost
    exact absurd rfl lost

theorem workersWordExact {i : Int64} {w : UInt64} :
    workersWord? i = some w ↔ 1 ≤ i.toInt ∧ (w.toNat : Int) = i.toInt := by
  rw [workersWord?, Option.filter_eq_some_iff, unsignedExact, decide_eq_true_eq,
    UInt64.lt_iff_toNat_lt, UInt64.toNat_zero]
  omega

theorem backlogWordExact {i : Int64} {b : Int32} :
    backlogWord? i = some b ↔ (1 ≤ i.toInt ∧ i.toInt ≤ 2147483647) ∧ b.toInt = i.toInt := by
  have bound := b.toInt_lt
  rw [backlogWord?, Option.filter_eq_some_iff, halfExact, decide_eq_true_eq, Int32.lt_iff_toInt_lt,
    Int32.toInt_zero]
  omega

/- What becomes of a size that the program narrows. -/
def narrowed {α : Type} (number : α → Int) (complaint : Complaint) :
    Option α → Except Failure (Option Int)
  | some w => .ok (some (number w))
  | none => .error (.other complaint)

theorem narrowedExact {α : Type} {number : α → Int} {within : Int → Prop} [DecidablePred within]
    {complaint : Complaint} {i : Int} {word : Option α}
    (exact : ∀ w, word = some w ↔ within i ∧ number w = i)
    (reaches : within i → ∃ w, number w = i) :
    sized within complaint (.ok (some i)) = narrowed number complaint word := by
  cases word with
  | none =>
    have outside : ¬ within i := by
      intro good
      obtain ⟨w, same⟩ := reaches good
      exact nomatch (exact w).mpr ⟨good, same⟩
    rw [sized, if_neg outside, narrowed]
  | some w =>
    obtain ⟨good, same⟩ := (exact w).mp rfl
    rw [sized, if_pos good, narrowed, same]

theorem workersNarrowed (i : Int64) (complaint : Complaint) :
    sized (1 ≤ ·) complaint (.ok (some i.toInt)) =
      narrowed (fun w : UInt64 => w.toNat) complaint (workersWord? i) := by
  refine narrowedExact (fun w => workersWordExact) fun good => ⟨.ofNat i.toInt.toNat, ?_⟩
  have bound := i.toInt_lt
  have small : i.toInt.toNat < UInt64.size := by unfold UInt64.size; omega
  rw [UInt64.toNat_ofNat_of_lt' small]
  omega

theorem backlogNarrowed (i : Int64) (complaint : Complaint) :
    sized (fun i => 1 ≤ i ∧ i ≤ 2147483647) complaint (.ok (some i.toInt)) =
      narrowed Int32.toInt complaint (backlogWord? i) := by
  refine narrowedExact (fun b => backlogWordExact) fun good => ⟨.ofInt i.toInt, ?_⟩
  exact Int32.toInt_ofInt_of_le (by omega) (by omega)

theorem fittingWord {i : Int} (fits : fitsInt64 i = true) : ∃ word : Int64, word.toInt = i := by
  obtain ⟨low, high⟩ := fitsExact.mp fits
  unfold int64Min at low
  unfold int64Max at high
  exact ⟨.ofInt i, Int64.toInt_ofInt_of_le (by omega) (by omega)⟩

/-! ### Numerals -/

/- A word for truth begins with a letter, which a numeral does not. -/
theorem numeralNoWord {text : String} {i : Int} (numeral : Numeral text.toList i) :
    truthWord (Text.lower text) = none := by
  obtain ⟨c, rest, same, head⟩ := numeralHead numeral
  have small : c.toNat < 128 := by
    rcases head with rfl | rfl | digit
    · decide
    · decide
    · have high : c.toNat ≤ 57 := (Char.isDigit_iff_toNat.mp digit).2
      omega
  have kept : c ≠ 'Σ' ∧ c.toLower = c ∧ c ≠ 't' ∧ c ≠ 'o' ∧ c ≠ 'y' ∧ c ≠ 'f' ∧ c ≠ 'n' := by
    revert head
    apply ofPlain ?_ small
    decide
  obtain ⟨sigma, still, t, o, y, f, n⟩ := kept
  have lowered : ∃ more, (Text.lower text).toList = c :: more := by
    rw [Text.lower, String.toList_ofList, same, Text.lowerFrom, if_neg sigma, Text.lowerChar,
      if_pos small, still]
    exact ⟨_, rfl⟩
  obtain ⟨more, lowered⟩ := lowered
  have apart {word : String} {w : Char} {ws : List Char} (spelled : word.toList = w :: ws)
      (differs : c ≠ w) : Text.lower text ≠ word := by
    rintro rfl
    rw [lowered] at spelled
    exact differs (List.cons.inj spelled).1
  have yes : ¬ (Text.lower text = "true" ∨ Text.lower text = "on" ∨ Text.lower text = "yes") := by
    rintro (word | word | word)
    · exact apart rfl t word
    · exact apart rfl o word
    · exact apart rfl y word
  have no : ¬ (Text.lower text = "false" ∨ Text.lower text = "off" ∨ Text.lower text = "no") := by
    rintro (word | word | word)
    · exact apart rfl f word
    · exact apart rfl o word
    · exact apart rfl n word
  rw [truthWord, if_neg yes, if_neg no]

theorem numeralWhole {text : String} {i : Int} (numeral : Numeral text.toList i)
    (fits : fitsInt64 i = true) (o : Origin) : (Tree.scalar o (.text text)).Scalarly IntOf i :=
  .scalar o (.numeral (numeralNoWord numeral) (numeralRead numeral fits))

theorem variableStands {key : String} {q : List String} (path : dotted? key = some q)
    (reachable : Reachable key) {env : Environment} {text : String}
    (only : env.Only (variableOf key) text) {fs : Formats} {d : Directory} {s : Settings}
    (ok : load fs d env none = .ok s) : Stands s key (environmentText text) := by
  have plain : ∀ c ∈ key.toList, c.toNat < 128 := fun c member =>
    (keyLetter ((dottedSpelled path).2 c member)).1
  obtain ⟨below, merged, _⟩ := loadOver ok only (variableLands plain)
  have reached := (mergeLanding path merged).1 ((reachableLanding plain).mpr reachable)
  obtain ⟨p, parsed, found⟩ := findAlong path s.root
  rw [reached] at found
  exact ⟨rfl, p, parsed, leadsFound.mpr found⟩

/-! ### The sizes of a server -/

/- What a server makes of its two settings. -/
structure SizesTold (m : Machine) (s : Settings) (server : String) : Prop where
  workers : ∀ w, (readWorkers s server).map m.workers = .ok w ↔
    (Vacant s (serverKey server "workers") ∧ w = m.processors) ∨
      ∃ i, s.getInt (serverKey server "workers") = .ok (some i) ∧ 1 ≤ i ∧ w = i
  noBacklog : readBacklog s server = .ok none ↔ Vacant s (serverKey server "backlog")
  backlog : ∀ b, readBacklog s server = .ok (some b) ↔
    ∃ i, s.getInt (serverKey server "backlog") = .ok (some i) ∧ (1 ≤ i ∧ i ≤ 2147483647) ∧ b = i
  workersTold : SizeRead s (serverKey server "workers") (1 ≤ ·) (.noWorkers server)
    (readWorkers s server)
  backlogTold : SizeRead s (serverKey server "backlog") (fun i => 1 ≤ i ∧ i ≤ 2147483647)
    (.backlogOutOfRange server) (readBacklog s server)

/- A number read from settings whose whole numbers fit is a word of 64 bits, and the sizes are what
becomes of that word. -/
structure SizesNarrowed (s : Settings) (server : String) : Prop where
  workers : ∀ n, s.getInt (serverKey server "workers") = .ok (some n) → ∃ i : Int64, i.toInt = n ∧
    readWorkers s server =
      narrowed (fun w : UInt64 => w.toNat) (.noWorkers server) (workersWord? i)
  backlog : ∀ n, s.getInt (serverKey server "backlog") = .ok (some n) → ∃ i : Int64, i.toInt = n ∧
    readBacklog s server = narrowed Int32.toInt (.backlogOutOfRange server) (backlogWord? i)

/- A key that stands for a number in one, and for its digits in the other. -/
structure SpeltOut (key : String) (i : Int) (s s' : Settings) : Prop where
  whole : ∃ o, Stands s key (.scalar o (.int i))
  text : ∃ o text, Stands s' key (.scalar o (.text text)) ∧ Numeral text.toList i

theorem sizesTold (m : Machine) (s : Settings) (server : String) : SizesTold m s server := by
  refine ⟨fun w => ?_, ?_, fun b => ?_, ?_, ?_⟩
  · have noWorkers :
        readWorkers s server = .ok none ↔ Vacant s (serverKey server "workers") := by
      rw [workersSized]
      exact sizedNothing
    rw [← noWorkers]
    constructor
    · intro ok
      cases read : readWorkers s server with
      | error f => rw [read] at ok; contradiction
      | ok found =>
        rw [read] at ok
        cases Except.ok.inj ok
        cases found with
        | none => exact .inl ⟨rfl, rfl⟩
        | some i =>
          rw [workersSized] at read
          obtain ⟨whole, good⟩ := sizedValue.mp read
          exact .inr ⟨i, whole, good, rfl⟩
    · rintro (⟨unset, rfl⟩ | ⟨i, whole, good, rfl⟩)
      · rw [unset]
        rfl
      · rw [workersSized, sizedValue.mpr ⟨whole, good⟩]
        rfl
  · rw [backlogSized]
    exact sizedNothing
  · rw [backlogSized, sizedValue]
    constructor
    · rintro ⟨whole, good⟩
      exact ⟨b, whole, good, rfl⟩
    · rintro ⟨i, whole, good, rfl⟩
      exact ⟨whole, good⟩
  · rw [workersSized]
    exact sizedRead
  · rw [backlogSized]
    exact sizedRead

theorem sizesNarrowed {s : Settings} (fits : s.root.Fits) (server : String) :
    SizesNarrowed s server := by
  have word {key : String} {n : Int} (ok : s.getInt key = .ok (some n)) :
      ∃ i : Int64, i.toInt = n := by
    obtain ⟨t, ⟨_, p, _, found⟩, whole⟩ := getHolds.mp ok
    exact fittingWord (wholeFits (everyFound fits (leadsFound.mp found)) whole)
  refine ⟨fun n ok => ?_, fun n ok => ?_⟩
  · obtain ⟨i, rfl⟩ := word ok
    exact ⟨i, rfl, by rw [workersSized, ok, workersNarrowed]⟩
  · obtain ⟨i, rfl⟩ := word ok
    exact ⟨i, rfl, by rw [backlogSized, ok, backlogNarrowed]⟩

theorem spelledOutSame {key : String} {i : Int} {s s' : Settings} (fits : fitsInt64 i = true)
    (spelt : SpeltOut key i s s') : s.getInt key = s'.getInt key := by
  obtain ⟨o, stands⟩ := spelt.whole
  obtain ⟨o', text, stands', numeral⟩ := spelt.text
  rw [getHolds.mpr ⟨_, stands, .scalar o (.whole i)⟩,
    getHolds.mpr ⟨_, stands', numeralWhole numeral fits o'⟩]

/- For settings of files or of one text the whole numbers fit. -/
theorem sizesExact :
    (∀ m s server, SizesTold m s server) ∧
    (∀ s server, s.root.Fits → SizesNarrowed s server) ∧
    (∀ fs d env file s, load fs d env file = .ok s → s.root.Fits) ∧
    (∀ text s, ofTomlText text = .ok s → s.root.Fits) ∧
    (∀ server i s s', fitsInt64 i = true →
      (SpeltOut (serverKey server "workers") i s s' → readWorkers s server = readWorkers s' server) ∧
      (SpeltOut (serverKey server "backlog") i s s' → readBacklog s server = readBacklog s' server)) ∧
    (∀ i, Numeral (writeInt i).toList i) ∧
    ∀ key q fs d env s text, dotted? key = some q → Reachable key →
      env.Only (variableOf key) text → load fs d env none = .ok s → Stands s key (environmentText text) := by
  refine ⟨sizesTold, fun s server fits => sizesNarrowed fits server, fun _ _ _ _ _ => loadFits,
    fun _ _ => textFits, fun server i s s' fits => ⟨fun spelt => ?_, fun spelt => ?_⟩,
    numeralWritten, fun _ _ _ _ _ _ _ path reachable only => variableStands path reachable only⟩
  · rw [workersSized, workersSized, spelledOutSame fits spelt]
  · rw [backlogSized, backlogSized, spelledOutSame fits spelt]

/-! ### As many workers as there are numbers for -/

def workersVariable : Environment := [("APP_API_WORKERS", "9223372036854775807")]

def numberedText : String := "[api]\nworkers = 9223372036854775807\n"

def numberedSettings : Settings where
  root := .table none [("api", .table none [("workers", .scalar none (.int 9223372036854775807))])]

theorem mostWorkers : ∃ s, ofTomlText numberedText = .ok numberedSettings ∧
    load .plain taggedFiles workersVariable none = .ok s ∧
    SpeltOut (serverKey "api" "workers") 9223372036854775807 numberedSettings s ∧
    readWorkers numberedSettings "api" = .ok (some 9223372036854775807) ∧
    readWorkers s "api" = .ok (some 9223372036854775807) := by
  obtain ⟨_, _, _, _, same, written, supplied⟩ := sizesExact
  have given : ofTomlText numberedText = .ok numberedSettings := by decide +kernel
  have mode : modeName workersVariable.mode = "conf/development" := by decide +kernel
  have path : dotted? (serverKey "api" "workers") = some ["api", "workers"] := by decide +kernel
  have reachable : Reachable (serverKey "api" "workers") := by simp [Reachable, serverKey]
  have only :
      workersVariable.Only (variableOf (serverKey "api" "workers")) "9223372036854775807" := by
    have name : variableOf (serverKey "api" "workers") = "APP_API_WORKERS" := by decide +kernel
    rw [name]
    exact ⟨List.mem_singleton_self _, fun v member _ => List.mem_singleton.mp member⟩
  obtain ⟨t, _, ok⟩ := taggedLoad mode path only
  have text := supplied _ _ _ _ _ _ _ path reachable only ok
  have numeral := written 9223372036854775807
  have digits : writeInt 9223372036854775807 = "9223372036854775807" := by decide +kernel
  rw [digits] at numeral
  have whole : Stands numberedSettings (serverKey "api" "workers")
      (.scalar none (.int 9223372036854775807)) :=
    ⟨rfl, ⟨"api", [.field "workers"]⟩, by decide +kernel, leadsFound.mpr rfl⟩
  have spelt : SpeltOut (serverKey "api" "workers") 9223372036854775807 numberedSettings _ :=
    ⟨⟨none, whole⟩, environmentOrigin, _, text, numeral⟩
  have read : readWorkers numberedSettings "api" = .ok (some 9223372036854775807) := by
    rw [workersSized, getHolds.mpr ⟨_, whole, .scalar none (.whole _)⟩]
    rfl
  refine ⟨_, given, ok, spelt, read, ?_⟩
  rw [← (same "api" _ _ _ (by decide)).1 spelt, read]

end TagListing.Fleet
