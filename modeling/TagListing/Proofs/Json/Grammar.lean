import TagListing.Json.Printer
import TagListing.Json.Reader

/-! The texts of JSON values, said without the reader, and the leaves of both: quoted texts and
numerals are read exactly as they are written here. What double a numeral stands for is not claimed,
only that the reader takes the longest numeral and none out of range. -/
namespace TagListing.Json
open TagListing.Numeric (takeSign)
open TagListing.Text (hexValue?)

def Blank (s : List Char) : Prop := ∀ c ∈ s, isBlank c = true

/-! ### What is written -/

inductive HexUnit : List Char → Nat → Prop where
  | digits {a b c d : Char} {k l m n : Nat} (first : hexValue? a = some k)
      (second : hexValue? b = some l) (third : hexValue? c = some m) (fourth : hexValue? d = some n) :
      HexUnit [a, b, c, d] (((k * 16 + l) * 16 + m) * 16 + n)

def shortEscapes : List (Char × Char) :=
  [('"', '"'), ('\\', '\\'), ('/', '/'), ('b', '\x08'), ('f', '\x0c'), ('n', '\n'), ('r', '\r'),
    ('t', '\t')]

/- The ways to write one character between quotes. -/
inductive Spelling : List Char → Char → Prop where
  | plain {c} (quote : c ≠ '"') (backslash : c ≠ '\\') (printable : 32 ≤ c.toNat) : Spelling [c] c
  | short {letter c} (stands : (letter, c) ∈ shortEscapes) : Spelling ['\\', letter] c
  | unit {w n} (digits : HexUnit w n) (alone : n < 0xD800 ∨ 0xDFFF < n) :
      Spelling ('\\' :: 'u' :: w) (Char.ofNat n)
  | pair {u w n m} (high : HexUnit u n) (low : HexUnit w m) (first : 0xD800 ≤ n ∧ n ≤ 0xDBFF)
      (second : 0xDC00 ≤ m ∧ m ≤ 0xDFFF) :
      Spelling ('\\' :: 'u' :: (u ++ '\\' :: 'u' :: w))
        (Char.ofNat ((n - 0xD800) * 0x400 + (m - 0xDC00) + 0x10000))

inductive Body : List Char → List Char → Prop where
  | nil : Body [] []
  | cons {piece c w s} (one : Spelling piece c) (more : Body w s) : Body (piece ++ w) (c :: s)

def Quoted (w : List Char) (s : String) : Prop := ∃ body, w = '"' :: body ++ ['"'] ∧ Body body s.toList

structure Digits (ds : List Char) : Prop where
  some : ds ≠ []
  all : ∀ d ∈ ds, d.isDigit = true

inductive Places : List Char → Option (List Char) → Prop where
  | absent : Places [] none
  | point {ds} (digits : Digits ds) : Places ('.' :: ds) (some ds)

def isPower (c : Char) : Bool := c = 'e' || c = 'E'

inductive PowerSign : List Char → Bool → Prop where
  | absent : PowerSign [] false
  | plus : PowerSign ['+'] false
  | minus : PowerSign ['-'] true

inductive Power : List Char → Option (Bool × List Char) → Prop where
  | absent : Power [] none
  | letter {e sign ds down} (power : isPower e = true) (signed : PowerSign sign down)
      (digits : Digits ds) : Power (e :: (sign ++ ds)) (some (down, ds))

/- A numeral without its sign. A zero stands in front only when it is alone there. -/
structure Spells (w : List Char) (l : Literal) : Prop where
  parts : ∃ places power, w = l.whole ++ places ++ power ∧ Places places l.places ∧
    Power power l.power
  whole : Digits l.whole
  zero : l.whole.head? = some '0' → l.whole.length = 1

/- A numeral and its value, which is in range. -/
inductive Numeral : List Char → Number → Prop where
  | plain {w l n} (spells : Spells w l) (value : l.value false = some n) : Numeral w n
  | minus {w l n} (spells : Spells w l) (value : l.value true = some n) : Numeral ('-' :: w) n

/- Would the character after a numeral belong to it? -/
def goesOn (w : List Char) (c : Char) : Bool :=
  c.isDigit || (isPower c && !w.any isPower) ||
    (c = '.' && !w.any (· = '.') && !w.any isPower)

/-! ### Steps of a reader -/

theorem bindFound {α β : Type} {x : Except Fault α} {f : α → Except Fault β} {b : β}
    (ok : (x >>= f) = .ok b) : ∃ a, x = .ok a ∧ f a = .ok b := by
  cases x with
  | error f => contradiction
  | ok a => exact ⟨a, rfl, ok⟩

theorem mapFound {α β : Type} {x : Except Fault α} {f : α → β} {b : β} (ok : x.map f = .ok b) :
    ∃ a, x = .ok a ∧ f a = b := by
  cases x with
  | error f => contradiction
  | ok a => exact ⟨a, rfl, Except.ok.inj ok⟩

/-! ### Quoted texts -/

theorem hexUnitRead {w : List Char} {n : Nat} (unit : HexUnit w n) (rest : List Char) :
    hexUnit (w ++ rest) = .ok (n, rest) := by
  cases unit with
  | @digits a b c d _ _ _ _ first second third fourth =>
    have enough : fewerThanFourBytes (a :: b :: c :: d :: rest) = false := by
      have one := Char.utf8Size_pos a
      have two := Char.utf8Size_pos b
      have three := Char.utf8Size_pos c
      have four := Char.utf8Size_pos d
      simp only [fewerThanFourBytes, List.take, List.foldl, decide_eq_false_iff_not]
      omega
    simp only [List.cons_append, List.nil_append, hexUnit, enough, first, second, third, fourth]
    rfl

theorem hexUnitFound {s rest : List Char} {n : Nat} (ok : hexUnit s = .ok (n, rest)) :
    ∃ w, HexUnit w n ∧ s = w ++ rest := by
  unfold hexUnit at ok
  split at ok
  · contradiction
  split at ok
  · split at ok
    · rename_i first second third fourth
      cases Except.ok.inj ok
      exact ⟨_, .digits first second third fourth, rfl⟩
    · contradiction
  · contradiction

theorem expectFound {c : Char} {s rest : List Char} (ok : expect c s = .ok rest) : s = c :: rest := by
  unfold expect at ok
  split at ok
  · contradiction
  · split at ok
    · rename_i same
      cases Except.ok.inj ok
      rw [same]
    · contradiction

/- What follows the backslash of an escape. -/
theorem escapeRead {piece : List Char} {c : Char} (spelling : Spelling ('\\' :: piece) c)
    (rest : List Char) : escape .keep (piece ++ rest) = .ok (c, rest) := by
  generalize whole : '\\' :: piece = written at spelling
  cases spelling with
  | plain _ backslash =>
    cases whole
    contradiction
  | @short letter c stands =>
    cases whole
    simp only [shortEscapes, List.mem_cons, List.not_mem_nil, or_false, Prod.mk.injEq] at stands
    rcases stands with same | same | same | same | same | same | same | same <;>
      (obtain ⟨rfl, rfl⟩ := same; rfl)
  | @unit w n digits alone =>
    cases whole
    simp only [List.cons_append, escape, codePoint, hexUnitRead digits, bind, Except.bind]
    rw [if_neg (by omega), if_neg (by omega)]
  | @pair u w n m high low first second =>
    cases whole
    simp only [List.cons_append, List.append_assoc, escape, codePoint, hexUnitRead high,
      hexUnitRead low, expect, if_true, bind, Except.bind]
    rw [if_neg (by omega), if_pos first, if_pos second]

theorem codePointFound {s rest : List Char} {c : Char} (ok : codePoint s = .ok (c, rest)) :
    ∃ piece, Spelling ('\\' :: 'u' :: piece) c ∧ s = piece ++ rest := by
  obtain ⟨⟨n, r⟩, high, decided⟩ := bindFound ok
  obtain ⟨u, unit, rfl⟩ := hexUnitFound high
  dsimp only at decided
  split at decided
  · contradiction
  rename_i noLow
  split at decided
  · rename_i first
    obtain ⟨r₁, backslash, decided⟩ := bindFound decided
    obtain ⟨r₂, letter, decided⟩ := bindFound decided
    obtain ⟨⟨m, r₃⟩, low, decided⟩ := bindFound decided
    split at decided
    · rename_i second
      obtain ⟨rfl, rfl⟩ := Prod.mk.inj (Except.ok.inj decided)
      obtain ⟨w, unit', rfl⟩ := hexUnitFound low
      obtain rfl := expectFound letter
      obtain rfl := expectFound backslash
      exact ⟨_, .pair unit unit' first second, by simp⟩
    · contradiction
  · rename_i noHigh
    cases Except.ok.inj decided
    exact ⟨u, .unit unit (by omega), rfl⟩

theorem escapeFound {s rest : List Char} {c : Char} (ok : escape .keep s = .ok (c, rest)) :
    ∃ piece, Spelling ('\\' :: piece) c ∧ s = piece ++ rest := by
  unfold escape at ok
  split at ok
  case h_10 rest' =>
    obtain ⟨piece, spelling, rfl⟩ := codePointFound ok
    exact ⟨_, spelling, rfl⟩
  case h_1 => contradiction
  case h_11 => contradiction
  all_goals
    cases Except.ok.inj ok
    exact ⟨[_], .short (by decide), rfl⟩

theorem spellingRead {piece : List Char} {c : Char} (spelling : Spelling piece c) (fuel : Nat)
    (s : List Char) : textBody .keep (fuel + 1) (piece ++ s) =
      (textBody .keep fuel s).map fun p => (c :: p.1, p.2) := by
  have escaped {tail : List Char} (spelling : Spelling ('\\' :: tail) c) :
      textBody .keep (fuel + 1) ('\\' :: (tail ++ s)) =
        (textBody .keep fuel s).map fun p => (c :: p.1, p.2) := by
    have quoted : '\\' ≠ '"' := by decide
    simp only [textBody, if_neg quoted, if_true, escapeRead spelling, bind, Except.bind]
    cases textBody .keep fuel s <;> rfl
  cases spelling with
  | plain quote backslash printable =>
    have visible : ¬ c.toNat < 32 := Nat.not_lt.mpr printable
    simp only [List.cons_append, List.nil_append, textBody, if_neg quote, if_neg backslash,
      if_neg visible, bind, Except.bind]
    cases textBody .keep fuel s <;> rfl
  | short stands => exact escaped (.short stands)
  | unit digits alone => exact escaped (.unit digits alone)
  | pair high low first second => exact escaped (.pair high low first second)

theorem spellingLength {piece : List Char} {c : Char} (spelling : Spelling piece c) :
    1 ≤ piece.length := by
  cases spelling <;> simp

theorem bodyRead {w cs : List Char} (body : Body w cs) {fuel : Nat} (room : w.length < fuel)
    (rest : List Char) : textBody .keep fuel (w ++ '"' :: rest) = .ok (cs, rest) := by
  induction body generalizing fuel with
  | nil =>
    obtain ⟨fuel, rfl⟩ := Nat.exists_eq_succ_of_ne_zero (Nat.ne_zero_of_lt room)
    rfl
  | cons one more ih =>
    obtain ⟨fuel, rfl⟩ := Nat.exists_eq_succ_of_ne_zero (Nat.ne_zero_of_lt room)
    have long := spellingLength one
    rw [List.length_append] at room
    rw [List.append_assoc, spellingRead one, ih (by omega)]
    rfl

theorem bodyFound {fuel : Nat} {s cs rest : List Char}
    (ok : textBody .keep fuel s = .ok (cs, rest)) : ∃ w, Body w cs ∧ s = w ++ '"' :: rest := by
  induction fuel generalizing s cs with
  | zero => contradiction
  | succ fuel ih =>
    cases s with
    | nil => contradiction
    | cons c s =>
      unfold textBody at ok
      split at ok
      · rename_i quote
        cases Except.ok.inj ok
        exact ⟨[], .nil, by rw [quote]; rfl⟩
      rename_i quote
      split at ok
      · rename_i backslash
        obtain ⟨⟨e, s'⟩, spelled, later⟩ := bindFound ok
        obtain ⟨⟨cs', r⟩, more, same⟩ := bindFound later
        cases Except.ok.inj same
        obtain ⟨piece, spelling, rfl⟩ := escapeFound spelled
        obtain ⟨w, body, rfl⟩ := ih more
        exact ⟨_, .cons (backslash ▸ spelling) body, by simp⟩
      rename_i backslash
      split at ok
      · contradiction
      · rename_i visible
        obtain ⟨⟨cs', r⟩, more, same⟩ := bindFound ok
        cases Except.ok.inj same
        obtain ⟨w, body, rfl⟩ := ih more
        exact ⟨_, .cons (.plain quote backslash (Nat.not_lt.mp visible)) body, rfl⟩

theorem textRead {body : List Char} {s : String} (spelled : Body body s.toList)
    (rest : List Char) : text .keep (body ++ '"' :: rest) = .ok (s, rest) := by
  have room : body.length < (body ++ '"' :: rest).length + 1 := by
    rw [List.length_append]
    omega
  rw [text, bodyRead spelled room]
  exact congrArg (fun t => Except.ok (t, rest)) String.ofList_toList

theorem textFound {t rest : List Char} {s : String} (ok : text .keep t = .ok (s, rest)) :
    ∃ body, Body body s.toList ∧ t = body ++ '"' :: rest := by
  obtain ⟨⟨cs, r⟩, found, same⟩ := mapFound ok
  obtain ⟨body, spelled, parts⟩ := bodyFound found
  cases same
  exact ⟨body, by rw [String.toList_ofList]; exact spelled, parts⟩

/-! ### Numerals -/

/- No digit comes next. -/
def Undigited (rest : List Char) : Prop := ∀ c ∈ rest.head?, c.isDigit = false

theorem digitsTaken {ds rest : List Char} (all : ∀ d ∈ ds, d.isDigit = true)
    (ends : Undigited rest) : (ds ++ rest).takeWhile Char.isDigit = ds ∧
      (ds ++ rest).dropWhile Char.isDigit = rest := by
  rw [List.takeWhile_append_of_pos all, List.dropWhile_append_of_pos all]
  cases rest with
  | nil => simp
  | cons c rest =>
    have other : ¬ c.isDigit = true := by simp [ends c rfl]
    rw [List.takeWhile_cons_of_neg other, List.dropWhile_cons_of_neg other]
    exact ⟨List.append_nil ds, rfl⟩

theorem digitsFound (s : List Char) : (∀ d ∈ s.takeWhile Char.isDigit, d.isDigit = true) ∧
    Undigited (s.dropWhile Char.isDigit) ∧
    s = s.takeWhile Char.isDigit ++ s.dropWhile Char.isDigit := by
  refine ⟨fun d member => List.all_eq_true.mp List.all_takeWhile d member, fun c head => ?_,
    List.takeWhile_append_dropWhile.symm⟩
  have ends := List.head?_dropWhile_not Char.isDigit s
  rw [Option.mem_def.mp head] at ends
  exact ends

theorem placesRead {w rest : List Char} {part : Option (List Char)} (written : Places w part)
    (ends : Undigited rest) (point : part = none → rest.head? ≠ some '.') :
    places .keep (w ++ rest) = .ok (part, rest) := by
  cases written with
  | absent =>
    unfold places
    split
    · rename_i tail same
      exact absurd (congrArg List.head? same) (point rfl)
    · rfl
  | @point ds digits =>
    obtain ⟨taken, left⟩ := digitsTaken digits.all ends
    simp only [List.cons_append, places, taken, left, if_neg digits.some]

theorem placesFound {s rest : List Char} {part : Option (List Char)}
    (ok : places .keep s = .ok (part, rest)) : ∃ w, Places w part ∧ s = w ++ rest ∧
      (part = none → rest.head? ≠ some '.') ∧ (part ≠ none → Undigited rest) := by
  unfold places at ok
  split at ok
  · rename_i s
    obtain ⟨all, ends, parts⟩ := digitsFound s
    simp only at ok
    split at ok
    · contradiction
    · rename_i more
      cases Except.ok.inj ok
      exact ⟨_, .point ⟨more, all⟩, congrArg _ parts, nofun, fun _ => ends⟩
  · rename_i none
    cases Except.ok.inj ok
    refine ⟨[], .absent, rfl, fun _ point => ?_, fun more => absurd rfl more⟩
    obtain ⟨tail, same⟩ := List.head?_eq_some_iff.mp point
    exact none tail same

theorem signTaken {sign ds : List Char} {down : Bool} (signed : PowerSign sign down)
    (digits : Digits ds) (rest : List Char) : takeSign (sign ++ (ds ++ rest)) = (down, ds ++ rest) := by
  cases signed with
  | absent =>
    obtain ⟨d, ds, rfl⟩ := List.exists_cons_of_ne_nil digits.some
    have digit := digits.all d List.mem_cons_self
    simp only [List.nil_append, List.cons_append]
    unfold takeSign
    split
    · rename_i same
      cases (List.cons.inj same).1
      contradiction
    · rename_i same
      cases (List.cons.inj same).1
      contradiction
    · rfl
  | plus => rfl
  | minus => rfl

theorem signFound (s : List Char) : ∃ sign, PowerSign sign (takeSign s).1 ∧ s = sign ++ (takeSign s).2 := by
  unfold takeSign
  split
  · exact ⟨_, .minus, rfl⟩
  · exact ⟨_, .plus, rfl⟩
  · exact ⟨_, .absent, rfl⟩

theorem powerRead {w rest : List Char} {part : Option (Bool × List Char)} (written : Power w part)
    (ends : Undigited rest) (letter : part = none → ∀ c ∈ rest.head?, isPower c = false) :
    power .keep (w ++ rest) = .ok (part, rest) := by
  cases written with
  | absent =>
    cases rest with
    | nil => rfl
    | cons c rest =>
      have other : ¬ (c = 'e' ∨ c = 'E') := by simpa [isPower] using letter rfl c rfl
      simp only [List.nil_append, power, if_neg other]
  | @letter e sign ds down first signed digits =>
    obtain ⟨taken, left⟩ := digitsTaken digits.all ends
    have first : e = 'e' ∨ e = 'E' := by simpa [isPower] using first
    simp only [List.cons_append, List.append_assoc, power, if_pos first,
      signTaken signed digits rest, taken, left, if_neg digits.some]

theorem powerFound {s rest : List Char} {part : Option (Bool × List Char)}
    (ok : power .keep s = .ok (part, rest)) : ∃ w, Power w part ∧ s = w ++ rest ∧
      (part = none → ∀ c ∈ rest.head?, isPower c = false) ∧ (part ≠ none → Undigited rest) := by
  unfold power at ok
  split at ok
  · rename_i c s
    split at ok
    · rename_i first
      obtain ⟨sign, signed, parts⟩ := signFound s
      obtain ⟨all, ends, parts'⟩ := digitsFound (takeSign s).2
      simp only at ok
      split at ok
      · contradiction
      · rename_i more
        cases Except.ok.inj ok
        refine ⟨_, .letter (by simpa [isPower] using first) signed ⟨more, all⟩, ?_, nofun,
          fun _ => ends⟩
        rw [List.cons_append, List.append_assoc, ← parts', ← parts]
    · rename_i other
      cases Except.ok.inj ok
      refine ⟨[], .absent, rfl, fun _ d same => ?_, fun more => absurd rfl more⟩
      cases same
      simpa [isPower] using other
  · cases Except.ok.inj ok
    exact ⟨[], .absent, rfl, fun _ => nofun, fun more => absurd rfl more⟩

/- What a numeral has is seen from its characters. -/
theorem digitsPlain {ds : List Char} (all : ∀ d ∈ ds, d.isDigit = true) :
    ds.any isPower = false ∧ ds.any (· = '.') = false := by
  constructor
  · refine List.any_eq_false.mpr fun d member power => ?_
    have digit := all d member
    rcases (by simpa [isPower] using power : d = 'e' ∨ d = 'E') with rfl | rfl <;> contradiction
  · refine List.any_eq_false.mpr fun d member point => ?_
    have digit := all d member
    cases of_decide_eq_true point
    contradiction

theorem placesSeen {w : List Char} {part : Option (List Char)} (written : Places w part) :
    w.any isPower = false ∧ w.any (· = '.') = part.isSome := by
  cases written with
  | absent => exact ⟨rfl, rfl⟩
  | point digits => exact ⟨(digitsPlain digits.all).1, by simp⟩

theorem powerSeen {w : List Char} {part : Option (Bool × List Char)} (written : Power w part) :
    w.any isPower = part.isSome ∧ w.any (· = '.') = false := by
  cases written with
  | absent => exact ⟨rfl, rfl⟩
  | letter first signed digits =>
    have plain := (digitsPlain digits.all).2
    rcases (by simpa [isPower] using first : _ = 'e' ∨ _ = 'E') with rfl | rfl <;>
      cases signed <;> exact ⟨rfl, plain⟩

/- The next character does not belong to the numeral. -/
def Apart (w rest : List Char) : Prop := ∀ c ∈ rest.head?, goesOn w c = false

theorem goesOnExact {p q : List Char} {l : Literal} (whole : Digits l.whole)
    (point : Places p l.places) (letter : Power q l.power) (c : Char) :
    goesOn (l.whole ++ p ++ q) c = false ↔
      c.isDigit = false ∧ (l.power = none → isPower c = false) ∧
        (l.places = none → l.power = none → c ≠ '.') := by
  obtain ⟨wholePower, wholePoint⟩ := digitsPlain whole.all
  obtain ⟨placesPower, placesPoint⟩ := placesSeen point
  obtain ⟨powerPower, powerPoint⟩ := powerSeen letter
  simp only [goesOn, List.any_append, wholePower, wholePoint, placesPower, placesPoint, powerPower,
    powerPoint]
  cases l.places <;> cases l.power <;> simp [and_assoc]

/- Places and powers begin with no digit, and powers with no point. -/
theorem placesAhead {p rest : List Char} {part : Option (List Char)} (point : Places p part)
    (ends : Undigited rest) : Undigited (p ++ rest) := by
  cases point with
  | absent => exact ends
  | point digits =>
    intro c head
    cases head
    rfl

theorem powerAhead {q rest : List Char} {part : Option (Bool × List Char)} (letter : Power q part)
    (ends : Undigited rest) : Undigited (q ++ rest) ∧
      ((part = none → rest.head? ≠ some '.') → (q ++ rest).head? ≠ some '.') := by
  cases letter with
  | absent => exact ⟨ends, fun point => point rfl⟩
  | letter first signed digits =>
    rcases (by simpa [isPower] using first : _ = 'e' ∨ _ = 'E') with rfl | rfl
    all_goals
      refine ⟨fun c head => ?_, fun _ => nofun⟩
      cases head
      rfl

theorem literalRead {w rest : List Char} {l : Literal} (spells : Spells w l) (apart : Apart w rest) :
    literal .keep (w ++ rest) = .ok (l, rest) := by
  obtain ⟨⟨p, q, rfl, point, letter⟩, whole, zero⟩ := spells
  have after := fun c head => (goesOnExact whole point letter c).mp (apart c head)
  have ends : Undigited rest := fun c head => (after c head).1
  have noLetter : l.power = none → ∀ c ∈ rest.head?, isPower c = false :=
    fun none c head => (after c head).2.1 none
  have noPoint : l.places = none → l.power = none → rest.head? ≠ some '.' :=
    fun none none' head => (after '.' head).2.2 none none' rfl
  have single : ¬ (l.whole.head? = some '0' ∧ 1 < l.whole.length) := by
    rintro ⟨first, long⟩
    rw [zero first] at long
    contradiction
  obtain ⟨behind, pointless⟩ := powerAhead letter ends
  obtain ⟨taken, left⟩ := digitsTaken whole.all (placesAhead point behind)
  rw [List.append_assoc, List.append_assoc]
  simp only [literal, taken, left, if_neg whole.some, if_neg single,
    placesRead point behind fun none => pointless (noPoint none), powerRead letter ends noLetter,
    bind, Except.bind]

theorem literalFound {s rest : List Char} {l : Literal} (ok : literal .keep s = .ok (l, rest)) :
    ∃ w, Spells w l ∧ s = w ++ rest ∧ Apart w rest := by
  obtain ⟨all, ends, parts⟩ := digitsFound s
  unfold literal at ok
  simp only at ok
  split at ok
  · contradiction
  rename_i more
  split at ok
  · contradiction
  rename_i single
  obtain ⟨⟨part, r⟩, first, later⟩ := bindFound ok
  obtain ⟨⟨part', r'⟩, second, found⟩ := bindFound later
  obtain ⟨rfl, rfl⟩ := Prod.mk.inj (Except.ok.inj found)
  obtain ⟨p, point, parts', noPoint, ends'⟩ := placesFound first
  obtain ⟨q, letter, rfl, noLetter, ends''⟩ := powerFound second
  have whole : Digits (s.takeWhile Char.isDigit) := ⟨more, all⟩
  have undigited : Undigited r' := by
    cases letter with
    | letter => exact ends'' nofun
    | absent =>
      cases point with
      | point => exact ends' nofun
      | absent =>
        rw [parts'] at ends
        exact ends
  refine ⟨_, ⟨⟨p, q, rfl, point, letter⟩, whole, fun zero => ?_⟩, ?_, fun c head => ?_⟩
  · exact Nat.le_antisymm (Nat.not_lt.mp (not_and.mp single zero)) (List.length_pos_iff.mpr more)
  · rw [List.append_assoc, List.append_assoc, ← parts', ← parts]
  · refine (goesOnExact (l := ⟨_, part, part'⟩) whole point letter c).mpr
      ⟨undigited c head, fun none => noLetter none c head, fun none none' same => ?_⟩
    cases letter with
    | letter => contradiction
    | absent => exact noPoint none (same ▸ head)

/- The sign counts for the value only, so a number is read behind it. -/
theorem numberRead {w rest : List Char} {l : Literal} {n : Number} (negative : Bool)
    (spells : Spells w l) (value : l.value negative = some n) (apart : Apart w rest) :
    number .keep negative (w ++ rest) = .ok (n, rest) := by
  simp only [number, literalRead spells apart, value, bind, Except.bind]

theorem numberFound {s rest : List Char} {n : Number} {negative : Bool}
    (ok : number .keep negative s = .ok (n, rest)) :
    ∃ w l, Spells w l ∧ l.value negative = some n ∧ s = w ++ rest ∧ Apart w rest := by
  obtain ⟨⟨l, r⟩, read, valued⟩ := bindFound ok
  dsimp only at valued
  split at valued
  · rename_i value
    cases Except.ok.inj valued
    obtain ⟨w, spells, parts, apart⟩ := literalFound read
    exact ⟨w, l, spells, value, parts, apart⟩
  · contradiction

end TagListing.Json
