import TagListing.Proofs.Json.Grammar
import TagListing.Proofs.Json.Printed

/-! The texts of whole values. Read is what begins with the text of a value, nested at most as deep
as allowed, and everything else is a malformed or a truncated text, never one of the wrong kind.
Which of these two it is is not claimed. -/
namespace TagListing.Json

/- A value's text between blanks. -/
structure Item where
  before : List Char
  word : List Char
  after : List Char
  value : Value

def Item.text (i : Item) : List Char := i.before ++ i.word ++ i.after

structure Member where
  before : List Char
  name : List Char
  after : List Char
  key : String
  item : Item

def Member.text (m : Member) : List Char := m.before ++ m.name ++ m.after ++ ':' :: m.item.text

def Member.entry (m : Member) : String × Value := (m.key, m.item.value)

structure Item.Spaced (i : Item) : Prop where
  before : Blank i.before
  after : Blank i.after

structure Member.Spaced (m : Member) : Prop where
  before : Blank m.before
  after : Blank m.after
  item : m.item.Spaced

/- The text of a value without blanks around it, and a bound on the lists and objects around its
innermost value. -/
inductive Written : Nat → List Char → Value → Prop where
  | null (n) : Written n ['n', 'u', 'l', 'l'] .null
  | yes (n) : Written n ['t', 'r', 'u', 'e'] (.bool true)
  | no (n) : Written n ['f', 'a', 'l', 's', 'e'] (.bool false)
  | text {n w s} (quoted : Quoted w s) : Written n w (.text s)
  | number {n w k} (numeral : Numeral w k) : Written n w (.number k)
  | emptyList {n gap} (blank : Blank gap) : Written (n + 1) ('[' :: gap ++ [']']) (.list [])
  | list {n first rest} (spaced : ∀ i ∈ first :: rest, i.Spaced)
      (inner : ∀ i ∈ first :: rest, Written n i.word i.value) :
      Written (n + 1) ('[' :: commaJoined ((first :: rest).map Item.text) ++ [']'])
        (.list ((first :: rest).map Item.value))
  | emptyObject {n gap} (blank : Blank gap) :
      Written (n + 1) ('\x7b' :: gap ++ ['\x7d']) (.object [])
  | object {n first rest} (spaced : ∀ m ∈ first :: rest, m.Spaced)
      (names : ∀ m ∈ first :: rest, Quoted m.name m.key)
      (inner : ∀ m ∈ first :: rest, Written n m.item.word m.item.value) :
      Written (n + 1) ('\x7b' :: commaJoined ((first :: rest).map Member.text) ++ ['\x7d'])
        (.object ((first :: rest).map Member.entry))

/- A numeral must be whole where it ends; all other values show their end. -/
def Ended : Value → List Char → List Char → Prop
  | .number _, w, rest => Apart w rest
  | _, _, _ => True

/- A text that begins with a value and goes on with the rest. -/
def Begins (n : Nat) (s : List Char) (v : Value) (rest : List Char) : Prop :=
  ∃ b w, Blank b ∧ s = b ++ w ++ rest ∧ Written n w v ∧ Ended v w rest

/-! ### Blanks and words -/

theorem skipBlankOver {b : List Char} (blank : Blank b) {c : Char} (solid : isBlank c = false)
    (s : List Char) : skipBlank (b ++ c :: s) = c :: s := by
  rw [skipBlank, List.dropWhile_append_of_pos blank]
  exact skipBlankAt solid s

theorem blankFound (s : List Char) : ∃ b, Blank b ∧ s = b ++ skipBlank s :=
  ⟨s.takeWhile isBlank, fun c member => List.all_eq_true.mp List.all_takeWhile c member,
    List.takeWhile_append_dropWhile.symm⟩

theorem wordFound {w s rest : List Char} (ok : word w s = .ok rest) : s = w ++ rest := by
  induction w generalizing s with
  | nil =>
    rw [word] at ok
    exact Except.ok.inj ok
  | cons c w ih =>
    cases s with
    | nil => contradiction
    | cons d s =>
      rw [word] at ok
      split at ok
      · rename_i same
        rw [same, ih ok]
        rfl
      · contradiction

/-! ### What is read is written -/

section
variable {item : List Char → Except Fault (Value × List Char)} {n : Nat}

theorem itemsFound (each : ∀ s v rest, item s = .ok (v, rest) → Begins n s v rest) {fuel : Nat}
    {s rest : List Char} {vs : List Value} (ok : items item fuel s = .ok (vs, rest)) :
    ∃ first more, (∀ i ∈ first :: more, i.Spaced) ∧
      (∀ i ∈ first :: more, Written n i.word i.value) ∧
      s = commaJoined ((first :: more).map Item.text) ++ ']' :: rest ∧
      vs = (first :: more).map Item.value := by
  induction fuel generalizing s vs with
  | zero => contradiction
  | succ fuel ih =>
    obtain ⟨⟨v, r⟩, read, listed⟩ := bindFound ok
    obtain ⟨b, w, blank, rfl, written, -⟩ := each s v r read
    obtain ⟨a, blank', gap⟩ := blankFound r
    dsimp only at listed
    split at listed
    · contradiction
    rename_i c r' next
    rw [next] at gap
    subst gap
    split at listed
    · rename_i close
      cases Except.ok.inj listed
      refine ⟨⟨b, w, a, v⟩, [], ?_, ?_, ?_, rfl⟩
      · simpa using ⟨blank, blank'⟩
      · simpa using written
      · simp [commaJoined, Item.text, close]
    split at listed
    · rename_i comma
      obtain ⟨⟨vs', r''⟩, later, same⟩ := bindFound listed
      cases Except.ok.inj same
      obtain ⟨second, more, spaced, inner, rfl, values⟩ := ih later
      refine ⟨⟨b, w, a, v⟩, second :: more, ?_, ?_, ?_, by rw [values]; rfl⟩
      · exact List.forall_mem_cons.mpr ⟨⟨blank, blank'⟩, spaced⟩
      · exact List.forall_mem_cons.mpr ⟨written, inner⟩
      · simp [commaJoined, Item.text, comma]
    · contradiction

theorem memberNameFound {s rest : List Char} {key : String}
    (ok : memberName .keep s = .ok (key, rest)) :
    ∃ b w, Blank b ∧ Quoted w key ∧ s = b ++ w ++ rest := by
  obtain ⟨b, blank, gap⟩ := blankFound s
  unfold memberName at ok
  split at ok
  · contradiction
  rename_i c r next
  split at ok
  · rename_i quote
    obtain ⟨⟨key', r'⟩, read, same⟩ := bindFound ok
    cases Except.ok.inj same
    obtain ⟨body, spelled, rfl⟩ := textFound read
    refine ⟨b, _, blank, ⟨body, rfl, spelled⟩, ?_⟩
    rw [gap, next, quote]
    simp
  · contradiction

theorem membersFound (each : ∀ s v rest, item s = .ok (v, rest) → Begins n s v rest) {fuel : Nat}
    {s rest : List Char} {ms : List (String × Value)}
    (ok : members .keep item fuel s = .ok (ms, rest)) :
    ∃ first more, (∀ m ∈ first :: more, m.Spaced) ∧ (∀ m ∈ first :: more, Quoted m.name m.key) ∧
      (∀ m ∈ first :: more, Written n m.item.word m.item.value) ∧
      s = commaJoined ((first :: more).map Member.text) ++ '\x7d' :: rest ∧
      ms = (first :: more).map Member.entry := by
  induction fuel generalizing s ms with
  | zero => contradiction
  | succ fuel ih =>
    obtain ⟨⟨key, r⟩, named, after⟩ := bindFound ok
    obtain ⟨r₁, colon, valued⟩ := bindFound after
    obtain ⟨⟨v, r₂⟩, read, listed⟩ := bindFound valued
    obtain ⟨b, name, blank, quoted, rfl⟩ := memberNameFound named
    obtain ⟨a, blank', rfl⟩ : ∃ a, Blank a ∧ r = a ++ ':' :: r₁ := by
      rw [← expectFound colon]
      exact blankFound r
    obtain ⟨b', w, blank₁, rfl, written, -⟩ := each r₁ v r₂ read
    obtain ⟨a', blank₂, gap⟩ := blankFound r₂
    dsimp only at listed
    split at listed
    · contradiction
    rename_i c r' next
    rw [next] at gap
    subst gap
    let only : Member := ⟨b, name, a, key, ⟨b', w, a', v⟩⟩
    have spaced : only.Spaced := ⟨blank, blank', blank₁, blank₂⟩
    split at listed
    · rename_i close
      cases Except.ok.inj listed
      refine ⟨only, [], by simpa using spaced, by simpa using quoted, by simpa using written, ?_, rfl⟩
      simp [commaJoined, Member.text, Item.text, close, only]
    split at listed
    · rename_i comma
      obtain ⟨⟨ms', r''⟩, later, same⟩ := bindFound listed
      cases Except.ok.inj same
      obtain ⟨second, more, spaced', names, inner, rfl, entries⟩ := ih later
      refine ⟨only, second :: more, List.forall_mem_cons.mpr ⟨spaced, spaced'⟩,
        List.forall_mem_cons.mpr ⟨quoted, names⟩, List.forall_mem_cons.mpr ⟨written, inner⟩, ?_,
        by rw [entries]; rfl⟩
      simp [commaJoined, Member.text, Item.text, comma, only]
    · contradiction

end

/- A word shows its value by its first character. -/
theorem wordBegins {n : Nat} {b w r rest : List Char} {c first : Char} {v v' : Value}
    (blank : Blank b) (letter : c = first) (written : Written n (first :: w) v)
    (ended : Ended v (first :: w) rest) (ok : (word w r).map (v, ·) = .ok (v', rest)) :
    Begins n (b ++ c :: r) v' rest := by
  obtain ⟨rest, read, same⟩ := mapFound ok
  cases same
  exact ⟨b, _, blank, by simp [letter, wordFound read], written, ended⟩

/- One value, where the values inside it are read as they are written. -/
theorem valueOver {n : Nat} (inner : ∀ m, n = m + 1 → ∀ s v rest,
      value .keep m s = .ok (v, rest) → Begins m s v rest) {s rest : List Char} {v : Value}
    (ok : value .keep n s = .ok (v, rest)) : Begins n s v rest := by
  obtain ⟨b, blank, gap⟩ := blankFound s
  unfold value at ok
  split at ok
  · contradiction
  rename_i c r next
  rw [next] at gap
  subst gap
  split at ok
  · rename_i letter
    exact wordBegins blank letter (.null n) trivial ok
  split at ok
  · rename_i letter
    exact wordBegins blank letter (.yes n) trivial ok
  split at ok
  · rename_i letter
    exact wordBegins blank letter (.no n) trivial ok
  split at ok
  · rename_i quote
    obtain ⟨p, read, same⟩ := mapFound ok
    cases same
    obtain ⟨body, spelled, rfl⟩ := textFound read
    exact ⟨b, _, blank, by simp [quote], .text ⟨body, rfl, spelled⟩, trivial⟩
  split at ok
  · rename_i minus
    obtain ⟨p, read, same⟩ := mapFound ok
    cases same
    obtain ⟨w, l, spells, value, rfl, apart⟩ := numberFound read
    refine ⟨b, '-' :: w, blank, by simp [minus], .number (.minus spells value), fun d head => ?_⟩
    exact apart d head
  split at ok
  · obtain ⟨p, read, same⟩ := mapFound ok
    cases same
    obtain ⟨w, l, spells, value, same, apart⟩ := numberFound read
    rw [same]
    exact ⟨b, w, blank, by simp, .number (.plain spells value), apart⟩
  split at ok
  · rename_i bracket
    split at ok
    · contradiction
    rename_i m
    obtain ⟨b', blank', gap⟩ := blankFound r
    split at ok
    · rename_i tail close
      cases Except.ok.inj ok
      rw [gap, close, bracket]
      exact ⟨b, _, blank, by simp, .emptyList blank', trivial⟩
    · obtain ⟨p, read, same⟩ := mapFound ok
      cases same
      obtain ⟨first, more, spaced, written, same, values⟩ := itemsFound (inner m rfl) read
      rw [same, values, bracket]
      exact ⟨b, _, blank, by simp, .list spaced written, trivial⟩
  split at ok
  · rename_i brace
    split at ok
    · contradiction
    rename_i m
    obtain ⟨b', blank', gap⟩ := blankFound r
    split at ok
    · rename_i tail close
      cases Except.ok.inj ok
      rw [gap, close, brace]
      exact ⟨b, _, blank, by simp, .emptyObject blank', trivial⟩
    · obtain ⟨p, read, same⟩ := mapFound ok
      cases same
      obtain ⟨first, more, spaced, names, written, same, entries⟩ := membersFound (inner m rfl) read
      rw [same, entries, brace]
      exact ⟨b, _, blank, by simp, .object spaced names written, trivial⟩
  · contradiction

theorem valueFound {n : Nat} {s rest : List Char} {v : Value}
    (ok : value .keep n s = .ok (v, rest)) : Begins n s v rest := by
  induction n generalizing s v rest with
  | zero => exact valueOver (fun m none => absurd none (Nat.succ_ne_zero m).symm) ok
  | succ n ih =>
    refine valueOver (fun m same _ _ _ read => ?_) ok
    cases same
    exact ih read

/-! ### What is written is read -/

theorem digitSolid {c : Char} (digit : c.isDigit = true) : isBlank c = false ∧ c ≠ ']' ∧ c ≠ 'n' ∧
    c ≠ 't' ∧ c ≠ 'f' ∧ c ≠ '"' ∧ c ≠ '-' := by
  have other {d : Char} (plain : d.isDigit = false) : c ≠ d := by
    rintro rfl
    rw [digit] at plain
    contradiction
  have solid : isBlank c = false := by
    simp [isBlank, other (d := ' ') rfl, other (d := '\n') rfl, other (d := '\t') rfl,
      other (d := '\r') rfl]
  exact ⟨solid, other rfl, other rfl, other rfl, other rfl, other rfl, other rfl⟩

theorem spellsHead {w : List Char} {l : Literal} (spells : Spells w l) :
    ∃ c tail, w = c :: tail ∧ c.isDigit = true := by
  obtain ⟨p, q, rfl, _, _⟩ := spells.parts
  obtain ⟨c, tail, whole⟩ := List.exists_cons_of_ne_nil spells.whole.some
  refine ⟨c, tail ++ p ++ q, by rw [whole]; rfl, spells.whole.all c ?_⟩
  rw [whole]
  exact List.mem_cons_self

theorem writtenHead {n : Nat} {w : List Char} {v : Value} (written : Written n w v) :
    ∃ c tail, w = c :: tail ∧ isBlank c = false ∧ c ≠ ']' := by
  cases written with
  | null => exact ⟨'n', _, rfl, by decide, by decide⟩
  | yes => exact ⟨'t', _, rfl, by decide, by decide⟩
  | no => exact ⟨'f', _, rfl, by decide, by decide⟩
  | text quoted =>
    obtain ⟨body, rfl, _⟩ := quoted
    exact ⟨'"', _, rfl, by decide, by decide⟩
  | number numeral =>
    cases numeral with
    | plain spells =>
      obtain ⟨c, tail, rfl, digit⟩ := spellsHead spells
      exact ⟨c, tail, rfl, (digitSolid digit).1, (digitSolid digit).2.1⟩
    | minus => exact ⟨'-', _, rfl, by decide, by decide⟩
  | emptyList => exact ⟨'[', _, rfl, by decide, by decide⟩
  | list => exact ⟨'[', _, rfl, by decide, by decide⟩
  | emptyObject => exact ⟨'\x7b', _, rfl, by decide, by decide⟩
  | object => exact ⟨'\x7b', _, rfl, by decide, by decide⟩

/- A numeral ends at a blank and at what closes or goes on inside a list or an object. -/
theorem numeralStops {w : List Char} {c : Char}
    (stop : isBlank c = true ∨ c = ',' ∨ c = ']' ∨ c = '\x7d') : goesOn w c = false := by
  have plain : c.isDigit = false ∧ isPower c = false ∧ c ≠ '.' := by
    simp only [isBlank, Bool.or_eq_true, decide_eq_true_eq] at stop
    rcases stop with (((rfl | rfl) | rfl) | rfl) | rfl | rfl | rfl <;> decide
  simp [goesOn, plain]

theorem endedAt {v : Value} {w rest : List Char}
    (stop : ∀ c ∈ rest.head?, isBlank c = true ∨ c = ',' ∨ c = ']' ∨ c = '\x7d') :
    Ended v w rest := by
  cases v with
  | number k => exact fun c head => numeralStops (stop c head)
  | _ => trivial

/- Behind a value inside a list or an object stands a blank, a comma or the end. -/
theorem endedBefore {v : Value} {w a : List Char} (blank : Blank a) {c : Char} (rest : List Char)
    (ends : c = ',' ∨ c = ']' ∨ c = '\x7d') : Ended v w (a ++ c :: rest) := by
  refine endedAt fun d head => ?_
  cases a with
  | nil =>
    cases head
    exact .inr ends
  | cons e a =>
    cases head
    exact .inl (blank d List.mem_cons_self)

theorem endedBlank {v : Value} {w a : List Char} (blank : Blank a) : Ended v w a :=
  endedAt fun _ head => .inl (blank _ (List.mem_of_mem_head? head))

theorem joinedWith (p : List Char) (parts : List (List Char)) :
    ∃ more, commaJoined (p :: parts) = p ++ more := by
  cases parts with
  | nil => exact ⟨[], (List.append_nil p).symm⟩
  | cons q parts => exact ⟨',' :: commaJoined (q :: parts), rfl⟩

/- The item reader on the text of one item, whatever follows that shows its end. -/
theorem itemsRead {item : List Char → Except Fault (Value × List Char)} {first : Item}
    {more : List Item} {fuel : Nat} (spaced : ∀ i ∈ first :: more, i.Spaced)
    (each : ∀ i ∈ first :: more, ∀ rest, Ended i.value i.word rest →
      item (i.before ++ i.word ++ rest) = .ok (i.value, rest))
    (room : more.length < fuel) (rest : List Char) :
    items item fuel (commaJoined ((first :: more).map Item.text) ++ ']' :: rest) =
      .ok ((first :: more).map Item.value, rest) := by
  induction more generalizing first fuel with
  | nil =>
    obtain ⟨fuel, rfl⟩ := Nat.exists_eq_succ_of_ne_zero (Nat.ne_zero_of_lt room)
    have blank := (spaced first List.mem_cons_self).after
    have read := each first List.mem_cons_self _ (endedBefore blank rest (.inr (.inl rfl)))
    simp only [List.map_cons, List.map_nil, commaJoined, Item.text, List.append_assoc] at read ⊢
    simp only [items, read, bind, Except.bind, skipBlankOver blank (by decide : isBlank ']' = false),
      if_true]
  | cons second more ih =>
    obtain ⟨fuel, rfl⟩ := Nat.exists_eq_succ_of_ne_zero (Nat.ne_zero_of_lt room)
    have blank := (spaced first List.mem_cons_self).after
    have other : (',' : Char) ≠ ']' := by decide
    have read := each first List.mem_cons_self _ (endedBefore blank
      (commaJoined ((second :: more).map Item.text) ++ ']' :: rest) (.inl rfl))
    have later := ih (fun i member => spaced i (List.mem_cons_of_mem _ member))
      (fun i member => each i (List.mem_cons_of_mem _ member)) (Nat.lt_of_succ_lt_succ room)
    simp only [List.map_cons, commaJoined, Item.text, List.append_assoc, List.cons_append] at read later ⊢
    simp only [items, read, bind, Except.bind, skipBlankOver blank (by decide : isBlank ',' = false),
      if_neg other, if_true, later]

theorem memberNameRead {b w : List Char} {key : String} (blank : Blank b) (quoted : Quoted w key)
    (rest : List Char) : memberName .keep (b ++ (w ++ rest)) = .ok (key, rest) := by
  obtain ⟨body, rfl, spelled⟩ := quoted
  have next : skipBlank (b ++ ('"' :: body ++ ['"'] ++ rest)) = '"' :: (body ++ '"' :: rest) := by
    simp only [List.cons_append, List.append_assoc, List.nil_append]
    exact skipBlankOver blank (by decide) _
  simp only [memberName, next, if_true, textRead spelled, bind, Except.bind]

theorem membersRead {item : List Char → Except Fault (Value × List Char)} {first : Member}
    {more : List Member} {fuel : Nat} (spaced : ∀ m ∈ first :: more, m.Spaced)
    (names : ∀ m ∈ first :: more, Quoted m.name m.key)
    (each : ∀ m ∈ first :: more, ∀ rest, Ended m.item.value m.item.word rest →
      item (m.item.before ++ m.item.word ++ rest) = .ok (m.item.value, rest))
    (room : more.length < fuel) (rest : List Char) :
    members .keep item fuel (commaJoined ((first :: more).map Member.text) ++ '\x7d' :: rest) =
      .ok ((first :: more).map Member.entry, rest) := by
  have colon : isBlank ':' = false := by decide
  induction more generalizing first fuel with
  | nil =>
    obtain ⟨fuel, rfl⟩ := Nat.exists_eq_succ_of_ne_zero (Nat.ne_zero_of_lt room)
    obtain ⟨blank, blank', ⟨-, blank₂⟩⟩ := spaced first List.mem_cons_self
    have quoted := names first List.mem_cons_self
    have read := each first List.mem_cons_self _ (endedBefore blank₂ rest (.inr (.inr rfl)))
    simp only [List.map_cons, List.map_nil, commaJoined, Member.text, Item.text, List.append_assoc,
      List.cons_append] at read ⊢
    simp only [members, memberNameRead blank quoted, skipBlankOver blank' colon, expect, if_true,
      read, bind, Except.bind, skipBlankOver blank₂ (by decide : isBlank '\x7d' = false),
      Member.entry]
  | cons second more ih =>
    obtain ⟨fuel, rfl⟩ := Nat.exists_eq_succ_of_ne_zero (Nat.ne_zero_of_lt room)
    obtain ⟨blank, blank', ⟨-, blank₂⟩⟩ := spaced first List.mem_cons_self
    have quoted := names first List.mem_cons_self
    have other : (',' : Char) ≠ '\x7d' := by decide
    have read := each first List.mem_cons_self _ (endedBefore blank₂
      (commaJoined ((second :: more).map Member.text) ++ '\x7d' :: rest) (.inl rfl))
    have later := ih (fun m member => spaced m (List.mem_cons_of_mem _ member))
      (fun m member => names m (List.mem_cons_of_mem _ member))
      (fun m member => each m (List.mem_cons_of_mem _ member)) (Nat.lt_of_succ_lt_succ room)
    simp only [List.map_cons, commaJoined, Member.text, Item.text, List.append_assoc,
      List.cons_append] at read later ⊢
    simp only [members, memberNameRead blank quoted, skipBlankOver blank' colon, expect, if_true,
      read, bind, Except.bind, skipBlankOver blank₂ (by decide : isBlank ',' = false), if_neg other,
      later, Member.entry]

theorem valueSolid {n : Nat} {b : List Char} (blank : Blank b) {c : Char}
    (solid : isBlank c = false) (s : List Char) :
    value .keep n (b ++ c :: s) = value .keep n (c :: s) := by
  unfold value
  rw [skipBlankOver blank solid, skipBlankAt solid]

theorem valueNumeral {n : Nat} {w rest : List Char} {k : Number} (numeral : Numeral w k)
    (apart : Apart w rest) : value .keep n (w ++ rest) = .ok (.number k, rest) := by
  cases numeral with
  | minus spells value =>
    have solid := skipBlankAt (c := '-') (by decide)
    have read := numberRead true spells value apart
    unfold Json.value
    simp only [List.cons_append, solid, Char.reduceEq, if_false, if_true, read, Except.map]
  | plain spells value =>
    have read := numberRead false spells value apart
    obtain ⟨c, tail, rfl, digit⟩ := spellsHead spells
    obtain ⟨solid, -, n', t, f, quote, minus⟩ := digitSolid digit
    unfold Json.value
    simp only [List.cons_append] at read ⊢
    simp only [skipBlankAt solid, if_neg n', if_neg t, if_neg f, if_neg quote, if_neg minus,
      digit, if_true, read, Except.map]

/- Blanks before a value do not count. -/
theorem valueBehind {n : Nat} {w : List Char} {v : Value} (written : Written n w v) {b : List Char}
    (blank : Blank b) (rest : List Char) :
    value .keep n (b ++ w ++ rest) = value .keep n (w ++ rest) := by
  obtain ⟨c, tail, rfl, solid, -⟩ := writtenHead written
  rw [List.append_assoc, List.cons_append, valueSolid blank solid]

/- The first item does not close the list, and the first member not the object. -/
theorem itemAhead {n : Nat} {first : Item} (spaced : first.Spaced)
    (written : Written n first.word first.value) (more : List Item) (rest : List Char) :
    ∃ c tail, skipBlank (commaJoined ((first :: more).map Item.text) ++ rest) = c :: tail ∧
      c ≠ ']' := by
  obtain ⟨c, tail, head, solid, other⟩ := writtenHead written
  obtain ⟨behind, joined⟩ := joinedWith first.text (more.map Item.text)
  refine ⟨c, tail ++ (first.after ++ (behind ++ rest)), ?_, other⟩
  rw [List.map_cons, joined, Item.text, head]
  simp only [List.append_assoc, List.cons_append]
  exact skipBlankOver spaced.before solid _

theorem memberAhead {first : Member} (spaced : first.Spaced) (quoted : Quoted first.name first.key)
    (more : List Member) (rest : List Char) :
    ∃ tail, skipBlank (commaJoined ((first :: more).map Member.text) ++ rest) = '"' :: tail := by
  obtain ⟨body, name, -⟩ := quoted
  obtain ⟨behind, joined⟩ := joinedWith first.text (more.map Member.text)
  refine ⟨body ++ '"' :: (first.after ++ ':' :: (first.item.text ++ (behind ++ rest))), ?_⟩
  rw [List.map_cons, joined, Member.text, name]
  simp only [List.append_assoc, List.cons_append, List.nil_append]
  exact skipBlankOver spaced.before (by decide) _

theorem valueRead {n : Nat} {w : List Char} {v : Value} (written : Written n w v)
    {rest : List Char} (ended : Ended v w rest) : value .keep n (w ++ rest) = .ok (v, rest) := by
  have bracket := skipBlankAt (c := '[') (by decide)
  have brace := skipBlankAt (c := '\x7b') (by decide)
  induction written generalizing rest with
  | null n =>
    unfold value
    rfl
  | yes n =>
    unfold value
    rfl
  | no n =>
    unfold value
    rfl
  | text quoted =>
    obtain ⟨body, rfl, spelled⟩ := quoted
    have quote := skipBlankAt (c := '"') (by decide)
    simp only [List.cons_append, List.append_assoc, List.nil_append]
    unfold value
    simp only [quote, textRead spelled, Char.reduceEq, if_false, if_true, Except.map]
  | number numeral => exact valueNumeral numeral ended
  | emptyList gap =>
    simp only [List.cons_append, List.append_assoc, List.nil_append]
    unfold value
    simp only [bracket, Char.reduceEq, Char.reduceIsDigit, Bool.false_eq_true, if_false, if_true,
      skipBlankOver gap (by decide : isBlank ']' = false)]
  | @list n first more spaced inner ih =>
    have long := joinedLength ((first :: more).map Item.text) (']' :: rest)
    rw [List.length_map, List.length_cons] at long
    have each : ∀ i ∈ first :: more, ∀ rest, Ended i.value i.word rest →
        value .keep n (i.before ++ i.word ++ rest) = .ok (i.value, rest) := by
      intro i member rest ended
      rw [valueBehind (inner i member) (spaced i member).before]
      exact ih i member ended
    have read := itemsRead spaced each (Nat.lt_of_succ_lt_succ long) rest
    obtain ⟨c, tail, next, other⟩ := itemAhead (spaced first List.mem_cons_self)
      (inner first List.mem_cons_self) more (']' :: rest)
    simp only [List.cons_append, List.append_assoc, List.nil_append]
    unfold value
    simp only [bracket, Char.reduceEq, Char.reduceIsDigit, Bool.false_eq_true, if_false, if_true,
      next, read]
    split
    · rename_i same
      exact absurd (List.cons.inj same).1 other
    · rfl
  | emptyObject gap =>
    simp only [List.cons_append, List.append_assoc, List.nil_append]
    unfold value
    simp only [brace, Char.reduceEq, Char.reduceIsDigit, Bool.false_eq_true, if_false, if_true,
      skipBlankOver gap (by decide : isBlank '\x7d' = false)]
  | @object n first more spaced names inner ih =>
    have long := joinedLength ((first :: more).map Member.text) ('\x7d' :: rest)
    rw [List.length_map, List.length_cons] at long
    have each : ∀ m ∈ first :: more, ∀ rest, Ended m.item.value m.item.word rest →
        value .keep n (m.item.before ++ m.item.word ++ rest) = .ok (m.item.value, rest) := by
      intro m member rest ended
      rw [valueBehind (inner m member) (spaced m member).item.before]
      exact ih m member ended
    have read := membersRead spaced names each (Nat.lt_of_succ_lt_succ long) rest
    obtain ⟨tail, next⟩ := memberAhead (spaced first List.mem_cons_self)
      (names first List.mem_cons_self) more ('\x7d' :: rest)
    simp only [List.cons_append, List.append_assoc, List.nil_append]
    unfold value
    simp only [brace, Char.reduceEq, Char.reduceIsDigit, Bool.false_eq_true, if_false, if_true,
      next, read]
    rfl

/- Reading takes exactly what begins with the text of a value. -/
theorem readIffBegins {n : Nat} {s rest : List Char} {v : Value} :
    value .keep n s = .ok (v, rest) ↔ Begins n s v rest := by
  refine ⟨valueFound, ?_⟩
  rintro ⟨b, w, blank, rfl, written, ended⟩
  rw [valueBehind written blank]
  exact valueRead written ended

/-! ### What fails -/

/- A failure is one of the text. -/
def Textual {α : Type} (x : Except Fault α) : Prop := x ≠ .error .mismatch

@[simp]
theorem okTextual {α : Type} (a : α) : Textual (.ok a) := by simp [Textual]

@[simp]
theorem errorTextual {α : Type} {f : Fault} :
    Textual (.error f : Except Fault α) ↔ f ≠ .mismatch := by simp [Textual]

theorem textualBind {α β : Type} {x : Except Fault α} {f : α → Except Fault β} (first : Textual x)
    (next : ∀ a, Textual (f a)) : Textual (x >>= f) := by
  cases x with
  | error g => exact errorTextual.mpr (errorTextual.mp first)
  | ok a => exact next a

theorem textualMap {α β : Type} {x : Except Fault α} (f : α → β) (first : Textual x) :
    Textual (x.map f) := by
  cases x with
  | error g => exact errorTextual.mpr (errorTextual.mp first)
  | ok a => exact okTextual (f a)

theorem wordTextual (w s : List Char) : Textual (word w s) := by
  induction w generalizing s with
  | nil => simp [word]
  | cons c w ih =>
    cases s with
    | nil => simp [word]
    | cons d s =>
      unfold word
      split
      · exact ih s
      · simp

theorem expectTextual (c : Char) (s : List Char) : Textual (expect c s) := by
  unfold expect
  repeat' split
  all_goals simp

theorem hexUnitTextual (s : List Char) : Textual (hexUnit s) := by
  unfold hexUnit
  repeat' split
  all_goals simp

theorem codePointTextual (s : List Char) : Textual (codePoint s) := by
  refine textualBind (hexUnitTextual s) fun unit => ?_
  dsimp only
  split
  · simp
  split
  · refine textualBind (expectTextual _ _) fun rest => textualBind (expectTextual _ _) fun rest =>
      textualBind (hexUnitTextual rest) fun low => ?_
    split <;> simp
  · simp

theorem escapeTextual (s : List Char) : Textual (escape .keep s) := by
  unfold escape
  split
  case h_10 rest => exact codePointTextual rest
  all_goals simp

theorem textTextual (s : List Char) : Textual (text .keep s) := by
  have body (fuel : Nat) (s : List Char) : Textual (textBody .keep fuel s) := by
    induction fuel generalizing s with
    | zero => simp [textBody]
    | succ fuel ih =>
      cases s with
      | nil => simp [textBody]
      | cons c s =>
        unfold textBody
        split
        · simp
        split
        · exact textualBind (escapeTextual s) fun e => textualBind (ih e.2) fun _ => okTextual _
        split
        · simp
        · exact textualBind (ih s) fun _ => okTextual _
  exact textualMap _ (body _ s)

theorem stoppedTextual {α : Type} (rest : List Char) :
    Textual (.error (stopped .keep rest) : Except Fault α) := by
  unfold stopped
  split <;> simp

theorem placesTextual (s : List Char) : Textual (places .keep s) := by
  unfold places
  split
  · dsimp only
    split
    · exact stoppedTextual _
    · simp
  · simp

theorem powerTextual (s : List Char) : Textual (power .keep s) := by
  unfold power
  split
  · split
    · dsimp only
      split
      · exact stoppedTextual _
      · simp
    · simp
  · simp

theorem numberTextual (negative : Bool) (s : List Char) : Textual (number .keep negative s) := by
  have parts : Textual (literal .keep s) := by
    unfold literal
    dsimp only
    split
    · exact stoppedTextual _
    split
    · simp
    · exact textualBind (placesTextual _) fun p => textualBind (powerTextual p.2) fun _ => okTextual _
  refine textualBind parts fun l => ?_
  dsimp only
  split <;> simp

section
variable {item : List Char → Except Fault (Value × List Char)}

theorem itemsTextual (each : ∀ s, Textual (item s)) (fuel : Nat) (s : List Char) :
    Textual (items item fuel s) := by
  induction fuel generalizing s with
  | zero => simp [items]
  | succ fuel ih =>
    refine textualBind (each s) fun v => ?_
    dsimp only
    split
    · simp
    split
    · simp
    split
    · exact textualBind (ih _) fun _ => okTextual _
    · simp

theorem memberNameTextual (s : List Char) : Textual (memberName .keep s) := by
  unfold memberName
  split
  · simp
  split
  · exact textualBind (textTextual _) fun _ => okTextual _
  · simp

theorem membersTextual (each : ∀ s, Textual (item s)) (fuel : Nat) (s : List Char) :
    Textual (members .keep item fuel s) := by
  induction fuel generalizing s with
  | zero => simp [members]
  | succ fuel ih =>
    refine textualBind (memberNameTextual s) fun name => textualBind (expectTextual _ _) fun rest =>
      textualBind (each rest) fun v => ?_
    dsimp only
    split
    · simp
    split
    · simp
    split
    · exact textualBind (ih _) fun _ => okTextual _
    · simp

end

theorem valueOverTextual {n : Nat}
    (inner : ∀ m, n = m + 1 → ∀ s, Textual (value .keep m s)) (s : List Char) :
    Textual (value .keep n s) := by
  unfold value
  split
  · simp
  split
  · exact textualMap _ (wordTextual _ _)
  split
  · exact textualMap _ (wordTextual _ _)
  split
  · exact textualMap _ (wordTextual _ _)
  split
  · exact textualMap _ (textTextual _)
  split
  · exact textualMap _ (numberTextual _ _)
  split
  · exact textualMap _ (numberTextual _ _)
  split
  · split
    · simp
    split
    · simp
    · exact textualMap _ (itemsTextual (inner _ rfl) _ _)
  split
  · split
    · simp
    split
    · simp
    · exact textualMap _ (membersTextual (inner _ rfl) _ _)
  · simp

theorem valueTextual (n : Nat) (s : List Char) : Textual (value .keep n s) := by
  induction n generalizing s with
  | zero => exact valueOverTextual (fun m none => absurd none (Nat.succ_ne_zero m).symm) s
  | succ n ih =>
    refine valueOverTextual (fun m same s => ?_) s
    cases same
    exact ih s

end TagListing.Json
