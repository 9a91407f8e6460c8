import TagListing.Json.Printer
import TagListing.Json.Reader

/-! Reading back what is printed. Values made of words, texts, lists and objects come back as they
were, whatever follows them, as long as they are not nested too deep. Numbers are not claimed, nor
texts with blanks between their parts. -/
namespace TagListing.Json
open TagListing.Text (hexDigit hexValue?)

/-! ### Texts -/

theorem hexValueDigit (n : Nat) : hexValue? (hexDigit n) = some (n % 16) := by
  have each : ∀ k < 16, hexValue? (Nat.digitChar k) = some k := by decide
  exact each _ (Nat.mod_lt _ (by decide))

theorem hexUnitPrinted {n : Nat} (small : n < 32) (rest : List Char) :
    hexUnit ('0' :: '0' :: hexDigit (n / 16) :: hexDigit n :: rest) = .ok (n, rest) := by
  have enough :
      fewerThanFourBytes ('0' :: '0' :: hexDigit (n / 16) :: hexDigit n :: rest) = false := by
    have first := Char.utf8Size_pos (hexDigit (n / 16))
    have second := Char.utf8Size_pos (hexDigit n)
    have zero : Char.utf8Size '0' = 1 := rfl
    simp only [fewerThanFourBytes, List.take, List.foldl, zero, decide_eq_false_iff_not]
    omega
  have zero : hexValue? '0' = some 0 := by decide
  simp only [hexUnit, enough, zero, hexValueDigit]
  have value : ((0 * 16 + 0) * 16 + n / 16 % 16) * 16 + n % 16 = n := by omega
  simp only [value]
  rfl

theorem codePointPrinted {c : Char} (control : c.toNat < 32) (rest : List Char) :
    codePoint ('0' :: '0' :: hexDigit (c.toNat / 16) :: hexDigit c.toNat :: rest) =
      .ok (c, rest) := by
  simp only [codePoint, hexUnitPrinted control, bind, Except.bind]
  rw [if_neg (by omega), if_neg (by omega), Char.ofNat_toNat]

theorem textBodyEscaped (c : Char) (fuel : Nat) (s : List Char) :
    textBody .keep (fuel + 1) (escapeChar c ++ s) =
      (textBody .keep fuel s).map fun p => (c :: p.1, p.2) := by
  have quoted : '\\' ≠ '"' := by decide
  have escaped {written : List Char} (read : escape .keep written = .ok (c, s)) :
      textBody .keep (fuel + 1) ('\\' :: written) =
        (textBody .keep fuel s).map fun p => (c :: p.1, p.2) := by
    simp only [textBody, if_neg quoted, ↓reduceIte, read, bind, Except.bind]
    cases textBody .keep fuel s <;> rfl
  unfold escapeChar
  split
  · rename_i same; subst same; exact escaped rfl
  split
  · rename_i same; subst same; exact escaped rfl
  split
  · rename_i same; subst same; exact escaped rfl
  split
  · rename_i same; subst same; exact escaped rfl
  split
  · rename_i same; subst same; exact escaped rfl
  split
  · rename_i same; subst same; exact escaped rfl
  split
  · rename_i same; subst same; exact escaped rfl
  split
  · rename_i control
    exact escaped (codePointPrinted control s)
  · rename_i quote backslash _ _ _ _ _ printable
    simp only [List.cons_append, List.nil_append, textBody, if_neg quote, if_neg backslash,
      if_neg printable]
    cases textBody .keep fuel s <;> rfl

theorem textBodyPrinted (cs : List Char) {fuel : Nat} (room : cs.length < fuel)
    (rest : List Char) :
    textBody .keep fuel (cs.flatMap escapeChar ++ '"' :: rest) = .ok (cs, rest) := by
  induction cs generalizing fuel with
  | nil =>
    obtain ⟨fuel, rfl⟩ := Nat.exists_eq_succ_of_ne_zero (Nat.ne_zero_of_lt room)
    rfl
  | cons c cs ih =>
    obtain ⟨fuel, rfl⟩ := Nat.exists_eq_succ_of_ne_zero (Nat.ne_zero_of_lt room)
    rw [List.flatMap_cons, List.append_assoc, textBodyEscaped,
      ih (Nat.lt_of_succ_lt_succ room)]
    rfl

theorem escapedLength (cs : List Char) : cs.length ≤ (cs.flatMap escapeChar).length := by
  induction cs with
  | nil => exact Nat.le_refl _
  | cons c cs ih =>
    have one : 1 ≤ (escapeChar c).length := by
      unfold escapeChar
      repeat' split
      all_goals simp
    rw [List.flatMap_cons, List.length_append, List.length_cons]
    omega

theorem textPrinted (s : String) (rest : List Char) :
    text .keep (s.toList.flatMap escapeChar ++ '"' :: rest) = .ok (s, rest) := by
  have long := escapedLength s.toList
  have room : s.toList.length < (s.toList.flatMap escapeChar ++ '"' :: rest).length + 1 := by
    rw [List.length_append]
    omega
  rw [text, textBodyPrinted s.toList room]
  exact congrArg (fun t => Except.ok (t, rest)) String.ofList_toList

/-! ### Values -/

theorem skipBlankAt {c : Char} (solid : isBlank c = false) (s : List Char) :
    skipBlank (c :: s) = c :: s := by
  rw [skipBlank, List.dropWhile_cons_of_neg]
  rw [solid]
  exact Bool.false_ne_true

/- A value without numbers, and a bound on the lists and objects around its innermost one. -/
inductive Value.Plain : Nat → Value → Prop where
  | null (n) : Plain n .null
  | bool (n b) : Plain n (.bool b)
  | text (n s) : Plain n (.text s)
  | list {n items} (inner : ∀ v ∈ items, Plain n v) : Plain (n + 1) (.list items)
  | object {n ms} (inner : ∀ m ∈ ms, Plain n m.2) : Plain (n + 1) (.object ms)

theorem onlyPlain {n : Nat} {v : Value} (inner : v.Plain n) (name : String) :
    Value.Plain (n + 1) (.object [(name, v)]) := by
  refine .object fun m member => ?_
  cases List.mem_singleton.mp member
  exact inner

theorem printedHead {n : Nat} {v : Value} (plain : v.Plain n) :
    ∃ c tail, printValue v = c :: tail ∧ isBlank c = false ∧ c ≠ ']' := by
  cases plain with
  | null => exact ⟨'n', _, rfl, by decide, by decide⟩
  | bool n b =>
    cases b with
    | true => exact ⟨'t', _, rfl, by decide, by decide⟩
    | false => exact ⟨'f', _, rfl, by decide, by decide⟩
  | text n s => exact ⟨'"', _, rfl, by decide, by decide⟩
  | list inner => exact ⟨'[', _, rfl, by decide, by decide⟩
  | object inner => exact ⟨'\x7b', _, rfl, by decide, by decide⟩

theorem joinedLength (parts : List (List Char)) (rest : List Char) :
    parts.length < (commaJoined parts ++ rest).length + 2 := by
  rw [List.length_append]
  induction parts with
  | nil => exact Nat.zero_lt_succ _
  | cons p parts ih =>
    cases parts with
    | nil => exact Nat.lt_add_left _ (Nat.lt_succ_self 1)
    | cons q parts =>
      simp only [commaJoined, List.length_append, List.length_cons] at ih ⊢
      omega

theorem printItemsLength (vs : List Value) : (printItems vs).length = vs.length := by
  induction vs with
  | nil => rfl
  | cons v vs ih => rw [printItems, List.length_cons, List.length_cons, ih]

theorem printMembersLength (ms : List (String × Value)) :
    (printMembers ms).length = ms.length := by
  induction ms with
  | nil => rfl
  | cons m ms ih => rw [printMembers, List.length_cons, List.length_cons, ih]

theorem printMemberHead (m : String × Value) : printText m.1 ++ ':' :: printValue m.2 =
    '"' :: ((m.1.toList.flatMap escapeChar ++ ['"']) ++ ':' :: printValue m.2) := rfl

theorem memberNamePrinted (s : String) (rest : List Char) :
    memberName .keep (printText s ++ rest) = .ok (s, rest) := by
  have quote := skipBlankAt (c := '"') (by decide)
  simp only [printText, List.append_assoc, List.cons_append, List.nil_append, memberName, quote,
    ↓reduceIte, textPrinted, bind, Except.bind]

theorem wantedTextPrinted (s : String) (rest : List Char) :
    wantedText (printText s ++ rest) = .ok (s, rest) := by
  have quote := skipBlankAt (c := '"') (by decide)
  simp only [printText, List.append_assoc, List.cons_append, List.nil_append, wantedText, quote,
    textPrinted]

section
variable {item : List Char → Except Fault (Value × List Char)}

theorem itemsPrinted {v : Value} {vs : List Value} {fuel : Nat}
    (each : ∀ u ∈ v :: vs, ∀ rest, item (printValue u ++ rest) = .ok (u, rest))
    (room : vs.length < fuel) (rest : List Char) :
    items item fuel (commaJoined (printItems (v :: vs)) ++ ']' :: rest) = .ok (v :: vs, rest) := by
  induction vs generalizing v fuel with
  | nil =>
    obtain ⟨fuel, rfl⟩ := Nat.exists_eq_succ_of_ne_zero (Nat.ne_zero_of_lt room)
    have first := each v List.mem_cons_self (']' :: rest)
    simp only [printItems, commaJoined, items, first]
    rfl
  | cons u vs ih =>
    obtain ⟨fuel, rfl⟩ := Nat.exists_eq_succ_of_ne_zero (Nat.ne_zero_of_lt room)
    have first := each v List.mem_cons_self
      (',' :: (commaJoined (printItems (u :: vs)) ++ ']' :: rest))
    have later := ih (fun w member => each w (List.mem_cons_of_mem _ member))
      (Nat.lt_of_succ_lt_succ room)
    simp only [printItems, commaJoined, List.append_assoc, List.cons_append] at first later ⊢
    have comma := skipBlankAt (c := ',') (by decide)
    have other : (',' : Char) ≠ ']' := by decide
    simp only [items, first, bind, Except.bind, comma, if_neg other, ↓reduceIte, later]

theorem membersPrinted {m : String × Value} {ms : List (String × Value)} {fuel : Nat}
    (each : ∀ u ∈ m :: ms, ∀ rest, item (printValue u.2 ++ rest) = .ok (u.2, rest))
    (room : ms.length < fuel) (rest : List Char) :
    members .keep item fuel (commaJoined (printMembers (m :: ms)) ++ '\x7d' :: rest) =
      .ok (m :: ms, rest) := by
  have colon := skipBlankAt (c := ':') (by decide)
  induction ms generalizing m fuel with
  | nil =>
    obtain ⟨fuel, rfl⟩ := Nat.exists_eq_succ_of_ne_zero (Nat.ne_zero_of_lt room)
    obtain ⟨key, v⟩ := m
    have brace := skipBlankAt (c := '\x7d') (by decide)
    have first := each (key, v) List.mem_cons_self ('\x7d' :: rest)
    simp only [printMembers, commaJoined, List.append_assoc, List.cons_append, members,
      memberNamePrinted, colon, expect, first, brace, ↓reduceIte, bind, Except.bind]
  | cons u ms ih =>
    obtain ⟨fuel, rfl⟩ := Nat.exists_eq_succ_of_ne_zero (Nat.ne_zero_of_lt room)
    obtain ⟨key, v⟩ := m
    have comma := skipBlankAt (c := ',') (by decide)
    have other : (',' : Char) ≠ '\x7d' := by decide
    have first := each (key, v) List.mem_cons_self
      (',' :: (commaJoined (printMembers (u :: ms)) ++ '\x7d' :: rest))
    have later := ih (fun w member => each w (List.mem_cons_of_mem _ member))
      (Nat.lt_of_succ_lt_succ room)
    simp only [printMembers, commaJoined, List.append_assoc, List.cons_append] at first later ⊢
    simp only [members, memberNamePrinted, colon, expect, first, comma, if_neg other, later,
      ↓reduceIte, bind, Except.bind]

end

theorem joinedHead {part tail : List Char} {c : Char} (head : part = c :: tail)
    (parts : List (List Char)) : ∃ more, commaJoined (part :: parts) = c :: more := by
  cases parts with
  | nil => exact ⟨tail, head⟩
  | cons q rest => exact ⟨tail ++ ',' :: commaJoined (q :: rest), by rw [commaJoined, head]; rfl⟩

theorem valuePrinted {n : Nat} {v : Value} (plain : v.Plain n) (rest : List Char) :
    value .keep n (printValue v ++ rest) = .ok (v, rest) := by
  have bracket := skipBlankAt (c := '[') (by decide)
  have brace := skipBlankAt (c := '\x7b') (by decide)
  induction plain generalizing rest with
  | null n => unfold value; rfl
  | bool n b => unfold value; cases b <;> rfl
  | text n s =>
    have quote := skipBlankAt (c := '"') (by decide)
    simp only [printValue, printText, List.append_assoc, List.cons_append, List.nil_append]
    unfold value
    simp only [quote, textPrinted, Char.reduceEq, ↓reduceIte, Except.map]
  | @list n items inner ih =>
    simp only [printValue, List.append_assoc, List.cons_append, List.nil_append]
    unfold value
    simp only [bracket, Char.reduceEq, Char.reduceIsDigit, Bool.false_eq_true, ↓reduceIte]
    cases items with
    | nil => rfl
    | cons v vs =>
      obtain ⟨c, tail, head, solid, other⟩ := printedHead (inner v List.mem_cons_self)
      obtain ⟨more, joined⟩ := joinedHead head (printItems vs)
      have long := joinedLength (printItems (v :: vs)) (']' :: rest)
      rw [printItemsLength, List.length_cons] at long
      have read := itemsPrinted ih (Nat.lt_of_succ_lt_succ long) rest
      simp only [printItems, joined, List.cons_append, skipBlankAt solid] at read ⊢
      split
      · rename_i same
        exact absurd (List.cons.inj same).1 other
      · rw [read]
        rfl
  | @object n ms inner ih =>
    simp only [printValue, List.append_assoc, List.cons_append, List.nil_append]
    unfold value
    simp only [brace, Char.reduceEq, Char.reduceIsDigit, Bool.false_eq_true, ↓reduceIte]
    cases ms with
    | nil => rfl
    | cons m ms =>
      obtain ⟨more, joined⟩ := joinedHead (printMemberHead m) (printMembers ms)
      have long := joinedLength (printMembers (m :: ms)) ('\x7d' :: rest)
      rw [printMembersLength, List.length_cons] at long
      have read := membersPrinted ih (Nat.lt_of_succ_lt_succ long) rest
      have quote := skipBlankAt (c := '"') (by decide)
      simp only [printMembers, joined, List.cons_append, quote] at read ⊢
      split
      · rename_i same
        exact absurd (List.cons.inj same).1 (by decide)
      · rw [read]
        rfl

theorem readPrinted {v : Value} (plain : v.Plain nestingLimit) : read (printValue v) = .ok v := by
  have whole := valuePrinted plain []
  rw [List.append_nil] at whole
  simp only [read, whole]
  rfl

end TagListing.Json
