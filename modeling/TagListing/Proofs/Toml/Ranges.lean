import TagListing.Toml.Document

/-! Whole numbers of a TOML document fit 64 bits, at every depth. What number a text stands for is
not claimed. -/
namespace TagListing.Toml
open Numeric (fitsInt64)

/-! ### Numbers -/

inductive Value.Fits : Value → Prop where
  | text (s) : Fits (.text s)
  | int {i} (fits : fitsInt64 i = true) : Fits (.int i)
  | float (x) : Fits (.float x)
  | bool (b) : Fits (.bool b)
  | moment (s) : Fits (.moment s)
  | list {items} (inner : ∀ v ∈ items, Fits v) : Fits (.list items)
  | table {isOpen es} (inner : ∀ e ∈ es, Fits e.2) : Fits (.table isOpen es)

def EntriesFit (es : Entries) : Prop := ∀ e ∈ es, e.2.Fits

theorem emptyFits : EntriesFit [] := by simp [EntriesFit]

theorem integerFits {radix : Nat} {s : List Char} {v : Value}
    (ok : readInteger radix s = some v) : v.Fits := by
  simp only [readInteger, bind, Option.bind_eq_some_iff] at ok
  obtain ⟨⟨negative, digits, rest⟩, _, last⟩ := ok
  dsimp only at last
  generalize (if negative then _ else _ : Int) = i at last
  split at last
  · rename_i good
    cases Option.some.inj last
    exact .int good.2
  · contradiction

theorem finiteFits {negative : Bool} {whole places : List Char} {power : Int} {v : Value}
    (ok : finiteFloat negative whole places power = some v) : v.Fits := by
  unfold finiteFloat at ok
  dsimp only at ok
  split at ok
  · cases Option.some.inj ok
    exact .float _
  · contradiction

theorem floatFits {s : List Char} {places : Option (List Char)} {ts rest : Tokens} {v : Value}
    (ok : readFloat s places ts = some (v, rest)) : v.Fits := by
  simp only [readFloat, bind, Option.bind_eq_some_iff] at ok
  obtain ⟨⟨negative, whole, suffix⟩, _, ok⟩ := ok
  have power {digits suffix : List Char} (ok : ((readFloatPower suffix ts).bind fun p =>
      (finiteFloat negative whole digits p.1).bind fun x => some (x, p.2)) = some (v, rest)) :
      v.Fits := by
    simp only [Option.bind_eq_some_iff] at ok
    obtain ⟨p, _, x, value, last⟩ := ok
    cases Option.some.inj last
    exact finiteFits value
  cases places with
  | none => exact power ok
  | some after =>
    dsimp only at ok
    split at ok
    · obtain ⟨digits, _, ok⟩ := Option.bind_eq_some_iff.mp ok
      exact power ok
    · contradiction

theorem momentFits {start : List Char} {taken : Bool} {ts rest : Tokens} {v : Value}
    (ok : readMoment start taken ts = some (v, rest)) : v.Fits := by
  have spelled {text : List Char} {ts : Tokens} (ok : ((normalMoment text).bind fun s =>
      some (Value.moment s, ts)) = some (v, rest)) : v.Fits := by
    obtain ⟨s, _, last⟩ := Option.bind_eq_some_iff.mp ok
    cases Option.some.inj last
    exact .moment s
  simp only [readMoment, bind] at ok
  split at ok
  · obtain ⟨tail, _, ok⟩ := Option.bind_eq_some_iff.mp ok
    exact spelled ok
  · split at ok
    · obtain ⟨tail, _, ok⟩ := Option.bind_eq_some_iff.mp ok
      exact spelled ok
    · exact spelled ok

theorem numberFits {s : List Char} {ts rest : Tokens} {v : Value}
    (ok : readNumber s ts = some (v, rest)) : v.Fits := by
  have whole {radix : Nat} {digits : List Char}
      (ok : (readInteger radix digits).map (·, ts) = some (v, rest)) : v.Fits := by
    obtain ⟨w, read, same⟩ := Option.map_eq_some_iff.mp ok
    cases same
    exact integerFits read
  unfold readNumber at ok
  split at ok
  · exact whole ok
  · exact whole ok
  · exact whole ok
  · split at ok
    · exact floatFits ok
    · split at ok
      · simp only [bind, Option.bind_eq_some_iff] at ok
        obtain ⟨⟨after, ts'⟩, _, read⟩ := ok
        exact floatFits read
      · split at ok
        · cases Option.some.inj ok; exact .float _
        · split at ok
          · cases Option.some.inj ok; exact .float _
          · split at ok
            · cases Option.some.inj ok; exact .float _
            · exact whole ok

theorem wordFits {s : List Char} {ts rest : Tokens} {v : Value}
    (ok : readWordValue s ts = some (v, rest)) : v.Fits := by
  unfold readWordValue at ok
  split at ok
  · cases Option.some.inj ok; exact .bool true
  · split at ok
    · cases Option.some.inj ok; exact .bool false
    · split at ok
      · split at ok
        · exact momentFits ok
        · split at ok
          · exact momentFits ok
          · exact numberFits ok
      · contradiction

section
variable {item : Tokens → Option (Value × Tokens)}

theorem itemsFit (each : ∀ ts v rest, item ts = some (v, rest) → v.Fits) {fuel : Nat}
    {ts rest : Tokens} {items : List Value} (ok : readItems item fuel ts = some (items, rest)) :
    ∀ v ∈ items, v.Fits := by
  induction fuel generalizing ts items rest with
  | zero => contradiction
  | succ fuel ih =>
    simp only [readItems, bind, Option.bind_eq_some_iff] at ok
    obtain ⟨ts, _, ok⟩ := ok
    split at ok
    · cases Option.some.inj ok
      simp
    · simp only [Option.bind_eq_some_iff] at ok
      obtain ⟨⟨v, ts'⟩, first, ts'', _, ok⟩ := ok
      have fits := each _ _ _ first
      dsimp only at ok
      split at ok
      · simp only [Option.bind_eq_some_iff] at ok
        obtain ⟨⟨more, rest'⟩, later, last⟩ := ok
        cases Option.some.inj last
        exact List.forall_mem_cons.mpr ⟨fits, ih later⟩
      · cases Option.some.inj ok
        exact List.forall_mem_singleton.mpr fits
      · contradiction

theorem descendFits {key : String} {change : Entries → Option Entries}
    (changes : ∀ es out, change es = some out → EntriesFit es → EntriesFit out) {es out : Entries}
    (ok : addEntry.descend key change es = some out) (before : EntriesFit es) : EntriesFit out := by
  induction es generalizing out with
  | nil =>
    obtain ⟨inner, made, rfl⟩ := Option.map_eq_some_iff.mp ok
    exact List.forall_mem_singleton.mpr (.table (changes _ _ made emptyFits))
  | cons e es ih =>
    obtain ⟨other, v⟩ := e
    obtain ⟨first, more⟩ := List.forall_mem_cons.mp before
    unfold addEntry.descend at ok
    split at ok
    · split at ok
      · obtain ⟨inner, made, rfl⟩ := Option.map_eq_some_iff.mp ok
        cases first with
        | table inner => exact List.forall_mem_cons.mpr ⟨.table (changes _ _ made inner), more⟩
      · contradiction
    · obtain ⟨rest, made, rfl⟩ := Option.map_eq_some_iff.mp ok
      exact List.forall_mem_cons.mpr ⟨first, ih made more⟩

theorem addFits {keys : List String} {v : Value} (fits : v.Fits) {es out : Entries}
    (ok : addEntry keys v es = some out) (before : EntriesFit es) : EntriesFit out := by
  induction keys generalizing es out with
  | nil => contradiction
  | cons key keys ih =>
    cases keys with
    | nil =>
      cases Option.some.inj ok
      exact List.forall_mem_append.mpr ⟨before, List.forall_mem_singleton.mpr fits⟩
    | cons next keys => exact descendFits (fun _ _ made inner => ih made inner) ok before

theorem bracedFit (each : ∀ ts v rest, item ts = some (v, rest) → v.Fits) {fuel : Nat}
    {es out : Entries} {ts rest : Tokens} (before : EntriesFit es)
    (ok : readEntries item fuel es ts = some (out, rest)) : EntriesFit out := by
  induction fuel generalizing es ts with
  | zero => contradiction
  | succ fuel ih =>
    simp only [readEntries, bind, Option.bind_eq_some_iff] at ok
    obtain ⟨⟨key, ts⟩, _, ts', _, ⟨v, ts''⟩, value, es', added, ok⟩ := ok
    have fits := addFits (each _ _ _ value) added before
    dsimp only at ok
    split at ok
    · cases Option.some.inj ok
      exact fits
    · exact ih fits ok
    · contradiction

end

theorem valueFits {fuel : Nat} {ts rest : Tokens} {v : Value}
    (ok : readValue fuel ts = some (v, rest)) : v.Fits := by
  induction fuel using Nat.strongRecOn generalizing ts v rest with
  | ind fuel ih =>
    unfold readValue at ok
    split at ok
    · cases Option.some.inj ok
      exact .text _
    · exact wordFits ok
    · exact numberFits ok
    · obtain ⟨⟨items, rest'⟩, read, same⟩ := Option.map_eq_some_iff.mp ok
      cases same
      exact .list (itemsFit (fun _ _ _ ok => ih _ (Nat.lt_succ_self _) ok) read)
    · split at ok
      · cases Option.some.inj ok
        exact .table emptyFits
      · obtain ⟨⟨es, rest'⟩, read, same⟩ := Option.map_eq_some_iff.mp ok
        cases same
        exact .table (bracedFit (fun _ _ _ ok => ih _ (Nat.lt_succ_self _) ok) emptyFits read)
    · contradiction

/-! ### Documents of TOML -/

def SectionsFit (sections : List Section) : Prop := ∀ s ∈ sections, EntriesFit s.entries

theorem headerFits {isItem : Bool} {ts rest : Tokens} {s : Section}
    (ok : readHeader isItem ts = some (s, rest)) : EntriesFit s.entries := by
  have closed {path : List String} {ts : Tokens} (ok : ((endLine (skipGap ts)).bind fun ts =>
      some (Section.mk path isItem [], ts)) = some (s, rest)) : EntriesFit s.entries := by
    obtain ⟨ts, _, last⟩ := Option.bind_eq_some_iff.mp ok
    cases Option.some.inj last
    exact emptyFits
  simp only [readHeader, bind, Option.bind_eq_some_iff] at ok
  obtain ⟨⟨path, ts⟩, _, ts', _, ok⟩ := ok
  split at ok
  · obtain ⟨ts'', _, ok⟩ := Option.bind_eq_some_iff.mp ok
    exact closed ok
  · exact closed ok

theorem linesFit {fuel : Nat} {current : Section} {ts : Tokens} {sections : List Section}
    (before : EntriesFit current.entries) (ok : readLines fuel current ts = some sections) :
    SectionsFit sections := by
  induction fuel generalizing current ts sections with
  | zero => contradiction
  | succ fuel ih =>
    have header {isItem : Bool} {rest : Tokens}
        (ok : ((readHeader isItem rest).bind fun p => (readLines fuel p.1 p.2).bind fun more =>
          some (current :: more)) = some sections) : SectionsFit sections := by
      simp only [Option.bind_eq_some_iff] at ok
      obtain ⟨p, head, more, later, last⟩ := ok
      cases Option.some.inj last
      exact List.forall_mem_cons.mpr ⟨before, ih (headerFits head) later⟩
    simp only [readLines, bind, Option.bind_eq_some_iff] at ok
    obtain ⟨ts, _, ok⟩ := ok
    split at ok
    · cases Option.some.inj ok
      exact List.forall_mem_singleton.mpr before
    · exact header ok
    · exact header ok
    · simp only [Option.bind_eq_some_iff] at ok
      obtain ⟨⟨key, ts⟩, _, _, _, ⟨v, ts⟩, value, es, added, _, _, later⟩ := ok
      exact ih (addFits (valueFits value) added before) later

theorem spelledFits {v w : Value} (ok : v.spelled = some w) : w.Fits := by
  cases v with
  | text s =>
    obtain ⟨normal, _, rfl⟩ := Option.map_eq_some_iff.mp ok
    exact .moment normal
  | _ => contradiction

mutual
theorem settledFits {v w : Value} (fits : v.Fits) (ok : v.settled = some w) : w.Fits := by
  cases fits with
  | list inner =>
    obtain ⟨items, settled, rfl⟩ := Option.map_eq_some_iff.mp ok
    exact .list (itemsSettledFit inner settled)
  | table inner =>
    unfold Value.settled at ok
    split at ok
    · exact spelledFits ok
    · obtain ⟨es, settled, rfl⟩ := Option.map_eq_some_iff.mp ok
      exact .table (entriesSettledFit inner settled)
  | text s => cases Option.some.inj ok; exact .text s
  | int fits => cases Option.some.inj ok; exact .int fits
  | float x => cases Option.some.inj ok; exact .float x
  | bool b => cases Option.some.inj ok; exact .bool b
  | moment s => cases Option.some.inj ok; exact .moment s

theorem itemsSettledFit {items out : List Value} (inner : ∀ v ∈ items, v.Fits)
    (ok : itemsSettled items = some out) : ∀ v ∈ out, v.Fits := by
  cases items with
  | nil => cases Option.some.inj ok; simp
  | cons v rest =>
    obtain ⟨first, more⟩ := List.forall_mem_cons.mp inner
    simp only [itemsSettled, bind, Option.bind_eq_some_iff] at ok
    obtain ⟨w, value, out, later, last⟩ := ok
    cases Option.some.inj last
    exact List.forall_mem_cons.mpr ⟨settledFits first value, itemsSettledFit more later⟩

theorem entriesSettledFit {es out : Entries} (inner : EntriesFit es)
    (ok : entriesSettled es = some out) : EntriesFit out := by
  cases es with
  | nil => cases Option.some.inj ok; exact emptyFits
  | cons e rest =>
    obtain ⟨key, v⟩ := e
    obtain ⟨first, more⟩ := List.forall_mem_cons.mp inner
    simp only [entriesSettled, bind, Option.bind_eq_some_iff] at ok
    obtain ⟨w, value, out, later, last⟩ := ok
    split at last
    · contradiction
    · cases Option.some.inj last
      exact List.forall_mem_cons.mpr ⟨settledFits first value, entriesSettledFit more later⟩
end

/- A section starts a group or joins the next one. -/
theorem groupedFit {s : Section} {groups out : List (List Section)} (fits : EntriesFit s.entries)
    (later : ∀ g ∈ groups, SectionsFit g)
    (made : out = [s] :: groups ∨ ∃ g more, groups = g :: more ∧ out = (s :: g) :: more) :
    ∀ g ∈ out, SectionsFit g := by
  rcases made with rfl | ⟨g, more, rfl, rfl⟩
  · exact List.forall_mem_cons.mpr ⟨List.forall_mem_singleton.mpr fits, later⟩
  · obtain ⟨here, beyond⟩ := List.forall_mem_cons.mp later
    exact List.forall_mem_cons.mpr ⟨List.forall_mem_cons.mpr ⟨fits, here⟩, beyond⟩

theorem groupsFit {sections : List Section} (fit : SectionsFit sections) :
    ∀ g ∈ itemGroups sections, SectionsFit g := by
  induction sections with
  | nil => simp [itemGroups]
  | cons s rest ih =>
    obtain ⟨first, more⟩ := List.forall_mem_cons.mp fit
    have later := ih more
    have headed : EntriesFit ({ s with isItem := false } : Section).entries := first
    unfold itemGroups
    split
    · split
      · rename_i alone
        exact groupedFit headed later (.inl (by rw [alone]))
      · rename_i g others groups
        split
        · exact groupedFit headed later (.inl (by rw [groups]))
        · exact groupedFit headed later (.inr ⟨g, others, groups, rfl⟩)
    · split
      · rename_i alone
        exact groupedFit first later (.inl (by rw [alone]))
      · rename_i g others groups
        split
        · exact groupedFit first later (.inl (by rw [groups]))
        · exact groupedFit first later (.inr ⟨g, others, groups, rfl⟩)

theorem ownFit {sections : List Section} (fit : SectionsFit sections) {es : Entries}
    (ok : ownEntries sections = some es) : EntriesFit es := by
  unfold ownEntries at ok
  split at ok
  · cases Option.some.inj ok
    exact emptyFits
  · rename_i s single
    split at ok
    · contradiction
    · have member : s ∈ sections.filter (·.path.isEmpty) := single ▸ List.mem_singleton_self s
      exact entriesSettledFit (fit s (List.mem_filter.mp member).1) ok
  · contradiction

/- A table made of sections whose entries fit. -/
def TableFits (table : List Section → Option Entries) : Prop :=
  ∀ sections es, SectionsFit sections → table sections = some es → EntriesFit es

section
variable {table : List Section → Option Entries} {sections : List Section}

theorem assembledItemsFit (sound : TableFits table) {left : List Section} {groups : List (List Section)}
    {items : List Value} (leftFit : SectionsFit left) (fit : ∀ g ∈ groups, SectionsFit g)
    (ok : assembleItems table left groups = some items) : ∀ v ∈ items, v.Fits := by
  induction groups generalizing left items with
  | nil =>
    unfold assembleItems at ok
    split at ok
    · cases Option.some.inj ok
      simp
    · contradiction
  | cons group more ih =>
    obtain ⟨here, later⟩ := List.forall_mem_cons.mp fit
    have joined : SectionsFit (group.take 1 ++ left ++ group.drop 1) := by
      intro s member
      simp only [List.mem_append] at member
      rcases member with (head | old) | tail
      · exact here s (List.mem_of_mem_take head)
      · exact leftFit s old
      · exact here s (List.mem_of_mem_drop tail)
    unfold assembleItems at ok
    dsimp only at ok
    generalize group.take 1 ++ left ++ group.drop 1 = whole at joined ok
    split at ok
    · simp only [bind, Option.bind_eq_some_iff] at ok
      obtain ⟨v, _, moment, spelled, rest, tail, last⟩ := ok
      cases Option.some.inj last
      have kept : SectionsFit (whole.drop 1) := fun s member =>
        joined s (List.mem_of_mem_drop member)
      exact List.forall_mem_cons.mpr ⟨spelledFits spelled, ih kept later tail⟩
    · simp only [bind, Option.bind_eq_some_iff] at ok
      obtain ⟨es, made, rest, tail, last⟩ := ok
      cases Option.some.inj last
      exact List.forall_mem_cons.mpr
        ⟨.table (sound _ _ joined made), ih (by simp [SectionsFit]) later tail⟩

theorem valueAtFits (sound : TableFits table) (fit : SectionsFit sections) {v : Value}
    (ok : assemble.valueAt table sections = some v) : v.Fits := by
  unfold assemble.valueAt at ok
  split at ok
  · obtain ⟨items, made, rfl⟩ := Option.map_eq_some_iff.mp ok
    exact .list (assembledItemsFit sound (by simp [SectionsFit]) (groupsFit fit) made)
  · split at ok
    · split at ok
      · obtain ⟨text, _, spelled⟩ := Option.bind_eq_some_iff.mp ok
        exact spelledFits spelled
      · contradiction
    · obtain ⟨entries, below, rfl⟩ := Option.map_eq_some_iff.mp ok
      exact .table (sound _ _ fit below)

theorem headFits (sound : TableFits table) (fit : SectionsFit sections) {k : String}
    {es out : Entries} (before : EntriesFit es)
    (ok : assemble.addHead table sections k es = some out) : EntriesFit out := by
  unfold assemble.addHead at ok
  split at ok
  · contradiction
  · obtain ⟨v, value, last⟩ := Option.bind_eq_some_iff.mp ok
    cases Option.some.inj last
    have below : SectionsFit ((sections.filter (·.path.head? == some k)).map Section.below) := by
      intro s member
      obtain ⟨s', inside, rfl⟩ := List.mem_map.mp member
      exact fit s' (List.mem_filter.mp inside).1
    exact List.forall_mem_append.mpr
      ⟨before, List.forall_mem_singleton.mpr (valueAtFits sound below value)⟩

theorem headsFit (sound : TableFits table) (fit : SectionsFit sections) {names : List String}
    {es out : Entries} (before : EntriesFit es)
    (ok : names.foldlM (fun es k => assemble.addHead table sections k es) es = some out) :
    EntriesFit out := by
  induction names generalizing es with
  | nil => cases Option.some.inj ok; exact before
  | cons k names ih =>
    obtain ⟨next, added, rest⟩ := Option.bind_eq_some_iff.mp ok
    exact ih (headFits sound fit before added) rest

end

theorem assembledFit (fuel : Nat) : TableFits (assemble fuel) := by
  induction fuel with
  | zero => exact fun _ _ _ ok => nomatch ok
  | succ fuel ih =>
    intro sections es fit ok
    obtain ⟨own, first, rest⟩ := Option.bind_eq_some_iff.mp ok
    exact headsFit ih fit (ownFit fit first) rest

theorem parsedFit {text : String} {es : Entries} (ok : parse text = some es) : EntriesFit es := by
  simp only [parse, bind, Option.bind_eq_some_iff] at ok
  obtain ⟨ts, _, sections, lines, ok⟩ := ok
  split at ok
  · simp only [Option.bind_eq_some_iff] at ok
    obtain ⟨v, _, moment, _, last⟩ := ok
    cases Option.some.inj last
    exact emptyFits
  · exact assembledFit _ _ _ (linesFit emptyFits lines) ok

end TagListing.Toml
