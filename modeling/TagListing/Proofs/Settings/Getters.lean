import TagListing.Settings.Getter
import Mathlib.Data.List.Forall2

/-! What a key says, by whichever family of getters it is read. A key that is no path is a fault, one
that leads nowhere or to nil has no value, and what stands there converts or is a fault. Where a path
leads and what converts to what is said beside the code that looks and converts. The faults of the two
families differ in their words; which one it is is claimed for keys that are no paths only. -/
namespace TagListing.Settings
open TagListing.Numeric

/-! ### What converts -/

inductive TextOf : Scalar → String → Prop where
  | text (s) : TextOf (.text s) s
  | truth (b) : TextOf (.bool b) (if b then "true" else "false")
  | whole (i) : TextOf (.int i) (writeInt i)
  | double (x) : TextOf (.float x) (DecimalForm.plain.write x)

/- A word for truth is not read as a numeral. -/
inductive IntOf : Scalar → Int → Prop where
  | whole (i) : IntOf (.int i) i
  | truth (b) : IntOf (.bool b) (if b then 1 else 0)
  | double (x) : IntOf (.float x) (x.roundClamped int64Min int64Max)
  | word {s b} : truthWord (Text.lower s) = some b → IntOf (.text s) (if b then 1 else 0)
  | numeral {s i} : truthWord (Text.lower s) = none → readInt64 s.toList = some i → IntOf (.text s) i

inductive BoolOf : Scalar → Bool → Prop where
  | truth (b) : BoolOf (.bool b) b
  | whole (i) : BoolOf (.int i) (i != 0)
  | double (x) : BoolOf (.float x) (!x.isZero)
  | word {s b} : truthText (Text.lower s) = some b → BoolOf (.text s) b

/- One scalar, wherever it came from. -/
inductive Tree.Scalarly {α : Type} (of : Scalar → α → Prop) : Tree → α → Prop where
  | scalar (o) {v a} : of v a → Scalarly of (.scalar o v) a

/- A list of which every item converts. -/
inductive Tree.Itemwise {α : Type} (of : Tree → α → Prop) : Tree → List α → Prop where
  | list (o) {items out} : List.Forall₂ of items out → Itemwise of (.list o items) out

/- A conversion does what a relation says, and the relation does not look at origins. -/
structure Converts {α : Type} (of : Tree → α → Prop) (convert : Decoder α) : Prop where
  exact : ∀ t a, convert t = .ok a ↔ of t a
  bare : ∀ t a, of t.bare a ↔ of t a

section
variable {α : Type} {of : Scalar → α → Prop} {convert : Decoder α}

theorem scalarConverts (scalar : ∀ o v a, convert (.scalar o v) = .ok a ↔ of v a)
    (list : ∀ o items a, convert (.list o items) ≠ .ok a)
    (table : ∀ o es a, convert (.table o es) ≠ .ok a) : Converts (Tree.Scalarly of) convert := by
  refine ⟨fun t a => ?_, fun t a => ?_⟩
  · constructor
    · intro ok
      cases t with
      | scalar o v => exact .scalar o ((scalar o v a).mp ok)
      | list o items => exact absurd ok (list o items a)
      | table o es => exact absurd ok (table o es a)
    · rintro ⟨o, holds⟩
      exact (scalar o _ a).mpr holds
  · cases t with
    | scalar o v =>
      constructor
      · rintro ⟨_, holds⟩
        exact .scalar o holds
      · rintro ⟨_, holds⟩
        exact .scalar none holds
    | list o items => exact ⟨nofun, nofun⟩
    | table o es => exact ⟨nofun, nofun⟩

end

theorem convertsBare {α : Type} {of : Tree → α → Prop} {convert : Decoder α}
    (converts : Converts of convert) {t : Tree} {a : α} : convert t.bare = .ok a ↔ convert t = .ok a := by
  rw [converts.exact, converts.bare, converts.exact]

theorem textConverts : Converts (Tree.Scalarly TextOf) Tree.asText := by
  refine scalarConverts (fun o v a => ⟨fun ok => ?_, fun text => ?_⟩) (fun _ _ _ => nofun)
    (fun _ _ _ => nofun)
  · cases v with
    | nil => contradiction
    | bool b => cases Except.ok.inj ok; exact .truth _
    | int i => cases Except.ok.inj ok; exact .whole _
    | float x => cases Except.ok.inj ok; exact .double x
    | text s => cases Except.ok.inj ok; exact .text _
  · cases text <;> rfl

theorem intConverts : Converts (Tree.Scalarly IntOf) Tree.asInt := by
  refine scalarConverts (fun o v a => ⟨fun ok => ?_, fun whole => ?_⟩) (fun _ _ _ => nofun)
    (fun _ _ _ => nofun)
  · cases v with
    | nil => contradiction
    | bool b => cases Except.ok.inj ok; exact .truth _
    | int i => cases Except.ok.inj ok; exact .whole _
    | float x => cases Except.ok.inj ok; exact .double x
    | text s =>
      simp only [Tree.asInt, intOfText] at ok
      cases word : truthWord (Text.lower s) with
      | some b =>
        rw [word] at ok
        cases Except.ok.inj ok
        exact .word word
      | none =>
        rw [word] at ok
        cases numeral : readInt64 s.toList with
        | some i =>
          rw [numeral] at ok
          cases Except.ok.inj ok
          exact .numeral word numeral
        | none => rw [numeral] at ok; contradiction
  · cases whole with
    | whole i => rfl
    | truth b => rfl
    | double x => rfl
    | word word => simp only [Tree.asInt, intOfText, word, intOfBool]
    | numeral other numeral => simp only [Tree.asInt, intOfText, other, numeral]

theorem boolConverts : Converts (Tree.Scalarly BoolOf) Tree.asBool := by
  refine scalarConverts (fun o v a => ⟨fun ok => ?_, fun truth => ?_⟩) (fun _ _ _ => nofun)
    (fun _ _ _ => nofun)
  · cases v with
    | nil => contradiction
    | bool b => cases Except.ok.inj ok; exact .truth _
    | int i => cases Except.ok.inj ok; exact .whole _
    | float x => cases Except.ok.inj ok; exact .double x
    | text s =>
      simp only [Tree.asBool] at ok
      cases word : truthText (Text.lower s) with
      | some b =>
        rw [word] at ok
        cases Except.ok.inj ok
        exact .word word
      | none => rw [word] at ok; contradiction
  · cases truth with
    | truth b => rfl
    | whole i => rfl
    | double x => rfl
    | word word => simp only [Tree.asBool, word]

theorem convertAllExact {α β : Type} {f : α → Except Fault β} {items : List α} {out : List β} :
    convertAll f items = .ok out ↔ List.Forall₂ (fun a b => f a = .ok b) items out := by
  induction items generalizing out with
  | nil =>
    rw [List.forall₂_nil_left_iff]
    exact ⟨fun ok => (Except.ok.inj ok).symm, fun empty => empty ▸ rfl⟩
  | cons a items ih =>
    rw [List.forall₂_cons_left_iff]
    constructor
    · intro ok
      unfold convertAll at ok
      cases first : f a with
      | error e => rw [first] at ok; contradiction
      | ok b =>
        cases rest : convertAll f items with
        | error e => rw [first, rest] at ok; contradiction
        | ok more =>
          rw [first, rest] at ok
          exact ⟨b, more, rfl, ih.mp rest, (Except.ok.inj ok).symm⟩
    · rintro ⟨b, more, first, rest, rfl⟩
      rw [convertAll, first, ih.mpr rest]
      rfl

theorem bareItemsMap (items : List Tree) : bareItems items = items.map Tree.bare := by
  induction items with
  | nil => rfl
  | cons t items ih => rw [bareItems, ih, List.map_cons]

theorem listConverts {α : Type} {of : Tree → α → Prop} {item : Decoder α}
    (converts : Converts of item) : Converts (Tree.Itemwise of) (.list item) := by
  have each : (fun t a => item t = .ok a) = of := by
    funext t a
    exact propext (converts.exact t a)
  have blind : (fun t a => of t.bare a) = of := by
    funext t a
    exact propext (converts.bare t a)
  refine ⟨fun t out => ?_, fun t out => ?_⟩
  · cases t with
    | list o items =>
      rw [Decoder.list, convertAllExact, each]
      constructor
      · exact fun all => .list o all
      · rintro ⟨_, all⟩
        exact all
    | scalar o v => exact ⟨nofun, nofun⟩
    | table o es => exact ⟨nofun, nofun⟩
  · cases t with
    | list o items =>
      rw [Tree.bare, bareItemsMap]
      constructor
      · rintro ⟨_, all⟩
        rw [List.forall₂_map_left_iff, blind] at all
        exact .list o all
      · rintro ⟨_, all⟩
        refine .list none ?_
        rw [List.forall₂_map_left_iff, blind]
        exact all
    | scalar o v => exact ⟨nofun, nofun⟩
    | table o es => exact ⟨nofun, nofun⟩

/-! ### Where a key leads -/

/- A name leads to the first entry of a table that has it, a subscript to the item that many places
behind the first one, or behind the end if it is negative. -/
inductive Leads : List Step → Tree → Tree → Prop where
  | here (t) : Leads [] t t
  | field {name rest o before t after u} (first : ∀ e ∈ before, e.1 ≠ name)
      (onward : Leads rest t u) :
      Leads (.field name :: rest) (.table o (before ++ (name, t) :: after)) u
  | index {i rest o items t u} {n : Nat} (place : (n : Int) = i ∨ i < 0 ∧ (n : Int) = items.length + i)
      (item : items[n]? = some t) (onward : Leads rest t u) :
      Leads (.index i :: rest) (.list o items) u

def Path.Leads (p : Path) (root t : Tree) : Prop := Settings.Leads (.field p.head :: p.steps) root t

theorem entrySought (name : String) (es : List (String × Tree)) :
    entryAt? name es = (es.find? fun e => e.1 = name).map Prod.snd := by
  induction es with
  | nil => rfl
  | cons e es ih =>
    obtain ⟨other, t⟩ := e
    by_cases same : name = other
    · simp [entryAt?, same]
    · simp [entryAt?, same, Ne.symm same, ih]

theorem entryFirst {name : String} {es : List (String × Tree)} {t : Tree} :
    entryAt? name es = some t ↔
      ∃ before after, es = before ++ (name, t) :: after ∧ ∀ e ∈ before, e.1 ≠ name := by
  rw [entrySought, Option.map_eq_some_iff]
  constructor
  · rintro ⟨⟨other, u⟩, found, rfl⟩
    obtain ⟨same, before, after, whole, first⟩ := List.find?_eq_some_iff_append.mp found
    cases of_decide_eq_true same
    exact ⟨before, after, whole, fun e member => by simpa using first e member⟩
  · rintro ⟨before, after, whole, first⟩
    have found : (es.find? fun e => e.1 = name) = some (name, t) :=
      List.find?_eq_some_iff_append.mpr ⟨by simp, before, after, whole, by simpa using first⟩
    exact ⟨(name, t), found, rfl⟩

theorem positionExact {i : Int} {length n : Nat} : position? i length = some n ↔
    n < length ∧ ((n : Int) = i ∨ i < 0 ∧ (n : Int) = length + i) := by
  unfold position?
  split
  · split
    · rw [Option.some.injEq]
      omega
    · simp only [reduceCtorEq, false_iff]
      omega
  · split
    · rw [Option.some.injEq]
      omega
    · simp only [reduceCtorEq, false_iff]
      omega

theorem followLeads {steps : List Step} {t u : Tree} (found : t.follow steps = some u) :
    Leads steps t u := by
  induction steps generalizing t with
  | nil =>
    cases Option.some.inj found
    exact .here _
  | cons step rest ih =>
    obtain ⟨next, taken, onward⟩ := Option.bind_eq_some_iff.mp found
    cases step with
    | field name =>
      cases t with
      | table o es =>
        obtain ⟨before, after, rfl, first⟩ := entryFirst.mp taken
        exact .field first (ih onward)
      | scalar o v => contradiction
      | list o items => contradiction
    | index i =>
      obtain ⟨n, place, item⟩ := Option.bind_eq_some_iff.mp taken
      cases t with
      | list o items => exact .index (positionExact.mp place).2 item (ih onward)
      | scalar o v => contradiction
      | table o es => contradiction

theorem leadsFollow {steps : List Step} {t u : Tree} (leads : Leads steps t u) :
    t.follow steps = some u := by
  induction leads with
  | here t => rfl
  | field first onward ih =>
    rw [Tree.follow, Tree.step?, Tree.field?, Tree.entries, entryFirst.mpr ⟨_, _, rfl, first⟩]
    exact ih
  | @index i rest o items t u n place item onward ih =>
    have inside : n < items.length := (List.getElem?_eq_some_iff.mp item).1
    rw [Tree.follow, Tree.step?, Tree.items, positionExact.mpr ⟨inside, place⟩, Option.bind_some, item]
    exact ih

theorem leadsFound {p : Path} {root t : Tree} : p.Leads root t ↔ p.find root = some t := by
  have whole : p.find root = root.follow (.field p.head :: p.steps) := rfl
  rw [whole]
  exact ⟨leadsFollow, followLeads⟩

/- The key is a path, and nothing stands at its end, or nil. -/
def Vacant (s : Settings) (key : String) : Prop :=
  ∃ p, Path.parse key = .ok p ∧ ∀ t, p.Leads s.root t → t.isNil = true

/- The key is a path, and a value that is not nil stands at its end. -/
def Stands (s : Settings) (key : String) (t : Tree) : Prop :=
  t.isNil = false ∧ ∃ p, Path.parse key = .ok p ∧ p.Leads s.root t

/- What a key says of a kind of values. -/
inductive Reads {α : Type} (of : Tree → α → Prop) (s : Settings) (key : String) :
    Except Fault (Option α) → Prop where
  | unread {f} : Path.parse key = .error f → Reads of s key (.error (.path f))
  | nothing : Vacant s key → Reads of s key (.ok none)
  | value {t a} : Stands s key t → of t a → Reads of s key (.ok (some a))
  | unfit {t f} : Stands s key t → (∀ a, ¬ of t a) → Reads of s key (.error f)

section
variable {α : Type} {s : Settings} {key : String}

theorem standsOnce {t u : Tree} (here : Stands s key t) (there : Stands s key u) : t = u := by
  obtain ⟨_, p, parsed, found⟩ := here
  obtain ⟨_, q, parsed', found'⟩ := there
  cases Except.ok.inj (parsed.symm.trans parsed')
  exact Option.some.inj ((leadsFound.mp found).symm.trans (leadsFound.mp found'))

theorem vacantEmpty {t : Tree} (vacant : Vacant s key) (stands : Stands s key t) : False := by
  obtain ⟨p, parsed, all⟩ := vacant
  obtain ⟨value, q, parsed', found⟩ := stands
  cases Except.ok.inj (parsed.symm.trans parsed')
  rw [all t found] at value
  contradiction

theorem getReads {of : Tree → α → Prop} {decode : Decoder α}
    (exact : ∀ t a, decode t = .ok a ↔ of t a) (s : Settings) (key : String) :
    Reads of s key (s.get decode key) := by
  unfold get
  cases parsed : Path.parse key with
  | error f => exact .unread parsed
  | ok p =>
    dsimp only
    cases found : p.find s.root with
    | none =>
      refine .nothing ⟨p, parsed, fun t leads => ?_⟩
      rw [leadsFound.mp leads] at found
      contradiction
    | some t =>
      dsimp only
      by_cases nil : t.isNil = true
      · rw [if_pos nil]
        refine .nothing ⟨p, parsed, fun u leads => ?_⟩
        cases Option.some.inj (found.symm.trans (leadsFound.mp leads))
        exact nil
      · rw [if_neg nil]
        have stands : Stands s key t := ⟨Bool.eq_false_iff.mpr nil, p, parsed, leadsFound.mpr found⟩
        cases decoded : decode t with
        | ok a => exact .value stands ((exact t a).mp decoded)
        | error f =>
          refine .unfit stands fun a converts => ?_
          rw [(exact t a).mpr converts] at decoded
          contradiction

/- A plain getter takes the value first, without its origins, and converts it then. -/
theorem plainReads {of : Tree → α → Prop} {convert : Decoder α} (converts : Converts of convert)
    (s : Settings) (key : String) :
    Reads of s key (s.getValue key >>= convertSome convert) := by
  have value : Reads (fun t u => u = t.bare) s key (s.getValue key) := by
    refine getReads (fun t u => ?_) s key
    exact ⟨fun ok => (Except.ok.inj ok).symm, fun same => same ▸ rfl⟩
  generalize s.getValue key = answer at value
  cases value with
  | unread parsed => exact .unread parsed
  | nothing vacant => exact .nothing vacant
  | unfit stands never => exact absurd rfl (never _)
  | @value t _ stands same =>
    subst same
    simp only [bind, Except.bind, convertSome]
    cases converted : convert t.bare with
    | ok a => exact .value stands ((converts.exact t a).mp ((convertsBare converts).mp converted))
    | error f =>
      refine .unfit stands fun a holds => ?_
      rw [(convertsBare converts).mpr ((converts.exact t a).mpr holds)] at converted
      contradiction

end

/-! ### Two families -/

/- The faults may differ. -/
inductive SameAnswer {α : Type} : Except Fault (Option α) → Except Fault (Option α) → Prop where
  | value (a) : SameAnswer (.ok (some a)) (.ok (some a))
  | nothing : SameAnswer (.ok none) (.ok none)
  | faults (f g) : SameAnswer (.error f) (.error g)

/- A plain getter and a decoder, read at any key. -/
structure Agrees {α : Type} (plain : Settings → String → Except Fault (Option α))
    (decode : Decoder α) (of : Tree → α → Prop) : Prop where
  same : ∀ s key, SameAnswer (plain s key) (s.get decode key)
  told : ∀ s key, Reads of s key (plain s key)
  decoded : ∀ s key, Reads of s key (s.get decode key)
  nothing : ∀ s key, (plain s key = .ok none ↔ Vacant s key) ∧
    (s.get decode key = .ok none ↔ Vacant s key)

section
variable {α : Type} {of : Tree → α → Prop} {s : Settings} {key : String}

theorem readsSame (unique : ∀ t a b, of t a → of t b → a = b) {x y : Except Fault (Option α)}
    (left : Reads of s key x) (right : Reads of s key y) : SameAnswer x y := by
  have unparsed {f : PathFault} (bad : Path.parse key = .error f) {p : Path}
      (parsed : Path.parse key = .ok p) : False := by
    rw [bad] at parsed
    contradiction
  cases left with
  | unread bad =>
    cases right with
    | unread => exact .faults _ _
    | nothing vacant => exact (unparsed bad vacant.choose_spec.1).elim
    | value stands => exact (unparsed bad stands.2.choose_spec.1).elim
    | unfit => exact .faults _ _
  | nothing vacant =>
    cases right with
    | unread bad => exact (unparsed bad vacant.choose_spec.1).elim
    | nothing => exact .nothing
    | value stands => exact (vacantEmpty vacant stands).elim
    | unfit stands => exact (vacantEmpty vacant stands).elim
  | @value t a stands holds =>
    cases right with
    | unread bad => exact (unparsed bad stands.2.choose_spec.1).elim
    | nothing vacant => exact (vacantEmpty vacant stands).elim
    | @value u b stands' holds' =>
      cases standsOnce stands stands'
      cases unique t a b holds holds'
      exact .value a
    | unfit stands' never =>
      cases standsOnce stands stands'
      exact absurd holds (never a)
  | @unfit t f stands never =>
    cases right with
    | unread => exact .faults _ _
    | nothing vacant => exact (vacantEmpty vacant stands).elim
    | @value u b stands' holds' =>
      cases standsOnce stands stands'
      exact absurd holds' (never b)
    | unfit => exact .faults _ _

theorem readsValue (unique : ∀ t a b, of t a → of t b → a = b) {x : Except Fault (Option α)}
    (reads : Reads of s key x) {a : α} : x = .ok (some a) ↔ ∃ t, Stands s key t ∧ of t a := by
  constructor
  · rintro rfl
    cases reads with
    | value stands holds => exact ⟨_, stands, holds⟩
  · rintro ⟨t, stands, holds⟩
    cases readsSame unique reads (.value stands holds) with
    | value => rfl

theorem readsNothing {x : Except Fault (Option α)} (reads : Reads of s key x) :
    x = .ok none ↔ Vacant s key := by
  constructor
  · rintro rfl
    cases reads with
    | nothing vacant => exact vacant
  · intro vacant
    cases reads with
    | nothing => rfl
    | unread bad =>
      obtain ⟨p, parsed, _⟩ := vacant
      rw [bad] at parsed
      contradiction
    | value stands => exact (vacantEmpty vacant stands).elim
    | unfit stands => exact (vacantEmpty vacant stands).elim

end

theorem convertsOnce {α : Type} {of : Tree → α → Prop} {convert : Decoder α}
    (converts : Converts of convert) (t : Tree) (a b : α) (left : of t a) (right : of t b) : a = b :=
  Except.ok.inj (((converts.exact t a).mpr left).symm.trans ((converts.exact t b).mpr right))

theorem convertsAgree {α : Type} {of : Tree → α → Prop} {decode convert : Decoder α}
    (decodes : Converts of decode) (converts : Converts of convert)
    {plain : Settings → String → Except Fault (Option α)}
    (reading : ∀ s key, plain s key = s.getValue key >>= convertSome convert) :
    Agrees plain decode of := by
  have told (s key) : Reads of s key (plain s key) := reading s key ▸ plainReads converts s key
  have decoded (s key) : Reads of s key (s.get decode key) := getReads decodes.exact s key
  exact ⟨fun s key => readsSame (convertsOnce decodes) (told s key) (decoded s key), told, decoded,
    fun s key => ⟨readsNothing (told s key), readsNothing (decoded s key)⟩⟩

theorem textsConvert : Converts (Tree.Itemwise (Tree.Scalarly TextOf))
    fun t => t.asList >>= convertAll Tree.asText := by
  obtain ⟨exact, bare⟩ := listConverts textConverts
  refine ⟨fun t a => ?_, bare⟩
  rw [← exact]
  cases t with
  | list o items => rfl
  | scalar o v => exact ⟨nofun, nofun⟩
  | table o es => exact ⟨nofun, nofun⟩

theorem textsReading (s : Settings) (key : String) : s.getTexts key =
    s.getValue key >>= convertSome fun t => t.asList >>= convertAll Tree.asText := by
  rw [getTexts, getList]
  cases s.getValue key with
  | error f => rfl
  | ok found =>
    cases found with
    | none => rfl
    | some t =>
      simp only [bind, Except.bind, convertSome]
      cases t.asList <;> rfl

theorem itemConverts {α β : Type} {R : α → β → Prop} {items : List α} {out : List β}
    (all : List.Forall₂ R items out) {a : α} (member : a ∈ items) : ∃ b, R a b := by
  induction all with
  | nil => contradiction
  | cons here rest ih =>
    rcases List.mem_cons.mp member with rfl | member
    · exact ⟨_, here⟩
    · exact ih member

/- A list is as long as the one that stands at the key, or there is none. -/
theorem gettersAgree :
    Agrees getText Tree.asText (Tree.Scalarly TextOf) ∧
    Agrees getInt Tree.asInt (Tree.Scalarly IntOf) ∧
    Agrees getBool Tree.asBool (Tree.Scalarly BoolOf) ∧
    Agrees getTexts (.list Tree.asText) (Tree.Itemwise (Tree.Scalarly TextOf)) ∧
    ∀ s key o items, Stands s key (.list o items) →
      (∀ texts, s.getTexts key = .ok (some texts) → texts.length = items.length) ∧
      ∀ t ∈ items, (∀ text, ¬ t.Scalarly TextOf text) →
        (∃ f, s.getTexts key = .error f) ∧ ∃ f, s.get (.list Tree.asText) key = .error f := by
  have texts := convertsAgree (listConverts textConverts) textsConvert textsReading
  refine ⟨convertsAgree textConverts textConverts fun _ _ => rfl,
    convertsAgree intConverts intConverts fun _ _ => rfl,
    convertsAgree boolConverts boolConverts fun _ _ => rfl, texts, ?_⟩
  intro s key o items stands
  refine ⟨fun out ok => ?_, fun t member never => ?_⟩
  · have reads := texts.told s key
    rw [ok] at reads
    cases reads with
    | value stands' all =>
      cases standsOnce stands stands'
      obtain ⟨_, all⟩ := all
      exact all.length_eq.symm
  · have spoilt (x) (reads : Reads (Tree.Itemwise (Tree.Scalarly TextOf)) s key x) :
        ∃ f, x = .error f := by
      cases reads with
      | unread | unfit => exact ⟨_, rfl⟩
      | nothing vacant => exact (vacantEmpty vacant stands).elim
      | value stands' all =>
        cases standsOnce stands stands'
        obtain ⟨_, all⟩ := all
        obtain ⟨text, converts⟩ := itemConverts all member
        exact absurd converts (never text)
    exact ⟨spoilt _ (texts.told s key), spoilt _ (texts.decoded s key)⟩

/- The last item of the list is a list of its own. -/
def mixedSettings : Settings where
  root := .table none [("A", .table none [("b-c", .list none
    [.scalar none (.text "Yes"), .scalar none (.int 2), .list none []])])]

theorem itemsReadAlike :
    mixedSettings.getInt "A.b-c[-3]" = .ok (some 1) ∧
    mixedSettings.get Tree.asInt "A.b-c[-3]" = .ok (some 1) ∧
    (∃ f, mixedSettings.getTexts "A.b-c" = .error f) ∧
    ∃ f, mixedSettings.get (.list Tree.asText) "A.b-c" = .error f := by
  obtain ⟨_, ints, _, _, lists⟩ := gettersAgree
  have first : Stands mixedSettings "A.b-c[-3]" (.scalar none (.text "Yes")) :=
    ⟨rfl, ⟨"A", [.field "b-c", .index (-3)]⟩, by decide +kernel, leadsFound.mpr rfl⟩
  have all : Stands mixedSettings "A.b-c" (.list none
      [.scalar none (.text "Yes"), .scalar none (.int 2), .list none []]) :=
    ⟨rfl, ⟨"A", [.field "b-c"]⟩, by decide +kernel, leadsFound.mpr rfl⟩
  have one : (Tree.scalar none (.text "Yes")).Scalarly IntOf 1 :=
    .scalar none (.word (b := true) (by decide +kernel))
  have once := convertsOnce intConverts
  refine ⟨(readsValue once (ints.told _ _)).mpr ⟨_, first, one⟩,
    (readsValue once (ints.decoded _ _)).mpr ⟨_, first, one⟩, ?_⟩
  exact (lists _ _ _ _ all).2 (.list none []) (by simp) fun _ => nofun

end TagListing.Settings
