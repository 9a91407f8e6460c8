import TagListing.Database.Link

/-! The order of the states that a keeper stores. Version v is dialled, attached and lost before
version v + 1 is dialled; an attempt that is refused has no place in this order. Nothing is said
here of when a keeper moves or whether it ever does. -/
namespace TagListing.Database

def cycleState (connection : Nat → Nat) (n : Nat) : LinkState :=
  if n % 3 = 0 then .disconnected (n / 3)
  else if n % 3 = 1 then .connecting (n / 3 + 1)
  else .connected ⟨n / 3 + 1, connection (n / 3 + 1)⟩

inductive LinkState.Next : LinkState → LinkState → Prop where
  | dial (version : Nat) : Next (.disconnected version) (.connecting (version + 1))
  | attach (version connection : Nat) :
      Next (.connecting version) (.connected ⟨version, connection⟩)
  | lose (client : Client) : Next (.connected client) (.disconnected client.version)

def Keeper.Shows : Keeper → LinkState → Prop
  | .resting v, s => s = .disconnected v
  | .dialling v, s => s = .connecting v
  | .backoff v, s => s = .connecting v
  | .attached c, s => s = .connected c
  | .stopped, _ => True

theorem keeperSilent {k : Keeper} {held e s} (shows : k.Shows s)
    (silent : (k.step held e).2 = none) : (k.step held e).1.Shows s := by
  cases k <;> cases e <;> cases held <;> simp_all [Keeper.step, Keeper.Shows]

theorem keeperStores {k : Keeper} {held e s t} (shows : k.Shows s)
    (stores : (k.step held e).2 = some t) : s.Next t ∧ (k.step held e).1.Shows t := by
  cases held with
  | false => cases k <;> cases e <;> simp [Keeper.step] at stores
  | true =>
    cases k with
    | resting v =>
      cases e <;> simp only [Keeper.step, ↓reduceIte, reduceCtorEq, Option.some.injEq] at stores
      subst shows stores
      exact ⟨.dial v, rfl⟩
    | dialling v =>
      cases e <;> simp only [Keeper.step, ↓reduceIte, reduceCtorEq, Option.some.injEq] at stores
      subst shows stores
      exact ⟨.attach v _, rfl⟩
    | backoff v => cases e <;> simp [Keeper.step] at stores
    | attached c =>
      cases e <;> simp only [Keeper.step, ↓reduceIte, reduceCtorEq, Option.some.injEq] at stores
      subst shows stores
      rename_i clean
      refine ⟨.lose c, ?_⟩
      cases clean
      · rfl
      · trivial
    | stopped => cases e <;> simp [Keeper.step] at stores

/-! ### Places in the order -/

theorem placeOfDisconnected {connection n v}
    (same : cycleState connection n = .disconnected v) : n = 3 * v := by
  unfold cycleState at same
  split at same
  · cases same; omega
  · split at same <;> contradiction

theorem placeOfConnecting {connection n v}
    (same : cycleState connection n = .connecting v) : n + 2 = 3 * v := by
  unfold cycleState at same
  split at same
  · contradiction
  · split at same
    · cases same; omega
    · contradiction

theorem placeOfConnected {connection n c} (same : cycleState connection n = .connected c) :
    n + 1 = 3 * c.version ∧ c = ⟨c.version, connection c.version⟩ := by
  unfold cycleState at same
  split at same
  · contradiction
  · split at same
    · contradiction
    · cases same
      exact ⟨by simp only; omega, rfl⟩

theorem cycleNext {connection n s t} (here : cycleState connection n = s) (next : s.Next t) :
    ∃ later : Nat → Nat, (∀ k ≤ n, cycleState later k = cycleState connection k) ∧
      cycleState later (n + 1) = t := by
  cases next with
  | dial v =>
    have place := placeOfDisconnected here
    refine ⟨connection, fun k _ => rfl, ?_⟩
    rw [cycleState, if_neg (by omega), if_pos (by omega), show (n + 1) / 3 = v by omega]
  | attach v m =>
    have place := placeOfConnecting here
    refine ⟨fun version => if version = v then m else connection version, ?_, ?_⟩
    · -- The places up to here belong to earlier versions.
      intro k early
      simp only [cycleState]
      split
      · rfl
      · split
        · rfl
        · rw [if_neg (by omega)]
    · have version : (n + 1) / 3 + 1 = v := by omega
      rw [cycleState, if_neg (by omega), if_neg (by omega), version, if_pos rfl]
  | lose c =>
    have place := (placeOfConnected here).1
    refine ⟨connection, fun k _ => rfl, ?_⟩
    rw [cycleState, if_pos (by omega), show (n + 1) / 3 = c.version by omega]

/-! ### Stored states -/

def Cycled (stored : List LinkState) : Prop :=
  ∃ connection : Nat → Nat, ∀ n s, stored[n]? = some s → s = cycleState connection n

theorem initialCycled : Cycled [.initial] := by
  refine ⟨id, ?_⟩
  intro n s found
  cases n with
  | zero => cases Option.some.inj found; rfl
  | succ n => simp at found

theorem cycledNext {stored : List LinkState} {s t : LinkState} (cycled : Cycled stored)
    (last : stored.getLast? = some s) (next : s.Next t) : Cycled (stored ++ [t]) := by
  obtain ⟨connection, places⟩ := cycled
  obtain ⟨earlier, rfl⟩ := List.getLast?_eq_some_iff.mp last
  have here : cycleState connection earlier.length = s := (places _ s (by simp)).symm
  obtain ⟨later, kept, final⟩ := cycleNext here next
  refine ⟨later, ?_⟩
  intro n u found
  rcases Nat.lt_or_ge n (earlier ++ [s]).length with inside | beyond
  · rw [List.getElem?_append_left inside] at found
    rw [places n u found, kept n (by simp at inside; omega)]
  · rw [List.getElem?_append_right beyond] at found
    obtain ⟨at0, rfl⟩ : n = earlier.length + 1 ∧ t = u := by
      simp only [List.length_append, List.length_cons, List.length_nil] at beyond found
      cases gap : n - (earlier.length + (0 + 1)) with
      | zero => rw [gap] at found; exact ⟨by omega, by simpa using found⟩
      | succ k => rw [gap] at found; simp at found
    rw [at0, final]

theorem clientOfVersion {stored : List LinkState} {c d : Client} {i j : Nat}
    (cycled : Cycled stored) (left : stored[i]? = some (.connected c))
    (right : stored[j]? = some (.connected d)) (version : c.version = d.version) :
    i = j ∧ c = d := by
  obtain ⟨connection, places⟩ := cycled
  obtain ⟨placeLeft, sameLeft⟩ := placeOfConnected (places i _ left).symm
  obtain ⟨placeRight, sameRight⟩ := placeOfConnected (places j _ right).symm
  refine ⟨by omega, ?_⟩
  rw [sameLeft, sameRight, version]

/- How many connections there were is read off the state shown last; refused attempts do not
count. -/
def connections (stored : List LinkState) : Nat := (stored.filterMap LinkState.client?).length

def LinkState.Counts (n : Nat) : LinkState → Prop
  | .disconnected v => n = v
  | .connecting v => n + 1 = v
  | .connected c => n = c.version

theorem countsNext {stored : List LinkState} {s t : LinkState}
    (counts : s.Counts (connections stored)) (next : s.Next t) :
    t.Counts (connections (stored ++ [t])) := by
  cases next <;>
    simp_all [LinkState.Counts, connections, LinkState.client?]

end TagListing.Database
