/-!
The clock of a rehearsal, in milliseconds. It ticks in steps, and what waits is woken by a tick.
-/
namespace TagListing.Rehearsal

def clockStep : Nat := 10

def tickAfter (now milliseconds : Nat) : Nat := ((now + milliseconds) / clockStep + 1) * clockStep

def retryPause : Nat := 100

def reconnectPause : Nat := 500

theorem tickAfterLater (now milliseconds : Nat) :
    now + milliseconds < tickAfter now milliseconds := by
  have h := Nat.div_add_mod (now + milliseconds) clockStep
  have r := Nat.mod_lt (now + milliseconds) (show 0 < clockStep by decide)
  unfold tickAfter
  rw [Nat.add_mul, Nat.one_mul, Nat.mul_comm]
  omega

end TagListing.Rehearsal
