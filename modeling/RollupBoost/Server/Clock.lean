import Mathlib.Algebra.Ring.Nat
import RollupBoost.Machine.Run

/-!
# The clock of the health check

`MonotonicTimestamp` (`health.rs`) turns a monotonic clock into unix seconds for the check of
stale blocks. A tick reads the clock twice: the first reading gives the whole seconds that have
passed since the last tick, which are added to the timestamp, and the second one is where the
next tick starts to count. What was left of a second at the first reading, and the time between
the two readings, is dropped and never made up for.

Instants are nanoseconds of the monotonic clock. `lost` adds up what a sequence of ticks drops.
A tick is within a second of the true time exactly as long as that sum is below one second.
-/

namespace RollupBoost

open Machine

/-- Nanoseconds. -/
def second : Nat := 10 ^ 9

/-- The two readings of the monotonic clock in one tick. -/
structure Reading where
  elapsed : Nat
  now : Nat
  ordered : elapsed ≤ now

structure MonotonicTimestamp where
  lastUnix : UInt64
  lastInstant : Nat

namespace MonotonicTimestamp

/-- The time that was left of a second at the first reading. -/
def fraction (last : Nat) (reading : Reading) : Nat := (reading.elapsed - last) % second

/-- What a sequence of ticks drops, from the instant `last` on. -/
def lost : Nat → List Reading → Nat
  | _, [] => 0
  | last, reading :: rest =>
      fraction last reading + (reading.now - reading.elapsed) + lost reading.now rest

/-- `Duration::as_secs` of the time since the last tick, which saturates at zero. The addition
wraps, as it does in a release build. -/
def tick (self : MonotonicTimestamp) (reading : Reading) : MonotonicTimestamp × UInt64 :=
  let elapsed := UInt64.ofNat ((reading.elapsed - self.lastInstant) / second)
  let lastUnix := self.lastUnix + elapsed
  ({ lastUnix := lastUnix, lastInstant := reading.now }, lastUnix)

def step (self : MonotonicTimestamp) (reading : Reading) : MonotonicTimestamp :=
  (self.tick reading).1

/-- The clock does not go back between two ticks. -/
def NotBefore (self : MonotonicTimestamp) (reading : Reading) : Prop :=
  self.lastInstant ≤ reading.elapsed

instance (self : MonotonicTimestamp) (reading : Reading) : Decidable (self.NotBefore reading) :=
  inferInstanceAs (Decidable (_ ≤ _))

/-- Two times in nanoseconds that differ by less than a second. -/
def Close (a b : Nat) : Prop := a < b + second ∧ b < a + second

instance (a b : Nat) : Decidable (Close a b) := inferInstanceAs (Decidable (_ ∧ _))

variable {self : MonotonicTimestamp} {readings : List Reading}

theorem tick_toNat (self : MonotonicTimestamp) (reading : Reading) :
    (self.tick reading).2.toNat =
      (self.lastUnix.toNat + (reading.elapsed - self.lastInstant) / second) % 2 ^ 64 := by
  simp [tick, UInt64.toNat_add]

/-- After any ticks the timestamp has advanced by whole seconds, and these and what was lost
make up the time that has passed. -/
theorem run_advances (h : Along step NotBefore self readings) :
    ∃ whole, (run step self readings).lastUnix.toNat = (self.lastUnix.toNat + whole) % 2 ^ 64 ∧
      self.lastInstant + whole * second + lost self.lastInstant readings =
        (run step self readings).lastInstant := by
  induction readings generalizing self with
  | nil =>
      refine ⟨0, ?_, by simp [lost]⟩
      exact (Nat.mod_eq_of_lt self.lastUnix.toNat_lt).symm
  | cons reading rest ih =>
      obtain ⟨hnotBefore, hrest⟩ := h
      obtain ⟨whole, hunix, hinstant⟩ := ih hrest
      have htick : (self.step reading).lastUnix.toNat =
          (self.lastUnix.toNat + (reading.elapsed - self.lastInstant) / second) % 2 ^ 64 :=
        tick_toNat self reading
      have hnow : (self.step reading).lastInstant = reading.now := rfl
      refine ⟨(reading.elapsed - self.lastInstant) / second + whole, ?_, ?_⟩
      · rw [run_cons, hunix, htick, Nat.mod_add_mod, Nat.add_assoc]
      · rw [run_cons, ← hinstant, hnow]
        have hsplit := Nat.div_add_mod' (reading.elapsed - self.lastInstant) second
        have hordered := reading.ordered
        simp only [NotBefore] at hnotBefore
        simp only [lost, fraction, Nat.add_mul]
        omega

/-- A timestamp that has advanced by `whole` seconds, when `whole` seconds and the time `rest`
have passed. -/
theorem close_iff {unix whole rest passed : Nat} (h : whole * second + rest = passed) :
    Close ((unix + whole) % 2 ^ 64 * second) (unix * second + passed) ↔
      rest < second ∧ unix + passed / second < 2 ^ 64 := by
  have hpos : 0 < second := by decide
  have hseconds : passed / second = rest / second + whole := by
    rw [← h, Nat.add_comm, Nat.add_mul_div_right _ _ hpos]
  rw [hseconds]
  by_cases hfits : unix + whole < 2 ^ 64
  · rw [Nat.mod_eq_of_lt hfits, Close, Nat.add_mul, ← h]
    constructor
    · rintro ⟨-, hbehind⟩
      have hrest : rest < second := by omega
      refine ⟨hrest, ?_⟩
      rw [Nat.div_eq_of_lt hrest]
      omega
    · rintro ⟨hrest, -⟩
      omega
  · -- the timestamp has wrapped, so it is far behind
    have hwrapped : (unix + whole) % 2 ^ 64 + 2 ^ 64 ≤ unix + whole := by omega
    have hscaled := Nat.mul_le_mul_right second hwrapped
    rw [Nat.add_mul, Nat.add_mul] at hscaled
    refine iff_of_false ?_ ?_
    · rintro ⟨-, hbehind⟩
      omega
    · rintro ⟨hrest, hlt⟩
      rw [Nat.div_eq_of_lt hrest] at hlt
      omega

/-- A tick is within a second of the true time exactly if the fractions of a second that the
ticks have dropped so far, and the time between their readings, add up to less than a second,
and the true time has not outgrown the timestamp. -/
theorem tick_close_iff (u0 : UInt64) (t0 : Nat) (before : List Reading) (reading : Reading)
    (hordered : Along step NotBefore { lastUnix := u0, lastInstant := t0 }
      (before ++ [reading])) :
    let self := run step { lastUnix := u0, lastInstant := t0 } before
    Close ((self.tick reading).2.toNat * second) (u0.toNat * second + (reading.elapsed - t0)) ↔
      lost t0 before + fraction self.lastInstant reading < second ∧
        u0.toNat + (reading.elapsed - t0) / second < 2 ^ 64 := by
  intro self
  obtain ⟨hbefore, hnotBefore⟩ := Along.concat_iff.mp hordered
  obtain ⟨whole, hunix, hinstant⟩ := run_advances hbefore
  have hsplit := Nat.div_add_mod' (reading.elapsed - self.lastInstant) second
  have hpassed : (whole + (reading.elapsed - self.lastInstant) / second) * second +
      (lost t0 before + fraction self.lastInstant reading) = reading.elapsed - t0 := by
    have hlater : self.lastInstant ≤ reading.elapsed := hnotBefore
    have hsince : t0 + whole * second + lost t0 before = self.lastInstant := hinstant
    rw [Nat.add_mul, fraction]
    omega
  have hunix : self.lastUnix.toNat = (u0.toNat + whole) % 2 ^ 64 := hunix
  rw [tick_toNat, hunix, Nat.mod_add_mod, Nat.add_assoc]
  exact close_iff hpassed

/-- A tick with both readings at once. -/
def readingAt (instant : Nat) : Reading := ⟨instant, instant, Nat.le_refl _⟩

/-- Ticks after one second, and after another second and a half. -/
theorem close_after_one_fraction :
    Close (((run step { lastUnix := 100, lastInstant := 0 } [readingAt (10 ^ 9)]).tick
      (readingAt (25 * 10 ^ 8))).2.toNat * second) (100 * second + 25 * 10 ^ 8) :=
  (tick_close_iff 100 0 [readingAt (10 ^ 9)] (readingAt (25 * 10 ^ 8)) (by decide)).mpr
    (by decide)

/-- Ticks every second and a half: the second one is a whole second behind. -/
theorem behind_after_two_fractions :
    Along step NotBefore { lastUnix := 100, lastInstant := 0 }
      [readingAt (15 * 10 ^ 8), readingAt (30 * 10 ^ 8)] ∧
    ¬ Close (((run step { lastUnix := 100, lastInstant := 0 } [readingAt (15 * 10 ^ 8)]).tick
      (readingAt (30 * 10 ^ 8))).2.toNat * second) (100 * second + 30 * 10 ^ 8) := by
  decide

end MonotonicTimestamp

end RollupBoost
