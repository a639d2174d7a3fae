import Mathlib.Algebra.Order.Group.Nat

/-!
# Deadlines that are looked at now and then

A task waits for signs of life. A sign moves its deadline. Every `period` it looks whether the
deadline has passed, and gives up if so; `due` is the instant from which on it may look next.

If no look is later than `lateness`, the task never waits longer than to its deadline, for one
more period and the lateness. A sign may bring the deadline nearer, too.
-/

namespace Machine

structure Watch where
  deadline : Nat
  due : Nat

namespace Watch

variable {period lateness now later : Nat} {watch next : Watch} {before after : Option Watch}

/-- What a task may do at an instant. -/
inductive Step (period now : Nat) : Option Watch → Option Watch → Prop
  | begins {deadline : Nat} (h : now ≤ deadline) :
      Step period now none (some { deadline := deadline, due := now })
  | stays (watch : Option Watch) : Step period now watch watch
  | hears {watch : Watch} {deadline : Nat} (h : now ≤ deadline) :
      Step period now (some watch) (some { watch with deadline := deadline })
  | looks {watch : Watch} (hdue : watch.due ≤ now) (h : now ≤ watch.deadline) :
      Step period now (some watch) (some { watch with due := watch.due + period })
  | ends (watch : Option Watch) : Step period now watch none

/-- The last look was on time, and the deadline had not passed. -/
structure Timely (period lateness now : Nat) (watch : Watch) : Prop where
  looked : watch.due ≤ now + period
  waits : watch.due ≤ watch.deadline + period
  onTime : now ≤ watch.due + lateness

theorem Timely.le (h : watch.Timely period lateness now) :
    now ≤ watch.deadline + period + lateness := by
  have hwaits := h.waits
  have honTime := h.onTime
  omega

theorem Timely.step (h : ∀ watch ∈ before, watch.Timely period lateness now)
    (hstep : Step period now before after) : ∀ watch ∈ after, watch.Timely period lateness now := by
  intro watch hwatch
  cases hstep with
  | begins hdeadline =>
      obtain rfl := Option.some.inj hwatch
      exact ⟨Nat.le_add_right _ _, hdeadline.trans (Nat.le_add_right _ _), Nat.le_add_right _ _⟩
  | stays => exact h watch hwatch
  | hears hdeadline =>
      obtain rfl := Option.some.inj hwatch
      have hbefore := h _ rfl
      refine ⟨hbefore.looked, ?_, hbefore.onTime⟩
      have hlooked := hbefore.looked
      dsimp only
      omega
  | looks hdue hdeadline =>
      obtain rfl := Option.some.inj hwatch
      have honTime := (h _ rfl).onTime
      refine ⟨?_, ?_, ?_⟩
      · exact Nat.add_le_add_right hdue period
      · exact Nat.add_le_add_right (hdue.trans hdeadline) period
      · dsimp only
        omega
  | ends => exact absurd hwatch (by simp)

/-- Time passes, and the next look is not late yet. -/
theorem Timely.pass (h : watch.Timely period lateness now) (hle : now ≤ later)
    (honTime : later ≤ watch.due + lateness) : watch.Timely period lateness later where
  looked := h.looked.trans (Nat.add_le_add_right hle period)
  waits := h.waits
  onTime := honTime

end Watch

end Machine
