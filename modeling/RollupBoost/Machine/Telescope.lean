import Mathlib.Algebra.BigOperators.Group.List.Basic
import Mathlib.Algebra.Order.Sub.Basic
import Mathlib.Algebra.Ring.Nat

/-!
# Running totals

A list of totals can be taken apart into what each total adds to the one before it, and parts of
known lengths can be laid out one after the other. Both are loops with one accumulator, and both
can be cut anywhere: the beginning of the result depends on the beginning of the list only.

As long as the totals do not decrease, what they add sums up to them again. The parts cover the
numbers from the start on, each of them once.
-/

namespace Machine

universe u v

variable {α : Type u} {β : Type v}

theorem getElem?_eq_of_take_eq {l l' : List α} {i : Nat} (h : l.take (i + 1) = l'.take (i + 1)) :
    l[i]? = l'[i]? := by
  rw [← List.getElem?_take_of_lt (Nat.lt_succ_self i), h,
    List.getElem?_take_of_lt (Nat.lt_succ_self i)]

/-- What each of the totals adds to the one before it. -/
def differences [Sub α] : α → List α → List α
  | _, [] => []
  | previous, total :: totals => (total - previous) :: differences total totals

theorem take_differences [Sub α] (previous : α) (totals : List α) (n : Nat) :
    (differences previous totals).take n = differences previous (totals.take n) := by
  induction totals generalizing previous n with
  | nil => simp [differences]
  | cons total totals ih =>
      cases n with
      | zero => rfl
      | succ n => simp only [differences, List.take_succ_cons, ih]

theorem getElem?_differences_congr [Sub α] (previous : α) {totals totals' : List α} {i : Nat}
    (h : totals.take (i + 1) = totals'.take (i + 1)) :
    (differences previous totals)[i]? = (differences previous totals')[i]? := by
  apply getElem?_eq_of_take_eq
  rw [take_differences, take_differences, h]

/-- A map that respects the subtraction of a smaller value can be taken into the list. -/
theorem map_differences [Sub α] [LE α] [Sub β] {f : α → β}
    (hf : ∀ {x y}, x ≤ y → f (y - x) = f y - f x) {previous : α} {totals : List α}
    (h : (previous :: totals).Pairwise (· ≤ ·)) :
    (differences previous totals).map f = differences (f previous) (totals.map f) := by
  induction totals generalizing previous with
  | nil => rfl
  | cons total totals ih =>
      obtain ⟨hle, hrest⟩ := List.pairwise_cons.mp h
      simp only [differences, List.map_cons, hf (hle total List.mem_cons_self), ih hrest]

section

variable [AddCommMonoid α] [PartialOrder α] [CanonicallyOrderedAdd α] [Sub α] [OrderedSub α]

/-- Up to each total, the differences sum up to it. -/
theorem add_sum_take_differences {previous total : α} {totals : List α}
    (h : (previous :: totals).Pairwise (· ≤ ·)) {i : Nat} (hi : totals[i]? = some total) :
    previous + ((differences previous totals).take (i + 1)).sum = total := by
  induction totals generalizing previous i with
  | nil => exact absurd hi (by simp)
  | cons first totals ih =>
      obtain ⟨hle, hrest⟩ := List.pairwise_cons.mp h
      have hfirst : previous + (first - previous) = first :=
        add_tsub_cancel_of_le (hle first List.mem_cons_self)
      rw [differences, List.take_succ_cons, List.sum_cons, ← add_assoc, hfirst]
      cases i with
      | zero => simpa using hi
      | succ i => exact ih hrest hi

end

/-- Where each part begins, if parts of these lengths follow each other. -/
def offsets : Nat → List Nat → List Nat
  | _, [] => []
  | start, length :: lengths => start :: offsets (start + length) lengths

theorem take_offsets (start : Nat) (lengths : List Nat) (n : Nat) :
    (offsets start lengths).take n = offsets start (lengths.take n) := by
  induction lengths generalizing start n with
  | nil => simp [offsets]
  | cons length lengths ih =>
      cases n with
      | zero => rfl
      | succ n => simp only [offsets, List.take_succ_cons, ih]

theorem getElem?_offsets_congr (start : Nat) {lengths lengths' : List Nat} {i : Nat}
    (h : lengths.take (i + 1) = lengths'.take (i + 1)) :
    (offsets start lengths)[i]? = (offsets start lengths')[i]? := by
  apply getElem?_eq_of_take_eq
  rw [take_offsets, take_offsets, h]

theorem eq_of_offsets {start offset i : Nat} {lengths : List Nat}
    (h : (offsets start lengths)[i]? = some offset) : offset = start + (lengths.take i).sum := by
  induction lengths generalizing start i with
  | nil => exact absurd h (by simp [offsets])
  | cons length lengths ih =>
      cases i with
      | zero => exact (Option.some.inj h).symm
      | succ i =>
          rw [ih h, List.take_succ_cons, List.sum_cons]
          omega

/-- The parts cover all numbers from the start on, without gap or overlap. -/
theorem flatMap_offsets (start : Nat) (lengths : List Nat) :
    ((offsets start lengths).zip lengths).flatMap (fun part => List.range' part.1 part.2) =
      List.range' start lengths.sum := by
  induction lengths generalizing start with
  | nil => rfl
  | cons length lengths ih =>
      rw [offsets, List.zip_cons_cons, List.flatMap_cons, ih, List.sum_cons,
        List.range'_append_1]

end Machine
