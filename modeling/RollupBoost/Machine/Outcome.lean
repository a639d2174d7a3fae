import Mathlib.Logic.Function.Basic

/-!
# Results, panics and hash maps

`Outcome ε α` is the result of code that returns a value or an error, or that
panics on the way. The monad is the one of `?`: an error or a panic ends the
computation. A panic is kept apart from an error, since a caller cannot handle it.

`Table κ α` is a hash map, as the function that `get` is. Insertion is
`Function.update`; the order in which a hash map is walked is not part of it.
-/

namespace Machine

universe u v

inductive Outcome (ε : Type u) (α : Type v) where
  | ok (value : α)
  | error (error : ε)
  | panic (message : String)
  deriving DecidableEq

namespace Outcome

variable {ε : Type u} {α β : Type v}

protected def bind (x : Outcome ε α) (f : α → Outcome ε β) : Outcome ε β :=
  match x with
  | .ok value => f value
  | .error e => .error e
  | .panic message => .panic message

instance : Monad (Outcome ε) where
  pure := .ok
  bind := Outcome.bind

def ofExcept : Except ε α → Outcome ε α
  | .ok value => .ok value
  | .error e => .error e

/-- `expect` and `unwrap` on an option. -/
def expect (message : String) : Option α → Outcome ε α
  | some value => .ok value
  | none => .panic message

def panics : Outcome ε α → Bool
  | .panic _ => true
  | _ => false

@[simp] theorem ok_bind (value : α) (f : α → Outcome ε β) : (Outcome.ok value >>= f) = f value :=
  rfl

@[simp] theorem error_bind (e : ε) (f : α → Outcome ε β) :
    ((Outcome.error e : Outcome ε α) >>= f) = .error e := rfl

@[simp] theorem panic_bind (message : String) (f : α → Outcome ε β) :
    ((Outcome.panic message : Outcome ε α) >>= f) = .panic message := rfl

@[simp] theorem panics_ok (value : α) : (ok value : Outcome ε α).panics = false := rfl

@[simp] theorem panics_error (e : ε) : (error e : Outcome ε α).panics = false := rfl

@[simp] theorem panics_panic (message : String) : (panic message : Outcome ε α).panics = true :=
  rfl

@[simp] theorem panics_ofExcept (x : Except ε α) : (ofExcept x).panics = false := by
  cases x <;> rfl

/-- A continuation that does not panic adds no panic. -/
theorem panics_bind {x : Outcome ε α} {f : α → Outcome ε β}
    (h : ∀ value, (f value).panics = false) : (x >>= f).panics = x.panics := by
  cases x with
  | ok value => exact h value
  | error e => rfl
  | panic message => rfl

/-- A computation does not panic exactly if none of the parts that it comes to does. -/
theorem not_panics_bind_iff {x : Outcome ε α} {f : α → Outcome ε β} :
    (x >>= f).panics = false ↔
      x.panics = false ∧ ∀ value, x = .ok value → (f value).panics = false := by
  cases x with
  | ok value => simp
  | error e => simp
  | panic message => simp

/-- Two computations agree if their first parts do, and their second parts do as long as
nothing panics. -/
theorem bind_congr_of_not_panics {x : Outcome ε α} {f g : α → Outcome ε β}
    (h : (x >>= f).panics = false)
    (hsame : ∀ value, x = .ok value → (f value).panics = false → f value = g value) :
    (x >>= f) = (x >>= g) := by
  cases x with
  | ok value => exact hsame value rfl h
  | error e => rfl
  | panic message => exact absurd h (by simp)

/-- A computation returned, so each of its parts did. -/
theorem bind_eq_ok {x : Outcome ε α} {f : α → Outcome ε β} {result : β}
    (h : (x >>= f) = .ok result) : ∃ value, x = .ok value ∧ f value = .ok result := by
  cases x with
  | ok value => exact ⟨value, rfl, h⟩
  | error e => exact absurd h (by simp)
  | panic message => exact absurd h (by simp)

@[simp] theorem ofExcept_ok (value : α) : (ofExcept (.ok value) : Outcome ε α) = .ok value := rfl

@[simp] theorem ofExcept_error (e : ε) : (ofExcept (.error e) : Outcome ε α) = .error e := rfl

theorem ofExcept_eq_ok {x : Except ε α} {value : α} (h : ofExcept x = .ok value) :
    x = .ok value := by
  cases x with
  | ok result => rw [Outcome.ok.inj h]
  | error e => exact absurd h (by simp)

/-- A result passed `map_err` and `?`, so it was a value. -/
theorem ofExcept_mapError_eq_ok {δ : Type u} {x : Except δ α} {f : δ → ε} {value : α}
    (h : ofExcept (x.mapError f) = .ok value) : x = .ok value := by
  cases x with
  | ok result =>
      change Outcome.ok result = Outcome.ok value at h
      rw [Outcome.ok.inj h]
  | error e =>
      change Outcome.error (f e) = Outcome.ok value at h
      exact absurd h (by simp)

/-- A result passed `expect`, so it was a value. -/
theorem expect_toOption_eq_ok {δ : Type u} {x : Except δ α} {message : String} {value : α}
    (h : (expect message x.toOption : Outcome ε α) = .ok value) : x = .ok value := by
  cases x with
  | ok result => rw [Outcome.ok.inj h]
  | error e => exact absurd h (by simp [expect, Except.toOption])

end Outcome

/-- A computation without panics returned, so each of its parts did. -/
theorem except_bind_eq_ok {ε : Type u} {α β : Type v} {x : Except ε α} {f : α → Except ε β}
    {result : β} (h : (x >>= f) = .ok result) : ∃ value, x = .ok value ∧ f value = .ok result := by
  cases x with
  | ok value => exact ⟨value, rfl, h⟩
  | error e => exact absurd h (by simp [bind, Except.bind])

abbrev Table (κ : Type u) (α : Type v) := κ → Option α

namespace Table

variable {κ : Type u} {α : Type v}

def empty : Table κ α := fun _ => none

def insert [DecidableEq κ] (table : Table κ α) (key : κ) (value : α) : Table κ α :=
  Function.update table key (some value)

def remove [DecidableEq κ] (table : Table κ α) (key : κ) : Table κ α :=
  Function.update table key none

@[simp] theorem empty_apply (key : κ) : (empty : Table κ α) key = none := rfl

variable [DecidableEq κ] (table : Table κ α)

@[simp] theorem insert_self (key : κ) (value : α) : table.insert key value key = some value :=
  Function.update_self ..

theorem insert_of_ne {key other : κ} (h : other ≠ key) (value : α) :
    table.insert key value other = table other :=
  Function.update_of_ne h ..

@[simp] theorem remove_self (key : κ) : table.remove key key = none :=
  Function.update_self ..

theorem remove_of_eq_none {key : κ} (h : table key = none) : table.remove key = table := by
  rw [remove, ← h, Function.update_eq_self]

theorem remove_of_ne {key other : κ} (h : other ≠ key) :
    table.remove key other = table other :=
  Function.update_of_ne h ..

end Table

end Machine
