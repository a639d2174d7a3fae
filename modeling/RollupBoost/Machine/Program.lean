import Mathlib.Logic.Basic

/-!
# Programs that call a service

A program either ends with a value or calls the service with a command and goes on with the
answer. Running it alone is `exec`; a scheduler that interleaves several programs takes one
call at a time.

`Obeys` is what such a scheduler can rely on without looking into a program: whatever answers
it gets, the program only makes calls that a monitor allows. The monitor keeps a record of the
calls made so far and of their answers.
-/

namespace Machine

inductive Program (C : Type) (A : C → Type) (α : Type) where
  | done (value : α)
  | call (command : C) (next : A command → Program C A α)

namespace Program

variable {C : Type} {A : C → Type} {α β σ γ : Type}

def bind : Program C A α → (α → Program C A β) → Program C A β
  | .done value, f => f value
  | .call command next, f => .call command fun answer => (next answer).bind f

instance : Monad (Program C A) where
  pure := .done
  bind := bind

def perform (command : C) : Program C A (A command) := .call command .done

@[simp] theorem pure_eq (value : α) : (pure value : Program C A α) = .done value := rfl

@[simp] theorem done_bind (value : α) (f : α → Program C A β) :
    (Program.done value >>= f) = f value := rfl

@[simp] theorem call_bind (command : C) (next : A command → Program C A α)
    (f : α → Program C A β) :
    (Program.call command next >>= f) = .call command fun answer => next answer >>= f := rfl

@[simp] theorem perform_bind (command : C) (f : A command → Program C A β) :
    (perform command >>= f) = .call command f := rfl

/-! ## Running alone -/

/-- The value and the state of the service in the end. -/
def exec (service : σ → (command : C) → A command × σ) : Program C A α → σ → α × σ
  | .done value, s => (value, s)
  | .call command next, s =>
      (next (service s command).1).exec service (service s command).2

variable {service : σ → (command : C) → A command × σ}

@[simp] theorem exec_done (value : α) (s : σ) :
    (Program.done value : Program C A α).exec service s = (value, s) := rfl

@[simp] theorem exec_call (command : C) (next : A command → Program C A α) (s : σ) :
    (Program.call command next).exec service s =
      (next (service s command).1).exec service (service s command).2 := rfl

theorem exec_bind (program : Program C A α) (f : α → Program C A β) (s : σ) :
    (program >>= f).exec service s =
      (f (program.exec service s).1).exec service (program.exec service s).2 := by
  induction program generalizing s with
  | done value => rfl
  | call command next ih => exact ih _ _

/-! ## Calls under a monitor -/

/-- What calls are allowed after which record, and how a call extends the record. -/
structure Monitor (C : Type) (A : C → Type) (γ : Type) where
  may : γ → C → Prop
  next : γ → (command : C) → A command → γ

/-- Every call is allowed when it is made, and the value fits the record in the end. -/
def Obeys (monitor : Monitor C A γ) (post : γ → α → Prop) : Program C A α → γ → Prop
  | .done value, record => post record value
  | .call command next, record => monitor.may record command ∧
      ∀ answer, (next answer).Obeys monitor post (monitor.next record command answer)

variable {monitor : Monitor C A γ} {post : γ → α → Prop} {post' : γ → β → Prop}

theorem Obeys.bind {program : Program C A α} {f : α → Program C A β} {record : γ}
    (h : program.Obeys monitor post record)
    (hnext : ∀ record value, post record value → (f value).Obeys monitor post' record) :
    (program >>= f).Obeys monitor post' record := by
  induction program generalizing record with
  | done value => exact hnext record value h
  | call command next ih => exact ⟨h.1, fun answer => ih answer (h.2 answer)⟩

theorem Obeys.mono {post' : γ → α → Prop} {program : Program C A α} {record : γ}
    (h : program.Obeys monitor post record)
    (hpost : ∀ record value, post record value → post' record value) :
    program.Obeys monitor post' record := by
  induction program generalizing record with
  | done value => exact hpost record value h
  | call command next ih => exact ⟨h.1, fun answer => ih answer (h.2 answer)⟩

/-- An invariant of state and record that every allowed call keeps holds in the end. -/
theorem Obeys.exec_invariant {I : σ → γ → Prop} {program : Program C A α} {record : γ} {s : σ}
    (h : program.Obeys monitor post record) (hI : I s record)
    (hcall : ∀ s record command, I s record → monitor.may record command →
      I (service s command).2 (monitor.next record command (service s command).1)) :
    ∃ record', post record' (program.exec service s).1 ∧ I (program.exec service s).2 record' := by
  induction program generalizing record s with
  | done value => exact ⟨record, h, hI⟩
  | call command next ih => exact ih _ (h.2 _) (hcall s record command hI h.1)

end Program

end Machine
