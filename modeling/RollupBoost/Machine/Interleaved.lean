import RollupBoost.Machine.Program
import RollupBoost.Machine.Run

/-!
# Interleaved programs

Any number of programs share one service. An event starts a program, or lets one of those that
were started make its next call. Every list of events is an interleaving.

A call may leave the state of the service wrong for some keys, as long as the program that made
it goes on to put them right. `Duties` says of single calls which keys they may break and which
they put right, whatever the state. A program is `Careful` if it settles each key that it breaks.
The duties of one program are not touched by the calls of another, so in every interleaving of
careful programs a key is right or owed by a program in progress. When none is in progress, all
keys are right.
-/

namespace Machine

variable {σ C ι κ : Type} {A : C → Type}

def Program.isDone {α : Type} : Program C A α → Bool
  | .done _ => true
  | .call _ _ => false

structure Interleaved (σ C : Type) (A : C → Type) where
  state : σ
  tasks : List (Program C A Unit)

namespace Interleaved

inductive Event (ι : Type) where
  | start (call : ι)
  | resume (index : Nat)

/-- The task makes its next call. A task that is done has none. -/
def resume (service : σ → (command : C) → A command × σ) (x : Interleaved σ C A) (index : Nat) :
    Interleaved σ C A :=
  match x.tasks[index]? with
  | some (.call command next) =>
      { state := (service x.state command).2
        tasks := x.tasks.set index (next (service x.state command).1) }
  | _ => x

def step (service : σ → (command : C) → A command × σ) (program : ι → Program C A Unit)
    (x : Interleaved σ C A) : Event ι → Interleaved σ C A
  | .start call => { x with tasks := x.tasks ++ [program call] }
  | .resume index => x.resume service index

/-- No program is in progress. -/
def Quiet (x : Interleaved σ C A) : Prop := ∀ task ∈ x.tasks, task.isDone = true

instance (x : Interleaved σ C A) : Decidable x.Quiet := List.decidableBAll _ _

variable {service : σ → (command : C) → A command × σ}

theorem resume_cases (x : Interleaved σ C A) (index : Nat) :
    x.resume service index = x ∨
    ∃ before after command next, x.tasks = before ++ .call command next :: after ∧
      x.resume service index =
        { state := (service x.state command).2
          tasks := before ++ next (service x.state command).1 :: after } := by
  cases htask : x.tasks[index]? with
  | none => exact .inl (by simp only [resume, htask])
  | some task =>
      cases task with
      | done value => exact .inl (by simp only [resume, htask])
      | call command next =>
          obtain ⟨hlt, hget⟩ := List.getElem?_eq_some_iff.mp htask
          refine .inr ⟨x.tasks.take index, x.tasks.drop (index + 1), command, next, ?_, ?_⟩
          · rw [← hget, ← List.drop_eq_getElem_cons hlt, List.take_append_drop]
          · simp only [resume, htask]
            rw [List.set_eq_take_append_cons_drop, if_pos hlt]

end Interleaved

/-! ## Duties -/

/-- What a single call does to the keys, in every state of the service. -/
structure Duties (κ : Type) (service : σ → (command : C) → A command × σ) where
  ok : κ → σ → Prop
  raises : (command : C) → A command → κ → Prop
  settles : C → κ → Prop
  ok_or_raises : ∀ {key s} command, ok key s →
    ok key (service s command).2 ∨ raises command (service s command).1 key
  ok_of_settles : ∀ {key s command}, settles command key → ok key (service s command).2

namespace Duties

variable {service : σ → (command : C) → A command × σ}

/-- Sooner or later the program settles the key, whatever answers it gets. -/
def Owes (duties : Duties κ service) (key : κ) : Program C A Unit → Prop
  | .done _ => False
  | .call command next => duties.settles command key ∨ ∀ answer, Owes duties key (next answer)

/-- After each call, the program owes what the call has raised. -/
def Careful (duties : Duties κ service) : Program C A Unit → Prop
  | .done _ => True
  | .call command next => ∀ answer,
      (∀ key, duties.raises command answer key → duties.Owes key (next answer)) ∧
        Careful duties (next answer)

variable {duties : Duties κ service} {x : Interleaved σ C A}

/-- A call of a program leaves a key right or owed by the program. -/
theorem ok_or_owes_next {key : κ} {s : σ} {command : C} {next : A command → Program C A Unit}
    (hcareful : duties.Careful (.call command next))
    (h : duties.ok key s ∨ duties.Owes key (.call command next)) :
    duties.ok key (service s command).2 ∨ duties.Owes key (next (service s command).1) := by
  obtain hok | hsettles | howes := h
  · obtain hok | hraises := duties.ok_or_raises command hok
    · exact .inl hok
    · exact .inr ((hcareful _).1 key hraises)
  · exact .inl (duties.ok_of_settles hsettles)
  · exact .inr (howes _)

/-- Every key is right or owed by a task. -/
structure Kept (duties : Duties κ service) (x : Interleaved σ C A) : Prop where
  careful : ∀ task ∈ x.tasks, duties.Careful task
  kept : ∀ key, duties.ok key x.state ∨ ∃ task ∈ x.tasks, duties.Owes key task

theorem Kept.resume (h : duties.Kept x) (index : Nat) :
    duties.Kept (x.resume service index) := by
  obtain heq | ⟨before, after, command, next, htasks, heq⟩ := x.resume_cases index
  · rwa [heq]
  have hcareful := h.careful
  simp only [htasks, List.forall_mem_append, List.forall_mem_cons] at hcareful
  rw [heq]
  constructor
  · simp only [List.forall_mem_append, List.forall_mem_cons]
    exact ⟨hcareful.1, (hcareful.2.1 _).2, hcareful.2.2⟩
  · intro key
    have hnext : duties.ok key x.state ∨ duties.Owes key (.call command next) →
        duties.ok key (service x.state command).2 ∨
          ∃ task ∈ before ++ next (service x.state command).1 :: after, duties.Owes key task := by
      intro hown
      obtain hok | howes := ok_or_owes_next hcareful.2.1 hown
      · exact .inl hok
      · exact .inr ⟨_, by simp, howes⟩
    obtain hok | ⟨task, htask, howes⟩ := h.kept key
    · exact hnext (.inl hok)
    · rw [htasks, List.mem_append, List.mem_cons] at htask
      obtain htask | rfl | htask := htask
      · exact .inr ⟨task, by simp [htask], howes⟩
      · exact hnext (.inr howes)
      · exact .inr ⟨task, by simp [htask], howes⟩

theorem Kept.step {program : ι → Program C A Unit}
    (hprogram : ∀ call, duties.Careful (program call)) (x : Interleaved σ C A)
    (event : Interleaved.Event ι) (h : duties.Kept x) :
    duties.Kept (x.step service program event) := by
  cases event with
  | start call =>
      constructor
      · simp only [Interleaved.step, List.forall_mem_append, List.forall_mem_singleton]
        exact ⟨h.careful, hprogram call⟩
      · intro key
        obtain hok | ⟨task, htask, howes⟩ := h.kept key
        · exact .inl hok
        · exact .inr ⟨task, List.mem_append_left _ htask, howes⟩
  | resume index => exact h.resume index

theorem Kept.ok_of_quiet (h : duties.Kept x) (hquiet : x.Quiet) (key : κ) :
    duties.ok key x.state := by
  obtain hok | ⟨task, htask, howes⟩ := h.kept key
  · exact hok
  · cases task with
    | done value => exact absurd howes id
    | call command next => exact absurd (hquiet _ htask) (by simp [Program.isDone])

/-- In every interleaving of careful programs, all keys are right whenever no program is in
progress. -/
theorem ok_of_run {program : ι → Program C A Unit}
    (hprogram : ∀ call, duties.Careful (program call)) {s : σ} (hstart : ∀ key, duties.ok key s)
    (events : List (Interleaved.Event ι))
    (hquiet : (run (Interleaved.step service program) ⟨s, []⟩ events).Quiet) (key : κ) :
    duties.ok key (run (Interleaved.step service program) ⟨s, []⟩ events).state := by
  have hinitial : duties.Kept ⟨s, []⟩ := ⟨by simp, fun key => .inl (hstart key)⟩
  have hkept : duties.Kept (run (Interleaved.step service program) ⟨s, []⟩ events) :=
    run_invariant (Kept.step hprogram) hinitial events
  exact hkept.ok_of_quiet hquiet key

end Duties

end Machine
