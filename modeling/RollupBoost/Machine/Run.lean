import Mathlib.Data.List.Basic

/-!
# Finite runs of a total step function

A machine is a function `step : σ → ε → σ`. An event that is not enabled in a
state leaves that state unchanged, so every list of events is a schedule and the
quantifier over schedules is an ordinary quantifier over lists.

`Along step guard s es` says that each event of the schedule meets `guard` at the
state it acts on. It separates the environment's discipline from the invariant
that the discipline protects: the invariant is proved for one guarded step, and
`Along.run_invariant` carries it through the schedule.
-/

namespace Machine

universe u v w

variable {σ : Type u} {ε : Type v} {ο : Type w}

/-- The state after all the events of a schedule. -/
def run (step : σ → ε → σ) (s : σ) (es : List ε) : σ := es.foldl step s

/-- Every event meets `guard` at the state it acts on. -/
def Along (step : σ → ε → σ) (guard : σ → ε → Prop) : σ → List ε → Prop
  | _, [] => True
  | s, e :: es => guard s e ∧ Along step guard (step s e) es

/-- What an observer sees: one output for each event, in order. -/
def outputs (step : σ → ε → σ) (out : σ → ε → ο) : σ → List ε → List ο
  | _, [] => []
  | s, e :: es => out s e :: outputs step out (step s e) es

variable {step : σ → ε → σ} {guard : σ → ε → Prop}
variable {s : σ} {e : ε} {es fs : List ε}

@[simp] theorem run_nil (step : σ → ε → σ) (s : σ) : run step s [] = s := rfl

@[simp] theorem run_cons (step : σ → ε → σ) (s : σ) (e : ε) (es : List ε) :
    run step s (e :: es) = run step (step s e) es := rfl

theorem run_append (step : σ → ε → σ) (s : σ) (es fs : List ε) :
    run step s (es ++ fs) = run step (run step s es) fs :=
  List.foldl_append

@[simp] theorem run_concat (step : σ → ε → σ) (s : σ) (es : List ε) (e : ε) :
    run step s (es ++ [e]) = step (run step s es) e := by
  rw [run_append]
  rfl

/-- What one step preserves, a run preserves. -/
theorem run_invariant {I : σ → Prop} (preserves : ∀ s e, I s → I (step s e))
    (initial : I s) (es : List ε) : I (run step s es) := by
  induction es generalizing s with
  | nil => exact initial
  | cons e es ih => exact ih (preserves s e initial)

namespace Along

instance decidable (step : σ → ε → σ) (guard : σ → ε → Prop)
    [∀ s e, Decidable (guard s e)] : ∀ s es, Decidable (Along step guard s es)
  | _, [] => isTrue trivial
  | s, e :: es =>
      haveI := decidable step guard (step s e) es
      inferInstanceAs (Decidable (guard s e ∧ Along step guard (step s e) es))

theorem append_iff :
    Along step guard s (es ++ fs) ↔
      Along step guard s es ∧ Along step guard (run step s es) fs := by
  induction es generalizing s with
  | nil => simp [Along]
  | cons e es ih => simp only [List.cons_append, Along, ih, run_cons, and_assoc]

theorem concat_iff :
    Along step guard s (es ++ [e]) ↔
      Along step guard s es ∧ guard (run step s es) e := by
  rw [append_iff]
  simp [Along]

/-- Guards that agree at every state and event agree along every schedule. -/
theorem congr {guard' : σ → ε → Prop} (h : ∀ s e, guard s e ↔ guard' s e) :
    Along step guard s es ↔ Along step guard' s es := by
  induction es generalizing s with
  | nil => rfl
  | cons e es ih => simp only [Along, h, ih]

/-- The guard holds at every cut of the schedule. -/
theorem iff_forall_cut :
    Along step guard s es ↔
      ∀ before e after, es = before ++ e :: after → guard (run step s before) e := by
  constructor
  · rintro h before e after rfl
    exact (append_iff.mp h).2.1
  · intro h
    induction es generalizing s with
    | nil => trivial
    | cons e es ih =>
        refine ⟨h [] e es rfl, ih ?_⟩
        rintro before e' after rfl
        exact h (e :: before) e' after rfl

/-- An invariant of guarded steps holds at the end of a guarded run. -/
theorem run_invariant {I : σ → Prop}
    (preserves : ∀ s e, I s → guard s e → I (step s e))
    (h : Along step guard s es) (initial : I s) : I (run step s es) := by
  induction es generalizing s with
  | nil => exact initial
  | cons e es ih => exact ih h.2 (preserves s e initial h.1)

/-- What an invariant of guarded steps and the guard imply holds along a guarded run. -/
theorem of_invariant {I : σ → Prop} {guard' : σ → ε → Prop}
    (preserves : ∀ s e, I s → guard s e → I (step s e))
    (implies : ∀ s e, I s → guard s e → guard' s e)
    (h : Along step guard s es) (initial : I s) : Along step guard' s es := by
  induction es generalizing s with
  | nil => trivial
  | cons e es ih => exact ⟨implies s e initial h.1, ih h.2 (preserves s e initial h.1)⟩

/-- Along a run that keeps to `context`, guards that agree wherever an invariant holds agree
along the run, if the invariant survives guarded steps. -/
theorem congr_of_invariant {I : σ → Prop} {context guard' : σ → ε → Prop}
    (same : ∀ s e, I s → context s e → (guard s e ↔ guard' s e))
    (preserves : ∀ s e, I s → context s e → guard s e → I (step s e))
    (h : Along step context s es) (initial : I s) :
    Along step guard s es ↔ Along step guard' s es := by
  induction es generalizing s with
  | nil => rfl
  | cons e es ih =>
      have hrest : guard s e → (Along step guard (step s e) es ↔ Along step guard' (step s e) es) :=
        fun hguard => ih h.2 (preserves s e initial h.1 hguard)
      simp only [Along]
      rw [and_congr_right hrest, same s e initial h.1]

theorem of_forall {p : ε → Prop} (hp : ∀ e ∈ es, p e) : Along step (fun _ e => p e) s es := by
  induction es generalizing s with
  | nil => trivial
  | cons e es ih =>
      refine ⟨hp e List.mem_cons_self, ih ?_⟩
      exact fun other hother => hp other (List.mem_cons_of_mem _ hother)

/-- What holds along a run holds along the run of a machine with more state. -/
theorem of_projection {τ : Type*} {step' : τ → ε → τ} {proj : τ → σ}
    (commutes : ∀ t e, proj (step' t e) = step (proj t) e) {t : τ}
    (h : Along step guard (proj t) es) : Along step' (fun t e => guard (proj t) e) t es := by
  induction es generalizing t with
  | nil => trivial
  | cons e es ih =>
      refine ⟨h.1, ih ?_⟩
      rw [commutes]
      exact h.2

/-- What all events have in common can be made part of the guard. -/
theorem and_forall {p : ε → Prop} (h : Along step guard s es) (hp : ∀ e ∈ es, p e) :
    Along step (fun s e => guard s e ∧ p e) s es := by
  induction es generalizing s with
  | nil => trivial
  | cons e es ih =>
      refine ⟨⟨h.1, hp e List.mem_cons_self⟩, ih h.2 ?_⟩
      exact fun other hother => hp other (List.mem_cons_of_mem _ hother)

end Along

@[simp] theorem outputs_nil (step : σ → ε → σ) (out : σ → ε → ο) (s : σ) :
    outputs step out s [] = [] := rfl

@[simp] theorem outputs_cons (step : σ → ε → σ) (out : σ → ε → ο) (s : σ) (e : ε)
    (es : List ε) :
    outputs step out s (e :: es) = out s e :: outputs step out (step s e) es := rfl

/-- A guarded run of a machine is a run of a coarser one, if every step is: under an invariant it
stands for the events `emit` of the coarser machine, which may be none. -/
theorem Along.run_refines {τ φ : Type*} {coarse : τ → φ → τ} {view : σ → τ}
    {emit : σ → ε → List φ} {I : σ → Prop}
    (refines : ∀ s e, I s → guard s e →
      I (step s e) ∧ view (step s e) = run coarse (view s) (emit s e))
    (h : Along step guard s es) (initial : I s) :
    view (run step s es) = run coarse (view s) (outputs step emit s es).flatten := by
  induction es generalizing s with
  | nil => rfl
  | cons e es ih =>
      obtain ⟨hguard, hrest⟩ := h
      obtain ⟨hinv, hview⟩ := refines s e initial hguard
      rw [run_cons, outputs_cons, List.flatten_cons, run_append, ← hview]
      exact ih hrest hinv

end Machine
