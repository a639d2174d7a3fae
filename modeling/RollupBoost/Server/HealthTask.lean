import RollupBoost.Server.Clock
import RollupBoost.Server.Validation

/-!
# The task of the health check

`HealthHandle::spawn` (`health.rs`) runs one round after the other. A round takes the time,
asks the L2 client for its latest block, reads the execution mode three times and asks the
builder, if the last read finds the mode `Enabled`. Everything else that the server does may
happen in between.

`RollupBoostServer.healthCheck` is a whole round at once. The rounds of the task are of that
kind, at the moment in which they end, as long as the mode stays the same from the first of its
reads to that moment: whatever the handlers do in the meantime, the task and the server then go
through the states of a run with atomic rounds. A switch of the mode within that time may leave
the probe unwritten, or have it show what was true of the mode before the switch.
-/

namespace RollupBoost

open Machine RollupBoostServer

/-- Where the task stands. After the answer of the L2 client it keeps the time of the round and
that answer. -/
inductive HealthPhase where
  | sleeping
  | askingL2 (now : UInt64)
  | readingDisabled (now : UInt64) (l2 : AuthClient)
  | readingDryRun (now : UInt64) (l2 : AuthClient)
  | readingEnabled (now : UInt64) (l2 : AuthClient)
  | askingBuilder (now : UInt64) (l2 : AuthClient)

namespace HealthPhase

/-- The mode has been read, and the round goes on. -/
def hasReadMode : HealthPhase → Bool
  | .readingDryRun .. | .readingEnabled .. | .askingBuilder .. => true
  | _ => false

end HealthPhase

/-- The task beside the server that it shares the mode, the probe and the clients with. -/
structure HealthHandle (T : Type) where
  server : RollupBoostServer T
  timestamp : MonotonicTimestamp
  phase : HealthPhase

inductive HealthEvent (T : Type) where
  /-- The sleep is over, or the task begins. -/
  | wake (reading : Reading)
  | l2Answers (l2 : AuthClient)
  | readMode
  | builderAnswers (builder : AuthClient)
  /-- Anything else that happens to the server. -/
  | other (event : Event T)

def Event.isHealthCheck {T : Type} : Event T → Bool
  | .healthCheck .. => true
  | _ => false

namespace HealthHandle

variable {T : Type}

def start (server : RollupBoostServer T) (timestamp : MonotonicTimestamp) : HealthHandle T where
  server := server
  timestamp := timestamp
  phase := .sleeping

/-- The end of a round that writes the probe. -/
def finish (x : HealthHandle T) (health : Health) : HealthHandle T :=
  { x with server := x.server.setHealth health, phase := .sleeping }

variable (api : EngineApiExt T) (config : ServerConfig)

def wake (x : HealthHandle T) (reading : Reading) : HealthHandle T :=
  match x.phase with
  | .sleeping =>
      let (timestamp, now) := x.timestamp.tick reading
      { x with timestamp := timestamp, phase := .askingL2 now }
  | _ => x

def l2Answers (x : HealthHandle T) (l2 : AuthClient) : HealthHandle T :=
  match x.phase with
  | .askingL2 now =>
      match RpcClient.getBlockByNumber l2 .latest false with
      | .ok block =>
          if tooOld config now block then x.finish .serviceUnavailable
          else { x with phase := .readingDisabled now l2 }
      | .error _ => x.finish .serviceUnavailable
  | _ => x

/-- Each operand of the disjunction takes the lock of the mode for itself. -/
def readMode (x : HealthHandle T) : HealthHandle T :=
  match x.phase with
  | .readingDisabled now l2 =>
      if x.server.executionMode.isDisabled then x.finish .healthy
      else { x with phase := .readingDryRun now l2 }
  | .readingDryRun now l2 =>
      if x.server.executionMode.isDryRun then x.finish .healthy
      else { x with phase := .readingEnabled now l2 }
  | .readingEnabled now l2 =>
      if x.server.executionMode.isEnabled then { x with phase := .askingBuilder now l2 }
      else { x with phase := .sleeping }
  | _ => x

def builderAnswers (x : HealthHandle T) (builder : AuthClient) : HealthHandle T :=
  match x.phase with
  | .askingBuilder now _ =>
      let reply := api.getBlockByNumber builder .latest false x.server.builderClient
      let x := { x with server := { x.server with builderClient := reply.client } }
      match reply.result with
      | .ok block =>
          if tooOld config now block then x.finish .partialContent else x.finish .healthy
      | .error _ => x.finish .partialContent
  | _ => x

def step (x : HealthHandle T) : HealthEvent T → HealthHandle T
  | .wake reading => x.wake reading
  | .l2Answers l2 => x.l2Answers config l2
  | .readMode => x.readMode
  | .builderAnswers builder => x.builderAnswers api config builder
  | .other event =>
      -- the rounds are those of the task
      if event.isHealthCheck then x else { x with server := x.server.step api config event }

/-! ## Rounds at once -/

/-- The latest block of the L2 client is not too old for a round. -/
def Fresh (l2 : AuthClient) (now : UInt64) : Prop :=
  ∃ block, RpcClient.getBlockByNumber l2 .latest false = .ok block ∧
    tooOld config now block = false

instance (l2 : AuthClient) (now : UInt64) : Decidable (Fresh config l2 now) :=
  match h : RpcClient.getBlockByNumber l2 .latest false with
  | .ok block =>
      decidable_of_iff (tooOld config now block = false) (by simp [Fresh, h])
  | .error e => isFalse (by simp [Fresh, h])

/-- The event of the server that a step stands for: a round, when it ends. A builder that was
not asked does not matter. -/
def atomically (x : HealthHandle T) : HealthEvent T → List (Event T)
  | .wake _ => []
  | .l2Answers l2 =>
      match x.phase with
      | .askingL2 now =>
          if Fresh config l2 now then [] else [.healthCheck l2 AuthClient.refused now]
      | _ => []
  | .readMode =>
      match x.phase with
      | .readingDisabled now l2 =>
          if x.server.executionMode.isDisabled then [.healthCheck l2 AuthClient.refused now]
          else []
      | .readingDryRun now l2 =>
          if x.server.executionMode.isDryRun then [.healthCheck l2 AuthClient.refused now] else []
      | _ => []
  | .builderAnswers builder =>
      match x.phase with
      | .askingBuilder now l2 => [.healthCheck l2 builder now]
      | _ => []
  | .other event => if event.isHealthCheck then [] else [event]

/-- The mode does not change between its first read and the end of the round. -/
def KeepsMode (x : HealthHandle T) : HealthEvent T → Prop
  | .other event => x.phase.hasReadMode = true →
      (x.server.step api config event).executionMode = x.server.executionMode
  | _ => True

/-- What the reads of the mode have found is still the case. -/
def Inv (x : HealthHandle T) : Prop :=
  match x.phase with
  | .sleeping => True
  | .askingL2 _ => True
  | .readingDisabled now l2 => Fresh config l2 now
  | .readingDryRun now l2 => Fresh config l2 now ∧ x.server.executionMode.isDisabled = false
  | .readingEnabled now l2 => Fresh config l2 now ∧ x.server.executionMode.isEnabled = true
  | .askingBuilder now l2 => Fresh config l2 now ∧ x.server.executionMode.isEnabled = true

theorem isEnabled_eq (mode : ExecutionMode) :
    mode.isEnabled = (!mode.isDisabled && !mode.isDryRun) := by
  cases mode <;> rfl

variable {api config} {x : HealthHandle T} {l2 builder : AuthClient} {now : UInt64}

theorem step_healthCheck_of_stale (server : RollupBoostServer T) (hstale : ¬ Fresh config l2 now) :
    server.step api config (.healthCheck l2 builder now) =
      server.setHealth .serviceUnavailable := by
  simp only [RollupBoostServer.step, handle, Handled.observe, healthCheck]
  cases hblock : RpcClient.getBlockByNumber l2 .latest false with
  | error e => rfl
  | ok block =>
      have hold : tooOld config now block = true := by
        by_contra hnew
        exact hstale ⟨block, hblock, by simpa using hnew⟩
      simp only [hold, if_true]

theorem step_healthCheck_of_fresh (server : RollupBoostServer T) (hfresh : Fresh config l2 now)
    (hmode : server.executionMode.isEnabled = false) :
    server.step api config (.healthCheck l2 builder now) = server.setHealth .healthy := by
  obtain ⟨block, hblock, hnew⟩ := hfresh
  simp [RollupBoostServer.step, handle, Handled.observe, healthCheck, hblock, hnew, hmode]

/-- The answer of the builder ends the round. -/
theorem builderAnswers_eq (hphase : x.phase = .askingBuilder now l2) (hfresh : Fresh config l2 now)
    (hmode : x.server.executionMode.isEnabled = true) :
    x.builderAnswers api config builder =
      { x with
        server := x.server.step api config (.healthCheck l2 builder now)
        phase := .sleeping } := by
  obtain ⟨block, hblock, hnew⟩ := hfresh
  simp only [builderAnswers, hphase, RollupBoostServer.step, handle, Handled.observe, healthCheck,
    hblock, hnew, hmode, Bool.not_true, Bool.false_eq_true, if_false, finish]
  cases (api.getBlockByNumber builder .latest false x.server.builderClient).result with
  | error e => rfl
  | ok block =>
      simp only
      split <;> rfl

theorem l2Answers_cases (config : ServerConfig) (hphase : x.phase = .askingL2 now) :
    (Fresh config l2 now ∧ x.l2Answers config l2 = { x with phase := .readingDisabled now l2 }) ∨
    (¬ Fresh config l2 now ∧ x.l2Answers config l2 = x.finish .serviceUnavailable) := by
  simp only [l2Answers, hphase]
  cases hblock : RpcClient.getBlockByNumber l2 .latest false with
  | error e => exact .inr ⟨by simp [Fresh, hblock], rfl⟩
  | ok block =>
      cases hold : tooOld config now block with
      | true => exact .inr ⟨by simp [Fresh, hblock, hold], by simp [hold]⟩
      | false => exact .inl ⟨⟨block, hblock, hold⟩, by simp [hold]⟩

/-! ## The task is one of atomic rounds -/

variable (api config) in
/-- A step keeps the invariant and does to the server what the events do that it stands for. -/
def Refines (x y : HealthHandle T) (events : List (Event T)) : Prop :=
  y.Inv config ∧ y.server = run (RollupBoostServer.step api config) x.server events

/-- A round ends as the atomic one. -/
theorem refines_finish {health : Health}
    (h : x.server.step api config (.healthCheck l2 builder now) = x.server.setHealth health) :
    Refines api config x (x.finish health) [.healthCheck l2 builder now] :=
  ⟨trivial, h.symm⟩

theorem Inv.wake (h : x.Inv config) (reading : Reading) :
    Refines api config x (x.wake reading) [] := by
  simp only [HealthHandle.wake]
  split
  · exact ⟨trivial, rfl⟩
  · exact ⟨h, rfl⟩

theorem Inv.l2Answers (h : x.Inv config) (l2 : AuthClient) :
    Refines api config x (x.l2Answers config l2) (x.atomically config (.l2Answers l2)) := by
  cases hphase : x.phase with
  | askingL2 now =>
      simp only [atomically, hphase]
      obtain ⟨hfresh, heq⟩ | ⟨hstale, heq⟩ := l2Answers_cases config hphase
      · rw [if_pos hfresh, heq]
        exact ⟨hfresh, rfl⟩
      · rw [if_neg hstale, heq]
        exact refines_finish (step_healthCheck_of_stale x.server hstale)
  | _ =>
      simp only [HealthHandle.l2Answers, atomically, hphase]
      exact ⟨h, rfl⟩

theorem Inv.readMode (h : x.Inv config) :
    Refines api config x x.readMode (x.atomically config .readMode) := by
  cases hphase : x.phase with
  | readingDisabled now l2 =>
      simp only [Inv, hphase] at h
      simp only [HealthHandle.readMode, atomically, hphase]
      cases hdisabled : x.server.executionMode.isDisabled with
      | true => exact refines_finish (step_healthCheck_of_fresh x.server h
          (by simp [isEnabled_eq, hdisabled]))
      | false => exact ⟨⟨h, hdisabled⟩, rfl⟩
  | readingDryRun now l2 =>
      simp only [Inv, hphase] at h
      simp only [HealthHandle.readMode, atomically, hphase]
      cases hdryRun : x.server.executionMode.isDryRun with
      | true => exact refines_finish (step_healthCheck_of_fresh x.server h.1
          (by simp [isEnabled_eq, hdryRun]))
      | false => exact ⟨⟨h.1, by simp [isEnabled_eq, h.2, hdryRun]⟩, rfl⟩
  | readingEnabled now l2 =>
      simp only [Inv, hphase] at h
      simp only [HealthHandle.readMode, atomically, hphase, h.2, if_true]
      exact ⟨h, rfl⟩
  | _ =>
      simp only [HealthHandle.readMode, atomically, hphase]
      exact ⟨h, rfl⟩

theorem Inv.builderAnswers (h : x.Inv config) (builder : AuthClient) :
    Refines api config x (x.builderAnswers api config builder)
      (x.atomically config (.builderAnswers builder)) := by
  cases hphase : x.phase with
  | askingBuilder now l2 =>
      simp only [Inv, hphase] at h
      simp only [atomically, hphase]
      rw [builderAnswers_eq hphase h.1 h.2]
      exact ⟨trivial, rfl⟩
  | _ =>
      simp only [HealthHandle.builderAnswers, atomically, hphase]
      exact ⟨h, rfl⟩

theorem Inv.other (h : x.Inv config) {event : Event T}
    (hkeeps : x.KeepsMode api config (.other event)) :
    Refines api config x (x.step api config (.other event))
      (x.atomically config (.other event)) := by
  simp only [HealthHandle.step, atomically]
  split
  · exact ⟨h, rfl⟩
  · refine ⟨?_, rfl⟩
    simp only [KeepsMode] at hkeeps
    cases hphase : x.phase with
    | sleeping => exact trivial
    | askingL2 now => exact trivial
    | readingDisabled now l2 => simpa only [Inv, hphase] using h
    | _ =>
        rw [hphase] at hkeeps
        simpa only [Inv, hphase, hkeeps rfl] using h

theorem Inv.step (h : x.Inv config) {event : HealthEvent T}
    (hkeeps : x.KeepsMode api config event) :
    Refines api config x (x.step api config event) (x.atomically config event) := by
  cases event with
  | wake reading => exact h.wake reading
  | l2Answers l2 => exact h.l2Answers l2
  | readMode => exact h.readMode
  | builderAnswers builder => exact h.builderAnswers builder
  | other event => exact h.other hkeeps

/-- If the mode does not change in the middle of a round, the server goes through a run with
atomic rounds. -/
theorem run_rounds_atomic (api : EngineApiExt T) (config : ServerConfig)
    (server : RollupBoostServer T) (timestamp : MonotonicTimestamp) (events : List (HealthEvent T))
    (hkeeps : Along (step api config) (KeepsMode api config) (start server timestamp) events) :
    (run (step api config) (start server timestamp) events).server =
      run (RollupBoostServer.step api config) server
        (outputs (step api config) (atomically config) (start server timestamp) events).flatten :=
  Along.run_refines (I := Inv config) (fun _ _ h hkeeps => h.step hkeeps) hkeeps trivial

/-- The latest block of this client is from second 200. -/
def latest200 : AuthClient :=
  { AuthClient.refused with getBlockByNumber := fun _ _ => .ok { timestamp := 200 } }

def clock200 : MonotonicTimestamp := { lastUnix := 200, lastInstant := 0 }

def reading0 : Reading := { elapsed := 0, now := 0, ordered := le_rfl }

/-- A round that finds the builder down, while a payload is fetched. -/
def builderDown : List (HealthEvent Unit) :=
  [.wake reading0, .l2Answers latest200, .readMode, .readMode, .readMode,
    .other (.getPayload ⟨.refused, .refused, .refused⟩ .v3 7), .builderAnswers .refused]

theorem run_rounds_atomic_builderDown :
    let x := run (step RpcClient.engineApi plainConfig) (start (.new () .enabled) clock200)
      builderDown
    x.server.health = .partialContent ∧
    x.server = run (RollupBoostServer.step RpcClient.engineApi plainConfig) (.new () .enabled)
      [.getPayload ⟨.refused, .refused, .refused⟩ .v3 7, .healthCheck latest200 .refused 200] :=
  ⟨rfl, run_rounds_atomic RpcClient.engineApi plainConfig (.new () .enabled) clock200 builderDown
    ⟨trivial, trivial, trivial, trivial, trivial, fun _ => rfl, trivial, trivial⟩⟩

-- a switch from `DryRun` to `Disabled` between two reads: nothing is written, although the L2
-- client has recovered
example :
    (run (step RpcClient.engineApi plainConfig) (start (.new () .dryRun) clock200)
      [.wake reading0, .l2Answers .refused, .wake reading0, .l2Answers latest200, .readMode,
        .other (.setExecutionMode .disabled), .readMode, .readMode]).server.health =
      .serviceUnavailable := rfl

end HealthHandle

end RollupBoost
