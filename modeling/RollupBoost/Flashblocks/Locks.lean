import RollupBoost.Flashblocks.Service

/-!
# The service at lock granularity

`current_payload_id` and `best_payload` are guarded by two separate locks. Here each
acquisition is one atomic step, and the calls of the Engine API are tasks that are
interleaved at will with each other and with the single loop over the websocket
messages:

* `set_current_payload_id` writes the id, then resets the builder;
* `on_event` reads and compares the id, then extends the builder and publishes;
* `get_best_payload` reads and compares the id, then takes the builder.

The builder is a `TracedBuilder`, and each envelope that a call returned is recorded
with the sources it was built from. An operation that is not interrupted behaves as
in `Flashblocks.Service`: `run_schedule` runs any sequence of atomic operations here.
-/

namespace RollupBoost

open Machine

/-- Where a call stands, named by the step it takes next. A `set_current_payload_id`
is called from the two ends of `fork_choice_updated_v3`; `next` holds the builder's
answer when it is the first of them. -/
inductive Task where
  | write (payloadId : PayloadId) (next : Option (ClientResult ForkchoiceUpdated))
  | reset (next : Option (ClientResult ForkchoiceUpdated))
  | await (answer : ClientResult ForkchoiceUpdated)
  | compare (payloadId : PayloadId)
  | check (version : PayloadVersion) (payloadId : PayloadId)
  | take (version : PayloadVersion) (payloadId : PayloadId)
  | done

def Task.isReset : Task → Bool
  | .reset _ => true
  | _ => false

/-- An envelope that `get_best_payload` returned, with what went into it. -/
structure Returned where
  version : PayloadVersion
  payloadId : PayloadId
  sources : List FlashblocksPayloadV1
  envelope : OpExecutionPayloadEnvelope

structure Locks where
  currentPayloadId : Option PayloadId
  bestPayload : TracedBuilder
  wsPub : List FlashblocksPayloadV1
  /-- The message that `on_event` has compared and not yet handed to the builder. -/
  received : Option FlashblocksPayloadV1
  tasks : List Task
  returned : List Returned

namespace Locks

def new : Locks :=
  { currentPayloadId := none
    bestPayload := .new
    wsPub := []
    received := none
    tasks := []
    returned := [] }

/-- One lock acquisition of a call, and where the call stands after it. -/
def act (s : Locks) : Task → Locks × Task
  | .write payloadId next => ({ s with currentPayloadId := some payloadId }, .reset next)
  | .reset next =>
      ({ s with bestPayload := .new },
        match next with
        | some answer => .await answer
        | none => .done)
  | .await answer =>
      (s, match answer with
        | .error _ => .done
        | .ok resp =>
            match resp.payloadId with
            | some payloadId => .compare payloadId
            | none => .done)
  | .compare payloadId =>
      (s, if s.currentPayloadId ≠ some payloadId then .write payloadId none else .done)
  | .check version payloadId =>
      (s, if s.currentPayloadId ≠ some payloadId then .done else .take version payloadId)
  | .take version payloadId =>
      ({ s with
          bestPayload := .new
          returned := s.returned ++
            match s.bestPayload.builder.intoEnvelope version with
            | .ok envelope => [⟨version, payloadId, s.bestPayload.sources, envelope⟩]
            | .error _ => [] },
        .done)
  | .done => (s, .done)

inductive Event where
  | forkChoiceUpdatedV3 (calculated : Option PayloadId) (answer : ClientResult ForkchoiceUpdated)
  | setCurrentPayloadId (payloadId : PayloadId)
  | getBestPayload (version : PayloadVersion) (payloadId : PayloadId)
  | act (i : Nat)
  | receive (payload : FlashblocksPayloadV1)
  | extend

/-- A call starts as a new task; `act i` lets task `i` take one step. The loop
receives the next message only when it is done with the previous one. -/
def step (s : Locks) : Event → Locks
  | .forkChoiceUpdatedV3 calculated answer =>
      { s with
        tasks := s.tasks ++
          [match calculated with
            | some payloadId => .write payloadId (some answer)
            | none => .await answer] }
  | .setCurrentPayloadId payloadId => { s with tasks := s.tasks ++ [.write payloadId none] }
  | .getBestPayload version payloadId => { s with tasks := s.tasks ++ [.check version payloadId] }
  | .act i =>
      match s.tasks[i]? with
      | none => s
      | some t => { (s.act t).1 with tasks := s.tasks.set i (s.act t).2 }
  | .receive payload =>
      match s.received with
      | some _ => s
      | none =>
          if s.currentPayloadId = some payload.payloadId then { s with received := some payload }
          else s
  | .extend =>
      match s.received with
      | none => s
      | some payload =>
          match s.bestPayload.extend payload with
          | (best, .error _) => { s with bestPayload := best, received := none }
          | (best, .ok _) =>
              { s with bestPayload := best, wsPub := s.wsPub ++ [payload], received := none }

/-- Some call has written its id and has not reset the builder yet. -/
def ResetPending (s : Locks) : Prop := ∃ t ∈ s.tasks, t.isReset = true

instance (s : Locks) : Decidable s.ResetPending :=
  inferInstanceAs (Decidable (∃ t ∈ s.tasks, t.isReset = true))

/-! ## What one step can do -/

/-- A task other than the one that acts stays where it was. -/
theorem mem_set_of_mem {tasks : List Task} {i : Nat} {t t' u : Task}
    (acting : tasks[i]? = some t) (hu : u ∈ tasks) (hne : u ≠ t) : u ∈ tasks.set i t' := by
  obtain ⟨j, hj⟩ := List.mem_iff_getElem?.mp hu
  have hij : i ≠ j := by
    rintro rfl
    exact hne (Option.some.inj (hj.symm.trans acting))
  exact List.mem_iff_getElem?.mpr ⟨j, by rw [List.getElem?_set_ne hij, hj]⟩

theorem step_act {s : Locks} {i : Nat} {t : Task} (acting : s.tasks[i]? = some t) :
    s.step (.act i) = { (s.act t).1 with tasks := s.tasks.set i (s.act t).2 } := by
  simp only [step, acting]

theorem step_act_none {s : Locks} {i : Nat} (idle : s.tasks[i]? = none) :
    s.step (.act i) = s := by
  simp only [step, idle]

theorem step_extend {s : Locks} {payload : FlashblocksPayloadV1}
    (h : s.received = some payload) :
    s.step .extend =
      if accepts : s.bestPayload.builder.Accepts payload then
        { s with
          bestPayload := ⟨s.bestPayload.builder.push payload,
            s.bestPayload.sources ++ [payload], s.bestPayload.builds.push accepts⟩
          wsPub := s.wsPub ++ [payload]
          received := none }
      else { s with received := none } := by
  by_cases accepts : s.bestPayload.builder.Accepts payload
  · simp only [step, h, TracedBuilder.extend, dif_pos accepts]
  · obtain ⟨e, he⟩ := FlashblockBuilder.extend_of_not_accepts accepts
    simp only [step, h, TracedBuilder.extend, dif_neg accepts, he]

theorem step_extend_none {s : Locks} (h : s.received = none) : s.step .extend = s := by
  simp only [step, h]

/-- The loop is busy, or drops the message, or has compared it. -/
theorem step_receive (s : Locks) (payload : FlashblocksPayloadV1) :
    s.step (.receive payload) =
      if s.received = none ∧ s.currentPayloadId = some payload.payloadId then
        { s with received := some payload }
      else s := by
  cases hreceived : s.received with
  | none => simp [step, hreceived]
  | some busy => simp [step, hreceived]

/-- All that a step can do to the two guarded cells: leave both as they are and every
pending reset pending; select an id, which leaves its reset pending; empty the
builder; or append the compared message. -/
theorem step_cases (s : Locks) (e : Event) :
    ((s.step e).currentPayloadId = s.currentPayloadId ∧
      (s.step e).bestPayload = s.bestPayload ∧
      (s.ResetPending → (s.step e).ResetPending)) ∨
    ((s.step e).ResetPending ∧ (s.step e).bestPayload = s.bestPayload) ∨
    (s.step e).bestPayload = .new ∨
    (∃ payload, e = .extend ∧ s.received = some payload ∧
      s.bestPayload.builder.Accepts payload ∧
      (s.step e).currentPayloadId = s.currentPayloadId ∧
      (s.step e).tasks = s.tasks ∧
      (s.step e).bestPayload.sources = s.bestPayload.sources ++ [payload]) := by
  have hspawn : ∀ t : Task, s.ResetPending →
      ResetPending { s with tasks := s.tasks ++ [t] } := by
    rintro t ⟨u, hu, hreset⟩
    exact ⟨u, List.mem_append_left _ hu, hreset⟩
  cases e with
  | forkChoiceUpdatedV3 calculated answer => exact .inl ⟨rfl, rfl, hspawn _⟩
  | setCurrentPayloadId payloadId => exact .inl ⟨rfl, rfl, hspawn _⟩
  | getBestPayload version payloadId => exact .inl ⟨rfl, rfl, hspawn _⟩
  | receive payload =>
      left
      rw [step_receive]
      split
      · exact ⟨rfl, rfl, id⟩
      · exact ⟨rfl, rfl, id⟩
  | extend =>
      cases hreceived : s.received with
      | none =>
          rw [step_extend_none hreceived]
          exact .inl ⟨rfl, rfl, id⟩
      | some payload =>
          rw [step_extend hreceived]
          by_cases accepts : s.bestPayload.builder.Accepts payload
          · rw [dif_pos accepts]
            exact .inr (.inr (.inr ⟨payload, rfl, rfl, accepts, rfl, rfl, rfl⟩))
          · rw [dif_neg accepts]
            exact .inl ⟨rfl, rfl, id⟩
  | act i =>
      cases hacting : s.tasks[i]? with
      | none =>
          rw [step_act_none hacting]
          exact .inl ⟨rfl, rfl, id⟩
      | some t =>
          rw [step_act hacting]
          have hkeep : t.isReset = false → s.ResetPending →
              ResetPending { (s.act t).1 with tasks := s.tasks.set i (s.act t).2 } := by
            rintro hother ⟨u, hu, hreset⟩
            have hne : u ≠ t := by
              rintro rfl
              rw [hother] at hreset
              cases hreset
            exact ⟨u, mem_set_of_mem hacting hu hne, hreset⟩
          cases t with
          | write payloadId next =>
              have hlt : i < s.tasks.length := (List.getElem?_eq_some_iff.mp hacting).1
              exact .inr (.inl ⟨⟨_, List.mem_set hlt _, rfl⟩, rfl⟩)
          | reset next => exact .inr (.inr (.inl rfl))
          | await answer => exact .inl ⟨rfl, rfl, hkeep rfl⟩
          | compare payloadId => exact .inl ⟨rfl, rfl, hkeep rfl⟩
          | check version payloadId => exact .inl ⟨rfl, rfl, hkeep rfl⟩
          | take version payloadId => exact .inr (.inr (.inl rfl))
          | done => exact .inl ⟨rfl, rfl, hkeep rfl⟩

/-- An envelope is returned only by a task that takes a builder, and it is the
assembly of what the builder held. -/
theorem returned_cases (s : Locks) (e : Event) :
    (s.step e).returned = s.returned ∨
    ∃ i version payloadId envelope, e = .act i ∧
      s.tasks[i]? = some (.take version payloadId) ∧
      assemble version s.bestPayload.sources = some envelope ∧
      (s.step e).returned =
        s.returned ++ [⟨version, payloadId, s.bestPayload.sources, envelope⟩] := by
  cases e with
  | forkChoiceUpdatedV3 calculated answer => exact .inl rfl
  | setCurrentPayloadId payloadId => exact .inl rfl
  | getBestPayload version payloadId => exact .inl rfl
  | receive payload =>
      left
      rw [step_receive]
      split <;> rfl
  | extend =>
      left
      cases hreceived : s.received with
      | none => rw [step_extend_none hreceived]
      | some payload =>
          rw [step_extend hreceived]
          split <;> rfl
  | act i =>
      cases hacting : s.tasks[i]? with
      | none => exact .inl (by rw [step_act_none hacting])
      | some t =>
          rw [step_act hacting]
          cases t with
          | take version payloadId =>
              simp only [act, FlashblockBuilder.intoEnvelope,
                s.bestPayload.builds.buildEnvelope_eq version]
              cases hassemble : assemble version s.bestPayload.sources with
              | none => exact .inl (by simp)
              | some envelope =>
                  exact .inr ⟨i, version, payloadId, envelope, rfl, hacting, hassemble, rfl⟩
          | _ => exact .inl rfl

/-! ## Uninterrupted operations -/

/-- The service as the atomic model sees it. -/
def erase (s : Locks) : FlashblocksService :=
  { currentPayloadId := s.currentPayloadId
    bestPayload := s.bestPayload.builder
    wsPub := s.wsPub }

/-- The newest task takes a step. -/
theorem step_act_last {s : Locks} {ts : List Task} {t : Task} (h : s.tasks = ts ++ [t]) :
    s.step (.act ts.length) = { (s.act t).1 with tasks := ts ++ [(s.act t).2] } := by
  have hacting : s.tasks[ts.length]? = some t := by simp [h]
  rw [step_act hacting, h, List.set_append_right _ _ (Nat.le_refl _)]
  simp

/-- The steps of one operation with nothing in between, when `n` tasks exist. -/
def uninterrupted (n : Nat) : FlashblocksService.Op → List Event
  | .setCurrentPayloadId payloadId => [.setCurrentPayloadId payloadId, .act n, .act n]
  | .onEvent payload => [.receive payload, .extend]
  | .getBestPayload version payloadId => [.getBestPayload version payloadId, .act n, .act n]

/-- The number of tasks that an operation leaves behind. -/
def calls : FlashblocksService.Op → Nat
  | .onEvent _ => 0
  | _ => 1

theorem run_uninterrupted (s : Locks) (idle : s.received = none) (op : FlashblocksService.Op) :
    (run step s (uninterrupted s.tasks.length op)).received = none ∧
    (run step s (uninterrupted s.tasks.length op)).tasks.length = s.tasks.length + calls op ∧
    (run step s (uninterrupted s.tasks.length op)).erase = s.erase.step op := by
  cases op with
  | setCurrentPayloadId payloadId =>
      have hcall : s.step (.setCurrentPayloadId payloadId) =
          { s with tasks := s.tasks ++ [.write payloadId none] } := rfl
      have hwrite := step_act_last
        (show (s.step (.setCurrentPayloadId payloadId)).tasks = s.tasks ++ [.write payloadId none]
          from rfl)
      simp only [uninterrupted, run_cons, run_nil]
      rw [hwrite]
      simp only [act, hcall]
      rw [step_act_last rfl]
      exact ⟨idle, by simp [calls], rfl⟩
  | onEvent payload =>
      simp only [uninterrupted, run_cons, run_nil, step_receive, idle, true_and]
      change _ ∧ _ ∧ _ = s.erase.onEvent payload
      rw [FlashblocksService.onEvent_eq]
      by_cases hcurrent : s.currentPayloadId = some payload.payloadId
      · rw [if_pos hcurrent, step_extend rfl]
        by_cases haccepts : s.bestPayload.builder.Accepts payload
        · rw [dif_pos haccepts, if_pos ⟨hcurrent, haccepts⟩]
          exact ⟨rfl, rfl, rfl⟩
        · rw [dif_neg haccepts, if_neg (fun h => haccepts h.2)]
          exact ⟨rfl, rfl, rfl⟩
      · rw [if_neg hcurrent, if_neg (fun h => hcurrent h.1), step_extend_none idle]
        exact ⟨idle, rfl, rfl⟩
  | getBestPayload version payloadId =>
      have hcall : s.step (.getBestPayload version payloadId) =
          { s with tasks := s.tasks ++ [.check version payloadId] } := rfl
      have hop : s.erase.step (.getBestPayload version payloadId) =
          (s.erase.getBestPayload version payloadId).1 := rfl
      have hcheck := step_act_last
        (show (s.step (.getBestPayload version payloadId)).tasks =
          s.tasks ++ [.check version payloadId] from rfl)
      simp only [uninterrupted, run_cons, run_nil, hop]
      rw [hcheck, hcall]
      by_cases hcurrent : s.currentPayloadId = some payloadId
      · simp only [act, hcurrent, ne_eq, not_true_eq_false, if_false]
        rw [step_act_last rfl]
        refine ⟨idle, by simp [calls], ?_⟩
        simp [FlashblocksService.getBestPayload, erase, act, hcurrent, TracedBuilder.new]
      · simp only [act, hcurrent, ne_eq, not_false_eq_true, if_true]
        rw [step_act_last rfl]
        refine ⟨idle, by simp [calls], ?_⟩
        simp [FlashblocksService.getBestPayload, erase, act, hcurrent]

/-- A sequence of operations, each run to its end before the next one starts. -/
def schedule : Nat → List FlashblocksService.Op → List Event
  | _, [] => []
  | n, op :: ops => uninterrupted n op ++ schedule (n + calls op) ops

/-- The atomic model is the part of this one in which no operation is interrupted. -/
theorem run_schedule (s : Locks) (idle : s.received = none)
    (ops : List FlashblocksService.Op) :
    (run step s (schedule s.tasks.length ops)).erase = run FlashblocksService.step s.erase ops := by
  induction ops generalizing s with
  | nil => rfl
  | cons op ops ih =>
      obtain ⟨hidle, hlength, herase⟩ := s.run_uninterrupted idle op
      rw [schedule, run_append, ← hlength, ih _ hidle, herase]
      rfl

end Locks

end RollupBoost
