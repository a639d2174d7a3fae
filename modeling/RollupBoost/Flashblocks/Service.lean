import RollupBoost.Engine.Client
import RollupBoost.Flashblocks.Builder
import RollupBoost.Machine.Run

/-!
# The flashblocks service

`FlashblocksService` (`flashblocks/service.rs`) stands between the server and the
builder. A forkchoice update selects the payload id that is being built, websocket
messages for that id extend the builder and are published as preconfirmations, and
a `getPayload` takes the builder's content as the block.

Here each operation is one step; `Flashblocks.Locks` splits them at their lock
acquisitions. `wsPub` records every message handed to the publisher. Its broadcast
channel is kept open by the publisher's own listener, so handing over is sending.
Metrics and log lines are left out.

A `Session` pairs the service with what was published since its builder was last
emptied. That list is all the state a reader of the broadcast can reconstruct, and
the invariant of the service is that the builder holds exactly this list.
-/

namespace RollupBoost

open Machine

structure FlashblocksService where
  /-- `none` until a forkchoice update with attributes was served. -/
  currentPayloadId : Option PayloadId
  bestPayload : FlashblockBuilder
  wsPub : List FlashblocksPayloadV1

namespace FlashblocksService

def new : FlashblocksService :=
  { currentPayloadId := none, bestPayload := .new, wsPub := [] }

def getBestPayload (self : FlashblocksService) (version : PayloadVersion)
    (payloadId : PayloadId) :
    FlashblocksService × Except FlashblocksError OpExecutionPayloadEnvelope :=
  if self.currentPayloadId ≠ some payloadId then
    -- an outdated id must not clear what is being built for the current one
    (self, .error .missingPayload)
  else
    ({ self with bestPayload := .new }, self.bestPayload.intoEnvelope version)

theorem getBestPayload_version {self next : FlashblocksService} {version : PayloadVersion}
    {payloadId : PayloadId} {envelope : OpExecutionPayloadEnvelope}
    (h : self.getBestPayload version payloadId = (next, .ok envelope)) :
    envelope.version = version := by
  simp only [getBestPayload] at h
  split at h
  · simp at h
  · exact FlashblockBuilder.buildEnvelope_version (congrArg Prod.snd h)

def setCurrentPayloadId (self : FlashblocksService) (payloadId : PayloadId) :
    FlashblocksService :=
  { self with currentPayloadId := some payloadId, bestPayload := .new }

def onEvent (self : FlashblocksService) (payload : FlashblocksPayloadV1) :
    FlashblocksService :=
  match self.currentPayloadId with
  | some payloadId =>
      if payloadId ≠ payload.payloadId then self
      else
        match self.bestPayload.extend payload with
        | (best, .error _) => { self with bestPayload := best }
        | (best, .ok _) => { self with bestPayload := best, wsPub := self.wsPub ++ [payload] }
  | none => self

/-! ## The Engine API of the service -/

/-- The id computed from the attributes is selected before the builder is asked. -/
def calculatePayloadId (payloadIdOptimism : B256 → OpPayloadAttributes → UInt8 → PayloadId)
    (self : FlashblocksService) (state : ForkchoiceState) :
    Option OpPayloadAttributes → FlashblocksService
  | some attr => self.setCurrentPayloadId (payloadIdOptimism state.headBlockHash attr 3)
  | none => self

/-- A builder that answers with another id overrides the computed one. -/
def acceptResponse (self : FlashblocksService) :
    ClientResult ForkchoiceUpdated → FlashblocksService
  | .error _ => self
  | .ok resp =>
      match resp.payloadId with
      | some payloadId =>
          if self.currentPayloadId ≠ some payloadId then self.setCurrentPayloadId payloadId
          else self
      | none => self

/-- `payload_id_optimism` hashes the parent and the attributes; it belongs to the
node library and is a parameter here. -/
def engineApi (payloadIdOptimism : B256 → OpPayloadAttributes → UInt8 → PayloadId) :
    EngineApiExt FlashblocksService where
  forkChoiceUpdatedV3 auth state attributes self :=
    let result := RpcClient.forkChoiceUpdatedV3 auth state attributes
    { result := result
      client := (self.calculatePayloadId payloadIdOptimism state attributes).acceptResponse result
      sent := [.forkChoiceUpdatedV3 state attributes (auth.forkChoiceUpdatedV3 state attributes)] }
  newPayload auth request self :=
    { result := RpcClient.newPayload auth request
      client := self
      sent := [.newPayload request (auth.newPayload request)] }
  getPayload auth payloadId version self :=
    match self.getBestPayload version payloadId with
    | (next, .ok payload) =>
        -- a spawned `getPayload` finalises the block in the builder; its answer is dropped
        { result := .ok payload
          client := next
          sent := [.getPayload version payloadId (auth.getPayload payloadId version)] }
    | (next, .error _) =>
        { result := RpcClient.getPayload auth payloadId version
          client := next
          sent := [.getPayload version payloadId (auth.getPayload payloadId version)] }
  getBlockByNumber auth number full self :=
    { result := RpcClient.getBlockByNumber auth number full
      client := self
      sent := [.getBlockByNumber number full (auth.getBlockByNumber number full)] }
  getPayload_version {auth payloadId version self envelope} h := by
    rcases hbest : self.getBestPayload version payloadId with ⟨next, e | payload⟩
    · simp only [hbest] at h
      exact RpcClient.getPayload_version h
    · simp only [hbest, Except.ok.injEq] at h
      subst h
      exact getBestPayload_version hbest

def builderApi (payloadIdOptimism : B256 → OpPayloadAttributes → UInt8 → PayloadId) :
    BuilderApi FlashblocksService where
  toEngineApiExt := engineApi payloadIdOptimism
  getPayload_sent auth payloadId version self := by
    simp only [engineApi]
    split <;> rfl

/-! ## Operations -/

/-- The message is for the current payload and the builder takes it. -/
def Publishes (self : FlashblocksService) (payload : FlashblocksPayloadV1) : Prop :=
  self.currentPayloadId = some payload.payloadId ∧ self.bestPayload.Accepts payload

instance (self : FlashblocksService) (payload : FlashblocksPayloadV1) :
    Decidable (self.Publishes payload) :=
  inferInstanceAs (Decidable (_ ∧ _))

/-- All that a websocket message can do: extend and publish, or nothing. -/
theorem onEvent_eq (self : FlashblocksService) (payload : FlashblocksPayloadV1) :
    self.onEvent payload =
      if self.Publishes payload then
        { self with
          bestPayload := self.bestPayload.push payload, wsPub := self.wsPub ++ [payload] }
      else self := by
  by_cases h : self.Publishes payload
  · rw [if_pos h]
    simp [onEvent, h.1, FlashblockBuilder.extend_of_accepts h.2]
  · rw [if_neg h]
    simp only [onEvent]
    split
    · next payloadId hcurrent =>
        by_cases hid : payloadId = payload.payloadId
        · have hrejects : ¬ self.bestPayload.Accepts payload :=
            fun haccepts => h ⟨by rw [hcurrent, hid], haccepts⟩
          obtain ⟨e, he⟩ := FlashblockBuilder.extend_of_not_accepts hrejects
          rw [if_neg (not_not_intro hid), he]
        · rw [if_pos hid]
    · rfl

inductive Op where
  | setCurrentPayloadId (payloadId : PayloadId)
  | onEvent (payload : FlashblocksPayloadV1)
  | getBestPayload (version : PayloadVersion) (payloadId : PayloadId)

def step (self : FlashblocksService) : Op → FlashblocksService
  | .setCurrentPayloadId payloadId => self.setCurrentPayloadId payloadId
  | .onEvent payload => self.onEvent payload
  | .getBestPayload version payloadId => (self.getBestPayload version payloadId).1

/-- The operations that empty the builder: selecting an id, even the same one, and a
`getBestPayload` for the current id. -/
def Resets (self : FlashblocksService) : Op → Prop
  | .setCurrentPayloadId _ => True
  | .onEvent _ => False
  | .getBestPayload _ payloadId => self.currentPayloadId = some payloadId

instance (self : FlashblocksService) : ∀ op, Decidable (self.Resets op)
  | .setCurrentPayloadId _ => isTrue trivial
  | .onEvent _ => isFalse id
  | .getBestPayload _ payloadId =>
      inferInstanceAs (Decidable (self.currentPayloadId = some payloadId))

/-- All that an operation can do to the service. -/
theorem step_cases (self : FlashblocksService) (op : Op) :
    (∃ payload, op = .onEvent payload ∧ self.Publishes payload ∧
      self.step op =
        { self with
          bestPayload := self.bestPayload.push payload, wsPub := self.wsPub ++ [payload] }) ∨
    (self.Resets op ∧ (self.step op).bestPayload = .new ∧
      (self.step op).wsPub = self.wsPub) ∨
    (¬ self.Resets op ∧ self.step op = self ∧
      ∀ payload, op = .onEvent payload → ¬ self.Publishes payload) := by
  cases op with
  | setCurrentPayloadId payloadId =>
      right; left
      simp [step, Resets, setCurrentPayloadId]
  | onEvent payload =>
      by_cases h : self.Publishes payload
      · left
        exact ⟨payload, rfl, h, by simp [step, onEvent_eq, h]⟩
      · right; right
        simp [step, Resets, onEvent_eq, h]
  | getBestPayload version payloadId =>
      by_cases h : self.currentPayloadId = some payloadId
      · right; left
        simp [step, Resets, getBestPayload, h]
      · right; right
        simp [step, Resets, getBestPayload, h]

/-- The service and the flashblocks published since its builder was last emptied. -/
structure Session where
  service : FlashblocksService
  since : List FlashblocksPayloadV1

namespace Session

def new : Session := { service := .new, since := [] }

/-- What an operation published is what it added to `wsPub`. -/
def step (x : Session) (op : Op) : Session where
  service := x.service.step op
  since :=
    if x.service.Resets op then []
    else x.since ++ (x.service.step op).wsPub.drop x.service.wsPub.length

/-- All that an operation can do to a session. -/
theorem step_cases (x : Session) (op : Op) :
    (∃ payload, op = .onEvent payload ∧ x.service.Publishes payload ∧
      x.step op =
        { service :=
            { x.service with
              bestPayload := x.service.bestPayload.push payload
              wsPub := x.service.wsPub ++ [payload] }
          since := x.since ++ [payload] }) ∨
    (x.service.Resets op ∧ (x.step op).since = [] ∧
      (x.step op).service.bestPayload = .new ∧
      (x.step op).service.wsPub = x.service.wsPub) ∨
    (¬ x.service.Resets op ∧ x.step op = x ∧
      ∀ payload, op = .onEvent payload → ¬ x.service.Publishes payload) := by
  obtain ⟨payload, rfl, hpub, heq⟩ | ⟨hresets, hbest, hws⟩ | ⟨hresets, heq, hnot⟩ :=
    x.service.step_cases op
  · refine .inl ⟨payload, rfl, hpub, ?_⟩
    simp [step, heq, Resets]
  · exact .inr (.inl ⟨hresets, by simp [step, hresets], hbest, hws⟩)
  · refine .inr (.inr ⟨hresets, ?_, hnot⟩)
    simp [step, heq, hresets]

theorem run_service (x : Session) (ops : List Op) :
    (run step x ops).service = run FlashblocksService.step x.service ops := by
  induction ops generalizing x with
  | nil => rfl
  | cons op ops ih => exact ih (x.step op)

/-- The builder holds what was published since it was last emptied, and all of it
belongs to the current payload. -/
structure Inv (x : Session) : Prop where
  builds : Builds x.service.bestPayload x.since
  current : ∀ m ∈ x.since, x.service.currentPayloadId = some m.payloadId

theorem inv_new : new.Inv := ⟨.new, by simp [new]⟩

theorem inv_step (x : Session) (op : Op) (h : x.Inv) : (x.step op).Inv := by
  obtain ⟨payload, -, ⟨hcurrent, haccepts⟩, heq⟩ | ⟨-, hsince, hbest, -⟩ | ⟨-, heq, -⟩ :=
    x.step_cases op
  · rw [heq]
    refine ⟨h.builds.push haccepts, ?_⟩
    intro m hm
    rcases List.mem_append.mp hm with hm | hm
    · exact h.current m hm
    · rw [List.mem_singleton.mp hm]
      exact hcurrent
  · refine ⟨?_, by simp [hsince]⟩
    rw [hsince, hbest]
    exact .new
  · rw [heq]
    exact h

theorem inv_run (ops : List Op) : (run step new ops).Inv :=
  run_invariant inv_step inv_new ops

end Session

/-- Taking the best payload succeeds exactly for the current id with something
published, and the envelope is the assembly of what was published. -/
theorem Session.Inv.getBestPayload_ok_iff {x : Session} (h : x.Inv) (version : PayloadVersion)
    (payloadId : PayloadId) (envelope : OpExecutionPayloadEnvelope) :
    (x.service.getBestPayload version payloadId).2 = .ok envelope ↔
      x.service.currentPayloadId = some payloadId ∧ assemble version x.since = some envelope := by
  simp only [getBestPayload]
  by_cases hid : x.service.currentPayloadId = some payloadId
  · simp only [hid, ne_eq, not_true_eq_false, if_false, true_and,
      FlashblockBuilder.intoEnvelope, h.builds.buildEnvelope_eq version]
    cases assemble version x.since <;> simp
  · simp [hid]

/-- Over every sequence of operations: what was published since the builder was last
emptied is, in order, what the builder holds; it belongs to the current payload and
is numbered from zero; the base is that of message zero; and `get_best_payload`
returns the assembly of exactly this list, for the current id, when it is not empty. -/
theorem published_is_held (ops : List Op) :
    let x := run Session.step Session.new ops
    x.service = run step new ops ∧
    x.service.bestPayload.flashblocks = x.since.map (·.diff) ∧
    (∀ m ∈ x.since, x.service.currentPayloadId = some m.payloadId) ∧
    x.since.map (·.index.toNat) = List.range x.since.length ∧
    (x.service.bestPayload.base.isSome = true ↔ 0 < x.since.length) ∧
    (∀ m ∈ x.since, m.index.toNat = 0 → x.service.bestPayload.base = m.base) ∧
    ∀ version payloadId,
      ((∃ envelope, (x.service.getBestPayload version payloadId).2 = .ok envelope) ↔
        x.service.currentPayloadId = some payloadId ∧ 0 < x.since.length) ∧
      ∀ envelope, (x.service.getBestPayload version payloadId).2 = .ok envelope →
        assemble version x.since = some envelope := by
  intro x
  have h : x.Inv := Session.inv_run ops
  refine ⟨Session.run_service _ ops, h.builds.deltas, h.current, h.builds.indices,
    h.builds.base_isSome_iff, fun m hm hzero => h.builds.base_of_index_zero hm hzero, ?_⟩
  intro version payloadId
  constructor
  · simp only [h.getBestPayload_ok_iff, exists_and_left, ← h.builds.assemble_isSome version,
      Option.isSome_iff_exists]
  · intro envelope hok
    exact ((h.getBestPayload_ok_iff version payloadId envelope).mp hok).2

/-- A flashblock of another payload comes in between. -/
example :
    let flashblock (payloadId : PayloadId) (index : UInt64) (base : Option ExecutionPayloadBaseV1) :
        FlashblocksPayloadV1 := { payloadId, index, base, diff := default, metadata := default }
    let x := run Session.step Session.new
      [.setCurrentPayloadId 7, .onEvent (flashblock 7 0 (some default)),
        .onEvent (flashblock 8 1 none), .onEvent (flashblock 7 1 none)]
    x.since.map (fun m => (m.payloadId, m.index)) = [(7, 0), (7, 1)] ∧
      (x.service.getBestPayload .v4 7).2.isOk = true := by decide

end FlashblocksService

end RollupBoost
