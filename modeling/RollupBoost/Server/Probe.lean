import RollupBoost.Server.StateRoot
import RollupBoost.Server.BuilderTraffic

/-!
# What is written to the health probe

The probe is one cell with two writers: the rounds of the health check and `get_payload`. A
round writes once. A `get_payload` that has a block of the L2 client writes `Healthy` before
it looks at the builder's answer, and overwrites that with `PartialContent` only when the
builder has failed. In between, and for good when the builder has a block, the probe forgets
what the last round has found.

`healthWrites` lists the values that an event writes, in order. A reader of the probe can see
each of them.
-/

namespace RollupBoost

open Machine

namespace RollupBoostServer

variable {T : Type}

/-! ## The writes of an event -/

/-- The write of `chooseBlock`. -/
def chooseWrites (self : RollupBoostServer T) (builderPayload : Option OpExecutionPayloadEnvelope)
    (builderApiFailed : Bool) : List Health :=
  match builderPayload with
  | some _ => []
  | none =>
      if self.executionMode.isEnabled && builderApiFailed then [.partialContent] else []

/-- The writes of `selectPayload`. -/
def selectWrites (self : RollupBoostServer T) (l2Payload : ClientResult OpExecutionPayloadEnvelope)
    (builderPayload : Outcome ErrorObject BuilderPayloadResult) : List Health :=
  match builderPayload, l2Payload.toRpc with
  | .panic _, _ => []
  | _, .error _ => [.serviceUnavailable]
  | .ok result, .ok _ => .healthy :: self.chooseWrites result.payload result.builderApiFailed
  | .error _, .ok _ => .healthy :: self.chooseWrites none true

def getPayloadWrites (api : EngineApiExt T) (config : ServerConfig) (self : RollupBoostServer T)
    (answers : Answers) (payloadId : PayloadId) (version : PayloadVersion) : List Health :=
  let l2Payload := RpcClient.getPayload answers.l2 payloadId version
  if self.executionMode.isDisabled then
    match l2Payload.toRpc with
    | .ok _ => [.healthy]
    | .error _ => [.serviceUnavailable]
  else
    let builder := self.builderFut api config answers payloadId version
    builder.server.selectWrites l2Payload builder.response

/-- The values that are written to the probe while the event is handled, in order. Each path
of a round writes exactly once. -/
def healthWrites (api : EngineApiExt T) (config : ServerConfig) (self : RollupBoostServer T) :
    Event T → List Health
  | .getPayload answers version payloadId =>
      self.getPayloadWrites api config answers payloadId version
  | .healthCheck l2 builder now => [(self.healthCheck api config l2 builder now).server.health]
  | _ => []

variable {api : EngineApiExt T} {config : ServerConfig} {self : RollupBoostServer T}
variable {answers : Answers} {payloadId : PayloadId} {version : PayloadVersion}

theorem chooseBlock_health (config : ServerConfig) (self : RollupBoostServer T)
    (l2Payload : OpExecutionPayloadEnvelope)
    (builderPayload : Option OpExecutionPayloadEnvelope) (failed : Bool) :
    (self.chooseBlock config l2Payload builderPayload failed).1.health =
      (self.chooseWrites builderPayload failed).getLastD self.health := by
  simp only [chooseBlock, chooseWrites]
  cases builderPayload with
  | some payload =>
      simp only
      split
      · rfl
      · split <;> rfl
  | none =>
      simp only
      split <;> rfl

theorem selectPayload_health (config : ServerConfig) (self : RollupBoostServer T)
    (l2Result : ClientResult OpExecutionPayloadEnvelope)
    (builderResult : Outcome ErrorObject BuilderPayloadResult) :
    (self.selectPayload config l2Result builderResult).1.health =
      (self.selectWrites l2Result builderResult).getLastD self.health := by
  cases builderResult with
  | panic message => rfl
  | ok result =>
      cases l2Result with
      | ok l2Payload =>
          have hwrites : self.selectWrites (.ok l2Payload) (.ok result) =
              .healthy :: self.chooseWrites result.payload result.builderApiFailed := rfl
          rw [hwrites, List.getLastD_cons]
          exact chooseBlock_health config (self.setHealth .healthy) l2Payload result.payload
            result.builderApiFailed
      | error e => rfl
  | error e =>
      cases l2Result with
      | ok l2Payload =>
          have hwrites : self.selectWrites (.ok l2Payload) (.error e) =
              .healthy :: self.chooseWrites none true := rfl
          rw [hwrites, List.getLastD_cons]
          exact chooseBlock_health config (self.setHealth .healthy) l2Payload none true
      | error e => rfl

theorem builderFut_health :
    (self.builderFut api config answers payloadId version).server.health = self.health := by
  obtain ⟨client, hserver⟩ := self.builderFut_server api config answers payloadId version
  rw [hserver]

theorem getPayload_health :
    (self.getPayload api config answers payloadId version).server.health =
      (self.getPayloadWrites api config answers payloadId version).getLastD self.health := by
  by_cases hdisabled : self.executionMode.isDisabled = true
  · simp only [getPayload, getPayloadWrites, hdisabled, if_true]
    cases (RpcClient.getPayload answers.l2 payloadId version).toRpc <;> rfl
  · simp only [getPayload, getPayloadWrites, hdisabled, Bool.false_eq_true, if_false,
      selectPayload_health, builderFut_health]

/-- A forkchoice update writes neither to the probe nor to the mode. -/
theorem forkChoiceUpdatedV3_frame (self : RollupBoostServer T) (answers : Answers)
    (state : ForkchoiceState) (attributes : Option OpPayloadAttributes) :
    (self.forkChoiceUpdatedV3 api config answers state attributes).server.health = self.health ∧
    (self.forkChoiceUpdatedV3 api config answers state attributes).server.executionMode =
      self.executionMode := by
  have hframe : ∀ (server : RollupBoostServer T) (flag : Bool)
      (recorded : Option OpPayloadAttributes),
      let l2Result := (RpcClient.forkChoiceUpdatedV3 answers.l2 state attributes).toRpc
      (server.traceBuilding l2Result state flag).health = server.health ∧
      (server.traceBuilding l2Result state flag).executionMode = server.executionMode ∧
      (server.recordRequest config l2Result state recorded).health = server.health ∧
      (server.recordRequest config l2Result state recorded).executionMode =
        server.executionMode := by
    intro server flag recorded l2Result
    obtain ⟨context, htraced⟩ := server.traceBuilding_frame l2Result state flag
    obtain ⟨table, hrecorded⟩ := server.recordRequest_frame config l2Result state recorded
    rw [htraced, hrecorded]
    exact ⟨rfl, rfl, rfl, rfl⟩
  obtain ⟨-, hserver, -⟩ | ⟨-, -, ⟨attrs, -, -, hserver, -⟩ | ⟨attrs, -, -, hserver, -⟩ |
      ⟨-, hserver, -⟩⟩ := self.forkChoiceUpdatedV3_cases api config answers state attributes
  · rw [hserver]
    exact ⟨rfl, rfl⟩
  · rw [hserver]
    exact ⟨(hframe _ _ none).1, (hframe _ _ none).2.1⟩
  · rw [hserver, startBuilding, (hframe _ true _).2.2.1, (hframe _ true _).2.2.2,
      (hframe _ _ none).1, (hframe _ _ none).2.1]
    exact ⟨rfl, rfl⟩
  · rw [hserver, (hframe _ true _).2.2.1, (hframe _ true _).2.2.2]
    exact ⟨rfl, rfl⟩

end RollupBoostServer

/-- The event is no change of the mode. -/
def Event.KeepsMode {T : Type} : Event T → Prop
  | .setExecutionMode _ => False
  | _ => True

namespace RollupBoostServer

variable {T : Type} {api : EngineApiExt T} {config : ServerConfig} {self : RollupBoostServer T}

theorem getPayload_executionMode {answers : Answers} {payloadId : PayloadId}
    {version : PayloadVersion} :
    (self.getPayload api config answers payloadId version).server.executionMode =
      self.executionMode := by
  obtain ⟨client, health, hserver⟩ := self.getPayload_server api config answers payloadId version
  rw [hserver]

/-- After an event the probe holds what was written last, and the mode is what it was. -/
theorem step_frame (api : EngineApiExt T) (config : ServerConfig) (self : RollupBoostServer T)
    (event : Event T) :
    (self.step api config event).health =
        (self.healthWrites api config event).getLastD self.health ∧
      (event.KeepsMode → (self.step api config event).executionMode = self.executionMode) := by
  cases event with
  | forkChoiceUpdatedV3 answers state attributes =>
      obtain ⟨hhealth, hmode⟩ := self.forkChoiceUpdatedV3_frame answers state attributes
      exact ⟨hhealth, fun _ => hmode⟩
  | getPayload answers version payloadId =>
      rw [step_getPayload]
      exact ⟨getPayload_health, fun _ => getPayload_executionMode⟩
  | newPayload answers payload =>
      simp only [step, handle, Handled.observe, newPayload]
      split <;> exact ⟨rfl, fun _ => rfl⟩
  | setExecutionMode mode => exact ⟨rfl, fun h => absurd h id⟩
  | healthCheck l2 builder now =>
      obtain ⟨client, health, hstep⟩ := self.step_healthCheck api config l2 builder now
      refine ⟨rfl, fun _ => ?_⟩
      rw [hstep]
  | runTask index builder =>
      obtain ⟨client, spawned, hstep⟩ := self.step_runTask api config index builder
      rw [hstep]
      exact ⟨rfl, fun _ => rfl⟩
  | evictPayloadId evicted => exact ⟨rfl, fun _ => rfl⟩
  | evictBlockHash hash => exact ⟨rfl, fun _ => rfl⟩
  | builderClient next => exact ⟨rfl, fun _ => rfl⟩

theorem step_health_of_silent {event : Event T} (h : self.healthWrites api config event = []) :
    (self.step api config event).health = self.health := by
  rw [(self.step_frame api config event).1, h, List.getLastD_nil]

/-- The builder's future has ended without a block and counts as failed. -/
def BuilderFails : Outcome ErrorObject BuilderPayloadResult → Prop
  | .ok result => result.payload = none ∧ result.builderApiFailed = true
  | .error _ => True
  | .panic _ => False

instance : DecidablePred BuilderFails
  | .ok result => inferInstanceAs (Decidable (result.payload = none ∧ _))
  | .error _ => isTrue trivial
  | .panic _ => isFalse id

/-- All that can be written in mode `Enabled` once both futures have ended. -/
theorem selectWrites_cases (henabled : self.executionMode = .enabled)
    (l2Payload : ClientResult OpExecutionPayloadEnvelope)
    (builderPayload : Outcome ErrorObject BuilderPayloadResult) :
    (builderPayload.panics = true ∧ self.selectWrites l2Payload builderPayload = []) ∨
    (builderPayload.panics = false ∧ l2Payload.isOk = false ∧
      self.selectWrites l2Payload builderPayload = [.serviceUnavailable]) ∨
    (builderPayload.panics = false ∧ l2Payload.isOk = true ∧ BuilderFails builderPayload ∧
      self.selectWrites l2Payload builderPayload = [.healthy, .partialContent]) ∨
    (builderPayload.panics = false ∧ l2Payload.isOk = true ∧ ¬ BuilderFails builderPayload ∧
      self.selectWrites l2Payload builderPayload = [.healthy]) := by
  cases builderPayload with
  | panic message => exact .inl ⟨rfl, rfl⟩
  | error e =>
      cases l2Payload with
      | error e => exact .inr (.inl ⟨rfl, rfl, rfl⟩)
      | ok payload =>
          refine .inr (.inr (.inl ⟨rfl, rfl, trivial, ?_⟩))
          simp [selectWrites, chooseWrites, henabled, ExecutionMode.isEnabled]
  | ok result =>
      obtain ⟨block, failed⟩ := result
      cases l2Payload with
      | error e => exact .inr (.inl ⟨rfl, rfl, rfl⟩)
      | ok payload =>
          by_cases hfails : BuilderFails (.ok { payload := block, builderApiFailed := failed })
          · obtain ⟨rfl, rfl⟩ : block = none ∧ failed = true := hfails
            refine .inr (.inr (.inl ⟨rfl, rfl, ⟨rfl, rfl⟩, ?_⟩))
            simp [selectWrites, chooseWrites, henabled, ExecutionMode.isEnabled]
          · refine .inr (.inr (.inr ⟨rfl, rfl, hfails, ?_⟩))
            cases block with
            | some block => rfl
            | none =>
                have hanswered : failed = false := by simpa [BuilderFails] using hfails
                simp [selectWrites, chooseWrites, hanswered]

/-- The handler reaches the external state root and finds no entry there, which unwinds it
before anything is written to the probe. -/
def Unwinds (api : EngineApiExt T) (config : ServerConfig) (self : RollupBoostServer T)
    (answers : Answers) (payloadId : PayloadId) (version : PayloadVersion) : Prop :=
  self.ReachesStateRoot api config answers.builder payloadId version ∧
    self.payloadToFcuRequest payloadId = none

/-- All that `get_payload` can write in mode `Enabled`: nothing, if the handler unwinds; that
the L2 client has failed; or `Healthy`, and then possibly that the builder has failed. -/
theorem getPayloadWrites_cases (api : EngineApiExt T) (config : ServerConfig)
    (henabled : self.executionMode = .enabled) (answers : Answers) (payloadId : PayloadId)
    (version : PayloadVersion) :
    let writes := self.getPayloadWrites api config answers payloadId version
    let l2Payload := RpcClient.getPayload answers.l2 payloadId version
    let builderPayload := (self.builderFut api config answers payloadId version).response
    (self.Unwinds api config answers payloadId version ∧ writes = []) ∨
    (¬ self.Unwinds api config answers payloadId version ∧ l2Payload.isOk = false ∧
      writes = [.serviceUnavailable]) ∨
    (¬ self.Unwinds api config answers payloadId version ∧ l2Payload.isOk = true ∧
      BuilderFails builderPayload ∧ writes = [.healthy, .partialContent]) ∨
    (¬ self.Unwinds api config answers payloadId version ∧ l2Payload.isOk = true ∧
      ¬ BuilderFails builderPayload ∧ writes = [.healthy]) := by
  intro writes l2Payload builderPayload
  have hmode : (self.builderFut api config answers payloadId version).server.executionMode =
      .enabled := by
    rw [builderFut_executionMode, henabled]
  have hwrites : writes = (self.builderFut api config answers payloadId version).server.selectWrites
      l2Payload builderPayload := by
    simp [writes, getPayloadWrites, henabled, ExecutionMode.isDisabled, l2Payload, builderPayload]
  have hunwinds : self.Unwinds api config answers payloadId version ↔
      builderPayload.panics = true :=
    (builderFut_panics api config self answers payloadId version).symm
  rw [hunwinds, hwrites, Bool.not_eq_true]
  exact selectWrites_cases hmode l2Payload builderPayload

end RollupBoostServer

end RollupBoost
