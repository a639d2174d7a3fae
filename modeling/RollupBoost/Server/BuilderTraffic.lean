import RollupBoost.Server.Validation

/-!
# Calls to an unhealthy builder

With `ignore_unhealthy_builders` the probe of the health check is meant to keep calls
away from a builder that has fallen behind. `forkchoiceUpdated` and `newPayload` look at
the probe first. `getPayload` does not look at it at all, so a payload that was begun
while the builder was healthy is still fetched from it after the downgrade. Those fetches
are the only exception, in any run.
-/

namespace RollupBoost

open Machine

namespace Event

variable {T : Type}

/-- The event is a call of op-node. -/
def IsCall : Event T → Prop
  | .forkChoiceUpdatedV3 _ _ _ => True
  | .getPayload _ _ _ => True
  | .newPayload _ _ => True
  | _ => False

end Event

namespace RollupBoostServer

variable {T : Type} {api : BuilderApi T} {config : ServerConfig} {self : RollupBoostServer T}
variable {answers : Answers} {payloadId : PayloadId} {version : PayloadVersion}

/-- `get_payload` asks the builder when the mode is not `Disabled` and the trace context
says that it has the payload. -/
theorem getPayload_builderRequests :
    (self.getPayload api.toEngineApiExt config answers payloadId version).builderRequests =
      if self.executionMode.isDisabled = false ∧
          self.payloadTraceContext.hasBuilderPayload payloadId = true then
        [.getPayload version payloadId (answers.builder.getPayload payloadId version)]
      else [] := by
  by_cases hdisabled : self.executionMode.isDisabled = true
  · simp only [getPayload, hdisabled, if_true, Bool.true_eq_false, false_and, if_false]
    split <;> rfl
  · simp only [getPayload, hdisabled, Bool.false_eq_true, if_false, true_and]
    have hsent := api.getPayload_sent answers.builder payloadId version self.builderClient
    obtain ⟨hhas, heq⟩ | ⟨e, hhas, -, heq⟩ | ⟨payload, hhas, -, -, heq⟩ |
        ⟨payload, hhas, -, -, heq⟩ :=
      self.builderFut_cases api.toEngineApiExt config answers payloadId version
    · simp [heq, hhas]
    · simp [heq, hhas, hsent]
    · simp [heq, hhas, hsent]
    · simp [heq, hhas, hsent]

theorem handle_getPayload_builderRequests :
    (self.handle api.toEngineApiExt config
      (.getPayload answers version payloadId)).builderRequests =
      (self.getPayload api.toEngineApiExt config answers payloadId version).builderRequests := by
  cases version <;> rfl

theorem step_getPayload (api : EngineApiExt T) :
    self.step api config (.getPayload answers version payloadId) =
      (self.getPayload api config answers payloadId version).server := by
  cases version <;> rfl

/-! ## The unhealthy builder -/

/-- A call of op-node that starts while the probe is not healthy sends nothing to the
builder and leaves no task behind that would. -/
def NoTrafficWhenUnhealthy (api : EngineApiExt T) (config : ServerConfig)
    (self : RollupBoostServer T) (event : Event T) : Prop :=
  event.IsCall → self.health ≠ .healthy →
    (self.handle api config event).builderRequests = [] ∧
      (self.step api config event).spawned = self.spawned

/-- The event is no `getPayload` that meets an unhealthy builder which is credited with
the payload. -/
def FetchesUncredited (self : RollupBoostServer T) : Event T → Prop
  | .getPayload _ _ payloadId =>
      self.health ≠ .healthy → self.executionMode.isDisabled = false →
        self.payloadTraceContext.hasBuilderPayload payloadId = false
  | _ => True

theorem shouldSkip_of_unhealthy (hignore : config.ignoreUnhealthyBuilders = true)
    (hhealth : self.health ≠ .healthy) : self.shouldSkipUnhealthyBuilder config = true := by
  simp [shouldSkipUnhealthyBuilder, hignore, hhealth]

/-- One call: the only request that an unhealthy builder can receive is a `getPayload`
for a payload that it is credited with. -/
theorem noTrafficWhenUnhealthy_iff (api : BuilderApi T)
    (hignore : config.ignoreUnhealthyBuilders = true) (self : RollupBoostServer T)
    (event : Event T) :
    self.NoTrafficWhenUnhealthy api.toEngineApiExt config event ↔
      self.FetchesUncredited event := by
  cases event with
  | forkChoiceUpdatedV3 answers state attributes =>
      simp only [NoTrafficWhenUnhealthy, FetchesUncredited, iff_true]
      intro _ hhealth
      have hskip := shouldSkip_of_unhealthy hignore hhealth
      obtain ⟨-, hserver, hrequests⟩ | ⟨-, hnot, -⟩ :=
        self.forkChoiceUpdatedV3_cases api.toEngineApiExt config answers state attributes
      · exact ⟨hrequests, congrArg spawned hserver⟩
      · exact absurd hskip (by simp [hnot])
  | getPayload answers version payloadId =>
      have hspawned : (self.step api.toEngineApiExt config
          (.getPayload answers version payloadId)).spawned = self.spawned := by
        obtain ⟨client, health, hserver⟩ :=
          self.getPayload_server api.toEngineApiExt config answers payloadId version
        rw [step_getPayload, hserver]
      simp only [NoTrafficWhenUnhealthy, FetchesUncredited, Event.IsCall, true_implies, hspawned,
        and_true, handle_getPayload_builderRequests, getPayload_builderRequests]
      refine imp_congr_right fun _ => ?_
      cases self.executionMode.isDisabled <;>
        cases self.payloadTraceContext.hasBuilderPayload payloadId <;> simp
  | newPayload answers payload =>
      simp only [NoTrafficWhenUnhealthy, FetchesUncredited, iff_true]
      intro _ hhealth
      have hskip : ∀ context, ({ self with payloadTraceContext := context } :
          RollupBoostServer T).shouldSkipUnhealthyBuilder config = true :=
        fun context => shouldSkip_of_unhealthy hignore hhealth
      simp [handle, step, Handled.observe, newPayload, hskip]
  | setExecutionMode mode => simp [NoTrafficWhenUnhealthy, FetchesUncredited, Event.IsCall]
  | healthCheck l2 builder now => simp [NoTrafficWhenUnhealthy, FetchesUncredited, Event.IsCall]
  | runTask index builder => simp [NoTrafficWhenUnhealthy, FetchesUncredited, Event.IsCall]
  | evictPayloadId payloadId => simp [NoTrafficWhenUnhealthy, FetchesUncredited, Event.IsCall]
  | evictBlockHash hash => simp [NoTrafficWhenUnhealthy, FetchesUncredited, Event.IsCall]
  | builderClient next => simp [NoTrafficWhenUnhealthy, FetchesUncredited, Event.IsCall]

/-- The runs in which an unhealthy builder receives no call are exactly those in which no
payload that it is credited with is fetched from it while it is unhealthy. -/
theorem no_traffic_when_unhealthy_iff (api : BuilderApi T) (config : ServerConfig)
    (hignore : config.ignoreUnhealthyBuilders = true) (client : T) (mode : ExecutionMode)
    (events : List (Event T)) :
    Along (step api.toEngineApiExt config) (NoTrafficWhenUnhealthy api.toEngineApiExt config)
        (.new client mode) events ↔
      Along (step api.toEngineApiExt config) FetchesUncredited (.new client mode) events :=
  Along.congr (noTrafficWhenUnhealthy_iff api hignore)

def ignoringConfig : ServerConfig :=
  { plainConfig with ignoreUnhealthyBuilders := true }

/-- The latest block of the builder is 100 seconds old, the one of the L2 client is new. -/
def staleBuilder (T : Type) : Event T :=
  .healthCheck { AuthClient.refused with getBlockByNumber := fun _ _ => .ok { timestamp := 200 } }
    { AuthClient.refused with getBlockByNumber := fun _ _ => .ok { timestamp := 100 } } 200

/-- The server after a payload was begun and the builder went stale. -/
def afterDowngrade : List (Event Unit) :=
  [.forkChoiceUpdatedV3 (oneBlock .valid) default (some default), staleBuilder Unit]

/-- While the builder is unhealthy, a block is begun and fetched without it. -/
theorem no_traffic_to_stale_builder :
    Along (step RpcClient.engineApi ignoringConfig)
      (NoTrafficWhenUnhealthy RpcClient.engineApi ignoringConfig) (.new () .enabled)
      [staleBuilder Unit, .forkChoiceUpdatedV3 (oneBlock .valid) default (some default),
        .newPayload (oneBlock .valid) (.ofEnvelope (.v3 default)),
        .getPayload (oneBlock .valid) .v3 7] :=
  (no_traffic_when_unhealthy_iff RpcClient.builderApi ignoringConfig rfl () .enabled _).mpr
    ⟨trivial, trivial, trivial, fun _ _ => rfl, trivial⟩

/-- A payload that was begun before the downgrade is fetched from the unhealthy builder. -/
theorem stale_builder_is_fetched :
    ¬ Along (step RpcClient.engineApi ignoringConfig)
      (NoTrafficWhenUnhealthy RpcClient.engineApi ignoringConfig) (.new () .enabled)
      (afterDowngrade ++ [.getPayload (oneBlock .valid) .v3 7]) := by
  rintro ⟨-, -, hfetch, -⟩
  have hnone := (hfetch trivial (by decide)).1
  exact absurd hnone (List.cons_ne_nil _ _)

end RollupBoostServer

end RollupBoost
