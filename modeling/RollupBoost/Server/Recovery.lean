import RollupBoost.Server.CompositeHealth
import RollupBoost.Flashblocks.Service

/-!
# Builder traffic after a recovery

A builder that was unhealthy is skipped by `forkchoiceUpdated`, so it is not credited with the
payload that the L2 client begins meanwhile. The `getPayload` for that payload then finds no
builder payload, which counts as a failure of the builder's API although it was never asked,
and writes `PartialContent`. If a round has found the builder in sync before that `getPayload`,
its verdict is lost and the next forkchoice update skips the builder again.

`Recovery` keeps beside the server whether a round has been made since the recovery, and
whether the last `getPayload` since that round was for a payload the builder is not credited
with. The builder is skipped exactly in that case.
-/

namespace RollupBoost

open Machine

theorem ClientResult.exists_ok {α : Type} {result : ClientResult α} (h : result.isOk = true) :
    ∃ value, result = .ok value := by
  cases result with
  | error e => exact absurd h (by simp [Except.isOk, Except.toBool])
  | ok value => exact ⟨value, rfl⟩

/-- The client accepts the answer. -/
def Exchange.Succeeds : Exchange → Prop
  | .forkChoiceUpdatedV3 _ _ answer => (RpcClient.acceptForkchoice answer).isOk = true
  | .getPayload _ _ answer => (RpcClient.lift answer).isOk = true
  | .newPayload _ answer => (RpcClient.acceptStatus answer).isOk = true
  | .getBlockByNumber _ _ answer => (RpcClient.lift answer).isOk = true

instance : DecidablePred Exchange.Succeeds
  | .forkChoiceUpdatedV3 _ _ _ => inferInstanceAs (Decidable (_ = true))
  | .getPayload _ _ _ => inferInstanceAs (Decidable (_ = true))
  | .newPayload _ _ => inferInstanceAs (Decidable (_ = true))
  | .getBlockByNumber _ _ _ => inferInstanceAs (Decidable (_ = true))

/-- An implementation that passes forkchoice updates on to the endpoint of the builder, and
has a block whenever the endpoint has one. -/
structure ForwardingApi (T : Type) extends BuilderApi T where
  forkChoiceUpdatedV3_sent : ∀ auth state attributes client,
    (forkChoiceUpdatedV3 auth state attributes client).sent =
      [.forkChoiceUpdatedV3 state attributes (auth.forkChoiceUpdatedV3 state attributes)]
  getPayload_isOk : ∀ auth payloadId version client,
    (RpcClient.getPayload auth payloadId version).isOk = true →
      (getPayload auth payloadId version client).result.isOk = true

def RpcClient.forwardingApi : ForwardingApi Unit :=
  { RpcClient.builderApi with
    forkChoiceUpdatedV3_sent := fun _ _ _ _ => rfl
    getPayload_isOk := fun _ _ _ _ h => h }

def FlashblocksService.forwardingApi
    (payloadIdOptimism : B256 → OpPayloadAttributes → UInt8 → PayloadId) :
    ForwardingApi FlashblocksService where
  toBuilderApi := FlashblocksService.builderApi payloadIdOptimism
  forkChoiceUpdatedV3_sent _ _ _ _ := rfl
  getPayload_isOk auth payloadId version self h := by
    simp only [builderApi, engineApi]
    split
    · rfl
    · exact h

namespace RollupBoostServer

variable {T : Type} {config : ServerConfig} {self : RollupBoostServer T}

/-- Every request that the event sends succeeds, and a round finds both heads fresh. -/
structure Recovered (api : EngineApiExt T) (config : ServerConfig) (server : RollupBoostServer T)
    (event : Event T) : Prop where
  builder : ∀ exchange ∈ (server.handle api config event).builderRequests, exchange.Succeeds
  l2 : ∀ request ∈ (server.handle api config event).l2Requests, request.2.Succeeds
  inSync : ∀ l2 builder now, event = .healthCheck l2 builder now →
    server.finding api config l2 builder now = .inSync

/-- If the forkchoice update of the rebuild succeeds, there is no error left. -/
theorem calculateExternalStateRoot_ne_error {l2 : AuthClient}
    {builderPayload : OpExecutionPayloadEnvelope} {payloadId : PayloadId}
    {version : PayloadVersion}
    (hl2 : ∀ request ∈ (self.calculateExternalStateRoot l2 builderPayload payloadId
      version).l2Requests, request.2.Succeeds) (e : ErrorObject) :
    (self.calculateExternalStateRoot l2 builderPayload payloadId version).response ≠ .error e := by
  simp only [calculateExternalStateRoot] at hl2 ⊢
  cases hentry : self.payloadToFcuRequest payloadId with
  | none => simp
  | some request =>
      obtain ⟨state, attributes⟩ := request
      simp only [hentry] at hl2 ⊢
      have hsucceeds : (RpcClient.forkChoiceUpdatedV3 l2 state
          (some (stateRootAttributes builderPayload attributes))).isOk = true := by
        apply hl2 (.stateRoot, .forkChoiceUpdatedV3 state _ _)
        split
        · exact List.mem_singleton.mpr rfl
        · split <;> simp
      obtain ⟨l2Result, hok⟩ := ClientResult.exists_ok hsucceeds
      rw [hok, ClientResult.toRpc_ok]
      simp only
      split <;> simp

/-- When every request succeeds, the builder's future fails exactly if the builder is not
credited with the payload: then it has not been asked. -/
theorem builderFails_iff (api : ForwardingApi T) {answers : Answers} {payloadId : PayloadId}
    {version : PayloadVersion}
    (hbuilder : ∀ exchange ∈ (self.builderFut api.toEngineApiExt config answers payloadId
      version).builderRequests, exchange.Succeeds)
    (hl2 : ∀ request ∈ (self.builderFut api.toEngineApiExt config answers payloadId
      version).l2Requests, request.2.Succeeds) :
    BuilderFails (self.builderFut api.toEngineApiExt config answers payloadId version).response ↔
      self.payloadTraceContext.hasBuilderPayload payloadId = false := by
  obtain ⟨hhas, heq⟩ | ⟨e, hhas, hreply, heq⟩ | ⟨payload, hhas, -, -, heq⟩ |
      ⟨payload, hhas, -, -, heq⟩ :=
    self.builderFut_cases api.toEngineApiExt config answers payloadId version
  · rw [heq, hhas]
    simp [BuilderFails]
  · rw [heq, api.getPayload_sent] at hbuilder
    obtain ⟨payload, hok⟩ := ClientResult.exists_ok (api.getPayload_isOk answers.builder payloadId
      version self.builderClient (hbuilder _ (List.mem_singleton.mpr rfl)))
    exact absurd (hreply.symm.trans hok) (by simp)
  · rw [heq] at hl2 ⊢
    have hvalid : (RpcClient.newPayload answers.l2Inner (.ofEnvelope payload)).isOk = true :=
      hl2 _ (List.mem_singleton.mpr rfl)
    obtain ⟨status, hok⟩ := ClientResult.exists_ok hvalid
    simp [BuilderFails, hhas, hok]
  · rw [heq] at hl2 ⊢
    have hroot := calculateExternalStateRoot_ne_error hl2
    simp only [hhas, Bool.true_eq_false, iff_false]
    cases hresponse : (({ self with builderClient := (api.getPayload answers.builder payloadId
        version self.builderClient).client } : RollupBoostServer T).calculateExternalStateRoot
          answers.l2Inner payload payloadId version).response with
    | ok root => simp [BuilderFails]
    | error e => exact absurd hresponse (hroot e)
    | panic message => simp [BuilderFails]

/-- A `getPayload` asks the L2 client for the block, and sends what the builder's future sends. -/
theorem handle_getPayload_requests (api : EngineApiExt T) (config : ServerConfig)
    (hmode : self.executionMode.isDisabled = false) (answers : Answers) (payloadId : PayloadId)
    (version : PayloadVersion) :
    (self.handle api config (.getPayload answers version payloadId)).builderRequests =
        (self.builderFut api config answers payloadId version).builderRequests ∧
      (self.handle api config (.getPayload answers version payloadId)).l2Requests =
        (.opNode, .getPayload version payloadId (answers.l2.getPayload payloadId version)) ::
          (self.builderFut api config answers payloadId version).l2Requests := by
  cases version <;>
    simp [handle, getPayloadV3, getPayloadV4, getPayload, Handled.observe, Handled.andThen, hmode]

instance (api : EngineApiExt T) (config : ServerConfig) (self : RollupBoostServer T)
    (answers : Answers) (payloadId : PayloadId) (version : PayloadVersion) :
    Decidable (self.Unwinds api config answers payloadId version) :=
  inferInstanceAs (Decidable (_ ∧ _))

end RollupBoostServer

/-- The server, whether a round was made since the recovery, and whether the last `getPayload`
since that round was for a payload that the builder is not credited with. -/
structure Recovery (T : Type) where
  server : RollupBoostServer T
  checked : Bool
  missed : Bool

namespace Recovery

variable {T : Type}

def start (server : RollupBoostServer T) : Recovery T :=
  { server := server, checked := false, missed := false }

def step (api : EngineApiExt T) (config : ServerConfig) (x : Recovery T) (event : Event T) :
    Recovery T where
  server := x.server.step api config event
  checked :=
    match event with
    | .healthCheck _ _ _ => true
    | _ => x.checked
  missed :=
    match event with
    | .healthCheck _ _ _ => false
    | .getPayload answers version payloadId =>
        -- an unwound handler has not come to its verdict
        if x.server.Unwinds api config answers payloadId version then x.missed
        else !x.server.payloadTraceContext.hasBuilderPayload payloadId
    | _ => x.missed

/-- After a round, a forkchoice update with attributes from the transaction pool is sent to
the builder. -/
def Forwards (api : EngineApiExt T) (config : ServerConfig) (x : Recovery T)
    (event : Event T) : Prop :=
  ∀ answers state attrs, event = .forkChoiceUpdatedV3 answers state (some attrs) →
    attrs.noTxPool.getD false = false → x.checked = true →
      .forkChoiceUpdatedV3 state (some attrs)
          (answers.builder.forkChoiceUpdatedV3 state (some attrs)) ∈
        (x.server.handle api config event).builderRequests

/-- No such update comes when the last `getPayload` since the round has missed the builder. -/
def NotMissed (x : Recovery T) (event : Event T) : Prop :=
  ∀ answers state attrs, event = .forkChoiceUpdatedV3 answers state (some attrs) →
    attrs.noTxPool.getD false = false → x.checked = true → x.missed = false

variable {api : ForwardingApi T} {config : ServerConfig} {x : Recovery T} {event : Event T}

/-- After a round, the probe says whether the builder was missed since. -/
structure Inv (x : Recovery T) : Prop where
  enabled : x.server.executionMode = .enabled
  health : x.checked = true → (x.server.health = .healthy ↔ x.missed = false)

theorem Inv.notDisabled (h : x.Inv) : x.server.executionMode.isDisabled = false := by
  rw [h.enabled]
  rfl

/-- An event that writes nothing to the probe keeps what it says. -/
theorem Inv.health_of_silent (h : x.Inv)
    (hwrites : x.server.healthWrites api.toEngineApiExt config event = [])
    (hchecked : (x.step api.toEngineApiExt config event).checked = x.checked)
    (hmissed : (x.step api.toEngineApiExt config event).missed = x.missed) :
    (x.step api.toEngineApiExt config event).checked = true →
      ((x.step api.toEngineApiExt config event).server.health = .healthy ↔
        (x.step api.toEngineApiExt config event).missed = false) := by
  have hhealth : (x.step api.toEngineApiExt config event).server.health = x.server.health :=
    RollupBoostServer.step_health_of_silent hwrites
  rw [hhealth, hchecked, hmissed]
  exact h.health

theorem Inv.health_getPayload (h : x.Inv) {answers : Answers} {version : PayloadVersion}
    {payloadId : PayloadId}
    (hrecovered : x.server.Recovered api.toEngineApiExt config
      (.getPayload answers version payloadId)) :
    let next := x.step api.toEngineApiExt config (.getPayload answers version payloadId)
    next.checked = true → (next.server.health = .healthy ↔ next.missed = false) := by
  intro next hchecked
  obtain ⟨hsent, hsentL2⟩ := RollupBoostServer.handle_getPayload_requests api.toEngineApiExt config
    h.notDisabled answers payloadId version
  obtain ⟨hbuilder, hl2, -⟩ := hrecovered
  rw [hsent] at hbuilder
  rw [hsentL2] at hl2
  have hfails := RollupBoostServer.builderFails_iff api hbuilder
    (fun request hrequest => hl2 request (List.mem_cons_of_mem _ hrequest))
  have hl2Ok : (RpcClient.getPayload answers.l2 payloadId version).isOk = true :=
    hl2 _ List.mem_cons_self
  have hhealth : next.server.health =
      (x.server.getPayloadWrites api.toEngineApiExt config answers payloadId version).getLastD
        x.server.health :=
    (x.server.step_frame api.toEngineApiExt config (.getPayload answers version payloadId)).1
  have hmissed : next.missed =
      if x.server.Unwinds api.toEngineApiExt config answers payloadId version then x.missed
      else !x.server.payloadTraceContext.hasBuilderPayload payloadId := rfl
  rw [hhealth, hmissed]
  obtain ⟨hunwinds, heq⟩ | ⟨-, hl2Fails, -⟩ | ⟨hreturns, -, hfailed, heq⟩ |
      ⟨hreturns, -, hfailed, heq⟩ :=
    RollupBoostServer.getPayloadWrites_cases api.toEngineApiExt config h.enabled answers payloadId
      version
  · rw [heq, if_pos hunwinds]
    exact h.health hchecked
  · exact absurd hl2Fails (by simp [hl2Ok])
  · rw [heq, if_neg hreturns, hfails.mp hfailed]
    simp
  · rw [hfails, Bool.not_eq_false] at hfailed
    rw [heq, if_neg hreturns, hfailed]
    simp

theorem Inv.health_healthCheck (h : x.Inv) {l2 builder : AuthClient} {now : UInt64}
    (hrecovered : x.server.Recovered api.toEngineApiExt config (.healthCheck l2 builder now)) :
    (x.step api.toEngineApiExt config (.healthCheck l2 builder now)).server.health = .healthy := by
  have hhealth : (x.step api.toEngineApiExt config
      (.healthCheck l2 builder now)).server.health =
        (x.server.finding api.toEngineApiExt config l2 builder now).health :=
    RollupBoostServer.healthCheck_health h.enabled l2 builder now
  rw [hhealth, hrecovered.inSync l2 builder now rfl]
  rfl

theorem Inv.step (h : x.Inv) (hmode : event.KeepsMode)
    (hrecovered : x.server.Recovered api.toEngineApiExt config event) :
    (x.step api.toEngineApiExt config event).Inv where
  enabled := by
    rw [← h.enabled]
    exact (x.server.step_frame api.toEngineApiExt config event).2 hmode
  health := by
    cases event with
    | getPayload answers version payloadId => exact h.health_getPayload hrecovered
    | healthCheck l2 builder now =>
        exact fun _ => iff_of_true (h.health_healthCheck hrecovered) rfl
    | _ => exact h.health_of_silent rfl rfl rfl

/-- The builder is skipped exactly when it was missed. -/
theorem Inv.forwards_iff (h : x.Inv) (hignore : config.ignoreUnhealthyBuilders = true) :
    x.Forwards api.toEngineApiExt config event ↔ x.NotMissed event := by
  simp only [Forwards, NotMissed]
  refine forall_congr' fun answers => forall_congr' fun state => forall_congr' fun attrs => ?_
  refine imp_congr_right fun hevent => imp_congr_right fun htxPool =>
    imp_congr_right fun hchecked => ?_
  subst hevent
  rw [← h.health hchecked]
  have hskips : x.server.shouldSkipUnhealthyBuilder config = true ↔ x.server.health ≠ .healthy := by
    simp [RollupBoostServer.shouldSkipUnhealthyBuilder, hignore]
  obtain ⟨hskipped, -, hsent⟩ | ⟨-, hasked, hcases⟩ :=
    x.server.forkChoiceUpdatedV3_cases api.toEngineApiExt config answers state (some attrs)
  · have hunhealthy : x.server.health ≠ .healthy := by
      rw [← hskips]
      exact hskipped.resolve_left (by simp [h.notDisabled])
    refine iff_of_false ?_ hunhealthy
    simp only [RollupBoostServer.handle, Handled.observe, hsent]
    exact List.not_mem_nil
  · have hhealthy : x.server.health = .healthy := by
      rw [← not_ne_iff, ← hskips, hasked]
      simp
    refine iff_of_true ?_ hhealthy
    obtain ⟨other, heq, hnoTxPool, -⟩ | ⟨other, heq, -, -, hsent⟩ | ⟨hnone, -⟩ := hcases
    · obtain rfl := Option.some.inj heq
      exact absurd htxPool (by simp [hnoTxPool])
    · simp only [RollupBoostServer.handle, Handled.observe, hsent, api.forkChoiceUpdatedV3_sent]
      exact List.mem_singleton.mpr rfl
    · exact absurd hnone (by simp)

/-- In mode `Enabled`, while all requests succeed and all rounds find both heads fresh: after
a round, every forkchoice update with attributes from the transaction pool is forwarded to
the builder exactly if none comes when the last `getPayload` since the round was for a payload
that the builder is not credited with. -/
theorem traffic_resumes_iff (api : ForwardingApi T) (config : ServerConfig)
    (hignore : config.ignoreUnhealthyBuilders = true) (server : RollupBoostServer T)
    (henabled : server.executionMode = .enabled) (events : List (Event T))
    (hmode : ∀ event ∈ events, event.KeepsMode)
    (hrecovered : Along (RollupBoostServer.step api.toEngineApiExt config)
      (RollupBoostServer.Recovered api.toEngineApiExt config) server events) :
    Along (step api.toEngineApiExt config) (Forwards api.toEngineApiExt config) (start server)
        events ↔
      Along (step api.toEngineApiExt config) NotMissed (start server) events := by
  have hinv : (start server).Inv := ⟨henabled, by simp [start]⟩
  have hcontext : Along (step api.toEngineApiExt config)
      (fun x event => x.server.Recovered api.toEngineApiExt config event ∧ event.KeepsMode)
      (start server) events :=
    (Along.of_projection (fun _ _ => rfl) hrecovered).and_forall hmode
  refine Along.congr_of_invariant (fun x event h _ => Inv.forwards_iff h hignore) ?_ hcontext hinv
  intro x event h hcontext _
  exact Inv.step h hcontext.2 hcontext.1

/-- The latest blocks of both clients are new. -/
def freshRound : Event Unit :=
  .healthCheck { AuthClient.refused with getBlockByNumber := fun _ _ => .ok { timestamp := 200 } }
    { AuthClient.refused with getBlockByNumber := fun _ _ => .ok { timestamp := 200 } } 200

def beginsSeven : Event Unit :=
  .forkChoiceUpdatedV3 (RollupBoostServer.oneBlock .valid) default (some default)

def fetchesSeven : Event Unit := .getPayload (RollupBoostServer.oneBlock .valid) .v3 7

/-- The builder was stale when payload 7 was begun, so only the L2 client builds it. -/
def afterStale : RollupBoostServer Unit :=
  run (RollupBoostServer.step RpcClient.engineApi RollupBoostServer.ignoringConfig)
    (.new () .enabled) [RollupBoostServer.staleBuilder Unit, beginsSeven]

/-- The payload that was begun without the builder is fetched before the first round, and the
next ones are begun with it. -/
theorem traffic_resumes_after_round :
    Along (step RpcClient.engineApi RollupBoostServer.ignoringConfig)
      (Forwards RpcClient.engineApi RollupBoostServer.ignoringConfig) (start afterStale)
      [fetchesSeven, freshRound, beginsSeven, fetchesSeven, beginsSeven] := by
  refine (traffic_resumes_iff RpcClient.forwardingApi RollupBoostServer.ignoringConfig rfl
    afterStale rfl _ ?_ ?_).mpr ?_
  · simp [fetchesSeven, freshRound, beginsSeven, Event.KeepsMode]
  · refine ⟨⟨by decide, by decide, by simp [fetchesSeven]⟩, ⟨by decide, by decide, ?_⟩,
      ⟨by decide, by decide, by simp [beginsSeven]⟩,
      ⟨by decide, by decide, by simp [fetchesSeven]⟩,
      ⟨by decide, by decide, by simp [beginsSeven]⟩, trivial⟩
    rintro l2 builder now ⟨⟩
    rfl
  · exact ⟨by simp [NotMissed, fetchesSeven], by simp [NotMissed, freshRound],
      fun _ _ _ _ _ _ => rfl, by simp [NotMissed, fetchesSeven], fun _ _ _ _ _ _ => rfl, trivial⟩

/-- The payload that was begun without the builder is fetched after the round: the next one is
begun without it too. -/
theorem skipped_after_round :
    Along (RollupBoostServer.step RpcClient.engineApi RollupBoostServer.ignoringConfig)
      (RollupBoostServer.Recovered RpcClient.engineApi RollupBoostServer.ignoringConfig) afterStale
      [freshRound, fetchesSeven, beginsSeven] ∧
    ¬ Along (step RpcClient.engineApi RollupBoostServer.ignoringConfig)
      (Forwards RpcClient.engineApi RollupBoostServer.ignoringConfig) (start afterStale)
      [freshRound, fetchesSeven, beginsSeven] := by
  constructor
  · refine ⟨⟨by decide, by decide, ?_⟩, ⟨by decide, by decide, by simp [fetchesSeven]⟩,
      ⟨by decide, by decide, by simp [beginsSeven]⟩, trivial⟩
    rintro l2 builder now ⟨⟩
    rfl
  · rintro ⟨-, -, hforwards, -⟩
    exact List.not_mem_nil (hforwards _ _ _ rfl rfl rfl)

end Recovery

end RollupBoost
