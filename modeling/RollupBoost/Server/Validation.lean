import RollupBoost.Server.Handlers

/-!
# Which builder blocks are returned

Before a builder block can be selected, `get_payload` sends it to the L2 client as a
`newPayload`. The client turns a transport error and the status `INVALID` into an
error, and `get_payload` drops the status of every other answer. So `SYNCING` and
`ACCEPTED` let a block pass that the L2 client has not executed.

`SelectsBuilder` is the condition on the inputs under which a builder block is up for
selection. The block is returned exactly when it also passes the check, and it is a
validated block exactly when the status was not one of the two.
-/

namespace RollupBoost

open Machine

/-- The two statuses by which the L2 client accepts a block without having checked it. -/
def PayloadStatusEnum.isUndecided : PayloadStatusEnum → Bool
  | .syncing => true
  | .accepted => true
  | _ => false

theorem PayloadStatusEnum.eq_valid_of {status : PayloadStatusEnum}
    (hinvalid : status.isInvalid = false) (hundecided : status.isUndecided = false) :
    status = .valid := by
  cases status with
  | valid => rfl
  | invalid validationError => exact absurd hinvalid (by simp [isInvalid])
  | syncing => exact absurd hundecided (by simp [isUndecided])
  | accepted => exact absurd hundecided (by simp [isUndecided])

theorem PayloadStatusEnum.isInvalid_of_isUndecided {status : PayloadStatusEnum}
    (h : status.isUndecided = true) : status.isInvalid = false ∧ status ≠ .valid := by
  cases status <;> simp_all [isUndecided, isInvalid]

namespace BlockSelectionPolicy

/-- A policy never makes up a block: what it calls the builder's is the builder's. -/
theorem selectBlock_builder_iff {policy : BlockSelectionPolicy}
    {builderPayload l2Payload payload : OpExecutionPayloadEnvelope} :
    policy.selectBlock builderPayload l2Payload = (payload, .builder) ↔
      builderPayload = payload ∧
        (policy.selectBlock builderPayload l2Payload).2 = .builder := by
  cases policy
  simp only [selectBlock]
  split <;> simp

/-- Whether the builder block is preferred, with no policy standing for always. -/
def Prefers (policy : Option BlockSelectionPolicy)
    (builderPayload l2Payload : OpExecutionPayloadEnvelope) : Prop :=
  ∀ p ∈ policy, (p.selectBlock builderPayload l2Payload).2 = .builder

end BlockSelectionPolicy

namespace RollupBoostServer

variable {T : Type} {api : EngineApiExt T} {config : ServerConfig} {self : RollupBoostServer T}
variable {answers : Answers} {payloadId : PayloadId} {version : PayloadVersion}
variable {payload : OpExecutionPayloadEnvelope}

/-- The future of the builder yields a block when the builder has one and the L2
client does not object to it. -/
theorem builderFut_payload_iff (hroot : config.externalStateRoot = false) :
    (∃ failed, (self.builderFut api config answers payloadId version).response =
        .ok { payload := some payload, builderApiFailed := failed }) ↔
      self.payloadTraceContext.hasBuilderPayload payloadId = true ∧
      (api.getPayload answers.builder payloadId version self.builderClient).result =
        .ok payload ∧
      ∃ status, answers.l2Inner.newPayload (.ofEnvelope payload) = .ok status ∧
        status.status.isInvalid = false := by
  obtain ⟨hhas, heq⟩ | ⟨e, hhas, hreply, heq⟩ | ⟨block, hhas, hreply, -, heq⟩ |
      ⟨block, -, -, hroot', -⟩ :=
    self.builderFut_cases api config answers payloadId version
  · simp [heq, hhas]
  · simp [heq, hreply]
  · rw [heq]
    simp only [hhas, hreply, Except.ok.injEq, true_and, ← RpcClient.newPayload_ok_iff]
    cases hcheck : RpcClient.newPayload answers.l2Inner (.ofEnvelope block) with
    | error e =>
        simp only [ClientResult.toRpc_error, Outcome.ofExcept_error, Outcome.error_bind,
          reduceCtorEq, exists_false, false_iff, not_and]
        rintro rfl
        simp [hcheck]
    | ok status =>
        simp only [ClientResult.toRpc_ok, Outcome.ofExcept_ok, Outcome.ok_bind,
          Outcome.ok.injEq, BuilderPayloadResult.mk.injEq, Option.some.injEq]
        constructor
        · rintro ⟨failed, rfl, -⟩
          exact ⟨rfl, status, hcheck⟩
        · rintro ⟨rfl, -⟩
          exact ⟨false, rfl, rfl⟩
  · exact absurd hroot' (by simp [hroot])

/-- The builder is named when it has a block, the mode is not `DryRun` and the policy
prefers its block. -/
theorem chooseBlock_builder_iff {l2Payload : OpExecutionPayloadEnvelope}
    {builderPayload : Option OpExecutionPayloadEnvelope} {failed : Bool} :
    (self.chooseBlock config l2Payload builderPayload failed).2 = (payload, .builder) ↔
      self.executionMode ≠ .dryRun ∧ builderPayload = some payload ∧
        BlockSelectionPolicy.Prefers config.blockSelectionPolicy payload l2Payload := by
  simp only [chooseBlock]
  cases builderPayload with
  | none =>
      simp only [reduceCtorEq, false_and, and_false, iff_false]
      split <;> simp
  | some builderPayload =>
      by_cases hmode : self.executionMode = .dryRun
      · simp [ExecutionMode.isDryRun, hmode]
      · cases hpolicy : config.blockSelectionPolicy with
        | none => simp [ExecutionMode.isDryRun, hmode, BlockSelectionPolicy.Prefers]
        | some policy =>
            simp only [ExecutionMode.isDryRun, hmode, decide_false, Bool.false_eq_true, if_false,
              ne_eq, not_false_eq_true, true_and, Option.some.injEq]
            rw [BlockSelectionPolicy.selectBlock_builder_iff]
            constructor
            · rintro ⟨rfl, hsource⟩
              refine ⟨rfl, ?_⟩
              intro p hp
              obtain rfl := Option.some.inj hp
              exact hsource
            · rintro ⟨rfl, hprefers⟩
              exact ⟨rfl, hprefers policy rfl⟩

theorem selectPayload_builder_iff {l2Result : ClientResult OpExecutionPayloadEnvelope}
    {builderResult : Outcome ErrorObject BuilderPayloadResult} :
    (self.selectPayload config l2Result builderResult).2 = .ok (payload, .builder) ↔
      self.executionMode ≠ .dryRun ∧
      (∃ failed, builderResult = .ok { payload := some payload, builderApiFailed := failed }) ∧
      ∃ l2Payload, l2Result = .ok l2Payload ∧
        BlockSelectionPolicy.Prefers config.blockSelectionPolicy payload l2Payload := by
  cases l2Result with
  | error e => cases builderResult <;> simp [selectPayload]
  | ok l2Payload =>
      cases builderResult with
      | panic message => simp [selectPayload]
      | error e => simp [selectPayload, chooseBlock_builder_iff]
      | ok result =>
          obtain ⟨builderPayload, failed⟩ := result
          simp only [selectPayload, ClientResult.toRpc_ok, Outcome.ok.injEq,
            chooseBlock_builder_iff, setHealth, BuilderPayloadResult.mk.injEq,
            exists_eq_right', Except.ok.injEq, exists_eq_left']

/-- The builder's block is up for selection: the mode is `Enabled`, the trace context
says that the builder has the payload, both clients return a block, and the policy
prefers the builder's. -/
structure SelectsBuilder (api : EngineApiExt T) (config : ServerConfig)
    (server : RollupBoostServer T) (answers : Answers) (payloadId : PayloadId)
    (version : PayloadVersion) (payload : OpExecutionPayloadEnvelope) : Prop where
  enabled : server.executionMode = .enabled
  hasPayload : server.payloadTraceContext.hasBuilderPayload payloadId = true
  built : (api.getPayload answers.builder payloadId version server.builderClient).result =
    .ok payload
  preferred : ∃ l2Payload, RpcClient.getPayload answers.l2 payloadId version = .ok l2Payload ∧
    BlockSelectionPolicy.Prefers config.blockSelectionPolicy payload l2Payload

theorem builderFut_executionMode :
    (self.builderFut api config answers payloadId version).server.executionMode =
      self.executionMode := by
  obtain ⟨client, hserver⟩ := self.builderFut_server api config answers payloadId version
  rw [hserver]

/-- A builder block is returned exactly when it is up for selection and the L2 client
answers its validation with any status but `INVALID`. -/
theorem getPayload_builder_iff (hroot : config.externalStateRoot = false) :
    (self.getPayload api config answers payloadId version).response =
        .ok (payload, .builder) ↔
      SelectsBuilder api config self answers payloadId version payload ∧
      ∃ status, answers.l2Inner.newPayload (.ofEnvelope payload) = .ok status ∧
        status.status.isInvalid = false := by
  simp only [getPayload]
  by_cases hdisabled : self.executionMode = .disabled
  · have hnot : ¬ SelectsBuilder api config self answers payloadId version payload := by
      intro h
      rw [h.enabled] at hdisabled
      exact absurd hdisabled (by simp)
    simp only [ExecutionMode.isDisabled, hdisabled, decide_true, if_true, hnot, false_and,
      iff_false]
    split <;> simp
  · simp only [ExecutionMode.isDisabled, hdisabled, decide_false, Bool.false_eq_true, if_false]
    rw [selectPayload_builder_iff, builderFut_payload_iff hroot, builderFut_executionMode]
    constructor
    · rintro ⟨hdry, ⟨hhas, hbuilt, hcheck⟩, hpreferred⟩
      refine ⟨⟨?_, hhas, hbuilt, hpreferred⟩, hcheck⟩
      cases hmode : self.executionMode with
      | enabled => rfl
      | dryRun => exact absurd hmode hdry
      | disabled => exact absurd hmode hdisabled
    · rintro ⟨h, hcheck⟩
      refine ⟨?_, ⟨h.hasPayload, h.built, hcheck⟩, h.preferred⟩
      rw [h.enabled]
      simp

/-- During the call the L2 client answered `VALID` to the `newPayload` of exactly this
block. -/
def Validated {α : Type} (handled : Handled T α) (payload : OpExecutionPayloadEnvelope) : Prop :=
  ∃ origin status, (origin, Exchange.newPayload (.ofEnvelope payload) (.ok status)) ∈
    handled.l2Requests ∧ status.status = .valid

/-- When the builder's block is up for selection, the only `newPayload` of the call is
its validation. -/
theorem SelectsBuilder.validated_iff (hroot : config.externalStateRoot = false)
    (h : SelectsBuilder api config self answers payloadId version payload) :
    Validated (self.getPayload api config answers payloadId version) payload ↔
      ∃ status, answers.l2Inner.newPayload (.ofEnvelope payload) = .ok status ∧
        status.status = .valid := by
  have hrequests : (self.getPayload api config answers payloadId version).l2Requests =
      [(.opNode, .getPayload version payloadId (answers.l2.getPayload payloadId version)),
        (.validation, .newPayload (.ofEnvelope payload)
          (answers.l2Inner.newPayload (.ofEnvelope payload)))] := by
    simp [getPayload, builderFut, ExecutionMode.isDisabled, h.enabled, h.hasPayload, h.built, hroot]
  simp only [Validated]
  rw [hrequests]
  constructor
  · rintro ⟨origin, status, hmem, hvalid⟩
    simp only [List.mem_cons, List.not_mem_nil, or_false, Prod.mk.injEq, reduceCtorEq, and_false,
      false_or, Exchange.newPayload.injEq, true_and] at hmem
    exact ⟨status, hmem.2.symm, hvalid⟩
  · rintro ⟨status, hanswer, hvalid⟩
    exact ⟨.validation, status, by simp [hanswer], hvalid⟩

/-- A builder block that `get_payload` returns was validated by the L2 client, except
when the block is up for selection and the L2 client answers its validation with
`SYNCING` or `ACCEPTED`. -/
theorem builder_block_validated_iff (api : EngineApiExt T) (config : ServerConfig)
    (hroot : config.externalStateRoot = false) (self : RollupBoostServer T) (answers : Answers)
    (payloadId : PayloadId) (version : PayloadVersion) :
    (∀ payload,
      (self.getPayload api config answers payloadId version).response =
          .ok (payload, .builder) →
        Validated (self.getPayload api config answers payloadId version) payload) ↔
    ∀ payload status, SelectsBuilder api config self answers payloadId version payload →
      answers.l2Inner.newPayload (.ofEnvelope payload) = .ok status →
        status.status.isUndecided = false := by
  constructor
  · intro h payload status hselects hanswer
    by_contra hundecided
    obtain ⟨hpass, hne⟩ :=
      PayloadStatusEnum.isInvalid_of_isUndecided (Bool.not_eq_false _ ▸ hundecided)
    have hreturned := (getPayload_builder_iff hroot).mpr ⟨hselects, status, hanswer, hpass⟩
    obtain ⟨status', hanswer', hvalid⟩ := (hselects.validated_iff hroot).mp (h payload hreturned)
    rw [hanswer] at hanswer'
    obtain rfl := Except.ok.inj hanswer'
    exact hne hvalid
  · intro h payload hreturned
    obtain ⟨hselects, status, hanswer, hpass⟩ := (getPayload_builder_iff hroot).mp hreturned
    have hdecided := h payload status hselects hanswer
    exact (hselects.validated_iff hroot).mpr
      ⟨status, hanswer, PayloadStatusEnum.eq_valid_of hpass hdecided⟩

/-! ## A run with one block -/

/-- An endpoint with one answer to each method. -/
def endpoint (payloadId : PayloadId) (payload : OpExecutionPayloadEnvelopeV3)
    (status : PayloadStatusEnum) : AuthClient :=
  { AuthClient.refused with
    forkChoiceUpdatedV3 := fun _ _ => .ok
      { payloadStatus := { status := .valid, latestValidHash := none }
        payloadId := some payloadId }
    getPayloadV3 := fun _ => .ok payload
    newPayloadV3 := fun _ => .ok { status := status, latestValidHash := none }
    newPayloadV4 := fun _ => .ok { status := status, latestValidHash := none } }

/-- Both clients begin payload 7, and the L2 client answers validations with `status`. -/
def oneBlock (status : PayloadStatusEnum) : Answers where
  l2 := endpoint 7 default .valid
  l2Inner := endpoint 7 default status
  builder := endpoint 7 default .valid

def plainConfig : ServerConfig where
  blockSelectionPolicy := none
  externalStateRoot := false
  ignoreUnhealthyBuilders := false
  maxUnsafeInterval := 10

/-- The server after one forkchoice update with attributes. -/
def afterForkChoice (config : ServerConfig) : RollupBoostServer Unit :=
  run (step RpcClient.engineApi config) (.new () .enabled)
    [.forkChoiceUpdatedV3 (oneBlock .valid) default (some default)]

/-- A block that the L2 client answers with `VALID` is returned and was validated. -/
theorem builder_block_validated_when_valid :
    ((afterForkChoice plainConfig).getPayload RpcClient.engineApi plainConfig
        (oneBlock .valid) 7 .v3).response = .ok (.v3 default, .builder) ∧
      Validated ((afterForkChoice plainConfig).getPayload RpcClient.engineApi plainConfig
        (oneBlock .valid) 7 .v3) (.v3 default) := by
  refine ⟨rfl, (builder_block_validated_iff RpcClient.engineApi plainConfig rfl
    (afterForkChoice plainConfig) (oneBlock .valid) 7 .v3).mpr ?_ (.v3 default) rfl⟩
  intro payload status hselects hanswer
  obtain rfl : .v3 default = payload := Except.ok.inj hselects.built
  obtain rfl := Except.ok.inj hanswer
  rfl

/-- While the L2 client is syncing, an unvalidated builder block is returned. -/
theorem syncing_block_returned :
    ¬ ∀ payload,
      ((afterForkChoice plainConfig).getPayload RpcClient.engineApi plainConfig
          (oneBlock .syncing) 7 .v3).response = .ok (payload, .builder) →
        Validated ((afterForkChoice plainConfig).getPayload RpcClient.engineApi plainConfig
          (oneBlock .syncing) 7 .v3) payload := by
  intro h
  obtain ⟨origin, status, hmem, hvalid⟩ := h (.v3 default) rfl
  have hrequests : ((afterForkChoice plainConfig).getPayload RpcClient.engineApi plainConfig
      (oneBlock .syncing) 7 .v3).l2Requests =
        [(.opNode, .getPayload .v3 7 (.ok (.v3 default))),
          (.validation, .newPayload (.ofEnvelope (.v3 default))
            (.ok { status := .syncing, latestValidHash := none }))] := rfl
  rw [hrequests] at hmem
  simp only [List.mem_cons, List.not_mem_nil, or_false, Prod.mk.injEq, reduceCtorEq, and_false,
    false_or, Exchange.newPayload.injEq, true_and, Except.ok.injEq] at hmem
  rw [hmem.2] at hvalid
  exact absurd hvalid (by simp)

end RollupBoostServer

end RollupBoost
