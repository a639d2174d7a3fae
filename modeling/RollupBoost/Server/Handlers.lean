import RollupBoost.Machine.Run
import RollupBoost.Server.Basic

/-!
# The handlers of the server

Each Engine API handler of `server.rs`, the round of the health check (`health.rs`)
and what else may happen to the server between two calls. A handler runs as one
step. `get_payload` is cut where the source awaits: the entry check of the mode,
the builder's future, and the selection, which reads the mode again.

`calculate_external_state_root` unwraps an entry that it removes from the table of
forkchoice requests. A missing entry is a panic, which unwinds the handler.
-/

namespace RollupBoost

open Machine

/-- The future of the builder in `get_payload`. -/
structure BuilderPayloadResult where
  payload : Option OpExecutionPayloadEnvelope
  builderApiFailed : Bool

namespace Handled

variable {T α β : Type}

/-- Continue with the response of a handler. -/
def andThen (handled : Handled T α) (f : α → Outcome ErrorObject β) : Handled T β where
  response := handled.response >>= f
  server := handled.server
  l2Requests := handled.l2Requests
  builderRequests := handled.builderRequests

end Handled

namespace RollupBoostServer

variable {T : Type} (api : EngineApiExt T) (config : ServerConfig)

/-! ## newPayload -/

def newPayload (self : RollupBoostServer T) (answers : Answers) (newPayload : NewPayload) :
    Handled T PayloadStatus :=
  let self :=
    { self with
      payloadTraceContext := self.payloadTraceContext.removeByParentHash newPayload.parentHash }
  { response := .ofExcept (RpcClient.newPayload answers.l2 newPayload).toRpc
    server :=
      -- the builder is kept in sync, but its answer is not awaited
      if !self.executionMode.isDisabled && !self.shouldSkipUnhealthyBuilder config then
        self.spawn (.newPayload newPayload)
      else self
    l2Requests := [(.opNode, .newPayload newPayload (answers.l2.newPayload newPayload))]
    builderRequests := [] }

/-! ## getPayload -/

/-- The attributes under which the L2 client rebuilds a builder block. -/
def stateRootAttributes (builderPayload : OpExecutionPayloadEnvelope) :
    Option OpPayloadAttributes → OpPayloadAttributes
  | some attrs =>
      { payloadAttributes := attrs.payloadAttributes
        transactions := some builderPayload.transactions
        noTxPool := some true
        gasLimit := attrs.gasLimit
        eip1559Params := attrs.eip1559Params
        minBaseFee := attrs.minBaseFee }
  | none =>
      { payloadAttributes := builderPayload.payloadAttributes
        transactions := some builderPayload.transactions
        noTxPool := some true
        gasLimit := none
        eip1559Params := none
        minBaseFee := none }

def calculateExternalStateRoot (self : RollupBoostServer T) (l2 : AuthClient)
    (builderPayload : OpExecutionPayloadEnvelope) (payloadId : PayloadId)
    (version : PayloadVersion) : Handled T (Option OpExecutionPayloadEnvelope) :=
  match self.payloadToFcuRequest payloadId with
  | none =>
      { response := .panic "called `Option::unwrap()` on a `None` value"
        server := self
        l2Requests := []
        builderRequests := [] }
  | some (state, attributes) =>
      let self :=
        { self with payloadToFcuRequest := self.payloadToFcuRequest.remove payloadId }
      let attrs := stateRootAttributes builderPayload attributes
      let fcu : Origin × Exchange :=
        (.stateRoot, .forkChoiceUpdatedV3 state (some attrs)
          (l2.forkChoiceUpdatedV3 state (some attrs)))
      match (RpcClient.forkChoiceUpdatedV3 l2 state (some attrs)).toRpc with
      | .error e =>
          { response := .error e, server := self, l2Requests := [fcu], builderRequests := [] }
      | .ok l2Result =>
          match l2Result.payloadId with
          | none =>
              { response := .ok none, server := self, l2Requests := [fcu], builderRequests := [] }
          | some newPayloadId =>
              -- a failed `getPayload` is no block, but no error either
              { response := .ok (RpcClient.getPayload l2 newPayloadId version).toOption
                server := self
                l2Requests :=
                  [fcu, (.stateRoot, .getPayload version newPayloadId
                    (l2.getPayload newPayloadId version))]
                builderRequests := [] }

def builderFut (self : RollupBoostServer T) (answers : Answers) (payloadId : PayloadId)
    (version : PayloadVersion) : Handled T BuilderPayloadResult :=
  if !self.payloadTraceContext.hasBuilderPayload payloadId then
    { response := .ok { payload := none, builderApiFailed := true }
      server := self
      l2Requests := []
      builderRequests := [] }
  else
    let reply := api.getPayload answers.builder payloadId version self.builderClient
    let self := { self with builderClient := reply.client }
    match reply.result with
    | .error _ =>
        { response := .ok { payload := none, builderApiFailed := true }
          server := self
          l2Requests := []
          builderRequests := reply.sent }
    | .ok payload =>
        if !config.externalStateRoot then
          -- validate with the L2 client; of its answer only an error is looked at
          let request := NewPayload.ofEnvelope payload
          { response := .ofExcept (RpcClient.newPayload answers.l2Inner request).toRpc >>=
              fun _ => .ok { payload := some payload, builderApiFailed := false }
            server := self
            l2Requests :=
              [(.validation, .newPayload request (answers.l2Inner.newPayload request))]
            builderRequests := reply.sent }
        else
          let root := self.calculateExternalStateRoot answers.l2Inner payload payloadId version
          { response := root.response >>=
              fun payload => .ok { payload := payload, builderApiFailed := false }
            server := root.server
            l2Requests := root.l2Requests
            builderRequests := reply.sent }

/-- The builder's future gets as far as `calculate_external_state_root`. -/
def ReachesStateRoot (self : RollupBoostServer T) (builder : AuthClient) (payloadId : PayloadId)
    (version : PayloadVersion) : Prop :=
  config.externalStateRoot = true ∧
  self.payloadTraceContext.hasBuilderPayload payloadId = true ∧
  (api.getPayload builder payloadId version self.builderClient).result.isOk = true

instance (self : RollupBoostServer T) (builder : AuthClient) (payloadId : PayloadId)
    (version : PayloadVersion) :
    Decidable (self.ReachesStateRoot api config builder payloadId version) :=
  inferInstanceAs (Decidable (_ ∧ _ ∧ _))

theorem calculateExternalStateRoot_server (self : RollupBoostServer T) (l2 : AuthClient)
    (builderPayload : OpExecutionPayloadEnvelope) (payloadId : PayloadId)
    (version : PayloadVersion) :
    (self.calculateExternalStateRoot l2 builderPayload payloadId version).server =
      { self with payloadToFcuRequest := self.payloadToFcuRequest.remove payloadId } := by
  simp only [calculateExternalStateRoot]
  cases hentry : self.payloadToFcuRequest payloadId with
  | none => simp [Table.remove_of_eq_none _ hentry]
  | some request =>
      simp only
      split
      · rfl
      · split <;> rfl

/-- All that the builder's future can do: the builder is not asked, or has no block, or
its block is validated, or its block is rebuilt. -/
theorem builderFut_cases (self : RollupBoostServer T) (answers : Answers)
    (payloadId : PayloadId) (version : PayloadVersion) :
    let reply := api.getPayload answers.builder payloadId version self.builderClient
    let asked := { self with builderClient := reply.client }
    let future := self.builderFut api config answers payloadId version
    (self.payloadTraceContext.hasBuilderPayload payloadId = false ∧
      future =
        { response := .ok { payload := none, builderApiFailed := true }
          server := self
          l2Requests := []
          builderRequests := [] }) ∨
    (∃ e, self.payloadTraceContext.hasBuilderPayload payloadId = true ∧
      reply.result = .error e ∧
      future =
        { response := .ok { payload := none, builderApiFailed := true }
          server := asked
          l2Requests := []
          builderRequests := reply.sent }) ∨
    (∃ payload, self.payloadTraceContext.hasBuilderPayload payloadId = true ∧
      reply.result = .ok payload ∧ config.externalStateRoot = false ∧
      future =
        { response := .ofExcept
              (RpcClient.newPayload answers.l2Inner (.ofEnvelope payload)).toRpc >>=
            fun _ => .ok { payload := some payload, builderApiFailed := false }
          server := asked
          l2Requests :=
            [(.validation, .newPayload (.ofEnvelope payload)
              (answers.l2Inner.newPayload (.ofEnvelope payload)))]
          builderRequests := reply.sent }) ∨
    (∃ payload, self.payloadTraceContext.hasBuilderPayload payloadId = true ∧
      reply.result = .ok payload ∧ config.externalStateRoot = true ∧
      future =
        { response :=
            (asked.calculateExternalStateRoot answers.l2Inner payload payloadId
              version).response >>=
            fun payload => .ok { payload := payload, builderApiFailed := false }
          server := { asked with payloadToFcuRequest := self.payloadToFcuRequest.remove payloadId }
          l2Requests :=
            (asked.calculateExternalStateRoot answers.l2Inner payload payloadId version).l2Requests
          builderRequests := reply.sent }) := by
  intro reply asked future
  cases hhas : self.payloadTraceContext.hasBuilderPayload payloadId with
  | false =>
      left
      exact ⟨rfl, by simp [future, builderFut, hhas]⟩
  | true =>
      right
      cases hreply : reply.result with
      | error e =>
          left
          exact ⟨e, rfl, rfl, by simp [future, builderFut, hhas, reply, asked, hreply]⟩
      | ok payload =>
          right
          cases hroot : config.externalStateRoot with
          | false =>
              left
              exact ⟨payload, rfl, rfl, rfl, by
                simp [future, builderFut, hhas, reply, asked, hreply, hroot]⟩
          | true =>
              right
              exact ⟨payload, rfl, rfl, rfl, by
                simp [future, builderFut, hhas, reply, asked, hreply, hroot,
                  calculateExternalStateRoot_server]⟩

/-- All that the builder's future changes: the builder client, and the entry that the
external state root consumes. -/
theorem builderFut_server (self : RollupBoostServer T) (answers : Answers)
    (payloadId : PayloadId) (version : PayloadVersion) :
    ∃ client, (self.builderFut api config answers payloadId version).server =
      { self with
        builderClient := client
        payloadToFcuRequest :=
          if self.ReachesStateRoot api config answers.builder payloadId version then
            self.payloadToFcuRequest.remove payloadId
          else self.payloadToFcuRequest } := by
  obtain ⟨hhas, heq⟩ | ⟨e, hhas, hreply, heq⟩ | ⟨payload, hhas, hreply, hroot, heq⟩ |
      ⟨payload, hhas, hreply, hroot, heq⟩ :=
    self.builderFut_cases api config answers payloadId version
  · refine ⟨self.builderClient, ?_⟩
    rw [heq, if_neg (fun hreaches => absurd hreaches.2.1 (by simp [hhas]))]
  · refine ⟨(api.getPayload answers.builder payloadId version self.builderClient).client, ?_⟩
    rw [heq, if_neg]
    intro hreaches
    exact absurd hreaches.2.2 (by simp [hreply, Except.isOk, Except.toBool])
  · refine ⟨(api.getPayload answers.builder payloadId version self.builderClient).client, ?_⟩
    rw [heq, if_neg (fun hreaches => absurd hreaches.1 (by simp [hroot]))]
  · refine ⟨(api.getPayload answers.builder payloadId version self.builderClient).client, ?_⟩
    rw [heq, if_pos ⟨hroot, hhas, by simp [hreply, Except.isOk, Except.toBool]⟩]

/-- The choice between the two blocks, with the source that the log and the metrics
name. The mode is read here for the second time.

The build is one without overflow checks. With them, the difference of gas that goes to the
span panics for some gas of the builder from 2 ^ 63 on. -/
def chooseBlock (self : RollupBoostServer T) (l2Payload : OpExecutionPayloadEnvelope)
    (builderPayload : Option OpExecutionPayloadEnvelope) (builderApiFailed : Bool) :
    RollupBoostServer T × (OpExecutionPayloadEnvelope × PayloadSource) :=
  match builderPayload with
  | some builderPayload =>
      if self.executionMode.isDryRun then
        (self, (l2Payload, .l2))
      else
        match config.blockSelectionPolicy with
        | some policy => (self, policy.selectBlock builderPayload l2Payload)
        | none => (self, (builderPayload, .builder))
  | none =>
      if self.executionMode.isEnabled && builderApiFailed then
        (self.setHealth .partialContent, (l2Payload, .l2))
      else
        (self, (l2Payload, .l2))

/-- What follows when both futures have ended. An error of the builder's is logged and
counts as a failure of its API; a panic of either future unwinds the handler. -/
def selectPayload (self : RollupBoostServer T)
    (l2Payload : ClientResult OpExecutionPayloadEnvelope)
    (builderPayload : Outcome ErrorObject BuilderPayloadResult) :
    RollupBoostServer T × Outcome ErrorObject (OpExecutionPayloadEnvelope × PayloadSource) :=
  match builderPayload, l2Payload.toRpc with
  | .panic message, _ => (self, .panic message)
  | _, .error e => (self.setHealth .serviceUnavailable, .error e)
  | .ok result, .ok l2Payload =>
      let chosen := (self.setHealth .healthy).chooseBlock config l2Payload result.payload
        result.builderApiFailed
      (chosen.1, .ok chosen.2)
  | .error _, .ok l2Payload =>
      let chosen := (self.setHealth .healthy).chooseBlock config l2Payload none true
      (chosen.1, .ok chosen.2)

/-- The block and its source. The request to the L2 client is sent in every mode. -/
def getPayload (self : RollupBoostServer T) (answers : Answers) (payloadId : PayloadId)
    (version : PayloadVersion) : Handled T (OpExecutionPayloadEnvelope × PayloadSource) :=
  let l2Payload := RpcClient.getPayload answers.l2 payloadId version
  let l2Request : Origin × Exchange :=
    (.opNode, .getPayload version payloadId (answers.l2.getPayload payloadId version))
  if self.executionMode.isDisabled then
    match l2Payload.toRpc with
    | .ok payload =>
        { response := .ok (payload, .l2)
          server := self.setHealth .healthy
          l2Requests := [l2Request]
          builderRequests := [] }
    | .error e =>
        { response := .error e
          server := self.setHealth .serviceUnavailable
          l2Requests := [l2Request]
          builderRequests := [] }
  else
    let builder := self.builderFut api config answers payloadId version
    let selected := builder.server.selectPayload config l2Payload builder.response
    { response := selected.2
      server := selected.1
      l2Requests := l2Request :: builder.l2Requests
      builderRequests := builder.builderRequests }

theorem chooseBlock_server (config : ServerConfig) (self : RollupBoostServer T)
    (l2Payload : OpExecutionPayloadEnvelope)
    (builderPayload : Option OpExecutionPayloadEnvelope) (failed : Bool) :
    ∃ health, (self.chooseBlock config l2Payload builderPayload failed).1 =
      self.setHealth health := by
  simp only [chooseBlock]
  split
  · split
    · exact ⟨self.health, rfl⟩
    · split <;> exact ⟨self.health, rfl⟩
  · split
    · exact ⟨.partialContent, rfl⟩
    · exact ⟨self.health, rfl⟩

theorem selectPayload_server (config : ServerConfig) (self : RollupBoostServer T)
    (l2Result : ClientResult OpExecutionPayloadEnvelope)
    (builderResult : Outcome ErrorObject BuilderPayloadResult) :
    ∃ health, (self.selectPayload config l2Result builderResult).1 = self.setHealth health := by
  simp only [selectPayload]
  split
  · exact ⟨self.health, rfl⟩
  · exact ⟨.serviceUnavailable, rfl⟩
  · exact chooseBlock_server ..
  · exact chooseBlock_server ..

/-- All that `get_payload` changes: the builder client, the probe, and the entry that the
external state root consumes. -/
theorem getPayload_server (self : RollupBoostServer T) (answers : Answers)
    (payloadId : PayloadId) (version : PayloadVersion) :
    ∃ client health, (self.getPayload api config answers payloadId version).server =
      { self with
        builderClient := client
        health := health
        payloadToFcuRequest :=
          if self.executionMode.isDisabled = false ∧
              self.ReachesStateRoot api config answers.builder payloadId version then
            self.payloadToFcuRequest.remove payloadId
          else self.payloadToFcuRequest } := by
  by_cases hdisabled : self.executionMode.isDisabled = true
  · simp only [getPayload, hdisabled, if_true, Bool.true_eq_false, false_and, if_false]
    split <;> exact ⟨self.builderClient, _, rfl⟩
  · obtain ⟨client, hserver⟩ := self.builderFut_server api config answers payloadId version
    obtain ⟨health, hselected⟩ := selectPayload_server config
      (self.builderFut api config answers payloadId version).server
      (RpcClient.getPayload answers.l2 payloadId version)
      (self.builderFut api config answers payloadId version).response
    refine ⟨client, health, ?_⟩
    simp only [getPayload, hdisabled, Bool.false_eq_true, if_false, hselected, true_and]
    rw [hserver]
    rfl

def invalidRequestCode : Int := -32600

/-- The error of both methods when the block has the other version; the text names
version 4 in both. -/
def payloadVersionError : ErrorObject :=
  { code := invalidRequestCode, message := "Payload version 4 not supported", data := none }

def getPayloadV3 (self : RollupBoostServer T) (answers : Answers) (payloadId : PayloadId) :
    Handled T OpExecutionPayloadEnvelopeV3 :=
  (self.getPayload api config answers payloadId .v3).andThen fun (payload, _) =>
    match payload with
    | .v3 payload => .ok payload
    | .v4 _ => .error payloadVersionError

def getPayloadV4 (self : RollupBoostServer T) (answers : Answers) (payloadId : PayloadId) :
    Handled T OpExecutionPayloadEnvelopeV4 :=
  (self.getPayload api config answers payloadId .v4).andThen fun (payload, _) =>
    match payload with
    | .v4 payload => .ok payload
    | .v3 _ => .error payloadVersionError

/-! ## forkchoiceUpdated -/

/-- The payload that the L2 client has begun; an error ends the handler first. -/
def begunPayload : RpcResult ForkchoiceUpdated → Option PayloadId
  | .ok l2Response => l2Response.payloadId
  | .error _ => none

/-- Remember who builds the payload. -/
def traceBuilding (self : RollupBoostServer T) (l2Result : RpcResult ForkchoiceUpdated)
    (state : ForkchoiceState) (builderHasPayload : Bool) : RollupBoostServer T :=
  match begunPayload l2Result with
  | none => self
  | some payloadId =>
      { self with
        payloadTraceContext :=
          self.payloadTraceContext.store payloadId state.headBlockHash builderHasPayload }

/-- Remember the request of the payload, for the external state root. -/
def recordRequest (self : RollupBoostServer T) (l2Result : RpcResult ForkchoiceUpdated)
    (state : ForkchoiceState) (attributes : Option OpPayloadAttributes) : RollupBoostServer T :=
  match begunPayload l2Result with
  | none => self
  | some payloadId =>
      if config.externalStateRoot then
        { self with
          payloadToFcuRequest := self.payloadToFcuRequest.insert payloadId (state, attributes) }
      else self

/-- Besides the trace context nothing changes. -/
theorem traceBuilding_frame (self : RollupBoostServer T)
    (l2Result : RpcResult ForkchoiceUpdated) (state : ForkchoiceState) (flag : Bool) :
    ∃ context, self.traceBuilding l2Result state flag =
      { self with payloadTraceContext := context } := by
  simp only [traceBuilding]
  split
  · exact ⟨self.payloadTraceContext, rfl⟩
  · exact ⟨_, rfl⟩

@[simp] theorem traceBuilding_payloadToFcuRequest (self : RollupBoostServer T)
    (l2Result : RpcResult ForkchoiceUpdated) (state : ForkchoiceState) (flag : Bool) :
    (self.traceBuilding l2Result state flag).payloadToFcuRequest = self.payloadToFcuRequest := by
  obtain ⟨context, heq⟩ := self.traceBuilding_frame l2Result state flag
  rw [heq]

/-- Besides the table of requests nothing changes. -/
theorem recordRequest_frame (self : RollupBoostServer T)
    (l2Result : RpcResult ForkchoiceUpdated) (state : ForkchoiceState)
    (attributes : Option OpPayloadAttributes) :
    ∃ table, self.recordRequest config l2Result state attributes =
      { self with payloadToFcuRequest := table } := by
  simp only [recordRequest]
  split
  · exact ⟨self.payloadToFcuRequest, rfl⟩
  · split
    · exact ⟨_, rfl⟩
    · exact ⟨self.payloadToFcuRequest, rfl⟩

@[simp] theorem recordRequest_payloadTraceContext (self : RollupBoostServer T)
    (l2Result : RpcResult ForkchoiceUpdated) (state : ForkchoiceState)
    (attributes : Option OpPayloadAttributes) :
    (self.recordRequest config l2Result state attributes).payloadTraceContext =
      self.payloadTraceContext := by
  obtain ⟨table, heq⟩ := self.recordRequest_frame config l2Result state attributes
  rw [heq]

/-- What follows when the L2 client and the builder have both answered. -/
def startBuilding (self : RollupBoostServer T) (l2Result : RpcResult ForkchoiceUpdated)
    (state : ForkchoiceState) (attributes : Option OpPayloadAttributes)
    (builderResult : ClientResult ForkchoiceUpdated) : RollupBoostServer T :=
  (self.traceBuilding l2Result state builderResult.isOk).recordRequest config l2Result state
    attributes

def forkChoiceUpdatedV3 (self : RollupBoostServer T) (answers : Answers)
    (state : ForkchoiceState) (attributes : Option OpPayloadAttributes) :
    Handled T ForkchoiceUpdated :=
  let l2Result := (RpcClient.forkChoiceUpdatedV3 answers.l2 state attributes).toRpc
  let relay (server : RollupBoostServer T) (builderRequests : List Exchange) :
      Handled T ForkchoiceUpdated :=
    { response := .ofExcept l2Result
      server := server
      l2Requests := [(.opNode, .forkChoiceUpdatedV3 state attributes
        (answers.l2.forkChoiceUpdatedV3 state attributes))]
      builderRequests := builderRequests }
  if self.executionMode.isDisabled then relay self []
  else if self.shouldSkipUnhealthyBuilder config then relay self []
  else
    match attributes with
    | some attrs =>
        if attrs.noTxPool.getD false then
          relay (self.traceBuilding l2Result state false) []
        else
          let reply := api.forkChoiceUpdatedV3 answers.builder state attributes self.builderClient
          let self := { self with builderClient := reply.client }
          relay (self.startBuilding config l2Result state attributes reply.result) reply.sent
    | none =>
        relay ((self.spawn (.forkChoiceUpdatedV3 state none)).recordRequest config l2Result state
          none) []

/-- On every path the L2 client is asked exactly once, and its answer is returned. -/
theorem forkChoiceUpdatedV3_relays (self : RollupBoostServer T) (answers : Answers)
    (state : ForkchoiceState) (attributes : Option OpPayloadAttributes) :
    let handled := self.forkChoiceUpdatedV3 api config answers state attributes
    handled.response =
      .ofExcept (RpcClient.forkChoiceUpdatedV3 answers.l2 state attributes).toRpc ∧
    handled.l2Requests =
      [(.opNode, .forkChoiceUpdatedV3 state attributes
        (answers.l2.forkChoiceUpdatedV3 state attributes))] := by
  simp only [forkChoiceUpdatedV3]
  split
  · exact ⟨rfl, rfl⟩
  · split
    · exact ⟨rfl, rfl⟩
    · split
      · split <;> exact ⟨rfl, rfl⟩
      · exact ⟨rfl, rfl⟩

/-- All that a forkchoice update can do to the server: it is only relayed, or the L2
client builds alone, or both build, or the builder is told later. -/
theorem forkChoiceUpdatedV3_cases (self : RollupBoostServer T) (answers : Answers)
    (state : ForkchoiceState) (attributes : Option OpPayloadAttributes) :
    let l2Result := (RpcClient.forkChoiceUpdatedV3 answers.l2 state attributes).toRpc
    let reply := api.forkChoiceUpdatedV3 answers.builder state attributes self.builderClient
    let handled := self.forkChoiceUpdatedV3 api config answers state attributes
    ((self.executionMode.isDisabled = true ∨ self.shouldSkipUnhealthyBuilder config = true) ∧
      handled.server = self ∧ handled.builderRequests = []) ∨
    (self.executionMode.isDisabled = false ∧ self.shouldSkipUnhealthyBuilder config = false ∧
      ((∃ attrs, attributes = some attrs ∧ attrs.noTxPool.getD false = true ∧
        handled.server = self.traceBuilding l2Result state false ∧
        handled.builderRequests = []) ∨
      (∃ attrs, attributes = some attrs ∧ attrs.noTxPool.getD false = false ∧
        handled.server = ({ self with builderClient := reply.client } :
          RollupBoostServer T).startBuilding config l2Result state attributes reply.result ∧
        handled.builderRequests = reply.sent) ∨
      (attributes = none ∧
        handled.server = (self.spawn (.forkChoiceUpdatedV3 state none)).recordRequest config
          l2Result state none ∧
        handled.builderRequests = []))) := by
  intro l2Result reply handled
  cases hdisabled : self.executionMode.isDisabled with
  | true =>
      left
      simp [handled, forkChoiceUpdatedV3, hdisabled]
  | false =>
      cases hskip : self.shouldSkipUnhealthyBuilder config with
      | true =>
          left
          simp [handled, forkChoiceUpdatedV3, hdisabled, hskip]
      | false =>
          refine .inr ⟨rfl, rfl, ?_⟩
          cases attributes with
          | none =>
              refine .inr (.inr ⟨rfl, ?_⟩)
              simp [handled, forkChoiceUpdatedV3, hdisabled, hskip, l2Result]
          | some attrs =>
              cases htxPool : attrs.noTxPool.getD false with
              | true =>
                  refine .inl ⟨attrs, rfl, htxPool, ?_⟩
                  simp [handled, forkChoiceUpdatedV3, hdisabled, hskip, htxPool, l2Result]
              | false =>
                  refine .inr (.inl ⟨attrs, rfl, htxPool, ?_⟩)
                  simp [handled, forkChoiceUpdatedV3, hdisabled, hskip, htxPool, l2Result, reply]

/-! ## Health check -/

/-- The latest block is older than the bound; the difference saturates at zero. -/
def tooOld (now : UInt64) (block : Block) : Bool :=
  decide (config.maxUnsafeInterval.toNat < now.toNat - block.timestamp.toNat)

/-- One round of the health check at the time `now`. -/
def healthCheck (self : RollupBoostServer T) (l2 builder : AuthClient) (now : UInt64) :
    Handled T Unit :=
  let l2Request : Origin × Exchange :=
    (.health, .getBlockByNumber .latest false (l2.getBlockByNumber .latest false))
  let done (server : RollupBoostServer T) (builderRequests : List Exchange) : Handled T Unit :=
    { response := .ok ()
      server := server
      l2Requests := [l2Request]
      builderRequests := builderRequests }
  match RpcClient.getBlockByNumber l2 .latest false with
  | .error _ => done (self.setHealth .serviceUnavailable) []
  | .ok block =>
      if tooOld config now block then
        done (self.setHealth .serviceUnavailable) []
      else if !self.executionMode.isEnabled then
        done (self.setHealth .healthy) []
      else
        let reply := api.getBlockByNumber builder .latest false self.builderClient
        let self := { self with builderClient := reply.client }
        match reply.result with
        | .error _ => done (self.setHealth .partialContent) reply.sent
        | .ok block =>
            if tooOld config now block then
              done (self.setHealth .partialContent) reply.sent
            else
              done (self.setHealth .healthy) reply.sent

/-- A round asks the L2 client once, and changes at most the probe and the builder
client. -/
theorem healthCheck_frame (self : RollupBoostServer T) (l2 builder : AuthClient)
    (now : UInt64) :
    let handled := self.healthCheck api config l2 builder now
    handled.l2Requests =
      [(.health, .getBlockByNumber .latest false (l2.getBlockByNumber .latest false))] ∧
    ∃ client health, handled.server = { self with builderClient := client, health := health } := by
  simp only [healthCheck]
  split
  · exact ⟨rfl, _, _, rfl⟩
  · split
    · exact ⟨rfl, _, _, rfl⟩
    · split
      · exact ⟨rfl, _, _, rfl⟩
      · split
        · exact ⟨rfl, _, _, rfl⟩
        · split <;> exact ⟨rfl, _, _, rfl⟩

/-! ## Spawned calls -/

/-- A spawned call runs at some later time; its result is dropped. -/
def runTask (self : RollupBoostServer T) (index : Nat) (builder : AuthClient) :
    RollupBoostServer T × List Exchange :=
  match self.spawned[index]? with
  | none => (self, [])
  | some task =>
      let self := { self with spawned := self.spawned.eraseIdx index }
      match task with
      | .forkChoiceUpdatedV3 state attributes =>
          let reply := api.forkChoiceUpdatedV3 builder state attributes self.builderClient
          ({ self with builderClient := reply.client }, reply.sent)
      | .newPayload payload =>
          let reply := api.newPayload builder payload self.builderClient
          ({ self with builderClient := reply.client }, reply.sent)

theorem runTask_frame (self : RollupBoostServer T) (index : Nat) (builder : AuthClient) :
    ∃ client spawned, (self.runTask api index builder).1 =
      { self with builderClient := client, spawned := spawned } := by
  unfold runTask
  split
  · exact ⟨_, _, rfl⟩
  · simp only
    split <;> exact ⟨_, _, rfl⟩

end RollupBoostServer

/-! ## Events -/

/-- What happens to the server: calls of op-node, changes of the mode, rounds of the
health check, spawned calls, evictions, and whatever changes the builder client on
its own, such as the messages of its websocket. -/
inductive Event (T : Type) where
  | forkChoiceUpdatedV3 (answers : Answers) (state : ForkchoiceState)
      (attributes : Option OpPayloadAttributes)
  | getPayload (answers : Answers) (version : PayloadVersion) (payloadId : PayloadId)
  | newPayload (answers : Answers) (payload : NewPayload)
  | setExecutionMode (mode : ExecutionMode)
  | healthCheck (l2 builder : AuthClient) (now : UInt64)
  | runTask (index : Nat) (builder : AuthClient)
  | evictPayloadId (payloadId : PayloadId)
  | evictBlockHash (hash : B256)
  | builderClient (next : T)

/-- The answer to a call of op-node. -/
inductive Response where
  | forkChoiceUpdatedV3 (result : Outcome ErrorObject ForkchoiceUpdated)
  | getPayloadV3 (result : Outcome ErrorObject OpExecutionPayloadEnvelopeV3)
  | getPayloadV4 (result : Outcome ErrorObject OpExecutionPayloadEnvelopeV4)
  | newPayload (result : Outcome ErrorObject PayloadStatus)

def Response.panics : Response → Bool
  | .forkChoiceUpdatedV3 result => result.panics
  | .getPayloadV3 result => result.panics
  | .getPayloadV4 result => result.panics
  | .newPayload result => result.panics

/-- What an event leaves behind and what can be observed of it. -/
structure Observed (T : Type) where
  server : RollupBoostServer T
  response : Option Response
  l2Requests : List (Origin × Exchange)
  builderRequests : List Exchange

def Handled.observe {T α : Type} (handled : Handled T α)
    (response : Outcome ErrorObject α → Option Response) : Observed T where
  server := handled.server
  response := response handled.response
  l2Requests := handled.l2Requests
  builderRequests := handled.builderRequests

namespace RollupBoostServer

variable {T : Type} (api : EngineApiExt T) (config : ServerConfig)

/-- A change that sends nothing and answers nobody. -/
def silently (self : RollupBoostServer T) : Observed T where
  server := self
  response := none
  l2Requests := []
  builderRequests := []

def handle (self : RollupBoostServer T) : Event T → Observed T
  | .forkChoiceUpdatedV3 answers state attributes =>
      (self.forkChoiceUpdatedV3 api config answers state attributes).observe
        (some ∘ .forkChoiceUpdatedV3)
  | .getPayload answers .v3 payloadId =>
      (self.getPayloadV3 api config answers payloadId).observe (some ∘ .getPayloadV3)
  | .getPayload answers .v4 payloadId =>
      (self.getPayloadV4 api config answers payloadId).observe (some ∘ .getPayloadV4)
  | .newPayload answers payload =>
      (self.newPayload config answers payload).observe (some ∘ .newPayload)
  | .setExecutionMode mode => silently { self with executionMode := mode }
  | .healthCheck l2 builder now =>
      (self.healthCheck api config l2 builder now).observe fun _ => none
  | .runTask index builder =>
      let (self, sent) := self.runTask api index builder
      { silently self with builderRequests := sent }
  | .evictPayloadId payloadId =>
      silently { self with
        payloadTraceContext :=
          { self.payloadTraceContext with
            payloadId := self.payloadTraceContext.payloadId.remove payloadId } }
  | .evictBlockHash hash =>
      silently { self with
        payloadTraceContext :=
          { self.payloadTraceContext with
            blockHashToPayloadIds :=
              self.payloadTraceContext.blockHashToPayloadIds.remove hash } }
  | .builderClient next => silently { self with builderClient := next }

def step (self : RollupBoostServer T) (event : Event T) : RollupBoostServer T :=
  (self.handle api config event).server

theorem step_healthCheck (self : RollupBoostServer T) (l2 builder : AuthClient) (now : UInt64) :
    ∃ client health, self.step api config (.healthCheck l2 builder now) =
      { self with builderClient := client, health := health } :=
  (self.healthCheck_frame api config l2 builder now).2

theorem step_runTask (self : RollupBoostServer T) (index : Nat) (builder : AuthClient) :
    ∃ client spawned, self.step api config (.runTask index builder) =
      { self with builderClient := client, spawned := spawned } :=
  self.runTask_frame api index builder

end RollupBoostServer

end RollupBoost
