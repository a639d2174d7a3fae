import RollupBoost.Server.Validation

/-!
# The builder cannot interfere with the L2 path

Two runs of the server are compared that agree in what op-node and the operator can
see: the calls of op-node with the L2 client's answers to them, and the changes of the
execution mode. Everything else may differ, in particular every answer of the builder,
the validations of its blocks, the rounds of the health check, spawned calls and the
state of the builder client.

Each run is shown to answer op-node as the L2 client does (`relayed`), up to the block
of a `getPayload`, and to pass on exactly the calls of op-node. Both facts are about
one event at a time and need no invariant: no path of a handler lets the hidden state
reach the answer.
-/

namespace RollupBoost

open Machine

/-! ## What op-node sees -/

/-- A response without the block of a `getPayload`. -/
inductive Seen where
  | forkChoiceUpdatedV3 (result : Outcome ErrorObject ForkchoiceUpdated)
  | getPayload (result : Outcome ErrorObject Unit)
  | newPayload (result : Outcome ErrorObject PayloadStatus)

def Response.seen : Response → Seen
  | .forkChoiceUpdatedV3 result => .forkChoiceUpdatedV3 result
  | .getPayloadV3 result => .getPayload (result >>= fun _ => .ok ())
  | .getPayloadV4 result => .getPayload (result >>= fun _ => .ok ())
  | .newPayload result => .newPayload result

namespace Event

variable {T : Type}

/-- The call of op-node with the L2 client's answer to it. -/
def call : Event T → Option Exchange
  | .forkChoiceUpdatedV3 answers state attributes =>
      some (.forkChoiceUpdatedV3 state attributes (answers.l2.forkChoiceUpdatedV3 state attributes))
  | .getPayload answers version payloadId =>
      some (.getPayload version payloadId (answers.l2.getPayload payloadId version))
  | .newPayload answers payload => some (.newPayload payload (answers.l2.newPayload payload))
  | _ => none

/-- What both runs share of an event: a call, or a change of the mode. -/
def visible : Event T → Option (Exchange ⊕ ExecutionMode)
  | .setExecutionMode mode => some (.inr mode)
  | event => event.call.map .inl

theorem call_eq_visible (event : Event T) :
    event.call = event.visible.bind Sum.getLeft? := by
  cases event <;> rfl

end Event

/-- The calls of op-node, in order. -/
def opNodeCalls {T : Type} (events : List (Event T)) : List Exchange :=
  events.filterMap Event.call

theorem opNodeCalls_of_visible {T T' : Type} {es : List (Event T)} {es' : List (Event T')}
    (h : es.filterMap Event.visible = es'.filterMap Event.visible) :
    opNodeCalls es = opNodeCalls es' := by
  have hcalls : ∀ {T : Type} (es : List (Event T)),
      opNodeCalls es = (es.filterMap Event.visible).filterMap Sum.getLeft? := by
    intro T es
    rw [List.filterMap_filterMap]
    exact congrArg (List.filterMap · es) (funext Event.call_eq_visible)
  rw [hcalls, hcalls, h]

/-- The answer that op-node would get from the L2 client alone. -/
def Exchange.relayed : Exchange → Option Seen
  | .forkChoiceUpdatedV3 _ _ answer =>
      some (.forkChoiceUpdatedV3 (.ofExcept (RpcClient.acceptForkchoice answer).toRpc))
  | .getPayload _ _ answer =>
      some (.getPayload (.ofExcept (RpcClient.lift answer).toRpc >>= fun _ => .ok ()))
  | .newPayload _ answer =>
      some (.newPayload (.ofExcept (RpcClient.acceptStatus answer).toRpc))
  | .getBlockByNumber _ _ _ => none

namespace BlockSelectionPolicy

theorem selectBlock_version (policy : BlockSelectionPolicy) {version : PayloadVersion}
    {builderPayload l2Payload : OpExecutionPayloadEnvelope}
    (hbuilder : builderPayload.version = version) (hl2 : l2Payload.version = version) :
    (policy.selectBlock builderPayload l2Payload).1.version = version := by
  cases policy
  simp only [selectBlock]
  split
  · exact hl2
  · exact hbuilder

end BlockSelectionPolicy

namespace RollupBoostServer

variable {T : Type} {api : EngineApiExt T} {config : ServerConfig}
variable {answers : Answers} {payloadId : PayloadId} {version : PayloadVersion}

/-! ## One call -/

/-- Without the external state root the builder's future does not panic, and a block
that it yields has the version asked for. -/
theorem builderFut_version (hroot : config.externalStateRoot = false) (api : EngineApiExt T)
    (self : RollupBoostServer T) (answers : Answers) (payloadId : PayloadId)
    (version : PayloadVersion) :
    (∃ e, (self.builderFut api config answers payloadId version).response = .error e) ∨
    ∃ result, (self.builderFut api config answers payloadId version).response = .ok result ∧
      ∀ payload ∈ result.payload, payload.version = version := by
  obtain ⟨-, heq⟩ | ⟨e, -, -, heq⟩ | ⟨payload, -, hreply, -, heq⟩ | ⟨payload, -, -, hroot', -⟩ :=
    self.builderFut_cases api config answers payloadId version
  · exact .inr ⟨_, by rw [heq], by simp⟩
  · exact .inr ⟨_, by rw [heq], by simp⟩
  · rw [heq]
    cases hcheck : RpcClient.newPayload answers.l2Inner (.ofEnvelope payload) with
    | error e => exact .inl ⟨e.toErrorObject, by simp⟩
    | ok status =>
        right
        refine ⟨{ payload := some payload, builderApiFailed := false }, by simp, ?_⟩
        intro block hblock
        obtain rfl := Option.some.inj hblock
        exact api.getPayload_version hreply
  · exact absurd hroot' (by simp [hroot])

theorem builderFut_l2Requests (hroot : config.externalStateRoot = false)
    (self : RollupBoostServer T) :
    ∀ request ∈ (self.builderFut api config answers payloadId version).l2Requests,
      request.1 = .validation := by
  obtain ⟨-, heq⟩ | ⟨e, -, -, heq⟩ | ⟨payload, -, -, -, heq⟩ | ⟨payload, -, -, hroot', -⟩ :=
    self.builderFut_cases api config answers payloadId version
  · simp [heq]
  · simp [heq]
  · simp [heq]
  · exact absurd hroot' (by simp [hroot])

/-- The answer fails exactly as the L2 client does, and else is a block of the version
asked for. -/
structure Relays (version : PayloadVersion) (l2Result : ClientResult OpExecutionPayloadEnvelope)
    (response : Outcome ErrorObject (OpExecutionPayloadEnvelope × PayloadSource)) : Prop where
  error : ∀ e, l2Result = .error e → response = .error e.toErrorObject
  ok : ∀ l2Payload, l2Result = .ok l2Payload →
    ∃ payload source, response = .ok (payload, source) ∧ payload.version = version

theorem chooseBlock_version (self : RollupBoostServer T) {l2Payload : OpExecutionPayloadEnvelope}
    {builderPayload : Option OpExecutionPayloadEnvelope} (failed : Bool)
    (hl2 : l2Payload.version = version)
    (hbuilder : ∀ payload ∈ builderPayload, payload.version = version) :
    (self.chooseBlock config l2Payload builderPayload failed).2.1.version = version := by
  simp only [chooseBlock]
  cases builderPayload with
  | none =>
      simp only
      split <;> exact hl2
  | some builderPayload =>
      have hblock := hbuilder builderPayload rfl
      simp only
      split
      · exact hl2
      · split
        · next policy _ => exact policy.selectBlock_version hblock hl2
        · exact hblock

theorem selectPayload_relays (config : ServerConfig) (self : RollupBoostServer T)
    {l2Result : ClientResult OpExecutionPayloadEnvelope}
    {builderResult : Outcome ErrorObject BuilderPayloadResult}
    (hl2 : ∀ payload, l2Result = .ok payload → payload.version = version)
    (hbuilder : (∃ e, builderResult = .error e) ∨ ∃ result, builderResult = .ok result ∧
      ∀ payload ∈ result.payload, payload.version = version) :
    Relays version l2Result (self.selectPayload config l2Result builderResult).2 := by
  refine ⟨?_, ?_⟩
  · rintro e rfl
    obtain ⟨e', rfl⟩ | ⟨result, rfl, -⟩ := hbuilder <;> rfl
  · rintro l2Payload rfl
    have hversion := hl2 l2Payload rfl
    obtain ⟨e, rfl⟩ | ⟨result, rfl, hblock⟩ := hbuilder
    · exact ⟨_, _, rfl, (self.setHealth .healthy).chooseBlock_version true hversion (by simp)⟩
    · exact ⟨_, _, rfl, (self.setHealth .healthy).chooseBlock_version _ hversion hblock⟩

theorem getPayload_relays (hroot : config.externalStateRoot = false) (api : EngineApiExt T)
    (self : RollupBoostServer T) (answers : Answers) (payloadId : PayloadId)
    (version : PayloadVersion) :
    Relays version (RpcClient.getPayload answers.l2 payloadId version)
      (self.getPayload api config answers payloadId version).response := by
  have hversion : ∀ payload, RpcClient.getPayload answers.l2 payloadId version = .ok payload →
      payload.version = version := fun payload h => RpcClient.getPayload_version h
  by_cases hdisabled : self.executionMode.isDisabled = true
  · refine ⟨?_, ?_⟩
    · intro e he
      simp [getPayload, hdisabled, he]
    · intro payload hpayload
      refine ⟨payload, .l2, ?_, hversion payload hpayload⟩
      simp [getPayload, hdisabled, hpayload]
  · have hbuilder := builderFut_version hroot api self answers payloadId version
    have hselected := selectPayload_relays config
      (self.builderFut api config answers payloadId version).server hversion hbuilder
    simpa only [getPayload, hdisabled, Bool.false_eq_true, if_false] using hselected

/-! ## One event -/

/-- The requests that remain when the validations of builder blocks and the probes of
the health check are deleted. -/
def relayedRequests (requests : List (Origin × Exchange)) : List EngineRequest :=
  (requests.filter fun request => request.1 ≠ .validation ∧ request.1 ≠ .health).map
    fun request => request.2.request

/-- Either method of `getPayload` succeeds when the L2 client does, and else hands on
its error. -/
theorem handle_getPayload_seen (hroot : config.externalStateRoot = false) (api : EngineApiExt T)
    (self : RollupBoostServer T) (answers : Answers) (payloadId : PayloadId)
    (version : PayloadVersion) :
    (self.handle api config (.getPayload answers version payloadId)).response.map Response.seen =
      some (.getPayload (.ofExcept (RpcClient.getPayload answers.l2 payloadId version).toRpc >>=
        fun _ => .ok ())) := by
  have hrelays := getPayload_relays hroot api self answers payloadId version
  cases hl2 : RpcClient.getPayload answers.l2 payloadId version with
  | error e =>
      have hresponse := hrelays.error e hl2
      cases version <;>
        simp [handle, Handled.observe, getPayloadV3, getPayloadV4, Handled.andThen, hresponse,
          Response.seen]
  | ok l2Payload =>
      obtain ⟨payload, source, hresponse, hversion⟩ := hrelays.ok l2Payload hl2
      cases version <;> cases payload <;>
        simp_all [handle, Handled.observe, getPayloadV3, getPayloadV4, Handled.andThen,
          Response.seen,
          OpExecutionPayloadEnvelope.version]

/-- An event is answered as the L2 client alone would, up to the block. -/
theorem handle_response (hroot : config.externalStateRoot = false) (api : EngineApiExt T)
    (self : RollupBoostServer T) (event : Event T) :
    (self.handle api config event).response.map Response.seen =
      event.call.bind Exchange.relayed := by
  cases event with
  | forkChoiceUpdatedV3 answers state attributes =>
      have hresponse := (self.forkChoiceUpdatedV3_relays api config answers state attributes).1
      simp [handle, Handled.observe, hresponse, Response.seen, Event.call, Exchange.relayed,
        RpcClient.forkChoiceUpdatedV3]
  | getPayload answers version payloadId =>
      exact handle_getPayload_seen hroot api self answers payloadId version
  | newPayload answers payload =>
      simp [handle, Handled.observe, newPayload, Response.seen, Event.call, Exchange.relayed,
        RpcClient.newPayload]
  | setExecutionMode mode => rfl
  | healthCheck l2 builder now => rfl
  | runTask index builder => rfl
  | evictPayloadId payloadId => rfl
  | evictBlockHash hash => rfl
  | builderClient next => rfl

theorem getPayload_relayedRequests (hroot : config.externalStateRoot = false)
    (api : EngineApiExt T) (self : RollupBoostServer T) (answers : Answers)
    (payloadId : PayloadId) (version : PayloadVersion) :
    relayedRequests (self.getPayload api config answers payloadId version).l2Requests =
      [.getPayload version payloadId] := by
  by_cases hdisabled : self.executionMode.isDisabled = true
  · cases hl2 : RpcClient.getPayload answers.l2 payloadId version <;>
      simp [getPayload, hdisabled, hl2, relayedRequests,
        Exchange.request]
  · have hvalidations : (self.builderFut api config answers payloadId version).l2Requests.filter
        (fun request => request.1 ≠ .validation ∧ request.1 ≠ .health) = [] := by
      rw [List.filter_eq_nil_iff]
      intro request hmem
      simp [builderFut_l2Requests hroot self request hmem]
    simp only [getPayload, hdisabled, Bool.false_eq_true, if_false, relayedRequests,
      List.filter_cons, hvalidations]
    rfl

/-- Of an event the L2 client receives the call of op-node, unchanged, besides
validations and probes. -/
theorem handle_l2Requests (hroot : config.externalStateRoot = false) (api : EngineApiExt T)
    (self : RollupBoostServer T) (event : Event T) :
    relayedRequests (self.handle api config event).l2Requests =
      (event.call.map Exchange.request).toList := by
  cases event with
  | forkChoiceUpdatedV3 answers state attributes =>
      have hrequests := (self.forkChoiceUpdatedV3_relays api config answers state attributes).2
      simp [handle, Handled.observe, hrequests, relayedRequests, Event.call, Exchange.request]
  | getPayload answers version payloadId =>
      have hrequests := getPayload_relayedRequests hroot api self answers payloadId version
      cases version <;> exact hrequests
  | newPayload answers payload => rfl
  | setExecutionMode mode => rfl
  | healthCheck l2 builder now =>
      have hrequests := (self.healthCheck_frame api config l2 builder now).1
      simp [handle, Handled.observe, hrequests, relayedRequests, Event.call]
  | runTask index builder => rfl
  | evictPayloadId payloadId => rfl
  | evictBlockHash hash => rfl
  | builderClient next => rfl

/-! ## Whole runs -/

/-- The responses of a run, in order. -/
def responses (api : EngineApiExt T) (config : ServerConfig) (self : RollupBoostServer T)
    (events : List (Event T)) : List Response :=
  (outputs (step api config) (handle api config) self events).filterMap (·.response)

/-- All requests that the L2 client receives in a run, in order. -/
def l2Requests (api : EngineApiExt T) (config : ServerConfig) (self : RollupBoostServer T)
    (events : List (Event T)) : List (Origin × Exchange) :=
  (outputs (step api config) (handle api config) self events).flatMap (·.l2Requests)

theorem responses_seen (hroot : config.externalStateRoot = false) (api : EngineApiExt T)
    (self : RollupBoostServer T) (events : List (Event T)) :
    (responses api config self events).map Response.seen =
      (opNodeCalls events).filterMap Exchange.relayed := by
  simp only [responses, opNodeCalls]
  rw [List.map_filterMap, List.filterMap_filterMap]
  induction events generalizing self with
  | nil => rfl
  | cons event events ih =>
      rw [outputs_cons, List.filterMap_cons, List.filterMap_cons, handle_response hroot, ih]

theorem l2Requests_relayed (hroot : config.externalStateRoot = false) (api : EngineApiExt T)
    (self : RollupBoostServer T) (events : List (Event T)) :
    relayedRequests (l2Requests api config self events) =
      (opNodeCalls events).map Exchange.request := by
  induction events generalizing self with
  | nil => rfl
  | cons event events ih =>
      have hevent := handle_l2Requests hroot api self event
      have hrest := ih (step api config self event)
      simp only [relayedRequests, l2Requests, opNodeCalls] at *
      rw [outputs_cons, List.flatMap_cons, List.filter_append, List.map_append, hevent, hrest,
        List.filterMap_cons]
      cases event.call <;> rfl

/-- Two runs with the same calls, the same answers of the L2 client to them and the
same changes of the mode: whatever the builder does, op-node sees the same responses up
to the blocks, and the L2 client receives exactly the calls of op-node, besides the
validations of builder blocks and the probes of the health check. -/
theorem builder_cannot_interfere {T T' : Type} (api : EngineApiExt T) (api' : EngineApiExt T')
    (config : ServerConfig) (hroot : config.externalStateRoot = false)
    (self : RollupBoostServer T) (self' : RollupBoostServer T')
    (events : List (Event T)) (events' : List (Event T'))
    (hvisible : events.filterMap Event.visible = events'.filterMap Event.visible) :
    (responses api config self events).map Response.seen =
      (responses api' config self' events').map Response.seen ∧
    relayedRequests (l2Requests api config self events) =
      (opNodeCalls events).map Exchange.request ∧
    relayedRequests (l2Requests api' config self' events') =
      (opNodeCalls events).map Exchange.request := by
  have hcalls := opNodeCalls_of_visible hvisible
  refine ⟨?_, l2Requests_relayed hroot api self events, ?_⟩
  · rw [responses_seen hroot, responses_seen hroot, hcalls]
  · rw [l2Requests_relayed hroot, hcalls]

/-- A builder that is down, and one that builds every block. -/
theorem builder_down_does_not_interfere :
    (responses RpcClient.engineApi plainConfig (.new () .enabled)
        [.forkChoiceUpdatedV3 (oneBlock .valid) default (some default),
          .getPayload (oneBlock .valid) .v3 7]).map Response.seen =
      (responses RpcClient.engineApi plainConfig (.new () .enabled)
        [.forkChoiceUpdatedV3 { oneBlock .valid with builder := .refused } default (some default),
          .healthCheck .refused .refused 0,
          .getPayload { oneBlock .valid with builder := .refused } .v3 7]).map Response.seen :=
  (builder_cannot_interfere RpcClient.engineApi RpcClient.engineApi plainConfig rfl
    (.new () .enabled) (.new () .enabled)
    [.forkChoiceUpdatedV3 (oneBlock .valid) default (some default),
      .getPayload (oneBlock .valid) .v3 7]
    [.forkChoiceUpdatedV3 { oneBlock .valid with builder := .refused } default (some default),
      .healthCheck .refused .refused 0,
      .getPayload { oneBlock .valid with builder := .refused } .v3 7] rfl).1

/-- A round of the health check sends a request to the L2 client that is neither a call
of op-node nor a validation. -/
theorem health_check_probes_l2 :
    ((l2Requests RpcClient.engineApi plainConfig (.new () .enabled)
        [.healthCheck .refused .refused 0]).filter (·.1 ≠ .validation)).map (·.2.request) ≠
      (opNodeCalls [(.healthCheck .refused .refused 0 : Event Unit)]).map Exchange.request := by
  decide

end RollupBoostServer

end RollupBoost
