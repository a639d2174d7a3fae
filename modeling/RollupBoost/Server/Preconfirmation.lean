import RollupBoost.Flashblocks.Service
import RollupBoost.Server.Validation

/-!
# Preconfirmations and the block that is returned

A server over a `FlashblocksService` decides twice about one payload. The service
publishes flashblocks from the moment the locally computed id is set, before the builder
has answered the forkchoice update. The server later asks the service for the block only
when that answer was a success. If the builder fails to answer but its websocket stream
goes on, preconfirmations are published and the block of the L2 client is returned.

One forkchoice update is split here at the request to the builder and at its answer, and
websocket messages may arrive anywhere in between. `completed_eq_handler` ties the two
halves to the handler. At the end the block that `get_payload` returns is determined: it
is the assembly of everything published when the builder's answer was a success, and the
block of the L2 client otherwise.
-/

namespace RollupBoost

open Machine FlashblocksService RollupBoostServer

/-- A forkchoice update with attributes that leave the tx pool on, and the answers that
both clients give to it. -/
structure SharedForkChoice where
  payloadIdOptimism : B256 → OpPayloadAttributes → UInt8 → PayloadId
  state : ForkchoiceState
  attributes : OpPayloadAttributes
  txPool : attributes.noTxPool.getD false = false
  l2 : AuthClient
  builder : AuthClient

namespace SharedForkChoice

/-- The id that the service computes before it asks the builder. -/
def payloadId (call : SharedForkChoice) : PayloadId :=
  call.payloadIdOptimism call.state.headBlockHash call.attributes 3

def l2Result (call : SharedForkChoice) : RpcResult ForkchoiceUpdated :=
  (RpcClient.forkChoiceUpdatedV3 call.l2 call.state (some call.attributes)).toRpc

def builderResult (call : SharedForkChoice) : ClientResult ForkchoiceUpdated :=
  RpcClient.forkChoiceUpdatedV3 call.builder call.state (some call.attributes)

/-- The L2 client begins the payload whose id the service computes, and the builder
answers with the same id or not at all. -/
structure Agreed (call : SharedForkChoice) : Prop where
  l2 : begunPayload call.l2Result = some call.payloadId
  builder : ∀ response, call.builderResult = .ok response →
    response.payloadId = some call.payloadId

end SharedForkChoice

inductive Phase where
  | idle
  | inFlight
  | answered
  deriving DecidableEq

/-- The server and how far its handler of the forkchoice update has come. -/
structure CallState where
  server : RollupBoostServer FlashblocksService
  phase : Phase

inductive CallEvent where
  /-- A message of the builder's websocket stream. -/
  | message (payload : FlashblocksPayloadV1)
  /-- The handler starts: the computed id is set and the requests are sent. -/
  | send
  /-- Both clients have answered, and the handler completes. -/
  | answer

namespace CallState

def start (server : RollupBoostServer FlashblocksService) : CallState :=
  { server := server, phase := .idle }

def setService (x : CallState) (service : FlashblocksService) : CallState :=
  { x with server := { x.server with builderClient := service } }

def step (call : SharedForkChoice) (config : ServerConfig) (x : CallState) :
    CallEvent → CallState
  | .message payload => x.setService (x.server.builderClient.onEvent payload)
  | .send =>
      match x.phase with
      | .idle =>
          if x.server.executionMode.isDisabled || x.server.shouldSkipUnhealthyBuilder config then
            { x with phase := .answered }
          else
            { x.setService (x.server.builderClient.calculatePayloadId call.payloadIdOptimism
                call.state (some call.attributes)) with phase := .inFlight }
      | _ => x
  | .answer =>
      match x.phase with
      | .inFlight =>
          let x := x.setService (x.server.builderClient.acceptResponse call.builderResult)
          { server := x.server.startBuilding config call.l2Result call.state
              (some call.attributes) call.builderResult
            phase := .answered }
      | _ => x

/-- The two halves of the call, with nothing in between, are the handler. -/
theorem completed_eq_handler (call : SharedForkChoice) (config : ServerConfig)
    (server : RollupBoostServer FlashblocksService) (answers : Answers)
    (hl2 : answers.l2 = call.l2) (hbuilder : answers.builder = call.builder) :
    (run (step call config) (start server) [.send, .answer]).server =
      (server.forkChoiceUpdatedV3 (engineApi call.payloadIdOptimism) config answers call.state
        (some call.attributes)).server := by
  by_cases hdisabled : server.executionMode.isDisabled = true
  · simp [step, start, forkChoiceUpdatedV3, hdisabled]
  · by_cases hskip : server.shouldSkipUnhealthyBuilder config = true
    · simp [step, start, forkChoiceUpdatedV3, hdisabled, hskip]
    · simp [step, start, forkChoiceUpdatedV3, hdisabled, hskip, call.txPool, setService, engineApi,
        SharedForkChoice.builderResult, SharedForkChoice.l2Result, hl2, hbuilder]

/-! ## The invariant of the call -/

/-- What holds along the call: nothing is published before the id is set, everything that
is published belongs to that id and is held by the builder, and the trace context records
whether the builder has answered. -/
structure Inv (call : SharedForkChoice) (x : CallState) : Prop where
  enabled : x.server.executionMode = .enabled
  builds : Builds x.server.builderClient.bestPayload x.server.builderClient.wsPub
  ofPayload : ∀ m ∈ x.server.builderClient.wsPub, m.payloadId = call.payloadId
  unset : x.server.builderClient.currentPayloadId = none →
    x.server.builderClient.wsPub = []
  current : ∀ id ∈ x.server.builderClient.currentPayloadId, id = call.payloadId
  idle : x.phase = .idle → x.server.builderClient.currentPayloadId = none
  inFlight : x.phase = .inFlight →
    x.server.builderClient.currentPayloadId = some call.payloadId
  credited : x.phase = .answered → x.server.builderClient.currentPayloadId ≠ none →
    x.server.payloadTraceContext.hasBuilderPayload call.payloadId = call.builderResult.isOk

variable {call : SharedForkChoice} {config : ServerConfig} {x : CallState}

theorem inv_start {server : RollupBoostServer FlashblocksService}
    (hnew : server.builderClient = .new) (henabled : server.executionMode = .enabled) :
    Inv call (start server) where
  enabled := henabled
  builds := by
    simp only [start, hnew]
    exact .new
  ofPayload := by simp [start, hnew, FlashblocksService.new]
  unset := by simp [start, hnew, FlashblocksService.new]
  current := by simp [start, hnew, FlashblocksService.new]
  idle := by simp [start, hnew, FlashblocksService.new]
  inFlight := by simp [start]
  credited := by simp [start]

theorem Inv.message (h : Inv call x) (payload : FlashblocksPayloadV1) :
    Inv call (x.setService (x.server.builderClient.onEvent payload)) := by
  rw [onEvent_eq]
  by_cases hpublishes : x.server.builderClient.Publishes payload
  · obtain ⟨hcurrent, haccepts⟩ := hpublishes
    have hid : payload.payloadId = call.payloadId := h.current payload.payloadId hcurrent
    rw [if_pos ⟨hcurrent, haccepts⟩]
    refine ⟨h.enabled, h.builds.push haccepts, ?_, ?_, h.current, h.idle, h.inFlight, h.credited⟩
    · intro m hm
      obtain hm | hm := List.mem_append.mp hm
      · exact h.ofPayload m hm
      · rw [List.mem_singleton.mp hm]
        exact hid
    · intro hunset
      change x.server.builderClient.currentPayloadId = none at hunset
      rw [hcurrent] at hunset
      exact absurd hunset (by simp)
  · rw [if_neg hpublishes]
    exact h

/-- Setting the id empties the builder, but nothing was published before. -/
theorem Inv.send (h : Inv call x) (hidle : x.phase = .idle) :
    Inv call { x.setService (x.server.builderClient.calculatePayloadId call.payloadIdOptimism
      call.state (some call.attributes)) with phase := .inFlight } := by
  have hnothing : x.server.builderClient.wsPub = [] := h.unset (h.idle hidle)
  refine ⟨h.enabled, ?_, h.ofPayload, fun _ => hnothing, ?_, by simp, fun _ => rfl, by simp⟩
  · change Builds .new x.server.builderClient.wsPub
    rw [hnothing]
    exact .new
  · intro id hid
    exact (Option.some.inj hid).symm

/-- An answer with the computed id, or no answer, leaves the service as it is. -/
theorem acceptResponse_eq (hagreed : call.Agreed) {service : FlashblocksService}
    (hcurrent : service.currentPayloadId = some call.payloadId) :
    service.acceptResponse call.builderResult = service := by
  simp only [acceptResponse]
  cases hresult : call.builderResult with
  | error e => rfl
  | ok response => simp [hagreed.builder response hresult, hcurrent]

theorem Inv.answer (h : Inv call x) (hagreed : call.Agreed) (hinFlight : x.phase = .inFlight) :
    Inv call (x.step call config .answer) := by
  have hservice := acceptResponse_eq hagreed (h.inFlight hinFlight)
  have hstep : x.step call config .answer =
      { server := x.server.startBuilding config call.l2Result call.state (some call.attributes)
          call.builderResult
        phase := .answered } := by
    simp only [step, hinFlight, hservice]
    rfl
  obtain ⟨context, htraced⟩ :=
    x.server.traceBuilding_frame call.l2Result call.state call.builderResult.isOk
  have hcredited : context.hasBuilderPayload call.payloadId = call.builderResult.isOk := by
    have hcontext : (x.server.traceBuilding call.l2Result call.state
        call.builderResult.isOk).payloadTraceContext = context := by
      rw [htraced]
    rw [← hcontext]
    simp [traceBuilding, hagreed.l2]
  obtain ⟨table, hrecorded⟩ :=
    (x.server.traceBuilding call.l2Result call.state call.builderResult.isOk).recordRequest_frame
      config call.l2Result call.state (some call.attributes)
  rw [hstep, startBuilding, hrecorded, htraced]
  exact ⟨h.enabled, h.builds, h.ofPayload, h.unset, h.current, by simp, by simp,
    fun _ _ => hcredited⟩

theorem inv_step (hagreed : call.Agreed) (x : CallState) (event : CallEvent) (h : Inv call x) :
    Inv call (x.step call config event) := by
  cases event with
  | message payload => exact h.message payload
  | send =>
      cases hphase : x.phase with
      | idle =>
          have hunset := h.idle hphase
          simp only [step, hphase]
          split
          · exact ⟨h.enabled, h.builds, h.ofPayload, h.unset, h.current, by simp, by simp,
              fun _ hset => absurd hunset hset⟩
          · exact h.send hphase
      | inFlight =>
          simp only [step, hphase]
          exact h
      | answered =>
          simp only [step, hphase]
          exact h
  | answer =>
      cases hphase : x.phase with
      | idle =>
          simp only [step, hphase]
          exact h
      | inFlight => exact h.answer hagreed hphase
      | answered =>
          simp only [step, hphase]
          exact h

/-! ## The block that is returned -/

/-- The flashblocks of the payload that have been published so far. -/
def published (call : SharedForkChoice) (x : CallState) : List FlashblocksPayloadV1 :=
  x.server.builderClient.wsPub.filter fun m => m.payloadId = call.payloadId

theorem Inv.published_eq (h : Inv call x) :
    published call x = x.server.builderClient.wsPub := by
  simp only [published]
  rw [List.filter_eq_self]
  intro m hm
  simp [h.ofPayload m hm]

/-- The block contains the transactions of every published flashblock, in order. -/
def Preserves (call : SharedForkChoice) (x : CallState) (payload : OpExecutionPayloadEnvelope) :
    Prop :=
  ((published call x).flatMap (·.diff.transactions)).Sublist payload.transactions

variable {answers : Answers} {version : PayloadVersion}

/-- When the builder has answered, its block is the assembly of what was published. -/
theorem Inv.getPayload_of_answer (h : Inv call x) (hanswered : x.phase = .answered)
    (hpublished : published call x ≠ []) (hpolicy : config.blockSelectionPolicy = none)
    (hroot : config.externalStateRoot = false) (hok : call.builderResult.isOk = true)
    {l2Payload : OpExecutionPayloadEnvelope}
    (hl2 : RpcClient.getPayload answers.l2 call.payloadId version = .ok l2Payload)
    (hvalid : ∀ request, ∃ status, RpcClient.newPayload answers.l2Inner request = .ok status) :
    ∃ payload,
      (x.server.getPayload (engineApi call.payloadIdOptimism) config answers call.payloadId
        version).response = .ok (payload, .builder) ∧ Preserves call x payload := by
  rw [h.published_eq] at hpublished
  have hset : x.server.builderClient.currentPayloadId ≠ none :=
    fun hunset => hpublished (h.unset hunset)
  obtain ⟨id, hid⟩ := Option.ne_none_iff_exists'.mp hset
  have hcurrent : x.server.builderClient.currentPayloadId = some call.payloadId := by
    rw [hid, h.current id hid]
  obtain ⟨payload, henvelope, -, htransactions⟩ :=
    h.builds.exists_envelope (List.length_pos_iff.mpr hpublished) version
  have hbuilt : ((engineApi call.payloadIdOptimism).getPayload answers.builder call.payloadId
      version x.server.builderClient).result = .ok payload := by
    simp [engineApi, getBestPayload, hcurrent, FlashblockBuilder.intoEnvelope, henvelope]
  obtain ⟨status, hstatus⟩ := hvalid (.ofEnvelope payload)
  refine ⟨payload, ?_, ?_⟩
  · refine (getPayload_builder_iff hroot).mpr ⟨⟨h.enabled, ?_, hbuilt, l2Payload, hl2, ?_⟩,
      status, RpcClient.newPayload_ok_iff.mp hstatus⟩
    · rw [h.credited hanswered hset]
      exact hok
    · simp [BlockSelectionPolicy.Prefers, hpolicy]
  · simp only [Preserves]
    rw [h.published_eq, htransactions]

/-- When the builder has failed to answer, the block is the one of the L2 client. -/
theorem Inv.getPayload_of_failure (h : Inv call x) (hanswered : x.phase = .answered)
    (hpublished : published call x ≠ []) (hfailed : call.builderResult.isOk = false)
    {l2Payload : OpExecutionPayloadEnvelope}
    (hl2 : RpcClient.getPayload answers.l2 call.payloadId version = .ok l2Payload) :
    (x.server.getPayload (engineApi call.payloadIdOptimism) config answers call.payloadId
      version).response = .ok (l2Payload, .l2) := by
  rw [h.published_eq] at hpublished
  have hset : x.server.builderClient.currentPayloadId ≠ none :=
    fun hunset => hpublished (h.unset hunset)
  have hhas := h.credited hanswered hset
  rw [hfailed] at hhas
  simp [getPayload, builderFut, selectPayload, chooseBlock, ExecutionMode.isDisabled,
    ExecutionMode.isEnabled, h.enabled, hhas, hl2, setHealth]

/-- The block that `get_payload` returns preserves the published preconfirmations exactly
when the builder answered the forkchoice update, or the block of the L2 client happens to
contain them. -/
theorem preconfirmations_preserved_iff (call : SharedForkChoice) (hagreed : call.Agreed)
    (config : ServerConfig) (hpolicy : config.blockSelectionPolicy = none)
    (hroot : config.externalStateRoot = false)
    (server : RollupBoostServer FlashblocksService) (hnew : server.builderClient = .new)
    (henabled : server.executionMode = .enabled) (events : List CallEvent)
    (hanswered : (run (step call config) (start server) events).phase = .answered)
    (hpublished : published call (run (step call config) (start server) events) ≠ [])
    (answers : Answers) (version : PayloadVersion) (l2Payload : OpExecutionPayloadEnvelope)
    (hl2 : RpcClient.getPayload answers.l2 call.payloadId version = .ok l2Payload)
    (hvalid : ∀ request, ∃ status, RpcClient.newPayload answers.l2Inner request = .ok status) :
    let x := run (step call config) (start server) events
    (∃ payload source,
      (x.server.getPayload (engineApi call.payloadIdOptimism) config answers call.payloadId
        version).response = .ok (payload, source) ∧ Preserves call x payload) ↔
    call.builderResult.isOk = true ∨ Preserves call x l2Payload := by
  intro x
  have h : Inv call x :=
    run_invariant (inv_step hagreed) (inv_start hnew henabled) events
  cases hresult : call.builderResult.isOk with
  | true =>
      obtain ⟨payload, hresponse, hpreserves⟩ :=
        h.getPayload_of_answer hanswered hpublished hpolicy hroot hresult hl2 hvalid
      simp only [true_or, iff_true]
      exact ⟨payload, .builder, hresponse, hpreserves⟩
  | false =>
      have hresponse : (x.server.getPayload (engineApi call.payloadIdOptimism) config answers
          call.payloadId version).response = .ok (l2Payload, .l2) :=
        h.getPayload_of_failure hanswered hpublished hresult hl2
      rw [hresponse]
      constructor
      · rintro ⟨payload, source, heq, hpreserves⟩
        obtain ⟨rfl, -⟩ := Prod.mk.inj (Outcome.ok.inj heq)
        exact .inr hpreserves
      · rintro (hok | hpreserves)
        · exact absurd hok (by simp)
        · exact ⟨l2Payload, .l2, rfl, hpreserves⟩

/-- Payload 7 is begun by the L2 client, and by the builder as it answers. -/
def beginSeven (builder : AuthClient) : SharedForkChoice where
  payloadIdOptimism _ _ _ := 7
  state := default
  attributes := default
  txPool := rfl
  l2 := endpoint 7 default .valid
  builder := builder

/-- The first flashblock of payload 7, with one transaction. -/
def preconfirmation : FlashblocksPayloadV1 where
  payloadId := 7
  index := 0
  base := some default
  diff := { (default : ExecutionPayloadFlashblockDeltaV1) with transactions := [[1]] }
  metadata := .null

/-- The flashblock arrives while the builder's answer is still outstanding. -/
def preconfirmedRun : List CallEvent := [.send, .message preconfirmation, .answer]

theorem preconfirmation_preserved :
    ∃ payload source,
      ((run (step (beginSeven (endpoint 7 default .valid)) plainConfig)
        (start (.new .new .enabled)) preconfirmedRun).server.getPayload
          (engineApi fun _ _ _ => 7) plainConfig (oneBlock .valid) 7 .v3).response =
        .ok (payload, source) ∧
      Preserves (beginSeven (endpoint 7 default .valid))
        (run (step (beginSeven (endpoint 7 default .valid)) plainConfig)
          (start (.new .new .enabled)) preconfirmedRun) payload := by
  refine (preconfirmations_preserved_iff (beginSeven (endpoint 7 default .valid)) ⟨rfl, ?_⟩
    plainConfig rfl rfl (.new .new .enabled) rfl rfl preconfirmedRun rfl (List.cons_ne_nil _ _)
    (oneBlock .valid) .v3 (.v3 default) rfl ?_).mpr (.inl rfl)
  · intro response hresponse
    obtain rfl := Except.ok.inj hresponse
    rfl
  · intro request
    cases request <;> exact ⟨_, rfl⟩

/-- The builder cannot be reached for its answer, but its stream goes on: the published
transaction is missing from the block that is returned. -/
theorem preconfirmation_dropped :
    (beginSeven .refused).Agreed ∧
    published (beginSeven .refused)
        (run (step (beginSeven .refused) plainConfig) (start (.new .new .enabled))
          preconfirmedRun) = [preconfirmation] ∧
    ¬ ∃ payload source,
      ((run (step (beginSeven .refused) plainConfig)
        (start (.new .new .enabled)) preconfirmedRun).server.getPayload
          (engineApi fun _ _ _ => 7) plainConfig (oneBlock .valid) 7 .v3).response =
        .ok (payload, source) ∧
      Preserves (beginSeven .refused)
        (run (step (beginSeven .refused) plainConfig)
          (start (.new .new .enabled)) preconfirmedRun) payload := by
  have hfailed : (beginSeven .refused).builderResult =
      .error (.jsonrpsee (.other "connection refused")) := rfl
  refine ⟨⟨rfl, by simp [hfailed]⟩, rfl, ?_⟩
  rintro ⟨payload, source, hresponse, hpreserves⟩
  have hblock : (.v3 default, .l2) = (payload, source) := Outcome.ok.inj hresponse
  obtain ⟨rfl, rfl⟩ := Prod.mk.inj hblock
  have hsublist : List.Sublist [[(1 : UInt8)]] [] := hpreserves
  exact absurd hsublist (by simp)

end CallState

end RollupBoost
