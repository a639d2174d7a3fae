import Mathlib.Data.List.Induction
import RollupBoost.Server.Validation

/-!
# The entry that the external state root unwraps

With `external_state_root` two tables have to agree. The trace context decides whether
`get_payload` asks the builder and so reaches `calculate_external_state_root`; the table
of forkchoice requests holds the entry that is removed and unwrapped there.

Both are filled by the same forkchoice updates, but only the second is emptied by a
`getPayload`. A second `getPayload` for the id reaches the calculation again and panics,
unless a forkchoice update has registered the id in between. That is the only way: the
runs without a panic are exactly those in which every two such calls are separated by a
registration.
-/

namespace RollupBoost

open Machine

namespace RollupBoostServer

variable {T : Type} (api : EngineApiExt T) (config : ServerConfig)

/-- The event is a forkchoice update that puts `payloadId` into the table: the builder
is not left out, the tx pool is not disabled, and the L2 client answers with that id. -/
def Registers (self : RollupBoostServer T) (event : Event T) (payloadId : PayloadId) : Prop :=
  match event with
  | .forkChoiceUpdatedV3 answers state attributes =>
      self.executionMode.isDisabled = false ∧
      self.shouldSkipUnhealthyBuilder config = false ∧
      (∀ attrs ∈ attributes, attrs.noTxPool.getD false = false) ∧
      begunPayload (RpcClient.forkChoiceUpdatedV3 answers.l2 state attributes).toRpc =
        some payloadId
  | _ => False

/-- The event is a `getPayload` that reaches the calculation of the state root. -/
def Reaches (self : RollupBoostServer T) (event : Event T) (payloadId : PayloadId) : Prop :=
  match event with
  | .getPayload answers version requested =>
      requested = payloadId ∧ self.executionMode.isDisabled = false ∧
        self.ReachesStateRoot api config answers.builder payloadId version
  | _ => False

variable {api config} {self : RollupBoostServer T}

/-! ## What an event does to the two tables -/

/-- The effect of an event on the tables, for one id: the id is registered, or its entry
is consumed, or the entry stays and the builder is not credited with a payload anew. -/
inductive TableEffect (api : EngineApiExt T) (config : ServerConfig)
    (self : RollupBoostServer T) (event : Event T) (next : RollupBoostServer T)
    (payloadId : PayloadId) : Prop where
  | registered : self.Registers config event payloadId →
      (next.payloadToFcuRequest payloadId).isSome = true →
      TableEffect api config self event next payloadId
  | consumed : self.Reaches api config event payloadId →
      next.payloadToFcuRequest payloadId = none →
      TableEffect api config self event next payloadId
  | kept : ¬ self.Registers config event payloadId → ¬ self.Reaches api config event payloadId →
      next.payloadToFcuRequest payloadId = self.payloadToFcuRequest payloadId →
      (next.payloadTraceContext.hasBuilderPayload payloadId = true →
        self.payloadTraceContext.hasBuilderPayload payloadId = true) →
      TableEffect api config self event next payloadId

/-- `get_payload` leaves the trace context alone and consumes at most one entry. -/
theorem getPayload_tables (api : EngineApiExt T) (config : ServerConfig)
    (self : RollupBoostServer T) (answers : Answers) (requested : PayloadId)
    (version : PayloadVersion) :
    (self.getPayload api config answers requested version).server.payloadTraceContext =
      self.payloadTraceContext ∧
    (self.getPayload api config answers requested version).server.payloadToFcuRequest =
      if self.executionMode.isDisabled = false ∧
          self.ReachesStateRoot api config answers.builder requested version then
        self.payloadToFcuRequest.remove requested
      else self.payloadToFcuRequest := by
  obtain ⟨client, health, hserver⟩ := self.getPayload_server api config answers requested version
  rw [hserver]
  exact ⟨rfl, rfl⟩

theorem getPayload_tableEffect (api : EngineApiExt T) (config : ServerConfig)
    (self : RollupBoostServer T) (answers : Answers) (requested : PayloadId)
    (version : PayloadVersion) (payloadId : PayloadId) :
    TableEffect api config self (.getPayload answers version requested)
      (self.getPayload api config answers requested version).server payloadId := by
  obtain ⟨hcontext, htable⟩ := getPayload_tables api config self answers requested version
  by_cases hreaches : self.Reaches api config (.getPayload answers version requested) payloadId
  · obtain ⟨rfl, hreached⟩ := hreaches
    refine .consumed ⟨rfl, hreached⟩ ?_
    rw [htable, if_pos hreached, Table.remove_self]
  · refine .kept id hreaches ?_ ?_
    · rw [htable]
      by_cases hcase : self.executionMode.isDisabled = false ∧
          self.ReachesStateRoot api config answers.builder requested version
      · have hne : payloadId ≠ requested := by
          rintro rfl
          exact hreaches ⟨rfl, hcase⟩
        rw [if_pos hcase, Table.remove_of_ne _ hne]
      · rw [if_neg hcase]
    · rw [hcontext]
      exact id

/-- With the external state root, the id that is begun gets an entry and no other does. -/
theorem recordRequest_apply (hroot : config.externalStateRoot = true)
    (l2Result : RpcResult ForkchoiceUpdated) (state : ForkchoiceState)
    (attributes : Option OpPayloadAttributes) (payloadId : PayloadId) :
    (self.recordRequest config l2Result state attributes).payloadToFcuRequest payloadId =
      if begunPayload l2Result = some payloadId then some (state, attributes)
      else self.payloadToFcuRequest payloadId := by
  simp only [recordRequest]
  cases hbegun : begunPayload l2Result with
  | none => simp
  | some begun =>
      by_cases heq : begun = payloadId
      · subst heq
        simp [hroot]
      · simp [hroot, heq, Table.insert_of_ne _ (Ne.symm heq)]

/-- The builder is credited with a payload only when that payload is begun. -/
theorem hasBuilderPayload_of_traceBuilding {l2Result : RpcResult ForkchoiceUpdated}
    {state : ForkchoiceState} {flag : Bool} {payloadId : PayloadId}
    (hnew : flag = false ∨ begunPayload l2Result ≠ some payloadId)
    (h : (self.traceBuilding l2Result state flag).payloadTraceContext.hasBuilderPayload
      payloadId = true) :
    self.payloadTraceContext.hasBuilderPayload payloadId = true := by
  simp only [traceBuilding] at h
  cases hbegun : begunPayload l2Result with
  | none => simpa only [hbegun] using h
  | some begun =>
      simp only [hbegun] at h hnew
      by_cases heq : payloadId = begun
      · subst heq
        obtain rfl | hne := hnew
        · rw [PayloadTraceContext.hasBuilderPayload_store_self] at h
          exact absurd h (by simp)
        · exact absurd rfl hne
      · rwa [PayloadTraceContext.hasBuilderPayload_store_of_ne heq] at h

/-- A forkchoice update that is shared with the builder registers the begun payload. -/
theorem TableEffect.of_recorded {answers : Answers} {state : ForkchoiceState}
    {attributes : Option OpPayloadAttributes} {next : RollupBoostServer T} {payloadId : PayloadId}
    (hdisabled : self.executionMode.isDisabled = false)
    (hskip : self.shouldSkipUnhealthyBuilder config = false)
    (htxPool : ∀ attrs ∈ attributes, attrs.noTxPool.getD false = false)
    (htable : next.payloadToFcuRequest payloadId =
      if begunPayload (RpcClient.forkChoiceUpdatedV3 answers.l2 state attributes).toRpc =
          some payloadId then some (state, attributes)
      else self.payloadToFcuRequest payloadId)
    (hcontext :
      begunPayload (RpcClient.forkChoiceUpdatedV3 answers.l2 state attributes).toRpc ≠
          some payloadId →
        next.payloadTraceContext.hasBuilderPayload payloadId = true →
          self.payloadTraceContext.hasBuilderPayload payloadId = true) :
    TableEffect api config self (.forkChoiceUpdatedV3 answers state attributes) next payloadId := by
  by_cases hbegun : begunPayload (RpcClient.forkChoiceUpdatedV3 answers.l2 state attributes).toRpc =
      some payloadId
  · refine .registered ⟨hdisabled, hskip, htxPool, hbegun⟩ ?_
    rw [htable, if_pos hbegun]
    rfl
  · refine .kept ?_ id ?_ (hcontext hbegun)
    · rintro ⟨-, -, -, h⟩
      exact hbegun h
    · rw [htable, if_neg hbegun]

theorem forkChoiceUpdatedV3_tableEffect (hroot : config.externalStateRoot = true)
    (self : RollupBoostServer T) (answers : Answers) (state : ForkchoiceState)
    (attributes : Option OpPayloadAttributes) (payloadId : PayloadId) :
    TableEffect api config self (.forkChoiceUpdatedV3 answers state attributes)
      (self.forkChoiceUpdatedV3 api config answers state attributes).server payloadId := by
  obtain ⟨hrelayed, hserver, -⟩ | ⟨hdisabled, hskip,
      ⟨attrs, rfl, hpool, hserver, -⟩ | ⟨attrs, rfl, hpool, hserver, -⟩ | ⟨rfl, hserver, -⟩⟩ :=
    self.forkChoiceUpdatedV3_cases api config answers state attributes
  · rw [hserver]
    refine .kept ?_ id rfl id
    rintro ⟨henabled, hhealthy, -⟩
    obtain hdisabled | hskip := hrelayed
    · exact absurd hdisabled (by simp [henabled])
    · exact absurd hskip (by simp [hhealthy])
  · rw [hserver]
    refine .kept ?_ id (by simp) (hasBuilderPayload_of_traceBuilding (.inl rfl))
    rintro ⟨-, -, htxPool, -⟩
    exact absurd (htxPool attrs rfl) (by simp [hpool])
  · rw [hserver]
    refine .of_recorded hdisabled hskip (by simpa using hpool) ?_ ?_
    · simp only [startBuilding]
      rw [recordRequest_apply hroot, traceBuilding_payloadToFcuRequest]
    · intro hbegun h
      simp only [startBuilding, recordRequest_payloadTraceContext] at h
      have htraced := hasBuilderPayload_of_traceBuilding (.inr hbegun) h
      exact htraced
  · rw [hserver]
    refine .of_recorded hdisabled hskip (by simp) ?_ ?_
    · rw [recordRequest_apply hroot]
      rfl
    · intro _ h
      rw [recordRequest_payloadTraceContext] at h
      exact h

theorem newPayload_tables (config : ServerConfig) (self : RollupBoostServer T)
    (answers : Answers) (payload : NewPayload) :
    (self.newPayload config answers payload).server.payloadToFcuRequest =
      self.payloadToFcuRequest ∧
    (self.newPayload config answers payload).server.payloadTraceContext =
      self.payloadTraceContext.removeByParentHash payload.parentHash := by
  simp only [newPayload]
  split <;> exact ⟨rfl, rfl⟩

/-- All that one event can do to the tables. -/
theorem step_tableEffect (hroot : config.externalStateRoot = true) (api : EngineApiExt T)
    (self : RollupBoostServer T) (event : Event T) (payloadId : PayloadId) :
    TableEffect api config self event (self.step api config event) payloadId := by
  cases event with
  | forkChoiceUpdatedV3 answers state attributes =>
      exact forkChoiceUpdatedV3_tableEffect hroot self answers state attributes payloadId
  | getPayload answers version requested =>
      have heffect := getPayload_tableEffect api config self answers requested version payloadId
      cases version <;> exact heffect
  | newPayload answers payload =>
      obtain ⟨htable, hcontext⟩ := newPayload_tables config self answers payload
      refine .kept id id (congrFun htable payloadId) ?_
      intro h
      have h' :
          (self.newPayload config answers payload).server.payloadTraceContext.hasBuilderPayload
          payloadId = true := h
      rw [hcontext] at h'
      exact PayloadTraceContext.hasBuilderPayload_of_removeByParentHash h'
  | setExecutionMode mode => exact .kept id id rfl id
  | healthCheck l2 builder now =>
      obtain ⟨client, health, hstep⟩ := self.step_healthCheck api config l2 builder now
      rw [hstep]
      exact .kept id id rfl id
  | runTask index builder =>
      obtain ⟨client, spawned, hstep⟩ := self.step_runTask api config index builder
      rw [hstep]
      exact .kept id id rfl id
  | evictPayloadId evicted =>
      refine .kept id id rfl ?_
      intro h
      refine PayloadTraceContext.hasBuilderPayload_of_remove ?_ h
      by_cases heq : payloadId = evicted
      · exact .inl (by rw [heq, Table.remove_self])
      · exact .inr (Table.remove_of_ne _ heq)
  | evictBlockHash hash => exact .kept id id rfl id
  | builderClient next => exact .kept id id rfl id

/-! ## When a call panics -/

theorem calculateExternalStateRoot_panics (self : RollupBoostServer T) (l2 : AuthClient)
    (builderPayload : OpExecutionPayloadEnvelope) (payloadId : PayloadId)
    (version : PayloadVersion) :
    (self.calculateExternalStateRoot l2 builderPayload payloadId version).response.panics = true ↔
      self.payloadToFcuRequest payloadId = none := by
  simp only [calculateExternalStateRoot]
  cases hentry : self.payloadToFcuRequest payloadId with
  | none => simp
  | some request =>
      simp only [reduceCtorEq, iff_false, Bool.not_eq_true]
      split
      · rfl
      · split <;> rfl

theorem builderFut_panics (api : EngineApiExt T) (config : ServerConfig)
    (self : RollupBoostServer T) (answers : Answers) (payloadId : PayloadId)
    (version : PayloadVersion) :
    (self.builderFut api config answers payloadId version).response.panics = true ↔
      self.ReachesStateRoot api config answers.builder payloadId version ∧
        self.payloadToFcuRequest payloadId = none := by
  simp only [ReachesStateRoot]
  obtain ⟨hhas, heq⟩ | ⟨e, hhas, hreply, heq⟩ | ⟨payload, hhas, hreply, hroot, heq⟩ |
      ⟨payload, hhas, hreply, hroot, heq⟩ :=
    self.builderFut_cases api config answers payloadId version
  · simp [heq, hhas]
  · simp [heq, hreply, Except.isOk, Except.toBool]
  · rw [heq, Outcome.panics_bind (fun _ => rfl), Outcome.panics_ofExcept]
    simp [hroot]
  · rw [heq, Outcome.panics_bind (fun _ => rfl), calculateExternalStateRoot_panics]
    simp [hroot, hhas, hreply, Except.isOk, Except.toBool]

theorem selectPayload_panics (l2Result : ClientResult OpExecutionPayloadEnvelope)
    (builderResult : Outcome ErrorObject BuilderPayloadResult) :
    (self.selectPayload config l2Result builderResult).2.panics = builderResult.panics := by
  cases builderResult <;> cases l2Result <;> rfl

theorem getPayload_panics (api : EngineApiExt T) (config : ServerConfig)
    (self : RollupBoostServer T) (answers : Answers) (payloadId : PayloadId)
    (version : PayloadVersion) :
    (self.getPayload api config answers payloadId version).response.panics = true ↔
      self.executionMode.isDisabled = false ∧
      self.ReachesStateRoot api config answers.builder payloadId version ∧
        self.payloadToFcuRequest payloadId = none := by
  by_cases hdisabled : self.executionMode.isDisabled = true
  · simp only [getPayload, hdisabled, if_true, Bool.true_eq_false, false_and, iff_false]
    split <;> simp
  · simp only [getPayload, hdisabled, Bool.false_eq_true, if_false, selectPayload_panics,
      builderFut_panics, true_and]

/-- A call panics exactly when it reaches the calculation and the entry is missing. -/
theorem handle_panics_iff (api : EngineApiExt T) (config : ServerConfig)
    (self : RollupBoostServer T) (event : Event T) :
    (∃ response ∈ (self.handle api config event).response, response.panics = true) ↔
      ∃ payloadId, self.Reaches api config event payloadId ∧
        self.payloadToFcuRequest payloadId = none := by
  cases event with
  | forkChoiceUpdatedV3 answers state attributes =>
      have hresponse := (self.forkChoiceUpdatedV3_relays api config answers state attributes).1
      simp [handle, Handled.observe, Response.panics, hresponse, Reaches]
  | getPayload answers version requested =>
      have hpanics := getPayload_panics api config self answers requested version
      have hhandle : (∃ response ∈ (self.handle api config
            (.getPayload answers version requested)).response, response.panics = true) ↔
          (self.getPayload api config answers requested version).response.panics = true := by
        cases version
        · simp only [handle, Handled.observe, getPayloadV3, Handled.andThen, Function.comp_apply,
            Option.mem_def, Option.some.injEq, exists_eq_left', Response.panics]
          rw [Outcome.panics_bind (fun block => by cases block.1 <;> rfl)]
        · simp only [handle, Handled.observe, getPayloadV4, Handled.andThen, Function.comp_apply,
            Option.mem_def, Option.some.injEq, exists_eq_left', Response.panics]
          rw [Outcome.panics_bind (fun block => by cases block.1 <;> rfl)]
      rw [hhandle, hpanics]
      simp [Reaches, and_assoc]
  | newPayload answers payload =>
      simp [handle, Handled.observe, Response.panics, newPayload, Reaches]
  | setExecutionMode mode => simp [handle, silently, Reaches]
  | healthCheck l2 builder now => simp [handle, Handled.observe, Reaches]
  | runTask index builder => simp [handle, silently, Reaches]
  | evictPayloadId evicted => simp [handle, silently, Reaches]
  | evictBlockHash hash => simp [handle, silently, Reaches]
  | builderClient next => simp [handle, silently, Reaches]

/-! ## Whole runs -/

/-- The entry is there whenever the calculation is reached, and the call does not panic. -/
def EntryPresent (api : EngineApiExt T) (config : ServerConfig) (self : RollupBoostServer T)
    (event : Event T) : Prop :=
  (∀ payloadId, self.Reaches api config event payloadId →
    (self.payloadToFcuRequest payloadId).isSome = true) ∧
  ∀ response ∈ (self.handle api config event).response, response.panics = false

/-- Both halves say the same. -/
theorem entryPresent_iff (api : EngineApiExt T) (config : ServerConfig)
    (self : RollupBoostServer T) (event : Event T) :
    self.EntryPresent api config event ↔
      ∀ payloadId, self.Reaches api config event payloadId →
        (self.payloadToFcuRequest payloadId).isSome = true := by
  constructor
  · exact fun h => h.1
  · intro h
    refine ⟨h, ?_⟩
    intro response hmem
    by_contra hpanics
    rw [Bool.not_eq_false] at hpanics
    obtain ⟨payloadId, hreaches, hnone⟩ :=
      (handle_panics_iff api config self event).mp ⟨response, hmem, hpanics⟩
    exact absurd (h payloadId hreaches) (by simp [hnone])

/-- Between any two calls of `getPayload` for one id that reach the calculation, a
forkchoice update registers the id. -/
def RegisteredBetween (api : EngineApiExt T) (config : ServerConfig)
    (self : RollupBoostServer T) (events : List (Event T)) : Prop :=
  ∀ before first between second after payloadId,
    events = before ++ first :: (between ++ second :: after) →
    (run (step api config) self before).Reaches api config first payloadId →
    (run (step api config) self (before ++ first :: between)).Reaches api config second
      payloadId →
    ¬ Along (step api config) (fun server event => ¬ server.Registers config event payloadId)
      (run (step api config) self (before ++ [first])) between

/-- When the builder is credited with a payload, its entry is in the table, or has been
consumed since it was last registered. -/
theorem present_or_consumed (hroot : config.externalStateRoot = true) (api : EngineApiExt T)
    (client : T) (mode : ExecutionMode) (events : List (Event T)) (payloadId : PayloadId)
    (hhas : (run (step api config) (.new client mode) events).payloadTraceContext.hasBuilderPayload
      payloadId = true) :
    ((run (step api config) (.new client mode) events).payloadToFcuRequest payloadId).isSome =
      true ∨
    ∃ before first between, events = before ++ first :: between ∧
      (run (step api config) (.new client mode) before).Reaches api config first payloadId ∧
      Along (step api config) (fun server event => ¬ server.Registers config event payloadId)
        (run (step api config) (.new client mode) (before ++ [first])) between := by
  induction events using List.reverseRecOn with
  | nil => exact absurd hhas (by simp [new])
  | append_singleton events event ih =>
      rw [run_concat] at hhas ⊢
      obtain ⟨-, hsome⟩ | ⟨hreaches, -⟩ | ⟨hregisters, -, htable, hcontext⟩ :=
        step_tableEffect hroot api (run (step api config) (.new client mode) events) event payloadId
      · exact .inl hsome
      · exact .inr ⟨events, event, [], rfl, hreaches, trivial⟩
      · obtain hsome | ⟨before, first, between, rfl, hreaches, halong⟩ := ih (hcontext hhas)
        · exact .inl (by rw [htable]; exact hsome)
        · refine .inr ⟨before, first, between ++ [event], by simp, hreaches, ?_⟩
          refine Along.concat_iff.mpr ⟨halong, ?_⟩
          rw [← run_append, List.append_assoc]
          exact hregisters

/-- A consumed entry stays away as long as nothing registers the id. -/
theorem consumed_stays (hroot : config.externalStateRoot = true) {between : List (Event T)}
    {first : Event T} {payloadId : PayloadId} (hreaches : self.Reaches api config first payloadId)
    (halong : Along (step api config)
      (fun server event => ¬ server.Registers config event payloadId)
      (self.step api config first) between) :
    (run (step api config) (self.step api config first) between).payloadToFcuRequest payloadId =
      none := by
  refine Along.run_invariant
    (I := fun server : RollupBoostServer T => server.payloadToFcuRequest payloadId = none)
    ?_ halong ?_
  · intro server event hnone hregisters
    obtain ⟨h, -⟩ | ⟨-, hnext⟩ | ⟨-, -, htable, -⟩ :=
      step_tableEffect hroot api server event payloadId
    · exact absurd h hregisters
    · exact hnext
    · rw [htable]
      exact hnone
  · obtain ⟨h, -⟩ | ⟨-, hnext⟩ | ⟨-, h, -, -⟩ :=
      step_tableEffect hroot api self first payloadId
    · -- a call cannot be a forkchoice update and a `getPayload` at once
      cases first <;> simp [Reaches, Registers] at h hreaches
    · exact hnext
    · exact absurd hreaches h

/-- The runs in which the unwrap never panics are exactly those in which a registration
separates any two calls of `getPayload` for one id that reach it. -/
theorem entry_present_iff (api : EngineApiExt T) (config : ServerConfig)
    (hroot : config.externalStateRoot = true) (client : T) (mode : ExecutionMode)
    (events : List (Event T)) :
    Along (step api config) (EntryPresent api config) (.new client mode) events ↔
      RegisteredBetween api config (.new client mode) events := by
  rw [Along.iff_forall_cut]
  constructor
  · intro h before first between second after payloadId heq hfirst hsecond halong
    have hentry := (h (before ++ first :: between) second after (by simp [heq])).1 payloadId hsecond
    rw [run_append, run_cons] at hentry
    rw [run_concat] at halong
    rw [consumed_stays hroot hfirst halong] at hentry
    exact absurd hentry (by simp)
  · intro h before event after heq
    rw [entryPresent_iff]
    intro payloadId hreaches
    have hhas : (run (step api config) (.new client mode)
        before).payloadTraceContext.hasBuilderPayload payloadId = true := by
      cases event with
      | getPayload answers version requested => exact hreaches.2.2.2.1
      | _ => exact absurd hreaches id
    obtain hsome | ⟨before', first, between, rfl, hfirst, halong⟩ :=
      present_or_consumed hroot api client mode before payloadId hhas
    · exact hsome
    · exact absurd halong
        (h before' first between event after payloadId (by simp [heq]) hfirst hreaches)

def stateRootConfig : ServerConfig :=
  { plainConfig with externalStateRoot := true }

def beginBlock : Event Unit :=
  .forkChoiceUpdatedV3 (oneBlock .valid) default (some default)

def fetchBlock : Event Unit := .getPayload (oneBlock .valid) .v3 7

/-- Payload 7 is begun and fetched, twice over. -/
theorem registered_between_fetches :
    RegisteredBetween RpcClient.engineApi stateRootConfig (.new () .enabled)
      [beginBlock, fetchBlock, beginBlock, fetchBlock] := by
  refine (entry_present_iff RpcClient.engineApi stateRootConfig rfl () .enabled
    [beginBlock, fetchBlock, beginBlock, fetchBlock]).mp
      ⟨?begin, ?fetch, ?beginAgain, ?fetchAgain, trivial⟩
  case begin | beginAgain =>
    refine ⟨fun payloadId h => absurd h id, ?_⟩
    intro response hmem
    obtain rfl := Option.some.inj hmem
    rfl
  case fetch | fetchAgain =>
    refine ⟨?_, ?_⟩
    · rintro payloadId ⟨rfl, -⟩
      rfl
    · intro response hmem
      obtain rfl := Option.some.inj hmem
      rfl

/-- The second `getPayload` for an id that was begun once panics. -/
theorem second_fetch_panics :
    ¬ Along (step RpcClient.engineApi stateRootConfig)
      (EntryPresent RpcClient.engineApi stateRootConfig) (.new () .enabled)
      [beginBlock, fetchBlock, fetchBlock] := by
  rintro ⟨-, -, ⟨-, hpanics⟩, -⟩
  have hsecond := hpanics
    (.getPayloadV3 (.panic "called `Option::unwrap()` on a `None` value")) rfl
  exact absurd hsecond (by decide)

end RollupBoostServer

end RollupBoost
