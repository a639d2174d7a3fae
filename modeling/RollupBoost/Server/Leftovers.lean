import RollupBoost.Server.Credit
import RollupBoost.Server.StateRoot

/-!
# Requests that stay in the table

A forkchoice update leaves its payload in two tables. When the block of the payload is
superseded, the next `newPayload` deletes from the trace context whatever was begun on the
parent of the new block. Nothing of the kind is done for the table of forkchoice requests.
An entry leaves it only when a `getPayload` for the id gets a block from the builder and
reaches the external state root; an entry whose block is never fetched from the builder
stays, and so does one whose fetch fails.
-/

namespace RollupBoost

open Machine

namespace RollupBoostServer

variable {T : Type} {api : EngineApiExt T} {config : ServerConfig}
variable {self : RollupBoostServer T} {payloadId : PayloadId}

/-- The L2 client's answer is the one that op-node receives. -/
theorem carries_iff_answered (api : EngineApiExt T) (config : ServerConfig)
    (self : RollupBoostServer T) (event : Event T) (payloadId : PayloadId) :
    event.Carries payloadId ↔
      ∃ answer, (self.handle api config event).response =
        some (.forkChoiceUpdatedV3 (.ok answer)) ∧ answer.payloadId = some payloadId := by
  cases event with
  | forkChoiceUpdatedV3 answers state attributes =>
      have hresponse := (self.forkChoiceUpdatedV3_relays api config answers state attributes).1
      simp only [handle, Handled.observe, Function.comp_apply, hresponse, Event.Carries]
      cases (RpcClient.forkChoiceUpdatedV3 answers.l2 state attributes).toRpc with
      | ok answer => simp [begunPayload, Outcome.ofExcept]
      | error e => simp [begunPayload, Outcome.ofExcept]
  | getPayload answers version requested =>
      cases version <;> simp [Event.Carries, handle, Handled.observe]
  | newPayload answers payload => simp [Event.Carries, handle, Handled.observe]
  | setExecutionMode mode => simp [Event.Carries, handle, silently]
  | healthCheck l2 builder now => simp [Event.Carries, handle, Handled.observe]
  | runTask index builder => simp [Event.Carries, handle, silently]
  | evictPayloadId evicted => simp [Event.Carries, handle, silently]
  | evictBlockHash hash => simp [Event.Carries, handle, silently]
  | builderClient next => simp [Event.Carries, handle, silently]

theorem Registers.carries {event : Event T} (h : self.Registers config event payloadId) :
    event.Carries payloadId := by
  cases event with
  | forkChoiceUpdatedV3 answers state attributes => exact h.2.2.2
  | _ => exact absurd h id

theorem Reaches.not_carries {event : Event T} (h : self.Reaches api config event payloadId) :
    ¬ event.Carries payloadId := by
  cases event with
  | getPayload answers version requested => exact id
  | _ => exact absurd h id

/-- Somewhere in the run a `getPayload` for the id reaches the external state root. -/
def Consumes (api : EngineApiExt T) (config : ServerConfig) (self : RollupBoostServer T)
    (events : List (Event T)) (payloadId : PayloadId) : Prop :=
  ∃ before event after, events = before ++ event :: after ∧
    (run (step api config) self before).Reaches api config event payloadId

theorem consumes_cons {event : Event T} {events : List (Event T)} :
    Consumes api config self (event :: events) payloadId ↔
      self.Reaches api config event payloadId ∨
        Consumes api config (self.step api config event) events payloadId := by
  constructor
  · rintro ⟨_ | ⟨first, before⟩, reached, after, heq, hreaches⟩
    · obtain ⟨rfl, -⟩ := List.cons.inj heq
      exact .inl hreaches
    · obtain ⟨rfl, htail⟩ := List.cons.inj heq
      exact .inr ⟨before, reached, after, htail, hreaches⟩
  · rintro (hreaches | ⟨before, reached, after, rfl, hreaches⟩)
    · exact ⟨[], event, events, rfl, hreaches⟩
    · exact ⟨event :: before, reached, after, rfl, hreaches⟩

/-- As long as no forkchoice update returns the id, its entry is gone exactly if it was
never there or a `getPayload` has consumed it. -/
theorem entry_none_iff (hroot : config.externalStateRoot = true) (api : EngineApiExt T)
    (self : RollupBoostServer T) {events : List (Event T)}
    (hcarries : ∀ event ∈ events, ¬ event.Carries payloadId) :
    (run (step api config) self events).payloadToFcuRequest payloadId = none ↔
      self.payloadToFcuRequest payloadId = none ∨
        Consumes api config self events payloadId := by
  induction events generalizing self with
  | nil => simp [Consumes]
  | cons event events ih =>
      have hfirst := hcarries event List.mem_cons_self
      rw [run_cons, ih _ fun other hother => hcarries other (List.mem_cons_of_mem _ hother),
        consumes_cons]
      obtain ⟨hregisters, -⟩ | ⟨hreaches, hnone⟩ | ⟨-, hreaches, htable, -⟩ :=
        step_tableEffect hroot api self event payloadId
      · exact absurd hregisters.carries hfirst
      · simp [hreaches, hnone]
      · simp [hreaches, htable]

/-- A forkchoice update that returns the id records it, or leaves its entry alone. -/
theorem entry_after_update (hroot : config.externalStateRoot = true) (api : EngineApiExt T)
    (self : RollupBoostServer T) {update : Event T}
    (hupdate : update.Carries payloadId) :
    (self.step api config update).payloadToFcuRequest payloadId = none ↔
      ¬ self.Registers config update payloadId ∧ self.payloadToFcuRequest payloadId = none := by
  obtain ⟨hregisters, hsome⟩ | ⟨hreaches, -⟩ | ⟨hregisters, -, htable, -⟩ :=
    step_tableEffect hroot api self update payloadId
  · simp [hregisters, Option.isSome_iff_ne_none.mp hsome]
  · exact absurd hupdate hreaches.not_carries
  · simp [hregisters, htable]

/-- The entry of a payload is gone for good once a block on its head is imported exactly if
the forkchoice update did not record it, and nothing was recorded before, or a `getPayload`
for the payload has reached the external state root in the meantime. -/
theorem request_dropped_iff (api : EngineApiExt T) (config : ServerConfig)
    (hroot : config.externalStateRoot = true) (client : T) (mode : ExecutionMode)
    (before between : List (Event T)) (update imported : Event T) (payloadId : PayloadId)
    (hupdate : update.Carries payloadId) (himported : imported.parent = update.head)
    (hbetween : ∀ event ∈ between, ¬ event.Carries payloadId) :
    (∀ after : List (Event T), (∀ event ∈ after, ¬ event.Carries payloadId) →
      (run (step api config) (.new client mode)
        (before ++ update :: (between ++ imported :: after))).payloadToFcuRequest payloadId =
          none) ↔
    (¬ (run (step api config) (.new client mode) before).Registers config update payloadId ∧
      (run (step api config) (.new client mode) before).payloadToFcuRequest payloadId = none) ∨
    Consumes api config (run (step api config) (.new client mode) (before ++ [update])) between
      payloadId := by
  have hblock : ∃ answers payload, imported = .newPayload answers payload := by
    cases update with
    | forkChoiceUpdatedV3 answers state attributes =>
        cases imported with
        | newPayload answers payload => exact ⟨answers, payload, rfl⟩
        | _ => exact absurd himported (by simp [Event.parent, Event.head])
    | _ => exact absurd hupdate id
  obtain ⟨answers, payload, rfl⟩ := hblock
  rw [run_concat]
  have hrun : ∀ after : List (Event T),
      run (step api config) (.new client mode)
        (before ++ update :: (between ++ .newPayload answers payload :: after)) =
      run (step api config) ((run (step api config) ((run (step api config) (.new client mode)
        before).step api config update) between).step api config (.newPayload answers payload))
        after := by
    intro after
    rw [run_append, run_cons, run_append, run_cons]
  generalize run (step api config) (.new client mode) before = server at hrun ⊢
  have hstart := entry_after_update hroot api server hupdate
  have hheld := entry_none_iff hroot api (server.step api config update) hbetween
  have hkept : ((run (step api config) (server.step api config update) between).step api config
      (.newPayload answers payload)).payloadToFcuRequest =
      (run (step api config) (server.step api config update) between).payloadToFcuRequest :=
    (newPayload_tables config _ answers payload).1
  rw [← hstart, ← hheld]
  constructor
  · intro h
    have hnow := h [] (by simp)
    rw [hrun, run_nil, hkept] at hnow
    exact hnow
  · intro h after hafter
    rw [hrun, entry_none_iff hroot api _ hafter, hkept]
    exact .inl h

/-- The block on the head 0. -/
def importBlock : Event Unit := .newPayload (oneBlock .valid) (.ofEnvelope (.v3 default))

/-- Payload 7 is begun and fetched before the next block on its head is imported. -/
theorem request_dropped_when_fetched :
    (run (step RpcClient.engineApi stateRootConfig) (.new () .enabled)
      [beginBlock, fetchBlock, importBlock]).payloadToFcuRequest 7 = none :=
  (request_dropped_iff RpcClient.engineApi stateRootConfig rfl () .enabled [] [fetchBlock]
    beginBlock importBlock 7 rfl rfl (by simp [fetchBlock, Event.Carries])).mpr
      (.inr ⟨[], fetchBlock, [], rfl, rfl, rfl, rfl, rfl, rfl⟩) [] (by simp)

/-- Payload 7 is begun, and the next block on its head is imported without a fetch. -/
theorem request_left_behind :
    ¬ ∀ (before between : List (Event Unit)) (update imported : Event Unit)
      (payloadId : PayloadId), update.Carries payloadId → imported.parent = update.head →
      (∀ event ∈ between, ¬ event.Carries payloadId) →
      (run (step RpcClient.engineApi stateRootConfig) (.new () .enabled)
        (before ++ update :: (between ++ [imported]))).payloadToFcuRequest payloadId = none := by
  intro h
  have hnone := h [] [] beginBlock importBlock 7 rfl rfl (by simp)
  have hsome : (run (step RpcClient.engineApi stateRootConfig) (.new () .enabled)
      [beginBlock, importBlock]).payloadToFcuRequest 7 = some (default, some default) := rfl
  exact absurd (hsome.symm.trans hnone) (by simp)

end RollupBoostServer

end RollupBoost
