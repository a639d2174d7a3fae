import Mathlib.Data.List.Induction
import RollupBoost.Server.BuilderTraffic

/-!
# When the builder is asked for a block

`get_payload` decides by the trace context. The context is two caches: one holds for each
payload whether the builder has it, the other lists the payloads that were begun on each
head. A forkchoice update writes to both, and a `newPayload` deletes through the second
one whatever was begun on the parent of the new block.

Over whole runs this amounts to a condition on the calls alone. The builder is asked for a
payload when the last forkchoice update that began the payload was shared with it and
answered, and no block has been built on the head of that update since. The one thing that
the caches rely on is that the L2 client never gives one id to payloads on two heads.
-/

namespace RollupBoost

open Machine

namespace Event

variable {T : Type}

/-- The head of a forkchoice update. -/
def head : Event T → Option B256
  | .forkChoiceUpdatedV3 _ state _ => some state.headBlockHash
  | _ => none

/-- The parent of the block of a `newPayload`. -/
def parent : Event T → Option B256
  | .newPayload _ payload => some payload.parentHash
  | _ => none

def Evicts : Event T → Prop
  | .evictPayloadId _ => True
  | .evictBlockHash _ => True
  | _ => False

/-- The tx pool is disabled in the attributes of a forkchoice update. -/
def noTxPool : Event T → Bool
  | .forkChoiceUpdatedV3 _ _ (some attrs) => attrs.noTxPool.getD false
  | _ => false

/-- The L2 client answers the forkchoice update with the payload id. -/
def Carries (event : Event T) (payloadId : PayloadId) : Prop :=
  match event with
  | .forkChoiceUpdatedV3 answers state attributes =>
      RollupBoostServer.begunPayload
        (RpcClient.forkChoiceUpdatedV3 answers.l2 state attributes).toRpc = some payloadId
  | _ => False

end Event

namespace RollupBoostServer

variable {T : Type}

/-- The event begins the payload: it is a forkchoice update with attributes, handled while
the builder is neither disabled nor skipped, and the L2 client answers with the id. -/
def Begins (config : ServerConfig) (self : RollupBoostServer T) (event : Event T)
    (payloadId : PayloadId) : Prop :=
  match event with
  | .forkChoiceUpdatedV3 _ _ (some _) =>
      self.executionMode.isDisabled = false ∧ self.shouldSkipUnhealthyBuilder config = false ∧
        event.Carries payloadId
  | _ => False

/-- The forkchoice update leaves the tx pool on, and the builder answers it with success. -/
def shares (api : EngineApiExt T) (self : RollupBoostServer T) : Event T → Bool
  | .forkChoiceUpdatedV3 answers state (some attrs) =>
      !attrs.noTxPool.getD false &&
        (api.forkChoiceUpdatedV3 answers.builder state (some attrs)
          self.builderClient).result.isOk
  | _ => false

variable {api : EngineApiExt T} {config : ServerConfig} {self : RollupBoostServer T}
variable {payloadId : PayloadId}

theorem Begins.carries {event : Event T} (h : self.Begins config event payloadId) :
    event.Carries payloadId ∧ ∃ head, event.head = some head := by
  cases event with
  | forkChoiceUpdatedV3 answers state attributes =>
      cases attributes with
      | none => exact absurd h id
      | some attrs => exact ⟨h.2.2, state.headBlockHash, rfl⟩
  | _ => exact absurd h id

theorem Begins.unique {event : Event T} {other : PayloadId}
    (h : self.Begins config event payloadId) (h' : self.Begins config event other) :
    payloadId = other := by
  cases event with
  | forkChoiceUpdatedV3 answers state attributes =>
      cases attributes with
      | none => exact absurd h id
      | some attrs => exact Option.some.inj (h.2.2.symm.trans h'.2.2)
  | _ => exact absurd h id

/-! ## What an event does to the trace context -/

/-- A forkchoice update in which the builder may take part traces the payload that it begins,
with a flag that says whether the builder has it. -/
theorem step_context_of_attributes {answers : Answers} {state : ForkchoiceState}
    {attrs : OpPayloadAttributes} (hdisabled : self.executionMode.isDisabled = false)
    (hskip : self.shouldSkipUnhealthyBuilder config = false) :
    (self.step api config (.forkChoiceUpdatedV3 answers state (some attrs))).payloadTraceContext =
      (self.traceBuilding (RpcClient.forkChoiceUpdatedV3 answers.l2 state (some attrs)).toRpc state
        (self.shares api
          (.forkChoiceUpdatedV3 answers state (some attrs)))).payloadTraceContext := by
  obtain ⟨hrelayed, -, -⟩ | ⟨-, -,
      ⟨_, heq, hpool, hserver, -⟩ | ⟨_, heq, hpool, hserver, -⟩ | ⟨heq, -, -⟩⟩ :=
    self.forkChoiceUpdatedV3_cases api config answers state (some attrs)
  · exact absurd hrelayed (by simp [hdisabled, hskip])
  · obtain rfl := Option.some.inj heq
    have hflag : self.shares api (.forkChoiceUpdatedV3 answers state (some attrs)) = false := by
      simp [shares, hpool]
    rw [hflag]
    exact congrArg payloadTraceContext hserver
  · obtain rfl := Option.some.inj heq
    have hstep : self.step api config (.forkChoiceUpdatedV3 answers state (some attrs)) = _ :=
      hserver
    rw [hstep, startBuilding, recordRequest_payloadTraceContext]
    simp only [shares, hpool, Bool.not_false, Bool.true_and, traceBuilding]
    split <;> rfl
  · exact absurd heq (by simp)

/-- Unless an entry is evicted, an event stores the payload that it begins, or removes
what was begun on the parent of a new block, or leaves the context alone. -/
theorem step_trace_cases (api : EngineApiExt T) (config : ServerConfig)
    (self : RollupBoostServer T) {event : Event T} (hevicts : ¬ event.Evicts) :
    (∃ payloadId head, self.Begins config event payloadId ∧ event.head = some head ∧
      event.parent = none ∧
      (self.step api config event).payloadTraceContext =
        self.payloadTraceContext.store payloadId head (self.shares api event)) ∨
    (∃ parent, (∀ payloadId, ¬ self.Begins config event payloadId) ∧
      event.parent = some parent ∧
      (self.step api config event).payloadTraceContext =
        self.payloadTraceContext.removeByParentHash parent) ∨
    ((∀ payloadId, ¬ self.Begins config event payloadId) ∧ event.parent = none ∧
      (self.step api config event).payloadTraceContext = self.payloadTraceContext) := by
  cases event with
  | forkChoiceUpdatedV3 answers state attributes =>
      obtain ⟨hrelayed, hserver, -⟩ | ⟨hdisabled, hskip, hcases⟩ :=
        self.forkChoiceUpdatedV3_cases api config answers state attributes
      · refine .inr (.inr ⟨?_, rfl, congrArg payloadTraceContext hserver⟩)
        intro payloadId hbegins
        cases attributes with
        | none => exact hbegins
        | some attrs =>
            obtain hdisabled | hskip := hrelayed
            · exact absurd hdisabled (by simp [hbegins.1])
            · exact absurd hskip (by simp [hbegins.2.1])
      cases attributes with
      | none =>
          obtain ⟨_, heq, -⟩ | ⟨_, heq, -⟩ | ⟨-, hserver, -⟩ := hcases
          · exact absurd heq (by simp)
          · exact absurd heq (by simp)
          refine .inr (.inr ⟨fun payloadId hbegins => hbegins, rfl, ?_⟩)
          have hstep : (self.step api config (.forkChoiceUpdatedV3 answers state none)) = _ :=
            hserver
          rw [hstep, recordRequest_payloadTraceContext]
          rfl
      | some attrs =>
          rw [step_context_of_attributes hdisabled hskip]
          cases hbegun : begunPayload
              (RpcClient.forkChoiceUpdatedV3 answers.l2 state (some attrs)).toRpc with
          | none =>
              refine .inr (.inr ⟨?_, rfl, by simp [traceBuilding, hbegun]⟩)
              intro payloadId hbegins
              exact absurd (hbegun.symm.trans hbegins.2.2) (by simp)
          | some begun =>
              refine .inl ⟨begun, state.headBlockHash, ⟨hdisabled, hskip, hbegun⟩, rfl, rfl, ?_⟩
              simp [traceBuilding, hbegun]
  | getPayload answers version requested =>
      refine .inr (.inr ⟨fun _ h => h, rfl, ?_⟩)
      obtain ⟨client, health, hserver⟩ :=
        self.getPayload_server api config answers requested version
      rw [step_getPayload, hserver]
  | newPayload answers payload =>
      refine .inr (.inl ⟨payload.parentHash, fun _ h => h, rfl, ?_⟩)
      simp only [step, handle, Handled.observe, newPayload]
      split <;> rfl
  | setExecutionMode mode => exact .inr (.inr ⟨fun _ h => h, rfl, rfl⟩)
  | healthCheck l2 builder now =>
      refine .inr (.inr ⟨fun _ h => h, rfl, ?_⟩)
      obtain ⟨client, health, hstep⟩ := self.step_healthCheck api config l2 builder now
      rw [hstep]
  | runTask index builder =>
      refine .inr (.inr ⟨fun _ h => h, rfl, ?_⟩)
      obtain ⟨client, spawned, hstep⟩ := self.step_runTask api config index builder
      rw [hstep]
  | evictPayloadId evicted => exact absurd trivial hevicts
  | evictBlockHash hash => exact absurd trivial hevicts
  | builderClient next => exact .inr (.inr ⟨fun _ h => h, rfl, rfl⟩)

/-! ## Whole runs -/

variable {start : RollupBoostServer T} {events : List (Event T)}

/-- `event` is the last one of the run that begins the payload. -/
structure LastBegun (api : EngineApiExt T) (config : ServerConfig) (start : RollupBoostServer T)
    (events : List (Event T)) (payloadId : PayloadId) (before : List (Event T)) (event : Event T)
    (after : List (Event T)) : Prop where
  split : events = before ++ event :: after
  begins : (run (step api config) start before).Begins config event payloadId
  last : Along (step api config) (fun server e => ¬ server.Begins config e payloadId)
    (run (step api config) start (before ++ [event])) after

/-- The payload was last begun on `head`, no block has been built on it since, and `flag`
says whether the builder has it. -/
def Credited (api : EngineApiExt T) (config : ServerConfig) (start : RollupBoostServer T)
    (events : List (Event T)) (payloadId : PayloadId) (head : B256) (flag : Bool) : Prop :=
  ∃ before event after, LastBegun api config start events payloadId before event after ∧
    event.head = some head ∧
    (run (step api config) start before).shares api event = flag ∧
    ∀ e ∈ after, e.parent ≠ some head

theorem Credited.carries {head : B256} {flag : Bool}
    (h : Credited api config start events payloadId head flag) :
    ∃ event ∈ events, event.Carries payloadId ∧ event.head = some head := by
  obtain ⟨before, event, after, hlast, hhead, -, -⟩ := h
  refine ⟨event, ?_, hlast.begins.carries.1, hhead⟩
  rw [hlast.split]
  simp

/-- What one more event does to the credit. -/
theorem credited_concat {event : Event T} {head : B256} {flag : Bool} :
    Credited api config start (events ++ [event]) payloadId head flag ↔
      ((run (step api config) start events).Begins config event payloadId ∧
        event.head = some head ∧
        (run (step api config) start events).shares api event = flag) ∨
      (Credited api config start events payloadId head flag ∧
        ¬ (run (step api config) start events).Begins config event payloadId ∧
        event.parent ≠ some head) := by
  constructor
  · rintro ⟨before, first, after, hlast, hhead, hflag, hafter⟩
    obtain ⟨hsplit, hbegins, hrest⟩ := hlast
    rcases List.eq_nil_or_concat' after with rfl | ⟨after, last, rfl⟩
    · obtain ⟨rfl, hsame⟩ := List.append_inj' hsplit rfl
      obtain rfl := List.cons.inj hsame |>.1
      exact .inl ⟨hbegins, hhead, hflag⟩
    · rw [← List.cons_append, ← List.append_assoc] at hsplit
      obtain ⟨rfl, hsame⟩ := List.append_inj' hsplit rfl
      obtain rfl := List.cons.inj hsame |>.1
      obtain ⟨hrest, hnot⟩ := Along.concat_iff.mp hrest
      rw [← run_append, List.append_assoc] at hnot
      refine .inr ⟨⟨before, first, after, ⟨rfl, hbegins, hrest⟩, hhead, hflag, ?_⟩, hnot, ?_⟩
      · intro e he
        exact hafter e (by simp [he])
      · exact hafter event (by simp)
  · rintro (⟨hbegins, hhead, hflag⟩ |
      ⟨⟨before, first, after, hlast, hhead, hflag, hafter⟩, hnot, hparent⟩)
    · exact ⟨events, event, [], ⟨rfl, hbegins, trivial⟩, hhead, hflag, by simp⟩
    · obtain ⟨rfl, hbegins, hrest⟩ := hlast
      refine ⟨before, first, after ++ [event], ⟨by simp, hbegins, ?_⟩, hhead, hflag, ?_⟩
      · refine Along.concat_iff.mpr ⟨hrest, ?_⟩
        rw [← run_append, List.append_assoc]
        exact hnot
      · intro e he
        obtain he | he := List.mem_append.mp he
        · exact hafter e he
        · rw [List.mem_singleton.mp he]
          exact hparent

/-- The L2 client does not give one payload id to two heads. -/
def OneHead (events : List (Event T)) : Prop :=
  ∀ event ∈ events, ∀ other ∈ events, ∀ payloadId,
    event.Carries payloadId → other.Carries payloadId → event.head = other.head

/-- What the two caches stand for after a run: the entry of a payload is its credit, a
credited payload is listed under its head, and a listed payload was begun there. -/
structure Traced (api : EngineApiExt T) (config : ServerConfig) (start : RollupBoostServer T)
    (events : List (Event T)) (context : PayloadTraceContext) : Prop where
  entry : ∀ payloadId flag,
    context.payloadId payloadId = some { builderHasPayload := flag } ↔
      ∃ head, Credited api config start events payloadId head flag
  listed : ∀ payloadId head flag, Credited api config start events payloadId head flag →
    payloadId ∈ (context.blockHashToPayloadIds head).getD []
  carried : ∀ payloadId hash, payloadId ∈ (context.blockHashToPayloadIds hash).getD [] →
    ∃ event ∈ events, event.Carries payloadId ∧ event.head = some hash

theorem mem_listed_store {context : PayloadTraceContext} {stored : PayloadId} {head hash : B256}
    {flag : Bool} :
    payloadId ∈ ((context.store stored head flag).blockHashToPayloadIds hash).getD [] ↔
      payloadId ∈ (context.blockHashToPayloadIds hash).getD [] ∨
        payloadId = stored ∧ hash = head := by
  by_cases heq : hash = head
  · simp [PayloadTraceContext.store, heq]
  · simp [PayloadTraceContext.store, heq, Table.insert_of_ne]

theorem mem_listed_remove {context : PayloadTraceContext} {parent hash : B256} :
    payloadId ∈ ((context.removeByParentHash parent).blockHashToPayloadIds hash).getD [] ↔
      payloadId ∈ (context.blockHashToPayloadIds hash).getD [] ∧ hash ≠ parent := by
  rw [PayloadTraceContext.removeByParentHash_blockHashToPayloadIds]
  by_cases heq : hash = parent
  · simp [heq]
  · simp [heq, Table.remove_of_ne]

/-- A forkchoice update that begins a payload gives it a new entry. -/
theorem Traced.store {context : PayloadTraceContext}
    (h : Traced api config start events context) {event : Event T} {begun : PayloadId}
    {head : B256} (hbegins : (run (step api config) start events).Begins config event begun)
    (hhead : event.head = some head) (hparent : event.parent = none) :
    Traced api config start (events ++ [event])
      (context.store begun head ((run (step api config) start events).shares api event)) := by
  have hother : ∀ payloadId, payloadId ≠ begun →
      ¬ (run (step api config) start events).Begins config event payloadId :=
    fun payloadId hne h' => hne (h'.unique hbegins)
  refine ⟨?_, ?_, ?_⟩
  · intro payloadId flag
    simp only [credited_concat, hparent, hhead]
    by_cases heq : payloadId = begun
    · subst heq
      simp [PayloadTraceContext.store, hbegins]
    · simp [PayloadTraceContext.store, Table.insert_of_ne _ heq, hother payloadId heq,
        h.entry payloadId flag]
  · intro payloadId hash flag hcredited
    rw [mem_listed_store]
    obtain ⟨hbegins', hhead', -⟩ | ⟨hcredited, -, -⟩ := credited_concat.mp hcredited
    · refine .inr ⟨hbegins'.unique hbegins, ?_⟩
      exact Option.some.inj (hhead'.symm.trans hhead)
    · exact .inl (h.listed payloadId hash flag hcredited)
  · intro payloadId hash hmem
    obtain hmem | ⟨rfl, rfl⟩ := mem_listed_store.mp hmem
    · obtain ⟨e, he, hcarries⟩ := h.carried payloadId hash hmem
      exact ⟨e, by simp [he], hcarries⟩
    · exact ⟨event, by simp, hbegins.carries.1, hhead⟩

/-- A new block removes exactly the payloads whose credit rests on its parent. -/
theorem Traced.remove {context : PayloadTraceContext}
    (h : Traced api config start events context) (honeHead : OneHead events) {event : Event T}
    {parent : B256}
    (hbegins : ∀ payloadId, ¬ (run (step api config) start events).Begins config event payloadId)
    (hparent : event.parent = some parent) :
    Traced api config start (events ++ [event]) (context.removeByParentHash parent) := by
  refine ⟨?_, ?_, ?_⟩
  · intro payloadId flag
    simp only [credited_concat, hbegins, false_and, false_or, not_false_eq_true, true_and, hparent,
      PayloadTraceContext.removeByParentHash_payloadId]
    split
    · next hmem =>
        simp only [reduceCtorEq, false_iff, not_exists, not_and, not_not]
        intro head hcredited
        obtain ⟨e, he, hcarries, hhash⟩ := h.carried payloadId parent hmem
        obtain ⟨e', he', hcarries', hhead⟩ := hcredited.carries
        rw [← hhash, ← hhead]
        exact honeHead e he e' he' payloadId hcarries hcarries'
    · next hmem =>
        rw [h.entry payloadId flag]
        refine exists_congr fun head => ?_
        constructor
        · intro hcredited
          refine ⟨hcredited, ?_⟩
          intro heq
          obtain rfl := Option.some.inj heq
          exact hmem (h.listed payloadId parent flag hcredited)
        · exact And.left
  · intro payloadId hash flag hcredited
    obtain ⟨hbegun, -⟩ | ⟨hcredited, -, hne⟩ := credited_concat.mp hcredited
    · exact absurd hbegun (hbegins payloadId)
    · refine mem_listed_remove.mpr ⟨h.listed payloadId hash flag hcredited, ?_⟩
      rintro rfl
      exact hne hparent
  · intro payloadId hash hmem
    obtain ⟨e, he, hcarries⟩ := h.carried payloadId hash (mem_listed_remove.mp hmem).1
    exact ⟨e, by simp [he], hcarries⟩

/-- An event that neither begins a payload nor brings a new block changes no credit. -/
theorem Traced.keep {context : PayloadTraceContext}
    (h : Traced api config start events context) {event : Event T}
    (hbegins : ∀ payloadId, ¬ (run (step api config) start events).Begins config event payloadId)
    (hparent : event.parent = none) : Traced api config start (events ++ [event]) context := by
  have hsame : ∀ payloadId head flag,
      Credited api config start (events ++ [event]) payloadId head flag ↔
        Credited api config start events payloadId head flag := by
    intro payloadId head flag
    simp [credited_concat, hbegins, hparent]
  refine ⟨?_, ?_, ?_⟩
  · intro payloadId flag
    simp only [hsame]
    exact h.entry payloadId flag
  · intro payloadId head flag hcredited
    exact h.listed payloadId head flag ((hsame payloadId head flag).mp hcredited)
  · intro payloadId hash hmem
    obtain ⟨e, he, hcarries⟩ := h.carried payloadId hash hmem
    exact ⟨e, by simp [he], hcarries⟩

theorem OneHead.of_concat {event : Event T} (h : OneHead (events ++ [event])) :
    OneHead events := by
  intro e he e' he'
  exact h e (by simp [he]) e' (by simp [he'])

theorem traced_run (api : EngineApiExt T) (config : ServerConfig) (client : T)
    (mode : ExecutionMode) (events : List (Event T)) (hevicts : ∀ event ∈ events, ¬ event.Evicts)
    (honeHead : OneHead events) :
    Traced api config (.new client mode) events
      (run (step api config) (.new client mode) events).payloadTraceContext := by
  induction events using List.reverseRecOn with
  | nil =>
      have hnone : ∀ payloadId head flag,
          ¬ Credited api config (.new client mode) [] payloadId head flag := by
        rintro payloadId head flag ⟨before, event, after, hlast, -⟩
        exact absurd hlast.split (by simp)
      refine ⟨?_, ?_, ?_⟩
      · intro payloadId flag
        have hentry : (run (step api config) (.new client mode)
            []).payloadTraceContext.payloadId payloadId = none := rfl
        simp only [hentry, hnone, exists_false, reduceCtorEq]
      · intro payloadId head flag hcredited
        exact absurd hcredited (hnone payloadId head flag)
      · simp [new, PayloadTraceContext.new]
  | append_singleton events event ih =>
      have htraced := ih (fun e he => hevicts e (by simp [he])) honeHead.of_concat
      rw [run_concat]
      obtain ⟨begun, head, hbegins, hhead, hparent, heq⟩ | ⟨parent, hnone, hparent, heq⟩ |
          ⟨hnone, hparent, heq⟩ :=
        step_trace_cases api config (run (step api config) (.new client mode) events)
          (hevicts event (by simp))
      · rw [heq]
        exact htraced.store hbegins hhead hparent
      · rw [heq]
        exact htraced.remove honeHead.of_concat hnone hparent
      · rw [heq]
        exact htraced.keep hnone hparent

theorem Traced.hasBuilderPayload_iff {context : PayloadTraceContext}
    (h : Traced api config start events context) :
    context.hasBuilderPayload payloadId = true ↔
      ∃ head, Credited api config start events payloadId head true := by
  rw [← h.entry payloadId true]
  simp only [PayloadTraceContext.hasBuilderPayload]
  cases hentry : context.payloadId payloadId with
  | none => simp
  | some trace =>
      cases trace
      simp

/-- A payload has one last beginning. -/
theorem LastBegun.unique {before before' after after' : List (Event T)} {event event' : Event T}
    (h : LastBegun api config start events payloadId before event after)
    (h' : LastBegun api config start events payloadId before' event' after') :
    before = before' ∧ event = event' ∧ after = after' := by
  have hnot : ∀ {before before' after after' : List (Event T)} {event event' : Event T},
      LastBegun api config start events payloadId before event after →
      LastBegun api config start events payloadId before' event' after' →
      ¬ ∃ between, before' = before ++ event :: between := by
    rintro before before' after after' event event' h h' ⟨between, rfl⟩
    have hsplit := h'.split
    rw [h.split, List.append_assoc, List.cons_append, List.append_cancel_left_eq,
      List.cons.injEq] at hsplit
    obtain ⟨-, rfl⟩ := hsplit
    have hlast := (Along.append_iff.mp h.last).2.1
    rw [← run_append, List.append_assoc] at hlast
    exact hlast h'.begins
  have hsplit := h.split.symm.trans h'.split
  obtain ⟨between, rfl, heq⟩ | ⟨between, rfl, heq⟩ := List.append_eq_append_iff.mp hsplit
  · cases between with
    | nil =>
        obtain ⟨rfl, rfl⟩ := List.cons.inj heq
        exact ⟨by simp, rfl, rfl⟩
    | cons e between =>
        obtain ⟨rfl, -⟩ := List.cons.inj heq
        exact absurd ⟨between, rfl⟩ (hnot h h')
  · cases between with
    | nil =>
        obtain ⟨rfl, rfl⟩ := List.cons.inj heq
        exact ⟨by simp, rfl, rfl⟩
    | cons e between =>
        obtain ⟨rfl, -⟩ := List.cons.inj heq
        exact absurd ⟨between, rfl⟩ (hnot h' h)

theorem getPayload_asks_iff {api : BuilderApi T} {answers : Answers} {version : PayloadVersion} :
    (∃ answer, .getPayload version payloadId answer ∈
        (self.handle api.toEngineApiExt config
          (.getPayload answers version payloadId)).builderRequests) ↔
      self.executionMode ≠ .disabled ∧
        self.payloadTraceContext.hasBuilderPayload payloadId = true := by
  have hmode : self.executionMode.isDisabled = false ↔ self.executionMode ≠ .disabled := by
    simp [ExecutionMode.isDisabled]
  rw [handle_getPayload_builderRequests, getPayload_builderRequests, ← hmode]
  split
  · next hasked =>
      simp only [hasked, and_self, iff_true]
      exact ⟨_, List.mem_singleton_self _⟩
  · next hnot =>
      simp [hnot]

/-- When the builder is not asked, the block and every error are those of the L2 client. -/
theorem getPayload_response_of_not_asked {answers : Answers} {version : PayloadVersion}
    (h : self.executionMode.isDisabled = true ∨
      self.payloadTraceContext.hasBuilderPayload payloadId = false) :
    (self.getPayload api config answers payloadId version).response =
      .ofExcept (RpcClient.getPayload answers.l2 payloadId version).toRpc >>=
        fun payload => .ok (payload, .l2) := by
  cases hdisabled : self.executionMode.isDisabled with
  | true =>
      cases hl2 : RpcClient.getPayload answers.l2 payloadId version <;>
        simp [getPayload, hdisabled, hl2]
  | false =>
      have hhas : self.payloadTraceContext.hasBuilderPayload payloadId = false := by
        simpa [hdisabled] using h
      cases hl2 : RpcClient.getPayload answers.l2 payloadId version with
      | error e => simp [getPayload, builderFut, selectPayload, hdisabled, hhas, hl2]
      | ok l2Payload =>
          simp only [getPayload, hdisabled, builderFut, hhas, Bool.not_false, if_true,
            Bool.false_eq_true, if_false, hl2, selectPayload, chooseBlock, ClientResult.toRpc_ok,
            Outcome.ofExcept_ok, Outcome.ok_bind]
          split <;> rfl

/-- Without evictions, and when the L2 client gives no payload id to two heads: the builder
is asked for a payload exactly when the mode is not `Disabled`, the last forkchoice update
that began the payload was shared with the builder and answered, and no block has been
built on its head since. A payload that was last begun without the tx pool is served from
the L2 client. -/
theorem builder_asked_iff (api : BuilderApi T) (config : ServerConfig) (client : T)
    (mode : ExecutionMode) (events : List (Event T)) (hevicts : ∀ event ∈ events, ¬ event.Evicts)
    (honeHead : OneHead events) (answers : Answers) (version : PayloadVersion)
    (payloadId : PayloadId) :
    let start : RollupBoostServer T := .new client mode
    let server := run (step api.toEngineApiExt config) start events
    ((∃ answer, .getPayload version payloadId answer ∈
        (server.handle api.toEngineApiExt config
          (.getPayload answers version payloadId)).builderRequests) ↔
      server.executionMode ≠ .disabled ∧
      ∃ before event after,
        LastBegun api.toEngineApiExt config start events payloadId before event after ∧
        (run (step api.toEngineApiExt config) start before).shares api.toEngineApiExt event =
          true ∧
        ∀ e ∈ after, ∀ head ∈ event.head, e.parent ≠ some head) ∧
    ∀ before event after,
      LastBegun api.toEngineApiExt config start events payloadId before event after →
      event.noTxPool = true →
        (server.getPayload api.toEngineApiExt config answers payloadId version).response =
          .ofExcept (RpcClient.getPayload answers.l2 payloadId version).toRpc >>=
            fun payload => .ok (payload, .l2) := by
  intro start server
  have htraced : Traced api.toEngineApiExt config start events server.payloadTraceContext :=
    traced_run api.toEngineApiExt config client mode events hevicts honeHead
  refine ⟨?_, ?_⟩
  · rw [getPayload_asks_iff, htraced.hasBuilderPayload_iff]
    refine and_congr_right fun _ => ?_
    constructor
    · rintro ⟨head, before, event, after, hlast, hhead, hshares, hafter⟩
      refine ⟨before, event, after, hlast, hshares, ?_⟩
      intro e he head' hhead'
      obtain rfl := Option.some.inj (hhead.symm.trans hhead')
      exact hafter e he
    · rintro ⟨before, event, after, hlast, hshares, hafter⟩
      obtain ⟨head, hhead⟩ := hlast.begins.carries.2
      exact ⟨head, before, event, after, hlast, hhead, hshares,
        fun e he => hafter e he head hhead⟩
  · intro before event after hlast hpool
    apply getPayload_response_of_not_asked
    right
    rw [← Bool.not_eq_true, htraced.hasBuilderPayload_iff]
    rintro ⟨head, before', event', after', hlast', -, hshares, -⟩
    obtain ⟨rfl, rfl, rfl⟩ := hlast.unique hlast'
    have hnot : (run (step api.toEngineApiExt config) start before).shares api.toEngineApiExt
        event = false := by
      cases event with
      | forkChoiceUpdatedV3 answers state attributes =>
          cases attributes with
          | none => rfl
          | some attrs =>
              have hattrs : attrs.noTxPool.getD false = true := hpool
              simp [shares, hattrs]
      | _ => rfl
    rw [hnot] at hshares
    exact absurd hshares (by simp)

/-- Payload 7 is begun, and a block arrives on another head: the builder is still asked. -/
theorem builder_asked_after_other_block :
    ∃ answer, .getPayload .v3 7 answer ∈
      ((run (step RpcClient.engineApi plainConfig) (.new () .enabled)
        [.forkChoiceUpdatedV3 (oneBlock .valid) { (default : ForkchoiceState) with
            headBlockHash := 1 } (some default),
          .newPayload (oneBlock .valid) (.ofEnvelope (.v3 default))]).handle RpcClient.engineApi
            plainConfig (.getPayload (oneBlock .valid) .v3 7)).builderRequests := by
  refine (builder_asked_iff RpcClient.builderApi plainConfig () .enabled _ ?_ ?_ (oneBlock .valid)
    .v3 7).1.mpr ⟨by decide, [], _, _, ⟨rfl, ⟨rfl, rfl, rfl⟩, ⟨id, trivial⟩⟩, rfl, ?_⟩
  · intro event hmem
    obtain rfl | hmem := List.mem_cons.mp hmem
    · exact id
    · rw [List.mem_singleton.mp hmem]
      exact id
  · intro event hmem other hmem' payloadId hcarries hcarries'
    obtain rfl | hmem := List.mem_cons.mp hmem
    · obtain rfl | hmem' := List.mem_cons.mp hmem'
      · rfl
      · rw [List.mem_singleton.mp hmem'] at hcarries'
        exact absurd hcarries' id
    · rw [List.mem_singleton.mp hmem] at hcarries
      exact absurd hcarries id
  · intro e he head hhead
    obtain rfl := List.mem_singleton.mp he
    obtain rfl := Option.some.inj hhead
    decide

end RollupBoostServer

end RollupBoost
