import RollupBoost.Server.Validation

/-!
# The emergency switch and a call in flight

The debug API may change the execution mode while `get_payload` waits for its two
requests. The call reads the mode when it starts, where `Disabled` keeps the builder out,
and once more when it selects the block, where `DryRun` does. The second read does not
test for `Disabled`. A switch to `Disabled` that falls between the two reads is therefore
not obeyed: the builder's block is returned although the builder was switched off.

The call is cut into its three steps, and any other event of the server may happen in
between. `completed_eq_getPayload` ties the steps to the handler.
-/

namespace RollupBoost

open Machine RollupBoostServer

/-- One call of `get_payload`, with the answers that both clients give to it. -/
structure Fetch where
  answers : Answers
  payloadId : PayloadId
  version : PayloadVersion

namespace Fetch

def l2Payload (call : Fetch) : ClientResult OpExecutionPayloadEnvelope :=
  RpcClient.getPayload call.answers.l2 call.payloadId call.version

inductive Phase where
  | pending
  /-- The mode was not `Disabled` at the entry, and both requests are outstanding. -/
  | entered
  /-- Both futures have ended. -/
  | joined (l2Payload : ClientResult OpExecutionPayloadEnvelope)
      (builderPayload : Outcome ErrorObject BuilderPayloadResult)
  /-- The call has returned, with the mode that the selection read, if it got there. -/
  | returned (mode : Option ExecutionMode)
      (response : Outcome ErrorObject (OpExecutionPayloadEnvelope × PayloadSource))

structure State (T : Type) where
  server : RollupBoostServer T
  phase : Phase

inductive Step (T : Type) where
  | enter
  | join
  | select
  /-- Anything else that happens to the server, such as a change of the mode. -/
  | other (event : Event T)

variable {T : Type} (api : EngineApiExt T) (config : ServerConfig) (call : Fetch)

def start (server : RollupBoostServer T) : State T :=
  { server := server, phase := .pending }

def step (x : State T) : Step T → State T
  | .enter =>
      match x.phase with
      | .pending =>
          if x.server.executionMode.isDisabled then
            let handled := x.server.getPayload api config call.answers call.payloadId call.version
            { server := handled.server, phase := .returned none handled.response }
          else
            { x with phase := .entered }
      | _ => x
  | .join =>
      match x.phase with
      | .entered =>
          let builder := x.server.builderFut api config call.answers call.payloadId call.version
          { server := builder.server, phase := .joined call.l2Payload builder.response }
      | _ => x
  | .select =>
      match x.phase with
      | .joined l2Payload builderPayload =>
          let selected := x.server.selectPayload config l2Payload builderPayload
          { server := selected.1, phase := .returned (some x.server.executionMode) selected.2 }
      | _ => x
  | .other event => { x with server := x.server.step api config event }

/-- The three steps with nothing in between are the handler. -/
theorem completed_eq_getPayload (server : RollupBoostServer T) :
    let handled := server.getPayload api config call.answers call.payloadId call.version
    let finished := run (step api config call) (start server) [.enter, .join, .select]
    finished.server = handled.server ∧
      ∃ mode, finished.phase = .returned mode handled.response := by
  intro handled finished
  by_cases hdisabled : server.executionMode.isDisabled = true
  · simp [finished, handled, step, start, hdisabled]
  · simp [finished, handled, step, start, hdisabled, getPayload, l2Payload]

/-- When the selection read `Disabled` or `DryRun`, a returned block is the block of the L2
client. -/
def ServedByL2 (x : State T) : Prop :=
  ∀ mode payload source, x.phase = .returned (some mode) (.ok (payload, source)) →
    mode = .disabled ∨ mode = .dryRun → call.l2Payload = .ok payload

/-- The builder is switched off, but its block is about to be selected: both clients have
returned a block, the blocks differ, and the policy prefers the builder's. -/
def LateSwitch (x : State T) : Prop :=
  x.server.executionMode = .disabled ∧
    ∃ l2Payload builderPayload failed,
      x.phase = .joined (.ok l2Payload)
        (.ok { payload := some builderPayload, builderApiFailed := failed }) ∧
      BlockSelectionPolicy.Prefers config.blockSelectionPolicy builderPayload l2Payload ∧
      builderPayload ≠ l2Payload

/-- The selection does not meet a late switch. -/
def Timely (x : State T) (event : Step T) : Prop :=
  event = .select → ¬ LateSwitch config x

variable {api config call}

/-! ## The selection -/

/-- The selected block is one of the two. -/
theorem selectPayload_block {server : RollupBoostServer T}
    {l2Result : ClientResult OpExecutionPayloadEnvelope}
    {builderResult : Outcome ErrorObject BuilderPayloadResult}
    {payload : OpExecutionPayloadEnvelope} {source : PayloadSource}
    (h : (server.selectPayload config l2Result builderResult).2 = .ok (payload, source)) :
    l2Result = .ok payload ∨ source = .builder := by
  cases l2Result with
  | error e => cases builderResult <;> simp [selectPayload] at h
  | ok l2Payload =>
      have hchosen : ∀ builderPayload failed,
          ((server.setHealth .healthy).chooseBlock config l2Payload builderPayload failed).2 =
            (payload, source) →
            (.ok l2Payload : ClientResult OpExecutionPayloadEnvelope) = .ok payload ∨
              source = .builder := by
        intro builderPayload failed hchoice
        simp only [chooseBlock] at hchoice
        split at hchoice
        · split at hchoice
          · exact .inl (congrArg Except.ok (Prod.mk.inj hchoice).1)
          · split at hchoice
            · next policy _ =>
                cases policy
                simp only [BlockSelectionPolicy.selectBlock] at hchoice
                split at hchoice
                · exact .inl (congrArg Except.ok (Prod.mk.inj hchoice).1)
                · exact .inr (Prod.mk.inj hchoice).2.symm
            · exact .inr (Prod.mk.inj hchoice).2.symm
        · split at hchoice <;> exact .inl (congrArg Except.ok (Prod.mk.inj hchoice).1)
      cases builderResult with
      | panic message => simp [selectPayload] at h
      | error e => exact hchosen none true (Outcome.ok.inj h)
      | ok result => exact hchosen result.payload result.builderApiFailed (Outcome.ok.inj h)

/-- Selecting at a late switch returns the builder's block. -/
theorem LateSwitch.select {x : State T} (h : LateSwitch config x) :
    ∃ builderPayload l2Payload rest,
      (step api config call x .select).phase =
        .returned (some .disabled) (.ok (builderPayload, .builder)) ∧
      x.phase = .joined (.ok l2Payload) rest ∧ builderPayload ≠ l2Payload := by
  obtain ⟨hmode, l2Payload, builderPayload, failed, hphase, hprefers, hne⟩ := h
  have hselected : (x.server.selectPayload config (.ok l2Payload)
      (.ok { payload := some builderPayload, builderApiFailed := failed })).2 =
        .ok (builderPayload, .builder) := by
    refine selectPayload_builder_iff.mpr ⟨?_, ⟨failed, rfl⟩, l2Payload, rfl, hprefers⟩
    rw [hmode]
    simp
  refine ⟨builderPayload, l2Payload, _, ?_, hphase, hne⟩
  simp only [step, hphase, hmode, hselected]

/-! ## The run -/

/-- All that a step can do to the phase of the call. -/
theorem step_phase_cases (api : EngineApiExt T) (config : ServerConfig) (call : Fetch)
    (x : State T) (event : Step T) :
    (step api config call x event).phase = x.phase ∨
    (∃ response, (step api config call x event).phase = .returned none response) ∨
    (step api config call x event).phase = .entered ∨
    (∃ builderPayload,
      (step api config call x event).phase = .joined call.l2Payload builderPayload) ∨
    (∃ l2Payload builderPayload, event = .select ∧ x.phase = .joined l2Payload builderPayload ∧
      (step api config call x event).phase = .returned (some x.server.executionMode)
        (x.server.selectPayload config l2Payload builderPayload).2) := by
  cases event with
  | enter =>
      cases hx : x.phase with
      | pending =>
          by_cases hdisabled : x.server.executionMode.isDisabled = true
          · exact .inr (.inl ⟨_, by simp only [step, hx, hdisabled, if_true]; rfl⟩)
          · exact .inr (.inr (.inl (by simp [step, hx, hdisabled])))
      | _ => exact .inl (by simp [step, hx])
  | join =>
      cases hx : x.phase with
      | entered => exact .inr (.inr (.inr (.inl ⟨_, by simp only [step, hx]; rfl⟩)))
      | _ => exact .inl (by simp [step, hx])
  | select =>
      cases hx : x.phase with
      | joined l2Payload builderPayload =>
          exact .inr (.inr (.inr (.inr ⟨l2Payload, builderPayload, rfl, rfl, by simp [step, hx]⟩)))
      | _ => exact .inl (by simp [step, hx])
  | other event => exact .inl rfl

/-- A joined call holds the answer of the L2 client. -/
def Joined (call : Fetch) (x : State T) : Prop :=
  ∀ l2Payload builderPayload, x.phase = .joined l2Payload builderPayload →
    l2Payload = call.l2Payload

theorem joined_step (x : State T) (event : Step T) (h : Joined call x) :
    Joined call (step api config call x event) := by
  intro l2Payload builderPayload hphase
  obtain heq | ⟨response, heq⟩ | heq | ⟨result, heq⟩ | ⟨l2Result, result, -, -, heq⟩ :=
    step_phase_cases api config call x event
  · exact h l2Payload builderPayload (heq.symm.trans hphase)
  · exact absurd (heq.symm.trans hphase) (by simp)
  · exact absurd (heq.symm.trans hphase) (by simp)
  · exact (Phase.joined.inj (heq.symm.trans hphase)).1.symm
  · exact absurd (heq.symm.trans hphase) (by simp)

/-- A step that is not a late selection keeps what is returned the L2 client's. -/
theorem servedByL2_step (x : State T) (event : Step T) (hjoined : Joined call x)
    (h : ServedByL2 call x) (htimely : Timely config x event) :
    ServedByL2 call (step api config call x event) := by
  intro mode payload source hphase hmode
  obtain heq | ⟨response, heq⟩ | heq | ⟨result, heq⟩ | ⟨l2Result, result, rfl, hx, heq⟩ :=
    step_phase_cases api config call x event
  · exact h mode payload source (heq.symm.trans hphase) hmode
  · exact absurd (heq.symm.trans hphase) (by simp)
  · exact absurd (heq.symm.trans hphase) (by simp)
  · exact absurd (heq.symm.trans hphase) (by simp)
  · obtain rfl := hjoined l2Result result hx
    obtain ⟨hread, hselected⟩ := Phase.returned.inj (heq.symm.trans hphase)
    obtain rfl := Option.some.inj hread
    obtain hl2 | rfl := selectPayload_block hselected
    · exact hl2
    · -- the builder's block was selected, so the mode was not `DryRun`
      obtain ⟨hdry, ⟨failed, rfl⟩, l2Payload, hl2, hprefers⟩ :=
        selectPayload_builder_iff.mp hselected
      have hdisabled := hmode.resolve_right hdry
      by_contra hne
      refine htimely rfl ⟨hdisabled, l2Payload, payload, failed, ?_, hprefers, ?_⟩
      · rw [hx, hl2]
      · rintro rfl
        exact hne hl2

/-- What has been returned stays. -/
theorem returned_run {x : State T} {mode : Option ExecutionMode}
    {response : Outcome ErrorObject (OpExecutionPayloadEnvelope × PayloadSource)}
    (h : x.phase = .returned mode response) (events : List (Step T)) :
    (run (step api config call) x events).phase = .returned mode response := by
  refine run_invariant (I := fun x : State T => x.phase = .returned mode response) ?_ h events
  intro y event hy
  cases event <;> simp [step, hy]

/-- For every interleaving of the call with other events: the block is the L2 client's
whenever the selection read `Disabled` or `DryRun`, exactly when the selection does not meet
a switch to `Disabled` with a different block of the builder at hand. -/
theorem served_by_l2_iff (api : EngineApiExt T) (config : ServerConfig) (call : Fetch)
    (server : RollupBoostServer T) (events : List (Step T)) :
    ServedByL2 call (run (step api config call) (start server) events) ↔
      Along (step api config call) (Timely config) (start server) events := by
  constructor
  · intro h
    rw [Along.iff_forall_cut]
    rintro before event after rfl rfl hlate
    have hjoined : Joined call (run (step api config call) (start server) before) :=
      run_invariant joined_step (by simp [Joined, start]) before
    obtain ⟨builderPayload, l2Payload, rest, hphase, hbefore, hne⟩ := hlate.select
    rw [run_append, run_cons] at h
    have hserved := h .disabled builderPayload .builder (returned_run hphase after) (.inl rfl)
    rw [← hjoined _ _ hbefore] at hserved
    exact hne (Except.ok.inj hserved).symm
  · intro h
    have hboth := h.run_invariant
      (I := fun x : State T => Joined call x ∧ ServedByL2 call x)
      (fun x event hx htimely =>
        ⟨joined_step x event hx.1, servedByL2_step x event hx.1 hx.2 htimely⟩)
      ⟨by simp [Joined, start], by simp [ServedByL2, start]⟩
    exact hboth.2

def otherBlock : OpExecutionPayloadEnvelopeV3 :=
  { (default : OpExecutionPayloadEnvelopeV3) with blockValue := 1 }

/-- A builder whose block differs from the L2 client's. -/
def fetchSeven : Fetch where
  answers :=
    { l2 := endpoint 7 default .valid
      l2Inner := endpoint 7 default .valid
      builder := endpoint 7 otherBlock .valid }
  payloadId := 7
  version := .v3

/-- The operator switches the builder off while both requests are outstanding, and the
builder's block is returned. -/
theorem late_switch_ignored :
    ¬ ServedByL2 fetchSeven (run (step RpcClient.engineApi plainConfig fetchSeven)
      (start (afterForkChoice plainConfig))
      [.enter, .other (.setExecutionMode .disabled), .join, .select]) := by
  intro h
  have hserved : (.ok (.v3 default) : ClientResult OpExecutionPayloadEnvelope) =
      .ok (.v3 otherBlock) :=
    h .disabled (.v3 otherBlock) .builder rfl (.inl rfl)
  have hvalue := congrArg OpExecutionPayloadEnvelopeV3.blockValue
    (OpExecutionPayloadEnvelope.v3.inj (Except.ok.inj hserved))
  exact absurd hvalue (by decide)

end Fetch

end RollupBoost
