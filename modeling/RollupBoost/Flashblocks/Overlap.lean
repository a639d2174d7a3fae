import RollupBoost.Flashblocks.Service

/-!
# Overlapping forkchoice updates

A forkchoice update with attributes selects the id that it has computed, asks the builder, and
when the answer comes with another id than the one that is then selected, it selects that one.
The comparison is meant to detect a builder that computes ids in its own way. It does not look
at the id that this call has computed, so an answer that comes after a later call has selected
its id is taken for such a builder, and the service goes back to the older payload.

`Overlap` keeps the calls in the order of their first steps. The id that is selected is always
one of the latest call, as long as no superseded call is answered with any other id.
-/

namespace RollupBoost

open Machine

/-- A forkchoice update with attributes, after its first step. The answer is missing while the
request to the builder is in flight. -/
structure ForkchoiceCall where
  computed : PayloadId
  answer : Option (ClientResult ForkchoiceUpdated)

/-- The id that the builder began, if the call to it succeeded. -/
def returnedId : ClientResult ForkchoiceUpdated → Option PayloadId
  | .ok resp => resp.payloadId
  | .error _ => none

namespace ForkchoiceCall

def returned (self : ForkchoiceCall) : Option PayloadId := self.answer.bind returnedId

/-- The ids that the call stands for. -/
def Selects (self : ForkchoiceCall) (payloadId : PayloadId) : Prop :=
  payloadId = self.computed ∨ self.returned = some payloadId

instance (self : ForkchoiceCall) (payloadId : PayloadId) : Decidable (self.Selects payloadId) :=
  inferInstanceAs (Decidable (_ ∨ _))

end ForkchoiceCall

namespace FlashblocksService

/-- An answer with an id leaves that id selected; any other answer changes nothing. -/
theorem acceptResponse_currentPayloadId (self : FlashblocksService)
    (answer : ClientResult ForkchoiceUpdated) :
    (self.acceptResponse answer).currentPayloadId =
      (returnedId answer).or self.currentPayloadId := by
  cases answer with
  | error e => rfl
  | ok resp =>
      simp only [acceptResponse, returnedId]
      cases resp.payloadId with
      | none => rfl
      | some payloadId =>
          simp only
          by_cases hsame : self.currentPayloadId = some payloadId
          · simp [hsame]
          · simp [hsame, setCurrentPayloadId]

theorem onEvent_currentPayloadId (self : FlashblocksService) (payload : FlashblocksPayloadV1) :
    (self.onEvent payload).currentPayloadId = self.currentPayloadId := by
  rw [onEvent_eq]
  split <;> rfl

theorem getBestPayload_currentPayloadId (self : FlashblocksService) (version : PayloadVersion)
    (payloadId : PayloadId) :
    (self.getBestPayload version payloadId).1.currentPayloadId = self.currentPayloadId := by
  simp only [getBestPayload]
  split <;> rfl

end FlashblocksService

/-- The service and the calls that were made to it, in the order of their first steps. -/
structure Overlap where
  service : FlashblocksService
  calls : List ForkchoiceCall

inductive OverlapEvent where
  | forkChoiceUpdatedV3 (state : ForkchoiceState) (attributes : OpPayloadAttributes)
  | respond (call : Nat) (answer : ClientResult ForkchoiceUpdated)
  | onEvent (payload : FlashblocksPayloadV1)
  | getBestPayload (version : PayloadVersion) (payloadId : PayloadId)

namespace Overlap

variable (payloadIdOptimism : B256 → OpPayloadAttributes → UInt8 → PayloadId)

def start (service : FlashblocksService) : Overlap := { service := service, calls := [] }

def step (x : Overlap) : OverlapEvent → Overlap
  | .forkChoiceUpdatedV3 state attributes =>
      { service := x.service.calculatePayloadId payloadIdOptimism state (some attributes)
        calls := x.calls ++
          [{ computed := payloadIdOptimism state.headBlockHash attributes 3, answer := none }] }
  | .respond index answer =>
      match x.calls[index]? with
      | some { computed, answer := none } =>
          { service := x.service.acceptResponse answer
            calls := x.calls.set index { computed := computed, answer := some answer } }
      | _ => x
  | .onEvent payload => { x with service := x.service.onEvent payload }
  | .getBestPayload version payloadId =>
      { x with service := (x.service.getBestPayload version payloadId).1 }

/-- All calls have been answered. -/
def Completed (x : Overlap) : Prop := ∀ call ∈ x.calls, call.answer.isSome = true

/-- The id that is selected is one of the latest call. -/
def CurrentIsLatest (x : Overlap) : Prop :=
  ∀ latest, x.calls.getLast? = some latest →
    ∃ payloadId, x.service.currentPayloadId = some payloadId ∧ latest.Selects payloadId

/-- An answer with an id that is not one of the latest call is not for an older call. -/
def NotLate (x : Overlap) : OverlapEvent → Prop
  | .respond index answer =>
      ∀ call, x.calls[index]? = some call → call.answer = none → index + 1 < x.calls.length →
        ∀ payloadId, returnedId answer = some payloadId →
          ∀ latest, x.calls.getLast? = some latest → latest.Selects payloadId
  | _ => True

variable {payloadIdOptimism} {x : Overlap} {index : Nat} {call : ForkchoiceCall}
variable {answer : ClientResult ForkchoiceUpdated}

/-- What an answer does to a call that waits for it. -/
theorem step_respond (hcall : x.calls[index]? = some call) (hwaits : call.answer = none) :
    x.step payloadIdOptimism (.respond index answer) =
      { service := x.service.acceptResponse answer
        calls := x.calls.set index { call with answer := some answer } } := by
  obtain ⟨computed, answer⟩ := call
  obtain rfl : answer = none := hwaits
  simp only [step, hcall]

/-- An answer to the latest call leaves it with an id of that call. -/
theorem currentIsLatest_of_latest (h : x.CurrentIsLatest) (hcall : x.calls.getLast? = some call)
    (hwaits : call.answer = none) :
    ∃ payloadId, (x.service.acceptResponse answer).currentPayloadId = some payloadId ∧
      ({ call with answer := some answer } : ForkchoiceCall).Selects payloadId := by
  rw [FlashblocksService.acceptResponse_currentPayloadId]
  cases hreturned : returnedId answer with
  | some payloadId => exact ⟨payloadId, rfl, .inr hreturned⟩
  | none =>
      obtain ⟨payloadId, hcurrent, hcomputed | hearlier⟩ := h call hcall
      · exact ⟨payloadId, hcurrent, .inl hcomputed⟩
      · exact absurd hearlier (by simp [ForkchoiceCall.returned, hwaits])

/-- An answer to an older call selects its id over those of the latest call. -/
theorem currentIsLatest_superseded_iff (h : x.CurrentIsLatest) :
    (∀ latest, x.calls.getLast? = some latest →
      ∃ payloadId, (x.service.acceptResponse answer).currentPayloadId = some payloadId ∧
        latest.Selects payloadId) ↔
    ∀ payloadId, returnedId answer = some payloadId →
      ∀ latest, x.calls.getLast? = some latest → latest.Selects payloadId := by
  rw [FlashblocksService.acceptResponse_currentPayloadId]
  cases hreturned : returnedId answer with
  | none => exact iff_of_true h (by simp)
  | some returned => simp

theorem getLast?_set_of_lt {calls : List ForkchoiceCall} (hlt : index + 1 < calls.length)
    (call : ForkchoiceCall) : (calls.set index call).getLast? = calls.getLast? := by
  rw [List.getLast?_eq_getElem?, List.getLast?_eq_getElem?, List.length_set]
  exact List.getElem?_set_ne (by omega)

theorem currentIsLatest_respond_iff (h : x.CurrentIsLatest)
    (hcall : x.calls[index]? = some call) (hwaits : call.answer = none) :
    (x.step payloadIdOptimism (.respond index answer)).CurrentIsLatest ↔
      x.NotLate (.respond index answer) := by
  obtain ⟨hindex, -⟩ := List.getElem?_eq_some_iff.mp hcall
  rw [step_respond hcall hwaits]
  by_cases holder : index + 1 < x.calls.length
  · have hlate : x.NotLate (.respond index answer) ↔
        ∀ payloadId, returnedId answer = some payloadId →
          ∀ latest, x.calls.getLast? = some latest → latest.Selects payloadId := by
      constructor
      · intro hnotLate
        exact hnotLate call hcall hwaits holder
      · intro hselects _ _ _ _
        exact hselects
    rw [hlate, ← currentIsLatest_superseded_iff h]
    simp only [CurrentIsLatest, getLast?_set_of_lt holder]
  · -- the call that is answered is the latest one
    have hlast : index = x.calls.length - 1 := by omega
    have hlatest : x.calls.getLast? = some call := by
      rw [List.getLast?_eq_getElem?, ← hlast, hcall]
    refine iff_of_true ?_ ?_
    · intro latest hget
      rw [List.getLast?_eq_getElem?, List.length_set, ← hlast,
        List.getElem?_set_self hindex] at hget
      obtain rfl := Option.some.inj hget
      exact currentIsLatest_of_latest h hlatest hwaits
    · intro _ _ _ hlt
      exact absurd hlt holder

theorem currentIsLatest_step_iff (h : x.CurrentIsLatest) (event : OverlapEvent) :
    (x.step payloadIdOptimism event).CurrentIsLatest ↔ x.NotLate event := by
  cases event with
  | forkChoiceUpdatedV3 state attributes =>
      refine iff_of_true ?_ trivial
      intro latest hget
      rw [step, List.getLast?_concat] at hget
      obtain rfl := Option.some.inj hget
      exact ⟨_, rfl, .inl rfl⟩
  | respond index answer =>
      cases hcall : x.calls[index]? with
      | none =>
          have hstep : x.step payloadIdOptimism (.respond index answer) = x := by
            simp only [step, hcall]
          rw [hstep]
          exact iff_of_true h (by simp [NotLate, hcall])
      | some call =>
          cases hwaits : call.answer with
          | none => exact currentIsLatest_respond_iff h hcall hwaits
          | some earlier =>
              have hstep : x.step payloadIdOptimism (.respond index answer) = x := by
                obtain ⟨computed, given⟩ := call
                obtain rfl : given = some earlier := hwaits
                simp only [step, hcall]
              rw [hstep]
              exact iff_of_true h (by simp [NotLate, hcall, hwaits])
  | onEvent payload =>
      refine iff_of_true ?_ trivial
      intro latest hget
      simp only [step, FlashblocksService.onEvent_currentPayloadId]
      exact h latest hget
  | getBestPayload version payloadId =>
      refine iff_of_true ?_ trivial
      intro latest hget
      simp only [step, FlashblocksService.getBestPayload_currentPayloadId]
      exact h latest hget

/-- For every interleaving of calls with any answers, messages and fetches: the id that is
selected is at all times one of the latest call exactly if no superseded call is answered with
an id that is not. In particular it is when all calls have been answered. -/
theorem no_rollback_iff (payloadIdOptimism : B256 → OpPayloadAttributes → UInt8 → PayloadId)
    (service : FlashblocksService) (events : List OverlapEvent) :
    (Along (step payloadIdOptimism)
        (fun x event => (x.step payloadIdOptimism event).CurrentIsLatest) (start service) events ↔
      Along (step payloadIdOptimism) NotLate (start service) events) ∧
    (Along (step payloadIdOptimism) NotLate (start service) events →
      (run (step payloadIdOptimism) (start service) events).Completed →
        (run (step payloadIdOptimism) (start service) events).CurrentIsLatest) := by
  have hstart : (start service).CurrentIsLatest := by simp [CurrentIsLatest, start]
  constructor
  · refine Along.congr_of_invariant (fun x event h _ => currentIsLatest_step_iff h event)
      (fun x event _ _ hnext => hnext) (Along.of_forall fun _ _ => trivial) hstart
  · intro hnotLate _
    refine Along.run_invariant ?_ hnotLate hstart
    intro x event h hevent
    exact (currentIsLatest_step_iff h event).mpr hevent

/-- An id for each head. -/
def idOfHead (head : B256) (_ : OpPayloadAttributes) (_ : UInt8) : PayloadId := head.setWidth 64

/-- The builder begins the payload with this id. -/
def begins (payloadId : PayloadId) : ClientResult ForkchoiceUpdated :=
  .ok
    { payloadStatus := { status := .valid, latestValidHash := none }
      payloadId := some payloadId }

/-- A call on head 1 and then one on head 2. The builder agrees with both ids, and answers the
second call first. -/
def answeredInReverse : Overlap :=
  run (step idOfHead) (start .new)
    [.forkChoiceUpdatedV3 { (default : ForkchoiceState) with headBlockHash := 1 } default,
      .forkChoiceUpdatedV3 { (default : ForkchoiceState) with headBlockHash := 2 } default,
      .respond 1 (begins 2), .respond 0 (begins 1)]

/-- The service goes back to the payload on head 1. -/
theorem rolled_back : answeredInReverse.Completed ∧ ¬ answeredInReverse.CurrentIsLatest := by
  refine ⟨by simp [answeredInReverse, Completed, start, step, Machine.run], ?_⟩
  intro h
  obtain ⟨payloadId, hcurrent, hselects⟩ := h { computed := 2, answer := some (begins 2) } rfl
  obtain rfl : 1 = payloadId := Option.some.inj hcurrent
  exact absurd hselects (by decide)

end Overlap

end RollupBoost
