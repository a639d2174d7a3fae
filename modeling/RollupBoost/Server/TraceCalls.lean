import RollupBoost.Machine.Interleaved
import RollupBoost.Server.Basic

/-!
# Concurrent calls of the trace context

`PayloadTraceContext` (`rollup-boost-types/src/payload.rs`) has two caches. `store` inserts the
trace of a payload into the one and then lists the payload under its parent in the other;
`remove_by_parent_hash` takes the list of a parent away and then removes the payloads that it has.
Requests run concurrently, so the operations of their calls interleave.

The handlers of the server see each call as one step. Here a call is a program over single cache
operations, and run alone it does what that step does. In an interleaving a payload may be
missing from all lists for a while, but only until the call that inserted it has listed it, or
the call that took its list away has removed it. The caches evict nothing here.
-/

namespace RollupBoost

open Machine

/-- The operations on the two caches, each of them atomic. -/
inductive TraceCommand where
  | insertTrace (payloadId : PayloadId) (trace : PayloadTrace)
  | upsertPayloadIds (parentHash : B256) (payloadId : PayloadId)
  | removePayloadIds (blockHash : B256)
  | removeTrace (payloadId : PayloadId)

abbrev TraceAnswer : TraceCommand → Type
  | .insertTrace _ _ => Unit
  | .upsertPayloadIds _ _ => Unit
  | .removePayloadIds _ => Option (List PayloadId)
  | .removeTrace _ => Unit

abbrev TraceProgram := Program TraceCommand TraceAnswer

abbrev access (command : TraceCommand) : TraceProgram (TraceAnswer command) :=
  Program.perform command

namespace PayloadTraceContext

def answer (self : PayloadTraceContext) : (command : TraceCommand) → TraceAnswer command
  | .insertTrace _ _ => ()
  | .upsertPayloadIds _ _ => ()
  | .removePayloadIds blockHash => self.blockHashToPayloadIds blockHash
  | .removeTrace _ => ()

def apply (self : PayloadTraceContext) : TraceCommand → PayloadTraceContext
  | .insertTrace payloadId trace =>
      { self with payloadId := self.payloadId.insert payloadId trace }
  | .upsertPayloadIds parentHash payloadId =>
      { self with
        blockHashToPayloadIds := self.blockHashToPayloadIds.insert parentHash
          (match self.blockHashToPayloadIds parentHash with
          | some payloads => payloads ++ [payloadId]
          | none => [payloadId]) }
  | .removePayloadIds blockHash =>
      { self with blockHashToPayloadIds := self.blockHashToPayloadIds.remove blockHash }
  | .removeTrace payloadId => { self with payloadId := self.payloadId.remove payloadId }

def service (self : PayloadTraceContext) (command : TraceCommand) :
    TraceAnswer command × PayloadTraceContext :=
  (self.answer command, self.apply command)

end PayloadTraceContext

/-! ## The calls -/

/-- The loop over the payloads of a list. -/
def removeTraces : List PayloadId → TraceProgram Unit
  | [] => pure ()
  | payloadId :: payloadIds => do
      access (.removeTrace payloadId)
      removeTraces payloadIds

inductive TraceCall where
  | store (payloadId : PayloadId) (parentHash : B256) (builderHasPayload : Bool)
  | removeByParentHash (blockHash : B256)

def TraceCall.program : TraceCall → TraceProgram Unit
  | .store payloadId parentHash builderHasPayload => do
      access (.insertTrace payloadId { builderHasPayload := builderHasPayload })
      access (.upsertPayloadIds parentHash payloadId)
  | .removeByParentHash blockHash => do
      match ← access (.removePayloadIds blockHash) with
      | some payloadIds => removeTraces payloadIds
      | none => pure ()

namespace PayloadTraceContext

variable (self : PayloadTraceContext)

/-- Run alone, `store` does what the handlers take it for. -/
theorem exec_store (payloadId : PayloadId) (parentHash : B256) (flag : Bool) :
    ((TraceCall.store payloadId parentHash flag).program.exec service self).2 =
      self.store payloadId parentHash flag := by
  cases hids : self.blockHashToPayloadIds parentHash with
  | none => simp [TraceCall.program, Program.perform, service, apply, store, hids]
  | some ids => simp [TraceCall.program, Program.perform, service, apply, store, hids]

theorem exec_removeTraces (payloadIds : List PayloadId) :
    ((removeTraces payloadIds).exec service self).2 =
      { self with
        payloadId := payloadIds.foldl (fun table payloadId => table.remove payloadId)
          self.payloadId } := by
  induction payloadIds generalizing self with
  | nil => rfl
  | cons payloadId payloadIds ih => exact ih _

/-- Run alone, `remove_by_parent_hash` does what the handlers take it for. -/
theorem exec_removeByParentHash (blockHash : B256) :
    ((TraceCall.removeByParentHash blockHash).program.exec service self).2 =
      self.removeByParentHash blockHash := by
  simp only [TraceCall.program, access, Program.perform_bind, Program.exec_call, service, answer,
    removeByParentHash]
  cases hids : self.blockHashToPayloadIds blockHash with
  | none => simp [apply, Table.remove_of_eq_none _ hids]
  | some ids => exact exec_removeTraces ..

end PayloadTraceContext

/-! ## Every interleaving -/

namespace PayloadTraceContext

/-- The payload is listed under a parent, if the context has it. -/
def Listed (payloadId : PayloadId) (self : PayloadTraceContext) : Prop :=
  (self.payloadId payloadId).isSome = true →
    ∃ parentHash payloadIds, self.blockHashToPayloadIds parentHash = some payloadIds ∧
      payloadId ∈ payloadIds

/-- The payload may be missing from all lists after the operation. -/
def Unlists : (command : TraceCommand) → TraceAnswer command → PayloadId → Prop
  | .insertTrace inserted _, _, payloadId => inserted = payloadId
  | .upsertPayloadIds _ _, _, _ => False
  | .removePayloadIds _, payloadIds, payloadId => payloadId ∈ payloadIds.getD []
  | .removeTrace _, _, _ => False

/-- The payload is listed or gone after the operation. -/
def Lists : TraceCommand → PayloadId → Prop
  | .insertTrace _ _, _ => False
  | .upsertPayloadIds _ listed, payloadId => listed = payloadId
  | .removePayloadIds _, _ => False
  | .removeTrace removed, payloadId => removed = payloadId

variable {self : PayloadTraceContext} {payloadId : PayloadId}

/-- The list of a parent after a payload was put there. -/
theorem exists_upserted (self : PayloadTraceContext) (parentHash : B256) (payloadId : PayloadId) :
    ∃ payloadIds, (self.apply (.upsertPayloadIds parentHash payloadId)).blockHashToPayloadIds =
        self.blockHashToPayloadIds.insert parentHash payloadIds ∧ payloadId ∈ payloadIds ∧
      ∀ payloads, self.blockHashToPayloadIds parentHash = some payloads →
        ∀ other ∈ payloads, other ∈ payloadIds := by
  cases hids : self.blockHashToPayloadIds parentHash with
  | none => exact ⟨[payloadId], by simp [apply, hids], by simp, by simp⟩
  | some payloads => exact ⟨payloads ++ [payloadId], by simp [apply, hids], by simp, by simp_all⟩

theorem listed_or_unlists (command : TraceCommand) (h : self.Listed payloadId) :
    (self.apply command).Listed payloadId ∨ Unlists command (self.answer command) payloadId := by
  cases command with
  | insertTrace inserted trace =>
      by_cases heq : inserted = payloadId
      · exact .inr heq
      · refine .inl fun hsome => h ?_
        simpa only [apply, Table.insert_of_ne _ (Ne.symm heq)] using hsome
  | upsertPayloadIds parentHash listed =>
      refine .inl fun hsome => ?_
      obtain ⟨hash, payloads, hpayloads, hmem⟩ := h hsome
      obtain ⟨payloadIds, hupserted, -, hkept⟩ := self.exists_upserted parentHash listed
      by_cases heq : hash = parentHash
      · subst heq
        exact ⟨hash, payloadIds, by rw [hupserted, Table.insert_self],
          hkept payloads hpayloads payloadId hmem⟩
      · exact ⟨hash, payloads, by rw [hupserted, Table.insert_of_ne _ heq, hpayloads], hmem⟩
  | removePayloadIds blockHash =>
      by_cases hsome : (self.payloadId payloadId).isSome = true
      · obtain ⟨hash, payloads, hpayloads, hmem⟩ := h hsome
        by_cases heq : hash = blockHash
        · subst heq
          exact .inr (by simpa only [Unlists, answer, hpayloads, Option.getD_some] using hmem)
        · refine .inl fun _ => ⟨hash, payloads, ?_, hmem⟩
          simpa only [apply, Table.remove_of_ne _ heq] using hpayloads
      · exact .inl fun hafter => absurd hafter hsome
  | removeTrace removed =>
      refine .inl fun hsome => h ?_
      by_cases heq : payloadId = removed
      · simp [apply, heq] at hsome
      · simpa only [apply, Table.remove_of_ne _ heq] using hsome

theorem listed_of_lists {command : TraceCommand} (h : Lists command payloadId) :
    (self.apply command).Listed payloadId := by
  cases command with
  | insertTrace inserted trace => exact absurd h id
  | upsertPayloadIds parentHash listed =>
      obtain rfl : listed = payloadId := h
      obtain ⟨payloadIds, hupserted, hmem, -⟩ := self.exists_upserted parentHash listed
      exact fun _ => ⟨parentHash, payloadIds, by rw [hupserted, Table.insert_self], hmem⟩
  | removePayloadIds blockHash => exact absurd h id
  | removeTrace removed =>
      obtain rfl : removed = payloadId := h
      intro hsome
      simp [apply] at hsome

/-- Who takes a payload off the lists has to remove it, and who inserts one has to list it. -/
def duties : Duties PayloadId service where
  ok := Listed
  raises := Unlists
  settles := Lists
  ok_or_raises := listed_or_unlists
  ok_of_settles := listed_of_lists

theorem owes_removeTraces {payloadIds : List PayloadId} (h : payloadId ∈ payloadIds) :
    duties.Owes payloadId (removeTraces payloadIds) := by
  induction payloadIds with
  | nil => exact absurd h (by simp)
  | cons removed payloadIds ih =>
      obtain rfl | h := List.mem_cons.mp h
      · exact .inl rfl
      · exact .inr fun _ => ih h

theorem careful_removeTraces (payloadIds : List PayloadId) :
    duties.Careful (removeTraces payloadIds) := by
  induction payloadIds with
  | nil => trivial
  | cons removed payloadIds ih => exact fun _ => ⟨fun _ hraises => absurd hraises id, ih⟩

theorem careful_program (call : TraceCall) : duties.Careful call.program := by
  cases call with
  | store payloadId parentHash flag =>
      refine fun _ => ⟨?_, fun _ => ⟨fun _ hraises => absurd hraises id, trivial⟩⟩
      exact fun _ hinserted => .inl hinserted
  | removeByParentHash blockHash =>
      intro payloadIds
      cases payloadIds with
      | none => exact ⟨fun _ hraises => absurd hraises (by simp [duties, Unlists]), trivial⟩
      | some payloadIds => exact ⟨fun _ hmem => owes_removeTraces hmem, careful_removeTraces _⟩

end PayloadTraceContext

/-- In every interleaving of calls, whenever none is in progress, each payload of the context is
listed under a parent, and removing by this parent still deletes it. -/
theorem no_trace_is_stranded (events : List (Interleaved.Event TraceCall)) :
    let x := run (Interleaved.step PayloadTraceContext.service TraceCall.program)
      ⟨PayloadTraceContext.new, []⟩ events
    x.Quiet → ∀ payloadId, (x.state.payloadId payloadId).isSome = true →
      ∃ parentHash payloadIds, x.state.blockHashToPayloadIds parentHash = some payloadIds ∧
        payloadId ∈ payloadIds ∧
        ((TraceCall.removeByParentHash parentHash).program.exec PayloadTraceContext.service
          x.state).2.payloadId payloadId = none := by
  intro x hquiet payloadId hsome
  have hlisted : x.state.Listed payloadId :=
    PayloadTraceContext.duties.ok_of_run PayloadTraceContext.careful_program
      (fun _ hnew => absurd hnew (by simp [PayloadTraceContext.new])) events hquiet payloadId
  obtain ⟨parentHash, payloadIds, hids, hmem⟩ := hlisted hsome
  refine ⟨parentHash, payloadIds, hids, hmem, ?_⟩
  rw [PayloadTraceContext.exec_removeByParentHash,
    PayloadTraceContext.removeByParentHash_payloadId, hids, Option.getD_some, if_pos hmem]

/-- The list of the parent is taken away between the two halves of a `store`. -/
theorem store_during_removal_is_listed :
    let x := run (Interleaved.step PayloadTraceContext.service TraceCall.program)
      ⟨PayloadTraceContext.new, []⟩
      [.start (.store 1 5 true), .start (.removeByParentHash 5), .start (.store 2 5 true),
        .resume 0, .resume 0, .resume 2, .resume 1, .resume 2, .resume 1]
    ∃ parentHash payloadIds, x.state.blockHashToPayloadIds parentHash = some payloadIds ∧
      2 ∈ payloadIds ∧
      ((TraceCall.removeByParentHash parentHash).program.exec PayloadTraceContext.service
        x.state).2.payloadId 2 = none :=
  no_trace_is_stranded _ (by decide) 2 (by decide)

end RollupBoost
