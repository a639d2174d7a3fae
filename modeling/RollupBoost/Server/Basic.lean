import RollupBoost.Engine.Client
import RollupBoost.Machine.Outcome

/-!
# The state of the server

`RollupBoostServer` (`server.rs`) relays the Engine API calls of op-node to the L2
client and shares some of them with a builder. Its mutable state is the builder
client, the execution mode, the health probe, the trace context, and the table of
forkchoice requests that the external state root needs. What is fixed at
construction is a `ServerConfig`.

The trace context is two caches of bounded size. Here they are tables, and an entry
may be evicted at any time by an event of its own. Trace ids, spans and metrics are
left out.
-/

namespace RollupBoost

open Machine

inductive ExecutionMode where
  | enabled
  | dryRun
  | disabled
  deriving DecidableEq

namespace ExecutionMode

def isDryRun (mode : ExecutionMode) : Bool := mode = .dryRun

def isDisabled (mode : ExecutionMode) : Bool := mode = .disabled

def isEnabled (mode : ExecutionMode) : Bool := mode = .enabled

end ExecutionMode

inductive Health where
  | healthy
  | partialContent
  | serviceUnavailable
  deriving DecidableEq

/-! ## Block selection -/

/-- The value of `n as f64`, also of a product that is rounded once: the nearest
number with 53 significant bits, ties to even. -/
def roundToDouble (n : Nat) : Nat :=
  let unit := 1 <<< (n.log2 + 1 - 53)
  let quotient := n / unit
  let remainder := n % unit
  if 2 * remainder < unit ∨ (2 * remainder = unit ∧ quotient % 2 = 0) then
    quotient * unit
  else
    (quotient + 1) * unit

inductive BlockSelectionPolicy where
  | gasUsed
  deriving DecidableEq

/-- `builder_gas < l2_gas * 0.1` on doubles. The constant is `3602879701896397 / 2 ^ 55`,
so the comparison with the rounded product is made on integers. Irreducible, since
unification would otherwise unfold products with large literals. -/
@[irreducible] def belowTenth (builderGas l2Gas : UInt64) : Bool :=
  decide (roundToDouble builderGas.toNat <<< 55 <
    roundToDouble (roundToDouble l2Gas.toNat * 3602879701896397))

/-- A builder block below a tenth of the gas is taken for empty or underfilled. -/
def BlockSelectionPolicy.selectBlock : BlockSelectionPolicy → OpExecutionPayloadEnvelope →
    OpExecutionPayloadEnvelope → OpExecutionPayloadEnvelope × PayloadSource
  | .gasUsed, builderPayload, l2Payload =>
      if belowTenth builderPayload.gasUsed l2Payload.gasUsed then
        (l2Payload, .l2)
      else
        (builderPayload, .builder)

/-! ## Trace context -/

structure PayloadTrace where
  builderHasPayload : Bool

structure PayloadTraceContext where
  blockHashToPayloadIds : Table B256 (List PayloadId)
  payloadId : Table PayloadId PayloadTrace

namespace PayloadTraceContext

def new : PayloadTraceContext :=
  { blockHashToPayloadIds := .empty, payloadId := .empty }

def store (self : PayloadTraceContext) (payloadId : PayloadId) (parentHash : B256)
    (builderHasPayload : Bool) : PayloadTraceContext where
  payloadId := self.payloadId.insert payloadId { builderHasPayload := builderHasPayload }
  blockHashToPayloadIds :=
    self.blockHashToPayloadIds.insert parentHash
      ((self.blockHashToPayloadIds parentHash).getD [] ++ [payloadId])

def hasBuilderPayload (self : PayloadTraceContext) (payloadId : PayloadId) : Bool :=
  ((self.payloadId payloadId).map (·.builderHasPayload)).getD false

def removeByParentHash (self : PayloadTraceContext) (blockHash : B256) : PayloadTraceContext :=
  match self.blockHashToPayloadIds blockHash with
  | some payloadIds =>
      { blockHashToPayloadIds := self.blockHashToPayloadIds.remove blockHash
        payloadId := payloadIds.foldl (fun table payloadId => table.remove payloadId)
          self.payloadId }
  | none => self

variable {self : PayloadTraceContext} {payloadId other : PayloadId} {hash : B256} {flag : Bool}

@[simp] theorem hasBuilderPayload_new : new.hasBuilderPayload payloadId = false := rfl

@[simp] theorem hasBuilderPayload_store_self :
    (self.store payloadId hash flag).hasBuilderPayload payloadId = flag := by
  simp [hasBuilderPayload, store]

theorem hasBuilderPayload_store_of_ne (h : other ≠ payloadId) :
    (self.store payloadId hash flag).hasBuilderPayload other = self.hasBuilderPayload other := by
  simp [hasBuilderPayload, store, Table.insert_of_ne _ h]

/-- Removing entries can only forget that the builder has a payload. -/
theorem hasBuilderPayload_of_remove {table : Table PayloadId PayloadTrace}
    (hremoved : table other = none ∨ table other = self.payloadId other)
    (h : PayloadTraceContext.hasBuilderPayload
      { blockHashToPayloadIds := self.blockHashToPayloadIds, payloadId := table } other = true) :
    self.hasBuilderPayload other = true := by
  simp only [hasBuilderPayload] at h ⊢
  obtain hnone | hsame := hremoved
  · simp [hnone] at h
  · simpa only [hsame] using h

theorem foldl_remove_apply (ids : List PayloadId) (table : Table PayloadId PayloadTrace)
    (payloadId : PayloadId) :
    ids.foldl (fun table id => table.remove id) table payloadId =
      if payloadId ∈ ids then none else table payloadId := by
  induction ids generalizing table with
  | nil => rfl
  | cons id ids ih =>
      rw [List.foldl_cons, ih]
      by_cases heq : payloadId = id
      · simp [heq]
      · simp [heq, Table.remove_of_ne _ heq]

/-- The entries that are listed under the hash are removed, and no others. -/
theorem removeByParentHash_payloadId :
    (self.removeByParentHash hash).payloadId payloadId =
      if payloadId ∈ (self.blockHashToPayloadIds hash).getD [] then none
      else self.payloadId payloadId := by
  simp only [removeByParentHash]
  cases hids : self.blockHashToPayloadIds hash with
  | none => simp
  | some ids => exact foldl_remove_apply ids self.payloadId payloadId

theorem removeByParentHash_blockHashToPayloadIds :
    (self.removeByParentHash hash).blockHashToPayloadIds =
      self.blockHashToPayloadIds.remove hash := by
  simp only [removeByParentHash]
  cases hids : self.blockHashToPayloadIds hash with
  | none => exact (Table.remove_of_eq_none _ hids).symm
  | some ids => rfl

theorem hasBuilderPayload_of_removeByParentHash
    (h : (self.removeByParentHash hash).hasBuilderPayload payloadId = true) :
    self.hasBuilderPayload payloadId = true := by
  have hremoved : (self.removeByParentHash hash).payloadId payloadId = none ∨
      (self.removeByParentHash hash).payloadId payloadId = self.payloadId payloadId := by
    rw [removeByParentHash_payloadId]
    split
    · exact .inl rfl
    · exact .inr rfl
  exact hasBuilderPayload_of_remove hremoved h

end PayloadTraceContext

/-! ## The server -/

structure ServerConfig where
  blockSelectionPolicy : Option BlockSelectionPolicy
  externalStateRoot : Bool
  ignoreUnhealthyBuilders : Bool
  /-- The bound of the health check on the age of the latest block, in seconds. -/
  maxUnsafeInterval : UInt64

/-- A call to the builder that was spawned and not awaited. -/
inductive BuilderTask where
  | forkChoiceUpdatedV3 (state : ForkchoiceState) (attributes : Option OpPayloadAttributes)
  | newPayload (payload : NewPayload)

structure RollupBoostServer (T : Type) where
  builderClient : T
  payloadTraceContext : PayloadTraceContext
  executionMode : ExecutionMode
  health : Health
  payloadToFcuRequest : Table PayloadId (ForkchoiceState × Option OpPayloadAttributes)
  /-- Spawned calls that have not run yet. -/
  spawned : List BuilderTask

/-- Why a request was sent to the L2 client. -/
inductive Origin where
  /-- The handler relays a call of op-node. -/
  | opNode
  /-- `get_payload` validates a builder block. -/
  | validation
  /-- `calculate_external_state_root` rebuilds a builder block. -/
  | stateRoot
  /-- The health check looks at the latest block. -/
  | health
  deriving DecidableEq

/-- The answers of both endpoints while one handler runs. The L2 client may be asked
twice with one method, so what is asked on account of the builder has its own answers. -/
structure Answers where
  l2 : AuthClient
  l2Inner : AuthClient
  builder : AuthClient

/-- What a handler returns, what it leaves behind and what it sent. -/
structure Handled (T α : Type) where
  response : Outcome ErrorObject α
  server : RollupBoostServer T
  l2Requests : List (Origin × Exchange)
  builderRequests : List Exchange

namespace RollupBoostServer

variable {T : Type}

/-- The probe starts out healthy. -/
def new (builderClient : T) (initialExecutionMode : ExecutionMode) : RollupBoostServer T where
  builderClient := builderClient
  payloadTraceContext := .new
  executionMode := initialExecutionMode
  health := .healthy
  payloadToFcuRequest := .empty
  spawned := []

def setHealth (self : RollupBoostServer T) (health : Health) : RollupBoostServer T :=
  { self with health := health }

def spawn (self : RollupBoostServer T) (task : BuilderTask) : RollupBoostServer T :=
  { self with spawned := self.spawned ++ [task] }

def shouldSkipUnhealthyBuilder (config : ServerConfig) (self : RollupBoostServer T) : Bool :=
  config.ignoreUnhealthyBuilders && decide (self.health ≠ .healthy)

end RollupBoostServer

end RollupBoost
