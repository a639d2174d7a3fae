import RollupBoost.Engine.Payload
import Mathlib.Data.List.Basic

/-!
# The flashblock builder

`FlashblockBuilder` (`flashblocks/service.rs`) accumulates the deltas of one block.
It keeps neither the payload id nor the index of what it accepted: only a base, a
list of deltas, and the rule that the next index is the number of deltas.

`Builds builder sources` recovers what is lost. It says that the builder holds
exactly the base and the deltas of the messages `sources`, in order, and that
these are numbered from zero with a base on the first one only. A `TracedBuilder`
carries its sources together with that fact, so provenance can be stated about the
builder although the code forgets it.

`assemble` is the block that a list of messages stands for, written without the
builder. `buildEnvelope` computes it.
-/

namespace RollupBoost

/-- `serde_json::Value`; a number is kept as its text. -/
inductive Value where
  | null
  | bool (value : Bool)
  | number (text : String)
  | string (text : String)
  | array (items : List Value)
  | object (fields : List (String × Value))
  deriving Inhabited

/-- The part of an execution payload that one flashblock changes. -/
structure ExecutionPayloadFlashblockDeltaV1 where
  stateRoot : B256
  receiptsRoot : B256
  logsBloom : Bloom
  gasUsed : UInt64
  blockHash : B256
  transactions : List Bytes
  withdrawals : List Withdrawal
  withdrawalsRoot : B256
  blobGasUsed : Option UInt64
  deriving DecidableEq, Inhabited

/-- The part of an execution payload that is fixed when the block is begun. -/
structure ExecutionPayloadBaseV1 where
  parentBeaconBlockRoot : B256
  parentHash : B256
  feeRecipient : Address
  prevRandao : B256
  blockNumber : UInt64
  gasLimit : UInt64
  timestamp : UInt64
  extraData : Bytes
  baseFeePerGas : U256
  deriving DecidableEq, Inhabited

structure FlashblocksPayloadV1 where
  payloadId : PayloadId
  index : UInt64
  base : Option ExecutionPayloadBaseV1
  diff : ExecutionPayloadFlashblockDeltaV1
  metadata : Value
  deriving Inhabited

inductive FlashblocksError where
  | missingBasePayload
  | unexpectedBasePayload
  | missingDelta
  | invalidIndex
  | missingPayload
  deriving DecidableEq

def FlashblocksError.message : FlashblocksError → String
  | .missingBasePayload => "Missing base payload for initial flashblock"
  | .unexpectedBasePayload => "Unexpected base payload for non-initial flashblock"
  | .missingDelta => "Missing delta for flashblock"
  | .invalidIndex => "Invalid index for flashblock"
  | .missingPayload => "Missing payload"

structure FlashblockBuilder where
  base : Option ExecutionPayloadBaseV1
  flashblocks : List ExecutionPayloadFlashblockDeltaV1
  deriving DecidableEq

namespace FlashblockBuilder

def new : FlashblockBuilder := { base := none, flashblocks := [] }

/-- The mutated builder and the returned result. The length of a vector fits a
`u64`, so the cast of the comparison is the value of the index. -/
def extend (self : FlashblockBuilder) (payload : FlashblocksPayloadV1) :
    FlashblockBuilder × Except FlashblocksError Unit :=
  if payload.index.toNat ≠ self.flashblocks.length then
    (self, .error .invalidIndex)
  else if payload.index.toNat = 0 then
    match payload.base with
    | some base =>
        ({ base := some base, flashblocks := self.flashblocks ++ [payload.diff] }, .ok ())
    | none => (self, .error .missingBasePayload)
  else if payload.base.isSome then
    (self, .error .unexpectedBasePayload)
  else
    ({ self with flashblocks := self.flashblocks ++ [payload.diff] }, .ok ())

def buildEnvelope (self : FlashblockBuilder) (version : PayloadVersion) :
    Except FlashblocksError OpExecutionPayloadEnvelope :=
  match self.base with
  | none => .error .missingPayload
  | some base =>
    -- there must be at least one delta
    match self.flashblocks.getLast? with
    | none => .error .missingDelta
    | some diff =>
      let accumulated : List Bytes × List Withdrawal :=
        self.flashblocks.foldl
          (fun acc delta => (acc.1 ++ delta.transactions, acc.2 ++ delta.withdrawals)) ([], [])
      let executionPayload : ExecutionPayloadV3 :=
        { blobGasUsed := diff.blobGasUsed.getD 0
          excessBlobGas := 0
          payloadInner :=
            { withdrawals := accumulated.2
              payloadInner :=
                { parentHash := base.parentHash
                  feeRecipient := base.feeRecipient
                  stateRoot := diff.stateRoot
                  receiptsRoot := diff.receiptsRoot
                  logsBloom := diff.logsBloom
                  prevRandao := base.prevRandao
                  blockNumber := base.blockNumber
                  gasLimit := base.gasLimit
                  gasUsed := diff.gasUsed
                  timestamp := base.timestamp
                  extraData := base.extraData
                  baseFeePerGas := base.baseFeePerGas
                  blockHash := diff.blockHash
                  transactions := accumulated.1 } } }
      match version with
      | .v3 => .ok (.v3
          { parentBeaconBlockRoot := base.parentBeaconBlockRoot
            blockValue := 0
            blobsBundle := { commitments := [], proofs := [], blobs := [] }
            shouldOverrideBuilder := false
            executionPayload := executionPayload })
      | .v4 => .ok (.v4
          { parentBeaconBlockRoot := base.parentBeaconBlockRoot
            blockValue := 0
            blobsBundle := { commitments := [], proofs := [], blobs := [] }
            shouldOverrideBuilder := false
            executionPayload :=
              { withdrawalsRoot := diff.withdrawalsRoot, payloadInner := executionPayload }
            executionRequests := [] })

def intoEnvelope (self : FlashblockBuilder) (version : PayloadVersion) :
    Except FlashblocksError OpExecutionPayloadEnvelope :=
  self.buildEnvelope version

theorem buildEnvelope_version {self : FlashblockBuilder} {version : PayloadVersion}
    {envelope : OpExecutionPayloadEnvelope} (h : self.buildEnvelope version = .ok envelope) :
    envelope.version = version := by
  simp only [buildEnvelope] at h
  cases hbase : self.base with
  | none => simp [hbase] at h
  | some base =>
      cases hlast : self.flashblocks.getLast? with
      | none => simp [hbase, hlast] at h
      | some diff =>
          cases version <;>
          · simp only [hbase, hlast, Except.ok.injEq] at h
            subst h
            rfl

/-- The acceptance rule of `extend`: the next index, and a base exactly on index zero. -/
def Accepts (self : FlashblockBuilder) (payload : FlashblocksPayloadV1) : Prop :=
  payload.index.toNat = self.flashblocks.length ∧
    (payload.base.isSome = true ↔ payload.index.toNat = 0)

instance (self : FlashblockBuilder) (payload : FlashblocksPayloadV1) :
    Decidable (self.Accepts payload) :=
  inferInstanceAs (Decidable (_ ∧ _))

/-- The builder after an accepted message. -/
def push (self : FlashblockBuilder) (payload : FlashblocksPayloadV1) : FlashblockBuilder where
  base := payload.base.or self.base
  flashblocks := self.flashblocks ++ [payload.diff]

/-- All that `extend` can do: push an accepted message, or fail and change nothing. -/
theorem extend_cases (self : FlashblockBuilder) (payload : FlashblocksPayloadV1) :
    (self.Accepts payload ∧ self.extend payload = (self.push payload, .ok ())) ∨
    (¬ self.Accepts payload ∧ ∃ e, self.extend payload = (self, .error e)) := by
  simp only [extend, Accepts, push]
  by_cases hindex : payload.index.toNat = self.flashblocks.length
  · rw [if_neg (not_not_intro hindex)]
    by_cases hzero : payload.index.toNat = 0
    · cases hbase : payload.base with
      | none => right; simp [hzero]
      | some base => left; simp [hzero, ← hindex]
    · cases hbase : payload.base with
      | none => exact .inl ⟨⟨hindex, by simp [hzero]⟩, by simp [hzero]⟩
      | some base => right; simp [hzero]
  · right
    simp [hindex]

theorem extend_of_accepts {self : FlashblockBuilder} {payload : FlashblocksPayloadV1}
    (h : self.Accepts payload) : self.extend payload = (self.push payload, .ok ()) := by
  obtain ⟨-, heq⟩ | ⟨hn, -⟩ := self.extend_cases payload
  · exact heq
  · exact absurd h hn

theorem extend_of_not_accepts {self : FlashblockBuilder} {payload : FlashblocksPayloadV1}
    (h : ¬ self.Accepts payload) : ∃ e, self.extend payload = (self, .error e) := by
  obtain ⟨ha, -⟩ | ⟨-, heq⟩ := self.extend_cases payload
  · exact absurd ha h
  · exact heq

end FlashblockBuilder

/-- The builder holds exactly the base and the deltas of `sources`. -/
structure Builds (builder : FlashblockBuilder) (sources : List FlashblocksPayloadV1) : Prop where
  base : builder.base = sources.head?.bind (·.base)
  deltas : builder.flashblocks = sources.map (·.diff)
  indices : sources.map (·.index.toNat) = List.range sources.length
  bases : ∀ m ∈ sources, m.base.isSome = true ↔ m.index.toNat = 0

namespace Builds

variable {builder : FlashblockBuilder} {sources : List FlashblocksPayloadV1}
variable {payload : FlashblocksPayloadV1}

theorem new : Builds .new [] := ⟨rfl, rfl, rfl, by simp⟩

theorem length_eq (h : Builds builder sources) :
    builder.flashblocks.length = sources.length := by
  rw [h.deltas, List.length_map]

/-- Acceptance keeps the correspondence, with the message as the newest source. -/
theorem push (h : Builds builder sources) (accepted : builder.Accepts payload) :
    Builds (builder.push payload) (sources ++ [payload]) := by
  obtain ⟨hindex, hbase⟩ := accepted
  rw [h.length_eq] at hindex
  refine ⟨?_, ?_, ?_, ?_⟩
  · cases hsources : sources with
    | nil =>
        have hempty : builder.base = none := by simp [h.base, hsources]
        simp [FlashblockBuilder.push, hempty]
    | cons first rest =>
        have hlate : payload.base.isSome ≠ true := by
          rw [Ne, hbase, hindex, hsources]
          simp
        have hnone : payload.base = none := by simpa using hlate
        simp [FlashblockBuilder.push, hnone, h.base, hsources]
  · simp [FlashblockBuilder.push, h.deltas]
  · simp [h.indices, hindex, List.range_succ]
  · intro m hm
    rcases List.mem_append.mp hm with hm | hm
    · exact h.bases m hm
    · rw [List.mem_singleton.mp hm]
      exact hbase

/-- The first source is numbered zero, and every later one has a successor for its index. -/
theorem indices_cons {first : FlashblocksPayloadV1} {rest : List FlashblocksPayloadV1}
    (h : Builds builder (first :: rest)) :
    first.index.toNat = 0 ∧
      rest.map (·.index.toNat) = (List.range rest.length).map Nat.succ := by
  have hindices := h.indices
  rw [List.map_cons, List.length_cons, List.range_succ_eq_map, List.cons.injEq] at hindices
  exact hindices

/-- A builder has a base exactly when it has a delta. -/
theorem base_isSome_iff (h : Builds builder sources) :
    builder.base.isSome = true ↔ 0 < sources.length := by
  cases sources with
  | nil => simp [h.base]
  | cons first rest =>
      have hsome := (h.bases first (by simp)).mpr h.indices_cons.1
      simpa [h.base] using hsome

/-- The base in use is that of the message numbered zero. -/
theorem base_of_index_zero (h : Builds builder sources) (hm : payload ∈ sources)
    (hzero : payload.index.toNat = 0) : builder.base = payload.base := by
  cases sources with
  | nil => exact absurd hm (by simp)
  | cons first rest =>
      obtain rfl | hrest := List.mem_cons.mp hm
      · exact h.base
      · have hmem : payload.index.toNat ∈ rest.map (·.index.toNat) :=
          List.mem_map_of_mem hrest
        rw [h.indices_cons.2, hzero] at hmem
        simp at hmem

end Builds

/-- A builder together with the messages it was built from. The code keeps only the
builder; the sources are what its content is provably the content of. -/
structure TracedBuilder where
  builder : FlashblockBuilder
  sources : List FlashblocksPayloadV1
  builds : Builds builder sources

namespace TracedBuilder

def new : TracedBuilder := ⟨.new, [], .new⟩

def extend (self : TracedBuilder) (payload : FlashblocksPayloadV1) :
    TracedBuilder × Except FlashblocksError Unit :=
  if h : self.builder.Accepts payload then
    (⟨self.builder.push payload, self.sources ++ [payload], self.builds.push h⟩, .ok ())
  else
    (self, (self.builder.extend payload).2)

/-- Tracing does not change what the builder does. -/
theorem extend_erases (self : TracedBuilder) (payload : FlashblocksPayloadV1) :
    ((self.extend payload).1.builder, (self.extend payload).2) = self.builder.extend payload := by
  simp only [extend]
  split
  · next h => rw [FlashblockBuilder.extend_of_accepts h]
  · next h =>
      obtain ⟨e, he⟩ := FlashblockBuilder.extend_of_not_accepts h
      rw [he]

end TracedBuilder

/-- The block that a list of flashblocks stands for: the immutable fields of the
first one's base, the header fields of the last delta, and the transactions and
withdrawals of all of them in order. -/
def assemble (version : PayloadVersion) (sources : List FlashblocksPayloadV1) :
    Option OpExecutionPayloadEnvelope := do
  let base ← sources.head?.bind (·.base)
  let last ← sources.getLast?
  let executionPayload : ExecutionPayloadV3 :=
    { payloadInner :=
        { payloadInner :=
            { parentHash := base.parentHash
              feeRecipient := base.feeRecipient
              stateRoot := last.diff.stateRoot
              receiptsRoot := last.diff.receiptsRoot
              logsBloom := last.diff.logsBloom
              prevRandao := base.prevRandao
              blockNumber := base.blockNumber
              gasLimit := base.gasLimit
              gasUsed := last.diff.gasUsed
              timestamp := base.timestamp
              extraData := base.extraData
              baseFeePerGas := base.baseFeePerGas
              blockHash := last.diff.blockHash
              transactions := sources.flatMap (·.diff.transactions) }
          withdrawals := sources.flatMap (·.diff.withdrawals) }
      blobGasUsed := last.diff.blobGasUsed.getD 0
      excessBlobGas := 0 }
  match version with
  | .v3 => some (.v3
      { executionPayload := executionPayload
        blockValue := 0
        blobsBundle := { commitments := [], proofs := [], blobs := [] }
        shouldOverrideBuilder := false
        parentBeaconBlockRoot := base.parentBeaconBlockRoot })
  | .v4 => some (.v4
      { executionPayload :=
          { payloadInner := executionPayload, withdrawalsRoot := last.diff.withdrawalsRoot }
        blockValue := 0
        blobsBundle := { commitments := [], proofs := [], blobs := [] }
        shouldOverrideBuilder := false
        parentBeaconBlockRoot := base.parentBeaconBlockRoot
        executionRequests := [] })

/-- The pair that `build_envelope` folds over the deltas is two concatenations. -/
theorem foldl_accumulate (deltas : List ExecutionPayloadFlashblockDeltaV1)
    (acc : List Bytes × List Withdrawal) :
    deltas.foldl (fun acc delta => (acc.1 ++ delta.transactions, acc.2 ++ delta.withdrawals)) acc =
      (acc.1 ++ deltas.flatMap (·.transactions), acc.2 ++ deltas.flatMap (·.withdrawals)) := by
  induction deltas generalizing acc with
  | nil => simp
  | cons delta deltas ih => simp [ih]

/-- Sources with a first one have a last one. -/
theorem exists_getLast? {sources : List FlashblocksPayloadV1} {base : ExecutionPayloadBaseV1}
    (h : sources.head?.bind (·.base) = some base) : ∃ last, sources.getLast? = some last := by
  have hne : sources ≠ [] := by
    rintro rfl
    simp at h
  exact ⟨sources.getLast hne, List.getLast?_eq_some_getLast hne⟩

/-- `build_envelope` computes the assembly of the builder's sources; without
sources it reports a missing payload, and never a missing delta. -/
theorem Builds.buildEnvelope_eq {builder : FlashblockBuilder}
    {sources : List FlashblocksPayloadV1} (h : Builds builder sources)
    (version : PayloadVersion) :
    builder.buildEnvelope version =
      (match assemble version sources with
        | some envelope => .ok envelope
        | none => .error .missingPayload) := by
  simp only [FlashblockBuilder.buildEnvelope, assemble]
  rw [h.base, h.deltas, List.getLast?_map, foldl_accumulate]
  cases hbase : sources.head?.bind (·.base) with
  | none => rfl
  | some base =>
      obtain ⟨last, hlast⟩ := exists_getLast? hbase
      rw [hlast]
      cases version <;> simp [List.flatMap_map]

/-- A non-empty list of sources assembles to a block in the version asked for. -/
theorem Builds.assemble_isSome {builder : FlashblockBuilder}
    {sources : List FlashblocksPayloadV1} (h : Builds builder sources)
    (version : PayloadVersion) :
    (assemble version sources).isSome = true ↔ 0 < sources.length := by
  rw [← h.base_isSome_iff, h.base]
  simp only [assemble]
  cases hbase : sources.head?.bind (·.base) with
  | none => simp
  | some base =>
      obtain ⟨last, hlast⟩ := exists_getLast? hbase
      rw [hlast]
      cases version <;> simp

theorem assemble_transactions {version : PayloadVersion} {sources : List FlashblocksPayloadV1}
    {envelope : OpExecutionPayloadEnvelope} (h : assemble version sources = some envelope) :
    envelope.transactions = sources.flatMap (·.diff.transactions) ∧
      envelope.version = version := by
  simp only [assemble] at h
  obtain ⟨base, -, h⟩ := Option.bind_eq_some_iff.mp h
  obtain ⟨last, -, h⟩ := Option.bind_eq_some_iff.mp h
  cases version <;>
  · obtain rfl := Option.some.inj h
    exact ⟨rfl, rfl⟩

/-- A builder with sources gives a block in every version, with the same
transactions. -/
theorem Builds.exists_envelope {builder : FlashblockBuilder} {sources : List FlashblocksPayloadV1}
    (h : Builds builder sources) (hne : 0 < sources.length) (version : PayloadVersion) :
    ∃ envelope, builder.buildEnvelope version = .ok envelope ∧
      envelope.version = version ∧
      envelope.transactions = sources.flatMap (·.diff.transactions) := by
  obtain ⟨envelope, heq⟩ := Option.isSome_iff_exists.mp ((h.assemble_isSome version).mpr hne)
  obtain ⟨htxs, hversion⟩ := assemble_transactions heq
  refine ⟨envelope, ?_, hversion, htxs⟩
  rw [h.buildEnvelope_eq, heq]

/-! ## Any sequence of messages -/

/-- The builder after a sequence of messages, and those of them that it accepted. -/
def FlashblockBuilder.extendAll (self : FlashblockBuilder) :
    List FlashblocksPayloadV1 → FlashblockBuilder × List FlashblocksPayloadV1
  | [] => (self, [])
  | payload :: rest =>
      match self.extend payload with
      | (next, .ok _) => ((next.extendAll rest).1, payload :: (next.extendAll rest).2)
      | (next, .error _) => next.extendAll rest

/-- The greedy choice, once `taken` messages have been taken: the next one is the first whose
index is `taken` and that has a base exactly if `taken` is zero. -/
def greedy (taken : Nat) : List FlashblocksPayloadV1 → List FlashblocksPayloadV1
  | [] => []
  | payload :: rest =>
      if payload.index.toNat = taken ∧ (payload.base.isSome = true ↔ taken = 0) then
        payload :: greedy (taken + 1) rest
      else greedy taken rest

theorem greedy_sublist (taken : Nat) (payloads : List FlashblocksPayloadV1) :
    (greedy taken payloads).Sublist payloads := by
  induction payloads generalizing taken with
  | nil => exact .slnil
  | cons payload rest ih =>
      simp only [greedy]
      split
      · exact (ih (taken + 1)).cons_cons payload
      · exact (ih taken).cons payload

namespace Builds

variable {builder : FlashblockBuilder} {sources : List FlashblocksPayloadV1}

theorem accepts_iff (h : Builds builder sources) (payload : FlashblocksPayloadV1) :
    builder.Accepts payload ↔
      payload.index.toNat = sources.length ∧
        (payload.base.isSome = true ↔ sources.length = 0) := by
  rw [FlashblockBuilder.Accepts, h.length_eq]
  refine and_congr_right fun hindex => ?_
  rw [hindex]

/-- From any builder on, what is accepted is the greedy choice, and it is what the builder
holds beyond what it held before. -/
theorem extendAll (h : Builds builder sources) (payloads : List FlashblocksPayloadV1) :
    (builder.extendAll payloads).2 = greedy sources.length payloads ∧
      Builds (builder.extendAll payloads).1 (sources ++ (builder.extendAll payloads).2) := by
  induction payloads generalizing builder sources with
  | nil => exact ⟨rfl, by simpa [FlashblockBuilder.extendAll] using h⟩
  | cons payload rest ih =>
      simp only [FlashblockBuilder.extendAll, greedy]
      obtain ⟨haccepts, heq⟩ | ⟨hrejects, e, heq⟩ := builder.extend_cases payload
      · obtain ⟨hgreedy, hbuilds⟩ := ih (h.push haccepts)
        rw [heq, if_pos ((h.accepts_iff payload).mp haccepts)]
        refine ⟨?_, ?_⟩
        · simp only
          rw [hgreedy, List.length_append, List.length_singleton]
        · rwa [List.append_assoc] at hbuilds
      · rw [heq, if_neg (fun hnext => hrejects ((h.accepts_iff payload).mpr hnext))]
        exact ih h

/-- The `k`-th source is numbered `k`, and has a base exactly if it is the first. -/
theorem getElem_index (h : Builds builder sources) {k : Nat} (hk : k < sources.length) :
    sources[k].index.toNat = k ∧ (sources[k].base.isSome = true ↔ k = 0) := by
  have hindex : sources[k].index.toNat = k := by
    have hmap : (sources.map (·.index.toNat))[k]? = (List.range sources.length)[k]? := by
      rw [h.indices]
    simpa [hk] using hmap
  refine ⟨hindex, ?_⟩
  have hbase := h.bases sources[k] (List.getElem_mem hk)
  rwa [hindex] at hbase

end Builds

/-- The block of version 4 is that of version 3 with the withdrawals root around it. -/
theorem assemble_payloadInner {sources : List FlashblocksPayloadV1}
    {v3 : OpExecutionPayloadEnvelopeV3} {v4 : OpExecutionPayloadEnvelopeV4}
    (h3 : assemble .v3 sources = some (.v3 v3)) (h4 : assemble .v4 sources = some (.v4 v4)) :
    v4.executionPayload.payloadInner = v3.executionPayload := by
  simp only [assemble] at h3 h4
  obtain ⟨base, hbase, h3⟩ := Option.bind_eq_some_iff.mp h3
  obtain ⟨last, hlast, h3⟩ := Option.bind_eq_some_iff.mp h3
  rw [hbase, hlast] at h4
  simp only [Option.bind_eq_bind, Option.bind_some, Option.some.injEq,
    OpExecutionPayloadEnvelope.v3.injEq, OpExecutionPayloadEnvelope.v4.injEq] at h3 h4
  rw [← h3, ← h4]

/-- Over every sequence of messages: a rejected one changes nothing, the accepted ones are the
greedy choice, and the envelope in either version is the assembly of the accepted ones, which
exists unless nothing was accepted. -/
theorem extend_is_greedy (payloads : List FlashblocksPayloadV1) :
    let builder := (FlashblockBuilder.new.extendAll payloads).1
    let accepted := (FlashblockBuilder.new.extendAll payloads).2
    (∀ (held : FlashblockBuilder) payload,
      (held.extend payload).2 ≠ .ok () → (held.extend payload).1 = held) ∧
    accepted = greedy 0 payloads ∧ accepted.Sublist payloads ∧
    (∀ k (hk : k < accepted.length),
      accepted[k].index.toNat = k ∧ (accepted[k].base.isSome = true ↔ k = 0)) ∧
    (∀ version, ((∃ e, builder.buildEnvelope version = .error e) ↔ accepted = []) ∧
      ∀ envelope, builder.buildEnvelope version = .ok envelope ↔
        assemble version accepted = some envelope) ∧
    ∀ v3 v4, builder.buildEnvelope .v3 = .ok (.v3 v3) → builder.buildEnvelope .v4 = .ok (.v4 v4) →
      v4.executionPayload.payloadInner = v3.executionPayload := by
  intro builder accepted
  obtain ⟨hgreedy, hbuilds⟩ : accepted = greedy 0 payloads ∧ Builds builder accepted :=
    Builds.new.extendAll payloads
  have henvelope : ∀ version envelope, builder.buildEnvelope version = .ok envelope ↔
      assemble version accepted = some envelope := by
    intro version envelope
    rw [hbuilds.buildEnvelope_eq version]
    cases assemble version accepted <;> simp
  refine ⟨?_, hgreedy, ?_, fun k hk => hbuilds.getElem_index hk, fun version => ⟨?_, ?_⟩, ?_⟩
  · intro held payload hrejected
    obtain ⟨-, heq⟩ | ⟨-, e, heq⟩ := held.extend_cases payload
    · exact absurd (by rw [heq]) hrejected
    · rw [heq]
  · rw [hgreedy]
    exact greedy_sublist 0 payloads
  · have hsome := hbuilds.assemble_isSome version
    rw [List.length_pos_iff, Option.isSome_iff_exists] at hsome
    rw [← not_iff_not, ← ne_eq accepted, ← hsome]
    refine Iff.trans ?_ (exists_congr (henvelope version))
    cases builder.buildEnvelope version <;> simp
  · exact henvelope version
  · intro v3 v4 h3 h4
    exact assemble_payloadInner ((henvelope .v3 _).mp h3) ((henvelope .v4 _).mp h4)

end RollupBoost
