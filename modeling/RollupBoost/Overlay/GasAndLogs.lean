import Mathlib.Algebra.Order.Group.Nat
import RollupBoost.Machine.Telescope
import RollupBoost.Overlay.Malformed
import RollupBoost.Overlay.ShownBlock

/-!
# Gas and logs of the pending receipts

The receipts of a block give the gas of all transactions so far. To build the receipt of one
transaction, the second loop of `process_payload` carries two numbers from one transaction to the
next: the gas before it, which it subtracts, and the number of logs before it. The loop starts
again from zero with every flashblock.

`receiptInputs` is what the loop hands to the receipt builder. It does not depend on what the
builder makes of it, so building comes after it as a loop of its own. The two numbers are the
differences and the offsets of `Telescope`, and what is known of these is known of the receipts.
All receipts of a block are in memory, so the number of their logs does not overflow.
-/

namespace RollupBoost

open Machine

variable {Tx Receipt L1BlockInfo RpcReceipt : Type}

/-- A transaction with its receipt in the metadata and its signer. -/
structure SignedReceipt (lib : NodeLibrary Tx Receipt L1BlockInfo RpcReceipt)
    (metadata : Metadata Receipt) where
  tx : Tx
  receipt : Receipt
  recovered : Recovered Tx
  isReceipt : metadata.receipts (lib.receiptKey tx) = some receipt
  isRecovered : lib.tryToRecoveredRef tx = .ok recovered

namespace FlashblocksCacheInner

variable (lib : NodeLibrary Tx Receipt L1BlockInfo RpcReceipt) {metadata : Metadata Receipt}

/-- What the second loop hands to the receipt builder, with the position, the gas and the logs
that it has come to. -/
def receiptInputs (block : OpBlock Tx) : List (SignedReceipt lib metadata) → Nat → UInt64 → Nat →
    List (ConvertReceiptInput Tx Receipt)
  | [], _, _, _ => []
  | entry :: entries, indx, gasUsed, nextLogIndex =>
      { receipt := entry.receipt
        tx := entry.recovered
        gasUsed := lib.cumulativeGasUsed entry.receipt - gasUsed
        nextLogIndex := nextLogIndex
        info :=
          { txHash := lib.txHash entry.tx
            index := UInt64.ofNat indx
            blockHash := lib.hashSlow block
            blockNumber := block.header.number
            baseFee := block.header.baseFeePerGas
            excessBlobGas := block.header.excessBlobGas
            timestamp := block.header.timestamp } } ::
        receiptInputs block entries (indx + 1) (lib.cumulativeGasUsed entry.receipt)
          (nextLogIndex + lib.logsLen entry.receipt)

/-- What the loop hands to the receipt builder for a whole block. -/
def handedInputs (block : OpBlock Tx) (entries : List (SignedReceipt lib metadata)) :
    List (ConvertReceiptInput Tx Receipt) :=
  receiptInputs lib block entries 0 0 0

/-- The receipt builder works on the inputs one after the other, and each receipt goes into the
cache. -/
def buildAll : List (ConvertReceiptInput Tx Receipt) → L1BlockInfo → Table B256 RpcReceipt →
    Outcome String (Table B256 RpcReceipt)
  | [], _, receiptsCache => .ok receiptsCache
  | input :: inputs, l1BlockInfo, receiptsCache => do
      let (rpcReceipt, l1BlockInfo) ← Outcome.expect "failed to build receipt"
        (lib.opReceiptBuilder input l1BlockInfo).toOption
      buildAll inputs l1BlockInfo (receiptsCache.insert input.info.txHash rpcReceipt)

/-- The receipts of the block were built from these inputs, if it has any. -/
def BuiltFrom (body : BlockBody Tx) (inputs : List (ConvertReceiptInput Tx Receipt))
    (before after : Table B256 RpcReceipt) : Prop :=
  (inputs = [] ∧ after = before) ∨
    ∃ l1BlockInfo, lib.extractL1Info body = .ok l1BlockInfo ∧
      buildAll lib inputs l1BlockInfo before = .ok after

variable {lib} {block : OpBlock Tx}

/-! ## The loop -/

/-- The second loop hands the inputs to the builder and does nothing else. -/
theorem buildReceipts_eq_buildAll (entries : List (SignedReceipt lib metadata))
    {allReceipts : List Receipt} {indx : Nat}
    (hdrop : allReceipts.drop indx = entries.map (·.receipt))
    (loop : ReceiptLoop L1BlockInfo RpcReceipt) :
    (buildReceipts lib block (lib.hashSlow block) allReceipts (entries.map (·.tx)) indx loop >>=
        fun final => .ok final.receiptsCache) =
      buildAll lib (receiptInputs lib block entries indx loop.gasUsed loop.nextLogIndex)
        loop.l1BlockInfo loop.receiptsCache := by
  induction entries generalizing indx loop with
  | nil => rfl
  | cons entry entries ih =>
      obtain ⟨hget, hnext⟩ := next_receipt hdrop
      simp only [List.map_cons, buildReceipts, hget, Outcome.expect, Outcome.ok_bind,
        entry.isRecovered, Outcome.ofExcept_ok, receiptInputs, buildAll]
      split
      · exact ih hnext _
      · rfl

/-- As long as the gas does not decrease, no subtraction of the loop fails its check. -/
theorem buildReceiptsWith_of_le (entries : List (SignedReceipt lib metadata)) {blockHash : B256}
    {allReceipts : List Receipt} {indx : Nat}
    (hdrop : allReceipts.drop indx = entries.map (·.receipt))
    (loop : ReceiptLoop L1BlockInfo RpcReceipt)
    (hle : (loop.gasUsed :: entries.map fun entry =>
      lib.cumulativeGasUsed entry.receipt).Pairwise (· ≤ ·)) :
    buildReceiptsWith lib checkedSub block blockHash allReceipts (entries.map (·.tx)) indx loop =
      buildReceipts lib block blockHash allReceipts (entries.map (·.tx)) indx loop := by
  induction entries generalizing indx loop with
  | nil => rfl
  | cons entry entries ih =>
      obtain ⟨hget, hnext⟩ := next_receipt hdrop
      rw [List.map_cons, pairwise_le_cons_cons] at hle
      simp only [List.map_cons, buildReceiptsWith, buildReceipts, hget, Outcome.expect,
        Outcome.ok_bind, entry.isRecovered, Outcome.ofExcept_ok, checkedSub, if_pos hle.1]
      split
      · exact ih hnext _ hle.2
      · rfl

/-- There is a receipt and a signer for every transaction that the loops come to the end of. -/
theorem exists_entries {txs : List Tx}
    (hall : ∀ tx ∈ txs, (metadata.receipts (lib.receiptKey tx)).isSome = true)
    (hsigned : ∀ tx ∈ txs, ∃ recovered, lib.tryToRecoveredRef tx = .ok recovered) :
    ∃ entries : List (SignedReceipt lib metadata), entries.map (·.tx) = txs := by
  induction txs with
  | nil => exact ⟨[], rfl⟩
  | cons tx txs ih =>
      rw [List.forall_mem_cons] at hall hsigned
      obtain ⟨receipt, hreceipt⟩ := Option.isSome_iff_exists.mp hall.1
      obtain ⟨recovered, hrecovered⟩ := hsigned.1
      obtain ⟨entries, rfl⟩ := ih hall.2 hsigned.2
      exact ⟨⟨tx, receipt, recovered, hreceipt, hrecovered⟩ :: entries, rfl⟩

theorem map_receipt (entries : List (SignedReceipt lib metadata)) :
    entries.map (·.receipt) = receiptsOf lib metadata (entries.map (·.tx)) := by
  induction entries with
  | nil => rfl
  | cons entry entries ih =>
      simp only [receiptsOf, List.map_cons, List.filterMap_cons, entry.isReceipt, ih]

/-- The first loop comes to its end only with a receipt for every transaction. -/
theorem collectReceipts_eq_ok {txs : List Tx} {nonceMap nonces : Table Address UInt64}
    {receipts : List Receipt}
    (h : collectReceipts lib metadata txs nonceMap = .ok (nonces, receipts)) :
    (∀ tx ∈ txs, (metadata.receipts (lib.receiptKey tx)).isSome = true) ∧
      receipts = receiptsOf lib metadata txs := by
  have hall : ∀ tx ∈ txs, (metadata.receipts (lib.receiptKey tx)).isSome = true := by
    intro tx htx
    by_contra hmissing
    rw [Bool.not_eq_true, Option.isSome_eq_false_iff, Option.isNone_iff_eq_none] at hmissing
    have hpanics := collectReceipts_panics htx hmissing nonceMap
    rw [h] at hpanics
    exact absurd hpanics (by simp)
  obtain ⟨counted, hcollected⟩ := collectReceipts_ok hall nonceMap
  exact ⟨hall, (Prod.mk.inj (Outcome.ok.inj (h.symm.trans hcollected))).2⟩

/-! ## Gas and logs -/

theorem map_receipt_receiptInputs (entries : List (SignedReceipt lib metadata)) (indx : Nat)
    (gasUsed : UInt64) (nextLogIndex : Nat) :
    (receiptInputs lib block entries indx gasUsed nextLogIndex).map (·.receipt) =
      entries.map (·.receipt) := by
  induction entries generalizing indx gasUsed nextLogIndex with
  | nil => rfl
  | cons entry entries ih => simp only [receiptInputs, List.map_cons, ih]

theorem map_txHash_receiptInputs (entries : List (SignedReceipt lib metadata)) (indx : Nat)
    (gasUsed : UInt64) (nextLogIndex : Nat) :
    (receiptInputs lib block entries indx gasUsed nextLogIndex).map (·.info.txHash) =
      entries.map (fun entry => lib.txHash entry.tx) := by
  induction entries generalizing indx gasUsed nextLogIndex with
  | nil => rfl
  | cons entry entries ih => simp only [receiptInputs, List.map_cons, ih]

/-- The gas of the inputs is what each receipt adds to the one before it. -/
theorem map_gasUsed_receiptInputs (entries : List (SignedReceipt lib metadata)) (indx : Nat)
    (gasUsed : UInt64) (nextLogIndex : Nat) :
    (receiptInputs lib block entries indx gasUsed nextLogIndex).map (·.gasUsed) =
      differences gasUsed (entries.map fun entry => lib.cumulativeGasUsed entry.receipt) := by
  induction entries generalizing indx gasUsed nextLogIndex with
  | nil => rfl
  | cons entry entries ih => simp only [receiptInputs, List.map_cons, differences, ih]

/-- The logs of each receipt begin where those of the receipts before it end. -/
theorem map_nextLogIndex_receiptInputs (entries : List (SignedReceipt lib metadata)) (indx : Nat)
    (gasUsed : UInt64) (nextLogIndex : Nat) :
    (receiptInputs lib block entries indx gasUsed nextLogIndex).map (·.nextLogIndex) =
      offsets nextLogIndex (entries.map fun entry => lib.logsLen entry.receipt) := by
  induction entries generalizing indx gasUsed nextLogIndex with
  | nil => rfl
  | cons entry entries ih => simp only [receiptInputs, List.map_cons, offsets, ih]

/-- The gas of the receipts sums up to the cumulative gas, and their logs are numbered through
from zero. -/
structure Accounts (lib : NodeLibrary Tx Receipt L1BlockInfo RpcReceipt)
    (inputs : List (ConvertReceiptInput Tx Receipt)) : Prop where
  gas : ∀ i input, inputs[i]? = some input →
    ((inputs.take (i + 1)).map (·.gasUsed.toNat)).sum =
      (lib.cumulativeGasUsed input.receipt).toNat
  total : ∀ last, inputs.getLast? = some last →
    (inputs.map (·.gasUsed.toNat)).sum = (lib.cumulativeGasUsed last.receipt).toNat
  logs : ∀ i input, inputs[i]? = some input →
    input.nextLogIndex = ((inputs.take i).map fun earlier => lib.logsLen earlier.receipt).sum
  indices : inputs.flatMap (fun input =>
      List.range' input.nextLogIndex (lib.logsLen input.receipt)) =
    List.range (inputs.map fun input => lib.logsLen input.receipt).sum

section

variable {inputs : List (ConvertReceiptInput Tx Receipt)}

/-- Up to each receipt, what the cumulative gas adds sums up to it. -/
theorem sum_gasUsed
    (hgas : inputs.map (·.gasUsed) =
      differences 0 (inputs.map fun input => lib.cumulativeGasUsed input.receipt))
    (hle : (inputs.map fun input => lib.cumulativeGasUsed input.receipt).Pairwise (· ≤ ·))
    {i : Nat} {input : ConvertReceiptInput Tx Receipt} (hi : inputs[i]? = some input) :
    ((inputs.take (i + 1)).map (·.gasUsed.toNat)).sum =
      (lib.cumulativeGasUsed input.receipt).toNat := by
  have hzero : (0 :: inputs.map fun input => lib.cumulativeGasUsed input.receipt).Pairwise
      (· ≤ ·) := List.pairwise_cons.mpr ⟨fun gas _ => UInt64.zero_le, hle⟩
  have hnat := congrArg (List.map UInt64.toNat) hgas
  rw [map_differences (fun h => UInt64.toNat_sub_of_le _ _ h) hzero, List.map_map, List.map_map,
    UInt64.toNat_zero] at hnat
  have hmono := hzero.map (S := (· ≤ ·)) UInt64.toNat fun _ _ h => UInt64.le_iff_toNat_le.mp h
  rw [List.map_cons, List.map_map, UInt64.toNat_zero] at hmono
  have hsum := add_sum_take_differences hmono (i := i)
    (by rw [List.getElem?_map, hi, Option.map_some])
  rw [Nat.zero_add, ← hnat, ← List.map_take] at hsum
  exact hsum

/-- Inputs with these gas and log numbers account for the block. -/
theorem accounts_of_totals
    (hgas : inputs.map (·.gasUsed) =
      differences 0 (inputs.map fun input => lib.cumulativeGasUsed input.receipt))
    (hlogs : inputs.map (·.nextLogIndex) =
      offsets 0 (inputs.map fun input => lib.logsLen input.receipt))
    (hle : (inputs.map fun input => lib.cumulativeGasUsed input.receipt).Pairwise (· ≤ ·)) :
    Accounts lib inputs := by
  refine ⟨fun i input hi => sum_gasUsed hgas hle hi, ?_, ?_, ?_⟩
  · intro last hlast
    rw [List.getLast?_eq_getElem?] at hlast
    have hlength : inputs.length - 1 + 1 = inputs.length := by
      have hlt := (List.getElem?_eq_some_iff.mp hlast).1
      omega
    have hsum := sum_gasUsed hgas hle hlast
    rwa [hlength, List.take_length] at hsum
  · intro i input hi
    have hoffset : (offsets 0 (inputs.map fun input => lib.logsLen input.receipt))[i]? =
        some input.nextLogIndex := by
      rw [← hlogs, List.getElem?_map, hi, Option.map_some]
    rw [eq_of_offsets hoffset, Nat.zero_add, List.map_take]
  · have hparts := flatMap_offsets 0 (inputs.map fun input => lib.logsLen input.receipt)
    rw [← hlogs, List.zip_map', List.flatMap_map, ← List.range_eq_range'] at hparts
    exact hparts

end

/-- With cumulative gas that does not decrease, what the loop hands to the builder accounts for
the block. -/
theorem accounts_handedInputs {entries : List (SignedReceipt lib metadata)}
    (hle : (entries.map fun entry => lib.cumulativeGasUsed entry.receipt).Pairwise (· ≤ ·)) :
    Accounts lib (handedInputs lib block entries) := by
  have hreceipts : ∀ {β : Type} (f : Receipt → β),
      (handedInputs lib block entries).map (fun input => f input.receipt) =
        entries.map fun entry => f entry.receipt := by
    intro β f
    have hreceipt : (handedInputs lib block entries).map (·.receipt) = entries.map (·.receipt) :=
      map_receipt_receiptInputs entries 0 0 0
    have hmap := congrArg (List.map f) hreceipt
    rwa [List.map_map, List.map_map] at hmap
  apply accounts_of_totals
  · rw [hreceipts]
    exact map_gasUsed_receiptInputs ..
  · rw [hreceipts]
    exact map_nextLogIndex_receiptInputs ..
  · rw [hreceipts]
    exact hle

/-- Both inputs are for one transaction, with the same gas and the same logs. -/
structure SameAccount (input input' : ConvertReceiptInput Tx Receipt) : Prop where
  txHash : input'.info.txHash = input.info.txHash
  receipt : input'.receipt = input.receipt
  gasUsed : input'.gasUsed = input.gasUsed
  nextLogIndex : input'.nextLogIndex = input.nextLogIndex

theorem length_receiptInputs (entries : List (SignedReceipt lib metadata)) (indx : Nat)
    (gasUsed : UInt64) (nextLogIndex : Nat) :
    (receiptInputs lib block entries indx gasUsed nextLogIndex).length = entries.length := by
  rw [← List.length_map (·.receipt), map_receipt_receiptInputs, List.length_map]

section

variable {metadata' : Metadata Receipt} {block' : OpBlock Tx}
variable {entries : List (SignedReceipt lib metadata)}
variable {entries' : List (SignedReceipt lib metadata')}

/-- Transactions that keep their receipts have the same receipts in the later metadata. -/
theorem map_receipt_congr (htxs : entries'.map (·.tx) = entries.map (·.tx))
    (hkept : ∀ entry ∈ entries,
      metadata'.receipts (lib.receiptKey entry.tx) = some entry.receipt) :
    entries'.map (·.receipt) = entries.map (·.receipt) := by
  rw [map_receipt, htxs, receiptsOf, List.filterMap_map, ← List.filterMap_eq_map]
  exact List.filterMap_congr hkept

/-- The gas and the logs that come with a transaction are those of the transactions and receipts
up to its own, whatever the block is. -/
theorem sameAccount_of_take_eq {i : Nat} {input input' : ConvertReceiptInput Tx Receipt}
    (htxs : (entries'.take (i + 1)).map (·.tx) = (entries.take (i + 1)).map (·.tx))
    (hreceipts : (entries'.take (i + 1)).map (·.receipt) = (entries.take (i + 1)).map (·.receipt))
    (hi : (handedInputs lib block entries)[i]? = some input)
    (hi' : (handedInputs lib block' entries')[i]? = some input') : SameAccount input input' := by
  have hfield : ∀ {β : Type} (f : ConvertReceiptInput Tx Receipt → β),
      ((handedInputs lib block' entries').map f)[i]? =
        ((handedInputs lib block entries).map f)[i]? → f input' = f input := by
    intro β f h
    rw [List.getElem?_map, List.getElem?_map, hi, hi'] at h
    exact Option.some.inj h
  have hmap : ∀ {β : Type} (f : Receipt → β),
      (entries'.map fun entry => f entry.receipt).take (i + 1) =
        (entries.map fun entry => f entry.receipt).take (i + 1) := by
    intro β f
    have h := congrArg (List.map f) hreceipts
    rwa [List.map_map, List.map_map, List.map_take, List.map_take] at h
  refine ⟨hfield (·.info.txHash) ?_, hfield (·.receipt) ?_, hfield (·.gasUsed) ?_,
    hfield (·.nextLogIndex) ?_⟩
  · rw [handedInputs, handedInputs, map_txHash_receiptInputs, map_txHash_receiptInputs]
    have h := congrArg (List.map lib.txHash) htxs
    rw [List.map_map, List.map_map, List.map_take, List.map_take] at h
    exact getElem?_eq_of_take_eq h
  · rw [handedInputs, handedInputs, map_receipt_receiptInputs, map_receipt_receiptInputs]
    exact getElem?_eq_of_take_eq (hmap id)
  · rw [handedInputs, handedInputs, map_gasUsed_receiptInputs, map_gasUsed_receiptInputs]
    exact getElem?_differences_congr 0 (hmap lib.cumulativeGasUsed)
  · rw [handedInputs, handedInputs, map_nextLogIndex_receiptInputs,
      map_nextLogIndex_receiptInputs]
    exact getElem?_offsets_congr 0 (hmap lib.logsLen)

/-- A block that continues the other one hands the same to the builder for a transaction of it, if
the receipts up to this transaction are the same. -/
theorem exists_sameAccount (hgrows : entries.map (·.tx) <+: entries'.map (·.tx)) {i : Nat}
    {input : ConvertReceiptInput Tx Receipt}
    (hi : (handedInputs lib block entries)[i]? = some input)
    (hkept : ∀ entry ∈ entries.take (i + 1),
      metadata'.receipts (lib.receiptKey entry.tx) = some entry.receipt) :
    ∃ input', (handedInputs lib block' entries')[i]? = some input' ∧ SameAccount input input' := by
  have hlt : i < (handedInputs lib block entries).length := (List.getElem?_eq_some_iff.mp hi).1
  rw [handedInputs, length_receiptInputs] at hlt
  have htxs : (entries'.take (i + 1)).map (·.tx) = (entries.take (i + 1)).map (·.tx) := by
    obtain ⟨own, hown⟩ := hgrows
    rw [List.map_take, ← hown, List.take_append_of_le_length (by simpa using Nat.succ_le_of_lt hlt),
      List.map_take]
  have hlt' : i < (handedInputs lib block' entries').length := by
    have hle := hgrows.length_le
    rw [List.length_map, List.length_map] at hle
    rw [handedInputs, length_receiptInputs]
    omega
  have hi' := List.getElem?_eq_getElem hlt'
  exact ⟨_, hi', sameAccount_of_take_eq htxs (map_receipt_congr htxs hkept) hi hi'⟩

end

/-! ## One message -/

variable {self next : FlashblocksCacheInner Tx RpcReceipt} {payload : FlashblocksPayloadV1}

/-- The message was accepted: these are its block and the transactions of the block, and the
receipts were built from them. -/
structure Rebuilds (lib : NodeLibrary Tx Receipt L1BlockInfo RpcReceipt)
    (inner : FlashblocksCacheInner Tx RpcReceipt) (payload : FlashblocksPayloadV1)
    (next : FlashblocksCacheInner Tx RpcReceipt) (metadata : Metadata Receipt)
    (block : OpBlock Tx) (entries : List (SignedReceipt lib metadata)) : Prop where
  fromValue : lib.fromValue payload.metadata = .ok metadata
  block_eq : next.block = some block
  transactions_eq : entries.map (·.tx) = block.body.transactions
  built : BuiltFrom lib block.body (handedInputs lib block entries)
    (inner.startState payload).receiptsCache next.receiptsCache

theorem exists_rebuilds (h : self.processPayload lib payload = .ok next) :
    ∃ metadata block entries, Rebuilds lib self payload next metadata block entries := by
  obtain ⟨metadata, block, nonceMap, allReceipts, hmetadata, hblock, hcollected, hreceipts, -, -⟩ :=
    processPayload_tables h
  obtain ⟨hall, rfl⟩ := collectReceipts_eq_ok hcollected
  obtain ⟨entries, htxs⟩ := exists_entries hall (updateReceipts_recovers hreceipts)
  refine ⟨metadata, block, entries, hmetadata, hblock, htxs, ?_⟩
  rw [← htxs, ← map_receipt] at hreceipts
  simp only [updateReceipts, ← htxs] at hreceipts
  split at hreceipts
  · next hempty =>
      obtain rfl : entries = [] := by simpa using hempty
      exact .inl ⟨rfl, (Outcome.ok.inj hreceipts).symm⟩
  · obtain ⟨l1BlockInfo, hinfo, hbuilt⟩ := Outcome.bind_eq_ok hreceipts
    rw [buildReceipts_eq_buildAll entries rfl] at hbuilt
    exact .inr ⟨l1BlockInfo, Outcome.expect_toOption_eq_ok hinfo, hbuilt⟩

/-- The cumulative gas of the receipts does not decrease in the order of the block. -/
def GasGrows (lib : NodeLibrary Tx Receipt L1BlockInfo RpcReceipt) (metadata : Metadata Receipt)
    (block : OpBlock Tx) : Prop :=
  ((receiptsOf lib metadata block.body.transactions).map lib.cumulativeGasUsed).Pairwise (· ≤ ·)

theorem GasGrows.entries {entries : List (SignedReceipt lib metadata)}
    (h : GasGrows lib metadata block) (htxs : entries.map (·.tx) = block.body.transactions) :
    (entries.map fun entry => lib.cumulativeGasUsed entry.receipt).Pairwise (· ≤ ·) := by
  rwa [GasGrows, ← htxs, ← map_receipt, List.map_map] at h

theorem updateReceiptsWith_of_le {receipts receiptsCache : Table B256 RpcReceipt}
    (hall : ∀ tx ∈ block.body.transactions,
      (metadata.receipts (lib.receiptKey tx)).isSome = true)
    (hgas : GasGrows lib metadata block)
    (h : updateReceipts lib block (receiptsOf lib metadata block.body.transactions)
      receiptsCache = .ok receipts) :
    updateReceiptsWith lib checkedSub block
      (receiptsOf lib metadata block.body.transactions) receiptsCache = .ok receipts := by
  obtain ⟨entries, htxs⟩ := exists_entries hall (updateReceipts_recovers h)
  have hle : (0 :: entries.map fun entry => lib.cumulativeGasUsed entry.receipt).Pairwise
      (· ≤ ·) := List.pairwise_cons.mpr ⟨fun gas _ => UInt64.zero_le, hgas.entries htxs⟩
  rw [← htxs, ← map_receipt] at h ⊢
  have hsame : ∀ l1BlockInfo : L1BlockInfo,
      buildReceiptsWith lib checkedSub block (lib.hashSlow block) (entries.map (·.receipt))
          (entries.map (·.tx)) 0 ⟨l1BlockInfo, 0, 0, receiptsCache⟩ =
        buildReceipts lib block (lib.hashSlow block) (entries.map (·.receipt))
          (entries.map (·.tx)) 0 ⟨l1BlockInfo, 0, 0, receiptsCache⟩ :=
    fun l1BlockInfo => buildReceiptsWith_of_le entries rfl _ hle
  simp only [updateReceipts, updateReceiptsWith, ← htxs] at h ⊢
  simp only [hsame]
  exact h

/-- A message that the build without overflow checks accepts is accepted by the one with them, as
long as the gas does not decrease. -/
theorem processPayloadWith_of_gasGrows (h : self.processPayload lib payload = .ok next)
    (hmetadata : lib.fromValue payload.metadata = .ok metadata) (hblock : next.block = some block)
    (hgas : GasGrows lib metadata block) :
    self.processPayloadWith lib checkedSub payload = .ok next := by
  obtain ⟨metadata', hfrom, h⟩ := Outcome.bind_eq_ok h
  obtain ⟨builder, hextend, h⟩ := Outcome.bind_eq_ok h
  obtain ⟨executionPayload, hinner, h⟩ := Outcome.bind_eq_ok h
  obtain ⟨block', hconverted, h⟩ := Outcome.bind_eq_ok h
  obtain ⟨⟨nonceMap, allReceipts⟩, hcollected, h⟩ := Outcome.bind_eq_ok h
  obtain ⟨receiptsCache, hreceipts, h⟩ := Outcome.bind_eq_ok h
  obtain ⟨balanceCache, hbalances, h⟩ := Outcome.bind_eq_ok h
  obtain rfl := Outcome.ok.inj h
  obtain rfl := Option.some.inj hblock
  obtain rfl := Except.ok.inj (hmetadata.symm.trans (Outcome.ofExcept_mapError_eq_ok hfrom))
  obtain ⟨hall, rfl⟩ := collectReceipts_eq_ok hcollected
  simp only [processPayloadWith, hfrom, Outcome.ok_bind, hextend, hinner, hconverted, hcollected,
    updateReceiptsWith_of_le hall hgas hreceipts, hbalances]

end FlashblocksCacheInner

/-! ## Every stream of messages -/

namespace Pending

variable {lib : NodeLibrary Tx Receipt L1BlockInfo RpcReceipt}

/-- A message that does not begin a new block leaves the sources in front. -/
theorem sources_step (x : Pending Tx RpcReceipt) {payload : FlashblocksPayloadV1}
    (hlater : payload.index.toNat ≠ 0) : x.sources <+: (x.step lib payload).sources := by
  obtain heq | ⟨-, -, hsources, -⟩ := step_cases lib x payload
  · have hsame : (x.step lib payload).sources = x.sources := congrArg sources heq
    exact hsame ▸ List.prefix_rfl
  · rw [hsources, if_neg hlater]
    exact List.prefix_append ..

theorem sources_run (x : Pending Tx RpcReceipt) {messages : List FlashblocksPayloadV1}
    (hlater : ∀ m ∈ messages, m.index.toNat ≠ 0) :
    x.sources <+: (run (step lib) x messages).sources :=
  Along.run_invariant (I := fun y : Pending Tx RpcReceipt => x.sources <+: y.sources)
    (fun y _ hgrown hlater => hgrown.trans (sources_step y hlater)) (Along.of_forall hlater)
    List.prefix_rfl

/-- The transactions of a block that has more sources begin with those of the other one. -/
theorem transactions_of_sources (hdecodes : lib.DecodesTransactions)
    {x y : Pending Tx RpcReceipt} (hx : x.MadeOf lib) (hy : y.MadeOf lib)
    (hne : 0 < x.sources.length) (hsources : x.sources <+: y.sources) {block block' : OpBlock Tx}
    (hblock : x.cache.inner.block = some block) (hblock' : y.cache.inner.block = some block') :
    block.body.transactions <+: block'.body.transactions := by
  obtain ⟨more, hmore⟩ := hsources
  have hlength := congrArg List.length hmore
  rw [List.length_append] at hlength
  have hheld := hx.decoded hdecodes hne hblock
  have hdecoded := hy.decoded hdecodes (by omega) hblock'
  simp only [FlashblocksCacheInner.transactions, hblock, hblock', Option.map_some,
    Option.getD_some] at hheld hdecoded
  rw [← hmore] at hdecoded
  obtain ⟨own, hown⟩ := FlashblocksCacheInner.decoded_append hheld hdecoded
  exact ⟨own, hown.symm⟩

theorem step_of_ok {x : Pending Tx RpcReceipt} {payload : FlashblocksPayloadV1}
    {next : FlashblocksCacheInner Tx RpcReceipt}
    (h : x.cache.inner.processPayload lib payload = .ok next) :
    (x.step lib payload).cache.inner = next ∧ 0 < (x.step lib payload).sources.length := by
  rw [step_eq, h]
  refine ⟨rfl, ?_⟩
  simp only
  split
  · simp
  · simp

end Pending

namespace FlashblocksCacheInner

/-- Until the next block begins, an accepted message adds transactions behind those that the
block had after an earlier one. -/
theorem transactions_of_later {lib : NodeLibrary Tx Receipt L1BlockInfo RpcReceipt}
    (hdecodes : lib.DecodesTransactions) {messages further : List FlashblocksPayloadV1}
    {payload payload' : FlashblocksPayloadV1} {next next' : FlashblocksCacheInner Tx RpcReceipt}
    (haccepted : (run (receive lib) .new messages).inner.processPayload lib payload = .ok next)
    (hfurther : ∀ m ∈ further, m.index.toNat ≠ 0) (hlater : payload'.index.toNat ≠ 0)
    (haccepted' : (run (receive lib) .new (messages ++ payload :: further)).inner.processPayload
      lib payload' = .ok next') {block block' : OpBlock Tx} (hblock : next.block = some block)
    (hblock' : next'.block = some block') :
    block.body.transactions <+: block'.body.transactions := by
  have hcache : ∀ ms, (run (Pending.step lib) .new ms).cache = run (receive lib) .new ms :=
    fun ms => Pending.run_cache .new ms
  have hmade : ∀ ms, (run (Pending.step lib) .new ms).MadeOf lib :=
    run_invariant Pending.madeOf_step Pending.madeOf_new
  rw [← hcache] at haccepted haccepted'
  rw [run_append, run_cons] at haccepted'
  obtain ⟨rfl, hne⟩ := Pending.step_of_ok haccepted
  obtain ⟨rfl, -⟩ := Pending.step_of_ok haccepted'
  refine Pending.transactions_of_sources hdecodes ?_ ?_ hne ?_ hblock hblock'
  · exact Pending.madeOf_step _ _ (hmade messages)
  · apply Pending.madeOf_step
    rw [← run_cons, ← run_append]
    exact hmade _
  · exact (Pending.sources_run _ hfurther).trans (Pending.sources_step _ hlater)

/-- For every message that a reachable cache accepts, with cumulative gas that does not decrease:
the gas handed to the receipt builder sums up to the cumulative gas, no subtraction fails, and the
logs are numbered through from zero. As long as the block is continued, a later message leaves the
gas and the logs of a transaction as they are, if it has the same receipts up to it. -/
theorem receipts_account_for_block (lib : NodeLibrary Tx Receipt L1BlockInfo RpcReceipt)
    (hdecodes : lib.DecodesTransactions) (messages : List FlashblocksPayloadV1)
    (payload : FlashblocksPayloadV1) {next : FlashblocksCacheInner Tx RpcReceipt}
    (haccepted : (run (receive lib) .new messages).inner.processPayload lib payload = .ok next) :
    ∃ metadata block entries,
      Rebuilds lib (run (receive lib) .new messages).inner payload next metadata block entries ∧
      (GasGrows lib metadata block →
        Accounts lib (handedInputs lib block entries) ∧
        (run (receive lib) .new messages).inner.processPayloadWith lib checkedSub payload =
          .ok next) ∧
      ∀ further payload' next', (∀ m ∈ further, m.index.toNat ≠ 0) → payload'.index.toNat ≠ 0 →
        (run (receive lib) .new (messages ++ payload :: further)).inner.processPayload lib
          payload' = .ok next' →
        ∃ metadata' block' entries',
          Rebuilds lib (run (receive lib) .new (messages ++ payload :: further)).inner payload'
            next' metadata' block' entries' ∧
          ∀ i input, (handedInputs lib block entries)[i]? = some input →
            (∀ entry ∈ entries.take (i + 1),
              metadata'.receipts (lib.receiptKey entry.tx) = some entry.receipt) →
            ∃ input', (handedInputs lib block' entries')[i]? = some input' ∧
              SameAccount input input' := by
  obtain ⟨metadata, block, entries, hrebuilds⟩ := exists_rebuilds haccepted
  refine ⟨metadata, block, entries, hrebuilds, ?_, ?_⟩
  · intro hgas
    exact ⟨accounts_handedInputs (hgas.entries hrebuilds.transactions_eq),
      processPayloadWith_of_gasGrows haccepted hrebuilds.fromValue hrebuilds.block_eq hgas⟩
  · intro further payload' next' hfurther hlater haccepted'
    obtain ⟨metadata', block', entries', hrebuilds'⟩ := exists_rebuilds haccepted'
    refine ⟨metadata', block', entries', hrebuilds', ?_⟩
    intro i input hi hkept
    refine exists_sameAccount ?_ hi hkept
    rw [hrebuilds.transactions_eq, hrebuilds'.transactions_eq]
    exact transactions_of_later hdecodes haccepted hfurther hlater haccepted'
      hrebuilds.block_eq hrebuilds'.block_eq

/-- The first flashblock of the tests, which has no transactions. -/
def firstOfTests : FlashblocksPayloadV1 := (testFlashblock 0 (some testBase) [] []).message

/-- The second flashblock of the tests, with the deposit and the transfer. -/
def secondOfTests : FlashblocksPayloadV1 :=
  (testFlashblock 1 none [.deposit, .transfer] []).message

/-- A third flashblock, with the same receipts and no more transactions. -/
def thirdWithReceipts : FlashblocksPayloadV1 :=
  { (testFlashblock 2 none [] []).message with metadata := secondOfTests.metadata }

theorem processPayload_of_accepts {lib : NodeLibrary Tx Receipt L1BlockInfo RpcReceipt}
    {cache : FlashblocksCache Tx RpcReceipt} {payload : FlashblocksPayloadV1}
    (h : Accepts lib cache payload) :
    cache.inner.processPayload lib payload = .ok (receive lib cache payload).inner :=
  FlashblocksCache.processPayload_ok h

theorem processPayload_secondOfTests :
    (run (receive testLibrary) .new [firstOfTests]).inner.processPayload testLibrary
        secondOfTests =
      .ok (run (receive testLibrary) .new [firstOfTests, secondOfTests]).inner := by
  have haccepts : Accepts testLibrary (receive testLibrary .new firstOfTests) secondOfTests := by
    unfold Accepts
    decide +kernel
  simp only [run_cons, run_nil]
  exact processPayload_of_accepts haccepts

theorem processPayload_thirdWithReceipts :
    (run (receive testLibrary) .new [firstOfTests, secondOfTests]).inner.processPayload
        testLibrary thirdWithReceipts =
      .ok (run (receive testLibrary) .new
        [firstOfTests, secondOfTests, thirdWithReceipts]).inner := by
  have haccepts : Accepts testLibrary
      (receive testLibrary (receive testLibrary .new firstOfTests) secondOfTests)
      thirdWithReceipts := by
    unfold Accepts
    decide +kernel
  simp only [run_cons, run_nil]
  exact processPayload_of_accepts haccepts

theorem gasGrows_secondOfTests {metadata : Metadata Value} {block : OpBlock TestTransaction}
    (hmetadata : testLibrary.fromValue secondOfTests.metadata = .ok metadata)
    (hblock : (run (receive testLibrary) .new [firstOfTests, secondOfTests]).inner.block =
      some block) :
    block.body.transactions = [.deposit, .transfer] ∧ GasGrows testLibrary metadata block := by
  have htxs : (run (receive testLibrary) .new [firstOfTests, secondOfTests]).inner.block.map
      (·.body.transactions) = some [.deposit, .transfer] := by
    decide +kernel
  simp only [hblock, Option.map_some, Option.some.injEq] at htxs
  obtain rfl := Except.ok.inj hmetadata
  refine ⟨htxs, ?_⟩
  rw [GasGrows, htxs]
  decide +kernel

/-- Both transactions of the second flashblock are accounted for, and stay so with the third. -/
theorem third_flashblock_keeps_accounts :
    ∃ metadata block entries,
      Rebuilds testLibrary (run (receive testLibrary) .new [firstOfTests]).inner secondOfTests
        (run (receive testLibrary) .new [firstOfTests, secondOfTests]).inner metadata block
        entries ∧
      entries.map (·.tx) = [.deposit, .transfer] ∧
      Accounts testLibrary (handedInputs testLibrary block entries) ∧
      ∃ metadata' block' entries',
        Rebuilds testLibrary (run (receive testLibrary) .new [firstOfTests, secondOfTests]).inner
          thirdWithReceipts
          (run (receive testLibrary) .new [firstOfTests, secondOfTests, thirdWithReceipts]).inner
          metadata' block' entries' ∧
        ∀ (i : Nat) input, (handedInputs testLibrary block entries)[i]? = some input →
          ∃ input', (handedInputs testLibrary block' entries')[i]? = some input' ∧
            SameAccount input input' := by
  obtain ⟨metadata, block, entries, hrebuilds, haccounts, hlater⟩ := receipts_account_for_block
    testLibrary testLibrary_reliable.decodes [firstOfTests] secondOfTests
    processPayload_secondOfTests
  obtain ⟨metadata', block', entries', hrebuilds', hsame⟩ := hlater [] thirdWithReceipts _
    (by simp) (by decide) processPayload_thirdWithReceipts
  obtain ⟨htxs, hgas⟩ := gasGrows_secondOfTests hrebuilds.fromValue hrebuilds.block_eq
  refine ⟨metadata, block, entries, hrebuilds, hrebuilds.transactions_eq.trans htxs,
    (haccounts hgas).1, metadata', block', entries', hrebuilds', ?_⟩
  intro i input hi
  apply hsame i input hi
  intro entry _
  -- both messages have the same metadata
  obtain rfl := Except.ok.inj (hrebuilds.fromValue.symm.trans hrebuilds'.fromValue)
  exact entry.isReceipt

end FlashblocksCacheInner

end RollupBoost
