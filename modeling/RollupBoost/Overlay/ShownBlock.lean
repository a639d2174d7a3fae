import Mathlib.Algebra.Ring.Nat
import RollupBoost.Overlay.Coherence

/-!
# The block that the overlay shows

`get_block` recovers the signers of all transactions when it is asked for the full block, and
takes for granted that this succeeds. It does: a block is stored only after its receipts were
built, and building the receipt of a transaction begins with the same recovery. So both forms
of the block can be shown whenever there is one, and they agree.

What they do not show is all that the flashblocks have supplied. The cache assembles an
envelope of version 4 and keeps only the payload of version 3 inside it. The withdrawals root
and the parent beacon block root stand in the part that is dropped, and the header is filled
from the rest.
-/

namespace RollupBoost

open Machine

variable {Tx Receipt L1BlockInfo RpcReceipt : Type}

/-! ## Full transactions and hashes -/

/-- The signers of a body can be recovered if each of its transactions passes the check that
is made when its receipt is built. -/
def RpcLibrary.RecoversLike (rpc : RpcLibrary Tx)
    (lib : NodeLibrary Tx Receipt L1BlockInfo RpcReceipt) : Prop :=
  ∀ body : BlockBody Tx,
    (∃ signers, rpc.recoverSigners body = .ok signers) ↔
      ∀ tx ∈ body.transactions, ∃ recovered, lib.tryToRecoveredRef tx = .ok recovered

namespace FlashblocksCacheInner

variable {lib : NodeLibrary Tx Receipt L1BlockInfo RpcReceipt} {block : OpBlock Tx}
variable {self next : FlashblocksCacheInner Tx RpcReceipt} {payload : FlashblocksPayloadV1}

theorem buildReceipts_recovers {blockHash : B256} {allReceipts : List Receipt} {txs : List Tx}
    {indx : Nat} {loop final : ReceiptLoop L1BlockInfo RpcReceipt}
    (h : buildReceipts lib block blockHash allReceipts txs indx loop = .ok final) :
    ∀ tx ∈ txs, ∃ recovered, lib.tryToRecoveredRef tx = .ok recovered := by
  induction txs generalizing indx loop with
  | nil => simp
  | cons tx txs ih =>
      obtain ⟨receipt, -, h⟩ := Outcome.bind_eq_ok h
      obtain ⟨recovered, hrecovered, h⟩ := Outcome.bind_eq_ok h
      obtain ⟨built, -, h⟩ := Outcome.bind_eq_ok h
      rw [List.forall_mem_cons]
      exact ⟨⟨recovered, Outcome.ofExcept_eq_ok hrecovered⟩, ih h⟩

/-- A block without transactions has nothing to recover. -/
theorem updateReceipts_recovers {allReceipts : List Receipt}
    {receiptsCache receipts : Table B256 RpcReceipt}
    (h : updateReceipts lib block allReceipts receiptsCache = .ok receipts) :
    ∀ tx ∈ block.body.transactions, ∃ recovered, lib.tryToRecoveredRef tx = .ok recovered := by
  simp only [updateReceipts] at h
  split at h
  · next hempty =>
      rw [List.isEmpty_iff] at hempty
      simp [hempty]
  · obtain ⟨l1BlockInfo, -, h⟩ := Outcome.bind_eq_ok h
    obtain ⟨loop, hloop, -⟩ := Outcome.bind_eq_ok h
    exact buildReceipts_recovers hloop

/-- All transactions of the pending block have a signer. -/
def Recoverable (lib : NodeLibrary Tx Receipt L1BlockInfo RpcReceipt)
    (self : FlashblocksCacheInner Tx RpcReceipt) : Prop :=
  ∀ block, self.block = some block →
    ∀ tx ∈ block.body.transactions, ∃ recovered, lib.tryToRecoveredRef tx = .ok recovered

theorem recoverable_of_processPayload (h : self.processPayload lib payload = .ok next) :
    next.Recoverable lib := by
  intro block hblock
  obtain ⟨-, stored, -, allReceipts, -, hstored, -, hreceipts, -⟩ := processPayload_tables h
  obtain rfl := Option.some.inj (hblock.symm.trans hstored)
  exact updateReceipts_recovers hreceipts

end FlashblocksCacheInner

namespace FlashblocksCache

variable {lib : NodeLibrary Tx Receipt L1BlockInfo RpcReceipt}

def Recoverable (lib : NodeLibrary Tx Receipt L1BlockInfo RpcReceipt)
    (self : FlashblocksCache Tx RpcReceipt) : Prop :=
  self.inner.Recoverable lib

theorem recoverable_step (self : FlashblocksCache Tx RpcReceipt) (payload : FlashblocksPayloadV1)
    (h : self.Recoverable lib) : (self.processPayload lib payload).1.Recoverable lib := by
  simp only [processPayload]
  cases hinner : self.inner.processPayload lib payload with
  | ok next => exact FlashblocksCacheInner.recoverable_of_processPayload hinner
  | error e => exact h
  | panic message => exact h

/-- After any messages, the full block and the block with hashes are both missing, or both are
shown with the same header and the same transactions, each at its own position. -/
theorem full_block_agrees_with_hashes (lib : NodeLibrary Tx Receipt L1BlockInfo RpcReceipt)
    (rpc : RpcLibrary Tx) (hrecovers : rpc.RecoversLike lib)
    (messages : List FlashblocksPayloadV1) :
    let cache : FlashblocksCache Tx RpcReceipt :=
      run (fun cache m => (cache.processPayload lib m).1) .new messages
    (cache.getBlock lib rpc true = .ok none ∧ cache.getBlock lib rpc false = .ok none) ∨
    ∃ full short transactions hashes,
      cache.getBlock lib rpc true = .ok (some full) ∧
      cache.getBlock lib rpc false = .ok (some short) ∧
      full.hash = short.hash ∧ full.header = short.header ∧
      full.transactions = .full transactions ∧ short.transactions = .hashes hashes ∧
      transactions.map (fun tx => lib.txHash tx.inner.tx) = hashes ∧
      ∀ i tx, transactions[i]? = some tx → tx.transactionIndex = some (UInt64.ofNat i) := by
  intro cache
  have hnew : (new : FlashblocksCache Tx RpcReceipt).Recoverable lib := by
    intro block hblock
    exact absurd hblock (by simp [new, FlashblocksCacheInner.new])
  have hrecoverable : cache.Recoverable lib := run_invariant recoverable_step hnew messages
  cases hblock : cache.inner.block with
  | none => exact .inl ⟨by simp [getBlock, FlashblocksCacheInner.getBlock, hblock],
      by simp [getBlock, FlashblocksCacheInner.getBlock, hblock]⟩
  | some block =>
      obtain ⟨signers, hsigners⟩ := (hrecovers block.body).mpr (hrecoverable block hblock)
      have hlength := rpc.recoverSigners_length hsigners
      right
      simp only [getBlock, FlashblocksCacheInner.getBlock, hblock, hsigners, Except.toOption,
        Outcome.expect, Outcome.ok_bind, if_true, Bool.false_eq_true, if_false]
      refine ⟨_, _, _, _, rfl, rfl, rfl, rfl, rfl, rfl, ?_, ?_⟩
      · apply List.ext_getElem
        · simp [hlength]
        · intro i _ _
          simp [transformTx]
      · intro i tx htx
        rw [List.getElem?_mapIdx, Option.map_eq_some_iff] at htx
        obtain ⟨entry, -, rfl⟩ := htx
        rfl

end FlashblocksCache

/-- The two transactions of the tests: a deposit, and a transfer with the gas price 1500528. -/
def testRpcLibrary : RpcLibrary TestTransaction where
  recoverSigners body := .ok (body.transactions.map (·.signer))
  headerHash header := header.stateRoot
  isDeposit tx := tx == .deposit
  effectiveTipPerGas
    | .deposit, _ => none
    | .transfer, baseFee =>
        if baseFee.toNat ≤ 1500528 then some (BitVec.ofNat 128 (1500528 - baseFee.toNat)) else none
  maxFeePerGas
    | .deposit => 0
    | .transfer => 1500528
  recoverSigners_length := by
    intro body signers h
    obtain rfl := Except.ok.inj h
    exact List.length_map ..

/-- The two flashblocks of the tests: both forms of the block have the deposit and the transfer. -/
theorem full_block_of_two_flashblocks :
    let cache : FlashblocksCache TestTransaction ReceiptPlace :=
      run (fun cache m => (cache.processPayload Pending.placingLibrary m).1) .new
        Pending.twoFlashblocks
    ∃ full short transactions hashes,
      cache.getBlock Pending.placingLibrary testRpcLibrary true = .ok (some full) ∧
      cache.getBlock Pending.placingLibrary testRpcLibrary false = .ok (some short) ∧
      full.hash = short.hash ∧ full.header = short.header ∧
      full.transactions = .full transactions ∧ short.transactions = .hashes hashes ∧
      transactions.map (fun tx => tx.inner.tx.hash) = hashes ∧
      (∀ i tx, transactions[i]? = some tx → tx.transactionIndex = some (UInt64.ofNat i)) ∧
      hashes = [TestTransaction.hash .deposit, TestTransaction.hash .transfer] ∧
      transactions.map (·.inner.tx) = [.deposit, .transfer] := by
  intro cache
  have hrecovers : testRpcLibrary.RecoversLike Pending.placingLibrary := fun body =>
    ⟨fun _ tx _ => ⟨_, rfl⟩, fun _ => ⟨_, rfl⟩⟩
  have hlisted : cache.inner.transactions = [.deposit, .transfer] := by decide +kernel
  obtain ⟨-, hnone⟩ | ⟨full, short, transactions, hashes, hfull, hshort, hhash, hheader, htxs,
      hhashes, hmap, hindex⟩ := FlashblocksCache.full_block_agrees_with_hashes
    Pending.placingLibrary testRpcLibrary hrecovers Pending.twoFlashblocks
  · have hshown := (FlashblocksCacheInner.getBlock_shows Pending.placingLibrary testRpcLibrary
      cache.inner false hnone).1
    have hblock : cache.inner.block.isNone = false := by decide +kernel
    rw [hblock] at hshown
    exact absurd hshown (by simp)
  · have hshown := (FlashblocksCacheInner.getBlock_shows Pending.placingLibrary testRpcLibrary
      cache.inner true hfull).2 full rfl
    rw [RpcBlock.Shows, htxs, hlisted] at hshown
    refine ⟨full, short, transactions, hashes, hfull, hshort, hhash, hheader, htxs, hhashes,
      hmap, hindex, ?_, hshown⟩
    have hhashed := congrArg (List.map TestTransaction.hash) hshown
    rw [List.map_map] at hhashed
    exact hmap.symm.trans hhashed

/-! ## The header -/

/-- The header has the fields of a payload of version 3. The withdrawals root is computed, and
the parent beacon block root is left unset. -/
structure FilledFrom (withdrawalsRoot : List Withdrawal → B256) (payload : ExecutionPayloadV3)
    (header : Header) : Prop where
  parentHash : header.parentHash = payload.payloadInner.payloadInner.parentHash
  beneficiary : header.beneficiary = payload.payloadInner.payloadInner.feeRecipient
  stateRoot : header.stateRoot = payload.payloadInner.payloadInner.stateRoot
  receiptsRoot : header.receiptsRoot = payload.payloadInner.payloadInner.receiptsRoot
  logsBloom : header.logsBloom = payload.payloadInner.payloadInner.logsBloom
  mixHash : header.mixHash = payload.payloadInner.payloadInner.prevRandao
  number : header.number = payload.payloadInner.payloadInner.blockNumber
  gasLimit : header.gasLimit = payload.payloadInner.payloadInner.gasLimit
  gasUsed : header.gasUsed = payload.payloadInner.payloadInner.gasUsed
  timestamp : header.timestamp = payload.payloadInner.payloadInner.timestamp
  extraData : header.extraData = payload.payloadInner.payloadInner.extraData
  baseFeePerGas : header.baseFeePerGas.map (·.toNat) =
    some payload.payloadInner.payloadInner.baseFeePerGas.toNat
  withdrawalsRoot : header.withdrawalsRoot = some (withdrawalsRoot payload.payloadInner.withdrawals)
  parentBeaconBlockRoot : header.parentBeaconBlockRoot = none

def NodeLibrary.FillsHeader (lib : NodeLibrary Tx Receipt L1BlockInfo RpcReceipt)
    (withdrawalsRoot : List Withdrawal → B256) : Prop :=
  ∀ payload block, lib.tryIntoBlock payload = .ok block →
    FilledFrom withdrawalsRoot payload block.header

/-- The header has what the flashblocks supply, up to the two roots that only the envelope of
version 4 has. -/
structure CarriesPayload (base : ExecutionPayloadBaseV1) (delta : ExecutionPayloadFlashblockDeltaV1)
    (header : Header) : Prop where
  parentHash : header.parentHash = base.parentHash
  beneficiary : header.beneficiary = base.feeRecipient
  mixHash : header.mixHash = base.prevRandao
  number : header.number = base.blockNumber
  gasLimit : header.gasLimit = base.gasLimit
  timestamp : header.timestamp = base.timestamp
  extraData : header.extraData = base.extraData
  baseFeePerGas : header.baseFeePerGas.map (·.toNat) = some base.baseFeePerGas.toNat
  stateRoot : header.stateRoot = delta.stateRoot
  receiptsRoot : header.receiptsRoot = delta.receiptsRoot
  logsBloom : header.logsBloom = delta.logsBloom
  gasUsed : header.gasUsed = delta.gasUsed

/-- The header has all that the flashblocks supply. -/
structure CarriesAll (base : ExecutionPayloadBaseV1) (delta : ExecutionPayloadFlashblockDeltaV1)
    (header : Header) : Prop extends CarriesPayload base delta header where
  parentBeaconBlockRoot : header.parentBeaconBlockRoot = some base.parentBeaconBlockRoot
  withdrawalsRoot : header.withdrawalsRoot = some delta.withdrawalsRoot

theorem FlashblocksCacheInner.getBlock_header
    {lib : NodeLibrary Tx Receipt L1BlockInfo RpcReceipt} {rpc : RpcLibrary Tx}
    {self : FlashblocksCacheInner Tx RpcReceipt} {full : Bool} {shown : RpcBlock Tx}
    (h : self.getBlock lib rpc full = .ok (some shown)) :
    ∃ block, self.block = some block ∧ shown.header = block.header := by
  simp only [getBlock] at h
  split at h
  · exact absurd (Outcome.ok.inj h) (by simp)
  · next block hblock =>
      refine ⟨block, hblock, ?_⟩
      cases full with
      | false =>
          obtain rfl := Option.some.inj (Outcome.ok.inj h)
          rfl
      | true =>
          obtain ⟨signers, -, h⟩ := Outcome.bind_eq_ok h
          obtain rfl := Option.some.inj (Outcome.ok.inj h)
          rfl

/-- What the header is filled from: the payload in the middle of the assembled envelope. -/
theorem Builds.innerPayload_carries {builder : FlashblockBuilder}
    {sources : List FlashblocksPayloadV1} {executionPayload : ExecutionPayloadV3}
    {withdrawalsRoot : List Withdrawal → B256} {header : Header} (h : Builds builder sources)
    (hinner : FlashblocksCacheInner.innerPayload builder = .ok executionPayload)
    (hfilled : FilledFrom withdrawalsRoot executionPayload header) :
    ∃ first base last, sources.head? = some first ∧ first.base = some base ∧
      sources.getLast? = some last ∧ CarriesPayload base last.diff header ∧
      header.withdrawalsRoot = some (withdrawalsRoot (sources.flatMap (·.diff.withdrawals))) := by
  simp only [FlashblocksCacheInner.innerPayload, h.buildEnvelope_eq .v4, assemble] at hinner
  cases hbase : sources.head?.bind (·.base) with
  | none => simp [hbase] at hinner
  | some base =>
      obtain ⟨first, hfirst, hbase⟩ := Option.bind_eq_some_iff.mp hbase
      cases hlast : sources.getLast? with
      | none =>
          rw [List.getLast?_eq_none_iff] at hlast
          simp [hlast] at hfirst
      | some last =>
          simp only [hfirst, hbase, hlast, Option.bind_eq_bind, Option.bind_some] at hinner
          obtain rfl := Outcome.ok.inj hinner
          exact ⟨first, base, last, hfirst, hbase, rfl,
            ⟨hfilled.parentHash, hfilled.beneficiary, hfilled.mixHash, hfilled.number,
              hfilled.gasLimit, hfilled.timestamp, hfilled.extraData, hfilled.baseFeePerGas,
              hfilled.stateRoot, hfilled.receiptsRoot, hfilled.logsBloom, hfilled.gasUsed⟩,
            hfilled.withdrawalsRoot⟩

namespace Pending

/-- After any messages, the header that is shown has all of the base and the last delta but the
two roots. The parent beacon block root is always missing, so it never has all of them; the
withdrawals root is the one of the list of withdrawals, whatever the delta says. -/
theorem shown_header_is_incomplete (lib : NodeLibrary Tx Receipt L1BlockInfo RpcReceipt)
    (withdrawalsRoot : List Withdrawal → B256) (hfills : lib.FillsHeader withdrawalsRoot)
    (messages : List FlashblocksPayloadV1) (rpc : RpcLibrary Tx) (full : Bool)
    (shown : RpcBlock Tx) :
    let x : Pending Tx RpcReceipt := run (step lib) new messages
    x.cache.getBlock lib rpc full = .ok (some shown) →
      ∃ first base last, x.sources.head? = some first ∧ first.base = some base ∧
        x.sources.getLast? = some last ∧
        CarriesPayload base last.diff shown.header ∧
        (shown.header.withdrawalsRoot = some last.diff.withdrawalsRoot ↔
          withdrawalsRoot (x.sources.flatMap (·.diff.withdrawals)) = last.diff.withdrawalsRoot) ∧
        shown.header.parentBeaconBlockRoot = none ∧
        ¬ CarriesAll base last.diff shown.header := by
  intro x hshown
  have hmade : x.MadeOf lib := run_invariant madeOf_step madeOf_new messages
  obtain ⟨block, hblock, hheader⟩ := FlashblocksCacheInner.getBlock_header hshown
  obtain ⟨executionPayload, hinner, hconverted⟩ := hmade.block block hblock
  have hfilled := hfills executionPayload block hconverted
  obtain ⟨first, base, last, hfirst, hbase, hlast, hcarries, hroot⟩ :=
    hmade.builds.innerPayload_carries hinner hfilled
  rw [hheader]
  refine ⟨first, base, last, hfirst, hbase, hlast, hcarries, ?_, hfilled.parentBeaconBlockRoot, ?_⟩
  · rw [hroot, Option.some.injEq]
  · intro hall
    have hbeacon := hall.parentBeaconBlockRoot
    rw [hfilled.parentBeaconBlockRoot] at hbeacon
    exact absurd hbeacon (by simp)

/-- The test library, with the check that the base fee fits the header. -/
def fillingLibrary : NodeLibrary TestTransaction Value Unit ReceiptPlace :=
  { placingLibrary with
    tryIntoBlock := fun payload =>
      if payload.payloadInner.payloadInner.baseFeePerGas.toNat < 2 ^ 64 then
        placingLibrary.tryIntoBlock payload
      else .error "invalid payload base fee" }

/-- The root of an empty list of withdrawals, the only one that the test blocks have. -/
def emptyRoot (_ : List Withdrawal) : B256 :=
  0x56e81f171bcc55a6ff8345e692c0f86e5b48e01b996cadc001622fb5e363b421

theorem fillingLibrary_fillsHeader : fillingLibrary.FillsHeader emptyRoot := by
  intro payload block h
  simp only [fillingLibrary] at h
  split at h
  · next hfits =>
      obtain ⟨txs, -, h⟩ := except_bind_eq_ok h
      obtain rfl := Except.ok.inj h
      refine ⟨rfl, rfl, rfl, rfl, rfl, rfl, rfl, rfl, rfl, rfl, rfl, ?_, rfl, rfl⟩
      simp only [Option.map_some, UInt64.toNat_ofNat', Nat.mod_eq_of_lt hfits]
  · exact absurd h (by simp)

/-- A first flashblock with the parent beacon block root 5. -/
def withBeaconRoot : FlashblocksPayloadV1 :=
  (testFlashblock 0 (some { testBase with parentBeaconBlockRoot := 5 }) [] []).message

theorem block_withBeaconRoot :
    (run (step fillingLibrary) new [withBeaconRoot]).cache.inner.block.map
      (·.header.parentBeaconBlockRoot) = some none := by
  decide +kernel

theorem shown_header_withBeaconRoot :
    ∃ shown, (run (step fillingLibrary) new [withBeaconRoot]).cache.getBlock fillingLibrary
        testRpcLibrary false = .ok (some shown) ∧
      shown.header.parentBeaconBlockRoot = none := by
  obtain ⟨block, hblock, hbeacon⟩ := Option.map_eq_some_iff.mp block_withBeaconRoot
  obtain ⟨shown, hshown⟩ : ∃ shown,
      (run (step fillingLibrary) new [withBeaconRoot]).cache.getBlock fillingLibrary
        testRpcLibrary false = .ok (some shown) := by
    simp only [FlashblocksCache.getBlock, FlashblocksCacheInner.getBlock, hblock]
    exact ⟨_, rfl⟩
  obtain ⟨first, base, last, -, -, -, -, -, hnone, -⟩ := shown_header_is_incomplete fillingLibrary
    emptyRoot fillingLibrary_fillsHeader [withBeaconRoot] testRpcLibrary false shown hshown
  exact ⟨shown, hshown, hnone⟩

/-- The block of this flashblock is shown without its parent beacon block root. -/
theorem beacon_root_is_lost :
    ∃ shown, (run (step fillingLibrary) new [withBeaconRoot]).cache.getBlock fillingLibrary
        testRpcLibrary false = .ok (some shown) ∧
      ¬ CarriesAll { testBase with parentBeaconBlockRoot := 5 } withBeaconRoot.diff
        shown.header := by
  obtain ⟨block, hblock, hbeacon⟩ := Option.map_eq_some_iff.mp block_withBeaconRoot
  simp only [FlashblocksCache.getBlock, FlashblocksCacheInner.getBlock, hblock]
  refine ⟨_, rfl, ?_⟩
  intro hall
  have hcarried := hall.parentBeaconBlockRoot
  simp only [hbeacon] at hcarried
  exact absurd hcarried (by simp)

end Pending

end RollupBoost
