import Mathlib.Algebra.Ring.Nat
import RollupBoost.Overlay.Coherence

/-!
# The pending nonce

For the pending block, `get_transaction_count` (`flashblocks-rpc/src/rpc.rs`) adds up two
numbers from two places. The node gives the nonce at its latest block, and the cache gives how
many transactions of the pending block the address has sent.

The sum is right while the pending block stands on the latest block. Once the node has
imported the pending block itself, the nonce at the latest block contains the cached
transactions already, and they are counted a second time. The cache forgets them only with the
first flashblock of the next block.
-/

namespace RollupBoost

open Machine

variable {E Tx Receipt L1BlockInfo RpcReceipt : Type}

inductive BlockId where
  | hash (blockHash : B256) (requireCanonical : Option Bool)
  | number (number : BlockNumberOrTag)

namespace BlockId

/-- A request that names no block is for the latest one. -/
instance : Inhabited BlockId := ⟨.number .latest⟩

def isPending : BlockId → Bool
  | .number .pending => true
  | _ => false

end BlockId

/-- The function of the node that a request for a nonce is passed on to. -/
structure EthState (E : Type) where
  transactionCount : Address → Option BlockId → Except E U256

structure FlashblocksApiExt (E Tx RpcReceipt : Type) where
  ethApi : EthState E
  flashblocksApi : FlashblocksCache Tx RpcReceipt

def FlashblocksApiExt.getTransactionCount (self : FlashblocksApiExt E Tx RpcReceipt)
    (address : Address) (blockNumber : Option BlockId) : Except E U256 :=
  let blockId := blockNumber.getD default
  if blockId.isPending then do
    let latestCount ← self.ethApi.transactionCount address (some (.number .latest))
    match self.flashblocksApi.getTransactionCount address with
    | some count => .ok (latestCount + BitVec.ofNat 256 count.toNat)
    | none => self.ethApi.transactionCount address blockNumber
  else self.ethApi.transactionCount address blockNumber

/-! ## What the cache counts -/

namespace FlashblocksCacheInner

variable {lib : NodeLibrary Tx Receipt L1BlockInfo RpcReceipt}
variable {self next : FlashblocksCacheInner Tx RpcReceipt} {payload : FlashblocksPayloadV1}
variable {sources : List FlashblocksPayloadV1}

/-- The table of nonces counts the transactions that the block has of each sender. -/
structure Counts (lib : NodeLibrary Tx Receipt L1BlockInfo RpcReceipt)
    (inner : FlashblocksCacheInner Tx RpcReceipt) (sources : List FlashblocksPayloadV1) :
    Prop where
  decoded : (sources.flatMap (·.diff.transactions)).mapM lib.decode2718 = .ok inner.transactions
  count : ∀ address, inner.nonceCache address =
    addCount none (inner.transactions.countP (lib.sentBy address))

theorem counts_new : Counts lib (new : FlashblocksCacheInner Tx RpcReceipt) [] where
  decoded := rfl
  count := by simp [new, transactions, addCount]

theorem Counts.extend (h : Counts lib (self.startState payload) sources)
    (hprocess : self.processPayload lib payload = .ok next)
    (hdecoded : ((sources ++ [payload]).flatMap (·.diff.transactions)).mapM lib.decode2718 =
      .ok next.transactions) : Counts lib next (sources ++ [payload]) := by
  obtain ⟨own, hgrows⟩ := decoded_append h.decoded hdecoded
  exact ⟨hdecoded, count_extend hprocess hgrows h.count⟩

end FlashblocksCacheInner

namespace Pending

variable {lib : NodeLibrary Tx Receipt L1BlockInfo RpcReceipt}

def Counts (lib : NodeLibrary Tx Receipt L1BlockInfo RpcReceipt) (x : Pending Tx RpcReceipt) :
    Prop :=
  x.MadeOf lib ∧ x.cache.inner.Counts lib x.sources

theorem counts_step (hdecodes : lib.DecodesTransactions) (x : Pending Tx RpcReceipt)
    (payload : FlashblocksPayloadV1) (h : x.Counts lib) : (x.step lib payload).Counts lib := by
  refine ⟨madeOf_step x payload h.1, ?_⟩
  apply extend_step hdecodes h.1 FlashblocksCacheInner.counts_new ?_ h.2
  intro sources next hstart hprocess hdecoded
  exact hstart.extend hprocess hdecoded

end Pending

/-- After every stream of messages, the count of a sender is that of the pending block. -/
theorem getTransactionCount_run {lib : NodeLibrary Tx Receipt L1BlockInfo RpcReceipt}
    (hdecodes : lib.DecodesTransactions) (messages : List FlashblocksPayloadV1)
    {block : OpBlock Tx}
    (hblock : (run (receive lib) .new messages).inner.block = some block)
    {address : Address} (hsent : 0 < block.body.transactions.countP (lib.sentBy address)) :
    (run (receive lib) .new messages).getTransactionCount address =
      some (UInt64.ofNat (block.body.transactions.countP (lib.sentBy address))) := by
  have hcounts : (run (Pending.step lib) .new messages).Counts lib :=
    run_invariant (Pending.counts_step hdecodes)
      ⟨Pending.madeOf_new, FlashblocksCacheInner.counts_new⟩ messages
  have hcache : (run (Pending.step lib) .new messages).cache = run (receive lib) .new messages :=
    Pending.run_cache ..
  have hcount := hcounts.2.count address
  rw [hcache] at hcount
  have htxs : (run (receive lib) .new messages).inner.transactions = block.body.transactions := by
    simp [FlashblocksCacheInner.transactions, hblock]
  rw [htxs, FlashblocksCacheInner.addCount, if_neg (by omega)] at hcount
  show (run (receive lib) .new messages).inner.nonceCache address = _
  rw [hcount, Option.getD_none, UInt64.zero_add]

/-! ## What the chain holds -/

namespace NodeLibrary

variable (lib : NodeLibrary Tx Receipt L1BlockInfo RpcReceipt)

/-- A transaction raises the nonce of its sender by one. -/
def raiseNonce (nonces : Address → Nat) (tx : Tx) (address : Address) : Nat :=
  if lib.sentBy address tx then nonces address + 1 else nonces address

/-- The nonces after a list of transactions. -/
def execute (nonces : Address → Nat) (txs : List Tx) : Address → Nat :=
  txs.foldl lib.raiseNonce nonces

theorem execute_apply (nonces : Address → Nat) (txs : List Tx) (address : Address) :
    lib.execute nonces txs address = nonces address + txs.countP (lib.sentBy address) := by
  induction txs generalizing nonces with
  | nil => rfl
  | cons tx txs ih =>
      have hcons : lib.execute nonces (tx :: txs) =
          lib.execute (lib.raiseNonce nonces tx) txs := rfl
      rw [hcons, ih, raiseNonce, List.countP_cons]
      split
      · omega
      · omega

end NodeLibrary

/-- The canonical chain: its latest block, and the nonces after each block. -/
structure Chain where
  latest : B256
  nonceAt : B256 → Address → Nat

namespace Chain

/-- The nonces after executing a block on the state of its parent. -/
def nonceAfter (chain : Chain) (lib : NodeLibrary Tx Receipt L1BlockInfo RpcReceipt)
    (block : OpBlock Tx) : Address → Nat :=
  lib.execute (chain.nonceAt block.header.parentHash) block.body.transactions

/-- The latest block is the parent of the block. -/
def Awaits (chain : Chain) (block : OpBlock Tx) : Prop :=
  chain.latest = block.header.parentHash

/-- The latest block is the block itself, so its state is the one after executing it. -/
def HasImported (chain : Chain) (lib : NodeLibrary Tx Receipt L1BlockInfo RpcReceipt)
    (block : OpBlock Tx) : Prop :=
  chain.nonceAt chain.latest = chain.nonceAfter lib block

end Chain

/-- The node answers for the latest block from the state of that block. -/
def EthState.Serves (eth : EthState E) (chain : Chain) : Prop :=
  ∀ address, eth.transactionCount address (some (.number .latest)) =
    .ok (BitVec.ofNat 256 (chain.nonceAt chain.latest address))

/-! ## What a query answers -/

/-- The answer for a sender: the nonce at the latest block and the cached transactions. -/
theorem getTransactionCount_pending {lib : NodeLibrary Tx Receipt L1BlockInfo RpcReceipt}
    (hdecodes : lib.DecodesTransactions) (messages : List FlashblocksPayloadV1)
    {block : OpBlock Tx}
    (hblock : (run (receive lib) .new messages).inner.block = some block)
    (hlength : block.body.transactions.length < 2 ^ 63) {chain : Chain} {eth : EthState E}
    (hserves : eth.Serves chain) {address : Address}
    (hsent : 0 < block.body.transactions.countP (lib.sentBy address)) :
    FlashblocksApiExt.getTransactionCount ⟨eth, run (receive lib) .new messages⟩ address
      (some (.number .pending)) =
        .ok (BitVec.ofNat 256 (chain.nonceAt chain.latest address +
          block.body.transactions.countP (lib.sentBy address))) := by
  have hcount := getTransactionCount_run hdecodes messages hblock hsent
  have hle : block.body.transactions.countP (lib.sentBy address) < 2 ^ 64 := by
    have hle := List.countP_le_length (p := lib.sentBy address) (l := block.body.transactions)
    omega
  simp only [FlashblocksApiExt.getTransactionCount, Option.getD_some, BlockId.isPending, if_true,
    hserves address, hcount]
  rw [UInt64.toNat_ofNat_of_lt' hle, BitVec.ofNat_add]
  rfl

/-- For every reachable cache and every state of the chain in which the pending block is built
on the latest block or already is the latest block, the pending nonce of a sender is right
exactly if the block is not imported yet. -/
theorem pending_nonce_iff_awaits {lib : NodeLibrary Tx Receipt L1BlockInfo RpcReceipt}
    (hdecodes : lib.DecodesTransactions) (messages : List FlashblocksPayloadV1)
    {block : OpBlock Tx}
    (hblock : (run (receive lib) .new messages).inner.block = some block)
    -- no vector is longer than this
    (hlength : block.body.transactions.length < 2 ^ 63) {chain : Chain}
    (hlatest : chain.Awaits block ∨ chain.HasImported lib block) {eth : EthState E}
    (hserves : eth.Serves chain) {address : Address}
    (hsent : ∃ tx ∈ block.body.transactions, lib.recoverSigner tx = .ok address) :
    FlashblocksApiExt.getTransactionCount ⟨eth, run (receive lib) .new messages⟩ address
        (some (.number .pending)) =
      .ok (BitVec.ofNat 256 (chain.nonceAfter lib block address)) ↔ chain.Awaits block := by
  have hpos : 0 < block.body.transactions.countP (lib.sentBy address) := by
    obtain ⟨tx, htx, hsigner⟩ := hsent
    exact List.countP_pos_iff.mpr ⟨tx, htx, by simp [NodeLibrary.sentBy, hsigner]⟩
  have hle := List.countP_le_length (p := lib.sentBy address) (l := block.body.transactions)
  rw [getTransactionCount_pending hdecodes messages hblock hlength hserves hpos]
  have hafter := lib.execute_apply (chain.nonceAt block.header.parentHash)
    block.body.transactions address
  constructor
  · intro h
    obtain hawaits | himported := hlatest
    · exact hawaits
    · -- the transactions are in the nonce at the latest block, and are added to it once more
      rw [himported] at h
      have hvalue := congrArg BitVec.toNat (Except.ok.inj h)
      rw [BitVec.toNat_ofNat, BitVec.toNat_ofNat] at hvalue
      omega
  · intro hawaits
    rw [hawaits, Chain.nonceAfter, hafter]

/-- The two flashblocks of the tests form a block on the block with hash zero. The transfer
has nonce 365. -/
def testChain (latest : B256) : Chain where
  latest := latest
  nonceAt hash :=
    if hash = 0 then fun _ => 365
    else Pending.placingLibrary.execute (fun _ => 365) [.deposit, .transfer]

/-- A node that knows the latest block only. -/
def testEth (chain : Chain) : EthState String where
  transactionCount address _ := .ok (BitVec.ofNat 256 (chain.nonceAt chain.latest address))

theorem exists_block_twoFlashblocks :
    ∃ block, (run (receive Pending.placingLibrary) .new Pending.twoFlashblocks).inner.block =
        some block ∧
      block.header.parentHash = 0 ∧ block.body.transactions = [.deposit, .transfer] := by
  have hparent : (run (receive Pending.placingLibrary) .new
      Pending.twoFlashblocks).inner.block.map (fun block =>
        (block.header.parentHash, block.body.transactions)) = some (0, [.deposit, .transfer]) := by
    decide +kernel
  obtain ⟨block, hblock, heq⟩ := Option.map_eq_some_iff.mp hparent
  obtain ⟨hhash, htxs⟩ := Prod.mk.inj heq
  exact ⟨block, hblock, hhash, htxs⟩

theorem pending_nonce_of_transfer :
    FlashblocksApiExt.getTransactionCount
      ⟨testEth (testChain 0), run (receive Pending.placingLibrary) .new Pending.twoFlashblocks⟩
      (TestTransaction.signer .transfer) (some (.number .pending)) = .ok 366 := by
  obtain ⟨block, hblock, hhash, htxs⟩ := exists_block_twoFlashblocks
  have hawaits : (testChain 0).Awaits block := hhash.symm
  have hafter : (testChain 0).nonceAfter Pending.placingLibrary block
      (TestTransaction.signer .transfer) = 366 := by
    rw [Chain.nonceAfter, hhash, htxs]
    decide
  rw [(pending_nonce_iff_awaits Pending.placingLibrary_decodes Pending.twoFlashblocks hblock
    (by simp [htxs]) (.inl hawaits) (fun _ => rfl)
    ⟨.transfer, by simp [htxs], rfl⟩).mpr hawaits, hafter]
  rfl

/-- With the block imported, the transfer is counted twice. -/
theorem imported_transfer_counts_twice :
    ∃ block, (run (receive Pending.placingLibrary) .new Pending.twoFlashblocks).inner.block =
        some block ∧
      (testChain 1).HasImported Pending.placingLibrary block ∧
      (testEth (testChain 1)).Serves (testChain 1) ∧
      (∃ tx ∈ block.body.transactions,
        Pending.placingLibrary.recoverSigner tx = .ok (TestTransaction.signer .transfer)) ∧
      FlashblocksApiExt.getTransactionCount
          ⟨testEth (testChain 1), run (receive Pending.placingLibrary) .new Pending.twoFlashblocks⟩
          (TestTransaction.signer .transfer) (some (.number .pending)) = .ok 367 ∧
      (testChain 1).nonceAfter Pending.placingLibrary block (TestTransaction.signer .transfer) =
        366 := by
  obtain ⟨block, hblock, hhash, htxs⟩ := exists_block_twoFlashblocks
  refine ⟨block, hblock, ?_, fun _ => rfl, ⟨.transfer, by simp [htxs], rfl⟩, ?_, ?_⟩
  · rw [Chain.HasImported, Chain.nonceAfter, hhash, htxs]
    rfl
  · decide +kernel
  · rw [Chain.nonceAfter, hhash, htxs]
    decide

end RollupBoost
