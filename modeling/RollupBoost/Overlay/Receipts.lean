import Mathlib.Data.List.Induction
import RollupBoost.Machine.Run
import RollupBoost.Overlay.Agreement

/-!
# Receipts of the pending block

The metadata of a flashblock lists the receipts of the transactions in that flashblock. The
cache, however, walks over the transactions of the whole block so far and expects a receipt
for each of them in the metadata of the message at hand. A second flashblock with
transactions therefore meets the transactions of the first one without a receipt, and the
expectation panics.

`ValidBlock` is a stream that does everything right: indices in order, the base on the first
message only, decodable and signed transactions, the L1 info transaction in front, receipts
of exactly the own transactions, and gas that does not decrease. It is accepted exactly when
each later flashblock repeats all transactions of the earlier ones, which for distinct
transactions means that only the last flashblock has any.
-/

namespace RollupBoost

open Machine

variable {Tx Receipt L1BlockInfo RpcReceipt : Type}

namespace NodeLibrary

variable (lib : NodeLibrary Tx Receipt L1BlockInfo RpcReceipt)

/-- The key under which the metadata lists the receipt of a transaction. -/
def receiptKey (tx : Tx) : String := lib.hashToString (lib.txHash tx)

/-- What the cache relies on: transactions are decoded one by one, the L1 info is found in
the first transaction, and a receipt can be built from gas that is part of the total. -/
structure Reliable (IsL1Info : Tx → Prop) : Prop where
  decodes : lib.DecodesTransactions
  l1Info : ∀ body tx txs, body.transactions = tx :: txs → IsL1Info tx →
    ∃ info, lib.extractL1Info body = .ok info
  receipt : ∀ input info, input.gasUsed ≤ lib.cumulativeGasUsed input.receipt →
    ∃ result, lib.opReceiptBuilder input info = .ok result

end NodeLibrary

namespace FlashblocksCacheInner

variable {lib : NodeLibrary Tx Receipt L1BlockInfo RpcReceipt} {IsL1Info : Tx → Prop}
variable {metadata : Metadata Receipt}

/-! ## The two loops -/

/-- The receipts that the metadata has for a list of transactions, in their order. -/
def receiptsOf (lib : NodeLibrary Tx Receipt L1BlockInfo RpcReceipt) (metadata : Metadata Receipt)
    (txs : List Tx) : List Receipt :=
  txs.filterMap fun tx => metadata.receipts (lib.receiptKey tx)

theorem length_receiptsOf {txs : List Tx}
    (hall : ∀ tx ∈ txs, (metadata.receipts (lib.receiptKey tx)).isSome = true) :
    (receiptsOf lib metadata txs).length = txs.length := by
  induction txs with
  | nil => rfl
  | cons tx txs ih =>
      obtain ⟨receipt, hreceipt⟩ := Option.isSome_iff_exists.mp (hall tx List.mem_cons_self)
      have hrest := ih fun tx' htx => hall tx' (List.mem_cons_of_mem _ htx)
      simp only [receiptsOf] at hrest ⊢
      rw [List.filterMap_cons, hreceipt]
      simp only [List.length_cons, hrest]

theorem collectReceipts_ok {txs : List Tx}
    (hall : ∀ tx ∈ txs, (metadata.receipts (lib.receiptKey tx)).isSome = true)
    (nonceMap : Table Address UInt64) :
    ∃ nonces, collectReceipts lib metadata txs nonceMap =
      .ok (nonces, receiptsOf lib metadata txs) := by
  induction txs generalizing nonceMap with
  | nil => exact ⟨nonceMap, rfl⟩
  | cons tx txs ih =>
      obtain ⟨receipt, hreceipt⟩ := Option.isSome_iff_exists.mp (hall tx List.mem_cons_self)
      have hlookup : metadata.receipts (lib.hashToString (lib.txHash tx)) = some receipt := hreceipt
      have hrest := ih fun tx' htx => hall tx' (List.mem_cons_of_mem _ htx)
      have hcons : ∀ nonceMap, ∃ nonces,
          (collectReceipts lib metadata txs nonceMap >>=
            fun rest => .ok (rest.1, receipt :: rest.2)) =
          Outcome.ok (nonces, receiptsOf lib metadata (tx :: txs)) := by
        intro nonceMap
        obtain ⟨nonces, heq⟩ := hrest nonceMap
        refine ⟨nonces, ?_⟩
        rw [heq, Outcome.ok_bind]
        simp only [receiptsOf, List.filterMap_cons, hreceipt]
      simp only [collectReceipts, hlookup, Outcome.expect, Outcome.ok_bind]
      exact hcons _

/-- A transaction without a receipt in the metadata ends the loop in a panic. -/
theorem collectReceipts_panics {txs : List Tx} {tx : Tx} (hmem : tx ∈ txs)
    (hmissing : metadata.receipts (lib.receiptKey tx) = none)
    (nonceMap : Table Address UInt64) :
    (collectReceipts lib metadata txs nonceMap).panics = true := by
  induction txs generalizing nonceMap with
  | nil => exact absurd hmem (by simp)
  | cons first txs ih =>
      cases hfirst : metadata.receipts (lib.hashToString (lib.txHash first)) with
      | none => simp [collectReceipts, hfirst, Outcome.expect]
      | some receipt =>
          have hrest : tx ∈ txs := by
            obtain rfl | hrest := List.mem_cons.mp hmem
            · exact absurd (hmissing.symm.trans hfirst) (by simp)
            · exact hrest
          simp only [collectReceipts, hfirst, Outcome.expect, Outcome.ok_bind]
          rw [Outcome.panics_bind (fun _ => rfl)]
          exact ih hrest _

/-- The receipt at the position of the second loop is the first of those that are left. -/
theorem next_receipt {allReceipts rest : List Receipt} {receipt : Receipt} {indx : Nat}
    (hdrop : allReceipts.drop indx = receipt :: rest) :
    allReceipts[indx]? = some receipt ∧ allReceipts.drop (indx + 1) = rest := by
  constructor
  · rw [← List.head?_drop, hdrop, List.head?_cons]
  · rw [← List.tail_drop, hdrop, List.tail_cons]

/-- With a receipt for every transaction, the second loop ends and has stored one for each. -/
theorem buildReceipts_ok (hlib : lib.Reliable IsL1Info) (block : OpBlock Tx) (blockHash : B256)
    (allReceipts : List Receipt) (txs : List Tx) (indx : Nat)
    (loop : ReceiptLoop L1BlockInfo RpcReceipt)
    (hsigned : ∀ tx ∈ txs, ∃ recovered, lib.tryToRecoveredRef tx = .ok recovered)
    (hlength : (allReceipts.drop indx).length = txs.length)
    (hgas : (loop.gasUsed :: (allReceipts.drop indx).map lib.cumulativeGasUsed).Pairwise (· ≤ ·)) :
    ∃ final, buildReceipts lib block blockHash allReceipts txs indx loop = .ok final ∧
      (∀ hash, (loop.receiptsCache hash).isSome = true →
        (final.receiptsCache hash).isSome = true) ∧
      ∀ tx ∈ txs, (final.receiptsCache (lib.txHash tx)).isSome = true := by
  induction txs generalizing indx loop with
  | nil => exact ⟨loop, rfl, fun _ h => h, by simp⟩
  | cons tx txs ih =>
      cases hdrop : allReceipts.drop indx with
      | nil =>
          rw [hdrop] at hlength
          exact absurd hlength (by simp)
      | cons receipt rest =>
          obtain ⟨hget, hnext⟩ := next_receipt hdrop
          rw [hdrop, List.map_cons, List.pairwise_cons, List.pairwise_cons] at hgas
          obtain ⟨hbelow, hrest⟩ := hgas
          obtain ⟨recovered, hrecovered⟩ := hsigned tx List.mem_cons_self
          have hle : loop.gasUsed ≤ lib.cumulativeGasUsed receipt := hbelow _ List.mem_cons_self
          simp only [buildReceipts, hget, Outcome.expect, Outcome.ok_bind, hrecovered,
            Outcome.ofExcept_ok]
          obtain ⟨⟨rpcReceipt, l1BlockInfo⟩, hresult⟩ := hlib.receipt
            { receipt := receipt
              tx := recovered
              gasUsed := lib.cumulativeGasUsed receipt - loop.gasUsed
              nextLogIndex := loop.nextLogIndex
              info :=
                { txHash := lib.txHash tx
                  index := UInt64.ofNat indx
                  blockHash := blockHash
                  blockNumber := block.header.number
                  baseFee := block.header.baseFeePerGas
                  excessBlobGas := block.header.excessBlobGas
                  timestamp := block.header.timestamp } }
            loop.l1BlockInfo (UInt64.sub_le hle)
          simp only [hresult, Except.toOption, Outcome.ok_bind]
          obtain ⟨final, hfinal, hkept, hstored⟩ := ih (indx + 1)
            { l1BlockInfo := l1BlockInfo
              gasUsed := lib.cumulativeGasUsed receipt
              nextLogIndex := loop.nextLogIndex + lib.logsLen receipt
              receiptsCache := loop.receiptsCache.insert (lib.txHash tx) rpcReceipt }
            (fun tx' htx => hsigned tx' (List.mem_cons_of_mem _ htx))
            (by rw [hnext]; simpa [hdrop] using hlength)
            (by rw [hnext]; exact List.pairwise_cons.mpr hrest)
          have hinserted : ∀ hash, (loop.receiptsCache hash).isSome = true →
              (final.receiptsCache hash).isSome = true := by
            intro hash hsome
            apply hkept
            by_cases heq : hash = lib.txHash tx
            · simp [heq]
            · show (loop.receiptsCache.insert (lib.txHash tx) rpcReceipt hash).isSome = true
              rw [Table.insert_of_ne _ heq]
              exact hsome
          refine ⟨final, hfinal, hinserted, ?_⟩
          intro tx' htx
          obtain rfl | htx := List.mem_cons.mp htx
          · apply hkept
            simp
          · exact hstored tx' htx

theorem updateReceipts_ok (hlib : lib.Reliable IsL1Info) {block : OpBlock Tx}
    {allReceipts : List Receipt} (receiptsCache : Table B256 RpcReceipt)
    (hfirst : ∀ tx, block.body.transactions.head? = some tx → IsL1Info tx)
    (hsigned : ∀ tx ∈ block.body.transactions,
      ∃ recovered, lib.tryToRecoveredRef tx = .ok recovered)
    (hlength : allReceipts.length = block.body.transactions.length)
    (hgas : (allReceipts.map lib.cumulativeGasUsed).Pairwise (· ≤ ·)) :
    ∃ cache, updateReceipts lib block allReceipts receiptsCache = .ok cache ∧
      ∀ tx ∈ block.body.transactions, (cache (lib.txHash tx)).isSome = true := by
  cases htxs : block.body.transactions with
  | nil => exact ⟨receiptsCache, by simp [updateReceipts, htxs], by simp⟩
  | cons tx txs =>
      obtain ⟨info, hinfo⟩ := hlib.l1Info block.body tx txs htxs (hfirst tx (by rw [htxs]; rfl))
      obtain ⟨final, hfinal, -, hstored⟩ := buildReceipts_ok hlib block
        (lib.hashSlow block) allReceipts block.body.transactions 0
        { l1BlockInfo := info, gasUsed := 0, nextLogIndex := 0, receiptsCache := receiptsCache }
        hsigned hlength (List.pairwise_cons.mpr ⟨fun gas _ => UInt64.zero_le, hgas⟩)
      refine ⟨final.receiptsCache, ?_, ?_⟩
      · simp only [updateReceipts, htxs, List.isEmpty_cons, Bool.false_eq_true, if_false, hinfo,
          Except.toOption, Outcome.expect, Outcome.ok_bind]
        rw [← htxs, hfinal, Outcome.ok_bind]
      · rw [← htxs]
        exact hstored

theorem storeBalances_ok {balances : List (String × String)}
    (hparse : ∀ entry ∈ balances, (∃ address, lib.addressFromStr entry.1 = .ok address) ∧
      ∃ balance, lib.u256FromStr entry.2 = .ok balance)
    (balanceCache : Table Address U256) :
    ∃ cache, storeBalances lib balances balanceCache = .ok cache := by
  induction balances generalizing balanceCache with
  | nil => exact ⟨balanceCache, rfl⟩
  | cons entry balances ih =>
      obtain ⟨⟨address, haddress⟩, ⟨balance, hbalance⟩⟩ := hparse entry List.mem_cons_self
      have hrest := ih (fun e he => hparse e (List.mem_cons_of_mem _ he))
        (balanceCache.insert address balance)
      obtain ⟨cache, hcache⟩ := hrest
      refine ⟨cache, ?_⟩
      obtain ⟨addressText, balanceText⟩ := entry
      simp only at haddress hbalance
      simp only [storeBalances, haddress, hbalance, Except.mapError, Outcome.ofExcept_ok,
        Outcome.ok_bind, hcache]

/-! ## One message -/

variable {self next : FlashblocksCacheInner Tx RpcReceipt} {payload : FlashblocksPayloadV1}
variable {executionPayload : ExecutionPayloadV3} {block : OpBlock Tx}

/-- Once the block is decoded, what remains are the receipts and the balances. -/
theorem processPayload_of_block (hmetadata : lib.fromValue payload.metadata = .ok metadata)
    (haccepts : (self.startBuilder payload).Accepts payload)
    (hinner : innerPayload ((self.startBuilder payload).push payload) = .ok executionPayload)
    (hblock : lib.tryIntoBlock executionPayload = .ok block) :
    self.processPayload lib payload =
      (collectReceipts lib metadata block.body.transactions Table.empty >>= fun collected =>
        updateReceipts lib block collected.2
            (if payload.index.toNat = 0 then self.reset else self).receiptsCache >>=
          fun receiptsCache =>
            storeBalances lib metadata.newAccountBalances
                (if payload.index.toNat = 0 then self.reset else self).balanceCache >>=
              fun balanceCache => .ok
                { builder := (self.startBuilder payload).push payload
                  block := some block
                  balanceCache := balanceCache
                  nonceCache := fun address => (collected.1 address).or
                    ((if payload.index.toNat = 0 then self.reset else self).nonceCache address)
                  receiptsCache := receiptsCache }) := by
  have hextend : extendBuilder (self.startBuilder payload) payload =
      .ok ((self.startBuilder payload).push payload) := by
    simp [extendBuilder, FlashblockBuilder.extend_of_accepts haccepts]
  simp only [processPayload, hmetadata, Except.mapError, Outcome.ofExcept_ok, Outcome.ok_bind,
    builder_of_start, hextend, hinner, hblock]

/-- A transaction of the block without a receipt in the metadata: the message panics. -/
theorem processPayload_panics (hmetadata : lib.fromValue payload.metadata = .ok metadata)
    (haccepts : (self.startBuilder payload).Accepts payload)
    (hinner : innerPayload ((self.startBuilder payload).push payload) = .ok executionPayload)
    (hblock : lib.tryIntoBlock executionPayload = .ok block) {tx : Tx}
    (hmem : tx ∈ block.body.transactions)
    (hmissing : metadata.receipts (lib.receiptKey tx) = none) :
    (self.processPayload lib payload).panics = true := by
  rw [processPayload_of_block hmetadata haccepts hinner hblock]
  have hpanics := collectReceipts_panics hmem hmissing (Table.empty : Table Address UInt64)
  cases hcollected : collectReceipts lib metadata block.body.transactions Table.empty with
  | ok collected => simp [hcollected] at hpanics
  | error e => simp [hcollected] at hpanics
  | panic message => rfl

/-- A receipt in the metadata for every transaction of the block: the message is accepted,
and a receipt is served for each of them. -/
theorem processPayload_receives (hlib : lib.Reliable IsL1Info)
    (hmetadata : lib.fromValue payload.metadata = .ok metadata)
    (haccepts : (self.startBuilder payload).Accepts payload)
    (hinner : innerPayload ((self.startBuilder payload).push payload) = .ok executionPayload)
    (hblock : lib.tryIntoBlock executionPayload = .ok block)
    (hall : ∀ tx ∈ block.body.transactions,
      (metadata.receipts (lib.receiptKey tx)).isSome = true)
    (hfirst : ∀ tx, block.body.transactions.head? = some tx → IsL1Info tx)
    (hsigned : ∀ tx ∈ block.body.transactions,
      ∃ recovered, lib.tryToRecoveredRef tx = .ok recovered)
    (hgas : ((receiptsOf lib metadata block.body.transactions).map
      lib.cumulativeGasUsed).Pairwise (· ≤ ·))
    (hparse : ∀ entry ∈ metadata.newAccountBalances,
      (∃ address, lib.addressFromStr entry.1 = .ok address) ∧
        ∃ balance, lib.u256FromStr entry.2 = .ok balance) :
    ∃ next, self.processPayload lib payload = .ok next ∧ next.block = some block ∧
      ∀ tx ∈ block.body.transactions, (next.receiptsCache (lib.txHash tx)).isSome = true := by
  obtain ⟨nonces, hcollected⟩ :=
    collectReceipts_ok hall (Table.empty : Table Address UInt64)
  obtain ⟨receipts, hreceipts, hstored⟩ := updateReceipts_ok hlib
    (if payload.index.toNat = 0 then self.reset else self).receiptsCache hfirst hsigned
    (length_receiptsOf hall) hgas
  obtain ⟨balances, hbalances⟩ := storeBalances_ok hparse
    (if payload.index.toNat = 0 then self.reset else self).balanceCache
  rw [processPayload_of_block hmetadata haccepts hinner hblock, hcollected, Outcome.ok_bind,
    hreceipts, Outcome.ok_bind, hbalances, Outcome.ok_bind]
  exact ⟨_, rfl, rfl, hstored⟩

end FlashblocksCacheInner

/-! ## The flashblocks of one block -/

/-- A message with its decoded transactions and metadata. -/
structure DecodedFlashblock (Tx Receipt : Type) where
  message : FlashblocksPayloadV1
  transactions : List Tx
  metadata : Metadata Receipt

namespace DecodedFlashblock

/-- The message decodes, its signatures are valid, and its metadata lists the receipts of
exactly its own transactions. -/
structure Valid (lib : NodeLibrary Tx Receipt L1BlockInfo RpcReceipt)
    (flashblock : DecodedFlashblock Tx Receipt) : Prop where
  metadata : lib.fromValue flashblock.message.metadata = .ok flashblock.metadata
  transactions : flashblock.message.diff.transactions.mapM lib.decode2718 =
    .ok flashblock.transactions
  signatures : ∀ tx ∈ flashblock.transactions,
    ∃ recovered, lib.tryToRecoveredRef tx = .ok recovered
  receipts : ∀ key, (flashblock.metadata.receipts key).isSome = true ↔
    ∃ tx ∈ flashblock.transactions, lib.receiptKey tx = key
  balances : ∀ entry ∈ flashblock.metadata.newAccountBalances,
    (∃ address, lib.addressFromStr entry.1 = .ok address) ∧
      ∃ balance, lib.u256FromStr entry.2 = .ok balance

end DecodedFlashblock

/-- The transactions of a block so far. -/
def blockTransactions (flashblocks : List (DecodedFlashblock Tx Receipt)) : List Tx :=
  flashblocks.flatMap (·.transactions)

def messages (flashblocks : List (DecodedFlashblock Tx Receipt)) : List FlashblocksPayloadV1 :=
  flashblocks.map (·.message)

/-- The flashblocks of one block, from index zero on. Whatever they amount to so far can be
decoded, and the first transaction is the L1 info transaction. The gas does not decrease
over those transactions of the block for which a flashblock has receipts. -/
structure ValidBlock (lib : NodeLibrary Tx Receipt L1BlockInfo RpcReceipt) (IsL1Info : Tx → Prop)
    (flashblocks : List (DecodedFlashblock Tx Receipt)) : Prop where
  valid : ∀ flashblock ∈ flashblocks, flashblock.Valid lib
  indices : (messages flashblocks).map (·.index.toNat) = List.range flashblocks.length
  bases : ∀ m ∈ messages flashblocks, m.base.isSome = true ↔ m.index.toNat = 0
  blocks : ∀ before after builder executionPayload, flashblocks = before ++ after →
    Builds builder (messages before) →
    FlashblocksCacheInner.innerPayload builder = .ok executionPayload →
      ∃ block, lib.tryIntoBlock executionPayload = .ok block
  l1Info : ∀ tx, (blockTransactions flashblocks).head? = some tx → IsL1Info tx
  gas : ∀ before flashblock after, flashblocks = before ++ flashblock :: after →
    ((FlashblocksCacheInner.receiptsOf lib flashblock.metadata
      (blockTransactions (before ++ [flashblock]))).map lib.cumulativeGasUsed).Pairwise (· ≤ ·)

/-- Each later flashblock has all transactions of the earlier ones among its own. -/
def RepeatsEarlier (lib : NodeLibrary Tx Receipt L1BlockInfo RpcReceipt)
    (flashblocks : List (DecodedFlashblock Tx Receipt)) : Prop :=
  ∀ before flashblock after, flashblocks = before ++ flashblock :: after →
    ∀ tx ∈ blockTransactions before,
      ∃ own ∈ flashblock.transactions, lib.receiptKey own = lib.receiptKey tx

variable {lib : NodeLibrary Tx Receipt L1BlockInfo RpcReceipt} {IsL1Info : Tx → Prop}
variable {flashblocks : List (DecodedFlashblock Tx Receipt)}
variable {flashblock : DecodedFlashblock Tx Receipt}

theorem blockTransactions_concat :
    blockTransactions (flashblocks ++ [flashblock]) =
      blockTransactions flashblocks ++ flashblock.transactions := by
  simp [blockTransactions]

theorem messages_concat :
    messages (flashblocks ++ [flashblock]) = messages flashblocks ++ [flashblock.message] := by
  simp [messages]

theorem ValidBlock.index_last (h : ValidBlock lib IsL1Info (flashblocks ++ [flashblock])) :
    flashblock.message.index.toNat = flashblocks.length := by
  have hindices := h.indices
  rw [messages_concat, List.map_append, List.length_append, List.length_singleton,
    List.range_succ] at hindices
  exact (List.cons.inj (List.append_inj' hindices rfl).2).1

theorem ValidBlock.of_concat (h : ValidBlock lib IsL1Info (flashblocks ++ [flashblock])) :
    ValidBlock lib IsL1Info flashblocks := by
  refine ⟨fun f hf => h.valid f (by simp [hf]), ?_, ?_, ?_, ?_, ?_⟩
  · have hindices := h.indices
    rw [messages_concat, List.map_append, List.length_append, List.length_singleton,
      List.range_succ] at hindices
    exact (List.append_inj' hindices rfl).1
  · intro m hm
    apply h.bases
    simp only [messages, List.map_append, List.mem_append]
    exact .inl hm
  · intro before after builder executionPayload heq hbuilds hinner
    exact h.blocks before (after ++ [flashblock]) builder executionPayload (by simp [heq]) hbuilds
      hinner
  · intro tx htx
    apply h.l1Info
    rw [blockTransactions_concat, List.head?_append, htx]
    rfl
  · intro before f after heq
    exact h.gas before f (after ++ [flashblock]) (by simp [heq])

theorem RepeatsEarlier.concat_iff :
    RepeatsEarlier lib (flashblocks ++ [flashblock]) ↔
      RepeatsEarlier lib flashblocks ∧
      ∀ tx ∈ blockTransactions flashblocks,
        ∃ own ∈ flashblock.transactions, lib.receiptKey own = lib.receiptKey tx := by
  constructor
  · intro h
    refine ⟨?_, h flashblocks flashblock [] rfl⟩
    intro before f after heq
    exact h before f (after ++ [flashblock]) (by simp [heq])
  · rintro ⟨hbefore, hlast⟩ before f after heq
    obtain rfl | ⟨init, last, rfl⟩ := List.eq_nil_or_concat' after
    · obtain ⟨rfl, hlasts⟩ := List.append_inj' heq rfl
      obtain rfl := (List.cons.inj hlasts).1
      exact hlast
    · have hcut : flashblocks ++ [flashblock] = (before ++ f :: init) ++ [last] := by
        simp [heq]
      exact hbefore before f init (List.append_inj' hcut rfl).1

theorem ValidBlock.signed (h : ValidBlock lib IsL1Info flashblocks) :
    ∀ tx ∈ blockTransactions flashblocks,
      ∃ recovered, lib.tryToRecoveredRef tx = .ok recovered := by
  intro tx htx
  obtain ⟨flashblock, hmem, htx⟩ := List.mem_flatMap.mp htx
  exact (h.valid flashblock hmem).signatures tx htx

/-- The transactions of the messages decode to the transactions of the block. -/
theorem mapM_decode (h : ∀ flashblock ∈ flashblocks, flashblock.Valid lib) :
    ((messages flashblocks).flatMap (·.diff.transactions)).mapM lib.decode2718 =
      .ok (blockTransactions flashblocks) := by
  induction flashblocks with
  | nil => rfl
  | cons flashblock flashblocks ih =>
      have hfirst := (h flashblock List.mem_cons_self).transactions
      have hrest := ih fun f hf => h f (List.mem_cons_of_mem _ hf)
      simp only [messages, List.map_cons, List.flatMap_cons, blockTransactions] at hrest ⊢
      rw [List.mapM_append, hfirst, hrest]
      rfl

/-! ## The stream -/

/-- The cache after a message. -/
def receive (lib : NodeLibrary Tx Receipt L1BlockInfo RpcReceipt)
    (cache : FlashblocksCache Tx RpcReceipt) (m : FlashblocksPayloadV1) :
    FlashblocksCache Tx RpcReceipt :=
  (cache.processPayload lib m).1

/-- The message is accepted: no error and no panic. -/
def Accepts (lib : NodeLibrary Tx Receipt L1BlockInfo RpcReceipt)
    (cache : FlashblocksCache Tx RpcReceipt) (m : FlashblocksPayloadV1) : Prop :=
  (cache.processPayload lib m).2 = .ok ()

/-- The pending block has a receipt for each of its transactions. -/
def ReceiptsServed (lib : NodeLibrary Tx Receipt L1BlockInfo RpcReceipt)
    (cache : FlashblocksCache Tx RpcReceipt) : Prop :=
  ∀ block, cache.inner.block = some block →
    ∀ tx ∈ block.body.transactions, (cache.getReceipt (lib.txHash tx)).isSome = true

variable {cache : FlashblocksCache Tx RpcReceipt}

/-- After an accepted beginning of the block, the next message extends a builder that holds
this beginning; the first message extends an empty builder in any cache. -/
theorem startBuilder_builds
    (hvalid : ValidBlock lib IsL1Info (flashblocks ++ [flashblock]))
    (haccepted : Along (receive lib) (Accepts lib) cache (messages flashblocks)) :
    Builds ((run (receive lib) cache (messages flashblocks)).inner.startBuilder
        flashblock.message) (messages flashblocks) ∧
      ((run (receive lib) cache (messages flashblocks)).inner.startBuilder
        flashblock.message).Accepts flashblock.message := by
  have hbuilds : Builds ((run (receive lib) cache (messages flashblocks)).inner.startBuilder
      flashblock.message) (messages flashblocks) := by
    induction flashblocks using List.reverseRecOn generalizing flashblock with
    | nil =>
        have hzero : flashblock.message.index.toNat = 0 := hvalid.index_last
        rw [FlashblocksCacheInner.startBuilder, if_pos hzero]
        exact .new
    | append_singleton flashblocks last ih =>
        rw [messages_concat] at haccepted ⊢
        obtain ⟨hbefore, hlast⟩ := Along.concat_iff.mp haccepted
        have hlater : flashblock.message.index.toNat ≠ 0 := by
          rw [hvalid.index_last]
          simp
        have hheld := ih hvalid.of_concat hbefore
        rw [run_concat, FlashblocksCacheInner.startBuilder, if_neg hlater]
        obtain ⟨haccepts, hbuilder, -⟩ :=
          FlashblocksCacheInner.processPayload_eq_ok (FlashblocksCache.processPayload_ok hlast)
        rw [receive, hbuilder]
        exact hheld.push haccepts
  refine ⟨hbuilds, ?_, ?_⟩
  · rw [hvalid.index_last, hbuilds.length_eq]
    simp [messages]
  · apply hvalid.bases
    simp [messages]

/-- The block that the next message leads to, and what is known about it. -/
theorem exists_block (hlib : lib.Reliable IsL1Info)
    (hvalid : ValidBlock lib IsL1Info (flashblocks ++ [flashblock]))
    {builder : FlashblockBuilder} (hbuilds : Builds builder (messages flashblocks))
    (haccepts : builder.Accepts flashblock.message) :
    ∃ executionPayload block,
      FlashblocksCacheInner.innerPayload (builder.push flashblock.message) =
        .ok executionPayload ∧
      lib.tryIntoBlock executionPayload = .ok block ∧
      block.body.transactions = blockTransactions (flashblocks ++ [flashblock]) := by
  have hpushed := hbuilds.push haccepts
  rw [← messages_concat] at hpushed
  obtain ⟨executionPayload, hinner, htxs⟩ := hpushed.exists_innerPayload (by simp [messages])
  obtain ⟨block, hblock⟩ :=
    hvalid.blocks (flashblocks ++ [flashblock]) [] _ executionPayload (by simp) hpushed hinner
  refine ⟨executionPayload, block, hinner, hblock, ?_⟩
  have hdecoded := hlib.decodes executionPayload block hblock
  rw [htxs, mapM_decode hvalid.valid] at hdecoded
  exact (Except.ok.inj hdecoded).symm

/-- The receipts of a flashblock cover the block so far exactly when the earlier transactions
are among its own. -/
theorem receipts_cover_iff (hvalid : flashblock.Valid lib) :
    (∀ tx ∈ blockTransactions (flashblocks ++ [flashblock]),
      (flashblock.metadata.receipts (lib.receiptKey tx)).isSome = true) ↔
    ∀ tx ∈ blockTransactions flashblocks,
      ∃ own ∈ flashblock.transactions, lib.receiptKey own = lib.receiptKey tx := by
  simp only [hvalid.receipts, blockTransactions_concat, List.mem_append]
  constructor
  · intro h tx htx
    exact h tx (.inl htx)
  · rintro h tx (htx | htx)
    · exact h tx htx
    · exact ⟨tx, htx, rfl⟩

/-- The next message of a block is accepted exactly when it repeats the earlier transactions,
and then a receipt is served for each transaction of the block. -/
theorem accepts_next (hlib : lib.Reliable IsL1Info)
    (hvalid : ValidBlock lib IsL1Info (flashblocks ++ [flashblock]))
    (haccepted : Along (receive lib) (Accepts lib) cache (messages flashblocks)) :
    let held := run (receive lib) cache (messages flashblocks)
    (Accepts lib held flashblock.message ↔
      ∀ tx ∈ blockTransactions flashblocks,
        ∃ own ∈ flashblock.transactions, lib.receiptKey own = lib.receiptKey tx) ∧
    (Accepts lib held flashblock.message →
      ReceiptsServed lib (receive lib held flashblock.message)) := by
  intro held
  have hown : flashblock.Valid lib := hvalid.valid flashblock (by simp)
  obtain ⟨hbuilds, haccepts⟩ := startBuilder_builds hvalid haccepted
  obtain ⟨executionPayload, block, hinner, hblock, htxs⟩ :=
    exists_block hlib hvalid hbuilds haccepts
  have hpanics : Accepts lib held flashblock.message →
      ∀ tx ∈ block.body.transactions,
        (flashblock.metadata.receipts (lib.receiptKey tx)).isSome = true := by
    intro haccept tx htx
    by_contra hmissing
    have hpanic := FlashblocksCacheInner.processPayload_panics hown.metadata haccepts hinner
      hblock htx (Option.not_isSome_iff_eq_none.mp hmissing)
    rw [FlashblocksCache.processPayload_ok haccept] at hpanic
    exact absurd hpanic (by simp)
  have hreceives : (∀ tx ∈ block.body.transactions,
        (flashblock.metadata.receipts (lib.receiptKey tx)).isSome = true) →
      Accepts lib held flashblock.message ∧
        ReceiptsServed lib (receive lib held flashblock.message) := by
    intro hall
    obtain ⟨next, hnext, hcached, hserved⟩ :=
      FlashblocksCacheInner.processPayload_receives hlib hown.metadata haccepts hinner hblock hall
        (by rw [htxs]; exact hvalid.l1Info)
        (by rw [htxs]; exact hvalid.signed)
        (by rw [htxs]; exact hvalid.gas flashblocks flashblock [] rfl)
        hown.balances
    have hprocess : held.processPayload lib flashblock.message = ({ inner := next }, .ok ()) := by
      simp only [FlashblocksCache.processPayload]
      rw [hnext]
    refine ⟨by rw [Accepts, hprocess], ?_⟩
    rw [receive, hprocess]
    intro block' hblock' tx htx
    obtain rfl : block = block' := Option.some.inj (hcached.symm.trans hblock')
    exact hserved tx htx
  rw [← receipts_cover_iff hown, ← htxs]
  exact ⟨⟨hpanics, fun hall => (hreceives hall).1⟩, fun haccept => (hreceives (hpanics haccept)).2⟩

/-- The messages of a valid block are all accepted exactly when each flashblock repeats the
transactions of those before it. -/
theorem accepted_iff_repeats (hlib : lib.Reliable IsL1Info)
    (hvalid : ValidBlock lib IsL1Info flashblocks) (cache : FlashblocksCache Tx RpcReceipt) :
    Along (receive lib) (Accepts lib) cache (messages flashblocks) ↔
      RepeatsEarlier lib flashblocks := by
  induction flashblocks using List.reverseRecOn with
  | nil => simp [messages, Along, RepeatsEarlier]
  | append_singleton flashblocks last ih =>
      rw [messages_concat, Along.concat_iff, RepeatsEarlier.concat_iff, ← ih hvalid.of_concat]
      exact and_congr_right fun hbefore => (accepts_next hlib hvalid hbefore).1

/-- A valid block is accepted message by message, with a receipt for each transaction of the
pending block, exactly when each flashblock repeats the transactions of those before it. -/
theorem receipts_served_iff (hlib : lib.Reliable IsL1Info)
    (hvalid : ValidBlock lib IsL1Info flashblocks) (hne : flashblocks ≠ [])
    (cache : FlashblocksCache Tx RpcReceipt) :
    (Along (receive lib) (Accepts lib) cache (messages flashblocks) ∧
      ReceiptsServed lib (run (receive lib) cache (messages flashblocks))) ↔
    RepeatsEarlier lib flashblocks := by
  rw [← accepted_iff_repeats hlib hvalid cache]
  refine ⟨fun h => h.1, fun h => ⟨h, ?_⟩⟩
  obtain ⟨before, last, rfl⟩ := (List.eq_nil_or_concat' flashblocks).resolve_left hne
  rw [messages_concat, Along.concat_iff] at h
  rw [messages_concat, run_concat]
  exact (accepts_next hlib hvalid h.1).2 h.2

/-! ## The flashblocks of the tests -/

def IsDeposit (tx : TestTransaction) : Prop := tx = .deposit

theorem testLibrary_tryIntoBlock {payload : ExecutionPayloadV3} {txs : List TestTransaction}
    (h : payload.payloadInner.payloadInner.transactions.mapM testLibrary.decode2718 = .ok txs) :
    ∃ block, testLibrary.tryIntoBlock payload = .ok block ∧ block.body.transactions = txs := by
  simp only [testLibrary] at h ⊢
  rw [h]
  exact ⟨_, rfl, rfl⟩

theorem testLibrary_reliable : testLibrary.Reliable IsDeposit where
  decodes := testLibrary_decodesTransactions
  l1Info := by
    rintro body tx txs htxs rfl
    exact ⟨(), by simp [testLibrary, htxs]⟩
  receipt := fun input info _ => ⟨_, rfl⟩

/-- A flashblock with some of the transactions, and with the receipts of just these. -/
def testFlashblock (index : UInt64) (base : Option ExecutionPayloadBaseV1)
    (txs : List TestTransaction) (balances : List (String × String)) :
    DecodedFlashblock TestTransaction Value where
  message :=
    { payloadId := 0
      index := index
      base := base
      diff := { (default : ExecutionPayloadFlashblockDeltaV1) with
        transactions := txs.map (·.encoded) }
      metadata := .object
        [("receipts", .object (txs.map (·.receiptEntry))),
          ("new_account_balances", .object (balances.map fun b => (b.1, .string b.2))),
          ("block_number", .number "1")] }
  transactions := txs
  metadata :=
    { receipts := fun key => (txs.map (·.receiptEntry)).lookup key
      newAccountBalances := balances
      blockNumber := 1 }

theorem testLibrary_receiptKey (tx : TestTransaction) :
    testLibrary.receiptKey tx = tx.hashText := by
  cases tx with
  | deposit => rfl
  | transfer =>
      have hne : TestTransaction.hash .transfer ≠ TestTransaction.hash .deposit := by decide
      simp only [NodeLibrary.receiptKey, testLibrary]
      rw [if_neg hne]

theorem lookup_receiptEntry (txs : List TestTransaction) (key : String) :
    (txs.map (·.receiptEntry)).lookup key =
      (txs.find? fun tx => key == tx.hashText).map (·.receiptEntry.2) := by
  induction txs with
  | nil => rfl
  | cons tx txs ih =>
      have hentry : tx.receiptEntry = (tx.hashText, tx.receiptEntry.2) := rfl
      rw [List.map_cons, hentry, List.lookup_cons, List.find?_cons]
      cases key == tx.hashText with
      | true => rfl
      | false => exact ih

theorem testFlashblock_valid (index : UInt64) (base : Option ExecutionPayloadBaseV1)
    (txs : List TestTransaction) {balances : List (String × String)}
    (hbalances : ∀ entry ∈ balances,
      entry = ("0x1234567890123456789012345678901234567890", "0x11f8")) :
    (testFlashblock index base txs balances).Valid testLibrary where
  metadata := by
    simp [testLibrary, testFlashblock, List.filterMap_map]
  transactions := by
    show (txs.map (·.encoded)).mapM TestTransaction.decode2718 = .ok txs
    induction txs with
    | nil => rfl
    | cons tx txs ih =>
        rw [List.map_cons, List.mapM_cons, TestTransaction.decode2718_encoded, ih]
        rfl
  signatures := fun tx _ => ⟨_, rfl⟩
  receipts := by
    intro key
    show ((txs.map (·.receiptEntry)).lookup key).isSome = true ↔ _
    rw [lookup_receiptEntry, Option.isSome_map, List.find?_isSome]
    simp only [beq_iff_eq, testLibrary_receiptKey]
    exact exists_congr fun tx => and_congr_right fun _ => eq_comm
  balances := by
    intro entry hentry
    rw [hbalances entry hentry]
    exact ⟨⟨_, rfl⟩, ⟨_, rfl⟩⟩

/-- A block of two flashblocks. -/
def testBlock (first second : List TestTransaction) (balances : List (String × String)) :
    List (DecodedFlashblock TestTransaction Value) :=
  [testFlashblock 0 (some testBase) first [], testFlashblock 1 none second balances]

theorem testBlock_valid {first second : List TestTransaction} {balances : List (String × String)}
    (hbalances : ∀ entry ∈ balances,
      entry = ("0x1234567890123456789012345678901234567890", "0x11f8"))
    (hl1Info : ∀ tx, (first ++ second).head? = some tx → IsDeposit tx)
    (hfirst : ((FlashblocksCacheInner.receiptsOf testLibrary
      (testFlashblock 0 (some testBase) first []).metadata first).map
        testLibrary.cumulativeGasUsed).Pairwise (· ≤ ·))
    (hsecond : ((FlashblocksCacheInner.receiptsOf testLibrary
      (testFlashblock 1 none second balances).metadata (first ++ second)).map
        testLibrary.cumulativeGasUsed).Pairwise (· ≤ ·)) :
    ValidBlock testLibrary IsDeposit (testBlock first second balances) := by
  have hvalid : ∀ flashblock ∈ testBlock first second balances, flashblock.Valid testLibrary := by
    simp only [testBlock, List.forall_mem_cons, List.not_mem_nil, false_implies, implies_true,
      and_true]
    exact ⟨testFlashblock_valid _ _ _ (by simp), testFlashblock_valid _ _ _ hbalances⟩
  refine ⟨hvalid, rfl, ?_, ?_, ?_, ?_⟩
  · simp [testBlock, messages, testFlashblock]
  · intro before after builder executionPayload heq hbuilds hinner
    cases before with
    | nil =>
        have hbase : builder.base = none := hbuilds.base
        simp [FlashblocksCacheInner.innerPayload, FlashblockBuilder.buildEnvelope, hbase] at hinner
    | cons flashblock rest =>
        obtain ⟨executionPayload', hinner', htxs⟩ :=
          hbuilds.exists_innerPayload (by simp [messages])
        obtain rfl := Outcome.ok.inj (hinner.symm.trans hinner')
        have hbefore : ∀ f ∈ flashblock :: rest, f.Valid testLibrary := fun f hf =>
          hvalid f (by rw [heq]; exact List.mem_append_left after hf)
        have hdecoded := mapM_decode hbefore
        rw [← htxs] at hdecoded
        obtain ⟨block, hblock, -⟩ := testLibrary_tryIntoBlock hdecoded
        exact ⟨block, hblock⟩
  · simpa [testBlock, blockTransactions, testFlashblock] using hl1Info
  · intro before flashblock after heq
    obtain _ | ⟨earlier, _ | ⟨extra, before⟩⟩ := before
    · obtain ⟨rfl, -⟩ := List.cons.inj heq
      simpa [blockTransactions, testFlashblock] using hfirst
    · obtain ⟨rfl, htail⟩ := List.cons.inj heq
      obtain ⟨rfl, -⟩ := List.cons.inj htail
      simpa [blockTransactions, testFlashblock] using hsecond
    · simp [testBlock] at heq

/-- The two flashblocks of the tests: the second one has all the transactions. -/
theorem receipts_served_in_last_flashblock :
    let flashblocks := testBlock [] [.deposit, .transfer]
      [("0x1234567890123456789012345678901234567890", "0x11f8")]
    Along (receive testLibrary) (Accepts testLibrary) .new (messages flashblocks) ∧
      ReceiptsServed testLibrary (run (receive testLibrary) .new (messages flashblocks)) := by
  intro flashblocks
  have hvalid : ValidBlock testLibrary IsDeposit flashblocks :=
    testBlock_valid (by simp) (by simp [IsDeposit]) (by decide) (by decide)
  refine (receipts_served_iff testLibrary_reliable hvalid (by simp [flashblocks, testBlock])
    .new).mpr ?_
  intro before flashblock after heq
  obtain _ | ⟨earlier, _ | ⟨extra, before⟩⟩ := before
  · simp [blockTransactions]
  · -- the flashblock before the last has no transactions
    obtain ⟨rfl, -⟩ := List.cons.inj heq
    simp [blockTransactions, testFlashblock]
  · simp [flashblocks, testBlock] at heq

/-- The deposit in the first flashblock and the transfer in the second, each with its
receipt: the second message meets the deposit without a receipt. -/
theorem second_flashblock_panics :
    let flashblocks := testBlock [.deposit] [.transfer] []
    ValidBlock testLibrary IsDeposit flashblocks ∧
      ¬ Along (receive testLibrary) (Accepts testLibrary) .new (messages flashblocks) := by
  intro flashblocks
  have hvalid : ValidBlock testLibrary IsDeposit flashblocks :=
    testBlock_valid (by simp) (by simp [IsDeposit]) (by decide) (by decide)
  refine ⟨hvalid, ?_⟩
  rw [accepted_iff_repeats testLibrary_reliable hvalid]
  intro hrepeats
  obtain ⟨own, hown, hkey⟩ := hrepeats [testFlashblock 0 (some testBase) [.deposit] []]
    (testFlashblock 1 none [.transfer] []) [] rfl .deposit
    (by simp [blockTransactions, testFlashblock])
  obtain rfl := List.mem_singleton.mp hown
  rw [testLibrary_receiptKey, testLibrary_receiptKey] at hkey
  exact absurd hkey (by decide)

end RollupBoost
