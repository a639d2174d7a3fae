import RollupBoost.Overlay.Provenance
import RollupBoost.Overlay.Receipts

/-!
# Coherence of the answers of the overlay

The cache answers from a block and three tables, and an accepted message updates each of them
by a rule of its own. The block is decoded again, the counts of the whole block are merged into
the old ones, the receipts of all transactions of the block are inserted over the old ones, and
only the balances of the message at hand are inserted.

Between two messages with index zero the block only grows. So nothing of an older block is
left in a table, and every entry that an earlier message made is overwritten or still right.
`Coherent` states this for a cache and the messages that its block is made of.
-/

namespace RollupBoost

open Machine

variable {Tx Receipt L1BlockInfo RpcReceipt : Type}

/-- Where a receipt says that its transaction stands. -/
structure ReceiptPlace where
  txHash : B256
  index : UInt64
  blockHash : B256
  blockNumber : UInt64
  deriving DecidableEq

namespace NodeLibrary

variable (lib : NodeLibrary Tx Receipt L1BlockInfo RpcReceipt)

/-- The receipt builder copies the place of the transaction into the receipt. -/
def PlacesReceipts (place : RpcReceipt → ReceiptPlace) : Prop :=
  ∀ input info receipt info', lib.opReceiptBuilder input info = .ok (receipt, info') →
    place receipt =
      { txHash := input.info.txHash
        index := input.info.index
        blockHash := input.info.blockHash
        blockNumber := input.info.blockNumber }

/-- The transaction is recovered to this sender. -/
def sentBy (address : Address) (tx : Tx) : Bool :=
  match lib.recoverSigner tx with
  | .ok signer => signer == address
  | .error _ => false

/-- The balance that an entry of the metadata gives to an address. -/
def entryBalance (address : Address) (entry : String × String) : Option U256 :=
  match lib.addressFromStr entry.1 with
  | .ok named => if named = address then (lib.u256FromStr entry.2).toOption else none
  | .error _ => none

/-- The balance that a message gives to an address, if it names it. -/
def namedBalance (address : Address) (payload : FlashblocksPayloadV1) : Option U256 :=
  match lib.fromValue payload.metadata with
  | .ok metadata => metadata.newAccountBalances.findSome? (lib.entryBalance address)
  | .error _ => none

/-- No two entries are for one address, also not in different spellings. -/
def EntriesDistinct (entries : List (String × String)) : Prop :=
  entries.Pairwise fun entry other =>
    ∀ address, lib.addressFromStr entry.1 = .ok address → lib.addressFromStr other.1 ≠ .ok address

/-- The metadata of the message names an address at most once. -/
def NamesOnce (payload : FlashblocksPayloadV1) : Prop :=
  ∀ metadata, lib.fromValue payload.metadata = .ok metadata →
    lib.EntriesDistinct metadata.newAccountBalances

end NodeLibrary

namespace FlashblocksCacheInner

variable {lib : NodeLibrary Tx Receipt L1BlockInfo RpcReceipt} {place : RpcReceipt → ReceiptPlace}
variable {metadata : Metadata Receipt} {block : OpBlock Tx}

/-! ## What each table takes from a message -/

/-- Counting `n` more transactions of a sender. -/
def addCount (before : Option UInt64) (n : Nat) : Option UInt64 :=
  if n = 0 then before else some (before.getD 0 + UInt64.ofNat n)

theorem addCount_succ (before : Option UInt64) (n : Nat) :
    addCount (some (before.getD 0 + 1)) n = addCount before (n + 1) := by
  have hsucc : UInt64.ofNat (n + 1) = 1 + UInt64.ofNat n := by
    rw [UInt64.ofNat_add, UInt64.add_comm]
    rfl
  simp only [addCount, if_neg (Nat.succ_ne_zero n), hsucc, Option.getD_some]
  split
  · next hzero => simp [hzero]
  · rw [UInt64.add_assoc]

/-- The first loop counts the transactions of each sender. -/
theorem collectReceipts_count {txs : List Tx} {nonceMap nonces : Table Address UInt64}
    {receipts : List Receipt}
    (h : collectReceipts lib metadata txs nonceMap = .ok (nonces, receipts)) (address : Address) :
    nonces address = addCount (nonceMap address) (txs.countP (lib.sentBy address)) := by
  induction txs generalizing nonceMap receipts with
  | nil =>
      obtain ⟨rfl, -⟩ := Prod.mk.inj (Outcome.ok.inj h)
      simp [addCount]
  | cons tx txs ih =>
      obtain ⟨receipt, -, h⟩ := Outcome.bind_eq_ok h
      obtain ⟨⟨counted, rest⟩, hrest, h⟩ := Outcome.bind_eq_ok h
      obtain ⟨rfl, -⟩ := Prod.mk.inj (Outcome.ok.inj h)
      rw [ih hrest, List.countP_cons]
      cases hsigner : lib.recoverSigner tx with
      | error e => simp [NodeLibrary.sentBy, hsigner]
      | ok signer =>
          by_cases heq : address = signer
          · simp only [NodeLibrary.sentBy, hsigner, heq, Table.insert_self, BEq.rfl, if_true]
            exact addCount_succ ..
          · have hne : (signer == address) = false := by
              rw [beq_eq_false_iff_ne]
              exact fun h => heq h.symm
            simp only [NodeLibrary.sentBy, hsigner, hne, Table.insert_of_ne _ heq]
            simp

/-- A receipt is for a transaction with the hash, and gives its position in the block. -/
def IsReceiptOf (lib : NodeLibrary Tx Receipt L1BlockInfo RpcReceipt)
    (place : RpcReceipt → ReceiptPlace) (block : OpBlock Tx) (hash : B256)
    (receipt : RpcReceipt) : Prop :=
  ∃ i tx, block.body.transactions[i]? = some tx ∧ lib.txHash tx = hash ∧
    place receipt =
      { txHash := hash
        index := UInt64.ofNat i
        blockHash := lib.hashSlow block
        blockNumber := block.header.number }

/-- After the second loop, a hash has the receipt of the last transaction with this hash, or
what it had before. -/
theorem buildReceipts_cases (hplaces : lib.PlacesReceipts place) {allReceipts : List Receipt}
    (before : List Tx) {txs : List Tx} {loop final : ReceiptLoop L1BlockInfo RpcReceipt}
    (htxs : block.body.transactions = before ++ txs)
    (h : buildReceipts lib block (lib.hashSlow block) allReceipts txs before.length loop =
      .ok final) (hash : B256) :
    (∃ receipt, final.receiptsCache hash = some receipt ∧
      IsReceiptOf lib place block hash receipt) ∨
    ((∀ tx ∈ txs, lib.txHash tx ≠ hash) ∧
      final.receiptsCache hash = loop.receiptsCache hash) := by
  induction txs generalizing before loop with
  | nil =>
      obtain rfl := Outcome.ok.inj h
      exact .inr ⟨by simp, rfl⟩
  | cons tx txs ih =>
      obtain ⟨receipt, -, h⟩ := Outcome.bind_eq_ok h
      obtain ⟨recovered, -, h⟩ := Outcome.bind_eq_ok h
      obtain ⟨⟨rpcReceipt, l1BlockInfo⟩, hresult, h⟩ := Outcome.bind_eq_ok h
      have hbuilt : place rpcReceipt =
          { txHash := lib.txHash tx
            index := UInt64.ofNat before.length
            blockHash := lib.hashSlow block
            blockNumber := block.header.number } :=
        hplaces _ _ _ _ (Outcome.expect_toOption_eq_ok hresult)
      have hlength : before.length + 1 = (before ++ [tx]).length := by simp
      simp only at h
      rw [hlength] at h
      obtain hfound | ⟨hother, hkept⟩ := ih (before ++ [tx]) (by simp [htxs]) h
      · exact .inl hfound
      · by_cases heq : hash = lib.txHash tx
        · subst heq
          refine .inl ⟨rpcReceipt, by rw [hkept]; exact Table.insert_self .., before.length, tx,
            by simp [htxs], rfl, hbuilt⟩
        · refine .inr ⟨?_, by rw [hkept]; exact Table.insert_of_ne _ heq _⟩
          rw [List.forall_mem_cons]
          exact ⟨fun h => heq h.symm, hother⟩

/-- The receipts of all transactions are inserted; the other hashes keep what they had. -/
theorem updateReceipts_cases (hplaces : lib.PlacesReceipts place) {allReceipts : List Receipt}
    {receiptsCache next : Table B256 RpcReceipt}
    (h : updateReceipts lib block allReceipts receiptsCache = .ok next) (hash : B256) :
    (∃ receipt, next hash = some receipt ∧ IsReceiptOf lib place block hash receipt) ∨
    ((∀ tx ∈ block.body.transactions, lib.txHash tx ≠ hash) ∧
      next hash = receiptsCache hash) := by
  simp only [updateReceipts] at h
  split at h
  · next hempty =>
      obtain rfl := Outcome.ok.inj h
      rw [List.isEmpty_iff] at hempty
      exact .inr ⟨by simp [hempty], rfl⟩
  · obtain ⟨l1BlockInfo, -, h⟩ := Outcome.bind_eq_ok h
    obtain ⟨loop, hloop, h⟩ := Outcome.bind_eq_ok h
    obtain rfl := Outcome.ok.inj h
    exact buildReceipts_cases hplaces [] rfl hloop hash

/-- The balances of the message are inserted; the other addresses keep what they had. -/
theorem storeBalances_apply {entries : List (String × String)}
    {balanceCache next : Table Address U256} (hdistinct : lib.EntriesDistinct entries)
    (h : storeBalances lib entries balanceCache = .ok next) (address : Address) :
    next address = (entries.findSome? (lib.entryBalance address)).or (balanceCache address) := by
  induction entries generalizing balanceCache with
  | nil =>
      obtain rfl := Outcome.ok.inj h
      rfl
  | cons entry entries ih =>
      obtain ⟨hfresh, hrest⟩ := List.pairwise_cons.mp hdistinct
      obtain ⟨named, hnamed, h⟩ := Outcome.bind_eq_ok h
      obtain ⟨balance, hbalance, h⟩ := Outcome.bind_eq_ok h
      have hnamed := Outcome.ofExcept_mapError_eq_ok hnamed
      have hbalance := Outcome.ofExcept_mapError_eq_ok hbalance
      rw [ih hrest h, List.findSome?_cons]
      by_cases heq : address = named
      · subst heq
        -- the entries that follow are for other addresses
        have hnone : entries.findSome? (lib.entryBalance address) = none := by
          rw [List.findSome?_eq_none_iff]
          intro other hother
          have hne := hfresh other hother address hnamed
          simp only [NodeLibrary.entryBalance]
          split
          · next key hkey =>
              exact if_neg fun h => hne (by rw [hkey, h])
          · rfl
        rw [hnone, Table.insert_self]
        simp [NodeLibrary.entryBalance, hnamed, hbalance, Except.toOption]
      · have hskip : lib.entryBalance address entry = none := by
          simp only [NodeLibrary.entryBalance, hnamed]
          exact if_neg fun h => heq h.symm
        rw [hskip, Table.insert_of_ne _ heq]

/-! ## One message -/

variable {self next : FlashblocksCacheInner Tx RpcReceipt} {payload : FlashblocksPayloadV1}
variable {sources : List FlashblocksPayloadV1}

/-- The state that a message is worked into: index zero begins a new block. -/
def startState (self : FlashblocksCacheInner Tx RpcReceipt) (payload : FlashblocksPayloadV1) :
    FlashblocksCacheInner Tx RpcReceipt :=
  if payload.index.toNat = 0 then self.reset else self

/-- How an accepted message leaves the tables. -/
theorem processPayload_tables (h : self.processPayload lib payload = .ok next) :
    ∃ metadata block nonceMap allReceipts,
      lib.fromValue payload.metadata = .ok metadata ∧ next.block = some block ∧
      collectReceipts lib metadata block.body.transactions Table.empty =
        .ok (nonceMap, allReceipts) ∧
      updateReceipts lib block allReceipts (self.startState payload).receiptsCache =
        .ok next.receiptsCache ∧
      storeBalances lib metadata.newAccountBalances (self.startState payload).balanceCache =
        .ok next.balanceCache ∧
      ∀ address, next.nonceCache address =
        (nonceMap address).or ((self.startState payload).nonceCache address) := by
  obtain ⟨metadata, hmetadata, h⟩ := Outcome.bind_eq_ok h
  obtain ⟨builder, -, h⟩ := Outcome.bind_eq_ok h
  obtain ⟨executionPayload, -, h⟩ := Outcome.bind_eq_ok h
  obtain ⟨block, -, h⟩ := Outcome.bind_eq_ok h
  obtain ⟨⟨nonceMap, allReceipts⟩, hcollected, h⟩ := Outcome.bind_eq_ok h
  obtain ⟨receiptsCache, hreceipts, h⟩ := Outcome.bind_eq_ok h
  obtain ⟨balanceCache, hbalances, h⟩ := Outcome.bind_eq_ok h
  obtain rfl := Outcome.ok.inj h
  exact ⟨metadata, block, nonceMap, allReceipts, Outcome.ofExcept_mapError_eq_ok hmetadata, rfl,
    hcollected, hreceipts, hbalances, fun address => rfl⟩

/-- The transactions of the pending block. -/
def transactions (self : FlashblocksCacheInner Tx RpcReceipt) : List Tx :=
  (self.block.map (·.body.transactions)).getD []

/-- The block and the tables agree with the messages that the block is made of. -/
structure Coherent (lib : NodeLibrary Tx Receipt L1BlockInfo RpcReceipt)
    (place : RpcReceipt → ReceiptPlace) (inner : FlashblocksCacheInner Tx RpcReceipt)
    (sources : List FlashblocksPayloadV1) : Prop where
  block : inner.block.isNone = sources.isEmpty
  decoded : (sources.flatMap (·.diff.transactions)).mapM lib.decode2718 = .ok inner.transactions
  receipt : ∀ hash receipt, inner.receiptsCache hash = some receipt →
    ∃ block, inner.block = some block ∧ IsReceiptOf lib place block hash receipt
  stored : ∀ tx ∈ inner.transactions, (inner.receiptsCache (lib.txHash tx)).isSome = true
  count : ∀ address, inner.nonceCache address =
    addCount none (inner.transactions.countP (lib.sentBy address))
  balance : ∀ address, inner.balanceCache address =
    sources.reverse.findSome? (lib.namedBalance address)

theorem coherent_new : Coherent lib place (new : FlashblocksCacheInner Tx RpcReceipt) [] where
  block := rfl
  decoded := rfl
  receipt := by simp [new]
  stored := by simp [new, transactions]
  count := by simp [new, transactions, addCount]
  balance := by simp [new]

/-- The counts of the longer block replace those of the shorter one. -/
theorem addCount_or {before after : Nat} (h : before ≤ after) :
    (addCount none after).or (addCount none before) = addCount none after := by
  simp only [addCount]
  split
  · next hzero =>
      rw [if_pos (by omega)]
      rfl
  · rfl

/-- With more messages, there are more transactions behind those that were there. -/
theorem decoded_append {more : List FlashblocksPayloadV1} {held txs : List Tx}
    (hheld : (sources.flatMap (·.diff.transactions)).mapM lib.decode2718 = .ok held)
    (hdecoded : ((sources ++ more).flatMap (·.diff.transactions)).mapM lib.decode2718 = .ok txs) :
    ∃ own, txs = held ++ own := by
  rw [List.flatMap_append, List.mapM_append, hheld] at hdecoded
  obtain ⟨held', hheld, hdecoded⟩ := except_bind_eq_ok hdecoded
  obtain ⟨own, -, hdecoded⟩ := except_bind_eq_ok hdecoded
  obtain rfl := Except.ok.inj hheld
  exact ⟨own, (Except.ok.inj hdecoded).symm⟩

/-- The counts are those of the whole block again. -/
theorem count_extend {own : List Tx} (hprocess : self.processPayload lib payload = .ok next)
    (hgrows : next.transactions = (self.startState payload).transactions ++ own)
    (hcount : ∀ address, (self.startState payload).nonceCache address =
      addCount none ((self.startState payload).transactions.countP (lib.sentBy address)))
    (address : Address) :
    next.nonceCache address = addCount none (next.transactions.countP (lib.sentBy address)) := by
  obtain ⟨metadata, block, nonceMap, allReceipts, -, hblock, hcollected, -, -, hnonces⟩ :=
    processPayload_tables hprocess
  have htxs : next.transactions = block.body.transactions := by simp [transactions, hblock]
  rw [hnonces, collectReceipts_count hcollected, hcount, ← htxs, Table.empty_apply]
  apply addCount_or
  rw [hgrows, List.countP_append]
  omega

/-- A message that continues the block keeps the tables coherent. -/
theorem Coherent.extend (hplaces : lib.PlacesReceipts place) (honce : lib.NamesOnce payload)
    (h : Coherent lib place (self.startState payload) sources)
    (hprocess : self.processPayload lib payload = .ok next)
    (hdecoded : ((sources ++ [payload]).flatMap (·.diff.transactions)).mapM lib.decode2718 =
      .ok next.transactions) :
    Coherent lib place next (sources ++ [payload]) := by
  obtain ⟨metadata, block, nonceMap, allReceipts, hmetadata, hblock, hcollected, hreceipts,
    hbalances, -⟩ := processPayload_tables hprocess
  have htxs : next.transactions = block.body.transactions := by simp [transactions, hblock]
  obtain ⟨own, hgrows⟩ := decoded_append h.decoded hdecoded
  have hcases := updateReceipts_cases hplaces hreceipts
  refine ⟨by simp [hblock], hdecoded, ?_, ?_, count_extend hprocess hgrows h.count, ?_⟩
  · intro hash receipt hreceipt
    refine ⟨block, hblock, ?_⟩
    obtain ⟨stored, hstored, hplace⟩ | ⟨hother, hkept⟩ := hcases hash
    · obtain rfl := Option.some.inj (hreceipt.symm.trans hstored)
      exact hplace
    · -- a receipt that was there is for a transaction that still is in the block
      obtain ⟨begun, hbegun, i, tx, htx, rfl, -⟩ := h.receipt hash receipt (hkept ▸ hreceipt)
      refine absurd rfl (hother tx ?_)
      rw [← htxs, hgrows]
      apply List.mem_append_left
      simp only [transactions, hbegun, Option.map_some, Option.getD_some]
      exact List.mem_of_getElem? htx
  · intro tx htx
    obtain ⟨stored, hstored, -⟩ | ⟨hother, -⟩ := hcases (lib.txHash tx)
    · rw [hstored]
      rfl
    · exact absurd rfl (hother tx (htxs ▸ htx))
  · intro address
    have hown : [payload].reverse.findSome? (lib.namedBalance address) =
        metadata.newAccountBalances.findSome? (lib.entryBalance address) := by
      simp [NodeLibrary.namedBalance, hmetadata]
    rw [storeBalances_apply (honce metadata hmetadata) hbalances, h.balance, List.reverse_append,
      List.findSome?_append, hown]

end FlashblocksCacheInner

/-! ## Every stream of messages -/

/-- The block that the RPC shows has these transactions, in full or by their hashes. -/
def RpcBlock.Shows (lib : NodeLibrary Tx Receipt L1BlockInfo RpcReceipt) (txs : List Tx)
    (answer : RpcBlock Tx) : Prop :=
  match answer.transactions with
  | .full transactions => transactions.map (·.inner.tx) = txs
  | .hashes hashes => hashes = txs.map lib.txHash

namespace FlashblocksCacheInner

/-- The block is shown with its transactions, whenever there is one. -/
theorem getBlock_shows (lib : NodeLibrary Tx Receipt L1BlockInfo RpcReceipt) (rpc : RpcLibrary Tx)
    (self : FlashblocksCacheInner Tx RpcReceipt) (full : Bool) {answer : Option (RpcBlock Tx)}
    (h : self.getBlock lib rpc full = .ok answer) :
    answer.isNone = self.block.isNone ∧ ∀ shown ∈ answer, shown.Shows lib self.transactions := by
  simp only [getBlock] at h
  split at h
  · next hnone =>
      obtain rfl := Outcome.ok.inj h
      simp [hnone]
  · next block hblock =>
      have htxs : self.transactions = block.body.transactions := by simp [transactions, hblock]
      rw [hblock, htxs]
      cases full with
      | false =>
          obtain rfl := Outcome.ok.inj h
          exact ⟨rfl, by simp [RpcBlock.Shows]⟩
      | true =>
          obtain ⟨signers, hsigners, h⟩ := Outcome.bind_eq_ok h
          obtain rfl := Outcome.ok.inj h
          have hlength := rpc.recoverSigners_length (Outcome.expect_toOption_eq_ok hsigners)
          refine ⟨rfl, ?_⟩
          rintro shown ⟨⟩
          simp only [RpcBlock.Shows]
          apply List.ext_getElem
          · simp [hlength]
          · intro i _ _
            simp [transformTx]

/-- Only the full block needs the signers. -/
theorem getBlock_hashes (lib : NodeLibrary Tx Receipt L1BlockInfo RpcReceipt) (rpc : RpcLibrary Tx)
    (self : FlashblocksCacheInner Tx RpcReceipt) :
    ∃ answer, self.getBlock lib rpc false = .ok answer := by
  simp only [getBlock]
  split
  · exact ⟨_, rfl⟩
  · exact ⟨_, rfl⟩

end FlashblocksCacheInner

namespace Pending

variable {lib : NodeLibrary Tx Receipt L1BlockInfo RpcReceipt} {place : RpcReceipt → ReceiptPlace}

/-- The block is decoded from the transactions of its sources. -/
theorem MadeOf.decoded {x : Pending Tx RpcReceipt} {block : OpBlock Tx} (h : x.MadeOf lib)
    (hdecodes : lib.DecodesTransactions) (hne : 0 < x.sources.length)
    (hblock : x.cache.inner.block = some block) :
    (x.sources.flatMap (·.diff.transactions)).mapM lib.decode2718 =
      .ok x.cache.inner.transactions := by
  obtain ⟨executionPayload, hinner, hconverted⟩ := h.block block hblock
  obtain ⟨executionPayload', hinner', htxs⟩ := h.builds.exists_innerPayload hne
  obtain rfl := Outcome.ok.inj (hinner.symm.trans hinner')
  rw [← htxs, hdecodes executionPayload block hconverted]
  simp [FlashblocksCacheInner.transactions, hblock]

/-- The cache is made of its sources and answers accordingly. -/
def Coherent (lib : NodeLibrary Tx Receipt L1BlockInfo RpcReceipt)
    (place : RpcReceipt → ReceiptPlace) (x : Pending Tx RpcReceipt) : Prop :=
  x.MadeOf lib ∧ x.cache.inner.Coherent lib place x.sources

/-- What holds of the empty cache and survives every message that continues a block holds of the
cache and its sources after every message. -/
theorem extend_step {I : FlashblocksCacheInner Tx RpcReceipt → List FlashblocksPayloadV1 → Prop}
    (hdecodes : lib.DecodesTransactions) {x : Pending Tx RpcReceipt}
    {payload : FlashblocksPayloadV1} (hmade : x.MadeOf lib) (hnew : I .new [])
    (hextend : ∀ sources next, I (x.cache.inner.startState payload) sources →
      x.cache.inner.processPayload lib payload = .ok next →
      ((sources ++ [payload]).flatMap (·.diff.transactions)).mapM lib.decode2718 =
        .ok next.transactions → I next (sources ++ [payload]))
    (h : I x.cache.inner x.sources) :
    I (x.step lib payload).cache.inner (x.step lib payload).sources := by
  have hnext := madeOf_step x payload hmade
  rw [step_eq] at hnext ⊢
  cases hprocess : x.cache.inner.processPayload lib payload with
  | error e => exact h
  | panic message => exact h
  | ok next =>
      obtain ⟨-, -, -, block, -, -, hblock⟩ := FlashblocksCacheInner.processPayload_eq_ok hprocess
      simp only [hprocess] at hnext
      have hdecoded := hnext.decoded hdecodes (by simp only; split <;> simp) hblock
      simp only at hdecoded ⊢
      split
      · next hzero =>
          rw [if_pos hzero] at hdecoded
          have hstart : I (x.cache.inner.startState payload) [] := by
            rw [FlashblocksCacheInner.startState, if_pos hzero]
            exact hnew
          exact hextend [] next hstart hprocess hdecoded
      · next hlater =>
          rw [if_neg hlater] at hdecoded
          have hstart : I (x.cache.inner.startState payload) x.sources := by
            rw [FlashblocksCacheInner.startState, if_neg hlater]
            exact h
          exact hextend x.sources next hstart hprocess hdecoded

theorem coherent_step (hdecodes : lib.DecodesTransactions) (hplaces : lib.PlacesReceipts place)
    (x : Pending Tx RpcReceipt) (payload : FlashblocksPayloadV1) (h : x.Coherent lib place)
    (honce : lib.NamesOnce payload) : (x.step lib payload).Coherent lib place := by
  refine ⟨madeOf_step x payload h.1, ?_⟩
  apply extend_step hdecodes h.1 FlashblocksCacheInner.coherent_new ?_ h.2
  intro sources next hstart hprocess hdecoded
  exact hstart.extend hplaces honce hprocess hdecoded

/-- What the queries answer when the block has these transactions. -/
structure Answers (lib : NodeLibrary Tx Receipt L1BlockInfo RpcReceipt)
    (place : RpcReceipt → ReceiptPlace) (x : Pending Tx RpcReceipt) (txs : List Tx) : Prop where
  pending : x.cache.inner.block.map (·.body.transactions) =
    if x.sources.isEmpty then none else some txs
  block : ∀ rpc full answer, x.cache.getBlock lib rpc full = .ok answer →
    answer.isNone = x.sources.isEmpty ∧ ∀ shown ∈ answer, shown.Shows lib txs
  hashes : ∀ rpc, ∃ answer, x.cache.getBlock lib rpc false = .ok answer
  receipt_iff : ∀ hash, (x.cache.getReceipt hash).isSome = true ↔
    ∃ tx ∈ txs, lib.txHash tx = hash
  receipt : ∀ i tx receipt, txs[i]? = some tx →
    x.cache.getReceipt (lib.txHash tx) = some receipt →
      ∃ block, x.cache.inner.block = some block ∧
        place receipt =
          { txHash := lib.txHash tx
            index := UInt64.ofNat i
            blockHash := lib.hashSlow block
            blockNumber := block.header.number }
  count : ∀ address k, x.cache.getTransactionCount address = some k ↔
    0 < txs.countP (lib.sentBy address) ∧ k = UInt64.ofNat (txs.countP (lib.sentBy address))
  balance : ∀ address, x.cache.getBalance address =
    x.sources.reverse.findSome? (lib.namedBalance address)

/-- With distinct hashes, the position in a receipt is the position of its transaction. -/
theorem Coherent.answers {x : Pending Tx RpcReceipt} (h : x.Coherent lib place)
    (hdistinct : (x.cache.inner.transactions.map lib.txHash).Nodup) :
    x.Answers lib place x.cache.inner.transactions := by
  have hcoherent := h.2
  refine ⟨?_, ?_, fun rpc => x.cache.inner.getBlock_hashes lib rpc, ?_, ?_, ?_,
    hcoherent.balance⟩
  · rw [← hcoherent.block]
    cases hblock : x.cache.inner.block with
    | none => rfl
    | some block => simp [FlashblocksCacheInner.transactions, hblock]
  · intro rpc full answer hanswer
    rw [← hcoherent.block]
    exact FlashblocksCacheInner.getBlock_shows lib rpc x.cache.inner full hanswer
  · intro hash
    constructor
    · intro hsome
      obtain ⟨receipt, hreceipt⟩ := Option.isSome_iff_exists.mp hsome
      obtain ⟨block, hblock, i, tx, htx, hhash, -⟩ := hcoherent.receipt hash receipt hreceipt
      refine ⟨tx, ?_, hhash⟩
      simp only [FlashblocksCacheInner.transactions, hblock, Option.map_some, Option.getD_some]
      exact List.mem_of_getElem? htx
    · rintro ⟨tx, htx, rfl⟩
      exact hcoherent.stored tx htx
  · intro i tx receipt htx hreceipt
    obtain ⟨block, hblock, j, other, hother, hhash, hplace⟩ :=
      hcoherent.receipt (lib.txHash tx) receipt hreceipt
    have htxs : x.cache.inner.transactions = block.body.transactions := by
      simp [FlashblocksCacheInner.transactions, hblock]
    rw [htxs] at htx hdistinct
    -- the transaction that the receipt is for has the same hash, so it is the same one
    have hlt : j < (block.body.transactions.map lib.txHash).length := by
      rw [List.length_map]
      exact (List.getElem?_eq_some_iff.mp hother).1
    have hsame : j = i := by
      apply (List.getElem?_inj hlt hdistinct).mp
      rw [List.getElem?_map, List.getElem?_map, hother, htx, Option.map_some, Option.map_some,
        hhash]
    exact ⟨block, hblock, by rw [hplace, hsame]⟩
  · intro address k
    show x.cache.inner.nonceCache address = some k ↔ _
    rw [hcoherent.count, FlashblocksCacheInner.addCount]
    split
    · next hzero => simp [hzero]
    · next hpos => simp [Nat.pos_of_ne_zero hpos, eq_comm]

/-- Along every stream of messages, a message that fails changes nothing, and the answers are
those of the block that the messages since the last one with index zero make up. -/
theorem cache_is_coherent (hdecodes : lib.DecodesTransactions)
    (hplaces : lib.PlacesReceipts place) (messages : List FlashblocksPayloadV1)
    (honce : ∀ m ∈ messages, lib.NamesOnce m)
    (hdistinct : ∀ block,
      (run (step lib) (new : Pending Tx RpcReceipt) messages).cache.inner.block = some block →
        (block.body.transactions.map lib.txHash).Nodup) :
    let x := run (step lib) (new : Pending Tx RpcReceipt) messages
    x.cache = run (fun cache m => (cache.processPayload lib m).1) .new messages ∧
      (∀ m e, (x.cache.processPayload lib m).2 = .error e →
        (x.cache.processPayload lib m).1 = x.cache) ∧
      ∃ txs, (x.sources.flatMap (·.diff.transactions)).mapM lib.decode2718 = .ok txs ∧
        x.Answers lib place txs := by
  intro x
  have hcoherent : x.Coherent lib place :=
    (Along.of_forall honce).run_invariant (coherent_step hdecodes hplaces)
      ⟨madeOf_new, FlashblocksCacheInner.coherent_new⟩
  refine ⟨run_cache new messages, ?_, x.cache.inner.transactions, hcoherent.2.decoded,
    hcoherent.answers ?_⟩
  · intro m e herror
    simp only [FlashblocksCache.processPayload] at herror ⊢
    split at herror
    · exact absurd herror (by simp)
    · rfl
    · exact absurd herror (by simp)
  · cases hblock : x.cache.inner.block with
    | none => simp [FlashblocksCacheInner.transactions, hblock]
    | some block =>
        have htxs : x.cache.inner.transactions = block.body.transactions := by
          simp [FlashblocksCacheInner.transactions, hblock]
        rw [htxs]
        exact hdistinct block hblock

/-- The test library, with receipts that are just the place of the transaction. -/
def placingLibrary : NodeLibrary TestTransaction Value Unit ReceiptPlace :=
  { testLibrary with
    opReceiptBuilder := fun input info =>
      .ok
        ({ txHash := input.info.txHash
           index := input.info.index
           blockHash := input.info.blockHash
           blockNumber := input.info.blockNumber }, info) }

theorem placingLibrary_decodes : placingLibrary.DecodesTransactions :=
  testLibrary_reliable.decodes

theorem placingLibrary_places : placingLibrary.PlacesReceipts id := by
  intro input info receipt info' h
  obtain ⟨rfl, -⟩ := Prod.mk.inj (Except.ok.inj h)
  rfl

theorem placingLibrary_namesOnce (index : UInt64) (base : Option ExecutionPayloadBaseV1)
    (txs : List TestTransaction) {balances : List (String × String)}
    (hbalances : ∀ entry ∈ balances,
      entry = ("0x1234567890123456789012345678901234567890", "0x11f8"))
    (hlength : balances.length ≤ 1) :
    placingLibrary.NamesOnce (testFlashblock index base txs balances).message := by
  intro metadata hmetadata
  have hvalid := (testFlashblock_valid index base txs hbalances).metadata
  obtain rfl := Except.ok.inj (hmetadata.symm.trans hvalid)
  obtain _ | ⟨entry, _ | ⟨other, balances⟩⟩ := balances
  · exact List.Pairwise.nil
  · exact List.pairwise_singleton ..
  · exact absurd hlength (by simp)

/-- The two flashblocks of the tests: the second one has both transactions and names a balance. -/
def twoFlashblocks : List FlashblocksPayloadV1 :=
  messages (testBlock [] [.deposit, .transfer]
    [("0x1234567890123456789012345678901234567890", "0x11f8")])

theorem namesOnce_twoFlashblocks : ∀ m ∈ twoFlashblocks, placingLibrary.NamesOnce m := by
  simp only [twoFlashblocks, messages, testBlock, List.map_cons, List.map_nil,
    List.forall_mem_cons]
  exact ⟨placingLibrary_namesOnce _ _ _ (by simp) (by simp),
    placingLibrary_namesOnce _ _ _ (by simp) (by simp), by simp⟩

theorem block_twoFlashblocks :
    (run (step placingLibrary) new twoFlashblocks).cache.inner.block.map (·.body.transactions) =
      some [.deposit, .transfer] := by
  decide +kernel

theorem coherent_after_two_flashblocks :
    let x := run (step placingLibrary) new twoFlashblocks
    x.Answers placingLibrary id [.deposit, .transfer] ∧
      (x.cache.getReceipt (TestTransaction.hash .transfer)).map (·.index) = some 1 ∧
      x.cache.getBalance 0x1234567890123456789012345678901234567890 = some 4600 := by
  obtain ⟨-, -, txs, -, hanswers⟩ := cache_is_coherent placingLibrary_decodes
    placingLibrary_places twoFlashblocks namesOnce_twoFlashblocks (by
      intro block hsome
      have htxs := block_twoFlashblocks
      rw [hsome, Option.map_some] at htxs
      rw [Option.some.inj htxs]
      decide)
  have htxs : some [.deposit, .transfer] = some txs := by
    have hpending := hanswers.pending
    rw [block_twoFlashblocks] at hpending
    split at hpending
    · exact absurd hpending (by simp)
    · exact hpending
  obtain rfl := Option.some.inj htxs
  exact ⟨hanswers, by decide +kernel, by decide +kernel⟩

end Pending

end RollupBoost
