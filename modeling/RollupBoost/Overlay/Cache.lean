import RollupBoost.Flashblocks.Builder
import RollupBoost.Machine.Outcome

/-!
# The cache of the RPC overlay

`FlashblocksCache` (`flashblocks-rpc/src/cache.rs`) turns a stream of flashblocks
into the pending block that the overlay serves. A message with index zero starts a
new block; every accepted message rebuilds the block, the receipts and the nonces
from all the flashblocks held so far.

The node library decodes transactions, recovers signers, hashes blocks and formats
receipts. It is not part of this repository and enters as the record `NodeLibrary`
of the functions that the cache calls. What the cache relies on is stated where it
is used.

An `expect` of the source is a panic here. A message that fails leaves the cache as
it was, since the cache works on a clone and stores it at the end.
-/

namespace RollupBoost

open Machine

/-- `alloy_consensus::Header`. -/
structure Header where
  parentHash : B256
  ommersHash : B256
  beneficiary : Address
  stateRoot : B256
  transactionsRoot : B256
  receiptsRoot : B256
  logsBloom : Bloom
  difficulty : U256
  number : UInt64
  gasLimit : UInt64
  gasUsed : UInt64
  timestamp : UInt64
  extraData : Bytes
  mixHash : B256
  nonce : B64
  baseFeePerGas : Option UInt64
  withdrawalsRoot : Option B256
  blobGasUsed : Option UInt64
  excessBlobGas : Option UInt64
  parentBeaconBlockRoot : Option B256
  requestsHash : Option B256
  deriving DecidableEq, Inhabited

structure BlockBody (Tx : Type) where
  transactions : List Tx
  ommers : List Header
  withdrawals : Option (List Withdrawal)

structure OpBlock (Tx : Type) where
  header : Header
  body : BlockBody Tx

/-- The metadata of a flashblock. Balances are listed in the order in which the hash
map is walked. -/
structure Metadata (Receipt : Type) where
  receipts : Table String Receipt
  newAccountBalances : List (String × String)
  blockNumber : UInt64

structure TransactionMeta where
  txHash : B256
  index : UInt64
  blockHash : B256
  blockNumber : UInt64
  baseFee : Option UInt64
  excessBlobGas : Option UInt64
  timestamp : UInt64

/-- A transaction with the signer that was recovered from its signature. -/
structure Recovered (Tx : Type) where
  tx : Tx
  signer : Address

structure ConvertReceiptInput (Tx Receipt : Type) where
  receipt : Receipt
  tx : Recovered Tx
  gasUsed : UInt64
  nextLogIndex : Nat
  info : TransactionMeta

/-- The functions of the node library that the cache calls. The chain specification
never changes and is part of the receipt builder, which also updates the L1 block
info it is given. -/
structure NodeLibrary (Tx Receipt L1BlockInfo RpcReceipt : Type) where
  fromValue : Value → Except String (Metadata Receipt)
  decode2718 : Bytes → Except String Tx
  tryIntoBlock : ExecutionPayloadV3 → Except String (OpBlock Tx)
  recoverSigner : Tx → Except String Address
  tryToRecoveredRef : Tx → Except String (Recovered Tx)
  txHash : Tx → B256
  hashToString : B256 → String
  hashSlow : OpBlock Tx → B256
  extractL1Info : BlockBody Tx → Except String L1BlockInfo
  opReceiptBuilder :
    ConvertReceiptInput Tx Receipt → L1BlockInfo → Except String (RpcReceipt × L1BlockInfo)
  cumulativeGasUsed : Receipt → UInt64
  logsLen : Receipt → Nat
  addressFromStr : String → Except String Address
  u256FromStr : String → Except String U256

/-- `try_into_block` decodes the transactions of the payload one by one, in order. -/
def NodeLibrary.DecodesTransactions {Tx Receipt L1BlockInfo RpcReceipt : Type}
    (lib : NodeLibrary Tx Receipt L1BlockInfo RpcReceipt) : Prop :=
  ∀ payload block, lib.tryIntoBlock payload = .ok block →
    payload.payloadInner.payloadInner.transactions.mapM lib.decode2718 =
      .ok block.body.transactions

structure FlashblocksCacheInner (Tx RpcReceipt : Type) where
  builder : FlashblockBuilder
  block : Option (OpBlock Tx)
  balanceCache : Table Address U256
  nonceCache : Table Address UInt64
  receiptsCache : Table B256 RpcReceipt

namespace FlashblocksCacheInner

variable {Tx Receipt L1BlockInfo RpcReceipt : Type}

def new : FlashblocksCacheInner Tx RpcReceipt where
  builder := .new
  block := none
  balanceCache := .empty
  nonceCache := .empty
  receiptsCache := .empty

/-- Every field goes back to its initial value. -/
def reset (_ : FlashblocksCacheInner Tx RpcReceipt) : FlashblocksCacheInner Tx RpcReceipt :=
  new

variable (lib : NodeLibrary Tx Receipt L1BlockInfo RpcReceipt)

/-- The first loop over the transactions: count the transactions of each signer and
collect the receipts. -/
def collectReceipts (metadata : Metadata Receipt) :
    List Tx → Table Address UInt64 → Outcome String (Table Address UInt64 × List Receipt)
  | [], nonceMap => .ok (nonceMap, [])
  | tx :: txs, nonceMap => do
      let nonceMap :=
        match lib.recoverSigner tx with
        | .ok signer => nonceMap.insert signer ((nonceMap signer).getD 0 + 1)
        | .error _ => nonceMap
      let receipt ← Outcome.expect "Receipt should exist"
        (metadata.receipts (lib.hashToString (lib.txHash tx)))
      let (nonceMap, receipts) ← collectReceipts metadata txs nonceMap
      .ok (nonceMap, receipt :: receipts)

/-- What the second loop carries from one transaction to the next. -/
structure ReceiptLoop (L1BlockInfo RpcReceipt : Type) where
  l1BlockInfo : L1BlockInfo
  gasUsed : UInt64
  nextLogIndex : Nat
  receiptsCache : Table B256 RpcReceipt

/-- The second loop: build the receipt of each transaction from its position, the
gas and the logs of those before it. -/
def buildReceipts (block : OpBlock Tx) (blockHash : B256) (allReceipts : List Receipt) :
    List Tx → Nat → ReceiptLoop L1BlockInfo RpcReceipt →
      Outcome String (ReceiptLoop L1BlockInfo RpcReceipt)
  | [], _, loop => .ok loop
  | tx :: txs, indx, loop => do
      let receipt ← Outcome.expect "Receipt should exist for transaction" allReceipts[indx]?
      let info : TransactionMeta :=
        { txHash := lib.txHash tx
          index := UInt64.ofNat indx
          blockHash := blockHash
          blockNumber := block.header.number
          baseFee := block.header.baseFeePerGas
          excessBlobGas := block.header.excessBlobGas
          timestamp := block.header.timestamp }
      let recovered ← Outcome.ofExcept (lib.tryToRecoveredRef tx)
      let input : ConvertReceiptInput Tx Receipt :=
        { receipt := receipt
          tx := recovered
          gasUsed := lib.cumulativeGasUsed receipt - loop.gasUsed
          nextLogIndex := loop.nextLogIndex
          info := info }
      let (rpcReceipt, l1BlockInfo) ← Outcome.expect "failed to build receipt"
        (lib.opReceiptBuilder input loop.l1BlockInfo).toOption
      buildReceipts block blockHash allReceipts txs (indx + 1)
        { l1BlockInfo := l1BlockInfo
          gasUsed := lib.cumulativeGasUsed receipt
          nextLogIndex := loop.nextLogIndex + lib.logsLen receipt
          receiptsCache := loop.receiptsCache.insert (lib.txHash tx) rpcReceipt }

def storeBalances : List (String × String) → Table Address U256 →
    Outcome String (Table Address U256)
  | [], balanceCache => .ok balanceCache
  | (address, balance) :: rest, balanceCache => do
      let address ← Outcome.ofExcept
        ((lib.addressFromStr address).mapError ("Failed to parse address: " ++ ·))
      let balance ← Outcome.ofExcept
        ((lib.u256FromStr balance).mapError ("Failed to parse balance: " ++ ·))
      storeBalances rest (balanceCache.insert address balance)

/-- The receipts of a block without transactions are not touched. -/
def updateReceipts (block : OpBlock Tx) (allReceipts : List Receipt)
    (receiptsCache : Table B256 RpcReceipt) : Outcome String (Table B256 RpcReceipt) :=
  if block.body.transactions.isEmpty then
    .ok receiptsCache
  else do
    -- the first transaction of a block is the L1 info transaction
    let l1BlockInfo ← Outcome.expect "failed to extract l1 info"
      (lib.extractL1Info block.body).toOption
    let loop ← buildReceipts lib block (lib.hashSlow block) allReceipts block.body.transactions 0
      { l1BlockInfo := l1BlockInfo
        gasUsed := 0
        nextLogIndex := 0
        receiptsCache := receiptsCache }
    .ok loop.receiptsCache

/-- `self.builder.extend(payload)?` -/
def extendBuilder (builder : FlashblockBuilder) (payload : FlashblocksPayloadV1) :
    Outcome String FlashblockBuilder :=
  match builder.extend payload with
  | (builder, .ok _) => .ok builder
  | (_, .error e) => .error e.message

/-- The V4 envelope of the builder, and the V3 payload inside it. -/
def innerPayload (builder : FlashblockBuilder) : Outcome String ExecutionPayloadV3 :=
  match builder.buildEnvelope .v4 with
  | .ok (.v4 envelope) => .ok envelope.executionPayload.payloadInner
  | .ok (.v3 _) => .error "Invalid payload version"
  | .error e => .error e.message

/-- The state after a message that was accepted. -/
def processPayload (self : FlashblocksCacheInner Tx RpcReceipt) (payload : FlashblocksPayloadV1) :
    Outcome String (FlashblocksCacheInner Tx RpcReceipt) := do
  let metadata ← Outcome.ofExcept
    ((lib.fromValue payload.metadata).mapError ("Failed to deserialize metadata: " ++ ·))
  let self := if payload.index.toNat = 0 then self.reset else self
  let builder ← extendBuilder self.builder payload
  let executionPayload ← innerPayload builder
  let block ← Outcome.ofExcept ((lib.tryIntoBlock executionPayload).mapError
    ("Failed to convert execution payload to block: " ++ ·))
  let (nonceMap, allReceipts) ←
    collectReceipts lib metadata block.body.transactions Table.empty
  let receiptsCache ← updateReceipts lib block allReceipts self.receiptsCache
  let balanceCache ← storeBalances lib metadata.newAccountBalances self.balanceCache
  .ok
    { builder := builder
      block := some block
      balanceCache := balanceCache
      -- the keys of the map are distinct, so the order of these insertions does not matter
      nonceCache := fun address => (nonceMap address).or (self.nonceCache address)
      receiptsCache := receiptsCache }

variable {lib} {self next : FlashblocksCacheInner Tx RpcReceipt} {payload : FlashblocksPayloadV1}

/-- The builder that a message extends: index zero begins a new block. -/
def startBuilder (self : FlashblocksCacheInner Tx RpcReceipt) (payload : FlashblocksPayloadV1) :
    FlashblockBuilder :=
  if payload.index.toNat = 0 then .new else self.builder

theorem builder_of_start (self : FlashblocksCacheInner Tx RpcReceipt)
    (payload : FlashblocksPayloadV1) :
    (if payload.index.toNat = 0 then self.reset else self).builder = self.startBuilder payload := by
  simp only [startBuilder]
  split <;> rfl

theorem extendBuilder_eq_ok {builder extended : FlashblockBuilder}
    (h : extendBuilder builder payload = .ok extended) :
    builder.Accepts payload ∧ extended = builder.push payload := by
  simp only [extendBuilder] at h
  obtain ⟨haccepts, heq⟩ | ⟨-, e, heq⟩ := builder.extend_cases payload
  · rw [heq] at h
    exact ⟨haccepts, (Outcome.ok.inj h).symm⟩
  · rw [heq] at h
    exact absurd h (by simp)

/-- An accepted message extended the builder, and the block is the one that the
builder then stands for. -/
theorem processPayload_eq_ok (h : self.processPayload lib payload = .ok next) :
    (self.startBuilder payload).Accepts payload ∧
    next.builder = (self.startBuilder payload).push payload ∧
    ∃ executionPayload block, innerPayload next.builder = .ok executionPayload ∧
      lib.tryIntoBlock executionPayload = .ok block ∧ next.block = some block := by
  obtain ⟨metadata, -, h⟩ := Outcome.bind_eq_ok h
  obtain ⟨builder, hextend, h⟩ := Outcome.bind_eq_ok h
  obtain ⟨executionPayload, hinner, h⟩ := Outcome.bind_eq_ok h
  obtain ⟨block, hblock, h⟩ := Outcome.bind_eq_ok h
  obtain ⟨⟨nonceMap, allReceipts⟩, -, h⟩ := Outcome.bind_eq_ok h
  obtain ⟨receiptsCache, -, h⟩ := Outcome.bind_eq_ok h
  obtain ⟨balanceCache, -, h⟩ := Outcome.bind_eq_ok h
  obtain rfl := Outcome.ok.inj h
  rw [builder_of_start] at hextend
  obtain ⟨haccepts, hpush⟩ := extendBuilder_eq_ok hextend
  exact ⟨haccepts, hpush, executionPayload, block, hinner,
    Outcome.ofExcept_mapError_eq_ok hblock, rfl⟩

end FlashblocksCacheInner

/-- A builder with sources has an inner payload, with the transactions of its sources. -/
theorem Builds.exists_innerPayload {builder : FlashblockBuilder}
    {sources : List FlashblocksPayloadV1} (h : Builds builder sources)
    (hne : 0 < sources.length) :
    ∃ executionPayload, FlashblocksCacheInner.innerPayload builder = .ok executionPayload ∧
      executionPayload.payloadInner.payloadInner.transactions =
        sources.flatMap (·.diff.transactions) := by
  obtain ⟨envelope, henvelope, hversion, htxs⟩ := h.exists_envelope hne .v4
  cases envelope with
  | v3 payload => exact absurd hversion (by simp [OpExecutionPayloadEnvelope.version])
  | v4 payload => exact ⟨_, by simp only [FlashblocksCacheInner.innerPayload, henvelope]; rfl, htxs⟩

/-! ## Queries -/

/-- The functions of the node library that only `get_block` calls. It recovers one signer for
each transaction. -/
structure RpcLibrary (Tx : Type) where
  recoverSigners : BlockBody Tx → Except String (List Address)
  headerHash : Header → B256
  isDeposit : Tx → Bool
  effectiveTipPerGas : Tx → UInt64 → Option (BitVec 128)
  maxFeePerGas : Tx → BitVec 128
  recoverSigners_length : ∀ {body signers}, recoverSigners body = .ok signers →
    signers.length = body.transactions.length

structure TransactionInfo where
  hash : Option B256
  blockHash : Option B256
  blockNumber : Option UInt64
  index : Option UInt64
  baseFee : Option UInt64

/-- A transaction as the RPC shows it. -/
structure RpcTransaction (Tx : Type) where
  inner : Recovered Tx
  blockHash : Option B256
  blockNumber : Option UInt64
  transactionIndex : Option UInt64
  effectiveGasPrice : Option (BitVec 128)
  depositNonce : Option UInt64
  depositReceiptVersion : Option UInt64

inductive BlockTransactions (Tx : Type) where
  | full (transactions : List (RpcTransaction Tx))
  | hashes (hashes : List B256)

structure RpcBlock (Tx : Type) where
  hash : B256
  header : Header
  transactions : BlockTransactions Tx
  uncles : List B256
  withdrawals : Option (List Withdrawal)

/-- The price of a deposit is zero. -/
def transformTx {Tx : Type} (rpc : RpcLibrary Tx) (tx : Recovered Tx) (txInfo : TransactionInfo) :
    RpcTransaction Tx where
  inner := tx
  blockHash := txInfo.blockHash
  blockNumber := txInfo.blockNumber
  transactionIndex := txInfo.index
  effectiveGasPrice := some (
    if rpc.isDeposit tx.tx then 0
    else
      match txInfo.baseFee with
      | some baseFee =>
          (rpc.effectiveTipPerGas tx.tx baseFee).getD 0 + BitVec.ofNat 128 baseFee.toNat
      | none => rpc.maxFeePerGas tx.tx)
  depositNonce := none
  depositReceiptVersion := none

namespace FlashblocksCacheInner

variable {Tx Receipt L1BlockInfo RpcReceipt : Type}

/-- The pending block, with its transactions in full or by their hashes. -/
def getBlock (lib : NodeLibrary Tx Receipt L1BlockInfo RpcReceipt) (rpc : RpcLibrary Tx)
    (self : FlashblocksCacheInner Tx RpcReceipt) (full : Bool) :
    Outcome String (Option (RpcBlock Tx)) :=
  match self.block with
  | none => .ok none
  | some block =>
      let answer (transactions : BlockTransactions Tx) : RpcBlock Tx :=
        { hash := rpc.headerHash block.header
          header := block.header
          transactions := transactions
          uncles := []
          withdrawals := some [] }
      let transactions := block.body.transactions
      if full then do
        let signers ← Outcome.expect "called `Result::unwrap()` on an `Err` value"
          (rpc.recoverSigners block.body).toOption
        let converted := (transactions.zip signers).mapIdx fun idx (tx, sender) =>
          transformTx rpc { tx := tx, signer := sender }
            { hash := some (lib.txHash tx)
              blockHash := some (rpc.headerHash block.header)
              blockNumber := some block.header.number
              index := some (UInt64.ofNat idx)
              baseFee := block.header.baseFeePerGas }
        .ok (some (answer (.full converted)))
      else .ok (some (answer (.hashes (transactions.map lib.txHash))))

def getBalance (self : FlashblocksCacheInner Tx RpcReceipt) (address : Address) : Option U256 :=
  self.balanceCache address

def getNonce (self : FlashblocksCacheInner Tx RpcReceipt) (address : Address) : Option UInt64 :=
  self.nonceCache address

end FlashblocksCacheInner

/-- The cache that readers see; it is replaced as a whole. -/
structure FlashblocksCache (Tx RpcReceipt : Type) where
  inner : FlashblocksCacheInner Tx RpcReceipt

namespace FlashblocksCache

variable {Tx Receipt L1BlockInfo RpcReceipt : Type}

def new : FlashblocksCache Tx RpcReceipt := { inner := .new }

def processPayload (lib : NodeLibrary Tx Receipt L1BlockInfo RpcReceipt)
    (self : FlashblocksCache Tx RpcReceipt) (payload : FlashblocksPayloadV1) :
    FlashblocksCache Tx RpcReceipt × Outcome String Unit :=
  match self.inner.processPayload lib payload with
  | .ok newState => ({ inner := newState }, .ok ())
  | .error e => (self, .error e)
  | .panic message => (self, .panic message)

def getReceipt (self : FlashblocksCache Tx RpcReceipt) (txHash : B256) : Option RpcReceipt :=
  self.inner.receiptsCache txHash

def getBlock (lib : NodeLibrary Tx Receipt L1BlockInfo RpcReceipt) (rpc : RpcLibrary Tx)
    (self : FlashblocksCache Tx RpcReceipt) (full : Bool) : Outcome String (Option (RpcBlock Tx)) :=
  self.inner.getBlock lib rpc full

def getTransactionCount (self : FlashblocksCache Tx RpcReceipt) (address : Address) :
    Option UInt64 :=
  self.inner.getNonce address

def getBalance (self : FlashblocksCache Tx RpcReceipt) (address : Address) : Option U256 :=
  self.inner.getBalance address

theorem processPayload_ok {lib : NodeLibrary Tx Receipt L1BlockInfo RpcReceipt}
    {self : FlashblocksCache Tx RpcReceipt} {payload : FlashblocksPayloadV1}
    (h : (self.processPayload lib payload).2 = .ok ()) :
    self.inner.processPayload lib payload = .ok (self.processPayload lib payload).1.inner := by
  simp only [processPayload] at h ⊢
  cases hinner : self.inner.processPayload lib payload with
  | ok newState => rfl
  | error e => simp [hinner] at h
  | panic message => simp [hinner] at h

end FlashblocksCache

end RollupBoost
