import RollupBoost.Flashblocks.Service
import RollupBoost.Overlay.Cache

/-!
# The overlay agrees with the service

A `Feed` runs the service and hands each flashblock that it publishes to a cache.
The two sides reset on different events: the service when an id is selected or a
payload is taken, the cache when a message with index zero arrives. In between, the
cache still shows a block that the service has dropped.

The relation that bridges the gap is one-sided. The cache mirrors the builder of the
service whenever that builder holds something. An empty builder accepts only index
zero, and this is the message at which the cache starts over.
-/

namespace RollupBoost

open Machine FlashblocksService

variable {Tx Receipt L1BlockInfo RpcReceipt : Type}

structure Feed (Tx RpcReceipt : Type) where
  service : FlashblocksService
  cache : FlashblocksCache Tx RpcReceipt

namespace Feed

/-- A new service, and a cache in any state. -/
def start (cache : FlashblocksCache Tx RpcReceipt) : Feed Tx RpcReceipt :=
  { service := .new, cache := cache }

/-- The flashblocks that an operation hands to the publisher. -/
def published (x : Feed Tx RpcReceipt) (op : Op) : List FlashblocksPayloadV1 :=
  (x.service.step op).wsPub.drop x.service.wsPub.length

/-- What is published reaches the cache before the next operation. -/
def step (lib : NodeLibrary Tx Receipt L1BlockInfo RpcReceipt) (x : Feed Tx RpcReceipt)
    (op : Op) : Feed Tx RpcReceipt where
  service := x.service.step op
  cache := (x.published op).foldl (fun cache m => (cache.processPayload lib m).1) x.cache

/-- The cache takes what the operation publishes; this is at most one flashblock. -/
def Accepted (lib : NodeLibrary Tx Receipt L1BlockInfo RpcReceipt) (x : Feed Tx RpcReceipt)
    (op : Op) : Prop :=
  ∀ m ∈ x.published op, (x.cache.processPayload lib m).2 = .ok ()

instance (lib : NodeLibrary Tx Receipt L1BlockInfo RpcReceipt) (x : Feed Tx RpcReceipt)
    (op : Op) : Decidable (x.Accepted lib op) :=
  inferInstanceAs (Decidable (∀ m ∈ x.published op, (x.cache.processPayload lib m).2 = .ok ()))

variable {lib : NodeLibrary Tx Receipt L1BlockInfo RpcReceipt} {x : Feed Tx RpcReceipt}

theorem run_service (x : Feed Tx RpcReceipt) (ops : List Op) :
    (run (step lib) x ops).service = run FlashblocksService.step x.service ops := by
  induction ops generalizing x with
  | nil => rfl
  | cons op ops ih => exact ih (x.step lib op)

/-- The simulation relation: while the service holds flashblocks, the cache holds the
same ones. -/
structure Mirrors (x : Feed Tx RpcReceipt) : Prop where
  builds : ∃ sources, Builds x.service.bestPayload sources
  builder : x.service.bestPayload.flashblocks ≠ [] →
    x.cache.inner.builder = x.service.bestPayload

/-- The cache extends the same builder as the service: for index zero both are empty,
for a later index the cache already mirrors the service. -/
theorem Mirrors.startBuilder_eq (h : x.Mirrors) {payload : FlashblocksPayloadV1}
    (haccepts : x.service.bestPayload.Accepts payload) :
    x.cache.inner.startBuilder payload = x.service.bestPayload := by
  simp only [FlashblocksCacheInner.startBuilder]
  by_cases hzero : payload.index.toNat = 0
  · obtain ⟨sources, hbuilds⟩ := h.builds
    have hlength : x.service.bestPayload.flashblocks.length = 0 := by
      rw [← haccepts.1]
      exact hzero
    have hempty : x.service.bestPayload.flashblocks = [] := List.length_eq_zero_iff.mp hlength
    have hnone : x.service.bestPayload.base = none := by
      have hiff := hbuilds.base_isSome_iff
      rw [← hbuilds.length_eq, hlength] at hiff
      simpa using hiff
    rw [if_pos hzero]
    cases hbest : x.service.bestPayload with
    | mk base flashblocks =>
        rw [hbest] at hnone hempty
        simp only at hnone hempty
        rw [hnone, hempty]
        rfl
  · rw [if_neg hzero]
    apply h.builder
    intro hempty
    have hindex := haccepts.1
    rw [hempty] at hindex
    exact hzero hindex

/-- A publication that the cache accepts leaves both sides with the same builder. -/
theorem Mirrors.publish (h : x.Mirrors) {payload : FlashblocksPayloadV1}
    (haccepts : x.service.bestPayload.Accepts payload)
    (hok : (x.cache.processPayload lib payload).2 = .ok ()) :
    (x.cache.processPayload lib payload).1.inner.builder =
      x.service.bestPayload.push payload := by
  obtain ⟨-, hbuilder, -⟩ :=
    FlashblocksCacheInner.processPayload_eq_ok (FlashblocksCache.processPayload_ok hok)
  rw [hbuilder, h.startBuilder_eq haccepts]

theorem mirrors_start (cache : FlashblocksCache Tx RpcReceipt) : (start cache).Mirrors :=
  ⟨⟨[], .new⟩, fun h => absurd rfl h⟩

theorem mirrors_step (x : Feed Tx RpcReceipt) (op : Op) (h : x.Mirrors)
    (hok : x.Accepted lib op) : (x.step lib op).Mirrors := by
  obtain ⟨payload, rfl, ⟨-, haccepts⟩, heq⟩ | ⟨-, hbest, -⟩ | ⟨-, heq, -⟩ :=
    x.service.step_cases op
  · have hpublished : x.published (.onEvent payload) = [payload] := by
      simp [published, heq]
    obtain ⟨sources, hbuilds⟩ := h.builds
    refine ⟨⟨sources ++ [payload], ?_⟩, fun _ => ?_⟩
    · simp only [step, heq]
      exact hbuilds.push haccepts
    · have hcache := h.publish haccepts (hok payload (by simp [hpublished]))
      simpa only [step, heq, hpublished, List.foldl_cons, List.foldl_nil] using hcache
  · refine ⟨⟨[], ?_⟩, ?_⟩
    · simp only [step, hbest]
      exact .new
    · intro hne
      simp only [step, hbest] at hne
      exact absurd rfl hne
  · have hpublished : x.published op = [] := by
      simp [published, heq]
    have hsame : x.step lib op = x := by
      simp [step, heq, hpublished]
    rw [hsame]
    exact h

/-- What the operation published was accepted by the service for its current id. -/
theorem published_eq_singleton {op : Op} {payload : FlashblocksPayloadV1}
    (h : x.published op = [payload]) :
    op = .onEvent payload ∧ x.service.Publishes payload := by
  obtain ⟨m, rfl, hpub, heq⟩ | ⟨-, -, hws⟩ | ⟨-, heq, -⟩ := x.service.step_cases op
  · have hm : m = payload := by
      simpa [published, heq] using h
    subst hm
    exact ⟨rfl, hpub⟩
  · exact absurd h (by simp [published, hws])
  · exact absurd h (by simp [published, heq])

theorem published_onEvent {payload : FlashblocksPayloadV1} (h : x.service.Publishes payload) :
    x.published (.onEvent payload) = [payload] := by
  simp [published, FlashblocksService.step, onEvent_eq, h]

end Feed

/-- Immediately after each publication the cache holds the base and the deltas of
`best_payload`, and its pending block lists the transactions of the block that a
`getPayload` would return at that moment, in every version. -/
theorem overlay_agrees_with_service (lib : NodeLibrary Tx Receipt L1BlockInfo RpcReceipt)
    (hlib : lib.DecodesTransactions)
    (payloadIdOptimism : B256 → OpPayloadAttributes → UInt8 → PayloadId)
    (cache : FlashblocksCache Tx RpcReceipt) (ops : List Op) (op : Op)
    (payload : FlashblocksPayloadV1)
    (haccepted : Along (Feed.step lib) (Feed.Accepted lib) (.start cache) (ops ++ [op]))
    (hpublished : (run (Feed.step lib) (.start cache) ops).published op = [payload]) :
    let x := run (Feed.step lib) (.start cache) (ops ++ [op])
    x.service = run FlashblocksService.step .new (ops ++ [op]) ∧
    x.cache.inner.builder = x.service.bestPayload ∧
    ∃ block, x.cache.inner.block = some block ∧
      ∀ auth version, ∃ envelope,
        ((engineApi payloadIdOptimism).getPayload auth payload.payloadId version
          x.service).result = .ok envelope ∧
        envelope.transactions.mapM lib.decode2718 = .ok block.body.transactions := by
  intro x
  obtain ⟨hbefore, hlast⟩ := Along.concat_iff.mp haccepted
  have hmirrors := hbefore.run_invariant Feed.mirrors_step (Feed.mirrors_start cache)
  set y := run (Feed.step lib) (.start cache) ops with hy
  obtain ⟨rfl, hcurrent, haccepts⟩ := Feed.published_eq_singleton hpublished
  have hok : (y.cache.processPayload lib payload).2 = .ok () :=
    hlast payload (by simp [hpublished])
  have hx : x = { service := y.service.onEvent payload,
                  cache := (y.cache.processPayload lib payload).1 } := by
    simp only [x, run_concat, Feed.step, ← hy, hpublished, List.foldl_cons, List.foldl_nil]
    rfl
  have hservice : y.service.onEvent payload =
      { y.service with
        bestPayload := y.service.bestPayload.push payload
        wsPub := y.service.wsPub ++ [payload] } := by
    rw [onEvent_eq, if_pos ⟨hcurrent, haccepts⟩]
  refine ⟨Feed.run_service _ _, ?_, ?_⟩
  · rw [hx, hservice]
    exact hmirrors.publish haccepts hok
  · -- the block of the cache is decoded from the builder that the service holds
    obtain ⟨-, -, executionPayload, block, hinner, hblock, hstored⟩ :=
      FlashblocksCacheInner.processPayload_eq_ok (FlashblocksCache.processPayload_ok hok)
    rw [hmirrors.publish haccepts hok] at hinner
    obtain ⟨sources, hbuilds⟩ := hmirrors.builds
    have hpushed := hbuilds.push haccepts
    obtain ⟨executionPayload', hinner', htxs⟩ := hpushed.exists_innerPayload (by simp)
    obtain rfl := Outcome.ok.inj (hinner.symm.trans hinner')
    refine ⟨block, by rw [hx]; exact hstored, ?_⟩
    intro auth version
    obtain ⟨envelope, henvelope, -, htransactions⟩ := hpushed.exists_envelope (by simp) version
    refine ⟨envelope, ?_, ?_⟩
    · rw [hx, hservice]
      simp [engineApi, getBestPayload, hcurrent, FlashblockBuilder.intoEnvelope, henvelope]
    · rw [htransactions, ← htxs]
      exact hlib executionPayload block hblock

/-! ## The flashblocks of the tests

The repository tests the cache with two flashblocks: an empty one, and one with a deposit and
a transfer. -/

inductive TestTransaction where
  | deposit
  | transfer
  deriving DecidableEq

/-- The last `count` bytes of a number, the most significant first. -/
def bigEndian : Nat → Nat → Bytes
  | 0, _ => []
  | count + 1, value => UInt8.ofNat (value / 256 ^ count) :: bigEndian count value

namespace TestTransaction

def encoded : TestTransaction → Bytes
  | .deposit =>
      bigEndian 32 0x7ef8f8a042a8ae5ec231af3d0f90f68543ec8bca1da4f7edd712d5b51b490688 ++
      bigEndian 32 0x355a6db794deaddeaddeaddeaddeaddeaddeaddeaddead000194420000000000 ++
      bigEndian 32 0x00000000000000000000000000158080830f424080b8a4440a5e200000044d00 ++
      bigEndian 32 0x0a118b00000000000000040000000067cb7cb0000000000077dbd40000000000 ++
      bigEndian 32 0x00000000000000000000000000000000000000000000000000000a0000000000 ++
      bigEndian 32 0x0000000000000000000000000000000000000000000000000000014edd273041 ++
      bigEndian 32 0x08914dd6503b19b9eeb9956982ef197febbeeed8a9eac3dbaaabdf0000000000 ++
      bigEndian 27 0x00000000000000fc56e7272eebbba5bc6c544e159483c4a38f8ba3
  | .transfer =>
      bigEndian 32 0xf8cd82016d8316e5708302c01c94f39635f2adf40608255779ff742afe13de31 ++
      bigEndian 32 0xf57780b8646e530e970000000000000000000000000000000000000000000000 ++
      bigEndian 32 0x0000000000000000010000000000000000000000000000000000000000000000 ++
      bigEndian 32 0x001bc16d674ec800000000000000000000000000000000000000000000000000 ++
      bigEndian 32 0x0156ddc81eed2a36d68302948ba0a608703e79b22164f74523d188a11f81c25a ++
      bigEndian 32 0x65dd59535bab1cd1d8b30d115f3ea07f4cfbbad77a139c9209d3bded89091867 ++
      bigEndian 15 0xff6b548dd714109c61d1f8e7a84d14

def hash : TestTransaction → B256
  | .deposit => 0x2be2e6f8b01b03b87ae9f0ebca8bbd420f174bef0fbcc18c7802c5378b78f548
  | .transfer => 0xa6155b295085d3b87a3c86e342fe11c3b22f9952d0d85d9d34d223b7d6a17cd8

def hashText : TestTransaction → String
  | .deposit => "0x2be2e6f8b01b03b87ae9f0ebca8bbd420f174bef0fbcc18c7802c5378b78f548"
  | .transfer => "0xa6155b295085d3b87a3c86e342fe11c3b22f9952d0d85d9d34d223b7d6a17cd8"

def signer : TestTransaction → Address
  | .deposit => 0xdeaddeaddeaddeaddeaddeaddeaddeaddead0001
  | .transfer => 0x6e5e56b972374e4fde8390df0033397df931a49d

def cumulativeGasUsed : TestTransaction → String
  | .deposit => "0x5208"
  | .transfer => "0xafc8"

/-- The entry for the transaction in the receipts of the metadata. -/
def receiptEntry (tx : TestTransaction) : String × Value :=
  (tx.hashText, .object [("Legacy", .object
    [("status", .string "0x1"), ("cumulativeGasUsed", .string tx.cumulativeGasUsed),
      ("logs", .array [])])])

def decode2718 (bytes : Bytes) : Except String TestTransaction :=
  if bytes = encoded .deposit then .ok .deposit
  else if bytes = encoded .transfer then .ok .transfer
  else .error "unexpected type flag"

theorem decode2718_encoded (tx : TestTransaction) : decode2718 tx.encoded = .ok tx := by
  have hdistinct : encoded .transfer ≠ encoded .deposit := by
    intro h
    exact absurd (congrArg List.head? h) (by decide)
  cases tx with
  | deposit => simp [decode2718]
  | transfer => simp [decode2718, hdistinct]

def transactionsRoot : List TestTransaction → B256
  | [] => 0x56e81f171bcc55a6ff8345e692c0f86e5b48e01b996cadc001622fb5e363b421
  | [_] => 0xc9588f8e28b46645ebe15ad3b133d65b5bf2d8600134b6b760361029d0b557b3
  | _ => 0xd3d6b5a32059b830f38ce911b10e45c2b1392f8093fa168d23854e830c3facad

end TestTransaction

/-- The node library on blocks of the two transactions. -/
def testLibrary : NodeLibrary TestTransaction Value Unit UInt64 where
  fromValue
    | .object [("receipts", .object receipts), ("new_account_balances", .object balances),
        ("block_number", .number _)] =>
        .ok
          { receipts := fun key => receipts.lookup key
            newAccountBalances := balances.filterMap fun
              | (address, .string balance) => some (address, balance)
              | _ => none
            blockNumber := 1 }
    | _ => .error "invalid type"
  decode2718 := TestTransaction.decode2718
  tryIntoBlock payload := do
    let inner := payload.payloadInner.payloadInner
    let transactions ← inner.transactions.mapM TestTransaction.decode2718
    .ok
      { header :=
          { parentHash := inner.parentHash
            ommersHash := 0x1dcc4de8dec75d7aab85b567b6ccd41ad312451b948a7413f0a142fd40d49347
            beneficiary := inner.feeRecipient
            stateRoot := inner.stateRoot
            transactionsRoot := TestTransaction.transactionsRoot transactions
            receiptsRoot := inner.receiptsRoot
            logsBloom := inner.logsBloom
            difficulty := 0
            number := inner.blockNumber
            gasLimit := inner.gasLimit
            gasUsed := inner.gasUsed
            timestamp := inner.timestamp
            extraData := inner.extraData
            mixHash := inner.prevRandao
            nonce := 0
            baseFeePerGas := some (UInt64.ofNat inner.baseFeePerGas.toNat)
            withdrawalsRoot :=
              some 0x56e81f171bcc55a6ff8345e692c0f86e5b48e01b996cadc001622fb5e363b421
            blobGasUsed := some payload.blobGasUsed
            excessBlobGas := some payload.excessBlobGas
            parentBeaconBlockRoot := none
            requestsHash := none }
        body :=
          { transactions := transactions
            ommers := []
            withdrawals := some payload.payloadInner.withdrawals } }
  recoverSigner tx := .ok tx.signer
  tryToRecoveredRef tx := .ok { tx := tx, signer := tx.signer }
  txHash := TestTransaction.hash
  hashToString hash :=
    if hash = TestTransaction.hash .deposit then TestTransaction.hashText .deposit
    else TestTransaction.hashText .transfer
  hashSlow block := block.header.stateRoot
  extractL1Info body :=
    match body.transactions with
    | .deposit :: _ => .ok ()
    | _ => .error "failed to decode L1 info"
  opReceiptBuilder input info := .ok (input.gasUsed, info)
  cumulativeGasUsed
    | .object [("Legacy", .object (_ :: ("cumulativeGasUsed", .string gas) :: _))] =>
        if gas = "0x5208" then 21000 else if gas = "0xafc8" then 45000 else 0
    | _ => 0
  logsLen _ := 0
  addressFromStr text :=
    if text = "0x1234567890123456789012345678901234567890"
    then .ok 0x1234567890123456789012345678901234567890
    else .error "invalid string length"
  u256FromStr text := if text = "0x11f8" then .ok 4600 else .error "invalid digit"

theorem testLibrary_decodesTransactions : testLibrary.DecodesTransactions := by
  intro payload block h
  obtain ⟨txs, hdecode, h⟩ := except_bind_eq_ok h
  obtain rfl := Except.ok.inj h
  exact hdecode

def testBase : ExecutionPayloadBaseV1 :=
  { (default : ExecutionPayloadBaseV1) with blockNumber := 1 }

/-- A flashblock with some of the transactions, and with the receipts of just these. -/
def testMessage (payloadId : PayloadId) (index : UInt64) (base : Option ExecutionPayloadBaseV1)
    (txs : List TestTransaction) : FlashblocksPayloadV1 where
  payloadId := payloadId
  index := index
  base := base
  diff := { (default : ExecutionPayloadFlashblockDeltaV1) with
    transactions := txs.map (·.encoded) }
  metadata := .object
    [("receipts", .object (txs.map (·.receiptEntry))), ("new_account_balances", .object []),
      ("block_number", .number "1")]

/-- A payload is taken and the next one begun. The first flashblock of the next one is empty, and
the second one has both transactions. -/
def takeAndBegin : List Op :=
  [.setCurrentPayloadId 7, .onEvent (testMessage 7 0 (some testBase) [.deposit]),
    .getBestPayload .v3 7, .setCurrentPayloadId 8,
    .onEvent (testMessage 8 0 (some testBase) [])]

/-- The cache has followed. -/
theorem overlay_agrees_after_take :
    let x := run (Feed.step testLibrary) (.start .new)
      (takeAndBegin ++ [.onEvent (testMessage 8 1 none [.deposit, .transfer])])
    x.cache.inner.builder = x.service.bestPayload ∧
      x.service.bestPayload.flashblocks.length = 2 ∧
      x.cache.inner.block.map (·.body.transactions) = some [.deposit, .transfer] ∧
      ∀ auth version, ∃ envelope,
        ((engineApi fun _ _ _ => 8).getPayload auth 8 version x.service).result = .ok envelope ∧
        envelope.transactions.mapM testLibrary.decode2718 = .ok [.deposit, .transfer] := by
  dsimp only
  obtain ⟨-, hbuilder, block, hblock, hpayload⟩ := overlay_agrees_with_service testLibrary
    testLibrary_decodesTransactions (fun _ _ _ => 8) .new takeAndBegin
    (.onEvent (testMessage 8 1 none [.deposit, .transfer]))
    (testMessage 8 1 none [.deposit, .transfer]) (by decide +kernel)
    (Feed.published_onEvent (by decide +kernel))
  have htxs : (run (Feed.step testLibrary) (.start .new) (takeAndBegin ++
      [.onEvent (testMessage 8 1 none [.deposit, .transfer])])).cache.inner.block.map
        (·.body.transactions) = some [.deposit, .transfer] := by decide +kernel
  refine ⟨hbuilder, by decide +kernel, htxs, ?_⟩
  rw [hblock, Option.map_some] at htxs
  rw [Option.some.inj htxs] at hpayload
  exact hpayload

end RollupBoost
