import RollupBoost.Overlay.Receipts

/-!
# Malformed messages

The task that feeds the cache logs an error and goes on, but a panic ends it. Whether a message
can end it is therefore a question of the `expect`s of `process_payload` and of the subtraction
of gas between two receipts, which panics in a build with overflow checks and wraps in one
without. `processPayloadWith` takes the subtraction as a parameter; the model of `Cache` is the
one that wraps.

Three kinds of messages get through the checks and panic: a transaction of the block has no
receipt in the metadata, the L1 info cannot be extracted from the block, or the cumulative gas
decreases before a transaction without a signer turns the loop back with an error.
-/

namespace RollupBoost

open Machine

variable {Tx Receipt L1BlockInfo RpcReceipt : Type}

/-- A subtraction in a build without overflow checks. -/
def wrappingSub (a b : UInt64) : Outcome String UInt64 := .ok (a - b)

/-- A subtraction in a build with overflow checks. -/
def checkedSub (a b : UInt64) : Outcome String UInt64 :=
  if b ≤ a then .ok (a - b) else .panic "attempt to subtract with overflow"

/-- A receipt can be built from gas that is part of the total. -/
def NodeLibrary.BuildsReceipts (lib : NodeLibrary Tx Receipt L1BlockInfo RpcReceipt) : Prop :=
  ∀ input info, input.gasUsed ≤ lib.cumulativeGasUsed input.receipt →
    ∃ result, lib.opReceiptBuilder input info = .ok result

namespace FlashblocksCacheInner

variable (lib : NodeLibrary Tx Receipt L1BlockInfo RpcReceipt)
variable (sub : UInt64 → UInt64 → Outcome String UInt64)

/-- `buildReceipts`, with the subtraction of the build. The signer is recovered before the gas
is subtracted. -/
def buildReceiptsWith (block : OpBlock Tx) (blockHash : B256) (allReceipts : List Receipt) :
    List Tx → Nat → ReceiptLoop L1BlockInfo RpcReceipt →
      Outcome String (ReceiptLoop L1BlockInfo RpcReceipt)
  | [], _, loop => .ok loop
  | tx :: txs, indx, loop => do
      let receipt ← Outcome.expect "Receipt should exist for transaction" allReceipts[indx]?
      let info : TransactionMeta :=
        { txHash := lib.txHash tx
          index := UInt64.ofNat indx
          blockHash := blockHash
          blockNumber := block.header.number
          baseFee := block.header.baseFeePerGas
          excessBlobGas := block.header.excessBlobGas
          timestamp := block.header.timestamp }
      let recovered ← Outcome.ofExcept (lib.tryToRecoveredRef tx)
      let gasUsed ← sub (lib.cumulativeGasUsed receipt) loop.gasUsed
      let input : ConvertReceiptInput Tx Receipt :=
        { receipt := receipt
          tx := recovered
          gasUsed := gasUsed
          nextLogIndex := loop.nextLogIndex
          info := info }
      let (rpcReceipt, l1BlockInfo) ← Outcome.expect "failed to build receipt"
        (lib.opReceiptBuilder input loop.l1BlockInfo).toOption
      buildReceiptsWith block blockHash allReceipts txs (indx + 1)
        { l1BlockInfo := l1BlockInfo
          gasUsed := lib.cumulativeGasUsed receipt
          nextLogIndex := loop.nextLogIndex + lib.logsLen receipt
          receiptsCache := loop.receiptsCache.insert (lib.txHash tx) rpcReceipt }

def updateReceiptsWith (block : OpBlock Tx) (allReceipts : List Receipt)
    (receiptsCache : Table B256 RpcReceipt) : Outcome String (Table B256 RpcReceipt) :=
  if block.body.transactions.isEmpty then
    .ok receiptsCache
  else do
    let l1BlockInfo ← Outcome.expect "failed to extract l1 info"
      (lib.extractL1Info block.body).toOption
    let loop ← buildReceiptsWith lib sub block (lib.hashSlow block) allReceipts
      block.body.transactions 0
      { l1BlockInfo := l1BlockInfo
        gasUsed := 0
        nextLogIndex := 0
        receiptsCache := receiptsCache }
    .ok loop.receiptsCache

def processPayloadWith (self : FlashblocksCacheInner Tx RpcReceipt)
    (payload : FlashblocksPayloadV1) : Outcome String (FlashblocksCacheInner Tx RpcReceipt) := do
  let metadata ← Outcome.ofExcept
    ((lib.fromValue payload.metadata).mapError ("Failed to deserialize metadata: " ++ ·))
  let self := if payload.index.toNat = 0 then self.reset else self
  let builder ← extendBuilder self.builder payload
  let executionPayload ← innerPayload builder
  let block ← Outcome.ofExcept ((lib.tryIntoBlock executionPayload).mapError
    ("Failed to convert execution payload to block: " ++ ·))
  let (nonceMap, allReceipts) ←
    collectReceipts lib metadata block.body.transactions Table.empty
  let receiptsCache ← updateReceiptsWith lib sub block allReceipts self.receiptsCache
  let balanceCache ← storeBalances lib metadata.newAccountBalances self.balanceCache
  .ok
    { builder := builder
      block := some block
      balanceCache := balanceCache
      nonceCache := fun address => (nonceMap address).or (self.nonceCache address)
      receiptsCache := receiptsCache }

variable {lib sub}
variable {block : OpBlock Tx} {blockHash : B256} {allReceipts : List Receipt}

theorem buildReceiptsWith_wrapping (txs : List Tx) (indx : Nat)
    (loop : ReceiptLoop L1BlockInfo RpcReceipt) :
    buildReceiptsWith lib wrappingSub block blockHash allReceipts txs indx loop =
      buildReceipts lib block blockHash allReceipts txs indx loop := by
  induction txs generalizing indx loop with
  | nil => rfl
  | cons tx txs ih => simp only [buildReceiptsWith, buildReceipts, wrappingSub, Outcome.ok_bind, ih]

/-- As long as the gas does not decrease, the checks change nothing. -/
theorem buildReceiptsWith_checked (txs : List Tx) (indx : Nat)
    (loop : ReceiptLoop L1BlockInfo RpcReceipt)
    (h : (buildReceiptsWith lib checkedSub block blockHash allReceipts txs indx loop).panics =
      false) :
    buildReceiptsWith lib checkedSub block blockHash allReceipts txs indx loop =
      buildReceiptsWith lib wrappingSub block blockHash allReceipts txs indx loop := by
  induction txs generalizing indx loop with
  | nil => rfl
  | cons tx txs ih =>
      refine Outcome.bind_congr_of_not_panics h fun receipt _ h => ?_
      refine Outcome.bind_congr_of_not_panics h fun recovered _ h => ?_
      simp only [checkedSub] at h ⊢
      split at h
      · next hle =>
          simp only [if_pos hle, wrappingSub, Outcome.ok_bind] at h ⊢
          exact Outcome.bind_congr_of_not_panics h fun built _ h => ih _ _ h
      · exact absurd h (by simp)

/-- The build without overflow checks is the one of `Cache`. -/
theorem processPayloadWith_wrapping (self : FlashblocksCacheInner Tx RpcReceipt)
    (payload : FlashblocksPayloadV1) :
    self.processPayloadWith lib wrappingSub payload = self.processPayload lib payload := by
  simp only [processPayloadWith, processPayload, updateReceiptsWith, updateReceipts,
    buildReceiptsWith_wrapping]

/-- As long as nothing panics, the build with overflow checks does what the other one does. -/
theorem processPayloadWith_checked {self : FlashblocksCacheInner Tx RpcReceipt}
    {payload : FlashblocksPayloadV1}
    (h : (self.processPayloadWith lib checkedSub payload).panics = false) :
    self.processPayloadWith lib checkedSub payload = self.processPayload lib payload := by
  rw [← processPayloadWith_wrapping]
  refine Outcome.bind_congr_of_not_panics h fun metadata _ h => ?_
  refine Outcome.bind_congr_of_not_panics h fun builder _ h => ?_
  refine Outcome.bind_congr_of_not_panics h fun executionPayload _ h => ?_
  refine Outcome.bind_congr_of_not_panics h fun block _ h => ?_
  refine Outcome.bind_congr_of_not_panics h fun collected _ h => ?_
  have hupdate := (Outcome.not_panics_bind_iff.mp h).1
  have hsame : ∀ receiptsCache : Table B256 RpcReceipt,
      (updateReceiptsWith lib checkedSub block collected.2 receiptsCache).panics = false →
      updateReceiptsWith lib checkedSub block collected.2 receiptsCache =
        updateReceiptsWith lib wrappingSub block collected.2 receiptsCache := by
    intro receiptsCache h
    simp only [updateReceiptsWith] at h ⊢
    split at h
    · next hempty => rw [if_pos hempty, if_pos hempty]
    · next hempty =>
        rw [if_neg hempty, if_neg hempty]
        refine Outcome.bind_congr_of_not_panics h fun l1BlockInfo _ h => ?_
        rw [buildReceiptsWith_checked _ _ _ (Outcome.not_panics_bind_iff.mp h).1]
  simp only
  rw [hsame _ hupdate]

/-! ## What makes a message panic -/

/-- The transactions that the second loop comes to: the first one without a signer turns it
back with an error. -/
def reached (lib : NodeLibrary Tx Receipt L1BlockInfo RpcReceipt) (txs : List Tx) : List Tx :=
  txs.takeWhile fun tx => (lib.tryToRecoveredRef tx).isOk

theorem pairwise_le_cons_cons {a b : UInt64} {rest : List UInt64} :
    (a :: b :: rest).Pairwise (· ≤ ·) ↔ a ≤ b ∧ (b :: rest).Pairwise (· ≤ ·) := by
  rw [List.pairwise_cons]
  constructor
  · rintro ⟨hbelow, hrest⟩
    exact ⟨hbelow b List.mem_cons_self, hrest⟩
  · rintro ⟨hle, hrest⟩
    refine ⟨?_, hrest⟩
    intro c hc
    obtain rfl | hc := List.mem_cons.mp hc
    · exact hle
    · exact UInt64.le_trans hle (List.rel_of_pairwise_cons hrest hc)

variable {metadata : Metadata Receipt}

/-- With a receipt for every transaction, the second loop panics exactly if the cumulative gas
decreases on the way. -/
theorem buildReceiptsWith_panics_iff (hbuilds : lib.BuildsReceipts) {txs : List Tx}
    (hall : ∀ tx ∈ txs, (metadata.receipts (lib.receiptKey tx)).isSome = true) {indx : Nat}
    (hdrop : allReceipts.drop indx = receiptsOf lib metadata txs)
    (loop : ReceiptLoop L1BlockInfo RpcReceipt) :
    (buildReceiptsWith lib checkedSub block blockHash allReceipts txs indx loop).panics = false ↔
      (loop.gasUsed ::
        (receiptsOf lib metadata (reached lib txs)).map lib.cumulativeGasUsed).Pairwise
          (· ≤ ·) := by
  induction txs generalizing indx loop with
  | nil => simp [buildReceiptsWith, reached, receiptsOf]
  | cons tx txs ih =>
      obtain ⟨receipt, hreceipt⟩ := Option.isSome_iff_exists.mp (hall tx List.mem_cons_self)
      have hcons : receiptsOf lib metadata (tx :: txs) =
          receipt :: receiptsOf lib metadata txs := by
        simp only [receiptsOf, List.filterMap_cons, hreceipt]
      rw [hcons] at hdrop
      obtain ⟨hget, hnext⟩ := next_receipt hdrop
      simp only [buildReceiptsWith, hget, Outcome.expect, Outcome.ok_bind]
      cases hrecovered : lib.tryToRecoveredRef tx with
      | error e => simp [reached, receiptsOf, hrecovered, Except.isOk, Except.toBool]
      | ok recovered =>
          have hreached : receiptsOf lib metadata (reached lib (tx :: txs)) =
              receipt :: receiptsOf lib metadata (reached lib txs) := by
            simp only [reached, receiptsOf, List.takeWhile_cons, hrecovered, Except.isOk,
              Except.toBool, if_true, List.filterMap_cons, hreceipt]
          rw [hreached, List.map_cons, pairwise_le_cons_cons]
          simp only [Outcome.ofExcept_ok, Outcome.ok_bind, checkedSub]
          by_cases hle : loop.gasUsed ≤ lib.cumulativeGasUsed receipt
          · rw [if_pos hle, Outcome.ok_bind]
            obtain ⟨⟨rpcReceipt, l1BlockInfo⟩, hresult⟩ := hbuilds
              { receipt := receipt
                tx := recovered
                gasUsed := lib.cumulativeGasUsed receipt - loop.gasUsed
                nextLogIndex := loop.nextLogIndex
                info :=
                  { txHash := lib.txHash tx
                    index := UInt64.ofNat indx
                    blockHash := blockHash
                    blockNumber := block.header.number
                    baseFee := block.header.baseFeePerGas
                    excessBlobGas := block.header.excessBlobGas
                    timestamp := block.header.timestamp } }
              loop.l1BlockInfo (UInt64.sub_le hle)
            simp only [hresult, Except.toOption, Outcome.ok_bind, hle, true_and]
            exact ih (fun tx' htx => hall tx' (List.mem_cons_of_mem _ htx)) hnext _
          · simp [hle]

/-- What the metadata and the block of a message must be like. -/
structure WellFormed (lib : NodeLibrary Tx Receipt L1BlockInfo RpcReceipt)
    (metadata : Metadata Receipt) (block : OpBlock Tx) : Prop where
  receipts : ∀ tx ∈ block.body.transactions,
    (metadata.receipts (lib.receiptKey tx)).isSome = true
  l1Info : block.body.transactions ≠ [] → ∃ info, lib.extractL1Info block.body = .ok info
  gas : ((receiptsOf lib metadata (reached lib block.body.transactions)).map
    lib.cumulativeGasUsed).Pairwise (· ≤ ·)

theorem updateReceiptsWith_panics_iff (hbuilds : lib.BuildsReceipts)
    (hall : ∀ tx ∈ block.body.transactions,
      (metadata.receipts (lib.receiptKey tx)).isSome = true)
    (receiptsCache : Table B256 RpcReceipt) :
    (updateReceiptsWith lib checkedSub block
        (receiptsOf lib metadata block.body.transactions) receiptsCache).panics = false ↔
      WellFormed lib metadata block := by
  simp only [updateReceiptsWith]
  split
  · next hempty =>
      rw [List.isEmpty_iff] at hempty
      refine iff_of_true rfl ⟨hall, fun hne => absurd hempty hne, ?_⟩
      simp [hempty, reached, receiptsOf]
  · next hne =>
      rw [List.isEmpty_iff] at hne
      cases hinfo : lib.extractL1Info block.body with
      | error e =>
          refine iff_of_false (by simp [Except.toOption, Outcome.expect]) ?_
          intro hwell
          obtain ⟨info, hok⟩ := hwell.l1Info hne
          exact absurd (hinfo.symm.trans hok) (by simp)
      | ok info =>
          simp only [Except.toOption, Outcome.expect, Outcome.ok_bind]
          rw [Outcome.panics_bind (fun _ => rfl), buildReceiptsWith_panics_iff hbuilds hall rfl,
            List.pairwise_cons]
          constructor
          · rintro ⟨-, hgas⟩
            exact ⟨hall, fun _ => ⟨info, hinfo⟩, hgas⟩
          · intro hwell
            exact ⟨fun gas _ => UInt64.zero_le, hwell.gas⟩

theorem innerPayload_ne_panic (builder : FlashblockBuilder) (message : String) :
    innerPayload builder ≠ .panic message := by
  simp only [innerPayload]
  split <;> simp

theorem storeBalances_panics (balances : List (String × String))
    (balanceCache : Table Address U256) :
    (storeBalances lib balances balanceCache).panics = false := by
  induction balances generalizing balanceCache with
  | nil => rfl
  | cons entry balances ih =>
      refine Outcome.not_panics_bind_iff.mpr ⟨Outcome.panics_ofExcept _, fun address _ => ?_⟩
      exact Outcome.not_panics_bind_iff.mpr
        ⟨Outcome.panics_ofExcept _, fun balance _ => ih _⟩

/-- Both loops and the balances, once the block is decoded. -/
theorem tables_panic_iff (hbuilds : lib.BuildsReceipts) (receiptsCache : Table B256 RpcReceipt)
    {rest : Table Address UInt64 × List Receipt → Table B256 RpcReceipt →
      Outcome String (FlashblocksCacheInner Tx RpcReceipt)}
    (hrest : ∀ collected receipts, (rest collected receipts).panics = false) :
    (collectReceipts lib metadata block.body.transactions Table.empty >>= fun collected =>
      updateReceiptsWith lib checkedSub block collected.2 receiptsCache >>= fun receipts =>
        rest collected receipts).panics = false ↔ WellFormed lib metadata block := by
  by_cases hall : ∀ tx ∈ block.body.transactions,
      (metadata.receipts (lib.receiptKey tx)).isSome = true
  · obtain ⟨nonces, hcollected⟩ :=
      collectReceipts_ok hall (Table.empty : Table Address UInt64)
    rw [hcollected, Outcome.ok_bind, Outcome.panics_bind (hrest _)]
    exact updateReceiptsWith_panics_iff hbuilds hall receiptsCache
  · refine iff_of_false ?_ fun hwell => hall hwell.receipts
    rw [not_forall₂] at hall
    obtain ⟨tx, htx, hmissing⟩ := hall
    rw [Bool.not_eq_true, Option.isSome_eq_false_iff, Option.isNone_iff_eq_none] at hmissing
    intro hreturns
    have hpanics := collectReceipts_panics htx hmissing (Table.empty : Table Address UInt64)
    rw [(Outcome.not_panics_bind_iff.mp hreturns).1] at hpanics
    exact absurd hpanics (by simp)

/-- The message is no reason to panic: where it is accepted and its block decodes, the block
and the metadata fit. -/
def Benign (lib : NodeLibrary Tx Receipt L1BlockInfo RpcReceipt)
    (self : FlashblocksCacheInner Tx RpcReceipt) (payload : FlashblocksPayloadV1) : Prop :=
  ∀ metadata, lib.fromValue payload.metadata = .ok metadata →
    (self.startBuilder payload).Accepts payload →
    ∀ executionPayload,
      innerPayload ((self.startBuilder payload).push payload) = .ok executionPayload →
      ∀ block, lib.tryIntoBlock executionPayload = .ok block → WellFormed lib metadata block

theorem processPayloadWith_panics_iff (hbuilds : lib.BuildsReceipts)
    (self : FlashblocksCacheInner Tx RpcReceipt) (payload : FlashblocksPayloadV1) :
    (self.processPayloadWith lib checkedSub payload).panics = false ↔ self.Benign lib payload := by
  simp only [processPayloadWith, builder_of_start, Benign]
  cases hmetadata : lib.fromValue payload.metadata with
  | error e => simp [Except.mapError]
  | ok metadata =>
      simp only [Except.mapError, Outcome.ofExcept_ok, Outcome.ok_bind, Except.ok.injEq, forall_eq']
      obtain ⟨haccepts, hextend⟩ | ⟨hrejects, e, hextend⟩ :=
        (self.startBuilder payload).extend_cases payload
      · simp only [extendBuilder, hextend, Outcome.ok_bind, haccepts, true_implies]
        cases hinner : innerPayload ((self.startBuilder payload).push payload) with
        | panic message => exact absurd hinner (innerPayload_ne_panic _ message)
        | error e => simp
        | ok executionPayload =>
            simp only [Outcome.ok_bind, Outcome.ok.injEq, forall_eq']
            cases hblock : lib.tryIntoBlock executionPayload with
            | error e => simp
            | ok block =>
                simp only [Outcome.ofExcept_ok, Outcome.ok_bind, Except.ok.injEq, forall_eq']
                apply tables_panic_iff hbuilds
                intro collected receipts
                rw [Outcome.panics_bind (fun _ => rfl)]
                exact storeBalances_panics ..
      · simp [extendBuilder, hextend, hrejects]

end FlashblocksCacheInner

namespace FlashblocksCache

variable {lib : NodeLibrary Tx Receipt L1BlockInfo RpcReceipt}

/-- `process_payload` in a build with overflow checks. -/
def processPayloadChecked (lib : NodeLibrary Tx Receipt L1BlockInfo RpcReceipt)
    (self : FlashblocksCache Tx RpcReceipt) (payload : FlashblocksPayloadV1) :
    FlashblocksCache Tx RpcReceipt × Outcome String Unit :=
  match self.inner.processPayloadWith lib checkedSub payload with
  | .ok newState => ({ inner := newState }, .ok ())
  | .error e => (self, .error e)
  | .panic message => (self, .panic message)

/-- The message is taken, or it is refused with an error and leaves the cache as it was. -/
def Handles (lib : NodeLibrary Tx Receipt L1BlockInfo RpcReceipt)
    (self : FlashblocksCache Tx RpcReceipt) (payload : FlashblocksPayloadV1) : Prop :=
  (self.processPayloadChecked lib payload).2 = .ok () ∨
    ∃ e, self.processPayloadChecked lib payload = (self, .error e)

theorem processPayloadChecked_panics (self : FlashblocksCache Tx RpcReceipt)
    (payload : FlashblocksPayloadV1) :
    (self.processPayloadChecked lib payload).2.panics =
      (self.inner.processPayloadWith lib checkedSub payload).panics := by
  simp only [processPayloadChecked]
  cases self.inner.processPayloadWith lib checkedSub payload <;> rfl

theorem handles_iff (self : FlashblocksCache Tx RpcReceipt) (payload : FlashblocksPayloadV1) :
    self.Handles lib payload ↔ (self.processPayloadChecked lib payload).2.panics = false := by
  simp only [Handles, processPayloadChecked]
  cases self.inner.processPayloadWith lib checkedSub payload with
  | ok next => simp
  | error e => simp
  | panic message => simp

/-- A message that does not panic is handled alike in both builds. -/
theorem processPayloadChecked_eq {self : FlashblocksCache Tx RpcReceipt}
    {payload : FlashblocksPayloadV1}
    (h : (self.processPayloadChecked lib payload).2.panics = false) :
    self.processPayloadChecked lib payload = self.processPayload lib payload := by
  rw [processPayloadChecked_panics] at h
  have hinner := FlashblocksCacheInner.processPayloadWith_checked h
  cases hstate : self.inner.processPayload lib payload <;>
    simp only [processPayloadChecked, processPayload, hinner, hstate]

end FlashblocksCache

/-- The task of the overlay that feeds the cache. -/
structure CacheTask (Tx RpcReceipt : Type) where
  cache : FlashblocksCache Tx RpcReceipt
  running : Bool

namespace CacheTask

variable {lib : NodeLibrary Tx Receipt L1BlockInfo RpcReceipt}

def start : CacheTask Tx RpcReceipt := { cache := .new, running := true }

/-- An error is logged; a panic ends the task. -/
def step (lib : NodeLibrary Tx Receipt L1BlockInfo RpcReceipt) (x : CacheTask Tx RpcReceipt)
    (payload : FlashblocksPayloadV1) : CacheTask Tx RpcReceipt :=
  if x.running then
    { cache := (x.cache.processPayloadChecked lib payload).1
      running := !(x.cache.processPayloadChecked lib payload).2.panics }
  else x

theorem run_of_ended {x : CacheTask Tx RpcReceipt} (h : x.running = false)
    (messages : List FlashblocksPayloadV1) : run (step lib) x messages = x := by
  induction messages with
  | nil => rfl
  | cons m messages ih =>
      have hstep : x.step lib m = x := by simp [step, h]
      rw [run_cons, hstep, ih]

/-- The task survives exactly the streams in which no message panics. -/
theorem running_iff {x : CacheTask Tx RpcReceipt} (h : x.running = true)
    (messages : List FlashblocksPayloadV1) :
    (run (step lib) x messages).running = true ↔
      Along (step lib) (fun x m => (x.cache.processPayloadChecked lib m).2.panics = false) x
        messages := by
  induction messages generalizing x with
  | nil => exact iff_of_true h trivial
  | cons m messages ih =>
      have hstep : (x.step lib m).running = !(x.cache.processPayloadChecked lib m).2.panics := by
        simp [step, h]
      rw [run_cons, Along]
      cases hpanics : (x.cache.processPayloadChecked lib m).2.panics with
      | false =>
          rw [hpanics] at hstep
          simp only [true_and]
          exact ih hstep
      | true =>
          rw [hpanics] at hstep
          rw [run_of_ended hstep, hstep]
          simp

end CacheTask

/-- Every message is taken or refused with an error, with the cache left as it was, exactly if it
is benign, and is then handled alike with and without overflow checks; the task that feeds the
cache survives exactly the streams of benign messages. -/
theorem message_handled_iff (lib : NodeLibrary Tx Receipt L1BlockInfo RpcReceipt)
    (hbuilds : lib.BuildsReceipts) :
    (∀ (cache : FlashblocksCache Tx RpcReceipt) (payload : FlashblocksPayloadV1),
      (cache.Handles lib payload ↔ cache.inner.Benign lib payload) ∧
      (cache.inner.Benign lib payload →
        cache.processPayloadChecked lib payload = cache.processPayload lib payload)) ∧
    ∀ messages : List FlashblocksPayloadV1,
      (run (CacheTask.step lib) (CacheTask.start : CacheTask Tx RpcReceipt) messages).running =
          true ↔
        Along (CacheTask.step lib) (fun x m => x.cache.inner.Benign lib m) CacheTask.start
          messages := by
  have hpanics : ∀ (cache : FlashblocksCache Tx RpcReceipt) (payload : FlashblocksPayloadV1),
      (cache.processPayloadChecked lib payload).2.panics = false ↔
        cache.inner.Benign lib payload := by
    intro cache payload
    rw [FlashblocksCache.processPayloadChecked_panics]
    exact FlashblocksCacheInner.processPayloadWith_panics_iff hbuilds cache.inner payload
  refine ⟨fun cache payload => ⟨?_, ?_⟩, fun messages => ?_⟩
  · rw [FlashblocksCache.handles_iff, hpanics]
  · intro hbenign
    exact FlashblocksCache.processPayloadChecked_eq ((hpanics cache payload).mpr hbenign)
  · rw [CacheTask.running_iff rfl]
    exact Along.congr fun x m => hpanics x.cache m

/-- The two flashblocks of the tests are benign. -/
theorem two_flashblocks_handled :
    Along (CacheTask.step testLibrary) (fun x m => x.cache.inner.Benign testLibrary m)
      CacheTask.start (messages (testBlock [] [.deposit, .transfer]
        [("0x1234567890123456789012345678901234567890", "0x11f8")])) :=
  ((message_handled_iff testLibrary fun _ _ _ => ⟨_, rfl⟩).2 _).mp (by decide +kernel)

/-- A first flashblock with the deposit, and without its receipt. -/
def withoutReceipt : FlashblocksPayloadV1 :=
  { (testFlashblock 0 (some testBase) [.deposit] []).message with
    metadata := (testFlashblock 0 (some testBase) [] []).message.metadata }

/-- The metadata deserializes; the message ends the task. -/
theorem missing_receipt_ends_task :
    (∃ metadata, testLibrary.fromValue withoutReceipt.metadata = .ok metadata) ∧
      ¬ (FlashblocksCache.new : FlashblocksCache TestTransaction UInt64).Handles testLibrary
        withoutReceipt ∧
      (run (CacheTask.step testLibrary) CacheTask.start [withoutReceipt]).running = false := by
  refine ⟨⟨_, rfl⟩, ?_, by decide +kernel⟩
  rw [FlashblocksCache.handles_iff]
  decide +kernel

end RollupBoost
