import RollupBoost.Machine.Run
import RollupBoost.Overlay.Agreement

/-!
# Where the pending block of the overlay comes from

The service checks the payload id of a message before it extends its builder. The cache of
the overlay does not: it goes by the index alone. After a gap in the stream, a message of
the next block whose index happens to be the number of flashblocks held is appended to the
block of the previous payload.

A `Pending` keeps beside the cache the messages that its block is made of. As long as each
message that continues the block carries the payload id of the message that began it, all
of them carry one id. Nothing else is asked of the stream: messages may be lost, repeated
or out of order.
-/

namespace RollupBoost

open Machine

variable {Tx Receipt L1BlockInfo RpcReceipt : Type}

/-- The cache and the flashblocks that make up its pending block. -/
structure Pending (Tx RpcReceipt : Type) where
  cache : FlashblocksCache Tx RpcReceipt
  sources : List FlashblocksPayloadV1

namespace Pending

def new : Pending Tx RpcReceipt := { cache := .new, sources := [] }

/-- A message that the cache takes begins a new block or continues the one it has. -/
def step (lib : NodeLibrary Tx Receipt L1BlockInfo RpcReceipt) (x : Pending Tx RpcReceipt)
    (payload : FlashblocksPayloadV1) : Pending Tx RpcReceipt :=
  match x.cache.processPayload lib payload with
  | (cache, .ok _) =>
      { cache := cache
        sources := if payload.index.toNat = 0 then [payload] else x.sources ++ [payload] }
  | (cache, _) => { x with cache := cache }

variable {lib : NodeLibrary Tx Receipt L1BlockInfo RpcReceipt} {x : Pending Tx RpcReceipt}

theorem run_cache (x : Pending Tx RpcReceipt) (messages : List FlashblocksPayloadV1) :
    (run (step lib) x messages).cache =
      run (fun cache m => (cache.processPayload lib m).1) x.cache messages := by
  induction messages generalizing x with
  | nil => rfl
  | cons m messages ih =>
      have hcache : (x.step lib m).cache = (x.cache.processPayload lib m).1 := by
        simp only [step]
        split
        · next heq => rw [heq]
        · next heq => rw [heq]
      rw [run_cons, run_cons, ih, hcache]

/-- The builder holds the sources, and the block is decoded from what they assemble to. -/
structure MadeOf (lib : NodeLibrary Tx Receipt L1BlockInfo RpcReceipt)
    (x : Pending Tx RpcReceipt) : Prop where
  builds : Builds x.cache.inner.builder x.sources
  block : ∀ block, x.cache.inner.block = some block →
    ∃ executionPayload, FlashblocksCacheInner.innerPayload x.cache.inner.builder =
      .ok executionPayload ∧ lib.tryIntoBlock executionPayload = .ok block

theorem madeOf_new : (new : Pending Tx RpcReceipt).MadeOf lib :=
  ⟨.new, by simp [new, FlashblocksCache.new, FlashblocksCacheInner.new]⟩

theorem step_eq (lib : NodeLibrary Tx Receipt L1BlockInfo RpcReceipt) (x : Pending Tx RpcReceipt)
    (payload : FlashblocksPayloadV1) :
    x.step lib payload =
      match x.cache.inner.processPayload lib payload with
      | .ok next =>
          { cache := { inner := next }
            sources := if payload.index.toNat = 0 then [payload] else x.sources ++ [payload] }
      | _ => x := by
  simp only [step, FlashblocksCache.processPayload]
  cases x.cache.inner.processPayload lib payload with
  | ok next => rfl
  | error e => rfl
  | panic message => rfl

/-- All that a message can do: it is rejected and changes nothing, or it is pushed onto the
builder that it extends. -/
theorem step_cases (lib : NodeLibrary Tx Receipt L1BlockInfo RpcReceipt)
    (x : Pending Tx RpcReceipt) (payload : FlashblocksPayloadV1) :
    x.step lib payload = x ∨
    ((x.cache.inner.startBuilder payload).Accepts payload ∧
      (x.step lib payload).cache.inner.builder =
        (x.cache.inner.startBuilder payload).push payload ∧
      (x.step lib payload).sources =
        (if payload.index.toNat = 0 then [payload] else x.sources ++ [payload]) ∧
      ∃ executionPayload block,
        FlashblocksCacheInner.innerPayload (x.step lib payload).cache.inner.builder =
          .ok executionPayload ∧
        lib.tryIntoBlock executionPayload = .ok block ∧
        (x.step lib payload).cache.inner.block = some block) := by
  rw [step_eq]
  cases hinner : x.cache.inner.processPayload lib payload with
  | ok next =>
      obtain ⟨haccepts, hbuilder, hblock⟩ := FlashblocksCacheInner.processPayload_eq_ok hinner
      exact .inr ⟨haccepts, hbuilder, rfl, hblock⟩
  | error e => exact .inl rfl
  | panic message => exact .inl rfl

theorem madeOf_step (x : Pending Tx RpcReceipt) (payload : FlashblocksPayloadV1)
    (h : x.MadeOf lib) : (x.step lib payload).MadeOf lib := by
  obtain heq | ⟨haccepts, hbuilder, hsources, executionPayload, block, hinner, hdecoded, hblock⟩ :=
    step_cases lib x payload
  · rw [heq]
    exact h
  · refine ⟨?_, ?_⟩
    · rw [hbuilder, hsources]
      simp only [FlashblocksCacheInner.startBuilder] at haccepts ⊢
      split
      · next hzero =>
          rw [if_pos hzero] at haccepts
          exact Builds.new.push haccepts
      · next hlater =>
          rw [if_neg hlater] at haccepts
          exact h.builds.push haccepts
    · intro block' hblock'
      obtain rfl := Option.some.inj (hblock.symm.trans hblock')
      exact ⟨executionPayload, hinner, hdecoded⟩

/-- All sources carry the payload id of the message with index zero whose base is used. -/
def SinglePayload (x : Pending Tx RpcReceipt) : Prop :=
  ∀ first ∈ x.sources.head?, first.index.toNat = 0 ∧ x.cache.inner.builder.base = first.base ∧
    ∀ m ∈ x.sources, m.payloadId = first.payloadId

/-- A later message that continues the block by its index carries the payload id of the
message that began the block. -/
def Continues (x : Pending Tx RpcReceipt) (payload : FlashblocksPayloadV1) : Prop :=
  payload.index.toNat ≠ 0 → x.cache.inner.builder.Accepts payload →
    ∀ first ∈ x.sources.head?, payload.payloadId = first.payloadId

instance (x : Pending Tx RpcReceipt) (payload : FlashblocksPayloadV1) :
    Decidable (x.Continues payload) :=
  inferInstanceAs (Decidable (_ → _ → ∀ first ∈ x.sources.head?, _))

/-- The same id for all sources; the rest of `SinglePayload` is in `MadeOf`. -/
def SameId (x : Pending Tx RpcReceipt) : Prop :=
  ∀ first ∈ x.sources.head?, ∀ m ∈ x.sources, m.payloadId = first.payloadId

theorem sameId_step (x : Pending Tx RpcReceipt) (payload : FlashblocksPayloadV1)
    (h : x.SameId) (hcontinues : x.Continues payload) : (x.step lib payload).SameId := by
  obtain heq | ⟨haccepts, -, hsources, -⟩ := step_cases lib x payload
  · rw [heq]
    exact h
  · intro first hfirst m hm
    rw [hsources] at hfirst hm
    by_cases hzero : payload.index.toNat = 0
    · rw [if_pos hzero] at hfirst hm
      obtain rfl := Option.some.inj hfirst
      rw [List.mem_singleton.mp hm]
    · rw [if_neg hzero] at hfirst hm
      rw [FlashblocksCacheInner.startBuilder, if_neg hzero] at haccepts
      cases hx : x.sources with
      | nil =>
          -- the message is the only source, hence the first one
          rw [hx, List.nil_append] at hfirst hm
          obtain rfl := Option.some.inj hfirst
          rw [List.mem_singleton.mp hm]
      | cons begun rest =>
          rw [hx, List.cons_append] at hfirst
          obtain rfl := Option.some.inj hfirst
          obtain hm | hm := List.mem_append.mp hm
          · exact h begun (by rw [hx]; rfl) m hm
          · rw [List.mem_singleton.mp hm]
            exact hcontinues hzero haccepts begun (by rw [hx]; rfl)

theorem MadeOf.singlePayload (h : x.MadeOf lib) (hsame : x.SameId) : x.SinglePayload := by
  intro first hfirst
  cases hx : x.sources with
  | nil =>
      rw [hx] at hfirst
      exact absurd hfirst (by simp)
  | cons begun rest =>
      have hsources := hfirst
      rw [hx] at hsources
      obtain rfl := Option.some.inj hsources
      have hzero : begun.index.toNat = 0 := by
        have hbuilds := h.builds
        rw [hx] at hbuilds
        exact hbuilds.indices_cons.1
      refine ⟨hzero, h.builds.base_of_index_zero (by simp [hx]) hzero, ?_⟩
      intro m hm
      exact hsame begun hfirst m (by rw [hx]; exact hm)

/-- Along every stream in which each message that continues the block carries the id of the
message that began it, the pending block is made of flashblocks of one payload. -/
theorem pending_of_single_payload (lib : NodeLibrary Tx Receipt L1BlockInfo RpcReceipt)
    (messages : List FlashblocksPayloadV1)
    (hcontinues : Along (step lib) Continues (new : Pending Tx RpcReceipt) messages) :
    let x := run (step lib) new messages
    x.cache = run (fun cache m => (cache.processPayload lib m).1) .new messages ∧
      x.MadeOf lib ∧ x.SinglePayload := by
  intro x
  have hmade : x.MadeOf lib := run_invariant madeOf_step madeOf_new messages
  have hsame : x.SameId :=
    hcontinues.run_invariant sameId_step (by simp [SameId, new])
  exact ⟨run_cache new messages, hmade, hmade.singlePayload hsame⟩

/-- A gap, a repetition and the next block: each message that continues carries its id. -/
theorem pending_of_single_payload_after_gap :
    let x := run (step testLibrary) new
      [testMessage 7 0 (some testBase) [], testMessage 7 2 none [],
        testMessage 7 1 none [.deposit], testMessage 7 1 none [.deposit],
        testMessage 8 0 (some testBase) [], testMessage 8 1 none [.deposit, .transfer]]
    x.SinglePayload ∧ x.sources.map (·.payloadId) = [8, 8] :=
  ⟨(pending_of_single_payload testLibrary
    [testMessage 7 0 (some testBase) [], testMessage 7 2 none [],
      testMessage 7 1 none [.deposit], testMessage 7 1 none [.deposit],
      testMessage 8 0 (some testBase) [], testMessage 8 1 none [.deposit, .transfer]]
    (by decide +kernel)).2.2, by decide +kernel⟩

/-- The rest of payload 7 and the beginning of payload 8 are lost; the next flashblock of
payload 8 has the index that the cache waits for. -/
theorem gap_mixes_payloads :
    ¬ (run (step testLibrary) new
      [testMessage 7 0 (some testBase) [],
        testMessage 8 1 none [.deposit, .transfer]]).SinglePayload := by
  intro h
  have hids : (run (step testLibrary) new
      [testMessage 7 0 (some testBase) [],
        testMessage 8 1 none [.deposit, .transfer]]).sources.map (·.payloadId) = [7, 8] := by
    decide +kernel
  obtain ⟨begun, rest, hsources, hbegun, hrest⟩ := List.map_eq_cons_iff.mp hids
  obtain ⟨last, more, rfl, hlast, -⟩ := List.map_eq_cons_iff.mp hrest
  obtain ⟨-, -, hsame⟩ := h begun (by rw [hsources]; rfl)
  have hid := hsame last (by rw [hsources]; exact List.mem_cons_of_mem _ List.mem_cons_self)
  rw [hbegun, hlast] at hid
  exact absurd hid (by decide)

end Pending

end RollupBoost
