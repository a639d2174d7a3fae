import RollupBoost.Flashblocks.Service

/-!
# Equivocation on the broadcast

The protocol asks that no two different flashblocks are published for one payload id
and one index. Contiguous indices give this while the builder keeps its content. But
both a `getPayload` and a repeated forkchoice update empty the builder and leave the
id selected, and then index zero is accepted and published again.

`FreshStart` is the discipline that is missing: a stream is started only under an id
for which nothing was published yet. Under it every published key is unique.
-/

namespace RollupBoost.FlashblocksService

open Machine

/-- No two different flashblocks of one payload id and index were published. -/
def NoEquivocation (published : List FlashblocksPayloadV1) : Prop :=
  ∀ p ∈ published, ∀ q ∈ published, p.payloadId = q.payloadId → p.index = q.index → p = q

/-- An index-zero message is accepted only under an id that has nothing published. -/
def FreshStart (self : FlashblocksService) : Op → Prop
  | .onEvent payload =>
      self.Publishes payload → payload.index.toNat = 0 →
        ∀ p ∈ self.wsPub, p.payloadId ≠ payload.payloadId
  | _ => True

/-- While the builder is not empty, it accounts for everything that was published
under the current id. -/
structure Session.Unique (x : Session) : Prop where
  inv : x.Inv
  unique : NoEquivocation x.service.wsPub
  covered : x.since ≠ [] → ∀ p ∈ x.service.wsPub,
    x.service.currentPayloadId = some p.payloadId → p ∈ x.since

namespace Session.Unique

variable {x : Session} {payload : FlashblocksPayloadV1}

/-- A message that the builder takes has a key that was not published before. -/
theorem key_fresh (h : x.Unique) (publishes : x.service.Publishes payload)
    (fresh : x.service.FreshStart (.onEvent payload)) :
    ∀ p ∈ x.service.wsPub, p.payloadId = payload.payloadId → p.index ≠ payload.index := by
  intro p hp hid hindex
  obtain ⟨hcurrent, hnext, -⟩ := id publishes
  rw [h.inv.builds.length_eq] at hnext
  by_cases hempty : x.since = []
  · have hzero : payload.index.toNat = 0 := by simpa [hempty] using hnext
    exact fresh publishes hzero p hp hid
  · have hheld : p ∈ x.since := h.covered hempty p hp (by rw [hcurrent, hid])
    have hlt : p.index.toNat ∈ List.range x.since.length := by
      rw [← h.inv.builds.indices]
      exact List.mem_map_of_mem hheld
    rw [List.mem_range, hindex] at hlt
    omega

theorem step (h : x.Unique) (op : Op) (fresh : x.service.FreshStart op) :
    (x.step op).Unique := by
  refine ⟨inv_step x op h.inv, ?_, ?_⟩
  · obtain ⟨payload, rfl, publishes, heq⟩ | ⟨-, -, -, hpub⟩ | ⟨-, heq, -⟩ := x.step_cases op
    · have hkey := h.key_fresh publishes fresh
      rw [heq]
      intro p hp q hq hid hindex
      simp only [List.mem_append, List.mem_singleton] at hp hq
      rcases hp with hp | rfl
      · rcases hq with hq | rfl
        · exact h.unique p hp q hq hid hindex
        · exact absurd hindex (hkey p hp hid)
      · rcases hq with hq | rfl
        · exact absurd hindex.symm (hkey q hq hid.symm)
        · rfl
    · rw [hpub]
      exact h.unique
    · rw [heq]
      exact h.unique
  · obtain ⟨payload, rfl, publishes, heq⟩ | ⟨-, hsince, -⟩ | ⟨-, heq, -⟩ := x.step_cases op
    · rw [heq]
      intro _ p hp hcurrent
      simp only [List.mem_append, List.mem_singleton] at hp ⊢
      rcases hp with hp | rfl
      · by_cases hempty : x.since = []
        · -- the builder was empty, so this message started the stream
          have hzero : payload.index.toNat = 0 := by
            have hnext := publishes.2.1
            rw [h.inv.builds.length_eq, hempty] at hnext
            exact hnext
          have hid : p.payloadId = payload.payloadId := by
            have hids := publishes.1.symm.trans hcurrent
            exact (Option.some.inj hids).symm
          exact absurd hid (fresh publishes hzero p hp)
        · exact .inl (h.covered hempty p hp hcurrent)
      · exact .inr rfl
    · intro hne
      exact absurd hsince hne
    · rw [heq]
      exact h.covered

end Session.Unique

/-- A run in which every stream starts under a fresh id never equivocates. -/
theorem noEquivocation_of_freshStart (ops : List Op)
    (fresh : Along step FreshStart new ops) : NoEquivocation (run step new ops).wsPub := by
  have hsession : ∀ (ops : List Op) (x : Session), Along step FreshStart x.service ops →
      x.Unique → (run Session.step x ops).Unique := by
    intro ops
    induction ops with
    | nil => exact fun x _ h => h
    | cons op ops ih => exact fun x fresh h => ih (x.step op) fresh.2 (h.step op fresh.1)
  have hnew : Session.new.Unique :=
    ⟨Session.inv_new, by intro p hp; simp [Session.new, new] at hp, fun h => absurd rfl h⟩
  have hunique := (hsession ops .new fresh hnew).unique
  rwa [Session.run_service] at hunique

/-- The first flashblock of a block, with the gas that its delta reports. -/
def firstFlashblock (payloadId : PayloadId) (gasUsed : UInt64) : FlashblocksPayloadV1 :=
  { payloadId := payloadId
    index := 0
    base := some default
    diff := { (default : ExecutionPayloadFlashblockDeltaV1) with gasUsed := gasUsed }
    metadata := .null }

theorem noEquivocation_single_stream :
    Along step FreshStart new
        [.setCurrentPayloadId 1, .onEvent (firstFlashblock 1 21000), .getBestPayload .v3 1] ∧
      NoEquivocation (run step new
        [.setCurrentPayloadId 1, .onEvent (firstFlashblock 1 21000),
          .getBestPayload .v3 1]).wsPub := by
  have fresh : Along step FreshStart new
      [.setCurrentPayloadId 1, .onEvent (firstFlashblock 1 21000), .getBestPayload .v3 1] := by
    refine ⟨trivial, ?_, trivial, trivial⟩
    intro _ _ p hp
    simp [step, setCurrentPayloadId, new] at hp
  exact ⟨fresh, noEquivocation_of_freshStart _ fresh⟩

/-- After a `getPayload` the id stays selected and the builder is empty, so a second,
different flashblock with index zero is published under the same id. -/
theorem republished_after_take :
    ¬ ∀ ops : List Op, NoEquivocation (run step new ops).wsPub := by
  intro h
  have hpub : (run step new
      [.setCurrentPayloadId 1, .onEvent (firstFlashblock 1 21000), .getBestPayload .v3 1,
        .onEvent (firstFlashblock 1 42000)]).wsPub =
      [firstFlashblock 1 21000, firstFlashblock 1 42000] := rfl
  have hno := h [.setCurrentPayloadId 1, .onEvent (firstFlashblock 1 21000),
    .getBestPayload .v3 1, .onEvent (firstFlashblock 1 42000)]
  rw [hpub] at hno
  have heq := hno (firstFlashblock 1 21000) (by simp) (firstFlashblock 1 42000) (by simp) rfl rfl
  have hgas := congrArg (fun m => m.diff.gasUsed) heq
  exact absurd hgas (by decide)

end RollupBoost.FlashblocksService
