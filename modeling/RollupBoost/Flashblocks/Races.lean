import RollupBoost.Flashblocks.Locks
import Mathlib.Data.List.Induction

/-!
# Races between the two locks

Each operation compares the id under one lock and acts on the builder under the
other, so an id switch can fall in between. Three things go wrong:

* a `get_best_payload` that compared the old id takes the flashblocks of the new one;
* a message that was compared before a switch is appended after the reset, where the
  next message of the new payload continues it;
* the new id is visible before the builder is reset, so a flashblock that is accepted
  and published in between is erased by the reset of the call that selected its id.

For each of them a schedule shows the fault, and the theorem says what a schedule has
to avoid. The invariant behind the first two is `Current`: unless a reset is still
pending, the builder holds flashblocks of the current payload only.
-/

namespace RollupBoost

open Machine

/-- The envelope is the assembly of its recorded sources, and all of these carry the
payload id that was asked for. -/
def Returned.Faithful (r : Returned) : Prop :=
  assemble r.version r.sources = some r.envelope ∧ ∀ m ∈ r.sources, m.payloadId = r.payloadId

namespace Locks

/-- Unless a reset is pending, everything the builder holds is of the current payload. -/
def Current (s : Locks) : Prop :=
  ¬ s.ResetPending → ∀ m ∈ s.bestPayload.sources, s.currentPayloadId = some m.payloadId

/-- An accepted message still has the current id when it is appended, unless some call
is yet to reset the builder. -/
def ExtendsCurrent (s : Locks) : Event → Prop
  | .extend => ∀ m ∈ s.received, s.bestPayload.builder.Accepts m →
      ¬ s.ResetPending → s.currentPayloadId = some m.payloadId
  | _ => True

theorem current_new : new.Current := by
  intro _ m hm
  simp [new, TracedBuilder.new] at hm

theorem current_step {s : Locks} {e : Event} (h : s.Current) (guard : s.ExtendsCurrent e) :
    (s.step e).Current := by
  obtain ⟨hid, hbest, hpending⟩ | ⟨hpending, -⟩ | hbest |
    ⟨payload, rfl, hreceived, haccepts, hid, htasks, hsources⟩ := s.step_cases e
  · intro hquiet m hm
    rw [hid]
    exact h (fun hp => hquiet (hpending hp)) m (hbest ▸ hm)
  · intro hquiet
    exact absurd hpending hquiet
  · intro _ m hm
    rw [hbest] at hm
    simp [TracedBuilder.new] at hm
  · intro hquiet m hm
    have hquiet' : ¬ s.ResetPending := by
      intro hp
      exact hquiet (by simpa only [ResetPending, htasks] using hp)
    rw [hid]
    rw [hsources, List.mem_append, List.mem_singleton] at hm
    rcases hm with hm | rfl
    · exact h hquiet' m hm
    · exact guard m hreceived haccepts hquiet'

/-! ## A take under the wrong id -/

/-- What a task must find when it takes a builder that is not empty: the id it compared
is still selected, and no reset is pending. -/
def TaskTakesCurrent (s : Locks) : Task → Prop
  | .take _ payloadId => s.bestPayload.builder.flashblocks ≠ [] →
      s.currentPayloadId = some payloadId ∧ ¬ s.ResetPending
  | _ => True

def TakesCurrent (s : Locks) : Event → Prop
  | .act i => ∀ t ∈ s.tasks[i]?, s.TaskTakesCurrent t
  | _ => True

instance (s : Locks) : ∀ e, Decidable (s.ExtendsCurrent e)
  | .extend => inferInstanceAs (Decidable (∀ m ∈ s.received, s.bestPayload.builder.Accepts m →
      ¬ s.ResetPending → s.currentPayloadId = some m.payloadId))
  | .forkChoiceUpdatedV3 _ _ | .setCurrentPayloadId _ | .getBestPayload _ _ | .act _ |
    .receive _ => isTrue trivial

instance (s : Locks) : ∀ t, Decidable (s.TaskTakesCurrent t)
  | .take _ payloadId => inferInstanceAs (Decidable (s.bestPayload.builder.flashblocks ≠ [] →
      s.currentPayloadId = some payloadId ∧ ¬ s.ResetPending))
  | .write _ _ | .reset _ | .await _ | .compare _ | .check _ _ | .done => isTrue trivial

instance (s : Locks) : ∀ e, Decidable (s.TakesCurrent e)
  | .act i => inferInstanceAs (Decidable (∀ t ∈ s.tasks[i]?, s.TaskTakesCurrent t))
  | .forkChoiceUpdatedV3 _ _ | .setCurrentPayloadId _ | .getBestPayload _ _ | .receive _ |
    .extend => isTrue trivial

theorem faithful_step {s : Locks} {e : Event} (current : s.Current)
    (guard : s.TakesCurrent e) (h : ∀ r ∈ s.returned, r.Faithful) :
    ∀ r ∈ (s.step e).returned, r.Faithful := by
  obtain heq | ⟨i, version, payloadId, envelope, rfl, hacting, hassemble, heq⟩ :=
    s.returned_cases e
  · rw [heq]
    exact h
  · intro r hr
    rw [heq, List.mem_append, List.mem_singleton] at hr
    rcases hr with hr | rfl
    · exact h r hr
    · refine ⟨hassemble, ?_⟩
      have hpos : 0 < s.bestPayload.sources.length :=
        (s.bestPayload.builds.assemble_isSome version).mp (by rw [hassemble]; rfl)
      have hheld : s.bestPayload.builder.flashblocks ≠ [] := by
        rw [← List.length_pos_iff, s.bestPayload.builds.length_eq]
        exact hpos
      obtain ⟨hid, hquiet⟩ := guard _ hacting hheld
      intro m hm
      exact Option.some.inj ((current hquiet m hm).symm.trans hid)

/-- In every schedule that appends and takes under the id that was compared, each
envelope is made of flashblocks of the payload that was asked for. -/
theorem returned_of_requested_payload (events : List Event)
    (guarded : Along step (fun s e => s.ExtendsCurrent e ∧ s.TakesCurrent e) new events) :
    ∀ r ∈ (run step new events).returned, r.Faithful := by
  have hinv := guarded.run_invariant (I := fun s => s.Current ∧ ∀ r ∈ s.returned, r.Faithful)
    (fun s e h guard => ⟨current_step h.1 guard.1, faithful_step h.1 guard.2 h.2⟩)
    ⟨current_new, by simp [new]⟩
  exact hinv.2

/-- The flashblock of a payload with the given index; only the first one has a base. -/
def flashblock (payloadId : PayloadId) (index : UInt64) : FlashblocksPayloadV1 :=
  { payloadId := payloadId
    index := index
    base := if index = 0 then some default else none
    diff := default
    metadata := .null }

/-- Payload 1 is selected, its first flashblock arrives, and it is taken. -/
def takeInOrder : List Event :=
  [.setCurrentPayloadId 1, .act 0, .act 0, .receive (flashblock 1 0), .extend,
    .getBestPayload .v3 1, .act 1, .act 1]

theorem returned_in_order :
    (run step new takeInOrder).returned.length = 1 ∧
      ∀ r ∈ (run step new takeInOrder).returned, r.Faithful :=
  ⟨by decide, returned_of_requested_payload takeInOrder (by decide)⟩

/-- Payload 2 is selected, and its first flashblock appended, between the comparison
and the take of a `get_best_payload` for payload 1. -/
def takeAfterSwitch : List Event :=
  [.setCurrentPayloadId 1, .act 0, .act 0, .getBestPayload .v3 1, .act 1,
    .setCurrentPayloadId 2, .act 2, .act 2, .receive (flashblock 2 0), .extend, .act 1]

theorem take_after_switch_unfaithful :
    ¬ ∀ events : List Event, ∀ r ∈ (run step new events).returned, r.Faithful := by
  intro h
  have hids : (run step new takeAfterSwitch).returned.map
      (fun r => (r.payloadId, r.sources.map (·.payloadId))) = [(1, [2])] := by decide
  obtain ⟨r, hr, heq⟩ := List.map_eq_singleton_iff.mp hids
  have hfaithful := (h takeAfterSwitch r (by rw [hr]; simp)).2
  obtain ⟨hpayload, hsources⟩ := Prod.mk.inj heq
  obtain ⟨m, hm, hid⟩ := List.map_eq_singleton_iff.mp hsources
  have hsame := hfaithful m (by rw [hm]; simp)
  rw [hpayload, hid] at hsame
  exact absurd hsame (by decide)

/-! ## Flashblocks of two payloads in one builder -/

/-- An accepted message goes into an empty builder while a reset is pending, and has the
current id otherwise. -/
def ExtendsAlone (s : Locks) : Event → Prop
  | .extend => ∀ m ∈ s.received, s.bestPayload.builder.Accepts m →
      if s.ResetPending then s.bestPayload.builder.flashblocks = []
      else s.currentPayloadId = some m.payloadId
  | _ => True

instance (s : Locks) : ∀ e, Decidable (s.ExtendsAlone e)
  | .extend => inferInstanceAs (Decidable (∀ m ∈ s.received, s.bestPayload.builder.Accepts m →
      if s.ResetPending then s.bestPayload.builder.flashblocks = []
      else s.currentPayloadId = some m.payloadId))
  | .forkChoiceUpdatedV3 _ _ | .setCurrentPayloadId _ | .getBestPayload _ _ | .act _ |
    .receive _ => isTrue trivial

theorem ExtendsAlone.extendsCurrent {s : Locks} {e : Event} (h : s.ExtendsAlone e) :
    s.ExtendsCurrent e := by
  cases e with
  | extend =>
      intro m hm haccepts hquiet
      have halone := h m hm haccepts
      rwa [if_neg hquiet] at halone
  | _ => trivial

/-- All the flashblocks that the builder holds are of one payload. -/
def SinglePayload (s : Locks) : Prop :=
  ∀ m ∈ s.bestPayload.sources, ∀ m' ∈ s.bestPayload.sources, m.payloadId = m'.payloadId

theorem singlePayload_step {s : Locks} {e : Event} (current : s.Current)
    (guard : s.ExtendsAlone e) (h : s.SinglePayload) : (s.step e).SinglePayload := by
  obtain ⟨-, hbest, -⟩ | ⟨-, hbest⟩ | hbest |
    ⟨payload, rfl, hreceived, haccepts, -, -, hsources⟩ := s.step_cases e
  · rw [SinglePayload, hbest]
    exact h
  · rw [SinglePayload, hbest]
    exact h
  · rw [SinglePayload, hbest]
    simp [TracedBuilder.new]
  · have hsame : ∀ m ∈ s.bestPayload.sources, m.payloadId = payload.payloadId := by
      intro m hm
      have hguard := guard payload hreceived haccepts
      by_cases hpending : s.ResetPending
      · rw [if_pos hpending, ← List.length_eq_zero_iff, s.bestPayload.builds.length_eq,
          List.length_eq_zero_iff] at hguard
        simp [hguard] at hm
      · rw [if_neg hpending] at hguard
        exact Option.some.inj ((current hpending m hm).symm.trans hguard)
    intro m hm m' hm'
    rw [hsources, List.mem_append, List.mem_singleton] at hm hm'
    rcases hm with hm | rfl
    · rcases hm' with hm' | rfl
      · exact h m hm m' hm'
      · exact hsame m hm
    · rcases hm' with hm' | rfl
      · exact (hsame m' hm').symm
      · rfl

/-- In every schedule that appends as `ExtendsAlone` asks, the builder never holds
flashblocks of two payloads. -/
theorem held_of_single_payload (events : List Event)
    (guarded : Along step ExtendsAlone new events) : (run step new events).SinglePayload := by
  have hinv := guarded.run_invariant (I := fun s => s.Current ∧ s.SinglePayload)
    (fun s e h guard =>
      ⟨current_step h.1 guard.extendsCurrent, singlePayload_step h.1 guard h.2⟩)
    ⟨current_new, by simp [SinglePayload, new, TracedBuilder.new]⟩
  exact hinv.2

theorem held_in_order :
    (run step new takeInOrder.dropLast.dropLast).bestPayload.sources.length = 1 ∧
      (run step new takeInOrder.dropLast.dropLast).SinglePayload :=
  ⟨by decide, held_of_single_payload _ (by decide)⟩

/-- The first flashblock of payload 1 is compared, payload 2 is selected and the builder
reset, and then the stale flashblock and the second one of payload 2 are appended. -/
def staleBeforeNext : List Event :=
  [.setCurrentPayloadId 1, .act 0, .act 0, .receive (flashblock 1 0),
    .setCurrentPayloadId 2, .act 1, .act 1, .extend, .receive (flashblock 2 1), .extend]

theorem stale_message_mixes_payloads :
    ¬ ∀ events : List Event, (run step new events).SinglePayload := by
  intro h
  have hids : (run step new staleBeforeNext).bestPayload.sources.map (·.payloadId) = [1, 2] := by
    decide
  have hsingle : ∀ p ∈ [(1 : PayloadId), 2], ∀ q ∈ [(1 : PayloadId), 2], p = q := by
    intro p hp q hq
    rw [← hids] at hp hq
    obtain ⟨m, hm, rfl⟩ := List.mem_map.mp hp
    obtain ⟨m', hm', rfl⟩ := List.mem_map.mp hq
    exact h staleBeforeNext m hm m' hm'
  exact absurd (hsingle 1 (by simp) 2 (by simp)) (by decide)

/-! ## A reset that drops what was published -/

/-- No call is started: tasks act and the loop handles messages. -/
def Event.isBackground : Event → Bool
  | .act _ | .receive _ | .extend => true
  | _ => false

/-- An accepted message is appended under the current id exactly when no reset is
pending. -/
def ExtendsOutsideWindow (s : Locks) : Event → Prop
  | .extend => ∀ m ∈ s.received, s.bestPayload.builder.Accepts m →
      (s.currentPayloadId = some m.payloadId ↔ ¬ s.ResetPending)
  | _ => True

instance (s : Locks) : ∀ e, Decidable (s.ExtendsOutsideWindow e)
  | .extend => inferInstanceAs (Decidable (∀ m ∈ s.received, s.bestPayload.builder.Accepts m →
      (s.currentPayloadId = some m.payloadId ↔ ¬ s.ResetPending)))
  | .forkChoiceUpdatedV3 _ _ | .setCurrentPayloadId _ | .getBestPayload _ _ | .act _ |
    .receive _ => isTrue trivial

/-- The flashblocks of one payload, in order. -/
def ofPayload (payloadId : PayloadId) (ms : List FlashblocksPayloadV1) :
    List FlashblocksPayloadV1 :=
  ms.filter (·.payloadId = payloadId)

theorem ofPayload_concat (payloadId : PayloadId) (ms : List FlashblocksPayloadV1)
    (m : FlashblocksPayloadV1) :
    ofPayload payloadId (ms ++ [m]) =
      if m.payloadId = payloadId then ofPayload payloadId ms ++ [m]
      else ofPayload payloadId ms := by
  by_cases h : m.payloadId = payloadId <;> simp [ofPayload, h]

/-- What can no longer be repaired once it is true: the builder holds a flashblock of
another payload, or it lacks one that was published. -/
def Diverged (payloadId : PayloadId) (published held : List FlashblocksPayloadV1) : Prop :=
  (∃ m ∈ held, m.payloadId ≠ payloadId) ∨
    (ofPayload payloadId held).length < (ofPayload payloadId published).length

theorem Diverged.ne {payloadId : PayloadId} {published held : List FlashblocksPayloadV1}
    (h : Diverged payloadId published held) : ofPayload payloadId published ≠ held := by
  intro heq
  rcases h with ⟨m, hm, hne⟩ | hlt
  · rw [← heq] at hm
    exact hne (by simpa [ofPayload] using (List.mem_filter.mp hm).2)
  · have hself : ofPayload payloadId held = held := by
      rw [← heq]
      simp [ofPayload]
    rw [hself, heq] at hlt
    omega

theorem Diverged.concat {payloadId : PayloadId} {published held : List FlashblocksPayloadV1}
    (h : Diverged payloadId published held) (m : FlashblocksPayloadV1) :
    Diverged payloadId (published ++ [m]) (held ++ [m]) := by
  rcases h with ⟨m', hm', hne⟩ | hlt
  · exact .inl ⟨m', List.mem_append_left _ hm', hne⟩
  · right
    rw [ofPayload_concat, ofPayload_concat]
    by_cases h : m.payloadId = payloadId
    · simpa [h] using hlt
    · simpa [h] using hlt

/-- The state of a run with the single call `set_current_payload_id`, by how far the
call has come. `published` is what the run has published, and `kept` says that every
message so far was appended outside the window between the write and the reset. -/
inductive Phase (s₀ : Locks) (payloadId : PayloadId) (kept : Prop) (s : Locks) : Prop where
  | waiting (published : List FlashblocksPayloadV1) :
      s.tasks = [.write payloadId none] → s.wsPub = s₀.wsPub ++ published →
      s.currentPayloadId ≠ some payloadId →
      (∀ m ∈ s.received, s.currentPayloadId = some m.payloadId) →
      ofPayload payloadId published = [] → kept → Phase s₀ payloadId kept s
  | window (published : List FlashblocksPayloadV1) :
      s.tasks = [.reset none] → s.wsPub = s₀.wsPub ++ published →
      s.currentPayloadId = some payloadId →
      (kept ↔ ofPayload payloadId published = []) → Phase s₀ payloadId kept s
  | finished (published : List FlashblocksPayloadV1) :
      s.tasks = [.done] → s.wsPub = s₀.wsPub ++ published →
      s.currentPayloadId = some payloadId →
      (kept → ofPayload payloadId published = s.bestPayload.sources) →
      (¬ kept → Diverged payloadId published s.bestPayload.sources) → Phase s₀ payloadId kept s

namespace Phase

variable {s₀ s : Locks} {payloadId : PayloadId} {kept kept' : Prop}

theorem congr (h : Phase s₀ payloadId kept s) (same : kept ↔ kept') :
    Phase s₀ payloadId kept' s := by
  rwa [← propext same]

/-- A single task acts, or nothing does. -/
theorem act_single {t : Task} (i : Nat) (h : s.tasks = [t]) :
    s.step (.act i) = { (s.act t).1 with tasks := [(s.act t).2] } ∨ s.step (.act i) = s := by
  cases i with
  | zero =>
      left
      rw [step_act (t := t) (by simp [h]), h]
      rfl
  | succ i =>
      right
      exact step_act_none (by simp [h])

theorem act (h : Phase s₀ payloadId kept s) (i : Nat) :
    Phase s₀ payloadId kept (s.step (.act i)) := by
  cases h with
  | waiting published htasks hpub hother hreceived hnone hkept =>
      rcases act_single i htasks with heq | heq
      · rw [heq]
        exact .window published rfl hpub rfl ⟨fun _ => hnone, fun _ => hkept⟩
      · rw [heq]
        exact .waiting published htasks hpub hother hreceived hnone hkept
  | window published htasks hpub hid hkept =>
      rcases act_single i htasks with heq | heq
      · rw [heq]
        refine .finished published rfl hpub hid (fun h => hkept.mp h) (fun h => .inr ?_)
        exact List.length_pos_iff.mpr (fun hempty => h (hkept.mpr hempty))
      · rw [heq]
        exact .window published htasks hpub hid hkept
  | finished published htasks hpub hid hsame hdiverged =>
      rcases act_single i htasks with heq | heq
      · rw [heq]
        exact .finished published rfl hpub hid hsame hdiverged
      · rw [heq]
        exact .finished published htasks hpub hid hsame hdiverged

theorem receive (h : Phase s₀ payloadId kept s) (payload : FlashblocksPayloadV1) :
    Phase s₀ payloadId kept (s.step (.receive payload)) := by
  rw [step_receive]
  split
  · next hcompared =>
      cases h with
      | waiting published htasks hpub hother hreceived hnone hkept =>
          refine .waiting published htasks hpub hother ?_ hnone hkept
          intro m hm
          rw [← Option.some.inj hm]
          exact hcompared.2
      | window published htasks hpub hid hkept => exact .window published htasks hpub hid hkept
      | finished published htasks hpub hid hsame hdiverged =>
          exact .finished published htasks hpub hid hsame hdiverged
  · exact h

/-- A rejected message only frees the loop. -/
theorem drop (h : Phase s₀ payloadId kept s) :
    Phase s₀ payloadId kept { s with received := none } := by
  cases h with
  | waiting published htasks hpub hother hreceived hnone hkept =>
      exact .waiting published htasks hpub hother (by simp) hnone hkept
  | window published htasks hpub hid hkept => exact .window published htasks hpub hid hkept
  | finished published htasks hpub hid hsame hdiverged =>
      exact .finished published htasks hpub hid hsame hdiverged

theorem extend (h : Phase s₀ payloadId kept s) :
    Phase s₀ payloadId (kept ∧ s.ExtendsOutsideWindow .extend) (s.step .extend) := by
  cases hreceived : s.received with
  | none =>
      rw [step_extend_none hreceived]
      exact h.congr (by simp [ExtendsOutsideWindow, hreceived])
  | some m =>
      rw [step_extend hreceived]
      by_cases haccepts : s.bestPayload.builder.Accepts m
      · have hguard : s.ExtendsOutsideWindow .extend ↔
            (s.currentPayloadId = some m.payloadId ↔ ¬ s.ResetPending) := by
          simp [ExtendsOutsideWindow, hreceived, haccepts]
        rw [dif_pos haccepts, hguard]
        cases h with
        | waiting published htasks hpub hother hcompared hnone hkept =>
            -- the message was compared with the id that is still selected
            have hid : s.currentPayloadId = some m.payloadId := hcompared m hreceived
            have hne : m.payloadId ≠ payloadId := fun h => hother (by rw [hid, h])
            have hquiet : ¬ s.ResetPending := by simp [ResetPending, htasks, Task.isReset]
            refine .waiting (published ++ [m]) htasks ?_ hother (by simp) ?_ ?_
            · simp [hpub]
            · rw [ofPayload_concat, if_neg hne, hnone]
            · exact ⟨hkept, by simp [hid, hquiet]⟩
        | window published htasks hpub hid hkept =>
            have hpending : s.ResetPending := by simp [ResetPending, htasks, Task.isReset]
            refine .window (published ++ [m]) htasks ?_ hid ?_
            · simp [hpub]
            · rw [ofPayload_concat, hkept]
              by_cases hm : m.payloadId = payloadId
              · simp [hm, hid, hpending]
              · have hstale : ¬ payloadId = m.payloadId := fun h => hm h.symm
                simp [hm, hid, hpending, hstale]
        | finished published htasks hpub hid hsame hdiverged =>
            have hquiet : ¬ s.ResetPending := by simp [ResetPending, htasks, Task.isReset]
            refine .finished (published ++ [m]) htasks ?_ hid ?_ ?_
            · simp [hpub]
            · rintro ⟨hk, hcurrent⟩
              have hm : m.payloadId = payloadId :=
                Option.some.inj ((hcurrent.mpr hquiet).symm.trans hid)
              rw [ofPayload_concat, if_pos hm, hsame hk]
            · intro hnot
              by_cases hk : kept
              · -- a stale message went into the builder after the reset
                refine .inl ⟨m, by simp, ?_⟩
                intro hm
                exact hnot ⟨hk, by simp [hid, hm, hquiet]⟩
              · exact (hdiverged hk).concat m
      · rw [dif_neg haccepts]
        exact h.drop.congr (by simp [ExtendsOutsideWindow, hreceived, haccepts])

theorem step (h : Phase s₀ payloadId kept s) {e : Event} (background : e.isBackground = true) :
    Phase s₀ payloadId (kept ∧ s.ExtendsOutsideWindow e) (s.step e) := by
  cases e with
  | act i => exact (h.act i).congr (by simp [ExtendsOutsideWindow])
  | receive payload => exact (h.receive payload).congr (by simp [ExtendsOutsideWindow])
  | extend => exact h.extend
  | forkChoiceUpdatedV3 calculated answer => cases background
  | setCurrentPayloadId payloadId => cases background
  | getBestPayload version payloadId => cases background

end Phase

theorem phase_run {s₀ : Locks} {payloadId : PayloadId} (idle : s₀.tasks = [])
    (free : s₀.received = none) (other : s₀.currentPayloadId ≠ some payloadId)
    (events : List Event) (background : ∀ e ∈ events, e.isBackground = true) :
    Phase s₀ payloadId
      (Along step ExtendsOutsideWindow (s₀.step (.setCurrentPayloadId payloadId)) events)
      (run step (s₀.step (.setCurrentPayloadId payloadId)) events) := by
  induction events using List.reverseRecOn with
  | nil =>
      refine .waiting [] ?_ (by simp [Locks.step]) other ?_ rfl trivial
      · simp [Locks.step, idle]
      · simp [Locks.step, free]
  | append_singleton events e ih =>
      rw [run_concat]
      refine ((ih ?_).step (background e (by simp))).congr Along.concat_iff.symm
      exact fun e' he' => background e' (List.mem_append_left _ he')

/-- One call of `set_current_payload_id`, started while another payload is current and
interleaved with any messages. When it has finished, the published flashblocks of its
payload are those that the builder holds exactly if every message was appended outside
the window between the write and the reset. -/
theorem published_eq_held_iff (s₀ : Locks) (payloadId : PayloadId)
    (idle : s₀.tasks = []) (free : s₀.received = none)
    (other : s₀.currentPayloadId ≠ some payloadId)
    (events : List Event) (background : ∀ e ∈ events, e.isBackground = true)
    (finished : (run step (s₀.step (.setCurrentPayloadId payloadId)) events).tasks = [.done]) :
    ofPayload payloadId ((run step (s₀.step (.setCurrentPayloadId payloadId)) events).wsPub.drop
        s₀.wsPub.length) =
      (run step (s₀.step (.setCurrentPayloadId payloadId)) events).bestPayload.sources ↔
    Along step ExtendsOutsideWindow (s₀.step (.setCurrentPayloadId payloadId)) events := by
  cases phase_run idle free other events background with
  | waiting published htasks => simp [finished] at htasks
  | window published htasks => simp [finished] at htasks
  | finished published htasks hpub hid hsame hdiverged =>
      rw [hpub, List.drop_left]
      constructor
      · intro heq
        by_contra hnot
        exact (hdiverged hnot).ne heq
      · exact hsame

theorem published_eq_held_after_reset :
    Along step ExtendsOutsideWindow (new.step (.setCurrentPayloadId 1))
        [.act 0, .act 0, .receive (flashblock 1 0), .extend] ∧
      ofPayload 1 ((run step (new.step (.setCurrentPayloadId 1))
          [.act 0, .act 0, .receive (flashblock 1 0), .extend]).wsPub.drop new.wsPub.length) =
        (run step (new.step (.setCurrentPayloadId 1))
          [.act 0, .act 0, .receive (flashblock 1 0), .extend]).bestPayload.sources := by
  have hkept : Along step ExtendsOutsideWindow (new.step (.setCurrentPayloadId 1))
      [.act 0, .act 0, .receive (flashblock 1 0), .extend] := by decide
  exact ⟨hkept, (published_eq_held_iff new 1 rfl rfl (by decide) _ (by simp [Event.isBackground])
    rfl).mpr hkept⟩

/-- The first flashblock of the new payload is compared and published after the id is
written, and erased when the same call resets the builder. -/
theorem reset_drops_published :
    ¬ ∀ (s₀ : Locks) (payloadId : PayloadId) (events : List Event),
      s₀.tasks = [] → s₀.received = none → s₀.currentPayloadId ≠ some payloadId →
      (∀ e ∈ events, e.isBackground = true) →
      (run step (s₀.step (.setCurrentPayloadId payloadId)) events).tasks = [.done] →
      ofPayload payloadId ((run step (s₀.step (.setCurrentPayloadId payloadId)) events).wsPub.drop
          s₀.wsPub.length) =
        (run step (s₀.step (.setCurrentPayloadId payloadId)) events).bestPayload.sources := by
  intro h
  have heq := h new 1 [.act 0, .receive (flashblock 1 0), .extend, .act 0] rfl rfl (by decide)
    (by simp [Event.isBackground]) rfl
  exact absurd (congrArg List.length heq) (by decide)

end Locks

end RollupBoost
