import RollupBoost.Flashblocks.Pipeline
import RollupBoost.Machine.Feed

/-!
# The publisher as a source of feeds

What the publisher has put into its channel is a log, and every subscription is a feed of it, from
the place where it began. The publisher only adds to both, through every step of the tasks of a
rollup-boost. What is in the log was accepted by the service.
-/

namespace RollupBoost

open Machine

/-- The same subscription, later. -/
structure Subscription.Becomes (sub sub' : Subscription) : Prop where
  start : sub'.start = sub.start
  handed : sub.handed <+: sub'.handed

theorem Subscription.Becomes.refl (sub : Subscription) : sub.Becomes sub :=
  ⟨rfl, List.prefix_refl _⟩

namespace WebSocketPublisher

variable {capacity : Nat} {x : WebSocketPublisher capacity} {lib : WireLibrary}

def log (x : WebSocketPublisher capacity) : List Message := x.history.map .text

def feeds (x : WebSocketPublisher capacity) : List (LogFeed Message) :=
  x.subscriptions.map fun sub => { start := sub.start, sent := sub.handed }

/-- Subscriptions that become others are feeds that grow. -/
theorem feedsGrow_of_becomes {x y : WebSocketPublisher capacity}
    (h : ∀ (i : Nat) sub, x.subscriptions[i]? = some sub →
      ∃ sub', y.subscriptions[i]? = some sub' ∧ sub.Becomes sub') : FeedsGrow x.feeds y.feeds := by
  intro i feed hfeed
  rw [feeds, List.getElem?_map] at hfeed
  obtain ⟨sub, hsub, rfl⟩ := Option.map_eq_some_iff.mp hfeed
  obtain ⟨sub', hsub', hbecomes⟩ := h i sub hsub
  refine ⟨{ start := sub'.start, sent := sub'.handed }, ?_, hbecomes.start, hbecomes.handed⟩
  rw [feeds, List.getElem?_map, hsub', Option.map_some]

/-- A subscription that is changed, and the counters. -/
theorem becomes_update {f : Subscription → Subscription} (index : Nat)
    (hf : ∀ sub, x.subscriptions[index]? = some sub → sub.Becomes (f sub)) (i : Nat)
    (sub : Subscription) (hsub : x.subscriptions[i]? = some sub) :
    ∃ sub', (x.updateSubscription index f).subscriptions[i]? = some sub' ∧ sub.Becomes sub' := by
  rw [updateSubscription, getElem?_modify_map, hsub, Option.map_some]
  refine ⟨_, rfl, ?_⟩
  split
  · next hindex => exact hf sub (hindex ▸ hsub)
  · exact .refl sub

variable [NeZero capacity]

theorem becomes_step (event : PublisherEvent) (i : Nat) (sub : Subscription)
    (hsub : x.subscriptions[i]? = some sub) :
    ∃ sub', (x.step lib event).subscriptions[i]? = some sub' ∧ sub.Becomes sub' := by
  have hstay : ∃ sub', x.subscriptions[i]? = some sub' ∧ sub.Becomes sub' := ⟨sub, hsub, .refl sub⟩
  have hsame : ∀ {f : Subscription → Subscription} (index : Nat),
      (∀ sub, (f sub).start = sub.start ∧ (f sub).handed = sub.handed) →
        ∃ sub', (x.updateSubscription index f).subscriptions[i]? = some sub' ∧
          sub.Becomes sub' := by
    intro f index hf
    exact becomes_update index
      (fun sub _ => ⟨(hf sub).1, (hf sub).2 ▸ List.prefix_refl _⟩) i sub hsub
  cases event with
  | publish payload =>
      simp only [step, publish]
      split
      · exact hstay
      · split <;> exact hstay
  | listen ready =>
      simp only [step]
      split <;> exact hstay
  | accept accepted =>
      simp only [step, accept]
      split
      · split <;> exact hstay
      · exact hstay
  | handshakeEnds accepted =>
      simp only [step, handshakeEnds]
      split
      · split
        · have hlt := (List.getElem?_eq_some_iff.mp hsub).1
          exact ⟨sub, (List.getElem?_append_left hlt).trans hsub, .refl sub⟩
        · exact hstay
      · exact hstay
  | listenerTerm =>
      simp only [step]
      split
      · split <;> exact hstay
      · exact hstay
  | begin index peerAddr =>
      simp only [step, begin]
      split
      · split
        · exact hsame index fun _ => ⟨rfl, rfl⟩
        · exact hsame index fun _ => ⟨rfl, rfl⟩
      · exact hstay
  | recv index =>
      simp only [step, recv]
      split
      · split
        · exact hsame index fun _ => ⟨rfl, rfl⟩
        · exact hsame index fun _ => ⟨rfl, rfl⟩
        · exact hsame index fun _ => ⟨rfl, rfl⟩
        · exact hstay
      · exact hstay
  | sendEnds index delivered =>
      simp only [step, sendEnds]
      split
      · split
        · refine becomes_update index ?_ i sub hsub
          exact fun _ _ => ⟨rfl, List.prefix_append _ _⟩
        · exact hsame index fun _ => ⟨rfl, rfl⟩
      · exact hstay
  | incoming index item =>
      simp only [step, incoming]
      split
      · cases item with
        | message message => exact hstay
        | error => exact hsame index fun _ => ⟨rfl, rfl⟩
        | finished => exact hsame index fun _ => ⟨rfl, rfl⟩
      · exact hstay
  | observeTerm index =>
      simp only [step, observeTerm]
      split
      · split
        · exact hsame index fun _ => ⟨rfl, rfl⟩
        · exact hstay
      · exact hstay
  | drop => exact hstay

theorem log_publish (payload : FlashblocksPayloadV1) : x.log <+: (x.publish lib payload).log := by
  simp only [publish]
  split
  · exact List.prefix_refl _
  · split
    · exact (List.prefix_append _ _).map _
    · exact List.prefix_refl _

/-- The feeds are parts of what was published. -/
theorem Inv.feeds (h : x.Inv) : Feeds x.log x.feeds := by
  intro i feed hfeed
  rw [WebSocketPublisher.feeds, List.getElem?_map] at hfeed
  obtain ⟨sub, hsub, rfl⟩ := Option.map_eq_some_iff.mp hfeed
  have hinv := h.subscription i sub hsub
  have hcount := hinv.follows.count
  have hle := hinv.follows.le
  refine ⟨?_, ?_⟩
  · rw [log, List.length_map]
    dsimp only
    omega
  · have htaken : sub.taken.Sublist (x.history.drop sub.start) :=
      hinv.follows.sublist.trans ((List.take_sublist _ _).drop _)
    have hmap := htaken.map Message.text
    rw [← hinv.handed, List.map_drop] at hmap
    exact (List.sublist_append_left _ _).trans hmap

end WebSocketPublisher

namespace Flashblocks

variable {channel pipe : Nat} [NeZero pipe] {config : FlashblocksWebsocketConfig}
variable {lib : WireLibrary} {x : Flashblocks channel pipe}

/-- What is in the channel of the publisher was accepted by the service. -/
def Publishes (lib : WireLibrary) (x : Flashblocks channel pipe) : Prop :=
  x.publisher.log.Sublist (x.service.wsPub.map lib.publish)

omit [NeZero pipe] in
theorem publishes_new : (new channel pipe).Publishes lib := List.nil_sublist _

theorem Publishes.extend (h : x.Publishes lib) : (x.extend lib).Publishes lib := by
  simp only [Flashblocks.extend]
  split
  · exact h
  · next payload hreceived =>
      rw [Locks.step_extend hreceived]
      simp only [TracedBuilder.extend]
      split
      · have hone : ([.text (utf8 (lib.toString payload))] : List Message).Sublist
            ([payload].map lib.publish) := List.Sublist.refl _
        simp only [Publishes, WebSocketPublisher.publish, WebSocketPublisher.log]
        rw [List.map_append]
        split
        · exact h.trans (List.sublist_append_left _ _)
        · split
          · rw [List.map_append]
            exact h.append hone
          · exact h.trans (List.sublist_append_left _ _)
      · next hrejects =>
          obtain ⟨error, herror⟩ := FlashblockBuilder.extend_of_not_accepts hrejects
          rw [herror]
          exact h

theorem Publishes.step (h : x.Publishes lib) (event : FlashblocksEvent) :
    (x.step config lib event).Publishes lib := by
  cases event with
  | receiver event =>
      simp only [Flashblocks.step]
      split <;> exact h
  | receive =>
      simp only [Flashblocks.step, Flashblocks.receive]
      split
      · next payload sender hidle hrecv =>
          have hpub : (x.service.step (.receive payload)).wsPub = x.service.wsPub := by
            rw [Locks.step_receive]
            split <;> rfl
          simp only [Publishes, hpub]
          exact h
      · exact h
  | extend => exact h.extend
  | call event =>
      simp only [Flashblocks.step]
      split
      · next hcall =>
          simp only [Publishes, (x.service.step_call hcall).1]
          exact h
      · exact h
  | publisher event =>
      simp only [Flashblocks.step]
      split
      · next htask =>
          simp only [Publishes, WebSocketPublisher.log, (x.publisher.step_task lib htask).1]
          exact h
      · exact h

variable (config lib) in
/-- The publisher only adds to its log and to its feeds. -/
theorem grows (x : Flashblocks channel pipe) (event : FlashblocksEvent) :
    x.publisher.log <+: (x.step config lib event).publisher.log ∧
      FeedsGrow x.publisher.feeds (x.step config lib event).publisher.feeds := by
  have hstay := And.intro (List.prefix_refl x.publisher.log) (FeedsGrow.refl x.publisher.feeds)
  cases event with
  | receiver event =>
      simp only [Flashblocks.step]
      split <;> exact hstay
  | receive =>
      simp only [Flashblocks.step, Flashblocks.receive]
      split <;> exact hstay
  | extend =>
      simp only [Flashblocks.step, Flashblocks.extend]
      split
      · exact hstay
      · next payload _ =>
          dsimp only
          split
          · refine ⟨WebSocketPublisher.log_publish payload, ?_⟩
            exact WebSocketPublisher.feedsGrow_of_becomes
              (WebSocketPublisher.becomes_step (.publish payload))
          · exact hstay
  | call event =>
      simp only [Flashblocks.step]
      split <;> exact hstay
  | publisher event =>
      simp only [Flashblocks.step]
      split
      · next htask =>
          refine ⟨?_, WebSocketPublisher.feedsGrow_of_becomes
            (WebSocketPublisher.becomes_step event)⟩
          rw [WebSocketPublisher.log, WebSocketPublisher.log,
            (x.publisher.step_task lib htask).1]
      · exact hstay

end Flashblocks

end RollupBoost
