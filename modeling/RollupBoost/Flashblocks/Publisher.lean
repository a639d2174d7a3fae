import RollupBoost.Machine.Broadcast
import RollupBoost.Machine.Tasks
import RollupBoost.Proxy.Wire

/-!
# The publisher of flashblocks

`WebSocketPublisher` (`rollup-boost/src/flashblocks/outbound.rs`) puts the text of every
flashblock into a broadcast channel. Its listener accepts one subscriber after the other, and
every subscriber has a task that takes the texts from the channel and sends them.

A subscriber that is too slow for the channel loses texts and goes on, so that what it was sent
is what was published with gaps. The listener holds a receiver of its own, so that publishing
does not fail while there is nobody to listen. But its `select!` has the pattern `Ok(..)` for
the result of `accept`: an error does not match, which turns the branch off until the publisher
is dropped. No subscriber is accepted after the first error.

The tasks are cut at their awaits. Log lines are left out, and the counters, an `AtomicUsize`
each, are unbounded.
-/

namespace RollupBoost

open Machine

inductive SubscriptionPhase where
  /-- The task has not begun. -/
  | spawned
  | selecting
  | sending (payload : Text)
  /-- The loop has ended, perhaps because this text could not be sent. -/
  | finished (unsent : Option Text)

/-- The task of a subscriber. It began to follow the channel at the position `start`. -/
structure Subscription where
  start : Nat
  blocks : Nat
  phase : SubscriptionPhase
  taken : List Text
  missed : Nat
  handed : List Message

namespace Subscription

/-- The task is between the two changes of the number of subscriptions. -/
def running (self : Subscription) : Bool :=
  match self.phase with
  | .selecting => true
  | .sending _ => true
  | _ => false

/-- The task holds its receiver of the channel. -/
def receives (self : Subscription) : Bool :=
  match self.phase with
  | .finished _ => false
  | _ => true

/-- The text that was taken from the channel and has not reached the subscriber. -/
def unsent (self : Subscription) : List Message :=
  match self.phase with
  | .sending payload => [.text payload]
  | .finished (some payload) => [.text payload]
  | _ => []

def new (receiver : Nat) : Subscription where
  start := receiver
  blocks := receiver
  phase := .spawned
  taken := []
  missed := 0
  handed := []

end Subscription

inductive ListenerPhase where
  | starting
  /-- `accepts` is whether the branch of `accept` is on. -/
  | selecting (accepts : Bool)
  | handshake (receiver : Nat)
  | finished
  | panicked
  deriving DecidableEq

/-- The publisher with its tasks, and with all the texts that went through the channel. -/
structure WebSocketPublisher (capacity : Nat) where
  sent : Nat
  subs : Nat
  term : Bool
  pipe : Broadcast Text capacity
  history : List Text
  listener : ListenerPhase
  subscriptions : List Subscription
  /-- How often `publish` returned an error. -/
  failed : Nat

inductive PublisherEvent where
  | publish (payload : FlashblocksPayloadV1)
  /-- The set-up of the socket in `listener_loop`. -/
  | listen (ready : Bool)
  | accept (accepted : Bool)
  | handshakeEnds (accepted : Bool)
  | listenerTerm
  | begin (index : Nat) (peerAddr : Bool)
  | recv (index : Nat)
  | sendEnds (index : Nat) (delivered : Bool)
  | incoming (index : Nat) (item : Incoming)
  | observeTerm (index : Nat)
  | drop

/-- The subscriber whose task takes the step. -/
def PublisherEvent.subscriber : PublisherEvent → Option Nat
  | .begin index _ => some index
  | .recv index => some index
  | .sendEnds index _ => some index
  | .incoming index _ => some index
  | .observeTerm index => some index
  | _ => none

namespace WebSocketPublisher

variable {capacity : Nat}

def new (capacity : Nat) : WebSocketPublisher capacity where
  sent := 0
  subs := 0
  term := false
  pipe := .new Text capacity
  history := []
  listener := .starting
  subscriptions := []
  failed := 0

/-- Someone holds a receiver of the channel: the listener or a subscriber. -/
def hasReceiver (x : WebSocketPublisher capacity) : Bool :=
  match x.listener with
  | .finished => x.subscriptions.any (·.receives)
  | .panicked => x.subscriptions.any (·.receives)
  | _ => true

def updateSubscription (x : WebSocketPublisher capacity) (index : Nat)
    (f : Subscription → Subscription) : WebSocketPublisher capacity :=
  { x with subscriptions := x.subscriptions.modify index f }

/-- The loop of a subscriber ends, and the subscription is not counted any more. -/
def finish (x : WebSocketPublisher capacity) (index : Nat) (unsent : Option Text) :
    WebSocketPublisher capacity :=
  { x.updateSubscription index ({ · with phase := .finished unsent }) with subs := x.subs - 1 }

variable [NeZero capacity]

def publish (lib : WireLibrary) (x : WebSocketPublisher capacity) (payload : FlashblocksPayloadV1) :
    WebSocketPublisher capacity :=
  if x.term then x
  else if x.hasReceiver then
    { x with
      pipe := x.pipe.send (utf8 (lib.toString payload))
      history := x.history ++ [utf8 (lib.toString payload)] }
  else { x with failed := x.failed + 1 }

/-- The receiver of the new subscriber is made before the handshake. -/
def accept (x : WebSocketPublisher capacity) (accepted : Bool) : WebSocketPublisher capacity :=
  match x.listener with
  | .selecting true =>
      if accepted then { x with listener := .handshake x.pipe.tail }
      else { x with listener := .selecting false }
  | _ => x

def handshakeEnds (x : WebSocketPublisher capacity) (accepted : Bool) :
    WebSocketPublisher capacity :=
  match x.listener with
  | .handshake receiver =>
      { x with
        listener := .selecting true
        subscriptions :=
          if accepted then x.subscriptions ++ [.new receiver] else x.subscriptions }
  | _ => x

/-- A subscriber whose address is not known leaves again at once. -/
def begin (x : WebSocketPublisher capacity) (index : Nat) (peerAddr : Bool) :
    WebSocketPublisher capacity :=
  match x.subscriptions[index]? with
  | some { phase := .spawned, .. } =>
      if peerAddr then
        { x.updateSubscription index ({ · with phase := .selecting }) with subs := x.subs + 1 }
      else x.updateSubscription index ({ · with phase := .finished none })
  | _ => x

/-- The branch of the channel. A text is counted before it is sent. -/
def recv (x : WebSocketPublisher capacity) (index : Nat) : WebSocketPublisher capacity :=
  match x.subscriptions[index]? with
  | some { phase := .selecting, blocks, .. } =>
      match x.pipe.recv blocks with
      | (blocks, .ok payload) =>
          { x.updateSubscription index fun sub =>
              { sub with
                blocks := blocks
                phase := .sending payload
                taken := sub.taken ++ [payload] } with
            sent := x.sent + 1 }
      | (_, .closed) => x.finish index none
      | (blocks, .lagged missed) =>
          x.updateSubscription index fun sub =>
            { sub with blocks := blocks, missed := sub.missed + missed }
      | (_, .empty) => x
  | _ => x

def sendEnds (x : WebSocketPublisher capacity) (index : Nat) (delivered : Bool) :
    WebSocketPublisher capacity :=
  match x.subscriptions[index]? with
  | some { phase := .sending payload, .. } =>
      if delivered then
        x.updateSubscription index fun sub =>
          { sub with phase := .selecting, handed := sub.handed ++ [.text payload] }
      else x.finish index (some payload)
  | _ => x

/-- All frames of a subscriber are ignored. -/
def incoming (x : WebSocketPublisher capacity) (index : Nat) (item : Incoming) :
    WebSocketPublisher capacity :=
  match x.subscriptions[index]? with
  | some { phase := .selecting, .. } =>
      match item with
      | .message _ => x
      | .error => x.finish index none
      | .finished => x.finish index none
  | _ => x

def observeTerm (x : WebSocketPublisher capacity) (index : Nat) : WebSocketPublisher capacity :=
  match x.subscriptions[index]? with
  | some { phase := .selecting, .. } => if x.term then x.finish index none else x
  | _ => x

def step (lib : WireLibrary) (x : WebSocketPublisher capacity) :
    PublisherEvent → WebSocketPublisher capacity
  | .publish payload => x.publish lib payload
  | .listen ready =>
      if x.listener = .starting then
        { x with listener := if ready then .selecting true else .panicked }
      else x
  | .accept accepted => x.accept accepted
  | .handshakeEnds accepted => x.handshakeEnds accepted
  | .listenerTerm =>
      match x.listener with
      | .selecting _ => if x.term then { x with listener := .finished } else x
      | _ => x
  | .begin index peerAddr => x.begin index peerAddr
  | .recv index => x.recv index
  | .sendEnds index delivered => x.sendEnds index delivered
  | .incoming index item => x.incoming index item
  | .observeTerm index => x.observeTerm index
  | .drop => { x with term := true, pipe := x.pipe.close }

end WebSocketPublisher

/-! ## The invariant -/

/-- A step of a subscriber changes its own task and the counters. Where it began to follow the
channel stays the same. -/
theorem WebSocketPublisher.step_subscriber {capacity : Nat} [NeZero capacity] (lib : WireLibrary)
    (x : WebSocketPublisher capacity) {event : PublisherEvent} {index : Nat}
    (h : event.subscriber = some index) :
    ∃ f subs sent, x.step lib event =
      { x.updateSubscription index f with subs := subs, sent := sent } ∧
        ∀ sub : Subscription, (f sub).start = sub.start := by
  have hstay : ∃ f subs sent, x =
      { x.updateSubscription index f with subs := subs, sent := sent } ∧
        ∀ sub : Subscription, (f sub).start = sub.start :=
    ⟨id, x.subs, x.sent, by simp [updateSubscription], fun _ => rfl⟩
  cases event with
  | begin i peerAddr =>
      obtain rfl := Option.some.inj h
      simp only [step, begin]
      split
      · split
        · exact ⟨_, _, x.sent, rfl, fun _ => rfl⟩
        · exact ⟨_, x.subs, x.sent, rfl, fun _ => rfl⟩
      · exact hstay
  | recv i =>
      obtain rfl := Option.some.inj h
      simp only [step, recv]
      split
      · split
        · exact ⟨_, x.subs, _, rfl, fun _ => rfl⟩
        · exact ⟨_, _, x.sent, rfl, fun _ => rfl⟩
        · exact ⟨_, x.subs, x.sent, rfl, fun _ => rfl⟩
        · exact hstay
      · exact hstay
  | sendEnds i delivered =>
      obtain rfl := Option.some.inj h
      simp only [step, sendEnds]
      split
      · split
        · exact ⟨_, x.subs, x.sent, rfl, fun _ => rfl⟩
        · exact ⟨_, _, x.sent, rfl, fun _ => rfl⟩
      · exact hstay
  | incoming i item =>
      obtain rfl := Option.some.inj h
      simp only [step, incoming]
      split
      · cases item with
        | message message => exact hstay
        | error => exact ⟨_, _, x.sent, rfl, fun _ => rfl⟩
        | finished => exact ⟨_, _, x.sent, rfl, fun _ => rfl⟩
      · exact hstay
  | observeTerm i =>
      obtain rfl := Option.some.inj h
      simp only [step, observeTerm]
      split
      · split
        · exact ⟨_, _, x.sent, rfl, fun _ => rfl⟩
        · exact hstay
      · exact hstay
  | _ => simp [PublisherEvent.subscriber] at h

/-- The subscriber follows the history, and what it has taken it was sent, up to one text. -/
structure Subscription.Inv (history : List Text) (sub : Subscription) : Prop where
  follows : Broadcast.Follows history sub.start sub.blocks sub.taken sub.missed
  handed : sub.handed ++ sub.unsent = sub.taken.map Message.text

namespace WebSocketPublisher

variable {capacity : Nat} [NeZero capacity]

structure Inv (x : WebSocketPublisher capacity) : Prop where
  holds : x.pipe.Holds x.history
  subscription : ∀ (i : Nat) sub, x.subscriptions[i]? = some sub → sub.Inv x.history
  subs : x.subs = x.subscriptions.countP (·.running)
  sent : x.sent = (x.subscriptions.map (·.taken.length)).sum
  handshake : ∀ receiver, x.listener = .handshake receiver → receiver ≤ x.history.length
  finished : x.listener = .finished → x.term = true
  nobody : x.listener = .starting ∨ x.listener = .panicked → x.subscriptions = []
  failed : x.failed ≠ 0 → x.listener = .panicked

variable {lib : WireLibrary} {x : WebSocketPublisher capacity} {index : Nat} {sub : Subscription}

theorem inv_new : (new capacity).Inv where
  holds := Broadcast.holds_new
  subscription := by simp [new]
  subs := rfl
  sent := rfl
  handshake := by simp [new]
  finished := by simp [new]
  nobody := fun _ => rfl
  failed := by simp [new]

/-- A step of one subscriber, with what it does to the counters. -/
theorem Inv.update (h : x.Inv) (hsub : x.subscriptions[index]? = some sub)
    {f : Subscription → Subscription} (hinv : (f sub).Inv x.history) {subs sent : Nat}
    (hsubs : subs + sub.running.toNat = x.subs + (f sub).running.toNat)
    (hsent : sent + sub.taken.length = x.sent + (f sub).taken.length) :
    ({ x.updateSubscription index f with subs := subs, sent := sent } :
      WebSocketPublisher capacity).Inv where
  holds := h.holds
  subscription := by
    apply forall_modify (P := fun _ (sub : Subscription) => sub.Inv x.history)
    · intro other hother
      exact Option.some.inj (hsub.symm.trans hother) ▸ hinv
    · exact fun i other _ hother => h.subscription i other hother
  subs := by
    have hcount := countP_modify (·.running) f hsub
    have hbefore := h.subs
    simp only [updateSubscription]
    omega
  sent := by
    have hsum := sum_map_modify (·.taken.length) f hsub
    have hbefore := h.sent
    simp only [updateSubscription]
    omega
  handshake := h.handshake
  finished := h.finished
  nobody := by
    intro hlistener
    rw [h.nobody hlistener] at hsub
    simp at hsub
  failed := h.failed

/-- A subscriber that is running is counted. -/
theorem Inv.subs_pos (h : x.Inv) (hsub : x.subscriptions[index]? = some sub)
    (hrunning : sub.running = true) : 0 < x.subs := by
  rw [h.subs, List.countP_pos_iff]
  exact ⟨sub, List.mem_of_getElem? hsub, hrunning⟩

theorem Inv.finish (h : x.Inv) (hsub : x.subscriptions[index]? = some sub)
    (hrunning : sub.running = true) {unsent : Option Text}
    (hunsent : ({ sub with phase := .finished unsent } : Subscription).unsent = sub.unsent) :
    (x.finish index unsent).Inv := by
  have hpos := h.subs_pos hsub hrunning
  have hinv := h.subscription index sub hsub
  refine h.update hsub ⟨hinv.follows, ?_⟩ ?_ rfl
  · rw [hunsent]
    exact hinv.handed
  · rw [hrunning]
    show x.subs - 1 + 1 = x.subs + 0
    omega

theorem Inv.publish (h : x.Inv) (payload : FlashblocksPayloadV1) : (x.publish lib payload).Inv := by
  simp only [WebSocketPublisher.publish]
  split
  · exact h
  · next hterm =>
      split
      · refine ⟨h.holds.send _, ?_, h.subs, h.sent, ?_, h.finished, h.nobody, h.failed⟩
        · intro i sub hsub
          have hinv := h.subscription i sub hsub
          exact ⟨hinv.follows.send _, hinv.handed⟩
        · intro receiver hreceiver
          have hle := h.handshake receiver hreceiver
          show receiver ≤ (x.history ++ [_]).length
          rw [List.length_append]
          omega
      · next hnobody =>
          refine ⟨h.holds, h.subscription, h.subs, h.sent, h.handshake, h.finished, h.nobody,
            fun _ => ?_⟩
          simp only [hasReceiver] at hnobody
          split at hnobody
          · next hfinished => exact absurd (h.finished hfinished) hterm
          · next hpanicked => exact hpanicked
          · exact absurd rfl hnobody

theorem Inv.listen (h : x.Inv) (ready : Bool) (hstarting : x.listener = .starting) :
    ({ x with listener := if ready then .selecting true else .panicked } :
      WebSocketPublisher capacity).Inv where
  holds := h.holds
  subscription := h.subscription
  subs := h.subs
  sent := h.sent
  handshake := by cases ready <;> simp
  finished := by cases ready <;> simp
  nobody := fun _ => h.nobody (.inl hstarting)
  failed := fun hfailed => absurd (hstarting.symm.trans (h.failed hfailed)) (by simp)

theorem Inv.accept (h : x.Inv) (accepted : Bool) : (x.accept accepted).Inv := by
  simp only [WebSocketPublisher.accept]
  split
  · next hselecting =>
      have hfailed : ¬ x.failed ≠ 0 := fun hfailed =>
        absurd (hselecting.symm.trans (h.failed hfailed)) (by simp)
      split
      · refine ⟨h.holds, h.subscription, h.subs, h.sent, ?_, by simp, by simp,
          fun hne => absurd hne hfailed⟩
        intro receiver hreceiver
        obtain rfl := ListenerPhase.handshake.inj hreceiver
        exact Nat.le_of_eq h.holds.tail
      · exact ⟨h.holds, h.subscription, h.subs, h.sent, by simp, by simp, by simp,
          fun hne => absurd hne hfailed⟩
  · exact h

theorem Inv.handshakeEnds (h : x.Inv) (accepted : Bool) : (x.handshakeEnds accepted).Inv := by
  simp only [WebSocketPublisher.handshakeEnds]
  split
  · next receiver hhandshake =>
      have hfailed : ¬ x.failed ≠ 0 := fun hfailed =>
        absurd (hhandshake.symm.trans (h.failed hfailed)) (by simp)
      refine ⟨h.holds, ?_, ?_, ?_, by simp, by simp, by simp, fun hne => absurd hne hfailed⟩
      · cases accepted with
        | false => exact h.subscription
        | true =>
            refine forall_concat (P := fun _ (sub : Subscription) => sub.Inv x.history)
              h.subscription ?_
            exact ⟨Broadcast.follows_start (h.handshake receiver hhandshake), rfl⟩
      · cases accepted with
        | false => exact h.subs
        | true => simp [h.subs, Subscription.running, Subscription.new]
      · cases accepted with
        | false => exact h.sent
        | true => simp [h.sent, Subscription.new]
  · exact h

theorem Inv.begin (h : x.Inv) (index : Nat) (peerAddr : Bool) : (x.begin index peerAddr).Inv := by
  simp only [WebSocketPublisher.begin]
  split
  · next hsub =>
      have hinv := h.subscription index _ hsub
      split
      · exact h.update hsub ⟨hinv.follows, hinv.handed⟩ rfl rfl
      · exact h.update hsub ⟨hinv.follows, hinv.handed⟩ rfl rfl
  · exact h

theorem Inv.recv (h : x.Inv) (index : Nat) : (x.recv index).Inv := by
  simp only [WebSocketPublisher.recv]
  split
  · next start blocks taken missed handed hsub =>
      have hinv := h.subscription index _ hsub
      split
      · next blocks' payload hrecv =>
          refine h.update hsub ⟨hinv.follows.recv_ok h.holds hrecv, ?_⟩ rfl ?_
          · have hhanded := hinv.handed
            simp only [Subscription.unsent, List.append_nil] at hhanded
            simp [Subscription.unsent, hhanded]
          · simp only [List.length_append, List.length_singleton]
            omega
      · exact h.finish hsub rfl rfl
      · next blocks' count hrecv =>
          exact h.update hsub ⟨hinv.follows.recv_lagged h.holds hrecv, hinv.handed⟩ rfl rfl
      · exact h
  · exact h

theorem Inv.sendEnds (h : x.Inv) (index : Nat) (delivered : Bool) :
    (x.sendEnds index delivered).Inv := by
  simp only [WebSocketPublisher.sendEnds]
  split
  · next start blocks payload taken missed handed hsub =>
      have hinv := h.subscription index _ hsub
      split
      · refine h.update hsub ⟨hinv.follows, ?_⟩ rfl rfl
        have hhanded := hinv.handed
        simp only [Subscription.unsent] at hhanded
        simp [Subscription.unsent, hhanded]
      · exact h.finish hsub rfl rfl
  · exact h

theorem Inv.incoming (h : x.Inv) (index : Nat) (item : Incoming) : (x.incoming index item).Inv := by
  simp only [WebSocketPublisher.incoming]
  split
  · next hsub =>
      cases item with
      | message message => exact h
      | error => exact h.finish hsub rfl rfl
      | finished => exact h.finish hsub rfl rfl
  · exact h

theorem Inv.observeTerm (h : x.Inv) (index : Nat) : (x.observeTerm index).Inv := by
  simp only [WebSocketPublisher.observeTerm]
  split
  · next hsub =>
      split
      · exact h.finish hsub rfl rfl
      · exact h
  · exact h

theorem Inv.listenerTerm (h : x.Inv) : (x.step lib .listenerTerm).Inv := by
  simp only [step]
  split
  · next accepts hselecting =>
      split
      · next hterm =>
          refine ⟨h.holds, h.subscription, h.subs, h.sent, by simp, fun _ => hterm, by simp, ?_⟩
          exact fun hfailed => absurd (hselecting.symm.trans (h.failed hfailed)) (by simp)
      · exact h
  · exact h

theorem Inv.step (h : x.Inv) (event : PublisherEvent) : (x.step lib event).Inv := by
  cases event with
  | publish payload => exact h.publish payload
  | listen ready =>
      simp only [WebSocketPublisher.step]
      split
      · next hstarting => exact h.listen ready hstarting
      · exact h
  | accept accepted => exact h.accept accepted
  | handshakeEnds accepted => exact h.handshakeEnds accepted
  | listenerTerm => exact h.listenerTerm
  | begin index peerAddr => exact h.begin index peerAddr
  | recv index => exact h.recv index
  | sendEnds index delivered => exact h.sendEnds index delivered
  | incoming index item => exact h.incoming index item
  | observeTerm index => exact h.observeTerm index
  | drop =>
      exact ⟨h.holds.close, h.subscription, h.subs, h.sent, h.handshake, fun _ => rfl, h.nobody,
        h.failed⟩

/-! ## Every schedule -/

/-- The state after a schedule of the publisher, the listener and the tasks of all subscribers. -/
def run (lib : WireLibrary) (capacity : Nat) [NeZero capacity] (events : List PublisherEvent) :
    WebSocketPublisher capacity :=
  Machine.run (step lib) (new capacity) events

theorem inv_run (lib : WireLibrary) (capacity : Nat) [NeZero capacity]
    (events : List PublisherEvent) : (run lib capacity events).Inv :=
  run_invariant (fun _ event h => h.step event) inv_new events

/-- In the schedule a connection was accepted after so many texts. -/
def Accepts (lib : WireLibrary) (capacity : Nat) [NeZero capacity] (events : List PublisherEvent)
    (published : Nat) : Prop :=
  ∃ before after, events = before ++ .accept true :: after ∧
    (run lib capacity before).listener = .selecting true ∧
    (run lib capacity before).history.length = published

theorem Accepts.concat {events : List PublisherEvent} {published : Nat}
    (h : Accepts lib capacity events published) (event : PublisherEvent) :
    Accepts lib capacity (events ++ [event]) published := by
  obtain ⟨before, after, rfl, hselecting, hpublished⟩ := h
  refine ⟨before, after ++ [event], ?_, hselecting, hpublished⟩
  rw [List.append_assoc, List.cons_append]

/-- A handshake begins when a connection is accepted. -/
theorem handshake_step {event : PublisherEvent} {receiver : Nat}
    (h : (x.step lib event).listener = .handshake receiver) :
    x.listener = .handshake receiver ∨
      event = .accept true ∧ x.listener = .selecting true ∧ receiver = x.pipe.tail := by
  cases hindex : event.subscriber with
  | some index =>
      obtain ⟨f, subs, sent, hstep, -⟩ := step_subscriber lib x hindex
      rw [hstep] at h
      exact .inl h
  | none =>
      cases event with
      | publish payload =>
          simp only [step, publish] at h
          split at h
          · exact .inl h
          · split at h <;> exact .inl h
      | listen ready =>
          simp only [step] at h
          split at h
          · cases ready <;> exact absurd h (by simp)
          · exact .inl h
      | accept accepted =>
          simp only [step, accept] at h
          split at h
          · next hselecting =>
              cases accepted with
              | true => exact .inr ⟨rfl, hselecting, (ListenerPhase.handshake.inj h).symm⟩
              | false => exact absurd h (by simp)
          · exact .inl h
      | handshakeEnds accepted =>
          simp only [step, handshakeEnds] at h
          split at h
          · exact absurd h (by simp)
          · exact .inl h
      | listenerTerm =>
          simp only [step] at h
          split at h
          · split at h
            · exact absurd h (by simp)
            · exact .inl h
          · exact .inl h
      | drop => exact .inl h
      | _ => simp [PublisherEvent.subscriber] at hindex

/-- A new subscription comes from a handshake. -/
theorem start_step {event : PublisherEvent} {sub : Subscription}
    (h : sub ∈ (x.step lib event).subscriptions) :
    (∃ before ∈ x.subscriptions, before.start = sub.start) ∨
      x.listener = .handshake sub.start := by
  cases hindex : event.subscriber with
  | some index =>
      obtain ⟨f, subs, sent, hstep, hstart⟩ := step_subscriber lib x hindex
      rw [hstep] at h
      obtain ⟨i, hi⟩ := List.getElem?_of_mem h
      dsimp only [updateSubscription] at hi
      rw [getElem?_modify_map] at hi
      obtain ⟨before, hbefore, rfl⟩ := Option.map_eq_some_iff.mp hi
      refine .inl ⟨before, List.mem_of_getElem? hbefore, ?_⟩
      split
      · exact (hstart before).symm
      · rfl
  | none =>
      cases event with
      | publish payload =>
          simp only [step, publish] at h
          split at h
          · exact .inl ⟨sub, h, rfl⟩
          · split at h <;> exact .inl ⟨sub, h, rfl⟩
      | listen ready =>
          simp only [step] at h
          split at h <;> exact .inl ⟨sub, h, rfl⟩
      | accept accepted =>
          simp only [step, accept] at h
          split at h
          · split at h <;> exact .inl ⟨sub, h, rfl⟩
          · exact .inl ⟨sub, h, rfl⟩
      | handshakeEnds accepted =>
          simp only [step, handshakeEnds] at h
          split at h
          · next receiver hhandshake =>
              split at h
              · obtain hold | hnew := List.mem_append.mp h
                · exact .inl ⟨sub, hold, rfl⟩
                · obtain rfl := List.mem_singleton.mp hnew
                  exact .inr hhandshake
              · exact .inl ⟨sub, h, rfl⟩
          · exact .inl ⟨sub, h, rfl⟩
      | listenerTerm =>
          simp only [step] at h
          split at h
          · split at h <;> exact .inl ⟨sub, h, rfl⟩
          · exact .inl ⟨sub, h, rfl⟩
      | drop => exact .inl ⟨sub, h, rfl⟩
      | _ => simp [PublisherEvent.subscriber] at hindex

/-- A subscription begins where the history ended when its connection was accepted. -/
theorem accepts_run (lib : WireLibrary) (capacity : Nat) [NeZero capacity]
    (events : List PublisherEvent) :
    (∀ sub ∈ (run lib capacity events).subscriptions, Accepts lib capacity events sub.start) ∧
    ∀ receiver, (run lib capacity events).listener = .handshake receiver →
      Accepts lib capacity events receiver := by
  induction events using List.reverseRecOn with
  | nil => simp [run, new]
  | append_singleton events event ih =>
      obtain ⟨hsubs, hhandshakes⟩ := ih
      have hrun : run lib capacity (events ++ [event]) =
          (run lib capacity events).step lib event := run_concat ..
      rw [hrun]
      constructor
      · intro sub hsub
        obtain ⟨before, hbefore, hstart⟩ | hhandshake := start_step hsub
        · exact hstart ▸ (hsubs before hbefore).concat event
        · exact (hhandshakes _ hhandshake).concat event
      · intro receiver hreceiver
        obtain hhandshake | ⟨rfl, hselecting, rfl⟩ := handshake_step hreceiver
        · exact (hhandshakes receiver hhandshake).concat event
        · exact ⟨events, [], rfl, hselecting, (inv_run lib capacity events).holds.tail.symm⟩

/-- A subscriber was sent what was published since its connection was accepted, in order and
with gaps. The gaps are what it was told to have missed: with them, the text on its way and what
it has not reached yet, nothing is left over. Without a lag there is no gap. -/
theorem run_hands_over (lib : WireLibrary) (capacity : Nat) [NeZero capacity]
    (events : List PublisherEvent) (sub : Subscription)
    (hsub : sub ∈ (run lib capacity events).subscriptions) :
    Accepts lib capacity events sub.start ∧
    sub.handed.Sublist (((run lib capacity events).history.drop sub.start).map .text) ∧
    sub.start + sub.handed.length + sub.unsent.length + sub.missed +
      ((run lib capacity events).history.length - sub.blocks) =
        (run lib capacity events).history.length ∧
    (sub.missed = 0 → sub.handed ++ sub.unsent =
      (((run lib capacity events).history.take sub.blocks).drop sub.start).map .text) := by
  obtain ⟨i, hi⟩ := List.getElem?_of_mem hsub
  have hinv := (inv_run lib capacity events).subscription i sub hi
  have hlength := congrArg List.length hinv.handed
  have hcount := hinv.follows.count
  have hle := hinv.follows.le
  rw [List.length_append, List.length_map] at hlength
  refine ⟨(accepts_run lib capacity events).1 sub hsub, ?_, by omega, fun hmissed => ?_⟩
  · have htaken : (sub.taken.map Message.text).Sublist
        (((run lib capacity events).history.drop sub.start).map .text) :=
      (hinv.follows.sublist.trans ((List.take_sublist _ _).drop _)).map _
    rw [← hinv.handed] at htaken
    exact (List.sublist_append_left _ _).trans htaken
  · have hfollows := hinv.follows
    rw [hmissed] at hfollows
    rw [hinv.handed, hfollows.eq_of_missed]

/-- A subscriber that lags behind a channel of one slot. -/
def lagging : List PublisherEvent :=
  [.listen true, .accept true, .handshakeEnds true, .begin 0 true, .publish default,
    .publish default, .recv 0, .recv 0, .sendEnds 0 true]

theorem run_hands_over_lagging :
    ∃ sub ∈ (run WireLibrary.emptyLibrary 1 lagging).subscriptions,
      sub.missed = 1 ∧ sub.handed.length = 1 ∧ sub.handed.Sublist
        (((run WireLibrary.emptyLibrary 1 lagging).history.drop sub.start).map .text) := by
  have hlt : 0 < (run WireLibrary.emptyLibrary 1 lagging).subscriptions.length := by decide
  refine ⟨_, List.getElem_mem hlt, rfl, rfl, ?_⟩
  exact (run_hands_over WireLibrary.emptyLibrary 1 lagging _ (List.getElem_mem hlt)).2.1

/-- The counters: the subscriptions that run, and the texts that were sent or at least tried. -/
theorem run_counts (lib : WireLibrary) (capacity : Nat) [NeZero capacity]
    (events : List PublisherEvent) :
    (run lib capacity events).subs =
      (run lib capacity events).subscriptions.countP (·.running) ∧
    (run lib capacity events).sent =
      ((run lib capacity events).subscriptions.map fun sub =>
        sub.handed.length + sub.unsent.length).sum := by
  have h := inv_run lib capacity events
  refine ⟨h.subs, h.sent.trans (congrArg List.sum (List.map_congr_left fun sub hsub => ?_))⟩
  obtain ⟨i, hi⟩ := List.getElem?_of_mem hsub
  have hlength := congrArg List.length (h.subscription i sub hi).handed
  rw [List.length_append, List.length_map] at hlength
  exact hlength.symm

theorem run_counts_lagging :
    (run WireLibrary.emptyLibrary 1 lagging).subs = 1 ∧
      (run WireLibrary.emptyLibrary 1 lagging).sent = 1 :=
  run_counts WireLibrary.emptyLibrary 1 lagging

/-- Publishing fails only if the listener did not get its socket ready, and then there is no
subscriber. -/
theorem run_publish_failed (lib : WireLibrary) (capacity : Nat) [NeZero capacity]
    (events : List PublisherEvent) (hfailed : (run lib capacity events).failed ≠ 0) :
    (run lib capacity events).listener = .panicked ∧
      (run lib capacity events).subscriptions = [] := by
  have h := inv_run lib capacity events
  exact ⟨h.failed hfailed, h.nobody (.inr (h.failed hfailed))⟩

theorem run_publish_failed_once :
    (run WireLibrary.emptyLibrary 1 [.listen false, .publish default]).listener = .panicked ∧
      (run WireLibrary.emptyLibrary 1 [.listen false, .publish default]).subscriptions = [] :=
  run_publish_failed WireLibrary.emptyLibrary 1 [.listen false, .publish default]
    (Nat.succ_ne_zero 0)

/-! ## A connection that cannot be accepted -/

/-- The branch of `accept` is off. -/
def deaf (x : WebSocketPublisher capacity) : Prop :=
  x.listener = .selecting false ∨ x.listener = .finished

theorem deaf.step (h : x.deaf) (event : PublisherEvent) :
    (x.step lib event).deaf ∧
      (x.step lib event).subscriptions.length = x.subscriptions.length := by
  cases hindex : event.subscriber with
  | some index =>
      obtain ⟨f, subs, sent, hstep, -⟩ := step_subscriber lib x hindex
      rw [hstep]
      exact ⟨h, List.length_modify ..⟩
  | none =>
      cases event with
      | publish payload =>
          simp only [WebSocketPublisher.step, publish]
          split
          · exact ⟨h, rfl⟩
          · split
            · exact ⟨h, rfl⟩
            · exact ⟨h, rfl⟩
      | listenerTerm =>
          simp only [WebSocketPublisher.step]
          split
          · split
            · exact ⟨.inr rfl, rfl⟩
            · exact ⟨h, rfl⟩
          · exact ⟨h, rfl⟩
      | drop => exact ⟨h, rfl⟩
      | listen ready =>
          obtain hlistener | hlistener := h
          · simp [WebSocketPublisher.step, deaf, hlistener]
          · simp [WebSocketPublisher.step, deaf, hlistener]
      | accept accepted =>
          obtain hlistener | hlistener := h
          · simp [WebSocketPublisher.step, accept, deaf, hlistener]
          · simp [WebSocketPublisher.step, accept, deaf, hlistener]
      | handshakeEnds accepted =>
          obtain hlistener | hlistener := h
          · simp [WebSocketPublisher.step, handshakeEnds, deaf, hlistener]
          · simp [WebSocketPublisher.step, handshakeEnds, deaf, hlistener]
      | begin index peerAddr => simp [PublisherEvent.subscriber] at hindex
      | recv index => simp [PublisherEvent.subscriber] at hindex
      | sendEnds index delivered => simp [PublisherEvent.subscriber] at hindex
      | incoming index item => simp [PublisherEvent.subscriber] at hindex
      | observeTerm index => simp [PublisherEvent.subscriber] at hindex

/-- Once `accept` has failed, nobody can subscribe any more, whatever happens afterwards. -/
theorem run_accept_failed (lib : WireLibrary) (capacity : Nat) [NeZero capacity]
    (before after : List PublisherEvent)
    (hlistener : (run lib capacity before).listener = .selecting true) :
    (run lib capacity (before ++ .accept false :: after)).subscriptions.length =
      (run lib capacity before).subscriptions.length := by
  have hdeaf : ((run lib capacity before).step lib (.accept false)).deaf ∧
      ((run lib capacity before).step lib (.accept false)).subscriptions =
        (run lib capacity before).subscriptions := by
    simp [WebSocketPublisher.step, accept, hlistener, deaf]
  have hrun : ∀ x : WebSocketPublisher capacity, x.deaf →
      (Machine.run (step lib) x after).deaf ∧
        (Machine.run (step lib) x after).subscriptions.length = x.subscriptions.length := by
    intro x hx
    refine run_invariant (I := fun y : WebSocketPublisher capacity =>
      y.deaf ∧ y.subscriptions.length = x.subscriptions.length) ?_ ⟨hx, rfl⟩ after
    exact fun y event h => ⟨(h.1.step event).1, (h.1.step event).2.trans h.2⟩
  rw [run, run_append, run_cons]
  exact (hrun _ hdeaf.1).2.trans (congrArg List.length hdeaf.2)

/-- The listener runs out of file descriptors after its first subscriber. -/
theorem run_accept_failed_second :
    (run WireLibrary.emptyLibrary 4 ([.listen true, .accept true, .handshakeEnds true] ++
      .accept false :: [.accept true, .handshakeEnds true])).subscriptions.length = 1 :=
  run_accept_failed WireLibrary.emptyLibrary 4 [.listen true, .accept true, .handshakeEnds true]
    [.accept true, .handshakeEnds true] rfl

end WebSocketPublisher

end RollupBoost
