import RollupBoost.Flashblocks.Deliveries
import RollupBoost.Flashblocks.Locks
import RollupBoost.Flashblocks.Publisher

/-!
# From the builder to the subscribers

`Flashblocks::run` (`rollup-boost/src/flashblocks/launcher.rs`) puts the parts together. The
receiver puts flashblocks into a channel, the loop of the service takes them from there, and
what the service accepts goes to the publisher. Here all of them take their steps in any order:
the tasks of the connections to the builder, the loop of the service and the calls of the Engine
API at each of their locks, the listener, and the tasks of the subscribers.

What a subscriber is sent comes from the builder: each message from a reading of its own, and the
messages of one connection in the order in which they were read.

The publisher lives as long as the service, so it is not dropped here.
-/

namespace RollupBoost

open Machine

/-- The steps of the tasks of the receiver. The other end of the channel is the service's. -/
def ReceiverEvent.isTask : ReceiverEvent → Bool
  | .recv => false
  | .dropReceiver => false
  | _ => true

/-- The steps of the calls of the Engine API. -/
def Locks.Event.isCall : Locks.Event → Bool
  | .receive _ => false
  | .extend => false
  | _ => true

/-- The steps of the listener and of the subscribers. -/
def PublisherEvent.isTask : PublisherEvent → Bool
  | .publish _ => false
  | .drop => false
  | _ => true

structure Flashblocks (channel pipe : Nat) where
  receiver : FlashblocksReceiver channel
  service : Locks
  publisher : WebSocketPublisher pipe

inductive FlashblocksEvent where
  | receiver (event : ReceiverEvent)
  /-- The loop of the service takes a flashblock and compares its id. -/
  | receive
  /-- The builder is extended, and the flashblock is published. -/
  | extend
  | call (event : Locks.Event)
  | publisher (event : PublisherEvent)

namespace Flashblocks

variable {channel pipe : Nat}

def new (channel pipe : Nat) : Flashblocks channel pipe where
  receiver := .new channel
  service := .new
  publisher := .new pipe

/-- The loop takes the next flashblock only when it is done with the previous one. -/
def receive (x : Flashblocks channel pipe) : Flashblocks channel pipe :=
  match x.service.received, x.receiver.sender.recv with
  | none, some (payload, _) =>
      { x with receiver := x.receiver.recv, service := x.service.step (.receive payload) }
  | _, _ => x

variable [NeZero pipe]

def extend (lib : WireLibrary) (x : Flashblocks channel pipe) : Flashblocks channel pipe :=
  match x.service.received with
  | none => x
  | some payload =>
      { x with
        service := x.service.step .extend
        publisher :=
          match x.service.bestPayload.extend payload with
          | (_, .ok _) => x.publisher.publish lib payload
          | (_, .error _) => x.publisher }

def step (config : FlashblocksWebsocketConfig) (lib : WireLibrary) (x : Flashblocks channel pipe) :
    FlashblocksEvent → Flashblocks channel pipe
  | .receiver event =>
      if event.isTask then { x with receiver := x.receiver.step config lib event } else x
  | .receive => x.receive
  | .extend => x.extend lib
  | .call event => if event.isCall then { x with service := x.service.step event } else x
  | .publisher event =>
      if event.isTask then { x with publisher := x.publisher.step lib event } else x

end Flashblocks

theorem WireLibrary.receives_utf8 (lib : WireLibrary) {text : String}
    {payload : FlashblocksPayloadV1} (h : lib.fromStr text = .ok payload) :
    lib.receives (.message (.text (utf8 text))) = some payload := by
  simp only [receives, fromUtf8_utf8, h, Except.toOption]

/-! ## What the parts leave alone -/

theorem FlashblocksReceiver.taken_step {capacity : Nat} {config : FlashblocksWebsocketConfig}
    {lib : WireLibrary} (x : FlashblocksReceiver capacity) {event : ReceiverEvent}
    (h : event.isTask = true) : (x.step config lib event).taken = x.taken := by
  cases event with
  | connect established now =>
      simp only [step, connect]
      split
      · split
        · split <;> rfl
        · rfl
      · rfl
  | read index item now =>
      simp only [step, read]
      split <;> rfl
  | sendEnds index =>
      simp only [step, sendEnds]
      split
      · split <;> rfl
      · rfl
  | joinMessageTask =>
      simp only [step, joinMessageTask]
      split <;> rfl
  | joinPingTask =>
      simp only [step, joinPingTask]
      split
      · split <;> rfl
      · rfl
  | wake =>
      simp only [step]
      split <;> rfl
  | recv => exact absurd h (by decide)
  | _ => rfl

theorem Locks.step_call (s : Locks) {event : Locks.Event} (h : event.isCall = true) :
    (s.step event).wsPub = s.wsPub ∧ (s.step event).received = s.received := by
  cases event with
  | act i =>
      simp only [step]
      split
      · exact ⟨rfl, rfl⟩
      · next task _ => cases task <;> exact ⟨rfl, rfl⟩
  | receive payload => exact absurd h Bool.false_ne_true
  | extend => exact absurd h (by decide)
  | _ => exact ⟨rfl, rfl⟩

theorem WebSocketPublisher.step_task {capacity : Nat} [NeZero capacity] (lib : WireLibrary)
    (x : WebSocketPublisher capacity) {event : PublisherEvent} (h : event.isTask = true) :
    (x.step lib event).history = x.history ∧ (x.step lib event).term = x.term ∧
      (x.listener = .panicked → (x.step lib event).listener = .panicked) := by
  cases hindex : event.subscriber with
  | some index =>
      obtain ⟨f, subs, sent, hstep, -⟩ := step_subscriber lib x hindex
      rw [hstep]
      exact ⟨rfl, rfl, id⟩
  | none =>
      cases event with
      | listen ready =>
          simp only [step]
          split
          · next hstarting => exact ⟨rfl, rfl, fun hpanicked => by simp [hstarting] at hpanicked⟩
          · exact ⟨rfl, rfl, id⟩
      | accept accepted =>
          simp only [step, accept]
          split
          · next hselecting =>
              split <;> exact ⟨rfl, rfl, fun hpanicked => by simp [hselecting] at hpanicked⟩
          · exact ⟨rfl, rfl, id⟩
      | handshakeEnds accepted =>
          simp only [step, handshakeEnds]
          split
          · next hhandshake =>
              exact ⟨rfl, rfl, fun hpanicked => by simp [hhandshake] at hpanicked⟩
          · exact ⟨rfl, rfl, id⟩
      | listenerTerm =>
          simp only [step]
          split
          · next hselecting =>
              split
              · exact ⟨rfl, rfl, fun hpanicked => by simp [hselecting] at hpanicked⟩
              · exact ⟨rfl, rfl, id⟩
          · exact ⟨rfl, rfl, id⟩
      | publish payload => exact absurd h Bool.false_ne_true
      | drop => exact absurd h (by decide)
      | _ => simp [PublisherEvent.subscriber] at hindex

theorem WebSocketPublisher.listener_publish {capacity : Nat} [NeZero capacity] (lib : WireLibrary)
    (x : WebSocketPublisher capacity) (payload : FlashblocksPayloadV1) :
    (x.publish lib payload).listener = x.listener ∧ (x.publish lib payload).term = x.term := by
  simp only [publish]
  split
  · exact ⟨rfl, rfl⟩
  · split <;> exact ⟨rfl, rfl⟩

/-- The listener holds a receiver until the publisher is dropped. -/
theorem WebSocketPublisher.Inv.history_publish {capacity : Nat} [NeZero capacity]
    {lib : WireLibrary} {x : WebSocketPublisher capacity} {payload : FlashblocksPayloadV1}
    (h : x.Inv) (hterm : x.term = false) (hready : x.listener ≠ .panicked) :
    (x.publish lib payload).history = x.history ++ [utf8 (lib.toString payload)] := by
  have hreceiver : x.hasReceiver = true := by
    simp only [hasReceiver]
    split
    · next hfinished => exact absurd (hterm.symm.trans (h.finished hfinished)) (by simp)
    · next hpanicked => exact absurd hpanicked hready
    · rfl
  simp [WebSocketPublisher.publish, hterm, hreceiver]

/-! ## Every schedule -/

namespace Flashblocks

variable {channel pipe : Nat} [NeZero pipe] {config : FlashblocksWebsocketConfig}
variable {lib : WireLibrary} {x : Flashblocks channel pipe}

/-- What was published, and the flashblock that the loop has compared, was taken from the channel
in this order. The channel of the publisher carries what was published. -/
structure Inv (lib : WireLibrary) (x : Flashblocks channel pipe) : Prop where
  receiver : x.receiver.Inv lib
  publisher : x.publisher.Inv
  taken : (x.service.wsPub ++ x.service.received.toList).Sublist x.receiver.taken
  term : x.publisher.term = false
  history : x.publisher.listener ≠ .panicked →
    x.publisher.history = x.service.wsPub.map fun payload => utf8 (lib.toString payload)

theorem inv_new : (new channel pipe).Inv lib where
  receiver := FlashblocksReceiver.inv_new
  publisher := WebSocketPublisher.inv_new
  taken := List.nil_sublist _
  term := rfl
  history := fun _ => rfl

theorem Inv.receive (h : x.Inv lib) : x.receive.Inv lib := by
  simp only [Flashblocks.receive]
  split
  · next payload sender hidle hrecv =>
      have htaken : x.receiver.recv.taken = x.receiver.taken ++ [payload] := by
        simp only [FlashblocksReceiver.recv, hrecv]
      have hsublist := h.taken
      rw [hidle, Option.toList_none, List.append_nil] at hsublist
      have hpub : (x.service.step (.receive payload)).wsPub = x.service.wsPub := by
        rw [Locks.step_receive]
        split <;> rfl
      refine ⟨h.receiver.recv, h.publisher, ?_, h.term, hpub ▸ h.history⟩
      rw [htaken, hpub]
      refine hsublist.append ?_
      rw [Locks.step_receive]
      split
      · exact List.Sublist.refl _
      · simp [hidle]
  · exact h

theorem Inv.extend (h : x.Inv lib) : (x.extend lib).Inv lib := by
  simp only [Flashblocks.extend]
  split
  · exact h
  · next payload hreceived =>
      have hsublist := h.taken
      rw [hreceived, Option.toList_some] at hsublist
      rw [Locks.step_extend hreceived]
      simp only [TracedBuilder.extend]
      split
      · next haccepts =>
          obtain ⟨hlistener, hterm⟩ := x.publisher.listener_publish lib payload
          refine ⟨h.receiver, h.publisher.publish payload, ?_, hterm.trans h.term, fun hready => ?_⟩
          · rw [Option.toList_none, List.append_nil]
            exact hsublist
          · rw [hlistener] at hready
            rw [h.publisher.history_publish h.term hready, h.history hready, List.map_append]
            rfl
      · next hrejects =>
          obtain ⟨error, herror⟩ := FlashblockBuilder.extend_of_not_accepts hrejects
          rw [herror]
          refine ⟨h.receiver, h.publisher, ?_, h.term, h.history⟩
          rw [Option.toList_none, List.append_nil]
          exact (List.sublist_append_left _ _).trans hsublist

theorem Inv.step (h : x.Inv lib) (event : FlashblocksEvent) :
    (x.step config lib event).Inv lib := by
  cases event with
  | receiver event =>
      simp only [Flashblocks.step]
      split
      · next htask =>
          refine ⟨h.receiver.step event, h.publisher, ?_, h.term, h.history⟩
          rw [x.receiver.taken_step htask]
          exact h.taken
      · exact h
  | receive => exact h.receive
  | extend => exact h.extend
  | call event =>
      simp only [Flashblocks.step]
      split
      · next hcall =>
          obtain ⟨hpub, hreceived⟩ := x.service.step_call hcall
          refine ⟨h.receiver, h.publisher, ?_, h.term, hpub ▸ h.history⟩
          rw [hpub, hreceived]
          exact h.taken
      · exact h
  | publisher event =>
      simp only [Flashblocks.step]
      split
      · next htask =>
          obtain ⟨hhistory, hterm, hpanicked⟩ := x.publisher.step_task lib htask
          refine ⟨h.receiver, h.publisher.step event, h.taken, hterm.trans h.term,
            fun hlistener => ?_⟩
          exact hhistory.trans (h.history fun hbefore => hlistener (hpanicked hbefore))
      · exact h

def run (config : FlashblocksWebsocketConfig) (lib : WireLibrary) (channel pipe : Nat)
    [NeZero pipe] (events : List FlashblocksEvent) : Flashblocks channel pipe :=
  Machine.run (step config lib) (new channel pipe) events

theorem inv_run (config : FlashblocksWebsocketConfig) (lib : WireLibrary) (channel pipe : Nat)
    [NeZero pipe] (events : List FlashblocksEvent) :
    (run config lib channel pipe events).Inv lib :=
  run_invariant (fun _ event h => h.step event) inv_new events

/-- What a subscriber was sent was published. -/
theorem Inv.handed (h : x.Inv lib) {sub : Subscription} (hsub : sub ∈ x.publisher.subscriptions) :
    sub.handed.Sublist (x.service.wsPub.map lib.publish) := by
  obtain ⟨i, hi⟩ := List.getElem?_of_mem hsub
  have hready : x.publisher.listener ≠ .panicked := by
    intro hpanicked
    rw [h.publisher.nobody (.inr hpanicked)] at hsub
    simp at hsub
  have hinv := h.publisher.subscription i sub hi
  have htaken : sub.taken.Sublist x.publisher.history :=
    hinv.follows.sublist.trans ((List.drop_sublist _ _).trans (List.take_sublist _ _))
  have hmap := htaken.map Message.text
  rw [h.history hready, List.map_map, ← hinv.handed] at hmap
  exact (List.sublist_append_left _ _).trans hmap

/-- What was published was delivered by the receiver. -/
theorem Inv.delivered (h : x.Inv lib) :
    x.service.wsPub.Sublist (x.receiver.delivered.map (·.2)) := by
  rw [h.receiver.carries.fifo]
  exact ((List.sublist_append_left _ _).trans h.taken).trans (List.sublist_append_left _ _)

/-- Of what was read from the connections, some was delivered, and of this some was published. -/
theorem Inv.origin (h : x.Inv lib) {sub : Subscription} (hsub : sub ∈ x.publisher.subscriptions) :
    ∃ origin : List (Nat × FlashblocksPayloadV1), origin.Sublist x.receiver.delivered ∧
      sub.handed = origin.map fun entry => lib.publish entry.2 := by
  have hhanded := (h.handed hsub).trans (h.delivered.map lib.publish)
  rw [List.map_map] at hhanded
  obtain ⟨origin, horigin, heq⟩ := List.sublist_map_iff.mp hhanded
  exact ⟨origin, horigin, heq⟩

/-- What a subscriber was sent comes from the builder. Each message is the text of a flashblock
that was decoded from one of the connections, and no reading is used twice: what comes from one
connection comes in the order in which it was read there. A message of an earlier connection comes
after one of a later connection only if the earlier was left because of its ping task. -/
theorem run_subscriber_origin (config : FlashblocksWebsocketConfig) (lib : WireLibrary)
    (channel pipe : Nat) [NeZero pipe] (events : List FlashblocksEvent) (sub : Subscription)
    (hsub : sub ∈ (run config lib channel pipe events).publisher.subscriptions) :
    ∃ origin : List (Nat × FlashblocksPayloadV1),
      (sub.handed = origin.map fun entry => lib.publish entry.2) ∧
      (∀ entry ∈ origin, ∃ c,
        (run config lib channel pipe events).receiver.connections[entry.1]? = some c ∧
          ((origin.filter (·.1 = entry.1)).map (·.2)).Sublist (c.read.filterMap lib.receives)) ∧
      origin.Pairwise fun first second => first.1 ≤ second.1 ∨
        (run config lib channel pipe events).receiver.leftBy second.1 = some .ping := by
  have h := inv_run config lib channel pipe events
  obtain ⟨origin, horigin, heq⟩ := h.origin hsub
  refine ⟨origin, heq, fun entry hentry => ?_, h.receiver.order.sublist horigin⟩
  have hlt := h.receiver.known entry (horigin.subset hentry)
  refine ⟨_, List.getElem?_eq_getElem hlt, ?_⟩
  have hread := h.receiver.inOrder.connection entry.1 _ (List.getElem?_eq_getElem hlt)
  exact ((horigin.filter _).map _).trans hread

/-- A flashblock is read, accepted, published and sent to a subscriber. -/
def forwarding (data : Bytes) (payloadId : PayloadId) : List FlashblocksEvent :=
  [.publisher (.listen true), .publisher (.accept true), .publisher (.handshakeEnds true),
    .publisher (.begin 0 true), .receiver (.connect true 0),
    .receiver (.read 0 (.message (.text data)) 0), .receiver (.sendEnds 0),
    .call (.setCurrentPayloadId payloadId), .call (.act 0), .call (.act 0), .receive, .extend,
    .publisher (.recv 0), .publisher (.sendEnds 0 true)]

theorem run_forwarding (hping : config.flashblockBuilderWsPingIntervalMs ≠ 0)
    (hpong : config.flashblockBuilderWsPongTimeoutMs ≠ 0) (hchannel : 0 < channel)
    {data : Bytes} {payload : FlashblocksPayloadV1}
    (hreceives : lib.receives (.message (.text data)) = some payload)
    (haccepts : FlashblockBuilder.new.Accepts payload) :
    (run config lib channel 1 (forwarding data payload.payloadId)).publisher.subscriptions.map
      (·.handed) = [[lib.publish payload]] := by
  have hready : TracedBuilder.new.builder.Accepts payload := haccepts
  simp [forwarding, run, Machine.run, step, new, receive, extend, ReceiverEvent.isTask,
    Locks.Event.isCall, PublisherEvent.isTask, Locks.new, Locks.step, Locks.act,
    FlashblocksReceiver.new, FlashblocksReceiver.step, FlashblocksReceiver.connect,
    FlashblocksReceiver.read, FlashblocksReceiver.sendEnds, FlashblocksReceiver.updateConnection,
    FlashblocksReceiver.recv, Connection.establish, Connection.readNext, Connection.handle,
    Mpsc.new, Mpsc.send, Mpsc.recv, WebSocketPublisher.new, WebSocketPublisher.step,
    WebSocketPublisher.accept, WebSocketPublisher.handshakeEnds, WebSocketPublisher.begin,
    WebSocketPublisher.publish, WebSocketPublisher.hasReceiver, WebSocketPublisher.recv,
    WebSocketPublisher.sendEnds, WebSocketPublisher.updateSubscription, Subscription.new,
    Broadcast.new, Broadcast.send, Broadcast.recv, TracedBuilder.extend, WireLibrary.publish,
    hping, hpong, hchannel, hreceives, hready]

/-- The first flashblock of a block in which everything is zero. -/
def zeroFlashblock : FlashblocksPayloadV1 :=
  { (default : FlashblocksPayloadV1) with base := some default }

@[irreducible] def zeroJson : String :=
  "\x7b\"payload_id\":" ++ WireLibrary.zeros 16 ++
    ",\"index\":0,\"base\":\x7b\"parent_beacon_block_root\":" ++ WireLibrary.zeros 64 ++
    ",\"parent_hash\":" ++ WireLibrary.zeros 64 ++ ",\"fee_recipient\":" ++
    WireLibrary.zeros 40 ++ ",\"prev_randao\":" ++ WireLibrary.zeros 64 ++
    ",\"block_number\":\"0x0\",\"gas_limit\":\"0x0\",\"timestamp\":\"0x0\"" ++
    ",\"extra_data\":\"0x\",\"base_fee_per_gas\":\"0x0\"\x7d,\"diff\":\x7b\"state_root\":" ++
    WireLibrary.zeros 64 ++ ",\"receipts_root\":" ++ WireLibrary.zeros 64 ++
    ",\"logs_bloom\":" ++ WireLibrary.zeros 512 ++ ",\"gas_used\":\"0x0\",\"block_hash\":" ++
    WireLibrary.zeros 64 ++ ",\"transactions\":[],\"withdrawals\":[],\"withdrawals_root\":" ++
    WireLibrary.zeros 64 ++ "\x7d,\"metadata\":null\x7d"

/-- The codec of this flashblock. Nothing here is compressed. -/
def zeroLibrary : WireLibrary where
  toString _ := zeroJson
  fromStr text := if text = zeroJson then .ok zeroFlashblock else .error "expected value"
  compress bytes := bytes
  decompress bytes := .ok bytes

theorem zeroLibrary_receives :
    zeroLibrary.receives (.message (.text (utf8 zeroJson))) = some zeroFlashblock :=
  zeroLibrary.receives_utf8 (if_pos rfl)

def zeroRun : Flashblocks 100 1 :=
  run ⟨500, 1500⟩ zeroLibrary 100 1 (forwarding (utf8 zeroJson) zeroFlashblock.payloadId)

/-- The flashblock reaches a subscriber from the first connection. -/
theorem run_subscriber_origin_forwarding :
    ∃ sub ∈ zeroRun.publisher.subscriptions,
      sub.handed = [zeroLibrary.publish zeroFlashblock] ∧
        ∃ origin : List (Nat × FlashblocksPayloadV1),
          sub.handed = origin.map fun entry => zeroLibrary.publish entry.2 := by
  have hhanded : zeroRun.publisher.subscriptions.map (·.handed) =
      [[zeroLibrary.publish zeroFlashblock]] :=
    run_forwarding (by decide) (by decide) (by decide) zeroLibrary_receives (by decide)
  obtain ⟨sub, hsubs, hsub⟩ := List.map_eq_singleton_iff.mp hhanded
  have hmem : sub ∈ zeroRun.publisher.subscriptions := by
    rw [hsubs]
    exact List.mem_singleton_self sub
  obtain ⟨origin, horigin, -, -⟩ := run_subscriber_origin _ _ _ _ _ sub hmem
  exact ⟨sub, hmem, hsub, origin, horigin⟩

end Flashblocks

end RollupBoost
