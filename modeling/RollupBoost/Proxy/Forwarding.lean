import RollupBoost.Machine.Tasks
import RollupBoost.Proxy.Subscriber
import RollupBoost.Proxy.Wire

/-!
# From the upstreams to the clients of the websocket proxy

`main` (`websocket-proxy/src/main.rs`) starts a subscriber for each upstream. Their listener,
which they share, broadcasts what they receive to all clients, and so does the task that pings
the clients.

A log keeps what was broadcast, each message with the upstream that it came from. In every
interleaving of the subscribers, of the pings and of the clients, the part of the log that comes
from an upstream is what its subscriber was handed, in order and over all its connections, and a
client was sent a part of the log without a gap, from its subscription on. Two upstreams that
send the same flashblock have it broadcast twice.
-/

namespace RollupBoost

open Machine

namespace WebsocketSubscriber

variable {options : SubscriberOptions}

/-- What the handler is called with in a step. -/
def handles (options : SubscriberOptions) (self : WebsocketSubscriber) (event : Event) :
    List Bytes := (self.step options event).handled.drop self.handled.length

@[simp] theorem handled_finish (self : WebsocketSubscriber) (result : Except UpstreamError Unit) :
    (self.finish result).handled = self.handled := by
  cases result <;> rfl

theorem handled_handleMessage (options : SubscriberOptions) (self : WebsocketSubscriber) (now : Nat)
    (message : Except UpstreamError Message) :
    self.handled <+: (self.handleMessage options now message).1.handled := by
  cases message with
  | error e => exact List.prefix_refl _
  | ok message =>
      cases message with
      | text data => exact List.prefix_append _ _
      | binary data => exact List.prefix_append _ _
      | _ => exact List.prefix_refl _

theorem handled_step (self : WebsocketSubscriber) (event : Event) :
    (self.step options event).handled = self.handled ++ self.handles options event := by
  have hprefix : self.handled <+: (self.step options event).handled := by
    simp only [step]
    split
    · exact List.prefix_refl _
    · simp
    · split <;> simp
    · simp
    · next message now _ =>
        have hhandled := handled_handleMessage options self now message
        split
        · next heq =>
            rw [heq] at hhandled
            exact hhandled
        · next heq =>
            rw [heq] at hhandled
            rw [handled_finish]
            exact hhandled
    · simp
    · exact List.prefix_refl _
    · exact List.prefix_refl _
    · exact List.prefix_refl _
    · exact List.prefix_refl _
  obtain ⟨rest, hrest⟩ := hprefix
  rw [handles, ← hrest, List.drop_left]

end WebsocketSubscriber

/-- The subscribers and the clients, with the log and, for each client, its length when the client
subscribed. -/
structure WebsocketProxy (capacity : Nat) where
  subscribers : List WebsocketSubscriber
  relay : Relay capacity
  log : List (Option Nat × Message)
  sinces : List Nat

inductive WebsocketProxyEvent where
  | upstream (index : Nat) (event : WebsocketSubscriber.Event)
  | ping
  | client (event : RelayEvent)

/-- What the clients do themselves. The registry holds a sender, so that the channel is not
closed. -/
def RelayEvent.isOfClient : RelayEvent → Bool
  | .broadcast _ => false
  | .closeChannel => false
  | _ => true

namespace WebsocketProxy

variable {capacity : Nat}

def start (upstreams capacity : Nat) : WebsocketProxy capacity where
  subscribers := List.replicate upstreams .new
  relay := .start capacity
  log := []
  sinces := []

variable [NeZero capacity] (registry : Registry)

def broadcast (source : Option Nat) (x : WebsocketProxy capacity) (message : Message) :
    WebsocketProxy capacity :=
  { x with
    relay := x.relay.step registry (.broadcast message)
    log := x.log ++ [(source, message)] }

def upstream (lib : WireLibrary) (enableCompression : Bool) (options : SubscriberOptions)
    (x : WebsocketProxy capacity) (index : Nat) (event : WebsocketSubscriber.Event) :
    WebsocketProxy capacity :=
  match x.subscribers[index]? with
  | some subscriber =>
      ((subscriber.handles options event).map (lib.listener enableCompression)).foldl
        (broadcast registry (some index))
        { x with subscribers := x.subscribers.modify index (·.step options event) }
  | none => x

def client (x : WebsocketProxy capacity) (event : RelayEvent) : WebsocketProxy capacity :=
  if event.isOfClient then
    { x with
      relay := x.relay.step registry event
      sinces := if event.isSubscribe then x.sinces ++ [x.log.length] else x.sinces }
  else x

def step (lib : WireLibrary) (enableCompression : Bool) (options : SubscriberOptions)
    (x : WebsocketProxy capacity) : WebsocketProxyEvent → WebsocketProxy capacity
  | .upstream index event => x.upstream registry lib enableCompression options index event
  | .ping => if registry.pingEnabled then x.broadcast registry none (.ping []) else x
  | .client event => x.client registry event

/-! ## The log -/

/-- The channel holds the end of the log, and every client follows it from its subscription on. -/
structure Relays (x : WebsocketProxy capacity) : Prop where
  channel : x.relay.channel.Holds (x.log.map (·.2))
  length : x.sinces.length = x.relay.clients.length
  follows : ∀ i since, x.sinces[i]? = some since →
    x.relay.Follows (x.log.map (·.2)) since i

variable {registry} {x : WebsocketProxy capacity}

theorem relays_start (upstreams : Nat) : (start upstreams capacity).Relays where
  channel := Broadcast.holds_new
  length := rfl
  follows i since h := absurd h (by simp [start])

theorem Relays.broadcast (h : x.Relays) (source : Option Nat) (message : Message) :
    (x.broadcast registry source message).Relays := by
  have hlog : (x.log ++ [(source, message)]).map (·.2) = x.log.map (·.2) ++ [message] := by simp
  refine ⟨?_, ?_, ?_⟩
  · show Broadcast.Holds _ ((x.log ++ [(source, message)]).map (·.2))
    rw [hlog]
    exact h.channel.send message
  · exact h.length
  · intro i since hsince
    show Relay.Follows _ ((x.log ++ [(source, message)]).map (·.2)) since i
    rw [hlog]
    exact (h.follows i since hsince).step registry (.broadcast message)

theorem Relays.foldl (h : x.Relays) (source : Option Nat) (messages : List Message) :
    (messages.foldl (WebsocketProxy.broadcast registry source) x).Relays := by
  induction messages generalizing x with
  | nil => exact h
  | cons message messages ih => exact ih (h.broadcast source message)

/-- A new client follows the log from its end on. -/
theorem follows_subscribe (registry : Registry) {relay : Relay capacity} {history : List Message}
    (h : relay.channel.Holds history) (now : Nat) :
    (relay.step registry (.subscribe now)).Follows history history.length
      relay.clients.length := by
  refine ⟨h, Client.subscribe relay.channel.tail now, List.getElem?_concat_length, Nat.le_refl _,
    List.nil_prefix, fun _ => ⟨h.tail.ge, h.tail.le, ?_⟩⟩
  simp [Client.subscribe, Client.inFlight, h.tail]

theorem Relays.client (h : x.Relays) (event : RelayEvent) : (x.client registry event).Relays := by
  simp only [WebsocketProxy.client]
  split
  · next hclient =>
      have hsilent : event.broadcasts = [] := by
        cases event <;> simp_all [RelayEvent.broadcasts, RelayEvent.isOfClient]
      have hchannel := Relay.step_channel registry h.channel event
      rw [hsilent, List.append_nil] at hchannel
      have hfollows : ∀ i since, x.sinces[i]? = some since →
          (x.relay.step registry event).Follows (x.log.map (·.2)) since i := by
        intro i since hsince
        have hstep := (h.follows i since hsince).step registry event
        rwa [hsilent, List.append_nil] at hstep
      refine ⟨hchannel, ?_, ?_⟩
      · rw [Relay.step_length, ← h.length]
        split <;> simp
      · cases hsubscribe : event.isSubscribe with
        | false => exact hfollows
        | true =>
            refine forall_concat (P := fun i since => (x.relay.step registry event).Follows
              (x.log.map (·.2)) since i) hfollows ?_
            obtain ⟨now, rfl⟩ : ∃ now, event = .subscribe now := by
              cases event <;> simp_all [RelayEvent.isSubscribe]
            have hnew := follows_subscribe registry h.channel now
            rwa [List.length_map, ← h.length] at hnew
  · exact h

/-- The messages of the log that came from one upstream. -/
def fromUpstream (x : WebsocketProxy capacity) (index : Nat) : List Message :=
  (x.log.filter (·.1 = some index)).map (·.2)

variable (registry) in
/-- The log is made of what the subscribers were handed, and of pings. -/
structure Origins (lib : WireLibrary) (enableCompression : Bool) (x : WebsocketProxy capacity) :
    Prop where
  handled : ∀ (i : Nat) subscriber, x.subscribers[i]? = some subscriber →
    x.fromUpstream i = subscriber.handled.map (lib.listener enableCompression)
  pings : ∀ message, (none, message) ∈ x.log → message = .ping [] ∧ registry.pingEnabled = true
  upstream : ∀ i message, (some i, message) ∈ x.log → i < x.subscribers.length

variable {lib : WireLibrary} {enableCompression : Bool} {options : SubscriberOptions}

omit [NeZero capacity] in
theorem origins_start (upstreams : Nat) :
    (start upstreams capacity).Origins registry lib enableCompression where
  handled i subscriber h := by
    have hnew : subscriber = .new := List.eq_of_mem_replicate (List.mem_of_getElem? h)
    rw [hnew]
    rfl
  pings message h := absurd h List.not_mem_nil
  upstream i message h := absurd h List.not_mem_nil

theorem foldl_broadcast (registry : Registry) (source : Option Nat) (messages : List Message)
    (x : WebsocketProxy capacity) :
    let y := messages.foldl (WebsocketProxy.broadcast registry source) x
    y.log = x.log ++ messages.map (source, ·) ∧ y.subscribers = x.subscribers ∧
      y.sinces = x.sinces ∧ y.relay.clients = x.relay.clients := by
  induction messages generalizing x with
  | nil => simp
  | cons message messages ih =>
      obtain ⟨hlog, hsame⟩ := ih (x.broadcast registry source message)
      refine ⟨?_, hsame⟩
      rw [List.foldl_cons, hlog]
      simp [broadcast]

theorem filter_map_source (source : Option Nat) (index : Nat) (messages : List Message) :
    ((messages.map (source, ·)).filter (·.1 = some index)).map (·.2) =
      if source = some index then messages else [] := by
  induction messages with
  | nil => simp
  | cons message messages ih => split <;> simp_all

theorem Origins.upstream_step (h : x.Origins registry lib enableCompression) (index : Nat)
    (event : WebsocketSubscriber.Event) :
    (x.upstream registry lib enableCompression options index event).Origins registry lib
      enableCompression := by
  simp only [WebsocketProxy.upstream]
  split
  · next subscriber hsubscriber =>
      obtain ⟨hlog, hsubscribers, -⟩ := foldl_broadcast registry (some index)
        ((subscriber.handles options event).map (lib.listener enableCompression))
        { x with subscribers := x.subscribers.modify index (·.step options event) }
      refine ⟨?_, ?_, ?_⟩
      · intro i other hother
        rw [hsubscribers, getElem?_modify_map] at hother
        obtain ⟨before, hbefore, rfl⟩ := Option.map_eq_some_iff.mp hother
        have hpart := h.handled i before hbefore
        simp only [fromUpstream] at hpart ⊢
        rw [hlog, List.filter_append, List.map_append, hpart, filter_map_source]
        by_cases hindex : index = i
        · subst hindex
          obtain rfl := Option.some.inj (hsubscriber.symm.trans hbefore)
          simp [WebsocketSubscriber.handled_step]
        · simp [hindex]
      · intro message hmem
        rw [hlog, List.mem_append] at hmem
        exact h.pings message (hmem.resolve_right (by simp))
      · intro i message hmem
        rw [hlog, List.mem_append] at hmem
        rw [hsubscribers, List.length_modify]
        obtain hold | hnew := hmem
        · exact h.upstream i message hold
        · obtain ⟨_, -, heq⟩ := List.mem_map.mp hnew
          obtain rfl : index = i := by simpa using congrArg Prod.fst heq
          exact (List.getElem?_eq_some_iff.mp hsubscriber).1
  · exact h

theorem Origins.ping (h : x.Origins registry lib enableCompression)
    (henabled : registry.pingEnabled = true) :
    (x.broadcast registry none (.ping [])).Origins registry lib enableCompression where
  handled i subscriber hsubscriber := by
    rw [← h.handled i subscriber hsubscriber]
    simp [fromUpstream, broadcast]
  pings message hmem := by
    obtain hold | hnew := List.mem_append.mp hmem
    · exact h.pings message hold
    · exact ⟨by simpa using hnew, henabled⟩
  upstream i message hmem := by
    obtain hold | hnew := List.mem_append.mp hmem
    · exact h.upstream i message hold
    · exact absurd hnew (by simp)

variable (registry lib enableCompression options) in
/-- Both invariants, through a step. -/
theorem step_invariant (x : WebsocketProxy capacity) (event : WebsocketProxyEvent)
    (h : x.Relays ∧ x.Origins registry lib enableCompression) :
    (x.step registry lib enableCompression options event).Relays ∧
      (x.step registry lib enableCompression options event).Origins registry lib
        enableCompression := by
  obtain ⟨hrelays, horigins⟩ := h
  cases event with
  | upstream index event =>
      refine ⟨?_, horigins.upstream_step index event⟩
      simp only [WebsocketProxy.step, WebsocketProxy.upstream]
      split
      · refine Relays.foldl ?_ _ _
        exact ⟨hrelays.channel, hrelays.length, hrelays.follows⟩
      · exact hrelays
  | ping =>
      simp only [WebsocketProxy.step]
      split
      · next henabled => exact ⟨hrelays.broadcast none (.ping []), horigins.ping henabled⟩
      · exact ⟨hrelays, horigins⟩
  | client event =>
      refine ⟨hrelays.client event, ?_⟩
      simp only [WebsocketProxy.step, WebsocketProxy.client]
      split
      · exact ⟨horigins.handled, horigins.pings, horigins.upstream⟩
      · exact horigins

/-- There is one log of what was broadcast. What came from an upstream is there in order and
completely, and nothing else is there but pings. A client was sent what follows in the log from
its subscription on, without a gap. -/
theorem run_forwards (capacity : Nat) [NeZero capacity] (registry : Registry) (lib : WireLibrary)
    (enableCompression : Bool) (options : SubscriberOptions) (upstreams : Nat)
    (events : List WebsocketProxyEvent) :
    let x := run (step registry lib enableCompression options) (start upstreams capacity) events
    (∀ (i : Nat) subscriber, x.subscribers[i]? = some subscriber →
      x.fromUpstream i = subscriber.handled.map (lib.listener enableCompression)) ∧
    (∀ source message, (source, message) ∈ x.log →
      (∃ i < x.subscribers.length, source = some i) ∨
        source = none ∧ message = .ping [] ∧ registry.pingEnabled = true) ∧
    ∀ (i : Nat) client, x.relay.clients[i]? = some client →
      ∃ since, x.sinces[i]? = some since ∧ client.sent <+: (x.log.map (·.2)).drop since := by
  intro x
  obtain ⟨hrelays, horigins⟩ : x.Relays ∧ x.Origins registry lib enableCompression :=
    run_invariant (step_invariant registry lib enableCompression options)
      ⟨relays_start upstreams, origins_start upstreams⟩ events
  refine ⟨horigins.handled, ?_, ?_⟩
  · intro source message hmem
    cases source with
    | none => exact .inr ⟨rfl, horigins.pings message hmem⟩
    | some i => exact .inl ⟨i, horigins.upstream i message hmem, rfl⟩
  · intro i client hclient
    have hlt : i < x.sinces.length := by
      rw [hrelays.length]
      exact (List.getElem?_eq_some_iff.mp hclient).1
    obtain ⟨other, hother, hinv⟩ :=
      (hrelays.follows i _ (List.getElem?_eq_getElem hlt)).client
    obtain rfl := Option.some.inj (hclient.symm.trans hother)
    exact ⟨_, List.getElem?_eq_getElem hlt, hinv.sent⟩

/-- Two upstreams that send the same, with a client that subscribes in between. -/
def sameTwice : List WebsocketProxyEvent :=
  [.upstream 0 (.connected 0), .upstream 1 (.connected 0),
    .upstream 0 (.received (.ok (.binary [1])) 0), .client (.subscribe 0),
    .upstream 1 (.received (.ok (.binary [1])) 0), .ping, .client (.recv 0),
    .client (.sendEnds 0 true)]

theorem run_forwards_sameTwice :
    let x := run (step ⟨true, 30000⟩ WireLibrary.emptyLibrary false default) (start 2 16) sameTwice
    x.log = [(some 0, .binary [1]), (some 1, .binary [1]), (none, .ping [])] ∧
    x.fromUpstream 1 = [.binary [1]] ∧ x.relay.clients.map (·.sent) = [[.binary [1]]] ∧
    ∀ (i : Nat) client, x.relay.clients[i]? = some client →
      ∃ since, x.sinces[i]? = some since ∧ client.sent <+: (x.log.map (·.2)).drop since :=
  ⟨by decide, by decide, by decide,
    (run_forwards 16 ⟨true, 30000⟩ WireLibrary.emptyLibrary false default 2 sameTwice).2.2⟩

end WebsocketProxy

end RollupBoost
