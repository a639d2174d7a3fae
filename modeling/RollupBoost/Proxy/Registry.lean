import RollupBoost.Engine.Payload
import RollupBoost.Machine.Broadcast
import RollupBoost.Machine.Run
import RollupBoost.RateLimit.Address

/-!
# The relay of the websocket proxy

`Registry` (`websocket-proxy/src/registry.rs`) hands every message of the broadcast channel to
every client that has subscribed. The task of a client waits for the next message or for the
signal of its reader, and sends a message before it waits again. Every outcome but a message
that was sent ends the task: a lag, a closed channel, a failed send, the signal of the reader.
So nothing can be skipped, and what a client was sent is a segment of the messages that were
broadcast since it subscribed, without a gap.

The task is cut at its awaits, and an event makes one task take one step. A message that was
taken from the channel is being sent until the send has ended, while other clients go on and
the channel may overwrite its slots.
-/

namespace RollupBoost

open Machine

/-- `axum::extract::ws::Message`; a text is kept as its UTF-8. -/
inductive Message where
  | text (data : Text)
  | binary (data : Bytes)
  | ping (data : Bytes)
  | pong (data : Bytes)
  | close
  deriving DecidableEq

/-- What the reader gets from the socket: a message, an error, or the end of the stream. -/
inductive Incoming where
  | message (message : Message)
  | error
  | finished

structure Registry where
  pingEnabled : Bool
  pongTimeoutMs : Nat

/-- The task of `start_reader`; instants are nanoseconds of the monotonic clock. -/
structure Reader where
  running : Bool
  lastPong : Nat

namespace Reader

/-- The reader after a message, and whether it signals a disconnect. -/
def receive (registry : Registry) (self : Reader) (incoming : Incoming) (now : Nat) :
    Reader × Bool :=
  match incoming with
  | .message (.pong _) =>
      (if registry.pingEnabled then { self with lastPong := now } else self, false)
  | .message .close => ({ self with running := false }, true)
  | .error => ({ self with running := false }, true)
  | .finished => ({ self with running := false }, true)
  | .message _ => (self, false)

def checkTimeout (registry : Registry) (self : Reader) (now : Nat) : Reader × Bool :=
  if registry.pingEnabled && decide (registry.pongTimeoutMs * 10 ^ 6 < now - self.lastPong) then
    ({ self with running := false }, true)
  else (self, false)

end Reader

/-- Where the task of a client stands in its loop. -/
inductive ClientPhase where
  | selecting
  | sending (message : Message)
  | finished
  deriving DecidableEq

/-- The task of `subscribe` for one client, with the messages that it was sent. -/
structure Client where
  receiver : Nat
  phase : ClientPhase
  reader : Reader
  disconnect : Bool
  sent : List Message

namespace Client

/-- A subscription starts at the end of the channel. -/
def subscribe (tail now : Nat) : Client where
  receiver := tail
  phase := .selecting
  reader := { running := true, lastPong := now }
  disconnect := false
  sent := []

/-- The end of the loop aborts the reader. -/
def leave (self : Client) : Client :=
  { self with phase := .finished, reader := { self.reader with running := false } }

variable {capacity : Nat} [NeZero capacity]

/-- The branch of the receiver. -/
def recv (channel : Broadcast Message capacity) (self : Client) : Client :=
  match self.phase with
  | .selecting =>
      match channel.recv self.receiver with
      | (receiver, .ok message) => { self with receiver := receiver, phase := .sending message }
      | (receiver, .closed) => ({ self with receiver := receiver } : Client).leave
      | (receiver, .lagged _) => ({ self with receiver := receiver } : Client).leave
      | (_, .empty) => self
  | _ => self

/-- The message has reached the client, or the send has failed. -/
def sendEnds (self : Client) (delivered : Bool) : Client :=
  match self.phase with
  | .sending message =>
      if delivered then { self with phase := .selecting, sent := self.sent ++ [message] }
      else self.leave
  | _ => self

/-- The branch of the reader's signal. -/
def observeDisconnect (self : Client) : Client :=
  match self.phase with
  | .selecting => if self.disconnect then self.leave else self
  | _ => self

def readerStep (self : Client) (step : Reader → Reader × Bool) : Client :=
  if self.reader.running then
    { self with
      reader := (step self.reader).1
      disconnect := self.disconnect || (step self.reader).2 }
  else self

end Client

/-- The proxy between two steps. -/
structure Relay (capacity : Nat) where
  channel : Broadcast Message capacity
  clients : List Client

inductive RelayEvent where
  | broadcast (message : Message)
  | closeChannel
  | subscribe (now : Nat)
  | recv (client : Nat)
  | sendEnds (client : Nat) (delivered : Bool)
  | observeDisconnect (client : Nat)
  | incoming (client : Nat) (incoming : Incoming) (now : Nat)
  | checkTimeout (client : Nat) (now : Nat)
  /-- The server drops the task. -/
  | cancel (client : Nat)

namespace Relay

variable {capacity : Nat}

def start (capacity : Nat) : Relay capacity := { channel := .new Message capacity, clients := [] }

def updateClient (x : Relay capacity) (client : Nat) (f : Client → Client) : Relay capacity :=
  { x with clients := x.clients.modify client f }

variable [NeZero capacity]

def step (registry : Registry) (x : Relay capacity) : RelayEvent → Relay capacity
  | .broadcast message => { x with channel := x.channel.send message }
  | .closeChannel => { x with channel := x.channel.close }
  | .subscribe now =>
      { x with clients := x.clients ++ [Client.subscribe x.channel.tail now] }
  | .recv client => x.updateClient client (·.recv x.channel)
  | .sendEnds client delivered => x.updateClient client (·.sendEnds delivered)
  | .observeDisconnect client => x.updateClient client (·.observeDisconnect)
  | .incoming client incoming now =>
      x.updateClient client (·.readerStep (·.receive registry incoming now))
  | .checkTimeout client now =>
      x.updateClient client (·.readerStep (·.checkTimeout registry now))
  | .cancel client => x.updateClient client (·.leave)

end Relay

/-! ## What a client was sent -/

namespace Client

/-- The message that was taken from the channel and is on its way. -/
def inFlight (self : Client) : List Message :=
  match self.phase with
  | .sending message => [message]
  | _ => []

/-- A client that subscribed when the history was `start` messages long. While its task runs, it
was sent, or is being sent, all that its receiver has passed. -/
structure Inv (history : List Message) (start : Nat) (client : Client) : Prop where
  start_le : start ≤ history.length
  sent : client.sent <+: history.drop start
  running : client.phase ≠ .finished →
    start ≤ client.receiver ∧ client.receiver ≤ history.length ∧
      client.sent ++ client.inFlight = (history.take client.receiver).drop start

variable {capacity : Nat} {history : List Message} {start : Nat} {self : Client}

theorem Inv.leave (h : self.Inv history start) : self.leave.Inv history start :=
  ⟨h.start_le, h.sent, fun hrunning => absurd rfl hrunning⟩

/-- A longer history changes nothing for the client. -/
theorem Inv.broadcast (h : self.Inv history start) (message : Message) :
    self.Inv (history ++ [message]) start where
  start_le := by
    have hle := h.start_le
    simp only [List.length_append, List.length_singleton]
    omega
  sent := by
    rw [List.drop_append_of_le_length h.start_le]
    exact h.sent.trans (List.prefix_append _ _)
  running := by
    intro hrunning
    obtain ⟨hstart, hreceiver, hsegment⟩ := h.running hrunning
    rw [List.take_append_of_le_length hreceiver]
    refine ⟨hstart, ?_, hsegment⟩
    simp only [List.length_append, List.length_singleton]
    omega

/-- What is received next goes to the end of the segment; everything else ends the task. -/
theorem Inv.recv [NeZero capacity] {channel : Broadcast Message capacity}
    (hchannel : channel.Holds history) (h : self.Inv history start) :
    (self.recv channel).Inv history start := by
  cases hphase : self.phase with
  | sending message => simpa [Client.recv, hphase] using h
  | finished => simpa [Client.recv, hphase] using h
  | selecting =>
      obtain ⟨hstart, hreceiver, hsegment⟩ := h.running (by simp [hphase])
      have hleave : ∀ receiver, ({ self with receiver := receiver } : Client).leave.Inv
          history start :=
        fun receiver => ⟨h.start_le, h.sent, fun hrunning => absurd rfl hrunning⟩
      obtain ⟨message, hget, -, heq⟩ | ⟨-, heq⟩ | ⟨-, heq⟩ := hchannel.recv_cases hreceiver
      · simp only [Client.recv, hphase, heq]
        refine ⟨h.start_le, h.sent, fun _ => ⟨by simp only; omega, ?_, ?_⟩⟩
        · exact (List.getElem?_eq_some_iff.mp hget).1
        · have hsent : self.sent = (history.take self.receiver).drop start := by
            simpa [inFlight, hphase] using hsegment
          have hlength : start ≤ (history.take self.receiver).length := by
            rw [List.length_take]
            omega
          simp only [inFlight]
          rw [List.take_add_one, hget, Option.toList_some,
            List.drop_append_of_le_length hlength, ← hsent]
      · simp only [Client.recv, hphase, heq]
        cases channel.closed with
        | true => exact hleave _
        | false => exact h
      · simp only [Client.recv, hphase, heq]
        exact hleave _

theorem Inv.sendEnds (h : self.Inv history start) (delivered : Bool) :
    (self.sendEnds delivered).Inv history start := by
  cases hphase : self.phase with
  | selecting => simpa [Client.sendEnds, hphase] using h
  | finished => simpa [Client.sendEnds, hphase] using h
  | sending message =>
      cases delivered with
      | false =>
          simp only [Client.sendEnds, hphase]
          exact h.leave
      | true =>
          obtain ⟨hstart, hreceiver, hsegment⟩ := h.running (by simp [hphase])
          have hsent : self.sent ++ [message] = (history.take self.receiver).drop start := by
            simpa [inFlight, hphase] using hsegment
          simp only [Client.sendEnds, hphase, if_true]
          refine ⟨h.start_le, ?_, fun _ => ⟨hstart, hreceiver, ?_⟩⟩
          · rw [hsent, List.drop_take]
            exact List.take_prefix _ _
          · simpa [inFlight] using hsent

theorem Inv.observeDisconnect (h : self.Inv history start) :
    self.observeDisconnect.Inv history start := by
  simp only [Client.observeDisconnect]
  split
  · split
    · exact h.leave
    · exact h
  · exact h

theorem Inv.readerStep (h : self.Inv history start) (step : Reader → Reader × Bool) :
    (self.readerStep step).Inv history start := by
  simp only [Client.readerStep]
  split
  · exact ⟨h.start_le, h.sent, h.running⟩
  · exact h

end Client

namespace RelayEvent

def broadcasts : RelayEvent → List Message
  | .broadcast message => [message]
  | _ => []

def isSubscribe : RelayEvent → Bool
  | .subscribe _ => true
  | _ => false

end RelayEvent

namespace Relay

variable {capacity : Nat} [NeZero capacity] {x : Relay capacity}
variable {history : List Message} {since index : Nat}

/-- The client with this index subscribed when the history was `since` messages long. -/
structure Follows (x : Relay capacity) (history : List Message) (since index : Nat) : Prop where
  channel : x.channel.Holds history
  client : ∃ client, x.clients[index]? = some client ∧ client.Inv history since

theorem Follows.updateClient (h : x.Follows history since index) {f : Client → Client}
    (hf : ∀ client : Client, client.Inv history since → (f client).Inv history since)
    (other : Nat) : (x.updateClient other f).Follows history since index where
  channel := h.channel
  client := by
    obtain ⟨client, hget, hinv⟩ := h.client
    simp only [Relay.updateClient, List.getElem?_modify, hget]
    by_cases hsame : other = index
    · exact ⟨f client, by simp [hsame], hf client hinv⟩
    · exact ⟨client, by simp [hsame], hinv⟩

theorem step_channel (registry : Registry) (h : x.channel.Holds history) (event : RelayEvent) :
    (x.step registry event).channel.Holds (history ++ event.broadcasts) := by
  have hsilent : history ++ [] = history := List.append_nil history
  cases event with
  | broadcast message => exact h.send message
  | closeChannel => exact hsilent.symm ▸ h.close
  | _ => exact hsilent.symm ▸ h

theorem Follows.step (h : x.Follows history since index) (registry : Registry)
    (event : RelayEvent) :
    (x.step registry event).Follows (history ++ event.broadcasts) since index := by
  have hchannel := step_channel registry h.channel event
  refine ⟨hchannel, ?_⟩
  obtain ⟨client, hget, hinv⟩ := h.client
  have hsilent : history ++ [] = history := List.append_nil history
  cases event with
  | broadcast message => exact ⟨client, hget, hinv.broadcast message⟩
  | closeChannel => exact ⟨client, hget, hsilent.symm ▸ hinv⟩
  | subscribe now =>
      refine ⟨client, ?_, hsilent.symm ▸ hinv⟩
      obtain ⟨hlt, -⟩ := List.getElem?_eq_some_iff.mp hget
      simp only [Relay.step]
      rw [List.getElem?_append_left hlt, hget]
  | recv other =>
      exact hsilent.symm ▸ (h.updateClient (fun _ hinv => hinv.recv h.channel) other).client
  | sendEnds other delivered =>
      exact hsilent.symm ▸ (h.updateClient (fun _ hinv => hinv.sendEnds delivered) other).client
  | observeDisconnect other =>
      exact hsilent.symm ▸ (h.updateClient (fun _ hinv => hinv.observeDisconnect) other).client
  | incoming other incoming now =>
      exact hsilent.symm ▸ (h.updateClient (fun _ hinv => hinv.readerStep _) other).client
  | checkTimeout other now =>
      exact hsilent.symm ▸ (h.updateClient (fun _ hinv => hinv.readerStep _) other).client
  | cancel other =>
      exact hsilent.symm ▸ (h.updateClient (fun _ hinv => hinv.leave) other).client

theorem Follows.run (h : x.Follows history since index) (registry : Registry)
    (events : List RelayEvent) :
    (Machine.run (Relay.step registry) x events).Follows
      (history ++ events.flatMap (·.broadcasts)) since index := by
  induction events generalizing x history with
  | nil => simpa using h
  | cons event rest ih =>
      have hrest := ih (h.step registry event)
      rwa [List.append_assoc] at hrest

theorem step_length (registry : Registry) (x : Relay capacity) (event : RelayEvent) :
    (x.step registry event).clients.length =
      x.clients.length + if event.isSubscribe then 1 else 0 := by
  cases event <;> simp [Relay.step, updateClient, RelayEvent.isSubscribe]

/-- The channel holds the end of what was broadcast, and there is a client for each
subscription. -/
theorem run_start (capacity : Nat) [NeZero capacity] (registry : Registry)
    (events : List RelayEvent) :
    let x := run (step registry) (start capacity) events
    x.channel.Holds (events.flatMap (·.broadcasts)) ∧
      x.clients.length = events.countP (·.isSubscribe) := by
  induction events using List.reverseRecOn with
  | nil => exact ⟨Broadcast.holds_new, rfl⟩
  | append_singleton before event ih =>
      obtain ⟨hchannel, hclients⟩ := ih
      rw [run_concat]
      constructor
      · have hnext := step_channel registry hchannel event
        simpa using hnext
      · rw [step_length, hclients, List.countP_append, List.countP_singleton]

/-- For every capacity and every schedule: what a client was sent is a segment, without a gap,
a duplicate or a change of order, of the messages that were broadcast after its subscription,
and begins with the first of them. -/
theorem relay_is_gap_free (registry : Registry) (capacity : Nat) [NeZero capacity]
    (before after : List RelayEvent) (now : Nat) :
    ∃ client,
      (run (step registry) (start capacity) (before ++ .subscribe now :: after)).clients[
        before.countP (·.isSubscribe)]? = some client ∧
      client.sent <+: after.flatMap (·.broadcasts) := by
  obtain ⟨hchannel, hclients⟩ := run_start capacity registry before
  rw [run_append, run_cons]
  generalize run (step registry) (start capacity) before = x at hchannel hclients ⊢
  have hfollows : (x.step registry (.subscribe now)).Follows (before.flatMap (·.broadcasts))
      (before.flatMap (·.broadcasts)).length (before.countP (·.isSubscribe)) := by
    refine ⟨hchannel, Client.subscribe x.channel.tail now, ?_,
      ⟨Nat.le_refl _, List.nil_prefix, fun _ => ?_⟩⟩
    · simp only [step]
      rw [← hclients, List.getElem?_concat_length]
    · have htail := hchannel.tail
      exact ⟨htail.ge, htail.le, by simp [Client.subscribe, Client.inFlight, htail]⟩
  obtain ⟨client, hget, hinv⟩ := (hfollows.run registry after).client
  refine ⟨client, hget, ?_⟩
  have hsent := hinv.sent
  rwa [List.drop_left] at hsent

/-- A client is one message behind when the ring of two slots is overrun. -/
def overrun : List RelayEvent :=
  [.broadcast (.binary [1]), .recv 0, .broadcast (.binary [2]), .sendEnds 0 true,
    .broadcast (.binary [3]), .broadcast (.binary [4]), .recv 0, .recv 0]

/-- It was sent the first message after its subscription, and left before it could miss one. -/
theorem gap_free_until_lag :
    ∃ client,
      (run (step { pingEnabled := false, pongTimeoutMs := 0 }) (start 2)
        ([.broadcast (.binary [0])] ++ .subscribe 0 :: overrun)).clients[0]? = some client ∧
      client.sent <+: [.binary [1], .binary [2], .binary [3], .binary [4]] ∧
      client.sent = [.binary [1]] ∧ client.phase = .finished := by
  obtain ⟨client, hget, hsegment⟩ := relay_is_gap_free { pingEnabled := false, pongTimeoutMs := 0 }
    2 [.broadcast (.binary [0])] overrun 0
  have hclient : (run (step { pingEnabled := false, pongTimeoutMs := 0 }) (start 2)
      ([.broadcast (.binary [0])] ++ .subscribe 0 :: overrun)).clients[0]?.map
        (fun client => (client.sent, client.phase)) = some ([.binary [1]], .finished) := by
    decide
  have hfirst : (run (step { pingEnabled := false, pongTimeoutMs := 0 }) (start 2)
      ([.broadcast (.binary [0])] ++ .subscribe 0 :: overrun)).clients[0]? = some client := hget
  rw [hfirst, Option.map_some] at hclient
  exact ⟨client, hget, hsegment, Prod.mk.inj (Option.some.inj hclient)⟩

end Relay

end RollupBoost
