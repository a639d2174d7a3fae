import RollupBoost.Flashblocks.PingPong
import RollupBoost.Machine.Mpsc
import RollupBoost.Machine.Tasks
import RollupBoost.Proxy.Wire

/-!
# The connection to the builder

`FlashblocksReceiverService` (`rollup-boost/src/flashblocks/inbound.rs`) connects to the builder
again and again. A connection has two tasks of its own. The message task decodes the text frames
and puts the flashblocks into a bounded channel; the ping task sends pings. The first of them to
end ends the connection for `connect_and_handle`, which cancels the ping task and returns.

Nothing ends the message task but itself. A connection that is left because its ping task failed
has a message task that goes on reading, and what it reads may reach the channel behind what the
next connection has read. A panic of the message task returns before the ping task is cancelled.

The tasks are cut at their awaits. Instants are nanoseconds of the monotonic clock, and the
lengths of the backoff are left out: a sleep ends at any time.
-/

namespace RollupBoost

open Machine

/-- The fields of the configuration that the tasks read. -/
structure FlashblocksWebsocketConfig where
  flashblockBuilderWsPingIntervalMs : Nat
  flashblockBuilderWsPongTimeoutMs : Nat

inductive FlashblocksReceiverError where
  | connection
  | pingFailed
  | pongTimeout
  | messageMissing
  | connectionError
  | connectionClosed
  | taskPanic
  | sendError (payload : FlashblocksPayloadV1)

/-- The error of a task that panicked returns before the ping task is cancelled. -/
def FlashblocksReceiverError.cancels : FlashblocksReceiverError → Bool
  | .taskPanic => false
  | _ => true

/-- The flashblock that the message task finds in a frame. A text that does not decode is only
logged. -/
def WireLibrary.receives (lib : WireLibrary) : Incoming → Option FlashblocksPayloadV1
  | .message (.text data) =>
      match fromUtf8 data with
      | some text => (lib.fromStr text).toOption
      | none => none
  | _ => none

inductive MessageTask where
  | reading
  /-- The flashblock waits for room in the channel. -/
  | sending (payload : FlashblocksPayloadV1)
  | ended (error : FlashblocksReceiverError)

inductive PingTask where
  | running
  | ended (result : Except FlashblocksReceiverError Unit)

/-- The task whose end has ended the connection. -/
inductive EndedBy where
  | message
  | ping
  deriving DecidableEq

/-- A connection with its two tasks, and with all that was read from its socket. -/
structure Connection where
  read : List Incoming
  messageTask : MessageTask
  pingTask : PingTask
  pings : PingPong
  cancelled : Bool
  /-- `none` while `connect_and_handle` waits for the tasks. -/
  left : Option EndedBy

namespace Connection

variable (config : FlashblocksWebsocketConfig) (lib : WireLibrary)

def pongTimeout : Nat := config.flashblockBuilderWsPongTimeoutMs * 10 ^ 6

/-- An interval of length zero is a panic, here of the message task. -/
def establish (now : Nat) : Connection where
  read := []
  messageTask := if config.flashblockBuilderWsPongTimeoutMs = 0 then .ended .taskPanic else .reading
  pingTask := .running
  pings := .new (now + pongTimeout config)
  cancelled := false
  left := none

/-- What the message task makes of the next item of the stream. -/
def handle (self : Connection) (now : Nat) : Incoming → Connection
  | .message (.text data) =>
      match lib.receives (.message (.text data)) with
      | some payload => { self with messageTask := .sending payload }
      | none => self
  | .message .close => { self with messageTask := .ended .connectionClosed }
  | .message (.pong data) =>
      { self with pings := self.pings.step (pongTimeout config) (.pong data now) }
  | .message (.ping _) => self
  | .message (.binary _) => self
  | .error => { self with messageTask := .ended .connectionError }
  | .finished => { self with messageTask := .ended .messageMissing }

def readNext (self : Connection) (item : Incoming) (now : Nat) : Connection :=
  match self.messageTask with
  | .reading => { self.handle config lib now item with read := self.read ++ [item] }
  | _ => self

/-- The deadline for a pong has passed. -/
def pongTick (self : Connection) (now : Nat) : Connection :=
  match self.messageTask with
  | .reading =>
      if self.pings.pongDeadline ≤ now then { self with messageTask := .ended .pongTimeout }
      else self
  | _ => self

/-- The ping task waits for its next tick, or for the cancellation. -/
def pingTaskWaits (self : Connection) : Bool :=
  match self.pingTask, self.pings.unregistered with
  | .running, none => true
  | _, _ => false

def sendPing (self : Connection) (uuid : PingUuid) (sent : Bool) : Connection :=
  if self.pingTaskWaits then
    if sent then { self with pings := self.pings.step (pongTimeout config) (.send uuid) }
    else { self with pingTask := .ended (.error .pingFailed) }
  else self

/-- The second half of a ping. -/
def putPing (self : Connection) : Connection :=
  match self.pingTask with
  | .running => { self with pings := self.pings.step (pongTimeout config) .put }
  | _ => self

def observeCancel (self : Connection) : Connection :=
  if self.pingTaskWaits && self.cancelled then { self with pingTask := .ended (.ok ()) } else self

/-- `connect_and_handle` goes on to its return. -/
def leave (self : Connection) (endedBy : EndedBy) (cancels : Bool) : Connection :=
  { self with left := some endedBy, cancelled := self.cancelled || cancels }

end Connection

/-- Where the loop of `run` stands. -/
inductive ReceiverPhase where
  | connecting
  | connected
  | sleeping
  | panicked
  deriving DecidableEq

/-- The service, all its connections, and what went through the channel. -/
structure FlashblocksReceiver (capacity : Nat) where
  phase : ReceiverPhase
  connections : List Connection
  sender : Mpsc FlashblocksPayloadV1 capacity
  /-- What was put into the channel, each with the number of its connection. -/
  delivered : List (Nat × FlashblocksPayloadV1)
  taken : List FlashblocksPayloadV1
  connectionStatus : Nat
  reconnectAttempts : Nat
  messagesReceived : Nat
  /-- How often "Invariant is broken" was logged. -/
  brokenInvariants : Nat

inductive ReceiverEvent where
  | connect (established : Bool) (now : Nat)
  | read (index : Nat) (item : Incoming) (now : Nat)
  | sendEnds (index : Nat)
  | pongTick (index : Nat) (now : Nat)
  | sendPing (index : Nat) (uuid : PingUuid) (sent : Bool)
  | putPing (index : Nat)
  | observeCancel (index : Nat)
  | joinMessageTask
  | joinPingTask
  | wake
  | recv
  | dropReceiver

namespace FlashblocksReceiver

variable {capacity : Nat}

def new (capacity : Nat) : FlashblocksReceiver capacity where
  phase := .connecting
  connections := []
  sender := .new FlashblocksPayloadV1 capacity
  delivered := []
  taken := []
  connectionStatus := 0
  reconnectAttempts := 0
  messagesReceived := 0
  brokenInvariants := 0

def updateConnection (x : FlashblocksReceiver capacity) (index : Nat)
    (f : Connection → Connection) : FlashblocksReceiver capacity :=
  { x with connections := x.connections.modify index f }

/-- The branch of `run` for an error: back off, then connect again. -/
def retry (x : FlashblocksReceiver capacity) : FlashblocksReceiver capacity :=
  { x with
    phase := .sleeping
    connectionStatus := 0
    reconnectAttempts := x.reconnectAttempts + 1 }

/-- The number of the connection that `connect_and_handle` works on. -/
def current (x : FlashblocksReceiver capacity) : Nat := x.connections.length - 1

def connect (config : FlashblocksWebsocketConfig) (x : FlashblocksReceiver capacity)
    (established : Bool) (now : Nat) : FlashblocksReceiver capacity :=
  match x.phase with
  | .connecting =>
      if established then
        -- the interval of the ping task is made by `run` itself
        if config.flashblockBuilderWsPingIntervalMs = 0 then
          { x with phase := .panicked, connectionStatus := 1 }
        else
          { x with
            phase := .connected
            connections := x.connections ++ [Connection.establish config now]
            connectionStatus := 1 }
      else x.retry
  | _ => x

def read (config : FlashblocksWebsocketConfig) (lib : WireLibrary)
    (x : FlashblocksReceiver capacity) (index : Nat) (item : Incoming) (now : Nat) :
    FlashblocksReceiver capacity :=
  match x.connections[index]? with
  | some { messageTask := .reading, .. } =>
      { x.updateConnection index (·.readNext config lib item now) with
        messagesReceived :=
          match item with
          | .message (.text _) => x.messagesReceived + 1
          | _ => x.messagesReceived }
  | _ => x

/-- The flashblock is put into the channel, or there is nobody to take it. -/
def sendEnds (x : FlashblocksReceiver capacity) (index : Nat) : FlashblocksReceiver capacity :=
  match x.connections[index]? with
  | some { messageTask := .sending payload, .. } =>
      match x.sender.send payload with
      | .ok sender =>
          { x.updateConnection index ({ · with messageTask := .reading }) with
            sender := sender
            delivered := x.delivered ++ [(index, payload)] }
      | .full => x
      | .closed =>
          x.updateConnection index ({ · with messageTask := .ended (.sendError payload) })
  | _ => x

/-- The message task has ended first. It never returns a value but an error. -/
def joinMessageTask (x : FlashblocksReceiver capacity) : FlashblocksReceiver capacity :=
  match x.phase, x.connections[x.current]? with
  | .connected, some { messageTask := .ended error, .. } =>
      (x.updateConnection x.current (·.leave .message error.cancels)).retry
  | _, _ => x

def joinPingTask (x : FlashblocksReceiver capacity) : FlashblocksReceiver capacity :=
  match x.phase, x.connections[x.current]? with
  | .connected, some { pingTask := .ended result, .. } =>
      let x := x.updateConnection x.current (·.leave .ping true)
      match result with
      | .error _ => x.retry
      | .ok _ => { x with phase := .connecting, brokenInvariants := x.brokenInvariants + 1 }
  | _, _ => x

/-- The task of the flashblocks service takes the next flashblock. -/
def recv (x : FlashblocksReceiver capacity) : FlashblocksReceiver capacity :=
  match x.sender.recv with
  | some (payload, sender) => { x with sender := sender, taken := x.taken ++ [payload] }
  | none => x

def step (config : FlashblocksWebsocketConfig) (lib : WireLibrary)
    (x : FlashblocksReceiver capacity) : ReceiverEvent → FlashblocksReceiver capacity
  | .connect established now => x.connect config established now
  | .read index item now => x.read config lib index item now
  | .sendEnds index => x.sendEnds index
  | .pongTick index now => x.updateConnection index (·.pongTick now)
  | .sendPing index uuid sent => x.updateConnection index (·.sendPing config uuid sent)
  | .putPing index => x.updateConnection index (·.putPing config)
  | .observeCancel index => x.updateConnection index (·.observeCancel)
  | .joinMessageTask => x.joinMessageTask
  | .joinPingTask => x.joinPingTask
  | .wake => if x.phase = .sleeping then { x with phase := .connecting } else x
  | .recv => x.recv
  | .dropReceiver => { x with sender := { x.sender with receiverGone := true } }

end FlashblocksReceiver

/-! ## One connection -/

namespace Connection

variable {config : FlashblocksWebsocketConfig} {lib : WireLibrary}
variable {self : Connection} {delivered : List FlashblocksPayloadV1}

/-- The flashblock that was read and did not get into the channel, or not yet. -/
def undelivered (self : Connection) : List FlashblocksPayloadV1 :=
  match self.messageTask with
  | .sending payload => [payload]
  | .ended (.sendError payload) => [payload]
  | _ => []

/-- What went through the channel is what was read, in order. -/
structure Inv (lib : WireLibrary) (delivered : List FlashblocksPayloadV1) (x : Connection) :
    Prop where
  delivers : delivered ++ x.undelivered = x.read.filterMap lib.receives
  ended : x.left = some .message → ∃ error, x.messageTask = .ended error
  pingEnded : x.pingTask = .ended (.ok ()) → x.cancelled = true
  cancelled : x.cancelled = true → x.left ≠ none

theorem inv_establish (config : FlashblocksWebsocketConfig) (now : Nat) :
    (establish config now).Inv lib [] where
  delivers := by
    by_cases hzero : config.flashblockBuilderWsPongTimeoutMs = 0
    · simp [undelivered, establish, hzero]
    · simp [undelivered, establish, hzero]
  ended := by simp [establish]
  pingEnded := by simp [establish]
  cancelled := by simp [establish]

/-- A step of a task that neither reads nor delivers anything. -/
theorem Inv.of_eq {next : Connection} (h : self.Inv lib delivered) (hread : next.read = self.read)
    (hundelivered : next.undelivered = self.undelivered)
    (hended : ∀ error, self.messageTask = .ended error → next.messageTask = .ended error)
    (hping : next.pingTask = .ended (.ok ()) →
      self.pingTask = .ended (.ok ()) ∨ self.cancelled = true)
    (hcancelled : next.cancelled = self.cancelled) (hleft : next.left = self.left) :
    next.Inv lib delivered where
  delivers := by rw [hundelivered, hread, h.delivers]
  ended := by
    intro hmessage
    obtain ⟨error, herror⟩ := h.ended (hleft ▸ hmessage)
    exact ⟨error, hended error herror⟩
  pingEnded := by
    intro hok
    rw [hcancelled]
    obtain hbefore | hbefore := hping hok
    · exact h.pingEnded hbefore
    · exact hbefore
  cancelled := by
    rw [hcancelled, hleft]
    exact h.cancelled

@[simp] theorem left_pongTick (now : Nat) : (self.pongTick now).left = self.left := by
  simp only [pongTick]
  split
  · split <;> rfl
  · rfl

@[simp] theorem left_sendPing (uuid : PingUuid) (sent : Bool) :
    (self.sendPing config uuid sent).left = self.left := by
  simp only [sendPing]
  split
  · split <;> rfl
  · rfl

@[simp] theorem left_putPing : (self.putPing config).left = self.left := by
  simp only [putPing]
  split <;> rfl

@[simp] theorem left_observeCancel : self.observeCancel.left = self.left := by
  simp only [observeCancel]
  split <;> rfl

theorem Inv.pongTick (h : self.Inv lib delivered) (now : Nat) :
    (self.pongTick now).Inv lib delivered := by
  simp only [Connection.pongTick]
  split
  · next hreading =>
      split
      · refine h.of_eq rfl (by simp [undelivered, hreading]) ?_ .inl rfl rfl
        intro error herror
        exact absurd (hreading.symm.trans herror) (by simp)
      · exact h
  · exact h

theorem Inv.sendPing (h : self.Inv lib delivered) (uuid : PingUuid) (sent : Bool) :
    (self.sendPing config uuid sent).Inv lib delivered := by
  simp only [Connection.sendPing]
  split
  · split
    · exact h.of_eq rfl rfl (fun _ h => h) .inl rfl rfl
    · exact h.of_eq rfl rfl (fun _ h => h) (by simp) rfl rfl
  · exact h

theorem Inv.putPing (h : self.Inv lib delivered) : (self.putPing config).Inv lib delivered := by
  simp only [Connection.putPing]
  split
  · exact h.of_eq rfl rfl (fun _ h => h) .inl rfl rfl
  · exact h

theorem Inv.observeCancel (h : self.Inv lib delivered) :
    self.observeCancel.Inv lib delivered := by
  simp only [Connection.observeCancel]
  split
  · next hcancelled =>
      rw [Bool.and_eq_true] at hcancelled
      exact h.of_eq rfl rfl (fun _ h => h) (fun _ => .inr hcancelled.2) rfl rfl
  · exact h

/-- All that the next item of the stream can do to the message task: a flashblock in it is on
its way to the channel, and nothing else is. -/
theorem handle_cases (config : FlashblocksWebsocketConfig) (lib : WireLibrary)
    (hreading : self.messageTask = .reading) (now : Nat) (item : Incoming) :
    (self.handle config lib now item).undelivered = (lib.receives item).toList ∧
      (self.handle config lib now item).pingTask = self.pingTask ∧
      (self.handle config lib now item).cancelled = self.cancelled ∧
      (self.handle config lib now item).left = self.left := by
  cases item with
  | error => exact ⟨rfl, rfl, rfl, rfl⟩
  | finished => exact ⟨rfl, rfl, rfl, rfl⟩
  | message message =>
      cases message with
      | text data =>
          simp only [handle]
          cases lib.receives (.message (.text data)) with
          | none => exact ⟨by simp [undelivered, hreading], rfl, rfl, rfl⟩
          | some payload => exact ⟨rfl, rfl, rfl, rfl⟩
      | binary data => exact ⟨by simp [handle, undelivered, hreading]; rfl, rfl, rfl, rfl⟩
      | ping data => exact ⟨by simp [handle, undelivered, hreading]; rfl, rfl, rfl, rfl⟩
      | pong data => exact ⟨by simp [handle, undelivered, hreading]; rfl, rfl, rfl, rfl⟩
      | close => exact ⟨rfl, rfl, rfl, rfl⟩

@[simp] theorem left_readNext (item : Incoming) (now : Nat) :
    (self.readNext config lib item now).left = self.left := by
  simp only [readNext]
  split
  · next hreading => exact (handle_cases config lib hreading now item).2.2.2
  · rfl

theorem Inv.readNext (h : self.Inv lib delivered) (item : Incoming) (now : Nat) :
    (self.readNext config lib item now).Inv lib delivered := by
  simp only [Connection.readNext]
  split
  · next hreading =>
      obtain ⟨hundelivered, hping, hcancelled, hleft⟩ :=
        handle_cases config lib hreading now item
      have hnone : self.undelivered = [] := by simp [undelivered, hreading]
      refine ⟨?_, ?_, ?_, ?_⟩
      · have hdelivers := h.delivers
        rw [hnone, List.append_nil] at hdelivers
        show delivered ++ (self.handle config lib now item).undelivered =
          (self.read ++ [item]).filterMap lib.receives
        rw [hundelivered, List.filterMap_append, hdelivers]
        cases hreceived : lib.receives item with
        | none => simp [hreceived]
        | some payload => simp [hreceived]
      · intro hmessage
        obtain ⟨error, herror⟩ := h.ended (hleft ▸ hmessage)
        exact absurd (hreading.symm.trans herror) (by simp)
      · intro hok
        exact hcancelled ▸ h.pingEnded (hping ▸ hok)
      · show (self.handle config lib now item).cancelled = true →
          (self.handle config lib now item).left ≠ none
        rw [hcancelled, hleft]
        exact h.cancelled
  · exact h

/-- The flashblock that was on its way is in the channel. -/
theorem Inv.sent {payload : FlashblocksPayloadV1} (h : self.Inv lib delivered)
    (hsending : self.messageTask = .sending payload) :
    ({ self with messageTask := .reading } : Connection).Inv lib (delivered ++ [payload]) where
  delivers := by
    have hdelivers := h.delivers
    simp only [undelivered, hsending] at hdelivers
    simpa [undelivered] using hdelivers
  ended := by
    intro hmessage
    obtain ⟨error, herror⟩ := h.ended hmessage
    exact absurd (hsending.symm.trans herror) (by simp)
  pingEnded := h.pingEnded
  cancelled := h.cancelled

/-- The receiver of the channel is gone. -/
theorem Inv.lost {payload : FlashblocksPayloadV1} (h : self.Inv lib delivered)
    (hsending : self.messageTask = .sending payload) :
    ({ self with messageTask := .ended (.sendError payload) } : Connection).Inv lib delivered := by
  refine h.of_eq rfl (by simp [undelivered, hsending]) ?_ .inl rfl rfl
  intro error herror
  exact absurd (hsending.symm.trans herror) (by simp)

theorem Inv.leave (h : self.Inv lib delivered) {endedBy : EndedBy} (cancels : Bool)
    (hended : endedBy = .message → ∃ error, self.messageTask = .ended error) :
    (self.leave endedBy cancels).Inv lib delivered where
  delivers := h.delivers
  ended := fun hmessage => hended (Option.some.inj hmessage)
  pingEnded := by
    intro hok
    simp [Connection.leave, h.pingEnded hok]
  cancelled := by simp [Connection.leave]

end Connection

end RollupBoost
