import RollupBoost.Proxy.Registry

/-!
# The upstream connection of the websocket proxy

`WebsocketSubscriber::run` (`websocket-proxy/src/subscriber.rs`) connects to the upstream,
hands its messages on, and connects again when a connection has ended. A gauge is to show the
number of active connections. It goes up in `connect_and_listen`, once a connection is
established, and it goes down in `run`, when an attempt has ended with an error.

The two do not match. An attempt that was refused ends with an error and never went up, and a
connection that ended with its stream went up and ends without an error. Each of these moves
the gauge for good. Without them it is right in every state of every run.

The loop is cut at its awaits; an event is what one of them returns. A message of the upstream
is the one of the relay, since both libraries have the same kinds that matter here.
-/

namespace RollupBoost

open Machine

/-- An error of the websocket library. -/
inductive UpstreamError where
  | connectionClosed
  | other (message : String)

structure SubscriberOptions where
  pongTimeout : Nat
  initialGracePeriod : Nat

/-- The defaults, in milliseconds. -/
instance : Inhabited SubscriberOptions := ⟨{ pongTimeout := 4000, initialGracePeriod := 5000 }⟩

/-- Where the loop waits. -/
inductive UpstreamPhase where
  | connecting
  | connected (pongDeadline : Nat)
  | backingOff
  | cancelled
  deriving DecidableEq

/-- The loop, what it has added to the metrics and what it has handed on. -/
structure WebsocketSubscriber where
  phase : UpstreamPhase
  upstreamConnections : Int
  upstreamConnectionAttempts : Nat
  upstreamConnectionSuccesses : Nat
  upstreamConnectionFailures : Nat
  upstreamErrors : Nat
  handled : List Bytes

namespace WebsocketSubscriber

/-- The loop at its first attempt. -/
def new : WebsocketSubscriber where
  phase := .connecting
  upstreamConnections := 0
  upstreamConnectionAttempts := 1
  upstreamConnectionSuccesses := 0
  upstreamConnectionFailures := 0
  upstreamErrors := 0
  handled := []

/-- The next call of `connect_and_listen`, up to the point where it waits for the connection. -/
def connect (self : WebsocketSubscriber) : WebsocketSubscriber :=
  { self with
    phase := .connecting
    upstreamConnectionAttempts := self.upstreamConnectionAttempts + 1 }

/-- What `run` does with the result of `connect_and_listen`. -/
def finish (self : WebsocketSubscriber) : Except UpstreamError Unit → WebsocketSubscriber
  | .ok _ => self.connect
  | .error _ =>
      { self with
        phase := .backingOff
        upstreamErrors := self.upstreamErrors + 1
        upstreamConnections := self.upstreamConnections - 1 }

/-- The connection is established. -/
def established (options : SubscriberOptions) (self : WebsocketSubscriber) (now : Nat) :
    WebsocketSubscriber :=
  { self with
    phase := .connected (now + options.initialGracePeriod)
    upstreamConnectionSuccesses := self.upstreamConnectionSuccesses + 1
    upstreamConnections := self.upstreamConnections + 1 }

def handleMessage (options : SubscriberOptions) (self : WebsocketSubscriber) (now : Nat) :
    Except UpstreamError Message → WebsocketSubscriber × Except UpstreamError Unit
  | .error e => (self, .error e)
  | .ok (.text data) => ({ self with handled := self.handled ++ [data] }, .ok ())
  | .ok (.binary data) => ({ self with handled := self.handled ++ [data] }, .ok ())
  | .ok (.pong _) => ({ self with phase := .connected (now + options.pongTimeout) }, .ok ())
  | .ok .close => (self, .error .connectionClosed)
  | .ok (.ping _) => (self, .ok ())

/-- What an await returns. -/
inductive Event where
  | connected (now : Nat)
  | refused (e : UpstreamError)
  | deadlineCheck (now : Nat)
  | pingFailed (e : UpstreamError)
  | received (message : Except UpstreamError Message) (now : Nat)
  | streamEnded
  | slept
  | cancelled

/-- One turn of the loop. An event that the loop does not wait for is without effect. -/
def step (options : SubscriberOptions) (self : WebsocketSubscriber) (event : Event) :
    WebsocketSubscriber :=
  match self.phase, event with
  | .connecting, .connected now => self.established options now
  | .connecting, .refused e =>
      { self with
        upstreamConnectionFailures := self.upstreamConnectionFailures + 1 }.finish (.error e)
  | .connected pongDeadline, .deadlineCheck now =>
      if pongDeadline ≤ now then self.finish (.error .connectionClosed) else self
  | .connected _, .pingFailed e => self.finish (.error e)
  | .connected _, .received message now =>
      match self.handleMessage options now message with
      | (next, .ok _) => next
      | (next, .error e) => next.finish (.error e)
  | .connected _, .streamEnded => self.finish (.ok ())
  | .backingOff, .slept => self.connect
  | .cancelled, _ => self
  | _, .cancelled => { self with phase := .cancelled }
  | _, _ => self

/-- The gauge shows one while there is a connection, and zero between two attempts. -/
def Consistent (self : WebsocketSubscriber) : Prop :=
  match self.phase with
  | .connected _ => self.upstreamConnections = 1
  | .cancelled => True
  | .connecting | .backingOff => self.upstreamConnections = 0

/-- The event neither refuses a connection nor ends one with its stream. -/
def Clean (self : WebsocketSubscriber) (event : Event) : Prop :=
  match self.phase, event with
  | .connecting, .refused _ => False
  | .connected _, .streamEnded => False
  | _, _ => True

variable (options : SubscriberOptions) {self : WebsocketSubscriber}

theorem consistent_of_connected {deadline : Nat} (h : self.phase = .connected deadline) :
    self.Consistent ↔ self.upstreamConnections = 1 := by
  simp only [Consistent, h]

theorem consistent_of_connecting (h : self.phase = .connecting) :
    self.Consistent ↔ self.upstreamConnections = 0 := by
  simp only [Consistent, h]

theorem consistent_of_backingOff (h : self.phase = .backingOff) :
    self.Consistent ↔ self.upstreamConnections = 0 := by
  simp only [Consistent, h]

/-- An attempt that ends with an error takes one off the gauge. -/
theorem consistent_finish_error (e : UpstreamError) :
    (self.finish (.error e)).Consistent ↔ self.upstreamConnections = 1 := by
  simp only [finish, Consistent]
  omega

/-- An attempt that ends without an error leaves the gauge alone. -/
theorem consistent_finish_ok : (self.finish (.ok ())).Consistent ↔
    self.upstreamConnections = 0 := by
  simp only [finish, connect, Consistent]

/-- Handling a message keeps the gauge, and the connection. -/
theorem handleMessage_keeps {deadline : Nat} (hphase : self.phase = .connected deadline)
    (now : Nat) (message : Except UpstreamError Message) :
    (self.handleMessage options now message).1.upstreamConnections = self.upstreamConnections ∧
      ∃ deadline', (self.handleMessage options now message).1.phase = .connected deadline' := by
  cases message with
  | error e => exact ⟨rfl, deadline, hphase⟩
  | ok message =>
      cases message with
      | text data => exact ⟨rfl, deadline, hphase⟩
      | binary data => exact ⟨rfl, deadline, hphase⟩
      | ping data => exact ⟨rfl, deadline, hphase⟩
      | pong data => exact ⟨rfl, _, rfl⟩
      | close => exact ⟨rfl, deadline, hphase⟩

/-- While there is a connection, everything but the end of its stream is counted right. -/
theorem consistent_step_of_connected {deadline : Nat} (hphase : self.phase = .connected deadline)
    (hone : self.upstreamConnections = 1) (event : Event) :
    (self.step options event).Consistent ↔ self.Clean event := by
  have hstay : self.Consistent := (consistent_of_connected hphase).mpr hone
  cases event with
  | connected now => simpa [step, Clean, hphase] using hstay
  | refused e => simpa [step, Clean, hphase] using hstay
  | deadlineCheck now =>
      simp only [step, Clean, hphase, iff_true]
      split
      · exact (consistent_finish_error _).mpr hone
      · exact hstay
  | pingFailed e =>
      simp only [step, Clean, hphase, iff_true]
      exact (consistent_finish_error _).mpr hone
  | received message now =>
      obtain ⟨hgauge, deadline', hconnected⟩ := handleMessage_keeps options hphase now message
      rw [hone] at hgauge
      simp only [step, Clean, hphase, iff_true]
      split
      · next next _ heq =>
          rw [heq] at hgauge hconnected
          exact (consistent_of_connected hconnected).mpr hgauge
      · next next e heq =>
          rw [heq] at hgauge
          exact (consistent_finish_error e).mpr hgauge
  | streamEnded =>
      simp only [step, Clean, hphase, consistent_finish_ok, iff_false]
      omega
  | slept => simpa [step, Clean, hphase] using hstay
  | cancelled => simp [step, Clean, hphase, Consistent]

/-- Between two connections, everything but a refused one is counted right. -/
theorem consistent_step_of_connecting (hphase : self.phase = .connecting)
    (hzero : self.upstreamConnections = 0) (event : Event) :
    (self.step options event).Consistent ↔ self.Clean event := by
  have hstay : self.Consistent := (consistent_of_connecting hphase).mpr hzero
  cases event with
  | connected now => simp [step, Clean, hphase, established, Consistent, hzero]
  | refused e =>
      simp only [step, Clean, hphase, consistent_finish_error, iff_false]
      omega
  | cancelled => simp [step, Clean, hphase, Consistent]
  | deadlineCheck now => simpa [step, Clean, hphase] using hstay
  | pingFailed e => simpa [step, Clean, hphase] using hstay
  | received message now => simpa [step, Clean, hphase] using hstay
  | streamEnded => simpa [step, Clean, hphase] using hstay
  | slept => simpa [step, Clean, hphase] using hstay

theorem consistent_step_iff (h : self.Consistent) (event : Event) :
    (self.step options event).Consistent ↔ self.Clean event := by
  cases hphase : self.phase with
  | connecting =>
      exact consistent_step_of_connecting options hphase
        ((consistent_of_connecting hphase).mp h) event
  | connected deadline =>
      exact consistent_step_of_connected options hphase
        ((consistent_of_connected hphase).mp h) event
  | backingOff =>
      have hzero := (consistent_of_backingOff hphase).mp h
      cases event with
      | slept => simp [step, Clean, hphase, connect, Consistent, hzero]
      | _ => simp [step, Clean, hphase, Consistent, hzero]
  | cancelled =>
      cases event with
      | _ => simp [step, Clean, hphase, Consistent]

/-- The gauge is right in every state of a run exactly if no attempt of the run is refused
and no connection ends with its stream. -/
theorem gauge_consistent_iff (options : SubscriberOptions) (events : List Event) :
    (∀ before after, events = before ++ after → (run (step options) new before).Consistent) ↔
      Along (step options) Clean new events := by
  constructor
  · intro h
    rw [Along.iff_forall_cut]
    rintro before event after rfl
    refine (consistent_step_iff options (h before (event :: after) rfl) event).mp ?_
    rw [← run_concat (step options)]
    exact h (before ++ [event]) after (by simp)
  · rintro h before after rfl
    refine (Along.append_iff.mp h).1.run_invariant ?_ rfl
    intro s event hs hclean
    exact (consistent_step_iff options hs event).mpr hclean

/-- Both ways to go wrong: a refused attempt leaves the gauge at minus one, and a connection
whose stream has ended leaves it at one. -/
theorem gauge_drifts :
    let refused := run (step default) new [.refused (.other "connection refused")]
    let ended := run (step default) new [.connected 0, .streamEnded]
    (refused.phase = .backingOff ∧ refused.upstreamConnections = -1 ∧ ¬ refused.Consistent) ∧
      ended.phase = .connecting ∧ ended.upstreamConnections = 1 ∧ ¬ ended.Consistent := by
  refine ⟨⟨rfl, rfl, ?_⟩, rfl, rfl, ?_⟩
  · rw [consistent_of_backingOff rfl]
    decide
  · rw [consistent_of_connecting rfl]
    decide

end WebsocketSubscriber

end RollupBoost
