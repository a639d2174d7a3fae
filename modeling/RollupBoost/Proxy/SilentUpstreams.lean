import RollupBoost.Machine.Watch
import RollupBoost.Proxy.Subscriber

/-!
# Upstreams that fall silent

The websocket proxy pings its upstreams, too. In `connect_and_listen`
(`websocket-proxy/src/subscriber.rs`) a new connection has a grace period, every pong moves the
deadline, and the loop looks at the deadline four times in the length of the timeout. A connection
whose deadline has passed is given up, and the subscriber makes a new one after a wait.

The loop is a watch over its clock. No look is later than `lateness`; when it turns besides is left
open. Then a connection outlives its deadline by a quarter of the timeout and the lateness at most,
and it is not given up for its silence before the deadline.

A timeout of zero makes the interval of the looks panic. The task of the subscriber ends with its
first connection, and nothing of the upstream is ever handed on.
-/

namespace RollupBoost

open Machine

namespace SubscriberOptions

/-- `deadline_check`. Lengths and instants are in nanoseconds here. -/
def checkPeriod (self : SubscriberOptions) : Nat := self.pongTimeout / 4

/-- Of a connection that was made at `since`. -/
def deadline (self : SubscriberOptions) (since : Nat) : Option Nat → Nat
  | none => since + self.initialGracePeriod
  | some lastPong => lastPong + self.pongTimeout

end SubscriberOptions

/-- A connection that was given up for its silence. -/
structure UpstreamTimeout where
  since : Nat
  lastPong : Option Nat
  instant : Nat

structure UpstreamTimeout.Justified (options : SubscriberOptions) (lateness : Nat)
    (self : UpstreamTimeout) : Prop where
  silent : options.deadline self.since self.lastPong ≤ self.instant
  inTime : self.instant ≤
    options.deadline self.since self.lastPong + options.checkPeriod + lateness

/-- The event, at the instant at which it happens. -/
def WebsocketSubscriber.Event.timed (now : Nat) :
    WebsocketSubscriber.Event → WebsocketSubscriber.Event
  | .connected _ => .connected now
  | .deadlineCheck _ => .deadlineCheck now
  | .received message _ => .received message now
  | event => event

open WebsocketSubscriber (Event)

/-- The subscriber with a clock. Of the last connection it is known when it was made, when its last
pong came, and when the loop looks at its deadline next. -/
structure TimedSubscriber where
  subscriber : WebsocketSubscriber
  now : Nat
  since : Nat
  lastPong : Option Nat
  due : Nat
  panicked : Bool
  timeouts : List UpstreamTimeout

inductive TimedSubscriberEvent where
  | event (event : Event)
  | pass (duration : Nat)

namespace TimedSubscriber

def start : TimedSubscriber where
  subscriber := .new
  now := 0
  since := 0
  lastPong := none
  due := 0
  panicked := false
  timeouts := []

variable (options : SubscriberOptions)

/-- The interval panics before the loop starts if its period is zero. -/
def established (x : TimedSubscriber) : TimedSubscriber :=
  { x with
    subscriber := x.subscriber.step options (.connected x.now)
    since := x.now
    lastPong := none
    due := x.now
    panicked := options.checkPeriod = 0 }

def pong (x : TimedSubscriber) (data : Bytes) : TimedSubscriber :=
  { x with
    subscriber := x.subscriber.step options (.received (.ok (.pong data)) x.now)
    lastPong := some x.now }

/-- The loop looks at the deadline, if it is time. -/
def deadlineCheck (x : TimedSubscriber) (pongDeadline : Nat) : TimedSubscriber :=
  if x.due ≤ x.now then
    { x with
      subscriber := x.subscriber.step options (.deadlineCheck x.now)
      due := x.due + options.checkPeriod
      timeouts :=
        if pongDeadline ≤ x.now then
          x.timeouts ++ [{ since := x.since, lastPong := x.lastPong, instant := x.now }]
        else x.timeouts }
  else x

def turn (x : TimedSubscriber) (event : Event) : TimedSubscriber :=
  match x.subscriber.phase, event with
  | .connecting, .connected _ => x.established options
  | .connected _, .received (.ok (.pong data)) _ => x.pong options data
  | .connected pongDeadline, .deadlineCheck _ => x.deadlineCheck options pongDeadline
  | _, _ => { x with subscriber := x.subscriber.step options (event.timed x.now) }

def step (x : TimedSubscriber) : TimedSubscriberEvent → TimedSubscriber
  | .event event => if x.panicked then x else x.turn options event
  | .pass duration => { x with now := x.now + duration }

def watch (x : TimedSubscriber) : Option Watch :=
  match x.subscriber.phase with
  | .connected pongDeadline =>
      if x.panicked then none else some { deadline := pongDeadline, due := x.due }
  | _ => none

/-- No look is later than `lateness`. -/
def OnTime (lateness : Nat) (x : TimedSubscriber) : TimedSubscriberEvent → Prop
  | .pass duration => ∀ watch ∈ x.watch, x.now + duration ≤ watch.due + lateness
  | .event _ => True

instance (lateness : Nat) (x : TimedSubscriber) (event : TimedSubscriberEvent) :
    Decidable (x.OnTime lateness event) :=
  match event with
  | .pass duration =>
      inferInstanceAs (Decidable (∀ watch ∈ x.watch, x.now + duration ≤ watch.due + lateness))
  | .event _ => isTrue trivial

end TimedSubscriber

/-! ## Connections that stand -/

namespace WebsocketSubscriber

variable {options : SubscriberOptions} {self : WebsocketSubscriber} {event : Event}

/-- Only a new connection and a pong set a deadline. -/
theorem step_phase (hconnect : ∀ now, self.phase = .connecting → event ≠ .connected now)
    (hpong : ∀ pongDeadline data now, self.phase = .connected pongDeadline →
      event ≠ .received (.ok (.pong data)) now) :
    (self.step options event).phase = self.phase ∨
      ∀ deadline, (self.step options event).phase ≠ .connected deadline := by
  cases hphase : self.phase with
  | connecting =>
      cases event with
      | connected now => exact absurd rfl (hconnect now hphase)
      | _ => right; simp [step, hphase, finish]
  | connected pongDeadline =>
      cases event with
      | deadlineCheck now =>
          simp only [step, hphase]
          split
          · exact .inr (by simp [finish])
          · exact .inl hphase
      | received message now =>
          cases message with
          | error e => exact .inr (by simp [step, hphase, handleMessage, finish])
          | ok message =>
              cases message with
              | pong data => exact absurd rfl (hpong pongDeadline data now hphase)
              | close => exact .inr (by simp [step, hphase, handleMessage, finish])
              | _ => exact .inl (by simp [step, hphase, handleMessage])
      | connected now => exact .inl (by simp [step, hphase])
      | refused e => exact .inl (by simp [step, hphase])
      | slept => exact .inl (by simp [step, hphase])
      | _ => exact .inr (by simp [step, hphase, finish, connect])
  | backingOff =>
      right
      cases event with
      | _ => simp [step, hphase, connect]
  | cancelled =>
      right
      cases event with
      | _ => simp [step, hphase]

/-- Without a connection there is nothing to hand on. -/
theorem step_handled (h : ∀ deadline, self.phase ≠ .connected deadline) :
    (self.step options event).handled = self.handled := by
  cases hphase : self.phase with
  | connected pongDeadline => exact absurd hphase (h pongDeadline)
  | _ =>
      cases event with
      | _ => simp [step, hphase, established, finish, connect]

end WebsocketSubscriber

namespace TimedSubscriber

open WebsocketSubscriber (step_phase step_handled)

variable {options : SubscriberOptions} {lateness : Nat} {x : TimedSubscriber}

theorem watch_of_connected {pongDeadline : Nat}
    (hphase : x.subscriber.phase = .connected pongDeadline) (hrunning : x.panicked = false) :
    x.watch = some { deadline := pongDeadline, due := x.due } := by
  simp [watch, hphase, hrunning]

theorem watch_of_not_connected (h : ∀ deadline, x.subscriber.phase ≠ .connected deadline) :
    x.watch = none := by
  cases hphase : x.subscriber.phase with
  | connected pongDeadline => exact absurd hphase (h pongDeadline)
  | _ => simp [watch, hphase]

structure Inv (options : SubscriberOptions) (lateness : Nat) (x : TimedSubscriber) : Prop where
  timely : ∀ watch ∈ x.watch, watch.Timely options.checkPeriod lateness x.now
  deadline : ∀ pongDeadline, x.subscriber.phase = .connected pongDeadline →
    pongDeadline = options.deadline x.since x.lastPong
  /-- No connection is read with an interval of zero. -/
  panicked : x.panicked = true ↔
    options.checkPeriod = 0 ∧ ∃ pongDeadline, x.subscriber.phase = .connected pongDeadline
  handled : options.checkPeriod = 0 → x.subscriber.handled = []
  timeouts : ∀ timeout ∈ x.timeouts, timeout.Justified options lateness

theorem inv_start : start.Inv options lateness where
  timely := by simp [start, watch, WebsocketSubscriber.new]
  deadline := by simp [start, WebsocketSubscriber.new]
  panicked := by simp [start, WebsocketSubscriber.new]
  handled _ := rfl
  timeouts := by simp [start]

/-- A connection that is read has an interval. -/
theorem Inv.checkPeriod_ne_zero (h : x.Inv options lateness) {pongDeadline : Nat}
    (hphase : x.subscriber.phase = .connected pongDeadline) (hrunning : x.panicked = false) :
    options.checkPeriod ≠ 0 := by
  intro hzero
  have hpanicked := h.panicked.mpr ⟨hzero, pongDeadline, hphase⟩
  exact absurd (hrunning.symm.trans hpanicked) Bool.false_ne_true

theorem Inv.le (h : x.Inv options lateness) {pongDeadline : Nat}
    (hphase : x.subscriber.phase = .connected pongDeadline) (hrunning : x.panicked = false) :
    x.now ≤ pongDeadline + options.checkPeriod + lateness :=
  (h.timely _ (watch_of_connected hphase hrunning)).le

/-- The connection stands as before, or there is none any more. -/
theorem Inv.keeps (h : x.Inv options lateness) (hrunning : x.panicked = false) {event : Event}
    (hphase : (x.subscriber.step options event).phase = x.subscriber.phase ∨
      ∀ deadline, (x.subscriber.step options event).phase ≠ .connected deadline) :
    ({ x with subscriber := x.subscriber.step options event } : TimedSubscriber).Inv options
      lateness where
  timely := by
    obtain hsame | hnone := hphase
    · simpa only [watch, hsame] using h.timely
    · have hends : ({ x with subscriber := x.subscriber.step options event } :
          TimedSubscriber).watch = none := watch_of_not_connected hnone
      simp [hends]
  deadline pongDeadline hconnected := by
    obtain hsame | hnone := hphase
    · exact h.deadline pongDeadline (hsame.symm.trans hconnected)
    · exact absurd hconnected (hnone pongDeadline)
  panicked := by
    refine ⟨fun hpanicked => absurd (hrunning.symm.trans hpanicked) Bool.false_ne_true, ?_⟩
    rintro ⟨hzero, pongDeadline, hconnected⟩
    obtain hsame | hnone := hphase
    · exact absurd hzero (h.checkPeriod_ne_zero (hsame.symm.trans hconnected) hrunning)
    · exact absurd hconnected (hnone pongDeadline)
  handled hzero :=
    (step_handled fun _ hconnected => h.checkPeriod_ne_zero hconnected hrunning hzero).trans
      (h.handled hzero)
  timeouts := h.timeouts

theorem Inv.established (h : x.Inv options lateness) (hphase : x.subscriber.phase = .connecting) :
    (x.established options).Inv options lateness := by
  have hnext : (x.established options).subscriber.phase =
      .connected (x.now + options.initialGracePeriod) := by
    simp [TimedSubscriber.established, WebsocketSubscriber.step, hphase,
      WebsocketSubscriber.established]
  have hnone : ∀ deadline, x.subscriber.phase ≠ .connected deadline := by simp [hphase]
  refine ⟨?_, fun pongDeadline hconnected => ?_, ?_, fun hzero => ?_, h.timeouts⟩
  · refine Watch.Timely.step h.timely ?_
    rw [watch_of_not_connected hnone]
    simp only [watch, hnext]
    split
    · exact .stays _
    · exact .begins (Nat.le_add_right x.now options.initialGracePeriod)
  · exact (UpstreamPhase.connected.inj (hnext.symm.trans hconnected)).symm
  · exact ⟨fun hpanicked => ⟨of_decide_eq_true hpanicked, _, hnext⟩,
      fun hboth => decide_eq_true hboth.1⟩
  · exact (step_handled hnone).trans (h.handled hzero)

theorem Inv.pong (h : x.Inv options lateness) (hrunning : x.panicked = false) {pongDeadline : Nat}
    (hphase : x.subscriber.phase = .connected pongDeadline) (data : Bytes) :
    (x.pong options data).Inv options lateness := by
  have hnext : (x.pong options data).subscriber.phase =
      .connected (x.now + options.pongTimeout) := by
    simp [TimedSubscriber.pong, WebsocketSubscriber.step, hphase,
      WebsocketSubscriber.handleMessage]
  have hzero := h.checkPeriod_ne_zero hphase hrunning
  refine ⟨?_, fun pongDeadline hconnected => ?_, ?_, fun h => absurd h hzero, h.timeouts⟩
  · refine Watch.Timely.step h.timely ?_
    rw [watch_of_connected hphase hrunning, watch_of_connected hnext hrunning]
    exact .hears (Nat.le_add_right x.now options.pongTimeout)
  · exact (UpstreamPhase.connected.inj (hnext.symm.trans hconnected)).symm
  · exact ⟨fun hpanicked => absurd (hrunning.symm.trans hpanicked) Bool.false_ne_true,
      fun h => absurd h.1 hzero⟩

theorem Inv.deadlineCheck (h : x.Inv options lateness) (hrunning : x.panicked = false)
    {pongDeadline : Nat} (hphase : x.subscriber.phase = .connected pongDeadline) :
    (x.deadlineCheck options pongDeadline).Inv options lateness := by
  have hkeeps : ({ x with subscriber := x.subscriber.step options (.deadlineCheck x.now) } :
      TimedSubscriber).Inv options lateness := h.keeps hrunning (step_phase (by simp) (by simp))
  simp only [TimedSubscriber.deadlineCheck]
  split
  · next hdue =>
      by_cases hover : pongDeadline ≤ x.now
      · have hnext : (x.subscriber.step options (.deadlineCheck x.now)).phase = .backingOff := by
          simp [WebsocketSubscriber.step, hphase, hover, WebsocketSubscriber.finish]
        refine ⟨?_, hkeeps.deadline, hkeeps.panicked, hkeeps.handled, fun timeout htimeout => ?_⟩
        · simp [watch, hnext]
        · rw [if_pos hover] at htimeout
          obtain hold | hnew := List.mem_append.mp htimeout
          · exact h.timeouts timeout hold
          · have hle := h.le hphase hrunning
            rw [h.deadline pongDeadline hphase] at hover hle
            rw [List.mem_singleton.mp hnew]
            exact ⟨hover, hle⟩
      · have hnext : (x.subscriber.step options (.deadlineCheck x.now)).phase =
            .connected pongDeadline := by
          simp [WebsocketSubscriber.step, hphase, hover]
        refine ⟨?_, hkeeps.deadline, hkeeps.panicked, hkeeps.handled, ?_⟩
        · refine Watch.Timely.step h.timely ?_
          simp only [watch, hphase, hnext, hrunning]
          exact .looks hdue (Nat.le_of_not_le hover)
        · rw [if_neg hover]
          exact h.timeouts
  · exact h

theorem Inv.turn (h : x.Inv options lateness) (hrunning : x.panicked = false) (event : Event) :
    (x.turn options event).Inv options lateness := by
  simp only [TimedSubscriber.turn]
  split
  · next hphase => exact h.established hphase
  · next pongDeadline data _ hphase => exact h.pong hrunning hphase data
  · next pongDeadline _ hphase => exact h.deadlineCheck hrunning hphase
  · next event _ _ hconnect hpong _ =>
      refine h.keeps hrunning (step_phase (fun now hphase heq => ?_)
        (fun pongDeadline data now hphase heq => ?_))
      · cases event with
        | connected earlier => exact hconnect earlier hphase rfl
        | _ => exact absurd heq (by simp [Event.timed])
      · cases event with
        | received message earlier =>
            obtain ⟨rfl, -⟩ := Event.received.inj heq
            exact hpong pongDeadline data earlier hphase rfl
        | _ => exact absurd heq (by simp [Event.timed])

theorem Inv.pass (h : x.Inv options lateness) {duration : Nat}
    (honTime : x.OnTime lateness (.pass duration)) :
    ({ x with now := x.now + duration } : TimedSubscriber).Inv options lateness where
  timely watch hwatch :=
    (h.timely watch hwatch).pass (Nat.le_add_right _ _) (honTime watch hwatch)
  deadline := h.deadline
  panicked := h.panicked
  handled := h.handled
  timeouts := h.timeouts

theorem Inv.step (h : x.Inv options lateness) (event : TimedSubscriberEvent)
    (honTime : x.OnTime lateness event) : (x.step options event).Inv options lateness := by
  cases event with
  | event event =>
      simp only [TimedSubscriber.step]
      split
      · exact h
      · next hrunning => exact h.turn (Bool.eq_false_of_not_eq_true hrunning) event
  | pass duration => exact h.pass honTime

-- a timeout of zero is accepted as an argument
example :
    let x := run (step { pongTimeout := 0, initialGracePeriod := 5000000000 }) start
      [.event (.connected 0), .event (.received (.ok (.binary [1])) 0)]
    x.panicked = true ∧ x.subscriber.handled = [] := by
  decide

end TimedSubscriber

end RollupBoost
