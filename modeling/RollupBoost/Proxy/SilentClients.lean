import RollupBoost.Machine.Tasks
import RollupBoost.Machine.Watch
import RollupBoost.Proxy.Registry

/-!
# Clients that fall silent

The websocket proxy pings its clients and gives up on those that do not answer. The reader of a
client (`start_reader` in `websocket-proxy/src/registry.rs`) keeps the instant of the last pong and
looks at it four times in the length of the timeout. When the timeout has passed, when the client
ends the connection, or when the connection fails, it signals the loop of the client to end.

The readers are watches over a clock that all tasks read. No look is later than `lateness`; when the
tasks run besides that is left open. Then no reader waits for a silent client longer than five
quarters of the timeout and the lateness, and none gives up on a client whose pongs are in time.

A timeout of less than four milliseconds makes the interval of the looks panic. This ends the reader
and its end of the signal, so that every client is left at once, pings or not.
-/

namespace RollupBoost

open Machine

namespace Registry

/-- `timeout_checker`, in nanoseconds as all lengths here. -/
def checkPeriod (registry : Registry) : Nat := registry.pongTimeoutMs / 4 * 10 ^ 6

def pongTimeout (registry : Registry) : Nat := registry.pongTimeoutMs * 10 ^ 6

end Registry

/-- What ends the connection from the side of the client. -/
def Incoming.closes : Incoming → Bool
  | .message .close => true
  | .error => true
  | .finished => true
  | _ => false

namespace Reader

/-- The deadline of the reader, and its next look. -/
def watch (registry : Registry) (self : Reader) (due : Nat) : Option Watch :=
  if self.running && registry.pingEnabled then
    some { deadline := self.lastPong + registry.pongTimeout, due := due }
  else none

theorem receive_cases (registry : Registry) (self : Reader) (incoming : Incoming) (now : Nat) :
    (incoming.closes = true ∧
      self.receive registry incoming now = ({ self with running := false }, true)) ∨
    (registry.pingEnabled = true ∧
      self.receive registry incoming now = ({ self with lastPong := now }, false)) ∨
    self.receive registry incoming now = (self, false) := by
  cases incoming with
  | error => exact .inl ⟨rfl, rfl⟩
  | finished => exact .inl ⟨rfl, rfl⟩
  | message message =>
      cases message with
      | close => exact .inl ⟨rfl, rfl⟩
      | pong data =>
          cases henabled : registry.pingEnabled with
          | true => exact .inr (.inl ⟨rfl, by simp [receive, henabled]⟩)
          | false => exact .inr (.inr (by simp [receive, henabled]))
      | _ => exact .inr (.inr rfl)

theorem checkTimeout_cases (registry : Registry) (self : Reader) (now : Nat) :
    (registry.pingEnabled = true ∧ self.lastPong + registry.pongTimeout < now ∧
      self.checkTimeout registry now = ({ self with running := false }, true)) ∨
    ((registry.pingEnabled = true → now ≤ self.lastPong + registry.pongTimeout) ∧
      self.checkTimeout registry now = (self, false)) := by
  simp only [checkTimeout, Registry.pongTimeout]
  split
  · next hsilent =>
      simp only [Bool.and_eq_true, decide_eq_true_eq] at hsilent
      exact .inl ⟨hsilent.1, Nat.add_lt_of_lt_sub' hsilent.2, rfl⟩
  · next hheard =>
      refine .inr ⟨fun henabled => ?_, rfl⟩
      simp only [henabled, Bool.true_and, decide_eq_true_eq, not_lt] at hheard
      exact Nat.sub_le_iff_le_add'.mp hheard

/-- The interval panics, and the signal is dropped with the task. -/
def panic (self : Reader) : Reader × Bool := ({ self with running := false }, true)

end Reader

/-- A client that was left for its silence. -/
structure ClientTimeout where
  client : Nat
  lastPong : Nat
  instant : Nat

/-- The client was silent for the timeout, and was left in time. -/
structure ClientTimeout.Justified (registry : Registry) (lateness : Nat) (self : ClientTimeout) :
    Prop where
  enabled : registry.pingEnabled = true
  silent : self.lastPong + registry.pongTimeout < self.instant
  inTime : self.instant ≤ self.lastPong + registry.pongTimeout + registry.checkPeriod + lateness

/-- The relay with a clock, the next looks of its readers, the clients that were left for their
silence, and those that ended their connections themselves. -/
structure TimedRelay (capacity : Nat) where
  relay : Relay capacity
  now : Nat
  due : List Nat
  timeouts : List ClientTimeout
  closed : List Nat

inductive TimedRelayEvent where
  /-- What needs no clock. -/
  | relay (event : RelayEvent)
  | subscribe
  | incoming (client : Nat) (incoming : Incoming)
  | tick (client : Nat)
  | pass (duration : Nat)

def RelayEvent.isUntimed : RelayEvent → Bool
  | .subscribe _ => false
  | .incoming .. => false
  | .checkTimeout .. => false
  | _ => true

namespace TimedRelay

variable {capacity : Nat}

def start (capacity : Nat) : TimedRelay capacity where
  relay := .start capacity
  now := 0
  due := []
  timeouts := []
  closed := []

variable (registry : Registry)

/-- The reader of the new client panics before it reads anything if its interval is zero. -/
def subscribed (x : TimedRelay capacity) : Client :=
  let client := Client.subscribe x.relay.channel.tail x.now
  if registry.checkPeriod = 0 then client.readerStep (·.panic) else client

def subscribe (x : TimedRelay capacity) : TimedRelay capacity :=
  { x with
    relay := { x.relay with clients := x.relay.clients ++ [x.subscribed registry] }
    due := x.due ++ [x.now] }

/-- The deadline of a client, and the next look at it. -/
def watch (x : TimedRelay capacity) (i : Nat) : Option Watch :=
  match x.relay.clients[i]?, x.due[i]? with
  | some client, some due => client.reader.watch registry due
  | _, _ => none

/-- No look is later than `lateness`. -/
def OnTime (lateness : Nat) (x : TimedRelay capacity) : TimedRelayEvent → Prop
  | .pass duration => ∀ i < x.relay.clients.length, ∀ watch ∈ x.watch registry i,
      x.now + duration ≤ watch.due + lateness
  | _ => True

instance (lateness : Nat) (x : TimedRelay capacity) (event : TimedRelayEvent) :
    Decidable (x.OnTime registry lateness event) :=
  match event with
  | .pass duration => inferInstanceAs (Decidable (∀ i < x.relay.clients.length,
      ∀ watch ∈ x.watch registry i, x.now + duration ≤ watch.due + lateness))
  | .relay _ => isTrue trivial
  | .subscribe => isTrue trivial
  | .incoming _ _ => isTrue trivial
  | .tick _ => isTrue trivial

section Steps

variable [NeZero capacity]

/-- What a reader that has ended would read stays in the socket. -/
def incoming (x : TimedRelay capacity) (index : Nat) (incoming : Incoming) :
    TimedRelay capacity :=
  { x with
    relay := x.relay.step registry (.incoming index incoming x.now)
    closed :=
      if (x.relay.clients[index]?).any (·.reader.running) && incoming.closes then
        x.closed ++ [index]
      else x.closed }

/-- The reader looks at its clock, if it is time. -/
def tick (x : TimedRelay capacity) (index : Nat) : TimedRelay capacity :=
  match x.relay.clients[index]?, x.due[index]? with
  | some client, some due =>
      if client.reader.running && due ≤ x.now then
        { x with
          relay := x.relay.step registry (.checkTimeout index x.now)
          due := x.due.modify index (· + registry.checkPeriod)
          timeouts :=
            if (client.reader.checkTimeout registry x.now).2 then
              x.timeouts ++
                [{ client := index, lastPong := client.reader.lastPong, instant := x.now }]
            else x.timeouts }
      else x
  | _, _ => x

def step (x : TimedRelay capacity) : TimedRelayEvent → TimedRelay capacity
  | .relay event =>
      if event.isUntimed then { x with relay := x.relay.step registry event } else x
  | .subscribe => x.subscribe registry
  | .incoming client incoming => x.incoming registry client incoming
  | .tick client => x.tick registry client
  | .pass duration => { x with now := x.now + duration }

end Steps

end TimedRelay

/-! ## Watches -/

namespace Client

variable {registry : Registry}

/-- A pong moves the deadline. -/
theorem receive_watch (self : Client) (due : Nat) (incoming : Incoming) (now : Nat) :
    Watch.Step registry.checkPeriod now (self.reader.watch registry due)
      ((self.readerStep (·.receive registry incoming now)).reader.watch registry due) := by
  simp only [readerStep]
  split
  · next hrunning =>
      obtain ⟨-, heq⟩ | ⟨henabled, heq⟩ | heq := self.reader.receive_cases registry incoming now
      · rw [heq]
        exact .ends _
      · simp only [heq, Reader.watch, hrunning, henabled, Bool.and_true, if_true]
        exact .hears (Nat.le_add_right now registry.pongTimeout)
      · rw [heq]
        exact .stays _
  · exact .stays _

theorem checkTimeout_watch (self : Client) {due now : Nat} (hdue : due ≤ now) :
    Watch.Step registry.checkPeriod now (self.reader.watch registry due)
      ((self.readerStep (·.checkTimeout registry now)).reader.watch registry
        (due + registry.checkPeriod)) := by
  simp only [readerStep]
  split
  · next hrunning =>
      obtain ⟨-, -, heq⟩ | ⟨hwaits, heq⟩ := self.reader.checkTimeout_cases registry now
      · rw [heq]
        exact .ends _
      · simp only [heq, Reader.watch, hrunning, Bool.true_and]
        split
        · next henabled => exact .looks hdue (hwaits henabled)
        · exact .stays _
  · next hstopped =>
      simp only [Reader.watch, hstopped, Bool.false_and, Bool.false_eq_true, if_false]
      exact .stays _

end Client

namespace TimedRelay

variable {capacity : Nat} {registry : Registry} {x y : TimedRelay capacity} {lateness : Nat}

/-- One client changes, and its next look may. -/
theorem watch_modify (index : Nat) {f : Client → Client} {g : Nat → Nat}
    (hclients : y.relay.clients = x.relay.clients.modify index f)
    (hdue : y.due = x.due.modify index g)
    (hf : ∀ client due, x.relay.clients[index]? = some client → x.due[index]? = some due →
      Watch.Step registry.checkPeriod x.now (client.reader.watch registry due)
        ((f client).reader.watch registry (g due)))
    (i : Nat) :
    Watch.Step registry.checkPeriod x.now (x.watch registry i) (y.watch registry i) := by
  simp only [TimedRelay.watch, hclients, hdue, getElem?_modify_map]
  cases hclient : x.relay.clients[i]? with
  | none => exact .stays none
  | some client =>
      cases hnext : x.due[i]? with
      | none => exact .stays none
      | some due =>
          by_cases hindex : index = i
          · subst hindex
            simpa using hf client due hclient hnext
          · simpa [hindex] using Watch.Step.stays _

theorem lt_of_watch {i : Nat} {watch : Watch} (h : x.watch registry i = some watch) :
    i < x.relay.clients.length := by
  by_contra hge
  simp [TimedRelay.watch, List.getElem?_eq_none (not_lt.mp hge)] at h

theorem subscribed_watch (x : TimedRelay capacity) :
    Watch.Step registry.checkPeriod x.now none
      ((x.subscribed registry).reader.watch registry x.now) := by
  simp only [subscribed]
  split
  · exact .stays _
  · simp only [Client.subscribe, Reader.watch, Bool.true_and]
    split
    · exact .begins (Nat.le_add_right x.now registry.pongTimeout)
    · exact .stays _

theorem subscribe_watch (hlength : x.due.length = x.relay.clients.length) (i : Nat) :
    Watch.Step registry.checkPeriod x.now (x.watch registry i)
      ((x.subscribe registry).watch registry i) := by
  simp only [TimedRelay.watch, TimedRelay.subscribe]
  obtain hlt | rfl | hgt := Nat.lt_trichotomy i x.relay.clients.length
  · rw [List.getElem?_append_left hlt, List.getElem?_append_left (hlength ▸ hlt)]
    exact .stays _
  · rw [List.getElem?_eq_none (Nat.le_refl _), List.getElem?_concat_length, ← hlength,
      List.getElem?_concat_length]
    exact x.subscribed_watch
  · have hnone : (x.relay.clients ++ [x.subscribed registry])[i]? = none := by
      rw [List.getElem?_eq_none_iff, List.length_append, List.length_singleton]
      omega
    rw [List.getElem?_eq_none (Nat.le_of_lt hgt), hnone]
    exact .stays _

end TimedRelay

/-! ## The loops of the clients -/

/-- What the loop of a client does, and what ends it, without its reader. -/
structure Client.Continues (client next : Client) : Prop where
  disconnect : next.disconnect = client.disconnect
  goesOn : next.phase ≠ .finished → client.phase ≠ .finished ∧ next.reader = client.reader
  reader : next.reader = client.reader ∨ next.reader.running = false

namespace Client

variable {capacity : Nat} [NeZero capacity] {self : Client}

theorem Continues.refl (self : Client) : self.Continues self := ⟨rfl, fun h => ⟨h, rfl⟩, .inl rfl⟩

theorem continues_leave (self : Client) : self.Continues self.leave :=
  ⟨rfl, fun h => absurd rfl h, .inr rfl⟩

theorem continues_recv (channel : Broadcast Message capacity) (self : Client) :
    self.Continues (self.recv channel) := by
  simp only [Client.recv]
  split
  · next hphase =>
      split
      · exact ⟨rfl, fun _ => ⟨by simp [hphase], rfl⟩, .inl rfl⟩
      · exact ⟨rfl, fun h => absurd rfl h, .inr rfl⟩
      · exact ⟨rfl, fun h => absurd rfl h, .inr rfl⟩
      · exact .refl self
  · exact .refl self

theorem continues_sendEnds (self : Client) (delivered : Bool) :
    self.Continues (self.sendEnds delivered) := by
  simp only [Client.sendEnds]
  split
  · next hphase =>
      split
      · exact ⟨rfl, fun _ => ⟨by simp [hphase], rfl⟩, .inl rfl⟩
      · exact self.continues_leave
  · exact .refl self

theorem continues_observeDisconnect (self : Client) : self.Continues self.observeDisconnect := by
  simp only [Client.observeDisconnect]
  split
  · split
    · exact self.continues_leave
    · exact .refl self
  · exact .refl self

end Client

theorem Relay.step_untimed {capacity : Nat} [NeZero capacity] (registry : Registry)
    (x : Relay capacity) {event : RelayEvent} (h : event.isUntimed = true) :
    ∃ index f, (x.step registry event).clients = x.clients.modify index f ∧
      ∀ client : Client, client.Continues (f client) := by
  cases event with
  | broadcast message => exact ⟨0, id, by simp [Relay.step], Client.Continues.refl⟩
  | closeChannel => exact ⟨0, id, by simp [Relay.step], Client.Continues.refl⟩
  | recv index => exact ⟨index, _, rfl, Client.continues_recv x.channel⟩
  | sendEnds index delivered =>
      exact ⟨index, _, rfl, fun client => client.continues_sendEnds delivered⟩
  | observeDisconnect index => exact ⟨index, _, rfl, Client.continues_observeDisconnect⟩
  | cancel index => exact ⟨index, _, rfl, Client.continues_leave⟩
  | subscribe now => exact absurd h Bool.false_ne_true
  | incoming index incoming now => exact absurd h Bool.false_ne_true
  | checkTimeout index now => exact absurd h Bool.false_ne_true

/-! ## The invariant -/

namespace TimedRelay

variable {capacity : Nat} {registry : Registry} {x : TimedRelay capacity} {lateness : Nat}

/-- Why the reader of a client has ended. -/
structure Explains (registry : Registry) (x : TimedRelay capacity) (i : Nat) (client : Client) :
    Prop where
  signalled : client.phase ≠ .finished → client.reader.running = true ∨ client.disconnect = true
  caused : client.disconnect = true → registry.checkPeriod = 0 ∨ i ∈ x.closed ∨
    ∃ timeout ∈ x.timeouts, timeout.client = i

structure Inv (registry : Registry) (lateness : Nat) (x : TimedRelay capacity) : Prop where
  length : x.due.length = x.relay.clients.length
  timely : ∀ i, ∀ watch ∈ x.watch registry i,
    watch.Timely registry.checkPeriod lateness x.now
  explains : ∀ (i : Nat) client, x.relay.clients[i]? = some client → x.Explains registry i client
  timeouts : ∀ timeout ∈ x.timeouts, timeout.Justified registry lateness

theorem inv_start : (start capacity).Inv registry lateness where
  length := rfl
  timely := by simp [start, watch, Relay.start]
  explains := by simp [start, Relay.start]
  timeouts := by simp [start]

theorem Explains.mono {y : TimedRelay capacity} {i : Nat} {client : Client}
    (h : x.Explains registry i client) (hclosed : x.closed ⊆ y.closed)
    (htimeouts : x.timeouts ⊆ y.timeouts) : y.Explains registry i client where
  signalled := h.signalled
  caused hdisconnect := by
    obtain hzero | hmem | ⟨timeout, hmem, heq⟩ := h.caused hdisconnect
    · exact .inl hzero
    · exact .inr (.inl (hclosed hmem))
    · exact .inr (.inr ⟨timeout, htimeouts hmem, heq⟩)

theorem Explains.continues {i : Nat} {client next : Client} (h : x.Explains registry i client)
    (hnext : client.Continues next) : x.Explains registry i next where
  signalled hphase := by
    obtain ⟨hbefore, hreader⟩ := hnext.goesOn hphase
    rw [hreader, hnext.disconnect]
    exact h.signalled hbefore
  caused hdisconnect := h.caused (hnext.disconnect ▸ hdisconnect)

/-- The reader does not end without a signal. -/
theorem Explains.readerStep {i : Nat} {client : Client} {step : Reader → Reader × Bool}
    (h : x.Explains registry i client)
    (hsignals : client.reader.running = true →
      (step client.reader).1.running = true ∨ (step client.reader).2 = true)
    (hcauses : client.reader.running = true → (step client.reader).2 = true →
      i ∈ x.closed ∨ ∃ timeout ∈ x.timeouts, timeout.client = i) :
    x.Explains registry i (client.readerStep step) := by
  simp only [Client.readerStep]
  split
  · next hrunning =>
      refine ⟨fun _ => ?_, fun hdisconnect => ?_⟩
      · obtain hgoesOn | hsignal := hsignals hrunning
        · exact .inl hgoesOn
        · exact .inr (by simp [hsignal])
      · obtain hbefore | hsignal := Bool.or_eq_true_iff.mp hdisconnect
        · exact h.caused hbefore
        · exact .inr (hcauses hrunning hsignal)
  · exact h

theorem Explains.goesOn {i : Nat} {client : Client} {step : Reader → Reader × Bool}
    (h : x.Explains registry i client)
    (hrunning : (step client.reader).1.running = client.reader.running)
    (hsignal : (step client.reader).2 = false) :
    x.Explains registry i (client.readerStep step) :=
  h.readerStep (fun hreads => .inl (hrunning.trans hreads))
    (fun _ hsignals => absurd (hsignal.symm.trans hsignals) Bool.false_ne_true)

/-- One client takes a step, and its next look may change. -/
theorem Inv.modify {y : TimedRelay capacity} (h : x.Inv registry lateness) (index : Nat)
    {f : Client → Client} {g : Nat → Nat}
    (hclients : y.relay.clients = x.relay.clients.modify index f)
    (hdue : y.due = x.due.modify index g) (hnow : y.now = x.now)
    (hclosed : x.closed ⊆ y.closed) (hmore : x.timeouts ⊆ y.timeouts)
    (hwatch : ∀ client due, x.relay.clients[index]? = some client → x.due[index]? = some due →
      Watch.Step registry.checkPeriod x.now (client.reader.watch registry due)
        ((f client).reader.watch registry (g due)))
    (hexplains : ∀ client, x.relay.clients[index]? = some client →
      y.Explains registry index client → y.Explains registry index (f client))
    (htimeouts : ∀ timeout ∈ y.timeouts, timeout.Justified registry lateness) :
    y.Inv registry lateness where
  length := by rw [hclients, hdue, List.length_modify, List.length_modify, h.length]
  timely i := by
    rw [hnow]
    exact Watch.Timely.step (h.timely i) (watch_modify index hclients hdue hwatch i)
  explains := by
    rw [hclients]
    apply forall_modify (P := fun i (client : Client) => y.Explains registry i client)
    · intro client hclient
      exact hexplains client hclient ((h.explains index client hclient).mono hclosed hmore)
    · exact fun i client _ hclient => (h.explains i client hclient).mono hclosed hmore
  timeouts := htimeouts

theorem Inv.subscribe (h : x.Inv registry lateness) :
    (x.subscribe registry).Inv registry lateness where
  length := by simp [TimedRelay.subscribe, h.length]
  timely i := Watch.Timely.step (h.timely i) (x.subscribe_watch h.length i)
  explains := by
    apply forall_concat (P := fun i (client : Client) =>
      (x.subscribe registry).Explains registry i client)
    · exact fun i client hclient => (h.explains i client hclient).mono (List.Subset.refl _)
        (List.Subset.refl _)
    · simp only [subscribed]
      split
      · next hzero => exact ⟨fun _ => .inr rfl, fun _ => .inl hzero⟩
      · exact ⟨fun _ => .inl rfl, fun hdisconnect => absurd hdisconnect Bool.false_ne_true⟩
  timeouts := h.timeouts

/-- No reader waits longer than for the timeout, until its next look. -/
theorem Inv.le (h : x.Inv registry lateness) {i : Nat} {client : Client}
    (hclient : x.relay.clients[i]? = some client) (hrunning : client.reader.running = true)
    (henabled : registry.pingEnabled = true) :
    x.now ≤ client.reader.lastPong + registry.pongTimeout + registry.checkPeriod + lateness := by
  have hlt : i < x.due.length := by
    rw [h.length]
    exact (List.getElem?_eq_some_iff.mp hclient).1
  have hwatch : x.watch registry i =
      some { deadline := client.reader.lastPong + registry.pongTimeout, due := x.due[i] } := by
    simp [watch, hclient, List.getElem?_eq_getElem hlt, Reader.watch, hrunning, henabled]
  exact (h.timely i _ hwatch).le

theorem Inv.pass (h : x.Inv registry lateness) {duration : Nat}
    (honTime : x.OnTime registry lateness (.pass duration)) :
    ({ x with now := x.now + duration } : TimedRelay capacity).Inv registry lateness where
  length := h.length
  timely i watch hwatch :=
    (h.timely i watch hwatch).pass (Nat.le_add_right _ _)
      (honTime i (lt_of_watch hwatch) watch hwatch)
  explains := fun i client hclient => (h.explains i client hclient).mono (List.Subset.refl _)
    (List.Subset.refl _)
  timeouts := h.timeouts

variable [NeZero capacity]

theorem Inv.relay (h : x.Inv registry lateness) {event : RelayEvent}
    (huntimed : event.isUntimed = true) :
    ({ x with relay := x.relay.step registry event } : TimedRelay capacity).Inv registry
      lateness := by
  obtain ⟨index, f, hclients, hf⟩ := x.relay.step_untimed registry huntimed
  refine h.modify index hclients (List.modify_id index _).symm rfl (List.Subset.refl _)
    (List.Subset.refl _) (fun client due _ _ => ?_) (fun client _ hclient => ?_) h.timeouts
  · obtain hsame | hstopped := (hf client).reader
    · rw [hsame]
      exact .stays _
    · simp only [Reader.watch, hstopped]
      exact .ends _
  · exact hclient.continues (hf client)

theorem Inv.incoming (h : x.Inv registry lateness) (index : Nat) (incoming : Incoming) :
    (x.incoming registry index incoming).Inv registry lateness := by
  have hmore : x.closed ⊆ (x.incoming registry index incoming).closed := by
    simp only [TimedRelay.incoming]
    split
    · exact List.subset_append_left _ _
    · exact List.Subset.refl _
  refine h.modify index rfl (List.modify_id index _).symm rfl hmore (List.Subset.refl _)
    (fun client due _ _ => client.receive_watch due incoming x.now)
    (fun client hclient hexplains => ?_) h.timeouts
  obtain ⟨hcloses, heq⟩ | ⟨-, heq⟩ | heq :=
    client.reader.receive_cases registry incoming x.now
  · refine hexplains.readerStep (fun _ => .inr (by rw [heq])) (fun hrunning _ => .inl ?_)
    simp [TimedRelay.incoming, hclient, hrunning, hcloses]
  · exact hexplains.goesOn (by rw [heq]) (by rw [heq])
  · exact hexplains.goesOn (by rw [heq]) (by rw [heq])

theorem Inv.tick (h : x.Inv registry lateness) (index : Nat) :
    (x.tick registry index).Inv registry lateness := by
  simp only [TimedRelay.tick]
  split
  · next client due hclient hdue =>
      split
      · next hlooks =>
          obtain ⟨hrunning, hle⟩ : client.reader.running = true ∧ due ≤ x.now := by
            simpa using hlooks
          have hwatch : ∀ (other : Client) next, x.relay.clients[index]? = some other →
              x.due[index]? = some next →
              Watch.Step registry.checkPeriod x.now (other.reader.watch registry next)
                ((other.readerStep (·.checkTimeout registry x.now)).reader.watch registry
                  (next + registry.checkPeriod)) := by
            intro other next _ hnext
            obtain rfl := Option.some.inj (hdue.symm.trans hnext)
            exact other.checkTimeout_watch hle
          obtain ⟨henabled, hsilent, heq⟩ | ⟨-, heq⟩ :=
            client.reader.checkTimeout_cases registry x.now
          · simp only [heq, if_true]
            refine h.modify index rfl rfl rfl (List.Subset.refl _) (List.subset_append_left _ _)
              hwatch (fun other hother hexplains => ?_) (fun timeout htimeout => ?_)
            · obtain rfl := Option.some.inj (hclient.symm.trans hother)
              exact hexplains.readerStep (fun _ => .inr (by rw [heq])) fun _ _ =>
                .inr ⟨_, List.mem_append_right _ (List.mem_singleton_self _), rfl⟩
            · obtain hold | hnew := List.mem_append.mp htimeout
              · exact h.timeouts timeout hold
              · rw [List.mem_singleton.mp hnew]
                exact ⟨henabled, hsilent, h.le hclient hrunning henabled⟩
          · simp only [heq, Bool.false_eq_true, if_false]
            refine h.modify index rfl rfl rfl (List.Subset.refl _) (List.Subset.refl _) hwatch
              (fun other hother hexplains => ?_) h.timeouts
            obtain rfl := Option.some.inj (hclient.symm.trans hother)
            exact hexplains.goesOn (by rw [heq]) (by rw [heq])
      · exact h
  · exact h

theorem Inv.step (h : x.Inv registry lateness) (event : TimedRelayEvent)
    (honTime : x.OnTime registry lateness event) :
    (x.step registry event).Inv registry lateness := by
  cases event with
  | relay event =>
      simp only [TimedRelay.step]
      split
      · next huntimed => exact h.relay huntimed
      · exact h
  | subscribe => exact h.subscribe
  | incoming client incoming => exact h.incoming client incoming
  | tick client => exact h.tick client
  | pass duration => exact h.pass honTime

-- without pings the timeout plays no part, but a short one makes the reader panic
example : ((run (step ⟨false, 3⟩) (start 16) [.subscribe]).relay.clients.map (·.disconnect)) =
    [true] := by
  decide

end TimedRelay

end RollupBoost
