import RollupBoost.Flashblocks.Receiver

/-!
# What the receiver delivers

In every schedule of `run` and of the tasks of all its connections, the channel carries what was
decoded from the builder: of each connection in the order in which it was read, and of an earlier
connection before a later one, unless the earlier one was left because a ping failed. Then its
message task goes on, and what it has read may be overtaken.

`connect_and_handle` never returns a value, as a comment in `run` says. With a pong timeout of
zero every message task panics, and since the panic returns before the cancellation, the ping
tasks of all connections go on until a ping fails.
-/

namespace RollupBoost

open Machine

namespace FlashblocksReceiver

variable {config : FlashblocksWebsocketConfig} {lib : WireLibrary}
variable {capacity index : Nat} {x : FlashblocksReceiver capacity}

/-- What a connection has put into the channel. -/
def deliveredBy (x : FlashblocksReceiver capacity) (index : Nat) : List FlashblocksPayloadV1 :=
  (x.delivered.filter (·.1 = index)).map (·.2)

/-- The task whose end has ended a connection. -/
def leftBy (x : FlashblocksReceiver capacity) (index : Nat) : Option EndedBy :=
  x.connections[index]?.bind (·.left)

structure Inv (lib : WireLibrary) (x : FlashblocksReceiver capacity) : Prop where
  carries : x.sender.Carries (x.delivered.map (·.2)) x.taken
  connection : ∀ (i : Nat) c, x.connections[i]? = some c → c.Inv lib (x.deliveredBy i)
  known : ∀ entry ∈ x.delivered, entry.1 < x.connections.length
  /-- Only the last connection is waited for. -/
  waited : ∀ (i : Nat) c, x.connections[i]? = some c → c.left = none →
    x.phase = .connected ∧ i = x.current
  waits : x.phase = .connected → ∃ c, x.connections[x.current]? = some c ∧ c.left = none
  order : x.delivered.Pairwise fun first second =>
    first.1 ≤ second.1 ∨ x.leftBy second.1 = some .ping
  gauge : x.connectionStatus = if x.phase = .connected ∨ x.phase = .panicked then 1 else 0
  intact : x.brokenInvariants = 0

/-- Each connection delivers in the order in which it was read. An earlier connection delivers
after a later one only if it was left because of its ping task. -/
structure InOrder (lib : WireLibrary) (x : FlashblocksReceiver capacity) : Prop where
  connection : ∀ (i : Nat) c, x.connections[i]? = some c →
    (x.deliveredBy i).Sublist (c.read.filterMap lib.receives)
  order : x.delivered.Pairwise fun first second =>
    first.1 ≤ second.1 ∨ x.leftBy second.1 = some .ping

theorem Inv.inOrder (h : x.Inv lib) : x.InOrder lib where
  connection i c hc := by
    rw [← (h.connection i c hc).delivers]
    exact List.sublist_append_left _ _
  order := h.order

theorem inv_new : (new capacity).Inv lib where
  carries := Mpsc.carries_new
  connection := by simp [new]
  known := by simp [new]
  waited := by simp [new]
  waits := by simp [new]
  order := .nil
  gauge := by simp [new]
  intact := rfl

@[simp] theorem current_updateConnection (f : Connection → Connection) :
    (x.updateConnection index f).current = x.current := by
  simp [updateConnection, current]

theorem length_updateConnection (f : Connection → Connection) :
    (x.updateConnection index f).connections.length = x.connections.length :=
  List.length_modify ..

theorem leftBy_updateConnection {f : Connection → Connection} (other : Nat)
    (hf : index = other → ∀ c, (f c).left = c.left) :
    (x.updateConnection index f).leftBy other = x.leftBy other := by
  simp only [leftBy, updateConnection, getElem?_modify_map]
  cases x.connections[other]? with
  | none => rfl
  | some c =>
      simp only [Option.map_some, Option.bind_some]
      split
      · next hsame => exact hf hsame c
      · rfl

/-- A step of the tasks of one connection. -/
theorem Inv.updateConnection (h : x.Inv lib) {f : Connection → Connection}
    (hinv : ∀ c, x.connections[index]? = some c → c.Inv lib (x.deliveredBy index) →
      (f c).Inv lib (x.deliveredBy index))
    (hleft : ∀ c, (f c).left = c.left) : (x.updateConnection index f).Inv lib where
  carries := h.carries
  connection := by
    apply forall_modify (P := fun i (c : Connection) => c.Inv lib (x.deliveredBy i))
    · exact fun c hc => hinv c hc (h.connection index c hc)
    · exact fun i c _ hc => h.connection i c hc
  known := by
    intro entry hentry
    exact (length_updateConnection _).symm ▸ h.known entry hentry
  waited := by
    rw [current_updateConnection]
    apply forall_modify
      (P := fun i (c : Connection) => c.left = none → x.phase = .connected ∧ i = x.current)
    · exact fun c hc hnone => h.waited index c hc (hleft c ▸ hnone)
    · exact fun i c _ hc => h.waited i c hc
  waits := by
    intro hconnected
    obtain ⟨c, hc, hnone⟩ := h.waits hconnected
    rw [current_updateConnection, FlashblocksReceiver.updateConnection, getElem?_modify_map, hc]
    refine ⟨_, rfl, ?_⟩
    split
    · rw [hleft, hnone]
    · exact hnone
  order := by
    refine h.order.imp ?_
    intro first second hor
    rwa [leftBy_updateConnection _ fun _ => hleft]
  gauge := h.gauge
  intact := h.intact

/-- Once no connection is waited for, `run` backs off. -/
theorem Inv.retry (h : x.Inv lib) (hphase : x.phase ≠ .connected) : x.retry.Inv lib where
  carries := h.carries
  connection := h.connection
  known := h.known
  waited := fun i c hc hnone => absurd (h.waited i c hc hnone).1 hphase
  waits := by simp [FlashblocksReceiver.retry]
  order := h.order
  gauge := by simp [FlashblocksReceiver.retry]
  intact := h.intact

/-- A connection is left, and `run` backs off. -/
theorem Inv.leave (h : x.Inv lib) {endedBy : EndedBy} (cancels : Bool)
    (hended : ∀ c, x.connections[x.current]? = some c → endedBy = .message →
      ∃ error, c.messageTask = .ended error) :
    (x.updateConnection x.current (·.leave endedBy cancels)).retry.Inv lib where
  carries := h.carries
  connection := by
    apply forall_modify (P := fun i (c : Connection) => c.Inv lib (x.deliveredBy i))
    · exact fun c hc => (h.connection _ c hc).leave cancels (hended c hc)
    · exact fun i c _ hc => h.connection i c hc
  known := by
    intro entry hentry
    exact (length_updateConnection _).symm ▸ h.known entry hentry
  waited := by
    intro i c hc hnone
    refine absurd hnone (forall_modify (P := fun _ (c : Connection) => c.left ≠ none) ?_ ?_ i c hc)
    · exact fun c _ => by simp [Connection.leave]
    · exact fun i c hother hc hnone => hother (h.waited i c hc hnone).2
  waits := by simp [FlashblocksReceiver.retry]
  order := by
    refine h.order.imp_of_mem ?_
    intro first second hfirst _ hor
    by_cases hcurrent : second.1 = x.current
    · -- no connection is later than the one that was waited for
      have hlt := h.known first hfirst
      exact .inl (by rw [hcurrent, current]; omega)
    · refine hor.imp_right fun hping => ?_
      show (x.updateConnection x.current (·.leave endedBy cancels)).leftBy second.1 = _
      rw [leftBy_updateConnection _ fun hsame => absurd hsame.symm hcurrent, hping]
  gauge := by simp [FlashblocksReceiver.retry]
  intact := h.intact

/-- The next connection has delivered nothing. -/
theorem Inv.deliveredBy_length (h : x.Inv lib) : x.deliveredBy x.connections.length = [] := by
  rw [deliveredBy, List.map_eq_nil_iff, List.filter_eq_nil_iff]
  intro entry hentry
  have hlt := h.known entry hentry
  simp only [decide_eq_true_eq]
  omega

/-- A connection is established while none is waited for. -/
theorem Inv.establish (h : x.Inv lib) (hphase : x.phase ≠ .connected) (now : Nat) :
    ({ x with
        phase := .connected
        connections := x.connections ++ [Connection.establish config now]
        connectionStatus := 1 } : FlashblocksReceiver capacity).Inv lib where
  carries := h.carries
  connection := by
    apply forall_concat (P := fun i (c : Connection) => c.Inv lib (x.deliveredBy i))
    · exact h.connection
    · rw [h.deliveredBy_length]
      exact Connection.inv_establish config now
  known := by
    intro entry hentry
    have hlt := h.known entry hentry
    rw [List.length_append]
    omega
  waited := by
    apply forall_concat (P := fun i (c : Connection) => c.left = none → _ ∧ i = _)
    · exact fun i c hc hnone => absurd (h.waited i c hc hnone).1 hphase
    · exact fun _ => ⟨rfl, by simp [current]⟩
  waits := by
    intro _
    exact ⟨Connection.establish config now, by simp [current], rfl⟩
  order := by
    refine h.order.imp_of_mem ?_
    intro first second _ hsecond hor
    refine hor.imp_right fun hping => ?_
    rw [← hping, leftBy, leftBy, List.getElem?_append_left (h.known second hsecond)]
  gauge := by simp
  intact := h.intact

theorem Inv.connect (h : x.Inv lib) (established : Bool) (now : Nat) :
    (x.connect config established now).Inv lib := by
  simp only [FlashblocksReceiver.connect]
  split
  · next hphase =>
      have hidle : x.phase ≠ .connected := by simp [hphase]
      split
      · split
        · refine ⟨h.carries, h.connection, h.known, ?_, by simp, h.order, by simp, h.intact⟩
          exact fun i c hc hnone => absurd (h.waited i c hc hnone).1 hidle
        · exact h.establish hidle now
      · exact h.retry hidle
  · exact h

theorem Inv.read (h : x.Inv lib) (index : Nat) (item : Incoming) (now : Nat) :
    (x.read config lib index item now).Inv lib := by
  simp only [FlashblocksReceiver.read]
  split
  · have hnext : (x.updateConnection index (·.readNext config lib item now)).Inv lib :=
      h.updateConnection (fun c _ hc => hc.readNext item now) fun c => by simp
    exact ⟨hnext.carries, hnext.connection, hnext.known, hnext.waited, hnext.waits, hnext.order,
      hnext.gauge, hnext.intact⟩
  · exact h

/-- A message task that has not ended belongs to the connection that is waited for, or to one
that was left because of its ping task. -/
theorem Inv.le_or_leftBy (h : x.Inv lib) {c : Connection} (hc : x.connections[index]? = some c)
    (hrunning : ∀ error, c.messageTask ≠ .ended error) {entry : Nat × FlashblocksPayloadV1}
    (hentry : entry ∈ x.delivered) : entry.1 ≤ index ∨ x.leftBy index = some .ping := by
  cases hleft : c.left with
  | none =>
      have hcurrent := (h.waited index c hc hleft).2
      have hlt := h.known entry hentry
      rw [current] at hcurrent
      exact .inl (by omega)
  | some endedBy =>
      cases endedBy with
      | message =>
          obtain ⟨error, herror⟩ := (h.connection index c hc).ended hleft
          exact absurd herror (hrunning error)
      | ping => exact .inr (by rw [leftBy, hc, Option.bind_some, hleft])

theorem Inv.sendOk (h : x.Inv lib) {c : Connection} (hc : x.connections[index]? = some c)
    {payload : FlashblocksPayloadV1} (hsending : c.messageTask = .sending payload)
    {sender : Mpsc FlashblocksPayloadV1 capacity} (hsend : x.sender.send payload = .ok sender) :
    ({ x.updateConnection index ({ · with messageTask := .reading }) with
        sender := sender
        delivered := x.delivered ++ [(index, payload)] } : FlashblocksReceiver capacity).Inv
      lib where
  carries := by
    rw [List.map_append]
    exact h.carries.send hsend
  connection := by
    have hdelivered : ∀ i, ((x.delivered ++ [(index, payload)]).filter (·.1 = i)).map (·.2) =
        x.deliveredBy i ++ if index = i then [payload] else [] := by
      intro i
      rw [List.filter_append, List.map_append, deliveredBy]
      by_cases hsame : index = i
      · simp [hsame]
      · simp [hsame]
    apply forall_modify (P := fun i (c : Connection) => c.Inv lib
      (((x.delivered ++ [(index, payload)]).filter (·.1 = i)).map (·.2)))
    · intro other hother
      obtain rfl := Option.some.inj (hc.symm.trans hother)
      rw [hdelivered, if_pos rfl]
      exact (h.connection index c hc).sent hsending
    · intro i other hne hother
      rw [hdelivered, if_neg (Ne.symm hne), List.append_nil]
      exact h.connection i other hother
  known := by
    intro entry hentry
    show entry.1 < (x.updateConnection index _).connections.length
    rw [length_updateConnection]
    obtain hentry | hentry := List.mem_append.mp hentry
    · exact h.known entry hentry
    · rw [List.mem_singleton.mp hentry]
      exact (List.getElem?_eq_some_iff.mp hc).1
  waited := by
    show ∀ i c, (x.updateConnection index _).connections[i]? = some c → c.left = none →
      x.phase = .connected ∧ i = (x.updateConnection index _).current
    rw [current_updateConnection]
    apply forall_modify
      (P := fun i (c : Connection) => c.left = none → x.phase = .connected ∧ i = x.current)
    · exact fun c hc hnone => h.waited index c hc hnone
    · exact fun i c _ hc => h.waited i c hc
  waits := by
    intro hconnected
    obtain ⟨waiting, hwaiting, hnone⟩ := h.waits hconnected
    show ∃ c, (x.updateConnection index _).connections[(x.updateConnection index _).current]? =
      some c ∧ c.left = none
    rw [current_updateConnection, FlashblocksReceiver.updateConnection, getElem?_modify_map,
      hwaiting]
    refine ⟨_, rfl, ?_⟩
    split
    · exact hnone
    · exact hnone
  order := by
    have hkept : ∀ other,
        (x.updateConnection index ({ · with messageTask := .reading })).leftBy other =
          x.leftBy other :=
      fun other => leftBy_updateConnection other fun _ _ => rfl
    rw [List.pairwise_append]
    refine ⟨?_, List.pairwise_singleton _ _, ?_⟩
    · refine h.order.imp ?_
      intro first second hor
      exact hor.imp_right (hkept second.1).trans
    · intro first hfirst second hsecond
      rw [List.mem_singleton.mp hsecond]
      refine (h.le_or_leftBy hc ?_ hfirst).imp_right (hkept index).trans
      exact fun error herror => absurd (hsending.symm.trans herror) (by simp)
  gauge := h.gauge
  intact := h.intact

theorem Inv.sendEnds (h : x.Inv lib) (index : Nat) : (x.sendEnds index).Inv lib := by
  simp only [FlashblocksReceiver.sendEnds]
  split
  · next read payload pingTask pings cancelled left hc =>
      split
      · next sender hsend => exact h.sendOk hc rfl hsend
      · exact h
      · refine h.updateConnection ?_ fun _ => rfl
        intro c hsame hinv
        obtain rfl := Option.some.inj (hc.symm.trans hsame)
        exact hinv.lost rfl
  · exact h

theorem Inv.joinMessageTask (h : x.Inv lib) : x.joinMessageTask.Inv lib := by
  simp only [FlashblocksReceiver.joinMessageTask]
  split
  · next read error pingTask pings cancelled left hphase hc =>
      refine h.leave error.cancels ?_
      intro c hsame _
      obtain rfl := Option.some.inj (hc.symm.trans hsame)
      exact ⟨error, rfl⟩
  · exact h

/-- The ping task returns a value only when it is cancelled, and it is cancelled only when it is
not waited for any more. -/
theorem Inv.ping_not_ok (h : x.Inv lib) (hphase : x.phase = .connected) {c : Connection}
    (hc : x.connections[x.current]? = some c) : c.pingTask ≠ .ended (.ok ()) := by
  intro hok
  obtain ⟨waiting, hwaiting, hnone⟩ := h.waits hphase
  obtain rfl := Option.some.inj (hc.symm.trans hwaiting)
  have hinv := h.connection _ c hc
  exact hinv.cancelled (hinv.pingEnded hok) hnone

theorem Inv.joinPingTask (h : x.Inv lib) : x.joinPingTask.Inv lib := by
  simp only [FlashblocksReceiver.joinPingTask]
  split
  · next read messageTask result pings cancelled left hphase hc =>
      cases result with
      | error error => exact h.leave true fun _ _ hmessage => absurd hmessage (by decide)
      | ok value => exact absurd rfl (h.ping_not_ok hphase hc)
  · exact h

theorem Inv.recv (h : x.Inv lib) : x.recv.Inv lib := by
  simp only [FlashblocksReceiver.recv]
  split
  · next payload sender hrecv =>
      exact ⟨h.carries.recv hrecv, h.connection, h.known, h.waited, h.waits, h.order, h.gauge,
        h.intact⟩
  · exact h

theorem Inv.wake (h : x.Inv lib) (hphase : x.phase = .sleeping) :
    ({ x with phase := .connecting } : FlashblocksReceiver capacity).Inv lib where
  carries := h.carries
  connection := h.connection
  known := h.known
  waited := fun i c hc hnone => absurd (h.waited i c hc hnone).1 (by simp [hphase])
  waits := by simp
  order := h.order
  gauge := by simpa [hphase] using h.gauge
  intact := h.intact

theorem Inv.step (h : x.Inv lib) (event : ReceiverEvent) : (x.step config lib event).Inv lib := by
  cases event with
  | connect established now => exact h.connect established now
  | read index item now => exact h.read index item now
  | sendEnds index => exact h.sendEnds index
  | pongTick index now => exact h.updateConnection (fun _ _ hc => hc.pongTick now) fun _ => by simp
  | sendPing index uuid sent =>
      exact h.updateConnection (fun _ _ hc => hc.sendPing uuid sent) fun _ => by simp
  | putPing index => exact h.updateConnection (fun _ _ hc => hc.putPing) fun _ => by simp
  | observeCancel index =>
      exact h.updateConnection (fun _ _ hc => hc.observeCancel) fun _ => by simp
  | joinMessageTask => exact h.joinMessageTask
  | joinPingTask => exact h.joinPingTask
  | wake =>
      simp only [FlashblocksReceiver.step]
      split
      · next hphase => exact h.wake hphase
      · exact h
  | recv => exact h.recv
  | dropReceiver =>
      exact ⟨⟨h.carries.fifo, h.carries.bounded⟩, h.connection, h.known, h.waited, h.waits, h.order,
        h.gauge, h.intact⟩

/-- The state after a schedule of the loop and the tasks. -/
def run (config : FlashblocksWebsocketConfig) (lib : WireLibrary) (capacity : Nat)
    (events : List ReceiverEvent) : FlashblocksReceiver capacity :=
  Machine.run (step config lib) (new capacity) events

theorem inv_run (config : FlashblocksWebsocketConfig) (lib : WireLibrary) (capacity : Nat)
    (events : List ReceiverEvent) : (run config lib capacity events).Inv lib :=
  run_invariant (fun _ event h => h.step event) inv_new events

/-- `connect_and_handle` never returns a value, so the branch of `run` for a broken invariant is
dead. The gauge shows whether a connection is handled, but it stays up after a panic of `run`. -/
theorem run_invariant_never_broken (config : FlashblocksWebsocketConfig) (lib : WireLibrary)
    (capacity : Nat) (events : List ReceiverEvent) :
    (run config lib capacity events).brokenInvariants = 0 ∧
      ((run config lib capacity events).connectionStatus = 1 ↔
        (run config lib capacity events).phase = .connected ∨
          (run config lib capacity events).phase = .panicked) := by
  have h := inv_run config lib capacity events
  refine ⟨h.intact, ?_⟩
  rw [h.gauge]
  split
  · next hup => simp [hup]
  · next hdown => simp [hdown]

/-- Each connection delivers what was decoded from it, in order, up to the one flashblock on its
way. What is taken from the channel is what was delivered. A flashblock is taken after one of a
later connection only if its own connection was left because of its ping task. -/
theorem run_delivers (config : FlashblocksWebsocketConfig) (lib : WireLibrary) (capacity : Nat)
    (events : List ReceiverEvent) :
    (∀ (i : Nat) c, (run config lib capacity events).connections[i]? = some c →
      (run config lib capacity events).deliveredBy i ++ c.undelivered =
        c.read.filterMap lib.receives) ∧
    (run config lib capacity events).delivered.map (·.2) =
      (run config lib capacity events).taken ++ (run config lib capacity events).sender.queue ∧
    (run config lib capacity events).delivered.Pairwise fun first second =>
      first.1 ≤ second.1 ∨ (run config lib capacity events).leftBy second.1 = some .ping := by
  have h := inv_run config lib capacity events
  exact ⟨fun i c hc => (h.connection i c hc).delivers, h.carries.fifo, h.order⟩

/-- The schedule in which a flashblock is overtaken. Its connection is left after a ping failed,
while it waits for the channel. -/
def overtaking (older newer : Bytes) (uuid : PingUuid) : List ReceiverEvent :=
  [.connect true 0, .read 0 (.message (.text older)) 0, .sendPing 0 uuid false, .joinPingTask,
    .wake, .connect true 0, .read 1 (.message (.text newer)) 0, .sendEnds 1, .sendEnds 0, .recv,
    .recv]

/-- The exception of the order is real: what was read first is taken last. -/
theorem run_overtaking (hping : config.flashblockBuilderWsPingIntervalMs ≠ 0)
    (hpong : config.flashblockBuilderWsPongTimeoutMs ≠ 0)
    (hcapacity : 2 ≤ capacity) {older newer : Bytes} {first second : FlashblocksPayloadV1}
    (hfirst : lib.receives (.message (.text older)) = some first)
    (hsecond : lib.receives (.message (.text newer)) = some second) (uuid : PingUuid) :
    (run config lib capacity (overtaking older newer uuid)).taken = [second, first] := by
  have hroom : 0 < capacity := by omega
  have hroom' : 1 < capacity := by omega
  simp [overtaking, run, Machine.run, step, connect, read, sendEnds, joinPingTask, recv, retry,
    updateConnection, current, new, Connection.establish, Connection.readNext, Connection.handle,
    Connection.sendPing, Connection.pingTaskWaits, Connection.leave, PingPong.new, Mpsc.new,
    Mpsc.send, Mpsc.recv, hping, hpong, hfirst, hsecond, hroom, hroom']

/-! ## A pong timeout of zero -/

/-- The message task has panicked, and nothing stops the ping task but a ping that fails. -/
structure Panicked (x : FlashblocksReceiver capacity) : Prop where
  nothing : x.delivered = []
  connection : ∀ (i : Nat) c, x.connections[i]? = some c →
    c.read = [] ∧ c.messageTask = .ended .taskPanic ∧
      (c.pingTask = .running ∧ c.cancelled = false ∨ c.pingTask = .ended (.error .pingFailed))

theorem Panicked.updateConnection (h : x.Panicked) {f : Connection → Connection}
    (hf : ∀ c, x.connections[index]? = some c → c.messageTask = .ended .taskPanic →
      (c.pingTask = .running ∧ c.cancelled = false ∨ c.pingTask = .ended (.error .pingFailed)) →
      (f c).read = c.read ∧ (f c).messageTask = c.messageTask ∧
      ((f c).pingTask = .running ∧ (f c).cancelled = false ∨
        (f c).pingTask = .ended (.error .pingFailed))) :
    (x.updateConnection index f).Panicked where
  nothing := h.nothing
  connection := by
    apply forall_modify (P := fun _ (c : Connection) => c.read = [] ∧
      c.messageTask = .ended .taskPanic ∧
      (c.pingTask = .running ∧ c.cancelled = false ∨ c.pingTask = .ended (.error .pingFailed)))
    · intro c hc
      obtain ⟨hread, htask, hping⟩ := h.connection index c hc
      obtain ⟨hread', htask', hping'⟩ := hf c hc htask hping
      exact ⟨hread'.trans hread, htask'.trans htask, hping'⟩
    · exact fun i c _ hc => h.connection i c hc

theorem Panicked.step (hzero : config.flashblockBuilderWsPongTimeoutMs = 0) (h : x.Panicked)
    (event : ReceiverEvent) : (x.step config lib event).Panicked := by
  cases event with
  | connect established now =>
      simp only [FlashblocksReceiver.step, connect]
      split
      · split
        · split
          · exact ⟨h.nothing, h.connection⟩
          · refine ⟨h.nothing, forall_concat (P := fun _ (c : Connection) => c.read = [] ∧ _ ∧ _)
              h.connection ?_⟩
            simp [Connection.establish, hzero]
        · exact ⟨h.nothing, h.connection⟩
      · exact h
  | read index item now =>
      simp only [FlashblocksReceiver.step, read]
      split
      · next hc => exact absurd (h.connection index _ hc).2.1 (by simp)
      · exact h
  | sendEnds index =>
      simp only [FlashblocksReceiver.step, sendEnds]
      split
      · next hc => exact absurd (h.connection index _ hc).2.1 (by simp)
      · exact h
  | pongTick index now =>
      refine h.updateConnection fun c _ htask hping => ?_
      simp [Connection.pongTick, htask, hping]
  | sendPing index uuid sent =>
      refine h.updateConnection fun c _ htask hping => ?_
      simp only [Connection.sendPing]
      split
      · split
        · exact ⟨rfl, rfl, hping⟩
        · exact ⟨rfl, rfl, .inr rfl⟩
      · exact ⟨rfl, rfl, hping⟩
  | putPing index =>
      refine h.updateConnection fun c _ htask hping => ?_
      simp only [Connection.putPing]
      split
      · exact ⟨rfl, rfl, hping⟩
      · exact ⟨rfl, rfl, hping⟩
  | observeCancel index =>
      refine h.updateConnection fun c _ htask hping => ?_
      obtain ⟨hrunning, hcancelled⟩ | hfailed := hping
      · simp [Connection.observeCancel, hcancelled, hrunning]
      · simp [Connection.observeCancel, Connection.pingTaskWaits, hfailed]
  | joinMessageTask =>
      simp only [FlashblocksReceiver.step, joinMessageTask]
      split
      · next read error pingTask pings cancelled left hphase hc =>
          have hpanic : error = .taskPanic := MessageTask.ended.inj (h.connection _ _ hc).2.1
          have hnext :
              (x.updateConnection x.current (·.leave .message error.cancels)).Panicked := by
            refine h.updateConnection fun c _ _ hping => ⟨rfl, rfl, ?_⟩
            simpa [Connection.leave, hpanic, FlashblocksReceiverError.cancels] using hping
          exact ⟨hnext.nothing, hnext.connection⟩
      · exact h
  | joinPingTask =>
      simp only [FlashblocksReceiver.step, joinPingTask]
      split
      · next read messageTask result pings cancelled left hphase hc =>
          have hfailed : PingTask.ended result = .ended (.error .pingFailed) :=
            (h.connection _ _ hc).2.2.resolve_left (by simp)
          obtain rfl := PingTask.ended.inj hfailed
          have hnext : (x.updateConnection x.current (·.leave .ping true)).Panicked := by
            refine h.updateConnection fun c hsame _ _ => ⟨rfl, rfl, .inr ?_⟩
            exact (Option.some.inj (hc.symm.trans hsame)) ▸ rfl
          exact ⟨hnext.nothing, hnext.connection⟩
      · exact h
  | wake =>
      simp only [FlashblocksReceiver.step]
      split
      · exact ⟨h.nothing, h.connection⟩
      · exact h
  | recv =>
      simp only [FlashblocksReceiver.step, recv]
      split
      · exact ⟨h.nothing, h.connection⟩
      · exact h
  | dropReceiver => exact ⟨h.nothing, h.connection⟩

/-- With a pong timeout of zero nothing is ever received, and no ping task is cancelled, however
many connections were made and left. -/
theorem run_zero_timeout (hzero : config.flashblockBuilderWsPongTimeoutMs = 0)
    (events : List ReceiverEvent) :
    (run config lib capacity events).delivered = [] ∧
      ∀ c ∈ (run config lib capacity events).connections,
        c.read = [] ∧ (c.pingTask = .running ∨ c.pingTask = .ended (.error .pingFailed)) := by
  have h : (run config lib capacity events).Panicked :=
    run_invariant (fun _ event h => h.step hzero event) ⟨rfl, by simp [new]⟩ events
  refine ⟨h.nothing, fun c hmem => ?_⟩
  obtain ⟨i, hc⟩ := List.getElem?_of_mem hmem
  obtain ⟨hread, -, hping⟩ := h.connection i c hc
  exact ⟨hread, hping.imp_left And.left⟩

/-- Two connections were left, and both ping tasks still run. -/
theorem run_zero_timeout_twice :
    let x := run ⟨500, 0⟩ ⟨fun _ => "", fun _ => .error "", id, .ok⟩ 1
      [.connect true 0, .joinMessageTask, .wake, .connect true 0, .joinMessageTask]
    x.connections.length = 2 ∧ x.delivered = [] ∧ ∀ c ∈ x.connections,
      c.read = [] ∧ (c.pingTask = .running ∨ c.pingTask = .ended (.error .pingFailed)) :=
  ⟨rfl, run_zero_timeout rfl _⟩

end FlashblocksReceiver

end RollupBoost
