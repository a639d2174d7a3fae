import RollupBoost.Machine.Mpsc
import RollupBoost.Overlay.Malformed
import RollupBoost.Proxy.Wire

/-!
# The stream of flashblocks into the overlay

`FlashblocksOverlay::start` (`flashblocks-rpc/src/flashblocks.rs`) starts two tasks. One connects
to the websocket, again and again, and sends the flashblocks that it decodes into a channel. The
other one takes them from the channel and hands them to the cache.

The cache is therefore a replay of the flashblocks that were read over all connections, in the
order of reading, and behind by no more than what fits into the channel and one. A flashblock
that makes the cache panic ends the second task; the first one goes on reading, and all that it
decodes from then on is lost.

Only a connection that is refused is waited for. The wait doubles up to ten seconds, and a
connection that succeeds does not bring it back: after four refusals in the life of the process
every further one costs ten seconds.
-/

namespace RollupBoost

open Machine

variable {Tx Receipt L1BlockInfo RpcReceipt : Type}

/-- Where the task of the websocket waits. -/
inductive OverlayPhase where
  | connecting
  | reading
  /-- There is no room for the flashblock yet. -/
  | sending (payload : FlashblocksPayloadV1)
  | sleeping

/-- Both tasks, with what has happened to them: the messages that were read over all connections,
the flashblocks that the cache was handed, those that could not be sent, and the lengths of the
waits. -/
structure FlashblocksOverlay (Tx RpcReceipt : Type) where
  phase : OverlayPhase
  backoff : Nat
  channel : Mpsc FlashblocksPayloadV1 100
  cache : FlashblocksCache Tx RpcReceipt
  /-- The task of the cache. -/
  running : Bool
  read : List Message
  handed : List FlashblocksPayloadV1
  lost : List FlashblocksPayloadV1
  waits : List Nat

inductive OverlayEvent where
  | connect (established : Bool)
  | next (incoming : Incoming)
  | sendEnds
  | wake
  | recv

namespace FlashblocksOverlay

def start : FlashblocksOverlay Tx RpcReceipt where
  phase := .connecting
  backoff := 1
  channel := .new FlashblocksPayloadV1 100
  cache := .new
  running := true
  read := []
  handed := []
  lost := []
  waits := []

variable (lib : NodeLibrary Tx Receipt L1BlockInfo RpcReceipt)
-- the subtraction of a build with overflow checks, or without
variable (sub : UInt64 → UInt64 → Outcome String UInt64)

/-- Seconds. -/
def maxBackoff : Nat := 10

def connect (x : FlashblocksOverlay Tx RpcReceipt) (established : Bool) :
    FlashblocksOverlay Tx RpcReceipt :=
  match x.phase with
  | .connecting =>
      if established then { x with phase := .reading }
      else { x with phase := .sleeping, waits := x.waits ++ [x.backoff] }
  | _ => x

def handle (wire : WireLibrary) (x : FlashblocksOverlay Tx RpcReceipt) :
    Message → FlashblocksOverlay Tx RpcReceipt
  | .binary bytes =>
      match wire.tryDecodeMessage bytes with
      | .ok payload => { x with phase := .sending payload }
      | .error _ => x
  | .close => { x with phase := .connecting }
  | _ => x

def next (wire : WireLibrary) (x : FlashblocksOverlay Tx RpcReceipt) (incoming : Incoming) :
    FlashblocksOverlay Tx RpcReceipt :=
  match x.phase with
  | .reading =>
      match incoming with
      | .message message =>
          ({ x with read := x.read ++ [message] } : FlashblocksOverlay Tx RpcReceipt).handle wire
            message
      | .error => { x with phase := .connecting }
      | .finished => { x with phase := .connecting }
  | _ => x

def sendEnds (x : FlashblocksOverlay Tx RpcReceipt) : FlashblocksOverlay Tx RpcReceipt :=
  match x.phase with
  | .sending payload =>
      match x.channel.send payload with
      | .ok channel => { x with phase := .reading, channel := channel }
      | .full => x
      | .closed => { x with phase := .reading, lost := x.lost ++ [payload] }
  | _ => x

def wake (x : FlashblocksOverlay Tx RpcReceipt) : FlashblocksOverlay Tx RpcReceipt :=
  match x.phase with
  | .sleeping => { x with phase := .connecting, backoff := min (x.backoff * 2) maxBackoff }
  | _ => x

/-- The cache after a flashblock; an error and a panic leave it as it is. -/
def absorb (cache : FlashblocksCache Tx RpcReceipt) (payload : FlashblocksPayloadV1) :
    FlashblocksCache Tx RpcReceipt :=
  match cache.inner.processPayloadWith lib sub payload with
  | .ok newState => { inner := newState }
  | _ => cache

def panics (cache : FlashblocksCache Tx RpcReceipt) (payload : FlashblocksPayloadV1) : Bool :=
  (cache.inner.processPayloadWith lib sub payload).panics

/-- One turn of the task of the cache. A panic drops the receiver. -/
def recv (x : FlashblocksOverlay Tx RpcReceipt) : FlashblocksOverlay Tx RpcReceipt :=
  if x.running then
    match x.channel.recv with
    | some (payload, channel) =>
        { x with
          channel := { channel with receiverGone := panics lib sub x.cache payload }
          cache := absorb lib sub x.cache payload
          running := !panics lib sub x.cache payload
          handed := x.handed ++ [payload] }
    | none => x
  else x

def step (wire : WireLibrary) (x : FlashblocksOverlay Tx RpcReceipt) :
    OverlayEvent → FlashblocksOverlay Tx RpcReceipt
  | .connect established => x.connect established
  | .next incoming => x.next wire incoming
  | .sendEnds => x.sendEnds
  | .wake => x.wake
  | .recv => x.recv lib sub

/-- The flashblock that waits for room. -/
def waiting (x : FlashblocksOverlay Tx RpcReceipt) : List FlashblocksPayloadV1 :=
  match x.phase with
  | .sending payload => [payload]
  | _ => []

/-- What was decoded from the messages that were read. -/
def decoded (wire : WireLibrary) (x : FlashblocksOverlay Tx RpcReceipt) :
    List FlashblocksPayloadV1 := x.read.filterMap wire.overlayReceives

/-! ## What the cache was handed -/

/-- What was decoded was sent before anything was lost, and what came out of the channel went
through the cache, up to the flashblock that made it panic. -/
structure Inv (wire : WireLibrary) (x : FlashblocksOverlay Tx RpcReceipt) : Prop where
  carries : ∃ sent, x.channel.Carries sent x.handed ∧
    x.decoded wire = sent ++ x.lost ++ x.waiting
  replayed : x.cache = run (absorb lib sub) .new x.handed
  receiver : x.channel.receiverGone = !x.running
  running : x.running = true → x.lost = [] ∧
    Along (absorb lib sub) (fun cache m => panics lib sub cache m = false) .new x.handed
  ended : x.running = false → ∃ before payload, x.handed = before ++ [payload] ∧
    Along (absorb lib sub) (fun cache m => panics lib sub cache m = false) .new before ∧
    panics lib sub (run (absorb lib sub) .new before) payload = true

variable {lib sub} {wire : WireLibrary} {x : FlashblocksOverlay Tx RpcReceipt}

theorem absorb_of_panics {cache : FlashblocksCache Tx RpcReceipt} {payload : FlashblocksPayloadV1}
    (h : panics lib sub cache payload = true) : absorb lib sub cache payload = cache := by
  simp only [panics] at h
  cases hprocess : cache.inner.processPayloadWith lib sub payload with
  | ok newState =>
      rw [hprocess] at h
      exact absurd h (by simp)
  | _ => simp only [absorb, hprocess]

theorem inv_start : (start : FlashblocksOverlay Tx RpcReceipt).Inv lib sub wire where
  carries := ⟨[], Mpsc.carries_new, rfl⟩
  replayed := rfl
  receiver := rfl
  running _ := ⟨rfl, trivial⟩
  ended h := absurd h (by simp [start])

/-- The task of the websocket goes to a place where nothing waits. -/
theorem Inv.idle (h : x.Inv lib sub wire) (hwaiting : x.waiting = []) {phase : OverlayPhase}
    {backoff : Nat} {waits : List Nat}
    (hphase : ({ x with phase := phase } : FlashblocksOverlay Tx RpcReceipt).waiting = []) :
    ({ x with phase := phase, backoff := backoff, waits := waits } :
      FlashblocksOverlay Tx RpcReceipt).Inv lib sub wire where
  carries := by
    obtain ⟨sent, hcarries, hdecoded⟩ := h.carries
    rw [hwaiting] at hdecoded
    exact ⟨sent, hcarries, hdecoded.trans (congrArg _ hphase.symm)⟩
  replayed := h.replayed
  receiver := h.receiver
  running := h.running
  ended := h.ended

theorem Inv.connect (h : x.Inv lib sub wire) (established : Bool) :
    (x.connect established).Inv lib sub wire := by
  simp only [FlashblocksOverlay.connect]
  split
  · next hphase =>
      have hwaiting : x.waiting = [] := by simp [waiting, hphase]
      split
      · exact h.idle hwaiting rfl
      · exact h.idle hwaiting rfl
  · exact h

theorem Inv.wake (h : x.Inv lib sub wire) : x.wake.Inv lib sub wire := by
  simp only [FlashblocksOverlay.wake]
  split
  · next hphase => exact h.idle (by simp [waiting, hphase]) rfl
  · exact h

theorem handle_cases (wire : WireLibrary) (x : FlashblocksOverlay Tx RpcReceipt)
    (message : Message) :
    (∃ payload, wire.overlayReceives message = some payload ∧
      x.handle wire message = { x with phase := .sending payload }) ∨
    (wire.overlayReceives message = none ∧
      (x.handle wire message = x ∨ x.handle wire message = { x with phase := .connecting })) := by
  cases message with
  | binary bytes =>
      simp only [handle, WireLibrary.overlayReceives]
      cases wire.tryDecodeMessage bytes with
      | ok payload => exact .inl ⟨payload, rfl, rfl⟩
      | error e => exact .inr ⟨rfl, .inl rfl⟩
  | close => exact .inr ⟨rfl, .inr rfl⟩
  | _ => exact .inr ⟨rfl, .inl rfl⟩

/-- A message that is read is decoded as the overlay does it. -/
theorem Inv.read (h : x.Inv lib sub wire) (hphase : x.phase = .reading) (message : Message) :
    (({ x with read := x.read ++ [message] } : FlashblocksOverlay Tx RpcReceipt).handle wire
      message).Inv lib sub wire := by
  obtain ⟨sent, hcarries, hdecoded⟩ := h.carries
  have hidle : x.decoded wire = sent ++ x.lost := by simpa [waiting, hphase] using hdecoded
  have hread : (x.read ++ [message]).filterMap wire.overlayReceives =
      sent ++ x.lost ++ (wire.overlayReceives message).toList := by
    rw [List.filterMap_append, ← hidle]
    cases hreceives : wire.overlayReceives message <;> simp [hreceives, decoded]
  obtain ⟨payload, hreceives, heq⟩ | ⟨hreceives, heq | heq⟩ :=
    handle_cases wire { x with read := x.read ++ [message] } message
  · rw [hreceives] at hread
    rw [heq]
    exact ⟨⟨sent, hcarries, hread⟩, h.replayed, h.receiver, h.running, h.ended⟩
  · rw [hreceives] at hread
    rw [heq]
    refine ⟨⟨sent, hcarries, hread.trans ?_⟩, h.replayed, h.receiver, h.running, h.ended⟩
    simp [waiting, hphase]
  · rw [hreceives] at hread
    rw [heq]
    exact ⟨⟨sent, hcarries, hread⟩, h.replayed, h.receiver, h.running, h.ended⟩

theorem Inv.next (h : x.Inv lib sub wire) (incoming : Incoming) :
    (x.next wire incoming).Inv lib sub wire := by
  simp only [FlashblocksOverlay.next]
  split
  · next hphase =>
      have hwaiting : x.waiting = [] := by simp [waiting, hphase]
      cases incoming with
      | message message => exact h.read hphase message
      | error => exact h.idle hwaiting rfl
      | finished => exact h.idle hwaiting rfl
  · exact h

theorem Inv.sendEnds (h : x.Inv lib sub wire) : x.sendEnds.Inv lib sub wire := by
  simp only [FlashblocksOverlay.sendEnds]
  split
  · next payload hphase =>
      obtain ⟨sent, hcarries, hdecoded⟩ := h.carries
      rw [show x.waiting = [payload] by simp [waiting, hphase]] at hdecoded
      obtain ⟨hgone, hsend⟩ | ⟨hopen, hsend⟩ | ⟨-, hsend⟩ := x.channel.send_cases payload
      · have hended : x.running = false := by simpa [hgone] using h.receiver
        rw [hsend]
        refine ⟨⟨sent, hcarries, ?_⟩, h.replayed, h.receiver, fun hrunning => ?_, h.ended⟩
        · simpa [decoded, waiting] using hdecoded
        · rw [hended] at hrunning
          exact absurd hrunning (by simp)
      · have hrunning : x.running = true := by simpa [hopen] using h.receiver
        have hlost : x.lost = [] := (h.running hrunning).1
        rw [hsend]
        refine ⟨⟨sent ++ [payload], hcarries.send hsend, ?_⟩, h.replayed, h.receiver, h.running,
          h.ended⟩
        simpa [decoded, waiting, hlost] using hdecoded
      · rw [hsend]
        exact h
  · exact h

theorem Inv.recv (h : x.Inv lib sub wire) : (x.recv lib sub).Inv lib sub wire := by
  simp only [FlashblocksOverlay.recv]
  split
  · next hrunning =>
      split
      · next payload channel hrecv =>
          obtain ⟨sent, hcarries, hdecoded⟩ := h.carries
          obtain ⟨hlost, hsurvived⟩ := h.running hrunning
          have htaken := hcarries.recv hrecv
          refine ⟨⟨sent, ⟨htaken.fifo, htaken.bounded⟩, hdecoded⟩, ?_, ?_, fun hgood => ?_,
            fun hpanics => ?_⟩
          · rw [run_concat, ← h.replayed]
          · simp
          · refine ⟨hlost, Along.concat_iff.mpr ⟨hsurvived, ?_⟩⟩
            simpa [← h.replayed] using hgood
          · refine ⟨x.handed, payload, rfl, hsurvived, ?_⟩
            simpa [← h.replayed] using hpanics
      · exact h
  · exact h

theorem Inv.step (h : x.Inv lib sub wire) (event : OverlayEvent) :
    (x.step lib sub wire event).Inv lib sub wire := by
  cases event with
  | connect established => exact h.connect established
  | next incoming => exact h.next incoming
  | sendEnds => exact h.sendEnds
  | wake => exact h.wake
  | recv => exact h.recv

/-- The cache is a replay of what it was handed, and it was handed all that was decoded from the
messages of all connections, in order, but for at most 101 flashblocks at the end. A flashblock
that makes it panic is the last one, and leaves the cache as it was for good. -/
theorem run_replays (lib : NodeLibrary Tx Receipt L1BlockInfo RpcReceipt)
    (sub : UInt64 → UInt64 → Outcome String UInt64) (wire : WireLibrary)
    (events : List OverlayEvent) :
    let x : FlashblocksOverlay Tx RpcReceipt := run (step lib sub wire) start events
    x.cache = run (absorb lib sub) .new x.handed ∧
    (∃ behind, x.decoded wire = x.handed ++ behind ∧
      (x.running = true → behind.length ≤ 101)) ∧
    (x.running = false → ∃ before payload, x.handed = before ++ [payload] ∧
      Along (absorb lib sub) (fun cache m => panics lib sub cache m = false) .new before ∧
      panics lib sub x.cache payload = true ∧ x.cache = run (absorb lib sub) .new before) := by
  intro x
  have h : x.Inv lib sub wire := run_invariant (fun _ event h => h.step event) inv_start events
  refine ⟨h.replayed, ?_, ?_⟩
  · obtain ⟨sent, hcarries, hdecoded⟩ := h.carries
    refine ⟨x.channel.queue ++ x.lost ++ x.waiting, ?_, fun hrunning => ?_⟩
    · rw [hdecoded, hcarries.fifo]
      simp
    · have hwaiting : x.waiting.length ≤ 1 := by
        simp only [waiting]
        split <;> simp
      have hbounded := hcarries.bounded
      rw [(h.running hrunning).1, List.append_nil, List.length_append]
      omega
  · intro hended
    obtain ⟨before, payload, hhanded, hsurvived, hpanics⟩ := h.ended hended
    have hcache : x.cache = run (absorb lib sub) .new before := by
      rw [h.replayed, hhanded, run_concat, absorb_of_panics hpanics]
    exact ⟨before, payload, hhanded, hsurvived, by rwa [hcache], hcache⟩

/-! ## The waits -/

/-- The wait after so many others. -/
def backoffAfter (n : Nat) : Nat := min (2 ^ n) maxBackoff

theorem backoffAfter_succ (n : Nat) :
    backoffAfter (n + 1) = min (backoffAfter n * 2) maxBackoff := by
  simp only [backoffAfter, maxBackoff, pow_succ]
  omega

/-- The next wait goes by the number of the waits before, and by nothing else. -/
structure Waits (x : FlashblocksOverlay Tx RpcReceipt) : Prop where
  waits : x.waits = (List.range x.waits.length).map backoffAfter
  awake : x.phase ≠ .sleeping → x.backoff = backoffAfter x.waits.length
  asleep : x.phase = .sleeping → ∃ n, x.waits.length = n + 1 ∧ x.backoff = backoffAfter n

theorem waits_start : (start : FlashblocksOverlay Tx RpcReceipt).Waits where
  waits := rfl
  awake _ := rfl
  asleep h := absurd h (by simp [start])

/-- What happens while the task is awake does not count. -/
theorem Waits.of_awake (h : x.Waits) {y : FlashblocksOverlay Tx RpcReceipt}
    (hx : x.phase ≠ .sleeping) (hy : y.phase ≠ .sleeping) (hwaits : y.waits = x.waits)
    (hbackoff : y.backoff = x.backoff) : y.Waits where
  waits := hwaits ▸ h.waits
  awake _ := by rw [hwaits, hbackoff, h.awake hx]
  asleep hsleeping := absurd hsleeping hy

theorem Waits.connect (h : x.Waits) (established : Bool) : (x.connect established).Waits := by
  simp only [FlashblocksOverlay.connect]
  split
  · next hphase =>
      have hawake : x.phase ≠ .sleeping := by simp [hphase]
      split
      · exact h.of_awake hawake (by simp) rfl rfl
      · refine ⟨?_, fun hnot => absurd rfl hnot, fun _ => ⟨x.waits.length, by simp, h.awake hawake⟩⟩
        rw [List.length_append, List.length_singleton, List.range_succ, List.map_append, ← h.waits,
          h.awake hawake]
        rfl
  · exact h

theorem Waits.next (h : x.Waits) (incoming : Incoming) : (x.next wire incoming).Waits := by
  simp only [FlashblocksOverlay.next]
  split
  · next hphase =>
      have hawake : x.phase ≠ .sleeping := by simp [hphase]
      cases incoming with
      | message message =>
          simp only
          obtain ⟨payload, -, heq⟩ | ⟨-, heq | heq⟩ :=
            handle_cases wire { x with read := x.read ++ [message] } message
          · rw [heq]
            exact h.of_awake hawake (by simp) rfl rfl
          · rw [heq]
            exact h.of_awake hawake hawake rfl rfl
          · rw [heq]
            exact h.of_awake hawake (by simp) rfl rfl
      | error => exact h.of_awake hawake (by simp) rfl rfl
      | finished => exact h.of_awake hawake (by simp) rfl rfl
  · exact h

theorem Waits.sendEnds (h : x.Waits) : x.sendEnds.Waits := by
  simp only [FlashblocksOverlay.sendEnds]
  split
  · next payload hphase =>
      have hawake : x.phase ≠ .sleeping := by simp [hphase]
      split
      · exact h.of_awake hawake (by simp) rfl rfl
      · exact h
      · exact h.of_awake hawake (by simp) rfl rfl
  · exact h

theorem Waits.wake (h : x.Waits) : x.wake.Waits := by
  simp only [FlashblocksOverlay.wake]
  split
  · next hphase =>
      obtain ⟨n, hlength, hbackoff⟩ := h.asleep hphase
      refine ⟨h.waits, fun _ => ?_, fun hnot => absurd hnot (by simp)⟩
      show min (x.backoff * 2) maxBackoff = backoffAfter x.waits.length
      rw [hlength, hbackoff, backoffAfter_succ]
  · exact h

theorem Waits.recv (h : x.Waits) : (x.recv lib sub).Waits := by
  simp only [FlashblocksOverlay.recv]
  split
  · split
    · exact ⟨h.waits, h.awake, h.asleep⟩
    · exact h
  · exact h

theorem Waits.step (h : x.Waits) (event : OverlayEvent) : (x.step lib sub wire event).Waits := by
  cases event with
  | connect established => exact h.connect established
  | next incoming => exact h.next incoming
  | sendEnds => exact h.sendEnds
  | wake => exact h.wake
  | recv => exact h.recv

/-- Whatever connections succeed in between, the waits for the refused ones double up to ten
seconds and stay there. -/
theorem run_backoff (lib : NodeLibrary Tx Receipt L1BlockInfo RpcReceipt)
    (sub : UInt64 → UInt64 → Outcome String UInt64) (wire : WireLibrary)
    (events : List OverlayEvent) :
    let x : FlashblocksOverlay Tx RpcReceipt := run (step lib sub wire) start events
    x.waits = (List.range x.waits.length).map fun n => min (2 ^ n) 10 := by
  intro x
  have h : x.Waits := run_invariant (fun _ event h => h.step event) waits_start events
  exact h.waits

end FlashblocksOverlay

end RollupBoost
