import RollupBoost.RateLimit.Tally

/-!
# The two limiters agree

Both limiters get the same calls, one at a time. The Redis limiter starts on an empty Redis with
its heartbeat, and its background task may refresh the heartbeat and clean up between calls.
The limiters accept the same connections and reject the others for the same limit. Where the app
limit rejects a connection, both leave its address counted.

This rests on the patterns. A bracket or a backslash in the key prefix makes the limiter blind to
its own counters, and then it rejects nothing.
-/

namespace RollupBoost

open Machine

/-! ## Calls one at a time -/

/-- The listing is the order in which Redis lists keys during the event. -/
inductive LimiterEvent where
  | connection (event : ConnectionEvent) (listing : Text → Shuffle)
  | background (now : Int) (ipOrder appOrder : Shuffle) (listing : Text → Shuffle)

/-- The Redis limiter with the tickets that are in use, and those that are released and still
hold their permit. -/
structure RedisConnections where
  store : Store
  semaphore : Nat
  live : List Ticket
  released : List Ticket

namespace RedisConnections

variable (self : RedisRateLimit)

/-- `new` registers the instance. -/
def start (instanceLimit : Nat) (now : Int) : RedisConnections where
  store := ((self.updateHeartbeat now).exec (Store.service fun _ => .identity) ∅).2
  semaphore := instanceLimit
  live := []
  released := []

/-- A call of `try_acquire`: its result and what it leaves in Redis. -/
def tryAcquire (x : RedisConnections) (addr : IpAddr) (app : Option Text)
    (listing : Text → Shuffle) : Except RateLimitError Ticket × Store :=
  if x.semaphore = 0 then
    (.error (.limit (utf8 "Maximum connection limit reached for this server instance")), x.store)
  else (self.tryAcquire addr app).exec (Store.service listing) x.store

def step (x : RedisConnections) : LimiterEvent → RedisConnections
  | .connection (.tryAcquire addr app) listing =>
      match x.tryAcquire self addr app listing with
      | (.ok ticket, store) =>
          { x with store := store, semaphore := x.semaphore - 1, live := x.live ++ [ticket] }
      | (.error _, store) => { x with store := store }
  | .connection (.release index) listing =>
      match x.live[index]? with
      | some ticket =>
          { x with
            store := ((self.release ticket.addr ticket.app).exec (Store.service listing) x.store).2
            live := x.live.eraseIdx index
            released := x.released ++ [ticket] }
      | none => x
  | .connection (.returnPermit index) _ =>
      if index < x.released.length then
        { x with semaphore := x.semaphore + 1, released := x.released.eraseIdx index }
      else x
  | .background now ipOrder appOrder listing =>
      let refreshed := ((self.updateHeartbeat now).exec (Store.service listing) x.store).2
      { x with
        store := ((self.cleanupStaleInstances ipOrder appOrder).exec (Store.service listing)
          refreshed).2 }

end RedisConnections

/-- The in-memory limiter has no background task. -/
def Connections.stepBoth (limiter : InMemoryRateLimit) (x : Connections) :
    LimiterEvent → Connections
  | .connection event _ => x.step limiter event
  | .background _ _ _ _ => x

/-- Both accept, or both reject for the same limit. -/
inductive SameOutcome (ticket : Ticket) :
    Except RateLimitError Ticket → Except RateLimitError Ticket → Prop
  | accepted : SameOutcome ticket (.ok ticket) (.ok ticket)
  | instanceLimit : SameOutcome ticket (.error (.limit (utf8 "Global limit")))
      (.error (.limit (utf8 "Maximum connection limit reached for this server instance")))
  | ipLimit : SameOutcome ticket (.error (.limit (utf8 "IP limit exceeded")))
      (.error (.limit (utf8 "Per-IP connection limit reached for " ++ ticket.addr.toText)))
  | appLimit (name : Text) (happ : ticket.app = some name) :
      SameOutcome ticket (.error (.limit (utf8 "App limit exceeded")))
        (.error (.limit (utf8 "Per-app connection limit reached for " ++ name)))

/-! ## The simulation -/

/-- The Redis counters stand for the tables, and everything else is the same. -/
structure Mirrors (limiter : RedisRateLimit) (instanceLimit : Nat) (x : RedisConnections)
    (y : Connections) : Prop where
  tallies : limiter.Tallies x.store (InMemoryRateLimit.tally y.inner)
  semaphore : x.semaphore = y.inner.semaphore
  live : x.live = y.live
  released : x.released = y.released
  inv : y.Inv limiter.inMemory instanceLimit
  clean : ∀ ticket ∈ y.live, ∀ name ∈ ticket.app, (Subject.app name).Clean

namespace Mirrors

variable {self : RedisRateLimit} {instanceLimit : Nat} {x : RedisConnections} {y : Connections}
variable {addr : IpAddr} {app : Option Text}

theorem start (now : Int) : Mirrors self instanceLimit
    (RedisConnections.start self instanceLimit now) (Connections.start instanceLimit) where
  tallies := by
    have hzero : InMemoryRateLimit.tally (Connections.start instanceLimit).inner = fun _ => 0 := by
      funext subject
      cases subject <;> rfl
    rw [hzero]
    exact (RedisRateLimit.tallies_empty self).heartbeat now
  semaphore := rfl
  live := rfl
  released := rfl
  inv := Connections.inv_start
  clean := by simp [Connections.start]

theorem sameOutcome_of_stop {tally : Tally} {counted : Tally} {stop : Option Subject}
    (henroll : tally.enroll self.limit (self.subjects { addr := addr, app := app }) =
      (counted, stop)) :
    SameOutcome { addr := addr, app := app }
      (verdict InMemoryRateLimit.reason { addr := addr, app := app } stop)
      (verdict RedisRateLimit.reason { addr := addr, app := app } stop) := by
  cases stop with
  | none => exact .accepted
  | some full =>
      have hmem : full ∈ self.subjects { addr := addr, app := app } :=
        Tally.mem_of_enroll (by rw [henroll])
      obtain ⟨-, rfl⟩ | ⟨name, rfl, rfl⟩ := RedisConfig.mem_subjects.mp hmem
      · exact .ipLimit
      · exact .appLimit name rfl

/-- The results and the states after a call. -/
theorem tryAcquire (h : Mirrors self instanceLimit x y) (hsimple : Glob.Simple self.keyPrefix)
    (hclean : ∀ name ∈ app, (Subject.app name).Clean) (listing : Text → Shuffle) :
    SameOutcome { addr := addr, app := app } (self.inMemory.tryAcquire y.inner addr app).2
        (x.tryAcquire self addr app listing).1 ∧
      Mirrors self instanceLimit
        (x.step self (.connection (.tryAcquire addr app) listing))
        (y.step self.inMemory (.tryAcquire addr app)) := by
  have hinv := h.inv.tryAcquire addr app
  have hsemaphore := h.semaphore
  by_cases hzero : y.inner.semaphore = 0
  · have hmemory : self.inMemory.tryAcquire y.inner addr app =
        (y.inner, .error (.limit (utf8 "Global limit"))) := if_pos hzero
    have hredis : x.tryAcquire self addr app listing = (.error (.limit
        (utf8 "Maximum connection limit reached for this server instance")), x.store) :=
      if_pos (hsemaphore.trans hzero)
    simp only [RedisConnections.step, Connections.step, hmemory, hredis]
    exact ⟨.instanceLimit, h⟩
  · obtain ⟨next, stop, henroll, hmemory, hpermits⟩ :=
      self.inMemory_tryAcquire y.inner addr app (by omega)
    obtain ⟨store, hexec, htallies⟩ := h.tallies.tryAcquire listing hsimple addr hclean
    rw [henroll] at hexec htallies
    have hredis : x.tryAcquire self addr app listing =
        (verdict RedisRateLimit.reason { addr := addr, app := app } stop, store) := by
      rw [RedisConnections.tryAcquire, if_neg (by omega), hexec]
    refine ⟨by rw [hmemory, hredis]; exact sameOutcome_of_stop henroll, ?_⟩
    cases stop with
    | none =>
        simp only [RedisConnections.step, Connections.step, hmemory, hredis, verdict] at hinv ⊢
        refine ⟨htallies, ?_, ?_, h.released, hinv, ?_⟩
        · rw [if_pos rfl] at hpermits
          show x.semaphore - 1 = next.semaphore
          omega
        · rw [h.live]
        · intro ticket hticket
          obtain hold | hnew := List.mem_append.mp hticket
          · exact h.clean ticket hold
          · rw [List.mem_singleton.mp hnew]
            exact hclean
    | some full =>
        simp only [RedisConnections.step, Connections.step, hmemory, hredis, verdict] at hinv ⊢
        refine ⟨htallies, ?_, h.live, h.released, hinv, h.clean⟩
        exact hsemaphore.trans hpermits.symm

theorem release (h : Mirrors self instanceLimit x y) (index : Nat) (listing : Text → Shuffle) :
    Mirrors self instanceLimit (x.step self (.connection (.release index) listing))
      (y.step self.inMemory (.release index)) := by
  have hinv := (h.inv.release index).1
  cases hticket : y.live[index]? with
  | none =>
      simp only [RedisConnections.step, Connections.step, h.live, hticket]
      exact h
  | some ticket =>
      have hmem := List.mem_of_getElem? hticket
      have hpos : ∀ subject ∈ self.subjects { addr := ticket.addr, app := ticket.app },
          0 < InMemoryRateLimit.tally y.inner subject := by
        intro subject hsubject
        obtain ⟨hipPos, happPos⟩ := h.inv.counted hmem
        obtain ⟨hlimited, rfl⟩ | ⟨name, hname, rfl⟩ := RedisConfig.mem_subjects.mp hsubject
        · exact hipPos hlimited
        · exact happPos name hname
      have htallies := h.tallies.release listing ticket.addr (h.clean ticket hmem) hpos
      rw [← self.inMemory_release] at htallies
      simp only [RedisConnections.step, Connections.step, h.live, hticket] at hinv ⊢
      refine ⟨htallies, ?_, rfl, ?_, hinv, ?_⟩
      · exact h.semaphore
      · rw [h.released]
      · intro other hother
        exact h.clean other (List.mem_of_mem_eraseIdx hother)

theorem returnPermit (h : Mirrors self instanceLimit x y) (index : Nat)
    (listing : Text → Shuffle) :
    Mirrors self instanceLimit (x.step self (.connection (.returnPermit index) listing))
      (y.step self.inMemory (.returnPermit index)) := by
  have hinv := h.inv.returnPermit index
  simp only [RedisConnections.step, Connections.step, h.released] at hinv ⊢
  split
  · next hlt =>
      rw [if_pos hlt] at hinv
      refine ⟨h.tallies, ?_, h.live, rfl, hinv, h.clean⟩
      show x.semaphore + 1 = y.inner.semaphore + 1
      rw [h.semaphore]
  · exact h

theorem background (h : Mirrors self instanceLimit x y) (hsimple : Glob.Simple self.keyPrefix)
    (hcolon : colon ∉ self.keyPrefix) (now : Int) (ipOrder appOrder : Shuffle)
    (listing : Text → Shuffle) :
    Mirrors self instanceLimit (x.step self (.background now ipOrder appOrder listing)) y where
  tallies := (h.tallies.heartbeat now).cleanup listing hsimple hcolon ipOrder appOrder
  semaphore := h.semaphore
  live := h.live
  released := h.released
  inv := h.inv
  clean := h.clean

end Mirrors

/-! ## Agreement -/

namespace LimiterEvent

/-- The names of apps have no colon and no byte with a special meaning in a pattern. -/
def Clean : LimiterEvent → Prop
  | .connection (.tryAcquire _ app) _ => ∀ name ∈ app, (Subject.app name).Clean
  | _ => True

def IsBackground : LimiterEvent → Prop
  | .background _ _ _ _ => True
  | _ => False

end LimiterEvent

theorem Mirrors.run {self : RedisRateLimit} {instanceLimit : Nat} {x : RedisConnections}
    {y : Connections} (h : Mirrors self instanceLimit x y) (hsimple : Glob.Simple self.keyPrefix)
    (events : List LimiterEvent) (hclean : ∀ event ∈ events, event.Clean)
    (hcolon : colon ∈ self.keyPrefix → ∀ event ∈ events, ¬ event.IsBackground) :
    Mirrors self instanceLimit (Machine.run (RedisConnections.step self) x events)
      (Machine.run (Connections.stepBoth self.inMemory) y events) := by
  induction events generalizing x y with
  | nil => exact h
  | cons event events ih =>
      apply ih
      · have hevent := hclean event List.mem_cons_self
        match event with
        | .connection (.tryAcquire addr app) listing =>
            exact (h.tryAcquire hsimple hevent listing).2
        | .connection (.release index) listing => exact h.release index listing
        | .connection (.returnPermit index) listing => exact h.returnPermit index listing
        | .background now ipOrder appOrder listing =>
            apply h.background hsimple
            intro hmem
            exact hcolon hmem _ List.mem_cons_self trivial
      · exact fun other hother => hclean other (List.mem_cons_of_mem _ hother)
      · exact fun hmem other hother => hcolon hmem other (List.mem_cons_of_mem _ hother)

/-- What the in-memory limiter answers after a sequence of calls. -/
def memoryOutcome (self : RedisRateLimit) (instanceLimit : Nat) (events : List LimiterEvent)
    (addr : IpAddr) (app : Option Text) : Except RateLimitError Ticket :=
  let y := Machine.run (Connections.stepBoth self.inMemory) (Connections.start instanceLimit) events
  (self.inMemory.tryAcquire y.inner addr app).2

/-- What the Redis limiter answers after a sequence of calls. -/
def redisOutcome (self : RedisRateLimit) (instanceLimit : Nat) (now : Int)
    (events : List LimiterEvent) (addr : IpAddr) (app : Option Text) (listing : Text → Shuffle) :
    Except RateLimitError Ticket :=
  let x := Machine.run (RedisConnections.step self)
    (RedisConnections.start self instanceLimit now) events
  (x.tryAcquire self addr app listing).1

/-- After any sequence of calls, the next call has the same outcome with both limiters. -/
theorem limiters_agree (self : RedisRateLimit) (instanceLimit : Nat) (now : Int)
    (events : List LimiterEvent) (addr : IpAddr) (app : Option Text) (listing : Text → Shuffle)
    (hsimple : Glob.Simple self.keyPrefix) (hclean : ∀ event ∈ events, event.Clean)
    (hcolon : colon ∈ self.keyPrefix → ∀ event ∈ events, ¬ event.IsBackground)
    (happ : ∀ name ∈ app, (Subject.app name).Clean) :
    SameOutcome { addr := addr, app := app } (memoryOutcome self instanceLimit events addr app)
      (redisOutcome self instanceLimit now events addr app listing) := by
  have hstart : Mirrors self instanceLimit (RedisConnections.start self instanceLimit now)
      (Connections.start instanceLimit) := Mirrors.start now
  have hmirrors := hstart.run hsimple events hclean hcolon
  exact (hmirrors.tryAcquire hsimple happ listing).1

/-! ## A connection that the app limit rejects, and a prefix with brackets -/

def webApp : Text := utf8 "web"

/-- One connection for each address, and one for the app. -/
def oneEach (keyPrefix : Text) : RedisRateLimit where
  perIpLimit := 1
  perAppLimit := Table.empty.insert webApp 1
  keyPrefix := keyPrefix
  instanceId := RedisRateLimit.cleaningInstance

/-- The second client is rejected by the app limit after its address was counted. -/
def rejectedByApp : List LimiterEvent :=
  [.connection (.tryAcquire RedisRateLimit.v4Client (some webApp)) fun _ => .identity,
    .background 1750000005 .identity .identity fun _ => .identity,
    .connection (.tryAcquire RedisRateLimit.v6Client (some webApp)) fun _ => .identity]

theorem agree_after_rejection :
    memoryOutcome (oneEach (utf8 "flashblocks")) 10 rejectedByApp RedisRateLimit.v6Client none =
        .error (.limit (utf8 "IP limit exceeded")) ∧
      SameOutcome { addr := RedisRateLimit.v6Client, app := none }
        (memoryOutcome (oneEach (utf8 "flashblocks")) 10 rejectedByApp RedisRateLimit.v6Client none)
        (redisOutcome (oneEach (utf8 "flashblocks")) 10 1750000000 rejectedByApp
          RedisRateLimit.v6Client none fun _ => .identity) := by
  refine ⟨by decide +kernel, ?_⟩
  apply limiters_agree
  · decide
  · intro event hevent
    have hweb : ∀ name ∈ some webApp, (Subject.app name).Clean := by
      intro name hname
      rw [← Option.some.inj hname]
      exact ⟨by decide, by decide⟩
    simp only [rejectedByApp, List.mem_cons, List.not_mem_nil, or_false] at hevent
    obtain rfl | rfl | rfl := hevent
    · exact hweb
    · trivial
    · exact hweb
  · exact fun hmem => absurd hmem (by decide)
  · simp

/-- The Redis limiter does not find the counter of its own connection. -/
theorem bracket_in_prefix_disagrees :
    ¬ SameOutcome { addr := RedisRateLimit.v4Client, app := none }
      (memoryOutcome (oneEach (utf8 "[main]")) 10
        [.connection (.tryAcquire RedisRateLimit.v4Client none) fun _ => .identity]
        RedisRateLimit.v4Client none)
      (redisOutcome (oneEach (utf8 "[main]")) 10 1750000000
        [.connection (.tryAcquire RedisRateLimit.v4Client none) fun _ => .identity]
        RedisRateLimit.v4Client none fun _ => .identity) := by
  have hmemory : memoryOutcome (oneEach (utf8 "[main]")) 10
      [.connection (.tryAcquire RedisRateLimit.v4Client none) fun _ => .identity]
      RedisRateLimit.v4Client none = .error (.limit (utf8 "IP limit exceeded")) := by
    decide +kernel
  have hredis : redisOutcome (oneEach (utf8 "[main]")) 10 1750000000
      [.connection (.tryAcquire RedisRateLimit.v4Client none) fun _ => .identity]
      RedisRateLimit.v4Client none (fun _ => .identity) =
        .ok { addr := RedisRateLimit.v4Client, app := none } := by
    decide +kernel
  rw [hmemory, hredis]
  intro h
  nomatch h

end RollupBoost
