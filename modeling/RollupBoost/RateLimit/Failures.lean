import RollupBoost.RateLimit.SharedLimits

/-!
# A Redis that fails

Every call to Redis can fail: there is no connection, a command is not carried out, or it is
carried out and the answer is lost. `try_acquire` and `release`
(`websocket-proxy/src/rate_limit.rs`) go on in different ways. A failed `KEYS` or `INCR` rejects
the connection. A failed `GET` counts as zero. A failed `DECR` is only logged. A connection that
is rejected after its address was counted stays counted.

So a counter may be ahead of the tickets it stands for, but it never falls behind them, whatever
fails and in whatever order the commands of all instances arrive. The limits hold as long as the
calls come one after the other and no `GET` fails. Permits are not lost.
-/

namespace RollupBoost

open Machine

/-- What the limiter asks of the Redis client. -/
inductive Request where
  | getConnection
  | command (command : Command)
  deriving DecidableEq

/-- `none` is a `RedisError`. -/
abbrev RedisReply : Request → Type
  | .getConnection => Option Unit
  | .command command => Option (Answer command)

abbrev FallibleProgram := Program Request RedisReply

inductive Fate where
  | done
  /-- The request did not reach Redis. -/
  | refused
  /-- The request was carried out, and the client does not know. -/
  | lost
  deriving DecidableEq

/-- No request is made twice in one call, so a call fails in the way that a function says. -/
abbrev Fates := Request → Fate

namespace Store

def attempt (listing : Text → Shuffle) (fates : Fates) (store : Store) :
    (request : Request) → RedisReply request × Store
  | .getConnection =>
      (match fates .getConnection with
        | .done => some ()
        | _ => none, store)
  | .command command =>
      match fates (.command command) with
      | .done => (some (store.answer listing command), store.apply command)
      | .refused => (none, store)
      | .lost => (none, store.apply command)

end Store

namespace RedisRateLimit.Fallible

def ask (request : Request) : FallibleProgram (RedisReply request) := Program.perform request

def operationFailed : RateLimitError := .limit (utf8 "Redis operation failed")

def sumCounts : List Text → Nat → FallibleProgram Nat
  | [], total => pure total
  | key :: keys, total => do
      let count ← ask (.command (.get key))
      sumCounts keys (total + usizeOrZero (count.getD none))

def acquireCounter (pattern key : Text) (limit : Nat) (reason : Text) :
    FallibleProgram (Except RateLimitError Unit) := do
  match ← ask (.command (.keys pattern)) with
  | none => return .error operationFailed
  | some keys =>
      let total ← sumCounts keys 0
      if limit ≤ total then
        return .error (.limit reason)
      match ← ask (.command (.incr key)) with
      | none => return .error operationFailed
      | some count => if count < 0 then return .error operationFailed else return .ok ()

variable (self : RedisRateLimit)

def acquireIp (addr : IpAddr) : FallibleProgram (Except RateLimitError Unit) :=
  if 0 < self.perIpLimit then
    acquireCounter (connectionsKey self.keyPrefix ipKind addr.toText wildcard)
      (self.ipInstanceKey addr) self.perIpLimit
      (utf8 "Per-IP connection limit reached for " ++ addr.toText)
  else pure (.ok ())

def acquireApp : Option Text → FallibleProgram (Except RateLimitError Unit)
  | some app =>
      acquireCounter (connectionsKey self.keyPrefix appKind app wildcard)
        (self.appInstanceKey app) ((self.perAppLimit app).getD 0)
        (utf8 "Per-app connection limit reached for " ++ app)
  | none => pure (.ok ())

def tryAcquire (addr : IpAddr) (app : Option Text) :
    FallibleProgram (Except RateLimitError Ticket) := do
  match ← ask .getConnection with
  | none => return .error (.limit (utf8 "Redis connection failed"))
  | some () =>
      match ← acquireIp self addr with
      | .error e => return .error e
      | .ok () =>
          match ← acquireApp self app with
          | .error e => return .error e
          | .ok () => return .ok { addr := addr, app := app }

def release (addr : IpAddr) (app : Option Text) : FallibleProgram Unit := do
  match ← ask .getConnection with
  | none => return ()
  | some () =>
      if 0 < self.perIpLimit then
        let _ ← ask (.command (.decr (self.ipInstanceKey addr)))
      match app with
      | some app =>
          let _ ← ask (.command (.decr (self.appInstanceKey app)))
      | none => pure ()

/-! ## Without failures -/

variable (listing : Text → Shuffle)

def faultless : Fates := fun _ => .done

theorem exec_sumCounts_faultless (keys : List Text) (total : Nat) (store : Store) :
    (sumCounts keys total).exec (Store.attempt listing faultless) store =
      (RedisRateLimit.sumCounts keys total).exec (Store.service listing) store := by
  induction keys generalizing total store with
  | nil => rfl
  | cons key keys ih =>
      simp only [sumCounts, ask, RedisRateLimit.sumCounts, Program.perform_bind, Program.exec_call]
      exact ih _ _

theorem exec_acquireCounter_faultless (pattern key : Text) (limit : Nat) (reason : Text)
    (store : Store) :
    (acquireCounter pattern key limit reason).exec (Store.attempt listing faultless) store =
      (RedisRateLimit.acquireCounter pattern key limit reason).exec (Store.service listing)
        store := by
  have hend : ∀ (count : Int) (store : Store),
      (if count < 0 then pure (.error operationFailed) else pure (.ok ()) :
        FallibleProgram (Except RateLimitError Unit)).exec (Store.attempt listing faultless) store =
      (if count < 0 then pure (.error (.limit (utf8 "Redis operation failed"))) else pure (.ok ()) :
        RedisProgram (Except RateLimitError Unit)).exec (Store.service listing) store := by
    intro count store
    split <;> rfl
  simp only [acquireCounter, ask, RedisRateLimit.acquireCounter, Program.perform_bind,
    Program.exec_call, Store.attempt, faultless, Program.exec_bind, Store.service,
    exec_sumCounts_faultless]
  generalize (RedisRateLimit.sumCounts _ 0).exec _ _ = summed
  by_cases hfull : limit ≤ summed.1
  · rw [if_pos hfull, if_pos hfull]
    rfl
  · rw [if_neg hfull, if_neg hfull, Program.exec_call, Program.exec_call]
    exact hend _ _

/-- Where nothing fails, the limiter is the one that takes no failures into account. -/
theorem exec_tryAcquire_faultless (addr : IpAddr) (app : Option Text) (store : Store) :
    (tryAcquire self addr app).exec (Store.attempt listing faultless) store =
      (self.tryAcquire addr app).exec (Store.service listing) store := by
  have hip : (acquireIp self addr).exec (Store.attempt listing faultless) store =
      (self.acquireIp addr).exec (Store.service listing) store := by
    simp only [acquireIp, RedisRateLimit.acquireIp]
    split
    · exact exec_acquireCounter_faultless listing ..
    · rfl
  have happ : ∀ store, (acquireApp self app).exec (Store.attempt listing faultless) store =
      (self.acquireApp app).exec (Store.service listing) store := by
    intro store
    cases app with
    | some name => exact exec_acquireCounter_faultless listing ..
    | none => rfl
  simp only [tryAcquire, ask, RedisRateLimit.tryAcquire, Program.perform_bind, Program.exec_call,
    Store.attempt, faultless, Program.exec_bind, hip]
  generalize (self.acquireIp addr).exec _ _ = address
  cases address.1 with
  | error e => rfl
  | ok value =>
      simp only [Program.exec_bind, happ]
      generalize (self.acquireApp app).exec _ _ = name
      cases name.1 with
      | error e => rfl
      | ok value => rfl

theorem exec_release_faultless (addr : IpAddr) (app : Option Text) (store : Store) :
    (release self addr app).exec (Store.attempt listing faultless) store =
      (self.release addr app).exec (Store.service listing) store := by
  simp only [release, ask, RedisRateLimit.release, Program.perform_bind, Program.exec_call,
    Store.attempt, faultless]
  split
  · cases app <;> rfl
  · cases app <;> rfl

/-! ## What the calls do -/

/-- The record of an acquisition: as without failures, but a request that failed adds nothing. -/
def acquisitionMonitor : Program.Monitor Request RedisReply Acquisition where
  may record
    | .getConnection => True
    | .command (.keys pattern) => ∃ subject rest, record.pending = subject :: rest ∧
        pattern = subject.pattern self.keyPrefix
    | .command (.get key) => ∃ rest sum, record.scan = some { unread := key :: rest, sum := sum }
    | .command (.incr key) => ∃ subject rest sum, record.pending = subject :: rest ∧
        key = subject.key self.keyPrefix self.instanceId.text ∧
        record.scan = some { unread := [], sum := sum } ∧ sum < self.limit subject
    | _ => False
  next record
    | .command (.keys _) => fun keys =>
        { record with scan := keys.map fun keys => { unread := keys, sum := 0 } }
    | .command (.get _) => fun count =>
        { record with
          scan := record.scan.map fun scan =>
            { unread := scan.unread.tail, sum := scan.sum + usizeOrZero (count.getD none) } }
    | .command (.incr _) => fun count =>
        { pending := record.pending.tail
          held := record.held ++ if count.isSome then record.pending.head?.toList else []
          scan := none }
    | _ => fun _ => record

/-- A release gives its counters up one after the other, whether Redis learns of it or not. -/
def releaseMonitor : Program.Monitor Request RedisReply (List Subject) where
  may remaining
    | .getConnection => True
    | .command (.decr key) => ∃ subject rest, remaining = subject :: rest ∧
        key = subject.key self.keyPrefix self.instanceId.text
    | _ => False
  next remaining
    | .command (.decr _) => fun _ => remaining.tail
    | _ => fun _ => remaining

theorem sumCounts_obeys (keys : List Text) (total : Nat) {record : Acquisition}
    (hscan : record.scan = some { unread := keys, sum := total }) :
    (sumCounts keys total).Obeys (acquisitionMonitor self)
      (fun final sum => final = { record with scan := some { unread := [], sum := sum } })
      record := by
  induction keys generalizing total record with
  | nil =>
      cases record
      simp only at hscan
      rw [hscan]
      rfl
  | cons key keys ih =>
      refine ⟨⟨keys, total, hscan⟩, fun count => ?_⟩
      have hnext : ((acquisitionMonitor self).next record (.command (.get key)) count).scan =
          some { unread := keys, sum := total + usizeOrZero (count.getD none) } := by
        simp [acquisitionMonitor, hscan]
      exact ih _ hnext

theorem acquireCounter_obeys (subject : Subject) (rest : List Subject) (reason : Text)
    {record : Acquisition} (hpending : record.pending = subject :: rest) :
    (acquireCounter (subject.pattern self.keyPrefix)
        (subject.key self.keyPrefix self.instanceId.text) (self.limit subject) reason).Obeys
      (acquisitionMonitor self)
      (fun final result => result = .ok () →
        final = { pending := rest, held := record.held ++ [subject], scan := none })
      record := by
  refine ⟨⟨subject, rest, hpending, rfl⟩, fun keys => ?_⟩
  cases keys with
  | none => exact fun h => absurd h (by simp)
  | some keys =>
      refine (sumCounts_obeys self keys 0 rfl).bind ?_
      rintro final total rfl
      by_cases hfull : self.limit subject ≤ total
      · simp only [hfull, if_true]
        exact fun h => absurd h (by simp)
      · simp only [hfull, if_false]
        refine ⟨⟨subject, rest, total, hpending, rfl, rfl, by omega⟩, fun count => ?_⟩
        cases count with
        | none => exact fun h => absurd h (by simp)
        | some count =>
            show Program.Obeys _ _ (if (show Int from count) < 0 then .done _ else .done _) _
            split
            · exact fun h => absurd h (by simp)
            · intro _
              simp [acquisitionMonitor, hpending]

theorem acquireIp_obeys (addr : IpAddr) (rest : List Subject) :
    (acquireIp self addr).Obeys (acquisitionMonitor self)
      (fun final result => result = .ok () → final =
        { pending := rest
          held := if 0 < self.perIpLimit then [.ip addr] else []
          scan := none })
      { pending := (if 0 < self.perIpLimit then [.ip addr] else []) ++ rest
        held := []
        scan := none } := by
  simp only [acquireIp]
  split
  · exact acquireCounter_obeys self (.ip addr) rest _ rfl
  · exact fun _ => rfl

theorem acquireApp_obeys (app : Option Text) (held : List Subject) :
    (acquireApp self app).Obeys (acquisitionMonitor self)
      (fun final result => result = .ok () → final =
        { pending := [], held := held ++ (app.map .app).toList, scan := none })
      { pending := (app.map .app).toList, held := held, scan := none } := by
  cases app with
  | some app => exact acquireCounter_obeys self (.app app) [] _ rfl
  | none => exact fun _ => by simp

theorem tryAcquire_obeys (addr : IpAddr) (app : Option Text) :
    (tryAcquire self addr app).Obeys (acquisitionMonitor self)
      (fun final result => ∀ ticket, result = .ok ticket → final.held = self.subjects ticket)
      { pending := self.subjects { addr := addr, app := app }, held := [], scan := none } := by
  refine ⟨trivial, fun connection => ?_⟩
  cases connection with
  | none => exact fun ticket h => absurd h (by simp)
  | some connection =>
      refine (acquireIp_obeys self addr (app.map .app).toList).bind ?_
      intro counted result hcounted
      cases result with
      | error e => exact fun ticket h => absurd h (by simp)
      | ok value =>
          rw [hcounted rfl]
          refine (acquireApp_obeys self app _).bind ?_
          intro final result hfinal
          cases result with
          | error e => exact fun ticket h => absurd h (by simp)
          | ok value =>
              rw [hfinal rfl]
              intro ticket h
              obtain rfl := Except.ok.inj h
              rfl

theorem release_obeys (addr : IpAddr) (app : Option Text) :
    (release self addr app).Obeys (releaseMonitor self) (fun _ _ => True)
      (self.subjects { addr := addr, app := app }) := by
  refine ⟨trivial, fun connection => ?_⟩
  cases connection with
  | none => trivial
  | some connection =>
      simp only [RedisConfig.subjects]
      split
      · cases app with
        | some app =>
            exact ⟨⟨.ip addr, [.app app], rfl, rfl⟩,
              fun _ => ⟨⟨.app app, [], rfl, rfl⟩, fun _ => trivial⟩⟩
        | none => exact ⟨⟨.ip addr, [], rfl, rfl⟩, fun _ => trivial⟩
      · cases app with
        | some app => exact ⟨⟨.app app, [], rfl, rfl⟩, fun _ => trivial⟩
        | none => trivial

end RedisRateLimit.Fallible

/-! ## Counters and holds -/

/-- How far a counter is ahead of the holds on it. -/
def excess (keyPrefix : Text) (store : Store) (holds : List Hold) (counter : Hold) : Int :=
  store.value (counter.key keyPrefix) -
    holds.countP fun hold => hold.key keyPrefix = counter.key keyPrefix

section Excess

variable {keyPrefix : Text} {store : Store} {holds holds' : List Hold}

theorem excess_perm (h : holds.Perm holds') (counter : Hold) :
    excess keyPrefix store holds counter = excess keyPrefix store holds' counter := by
  rw [excess, excess, h.countP_eq]

theorem excess_le_of_subperm (h : holds'.Subperm holds) (counter : Hold) :
    excess keyPrefix store holds counter ≤ excess keyPrefix store holds' counter := by
  have hle := h.countP_le fun hold => hold.key keyPrefix = counter.key keyPrefix
  simp only [excess]
  omega

theorem excess_incr (hold counter : Hold) :
    excess keyPrefix (store.apply (.incr (hold.key keyPrefix))) (hold :: holds) counter =
      excess keyPrefix store holds counter := by
  rw [excess, excess, Store.apply, Store.value_insert, List.countP_cons]
  by_cases hkey : counter.key keyPrefix = hold.key keyPrefix
  · simp only [hkey, decide_true, if_true]
    omega
  · simp only [hkey, Ne.symm hkey, decide_false, if_false]
    simp

theorem excess_decr (hold counter : Hold) :
    excess keyPrefix (store.apply (.decr (hold.key keyPrefix))) holds counter =
      excess keyPrefix store (hold :: holds) counter := by
  rw [excess, excess, Store.apply, Store.value_insert, List.countP_cons]
  by_cases hkey : counter.key keyPrefix = hold.key keyPrefix
  · simp only [hkey, decide_true, if_true]
    omega
  · simp only [hkey, Ne.symm hkey, decide_false, if_false]
    simp

theorem excess_cons_le (hold counter : Hold) :
    excess keyPrefix store (hold :: holds) counter ≤ excess keyPrefix store holds counter :=
  excess_le_of_subperm (List.sublist_cons_self hold holds).subperm counter

end Excess

namespace RedisRateLimit.Fallible

variable {self : RedisRateLimit} {store : Store} {listing : Text → Shuffle} {fates : Fates}
variable {request : Request}

/-- A request of an acquisition brings the counters no closer to the holds. -/
theorem excess_acquisition {record : Acquisition}
    (h : (acquisitionMonitor self).may record request) (others : List Hold) (counter : Hold) :
    excess self.keyPrefix store (holdsOf self.instanceId record.held ++ others) counter ≤
      excess self.keyPrefix (store.attempt listing fates request).2
        (holdsOf self.instanceId ((acquisitionMonitor self).next record request
          (store.attempt listing fates request).1).held ++ others) counter := by
  cases request with
  | getConnection => exact le_rfl
  | command command =>
      cases command with
      | keys pattern =>
          simp only [Store.attempt]
          cases fates (.command (.keys pattern)) <;> exact le_rfl
      | get key =>
          simp only [Store.attempt]
          cases fates (.command (.get key)) <;> exact le_rfl
      | incr key =>
          obtain ⟨subject, rest, sum, hpending, rfl, -, -⟩ := h
          -- the counter is ahead by one until the subject is held
          have hincr : excess self.keyPrefix
              (store.apply (.incr (subject.key self.keyPrefix self.instanceId.text)))
              (⟨subject, self.instanceId⟩ :: (holdsOf self.instanceId record.held ++ others))
              counter = excess self.keyPrefix store
                (holdsOf self.instanceId record.held ++ others) counter :=
            excess_incr ⟨subject, self.instanceId⟩ counter
          have hheld : (holdsOf self.instanceId (record.held ++ [subject]) ++ others).Perm
              (⟨subject, self.instanceId⟩ :: (holdsOf self.instanceId record.held ++ others)) := by
            simp only [holdsOf, List.map_append, List.map_singleton, List.append_assoc,
              List.singleton_append]
            exact List.perm_middle
          simp only [Store.attempt]
          cases fates (.command (.incr (subject.key self.keyPrefix self.instanceId.text))) with
          | done =>
              simp only [acquisitionMonitor, hpending, List.head?_cons, Option.toList_some,
                Option.isSome_some, if_true]
              rw [excess_perm hheld, hincr]
          | refused =>
              simp [acquisitionMonitor]
          | lost =>
              simp only [acquisitionMonitor, Option.isSome_none, Bool.false_eq_true, if_false,
                List.append_nil]
              rw [← hincr]
              exact excess_cons_le _ _
      | _ => exact h.elim

theorem excess_release {remaining : List Subject}
    (h : (releaseMonitor self).may remaining request) (others : List Hold) (counter : Hold) :
    excess self.keyPrefix store (holdsOf self.instanceId remaining ++ others) counter ≤
      excess self.keyPrefix (store.attempt listing fates request).2
        (holdsOf self.instanceId ((releaseMonitor self).next remaining request
          (store.attempt listing fates request).1) ++ others) counter := by
  cases request with
  | getConnection => exact le_rfl
  | command command =>
      cases command with
      | decr key =>
          obtain ⟨subject, rest, rfl, rfl⟩ := h
          have hdecr : excess self.keyPrefix
              (store.apply (.decr (subject.key self.keyPrefix self.instanceId.text)))
              (holdsOf self.instanceId rest ++ others) counter =
              excess self.keyPrefix store
                (⟨subject, self.instanceId⟩ :: (holdsOf self.instanceId rest ++ others)) counter :=
            excess_decr ⟨subject, self.instanceId⟩ counter
          simp only [Store.attempt]
          cases fates (.command (.decr (subject.key self.keyPrefix self.instanceId.text))) with
          | done => exact hdecr.ge
          | refused => exact excess_cons_le _ _
          | lost => exact hdecr.ge
      | _ => exact h.elim

end RedisRateLimit.Fallible

/-! ## Every interleaving -/

/-- A call in progress, with the subjects that it has counted or has still to give up. -/
inductive FallibleJob where
  | acquire (program : FallibleProgram (Except RateLimitError Ticket)) (record : Acquisition)
  | release (program : FallibleProgram Unit) (remaining : List Subject)

def FallibleJob.held : FallibleJob → List Subject
  | .acquire _ record => record.held
  | .release _ remaining => remaining

structure FallibleTask where
  instanceId : Uuid
  job : FallibleJob

/-- Instances that share a Redis which may fail at any request. -/
structure FallibleCluster where
  store : Store
  available : Uuid → Nat
  tasks : List FallibleTask
  tickets : List IssuedTicket

inductive FallibleEvent where
  | tryAcquire (id : Uuid) (addr : IpAddr) (app : Option Text)
  /-- A ticket is dropped. -/
  | drop (index : Nat)
  /-- A call makes its next request, or returns. -/
  | resume (index : Nat) (listing : Text → Shuffle) (fate : Fate)

namespace FallibleCluster

open RedisRateLimit (Fallible.tryAcquire Fallible.release Fallible.acquisitionMonitor
  Fallible.releaseMonitor)

variable (config : RedisConfig)

def start (store : Store) (permits : Uuid → Nat) : FallibleCluster where
  store := store
  available := permits
  tasks := []
  tickets := []

def holds (x : FallibleCluster) : List Hold :=
  x.tasks.flatMap (fun task => holdsOf task.instanceId task.job.held) ++
    x.tickets.flatMap (IssuedTicket.holds config)

/-- The permit comes first. Without one Redis is not asked. -/
def tryAcquire (x : FallibleCluster) (id : Uuid) (addr : IpAddr) (app : Option Text) :
    FallibleCluster :=
  if x.available id = 0 then x
  else
    { x with
      available := Function.update x.available id (x.available id - 1)
      tasks := x.tasks ++
        [{ instanceId := id
           job := .acquire (Fallible.tryAcquire (config.limiter id) addr app)
            { pending := config.subjects { addr := addr, app := app }
              held := []
              scan := none } }] }

def drop (x : FallibleCluster) (index : Nat) : FallibleCluster :=
  match x.tickets[index]? with
  | some { instanceId := id, ticket := ticket } =>
      { x with
        tickets := x.tickets.eraseIdx index
        tasks := x.tasks ++
          [{ instanceId := id
             job := .release (Fallible.release (config.limiter id) ticket.addr ticket.app)
              (config.subjects ticket) }] }
  | none => x

/-- The call has returned, and its permit is free. -/
def returnPermit (x : FallibleCluster) (index : Nat) (id : Uuid) : FallibleCluster :=
  { x with
    available := Function.update x.available id (x.available id + 1)
    tasks := x.tasks.eraseIdx index }

def resume (x : FallibleCluster) (index : Nat) (listing : Text → Shuffle) (fate : Fate) :
    FallibleCluster :=
  match x.tasks[index]? with
  | some { instanceId := id, job := .acquire (.call request next) record } =>
      let attempted := x.store.attempt listing (fun _ => fate) request
      { x with
        store := attempted.2
        tasks := x.tasks.set index
          { instanceId := id
            job := .acquire (next attempted.1)
              ((Fallible.acquisitionMonitor (config.limiter id)).next record request
                attempted.1) } }
  | some { instanceId := id, job := .acquire (.done (.ok ticket)) _ } =>
      { x with
        tasks := x.tasks.eraseIdx index
        tickets := x.tickets ++ [{ instanceId := id, ticket := ticket }] }
  | some { instanceId := id, job := .acquire (.done (.error _)) _ } => x.returnPermit index id
  | some { instanceId := id, job := .release (.call request next) remaining } =>
      let attempted := x.store.attempt listing (fun _ => fate) request
      { x with
        store := attempted.2
        tasks := x.tasks.set index
          { instanceId := id
            job := .release (next attempted.1)
              ((Fallible.releaseMonitor (config.limiter id)).next remaining request
                attempted.1) } }
  | some { instanceId := id, job := .release (.done _) _ } => x.returnPermit index id
  | none => x

def step (x : FallibleCluster) : FallibleEvent → FallibleCluster
  | .tryAcquire id addr app => x.tryAcquire config id addr app
  | .drop index => x.drop config index
  | .resume index listing fate => x.resume config index listing fate

end FallibleCluster

/-- The rest of the call keeps to its record. -/
def FallibleTask.Obeys (config : RedisConfig) (task : FallibleTask) : Prop :=
  match task.job with
  | .acquire program record =>
      program.Obeys (RedisRateLimit.Fallible.acquisitionMonitor (config.limiter task.instanceId))
        (fun final result => ∀ ticket, result = .ok ticket → final.held = config.subjects ticket)
        record
  | .release program remaining =>
      program.Obeys (RedisRateLimit.Fallible.releaseMonitor (config.limiter task.instanceId))
        (fun _ _ => True) remaining

namespace FallibleCluster

/-- Every counter is ahead of the holds on it by at least `base`, and every permit is available,
or in a ticket, or in a call. -/
structure Inv (config : RedisConfig) (permits : Uuid → Nat) (base : Hold → Int)
    (x : FallibleCluster) : Prop where
  obeys : ∀ task ∈ x.tasks, task.Obeys config
  excess : ∀ counter, base counter ≤ excess config.keyPrefix x.store (x.holds config) counter
  permits : ∀ id, x.available id + x.tasks.countP (·.instanceId = id) +
    x.tickets.countP (·.instanceId = id) = permits id

variable {config : RedisConfig} {permits : Uuid → Nat} {base : Hold → Int} {x : FallibleCluster}
variable {index : Nat} {task : FallibleTask}

theorem tasks_perm (htask : x.tasks[index]? = some task) :
    x.tasks.Perm (task :: x.tasks.eraseIdx index) := by
  obtain ⟨hlt, rfl⟩ := List.getElem?_eq_some_iff.mp htask
  exact (List.getElem_cons_eraseIdx_perm hlt).symm

theorem set_perm (htask : x.tasks[index]? = some task) (next : FallibleTask) :
    (x.tasks.set index next).Perm (next :: x.tasks.eraseIdx index) := by
  obtain ⟨hlt, -⟩ := List.getElem?_eq_some_iff.mp htask
  have hlt' : index < (x.tasks.set index next).length := by rwa [List.length_set]
  have hperm := (List.getElem_cons_eraseIdx_perm hlt').symm
  rwa [List.getElem_set_self, List.eraseIdx_set_eq] at hperm

/-- What all but one of the calls hold. -/
def othersHold (config : RedisConfig) (x : FallibleCluster) (index : Nat) : List Hold :=
  (x.tasks.eraseIdx index).flatMap (fun task => holdsOf task.instanceId task.job.held) ++
    x.tickets.flatMap (IssuedTicket.holds config)

theorem holds_perm {tasks others : List FallibleTask} (h : tasks.Perm (task :: others))
    (store : Store) (available : Uuid → Nat) (tickets : List IssuedTicket) :
    (holds config ⟨store, available, tasks, tickets⟩).Perm
      (holdsOf task.instanceId task.job.held ++
        (others.flatMap (fun task => holdsOf task.instanceId task.job.held) ++
          tickets.flatMap (IssuedTicket.holds config))) := by
  have hperm := h.flatMap_right fun task => holdsOf task.instanceId task.job.held
  rw [List.flatMap_cons] at hperm
  rw [← List.append_assoc]
  exact hperm.append_right _

/-- A call goes on: its own holds change with the store. -/
theorem Inv.setTask (h : x.Inv config permits base) (htask : x.tasks[index]? = some task)
    {store : Store} {next : FallibleTask} (hid : next.instanceId = task.instanceId)
    (hobeys : next.Obeys config)
    (hexcess : ∀ counter,
      RollupBoost.excess config.keyPrefix x.store
        (holdsOf task.instanceId task.job.held ++ x.othersHold config index) counter ≤
      RollupBoost.excess config.keyPrefix store
        (holdsOf task.instanceId next.job.held ++ x.othersHold config index) counter) :
    Inv config permits base { x with store := store, tasks := x.tasks.set index next } where
  obeys := by
    intro other hother
    obtain hmem | rfl := List.mem_or_eq_of_mem_set hother
    · exact h.obeys other hmem
    · exact hobeys
  excess := by
    intro counter
    have hbefore := h.excess counter
    rw [excess_perm (holds_perm (tasks_perm htask) x.store x.available x.tickets)] at hbefore
    rw [excess_perm (holds_perm (set_perm htask next) store x.available x.tickets), hid]
    exact hbefore.trans (hexcess counter)
  permits := by
    intro id
    have hbefore := h.permits id
    rw [(tasks_perm htask).countP_eq, List.countP_cons] at hbefore
    rw [(set_perm htask next).countP_eq, List.countP_cons, hid]
    exact hbefore

/-- A call returns, and what it held is forgotten. -/
theorem Inv.returnPermit (h : x.Inv config permits base) (htask : x.tasks[index]? = some task) :
    (x.returnPermit index task.instanceId).Inv config permits base where
  obeys := fun other hother => h.obeys other (List.mem_of_mem_eraseIdx hother)
  excess := by
    intro counter
    have hbefore := h.excess counter
    rw [excess_perm (holds_perm (tasks_perm htask) x.store x.available x.tickets)] at hbefore
    exact hbefore.trans (excess_le_of_subperm (List.sublist_append_right _ _).subperm counter)
  permits := by
    intro id
    have hbefore := h.permits id
    rw [(tasks_perm htask).countP_eq, List.countP_cons] at hbefore
    simp only [FallibleCluster.returnPermit]
    by_cases hid : id = task.instanceId
    · subst hid
      rw [Function.update_self]
      simp only [decide_true, if_true] at hbefore
      omega
    · rw [Function.update_of_ne hid]
      simp only [Ne.symm hid, decide_false, Bool.false_eq_true, if_false] at hbefore
      omega

/-- What the call held is now held by its ticket. -/
theorem Inv.issue (h : x.Inv config permits base) (htask : x.tasks[index]? = some task)
    {ticket : Ticket} (hheld : task.job.held = config.subjects ticket) :
    Inv config permits base
      { x with
        tasks := x.tasks.eraseIdx index
        tickets := x.tickets ++ [{ instanceId := task.instanceId, ticket := ticket }] } where
  obeys := fun other hother => h.obeys other (List.mem_of_mem_eraseIdx hother)
  excess := by
    intro counter
    have hbefore := h.excess counter
    rw [excess_perm (holds_perm (tasks_perm htask) x.store x.available x.tickets), hheld] at hbefore
    refine hbefore.trans (excess_perm ?_ counter).le
    simp only [holds, List.flatMap_append, List.flatMap_singleton, ← List.append_assoc]
    rw [List.append_assoc]
    exact List.perm_append_comm
  permits := by
    intro id
    have hbefore := h.permits id
    rw [(tasks_perm htask).countP_eq, List.countP_cons] at hbefore
    simp only [List.countP_append, List.countP_singleton]
    omega

theorem Inv.tryAcquire (h : x.Inv config permits base) (id : Uuid) (addr : IpAddr)
    (app : Option Text) : (x.tryAcquire config id addr app).Inv config permits base := by
  simp only [FallibleCluster.tryAcquire]
  split
  · exact h
  · next havailable =>
      refine ⟨?_, ?_, ?_⟩
      · intro task htask
        obtain hmem | hnew := List.mem_append.mp htask
        · exact h.obeys task hmem
        · rw [List.mem_singleton.mp hnew]
          exact RedisRateLimit.Fallible.tryAcquire_obeys (config.limiter id) addr app
      · intro counter
        have hbefore := h.excess counter
        simp only [holds, List.flatMap_append, List.flatMap_singleton, FallibleJob.held, holdsOf,
          List.map_nil, List.append_nil] at hbefore ⊢
        exact hbefore
      · intro other
        have hbefore := h.permits other
        simp only [List.countP_append, List.countP_singleton]
        by_cases hid : other = id
        · subst hid
          rw [Function.update_self]
          simp only [decide_true, if_true]
          omega
        · rw [Function.update_of_ne hid]
          simp only [Ne.symm hid, decide_false, Bool.false_eq_true, if_false]
          omega

theorem Inv.drop (h : x.Inv config permits base) (index : Nat) :
    (x.drop config index).Inv config permits base := by
  simp only [FallibleCluster.drop]
  split
  · next id ticket hticket =>
      obtain ⟨hlt, hget⟩ := List.getElem?_eq_some_iff.mp hticket
      have hperm := (List.getElem_cons_eraseIdx_perm hlt).symm
      rw [hget] at hperm
      refine ⟨?_, ?_, ?_⟩
      · intro task htask
        obtain hmem | hnew := List.mem_append.mp htask
        · exact h.obeys task hmem
        · rw [List.mem_singleton.mp hnew]
          exact RedisRateLimit.Fallible.release_obeys (config.limiter id) ticket.addr ticket.app
      · intro counter
        refine (h.excess counter).trans (excess_perm ?_ counter).le
        have htickets := hperm.flatMap_right (IssuedTicket.holds config)
        simp only [holds, List.flatMap_append, List.flatMap_singleton, List.append_assoc]
        exact htickets.append_left _
      · intro other
        have hbefore := h.permits other
        rw [hperm.countP_eq, List.countP_cons] at hbefore
        simp only [List.countP_append, List.countP_singleton] at hbefore ⊢
        omega
  · exact h

theorem Inv.resume (h : x.Inv config permits base) (index : Nat) (listing : Text → Shuffle)
    (fate : Fate) : (x.resume config index listing fate).Inv config permits base := by
  simp only [FallibleCluster.resume]
  split
  · next id request next record htask =>
      have hobeys := h.obeys _ (List.mem_of_getElem? htask)
      refine h.setTask htask rfl (hobeys.2 _) ?_
      exact fun counter => RedisRateLimit.Fallible.excess_acquisition hobeys.1 _ counter
  · next id ticket record htask =>
      have hobeys := h.obeys _ (List.mem_of_getElem? htask)
      exact h.issue htask (hobeys ticket rfl)
  · next htask => exact h.returnPermit htask
  · next id request next remaining htask =>
      have hobeys := h.obeys _ (List.mem_of_getElem? htask)
      refine h.setTask htask rfl (hobeys.2 _) ?_
      exact fun counter => RedisRateLimit.Fallible.excess_release hobeys.1 _ counter
  · next htask => exact h.returnPermit htask
  · exact h

theorem Inv.step (h : x.Inv config permits base) (event : FallibleEvent) :
    (x.step config event).Inv config permits base := by
  cases event with
  | tryAcquire id addr app => exact h.tryAcquire id addr app
  | drop index => exact h.drop index
  | resume index listing fate => exact h.resume index listing fate

theorem inv_start (config : RedisConfig) (store : Store) (permits : Uuid → Nat) :
    (start store permits).Inv config permits
      fun counter => store.value (counter.key config.keyPrefix) where
  obeys := by simp [start]
  excess := by simp [start, holds, RollupBoost.excess]
  permits := by simp [start]

theorem inv_run (events : List FallibleEvent) (h : x.Inv config permits base) :
    (run (step config) x events).Inv config permits base :=
  run_invariant (I := Inv config permits base) (fun _ event h => h.step event) h events

/-- Whatever fails, and in whatever order the requests of the calls of all instances arrive: no
counter falls behind the tickets that it stands for, and what it is ahead of the holds on it it
never makes up. Every permit is available, or in a ticket, or in a call. -/
theorem run_counters_ahead (config : RedisConfig) (store : Store) (permits : Uuid → Nat)
    (events more : List FallibleEvent) :
    (∀ counter : Hold, store.value (counter.key config.keyPrefix) +
      (((run (step config) (start store permits) events).tickets.flatMap
        (IssuedTicket.holds config)).countP
          fun hold => hold.key config.keyPrefix = counter.key config.keyPrefix) ≤
      (run (step config) (start store permits) events).store.value
        (counter.key config.keyPrefix)) ∧
    (∀ counter : Hold,
      excess config.keyPrefix (run (step config) (start store permits) events).store
        ((run (step config) (start store permits) events).holds config) counter ≤
      excess config.keyPrefix (run (step config) (start store permits) (events ++ more)).store
        ((run (step config) (start store permits) (events ++ more)).holds config) counter) ∧
    ∀ id, (run (step config) (start store permits) events).available id +
      (run (step config) (start store permits) events).tasks.countP (·.instanceId = id) +
      (run (step config) (start store permits) events).tickets.countP (·.instanceId = id) =
        permits id := by
  have h := inv_run events (inv_start config store permits)
  refine ⟨fun counter => ?_, fun counter => ?_, h.permits⟩
  · have hahead := (h.excess counter).trans
      (excess_le_of_subperm (List.sublist_append_right _ _).subperm counter)
    simp only [excess] at hahead
    omega
  · rw [run_append]
    exact (inv_run more ⟨h.obeys, fun _ => le_rfl, h.permits⟩).excess counter

end FallibleCluster

end RollupBoost
