import RollupBoost.RateLimit.Keys

/-!
# Instances that share one Redis

Several instances run against the same Redis. Each call of `try_acquire`, each drop of a
ticket and each cleanup round is a task; an event lets one task send its next command, so any
interleaving of commands is a list of events. An instance registers its heartbeat before it
does anything else, under an id that was never used before, and no heartbeat expires.

Beside its program, a task carries a record of what it has sent and received. The records are
not part of the code. They are what the statements about interleavings are made of: which
counters a task has incremented, what it has read so far, how many increments it missed since
it listed the counters, and what a cleanup has listed.
-/

namespace RollupBoost

open Machine

/-! ## Records -/

/-- The counters that were listed and are not read yet, and the sum of those that were. -/
structure Scan where
  unread : List Text
  sum : Nat

structure Acquisition where
  pending : List Subject
  held : List Subject
  scan : Option Scan

/-- An increment of the key is one that the scan should count, but will not. -/
def Acquisition.misses (keyPrefix : Text) (record : Acquisition) (key : Text) : Bool :=
  match record.pending, record.scan with
  | subject :: _, some scan =>
      globMatches (subject.pattern keyPrefix) key && !scan.unread.contains key
  | _, _ => false

structure Cleaning where
  heartbeats : Option (List Text)
  ipKeys : Option (List Text)
  appKeys : Option (List Text)
  targets : List Text

namespace RedisConfig

variable (config : RedisConfig)

def limit : Subject → Nat
  | .ip _ => config.perIpLimit
  | .app name => (config.perAppLimit name).getD 0

/-- The subjects that a ticket is counted under. -/
def subjects (ticket : Ticket) : List Subject :=
  (if 0 < config.perIpLimit then [.ip ticket.addr] else []) ++ (ticket.app.map .app).toList

def limiter (id : Uuid) : RedisRateLimit := { config with instanceId := id }

end RedisConfig

namespace RedisRateLimit

variable (self : RedisRateLimit)

/-- An acquisition lists the counters of a subject, reads them one after the other, and
increments its own if the sum is below the limit. -/
def acquisitionMonitor : Program.Monitor Command Answer Acquisition where
  may record
    | .keys pattern => ∃ subject rest, record.pending = subject :: rest ∧
        pattern = subject.pattern self.keyPrefix
    | .get key => ∃ rest sum, record.scan = some { unread := key :: rest, sum := sum }
    | .incr key => ∃ subject rest sum, record.pending = subject :: rest ∧
        key = subject.key self.keyPrefix self.instanceId.text ∧
        record.scan = some { unread := [], sum := sum } ∧ sum < self.limit subject
    | _ => False
  next record
    | .keys _ => fun keys => { record with scan := some { unread := keys, sum := 0 } }
    | .get _ => fun count =>
        { record with
          scan := record.scan.map fun scan =>
            { unread := scan.unread.tail, sum := scan.sum + usizeOrZero count } }
    | .incr _ => fun _ =>
        { pending := record.pending.tail
          held := record.held ++ record.pending.head?.toList
          scan := none }
    | _ => fun _ => record

/-- A release decrements the counters that are left, one after the other. -/
def releaseMonitor : Program.Monitor Command Answer (List Subject) where
  may remaining
    | .decr key => ∃ subject rest, remaining = subject :: rest ∧
        key = subject.key self.keyPrefix self.instanceId.text
    | _ => False
  next remaining
    | .decr _ => fun _ => remaining.tail
    | _ => fun _ => remaining

/-- An instance that is found in the counters, but not in the heartbeats. -/
def LooksStale (record : Cleaning) (instanceId : Text) : Prop :=
  (instanceId ∈ nthParts 4 (record.ipKeys.getD []) ∨
    instanceId ∈ nthParts 4 (record.appKeys.getD [])) ∧
  instanceId ≠ self.instanceId.text ∧ instanceId ∉ nthParts 2 (record.heartbeats.getD [])

/-- A cleanup lists heartbeats, counters of addresses and counters of apps in this order. Then
it lists the counters of instances that look stale, and deletes them. -/
def cleaningMonitor : Program.Monitor Command Answer Cleaning where
  may record
    | .keys pattern =>
        match record.heartbeats, record.ipKeys, record.appKeys with
        | none, _, _ => pattern = heartbeatKey self.keyPrefix wildcard
        | some _, none, _ => pattern = connectionsKey self.keyPrefix ipKind wildcard wildcard
        | some _, some _, none => pattern = connectionsKey self.keyPrefix appKind wildcard wildcard
        | some _, some _, some _ => ∃ instanceId, self.LooksStale record instanceId ∧
            (pattern = connectionsKey self.keyPrefix ipKind wildcard instanceId ∨
              pattern = connectionsKey self.keyPrefix appKind wildcard instanceId)
    | .del key => key ∈ record.targets
    | _ => False
  next record
    | .keys _ => fun keys =>
        match record.heartbeats, record.ipKeys, record.appKeys with
        | none, _, _ => { record with heartbeats := some keys }
        | some _, none, _ => { record with ipKeys := some keys }
        | some _, some _, none => { record with appKeys := some keys }
        | some _, some _, some _ => { record with targets := record.targets ++ keys }
    | _ => fun _ => record

/-! ### The programs keep to their records -/

theorem sumCounts_obeys (keys : List Text) (total : Nat) {record : Acquisition}
    (hscan : record.scan = some { unread := keys, sum := total }) :
    (sumCounts keys total).Obeys self.acquisitionMonitor
      (fun final sum => final = { record with scan := some { unread := [], sum := sum } })
      record := by
  induction keys generalizing total record with
  | nil =>
      cases record
      simp only at hscan
      rw [hscan]
      rfl
  | cons key keys ih =>
      refine ⟨⟨keys, total, hscan⟩, fun count => ?_⟩
      have hnext : (self.acquisitionMonitor.next record (.get key) count).scan =
          some { unread := keys, sum := total + usizeOrZero count } := by
        simp [acquisitionMonitor, hscan]
      exact ih (total + usizeOrZero count) hnext

theorem acquireCounter_obeys (subject : Subject) (rest : List Subject) (reason : Text)
    {record : Acquisition} (hpending : record.pending = subject :: rest) :
    (acquireCounter (subject.pattern self.keyPrefix)
        (subject.key self.keyPrefix self.instanceId.text) (self.limit subject) reason).Obeys
      self.acquisitionMonitor
      (fun final result => result = .ok () →
        final = { pending := rest, held := record.held ++ [subject], scan := none })
      record := by
  refine ⟨⟨subject, rest, hpending, rfl⟩, fun keys => ?_⟩
  refine (self.sumCounts_obeys keys 0 rfl).bind ?_
  rintro final total rfl
  by_cases hfull : self.limit subject ≤ total
  · simp only [hfull, if_true]
    exact fun h => absurd h (by simp)
  · simp only [hfull, if_false]
    refine ⟨⟨subject, rest, total, hpending, rfl, rfl, by omega⟩, fun count => ?_⟩
    show Program.Obeys _ _ (if (show Int from count) < 0 then .done _ else .done _) _
    split
    · exact fun h => absurd h (by simp)
    · intro _
      simp [acquisitionMonitor, hpending]

theorem acquireIp_obeys (addr : IpAddr) (rest : List Subject) :
    (self.acquireIp addr).Obeys self.acquisitionMonitor
      (fun final result => result = .ok () → final =
        { pending := rest
          held := if 0 < self.perIpLimit then [.ip addr] else []
          scan := none })
      { pending := (if 0 < self.perIpLimit then [.ip addr] else []) ++ rest
        held := []
        scan := none } := by
  simp only [acquireIp]
  split
  · exact self.acquireCounter_obeys (.ip addr) rest _ rfl
  · exact fun _ => rfl

theorem acquireApp_obeys (app : Option Text) (held : List Subject) :
    (self.acquireApp app).Obeys self.acquisitionMonitor
      (fun final result => result = .ok () → final =
        { pending := [], held := held ++ (app.map .app).toList, scan := none })
      { pending := (app.map .app).toList, held := held, scan := none } := by
  cases app with
  | some app => exact self.acquireCounter_obeys (.app app) [] _ rfl
  | none => exact fun _ => by simp

theorem tryAcquire_obeys (addr : IpAddr) (app : Option Text) :
    (self.tryAcquire addr app).Obeys self.acquisitionMonitor
      (fun final result => ∀ ticket, result = .ok ticket → final.held = self.subjects ticket)
      { pending := self.subjects { addr := addr, app := app }, held := [], scan := none } := by
  refine (self.acquireIp_obeys addr (app.map .app).toList).bind ?_
  intro counted result hcounted
  cases result with
  | error e => exact fun ticket h => absurd h (by simp)
  | ok _ =>
      rw [hcounted rfl]
      refine (self.acquireApp_obeys app _).bind ?_
      intro final result hfinal
      cases result with
      | error e => exact fun ticket h => absurd h (by simp)
      | ok _ =>
          rw [hfinal rfl]
          intro ticket h
          obtain rfl := Except.ok.inj h
          rfl

theorem release_obeys (addr : IpAddr) (app : Option Text) :
    (self.release addr app).Obeys self.releaseMonitor (fun remaining _ => remaining = [])
      (self.subjects { addr := addr, app := app }) := by
  simp only [release, RedisConfig.subjects]
  split
  · cases app with
    | some app =>
        exact ⟨⟨.ip addr, [.app app], rfl, rfl⟩, fun _ => ⟨⟨.app app, [], rfl, rfl⟩, fun _ => rfl⟩⟩
    | none => exact ⟨⟨.ip addr, [], rfl, rfl⟩, fun _ => rfl⟩
  · cases app with
    | some app => exact ⟨⟨.app app, [], rfl, rfl⟩, fun _ => rfl⟩
    | none => rfl

/-- A release only ever decrements the counter that is next. -/
theorem releaseMonitor_may {remaining : List Subject} {command : Command}
    (h : self.releaseMonitor.may remaining command) :
    ∃ subject rest, command = .decr (subject.key self.keyPrefix self.instanceId.text) ∧
      remaining = subject :: rest := by
  cases command with
  | decr key =>
      obtain ⟨subject, rest, rfl, rfl⟩ := h
      exact ⟨subject, rest, rfl, rfl⟩
  | keys pattern => exact False.elim h
  | get key => exact False.elim h
  | incr key => exact False.elim h
  | del key => exact False.elim h
  | setEx key value ttl => exact False.elim h

theorem deleteKeys_obeys (keys : List Text) {record : Cleaning}
    (htargets : ∀ key ∈ keys, key ∈ record.targets) :
    (deleteKeys keys).Obeys self.cleaningMonitor (fun final _ => final = record) record := by
  induction keys with
  | nil => rfl
  | cons key keys ih =>
      refine ⟨htargets key List.mem_cons_self, fun _ => ?_⟩
      exact ih fun other hother => htargets other (List.mem_cons_of_mem _ hother)

theorem cleanupInstance_obeys (instanceId : Text) {heartbeats ipKeys appKeys targets : List Text}
    (hstale : self.LooksStale
      { heartbeats := some heartbeats, ipKeys := some ipKeys, appKeys := some appKeys
        targets := targets } instanceId) :
    (self.cleanupInstance instanceId).Obeys self.cleaningMonitor
      (fun final _ => ∃ targets, final =
        { heartbeats := some heartbeats, ipKeys := some ipKeys, appKeys := some appKeys
          targets := targets })
      { heartbeats := some heartbeats, ipKeys := some ipKeys, appKeys := some appKeys
        targets := targets } := by
  refine ⟨⟨instanceId, hstale, .inl rfl⟩, fun ipInstanceKeys => ?_⟩
  refine ⟨⟨instanceId, hstale, .inr rfl⟩, fun appInstanceKeys => ?_⟩
  refine (self.deleteKeys_obeys ipInstanceKeys ?_).bind ?_
  · intro key hkey
    exact List.mem_append_left _ (List.mem_append_right _ hkey)
  rintro final _ rfl
  refine (self.deleteKeys_obeys appInstanceKeys ?_).mono ?_
  · intro key hkey
    exact List.mem_append_right _ hkey
  rintro final _ rfl
  exact ⟨_, rfl⟩

theorem cleanupInstances_obeys (ids : List Text) {heartbeats ipKeys appKeys targets : List Text}
    (hfound : ∀ id ∈ ids, id ∈ nthParts 4 ipKeys ∨ id ∈ nthParts 4 appKeys) :
    (self.cleanupInstances (nthParts 2 heartbeats) ids).Obeys self.cleaningMonitor
      (fun final _ => ∃ targets, final =
        { heartbeats := some heartbeats, ipKeys := some ipKeys, appKeys := some appKeys
          targets := targets })
      { heartbeats := some heartbeats, ipKeys := some ipKeys, appKeys := some appKeys
        targets := targets } := by
  induction ids generalizing targets with
  | nil => exact ⟨targets, rfl⟩
  | cons id ids ih =>
      have hrest := fun other hother => hfound other (List.mem_cons_of_mem id hother)
      simp only [cleanupInstances]
      split
      · next hstale =>
          refine (self.cleanupInstance_obeys id ⟨hfound id List.mem_cons_self, hstale⟩).bind ?_
          rintro final _ ⟨targets, rfl⟩
          exact ih hrest
      · exact ih hrest

theorem cleanupStaleInstances_obeys (ipOrder appOrder : Shuffle) :
    (self.cleanupStaleInstances ipOrder appOrder).Obeys self.cleaningMonitor (fun _ _ => True)
      { heartbeats := none, ipKeys := none, appKeys := none, targets := [] } := by
  refine ⟨rfl, fun heartbeats => ⟨rfl, fun ipKeys => ⟨rfl, fun appKeys => ?_⟩⟩⟩
  refine (self.cleanupInstances_obeys _ ?_).bind ?_
  · intro id hid
    rw [ipOrder.mem_order, List.mem_dedup] at hid
    exact .inl hid
  rintro final _ ⟨targets, rfl⟩
  refine (self.cleanupInstances_obeys _ ?_).mono fun _ _ _ => trivial
  intro id hid
  rw [appOrder.mem_order, List.mem_dedup] at hid
  exact .inr hid

end RedisRateLimit

/-! ## The machine -/

inductive Job where
  | acquire (program : RedisProgram (Except RateLimitError Ticket)) (record : Acquisition)
      (missed : Nat)
  | release (program : RedisProgram Unit) (remaining : List Subject)
  | cleanup (program : RedisProgram Unit) (record : Cleaning)

structure ClusterTask where
  instanceId : Uuid
  job : Job

structure IssuedTicket where
  instanceId : Uuid
  ticket : Ticket
  deriving DecidableEq

/-- `known` are all ids that were ever in use. -/
structure Cluster where
  store : Store
  permits : Uuid → Nat
  instances : List Uuid
  known : List Uuid
  tasks : List ClusterTask
  tickets : List IssuedTicket

inductive ClusterEvent where
  | start (id : Uuid) (instanceLimit : Nat) (now : Int)
  | heartbeat (id : Uuid) (now : Int)
  | tryAcquire (id : Uuid) (addr : IpAddr) (app : Option Text)
  | drop (index : Nat)
  | cleanup (id : Uuid) (ipOrder appOrder : Shuffle)
  | advance (index : Nat) (order : Shuffle)

namespace Job

/-- The subjects whose counters the task has incremented and not yet decremented. -/
def held : Job → List Subject
  | .acquire _ record _ => record.held
  | .release _ remaining => remaining
  | .cleanup _ _ => []

/-- The subject whose counter is incremented next, and what the scan before it missed. -/
def nextIncrement : Job → Option (Subject × Nat)
  | .acquire (.call (.incr _) _) record missed =>
      record.pending.head?.map fun subject => (subject, missed)
  | _ => none

/-- What another task sends may be missed by the scan of this one. -/
def overtake (keyPrefix : Text) : Command → Job → Job
  | .incr key, .acquire program record missed =>
      .acquire program record (if record.misses keyPrefix key then missed + 1 else missed)
  | _, job => job

end Job

namespace Cluster

variable (config : RedisConfig)

/-- No instance has started yet. -/
def start (store : Store) (known : List Uuid) : Cluster where
  store := store
  permits := fun _ => 0
  instances := []
  known := known
  tasks := []
  tickets := []

/-- The answer to a command, when `KEYS` lists in the given order. -/
def reply (x : Cluster) (order : Shuffle) (command : Command) : Answer command :=
  x.store.answer (fun _ => order) command

def without (x : Cluster) (index : Nat) : Cluster :=
  { x with tasks := x.tasks.eraseIdx index }

/-- Redis has run a command of the task at the index, which goes on with another job. -/
def sent (x : Cluster) (index : Nat) (id : Uuid) (command : Command) (job : Job) : Cluster :=
  { x with
    store := x.store.apply command
    tasks := { instanceId := id, job := job } ::
      (x.without index).tasks.map fun task =>
        { task with job := task.job.overtake config.keyPrefix command } }

def returnPermit (x : Cluster) (id : Uuid) : Cluster :=
  { x with permits := Function.update x.permits id (x.permits id + 1) }

def issue (x : Cluster) (id : Uuid) (ticket : Ticket) : Cluster :=
  { x with tickets := x.tickets ++ [{ instanceId := id, ticket := ticket }] }

/-- A new listing misses nothing. -/
def missedAfter : Command → Nat → Nat
  | .keys _, _ => 0
  | _, missed => missed

/-- The next command of the task at the index, or its return. -/
def resume (x : Cluster) (index : Nat) (order : Shuffle) (id : Uuid) : Job → Cluster
  | .acquire (.call command next) record missed =>
      let answer := x.reply order command
      x.sent config index id command
        (.acquire (next answer) ((config.limiter id).acquisitionMonitor.next record command answer)
          (missedAfter command missed))
  | .acquire (.done (.ok ticket)) _ _ => (x.without index).issue id ticket
  | .acquire (.done (.error _)) _ _ => (x.without index).returnPermit id
  | .release (.call command next) remaining =>
      let answer := x.reply order command
      x.sent config index id command
        (.release (next answer) ((config.limiter id).releaseMonitor.next remaining command answer))
  | .release (.done _) _ => (x.without index).returnPermit id
  | .cleanup (.call command next) record =>
      let answer := x.reply order command
      x.sent config index id command
        (.cleanup (next answer) ((config.limiter id).cleaningMonitor.next record command answer))
  | .cleanup (.done _) _ => x.without index

def advance (x : Cluster) (index : Nat) (order : Shuffle) : Cluster :=
  match x.tasks[index]? with
  | none => x
  | some task => x.resume config index order task.instanceId task.job

/-- The task that an event lets go on. -/
def resumed (x : Cluster) : ClusterEvent → Option ClusterTask
  | .advance index _ => x.tasks[index]?
  | _ => none

def begin (x : Cluster) (id : Uuid) (job : Job) : Cluster :=
  { x with tasks := x.tasks ++ [{ instanceId := id, job := job }] }

def step (x : Cluster) : ClusterEvent → Cluster
  | .start id instanceLimit now =>
      if id ∈ x.known then x
      else
        { x with
          store := ((config.limiter id).updateHeartbeat now |>.exec
            (Store.service fun _ => .identity) x.store).2
          permits := Function.update x.permits id instanceLimit
          instances := id :: x.instances
          known := id :: x.known }
  | .heartbeat id now =>
      if id ∈ x.instances then
        { x with
          store := ((config.limiter id).updateHeartbeat now |>.exec
            (Store.service fun _ => .identity) x.store).2 }
      else x
  | .tryAcquire id addr app =>
      if id ∈ x.instances ∧ 0 < x.permits id then
        { x with permits := Function.update x.permits id (x.permits id - 1) }.begin id
          (.acquire ((config.limiter id).tryAcquire addr app)
            { pending := config.subjects { addr := addr, app := app }, held := [], scan := none } 0)
      else x
  | .drop index =>
      match x.tickets[index]? with
      | some issued =>
          { x with tickets := x.tickets.eraseIdx index }.begin issued.instanceId
            (.release ((config.limiter issued.instanceId).release issued.ticket.addr
              issued.ticket.app) (config.subjects issued.ticket))
      | none => x
  | .cleanup id ipOrder appOrder =>
      if id ∈ x.instances then
        x.begin id (.cleanup ((config.limiter id).cleanupStaleInstances ipOrder appOrder)
          { heartbeats := none, ipKeys := none, appKeys := none, targets := [] })
      else x
  | .advance index order => x.advance config index order

end Cluster

/-! ## Tasks keep to their records -/

/-- The rest of the program fits the record. -/
def Job.Faithful (self : RedisRateLimit) : Job → Prop
  | .acquire program record _ => program.Obeys self.acquisitionMonitor
      (fun final result => ∀ ticket, result = .ok ticket → final.held = self.subjects ticket) record
  | .release program remaining =>
      program.Obeys self.releaseMonitor (fun remaining _ => remaining = []) remaining
  | .cleanup program record => program.Obeys self.cleaningMonitor (fun _ _ => True) record

@[simp] theorem Job.held_overtake (keyPrefix : Text) (command : Command) (job : Job) :
    (job.overtake keyPrefix command).held = job.held := by
  fun_cases Job.overtake <;> rfl

@[simp] theorem Job.faithful_overtake {self : RedisRateLimit} (keyPrefix : Text)
    (command : Command) (job : Job) :
    (job.overtake keyPrefix command).Faithful self ↔ job.Faithful self := by
  fun_cases Job.overtake <;> rfl

namespace Cluster

def Faithful (config : RedisConfig) (x : Cluster) : Prop :=
  ∀ task ∈ x.tasks, task.job.Faithful (config.limiter task.instanceId)

variable {config : RedisConfig} {x : Cluster} {index : Nat} {task : ClusterTask}
variable {id : Uuid} {job : Job}

theorem mem_without (h : task ∈ (x.without index).tasks) : task ∈ x.tasks :=
  List.mem_of_mem_eraseIdx h

theorem mem_tasks_begin : task ∈ (x.begin id job).tasks ↔
    task ∈ x.tasks ∨ task = { instanceId := id, job := job } := by
  simp [begin]

theorem mem_tasks_sent {command : Command}
    (h : task ∈ (x.sent config index id command job).tasks) :
    task = { instanceId := id, job := job } ∨ ∃ other ∈ x.tasks, task =
      { other with job := other.job.overtake config.keyPrefix command } := by
  obtain rfl | hmem := List.mem_cons.mp h
  · exact .inl rfl
  · obtain ⟨other, hother, rfl⟩ := List.mem_map.mp hmem
    exact .inr ⟨other, mem_without hother, rfl⟩

theorem faithful_begin (h : x.Faithful config) (hjob : job.Faithful (config.limiter id)) :
    (x.begin id job).Faithful config := by
  intro task htask
  obtain hold | rfl := mem_tasks_begin.mp htask
  · exact h task hold
  · exact hjob

theorem faithful_without (h : x.Faithful config) : (x.without index).Faithful config :=
  fun task htask => h task (mem_without htask)

theorem faithful_sent (h : x.Faithful config) {command : Command}
    (hjob : job.Faithful (config.limiter id)) :
    (x.sent config index id command job).Faithful config := by
  intro task htask
  obtain rfl | ⟨other, hother, rfl⟩ := mem_tasks_sent htask
  · exact hjob
  · rw [Job.faithful_overtake]
    exact h other hother

theorem faithful_resume (h : x.Faithful config) (order : Shuffle)
    (hjob : job.Faithful (config.limiter id)) :
    (x.resume config index order id job).Faithful config := by
  fun_cases resume
  · exact faithful_sent h (hjob.2 _)
  · exact faithful_without h
  · exact faithful_without h
  · exact faithful_sent h (hjob.2 _)
  · exact faithful_without h
  · exact faithful_sent h (hjob.2 _)
  · exact faithful_without h

theorem faithful_step (h : x.Faithful config) (event : ClusterEvent) :
    (x.step config event).Faithful config := by
  fun_cases step
  · exact h
  · exact h
  · exact h
  · exact h
  · exact faithful_begin h ((config.limiter _).tryAcquire_obeys _ _)
  · exact h
  · exact faithful_begin h ((config.limiter _).release_obeys _ _)
  · exact h
  · exact faithful_begin h ((config.limiter _).cleanupStaleInstances_obeys _ _)
  · exact h
  · unfold advance
    split
    · exact h
    · next task htask => exact faithful_resume h _ (h task (List.mem_of_getElem? htask))

end Cluster

/-! ## Holds -/

/-- A connection that an instance has counted for a subject. -/
structure Hold where
  subject : Subject
  instanceId : Uuid

def Hold.key (keyPrefix : Text) (hold : Hold) : Text :=
  hold.subject.key keyPrefix hold.instanceId.text

def holdsOf (id : Uuid) (subjects : List Subject) : List Hold :=
  subjects.map fun subject => { subject := subject, instanceId := id }

def ClusterTask.holds (task : ClusterTask) : List Hold := holdsOf task.instanceId task.job.held

def IssuedTicket.holds (config : RedisConfig) (issued : IssuedTicket) : List Hold :=
  holdsOf issued.instanceId (config.subjects issued.ticket)

namespace Cluster

variable {config : RedisConfig} {x : Cluster} {index : Nat} {id : Uuid} {job : Job}

variable (config) in
/-- The connections counted for tickets and by tasks. -/
def holds (x : Cluster) : List Hold :=
  x.tasks.flatMap ClusterTask.holds ++ x.tickets.flatMap (IssuedTicket.holds config)

theorem holds_begin : ((x.begin id job).holds config).Perm
    (holdsOf id job.held ++ x.holds config) := by
  simp only [holds, begin, List.flatMap_append, List.flatMap_singleton, List.append_assoc]
  exact List.perm_append_comm_assoc _ _ _

theorem holds_of_task {task : ClusterTask} (htask : x.tasks[index]? = some task) :
    (x.holds config).Perm (task.holds ++ (x.without index).holds config) := by
  obtain ⟨hlt, rfl⟩ := List.getElem?_eq_some_iff.mp htask
  have hperm := (List.getElem_cons_eraseIdx_perm hlt).symm.flatMap_right ClusterTask.holds
  simp only [holds, without, ← List.append_assoc]
  exact hperm.append_right _

theorem holds_sent (command : Command) : (x.sent config index id command job).holds config =
    holdsOf id job.held ++ (x.without index).holds config := by
  have hothers : ∀ task : ClusterTask, ClusterTask.holds
      { task with job := task.job.overtake config.keyPrefix command } = task.holds := by
    intro task
    simp [ClusterTask.holds]
  simp only [holds, sent, List.flatMap_cons, List.flatMap_map, hothers, List.append_assoc]
  rfl

theorem holds_issue (ticket : Ticket) : ((x.issue id ticket).holds config).Perm
    (holdsOf id (config.subjects ticket) ++ x.holds config) := by
  simp only [holds, issue, List.flatMap_append, List.flatMap_singleton]
  rw [← List.append_assoc]
  exact List.perm_append_comm

end Cluster

end RollupBoost
