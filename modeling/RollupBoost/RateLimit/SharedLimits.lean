import RollupBoost.RateLimit.Cluster

/-!
# Limits across instances

An acquisition reads the counters of all instances one after the other, compares the sum with
the limit and increments its own counter. Nothing makes this one step. When two instances list
the counters of an address before one of them increments, both find room for the last
connection, and both hand out a ticket.

A hold is a connection that was counted: by a ticket, or by a task on its way to a ticket or to
releasing it. Counters cover holds, since a counter is only ever ahead of them. What a scan has
read, together with the increments that it missed, covers the holds on the counters that it will
not read any more. If it missed nothing, its comparison bounds the holds, and the limit is kept.
-/

namespace RollupBoost

open Machine

/-! ## Counters and scans -/

/-- Every counter is at least the number of holds on it. -/
def Covers (keyPrefix : Text) (store : Store) (holds : List Hold) : Prop :=
  ∀ counter : Hold, (holds.countP (fun hold => hold.key keyPrefix = counter.key keyPrefix) : Int) ≤
    store.value (counter.key keyPrefix)

/-- The sum that a scan has read so far and the increments it missed cover the holds that it
will not read any more. -/
def Bounded (keyPrefix : Text) (holds : List Hold) : Job → Prop
  | .acquire _ record missed => ∀ scan, record.scan = some scan →
      holds.countP (fun hold => record.misses keyPrefix (hold.key keyPrefix)) ≤ scan.sum + missed
  | _ => True

variable {keyPrefix : Text} {store : Store} {holds holds' : List Hold} {hold : Hold}

theorem countP_le_add {p q r : Hold → Bool} (holds : List Hold)
    (h : ∀ hold, p hold = true → q hold = true ∨ r hold = true) :
    holds.countP p ≤ holds.countP q + holds.countP r := by
  induction holds with
  | nil => simp
  | cons hold holds ih =>
      rw [List.countP_cons, List.countP_cons, List.countP_cons]
      have hcases := h hold
      split <;> split <;> split
      all_goals first | omega | simp_all

namespace Covers

theorem subperm (h : Covers keyPrefix store holds) (hsub : holds'.Subperm holds) :
    Covers keyPrefix store holds' := by
  intro counter
  have hle := hsub.countP_le fun hold => hold.key keyPrefix = counter.key keyPrefix
  have hcover := h counter
  omega

theorem incr (hold : Hold) (h : Covers keyPrefix store holds) :
    Covers keyPrefix (store.apply (.incr (hold.key keyPrefix))) (hold :: holds) := by
  intro counter
  have hcover := h counter
  rw [Store.apply, Store.value_insert, List.countP_cons]
  by_cases hkey : counter.key keyPrefix = hold.key keyPrefix
  · simp only [hkey, decide_true, if_true] at hcover ⊢
    omega
  · simp only [hkey, Ne.symm hkey, decide_false, if_false]
    simpa using hcover

theorem decr (h : Covers keyPrefix store (hold :: holds)) :
    Covers keyPrefix (store.apply (.decr (hold.key keyPrefix))) holds := by
  intro counter
  have hcover := h counter
  rw [List.countP_cons] at hcover
  rw [Store.apply, Store.value_insert]
  by_cases hkey : counter.key keyPrefix = hold.key keyPrefix
  · simp only [hkey, decide_true, if_true] at hcover ⊢
    omega
  · simp only [hkey, Ne.symm hkey, decide_false, if_false] at hcover ⊢
    simpa using hcover

/-- A heartbeat is not a counter. -/
theorem heartbeat (h : Covers keyPrefix store holds) (instanceId : Text) (now : Int) :
    Covers keyPrefix (store.insert (heartbeatKey keyPrefix instanceId) now) holds := by
  intro counter
  have hne : counter.key keyPrefix ≠ heartbeatKey keyPrefix instanceId := heartbeatKey_ne.symm
  rw [Store.value_insert, if_neg hne]
  exact h counter

/-- What is held is in the store. -/
theorem mem_store (h : Covers keyPrefix store holds) (hmem : hold ∈ holds) :
    hold.key keyPrefix ∈ store := by
  have hpos : 0 < holds.countP fun other => other.key keyPrefix = hold.key keyPrefix :=
    List.countP_pos_iff.mpr ⟨hold, hmem, by simp⟩
  have hcover := h hold
  exact Store.mem_of_value_ne_zero (by omega)

/-- What is read from a counter covers the holds on it. -/
theorem countP_le_read (h : Covers keyPrefix store holds) (key : Text) :
    holds.countP (fun hold => hold.key keyPrefix = key) ≤ usizeOrZero (store.lookup key) := by
  by_cases hheld : ∃ hold ∈ holds, hold.key keyPrefix = key
  · obtain ⟨hold, -, rfl⟩ := hheld
    have hcover := h hold
    have hread : usizeOrZero (store.lookup (hold.key keyPrefix)) =
        (store.value (hold.key keyPrefix)).toNat := rfl
    omega
  · have hnone : holds.countP (fun hold => hold.key keyPrefix = key) = 0 := by
      rw [List.countP_eq_zero]
      intro hold hmem
      rw [decide_eq_true_eq]
      exact fun heq => hheld ⟨hold, hmem, heq⟩
    omega

theorem countP_le_sum (h : Covers keyPrefix store holds) (keys : List Text) :
    holds.countP (fun hold => hold.key keyPrefix ∈ keys) ≤
      (keys.map fun key => usizeOrZero (store.lookup key)).sum := by
  induction keys with
  | nil => simp
  | cons key keys ih =>
      have hread := h.countP_le_read key
      have hsplit : holds.countP (fun hold => hold.key keyPrefix ∈ key :: keys) ≤
          holds.countP (fun hold => hold.key keyPrefix = key) +
            holds.countP (fun hold => hold.key keyPrefix ∈ keys) := by
        apply countP_le_add
        intro hold hmem
        simpa using hmem
      rw [List.map_cons, List.sum_cons]
      omega

theorem countP_le_total (h : Covers keyPrefix store holds) (pattern : Text) :
    holds.countP (fun hold => globMatches pattern (hold.key keyPrefix)) ≤ store.total pattern := by
  refine (List.countP_mono_left ?_).trans (h.countP_le_sum (store.matching pattern))
  intro hold hmem hmatch
  rw [decide_eq_true_eq, Store.mem_matching]
  exact ⟨h.mem_store hmem, hmatch⟩

end Covers

namespace Bounded

variable {job : Job}

theorem subperm (h : Bounded keyPrefix holds job) (hsub : holds'.Subperm holds) :
    Bounded keyPrefix holds' job := by
  cases job with
  | acquire program record missed =>
      intro scan hscan
      exact (hsub.countP_le _).trans (h scan hscan)
  | release program remaining => trivial
  | cleanup program record => trivial

/-- The scan reads the counter later, or has missed the increment. -/
theorem incr (hold : Hold) (h : Bounded keyPrefix holds job) :
    Bounded keyPrefix (hold :: holds)
      (job.overtake keyPrefix (.incr (hold.key keyPrefix))) := by
  cases job with
  | acquire program record missed =>
      intro scan hscan
      have hbound := h scan hscan
      rw [List.countP_cons]
      split <;> omega
  | release program remaining => trivial
  | cleanup program record => trivial

/-- A new listing has all counters that are held. -/
theorem keys {program : RedisProgram (Except RateLimitError Ticket)} {record : Acquisition}
    {subject : Subject} {rest : List Subject} (hpending : record.pending = subject :: rest)
    (hcovers : Covers keyPrefix store holds) (order : Shuffle) :
    Bounded keyPrefix holds (.acquire program
      { record with
        scan := some
          { unread := order.order (store.matching (subject.pattern keyPrefix))
            sum := 0 } }
      0) := by
  intro scan hscan
  obtain rfl := Option.some.inj hscan
  suffices hzero : holds.countP _ = 0 from hzero.le
  rw [List.countP_eq_zero]
  intro hold hmem
  simp only [Acquisition.misses, hpending, List.contains_eq_mem, order.mem_order,
    Store.mem_matching, hcovers.mem_store hmem, true_and]
  simp

/-- A counter that was read covers the holds on it. -/
theorem get {program program' : RedisProgram (Except RateLimitError Ticket)}
    {record : Acquisition} {key : Text} {unread : List Text} {sum missed : Nat}
    (hscan : record.scan = some { unread := key :: unread, sum := sum })
    (hcovers : Covers keyPrefix store holds)
    (h : Bounded keyPrefix holds (.acquire program record missed)) :
    Bounded keyPrefix holds (.acquire program'
      { record with
        scan := some { unread := unread, sum := sum + usizeOrZero (store.lookup key) } }
      missed) := by
  intro scan heq
  obtain rfl := Option.some.inj heq
  have hbound := h _ hscan
  have hread := hcovers.countP_le_read key
  -- a hold is on the counter just read, or was accounted for before
  have hsplit : holds.countP (fun hold => Acquisition.misses keyPrefix
      { record with
        scan := some { unread := unread, sum := sum + usizeOrZero (store.lookup key) } }
      (hold.key keyPrefix)) ≤
      holds.countP (fun hold => record.misses keyPrefix (hold.key keyPrefix)) +
        holds.countP (fun hold => hold.key keyPrefix = key) := by
    apply countP_le_add
    intro hold hmissed
    cases hpending : record.pending with
    | nil => simp [Acquisition.misses, hpending] at hmissed
    | cons subject rest =>
        simp only [Acquisition.misses, hpending, hscan, Bool.and_eq_true, Bool.not_eq_true',
          List.contains_eq_mem, decide_eq_false_iff_not, decide_eq_true_eq, List.mem_cons,
          not_or] at hmissed ⊢
        by_cases hkey : hold.key keyPrefix = key
        · exact .inr hkey
        · exact .inl ⟨hmissed.1, hkey, hmissed.2⟩
  show _ ≤ sum + usizeOrZero (store.lookup key) + missed
  have hsum : holds.countP (fun hold => record.misses keyPrefix (hold.key keyPrefix)) ≤
      sum + missed := hbound
  omega

end Bounded

/-! ## What a run preserves -/

theorem Job.overtake_of_ne_incr {command : Command} (hcommand : ∀ key, command ≠ .incr key)
    (job : Job) : job.overtake keyPrefix command = job := by
  fun_cases Job.overtake
  · next key _ _ _ => exact absurd rfl (hcommand key)
  · rfl

def Job.IsCleanup : Job → Prop
  | .cleanup _ _ => True
  | _ => False

@[simp] theorem Job.isCleanup_overtake (command : Command) (job : Job) :
    (job.overtake keyPrefix command).IsCleanup ↔ job.IsCleanup := by
  fun_cases Job.overtake <;> rfl

namespace Cluster

variable {config : RedisConfig} {x x' : Cluster} {index : Nat} {id : Uuid} {task : ClusterTask}

structure Counted (config : RedisConfig) (x : Cluster) : Prop where
  faithful : x.Faithful config
  noCleanup : ∀ task ∈ x.tasks, ¬ task.job.IsCleanup
  covers : Covers config.keyPrefix x.store (x.holds config)
  bounded : ∀ task ∈ x.tasks, Bounded config.keyPrefix (x.holds config) task.job
  listed : ∀ hold ∈ x.holds config,
    globMatches (hold.subject.pattern config.keyPrefix) (hold.key config.keyPrefix) = true
  limited : ∀ subject, (x.holds config).countP (fun hold => hold.subject = subject) ≤
    config.limit subject

theorem Counted.subperm (h : Counted config x) (hfaithful : x'.Faithful config)
    (hcovers : Covers config.keyPrefix x'.store (x'.holds config))
    (hsub : (x'.holds config).Subperm (x.holds config))
    (htasks : ∀ task ∈ x'.tasks, task ∈ x.tasks ∨
      ¬ task.job.IsCleanup ∧ Bounded config.keyPrefix (x.holds config) task.job) :
    Counted config x' where
  faithful := hfaithful
  noCleanup := by
    intro task htask
    obtain hmem | ⟨hjob, -⟩ := htasks task htask
    · exact h.noCleanup task hmem
    · exact hjob
  covers := hcovers
  bounded := by
    intro task htask
    obtain hmem | ⟨-, hbounded⟩ := htasks task htask
    · exact (h.bounded task hmem).subperm hsub
    · exact hbounded.subperm hsub
  listed := fun hold hmem => h.listed hold (hsub.subset hmem)
  limited := fun subject => (hsub.countP_le _).trans (h.limited subject)

/-- A task that goes on after a command which is not an increment. -/
theorem Counted.sent (h : Counted config x) (htask : x.tasks[index]? = some task)
    {command : Command} (hcommand : ∀ key, command ≠ .incr key) {job : Job}
    (hfaithful : job.Faithful (config.limiter task.instanceId)) (hjob : ¬ job.IsCleanup)
    (hbounded : Bounded config.keyPrefix (x.holds config) job)
    (hheld : (holdsOf task.instanceId job.held).Subperm task.holds)
    (hcovers : Covers config.keyPrefix (x.store.apply command)
      (holdsOf task.instanceId job.held ++ (x.without index).holds config)) :
    Counted config (x.sent config index task.instanceId command job) := by
  refine h.subperm (faithful_sent h.faithful hfaithful) ?_ ?_ ?_
  · rw [holds_sent]
    exact hcovers
  · rw [holds_sent]
    exact ((List.subperm_append_right _).mpr hheld).trans (holds_of_task htask).symm.subperm
  · intro other hother
    obtain rfl | ⟨other, hmem, rfl⟩ := mem_tasks_sent hother
    · exact .inr ⟨hjob, hbounded⟩
    · rw [Job.overtake_of_ne_incr hcommand]
      exact .inl hmem

/-- A task that has incremented a counter. -/
theorem Counted.incr (h : Counted config x) (htask : x.tasks[index]? = some task)
    {subject : Subject} {job : Job} (hfaithful : job.Faithful (config.limiter task.instanceId))
    (hjob : ¬ job.IsCleanup) (hbounded : ∀ holds, Bounded config.keyPrefix holds job)
    (hheld : job.held = task.job.held ++ [subject])
    (hlisted : globMatches (subject.pattern config.keyPrefix)
      (subject.key config.keyPrefix task.instanceId.text) = true)
    (hroom : (x.holds config).countP (fun hold => globMatches (subject.pattern config.keyPrefix)
      (hold.key config.keyPrefix)) < config.limit subject) :
    Counted config (x.sent config index task.instanceId
      (.incr (subject.key config.keyPrefix task.instanceId.text)) job) := by
  let hold : Hold := { subject := subject, instanceId := task.instanceId }
  have hholds : ((x.sent config index task.instanceId
      (.incr (subject.key config.keyPrefix task.instanceId.text)) job).holds config).Perm
        (hold :: x.holds config) := by
    rw [holds_sent, hheld, holdsOf, List.map_append, List.append_assoc]
    refine List.perm_middle.trans (List.Perm.cons hold ?_)
    exact (holds_of_task htask).symm
  constructor
  · exact faithful_sent h.faithful hfaithful
  · intro other hother
    obtain rfl | ⟨other, hmem, rfl⟩ := mem_tasks_sent hother
    · exact hjob
    · rw [Job.isCleanup_overtake]
      exact h.noCleanup other hmem
  · have hcovers := (Covers.incr hold h.covers).subperm hholds.subperm
    exact hcovers
  · intro other hother
    obtain rfl | ⟨other, hmem, rfl⟩ := mem_tasks_sent hother
    · exact hbounded _
    · exact (Bounded.incr hold (h.bounded other hmem)).subperm hholds.subperm
  · intro other hother
    obtain rfl | hmem := List.mem_cons.mp (hholds.subset hother)
    · exact hlisted
    · exact h.listed other hmem
  · intro other
    rw [hholds.countP_eq, List.countP_cons]
    by_cases heq : subject = other
    · subst heq
      have hmatched : (x.holds config).countP (fun hold => hold.subject = subject) ≤
          (x.holds config).countP (fun hold => globMatches (subject.pattern config.keyPrefix)
            (hold.key config.keyPrefix)) := by
        refine List.countP_mono_left fun hold hmem hsubject => ?_
        rw [← of_decide_eq_true hsubject]
        exact h.listed hold hmem
      simp only [hold, decide_true, if_true]
      omega
    · simp only [hold, heq, decide_false]
      exact h.limited other

end Cluster

/-- The increment that is sent next comes in time: either the scan before it missed no other
increment, or a scan would find room even now. The counter is one that scans list. -/
def Job.Timely (config : RedisConfig) (store : Store) (id : Uuid) (job : Job) : Prop :=
  ∀ increment ∈ job.nextIncrement,
    (increment.2 = 0 ∨
      store.total (increment.1.pattern config.keyPrefix) < config.limit increment.1) ∧
    globMatches (increment.1.pattern config.keyPrefix)
      (increment.1.key config.keyPrefix id.text) = true

instance (config : RedisConfig) (store : Store) (id : Uuid) (job : Job) :
    Decidable (job.Timely config store id) :=
  inferInstanceAs (Decidable (∀ increment ∈ job.nextIncrement,
    (increment.2 = 0 ∨
      store.total (increment.1.pattern config.keyPrefix) < config.limit increment.1) ∧
    globMatches (increment.1.pattern config.keyPrefix)
      (increment.1.key config.keyPrefix id.text) = true))

namespace Cluster

variable {config : RedisConfig} {x x' : Cluster} {index : Nat} {id : Uuid} {task : ClusterTask}

theorem Counted.acquire (h : Counted config x) {command : Command}
    {next : Answer command → RedisProgram (Except RateLimitError Ticket)} {record : Acquisition}
    {missed : Nat} (htask : x.tasks[index]? =
      some { instanceId := id, job := .acquire (.call command next) record missed })
    (htimely : Job.Timely config x.store id (.acquire (.call command next) record missed))
    (order : Shuffle) : Counted config
      (x.resume config index order id (.acquire (.call command next) record missed)) := by
  have hmem := List.mem_of_getElem? htask
  have hfaithful : Job.Faithful (config.limiter id)
    (.acquire (.call command next) record missed) := h.faithful _ hmem
  have hbounded : Bounded config.keyPrefix (x.holds config)
    (.acquire (.call command next) record missed) := h.bounded _ hmem
  have hcovers : Covers config.keyPrefix x.store
    (holdsOf id record.held ++ (x.without index).holds config) :=
    h.covers.subperm (holds_of_task htask).symm.subperm
  cases command with
  | keys pattern =>
      obtain ⟨subject, rest, hpending, rfl⟩ := hfaithful.1
      refine h.sent htask (by simp) (hfaithful.2 _) not_false ?_ (List.Subperm.refl _) hcovers
      exact Bounded.keys hpending h.covers order
  | get key =>
      obtain ⟨rest, sum, hscan⟩ := hfaithful.1
      refine h.sent htask (by simp) (hfaithful.2 _) not_false ?_ (List.Subperm.refl _) hcovers
      simp only [RedisRateLimit.acquisitionMonitor, hscan, Option.map_some]
      exact Bounded.get hscan h.covers hbounded
  | incr key =>
      obtain ⟨subject, rest, sum, hpending, rfl, hscan, hsum⟩ := hfaithful.1
      obtain ⟨hroom, hlisted⟩ := htimely (subject, missed) (by simp [Job.nextIncrement, hpending])
      refine h.incr htask (hfaithful.2 _) not_false ?_ ?_ hlisted ?_
      · intro holds scan hnone
        exact absurd hnone (by simp [RedisRateLimit.acquisitionMonitor])
      · simp [Job.held, RedisRateLimit.acquisitionMonitor, hpending]
      · obtain rfl | hroom := hroom
        · refine lt_of_le_of_lt ?_ hsum
          have hread := hbounded _ hscan
          simpa [Acquisition.misses, hpending, hscan] using hread
        · exact lt_of_le_of_lt (h.covers.countP_le_total _) hroom
  | decr key => exact False.elim hfaithful.1
  | del key => exact False.elim hfaithful.1
  | setEx key value ttl => exact False.elim hfaithful.1

theorem Counted.release (h : Counted config x) {command : Command}
    {next : Answer command → RedisProgram Unit} {remaining : List Subject}
    (htask : x.tasks[index]? =
      some { instanceId := id, job := .release (.call command next) remaining })
    (order : Shuffle) : Counted config
      (x.resume config index order id (.release (.call command next) remaining)) := by
  have hfaithful : Job.Faithful (config.limiter id) (.release (.call command next) remaining) :=
    h.faithful _ (List.mem_of_getElem? htask)
  have hcovers : Covers config.keyPrefix x.store
    (holdsOf id remaining ++ (x.without index).holds config) :=
    h.covers.subperm (holds_of_task htask).symm.subperm
  obtain ⟨subject, rest, rfl, rfl⟩ := RedisRateLimit.releaseMonitor_may _ hfaithful.1
  refine h.sent htask (by simp) (hfaithful.2 _) not_false trivial ?_ hcovers.decr
  exact (List.sublist_cons_self _ _).subperm

/-- A task that ends gives its holds up, or hands them to a ticket. -/
theorem Counted.without (h : Counted config x) (htask : x.tasks[index]? = some task) :
    Counted config (x.without index) := by
  have hsub : ((x.without index).holds config).Subperm (x.holds config) :=
    (List.sublist_append_right _ _).subperm.trans (holds_of_task htask).symm.subperm
  refine h.subperm (faithful_without h.faithful) (h.covers.subperm hsub) hsub ?_
  intro other hother
  exact .inl (mem_without hother)

theorem Counted.returnPermit (h : Counted config x) : Counted config (x.returnPermit id) :=
  ⟨h.faithful, h.noCleanup, h.covers, h.bounded, h.listed, h.limited⟩

theorem Counted.issue (h : Counted config x) {ticket : Ticket} {record : Acquisition}
    {missed : Nat} (htask : x.tasks[index]? =
      some { instanceId := id, job := .acquire (.done (.ok ticket)) record missed }) :
    Counted config ((x.without index).issue id ticket) := by
  have hheld : record.held = config.subjects ticket :=
    h.faithful _ (List.mem_of_getElem? htask) ticket rfl
  have hperm : (((x.without index).issue id ticket).holds config).Perm (x.holds config) := by
    refine (holds_issue ticket).trans ?_
    rw [← hheld]
    exact (holds_of_task htask).symm
  refine h.subperm (faithful_without h.faithful) (h.covers.subperm hperm.subperm) hperm.subperm ?_
  intro other hother
  exact .inl (mem_without hother)

/-- A task that begins may take its holds over from a ticket. -/
theorem Counted.begin (h : Counted config x) (hstore : x'.store = x.store)
    (htasks : x'.tasks = x.tasks) {job : Job}
    (hholds : (holdsOf id job.held ++ x'.holds config).Perm (x.holds config))
    (hfaithful : job.Faithful (config.limiter id)) (hjob : ¬ job.IsCleanup)
    (hbounded : Bounded config.keyPrefix (x.holds config) job) :
    Counted config (x'.begin id job) := by
  have hperm : ((x'.begin id job).holds config).Perm (x.holds config) := holds_begin.trans hholds
  have hothers : x'.Faithful config := by
    intro task htask
    rw [htasks] at htask
    exact h.faithful task htask
  refine h.subperm (faithful_begin hothers hfaithful) ?_ hperm.subperm ?_
  · show Covers _ x'.store _
    rw [hstore]
    exact h.covers.subperm hperm.subperm
  · intro task htask
    obtain hmem | rfl := mem_tasks_begin.mp htask
    · rw [htasks] at hmem
      exact .inl hmem
    · exact .inr ⟨hjob, hbounded⟩

theorem Counted.updateHeartbeat (h : Counted config x) (id : Uuid) (now : Int)
    (hstore : x'.store = x.store.insert (heartbeatKey config.keyPrefix id.text) now)
    (htasks : x'.tasks = x.tasks) (htickets : x'.tickets = x.tickets) : Counted config x' := by
  have hholds : x'.holds config = x.holds config := by rw [holds, holds, htasks, htickets]
  refine h.subperm ?_ ?_ (hholds ▸ List.Subperm.refl _) ?_
  · intro task htask
    rw [htasks] at htask
    exact h.faithful task htask
  · rw [hholds, hstore]
    exact h.covers.heartbeat id.text now
  · intro task htask
    rw [htasks] at htask
    exact .inl htask

end Cluster

def ClusterEvent.IsCleanup : ClusterEvent → Prop
  | .cleanup _ _ _ => True
  | _ => False

namespace Cluster

variable {config : RedisConfig} {x : Cluster} {index : Nat}

/-- If the event lets a task send an increment, this comes in time. -/
def Timely (config : RedisConfig) (x : Cluster) (event : ClusterEvent) : Prop :=
  ∀ task ∈ x.resumed event, task.job.Timely config x.store task.instanceId

instance (config : RedisConfig) (x : Cluster) (event : ClusterEvent) :
    Decidable (x.Timely config event) :=
  inferInstanceAs (Decidable
    (∀ task ∈ x.resumed event, task.job.Timely config x.store task.instanceId))

theorem Counted.advance (h : Counted config x) (order : Shuffle)
    (htimely : ∀ task ∈ x.tasks[index]?, task.job.Timely config x.store task.instanceId) :
    Counted config (x.advance config index order) := by
  unfold Cluster.advance
  split
  · exact h
  · next task htask =>
      have htimelyJob := htimely task htask
      obtain ⟨id, job⟩ := task
      have hnot := h.noCleanup _ (List.mem_of_getElem? htask)
      match job with
      | .acquire (.call command next) record missed => exact h.acquire htask htimelyJob order
      | .acquire (.done (.ok ticket)) record missed => exact h.issue htask
      | .acquire (.done (.error e)) record missed => exact (h.without htask).returnPermit
      | .release (.call command next) remaining => exact h.release htask order
      | .release (.done result) remaining => exact (h.without htask).returnPermit
      | .cleanup program record => exact absurd trivial hnot

theorem Counted.step (h : Counted config x) {event : ClusterEvent} (hnot : ¬ event.IsCleanup)
    (htimely : x.Timely config event) : Counted config (x.step config event) := by
  match event with
  | .start id instanceLimit now =>
      simp only [Cluster.step]
      split
      · exact h
      · exact h.updateHeartbeat id now rfl rfl rfl
  | .heartbeat id now =>
      simp only [Cluster.step]
      split
      · exact h.updateHeartbeat id now rfl rfl rfl
      · exact h
  | .tryAcquire id addr app =>
      simp only [Cluster.step]
      split
      · apply h.begin
        · rfl
        · rfl
        · exact List.Perm.refl _
        · exact (config.limiter id).tryAcquire_obeys addr app
        · exact not_false
        · intro scan hscan
          exact absurd hscan (by simp)
      · exact h
  | .drop index =>
      simp only [Cluster.step]
      split
      · next issued hissued =>
          obtain ⟨hlt, rfl⟩ := List.getElem?_eq_some_iff.mp hissued
          have hperm := (List.getElem_cons_eraseIdx_perm hlt).flatMap_right
            (IssuedTicket.holds config)
          apply h.begin
          · rfl
          · rfl
          · exact (List.perm_append_comm_assoc _ _ _).trans (hperm.append_left _)
          · exact (config.limiter x.tickets[index].instanceId).release_obeys _ _
          · exact not_false
          · trivial
      · exact h
  | .cleanup id ipOrder appOrder => exact absurd trivial hnot
  | .advance index order => exact h.advance order htimely

theorem Counted.run (h : Counted config x) {events : List ClusterEvent}
    (hcleanup : ∀ event ∈ events, ¬ event.IsCleanup)
    (htimely : Along (Cluster.step config) (Timely config) x events) :
    Counted config (Machine.run (Cluster.step config) x events) := by
  apply (htimely.and_forall hcleanup).run_invariant
  · rintro x event h ⟨htimely, hnot⟩
    exact h.step hnot htimely
  · exact h

theorem counted_start {store : Store} (known : List Uuid)
    (hstore : ∀ counter : Hold, 0 ≤ store.value (counter.key config.keyPrefix)) :
    Counted config (Cluster.start store known) where
  faithful := by simp [Faithful, Cluster.start]
  noCleanup := by simp [Cluster.start]
  covers := hstore
  bounded := by simp [Cluster.start]
  listed := by simp [Cluster.start, holds]
  limited := by simp [Cluster.start, holds]

/-! ## The limits -/

/-- The live tickets of an address or an app are within its limit. -/
def WithinLimits (config : RedisConfig) (x : Cluster) : Prop :=
  (0 < config.perIpLimit → ∀ addr,
    x.tickets.countP (fun issued => issued.ticket.addr = addr) ≤ config.perIpLimit) ∧
  ∀ app, x.tickets.countP (fun issued => issued.ticket.app = some app) ≤
    (config.perAppLimit app).getD 0

/-- Every ticket of a subject is a hold of it. -/
theorem countP_tickets_le (config : RedisConfig) (tickets : List IssuedTicket) (subject : Subject)
    {p : IssuedTicket → Bool}
    (hp : ∀ issued, p issued = true → subject ∈ config.subjects issued.ticket) :
    tickets.countP p ≤
      (tickets.flatMap (IssuedTicket.holds config)).countP fun hold => hold.subject = subject := by
  induction tickets with
  | nil => simp
  | cons issued tickets ih =>
      rw [List.flatMap_cons, List.countP_append, List.countP_cons]
      split
      · next hissued =>
          have hpos : 0 < (issued.holds config).countP fun hold => hold.subject = subject := by
            rw [List.countP_pos_iff]
            refine ⟨{ subject := subject, instanceId := issued.instanceId }, ?_, by simp⟩
            exact List.mem_map_of_mem (hp issued hissued)
          omega
      · omega

theorem Counted.withinLimits (h : Counted config x) : WithinLimits config x := by
  have hlimit : ∀ subject, (x.tickets.flatMap (IssuedTicket.holds config)).countP
      (fun hold => hold.subject = subject) ≤ config.limit subject := by
    intro subject
    have hsub : (x.tickets.flatMap (IssuedTicket.holds config)).Sublist (x.holds config) :=
      List.sublist_append_right _ _
    exact hsub.countP_le.trans (h.limited subject)
  constructor
  · intro hpos addr
    refine (countP_tickets_le config x.tickets (.ip addr) ?_).trans (hlimit (.ip addr))
    intro issued haddr
    simp [RedisConfig.subjects, hpos, of_decide_eq_true haddr]
  · intro app
    refine (countP_tickets_le config x.tickets (.app app) ?_).trans (hlimit (.app app))
    intro issued happ
    simp [RedisConfig.subjects, of_decide_eq_true happ]

/-- Without cleanups, the limits hold in every run in which each increment comes in time. -/
theorem tickets_within_limits (config : RedisConfig) (store : Store) (known : List Uuid)
    (events : List ClusterEvent)
    (hstore : ∀ counter : Hold, 0 ≤ store.value (counter.key config.keyPrefix))
    (hcleanup : ∀ event ∈ events, ¬ event.IsCleanup)
    (htimely : Along (Cluster.step config) (Timely config) (.start store known) events) :
    WithinLimits config (Machine.run (Cluster.step config) (.start store known) events) :=
  ((counted_start known hstore).run hcleanup htimely).withinLimits

/-! ## Two instances and one connection -/

def firstInstance : Uuid where
  text := utf8 "c0a8e1b4-3f52-4d19-8b67-91d2f4a7c301"
  groups := by decide
  bytes := forall_mem_of_all (by decide)

def secondInstance : Uuid where
  text := utf8 "c0a8e1b4-3f52-4d19-8b67-91d2f4a7c302"
  groups := by decide
  bytes := forall_mem_of_all (by decide)

def oneConnection : RedisConfig where
  perIpLimit := 1
  perAppLimit := .empty
  keyPrefix := utf8 "flashblocks"

def client : IpAddr := .v4 { octets := (192, 0, 2, 1) }

def bothStart : List ClusterEvent :=
  [.start firstInstance 10 1750000000, .start secondInstance 10 1750000000]

/-- The second instance begins when the first one has its ticket. -/
def oneByOne : List ClusterEvent :=
  bothStart ++ [.tryAcquire firstInstance client none,
    .advance 0 .identity, .advance 0 .identity, .advance 0 .identity,
    .tryAcquire secondInstance client none,
    .advance 0 .identity, .advance 0 .identity, .advance 0 .identity]

theorem one_ticket_when_one_by_one :
    WithinLimits oneConnection (Machine.run (Cluster.step oneConnection) (.start ∅ []) oneByOne) ∧
      (Machine.run (Cluster.step oneConnection) (.start ∅ []) oneByOne).tickets.length = 1 := by
  refine ⟨tickets_within_limits oneConnection ∅ [] oneByOne ?_ ?_ ?_, by decide +kernel⟩
  · intro counter
    simp [Store.value]
  · simp [oneByOne, bothStart, ClusterEvent.IsCleanup]
  · decide +kernel

/-- Both instances list the counters before one of them increments. -/
def interleaved : List ClusterEvent :=
  bothStart ++ [.tryAcquire firstInstance client none, .tryAcquire secondInstance client none,
    .advance 0 .identity, .advance 1 .identity, .advance 0 .identity, .advance 1 .identity,
    .advance 0 .identity, .advance 0 .identity]

theorem two_tickets_when_interleaved :
    (∀ event ∈ interleaved, ¬ event.IsCleanup) ∧
      ¬ WithinLimits oneConnection
        (Machine.run (Cluster.step oneConnection) (.start ∅ []) interleaved) := by
  refine ⟨by simp [interleaved, bothStart, ClusterEvent.IsCleanup], ?_⟩
  intro hlimits
  have hclient := hlimits.1 (by decide) client
  exact absurd hclient (by decide +kernel)

end Cluster

end RollupBoost