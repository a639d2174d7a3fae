import RollupBoost.RateLimit.Findings

/-!
# Cleanup beside live instances

`cleanup_stale_instances` lists the heartbeats first and the counters afterwards. An instance
that starts in between and counts a connection before the counters are listed has a counter and
no heartbeat in the eyes of the cleanup, and its counters are deleted while it is alive. Listing
the counters first would find heartbeats for all of them.

The only step that can make an instance found in spite of a missed heartbeat is an increment
that comes before the listing of its counter: a new instance has no counters, and a decrement
adds no key, since what is counted is in Redis as long as no cleanup deletes it.
-/

namespace RollupBoost

open Machine

/-! ## What a run preserves -/

namespace Job

def pending : Job → List Subject
  | .acquire _ record _ => record.pending
  | _ => []

def cleaning : Job → Option Cleaning
  | .cleanup _ record => some record
  | _ => none

/-- The key that is deleted next. -/
def nextDeletion : Job → Option Text
  | .cleanup (.call (.del key) _) _ => some key
  | _ => none

@[simp] theorem pending_overtake (keyPrefix : Text) (command : Command) (job : Job) :
    (job.overtake keyPrefix command).pending = job.pending := by
  fun_cases Job.overtake <;> rfl

@[simp] theorem cleaning_overtake (keyPrefix : Text) (command : Command) (job : Job) :
    (job.overtake keyPrefix command).cleaning = job.cleaning := by
  fun_cases Job.overtake <;> rfl

end Job

namespace Cluster

/-- Instances have heartbeats, tasks and tickets belong to instances, what is counted is in the
store, and the cleanups do no harm. -/
structure Spared (config : RedisConfig) (x : Cluster) : Prop where
  faithful : x.Faithful config
  keys : x.store.KeysOf config.keyPrefix x.known
  known : ∀ id ∈ x.instances, id ∈ x.known
  alive : ∀ id ∈ x.instances, x.store.HasHeartbeat config.keyPrefix id
  owned : ∀ task ∈ x.tasks, task.instanceId ∈ x.instances
  issued : ∀ issued ∈ x.tickets, issued.instanceId ∈ x.instances
  held : ∀ hold ∈ x.holds config, hold.key config.keyPrefix ∈ x.store
  named : ∀ task ∈ x.tasks, ∀ subject ∈ task.job.pending, subject.WellNamed
  harmless : ∀ task ∈ x.tasks, ∀ record ∈ task.job.cleaning,
    (config.limiter task.instanceId).Harmless x.store x.known record

variable {config : RedisConfig} {x x' : Cluster} {index : Nat} {task : ClusterTask} {id : Uuid}

theorem Spared.hold_owned (h : Spared config x) {hold : Hold} (hhold : hold ∈ x.holds config) :
    hold.instanceId ∈ x.instances := by
  obtain hmem | hmem := List.mem_append.mp hhold
  · obtain ⟨task, htask, hmem⟩ := List.mem_flatMap.mp hmem
    obtain ⟨subject, -, rfl⟩ := List.mem_map.mp hmem
    exact h.owned task htask
  · obtain ⟨issued, hissued, hmem⟩ := List.mem_flatMap.mp hmem
    obtain ⟨subject, -, rfl⟩ := List.mem_map.mp hmem
    exact h.issued issued hissued

/-- A task goes on after a command. -/
theorem Spared.sent (h : Spared config x) (htask : x.tasks[index]? = some task)
    {command : Command} {job : Job} (hfaithful : job.Faithful (config.limiter task.instanceId))
    (hkeys : (x.store.apply command).KeysOf config.keyPrefix x.known)
    (halive : ∀ id ∈ x.instances, (x.store.apply command).HasHeartbeat config.keyPrefix id)
    (hheld : ∀ hold ∈ x.holds config, hold.key config.keyPrefix ∈ x.store.apply command)
    (hown : ∀ subject ∈ job.held, subject ∈ task.job.held ∨
      subject.key config.keyPrefix task.instanceId.text ∈ x.store.apply command)
    (hpending : ∀ subject ∈ job.pending, subject ∈ task.job.pending)
    (hrecord : ∀ record ∈ job.cleaning, (config.limiter task.instanceId).Harmless
      (x.store.apply command) x.known record)
    (hothers : ∀ other ∈ x.tasks, ∀ record ∈ other.job.cleaning,
      (config.limiter other.instanceId).Harmless (x.store.apply command) x.known record) :
    Spared config (x.sent config index task.instanceId command job) := by
  have hmem := List.mem_of_getElem? htask
  constructor
  · exact faithful_sent h.faithful hfaithful
  · exact hkeys
  · exact h.known
  · exact halive
  · intro other hother
    obtain rfl | ⟨other, hmem, rfl⟩ := mem_tasks_sent hother
    · exact h.owned task hmem
    · exact h.owned other hmem
  · exact h.issued
  · intro hold hhold
    rw [holds_sent] at hhold
    obtain hown' | hrest := List.mem_append.mp hhold
    · obtain ⟨subject, hsubject, rfl⟩ := List.mem_map.mp hown'
      obtain hbefore | hkey := hown subject hsubject
      · apply hheld
        exact (holds_of_task htask).symm.subset
          (List.mem_append_left _ (List.mem_map_of_mem hbefore))
      · exact hkey
    · apply hheld
      exact (holds_of_task htask).symm.subset (List.mem_append_right _ hrest)
  · intro other hsent
    obtain rfl | ⟨other, hother, rfl⟩ := mem_tasks_sent hsent
    · exact fun subject hsubject => h.named task hmem subject (hpending subject hsubject)
    · rw [Job.pending_overtake]
      exact h.named other hother
  · intro other hsent
    obtain rfl | ⟨other, hother, rfl⟩ := mem_tasks_sent hsent
    · exact hrecord
    · rw [Job.cleaning_overtake]
      exact hothers other hother

/-- A command that neither adds nor removes a key. -/
theorem Spared.sent_same (h : Spared config x) (htask : x.tasks[index]? = some task)
    {command : Command} (hsame : ∀ key, key ∈ x.store.apply command ↔ key ∈ x.store) {job : Job}
    (hfaithful : job.Faithful (config.limiter task.instanceId))
    (hown : ∀ subject ∈ job.held, subject ∈ task.job.held)
    (hpending : ∀ subject ∈ job.pending, subject ∈ task.job.pending)
    (hrecord : ∀ record ∈ job.cleaning, (config.limiter task.instanceId).Harmless
      x.store x.known record) :
    Spared config (x.sent config index task.instanceId command job) := by
  have hsub : ∀ key ∈ x.store.apply command, key ∈ x.store := fun key => (hsame key).mp
  apply h.sent htask hfaithful
  · exact fun key hkey => h.keys key (hsub key hkey)
  · exact fun id hid => (hsame _).mpr (h.alive id hid)
  · exact fun hold hhold => (hsame _).mpr (h.held hold hhold)
  · exact fun subject hsubject => .inl (hown subject hsubject)
  · exact hpending
  · exact fun record hmem => (hrecord record hmem).of_subset hsub
  · exact fun other hother record hmem => (h.harmless other hother record hmem).of_subset hsub

end Cluster

/-- A cleanup that misses the heartbeat of an instance does not find the counter that the
instance increments next. -/
def Job.Unnoticed (config : RedisConfig) (tasks : List ClusterTask) (id : Uuid) (job : Job) :
    Prop :=
  ∀ increment ∈ job.nextIncrement, ¬ increment.1.IsV6 → ∀ task ∈ tasks,
    ∀ record ∈ task.job.cleaning, record.MissedHeartbeat config.keyPrefix id →
      record.willList config.keyPrefix (increment.1.key config.keyPrefix id.text) = false

instance (config : RedisConfig) (tasks : List ClusterTask) (id : Uuid) (job : Job) :
    Decidable (job.Unnoticed config tasks id) :=
  inferInstanceAs (Decidable (∀ increment ∈ job.nextIncrement, ¬ increment.1.IsV6 →
    ∀ task ∈ tasks, ∀ record ∈ task.job.cleaning, record.MissedHeartbeat config.keyPrefix id →
      record.willList config.keyPrefix (increment.1.key config.keyPrefix id.text) = false))

namespace Cluster

variable {config : RedisConfig} {x x' : Cluster} {index : Nat} {task : ClusterTask} {id : Uuid}

theorem Spared.acquire (h : Spared config x) {command : Command}
    {next : Answer command → RedisProgram (Except RateLimitError Ticket)} {record : Acquisition}
    {missed : Nat} (htask : x.tasks[index]? =
      some { instanceId := id, job := .acquire (.call command next) record missed })
    (hunnoticed : Job.Unnoticed config x.tasks id (.acquire (.call command next) record missed))
    (order : Shuffle) : Spared config
      (x.resume config index order id (.acquire (.call command next) record missed)) := by
  have hmem := List.mem_of_getElem? htask
  have hfaithful : Job.Faithful (config.limiter id)
    (.acquire (.call command next) record missed) := h.faithful _ hmem
  have hid : id ∈ x.known := h.known id (h.owned _ hmem)
  have hnamed : ∀ subject rest, record.pending = subject :: rest → subject.WellNamed := by
    intro subject rest hpending
    apply h.named _ hmem
    simp [Job.pending, hpending]
  cases command with
  | keys pattern =>
      refine h.sent_same htask (fun _ => Iff.rfl) (hfaithful.2 _) ?_ ?_ ?_
      · exact fun subject hsubject => hsubject
      · exact fun subject hsubject => hsubject
      · exact fun record hrecord => absurd hrecord (by simp [Job.cleaning])
  | get key =>
      refine h.sent_same htask (fun _ => Iff.rfl) (hfaithful.2 _) ?_ ?_ ?_
      · exact fun subject hsubject => hsubject
      · exact fun subject hsubject => hsubject
      · exact fun record hrecord => absurd hrecord (by simp [Job.cleaning])
  | incr key =>
      obtain ⟨subject, rest, sum, hpending, rfl, hscan, hsum⟩ := hfaithful.1
      apply h.sent htask
      · exact hfaithful.2 _
      · intro key hkey
        obtain rfl | hkey := (AList.mem_insert _).mp hkey
        · exact .inr ⟨subject, id, hid, hnamed subject rest hpending, rfl⟩
        · exact h.keys key hkey
      · exact fun id hid => (AList.mem_insert _).mpr (.inr (h.alive id hid))
      · exact fun hold hhold => (AList.mem_insert _).mpr (.inr (h.held hold hhold))
      · intro other hother
        have hheld : other ∈ record.held ++ [subject] := by
          simpa [Job.held, RedisRateLimit.acquisitionMonitor, hpending] using hother
        obtain hbefore | hnew := List.mem_append.mp hheld
        · exact .inl hbefore
        · rw [List.mem_singleton.mp hnew]
          exact .inr ((AList.mem_insert _).mpr (.inl rfl))
      · intro other hother
        exact List.mem_of_mem_tail hother
      · exact fun record hrecord => absurd hrecord (by simp [Job.cleaning])
      · intro other hother cleaning hcleaning
        apply (h.harmless other hother cleaning hcleaning).incr (hnamed subject rest hpending) hid
        intro hmissed hv6
        exact hunnoticed (subject, missed) (by simp [Job.nextIncrement, hpending]) hv6 other hother
          cleaning hcleaning hmissed
  | decr key => exact False.elim hfaithful.1
  | del key => exact False.elim hfaithful.1
  | setEx key value ttl => exact False.elim hfaithful.1

theorem Spared.release (h : Spared config x) {command : Command}
    {next : Answer command → RedisProgram Unit} {remaining : List Subject}
    (htask : x.tasks[index]? =
      some { instanceId := id, job := .release (.call command next) remaining })
    (order : Shuffle) : Spared config
      (x.resume config index order id (.release (.call command next) remaining)) := by
  have hfaithful : Job.Faithful (config.limiter id) (.release (.call command next) remaining) :=
    h.faithful _ (List.mem_of_getElem? htask)
  obtain ⟨subject, rest, rfl, rfl⟩ := RedisRateLimit.releaseMonitor_may _ hfaithful.1
  have hkey : subject.key config.keyPrefix id.text ∈ x.store := by
    apply h.held { subject := subject, instanceId := id }
    apply (holds_of_task htask).symm.subset
    exact List.mem_append_left _ List.mem_cons_self
  apply h.sent_same htask
  · exact fun key => Store.mem_insert_iff hkey _
  · exact hfaithful.2 _
  · exact fun other hother => List.mem_cons_of_mem _ hother
  · exact fun other hother => absurd hother (by simp [Job.pending])
  · exact fun record hrecord => absurd hrecord (by simp [Job.cleaning])

theorem Spared.cleanup (h : Spared config x) (hsimple : Glob.Simple config.keyPrefix)
    (hcolon : colon ∉ config.keyPrefix) {command : Command}
    {next : Answer command → RedisProgram Unit} {record : Cleaning}
    (htask : x.tasks[index]? =
      some { instanceId := id, job := .cleanup (.call command next) record })
    (order : Shuffle) : Spared config
      (x.resume config index order id (.cleanup (.call command next) record)) := by
  have hmem := List.mem_of_getElem? htask
  have hfaithful : Job.Faithful (config.limiter id) (.cleanup (.call command next) record) :=
    h.faithful _ hmem
  have hrecord : (config.limiter id).Harmless x.store x.known record := h.harmless _ hmem record rfl
  cases command with
  | keys pattern =>
      apply h.sent_same htask
      · exact fun key => Iff.rfl
      · exact hfaithful.2 _
      · exact fun subject hsubject => hsubject
      · exact fun subject hsubject => hsubject
      · intro listed hlisted
        obtain rfl := Option.some.inj hlisted
        exact hrecord.keys hsimple hcolon h.keys order hfaithful.1
  | del key =>
      have htarget : key ∈ record.targets := hfaithful.1
      have hsub : ∀ other ∈ x.store.apply (.del key), other ∈ x.store :=
        fun other hother => (AList.mem_erase.mp hother).2
      apply h.sent htask
      · exact hfaithful.2 _
      · exact fun other hother => h.keys other (hsub other hother)
      · intro id hid
        refine AList.mem_erase.mpr ⟨?_, h.alive id hid⟩
        rintro rfl
        obtain ⟨subject, id', heq, -⟩ := hrecord.targets _ htarget
        exact heartbeatKey_ne heq
      · intro hold hhold
        refine AList.mem_erase.mpr ⟨?_, h.held hold hhold⟩
        rintro rfl
        exact hrecord.not_live hcolon htarget rfl (h.alive _ (h.hold_owned hhold))
      · exact fun subject hsubject => .inl hsubject
      · exact fun subject hsubject => hsubject
      · intro same hsame
        obtain rfl := Option.some.inj hsame
        exact hrecord.of_subset hsub
      · exact fun other hother record hmem => (h.harmless other hother record hmem).of_subset hsub
  | get key => exact False.elim hfaithful.1
  | incr key => exact False.elim hfaithful.1
  | decr key => exact False.elim hfaithful.1
  | setEx key value ttl => exact False.elim hfaithful.1

/-- What a task must bring along to be added. -/
structure Admissible (config : RedisConfig) (x : Cluster) (task : ClusterTask) : Prop where
  owned : task.instanceId ∈ x.instances
  faithful : task.job.Faithful (config.limiter task.instanceId)
  named : ∀ subject ∈ task.job.pending, subject.WellNamed
  harmless : ∀ record ∈ task.job.cleaning,
    (config.limiter task.instanceId).Harmless x.store x.known record

theorem Spared.admissible (h : Spared config x) (htask : task ∈ x.tasks) :
    Admissible config x task :=
  ⟨h.owned task htask, h.faithful task htask, h.named task htask, h.harmless task htask⟩

/-- Tasks and tickets come and go, and no key does. -/
theorem Spared.rearrange (h : Spared config x) (hsame : ∀ key, key ∈ x'.store ↔ key ∈ x.store)
    (hknown : x'.known = x.known) (hinstances : x'.instances = x.instances)
    (htasks : ∀ task ∈ x'.tasks, Admissible config x task)
    (htickets : ∀ issued ∈ x'.tickets, issued.instanceId ∈ x.instances)
    (hholds : ∀ hold ∈ x'.holds config, hold ∈ x.holds config) : Spared config x' := by
  have hsub : ∀ key ∈ x'.store, key ∈ x.store := fun key => (hsame key).mp
  constructor
  · exact fun task htask => (htasks task htask).faithful
  · rw [hknown]
    exact fun key hkey => h.keys key (hsub key hkey)
  · rw [hinstances, hknown]
    exact h.known
  · rw [hinstances]
    exact fun id hid => (hsame _).mpr (h.alive id hid)
  · rw [hinstances]
    exact fun task htask => (htasks task htask).owned
  · rw [hinstances]
    exact htickets
  · exact fun hold hhold => (hsame _).mpr (h.held hold (hholds hold hhold))
  · exact fun task htask => (htasks task htask).named
  · rw [hknown]
    exact fun task htask record hrecord =>
      ((htasks task htask).harmless record hrecord).of_subset hsub

theorem Spared.without (h : Spared config x) (htask : x.tasks[index]? = some task) :
    Spared config (x.without index) := by
  apply h.rearrange
  · exact fun key => Iff.rfl
  · rfl
  · rfl
  · exact fun other hother => h.admissible (mem_without hother)
  · exact h.issued
  · intro hold hhold
    exact (holds_of_task htask).symm.subset (List.mem_append_right _ hhold)

theorem Spared.returnPermit (h : Spared config x) : Spared config (x.returnPermit id) :=
  ⟨h.faithful, h.keys, h.known, h.alive, h.owned, h.issued, h.held, h.named, h.harmless⟩

theorem Spared.issue (h : Spared config x) {ticket : Ticket} {record : Acquisition}
    {missed : Nat} (htask : x.tasks[index]? =
      some { instanceId := id, job := .acquire (.done (.ok ticket)) record missed }) :
    Spared config ((x.without index).issue id ticket) := by
  have hmem := List.mem_of_getElem? htask
  have hheld : record.held = config.subjects ticket := h.faithful _ hmem ticket rfl
  apply h.rearrange
  · exact fun key => Iff.rfl
  · rfl
  · rfl
  · exact fun other hother => h.admissible (mem_without hother)
  · intro issued hissued
    obtain hold | hnew := List.mem_append.mp hissued
    · exact h.issued issued hold
    · rw [List.mem_singleton.mp hnew]
      exact h.owned _ hmem
  · intro hold hhold
    have hbefore := (holds_issue ticket).subset hhold
    rw [← hheld] at hbefore
    exact (holds_of_task htask).symm.subset hbefore

theorem Spared.begin (h : Spared config x) {job : Job} (hheld : job.held = [])
    (hjob : Admissible config x { instanceId := id, job := job }) :
    Spared config (x.begin id job) := by
  apply h.rearrange
  · exact fun key => Iff.rfl
  · rfl
  · rfl
  · intro task htask
    obtain hmem | rfl := mem_tasks_begin.mp htask
    · exact h.admissible hmem
    · exact hjob
  · exact h.issued
  · intro hold hhold
    have hbefore := holds_begin.subset hhold
    rw [hheld] at hbefore
    exact hbefore

theorem Spared.takePermit (h : Spared config x) :
    Spared config { x with permits := Function.update x.permits id (x.permits id - 1) } :=
  ⟨h.faithful, h.keys, h.known, h.alive, h.owned, h.issued, h.held, h.named, h.harmless⟩

theorem Spared.start (h : Spared config x) (hsimple : Glob.Simple config.keyPrefix)
    (hnew : id ∉ x.known) (now : Int)
    (hstore : x'.store = x.store.insert (heartbeatKey config.keyPrefix id.text) now)
    (hknown : x'.known = id :: x.known) (hinstances : x'.instances = id :: x.instances)
    (htasks : x'.tasks = x.tasks) (htickets : x'.tickets = x.tickets) : Spared config x' := by
  have hkept : ∀ key ∈ x.store, key ∈ x'.store := by
    intro key hkey
    rw [hstore]
    exact (AList.mem_insert _).mpr (.inr hkey)
  constructor
  · rw [Faithful, htasks]
    exact h.faithful
  · intro key hkey
    rw [hstore] at hkey
    rw [hknown]
    obtain rfl | hkey := (AList.mem_insert _).mp hkey
    · exact .inl ⟨id, List.mem_cons_self, rfl⟩
    · obtain ⟨other, hother, rfl⟩ | ⟨subject, other, hother, hnamed, rfl⟩ := h.keys key hkey
      · exact .inl ⟨other, List.mem_cons_of_mem _ hother, rfl⟩
      · exact .inr ⟨subject, other, List.mem_cons_of_mem _ hother, hnamed, rfl⟩
  · rw [hinstances, hknown]
    exact List.cons_subset_cons id h.known
  · intro other hother
    rw [hinstances] at hother
    obtain rfl | hother := List.mem_cons.mp hother
    · rw [hstore]
      exact (AList.mem_insert _).mpr (.inl rfl)
    · exact hkept _ (h.alive other hother)
  · rw [htasks, hinstances]
    exact fun task htask => List.mem_cons_of_mem _ (h.owned task htask)
  · rw [htickets, hinstances]
    exact fun issued hissued => List.mem_cons_of_mem _ (h.issued issued hissued)
  · rw [holds, htasks, htickets]
    exact fun hold hhold => hkept _ (h.held hold hhold)
  · rw [htasks]
    exact h.named
  · rw [htasks, hstore, hknown]
    exact fun task htask record hrecord =>
      (h.harmless task htask record hrecord).start hsimple hnew now

theorem Spared.heartbeat (h : Spared config x) (hid : id ∈ x.instances) (now : Int) :
    Spared config
      { x with store := x.store.insert (heartbeatKey config.keyPrefix id.text) now } := by
  apply h.rearrange
  · exact fun key => Store.mem_insert_iff (h.alive id hid) now
  · rfl
  · rfl
  · exact fun task htask => h.admissible htask
  · exact h.issued
  · exact fun hold hhold => hhold

theorem Spared.drop (h : Spared config x) {issued : IssuedTicket}
    (hissued : x.tickets[index]? = some issued) :
    Spared config ({ x with tickets := x.tickets.eraseIdx index }.begin issued.instanceId
      (.release ((config.limiter issued.instanceId).release issued.ticket.addr issued.ticket.app)
        (config.subjects issued.ticket))) := by
  have hmem := List.mem_of_getElem? hissued
  apply h.rearrange
  · exact fun key => Iff.rfl
  · rfl
  · rfl
  · intro task htask
    obtain hold | rfl := mem_tasks_begin.mp htask
    · exact h.admissible hold
    · exact {
        owned := h.issued issued hmem
        faithful := (config.limiter issued.instanceId).release_obeys _ _
        named := by simp [Job.pending]
        harmless := by simp [Job.cleaning] }
  · exact fun other hother => h.issued other (List.mem_of_mem_eraseIdx hother)
  · intro hold hhold
    obtain hown | hrest := List.mem_append.mp (holds_begin.subset hhold)
    · exact List.mem_append_right _ (List.mem_flatMap.mpr ⟨issued, hmem, hown⟩)
    · obtain htask | hticket := List.mem_append.mp hrest
      · exact List.mem_append_left _ htask
      · obtain ⟨other, hother, hheld⟩ := List.mem_flatMap.mp hticket
        exact List.mem_append_right _
          (List.mem_flatMap.mpr ⟨other, List.mem_of_mem_eraseIdx hother, hheld⟩)

/-- If the event lets a task send an increment, no cleanup that misses the heartbeat of its
instance will find the counter. -/
def Unnoticed (config : RedisConfig) (x : Cluster) (event : ClusterEvent) : Prop :=
  ∀ task ∈ x.resumed event, task.job.Unnoticed config x.tasks task.instanceId

instance (config : RedisConfig) (x : Cluster) (event : ClusterEvent) :
    Decidable (x.Unnoticed config event) :=
  inferInstanceAs (Decidable
    (∀ task ∈ x.resumed event, task.job.Unnoticed config x.tasks task.instanceId))

theorem Spared.advance (h : Spared config x) (hsimple : Glob.Simple config.keyPrefix)
    (hcolon : colon ∉ config.keyPrefix) (order : Shuffle)
    (hunnoticed : x.Unnoticed config (.advance index order)) :
    Spared config (x.advance config index order) := by
  unfold Cluster.advance
  split
  · exact h
  · next task htask =>
      have hunnoticedJob := hunnoticed task htask
      obtain ⟨id, job⟩ := task
      match job with
      | .acquire (.call command next) record missed => exact h.acquire htask hunnoticedJob order
      | .acquire (.done (.ok ticket)) record missed => exact h.issue htask
      | .acquire (.done (.error e)) record missed => exact (h.without htask).returnPermit
      | .release (.call command next) remaining => exact h.release htask order
      | .release (.done result) remaining => exact (h.without htask).returnPermit
      | .cleanup (.call command next) record => exact h.cleanup hsimple hcolon htask order
      | .cleanup (.done result) record => exact h.without htask

end Cluster

/-- The names of apps have no colon. -/
def ClusterEvent.WellNamed : ClusterEvent → Prop
  | .tryAcquire _ _ app => ∀ name ∈ app, colon ∉ name
  | _ => True

theorem RedisConfig.wellNamed_subjects (config : RedisConfig) (addr : IpAddr) {app : Option Text}
    (hnamed : ∀ name ∈ app, colon ∉ name) :
    ∀ subject ∈ config.subjects { addr := addr, app := app }, subject.WellNamed := by
  intro subject hsubject
  obtain hip | happ := List.mem_append.mp hsubject
  · obtain ⟨-, rfl⟩ : 0 < config.perIpLimit ∧ subject = .ip addr := by simpa using hip
    trivial
  · obtain ⟨name, hname, rfl⟩ : ∃ name, app = some name ∧ Subject.app name = subject := by
      simpa using happ
    exact hnamed name hname

namespace Cluster

variable {config : RedisConfig} {x : Cluster}

theorem Spared.step (h : Spared config x) (hsimple : Glob.Simple config.keyPrefix)
    (hcolon : colon ∉ config.keyPrefix) {event : ClusterEvent} (hnamed : event.WellNamed)
    (hunnoticed : x.Unnoticed config event) : Spared config (x.step config event) := by
  match event with
  | .start id instanceLimit now =>
      simp only [Cluster.step]
      split
      · exact h
      · next hnew => exact h.start hsimple hnew now rfl rfl rfl rfl rfl
  | .heartbeat id now =>
      simp only [Cluster.step]
      split
      · next hid => exact h.heartbeat hid now
      · exact h
  | .tryAcquire id addr app =>
      simp only [Cluster.step]
      split
      · next hid =>
          apply h.takePermit.begin rfl
          exact {
            owned := hid.1
            faithful := (config.limiter id).tryAcquire_obeys addr app
            named := config.wellNamed_subjects addr hnamed
            harmless := by simp [Job.cleaning] }
      · exact h
  | .drop index =>
      simp only [Cluster.step]
      split
      · next issued hissued => exact h.drop hissued
      · exact h
  | .cleanup id ipOrder appOrder =>
      simp only [Cluster.step]
      split
      · next hid =>
          apply h.begin rfl
          exact {
            owned := hid
            faithful := (config.limiter id).cleanupStaleInstances_obeys ipOrder appOrder
            named := by simp [Job.pending]
            harmless := by
              intro record hrecord
              obtain rfl := Option.some.inj hrecord
              exact RedisRateLimit.harmless_new hsimple h.keys }
      · exact h
  | .advance index order => exact h.advance hsimple hcolon order hunnoticed

theorem spared_start {store : Store} {known : List Uuid}
    (hstore : store.KeysOf config.keyPrefix known) : Spared config (Cluster.start store known) where
  faithful := by simp [Faithful, Cluster.start]
  keys := hstore
  known := by simp [Cluster.start]
  alive := by simp [Cluster.start]
  owned := by simp [Cluster.start]
  issued := by simp [Cluster.start]
  held := by simp [Cluster.start, holds]
  named := by simp [Cluster.start]
  harmless := by simp [Cluster.start]

/-- If the event lets a cleanup delete a counter, its instance has no heartbeat. -/
def SparesLive (config : RedisConfig) (x : Cluster) (event : ClusterEvent) : Prop :=
  ∀ task ∈ x.resumed event, ∀ key ∈ task.job.nextDeletion, key ∈ x.store →
    ∀ (subject : Subject) (id : Uuid), key = subject.key config.keyPrefix id.text →
      ¬ x.store.HasHeartbeat config.keyPrefix id

theorem Spared.sparesLive (h : Spared config x) (hcolon : colon ∉ config.keyPrefix)
    (event : ClusterEvent) : x.SparesLive config event := by
  intro task htask key hkey _ subject id heq
  match event with
  | .advance index order =>
      have hmem := List.mem_of_getElem? htask
      obtain ⟨instanceId, job⟩ := task
      match job with
      | .cleanup (.call (.del target) next) record =>
          obtain rfl := Option.some.inj hkey
          have hrecord := h.harmless _ hmem record rfl
          have htarget := (h.faithful _ hmem).1
          exact hrecord.not_live hcolon htarget heq

/-- In every run in which increments go unnoticed by the cleanups that missed the heartbeat, no
cleanup deletes a counter of an instance with a heartbeat. -/
theorem live_instances_spared (config : RedisConfig) (store : Store) (known : List Uuid)
    (events : List ClusterEvent) (hsimple : Glob.Simple config.keyPrefix)
    (hcolon : colon ∉ config.keyPrefix) (hstore : store.KeysOf config.keyPrefix known)
    (hnamed : ∀ event ∈ events, event.WellNamed)
    (hunnoticed : Along (Cluster.step config) (Unnoticed config) (.start store known) events) :
    Along (Cluster.step config) (SparesLive config) (.start store known) events := by
  apply (hunnoticed.and_forall hnamed).of_invariant
  · rintro x event h ⟨hunnoticed, hnamed⟩
    exact Spared.step h hsimple hcolon hnamed hunnoticed
  · intro x event h _
    exact Spared.sparesLive h hcolon event
  · exact spared_start hstore

/-! ## An instance that starts during a cleanup -/

def startingInstance : Uuid where
  text := utf8 "5d4f9e0c-7a31-4c7e-9d58-0c2b6f1e8a03"
  groups := by decide
  bytes := forall_mem_of_all (by decide)

def tenConnections : RedisConfig where
  perIpLimit := 10
  perAppLimit := .empty
  keyPrefix := utf8 "flashblocks"

/-- The counter of an instance that has stopped. -/
def oneStopped : Store :=
  (∅ : Store).insert ((Subject.ip RedisRateLimit.v4Client).key tenConnections.keyPrefix
    RedisRateLimit.stoppedInstance.text) 1

/-- The cleanup has listed the heartbeats when another instance starts. -/
def startsDuringCleanup : List ClusterEvent :=
  [.start RedisRateLimit.cleaningInstance 10 1750000000,
    .cleanup RedisRateLimit.cleaningInstance .identity .identity, .advance 0 .identity,
    .start startingInstance 10 1750000001,
    .tryAcquire startingInstance RedisRateLimit.v4Client none]

/-- The cleanup lists the counters, and then the new instance counts a connection. -/
def listedBefore : List ClusterEvent :=
  startsDuringCleanup ++ [.advance 0 .identity, .advance 0 .identity,
    .advance 1 .identity, .advance 0 .identity, .advance 0 .identity, .advance 0 .identity,
    .advance 0 .identity, .advance 0 .identity, .advance 0 .identity]

/-- The new instance counts a connection before the cleanup lists the counters. -/
def countedBefore : List ClusterEvent :=
  startsDuringCleanup ++ [.advance 1 .identity, .advance 0 .identity, .advance 0 .identity,
    .advance 0 .identity, .advance 0 .identity, .advance 0 .identity, .advance 0 .identity]

/-- Only the counter of the stopped instance is deleted. -/
theorem spared_when_listed_before :
    Along (Cluster.step tenConnections) (SparesLive tenConnections)
      (.start oneStopped [RedisRateLimit.stoppedInstance]) listedBefore ∧
    (Machine.run (Cluster.step tenConnections)
      (.start oneStopped [RedisRateLimit.stoppedInstance]) listedBefore).store.keys.length = 3 := by
  refine ⟨live_instances_spared tenConnections oneStopped [RedisRateLimit.stoppedInstance]
    listedBefore (by decide) (by decide) ?_ ?_ ?_, by decide +kernel⟩
  · intro key hkey
    obtain rfl | hnone := (AList.mem_insert _).mp hkey
    · exact .inr ⟨.ip RedisRateLimit.v4Client, RedisRateLimit.stoppedInstance,
        List.mem_singleton_self _, trivial, rfl⟩
    · exact absurd hnone (AList.notMem_empty key)
  · simp [listedBefore, startsDuringCleanup, ClusterEvent.WellNamed]
  · decide +kernel

theorem deleted_when_counted_before :
    ¬ Along (Cluster.step tenConnections) (SparesLive tenConnections) (.start ∅ [])
      (countedBefore ++ [.advance 0 .identity]) := by
  intro h
  have hspares := (Along.concat_iff.mp h).2
  have hdeleted : ((Machine.run (Cluster.step tenConnections) (.start ∅ []) countedBefore).resumed
      (.advance 0 .identity)).bind (fun task => task.job.nextDeletion) =
        some ((Subject.ip RedisRateLimit.v4Client).key tenConnections.keyPrefix
          startingInstance.text) := by decide +kernel
  obtain ⟨task, htask, hkey⟩ := Option.bind_eq_some_iff.mp hdeleted
  have hlive := hspares task htask _ hkey (by decide +kernel) (.ip RedisRateLimit.v4Client)
    startingInstance rfl
  exact absurd hlive (by decide +kernel)

end Cluster

end RollupBoost
