import RollupBoost.RateLimit.FailedReads
import RollupBoost.RateLimit.Findings

/-!
# Instances that crash

An instance that stops without giving up its connections leaves its counters behind. The others
know it by its heartbeat, which Redis drops 30 seconds after it was last written. An instance
writes it when it is created and in the rounds of its background task, which its first request
starts, and whose rounds are 5 seconds apart. A round also removes the counters of the instances
without a heartbeat.

Calls and rounds come one after the other, and time passes in between, in milliseconds. The
requests of a call may fail, but for `GET`; those of a round do not. If no round is late by 25
seconds, and no round comes when an instance that waits for its first one has lost the heartbeat
of its creation, the rounds spare the instances that run. What a crashed instance has left is
removed within 35 seconds and the lateness of the rounds, if some instance with a background task
runs, and if it is not about IPv6 addresses only.
-/

namespace RollupBoost

open Machine

namespace RedisRateLimit

/-- In seconds, as `heartbeatTtl`. -/
def heartbeatInterval : Nat := 10

/-- How long a heartbeat lasts. -/
def heartbeatLife : Nat := 1000 * heartbeatTtl

/-- How long the background task sleeps between two rounds. -/
def roundPause : Nat := 1000 * heartbeatInterval / 2

theorem heartbeatLife_eq : heartbeatLife = 30000 := rfl

theorem roundPause_eq : roundPause = 5000 := rfl

theorem roundPause_add (time : Nat) :
    time + roundPause + (heartbeatLife - roundPause) = time + heartbeatLife := by
  have hlife := heartbeatLife_eq
  have hpause := roundPause_eq
  omega

end RedisRateLimit

open RedisRateLimit (heartbeatLife roundPause heartbeatLife_eq roundPause_add)

inductive InstancePhase where
  /-- No request has come yet. -/
  | idle
  /-- The background task was started at `since`. Its next round is due at `due`, which is
  `since` before the first one. -/
  | active (since due : Nat)
  | crashed (time : Nat)
  deriving DecidableEq

namespace InstancePhase

def due : InstancePhase → Option Nat
  | .active _ due => some due
  | _ => none

def AwaitsFirstRound : InstancePhase → Prop
  | .active since due => since = due
  | _ => False

instance (phase : InstancePhase) : Decidable phase.AwaitsFirstRound :=
  match phase with
  | .active since due => inferInstanceAs (Decidable (since = due))
  | .idle => isFalse not_false
  | .crashed _ => isFalse not_false

def IsCrashed : InstancePhase → Prop
  | .crashed _ => True
  | _ => False

instance (phase : InstancePhase) : Decidable phase.IsCrashed :=
  match phase with
  | .crashed _ => isTrue trivial
  | .idle => isFalse not_false
  | .active _ _ => isFalse not_false

end InstancePhase

/-- The keys whose time is over are gone. -/
def Store.expire (deadlines : Table Text Nat) (now : Nat) (store : Store) : Store :=
  (store.keys.filter fun key => (deadlines key).any (· ≤ now)).foldl
    (fun store key => store.erase key) store

/-- Instances that share a Redis, with the times at which keys expire. -/
structure TimedCluster extends SerialCluster where
  deadlines : Table Text Nat
  now : Nat
  known : List Uuid
  phase : Uuid → InstancePhase

inductive TimedEvent where
  /-- `RedisRateLimit::new` -/
  | launch (id : Uuid) (clock : Int)
  | call (event : SerialEvent)
  /-- A round of the background task. -/
  | round (id : Uuid) (clock : Int) (listing : Text → Shuffle) (ipOrder appOrder : Shuffle)
  | crash (id : Uuid)
  | pass (duration : Nat)

namespace TimedCluster

variable (config : RedisConfig)

def start (permits : Uuid → Nat) : TimedCluster where
  toSerialCluster := .start ∅ permits
  deadlines := .empty
  now := 0
  known := []
  phase := fun _ => .idle

def updateHeartbeat (x : TimedCluster) (id : Uuid) (clock : Int) : TimedCluster :=
  { x with
    store := (((config.limiter id).updateHeartbeat clock).exec
      (Store.service fun _ => .identity) x.store).2
    deadlines := x.deadlines.insert (config.limiter id).instanceHeartbeatKey
      (x.now + heartbeatLife) }

/-- An id was never used before. -/
def launch (x : TimedCluster) (id : Uuid) (clock : Int) : TimedCluster :=
  if id ∈ x.known then x
  else { x.updateHeartbeat config id clock with known := id :: x.known }

def startBackgroundTasks (x : TimedCluster) (id : Uuid) : TimedCluster :=
  match x.phase id with
  | .idle => { x with phase := Function.update x.phase id (.active x.now x.now) }
  | _ => x

def withSerial (x : TimedCluster) (serial : SerialCluster) : TimedCluster :=
  { x with toSerialCluster := serial }

def call (x : TimedCluster) : SerialEvent → TimedCluster
  | .tryAcquire id addr app listing fates =>
      if id ∈ x.known ∧ ¬ (x.phase id).IsCrashed then
        (x.startBackgroundTasks id).withSerial
          (x.toSerialCluster.tryAcquire config id addr app listing fates)
      else x
  | .drop index listing fates => x.withSerial (x.toSerialCluster.drop config index listing fates)

def round (x : TimedCluster) (id : Uuid) (clock : Int) (listing : Text → Shuffle)
    (ipOrder appOrder : Shuffle) : TimedCluster :=
  match x.phase id with
  | .active since due =>
      if due ≤ x.now then
        let beaten := x.updateHeartbeat config id clock
        { beaten with
          store := (((config.limiter id).cleanupStaleInstances ipOrder appOrder).exec
            (Store.service listing) beaten.store).2
          phase := Function.update x.phase id (.active since (x.now + roundPause)) }
      else x
  | _ => x

/-- The tickets of the instance are gone, and Redis does not learn of it. -/
def crash (x : TimedCluster) (id : Uuid) : TimedCluster :=
  if id ∈ x.known ∧ ¬ (x.phase id).IsCrashed then
    { x with
      tickets := x.tickets.filter fun issued => issued.instanceId ≠ id
      phase := Function.update x.phase id (.crashed x.now) }
  else x

def pass (x : TimedCluster) (duration : Nat) : TimedCluster :=
  { x with
    store := x.store.expire x.deadlines (x.now + duration)
    now := x.now + duration }

def step (x : TimedCluster) : TimedEvent → TimedCluster
  | .launch id clock => x.launch config id clock
  | .call event => x.call config event
  | .round id clock listing ipOrder appOrder => x.round config id clock listing ipOrder appOrder
  | .crash id => x.crash id
  | .pass duration => x.pass duration

/-- No round is later than `lateness`, and where an instance waits for its first round the rounds
of the others find the heartbeat that it was created with. -/
def Punctual (lateness : Nat) (x : TimedCluster) : TimedEvent → Prop
  | .round id _ _ _ _ => ∀ other ∈ x.known, other ≠ id → (x.phase other).AwaitsFirstRound →
      x.store.HasHeartbeat config.keyPrefix other
  | .pass duration => ∀ id ∈ x.known, ∀ due ∈ (x.phase id).due, x.now + duration ≤ due + lateness
  | _ => True

instance (lateness : Nat) (x : TimedCluster) (event : TimedEvent) :
    Decidable (x.Punctual config lateness event) :=
  match event with
  | .round id _ _ _ _ => inferInstanceAs (Decidable (∀ other ∈ x.known, other ≠ id →
      (x.phase other).AwaitsFirstRound → x.store.HasHeartbeat config.keyPrefix other))
  | .pass duration => inferInstanceAs (Decidable (∀ id ∈ x.known, ∀ due ∈ (x.phase id).due,
      x.now + duration ≤ due + lateness))
  | .launch _ _ => isTrue trivial
  | .call _ => isTrue trivial
  | .crash _ => isTrue trivial

end TimedCluster

/-! ## What is removed, and what is added -/

theorem Store.removes_expire (deadlines : Table Text Nat) (now : Nat) (store : Store) :
    Removes store (store.expire deadlines now)
      fun key => ∃ deadline, deadlines key = some deadline ∧ deadline ≤ now := by
  have hexpire : ∀ (keys : List Text) (store : Store),
      keys.foldl (fun store key => store.erase key) store =
        ((RedisRateLimit.deleteKeys keys).exec (Store.service fun _ => .identity) store).2 := by
    intro keys
    induction keys with
    | nil => exact fun _ => rfl
    | cons key keys ih => exact fun store => ih (store.erase key)
  rw [Store.expire, hexpire]
  refine (RedisRateLimit.removes_deleteKeys _ _ store).congr ?_
  intro key hkey
  simp [AList.mem_keys.mp hkey, Option.any_eq_true]

/-- Counters that nothing holds can be removed. -/
theorem SerialCluster.Limited.removes {config : RedisConfig} {store next : Store}
    {holds : List Hold} {removed : Text → Prop} (h : SerialCluster.Limited config store holds)
    (hremoves : Removes store next removed)
    (hkept : ∀ hold ∈ holds, ¬ removed (hold.key config.keyPrefix)) :
    SerialCluster.Limited config next holds where
  covers := by
    intro counter
    by_cases hremoved : removed (counter.key config.keyPrefix)
    · have hnone : holds.countP (fun hold =>
          hold.key config.keyPrefix = counter.key config.keyPrefix) = 0 := by
        rw [List.countP_eq_zero]
        intro hold hmem
        rw [decide_eq_true_eq]
        exact fun heq => hkept hold hmem (heq ▸ hremoved)
      have hvalue : next.value (counter.key config.keyPrefix) = 0 := by
        simp [Store.value, AList.lookup_eq_none.mpr (hremoves.gone _ hremoved)]
      omega
    · rw [Store.value, hremoves.kept _ hremoved]
      exact h.covers counter
  clean := h.clean
  limited := h.limited

namespace RedisRateLimit

variable {self : RedisRateLimit} {store : Store}

/-- A cleanup leaves the heartbeats alone. -/
theorem not_stale_heartbeat (hsimple : Glob.Simple self.keyPrefix)
    (hcolon : colon ∉ self.keyPrefix) (hstore : store.WellFormed self.keyPrefix)
    (instanceId : Text) : ¬ self.Stale store (heartbeatKey self.keyPrefix instanceId) := by
  rintro ⟨part, hfound, -, -, hcleaned⟩
  have hplain : Glob.Plain part := by
    obtain ⟨subject, id, -, -, -, rfl⟩ | ⟨addr, hpiece⟩ := found_cases hsimple hcolon hstore hfound
    · exact id.plain
    · exact (plain_of_piece hpiece).1
  obtain hmatch | hmatch := hcleaned
  · exact heartbeat_not_of_instance hsimple isKind_ip hplain hmatch
  · exact heartbeat_not_of_instance hsimple isKind_app hplain hmatch

end RedisRateLimit

theorem Store.KeysOf.wellFormed {keyPrefix : Text} {known : List Uuid} {store : Store}
    (h : store.KeysOf keyPrefix known) : store.WellFormed keyPrefix := by
  intro key hkey
  obtain ⟨id, -, heq⟩ | ⟨subject, id, -, hnamed, heq⟩ := h key hkey
  · exact .inl ⟨id, heq⟩
  · exact .inr ⟨subject, id, hnamed, heq⟩

namespace Store

variable {keyPrefix : Text} {known known' : List Uuid} {store next : Store} {id other : Uuid}
variable {clock : Int}

theorem hasHeartbeat_insert :
    HasHeartbeat keyPrefix (store.insert (heartbeatKey keyPrefix id.text) clock) other ↔
      other = id ∨ store.HasHeartbeat keyPrefix other := by
  rw [HasHeartbeat, AList.mem_insert]
  exact or_congr_left
    ⟨fun heq => Uuid.text_inj (heartbeatKey_inj heq), fun heq => heq ▸ rfl⟩

theorem hasCounter_insert {subject : Subject} :
    HasCounter keyPrefix (store.insert (heartbeatKey keyPrefix id.text) clock) subject other ↔
      store.HasCounter keyPrefix subject other := by
  rw [HasCounter, AList.mem_insert]
  exact or_iff_right heartbeatKey_ne.symm

theorem KeysOf.mono (h : store.KeysOf keyPrefix known) (hknown : ∀ id ∈ known, id ∈ known') :
    store.KeysOf keyPrefix known' := by
  intro key hkey
  obtain ⟨id, hid, heq⟩ | ⟨subject, id, hid, hnamed, heq⟩ := h key hkey
  · exact .inl ⟨id, hknown id hid, heq⟩
  · exact .inr ⟨subject, id, hknown id hid, hnamed, heq⟩

theorem KeysOf.heartbeat (h : store.KeysOf keyPrefix known) (hid : id ∈ known) (clock : Int) :
    KeysOf keyPrefix known (store.insert (heartbeatKey keyPrefix id.text) clock) := by
  intro key hkey
  obtain rfl | hkey := (AList.mem_insert _).mp hkey
  · exact .inl ⟨id, hid, rfl⟩
  · exact h key hkey

theorem KeysOf.removes {removed : Text → Prop} (h : store.KeysOf keyPrefix known)
    (hremoves : Removes store next removed) : next.KeysOf keyPrefix known :=
  fun key hkey => h key ((hremoves.mem_iff key).mp hkey).1

end Store

/-- All keys are still there, and those that were added are counters of an instance. -/
structure CountsFor (keyPrefix : Text) (id : Uuid) (store next : Store) : Prop where
  kept : ∀ key ∈ store, key ∈ next
  added : ∀ key ∈ next, key ∈ store ∨
    ∃ subject : Subject, subject.Clean ∧ key = subject.key keyPrefix id.text

namespace CountsFor

variable {keyPrefix : Text} {id : Uuid} {store next : Store}

theorem refl : CountsFor keyPrefix id store store where
  kept := fun _ hkey => hkey
  added := fun _ hkey => .inl hkey

theorem write (h : CountsFor keyPrefix id store next) {subject : Subject}
    (hclean : subject.Clean) (value : Int) :
    CountsFor keyPrefix id store (next.insert (subject.key keyPrefix id.text) value) where
  kept := fun key hkey => (AList.mem_insert _).mpr (.inr (h.kept key hkey))
  added := by
    intro key hkey
    obtain rfl | hkey := (AList.mem_insert _).mp hkey
    · exact .inr ⟨subject, hclean, rfl⟩
    · exact h.added key hkey

theorem hasHeartbeat (h : CountsFor keyPrefix id store next) {other : Uuid} :
    next.HasHeartbeat keyPrefix other ↔ store.HasHeartbeat keyPrefix other := by
  refine ⟨fun hheartbeat => ?_, h.kept _⟩
  obtain hbefore | ⟨subject, -, heq⟩ := h.added _ hheartbeat
  · exact hbefore
  · exact absurd heq heartbeatKey_ne

/-- A counter of another instance was there before. -/
theorem hasCounter (h : CountsFor keyPrefix id store next) {subject : Subject} {other : Uuid}
    (hcounter : next.HasCounter keyPrefix subject other) :
    store.HasCounter keyPrefix subject other ∨ other = id := by
  obtain hbefore | ⟨subject', -, heq⟩ := h.added _ hcounter
  · exact .inl hbefore
  · exact .inr (Subject.key_inj heq).2

theorem keysOf (h : CountsFor keyPrefix id store next) {known : List Uuid} (hid : id ∈ known)
    (hkeys : store.KeysOf keyPrefix known) : next.KeysOf keyPrefix known := by
  intro key hkey
  obtain hbefore | ⟨subject, hclean, rfl⟩ := h.added key hkey
  · exact hkeys key hbefore
  · exact .inr ⟨subject, id, hid, hclean.wellNamed, rfl⟩

end CountsFor

namespace SerialCluster

open RedisRateLimit (Fallible.tryAcquire Fallible.release Fallible.acquisitionMonitor
  Fallible.releaseMonitor)

variable {config : RedisConfig} {id : Uuid} {request : Request} {x : SerialCluster}
variable (listing : Text → Shuffle) (fates : Fates)

/-- A request of an acquisition. -/
theorem countsFor_acquisition {before store : Store} {record : Acquisition}
    (hmay : (Fallible.acquisitionMonitor (config.limiter id)).may record request)
    (hclean : ∀ subject ∈ record.pending, subject.Clean)
    (h : CountsFor config.keyPrefix id before store) :
    CountsFor config.keyPrefix id before (store.attempt listing fates request).2 ∧
    ∀ subject ∈ ((Fallible.acquisitionMonitor (config.limiter id)).next record request
      (store.attempt listing fates request).1).pending, subject.Clean := by
  cases request with
  | getConnection => exact ⟨h, hclean⟩
  | command command =>
      cases command with
      | keys pattern =>
          refine ⟨?_, hclean⟩
          simp only [Store.attempt]
          split <;> exact h
      | get key =>
          refine ⟨?_, hclean⟩
          simp only [Store.attempt]
          split <;> exact h
      | incr key =>
          obtain ⟨subject, rest, sum, hpending, rfl, -, -⟩ := hmay
          have hsubject := hclean subject (by simp [hpending])
          refine ⟨?_, fun other hother => hclean other (List.mem_of_mem_tail hother)⟩
          simp only [Store.attempt]
          split
          · exact h.write hsubject _
          · exact h
          · exact h.write hsubject _
      | _ => exact hmay.elim

/-- A request of a release. -/
theorem countsFor_release {before store : Store} {remaining : List Subject}
    (hmay : (Fallible.releaseMonitor (config.limiter id)).may remaining request)
    (hclean : ∀ subject ∈ remaining, subject.Clean)
    (h : CountsFor config.keyPrefix id before store) :
    CountsFor config.keyPrefix id before (store.attempt listing fates request).2 ∧
    ∀ subject ∈ (Fallible.releaseMonitor (config.limiter id)).next remaining request
      (store.attempt listing fates request).1, subject.Clean := by
  cases request with
  | getConnection => exact ⟨h, hclean⟩
  | command command =>
      cases command with
      | decr key =>
          obtain ⟨subject, rest, rfl, rfl⟩ := hmay
          have hsubject := hclean subject List.mem_cons_self
          refine ⟨?_, fun other hother => hclean other (List.mem_of_mem_tail hother)⟩
          simp only [Store.attempt]
          split
          · exact h.write hsubject _
          · exact h
          · exact h.write hsubject _
      | _ => exact hmay.elim

theorem countsFor_tryAcquire (x : SerialCluster) (id : Uuid) (addr : IpAddr) {app : Option Text}
    (hclean : ∀ name ∈ app, (Subject.app name).Clean) :
    CountsFor config.keyPrefix id x.store
        (x.tryAcquire config id addr app listing fates).store ∧
      ∀ issued ∈ (x.tryAcquire config id addr app listing fates).tickets,
        issued ∈ x.tickets ∨ issued.instanceId = id := by
  simp only [SerialCluster.tryAcquire]
  split
  · exact ⟨.refl, fun _ => .inl⟩
  · obtain ⟨record, -, hcounts, -⟩ :=
      (RedisRateLimit.Fallible.tryAcquire_obeys (config.limiter id) addr app).exec_invariant
        (I := fun store record => CountsFor config.keyPrefix id x.store store ∧
          ∀ subject ∈ record.pending, subject.Clean)
        ⟨.refl, clean_subjects config addr hclean⟩
        (fun store record request hI hmay =>
          countsFor_acquisition listing fates hmay hI.2 hI.1)
    split
    · next ticket store hresult =>
        rw [hresult] at hcounts
        refine ⟨hcounts, fun issued hissued => ?_⟩
        obtain hbefore | hnew := List.mem_append.mp hissued
        · exact .inl hbefore
        · rw [List.mem_singleton.mp hnew]
          exact .inr rfl
    · next error store hresult =>
        rw [hresult] at hcounts
        exact ⟨hcounts, fun _ => .inl⟩

theorem countsFor_drop (h : Limited config x.store (x.holds config)) (index : Nat) :
    x.drop config index listing fates = x ∨
    ∃ issued ∈ x.tickets, CountsFor config.keyPrefix issued.instanceId x.store
        (x.drop config index listing fates).store ∧
      ∀ issued ∈ (x.drop config index listing fates).tickets, issued ∈ x.tickets := by
  simp only [SerialCluster.drop]
  split
  · next id ticket hticket =>
      have hmem := List.mem_of_getElem? hticket
      have hclean : ∀ subject ∈ config.subjects ticket, subject.Clean := by
        intro subject hsubject
        refine h.clean { subject := subject, instanceId := id } ?_
        exact List.mem_flatMap.mpr ⟨_, hmem, List.mem_map_of_mem hsubject⟩
      obtain ⟨remaining, -, hcounts, -⟩ :=
        (RedisRateLimit.Fallible.release_obeys (config.limiter id) ticket.addr
          ticket.app).exec_invariant
          (I := fun store remaining => CountsFor config.keyPrefix id x.store store ∧
            ∀ subject ∈ remaining, subject.Clean)
          ⟨.refl, hclean⟩
          (fun store remaining request hI hmay =>
            countsFor_release listing fates hmay hI.2 hI.1)
      exact .inr ⟨_, hmem, hcounts, fun _ hissued => List.mem_of_mem_eraseIdx hissued⟩
  · exact .inl rfl

end SerialCluster

/-! ## Every run -/

namespace TimedCluster

variable {config : RedisConfig} {lateness : Nat} {x : TimedCluster} {id : Uuid}

/-- An instance that runs has a heartbeat from its first round on. -/
structure Active (config : RedisConfig) (lateness : Nat) (x : TimedCluster) (id : Uuid)
    (since due : Nat) : Prop where
  known : id ∈ x.known
  ordered : since ≤ due
  soon : due ≤ x.now + roundPause
  onTime : x.now ≤ due + lateness
  alive : since < due → x.store.HasHeartbeat config.keyPrefix id
  deadline : since < due → x.deadlines (heartbeatKey config.keyPrefix id.text) =
    some (due + (heartbeatLife - roundPause))

/-- The heartbeat of a crashed instance ends, and no round has come since then if its counters
are left. -/
structure Crashed (config : RedisConfig) (x : TimedCluster) (id : Uuid) (time : Nat) : Prop where
  known : id ∈ x.known
  ends : ∀ deadline, x.deadlines (heartbeatKey config.keyPrefix id.text) = some deadline →
    deadline ≤ time + heartbeatLife
  noRound : (∃ subject : Subject, subject.WellNamed ∧ ¬ subject.IsV6 ∧
      x.store.HasCounter config.keyPrefix subject id) →
    ∀ other since due, x.phase other = .active since due → since < due →
      due < time + heartbeatLife + roundPause

structure Inv (config : RedisConfig) (lateness : Nat) (x : TimedCluster) : Prop where
  limited : SerialCluster.Limited config x.store (x.holds config)
  keys : x.store.KeysOf config.keyPrefix x.known
  unknown : ∀ id, id ∉ x.known → x.phase id = .idle
  expiring : ∀ key deadline, x.deadlines key = some deadline →
    (∃ id ∈ x.known, key = heartbeatKey config.keyPrefix id.text) ∧
      deadline ≤ x.now + heartbeatLife
  beats : ∀ id, x.store.HasHeartbeat config.keyPrefix id →
    ∃ deadline, x.deadlines (heartbeatKey config.keyPrefix id.text) = some deadline ∧
      x.now < deadline
  counted : ∀ (subject : Subject) id, x.store.HasCounter config.keyPrefix subject id →
    x.phase id ≠ .idle
  issued : ∀ issued ∈ x.tickets, ∃ since due, x.phase issued.instanceId = .active since due
  active : ∀ id since due, x.phase id = .active since due → x.Active config lateness id since due
  crashed : ∀ id time, x.phase id = .crashed time → x.Crashed config id time

theorem inv_start (permits : Uuid → Nat) : (start permits).Inv config lateness where
  limited := by
    constructor
    · intro counter
      simp [start, SerialCluster.start, SerialCluster.holds, Store.value]
    · simp [start, SerialCluster.start, SerialCluster.holds]
    · simp [start, SerialCluster.start, SerialCluster.holds]
  keys := fun key hkey => absurd hkey (AList.notMem_empty key)
  unknown := fun _ _ => rfl
  expiring := by simp [start]
  beats := fun id hheartbeat => absurd hheartbeat (AList.notMem_empty _)
  counted := fun subject id hcounter => absurd hcounter (AList.notMem_empty _)
  issued := by simp [start, SerialCluster.start]
  active := by simp [start]
  crashed := by simp [start]

/-! ### Heartbeats -/

theorem updateHeartbeat_deadlines_of_ne {other : Uuid} (hne : other ≠ id) (clock : Int) :
    (x.updateHeartbeat config id clock).deadlines (heartbeatKey config.keyPrefix other.text) =
      x.deadlines (heartbeatKey config.keyPrefix other.text) :=
  Table.insert_of_ne _ (fun heq => hne (Uuid.text_inj (heartbeatKey_inj heq))) _

theorem Inv.expiring_updateHeartbeat (h : x.Inv config lateness) (clock : Int) {key : Text}
    {deadline : Nat}
    (hdeadline : (x.updateHeartbeat config id clock).deadlines key = some deadline) :
    (∃ other, (other = id ∨ other ∈ x.known) ∧ key = heartbeatKey config.keyPrefix other.text) ∧
      deadline ≤ x.now + heartbeatLife := by
  by_cases hkey : key = heartbeatKey config.keyPrefix id.text
  · subst hkey
    have heq : some (x.now + heartbeatLife) = some deadline :=
      (Table.insert_self _ _ _).symm.trans hdeadline
    exact ⟨⟨id, .inl rfl, rfl⟩, (Option.some.inj heq).ge⟩
  · obtain ⟨⟨other, hother, rfl⟩, hle⟩ :=
      h.expiring key deadline ((Table.insert_of_ne _ hkey _).symm.trans hdeadline)
    exact ⟨⟨other, .inr hother, rfl⟩, hle⟩

theorem Inv.beats_updateHeartbeat (h : x.Inv config lateness) (clock : Int) {other : Uuid}
    (hheartbeat : (x.updateHeartbeat config id clock).store.HasHeartbeat config.keyPrefix other) :
    ∃ deadline, (x.updateHeartbeat config id clock).deadlines
      (heartbeatKey config.keyPrefix other.text) = some deadline ∧ x.now < deadline := by
  by_cases hother : other = id
  · subst hother
    refine ⟨x.now + heartbeatLife, Table.insert_self _ _ _, ?_⟩
    rw [heartbeatLife_eq]
    omega
  · rw [updateHeartbeat_deadlines_of_ne hother]
    exact h.beats other ((Store.hasHeartbeat_insert.mp hheartbeat).resolve_left hother)

theorem Inv.launch (h : x.Inv config lateness) (hnew : id ∉ x.known) (clock : Int) :
    { x.updateHeartbeat config id clock with known := id :: x.known }.Inv config lateness where
  limited := ⟨h.limited.covers.heartbeat id.text clock, h.limited.clean, h.limited.limited⟩
  keys := (h.keys.mono fun _ => List.mem_cons_of_mem _).heartbeat List.mem_cons_self clock
  unknown := fun other hother => h.unknown other fun hmem => hother (List.mem_cons_of_mem _ hmem)
  expiring := by
    intro key deadline hdeadline
    obtain ⟨⟨other, hother, hkey⟩, hle⟩ := h.expiring_updateHeartbeat clock hdeadline
    exact ⟨⟨other, List.mem_cons.mpr hother, hkey⟩, hle⟩
  beats := fun other hheartbeat => h.beats_updateHeartbeat clock hheartbeat
  counted := fun subject other hcounter =>
    h.counted subject other (Store.hasCounter_insert.mp hcounter)
  issued := h.issued
  active := by
    intro other since due hphase
    have hactive := h.active other since due hphase
    have hne : other ≠ id := fun heq => hnew (heq ▸ hactive.known)
    exact {
      known := List.mem_cons_of_mem _ hactive.known
      ordered := hactive.ordered
      soon := hactive.soon
      onTime := hactive.onTime
      alive := fun hlt => Store.hasHeartbeat_insert.mpr (.inr (hactive.alive hlt))
      deadline := fun hlt => (updateHeartbeat_deadlines_of_ne hne clock).trans
        (hactive.deadline hlt) }
  crashed := by
    intro other time hphase
    have hcrashed := h.crashed other time hphase
    have hne : other ≠ id := fun heq => hnew (heq ▸ hcrashed.known)
    exact {
      known := List.mem_cons_of_mem _ hcrashed.known
      ends := fun deadline hdeadline => hcrashed.ends deadline
        ((updateHeartbeat_deadlines_of_ne hne clock).symm.trans hdeadline)
      noRound := fun ⟨subject, hnamed, hv6, hcounter⟩ => hcrashed.noRound
        ⟨subject, hnamed, hv6, Store.hasCounter_insert.mp hcounter⟩ }

/-! ### Calls -/

theorem phase_cases {phase : Uuid → InstancePhase} {other : Uuid} {new old : InstancePhase}
    (h : Function.update phase id new other = old) :
    other = id ∧ new = old ∨ other ≠ id ∧ phase other = old := by
  rw [Function.update_apply] at h
  split at h
  · next heq => exact .inl ⟨heq, h⟩
  · next hne => exact .inr ⟨hne, h⟩

theorem Inv.startBackgroundTasks (h : x.Inv config lateness) (hid : id ∈ x.known) :
    (x.startBackgroundTasks id).Inv config lateness := by
  unfold TimedCluster.startBackgroundTasks
  split
  · next hidle =>
      have hactive : ∀ other since due,
          Function.update x.phase id (.active x.now x.now) other = .active since due →
            since = due ∨ x.phase other = .active since due := by
        intro other since due hphase
        obtain ⟨-, heq⟩ | ⟨-, hbefore⟩ := phase_cases hphase
        · cases heq
          exact .inl rfl
        · exact .inr hbefore
      constructor
      · exact h.limited
      · exact h.keys
      · intro other hunknown
        have hne : other ≠ id := fun heq => hunknown (heq ▸ hid)
        exact (Function.update_of_ne hne ..).trans (h.unknown other hunknown)
      · exact h.expiring
      · exact h.beats
      · intro subject other hcounter hphase
        obtain ⟨-, heq⟩ | ⟨-, hbefore⟩ := phase_cases hphase
        · exact absurd heq (by simp)
        · exact h.counted subject other hcounter hbefore
      · intro issued hissued
        obtain ⟨since, due, hphase⟩ := h.issued issued hissued
        have hne : issued.instanceId ≠ id := by
          intro heq
          rw [heq, hidle] at hphase
          exact absurd hphase (by simp)
        exact ⟨since, due, (Function.update_of_ne hne ..).trans hphase⟩
      · intro other since due hphase
        obtain ⟨rfl, heq⟩ | ⟨-, hbefore⟩ := phase_cases hphase
        · cases heq
          exact {
            known := hid
            ordered := le_rfl
            soon := Nat.le_add_right _ _
            onTime := Nat.le_add_right _ _
            alive := fun hlt => absurd hlt (lt_irrefl _)
            deadline := fun hlt => absurd hlt (lt_irrefl _) }
        · obtain ⟨hknown, hordered, hsoon, honTime, halive, hdeadline⟩ :=
            h.active other since due hbefore
          exact ⟨hknown, hordered, hsoon, honTime, halive, hdeadline⟩
      · intro other time hphase
        obtain ⟨-, heq⟩ | ⟨-, hbefore⟩ := phase_cases hphase
        · exact absurd heq (by simp)
        · obtain ⟨hknown, hends, hnoRound⟩ := h.crashed other time hbefore
          refine ⟨hknown, hends, fun hcounters running since due hrunning hlt => ?_⟩
          obtain rfl | hbefore := hactive running since due hrunning
          · exact absurd hlt (lt_irrefl _)
          · exact hnoRound hcounters running since due hbefore hlt
  · exact h

/-- An active instance counts its connections. -/
theorem Inv.withSerial (h : x.Inv config lateness) {serial : SerialCluster} {since due : Nat}
    (hphase : x.phase id = .active since due)
    (hlimited : SerialCluster.Limited config serial.store (serial.holds config))
    (hcounts : CountsFor config.keyPrefix id x.store serial.store)
    (htickets : ∀ issued ∈ serial.tickets, issued ∈ x.tickets ∨ issued.instanceId = id) :
    (x.withSerial serial).Inv config lateness where
  limited := hlimited
  keys := hcounts.keysOf (h.active id since due hphase).known h.keys
  unknown := h.unknown
  expiring := h.expiring
  beats := fun other hheartbeat => h.beats other (hcounts.hasHeartbeat.mp hheartbeat)
  counted := by
    intro subject other hcounter hidle
    obtain hbefore | rfl := hcounts.hasCounter hcounter
    · exact h.counted subject other hbefore hidle
    · exact absurd (hphase.symm.trans hidle) (by simp)
  issued := by
    intro issued hissued
    obtain hbefore | rfl := htickets issued hissued
    · exact h.issued issued hbefore
    · exact ⟨since, due, hphase⟩
  active := by
    intro other since due hother
    obtain ⟨hknown, hordered, hsoon, honTime, halive, hdeadline⟩ := h.active other since due hother
    exact ⟨hknown, hordered, hsoon, honTime, fun hlt => hcounts.hasHeartbeat.mpr (halive hlt),
      hdeadline⟩
  crashed := by
    intro other time hother
    obtain ⟨hknown, hends, hnoRound⟩ := h.crashed other time hother
    refine ⟨hknown, hends, fun ⟨subject, hnamed, hv6, hcounter⟩ => hnoRound ?_⟩
    obtain hbefore | rfl := hcounts.hasCounter hcounter
    · exact ⟨subject, hnamed, hv6, hbefore⟩
    · exact absurd (hphase.symm.trans hother) (by simp)

theorem startBackgroundTasks_active (hnot : ¬ (x.phase id).IsCrashed) :
    ∃ since due, (x.startBackgroundTasks id).phase id = .active since due := by
  unfold TimedCluster.startBackgroundTasks
  split
  · exact ⟨x.now, x.now, Function.update_self ..⟩
  · next hidle =>
      match hphase : x.phase id with
      | .idle => exact absurd hphase hidle
      | .active since due => exact ⟨since, due, rfl⟩
      | .crashed time =>
          rw [hphase] at hnot
          exact absurd trivial hnot

theorem startBackgroundTasks_serial :
    (x.startBackgroundTasks id).toSerialCluster = x.toSerialCluster := by
  unfold TimedCluster.startBackgroundTasks
  split <;> rfl

theorem Inv.call (h : x.Inv config lateness) (hsimple : Glob.Simple config.keyPrefix)
    {event : SerialEvent} (hclean : event.Clean) (hreads : event.ReadsAll) :
    (x.call config event).Inv config lateness := by
  cases event with
  | tryAcquire id addr app listing fates =>
      simp only [TimedCluster.call]
      split
      · next hruns =>
          obtain ⟨since, due, hphase⟩ := startBackgroundTasks_active hruns.2
          obtain ⟨hcounts, htickets⟩ :=
            SerialCluster.countsFor_tryAcquire listing fates x.toSerialCluster id addr hclean
          apply (h.startBackgroundTasks hruns.1).withSerial hphase
          · exact h.limited.tryAcquire hsimple hreads addr hclean
          · rw [startBackgroundTasks_serial]
            exact hcounts
          · rw [startBackgroundTasks_serial]
            exact htickets
      · exact h
  | drop index listing fates =>
      simp only [TimedCluster.call]
      obtain hsame | ⟨issued, hissued, hcounts, htickets⟩ :=
        SerialCluster.countsFor_drop listing fates h.limited index
      · rw [hsame]
        exact h
      · obtain ⟨since, due, hphase⟩ := h.issued issued hissued
        exact h.withSerial hphase h.limited.drop hcounts
          fun other hother => .inl (htickets other hother)

/-! ### Rounds -/

/-- A round finds the heartbeats of all instances that run. -/
theorem Inv.heard (h : x.Inv config lateness)
    (hfirst : ∀ other ∈ x.known, other ≠ id → (x.phase other).AwaitsFirstRound →
      x.store.HasHeartbeat config.keyPrefix other)
    {other : Uuid} {since due : Nat} (hphase : x.phase other = .active since due)
    (hne : other ≠ id) : x.store.HasHeartbeat config.keyPrefix other := by
  have hactive := h.active other since due hphase
  obtain hlt | heq := Nat.lt_or_eq_of_le hactive.ordered
  · exact hactive.alive hlt
  · refine hfirst other hactive.known hne ?_
    rw [hphase]
    exact heq

/-- What a round of an instance makes of the store. -/
structure Sweeps (config : RedisConfig) (id : Uuid) (store next : Store) : Prop where
  beats : ∀ other, next.HasHeartbeat config.keyPrefix other ↔
    other = id ∨ store.HasHeartbeat config.keyPrefix other
  kept : ∀ (subject : Subject) other, next.HasCounter config.keyPrefix subject other →
    store.HasCounter config.keyPrefix subject other
  swept : ∀ (subject : Subject) other, subject.WellNamed → ¬ subject.IsV6 →
    next.HasCounter config.keyPrefix subject other →
      other = id ∨ store.HasHeartbeat config.keyPrefix other
  keys : ∀ known, id ∈ known → store.KeysOf config.keyPrefix known →
    next.KeysOf config.keyPrefix known
  limited : ∀ holds, SerialCluster.Limited config store holds →
    (∀ hold ∈ holds, hold.instanceId = id ∨
      store.HasHeartbeat config.keyPrefix hold.instanceId) →
    SerialCluster.Limited config next holds

theorem sweeps_round (hsimple : Glob.Simple config.keyPrefix) (hcolon : colon ∉ config.keyPrefix)
    {store : Store} {known : List Uuid} (hkeys : store.KeysOf config.keyPrefix known)
    (hid : id ∈ known) (clock : Int) (listing : Text → Shuffle) (ipOrder appOrder : Shuffle) :
    Sweeps config id store (((config.limiter id).cleanupStaleInstances ipOrder appOrder).exec
      (Store.service listing)
      (store.insert (heartbeatKey config.keyPrefix id.text) clock)).2 := by
  have hremoves := (config.limiter id).removes_cleanupStaleInstances listing ipOrder appOrder
    (store.insert (heartbeatKey config.keyPrefix id.text) clock)
  have hwell := (hkeys.heartbeat hid clock).wellFormed
  have hstale := @RedisRateLimit.stale_iff (config.limiter id) _ hsimple hcolon hwell
  have hheartbeat := @RedisRateLimit.not_stale_heartbeat (config.limiter id) _ hsimple hcolon hwell
  constructor
  · intro other
    have hkept := (hremoves.mem_iff _).trans (and_iff_left (hheartbeat other.text))
    exact hkept.trans Store.hasHeartbeat_insert
  · intro subject other hcounter
    exact Store.hasCounter_insert.mp ((hremoves.mem_iff _).mp hcounter).1
  · intro subject other hnamed hv6 hcounter
    obtain ⟨hbefore, hnot⟩ := (hremoves.mem_iff _).mp hcounter
    by_contra hgone
    refine hnot ((hstale subject other).mpr ⟨?_, ?_, subject, hnamed, hv6, hbefore⟩)
    · exact fun heq => hgone (.inl heq)
    · exact fun hbeats => hgone (Store.hasHeartbeat_insert.mp hbeats)
  · intro known hid hkeys
    exact (hkeys.heartbeat hid clock).removes hremoves
  · intro holds hlimited hbeats
    have hbeaten : SerialCluster.Limited config
        (store.insert (heartbeatKey config.keyPrefix id.text) clock) holds :=
      ⟨hlimited.covers.heartbeat id.text clock, hlimited.clean, hlimited.limited⟩
    refine hbeaten.removes hremoves fun hold hhold hgone => ?_
    obtain ⟨hne, hnone, -⟩ := (hstale hold.subject hold.instanceId).mp hgone
    obtain heq | hbefore := hbeats hold hhold
    · exact hne heq
    · exact hnone (Store.hasHeartbeat_insert.mpr (.inr hbefore))

/-- What is held, an instance that runs holds. -/
theorem Inv.holds_active (h : x.Inv config lateness) {hold : Hold}
    (hhold : hold ∈ x.holds config) : ∃ since due, x.phase hold.instanceId = .active since due := by
  obtain ⟨issued, hissued, hheld⟩ := List.mem_flatMap.mp hhold
  obtain ⟨subject, -, rfl⟩ := List.mem_map.mp hheld
  exact h.issued issued hissued

theorem Inv.round (h : x.Inv config lateness) (hsimple : Glob.Simple config.keyPrefix)
    (hcolon : colon ∉ config.keyPrefix) (clock : Int) (listing : Text → Shuffle)
    (ipOrder appOrder : Shuffle)
    (hfirst : ∀ other ∈ x.known, other ≠ id → (x.phase other).AwaitsFirstRound →
      x.store.HasHeartbeat config.keyPrefix other) :
    (x.round config id clock listing ipOrder appOrder).Inv config lateness := by
  unfold TimedCluster.round
  split
  · next since due hphase =>
      split
      · next hdue =>
          have hid := h.active id since due hphase
          have hordered := hid.ordered
          have hsweeps := sweeps_round hsimple hcolon h.keys hid.known clock listing ipOrder
            appOrder
          constructor
          · refine hsweeps.limited _ h.limited fun hold hhold => ?_
            obtain ⟨since, due, hrunning⟩ := h.holds_active hhold
            by_cases heq : hold.instanceId = id
            · exact .inl heq
            · exact .inr (h.heard hfirst hrunning heq)
          · exact hsweeps.keys _ hid.known h.keys
          · intro other hunknown
            have hne : other ≠ id := fun heq => hunknown (heq ▸ hid.known)
            exact (Function.update_of_ne hne ..).trans (h.unknown other hunknown)
          · intro key deadline hdeadline
            obtain ⟨⟨other, rfl | hother, hkey⟩, hle⟩ :=
              h.expiring_updateHeartbeat clock hdeadline
            · exact ⟨⟨other, hid.known, hkey⟩, hle⟩
            · exact ⟨⟨other, hother, hkey⟩, hle⟩
          · intro other hheartbeat
            exact h.beats_updateHeartbeat clock
              (Store.hasHeartbeat_insert.mpr ((hsweeps.beats other).mp hheartbeat))
          · intro subject other hcounter hidle
            obtain ⟨-, heq⟩ | ⟨-, hbefore⟩ := phase_cases hidle
            · exact absurd heq (by simp)
            · exact h.counted subject other (hsweeps.kept subject other hcounter) hbefore
          · intro issued hissued
            obtain ⟨since', due', hrunning⟩ := h.issued issued hissued
            by_cases heq : issued.instanceId = id
            · exact ⟨since, x.now + roundPause, (congrArg _ heq).trans (Function.update_self ..)⟩
            · exact ⟨since', due', (Function.update_of_ne heq ..).trans hrunning⟩
          · intro other since' due' hrunning
            obtain ⟨rfl, heq⟩ | ⟨hne, hbefore⟩ := phase_cases hrunning
            · cases heq
              exact {
                known := hid.known
                ordered := by omega
                soon := le_rfl
                onTime := by dsimp only [updateHeartbeat]; omega
                alive := fun _ => (hsweeps.beats other).mpr (.inl rfl)
                deadline := fun _ => by
                  rw [roundPause_add]
                  exact Table.insert_self _ _ _ }
            · have hactive := h.active other since' due' hbefore
              exact {
                known := hactive.known
                ordered := hactive.ordered
                soon := hactive.soon
                onTime := hactive.onTime
                alive := fun hlt => (hsweeps.beats other).mpr (.inr (hactive.alive hlt))
                deadline := fun hlt => (updateHeartbeat_deadlines_of_ne hne clock).trans
                  (hactive.deadline hlt) }
          · intro other time hcrash
            obtain ⟨-, heq⟩ | ⟨hne, hbefore⟩ := phase_cases hcrash
            · exact absurd heq (by simp)
            · have hcrashed := h.crashed other time hbefore
              refine ⟨hcrashed.known, fun deadline hdeadline => hcrashed.ends deadline
                ((updateHeartbeat_deadlines_of_ne hne clock).symm.trans hdeadline), ?_⟩
              rintro ⟨subject, hnamed, hv6, hcounter⟩ running since' due' hrunning hlt
              obtain ⟨-, heq⟩ | ⟨-, hrunningBefore⟩ := phase_cases hrunning
              · -- the counter was spared, so the heartbeat was still there
                cases heq
                have hheartbeat :=
                  (hsweeps.swept subject other hnamed hv6 hcounter).resolve_left hne
                obtain ⟨deadline, hdeadline, hafter⟩ := h.beats other hheartbeat
                have hends := hcrashed.ends deadline hdeadline
                omega
              · exact hcrashed.noRound ⟨subject, hnamed, hv6, hsweeps.kept subject other hcounter⟩
                  running since' due' hrunningBefore hlt
      · exact h
  · exact h

/-! ### Crashes and time -/

theorem Inv.crash (h : x.Inv config lateness) : (x.crash id).Inv config lateness := by
  unfold TimedCluster.crash
  split
  · next hruns =>
      constructor
      · refine h.limited.subperm (List.Sublist.subperm ?_)
        exact List.filter_sublist.flatMap _
      · exact h.keys
      · intro other hunknown
        have hne : other ≠ id := fun heq => hunknown (heq ▸ hruns.1)
        exact (Function.update_of_ne hne ..).trans (h.unknown other hunknown)
      · exact h.expiring
      · exact h.beats
      · intro subject other hcounter hidle
        obtain ⟨-, heq⟩ | ⟨-, hbefore⟩ := phase_cases hidle
        · exact absurd heq (by simp)
        · exact h.counted subject other hcounter hbefore
      · intro issued hissued
        obtain ⟨hmem, hne⟩ := List.mem_filter.mp hissued
        obtain ⟨since, due, hrunning⟩ := h.issued issued hmem
        exact ⟨since, due, (Function.update_of_ne (of_decide_eq_true hne) ..).trans hrunning⟩
      · intro other since due hrunning
        obtain ⟨-, heq⟩ | ⟨-, hbefore⟩ := phase_cases hrunning
        · exact absurd heq (by simp)
        · obtain ⟨hknown, hordered, hsoon, honTime, halive, hdeadline⟩ :=
            h.active other since due hbefore
          exact ⟨hknown, hordered, hsoon, honTime, halive, hdeadline⟩
      · intro other time hcrash
        have hrunning : ∀ {running since due}, Function.update x.phase id (.crashed x.now) running =
            .active since due → x.phase running = .active since due := by
          intro running since due hphase
          obtain ⟨-, heq⟩ | ⟨-, hbefore⟩ := phase_cases hphase
          · exact absurd heq (by simp)
          · exact hbefore
        obtain ⟨rfl, heq⟩ | ⟨-, hbefore⟩ := phase_cases hcrash
        · cases heq
          refine ⟨hruns.1, fun deadline hdeadline => (h.expiring _ deadline hdeadline).2, ?_⟩
          intro _ running since due hphase _
          have hsoon := (h.active running since due (hrunning hphase)).soon
          rw [heartbeatLife_eq]
          omega
        · obtain ⟨hknown, hends, hnoRound⟩ := h.crashed other time hbefore
          exact ⟨hknown, hends, fun hcounters running since due hphase hlt =>
            hnoRound hcounters running since due (hrunning hphase) hlt⟩
  · exact h

theorem Inv.pass (h : x.Inv config lateness) (hlate : lateness < heartbeatLife - roundPause)
    {duration : Nat}
    (hontime : ∀ id ∈ x.known, ∀ due ∈ (x.phase id).due, x.now + duration ≤ due + lateness) :
    (x.pass duration).Inv config lateness := by
  have hremoves := x.store.removes_expire x.deadlines (x.now + duration)
  have hnoCounter : ∀ (subject : Subject) (id : Uuid), ¬ ∃ deadline,
      x.deadlines (subject.key config.keyPrefix id.text) = some deadline ∧
        deadline ≤ x.now + duration := by
    rintro subject id ⟨deadline, hdeadline, -⟩
    obtain ⟨⟨other, -, heq⟩, -⟩ := h.expiring _ deadline hdeadline
    exact heartbeatKey_ne heq.symm
  have hcounter : ∀ (subject : Subject) (id : Uuid),
      (x.pass duration).store.HasCounter config.keyPrefix subject id →
        x.store.HasCounter config.keyPrefix subject id :=
    fun subject id hafter => ((hremoves.mem_iff _).mp hafter).1
  constructor
  · exact h.limited.removes hremoves fun hold _ => hnoCounter hold.subject hold.instanceId
  · exact h.keys.removes hremoves
  · exact h.unknown
  · intro key deadline hdeadline
    obtain ⟨hkey, hle⟩ := h.expiring key deadline hdeadline
    refine ⟨hkey, ?_⟩
    dsimp only [TimedCluster.pass]
    omega
  · intro id hheartbeat
    obtain ⟨hbefore, hnot⟩ := (hremoves.mem_iff _).mp hheartbeat
    obtain ⟨deadline, hdeadline, -⟩ := h.beats id hbefore
    refine ⟨deadline, hdeadline, ?_⟩
    by_contra hover
    exact hnot ⟨deadline, hdeadline, not_lt.mp hover⟩
  · exact fun subject id hafter => h.counted subject id (hcounter subject id hafter)
  · exact h.issued
  · intro id since due hphase
    obtain ⟨hknown, hordered, hsoon, -, halive, hdeadline⟩ := h.active id since due hphase
    have hnow : x.now + duration ≤ due + lateness :=
      hontime id hknown due (congrArg InstancePhase.due hphase)
    refine ⟨hknown, hordered, ?_, hnow, ?_, hdeadline⟩
    · dsimp only [TimedCluster.pass]
      omega
    · intro hlt
      refine (hremoves.mem_iff _).mpr ⟨halive hlt, ?_⟩
      rintro ⟨deadline, hother, hover⟩
      obtain rfl := Option.some.inj ((hdeadline hlt).symm.trans hother)
      omega
  · intro id time hphase
    obtain ⟨hknown, hends, hnoRound⟩ := h.crashed id time hphase
    exact ⟨hknown, hends, fun ⟨subject, hnamed, hv6, hafter⟩ =>
      hnoRound ⟨subject, hnamed, hv6, hcounter subject id hafter⟩⟩

/-! ### The run -/

/-- The names of the event are clean, and no `GET` of it fails. -/
def ReadsAll : TimedEvent → Prop
  | .call event => event.Clean ∧ event.ReadsAll
  | _ => True

theorem Inv.step (h : x.Inv config lateness) (hsimple : Glob.Simple config.keyPrefix)
    (hcolon : colon ∉ config.keyPrefix) (hlate : lateness < heartbeatLife - roundPause)
    {event : TimedEvent} (hpunctual : x.Punctual config lateness event) (hreads : ReadsAll event) :
    (x.step config event).Inv config lateness := by
  cases event with
  | launch id clock =>
      simp only [TimedCluster.step, TimedCluster.launch]
      split
      · exact h
      · next hnew => exact h.launch hnew clock
  | call event => exact h.call hsimple hreads.1 hreads.2
  | round id clock listing ipOrder appOrder =>
      exact h.round hsimple hcolon clock listing ipOrder appOrder hpunctual
  | crash id => exact h.crash
  | pass duration => exact h.pass hlate hpunctual

/-- Who has left a counter: an instance that runs, or one that crashed not long ago, or the
counters of the instance are all about IPv6 addresses. -/
theorem Inv.left_behind (h : x.Inv config lateness) {subject : Subject}
    (hcounter : x.store.HasCounter config.keyPrefix subject id) :
    (∃ since due, x.phase id = .active since due) ∨
    ∃ time, x.phase id = .crashed time ∧
      ((∀ other since due, x.phase other = .active since due →
        x.now ≤ max since (time + heartbeatLife + roundPause) + lateness) ∨
      ∀ other : Subject, other.WellNamed → x.store.HasCounter config.keyPrefix other id →
        other.IsV6) := by
  match hphase : x.phase id with
  | .idle => exact absurd hphase (h.counted subject id hcounter)
  | .active since due => exact .inl ⟨since, due, rfl⟩
  | .crashed time =>
      refine .inr ⟨time, rfl, ?_⟩
      by_cases hv4 : ∃ subject : Subject, subject.WellNamed ∧ ¬ subject.IsV6 ∧
          x.store.HasCounter config.keyPrefix subject id
      · left
        intro other since due hrunning
        have hactive := h.active other since due hrunning
        have honTime := hactive.onTime
        obtain hlt | heq := Nat.lt_or_eq_of_le hactive.ordered
        · have hnoRound := (h.crashed id time hphase).noRound hv4 other since due hrunning hlt
          omega
        · omega
      · right
        intro other hnamed hother
        by_contra hv6
        exact hv4 ⟨other, hnamed, hv6, hother⟩

/-- If the rounds are punctual, no counter of an instance that runs falls behind its tickets and
the limits hold over all instances, and the counters of a crashed instance are gone in time. -/
theorem run_reclaims (config : RedisConfig) (hsimple : Glob.Simple config.keyPrefix)
    (hcolon : colon ∉ config.keyPrefix) (permits : Uuid → Nat) (lateness : Nat)
    (hlate : lateness < heartbeatLife - roundPause) (events : List TimedEvent)
    (hreads : ∀ event ∈ events, ReadsAll event)
    (hpunctual : Along (step config) (Punctual config lateness) (start permits) events) :
    let x := run (step config) (start permits) events
    Covers config.keyPrefix x.store (x.holds config) ∧
    ((0 < config.perIpLimit → ∀ addr,
      x.tickets.countP (fun issued => issued.ticket.addr = addr) ≤ config.perIpLimit) ∧
    ∀ app, x.tickets.countP (fun issued => issued.ticket.app = some app) ≤
      (config.perAppLimit app).getD 0) ∧
    ∀ (subject : Subject) id, x.store.HasCounter config.keyPrefix subject id →
      (∃ since due, x.phase id = .active since due) ∨
      ∃ time, x.phase id = .crashed time ∧
        ((∀ other since due, x.phase other = .active since due →
          x.now ≤ max since (time + heartbeatLife + roundPause) + lateness) ∨
        ∀ other : Subject, other.WellNamed → x.store.HasCounter config.keyPrefix other id →
          other.IsV6) := by
  intro x
  have h : x.Inv config lateness :=
    Along.run_invariant (I := Inv config lateness)
      (fun y event hI hguard => hI.step hsimple hcolon hlate hguard.1 hguard.2)
      (hpunctual.and_forall hreads) (inv_start permits)
  exact ⟨h.limited.covers, h.limited.tickets_le, fun subject id hcounter =>
    h.left_behind hcounter⟩

/-! ## An instance that takes over -/

open Cluster (firstInstance secondInstance oneConnection client)

/-- The first instance crashes with its connection. The second one has the client wait for half a
minute. -/
def takesOver : List TimedEvent :=
  let asks (id : Uuid) : TimedEvent :=
    .call (.tryAcquire id client none (fun _ => .identity) (SerialCluster.fails fun _ => false))
  [.launch firstInstance 1750000000, asks firstInstance,
    .round firstInstance 1750000000 (fun _ => .identity) .identity .identity,
    .pass 1000, .crash firstInstance,
    .launch secondInstance 1750000001, asks secondInstance,
    .round secondInstance 1750000001 (fun _ => .identity) .identity .identity,
    .pass 29500, .round secondInstance 1750000030 (fun _ => .identity) .identity .identity,
    asks secondInstance]

theorem run_reclaims_takesOver :
    let x := run (step oneConnection) (start fun _ => 10) takesOver
    x.tickets.map (·.instanceId) = [secondInstance] ∧
    (run (step oneConnection) (start fun _ => 10) (takesOver.take 8)).tickets = [] ∧
    ∀ addr, x.tickets.countP (fun issued => issued.ticket.addr = addr) ≤ 1 := by
  have hpunctual : Along (step oneConnection) (Punctual oneConnection 24999)
      (start fun _ => 10) takesOver := by decide +kernel
  have hreads : ∀ event ∈ takesOver, ReadsAll event := by
    simp [takesOver, ReadsAll, SerialEvent.Clean, SerialEvent.ReadsAll, SerialCluster.fails]
  exact ⟨by decide +kernel, by decide +kernel,
    (run_reclaims oneConnection (by decide) (by decide) _ 24999 (by decide) takesOver hreads
      hpunctual).2.1.1 (by decide)⟩

-- the first instance has its first connection when its heartbeat is gone already: a round of the
-- second one comes before its own, removes the counter, and the client is connected twice
example :
    let other : IpAddr := .v4 { octets := (192, 0, 2, 2) }
    let asks (id : Uuid) (addr : IpAddr) : TimedEvent :=
      .call (.tryAcquire id addr none (fun _ => .identity) (SerialCluster.fails fun _ => false))
    (run (step oneConnection) (start fun _ => 10)
      [.launch firstInstance 1750000000, .pass 31000, .launch secondInstance 1750000031,
        asks secondInstance other, asks firstInstance client,
        .round secondInstance 1750000031 (fun _ => .identity) .identity .identity,
        asks secondInstance client]).tickets.countP
      (fun issued => issued.ticket.addr = client) = 2 := by
  decide +kernel

end TimedCluster

end RollupBoost
