import RollupBoost.RateLimit.Failures

/-!
# Limits while Redis fails

A failure that stops an acquisition can only leave a counter ahead of its tickets, and then the
limiter admits fewer connections than it might. The one failure that is not noticed is that of a
`GET`: the counter is taken as zero, and the connections behind it are not seen. If no `GET`
fails, and the calls come one after the other, no address and no app has more tickets than its
limit, over all instances and whatever else fails.
-/

namespace RollupBoost

open Machine

/-- Instances whose calls come one after the other. -/
structure SerialCluster where
  store : Store
  available : Uuid → Nat
  tickets : List IssuedTicket

inductive SerialEvent where
  | tryAcquire (id : Uuid) (addr : IpAddr) (app : Option Text) (listing : Text → Shuffle)
      (fates : Fates)
  | drop (index : Nat) (listing : Text → Shuffle) (fates : Fates)

namespace SerialEvent

/-- No `GET` of the call fails. -/
def ReadsAll : SerialEvent → Prop
  | .tryAcquire _ _ _ _ fates => ∀ key, fates (.command (.get key)) = .done
  | .drop _ _ _ => True

def Clean : SerialEvent → Prop
  | .tryAcquire _ _ app _ _ => ∀ name ∈ app, (Subject.app name).Clean
  | .drop _ _ _ => True

end SerialEvent

namespace SerialCluster

open RedisRateLimit (Fallible.tryAcquire Fallible.release Fallible.acquisitionMonitor
  Fallible.releaseMonitor)

variable (config : RedisConfig)

def start (store : Store) (permits : Uuid → Nat) : SerialCluster where
  store := store
  available := permits
  tickets := []

def holds (x : SerialCluster) : List Hold := x.tickets.flatMap (IssuedTicket.holds config)

def tryAcquire (x : SerialCluster) (id : Uuid) (addr : IpAddr) (app : Option Text)
    (listing : Text → Shuffle) (fates : Fates) : SerialCluster :=
  if x.available id = 0 then x
  else
    match (Fallible.tryAcquire (config.limiter id) addr app).exec (Store.attempt listing fates)
      x.store with
    | (.ok ticket, store) =>
        { store := store
          available := Function.update x.available id (x.available id - 1)
          tickets := x.tickets ++ [{ instanceId := id, ticket := ticket }] }
    | (.error _, store) => { x with store := store }

def drop (x : SerialCluster) (index : Nat) (listing : Text → Shuffle) (fates : Fates) :
    SerialCluster :=
  match x.tickets[index]? with
  | some { instanceId := id, ticket := ticket } =>
      { store := ((Fallible.release (config.limiter id) ticket.addr ticket.app).exec
          (Store.attempt listing fates) x.store).2
        available := Function.update x.available id (x.available id + 1)
        tickets := x.tickets.eraseIdx index }
  | none => x

def step (x : SerialCluster) : SerialEvent → SerialCluster
  | .tryAcquire id addr app listing fates => x.tryAcquire config id addr app listing fates
  | .drop index listing fates => x.drop config index listing fates

/-! ## One call -/

/-- The counters cover the holds, and the holds keep to the limits. -/
structure Limited (store : Store) (holds : List Hold) : Prop where
  covers : Covers config.keyPrefix store holds
  clean : ∀ hold ∈ holds, hold.subject.Clean
  limited : ∀ subject, holds.countP (fun hold => hold.subject = subject) ≤ config.limit subject

/-- What the acquisition has read, and what it will read now, is the whole of the subject. -/
def Scanned (store : Store) (record : Acquisition) : Prop :=
  ∀ subject rest scan, record.pending = subject :: rest → record.scan = some scan →
    scan.sum + (scan.unread.map fun key => usizeOrZero (store.lookup key)).sum =
      store.total (subject.pattern config.keyPrefix)

variable {config} {store : Store} {holds : List Hold} {id : Uuid} {listing : Text → Shuffle}
variable {fates : Fates} {request : Request} {record : Acquisition}

theorem Limited.perm {holds' : List Hold} (h : Limited config store holds)
    (hperm : holds.Perm holds') : Limited config store holds' where
  covers := h.covers.subperm hperm.symm.subperm
  clean := fun hold hmem => h.clean hold (hperm.mem_iff.mpr hmem)
  limited := fun subject => hperm.countP_eq _ ▸ h.limited subject

theorem Limited.subperm {holds' : List Hold} (h : Limited config store holds)
    (hsub : holds'.Subperm holds) : Limited config store holds' where
  covers := h.covers.subperm hsub
  clean := fun hold hmem => h.clean hold (hsub.subset hmem)
  limited := fun subject => (hsub.countP_le _).trans (h.limited subject)

/-- A counter below the limit is incremented. -/
theorem Limited.incr (h : Limited config store holds) (hsimple : Glob.Simple config.keyPrefix)
    {hold : Hold} (hclean : hold.subject.Clean)
    (hroom : store.total (hold.subject.pattern config.keyPrefix) < config.limit hold.subject) :
    Limited config (store.apply (.incr (hold.key config.keyPrefix))) (hold :: holds) where
  covers := h.covers.incr hold
  clean := by
    intro other hmem
    obtain rfl | hmem := List.mem_cons.mp hmem
    · exact hclean
    · exact h.clean other hmem
  limited := by
    intro subject
    have hbefore := h.limited subject
    rw [List.countP_cons]
    by_cases hsubject : hold.subject = subject
    · -- every hold on the subject is in a counter that its pattern finds
      have hfound : holds.countP (fun other => other.subject = subject) ≤
          holds.countP (fun other =>
            globMatches (subject.pattern config.keyPrefix) (other.key config.keyPrefix)) := by
        refine List.countP_mono_left fun other hmem heq => ?_
        rw [decide_eq_true_eq] at heq
        rw [← heq]
        exact Subject.matches_own_subject hsimple (h.clean other hmem)
      have htotal := h.covers.countP_le_total (subject.pattern config.keyPrefix)
      rw [hsubject] at hroom
      simp only [hsubject, decide_true, if_true]
      omega
    · simp only [hsubject, decide_false, Bool.false_eq_true, if_false]
      omega

theorem scanned_of_none (h : record.scan = none) : Scanned config store record :=
  fun _ _ _ _ hscan => absurd (h.symm.trans hscan) (by simp)

/-- A request of an acquisition whose reads all succeed. -/
theorem Limited.acquisition {others : List Hold} (hsimple : Glob.Simple config.keyPrefix)
    (hreads : ∀ key, fates (.command (.get key)) = .done)
    (hclean : ∀ subject ∈ record.pending, subject.Clean)
    (hmay : (Fallible.acquisitionMonitor (config.limiter id)).may record request)
    (h : Limited config store (holdsOf id record.held ++ others))
    (hscanned : Scanned config store record) :
    Limited config (store.attempt listing fates request).2
      (holdsOf id ((Fallible.acquisitionMonitor (config.limiter id)).next record request
        (store.attempt listing fates request).1).held ++ others) ∧
    Scanned config (store.attempt listing fates request).2
      ((Fallible.acquisitionMonitor (config.limiter id)).next record request
        (store.attempt listing fates request).1) ∧
    ∀ subject ∈ ((Fallible.acquisitionMonitor (config.limiter id)).next record request
      (store.attempt listing fates request).1).pending, subject.Clean := by
  cases request with
  | getConnection => exact ⟨h, hscanned, hclean⟩
  | command command =>
      cases command with
      | keys pattern =>
          obtain ⟨subject, rest, hpending, rfl⟩ := hmay
          simp only [Store.attempt]
          cases fates (.command (.keys (subject.pattern (config.limiter id).keyPrefix))) with
          | done =>
              refine ⟨h, ?_, hclean⟩
              intro other rest' scan hother hscan
              obtain ⟨rfl, -⟩ := List.cons.inj (hpending.symm.trans hother)
              obtain rfl := Option.some.inj hscan
              rw [Nat.zero_add]
              exact (((listing _).perm _).map _).sum_eq
          | refused => exact ⟨h, scanned_of_none rfl, hclean⟩
          | lost => exact ⟨h, scanned_of_none rfl, hclean⟩
      | get key =>
          obtain ⟨rest, sum, hscan⟩ := hmay
          simp only [Store.attempt, hreads]
          refine ⟨h, ?_, hclean⟩
          intro subject rest' scan hpending hnext
          have hbefore := hscanned subject rest' _ hpending hscan
          simp only [Fallible.acquisitionMonitor, hscan, Option.map_some, List.tail_cons,
            Option.some.injEq] at hnext
          subst hnext
          rw [List.map_cons, List.sum_cons, ← Nat.add_assoc] at hbefore
          exact hbefore
      | incr key =>
          obtain ⟨subject, rest, sum, hpending, rfl, hscan, hroom⟩ := hmay
          have htotal := hscanned subject rest _ hpending hscan
          rw [List.map_nil, List.sum_nil, Nat.add_zero] at htotal
          have hincr : Limited config
              (store.apply (.incr (subject.key config.keyPrefix id.text)))
              (⟨subject, id⟩ :: (holdsOf id record.held ++ others)) :=
            h.incr hsimple (show (Hold.mk subject id).subject.Clean from
              hclean subject (by simp [hpending])) (htotal ▸ hroom)
          have hpendingClean : ∀ subject ∈ record.pending.tail, subject.Clean :=
            fun other hother => hclean other (List.mem_of_mem_tail hother)
          simp only [Store.attempt]
          cases fates (.command (.incr (subject.key (config.limiter id).keyPrefix
              (config.limiter id).instanceId.text))) with
          | done =>
              refine ⟨hincr.perm ?_, scanned_of_none rfl, hpendingClean⟩
              simp only [Fallible.acquisitionMonitor, hpending, List.head?_cons,
                Option.toList_some, Option.isSome_some, if_true, holdsOf, List.map_append,
                List.map_singleton, List.append_assoc, List.singleton_append]
              exact List.perm_middle.symm
          | refused =>
              refine ⟨?_, scanned_of_none rfl, hpendingClean⟩
              show Limited config _ (holdsOf id (record.held ++ []) ++ others)
              rw [List.append_nil]
              exact h
          | lost =>
              refine ⟨?_, scanned_of_none rfl, hpendingClean⟩
              show Limited config _ (holdsOf id (record.held ++ []) ++ others)
              rw [List.append_nil]
              exact hincr.subperm (List.sublist_cons_self _ _).subperm
      | _ => exact hmay.elim

/-- A request of a release. -/
theorem Limited.release {remaining : List Subject} {others : List Hold}
    (hmay : (Fallible.releaseMonitor (config.limiter id)).may remaining request)
    (h : Limited config store (holdsOf id remaining ++ others)) :
    Limited config (store.attempt listing fates request).2
      (holdsOf id ((Fallible.releaseMonitor (config.limiter id)).next remaining request
        (store.attempt listing fates request).1) ++ others) := by
  cases request with
  | getConnection => exact h
  | command command =>
      cases command with
      | decr key =>
          obtain ⟨subject, rest, rfl, rfl⟩ := hmay
          have hrest : (holdsOf id rest ++ others).Subperm
              (holdsOf id (subject :: rest) ++ others) := (List.sublist_cons_self _ _).subperm
          have hcovers : Covers config.keyPrefix store
              (⟨subject, id⟩ :: (holdsOf id rest ++ others)) := h.covers
          have hdecr : Limited config
              (store.apply (.decr ((Hold.mk subject id).key config.keyPrefix)))
              (holdsOf id rest ++ others) :=
            ⟨hcovers.decr, (h.subperm hrest).clean, (h.subperm hrest).limited⟩
          simp only [Store.attempt]
          cases fates (.command (.decr (subject.key (config.limiter id).keyPrefix
              (config.limiter id).instanceId.text))) with
          | done => exact hdecr
          | refused => exact h.subperm hrest
          | lost => exact hdecr
      | _ => exact hmay.elim

theorem clean_subjects (config : RedisConfig) (addr : IpAddr) {app : Option Text}
    (hclean : ∀ name ∈ app, (Subject.app name).Clean) :
    ∀ subject ∈ config.subjects { addr := addr, app := app }, subject.Clean := by
  intro subject hsubject
  obtain haddr | happ := List.mem_append.mp hsubject
  · split at haddr
    · rw [List.mem_singleton.mp haddr]
      trivial
    · exact absurd haddr (by simp)
  · cases app with
    | none => exact absurd happ (by simp)
    | some name =>
        rw [List.mem_singleton.mp happ]
        exact hclean name rfl

variable {x : SerialCluster} {index : Nat}

theorem Limited.tryAcquire (hsimple : Glob.Simple config.keyPrefix)
    (hreads : ∀ key, fates (.command (.get key)) = .done) (addr : IpAddr) {app : Option Text}
    (hclean : ∀ name ∈ app, (Subject.app name).Clean)
    (h : Limited config x.store (x.holds config)) :
    Limited config (x.tryAcquire config id addr app listing fates).store
      ((x.tryAcquire config id addr app listing fates).holds config) := by
  simp only [SerialCluster.tryAcquire]
  split
  · exact h
  · have hpending := clean_subjects config addr hclean
    obtain ⟨record, hpost, hlimited, -, -⟩ : ∃ record,
        (∀ ticket, ((Fallible.tryAcquire (config.limiter id) addr app).exec
          (Store.attempt listing fates) x.store).1 = .ok ticket →
            record.held = config.subjects ticket) ∧
        Limited config ((Fallible.tryAcquire (config.limiter id) addr app).exec
          (Store.attempt listing fates) x.store).2 (holdsOf id record.held ++ x.holds config) ∧
        Scanned config ((Fallible.tryAcquire (config.limiter id) addr app).exec
          (Store.attempt listing fates) x.store).2 record ∧
        ∀ subject ∈ record.pending, subject.Clean :=
      (RedisRateLimit.Fallible.tryAcquire_obeys (config.limiter id) addr app).exec_invariant
        (I := fun store record => Limited config store (holdsOf id record.held ++ x.holds config) ∧
          Scanned config store record ∧ ∀ subject ∈ record.pending, subject.Clean)
        ⟨h, scanned_of_none rfl, hpending⟩
        (fun store record request hI hmay =>
          Limited.acquisition hsimple hreads hI.2.2 hmay hI.1 hI.2.1)
    split
    · next ticket store hresult =>
        rw [hresult] at hpost hlimited
        rw [hpost ticket rfl] at hlimited
        refine hlimited.perm ?_
        simp only [SerialCluster.holds, List.flatMap_append, List.flatMap_singleton]
        exact List.perm_append_comm
    · next error store hresult =>
        rw [hresult] at hlimited
        exact hlimited.subperm (List.sublist_append_right _ _).subperm

theorem Limited.drop (h : Limited config x.store (x.holds config)) :
    Limited config (x.drop config index listing fates).store
      ((x.drop config index listing fates).holds config) := by
  simp only [SerialCluster.drop]
  split
  · next id ticket hticket =>
      obtain ⟨hlt, hget⟩ := List.getElem?_eq_some_iff.mp hticket
      have hperm := ((List.getElem_cons_eraseIdx_perm hlt).symm).flatMap_right
        (IssuedTicket.holds config)
      rw [hget, List.flatMap_cons] at hperm
      obtain ⟨remaining, -, hlimited⟩ : ∃ remaining : List Subject, True ∧
          Limited config ((Fallible.release (config.limiter id) ticket.addr ticket.app).exec
            (Store.attempt listing fates) x.store).2
            (holdsOf id remaining ++
              (x.tickets.eraseIdx index).flatMap (IssuedTicket.holds config)) :=
        (RedisRateLimit.Fallible.release_obeys (config.limiter id) ticket.addr
          ticket.app).exec_invariant
          (I := fun store remaining => Limited config store (holdsOf id remaining ++
            (x.tickets.eraseIdx index).flatMap (IssuedTicket.holds config)))
          (h.perm hperm) (fun store remaining request hI hmay => Limited.release hmay hI)
      exact hlimited.subperm (List.sublist_append_right _ _).subperm
  · exact h

theorem Limited.step (hsimple : Glob.Simple config.keyPrefix) {event : SerialEvent}
    (hclean : event.Clean) (hreads : event.ReadsAll)
    (h : Limited config x.store (x.holds config)) :
    Limited config (x.step config event).store ((x.step config event).holds config) := by
  cases event with
  | tryAcquire id addr app listing fates => exact h.tryAcquire hsimple hreads addr hclean
  | drop index listing fates => exact h.drop

theorem Limited.run (hsimple : Glob.Simple config.keyPrefix) {events : List SerialEvent}
    (hclean : ∀ event ∈ events, event.Clean) (hreads : ∀ event ∈ events, event.ReadsAll)
    (h : Limited config x.store (x.holds config)) :
    Limited config (Machine.run (SerialCluster.step config) x events).store
      ((Machine.run (SerialCluster.step config) x events).holds config) := by
  induction events generalizing x with
  | nil => exact h
  | cons event events ih =>
      exact ih (fun e he => hclean e (List.mem_cons_of_mem _ he))
        (fun e he => hreads e (List.mem_cons_of_mem _ he))
        (h.step hsimple (hclean event List.mem_cons_self) (hreads event List.mem_cons_self))

/-- The limits on holds are limits on tickets. -/
theorem Limited.tickets_le (h : Limited config x.store (x.holds config)) :
    (0 < config.perIpLimit → ∀ addr,
      x.tickets.countP (fun issued => issued.ticket.addr = addr) ≤ config.perIpLimit) ∧
    ∀ app, x.tickets.countP (fun issued => issued.ticket.app = some app) ≤
      (config.perAppLimit app).getD 0 := by
  constructor
  · intro hpos addr
    refine (Cluster.countP_tickets_le config _ (.ip addr) ?_).trans (h.limited (.ip addr))
    intro issued haddr
    simp [RedisConfig.subjects, hpos, of_decide_eq_true haddr]
  · intro app
    refine (Cluster.countP_tickets_le config _ (.app app) ?_).trans (h.limited (.app app))
    intro issued happ
    simp [RedisConfig.subjects, of_decide_eq_true happ]

/-- No address and no app has more tickets than its limit, over all instances, if the calls come
one after the other and no `GET` fails. Every other request may fail in any way. -/
theorem run_limits_with_failures (hsimple : Glob.Simple config.keyPrefix) (store : Store)
    (permits : Uuid → Nat)
    (hstore : ∀ counter : Hold, 0 ≤ store.value (counter.key config.keyPrefix))
    (events : List SerialEvent) (hclean : ∀ event ∈ events, event.Clean)
    (hreads : ∀ event ∈ events, event.ReadsAll) :
    (0 < config.perIpLimit → ∀ addr,
      (Machine.run (step config) (start store permits) events).tickets.countP
        (fun issued => issued.ticket.addr = addr) ≤ config.perIpLimit) ∧
    ∀ app, (Machine.run (step config) (start store permits) events).tickets.countP
      (fun issued => issued.ticket.app = some app) ≤ (config.perAppLimit app).getD 0 := by
  have hstart : Limited config (start store permits).store ((start store permits).holds config) :=
    ⟨fun counter => by simpa [start, SerialCluster.holds] using hstore counter,
      by simp [start, SerialCluster.holds], by simp [start, SerialCluster.holds]⟩
  exact (hstart.run hsimple hclean hreads).tickets_le

/-! ## Two instances and one connection -/

def fails (failed : Request → Bool) : Fates :=
  fun request => if failed request then .refused else .done

/-- The connection ends, but Redis does not learn of it, so there is no room for the next one. -/
def lostRelease : List SerialEvent :=
  [.tryAcquire Cluster.firstInstance Cluster.client none (fun _ => .identity)
      (fails fun _ => false),
    .drop 0 (fun _ => .identity) (fails fun _ => true),
    .tryAcquire Cluster.secondInstance Cluster.client none (fun _ => .identity)
      (fails fun _ => false)]

theorem run_limits_with_lost_release :
    (Machine.run (step Cluster.oneConnection) (start ∅ fun _ => 10) lostRelease).tickets.countP
      (fun issued => issued.ticket.addr = Cluster.client) ≤ 1 ∧
    (Machine.run (step Cluster.oneConnection) (start ∅ fun _ => 10) lostRelease).tickets = [] := by
  have hsimple : Glob.Simple Cluster.oneConnection.keyPrefix := by decide
  refine ⟨(run_limits_with_failures hsimple ∅ _ ?_ lostRelease ?_ ?_).1 (by decide) Cluster.client,
    by decide +kernel⟩
  · intro counter
    simp [Store.value]
  · simp [lostRelease, SerialEvent.Clean]
  · simp [lostRelease, SerialEvent.ReadsAll, fails]

/-- The second instance lists the counter of the first and fails to read it. -/
def failedRead : List SerialEvent :=
  [.tryAcquire Cluster.firstInstance Cluster.client none (fun _ => .identity)
      (fails fun _ => false),
    .tryAcquire Cluster.secondInstance Cluster.client none (fun _ => .identity)
      (fails fun request => request matches .command (.get _))]

/-- Two tickets where one is allowed. -/
theorem run_failed_read :
    (Machine.run (step Cluster.oneConnection) (start ∅ fun _ => 10) failedRead).tickets.countP
      (fun issued => issued.ticket.addr = Cluster.client) = 2 := by
  decide +kernel

end SerialCluster

end RollupBoost
