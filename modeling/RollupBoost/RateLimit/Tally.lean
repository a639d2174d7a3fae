import RollupBoost.RateLimit.Cluster
import RollupBoost.RateLimit.Stale

/-!
# Counting connections by subject

What a limiter is for, without its tables and keys: it keeps a tally of the connections of every
subject, and admits a connection that finds room under each of its subjects. The subjects are
counted one after the other. A subject without room stops the connection, and the subjects
counted before it stay counted.

The in-memory limiter keeps the tally in its tables. The Redis limiter keeps it in its counters,
as long as it is alone: then the pattern of a subject finds the one counter of the subject, and a
cleanup finds nothing to remove.
-/

namespace RollupBoost

open Machine

/-! ## Admission -/

/-- The connections of every subject. -/
abbrev Tally := Subject → Nat

namespace Tally

def count (tally : Tally) (subject : Subject) : Tally :=
  fun other => tally other + if other = subject then 1 else 0

def discount (tally : Tally) (subject : Subject) : Tally :=
  fun other => tally other - if other = subject then 1 else 0

theorem count_subject_cons (first subject : Subject) (subjects : List Subject) :
    (first :: subjects).count subject =
      (if subject = first then 1 else 0) + subjects.count subject := by
  rw [List.count_cons, Nat.add_comm]
  by_cases heq : subject = first
  · rw [heq, if_pos rfl, beq_self_eq_true, if_pos rfl]
  · rw [if_neg heq, beq_false_of_ne (Ne.symm heq), if_neg Bool.false_ne_true]

theorem foldl_count (tally : Tally) (subjects : List Subject) (subject : Subject) :
    subjects.foldl count tally subject = tally subject + subjects.count subject := by
  induction subjects generalizing tally with
  | nil => rfl
  | cons first subjects ih =>
      rw [List.foldl_cons, ih, count_subject_cons, count]
      omega

theorem foldl_discount (tally : Tally) (subjects : List Subject) (subject : Subject) :
    subjects.foldl discount tally subject = tally subject - subjects.count subject := by
  induction subjects generalizing tally with
  | nil => rfl
  | cons first subjects ih =>
      rw [List.foldl_cons, ih, count_subject_cons, discount]
      omega

/-- Count a connection under its subjects, one after the other, up to the first one that has no
room. -/
def enroll (limit : Subject → Nat) (tally : Tally) : List Subject → Tally × Option Subject
  | [] => (tally, none)
  | subject :: subjects =>
      if limit subject ≤ tally subject then (tally, some subject)
      else enroll limit (tally.count subject) subjects

theorem mem_of_enroll {limit : Subject → Nat} {tally : Tally} {subjects : List Subject}
    {full : Subject} (h : (tally.enroll limit subjects).2 = some full) : full ∈ subjects := by
  induction subjects generalizing tally with
  | nil => exact absurd h (by simp [enroll])
  | cons subject subjects ih =>
      rw [enroll] at h
      split at h
      · rw [← Option.some.inj h]
        exact List.mem_cons_self
      · exact List.mem_cons_of_mem _ (ih h)

theorem enroll_append (limit : Subject → Nat) (tally : Tally) (subjects subjects' : List Subject) :
    tally.enroll limit (subjects ++ subjects') =
      match tally.enroll limit subjects with
      | (tally, none) => tally.enroll limit subjects'
      | (tally, some full) => (tally, some full) := by
  induction subjects generalizing tally with
  | nil => rfl
  | cons subject subjects ih =>
      simp only [List.cons_append, enroll]
      split
      · rfl
      · exact ih _

/-- All subjects have room. -/
theorem enroll_of_room {limit : Subject → Nat} {tally : Tally} {subjects : List Subject}
    (hnodup : subjects.Nodup) (hroom : ∀ subject ∈ subjects, tally subject < limit subject) :
    tally.enroll limit subjects = (subjects.foldl count tally, none) := by
  induction subjects generalizing tally with
  | nil => rfl
  | cons subject subjects ih =>
      have hfirst := hroom subject List.mem_cons_self
      rw [enroll, if_neg (by omega), List.foldl_cons]
      obtain ⟨hnotMem, hnodup⟩ := List.nodup_cons.mp hnodup
      apply ih hnodup
      intro other hother
      have hne : other ≠ subject := fun heq => hnotMem (heq ▸ hother)
      rw [count, if_neg hne]
      exact hroom other (List.mem_cons_of_mem _ hother)

/-- The first subject without room is behind some that have room. -/
theorem enroll_of_full {limit : Subject → Nat} {tally : Tally} {subjects after : List Subject}
    {full : Subject} (hnodup : subjects.Nodup)
    (hroom : ∀ subject ∈ subjects, tally subject < limit subject) (hfirst : full ∉ subjects)
    (hfull : limit full ≤ tally full) :
    tally.enroll limit (subjects ++ full :: after) = (subjects.foldl count tally, some full) := by
  have hsame : subjects.foldl count tally full = tally full := by
    rw [foldl_count, List.count_eq_zero.mpr hfirst]
    rfl
  rw [enroll_append, enroll_of_room hnodup hroom]
  show enroll limit _ _ = _
  rw [enroll, hsame, if_pos hfull]

end Tally

/-- The result of a call when the subject, if any, has no room. -/
def verdict {α : Type} (reason : Subject → Text) (value : α) :
    Option Subject → Except RateLimitError α
  | none => .ok value
  | some full => .error (.limit (reason full))

namespace RedisRateLimit

/-! ## The Redis limiter keeps a tally -/

/-- Redis holds the heartbeat and the counters of one instance. -/
structure Tallies (limiter : RedisRateLimit) (store : Store) (tally : Tally) : Prop where
  keys : ∀ key ∈ store, key = limiter.instanceHeartbeatKey ∨
    ∃ subject : Subject, subject.Clean ∧
      key = subject.key limiter.keyPrefix limiter.instanceId.text
  values : ∀ subject : Subject,
    store.value (subject.key limiter.keyPrefix limiter.instanceId.text) = tally subject

variable {self : RedisRateLimit} {store : Store} {tally : Tally} {subject : Subject}

theorem tallies_empty (self : RedisRateLimit) : self.Tallies ∅ fun _ => 0 where
  keys := fun key hkey => absurd hkey (AList.notMem_empty key)
  values := fun subject => by simp [Store.value]

theorem Tallies.total (h : self.Tallies store tally) (hsimple : Glob.Simple self.keyPrefix)
    (hclean : subject.Clean) : store.total (subject.pattern self.keyPrefix) = tally subject := by
  have honly : ∀ key ∈ store.matching (subject.pattern self.keyPrefix),
      key = subject.key self.keyPrefix self.instanceId.text := by
    intro key hkey
    obtain ⟨hmem, hmatch⟩ := Store.mem_matching.mp hkey
    obtain rfl | ⟨other, hother, rfl⟩ := h.keys key hmem
    · exact absurd hmatch (Subject.heartbeat_not_of_subject hsimple hclean)
    · rw [Subject.subject_of_matches hsimple hclean hother hmatch]
  have hvalue := h.values subject
  match hlisted : store.matching (subject.pattern self.keyPrefix) with
  | [] =>
      have hmem : subject.key self.keyPrefix self.instanceId.text ∉ store := by
        intro hmem
        have hfound := Store.mem_matching.mpr ⟨hmem, Subject.matches_own_subject hsimple hclean⟩
        rw [hlisted] at hfound
        exact absurd hfound (by simp)
      rw [Store.value, AList.lookup_eq_none.mpr hmem] at hvalue
      rw [Store.total, hlisted, List.map_nil, List.sum_nil]
      simp only [Option.getD_none] at hvalue
      omega
  | [key] =>
      obtain rfl := honly key (by simp [hlisted])
      have hread : usizeOrZero (store.lookup (subject.key self.keyPrefix self.instanceId.text)) =
          (store.value (subject.key self.keyPrefix self.instanceId.text)).toNat := rfl
      rw [Store.total, hlisted, List.map_singleton, List.sum_singleton, hread, hvalue]
      rfl
  | key :: key' :: keys =>
      have hnodup := @Store.matching_nodup store (subject.pattern self.keyPrefix)
      rw [hlisted, honly key (by simp [hlisted]), honly key' (by simp [hlisted])] at hnodup
      exact absurd hnodup (by simp)

/-- Write the counter of a subject. -/
theorem Tallies.write (h : self.Tallies store tally) (hclean : subject.Clean) {tally' : Tally}
    (hothers : ∀ other, other ≠ subject → tally' other = tally other) {count : Int}
    (hcount : count = tally' subject) :
    self.Tallies (store.insert (subject.key self.keyPrefix self.instanceId.text) count) tally' := by
  constructor
  · intro key hkey
    obtain rfl | hkey := (AList.mem_insert _).mp hkey
    · exact .inr ⟨subject, hclean, rfl⟩
    · exact h.keys key hkey
  · intro other
    rw [Store.value_insert]
    by_cases heq : other = subject
    · rw [heq, if_pos rfl]
      exact hcount
    · have hne : other.key self.keyPrefix self.instanceId.text ≠
          subject.key self.keyPrefix self.instanceId.text :=
        fun hkey => heq (Subject.key_inj hkey).1
      rw [if_neg hne, hothers other heq]
      exact h.values other

theorem Tallies.incr (h : self.Tallies store tally) (hclean : subject.Clean) :
    self.Tallies (store.apply (.incr (subject.key self.keyPrefix self.instanceId.text)))
      (tally.count subject) := by
  apply h.write hclean
  · intro other hne
    simp [Tally.count, hne]
  · rw [h.values subject]
    simp [Tally.count]

theorem Tallies.decr (h : self.Tallies store tally) (hclean : subject.Clean)
    (hpos : 0 < tally subject) :
    self.Tallies (store.apply (.decr (subject.key self.keyPrefix self.instanceId.text)))
      (tally.discount subject) := by
  apply h.write hclean
  · intro other hne
    simp [Tally.discount, hne]
  · rw [h.values subject, Tally.discount, if_pos rfl]
    omega

theorem Tallies.heartbeat (h : self.Tallies store tally) (now : Int) :
    self.Tallies (store.insert self.instanceHeartbeatKey now) tally := by
  constructor
  · intro key hkey
    obtain rfl | hkey := (AList.mem_insert _).mp hkey
    · exact .inl rfl
    · exact h.keys key hkey
  · intro subject
    have hne : subject.key self.keyPrefix self.instanceId.text ≠ self.instanceHeartbeatKey :=
      heartbeatKey_ne.symm
    rw [Store.value_insert, if_neg hne]
    exact h.values subject

variable (listing : Text → Shuffle)

theorem exec_sumCounts (keys : List Text) (total : Nat) (store : Store) :
    (sumCounts keys total).exec (Store.service listing) store =
      (total + (keys.map fun key => usizeOrZero (store.lookup key)).sum, store) := by
  induction keys generalizing total with
  | nil => rfl
  | cons key keys ih =>
      simp only [sumCounts, Program.perform_bind, Program.exec_call, Store.service, Store.apply]
      rw [ih]
      simp [Store.answer, Nat.add_assoc]

def reason : Subject → Text
  | .ip addr => utf8 "Per-IP connection limit reached for " ++ addr.toText
  | .app name => utf8 "Per-app connection limit reached for " ++ name

theorem Tallies.acquireCounter (h : self.Tallies store tally)
    (hsimple : Glob.Simple self.keyPrefix) (hclean : subject.Clean) :
    ∃ next, (acquireCounter (subject.pattern self.keyPrefix)
        (subject.key self.keyPrefix self.instanceId.text) (self.limit subject)
        (reason subject)).exec (Store.service listing) store =
        (verdict reason () (tally.enroll self.limit [subject]).2, next) ∧
      self.Tallies next (tally.enroll self.limit [subject]).1 := by
  have hsum : ((store.answer listing (.keys (subject.pattern self.keyPrefix))).map
      fun key => usizeOrZero (store.lookup key)).sum = tally subject := by
    rw [← h.total hsimple hclean]
    exact (((listing _).perm _).map _).sum_eq
  have hcount : ¬ store.value (subject.key self.keyPrefix self.instanceId.text) + 1 < 0 := by
    rw [h.values subject]
    omega
  have hok : ∀ (count : Int) (error : RateLimitError) (store : Store), ¬ count < 0 →
      (if count < 0 then pure (.error error) else pure (.ok ()) :
        RedisProgram (Except RateLimitError Unit)).exec (Store.service listing) store =
          (.ok (), store) := by
    intro count error store hcount
    rw [if_neg hcount]
    rfl
  simp only [RedisRateLimit.acquireCounter, Program.perform_bind, Program.exec_call,
    Program.exec_bind, exec_sumCounts, Store.service, Store.apply, hsum, Nat.zero_add, Tally.enroll]
  split
  · exact ⟨store, rfl, h⟩
  · exact ⟨_, hok _ _ _ hcount, h.incr hclean⟩

theorem acquireIp_eq (addr : IpAddr) (hlimited : 0 < self.perIpLimit) :
    self.acquireIp addr = acquireCounter ((Subject.ip addr).pattern self.keyPrefix)
      ((Subject.ip addr).key self.keyPrefix self.instanceId.text) (self.limit (.ip addr))
      (reason (.ip addr)) :=
  if_pos hlimited

theorem acquireApp_eq (name : Text) :
    self.acquireApp (some name) = acquireCounter ((Subject.app name).pattern self.keyPrefix)
      ((Subject.app name).key self.keyPrefix self.instanceId.text) (self.limit (.app name))
      (reason (.app name)) :=
  rfl

theorem Tallies.acquireIp (h : self.Tallies store tally) (hsimple : Glob.Simple self.keyPrefix)
    (addr : IpAddr) :
    ∃ next, (self.acquireIp addr).exec (Store.service listing) store =
        (verdict reason ()
          (tally.enroll self.limit (if 0 < self.perIpLimit then [.ip addr] else [])).2, next) ∧
      self.Tallies next
        (tally.enroll self.limit (if 0 < self.perIpLimit then [.ip addr] else [])).1 := by
  by_cases hlimited : 0 < self.perIpLimit
  · rw [acquireIp_eq addr hlimited, if_pos hlimited]
    exact h.acquireCounter listing hsimple trivial
  · rw [RedisRateLimit.acquireIp, if_neg hlimited, if_neg hlimited]
    exact ⟨store, rfl, h⟩

theorem Tallies.acquireApp (h : self.Tallies store tally) (hsimple : Glob.Simple self.keyPrefix)
    {app : Option Text} (hclean : ∀ name ∈ app, (Subject.app name).Clean) :
    ∃ next, (self.acquireApp app).exec (Store.service listing) store =
        (verdict reason () (tally.enroll self.limit (app.map Subject.app).toList).2, next) ∧
      self.Tallies next (tally.enroll self.limit (app.map Subject.app).toList).1 := by
  cases app with
  | some name =>
      rw [acquireApp_eq]
      exact h.acquireCounter listing hsimple (hclean name rfl)
  | none => exact ⟨store, rfl, h⟩

theorem Tallies.tryAcquire (h : self.Tallies store tally) (hsimple : Glob.Simple self.keyPrefix)
    (addr : IpAddr) {app : Option Text} (hclean : ∀ name ∈ app, (Subject.app name).Clean) :
    ∃ next, (self.tryAcquire addr app).exec (Store.service listing) store =
        (verdict reason { addr := addr, app := app }
          (tally.enroll self.limit (self.subjects { addr := addr, app := app })).2, next) ∧
      self.Tallies next
        (tally.enroll self.limit (self.subjects { addr := addr, app := app })).1 := by
  obtain ⟨middle, hip, hmiddle⟩ := h.acquireIp listing hsimple addr
  simp only [RedisRateLimit.tryAcquire, Program.exec_bind, hip, RedisConfig.subjects,
    Tally.enroll_append]
  cases hstop : tally.enroll self.limit (if 0 < self.perIpLimit then [.ip addr] else []) with
  | mk counted stop =>
      rw [hstop] at hmiddle
      cases stop with
      | some full => exact ⟨middle, rfl, hmiddle⟩
      | none =>
          obtain ⟨next, happ, hnext⟩ := hmiddle.acquireApp listing hsimple hclean
          simp only [verdict, Program.exec_bind, happ]
          cases hstop' : counted.enroll self.limit (app.map Subject.app).toList with
          | mk counted' stop' =>
              rw [hstop'] at hnext
              cases stop' with
              | some full => exact ⟨next, rfl, hnext⟩
              | none => exact ⟨next, rfl, hnext⟩

theorem Tallies.release (h : self.Tallies store tally) (addr : IpAddr) {app : Option Text}
    (hclean : ∀ name ∈ app, (Subject.app name).Clean)
    (hpos : ∀ subject ∈ self.subjects { addr := addr, app := app }, 0 < tally subject) :
    self.Tallies ((self.release addr app).exec (Store.service listing) store).2
      ((self.subjects { addr := addr, app := app }).foldl Tally.discount tally) := by
  simp only [RedisRateLimit.release, RedisConfig.subjects] at hpos ⊢
  by_cases hlimited : 0 < self.perIpLimit
  · rw [if_pos hlimited, if_pos hlimited]
    rw [if_pos hlimited] at hpos
    have hip := h.decr (show (Subject.ip addr).Clean from trivial) (hpos _ (by simp))
    cases app with
    | none => exact hip
    | some name =>
        have hname : 0 < tally.discount (.ip addr) (.app name) := by
          rw [Tally.discount, if_neg (by simp)]
          exact hpos (.app name) (by simp)
        have happ := hip.decr (hclean name rfl) hname
        exact happ
  · rw [if_neg hlimited, if_neg hlimited]
    cases app with
    | none => exact h
    | some name =>
        have happ := h.decr (hclean name rfl) (hpos (.app name) (by simp))
        exact happ

/-- A cleanup has nothing to remove. -/
theorem Tallies.not_stale (h : self.Tallies store tally) (hsimple : Glob.Simple self.keyPrefix)
    (hcolon : colon ∉ self.keyPrefix) {key : Text} (hkey : key ∈ store) :
    ¬ self.Stale store key := by
  have hwell : store.WellFormed self.keyPrefix := by
    intro key hkey
    obtain rfl | ⟨subject, hclean, rfl⟩ := h.keys key hkey
    · exact .inl ⟨self.instanceId, rfl⟩
    · exact .inr ⟨subject, self.instanceId, hclean.wellNamed, rfl⟩
  rintro ⟨part, hfound, hself, -, hcleaned⟩
  obtain ⟨subject, id, -, -, hcounter, rfl⟩ | ⟨addr, hpiece⟩ :=
    found_cases hsimple hcolon hwell hfound
  · obtain heq | ⟨other, -, heq⟩ := h.keys _ hcounter
    · exact heartbeatKey_ne heq.symm
    · rw [(Subject.key_inj heq).2] at hself
      exact hself rfl
  · obtain ⟨hplain, hpieceColon⟩ := plain_of_piece hpiece
    obtain rfl | ⟨subject, -, rfl⟩ := h.keys key hkey
    · obtain hmatch | hmatch := hcleaned
      · exact heartbeat_not_of_instance hsimple isKind_ip hplain hmatch
      · exact heartbeat_not_of_instance hsimple isKind_app hplain hmatch
    · have hid := (cleanedWith_iff hsimple hplain hpieceColon subject self.instanceId).mp hcleaned
      exact ne_uuid_of_piece hpiece self.instanceId hid

theorem Tallies.cleanup (h : self.Tallies store tally) (hsimple : Glob.Simple self.keyPrefix)
    (hcolon : colon ∉ self.keyPrefix) (ipOrder appOrder : Shuffle) :
    self.Tallies
      ((self.cleanupStaleInstances ipOrder appOrder).exec (Store.service listing) store).2
      tally := by
  have hremoves : Removes store
      ((self.cleanupStaleInstances ipOrder appOrder).exec (Store.service listing) store).2
      fun _ => False := by
    apply (self.removes_cleanupStaleInstances listing ipOrder appOrder store).congr
    intro key hkey
    exact iff_false_intro (h.not_stale hsimple hcolon hkey)
  constructor
  · intro key hkey
    exact h.keys key ((hremoves.mem_iff key).mp hkey).1
  · intro subject
    rw [Store.value, hremoves.kept _ not_false]
    exact h.values subject

end RedisRateLimit

/-! ## The in-memory limiter keeps a tally -/

namespace InMemoryRateLimit

def tally (inner : Inner) : Tally
  | .ip addr => ipCount inner addr
  | .app name => appCount inner name

def reason : Subject → Text
  | .ip _ => utf8 "IP limit exceeded"
  | .app _ => utf8 "App limit exceeded"

end InMemoryRateLimit

namespace RedisConfig

variable (config : RedisConfig)

/-- The in-memory limiter with the same limits. -/
def inMemory : InMemoryRateLimit where
  perIpLimit := config.perIpLimit
  perAppLimit := config.perAppLimit

open InMemoryRateLimit

variable {config} {inner next : Inner} {addr : IpAddr} {app : Option Text}

theorem count_ip_subjects (other : IpAddr) :
    (config.subjects { addr := addr, app := app }).count (.ip other) =
      if 0 < config.perIpLimit ∧ other = addr then 1 else 0 := by
  have happ : Subject.ip other ∉ (app.map Subject.app).toList := by simp
  rw [subjects, List.count_append, List.count_eq_zero.mpr happ]
  by_cases hlimited : 0 < config.perIpLimit
  · by_cases heq : other = addr
    · simp [hlimited, heq]
    · have hne : Subject.ip addr ≠ Subject.ip other := by simp [Ne.symm heq]
      simp [hlimited, heq, hne]
  · simp [hlimited]

theorem count_app_subjects (other : Text) :
    (config.subjects { addr := addr, app := app }).count (.app other) =
      if app = some other then 1 else 0 := by
  have hip : Subject.app other ∉ if 0 < config.perIpLimit then [Subject.ip addr] else [] := by
    split <;> simp
  rw [subjects, List.count_append, List.count_eq_zero.mpr hip]
  cases app with
  | none => simp
  | some name => simp [List.count_singleton]

/-- What holds of the address of a ticket and of its app holds of what a ticket counts. -/
theorem count_subjects_cases (P : Subject → Nat → Prop)
    (hip : ∀ other, P (.ip other) (if 0 < config.perIpLimit ∧ other = addr then 1 else 0))
    (happ : ∀ other, P (.app other) (if app = some other then 1 else 0)) (subject : Subject) :
    P subject ((config.subjects { addr := addr, app := app }).count subject) := by
  cases subject with
  | ip other =>
      rw [count_ip_subjects]
      exact hip other
  | app other =>
      rw [count_app_subjects]
      exact happ other

/-- Both tables counted up are the tally counted up. -/
theorem tally_counted (hip : config.inMemory.IpCounted inner next addr)
    (happ : AppCounted inner next app) :
    tally next =
      (config.subjects { addr := addr, app := app }).foldl Tally.count (tally inner) := by
  funext subject
  rw [Tally.foldl_count]
  exact count_subjects_cases (fun subject n => tally next subject = tally inner subject + n) hip
    happ subject

theorem subjects_nodup : (config.subjects { addr := addr, app := app }).Nodup := by
  rw [List.nodup_iff_count_le_one]
  refine count_subjects_cases (fun _ n => n ≤ 1) ?_ ?_
  · intro other
    split <;> omega
  · intro other
    split <;> omega

theorem subjects_app (name : Text) : config.subjects { addr := addr, app := some name } =
    config.subjects { addr := addr, app := none } ++ [.app name] := by
  simp [subjects]

theorem mem_subjects {subject : Subject} :
    subject ∈ config.subjects { addr := addr, app := app } ↔
      (0 < config.perIpLimit ∧ subject = .ip addr) ∨
        ∃ name, app = some name ∧ subject = .app name := by
  simp [subjects, eq_comm]

/-- What a call of the in-memory limiter does, once it has a permit. -/
theorem inMemory_tryAcquire (config : RedisConfig) (inner : Inner) (addr : IpAddr)
    (app : Option Text) (hpermit : 0 < inner.semaphore) :
    ∃ next stop, (tally inner).enroll config.limit (config.subjects { addr := addr, app := app }) =
        (tally next, stop) ∧
      config.inMemory.tryAcquire inner addr app =
        (next, verdict InMemoryRateLimit.reason { addr := addr, app := app } stop) ∧
      next.semaphore + (if stop = none then 1 else 0) = inner.semaphore := by
  obtain ⟨hzero, -⟩ | ⟨-, hfull, heq⟩ | ⟨-, hfree, hfull, next, heq, hip, happ, hpermits⟩ |
      ⟨-, hfree, hfree', next, heq, hip, happ, hpermits⟩ :=
    config.inMemory.tryAcquire_cases inner addr app
  · omega
  · obtain ⟨hlimited, hfull⟩ : 0 < config.perIpLimit ∧
        config.limit (.ip addr) ≤ tally inner (.ip addr) := hfull
    refine ⟨inner, some (.ip addr), ?_, heq, rfl⟩
    have hsubjects : config.subjects { addr := addr, app := app } =
        .ip addr :: (app.map Subject.app).toList := by
      rw [subjects, if_pos hlimited]
      rfl
    rw [hsubjects, Tally.enroll, if_pos hfull]
  · obtain ⟨name, rfl, hfull⟩ := hfull
    refine ⟨next, some (.app name), ?_, heq, hpermits⟩
    rw [subjects_app, tally_counted hip happ]
    apply Tally.enroll_of_full subjects_nodup
    · intro subject hsubject
      obtain ⟨hlimited, rfl⟩ | ⟨name, hname, -⟩ := mem_subjects.mp hsubject
      · exact ipCount_lt_of_not_ipFull hfree hlimited
      · exact absurd hname (by simp)
    · simp [mem_subjects]
    · exact hfull
  · refine ⟨next, none, ?_, heq, hpermits⟩
    rw [tally_counted hip happ]
    apply Tally.enroll_of_room subjects_nodup
    intro subject hsubject
    obtain ⟨hlimited, rfl⟩ | ⟨name, hname, rfl⟩ := mem_subjects.mp hsubject
    · exact ipCount_lt_of_not_ipFull hfree hlimited
    · rw [hname] at hfree'
      exact appCount_lt_of_not_appFull hfree'

theorem inMemory_release (config : RedisConfig) (inner : Inner) (addr : IpAddr)
    (app : Option Text) :
    tally (config.inMemory.release inner addr app).1 =
      (config.subjects { addr := addr, app := app }).foldl Tally.discount (tally inner) := by
  obtain ⟨hip, happ, -, -⟩ := config.inMemory.release_spec inner addr app
  funext subject
  rw [Tally.foldl_discount]
  exact count_subjects_cases (fun subject n =>
    tally (config.inMemory.release inner addr app).1 subject = tally inner subject - n) hip happ
    subject

end RedisConfig

end RollupBoost
