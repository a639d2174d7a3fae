import RollupBoost.RateLimit.Cluster
import RollupBoost.RateLimit.Stale

/-!
# What a cleanup finds

A cleanup reads Redis in several commands, and other instances write between them. `Finds` is
what it has listed or would list now. As long as it does not find an instance whose heartbeat it
missed, it only ever targets instances without a heartbeat.

The lemmas here say what each write of another instance, and each listing of the cleanup
itself, does to this. The names of new instances were never used, so these are not found. An
increment for an IPv6 address adds a key by which no instance is found.
-/

namespace RollupBoost

open Machine

/-- Redis holds heartbeats and counters of known instances, under one prefix. -/
def Store.KeysOf (keyPrefix : Text) (known : List Uuid) (store : Store) : Prop :=
  ∀ key ∈ store, (∃ id ∈ known, key = heartbeatKey keyPrefix id.text) ∨
    ∃ (subject : Subject), ∃ id ∈ known, subject.WellNamed ∧ key = subject.key keyPrefix id.text

namespace Cleaning

/-- A listing that is still to come finds the counter. -/
def willList (keyPrefix : Text) (record : Cleaning) (key : Text) : Bool :=
  record.ipKeys.isNone &&
      globMatches (connectionsKey keyPrefix ipKind wildcard wildcard) key ||
    record.appKeys.isNone &&
      globMatches (connectionsKey keyPrefix appKind wildcard wildcard) key

/-- The counter was listed, or would be now. -/
def Finds (keyPrefix : Text) (store : Store) (record : Cleaning) (key : Text) : Prop :=
  key ∈ record.ipKeys.getD [] ∨ key ∈ record.appKeys.getD [] ∨
    record.willList keyPrefix key = true ∧ key ∈ store

/-- The heartbeat of the instance was missing when the heartbeats were listed. -/
def MissedHeartbeat (keyPrefix : Text) (record : Cleaning) (id : Uuid) : Prop :=
  ∃ heartbeats ∈ record.heartbeats, heartbeatKey keyPrefix id.text ∉ heartbeats

instance (keyPrefix : Text) (record : Cleaning) (id : Uuid) :
    Decidable (record.MissedHeartbeat keyPrefix id) :=
  inferInstanceAs (Decidable
    (∃ heartbeats ∈ record.heartbeats, heartbeatKey keyPrefix id.text ∉ heartbeats))

theorem not_willList_heartbeat {keyPrefix : Text} (hsimple : Glob.Simple keyPrefix)
    {record : Cleaning} {instanceId : Text} :
    ¬ record.willList keyPrefix (heartbeatKey keyPrefix instanceId) = true := by
  rw [willList, Bool.or_eq_true, Bool.and_eq_true, Bool.and_eq_true]
  rintro (⟨-, hmatch⟩ | ⟨-, hmatch⟩)
  · exact heartbeat_not_listed hsimple isKind_ip hmatch
  · exact heartbeat_not_listed hsimple isKind_app hmatch

end Cleaning

namespace RedisRateLimit

/-- The cleanup does no harm: what it lists are counters, and instances that are alive in spite
of a missed heartbeat cannot be found. -/
structure Harmless (limiter : RedisRateLimit) (store : Store) (known : List Uuid)
    (record : Cleaning) : Prop where
  listed : ∀ key, record.Finds limiter.keyPrefix store key →
    ∃ (subject : Subject), ∃ id ∈ known, subject.WellNamed ∧
      key = subject.key limiter.keyPrefix id.text
  missed : ∀ id, record.MissedHeartbeat limiter.keyPrefix id →
    store.HasHeartbeat limiter.keyPrefix id → ∀ subject : Subject, ¬ subject.IsV6 →
      ¬ record.Finds limiter.keyPrefix store (subject.key limiter.keyPrefix id.text)
  targets : ∀ key ∈ record.targets, ∃ (subject : Subject) (id : Uuid),
    key = subject.key limiter.keyPrefix id.text ∧ limiter.LooksStale record id.text
  early : record.heartbeats = none → record.targets = []

variable {self : RedisRateLimit} {store store' : Store} {known : List Uuid} {record : Cleaning}

/-- What looks stale is the fifth part of some counter. -/
theorem exists_finds {part : Text} (hstale : self.LooksStale record part) :
    ∃ key, record.Finds self.keyPrefix store key ∧ (key.splitOn colon)[4]? = some part := by
  obtain ⟨hip | happ, -⟩ := hstale
  · obtain ⟨key, hkey, hpart⟩ := List.mem_filterMap.mp hip
    exact ⟨key, .inl hkey, hpart⟩
  · obtain ⟨key, hkey, hpart⟩ := List.mem_filterMap.mp happ
    exact ⟨key, .inr (.inl hkey), hpart⟩

/-- An instance that looks stale was found by some counter. -/
theorem Harmless.found (h : self.Harmless store known record) (hcolon : colon ∉ self.keyPrefix)
    {id : Uuid} (hstale : self.LooksStale record id.text) :
    ∃ subject : Subject, ¬ subject.IsV6 ∧
      record.Finds self.keyPrefix store (subject.key self.keyPrefix id.text) := by
  obtain ⟨key, hfinds, hpart⟩ := exists_finds hstale
  obtain ⟨subject, id', -, hnamed, rfl⟩ := h.listed key hfinds
  obtain ⟨hv6, hid⟩ | ⟨addr, hpiece⟩ := Subject.fifth_part_cases hcolon hnamed hpart
  · rw [hid]
    exact ⟨subject, hv6, hfinds⟩
  · exact absurd rfl (ne_uuid_of_piece hpiece id)

/-- What is about to be deleted belongs to instances without a heartbeat. -/
theorem Harmless.not_live (h : self.Harmless store known record) (hcolon : colon ∉ self.keyPrefix)
    {key : Text} (hkey : key ∈ record.targets) {subject : Subject} {id : Uuid}
    (heq : key = subject.key self.keyPrefix id.text) :
    ¬ store.HasHeartbeat self.keyPrefix id := by
  intro halive
  obtain ⟨subject', id', heq', hstale⟩ := h.targets key hkey
  obtain ⟨rfl, rfl⟩ := Subject.key_inj (heq.symm.trans heq')
  obtain ⟨found, hv6, hfinds⟩ := h.found hcolon hstale
  refine h.missed id ?_ halive found hv6 hfinds
  cases hlist : record.heartbeats with
  | none =>
      rw [h.early hlist] at hkey
      exact absurd hkey (by simp)
  | some heartbeats =>
      refine ⟨heartbeats, hlist, fun hmem => hstale.2.2 ?_⟩
      rw [hlist]
      refine List.mem_filterMap.mpr ⟨_, hmem, ?_⟩
      rw [splitOn_heartbeatKey hcolon id.colon_not_mem]
      rfl

/-- A cleanup that has only begun will list counters. -/
theorem harmless_new (hsimple : Glob.Simple self.keyPrefix)
    (hstore : store.KeysOf self.keyPrefix known) :
    self.Harmless store known
      { heartbeats := none, ipKeys := none, appKeys := none, targets := [] } := by
  constructor
  · rintro key (hip | happ | ⟨hwill, hkey⟩)
    · exact absurd hip (by simp)
    · exact absurd happ (by simp)
    · obtain ⟨id, -, rfl⟩ | hcounter := hstore key hkey
      · exact absurd hwill (Cleaning.not_willList_heartbeat hsimple)
      · exact hcounter
  · rintro id ⟨heartbeats, hlist, -⟩
    exact absurd hlist (by simp)
  · simp
  · simp

theorem Harmless.of_subset (h : self.Harmless store known record)
    (hsub : ∀ key ∈ store', key ∈ store) : self.Harmless store' known record := by
  have hfinds : ∀ key, record.Finds self.keyPrefix store' key →
      record.Finds self.keyPrefix store key := by
    rintro key (hip | happ | ⟨hwill, hkey⟩)
    · exact .inl hip
    · exact .inr (.inl happ)
    · exact .inr (.inr ⟨hwill, hsub key hkey⟩)
  constructor
  · intro key hkey
    exact h.listed key (hfinds key hkey)
  · intro id hmissed halive subject hv6 hkey
    exact h.missed id hmissed (hsub _ halive) subject hv6 (hfinds _ hkey)
  · exact h.targets
  · exact h.early

/-- No instance has the id that a new instance takes. -/
theorem Harmless.start (h : self.Harmless store known record)
    (hsimple : Glob.Simple self.keyPrefix) {id : Uuid}
    (hnew : id ∉ known) (now : Int) :
    self.Harmless (store.insert (heartbeatKey self.keyPrefix id.text) now) (id :: known)
      record := by
  have hfinds : ∀ key, record.Finds self.keyPrefix
      (AList.insert (heartbeatKey self.keyPrefix id.text) now store) key →
        record.Finds self.keyPrefix store key := by
    rintro key (hip | happ | ⟨hwill, hkey⟩)
    · exact .inl hip
    · exact .inr (.inl happ)
    · obtain rfl | hkey := (AList.mem_insert _).mp hkey
      · exact absurd hwill (Cleaning.not_willList_heartbeat hsimple)
      · exact .inr (.inr ⟨hwill, hkey⟩)
  constructor
  · intro key hkey
    obtain ⟨subject, id', hid, hnamed⟩ := h.listed key (hfinds key hkey)
    exact ⟨subject, id', List.mem_cons_of_mem _ hid, hnamed⟩
  · intro other hmissed halive subject hv6 hkey
    obtain hnewKey | hold := (AList.mem_insert _).mp halive
    · obtain ⟨subject', id', hid, -, heq⟩ := h.listed _ (hfinds _ hkey)
      obtain ⟨rfl, rfl⟩ := Subject.key_inj heq
      rw [Uuid.text_inj (heartbeatKey_inj hnewKey)] at hid
      exact hnew hid
    · exact h.missed other hmissed hold subject hv6 (hfinds _ hkey)
  · exact h.targets
  · exact h.early

/-- A counter of an instance whose heartbeat was missed must not be incremented before the
listing that finds it. -/
theorem Harmless.incr (h : self.Harmless store known record) {subject : Subject} {id : Uuid}
    (hnamed : subject.WellNamed) (hid : id ∈ known) {count : Int}
    (hunseen : record.MissedHeartbeat self.keyPrefix id → ¬ subject.IsV6 →
      record.willList self.keyPrefix (subject.key self.keyPrefix id.text) = false) :
    self.Harmless (store.insert (subject.key self.keyPrefix id.text) count) known record := by
  have hfinds : ∀ key, record.Finds self.keyPrefix
      (AList.insert (subject.key self.keyPrefix id.text) count store) key →
        record.Finds self.keyPrefix store key ∨
          key = subject.key self.keyPrefix id.text ∧ record.willList self.keyPrefix key = true := by
    rintro key (hip | happ | ⟨hwill, hkey⟩)
    · exact .inl (.inl hip)
    · exact .inl (.inr (.inl happ))
    · obtain rfl | hkey := (AList.mem_insert _).mp hkey
      · exact .inr ⟨rfl, hwill⟩
      · exact .inl (.inr (.inr ⟨hwill, hkey⟩))
  constructor
  · intro key hkey
    obtain hold | ⟨rfl, -⟩ := hfinds key hkey
    · exact h.listed key hold
    · exact ⟨subject, id, hid, hnamed, rfl⟩
  · intro other hmissed halive found hv6 hkey
    have haliveBefore : store.HasHeartbeat self.keyPrefix other := by
      obtain heq | hold := (AList.mem_insert _).mp halive
      · exact absurd heq heartbeatKey_ne
      · exact hold
    obtain hold | ⟨heq, hwill⟩ := hfinds _ hkey
    · exact h.missed other hmissed haliveBefore found hv6 hold
    · obtain ⟨rfl, rfl⟩ := Subject.key_inj heq
      rw [hunseen hmissed hv6] at hwill
      exact absurd hwill (by simp)
  · exact h.targets
  · exact h.early

/-- A listing takes what was there to be found. -/
theorem Harmless.narrow (h : self.Harmless store known record) {record' : Cleaning}
    (hheartbeats : record'.heartbeats = record.heartbeats)
    (hfinds : ∀ key, record'.Finds self.keyPrefix store key →
      record.Finds self.keyPrefix store key)
    (htargets : record'.targets = record.targets)
    (hstale : ∀ id, self.LooksStale record id → self.LooksStale record' id) :
    self.Harmless store known record' := by
  constructor
  · intro key hkey
    exact h.listed key (hfinds key hkey)
  · rintro id ⟨heartbeats, hlist, hmem⟩ halive subject hv6 hkey
    rw [hheartbeats] at hlist
    exact h.missed id ⟨heartbeats, hlist, hmem⟩ halive subject hv6 (hfinds _ hkey)
  · intro key hkey
    rw [htargets] at hkey
    obtain ⟨subject, id, heq, hlooks⟩ := h.targets key hkey
    exact ⟨subject, id, heq, hstale _ hlooks⟩
  · intro hnone
    rw [hheartbeats] at hnone
    rw [htargets]
    exact h.early hnone

/-- The counters of an instance that looks stale are the targets. -/
theorem Harmless.target (h : self.Harmless store known record)
    (hsimple : Glob.Simple self.keyPrefix) (hcolon : colon ∉ self.keyPrefix)
    (hstore : store.KeysOf self.keyPrefix known) {part key : Text}
    (hstale : self.LooksStale record part) (hkey : key ∈ store)
    (hcleaned : self.CleanedWith part key) :
    ∃ (subject : Subject) (id : Uuid), key = subject.key self.keyPrefix id.text ∧
      self.LooksStale record id.text := by
  have hplain : Glob.Plain part ∧ colon ∉ part := by
    obtain ⟨found, hfinds, hpart⟩ := exists_finds hstale
    obtain ⟨subject, id, -, hnamed, rfl⟩ := h.listed found hfinds
    obtain ⟨-, rfl⟩ | ⟨addr, hpiece⟩ := Subject.fifth_part_cases hcolon hnamed hpart
    · exact ⟨id.plain, id.colon_not_mem⟩
    · exact plain_of_piece hpiece
  obtain ⟨id, -, rfl⟩ | ⟨subject, id, -, -, rfl⟩ := hstore key hkey
  · obtain hmatch | hmatch := hcleaned
    · exact absurd hmatch (heartbeat_not_of_instance hsimple isKind_ip hplain.1)
    · exact absurd hmatch (heartbeat_not_of_instance hsimple isKind_app hplain.1)
  · have hid := (cleanedWith_iff hsimple hplain.1 hplain.2 subject id).mp hcleaned
    rw [hid] at hstale
    exact ⟨subject, id, rfl, hstale⟩

theorem Harmless.keys (h : self.Harmless store known record)
    (hsimple : Glob.Simple self.keyPrefix) (hcolon : colon ∉ self.keyPrefix)
    (hstore : store.KeysOf self.keyPrefix known) {pattern : Text} (order : Shuffle)
    (hmay : self.cleaningMonitor.may record (.keys pattern)) :
    self.Harmless store known (self.cleaningMonitor.next record (.keys pattern)
      (order.order (store.matching pattern))) := by
  have hanswer : ∀ key, key ∈ order.order (store.matching pattern) ↔
      key ∈ store ∧ globMatches pattern key = true := by
    intro key
    rw [order.mem_order, Store.mem_matching]
  obtain ⟨heartbeats, ipKeys, appKeys, targets⟩ := record
  match heartbeats, ipKeys, appKeys with
  | none, ipKeys, appKeys =>
      obtain rfl : pattern = heartbeatKey self.keyPrefix wildcard := hmay
      obtain rfl : targets = [] := h.early rfl
      constructor
      · exact h.listed
      · rintro id ⟨heartbeats, hlist, hmem⟩ halive
        obtain rfl := Option.some.inj hlist
        exact absurd ((hanswer _).mpr ⟨halive, matches_own_heartbeat hsimple⟩) hmem
      · simp [cleaningMonitor]
      · simp [cleaningMonitor]
  | some heartbeats, none, appKeys =>
      obtain rfl : pattern = connectionsKey self.keyPrefix ipKind wildcard wildcard := hmay
      refine h.narrow rfl ?_ rfl ?_
      · rintro key (hip | happ | ⟨hwill, hkey⟩)
        · obtain ⟨hkey, hmatch⟩ := (hanswer key).mp hip
          exact .inr (.inr ⟨by simp [Cleaning.willList, hmatch], hkey⟩)
        · exact .inr (.inl happ)
        · have happ : appKeys.isNone = true ∧ globMatches
              (connectionsKey self.keyPrefix appKind wildcard wildcard) key = true := by
            simpa [Cleaning.willList, cleaningMonitor] using hwill
          exact .inr (.inr ⟨by simp [Cleaning.willList, happ], hkey⟩)
      · rintro id ⟨hip | happ, hstale⟩
        · exact absurd hip (by simp [nthParts])
        · exact ⟨.inr happ, hstale⟩
  | some heartbeats, some ipKeys, none =>
      obtain rfl : pattern = connectionsKey self.keyPrefix appKind wildcard wildcard := hmay
      refine h.narrow rfl ?_ rfl ?_
      · rintro key (hip | happ | ⟨hwill, hkey⟩)
        · exact .inl hip
        · obtain ⟨hkey, hmatch⟩ := (hanswer key).mp happ
          exact .inr (.inr ⟨by simp [Cleaning.willList, hmatch], hkey⟩)
        · exact absurd hwill (by simp [Cleaning.willList, cleaningMonitor])
      · rintro id ⟨hip | happ, hstale⟩
        · exact ⟨.inl hip, hstale⟩
        · exact absurd happ (by simp [nthParts])
  | some heartbeats, some ipKeys, some appKeys =>
      obtain ⟨part, hstale, hpattern⟩ := hmay
      constructor
      · exact h.listed
      · exact h.missed
      · intro key hkey
        obtain hold | hnew := List.mem_append.mp hkey
        · exact h.targets key hold
        · obtain ⟨hkey, hmatch⟩ := (hanswer key).mp hnew
          refine h.target hsimple hcolon hstore hstale hkey ?_
          obtain rfl | rfl := hpattern
          · exact .inl hmatch
          · exact .inr hmatch
      · intro hnone
        exact absurd hnone (by simp [cleaningMonitor])

end RedisRateLimit

end RollupBoost
