import RollupBoost.RateLimit.Keys

/-!
# Cleanup of stale instances

`cleanup_stale_instances` reads the instances that have counters out of the keys: it takes the
fifth part between colons. For an app or an IPv4 address this is the instance. For an IPv6
address it is a piece of the address, no instance has such a name, and nothing is removed.
An instance that served IPv6 clients only is therefore never cleaned up.

`Removes` says what a program deletes; it is proved for each loop, for any prefix and any
content. What is found and removed is worked out for a simple prefix without a colon.
-/

namespace RollupBoost

open Machine

/-- The state differs by the removed keys. -/
structure Removes (store next : Store) (removed : Text → Prop) : Prop where
  gone : ∀ key, removed key → key ∉ next
  kept : ∀ key, ¬ removed key → next.lookup key = store.lookup key

namespace Removes

variable {store middle next : Store} {removed removed' : Text → Prop}

theorem nothing (store : Store) : Removes store store fun _ => False :=
  ⟨fun _ h => h.elim, fun _ _ => rfl⟩

theorem mem_iff (h : Removes store next removed) (key : Text) :
    key ∈ next ↔ key ∈ store ∧ ¬ removed key := by
  by_cases hremoved : removed key
  · simp [hremoved, h.gone key hremoved]
  · rw [← AList.lookup_isSome, h.kept key hremoved, AList.lookup_isSome]
    simp [hremoved]

theorem trans (h : Removes store middle removed) (h' : Removes middle next removed') :
    Removes store next fun key => removed key ∨ removed' key := by
  constructor
  · rintro key (hremoved | hremoved)
    · intro hmem
      exact h.gone key hremoved ((h'.mem_iff key).mp hmem).1
    · exact h'.gone key hremoved
  · intro key hnot
    rw [h'.kept key fun hr => hnot (.inr hr), h.kept key fun hr => hnot (.inl hr)]

/-- Only the keys that were there matter. -/
theorem congr (h : Removes store next removed)
    (hiff : ∀ key ∈ store, removed key ↔ removed' key) : Removes store next removed' := by
  have habsent : ∀ key, key ∉ store → key ∉ next := by
    intro key hmem hnext
    exact hmem ((h.mem_iff key).mp hnext).1
  constructor
  · intro key hremoved
    by_cases hmem : key ∈ store
    · exact h.gone key ((hiff key hmem).mpr hremoved)
    · exact habsent key hmem
  · intro key hnot
    by_cases hmem : key ∈ store
    · exact h.kept key fun hr => hnot ((hiff key hmem).mp hr)
    · rw [AList.lookup_eq_none.mpr hmem, AList.lookup_eq_none.mpr (habsent key hmem)]

end Removes

namespace RedisRateLimit

variable (self : RedisRateLimit) (listing : Text → Shuffle)

/-! ## What the loops remove -/

theorem removes_deleteKeys (keys : List Text) (store : Store) :
    Removes store ((deleteKeys keys).exec (Store.service listing) store).2 (· ∈ keys) := by
  induction keys generalizing store with
  | nil => exact (Removes.nothing store).congr (by simp)
  | cons key keys ih =>
      have hfirst : Removes store (store.erase key) (· = key) := by
        constructor
        · rintro other rfl
          simp
        · intro other hne
          exact AList.lookup_erase_ne hne
      refine (hfirst.trans (ih (store.erase key))).congr ?_
      simp

/-- The patterns with which the counters of an instance are looked up match the key. -/
def CleanedWith (instanceId key : Text) : Prop :=
  globMatches (connectionsKey self.keyPrefix ipKind wildcard instanceId) key = true ∨
    globMatches (connectionsKey self.keyPrefix appKind wildcard instanceId) key = true

theorem removes_cleanupInstance (instanceId : Text) (store : Store) :
    Removes store ((self.cleanupInstance instanceId).exec (Store.service listing) store).2
      (self.CleanedWith instanceId) := by
  have hboth := (removes_deleteKeys listing
    (store.answer listing (.keys (connectionsKey self.keyPrefix ipKind wildcard instanceId)))
    store).trans (removes_deleteKeys listing
    (store.answer listing (.keys (connectionsKey self.keyPrefix appKind wildcard instanceId))) _)
  simp only [cleanupInstance, Program.perform_bind, Program.exec_call, Program.exec_bind]
  refine hboth.congr ?_
  intro key hkey
  simp [Store.answer, Shuffle.mem_order, Store.mem_matching, hkey, CleanedWith]

theorem removes_cleanupInstances (active ids : List Text) (store : Store) :
    Removes store ((self.cleanupInstances active ids).exec (Store.service listing) store).2
      fun key => ∃ id ∈ ids, id ≠ self.instanceId.text ∧ id ∉ active ∧
        self.CleanedWith id key := by
  induction ids generalizing store with
  | nil => exact (Removes.nothing store).congr (by simp)
  | cons id ids ih =>
      simp only [cleanupInstances]
      split
      · next hstale =>
          rw [Program.exec_bind]
          refine ((self.removes_cleanupInstance listing id store).trans (ih _)).congr ?_
          intro key _
          simp [hstale]
      · next hskip =>
          refine (ih store).congr ?_
          intro key _
          simp only [List.mem_cons, exists_eq_or_imp]
          constructor
          · exact .inr
          · rintro (⟨hself, hactive, -⟩ | hrest)
            · exact absurd ⟨hself, hactive⟩ hskip
            · exact hrest

/-- The instance is the fifth part of some counter. -/
def Found (store : Store) (instanceId : Text) : Prop :=
  ∃ key ∈ store,
    (globMatches (connectionsKey self.keyPrefix ipKind wildcard wildcard) key = true ∨
      globMatches (connectionsKey self.keyPrefix appKind wildcard wildcard) key = true) ∧
    (key.splitOn colon)[4]? = some instanceId

/-- The instance is the third part of some heartbeat. -/
def Active (store : Store) (instanceId : Text) : Prop :=
  ∃ key ∈ store, globMatches (heartbeatKey self.keyPrefix wildcard) key = true ∧
    (key.splitOn colon)[2]? = some instanceId

/-- The key belongs to a found instance other than this one, without a heartbeat. -/
def Stale (store : Store) (key : Text) : Prop :=
  ∃ id, self.Found store id ∧ id ≠ self.instanceId.text ∧ ¬ self.Active store id ∧
    self.CleanedWith id key

theorem mem_nthParts_answer {store : Store} {pattern part : Text} {n : Nat} :
    part ∈ nthParts n (store.answer listing (.keys pattern)) ↔
      ∃ key ∈ store, globMatches pattern key = true ∧ (key.splitOn colon)[n]? = some part := by
  simp only [nthParts, List.mem_filterMap, Store.answer, Shuffle.mem_order, Store.mem_matching,
    and_assoc]

theorem removes_cleanupStaleInstances (ipOrder appOrder : Shuffle) (store : Store) :
    Removes store
      ((self.cleanupStaleInstances ipOrder appOrder).exec (Store.service listing) store).2
      (self.Stale store) := by
  simp only [cleanupStaleInstances, Program.perform_bind, Program.exec_call, Program.exec_bind]
  refine ((self.removes_cleanupInstances listing _ _ _).trans
    (self.removes_cleanupInstances listing _ _ _)).congr ?_
  intro key _
  simp only [Shuffle.mem_order, List.mem_dedup, Store.service, Store.apply, mem_nthParts_answer]
  constructor
  · rintro (⟨id, ⟨found, hfound, hmatch, hpart⟩, hstale⟩ |
      ⟨id, ⟨found, hfound, hmatch, hpart⟩, hstale⟩)
    · exact ⟨id, ⟨found, hfound, .inl hmatch, hpart⟩, hstale⟩
    · exact ⟨id, ⟨found, hfound, .inr hmatch, hpart⟩, hstale⟩
  · rintro ⟨id, ⟨found, hfound, hmatch | hmatch, hpart⟩, hstale⟩
    · exact .inl ⟨id, ⟨found, hfound, hmatch, hpart⟩, hstale⟩
    · exact .inr ⟨id, ⟨found, hfound, hmatch, hpart⟩, hstale⟩

/-! ## Stale instances -/

end RedisRateLimit

namespace Subject

/-- The name of an app has no colon. -/
def WellNamed : Subject → Prop
  | .ip _ => True
  | .app name => colon ∉ name

def IsV6 : Subject → Prop
  | .ip (.v6 _) => True
  | _ => False

theorem Clean.wellNamed {subject : Subject} (hclean : subject.Clean) : subject.WellNamed := by
  cases subject with
  | ip addr => trivial
  | app name => exact hclean.1

instance (subject : Subject) : Decidable subject.IsV6 :=
  match subject with
  | .ip (.v6 _) => isTrue trivial
  | .ip (.v4 _) => isFalse not_false
  | .app _ => isFalse not_false

theorem colon_not_mem {subject : Subject} (hnamed : subject.WellNamed) (hv6 : ¬ subject.IsV6) :
    colon ∉ subject.text := by
  match subject with
  | .ip (.v4 addr) => exact addr.colon_not_mem_toText
  | .ip (.v6 addr) => exact absurd trivial hv6
  | .app name => exact hnamed

/-- The fifth part of a counter: its instance, or a piece of an address. -/
theorem fifth_part_cases {keyPrefix : Text} (hcolon : colon ∉ keyPrefix) {subject : Subject}
    (hnamed : subject.WellNamed) {id : Uuid} {part : Text}
    (hpart : ((subject.key keyPrefix id.text).splitOn colon)[4]? = some part) :
    (¬ subject.IsV6 ∧ part = id.text) ∨
      ∃ addr : Ipv6Addr, part ∈ (IpAddr.v6 addr).toText.splitOn colon := by
  by_cases hv6 : subject.IsV6
  · match subject with
    | .ip (.v6 addr) =>
        obtain ⟨piece, hpiece, hmem⟩ := nth_four_of_v6 hcolon id.colon_not_mem addr
        have heq : some piece = some part := hpiece.symm.trans hpart
        rw [← Option.some.inj heq]
        exact .inr ⟨addr, hmem⟩
    | .ip (.v4 addr) => exact False.elim hv6
    | .app name => exact False.elim hv6
  · have hid := nth_four_of_colon_not_mem hcolon subject.isKind
      (Subject.colon_not_mem hnamed hv6) id.colon_not_mem
    have heq : some id.text = some part := hid.symm.trans hpart
    exact .inl ⟨hv6, (Option.some.inj heq).symm⟩

end Subject

/-- A piece of an address is a plain text. -/
theorem plain_of_piece {addr : Ipv6Addr} {part : Text}
    (hpiece : part ∈ (IpAddr.v6 addr).toText.splitOn colon) :
    Glob.Plain part ∧ colon ∉ part := by
  constructor
  · intro b hb
    exact (IpAddr.v6 addr).plain b (mem_of_mem_splitOn hpiece hb).1
  · intro hb
    exact (mem_of_mem_splitOn hpiece hb).2 rfl

/-- A piece of an address is not the name of an instance. -/
theorem ne_uuid_of_piece {addr : Ipv6Addr} {part : Text}
    (hpiece : part ∈ (IpAddr.v6 addr).toText.splitOn colon) (id : Uuid) : part ≠ id.text := by
  apply Subject.ne_uuid
  intro hhyphen
  exact (IpAddr.v6 addr).hyphen_not_mem (mem_of_mem_splitOn hpiece hhyphen).1

namespace Store

/-- Redis holds heartbeats and counters of instances, under one prefix. -/
def WellFormed (keyPrefix : Text) (store : Store) : Prop :=
  ∀ key ∈ store, (∃ id : Uuid, key = heartbeatKey keyPrefix id.text) ∨
    ∃ (subject : Subject) (id : Uuid), subject.WellNamed ∧ key = subject.key keyPrefix id.text

def HasHeartbeat (keyPrefix : Text) (store : Store) (id : Uuid) : Prop :=
  heartbeatKey keyPrefix id.text ∈ store

def HasCounter (keyPrefix : Text) (store : Store) (subject : Subject) (id : Uuid) : Prop :=
  subject.key keyPrefix id.text ∈ store

instance (keyPrefix : Text) (store : Store) (id : Uuid) :
    Decidable (store.HasHeartbeat keyPrefix id) :=
  inferInstanceAs (Decidable (heartbeatKey keyPrefix id.text ∈ store))

instance (keyPrefix : Text) (store : Store) (subject : Subject) (id : Uuid) :
    Decidable (store.HasCounter keyPrefix subject id) :=
  inferInstanceAs (Decidable (subject.key keyPrefix id.text ∈ store))

end Store

namespace RedisRateLimit

variable {self : RedisRateLimit} {store : Store}

/-- The active instances are those with a heartbeat. -/
theorem active_iff (hsimple : Glob.Simple self.keyPrefix) (hcolon : colon ∉ self.keyPrefix)
    (hstore : store.WellFormed self.keyPrefix) (id : Uuid) :
    self.Active store id.text ↔ store.HasHeartbeat self.keyPrefix id := by
  constructor
  · rintro ⟨key, hkey, hmatch, hpart⟩
    obtain ⟨id', rfl⟩ | ⟨subject, id', -, rfl⟩ := hstore key hkey
    · rw [splitOn_heartbeatKey hcolon id'.colon_not_mem] at hpart
      obtain rfl := Uuid.text_inj (Option.some.inj hpart)
      exact hkey
    · exact absurd hmatch (counter_not_listed hsimple)
  · intro hheartbeat
    refine ⟨_, hheartbeat, matches_own_heartbeat hsimple, ?_⟩
    rw [splitOn_heartbeatKey hcolon id.colon_not_mem]
    rfl

/-- The counters of an instance are those that its patterns match. -/
theorem cleanedWith_iff (hsimple : Glob.Simple self.keyPrefix)
    {instanceId : Text} (hplain : Glob.Plain instanceId) (hidColon : colon ∉ instanceId)
    (subject : Subject) (id : Uuid) :
    self.CleanedWith instanceId (subject.key self.keyPrefix id.text) ↔ instanceId = id.text := by
  constructor
  · rintro (h | h)
    · exact instance_of_matches hsimple isKind_ip hplain hidColon id.colon_not_mem h
    · exact instance_of_matches hsimple isKind_app hplain hidColon id.colon_not_mem h
  · rintro rfl
    cases subject with
    | ip addr => exact .inl (matches_own_instance hsimple isKind_ip hplain)
    | app name => exact .inr (matches_own_instance hsimple isKind_app hplain)

/-- What is found in the keys: an instance, or a piece of an address. -/
theorem found_cases (hsimple : Glob.Simple self.keyPrefix) (hcolon : colon ∉ self.keyPrefix)
    (hstore : store.WellFormed self.keyPrefix) {part : Text} (h : self.Found store part) :
    (∃ (subject : Subject) (id : Uuid), subject.WellNamed ∧ ¬ subject.IsV6 ∧
      store.HasCounter self.keyPrefix subject id ∧ part = id.text) ∨
    ∃ addr : Ipv6Addr, part ∈ (IpAddr.v6 addr).toText.splitOn colon := by
  obtain ⟨key, hkey, hmatch, hpart⟩ := h
  obtain ⟨id, rfl⟩ | ⟨subject, id, hnamed, rfl⟩ := hstore key hkey
  · -- a heartbeat is not listed as a counter
    obtain hmatch | hmatch := hmatch
    · exact absurd hmatch (heartbeat_not_listed hsimple isKind_ip)
    · exact absurd hmatch (heartbeat_not_listed hsimple isKind_app)
  · obtain ⟨hv6, rfl⟩ | hpiece := Subject.fifth_part_cases hcolon hnamed hpart
    · exact .inl ⟨subject, id, hnamed, hv6, hkey, rfl⟩
    · exact .inr hpiece

/-- A counter is removed when its instance is not this one, has no heartbeat, and has some
counter by which it is found. -/
theorem stale_iff (hsimple : Glob.Simple self.keyPrefix) (hcolon : colon ∉ self.keyPrefix)
    (hstore : store.WellFormed self.keyPrefix) (subject : Subject) (id : Uuid) :
    self.Stale store (subject.key self.keyPrefix id.text) ↔
      id ≠ self.instanceId ∧ ¬ store.HasHeartbeat self.keyPrefix id ∧
        ∃ other : Subject, other.WellNamed ∧ ¬ other.IsV6 ∧
          store.HasCounter self.keyPrefix other id := by
  constructor
  · rintro ⟨part, hfound, hself, hactive, hcleaned⟩
    obtain ⟨other, id', hnamed, hv6, hcounter, rfl⟩ | ⟨addr, hpiece⟩ :=
      found_cases hsimple hcolon hstore hfound
    · have hid := (cleanedWith_iff hsimple id'.plain id'.colon_not_mem subject id).mp hcleaned
      obtain rfl := Uuid.text_inj hid
      rw [active_iff hsimple hcolon hstore] at hactive
      refine ⟨?_, hactive, other, hnamed, hv6, hcounter⟩
      rintro rfl
      exact hself rfl
    · obtain ⟨hplain, hpieceColon⟩ := plain_of_piece hpiece
      have hid := (cleanedWith_iff hsimple hplain hpieceColon subject id).mp hcleaned
      exact absurd hid (ne_uuid_of_piece hpiece id)
  · rintro ⟨hself, hheartbeat, other, hnamed, hv6, hcounter⟩
    refine ⟨id.text, ⟨_, hcounter, ?_, ?_⟩, ?_, ?_, ?_⟩
    · cases other with
      | ip addr => exact .inl (matches_own_listing hsimple isKind_ip)
      | app name => exact .inr (matches_own_listing hsimple isKind_app)
    · exact nth_four_of_colon_not_mem hcolon other.isKind (Subject.colon_not_mem hnamed hv6)
        id.colon_not_mem
    · exact fun h => hself (Uuid.text_inj h)
    · rw [active_iff hsimple hcolon hstore]
      exact hheartbeat
    · exact (cleanedWith_iff hsimple id.plain id.colon_not_mem subject id).mpr rfl

/-- The counters that remain are those of this instance and of instances with a heartbeat. -/
def CleanupExact (self : RedisRateLimit) (store next : Store) : Prop :=
  ∀ (subject : Subject) (id : Uuid), subject.WellNamed →
    (next.HasCounter self.keyPrefix subject id ↔
      store.HasCounter self.keyPrefix subject id ∧
        (id = self.instanceId ∨ store.HasHeartbeat self.keyPrefix id))

/-- No stale instance has counters of IPv6 addresses only. -/
def NoStaleV6Only (self : RedisRateLimit) (store : Store) : Prop :=
  ∀ id : Uuid, id ≠ self.instanceId → ¬ store.HasHeartbeat self.keyPrefix id →
    (∃ subject : Subject, subject.IsV6 ∧ store.HasCounter self.keyPrefix subject id) →
      ∃ subject : Subject, subject.WellNamed ∧ ¬ subject.IsV6 ∧
        store.HasCounter self.keyPrefix subject id

/-- The cleanup is exact if and only if no stale instance has counters of IPv6 addresses
only. -/
theorem stale_cleanup_exact_iff (self : RedisRateLimit) (ipOrder appOrder : Shuffle)
    (listing : Text → Shuffle) (store : Store) (hsimple : Glob.Simple self.keyPrefix)
    (hcolon : colon ∉ self.keyPrefix) (hstore : store.WellFormed self.keyPrefix) :
    self.CleanupExact store
        ((self.cleanupStaleInstances ipOrder appOrder).exec (Store.service listing) store).2 ↔
      self.NoStaleV6Only store := by
  have hremoves := self.removes_cleanupStaleInstances listing ipOrder appOrder store
  have hmem : ∀ (subject : Subject) (id : Uuid), Store.HasCounter self.keyPrefix
      ((self.cleanupStaleInstances ipOrder appOrder).exec (Store.service listing) store).2
        subject id ↔ store.HasCounter self.keyPrefix subject id ∧
          ¬ (id ≠ self.instanceId ∧ ¬ store.HasHeartbeat self.keyPrefix id ∧
            ∃ other : Subject, other.WellNamed ∧ ¬ other.IsV6 ∧
              store.HasCounter self.keyPrefix other id) := by
    intro subject id
    rw [← stale_iff hsimple hcolon hstore subject id]
    exact hremoves.mem_iff _
  constructor
  · intro hexact id hself hheartbeat hv6
    obtain ⟨subject, hv6, hcounter⟩ := hv6
    have hnamed : subject.WellNamed := by
      match subject with
      | .ip addr => exact trivial
    by_contra hnone
    have hremains := (hmem subject id).mpr ⟨hcounter, fun hstale => hnone hstale.2.2⟩
    obtain ⟨-, rfl | hactive⟩ := (hexact subject id hnamed).mp hremains
    · exact hself rfl
    · exact hheartbeat hactive
  · intro hfound subject id hnamed
    rw [hmem]
    refine and_congr_right fun hcounter => ?_
    constructor
    · intro hnot
      by_contra hstale
      obtain ⟨hself, hheartbeat⟩ := not_or.mp hstale
      refine hnot ⟨hself, hheartbeat, ?_⟩
      by_cases hv6 : subject.IsV6
      · exact hfound id hself hheartbeat ⟨subject, hv6, hcounter⟩
      · exact ⟨subject, hnamed, hv6, hcounter⟩
    · rintro hkept ⟨hself, hheartbeat, -⟩
      obtain rfl | hactive := hkept
      · exact hself rfl
      · exact hheartbeat hactive

/-! ## An instance that served one client -/

def cleaningInstance : Uuid where
  text := utf8 "5d4f9e0c-7a31-4c7e-9d58-0c2b6f1e8a01"
  groups := by decide
  bytes := forall_mem_of_all (by decide)

def stoppedInstance : Uuid where
  text := utf8 "5d4f9e0c-7a31-4c7e-9d58-0c2b6f1e8a02"
  groups := by decide
  bytes := forall_mem_of_all (by decide)

def cleaner : RedisRateLimit where
  perIpLimit := 10
  perAppLimit := .empty
  keyPrefix := utf8 "flashblocks"
  instanceId := cleaningInstance

/-- `2001:db8::1` -/
def v6Client : IpAddr := .v6 ⟨[0x2001, 0xdb8, 0, 0, 0, 0, 0, 1], rfl⟩

def v4Client : IpAddr := .v4 { octets := (192, 0, 2, 1) }

/-- The heartbeat of the cleaning instance and the counters of an instance that has stopped. -/
def leftBehind (clients : List IpAddr) : Store :=
  clients.foldl
    (fun store addr =>
      store.insert ((Subject.ip addr).key cleaner.keyPrefix stoppedInstance.text) 1)
    ((∅ : Store).insert cleaner.instanceHeartbeatKey 1750000000)

/-- With counters of both clients, both are removed. -/
theorem v6_counter_removed_with_v4 :
    cleaner.CleanupExact (leftBehind [v4Client, v6Client])
      ((cleaner.cleanupStaleInstances .identity .identity).exec
        (Store.service fun _ => .identity) (leftBehind [v4Client, v6Client])).2 := by
  have hkeys : ∀ key ∈ leftBehind [v4Client, v6Client],
      key = (Subject.ip v6Client).key cleaner.keyPrefix stoppedInstance.text ∨
      key = (Subject.ip v4Client).key cleaner.keyPrefix stoppedInstance.text ∨
      key = heartbeatKey cleaner.keyPrefix cleaningInstance.text := by
    intro key hkey
    simp only [leftBehind, List.foldl_cons, List.foldl_nil, AList.mem_insert] at hkey
    obtain rfl | rfl | rfl | hnone := hkey
    · exact .inl rfl
    · exact .inr (.inl rfl)
    · exact .inr (.inr rfl)
    · exact absurd hnone (AList.notMem_empty key)
  refine (stale_cleanup_exact_iff cleaner .identity .identity (fun _ => .identity)
    (leftBehind [v4Client, v6Client]) (by decide) (by decide) ?_).mpr ?_
  · intro key hkey
    obtain rfl | rfl | rfl := hkeys key hkey
    · exact .inr ⟨.ip v6Client, stoppedInstance, trivial, rfl⟩
    · exact .inr ⟨.ip v4Client, stoppedInstance, trivial, rfl⟩
    · exact .inl ⟨cleaningInstance, rfl⟩
  · rintro id - - ⟨subject, -, hcounter⟩
    have hid : id = stoppedInstance := by
      obtain heq | heq | heq := hkeys _ hcounter
      · exact Uuid.text_inj (connectionsKey_inj subject.isKind isKind_ip id.colon_not_mem
          stoppedInstance.colon_not_mem heq).2.2
      · exact Uuid.text_inj (connectionsKey_inj subject.isKind isKind_ip id.colon_not_mem
          stoppedInstance.colon_not_mem heq).2.2
      · exact absurd heq.symm heartbeatKey_ne
    rw [hid]
    exact ⟨.ip v4Client, trivial, not_false, by decide +kernel⟩

/-- The counter of the IPv6 client is left. -/
theorem v6_counter_left_behind :
    ¬ cleaner.CleanupExact (leftBehind [v6Client])
      ((cleaner.cleanupStaleInstances .identity .identity).exec
        (Store.service fun _ => .identity) (leftBehind [v6Client])).2 := by
  intro hexact
  have hremains := (hexact (.ip v6Client) stoppedInstance trivial).mp (by decide +kernel)
  exact absurd hremains.2 (by decide +kernel)

end RedisRateLimit

end RollupBoost
