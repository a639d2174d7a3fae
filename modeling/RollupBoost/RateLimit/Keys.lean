import RollupBoost.RateLimit.Redis

/-!
# The keys of the Redis rate limiter

Which keys a pattern of the limiter matches, and what `split(':')` finds in a key. The patterns
mean what they say as long as the prefix is simple: it goes into them without being escaped, so
a bracket or a backslash in it changes what they match. Splitting a key finds the instance at
position four exactly when the address or app has no colon, which excludes every IPv6 address.
-/

namespace RollupBoost

open Machine

namespace Uuid

theorem text_inj {id id' : Uuid} (h : id.text = id'.text) : id = id' := by
  cases id
  cases id'
  simpa using h

theorem colon_not_mem (self : Uuid) : colon ∉ self.text :=
  fun h => absurd (self.bytes colon h) (by decide)

theorem plain (self : Uuid) : Glob.Plain self.text := by
  intro b hb
  have hbyte := self.bytes b hb
  refine ⟨?_, ?_, ?_, ?_⟩
  all_goals
    rintro rfl
    exact absurd hbyte (by decide)

theorem hyphen_mem (self : Uuid) : Glob.hyphen ∈ self.text := by
  by_contra hmem
  have hgroups := self.groups
  rw [List.splitOn_eq_singleton hmem] at hgroups
  simp at hgroups

end Uuid

namespace IpAddr

variable (self : IpAddr)

theorem plain : Glob.Plain self.toText := by
  intro b hb
  have hbyte := mem_toText hb
  refine ⟨?_, ?_, ?_, ?_⟩
  all_goals
    rintro rfl
    exact absurd hbyte (by decide)

theorem hyphen_not_mem : Glob.hyphen ∉ self.toText :=
  fun h => absurd (mem_toText h) (by decide)

end IpAddr

/-! ## Subjects -/

/-- The two words that tell counters of addresses and of apps apart. -/
def IsKind (kind : Text) : Prop := kind = ipKind ∨ kind = appKind

theorem isKind_ip : IsKind ipKind := .inl rfl

theorem isKind_app : IsKind appKind := .inr rfl

/-- What connections are counted by. -/
inductive Subject where
  | ip (addr : IpAddr)
  | app (name : Text)
  deriving DecidableEq

namespace Subject

def kind : Subject → Text
  | .ip _ => ipKind
  | .app _ => appKind

def text : Subject → Text
  | .ip addr => addr.toText
  | .app name => name

/-- The counter of the subject that an instance writes. -/
def key (keyPrefix : Text) (subject : Subject) (instanceId : Text) : Text :=
  connectionsKey keyPrefix subject.kind subject.text instanceId

/-- The pattern for the counters of the subject over all instances. -/
def pattern (keyPrefix : Text) (subject : Subject) : Text :=
  connectionsKey keyPrefix subject.kind subject.text wildcard

theorem isKind (subject : Subject) : IsKind subject.kind := by
  cases subject with
  | ip addr => exact isKind_ip
  | app name => exact isKind_app

theorem eq_of_kind_of_text {subject subject' : Subject} (hkind : subject.kind = subject'.kind)
    (htext : subject.text = subject'.text) : subject = subject' := by
  match subject, subject' with
  | .ip addr, .ip addr' => rw [IpAddr.toText_injective htext]
  | .app name, .app name' => rw [show name = name' from htext]
  | .ip addr, .app name => exact absurd hkind (show ipKind ≠ appKind by decide)
  | .app name, .ip addr => exact absurd hkind (show appKind ≠ ipKind by decide)

/-- The name of an app has no colon, and no byte with a special meaning in a pattern. -/
def Clean : Subject → Prop
  | .ip _ => True
  | .app name => colon ∉ name ∧ Glob.Plain name

theorem Clean.plain {subject : Subject} (h : subject.Clean) : Glob.Plain subject.text := by
  cases subject with
  | ip addr => exact addr.plain
  | app name => exact h.2

end Subject

/-! ## Taking keys apart -/

variable {keyPrefix kind kind' subject subject' instanceId instanceId' text : Text}

theorem IsKind.colon_not_mem (h : IsKind kind) : colon ∉ kind := by
  obtain rfl | rfl := h
  · decide
  · decide

theorem IsKind.plain (h : IsKind kind) : Glob.Plain kind := by
  obtain rfl | rfl := h
  · decide
  · decide

/-- The part of a key behind the kind. -/
def keyRest (subject instanceId : Text) : Text :=
  subject ++ utf8 ":instance:" ++ instanceId ++ utf8 ":connections"

theorem connectionsKey_eq (keyPrefix kind subject instanceId : Text) :
    connectionsKey keyPrefix kind subject instanceId =
      keyPrefix ++ (utf8 ":" ++ (kind ++ (utf8 ":" ++ keyRest subject instanceId))) := by
  simp [connectionsKey, keyRest]

theorem splitOn_keyRest (hid : colon ∉ instanceId) :
    (keyRest subject instanceId).splitOn colon =
      subject.splitOn colon ++ [utf8 "instance", instanceId, utf8 "connections"] := by
  have hrest : keyRest subject instanceId = subject ++ colon ::
      (utf8 "instance" ++ colon :: (instanceId ++ colon :: utf8 "connections")) := by
    have hinstance : utf8 ":instance:" = colon :: (utf8 "instance" ++ [colon]) := by decide
    have hconnections : utf8 ":connections" = colon :: utf8 "connections" := by decide
    simp [keyRest, hinstance, hconnections]
  rw [hrest, List.splitOn_append_cons_self, List.splitOn_append_cons_self,
    List.splitOn_append_cons_self, List.splitOn_eq_singleton hid]
  rfl

theorem splitOn_connectionsKey (hprefixColon : colon ∉ keyPrefix) (hkind : IsKind kind)
    (hid : colon ∉ instanceId) :
    (connectionsKey keyPrefix kind subject instanceId).splitOn colon =
      keyPrefix :: kind ::
        (subject.splitOn colon ++ [utf8 "instance", instanceId, utf8 "connections"]) := by
  have hcolon : utf8 ":" = [colon] := by decide
  rw [connectionsKey_eq, hcolon, List.singleton_append, List.singleton_append,
    List.splitOn_append_cons_self, List.splitOn_append_cons_self, splitOn_keyRest hid,
    List.splitOn_eq_singleton hprefixColon, List.splitOn_eq_singleton hkind.colon_not_mem]
  rfl

theorem splitOn_heartbeatKey (hprefixColon : colon ∉ keyPrefix) (hid : colon ∉ instanceId) :
    (heartbeatKey keyPrefix instanceId).splitOn colon =
      [keyPrefix, utf8 "instance", instanceId, utf8 "heartbeat"] := by
  have hkey : heartbeatKey keyPrefix instanceId = keyPrefix ++ colon ::
      (utf8 "instance" ++ colon :: (instanceId ++ colon :: utf8 "heartbeat")) := by
    have hinstance : utf8 ":instance:" = colon :: (utf8 "instance" ++ [colon]) := by decide
    have hheartbeat : utf8 ":heartbeat" = colon :: utf8 "heartbeat" := by decide
    simp [heartbeatKey, hinstance, hheartbeat]
  rw [hkey, List.splitOn_append_cons_self, List.splitOn_append_cons_self,
    List.splitOn_append_cons_self, List.splitOn_eq_singleton hprefixColon,
    List.splitOn_eq_singleton hid]
  rfl

/-- The instance is the fifth part of a key when the subject has no colon. -/
theorem nth_four_of_colon_not_mem (hprefixColon : colon ∉ keyPrefix) (hkind : IsKind kind)
    (hsubject : colon ∉ subject) (hid : colon ∉ instanceId) :
    ((connectionsKey keyPrefix kind subject instanceId).splitOn colon)[4]? = some instanceId := by
  rw [splitOn_connectionsKey hprefixColon hkind hid, List.splitOn_eq_singleton hsubject]
  rfl

/-- Behind an IPv6 address the fifth part is a piece of the address. -/
theorem nth_four_of_v6 (hprefixColon : colon ∉ keyPrefix) (hid : colon ∉ instanceId)
    (addr : Ipv6Addr) :
    ∃ part, ((connectionsKey keyPrefix ipKind (IpAddr.v6 addr).toText instanceId).splitOn
        colon)[4]? = some part ∧
      part ∈ (IpAddr.v6 addr).toText.splitOn colon := by
  have hlength : 3 ≤ ((IpAddr.v6 addr).toText.splitOn colon).length :=
    addr.three_le_length_splitOn
  rw [splitOn_connectionsKey hprefixColon isKind_ip hid]
  have hlt : 2 < ((IpAddr.v6 addr).toText.splitOn colon).length := by omega
  refine ⟨((IpAddr.v6 addr).toText.splitOn colon)[2], ?_, List.getElem_mem hlt⟩
  rw [List.getElem?_cons_succ, List.getElem?_cons_succ, List.getElem?_append_left hlt,
    List.getElem?_eq_getElem hlt]

theorem splitOn_injective {a b : Text} (h : a.splitOn colon = b.splitOn colon) : a = b := by
  have hjoin : List.intercalate [colon] (a.splitOn colon) =
      List.intercalate [colon] (b.splitOn colon) := by rw [h]
  rwa [List.intercalate_splitOn, List.intercalate_splitOn] at hjoin

/-- Keys with the same prefix agree in their kind. -/
theorem connectionsKey_kind (hkind : IsKind kind) (hkind' : IsKind kind')
    (h : connectionsKey keyPrefix kind subject instanceId =
      connectionsKey keyPrefix kind' subject' instanceId') :
    kind = kind' ∧ keyRest subject instanceId = keyRest subject' instanceId' := by
  rw [connectionsKey_eq, connectionsKey_eq] at h
  have hrest := List.append_cancel_left (List.append_cancel_left h)
  obtain rfl | rfl := hkind <;> obtain rfl | rfl := hkind'
  · exact ⟨rfl, List.append_cancel_left (List.append_cancel_left hrest)⟩
  · exact absurd (congrArg List.head? hrest) (show some (105 : UInt8) ≠ some 97 by decide)
  · exact absurd (congrArg List.head? hrest) (show some (97 : UInt8) ≠ some 105 by decide)
  · exact ⟨rfl, List.append_cancel_left (List.append_cancel_left hrest)⟩

/-- A key determines its kind, its subject and its instance. -/
theorem connectionsKey_inj (hkind : IsKind kind) (hkind' : IsKind kind')
    (hid : colon ∉ instanceId) (hid' : colon ∉ instanceId')
    (h : connectionsKey keyPrefix kind subject instanceId =
      connectionsKey keyPrefix kind' subject' instanceId') :
    kind = kind' ∧ subject = subject' ∧ instanceId = instanceId' := by
  obtain ⟨hkinds, hrest⟩ := connectionsKey_kind hkind hkind' h
  have hparts : (keyRest subject instanceId).splitOn colon =
      (keyRest subject' instanceId').splitOn colon := by rw [hrest]
  rw [splitOn_keyRest hid, splitOn_keyRest hid'] at hparts
  obtain ⟨hsubject, hlast⟩ := List.append_inj' hparts rfl
  simp only [List.cons.injEq, and_true, true_and] at hlast
  exact ⟨hkinds, splitOn_injective hsubject, hlast⟩

/-- A counter determines its subject and its instance. -/
theorem Subject.key_inj {subject subject' : Subject} {id id' : Uuid}
    (h : subject.key keyPrefix id.text = subject'.key keyPrefix id'.text) :
    subject = subject' ∧ id = id' := by
  obtain ⟨hkind, htext, hid⟩ := connectionsKey_inj subject.isKind subject'.isKind
    id.colon_not_mem id'.colon_not_mem h
  exact ⟨eq_of_kind_of_text hkind htext, Uuid.text_inj hid⟩

theorem heartbeatKey_inj
    (h : heartbeatKey keyPrefix instanceId = heartbeatKey keyPrefix instanceId') :
    instanceId = instanceId' := by
  simpa [heartbeatKey] using h

/-! ## Patterns -/

theorem connectionsKey_eq_append (keyPrefix kind subject instanceId : Text) :
    connectionsKey keyPrefix kind subject instanceId =
      keyPrefix ++ connectionsKey [] kind subject instanceId := by
  simp [connectionsKey]

theorem heartbeatKey_eq_append (keyPrefix instanceId : Text) :
    heartbeatKey keyPrefix instanceId = keyPrefix ++ heartbeatKey [] instanceId := by
  simp [heartbeatKey]

theorem plain_colon : Glob.Plain (utf8 ":") := by decide

theorem plain_instance : Glob.Plain (utf8 ":instance:") := by decide

theorem plain_connections : Glob.Plain (utf8 ":connections") := by decide

/-- A wildcard between two plain texts matches whatever stands between them. -/
theorem matches_hole {key : Text → Text} {before after : Text}
    (hshape : ∀ part, key part = before ++ part ++ after) (hbefore : Glob.Plain before)
    (hafter : Glob.Plain after) :
    globMatches (key wildcard) text = true ↔ ∃ part, text = key part := by
  rw [hshape wildcard, wildcard, List.append_assoc, List.singleton_append,
    Glob.matches_between hbefore hafter]
  simp only [hshape]

/-- `:{kind}:*:instance:{instance}:connections` -/
theorem matches_instance (hkind : IsKind kind) (hid : Glob.Plain instanceId) :
    globMatches (connectionsKey [] kind wildcard instanceId) text = true ↔
      ∃ subject, text = connectionsKey [] kind subject instanceId := by
  have hshape : ∀ subject, connectionsKey [] kind subject instanceId =
      (utf8 ":" ++ kind ++ utf8 ":") ++ subject ++
        (utf8 ":instance:" ++ instanceId ++ utf8 ":connections") := by
    intro subject
    simp [connectionsKey]
  exact matches_hole hshape ((plain_colon.append hkind.plain).append plain_colon)
    ((plain_instance.append hid).append plain_connections)

/-- `:{kind}:{subject}:instance:*:connections` -/
theorem matches_subject (hkind : IsKind kind) (hsubject : Glob.Plain subject) :
    globMatches (connectionsKey [] kind subject wildcard) text = true ↔
      ∃ instanceId, text = connectionsKey [] kind subject instanceId := by
  have hshape : ∀ instanceId, connectionsKey [] kind subject instanceId =
      (utf8 ":" ++ kind ++ utf8 ":" ++ subject ++ utf8 ":instance:") ++ instanceId ++
        utf8 ":connections" := by
    intro instanceId
    simp [connectionsKey]
  exact matches_hole hshape ((((plain_colon.append hkind.plain).append plain_colon).append
    hsubject).append plain_instance) plain_connections

/-- `:{kind}:*:instance:*:connections` -/
theorem matches_listing (hkind : IsKind kind) :
    globMatches (connectionsKey [] kind wildcard wildcard) text = true ↔
      ∃ subject instanceId, text = connectionsKey [] kind subject instanceId := by
  have hpattern : connectionsKey [] kind wildcard wildcard =
      (utf8 ":" ++ kind ++ utf8 ":") ++ Glob.star ::
        (utf8 ":instance:" ++ Glob.star :: utf8 ":connections") := by
    simp [connectionsKey, wildcard]
  rw [hpattern, Glob.matches_append ((plain_colon.append hkind.plain).append plain_colon)]
  simp only [Glob.matches_star, Glob.matches_between plain_instance plain_connections]
  constructor
  · rintro ⟨_, rfl, subject, _, rfl, instanceId, rfl⟩
    exact ⟨subject, instanceId, by simp [connectionsKey]⟩
  · rintro ⟨subject, instanceId, rfl⟩
    refine ⟨subject ++ (utf8 ":instance:" ++ instanceId ++ utf8 ":connections"), ?_, subject, _,
      rfl, instanceId, rfl⟩
    simp [connectionsKey]

/-- `:instance:*:heartbeat` -/
theorem matches_heartbeat :
    globMatches (heartbeatKey [] wildcard) text = true ↔
      ∃ instanceId, text = heartbeatKey [] instanceId := by
  have hheartbeat : Glob.Plain (utf8 ":heartbeat") := by decide
  exact matches_hole (fun instanceId => by simp [heartbeatKey]) plain_instance hheartbeat

/-! ### Behind a prefix

The wildcards of a prefix may match more than the prefix itself, and the rest of the pattern
then matches an end of the rest of the key. -/

variable {rest : Text}

theorem matches_prefixed (hsimple : Glob.Simple keyPrefix) (h : globMatches rest text = true) :
    globMatches (keyPrefix ++ rest) (keyPrefix ++ text) = true :=
  (Glob.matches_append_simple hsimple).mpr ⟨keyPrefix, text, rfl, Glob.matches_self hsimple, h⟩

theorem matches_of_prefixed (hsimple : Glob.Simple keyPrefix)
    (hrest : ∀ t, globMatches rest t = true → t.head? = some colon)
    (h : globMatches (keyPrefix ++ rest) (keyPrefix ++ text) = true) :
    ∃ before after, text = before ++ after ∧ globMatches rest after = true := by
  obtain ⟨before, after, htext, hbefore, hafter⟩ := (Glob.matches_append_simple hsimple).mp h
  obtain ⟨skipped, rfl, rfl⟩ | ⟨overlap, rfl, rfl⟩ := List.append_eq_append_iff.mp htext.symm
  · cases skipped with
    | nil => exact ⟨[], text, rfl, hafter⟩
    | cons b skipped =>
        -- the beginning of the prefix would have as many colons as all of it
        obtain rfl : b = colon := Option.some.inj (hrest _ hafter)
        have hcount := Glob.count_le_of_matches hsimple (show Glob.IsPlain colon by decide) hbefore
        rw [List.count_append, List.count_cons_self] at hcount
        omega
  · exact ⟨overlap, after, rfl, hafter⟩

/-- The counters of an instance match its patterns. -/
theorem matches_own_instance (hsimple : Glob.Simple keyPrefix) (hkind : IsKind kind)
    (hid : Glob.Plain instanceId) :
    globMatches (connectionsKey keyPrefix kind wildcard instanceId)
      (connectionsKey keyPrefix kind subject instanceId) = true := by
  rw [connectionsKey_eq_append, connectionsKey_eq_append keyPrefix kind subject]
  exact matches_prefixed hsimple ((matches_instance hkind hid).mpr ⟨subject, rfl⟩)

/-- The patterns of an instance match its own counters only. -/
theorem instance_of_matches (hsimple : Glob.Simple keyPrefix)
    (hkind : IsKind kind) (hplain : Glob.Plain instanceId) (hid : colon ∉ instanceId)
    (hid' : colon ∉ instanceId')
    (h : globMatches (connectionsKey keyPrefix kind wildcard instanceId)
      (connectionsKey keyPrefix kind' subject' instanceId') = true) :
    instanceId = instanceId' := by
  rw [connectionsKey_eq_append, connectionsKey_eq_append keyPrefix kind'] at h
  have hhead : ∀ t, globMatches (connectionsKey [] kind wildcard instanceId) t = true →
      t.head? = some colon := by
    intro t ht
    obtain ⟨subject, rfl⟩ := (matches_instance hkind hplain).mp ht
    rfl
  obtain ⟨before, after, htext, hafter⟩ := matches_of_prefixed hsimple hhead h
  obtain ⟨subject, rfl⟩ := (matches_instance hkind hplain).mp hafter
  -- both ends have the instance as their last part but one
  have hends : ∀ (x k s i : Text), x ++ connectionsKey [] k s i =
      (x ++ utf8 ":" ++ k) ++ colon :: keyRest s i := by
    intro x k s i
    simp [connectionsKey, keyRest, utf8]
    rfl
  have hkeys := congrArg (List.splitOn colon) htext
  rw [← List.nil_append (connectionsKey [] kind' subject' instanceId'), hends, hends,
    List.splitOn_append_cons_self, List.splitOn_append_cons_self, splitOn_keyRest hid,
    splitOn_keyRest hid', ← List.append_assoc, ← List.append_assoc] at hkeys
  have hlast := (List.append_inj' hkeys rfl).2
  simp only [List.cons.injEq, and_true, true_and] at hlast
  exact hlast.symm

theorem matches_own_listing (hsimple : Glob.Simple keyPrefix) (hkind : IsKind kind) :
    globMatches (connectionsKey keyPrefix kind wildcard wildcard)
      (connectionsKey keyPrefix kind subject instanceId) = true := by
  rw [connectionsKey_eq_append, connectionsKey_eq_append keyPrefix kind subject]
  exact matches_prefixed hsimple ((matches_listing hkind).mpr ⟨subject, instanceId, rfl⟩)

theorem matches_own_heartbeat (hsimple : Glob.Simple keyPrefix) :
    globMatches (heartbeatKey keyPrefix wildcard) (heartbeatKey keyPrefix instanceId) = true := by
  rw [heartbeatKey_eq_append, heartbeatKey_eq_append keyPrefix instanceId]
  exact matches_prefixed hsimple (matches_heartbeat.mpr ⟨instanceId, rfl⟩)

theorem getLast?_connectionsKey (before keyPrefix kind subject instanceId : Text) :
    (before ++ connectionsKey keyPrefix kind subject instanceId).getLast? = some 115 := by
  have hlast : (utf8 ":connections").getLast? = some 115 := by decide
  rw [connectionsKey, ← List.append_assoc, List.getLast?_append, hlast]
  rfl

theorem getLast?_heartbeatKey (before keyPrefix instanceId : Text) :
    (before ++ heartbeatKey keyPrefix instanceId).getLast? = some 116 := by
  have hlast : (utf8 ":heartbeat").getLast? = some 116 := by decide
  rw [heartbeatKey, ← List.append_assoc, List.getLast?_append, hlast]
  rfl

/-- Counters and heartbeats end in different letters. -/
theorem append_heartbeatKey_ne (before before' keyPrefix keyPrefix' : Text) :
    before ++ heartbeatKey keyPrefix instanceId ≠
      before' ++ connectionsKey keyPrefix' kind subject instanceId' := by
  intro h
  have hlast := getLast?_heartbeatKey before keyPrefix instanceId
  rw [h, getLast?_connectionsKey] at hlast
  exact absurd hlast (by decide)

theorem heartbeatKey_ne : heartbeatKey keyPrefix instanceId ≠
    connectionsKey keyPrefix kind subject instanceId' :=
  append_heartbeatKey_ne [] [] keyPrefix keyPrefix

/-- A pattern that behind the prefix matches counters only does not match a heartbeat. -/
theorem heartbeat_not_matched (hsimple : Glob.Simple keyPrefix)
    (hrest : ∀ t, globMatches rest t = true →
      ∃ kind subject instanceId, t = connectionsKey [] kind subject instanceId) :
    globMatches (keyPrefix ++ rest) (heartbeatKey keyPrefix instanceId) ≠ true := by
  intro h
  rw [heartbeatKey_eq_append] at h
  have hhead : ∀ t, globMatches rest t = true → t.head? = some colon := by
    intro t ht
    obtain ⟨kind, subject, id, rfl⟩ := hrest t ht
    rfl
  obtain ⟨before, after, htext, hafter⟩ := matches_of_prefixed hsimple hhead h
  obtain ⟨kind, subject, id, rfl⟩ := hrest after hafter
  exact append_heartbeatKey_ne [] before [] [] htext

theorem heartbeat_not_listed (hsimple : Glob.Simple keyPrefix)
    (hkind : IsKind kind) :
    globMatches (connectionsKey keyPrefix kind wildcard wildcard)
      (heartbeatKey keyPrefix instanceId) ≠ true := by
  rw [connectionsKey_eq_append]
  apply heartbeat_not_matched hsimple
  intro t ht
  exact ⟨kind, (matches_listing hkind).mp ht⟩

theorem heartbeat_not_of_instance (hsimple : Glob.Simple keyPrefix)
    (hkind : IsKind kind) (hplain : Glob.Plain instanceId') :
    globMatches (connectionsKey keyPrefix kind wildcard instanceId')
      (heartbeatKey keyPrefix instanceId) ≠ true := by
  rw [connectionsKey_eq_append]
  apply heartbeat_not_matched hsimple
  intro t ht
  obtain ⟨subject, rfl⟩ := (matches_instance hkind hplain).mp ht
  exact ⟨kind, subject, instanceId', rfl⟩

theorem counter_not_listed (hsimple : Glob.Simple keyPrefix) :
    globMatches (heartbeatKey keyPrefix wildcard)
      (connectionsKey keyPrefix kind subject instanceId) ≠ true := by
  intro h
  rw [heartbeatKey_eq_append, connectionsKey_eq_append] at h
  have hhead : ∀ t, globMatches (heartbeatKey [] wildcard) t = true → t.head? = some colon := by
    intro t ht
    obtain ⟨id, rfl⟩ := matches_heartbeat.mp ht
    rfl
  obtain ⟨before, after, htext, hafter⟩ := matches_of_prefixed hsimple hhead h
  obtain ⟨id, rfl⟩ := matches_heartbeat.mp hafter
  exact append_heartbeatKey_ne before [] [] [] htext.symm

/-! ### Patterns of a subject -/

namespace Subject

/-- A word with a letter behind `f` is no part of an address. -/
theorem not_mem_parts {word : Text} {b : UInt8} (hb : b ∈ word)
    (hletter : ¬ (b = colon ∨ b = dot ∨ IsHexDigit b)) (addr : IpAddr) :
    word ∉ addr.toText.splitOn colon :=
  fun hpart => hletter (IpAddr.mem_toText (mem_of_mem_splitOn hpart hb).1)

theorem kind_not_mem_parts (hkind : IsKind kind) (addr : IpAddr) :
    kind ∉ addr.toText.splitOn colon := by
  obtain rfl | rfl := hkind
  · exact not_mem_parts (show (112 : UInt8) ∈ ipKind by decide) (by decide) addr
  · exact not_mem_parts (show (112 : UInt8) ∈ appKind by decide) (by decide) addr

/-- The parts of a key whose end is a counter of some instance. -/
theorem parts_of_end {before : Text} (hkind : IsKind kind) (hkind' : IsKind kind')
    (hid : colon ∉ instanceId)
    (h : connectionsKey [] kind' subject' instanceId =
      before ++ connectionsKey [] kind subject instanceId') :
    [] :: kind' :: (subject'.splitOn colon ++ [utf8 "instance", instanceId, utf8 "connections"]) =
      before.splitOn colon ++ kind :: (subject.splitOn colon ++
        utf8 "instance" :: (instanceId'.splitOn colon ++ [utf8 "connections"])) := by
  have hend : connectionsKey [] kind subject instanceId' = colon :: (kind ++ colon ::
      (subject ++ colon :: (utf8 "instance" ++ colon ::
        (instanceId' ++ colon :: utf8 "connections")))) := by
    have hcolon : utf8 ":" = [colon] := by decide
    have hinstance : utf8 ":instance:" = colon :: (utf8 "instance" ++ [colon]) := by decide
    have hconnections : utf8 ":connections" = colon :: utf8 "connections" := by decide
    simp [connectionsKey, hcolon, hinstance, hconnections]
  have hparts := congrArg (List.splitOn colon) h
  rw [splitOn_connectionsKey (by simp) hkind' hid, hend, List.splitOn_append_cons_self,
    List.splitOn_append_cons_self, List.splitOn_append_cons_self,
    List.splitOn_append_cons_self, List.splitOn_append_cons_self,
    List.splitOn_eq_singleton hkind.colon_not_mem] at hparts
  exact hparts

/-- An app has one part, so the ends of the two keys have the same length. -/
theorem parts_inj_of_app {name : Text} {before parts parts' : List Text}
    (hbefore : before ≠ []) (hparts : parts ≠ []) (hparts' : parts' ≠ [])
    (h : [] :: kind' :: ([name] ++ [utf8 "instance", instanceId, utf8 "connections"]) =
      before ++ kind :: (parts ++ utf8 "instance" :: (parts' ++ [utf8 "connections"]))) :
    kind = kind' ∧ parts = [name] := by
  have hlength := congrArg List.length h
  have hone := List.length_pos_of_ne_nil hbefore
  have hone' := List.length_pos_of_ne_nil hparts
  have hone'' := List.length_pos_of_ne_nil hparts'
  simp only [List.length_cons, List.length_append, List.length_nil] at hlength
  obtain ⟨first, rfl⟩ := List.length_eq_one_iff.mp (show before.length = 1 by omega)
  obtain ⟨part, rfl⟩ := List.length_eq_one_iff.mp (show parts.length = 1 by omega)
  simp only [List.cons_append, List.nil_append, List.cons.injEq] at h
  obtain ⟨-, hkind, hname, -⟩ := h
  exact ⟨hkind.symm, by rw [hname]⟩

/-- A word without a hyphen is not the name of an instance. -/
theorem ne_uuid {word : Text} (hword : Glob.hyphen ∉ word) (id : Uuid) : word ≠ id.text := by
  rintro rfl
  exact hword id.hyphen_mem

/-- The parts of an address are told from the words around it. -/
theorem parts_inj_of_ip {addr : IpAddr} {id : Uuid} {before parts parts' : List Text}
    (hkind : IsKind kind) (hbefore : before ≠ [])
    (h : [] :: kind' :: (addr.toText.splitOn colon ++
        [utf8 "instance", id.text, utf8 "connections"]) =
      before ++ kind :: (parts ++ utf8 "instance" :: (parts' ++ [utf8 "connections"]))) :
    kind = kind' ∧ parts = addr.toText.splitOn colon := by
  have hword : utf8 "instance" ∉ addr.toText.splitOn colon :=
    not_mem_parts (show (110 : UInt8) ∈ utf8 "instance" by decide) (by decide) addr
  have hbehind : ∀ word, word = utf8 "instance" ∨ IsKind word →
      word ∉ [id.text, utf8 "connections"] := by
    intro word hshort
    have hhyphen : Glob.hyphen ∉ word := by
      obtain rfl | rfl | rfl := hshort <;> decide
    have hconnections : word ≠ utf8 "connections" := by
      obtain rfl | rfl | rfl := hshort <;> decide
    simp [ne_uuid hhyphen id, hconnections]
  match before with
  | [first] =>
      simp only [List.cons_append, List.nil_append, List.cons.injEq] at h
      obtain ⟨-, hkinds, hrest⟩ := h
      have hsplit := (List.append_cons_inj_of_notMem hword (hbehind _ (.inl rfl))).mp hrest
      exact ⟨hkinds.symm, hsplit.1.symm⟩
  | first :: second :: before =>
      -- the kind would stand behind the address
      simp only [List.cons_append, List.cons.injEq] at h
      have hmem : kind ∈ addr.toText.splitOn colon ++
          utf8 "instance" :: [id.text, utf8 "connections"] := by
        rw [h.2.2]
        simp
      obtain hpart | hlast := List.mem_append.mp hmem
      · exact absurd hpart (kind_not_mem_parts hkind addr)
      · obtain hinstance | hlast := List.mem_cons.mp hlast
        · obtain rfl | rfl := hkind
          · exact absurd hinstance (by decide)
          · exact absurd hinstance (by decide)
        · exact absurd hlast (hbehind kind (.inr hkind))

/-- The pattern of a subject matches no counters of other subjects. -/
theorem subject_of_matches (hsimple : Glob.Simple keyPrefix) {subject subject' : Subject}
    (hclean : subject.Clean) (hclean' : subject'.Clean) {id : Uuid}
    (h : globMatches (subject.pattern keyPrefix) (subject'.key keyPrefix id.text) = true) :
    subject = subject' := by
  rw [pattern, key, connectionsKey_eq_append, connectionsKey_eq_append keyPrefix subject'.kind] at h
  have hhead : ∀ t, globMatches (connectionsKey [] subject.kind subject.text wildcard) t = true →
      t.head? = some colon := by
    intro t ht
    obtain ⟨instanceId, rfl⟩ := (matches_subject subject.isKind hclean.plain).mp ht
    rfl
  obtain ⟨before, after, htext, hafter⟩ := matches_of_prefixed hsimple hhead h
  obtain ⟨instanceId, rfl⟩ := (matches_subject subject.isKind hclean.plain).mp hafter
  have hparts := parts_of_end subject.isKind subject'.isKind id.colon_not_mem htext
  have hsame : subject.kind = subject'.kind ∧
      subject.text.splitOn colon = subject'.text.splitOn colon := by
    cases subject' with
    | ip addr => exact parts_inj_of_ip subject.isKind (List.splitOn_ne_nil _ _) hparts
    | app name =>
        have hname : List.splitOn colon (Subject.app name).text = [name] :=
          List.splitOn_eq_singleton hclean'.1
        rw [hname] at hparts ⊢
        exact parts_inj_of_app (List.splitOn_ne_nil _ _) (List.splitOn_ne_nil _ _)
          (List.splitOn_ne_nil _ _) hparts
  exact eq_of_kind_of_text hsame.1 (splitOn_injective hsame.2)

theorem matches_own_subject (hsimple : Glob.Simple keyPrefix) {subject : Subject}
    (hclean : subject.Clean) :
    globMatches (subject.pattern keyPrefix) (subject.key keyPrefix instanceId) = true := by
  rw [pattern, key, connectionsKey_eq_append,
    connectionsKey_eq_append keyPrefix subject.kind _ instanceId]
  exact matches_prefixed hsimple
    ((matches_subject subject.isKind hclean.plain).mpr ⟨instanceId, rfl⟩)

theorem heartbeat_not_of_subject (hsimple : Glob.Simple keyPrefix) {subject : Subject}
    (hclean : subject.Clean) :
    globMatches (subject.pattern keyPrefix) (heartbeatKey keyPrefix instanceId) ≠ true := by
  rw [pattern, connectionsKey_eq_append]
  apply heartbeat_not_matched hsimple
  intro t ht
  obtain ⟨id, rfl⟩ := (matches_subject subject.isKind hclean.plain).mp ht
  exact ⟨subject.kind, subject.text, id, rfl⟩

end Subject

end RollupBoost
