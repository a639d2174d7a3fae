import RollupBoost.Engine.Payload
import RollupBoost.Machine.Lru
import RollupBoost.Machine.Run

/-!
# Pings and pongs of the flashblocks receiver

A connection to the builder (`rollup-boost/src/flashblocks/inbound.rs`) is kept alive by two
tasks. The ping task sends a ping with a fresh identifier and then puts the identifier into a
cache. The message task takes the identifier of a pong out of the cache and, if it was there,
moves its deadline. A pong that is not known is ignored.

The cache holds the last sixty pings, which is room enough: it is never the cache that makes a
timely pong unknown. But the identifier is put there only after the ping was sent. A peer may
answer in between, and then its pong is ignored, and the identifier stays in the cache for
nothing.

The tasks are cut at their awaits, so that a pong may be handled between the two halves of a
ping. Everything else that ends a connection is left out.
-/

namespace RollupBoost

open Machine

def maximumPings : Nat := 60

instance : NeZero maximumPings := ⟨by decide⟩

/-- `uuid::Uuid` as its bytes. -/
structure PingUuid where
  bytes : Bytes
  length_bytes : bytes.length = 16
  deriving DecidableEq

def PingUuid.fromSlice (data : Bytes) : Option PingUuid :=
  if h : data.length = 16 then some ⟨data, h⟩ else none

theorem PingUuid.eq_of_bytes {uuid other : PingUuid} (h : uuid.bytes = other.bytes) :
    uuid = other := by
  cases uuid
  cases other
  simpa using h

/-- What the two tasks of a connection share, and where the ping task stands. -/
structure PingPong where
  pingCache : LruCache PingUuid Unit maximumPings
  /-- The ping that was sent last, until it is put into the cache. -/
  unregistered : Option PingUuid
  sent : List PingUuid
  pongDeadline : Nat

namespace PingPong

def new (pongDeadline : Nat) : PingPong where
  pingCache := .new PingUuid Unit maximumPings
  unregistered := none
  sent := []
  pongDeadline := pongDeadline

inductive Event where
  | send (uuid : PingUuid)
  | put
  | pong (data : Bytes) (now : Nat)
  deriving DecidableEq

def Event.isSend : Event → Bool
  | .send _ => true
  | _ => false

/-- The event is an answer to the ping. -/
def Event.IsPongOf (uuid : PingUuid) : Event → Prop
  | .pong data _ => data = uuid.bytes
  | _ => False

/-- One step of one of the tasks. -/
def step (pongTimeout : Nat) (self : PingPong) : Event → PingPong
  | .send uuid => { self with unregistered := some uuid, sent := uuid :: self.sent }
  | .put =>
      match self.unregistered with
      | some uuid => { self with pingCache := self.pingCache.put uuid (), unregistered := none }
      | none => self
  | .pong data now =>
      match PingUuid.fromSlice data with
      | some uuid =>
          match self.pingCache.pop uuid with
          | (some _, pingCache) =>
              { self with pingCache := pingCache, pongDeadline := now + pongTimeout }
          | (none, _) => self
      | none => self

/-- The ping task takes its two halves in turn, and every ping has an identifier of its own. The
peer may send what it likes. -/
def Valid (self : PingPong) : Event → Prop
  | .send uuid => self.unregistered = none ∧ uuid ∉ self.sent
  | .put => self.unregistered.isSome = true
  | .pong _ _ => True

variable {pongTimeout : Nat} {self : PingPong} {uuid : PingUuid} {data : Bytes} {now : Nat}

/-! ## One step -/

/-- A pong is ignored, or it takes its identifier out of the cache. -/
theorem step_pong_cases (pongTimeout : Nat) (self : PingPong) (data : Bytes) (now : Nat) :
    (self.step pongTimeout (.pong data now) = self ∧
      ∀ uuid : PingUuid, uuid.bytes = data → ¬ self.pingCache.Mem uuid) ∨
    ∃ uuid : PingUuid, uuid.bytes = data ∧ self.pingCache.Mem uuid ∧
      self.step pongTimeout (.pong data now) =
        { self with
          pingCache := (self.pingCache.pop uuid).2
          pongDeadline := now + pongTimeout } := by
  simp only [step, PingUuid.fromSlice]
  by_cases hlength : data.length = 16
  · rw [dif_pos hlength]
    have hmem : (self.pingCache.pop ⟨data, hlength⟩).1.isSome = true ↔
        self.pingCache.Mem ⟨data, hlength⟩ := LruCache.isSome_pop_iff
    cases hpop : self.pingCache.pop ⟨data, hlength⟩ with
    | mk value rest =>
        rw [hpop] at hmem
        cases value with
        | none =>
            refine .inl ⟨by simp only [hpop], ?_⟩
            rintro uuid rfl hin
            exact absurd (hmem.mpr hin) (by simp)
        | some value => exact .inr ⟨⟨data, hlength⟩, rfl, hmem.mp rfl, by simp only [hpop]⟩
  · rw [dif_neg hlength]
    refine .inl ⟨rfl, ?_⟩
    rintro uuid rfl hin
    exact hlength uuid.length_bytes

theorem unregistered_step_pong (pongTimeout : Nat) (self : PingPong) (data : Bytes) (now : Nat) :
    (self.step pongTimeout (.pong data now)).unregistered = self.unregistered := by
  obtain ⟨heq, -⟩ | ⟨_, -, -, heq⟩ := self.step_pong_cases pongTimeout data now
  · rw [heq]
  · rw [heq]

/-- The cache has pings that were sent, and not the one that is still to be put there. -/
structure Known (x : PingPong) : Prop where
  sent : ∀ uuid, x.pingCache.Mem uuid → uuid ∈ x.sent
  unregistered : ∀ uuid, x.unregistered = some uuid → uuid ∈ x.sent ∧ ¬ x.pingCache.Mem uuid

theorem known_new (pongDeadline : Nat) : Known (new pongDeadline) where
  sent _ hmem := absurd hmem LruCache.not_mem_new
  unregistered _ h := absurd h (by simp [new])

theorem known_step (event : Event) (hknown : self.Known) (hvalid : self.Valid event) :
    (self.step pongTimeout event).Known := by
  cases event with
  | send uuid =>
      refine ⟨fun other hmem => List.mem_cons_of_mem _ (hknown.sent other hmem), ?_⟩
      intro other heq
      obtain rfl : uuid = other := Option.some.inj heq
      exact ⟨List.mem_cons_self, fun hmem => hvalid.2 (hknown.sent uuid hmem)⟩
  | put =>
      cases hunregistered : self.unregistered with
      | none => simpa only [step, hunregistered] using hknown
      | some uuid =>
          simp only [step, hunregistered]
          refine ⟨?_, fun other heq => absurd heq (by simp)⟩
          intro other hmem
          obtain rfl | hmem := LruCache.mem_of_mem_put hmem
          · exact (hknown.unregistered other hunregistered).1
          · exact hknown.sent other hmem
  | pong data now =>
      obtain ⟨heq, -⟩ | ⟨uuid, -, -, heq⟩ := self.step_pong_cases pongTimeout data now
      · rwa [heq]
      · rw [heq]
        refine ⟨fun other hmem => hknown.sent other (LruCache.mem_of_mem_pop hmem), ?_⟩
        intro other hother
        obtain ⟨hsent, hfresh⟩ := hknown.unregistered other hother
        exact ⟨hsent, fun hmem => hfresh (LruCache.mem_of_mem_pop hmem)⟩

/-- The ping is in the cache, and of the `later` pings that were sent after it, those that are
in the cache too are the only ones in front of it. -/
structure Held (uuid : PingUuid) (later : Nat) (x : PingPong) : Prop where
  sent : uuid ∈ x.sent
  registered : x.unregistered ≠ some uuid
  within : ∃ n, LruCache.Within uuid n x.pingCache ∧
    n + (if x.unregistered.isSome then 1 else 0) ≤ later

/-- The pings that an event sends. -/
def Event.sends (event : Event) : Nat := if event.isSend then 1 else 0

theorem held_step {later : Nat} {event : Event} (h : Held uuid later self)
    (hvalid : self.Valid event) (hother : ¬ event.IsPongOf uuid)
    (hfew : later + event.sends < maximumPings) :
    Held uuid (later + event.sends) (self.step pongTimeout event) := by
  obtain ⟨n, hwithin, hle⟩ := h.within
  cases event with
  | send other =>
      obtain ⟨hidle, hfresh⟩ := hvalid
      have hne : other ≠ uuid := fun heq => hfresh (heq ▸ h.sent)
      rw [hidle] at hle
      refine ⟨List.mem_cons_of_mem _ h.sent, by simpa [step] using hne, n, hwithin, ?_⟩
      simpa [step, Event.sends, Event.isSend] using hle
  | put =>
      obtain ⟨other, hunregistered⟩ := Option.isSome_iff_exists.mp hvalid
      have hne : other ≠ uuid := fun heq => h.registered (heq ▸ hunregistered)
      rw [hunregistered] at hle
      simp only [Option.isSome_some, if_true] at hle
      simp only [Event.sends, Event.isSend, Bool.false_eq_true, if_false, Nat.add_zero] at hfew ⊢
      simp only [step, hunregistered]
      refine ⟨h.sent, by simp, n + 1, LruCache.within_put hwithin hne (by omega), ?_⟩
      simpa using hle
  | pong data now =>
      simp only [Event.sends, Event.isSend, Bool.false_eq_true, if_false, Nat.add_zero] at hfew ⊢
      obtain ⟨heq, -⟩ | ⟨other, hbytes, -, heq⟩ := self.step_pong_cases pongTimeout data now
      · rwa [heq]
      · have hne : other ≠ uuid := fun hsame => hother (hsame ▸ hbytes.symm)
        rw [heq]
        exact ⟨h.sent, h.registered, n, LruCache.within_pop hwithin hne, hle⟩

/-! ## Every interleaving -/

variable {events : List Event}

theorem held_run {later : Nat} (h : Held uuid later self)
    (hvalid : Along (step pongTimeout) Valid self events)
    (hother : ∀ event ∈ events, ¬ event.IsPongOf uuid)
    (hfew : later + events.countP Event.isSend < maximumPings) :
    Held uuid (later + events.countP Event.isSend) (run (step pongTimeout) self events) := by
  induction events generalizing self later with
  | nil => exact h
  | cons event events ih =>
      have hcount : later + (event :: events).countP Event.isSend =
          later + event.sends + events.countP Event.isSend := by
        rw [List.countP_cons, Event.sends]
        omega
      rw [hcount] at hfew ⊢
      rw [List.forall_mem_cons] at hother
      exact ih (held_step h hvalid.1 hother.1 (by omega)) hvalid.2 hother.2 hfew

/-- Once it was put into the cache, a ping stays there until it is answered. -/
theorem held_of_put (hknown : self.Known) (hunregistered : self.unregistered = some uuid)
    (hvalid : Along (step pongTimeout) Valid self events)
    (hother : ∀ event ∈ events, ¬ event.IsPongOf uuid)
    (hfew : events.countP Event.isSend < maximumPings) (hput : .put ∈ events) :
    Held uuid (events.countP Event.isSend) (run (step pongTimeout) self events) := by
  induction events generalizing self with
  | nil => exact absurd hput (by simp)
  | cons event events ih =>
      rw [List.forall_mem_cons] at hother
      cases event with
      | send other =>
          -- the ping task is not done with this ping
          exact absurd (hunregistered.symm.trans hvalid.1.1) (by simp)
      | put =>
          have hheld : Held uuid 0 (self.step pongTimeout .put) := by
            simp only [step, hunregistered]
            exact ⟨(hknown.unregistered uuid hunregistered).1, by simp, 0,
              LruCache.within_put_self, by simp⟩
          have hcount : (Event.put :: events).countP Event.isSend =
              0 + events.countP Event.isSend := by simp [Event.isSend]
          rw [hcount] at hfew ⊢
          exact held_run hheld hvalid.2 hother.2 hfew
      | pong data now =>
          have hkept := (self.unregistered_step_pong pongTimeout data now).trans hunregistered
          have hcount : (Event.pong data now :: events).countP Event.isSend =
              events.countP Event.isSend := by simp [Event.isSend]
          rw [hcount] at hfew ⊢
          exact ih (known_step _ hknown hvalid.1) hkept hvalid.2 hother.2 hfew
            (by simpa using hput)

/-- Until it is put into the cache, a ping is the one that is still to be put there. -/
theorem known_of_not_put (hknown : self.Known) (hunregistered : self.unregistered = some uuid)
    (hvalid : Along (step pongTimeout) Valid self events) (hput : .put ∉ events) :
    (run (step pongTimeout) self events).Known ∧
      (run (step pongTimeout) self events).unregistered = some uuid := by
  have hnoPut : ∀ event ∈ events, event ≠ .put := fun event hmem heq => hput (heq ▸ hmem)
  refine (hvalid.and_forall hnoPut).run_invariant ?_
    (I := fun x => x.Known ∧ x.unregistered = some uuid) ⟨hknown, hunregistered⟩
  rintro x event ⟨hknown, hunregistered⟩ ⟨hvalid, hnoPut⟩
  refine ⟨known_step event hknown hvalid, ?_⟩
  cases event with
  | send other => exact absurd (hunregistered.symm.trans hvalid.1) (by simp)
  | put => exact absurd rfl hnoPut
  | pong data now => exact (x.unregistered_step_pong pongTimeout data now).trans hunregistered

/-- In every interleaving, the first pong for a ping with fewer than sixty later ones moves the
deadline exactly if the ping was put into the cache before. Otherwise it is ignored. -/
theorem first_pong_resets_iff (pongTimeout pongDeadline : Nat) {before between : List Event}
    {uuid : PingUuid}
    (hvalid : Along (step pongTimeout) Valid (new pongDeadline)
      (before ++ .send uuid :: between))
    (hfirst : ∀ event ∈ between, ¬ event.IsPongOf uuid)
    (hfew : between.countP Event.isSend < maximumPings) :
    let x := run (step pongTimeout) (new pongDeadline) (before ++ .send uuid :: between)
    ((∀ now, (x.step pongTimeout (.pong uuid.bytes now)).pongDeadline = now + pongTimeout) ↔
        .put ∈ between) ∧
      (.put ∉ between → ∀ now, x.step pongTimeout (.pong uuid.bytes now) = x) := by
  intro x
  obtain ⟨hbefore, hsend, hbetween⟩ := Along.append_iff.mp hvalid
  have hx : x = run (step pongTimeout)
      ((run (step pongTimeout) (new pongDeadline) before).step pongTimeout (.send uuid)) between :=
    run_append ..
  have hknown : Known
      ((run (step pongTimeout) (new pongDeadline) before).step pongTimeout (.send uuid)) :=
    known_step _ (hbefore.run_invariant (fun _ => known_step) (known_new pongDeadline)) hsend
  have hignored : .put ∉ between → ∀ now, x.step pongTimeout (.pong uuid.bytes now) = x := by
    intro hput now
    obtain ⟨hknown, hunregistered⟩ := known_of_not_put hknown rfl hbetween hput
    rw [← hx] at hknown hunregistered
    obtain ⟨heq, -⟩ | ⟨other, hbytes, hmem, -⟩ := x.step_pong_cases pongTimeout uuid.bytes now
    · exact heq
    · obtain rfl := PingUuid.eq_of_bytes hbytes
      exact absurd hmem (hknown.unregistered other hunregistered).2
  refine ⟨⟨?_, ?_⟩, hignored⟩
  · intro hmoves
    by_contra hput
    have hmoved := hmoves (x.pongDeadline + 1)
    rw [hignored hput] at hmoved
    omega
  · intro hput now
    have hheld := held_of_put hknown rfl hbetween hfirst hfew hput
    rw [← hx] at hheld
    obtain ⟨n, hwithin, -⟩ := hheld.within
    obtain ⟨-, hunknown⟩ | ⟨other, -, -, heq⟩ := x.step_pong_cases pongTimeout uuid.bytes now
    · exact absurd hwithin.mem (hunknown uuid rfl)
    · rw [heq]

/-- An identifier with one byte repeated. -/
def testUuid (byte : UInt8) : PingUuid := ⟨List.replicate 16 byte, List.length_replicate⟩

instance (self : PingPong) : (event : Event) → Decidable (self.Valid event)
  | .send _ => inferInstanceAs (Decidable (_ ∧ _))
  | .put => inferInstanceAs (Decidable (_ = true))
  | .pong _ _ => isTrue trivial

instance (uuid : PingUuid) : (event : Event) → Decidable (event.IsPongOf uuid)
  | .send _ => isFalse id
  | .put => isFalse id
  | .pong _ _ => inferInstanceAs (Decidable (_ = _))

/-- The first ping is answered while the second one is on its way. -/
theorem late_pong_resets :
    ((run (step 2000) (new 2000)
      [.send (testUuid 1), .put, .send (testUuid 2)]).step 2000
        (.pong (testUuid 1).bytes 1500)).pongDeadline = 3500 := by
  have hvalid : Along (step 2000) Valid (new 2000)
      ([] ++ .send (testUuid 1) :: [.put, .send (testUuid 2)]) := by decide
  exact (first_pong_resets_iff 2000 2000 hvalid (by decide) (by decide)).1.mpr (by decide) 1500

/-- The ping is answered before it was put into the cache, and the deadline stays. -/
theorem early_pong_is_ignored :
    let x := run (step 2000) (new 2000) [.send (testUuid 1)]
    Along (step 2000) Valid (new 2000) [.send (testUuid 1)] ∧
      (x.step 2000 (.pong (testUuid 1).bytes 500)).pongDeadline = 2000 := by
  decide

end PingPong

end RollupBoost
