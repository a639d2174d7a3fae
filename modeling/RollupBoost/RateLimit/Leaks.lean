import RollupBoost.RateLimit.Memory

/-!
# Counters that nobody gives back

A call of the in-memory limiter that fails is meant to leave no trace. The permit is given
back when it is dropped, and a call that fails on the address has counted nothing yet. A call
that fails on the app has already counted its address, and there is no ticket whose drop would
take that back.

These calls are the only ones. In a run without them every counter is the number of the live
tickets it stands for, so that the maps are empty once all tickets are gone.
-/

namespace RollupBoost

open Machine

/-! ## Entries of zero -/

section Counters

variable {κ : Type} {table counted : Table κ Nat} {key : κ}

/-- A counter that would be zero has no entry. -/
def NoZeros (table : Table κ Nat) : Prop := ∀ key, table key ≠ some 0

theorem NoZeros.eq_empty (h : NoZeros table) (hzero : ∀ key, currentCount table key = 0) :
    table = .empty := by
  funext key
  have hcount := hzero key
  simp only [currentCount] at hcount
  cases hentry : table key with
  | none => rfl
  | some count =>
      rw [hentry, Option.getD_some] at hcount
      exact absurd (hcount ▸ hentry) (h key)

variable [DecidableEq κ]

theorem NoZeros.insert (h : NoZeros table) (key : κ) (count : Nat) :
    NoZeros (table.insert key (count + 1)) := by
  intro other
  by_cases hother : other = key
  · simp [hother]
  · rw [Table.insert_of_ne _ hother]
    exact h other

theorem NoZeros.remove (h : NoZeros table) (key : κ) : NoZeros (table.remove key) := by
  intro other
  by_cases hother : other = key
  · simp [hother]
  · rw [Table.remove_of_ne _ hother]
    exact h other

theorem NoZeros.countUp {limit : Nat} {reason : String} (h : NoZeros table)
    (hok : countUp table key limit reason = .ok counted) : NoZeros counted := by
  simp only [RollupBoost.countUp] at hok
  split at hok
  · exact absurd hok (by simp)
  · obtain rfl := Except.ok.inj hok
    exact h.insert key _

theorem NoZeros.countDown (h : NoZeros table) (key : κ) : NoZeros (countDown table key).1 := by
  simp only [RollupBoost.countDown]
  split
  · exact h.remove key
  · exact h.remove key
  · exact h.insert key _

end Counters

namespace InMemoryRateLimit

variable {self : InMemoryRateLimit} {inner next : Inner} {addr : IpAddr} {app : Option Text}

/-- Neither map has an entry of zero. -/
def Tidy (inner : Inner) : Prop :=
  NoZeros inner.activeConnectionsPerIp ∧ NoZeros inner.activeConnectionsPerApp

theorem Tidy.countIp (h : Tidy inner) (hok : self.countIp inner addr = .ok next) : Tidy next := by
  simp only [InMemoryRateLimit.countIp] at hok
  split at hok
  · obtain ⟨counted, hup, hok⟩ := except_bind_eq_ok hok
    obtain rfl := Except.ok.inj hok
    exact ⟨h.1.countUp hup, h.2⟩
  · obtain rfl := Except.ok.inj hok
    exact h

theorem Tidy.countApp (h : Tidy inner) (hok : self.countApp inner app = .ok next) : Tidy next := by
  cases app with
  | none =>
      obtain rfl := Except.ok.inj hok
      exact h
  | some app =>
      obtain ⟨counted, hup, hok⟩ := except_bind_eq_ok hok
      obtain rfl := Except.ok.inj hok
      exact ⟨h.1, h.2.countUp hup⟩

theorem Tidy.tryAcquire (h : Tidy inner) (addr : IpAddr) (app : Option Text) :
    Tidy (self.tryAcquire inner addr app).1 := by
  simp only [InMemoryRateLimit.tryAcquire]
  split
  · exact h
  · have hpermitted : Tidy { inner with semaphore := inner.semaphore - 1 } := h
    cases hip : self.countIp { inner with semaphore := inner.semaphore - 1 } addr with
    | error e => exact h
    | ok counted =>
        simp only
        cases happ : self.countApp counted app with
        | error e =>
            have hcounted : Tidy counted := hpermitted.countIp hip
            exact hcounted
        | ok counted' => exact (hpermitted.countIp hip).countApp happ

theorem Tidy.release (h : Tidy inner) (addr : IpAddr) (app : Option Text) :
    Tidy (self.release inner addr app).1 := by
  simp only [InMemoryRateLimit.release]
  refine ⟨?_, ?_⟩
  · simp only
    split
    · exact h.1.countDown addr
    · exact h.1
  · simp only
    cases app with
    | none => exact h.2
    | some app => exact h.2.countDown app

/-- If addresses are not counted, a call that fails has counted nothing. -/
theorem tryAcquire_of_uncounted (hunlimited : ¬ 0 < self.perIpLimit) {e : RateLimitError}
    (hfails : (self.tryAcquire inner addr app).2 = .error e) :
    (self.tryAcquire inner addr app).1 = inner := by
  simp only [tryAcquire, countIp, if_neg hunlimited] at hfails ⊢
  split
  · rfl
  · next hpermit =>
      rw [if_neg hpermit] at hfails
      cases happ : self.countApp { inner with semaphore := inner.semaphore - 1 } app with
      | error e =>
          have hback : inner.semaphore - 1 + 1 = inner.semaphore := by omega
          simp only [hback]
      | ok counted =>
          rw [happ] at hfails
          exact absurd hfails (by simp)

/-- The call fails on the app after it has counted its address. -/
def Leaks (self : InMemoryRateLimit) (inner : Inner) (addr : IpAddr) (app : Option Text) : Prop :=
  0 < inner.semaphore ∧ 0 < self.perIpLimit ∧ ¬ self.IpFull inner addr ∧ self.AppFull inner app

/-- A call that fails leaves the limiter as it was. -/
def Restores (self : InMemoryRateLimit) (inner : Inner) (addr : IpAddr) (app : Option Text) :
    Prop :=
  ∀ e, (self.tryAcquire inner addr app).2 = .error e → (self.tryAcquire inner addr app).1 = inner

theorem restores_iff (self : InMemoryRateLimit) (inner : Inner) (addr : IpAddr)
    (app : Option Text) : self.Restores inner addr app ↔ ¬ self.Leaks inner addr app := by
  simp only [Restores, Leaks]
  obtain ⟨hempty, heq⟩ | ⟨-, hfull, heq⟩ | ⟨hpermit, hfree, hfull, next, heq, hip, -, -⟩ |
      ⟨-, -, hfree, next, heq, -⟩ :=
    self.tryAcquire_cases inner addr app
  · exact iff_of_true (by simp [heq]) (by simp [hempty])
  · exact iff_of_true (by simp [heq]) fun hleaks => hleaks.2.2.1 hfull
  · by_cases hlimited : 0 < self.perIpLimit
    · -- the address has one connection more than before
      refine iff_of_false ?_ (not_not_intro ⟨hpermit, hlimited, hfree, hfull⟩)
      intro hrestores
      have hsame : next = inner := by simpa [heq] using hrestores
      have hcount := hip addr
      rw [hsame, if_pos ⟨hlimited, rfl⟩] at hcount
      omega
    · exact iff_of_true (fun e => tryAcquire_of_uncounted hlimited) fun hleaks =>
        hlimited hleaks.2.1
  · exact iff_of_true (by simp [heq]) fun hleaks => hfree hleaks.2.2.2

end InMemoryRateLimit

namespace Connections

open InMemoryRateLimit (ipCount appCount)

variable (limiter : InMemoryRateLimit)

def Leaks (x : Connections) : ConnectionEvent → Prop
  | .tryAcquire addr app => limiter.Leaks x.inner addr app
  | _ => False

def Restores (x : Connections) : ConnectionEvent → Prop
  | .tryAcquire addr app => limiter.Restores x.inner addr app
  | _ => True

/-- Each counter is the number of the live tickets it stands for, and when no ticket is left
the limiter is as it was at the start. -/
structure Exact (instanceLimit : Nat) (x : Connections) : Prop where
  ip : 0 < limiter.perIpLimit → ∀ addr, ipCount x.inner addr = x.ofAddr addr
  app : ∀ app, appCount x.inner app = x.ofApp app
  drained : x.live = [] → x.released = [] →
    x.inner = InMemoryRateLimit.newInner instanceLimit

variable {limiter} {instanceLimit : Nat} {x : Connections}

theorem restores_iff (x : Connections) (event : ConnectionEvent) :
    x.Restores limiter event ↔ ¬ x.Leaks limiter event := by
  cases event with
  | tryAcquire addr app => exact limiter.restores_iff x.inner addr app
  | release index => simp [Restores, Leaks]
  | returnPermit index => simp [Restores, Leaks]

/-- The exact counters; addresses that are not limited are not counted. -/
structure Tallied (instanceLimit : Nat) (limiter : InMemoryRateLimit) (x : Connections) :
    Prop where
  inv : Inv limiter instanceLimit x
  tidy : InMemoryRateLimit.Tidy x.inner
  ip : ∀ addr, ipCount x.inner addr = if 0 < limiter.perIpLimit then x.ofAddr addr else 0
  app : ∀ app, appCount x.inner app = x.ofApp app

theorem tallied_start : Tallied instanceLimit limiter (start instanceLimit) where
  inv := inv_start
  tidy := ⟨by simp [NoZeros, start, InMemoryRateLimit.newInner],
    by simp [NoZeros, start, InMemoryRateLimit.newInner]⟩
  ip := by
    intro addr
    split <;> rfl
  app := by
    intro app
    rfl

theorem Tallied.exact (h : Tallied instanceLimit limiter x) : Exact limiter instanceLimit x where
  ip := by
    intro hlimited addr
    rw [h.ip addr, if_pos hlimited]
  app := h.app
  drained := by
    intro hlive hreleased
    have hip : x.inner.activeConnectionsPerIp = .empty := by
      apply h.tidy.1.eq_empty
      intro addr
      have hcount := h.ip addr
      simpa [ipCount, ofAddr, hlive] using hcount
    have happ : x.inner.activeConnectionsPerApp = .empty := by
      apply h.tidy.2.eq_empty
      intro app
      have hcount := h.app app
      simpa [appCount, ofApp, hlive] using hcount
    have hpermits : x.inner.semaphore = instanceLimit := by
      have hsum := h.inv.permits
      simpa [hlive, hreleased] using hsum
    simp only [InMemoryRateLimit.newInner, ← hip, ← happ, ← hpermits]

/-- A call that does not leak counts exactly the ticket it returns. -/
theorem Tallied.tryAcquire (h : Tallied instanceLimit limiter x) {addr : IpAddr}
    {app : Option Text} (hkept : ¬ limiter.Leaks x.inner addr app) :
    Tallied instanceLimit limiter (x.step limiter (.tryAcquire addr app)) := by
  have hinv := h.inv.tryAcquire addr app
  have htidy : InMemoryRateLimit.Tidy (limiter.tryAcquire x.inner addr app).1 :=
    h.tidy.tryAcquire addr app
  have hrestores := (limiter.restores_iff x.inner addr app).mpr hkept
  cases hresult : limiter.tryAcquire x.inner addr app with
  | mk next result =>
      cases result with
      | error e =>
          have hsame : next = x.inner := by
            have hinner := hrestores e (by rw [hresult])
            rwa [hresult] at hinner
          have hstep : x.step limiter (.tryAcquire addr app) = x := by
            simp only [Connections.step, hresult, hsame]
          rw [hstep]
          exact h
      | ok ticket =>
          obtain ⟨-, heq⟩ | ⟨-, -, heq⟩ | ⟨-, -, -, other, heq, -⟩ |
              ⟨-, -, -, other, heq, hip, happ, -⟩ :=
            limiter.tryAcquire_cases x.inner addr app
          · exact absurd (hresult.symm.trans heq) (by simp)
          · exact absurd (hresult.symm.trans heq) (by simp)
          · exact absurd (hresult.symm.trans heq) (by simp)
          · obtain ⟨rfl, hticket⟩ := Prod.mk.inj (hresult.symm.trans heq)
            obtain rfl := Except.ok.inj hticket
            rw [hresult] at htidy
            simp only [Connections.step, hresult] at hinv ⊢
            refine ⟨hinv, htidy, ?_, ?_⟩
            · intro other
              rw [hip other, h.ip other]
              simp only [ofAddr, List.countP_append, List.countP_singleton, decide_eq_true_eq]
              by_cases hlimited : 0 < limiter.perIpLimit
              · simp [hlimited, eq_comm]
              · simp [hlimited]
            · intro other
              rw [happ other, h.app other]
              simp only [ofApp, List.countP_append, List.countP_singleton, decide_eq_true_eq]

theorem Tallied.release (h : Tallied instanceLimit limiter x) (index : Nat) :
    Tallied instanceLimit limiter (x.step limiter (.release index)) := by
  have hinv := (h.inv.release index).1
  cases hticket : x.live[index]? with
  | none =>
      have hstep : x.step limiter (.release index) = x := by
        simp only [Connections.step, hticket]
      rw [hstep]
      exact h
  | some ticket =>
      have hperm := perm_eraseIdx hticket
      obtain ⟨hip, happ, -, -⟩ := limiter.release_spec x.inner ticket.addr ticket.app
      simp only [Connections.step, hticket] at hinv ⊢
      refine ⟨hinv, h.tidy.release ticket.addr ticket.app, ?_, ?_⟩
      · intro addr
        simp only [hip addr, h.ip addr, ofAddr, ← hperm.countP_eq, List.countP_cons,
          decide_eq_true_eq]
        by_cases hlimited : 0 < limiter.perIpLimit
        · simp [hlimited, eq_comm]
        · simp [hlimited]
      · intro app
        simp only [happ app, h.app app, ofApp, ← hperm.countP_eq, List.countP_cons,
          decide_eq_true_eq, Nat.add_sub_cancel]

theorem Tallied.step (h : Tallied instanceLimit limiter x) {event : ConnectionEvent}
    (hkept : ¬ x.Leaks limiter event) :
    Tallied instanceLimit limiter (x.step limiter event) := by
  cases event with
  | tryAcquire addr app => exact h.tryAcquire hkept
  | release index => exact h.release index
  | returnPermit index =>
      have hinv := h.inv.returnPermit index
      simp only [Connections.step] at hinv ⊢
      split
      · next hlt =>
          rw [if_pos hlt] at hinv
          exact ⟨hinv, h.tidy, h.ip, h.app⟩
      · exact h

/-- A leak leaves the counter of its address ahead of the tickets. -/
theorem Exact.not_leaks (h : Exact limiter instanceLimit x) {event : ConnectionEvent}
    (hnext : Exact limiter instanceLimit (x.step limiter event)) : ¬ x.Leaks limiter event := by
  cases event with
  | release index => exact id
  | returnPermit index => exact id
  | tryAcquire addr app =>
      rintro ⟨hpermit, hlimited, hfree, hfull⟩
      obtain ⟨hempty, -⟩ | ⟨-, hipFull, -⟩ | ⟨-, -, -, next, heq, hip, -⟩ | ⟨-, -, happFree, -⟩ :=
        limiter.tryAcquire_cases x.inner addr app
      · omega
      · exact hfree hipFull
      · have hcount := hip addr
        have hafter := hnext.ip hlimited addr
        simp only [Connections.step, heq] at hafter
        rw [if_pos ⟨hlimited, rfl⟩, h.ip hlimited addr, hafter] at hcount
        exact absurd hcount (by simp [ofAddr])
      · exact happFree hfull

/-- For every configuration and every sequence of calls and drops: the calls that fail leave
the limiter as it was exactly if none of them leaks, and every counter is exact at all times
exactly if none of them leaks. -/
theorem failures_leave_no_trace_iff (limiter : InMemoryRateLimit) (instanceLimit : Nat)
    (events : List ConnectionEvent) :
    (Along (step limiter) (Restores limiter) (start instanceLimit) events ↔
      Along (step limiter) (fun x event => ¬ x.Leaks limiter event) (start instanceLimit) events) ∧
    ((∀ before after, events = before ++ after →
        Exact limiter instanceLimit (run (step limiter) (start instanceLimit) before)) ↔
      Along (step limiter) (fun x event => ¬ x.Leaks limiter event) (start instanceLimit)
        events) := by
  refine ⟨Along.congr restores_iff, ?_, ?_⟩
  · intro hexact
    rw [Along.iff_forall_cut]
    rintro before event after rfl
    refine Exact.not_leaks (hexact before (event :: after) rfl) ?_
    have hnext := hexact (before ++ [event]) after (by simp)
    rwa [run_concat] at hnext
  · rintro hkept before after rfl
    have htallied : Tallied instanceLimit limiter
        (run (step limiter) (start instanceLimit) before) :=
      Along.run_invariant (fun _ _ h hevent => h.step hevent) (Along.append_iff.mp hkept).1
        tallied_start
    exact htallied.exact

/-- The address 192.0.2.1 may have one connection, and no app is known. -/
def oneConnection : InMemoryRateLimit := { perIpLimit := 1, perAppLimit := .empty }

def firstAddr : IpAddr := .v4 { octets := (192, 0, 2, 1) }

/-- A connection of an unknown app is rejected and stays counted without a ticket. -/
theorem rejected_app_stays_counted :
    ¬ oneConnection.Restores (InMemoryRateLimit.newInner 2) firstAddr (some (utf8 "unknown")) ∧
    ¬ Exact oneConnection 2
      (run (step oneConnection) (start 2) [.tryAcquire firstAddr (some (utf8 "unknown"))]) := by
  have hentry : (run (step oneConnection) (start 2)
      [.tryAcquire firstAddr (some (utf8 "unknown"))]).inner.activeConnectionsPerIp firstAddr =
        some 1 := by decide
  constructor
  · intro hrestores
    have hsame := hrestores (.limit (utf8 "App limit exceeded")) (by decide)
    exact absurd (congrFun (congrArg Inner.activeConnectionsPerIp hsame) firstAddr) (by decide)
  · intro hexact
    rw [hexact.drained rfl rfl] at hentry
    exact absurd hentry (by simp [InMemoryRateLimit.newInner])

end Connections

end RollupBoost
