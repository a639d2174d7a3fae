import Mathlib.Data.List.Perm.Basic
import RollupBoost.Machine.Outcome
import RollupBoost.Machine.Run
import RollupBoost.RateLimit.Address

/-!
# The in-memory rate limiter

`InMemoryRateLimit` (`websocket-proxy/src/rate_limit.rs`) admits a connection through three
limits in turn: the permits of the instance, the connections of the address and the
connections of the app. It counts an address before it looks at the app, so a connection that
the app limit rejects leaves its address counted. Hence a counter is not the number of the
tickets it stands for, but at least that number, and at most the limit.

A ticket that is dropped is released first and gives its permit back afterwards; in between
other connections may come and go.
-/

namespace RollupBoost

open Machine

inductive RateLimitError where
  | limit (reason : Text)
  deriving DecidableEq

/-- A ticket also holds a permit and the limiter that released tickets go back to. -/
structure Ticket where
  addr : IpAddr
  app : Option Text
  deriving DecidableEq

/-! ## Counters -/

section Counters

variable {κ : Type} [DecidableEq κ]

def currentCount (table : Table κ Nat) (key : κ) : Nat := (table key).getD 0

/-- Count one more connection, unless that would exceed the limit. -/
def countUp (table : Table κ Nat) (key : κ) (limit : Nat) (reason : String) :
    Except RateLimitError (Table κ Nat) :=
  if limit < currentCount table key + 1 then .error (.limit (utf8 reason))
  else .ok (table.insert key (currentCount table key + 1))

/-- Count one connection less; a counter that reaches zero is removed. The flag reports the
branch of the unexpected underflow. -/
def countDown (table : Table κ Nat) (key : κ) : Table κ Nat × Bool :=
  match currentCount table key with
  | 0 => (table.remove key, true)
  | 1 => (table.remove key, false)
  | count + 2 => (table.insert key (count + 1), false)

variable {table : Table κ Nat} {key other : κ}

theorem currentCount_insert (table : Table κ Nat) (key other : κ) (count : Nat) :
    currentCount (table.insert key count) other =
      if other = key then count else currentCount table other := by
  by_cases heq : other = key
  · simp [heq, currentCount]
  · simp [heq, currentCount, Table.insert_of_ne _ heq]

theorem currentCount_remove (table : Table κ Nat) (key other : κ) :
    currentCount (table.remove key) other =
      if other = key then 0 else currentCount table other := by
  by_cases heq : other = key
  · simp [heq, currentCount]
  · simp [heq, currentCount, Table.remove_of_ne _ heq]

theorem countUp_cases (table : Table κ Nat) (key : κ) (limit : Nat) (reason : String) :
    (limit ≤ currentCount table key ∧
      countUp table key limit reason = .error (.limit (utf8 reason))) ∨
    (currentCount table key < limit ∧ ∃ counted, countUp table key limit reason = .ok counted ∧
      ∀ other, currentCount counted other =
        currentCount table other + if other = key then 1 else 0) := by
  simp only [countUp]
  by_cases hlimit : limit < currentCount table key + 1
  · exact .inl ⟨by omega, if_pos hlimit⟩
  · refine .inr ⟨by omega, _, if_neg hlimit, ?_⟩
    intro other
    rw [currentCount_insert]
    by_cases heq : other = key
    · simp [heq]
    · simp [heq]

theorem currentCount_countDown (table : Table κ Nat) (key other : κ) :
    currentCount (countDown table key).1 other =
      currentCount table other - if other = key then 1 else 0 := by
  simp only [countDown]
  by_cases heq : other = key
  · rw [heq, if_pos rfl]
    split
    · next hcount => simp [hcount, currentCount_remove]
    · next hcount => simp [hcount, currentCount_remove]
    · next count hcount => simp [hcount, currentCount_insert]
  · rw [if_neg heq, Nat.sub_zero]
    split
    · rw [currentCount_remove, if_neg heq]
    · rw [currentCount_remove, if_neg heq]
    · rw [currentCount_insert, if_neg heq]

theorem countDown_underflows_iff : (countDown table key).2 = true ↔ currentCount table key = 0 := by
  simp only [countDown]
  split
  · next hcount => simp [hcount]
  · next hcount => simp [hcount]
  · next count hcount => simp [hcount]

end Counters

/-! ## The limiter -/

/-- The state behind the lock; the semaphore is the number of its permits. -/
structure Inner where
  activeConnectionsPerIp : Table IpAddr Nat
  activeConnectionsPerApp : Table Text Nat
  semaphore : Nat

structure InMemoryRateLimit where
  perIpLimit : Nat
  perAppLimit : Table Text Nat

namespace InMemoryRateLimit

def newInner (instanceLimit : Nat) : Inner where
  activeConnectionsPerIp := .empty
  activeConnectionsPerApp := .empty
  semaphore := instanceLimit

variable (self : InMemoryRateLimit)

def countIp (inner : Inner) (addr : IpAddr) : Except RateLimitError Inner :=
  if 0 < self.perIpLimit then do
    let counted ← countUp inner.activeConnectionsPerIp addr self.perIpLimit "IP limit exceeded"
    .ok { inner with activeConnectionsPerIp := counted }
  else .ok inner

def countApp (inner : Inner) : Option Text → Except RateLimitError Inner
  | some app => do
      let counted ← countUp inner.activeConnectionsPerApp app ((self.perAppLimit app).getD 0)
        "App limit exceeded"
      .ok { inner with activeConnectionsPerApp := counted }
  | none => .ok inner

def tryAcquire (inner : Inner) (addr : IpAddr) (app : Option Text) :
    Inner × Except RateLimitError Ticket :=
  if inner.semaphore = 0 then (inner, .error (.limit (utf8 "Global limit")))
  else
    let permitted := { inner with semaphore := inner.semaphore - 1 }
    -- an early return drops the permit
    match self.countIp permitted addr with
    | .error e => ({ permitted with semaphore := permitted.semaphore + 1 }, .error e)
    | .ok counted =>
      match self.countApp counted app with
      | .error e => ({ counted with semaphore := counted.semaphore + 1 }, .error e)
      | .ok counted => (counted, .ok { addr := addr, app := app })

/-- The flag reports whether one of the counters would underflow. -/
def release (inner : Inner) (addr : IpAddr) (app : Option Text) : Inner × Bool :=
  let perIp :=
    if 0 < self.perIpLimit then countDown inner.activeConnectionsPerIp addr
    else (inner.activeConnectionsPerIp, false)
  let perApp :=
    match app with
    | some app => countDown inner.activeConnectionsPerApp app
    | none => (inner.activeConnectionsPerApp, false)
  ({ inner with activeConnectionsPerIp := perIp.1, activeConnectionsPerApp := perApp.1 },
    perIp.2 || perApp.2)

/-! ## What a call does -/

def ipCount (inner : Inner) (addr : IpAddr) : Nat := currentCount inner.activeConnectionsPerIp addr

def appCount (inner : Inner) (app : Text) : Nat := currentCount inner.activeConnectionsPerApp app

def appLimit (app : Text) : Nat := (self.perAppLimit app).getD 0

def IpFull (inner : Inner) (addr : IpAddr) : Prop :=
  0 < self.perIpLimit ∧ self.perIpLimit ≤ ipCount inner addr

def AppFull (inner : Inner) (app : Option Text) : Prop :=
  ∃ name, app = some name ∧ self.appLimit name ≤ appCount inner name

/-- One more connection of an address, if addresses are counted at all. -/
def IpCounted (inner next : Inner) (addr : IpAddr) : Prop :=
  ∀ other, ipCount next other =
    ipCount inner other + if 0 < self.perIpLimit ∧ other = addr then 1 else 0

def AppCounted (inner next : Inner) (app : Option Text) : Prop :=
  ∀ other, appCount next other = appCount inner other + if app = some other then 1 else 0

variable {self} {inner : Inner}

theorem ipCount_lt_of_not_ipFull {addr : IpAddr} (h : ¬ self.IpFull inner addr)
    (hlimited : 0 < self.perIpLimit) : ipCount inner addr < self.perIpLimit := by
  by_contra hroom
  exact h ⟨hlimited, not_lt.mp hroom⟩

theorem appCount_lt_of_not_appFull {name : Text} (h : ¬ self.AppFull inner (some name)) :
    appCount inner name < self.appLimit name := by
  by_contra hroom
  exact h ⟨name, rfl, not_lt.mp hroom⟩

theorem countIp_cases (self : InMemoryRateLimit) (inner : Inner) (addr : IpAddr) :
    (self.IpFull inner addr ∧
      self.countIp inner addr = .error (.limit (utf8 "IP limit exceeded"))) ∨
    (¬ self.IpFull inner addr ∧ ∃ next, self.countIp inner addr = .ok next ∧
      self.IpCounted inner next addr ∧
      next.activeConnectionsPerApp = inner.activeConnectionsPerApp ∧
      next.semaphore = inner.semaphore) := by
  simp only [countIp, IpFull]
  by_cases hlimited : 0 < self.perIpLimit
  · rw [if_pos hlimited]
    obtain ⟨hfull, herror⟩ | ⟨hfree, counted, hok, hcount⟩ :=
      countUp_cases inner.activeConnectionsPerIp addr self.perIpLimit "IP limit exceeded"
    · exact .inl ⟨⟨hlimited, hfull⟩, by rw [herror]; rfl⟩
    · refine .inr ⟨fun h => absurd h.2 (Nat.not_le.mpr hfree),
        { inner with activeConnectionsPerIp := counted }, by rw [hok]; rfl, ?_, rfl, rfl⟩
      intro other
      simpa [ipCount, hlimited] using hcount other
  · rw [if_neg hlimited]
    exact .inr ⟨fun h => hlimited h.1, inner, rfl, by simp [IpCounted, hlimited], rfl, rfl⟩

theorem countApp_cases (self : InMemoryRateLimit) (inner : Inner) (app : Option Text) :
    (self.AppFull inner app ∧
      self.countApp inner app = .error (.limit (utf8 "App limit exceeded"))) ∨
    (¬ self.AppFull inner app ∧ ∃ next, self.countApp inner app = .ok next ∧
      AppCounted inner next app ∧ next.activeConnectionsPerIp = inner.activeConnectionsPerIp ∧
      next.semaphore = inner.semaphore) := by
  cases app with
  | none => exact .inr ⟨by simp [AppFull], inner, rfl, by simp [AppCounted], rfl, rfl⟩
  | some app =>
      simp only [countApp]
      obtain ⟨hfull, herror⟩ | ⟨hfree, counted, hok, hcount⟩ :=
        countUp_cases inner.activeConnectionsPerApp app ((self.perAppLimit app).getD 0)
          "App limit exceeded"
      · exact .inl ⟨⟨app, rfl, hfull⟩, by rw [herror]; rfl⟩
      · refine .inr ⟨?_, { inner with activeConnectionsPerApp := counted }, by rw [hok]; rfl, ?_,
          rfl, rfl⟩
        · rintro ⟨name, hname, hfull⟩
          obtain rfl := Option.some.inj hname
          exact absurd hfull (Nat.not_le.mpr hfree)
        · intro other
          simpa [appCount, eq_comm] using hcount other

/-- The four ways in which a call can end. Only the last one keeps a permit; the third one
keeps the address counted. -/
theorem tryAcquire_cases (self : InMemoryRateLimit) (inner : Inner) (addr : IpAddr)
    (app : Option Text) :
    (inner.semaphore = 0 ∧
      self.tryAcquire inner addr app = (inner, .error (.limit (utf8 "Global limit")))) ∨
    (0 < inner.semaphore ∧ self.IpFull inner addr ∧
      self.tryAcquire inner addr app = (inner, .error (.limit (utf8 "IP limit exceeded")))) ∨
    (0 < inner.semaphore ∧ ¬ self.IpFull inner addr ∧ self.AppFull inner app ∧ ∃ next,
      self.tryAcquire inner addr app = (next, .error (.limit (utf8 "App limit exceeded"))) ∧
      self.IpCounted inner next addr ∧ AppCounted inner next none ∧
      next.semaphore = inner.semaphore) ∨
    (0 < inner.semaphore ∧ ¬ self.IpFull inner addr ∧ ¬ self.AppFull inner app ∧ ∃ next,
      self.tryAcquire inner addr app = (next, .ok { addr := addr, app := app }) ∧
      self.IpCounted inner next addr ∧ AppCounted inner next app ∧
      next.semaphore + 1 = inner.semaphore) := by
  by_cases hzero : inner.semaphore = 0
  · exact .inl ⟨hzero, if_pos hzero⟩
  have hpermit : inner.semaphore - 1 + 1 = inner.semaphore := by omega
  refine .inr ?_
  simp only [tryAcquire, if_neg hzero]
  obtain ⟨hfull, herror⟩ | ⟨hfree, counted, hok, hip, hsame, hpermits⟩ :=
    self.countIp_cases { inner with semaphore := inner.semaphore - 1 } addr
  · refine .inl ⟨by omega, hfull, ?_⟩
    simp only [herror, hpermit]
  · refine .inr ?_
    simp only [hok]
    obtain ⟨hfull', herror⟩ | ⟨hfree', counted', hok', happ, hsame', hpermits'⟩ :=
      self.countApp_cases counted app
    · refine .inl ⟨by omega, hfree, ?_, { counted with semaphore := counted.semaphore + 1 }, ?_,
        hip, ?_, ?_⟩
      · simpa [AppFull, appCount, hsame] using hfull'
      · simp only [herror]
      · intro other
        simp [appCount, hsame]
      · show counted.semaphore + 1 = inner.semaphore
        rw [hpermits]
        exact hpermit
    · refine .inr ⟨by omega, hfree, ?_, counted', ?_, ?_, ?_, ?_⟩
      · simpa [AppFull, appCount, hsame] using hfree'
      · simp only [hok']
      · intro other
        rw [ipCount, hsame']
        exact hip other
      · intro other
        rw [happ other]
        simp [appCount, hsame]
      · rw [hpermits', hpermits]
        exact hpermit

theorem release_spec (self : InMemoryRateLimit) (inner : Inner) (addr : IpAddr)
    (app : Option Text) :
    (∀ other, ipCount (self.release inner addr app).1 other =
      ipCount inner other - if 0 < self.perIpLimit ∧ other = addr then 1 else 0) ∧
    (∀ other, appCount (self.release inner addr app).1 other =
      appCount inner other - if app = some other then 1 else 0) ∧
    (self.release inner addr app).1.semaphore = inner.semaphore ∧
    ((self.release inner addr app).2 = true ↔
      0 < self.perIpLimit ∧ ipCount inner addr = 0 ∨
        ∃ name, app = some name ∧ appCount inner name = 0) := by
  refine ⟨?_, ?_, rfl, ?_⟩
  · intro other
    by_cases hlimited : 0 < self.perIpLimit
    · simp [release, ipCount, hlimited, currentCount_countDown]
    · simp [release, ipCount, hlimited]
  · intro other
    cases app with
    | none => simp [release, appCount]
    | some app => simp [release, appCount, currentCount_countDown, eq_comm]
  · by_cases hlimited : 0 < self.perIpLimit <;> cases app <;>
      simp [release, hlimited, countDown_underflows_iff, ipCount, appCount]

end InMemoryRateLimit

/-! ## Connections that come and go -/

inductive ConnectionEvent where
  | tryAcquire (addr : IpAddr) (app : Option Text)
  | release (index : Nat)
  | returnPermit (index : Nat)
  deriving DecidableEq

/-- The limiter with the tickets that are in use, and those that are released and still hold
their permit. -/
structure Connections where
  inner : Inner
  live : List Ticket
  released : List Ticket

namespace Connections

def start (instanceLimit : Nat) : Connections where
  inner := InMemoryRateLimit.newInner instanceLimit
  live := []
  released := []

variable (limiter : InMemoryRateLimit)

def step (x : Connections) : ConnectionEvent → Connections
  | .tryAcquire addr app =>
      match limiter.tryAcquire x.inner addr app with
      | (inner, .ok ticket) => { x with inner := inner, live := x.live ++ [ticket] }
      | (inner, .error _) => { x with inner := inner }
  | .release index =>
      match x.live[index]? with
      | some ticket =>
          { inner := (limiter.release x.inner ticket.addr ticket.app).1
            live := x.live.eraseIdx index
            released := x.released ++ [ticket] }
      | none => x
  | .returnPermit index =>
      if index < x.released.length then
        { x with
          inner := { x.inner with semaphore := x.inner.semaphore + 1 }
          released := x.released.eraseIdx index }
      else x

/-- The event is a release that finds one of its counters at zero. -/
def Underflows (x : Connections) : ConnectionEvent → Prop
  | .release index => ∃ ticket, x.live[index]? = some ticket ∧
      (limiter.release x.inner ticket.addr ticket.app).2 = true
  | _ => False

def ofAddr (x : Connections) (addr : IpAddr) : Nat := x.live.countP (·.addr = addr)

def ofApp (x : Connections) (app : Text) : Nat := x.live.countP (·.app = some app)

/-- Each counter lies between the tickets it stands for and the limit, and each permit is
available or belongs to a ticket. -/
structure Inv (instanceLimit : Nat) (x : Connections) : Prop where
  permits : x.inner.semaphore + x.live.length + x.released.length = instanceLimit
  ip : 0 < limiter.perIpLimit → ∀ addr,
    x.ofAddr addr ≤ InMemoryRateLimit.ipCount x.inner addr ∧
      InMemoryRateLimit.ipCount x.inner addr ≤ limiter.perIpLimit
  app : ∀ app, x.ofApp app ≤ InMemoryRateLimit.appCount x.inner app ∧
    InMemoryRateLimit.appCount x.inner app ≤ limiter.appLimit app

variable {limiter} {instanceLimit : Nat} {x : Connections}

theorem inv_start : Inv limiter instanceLimit (start instanceLimit) where
  permits := rfl
  ip := by
    intro _ addr
    exact ⟨Nat.le_refl 0, Nat.zero_le _⟩
  app := by
    intro app
    exact ⟨Nat.le_refl 0, Nat.zero_le _⟩

theorem Inv.tryAcquire (h : Inv limiter instanceLimit x) (addr : IpAddr) (app : Option Text) :
    Inv limiter instanceLimit (x.step limiter (.tryAcquire addr app)) := by
  obtain ⟨-, heq⟩ | ⟨-, -, heq⟩ | ⟨-, hfree, -, next, heq, hip, happ, hpermits⟩ |
      ⟨-, hfree, hfree', next, heq, hip, happ, hpermits⟩ :=
    limiter.tryAcquire_cases x.inner addr app
  · simp only [step, heq]
    exact h
  · simp only [step, heq]
    exact h
  · simp only [step, heq]
    refine ⟨?_, ?_, ?_⟩
    · rw [← h.permits, ← hpermits]
    · intro hlimited other
      obtain ⟨hlower, hupper⟩ := h.ip hlimited other
      have hcount := hip other
      simp only [ofAddr] at hlower ⊢
      split at hcount
      · next hother =>
          have hroom := InMemoryRateLimit.ipCount_lt_of_not_ipFull hfree hlimited
          rw [hother.2] at hcount hlower hupper ⊢
          omega
      · omega
    · intro other
      have hcount : InMemoryRateLimit.appCount next other =
          InMemoryRateLimit.appCount x.inner other := by
        simpa using happ other
      rw [hcount]
      exact h.app other
  · simp only [step, heq]
    refine ⟨?_, ?_, ?_⟩
    · have hsum := h.permits
      simp only [List.length_append, List.length_singleton]
      omega
    · intro hlimited other
      obtain ⟨hlower, hupper⟩ := h.ip hlimited other
      have hcount := hip other
      simp only [ofAddr, List.countP_append, List.countP_singleton, decide_eq_true_eq] at hlower ⊢
      by_cases hother : other = addr
      · have hroom := InMemoryRateLimit.ipCount_lt_of_not_ipFull hfree hlimited
        rw [if_pos ⟨hlimited, hother⟩] at hcount
        rw [hother] at hcount hlower hupper ⊢
        rw [if_pos rfl]
        omega
      · rw [if_neg fun hboth => hother hboth.2] at hcount
        rw [if_neg fun hsame => hother hsame.symm]
        omega
    · intro other
      obtain ⟨hlower, hupper⟩ := h.app other
      have hcount := happ other
      simp only [ofApp, List.countP_append, List.countP_singleton, decide_eq_true_eq] at hlower ⊢
      by_cases hother : app = some other
      · rw [hother] at hfree'
        have hroom := InMemoryRateLimit.appCount_lt_of_not_appFull hfree'
        rw [if_pos hother] at hcount ⊢
        omega
      · rw [if_neg hother] at hcount ⊢
        omega

/-- A ticket and the tickets that stay when it is released. -/
theorem perm_eraseIdx {α : Type} {xs : List α} {index : Nat} {x : α} (h : xs[index]? = some x) :
    (x :: xs.eraseIdx index).Perm xs := by
  obtain ⟨hlt, rfl⟩ := List.getElem?_eq_some_iff.mp h
  exact List.getElem_cons_eraseIdx_perm hlt

/-- A ticket is counted under its address and its app. -/
theorem Inv.counted (h : Inv limiter instanceLimit x) {ticket : Ticket} (hmem : ticket ∈ x.live) :
    (0 < limiter.perIpLimit → 0 < InMemoryRateLimit.ipCount x.inner ticket.addr) ∧
      ∀ name, ticket.app = some name → 0 < InMemoryRateLimit.appCount x.inner name := by
  constructor
  · intro hlimited
    have hpos : 0 < x.ofAddr ticket.addr := List.countP_pos_iff.mpr ⟨ticket, hmem, by simp⟩
    have hlower := (h.ip hlimited ticket.addr).1
    omega
  · intro name hname
    have hpos : 0 < x.ofApp name := List.countP_pos_iff.mpr ⟨ticket, hmem, by simp [hname]⟩
    have hlower := (h.app name).1
    omega

theorem Inv.release (h : Inv limiter instanceLimit x) (index : Nat) :
    Inv limiter instanceLimit (x.step limiter (.release index)) ∧
      ¬ x.Underflows limiter (.release index) := by
  cases hticket : x.live[index]? with
  | none =>
      simp only [step, Underflows, hticket]
      exact ⟨h, by simp⟩
  | some ticket =>
      have hperm := perm_eraseIdx hticket
      obtain ⟨hip, happ, hpermits, hunderflows⟩ :=
        limiter.release_spec x.inner ticket.addr ticket.app
      simp only [step, Underflows, hticket]
      refine ⟨⟨?_, ?_, ?_⟩, ?_⟩
      · have hsum := h.permits
        have hlength := hperm.length_eq
        simp only [List.length_cons] at hlength
        simp only [hpermits, List.length_append, List.length_singleton]
        omega
      · intro hlimited addr
        obtain ⟨hlower, hupper⟩ := h.ip hlimited addr
        have hcount := hip addr
        simp only [ofAddr] at hlower ⊢
        rw [← hperm.countP_eq, List.countP_cons] at hlower
        simp only [decide_eq_true_eq] at hlower
        by_cases haddr : addr = ticket.addr
        · rw [if_pos ⟨hlimited, haddr⟩] at hcount
          rw [if_pos haddr.symm] at hlower
          omega
        · rw [if_neg fun hboth => haddr hboth.2] at hcount
          rw [if_neg fun hsame => haddr hsame.symm] at hlower
          omega
      · intro app
        obtain ⟨hlower, hupper⟩ := h.app app
        have hcount := happ app
        simp only [ofApp] at hlower ⊢
        rw [← hperm.countP_eq, List.countP_cons] at hlower
        simp only [decide_eq_true_eq] at hlower
        by_cases happEq : ticket.app = some app
        · rw [if_pos happEq] at hcount hlower
          omega
        · rw [if_neg happEq] at hcount hlower
          omega
      · -- the ticket itself is counted, so no counter is at zero
        obtain ⟨hipPos, happPos⟩ := h.counted (List.mem_of_getElem? hticket)
        rintro ⟨other, hother, hunderflow⟩
        obtain rfl := Option.some.inj hother
        obtain ⟨hlimited, hzero⟩ | ⟨name, hname, hzero⟩ := hunderflows.mp hunderflow
        · have hpos := hipPos hlimited
          omega
        · have hpos := happPos name hname
          omega

theorem Inv.returnPermit (h : Inv limiter instanceLimit x) (index : Nat) :
    Inv limiter instanceLimit (x.step limiter (.returnPermit index)) := by
  simp only [step]
  split
  · next hlt =>
      refine ⟨?_, h.ip, h.app⟩
      have hsum := h.permits
      simp only [List.length_eraseIdx_of_lt hlt]
      omega
  · exact h

theorem Inv.step (h : Inv limiter instanceLimit x) (event : ConnectionEvent) :
    Inv limiter instanceLimit (x.step limiter event) := by
  cases event with
  | tryAcquire addr app => exact h.tryAcquire addr app
  | release index => exact (h.release index).1
  | returnPermit index => exact h.returnPermit index

theorem Inv.not_underflows (h : Inv limiter instanceLimit x) (event : ConnectionEvent) :
    ¬ x.Underflows limiter event := by
  cases event with
  | tryAcquire addr app => exact id
  | release index => exact (h.release index).2
  | returnPermit index => exact id

/-- For every configuration and every sequence of calls and drops: the permits that are out
are within the instance limit, the tickets of an address and of an app are within theirs, and
no release underflows. -/
theorem limits_respected (limiter : InMemoryRateLimit) (instanceLimit : Nat)
    (events : List ConnectionEvent) :
    let x := run (step limiter) (start instanceLimit) events
    x.live.length + x.released.length ≤ instanceLimit ∧
      (0 < limiter.perIpLimit → ∀ addr, x.ofAddr addr ≤ limiter.perIpLimit) ∧
      (∀ app, x.ofApp app ≤ (limiter.perAppLimit app).getD 0) ∧
      Along (step limiter) (fun y event => ¬ y.Underflows limiter event) (start instanceLimit)
        events := by
  intro x
  have hinv : ∀ es, Inv limiter instanceLimit (run (step limiter) (start instanceLimit) es) :=
    run_invariant (fun _ event h => h.step event) inv_start
  have hx : Inv limiter instanceLimit x := hinv events
  refine ⟨?_, ?_, ?_, ?_⟩
  · have hsum := hx.permits
    omega
  · intro hlimited addr
    exact Nat.le_trans (hx.ip hlimited addr).1 (hx.ip hlimited addr).2
  · intro app
    exact Nat.le_trans (hx.app app).1 (hx.app app).2
  · rw [Along.iff_forall_cut]
    intro before event after _
    exact (hinv before).not_underflows event

/-- A connection that the app limit rejects keeps its address counted. -/
example :
    let limiter : InMemoryRateLimit := { perIpLimit := 1, perAppLimit := .empty }
    let addr : IpAddr := .v4 { octets := (127, 0, 0, 1) }
    let x := run (step limiter) (start 2) [.tryAcquire addr (some (utf8 "unknown"))]
    x.live = [] ∧ (limiter.tryAcquire x.inner addr none).2 =
      .error (.limit (utf8 "IP limit exceeded")) := by decide

end Connections

end RollupBoost
