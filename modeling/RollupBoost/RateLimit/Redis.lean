import Mathlib.Data.List.AList
import RollupBoost.Machine.Glob
import RollupBoost.Machine.Program
import RollupBoost.RateLimit.Memory

/-!
# The Redis rate limiter

`RedisRateLimit` (`websocket-proxy/src/rate_limit.rs`) keeps one counter for each address and
instance, and one for each app and instance. The connections of an address are the sum of its
counters over all instances, which are found by a `KEYS` pattern. An instance writes a
heartbeat key, and every instance removes the counters of instances without a heartbeat.

A method is a program over the Redis commands it sends, one command at a time. All commands
succeed. The order in which `KEYS` lists keys, and in which a hash set is walked, is unknown and
enters as a parameter. Redis keeps counters as integers, and a negative one is no `usize`.
-/

namespace RollupBoost

open Machine

/-! ## The store -/

inductive Command where
  | keys (pattern : Text)
  | get (key : Text)
  | incr (key : Text)
  | decr (key : Text)
  | del (key : Text)
  | setEx (key : Text) (value : Int) (ttl : Nat)
  deriving DecidableEq

abbrev Answer : Command → Type
  | .keys _ => List Text
  | .get _ => Option Int
  | .incr _ => Int
  | .decr _ => Int
  | .del _ => Unit
  | .setEx _ _ _ => Unit

abbrev RedisProgram := Program Command Answer

abbrev send (command : Command) : RedisProgram (Answer command) := Program.perform command

/-- Some order of the elements of a list. -/
structure Shuffle where
  order : List Text → List Text
  perm : ∀ texts, (order texts).Perm texts

def Shuffle.identity : Shuffle where
  order := id
  perm := List.Perm.refl

theorem Shuffle.mem_order (shuffle : Shuffle) {text : Text} {texts : List Text} :
    text ∈ shuffle.order texts ↔ text ∈ texts :=
  (shuffle.perm texts).mem_iff

abbrev Store := AList fun _ : Text => Int

namespace Store

def value (store : Store) (key : Text) : Int := (store.lookup key).getD 0

/-- The keys that a pattern matches. -/
def matching (store : Store) (pattern : Text) : List Text :=
  store.keys.filter (globMatches pattern)

/-- The order of a listing may depend on its pattern. -/
def answer (listing : Text → Shuffle) (store : Store) : (command : Command) → Answer command
  | .keys pattern => (listing pattern).order (store.matching pattern)
  | .get key => store.lookup key
  | .incr key => store.value key + 1
  | .decr key => store.value key - 1
  | .del _ => ()
  | .setEx _ _ _ => ()

def apply (store : Store) : Command → Store
  | .keys _ => store
  | .get _ => store
  | .incr key => store.insert key (store.value key + 1)
  | .decr key => store.insert key (store.value key - 1)
  | .del key => store.erase key
  | .setEx key value _ => store.insert key value

def service (listing : Text → Shuffle) (store : Store) (command : Command) :
    Answer command × Store :=
  (store.answer listing command, store.apply command)

variable {store : Store} {pattern key other : Text}

theorem mem_matching : key ∈ store.matching pattern ↔
    key ∈ store ∧ globMatches pattern key = true := by
  rw [matching, List.mem_filter, AList.mem_keys]

theorem matching_nodup : (store.matching pattern).Nodup :=
  store.keys_nodup.filter _

theorem value_insert (store : Store) (key other : Text) (count : Int) :
    value (store.insert key count) other = if other = key then count else store.value other := by
  by_cases heq : other = key
  · subst heq
    simp [value]
  · simp [value, heq, AList.lookup_insert_ne heq]

/-- A key that is there can be overwritten. -/
theorem mem_insert_iff (h : key ∈ store) (value : Int) :
    other ∈ AList.insert key value store ↔ other ∈ store := by
  rw [AList.mem_insert]
  constructor
  · rintro (rfl | hother)
    · exact h
    · exact hother
  · exact .inr

theorem mem_of_value_ne_zero (h : store.value key ≠ 0) : key ∈ store := by
  by_contra hmem
  exact h (by simp [value, AList.lookup_eq_none.mpr hmem])

end Store

/-! ## Keys -/

/-- The text of a `v4` UUID. -/
structure Uuid where
  text : Text
  groups : (text.splitOn Glob.hyphen).map List.length = [8, 4, 4, 4, 12]
  bytes : ∀ b ∈ text, b = Glob.hyphen ∨ IsHexDigit b
  deriving DecidableEq

/-- `{}:{}:{}:instance:{}:connections` with the prefix, `ip` or `app`, the address or app, and
the instance. With `*` in some places it is a pattern. -/
def connectionsKey (keyPrefix kind subject instanceId : Text) : Text :=
  keyPrefix ++ utf8 ":" ++ kind ++ utf8 ":" ++ subject ++ utf8 ":instance:" ++ instanceId ++
    utf8 ":connections"

/-- `{}:instance:{}:heartbeat` -/
def heartbeatKey (keyPrefix instanceId : Text) : Text :=
  keyPrefix ++ utf8 ":instance:" ++ instanceId ++ utf8 ":heartbeat"

def ipKind : Text := utf8 "ip"
def appKind : Text := utf8 "app"
def wildcard : Text := [Glob.star]

/-- What the instances of a deployment have in common. -/
structure RedisConfig where
  perIpLimit : Nat
  perAppLimit : Table Text Nat
  keyPrefix : Text

structure RedisRateLimit extends RedisConfig where
  instanceId : Uuid

/-- A count that does not parse as `usize` is taken as zero. -/
def usizeOrZero (reply : Option Int) : Nat := (reply.getD 0).toNat

/-- What a scan would read now. -/
def Store.total (store : Store) (pattern : Text) : Nat :=
  ((store.matching pattern).map fun key => usizeOrZero (store.lookup key)).sum

namespace RedisRateLimit

variable (self : RedisRateLimit)

def ipInstanceKey (addr : IpAddr) : Text :=
  connectionsKey self.keyPrefix ipKind addr.toText self.instanceId.text

def appInstanceKey (app : Text) : Text :=
  connectionsKey self.keyPrefix appKind app self.instanceId.text

def instanceHeartbeatKey : Text := heartbeatKey self.keyPrefix self.instanceId.text

def heartbeatTtl : Nat := 30

/-! ## Acquire and release -/

def sumCounts : List Text → Nat → RedisProgram Nat
  | [], total => pure total
  | key :: keys, total => do
      let count ← send (.get key)
      sumCounts keys (total + usizeOrZero count)

/-- List the counters, add them up, compare with the limit and increment the own counter. -/
def acquireCounter (pattern key : Text) (limit : Nat) (reason : Text) :
    RedisProgram (Except RateLimitError Unit) := do
  let keys ← send (.keys pattern)
  let total ← sumCounts keys 0
  if limit ≤ total then
    return .error (.limit reason)
  let count ← send (.incr key)
  if count < 0 then
    return .error (.limit (utf8 "Redis operation failed"))
  return .ok ()

def acquireIp (addr : IpAddr) : RedisProgram (Except RateLimitError Unit) :=
  if 0 < self.perIpLimit then
    acquireCounter (connectionsKey self.keyPrefix ipKind addr.toText wildcard)
      (self.ipInstanceKey addr) self.perIpLimit
      (utf8 "Per-IP connection limit reached for " ++ addr.toText)
  else pure (.ok ())

def acquireApp : Option Text → RedisProgram (Except RateLimitError Unit)
  | some app =>
      acquireCounter (connectionsKey self.keyPrefix appKind app wildcard)
        (self.appInstanceKey app) ((self.perAppLimit app).getD 0)
        (utf8 "Per-app connection limit reached for " ++ app)
  | none => pure (.ok ())

/-- The Redis commands of `try_acquire`, which it sends once it has a permit. -/
def tryAcquire (addr : IpAddr) (app : Option Text) :
    RedisProgram (Except RateLimitError Ticket) := do
  match ← self.acquireIp addr with
  | .error e => return .error e
  | .ok () =>
    match ← self.acquireApp app with
    | .error e => return .error e
    | .ok () => return .ok { addr := addr, app := app }

def release (addr : IpAddr) (app : Option Text) : RedisProgram Unit := do
  if 0 < self.perIpLimit then
    let _ ← send (.decr (self.ipInstanceKey addr))
  match app with
  | some app =>
      let _ ← send (.decr (self.appInstanceKey app))
  | none => pure ()

/-! ## Heartbeat and cleanup -/

def updateHeartbeat (now : Int) : RedisProgram Unit :=
  send (.setEx self.instanceHeartbeatKey now heartbeatTtl)

def deleteKeys : List Text → RedisProgram Unit
  | [] => pure ()
  | key :: keys => do
      send (.del key)
      deleteKeys keys

def cleanupInstance (instanceId : Text) : RedisProgram Unit := do
  let ipInstanceKeys ← send (.keys (connectionsKey self.keyPrefix ipKind wildcard instanceId))
  let appInstanceKeys ← send (.keys (connectionsKey self.keyPrefix appKind wildcard instanceId))
  deleteKeys ipInstanceKeys
  deleteKeys appInstanceKeys

/-- The loop over the instances that have counters. -/
def cleanupInstances (activeInstanceIds : List Text) : List Text → RedisProgram Unit
  | [] => pure ()
  | instanceId :: rest => do
      if instanceId ≠ self.instanceId.text ∧ instanceId ∉ activeInstanceIds then
        self.cleanupInstance instanceId
      cleanupInstances activeInstanceIds rest

/-- `key.split(':').nth(n)` of each key that has it. -/
def nthParts (n : Nat) (keys : List Text) : List Text :=
  keys.filterMap fun key => (key.splitOn colon)[n]?

/-- The two shuffles are the orders in which the hash sets are walked. -/
def cleanupStaleInstances (ipOrder appOrder : Shuffle) : RedisProgram Unit := do
  let instanceHeartbeats ← send (.keys (heartbeatKey self.keyPrefix wildcard))
  let activeInstanceIds := nthParts 2 instanceHeartbeats
  let ipInstanceKeys ← send (.keys (connectionsKey self.keyPrefix ipKind wildcard wildcard))
  let appInstanceKeys ← send (.keys (connectionsKey self.keyPrefix appKind wildcard wildcard))
  self.cleanupInstances activeInstanceIds (ipOrder.order (nthParts 4 ipInstanceKeys).dedup)
  self.cleanupInstances activeInstanceIds (appOrder.order (nthParts 4 appInstanceKeys).dedup)

end RedisRateLimit

end RollupBoost
