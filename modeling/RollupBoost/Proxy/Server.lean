import RollupBoost.Machine.Tasks
import RollupBoost.Proxy.Auth
import RollupBoost.Proxy.ClientAddr
import RollupBoost.Proxy.Registry
import RollupBoost.RateLimit.Memory

/-!
# The server of the websocket proxy

A request for a websocket (`websocket-proxy/src/server.rs`) needs a key, if there are keys, and a
ticket of the rate limiter. With the ticket the connection is upgraded and subscribes to the
registry. The ticket lives as long as the subscription: it is dropped when the upgrade fails or
when the task of the client has ended.

So the live tickets are the upgrades in progress and the subscriptions, and the limits of the
limiter are limits on the clients that are sent messages. A key gets no more connections than it
was configured with, whatever keys the requests present.

The limiter is the one in memory, the choice of `main` without a `redis_url`. Requests, upgrades
and the tasks of the clients interleave at will. A connection keeps the request that it was made
with.
-/

namespace RollupBoost

open Machine

namespace Authentication

def getApplicationForKey (self : Authentication) (apiKey : Text) : Option Text :=
  self.keyToApplication apiKey

def getRateLimits (self : Authentication) : Table Text Nat :=
  fun app => (self.appToRateLimit app).map UInt64.toNat

end Authentication

/-- The arguments of the process that the server depends on, if there is no `redis_url`. -/
structure ProxyArgs where
  apiKeys : List Text
  instanceConnectionLimit : Nat
  perIpConnectionLimit : Nat
  clientPingEnabled : Bool
  clientPongTimeoutMs : Nat

/-- What `main` sets the server up with. -/
structure Server where
  authentication : Option Authentication
  perIpConnectionLimit : Nat
  registry : Registry

namespace Server

def appRateLimits (self : Server) : Table Text Nat :=
  match self.authentication with
  | some auth => auth.getRateLimits
  | none => .empty

def rateLimiter (self : Server) : InMemoryRateLimit where
  perIpLimit := self.perIpConnectionLimit
  perAppLimit := self.appRateLimits

end Server

namespace ProxyArgs

/-- The process ends with an error of the keys. -/
def authentication (args : ProxyArgs) : Outcome AuthenticationParseError (Option Authentication) :=
  let apiKeys := args.apiKeys.filter fun arg => !arg.isEmpty
  if apiKeys.isEmpty then .ok none
  else do
    let auth ← Authentication.tryFrom apiKeys
    .ok (some auth)

def server (args : ProxyArgs) : Outcome AuthenticationParseError Server := do
  let authentication ← args.authentication
  .ok
    { authentication := authentication
      perIpConnectionLimit := args.perIpConnectionLimit
      registry :=
        { pingEnabled := args.clientPingEnabled, pongTimeoutMs := args.clientPongTimeoutMs } }

end ProxyArgs

inductive Route where
  | healthz
  | ws
  | wsWithKey (apiKey : Text)
  deriving DecidableEq

structure WebSocketRequest where
  route : Route
  connectAddr : IpAddr
  /-- The header that holds the address of the client. -/
  header : Option HeaderValue

def WebSocketRequest.clientAddr (self : WebSocketRequest) : IpAddr :=
  RollupBoost.clientAddr self.header self.connectAddr

inductive WebSocketResponse where
  | ok
  | notFound
  | unauthorized
  | tooManyRequests (reason : Text)
  | switchingProtocols

/-- A connection that was let in: the request for it, and its ticket. -/
structure Admission where
  request : WebSocketRequest
  ticket : Ticket

/-- The proxy between two steps. A subscription has the number of its client in the relay. -/
structure Proxy (capacity : Nat) where
  limiter : Connections
  upgrading : List Admission
  subscribed : List (Nat × Admission)
  relay : Relay capacity

inductive ProxyEvent where
  | request (request : WebSocketRequest)
  | upgrade (index : Nat) (upgraded : Bool) (now : Nat)
  | relay (event : RelayEvent)
  /-- `subscribe` returns. -/
  | unsubscribe (index : Nat)
  | returnPermit (index : Nat)

namespace Proxy

variable {capacity : Nat}

def start (instanceConnectionLimit capacity : Nat) : Proxy capacity where
  limiter := .start instanceConnectionLimit
  upgrading := []
  subscribed := []
  relay := .start capacity

def websocketHandler (server : Server) (x : Proxy capacity) (request : WebSocketRequest)
    (app : Option Text) : Proxy capacity × WebSocketResponse :=
  let addr := request.clientAddr
  let limiter := x.limiter.step server.rateLimiter (.tryAcquire addr app)
  match (server.rateLimiter.tryAcquire x.limiter.inner addr app).2 with
  | .ok ticket =>
      let admission := { request := request, ticket := ticket }
      ({ x with limiter := limiter, upgrading := x.upgrading ++ [admission] },
        .switchingProtocols)
  | .error (.limit reason) => ({ x with limiter := limiter }, .tooManyRequests reason)

def authenticatedWebsocketHandler (server : Server) (auth : Authentication) (x : Proxy capacity)
    (request : WebSocketRequest) (apiKey : Text) : Proxy capacity × WebSocketResponse :=
  match auth.getApplicationForKey apiKey with
  | none => (x, .unauthorized)
  | some app => x.websocketHandler server request (some app)

/-- The routes of `listen`. With keys there is no route without one. -/
def handle (server : Server) (x : Proxy capacity) (request : WebSocketRequest) :
    Proxy capacity × WebSocketResponse :=
  match request.route, server.authentication with
  | .healthz, _ => (x, .ok)
  | .wsWithKey apiKey, some auth => x.authenticatedWebsocketHandler server auth request apiKey
  | .ws, none => x.websocketHandler server request none
  | _, _ => (x, .notFound)

/-- Equal tickets stand for the same counters. -/
def dropTicket (server : Server) (x : Proxy capacity) (ticket : Ticket) : Proxy capacity :=
  { x with
    limiter := x.limiter.step server.rateLimiter (.release (x.limiter.live.idxOf ticket)) }

def unsubscribe (server : Server) (x : Proxy capacity) (index : Nat) : Proxy capacity :=
  match x.subscribed[index]? with
  | some (client, admission) =>
      match x.relay.clients[client]? with
      | some { phase := .finished, .. } =>
          ({ x with subscribed := x.subscribed.eraseIdx index } : Proxy capacity).dropTicket
            server admission.ticket
      | _ => x
  | none => x

variable [NeZero capacity]

def upgrade (server : Server) (x : Proxy capacity) (index : Nat) (upgraded : Bool) (now : Nat) :
    Proxy capacity :=
  match x.upgrading[index]? with
  | some admission =>
      let x := { x with upgrading := x.upgrading.eraseIdx index }
      if upgraded then
        { x with
          subscribed := x.subscribed ++ [(x.relay.clients.length, admission)]
          relay := x.relay.step server.registry (.subscribe now) }
      else x.dropTicket server admission.ticket
  | none => x

def step (server : Server) (x : Proxy capacity) : ProxyEvent → Proxy capacity
  | .request request => (x.handle server request).1
  | .upgrade index upgraded now => x.upgrade server index upgraded now
  | .relay event =>
      if event.isSubscribe then x else { x with relay := x.relay.step server.registry event }
  | .unsubscribe index => x.unsubscribe server index
  | .returnPermit index =>
      { x with limiter := x.limiter.step server.rateLimiter (.returnPermit index) }

end Proxy

/-! ## Clients that have ended -/

namespace Client

def running (self : Client) : Bool :=
  match self.phase with
  | .finished => false
  | _ => true

variable {capacity : Nat} [NeZero capacity] {self : Client}

@[simp] theorem running_leave : self.leave.running = false := rfl

theorem running_readerStep (step : Reader → Reader × Bool) :
    (self.readerStep step).running = self.running := by
  simp only [readerStep]
  split <;> rfl

theorem running_recv {channel : Broadcast Message capacity}
    (h : (self.recv channel).running = true) : self.running = true := by
  simp only [recv] at h
  split at h
  · next hselecting => simp [running, hselecting]
  · exact h

theorem running_sendEnds {delivered : Bool} (h : (self.sendEnds delivered).running = true) :
    self.running = true := by
  simp only [sendEnds] at h
  split at h
  · next message hsending => simp [running, hsending]
  · exact h

theorem running_observeDisconnect (h : self.observeDisconnect.running = true) :
    self.running = true := by
  simp only [observeDisconnect] at h
  split at h
  · next hselecting => simp [running, hselecting]
  · exact h

end Client

namespace Relay

variable {capacity : Nat} [NeZero capacity] {x : Relay capacity}

/-- A client that has ended does not come back. -/
theorem running_of_step (registry : Registry) {event : RelayEvent}
    (hevent : event.isSubscribe = false) (i : Nat) (client : Client)
    (hclient : (x.step registry event).clients[i]? = some client)
    (hrunning : client.running = true) :
    ∃ before, x.clients[i]? = some before ∧ before.running = true := by
  have hupdate : ∀ (index : Nat) (f : Client → Client),
      (∀ c : Client, (f c).running = true → c.running = true) →
      (x.updateClient index f).clients[i]? = some client →
      ∃ before, x.clients[i]? = some before ∧ before.running = true := by
    intro index f hf hget
    rw [updateClient, getElem?_modify_map] at hget
    obtain ⟨before, hbefore, rfl⟩ := Option.map_eq_some_iff.mp hget
    refine ⟨before, hbefore, ?_⟩
    split at hrunning
    · exact hf before hrunning
    · exact hrunning
  cases event with
  | broadcast message => exact ⟨client, hclient, hrunning⟩
  | closeChannel => exact ⟨client, hclient, hrunning⟩
  | subscribe now => exact absurd hevent (by simp [RelayEvent.isSubscribe])
  | recv index => exact hupdate index _ (fun _ => Client.running_recv) hclient
  | sendEnds index delivered => exact hupdate index _ (fun _ => Client.running_sendEnds) hclient
  | observeDisconnect index =>
      exact hupdate index _ (fun _ => Client.running_observeDisconnect) hclient
  | incoming index item now =>
      exact hupdate index _ (fun _ h => Client.running_readerStep _ ▸ h) hclient
  | checkTimeout index now =>
      exact hupdate index _ (fun _ h => Client.running_readerStep _ ▸ h) hclient
  | cancel index => exact hupdate index _ (fun _ h => absurd h (by simp)) hclient

end Relay

/-! ## The invariant -/

/-- The routes to a websocket, and the apps that connections count for. -/
inductive Server.Admits (self : Server) : Route → Option Text → Prop
  | withoutKey (h : self.authentication = none) : self.Admits .ws none
  | withKey {auth : Authentication} {apiKey app : Text} (hauth : self.authentication = some auth)
      (happ : auth.getApplicationForKey apiKey = some app) :
      self.Admits (.wsWithKey apiKey) (some app)

namespace Proxy

variable {capacity : Nat}

def admissions (x : Proxy capacity) : List Admission := x.upgrading ++ x.subscribed.map (·.2)

/-- The live tickets are those of the upgrades and of the subscriptions, and every client that
runs has a subscription. -/
structure Inv (server : Server) (instanceConnectionLimit : Nat) (x : Proxy capacity) : Prop where
  limiter : x.limiter.Inv server.rateLimiter instanceConnectionLimit
  tickets : x.limiter.live.Perm (x.admissions.map (·.ticket))
  clients : ∀ (i : Nat) client, x.relay.clients[i]? = some client → client.running = true →
    i ∈ x.subscribed.map (·.1)
  admitted : ∀ admission ∈ x.admissions, admission.ticket.addr = admission.request.clientAddr ∧
    server.Admits admission.request.route admission.ticket.app

variable {server : Server} {instanceConnectionLimit : Nat} {x : Proxy capacity}

theorem inv_start :
    (start instanceConnectionLimit capacity).Inv server instanceConnectionLimit where
  limiter := Connections.inv_start
  tickets := .nil
  clients := by simp [start, Relay.start]
  admitted := by simp [start, admissions]

/-- A connection that is let in. -/
theorem Inv.admit {limiter : Connections} {admission : Admission}
    (h : x.Inv server instanceConnectionLimit)
    (hlimiter : limiter.Inv server.rateLimiter instanceConnectionLimit)
    (hlive : limiter.live = x.limiter.live ++ [admission.ticket])
    (haddr : admission.ticket.addr = admission.request.clientAddr)
    (hadmits : server.Admits admission.request.route admission.ticket.app) :
    ({ x with limiter := limiter, upgrading := x.upgrading ++ [admission] } :
      Proxy capacity).Inv server instanceConnectionLimit := by
  have hperm : (x.admissions ++ [admission]).Perm
      ((x.upgrading ++ [admission]) ++ x.subscribed.map (·.2)) := by
    rw [admissions, List.append_assoc, List.append_assoc]
    exact List.perm_append_comm.append_left _
  refine ⟨hlimiter, ?_, h.clients, ?_⟩
  · have hmap := hperm.map (·.ticket)
    rw [List.map_append] at hmap
    exact hlive ▸ (h.tickets.append_right _).trans hmap
  · intro other hother
    obtain hmem | hnew := List.mem_append.mp (hperm.mem_iff.mpr hother)
    · exact h.admitted other hmem
    · rw [List.mem_singleton.mp hnew]
      exact ⟨haddr, hadmits⟩

theorem Inv.websocketHandler (h : x.Inv server instanceConnectionLimit)
    (request : WebSocketRequest) {app : Option Text}
    (hadmits : server.Admits request.route app) :
    (x.websocketHandler server request app).1.Inv server instanceConnectionLimit := by
  have hstep := h.limiter.step (.tryAcquire request.clientAddr app)
  simp only [Proxy.websocketHandler]
  obtain ⟨-, heq⟩ | ⟨-, -, heq⟩ | ⟨-, -, -, next, heq, -⟩ | ⟨-, -, -, next, heq, -⟩ :=
    server.rateLimiter.tryAcquire_cases x.limiter.inner request.clientAddr app
  · simp only [Connections.step, heq] at hstep ⊢
    exact ⟨hstep, h.tickets, h.clients, h.admitted⟩
  · simp only [Connections.step, heq] at hstep ⊢
    exact ⟨hstep, h.tickets, h.clients, h.admitted⟩
  · simp only [Connections.step, heq] at hstep ⊢
    exact ⟨hstep, h.tickets, h.clients, h.admitted⟩
  · simp only [Connections.step, heq] at hstep ⊢
    exact h.admit hstep rfl rfl hadmits

theorem Inv.handle (h : x.Inv server instanceConnectionLimit) (request : WebSocketRequest) :
    (x.handle server request).1.Inv server instanceConnectionLimit := by
  simp only [Proxy.handle]
  split
  · exact h
  · next apiKey auth hroute hauth =>
      simp only [authenticatedWebsocketHandler]
      split
      · exact h
      · next app happ => exact h.websocketHandler request (hroute ▸ .withKey hauth happ)
  · next hroute hauth => exact h.websocketHandler request (hroute ▸ .withoutKey hauth)
  · exact h

/-- A connection that has ended. -/
theorem Inv.dropTicket {admission : Admission} {upgrading : List Admission}
    {subscribed : List (Nat × Admission)} (h : x.Inv server instanceConnectionLimit)
    (hperm : x.admissions.Perm (admission :: (upgrading ++ subscribed.map (·.2))))
    (hclients : ∀ (i : Nat) client, x.relay.clients[i]? = some client → client.running = true →
      i ∈ subscribed.map (·.1)) :
    (({ x with upgrading := upgrading, subscribed := subscribed } : Proxy capacity).dropTicket
      server admission.ticket).Inv server instanceConnectionLimit := by
  have htickets := h.tickets.trans (hperm.map (·.ticket))
  rw [List.map_cons] at htickets
  have hmem : admission.ticket ∈ x.limiter.live :=
    htickets.mem_iff.mpr List.mem_cons_self
  have hstep := h.limiter.step (.release (x.limiter.live.idxOf admission.ticket))
  simp only [Proxy.dropTicket]
  refine ⟨hstep, ?_, hclients, ?_⟩
  · simp only [Connections.step, List.getElem?_idxOf hmem, List.eraseIdx_idxOf_eq_erase]
    have herase := htickets.erase admission.ticket
    rwa [List.erase_cons_head] at herase
  · intro other hother
    exact h.admitted other (hperm.mem_iff.mpr (List.mem_cons_of_mem _ hother))

theorem Inv.unsubscribe (h : x.Inv server instanceConnectionLimit) (index : Nat) :
    (x.unsubscribe server index).Inv server instanceConnectionLimit := by
  simp only [Proxy.unsubscribe]
  split
  · next client admission hsubscribed =>
      split
      · next hfinished =>
          obtain ⟨hlt, hget⟩ := List.getElem?_eq_some_iff.mp hsubscribed
          have hperm := (List.getElem_cons_eraseIdx_perm hlt).symm
          rw [hget] at hperm
          refine h.dropTicket ?_ ?_
          · refine ((hperm.map (·.2)).append_left _).trans ?_
            exact List.perm_middle
          · intro i other hother hrunning
            have hmem := (hperm.map (·.1)).mem_iff.mp (h.clients i other hother hrunning)
            obtain rfl | hmem := List.mem_cons.mp hmem
            · -- the client of this subscription has ended
              obtain rfl := Option.some.inj (hfinished.symm.trans hother)
              exact absurd hrunning (by simp [Client.running])
            · exact hmem
      · exact h
  · exact h

variable [NeZero capacity]

theorem Inv.upgrade (h : x.Inv server instanceConnectionLimit) (index : Nat) (upgraded : Bool)
    (now : Nat) : (x.upgrade server index upgraded now).Inv server instanceConnectionLimit := by
  simp only [Proxy.upgrade]
  split
  · next admission hadmission =>
      have hperm := (Connections.perm_eraseIdx hadmission).symm
      split
      · have hmoved : x.admissions.Perm (x.upgrading.eraseIdx index ++
            (x.subscribed ++ [(x.relay.clients.length, admission)]).map (·.2)) := by
          rw [List.map_append, List.map_singleton, ← List.append_assoc]
          refine (hperm.append_right _).trans ?_
          exact (List.perm_append_singleton admission _).symm
        refine ⟨h.limiter, h.tickets.trans (hmoved.map (·.ticket)), ?_, ?_⟩
        · intro i client hclient hrunning
          rw [List.map_append, List.mem_append]
          refine forall_concat (P := fun i (client : Client) => client.running = true →
            i ∈ x.subscribed.map (·.1) ∨ i ∈ [x.relay.clients.length]) ?_ ?_ i client hclient
            hrunning
          · exact fun i client hclient hrunning => .inl (h.clients i client hclient hrunning)
          · exact fun _ => .inr (List.mem_singleton_self _)
        · exact fun other hother => h.admitted other (hmoved.mem_iff.mpr hother)
      · exact h.dropTicket (hperm.append_right _) h.clients
  · exact h

theorem Inv.step (h : x.Inv server instanceConnectionLimit) (event : ProxyEvent) :
    (x.step server event).Inv server instanceConnectionLimit := by
  cases event with
  | request request => exact h.handle request
  | upgrade index upgraded now => exact h.upgrade index upgraded now
  | relay event =>
      simp only [Proxy.step]
      split
      · exact h
      · next hevent =>
          refine ⟨h.limiter, h.tickets, ?_, h.admitted⟩
          intro i client hclient hrunning
          obtain ⟨before, hbefore, hrunning⟩ := Relay.running_of_step server.registry
            (Bool.eq_false_of_not_eq_true hevent) i client hclient hrunning
          exact h.clients i before hbefore hrunning
  | unsubscribe index => exact h.unsubscribe index
  | returnPermit index =>
      have hlive : (x.limiter.step server.rateLimiter (.returnPermit index)).live =
          x.limiter.live := by
        simp only [Connections.step]
        split <;> rfl
      exact ⟨h.limiter.step (.returnPermit index), hlive ▸ h.tickets, h.clients, h.admitted⟩

end Proxy

/-! ## The arguments -/

namespace ProxyArgs

/-- With a key in the route, the app is the one that an argument has with that key; without one
there are no keys at all. -/
inductive Allows (args : ProxyArgs) : Route → Option Text → Prop
  | withoutKey (h : ∀ arg ∈ args.apiKeys, arg = []) : args.Allows .ws none
  | withKey {arg : Text} {key : ApiKey} (harg : arg ∈ args.apiKeys) (hkey : key.IsSpelledBy arg) :
      args.Allows (.wsWithKey key.key) (some key.app)

variable {args : ProxyArgs} {server : Server}

theorem server_eq_ok (h : args.server = .ok server) :
    args.authentication = .ok server.authentication ∧
      server.perIpConnectionLimit = args.perIpConnectionLimit := by
  obtain ⟨authentication, hauth, hok⟩ := Outcome.bind_eq_ok h
  obtain rfl := Outcome.ok.inj hok
  exact ⟨hauth, rfl⟩

/-- Without authentication all arguments are empty; otherwise those that are not empty spell the
keys. -/
theorem authentication_eq_ok {authentication : Option Authentication}
    (h : args.authentication = .ok authentication) :
    (authentication = none ∧ ∀ arg ∈ args.apiKeys, arg = []) ∨
    ∃ auth keys, authentication = some auth ∧ Authentication.Maps auth keys ∧
      List.Forall₂ ApiKey.IsSpelledBy keys.entries
        (args.apiKeys.filter fun arg => !arg.isEmpty) := by
  simp only [ProxyArgs.authentication] at h
  split at h
  · next hempty =>
      refine .inl ⟨(Outcome.ok.inj h).symm, ?_⟩
      intro arg harg
      rw [List.isEmpty_iff, List.filter_eq_nil_iff] at hempty
      simpa using hempty arg harg
  · next hne =>
      rw [List.isEmpty_iff] at hne
      obtain ⟨auth, htry, hok⟩ := Outcome.bind_eq_ok h
      obtain ⟨auth', keys, htry', hspelled, hmaps⟩ | ⟨_, _, -, ⟨-, hpanics⟩ | ⟨e, -, herror⟩⟩ :=
        Authentication.tryFrom_cases hne
      · obtain rfl := Outcome.ok.inj (htry.symm.trans htry')
        exact .inr ⟨auth, keys, (Outcome.ok.inj hok).symm, hmaps, hspelled⟩
      · rw [htry] at hpanics
        exact absurd hpanics (by simp)
      · exact absurd (htry.symm.trans herror) (by simp)

theorem exists_mem_of_forall₂ {α β : Type} {R : α → β → Prop} {as : List α} {bs : List β}
    (h : List.Forall₂ R as bs) {b : β} (hb : b ∈ bs) : ∃ a ∈ as, R a b := by
  induction h with
  | nil => exact absurd hb (by simp)
  | cons hhead _ ih =>
      obtain rfl | hb := List.mem_cons.mp hb
      · exact ⟨_, List.mem_cons_self, hhead⟩
      · obtain ⟨a, ha, hrel⟩ := ih hb
        exact ⟨a, List.mem_cons_of_mem _ ha, hrel⟩

theorem allows_of_admits (h : args.server = .ok server) {route : Route} {app : Option Text}
    (hadmits : server.Admits route app) : args.Allows route app := by
  obtain ⟨hnone, hempty⟩ | ⟨auth, keys, hsome, hmaps, hspelled⟩ :=
    authentication_eq_ok (server_eq_ok h).1
  · cases hadmits with
    | withoutKey _ => exact .withoutKey hempty
    | withKey hauth _ => exact absurd (hnone.symm.trans hauth) (by simp)
  · cases hadmits with
    | withoutKey hauth => exact absurd (hsome.symm.trans hauth) (by simp)
    | withKey hauth happ =>
        obtain rfl := Option.some.inj (hauth.symm.trans hsome)
        obtain ⟨key, hmem, rfl, rfl⟩ := (hmaps.key _ _).mp happ
        obtain ⟨arg, harg, hspells⟩ := exists_mem_of_forall₂ hspelled.flip hmem
        exact .withKey (List.mem_filter.mp harg).1 hspells

theorem ne_nil_of_isSpelledBy {key : ApiKey} {arg : Text} (h : key.IsSpelledBy arg) : arg ≠ [] := by
  obtain ⟨limit, -, rfl⟩ := h
  simp [joinParts]

/-- The server knows the keys of the arguments. -/
theorem exists_authentication (h : args.server = .ok server) {arg : Text}
    (harg : arg ∈ args.apiKeys) {key : ApiKey} (hkey : key.IsSpelledBy arg) :
    ∃ auth, server.authentication = some auth ∧ auth.keyToApplication key.key = some key.app ∧
      auth.appToRateLimit key.app = some key.limit := by
  have hne : arg ≠ [] := ne_nil_of_isSpelledBy hkey
  obtain ⟨-, hempty⟩ | ⟨auth, keys, hsome, hmaps, hspelled⟩ :=
    authentication_eq_ok (server_eq_ok h).1
  · exact absurd (hempty arg harg) hne
  · have hfilter : arg ∈ args.apiKeys.filter fun arg => !arg.isEmpty :=
      List.mem_filter.mpr ⟨harg, by simpa using hne⟩
    obtain ⟨other, hmem, hother⟩ := exists_mem_of_forall₂ hspelled hfilter
    obtain rfl := hkey.unique hother
    exact ⟨auth, hsome, (hmaps.key _ _).mpr ⟨key, hmem, rfl, rfl⟩,
      (hmaps.limit _ _).mpr ⟨key, hmem, rfl, rfl⟩⟩

theorem appLimit_eq (h : args.server = .ok server) {arg : Text} (harg : arg ∈ args.apiKeys)
    {key : ApiKey} (hkey : key.IsSpelledBy arg) :
    server.rateLimiter.appLimit key.app = key.limit.toNat := by
  obtain ⟨auth, hauth, -, hlimit⟩ := exists_authentication h harg hkey
  simp [InMemoryRateLimit.appLimit, Server.rateLimiter, Server.appRateLimits, hauth,
    Authentication.getRateLimits, hlimit]

/-- A key that is presented counts for its app. -/
theorem app_of_admits (h : args.server = .ok server) {arg : Text} (harg : arg ∈ args.apiKeys)
    {key : ApiKey} (hkey : key.IsSpelledBy arg) {app : Option Text}
    (hadmits : server.Admits (.wsWithKey key.key) app) : app = some key.app := by
  obtain ⟨auth, hauth, hkeys, -⟩ := exists_authentication h harg hkey
  cases hadmits with
  | withKey hauth' happ =>
      obtain rfl := Option.some.inj (hauth.symm.trans hauth')
      exact happ.symm.trans hkeys

end ProxyArgs

/-! ## Runs -/

namespace Proxy

variable {capacity : Nat} [NeZero capacity]

def run (server : Server) (instanceConnectionLimit : Nat) (events : List ProxyEvent) :
    Proxy capacity :=
  Machine.run (step server) (start instanceConnectionLimit capacity) events

theorem inv_run (server : Server) (instanceConnectionLimit : Nat) (events : List ProxyEvent) :
    (run server instanceConnectionLimit events : Proxy capacity).Inv server
      instanceConnectionLimit :=
  run_invariant (fun _ event h => h.step event) inv_start events

/-- Every client that runs has a connection. Every connection presented a key of the arguments, if
there are any, counts for the app of this key, and counts against the limits of the instance, of
its address and of its key, from the request to the end of its client. -/
theorem run_clients_within_limits {args : ProxyArgs} {server : Server}
    (hserver : args.server = .ok server) (events : List ProxyEvent) :
    let x : Proxy capacity := run server args.instanceConnectionLimit events
    (∀ (i : Nat) client, x.relay.clients[i]? = some client → client.running = true →
      i ∈ x.subscribed.map (·.1)) ∧
    x.limiter.inner.semaphore + x.admissions.length + x.limiter.released.length =
      args.instanceConnectionLimit ∧
    x.upgrading.length + x.relay.clients.countP (·.running) ≤ args.instanceConnectionLimit ∧
    (0 < args.perIpConnectionLimit → ∀ addr,
      x.admissions.countP (·.request.clientAddr = addr) ≤ args.perIpConnectionLimit) ∧
    (∀ arg ∈ args.apiKeys, ∀ key : ApiKey, key.IsSpelledBy arg →
      x.admissions.countP (·.request.route = .wsWithKey key.key) ≤ key.limit.toNat) ∧
    ∀ admission ∈ x.admissions, args.Allows admission.request.route admission.ticket.app := by
  intro x
  have h : x.Inv server args.instanceConnectionLimit :=
    inv_run server args.instanceConnectionLimit events
  have hpermits : x.limiter.inner.semaphore + x.admissions.length + x.limiter.released.length =
      args.instanceConnectionLimit := by
    rw [← h.limiter.permits, h.tickets.length_eq, List.length_map]
  have hclients : x.relay.clients.countP (·.running) ≤ x.subscribed.length := by
    have hle := countP_le_length Client.running h.clients
    rwa [List.length_map] at hle
  refine ⟨h.clients, hpermits, ?_, ?_, ?_, ?_⟩
  · rw [admissions, List.length_append, List.length_map] at hpermits
    omega
  · intro hlimited addr
    rw [← (ProxyArgs.server_eq_ok hserver).2] at hlimited ⊢
    obtain ⟨hle, hmax⟩ := h.limiter.ip hlimited addr
    rw [Connections.ofAddr, h.tickets.countP_eq, List.countP_map] at hle
    refine le_trans (List.countP_mono_left fun admission hmem heq => ?_) (hle.trans hmax)
    simpa [(h.admitted admission hmem).1] using heq
  · intro arg harg key hkey
    obtain ⟨hle, hmax⟩ := h.limiter.app key.app
    rw [Connections.ofApp, h.tickets.countP_eq, List.countP_map] at hle
    rw [ProxyArgs.appLimit_eq hserver harg hkey] at hmax
    refine le_trans (List.countP_mono_left fun admission hmem heq => ?_) (hle.trans hmax)
    have hadmits := (h.admitted admission hmem).2
    rw [of_decide_eq_true heq] at hadmits
    simp [ProxyArgs.app_of_admits hserver harg hkey hadmits]
  · intro admission hmem
    exact ProxyArgs.allows_of_admits hserver (h.admitted admission hmem).2

/-- One key for one connection. -/
def oneKey : ProxyArgs where
  apiKeys := [utf8 "", utf8 "app1:key1:1"]
  instanceConnectionLimit := 3
  perIpConnectionLimit := 2
  clientPingEnabled := false
  clientPongTimeoutMs := 30000

def keyRequest (apiKey : Text) : WebSocketRequest where
  route := .wsWithKey apiKey
  connectAddr := .v4 { octets := (127, 0, 0, 1) }
  header := none

/-- Neither another key nor the same key again gets a connection. -/
theorem run_clients_within_limits_oneKey : ∃ server, oneKey.server = .ok server ∧
    let x : Proxy 16 := run server oneKey.instanceConnectionLimit
      [.request (keyRequest (utf8 "key1")), .upgrade 0 true 0,
        .request (keyRequest (utf8 "key2")), .request (keyRequest (utf8 "key1"))]
    x.relay.clients.countP (·.running) = 1 ∧
    x.admissions.map (·.request.route) = [.wsWithKey (utf8 "key1")] ∧
    x.admissions.map (·.ticket.app) = [some (utf8 "app1")] ∧
    x.admissions.countP (·.request.route = .wsWithKey (utf8 "key1")) ≤ 1 :=
  ⟨_, rfl, by decide, by decide, by decide,
    (run_clients_within_limits (rfl : oneKey.server = .ok _) _).2.2.2.2.1
      (utf8 "app1:key1:1") (by decide)
      ⟨utf8 "app1", utf8 "key1", 1, by decide, by decide, by decide, by decide⟩
      ⟨utf8 "1", isDecimal_numeral 1, by decide⟩⟩

end Proxy

end RollupBoost
