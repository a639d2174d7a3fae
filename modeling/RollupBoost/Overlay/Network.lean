import RollupBoost.Flashblocks.Feeds
import RollupBoost.Overlay.Stream
import RollupBoost.Proxy.Feeds

/-!
# From the rollup-boosts to the overlay

A flashblock goes through three programs: a rollup-boost publishes it, the websocket proxy forwards
it, and the overlay of a node puts it into its cache. Here the programs run together, with any
number of rollup-boosts behind one proxy. All tasks of all programs take their steps in any order,
and both hops may lose their connections and make new ones at any time.

A connection hands over what the task at its other end was able to send, in order, and may break
off anywhere. It is made after the one before it was left. Nothing else is assumed.

What the cache was handed was published by the rollup-boosts: every publication is used at most
once, and those of one rollup-boost are used in the order in which its receiver delivered them.
-/

namespace RollupBoost

open Machine

/-! ## The network -/

variable {Tx Receipt L1BlockInfo RpcReceipt : Type}

/-- What only a connection can give: that it is there, and data. -/
def OverlayEvent.isData : OverlayEvent → Bool
  | .connect true => true
  | .next (.message (.binary _)) => true
  | _ => false

def FlashblocksOverlay.isConnected (self : FlashblocksOverlay Tx RpcReceipt) : Bool :=
  match self.phase with
  | .reading => true
  | .sending _ => true
  | _ => false

/-- Rollup-boosts, a proxy with a subscriber for each of them, and an overlay. A link reads what
the other side has sent over its connections. It is left when the connection ends. -/
structure FlashblocksNetwork (channel pipe capacity : Nat) (Tx RpcReceipt : Type) where
  boosts : List (Flashblocks channel pipe)
  uplinks : List (LogReader Message)
  proxy : WebsocketProxy capacity
  downlink : LogReader (Option Nat × Message)
  overlay : FlashblocksOverlay Tx RpcReceipt

inductive NetworkEvent where
  | boost (index : Nat) (event : FlashblocksEvent)
  /-- A subscriber of the proxy gets the connection that the publisher has accepted. -/
  | uplinkConnects (index subscription now : Nat)
  | uplinkReads (index now : Nat)
  /-- What else happens to a subscriber of the proxy. -/
  | uplink (index : Nat) (event : WebsocketSubscriber.Event)
  | ping
  | client (event : RelayEvent)
  /-- The overlay gets the connection of a client of the proxy. -/
  | downlinkConnects (client : Nat)
  | downlinkReads
  /-- What else happens to the overlay. -/
  | overlay (event : OverlayEvent)

namespace FlashblocksNetwork

variable {channel pipe capacity : Nat} [NeZero pipe] [NeZero capacity]

def start (boosts channel pipe capacity : Nat) :
    FlashblocksNetwork channel pipe capacity Tx RpcReceipt where
  boosts := List.replicate boosts (.new channel pipe)
  uplinks := List.replicate boosts .new
  proxy := .start boosts capacity
  downlink := .new
  overlay := .start

variable (config : FlashblocksWebsocketConfig) (registry : Registry) (wire : WireLibrary)
variable (enableCompression : Bool) (options : SubscriberOptions)
variable (lib : NodeLibrary Tx Receipt L1BlockInfo RpcReceipt)
variable (sub : UInt64 → UInt64 → Outcome String UInt64)

/-- A subscriber of the proxy takes a step, with its link. -/
def upstream (x : FlashblocksNetwork channel pipe capacity Tx RpcReceipt) (index : Nat)
    (f : Flashblocks channel pipe → WebsocketSubscriber → LogReader Message →
      Option (WebsocketSubscriber.Event × LogReader Message)) :
    FlashblocksNetwork channel pipe capacity Tx RpcReceipt :=
  match x.boosts[index]?, x.proxy.subscribers[index]?, x.uplinks[index]? with
  | some boost, some subscriber, some link =>
      match f boost subscriber link with
      | some (event, link) =>
          { x with
            proxy := x.proxy.step registry wire enableCompression options (.upstream index event)
            uplinks := x.uplinks.set index link }
      | none => x
  | _, _, _ => x

def uplinkConnects (subscription now : Nat) (boost : Flashblocks channel pipe)
    (subscriber : WebsocketSubscriber) (link : LogReader Message) :
    Option (WebsocketSubscriber.Event × LogReader Message) :=
  match subscriber.phase with
  | .connecting => (link.attach boost.publisher.feeds subscription).map (.connected now, ·)
  | _ => none

def uplinkReads (now : Nat) (boost : Flashblocks channel pipe) (subscriber : WebsocketSubscriber)
    (link : LogReader Message) : Option (WebsocketSubscriber.Event × LogReader Message) :=
  match subscriber.phase with
  | .connected _ => (link.next boost.publisher.feeds).map fun (message, link) =>
      (.received (.ok message) now, link)
  | _ => none

def uplinkElse (event : WebsocketSubscriber.Event) (boost : Flashblocks channel pipe)
    (subscriber : WebsocketSubscriber) (link : LogReader Message) :
    Option (WebsocketSubscriber.Event × LogReader Message) :=
  if event.isData then none
  else if subscriber.isConnected && !(subscriber.step options event).isConnected then
    some (event, link.detach boost.publisher.log)
  else some (event, link)

def downlinkConnects (x : FlashblocksNetwork channel pipe capacity Tx RpcReceipt) (client : Nat) :
    FlashblocksNetwork channel pipe capacity Tx RpcReceipt :=
  match x.overlay.phase, x.downlink.attach x.proxy.feeds client with
  | .connecting, some link =>
      { x with overlay := x.overlay.step lib sub wire (.connect true), downlink := link }
  | _, _ => x

def downlinkReads (x : FlashblocksNetwork channel pipe capacity Tx RpcReceipt) :
    FlashblocksNetwork channel pipe capacity Tx RpcReceipt :=
  match x.overlay.phase, x.downlink.next x.proxy.feeds with
  | .reading, some ((_, message), link) =>
      { x with
        overlay := x.overlay.step lib sub wire (.next (.message message))
        downlink := link }
  | _, _ => x

def downlinkElse (x : FlashblocksNetwork channel pipe capacity Tx RpcReceipt)
    (event : OverlayEvent) : FlashblocksNetwork channel pipe capacity Tx RpcReceipt :=
  if event.isData then x
  else
    { x with
      overlay := x.overlay.step lib sub wire event
      downlink :=
        if x.overlay.isConnected && !(x.overlay.step lib sub wire event).isConnected then
          x.downlink.detach x.proxy.log
        else x.downlink }

def step (x : FlashblocksNetwork channel pipe capacity Tx RpcReceipt) :
    NetworkEvent → FlashblocksNetwork channel pipe capacity Tx RpcReceipt
  | .boost index event => { x with boosts := x.boosts.modify index (·.step config wire event) }
  | .uplinkConnects index subscription now =>
      x.upstream registry wire enableCompression options index (uplinkConnects subscription now)
  | .uplinkReads index now =>
      x.upstream registry wire enableCompression options index (uplinkReads now)
  | .uplink index event =>
      x.upstream registry wire enableCompression options index (uplinkElse options event)
  | .ping => { x with proxy := x.proxy.step registry wire enableCompression options .ping }
  | .client event =>
      { x with proxy := x.proxy.step registry wire enableCompression options (.client event) }
  | .downlinkConnects client => x.downlinkConnects wire lib sub client
  | .downlinkReads => x.downlinkReads wire lib sub
  | .overlay event => x.downlinkElse wire lib sub event

/-! ## The invariant -/

variable {config registry wire enableCompression options lib sub}

/-- What the subscriber has handled is what the link has read from the rollup-boost. -/
structure Uplink (boost : Flashblocks channel pipe) (subscriber : WebsocketSubscriber)
    (link : LogReader Message) : Prop where
  reads : Reads boost.publisher.log boost.publisher.feeds link
  handled : subscriber.handled.map Message.text = link.read

variable (registry wire enableCompression lib sub) in
structure Inv (x : FlashblocksNetwork channel pipe capacity Tx RpcReceipt) : Prop where
  boost : ∀ (i : Nat) boost, x.boosts[i]? = some boost → boost.Inv wire ∧ boost.Publishes wire
  uplink : ∀ (i : Nat) boost subscriber link, x.boosts[i]? = some boost →
    x.proxy.subscribers[i]? = some subscriber → x.uplinks[i]? = some link →
      Uplink boost subscriber link
  length : x.proxy.subscribers.length = x.boosts.length ∧ x.uplinks.length = x.boosts.length
  relays : x.proxy.Relays
  origins : x.proxy.Origins registry wire enableCompression
  downlink : Reads x.proxy.log x.proxy.feeds x.downlink
  decoded : x.overlay.decoded wire = (x.downlink.read.map (·.2)).filterMap wire.overlayReceives
  overlay : x.overlay.Inv lib sub wire

variable {x : FlashblocksNetwork channel pipe capacity Tx RpcReceipt}

theorem inv_start (boosts : Nat) :
    (start boosts channel pipe capacity : FlashblocksNetwork channel pipe capacity Tx
      RpcReceipt).Inv registry wire enableCompression lib sub where
  boost i boost h := by
    rw [List.eq_of_mem_replicate (List.mem_of_getElem? h)]
    exact ⟨Flashblocks.inv_new, Flashblocks.publishes_new⟩
  uplink i boost subscriber link _ hsubscriber hlink := by
    rw [List.eq_of_mem_replicate (List.mem_of_getElem? hlink),
      List.eq_of_mem_replicate (List.mem_of_getElem? hsubscriber)]
    exact ⟨.new, rfl⟩
  length := by simp [start, WebsocketProxy.start]
  relays := WebsocketProxy.relays_start boosts
  origins := WebsocketProxy.origins_start boosts
  downlink := .new
  decoded := rfl
  overlay := FlashblocksOverlay.inv_start

theorem Inv.boost_step (h : x.Inv registry wire enableCompression lib sub) (index : Nat)
    (event : FlashblocksEvent) :
    ({ x with boosts := x.boosts.modify index (·.step config wire event) } :
      FlashblocksNetwork channel pipe capacity Tx RpcReceipt).Inv registry wire
        enableCompression lib sub where
  boost := by
    apply forall_modify (P := fun _ (boost : Flashblocks channel pipe) =>
      boost.Inv wire ∧ boost.Publishes wire)
    · intro boost hboost
      obtain ⟨hinv, hpublishes⟩ := h.boost index boost hboost
      exact ⟨hinv.step event, hpublishes.step event⟩
    · exact fun i boost _ hboost => h.boost i boost hboost
  uplink := by
    intro i boost subscriber link hboost hsubscriber hlink
    rw [getElem?_modify_map] at hboost
    obtain ⟨before, hbefore, rfl⟩ := Option.map_eq_some_iff.mp hboost
    have huplink := h.uplink i before subscriber link hbefore hsubscriber hlink
    split
    · obtain ⟨hlog, hfeeds⟩ := before.grows config wire event
      exact ⟨huplink.reads.grow (h.boost i before hbefore).1.publisher.feeds hlog hfeeds,
        huplink.handled⟩
    · exact huplink
  length := by
    dsimp only
    rw [List.length_modify]
    exact h.length
  relays := h.relays
  origins := h.origins
  downlink := h.downlink
  decoded := h.decoded
  overlay := h.overlay

/-! ### The first hop -/

omit [NeZero pipe] in
theorem Uplink.connects {boost : Flashblocks channel pipe} {subscriber : WebsocketSubscriber}
    {link link' : LogReader Message} {event : WebsocketSubscriber.Event} {subscription now : Nat}
    (h : Uplink boost subscriber link)
    (hconnects : uplinkConnects subscription now boost subscriber link = some (event, link')) :
    Uplink boost (subscriber.step options event) link' := by
  simp only [uplinkConnects] at hconnects
  split at hconnects
  · next hphase =>
      obtain ⟨link'', hattach, heq⟩ := Option.map_eq_some_iff.mp hconnects
      obtain ⟨rfl, rfl⟩ := Prod.mk.inj heq
      obtain ⟨hreads, hread⟩ := h.reads.attach hattach
      refine ⟨hreads, ?_⟩
      rw [hread, ← h.handled]
      simp [WebsocketSubscriber.step, hphase, WebsocketSubscriber.established]
  · exact absurd hconnects (by simp)

omit [NeZero pipe] in
/-- All messages of a publisher are texts. -/
theorem Uplink.next {boost : Flashblocks channel pipe} {subscriber : WebsocketSubscriber}
    {link link' : LogReader Message} {event : WebsocketSubscriber.Event} {now : Nat}
    (h : Uplink boost subscriber link)
    (hfeeds : Feeds boost.publisher.log boost.publisher.feeds)
    (hreads : uplinkReads now boost subscriber link = some (event, link')) :
    Uplink boost (subscriber.step options event) link' := by
  simp only [uplinkReads] at hreads
  split at hreads
  · next hphase =>
      obtain ⟨⟨message, link''⟩, hnext, heq⟩ := Option.map_eq_some_iff.mp hreads
      obtain ⟨rfl, rfl⟩ := Prod.mk.inj heq
      obtain ⟨hafter, hread⟩ := h.reads.next hnext
      have hmem : message ∈ boost.publisher.log := by
        apply (hafter.sublist hfeeds).subset
        rw [hread]
        exact List.mem_append_right _ (List.mem_singleton_self message)
      obtain ⟨data, -, rfl⟩ := List.mem_map.mp hmem
      refine ⟨hafter, ?_⟩
      rw [hread, subscriber.handled_text hphase, List.map_append, h.handled]
      rfl
  · exact absurd hreads (by simp)

omit [NeZero pipe] in
theorem Uplink.otherwise {boost : Flashblocks channel pipe} {subscriber : WebsocketSubscriber}
    {link link' : LogReader Message} {event event' : WebsocketSubscriber.Event}
    (h : Uplink boost subscriber link)
    (hfeeds : Feeds boost.publisher.log boost.publisher.feeds)
    (helse : uplinkElse options event' boost subscriber link = some (event, link')) :
    Uplink boost (subscriber.step options event) link' := by
  simp only [uplinkElse] at helse
  split at helse
  · exact absurd helse (by simp)
  · next hdata =>
      have hsame := subscriber.handled_of_not_data options (Bool.not_eq_true _ ▸ hdata)
      split at helse
      · obtain ⟨rfl, rfl⟩ := Prod.mk.inj (Option.some.inj helse)
        exact ⟨h.reads.detach hfeeds, (congrArg _ hsame).trans h.handled⟩
      · obtain ⟨rfl, rfl⟩ := Prod.mk.inj (Option.some.inj helse)
        exact ⟨h.reads, (congrArg _ hsame).trans h.handled⟩

/-- What changes the proxy, and leaves its subscribers alone or takes one of them along. -/
theorem Inv.proxy_step (h : x.Inv registry wire enableCompression lib sub)
    (event : WebsocketProxyEvent) {uplinks : List (LogReader Message)}
    (hlength : uplinks.length = x.uplinks.length)
    (huplink : ∀ (i : Nat) boost subscriber link, x.boosts[i]? = some boost →
      (x.proxy.step registry wire enableCompression options event).subscribers[i]? =
        some subscriber → uplinks[i]? = some link → Uplink boost subscriber link)
    (hsubscribers : x.proxy.subscribers.length =
      (x.proxy.step registry wire enableCompression options event).subscribers.length) :
    ({ x with
        proxy := x.proxy.step registry wire enableCompression options event
        uplinks := uplinks } : FlashblocksNetwork channel pipe capacity Tx RpcReceipt).Inv registry
      wire enableCompression lib sub := by
  obtain ⟨hrelays, horigins⟩ := x.proxy.step_invariant registry wire enableCompression options
    event ⟨h.relays, h.origins⟩
  obtain ⟨hlog, hfeeds⟩ := h.relays.grows registry wire enableCompression options event
  exact {
    boost := h.boost
    uplink := huplink
    length := ⟨hsubscribers.symm.trans h.length.1, hlength.trans h.length.2⟩
    relays := hrelays
    origins := horigins
    downlink := h.downlink.grow h.relays.feeds hlog hfeeds
    decoded := h.decoded
    overlay := h.overlay }

theorem Inv.upstream (h : x.Inv registry wire enableCompression lib sub) {index : Nat}
    {f : Flashblocks channel pipe → WebsocketSubscriber → LogReader Message →
      Option (WebsocketSubscriber.Event × LogReader Message)}
    (hf : ∀ boost subscriber link event link', boost.Inv wire → Uplink boost subscriber link →
      f boost subscriber link = some (event, link') →
        Uplink boost (subscriber.step options event) link') :
    (x.upstream registry wire enableCompression options index f).Inv registry wire
      enableCompression lib sub := by
  simp only [FlashblocksNetwork.upstream]
  split
  · next boost subscriber link hboost hsubscriber hlink =>
      split
      · next event link' heq =>
          have hsubscribers : (x.proxy.step registry wire enableCompression options
              (.upstream index event)).subscribers =
                x.proxy.subscribers.modify index (·.step options event) := by
            simp only [WebsocketProxy.step, WebsocketProxy.upstream, hsubscriber]
            exact (WebsocketProxy.foldl_broadcast registry (some index) _ _).2.1
          refine h.proxy_step _ (List.length_set ..) ?_ ?_
          · intro i boost' subscriber' link'' hboost' hsubscriber' hlink'
            rw [hsubscribers, getElem?_modify_map] at hsubscriber'
            obtain ⟨before, hbefore, rfl⟩ := Option.map_eq_some_iff.mp hsubscriber'
            by_cases hindex : index = i
            · subst hindex
              obtain rfl := Option.some.inj (hboost.symm.trans hboost')
              obtain rfl := Option.some.inj (hsubscriber.symm.trans hbefore)
              rw [List.getElem?_set_self (List.getElem?_eq_some_iff.mp hlink).1] at hlink'
              obtain rfl := Option.some.inj hlink'
              rw [if_pos rfl]
              exact hf _ _ _ _ _ (h.boost index boost hboost).1
                (h.uplink index boost subscriber link hboost hsubscriber hlink) heq
            · rw [List.getElem?_set_ne hindex] at hlink'
              rw [if_neg hindex]
              exact h.uplink i boost' before link'' hboost' hbefore hlink'
          · rw [hsubscribers, List.length_modify]
      · exact h
  · exact h

/-! ### The second hop -/

variable (wire lib sub) in
theorem decoded_of_not_data (overlay : FlashblocksOverlay Tx RpcReceipt) {event : OverlayEvent}
    (h : event.isData = false) :
    (overlay.step lib sub wire event).decoded wire = overlay.decoded wire := by
  cases event with
  | connect established =>
      simp only [FlashblocksOverlay.step, FlashblocksOverlay.connect]
      split
      · split <;> rfl
      · rfl
  | next incoming =>
      simp only [FlashblocksOverlay.step, FlashblocksOverlay.next]
      split
      · cases incoming with
        | error => rfl
        | finished => rfl
        | message message =>
            cases message with
            | binary bytes => exact absurd h (by simp [OverlayEvent.isData])
            | _ =>
                simp [FlashblocksOverlay.handle, FlashblocksOverlay.decoded,
                  WireLibrary.overlayReceives]
      · rfl
  | sendEnds =>
      simp only [FlashblocksOverlay.step, FlashblocksOverlay.sendEnds]
      split
      · split <;> rfl
      · rfl
  | wake =>
      simp only [FlashblocksOverlay.step, FlashblocksOverlay.wake]
      split <;> rfl
  | recv =>
      simp only [FlashblocksOverlay.step, FlashblocksOverlay.recv]
      split
      · split <;> rfl
      · rfl

theorem decoded_next {overlay : FlashblocksOverlay Tx RpcReceipt}
    (hphase : overlay.phase = .reading) (message : Message) :
    (overlay.step lib sub wire (.next (.message message))).decoded wire =
      overlay.decoded wire ++ (wire.overlayReceives message).toList := by
  have hread : ∀ y : FlashblocksOverlay Tx RpcReceipt,
      (y.handle wire message).decoded wire = y.decoded wire := by
    intro y
    obtain ⟨payload, -, heq⟩ | ⟨-, heq | heq⟩ := FlashblocksOverlay.handle_cases wire y message
    · rw [heq]
      rfl
    · rw [heq]
    · rw [heq]
      rfl
  simp only [FlashblocksOverlay.step, FlashblocksOverlay.next, hphase, hread]
  rw [FlashblocksOverlay.decoded, List.filterMap_append, FlashblocksOverlay.decoded]
  cases hreceives : wire.overlayReceives message <;> simp [hreceives]

theorem Inv.downlinkConnects (h : x.Inv registry wire enableCompression lib sub) (client : Nat) :
    (x.downlinkConnects wire lib sub client).Inv registry wire enableCompression lib sub := by
  simp only [FlashblocksNetwork.downlinkConnects]
  split
  · next link hphase hattach =>
      obtain ⟨hreads, hread⟩ := h.downlink.attach hattach
      refine ⟨h.boost, h.uplink, h.length, h.relays, h.origins, hreads, ?_,
        h.overlay.step (.connect true)⟩
      dsimp only
      rw [hread, ← h.decoded]
      simp [FlashblocksOverlay.step, FlashblocksOverlay.connect, hphase,
        FlashblocksOverlay.decoded]
  · exact h

theorem Inv.downlinkReads (h : x.Inv registry wire enableCompression lib sub) :
    (x.downlinkReads wire lib sub).Inv registry wire enableCompression lib sub := by
  simp only [FlashblocksNetwork.downlinkReads]
  split
  · next source message link hphase hnext =>
      obtain ⟨hreads, hread⟩ := h.downlink.next hnext
      refine ⟨h.boost, h.uplink, h.length, h.relays, h.origins, hreads, ?_,
        h.overlay.step (.next (.message message))⟩
      dsimp only
      rw [decoded_next hphase, hread, List.map_append, List.filterMap_append, ← h.decoded]
      cases hreceives : wire.overlayReceives message <;> simp [hreceives]
  · exact h

theorem Inv.downlinkElse (h : x.Inv registry wire enableCompression lib sub)
    (event : OverlayEvent) :
    (x.downlinkElse wire lib sub event).Inv registry wire enableCompression lib sub := by
  simp only [FlashblocksNetwork.downlinkElse]
  split
  · exact h
  · next hdata =>
      have hsame := decoded_of_not_data wire lib sub x.overlay (Bool.not_eq_true _ ▸ hdata)
      refine ⟨h.boost, h.uplink, h.length, h.relays, h.origins, ?_, ?_, h.overlay.step event⟩
      · dsimp only
        split
        · exact h.downlink.detach h.relays.feeds
        · exact h.downlink
      · dsimp only
        rw [hsame, h.decoded]
        split <;> rfl

theorem Inv.step (h : x.Inv registry wire enableCompression lib sub) (event : NetworkEvent) :
    (x.step config registry wire enableCompression options lib sub event).Inv registry wire
      enableCompression lib sub := by
  have hsubscribers : ∀ event : WebsocketProxyEvent,
      (x.proxy.step registry wire enableCompression options event).subscribers =
        x.proxy.subscribers →
      ({ x with proxy := x.proxy.step registry wire enableCompression options event } :
        FlashblocksNetwork channel pipe capacity Tx RpcReceipt).Inv registry wire
          enableCompression lib sub :=
    fun event heq => h.proxy_step event rfl (heq ▸ h.uplink) (by rw [heq])
  cases event with
  | boost index event => exact h.boost_step index event
  | uplinkConnects index subscription now =>
      exact h.upstream fun _ _ _ _ _ _ hlink hconnects => hlink.connects hconnects
  | uplinkReads index now =>
      exact h.upstream fun _ _ _ _ _ hboost hlink hreads =>
        hlink.next hboost.publisher.feeds hreads
  | uplink index event =>
      exact h.upstream fun _ _ _ _ _ hboost hlink helse =>
        hlink.otherwise hboost.publisher.feeds helse
  | ping =>
      apply hsubscribers
      simp only [WebsocketProxy.step]
      split <;> rfl
  | client event =>
      apply hsubscribers
      simp only [WebsocketProxy.step, WebsocketProxy.client]
      split <;> rfl
  | downlinkConnects client => exact h.downlinkConnects client
  | downlinkReads => exact h.downlinkReads
  | overlay event => exact h.downlinkElse event

/-! ### End to end -/

/-- What the proxy has broadcast for a rollup-boost is what this has published. -/
theorem Inv.fromUpstream (h : x.Inv registry wire enableCompression lib sub) {i : Nat}
    {boost : Flashblocks channel pipe} (hboost : x.boosts[i]? = some boost) :
    (x.proxy.fromUpstream i).Sublist (boost.service.wsPub.map fun payload =>
      wire.listener enableCompression (utf8 (wire.toString payload))) := by
  have hlt := (List.getElem?_eq_some_iff.mp hboost).1
  obtain ⟨hsubscribers, huplinks⟩ := h.length
  have hsubscriber := List.getElem?_eq_getElem (hsubscribers ▸ hlt)
  have hlink := List.getElem?_eq_getElem (huplinks ▸ hlt)
  have huplink := h.uplink i boost _ _ hboost hsubscriber hlink
  obtain ⟨hinv, hpublishes⟩ := h.boost i boost hboost
  have hread := (huplink.reads.sublist hinv.publisher.feeds).trans hpublishes
  rw [← huplink.handled] at hread
  have hhandled := (hread.filterMap WireLibrary.handleMessage).map
    (wire.listener enableCompression)
  rw [h.origins.handled i _ hsubscriber]
  simpa [List.filterMap_map, Function.comp_def, WireLibrary.publish, WireLibrary.handleMessage,
    List.filterMap_eq_map'] using hhandled

/-- What the overlay has read from one rollup-boost is what some of its publications look like
behind the proxy. -/
theorem Inv.part (h : x.Inv registry wire enableCompression lib sub) (i : Nat) :
    ∃ part : List FlashblocksPayloadV1,
      ((x.downlink.read.filter (·.1 = some i)).map (·.2) = part.map fun payload =>
        wire.listener enableCompression (utf8 (wire.toString payload))) ∧
      (∀ boost, x.boosts[i]? = some boost → part.Sublist boost.service.wsPub) ∧
      (part ≠ [] → i < x.boosts.length) := by
  have hread : ((x.downlink.read.filter (·.1 = some i)).map (·.2)).Sublist
      (x.proxy.fromUpstream i) :=
    ((h.downlink.sublist h.relays.feeds).filter _).map _
  cases hboost : x.boosts[i]? with
  | some boost =>
      obtain ⟨part, hpart, heq⟩ := List.sublist_map_iff.mp (hread.trans (h.fromUpstream hboost))
      refine ⟨part, heq, fun other hother => Option.some.inj hother ▸ hpart, fun _ => ?_⟩
      exact (List.getElem?_eq_some_iff.mp hboost).1
  | none =>
      -- the proxy has as many subscribers as there are rollup-boosts
      have hnothing : x.proxy.fromUpstream i = [] := by
        refine List.map_eq_nil_iff.mpr (List.filter_eq_nil_iff.mpr ?_)
        rintro ⟨source, message⟩ hmem hsource
        obtain rfl : source = some i := by simpa using hsource
        have hlt := h.origins.upstream i message hmem
        rw [h.length.1] at hlt
        exact absurd hboost (by simp [hlt])
      rw [hnothing, List.sublist_nil] at hread
      exact ⟨[], hread, fun _ hother => absurd hother (by simp), fun hne => absurd rfl hne⟩

/-- The cache of the overlay is the cache that absorbs, one after the other, publications of the
rollup-boosts as they look behind the proxy. Those of one rollup-boost come in the order in which
its receiver has delivered them, each at most once, over all connections that were made and lost
on the way. -/
theorem run_end_to_end (config : FlashblocksWebsocketConfig) (registry : Registry)
    (wire : WireLibrary) (enableCompression : Bool) (options : SubscriberOptions)
    (lib : NodeLibrary Tx Receipt L1BlockInfo RpcReceipt)
    (sub : UInt64 → UInt64 → Outcome String UInt64) (boosts channel pipe capacity : Nat)
    [NeZero pipe] [NeZero capacity] (events : List NetworkEvent) :
    let x := run (step config registry wire enableCompression options lib sub)
      (start boosts channel pipe capacity) events
    x.overlay.cache = run (FlashblocksOverlay.absorb lib sub) .new x.overlay.handed ∧
    ∃ origin : List (Nat × FlashblocksPayloadV1),
      (x.overlay.handed <+:
        origin.filterMap fun entry => wire.deliver (.proxied enableCompression) entry.2) ∧
      (∀ (i : Nat) boost, x.boosts[i]? = some boost →
        ((origin.filter (·.1 = i)).map (·.2)).Sublist boost.service.wsPub ∧
          boost.service.wsPub.Sublist (boost.receiver.delivered.map (·.2)) ∧
            boost.receiver.InOrder wire) ∧
      ∀ entry ∈ origin, entry.1 < x.boosts.length := by
  intro x
  have h : x.Inv registry wire enableCompression lib sub :=
    run_invariant (fun _ event h => h.step event) (inv_start boosts) events
  choose parts hread hpublished hknown using h.part
  obtain ⟨origin, hmerged, hparts⟩ := exists_merged _ x.downlink.read parts hread
  refine ⟨h.overlay.replayed, origin, ?_, fun i boost hboost => ?_, fun entry hentry => ?_⟩
  · have hpings : ∀ message, (none, message) ∈ x.downlink.read →
        wire.overlayReceives message = none := by
      intro message hmem
      have hlog := (h.downlink.sublist h.relays.feeds).subset hmem
      rw [(h.origins.pings message hlog).1]
      rfl
    have hdecoded : x.overlay.decoded wire =
        origin.filterMap fun entry => wire.deliver (.proxied enableCompression) entry.2 :=
      h.decoded.trans (hmerged wire.overlayReceives hpings)
    obtain ⟨sent, hcarries, hsent⟩ := h.overlay.carries
    rw [← hdecoded, hsent, hcarries.fifo, List.append_assoc, List.append_assoc]
    exact List.prefix_append _ _
  · rw [hparts i]
    have hinv := (h.boost i boost hboost).1
    exact ⟨hpublished i boost hboost, hinv.delivered, hinv.receiver.inOrder⟩
  · refine hknown entry.1 fun hempty => ?_
    rw [← hparts entry.1] at hempty
    exact List.filter_eq_nil_iff.mp (List.map_eq_nil_iff.mp hempty) entry hentry (by simp)

/-! ### A flashblock on its way from the builder to the cache -/

def passing (data : Bytes) (payloadId : PayloadId) : List NetworkEvent :=
  [.boost 0 (.publisher (.listen true)), .boost 0 (.publisher (.accept true)),
    .boost 0 (.publisher (.handshakeEnds true)), .boost 0 (.publisher (.begin 0 true)),
    .uplinkConnects 0 0 0, .client (.subscribe 0), .downlinkConnects 0,
    .boost 0 (.receiver (.connect true 0)),
    .boost 0 (.receiver (.read 0 (.message (.text data)) 0)),
    .boost 0 (.receiver (.sendEnds 0)), .boost 0 (.call (.setCurrentPayloadId payloadId)),
    .boost 0 (.call (.act 0)), .boost 0 (.call (.act 0)), .boost 0 .receive, .boost 0 .extend,
    .boost 0 (.publisher (.recv 0)), .boost 0 (.publisher (.sendEnds 0 true)), .uplinkReads 0 0,
    .client (.recv 0), .ping, .client (.sendEnds 0 true), .downlinkReads, .overlay .sendEnds,
    .overlay .recv]

variable (lib sub) in
theorem run_passing {data : Bytes} {payload received : FlashblocksPayloadV1}
    (hreceives : wire.receives (.message (.text data)) = some payload)
    (haccepts : FlashblockBuilder.new.Accepts payload)
    (hdelivers : wire.deliver (.proxied enableCompression) payload = some received) :
    let x := run (step ⟨15000, 60000⟩ ⟨true, 30000⟩ wire enableCompression default lib sub)
      (start 1 1 1 4) (passing data payload.payloadId)
    x.boosts.map (·.service.wsPub) = [[payload]] ∧ x.overlay.handed = [received] := by
  have hready : TracedBuilder.new.builder.Accepts payload := haccepts
  have hdecodes : wire.tryDecodeMessage (if enableCompression = true then
      wire.compress (utf8 (wire.toString payload)) else utf8 (wire.toString payload)) =
        .ok received := WireLibrary.overlayReceives_binary_eq_some.mp hdelivers
  simp [passing, Machine.run, step, start, upstream, uplinkConnects, uplinkReads, downlinkConnects,
    downlinkReads, downlinkElse, LogReader.new, LogReader.attach, LogReader.next,
    Flashblocks.new, Flashblocks.step, Flashblocks.receive, Flashblocks.extend,
    ReceiverEvent.isTask, Locks.Event.isCall, PublisherEvent.isTask, Locks.new, Locks.step,
    Locks.act, FlashblocksReceiver.new, FlashblocksReceiver.step, FlashblocksReceiver.connect,
    FlashblocksReceiver.read, FlashblocksReceiver.sendEnds, FlashblocksReceiver.updateConnection,
    FlashblocksReceiver.recv, Connection.establish, Connection.readNext, Connection.handle,
    Mpsc.new, Mpsc.send, Mpsc.recv, TracedBuilder.extend, WebSocketPublisher.new,
    WebSocketPublisher.step, WebSocketPublisher.accept, WebSocketPublisher.handshakeEnds,
    WebSocketPublisher.begin, WebSocketPublisher.publish, WebSocketPublisher.hasReceiver,
    WebSocketPublisher.recv, WebSocketPublisher.sendEnds, WebSocketPublisher.updateSubscription,
    WebSocketPublisher.feeds, Subscription.new, Broadcast.new, Broadcast.send, Broadcast.recv,
    WebsocketProxy.start, WebsocketProxy.step, WebsocketProxy.upstream, WebsocketProxy.client,
    WebsocketProxy.broadcast, WebsocketProxy.feeds, WebsocketSubscriber.new,
    WebsocketSubscriber.step, WebsocketSubscriber.handles, WebsocketSubscriber.established,
    WebsocketSubscriber.handleMessage, WireLibrary.listener, RelayEvent.isOfClient,
    RelayEvent.isSubscribe, Relay.start, Relay.step, Relay.updateClient, Client.subscribe,
    Client.recv, Client.sendEnds, OverlayEvent.isData, FlashblocksOverlay.isConnected,
    FlashblocksOverlay.start, FlashblocksOverlay.step, FlashblocksOverlay.connect,
    FlashblocksOverlay.next, FlashblocksOverlay.handle, FlashblocksOverlay.sendEnds,
    FlashblocksOverlay.recv, hreceives, hready, hdecodes]

open WireLibrary (zeros)

@[irreducible] def firstFields : String :=
  "\"payload_id\":" ++ zeros 16 ++
    ",\"index\":0,\"base\":\x7b\"parent_beacon_block_root\":" ++ zeros 64 ++
    ",\"parent_hash\":" ++ zeros 64 ++ ",\"fee_recipient\":" ++ zeros 40 ++
    ",\"prev_randao\":" ++ zeros 64 ++
    ",\"block_number\":\"0x1\",\"gas_limit\":\"0x0\",\"timestamp\":\"0x0\"" ++
    ",\"extra_data\":\"0x\",\"base_fee_per_gas\":\"0x0\"\x7d,\"diff\":\x7b\"state_root\":" ++
    zeros 64 ++ ",\"receipts_root\":" ++ zeros 64 ++ ",\"logs_bloom\":" ++ zeros 512 ++
    ",\"gas_used\":\"0x0\",\"block_hash\":" ++ zeros 64 ++
    ",\"transactions\":[],\"withdrawals\":[],\"withdrawals_root\":" ++ zeros 64 ++
    "\x7d,\"metadata\":\x7b\"receipts\":\x7b\x7d,\"new_account_balances\":\x7b\x7d" ++
    ",\"block_number\":1\x7d"

/-- The JSON of the first flashblock of an empty block. -/
def firstJson : String := "\x7b" ++ (firstFields ++ "\x7d")

/-- The codec of this flashblock. Nothing here is compressed. -/
def firstLibrary : WireLibrary where
  toString _ := firstJson
  fromStr text :=
    if text = firstJson then .ok (testMessage 0 0 (some testBase) []) else .error "expected value"
  compress bytes := bytes
  decompress bytes := .ok bytes

/-- The flashblock becomes the block of the overlay. -/
theorem run_end_to_end_passing :
    let x := run (step ⟨15000, 60000⟩ ⟨true, 30000⟩ firstLibrary false default testLibrary
      wrappingSub) (start 1 1 1 4) (passing (utf8 firstJson) 0)
    x.boosts.map (·.service.wsPub) = [[testMessage 0 0 (some testBase) []]] ∧
    x.overlay.handed = [testMessage 0 0 (some testBase) []] ∧
    x.overlay.cache.inner.block.map (·.header.number) = some 1 ∧
    ∃ origin : List (Nat × FlashblocksPayloadV1),
      (x.overlay.handed <+:
        origin.filterMap fun entry => firstLibrary.deliver (.proxied false) entry.2) ∧
      (∀ (i : Nat) boost, x.boosts[i]? = some boost →
        ((origin.filter (·.1 = i)).map (·.2)).Sublist boost.service.wsPub ∧
          boost.service.wsPub.Sublist (boost.receiver.delivered.map (·.2)) ∧
            boost.receiver.InOrder firstLibrary) ∧
      ∀ entry ∈ origin, entry.1 < x.boosts.length := by
  intro x
  have hjson : firstLibrary.fromStr firstJson = .ok (testMessage 0 0 (some testBase) []) :=
    if_pos rfl
  have hobject : firstJson.toList.head? = some '{' := by
    rw [firstJson, String.toList_append]
    rfl
  obtain ⟨hpublished, hhanded⟩ := run_passing testLibrary wrappingSub
    (firstLibrary.receives_utf8 hjson) (by decide) (WireLibrary.deliver_uncompressed hjson hobject)
  obtain ⟨hcache, horigin⟩ := run_end_to_end ⟨15000, 60000⟩ ⟨true, 30000⟩ firstLibrary false default
    testLibrary wrappingSub 1 1 1 4 (passing (utf8 firstJson) 0)
  have hblock : ∀ handed, handed = [testMessage 0 0 (some testBase) []] →
      (run (FlashblocksOverlay.absorb testLibrary wrappingSub) .new handed).inner.block.map
        (·.header.number) = some 1 := by
    rintro handed rfl
    decide +kernel
  exact ⟨hpublished, hhanded, hcache ▸ hblock _ hhanded, horigin⟩

end FlashblocksNetwork

end RollupBoost
