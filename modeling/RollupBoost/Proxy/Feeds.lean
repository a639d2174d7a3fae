import RollupBoost.Machine.Feed
import RollupBoost.Proxy.Forwarding

/-!
# The proxy between two hops

The subscribers of the proxy read the feeds of their upstreams. What the proxy has broadcast is a
log itself, and every client is a feed of it, from its subscription on. The proxy only adds to
both.
-/

namespace RollupBoost

open Machine

namespace WebsocketSubscriber

variable {options : SubscriberOptions} {self : WebsocketSubscriber}

/-- What only a connection can give: that it is there, and data. -/
def Event.isData : Event → Bool
  | .connected _ => true
  | .received (.ok (.text _)) _ => true
  | .received (.ok (.binary _)) _ => true
  | _ => false

def isConnected (self : WebsocketSubscriber) : Bool :=
  match self.phase with
  | .connected _ => true
  | _ => false

variable (options) in
theorem handled_of_not_data {event : Event} (h : event.isData = false) :
    (self.step options event).handled = self.handled := by
  simp only [step]
  split
  · rfl
  · simp
  · split <;> simp
  · simp
  · next message now _ =>
      cases message with
      | error e => simp [handleMessage]
      | ok message =>
          cases message with
          | text data => exact absurd h (by simp [Event.isData])
          | binary data => exact absurd h (by simp [Event.isData])
          | _ => simp [handleMessage]
  · simp
  · rfl
  · rfl
  · rfl
  · rfl

theorem handled_text {deadline : Nat} (h : self.phase = .connected deadline) (data : Text)
    (now : Nat) :
    (self.step options (.received (.ok (.text data)) now)).handled = self.handled ++ [data] := by
  simp [step, h, handleMessage]

end WebsocketSubscriber

namespace Relay

variable {capacity : Nat} [NeZero capacity] {x : Relay capacity}

/-- A client is sent more and more. -/
theorem sent_step (registry : Registry) (event : RelayEvent) {i : Nat} {client : Client}
    (h : x.clients[i]? = some client) :
    ∃ client', (x.step registry event).clients[i]? = some client' ∧
      client.sent.length ≤ client'.sent.length := by
  have hupdate : ∀ {f : Client → Client} (index : Nat),
      (∀ client : Client, client.sent.length ≤ (f client).sent.length) →
        ∃ client', (x.updateClient index f).clients[i]? = some client' ∧
          client.sent.length ≤ client'.sent.length := by
    intro f index hf
    rw [updateClient, getElem?_modify_map, h, Option.map_some]
    refine ⟨_, rfl, ?_⟩
    split
    · exact hf client
    · exact Nat.le_refl _
  cases event with
  | broadcast message => exact ⟨client, h, Nat.le_refl _⟩
  | closeChannel => exact ⟨client, h, Nat.le_refl _⟩
  | subscribe now =>
      have hlt := (List.getElem?_eq_some_iff.mp h).1
      exact ⟨client, (List.getElem?_append_left hlt).trans h, Nat.le_refl _⟩
  | recv index =>
      refine hupdate index fun client => ?_
      simp only [Client.recv]
      split
      · split <;> exact Nat.le_refl _
      · exact Nat.le_refl _
  | sendEnds index delivered =>
      refine hupdate index fun client => ?_
      simp only [Client.sendEnds]
      split
      · split
        · simp
        · exact Nat.le_refl _
      · exact Nat.le_refl _
  | observeDisconnect index =>
      refine hupdate index fun client => ?_
      simp only [Client.observeDisconnect]
      split
      · split <;> exact Nat.le_refl _
      · exact Nat.le_refl _
  | incoming index incoming now =>
      refine hupdate index fun client => ?_
      simp only [Client.readerStep]
      split <;> exact Nat.le_refl _
  | checkTimeout index now =>
      refine hupdate index fun client => ?_
      simp only [Client.readerStep]
      split <;> exact Nat.le_refl _
  | cancel index => exact hupdate index fun client => Nat.le_refl _

end Relay

namespace WebsocketProxy

variable {capacity : Nat} {x y : WebsocketProxy capacity}

/-- What the clients were sent, as entries of the log. -/
def feeds (x : WebsocketProxy capacity) : List (LogFeed (Option Nat × Message)) :=
  List.zipWith (fun since client =>
    { start := since, sent := (x.log.drop since).take client.sent.length }) x.sinces x.relay.clients

theorem getElem?_feeds {i : Nat} {feed : LogFeed (Option Nat × Message)} :
    x.feeds[i]? = some feed ↔ ∃ since client, x.sinces[i]? = some since ∧
      x.relay.clients[i]? = some client ∧
      feed = { start := since, sent := (x.log.drop since).take client.sent.length } := by
  rw [feeds, List.getElem?_zipWith_eq_some]
  constructor
  · rintro ⟨since, client, hsince, hclient, rfl⟩
    exact ⟨since, client, hsince, hclient, rfl⟩
  · rintro ⟨since, client, hsince, hclient, rfl⟩
    exact ⟨since, client, hsince, hclient, rfl⟩

variable [NeZero capacity]

theorem Relays.client_le (h : x.Relays) {i since : Nat} {client : Client}
    (hsince : x.sinces[i]? = some since) (hclient : x.relay.clients[i]? = some client) :
    since ≤ x.log.length ∧ client.sent.length ≤ (x.log.drop since).length := by
  obtain ⟨other, hother, hinv⟩ := (h.follows i since hsince).client
  obtain rfl := Option.some.inj (hclient.symm.trans hother)
  have hlength := hinv.sent.length_le
  have hle := hinv.start_le
  rw [List.length_map] at hle
  rw [List.length_drop, List.length_map] at hlength
  exact ⟨hle, by rwa [List.length_drop]⟩

theorem Relays.feeds (h : x.Relays) : Feeds x.log x.feeds := by
  intro i feed hfeed
  obtain ⟨since, client, hsince, hclient, rfl⟩ := getElem?_feeds.mp hfeed
  exact ⟨(h.client_le hsince hclient).1, List.take_sublist _ _⟩

theorem Relays.feedsGrow (h : x.Relays) (hlog : x.log <+: y.log) (hsinces : x.sinces <+: y.sinces)
    (hclients : ∀ (i : Nat) client, x.relay.clients[i]? = some client →
      ∃ client', y.relay.clients[i]? = some client' ∧ client.sent.length ≤ client'.sent.length) :
    FeedsGrow x.feeds y.feeds := by
  intro i feed hfeed
  obtain ⟨since, client, hsince, hclient, rfl⟩ := getElem?_feeds.mp hfeed
  obtain ⟨client', hclient', hle⟩ := hclients i client hclient
  obtain ⟨hstart, hlength⟩ := h.client_le hsince hclient
  obtain ⟨rest, hrest⟩ := hlog
  have hsince' : y.sinces[i]? = some since := by
    obtain ⟨more, hmore⟩ := hsinces
    rw [← hmore, List.getElem?_append_left (List.getElem?_eq_some_iff.mp hsince).1, hsince]
  refine ⟨_, getElem?_feeds.mpr ⟨since, client', hsince', hclient', rfl⟩, rfl, ?_⟩
  have hsame : (x.log.drop since ++ rest).take client.sent.length =
      (x.log.drop since).take client.sent.length := List.take_append_of_le_length hlength
  dsimp only
  rw [← hrest, List.drop_append_of_le_length hstart, ← hsame]
  exact List.take_prefix_take_left hle

variable (registry : Registry) (lib : WireLibrary) (enableCompression : Bool)
variable (options : SubscriberOptions)

/-- The proxy only adds to its log and to its feeds. -/
theorem Relays.grows (h : x.Relays) (event : WebsocketProxyEvent) :
    x.log <+: (x.step registry lib enableCompression options event).log ∧
      FeedsGrow x.feeds (x.step registry lib enableCompression options event).feeds := by
  have hsent : ∀ (i : Nat) client, x.relay.clients[i]? = some client →
      ∃ client', x.relay.clients[i]? = some client' ∧ client.sent.length ≤ client'.sent.length :=
    fun _ client hclient => ⟨client, hclient, Nat.le_refl _⟩
  cases event with
  | upstream index event =>
      simp only [WebsocketProxy.step, upstream]
      split
      · next subscriber _ =>
          obtain ⟨hlog, -, hsinces, hclients⟩ := foldl_broadcast registry (some index)
            ((subscriber.handles options event).map (lib.listener enableCompression))
            { x with subscribers := x.subscribers.modify index (·.step options event) }
          have hgrows : x.log <+: _ := hlog ▸ List.prefix_append _ _
          refine ⟨hgrows, h.feedsGrow hgrows ?_ ?_⟩
          · rw [hsinces]
          · rw [hclients]
            exact hsent
      · exact ⟨List.prefix_refl _, FeedsGrow.refl _⟩
  | ping =>
      simp only [WebsocketProxy.step]
      split
      · have hgrows : x.log <+: x.log ++ [(none, .ping [])] := List.prefix_append _ _
        exact ⟨hgrows, h.feedsGrow hgrows (List.prefix_refl _) hsent⟩
      · exact ⟨List.prefix_refl _, FeedsGrow.refl _⟩
  | client event =>
      simp only [WebsocketProxy.step, WebsocketProxy.client]
      split
      · refine ⟨List.prefix_refl _, h.feedsGrow (List.prefix_refl _) ?_
          fun i client hclient => Relay.sent_step registry event hclient⟩
        dsimp only
        split
        · exact List.prefix_append _ _
        · exact List.prefix_refl _
      · exact ⟨List.prefix_refl _, FeedsGrow.refl _⟩

end WebsocketProxy

end RollupBoost
