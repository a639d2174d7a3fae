import RollupBoost.Server.Probe

/-!
# The composite health of the server

In mode `Enabled` the probe is meant to combine two conditions: the builder is in sync, which
the rounds of the health check find out, and both clients deliver payloads, which every
`get_payload` finds out. A builder that is out of sync should keep the probe away from
`Healthy` until a round finds it in sync again.

`Watched` keeps beside the server what the rounds have found. The probe stays away from
`Healthy` exactly as long as every `get_payload` in the meantime is one that writes no
`Healthy`, which means that the L2 client fails. Readers that never look between the two writes
of a `get_payload` are also safe from those in which the builder fails.
-/

namespace RollupBoost

open Machine

/-- What a round finds in mode `Enabled`. The builder is asked only if the L2 client has a
fresh block. -/
inductive Finding where
  | l2Unavailable
  | builderOutOfSync
  | inSync
  deriving DecidableEq

def Finding.health : Finding → Health
  | .l2Unavailable => .serviceUnavailable
  | .builderOutOfSync => .partialContent
  | .inSync => .healthy

namespace RollupBoostServer

variable {T : Type}

def finding (api : EngineApiExt T) (config : ServerConfig) (self : RollupBoostServer T)
    (l2 builder : AuthClient) (now : UInt64) : Finding :=
  match RpcClient.getBlockByNumber l2 .latest false with
  | .error _ => .l2Unavailable
  | .ok block =>
      if tooOld config now block then .l2Unavailable
      else
        match (api.getBlockByNumber builder .latest false self.builderClient).result with
        | .error _ => .builderOutOfSync
        | .ok block => if tooOld config now block then .builderOutOfSync else .inSync

/-- In mode `Enabled` a round writes what it finds. -/
theorem healthCheck_health {api : EngineApiExt T} {config : ServerConfig}
    {self : RollupBoostServer T} (henabled : self.executionMode = .enabled)
    (l2 builder : AuthClient) (now : UInt64) :
    (self.healthCheck api config l2 builder now).server.health =
      Finding.health (self.finding api config l2 builder now) := by
  have hmode : self.executionMode.isEnabled = true := by
    rw [henabled]
    rfl
  simp only [healthCheck, finding]
  cases RpcClient.getBlockByNumber l2 .latest false with
  | error e => rfl
  | ok block =>
      simp only [hmode, Bool.not_true, Bool.false_eq_true, if_false]
      by_cases hold : tooOld config now block = true
      · rw [if_pos hold, if_pos hold]
        rfl
      · rw [if_neg hold, if_neg hold]
        cases (api.getBlockByNumber builder .latest false self.builderClient).result with
        | error e => rfl
        | ok block =>
            simp only
            split <;> rfl

end RollupBoostServer

/-- The server, and whether a round has found the builder out of sync and none has found it
in sync since. -/
structure Watched (T : Type) where
  server : RollupBoostServer T
  outOfSync : Bool

namespace Watched

variable {T : Type}

def start (server : RollupBoostServer T) : Watched T := { server := server, outOfSync := false }

def step (api : EngineApiExt T) (config : ServerConfig) (x : Watched T) (event : Event T) :
    Watched T where
  server := x.server.step api config event
  outOfSync :=
    match event with
    | .healthCheck l2 builder now =>
        match x.server.finding api config l2 builder now with
        | .l2Unavailable => x.outOfSync
        | .builderOutOfSync => true
        | .inSync => false
    | _ => x.outOfSync

/-- While the builder is out of sync, the event neither writes `Healthy` nor leaves it. -/
def NotHealthy (api : EngineApiExt T) (config : ServerConfig) (x : Watched T)
    (event : Event T) : Prop :=
  (x.step api config event).outOfSync = true →
    (∀ health ∈ x.server.healthWrites api config event, health ≠ .healthy) ∧
      (x.step api config event).server.health ≠ .healthy

/-- While the builder is out of sync, the event does not leave `Healthy` behind. -/
def NotLeftHealthy (api : EngineApiExt T) (config : ServerConfig) (x : Watched T)
    (event : Event T) : Prop :=
  (x.step api config event).outOfSync = true → (x.step api config event).server.health ≠ .healthy

/-- While the builder is out of sync, the L2 client has no block for a `getPayload`, or the
handler unwinds. -/
def L2Fails (api : EngineApiExt T) (config : ServerConfig) (x : Watched T) : Event T → Prop
  | .getPayload answers version payloadId => x.outOfSync = true →
      (RpcClient.getPayload answers.l2 payloadId version).isOk = false ∨
        x.server.Unwinds api config answers payloadId version
  | _ => True

/-- While the builder is out of sync, one of the clients has no block for a `getPayload`, or
the handler unwinds. -/
def EitherFails (api : EngineApiExt T) (config : ServerConfig) (x : Watched T) : Event T → Prop
  | .getPayload answers version payloadId => x.outOfSync = true →
      (RpcClient.getPayload answers.l2 payloadId version).isOk = false ∨
        RollupBoostServer.BuilderFails
          (x.server.builderFut api config answers payloadId version).response ∨
        x.server.Unwinds api config answers payloadId version
  | _ => True

variable {api : EngineApiExt T} {config : ServerConfig} {x : Watched T} {event : Event T}

/-- The mode, and the probe while the builder is out of sync. -/
structure Inv (x : Watched T) : Prop where
  enabled : x.server.executionMode = .enabled
  health : x.outOfSync = true → x.server.health ≠ .healthy

theorem Inv.step (h : x.Inv) (hmode : event.KeepsMode)
    (hhealth : x.NotLeftHealthy api config event) : (x.step api config event).Inv where
  enabled := by
    rw [← h.enabled]
    exact (x.server.step_frame api config event).2 hmode
  health := hhealth

/-- The probe after an event is what the event wrote last. -/
theorem step_health (x : Watched T) (event : Event T) :
    (x.step api config event).server.health =
      (x.server.healthWrites api config event).getLastD x.server.health :=
  (x.server.step_frame api config event).1

/-- An event that writes nothing leaves the probe as it was. -/
theorem Inv.notHealthy_of_silent (h : x.Inv)
    (hwrites : x.server.healthWrites api config event = [])
    (hsync : (x.step api config event).outOfSync = x.outOfSync) :
    x.NotHealthy api config event := by
  intro houtOfSync
  have hhealth : (x.step api config event).server.health = x.server.health :=
    RollupBoostServer.step_health_of_silent hwrites
  rw [hsync] at houtOfSync
  rw [hwrites, hhealth]
  exact ⟨by simp, h.health houtOfSync⟩

/-- A round that finds the builder out of sync, or has to skip it, does not write `Healthy`. -/
theorem Inv.healthCheck (h : x.Inv) (l2 builder : AuthClient) (now : UInt64) :
    x.NotHealthy api config (.healthCheck l2 builder now) := by
  intro hsync
  have hwrites : x.server.healthWrites api config (.healthCheck l2 builder now) =
      [(x.server.finding api config l2 builder now).health] := by
    rw [← RollupBoostServer.healthCheck_health h.enabled]
    rfl
  rw [step_health, hwrites]
  simp only [Watched.step] at hsync
  cases hfinding : x.server.finding api config l2 builder now with
  | l2Unavailable => simp [Finding.health]
  | builderOutOfSync => simp [Finding.health]
  | inSync => simp [hfinding] at hsync

theorem Inv.getPayload (h : x.Inv) (answers : Answers) (version : PayloadVersion)
    (payloadId : PayloadId) :
    (x.NotHealthy api config (.getPayload answers version payloadId) ↔
      x.L2Fails api config (.getPayload answers version payloadId)) ∧
    (x.NotLeftHealthy api config (.getPayload answers version payloadId) ↔
      x.EitherFails api config (.getPayload answers version payloadId)) := by
  have hsync : (x.step api config (.getPayload answers version payloadId)).outOfSync =
      x.outOfSync := rfl
  have hwrites : x.server.healthWrites api config (.getPayload answers version payloadId) =
      x.server.getPayloadWrites api config answers payloadId version := rfl
  simp only [NotHealthy, NotLeftHealthy, L2Fails, EitherFails, step_health, hsync, hwrites]
  by_cases houtOfSync : x.outOfSync = true
  · have hhealth := h.health houtOfSync
    simp only [houtOfSync, true_implies]
    obtain ⟨hunwinds, heq⟩ | ⟨hreturns, hl2, heq⟩ | ⟨hreturns, hl2, hfails, heq⟩ |
        ⟨hreturns, hl2, hfails, heq⟩ :=
      RollupBoostServer.getPayloadWrites_cases api config h.enabled answers payloadId version
    · simp [heq, hunwinds, hhealth]
    · simp [heq, hl2]
    · simp [heq, hreturns, hl2, hfails]
    · simp [heq, hreturns, hl2, hfails]
  · simp [houtOfSync]

theorem Inv.notHealthy_iff (h : x.Inv) (event : Event T) :
    x.NotHealthy api config event ↔ x.L2Fails api config event := by
  cases event with
  | getPayload answers version payloadId => exact (h.getPayload answers version payloadId).1
  | healthCheck l2 builder now => exact iff_of_true (h.healthCheck l2 builder now) trivial
  | _ => exact iff_of_true (h.notHealthy_of_silent rfl rfl) trivial

theorem Inv.notLeftHealthy_iff (h : x.Inv) (event : Event T) :
    x.NotLeftHealthy api config event ↔ x.EitherFails api config event := by
  have hleft : x.NotHealthy api config event → x.NotLeftHealthy api config event :=
    fun hhealth hsync => (hhealth hsync).2
  cases event with
  | getPayload answers version payloadId => exact (h.getPayload answers version payloadId).2
  | healthCheck l2 builder now => exact iff_of_true (hleft (h.healthCheck l2 builder now)) trivial
  | _ => exact iff_of_true (hleft (h.notHealthy_of_silent rfl rfl)) trivial

/-- In mode `Enabled`, while the builder is known to be out of sync: the probe never holds
`Healthy` exactly if the L2 client fails in every `getPayload`, and it does not hold `Healthy`
between two events exactly if one of the clients does. -/
theorem not_healthy_while_out_of_sync_iff (api : EngineApiExt T) (config : ServerConfig)
    (server : RollupBoostServer T) (henabled : server.executionMode = .enabled)
    (events : List (Event T)) (hmode : ∀ event ∈ events, event.KeepsMode) :
    (Along (step api config) (NotHealthy api config) (start server) events ↔
      Along (step api config) (L2Fails api config) (start server) events) ∧
    (Along (step api config) (NotLeftHealthy api config) (start server) events ↔
      Along (step api config) (EitherFails api config) (start server) events) := by
  have hinv : (start server).Inv := ⟨henabled, by simp [start]⟩
  constructor
  · refine Along.congr_of_invariant (fun x event h _ => Inv.notHealthy_iff h event) ?_
      (Along.of_forall hmode) hinv
    intro x event h hkeeps hhealth
    exact Inv.step h hkeeps fun hsync => (hhealth hsync).2
  · refine Along.congr_of_invariant (fun x event h _ => Inv.notLeftHealthy_iff h event) ?_
      (Along.of_forall hmode) hinv
    intro x event h hkeeps hhealth
    exact Inv.step h hkeeps hhealth

/-- The builder is out of sync when payload 7 is fetched, and only the L2 client fails. -/
theorem not_healthy_when_l2_fails :
    Along (step RpcClient.engineApi RollupBoostServer.plainConfig)
      (NotHealthy RpcClient.engineApi RollupBoostServer.plainConfig) (start (.new () .enabled))
      [.forkChoiceUpdatedV3 (RollupBoostServer.oneBlock .valid) default (some default),
        RollupBoostServer.staleBuilder Unit,
        .getPayload { RollupBoostServer.oneBlock .valid with l2 := .refused } .v3 7] := by
  refine (not_healthy_while_out_of_sync_iff RpcClient.engineApi RollupBoostServer.plainConfig
    (.new () .enabled) rfl _ ?_).1.mpr ⟨trivial, trivial, fun _ => .inl rfl, trivial⟩
  simp [Event.KeepsMode, RollupBoostServer.staleBuilder]

/-- The builder is out of sync and still delivers payload 7: the probe is `Healthy` again. -/
theorem healthy_after_stale_round :
    ¬ Along (step RpcClient.engineApi RollupBoostServer.plainConfig)
      (NotLeftHealthy RpcClient.engineApi RollupBoostServer.plainConfig) (start (.new () .enabled))
      [.forkChoiceUpdatedV3 (RollupBoostServer.oneBlock .valid) default (some default),
        RollupBoostServer.staleBuilder Unit,
        .getPayload (RollupBoostServer.oneBlock .valid) .v3 7] := by
  rintro ⟨-, -, hfetch, -⟩
  exact absurd rfl (hfetch rfl)

end Watched

end RollupBoost
