import RollupBoost.Engine.Payload

/-!
# The Engine API clients

`AuthClient` is the authenticated JSON-RPC endpoint of one execution client, given
by its answers while one handler runs. `RpcClient` (`client/rpc.rs`) is what the
server sees of it: transport errors pass through, and an `INVALID` status becomes
an error. No other status does, and this one check serves both the calls that are
relayed for op-node and the validation of builder blocks.

`EngineApiExt` is the trait of the same name (`engine_api.rs`). A client may keep
state, so each method also returns the client after the call and the requests that
reached the wire.
-/

namespace RollupBoost

structure ErrorObject where
  code : Int
  message : String
  data : Option String
  deriving DecidableEq

/-- `jsonrpsee::core::client::Error`: the endpoint's own error object, or any
failure of the transport (a timeout, a refused connection) by its text. -/
inductive ClientError where
  | call (object : ErrorObject)
  | other (text : String)
  deriving DecidableEq

inductive RpcClientError where
  | jsonrpsee (error : ClientError)
  | invalidPayload (status : String)
  | io (text : String)
  | jwt (text : String)
  deriving DecidableEq

abbrev ClientResult (α : Type) := Except RpcClientError α
abbrev RpcResult (α : Type) := Except ErrorObject α

namespace RpcClientError

def internalError : Int := 13

def toString : RpcClientError → String
  | .jsonrpsee (.call object) => object.message
  | .jsonrpsee (.other text) => text
  | .invalidPayload status => "Invalid payload: " ++ status
  | .io text => text
  | .jwt text => text

/-- `From<RpcClientError> for ErrorObjectOwned`: an error object of the endpoint is
handed on unchanged, everything else becomes an internal error. -/
def toErrorObject : RpcClientError → ErrorObject
  | .jsonrpsee (.call object) => object
  | e => { code := internalError, message := e.toString, data := none }

end RpcClientError

/-- The `?` operator of a handler on the result of a client call. -/
def ClientResult.toRpc {α : Type} (result : ClientResult α) : RpcResult α :=
  result.mapError RpcClientError.toErrorObject

@[simp] theorem ClientResult.toRpc_ok {α : Type} (value : α) :
    ClientResult.toRpc (.ok value) = .ok value := rfl

@[simp] theorem ClientResult.toRpc_error {α : Type} (e : RpcClientError) :
    ClientResult.toRpc (.error e : ClientResult α) = .error e.toErrorObject := rfl

inductive BlockNumberOrTag where
  | latest
  | finalized
  | safe
  | earliest
  | pending
  | number (n : UInt64)
  deriving DecidableEq

/-- The part of a block that the health check reads. -/
structure Block where
  timestamp : UInt64
  deriving DecidableEq

/-- The answers of one authenticated endpoint. -/
structure AuthClient where
  forkChoiceUpdatedV3 :
    ForkchoiceState → Option OpPayloadAttributes → Except ClientError ForkchoiceUpdated
  getPayloadV3 : PayloadId → Except ClientError OpExecutionPayloadEnvelopeV3
  getPayloadV4 : PayloadId → Except ClientError OpExecutionPayloadEnvelopeV4
  newPayloadV3 : NewPayloadV3 → Except ClientError PayloadStatus
  newPayloadV4 : NewPayloadV4 → Except ClientError PayloadStatus
  getBlockByNumber : BlockNumberOrTag → Bool → Except ClientError Block

namespace AuthClient

def getPayload (auth : AuthClient) (payloadId : PayloadId) :
    PayloadVersion → Except ClientError OpExecutionPayloadEnvelope
  | .v3 => (auth.getPayloadV3 payloadId).map .v3
  | .v4 => (auth.getPayloadV4 payloadId).map .v4

def newPayload (auth : AuthClient) : NewPayload → Except ClientError PayloadStatus
  | .v3 newPayload => auth.newPayloadV3 newPayload
  | .v4 newPayload => auth.newPayloadV4 newPayload

end AuthClient

/-- An endpoint that nobody listens on. -/
def AuthClient.refused : AuthClient where
  forkChoiceUpdatedV3 _ _ := .error (.other "connection refused")
  getPayloadV3 _ := .error (.other "connection refused")
  getPayloadV4 _ := .error (.other "connection refused")
  newPayloadV3 _ := .error (.other "connection refused")
  newPayloadV4 _ := .error (.other "connection refused")
  getBlockByNumber _ _ := .error (.other "connection refused")

/-- A request as the endpoint receives it. -/
inductive EngineRequest where
  | forkChoiceUpdatedV3 (state : ForkchoiceState) (attributes : Option OpPayloadAttributes)
  | getPayload (version : PayloadVersion) (payloadId : PayloadId)
  | newPayload (payload : NewPayload)
  | getBlockByNumber (number : BlockNumberOrTag) (full : Bool)
  deriving DecidableEq

/-- A request together with the endpoint's answer to it. -/
inductive Exchange where
  | forkChoiceUpdatedV3 (state : ForkchoiceState) (attributes : Option OpPayloadAttributes)
      (answer : Except ClientError ForkchoiceUpdated)
  | getPayload (version : PayloadVersion) (payloadId : PayloadId)
      (answer : Except ClientError OpExecutionPayloadEnvelope)
  | newPayload (payload : NewPayload) (answer : Except ClientError PayloadStatus)
  | getBlockByNumber (number : BlockNumberOrTag) (full : Bool)
      (answer : Except ClientError Block)

def Exchange.request : Exchange → EngineRequest
  | .forkChoiceUpdatedV3 state attributes _ => .forkChoiceUpdatedV3 state attributes
  | .getPayload version payloadId _ => .getPayload version payloadId
  | .newPayload payload _ => .newPayload payload
  | .getBlockByNumber number full _ => .getBlockByNumber number full

namespace RpcClient

/-- The error path shared by all calls: a failed call is a `Jsonrpsee` error. -/
def lift {α : Type} (answer : Except ClientError α) : ClientResult α :=
  answer.mapError .jsonrpsee

@[simp] theorem lift_ok {α : Type} (value : α) : lift (.ok value) = .ok value := rfl

@[simp] theorem lift_error {α : Type} (e : ClientError) :
    lift (.error e : Except ClientError α) = .error (.jsonrpsee e) := rfl

/-- The check on the answer to a forkchoice update. -/
def acceptForkchoice (answer : Except ClientError ForkchoiceUpdated) :
    ClientResult ForkchoiceUpdated := do
  let res ← lift answer
  if res.payloadStatus.status.isInvalid then
    .error (.invalidPayload res.payloadStatus.status.toString)
  else
    .ok res

def forkChoiceUpdatedV3 (auth : AuthClient) (state : ForkchoiceState)
    (attributes : Option OpPayloadAttributes) : ClientResult ForkchoiceUpdated :=
  acceptForkchoice (auth.forkChoiceUpdatedV3 state attributes)

/-- `get_payload_v3` and `get_payload_v4`, tagged with the version that was asked for. -/
def getPayload (auth : AuthClient) (payloadId : PayloadId) (version : PayloadVersion) :
    ClientResult OpExecutionPayloadEnvelope :=
  lift (auth.getPayload payloadId version)

/-- The check on the answer to a `newPayload`, the same in both versions. -/
def acceptStatus (answer : Except ClientError PayloadStatus) : ClientResult PayloadStatus := do
  let res ← lift answer
  if res.status.isInvalid then
    .error (.invalidPayload res.status.toString)
  else
    .ok res

def newPayload (auth : AuthClient) (newPayload : NewPayload) : ClientResult PayloadStatus :=
  acceptStatus (auth.newPayload newPayload)

def getBlockByNumber (auth : AuthClient) (number : BlockNumberOrTag) (full : Bool) :
    ClientResult Block :=
  lift (auth.getBlockByNumber number full)

/-- An envelope from the wire has the version of the method that fetched it. -/
theorem getPayload_version {auth : AuthClient} {payloadId : PayloadId}
    {version : PayloadVersion} {envelope : OpExecutionPayloadEnvelope}
    (h : getPayload auth payloadId version = .ok envelope) : envelope.version = version := by
  cases version with
  | v3 =>
      cases ha : auth.getPayloadV3 payloadId <;>
        simp [getPayload, AuthClient.getPayload, ha, Except.map] at h
      subst h
      rfl
  | v4 =>
      cases ha : auth.getPayloadV4 payloadId <;>
        simp [getPayload, AuthClient.getPayload, ha, Except.map] at h
      subst h
      rfl

/-- The check that stands between a builder block and its selection: the answer was
a status, and that status was not `INVALID`. -/
theorem newPayload_ok_iff {auth : AuthClient} {request : NewPayload} {status : PayloadStatus} :
    newPayload auth request = .ok status ↔
      auth.newPayload request = .ok status ∧ status.status.isInvalid = false := by
  cases ha : auth.newPayload request with
  | error e => simp [newPayload, acceptStatus, ha, bind, Except.bind]
  | ok res =>
      simp only [newPayload, acceptStatus, lift_ok, ha, bind, Except.bind, Except.ok.injEq]
      by_cases hs : res.status.isInvalid
      · simp only [hs, if_true, reduceCtorEq, false_iff, not_and]
        rintro rfl
        simp [hs]
      · simp only [hs, Bool.false_eq_true, if_false, Except.ok.injEq]
        constructor
        · rintro rfl
          exact ⟨rfl, by simpa using hs⟩
        · exact fun h => h.1

end RpcClient

/-- What a method of a stateful client leaves behind. -/
structure Reply (T α : Type) where
  result : ClientResult α
  client : T
  sent : List Exchange

/-- The trait `EngineApiExt`, as the dictionary of its methods. Every implementation
answers `get_payload` in the version asked for, which the callers rely on. -/
structure EngineApiExt (T : Type) where
  forkChoiceUpdatedV3 : AuthClient → ForkchoiceState → Option OpPayloadAttributes → T →
    Reply T ForkchoiceUpdated
  newPayload : AuthClient → NewPayload → T → Reply T PayloadStatus
  getPayload : AuthClient → PayloadId → PayloadVersion → T → Reply T OpExecutionPayloadEnvelope
  getBlockByNumber : AuthClient → BlockNumberOrTag → Bool → T → Reply T Block
  getPayload_version : ∀ {auth payloadId version client envelope},
    (getPayload auth payloadId version client).result = .ok envelope →
      envelope.version = version

/-- An implementation that passes every `get_payload` on to the endpoint of the
builder. Both do: the flashblocks service sends it even when it has the block itself, so
that the builder stops building. -/
structure BuilderApi (T : Type) extends EngineApiExt T where
  getPayload_sent : ∀ auth payloadId version client,
    (getPayload auth payloadId version client).sent =
      [.getPayload version payloadId (auth.getPayload payloadId version)]

namespace RpcClient

/-- The plain client forwards each call to the wire and keeps no state. -/
def engineApi : EngineApiExt Unit where
  forkChoiceUpdatedV3 auth state attributes client :=
    { result := forkChoiceUpdatedV3 auth state attributes
      client := client
      sent := [.forkChoiceUpdatedV3 state attributes (auth.forkChoiceUpdatedV3 state attributes)] }
  newPayload auth request client :=
    { result := newPayload auth request
      client := client
      sent := [.newPayload request (auth.newPayload request)] }
  getPayload auth payloadId version client :=
    { result := getPayload auth payloadId version
      client := client
      sent := [.getPayload version payloadId (auth.getPayload payloadId version)] }
  getBlockByNumber auth number full client :=
    { result := getBlockByNumber auth number full
      client := client
      sent := [.getBlockByNumber number full (auth.getBlockByNumber number full)] }
  getPayload_version h := getPayload_version h

def builderApi : BuilderApi Unit :=
  { engineApi with getPayload_sent := fun _ _ _ _ => rfl }

end RpcClient

end RollupBoost
