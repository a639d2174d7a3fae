import Mathlib.Logic.Basic

/-!
# Engine API payloads

The data of `rollup-boost-types/src/payload.rs` and of the Engine API types it is
built from. Hashes, addresses and blooms are fixed-width bit vectors, quantities
are machine words, and byte strings are lists of bytes.

An envelope is the answer to a `getPayload`; `NewPayload` is what is sent back to
an execution client for validation. The conversion between them is the one that
`get_payload` uses before it asks the L2 client about a builder block.
-/

namespace RollupBoost

abbrev B256 := BitVec 256
abbrev U256 := BitVec 256
abbrev B64 := BitVec 64
abbrev Address := BitVec 160
abbrev Bloom := BitVec 2048
abbrev Bytes := List UInt8

/-- Eight opaque bytes that name a block-building job. -/
abbrev PayloadId := BitVec 64

structure Withdrawal where
  index : UInt64
  validatorIndex : UInt64
  address : Address
  amount : UInt64
  deriving DecidableEq, Inhabited

structure ExecutionPayloadV1 where
  parentHash : B256
  feeRecipient : Address
  stateRoot : B256
  receiptsRoot : B256
  logsBloom : Bloom
  prevRandao : B256
  blockNumber : UInt64
  gasLimit : UInt64
  gasUsed : UInt64
  timestamp : UInt64
  extraData : Bytes
  baseFeePerGas : U256
  blockHash : B256
  transactions : List Bytes
  deriving DecidableEq, Inhabited

structure ExecutionPayloadV2 where
  payloadInner : ExecutionPayloadV1
  withdrawals : List Withdrawal
  deriving DecidableEq, Inhabited

structure ExecutionPayloadV3 where
  payloadInner : ExecutionPayloadV2
  blobGasUsed : UInt64
  excessBlobGas : UInt64
  deriving DecidableEq, Inhabited

structure OpExecutionPayloadV4 where
  payloadInner : ExecutionPayloadV3
  withdrawalsRoot : B256
  deriving DecidableEq, Inhabited

structure BlobsBundleV1 where
  commitments : List Bytes
  proofs : List Bytes
  blobs : List Bytes
  deriving DecidableEq, Inhabited

structure OpExecutionPayloadEnvelopeV3 where
  executionPayload : ExecutionPayloadV3
  blockValue : U256
  blobsBundle : BlobsBundleV1
  shouldOverrideBuilder : Bool
  parentBeaconBlockRoot : B256
  deriving DecidableEq, Inhabited

structure OpExecutionPayloadEnvelopeV4 where
  executionPayload : OpExecutionPayloadV4
  blockValue : U256
  blobsBundle : BlobsBundleV1
  shouldOverrideBuilder : Bool
  parentBeaconBlockRoot : B256
  executionRequests : List Bytes
  deriving DecidableEq, Inhabited

inductive PayloadVersion where
  | v3
  | v4
  deriving DecidableEq, Inhabited

inductive PayloadSource where
  | l2
  | builder
  deriving DecidableEq

inductive OpExecutionPayloadEnvelope where
  | v3 (payload : OpExecutionPayloadEnvelopeV3)
  | v4 (payload : OpExecutionPayloadEnvelopeV4)
  deriving DecidableEq

structure PayloadAttributes where
  timestamp : UInt64
  prevRandao : B256
  suggestedFeeRecipient : Address
  withdrawals : Option (List Withdrawal)
  parentBeaconBlockRoot : Option B256
  deriving DecidableEq, Inhabited

structure OpPayloadAttributes where
  payloadAttributes : PayloadAttributes
  transactions : Option (List Bytes)
  noTxPool : Option Bool
  gasLimit : Option UInt64
  eip1559Params : Option B64
  minBaseFee : Option UInt64
  deriving DecidableEq, Inhabited

structure ForkchoiceState where
  headBlockHash : B256
  safeBlockHash : B256
  finalizedBlockHash : B256
  deriving DecidableEq, Inhabited

inductive PayloadStatusEnum where
  | valid
  | invalid (validationError : String)
  | syncing
  | accepted
  deriving DecidableEq

structure PayloadStatus where
  status : PayloadStatusEnum
  latestValidHash : Option B256
  deriving DecidableEq

structure ForkchoiceUpdated where
  payloadStatus : PayloadStatus
  payloadId : Option PayloadId
  deriving DecidableEq

namespace PayloadStatusEnum

def isInvalid : PayloadStatusEnum → Bool
  | .invalid _ => true
  | _ => false

/-- The `Display` text, which ends up in the error of a rejected payload. -/
def toString : PayloadStatusEnum → String
  | .valid => "VALID"
  | .invalid validationError => "INVALID: " ++ validationError
  | .syncing => "SYNCING"
  | .accepted => "ACCEPTED"

end PayloadStatusEnum

namespace OpExecutionPayloadEnvelope

def version : OpExecutionPayloadEnvelope → PayloadVersion
  | .v3 _ => .v3
  | .v4 _ => .v4

/-- Both versions carry a V3 execution payload; V4 only adds fields around it.
This is `ExecutionPayload::from` on an envelope. -/
def executionPayload : OpExecutionPayloadEnvelope → ExecutionPayloadV3
  | .v3 payload => payload.executionPayload
  | .v4 payload => payload.executionPayload.payloadInner

def parentBeaconBlockRoot : OpExecutionPayloadEnvelope → B256
  | .v3 payload => payload.parentBeaconBlockRoot
  | .v4 payload => payload.parentBeaconBlockRoot

def gasUsed (envelope : OpExecutionPayloadEnvelope) : UInt64 :=
  envelope.executionPayload.payloadInner.payloadInner.gasUsed

def transactions (envelope : OpExecutionPayloadEnvelope) : List Bytes :=
  envelope.executionPayload.payloadInner.payloadInner.transactions

def payloadAttributes (envelope : OpExecutionPayloadEnvelope) : PayloadAttributes where
  timestamp := envelope.executionPayload.payloadInner.payloadInner.timestamp
  prevRandao := envelope.executionPayload.payloadInner.payloadInner.prevRandao
  suggestedFeeRecipient := envelope.executionPayload.payloadInner.payloadInner.feeRecipient
  withdrawals := some envelope.executionPayload.payloadInner.withdrawals
  parentBeaconBlockRoot := some envelope.parentBeaconBlockRoot

end OpExecutionPayloadEnvelope

structure NewPayloadV3 where
  payload : ExecutionPayloadV3
  versionedHashes : List B256
  parentBeaconBlockRoot : B256
  deriving DecidableEq

structure NewPayloadV4 where
  payload : OpExecutionPayloadV4
  versionedHashes : List B256
  parentBeaconBlockRoot : B256
  executionRequests : List Bytes
  deriving DecidableEq

inductive NewPayload where
  | v3 (newPayload : NewPayloadV3)
  | v4 (newPayload : NewPayloadV4)
  deriving DecidableEq

namespace NewPayload

/-- `NewPayload::from`: the versioned hashes of a validated block are empty. -/
def ofEnvelope : OpExecutionPayloadEnvelope → NewPayload
  | .v3 envelope => .v3
      { payload := envelope.executionPayload
        versionedHashes := []
        parentBeaconBlockRoot := envelope.parentBeaconBlockRoot }
  | .v4 envelope => .v4
      { payload := envelope.executionPayload
        versionedHashes := []
        parentBeaconBlockRoot := envelope.parentBeaconBlockRoot
        executionRequests := envelope.executionRequests }

def executionPayload : NewPayload → ExecutionPayloadV3
  | .v3 newPayload => newPayload.payload
  | .v4 newPayload => newPayload.payload.payloadInner

def parentHash (newPayload : NewPayload) : B256 :=
  newPayload.executionPayload.payloadInner.payloadInner.parentHash

end NewPayload

end RollupBoost
