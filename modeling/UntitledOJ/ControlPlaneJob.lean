import UntitledOJ.JsonValue
import Mathlib.Algebra.Group.Nat.Defs

/-!
# Durable jobs of the control plane

The job contract of `orchestrator-control-plane`.  Hashing and JSON encoding come from third-party
crates, so they are parameters.
-/

namespace UntitledOJ

/-- Third-party primitives: the hexadecimal SHA-256 digest of a text and the
compact `serde_json` encoding of a value. -/
class Digests where
  sha256Hex : String → String
  toVec : Value → String

def canonicalPayloadSha256 [Digests] (payload : Value) : String :=
  Digests.sha256Hex (Digests.toVec payload)

/-- The Unicode `White_Space` characters, which `str::trim` removes. -/
def isTrimmed (character : Char) : Bool :=
  let code := character.toNat
  (0x09 ≤ code && code ≤ 0x0D) || code = 0x20 || code = 0x85 || code = 0xA0 ||
    code = 0x1680 || (0x2000 ≤ code && code ≤ 0x200A) || code = 0x2028 ||
    code = 0x2029 || code = 0x202F || code = 0x205F || code = 0x3000

/-- `text.trim().is_empty()`. -/
def isBlank (text : String) : Bool :=
  text.toList.all isTrimmed

def defaultLeaseMs : Int := 30000

def retryBackoffTable : List Int := [1000, 5000, 30000]

/-- `retry_backoff_ms`: attempts past the table wait as long as its last entry. -/
def retryBackoffMs (attempt : Nat) : Int :=
  retryBackoffTable.getD (attempt - 1) 30000

inductive JobStatus where
  | queued | leased | retryWait | cancelRequested | succeeded | failed | cancelled | needsAttention
  deriving DecidableEq, Repr

namespace JobStatus

def isTerminal : JobStatus → Bool
  | .succeeded | .failed | .cancelled | .needsAttention => true
  | .queued | .leased | .retryWait | .cancelRequested => false

def isHeld : JobStatus → Bool
  | .leased | .cancelRequested => true
  | _ => false

def isClaimable : JobStatus → Bool
  | .queued | .retryWait => true
  | _ => false

/-- A known outcome that triggers compensation. -/
def isFailure : JobStatus → Bool
  | .failed | .cancelled => true
  | _ => false

end JobStatus

inductive JobKind where
  | install | releasePipeline | upgrade | start | stop | restart | uninstall | rollback | health
  | inventory | bindingContextApply | resourcePurge | topologyApply | contributionProjection
  | externalHealth | nodeDrain | nodeRemove
  deriving DecidableEq, Repr

namespace JobKind

/-- Whether an unknown outcome after lease expiry can be repeated without
risking a duplicate external side effect. -/
def isRetrySafeAfterLeaseExpiry : JobKind → Bool
  | .health | .inventory | .externalHealth | .contributionProjection => true
  | _ => false

def isObservation : JobKind → Bool
  | .health | .inventory | .externalHealth => true
  | _ => false

/-- The `snake_case` name under which the kind is serialized. -/
def name : JobKind → String
  | .install => "install"
  | .releasePipeline => "release_pipeline"
  | .upgrade => "upgrade"
  | .start => "start"
  | .stop => "stop"
  | .restart => "restart"
  | .uninstall => "uninstall"
  | .rollback => "rollback"
  | .health => "health"
  | .inventory => "inventory"
  | .bindingContextApply => "binding_context_apply"
  | .resourcePurge => "resource_purge"
  | .topologyApply => "topology_apply"
  | .contributionProjection => "contribution_projection"
  | .externalHealth => "external_health"
  | .nodeDrain => "node_drain"
  | .nodeRemove => "node_remove"

end JobKind

structure Job where
  (jobId operationId nodeId : String)
  kind : JobKind
  payload : Value
  (payloadSha256 idempotencyKey : String)
  status : JobStatus
  attempt : Nat
  maxAttempts : Nat
  availableAtMs : Int
  (leaseOwner leaseToken : Option String)
  leaseExpiresAtMs : Option Int
  result : Option Value
  (errorMessage completionFingerprint : Option String)
  createdAtMs : Int
  (startedAtMs completedAtMs : Option Int)
  updatedAtMs : Int
  deriving DecidableEq

structure NewJob where
  (jobId operationId nodeId : String)
  kind : JobKind
  payload : Value
  idempotencyKey : String
  maxAttempts : Nat
  deriving DecidableEq

structure JobEvent where
  jobId : String
  sequence : Nat
  (eventType level message : String)
  data : Value
  createdAtMs : Int
  deriving DecidableEq

structure NewJobEvent where
  sequence : Nat
  (eventType level message : String)
  data : Value
  deriving DecidableEq

structure ClaimRequest where
  (nodeId instanceId leaseToken : String)
  nowMs : Int
  leaseMs : Int

structure HeartbeatRequest where
  (jobId leaseToken : String)
  nowMs : Int
  leaseMs : Int
  events : List NewJobEvent

inductive CompletionStatus where
  | succeeded | retryableFailure | failed | cancelled | needsAttention
  deriving DecidableEq, Repr

/-- The `SCREAMING_SNAKE_CASE` name under which the status is serialized. -/
def CompletionStatus.name : CompletionStatus → String
  | .succeeded => "SUCCEEDED"
  | .retryableFailure => "RETRYABLE_FAILURE"
  | .failed => "FAILED"
  | .cancelled => "CANCELLED"
  | .needsAttention => "NEEDS_ATTENTION"

structure CompleteRequest where
  (jobId leaseToken : String)
  status : CompletionStatus
  result : Value
  errorMessage : String
  nowMs : Int
  events : List NewJobEvent

/-- Durable side-effect evidence that an expired lease completed
successfully. -/
structure ResolveExpiredSuccessRequest where
  jobId : String
  nowMs : Int
  result : Value

inductive JobError where
  | persistence (message : String)
  | notFound (jobId : String)
  | idempotencyConflict
  | staleLease
  | invalidTransition (source : JobStatus) (target : String)
  | eventConflict (sequence : Nat)
  | jobIdConflict (jobId : String)
  | invalidJob (message : String)
  deriving DecidableEq, Repr

def completionFingerprint [Digests] (status : CompletionStatus) (result : Value)
    (error : String) : String :=
  canonicalPayloadSha256 (.object
    [("error", .string error), ("result", result), ("status", .string status.name)])

def successfulCompletionFingerprint [Digests] (result : Value) : String :=
  completionFingerprint .succeeded result ""

end UntitledOJ

namespace UntitledOJ.Scenario

/-- Digests that are easy to compute; like SHA-256 they never collide in the
scenarios that use them. -/
scoped instance plainDigests : Digests where
  sha256Hex text := text ++ "================================"
  toVec _ := "payload"

end UntitledOJ.Scenario
