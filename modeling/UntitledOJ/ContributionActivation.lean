import UntitledOJ.ContributionRevision

/-!
# Activations and projection receipts

An activation follows one candidate revision from its preparation to its success or its abort;
receipts record how far each of five consumers got with it.
-/

namespace UntitledOJ

open Contribution

inductive ContributionActivationStateV1 where
  | preparing | committing | compensating | succeeded | aborted | needsAttention
  deriving DecidableEq, Repr

/-- `ContributionActivationStateV1::as_str`, which is also its JSON text. -/
def ContributionActivationStateV1.asStr : ContributionActivationStateV1 → String
  | .preparing => "PREPARING"
  | .committing => "COMMITTING"
  | .compensating => "COMPENSATING"
  | .succeeded => "SUCCEEDED"
  | .aborted => "ABORTED"
  | .needsAttention => "NEEDS_ATTENTION"

/-- The transitions of an activation; the repository has the same table. -/
def ContributionActivationStateV1.mayBecome :
    ContributionActivationStateV1 → ContributionActivationStateV1 → Bool
  | .preparing, .committing | .preparing, .compensating | .preparing, .needsAttention => true
  | .committing, .succeeded | .committing, .compensating | .committing, .needsAttention => true
  | .succeeded, .compensating => true
  | .compensating, .aborted | .compensating, .needsAttention => true
  | _, _ => false

inductive ContributionTerminationIntentV1 where
  | failed
  | cancelled
  deriving DecidableEq, Repr

structure ContributionActivationV1 where
  (activationId scopeId serviceId : String)
  candidateRevisionId : Sha256
  (previousRevisionId expectedHeadEtag : Option Sha256)
  state : ContributionActivationStateV1
  terminationIntent : Option ContributionTerminationIntentV1
  deriving DecidableEq, Repr

namespace ContributionActivationV1

variable (activation : ContributionActivationV1)

def validate : Except DomainError Unit := do
  validateStableIdentifier "activation_id" activation.activationId
  validateStableIdentifier "activation scope_id" activation.scopeId
  Contribution.validateServiceId activation.serviceId
  match activation.state with
  | .preparing | .committing | .succeeded =>
    rejectIf activation.terminationIntent.isSome
      "normal activation states cannot have termination_intent"
  | .compensating | .aborted =>
    rejectIf activation.terminationIntent.isNone
      "compensating and aborted activations require termination_intent"
  | .needsAttention => pure ()

/-- The activation in another state; an intent is kept once there is one. -/
def moved (state : ContributionActivationStateV1)
    (intent : Option ContributionTerminationIntentV1) :
    ContributionActivationV1 :=
  { activation with
    state := state
    terminationIntent := intent.orElse fun _ => activation.terminationIntent }

def transition (state : ContributionActivationStateV1)
    (intent : Option ContributionTerminationIntentV1) :
    Except DomainError ContributionActivationV1 := do
  activation.validate
  require (activation.state.mayBecome state)
    (.invalidTransition "contribution activation" activation.state.asStr state.asStr)
  let next := activation.moved state intent
  next.validate
  return next

def beginCommit :
    Except DomainError ContributionActivationV1 :=
  activation.transition .committing none

def beginCompensation (intent : ContributionTerminationIntentV1) :
    Except DomainError ContributionActivationV1 :=
  activation.transition .compensating (some intent)

def succeed :
    Except DomainError ContributionActivationV1 :=
  activation.transition .succeeded none

def finishAbort :
    Except DomainError ContributionActivationV1 :=
  activation.transition .aborted activation.terminationIntent

variable [RecordDigests] [VersionSyntax]

def prepare (activationId : String) (candidate : ContributionRevisionV1)
    (expectedHeadEtag : Option Sha256) : Except DomainError ContributionActivationV1 := do
  candidate.validate
  rejectIf (candidate.status ≠ .staged) "activation preparation requires a STAGED revision"
  let activation :=
    { activationId := activationId
      scopeId := candidate.scopeId
      serviceId := candidate.serviceId
      candidateRevisionId := candidate.revisionId
      previousRevisionId := candidate.previousRevisionId
      expectedHeadEtag := expectedHeadEtag
      state := .preparing
      terminationIntent := none : ContributionActivationV1 }
  activation.validate
  return activation

end ContributionActivationV1

inductive ProjectionTargetV1 where
  | apiRegistry | auth | gateway | userShell | adminShell
  deriving DecidableEq, Repr

namespace ProjectionTargetV1

def all : List ProjectionTargetV1 := [.apiRegistry, .auth, .gateway, .userShell, .adminShell]

def asStr : ProjectionTargetV1 → String
  | .apiRegistry => "API_REGISTRY"
  | .auth => "AUTH"
  | .gateway => "GATEWAY"
  | .userShell => "USER_SHELL"
  | .adminShell => "ADMIN_SHELL"

def rank : ProjectionTargetV1 → Nat
  | .apiRegistry => 0
  | .auth => 1
  | .gateway => 2
  | .userShell => 3
  | .adminShell => 4

theorem rank_injective : Function.Injective rank := by
  intro first second same
  cases first <;> cases second <;> first | rfl | cases same

instance : Ord ProjectionTargetV1 := ⟨compareOn rank⟩

instance : Std.TransOrd ProjectionTargetV1 :=
  inferInstanceAs (Std.TransCmp (compareOn rank))

instance : Std.LawfulEqOrd ProjectionTargetV1 where
  eq_of_compare same := rank_injective (Std.LawfulEqOrd.compare_eq_iff_eq.mp same)

end ProjectionTargetV1

inductive ProjectionReceiptStateV1 where
  | pending | staged | active | restored | failed | unknown
  deriving DecidableEq, Repr

def ProjectionReceiptStateV1.asStr : ProjectionReceiptStateV1 → String
  | .pending => "PENDING"
  | .staged => "STAGED"
  | .active => "ACTIVE"
  | .restored => "RESTORED"
  | .failed => "FAILED"
  | .unknown => "UNKNOWN"

/-- The transitions of a receipt; the repository has the same table. -/
def ProjectionReceiptStateV1.mayBecome :
    ProjectionReceiptStateV1 → ProjectionReceiptStateV1 → Bool
  | .pending, .staged | .pending, .failed | .pending, .unknown => true
  | .staged, .active | .staged, .restored | .staged, .failed | .staged, .unknown => true
  | .active, .restored | .active, .failed | .active, .unknown => true
  | .unknown, .staged | .unknown, .active | .unknown, .restored | .unknown, .failed => true
  | .failed, .restored | .failed, .unknown => true
  | .active, .active | .restored, .restored => true
  | _, _ => false

structure ProjectionReceiptV1 where
  activationId : String
  target : ProjectionTargetV1
  candidateRevisionId : Sha256
  previousRevisionId : Option Sha256
  candidateGeneration : Nat
  observedGeneration : Option Nat
  state : ProjectionReceiptStateV1
  (stagedDigest activeDigest : Option Sha256)
  lastError : Option String
  deriving DecidableEq, Repr

namespace ProjectionReceiptV1

/-- The part of `validate` about the observations that a state requires or forbids. -/
def validateObservations (receipt : ProjectionReceiptV1) : Except DomainError Unit :=
  match receipt.state with
  | .pending =>
    rejectIf (receipt.observedGeneration.isSome || receipt.stagedDigest.isSome ||
        receipt.activeDigest.isSome || receipt.lastError.isSome)
      "pending receipt cannot contain observations"
  | .staged => rejectIf receipt.stagedDigest.isNone "staged receipt requires staged_digest"
  | .active =>
    rejectIf (receipt.activeDigest.isNone ||
        receipt.observedGeneration ≠ some receipt.candidateGeneration)
      "active receipt requires active_digest and candidate observed generation"
  | .restored =>
    rejectIf (receipt.activeDigest.isNone || receipt.observedGeneration.isNone)
      "restored receipt requires the applied snapshot digest and observed generation"
  | .failed | .unknown =>
    rejectIf (receipt.lastError.all isBlank) "failed and unknown receipts require last_error"

def validate (receipt : ProjectionReceiptV1) : Except DomainError Unit := do
  validateStableIdentifier "receipt activation_id" receipt.activationId
  rejectIf (receipt.candidateGeneration = 0 || receipt.observedGeneration = some 0)
    "receipt generations must be greater than zero"
  receipt.validateObservations

def observed (receipt : ProjectionReceiptV1) (state : ProjectionReceiptStateV1)
    (observedGeneration : Option Nat) (stagedDigest activeDigest : Option Sha256)
    (lastError : Option String) :
    ProjectionReceiptV1 :=
  { receipt with
    state := state
    observedGeneration := observedGeneration
    stagedDigest := stagedDigest
    activeDigest := activeDigest
    lastError := lastError }

def record (receipt : ProjectionReceiptV1) (state : ProjectionReceiptStateV1)
    (observedGeneration : Option Nat) (stagedDigest activeDigest : Option Sha256)
    (lastError : Option String) :
    Except DomainError ProjectionReceiptV1 := do
  receipt.validate
  require (receipt.state.mayBecome state)
    (.invalidTransition "projection receipt" receipt.state.asStr state.asStr)
  let next := receipt.observed state observedGeneration stagedDigest activeDigest lastError
  next.validate
  return next

variable [RecordDigests] [VersionSyntax]

def pending (activationId : String) (candidate : ContributionRevisionV1)
    (target : ProjectionTargetV1) : Except DomainError ProjectionReceiptV1 := do
  candidate.validate
  let receipt :=
    { activationId := activationId
      target := target
      candidateRevisionId := candidate.revisionId
      previousRevisionId := candidate.previousRevisionId
      candidateGeneration := candidate.generation
      observedGeneration := none
      state := .pending
      stagedDigest := none
      activeDigest := none
      lastError := none : ProjectionReceiptV1 }
  receipt.validate
  return receipt

end ProjectionReceiptV1

end UntitledOJ
