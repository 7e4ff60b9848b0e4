import UntitledOJ.ContributionContent

/-!
# Contribution revisions and heads

A revision is immutable but for its status, and its identity is the digest of its content.  A head
moves forward by comparing tags, and an activation that failed later is compensated by pointing
the head back, or at an empty successor.
-/

namespace UntitledOJ

open Contribution

namespace Contribution

/-- `u64::checked_add(1)`. -/
def checkedSucc (value : Nat) : Option Nat :=
  if value + 1 < 2 ^ 64 then some (value + 1) else none

theorem checkedSucc_eq {value next : Nat} (added : checkedSucc value = some next) :
    next = value + 1 := by
  unfold checkedSucc at added
  split at added <;> simp_all

end Contribution

def contributionRevisionSchemaVersion : String := "ojos.dev/contribution-revision/v1"

inductive ContributionRevisionStatusV1 where
  | staged | active | retired | aborted
  deriving DecidableEq, Repr

def ContributionRevisionStatusV1.asStr : ContributionRevisionStatusV1 → String
  | .staged => "STAGED"
  | .active => "ACTIVE"
  | .retired => "RETIRED"
  | .aborted => "ABORTED"

/-- The content of a revision: `RevisionHashMaterial`. -/
structure RevisionHashMaterial where
  (scopeId deploymentId serviceId : String)
  (releaseDigest contractDigest : Sha256)
  generation : Nat
  previousRevisionId : Option Sha256
  apiSurfaces : List ContributionApiSurfaceV1
  operationRoutes : List ContributionOperationRouteV1
  permissionDefinitions : List ContributionPermissionDefinitionV1
  (userFrontendModules adminFrontendModules : List ContributionFrontendModuleV1)
  deriving DecidableEq, Repr

structure HeadHashMaterial where
  (scopeId serviceId : String)
  activeRevisionId : Sha256
  generation : Nat
  deriving DecidableEq, Repr

inductive HashedRecord where
  | revision (material : RevisionHashMaterial)
  | head (material : HeadHashMaterial)
  deriving DecidableEq, Repr

/-- `canonical_sha256`: SHA-256 of the serialized record. -/
class RecordDigests where
  canonicalSha256 : HashedRecord → Sha256

export RecordDigests (canonicalSha256)

/-- No two of the records have the same digest. -/
def CollisionFree [RecordDigests] (records : List HashedRecord) : Prop :=
  ∀ first ∈ records, ∀ second ∈ records,
    canonicalSha256 first = canonicalSha256 second → first = second
deriving Decidable

def sorted {α : Type} [Ord α] (items : List α) : List α :=
  items.insertionSort fun first second => (compare first second).isLE = true

def RevisionHashMaterial.canonicalized (content : RevisionHashMaterial) : RevisionHashMaterial :=
  { content with
    apiSurfaces := sorted content.apiSurfaces
    operationRoutes := sorted content.operationRoutes
    permissionDefinitions := sorted content.permissionDefinitions
    userFrontendModules := sorted content.userFrontendModules
    adminFrontendModules := sorted content.adminFrontendModules }

structure ContributionRevisionV1 extends RevisionHashMaterial where
  schemaVersion : String
  revisionId : Sha256
  status : ContributionRevisionStatusV1
  deriving DecidableEq, Repr

variable (revision : ContributionRevisionV1)

namespace ContributionRevisionV1

def withStatus (status : ContributionRevisionStatusV1) :
    ContributionRevisionV1 :=
  { revision with status := status }

variable [RecordDigests] [VersionSyntax]

def calculateRevisionId : Sha256 :=
  canonicalSha256 (.revision revision.toRevisionHashMaterial)

/-- Generation 1 starts a service; a later one may have no predecessor when the earlier ones were
aborted. -/
def validateLineage : Except DomainError Unit :=
  match revision.generation, revision.previousRevisionId with
  | 1, some _ => Contribution.invalid "generation 1 cannot have previous_revision_id"
  | _, _ => .ok ()

def validateContent : Except DomainError Unit := do
  validateStableIdentifier "scope_id" revision.scopeId
  validateStableIdentifier "deployment_id" revision.deploymentId
  Contribution.validateServiceId revision.serviceId
  rejectIf (revision.generation = 0) "generation must be greater than zero"
  revision.validateLineage
  validateDistinct ContributionApiSurfaceV1.apiId validateApiSurface (fun _ => .ok ())
    (fun surface => "duplicate API surface " ++ surface.apiId) [] revision.apiSurfaces
  validateDistinct ContributionPermissionDefinitionV1.key
    (validatePermissionDefinition revision.serviceId) (fun _ => .ok ())
    (fun permission => "duplicate permission definition " ++ permission.key) []
    revision.permissionDefinitions
  revision.operationRoutes.forM fun route => do
    validateOperationRoute route
    rejectIf (!(revision.apiSurfaces.map ContributionApiSurfaceV1.apiId).contains route.apiId)
      ("route operation " ++ route.operationId ++ " references undeclared API surface " ++
        route.apiId)
  validateRoutesDoNotOverlap revision.operationRoutes
  validateFrontendModules "user" revision.userFrontendModules
  validateFrontendModules "admin" revision.adminFrontendModules

def validate : Except DomainError Unit := do
  rejectIf (revision.schemaVersion ≠ contributionRevisionSchemaVersion)
    ("schema_version must be " ++ contributionRevisionSchemaVersion)
  revision.validateContent
  rejectIf (revision.revisionId ≠ revision.calculateRevisionId)
    "revision_id does not match immutable revision content"
  rejectIf (revision.canonicalized ≠ revision.toRevisionHashMaterial)
    "revision child contributions must use canonical ordering"

/-- The revision of the content with the given identity, before it is activated. -/
def staged (content : RevisionHashMaterial) (revisionId : Sha256) : ContributionRevisionV1 :=
  { toRevisionHashMaterial := content
    schemaVersion := contributionRevisionSchemaVersion
    revisionId := revisionId
    status := .staged }

def stage (content : RevisionHashMaterial) : Except DomainError ContributionRevisionV1 := do
  let ordered := content.canonicalized
  let revisionId := canonicalSha256 (.revision ordered)
  (staged ordered revisionId).validateContent
  (staged ordered revisionId).validate
  return staged ordered revisionId

def mayBecome : ContributionRevisionStatusV1 → ContributionRevisionStatusV1 → Bool
  | .staged, .active | .staged, .aborted | .active, .retired => true
  | _, _ => false

def transitionTo (target : ContributionRevisionStatusV1) :
    Except DomainError ContributionRevisionV1 := do
  revision.validate
  require (mayBecome revision.status target)
    (.invalidTransition "contribution revision" revision.status.asStr target.asStr)
  let next := revision.withStatus target
  next.validate
  return next

def activate : Except DomainError ContributionRevisionV1 :=
  revision.transitionTo .active

def retire : Except DomainError ContributionRevisionV1 :=
  revision.transitionTo .retired

def abort : Except DomainError ContributionRevisionV1 :=
  revision.transitionTo .aborted

end ContributionRevisionV1

structure ContributionHeadV1 extends HeadHashMaterial where
  etag : Sha256
  deriving DecidableEq, Repr

namespace ContributionHeadV1

variable [RecordDigests] [VersionSyntax]

def calculateEtag (head : ContributionHeadV1) : Sha256 :=
  canonicalSha256 (.head head.toHeadHashMaterial)

def validate (head : ContributionHeadV1) : Except DomainError Unit := do
  validateStableIdentifier "head scope_id" head.scopeId
  Contribution.validateServiceId head.serviceId
  rejectIf (head.generation = 0) "head generation must be greater than zero"
  rejectIf (head.etag ≠ head.calculateEtag) "head etag does not match immutable head content"

def naming (generation : Nat) : ContributionHeadV1 :=
  let material : HeadHashMaterial :=
    ⟨revision.scopeId, revision.serviceId, revision.revisionId, generation⟩
  ⟨material, canonicalSha256 (.head material)⟩

def fromActiveRevision :
    Except DomainError ContributionHeadV1 := do
  revision.validate
  rejectIf (revision.status ≠ .active) "contribution head requires an ACTIVE revision"
  let head := naming revision revision.generation
  head.validate
  return head

def restoredTo (generation : Nat) :
    Except DomainError ContributionHeadV1 := do
  revision.validate
  rejectIf (revision.status ≠ .active) "restored contribution head requires an ACTIVE revision"
  rejectIf (generation < revision.generation)
    "restored head generation cannot precede the revision generation"
  let head := naming revision generation
  head.validate
  return head

end ContributionHeadV1

variable [RecordDigests] [VersionSyntax]

/-- The part of the compare-and-swap about the head that is there. -/
def extendsHead (current : Option ContributionHeadV1) (revision : ContributionRevisionV1) :
    Except DomainError Unit :=
  match current with
  | none =>
    rejectIf revision.previousRevisionId.isSome
      "initial head CAS cannot name a previous revision"
  | some head => do
      head.validate
      rejectIf (head.scopeId ≠ revision.scopeId || head.serviceId ≠ revision.serviceId)
        "head and candidate revision identities do not match"
      rejectIf (revision.generation ≤ head.generation)
        ("candidate generation must be greater than " ++ toString head.generation)
      rejectIf (revision.previousRevisionId ≠ some head.activeRevisionId)
        "candidate previous_revision_id must match the current head"

def compareAndSwapContributionHead (current : Option ContributionHeadV1)
    (expectedEtag : Option Sha256) (activeRevision : ContributionRevisionV1) :
    Except DomainError ContributionHeadV1 := do
  activeRevision.validate
  rejectIf (activeRevision.status ≠ .active) "head CAS requires an ACTIVE candidate revision"
  let actual := current.map ContributionHeadV1.etag
  require (expectedEtag = actual) (.casConflict expectedEtag actual)
  extendsHead current activeRevision
  ContributionHeadV1.fromActiveRevision activeRevision

structure ContributionHeadRestoreV1 where
  head : ContributionHeadV1
  (restoredRevision retiredCandidate : ContributionRevisionV1)

structure ContributionHeadClearV1 where
  head : ContributionHeadV1
  (tombstoneRevision retiredCandidate : ContributionRevisionV1)

/-- `restore_contribution_head`: the generation of the head is kept. -/
def restoreContributionHead (current : ContributionHeadV1) (expectedCandidateEtag : Sha256)
    (candidate previous : ContributionRevisionV1) :
    Except DomainError ContributionHeadRestoreV1 := do
  current.validate
  candidate.validate
  previous.validate
  require (current.etag = expectedCandidateEtag)
    (.casConflict (some expectedCandidateEtag) (some current.etag))
  rejectIf (candidate.status ≠ .active)
    "head restore requires the candidate revision to be ACTIVE"
  rejectIf (!(previous.status = .active || previous.status = .retired))
    "head restore requires the previous revision to be ACTIVE or RETIRED"
  rejectIf (current.scopeId ≠ candidate.scopeId || current.serviceId ≠ candidate.serviceId ||
      current.scopeId ≠ previous.scopeId || current.serviceId ≠ previous.serviceId)
    "head restore identities do not match"
  rejectIf (current.activeRevisionId ≠ candidate.revisionId ||
      current.generation ≠ candidate.generation)
    "current head must reference the exact ACTIVE candidate generation"
  rejectIf (candidate.previousRevisionId ≠ some previous.revisionId)
    "candidate previous_revision_id must identify the restored revision"
  rejectIf (previous.generation ≥ candidate.generation)
    "restored revision generation must precede the candidate generation"
  let retiredCandidate ← candidate.retire
  let restoredRevision := previous.withStatus .active
  restoredRevision.validate
  let head ← ContributionHeadV1.restoredTo restoredRevision current.generation
  return ⟨head, restoredRevision, retiredCandidate⟩

/-- The empty successor of a first candidate. -/
def tombstoneContent (candidate : ContributionRevisionV1) (generation : Nat) :
    RevisionHashMaterial :=
  { candidate.toRevisionHashMaterial with
    generation := generation
    previousRevisionId := some candidate.revisionId
    apiSurfaces := []
    operationRoutes := []
    permissionDefinitions := []
    userFrontendModules := []
    adminFrontendModules := [] }

def clearInitialContributionHead (current : ContributionHeadV1) (expectedCandidateEtag : Sha256)
    (candidate : ContributionRevisionV1) : Except DomainError ContributionHeadClearV1 := do
  current.validate
  candidate.validate
  require (current.etag = expectedCandidateEtag)
    (.casConflict (some expectedCandidateEtag) (some current.etag))
  rejectIf (candidate.status ≠ .active || candidate.previousRevisionId.isSome ||
      current.activeRevisionId ≠ candidate.revisionId || current.scopeId ≠ candidate.scopeId ||
      current.serviceId ≠ candidate.serviceId || current.generation ≠ candidate.generation)
    "initial head clear requires the exact first ACTIVE candidate head"
  match checkedSucc current.generation with
  | none => Contribution.invalid "head generation overflow"
  | some generation =>
    let staged ← ContributionRevisionV1.stage (tombstoneContent candidate generation)
    let tombstoneRevision ← staged.activate
    let head ← compareAndSwapContributionHead (some current) (some expectedCandidateEtag)
      tombstoneRevision
    let retiredCandidate ← candidate.retire
    return ⟨head, tombstoneRevision, retiredCandidate⟩

structure ContributionRouteCollisionV1 where
  (candidateRevisionId existingRevisionId : Sha256)
  audience : ContributionAudienceV1
  (candidateMethod existingMethod : ContributionHttpMethodV1)
  (candidatePath existingPath candidateOperationId existingOperationId : String)
  deriving DecidableEq, Repr

/-- The keys by which `stage_route_collisions` sorts. -/
def ContributionRouteCollisionV1.precedes (first second : ContributionRouteCollisionV1) : Bool :=
  ((compare first.existingRevisionId second.existingRevisionId).then
    ((compare first.audience second.audience).then
      ((compare first.candidateMethod second.candidateMethod).then
        ((compare first.candidatePath second.candidatePath).then
          (compare first.existingPath second.existingPath))))).isLE

/-- The revision holds its routes: it is staged or active. -/
def ContributionRevisionStatusV1.isLive : ContributionRevisionStatusV1 → Bool
  | .staged | .active => true
  | .retired | .aborted => false

def mustAvoid (candidate revision : ContributionRevisionV1) : Bool :=
  !(revision.scopeId ≠ candidate.scopeId || revision.revisionId = candidate.revisionId ||
    candidate.previousRevisionId = some revision.revisionId || !revision.status.isLive)

def routeCollision (candidate revision : ContributionRevisionV1)
    (candidateRoute existingRoute : ContributionOperationRouteV1) :
    Except DomainError (List ContributionRouteCollisionV1) := do
  let conflict ← candidateRoute.conflictsWith existingRoute
  return if conflict then
    [⟨candidate.revisionId, revision.revisionId, candidateRoute.audience, candidateRoute.method,
      existingRoute.method, candidateRoute.path, existingRoute.path, candidateRoute.operationId,
      existingRoute.operationId⟩]
  else []

def revisionCollisions (candidate revision : ContributionRevisionV1) :
    Except DomainError (List ContributionRouteCollisionV1) := do
  let found ← candidate.operationRoutes.mapM fun candidateRoute =>
    revision.operationRoutes.mapM fun existingRoute =>
      routeCollision candidate revision candidateRoute existingRoute
  return found.flatten.flatten

def stageRouteCollisions (candidate : ContributionRevisionV1)
    (existing : List ContributionRevisionV1) :
    Except DomainError (List ContributionRouteCollisionV1) := do
  candidate.validate
  rejectIf (candidate.status ≠ .staged) "stage collision detection requires a STAGED candidate"
  let found ← existing.mapM fun revision => do
    revision.validate
    if mustAvoid candidate revision then revisionCollisions candidate revision else return []
  return found.flatten.insertionSort fun first second => first.precedes second = true

end UntitledOJ
