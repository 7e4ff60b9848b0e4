import UntitledOJ.ControlPlaneJob
import UntitledOJ.Saturation

/-!
# Durable operations

The record of one long operation (its plan, the bindings of planned steps to durable jobs, and the
projected status) and the pure functions of `operation.rs` over it.
-/

namespace UntitledOJ

def operationSchemaVersion : Nat := 1

inductive DurableOperationMode where
  | apply
  | rollback
  deriving DecidableEq, Repr

inductive DurableOperationStatus where
  | planned | confirmed | enqueuing | running | cancelling | succeeded | failed | cancelled
  | needsAttention | rolledBack
  deriving DecidableEq, Repr

namespace DurableOperationStatus

def isTerminal : DurableOperationStatus → Bool
  | .succeeded | .failed | .cancelled | .needsAttention | .rolledBack => true
  | _ => false

def isRecoverable : DurableOperationStatus → Bool
  | .enqueuing | .running | .cancelling | .confirmed => true
  | _ => false

def debugName : DurableOperationStatus → String
  | .planned => "Planned"
  | .confirmed => "Confirmed"
  | .enqueuing => "Enqueuing"
  | .running => "Running"
  | .cancelling => "Cancelling"
  | .succeeded => "Succeeded"
  | .failed => "Failed"
  | .cancelled => "Cancelled"
  | .needsAttention => "NeedsAttention"
  | .rolledBack => "RolledBack"

end DurableOperationStatus

def JobStatus.debugName : JobStatus → String
  | .queued => "Queued"
  | .leased => "Leased"
  | .retryWait => "RetryWait"
  | .cancelRequested => "CancelRequested"
  | .succeeded => "Succeeded"
  | .failed => "Failed"
  | .cancelled => "Cancelled"
  | .needsAttention => "NeedsAttention"

inductive PlannedJobCondition where
  | onSuccess
  | onFailure
  deriving DecidableEq, Repr

def PlannedJobCondition.name : PlannedJobCondition → String
  | .onSuccess => "ON_SUCCESS"
  | .onFailure => "ON_FAILURE"

structure PlannedJob where
  (stepId nodeId : String)
  kind : JobKind
  dependsOn : List String
  condition : PlannedJobCondition
  payload : Value
  maxAttempts : Nat
  deriving DecidableEq

structure PlanOperation where
  (operationId action targetType targetId : String)
  request : Value
  jobs : List PlannedJob
  deriving DecidableEq

structure JobBinding where
  stepId : String
  generation : Nat
  (jobId idempotencyKey : String)
  deriving DecidableEq, Repr

/-- The status of a step in the projected result: that of its job, or why it
has none. -/
inductive StepStatus where
  | job (status : JobStatus)
  | dormant | skipped | blocked | unknown
  deriving DecidableEq, Repr

structure StepProjection where
  jobId : Option String
  status : StepStatus
  attempt : Nat
  result : Value
  errorMessage : Option String
  deriving DecidableEq

/-- The projected result: one member for each planned step, in plan order. -/
abbrev OperationResult := List (String × StepProjection)

structure DurableOperation where
  schemaVersion : Nat
  operationId : String
  mode : DurableOperationMode
  rollbackOfOperationId : Option String
  (action targetType targetId : String)
  status : DurableOperationStatus
  request : Value
  planSha256 : String
  plannedJobs : List PlannedJob
  jobBindings : List JobBinding
  (pendingStepIds attentionJobIds : List String)
  generation : Nat
  revision : Nat
  result : OperationResult
  errorMessage : String
  createdAtMs : Int
  updatedAtMs : Int
  (confirmedAtMs startedAtMs finishedAtMs : Option Int)
  deriving DecidableEq

/-- `max_by_key` on the generation: the last binding of the newest
generation. -/
def newestBinding : List JobBinding → Option JobBinding
  | [] => none
  | binding :: rest =>
    match newestBinding rest with
    | some newest =>
      if binding.generation ≤ newest.generation then some newest else some binding
    | none => some binding

namespace DurableOperation

def activeBinding (operation : DurableOperation) (stepId : String) : Option JobBinding :=
  newestBinding (operation.jobBindings.filter fun binding => binding.stepId = stepId)

def findPlanned (operation : DurableOperation) (stepId : String) : Option PlannedJob :=
  operation.plannedJobs.find? fun planned => planned.stepId = stepId

end DurableOperation

inductive OperationStoreError where
  | notFound (operationId : String)
  | alreadyExists (operationId : String)
  | revisionConflict (expected actual : Nat)
  | invariant (message : String)
  deriving DecidableEq, Repr

inductive OperationError where
  | store (error : OperationStoreError)
  | job (error : JobError)
  | notFound (operationId : String)
  | idempotencyConflict
  | invalidPlan (message : String)
  | invalidTransition (source : DurableOperationStatus) (action : String)
  deriving DecidableEq, Repr

/-- The first loop of `validate_plan`. -/
def checkPlannedSteps : Finset String → List PlannedJob → Except OperationError (Finset String)
  | stepIds, [] => .ok stepIds
  | stepIds, job :: rest =>
    if isBlank job.stepId || isBlank job.nodeId then
      .error (.invalidPlan "every job requires step_id and node_id")
    else if job.maxAttempts = 0 then
      .error (.invalidPlan ("step " ++ job.stepId ++ " has zero max_attempts"))
    else if job.stepId ∈ stepIds then
      .error (.invalidPlan ("duplicate step_id " ++ job.stepId))
    else checkPlannedSteps (insert job.stepId stepIds) rest

/-- The inner loop over the dependencies of one step. -/
def checkDependencies (stepIds : Finset String) (job : PlannedJob) :
    Finset String → List String → Except OperationError Unit
  | _, [] => .ok ()
  | seen, dependency :: rest =>
    if dependency = job.stepId ∨ dependency ∉ stepIds then
      .error (.invalidPlan
        ("step " ++ job.stepId ++ " has unknown or self dependency " ++ dependency))
    else if dependency ∈ seen then
      .error (.invalidPlan ("step " ++ job.stepId ++ " repeats dependency " ++ dependency))
    else checkDependencies stepIds job (insert dependency seen) rest

/-- The second loop of `validate_plan`. -/
def checkPlannedDependencies (stepIds : Finset String) :
    List PlannedJob → Except OperationError Unit
  | [] => .ok ()
  | job :: rest => do
      checkDependencies stepIds job ∅ job.dependsOn
      if job.condition = .onFailure ∧ job.dependsOn = [] then
        .error (.invalidPlan
          ("ON_FAILURE step " ++ job.stepId ++ " requires at least one dependency"))
      else checkPlannedDependencies stepIds rest

def resolvePass (jobs : List PlannedJob) : Finset String → Finset String :=
  saturatePass PlannedJob.stepId
    (fun job found => job.stepId ∉ found && job.dependsOn.all (· ∈ found)) jobs

/-- Resolve steps round by round until all are resolved or nothing moves; `none` where the rounds
given to the loop are used up before it has ended. -/
def resolveLoop (jobs : List PlannedJob) :
    Nat → Finset String → Option (Except OperationError Unit)
  | 0, _ => none
  | rounds + 1, resolved =>
    let grown := resolvePass jobs resolved
    if grown.card = jobs.length then some (.ok ())
    else if grown.card = resolved.card then
      some (.error (.invalidPlan "planned job dependency graph contains a cycle"))
    else resolveLoop jobs rounds grown

theorem resolvePass_subset {jobs : List PlannedJob} {resolved : Finset String}
    (contained : resolved ⊆ (jobs.map PlannedJob.stepId).toFinset) :
    resolvePass jobs resolved ⊆ (jobs.map PlannedJob.stepId).toFinset := by
  apply saturatePass_induction (motive := (· ⊆ (jobs.map PlannedJob.stepId).toFinset)) contained
  intro job member current within _
  exact Finset.insert_subset (List.mem_toFinset.mpr (List.mem_map_of_mem member)) within

/-- The loop ends within a round for every step left to resolve, and one more. -/
theorem resolveLoop_exits {jobs : List PlannedJob} {resolved : Finset String} {rounds : Nat}
    (contained : resolved ⊆ (jobs.map PlannedJob.stepId).toFinset)
    (enough : jobs.length < resolved.card + rounds) :
    (resolveLoop jobs rounds resolved).isSome = true := by
  induction rounds generalizing resolved with
  | zero =>
    have atMost := (Finset.card_le_card contained).trans (List.toFinset_card_le _)
    simp only [List.length_map] at atMost
    omega
  | succ rounds ih =>
    have grows : resolved.card ≤ (resolvePass jobs resolved).card :=
      Finset.card_le_card (subset_saturatePass jobs resolved)
    simp only [resolveLoop]
    split_ifs with all stuck
    · rfl
    · rfl
    · exact ih (resolvePass_subset contained) (by omega)

def validatePlan (plan : PlanOperation) : Except OperationError Unit := do
  if isBlank plan.operationId || isBlank plan.action || isBlank plan.targetType ||
      isBlank plan.targetId then
    .error (.invalidPlan "operation_id, action, target_type, and target_id are required")
  else if plan.jobs = [] then
    .error (.invalidPlan "an executable operation requires at least one job")
  else
    let stepIds ← checkPlannedSteps ∅ plan.jobs
    checkPlannedDependencies stepIds plan.jobs
    (resolveLoop plan.jobs (plan.jobs.length + 1) ∅).get
      (resolveLoop_exits (Finset.empty_subset _) (Nat.lt_add_left _ (Nat.lt_succ_self _)))

variable [Digests]

/-- The text hashed into a job id; the separator is the NUL character. -/
def jobIdSource (operationId : String) (generation : Nat) (planned : PlannedJob) : String :=
  operationId ++ "\x00" ++ toString generation ++ "\x00" ++ planned.stepId ++ "\x00" ++
    planned.nodeId

def stepIdempotencyKey (operationId : String) (generation : Nat) (stepId : String) : String :=
  "operation/" ++ operationId ++ "/generation/" ++ toString generation ++ "/step/" ++ stepId

def bindingAt (operationId : String) (generation : Nat) (planned : PlannedJob) : JobBinding :=
  let digest := Digests.sha256Hex (jobIdSource operationId generation planned)
  { stepId := planned.stepId
    generation
    jobId := "job-" ++ String.ofList (digest.toList.take 32)
    idempotencyKey := stepIdempotencyKey operationId generation planned.stepId }

def bindingFor (operation : DurableOperation) (planned : PlannedJob) : JobBinding :=
  bindingAt operation.operationId operation.generation planned

@[simp]
theorem bindingFor_generation (operation : DurableOperation) (planned : PlannedJob) :
    (bindingFor operation planned).generation = operation.generation :=
  rfl

def newJobFor (operation : DurableOperation) (planned : PlannedJob) : NewJob :=
  { jobId := (bindingFor operation planned).jobId
    operationId := operation.operationId
    nodeId := planned.nodeId
    kind := planned.kind
    payload := planned.payload
    idempotencyKey := (bindingFor operation planned).idempotencyKey
    maxAttempts := planned.maxAttempts }

def PlannedJob.toValue (planned : PlannedJob) : Value :=
  .object
    [("condition", .string planned.condition.name),
      ("depends_on", .array (planned.dependsOn.map .string)),
      ("kind", .string planned.kind.name),
      ("max_attempts", .number planned.maxAttempts),
      ("node_id", .string planned.nodeId),
      ("payload", planned.payload),
      ("step_id", .string planned.stepId)]

def PlanOperation.toValue (plan : PlanOperation) : Value :=
  .object
    [("action", .string plan.action),
      ("jobs", .array (plan.jobs.map PlannedJob.toValue)),
      ("operation_id", .string plan.operationId),
      ("request", plan.request),
      ("target_id", .string plan.targetId),
      ("target_type", .string plan.targetType)]

def planSha256 (plan : PlanOperation) : String :=
  canonicalPayloadSha256 plan.toValue

/-- The loop of `compensation_step_ids`; a step joins at once, and rounds repeat until one adds
nothing. -/
def compensationLoop (plannedJobs : List PlannedJob) : Nat → Finset String → Finset String :=
  saturate PlannedJob.stepId
    (fun planned found => planned.dependsOn.any (· ∈ found)) plannedJobs

/-- `compensation_step_ids`: the ON_FAILURE steps and the cleanup steps that depend on them. -/
def compensationStepIds (operation : DurableOperation) : Finset String :=
  let plannedJobs := operation.plannedJobs
  let roots := plannedJobs.filter fun planned => planned.condition = .onFailure
  compensationLoop plannedJobs (plannedJobs.length + 1) (roots.map PlannedJob.stepId).toFinset

def hasBlockedPendingCompensation (operation : DurableOperation) (result : OperationResult) :
    Bool :=
  operation.pendingStepIds.any fun stepId =>
    stepId ∈ compensationStepIds operation &&
      result.any fun member => member.1 = stepId && member.2.status = .blocked

def validateDurableOperation (operation : DurableOperation) : Except OperationStoreError Unit :=
  if operation.schemaVersion ≠ operationSchemaVersion then
    .error (.invariant
      ("unsupported operation schema version " ++ toString operation.schemaVersion))
  -- `revision as u32` truncates
  else if operation.revision = 0 ∨ operation.generation > operation.revision % 2 ^ 32 then
    .error (.invariant "operation revision/generation is invalid")
  else
    let plannedSteps := (operation.plannedJobs.map PlannedJob.stepId).toFinset
    if plannedSteps.card ≠ operation.plannedJobs.length ∨
        operation.pendingStepIds.any (· ∉ plannedSteps) ∨
        operation.jobBindings.any (fun binding => binding.stepId ∉ plannedSteps) then
      .error (.invariant "operation contains duplicate or unknown job steps")
    else .ok ()

def ensureImmutableFields (current next : DurableOperation) : Except OperationStoreError Unit :=
  if current.schemaVersion ≠ next.schemaVersion ∨ current.operationId ≠ next.operationId ∨
      current.mode ≠ next.mode ∨
      current.rollbackOfOperationId ≠ next.rollbackOfOperationId ∨
      current.action ≠ next.action ∨ current.targetType ≠ next.targetType ∨
      current.targetId ≠ next.targetId ∨ current.request ≠ next.request ∨
      current.planSha256 ≠ next.planSha256 ∨ current.plannedJobs ≠ next.plannedJobs ∨
      current.createdAtMs ≠ next.createdAtMs then
    .error (.invariant "immutable operation plan fields changed")
  else if next.generation < current.generation ∨ next.generation > current.generation + 1 then
    .error (.invariant "operation generation must be monotonic")
  else .ok ()

def validStatusTransition (source target : DurableOperationStatus) : Bool :=
  source = target ||
    match source, target with
    | .planned, .confirmed | .planned, .cancelled
    | .confirmed, .enqueuing | .confirmed, .cancelled
    | .enqueuing, .running | .enqueuing, .cancelling | .enqueuing, .needsAttention
    | .running, .cancelling | .running, .succeeded | .running, .failed
    | .running, .cancelled | .running, .needsAttention | .running, .rolledBack
    | .cancelling, .cancelled | .cancelling, .failed | .cancelling, .needsAttention
    | .failed, .enqueuing => true
    | _, _ => false

def validateDurableOperationUpdate (current : DurableOperation) (expectedRevision : Nat)
    (next : DurableOperation) : Except OperationStoreError Unit := do
  validateDurableOperation next
  if current.revision ≠ expectedRevision then
    .error (.revisionConflict expectedRevision current.revision)
  else if next.revision ≠ expectedRevision + 1 then
    .error (.invariant "a compare-and-swap must increment revision exactly once")
  else
    ensureImmutableFields current next
    if !validStatusTransition current.status next.status then
      .error (.invariant ("invalid durable status transition from " ++
        current.status.debugName ++ " to " ++ next.status.debugName))
    else .ok ()

def operationFromPlan (plan : PlanOperation) (mode : DurableOperationMode)
    (rollbackOfOperationId : Option String) (planSha256 : String) (nowMs : Int) :
    DurableOperation :=
  { schemaVersion := operationSchemaVersion
    operationId := plan.operationId
    mode
    rollbackOfOperationId
    action := plan.action
    targetType := plan.targetType
    targetId := plan.targetId
    status := .planned
    request := plan.request
    planSha256
    plannedJobs := plan.jobs
    jobBindings := []
    pendingStepIds := plan.jobs.map PlannedJob.stepId
    attentionJobIds := []
    generation := 0
    revision := 1
    result := []
    errorMessage := ""
    createdAtMs := nowMs
    updatedAtMs := nowMs
    confirmedAtMs := none
    startedAtMs := none
    finishedAtMs := none }

def jobProjection (job : Job) : StepProjection :=
  { jobId := some job.jobId
    status := .job job.status
    attempt := job.attempt
    result := job.result.getD .null
    errorMessage := job.errorMessage }

def joblessProjection (status : StepStatus) : StepProjection :=
  { jobId := none, status, attempt := 0, result := .null, errorMessage := none }

end UntitledOJ
