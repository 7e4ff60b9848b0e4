import UntitledOJ.AtomicProgram
import UntitledOJ.MemoryJobStore
import UntitledOJ.MemoryOperationStore
import Std.Data.TreeSet.Lemmas

/-!
# The operation coordinator

`OperationCoordinator` plans operations, materializes their steps as durable jobs, and projects job
outcomes back.  Each entry point is a program of the atomic calls that the source makes.
-/

namespace UntitledOJ

open Program (anyItem forEach)

structure Stores where
  operations : MemoryOperationStore
  jobs : MemoryJobStore

inductive StoreCall where
  | createOperation (operation : DurableOperation)
  | getOperation (operationId : String)
  | compareAndSwap (expectedRevision : Nat) (operation : DurableOperation)
  | recoverable
  | enqueueJob (job : NewJob) (nowMs : Int)
  | requestCancel (jobId : String) (nowMs : Int)
  | recoverExpired (nowMs : Int)
  | getJob (jobId : String)

@[reducible]
def StoreCall.Reply : StoreCall → Type
  | .createOperation _ => Except OperationStoreError DurableOperation
  | .getOperation _ => Option DurableOperation
  | .compareAndSwap _ _ => Except OperationStoreError DurableOperation
  | .recoverable => List DurableOperation
  | .enqueueJob _ _ => Except JobError Job
  | .requestCancel _ _ => Except JobError Job
  | .recoverExpired _ => List Job
  | .getJob _ => Option Job

/-- Why a coordinator call stops early: an error of the source, or the model's bound on the
cancelling loop. -/
inductive Abort where
  | error (error : OperationError)
  | outOfFuel
  deriving DecidableEq, Repr

abbrev Coordinated := Program Abort StoreCall.Reply

structure Projection where
  status : DurableOperationStatus
  result : OperationResult
  errorMessage : String
  deriving DecidableEq

structure RunningVerdict where
  job : Option Job
  projection : StepProjection

structure CancellingVerdict where
  job : Option Job
  projection : StepProjection
  forwardPending : Bool
  compensationPending : Bool
  attentionReason : Option String

variable [Digests]

def StoreCall.exec : (request : StoreCall) → Stores → StoreCall.Reply request × Stores
  | .createOperation operation, stores =>
    let (reply, operations) := stores.operations.create operation
    (reply, { stores with operations })
  | .getOperation operationId, stores => (stores.operations.get operationId, stores)
  | .compareAndSwap expectedRevision operation, stores =>
    let (reply, operations) := stores.operations.compareAndSwap expectedRevision operation
    (reply, { stores with operations })
  | .recoverable, stores => (stores.operations.recoverable, stores)
  | .enqueueJob job nowMs, stores =>
    let (reply, jobs) := stores.jobs.enqueue job nowMs
    (reply, { stores with jobs })
  | .requestCancel jobId nowMs, stores =>
    let (reply, jobs) := stores.jobs.requestCancel jobId nowMs
    (reply, { stores with jobs })
  | .recoverExpired nowMs, stores =>
    let (reply, jobs) := stores.jobs.recoverExpired nowMs
    (reply, { stores with jobs })
  | .getJob jobId, stores => (stores.jobs.get jobId, stores)

def raise {α : Type} (error : OperationError) : Coordinated α :=
  .fail (.error error)

def callStore (request : StoreCall) : Coordinated request.Reply :=
  Program.perform request

def getJob (jobId : String) : Coordinated (Option Job) :=
  callStore (.getJob jobId)

def requiredJob (jobId : String) : Coordinated Job := do
  match ← getJob jobId with
  | some job => pure job
  | none => raise (.job (.notFound jobId))

def required (operationId : String) : Coordinated DurableOperation := do
  match ← callStore (.getOperation operationId) with
  | some operation => pure operation
  | none => raise (.notFound operationId)

def DurableOperation.revised (operation : DurableOperation) (nowMs : Int) : DurableOperation :=
  { operation with revision := operation.revision + 1, updatedAtMs := nowMs }

def save (operation : DurableOperation) (nowMs : Int) : Coordinated DurableOperation := do
  match ← callStore (.compareAndSwap operation.revision (operation.revised nowMs)) with
  | .ok saved => pure saved
  | .error error => raise (.store error)

def create (operation : DurableOperation) : Coordinated DurableOperation := do
  match ← callStore (.createOperation operation) with
  | .ok created => pure created
  | .error error => raise (.store error)

def enqueueJob (job : NewJob) (nowMs : Int) : Coordinated Job := do
  match ← callStore (.enqueueJob job nowMs) with
  | .ok stored => pure stored
  | .error error => raise (.job error)

def requestCancel (jobId : String) (nowMs : Int) : Coordinated Job := do
  match ← callStore (.requestCancel jobId nowMs) with
  | .ok job => pure job
  | .error error => raise (.job error)

/-- The job behind the active binding, or behind the identity of a pending step whose binding may
not be saved. -/
def materializedJob (operation : DurableOperation) (planned : PlannedJob) :
    Coordinated (Option Job) :=
  match operation.activeBinding planned.stepId with
  | some binding => getJob binding.jobId
  | none =>
    if planned.stepId ∈ operation.pendingStepIds then
      getJob (bindingFor operation planned).jobId
    else pure none

/-- `step_has_materialized_evidence`; the `visiting` set never outgrows the plan, so the fuel is
never used up. -/
def stepHasMaterializedEvidence (operation : DurableOperation) :
    Nat → Finset String → String → Coordinated Bool
  | 0, _, _ => pure false
  | fuel + 1, visiting, stepId =>
    if stepId ∈ visiting then pure false
    else
      match operation.findPlanned stepId with
      | none => raise (.invalidPlan ("unknown planned step " ++ stepId))
      | some planned =>
        let descend := anyItem
          (stepHasMaterializedEvidence operation fuel (insert stepId visiting))
          planned.dependsOn
        if (operation.activeBinding stepId).isSome then pure true
        else if planned.stepId ∈ operation.pendingStepIds then do
          if (← getJob (bindingFor operation planned).jobId).isSome then pure true
          else descend
        else descend

def cancellationCompensationApplicable (operation : DurableOperation) (planned : PlannedJob) :
    Coordinated Bool :=
  anyItem
    (stepHasMaterializedEvidence operation (operation.plannedJobs.length + 1) ∅)
    planned.dependsOn

def forwardJobLive (operation : DurableOperation) (planned : PlannedJob) : Coordinated Bool :=
  if planned.stepId ∈ compensationStepIds operation then pure false
  else do
    match ← materializedJob operation planned with
    | some job => pure !job.status.isTerminal
    | none => pure false

def compensatorDependencyBlocks (operation : DurableOperation) (planned : PlannedJob)
    (dependencyId : String) : Coordinated Bool :=
  match operation.findPlanned dependencyId with
  | none =>
    raise (.invalidPlan
      ("step " ++ planned.stepId ++ " depends on unknown step " ++ dependencyId))
  | some dependency => do
      match ← materializedJob operation dependency with
      | some job => pure (job.status = .needsAttention || !job.status.isTerminal)
      | none =>
        if dependencyId ∈ compensationStepIds operation then
          cancellationCompensationApplicable operation dependency
        else pure false

def cancellationCompensatorReady (operation : DurableOperation) (planned : PlannedJob) :
    Coordinated Bool := do
  if !(← cancellationCompensationApplicable operation planned) then pure false
  -- never race compensation against a forward job of unknown outcome
  else if ← anyItem (forwardJobLive operation) operation.plannedJobs then pure false
  else do
    let blocked ← anyItem (compensatorDependencyBlocks operation planned)
      planned.dependsOn
    pure !blocked

/-- The statuses of the bound dependencies; an unbound one is skipped for an ON_FAILURE step and
ends the scan of an ON_SUCCESS step. -/
def dependencyStatuses (operation : DurableOperation) (condition : PlannedJobCondition) :
    List String → Coordinated (Option (List JobStatus))
  | [] => pure (some [])
  | dependency :: rest =>
    match operation.activeBinding dependency with
    | none =>
      if condition = .onSuccess then pure none
      else dependencyStatuses operation condition rest
    | some binding => do
        let job ← requiredJob binding.jobId
        let statuses ← dependencyStatuses operation condition rest
        pure (statuses.map (job.status :: ·))

/-- The readiness rule over the statuses of the bound dependencies. -/
def statusesReady (planned : PlannedJob) (statuses : List JobStatus) : Bool :=
  match planned.condition with
  | .onSuccess =>
    statuses.length = planned.dependsOn.length && statuses.all (· = .succeeded)
  | .onFailure =>
    !statuses.contains .needsAttention && statuses.all JobStatus.isTerminal &&
      statuses.any JobStatus.isFailure

def plannedJobReady (operation : DurableOperation) (planned : PlannedJob) : Coordinated Bool :=
  if operation.status = .cancelling ∧ planned.condition = .onFailure then
    cancellationCompensatorReady operation planned
  else if planned.dependsOn = [] then pure (planned.condition = .onSuccess)
  else do
    match ← dependencyStatuses operation planned.condition planned.dependsOn with
    | none => pure false
    | some statuses => pure (statusesReady planned statuses)

/-- The dependency loop of `planned_step_is_impossible`; `recurse` decides an
unbound dependency. -/
def impossibleFrom (operation : DurableOperation) (planned : PlannedJob)
    (recurse : PlannedJob → Coordinated Bool) : Bool → List String → Coordinated Bool
  | observedFailure, [] =>
    match planned.condition with
    | .onSuccess => pure false
    | .onFailure => pure !observedFailure
  | observedFailure, dependencyId :: rest =>
    match operation.activeBinding dependencyId with
    | some binding => do
        let job ← requiredJob binding.jobId
        match planned.condition with
        | .onSuccess =>
          if job.status.isTerminal ∧ job.status ≠ .succeeded then pure true
          else impossibleFrom operation planned recurse observedFailure rest
        | .onFailure =>
          if !job.status.isTerminal then pure false
          else if job.status = .needsAttention then pure true
          else
            impossibleFrom operation planned recurse
              (observedFailure || job.status.isFailure) rest
    | none =>
      match operation.findPlanned dependencyId with
      | none =>
        raise (.invalidPlan
          ("step " ++ planned.stepId ++ " depends on unknown step " ++ dependencyId))
      | some dependency => do
          if ← recurse dependency then
            -- a skipped branch cannot satisfy ON_SUCCESS, but is terminal
            -- for deciding whether another ON_FAILURE branch can still run
            if planned.condition = .onSuccess then pure true
            else impossibleFrom operation planned recurse observedFailure rest
          else if planned.condition = .onFailure then pure false
          else impossibleFrom operation planned recurse observedFailure rest

def plannedStepIsImpossible (operation : DurableOperation) :
    Nat → Finset String → PlannedJob → Coordinated Bool
  | 0, _, planned =>
    raise (.invalidPlan ("dependency cycle reaches step " ++ planned.stepId))
  | fuel + 1, visiting, planned =>
    if planned.stepId ∈ visiting then
      raise (.invalidPlan ("dependency cycle reaches step " ++ planned.stepId))
    else
      impossibleFrom operation planned
        (plannedStepIsImpossible operation fuel (insert planned.stepId visiting))
        false planned.dependsOn

/-- `planned_step_is_impossible` from an empty visiting set. -/
def stepIsImpossible (operation : DurableOperation) (planned : PlannedJob) : Coordinated Bool :=
  plannedStepIsImpossible operation (operation.plannedJobs.length + 1) ∅ planned

/-- The first loop of `materialize_pending`: the pending steps that are ready.
Cancellation freezes the forward graph. -/
def readySteps (operation : DurableOperation) : List String → Coordinated (List String)
  | [] => pure []
  | stepId :: rest =>
    if operation.status = .cancelling ∧ stepId ∉ compensationStepIds operation then
      readySteps operation rest
    else
      match operation.findPlanned stepId with
      | none => raise (.invalidPlan ("unknown pending step " ++ stepId))
      | some planned => do
          let ready ← plannedJobReady operation planned
          let others ← readySteps operation rest
          pure (if ready then stepId :: others else others)

/-- Record a binding unless the step is already bound in its generation. -/
def DurableOperation.bindStep (operation : DurableOperation) (binding : JobBinding) :
    DurableOperation :=
  if operation.jobBindings.any fun existing =>
      existing.stepId = binding.stepId && existing.generation = binding.generation then
    operation
  else { operation with jobBindings := operation.jobBindings ++ [binding] }

/-- The second loop of `materialize_pending`: enqueue and bind the ready
steps. -/
def enqueueReady (nowMs : Int) : DurableOperation → List String → Coordinated DurableOperation
  | operation, [] => pure operation
  | operation, stepId :: rest =>
    match operation.findPlanned stepId with
    | none => raise (.invalidPlan ("unknown pending step " ++ stepId))
    | some planned => do
        let _ ← enqueueJob (newJobFor operation planned) nowMs
        enqueueReady nowMs (operation.bindStep (bindingFor operation planned)) rest

/-- The record that `materialize_pending` saves after binding the ready
steps. -/
def settleMaterialized (operation : DurableOperation) (ready : List String) (nowMs : Int) :
    DurableOperation :=
  let unfrozen :=
    { operation with
      pendingStepIds := operation.pendingStepIds.filter fun stepId => stepId ∉ ready }
  if operation.status = .enqueuing then
    { unfrozen with
      status := .running
      startedAtMs := some (operation.startedAtMs.getD nowMs) }
  else unfrozen

def materializePending (operation : DurableOperation) (nowMs : Int) :
    Coordinated DurableOperation := do
  let ready ← readySteps operation operation.pendingStepIds
  let bound ← enqueueReady nowMs operation ready
  let settled := settleMaterialized bound ready nowMs
  if ready = [] ∧ operation.status ≠ .enqueuing then pure settled
  else save settled nowMs

def jobErrors (jobs : List Job) : List String :=
  jobs.filterMap fun job => job.errorMessage.map fun message => job.jobId ++ ": " ++ message

def runningVerdict (operation : DurableOperation) (planned : PlannedJob) :
    Coordinated RunningVerdict :=
  match operation.activeBinding planned.stepId with
  | none =>
    if planned.stepId ∈ operation.pendingStepIds then
      if planned.condition = .onFailure then
        pure ⟨none, joblessProjection .dormant⟩
      else do
        if ← stepIsImpossible operation planned then
          pure ⟨none, joblessProjection .skipped⟩
        else pure ⟨none, joblessProjection .blocked⟩
    else
      raise (.invalidPlan ("step " ++ planned.stepId ++ " has no active job binding"))
  | some binding => do
      let job ← requiredJob binding.jobId
      pure ⟨some job, jobProjection job⟩

def aggregateStatus (mode : DurableOperationMode) (statuses : List JobStatus)
    (pendingSuccess : Bool) : DurableOperationStatus :=
  if statuses.contains .needsAttention then .needsAttention
  else if !pendingSuccess && statuses.all (· = .succeeded) then
    match mode with
    | .apply => .succeeded
    | .rollback => .rolledBack
  else if statuses.contains .failed && statuses.all JobStatus.isTerminal then .failed
  else if statuses.all JobStatus.isTerminal && !pendingSuccess then
    if statuses.contains .failed then .failed else .cancelled
  else .running

def cancellingVerdict (operation : DurableOperation) (planned : PlannedJob) :
    Coordinated CancellingVerdict := do
  let isCompensation : Bool := planned.stepId ∈ compensationStepIds operation
  match ← materializedJob operation planned with
  | some job =>
    let verdict : CancellingVerdict :=
      { job := some job
        projection := jobProjection job
        forwardPending := false
        compensationPending := false
        attentionReason := none }
    if isCompensation then
      if job.status = .failed ∨ job.status = .cancelled ∨ job.status = .needsAttention then
        pure { verdict with
          attentionReason := some
            ("compensation step " ++ planned.stepId ++ " ended in " ++ job.status.debugName) }
      else pure { verdict with compensationPending := !job.status.isTerminal }
    else if job.status = .needsAttention then
      pure { verdict with
        attentionReason := some
          ("forward step " ++ planned.stepId ++ " has an unproven cancellation outcome") }
    else pure { verdict with forwardPending := !job.status.isTerminal }
  | none =>
    let verdict (projection : StepProjection) : CancellingVerdict :=
      { job := none
        projection
        forwardPending := false
        compensationPending := false
        attentionReason := none }
    match operation.activeBinding planned.stepId with
    | some binding =>
      -- a binding proves that a durable job should exist
      pure { verdict
          { jobId := some binding.jobId
            status := .unknown
            attempt := 0
            result := .null
            errorMessage := some "durable job is missing" } with
        attentionReason := some
          ("step " ++ planned.stepId ++ " references missing durable job " ++ binding.jobId) }
    | none =>
      if planned.stepId ∉ operation.pendingStepIds then
        raise (.invalidPlan ("step " ++ planned.stepId ++ " has no active job binding"))
      else if !isCompensation then
        -- a forward step frozen before it became durable
        pure (verdict (joblessProjection (.job .cancelled)))
      else if planned.condition = .onFailure then do
        if ← cancellationCompensationApplicable operation planned then
          pure { verdict (joblessProjection .blocked) with compensationPending := true }
        else pure (verdict (joblessProjection .dormant))
      else do
        if ← stepIsImpossible operation planned then
          pure (verdict (joblessProjection .skipped))
        else pure { verdict (joblessProjection .blocked) with compensationPending := true }

def projectedResult (plannedJobs : List PlannedJob) (projections : List StepProjection) :
    OperationResult :=
  (plannedJobs.map PlannedJob.stepId).zip projections

def deriveCancellingProjection (operation : DurableOperation) : Coordinated Projection := do
  let verdicts ← forEach (cancellingVerdict operation) operation.plannedJobs
  let reasons := verdicts.filterMap CancellingVerdict.attentionReason
  let status : DurableOperationStatus :=
    if reasons ≠ [] then .needsAttention
    else if verdicts.any fun verdict =>
        verdict.forwardPending || verdict.compensationPending then .cancelling
    else .cancelled
  pure
    { status
      result := projectedResult operation.plannedJobs
        (verdicts.map CancellingVerdict.projection)
      errorMessage := "; ".intercalate
        (jobErrors (verdicts.filterMap CancellingVerdict.job) ++ reasons) }

/-- `derive_projection`, without the unreachable tests for a cancelling operation after the early
return. -/
def deriveProjection (operation : DurableOperation) : Coordinated Projection :=
  if operation.attentionJobIds ≠ [] then
    pure
      { status := .needsAttention
        result := operation.result
        errorMessage := operation.errorMessage }
  else if operation.status = .cancelling then deriveCancellingProjection operation
  else do
    let verdicts ← forEach (runningVerdict operation) operation.plannedJobs
    let jobs := verdicts.filterMap RunningVerdict.job
    let pendingSuccess := verdicts.any fun verdict => verdict.projection.status = .blocked
    pure
      { status := aggregateStatus operation.mode (jobs.map Job.status) pendingSuccess
        result := projectedResult operation.plannedJobs
          (verdicts.map RunningVerdict.projection)
        errorMessage := "; ".intercalate (jobErrors jobs) }

def hasMissingActiveJob (operation : DurableOperation) : Coordinated Bool :=
  anyItem
    (fun planned =>
      match operation.activeBinding planned.stepId with
      | some binding => do pure (← getJob binding.jobId).isNone
      | none => pure false)
    operation.plannedJobs

def cancellationHasActiveJobs (operation : DurableOperation) : Coordinated Bool :=
  anyItem
    (fun planned => do
      match ← materializedJob operation planned with
      | some job => pure !job.status.isTerminal
      | none => pure false)
    operation.plannedJobs

/-- The fixed-point loop of a cancelling projection. The source has no bound; a call that runs out
of fuel stops where a crash could stop it. -/
def cancellingFixedPoint (nowMs : Int) :
    Nat → DurableOperation → Projection → Coordinated (DurableOperation × Projection)
  | 0, _, _ => .fail .outOfFuel
  | fuel + 1, operation, projection =>
    if projection.status ≠ .cancelling ∨
        !hasBlockedPendingCompensation operation projection.result then
      pure (operation, projection)
    else do
      if ← cancellationHasActiveJobs operation then pure (operation, projection)
      else do
        let materialized ← materializePending operation nowMs
        let next ← deriveProjection materialized
        if materialized = operation ∧ next = projection then
          pure (materialized, { projection with
            status := .needsAttention
            errorMessage :=
              "applicable compensation cannot be materialized from the durable dependency graph" })
        else cancellingFixedPoint nowMs fuel materialized next

def DurableOperation.applyProjection (operation : DurableOperation) (projection : Projection)
    (nowMs : Int) : DurableOperation :=
  { operation with
    status := projection.status
    result := projection.result
    errorMessage := projection.errorMessage
    finishedAtMs :=
      if projection.status.isTerminal then some (operation.finishedAtMs.getD nowMs)
      else operation.finishedAtMs }

def saveProjection (operation : DurableOperation) (projection : Projection) (nowMs : Int) :
    Coordinated DurableOperation :=
  if operation.status = projection.status ∧ operation.result = projection.result ∧
      operation.errorMessage = projection.errorMessage then
    pure operation
  else save (operation.applyProjection projection nowMs) nowMs

/-- Materialize what became ready, unless a bound job is missing. -/
def materializeUnlessMissing (operation : DurableOperation) (nowMs : Int) :
    Coordinated DurableOperation :=
  if operation.pendingStepIds = [] then pure operation
  else do
    if ← hasMissingActiveJob operation then pure operation
    else materializePending operation nowMs

def projectOnce (fuel : Nat) (operationId : String) (nowMs : Int) :
    Coordinated DurableOperation := do
  let loaded ← required operationId
  if loaded.status ≠ .running ∧ loaded.status ≠ .cancelling then pure loaded
  else do
    let operation ← materializeUnlessMissing loaded nowMs
    let projection ← deriveProjection operation
    if operation.status = .cancelling then do
      let (settled, final) ← cancellingFixedPoint nowMs fuel operation projection
      saveProjection settled final nowMs
    else saveProjection operation projection nowMs

/-- Repeat an attempt that lost a compare-and-swap, a bounded number of
times. -/
def retryOnConflict {α : Type} (attempt : Coordinated α) : Nat → Coordinated α
  | 0 => attempt
  | retries + 1 =>
    attempt.handle fun abort =>
      match abort with
      | .error (.store (.revisionConflict _ _)) => retryOnConflict attempt retries
      | _ => .fail abort

def projectMaxCasAttempts : Nat := 4

def enqueueMaxCasAttempts : Nat := 4

def project (fuel : Nat) (operationId : String) (nowMs : Int) : Coordinated DurableOperation :=
  retryOnConflict (projectOnce fuel operationId nowMs) (projectMaxCasAttempts - 1)

def plan (plan : PlanOperation) (nowMs : Int) : Coordinated DurableOperation :=
  match validatePlan plan with
  | .error error => raise error
  | .ok _ => do
      match ← callStore (.getOperation plan.operationId) with
      | some existing =>
        if existing.planSha256 = planSha256 plan ∧ existing.mode = .apply ∧
            existing.rollbackOfOperationId = none then
          pure existing
        else raise .idempotencyConflict
      | none => create (operationFromPlan plan .apply none (planSha256 plan) nowMs)

def confirm (operationId : String) (nowMs : Int) : Coordinated DurableOperation := do
  let operation ← required operationId
  match operation.status with
  | .planned => save { operation with status := .confirmed, confirmedAtMs := some nowMs } nowMs
  | .confirmed => pure operation
  | source => raise (.invalidTransition source "confirm")

def enqueueOnce (fuel : Nat) (operationId : String) (nowMs : Int) :
    Coordinated DurableOperation := do
  let operation ← required operationId
  match operation.status with
  | .confirmed => do
      let enqueuing ← save { operation with status := .enqueuing } nowMs
      materializePending enqueuing nowMs
  | .enqueuing => materializePending operation nowMs
  | .running => project fuel operationId nowMs
  | source => raise (.invalidTransition source "enqueue")

def enqueue (fuel : Nat) (operationId : String) (nowMs : Int) : Coordinated DurableOperation :=
  retryOnConflict (enqueueOnce fuel operationId nowMs) (enqueueMaxCasAttempts - 1)

/-- The job ids that cancellation looks for, in `BTreeSet` order. -/
def cancelJobIds (operation : DurableOperation) : List String :=
  let ids := operation.plannedJobs.filterMap fun planned =>
    if planned.stepId ∈ compensationStepIds operation then none
    else
      match operation.activeBinding planned.stepId with
      | some binding => some binding.jobId
      -- the job may exist although its binding was never saved
      | none =>
        if planned.stepId ∈ operation.pendingStepIds then
          some (bindingFor operation planned).jobId
        else none
  (Std.TreeSet.ofList ids).toList

def cancelJobs (operation : DurableOperation) (nowMs : Int) : Coordinated Unit := do
  let _ ← forEach
    (fun jobId => do
      match ← getJob jobId with
      | some job =>
        if job.status.isTerminal then pure ()
        else do
          let _ ← requestCancel jobId nowMs
          pure ()
      | none => pure ())
    (cancelJobIds operation)
  pure ()

def cancel (fuel : Nat) (operationId : String) (nowMs : Int) : Coordinated DurableOperation := do
  let operation ← required operationId
  match operation.status with
  | .planned | .confirmed =>
    save { operation with status := .cancelled, finishedAtMs := some nowMs } nowMs
  | .enqueuing | .running => do
      let cancelling ← save { operation with status := .cancelling } nowMs
      cancelJobs cancelling nowMs
      project fuel operationId nowMs
  | .cancelling => do
      cancelJobs operation nowMs
      project fuel operationId nowMs
  | .cancelled => pure operation
  | source => raise (.invalidTransition source "cancel")

/-- The loop of `retry`: the steps that the next generation starts over, those without a job among
them. -/
def retryPending (operation : DurableOperation) : List PlannedJob → Coordinated (List String)
  | [] => pure []
  | planned :: rest =>
    match operation.activeBinding planned.stepId with
    | none => do
        let others ← retryPending operation rest
        pure (planned.stepId :: others)
    | some binding => do
        let job ← requiredJob binding.jobId
        match job.status with
        | .failed | .cancelled => do
            let others ← retryPending operation rest
            pure (planned.stepId :: others)
        | .succeeded => retryPending operation rest
        | .needsAttention =>
          raise (.invalidTransition .needsAttention "retry_without_reconciliation")
        | .queued | .leased | .retryWait | .cancelRequested =>
          raise (.invalidPlan
            ("failed operation contains non-terminal job " ++ job.jobId))

/-- The record with which `retry` opens the next generation. -/
def DurableOperation.nextGeneration (operation : DurableOperation) (pending : List String) :
    DurableOperation :=
  { operation with
    generation := operation.generation + 1
    pendingStepIds := pending
    status := .enqueuing
    errorMessage := ""
    finishedAtMs := none }

def retry (operationId : String) (nowMs : Int) : Coordinated DurableOperation := do
  let operation ← required operationId
  if operation.status = .needsAttention then
    raise (.invalidTransition operation.status "retry_without_reconciliation")
  else if operation.status ≠ .failed then
    raise (.invalidTransition operation.status "retry")
  else do
    let pending ← retryPending operation operation.plannedJobs
    if pending = [] then
      raise (.invalidPlan "failed operation has no failed jobs to retry")
    else do
      let enqueuing ← save (operation.nextGeneration pending) nowMs
      materializePending enqueuing nowMs

def rollback (sourceOperationId : String) (rollbackPlan : PlanOperation) (nowMs : Int) :
    Coordinated DurableOperation := do
  let source ← required sourceOperationId
  if source.status ≠ .succeeded ∧ source.status ≠ .failed then
    raise (.invalidTransition source.status "rollback")
  else if rollbackPlan.operationId = sourceOperationId then
    raise (.invalidPlan "rollback must have its own operation_id")
  else
    match validatePlan rollbackPlan with
    | .error error => raise error
    | .ok _ => do
        match ← callStore (.getOperation rollbackPlan.operationId) with
        | some existing =>
          if existing.planSha256 = planSha256 rollbackPlan ∧ existing.mode = .rollback ∧
              existing.rollbackOfOperationId = some sourceOperationId then
            pure existing
          else raise .idempotencyConflict
        | none =>
          create (operationFromPlan rollbackPlan .rollback (some sourceOperationId)
            (planSha256 rollbackPlan) nowMs)

/-- The record that `mark_needs_attention` saves. -/
def DurableOperation.needingAttention (operation : DurableOperation) (jobId : String)
    (reason : String) (nowMs : Int) : DurableOperation :=
  { operation with
    attentionJobIds :=
      if jobId ∈ operation.attentionJobIds then operation.attentionJobIds
      else operation.attentionJobIds ++ [jobId]
    status := .needsAttention
    errorMessage := reason
    finishedAtMs := some (operation.finishedAtMs.getD nowMs) }

def markNeedsAttention (operationId jobId reason : String) (nowMs : Int) :
    Coordinated Unit := do
  let operation ← required operationId
  let _ ← save (operation.needingAttention jobId reason nowMs) nowMs
  pure ()

/-- The loop of `recover` over one expired job. -/
def recoverExpiredOutcome (nowMs : Int) (job : Job) : Coordinated Unit :=
  if job.status = .retryWait ∧ !job.kind.isObservation then do
    let cancelled ← requestCancel job.jobId nowMs
    markNeedsAttention job.operationId cancelled.jobId
      "worker lease expired with an unproven side-effect outcome" nowMs
  else if job.status = .needsAttention then
    markNeedsAttention job.operationId job.jobId
      (job.errorMessage.getD "job outcome requires reconciliation") nowMs
  else pure ()

/-- The loop of `recover` over one recoverable operation. -/
def recoverOperation (fuel : Nat) (nowMs : Int) (operation : DurableOperation) :
    Coordinated DurableOperation := do
  let current ← required operation.operationId
  match current.status with
  | .confirmed =>
    if (current.request.get "auto_enqueue").bind Value.asBool = some true then
      enqueue fuel current.operationId nowMs
    else pure current
  | .enqueuing => materializePending current nowMs
  | .cancelling => do
      cancelJobs current nowMs
      project fuel current.operationId nowMs
  | .running => project fuel current.operationId nowMs
  | _ => pure current

def recover (fuel : Nat) (nowMs : Int) : Coordinated (List DurableOperation) := do
  let expired ← callStore (.recoverExpired nowMs)
  let _ ← forEach (recoverExpiredOutcome nowMs) expired
  let recoverable ← callStore .recoverable
  forEach (recoverOperation fuel nowMs) recoverable

end UntitledOJ
