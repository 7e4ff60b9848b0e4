import UntitledOJ.ConcurrentPlatform
import UntitledOJ.JudgeQueue

/-!
# The endpoints of the judge API

An endpoint is a sequence of repository calls.  Endpoints interleave freely and may stop after any
call.
-/

namespace UntitledOJ

open Program (forEach ReadOnly readOnly_forEach)

namespace Judge

variable [JudgeDigests]

abbrev JudgeProgram :=
  Program JudgeError (fun call : JudgeCall => Except JudgeError call.Result)

namespace JudgeProgram

def request (call : JudgeCall) : JudgeProgram call.Result :=
  .call call fun
    | .ok result => .done result
    | .error error => .fail error

def ensure (condition : Bool) (text : String) : JudgeProgram Unit :=
  if condition then .done () else .fail (.refused text)

end JudgeProgram

open JudgeProgram

/-- What `CreateSubmission` is asked for, and where its source could be stored. -/
structure CreateSubmissionReq where
  problemId : Nat
  userId : Nat
  language : String
  allowLegacyPackageDir : Bool
  stored : Except String (String × String × String)

/-- A failure after the submission was created is kept as its verdict. -/
def orSystemError (submissionId : Nat) (program : JudgeProgram Unit) : JudgeProgram Unit :=
  program.handle fun error => do
    let _ ← Program.perform (.markSubmissionSystemError submissionId error.text)
    .fail error

def storeSubmission (submissionId : Nat) :
    Except String (String × String × String) → JudgeProgram Unit
  | .error text => do
      let _ ← Program.perform (.markSubmissionSystemError submissionId text)
      .fail (.refused text)
  | .ok (codePath, codeSha256, resultPath) => do
      orSystemError submissionId
        (request (.updateSubmissionSource submissionId codePath codeSha256 resultPath))
      orSystemError submissionId (request (.ensureTaskForSubmission submissionId))

def createSubmission (asked : CreateSubmissionReq) : JudgeProgram Unit := do
  let problem ← request (.getProblemMeta asked.problemId)
  ensure (!problem.deleted && !problem.archived) "problem is archived"
  ensure (problem.trimmed.offersPackage asked.allowLegacyPackageDir)
    "problem package projection is not ready"
  let submissionId ← request
    (.createSubmission asked.problemId asked.userId asked.language)
  storeSubmission submissionId asked.stored

def rejudgeProblem (problemId : Nat) : JudgeProgram Unit := do
  let _ ← request (.getProblemMeta problemId)
  let ids ← request (.resetSubmissionsForProblem problemId)
  let _ ← forEach (fun id => request (.ensureTaskForSubmission id)) ids
  return

def cancelSubmission (submissionId userId : Nat) (reason : String) : JudgeProgram Unit := do
  let _ ← request (.getSubmission submissionId)
  request (.cancelSubmission submissionId userId
    (if reason = "" then "cancelled by problem manager" else reason))

def adminRequeueSubmission (submissionId : Nat) : JudgeProgram Unit :=
  request (.requeueSubmission submissionId)

/-- `WorkerClaimTasksReq`, with the configured lease and the failure to describe a task. -/
structure WorkerClaimTasksReq where
  workerId : String
  supportedLanguages : List String
  availableSlots : Nat
  taskIds : List TaskId
  leaseTTLSeconds : Nat
  undescribed : Option String

/-- `workerLeaseTTL`, in milliseconds. -/
def workerLeaseTTL (seconds : Nat) : Nat := if seconds = 0 then 60000 else seconds * 1000

def releaseUnexposedClaims (workerId : String) (leases : List Tables.TaskLease)
    (cause : JudgeError) : JudgeProgram Unit := do
  let _ ← Program.perform (.releaseClaimedTasks workerId
    (leases.map fun lease => (lease.taskId, lease.row.leaseVersion))
    "claim response was not delivered")
  .fail cause

/-- The tasks are described and their leases renewed before they are delivered. -/
def deliver (asked : WorkerClaimTasksReq) (leases : List Tables.TaskLease) :
    JudgeProgram Unit := do
  let _ ← forEach (fun lease : Tables.TaskLease => do
    let _ ← request (.getSubmission lease.taskId.submissionId)
    ensure asked.undescribed.isNone (asked.undescribed.getD "")) leases
  let _ ← forEach (fun lease : Tables.TaskLease =>
    request (.refreshClaimedTaskLease lease.taskId asked.workerId lease.row.leaseVersion
      (workerLeaseTTL asked.leaseTTLSeconds))) leases
  return

def afterClaim (asked : WorkerClaimTasksReq) :
    Except JudgeError (List Tables.TaskLease) → JudgeProgram Unit
  | .ok leases => (deliver asked leases).handle (releaseUnexposedClaims asked.workerId leases)
  | .error .workerNotFound => .fail (.refused "worker is not registered")
  | .error .workerDraining => .done ()
  | .error error => .fail error

/-- `workerClaimTasksOnce`. -/
def workerClaimTasks (asked : WorkerClaimTasksReq) : JudgeProgram Unit :=
  if asked.availableSlots = 0 then .done ()
  else do
    request .recoverStaleTasks
    .call (.claimTasks asked.workerId asked.supportedLanguages asked.availableSlots
      (workerLeaseTTL asked.leaseTTLSeconds) asked.taskIds) (afterClaim asked)

def workerTaskHeartbeat (taskId : TaskId) (workerId : String)
    (leaseVersion leaseTTLSeconds : Nat) : JudgeProgram Unit := do
  ensure (0 < leaseVersion) "invalid task lease"
  let _ ← request (.refreshTaskLease taskId workerId leaseVersion
    (workerLeaseTTL leaseTTLSeconds))
  return

inductive ReportAnswer where
  | accepted (status : SubmissionStatus)
  | settled (status : TaskStatus)
  | staleLease

def answerResult (status : SubmissionStatus) :
    Except JudgeError Unit → JudgeProgram ReportAnswer
  | .ok _ => .done (.accepted status)
  | .error .taskTransitionAlreadySaved => .done (.accepted status)
  | .error .taskLeaseInvalid => .done .staleLease
  | .error error => .fail error

def submitTransition (report : WorkerSubmitResultReq) (now : Nat) (resultPath : String) :
    JudgeProgram ReportAnswer :=
  .call (.markTaskSucceeded report.taskId report.workerId report.leaseVersion
    { successTransition report.taskId report.workerId report now with
      resultPath := resultPath }) (answerResult report.status)

/-- `stageWorkerResultArtifacts` for a lease that is held. -/
def submitStaged (report : WorkerSubmitResultReq) (now : Nat) :
    Except String String → JudgeProgram ReportAnswer
  | .ok resultPath => submitTransition report now resultPath
  | .error text => .fail (.refused text)

def workerSubmitResult (report : WorkerSubmitResultReq) (now : Nat)
    (staged : Except String String) : JudgeProgram ReportAnswer := do
  ensure (0 < report.leaseVersion) "invalid task lease"
  ensure report.status.isTerminal "invalid judge status"
  let lease ← request (.getTaskForLease report.taskId report.workerId report.leaseVersion)
  if lease.row.status = .running then
    if lease.row.isLive now then do
      let _ ← request (.getSubmission lease.taskId.submissionId)
      submitStaged report now staged
    else .done .staleLease
  else if lease.row.status = .succeeded then submitTransition report now ""
  else .done (.settled lease.row.status)

/-- `WorkerFailTaskReq`, after its texts were trimmed. -/
structure WorkerFailTaskReq where
  taskId : TaskId
  workerId : String
  leaseVersion : Nat
  errorType : String
  retryable : Bool
  message : String

namespace WorkerFailTaskReq

/-- The failure of a user program is a verdict. -/
def status (asked : WorkerFailTaskReq) : SubmissionStatus :=
  if asked.errorType = "USER" then .runtimeError else .systemError

def mayRetry (asked : WorkerFailTaskReq) : Bool :=
  asked.errorType ≠ "USER" && asked.retryable

def resultEvent (asked : WorkerFailTaskReq) : WorkerSubmitResultReq where
  taskId := asked.taskId
  workerId := asked.workerId
  leaseVersion := asked.leaseVersion
  status := asked.status
  score := 0
  timeMs := 0
  memoryKb := 0
  message := if asked.message = "" then "worker task failed" else asked.message
  cases := []

end WorkerFailTaskReq

def answerFailure : Except JudgeError TaskFailureOutcome → JudgeProgram ReportAnswer
  | .ok outcome => .done (.accepted outcome.status)
  | .error .taskLeaseInvalid => .done .staleLease
  | .error error => .fail error

def workerFailTask (asked : WorkerFailTaskReq) (now : Nat) : JudgeProgram ReportAnswer := do
  ensure (0 < asked.leaseVersion) "invalid task lease"
  .call (.markTaskFailed asked.taskId asked.workerId asked.leaseVersion
    (failureTransition asked.taskId asked.workerId asked.errorType asked.mayRetry
      asked.resultEvent now)) answerFailure

inductive JudgeTask where
  | createSubmission (asked : CreateSubmissionReq)
  | rejudgeProblem (problemId : Nat)
  | cancelSubmission (submissionId userId : Nat) (reason : String)
  | adminRequeueSubmission (submissionId : Nat)
  | registerWorker (workerId : String)
  | drainWorker (workerId : String)
  | workerClaimTasks (asked : WorkerClaimTasksReq)
  | workerTaskHeartbeat (taskId : TaskId) (workerId : String) (leaseVersion leaseTTLSeconds : Nat)
  | workerSubmitResult (report : WorkerSubmitResultReq) (now : Nat)
      (staged : Except String String)
  | workerFailTask (asked : WorkerFailTaskReq) (now : Nat)

def JudgeTask.program : JudgeTask → JudgeProgram Unit
  | .createSubmission asked => Judge.createSubmission asked
  | .rejudgeProblem problemId => Judge.rejudgeProblem problemId
  | .cancelSubmission submissionId userId reason =>
    Judge.cancelSubmission submissionId userId reason
  | .adminRequeueSubmission submissionId => Judge.adminRequeueSubmission submissionId
  | .registerWorker workerId => request (.upsertWorker workerId)
  | .drainWorker workerId => request (.drainWorker workerId)
  | .workerClaimTasks asked => Judge.workerClaimTasks asked
  | .workerTaskHeartbeat taskId workerId leaseVersion leaseTTLSeconds =>
    Judge.workerTaskHeartbeat taskId workerId leaseVersion leaseTTLSeconds
  | .workerSubmitResult report now staged => do
      let _ ← Judge.workerSubmitResult report now staged
      return
  | .workerFailTask asked now => do
      let _ ← Judge.workerFailTask asked now
      return

inductive JudgeEvent where
  | clock (now : Nat)
  | connection (connection : Connection)
  | configure (allowLegacyPackageDir : Bool)
  | project (problemId : Nat) (problem : ProblemMeta)

def JudgeState.react : JudgeEvent → JudgeState → JudgeState
  | .clock now, state => { state with now }
  | .connection connection, state => { state with connection }
  | .configure allowLegacyPackageDir, state => { state with allowLegacyPackageDir }
  | .project problemId problem, state =>
    { state with tables := { state.tables with
        problems := state.tables.problems.insert problemId problem } }

def judgePlatform : Platform where
  State := JudgeState
  Call := JudgeCall
  Reply := fun call => Except JudgeError call.Result
  Error := JudgeError
  exec := JudgeState.exec
  loads := fun _ => false
  Task := JudgeTask
  program := JudgeTask.program
  Event := JudgeEvent
  react := JudgeState.react

def judgeIdle : judgePlatform.Config := ⟨⟨.empty, 0, false, .answers⟩, []⟩

/-- The transition is one that an endpoint makes of a report. -/
def JudgeCall.Reported : JudgeCall → Prop
  | .markTaskSucceeded taskId workerId leaseVersion transition =>
    ∃ report now resultPath, report.status.isTerminal = true ∧
      report.leaseVersion = leaseVersion ∧
      transition = { successTransition taskId workerId report now with
        resultPath := resultPath }
  | .markTaskFailed taskId workerId leaseVersion transition =>
    ∃ asked : WorkerFailTaskReq, ∃ now, asked.leaseVersion = leaseVersion ∧
      transition = failureTransition taskId workerId asked.errorType asked.mayRetry
        asked.resultEvent now
  | _ => True

variable {leaseVersion : Nat} {workerId : String} {call : JudgeCall}

theorem eventId_of_success {taskId : TaskId} {transition : TaskSuccessTransition}
    (reported : (JudgeCall.markTaskSucceeded taskId workerId leaseVersion transition).Reported) :
    transition.outboxEventId = judgeResultEventID taskId leaseVersion transition.payloadSha256 := by
  obtain ⟨_, _, _, _, rfl, rfl⟩ := reported
  rfl

theorem eventId_of_failure {taskId : TaskId} {transition : TaskFailureTransition}
    (reported : (JudgeCall.markTaskFailed taskId workerId leaseVersion transition).Reported) :
    transition.outboxEventId = judgeResultEventID taskId leaseVersion transition.payloadSha256 := by
  obtain ⟨_, _, rfl, rfl⟩ := reported
  rfl

theorem reported_request (reported : call.Reported) :
    (request call).ReadOnly JudgeCall.Reported := by
  refine ⟨reported, ?_⟩
  rintro (error | result) <;> trivial

theorem reported_ensure (condition : Bool) (text : String) :
    (ensure condition text).ReadOnly JudgeCall.Reported := by
  unfold ensure
  split_ifs <;> trivial

theorem reported_orSystemError (submissionId : Nat) {program : JudgeProgram Unit}
    (reported : program.ReadOnly JudgeCall.Reported) :
    (orSystemError submissionId program).ReadOnly JudgeCall.Reported :=
  reported.handle fun _ => ⟨by trivial, fun _ => by trivial⟩

theorem reported_createSubmission (asked : CreateSubmissionReq) :
    (createSubmission asked).ReadOnly JudgeCall.Reported := by
  refine (reported_request (by trivial)).bind fun problem => (reported_ensure _ _).bind fun _ =>
    (reported_ensure _ _).bind fun _ => (reported_request (by trivial)).bind fun submissionId => ?_
  cases asked.stored with
  | error text => exact ⟨by trivial, fun _ => by trivial⟩
  | ok files =>
    exact (reported_orSystemError _ (reported_request (by trivial))).bind fun _ =>
      reported_orSystemError _ (reported_request (by trivial))

theorem reported_workerClaimTasks (asked : WorkerClaimTasksReq) :
    (workerClaimTasks asked).ReadOnly JudgeCall.Reported := by
  unfold workerClaimTasks
  split_ifs
  · trivial
  · refine (reported_request (by trivial)).bind fun _ => ⟨trivial, ?_⟩
    rintro (error | leases)
    · cases error <;> trivial
    · refine ReadOnly.handle ?_ fun _ => ⟨by trivial, fun _ => by trivial⟩
      refine ReadOnly.bind (readOnly_forEach fun lease => ?_) fun _ => ?_
      · exact (reported_request (by trivial)).bind fun _ => reported_ensure _ _
      · refine ReadOnly.bind (readOnly_forEach fun lease => ?_) fun _ => by trivial
        exact reported_request (by trivial)

theorem reported_submitTransition {report : WorkerSubmitResultReq}
    (terminal : report.status.isTerminal = true) (now : Nat) (resultPath : String) :
    (submitTransition report now resultPath).ReadOnly JudgeCall.Reported := by
  refine ⟨⟨report, now, resultPath, terminal, rfl, rfl⟩, ?_⟩
  rintro (error | result)
  · cases error <;> trivial
  · trivial

theorem reported_workerSubmitResult (report : WorkerSubmitResultReq) (now : Nat)
    (staged : Except String String) :
    (workerSubmitResult report now staged).ReadOnly JudgeCall.Reported := by
  refine (reported_ensure _ _).bind fun _ => ?_
  cases terminal : report.status.isTerminal with
  | false => trivial
  | true =>
    refine (reported_request (by trivial)).bind fun lease => ?_
    split_ifs
    · refine (reported_request (by trivial)).bind fun _ => ?_
      cases staged with
      | ok resultPath => exact reported_submitTransition terminal now resultPath
      | error text => trivial
    · trivial
    · exact reported_submitTransition terminal now ""
    · trivial

theorem reported_workerFailTask (asked : WorkerFailTaskReq) (now : Nat) :
    (workerFailTask asked now).ReadOnly JudgeCall.Reported := by
  refine (reported_ensure _ _).bind fun _ => ⟨⟨asked, now, rfl, rfl⟩, ?_⟩
  rintro (error | outcome)
  · cases error <;> trivial
  · trivial

theorem reported_program (task : JudgeTask) : task.program.ReadOnly JudgeCall.Reported := by
  cases task with
  | createSubmission asked => exact reported_createSubmission asked
  | rejudgeProblem problemId =>
    refine (reported_request (by trivial)).bind fun _ =>
      (reported_request (by trivial)).bind fun ids => ?_
    refine ReadOnly.bind (readOnly_forEach fun id => ?_) fun _ => by trivial
    exact reported_request (by trivial)
  | cancelSubmission submissionId userId reason =>
    exact (reported_request (by trivial)).bind fun _ => reported_request (by trivial)
  | adminRequeueSubmission submissionId | registerWorker workerId | drainWorker workerId =>
    exact reported_request (by trivial)
  | workerClaimTasks asked => exact reported_workerClaimTasks asked
  | workerTaskHeartbeat taskId workerId leaseVersion leaseTTLSeconds =>
    exact (reported_ensure _ _).bind fun _ =>
      (reported_request (by trivial)).bind fun _ => by trivial
  | workerSubmitResult report now staged =>
    exact (reported_workerSubmitResult report now staged).bind fun _ => by trivial
  | workerFailTask asked now => exact (reported_workerFailTask asked now).bind fun _ => by trivial

theorem performs_reported {permits : judgePlatform.Discipline} {config : judgePlatform.Config}
    (run : Platform.Run permits judgeIdle config) {index : Nat} {loaded : JudgeState}
    (performs : config.Performs index loaded call) : call.Reported :=
  Platform.run_performs reported_program rfl run performs

end Judge

end UntitledOJ
