import UntitledOJ.ContributionContent
import UntitledOJ.GoText
import UntitledOJ.KeyedTable

/-!
# The queue of the judge API

A worker claims a task under a lease, and its report settles the task and the submission in one
transaction, which also writes a receipt and the result event.
-/

namespace UntitledOJ

namespace Judge

/-- `submissions.status`. -/
inductive SubmissionStatus where
  | pending | judging | accepted | wrongAnswer | compileError | runtimeError | timeLimitExceeded
  | memoryLimitExceeded | outputLimitExceeded | systemError | cancelled | unsupportedLanguage
  deriving DecidableEq, Repr

/-- `terminalJudgeStatuses`. -/
def SubmissionStatus.isTerminal : SubmissionStatus → Bool
  | .pending | .judging => false
  | _ => true

/-- `judge_tasks.status`. -/
inductive TaskStatus where
  | pending | running | succeeded | failed | cancelled
  deriving DecidableEq, Repr

/-- `judge_task_report_receipts.report_kind`. -/
inductive ReportKind where
  | result
  | fail
  deriving DecidableEq, Repr

/-- The name of a task, which is `sub-` and the number of its submission. -/
structure TaskId where
  submissionId : Nat
  deriving DecidableEq, Repr

instance : Ord TaskId := ⟨compareOn TaskId.submissionId⟩

instance : Std.TransOrd TaskId :=
  inferInstanceAs (Std.TransCmp (compareOn TaskId.submissionId))

instance : Std.LawfulEqOrd TaskId where
  eq_of_compare {first second} same := by
    have equal : first.submissionId = second.submissionId :=
      Std.LawfulEqOrd.compare_eq_iff_eq.mp same
    exact congrArg TaskId.mk equal

def deterministicTaskID (submissionId : Nat) : TaskId := ⟨submissionId⟩

/-- The errors of the repository, and the failures of the database. -/
inductive JudgeError where
  | problemProjectionNotReady | submissionNotFound | workerNotFound | workerDraining
  | taskLeaseInvalid | taskTransitionAlreadySaved
  | violates (constraint : String)
  | unavailable
  | refused (text : String)
  deriving DecidableEq, Repr

def JudgeError.text : JudgeError → String
  | .problemProjectionNotReady => "problem package projection is not ready"
  | .submissionNotFound => "submission not found"
  | .workerNotFound => "worker not found"
  | .workerDraining => "worker is draining"
  | .taskLeaseInvalid => "task lease is invalid"
  | .taskTransitionAlreadySaved => "task transition is already saved"
  | .violates constraint => "violates constraint " ++ constraint
  | .unavailable => "database is unavailable"
  | .refused text => text

structure Submission where
  problemId : Nat
  userId : Nat
  language : String
  status : SubmissionStatus
  (score timeMs memoryKb : Int)
  (message codePath codeSha256 resultPath : String)
  (judgedAt cancelledAt cancelledBy : Option Nat)
  cancelReason : String
  deriving DecidableEq, Repr

/-- A row of `judge_tasks`, which is kept under its submission. -/
structure TaskRow where
  id : Nat
  problemId : Nat
  language : String
  workerId : Option String
  leaseVersion : Nat
  (leaseExpiresAt heartbeatAt : Option Nat)
  attempt : Nat
  status : TaskStatus
  errorMessage : String
  availableAt : Nat
  resultPayloadSha256 : Option Sha256
  deriving DecidableEq, Repr

/-- What `problems` says about a problem and its package. -/
structure ProblemMeta where
  deleted : Bool
  archived : Bool
  aggregateVersion : Int
  packageRevision : Int
  (packageArtifactUri packageArtifactSha256 : String)
  packageArtifactSizeBytes : Int
  packageDir : String
  deriving DecidableEq, Repr

def isLowerHexDigest (value : String) : Bool :=
  value.length = 64 && value.toList.all fun c => ('0' ≤ c && c ≤ '9') || ('a' ≤ c && c ≤ 'f')

def ProblemMeta.hasManagedPackageArtifact (problem : ProblemMeta) : Bool :=
  0 < problem.aggregateVersion && 0 < problem.packageRevision &&
    problem.packageArtifactUri ≠ "" && isLowerHexDigest problem.packageArtifactSha256 &&
    0 < problem.packageArtifactSizeBytes

def ProblemMeta.hasAnyProjectionArtifactState (problem : ProblemMeta) : Bool :=
  problem.aggregateVersion ≠ 0 || problem.packageRevision ≠ 0 ||
    problem.packageArtifactUri ≠ "" || problem.packageArtifactSha256 ≠ "" ||
    problem.packageArtifactSizeBytes ≠ 0

def ProblemMeta.offersPackage (allowLegacyPackageDir : Bool) (problem : ProblemMeta) : Bool :=
  problem.hasManagedPackageArtifact ||
    (allowLegacyPackageDir && !problem.hasAnyProjectionArtifactState && problem.packageDir ≠ "")

/-- The service trims the texts before it looks at them; the database compares them as they are. -/
def ProblemMeta.trimmed (problem : ProblemMeta) : ProblemMeta :=
  { problem with
    packageArtifactUri := trimSpace problem.packageArtifactUri
    packageArtifactSha256 := trimSpace problem.packageArtifactSha256
    packageDir := trimSpace problem.packageDir }

/-- A row of `judge_task_report_receipts`. -/
structure Receipt where
  workerId : String
  reportKind : ReportKind
  payloadSha256 : Sha256
  responseStatus : SubmissionStatus
  eventId : String
  deriving DecidableEq, Repr

structure JudgeResultEvent where
  taskId : TaskId
  workerId : String
  leaseVersion : Nat
  status : SubmissionStatus
  (score timeMs memoryKb : Int)
  message : String
  createdAt : Nat
  deriving DecidableEq, Repr

/-- A row of `judge_result_outbox`, as it is inserted. -/
structure OutboxRow where
  eventId : String
  taskId : TaskId
  leaseVersion : Nat
  payloadSha256 : Sha256
  payload : JudgeResultEvent
  deriving DecidableEq, Repr

structure Tables where
  problems : Std.TreeMap Nat ProblemMeta
  workers : Std.TreeMap String Bool
  submissions : Std.TreeMap Nat Submission
  nextSubmission : Nat
  tasks : Std.TreeMap Nat TaskRow
  nextTask : Nat
  receipts : Std.TreeMap (TaskId × Nat) Receipt pairOrder
  outbox : List OutboxRow

def Tables.empty : Tables := ⟨∅, ∅, ∅, 1, ∅, 1, ∅, []⟩

section

structure WorkerResultCase where
  caseNo : Int
  status : String
  (score timeMs memoryKb : Int)
  (stdout stderr checkerLog message : String)
  deriving DecidableEq, Repr

/-- `WorkerSubmitResultReq`, after the status and the texts were trimmed. -/
structure WorkerSubmitResultReq where
  taskId : TaskId
  workerId : String
  leaseVersion : Nat
  status : SubmissionStatus
  (score timeMs memoryKb : Int)
  message : String
  cases : List WorkerResultCase
  deriving DecidableEq, Repr

inductive HashedReport where
  | result (request : WorkerSubmitResultReq)
  | fail (taskId : TaskId) (workerId : String) (leaseVersion : Nat) (errorType : String)
      (retryable : Bool) (result : WorkerSubmitResultReq)
  | expiry (event : JudgeResultEvent)
  deriving DecidableEq, Repr

/-- SHA-256 of the serialized reports, and of a task, a lease and the digest of a report. -/
class JudgeDigests where
  reportPayloadSHA256 : HashedReport → Sha256
  resultSha256 : TaskId → Nat → Sha256 → String

export JudgeDigests (reportPayloadSHA256 resultSha256)

def judgeResultEventID [JudgeDigests] (taskId : TaskId) (leaseVersion : Nat)
    (payloadSha256 : Sha256) : String :=
  "judge-result-" ++ resultSha256 taskId leaseVersion payloadSha256

/-- The digests in the names of result events do not collide. -/
def DistinctEvents [JudgeDigests] : Prop :=
  ∀ taskId leaseVersion payload other later digest, judgeResultEventID taskId leaseVersion payload =
    judgeResultEventID other later digest → taskId = other ∧ leaseVersion = later

structure TaskSuccessTransition where
  status : SubmissionStatus
  (score timeMs memoryKb : Int)
  (message resultPath : String)
  payloadSha256 : Sha256
  outboxEventId : String
  outboxPayload : JudgeResultEvent

structure TaskFailureTransition where
  status : SubmissionStatus
  message : String
  retryable : Bool
  payloadSha256 : Sha256
  outboxEventId : String
  outboxPayload : JudgeResultEvent

/-- `TaskFailureOutcome`, which also says that the report was saved before. -/
structure TaskFailureOutcome where
  status : SubmissionStatus
  retryScheduled : Bool
  availableAt : Option Nat
  alreadySaved : Bool
  deriving DecidableEq, Repr

def judgeResultEventValues (taskId : TaskId) (workerId : String) (request : WorkerSubmitResultReq)
    (now : Nat) : JudgeResultEvent :=
  ⟨taskId, workerId, request.leaseVersion, request.status, request.score, request.timeMs,
    request.memoryKb, request.message, now⟩

variable [JudgeDigests]

/-- `successTransition`; the path of the result is known later. -/
def successTransition (taskId : TaskId) (workerId : String) (request : WorkerSubmitResultReq)
    (now : Nat) : TaskSuccessTransition :=
  let digest := reportPayloadSHA256 (.result request)
  { status := request.status
    score := request.score
    timeMs := request.timeMs
    memoryKb := request.memoryKb
    message := request.message
    resultPath := ""
    payloadSha256 := digest
    outboxEventId := judgeResultEventID taskId request.leaseVersion digest
    outboxPayload := judgeResultEventValues taskId workerId request now }

def failureTransition (taskId : TaskId) (workerId errorType : String) (retryable : Bool)
    (result : WorkerSubmitResultReq) (now : Nat) : TaskFailureTransition :=
  let digest := reportPayloadSHA256
    (.fail taskId workerId result.leaseVersion errorType retryable result)
  { status := result.status
    message := result.message
    retryable := retryable
    payloadSha256 := digest
    outboxEventId := judgeResultEventID taskId result.leaseVersion digest
    outboxPayload := judgeResultEventValues taskId workerId result now }

def expiryMessage : String := "task retry budget exhausted after lease expiry"

def expiredTaskFailureTransition (submissionId : Nat) (task : TaskRow) : TaskFailureTransition :=
  let taskId := deterministicTaskID submissionId
  let event : JudgeResultEvent := ⟨taskId, task.workerId.getD "", task.leaseVersion, .systemError,
    0, 0, 0, expiryMessage, task.leaseExpiresAt.getD 0⟩
  let digest := reportPayloadSHA256 (.expiry event)
  { status := .systemError
    message := expiryMessage
    retryable := false
    payloadSha256 := digest
    outboxEventId := judgeResultEventID taskId task.leaseVersion digest
    outboxPayload := event }

end

def taskMaximumAttempts : Nat := 4

def taskRetryExhausted (attempt : Nat) : Bool := taskMaximumAttempts ≤ attempt

/-- `taskRetryDelay`, in milliseconds. -/
def taskRetryDelay (attempt : Nat) : Nat :=
  if attempt ≤ 1 then 1000 else if attempt = 2 then 5000 else 30000

namespace TaskRow

/-- `worker_id = … AND lease_version = … AND status = 'RUNNING'`. -/
def isLeasedTo (row : TaskRow) (workerId : String) (leaseVersion : Nat) : Bool :=
  row.workerId = some workerId && row.leaseVersion = leaseVersion && row.status = .running

/-- `lease_expires_at > NOW()`. -/
def isLive (row : TaskRow) (now : Nat) : Bool := row.leaseExpiresAt.any (now < ·)

/-- `status = 'RUNNING' AND lease_expires_at < NOW()`. -/
def isStale (row : TaskRow) (now : Nat) : Bool :=
  row.status = .running && row.leaseExpiresAt.any (· < now)

def fresh (id now : Nat) (submission : Submission) : TaskRow where
  id := id
  problemId := submission.problemId
  language := submission.language
  workerId := none
  leaseVersion := 0
  leaseExpiresAt := none
  heartbeatAt := none
  attempt := 0
  status := .pending
  errorMessage := ""
  availableAt := now
  resultPayloadSha256 := none

def requeued (now : Nat) (row : TaskRow) : TaskRow :=
  { row with
    workerId := none
    leaseExpiresAt := none
    heartbeatAt := none
    availableAt := now
    status := .pending
    errorMessage := "" }

def claimed (now : Nat) (workerId : String) (leaseMs : Nat) (row : TaskRow) : TaskRow :=
  { row with
    workerId := some workerId
    leaseVersion := row.leaseVersion + 1
    leaseExpiresAt := some (now + leaseMs)
    heartbeatAt := some now
    availableAt := now
    attempt := row.attempt + 1
    status := .running
    errorMessage := "" }

def refreshed (now leaseMs : Nat) (row : TaskRow) : TaskRow :=
  { row with leaseExpiresAt := some (now + leaseMs), heartbeatAt := some now }

def released (now : Nat) (reason : String) (row : TaskRow) : TaskRow :=
  { row with
    status := .pending
    workerId := none
    leaseExpiresAt := none
    heartbeatAt := some now
    attempt := row.attempt - 1
    availableAt := now
    errorMessage := reason }

def succeeded (now : Nat) (payload : Sha256) (row : TaskRow) : TaskRow :=
  { row with
    status := .succeeded
    heartbeatAt := some now
    leaseExpiresAt := none
    errorMessage := ""
    resultPayloadSha256 := some payload }

def failed (now : Nat) (message : String) (payload : Sha256) (row : TaskRow) : TaskRow :=
  { row with
    status := .failed
    leaseExpiresAt := none
    heartbeatAt := some now
    availableAt := now
    errorMessage := message
    resultPayloadSha256 := some payload }

def retried (now : Nat) (message : String) (payload : Sha256) (row : TaskRow) : TaskRow :=
  { row with
    status := .pending
    workerId := none
    leaseExpiresAt := none
    heartbeatAt := some now
    availableAt := now + taskRetryDelay row.attempt
    errorMessage := message
    resultPayloadSha256 := some payload }

def expired (now : Nat) (row : TaskRow) : TaskRow :=
  { row with
    status := .pending
    workerId := none
    leaseExpiresAt := none
    heartbeatAt := some now
    availableAt := now + taskRetryDelay row.attempt
    errorMessage := "lease expired" }

end TaskRow

namespace Submission

def created (problemId userId : Nat) (language : String) : Submission where
  problemId := problemId
  userId := userId
  language := language
  status := .pending
  score := 0
  timeMs := 0
  memoryKb := 0
  message := ""
  codePath := ""
  codeSha256 := ""
  resultPath := ""
  judgedAt := none
  cancelledAt := none
  cancelledBy := none
  cancelReason := ""

def requeued (row : Submission) : Submission :=
  { row with
    status := .pending
    score := 0
    timeMs := 0
    memoryKb := 0
    message := ""
    judgedAt := none
    cancelledAt := none
    cancelReason := "" }

def judged (now : Nat) (transition : TaskSuccessTransition) (row : Submission) : Submission :=
  { row with
    status := transition.status
    score := transition.score
    timeMs := transition.timeMs
    memoryKb := transition.memoryKb
    message := transition.message
    resultPath := transition.resultPath
    judgedAt := some now }

/-- The outcome of a failure; a submission that is tried again is not judged. -/
def failed (now : Nat) (status : SubmissionStatus) (message : String) (row : Submission) :
    Submission :=
  { row with
    status := status
    score := 0
    timeMs := 0
    memoryKb := 0
    message := message
    judgedAt := if status = .pending then none else some now }

def expired (row : Submission) : Submission :=
  { row with
    status := .pending
    message := "lease expired; retry scheduled"
    judgedAt := none }

end Submission

variable (tables : Tables)

namespace Tables

/-- `UPDATE submissions SET … WHERE …`. -/
def updateSubmissions (which : Nat → Submission → Bool) (set : Submission → Submission) : Tables :=
  { tables with
    submissions := tables.submissions.map fun id row => if which id row then set row else row }

/-- `UPDATE judge_tasks SET … WHERE …`. -/
def updateTasks (which : Nat → TaskRow → Bool) (set : TaskRow → TaskRow) :
    Tables :=
  { tables with tasks := tables.tasks.map fun id row => if which id row then set row else row }

/-- `SELECT … FROM judge_tasks WHERE …`. -/
def selectTasks (which : Nat → TaskRow → Bool) : List (Nat × TaskRow) :=
  tables.tasks.toList.filter fun entry => which entry.1 entry.2

/-- `INSERT INTO judge_tasks … ON CONFLICT(submission_id) DO UPDATE SET …`. -/
def upsertTask (now submissionId : Nat) (submission : Submission) (set : TaskRow → TaskRow) :
    Tables :=
  match tables.tasks[submissionId]? with
  | some row => { tables with tasks := tables.tasks.insert submissionId (set row) }
  | none =>
    { tables with
      tasks := tables.tasks.insert submissionId (.fresh tables.nextTask now submission)
      nextTask := tables.nextTask + 1 }

/-- The `WHERE` of `CreateSubmission`. -/
def acceptsSubmissions (allowLegacyPackageDir : Bool) (problem : ProblemMeta) : Bool :=
  !problem.deleted && problem.offersPackage allowLegacyPackageDir

def createSubmission (allowLegacyPackageDir : Bool) (problemId userId : Nat) (language : String) :
    Except JudgeError (Nat × Tables) := do
  require (tables.problems[problemId]?.any (acceptsSubmissions allowLegacyPackageDir))
    .problemProjectionNotReady
  return (tables.nextSubmission,
    { tables with
      submissions := tables.submissions.insert tables.nextSubmission
        (.created problemId userId language)
      nextSubmission := tables.nextSubmission + 1 })

def updateSubmissionSource (submissionId : Nat) (codePath codeSha256 resultPath : String) :
    Tables :=
  tables.updateSubmissions (fun id _ => id = submissionId) fun row =>
    { row with codePath := codePath, codeSha256 := codeSha256, resultPath := resultPath }

def markSubmissionSystemError (now submissionId : Nat) (message : String) :
    Tables :=
  tables.updateSubmissions (fun id _ => id = submissionId) fun row =>
    { row with status := .systemError, message := message, judgedAt := some now }

def cancelSubmission (now submissionId userId : Nat) (reason : String) : Tables :=
  tables.updateSubmissions (fun id _ => id = submissionId) fun row =>
    { row with
      status := .cancelled
      score := 0
      message := ""
      cancelledAt := some now
      cancelledBy := some userId
      cancelReason := reason }

/-- `ResetSubmissionsForProblem`; the tasks are left for later calls. -/
def resetSubmissionsForProblem (problemId : Nat) : List Nat × Tables :=
  (((tables.submissions.toList.filter fun entry => entry.2.problemId = problemId).map Prod.fst),
    tables.updateSubmissions (fun _ row => row.problemId = problemId) fun row =>
      { row.requeued with cancelledBy := none })

def ensureTaskForSubmission (now submissionId : Nat) : Tables :=
  match tables.submissions[submissionId]? with
  | some submission => tables.upsertTask now submissionId submission fun row =>
    { row.requeued now with problemId := submission.problemId, language := submission.language }
  | none => tables

def requeueSubmission (now submissionId : Nat) :
    Except JudgeError (Unit × Tables) :=
  match tables.submissions[submissionId]? with
  | some submission => .ok ((),
      (tables.updateSubmissions (fun id _ => id = submissionId) Submission.requeued).upsertTask now
        submissionId submission (TaskRow.requeued now))
  | none => .error .submissionNotFound

/-- `TaskLeaseView`: the task of a submission. -/
structure TaskLease where
  taskId : TaskId
  row : TaskRow

/-- The `WHERE` of the candidates in `ClaimTasks`. -/
def isCandidate (now : Nat) (languages : List String) (taskIds : List TaskId) (submissionId : Nat)
    (row : TaskRow) : Bool :=
  row.status = .pending &&
    tables.submissions[submissionId]?.any (fun submission => submission.status = .pending) &&
    row.availableAt ≤ now && (languages.isEmpty || languages.contains row.language) &&
    (taskIds.isEmpty || taskIds.contains (deterministicTaskID submissionId))

/-- `ORDER BY available_at ASC, id ASC`. -/
def claimedBefore (first second : Nat × TaskRow) : Bool :=
  first.2.availableAt < second.2.availableAt ||
    (first.2.availableAt = second.2.availableAt && first.2.id ≤ second.2.id)

def candidates (now : Nat) (languages : List String) (limit : Nat) (taskIds : List TaskId) :
    List Nat :=
  (((tables.selectTasks (tables.isCandidate now languages taskIds)).insertionSort
    fun first second => claimedBefore first second = true).take limit).map Prod.fst

/-- The tasks that `ClaimTasks` inserts for submissions without one. -/
def insertMissingTasks (now : Nat) : Tables :=
  (tables.submissions.toList.filter fun entry => entry.2.status = .pending).foldl
    (fun after entry => after.upsertTask now entry.1 entry.2 id) tables

/-- `ClaimTasks`.  The statement selects its candidates before its own inserts. -/
def claimTasks (now : Nat) (workerId : String) (languages : List String) (limit leaseMs : Nat)
    (taskIds : List TaskId) :
    Except JudgeError (List TaskLease × Tables) :=
  if limit = 0 then .ok ([], tables)
  else match tables.workers[workerId]? with
    | none => .error .workerNotFound
    | some true => .error .workerDraining
    | some false =>
      let claims := tables.candidates now languages (min limit 16) taskIds
      let after := ((tables.insertMissingTasks now).updateTasks
        (fun id _ => claims.contains id) (TaskRow.claimed now workerId leaseMs)).updateSubmissions
          (fun id row => claims.contains id && row.status = .pending)
          fun row => { row with status := .judging }
      .ok ((after.selectTasks fun id _ => claims.contains id).map fun entry =>
        ⟨deterministicTaskID entry.1, entry.2⟩, after)

def refreshLease (taskId : TaskId) (which : TaskRow → Bool) (set : TaskRow → TaskRow) :
    Except JudgeError (TaskLease × Tables) :=
  match tables.tasks[taskId.submissionId]?.filter which with
  | some row => .ok (⟨taskId, set row⟩,
      tables.updateTasks (fun id row => id = taskId.submissionId && which row) set)
  | none => .error .taskLeaseInvalid

def refreshTaskLease (now : Nat) (taskId : TaskId) (workerId : String)
    (leaseVersion leaseMs : Nat) :
    Except JudgeError (TaskLease × Tables) :=
  tables.refreshLease taskId (fun row => row.isLeasedTo workerId leaseVersion && row.isLive now)
    (TaskRow.refreshed now leaseMs)

/-- `RefreshClaimedTaskLease`, which also renews an expired lease. -/
def refreshClaimedTaskLease (now : Nat) (taskId : TaskId) (workerId : String)
    (leaseVersion leaseMs : Nat) : Except JudgeError (TaskLease × Tables) :=
  tables.refreshLease taskId (fun row => row.isLeasedTo workerId leaseVersion)
    (TaskRow.refreshed now leaseMs)

def isReleased (workerId : String) (claims : List (TaskId × Nat)) (submissionId : Nat)
    (row : TaskRow) : Bool :=
  claims.any fun claim => claim.1 = deterministicTaskID submissionId &&
    row.isLeasedTo workerId claim.2

def releaseClaimedTasks (now : Nat) (workerId : String) (claims : List (TaskId × Nat))
    (reason : String) : Nat × Tables :=
  let released := (tables.selectTasks (isReleased workerId claims)).map Prod.fst
  (released.length,
    (tables.updateTasks (isReleased workerId claims)
      (TaskRow.released now reason)).updateSubmissions
        (fun id row => released.contains id && row.status = .judging)
        fun row => { row with status := .pending })

def getTaskForLease (taskId : TaskId) (workerId : String) (leaseVersion : Nat) :
    Except JudgeError TaskLease :=
  match tables.tasks[taskId.submissionId]?.filter fun row =>
      row.workerId = some workerId && row.leaseVersion = leaseVersion with
  | some row => .ok ⟨taskId, row⟩
  | none => .error .taskLeaseInvalid

/-- `matchesTaskReportReceipt` for the receipt of the lease. -/
def savedReport (taskId : TaskId) (workerId : String) (leaseVersion : Nat) (kind : ReportKind)
    (payload : Sha256) : Option Receipt :=
  tables.receipts[(taskId, leaseVersion)]?.filter fun receipt =>
    receipt.workerId = workerId && receipt.reportKind = kind && receipt.payloadSha256 = payload

/-- `insertTaskReportReceipt`, with the constraints of the table. -/
def insertTaskReportReceipt (taskId : TaskId) (leaseVersion : Nat) (receipt : Receipt) :
    Except JudgeError Tables := do
  require (0 < leaseVersion) (.violates "chk_judge_task_report_receipt_lease")
  require tables.receipts[(taskId, leaseVersion)]?.isNone
    (.violates "judge_task_report_receipts_pkey")
  return { tables with receipts := tables.receipts.insert (taskId, leaseVersion) receipt }

/-- `enqueueJudgeResultOutbox`, with the constraints of the table. -/
def enqueueJudgeResultOutbox (row : OutboxRow) : Except JudgeError Tables := do
  require (0 < row.leaseVersion) (.violates "chk_judge_result_outbox_lease_version")
  require (!tables.outbox.any fun other => other.eventId = row.eventId)
    (.violates "judge_result_outbox_event_id_key")
  require (!tables.outbox.any fun other =>
      other.taskId = row.taskId && other.leaseVersion = row.leaseVersion)
    (.violates "judge_result_outbox_task_id_lease_version_key")
  require tables.receipts[(row.taskId, row.leaseVersion)]?.isSome
    (.violates "fk_judge_result_outbox_receipt")
  return { tables with outbox := tables.outbox ++ [row] }

/-- The receipt and the event of a report that settles its task. -/
def recordReport (taskId : TaskId) (leaseVersion : Nat) (receipt : Receipt)
    (payload : JudgeResultEvent) : Except JudgeError Tables := do
  let receipted ← tables.insertTaskReportReceipt taskId leaseVersion receipt
  receipted.enqueueJudgeResultOutbox
    ⟨receipt.eventId, taskId, leaseVersion, receipt.payloadSha256, payload⟩

/-- The task ends under its lease; a submission that was cancelled is not written. -/
def settleTask (taskId : TaskId) (leaseVersion : Nat) (held : TaskRow → Bool)
    (setTask : TaskRow → TaskRow) (setSubmission : Submission → Submission) (receipt : Receipt)
    (payload : JudgeResultEvent) : Except JudgeError Tables :=
  ((tables.updateTasks (fun id row => id = taskId.submissionId && held row)
    setTask).updateSubmissions (fun id row => id = taskId.submissionId && row.status ≠ .cancelled)
      setSubmission).recordReport taskId leaseVersion receipt payload

def markTaskSucceeded (now : Nat) (taskId : TaskId) (workerId : String) (leaseVersion : Nat)
    (transition : TaskSuccessTransition) :
    Except JudgeError (Unit × Tables) :=
  let held (row : TaskRow) := row.isLeasedTo workerId leaseVersion && row.isLive now
  match tables.tasks[taskId.submissionId]?.filter held with
  | some _ => do
      let after ← tables.settleTask taskId leaseVersion held
        (TaskRow.succeeded now transition.payloadSha256) (Submission.judged now transition)
        ⟨workerId, .result, transition.payloadSha256, transition.status, transition.outboxEventId⟩
        transition.outboxPayload
      return ((), after)
  | none =>
    if (tables.savedReport taskId workerId leaseVersion .result transition.payloadSha256).isSome
    then .error .taskTransitionAlreadySaved
    else .error .taskLeaseInvalid

def failTask (now : Nat) (taskId : TaskId) (workerId : String) (leaseVersion : Nat)
    (held : TaskRow → Bool) (transition : TaskFailureTransition) :
    Except JudgeError Tables :=
  tables.settleTask taskId leaseVersion held
    (TaskRow.failed now transition.message transition.payloadSha256)
    (Submission.failed now transition.status transition.message)
    ⟨workerId, .fail, transition.payloadSha256, transition.status, transition.outboxEventId⟩
    transition.outboxPayload

def retryTask (now : Nat) (taskId : TaskId) (workerId : String) (leaseVersion : Nat)
    (held : TaskRow → Bool) (transition : TaskFailureTransition) :
    Except JudgeError Tables :=
  ((tables.updateTasks (fun id row => id = taskId.submissionId && held row)
    (TaskRow.retried now transition.message transition.payloadSha256)).updateSubmissions
      (fun id row => id = taskId.submissionId && row.status ≠ .cancelled)
      (Submission.failed now .pending transition.message)).insertTaskReportReceipt taskId
        leaseVersion ⟨workerId, .fail, transition.payloadSha256, .pending, transition.outboxEventId⟩

def markTaskFailed (now : Nat) (taskId : TaskId) (workerId : String) (leaseVersion : Nat)
    (transition : TaskFailureTransition) :
    Except JudgeError (TaskFailureOutcome × Tables) :=
  let held (row : TaskRow) := row.isLeasedTo workerId leaseVersion && row.isLive now
  match tables.tasks[taskId.submissionId]?.filter held with
  | some row =>
    if transition.retryable && !taskRetryExhausted row.attempt then do
      let after ← tables.retryTask now taskId workerId leaseVersion held transition
      return (⟨.pending, true, some (now + taskRetryDelay row.attempt), false⟩, after)
    else do
      let after ← tables.failTask now taskId workerId leaseVersion held transition
      return (⟨transition.status, false, none, false⟩, after)
  | none =>
    match tables.savedReport taskId workerId leaseVersion .fail transition.payloadSha256 with
    | some receipt =>
      .ok (⟨receipt.responseStatus, receipt.responseStatus = .pending, none, true⟩, tables)
    | none => .error .taskLeaseInvalid

def isStillExpired (now : Nat) (task row : TaskRow) : Bool :=
  row.workerId.getD "" = task.workerId.getD "" && row.leaseVersion = task.leaseVersion &&
    row.attempt = task.attempt && row.isStale now

variable [JudgeDigests]

/-- `exhaustExpiredTask` and `scheduleExpiredTaskRetry`: one expired lease is recovered. -/
def recoverTask (now : Nat) (tables : Tables) (task : Nat × TaskRow) : Except JudgeError Tables :=
  if tables.tasks[task.1]?.any (isStillExpired now task.2) then
    if taskRetryExhausted task.2.attempt then
      tables.failTask now (deterministicTaskID task.1) (task.2.workerId.getD "")
        task.2.leaseVersion (isStillExpired now task.2) (expiredTaskFailureTransition task.1 task.2)
    else
      .ok ((tables.updateTasks (fun id row => id = task.1 && isStillExpired now task.2 row)
        (TaskRow.expired now)).updateSubmissions
          (fun id row => id = task.1 && row.status = .judging) Submission.expired)
  else .ok tables

def recoverStaleTasks (now : Nat) : Except JudgeError (Unit × Tables) := do
  let stale := (tables.selectTasks fun _ row => row.isStale now).insertionSort
    fun first second => first.2.id ≤ second.2.id
  let after ← stale.foldlM (recoverTask now) tables
  return ((), after)

end Tables

variable [JudgeDigests]

inductive JudgeCall where
  | getProblemMeta (problemId : Nat)
  | getSubmission (submissionId : Nat)
  | createSubmission (problemId userId : Nat) (language : String)
  | updateSubmissionSource (submissionId : Nat) (codePath codeSha256 resultPath : String)
  | markSubmissionSystemError (submissionId : Nat) (message : String)
  | cancelSubmission (submissionId userId : Nat) (reason : String)
  | resetSubmissionsForProblem (problemId : Nat)
  | ensureTaskForSubmission (submissionId : Nat)
  | requeueSubmission (submissionId : Nat)
  | upsertWorker (workerId : String)
  | drainWorker (workerId : String)
  | claimTasks (workerId : String) (languages : List String) (limit leaseMs : Nat)
      (taskIds : List TaskId)
  | refreshTaskLease (taskId : TaskId) (workerId : String) (leaseVersion leaseMs : Nat)
  | refreshClaimedTaskLease (taskId : TaskId) (workerId : String) (leaseVersion leaseMs : Nat)
  | releaseClaimedTasks (workerId : String) (claims : List (TaskId × Nat)) (reason : String)
  | recoverStaleTasks
  | getTaskForLease (taskId : TaskId) (workerId : String) (leaseVersion : Nat)
  | markTaskSucceeded (taskId : TaskId) (workerId : String) (leaseVersion : Nat)
      (transition : TaskSuccessTransition)
  | markTaskFailed (taskId : TaskId) (workerId : String) (leaseVersion : Nat)
      (transition : TaskFailureTransition)

def JudgeCall.Result : JudgeCall → Type
  | .getProblemMeta _ => ProblemMeta
  | .getSubmission _ => Submission
  | .createSubmission .. => Nat
  | .resetSubmissionsForProblem _ => List Nat
  | .claimTasks .. => List Tables.TaskLease
  | .refreshTaskLease .. => Tables.TaskLease
  | .refreshClaimedTaskLease .. => Tables.TaskLease
  | .releaseClaimedTasks .. => Nat
  | .getTaskForLease .. => Tables.TaskLease
  | .markTaskFailed .. => TaskFailureOutcome
  | _ => Unit

def Tables.perform (allowLegacyPackageDir : Bool) (now : Nat) :
    (call : JudgeCall) → Except JudgeError (call.Result × Tables)
  | .getProblemMeta problemId =>
    match tables.problems[problemId]? with
    | some problem => .ok (problem, tables)
    | none => .error (.refused "no rows in result set")
  | .getSubmission submissionId =>
    match tables.submissions[submissionId]? with
    | some submission => .ok (submission, tables)
    | none => .error .submissionNotFound
  | .createSubmission problemId userId language =>
    tables.createSubmission allowLegacyPackageDir problemId userId language
  | .updateSubmissionSource submissionId codePath codeSha256 resultPath =>
    .ok ((), tables.updateSubmissionSource submissionId codePath codeSha256 resultPath)
  | .markSubmissionSystemError submissionId message =>
    .ok ((), tables.markSubmissionSystemError now submissionId message)
  | .cancelSubmission submissionId userId reason =>
    .ok ((), tables.cancelSubmission now submissionId userId reason)
  | .resetSubmissionsForProblem problemId => .ok (tables.resetSubmissionsForProblem problemId)
  | .ensureTaskForSubmission submissionId =>
    .ok ((), tables.ensureTaskForSubmission now submissionId)
  | .requeueSubmission submissionId => tables.requeueSubmission now submissionId
  | .upsertWorker workerId =>
    .ok ((), { tables with
      workers := tables.workers.insert workerId (tables.workers[workerId]?.getD false) })
  | .drainWorker workerId =>
    match tables.workers[workerId]? with
    | some _ => .ok ((), { tables with workers := tables.workers.insert workerId true })
    | none => .error .workerNotFound
  | .claimTasks workerId languages limit leaseMs taskIds =>
    tables.claimTasks now workerId languages limit leaseMs taskIds
  | .refreshTaskLease taskId workerId leaseVersion leaseMs =>
    tables.refreshTaskLease now taskId workerId leaseVersion leaseMs
  | .refreshClaimedTaskLease taskId workerId leaseVersion leaseMs =>
    tables.refreshClaimedTaskLease now taskId workerId leaseVersion leaseMs
  | .releaseClaimedTasks workerId claims reason =>
    .ok (tables.releaseClaimedTasks now workerId claims reason)
  | .recoverStaleTasks => tables.recoverStaleTasks now
  | .getTaskForLease taskId workerId leaseVersion =>
    (tables.getTaskForLease taskId workerId leaseVersion).map fun lease => (lease, tables)
  | .markTaskSucceeded taskId workerId leaseVersion transition =>
    tables.markTaskSucceeded now taskId workerId leaseVersion transition
  | .markTaskFailed taskId workerId leaseVersion transition =>
    tables.markTaskFailed now taskId workerId leaseVersion transition

/-- Whether the database answers, refuses calls, or commits them while the answer is
lost. -/
inductive Connection where
  | answers | refuses | loses
  deriving DecidableEq, Repr

/-- The database, its clock and the configuration of the service. -/
structure JudgeState where
  tables : Tables
  now : Nat
  allowLegacyPackageDir : Bool
  connection : Connection

namespace JudgeState

def commit (state : JudgeState) (call : JudgeCall) : Except JudgeError call.Result × Tables :=
  transact state.tables (state.tables.perform state.allowLegacyPackageDir state.now call)

def exec (call : JudgeCall) (state : JudgeState) : Except JudgeError call.Result × JudgeState :=
  match state.connection with
  | .answers => ((state.commit call).1, { state with tables := (state.commit call).2 })
  | .refuses => (.error .unavailable, state)
  | .loses => (.error .unavailable, { state with tables := (state.commit call).2 })

theorem exec_tables (call : JudgeCall) (state : JudgeState) :
    (exec call state).2.tables = state.tables ∨
      (exec call state).2.tables = (state.commit call).2 := by
  unfold exec
  cases state.connection with
  | answers | loses => exact .inr rfl
  | refuses => exact .inl rfl

end JudgeState

end Judge

end UntitledOJ
