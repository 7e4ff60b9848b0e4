import UntitledOJ.JobDocument
import UntitledOJ.JobStoreCalls

/-!
# The SQLite job store

`SqliteJobStore` keeps a row of searchable columns and a JSON text per job, counts the jobs by
status, and records observed lease expiries.  A call that fails before its commit leaves the tables
alone.
-/

namespace UntitledOJ

/-- A row of `orchestrator_jobs`. -/
structure JobRow (Text : Type) where
  (jobId operationId nodeId idempotencyKey payloadSha256 status : String)
  availableAtMs : Int
  createdAtMs : Int
  leaseExpiresAtMs : Option Int
  updatedAtMs : Int
  payload : Text

/-- The jobs, the status counts, the `expired_job_lease_transitions` counter, the active
anomalies and the events. -/
structure JobTables (Text : Type) where
  jobs : Std.TreeMap String (JobRow Text)
  statusCounts : Std.TreeMap String Nat
  expiredLeaseTransitions : Nat
  expiredLeaseAnomalies : Std.TreeMap String String
  events : Std.TreeMap String (Std.TreeMap Nat Text)

def i64Max : Nat := 2 ^ 63 - 1

namespace JobTables

variable {Text : Type}

def initial : JobTables Text :=
  { jobs := ∅
    statusCounts := Std.TreeMap.ofList (JobStatus.all.map fun status => (statusText status, 0))
    expiredLeaseTransitions := 0
    expiredLeaseAnomalies := ∅
    events := ∅ }

def rows (tables : JobTables Text) : List (JobRow Text) :=
  tables.jobs.toList.map Prod.snd

def adjustStatusCount (tables : JobTables Text) (status : String) (delta : Int) :
    Except JobError (JobTables Text) :=
  match tables.statusCounts[status]? with
  | some jobCount =>
    if 0 ≤ jobCount + delta then
      .ok { tables with
        statusCounts := tables.statusCounts.insert status (jobCount + delta).toNat }
    else .error (.persistence ("job status count for " ++ status ++ " is missing or exhausted"))
  | none => .error (.persistence ("job status count for " ++ status ++ " is missing or exhausted"))

def moveStatusCount (tables : JobTables Text) (previous next : String) :
    Except JobError (JobTables Text) :=
  if previous ≠ next then do
    let lowered ← tables.adjustStatusCount previous (-1)
    lowered.adjustStatusCount next 1
  else .ok tables

/-- `increment_counter` for the expired lease counter. -/
def incrementCounter (tables : JobTables Text) (delta : Nat) :
    Except JobError (JobTables Text) :=
  if delta = 0 then .ok tables
  else if tables.expiredLeaseTransitions + delta ≤ i64Max then
    .ok { tables with expiredLeaseTransitions := tables.expiredLeaseTransitions + delta }
  else
    .error (.persistence
      "anomaly counter expired_job_lease_transitions is missing or exhausted")

/-- `DELETE FROM orchestrator_active_expired_lease_anomalies WHERE job_id = ?1`. -/
def forgetAnomaly (tables : JobTables Text) (jobId : String) : JobTables Text :=
  { tables with expiredLeaseAnomalies := tables.expiredLeaseAnomalies.erase jobId }

end JobTables

def leaseEpisodeIdentity [Digests] (job : Job) : Option String :=
  if job.status.isHeld then
    job.leaseExpiresAtMs.map fun deadline =>
      toString job.attempt ++ ":" ++ toString deadline ++ ":" ++
        Digests.sha256Hex (job.leaseToken.getD "")
  else none

def clearLease (job : Job) : Job :=
  { job with leaseOwner := none, leaseToken := none, leaseExpiresAtMs := none }

def ensureActiveLease (job : Job) (token : String) (nowMs : Int) : Except JobError Unit :=
  if job.status.isHeld && job.leaseToken = some token && job.leaseExpiresAtMs.any (nowMs < ·) then
    .ok ()
  else .error .staleLease

namespace JobTables

variable {Text : Type} [JsonText Text]

/-- `serde_json::from_str` of a job, with its error as a persistence error. -/
def readJob (payload : Text) : Except JobError Job :=
  match JsonText.fromText payload >>= Job.ofDocument with
  | .ok job => .ok job
  | .error message => .error (.persistence message)

def rowOf (job : Job) : JobRow Text :=
  { jobId := job.jobId
    operationId := job.operationId
    nodeId := job.nodeId
    idempotencyKey := job.idempotencyKey
    payloadSha256 := job.payloadSha256
    status := statusText job.status
    availableAtMs := job.availableAtMs
    createdAtMs := job.createdAtMs
    leaseExpiresAtMs := job.leaseExpiresAtMs
    updatedAtMs := job.updatedAtMs
    payload := JsonText.toText job.toDocument }

/-- `insert_job`, with the primary key and the unique key of the table. -/
def insertJob (tables : JobTables Text) (job : Job) : Except JobError (JobTables Text) :=
  if tables.jobs.contains job.jobId then
    .error (.persistence "UNIQUE constraint failed: orchestrator_jobs.job_id")
  else if tables.rows.any fun row =>
      row.nodeId = job.nodeId && row.idempotencyKey = job.idempotencyKey then
    .error (.persistence
      "UNIQUE constraint failed: orchestrator_jobs.node_id, orchestrator_jobs.idempotency_key")
  else
    { tables with jobs := tables.jobs.insert job.jobId (rowOf job) }.adjustStatusCount
      (statusText job.status) 1

/-- `update_job`; the creation time of the row stays. -/
def updateJob [Digests] (tables : JobTables Text) (job : Job) :
    Except JobError (JobTables Text) :=
  match tables.jobs[job.jobId]? with
  | none => .error (.persistence "Query returned no rows")
  | some row => do
      let previous ← readJob row.payload
      let updated : JobTables Text :=
        { tables with
          jobs := tables.jobs.insert job.jobId
            { (rowOf job : JobRow Text) with createdAtMs := row.createdAtMs } }
      let counted ← updated.moveStatusCount row.status (statusText job.status)
      return if leaseEpisodeIdentity previous ≠ leaseEpisodeIdentity job then
        counted.forgetAnomaly job.jobId
      else counted

def requiredJob (tables : JobTables Text) (jobId : String) : Except JobError Job :=
  match tables.jobs[jobId]? with
  | none => .error (.notFound jobId)
  | some row => readJob row.payload

/-- Forget the observed expiry of the job's lease, and tell whether this very
lease had been observed. -/
def takeAnomaly [Digests] (tables : JobTables Text) (job : Job) : Bool × JobTables Text :=
  (match leaseEpisodeIdentity job with
    | some identity => tables.expiredLeaseAnomalies[job.jobId]? = some identity
    | none => false,
    tables.forgetAnomaly job.jobId)

/-- `recover_expired_job`: the recovered job, and whether its expiry was newly
observed. -/
def recoverExpiredJob [Digests] (tables : JobTables Text) (job : Job) (nowMs : Int) :
    Except JobError (Job × Bool × JobTables Text) := do
  let (wasAlreadyObserved, forgotten) := tables.takeAnomaly job
  let settled :=
    if job.status = .cancelRequested then
      { job with
        status := .needsAttention
        errorMessage := some "worker lease expired while cancellation outcome was unknown"
        completedAtMs := some nowMs }
    else if job.kind.isRetrySafeAfterLeaseExpiry ∧ job.attempt < job.maxAttempts then
      { job with
        status := .retryWait
        availableAtMs := nowMs + retryBackoffMs job.attempt
        errorMessage := some "worker lease expired; awaiting ledger reconciliation" }
    else
      { job with
        status := .needsAttention
        errorMessage := some (if job.kind.isRetrySafeAfterLeaseExpiry then
          "worker lease expired and retry budget was exhausted"
        else
          "worker lease expired with an unknown side-effect outcome; automatic retry is forbidden")
        completedAtMs := some nowMs }
  let recovered := { clearLease settled with updatedAtMs := nowMs }
  let updated ← forgotten.updateJob recovered
  return (recovered, !wasAlreadyObserved, updated)

def appendEvents (tables : JobTables Text) (jobId : String) (nowMs : Int) :
    List NewJobEvent → Except JobError (JobTables Text)
  | [] => .ok tables
  | event :: rest =>
    let stored : JobEvent :=
      { jobId
        sequence := event.sequence
        eventType := event.eventType
        level := event.level
        message := event.message
        data := event.data
        createdAtMs := nowMs }
    let known := tables.events[jobId]?.getD ∅
    match known[event.sequence]? with
    | some payload =>
      match JsonText.fromText payload >>= JobEvent.ofDocument with
      | .error message => .error (.persistence message)
      | .ok existing =>
        if existing ≠ stored then .error (.eventConflict event.sequence)
        else tables.appendEvents jobId nowMs rest
    | none =>
      { tables with
        events := tables.events.insert jobId
          (known.insert event.sequence (JsonText.toText stored.toDocument)) }.appendEvents
        jobId nowMs rest

/-- The outcome of an immediate transaction: without a commit the tables are
rolled back. -/
def transact {α : Type} (tables : JobTables Text)
    (outcome : Except JobError (α × JobTables Text)) : Except JobError α × JobTables Text :=
  match outcome with
  | .ok (result, committed) => (.ok result, committed)
  | .error error => (.error error, tables)

/-- A transaction that commits and may still answer with an error. -/
def transactThen {α : Type} (tables : JobTables Text)
    (outcome : Except JobError (Except JobError α × JobTables Text)) :
    Except JobError α × JobTables Text :=
  match outcome with
  | .ok (result, committed) => (result, committed)
  | .error error => (.error error, tables)

def validateNewJob (new : NewJob) : Except JobError Unit :=
  if isBlank new.jobId || isBlank new.operationId || isBlank new.nodeId ||
      isBlank new.idempotencyKey then
    .error (.invalidJob "job_id, operation_id, node_id, and idempotency_key are required")
  else if new.maxAttempts = 0 then
    .error (.invalidJob "max_attempts must be greater than zero")
  else .ok ()

def enqueue [Digests] (tables : JobTables Text) (new : NewJob) (nowMs : Int) :
    Except JobError Job × JobTables Text :=
  tables.transact do
    validateNewJob new
    let payloadSha256 := canonicalPayloadSha256 new.payload
    match tables.rows.find? fun row =>
        row.nodeId = new.nodeId && row.idempotencyKey = new.idempotencyKey with
    | some row =>
      let existing ← readJob row.payload
      if existing.payloadSha256 ≠ payloadSha256 ∨ existing.kind ≠ new.kind ∨
          existing.operationId ≠ new.operationId then
        .error .idempotencyConflict
      else return (existing, tables)
    | none =>
      if tables.jobs.contains new.jobId then .error (.jobIdConflict new.jobId)
      else
        let job : Job :=
          { jobId := new.jobId
            operationId := new.operationId
            nodeId := new.nodeId
            kind := new.kind
            payload := new.payload
            payloadSha256
            idempotencyKey := new.idempotencyKey
            status := .queued
            attempt := 0
            maxAttempts := new.maxAttempts
            availableAtMs := nowMs
            leaseOwner := none
            leaseToken := none
            leaseExpiresAtMs := none
            result := none
            errorMessage := none
            completionFingerprint := none
            createdAtMs := nowMs
            startedAtMs := none
            completedAtMs := none
            updatedAtMs := nowMs }
        let inserted ← tables.insertJob job
        return (job, inserted)

/-- `ORDER BY available_at_ms, created_at_ms, job_id`. -/
def claimOrder (first second : JobRow Text) : Bool :=
  first.availableAtMs < second.availableAtMs ||
    (first.availableAtMs = second.availableAtMs &&
      (first.createdAtMs < second.createdAtMs ||
        (first.createdAtMs = second.createdAtMs && first.jobId ≤ second.jobId)))

def claimable (tables : JobTables Text) (nodeId : String) (nowMs : Int) : Option (JobRow Text) :=
  ((tables.rows.filter fun row =>
      row.nodeId = nodeId && (row.status = "QUEUED" || row.status = "RETRY_WAIT") &&
        row.availableAtMs ≤ nowMs).insertionSort fun first second =>
    claimOrder first second).head?

def claim [Digests] (tables : JobTables Text) (request : ClaimRequest) :
    Except JobError (Option Job) × JobTables Text :=
  if request.leaseMs ≤ 0 ∨ isBlank request.leaseToken then
    (.error (.invalidJob "lease_ms must be positive and lease_token is required"), tables)
  else
    tables.transact do
      match tables.claimable request.nodeId request.nowMs with
      | none => return (none, tables)
      | some row =>
        let job ← readJob row.payload
        let claimed :=
          { job with
            status := .leased
            attempt := job.attempt + 1
            leaseOwner := some request.instanceId
            leaseToken := some request.leaseToken
            leaseExpiresAtMs := some (request.nowMs + request.leaseMs)
            startedAtMs := some (job.startedAtMs.getD request.nowMs)
            updatedAtMs := request.nowMs }
        let updated ← tables.updateJob claimed
        return (some claimed, updated)

def leaseIsExpired (job : Job) (nowMs : Int) : Bool :=
  job.status.isHeld && job.leaseExpiresAtMs.any (· ≤ nowMs)

/-- The early exit of `heartbeat` and `complete` for an expired lease. -/
def observeExpiry [Digests] (tables : JobTables Text) (job : Job) (nowMs : Int) :
    Except JobError (Except JobError Job × JobTables Text) := do
  let (_, newlyObserved, recovered) ← tables.recoverExpiredJob job nowMs
  let counted ← recovered.incrementCounter (if newlyObserved then 1 else 0)
  return (.error .staleLease, counted)

def heartbeat [Digests] (tables : JobTables Text) (request : HeartbeatRequest) :
    Except JobError Job × JobTables Text :=
  if request.leaseMs ≤ 0 then
    (.error (.invalidJob "lease_ms must be positive"), tables)
  else
    tables.transactThen do
      let job ← tables.requiredJob request.jobId
      if leaseIsExpired job request.nowMs then tables.observeExpiry job request.nowMs
      else
        ensureActiveLease job request.leaseToken request.nowMs
        let appended ← tables.appendEvents request.jobId request.nowMs request.events
        let renewed :=
          { job with
            leaseExpiresAtMs := some (request.nowMs + request.leaseMs)
            updatedAtMs := request.nowMs }
        let updated ← appended.updateJob renewed
        return (.ok renewed, updated)

def completeJob (job : Job) (request : CompleteRequest) (fingerprint : String) : Job :=
  let moved :=
    match request.status with
    | .succeeded => { job with status := .succeeded }
    | .failed => { job with status := .failed }
    | .cancelled => { job with status := .cancelled }
    | .needsAttention => { job with status := .needsAttention }
    | .retryableFailure =>
      if job.attempt < job.maxAttempts then
        { job with
          status := .retryWait
          availableAtMs := request.nowMs + retryBackoffMs job.attempt }
      else { job with status := .failed }
  let reported :=
    { moved with
      result := some request.result
      errorMessage := if request.errorMessage.isEmpty then none else some request.errorMessage
      updatedAtMs := request.nowMs }
  if reported.status.isTerminal then
    { reported with
      completedAtMs := some request.nowMs
      completionFingerprint := some fingerprint }
  else clearLease reported

def complete [Digests] (tables : JobTables Text) (request : CompleteRequest) :
    Except JobError Job × JobTables Text :=
  let fingerprint :=
    completionFingerprint request.status request.result request.errorMessage
  tables.transactThen do
    let job ← tables.requiredJob request.jobId
    if job.status.isTerminal then
      if job.leaseToken = some request.leaseToken ∧
          job.completionFingerprint = some fingerprint then
        return (.ok job, tables)
      else .error .staleLease
    else if leaseIsExpired job request.nowMs then tables.observeExpiry job request.nowMs
    else
      ensureActiveLease job request.leaseToken request.nowMs
      let appended ← tables.appendEvents request.jobId request.nowMs request.events
      let completed := completeJob job request fingerprint
      let updated ← appended.updateJob completed
      return (.ok completed, updated)

def validateExpiredSuccessResult (result : Value) : Except JobError Unit :=
  if result.isNull then
    .error (.invalidJob "expired success resolution requires durable result evidence")
  else .ok ()

def resolveExpiredSuccess [Digests] (tables : JobTables Text)
    (request : ResolveExpiredSuccessRequest) : Except JobError Job × JobTables Text :=
  tables.transact do
    let job ← tables.requiredJob request.jobId
    validateExpiredSuccessResult request.result
    let fingerprint := successfulCompletionFingerprint request.result
    if job.status = .succeeded then
      if job.result = some request.result ∧ job.completionFingerprint = some fingerprint then
        return (job, tables)
      else .error (.invalidTransition job.status "SUCCEEDED_FROM_EXPIRED_EVIDENCE")
    else if !job.status.isHeld then
      .error (.invalidTransition job.status "SUCCEEDED_FROM_EXPIRED_EVIDENCE")
    else if !(job.leaseExpiresAtMs.any (· ≤ request.nowMs)) then .error .staleLease
    else
      let (wasAlreadyObserved, forgotten) := tables.takeAnomaly job
      let resolved :=
        { job with
          status := .succeeded
          result := some request.result
          errorMessage := none
          completionFingerprint := some fingerprint
          completedAtMs := some request.nowMs
          updatedAtMs := request.nowMs }
      let updated ← forgotten.updateJob resolved
      let counted ← updated.incrementCounter (if wasAlreadyObserved then 0 else 1)
      return (resolved, counted)

def requestCancel [Digests] (tables : JobTables Text) (jobId : String) (nowMs : Int) :
    Except JobError Job × JobTables Text :=
  tables.transact do
    let job ← tables.requiredJob jobId
    let write (cancelled : Job) : Except JobError (Job × JobTables Text) := do
      let updated ← tables.updateJob { cancelled with updatedAtMs := nowMs }
      return ({ cancelled with updatedAtMs := nowMs }, updated)
    match job.status with
    | .queued | .retryWait =>
      write { job with status := .cancelled, completedAtMs := some nowMs }
    | .leased => write { job with status := .cancelRequested }
    | .cancelRequested => write job
    | .succeeded | .failed | .cancelled | .needsAttention => return (job, tables)

/-- `ORDER BY status, lease_expires_at_ms, job_id`; the selected rows have a
deadline. -/
def expiryOrder (first second : JobRow Text) : Bool :=
  let firstDeadline := first.leaseExpiresAtMs.getD 0
  let secondDeadline := second.leaseExpiresAtMs.getD 0
  first.status < second.status ||
    (first.status = second.status &&
      (firstDeadline < secondDeadline ||
        (firstDeadline = secondDeadline && first.jobId ≤ second.jobId)))

/-- The texts that `expired_leases` and `recover_expired` select. -/
def expiredPayloads (tables : JobTables Text) (nowMs : Int) : List Text :=
  ((tables.rows.filter fun row =>
      (row.status = "LEASED" || row.status = "CANCEL_REQUESTED") &&
        row.leaseExpiresAtMs.any (· ≤ nowMs)).insertionSort fun first second =>
    expiryOrder first second).map (·.payload)

def expiredLeases (tables : JobTables Text) (nowMs : Int) : Except JobError (List Job) :=
  (tables.expiredPayloads nowMs).mapM readJob

def recoverPayloads [Digests] (nowMs : Int) :
    JobTables Text → List Text → Except JobError (List Job × Nat × JobTables Text)
  | tables, [] => .ok ([], 0, tables)
  | tables, payload :: rest => do
      let job ← readJob payload
      let (recovered, newlyObserved, updated) ← tables.recoverExpiredJob job nowMs
      let (others, observed, after) ← recoverPayloads nowMs updated rest
      return (recovered :: others, (if newlyObserved then 1 else 0) + observed, after)

def recoverExpired [Digests] (tables : JobTables Text) (nowMs : Int) :
    Except JobError (List Job) × JobTables Text :=
  tables.transact do
    let (recovered, newlyObserved, updated) ←
      recoverPayloads nowMs tables (tables.expiredPayloads nowMs)
    let counted ← updated.incrementCounter newlyObserved
    return (recovered, counted)

def get (tables : JobTables Text) (jobId : String) : Except JobError (Option Job) :=
  match tables.jobs[jobId]? with
  | none => .ok none
  | some row => (readJob row.payload).map some

def exec [Digests] (tables : JobTables Text) : JobCall → JobReply × JobTables Text
  | .enqueue new nowMs => (tables.enqueue new nowMs).map .job id
  | .claim request => (tables.claim request).map .claimed id
  | .heartbeat request => (tables.heartbeat request).map .job id
  | .complete request => (tables.complete request).map .job id
  | .resolveExpiredSuccess request => (tables.resolveExpiredSuccess request).map .job id
  | .requestCancel jobId nowMs => (tables.requestCancel jobId nowMs).map .job id
  | .recoverExpired nowMs => (tables.recoverExpired nowMs).map .jobs id
  | .expiredLeases nowMs => (.jobs (tables.expiredLeases nowMs), tables)

end JobTables

end UntitledOJ
