import UntitledOJ.ControlPlaneJob
import Mathlib.Data.List.Sort
import Std.Data.TreeMap.Lemmas

/-!
# The in-memory job store

The transition rules of `JobStore` as `MemoryJobStore` implements them.  Every operation returns its
reply with the store it leaves, since a rejected call may already have changed the store.
-/

namespace UntitledOJ

/-- The order of the idempotency index: by node, then by key. -/
def compareJobKey : String × String → String × String → Ordering :=
  compareLex (compareOn Prod.fst) (compareOn Prod.snd)

instance : Std.TransCmp compareJobKey :=
  inferInstanceAs (Std.TransCmp (compareLex (compareOn Prod.fst) (compareOn Prod.snd)))

instance : Std.LawfulEqCmp compareJobKey where
  compare_self := by simp [compareJobKey, compareLex, compareOn]
  eq_of_compare := by
    rintro ⟨firstNode, firstKey⟩ ⟨secondNode, secondKey⟩ equal
    simpa [compareJobKey, compareLex, compareOn, Ordering.then_eq_eq] using equal

structure MemoryJobStore where
  jobs : Std.TreeMap String Job
  idempotency : Std.TreeMap (String × String) String compareJobKey
  events : Std.TreeMap String (Std.TreeMap Nat JobEvent)

namespace MemoryJobStore

def empty : MemoryJobStore :=
  ⟨∅, ∅, ∅⟩

variable (store : MemoryJobStore)

def get (jobId : String) : Option Job :=
  store.jobs[jobId]?

def values : List Job :=
  store.jobs.toList.map Prod.snd

def putJob (jobId : String) (job : Job) : MemoryJobStore :=
  { store with jobs := store.jobs.insert jobId job }

/-- The first loop of `append_events`: an equal event is skipped, a different one stops the call,
and what was inserted stays. -/
def insertEvents (jobId : String) (nowMs : Int) :
    Std.TreeMap Nat JobEvent → List NewJobEvent → Except JobError Unit × Std.TreeMap Nat JobEvent
  | target, [] => (.ok (), target)
  | target, event :: rest =>
    let stored : JobEvent :=
      { jobId
        sequence := event.sequence
        eventType := event.eventType
        level := event.level
        message := event.message
        data := event.data
        createdAtMs := nowMs }
    match target[stored.sequence]? with
    | some existing =>
      if existing = stored then insertEvents jobId nowMs target rest
      else (.error (.eventConflict stored.sequence), target)
    | none => insertEvents jobId nowMs (target.insert stored.sequence stored) rest

def appendEvents (jobId : String) (nowMs : Int) (events : List NewJobEvent) :
    Except JobError Unit × MemoryJobStore :=
  let (outcome, target) :=
    insertEvents jobId nowMs (store.events[jobId]?.getD ∅) events
  (outcome, { store with events := store.events.insert jobId target })

def recoverExpiredJob (job : Job) (nowMs : Int) : Job :=
  let settled :=
    if job.status = .cancelRequested then
      { job with
        status := .needsAttention
        errorMessage := some "worker lease expired while cancellation outcome was unknown"
        completedAtMs := some nowMs }
    else if job.kind.isRetrySafeAfterLeaseExpiry ∧ job.attempt < job.maxAttempts then
      { job with
        status := .retryWait
        availableAtMs := nowMs + retryBackoffMs job.attempt
        errorMessage := some "worker lease expired; awaiting ledger reconciliation" }
    else
      { job with
        status := .needsAttention
        errorMessage := some (if job.kind.isRetrySafeAfterLeaseExpiry then
          "worker lease expired and retry budget was exhausted"
        else
          "worker lease expired with an unknown side-effect outcome; automatic retry is forbidden")
        completedAtMs := some nowMs }
  { settled with
    leaseOwner := none
    leaseToken := none
    leaseExpiresAtMs := none
    updatedAtMs := nowMs }

def leaseExpired (job : Job) (nowMs : Int) : Bool :=
  job.status.isHeld && job.leaseExpiresAtMs.any (· ≤ nowMs)

def leaseActive (job : Job) (token : String) (nowMs : Int) : Bool :=
  job.status.isHeld && job.leaseToken = some token && job.leaseExpiresAtMs.any (nowMs < ·)

def enqueue [Digests] (new : NewJob) (nowMs : Int) :
    Except JobError Job × MemoryJobStore :=
  if isBlank new.jobId || isBlank new.operationId || isBlank new.nodeId ||
      isBlank new.idempotencyKey then
    (.error (.invalidJob "job_id, operation_id, node_id, and idempotency_key are required"), store)
  else if new.maxAttempts = 0 then
    (.error (.invalidJob "max_attempts must be greater than zero"), store)
  else
    let payloadSha256 := canonicalPayloadSha256 new.payload
    let key := (new.nodeId, new.idempotencyKey)
    match store.idempotency[key]?.bind store.get with
    | some existing =>
      if existing.payloadSha256 ≠ payloadSha256 ∨ existing.kind ≠ new.kind ∨
          existing.operationId ≠ new.operationId then
        (.error .idempotencyConflict, store)
      else (.ok existing, store)
    | none =>
      if (store.get new.jobId).isSome then
        (.error (.jobIdConflict new.jobId), store)
      else
        let job : Job :=
          { jobId := new.jobId
            operationId := new.operationId
            nodeId := new.nodeId
            kind := new.kind
            payload := new.payload
            payloadSha256
            idempotencyKey := new.idempotencyKey
            status := .queued
            attempt := 0
            maxAttempts := new.maxAttempts
            availableAtMs := nowMs
            leaseOwner := none
            leaseToken := none
            leaseExpiresAtMs := none
            result := none
            errorMessage := none
            completionFingerprint := none
            createdAtMs := nowMs
            startedAtMs := none
            completedAtMs := none
            updatedAtMs := nowMs }
        (.ok job,
          { store with
            idempotency := store.idempotency.insert key new.jobId
            jobs := store.jobs.insert new.jobId job })

/-- The claim order: by availability, then age, then job id. -/
def claimsBefore (first second : Job) : Bool :=
  first.availableAtMs < second.availableAtMs ||
    (first.availableAtMs = second.availableAtMs &&
      (first.createdAtMs < second.createdAtMs ||
        (first.createdAtMs = second.createdAtMs && first.jobId < second.jobId)))

def firstClaim : List Job → Option Job
  | [] => none
  | job :: rest =>
    match firstClaim rest with
    | some best => if claimsBefore best job then some best else some job
    | none => some job

def claim (request : ClaimRequest) :
    Except JobError (Option Job) × MemoryJobStore :=
  if request.leaseMs ≤ 0 ∨ isBlank request.leaseToken then
    (.error (.invalidJob "lease_ms must be positive and lease_token is required"), store)
  else
    let candidates := store.values.filter fun job =>
      job.nodeId = request.nodeId && job.status.isClaimable && job.availableAtMs ≤ request.nowMs
    match firstClaim candidates with
    | none => (.ok none, store)
    | some job =>
      let claimed :=
        { job with
          status := .leased
          attempt := job.attempt + 1
          leaseOwner := some request.instanceId
          leaseToken := some request.leaseToken
          leaseExpiresAtMs := some (request.nowMs + request.leaseMs)
          startedAtMs := some (job.startedAtMs.getD request.nowMs)
          updatedAtMs := request.nowMs }
      (.ok (some claimed), store.putJob job.jobId claimed)

def heartbeat (request : HeartbeatRequest) :
    Except JobError Job × MemoryJobStore :=
  if request.leaseMs ≤ 0 then
    (.error (.invalidJob "lease_ms must be positive"), store)
  else
    match store.get request.jobId with
    | none => (.error (.notFound request.jobId), store)
    | some job =>
      if leaseExpired job request.nowMs then
        (.error .staleLease, store.putJob request.jobId (recoverExpiredJob job request.nowMs))
      else if leaseActive job request.leaseToken request.nowMs then
        match store.appendEvents request.jobId request.nowMs request.events with
        | (.error error, appended) => (.error error, appended)
        | (.ok _, appended) =>
          let renewed :=
            { job with
              leaseExpiresAtMs := some (request.nowMs + request.leaseMs)
              updatedAtMs := request.nowMs }
          (.ok renewed, appended.putJob request.jobId renewed)
      else (.error .staleLease, store)

def completeJob (job : Job) (request : CompleteRequest) (fingerprint : String) : Job :=
  let moved :=
    match request.status with
    | .succeeded => { job with status := .succeeded }
    | .failed => { job with status := .failed }
    | .cancelled => { job with status := .cancelled }
    | .needsAttention => { job with status := .needsAttention }
    | .retryableFailure =>
      if job.attempt < job.maxAttempts then
        { job with
          status := .retryWait
          availableAtMs := request.nowMs + retryBackoffMs job.attempt }
      else { job with status := .failed }
  let reported :=
    { moved with
      result := some request.result
      errorMessage := if request.errorMessage.isEmpty then none else some request.errorMessage
      updatedAtMs := request.nowMs }
  if reported.status.isTerminal then
    { reported with
      completedAtMs := some request.nowMs
      completionFingerprint := some fingerprint }
  else
    { reported with leaseOwner := none, leaseToken := none, leaseExpiresAtMs := none }

def complete [Digests] (request : CompleteRequest) :
    Except JobError Job × MemoryJobStore :=
  let fingerprint :=
    completionFingerprint request.status request.result request.errorMessage
  match store.get request.jobId with
  | none => (.error (.notFound request.jobId), store)
  | some job =>
    if job.status.isTerminal then
      if job.leaseToken = some request.leaseToken ∧
          job.completionFingerprint = some fingerprint then
        (.ok job, store)
      else (.error .staleLease, store)
    else if leaseExpired job request.nowMs then
      (.error .staleLease, store.putJob request.jobId (recoverExpiredJob job request.nowMs))
    else if leaseActive job request.leaseToken request.nowMs then
      match store.appendEvents request.jobId request.nowMs request.events with
      | (.error error, appended) => (.error error, appended)
      | (.ok _, appended) =>
        let completed := completeJob job request fingerprint
        (.ok completed, appended.putJob request.jobId completed)
    else (.error .staleLease, store)

def resolveExpiredSuccess [Digests] (request : ResolveExpiredSuccessRequest) :
    Except JobError Job × MemoryJobStore :=
  if request.result.isNull then
    (.error (.invalidJob "expired success resolution requires durable result evidence"), store)
  else
    let fingerprint := successfulCompletionFingerprint request.result
    match store.get request.jobId with
    | none => (.error (.notFound request.jobId), store)
    | some job =>
      if job.status = .succeeded then
        if job.result = some request.result ∧
            job.completionFingerprint = some fingerprint then
          (.ok job, store)
        else
          (.error (.invalidTransition job.status "SUCCEEDED_FROM_EXPIRED_EVIDENCE"), store)
      else if !job.status.isHeld then
        (.error (.invalidTransition job.status "SUCCEEDED_FROM_EXPIRED_EVIDENCE"), store)
      else if !(job.leaseExpiresAtMs.any (· ≤ request.nowMs)) then
        (.error .staleLease, store)
      else
        let resolved :=
          { job with
            status := .succeeded
            result := some request.result
            errorMessage := none
            completionFingerprint := some fingerprint
            completedAtMs := some request.nowMs
            updatedAtMs := request.nowMs }
        (.ok resolved, store.putJob request.jobId resolved)

/-- The job after a cancellation request, which leaves a terminal job alone. -/
def cancelJob (job : Job) (nowMs : Int) : Job :=
  match job.status with
  | .queued | .retryWait =>
    { job with status := .cancelled, completedAtMs := some nowMs, updatedAtMs := nowMs }
  | .leased => { job with status := .cancelRequested, updatedAtMs := nowMs }
  | .cancelRequested => { job with updatedAtMs := nowMs }
  | .succeeded | .failed | .cancelled | .needsAttention => job

def requestCancel (jobId : String) (nowMs : Int) :
    Except JobError Job × MemoryJobStore :=
  match store.get jobId with
  | none => (.error (.notFound jobId), store)
  | some job => (.ok (cancelJob job nowMs), store.putJob jobId (cancelJob job nowMs))

def expiredLeaseStatusOrder : JobStatus → Nat
  | .cancelRequested => 0
  | .leased => 1
  | _ => 2

/-- The order of `expired_leases`: by status, then deadline, then job id. -/
def expiresBefore (first second : Job) : Bool :=
  let firstOrder := expiredLeaseStatusOrder first.status
  let secondOrder := expiredLeaseStatusOrder second.status
  let firstDeadline := first.leaseExpiresAtMs.getD 0
  let secondDeadline := second.leaseExpiresAtMs.getD 0
  firstOrder < secondOrder ||
    (firstOrder = secondOrder &&
      (firstDeadline < secondDeadline ||
        (firstDeadline = secondDeadline && first.jobId ≤ second.jobId)))

/-- The jobs whose lease has expired; each of them has a deadline. -/
def expiredLeases (nowMs : Int) : List Job :=
  (store.values.filter fun job => leaseExpired job nowMs).insertionSort
    fun first second => expiresBefore first second

def recoverJobs (store : MemoryJobStore) (nowMs : Int) : List Job → List Job × MemoryJobStore
  | [] => ([], store)
  | job :: rest =>
    let recovered := recoverExpiredJob job nowMs
    let (others, after) := (store.putJob job.jobId recovered).recoverJobs nowMs rest
    (recovered :: others, after)

def recoverExpired (nowMs : Int) : List Job × MemoryJobStore :=
  store.recoverJobs nowMs (store.expiredLeases nowMs)

end MemoryJobStore

end UntitledOJ
