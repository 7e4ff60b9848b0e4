import UntitledOJ.JobDocument
import UntitledOJ.CallSequence
import UntitledOJ.KeyedTable

/-!
# The ledger of an agent

`AgentLedger` records in SQLite what every job asked for, the state of its execution, and the
completion to replay when the job is delivered again.  A restart is `recover_interrupted`.
-/

namespace UntitledOJ

def interruptedMessage : String :=
  "agent restarted while a runtime mutation may have been in flight"

inductive LedgerError where
  | json (message : String)
  | payloadConflict (jobId : String)
  | notRunning (jobId : String)
  | invalidState (text : String)
  deriving DecidableEq, Repr

inductive LedgerRunState where
  | running | retryableFailure | succeeded | failed | cancelled | needsAttention
  deriving DecidableEq, Repr

namespace LedgerRunState

def asStr : LedgerRunState → String
  | .running => "RUNNING"
  | .retryableFailure => "RETRYABLE_FAILURE"
  | .succeeded => "SUCCEEDED"
  | .failed => "FAILED"
  | .cancelled => "CANCELLED"
  | .needsAttention => "NEEDS_ATTENTION"

def parse : String → Except LedgerError LedgerRunState
  | "RUNNING" => .ok .running
  | "RETRYABLE_FAILURE" => .ok .retryableFailure
  | "SUCCEEDED" => .ok .succeeded
  | "FAILED" => .ok .failed
  | "CANCELLED" => .ok .cancelled
  | "NEEDS_ATTENTION" => .ok .needsAttention
  | other => .error (.invalidState other)

@[simp] theorem parse_asStr (state : LedgerRunState) : parse state.asStr = .ok state := by
  cases state <;> rfl

end LedgerRunState

structure StoredCompletion where
  status : CompletionStatus
  result : Value
  errorMessage : String
  events : List NewJobEvent
  deriving DecidableEq

inductive BeginDecision where
  | execute (attempt : Nat)
  | replay (completion : StoredCompletion)
  deriving DecidableEq

def stateForCompletion : CompletionStatus → LedgerRunState
  | .succeeded => .succeeded
  | .retryableFailure => .retryableFailure
  | .failed => .failed
  | .cancelled => .cancelled
  | .needsAttention => .needsAttention

def completionStatusStr : CompletionStatus → String
  | .succeeded => "SUCCEEDED"
  | .retryableFailure => "RETRYABLE_FAILURE"
  | .failed => "FAILED"
  | .cancelled => "CANCELLED"
  | .needsAttention => "NEEDS_ATTENTION"

def nullableMessage (message : String) : Option String :=
  if message.isEmpty then none else some message

def JobKind.json (kind : JobKind) : String :=
  "\"" ++ kind.name ++ "\""

namespace NewJobEvent

def toDocument (event : NewJobEvent) : Value :=
  .object
    [("sequence", .writeNat event.sequence),
      ("event_type", .string event.eventType),
      ("level", .string event.level),
      ("message", .string event.message),
      ("data", event.data)]

def ofDocument (document : Value) : Except String NewJobEvent := do
  return {
    sequence := ← document.required "sequence" Value.readU64
    eventType := ← document.required "event_type" Value.readString
    level := ← document.required "level" Value.readString
    message := ← document.required "message" Value.readString
    data := ← document.required "data" .ok }

theorem ofDocument_toDocument (event : NewJobEvent) : ofDocument event.toDocument = .ok event := by
  rfl

def listToDocument (events : List NewJobEvent) : Value :=
  .array (events.map toDocument)

def listOfDocument : Value → Except String (List NewJobEvent)
  | .array items => items.mapM ofDocument
  | _ => .error "invalid type: expected a sequence"

theorem listOfDocument_listToDocument (events : List NewJobEvent) :
    listOfDocument (listToDocument events) = .ok events := by
  simp only [listOfDocument, listToDocument]
  induction events with
  | nil => rfl
  | cons event rest ih =>
    rw [List.map_cons, List.mapM_cons, ofDocument_toDocument, ih]
    rfl

end NewJobEvent

/-- A row of `job_runs`. -/
structure JobRunRow (Text : Type) where
  (jobKind payloadSha256 state : String)
  attempt : Nat
  leaseToken : String
  resultJson : Option Text
  (completionStatus errorMessage : Option String)
  eventsJson : Text
  startedAtMs : Int
  completedAtMs : Option Int
  updatedAtMs : Int

/-- The state of a row of `job_steps`, which an interruption fails. -/
structure JobStepRow where
  jobId : String
  attempt : Nat
  stepIndex : Nat
  state : String
  errorMessage : Option String
  completedAtMs : Option Int

/-- The tables `job_runs` and `job_steps`. -/
structure AgentLedger (Text : Type) where
  runs : Std.TreeMap String (JobRunRow Text)
  steps : List JobStepRow

namespace AgentLedger

variable {Text : Type} [JsonText Text]

def empty : AgentLedger Text :=
  ⟨∅, []⟩

def u32Max : Nat := 2 ^ 32 - 1

def noEvents : Text :=
  JsonText.toText (NewJobEvent.listToDocument [])

def failSteps (ledger : AgentLedger Text) (selected : JobStepRow → Bool) (nowMs : Int) :
    List JobStepRow :=
  ledger.steps.map fun step =>
    if step.state = "RUNNING" && selected step then
      { step with
        state := "FAILED"
        errorMessage := some interruptedMessage
        completedAtMs := some nowMs }
    else step

def storedCompletion (state : LedgerRunState) (result : Option Text) (status error : Option String)
    (events : Text) : Except LedgerError StoredCompletion := do
  let status ←
    match status with
    | some "SUCCEEDED" => .ok CompletionStatus.succeeded
    | some "RETRYABLE_FAILURE" => .ok .retryableFailure
    | some "FAILED" => .ok .failed
    | some "CANCELLED" => .ok .cancelled
    | some "NEEDS_ATTENTION" => .ok .needsAttention
    | some other => .error (.invalidState other)
    | none =>
      if state = .running then .error (.invalidState "RUNNING completion")
      else .error (.invalidState "missing completion")
  let result ←
    match result with
    | none => .ok .null
    | some text =>
      match JsonText.fromText text with
      | .ok value => .ok value
      | .error message => .error (.json message)
  let events ←
    match JsonText.fromText events >>= NewJobEvent.listOfDocument with
    | .ok events => .ok events
    | .error message => .error (.json message)
  return { status, result, errorMessage := error.getD "", events }

/-- The completion of an execution that another `begin` finds running. -/
def superseded : StoredCompletion :=
  { status := .needsAttention
    result := .object [("recovered_without_process_restart", .bool true)]
    errorMessage := interruptedMessage
    events := [] }

def begin (ledger : AgentLedger Text) (jobId : String) (kind : JobKind) (payloadSha256 : String)
    (leaseToken : String) (nowMs : Int) : Except LedgerError BeginDecision × AgentLedger Text :=
  match ledger.runs[jobId]? with
  | none =>
    (.ok (.execute 1),
      { ledger with
        runs := ledger.runs.insert jobId
          { jobKind := kind.json
            payloadSha256
            state := "RUNNING"
            attempt := 1
            leaseToken
            resultJson := none
            completionStatus := none
            errorMessage := none
            eventsJson := noEvents
            startedAtMs := nowMs
            completedAtMs := none
            updatedAtMs := nowMs } })
  | some row =>
    if row.payloadSha256 ≠ payloadSha256 ∨ row.jobKind ≠ kind.json then
      (.error (.payloadConflict jobId), ledger)
    else
      match LedgerRunState.parse row.state with
      | .error error => (.error error, ledger)
      | .ok .retryableFailure =>
        let nextAttempt := min (row.attempt + 1) u32Max
        (.ok (.execute nextAttempt),
          { ledger with
            runs := ledger.runs.insert jobId
              { row with
                state := "RUNNING"
                attempt := nextAttempt
                leaseToken
                resultJson := none
                completionStatus := none
                errorMessage := none
                eventsJson := noEvents
                completedAtMs := none
                startedAtMs := nowMs
                updatedAtMs := nowMs } })
      | .ok .running =>
        (.ok (.replay superseded),
          { runs := ledger.runs.insert jobId
              { row with
                state := "NEEDS_ATTENTION"
                leaseToken
                resultJson := some (JsonText.toText superseded.result)
                completionStatus := some "NEEDS_ATTENTION"
                errorMessage := some interruptedMessage
                completedAtMs := some nowMs
                updatedAtMs := nowMs }
            steps := ledger.failSteps
              (fun step => step.jobId = jobId && step.attempt = row.attempt) nowMs })
      | .ok state =>
        match storedCompletion state row.resultJson row.completionStatus row.errorMessage
            row.eventsJson with
        | .error error => (.error error, ledger)
        | .ok completion =>
          (.ok (.replay completion),
            { ledger with
              runs := ledger.runs.insert jobId
                { row with leaseToken, updatedAtMs := nowMs } })

def finishRow (row : JobRunRow Text) (completion : StoredCompletion) (nowMs : Int) :
    JobRunRow Text :=
  { row with
    state := (stateForCompletion completion.status).asStr
    completionStatus := some (completionStatusStr completion.status)
    resultJson := some (JsonText.toText completion.result)
    errorMessage := nullableMessage completion.errorMessage
    eventsJson := JsonText.toText (NewJobEvent.listToDocument completion.events)
    completedAtMs := some nowMs
    updatedAtMs := nowMs }

def finish (ledger : AgentLedger Text) (jobId : String) (completion : StoredCompletion)
    (nowMs : Int) : Except LedgerError Unit × AgentLedger Text :=
  match ledger.runs[jobId]? with
  | none => (.error (.notRunning jobId), ledger)
  | some row =>
    if row.state = "RUNNING" then
      (.ok (), { ledger with
        runs := ledger.runs.insert jobId (finishRow row completion nowMs) })
    else (.error (.notRunning jobId), ledger)

/-- The completion of an execution that a restart interrupted. -/
def interrupted : StoredCompletion :=
  { status := .needsAttention
    result := .object [("recovered_after_restart", .bool true)]
    errorMessage := interruptedMessage
    events := [] }

def interruptRow (nowMs : Int) (row : JobRunRow Text) : JobRunRow Text :=
  if row.state = "RUNNING" then
    { row with
      state := "NEEDS_ATTENTION"
      completionStatus := some "NEEDS_ATTENTION"
      resultJson := some (JsonText.toText interrupted.result)
      errorMessage := some interruptedMessage
      completedAtMs := some nowMs
      updatedAtMs := nowMs }
  else row

/-- `recover_interrupted`, with the number of runs it recovered. -/
def recoverInterrupted (ledger : AgentLedger Text) (nowMs : Int) : Nat × AgentLedger Text :=
  ((tableRows ledger.runs).countP fun row => row.state = "RUNNING",
    { runs := ledger.runs.map fun _ row => interruptRow nowMs row
      steps := ledger.failSteps
        (fun step => ledger.runs[step.jobId]?.any fun row => row.state = "RUNNING") nowMs })

end AgentLedger

inductive LedgerCall where
  | begin (jobId : String) (kind : JobKind) (payloadSha256 leaseToken : String) (nowMs : Int)
  | finish (jobId : String) (completion : StoredCompletion) (nowMs : Int)
  | recoverInterrupted (nowMs : Int)

inductive LedgerReply where
  | begun (decision : Except LedgerError BeginDecision)
  | finished (result : Except LedgerError Unit)
  | recovered (runs : Nat)

def AgentLedger.exec {Text : Type} [JsonText Text] (ledger : AgentLedger Text) :
    LedgerCall → LedgerReply × AgentLedger Text
  | .begin jobId kind payloadSha256 leaseToken nowMs =>
    (ledger.begin jobId kind payloadSha256 leaseToken nowMs).map .begun id
  | .finish jobId completion nowMs => (ledger.finish jobId completion nowMs).map .finished id
  | .recoverInterrupted nowMs => (ledger.recoverInterrupted nowMs).map .recovered id

end UntitledOJ
