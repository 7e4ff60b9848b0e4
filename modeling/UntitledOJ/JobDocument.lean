import UntitledOJ.ControlPlaneJob

/-!
# Jobs and events as JSON documents

The SQL backends keep every job and event as a JSON text, which `serde_json` reads back as it was
written unless it is nested too deep.  The derived implementations write a missing option as `null`
and read `null` as missing.
-/

namespace UntitledOJ

/-- `serde_json::to_string` and `from_str` on values; reading stops at the 128th nested level. -/
class JsonText (Text : Type) where
  toText : Value → Text
  fromText : Text → Except String Value
  fromText_toText : ∀ value, value.nesting < 128 → fromText (toText value) = .ok value

def statusText : JobStatus → String
  | .queued => "QUEUED"
  | .leased => "LEASED"
  | .retryWait => "RETRY_WAIT"
  | .cancelRequested => "CANCEL_REQUESTED"
  | .succeeded => "SUCCEEDED"
  | .failed => "FAILED"
  | .cancelled => "CANCELLED"
  | .needsAttention => "NEEDS_ATTENTION"

theorem statusText_injective : Function.Injective statusText := by
  intro first second same
  cases first <;> cases second <;> first | rfl | simp [statusText] at same

namespace Value

def readString : Value → Except String String
  | .string text => .ok text
  | _ => .error "invalid type: expected a string"

def readI64 : Value → Except String Int
  | .number value => .ok value
  | _ => .error "invalid type: expected i64"

def readU64 : Value → Except String Nat
  | .number value =>
    if 0 ≤ value then .ok value.toNat else .error "invalid value: expected an unsigned integer"
  | _ => .error "invalid type: expected an unsigned integer"

def readOption {α : Type} (read : Value → Except String α) : Value → Except String (Option α)
  | .null => .ok none
  | value => (read value).map some

def writeOption {α : Type} (write : α → Value) : Option α → Value
  | none => .null
  | some item => write item

def writeNat (value : Nat) : Value :=
  .number value

def required {α : Type} (document : Value) (name : String) (read : Value → Except String α) :
    Except String α :=
  match document.get name with
  | some value => read value
  | none => .error ("missing field " ++ name)

def optional {α : Type} (document : Value) (name : String) (read : Value → Except String α) :
    Except String (Option α) :=
  readOption read ((document.get name).getD .null)

def readVariant {α : Type} (variants : List α) (name : α → String) : Value → Except String α
  | .string text =>
    match variants.find? fun variant => name variant = text with
    | some variant => .ok variant
    | none => .error ("unknown variant " ++ text)
  | _ => .error "invalid type: expected a variant"

@[simp] theorem readString_string (text : String) : readString (.string text) = .ok text := rfl

@[simp] theorem readI64_number (value : Int) : readI64 (.number value) = .ok value := rfl

@[simp] theorem readU64_writeNat (value : Nat) : readU64 (writeNat value) = .ok value := by
  simp [readU64, writeNat]

@[simp] theorem readOption_string (text : Option String) :
    readOption readString (writeOption .string text) = .ok text := by
  cases text <;> rfl

@[simp] theorem readOption_number (value : Option Int) :
    readOption readI64 (writeOption .number value) = .ok value := by
  cases value <;> rfl

/-- A stored `null` cannot be told from a missing value. -/
@[simp] theorem readOption_value (value : Option Value) :
    readOption .ok (writeOption id value) = .ok (value.filter fun stored => !stored.isNull) := by
  rcases value with _ | stored
  · rfl
  · cases stored <;> rfl

@[simp] theorem nesting_string (text : Option String) :
    (writeOption .string text).nesting = 0 := by
  cases text <;> rfl

@[simp] theorem nesting_number (value : Option Int) :
    (writeOption .number value).nesting = 0 := by
  cases value <;> rfl

end Value

def JobStatus.all : List JobStatus :=
  [.queued, .leased, .retryWait, .cancelRequested, .succeeded, .failed, .cancelled,
    .needsAttention]

def JobKind.all : List JobKind :=
  [.install, .releasePipeline, .upgrade, .start, .stop, .restart, .uninstall, .rollback, .health,
    .inventory, .bindingContextApply, .resourcePurge, .topologyApply, .contributionProjection,
    .externalHealth, .nodeDrain, .nodeRemove]

@[simp] theorem readVariant_status (status : JobStatus) :
    Value.readVariant JobStatus.all statusText (.string (statusText status)) = .ok status := by
  cases status <;> rfl

@[simp] theorem readVariant_kind (kind : JobKind) :
    Value.readVariant JobKind.all JobKind.name (.string kind.name) = .ok kind := by
  cases kind <;> rfl

namespace Job

def toDocument (job : Job) : Value :=
  .object
    [("job_id", .string job.jobId),
      ("operation_id", .string job.operationId),
      ("node_id", .string job.nodeId),
      ("kind", .string job.kind.name),
      ("payload", job.payload),
      ("payload_sha256", .string job.payloadSha256),
      ("idempotency_key", .string job.idempotencyKey),
      ("status", .string (statusText job.status)),
      ("attempt", .writeNat job.attempt),
      ("max_attempts", .writeNat job.maxAttempts),
      ("available_at_ms", .number job.availableAtMs),
      ("lease_owner", .writeOption .string job.leaseOwner),
      ("lease_token", .writeOption .string job.leaseToken),
      ("lease_expires_at_ms", .writeOption .number job.leaseExpiresAtMs),
      ("result", .writeOption id job.result),
      ("error_message", .writeOption .string job.errorMessage),
      ("completion_fingerprint", .writeOption .string job.completionFingerprint),
      ("created_at_ms", .number job.createdAtMs),
      ("started_at_ms", .writeOption .number job.startedAtMs),
      ("completed_at_ms", .writeOption .number job.completedAtMs),
      ("updated_at_ms", .number job.updatedAtMs)]

def ofDocument (document : Value) : Except String Job := do
  return {
    jobId := ← document.required "job_id" Value.readString
    operationId := ← document.required "operation_id" Value.readString
    nodeId := ← document.required "node_id" Value.readString
    kind := ← document.required "kind" (Value.readVariant JobKind.all JobKind.name)
    payload := ← document.required "payload" .ok
    payloadSha256 := ← document.required "payload_sha256" Value.readString
    idempotencyKey := ← document.required "idempotency_key" Value.readString
    status := ← document.required "status" (Value.readVariant JobStatus.all statusText)
    attempt := ← document.required "attempt" Value.readU64
    maxAttempts := ← document.required "max_attempts" Value.readU64
    availableAtMs := ← document.required "available_at_ms" Value.readI64
    leaseOwner := ← document.optional "lease_owner" Value.readString
    leaseToken := ← document.optional "lease_token" Value.readString
    leaseExpiresAtMs := ← document.optional "lease_expires_at_ms" Value.readI64
    result := ← document.optional "result" .ok
    errorMessage := ← document.optional "error_message" Value.readString
    completionFingerprint := ← document.optional "completion_fingerprint" Value.readString
    createdAtMs := ← document.required "created_at_ms" Value.readI64
    startedAtMs := ← document.optional "started_at_ms" Value.readI64
    completedAtMs := ← document.optional "completed_at_ms" Value.readI64
    updatedAtMs := ← document.required "updated_at_ms" Value.readI64 }

/-- A stored job reads back as it was, except that a `null` result is lost. -/
theorem ofDocument_toDocument (job : Job) :
    ofDocument job.toDocument =
      .ok { job with result := job.result.filter fun stored => !stored.isNull } := by
  simp [ofDocument, toDocument, Value.required, Value.optional, Value.get]
  rfl

/-- The job's document is the job again when it is read back. -/
def ReadsBack (job : Job) : Prop :=
  job.payload.nesting < 127 ∧ ∀ value ∈ job.result, value ≠ .null ∧ value.nesting < 127

theorem ReadsBack.nesting_toDocument {job : Job} (readable : job.ReadsBack) :
    job.toDocument.nesting < 128 := by
  obtain ⟨payload, results⟩ := readable
  have result : (Value.writeOption id job.result).nesting < 127 := by
    cases stored : job.result with
    | none => exact Nat.zero_lt_succ _
    | some value => exact (results value stored).2
  simp [toDocument, Value.nesting, Value.nestingMembers, Value.writeNat]
  omega

end Job

namespace JobEvent

def toDocument (event : JobEvent) : Value :=
  .object
    [("job_id", .string event.jobId),
      ("sequence", .writeNat event.sequence),
      ("event_type", .string event.eventType),
      ("level", .string event.level),
      ("message", .string event.message),
      ("data", event.data),
      ("created_at_ms", .number event.createdAtMs)]

def ofDocument (document : Value) : Except String JobEvent := do
  return {
    jobId := ← document.required "job_id" Value.readString
    sequence := ← document.required "sequence" Value.readU64
    eventType := ← document.required "event_type" Value.readString
    level := ← document.required "level" Value.readString
    message := ← document.required "message" Value.readString
    data := ← document.required "data" .ok
    createdAtMs := ← document.required "created_at_ms" Value.readI64 }

end JobEvent

end UntitledOJ

namespace UntitledOJ.Scenario

scoped instance plainText : JsonText Value where
  toText := id
  fromText := .ok
  fromText_toText _ _ := rfl

end UntitledOJ.Scenario
