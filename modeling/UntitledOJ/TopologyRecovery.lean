import UntitledOJ.TopologyWorker

/-!
# Recovery of topology applies

An expired lease leaves the outcome of a phase unknown: the job is settled when
the head proves that it finished, and otherwise the apply is released as degraded.
A second routine releases the applies of operations that have ended.
-/

namespace UntitledOJ

namespace Worked

def expiredLeases (nowMs : Int) : Worked (List Job) :=
  Program.perform (PlaneCall.expiredLeases nowMs)

def recoverJobs (nowMs : Int) : Worked (List Job) :=
  Program.perform (PlaneCall.recoverJobs nowMs)

def listHeads : Worked (List TopologyHeads) :=
  Program.perform PlaneCall.listHeads

def resolveExpiredGroupSuccess (members : List TopologyApplyGroupMember)
    (operationId jobId : String) (nowMs : Int) (result : Value) :
    Worked (Except StorageError (Option Job)) :=
  Program.perform
    (PlaneCall.resolveExpiredGroupSuccess members operationId jobId nowMs result)

end Worked

/-- A member as recovery names it, with the number of its stored bindings. -/
structure ExpiredMember where
  (topologyId revisionId : String)
  bindings : Nat

/-- The members of a phase whose success the heads can prove. -/
def successIdentities (payload : TopologyApplyPayload) : Option (List (String × String)) :=
  match payload.phase with
  | .finalizeGroup => some (groupIdentities payload.group)
  | .finalize | .full => some [(payload.topologyId, payload.revisionId)]
  | .stage | .prepare | .abort => none

def countBindings (identity : String × String) : Worked ExpiredMember := do
  let bindings ← Worked.orFail StorageError.text (← Worked.bindings identity.1)
  return ⟨identity.1, identity.2, bindings.length⟩

def expiredResult (payload : TopologyApplyPayload) (members : List ExpiredMember) : Value :=
  match payload.phase with
  | .finalizeGroup =>
    .object
      [("phase", .string "FINALIZE_GROUP"),
        ("topologies", .array (members.map fun member => .object
          [("topology_id", .string member.topologyId),
            ("revision_id", .string member.revisionId),
            ("bindings", .writeNat member.bindings)]))]
  | .finalize =>
    .object
      [("phase", .string "FINALIZE"),
        ("topology_id", .string payload.topologyId),
        ("revision_id", .string payload.revisionId),
        ("bindings", .writeNat ((members.head?.map (·.bindings)).getD 0))]
  | _ =>
    .object
      [("phase", .string "FULL"),
        ("topology_id", .string payload.topologyId),
        ("revision_id", .string payload.revisionId),
        ("recovered_from_durable_head", .bool true)]

def topologyExpiredSuccessPlan (job : Job) (payload : TopologyApplyPayload) :
    Worked (Option (List TopologyApplyGroupMember × Value)) :=
  match successIdentities payload with
  | none => .done none
  | some identities =>
    if identities.isEmpty || malformedIdentities identities then
      .fail ("expired topology Job " ++ job.jobId ++
        " has invalid success-evidence identities")
    else do
      let members ← Program.forEach countBindings identities
      return some
        (members.map fun member => ⟨member.topologyId, member.revisionId, []⟩,
          expiredResult payload members)

def recoverUnknownTopologyApply (topologyId revisionId operationId detail updatedAt : String) :
    Worked Unit := do
  let heads ← Worked.orMissing ("topology " ++ topologyId ++ " disappeared during recovery")
    (← Worked.heads topologyId)
  if heads.applyingRevisionId = some revisionId ∧
      heads.applyingOperationId = some operationId then
    finishUnknownTopologyApply topologyId revisionId operationId detail updatedAt
  else if heads.appliedRevisionId = some revisionId ∧
      heads.lastOperationId = some operationId then
    pure ()
  else markDegraded topologyId operationId detail updatedAt

def recoverGroupMember (operationId detail updatedAt : String)
    (member : TopologyApplyGroupPayloadMember) : Worked Unit := do
  recoverUnknownTopologyApply member.topologyId member.revisionId operationId detail updatedAt
  markDegraded member.topologyId operationId detail updatedAt

/-- A group member that could not be recovered, as the failures list it. -/
def memberFailure (operationId detail updatedAt : String)
    (member : TopologyApplyGroupPayloadMember) : Worked (Option String) := do
  match ← (recoverGroupMember operationId detail updatedAt member).attempt with
  | .ok _ => return none
  | .error error => return some (member.topologyId ++ ": " ++ error)

def recoverUnknownTopologyPayload (payload : TopologyApplyPayload)
    (operationId updatedAt : String) : Worked Unit :=
  if payload.phase = .finalizeGroup then
    if payload.group.isEmpty then .fail "expired FINALIZE_GROUP payload has no members"
    else do
      let failures ← Program.forEach (memberFailure operationId
        "control-plane worker lease expired with an unproven grouped provider outcome" updatedAt)
        payload.group
      let failures := failures.reduceOption
      if failures.isEmpty then pure ()
      else
        .fail (toString failures.length ++ " grouped topology recovery member(s) failed: " ++
          "; ".intercalate failures)
  else
    recoverUnknownTopologyApply payload.topologyId payload.revisionId operationId
      "control-plane worker lease expired with an unproven provider outcome" updatedAt

def recoverExpiredJob (nowMs : Int) (updatedAt : String) (job : Job) : Worked Unit :=
  -- Contribution jobs are reconciled by their own controller.
  if (job.kind ≠ .topologyApply ∧ job.kind ≠ .contributionProjection) ∨
      isContributionJob job then pure ()
  else do
    let payload ← Worked.orFail (fun error : String =>
      "expired topology Job " ++ job.jobId ++ " has an invalid recovery payload: " ++ error)
      (TopologyApplyPayload.ofDocument job.payload)
    match ← topologyExpiredSuccessPlan job payload with
    | none => recoverUnknownTopologyPayload payload job.operationId updatedAt
    | some (members, result) =>
      let resolved ← Worked.orFail StorageError.text
        (← Worked.resolveExpiredGroupSuccess members job.operationId job.jobId nowMs result)
      if resolved.isSome then pure ()
      else recoverUnknownTopologyPayload payload job.operationId updatedAt

/-- `recover_expired`; of the recovery of operations only what it does to the jobs
is shown. -/
def recoverExpired (nowMs : Int) (updatedAt : String) : Worked Unit := do
  let expired ← Worked.expiredLeases nowMs
  let _ ← Program.forEach (recoverExpiredJob nowMs updatedAt) expired
  let _ ← Worked.recoverJobs nowMs

/-- How the apply of an operation in this status is released, and why it is
degraded. -/
def terminalRelease : Option DurableOperationStatus →
    Option (TopologyApplyOutcome × Option String)
  | some .cancelled | some .failed => some (.failed, none)
  | some .needsAttention =>
    some (.degraded, some "topology apply operation requires explicit reconciliation")
  | some .succeeded => some (.succeeded, none)
  | some .planned | some .confirmed | some .enqueuing | some .running | some .cancelling
  | some .rolledBack => none
  | none =>
    some (.degraded, some "topology apply ownership references a missing Operation")

def recoverTerminalHead (statuses : String → Option DurableOperationStatus)
    (updatedAt : String) (heads : TopologyHeads) : Worked Unit :=
  match heads.applyingRevisionId, heads.applyingOperationId with
  | some revisionId, some operationId =>
    match terminalRelease (statuses operationId) with
    | none => .done ()
    | some (outcome, degradedDetail) => do
        let finished ← Worked.topology (.finish heads.topologyId revisionId operationId outcome
          updatedAt)
        let _ ← Worked.orFail StorageError.text finished
        match degradedDetail with
        | none => pure ()
        | some detail => markDegraded heads.topologyId operationId detail updatedAt
  | _, _ => .done ()

def recoverTerminalTopologyApplies (statuses : String → Option DurableOperationStatus)
    (updatedAt : String) : Worked Unit := do
  let all ← Worked.listHeads
  let _ ← Program.forEach (recoverTerminalHead statuses updatedAt) all

end UntitledOJ
