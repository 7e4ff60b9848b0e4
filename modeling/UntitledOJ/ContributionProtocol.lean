import UntitledOJ.ContributionOrder
import UntitledOJ.ContributionController

/-!
# Contribution jobs keep to the discipline

Every job, the recovery of expired leases and the acknowledgement endpoint write only what is
lawful, whatever other programs do between two of their calls.
-/

namespace UntitledOJ

open ContributionTables ContributionPlaneCall ContributionRevisionV1 Contribution
open ContributionActivationV1 (transition_ok)
open Program (Logic readOnly_perform readOnly_forEach ReadOnly Preserves bind_assoc yields_bind_ok)

variable {call : ContributionPlaneCall}

section

theorem ContributionTables.Activated.mono {tables : ContributionTables} {id : String}
    {candidate : Sha256} {rank less : Nat} (activated : tables.Activated id candidate rank)
    (le : less ≤ rank) : tables.Activated id candidate less := by
  obtain ⟨activation, stored, names, reached⟩ := activated
  exact ⟨activation, stored, names, le.trans reached⟩

variable (plane : ContributionPlane)

/-- The call is one that a job may make. -/
def ContributionPlane.Permits (plane : ContributionPlane) : ContributionPlaneCall → Prop
  | .repository call => plane.tables.Lawful call
  | _ => True

def ContributionPlaneCall.isFree : ContributionPlaneCall → Bool
  | .repository (.insertRevision _) | .repository (.transitionRevision _)
  | .repository (.compareAndSwapHead ..) | .repository (.restoreHead ..)
  | .repository (.clearHead ..) | .repository (.putBundle ..) => false
  | .repository (.compareAndSwapReceipt _ observed) => observed.state = .active
  | _ => true

/-- A call that needs no permission and neither claims nor completes a job. -/
def ContributionPlaneCall.isPlain : ContributionPlaneCall → Bool
  | .claim _ | .complete .. => false
  | call => call.isFree

/-- The call looks at the runtimes, operations and jobs of the platform. -/
def ContributionPlaneCall.isLook : ContributionPlaneCall → Bool
  | .runtimeInstance _ | .currentRuntime _ | .operation _ | .job _ => true
  | _ => false

theorem ContributionPlaneCall.isPlain_of_isLook (looks : call.isLook = true) :
    call.isPlain = true := by
  cases call <;> first | rfl | cases looks

theorem ContributionPlaneCall.isFree_of_isPlain (plain : call.isPlain = true) :
    call.isFree = true := by
  cases call <;> first | exact plain | rfl

theorem ContributionPlane.permits_of_isFree (free : call.isFree = true) : plane.Permits call := by
  cases call with
  | repository call =>
    cases call with
    | compareAndSwapReceipt => exact .inl (of_decide_eq_true free)
    | insertRevision | transitionRevision | compareAndSwapHead | restoreHead | clearHead
    | putBundle => cases free
    | _ => trivial
  | _ => trivial

theorem ContributionPlane.react_tables (happening : ContributionEvent) :
    (plane.react happening).tables = plane.tables := by
  cases happening with
  | enqueue jobId operationId payload maxAttempts =>
    simp only [react, enqueue]
    split_ifs <;> rfl
  | cancel jobId | expire jobId =>
    simp only [react, updateJob]
    split <;> rfl
  | world world => rfl

variable [RecordDigests] [VersionSyntax]

theorem ContributionPlane.exec_of_isLook (call : ContributionPlaneCall) (plane : ContributionPlane)
    (looks : call.isLook = true) : (ContributionPlane.exec call plane).2 = plane := by
  cases call <;> first | rfl | cases looks

theorem ContributionPlane.exec_tables (call : ContributionPlaneCall) :
    (plane.exec call).2.tables = plane.tables ∨ ∃ write, call = .repository write := by
  cases call with
  | repository write => exact .inr ⟨write, rfl⟩
  | claim jobId =>
    simp only [exec, claim]
    split <;> exact .inl rfl
  | complete jobId status =>
    simp only [exec, complete]
    split
    · exact .inl rfl
    · split_ifs <;> exact .inl rfl
  | resolveExpiredSuccess jobId =>
    simp only [exec, resolveExpiredSuccess]
    split <;> exact .inl rfl
  | recoverExpired jobId =>
    simp only [exec, recoverExpired]
    split <;> exact .inl rfl
  | _ => exact .inl rfl

theorem ContributionPlane.exec_advances (orderly : plane.tables.Orderly)
    (call : ContributionPlaneCall) : plane.tables.Advances (plane.exec call).2.tables := by
  rcases plane.exec_tables call with same | ⟨write, rfl⟩
  · rw [same]
    exact .refl _
  · exact (exec_effect orderly.sound.keyed .sqlite write).advances

/-- The tables have come at least as far as these activations. -/
def ContributionTables.Bears (tables : ContributionTables)
    (known : ContributionActivationV1 → Prop) : Prop :=
  ∀ activation, known activation →
    tables.Activated activation.activationId activation.candidateRevisionId activation.state.rank

def contributionProtocol : Logic ContributionPlane ContributionPlaneCall.Reply where
  exec := fun call plane => plane.exec call
  loads := fun _ => false
  rely := fun before after => before.tables.Advances after.tables
  known := fun plane => plane.tables.Orderly
  guarantee := fun _ call plane => plane.Permits call

end

namespace ContributionController

open ContributionProgram

variable {Error α β : Type}

abbrev Free (program : ContributionProgram Error α) : Prop :=
  program.ReadOnly fun call => call.isFree = true

abbrev Plain (program : ContributionProgram Error α) : Prop :=
  program.ReadOnly fun call => call.isPlain = true

variable {Other : Type} {program : ContributionProgram Error α}

section

theorem Plain.free (plain : Plain program) : Free program := plain.mono fun _ => isFree_of_isPlain

theorem plain_perform (plain : call.isPlain = true) :
    Plain (Program.perform call : ContributionProgram Error call.Reply) :=
  readOnly_perform plain

theorem plain_call (plain : call.isPlain = true)
    {continuation : call.Reply → ContributionProgram Error α}
    (rest : ∀ reply, Plain (continuation reply)) : Plain (Program.perform call >>= continuation) :=
  (plain_perform plain).bind rest

theorem plain_orFail (report : Other → Error) (outcome : Except Other α) :
    Plain (orFail report outcome) := by
  cases outcome <;> trivial

theorem plain_orFail_bind {report : Other → Error} {outcome : Except Other α}
    {continuation : α → ContributionProgram Error β}
    (rest : ∀ result, outcome = .ok result → Plain (continuation result)) :
    Plain (orFail report outcome >>= continuation) := by
  cases outcome with
  | ok result => exact rest result rfl
  | error error => trivial

variable {reads : ContributionPlaneCall → Prop}

theorem readOnly_orMissing (error : Error) (value : Option α) :
    (orMissing error value).ReadOnly reads := by
  cases value <;> trivial

theorem readOnly_ensure (condition : Bool) (error : Error) :
    (ensure condition error).ReadOnly reads := by
  cases condition <;> trivial

variable {read : ContributionProgram Error (Option α)}
  {continuation : α → ContributionProgram Error β}

theorem readOnly_required (allowed : read.ReadOnly reads) (error : Error)
    (rest : ∀ row, (continuation row).ReadOnly reads) :
    (read >>= fun row => orMissing error row >>= continuation).ReadOnly reads :=
  allowed.bind fun _ => (readOnly_orMissing _ _).bind rest

theorem plain_outcome (plain : Plain program) :
    Plain (program.outcome : ContributionProgram Other (Except Error α)) := by
  induction program with
  | done result => trivial
  | fail error => trivial
  | call request next ih => exact ⟨plain.1, fun reply => ih reply (plain.2 reply)⟩

variable (jobId : String)

theorem plain_checkpoint : Plain (checkpoint jobId) := plain_call rfl fun _ => plain_orFail _ _

theorem plain_headNaming (scopeId : String) (revision : ContributionRevisionV1) :
    Plain (headNaming scopeId revision : ContributionProgram Error _) :=
  plain_call rfl fun _ => trivial

theorem plain_publishedRevision (entry : ContributionRevisionV1 × ContributionHeadV1) :
    Plain (publishedRevision entry : ContributionProgram Error _) :=
  plain_call rfl fun _ => trivial

section

variable (failed : ContributionSnapshotError → Error) (scopeId : String)
  (activation : ContributionActivationV1)
include failed scopeId

theorem plain_obligation (expected : ContributionProjectionExpectedStateV1) :
    Plain (obligation failed scopeId activation expected) :=
  readOnly_required (plain_perform rfl) _ fun _ =>
    plain_call rfl fun _ => trivial

theorem plain_acknowledgementOf : Plain (acknowledgementOf failed scopeId activation) := by
  unfold acknowledgementOf
  split
  · exact plain_obligation ..
  · trivial

theorem plain_activeContributionSnapshot [ProjectionDigests] :
    Plain (activeContributionSnapshot failed scopeId) := by
  refine plain_call rfl fun _ => ?_
  refine (readOnly_forEach (plain_headNaming scopeId)).bind fun _ => ?_
  refine (readOnly_forEach plain_publishedRevision).bind fun _ => ?_
  refine plain_call rfl fun _ => ?_
  exact (readOnly_forEach fun _ => plain_acknowledgementOf ..).bind fun _ => trivial

end

variable (payload : ContributionJobPayloadV1) (activation : ContributionActivationV1)

theorem plain_requiredCandidate : Plain (requiredCandidate payload activation) :=
  readOnly_required (plain_perform rfl) _ fun _ => (readOnly_ensure _ _).bind fun _ => trivial

theorem plain_requiredReceipts : Plain (requiredReceipts payload) :=
  plain_call rfl fun _ => (readOnly_ensure _ _).bind fun _ => trivial

abbrev Looks (program : ContributionProgram Error α) : Prop :=
  program.ReadOnly fun call => call.isLook = true

theorem Looks.plain (looks : Looks program) : Plain program := looks.mono fun _ => isPlain_of_isLook

theorem looks_perform (looks : call.isLook = true) :
    Looks (Program.perform call : ContributionProgram Error call.Reply) :=
  readOnly_perform looks

theorem looks_ensureRuntimeGateAtLeast (candidate : ContributionRevisionV1) (minimum : Option Int) :
    Looks (ensureRuntimeGateAtLeast candidate minimum) :=
  readOnly_required (looks_perform rfl) _ fun _ => readOnly_ensure _ _

theorem looks_requiredSucceededRuntimeGate (stepId : String) :
    Looks (requiredSucceededRuntimeGate payload stepId) := by
  refine readOnly_required (looks_perform rfl) _ fun _ => ?_
  refine (readOnly_orMissing _ _).bind fun _ => ?_
  refine readOnly_required (looks_perform rfl) _ fun _ => ?_
  exact (readOnly_ensure _ _).bind fun _ => readOnly_orMissing _ _

theorem looks_restoreWatermark : Looks (restoreWatermark payload) := by
  unfold restoreWatermark
  split
  · exact (looks_requiredSucceededRuntimeGate ..).bind fun _ => trivial
  · trivial

theorem looks_ensureRestoreRuntimeGate (previous : ContributionRevisionV1) :
    Looks (ensureRestoreRuntimeGate payload previous) := by
  unfold ensureRestoreRuntimeGate
  split
  · exact (looks_restoreWatermark payload).bind fun _ =>
      (looks_ensureRuntimeGateAtLeast ..).handle fun _ => trivial
  · trivial

theorem plain_recordApiRegistrySnapshot [ProjectionDigests] (generation : Nat) :
    Plain (recordApiRegistrySnapshot payload generation) := by
  refine (plain_activeContributionSnapshot _ _).bind fun _ => ?_
  refine (plain_requiredReceipts payload).bind fun _ => ?_
  refine (readOnly_orMissing _ _).bind fun current => ?_
  split
  · trivial
  · refine plain_orFail_bind fun observed recorded => ?_
    have plain : isPlain (.repository (.compareAndSwapReceipt current observed)) = true :=
      decide_eq_true (ProjectionReceiptV1.record_ok recorded)
    exact plain_call plain fun _ => (plain_orFail _ _).bind fun _ => trivial

section

variable (candidate : ContributionRevisionV1) (receipts : List ProjectionReceiptV1)
include candidate

theorem plain_confirmSucceeded : Plain (confirmSucceeded payload candidate receipts) :=
  readOnly_required (plain_perform rfl) _ fun _ => (readOnly_ensure _ _).bind fun _ => trivial

theorem plain_verifyTombstone (head : Option ContributionHeadV1) :
    Plain (verifyTombstone candidate head) :=
  (readOnly_orMissing _ _).bind fun _ => (readOnly_ensure _ _).bind fun _ =>
    readOnly_required (plain_perform rfl) _ fun _ => (readOnly_ensure _ _).bind fun _ => trivial

theorem plain_verifyRestored (head : Option ContributionHeadV1) :
    Plain (verifyRestored candidate receipts head) := by
  refine (readOnly_ensure _ _).bind fun _ => ?_
  split
  · exact (readOnly_ensure _ _).bind fun _ => trivial
  · exact plain_verifyTombstone ..

theorem plain_verifyAbortEvidence : Plain (verifyAbortEvidence payload candidate receipts) := by
  refine plain_call rfl fun _ => ?_
  split
  · exact (readOnly_ensure _ _).bind fun _ => trivial
  · exact plain_verifyRestored ..

end

theorem plain_operationTerminationIntent : Plain (operationTerminationIntent payload) :=
  plain_call rfl fun _ => trivial

theorem plain_executeUnstagedAbort : Plain (executeUnstagedAbort payload) :=
  plain_call rfl fun _ => (readOnly_ensure _ _).bind fun _ =>
    plain_perform rfl

theorem plain_headNamesCandidate (candidate : ContributionRevisionV1) :
    Plain (headNamesCandidate payload candidate) :=
  plain_call rfl fun _ => trivial

theorem plain_provesPhase
    (candidate : ContributionRevisionV1) (receipts : List ProjectionReceiptV1) :
    Plain (provesPhase payload activation candidate receipts) := by
  unfold provesPhase
  split
  · trivial
  · split
    · exact plain_headNamesCandidate ..
    · trivial
  · split
    · exact (plain_headNamesCandidate ..).bind fun _ => trivial
    · trivial
  · split
    · exact (plain_outcome (plain_verifyAbortEvidence ..)).bind fun _ => trivial
    · trivial

theorem plain_terminalReceipt (receipt : ProjectionReceiptV1) :
    Plain (terminalReceipt receipt) := by
  unfold terminalReceipt
  split
  · exact plain_orFail _ _
  · exact plain_orFail _ _
  · trivial

theorem plain_restoreReceipt (head : Option ContributionHeadV1) (digest : Sha256)
    (receipt : ProjectionReceiptV1) : Plain (restoreReceipt jobId head digest receipt) := by
  refine (plain_checkpoint jobId).bind fun _ => ?_
  split
  · exact (plain_orFail _ _).bind fun _ => trivial
  · trivial

theorem plain_stageCandidate (pending : List ProjectionReceiptV1)
    (known : Option ContributionRevisionV1) :
    Plain (stageCandidate payload activation pending known) := by
  unfold stageCandidate
  split
  · exact plain_call rfl fun _ => plain_orFail _ _
  · trivial

theorem plain_stagedReceipt [ProjectionDigests] (receipt : ProjectionReceiptV1) :
    Plain (stagedReceipt jobId payload receipt) :=
  (plain_checkpoint jobId).bind fun _ => plain_orFail _ _

end

def isCalm : ContributionPlaneCall → Bool
  | .repository (.putBundle ..) | .claim _ | .complete .. => false
  | _ => true

theorem isCalm_of_isPlain (plain : call.isPlain = true) : isCalm call = true := by
  cases call with
  | repository call => cases call <;> first | rfl | cases plain
  | _ => first | rfl | cases plain

variable [RecordDigests] [VersionSyntax]

theorem plain_recoverExpiredContributionJob (payload : ContributionJobPayloadV1) :
    Plain (recoverExpiredContributionJob payload) := by
  refine (plain_orFail _ _).bind fun _ => plain_call rfl fun stored => ?_
  split
  · exact plain_call rfl fun _ => trivial
  · exact (readOnly_ensure _ _).bind fun _ => (plain_requiredCandidate ..).bind fun _ =>
      (plain_requiredReceipts _).bind fun _ => plain_provesPhase ..

theorem plain_recoverJob (jobId : String) : Plain (recoverJob jobId) := by
  refine plain_call rfl fun expired => ?_
  split
  · trivial
  · refine (plain_outcome (plain_recoverExpiredContributionJob _)).bind fun _ => ?_
    split
    · exact plain_call rfl fun _ => plain_orFail _ _
    · exact plain_perform rfl

def RetiresNow (revision : ContributionRevisionV1) (program : ContributionProgram Error α) : Prop :=
  ∃ next, program = .call (.repository (.transitionRevision (revision.withStatus .retired))) next

/-- The next call looks for the revision, and what follows retires it when it is active. -/
def Retires (older : Sha256) (program : ContributionProgram Error α) : Prop :=
  ∃ next : Option ContributionRevisionV1 → ContributionProgram Error α,
    program = .call (.repository (.getRevision older)) next ∧
      ∀ revision, revision.status = .active →
        revision.retire = .ok (revision.withStatus .retired) →
          RetiresNow revision (next (some revision))

/-- An activation and its receipts are stored under its name. -/
def Truthful : (call : ContributionPlaneCall) → call.Reply → Prop
  | .repository (.getActivation id), (reply : Option ContributionActivationV1) =>
    ∀ activation, reply = some activation → activation.activationId = id
  | .repository (.listReceipts id), (reply : List ProjectionReceiptV1) =>
    ∀ receipt ∈ reply, receipt.activationId = id
  | _, _ => True

def Learned : (call : ContributionPlaneCall) → call.Reply → Sha256 → Prop
  | .repository (.getHead _ _), (reply : Option ContributionHeadV1), id =>
    ∃ head, reply = some head ∧ head.activeRevisionId = id
  | _, _, _ => False

/-- The activation was found or is now stored, as the reply tells. -/
def Stores : (call : ContributionPlaneCall) → call.Reply → ContributionActivationV1 → Prop
  | .repository (.getActivation _), (reply : Option ContributionActivationV1), activation =>
    reply = some activation
  | .repository (.putBundle written _), (reply : Except ContributionRepositoryError Unit),
    activation => reply = .ok () ∧ activation = written
  | _, _, _ => False

/-- A call and what follows it.  An activation is marked as succeeded only for the own
operation, if there is one, when its candidate was seen published, and then its predecessor is
retired. -/
def Guards (operationId : Option String) (seen : Sha256 → Prop) : (call : ContributionPlaneCall) →
    (call.Reply → ContributionProgram Error α) → Prop
  | .repository (.putBundle activation _), next => activation.state = .succeeded →
      some activation.activationId = operationId ∧ seen activation.candidateRevisionId ∧
        ∀ older, activation.previousRevisionId = some older →
          Retires older (next (.ok () : Except ContributionRepositoryError Unit))
  | call, _ => isCalm call = true

/-- Every call of the program is guarded, by what the program has seen so far. -/
def Tidy (operationId : Option String) :
    (Sha256 → Prop) → ContributionProgram Error α → Prop
  | _, .done _ => True
  | _, .fail _ => True
  | seen, .call call next => Guards operationId seen call next ∧ ∀ reply, Truthful call reply →
      Tidy operationId (fun id => seen id ∨ Learned call reply id) (next reply)

/-- Every call of the program is guarded and lawful, by what the program has seen so far. -/
def Acts (operationId : Option String) : (ContributionActivationV1 → Prop) → (Sha256 → Prop) →
    ContributionProgram Error α → Prop
  | _, _, .done _ => True
  | _, _, .fail _ => True
  | known, seen, .call call next => Guards operationId seen call next ∧
      (∀ plane : ContributionPlane, plane.tables.Bears known → plane.Permits call) ∧
      ∀ reply, Truthful call reply →
        Acts operationId (fun activation => known activation ∨ Stores call reply activation)
          (fun id => seen id ∨ Learned call reply id) (next reply)

variable {operationId : Option String} {known more : ContributionActivationV1 → Prop}
  {seen wider : Sha256 → Prop} {next : call.Reply → ContributionProgram Error α}

theorem Acts.tidy (acts : Acts operationId known seen program) : Tidy operationId seen program := by
  induction program generalizing known seen with
  | done result => trivial
  | fail error => trivial
  | call request next ih =>
    exact ⟨acts.1, fun reply truthful => ih reply (acts.2.2 reply truthful)⟩

theorem Retires.bind {older : Sha256}
    (retires : Retires older program) (continuation : α → ContributionProgram Error β) :
    Retires older (program >>= continuation) := by
  obtain ⟨_, rfl, retires⟩ := retires
  refine ⟨_, rfl, fun revision active valid => ?_⟩
  obtain ⟨_, same⟩ := retires revision active valid
  rw [same]
  exact ⟨_, rfl⟩

theorem guards_of_calm (calm : isCalm call = true)
    (next : call.Reply → ContributionProgram Error α) : Guards operationId seen call next := by
  cases call with
  | repository call => cases call <;> first | exact calm | cases calm
  | _ => exact calm

theorem Guards.mono (guards : Guards operationId seen call next) (wide : ∀ id, seen id → wider id) :
    Guards operationId wider call next := by
  cases call with
  | repository call =>
    cases call with
    | putBundle activation receipts =>
      intro succeeded
      obtain ⟨own, named, retires⟩ := guards succeeded
      exact ⟨own, wide _ named, retires⟩
    | _ => exact guards
  | _ => exact guards

theorem Guards.bind (guards : Guards operationId seen call next)
    (continuation : α → ContributionProgram Error β) :
    Guards operationId seen call fun reply => next reply >>= continuation := by
  cases call with
  | repository call =>
    cases call with
    | putBundle activation receipts =>
      intro succeeded
      obtain ⟨own, named, retires⟩ := guards succeeded
      exact ⟨own, named, fun older previous => (retires older previous).bind continuation⟩
    | _ => exact guards
  | _ => exact guards

theorem acts_of_plain (plain : Plain program) : Acts operationId known seen program := by
  induction program generalizing known seen with
  | done result => trivial
  | fail error => trivial
  | call request next ih =>
    refine ⟨guards_of_calm (isCalm_of_isPlain plain.1) next, fun plane _ => ?_, fun reply _ =>
      ih reply (plain.2 reply)⟩
    exact plane.permits_of_isFree (isFree_of_isPlain plain.1)

theorem Acts.mono (acts : Acts operationId known seen program)
    (stored : ∀ activation, known activation → more activation)
    (wide : ∀ id, seen id → wider id) : Acts operationId more wider program := by
  induction program generalizing known more seen wider with
  | done result => trivial
  | fail error => trivial
  | call request next ih =>
    refine ⟨acts.1.mono wide, fun plane bears => acts.2.1 plane fun activation there =>
      bears activation (stored activation there), fun reply truthful => ?_⟩
    exact ih reply (acts.2.2 reply truthful) (fun activation => Or.imp_left (stored activation))
      fun id => Or.imp_left (wide id)

variable {continuation : α → ContributionProgram Error β}

theorem Acts.bind (acts : Acts operationId known seen program)
    (rest : ∀ result, program.Yields (fun _ _ => True) (.ok result) →
      Acts operationId known seen (continuation result)) :
    Acts operationId known seen (program >>= continuation) := by
  induction program generalizing known seen with
  | done result => exact rest result rfl
  | fail error => trivial
  | call request next ih =>
    refine ⟨acts.1.bind continuation, acts.2.1, fun reply truthful =>
      ih reply (acts.2.2 reply truthful) fun result yields => ?_⟩
    exact (rest result ⟨reply, trivial, yields⟩).mono (fun _ => .inl) fun _ => .inl

theorem acts_plain_bind (plain : Plain program)
    (rest : ∀ result, Acts operationId known seen (continuation result)) :
    Acts operationId known seen (program >>= continuation) :=
  (acts_of_plain plain).bind fun result _ => rest result

theorem acts_ensure_bind {condition : Bool} {error : Error}
    {continuation : Unit → ContributionProgram Error β}
    (rest : condition = true → Acts operationId known seen (continuation ())) :
    Acts operationId known seen (ensure condition error >>= continuation) := by
  cases condition with
  | true => exact rest rfl
  | false => trivial

theorem acts_orFail_bind {report : Other → Error} {outcome : Except Other α}
    (rest : ∀ result, outcome = .ok result → Acts operationId known seen (continuation result)) :
    Acts operationId known seen (orFail report outcome >>= continuation) := by
  cases outcome with
  | ok result => exact rest result rfl
  | error error => trivial

theorem acts_orMissing_bind {value : Option α} {error : Error}
    (rest : ∀ row, value = some row → Acts operationId known seen (continuation row)) :
    Acts operationId known seen (orMissing error value >>= continuation) := by
  cases value with
  | none => trivial
  | some row => exact rest row rfl

theorem acts_forEach {body : β → ContributionProgram Error α}
    (each : ∀ item, Acts operationId known seen (body item)) (items : List β) :
    Acts operationId known seen (Program.forEach body items) := by
  induction items with
  | nil => trivial
  | cons item rest ih => exact (each item).bind fun _ _ => ih.bind fun _ _ => trivial

theorem Tidy.outcome (tidy : Tidy none seen program) :
    Tidy none seen (program.outcome >>= fun _ => pure () : ContributionProgram Other Unit) := by
  induction program generalizing seen with
  | done result => trivial
  | fail error => trivial
  | call request next ih =>
    refine ⟨?_, fun reply truthful => ih reply (tidy.2 reply truthful)⟩
    obtain ⟨guards, _⟩ := tidy
    cases request with
    | repository call =>
      cases call with
      | putBundle => exact fun succeeded => nomatch (guards succeeded).1
      | _ => exact guards
    | _ => exact guards

theorem acts_write_bind {call : ContributionCall}
    {continuation : call.Reply → ContributionProgram Error β}
    (calm : isCalm (.repository call) = true)
    (lawful : ∀ tables : ContributionTables, tables.Bears known → tables.Lawful call)
    (rest : ∀ reply, Acts operationId known seen (continuation reply)) :
    Acts operationId known seen (write call >>= continuation) :=
  ⟨guards_of_calm calm _, fun plane => lawful plane.tables, fun reply _ =>
    (rest reply).mono (fun _ => .inl) fun _ => .inl⟩

variable {activation : ContributionActivationV1} {receipts : List ProjectionReceiptV1}

/-- The activation has this identity and brings this candidate. -/
def Owns (activation : ContributionActivationV1) (id : String) (candidate : Sha256) : Prop :=
  activation.activationId = id ∧ activation.candidateRevisionId = candidate

theorem acts_putBundle_bind {origin : ContributionActivationV1}
    {continuation : Unit → Controlled β} (there : known origin)
    (owns : Owns activation origin.activationId origin.candidateRevisionId)
    (complete : activation.state = .succeeded → ∀ target ∈ [ProjectionTargetV1.gateway, .auth],
      ∃ receipt ∈ receipts, receipt.target = target ∧ receipt.state = .active)
    (marks : activation.state = .succeeded → some activation.activationId = operationId ∧
      seen activation.candidateRevisionId ∧ ∀ older, activation.previousRevisionId = some older →
        Retires older (continuation ()))
    (rest : Acts operationId (fun other => known other ∨ other = activation) seen
      (continuation ())) :
    Acts operationId known seen (putBundle activation receipts >>= continuation) := by
  refine ⟨marks, fun plane bears => ⟨?_, complete⟩, fun reply _ => ?_⟩
  · rw [owns.1, owns.2]
    exact (bears origin there).mono (Nat.zero_le _)
  · cases reply with
    | error error => trivial
    | ok done => exact rest.mono (fun _ => Or.imp_right fun same => ⟨rfl, same⟩) fun _ => .inl

section

variable {jobId : String} {known : ContributionActivationV1 → Prop} {seen : Sha256 → Prop}
  {payload : ContributionJobPayloadV1} {activation compensating : ContributionActivationV1}
  {candidate : ContributionRevisionV1} {receipts : List ProjectionReceiptV1}
  {head : Option ContributionHeadV1}

section

omit [RecordDigests] [VersionSyntax]

theorem ensured {condition : Bool} {error : Error}
    (yields : (ensure condition error : ContributionProgram Error Unit).Yields (fun _ _ => True)
      (.ok ())) : condition = true := by
  cases condition with
  | true => rfl
  | false => cases yields

theorem yields_requiredCandidate {found : ContributionRevisionV1}
    (yields : (requiredCandidate payload activation).Yields (fun _ _ => True) (.ok found)) :
    found.previousRevisionId = activation.previousRevisionId ∧
      found.revisionId = payload.revision.revisionId := by
  obtain ⟨_, _, yields⟩ := yields_bind_ok.mp yields
  obtain ⟨_, _, yields⟩ := yields_bind_ok.mp yields
  obtain ⟨⟨⟩, same, yields⟩ := yields_bind_ok.mp yields
  cases yields
  have same := ensured same
  simp only [Bool.and_eq_true, decide_eq_true_eq] at same
  exact ⟨same.1.2, same.2⟩

end

theorem acts_publish (there : known activation)
    (named : candidate.revisionId = activation.candidateRevisionId)
    (reached : 1 ≤ activation.state.rank) :
    Acts operationId known seen (publishOrRecoverCandidateHead payload candidate) := by
  refine acts_plain_bind (plain_perform rfl) fun stored => ?_
  split
  · trivial
  · refine acts_plain_bind (readOnly_ensure _ _) fun _ => ?_
    refine acts_orFail_bind fun active activated => ?_
    obtain ⟨rfl, _⟩ := transitionTo_ok activated
    refine acts_write_bind rfl (fun tables bears => ⟨activation.activationId, ?_⟩) fun _ =>
      acts_of_plain (plain_orFail _ _)
    exact named ▸ (bears activation there).mono reached

theorem acts_retireReplaced : Acts operationId known seen (retireReplaced candidate) := by
  unfold retireReplaced
  split
  · refine acts_plain_bind (plain_perform rfl) fun stored => ?_
    refine acts_plain_bind (readOnly_orMissing _ _) fun previous => ?_
    split
    · refine acts_orFail_bind fun retired moved => ?_
      obtain ⟨rfl, _⟩ := transitionTo_ok moved
      exact acts_write_bind rfl (fun _ _ => .inl rfl) fun _ => acts_of_plain (plain_orFail _ _)
    · trivial
  · trivial

theorem retires_retirePrevious (older : Sha256) : Retires older (retirePrevious older) := by
  refine ⟨_, rfl, fun revision active retired => ?_⟩
  show RetiresNow revision (if revision.status = .active then
    (domain revision.retire >>= fun retired => transitionRevision retired) else .done ())
  rw [if_pos active, retired]
  exact ⟨_, rfl⟩

/-- The activation that compensates is the known one, in its new state. -/
theorem acts_enterCompensation_bind {continuation : ContributionActivationV1 → Controlled β}
    (there : known activation)
    (rest : ∀ compensating, compensating.candidateRevisionId = activation.candidateRevisionId →
      compensating.state = .compensating →
        Acts operationId (fun other => known other ∨ other = compensating) seen
          (continuation compensating)) : Acts operationId known seen
      (enterCompensation payload activation receipts >>= continuation) := by
  rw [enterCompensation, bind_assoc]
  refine acts_plain_bind (plain_operationTerminationIntent payload) fun intent => ?_
  have begins : Acts operationId known seen ((do
      let compensating ← domain (activation.beginCompensation intent)
      putBundle compensating receipts
      return compensating) >>= continuation) := by
    rw [bind_assoc]
    refine acts_orFail_bind fun compensating moved => ?_
    obtain ⟨rfl, _⟩ := transition_ok moved
    rw [bind_assoc]
    exact acts_putBundle_bind there ⟨rfl, rfl⟩ nofun nofun (rest _ rfl rfl)
  split
  · exact begins
  · exact begins
  · exact begins
  · next state =>
      refine (rest activation rfl state).mono ?_ fun _ => id
      rintro _ (stored | rfl)
      · exact stored
      · exact there
  · trivial

theorem acts_takeBack (there : known compensating) (state : compensating.state = .compensating)
    (named : candidate.revisionId = compensating.candidateRevisionId) :
    Acts operationId known seen (takeBack jobId payload candidate head) := by
  have withdrawn (tables : ContributionTables) (bears : tables.Bears known) :
      ∃ id, tables.Activated id candidate.revisionId 3 :=
    ⟨compensating.activationId, named ▸ (bears compensating there).mono
      (by rw [state]; exact le_rfl)⟩
  unfold takeBack
  split
  · refine acts_plain_bind (readOnly_ensure _ _) fun _ => ?_
    refine acts_orFail_bind fun aborted moved => ?_
    obtain ⟨rfl, _⟩ := transitionTo_ok moved
    exact acts_write_bind rfl (fun tables bears => .inr ⟨rfl, withdrawn tables bears⟩) fun _ =>
      acts_of_plain ((plain_orFail _ _).bind fun _ => trivial)
  · refine acts_plain_bind (readOnly_orMissing _ _) fun current => ?_
    refine acts_plain_bind (plain_checkpoint jobId) fun _ => ?_
    split
    · refine acts_plain_bind (plain_perform rfl) fun _ => ?_
      refine acts_plain_bind (readOnly_orMissing _ _) fun previous => ?_
      refine acts_plain_bind (looks_ensureRestoreRuntimeGate _ _).plain fun _ => ?_
      exact acts_write_bind rfl withdrawn fun _ =>
        acts_of_plain ((plain_orFail _ _).bind fun _ => trivial)
    · exact acts_write_bind rfl withdrawn fun _ =>
        acts_of_plain ((plain_orFail _ _).bind fun _ => trivial)
  · trivial

/-- A receipt is taken back only for an activation that was found compensating. -/
theorem acts_acknowledgeOne (target : ProjectionTargetV1) (snapshotDigest : Sha256)
    (obligation : ContributionProjectionAcknowledgementV1) :
    Acts operationId known seen (acknowledgeOne target snapshotDigest obligation) := by
  refine ⟨rfl, fun _ _ => trivial, fun stored _ => ?_⟩
  cases stored with
  | none => trivial
  | some activation =>
    refine acts_ensure_bind fun same => ?_
    simp only [Bool.and_eq_true, decide_eq_true_eq] at same
    refine acts_plain_bind (plain_perform rfl) fun _ => ?_
    refine acts_plain_bind (readOnly_orMissing _ _) fun _ => ?_
    refine acts_plain_bind (readOnly_ensure _ _) fun _ => ?_
    refine acts_plain_bind (plain_perform rfl) fun _ => ?_
    refine acts_plain_bind (readOnly_orMissing _ _) fun _ => ?_
    refine acts_plain_bind (readOnly_ensure _ _) fun _ => ?_
    refine ⟨rfl, fun _ _ => trivial, fun receipts own =>
      acts_orMissing_bind fun current found => ?_⟩
    refine acts_plain_bind (readOnly_ensure _ _) fun _ => ?_
    split
    · trivial
    · refine acts_orFail_bind fun observed recorded => acts_write_bind rfl (fun tables bears => ?_)
        fun _ => acts_of_plain ((plain_orFail _ _).bind fun _ => trivial)
      have state := ProjectionReceiptV1.record_ok recorded
      cases expected : obligation.expectedState with
      | active => exact .inl (by rw [state, expected]; rfl)
      | restored =>
        refine .inr ⟨activation.candidateRevisionId, ?_⟩
        rw [own current (List.mem_of_find?_eq_some found)]
        exact (bears activation (.inl (.inr rfl))).mono (by rw [same.1.1, expected]; exact le_rfl)

variable [ProjectionDigests]

theorem acts_executeCommit (there : known activation)
    (named : candidate.revisionId = activation.candidateRevisionId) :
    Acts operationId known seen (executeCommit jobId payload activation candidate receipts) := by
  unfold executeCommit
  split
  · exact acts_of_plain (plain_confirmSucceeded _ _ _)
  · next state =>
      refine (acts_publish there named (by rw [state]; exact le_rfl)).bind fun _ _ => ?_
      exact acts_of_plain ((plain_recordApiRegistrySnapshot _ _).bind fun _ => trivial)
  · refine acts_plain_bind (readOnly_ensure _ _) fun _ => ?_
    refine acts_plain_bind (looks_ensureRuntimeGateAtLeast _ _).plain fun _ => ?_
    refine acts_plain_bind (plain_checkpoint jobId) fun _ => ?_
    refine acts_orFail_bind fun committing moved => ?_
    obtain ⟨rfl, _⟩ := transition_ok moved
    refine acts_putBundle_bind there ⟨rfl, rfl⟩ nofun nofun ?_
    have brings : candidate.revisionId = (activation.moved .committing none).candidateRevisionId :=
      named
    refine (acts_publish (.inr rfl) brings le_rfl).bind fun _ _ => acts_of_plain ?_
    exact (plain_checkpoint jobId).bind fun _ =>
      (plain_recordApiRegistrySnapshot _ _).bind fun _ => trivial
  · trivial

/-- The activation is marked as succeeded when the consumers have acknowledged it, and then its
predecessor is retired. -/
theorem acts_executeAckGate (there : known activation)
    (own : some activation.activationId = operationId)
    (named : candidate.revisionId = activation.candidateRevisionId)
    (previous : candidate.previousRevisionId = activation.previousRevisionId) :
    Acts operationId known seen (executeAckGate payload activation candidate receipts) := by
  refine ⟨rfl, fun _ _ => trivial, fun stored _ => ?_⟩
  cases stored with
  | none => trivial
  | some current =>
    refine acts_ensure_bind fun names => ?_
    have names : current.activeRevisionId = candidate.revisionId := by simpa using names
    split
    · exact acts_of_plain ((readOnly_ensure _ _).bind fun _ => trivial)
    · refine acts_plain_bind (plain_recordApiRegistrySnapshot _ _) fun _ => ?_
      refine acts_plain_bind (plain_requiredReceipts _) fun receipts => ?_
      refine acts_ensure_bind fun acknowledged => ?_
      refine acts_orFail_bind fun succeeded moved => ?_
      obtain ⟨rfl, _⟩ := transition_ok moved
      refine acts_putBundle_bind (.inl there) ⟨rfl, rfl⟩ (fun _ target required => ?_)
        (fun _ => ⟨own, .inr ⟨current, rfl, names.trans named⟩, fun older isPrevious => ?_⟩) ?_
      · obtain ⟨receipt, member, found⟩ :=
          List.any_eq_true.mp (List.all_eq_true.mp acknowledged target required)
        simp only [Bool.and_eq_true, decide_eq_true_eq] at found
        exact ⟨receipt, member, found.1⟩
      · have before : candidate.previousRevisionId = some older := previous.trans isPrevious
        rw [retireReplaced, before]
        exact (retires_retirePrevious older).bind _
      · exact acts_retireReplaced.bind fun _ _ => trivial
    · trivial

theorem acts_compensate (there : known compensating) (state : compensating.state = .compensating)
    (named : candidate.revisionId = compensating.candidateRevisionId) :
    Acts operationId known seen (compensate jobId payload candidate receipts compensating) := by
  refine acts_plain_bind (plain_checkpoint jobId) fun _ => ?_
  refine acts_plain_bind (plain_perform rfl) fun current => ?_
  refine (acts_takeBack there state named).bind fun restored _ => ?_
  split
  · refine acts_plain_bind (readOnly_forEach plain_terminalReceipt) fun _ => ?_
    refine acts_orFail_bind fun aborted moved => ?_
    obtain ⟨rfl, _⟩ := transition_ok moved
    exact acts_putBundle_bind there ⟨rfl, rfl⟩ nofun nofun trivial
  · refine acts_plain_bind (plain_activeContributionSnapshot _ _) fun _ => ?_
    refine acts_plain_bind (readOnly_forEach fun _ => plain_restoreReceipt _ _ _ _) fun _ => ?_
    refine acts_plain_bind (readOnly_orMissing _ _) fun _ => ?_
    refine acts_putBundle_bind there ⟨rfl, rfl⟩ (by rw [state]; nofun) (by rw [state]; nofun) ?_
    refine acts_plain_bind (plain_requiredReceipts _) fun _ => ?_
    refine acts_plain_bind (readOnly_ensure _ _) fun _ => ?_
    refine acts_orFail_bind fun aborted moved => ?_
    obtain ⟨rfl, _⟩ := transition_ok moved
    exact acts_putBundle_bind (.inl there) ⟨rfl, rfl⟩ nofun nofun trivial

theorem acts_executeAbort (there : known activation)
    (named : candidate.revisionId = activation.candidateRevisionId) :
    Acts operationId known seen (executeAbort jobId payload activation candidate receipts) := by
  unfold executeAbort
  split
  · exact acts_of_plain (plain_verifyAbortEvidence _ _ _)
  · exact acts_enterCompensation_bind there fun compensating same state =>
      acts_compensate (.inr rfl) state (named.trans same.symm)

theorem acts_executePhase (there : known activation)
    (own : some activation.activationId = operationId) :
    Acts operationId known seen (executePhase jobId payload activation) := by
  refine acts_ensure_bind fun same => ?_
  simp only [Bool.and_eq_true, decide_eq_true_eq] at same
  refine (acts_of_plain (plain_requiredCandidate _ _)).bind fun candidate yields => ?_
  obtain ⟨previous, identity⟩ := yields_requiredCandidate yields
  have named : candidate.revisionId = activation.candidateRevisionId := identity.trans same.1.2.symm
  refine acts_plain_bind (plain_requiredReceipts _) fun receipts => ?_
  split
  · exact acts_executeCommit there named
  · exact acts_executeAckGate there own named previous
  · exact acts_executeAbort there named
  · exact acts_executeAbort there named

theorem acts_executePrepare : Acts operationId known seen (executePrepare jobId payload) := by
  refine acts_plain_bind (plain_orFail _ _) fun prepared => ?_
  refine acts_plain_bind (plain_orFail _ _) fun pending => ?_
  refine acts_plain_bind (plain_perform rfl) fun stored => ?_
  refine acts_plain_bind (plain_stageCandidate _ _ _ _) fun _ => ?_
  refine ⟨rfl, fun _ _ => trivial, fun stored _ => ?_⟩
  cases stored with
  | none => trivial
  | some activation =>
    have plain : Plain (ensurePayloadIdentity payload activation >>= fun _ => .done activation) :=
      (readOnly_ensure _ _).bind fun _ => trivial
    refine (acts_of_plain plain).bind fun same yields => ?_
    obtain ⟨⟨⟩, _, yields⟩ := yields_bind_ok.mp yields
    cases yields
    refine acts_plain_bind (plain_requiredReceipts payload) fun receipts => ?_
    split_ifs with staged state
    · trivial
    · exact acts_of_plain ((readOnly_ensure _ _).bind fun _ => trivial)
    · refine acts_plain_bind (readOnly_forEach (plain_stagedReceipt _ _)) fun _ => ?_
      have preparing := not_not.mp state
      refine acts_putBundle_bind (.inr rfl) ⟨rfl, rfl⟩ (by rw [preparing]; nofun)
        (by rw [preparing]; nofun) ?_
      exact acts_of_plain ((readOnly_ensure _ _).bind fun _ => trivial)

/-- A job makes only lawful calls, marks only its own activation as succeeded and then
finishes it. -/
theorem acts_executeContributionJob {operationId : String} :
    Acts (some operationId) known seen (executeContributionJob jobId payload operationId) := by
  refine acts_plain_bind (plain_orFail _ _) fun _ => ?_
  refine acts_ensure_bind fun same => ?_
  have same : payload.activationId = operationId := by simpa using same
  refine acts_plain_bind (plain_checkpoint jobId) fun _ => ?_
  split_ifs
  · exact acts_executePrepare.bind fun _ _ =>
      acts_of_plain ((plain_checkpoint jobId).bind fun _ => trivial)
  · refine ⟨rfl, fun _ _ => trivial, fun stored truthful => ?_⟩
    cases stored with
    | none =>
      split_ifs
      · exact acts_of_plain (plain_executeUnstagedAbort payload)
      · trivial
    | some activation =>
      have own := (truthful activation rfl).trans same
      exact (acts_executePhase (.inr rfl) (congrArg some own)).bind fun _ _ =>
        acts_of_plain ((plain_checkpoint jobId).bind fun _ => trivial)

theorem acts_acknowledgementResponse (request : AcknowledgementRequest) :
    Acts operationId known seen (acknowledgementResponse request) := by
  refine acts_plain_bind (plain_orFail _ _) fun _ => ?_
  refine acts_plain_bind (plain_activeContributionSnapshot _ _) fun _ => ?_
  refine acts_plain_bind (readOnly_ensure _ _) fun _ => ?_
  refine acts_plain_bind (readOnly_ensure _ _) fun _ => ?_
  refine acts_plain_bind (readOnly_ensure _ _) fun _ => ?_
  exact (acts_forEach (acts_acknowledgeOne request.target request.snapshotDigest) _).bind
    fun _ _ => trivial

end

variable {plane : ContributionPlane}

theorem truthful_exec (orderly : plane.tables.Orderly) (call : ContributionPlaneCall) :
    Truthful call (plane.exec call).1 := by
  cases call with
  | repository call =>
    cases call with
    | getActivation id => exact fun activation found => orderly.named id activation found
    | listReceipts id =>
      intro receipt listed
      obtain ⟨⟨key, receipt⟩, stored, rfl⟩ := List.mem_map.mp listed
      obtain ⟨stored, own⟩ := List.mem_filter.mp stored
      have found := Std.TreeMap.mem_toList_iff_getElem?_eq_some.mp stored
      exact (orderly.addressed key receipt found).trans (of_decide_eq_true own)
    | _ => trivial
  | _ => trivial

theorem activated_of_stores (orderly : plane.tables.Orderly) (call : ContributionPlaneCall)
    (stores : Stores call (plane.exec call).1 activation) :
    (plane.exec call).2.tables.Activated activation.activationId activation.candidateRevisionId
      activation.state.rank := by
  cases call with
  | repository call =>
    cases call with
    | getActivation id =>
      have named : activation.activationId = id := orderly.named id activation stores
      exact ⟨activation, named ▸ stores, rfl, le_rfl⟩
    | putBundle written receipts =>
      obtain ⟨committed, rfl⟩ := stores
      simp only [ContributionPlane.exec, ContributionCall.exec] at committed ⊢
      cases done : plane.tables.putContributionActivationBundle .sqlite activation receipts with
      | error error =>
        rw [done] at committed
        cases committed
      | ok answer =>
        obtain ⟨_, _⟩ := answer
        obtain ⟨_, rfl⟩ := putBundle_checked done
        refine ⟨activation, ?_, rfl, le_rfl⟩
        exact (putBundle_activations ..).trans (if_pos rfl)
    | _ => exact stores.elim
  | _ => exact stores.elim

abbrev Complies (program : ContributionProgram Error α) : Prop :=
  program.Preserves contributionProtocol fun _ => True

theorem Acts.complies (acts : Acts operationId known seen program) {loaded : ContributionPlane}
    (bears : plane.tables.Bears known) :
    program.Ensures contributionProtocol (fun _ _ _ => True) loaded plane := by
  induction program generalizing known seen loaded plane with
  | done result => trivial
  | fail error => trivial
  | call call next ih =>
    intro now relied orderly
    have there : now.tables.Bears known := fun activation stored =>
      (bears activation stored).advance relied
    refine ⟨acts.2.1 now there, ih _ (acts.2.2 _ (truthful_exec orderly call)) ?_⟩
    rintro activation (stored | stores)
    · exact (there activation stored).advance (now.exec_advances orderly call)
    · exact activated_of_stores orderly call stores

theorem complies_of_free (free : Free program) : Complies program :=
  fun loaded plane _ => Program.ensures_of_unguarded (fun _ _ plane => plane.permits_of_isFree) free
    (fun _ _ _ => trivial) loaded plane

theorem complies_processJob [ProjectionDigests] (jobId : String) (job : ContributionJob) :
    Complies (processJob jobId job) := by
  refine (complies_of_free (plain_checkpoint jobId).free).bind fun _ => Preserves.bind ?_ fun _ =>
    complies_of_free (ReadOnly.bind (readOnly_perform rfl) fun _ => trivial)
  intro loaded plane _
  have acts : Acts (some job.operationId) (fun _ => False) (fun _ => False)
      (executeContributionJob jobId job.payload job.operationId) := acts_executeContributionJob
  exact Program.ensures_outcome.mpr (acts.complies nofun)

end ContributionController

variable [RecordDigests] [VersionSyntax] (plane : ContributionPlane)

theorem ContributionPlane.exec_orderly (orderly : plane.tables.Orderly)
    (permitted : plane.Permits call) : (plane.exec call).2.tables.Orderly := by
  rcases plane.exec_tables call with same | ⟨_, rfl⟩
  · rw [same]
    exact orderly
  · exact orderly.exec permitted

variable [ProjectionDigests]

open ContributionController Platform

/-- What a call may rely on and has to guarantee, on the platform. -/
abbrev contributionLogic : Logic ContributionPlane
    (fun request : ContributionRequest => request.2.Reply) :=
  contributionPlatform.logic (fun before after => before.tables.Advances after.tables)
    (fun plane => plane.tables.Orderly) (fun _ request plane => plane.Permits request.2)

theorem complies_labelled {α : Type} (label : Option String) {program : Controlled α}
    (complies : ContributionController.Complies program) (loaded plane : ContributionPlane) :
    (program.labelled label).Ensures contributionLogic (fun _ _ _ => True) loaded plane :=
  Program.ensures_labelled label (fun _ _ => rfl) (fun _ => rfl) rfl rfl
    (fun _ _ _ permitted => permitted)
    (complies loaded plane trivial)

theorem complies_afterClaim (jobId : String) (reply : Option ContributionJob)
    (loaded plane : ContributionPlane) :
    (afterClaim jobId reply).Ensures contributionLogic (fun _ _ _ => True) loaded plane := by
  cases reply with
  | none => trivial
  | some job => exact complies_labelled _ (complies_processJob jobId job) _ _

theorem ContributionTask.complies (task : ContributionTask) (plane : ContributionPlane) :
    task.program.Ensures contributionLogic (fun _ _ _ => True) plane plane := by
  cases task with
  | work jobId => exact fun now _ _ => ⟨trivial, complies_afterClaim jobId _ _ _⟩
  | recover jobId =>
    exact complies_labelled none (complies_of_free (plain_recoverJob jobId).free) _ _
  | acknowledge request =>
    have acts : Acts none (fun _ => False) (fun _ => False) (acknowledgementResponse request) :=
      acts_acknowledgementResponse request
    refine complies_labelled none ?_ _ _
    refine Preserves.bind (fun loaded plane _ => ?_) fun _ _ _ _ => trivial
    exact Program.ensures_outcome.mpr (acts.complies nofun)

variable {permits : contributionPlatform.Discipline} {world : ContributionWorld}
  {config : contributionPlatform.Config}

/-- In every run the tables are orderly, and every suspended program keeps to the protocol. -/
theorem contributions_orderly (run : Run permits (contributionsIdle world) config) :
    config.state.tables.Orderly ∧ ∀ thread ∈ config.threads,
      (∃ request next, thread.program = .call request next) ∧
        thread.program.Ensures contributionLogic (fun _ _ _ => True) thread.loaded
          config.state := by
  refine @run_invariant contributionPlatform
    (fun before after : ContributionPlane => before.tables.Advances after.tables)
    (fun _ request (plane : ContributionPlane) => plane.Permits request.2)
    (fun plane : ContributionPlane => plane.tables.Orderly)
    (fun plane => .refl plane.tables) (fun earlier later => earlier.trans later)
    (fun task plane _ => task.complies plane) ?_ ?_ permits _ _ rfl
    orderly_empty run
  · exact fun _ request plane orderly permitted =>
      ⟨plane.exec_orderly orderly permitted, plane.exec_advances orderly request.2⟩
  · intro happening plane orderly
    have same := plane.react_tables happening
    exact ⟨same ▸ orderly, same ▸ .refl plane.tables⟩

theorem contributions_permitted (run : Run permits (contributionsIdle world) config) {index : Nat}
    {loaded : ContributionPlane} {request : ContributionRequest}
    (performs : config.Performs index loaded request) : config.state.Permits request.2 := by
  obtain ⟨_, found⟩ := performs
  obtain ⟨orderly, threads⟩ := contributions_orderly run
  obtain ⟨_, ensured⟩ := threads _ (List.mem_of_getElem? found)
  exact (ensured config.state (.refl _) orderly).1

/-- Induction over a run: only the calls of the repository change the tables. -/
theorem contributions_induct {holds : ContributionTables → Prop} (start : holds .empty)
    (keeps : ∀ config index loaded label call,
      Run permits (contributionsIdle world) config → permits config (.step index) →
        config.Performs index loaded (label, .repository call) → holds config.state.tables →
          holds (call.exec .sqlite config.state.tables).2)
    (run : Run permits (contributionsIdle world) config) : holds config.state.tables := by
  induction run with
  | refl => exact start
  | @tail before after earlier step ih =>
    rcases step_cases step with same |
      ⟨index, loaded, ⟨label, request⟩, permitted, performs, moved⟩ |
      ⟨happening, _, moved⟩
    · rw [same]
      exact ih
    · rw [moved]
      rcases before.state.exec_tables request with same | ⟨call, rfl⟩
      · change holds (before.state.exec request).2.tables
        rw [same]
        exact ih
      · exact keeps before index loaded label call earlier permitted performs ih
    · rw [moved, show (contributionPlatform.react happening before.state).tables =
        before.state.tables from before.state.react_tables happening]
      exact ih

end UntitledOJ
