import UntitledOJ.ContributionRoutes
import UntitledOJ.ContributionLineage

/-!
# Withdrawing a published candidate

ABORT points the head of a service back to the candidate's predecessor, or to an empty tombstone.
Both calls are accepted while the head is at the candidate's generation and the tombstone's
generation is free, which other operations may change.
-/

namespace UntitledOJ

open Contribution Platform ContributionRevisionV1 ContributionHeadV1 ContributionBackend
  RevisionHashMaterial ContributionTables

variable {candidate revision : ContributionRevisionV1}

section

theorem rejectIf_false {refused : Bool} {message : String} (passes : refused = false) :
    rejectIf refused message = .ok () := by
  rw [rejectIf, require, passes]
  rfl

theorem validateStableIdentifier_rename {name other value : String}
    (valid : validateStableIdentifier name value = .ok ()) :
    validateStableIdentifier other value = .ok () :=
  rejectIf_false (of_rejectIf valid)

variable [RecordDigests] [VersionSyntax] {current : ContributionHeadV1}

structure ContributionRevisionV1.Identified (revision : ContributionRevisionV1) : Prop where
  scope : validateStableIdentifier "scope_id" revision.scopeId = .ok ()
  deployment : validateStableIdentifier "deployment_id" revision.deploymentId = .ok ()
  service : Contribution.validateServiceId revision.serviceId = .ok ()
  positive : 0 < revision.generation

theorem ContributionRevisionV1.identified_of_validate (valid : revision.validate = .ok ()) :
    revision.Identified := by
  obtain ⟨_, valid⟩ := ok_of_rejectIf_bind valid
  obtain ⟨⟨⟩, content, _⟩ := ok_of_bind valid
  obtain ⟨⟨⟩, scope, content⟩ := ok_of_bind content
  obtain ⟨⟨⟩, deployment, content⟩ := ok_of_bind content
  obtain ⟨⟨⟩, service, content⟩ := ok_of_bind content
  obtain ⟨positive, _⟩ := ok_of_rejectIf_bind content
  exact ⟨scope, deployment, service, Nat.pos_of_ne_zero (of_decide_eq_false positive)⟩

omit [VersionSyntax] in
theorem ContributionHeadV1.validate_of_identified {head : ContributionHeadV1}
    (identified : revision.Identified)
    (scope : head.scopeId = revision.scopeId) (service : head.serviceId = revision.serviceId)
    (generation : revision.generation ≤ head.generation)
    (tagged : head.etag = canonicalSha256 (.head head.toHeadHashMaterial)) :
    head.validate = .ok () := by
  have positive := identified.positive
  rw [validate, scope, validateStableIdentifier_rename identified.scope, ok_then, service,
    identified.service, ok_then, rejectIf_false (decide_eq_false (by omega)), ok_then]
  exact rejectIf_false (by simp [calculateEtag, tagged])

def stagedTombstone (candidate : ContributionRevisionV1) : ContributionRevisionV1 :=
  .staged (tombstoneContent candidate (candidate.generation + 1))
    (canonicalSha256 (.revision (tombstoneContent candidate (candidate.generation + 1))))

section

variable (identified : candidate.Identified)
include identified

theorem validateContent_stagedTombstone : (stagedTombstone candidate).validateContent = .ok () := by
  have lineage : (stagedTombstone candidate).validateLineage = .ok () := by
    obtain ⟨_, isNext⟩ := Nat.exists_eq_succ_of_ne_zero identified.positive.ne'
    simp only [validateLineage, stagedTombstone, staged, tombstoneContent, isNext]
  rw [validateContent, lineage]
  simp only [stagedTombstone, staged, tombstoneContent, identified.scope,
    identified.deployment, identified.service, ok_then]
  rfl

theorem validate_stagedTombstone : (stagedTombstone candidate).validate = .ok () := by
  have schema : (stagedTombstone candidate).schemaVersion = contributionRevisionSchemaVersion := rfl
  have identity : (stagedTombstone candidate).revisionId =
      (stagedTombstone candidate).calculateRevisionId := rfl
  rw [ContributionRevisionV1.validate, validateContent_stagedTombstone identified, ← identity,
    rejectIf_false (by simp [schema]), ok_then, ok_then, rejectIf_false (by simp), ok_then]
  exact rejectIf_false (decide_eq_false (not_not.mpr rfl))

theorem stage_tombstoneContent :
    ContributionRevisionV1.stage (tombstoneContent candidate (candidate.generation + 1)) =
      .ok (stagedTombstone candidate) := by
  have content := validateContent_stagedTombstone identified
  have valid := validate_stagedTombstone identified
  unfold stagedTombstone at content valid
  simp only [stage,
    show (tombstoneContent candidate (candidate.generation + 1)).canonicalized =
      tombstoneContent candidate (candidate.generation + 1) from rfl, content, valid, ok_then]
  rfl

end

variable (currentValid : current.validate = .ok ()) (candidateValid : candidate.validate = .ok ())
include currentValid candidateValid

theorem restoreContributionHead_of_precedes {previous : ContributionRevisionV1}
    (previousValid : previous.validate = .ok ()) (active : candidate.status = .active)
    (names : current.activeRevisionId = candidate.revisionId)
    (scope : current.scopeId = candidate.scopeId)
    (service : current.serviceId = candidate.serviceId)
    (direct : current.generation = candidate.generation)
    (replaced : candidate.previousRevisionId = some previous.revisionId)
    (precedes : ContributionTables.Precedes previous candidate) :
    restoreContributionHead current current.etag candidate previous =
      .ok ⟨.naming previous current.generation, previous.withStatus .active,
        candidate.withStatus .retired⟩ := by
  have revivable : previous.status = .active ∨ previous.status = .retired := by
    have isPublished := precedes.published
    cases status : previous.status <;> simp_all [ContributionRevisionStatusV1.isPublished]
  have older := precedes.older
  have restored : (previous.withStatus .active).validate = .ok () := previousValid
  have valid : (naming previous current.generation).validate = .ok () :=
    validate_of_identified
      (identified_of_validate previousValid) rfl rfl
      (by rw [direct]; exact older.le) rfl
  have retires := transitionTo_of_mayBecome candidateValid
    (show mayBecome candidate.status .retired = true by rw [active]; rfl)
  have restores : restoredTo (previous.withStatus .active)
      current.generation = .ok (.naming previous current.generation) := by
    have after : ¬ current.generation < (previous.withStatus .active).generation := by
      rw [direct]
      exact not_lt.mpr older.le
    simp only [restoredTo, restored, ok_then, rejectIf_false
      (decide_eq_false after), show naming (previous.withStatus .active)
        current.generation = .naming previous current.generation from rfl, valid]
    rfl
  rw [restoreContributionHead, currentValid, candidateValid, previousValid, ok_then, ok_then,
    ok_then, require, if_pos (by simp), ok_then, rejectIf_false (by simp [active]), ok_then,
    rejectIf_false (by rcases revivable with status | status <;> simp [status]), ok_then,
    rejectIf_false (by simp [scope, service, precedes.scope, precedes.service]), ok_then,
    rejectIf_false (by simp [names, direct]), ok_then, rejectIf_false (by simp [replaced]), ok_then,
    rejectIf_false (decide_eq_false (not_le.mpr older)), ok_then, retire,
    retires, ok_then]
  simp only [restored, restores, ok_then]
  rfl

theorem clearInitialContributionHead_of_first (active : candidate.status = .active)
    (names : current.activeRevisionId = candidate.revisionId)
    (scope : current.scopeId = candidate.scopeId)
    (service : current.serviceId = candidate.serviceId)
    (direct : current.generation = candidate.generation)
    (first : candidate.previousRevisionId = none)
    (representable : candidate.generation + 1 < 2 ^ 63) :
    clearInitialContributionHead current current.etag candidate =
      .ok ⟨.naming (stagedTombstone candidate) (candidate.generation + 1),
        (stagedTombstone candidate).withStatus .active, candidate.withStatus .retired⟩ := by
  have identified := identified_of_validate candidateValid
  have next : checkedSucc current.generation = some (candidate.generation + 1) := by
    rw [direct, checkedSucc, if_pos (by omega)]
  have staged := stage_tombstoneContent identified
  have stagedValid := validate_stagedTombstone identified
  have activates : (stagedTombstone candidate).activate =
      .ok ((stagedTombstone candidate).withStatus .active) :=
    transitionTo_of_mayBecome stagedValid rfl
  have retires : candidate.retire = .ok (candidate.withStatus .retired) :=
    transitionTo_of_mayBecome candidateValid (by rw [active]; rfl)
  have activeValid : ((stagedTombstone candidate).withStatus .active).validate = .ok () :=
    stagedValid
  have swaps : compareAndSwapContributionHead (some current) (some current.etag)
      ((stagedTombstone candidate).withStatus .active) =
        .ok (.naming (stagedTombstone candidate) (candidate.generation + 1)) := by
    have valid : (naming ((stagedTombstone candidate).withStatus .active)
        ((stagedTombstone candidate).withStatus .active).generation).validate = .ok () :=
      validate_of_identified (identified_of_validate activeValid) rfl rfl le_rfl rfl
    have follows : extendsHead (some current) ((stagedTombstone candidate).withStatus .active) =
        .ok () := by
      have newer : ¬ ((stagedTombstone candidate).withStatus .active).generation ≤
          current.generation := by
        rw [direct]
        exact Nat.not_succ_le_self _
      rw [extendsHead, currentValid, ok_then, rejectIf_false (by simp [scope, service,
        stagedTombstone, ContributionRevisionV1.staged, tombstoneContent]), ok_then,
        rejectIf_false (decide_eq_false newer), ok_then]
      exact rejectIf_false (decide_eq_false (not_not.mpr (congrArg some names.symm)))
    simp only [compareAndSwapContributionHead, activeValid, follows, ok_then, Option.map_some,
      require, fromActiveRevision, valid]
    rfl
  rw [clearInitialContributionHead, currentValid, candidateValid, ok_then, ok_then, require,
    if_pos (by simp), ok_then, rejectIf_false (by simp [active, first, names, scope, service,
      direct]), ok_then, next]
  simp only [staged, activates, swaps, retires, ok_then]
  rfl

end

namespace ContributionTables

theorem of_storableGeneration {generation : Nat}
    (stored : ContributionBackend.sqlite.storableGeneration generation = .ok ()) :
    generation < 2 ^ 63 :=
  of_decide_eq_true (of_require stored)

variable {before after : ContributionTables}

/-- The database holds generations of 63 bits. -/
def Storable (tables : ContributionTables) : Prop :=
  ∀ (id : Sha256) revision, tables.revisions[id]? = some revision →
    revision.generation < 2 ^ 63

theorem Storable.writes (storable : before.Storable) (writes : before.Writes after revision)
    (fits : revision.generation < 2 ^ 63) : after.Storable := by
  intro id row stored
  rw [writes] at stored
  split_ifs at stored
  · cases stored
    exact fits
  · exact storable id row stored

variable [RecordDigests] [VersionSyntax]

theorem Storable.exec (keyed : before.Keyed) (storable : before.Storable) {call : ContributionCall}
    (lawful : before.Lawful call) : (call.exec .sqlite before).2.Storable := by
  have effect := exec_effect keyed .sqlite call
  generalize (call.exec .sqlite before).2 = after at effect ⊢
  have retire {existing : ContributionRevisionV1} (status : ContributionRevisionStatusV1)
      (stored : before.revisions[existing.revisionId]? = some existing) :
      (before.putRevision (existing.withStatus status)).Storable :=
    storable.writes (writes_putRevision before _) (storable _ existing stored)
  cases effect with
  | kept revisions =>
    intro id row stored
    rw [revisions] at stored
    exact storable id row stored
  | inserted => exact lawful.elim
  | bundled | observed => exact storable
  | staged _ _ _ fits =>
    exact storable.writes (writes_putRevision before _) (of_storableGeneration fits)
  | moved stored => exact retire _ stored
  | «published» stored => exact retire .active stored
  | @restored _ _ previous _ storedCandidate storedPrevious =>
    exact (retire .retired storedCandidate).writes
      (writes_putRevision _ (previous.withStatus .active)) (storable _ previous storedPrevious)
  | cleared storedCandidate _ _ _ fits =>
    exact (retire .retired storedCandidate).writes (writes_putRevision _ _)
      (of_storableGeneration fits)

/-- The head is at the generation of the candidate, and the generation after that of a first
candidate is free for its tombstone, as is the tombstone's digest. -/
def Withdrawable (tables : ContributionTables) (head : ContributionHeadV1)
    (candidate : ContributionRevisionV1) : Prop :=
  head.generation = candidate.generation ∧ (candidate.previousRevisionId = none →
    (∀ revision ∈ tableRows tables.revisions, revision.scopeId = candidate.scopeId →
      revision.serviceId = candidate.serviceId →
        revision.generation ≠ candidate.generation + 1) ∧ candidate.generation + 1 < 2 ^ 63 ∧
    tables.revisions[(stagedTombstone candidate).revisionId]? = none)
deriving Decidable

variable {head : ContributionHeadV1} (sound : before.Sound)
include sound

variable (headed : before.contributionHead candidate.scopeId candidate.serviceId = some head)
  (names : head.activeRevisionId = candidate.revisionId)
  (stored : before.revisions[candidate.revisionId]? = some candidate)
include headed names stored

theorem Sound.headed_valid :
    before.Publishes (candidate.scopeId, candidate.serviceId) head candidate ∧
      candidate.validate = .ok () ∧ head.validate = .ok () := by
  obtain ⟨named, publishes⟩ := sound.headed _ head headed
  obtain rfl : candidate = named := Option.some.inj (stored.symm.trans (names ▸ publishes.stored))
  have valid := (sound.keyed _ candidate stored).2
  obtain ⟨scope, service⟩ := Prod.mk.inj publishes.key_eq
  exact ⟨publishes, valid, validate_of_identified
    (identified_of_validate valid) scope service publishes.generation
    publishes.tagged⟩

theorem restoreHead_of_withdrawable (lineage : before.Lineage) (storable : before.Storable)
    {previousId : Sha256} (replaced : candidate.previousRevisionId = some previousId) :
    ∃ previous, before.revisions[previousId]? = some previous ∧ Precedes previous candidate ∧
      (head.generation = candidate.generation →
        before.restoreHead .sqlite head.etag candidate.revisionId previousId =
        .ok (.naming previous head.generation,
          ((before.putRevision (candidate.withStatus .retired)).putRevision
            (previous.withStatus .active)).putHead (.naming previous head.generation))) := by
  obtain ⟨publishes, candidateValid, headValid⟩ := sound.headed_valid headed names stored
  obtain ⟨scope, service⟩ := Prod.mk.inj publishes.key_eq
  have isPublished : candidate.status.isPublished = true := by rw [publishes.active]; rfl
  obtain ⟨previous, there, precedes⟩ :=
    lineage.descends _ candidate stored isPublished previousId replaced
  obtain ⟨rfl, previousValid⟩ := sound.keyed previousId previous there
  refine ⟨previous, there, precedes, fun direct => ?_⟩
  have restores := restoreContributionHead_of_precedes headValid candidateValid previousValid
    publishes.active names scope service direct replaced precedes
  have fits : (naming previous head.generation).generation < 2 ^ 63 :=
    (direct ▸ storable _ candidate stored : head.generation < 2 ^ 63)
  simp only [restoreHead, stored, there, headed, restores, found, asHeadError, ok_then,
    storableGeneration, require, fits, decide_true, if_true]
  rfl

omit sound names in
theorem direct_of_restoreHead {previousId : Sha256} {reply : ContributionHeadV1}
    (done : before.restoreHead .sqlite head.etag candidate.revisionId previousId =
      .ok (reply, after)) : head.generation = candidate.generation := by
  obtain ⟨_, there, done⟩ := ok_of_bind done
  cases stored.symm.trans (ok_of_found there)
  obtain ⟨_, _, done⟩ := ok_of_bind done
  obtain ⟨_, there, done⟩ := ok_of_bind done
  cases headed.symm.trans (ok_of_found there)
  obtain ⟨_, restores, _⟩ := ok_of_bind done
  exact (restoreContributionHead_ok (ok_of_asHeadError restores)).1.names.2

variable (first : candidate.previousRevisionId = none)
include first

theorem clearHead_of_withdrawable (withdrawable : before.Withdrawable head candidate) :
    before.clearHead .sqlite head.etag candidate.revisionId =
      .ok (.naming (stagedTombstone candidate) (candidate.generation + 1),
        ((before.putRevision (candidate.withStatus .retired)).putRevision
          ((stagedTombstone candidate).withStatus .active)).putHead
            (.naming (stagedTombstone candidate) (candidate.generation + 1))) := by
  obtain ⟨publishes, candidateValid, headValid⟩ := sound.headed_valid headed names stored
  obtain ⟨scope, service⟩ := Prod.mk.inj publishes.key_eq
  obtain ⟨direct, rest⟩ := withdrawable
  obtain ⟨free, representable, unknown⟩ := rest first
  have clears := clearInitialContributionHead_of_first headValid candidateValid publishes.active
    names scope service direct first representable
  have fits : ((stagedTombstone candidate).withStatus .active).generation < 2 ^ 63 := representable
  have unknown : before.revisions[((stagedTombstone candidate).withStatus .active).revisionId]? =
      none := unknown
  have untaken : ((tableRows before.revisions).any fun existing =>
      existing.scopeId = ((stagedTombstone candidate).withStatus .active).scopeId &&
        existing.serviceId = ((stagedTombstone candidate).withStatus .active).serviceId &&
        existing.generation = ((stagedTombstone candidate).withStatus .active).generation &&
        existing.revisionId ≠ ((stagedTombstone candidate).withStatus .active).revisionId) =
      false := by
    rw [List.any_eq_false]
    intro row member taken
    simp only [Bool.and_eq_true, decide_eq_true_eq] at taken
    exact free row member taken.1.1.1 taken.1.1.2 taken.1.2
  simp only [clearHead, stored, headed, clears, found, asHeadError, ok_then,
    storableGeneration, constraint, require, fits, unknown,
    untaken, decide_true, if_true, Option.isNone_none, Bool.not_false]
  rfl

theorem withdrawable_of_clearHead {reply : ContributionHeadV1}
    (done : before.clearHead .sqlite head.etag candidate.revisionId = .ok (reply, after)) :
    before.Withdrawable head candidate := by
  obtain ⟨publishes, candidateValid, headValid⟩ := sound.headed_valid headed names stored
  obtain ⟨scope, service⟩ := Prod.mk.inj publishes.key_eq
  obtain ⟨_, there, done⟩ := ok_of_bind done
  cases stored.symm.trans (ok_of_found there)
  obtain ⟨_, there, done⟩ := ok_of_bind done
  cases headed.symm.trans (ok_of_found there)
  obtain ⟨_, clears, done⟩ := ok_of_bind done
  have clears := ok_of_asHeadError clears
  obtain ⟨_, ⟨⟨_, direct⟩, _, _, empty⟩, shape⟩ := clearInitialContributionHead_ok clears
  obtain ⟨⟨⟩, fits, done⟩ := ok_of_bind done
  have representable : candidate.generation + 1 < 2 ^ 63 := by
    rw [shape] at fits
    exact empty.generation ▸ of_storableGeneration fits
  rw [clearInitialContributionHead_of_first headValid candidateValid publishes.active names scope
    service direct first representable] at clears
  cases clears
  obtain ⟨unknown, done⟩ := ok_of_require_bind done
  obtain ⟨untaken, _⟩ := ok_of_require_bind done
  have unknown := Option.isNone_iff_eq_none.mp unknown
  refine ⟨direct, fun _ => ⟨?_, representable, unknown⟩⟩
  intro revision member sameScope sameService isNext
  -- a row at the tombstone's generation would have its identity, which is not stored
  obtain ⟨id, there⟩ := mem_tableRows.mp member
  have identity := (sound.keyed id revision there).1
  rw [Bool.not_eq_true', List.any_eq_false] at untaken
  have taken := untaken revision member
  simp only [Bool.and_eq_true, decide_eq_true_eq, not_and, not_not] at taken
  have same := taken ⟨⟨sameScope, sameService⟩, isNext⟩
  rw [← identity, same] at there
  cases unknown.symm.trans there

end ContributionTables

section

open ContributionController

variable [RecordDigests] [VersionSyntax] [ProjectionDigests]
variable {permits : contributionPlatform.Discipline} {world : ContributionWorld}
  {config : contributionPlatform.Config}

theorem contributions_storable (run : Run permits (contributionsIdle world) config) :
    config.state.tables.Storable := by
  refine contributions_induct (fun _ _ stored => by simp [empty] at stored) ?_ run
  intro before index loaded label call earlier _ performs storable
  exact storable.exec (contributions_orderly earlier).1.sound.keyed
    (contributions_permitted earlier performs)

end

section

open ContributionController
open ContributionPlane (exec)

variable {plane : ContributionPlane}

/-- What the plane and the reply are after a change of the head. -/
def ContributionPlane.committed (plane : ContributionPlane) :
    Except ContributionRepositoryError (ContributionHeadV1 × ContributionTables) →
      Except ContributionControllerError (Option ContributionHeadV1) × ContributionPlane
  | .ok (head, tables) => (.ok (some head), { plane with tables })
  | .error error => (.error (.ofRepository error), plane)

theorem ContributionPlane.committed_ok {after : ContributionPlane} {head : ContributionHeadV1}
    {result : Except ContributionRepositoryError (ContributionHeadV1 × ContributionTables)}
    (done : plane.committed result = (.ok (some head), after)) :
    result = .ok (head, after.tables) := by
  cases result <;> cases done
  rfl

variable [RecordDigests] [VersionSyntax]

theorem eval_checkpoint {jobId : String}
    (leased : (plane.findJob jobId (·.isExecuting)).isSome = true) :
    (checkpoint jobId).eval exec plane = (.ok (), plane) := by
  have reply : (exec (.checkpoint jobId) plane).1 = (.ok () : Except JobError Unit) := if_pos leased
  show (ContributionProgram.orFail _ (exec (.checkpoint jobId) plane).1).eval exec plane = _
  rw [reply]
  rfl

theorem eval_looks_bind {α β : Type} {program : Controlled α} (looks : Looks program) {result : α}
    (passes : (program.eval exec plane).1 = .ok result) (continuation : α → Controlled β) :
    (program >>= continuation).eval exec plane = (continuation result).eval exec plane := by
  have same := looks.eval_state ContributionPlane.exec_of_isLook plane
  rw [Program.eval_bind, show program.eval exec plane = (.ok result, plane) from
    Prod.ext passes same]

theorem eval_commit
    (result : Except ContributionRepositoryError (ContributionHeadV1 × ContributionTables)) :
    (commit (transact plane.tables result).1 >>= fun head => pure (some head)).eval exec
      { plane with tables := (transact plane.tables result).2 } = plane.committed result := by
  cases result <;> rfl

variable {jobId : String} {payload : ContributionJobPayloadV1}
  {previous : ContributionRevisionV1} {head : ContributionHeadV1}

variable (leased : (plane.findJob jobId (·.isExecuting)).isSome = true)
include leased

theorem eval_withdraw_replaced {previousId : Sha256}
    (replaced : candidate.previousRevisionId = some previousId)
    (stored : plane.tables.revisions[previousId]? = some previous)
    (gate : ((ensureRestoreRuntimeGate payload previous).eval exec plane).1 = .ok ()) :
    (withdraw jobId payload candidate (some head)).eval exec plane =
      plane.committed (plane.tables.restoreHead .sqlite head.etag candidate.revisionId
        previousId) := by
  have reads : (plane.exec (.repository (.getRevision previousId))).1 = some previous := stored
  rw [withdraw, replaced]
  show (checkpoint jobId >>= _).eval exec plane = _
  rw [Program.eval_bind, eval_checkpoint leased]
  show (ContributionProgram.orMissing _
    (plane.exec (.repository (.getRevision previousId))).1 >>= _).eval exec plane = _
  rw [reads]
  show (ensureRestoreRuntimeGate payload previous >>= _).eval exec plane = _
  rw [eval_looks_bind (looks_ensureRestoreRuntimeGate payload previous) gate]
  exact eval_commit _

theorem eval_withdraw_first (first : candidate.previousRevisionId = none) :
    (withdraw jobId payload candidate (some head)).eval exec plane =
      plane.committed (plane.tables.clearHead .sqlite head.etag candidate.revisionId) := by
  rw [withdraw, first]
  show (checkpoint jobId >>= _).eval exec plane = _
  rw [Program.eval_bind, eval_checkpoint leased]
  exact eval_commit _

end

section

open ContributionController

variable [RecordDigests] [VersionSyntax] [ProjectionDigests]
variable {permits : contributionPlatform.Discipline} {world : ContributionWorld}
  {config : contributionPlatform.Config}

/-- When the head names an active candidate, ABORT withdraws it exactly when the head may be
moved. -/
theorem published_candidate_withdrawn (run : Run permits (contributionsIdle world) config)
    {jobId : String} {payload : ContributionJobPayloadV1} {candidate : ContributionRevisionV1}
    {head : ContributionHeadV1}
    (stored : config.state.tables.revisions[candidate.revisionId]? = some candidate)
    (headed : config.state.tables.contributionHead candidate.scopeId candidate.serviceId =
      some head) (names : head.activeRevisionId = candidate.revisionId)
    (leased : (config.state.findJob jobId (·.isExecuting)).isSome = true)
    (gate : ∀ previousId previous, candidate.previousRevisionId = some previousId →
      config.state.tables.revisions[previousId]? = some previous →
        ((ensureRestoreRuntimeGate payload previous).eval ContributionPlane.exec
          config.state).1 = .ok ()) :
    config.state.tables.Withdrawable head candidate ↔
      ∃ withdrawn after, (withdraw jobId payload candidate (some head)).eval ContributionPlane.exec
          config.state = (.ok (some withdrawn), after) ∧
        after.tables.contributionHead candidate.scopeId candidate.serviceId = some withdrawn ∧
        withdrawn.activeRevisionId ≠ candidate.revisionId := by
  have sound := (contributions_orderly run).1.sound
  cases previous : candidate.previousRevisionId with
  | some previousId =>
    have restores := restoreHead_of_withdrawable sound headed
      names stored (contributions_lineage run) (contributions_storable run) previous
    obtain ⟨older, there, precedes, done⟩ := restores
    rw [eval_withdraw_replaced leased previous there (gate previousId older previous there)]
    constructor
    · rintro ⟨direct, _⟩
      rw [done direct]
      refine ⟨_, _, rfl, ?_, ?_⟩
      · exact (points_putHead _ _ _).trans
          (if_pos (Prod.ext precedes.scope.symm precedes.service.symm))
      · intro same
        have identity := (sound.keyed previousId older there).1
        rw [← identity, show older.revisionId = candidate.revisionId from same, stored] at there
        cases there
        exact lt_irrefl _ precedes.older
    · rintro ⟨_, _, evaluated, _⟩
      refine ⟨?_, fun first => by simp [previous] at first⟩
      exact direct_of_restoreHead headed stored (ContributionPlane.committed_ok evaluated)
  | none =>
    rw [eval_withdraw_first leased previous]
    constructor
    · intro withdrawable
      rw [clearHead_of_withdrawable sound headed names stored previous withdrawable]
      refine ⟨_, _, rfl, (points_putHead _ _ _).trans (if_pos rfl), ?_⟩
      intro same
      have unknown := (withdrawable.2 previous).2.2
      rw [show (stagedTombstone candidate).revisionId = candidate.revisionId from same,
        stored] at unknown
      cases unknown
    · rintro ⟨_, _, evaluated, _⟩
      exact withdrawable_of_clearHead sound headed names stored previous
        (ContributionPlane.committed_ok evaluated)

end

namespace ContributionScenario

open ContributionController

def successor : ContributionRevisionV1 := candidateOf "a" 2 (some oldRoutes.revisionId) ["/v"]

/-- Operation 1 publishes the old routes as the first of their service and begins to
compensate; meanwhile other operations act. -/
def firstWithdrawn (meanwhile : List contributionPlatform.Action) :
    List contributionPlatform.Action :=
  works "1" "1p" .prepare oldRoutes none 15 ++ works "1" "1c" .commit oldRoutes none 22 ++
    meanwhile ++ works "1" "1a" .abort oldRoutes none 9

def attempt (plane : ContributionPlane) :
    Except ContributionControllerError (Option ContributionHeadV1) × ContributionPlane :=
  (withdraw "1a" ⟨.abort, "1", oldRoutes, none, none⟩ (oldRoutes.withStatus .active)
    (some (.naming oldRoutes 1))).eval ContributionPlane.exec plane

def ShowsAttempt (may : Bool) (config : contributionPlatform.Config) : Prop :=
  (∃ activation ∈ config.state.tables.activations["1"]?, activation.state = .compensating ∧
      activation.candidateRevisionId = oldRoutes.revisionId) ∧
    config.state.tables.revisions[oldRoutes.revisionId]? = some (oldRoutes.withStatus .active) ∧
    config.state.tables.contributionHead contributionScopeId "a" = some (.naming oldRoutes 1) ∧
    (ContributionPlane.findJob config.state "1a" (·.isExecuting)).isSome = true ∧
    decide (ContributionTables.Withdrawable (ContributionPlane.tables config.state)
      (.naming oldRoutes 1) (oldRoutes.withStatus .active)) = may ∧
    (attempt config.state).1.isOk = may

instance (may : Bool) : DecidablePred (ShowsAttempt may) :=
  fun _ => inferInstanceAs (Decidable (_ ∧ _))

/-- Nobody has staged a successor, and the first candidate is withdrawn. -/
theorem first_candidate_withdrawn :
    ∃ config, Run anySchedule (contributionsIdle healthyWorld) config ∧
      ∃ withdrawn after, attempt config.state = (.ok (some withdrawn), after) ∧
        after.tables.contributionHead contributionScopeId "a" = some withdrawn ∧
        withdrawn.activeRevisionId ≠ oldRoutes.revisionId := by
  obtain ⟨config, run, _, old, head, leased, may, _⟩ := exists_run_of_play anySchedule
    (show ∃ config ∈ play anySchedule (contributionsIdle healthyWorld) (firstWithdrawn []),
      ShowsAttempt true config by decide +kernel)
  exact ⟨config, run, published_candidate_withdrawn run old head rfl leased
    (fun _ _ previous => by cases previous) |>.mp (of_decide_eq_true may)⟩

/-- Operation 2 has staged a successor, and the first candidate can no longer be
withdrawn. -/
theorem first_candidate_not_withdrawn :
    ∃ config activation, Run anySchedule (contributionsIdle healthyWorld) config ∧
      config.state.tables.activations["1"]? = some activation ∧
      activation.state = .compensating ∧ activation.candidateRevisionId = oldRoutes.revisionId ∧
      config.state.tables.revisions[oldRoutes.revisionId]? = some (oldRoutes.withStatus .active) ∧
      config.state.tables.contributionHead contributionScopeId "a" = some (.naming oldRoutes 1) ∧
      (config.state.findJob "1a" (·.isExecuting)).isSome = true ∧
      (attempt config.state).1.isOk = false := by
  obtain ⟨config, run, ⟨activation, stored, compensating, owns⟩, old, head, leased, _, fails⟩ :=
    exists_run_of_play anySchedule (show ∃ config ∈ play anySchedule
      (contributionsIdle healthyWorld) (firstWithdrawn
        (works "2" "2p" .prepare successor (some (etagOf oldRoutes)) 15)),
      ShowsAttempt false config by decide +kernel)
  exact ⟨config, activation, run, stored, compensating, owns, old, head, leased, fails⟩

end ContributionScenario

end UntitledOJ
