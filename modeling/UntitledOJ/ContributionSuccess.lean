import UntitledOJ.ContributionRoutes
import UntitledOJ.ContributionWorkers

/-!
# A finished activation leaves one live revision

ACK_GATE marks its activation as succeeded and then retires the revision that was replaced.  If
nothing comes between the two, and candidates are published only over revisions that have replaced
their predecessors, an operation whose jobs have ended leaves no other revision active up to its
candidate's generation.
-/

namespace UntitledOJ

open Contribution Platform ContributionController ContributionRevisionV1 List ContributionJob
  ContributionTables

variable {candidate revision : ContributionRevisionV1} {id : String}

variable {activation : ContributionActivationV1} {older : Sha256}

namespace ContributionTables

/-- The activation has succeeded, but the revision that it replaced is still active. -/
def Unfinished (tables : ContributionTables) (id : String) : Prop :=
  ∃ activation ∈ tables.activations[id]?, activation.state = .succeeded ∧
    ∃ older ∈ activation.previousRevisionId, tables.IsActive older
deriving Decidable

variable {tables : ContributionTables}

theorem Alone.eq_candidate (alone : tables.Alone) (lineage : tables.Lineage)
    (standing : tables.Standing id candidate)
    (replaced : ∀ older, candidate.previousRevisionId = some older → ¬ tables.IsActive older)
    {revisionId : Sha256} (stored : tables.revisions[revisionId]? = some revision)
    (active : revision.status = .active)
    (owner : revision.scopeId = candidate.scopeId ∧ revision.serviceId = candidate.serviceId)
    (within : revision.generation ≤ candidate.generation) : revisionId = candidate.revisionId := by
  obtain ⟨_, headed, near⟩ := alone revisionId revision stored active
  obtain ⟨_, there, rests⟩ := lineage.based id candidate standing
  rw [owner.1, owner.2, there] at headed
  cases headed
  -- the revision rests on the candidate, and so it is the candidate or newer
  have resting : tables.Rests revisionId candidate.revisionId := by
    rcases near with rfl | succeeds
    · exact rests
    · rcases rests.cases_head with same | ⟨_, step, further⟩
      · obtain ⟨row, found, previous⟩ := succeeds
        rw [same, standing.stored] at found
        cases found
        exact absurd ⟨revision, stored, active⟩ (replaced revisionId previous)
      · rw [succeeds.unique step]
        exact further
  have isPublished : revision.status.isPublished = true := by rw [active]; rfl
  rcases lineage.descends.rests_cases resting stored isPublished with same | ⟨_, found, precedes⟩
  · exact same
  · rw [standing.stored] at found
    cases found
    exact absurd precedes.older (not_lt.mpr within)

variable [RecordDigests] [VersionSyntax] {before after : ContributionTables}

theorem SucceedsPublished.standing (orderly : before.Orderly) (succeeds : before.SucceedsPublished)
    (stored : before.activations[id]? = some activation)
    (succeeded : activation.state = .succeeded) :
    ∃ candidate, before.Standing id candidate ∧ activation.Owns candidate := by
  obtain ⟨candidate, found, isPublished⟩ := succeeds id activation stored succeeded
  obtain ⟨_, there, owns⟩ := orderly.owned id activation stored
  rw [found] at there
  cases there
  exact ⟨candidate, ⟨⟨activation, stored, owns.candidate, by rw [succeeded]; exact le_rfl⟩,
    owns.candidate ▸ found, isPublished⟩, owns⟩

/-- Only by marking its activation as succeeded does an operation become unfinished. -/
theorem Effect.unfinished (orderly : before.Orderly) (lineage : before.Lineage)
    (succeeds : before.SucceedsPublished) {call : ContributionCall} (lawful : before.Lawful call)
    (effect : Effect .sqlite before call after)
    (other : ∀ activation receipts, call = .putBundle activation receipts →
      activation.state = .succeeded → activation.activationId ≠ id)
    (stored : after.activations[id]? = some activation) (succeeded : activation.state = .succeeded)
    (replaced : activation.previousRevisionId = some older) (active : after.IsActive older) :
    before.activations[id]? = some activation ∧ before.IsActive older := by
  obtain ⟨_, found, active⟩ := active
  have known : before.activations[id]? = some activation := by
    cases effect with
    | kept _ _ activations =>
      rw [activations] at stored
      exact stored
    | bundled =>
      rw [putBundle_activations] at stored
      split_ifs at stored with same
      · cases stored
        exact absurd same.symm (other _ _ rfl succeeded)
      · exact stored
    | staged checked =>
      obtain ⟨_, _, _, preparing⟩ := validateStageBundle_checks checked
      rw [putBundle_activations] at stored
      split_ifs at stored
      · cases stored
        rw [preparing] at succeeded
        cases succeeded
      · exact stored
    | inserted | observed | moved | «published» | restored | cleared => exact stored
  obtain ⟨_, standing, owns⟩ := succeeds.standing orderly known succeeded
  obtain ⟨revision, there, wasActive⟩ := effect.active_of_replaced orderly lineage.descends
    lineage.based lawful standing (owns.previous.symm.trans replaced) found active
  exact ⟨known, revision, there, wasActive⟩

theorem Standing.replaced_unheaded (orderly : before.Orderly) (lineage : before.Lineage)
    (standing : before.Standing id candidate)
    (replaced : candidate.previousRevisionId = some older) : ¬ before.Headed older := by
  rintro ⟨key, head, headed, names⟩
  obtain ⟨_, stored, precedes⟩ :=
    lineage.descends _ candidate standing.stored standing.published older replaced
  obtain ⟨_, publishes⟩ := orderly.sound.headed key head headed
  have same := publishes.stored
  rw [names, stored] at same
  cases same
  obtain ⟨_, there, rests⟩ := lineage.based id candidate standing
  rw [← precedes.scope, ← precedes.service, publishes.owner, headed] at there
  cases there
  rw [names] at rests
  rcases lineage.descends.rests_cases rests stored precedes.published with
    itself | ⟨_, found, below⟩
  · rw [itself, standing.stored] at stored
    cases stored
    exact lt_irrefl _ precedes.older
  · rw [standing.stored] at found
    cases found
    exact lt_asymm precedes.older below.older

theorem retire_ok (valid : revision.validate = .ok ()) (active : revision.status = .active) :
    revision.retire = .ok (revision.withStatus .retired) :=
  transitionTo_of_mayBecome valid (by rw [active]; rfl)

theorem transition_retires (keyed : before.Keyed)
    (stored : before.revisions[older]? = some revision) (active : revision.status = .active)
    (unheaded : ¬ before.Headed older) :
    before.transitionContributionRevision (revision.withStatus .retired) =
      .ok ((), before.putRevision (revision.withStatus .retired)) := by
  obtain ⟨rfl, valid⟩ := keyed older revision stored
  have again : (revision.withStatus .retired).validate = .ok () := valid
  have moves : revision.transitionTo .retired = .ok (revision.withStatus .retired) :=
    retire_ok valid active
  have changes : revision ≠ revision.withStatus .retired := by
    intro same
    have status := congrArg ContributionRevisionV1.status same
    rw [active] at status
    cases status
  have transits : validateRevisionTransition revision (revision.withStatus .retired) = .ok () := by
    unfold validateRevisionTransition
    rw [valid, again, if_neg changes, withStatus_status, moves, active]
    simp [asInvalid, require, ok_then, mayBecome]
  have none : (tableRows before.heads).any (fun head =>
      head.activeRevisionId = revision.revisionId) = false := by
    rw [any_eq_false]
    intro head member names
    obtain ⟨key, headed⟩ := mem_tableRows.mp member
    exact unheaded ⟨key, head, headed, by simpa using names⟩
  unfold transitionContributionRevision
  rw [again, withStatus_revisionId, stored]
  simp only [asInvalid, found, ok_then, transits, none, Bool.and_false]
  rfl

theorem Lineage.headed_or_newer (orderly : tables.Orderly) (lineage : tables.Lineage)
    (standing : tables.Standing id candidate) :
    ∃ head revision, tables.heads[(candidate.scopeId, candidate.serviceId)]? = some head ∧
      tables.revisions[head.activeRevisionId]? = some revision ∧
      (revision = candidate ∨ candidate.generation < revision.generation) ∧
      revision.status = .active := by
  obtain ⟨head, headed, rests⟩ := lineage.based id candidate standing
  obtain ⟨revision, publishes⟩ := orderly.sound.headed _ head headed
  have isPublished : revision.status.isPublished = true := by rw [publishes.active]; rfl
  refine ⟨head, revision, headed, publishes.stored, ?_, publishes.active⟩
  rcases lineage.descends.rests_cases rests publishes.stored isPublished with same |
    ⟨_, found, precedes⟩
  · left
    have again := publishes.stored
    rw [same, standing.stored] at again
    exact (Option.some.inj again).symm
  · right
    rw [standing.stored] at found
    cases found
    exact precedes.older

end ContributionTables

section

theorem unclaimable_of_isHeld {status : JobStatus} (held : status.isHeld = true) :
    status.isClaimable = false := by
  cases status <;> first | rfl | cases held

variable [RecordDigests] [VersionSyntax]

def ContributionPlane.Unfinished (plane : ContributionPlane) (jobId : String) : Prop :=
  ∃ job ∈ plane.jobs[jobId]?, plane.tables.Unfinished job.operationId
deriving Decidable

def ContributionCall.marksSucceeded : ContributionCall → Bool
  | .putBundle activation _ => activation.state = .succeeded
  | _ => false

/-- The program is about to retire the revision, for a job of the operation whose lease
is running. -/
def Attends (plane : ContributionPlane) (operationId : String) (older : Sha256)
    (program : ContributionWork) : Prop :=
  ∃ jobId job rest, program = (finishing jobId job rest).labelled (some jobId) ∧
    (Retires older rest ∨ ∃ revision, plane.tables.revisions[older]? = some revision ∧
      RetiresNow revision rest) ∧
    ∃ stored, plane.jobs[jobId]? = some stored ∧ stored.operationId = operationId ∧
      stored.isExecuting = true

variable {plane after : ContributionPlane} {operationId : String}
  {program : ContributionWork}

theorem Attends.wait (attends : Attends plane operationId older program)
    (content : plane.tables.KeepsContent after.tables)
    (jobs : ∀ jobId stored, program.worker = some jobId → plane.jobs[jobId]? = some stored →
      stored.isExecuting = true → ∃ later, after.jobs[jobId]? = some later ∧
        later.operationId = stored.operationId ∧ later.isExecuting = true) :
    Attends after operationId older program := by
  obtain ⟨jobId, job, rest, rfl, retires, stored, found, operation, executing⟩ := attends
  obtain ⟨later, there, same, still⟩ := jobs jobId stored (worker_finishing ..) found executing
  refine ⟨jobId, job, rest, rfl, ?_, later, there, same.trans operation, still⟩
  refine retires.imp_right ?_
  rintro ⟨revision, held, next, shape⟩
  obtain ⟨_, kept⟩ := content older revision held
  exact ⟨_, kept, next, shape⟩

theorem ContributionPlane.exec_executing {jobId : String} {stored : ContributionJob}
    (found : plane.jobs[jobId]? = some stored) (executing : stored.isExecuting = true)
    {call : ContributionPlaneCall} (other : ∀ status, call ≠ .complete jobId status) :
    ∃ later, (plane.exec call).2.jobs[jobId]? = some later ∧
      later.operationId = stored.operationId ∧ later.isExecuting = true := by
  simp only [isExecuting, Bool.and_eq_true, Bool.not_eq_true'] at executing
  obtain ⟨held, running⟩ := executing
  obtain ⟨later, there, _, rfl | claimable | ⟨overdue, _⟩⟩ := plane.exec_job call found other
  · exact ⟨later, there, rfl, by simp [isExecuting, held, running]⟩
  · rw [unclaimable_of_isHeld held] at claimable
    cases claimable
  · simp [isOverdue, running] at overdue

theorem ContributionPlane.exec_content (keyed : plane.tables.Keyed) (call : ContributionPlaneCall) :
    plane.tables.KeepsContent (plane.exec call).2.tables := by
  rcases plane.exec_tables call with same | ⟨write, rfl⟩
  · rw [same]
    exact .of_same fun _ => rfl
  · exact (exec_effect keyed .sqlite write).keepsContent

theorem Attends.step (orderly : plane.tables.Orderly) {request : ContributionRequest}
    {continuation : request.2.Reply → ContributionWork}
    (attends : Attends plane operationId older (.call request continuation))
    (unheaded : ¬ plane.tables.Headed older) (active : plane.tables.IsActive older) :
    (Attends (plane.exec request.2).2 operationId older (continuation (plane.exec request.2).1) ∧
        ∃ later rest, continuation (plane.exec request.2).1 = .call later rest) ∨
      ¬ (plane.exec request.2).2.tables.IsActive older := by
  obtain ⟨revision, held, status⟩ := active
  obtain ⟨jobId, job, rest, shape, retires, lease⟩ := attends
  rcases retires with ⟨next, rfl, retires⟩ | ⟨_, there, next, rfl⟩
  · cases shape
    have valid := (orderly.sound.keyed older revision held).2
    obtain ⟨last, shape⟩ := retires revision status (retire_ok valid status)
    have reply : (plane.exec (.repository (.getRevision older))).1 = some revision := held
    left
    rw [show (plane.exec (some jobId, ContributionPlaneCall.repository (.getRevision older)).2).1 =
      some revision from reply]
    refine ⟨⟨jobId, job, next (some revision), rfl, .inr ⟨revision, held, last, shape⟩, lease⟩, ?_⟩
    show ∃ later rest, (finishing jobId job (next (some revision))).labelled (some jobId) =
      .call later rest
    rw [shape]
    exact ⟨_, _, rfl⟩
  · cases shape
    rw [held] at there
    cases there
    have retired := transition_retires orderly.sound.keyed held status unheaded
    have key := (orderly.sound.keyed older revision held).1
    right
    rintro ⟨now, found, still⟩
    simp only [ContributionPlane.exec, ContributionCall.exec, retired, transact] at found
    replace found := (writes_putRevision _ _ _).symm.trans found
    rw [if_pos (show older = (revision.withStatus .retired).revisionId from key.symm)] at found
    cases found
    cases still

variable [ProjectionDigests]

/-- An activation is marked as succeeded by a worker whose lease is running, and a
candidate is published over a revision that has replaced its own predecessor. -/
def ContributionPlane.Finishes (plane : ContributionPlane) (request : ContributionRequest) : Prop :=
  ∀ call ∈ request.call?, plane.tables.PublishesAlone call ∧ (call.marksSucceeded = true →
    ∀ jobId ∈ request.1, ∃ job ∈ plane.jobs[jobId]?, job.isExecuting = true)
deriving Decidable

/-- While its operation is unfinished, a worker neither crashes nor loses its lease. -/
def finishesPromptly : contributionPlatform.Discipline
  | config, .step index => @callsMeet contributionPlatform
      (fun request plane => ContributionPlane.Finishes plane request) config (.step index)
  | config, .crash index => ∀ thread ∈ config.threads[index]?,
      ∀ jobId ∈ ContributionWork.worker thread.program,
        ¬ ContributionPlane.Unfinished config.state jobId
  | config, .event (.expire jobId) => ¬ ContributionPlane.Unfinished config.state jobId
  | _, _ => True

instance : finishesPromptly.Checkable :=
  letI (request : contributionPlatform.Call) (plane : contributionPlatform.State) :=
    ContributionPlane.instDecidableFinishes plane request
  letI (plane : contributionPlatform.State) (jobId : String) :=
    ContributionPlane.instDecidableUnfinished plane jobId
  letI calls : Discipline.Checkable (@callsMeet contributionPlatform
    fun request plane => ContributionPlane.Finishes plane request) := inferInstance
  ⟨fun config action =>
    match action with
    | .step index => calls.decides config (.step index)
    | .crash _ => inferInstanceAs (Decidable (∀ thread ∈ _, _))
    | .event (.expire jobId) =>
      inferInstanceAs (Decidable (¬ ContributionPlane.Unfinished config.state jobId))
    | .start _ | .event (.enqueue ..) | .event (.cancel _) | .event (.world _) => isTrue trivial⟩

variable {world : ContributionWorld} {config : contributionPlatform.Config}

/-- Every unfinished operation has a worker that is about to finish it. -/
def Attended (config : contributionPlatform.Config) : Prop :=
  ∀ id activation older,
    config.state.tables.activations[id]? = some activation → activation.state = .succeeded →
      activation.previousRevisionId = some older → config.state.tables.IsActive older →
        ∃ thread ∈ config.threads, Attends config.state id older thread.program

section

variable {before next : contributionPlatform.Config} {activation : ContributionActivationV1}
  (attended : Attended before)
include attended

/-- The worker of an unfinished operation does not crash. -/
theorem Attended.crash {index : Nat} (permitted : finishesPromptly before (.crash index))
    (taken : before.next (.crash index) = some next) : Attended next := by
  obtain rfl := next_crash taken
  intro id activation older stored succeeded replaced active
  obtain ⟨thread, member, attends⟩ := attended id activation older stored succeeded replaced active
  refine ⟨thread, ?_, attends⟩
  obtain ⟨position, found⟩ := mem_iff_getElem?.mp member
  refine mem_eraseIdx_iff_getElem?.mpr ⟨position, ?_, found⟩
  rintro rfl
  obtain ⟨jobId, job, rest, shape, _, row, there, operation, _⟩ := attends
  refine permitted thread found jobId ?_ ⟨row, there, ?_⟩
  · rw [shape]
    exact worker_finishing ..
  · rw [operation]
    exact ⟨activation, stored, succeeded, older, replaced, active⟩

/-- Nor does its lease run out. -/
theorem Attended.event {happening : contributionPlatform.Event}
    (permitted : finishesPromptly before (.event happening))
    (taken : before.next (.event happening) = some next) : Attended next := by
  cases taken
  intro id activation older stored succeeded replaced active
  have same : (contributionPlatform.react happening before.state).tables =
    before.state.tables := before.state.react_tables happening
  rw [same] at stored active
  obtain ⟨thread, member, attends⟩ := attended id activation older stored succeeded replaced active
  refine ⟨thread, member, attends.wait (.of_same fun _ => ?_) ?_⟩
  · rw [same]
  · intro jobId row worker found executing
    obtain ⟨later, there, operation, _, kept⟩ := before.state.react_job happening found
    refine ⟨later, there, operation, (kept executing).resolve_left ?_⟩
    rintro rfl
    obtain ⟨own, job, rest, shape, _, again, held, ofOperation, _⟩ := attends
    have same : own = jobId := by
      rw [shape, worker_finishing] at worker
      exact Option.some.inj worker
    subst same
    refine permitted ⟨again, held, ?_⟩
    rw [ofOperation]
    exact ⟨activation, stored, succeeded, older, replaced, active⟩

end

section

variable {before next : contributionPlatform.Config} {activation : ContributionActivationV1}
  {index : Nat} (earlier : Run finishesPromptly (contributionsIdle world) before)
  (taken : before.next (.step index) = some next)
include earlier taken

/-- Who attended before and waits still does; the one who acts goes on. -/
theorem Attended.goesOn (attended : Attended before)
    (stored : before.state.tables.activations[id]? = some activation)
    (succeeded : activation.state = .succeeded)
    (replaced : activation.previousRevisionId = some older)
    (wasActive : before.state.tables.IsActive older) (active : next.state.tables.IsActive older) :
    ∃ thread ∈ next.threads, Attends next.state id older thread.program := by
  obtain ⟨orderly, _⟩ := contributions_orderly earlier
  have staffed := contributions_staffed earlier
  obtain ⟨left, right, ⟨label, call⟩, continuation, loaded, around, found, stateEq, threadsEq⟩ :=
    next_step_split taken
  have own := staffed.staged _ (mem_of_getElem? found)
  have distinct := staffed.distinct
  rw [around] at distinct
  obtain ⟨thread, member, attends⟩ :=
    attended id activation older stored succeeded replaced wasActive
  have content := before.state.exec_content orderly.sound.keyed call
  have waits : thread ∈ left ++ right → Attends next.state id older thread.program := by
    intro there
    rw [stateEq]
    refine attends.wait content fun jobId row worker isRow executing => ?_
    refine ContributionPlane.exec_executing isRow executing fun status completes => ?_
    exact ne_of_nodup_filterMap distinct (own.completes completes) thread there worker
  rw [around] at member
  rw [threadsEq]
  rcases mem_append.mp member with inLeft | member
  · exact ⟨thread, mem_append_left _ (mem_append_left _ inLeft),
      waits (mem_append_left _ inLeft)⟩
  · rcases mem_cons.mp member with rfl | inRight
    · obtain ⟨_, standing, owns⟩ :=
        (contributions_succeedsPublished earlier).standing orderly stored succeeded
      have unheaded := standing.replaced_unheaded orderly (contributions_lineage earlier)
        (owns.previous.symm.trans replaced)
      rw [stateEq] at active ⊢
      rcases attends.step orderly unheaded wasActive with ⟨attends, _, rest, suspended⟩ | ended
      · refine ⟨⟨_, loaded⟩, mem_append_left _ (mem_append_right _ ?_), attends⟩
        rw [show contributionPlatform.exec (label, call) before.state =
          before.state.exec call from rfl, suspended]
        exact mem_cons_self
      · exact absurd active ended
    · exact ⟨thread, mem_append_right _ inRight, waits (mem_append_right _ inRight)⟩

/-- The worker that marks an activation as succeeded is about to finish it. -/
theorem attends_of_marks (permitted : finishesPromptly before (.step index))
    {receipts : List ProjectionReceiptV1} {loaded : ContributionPlane} {label : Option String}
    (performs : before.Performs index loaded (label, .repository (.putBundle activation receipts)))
    (succeeded : activation.state = .succeeded)
    (replaced : activation.previousRevisionId = some older) {written : ContributionTables}
    (done : before.state.tables.putContributionActivationBundle .sqlite activation receipts =
      .ok ((), written)) :
    ∃ thread ∈ next.threads, Attends next.state activation.activationId older thread.program := by
  obtain ⟨continuation, found⟩ := performs
  obtain ⟨_, _, _, _, _, _, performed, stateEq, threadsEq⟩ := next_step_split taken
  cases found.symm.trans performed
  have own := (contributions_staffed earlier).staged _ (mem_of_getElem? found)
  obtain ⟨jobId, job, rest, rfl, ⟨_, isRow, operation, _⟩, ofJob, _, suspended, retires⟩ :=
    own.succeeds succeeded
  have lease := threadsMeet_performs permitted ⟨continuation, found⟩
  obtain ⟨again, isAgain, executing⟩ := (lease _ rfl).2 (decide_eq_true succeeded) jobId rfl
  have reply : (before.state.exec (.repository (.putBundle activation receipts))).1 =
      (.ok () : Except ContributionRepositoryError Unit) := by
    show (transact before.state.tables _).1 = _
    rw [done]
    rfl
  refine ⟨⟨continuation (.ok ()), loaded⟩, ?_, jobId, job, rest, suspended,
    .inl (retires older replaced), again, ?_, ?_, executing⟩
  · rw [threadsEq]
    refine mem_append_left _ (mem_append_right _ ?_)
    rw [show (contributionPlatform.exec (some jobId, ContributionPlaneCall.repository
      (.putBundle activation receipts)) before.state).1 =
        (.ok () : Except ContributionRepositoryError Unit) from reply]
    obtain ⟨_, rfl, _⟩ := retires older replaced
    rw [suspended]
    exact mem_cons_self
  · rw [stateEq]
    exact isAgain
  · rw [isRow] at isAgain
    cases isAgain
    rw [operation, ← ofJob]

theorem Attended.step (attended : Attended before)
    (permitted : finishesPromptly before (.step index)) : Attended next := by
  intro id activation older stored succeeded replaced active
  have goesOn (stored : before.state.tables.activations[id]? = some activation)
      (wasActive : before.state.tables.IsActive older) :=
    attended.goesOn earlier taken stored succeeded replaced wasActive active
  obtain ⟨orderly, _⟩ := contributions_orderly earlier
  obtain ⟨_, _, ⟨label, call⟩, continuation, loaded, _, found, stateEq, _⟩ := next_step_split taken
  rcases before.state.exec_tables call with same | ⟨write, rfl⟩
  · have same : next.state.tables = before.state.tables := by
      rw [stateEq]
      exact same
    exact goesOn (same ▸ stored) (same ▸ active)
  · have tables : next.state.tables = (write.exec .sqlite before.state.tables).2 := by
      rw [stateEq]
      rfl
    by_cases marks : ∃ written receipts, write = .putBundle written receipts ∧
        written.state = .succeeded ∧ written.activationId = id
    · obtain ⟨written, receipts, rfl, isSuccess, rfl⟩ := marks
      rw [tables, ContributionCall.exec] at stored
      cases done : before.state.tables.putContributionActivationBundle .sqlite written
          receipts with
      | error error =>
        rw [done] at stored
        rw [tables, ContributionCall.exec, done] at active
        exact goesOn stored active
      | ok answer =>
        obtain ⟨⟨⟩, _⟩ := answer
        obtain ⟨_, rfl⟩ := putBundle_checked done
        rw [done, transact, putBundle_activations, if_pos rfl] at stored
        cases stored
        exact attends_of_marks earlier taken permitted ⟨continuation, found⟩ succeeded replaced done
    · have effect := exec_effect orderly.sound.keyed .sqlite write
      obtain ⟨known, wasActive⟩ := effect.unfinished orderly (contributions_lineage earlier)
        (contributions_succeedsPublished earlier)
        (contributions_permitted earlier ⟨continuation, found⟩)
        (fun written receipts shape isSuccess names =>
          marks ⟨written, receipts, shape, isSuccess, names⟩)
        (tables ▸ stored) succeeded replaced (tables ▸ active)
      exact goesOn known wasActive

end

section

variable (run : Run finishesPromptly (contributionsIdle world) config)
include run

theorem contributions_attended : Attended config := by
  induction run with
  | refl => exact fun id activation older stored => by simp [contributionsIdle,
      empty] at stored
  | @tail before next earlier step ih =>
    obtain ⟨action, permitted, taken⟩ := step
    cases action with
    | start task =>
      cases taken
      intro id activation older stored succeeded replaced active
      obtain ⟨thread, member, attends⟩ := ih id activation older stored succeeded replaced active
      exact ⟨thread, mem_append_left _ member, attends⟩
    | crash index => exact ih.crash permitted taken
    | event happening => exact ih.event permitted taken
    | step index => exact ih.step earlier taken permitted

theorem contributions_alone : config.state.tables.Alone := by
  refine contributions_induct (fun _ _ stored => by simp [empty] at stored) ?_ run
  intro before index loaded label call earlier permitted performs alone
  have orderly := (contributions_orderly earlier).1
  exact alone.effect (contributions_permitted earlier performs)
    (exec_effect orderly.sound.keyed .sqlite call)
    (threadsMeet_performs permitted performs call rfl).1

end

/-- All jobs of the operation have ended. -/
def ContributionPlane.Ended (plane : ContributionPlane) (operationId : String) : Prop :=
  ∀ job ∈ tableRows plane.jobs, job.operationId = operationId → job.status.isTerminal = true
deriving Decidable

/-- No worker attends to an operation whose jobs have ended. -/
theorem Attended.replaced (attended : Attended config) (ended : config.state.Ended id)
    (stored : config.state.tables.activations[id]? = some activation)
    (succeeded : activation.state = .succeeded)
    (previous : activation.previousRevisionId = some older) :
    ¬ config.state.tables.IsActive older := by
  intro active
  obtain ⟨_, _, jobId, _, _, _, _, row, found, operation, executing⟩ :=
    attended id activation older stored succeeded previous active
  have terminal := ended row (mem_tableRows.mpr ⟨jobId, found⟩) operation
  simp only [isExecuting, Bool.and_eq_true] at executing
  cases status : row.status <;> simp_all [JobStatus.isTerminal, JobStatus.isHeld]

/-- When an activation has succeeded and all jobs of its operation have ended, its
predecessor is retired, and no other revision up to its candidate is active. -/
theorem finished_activation_alone (run : Run finishesPromptly (contributionsIdle world) config)
    {id : String} {activation : ContributionActivationV1}
    (stored : config.state.tables.activations[id]? = some activation)
    (succeeded : activation.state = .succeeded) (ended : config.state.Ended id) :
    ∃ candidate, config.state.tables.revisions[activation.candidateRevisionId]? = some candidate ∧
      (∀ older, candidate.previousRevisionId = some older →
        ∃ previous, config.state.tables.revisions[older]? = some previous ∧
          previous.status = .retired) ∧
      (∀ revisionId revision, config.state.tables.revisions[revisionId]? = some revision →
        revision.scopeId = candidate.scopeId → revision.serviceId = candidate.serviceId →
        revision.generation ≤ candidate.generation → revision.status = .active →
          revisionId = activation.candidateRevisionId) ∧ (candidate.status = .active ∨ ∃ head newer,
        config.state.tables.contributionHead candidate.scopeId candidate.serviceId = some head ∧
        config.state.tables.revisions[head.activeRevisionId]? = some newer ∧
        newer.status = .active ∧ candidate.generation < newer.generation) := by
  have orderly := (contributions_orderly run).1
  have lineage := contributions_lineage run
  obtain ⟨candidate, standing, owns⟩ :=
    (contributions_succeedsPublished run).standing orderly stored succeeded
  have replaced : ∀ older, candidate.previousRevisionId = some older →
      ¬ config.state.tables.IsActive older := fun older previous =>
    (contributions_attended run).replaced ended stored succeeded (owns.previous.trans previous)
  refine ⟨candidate, owns.candidate ▸ standing.stored, ?_, ?_, ?_⟩
  · intro older previous
    obtain ⟨row, found, precedes⟩ :=
      lineage.descends _ candidate standing.stored standing.published older previous
    refine ⟨row, found, ?_⟩
    cases status : row.status with
    | retired => rfl
    | active => exact absurd ⟨row, found, status⟩ (replaced older previous)
    | staged | aborted =>
      have isPublished := precedes.published
      rw [status] at isPublished
      cases isPublished
  · intro revisionId revision found scope service within active
    rw [owns.candidate]
    exact (contributions_alone run).eq_candidate lineage standing replaced found active
      ⟨scope, service⟩ within
  · obtain ⟨head, newer, headed, found, rfl | later, active⟩ :=
      lineage.headed_or_newer orderly standing
    · exact .inl active
    · exact .inr ⟨head, newer, headed, found, active, later⟩

/-- In every run an activation that has succeeded is acknowledged by the Gateway and Auth, its
candidate was published over older published revisions of its service only, and the head of the
service still rests on it. -/
theorem succeeded_activation_grounded {permits : contributionPlatform.Discipline}
    (run : Run permits (contributionsIdle world) config)
    (stored : config.state.tables.activations[id]? = some activation)
    (succeeded : activation.state = .succeeded) :
    config.state.tables.Acknowledged id ∧ ∃ candidate,
      config.state.tables.revisions[activation.candidateRevisionId]? = some candidate ∧
      activation.Owns candidate ∧ candidate.status.isPublished = true ∧
      (∀ older, config.state.tables.Rests candidate.revisionId older →
        older = candidate.revisionId ∨ ∃ previous,
          config.state.tables.revisions[older]? = some previous ∧ Precedes previous candidate) ∧
      ∃ head, config.state.tables.heads[(activation.scopeId, activation.serviceId)]? = some head ∧
        config.state.tables.Rests head.activeRevisionId candidate.revisionId := by
  have orderly := (contributions_orderly run).1
  have lineage := contributions_lineage run
  obtain ⟨candidate, standing, owns⟩ :=
    (contributions_succeedsPublished run).standing orderly stored succeeded
  refine ⟨orderly.acknowledged id activation stored succeeded, candidate,
    owns.candidate ▸ standing.stored, owns, standing.published, fun older rests => ?_, ?_⟩
  · rcases lineage.descends.rests_cases rests standing.stored standing.published with
      same | earlier
    · exact .inl same.symm
    · exact .inr earlier
  · rw [owns.scope, owns.service]
    exact lineage.based id candidate standing

end

namespace ContributionScenario

def ShowsReplaced (status : ContributionRevisionStatusV1) (config : contributionPlatform.Config) :
    Prop :=
  (∃ activation ∈ config.state.tables.activations["2"]?, activation.state = .succeeded ∧
      activation.candidateRevisionId = newRoutes.revisionId) ∧
    ContributionPlane.Ended config.state "2" ∧
    config.state.tables.revisions[newRoutes.revisionId]? = some (newRoutes.withStatus .active) ∧
    config.state.tables.revisions[oldRoutes.revisionId]? = some (oldRoutes.withStatus status)

instance (status : ContributionRevisionStatusV1) : DecidablePred (ShowsReplaced status) :=
  fun config =>
    have := ContributionPlane.instDecidableEnded config.state "2"
    inferInstanceAs (Decidable (_ ∧ _))

/-- The worker of operation 2 retires the old routes before its job ends. -/
theorem replaced_routes_retired :
    ∃ config activation, Run finishesPromptly (contributionsIdle healthyWorld) config ∧
      config.state.tables.activations["2"]? = some activation ∧ activation.state = .succeeded ∧
      config.state.Ended "2" ∧
      (∃ previous, config.state.tables.revisions[oldRoutes.revisionId]? = some previous ∧
        previous.status = .retired) ∧
      ∀ revisionId revision, config.state.tables.revisions[revisionId]? = some revision →
        revision.scopeId = contributionScopeId → revision.serviceId = "a" →
        revision.generation ≤ 2 → revision.status = .active →
          revisionId = newRoutes.revisionId := by
  obtain ⟨config, run, ⟨activation, stored, succeeded, names⟩, ended, new, _⟩ :=
    exists_run_of_play finishesPromptly (show ∃ config ∈ play finishesPromptly
      (contributionsIdle healthyWorld) routesReplaced, ShowsReplaced .retired config by
        decide +kernel)
  obtain ⟨_, found, retired, alone, _⟩ := finished_activation_alone run stored succeeded ended
  rw [names, new] at found
  cases found
  rw [names] at alone
  exact ⟨config, activation, run, stored, succeeded, ended, retired _ rfl, alone⟩

theorem replacement_grounded : ∃ config activation,
    Run anySchedule (contributionsIdle healthyWorld) config ∧
    config.state.tables.activations["2"]? = some activation ∧
    config.state.tables.Acknowledged "2" ∧ ∃ head,
      config.state.tables.heads[(activation.scopeId, activation.serviceId)]? = some head ∧
        config.state.tables.Rests head.activeRevisionId newRoutes.revisionId := by
  obtain ⟨config, run, ⟨activation, stored, succeeded, names⟩, _⟩ :=
    exists_run_of_play anySchedule (show ∃ config ∈ play anySchedule
      (contributionsIdle healthyWorld) routesReplaced, ShowsReplaced .retired config by
        decide +kernel)
  obtain ⟨acknowledged, _, _, owns, _, _, head, headed, rests⟩ :=
    succeeded_activation_grounded run stored succeeded
  rw [← owns.candidate, names] at rests
  exact ⟨config, activation, run, stored, acknowledged, head, headed, rests⟩

/-- The worker of operation 2 crashes before it retires the old routes, and recovery ends
its job. -/
def retirementLost : List contributionPlatform.Action :=
  routesReplaced.take (routesReplaced.length - 4) ++
    .crash 0 :: .event (.expire "2g") :: .start (.recover "2g") :: List.replicate 6 (.step 0)

/-- Operation 2 has finished, and both revisions of the service are active. -/
theorem replaced_routes_active :
    ∃ config activation, Run anySchedule (contributionsIdle healthyWorld) config ∧
      config.state.tables.activations["2"]? = some activation ∧ activation.state = .succeeded ∧
      activation.candidateRevisionId = newRoutes.revisionId ∧ config.state.Ended "2" ∧
      config.state.tables.revisions[newRoutes.revisionId]? = some (newRoutes.withStatus .active) ∧
      config.state.tables.revisions[oldRoutes.revisionId]? =
        some (oldRoutes.withStatus .active) := by
  obtain ⟨config, run, ⟨activation, stored, succeeded, names⟩, rest⟩ :=
    exists_run_of_play anySchedule (show ∃ config ∈ play anySchedule
      (contributionsIdle healthyWorld) retirementLost, ShowsReplaced .active config by
        decide +kernel)
  exact ⟨config, activation, run, stored, succeeded, names, rest⟩

end ContributionScenario

end UntitledOJ
