import UntitledOJ.ContributionLineage

/-!
# Workers and their jobs

A worker acts only for the job that it claimed, and no other worker does until it is done.  It marks
an activation as succeeded after it saw the candidate published, and then retires the revision that
was replaced.
-/

namespace UntitledOJ

open Program (yields_bind_ok readOnly_forEach ReadOnly readOnly_perform)
open ContributionActivationV1 (transition_ok)
open Contribution Platform

variable {call : ContributionPlaneCall} {jobId : String}

namespace ContributionPlane

variable (plane : ContributionPlane)

theorem getElem?_putJob (jobId : String) (job : ContributionJob) (other : String) :
    (plane.putJob jobId job).jobs[other]? =
      if other = jobId then some job else plane.jobs[other]? :=
  getElem?_insert_of_eq ..

theorem react_job (happening : ContributionEvent) {job : ContributionJob}
    (stored : plane.jobs[jobId]? = some job) :
    ∃ after, (plane.react happening).jobs[jobId]? = some after ∧
      after.operationId = job.operationId ∧
      (job.status.isClaimable = false → after.status.isClaimable = false) ∧
      (job.isExecuting = true → happening = .expire jobId ∨ after.isExecuting = true) := by
  cases happening with
  | enqueue named operationId payload maxAttempts =>
    dsimp only [react, enqueue]
    split_ifs with known
    · exact ⟨job, stored, rfl, id, .inr⟩
    · rw [getElem?_putJob]
      split_ifs with equal
      · subst equal
        simp [stored] at known
      · exact ⟨job, stored, rfl, id, .inr⟩
  | cancel named =>
    dsimp only [react, updateJob]
    split
    · next found there =>
        rw [getElem?_putJob]
        split_ifs with equal
        · subst equal
          rw [stored] at there
          cases there
          refine ⟨job.cancelled, rfl, ?_, ?_, ?_⟩
          · unfold ContributionJob.cancelled
            split <;> rfl
          · unfold ContributionJob.cancelled
            intro unclaimable
            split <;> first | rfl | exact unclaimable
          · intro executing
            right
            simp only [ContributionJob.isExecuting, Bool.and_eq_true] at executing ⊢
            unfold ContributionJob.cancelled
            split
            · next status => rw [status] at executing; cases executing.1
            · next status => rw [status] at executing; cases executing.1
            · exact ⟨rfl, executing.2⟩
            · exact executing
        · exact ⟨job, stored, rfl, id, .inr⟩
    · exact ⟨job, stored, rfl, id, .inr⟩
  | expire named =>
    dsimp only [react, updateJob]
    split
    · next found there =>
        rw [getElem?_putJob]
        split_ifs with equal
        · subst equal
          rw [stored] at there
          cases there
          exact ⟨_, rfl, rfl, id, fun _ => .inl rfl⟩
        · exact ⟨job, stored, rfl, id, .inr⟩
    · exact ⟨job, stored, rfl, id, .inr⟩
  | world world => exact ⟨job, stored, rfl, id, .inr⟩

/-- The worker's job is stored, and nobody may claim it. -/
def Holds (plane : ContributionPlane) (jobId : String) (job : ContributionJob) : Prop :=
  ∃ stored, plane.jobs[jobId]? = some stored ∧ stored.operationId = job.operationId ∧
    stored.status.isClaimable = false

variable {plane : ContributionPlane} {job : ContributionJob}

theorem Holds.react (holds : plane.Holds jobId job) (happening : ContributionEvent) :
    (plane.react happening).Holds jobId job := by
  obtain ⟨_, found, operation, unclaimable⟩ := holds
  obtain ⟨after, there, same, stays, _⟩ := plane.react_job happening found
  exact ⟨after, there, same.trans operation, stays unclaimable⟩

variable [RecordDigests] [VersionSyntax]

/-- What a call does to a job: only its holder completes it; it is claimed or, when its
lease has run out, ended. -/
theorem exec_job (call : ContributionPlaneCall) (stored : plane.jobs[jobId]? = some job)
    (other : ∀ status, call ≠ .complete jobId status) :
    ∃ after, (plane.exec call).2.jobs[jobId]? = some after ∧ after.operationId = job.operationId ∧
      (after = job ∨ job.status.isClaimable = true ∨
        job.isOverdue = true ∧ after.status.isClaimable = false) := by
  have same : ∃ after, plane.jobs[jobId]? = some after ∧ after.operationId = job.operationId ∧
      (after = job ∨ job.status.isClaimable = true ∨
        job.isOverdue = true ∧ after.status.isClaimable = false) :=
    ⟨job, stored, rfl, .inl rfl⟩
  -- the job that a call is about, changed from what it found
  have changed : ∀ named found changed,
      plane.jobs[named]? = some found → changed.operationId = found.operationId →
      (found.status.isClaimable = true ∨
        found.isOverdue = true ∧ changed.status.isClaimable = false) →
      ∃ after, (plane.putJob named changed).jobs[jobId]? = some after ∧
        after.operationId = job.operationId ∧ (after = job ∨ job.status.isClaimable = true ∨
          job.isOverdue = true ∧ after.status.isClaimable = false) := by
    intro named found changed there operation may
    rw [getElem?_putJob]
    split_ifs with equal
    · subst equal
      rw [stored] at there
      cases there
      exact ⟨changed, rfl, operation, .inr may⟩
    · exact same
  cases call with
  | claim named =>
    simp only [exec, claim]
    split
    · next found there =>
        obtain ⟨there, claimable⟩ := Option.filter_eq_some_iff.mp there
        exact changed named found _ there rfl (.inl claimable)
    · exact same
  | complete named status =>
    have apart : jobId ≠ named := by
      rintro rfl
      exact other status rfl
    simp only [exec, complete]
    split
    · exact same
    · split_ifs
      · rw [getElem?_putJob, if_neg apart]
        exact same
      · rw [getElem?_putJob, if_neg apart]
        exact same
      · exact same
  | resolveExpiredSuccess named =>
    simp only [exec, resolveExpiredSuccess]
    split
    · next found there =>
        obtain ⟨there, overdue⟩ := Option.filter_eq_some_iff.mp there
        exact changed named found _ there rfl (.inr ⟨overdue, rfl⟩)
    · exact same
  | recoverExpired named =>
    simp only [exec, recoverExpired]
    split
    · next found there =>
        obtain ⟨there, overdue⟩ := Option.filter_eq_some_iff.mp there
        exact changed named found _ there rfl (.inr ⟨overdue, rfl⟩)
    · exact same
  | repository | runtimeInstance | currentRuntime | operation | job | checkpoint _
  | expiredLease => exact same

theorem Holds.exec (holds : plane.Holds jobId job)
    (other : ∀ status, call ≠ .complete jobId status) : (plane.exec call).2.Holds jobId job := by
  obtain ⟨_, found, operation, unclaimable⟩ := holds
  obtain ⟨after, there, same, rfl | claimable | ⟨_, ended⟩⟩ := plane.exec_job call found other
  · exact ⟨after, there, operation, unclaimable⟩
  · rw [unclaimable] at claimable
    cases claimable
  · exact ⟨after, there, same.trans operation, ended⟩

end ContributionPlane

section

variable {α β : Type} {f : α → Option β} {left right : List α} {old new : α}

variable (nodup : ((left ++ old :: right).filterMap f).Nodup)
include nodup

theorem ne_of_nodup_filterMap {value : β} (found : f old = some value) :
    ∀ other ∈ left ++ right, f other ≠ some value := by
  rw [List.filterMap_append, List.filterMap_cons_some found, List.nodup_middle,
    List.nodup_cons, ← List.filterMap_append] at nodup
  intro other member same
  exact nodup.1 (List.mem_filterMap.mpr ⟨other, member, same⟩)

theorem nodup_filterMap_erase : ((left ++ right).filterMap f).Nodup :=
  nodup.sublist (((List.sublist_cons_self old right).append_left left).filterMap f)

theorem nodup_filterMap_replace
    (fresh : ∀ value, f new = some value → ∀ other ∈ left ++ right, f other ≠ some value) :
    ((left ++ new :: right).filterMap f).Nodup := by
  have rest := nodup_filterMap_erase nodup
  cases found : f new with
  | none => rwa [List.filterMap_append, List.filterMap_cons_none found, ← List.filterMap_append]
  | some value =>
    rw [List.filterMap_append, List.filterMap_cons_some found, List.nodup_middle,
      List.nodup_cons, ← List.filterMap_append]
    refine ⟨fun member => ?_, rest⟩
    obtain ⟨other, there, same⟩ := List.mem_filterMap.mp member
    exact fresh value found other there same

end

open ContributionController ContributionProgram

abbrev ContributionWork := Program ContributionControllerError
  (fun request : ContributionRequest => request.2.Reply) Unit

def ContributionWork.worker : ContributionWork → Option String
  | .call request _ => request.1
  | _ => none

def finishing (jobId : String) (job : ContributionJob)
    (rest : Controlled (Option ContributionHeadV1)) : Controlled Unit := do
  let outcome ← rest.outcome
  let _ ← complete jobId (completionStatus job outcome)

theorem worker_finishing (jobId : String) (job : ContributionJob)
    (rest : Controlled (Option ContributionHeadV1)) :
    ContributionWork.worker ((finishing jobId job rest).labelled (some jobId)) = some jobId := by
  cases rest <;> rfl

theorem worker_aside (program : Controlled Unit) :
    ContributionWork.worker (program.labelled none) = none := by
  cases program <;> rfl

variable [RecordDigests] [VersionSyntax]

theorem not_complete_of_guards {α : Type} {operationId : Option String} {seen : Sha256 → Prop}
    {next : call.Reply → Controlled α} (guards : Guards operationId seen call next) (jobId : String)
    (status : CompletionStatus) : call ≠ .complete jobId status := by
  rintro rfl
  cases guards

variable {plane after : ContributionPlane} {program : ContributionWork} {id : Sha256}

theorem published_of_learned (orderly : plane.tables.Orderly) (call : ContributionPlaneCall)
    (learned : Learned call (plane.exec call).1 id) : plane.tables.Published id := by
  cases call with
  | repository call =>
    cases call with
    | getHead scopeId serviceId =>
      obtain ⟨head, found, rfl⟩ := learned
      obtain ⟨revision, publishes⟩ := orderly.sound.headed _ head found
      exact ⟨revision, publishes.stored, by rw [publishes.active]; rfl⟩
    | _ => exact learned.elim
  | _ => exact learned.elim

theorem ContributionPlane.exec_published (orderly : plane.tables.Orderly)
    (permitted : plane.Permits call) (isPublished : plane.tables.Published id) :
    (plane.exec call).2.tables.Published id := by
  rcases plane.exec_tables call with same | ⟨_, rfl⟩
  · rw [same]
    exact isPublished
  · exact isPublished.effect permitted (ContributionTables.exec_effect orderly.sound.keyed _ _)

variable [ProjectionDigests]

inductive Stage (plane : ContributionPlane) : ContributionWork → Prop
  | claiming (jobId : String) : Stage plane (.call (none, .claim jobId) (afterClaim jobId))
  | aside {program : Controlled Unit} {seen : Sha256 → Prop} (tidy : Tidy none seen program) :
      Stage plane (program.labelled none)
  | beginning {jobId : String} {job : ContributionJob} (holds : plane.Holds jobId job) :
      Stage plane ((processJob jobId job).labelled (some jobId))
  | working {jobId : String} {job : ContributionJob} {seen : Sha256 → Prop}
      {rest : Controlled (Option ContributionHeadV1)} (holds : plane.Holds jobId job)
      (tidy : Tidy (some job.operationId) seen rest)
      (known : ∀ id, seen id → plane.tables.Published id) :
      Stage plane ((finishing jobId job rest).labelled (some jobId))

theorem Stage.wait (stage : Stage plane program)
    (holds : ∀ jobId job, program.worker = some jobId → plane.Holds jobId job →
      after.Holds jobId job) (kept : ∀ id, plane.tables.Published id → after.tables.Published id) :
    Stage after program := by
  cases stage with
  | claiming jobId => exact .claiming jobId
  | aside tidy => exact .aside tidy
  | beginning held => exact .beginning (holds _ _ rfl held)
  | working held tidy known =>
    exact .working (holds _ _ (worker_finishing _ _ _) held) tidy fun id seen =>
      kept id (known id seen)

variable {request : ContributionRequest} {continuation : request.2.Reply → ContributionWork}

theorem Stage.completes (stage : Stage plane (.call request continuation))
    {status : CompletionStatus} (completes : request.2 = .complete jobId status) :
    request.1 = some jobId := by
  generalize shape : (Program.call request continuation : ContributionWork) = program at stage
  cases stage with
  | claiming named | beginning holds =>
    cases shape
    cases completes
  | @aside program seen tidy =>
    cases program with
    | done result | fail error => cases shape
    | call call next =>
      cases shape
      exact absurd completes (not_complete_of_guards tidy.1 jobId status)
  | @working named job seen rest holds tidy known =>
    cases rest with
    | done result | fail error =>
      cases shape
      cases completes
      rfl
    | call call next =>
      cases shape
      exact absurd completes (not_complete_of_guards tidy.1 jobId status)

theorem Stage.step (orderly : plane.tables.Orderly) (permitted : plane.Permits request.2)
    (stage : Stage plane (.call request continuation)) {later : ContributionRequest}
    {rest : later.2.Reply → ContributionWork}
    (suspended : continuation (plane.exec request.2).1 = .call later rest) :
    Stage (plane.exec request.2).2 (.call later rest) ∧
      (later.1 = request.1 ∨ request.1 = none ∧ ∃ jobId job, later.1 = some jobId ∧
        plane.jobs[jobId]? = some job ∧ job.status.isClaimable = true) := by
  generalize shape : (Program.call request continuation : ContributionWork) = program at stage
  cases stage with
  | claiming jobId =>
    cases shape
    simp only [ContributionPlane.exec, ContributionPlane.claim] at suspended ⊢
    cases found : plane.findJob jobId (·.status.isClaimable) with
    | none =>
      rw [found] at suspended
      cases suspended
    | some job =>
      rw [found] at suspended
      obtain ⟨there, claimable⟩ := Option.filter_eq_some_iff.mp found
      have holds : (plane.putJob jobId job.claimed).Holds jobId job.claimed :=
        ⟨job.claimed, (plane.getElem?_putJob _ _ _).trans (if_pos rfl), rfl, rfl⟩
      have stage : Stage (plane.putJob jobId job.claimed) (.call later rest) :=
        suspended ▸ .beginning holds
      have label : later.1 = some jobId := (congrArg ContributionWork.worker suspended).symm
      exact ⟨stage, .inr ⟨trivial, jobId, job, label, there, claimable⟩⟩
  | @aside program seen tidy =>
    cases program with
    | done result | fail error => cases shape
    | call call next =>
      cases shape
      refine ⟨suspended ▸ .aside (tidy.2 _ (truthful_exec orderly call)), .inl ?_⟩
      exact (congrArg ContributionWork.worker suspended).symm.trans (worker_aside _)
  | @beginning jobId job holds =>
    cases shape
    cases checked : (plane.exec (.checkpoint jobId)).1 with
    | error error =>
      simp only [checked] at suspended
      cases suspended
    | ok answer =>
      simp only [checked] at suspended
      have acts : Acts (some job.operationId) (fun _ => False) (fun _ => False)
          (executeContributionJob jobId job.payload job.operationId) := acts_executeContributionJob
      refine ⟨suspended ▸ .working holds acts.tidy (fun _ => False.elim), .inl ?_⟩
      exact (congrArg ContributionWork.worker suspended).symm.trans (worker_finishing ..)
  | @working jobId job seen left holds tidy known =>
    cases left with
    | done result | fail error =>
      cases shape
      cases suspended
    | call call next =>
      cases shape
      refine ⟨?_, .inl ?_⟩
      · refine suspended ▸ .working (holds.exec (not_complete_of_guards tidy.1 jobId))
          (tidy.2 _ (truthful_exec orderly call)) fun id seen => ?_
        exact plane.exec_published orderly permitted
          (seen.elim (known id) (published_of_learned orderly call))
      · exact (congrArg ContributionWork.worker suspended).symm.trans (worker_finishing ..)

theorem Stage.of_task (task : ContributionTask) (plane : ContributionPlane) :
    Stage plane task.program ∧ ContributionWork.worker task.program = none := by
  cases task with
  | work jobId => exact ⟨.claiming jobId, rfl⟩
  | recover jobId =>
    have acts : Acts none (fun _ => False) (fun _ => False) (recoverJob jobId) :=
      acts_of_plain (plain_recoverJob jobId)
    exact ⟨.aside acts.tidy, worker_aside _⟩
  | acknowledge request =>
    have acts : Acts none (fun _ => False) (fun _ => False) (acknowledgementResponse request) :=
      acts_acknowledgementResponse request
    exact ⟨.aside acts.tidy.outcome, worker_aside _⟩

theorem Stage.holds (stage : Stage plane program) (worker : program.worker = some jobId) :
    ∃ job, plane.Holds jobId job := by
  cases stage with
  | claiming named => cases worker
  | aside tidy =>
    rw [worker_aside] at worker
    cases worker
  | beginning holds =>
    cases worker
    exact ⟨_, holds⟩
  | working holds tidy known =>
    rw [worker_finishing] at worker
    cases worker
    exact ⟨_, holds⟩

/-- Every suspended program is at some stage, and no two act for the same job. -/
structure Staffed (config : contributionPlatform.Config) : Prop where
  staged : ∀ thread ∈ config.threads, Stage config.state thread.program
  distinct : (config.threads.filterMap fun thread =>
    ContributionWork.worker thread.program).Nodup

variable {permits : contributionPlatform.Discipline} {world : ContributionWorld}
  {config before after : contributionPlatform.Config}

theorem Staffed.start (staffed : Staffed before) (task : ContributionTask)
    (taken : before.next (.start task) = some after) : Staffed after := by
  cases taken
  obtain ⟨staged, idle⟩ := Stage.of_task task before.state
  refine ⟨fun thread member => ?_, ?_⟩
  · rcases List.mem_append.mp member with old | fresh
    · exact staffed.staged thread old
    · obtain ⟨rfl, _⟩ := mem_inFlight fresh
      exact staged
  · have none : (inFlight (⟨contributionPlatform.program task, before.state⟩ :
        contributionPlatform.Thread)).filterMap (fun thread =>
          ContributionWork.worker thread.program) = [] := by
      rw [List.filterMap_eq_nil_iff]
      intro thread member
      obtain ⟨rfl, _⟩ := mem_inFlight member
      exact idle
    rw [List.filterMap_append, none, List.append_nil]
    exact staffed.distinct

theorem Staffed.step (staffed : Staffed before)
    (run : Run permits (contributionsIdle world) before) {index : Nat}
    (taken : before.next (.step index) = some after) : Staffed after := by
  obtain ⟨orderly, _⟩ := contributions_orderly run
  obtain ⟨left, right, request, continuation, _, around, found, stateEq, threadsEq⟩ :=
    next_step_split taken
  have own := staffed.staged _ (List.mem_of_getElem? found)
  have permitted := contributions_permitted run ⟨continuation, found⟩
  have distinct := staffed.distinct
  rw [around] at distinct
  have member : ∀ thread ∈ left ++ right, thread ∈ before.threads := by
    intro thread there
    rw [around]
    rcases List.mem_append.mp there with there | there
    · exact List.mem_append_left _ there
    · exact List.mem_append_right _ (List.mem_cons_of_mem _ there)
  have others : ∀ thread ∈ left ++ right, Stage after.state thread.program := by
    intro thread there
    rw [stateEq]
    refine (staffed.staged thread (member thread there)).wait ?_ fun id =>
      before.state.exec_published orderly permitted
    intro jobId job worker holds
    refine holds.exec fun status completes => ?_
    exact ne_of_nodup_filterMap distinct (own.completes completes) thread there worker
  refine ⟨fun thread there => ?_, ?_⟩
  · rw [threadsEq, List.append_assoc, List.mem_append] at there
    rcases there with inLeft | there
    · exact others thread (List.mem_append_left _ inLeft)
    · rcases List.mem_append.mp there with fresh | inRight
      · obtain ⟨rfl, later, rest, suspended⟩ := mem_inFlight fresh
        rw [stateEq]
        rw [suspended]
        exact (own.step orderly permitted suspended).1
      · exact others thread (List.mem_append_right _ inRight)
  · rw [threadsEq, show contributionPlatform.exec request before.state =
      before.state.exec request.2 from rfl]
    cases suspended : continuation (before.state.exec request.2).1 with
    | done result | fail error => simpa [inFlight] using nodup_filterMap_erase distinct
    | call later rest =>
      rw [List.append_assoc]
      refine nodup_filterMap_replace distinct fun jobId worker other there same => ?_
      obtain ⟨_, goesOn | ⟨_, claimed, job, label, stored, claimable⟩⟩ :=
        own.step orderly permitted suspended
      · exact ne_of_nodup_filterMap distinct (goesOn.symm.trans worker) other there same
      · -- a job that is acted for cannot be claimed
        cases label.symm.trans worker
        obtain ⟨_, _, foundJob, _, unclaimable⟩ :=
          (staffed.staged other (member other there)).holds same
        rw [stored] at foundJob
        cases foundJob
        rw [claimable] at unclaimable
        cases unclaimable

theorem contributions_staffed (run : Run permits (contributionsIdle world) config) :
    Staffed config := by
  induction run with
  | refl => exact ⟨nofun, List.nodup_nil⟩
  | @tail before after earlier step ih =>
    obtain ⟨action, _, taken⟩ := step
    cases action with
    | start task => exact ih.start task taken
    | step index => exact ih.step earlier taken
    | crash index =>
      obtain rfl := next_crash taken
      exact ⟨fun thread member => ih.staged thread (List.mem_of_mem_eraseIdx member),
        ih.distinct.sublist ((List.eraseIdx_sublist _ _).filterMap _)⟩
    | event happening =>
      cases taken
      refine ⟨fun thread member => (ih.staged thread member).wait ?_ ?_, ih.distinct⟩
      · exact fun jobId job _ holds => holds.react happening
      · intro id isPublished
        rw [show (contributionPlatform.react happening before.state).tables =
          before.state.tables from before.state.react_tables happening]
        exact isPublished

theorem Stage.succeeds {label : Option String} {activation : ContributionActivationV1}
    {receipts : List ProjectionReceiptV1}
    {continuation : Except ContributionRepositoryError Unit → ContributionWork}
    (stage : Stage plane (.call (label, .repository (.putBundle activation receipts)) continuation))
    (succeeded : activation.state = .succeeded) :
    ∃ jobId job rest, label = some jobId ∧ plane.Holds jobId job ∧
      activation.activationId = job.operationId ∧
      plane.tables.Published activation.candidateRevisionId ∧
      continuation (.ok ()) = (finishing jobId job rest).labelled (some jobId) ∧
      ∀ older, activation.previousRevisionId = some older → Retires older rest := by
  generalize shape : (Program.call (label, ContributionPlaneCall.repository (.putBundle activation
    receipts)) continuation : ContributionWork) = program at stage
  cases stage with
  | claiming named | beginning holds => cases shape
  | @aside program seen tidy =>
    cases program with
    | done result | fail error => cases shape
    | call call next =>
      cases shape
      cases (tidy.1 succeeded).1
  | @working jobId job seen rest holds tidy known =>
    cases rest with
    | done result | fail error => cases shape
    | call call next =>
      cases shape
      obtain ⟨own, isSeen, retires⟩ := tidy.1 succeeded
      exact ⟨jobId, job, _, rfl, holds, Option.some.inj own, known _ isSeen, rfl, retires⟩

/-- The candidate of an activation that has succeeded was published. -/
def ContributionTables.SucceedsPublished (tables : ContributionTables) : Prop :=
  ∀ (id : String) activation,
    tables.activations[id]? = some activation → activation.state = .succeeded →
      tables.Published activation.candidateRevisionId

theorem contributions_succeedsPublished (run : Run permits (contributionsIdle world) config) :
    config.state.tables.SucceedsPublished := by
  refine contributions_induct (fun _ _ stored => by simp [ContributionTables.empty] at stored)
    ?_ run
  intro before index loaded label call earlier _ performs holds
  obtain ⟨orderly, _⟩ := contributions_orderly earlier
  have lawful := contributions_permitted earlier performs
  have effect := ContributionTables.exec_effect orderly.sound.keyed .sqlite call
  have kept : ∀ id (activation : ContributionActivationV1),
      before.state.tables.activations[id]? = some activation → activation.state = .succeeded →
        (call.exec .sqlite before.state.tables).2.Published activation.candidateRevisionId :=
    fun id activation stored done => (holds id activation stored done).effect lawful effect
  obtain ⟨_, found⟩ := performs
  have stage := (contributions_staffed earlier).staged _ (List.mem_of_getElem? found)
  generalize (call.exec .sqlite before.state.tables).2 = after at effect kept ⊢
  intro id activation stored succeeded
  cases effect with
  | kept _ _ activations =>
    rw [activations] at stored
    exact kept id activation stored succeeded
  | bundled =>
    rw [ContributionTables.putBundle_activations] at stored
    split_ifs at stored
    · cases stored
      obtain ⟨_, _, _, _, _, _, isPublished, _⟩ := stage.succeeds succeeded
      exact isPublished
    · exact kept id activation stored succeeded
  | staged checked =>
    obtain ⟨_, _, _, preparing⟩ := ContributionTables.validateStageBundle_checks checked
    rw [ContributionTables.putBundle_activations] at stored
    split_ifs at stored
    · cases stored
      rw [preparing] at succeeded
      cases succeeded
    · exact kept id activation stored succeeded
  | inserted | observed | moved | «published» | restored | cleared =>
    exact kept id activation stored succeeded

end UntitledOJ
