import UntitledOJ.CoordinatorRuns

/-!
# Compensation of a failed operation

`project` enqueues the pending steps that are ready and then derives the status from a second look
at the jobs.  A dependency that ends in between makes a compensator ready when the operation
becomes terminal.
-/

namespace UntitledOJ

open Platform

section

variable {loaded now : Stores} {current next : DurableOperation} {planned : PlannedJob}
  {after : Stores}

theorem activeBinding_eq_of_seen {record : DurableOperation}
    (found : loaded.operations.get current.operationId = some record)
    (kept : ∀ binding ∈ record.jobBindings, binding ∈ current.jobBindings)
    (seen : ∀ dependency ∈ planned.dependsOn, ∀ binding ∈ current.activeBinding dependency,
      ∃ record ∈ loaded.operations.get current.operationId,
        record.activeBinding dependency = some binding)
    {dependency : String} (member : dependency ∈ planned.dependsOn) :
    record.activeBinding dependency = current.activeBinding dependency := by
  cases active : current.activeBinding dependency with
  | some binding =>
    obtain ⟨_, otherFound, same⟩ := seen dependency member binding active
    rw [found] at otherFound
    cases otherFound
    exact same
  | none =>
    rw [DurableOperation.activeBinding_eq_none] at active ⊢
    exact fun binding present => active binding (kept binding present)

theorem statuses_eq_of_seen {bindings : List JobBinding} {passed present : List JobStatus}
    (evolves : loaded.jobs.Evolves now.jobs) (settled : ∀ binding ∈ bindings,
      ∃ job ∈ loaded.jobs.get binding.jobId, job.status.isTerminal = true)
    (atPass : List.Forall₂ (fun binding status => ∀ job,
      loaded.jobs.get binding.jobId = some job → job.status.isTerminal = true →
        job.status = status) bindings passed) (atEnd : List.Forall₂ (fun binding status => ∃ job,
      some job = now.jobs.get binding.jobId ∧ job.status = status) bindings present) :
    passed = present := by
  induction atPass generalizing present with
  | nil =>
    cases atEnd
    rfl
  | @cons binding status bindings passed shown _ ih =>
    obtain ⟨job, found, terminal⟩ := settled binding List.mem_cons_self
    obtain ⟨_, laterFound, evolved⟩ := evolves.keeps found
    cases atEnd with
    | cons head rest =>
      obtain ⟨_, lastFound, rfl⟩ := head
      rw [laterFound] at lastFound
      cases lastFound
      rw [← shown job found terminal, evolved.settled terminal,
        ih (fun other member => settled other (List.mem_cons_of_mem _ member)) rest]

variable [Digests]

/-- A step stores an operation as failed, or moves it from running to
cancelled, over a pending ON_FAILURE step that is ready. -/
def Stores.LosesCompensation (now after : Stores) : Prop :=
  ∃ before ∈ now.operations.values, ∃ next ∈ after.operations.get before.operationId,
    (next.status = .failed ∧ next.revision ≠ before.revision ∨
      before.status = .running ∧ next.status = .cancelled) ∧
    ∃ planned ∈ next.plannedJobs, planned.condition = .onFailure ∧
      planned.stepId ∈ next.pendingStepIds ∧
      after.reads (plannedJobReady next planned) = .ok true
deriving Decidable

/-- A running operation is stored as failed or cancelled only by a call that had loaded the present
bindings of the dependencies of its pending ON_FAILURE steps, with terminal jobs. -/
def EndsOverSeenDependencies (loaded now after : Stores) : Prop :=
  ∀ before ∈ now.operations.values, ∀ next ∈ after.operations.get before.operationId,
    before.status = .running → next.status = .failed ∨ next.status = .cancelled →
      ∀ planned ∈ before.plannedJobs, planned.condition = .onFailure →
        planned.stepId ∈ before.pendingStepIds → ∀ dependency ∈ planned.dependsOn,
          ∀ binding ∈ before.activeBinding dependency,
            (∃ record ∈ loaded.operations.get before.operationId,
              record.activeBinding dependency = some binding) ∧
            ∃ job ∈ loaded.jobs.get binding.jobId, job.status.isTerminal = true
deriving Decidable

/-- No compensation is lost by an update that ends an operation over
dependencies which its call had seen. -/
theorem not_ready_of_seen (sound : now.Sound) (loadedBefore : loaded.Evolves now)
    {operationId : String} (found : now.operations.get operationId = some current)
    (same : current.SameWork next) (ended : next.status = .failed ∨ next.status = .cancelled)
    (compensated : NotReadySince loaded next)
    (member : planned ∈ next.plannedJobs) (onFailure : planned.condition = .onFailure)
    (pending : planned.stepId ∈ next.pendingStepIds)
    (seen : ∀ dependency ∈ planned.dependsOn, ∀ binding ∈ current.activeBinding dependency,
      (∃ record ∈ loaded.operations.get current.operationId,
        record.activeBinding dependency = some binding) ∧
      ∃ job ∈ loaded.jobs.get binding.jobId, job.status.isTerminal = true)
    (sameJobs : after.jobs = now.jobs) :
    after.reads (plannedJobReady next planned) ≠ .ok true := by
  intro ready
  have wellFormed := (sound.record found).2.sameWork same
  have running : next.status ≠ .cancelling := by
    rcases ended with status | status <;> simp [status]
  obtain ⟨present, verdict, atEnd⟩ := yields_ready_onFailure running onFailure
    (wellFormed.graph.guarded planned member onFailure)
    ((Stores.yields_iff_reads plannedJobReady_readOnly).mpr ready)
  obtain ⟨record, recordFound, _, kept, dormant⟩ := compensated
  obtain ⟨passed, notReady, atPass⟩ := dormant planned member onFailure pending
  rw [same.operationId] at recordFound
  rw [same.bindings] at kept
  have bindings : planned.dependsOn.filterMap record.activeBinding =
      planned.dependsOn.filterMap next.activeBinding := by
    apply List.filterMap_congr
    intro dependency depends
    rw [same.activeBinding_eq]
    exact activeBinding_eq_of_seen recordFound kept
      (fun other otherDepends binding active => (seen other otherDepends binding active).1) depends
  rw [bindings] at atPass
  have settled : ∀ binding ∈ planned.dependsOn.filterMap next.activeBinding,
      ∃ job ∈ loaded.jobs.get binding.jobId, job.status.isTerminal = true := by
    intro binding listed
    obtain ⟨dependency, depends, active⟩ := List.mem_filterMap.mp listed
    rw [same.activeBinding_eq] at active
    exact (seen dependency depends binding active).2
  have unchanged : passed = present := by
    apply statuses_eq_of_seen loadedBefore.jobs settled atPass
    rw [← sameJobs]
    exact atEnd
  rw [unchanged, ← verdict] at notReady
  cases notReady

/-- A store call that ends operations only over dependencies which its call had
seen loses no compensation. -/
theorem effect_keeps_compensation (sound : now.Sound) (earlier : loaded.Evolves now)
    (seen : EndsOverSeenDependencies loaded now after) (effect : Effect loaded now after) :
    ¬ now.LosesCompensation after := by
  rintro ⟨before, stored, next, nextFound, ended, planned, member, onFailure, pending, ready⟩
  have found := sound.mem_operations.mp stored
  have status : next.status = .failed ∨ next.status = .cancelled := ended.imp And.left And.right
  rcases effect.record_cases nextFound with unchanged | ⟨missing, _⟩ |
    ⟨_, currentFound, _, update, sameJobs⟩
  · -- a step that leaves the record alone does not end the operation
    rw [found] at unchanged
    cases unchanged
    rcases ended with ⟨_, revised⟩ | ⟨running, cancelled⟩
    · exact revised rfl
    · simp [running] at cancelled
  · simp [found] at missing
  · rw [found] at currentFound
    cases currentFound
    cases update with
    | moves same _ failing compensated =>
      have running : before.status = .running := by
        rcases ended with ⟨failed, _⟩ | ⟨running, _⟩
        · exact failing failed
        · exact running
      refine not_ready_of_seen sound earlier found same status (compensated running status)
        member onFailure pending ?_ sameJobs ready
      exact seen before stored next nextFound running status planned
        (same.plannedJobs ▸ member) onFailure (same.pending ▸ pending)
    | binds ready binding jobs active =>
      rcases active with active | active <;> simp [active] at status
    | reopens reopening _ each enqueuing => simp [enqueuing] at status

theorem not_losesCompensation_of_jobs (sound : now.Sound) (jobs : MemoryJobStore) :
    ¬ now.LosesCompensation { now with jobs } := by
  rintro ⟨before, stored, next, nextFound, ended, _⟩
  have found := sound.mem_operations.mp stored
  rw [Option.mem_def, found] at nextFound
  cases nextFound
  rcases ended with ⟨_, revised⟩ | ⟨running, cancelled⟩
  · exact revised rfl
  · simp [running] at cancelled

/-- No compensation is lost on failure, in every run of coordinators and
workers that ends operations over dependencies which the ending call had
seen. -/
theorem no_compensation_lost {config after : controlPlane.Config}
    (run : Run (stepsMeet EndsOverSeenDependencies) startup config)
    (step : Step (stepsMeet EndsOverSeenDependencies) config after) :
    ¬ config.state.LosesCompensation after.state := by
  have sound := run_sound run
  rcases step_meets run step with ⟨jobs, _, same⟩ | ⟨_, earlier, seen, effect⟩
  · rw [same]
    exact not_losesCompensation_of_jobs sound jobs
  · exact effect_keeps_compensation sound earlier seen effect

end

open Scenario

theorem failed_over_unneeded_compensator : ∃ config after,
      Run (stepsMeet EndsOverSeenDependencies) startup config ∧
      Step (stepsMeet EndsOverSeenDependencies) config after ∧
      (∃ next ∈ after.state.operations.values, next.status = .failed ∧
        next.pendingStepIds = ["C"]) ∧ ¬ config.state.LosesCompensation after.state := by
  let failing := forward "A" []
  let guarded := forward "B" []
  obtain ⟨config, after, run, step, _, failed⟩ := exists_step (stepsMeet EndsOverSeenDependencies)
    (deployed [failing, guarded, compensator "C" ["B"]] 5 ++ settled 0 failing .failed ++
      settled 0 guarded .succeeded ++ (.start ⟨.project "op" 0, 4⟩ :: steps 0 6))
    (.step 0)
    (fun now after => (∀ before ∈ now.operations.values, before.status = .running) ∧
      ∃ next ∈ after.operations.values, next.status = .failed ∧ next.pendingStepIds = ["C"])
    (by decide +kernel)
  exact ⟨config, after, run, step, failed, no_compensation_lost run step⟩

/-- The projection reads that `A` has not ended, so `C` is not ready.  Then `A`
fails, and the second look stores the operation as failed with `C` pending. -/
theorem compensator_lost_between_reads : ∃ config after, Run anySchedule startup config ∧
      Step anySchedule config after ∧ config.state.LosesCompensation after.state := by
  let failing := forward "A" []
  exact exists_step anySchedule
    (deployed [failing, compensator "C" ["A"]] 4 ++
      (.start ⟨.project "op" 0, 4⟩ :: steps 0 3) ++ settled 0 failing .failed ++ steps 0 1)
    (.step 0) Stores.LosesCompensation (by decide +kernel)

end UntitledOJ
