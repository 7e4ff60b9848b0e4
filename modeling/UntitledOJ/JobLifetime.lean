import UntitledOJ.CoordinatorRuns

/-!
# Jobs and the end of their operation

An operation ends when the jobs that its bindings name are terminal.  It does not wait for a job
that a coordinator enqueued without saving its binding.
-/

namespace UntitledOJ

open Platform DurableOperationStatus MemoryJobStore

section

variable [Digests]

/-- Every job of an operation that is over is terminal, so that no worker can still run it. -/
def Stores.NoJobOutlives (stores : Stores) : Prop :=
  ∀ operation ∈ stores.operations.values, operation.status.isFinal = true →
    ∀ job ∈ stores.jobs.values, job.operationId = operation.operationId →
      job.status.isTerminal = true
deriving Decidable

/-- No job is added to an operation that is over, and an operation ends only while its bindings name
every live job of it. -/
def EndsOverRecordedJobs (_loaded now after : Stores) : Prop :=
  (∀ job ∈ now.created after, ∀ operation ∈ now.operations.get job.operationId,
    operation.status.isFinal = false) ∧
  ∀ before ∈ now.operations.values, ∀ next ∈ after.operations.get before.operationId,
    before.status.isFinal = false → next.status.isFinal = true →
      ∀ job ∈ now.jobs.values, job.operationId = before.operationId →
        job.status.isTerminal = false →
        ∃ binding ∈ before.jobBindings, binding.jobId = job.jobId
deriving Decidable

variable {loaded now : Stores} {current next : DurableOperation}

theorem Update.binding_terminal (sound : now.Sound) {operationId : String}
    (found : now.operations.get operationId = some current)
    (update : Update loaded now current next) (final : next.status.isFinal = true)
    {binding : JobBinding} (present : binding ∈ current.jobBindings) :
    ∃ job, now.jobs.get binding.jobId = some job ∧ job.status.isTerminal = true := by
  cases update with
  | moves same ended =>
    obtain ⟨_, planned, member, shape⟩ := (sound.record found).2.bound binding present
    have named : binding.stepId = planned.stepId := congrArg JobBinding.stepId shape
    apply sound.binding_terminal found present
    rw [named]
    intro bound
    obtain ⟨status, shown, terminal, _⟩ := ended final planned member bound
    exact ⟨status, shown, terminal⟩
  | binds ready binding jobs active =>
    rcases active with status | status <;>
      simp [status, isFinal] at final
  | reopens reopening _ each enqueuing =>
    simp [enqueuing, isFinal] at final

theorem noJobOutlives_step {after : Stores} (sound : now.Sound)
    (recorded : EndsOverRecordedJobs loaded now after) (effect : Effect loaded now after)
    (holds : now.NoJobOutlives) : after.NoJobOutlives := by
  have soundAfter := effect.sound sound
  obtain ⟨noneAdded, allRecorded⟩ := recorded
  intro operation stored final job jobStored belongs
  rw [soundAfter.mem_operations] at stored
  rw [soundAfter.mem_jobs] at jobStored
  rcases effect.record_cases stored with unchanged | ⟨_, planned, _⟩ |
    ⟨current, found, _, update, sameJobs⟩
  · -- the record did not change, so only its jobs may have
    rcases effect.job_cases jobStored with ⟨earlier, earlierFound, evolved⟩ | ⟨fresh, _⟩
    · have terminal : earlier.status.isTerminal = true := by
        apply holds operation (sound.mem_operations.mpr unchanged) final
        · rw [mem_values]
          exact ⟨_, earlierFound⟩
        · rw [← belongs]
          exact (congrArg JobIdentity.operationId evolved.identity).symm
      rw [evolved.settled terminal, terminal]
    · have unfinished := noneAdded job (soundAfter.mem_created.mpr ⟨fresh, jobStored⟩) operation
        (by rw [belongs, unchanged]; rfl)
      simp [final] at unfinished
  · simp [planned, isFinal] at final
  · rw [sameJobs] at jobStored
    have currentId := (sound.record found).1
    have currentStored : current ∈ now.operations.values := by
      rw [sound.mem_operations, currentId, found]
    have jobListed : job ∈ now.jobs.values := sound.mem_jobs.mpr jobStored
    cases ended : current.status.isFinal with
    | true => exact holds current currentStored ended job jobListed (by rw [belongs, currentId])
    | false =>
      by_contra live
      obtain ⟨_, present, named⟩ := allRecorded current currentStored operation
        (by rw [currentId, stored]; rfl) ended final job jobListed (by rw [belongs, currentId])
        (by simpa using live)
      obtain ⟨_, boundFound, terminal⟩ := Update.binding_terminal sound found update final present
      rw [named, jobStored] at boundFound
      cases boundFound
      exact live terminal

theorem noJobOutlives_of_run {last : controlPlane.Config}
    (run : Run (stepsMeet EndsOverRecordedJobs) startup last) : last.state.NoJobOutlives := by
  apply run_steps Relation.ReflTransGen.refl _ noJobOutlives_step _ run
  · simp [Stores.NoJobOutlives, startup, Stores.empty, MemoryOperationStore.empty,
      MemoryOperationStore.values]
  · intro now jobs sound updates holds operation stored final job jobStored belongs
    obtain ⟨jobId, found⟩ := mem_values.mp jobStored
    obtain ⟨earlier, earlierFound, evolved⟩ := updates.origin found
    have terminal : earlier.status.isTerminal = true := by
      apply holds operation stored final
      · exact mem_values.mpr ⟨jobId, earlierFound⟩
      · rw [← belongs]
        exact (congrArg JobIdentity.operationId evolved.identity).symm
    rw [evolved.settled terminal, terminal]

theorem endsOverRecordedJobs_of_noJobOutlives {after : Stores} (sound : now.Sound)
    (effect : Effect loaded now after) (holds : after.NoJobOutlives) :
    EndsOverRecordedJobs loaded now after := by
  have soundAfter := effect.sound sound
  constructor
  · intro job created operation stored
    obtain ⟨fresh, found⟩ := soundAfter.mem_created.mp created
    rcases effect.job_cases found with ⟨_, earlierFound, _⟩ | ⟨_, queued, unchanged, _⟩
    · simp [fresh] at earlierFound
    · rw [← unchanged] at stored
      have named := (soundAfter.record stored).1
      by_contra final
      have terminal := holds operation (soundAfter.mem_operations.mpr (named ▸ stored))
        (by simpa using final) job (soundAfter.mem_jobs.mpr found) named.symm
      simp [queued, JobStatus.isTerminal] at terminal
  · intro before stored next nextStored unfinished final job jobStored belongs live
    have found := sound.mem_operations.mp stored
    have named := (soundAfter.record nextStored).1
    -- the record changed, so the jobs did not
    rcases effect.record_cases nextStored with unchanged | ⟨missing, _⟩ | ⟨_, _, _, _, sameJobs⟩
    · cases found.symm.trans unchanged
      simp [final] at unfinished
    · simp [found] at missing
    · have terminal := holds next (soundAfter.mem_operations.mpr (named ▸ nextStored)) final job
        (sameJobs ▸ jobStored) (belongs.trans named.symm)
      simp [live] at terminal

/-- No live job outlives its operation, in every run of coordinators and workers that tears no
enqueue apart from the end of the operation.  From such a run, no other step keeps it so. -/
theorem no_live_job_outlives {last : controlPlane.Config}
    (run : Run (stepsMeet EndsOverRecordedJobs) startup last) :
    last.state.NoJobOutlives ∧ ∀ after, Step anySchedule last after →
      after.state.NoJobOutlives → Step (stepsMeet EndsOverRecordedJobs) last after := by
  refine ⟨noJobOutlives_of_run run, ?_⟩
  rintro after ⟨action, _, taken⟩ holds
  refine ⟨action, stepsMeet_of_next taken ?_, taken⟩
  intro index loaded request performs same
  have effect := run_effect run performs
  rw [same] at holds ⊢
  exact endsOverRecordedJobs_of_noJobOutlives (run_sound run) effect holds

end

open Scenario

theorem no_live_job_outlives_deployment :
    ∃ last, Run (stepsMeet EndsOverRecordedJobs) startup last ∧
      last.state.operations.values.map DurableOperation.status = [.succeeded] ∧
      last.state.NoJobOutlives := by
  let step := forward "A" []
  obtain ⟨last, run, succeeded⟩ := exists_run (stepsMeet EndsOverRecordedJobs)
    (deployed [step] 4 ++ settled 0 step .succeeded ++ projected 3)
    (fun stores => stores.operations.values.map DurableOperation.status = [.succeeded])
    (by decide +kernel)
  exact ⟨last, run, succeeded, (no_live_job_outlives run).1⟩

/-- A retry stops between enqueueing the job of the new generation and saving the binding.
The cancellation looks only at the old binding and ends the operation over the new job. -/
theorem queued_job_outlives_cancellation :
    ∃ last, Run anySchedule startup last ∧ ¬ last.state.NoJobOutlives := by
  let step := forward "A" []
  exact exists_run anySchedule
    (deployed [step] 4 ++ settled 0 step .failed ++ projected 3 ++ retried 4 ++ [.crash 0] ++
      cancelled 7)
    (fun stores => ¬ stores.NoJobOutlives) (by decide +kernel)

end UntitledOJ
