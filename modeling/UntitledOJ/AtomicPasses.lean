import UntitledOJ.CoordinatorRuns

/-!
# What an atomic pass enqueues

While coordinator calls are executed one at a time, what made a step ready still holds when a
pass of materialization enqueues it.
-/

namespace UntitledOJ

open Platform

variable [Digests] {now start : Stores} {operation : DurableOperation} {planned : PlannedJob}

theorem ShowsActive.activeStatus {stepId : String} {status : JobStatus}
    (shown : ShowsActive now.Answers operation stepId status) :
    now.ActiveStatus operation stepId status := by
  obtain ⟨binding, job, active, found, same⟩ := shown
  exact ⟨binding, job, active, found.symm, same⟩

theorem Passing.enabled (passing : Passing now operation planned)
    (graph : PlanGraph operation.plannedJobs) :
    operation.status = .cancelling ∧ planned.condition = .onFailure ∨
      now.Enabled operation planned := by
  obtain ⟨_, pass, chosen⟩ := passing.pass
  apply enabled_of_ready graph _ chosen.member
    ((Stores.yields_iff_reads plannedJobReady_readOnly).mpr chosen.ready)
  intro stepId status shown _
  obtain ⟨binding, job, active, found, same⟩ := shown.activeStatus
  exact ⟨binding, job, active, pass.keeps found, same⟩

variable {condition : Stores → Stores → Stores → Prop} {config after : controlPlane.Config}
  {job : Job}

theorem created_meets (run : Run (stepsMeet condition) startup config)
    (step : Step (stepsMeet condition) config after)
    (created : job ∈ config.state.created after.state) :
    (∃ loaded, condition loaded config.state after.state) ∧
      after.state.operations = config.state.operations := by
  have soundAfter : after.state.Sound := run_sound (run.tail step)
  obtain ⟨fresh, found⟩ := soundAfter.mem_created.mp created
  rcases step_meets run step with ⟨_, updates, same⟩ | ⟨loaded, _, meets, effect⟩
  · rw [same] at found
    obtain ⟨earlier, earlierFound, _⟩ := updates.origin found
    simp [fresh] at earlierFound
  · refine ⟨⟨loaded, meets⟩, ?_⟩
    rcases effect.job_cases found with ⟨_, earlierFound, _⟩ | ⟨_, _, unchanged, _⟩
    · simp [fresh] at earlierFound
    · exact unchanged

/-- An atomic call that adds a job of a step was in a pass that had found the
step ready. -/
theorem passing_of_created (run : Run serialSchedule startup config)
    (step : Step serialSchedule config after)
    (created : job ∈ config.state.created after.state)
    (stored : operation ∈ config.state.operations.values) (member : planned ∈ operation.plannedJobs)
    {generation : Nat} (belongs : job.IsFor operation.operationId generation planned.stepId) :
    Passing config.state operation planned ∧ planned.stepId ∈ operation.pendingStepIds := by
  have sound := run_sound run
  have found := sound.mem_operations.mp stored
  obtain ⟨current, _, passing, sourceMember, pending, identity⟩ := created_passing run step created
  have isFor := Job.IsFor.of_identity identity
  have sameOperation : current.operationId = operation.operationId := isFor.1.symm.trans belongs.1
  have currentFound := passing.stored
  rw [sameOperation, found] at currentFound
  cases currentFound
  obtain ⟨_, sameStep⟩ := isFor.unique belongs
  have same := (sound.record found).2.graph.eq_of_stepId sourceMember member sameStep
  subst same
  exact ⟨passing, pending⟩

end UntitledOJ
