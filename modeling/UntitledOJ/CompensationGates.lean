import UntitledOJ.AtomicPasses
import UntitledOJ.AtomicReads

/-!
# What holds compensation back

Live forward jobs of a cancelled operation and jobs of unknown outcome should hold a compensation
step back.  The first are checked only for ON_FAILURE steps, the second only among the direct
dependencies.
-/

namespace UntitledOJ

open Platform

section

variable [Digests]

/-- A compensation step of a cancelled operation gets a job while a forward
step has a live one. -/
def Stores.RacesForward (now after : Stores) : Prop :=
  ∃ operation ∈ now.operations.values, operation.status = .cancelling ∧
    (∃ planned ∈ operation.plannedJobs, planned.stepId ∈ compensationStepIds operation ∧
      ∃ job ∈ now.created after, ∃ generation,
        job.IsFor operation.operationId generation planned.stepId) ∧
    ∃ source ∈ operation.plannedJobs, source.stepId ∉ compensationStepIds operation ∧
      ∃ other ∈ now.jobs.values, other.status.isTerminal = false ∧
        ∃ generation, other.IsFor operation.operationId generation source.stepId

/-- A compensation step gets a job although the outcome of a job of the
operation is unknown. -/
def Stores.CompensatesUnknown (now after : Stores) : Prop :=
  ∃ operation ∈ now.operations.values,
    (∃ job ∈ now.jobs.values, job.operationId = operation.operationId ∧
      job.status = .needsAttention) ∧
    ∃ planned ∈ operation.plannedJobs, planned.stepId ∈ compensationStepIds operation ∧
      ∃ job ∈ now.created after, ∃ generation,
        job.IsFor operation.operationId generation planned.stepId

/-- While jobs are added for a cancelled operation, `materialized_job` finds every live job of a
forward step, and beside one no pending ON_SUCCESS compensation step has seen all its dependencies
succeed. -/
def CancelsForwardFirst (_loaded now after : Stores) : Prop :=
  ∀ job ∈ now.created after, ∀ operation ∈ now.operations.get job.operationId,
    operation.status = .cancelling →
    ∀ source ∈ operation.plannedJobs, source.stepId ∉ compensationStepIds operation →
    ∀ other ∈ now.jobs.values, other.status.isTerminal = false →
    ∀ generation ∈ List.range (operation.generation + 1),
      other.IsFor operation.operationId generation source.stepId →
      now.materialized operation source = some other ∧
        ∀ planned ∈ operation.plannedJobs, planned.condition = .onSuccess →
          planned.stepId ∈ compensationStepIds operation →
          planned.stepId ∈ operation.pendingStepIds →
          ∃ dependency ∈ planned.dependsOn, ¬ now.ActiveStatus operation dependency .succeeded
deriving Decidable

/-- While jobs are added for an operation with a job of unknown outcome, every
pending ON_FAILURE step depends directly on such a job, and every pending
ON_SUCCESS compensation step on one that has not succeeded. -/
def UnknownOutcomesGuarded (_loaded now after : Stores) : Prop :=
  ∀ job ∈ now.created after, ∀ operation ∈ now.operations.get job.operationId,
    (∃ other ∈ now.jobs.values, other.operationId = operation.operationId ∧
      other.status = .needsAttention) →
    ∀ planned ∈ operation.plannedJobs, planned.stepId ∈ compensationStepIds operation →
      planned.stepId ∈ operation.pendingStepIds →
      ∃ dependency ∈ planned.dependsOn,
        (planned.condition = .onFailure →
          now.ActiveStatus operation dependency .needsAttention) ∧
        (planned.condition = .onSuccess → ¬ now.ActiveStatus operation dependency .succeeded)
deriving Decidable

variable {now start : Stores} {operation : DurableOperation} {planned source : PlannedJob}
  {generation : Nat} {job : Job}

theorem PassFrom.materialized_forward (pass : PassFrom start now operation)
    (cancelling : operation.status = .cancelling)
    (forward : source.stepId ∉ compensationStepIds operation)
    (belongs : job.IsFor operation.operationId generation source.stepId)
    (found : now.materialized operation source = some job) :
    start.materialized operation source = some job := by
  obtain ⟨jobId, named, stored⟩ := Option.bind_eq_some_iff.mp found
  refine Option.bind_eq_some_iff.mpr ⟨jobId, named, ?_⟩
  cases before : start.jobs.get jobId with
  | some earlier =>
    have kept := pass.keeps before
    rwa [stored, eq_comm] at kept
  | none =>
    obtain ⟨_, chosen, isFor⟩ := pass.added stored before
    obtain ⟨_, same⟩ := isFor.unique belongs
    exact absurd (same ▸ chosen.considered cancelling) forward

theorem PassFrom.activeStatus (pass : PassFrom start now operation) (sound : now.Sound)
    (stored : now.operations.get operation.operationId = some operation) {stepId : String}
    {status : JobStatus} (shown : now.ActiveStatus operation stepId status) :
    start.ActiveStatus operation stepId status := by
  obtain ⟨binding, job, active, found, same⟩ := shown
  refine ⟨binding, job, active, ?_, same⟩
  cases before : start.jobs.get binding.jobId with
  | some earlier =>
    have kept := pass.keeps before
    rwa [found, eq_comm] at kept
  | none =>
    obtain ⟨step, chosen, isFor⟩ := pass.added found before
    have present := (DurableOperation.activeBinding_some active).1
    obtain ⟨_, boundFound, boundFor⟩ := sound.bound stored binding present
    rw [found] at boundFound
    cases boundFound
    obtain ⟨_, step⟩ := isFor.unique boundFor
    have older := (sound.record stored).2.pendingOlder _ chosen.pending binding present step.symm
    omega

theorem Passing.forward_ended (passing : Passing now operation planned)
    (cancelling : operation.status = .cancelling) (onFailure : planned.condition = .onFailure)
    (member : source ∈ operation.plannedJobs)
    (forward : source.stepId ∉ compensationStepIds operation)
    (belongs : job.IsFor operation.operationId generation source.stepId)
    (found : now.materialized operation source = some job) : job.status.isTerminal = true := by
  obtain ⟨_, pass, chosen⟩ := passing.pass
  have ready := (Stores.yields_iff_reads plannedJobReady_readOnly).mpr chosen.ready
  simp only [plannedJobReady, cancelling, onFailure, and_self, if_true] at ready
  obtain ⟨_, read, ended⟩ :=
    yields_forwardJobLive forward ((yields_compensatorReady ready).1 source member)
  rw [yields_materializedJob] at read
  apply ended
  rw [read]
  exact pass.materialized_forward cancelling forward belongs found

theorem Passing.known_outcomes (passing : Passing now operation planned) (sound : now.Sound)
    (member : planned ∈ operation.plannedJobs) (onFailure : planned.condition = .onFailure)
    {dependency : String} (needed : dependency ∈ planned.dependsOn) :
    ¬ now.ActiveStatus operation dependency .needsAttention := by
  intro attention
  have graph := (sound.record passing.stored).2.graph
  rcases passing.enabled graph with ⟨cancelling, _⟩ | enabled
  · obtain ⟨_, pass, chosen⟩ := passing.pass
    have ready := (Stores.yields_iff_reads plannedJobReady_readOnly).mpr chosen.ready
    simp only [plannedJobReady, cancelling, onFailure, and_self, if_true] at ready
    obtain ⟨_, sourceMember, rfl⟩ := graph.known planned member dependency needed
    obtain ⟨_, read, ended⟩ := yields_dependencyBlocks
      (findPlanned_stepId graph sourceMember) ((yields_compensatorReady ready).2 _ needed)
    obtain ⟨_, job, active, found, same⟩ := pass.activeStatus sound passing.stored attention
    rw [yields_materializedJob, Stores.materialized_of_active active, found] at read
    exact (ended job read).2 same
  · obtain ⟨_, shown, _, known⟩ := enabled.settled onFailure dependency needed attention.bound
    exact known (shown.unique attention)

theorem not_racesForward_of_meets {config after : controlPlane.Config}
    (run : Run (atomicCalls CancelsForwardFirst) startup config)
    (step : Step (atomicCalls CancelsForwardFirst) config after) :
    ¬ config.state.RacesForward after.state := by
  rintro ⟨operation, stored, cancelling, ⟨planned, member, compensates, job, created, generation,
    belongs⟩, source, sourceMember, forward, other, otherStored, live, otherGeneration, otherFor⟩
  have sound := run_sound run
  have found := sound.mem_operations.mp stored
  have graph := (sound.record found).2.graph
  obtain ⟨⟨_, meets⟩, _⟩ := created_meets (run_of_atomic run) (step_of_atomic step) created
  obtain ⟨passing, pending⟩ :=
    passing_of_created (run_serial run) (step_serial step) created stored member belongs
  obtain ⟨_, _, sameFound, _⟩ := sound.origin_of_isFor (sound.mem_jobs.mp otherStored) otherFor
  rw [found] at sameFound
  cases sameFound
  obtain ⟨isMaterialized, waiting⟩ := meets job created operation (belongs.1 ▸ found) cancelling
    source sourceMember forward other otherStored live otherGeneration
    (List.mem_range.mpr (by omega)) otherFor
  cases condition : planned.condition with
  | onFailure =>
    have ended := passing.forward_ended cancelling condition sourceMember forward otherFor
      isMaterialized
    simp [live] at ended
  | onSuccess =>
    obtain ⟨dependency, needed, unmet⟩ := waiting planned member condition compensates pending
    have enabled := (passing.enabled graph).resolve_left fun contrary => by
      simp [condition] at contrary
    exact unmet (enabled.succeeded condition dependency needed)

/-- A pass over a cancelled operation enqueues nothing but compensation steps, so without a race
there is no live forward job to ask about. -/
theorem cancelsForwardFirst_of_not_racesForward {config after : controlPlane.Config}
    (run : Run serialSchedule startup config) (step : Step serialSchedule config after)
    (apart : ¬ config.state.RacesForward after.state) (loaded : Stores) :
    CancelsForwardFirst loaded config.state after.state := by
  intro job created operation stored cancelling source sourceMember forward other otherStored live
    generation _ otherFor
  obtain ⟨current, planned, passing, member, _, identity⟩ := created_passing run step created
  have belongs := Job.IsFor.of_identity identity
  have found := passing.stored
  rw [← belongs.1, Option.mem_def.mp stored] at found
  cases found
  obtain ⟨_, _, chosen⟩ := passing.pass
  have listed := (run_sound run).mem_operations.mpr passing.stored
  exact absurd ⟨operation, listed, cancelling, ⟨planned, member, chosen.considered cancelling, job,
    created, _, belongs⟩, source, sourceMember, forward, other, otherStored, live, generation,
    otherFor⟩ apart

/-- Cancellation never races compensation against forward work in a run of atomic calls that meets
the condition, and a step that breaks the condition is such a race. -/
theorem no_compensation_races_forward {config after : controlPlane.Config}
    (run : Run (atomicCalls CancelsForwardFirst) startup config)
    (step : Step serialSchedule config after) :
    Step (atomicCalls CancelsForwardFirst) config after ↔
      ¬ config.state.RacesForward after.state := by
  refine ⟨not_racesForward_of_meets run, ?_⟩
  intro apart
  have meets := cancelsForwardFirst_of_not_racesForward (run_serial run) step apart
  obtain ⟨action, permitted, taken⟩ := step
  exact ⟨action, ⟨permitted, stepsMeet_of_next taken fun _ _ => meets _⟩, taken⟩

/-- Unknown outcomes stop automatic compensation, in every run of atomic calls
in which they are direct dependencies of what is pending. -/
theorem unknown_outcome_stops_compensation {config after : controlPlane.Config}
    (run : Run (atomicCalls UnknownOutcomesGuarded) startup config)
    (step : Step (atomicCalls UnknownOutcomesGuarded) config after) :
    ¬ config.state.CompensatesUnknown after.state := by
  rintro ⟨operation, stored, unknown, planned, member, compensates, job, created, generation,
    belongs⟩
  have sound := run_sound run
  have found := sound.mem_operations.mp stored
  have graph := (sound.record found).2.graph
  obtain ⟨⟨_, meets⟩, _⟩ := created_meets (run_of_atomic run) (step_of_atomic step) created
  obtain ⟨passing, pending⟩ :=
    passing_of_created (run_serial run) (step_serial step) created stored member belongs
  obtain ⟨dependency, needed, attention, unmet⟩ := meets job created operation
    (belongs.1 ▸ found) unknown planned member compensates pending
  cases condition : planned.condition with
  | onFailure =>
    exact passing.known_outcomes sound member condition needed (attention condition)
  | onSuccess =>
    have enabled := (passing.enabled graph).resolve_left fun contrary => by
      simp [condition] at contrary
    exact unmet condition (enabled.succeeded condition dependency needed)

end

open Scenario

theorem compensator_after_cancelled_job : ∃ config after,
      Run (atomicCalls CancelsForwardFirst) startup config ∧
      Step (atomicCalls CancelsForwardFirst) config after ∧
      (∃ operation ∈ config.state.operations.values, operation.status = .cancelling) ∧
      (∃ job ∈ config.state.created after.state, job.IsFor "op" 0 "C") ∧
      ¬ config.state.RacesForward after.state := by
  let cancelledStep := forward "A" []
  obtain ⟨config, after, run, step, cancelling, created⟩ :=
    exists_step (atomicCalls CancelsForwardFirst)
      (deployed [cancelledStep, compensator "C" ["A"]] 4 ++ claimed cancelledStep ++
        cancelled 11 ++ ended 0 cancelledStep .cancelled ++
        (.start ⟨.project "op" 0, 4⟩ :: steps 0 4))
      (.step 0)
      (fun now after => (∃ operation ∈ now.operations.values, operation.status = .cancelling) ∧
        ∃ job ∈ now.created after, job.IsFor "op" 0 "C")
      (by decide +kernel)
  exact ⟨config, after, run, step, cancelling, created,
    (no_compensation_races_forward run (step_serial step)).mp step⟩

/-- The cancel arrives while the compensator `C` runs and `B` is still leased.
`C` succeeds, and its cleanup `K` is enqueued although `B` has not ended. -/
theorem cleanup_enqueued_beside_forward_job : ∃ config after, Run serialSchedule startup config ∧
      Step serialSchedule config after ∧ config.state.RacesForward after.state := by
  let failing := forward "A" []
  let running := forward "B" []
  let compensating := compensator "C" ["A"]
  obtain ⟨config, after, run, step, operation, stored, cancelling, ⟨planned, member, compensates,
    job, created, belongs⟩, source, sourceMember, isForward, other, otherStored, live, otherFor⟩ :=
    exists_step serialSchedule
      (deployed [failing, running, compensating, forward "K" ["C"]] 5 ++ claimed running ++
        settled 0 failing .failed ++ projected 11 ++ claimed compensating ++ cancelled 18 ++
        ended 0 compensating .succeeded ++ (.start ⟨.project "op" 0, 4⟩ :: steps 0 5))
      (.step 0)
      (fun now after => ∃ operation ∈ now.operations.values, operation.status = .cancelling ∧
        (∃ planned ∈ operation.plannedJobs, planned.stepId ∈ compensationStepIds operation ∧
          ∃ job ∈ now.created after, job.IsFor operation.operationId 0 planned.stepId) ∧
        ∃ source ∈ operation.plannedJobs, source.stepId ∉ compensationStepIds operation ∧
          ∃ other ∈ now.jobs.values, other.status.isTerminal = false ∧
            other.IsFor operation.operationId 0 source.stepId)
      (by decide +kernel)
  exact ⟨config, after, run, step, operation, stored, cancelling, ⟨planned, member, compensates,
    job, created, 0, belongs⟩, source, sourceMember, isForward, other, otherStored, live, 0,
    otherFor⟩

theorem unknown_outcome_reported : ∃ config after,
      Run (atomicCalls UnknownOutcomesGuarded) startup config ∧
      Step (atomicCalls UnknownOutcomesGuarded) config after ∧
      (∃ job ∈ config.state.jobs.values, job.status = .needsAttention) ∧
      (∃ operation ∈ after.state.operations.values, operation.status = .needsAttention ∧
        operation.pendingStepIds = ["C"]) ∧ ¬ config.state.CompensatesUnknown after.state := by
  let unproven := forward "A" []
  obtain ⟨config, after, run, step, unknown, reported⟩ :=
    exists_step (atomicCalls UnknownOutcomesGuarded)
      (deployed [unproven, compensator "C" ["A"]] 4 ++ settled 0 unproven .needsAttention ++
        (.start ⟨.project "op" 0, 4⟩ :: steps 0 4))
      (.step 0)
      (fun now after => (∃ job ∈ now.jobs.values, job.status = .needsAttention) ∧
        ∃ operation ∈ after.operations.values, operation.status = .needsAttention ∧
          operation.pendingStepIds = ["C"])
      (by decide +kernel)
  exact ⟨config, after, run, step, unknown, reported, unknown_outcome_stops_compensation run step⟩

/-- The outcome of `A` is unknown; the compensator of `B` is enqueued all the
same. -/
theorem parallel_branch_compensated : ∃ config after, Run serialSchedule startup config ∧
      Step serialSchedule config after ∧ config.state.CompensatesUnknown after.state := by
  let unproven := forward "A" []
  let failing := forward "B" []
  obtain ⟨config, after, run, step, operation, stored, unknown, planned, member, compensates, job,
    created, belongs⟩ := exists_step serialSchedule
      (deployed [unproven, failing, compensator "C" ["B"]] 5 ++
        settled 0 unproven .needsAttention ++ settled 0 failing .failed ++
        (.start ⟨.project "op" 0, 4⟩ :: steps 0 4))
      (.step 0)
      (fun now after => ∃ operation ∈ now.operations.values,
        (∃ job ∈ now.jobs.values, job.operationId = operation.operationId ∧
          job.status = .needsAttention) ∧
        ∃ planned ∈ operation.plannedJobs, planned.stepId ∈ compensationStepIds operation ∧
          ∃ job ∈ now.created after, job.IsFor operation.operationId 0 planned.stepId)
      (by decide +kernel)
  exact ⟨config, after, run, step, operation, stored, unknown, planned, member, compensates, job,
    created, 0, belongs⟩

end UntitledOJ
