import UntitledOJ.AtomicReads
import UntitledOJ.FailureCompensation

/-!
# Compensation of a retried operation

`retry` opens a generation with the steps that failed or never ran.  A compensator that has
succeeded is not among them, so it is left out when the operation fails again.
-/

namespace UntitledOJ

open Platform

section

variable [Digests]

/-- A step stores a retried operation as failed, and an ON_FAILURE step whose
dependencies have ended, one of them with a failure of this generation, has no
job of this generation. -/
def Stores.LeavesOutCompensator (now after : Stores) : Prop :=
  ∃ before ∈ now.operations.values, ∃ next ∈ after.operations.get before.operationId,
    next.status = .failed ∧ next.revision ≠ before.revision ∧ 1 ≤ next.generation ∧
    ∃ planned ∈ next.plannedJobs, planned.condition = .onFailure ∧
      (∀ dependency ∈ planned.dependsOn, ∀ binding ∈ next.activeBinding dependency,
        ∃ job ∈ after.jobs.get binding.jobId,
          job.status.isTerminal = true ∧ job.status ≠ .needsAttention) ∧
      (∃ dependency ∈ planned.dependsOn, ∃ binding ∈ next.activeBinding dependency,
        binding.generation = next.generation ∧
        ∃ job ∈ after.jobs.get binding.jobId, job.status.isFailure = true) ∧
      ∀ job ∈ after.jobs.values, ¬ job.IsFor next.operationId next.generation planned.stepId
deriving Decidable

/-- The generation is raised only while no ON_FAILURE step has succeeded. -/
def RetriesBeforeCompensation (now after : Stores) : Prop :=
  ∀ before ∈ now.operations.values, ∀ next ∈ after.operations.get before.operationId,
    before.generation < next.generation →
    ∀ planned ∈ before.plannedJobs, planned.condition = .onFailure →
      ¬ now.ActiveStatus before planned.stepId .succeeded
deriving Decidable

/-- What a step must meet for retries to re-arm compensators. -/
def RearmsCompensators (loaded now after : Stores) : Prop :=
  RetriesBeforeCompensation now after ∧ EndsOverSeenDependencies loaded now after
deriving Decidable

/-- In a retried operation every ON_FAILURE step is pending or bound in the
current generation. -/
structure Stores.Rearmed (stores : Stores) : Prop where
  armed : ∀ {operationId operation}, stores.operations.get operationId = some operation →
    1 ≤ operation.generation → ∀ planned ∈ operation.plannedJobs,
      planned.condition = .onFailure →
      planned.stepId ∈ operation.pendingStepIds ∨
        ∃ binding ∈ operation.jobBindings, binding.stepId = planned.stepId ∧
          binding.generation = operation.generation

variable {loaded now after : Stores}

theorem rearmed_step (sound : now.Sound) (meets : RearmsCompensators loaded now after)
    (effect : Effect loaded now after) (rearmed : now.Rearmed) : after.Rearmed := by
  refine ⟨?_⟩
  intro operationId next found retried planned member onFailure
  rcases effect.record_cases found with unchanged | ⟨_, isNew, _⟩ |
    ⟨current, currentFound, accepts, update, _⟩
  · exact rearmed.armed unchanged retried planned member onFailure
  · have fresh := ((effect.sound sound).record found).2.unstarted (by rw [isNew]; rfl)
    omega
  · have evolves := update.evolves accepts.revision
    rw [evolves.plannedJobs] at member
    by_cases same : next.generation = current.generation
    · rcases rearmed.armed currentFound (same ▸ retried) planned member onFailure with
        pending | ⟨binding, present, step, _⟩
      · exact evolves.pending same _ pending
      · exact .inr ⟨binding, evolves.bindings binding present, step, by omega⟩
    · have raised : current.generation < next.generation := by
        have grows := evolves.generation
        omega
      have named := (sound.record currentFound).1
      have notSucceeded := meets.1 current (sound.mem_operations.mpr (named ▸ currentFound)) next
        (by rw [named]; exact found) raised planned member onFailure
      cases update with
      | moves work => exact absurd work.generation same
      | binds ready binding => exact absurd binding.generation same
      | reopens reopening _ each =>
        rcases each planned member with unbound | ⟨_, shown, restarted | kept⟩
        · exact .inl (reopening.unbound planned member unbound)
        · exact .inl restarted.1
        · exact absurd (kept.2 ▸ shown) notSucceeded

theorem rearmed_run {last : controlPlane.Config}
    (run : Run (stepsMeet RearmsCompensators) startup last) : last.state.Rearmed := by
  apply run_steps Relation.ReflTransGen.refl _ rearmed_step _ run
  · refine ⟨?_⟩
    intro operationId operation found
    simp [startup, Stores.empty, MemoryOperationStore.empty, MemoryOperationStore.get] at found
  · intro now jobs _ _ holds
    exact ⟨holds.armed⟩

/-- Retry re-arms compensation, in every run that retries operations before
their compensators have succeeded and ends them over dependencies which the
ending call had seen. -/
theorem retry_rearms_compensation {config next : controlPlane.Config}
    (run : Run (stepsMeet RearmsCompensators) startup config)
    (step : Step (stepsMeet RearmsCompensators) config next) :
    ¬ config.state.LeavesOutCompensator next.state := by
  rintro ⟨before, stored, failed, failedFound, status, revised, retried, planned, member,
    onFailure, settled, ⟨dependency, needed, binding, active, _, job, jobFound, failure⟩, missing⟩
  have sound := run_sound run
  have soundNext : next.state.Sound := run_sound (run.tail step)
  rcases (rearmed_run (run.tail step)).armed failedFound retried planned member onFailure with
    pending | ⟨bound, present, sameStep, current⟩
  · have ready : next.state.reads (plannedJobReady failed planned) = .ok true := by
      refine reads_ready_onFailure (by simp [status]) onFailure ?_ needed
        ⟨binding, job, active, jobFound, rfl⟩ failure
      intro other otherNeeded isBound
      obtain ⟨otherBinding, otherActive⟩ := Option.ne_none_iff_exists'.mp isBound
      obtain ⟨otherJob, otherFound, ended⟩ := settled other otherNeeded otherBinding otherActive
      exact ⟨otherJob.status, ⟨otherBinding, otherJob, otherActive, otherFound, rfl⟩, ended⟩
    have lost : config.state.LosesCompensation next.state :=
      ⟨before, stored, failed, failedFound, .inl ⟨status, revised⟩, planned, member, onFailure,
        pending, ready⟩
    rcases step_meets run step with ⟨jobs, _, same⟩ | ⟨_, earlier, meets, effect⟩
    · rw [same] at lost
      exact not_losesCompensation_of_jobs sound jobs lost
    · exact effect_keeps_compensation sound earlier meets.2 effect lost
  · obtain ⟨boundJob, boundFound, boundFor⟩ := soundNext.bound failedFound bound present
    refine missing boundJob (MemoryJobStore.mem_values.mpr ⟨_, boundFound⟩) ?_
    rw [← sameStep, ← current]
    exact boundFor

end

open Scenario

theorem failed_compensator_runs_again : ∃ config next,
      Run (stepsMeet RearmsCompensators) startup config ∧
      Step (stepsMeet RearmsCompensators) config next ∧
      (∃ operation ∈ next.state.operations.values, operation.status = .failed ∧
        operation.generation = 1) ∧ (∃ job ∈ next.state.jobs.values, job.IsFor "op" 1 "C") ∧
      ¬ config.state.LeavesOutCompensator next.state := by
  let failing := forward "A" []
  let compensating := compensator "C" ["A"]
  obtain ⟨config, next, run, step, failed, again⟩ := exists_step (stepsMeet RearmsCompensators)
    (deployed [failing, compensating] 4 ++ settled 0 failing .failed ++ projected 8 ++
      settled 0 compensating .failed ++ projected 4 ++ retried 8 ++ settled 1 failing .failed ++
      settled 1 compensating .succeeded ++ (.start ⟨.project "op" 0, 4⟩ :: steps 0 3))
    (.step 0)
    (fun _ after => (∃ operation ∈ after.operations.values, operation.status = .failed ∧
        operation.generation = 1) ∧
      ∃ job ∈ after.jobs.values, job.IsFor "op" 1 "C")
    (by decide +kernel)
  exact ⟨config, next, run, step, failed, again, retry_rearms_compensation run step⟩

/-- `C` has undone the first attempt at `A`.  The retry fails again, and `C` is
not run again. -/
theorem succeeded_compensator_left_out : ∃ config next, Run serialSchedule startup config ∧
      Step serialSchedule config next ∧ config.state.LeavesOutCompensator next.state := by
  let failing := forward "A" []
  let compensating := compensator "C" ["A"]
  exact exists_step serialSchedule
    (deployed [failing, compensating] 4 ++ settled 0 failing .failed ++ projected 8 ++
      settled 0 compensating .succeeded ++ projected 4 ++ retried 6 ++
      settled 1 failing .failed ++ (.start ⟨.project "op" 0, 4⟩ :: steps 0 3))
    (.step 0) Stores.LeavesOutCompensator (by decide +kernel)

end UntitledOJ
