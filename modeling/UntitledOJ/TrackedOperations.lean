import UntitledOJ.AtomicReads
import UntitledOJ.CoordinatorRuns

/-!
# What stored operations account for

In every run the records and the jobs answer for each other, and an operation whose jobs have
succeeded is complete or has a step that is ready.
-/

namespace UntitledOJ

open Platform Relation

/-- `compensation_step_ids` finds the steps that are reached from ON_FAILURE steps along
dependencies, and no others. -/
theorem mem_compensationStepIds_iff (operation : DurableOperation) (stepId : String) :
    stepId ∈ compensationStepIds operation ↔ ∃ root ∈ operation.plannedJobs,
      root.condition = .onFailure ∧
        ReflTransGen (Needs operation.plannedJobs) root.stepId stepId := by
  constructor
  · refine saturate_induction (motive := fun found => ∀ {stepId}, stepId ∈ found →
      ∃ root ∈ operation.plannedJobs, root.condition = .onFailure ∧
        ReflTransGen (Needs operation.plannedJobs) root.stepId stepId) ?_ ?_
    · intro stepId found
      simp only [List.mem_toFinset, List.mem_map, List.mem_filter, decide_eq_true_eq] at found
      obtain ⟨root, ⟨member, onFailure⟩, rfl⟩ := found
      exact ⟨root, member, onFailure, .refl⟩
    · intro planned member current reached enabled stepId found
      rcases Finset.mem_insert.mp found with rfl | earlier
      · simp only [List.any_eq_true, decide_eq_true_eq] at enabled
        obtain ⟨dependency, needed, compensates⟩ := enabled
        obtain ⟨root, rootMember, onFailure, path⟩ := reached compensates
        exact ⟨root, rootMember, onFailure, path.tail ⟨planned, member, rfl, needed⟩⟩
      · exact reached earlier
  · rintro ⟨root, member, onFailure, path⟩
    induction path with
    | refl => exact mem_compensation_of_onFailure member onFailure
    | tail _ needs ih =>
      obtain ⟨planned, plannedMember, rfl, needed⟩ := needs
      exact mem_compensation_of_dependency plannedMember needed ih

section

variable [Digests] {stores : Stores} {operation : DurableOperation} {planned : PlannedJob}

theorem yields_dependencyStatuses_succeeded {dependencies : List String}
    (succeeded : ∀ dependency ∈ dependencies, stores.ActiveStatus operation dependency .succeeded) :
    (dependencyStatuses operation .onSuccess dependencies).Yields stores.Answers
      (.ok (some (List.replicate dependencies.length .succeeded))) := by
  induction dependencies with
  | nil => rfl
  | cons dependency rest ih =>
    rw [List.forall_mem_cons] at succeeded
    obtain ⟨⟨binding, job, active, found, status⟩, others⟩ := succeeded
    simp only [dependencyStatuses, active]
    refine Program.yields_bind_ok.mpr ⟨job, yields_requiredJob.mpr found.symm,
      Program.yields_bind_ok.mpr ⟨_, ih others, ?_⟩⟩
    simp [status, List.replicate_succ]

theorem reads_ready_onSuccess (onSuccess : planned.condition = .onSuccess)
    (succeeded : ∀ dependency ∈ planned.dependsOn,
      stores.ActiveStatus operation dependency .succeeded) :
    stores.reads (plannedJobReady operation planned) = .ok true := by
  rw [← Stores.yields_iff_reads plannedJobReady_readOnly]
  simp only [plannedJobReady, onSuccess, reduceCtorEq, and_false, if_false]
  split_ifs
  · rfl
  · refine Program.yields_bind_ok.mpr ⟨_, yields_dependencyStatuses_succeeded succeeded, ?_⟩
    simp [statusesReady, onSuccess]

variable {permits : controlPlane.Discipline} {last : controlPlane.Config} {operationId : String}

/-- Once every active job has succeeded, the operation is complete, or some pending step is
ready: forward steps never wait for each other. -/
theorem completed_or_ready (run : Run permits startup last)
    (found : last.state.operations.get operationId = some operation)
    (succeeded : ∀ planned ∈ operation.plannedJobs, operation.activeBinding planned.stepId ≠ none →
        last.state.ActiveStatus operation planned.stepId .succeeded) :
    last.state.Completed operation ∨ ∃ planned ∈ operation.plannedJobs,
      planned.stepId ∈ operation.pendingStepIds ∧
        last.state.reads (plannedJobReady operation planned) = .ok true := by
  by_contra stuck
  push Not at stuck
  obtain ⟨incomplete, unready⟩ := stuck
  have wellFormed := ((run_sound run).record found).2
  obtain ⟨rank, ranked⟩ := wellFormed.graph.ranked
  refine incomplete ⟨succeeded, fun planned member forward unbound => ?_⟩
  -- by rank: the dependencies of a forward step are forward steps, and so they have jobs
  induction below : rank planned.stepId using Nat.strong_induction_on generalizing planned with
  | _ _ ih =>
    subst below
    apply unready planned member (wellFormed.pending_of_unbound member unbound)
    refine reads_ready_onSuccess (onSuccess_of_forward member forward) fun dependency needed => ?_
    obtain ⟨source, sourceMember, rfl⟩ := wellFormed.graph.known planned member _ needed
    refine succeeded source sourceMember fun missing => ?_
    exact ih _ ((ranked planned member).2 _ needed) source sourceMember (fun compensates =>
      forward (mem_compensation_of_dependency member needed compensates)) missing rfl

/-- A step without a binding is pending.  A bound step has the job that was planned for it, and the
jobs named by its older bindings all ended without success.  A job of an earlier generation ended
without success if its step is pending again and succeeded otherwise. -/
theorem planned_steps_accounted (run : Run permits startup last)
    (found : last.state.operations.get operationId = some operation)
    (member : planned ∈ operation.plannedJobs) :
    (operation.activeBinding planned.stepId = none → planned.stepId ∈ operation.pendingStepIds) ∧
      ∀ binding ∈ operation.activeBinding planned.stepId,
        (∀ older ∈ operation.jobBindings, older.stepId = planned.stepId → older ≠ binding →
          ∃ job ∈ last.state.jobs.get older.jobId, job.status.isFailure = true) ∧
        ∃ job ∈ last.state.jobs.get binding.jobId,
          job.identity = stepIdentity operationId binding.generation planned ∧
          (binding.generation < operation.generation →
            if planned.stepId ∈ operation.pendingStepIds then job.status.isFailure = true
            else job.status = .succeeded) := by
  have sound := run_sound run
  obtain ⟨rfl, wellFormed⟩ := sound.record found
  refine ⟨wellFormed.pending_of_unbound member, fun binding active => ?_⟩
  obtain ⟨present, named, newest⟩ := DurableOperation.activeBinding_some active
  constructor
  · intro older olderPresent olderNamed other
    have same := olderNamed.trans named.symm
    refine sound.superseded found older olderPresent binding present same ?_
    refine (newest older olderPresent olderNamed).lt_of_ne fun sameGeneration => ?_
    exact other (wellFormed.binding_unique olderPresent present same sameGeneration)
  · obtain ⟨job, stored, belongs⟩ := sound.bound found binding present
    rw [named] at belongs
    refine ⟨job, stored, sound.identity_of_isFor ⟨wellFormed, operation, found, .refl _⟩ member
      stored belongs, fun earlier => ?_⟩
    obtain ⟨_, ⟨_, _, again, storedAgain, rfl⟩, restarted, kept⟩ :=
      sound.closed found active earlier
    cases active.symm.trans again
    cases stored.symm.trans storedAgain
    split_ifs with pending
    · exact restarted pending
    · exact kept pending

end

open Scenario

theorem half_done_ready : ∃ last, Run anySchedule startup last ∧
    ∃ operation ∈ last.state.operations.get "op", operation.pendingStepIds = ["B"] ∧
      (last.state.Completed operation ∨ ∃ planned ∈ operation.plannedJobs,
        planned.stepId ∈ operation.pendingStepIds ∧
          last.state.reads (plannedJobReady operation planned) = .ok true) := by
  obtain ⟨last, run, operation, found, pending, succeeded⟩ := exists_run anySchedule
    (deployed [forward "A" [], forward "B" ["A"]] 4 ++ settled 0 (forward "A" []) .succeeded)
    (fun stores => ∃ operation ∈ stores.operations.get "op", operation.pendingStepIds = ["B"] ∧
      ∀ planned ∈ operation.plannedJobs, operation.activeBinding planned.stepId ≠ none →
        stores.ActiveStatus operation planned.stepId .succeeded) (by decide +kernel)
  exact ⟨last, run, operation, found, pending, completed_or_ready run found succeeded⟩

theorem retried_step_accounted : ∃ last, Run anySchedule startup last ∧
    ∃ operation ∈ last.state.operations.get "op", ∃ planned ∈ operation.plannedJobs,
      ∃ binding ∈ operation.activeBinding planned.stepId, ∃ older ∈ operation.jobBindings,
        older ≠ binding ∧ ∃ job ∈ last.state.jobs.get older.jobId, job.status.isFailure = true := by
  obtain ⟨last, run, operation, found, planned, member, binding, active, older, bound, named,
    other⟩ := exists_run anySchedule
      (deployed [forward "A" []] 4 ++ settled 0 (forward "A" []) .failed ++
        projected 3 ++ retried 5)
      (fun stores => ∃ operation ∈ stores.operations.get "op", ∃ planned ∈ operation.plannedJobs,
        ∃ binding ∈ operation.activeBinding planned.stepId, ∃ older ∈ operation.jobBindings,
          older.stepId = planned.stepId ∧ older ≠ binding) (by decide +kernel)
  exact ⟨last, run, operation, found, planned, member, binding, active, older, bound, other,
    ((planned_steps_accounted run found member).2 binding active).1 older bound named other⟩

end UntitledOJ
