import UntitledOJ.StoreInvariant

/-!
# Reads without interference

What the decisions of a coordinator call come to when all of them are read from
one state of the stores.
-/

namespace UntitledOJ

open List

variable [Digests]

/-- The job that `materialized_job` looks up. -/
def DurableOperation.materializedId (operation : DurableOperation) (planned : PlannedJob) :
    Option String :=
  match operation.activeBinding planned.stepId with
  | some binding => some binding.jobId
  | none =>
    if planned.stepId ∈ operation.pendingStepIds then some (bindingFor operation planned).jobId
    else none

def Stores.materialized (stores : Stores) (operation : DurableOperation) (planned : PlannedJob) :
    Option Job :=
  (operation.materializedId planned).bind stores.jobs.get

variable {stores : Stores} {operation : DurableOperation} {planned : PlannedJob}

theorem yields_materializedJob {reply : Option Job} :
    (materializedJob operation planned).Yields stores.Answers (.ok reply) ↔
      reply = stores.materialized operation planned := by
  unfold materializedJob Stores.materialized DurableOperation.materializedId
  cases operation.activeBinding planned.stepId with
  | some binding => exact yields_getJob
  | none =>
    by_cases pending : planned.stepId ∈ operation.pendingStepIds
    · simp only [pending, if_true, Option.bind_some]
      exact yields_getJob
    · simp [pending]

theorem Stores.materialized_of_active {binding : JobBinding}
    (active : operation.activeBinding planned.stepId = some binding) :
    stores.materialized operation planned = stores.jobs.get binding.jobId := by
  simp [materialized, DurableOperation.materializedId, active]

theorem exists_dependencyStatuses {dependencies : List String}
    (settled : ∀ dependency ∈ dependencies, operation.activeBinding dependency ≠ none →
      ∃ status, stores.ActiveStatus operation dependency status ∧ status.isTerminal = true ∧
        status ≠ .needsAttention) : ∃ statuses,
      (dependencyStatuses operation .onFailure dependencies).Yields stores.Answers
        (.ok (some statuses)) ∧
      (∀ status ∈ statuses, status.isTerminal = true ∧ status ≠ .needsAttention) ∧
      ∀ dependency ∈ dependencies, ∀ status,
        stores.ActiveStatus operation dependency status → status ∈ statuses := by
  induction dependencies with
  | nil => exact ⟨[], rfl, by simp, by simp⟩
  | cons dependency rest ih =>
    obtain ⟨statuses, yielded, ended, listed⟩ :=
      ih fun other member => settled other (mem_cons_of_mem _ member)
    cases active : operation.activeBinding dependency with
    | none =>
      refine ⟨statuses, by simpa [dependencyStatuses, active] using yielded, ended, ?_⟩
      rw [forall_mem_cons]
      exact ⟨fun status shown => absurd active shown.bound, listed⟩
    | some binding =>
      obtain ⟨status, shown, verdict⟩ := settled dependency mem_cons_self (by simp [active])
      refine ⟨status :: statuses, ?_, ?_, ?_⟩
      · obtain ⟨other, job, sameActive, found, rfl⟩ := shown
        rw [active] at sameActive
        cases sameActive
        simp only [dependencyStatuses, active]
        exact Program.yields_bind_ok.mpr ⟨job, yields_requiredJob.mpr found.symm,
          Program.yields_bind_ok.mpr ⟨some statuses, yielded, rfl⟩⟩
      · rw [forall_mem_cons]
        exact ⟨verdict, ended⟩
      · rw [forall_mem_cons]
        refine ⟨fun other otherShown => ?_, fun other member status shown =>
          mem_cons_of_mem _ (listed other member status shown)⟩
        rw [otherShown.unique shown]
        exact mem_cons_self

/-- An ON_FAILURE step is ready once its bound dependencies have ended and one
of them has failed. -/
theorem reads_ready_onFailure (running : operation.status ≠ .cancelling)
    (onFailure : planned.condition = .onFailure)
    (settled : ∀ dependency ∈ planned.dependsOn, operation.activeBinding dependency ≠ none →
      ∃ status, stores.ActiveStatus operation dependency status ∧ status.isTerminal = true ∧
        status ≠ .needsAttention)
    {dependency : String} (needed : dependency ∈ planned.dependsOn) {status : JobStatus}
    (shown : stores.ActiveStatus operation dependency status) (failure : status.isFailure = true) :
    stores.reads (plannedJobReady operation planned) = .ok true := by
  rw [← Stores.yields_iff_reads plannedJobReady_readOnly]
  have guarded : planned.dependsOn ≠ [] := ne_nil_of_mem needed
  obtain ⟨statuses, yielded, ended, listed⟩ := exists_dependencyStatuses settled
  simp only [plannedJobReady, running, false_and, if_false, guarded]
  rw [onFailure]
  refine Program.yields_bind_ok.mpr ⟨some statuses, yielded, ?_⟩
  have ready : statusesReady planned statuses = true := by
    simp only [statusesReady, onFailure, Bool.and_eq_true, Bool.not_eq_true', all_eq_true,
      any_eq_true]
    refine ⟨⟨?_, fun other member => (ended other member).1⟩, status,
      listed dependency needed status shown, failure⟩
    rw [Bool.eq_false_iff]
    intro contains
    exact (ended _ (contains_iff_mem.mp contains)).2 rfl
  simp only [ready]
  rfl

end UntitledOJ
