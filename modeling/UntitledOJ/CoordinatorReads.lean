import UntitledOJ.OperationCoordinator
import UntitledOJ.OperationRecord

/-!
# What the coordinator learns from its reads

The decisions of a coordinator call only read jobs.  Each is specified once, for whatever replies
the reads may receive: alone those of one state, under interference those of several.
-/

namespace UntitledOJ

open Program List

def StoreCall.ReadsJob : StoreCall → Prop
  | .getJob _ => True
  | _ => False

theorem StoreCall.ReadsJob.exec_state [Digests] {request : StoreCall} (reads : request.ReadsJob)
    (stores : Stores) : (request.exec stores).2 = stores := by
  cases request <;> simp_all [StoreCall.ReadsJob, StoreCall.exec]

variable {recurse : PlannedJob → Coordinated Bool}

section

open StoreCall (ReadsJob)

variable {operation : DurableOperation} {planned : PlannedJob} (jobId : String) (fuel : Nat)

theorem getJob_readOnly : (getJob jobId).ReadOnly ReadsJob := ⟨trivial, fun _ => trivial⟩

theorem requiredJob_readOnly : (requiredJob jobId).ReadOnly ReadsJob := by
  refine (getJob_readOnly jobId).bind fun reply => ?_
  cases reply <;> trivial

theorem dependencyStatuses_readOnly (condition : PlannedJobCondition) (dependencies : List String) :
    (dependencyStatuses operation condition dependencies).ReadOnly ReadsJob := by
  induction dependencies with
  | nil => trivial
  | cons dependency rest ih =>
    simp only [dependencyStatuses]
    split
    · split_ifs
      · trivial
      · exact ih
    · exact (requiredJob_readOnly _).bind fun job => ih.bind fun statuses => trivial

theorem impossibleFrom_readOnly (each : ∀ step, (recurse step).ReadOnly ReadsJob)
    (observed : Bool) (dependencies : List String) :
    (impossibleFrom operation planned recurse observed dependencies).ReadOnly ReadsJob := by
  induction dependencies generalizing observed with
  | nil =>
    simp only [impossibleFrom]
    split <;> trivial
  | cons dependency rest ih =>
    simp only [impossibleFrom]
    split
    · refine (requiredJob_readOnly _).bind fun job => ?_
      split
      · split_ifs
        · trivial
        · exact ih _
      · split_ifs
        · trivial
        · trivial
        · exact ih _
    · split
      · trivial
      · refine (each _).bind fun impossible => ?_
        split_ifs
        · trivial
        · exact ih _
        · trivial
        · exact ih _

theorem plannedStepIsImpossible_readOnly (visiting : Finset String) (planned : PlannedJob) :
    (plannedStepIsImpossible operation fuel visiting planned).ReadOnly ReadsJob := by
  induction fuel generalizing visiting planned with
  | zero => trivial
  | succ fuel ih =>
    simp only [plannedStepIsImpossible]
    split_ifs
    · trivial
    · exact impossibleFrom_readOnly (fun step => ih _ step) _ _

theorem runningVerdict_readOnly : (runningVerdict operation planned).ReadOnly ReadsJob := by
  unfold runningVerdict
  split
  · split_ifs
    · trivial
    · refine (plannedStepIsImpossible_readOnly _ _ _).bind fun impossible => ?_
      split_ifs <;> trivial
    · trivial
  · exact (requiredJob_readOnly _).bind fun job => trivial

theorem hasMissingActiveJob_readOnly : (hasMissingActiveJob operation).ReadOnly ReadsJob := by
  refine readOnly_anyItem fun step => ?_
  split
  · exact (getJob_readOnly _).bind fun reply => trivial
  · trivial

theorem retryPending_readOnly (jobs : List PlannedJob) :
    (retryPending operation jobs).ReadOnly ReadsJob := by
  induction jobs with
  | nil => trivial
  | cons step rest ih =>
    simp only [retryPending]
    split
    · exact ih.bind fun others => trivial
    · refine (requiredJob_readOnly _).bind fun job => ?_
      split
      · exact ih.bind fun others => trivial
      · exact ih.bind fun others => trivial
      · exact ih
      all_goals trivial

variable [Digests]

theorem materializedJob_readOnly : (materializedJob operation planned).ReadOnly ReadsJob := by
  unfold materializedJob
  split
  · exact getJob_readOnly _
  · split_ifs
    · exact getJob_readOnly _
    · trivial

theorem stepHasMaterializedEvidence_readOnly (visiting : Finset String) (stepId : String) :
    (stepHasMaterializedEvidence operation fuel visiting stepId).ReadOnly ReadsJob := by
  induction fuel generalizing visiting stepId with
  | zero => trivial
  | succ fuel ih =>
    have descend (planned : PlannedJob) : (anyItem
        (stepHasMaterializedEvidence operation fuel (insert stepId visiting))
        planned.dependsOn).ReadOnly ReadsJob :=
      readOnly_anyItem fun dependency => ih _ dependency
    simp only [stepHasMaterializedEvidence]
    split
    · trivial
    · split
      · trivial
      · split_ifs
        · trivial
        · refine (getJob_readOnly _).bind fun reply => ?_
          split_ifs
          · trivial
          · exact descend _
        · exact descend _

theorem cancellationCompensationApplicable_readOnly :
    (cancellationCompensationApplicable operation planned).ReadOnly ReadsJob :=
  readOnly_anyItem fun dependency =>
    stepHasMaterializedEvidence_readOnly _ _ dependency

theorem forwardJobLive_readOnly : (forwardJobLive operation planned).ReadOnly ReadsJob := by
  unfold forwardJobLive
  split_ifs
  · trivial
  · refine materializedJob_readOnly.bind fun reply => ?_
    cases reply <;> trivial

theorem compensatorDependencyBlocks_readOnly (dependencyId : String) :
    (compensatorDependencyBlocks operation planned dependencyId).ReadOnly ReadsJob := by
  unfold compensatorDependencyBlocks
  split
  · trivial
  · refine materializedJob_readOnly.bind fun reply => ?_
    cases reply with
    | some job => trivial
    | none =>
      split_ifs
      · exact cancellationCompensationApplicable_readOnly
      · trivial

theorem cancellationCompensatorReady_readOnly :
    (cancellationCompensatorReady operation planned).ReadOnly ReadsJob := by
  refine cancellationCompensationApplicable_readOnly.bind fun applicable => ?_
  split_ifs
  · trivial
  · refine (readOnly_anyItem fun step => forwardJobLive_readOnly).bind fun live => ?_
    split_ifs
    · trivial
    · refine (readOnly_anyItem fun dependency =>
        compensatorDependencyBlocks_readOnly dependency).bind fun blocked => trivial

theorem plannedJobReady_readOnly : (plannedJobReady operation planned).ReadOnly ReadsJob := by
  unfold plannedJobReady
  split_ifs
  · exact cancellationCompensatorReady_readOnly
  · trivial
  · refine (dependencyStatuses_readOnly _ _).bind fun statuses => ?_
    cases statuses <;> trivial

theorem readySteps_readOnly (pending : List String) :
    (readySteps operation pending).ReadOnly ReadsJob := by
  induction pending with
  | nil => trivial
  | cons stepId rest ih =>
    simp only [readySteps]
    split_ifs
    · exact ih
    · split
      · trivial
      · exact plannedJobReady_readOnly.bind fun ready => ih.bind fun others => trivial

theorem cancellingVerdict_readOnly : (cancellingVerdict operation planned).ReadOnly ReadsJob := by
  refine materializedJob_readOnly.bind fun reply => ?_
  cases reply with
  | some job =>
    simp only
    split_ifs <;> trivial
  | none =>
    simp only
    split
    · trivial
    · split_ifs
      · trivial
      · refine cancellationCompensationApplicable_readOnly.bind fun applicable => ?_
        split_ifs <;> trivial
      · refine (plannedStepIsImpossible_readOnly _ _ _).bind fun impossible => ?_
        split_ifs <;> trivial
      · trivial

theorem deriveProjection_readOnly : (deriveProjection operation).ReadOnly ReadsJob := by
  unfold deriveProjection
  split_ifs
  · trivial
  · exact (readOnly_forEach fun step => cancellingVerdict_readOnly).bind fun verdicts => trivial
  · exact (readOnly_forEach fun step => runningVerdict_readOnly).bind fun verdicts => trivial

theorem cancellationHasActiveJobs_readOnly :
    (cancellationHasActiveJobs operation).ReadOnly ReadsJob := by
  refine readOnly_anyItem fun step => ?_
  refine materializedJob_readOnly.bind fun reply => ?_
  cases reply <;> trivial

@[reducible]
def Stores.Answers (stores : Stores) (request : StoreCall) (reply : request.Reply) : Prop :=
  reply = (request.exec stores).1

/-- What the program answers when it runs alone. -/
def Stores.reads {α : Type} (stores : Stores) (program : Coordinated α) : Except Abort α :=
  (program.eval StoreCall.exec stores).1

theorem Stores.yields_iff_reads {α : Type} {stores : Stores} {program : Coordinated α}
    (readOnly : program.ReadOnly ReadsJob) {outcome : Except Abort α} :
    program.Yields stores.Answers outcome ↔ stores.reads program = outcome :=
  readOnly.yields_iff_eval fun _ state isRead => isRead.exec_state state

end

section

variable {answers : (request : StoreCall) → request.Reply → Prop}
variable {operation : DurableOperation} {planned : PlannedJob} {jobId : String}

/-- The reads may show the active job of the step in this status. -/
def ShowsActive (answers : (request : StoreCall) → request.Reply → Prop)
    (operation : DurableOperation) (stepId : String) (status : JobStatus) : Prop :=
  ∃ binding job, operation.activeBinding stepId = some binding ∧
    answers (.getJob binding.jobId) (some job) ∧ job.status = status

theorem yields_getJob {reply : Option Job} :
    (getJob jobId).Yields answers (.ok reply) ↔ answers (.getJob jobId) reply := by
  constructor
  · rintro ⟨read, answered, same⟩
    cases same
    exact answered
  · intro answered
    exact ⟨reply, answered, rfl⟩

theorem yields_requiredJob {job : Job} :
    (requiredJob jobId).Yields answers (.ok job) ↔ answers (.getJob jobId) (some job) := by
  constructor
  · rintro ⟨reply, answered, rest⟩
    cases reply with
    | none => cases rest
    | some read =>
      cases rest
      exact answered
  · intro answered
    exact ⟨some job, answered, rfl⟩

variable {dependencies : List String} {visiting : Finset String} {observedFailure : Bool}
  {fuel : Nat}

theorem yields_dependencyStatuses {condition : PlannedJobCondition} {statuses : List JobStatus}
    (yielded : (dependencyStatuses operation condition dependencies).Yields answers
      (.ok (some statuses))) : (condition = .onSuccess → ∀ dependency ∈ dependencies,
        operation.activeBinding dependency ≠ none) ∧ List.Forall₂
        (fun binding status => ∃ job, answers (.getJob binding.jobId) (some job) ∧
          job.status = status) (dependencies.filterMap operation.activeBinding) statuses := by
  induction dependencies generalizing statuses with
  | nil =>
    cases yielded
    simp
  | cons dependency rest ih =>
    simp only [dependencyStatuses] at yielded
    split at yielded
    · rename_i unbound
      split_ifs at yielded with onSuccess
      · cases yielded
      · refine ⟨fun holds => absurd holds onSuccess, ?_⟩
        rw [filterMap_cons_none unbound]
        exact (ih yielded).2
    · rename_i binding active
      obtain ⟨job, read, later⟩ := yields_bind_ok.mp yielded
      obtain ⟨others, remaining, shape⟩ := yields_bind_ok.mp later
      cases others with
      | none => cases shape
      | some others =>
        cases shape
        obtain ⟨bound, paired⟩ := ih remaining
        constructor
        · intro onSuccess
          rw [forall_mem_cons]
          exact ⟨by simp [active], bound onSuccess⟩
        · rw [filterMap_cons_some active]
          exact .cons ⟨job, yields_requiredJob.mp read, rfl⟩ paired

theorem yields_ready_onFailure [Digests] (running : operation.status ≠ .cancelling)
    (onFailure : planned.condition = .onFailure) (guarded : planned.dependsOn ≠ [])
    {verdict : Bool} (yielded : (plannedJobReady operation planned).Yields answers (.ok verdict)) :
    ∃ statuses, verdict = statusesReady planned statuses ∧ List.Forall₂
        (fun binding status => ∃ job, answers (.getJob binding.jobId) (some job) ∧
          job.status = status) (planned.dependsOn.filterMap operation.activeBinding) statuses := by
  simp only [plannedJobReady, running, false_and, if_false, guarded] at yielded
  obtain ⟨read, statusesRead, shape⟩ := yields_bind_ok.mp yielded
  cases read with
  | none =>
    -- only an ON_SUCCESS step ends its scan early
    exfalso
    have noEarlyEnd : ∀ dependencies,
        ¬ (dependencyStatuses operation planned.condition dependencies).Yields answers
          (.ok none) := by
      intro dependencies
      induction dependencies with
      | nil => simp [dependencyStatuses]
      | cons dependency rest ih =>
        simp only [dependencyStatuses]
        split
        · rw [if_neg (by simp [onFailure])]
          exact ih
        · intro scanned
          obtain ⟨_, _, later⟩ := yields_bind_ok.mp scanned
          obtain ⟨others, remaining, ended⟩ := yields_bind_ok.mp later
          cases others with
          | none => exact ih remaining
          | some others => cases ended
    exact noEarlyEnd _ statusesRead
  | some statuses =>
    cases shape
    exact ⟨statuses, rfl, (yields_dependencyStatuses statusesRead).2⟩

theorem yields_ready_onSuccess [Digests] (onSuccess : planned.condition = .onSuccess)
    (yielded : (plannedJobReady operation planned).Yields answers (.ok true)) :
    ∀ dependency ∈ planned.dependsOn, ShowsActive answers operation dependency .succeeded := by
  intro dependency needed
  have guarded : planned.dependsOn ≠ [] := ne_nil_of_mem needed
  simp only [plannedJobReady, onSuccess, reduceCtorEq, and_false, if_false, guarded] at yielded
  obtain ⟨read, statusesRead, shape⟩ := yields_bind_ok.mp yielded
  cases read with
  | none => cases shape
  | some statuses =>
    obtain ⟨bound, paired⟩ := yields_dependencyStatuses statusesRead
    have succeeded : statusesReady planned statuses = true := by
      simpa using shape
    simp only [statusesReady, onSuccess, Bool.and_eq_true, all_eq_true,
      decide_eq_true_eq] at succeeded
    obtain ⟨binding, active⟩ := Option.ne_none_iff_exists'.mp (bound rfl dependency needed)
    obtain ⟨_, listed, job, answered, rfl⟩ := exists_partner paired binding
      (mem_filterMap.mpr ⟨dependency, needed, active⟩)
    exact ⟨binding, job, active, answered, succeeded.2 _ listed⟩

/-- The dependencies of a ready ON_FAILURE step have ended with known outcomes,
and one of them has failed. -/
theorem yields_ready_onFailure_true [Digests] (running : operation.status ≠ .cancelling)
    (onFailure : planned.condition = .onFailure) (guarded : planned.dependsOn ≠ [])
    (yielded : (plannedJobReady operation planned).Yields answers (.ok true)) :
    (∀ dependency ∈ planned.dependsOn, operation.activeBinding dependency ≠ none →
      ∃ status, ShowsActive answers operation dependency status ∧ status.isTerminal = true ∧
        status ≠ .needsAttention) ∧ ∃ dependency ∈ planned.dependsOn, ∃ status,
      ShowsActive answers operation dependency status ∧ status.isFailure = true := by
  obtain ⟨_, verdict, paired⟩ := yields_ready_onFailure running onFailure guarded yielded
  have ready := verdict.symm
  simp only [statusesReady, onFailure, Bool.and_eq_true, Bool.not_eq_true',
    contains_eq_mem, decide_eq_false_iff_not, all_eq_true, any_eq_true] at ready
  obtain ⟨⟨known, terminal⟩, worst, listed, failure⟩ := ready
  constructor
  · intro dependency needed bound
    obtain ⟨binding, active⟩ := Option.ne_none_iff_exists'.mp bound
    obtain ⟨_, present, job, answered, rfl⟩ := exists_partner paired binding
      (mem_filterMap.mpr ⟨dependency, needed, active⟩)
    refine ⟨job.status, ⟨binding, job, active, answered, rfl⟩, terminal _ present, ?_⟩
    intro unknown
    exact known (unknown ▸ present)
  · obtain ⟨binding, present, job, answered, rfl⟩ := exists_partner paired.flip worst listed
    obtain ⟨dependency, needed, active⟩ := mem_filterMap.mp present
    exact ⟨dependency, needed, job.status, ⟨binding, job, active, answered, rfl⟩, failure⟩

/-- What a retry starts over: the steps without a job and those whose active
job failed or was cancelled; the others succeeded. -/
theorem yields_retryPending {jobs : List PlannedJob} {pending : List String}
    (distinct : (jobs.map PlannedJob.stepId).Nodup)
    (yielded : (retryPending operation jobs).Yields answers (.ok pending)) :
    pending.Sublist (jobs.map PlannedJob.stepId) ∧ ∀ planned ∈ jobs,
        (operation.activeBinding planned.stepId = none ∧ planned.stepId ∈ pending) ∨
          ∃ status, ShowsActive answers operation planned.stepId status ∧
            ((planned.stepId ∈ pending ∧ status.isFailure = true) ∨
              (planned.stepId ∉ pending ∧ status = .succeeded)) := by
  induction jobs generalizing pending with
  | nil =>
    cases yielded
    simp
  | cons step rest ih =>
    rw [map_cons, nodup_cons] at distinct
    obtain ⟨fresh, distinctRest⟩ := distinct
    -- the verdict on a later step does not depend on whether this one restarts
    have lift {others : List String}
        (remaining : (retryPending operation rest).Yields answers (.ok others))
        {all : List String} (shape : all = step.stepId :: others ∨ all = others) :
        ∀ planned ∈ rest,
          (operation.activeBinding planned.stepId = none ∧ planned.stepId ∈ all) ∨
            ∃ status, ShowsActive answers operation planned.stepId status ∧
              ((planned.stepId ∈ all ∧ status.isFailure = true) ∨
                (planned.stepId ∉ all ∧ status = .succeeded)) := by
      intro planned member
      have different : planned.stepId ≠ step.stepId := by
        intro same
        exact fresh (same ▸ mem_map_of_mem member)
      have same : planned.stepId ∈ all ↔ planned.stepId ∈ others := by
        rcases shape with rfl | rfl
        · simp [different]
        · rfl
      rw [same]
      exact (ih distinctRest remaining).2 planned member
    simp only [retryPending] at yielded
    split at yielded
    · rename_i unbound
      obtain ⟨others, remaining, shape⟩ := yields_bind_ok.mp yielded
      cases shape
      refine ⟨(ih distinctRest remaining).1.cons_cons _, ?_⟩
      rw [forall_mem_cons]
      exact ⟨.inl ⟨unbound, mem_cons_self⟩, lift remaining (.inl rfl)⟩
    · rename_i binding active
      obtain ⟨job, read, later⟩ := yields_bind_ok.mp yielded
      have shown (status : JobStatus) (same : job.status = status) :
          ShowsActive answers operation step.stepId status :=
        ⟨binding, job, active, yields_requiredJob.mp read, same⟩
      cases status : job.status with
      | failed | cancelled =>
        simp only [status] at later
        obtain ⟨_, remaining, shape⟩ := yields_bind_ok.mp later
        cases shape
        refine ⟨(ih distinctRest remaining).1.cons_cons _, ?_⟩
        rw [forall_mem_cons]
        exact ⟨.inr ⟨_, shown _ status, .inl ⟨mem_cons_self, rfl⟩⟩, lift remaining (.inl rfl)⟩
      | succeeded =>
        simp only [status] at later
        have sublist := (ih distinctRest later).1
        refine ⟨sublist.cons _, ?_⟩
        rw [forall_mem_cons]
        exact ⟨.inr ⟨_, shown _ status, .inr ⟨fun member => fresh (sublist.subset member), rfl⟩⟩,
          lift later (.inr rfl)⟩
      | queued | leased | retryWait | cancelRequested | needsAttention =>
        simp only [status] at later
        cases later

theorem yields_readySteps [Digests] {pending ready : List String} (distinct : pending.Nodup)
    (yielded : (readySteps operation pending).Yields answers (.ok ready)) : ready.Sublist pending ∧
      ∀ stepId ∈ pending, (operation.status = .cancelling ∧ stepId ∉ compensationStepIds operation ∧
            stepId ∉ ready) ∨
          (operation.status = .cancelling → stepId ∈ compensationStepIds operation) ∧
          ∃ planned verdict, operation.findPlanned stepId = some planned ∧
            (plannedJobReady operation planned).Yields answers (.ok verdict) ∧
            (stepId ∈ ready ↔ verdict = true) := by
  induction pending generalizing ready with
  | nil =>
    cases yielded
    simp
  | cons stepId rest ih =>
    rw [nodup_cons] at distinct
    obtain ⟨fresh, distinctRest⟩ := distinct
    simp only [readySteps] at yielded
    split_ifs at yielded with frozen
    · obtain ⟨sublist, each⟩ := ih distinctRest yielded
      refine ⟨sublist.cons _, ?_⟩
      rw [forall_mem_cons]
      exact ⟨.inl ⟨frozen.1, frozen.2, fun member => fresh (sublist.subset member)⟩, each⟩
    · have considered : operation.status = .cancelling →
          stepId ∈ compensationStepIds operation := by
        intro cancelling
        by_contra outside
        exact frozen ⟨cancelling, outside⟩
      split at yielded
      · cases yielded
      · rename_i planned found
        obtain ⟨verdict, decided, later⟩ := yields_bind_ok.mp yielded
        obtain ⟨others, remaining, shape⟩ := yields_bind_ok.mp later
        obtain ⟨sublist, each⟩ := ih distinctRest remaining
        have notLater : stepId ∉ others := fun member => fresh (sublist.subset member)
        cases verdict with
        | false =>
          cases shape
          refine ⟨sublist.cons _, ?_⟩
          rw [forall_mem_cons]
          exact ⟨.inr ⟨considered, planned, false, found, decided, by simpa using notLater⟩, each⟩
        | true =>
          cases shape
          refine ⟨sublist.cons_cons _, ?_⟩
          rw [forall_mem_cons]
          refine ⟨.inr ⟨considered, planned, true, found, decided, by simp⟩, ?_⟩
          intro other member
          have different : other ≠ stepId := by
            rintro rfl
            exact fresh member
          simpa [different] using each other member

/-- An ON_SUCCESS step is impossible because of a dependency that ended without
success, or of one without a job that is impossible itself. -/
theorem yields_impossibleFrom_onSuccess (onSuccess : planned.condition = .onSuccess)
    (yielded : (impossibleFrom operation planned recurse observedFailure dependencies).Yields
      answers (.ok true)) : ∃ dependency ∈ dependencies,
      (∃ status, ShowsActive answers operation dependency status ∧ status.isTerminal = true ∧
        status ≠ .succeeded) ∨ (operation.activeBinding dependency = none ∧ ∃ source,
        operation.findPlanned dependency = some source ∧
          (recurse source).Yields answers (.ok true)) := by
  induction dependencies generalizing observedFailure with
  | nil =>
    simp only [impossibleFrom, onSuccess] at yielded
    cases yielded
  | cons dependency rest ih =>
    have later {observed : Bool}
        (remaining : (impossibleFrom operation planned recurse observed rest).Yields
          answers (.ok true)) :=
      (ih remaining).imp fun _ found => And.intro (mem_cons_of_mem dependency found.1) found.2
    simp only [impossibleFrom, onSuccess] at yielded
    split at yielded
    · rename_i binding active
      obtain ⟨job, read, decided⟩ := yields_bind_ok.mp yielded
      split_ifs at decided with ended
      · exact ⟨dependency, mem_cons_self, .inl ⟨job.status,
          ⟨binding, job, active, yields_requiredJob.mp read, rfl⟩, ended⟩⟩
      · exact later decided
    · rename_i unbound
      split at yielded
      · cases yielded
      · rename_i source found
        obtain ⟨verdict, decided, remaining⟩ := yields_bind_ok.mp yielded
        cases verdict with
        | true =>
          exact ⟨dependency, mem_cons_self, .inr ⟨unbound, source, found, decided⟩⟩
        | false => exact later (by simpa using remaining)

/-- An ON_FAILURE step is impossible because of a dependency of unknown outcome,
or because every dependency succeeded or is impossible itself. -/
theorem yields_impossibleFrom_onFailure (onFailure : planned.condition = .onFailure)
    (yielded : (impossibleFrom operation planned recurse observedFailure dependencies).Yields
      answers (.ok true)) :
    (∃ dependency ∈ dependencies, ShowsActive answers operation dependency .needsAttention) ∨
      observedFailure = false ∧ ∀ dependency ∈ dependencies,
        ShowsActive answers operation dependency .succeeded ∨
        (operation.activeBinding dependency = none ∧ ∃ source,
          operation.findPlanned dependency = some source ∧
            (recurse source).Yields answers (.ok true)) := by
  induction dependencies generalizing observedFailure with
  | nil =>
    simp only [impossibleFrom, onFailure] at yielded
    cases observedFailure with
    | false => exact .inr ⟨rfl, by simp⟩
    | true => cases yielded
  | cons dependency rest ih =>
    simp only [impossibleFrom, onFailure] at yielded
    split at yielded
    · rename_i binding active
      obtain ⟨job, read, decided⟩ := yields_bind_ok.mp yielded
      have shown : ShowsActive answers operation dependency job.status :=
        ⟨binding, job, active, yields_requiredJob.mp read, rfl⟩
      split_ifs at decided with live unknown
      · cases decided
      · exact .inl ⟨dependency, mem_cons_self, unknown ▸ shown⟩
      · rcases ih decided with ⟨other, member, attention⟩ | ⟨observed, others⟩
        · exact .inl ⟨other, mem_cons_of_mem _ member, attention⟩
        · rw [Bool.or_eq_false_iff] at observed
          have succeeded : job.status = .succeeded := by
            cases status : job.status <;>
              simp_all [JobStatus.isTerminal, JobStatus.isFailure]
          refine .inr ⟨observed.1, ?_⟩
          rw [forall_mem_cons]
          exact ⟨.inl (succeeded ▸ shown), others⟩
    · rename_i unbound
      split at yielded
      · cases yielded
      · rename_i source found
        obtain ⟨verdict, decided, remaining⟩ := yields_bind_ok.mp yielded
        cases verdict with
        | false => cases remaining
        | true =>
          rcases ih (by simpa using remaining) with ⟨other, member, attention⟩ |
            ⟨observed, others⟩
          · exact .inl ⟨other, mem_cons_of_mem _ member, attention⟩
          · refine .inr ⟨observed, ?_⟩
            rw [forall_mem_cons]
            exact ⟨.inr ⟨unbound, source, found, decided⟩, others⟩

theorem yields_impossible
    (yielded : (plannedStepIsImpossible operation fuel visiting planned).Yields answers
      (.ok true)) : ∃ fewer wider, fewer < fuel ∧ (impossibleFrom operation planned
        (plannedStepIsImpossible operation fewer wider) false planned.dependsOn).Yields answers
          (.ok true) := by
  cases fuel with
  | zero => cases yielded
  | succ fuel =>
    simp only [plannedStepIsImpossible] at yielded
    split_ifs at yielded
    · cases yielded
    · exact ⟨fuel, _, Nat.lt_succ_self fuel, yielded⟩

end

theorem yields_compensatorReady [Digests]
    (yielded : (cancellationCompensatorReady operation planned).Yields answers (.ok true)) :
    (∀ step ∈ operation.plannedJobs, (forwardJobLive operation step).Yields answers (.ok false)) ∧
      ∀ dependency ∈ planned.dependsOn,
        (compensatorDependencyBlocks operation planned dependency).Yields answers (.ok false) := by
  obtain ⟨applicable, _, rest⟩ := yields_bind_ok.mp yielded
  cases applicable with
  | false => cases rest
  | true =>
    obtain ⟨live, quiet, unblocked⟩ := yields_bind_ok.mp rest
    cases live with
    | true => cases unblocked
    | false =>
      obtain ⟨blocked, decided, shape⟩ := yields_bind_ok.mp unblocked
      cases blocked with
      | true => cases shape
      | false =>
        exact ⟨yields_anyItem_false.mp quiet, yields_anyItem_false.mp decided⟩

theorem yields_forwardJobLive [Digests] (forward : planned.stepId ∉ compensationStepIds operation)
    (yielded : (forwardJobLive operation planned).Yields answers (.ok false)) :
    ∃ reply, (materializedJob operation planned).Yields answers (.ok reply) ∧
      ∀ job ∈ reply, job.status.isTerminal = true := by
  simp only [forwardJobLive, if_neg forward] at yielded
  obtain ⟨reply, read, rest⟩ := yields_bind_ok.mp yielded
  refine ⟨reply, read, ?_⟩
  rintro job rfl
  simpa using rest

theorem yields_dependencyBlocks [Digests] {dependency : String} {source : PlannedJob}
    (found : operation.findPlanned dependency = some source)
    (yielded : (compensatorDependencyBlocks operation planned dependency).Yields answers
      (.ok false)) : ∃ reply, (materializedJob operation source).Yields answers (.ok reply) ∧
      ∀ job ∈ reply, job.status.isTerminal = true ∧ job.status ≠ .needsAttention := by
  simp only [compensatorDependencyBlocks, found] at yielded
  obtain ⟨reply, read, rest⟩ := yields_bind_ok.mp yielded
  refine ⟨reply, read, ?_⟩
  rintro job rfl
  simpa [and_comm] using rest

/-- The statuses under which an operation is over, with a known outcome. -/
def DurableOperationStatus.isFinal : DurableOperationStatus → Bool
  | .succeeded | .failed | .cancelled | .rolledBack => true
  | _ => false

variable {mode : DurableOperationMode} {statuses : List JobStatus} {pendingSuccess : Bool}

theorem aggregateStatus_hasStarted :
    (aggregateStatus mode statuses pendingSuccess).hasStarted = true := by
  unfold aggregateStatus
  split_ifs <;> (try cases mode) <;> rfl

theorem aggregateStatus_of_final
    (final : (aggregateStatus mode statuses pendingSuccess).isFinal = true) :
    ∀ status ∈ statuses, status.isTerminal = true ∧ status ≠ .needsAttention := by
  have settled (known : ¬ statuses.contains .needsAttention = true)
      (terminal : statuses.all JobStatus.isTerminal = true) :
      ∀ status ∈ statuses, status.isTerminal = true ∧ status ≠ .needsAttention := by
    intro status member
    refine ⟨all_eq_true.mp terminal status member, ?_⟩
    rintro rfl
    exact known (by simpa using member)
  unfold aggregateStatus at final
  split_ifs at final with attention success failed ended someFailed
  · cases final
  · simp only [Bool.and_eq_true, all_eq_true, decide_eq_true_eq] at success
    intro status member
    rw [success.2 status member]
    exact ⟨rfl, by simp⟩
  · exact settled attention (Bool.and_eq_true_iff.mp failed).2
  · exact settled attention (Bool.and_eq_true_iff.mp ended).1
  · exact settled attention (Bool.and_eq_true_iff.mp ended).1
  · cases final

theorem aggregateStatus_of_success
    (success : aggregateStatus mode statuses pendingSuccess = .succeeded ∨
      aggregateStatus mode statuses pendingSuccess = .rolledBack) :
    (∀ status ∈ statuses, status = .succeeded) ∧ pendingSuccess = false := by
  unfold aggregateStatus at success
  split_ifs at success with attention complete
  · simp at success
  · simpa [and_comm] using complete
  all_goals simp at success

variable {answers : (request : StoreCall) → request.Reply → Prop}
variable {operation : DurableOperation} {planned : PlannedJob} {projection : Projection}

theorem yields_runningVerdict {verdict : RunningVerdict}
    (yielded : (runningVerdict operation planned).Yields answers (.ok verdict)) :
    (operation.activeBinding planned.stepId = none ∧ (planned.condition = .onSuccess → ∃ impossible,
          (stepIsImpossible operation planned).Yields answers (.ok impossible) ∧
            (verdict.projection.status = .blocked ↔ impossible = false))) ∨
      ∃ binding job, operation.activeBinding planned.stepId = some binding ∧
        answers (.getJob binding.jobId) (some job) ∧ verdict = ⟨some job, jobProjection job⟩ := by
  unfold runningVerdict at yielded
  split at yielded
  · rename_i unbound
    split_ifs at yielded with pending onFailure
    · exact .inl ⟨unbound, by simp [onFailure]⟩
    · obtain ⟨impossible, decided, shape⟩ := yields_bind_ok.mp yielded
      refine .inl ⟨unbound, fun _ => ⟨impossible, decided, ?_⟩⟩
      cases impossible <;> cases shape <;> simp [joblessProjection]
    · cases yielded
  · rename_i binding active
    obtain ⟨job, read, shape⟩ := yields_bind_ok.mp yielded
    cases shape
    exact .inr ⟨binding, job, active, yields_requiredJob.mp read, rfl⟩

theorem running_verdict_of_bound {verdicts : List RunningVerdict}
    (yielded : (forEach (runningVerdict operation) operation.plannedJobs).Yields
      answers (.ok verdicts)) (member : planned ∈ operation.plannedJobs)
    (bound : operation.activeBinding planned.stepId ≠ none) :
    ∃ status ∈ (verdicts.filterMap RunningVerdict.job).map Job.status,
      ShowsActive answers operation planned.stepId status := by
  obtain ⟨_, present, decided⟩ := exists_yields_of_mem_items yielded planned member
  rcases yields_runningVerdict decided with ⟨unbound, _⟩ | ⟨binding, job, active, read, rfl⟩
  · exact absurd unbound bound
  · refine ⟨job.status, ?_, binding, job, active, read, rfl⟩
    exact mem_map_of_mem (mem_filterMap.mpr ⟨_, present, rfl⟩)

variable [Digests]

theorem yields_deriveRunning (calm : operation.attentionJobIds = [])
    (running : operation.status ≠ .cancelling)
    (yielded : (deriveProjection operation).Yields answers (.ok projection)) : ∃ verdicts,
      (forEach (runningVerdict operation) operation.plannedJobs).Yields answers (.ok verdicts) ∧
      projection.status = aggregateStatus operation.mode
        ((verdicts.filterMap RunningVerdict.job).map Job.status)
        (verdicts.any fun verdict => verdict.projection.status = .blocked) := by
  simp only [deriveProjection, calm, ne_eq, not_true_eq_false, if_false, running] at yielded
  obtain ⟨verdicts, each, shape⟩ := yields_bind_ok.mp yielded
  cases shape
  exact ⟨verdicts, each, rfl⟩

/-- What the cancelling projection finds at a step without a reason to wait or
to ask for attention. -/
structure CancellingVerdict.Settled (verdict : CancellingVerdict) : Prop where
  forward : verdict.forwardPending = false
  compensation : verdict.compensationPending = false
  attention : verdict.attentionReason = none

theorem yields_deriveCancelling (calm : operation.attentionJobIds = [])
    (cancelling : operation.status = .cancelling)
    (yielded : (deriveProjection operation).Yields answers (.ok projection)) : ∃ verdicts,
      (forEach (cancellingVerdict operation) operation.plannedJobs).Yields answers (.ok verdicts) ∧
      ((projection.status = .needsAttention ∧
          ∃ verdict ∈ verdicts, verdict.attentionReason ≠ none) ∨ (projection.status = .cancelling ∧
          (∀ verdict ∈ verdicts, verdict.attentionReason = none) ∧
          ∃ verdict ∈ verdicts, verdict.forwardPending = true ∨
            verdict.compensationPending = true) ∨
        (projection.status = .cancelled ∧ ∀ verdict ∈ verdicts, verdict.Settled)) := by
  simp only [deriveProjection, calm, ne_eq, not_true_eq_false, if_false, cancelling, if_true,
    deriveCancellingProjection] at yielded
  obtain ⟨verdicts, each, shape⟩ := yields_bind_ok.mp yielded
  cases shape
  refine ⟨verdicts, each, ?_⟩
  have quiet : verdicts.filterMap CancellingVerdict.attentionReason = [] ↔
      ∀ verdict ∈ verdicts, verdict.attentionReason = none := by
    simp
  by_cases reasons : ∀ verdict ∈ verdicts, verdict.attentionReason = none
  · rw [if_neg (by simpa using reasons)]
    by_cases waits : ∃ verdict ∈ verdicts, verdict.forwardPending = true ∨
        verdict.compensationPending = true
    · rw [if_pos (by simpa using waits)]
      exact .inr (.inl ⟨rfl, reasons, waits⟩)
    · rw [if_neg (by simpa using waits)]
      refine .inr (.inr ⟨rfl, ?_⟩)
      intro verdict member
      push Not at waits
      exact ⟨by simpa using (waits verdict member).1, by simpa using (waits verdict member).2,
        reasons verdict member⟩
  · rw [if_pos (by simpa using reasons)]
    refine .inl ⟨rfl, ?_⟩
    push Not at reasons
    exact reasons

theorem settled_verdict_of_bound {verdict : CancellingVerdict}
    (yielded : (cancellingVerdict operation planned).Yields answers (.ok verdict))
    (settled : verdict.Settled) {binding : JobBinding}
    (active : operation.activeBinding planned.stepId = some binding) :
    ∃ status, ShowsActive answers operation planned.stepId status ∧
      status.isTerminal = true ∧ status ≠ .needsAttention := by
  obtain ⟨reply, read, rest⟩ := yields_bind_ok.mp yielded
  simp only [materializedJob, active, yields_getJob] at read
  cases reply with
  | none =>
    simp only [active] at rest
    cases rest
    cases settled.attention
  | some job =>
    refine ⟨job.status, ⟨binding, job, active, read, rfl⟩, ?_⟩
    simp only at rest
    split_ifs at rest with compensates ended unknown
    · cases rest
      cases settled.attention
    · cases rest
      have terminal : job.status.isTerminal = true := by simpa using settled.compensation
      refine ⟨terminal, ?_⟩
      intro same
      exact ended (.inr (.inr same))
    · cases rest
      cases settled.attention
    · cases rest
      exact ⟨by simpa using settled.forward, unknown⟩

variable (yielded : (deriveProjection operation).Yields answers (.ok projection))
include yielded

/-- A projection reports a final status only when the active jobs of all steps
have ended with a known outcome. -/
theorem yields_deriveProjection_final (final : projection.status.isFinal = true) :
    ∀ planned ∈ operation.plannedJobs, operation.activeBinding planned.stepId ≠ none →
      ∃ status, ShowsActive answers operation planned.stepId status ∧
        status.isTerminal = true ∧ status ≠ .needsAttention := by
  intro planned member bound
  have calm : operation.attentionJobIds = [] := by
    by_contra attention
    simp only [deriveProjection, ne_eq, attention, not_false_eq_true, if_true] at yielded
    cases yielded
    cases final
  by_cases cancelling : operation.status = .cancelling
  · obtain ⟨verdicts, each, outcome⟩ := yields_deriveCancelling calm cancelling yielded
    obtain ⟨verdict, present, decided⟩ := exists_yields_of_mem_items each planned member
    rcases outcome with ⟨status, _⟩ | ⟨status, _⟩ | ⟨_, settled⟩
    · simp [status, DurableOperationStatus.isFinal] at final
    · simp [status, DurableOperationStatus.isFinal] at final
    · obtain ⟨_, active⟩ := Option.ne_none_iff_exists'.mp bound
      exact settled_verdict_of_bound decided (settled verdict present) active
  · obtain ⟨_, each, status⟩ := yields_deriveRunning calm cancelling yielded
    obtain ⟨shown, listed, shows⟩ := running_verdict_of_bound each member bound
    rw [status] at final
    exact ⟨shown, shows, aggregateStatus_of_final final shown listed⟩

/-- A projection reports success only when every active job has succeeded and
every other step of the forward path is impossible. -/
theorem yields_deriveProjection_success
    (success : projection.status = .succeeded ∨ projection.status = .rolledBack) :
    operation.status ≠ .cancelling ∧ ∀ planned ∈ operation.plannedJobs,
      (operation.activeBinding planned.stepId ≠ none →
        ShowsActive answers operation planned.stepId .succeeded) ∧
      (operation.activeBinding planned.stepId = none → planned.condition = .onSuccess →
        (stepIsImpossible operation planned).Yields answers (.ok true)) := by
  have calm : operation.attentionJobIds = [] := by
    by_contra attention
    simp only [deriveProjection, ne_eq, attention, not_false_eq_true, if_true] at yielded
    cases yielded
    simp at success
  have running : operation.status ≠ .cancelling := by
    intro cancelling
    obtain ⟨_, _, ⟨status, _⟩ | ⟨status, _⟩ | ⟨status, _⟩⟩ :=
      yields_deriveCancelling calm cancelling yielded
    all_goals simp [status] at success
  obtain ⟨_, each, status⟩ := yields_deriveRunning calm running yielded
  rw [status] at success
  obtain ⟨complete, nonePending⟩ := aggregateStatus_of_success success
  refine ⟨running, fun planned member => ⟨?_, ?_⟩⟩
  · intro bound
    obtain ⟨shown, listed, shows⟩ := running_verdict_of_bound each member bound
    rwa [complete shown listed] at shows
  · intro unbound onSuccess
    obtain ⟨verdict, present, decided⟩ := exists_yields_of_mem_items each planned member
    rcases yields_runningVerdict decided with ⟨_, reason⟩ | ⟨_, _, active, _⟩
    · obtain ⟨impossible, read, blocked⟩ := reason onSuccess
      cases impossible with
      | true => exact read
      | false =>
        have waits := any_eq_false.mp nonePending verdict present
        exact absurd (blocked.mpr rfl) (by simpa using waits)
    · simp [unbound] at active

theorem yields_deriveProjection_hasStarted : projection.status.hasStarted = true := by
  by_cases calm : operation.attentionJobIds = []
  · by_cases cancelling : operation.status = .cancelling
    · obtain ⟨_, _, ⟨status, _⟩ | ⟨status, _⟩ | ⟨status, _⟩⟩ :=
        yields_deriveCancelling calm cancelling yielded
      all_goals
        rw [status]
        rfl
    · obtain ⟨_, _, status⟩ := yields_deriveRunning calm cancelling yielded
      rw [status]
      exact aggregateStatus_hasStarted
  · simp only [deriveProjection, ne_eq, calm, not_false_eq_true, if_true] at yielded
    cases yielded
    rfl

end UntitledOJ
