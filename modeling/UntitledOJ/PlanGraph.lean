import Mathlib.Data.Fintype.Order
import UntitledOJ.DurableOperation
import UntitledOJ.Transactions

/-!
# The dependency graph of a validated plan

`validate_plan` accepts a plan only when its steps are distinct, every dependency is a planned step,
and the dependencies can be resolved round by round.  So a rank decreases along dependencies.
-/

namespace UntitledOJ

open PlannedJob List

/-- What `validate_plan` establishes of the planned jobs. -/
structure PlanGraph (jobs : List PlannedJob) : Prop where
  distinct : (jobs.map PlannedJob.stepId).Nodup
  named : ∀ job ∈ jobs,
    isBlank job.stepId = false ∧ isBlank job.nodeId = false ∧ job.maxAttempts ≠ 0
  known : ∀ job ∈ jobs, ∀ dependency ∈ job.dependsOn,
    ∃ source ∈ jobs, source.stepId = dependency
  guarded : ∀ job ∈ jobs, job.condition = .onFailure → job.dependsOn ≠ []
  ranked : ∃ rank : String → Nat, ∀ job ∈ jobs, rank job.stepId < jobs.length ∧
    ∀ dependency ∈ job.dependsOn, rank dependency < rank job.stepId

/-- A step with this id depends on the other. -/
def Needs (jobs : List PlannedJob) (dependency stepId : String) : Prop :=
  ∃ job ∈ jobs, job.stepId = stepId ∧ dependency ∈ job.dependsOn

/-- A well-formed plan, but for cycles of its dependencies. -/
structure PlanOperation.Shaped (plan : PlanOperation) : Prop where
  identified : isBlank plan.operationId = false ∧ isBlank plan.action = false ∧
    isBlank plan.targetType = false ∧ isBlank plan.targetId = false
  nonempty : plan.jobs ≠ []
  named : ∀ job ∈ plan.jobs,
    isBlank job.stepId = false ∧ isBlank job.nodeId = false ∧ job.maxAttempts ≠ 0
  distinct : (plan.jobs.map PlannedJob.stepId).Nodup
  dependencies : ∀ job ∈ plan.jobs, job.dependsOn.Nodup ∧ ∀ dependency ∈ job.dependsOn,
    dependency ≠ job.stepId ∧ ∃ source ∈ plan.jobs, source.stepId = dependency
  guarded : ∀ job ∈ plan.jobs, job.condition = .onFailure → job.dependsOn ≠ []

/-- No step needs itself. -/
def PlanOperation.Acyclic (plan : PlanOperation) : Prop :=
  ∀ stepId, ¬ Relation.TransGen (Needs plan.jobs) stepId stepId

variable {jobs : List PlannedJob} {stepIds resolved : Finset String}

private theorem checkPlannedSteps_iff {found : Finset String} :
    checkPlannedSteps stepIds jobs = .ok found ↔
      found = stepIds ∪ (jobs.map PlannedJob.stepId).toFinset ∧ (jobs.map PlannedJob.stepId).Nodup ∧
        ∀ job ∈ jobs, job.stepId ∉ stepIds ∧
          isBlank job.stepId = false ∧ isBlank job.nodeId = false ∧ job.maxAttempts ≠ 0 := by
  induction jobs generalizing stepIds with
  | nil =>
    simp only [checkPlannedSteps, Except.ok.injEq, map_nil, toFinset_nil, Finset.union_empty,
      nodup_nil, not_mem_nil, false_imp_iff, implies_true, and_true]
    exact eq_comm
  | cons job rest ih =>
    simp only [checkPlannedSteps, map_cons, toFinset_cons, nodup_cons, forall_mem_cons,
      Finset.union_insert]
    split_ifs with blank attempts duplicate
    · grind
    · grind
    · grind
    · rw [ih]
      grind

private theorem checkDependencies_iff {seen : Finset String} {job : PlannedJob}
    {dependencies : List String} : checkDependencies stepIds job seen dependencies = .ok () ↔
      dependencies.Nodup ∧ ∀ dependency ∈ dependencies, dependency ∉ seen ∧
        dependency ≠ job.stepId ∧ dependency ∈ stepIds := by
  induction dependencies generalizing seen with
  | nil => simp [checkDependencies]
  | cons dependency rest ih =>
    simp only [checkDependencies, nodup_cons, forall_mem_cons]
    split_ifs with unknown repeated
    · grind
    · grind
    · rw [ih]
      grind

private theorem checkPlannedDependencies_iff : checkPlannedDependencies stepIds jobs = .ok () ↔
      ∀ job ∈ jobs, (job.dependsOn.Nodup ∧ ∀ dependency ∈ job.dependsOn,
        dependency ∉ (∅ : Finset String) ∧ dependency ≠ job.stepId ∧ dependency ∈ stepIds) ∧
      (job.condition = .onFailure → job.dependsOn ≠ []) := by
  induction jobs with
  | nil => simp [checkPlannedDependencies]
  | cons job rest ih =>
    rw [forall_mem_cons, ← ih, ← checkDependencies_iff]
    simp only [checkPlannedDependencies]
    cases checkDependencies stepIds job ∅ job.dependsOn with
    | error error => simp [bind, Except.bind]
    | ok _ =>
      simp only [bind, Except.bind]
      split_ifs with unguarded
      · simp [unguarded]
      · simpa using fun _ onFailure none => unguarded ⟨onFailure, none⟩

private theorem validatePlan_iff_shaped {plan : PlanOperation} : validatePlan plan = .ok () ↔
      plan.Shaped ∧ resolveLoop plan.jobs (plan.jobs.length + 1) ∅ = some (.ok ()) := by
  constructor
  · intro accepted
    simp only [validatePlan] at accepted
    split_ifs at accepted with blank empty
    obtain ⟨_, steps, passed⟩ := ok_of_bind accepted
    obtain ⟨_, dependencies, resolves⟩ := ok_of_bind passed
    obtain ⟨rfl, distinct, named⟩ := checkPlannedSteps_iff.mp steps
    have checked := checkPlannedDependencies_iff.mp dependencies
    refine ⟨⟨by simpa [not_or, and_assoc] using blank, empty,
      fun job member => (named job member).2, distinct, ?_,
      fun job member => (checked job member).2⟩, Option.eq_some_iff_get_eq.mpr ⟨_, resolves⟩⟩
    intro job member
    simpa using (checked job member).1
  · rintro ⟨shaped, resolved⟩
    have steps := checkPlannedSteps_iff.mpr ⟨rfl, shaped.distinct, fun job member =>
      ⟨Finset.notMem_empty _, shaped.named job member⟩⟩
    have dependencies : checkPlannedDependencies (∅ ∪ (plan.jobs.map stepId).toFinset)
        plan.jobs = .ok () := by
      refine checkPlannedDependencies_iff.mpr fun job member => ⟨?_, shaped.guarded job member⟩
      simpa using shaped.dependencies job member
    simp only [validatePlan, shaped.identified, shaped.nonempty, Bool.or_self, if_false, steps,
      dependencies, bind, Except.bind, Bool.false_eq_true]
    exact Option.get_of_eq_some _ resolved

private theorem resolvePass_ranked
    (ranked : ∃ rank, Ranked PlannedJob.stepId PlannedJob.dependsOn jobs resolved rank) :
    ∃ rank, Ranked PlannedJob.stepId PlannedJob.dependsOn jobs (resolvePass jobs resolved)
      rank := by
  apply saturatePass_induction (motive := fun current =>
    ∃ rank, Ranked stepId dependsOn jobs current rank) ranked
  intro job member current ranking enabled
  simp only [Bool.and_eq_true, decide_eq_true_eq, all_eq_true] at enabled
  obtain ⟨rank, before⟩ := ranking
  exact ⟨_, before.insert member enabled.1 enabled.2⟩

/-- A round of an acyclic plan that resolves nothing has resolved everything. -/
private theorem resolvePass_complete (known : ∀ job ∈ jobs, ∀ dependency ∈ job.dependsOn,
      ∃ source ∈ jobs, source.stepId = dependency)
    (acyclic : ∀ stepId, ¬ Relation.TransGen (Needs jobs) stepId stepId)
    (stuck : resolvePass jobs resolved = resolved) : ∀ job ∈ jobs, job.stepId ∈ resolved := by
  let below (first second : {job // job ∈ jobs}) : Prop :=
    Relation.TransGen (Needs jobs) first.1.stepId second.1.stepId
  have : Std.Irrefl below := ⟨fun step => acyclic step.1.stepId⟩
  have founded : WellFounded below := Finite.wellFounded_of_trans_of_irrefl below
  intro job member
  refine founded.induction (C := fun step => step.1.stepId ∈ resolved) ⟨job, member⟩ ?_
  rintro ⟨job, member⟩ ih
  by_contra unresolved
  refine unresolved (mem_of_saturatePass_eq stuck job member ?_)
  simp only [unresolved, not_false_eq_true, decide_true, Bool.true_and, all_eq_true,
    decide_eq_true_eq]
  intro dependency needed
  obtain ⟨source, inside, rfl⟩ := known job member dependency needed
  exact ih ⟨source, inside⟩ (.single ⟨job, member, rfl, needed⟩)

/-- How the loop ends: with as many resolved steps as jobs, or with a round that resolves
nothing. -/
private theorem resolveLoop_ends {fuel : Nat} (contained : resolved ⊆ (jobs.map stepId).toFinset)
    (ranked : ∃ rank, Ranked PlannedJob.stepId PlannedJob.dependsOn jobs resolved rank)
    (enough : jobs.length < resolved.card + fuel) : ∃ last ⊆ (jobs.map stepId).toFinset,
      (∃ rank, Ranked PlannedJob.stepId PlannedJob.dependsOn jobs last rank) ∧
      ((last.card = jobs.length ∧ ∀ more, resolveLoop jobs (fuel + more) resolved = some (.ok ())) ∨
        last.card ≠ jobs.length ∧ resolvePass jobs last = last ∧
          ∀ more, resolveLoop jobs (fuel + more) resolved = some (.error
            (.invalidPlan "planned job dependency graph contains a cycle"))) := by
  induction fuel generalizing resolved with
  | zero =>
    have atMost := (Finset.card_le_card contained).trans (toFinset_card_le _)
    simp only [length_map] at atMost
    omega
  | succ fuel ih =>
    have within := resolvePass_subset contained
    have ranking := resolvePass_ranked ranked
    have grows : resolved.card ≤ (resolvePass jobs resolved).card :=
      Finset.card_le_card (subset_saturatePass jobs resolved)
    simp only [Nat.succ_add, resolveLoop]
    by_cases all : (resolvePass jobs resolved).card = jobs.length
    · exact ⟨_, within, ranking, .inl ⟨all, fun _ => if_pos all⟩⟩
    · simp only [if_neg all]
      by_cases stuck : (resolvePass jobs resolved).card = resolved.card
      · have same := saturatePass_eq_of_card_eq stuck
        exact ⟨resolved, contained, ranked, .inr ⟨stuck ▸ all, same, fun _ => if_pos stuck⟩⟩
      · simp only [if_neg stuck]
        exact ih within ranking (by omega)

private theorem eq_of_card {complete : Finset String} (distinct : (jobs.map stepId).Nodup)
    (contained : complete ⊆ (jobs.map stepId).toFinset) (card : complete.card = jobs.length) :
    complete = (jobs.map stepId).toFinset := by
  apply Finset.eq_of_subset_of_card_le contained
  rw [toFinset_card_of_nodup distinct, card, length_map]

theorem planGraph_of_validatePlan {plan : PlanOperation} (accepted : validatePlan plan = .ok ()) :
    PlanGraph plan.jobs ∧ isBlank plan.operationId = false := by
  obtain ⟨shaped, resolves⟩ := validatePlan_iff_shaped.mp accepted
  refine ⟨⟨shaped.distinct, shaped.named, fun job member dependency needed =>
    ((shaped.dependencies job member).2 dependency needed).2, shaped.guarded, ?_⟩,
    shaped.identified.1⟩
  obtain ⟨last, contained, ⟨rank, ranked⟩, ⟨card, _⟩ | ⟨_, _, cyclic⟩⟩ :=
    resolveLoop_ends (Finset.empty_subset (plan.jobs.map stepId).toFinset)
      ⟨fun _ => 0, ranked_empty _ _⟩ (Nat.lt_add_left _ (Nat.lt_succ_self _))
  · refine ⟨rank, fun job member => ?_⟩
    have present : job.stepId ∈ last := by
      rw [eq_of_card shaped.distinct contained card]
      exact mem_toFinset.mpr (mem_map_of_mem member)
    obtain ⟨below, source, sourceMember, same, lower⟩ := ranked _ present
    obtain rfl := inj_on_of_nodup_map shaped.distinct sourceMember member same
    exact ⟨card ▸ below, fun dependency needed => (lower dependency needed).2⟩
  · cases resolves.symm.trans (cyclic 0)

/-- A plan is accepted exactly when it is a well-formed DAG, and the resolution of any plan's
dependencies ends within a round for every job, and one more: more rounds end in the same way. -/
theorem validatePlan_iff (plan : PlanOperation) :
    (validatePlan plan = .ok () ↔ plan.Shaped ∧ plan.Acyclic) ∧
      ∃ outcome, ∀ more,
        resolveLoop plan.jobs (plan.jobs.length + 1 + more) ∅ = some outcome := by
  obtain ⟨last, contained, _, ends⟩ :=
    resolveLoop_ends (Finset.empty_subset (plan.jobs.map stepId).toFinset)
      ⟨fun _ => 0, ranked_empty _ _⟩ (Nat.lt_add_left _ (Nat.lt_succ_self _))
  refine ⟨⟨fun accepted => ⟨(validatePlan_iff_shaped.mp accepted).1, ?_⟩, ?_⟩, ?_⟩
  · obtain ⟨rank, ranked⟩ := (planGraph_of_validatePlan accepted).1.ranked
    have lower {first second : String} (path : Relation.TransGen (Needs plan.jobs) first second) :
        rank first < rank second := by
      induction path with
      | single needs =>
        obtain ⟨job, member, rfl, needed⟩ := needs
        exact (ranked job member).2 _ needed
      | tail _ needs ih =>
        obtain ⟨job, member, rfl, needed⟩ := needs
        exact ih.trans ((ranked job member).2 _ needed)
    exact fun stepId cycle => (lower cycle).false
  · rintro ⟨shaped, acyclic⟩
    refine validatePlan_iff_shaped.mpr ⟨shaped, ?_⟩
    rcases ends with ⟨_, resolves⟩ | ⟨partly, stuck, _⟩
    · exact resolves 0
    · have all := resolvePass_complete (fun job member dependency needed =>
        ((shaped.dependencies job member).2 dependency needed).2) acyclic stuck
      refine absurd ?_ partly
      rw [← length_map (f := stepId), ← toFinset_card_of_nodup shaped.distinct]
      congr 1
      refine contained.antisymm fun name named => ?_
      obtain ⟨job, member, rfl⟩ := mem_map.mp (mem_toFinset.mp named)
      exact all job member
  · rcases ends with ⟨_, resolves⟩ | ⟨_, _, cyclic⟩
    · exact ⟨_, resolves⟩
    · exact ⟨_, cyclic⟩

namespace PlanGraph

variable (graph : PlanGraph jobs)
include graph

theorem eq_of_stepId {first second : PlannedJob} (firstMember : first ∈ jobs)
    (secondMember : second ∈ jobs) (same : first.stepId = second.stepId) : first = second :=
  inj_on_of_nodup_map graph.distinct firstMember secondMember same

end PlanGraph

variable {operation : DurableOperation} {planned : PlannedJob}

theorem findPlanned_some {stepId : String} (found : operation.findPlanned stepId = some planned) :
    planned ∈ operation.plannedJobs ∧ planned.stepId = stepId := by
  constructor
  · exact mem_of_find?_eq_some found
  · simpa using find?_some found

theorem findPlanned_stepId (graph : PlanGraph operation.plannedJobs)
    (member : planned ∈ operation.plannedJobs) :
    operation.findPlanned planned.stepId = some planned := by
  cases found : operation.findPlanned planned.stepId with
  | none =>
    have absent := find?_eq_none.mp found planned member
    simp at absent
  | some other =>
    obtain ⟨otherMember, same⟩ := findPlanned_some found
    rw [graph.eq_of_stepId otherMember member same]

theorem mem_compensation_of_onFailure
    (member : planned ∈ operation.plannedJobs) (onFailure : planned.condition = .onFailure) :
    planned.stepId ∈ compensationStepIds operation := by
  apply subset_saturate
  simp only [mem_toFinset, mem_map, mem_filter, decide_eq_true_eq]
  exact ⟨planned, ⟨member, onFailure⟩, rfl⟩

theorem onSuccess_of_forward (member : planned ∈ operation.plannedJobs)
    (forward : planned.stepId ∉ compensationStepIds operation) :
    planned.condition = .onSuccess := by
  cases condition : planned.condition with
  | onSuccess => rfl
  | onFailure => exact absurd (mem_compensation_of_onFailure member condition) forward

theorem mem_compensation_of_dependency (member : planned ∈ operation.plannedJobs)
    {dependency : String} (needed : dependency ∈ planned.dependsOn)
    (compensates : dependency ∈ compensationStepIds operation) :
    planned.stepId ∈ compensationStepIds operation := by
  let names := (operation.plannedJobs.map stepId).toFinset
  apply mem_saturate_of_enabled names
  · intro item itemMember
    exact mem_toFinset.mpr (mem_map_of_mem itemMember)
  · intro name present
    simp only [mem_toFinset, mem_map, mem_filter] at present
    obtain ⟨_, ⟨rootMember, _⟩, rfl⟩ := present
    exact mem_toFinset.mpr (mem_map_of_mem rootMember)
  · have atMost : names.card ≤ operation.plannedJobs.length := by
      simpa using toFinset_card_le (operation.plannedJobs.map stepId)
    omega
  · exact member
  · simp only [any_eq_true, decide_eq_true_eq]
    exact ⟨dependency, needed, compensates⟩

end UntitledOJ
