import UntitledOJ.JobEvolution
import UntitledOJ.MemoryOperationStore
import UntitledOJ.PlanGraph

/-!
# Operation records

What every stored operation record satisfies, how a record evolves, and what the operation store
does to it.  The idempotency key tells the generation and the step of a job.
-/

namespace UntitledOJ

open List

variable {bindings : List JobBinding}

theorem newestBinding_eq_none : newestBinding bindings = none ↔ bindings = [] := by
  cases bindings with
  | nil => simp [newestBinding]
  | cons binding rest =>
    simp only [newestBinding, reduceCtorEq, iff_false]
    split
    · split_ifs <;> simp
    · simp

theorem newestBinding_some {newest : JobBinding} (found : newestBinding bindings = some newest) :
    newest ∈ bindings ∧ ∀ other ∈ bindings, other.generation ≤ newest.generation := by
  induction bindings generalizing newest with
  | nil => cases found
  | cons binding rest ih =>
    simp only [newestBinding] at found
    cases best : newestBinding rest with
    | none =>
      rw [best] at found
      cases found
      rw [newestBinding_eq_none.mp best]
      simp
    | some candidate =>
      rw [best] at found
      obtain ⟨member, dominates⟩ := ih best
      simp only at found
      split_ifs at found with older
      · cases found
        refine ⟨mem_cons_of_mem _ member, ?_⟩
        intro other present
        rcases mem_cons.mp present with rfl | later
        · exact older
        · exact dominates other later
      · cases found
        refine ⟨mem_cons_self, ?_⟩
        intro other present
        rcases mem_cons.mp present with rfl | later
        · exact le_rfl
        · have below := dominates other later
          omega

namespace DurableOperation

variable {operation : DurableOperation} {stepId : String} {binding : JobBinding}

theorem activeBinding_eq_none : operation.activeBinding stepId = none ↔
      ∀ binding ∈ operation.jobBindings, binding.stepId ≠ stepId := by
  simp [activeBinding, newestBinding_eq_none, filter_eq_nil_iff]

theorem activeBinding_some (active : operation.activeBinding stepId = some binding) :
    binding ∈ operation.jobBindings ∧ binding.stepId = stepId ∧
      ∀ other ∈ operation.jobBindings, other.stepId = stepId →
        other.generation ≤ binding.generation := by
  obtain ⟨member, dominates⟩ := newestBinding_some active
  simp only [mem_filter, decide_eq_true_eq] at member
  refine ⟨member.1, member.2, ?_⟩
  intro other present same
  exact dominates other (mem_filter.mpr ⟨present, by simpa using same⟩)

theorem activeBinding_isSome (member : binding ∈ operation.jobBindings) :
    ∃ active, operation.activeBinding binding.stepId = some active := by
  cases active : operation.activeBinding binding.stepId with
  | none => exact absurd rfl (activeBinding_eq_none.mp active binding member)
  | some other => exact ⟨other, rfl⟩

end DurableOperation

/-- The identity of the job of a planned step in one generation. -/
def stepIdentity [Digests] (operationId : String) (generation : Nat) (planned : PlannedJob) :
    JobIdentity :=
  { jobId := (bindingAt operationId generation planned).jobId
    operationId
    nodeId := planned.nodeId
    kind := planned.kind
    payloadSha256 := canonicalPayloadSha256 planned.payload
    idempotencyKey := stepIdempotencyKey operationId generation planned.stepId }

theorem notMem_digits {separator : Char} (other : separator.isDigit = false) (number : Nat) :
    separator ∉ Nat.toDigits 10 number := by
  intro member
  have digit := Nat.isDigit_of_mem_toDigits (by omega : 0 < 10) (by omega) member
  simp [other] at digit

theorem toDigits_inj {first second : Nat} (same : Nat.toDigits 10 first = Nat.toDigits 10 second) :
    first = second := by
  have parsed := congrArg (fun digits => Nat.ofDigitChars 10 digits 0) same
  simpa [Nat.ofDigitChars_ten_toDigits] using parsed

theorem append_separator_inj {separator : Char} {first second firstRest secondRest : List Char}
    (firstFree : separator ∉ first) (secondFree : separator ∉ second)
    (same : first ++ separator :: firstRest = second ++ separator :: secondRest) :
    first = second ∧ firstRest = secondRest := by
  rcases append_eq_append_iff.mp same with ⟨middle, rfl, rests⟩ | ⟨middle, rfl, rests⟩
  · cases middle with
    | nil => simpa using rests
    | cons character middle => simp_all
  · cases middle with
    | nil => simpa [eq_comm] using rests
    | cons character middle => simp_all

theorem stepIdempotencyKey_injective {operationId firstStep secondStep : String}
    {firstGeneration secondGeneration : Nat}
    (same : stepIdempotencyKey operationId firstGeneration firstStep =
      stepIdempotencyKey operationId secondGeneration secondStep) :
    firstGeneration = secondGeneration ∧ firstStep = secondStep := by
  have lists := congrArg String.toList same
  simp only [stepIdempotencyKey, String.toList_append, Nat.toString_eq_ofList_toDigits,
    append_assoc] at lists
  have tails := append_cancel_left (append_cancel_left (append_cancel_left lists))
  rw [show "/step/".toList = '/' :: "step/".toList by decide] at tails
  simp only [cons_append, String.toList_ofList] at tails
  obtain ⟨digits, rest⟩ :=
    append_separator_inj (notMem_digits rfl _) (notMem_digits rfl _) tails
  exact ⟨toDigits_inj digits, String.toList_inj.mp (append_cancel_left rest)⟩

def DurableOperationStatus.hasStarted : DurableOperationStatus → Bool
  | .planned | .confirmed => false
  | _ => true

section

variable [Digests]

/-- What every stored record satisfies, whatever the jobs are. -/
structure DurableOperation.WellFormed (operation : DurableOperation) : Prop where
  graph : PlanGraph operation.plannedJobs
  named : isBlank operation.operationId = false
  bound : ∀ binding ∈ operation.jobBindings, binding.generation ≤ operation.generation ∧
    ∃ planned ∈ operation.plannedJobs,
      binding = bindingAt operation.operationId binding.generation planned
  pendingDistinct : operation.pendingStepIds.Nodup
  pendingPlanned : ∀ stepId ∈ operation.pendingStepIds,
    ∃ planned ∈ operation.plannedJobs, planned.stepId = stepId
  pendingOlder : ∀ stepId ∈ operation.pendingStepIds, ∀ binding ∈ operation.jobBindings,
    binding.stepId = stepId → binding.generation < operation.generation
  covered : ∀ planned ∈ operation.plannedJobs, planned.stepId ∈ operation.pendingStepIds ∨
    ∃ binding ∈ operation.jobBindings, binding.stepId = planned.stepId
  unstarted : operation.status.hasStarted = false →
    operation.jobBindings = [] ∧ operation.generation = 0

namespace DurableOperation.WellFormed

variable {operation : DurableOperation} (wellFormed : operation.WellFormed) {planned : PlannedJob}
include wellFormed

theorem bound_eq (member : planned ∈ operation.plannedJobs) {binding : JobBinding}
    (present : binding ∈ operation.jobBindings) (same : binding.stepId = planned.stepId) :
    binding = bindingAt operation.operationId binding.generation planned := by
  obtain ⟨_, source, sourceMember, shape⟩ := wellFormed.bound binding present
  have sameStep : source.stepId = planned.stepId := by
    rw [← same, shape]
    rfl
  rwa [wellFormed.graph.eq_of_stepId sourceMember member sameStep] at shape

theorem binding_unique {first second : JobBinding} (firstPresent : first ∈ operation.jobBindings)
    (secondPresent : second ∈ operation.jobBindings) (sameStep : first.stepId = second.stepId)
    (sameGeneration : first.generation = second.generation) : first = second := by
  obtain ⟨_, planned, member, shape⟩ := wellFormed.bound first firstPresent
  have named : first.stepId = planned.stepId := by
    rw [shape]
    rfl
  rw [wellFormed.bound_eq member firstPresent named,
    wellFormed.bound_eq member secondPresent (sameStep ▸ named), sameGeneration]

theorem pending_of_unbound (member : planned ∈ operation.plannedJobs)
    (unbound : operation.activeBinding planned.stepId = none) :
    planned.stepId ∈ operation.pendingStepIds := by
  rcases wellFormed.covered planned member with pending | ⟨binding, present, same⟩
  · exact pending
  · exact absurd same (activeBinding_eq_none.mp unbound binding present)

end DurableOperation.WellFormed

theorem operationFromPlan_wellFormed {plan : PlanOperation} (accepted : validatePlan plan = .ok ())
    (mode : DurableOperationMode) (rollbackOf : Option String) (digest : String) (nowMs : Int) :
    (operationFromPlan plan mode rollbackOf digest nowMs).WellFormed := by
  obtain ⟨graph, named⟩ := planGraph_of_validatePlan accepted
  refine ⟨graph, named, ?_, graph.distinct, ?_, ?_, ?_, ?_⟩
  · simp [operationFromPlan]
  · intro stepId pending
    simpa [operationFromPlan] using pending
  · simp [operationFromPlan]
  · intro planned member
    exact .inl (mem_map_of_mem member)
  · simp [operationFromPlan]

end

section

/-- One record at two moments. -/
structure DurableOperation.Evolves (before after : DurableOperation) : Prop where
  operationId : after.operationId = before.operationId
  plannedJobs : after.plannedJobs = before.plannedJobs
  revision : before.revision ≤ after.revision
  unchanged : after.revision = before.revision → after = before
  generation : before.generation ≤ after.generation
  bindings : ∀ binding ∈ before.jobBindings, binding ∈ after.jobBindings
  pending : after.generation = before.generation → ∀ stepId ∈ before.pendingStepIds,
    stepId ∈ after.pendingStepIds ∨
      ∃ binding ∈ after.jobBindings, binding.stepId = stepId ∧
        binding.generation = after.generation
  started : before.status.hasStarted = true → after.status.hasStarted = true

theorem DurableOperation.Evolves.refl (operation : DurableOperation) :
    operation.Evolves operation :=
  ⟨rfl, rfl, le_rfl, fun _ => rfl, le_rfl, fun _ member => member,
    fun _ _ pending => .inl pending, id⟩

theorem DurableOperation.Evolves.trans {first second third : DurableOperation}
    (earlier : first.Evolves second) (later : second.Evolves third) : first.Evolves third := by
  have firstRevision := earlier.revision
  have secondRevision := later.revision
  have firstGeneration := earlier.generation
  have secondGeneration := later.generation
  refine ⟨later.operationId.trans earlier.operationId,
    later.plannedJobs.trans earlier.plannedJobs, by omega, ?_, by omega, ?_, ?_, ?_⟩
  · intro same
    rw [later.unchanged (by omega), earlier.unchanged (by omega)]
  · intro binding member
    exact later.bindings binding (earlier.bindings binding member)
  · intro same stepId member
    rcases earlier.pending (by omega) stepId member with pending | ⟨binding, present, named, _⟩
    · exact later.pending (by omega) stepId pending
    · exact .inr ⟨binding, later.bindings binding present, named, by omega⟩
  · intro started
    exact later.started (earlier.started started)

/-- An update that leaves the plan, the bindings and the pending steps alone. -/
structure DurableOperation.SameWork (before after : DurableOperation) : Prop where
  operationId : after.operationId = before.operationId
  plannedJobs : after.plannedJobs = before.plannedJobs
  generation : after.generation = before.generation
  bindings : after.jobBindings = before.jobBindings
  pending : after.pendingStepIds = before.pendingStepIds
  started : before.status.hasStarted = true → after.status.hasStarted = true

/-- An update that opens the next generation, with every unbound step
pending. -/
structure DurableOperation.Reopens (before after : DurableOperation) : Prop where
  operationId : after.operationId = before.operationId
  plannedJobs : after.plannedJobs = before.plannedJobs
  generation : after.generation = before.generation + 1
  bindings : after.jobBindings = before.jobBindings
  pending : after.pendingStepIds.Sublist (before.plannedJobs.map PlannedJob.stepId)
  unbound : ∀ planned ∈ before.plannedJobs,
    before.activeBinding planned.stepId = none → planned.stepId ∈ after.pendingStepIds
  started : after.status.hasStarted = true

namespace DurableOperation

variable {before after : DurableOperation}

theorem SameWork.activeBinding_eq (same : before.SameWork after) (stepId : String) :
    after.activeBinding stepId = before.activeBinding stepId := by
  simp only [activeBinding, same.bindings]

theorem Reopens.activeBinding_eq (reopens : before.Reopens after) (stepId : String) :
    after.activeBinding stepId = before.activeBinding stepId := by
  simp only [activeBinding, reopens.bindings]

theorem SameWork.evolves (same : before.SameWork after)
    (revision : after.revision = before.revision + 1) : before.Evolves after := by
  refine ⟨same.operationId, same.plannedJobs, by omega, by omega, same.generation.ge, ?_, ?_,
    same.started⟩
  · rw [same.bindings]
    exact fun _ member => member
  · rw [same.pending]
    exact fun _ _ pending => .inl pending

theorem Reopens.evolves (reopens : before.Reopens after)
    (revision : after.revision = before.revision + 1) : before.Evolves after := by
  have generation := reopens.generation
  refine ⟨reopens.operationId, reopens.plannedJobs, by omega, by omega, by omega, ?_, by omega,
    fun _ => reopens.started⟩
  rw [reopens.bindings]
  exact fun _ member => member

variable [Digests]

/-- An update that binds the listed pending steps in the current generation. -/
structure Binds (before after : DurableOperation) (ready : List PlannedJob) :
    Prop where
  operationId : after.operationId = before.operationId
  plannedJobs : after.plannedJobs = before.plannedJobs
  generation : after.generation = before.generation
  planned : ∀ step ∈ ready, step ∈ before.plannedJobs ∧ step.stepId ∈ before.pendingStepIds
  bindings : after.jobBindings = before.jobBindings ++ ready.map (bindingFor before)
  pending : after.pendingStepIds =
    before.pendingStepIds.filter fun stepId => stepId ∉ ready.map PlannedJob.stepId
  started : after.status.hasStarted = true

variable {ready : List PlannedJob}

theorem Binds.activeBinding_eq (binds : before.Binds after ready)
    {stepId : String} (notReady : stepId ∉ ready.map PlannedJob.stepId) :
    after.activeBinding stepId = before.activeBinding stepId := by
  have filtered : (ready.map (bindingFor before)).filter
      (fun binding => binding.stepId = stepId) = [] := by
    rw [filter_eq_nil_iff]
    intro added addedPresent
    obtain ⟨step, member, rfl⟩ := mem_map.mp addedPresent
    intro same
    exact notReady (mem_map.mpr ⟨step, member, of_decide_eq_true same⟩)
  simp only [activeBinding, binds.bindings, filter_append, filtered, append_nil]

theorem WellFormed.sameWork (wellFormed : before.WellFormed) (same : before.SameWork after) :
    after.WellFormed := by
  obtain ⟨sameId, samePlan, sameGeneration, sameBindings, samePending, started⟩ := same
  refine ⟨?_, ?_, ?_, ?_, ?_, ?_, ?_, ?_⟩
  · exact samePlan ▸ wellFormed.graph
  · exact sameId ▸ wellFormed.named
  · rw [sameBindings, sameGeneration, samePlan, sameId]
    exact wellFormed.bound
  · exact samePending ▸ wellFormed.pendingDistinct
  · rw [samePending, samePlan]
    exact wellFormed.pendingPlanned
  · rw [samePending, sameBindings, sameGeneration]
    exact wellFormed.pendingOlder
  · rw [samePlan, samePending, sameBindings]
    exact wellFormed.covered
  · intro unstarted
    rw [sameBindings, sameGeneration]
    apply wellFormed.unstarted
    cases begun : before.status.hasStarted with
    | false => rfl
    | true => simp [started begun] at unstarted

theorem WellFormed.binds (wellFormed : before.WellFormed) (binds : before.Binds after ready) :
    after.WellFormed := by
  obtain ⟨sameId, samePlan, sameGeneration, planned, bindings, pending, started⟩ := binds
  refine ⟨samePlan ▸ wellFormed.graph, sameId ▸ wellFormed.named, ?_, ?_, ?_, ?_, ?_, ?_⟩
  · rw [bindings, sameGeneration, samePlan, sameId]
    intro binding present
    rcases mem_append.mp present with old | new
    · exact wellFormed.bound binding old
    · obtain ⟨step, member, rfl⟩ := mem_map.mp new
      exact ⟨le_rfl, step, (planned step member).1, rfl⟩
  · rw [pending]
    exact wellFormed.pendingDistinct.filter _
  · rw [pending, samePlan]
    intro stepId member
    exact wellFormed.pendingPlanned stepId (mem_filter.mp member).1
  · rw [pending, bindings, sameGeneration]
    intro stepId member binding present same
    obtain ⟨waiting, notReady⟩ := mem_filter.mp member
    rcases mem_append.mp present with old | new
    · exact wellFormed.pendingOlder stepId waiting binding old same
    · obtain ⟨step, stepMember, rfl⟩ := mem_map.mp new
      have listed : stepId ∈ ready.map PlannedJob.stepId := same ▸ mem_map_of_mem stepMember
      simp [listed] at notReady
  · rw [samePlan, pending, bindings]
    intro step member
    by_cases listed : step.stepId ∈ ready.map PlannedJob.stepId
    · obtain ⟨source, sourceMember, same⟩ := mem_map.mp listed
      exact .inr ⟨bindingFor before source, mem_append_right _ (mem_map_of_mem sourceMember), same⟩
    · rcases wellFormed.covered step member with waiting | ⟨binding, present, same⟩
      · exact .inl (mem_filter.mpr ⟨waiting, by simpa using listed⟩)
      · exact .inr ⟨binding, mem_append_left _ present, same⟩
  · simp [started]

theorem Binds.evolves (binds : before.Binds after ready)
    (revision : after.revision = before.revision + 1) : before.Evolves after := by
  refine ⟨binds.operationId, binds.plannedJobs, by omega, by omega, binds.generation.ge, ?_, ?_,
    fun _ => binds.started⟩
  · intro binding member
    rw [binds.bindings]
    exact mem_append_left _ member
  · intro sameGeneration stepId member
    by_cases listed : stepId ∈ ready.map PlannedJob.stepId
    · obtain ⟨step, stepMember, same⟩ := mem_map.mp listed
      refine .inr ⟨bindingFor before step, ?_, same, sameGeneration.symm⟩
      rw [binds.bindings]
      exact mem_append_right _ (mem_map_of_mem stepMember)
    · refine .inl ?_
      rw [binds.pending]
      exact mem_filter.mpr ⟨member, by simpa using listed⟩

theorem WellFormed.reopens (wellFormed : before.WellFormed) (reopens : before.Reopens after) :
    after.WellFormed := by
  obtain ⟨sameId, samePlan, generation, bindings, pending, unbound, started⟩ := reopens
  refine ⟨samePlan ▸ wellFormed.graph, sameId ▸ wellFormed.named, ?_, ?_, ?_, ?_, ?_, ?_⟩
  · rw [bindings, generation, samePlan, sameId]
    intro binding present
    obtain ⟨bounded, shape⟩ := wellFormed.bound binding present
    exact ⟨by omega, shape⟩
  · exact wellFormed.graph.distinct.sublist pending
  · rw [samePlan]
    intro stepId member
    simpa using pending.subset member
  · rw [bindings, generation]
    intro stepId _ binding present _
    have bounded := (wellFormed.bound binding present).1
    omega
  · rw [samePlan, bindings]
    intro planned member
    cases active : before.activeBinding planned.stepId with
    | none => exact .inl (unbound planned member active)
    | some binding =>
      obtain ⟨present, same, _⟩ := activeBinding_some active
      exact .inr ⟨binding, present, same⟩
  · simp [started]

end DurableOperation

end

namespace MemoryOperationStore

variable {store : MemoryOperationStore} {operation : DurableOperation}

theorem get_insert (operation : DurableOperation) (operationId : String) :
    (store.insert operation).get operationId =
      if operationId = operation.operationId then some operation else store.get operationId :=
  getElem?_insert_of_eq _ _ _ _

theorem forall_insert {holds : String → DurableOperation → Prop}
    (new : holds operation.operationId operation)
    (old : ∀ {operationId other}, store.get operationId = some other → holds operationId other)
    {operationId : String} {other : DurableOperation}
    (found : (store.insert operation).get operationId = some other) : holds operationId other := by
  rw [get_insert] at found
  split_ifs at found with same
  · cases found
    exact same ▸ new
  · exact old found

theorem create_cases (store : MemoryOperationStore) (operation : DurableOperation) :
    (∃ error, store.create operation = (.error error, store)) ∨
      store.create operation = (.ok operation, store.insert operation) ∧
        store.get operation.operationId = none := by
  simp only [create]
  split
  · exact .inl ⟨_, rfl⟩
  · split_ifs with taken
    · exact .inl ⟨_, rfl⟩
    · exact .inr ⟨rfl, by simpa using taken⟩

structure Accepts (current : DurableOperation) (expectedRevision : Nat)
    (next : DurableOperation) : Prop where
  expected : current.revision = expectedRevision
  revision : next.revision = expectedRevision + 1
  bounded : next.generation ≤ next.revision % 2 ^ 32
  transition : validStatusTransition current.status next.status = true

private theorem accepts_of_update {current next : DurableOperation} {expectedRevision : Nat}
    (accepted : validateDurableOperationUpdate current expectedRevision next = .ok ()) :
    Accepts current expectedRevision next := by
  simp only [validateDurableOperationUpdate] at accepted
  cases valid : validateDurableOperation next with
  | error error =>
    rw [valid] at accepted
    cases accepted
  | ok _ =>
    rw [valid] at accepted
    cases immutable : ensureImmutableFields current next with
    | error error =>
      simp only [immutable, bind, Except.bind] at accepted
      split_ifs at accepted
    | ok _ =>
      simp only [immutable, bind, Except.bind] at accepted
      split_ifs at accepted with unexpected skipped invalid
      simp only [validateDurableOperation] at valid
      split_ifs at valid with schema range
      refine ⟨by simpa using unexpected, by simpa using skipped, ?_, by simpa using invalid⟩
      omega

theorem compareAndSwap_cases (store : MemoryOperationStore) (expectedRevision : Nat)
    (next : DurableOperation) :
    (∃ error, store.compareAndSwap expectedRevision next = (.error error, store)) ∨
      ∃ current, store.get next.operationId = some current ∧
        store.compareAndSwap expectedRevision next = (.ok next, store.insert next) ∧
        Accepts current expectedRevision next := by
  simp only [compareAndSwap]
  split
  · exact .inl ⟨_, rfl⟩
  · split
    · exact .inl ⟨_, rfl⟩
    · rename_i current found
      split
      · exact .inl ⟨_, rfl⟩
      · rename_i accepted
        exact .inr ⟨current, found, rfl, accepts_of_update accepted⟩

theorem mem_values :
    operation ∈ store.values ↔ ∃ operationId, store.get operationId = some operation :=
  mem_tableRows

end MemoryOperationStore

end UntitledOJ
