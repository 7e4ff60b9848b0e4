import UntitledOJ.AbortTargets

/-!
# What an abort reports as restored

An abort that finds the head released by its operation reports that everything is restored.
This is right only in runs where heads are released after the bindings and the providers are
back to what the plan found.
-/

namespace UntitledOJ

open TopologyTables (Commits members_owned exec_commits bindingsOf)
open Worked Plane Platform

namespace Plane

/-- The operation asked the providers for nothing, or what it asked last restored
them. -/
def ProvidersRestored (plane : Plane) (topologyId operationId : String) : Prop :=
  (∀ call ∈ plane.providerCalls, call.isFor topologyId operationId = true →
      call.isApply = false) ∨
    ∃ call ∈ plane.latestCall topologyId operationId, call.isRestoring = true
deriving Decidable

/-- The bindings are those that the plan found, and the providers are restored. -/
def AsBefore (plane : Plane) (topologyId operationId : String) : Prop :=
  ∀ plan ∈ plane.plans[operationId]?, ∀ topology ∈ plan.topologies,
    topology.topologyId = topologyId →
      (plane.topology.bindingsOf topologyId).Perm topology.previousBindings ∧
        plane.ProvidersRestored topologyId operationId
deriving Decidable

def Owns (plane : Plane) (topologyId revisionId operationId : String) : Prop :=
  ∃ heads ∈ plane.topology.heads[topologyId]?, heads.applyingRevisionId = some revisionId ∧
    heads.applyingOperationId = some operationId
deriving Decidable

/-- The head is in use: it is applying, or it has the revision of the latest plan. -/
def Busy (plane : Plane) (topologyId : String) : Prop :=
  ∀ heads operationId revisionId,
    plane.topology.heads[topologyId]? = some heads →
    heads.lastOperationId = some operationId →
    plane.Plans operationId topologyId revisionId → heads.applyingRevisionId = none →
      heads.appliedRevisionId = some revisionId

/-- A head that its latest operation released without success is as it was before. -/
structure Restoring (plane : Plane) : Prop where
  planned : ∀ topologyId heads operationId,
    plane.topology.heads[topologyId]? = some heads →
    heads.lastOperationId = some operationId →
      ∃ revisionId, plane.Plans operationId topologyId revisionId
  released : ∀ topologyId heads operationId revisionId,
    plane.topology.heads[topologyId]? = some heads →
    heads.lastOperationId = some operationId →
    plane.Plans operationId topologyId revisionId → heads.applyingRevisionId = none →
    heads.appliedRevisionId ≠ some revisionId → plane.AsBefore topologyId operationId

end Plane

def PlaneCall.Restores : PlaneCall → Plane → Prop
  | .topology (.finish topologyId revisionId operationId outcome _), plane
  | .topology (.finishFenced topologyId revisionId operationId outcome _ _), plane =>
    outcome ≠ .succeeded → plane.Owns topologyId revisionId operationId →
      plane.AsBefore topologyId operationId
  | .topology (.compensateCompleted topologyId _ _ operationId _), plane
  | .topology (.completeAbort topologyId _ _ operationId _), plane =>
    plane.AsBefore topologyId operationId
  | .topology (.replaceBindings topologyId _), plane => plane.Busy topologyId
  | .provider (.apply topologyId ..), plane
  | .provider (.compensate topologyId ..), plane => plane.Busy topologyId
  | _, _ => True

variable {heads : TopologyHeads} {call : PlaneCall} {revisionId : String}

namespace Plane

variable {plane later : Plane} {topologyId operationId : String}

theorem AsBefore.congr (before : plane.AsBefore topologyId operationId)
    (rows : later.topology.bindingsOf topologyId = plane.topology.bindingsOf topologyId)
    (providerCalls : later.providerCalls = plane.providerCalls)
    (plans : later.plans[operationId]? = plane.plans[operationId]?) :
    later.AsBefore topologyId operationId := by
  intro plan found topology member same
  rw [plans] at found
  obtain ⟨rowsBefore, restored⟩ := before plan found topology member same
  refine ⟨rows ▸ rowsBefore, ?_⟩
  rw [ProvidersRestored, latestCall, providerCalls]
  exact restored

theorem AsBefore.provider {call : ProviderCall} (before : plane.AsBefore topologyId operationId)
    (other : call.isFor topologyId operationId = false) :
    { plane with providerCalls := call :: plane.providerCalls }.AsBefore topologyId
      operationId := by
  intro plan found topology member same
  obtain ⟨rows, restored⟩ := before plan found topology member same
  refine ⟨rows, ?_⟩
  rcases restored with unapplied | ⟨latest, found, restoring⟩
  · left
    intro made inside isFor
    rcases List.mem_cons.mp inside with rfl | earlier
    · rw [other] at isFor
      cases isFor
    · exact unapplied made earlier isFor
  · refine .inr ⟨latest, ?_, restoring⟩
    rw [latestCall, List.find?_cons_of_neg (by rw [other]; decide)]
    exact found

theorem KeepsPlans.of_plans (kept : plane.KeepsPlans later)
    (plans : plane.Plans operationId topologyId revisionId) :
    later.plans[operationId]? = plane.plans[operationId]? := by
  obtain ⟨plan, found, _⟩ := plans
  rw [kept operationId plan found, found]

theorem Restoring.keepsPlans (restoring : plane.Restoring)
    (topology : later.topology = plane.topology)
    (providerCalls : later.providerCalls = plane.providerCalls) (kept : plane.KeepsPlans later) :
    later.Restoring := by
  constructor
  · rw [topology]
    intro topologyId heads operationId found last
    obtain ⟨revisionId, plans⟩ := restoring.planned topologyId heads operationId found last
    exact ⟨revisionId, plans.mono kept⟩
  · rw [topology]
    intro topologyId heads operationId revisionId found last plans free differs
    obtain ⟨_, earlier⟩ := restoring.planned topologyId heads operationId found last
    have same := kept.of_plans earlier
    have plansBefore : plane.Plans operationId topologyId revisionId := by
      obtain ⟨plan, present, member⟩ := plans
      exact ⟨plan, same ▸ present, member⟩
    exact (restoring.released topologyId heads operationId revisionId found last plansBefore free
      differs).congr (by rw [topology]) providerCalls same

theorem Restoring.plannedAfter {call : TopologyCall} {after : TopologyTables}
    (restoring : plane.Restoring) (commits : Commits plane.topology call after)
    (respects : (PlaneCall.topology call).Respects plane) (orderly : plane.Orderly)
    (found : after.heads[topologyId]? = some heads)
    (last : heads.lastOperationId = some operationId) :
    ∃ revisionId, plane.Plans operationId topologyId revisionId := by
  rcases commits.headAfter found with ⟨first, _, before, rfl⟩ | ⟨_, _, rfl⟩ | ⟨first, before, move⟩
  · exact restoring.planned topologyId first operationId before last
  · cases last
  · cases move with
    | begin revision operation updatedAt called =>
      cases last
      subst called
      exact ⟨revision, respects⟩
    | finish revision operation outcome called applying owner
    | abort revision previous operation called stored draft applying owner =>
      cases last
      exact ⟨revision,
        (orderly.owned topologyId first revision operationId before applying owner).2⟩
    | compensate revision previous operation called stored draft applied free owner =>
      cases last
      exact restoring.planned topologyId first operationId before owner

theorem Restoring.provider (restoring : plane.Restoring) {call : ProviderCall} {busyId : String}
    (busy : plane.Busy busyId)
    (named : ∀ topologyId operationId, call.isFor topologyId operationId = true →
      topologyId = busyId) :
    { plane with providerCalls := call :: plane.providerCalls }.Restoring := by
  refine ⟨restoring.planned, ?_⟩
  intro topologyId heads operationId revisionId found last plans free differs
  refine (restoring.released topologyId heads operationId revisionId found last plans free
    differs).provider ?_
  by_contra isFor
  obtain rfl := named topologyId operationId (by simpa using isFor)
  exact differs (busy heads operationId revisionId found last plans free)

section

variable [Digests] [AddressSyntax] {call : TopologyCall} {result : call.Result}
  {after : TopologyTables}

theorem AsBefore.committed (before : plane.AsBefore topologyId operationId)
    (committed : plane.topology.exec plane.leaseEvidence call = (.ok result, after))
    (unreplaced : ∀ bindings, call ≠ .replaceBindings topologyId bindings)
    (unowned : ∀ heads, plane.topology.heads[topologyId]? = some heads →
      heads.applyingRevisionId = none ∨ call.members = []) :
    (plane.withTables call after).AsBefore topologyId operationId := by
  refine before.congr ?_ rfl rfl
  rcases TopologyTables.bindingsOf_exec committed topologyId with same | ⟨bindings, called⟩ |
    ⟨member, inside, here⟩
  · exact same
  · exact absurd called (unreplaced bindings)
  · subst here
    obtain ⟨heads, found, applying⟩ := members_owned committed member inside
    rcases unowned heads found with free | none_members
    · rw [free] at applying
      cases applying
    · rw [none_members] at inside
      cases inside

theorem Restoring.releasedAfter (restoring : plane.Restoring) (orderly : plane.Orderly)
    (committed : plane.topology.exec plane.leaseEvidence call = (.ok result, after))
    (restores : (PlaneCall.topology call).Restores plane)
    (found : after.heads[topologyId]? = some heads)
    (last : heads.lastOperationId = some operationId)
    (plans : plane.Plans operationId topologyId revisionId) (free : heads.applyingRevisionId = none)
    (differs : heads.appliedRevisionId ≠ some revisionId) :
    (plane.withTables call after).AsBefore topologyId operationId := by
  rcases (exec_commits committed).headAfter found with ⟨first, _, before, rfl⟩ | ⟨_, _, rfl⟩ |
    ⟨first, before, move⟩
  · refine (restoring.released topologyId first operationId revisionId before last plans free
      differs).committed committed ?_ ?_
    · rintro bindings rfl
      exact differs (restores first operationId revisionId before last plans free)
    · intro again foundAgain
      cases before.symm.trans foundAgain
      exact .inl free
  · cases last
  · cases move with
    | begin => cases free
    | finish revision operation outcome called applying owner =>
      cases last
      obtain ⟨_, planned⟩ :=
        orderly.owned topologyId first revision operationId before applying owner
      obtain rfl := orderly.plans_unique plans planned
      have unsuccessful : outcome ≠ .succeeded := by
        rintro rfl
        exact differs rfl
      have owns : plane.Owns topologyId revisionId operationId := ⟨first, before, applying, owner⟩
      cases call with
      | finish | finishFenced =>
        obtain ⟨rfl, rfl, rfl, rfl⟩ := called
        exact (restores unsuccessful owns).committed committed nofun fun _ _ => .inr rfl
      | finishGroup | finishGroupFenced => exact absurd called.2.1 unsuccessful
      | _ => exact absurd called id
    | compensate revision previous operation called =>
      cases last
      cases call with
      | compensateCompleted =>
        obtain ⟨rfl, rfl, rfl, rfl⟩ := called
        exact AsBefore.committed restores committed nofun fun _ _ => .inr rfl
      | _ => exact absurd called id
    | abort revision previous operation called =>
      cases last
      cases call with
      | completeAbort =>
        obtain ⟨rfl, rfl, rfl, rfl⟩ := called
        exact AsBefore.committed restores committed nofun fun _ _ => .inr rfl
      | _ => exact absurd called id

end

variable [Digests] [AddressSyntax]

theorem Restoring.elsewhere (restoring : plane.Restoring) (elsewhere : call.isElsewhere = true) :
    (exec call plane).2.Restoring := by
  obtain ⟨topology, providerCalls⟩ := exec_elsewhere elsewhere plane
  exact restoring.keepsPlans topology providerCalls (exec_keepsPlans call plane)

theorem Restoring.exec (restoring : plane.Restoring) (orderly : plane.Orderly)
    (respects : call.Respects plane) (restores : call.Restores plane) :
    (exec call plane).2.Restoring := by
  cases call with
  | topology call =>
    rcases exec_topology_cases plane call with ⟨_, _, committed, same⟩ |
      ⟨_, _, same⟩
    · rw [same]
      constructor
      · intro topologyId heads operationId found last
        exact restoring.plannedAfter (exec_commits committed) respects orderly found last
      · intro topologyId heads operationId revisionId found last plans free differs
        exact restoring.releasedAfter orderly committed restores found last plans free differs
    · rw [same]
      exact restoring
  | provider call =>
    cases call with
    | apply applied | compensate compensated =>
      refine restoring.provider restores ?_
      intro topologyId operationId isFor
      simp only [ProviderCall.isFor, Bool.and_eq_true, decide_eq_true_eq] at isFor
      exact isFor.1.symm
  | _ => exact restoring.elsewhere rfl

end Plane

variable {start plane : Plane} {env : WorkerEnvironment} {held : HeldJob}
  {payload : TopologyApplyPayload}

theorem restores_of_isRead (reads : call.isRead = true) : call.Restores plane := by
  cases call with
  | topology call | provider call => cases reads
  | _ => trivial

instance decidableUndegraded
    (applied : Except TopologyProviderApplyFailure TopologyProviderApplyReceipt) :
    Decidable (match applied with
      | .ok _ => True
      | .error failure => failure.state ≠ .degraded) :=
  match applied with
  | .ok _ => isTrue trivial
  | .error failure => inferInstanceAs (Decidable (failure.state ≠ .degraded))

/-- What a pass must find so that it releases nothing that is not restored. -/
def SafePass (plane : Plane) (env : WorkerEnvironment) (job : Job)
    (payload : TopologyApplyPayload) : Prop :=
  (env.hasProvider = true ∨
      (plane.Owns payload.topologyId payload.revisionId job.operationId →
        plane.AsBefore payload.topologyId job.operationId)) ∧
    (payload.phase = .prepare →
      (prepareValidation env ⟨job, ""⟩ payload).isOk = true ∨
        plane.AsBefore payload.topologyId job.operationId) ∧
    (payload.phase = .prepare →
      match env.applied with
      | .ok _ => True
      | .error failure => failure.state ≠ .degraded) ∧
    (payload.phase = .finalize → env.compensated.isOk = true) ∧
    (payload.phase = .prepare ∨ payload.phase = .finalize →
      (plane.topology.replaceTopologyApiBindings payload.topologyId
        payload.previousBindings).1.isOk = true)
deriving Decidable

theorem busy_of_admits (orderly : plane.Orderly)
    (plans : plane.Plans held.job.operationId payload.topologyId payload.revisionId)
    (found : plane.topology.heads[payload.topologyId]? = some heads)
    (admits : heads.Admits payload held.job.operationId) : plane.Busy payload.topologyId := by
  intro again operationId revisionId foundAgain last planned free
  cases found.symm.trans foundAgain
  rcases admits with owns | aborts
  · simp only [ownsApply, Bool.and_eq_true, decide_eq_true_eq] at owns
    rw [owns.1] at free
    cases free
  · simp only [abortsCompleted, Bool.and_eq_true, decide_eq_true_eq] at aborts
    cases aborts.2.symm.trans last
    rw [orderly.plans_unique planned plans]
    exact aborts.1.2

theorem asBefore_of_restored (orderly : plane.Orderly)
    (planned : ∃ plan, plane.plans[held.job.operationId]? = some plan ∧
      ∃ topology ∈ plan.topologies, payload.topologyId = topology.topologyId ∧
        payload.revisionId = topology.revisionId ∧
        payload.previousBindings = topology.previousBindings)
    (restored : plane.Restored payload.topologyId held.job.operationId payload.previousBindings) :
    plane.AsBefore payload.topologyId held.job.operationId := by
  intro plan found topology member same
  obtain ⟨_, foundRecorded, _, ownMember, sameTopology, _, previous⟩ := planned
  cases foundRecorded.symm.trans found
  have distinct := orderly.distinct _ plan found
  have looked := ApplyPlan.topology?_of_mem distinct member
  rw [same, sameTopology, ApplyPlan.topology?_of_mem distinct ownMember] at looked
  obtain rfl := Option.some.inj looked
  obtain ⟨rows, call, latest, restoring⟩ := restored
  rw [rows, previous]
  exact ⟨List.Perm.refl _, .inr ⟨call, latest, restoring⟩⟩

theorem untroubled {origin : Plane} {job : Job} (safe : SafePass start env job payload)
    (begins : start.Begins origin payload heads)
    (phase : payload.phase = .prepare ∨ payload.phase = .finalize) :
    ¬ Troubled origin env payload := by
  obtain ⟨_, _, applies, compensates, replaces⟩ := safe
  rintro (⟨error, refused⟩ | ⟨prepares, failure, failed, degraded⟩ | ⟨finalizes, error, failed⟩)
  · have accepted := replaces phase
    have same : (start.topology.replaceTopologyApiBindings payload.topologyId
        payload.previousBindings).1 = (origin.topology.replaceTopologyApiBindings
          payload.topologyId payload.previousBindings).1 :=
      TopologyTables.replaced_congr (by rw [begins.bindings]) payload.previousBindings
    rw [same, refused] at accepted
    cases accepted
  · have proved := applies prepares
    rw [failed] at proved
    exact proved degraded
  · have succeeded := compensates finalizes
    rw [failed] at succeeded
    cases succeeded

theorem passCall_restores (orderlyStart : start.Orderly) (orderly : plane.Orderly)
    (safe : ∀ held payload, start.Runs env held payload → SafePass start env held.job payload)
    (lawful : PassCall start env call plane) : call.Restores plane := by
  cases lawful with
  | read reads => exact restores_of_isRead reads
  | @refuse held payload updatedAt _ runs unprovided same underway =>
    intro _ owns
    rcases (safe held payload runs).1 with provided | clean
    · rw [unprovided] at provided
      cases provided
    · have ownsStart : start.Owns payload.topologyId payload.revisionId
          held.job.operationId := by
        rw [Owns, ← same.topology]
        exact owns
      exact (clean ownsStart).congr (by rw [same.topology]) same.providerCalls (by rw [same.plans])
  | @phase held payload heads origin _ _ runs _ single begins admits lawful =>
    cases lawful with
    | read reads => exact restores_of_isRead reads
    | write inside write =>
      have planned := orderlyStart.runs_topology runs single
      rw [← begins.plans, ← inside.plans] at planned
      have busy : plane.Busy payload.topologyId := by
        obtain ⟨plan, found, topology, member, sameTopology, sameRevision, _⟩ := planned
        refine busy_of_admits orderly
          ⟨plan, found, topology, member, sameTopology.symm, sameRevision.symm⟩ ?_ admits
        rw [inside.heads]
        exact begins.found
      cases write with
      | stage | apply | compensate | restore | activate => exact busy
      | reject phase untouched rejected =>
        intro _ _
        rcases (safe held payload runs).2.1 phase with valid | clean
        · change (prepareValidation env held payload).isOk = true at valid
          rw [rejected] at valid
          cases valid
        · refine clean.congr ?_ ?_ ?_
          · rw [bindingsOf, untouched.1, begins.bindings]
            rfl
          · rw [untouched.2, begins.providerCalls]
          · rw [inside.plans, begins.plans]
      | release phase unsuccessful settled =>
        intro _ _
        rcases settled with restored | ⟨_, troubled⟩
        · exact asBefore_of_restored orderly planned restored
        · exact absurd troubled (untroubled (safe held payload runs) begins phase)
      | advance => exact fun unsuccessful => absurd rfl unsuccessful
      | rewind _ _ _ restored | giveUp _ _ _ restored =>
        exact asBefore_of_restored orderly planned restored
    | _ => trivial
  | _ => trivial

variable {event : PlaneEvent}

section

variable {start plane : Plane} {topologyId operationId : String}

theorem Plane.AsBefore.sameRows (before : start.AsBefore topologyId operationId)
    (same : start.SameRows plane) (plans : plane.plans = start.plans) :
    plane.AsBefore topologyId operationId := by
  refine before.congr ?_ same.providerCalls (by rw [plans])
  rw [bindingsOf, same.bindings]
  rfl

theorem eventCall_unplanned (made : EventCall start event call plane) (operationId : String)
    (plan : ApplyPlan) : call ≠ .plan operationId plan := by
  rintro rfl
  cases event with
  | createTopology | editDraft | rollbackDraft => exact absurd made.1 nofun
  | enqueueJob | cancelJob => cases made
  | pass =>
    cases made with
    | read reads => cases reads
    | phase _ _ _ _ _ lawful =>
      cases lawful with
      | read reads => cases reads
      | write _ write => cases write
  | recoverExpired | recoverTerminal =>
    cases made with
    | read reads => cases reads

theorem recoveryCall_unbegun {nowMs : Int} (lawful : RecoveryCall start nowMs call plane)
    (topologyId revisionId operationId updatedAt : String) :
    call ≠ .topology (.beginApply topologyId revisionId operationId updatedAt) := by
  rintro rfl
  cases lawful with
  | read reads => cases reads

variable [Digests] [AddressSyntax]

theorem Plane.Owns.before (owns : (exec call plane).2.Owns topologyId revisionId operationId)
    (unbegun : ∀ begunId begunRevision begunBy updatedAt,
      call ≠ .topology (.beginApply begunId begunRevision begunBy updatedAt)) :
    plane.Owns topologyId revisionId operationId := by
  obtain ⟨heads, found, applying, owner⟩ := owns
  rcases exec_tables call plane with ⟨_, rfl, commits⟩ | same
  · rcases commits.headAfter found with ⟨first, _, before, rfl⟩ | ⟨_, _, rfl⟩ |
      ⟨first, before, move⟩
    · exact ⟨first, before, applying, owner⟩
    · cases applying
    · cases move with
      | begin revision operation updatedAt called =>
        subst called
        exact absurd rfl (unbegun _ _ _ _)
      | finish | compensate | abort => cases applying
  · rw [same] at found
    exact ⟨heads, found, applying, owner⟩

theorem exec_plans (unplanned : ∀ operationId plan, call ≠ .plan operationId plan) (plane : Plane) :
    (exec call plane).2.plans = plane.plans := by
  cases call with
  | topology call => exact exec_topology_plans call plane
  | plan operationId plan => exact absurd rfl (unplanned operationId plan)
  | resolveExpiredGroupSuccess members operationId jobId nowMs result =>
    simp only [Plane.exec, Plane.resolveExpiredGroupSuccess]
    split
    · rfl
    · split
      · rfl
      · split_ifs <;> rfl
  | _ => rfl

end

section

def nextRelease {α : Type} : Worked α → Option (String × String × String)
  | .call (.topology (.finish topologyId revisionId operationId _ _)) _ =>
    some (topologyId, revisionId, operationId)
  | _ => none

instance (job : Job) : Decidable (isRecoverable job) :=
  inferInstanceAs (Decidable (_ ∧ _))

/-- Recovery of expired leases finds released what it releases. -/
def SafeRecovery (plane : Plane) (nowMs : Int) : Prop :=
  ∀ job ∈ plane.jobs.expiredLeases nowMs, isRecoverable job →
    ∀ payload ∈ (TopologyApplyPayload.ofDocument job.payload).toOption,
      ∀ identity ∈ payload.identities, plane.Owns identity.1 identity.2 job.operationId →
        plane.AsBefore identity.1 job.operationId
deriving Decidable

/-- Recovery of ended operations finds as before what it releases without success. -/
def SafeTerminal (plane : Plane) (statuses : String → Option DurableOperationStatus) : Prop :=
  ∀ heads ∈ plane.topology.heads.toList.map Prod.snd, heads.applyingRevisionId.isSome = true →
    ∀ operationId ∈ heads.applyingOperationId, ∀ release ∈ terminalRelease (statuses operationId),
      release.1 ≠ .succeeded → plane.AsBefore heads.topologyId operationId
deriving Decidable

theorem recoveryCall_restores {nowMs : Int} (safe : SafeRecovery start nowMs)
    (plans : plane.plans = start.plans)
    (owned : ∀ topologyId revisionId operationId, plane.Owns topologyId revisionId operationId →
      start.Owns topologyId revisionId operationId)
    (lawful : RecoveryCall start nowMs call plane) : call.Restores plane := by
  cases lawful with
  | read reads => exact restores_of_isRead reads
  | finish expired recoverable decoded named same =>
    intro _ owns
    refine (safe _ expired recoverable _ ?_ _ named (owned _ _ _ owns)).sameRows same plans
    rw [decoded]
    rfl
  | _ => trivial

theorem terminalCall_restores {statuses : String → Option DurableOperationStatus}
    (safe : SafeTerminal start statuses) (plans : plane.plans = start.plans)
    (lawful : TerminalCall start statuses call plane) : call.Restores plane := by
  cases lawful with
  | read reads => exact restores_of_isRead reads
  | finish listed applying owner released same =>
    intro unsuccessful _
    exact (safe _ listed (by rw [applying]; rfl) _ owner _ released unsuccessful).sameRows same
      plans
  | _ => trivial

variable [Digests] [AddressSyntax]

/-- No head is released before the bindings and the providers are as the plan found
them. -/
def restoresReleased : topologyPlane.Discipline
  | config, .step index => ∀ thread ∈ config.threads[index]?,
      ∀ released ∈ nextRelease thread.program,
        Plane.Owns config.state released.1 released.2.1 released.2.2 →
          Plane.AsBefore config.state released.1 released.2.2
  | config, .event (.pass env _) => ∀ task ∈ Plane.task config.state env,
      SafePass config.state env task.1 task.2
  | config, .event (.recoverExpired nowMs _ _) => SafeRecovery config.state nowMs
  | config, .event (.recoverTerminal statuses _ _) => SafeTerminal config.state statuses
  | _, _ => True

instance : restoresReleased.Checkable :=
  ⟨fun config action =>
    match action with
    | .start _ => isTrue trivial
    | .step _ => inferInstanceAs (Decidable (∀ thread ∈ _, _))
    | .crash _ => isTrue trivial
    | .event (.pass ..) => inferInstanceAs (Decidable (∀ task ∈ _, _))
    | .event (.recoverExpired nowMs _ _) =>
      inferInstanceAs (Decidable (SafeRecovery config.state nowMs))
    | .event (.recoverTerminal statuses _ _) =>
      inferInstanceAs (Decidable (SafeTerminal config.state statuses))
    | .event (.createTopology ..) | .event (.editDraft ..) | .event (.rollbackDraft ..)
    | .event (.enqueueJob ..) | .event (.cancelJob ..) => isTrue trivial⟩

end

section

variable [Digests] [AddressSyntax] {start plane : Plane} {before : topologyPlane.Config}

theorem eventCall_restores (orderlyStart : Plane.Orderly before.state) (orderly : plane.Orderly)
    (permitted : restoresReleased before (.event event)) (plans : plane.plans = before.state.plans)
    (owned : ∀ topologyId revisionId operationId,
      (∃ nowMs updatedAt stop, event = .recoverExpired nowMs updatedAt stop) →
      plane.Owns topologyId revisionId operationId →
        Plane.Owns before.state topologyId revisionId operationId)
    (made : EventCall before.state event call plane) : call.Restores plane := by
  cases event with
  | createTopology spec note | editDraft topologyId expected spec note
  | rollbackDraft topologyId expected target note =>
    obtain ⟨rfl, _⟩ := made
    trivial
  | enqueueJob new nowMs | cancelJob jobId nowMs => cases made
  | pass env stop =>
    exact passCall_restores orderlyStart orderly
      (fun held payload runs => permitted _ runs.task) made
  | recoverExpired nowMs updatedAt stop =>
    exact recoveryCall_restores permitted plans
      (fun topologyId revisionId operationId =>
        owned topologyId revisionId operationId ⟨nowMs, updatedAt, stop, rfl⟩) made
  | recoverTerminal statuses updatedAt stop =>
    exact terminalCall_restores permitted plans made

theorem Plane.Restoring.react (reached : Run restoresReleased idlePlane before)
    (permitted : restoresReleased before (.event event))
    (restoring : Plane.Restoring before.state) : (Plane.react event before.state).Restoring := by
  have orderly := (reached_orderly reached).1
  -- recovery is followed call by call: it plans nothing and takes no head
  let invariant (now : Plane) : Prop :=
    now.Orderly ∧ now.Restoring ∧ now.plans = before.state.plans ∧
      ∀ topologyId revisionId operationId,
        (∃ nowMs updatedAt stop, event = .recoverExpired nowMs updatedAt stop) →
        now.Owns topologyId revisionId operationId →
          Plane.Owns before.state topologyId revisionId operationId
  have kept : invariant (Plane.react event before.state) := by
    refine react_invariant invariant orderly ?_ ?_
      ⟨orderly, restoring, rfl, fun _ _ _ _ owns => owns⟩
    · intro changes
      have orderlyAfter := orderly.react event
      obtain ⟨_, same⟩ := react_jobs changes before.state
      rw [same] at orderlyAfter ⊢
      exact ⟨orderlyAfter, restoring.keepsPlans rfl rfl (KeepsPlans.refl _), rfl,
        fun _ _ _ _ owns => owns⟩
    · rintro call now ⟨orderlyNow, restoringNow, plans, owned⟩ made
      have respects := eventCall_respects orderly made
      have restores := eventCall_restores orderly orderlyNow permitted plans owned made
      refine ⟨orderlyNow.exec respects, restoringNow.exec orderlyNow respects restores,
        (exec_plans (eventCall_unplanned made) now).trans plans, ?_⟩
      intro topologyId revisionId operationId recovers owns
      refine owned topologyId revisionId operationId recovers (owns.before ?_)
      obtain ⟨_, _, _, rfl⟩ := recovers
      exact recoveryCall_unbegun made
  exact kept.2.1

theorem run_restoring {config : topologyPlane.Config}
    (run : Run restoresReleased idlePlane config) : Plane.Restoring config.state := by
  refine run_plane Plane.Restoring ?_ ?_ ?_ run
  · intro before index loaded call reached permitted performs lawful restoring
    refine restoring.exec (reached_orderly reached).1 (requestCall_respects lawful) ?_
    cases lawful with
    | read reads => exact restores_of_isRead reads
    | release planned member =>
      intro _ owns
      obtain ⟨_, found⟩ := performs
      exact permitted _ found _ rfl owns
    | _ => trivial
  · intro before event reached permitted restoring
    exact restoring.react reached permitted
  · constructor
    · intro topologyId heads operationId found
      simp [Plane.empty, TopologyTables.empty] at found
    · intro topologyId heads operationId revisionId found
      simp [Plane.empty, TopologyTables.empty] at found

/-- An abort that succeeds leaves the bindings of its payload, and the providers
restored. -/
theorem abort_restores {before after : topologyPlane.Config} {operationId : String}
    {payload : TopologyApplyPayload} (reached : Run restoresReleased idlePlane before)
    (step : Step restoresReleased before after)
    (succeeds : Plane.SucceedsAbort before.state after.state operationId payload) :
    (after.state.topology.bindingsOf payload.topologyId).Perm payload.previousBindings ∧
      Plane.ProvidersRestored after.state payload.topologyId operationId := by
  have orderly := (reached_orderly reached).1
  obtain ⟨_, _, _, _, _, runs, rfl, heads, found, ⟨same, replays⟩ | ⟨_, previous,
    rewound⟩⟩ := abort_step reached step succeeds
  · obtain ⟨free, last, differs⟩ := replaysAbort_cases replays
    have single : payload.isSingle := .inr (.inr succeeds.1)
    have clean := (run_restoring reached).released _ heads _ _ found last
      (orderly.runs_plans runs single) free differs
    obtain ⟨plan, planned, topology, member, sameTopology, _, previous⟩ :=
      orderly.runs_topology runs single
    rw [previous]
    exact (clean.congr (by rw [same.topology]) same.providerCalls (by rw [same.plans]) :
      Plane.AsBefore after.state _ _) plan (by rw [same.plans]; exact planned) topology member
        sameTopology.symm
  · rw [rewound.bindings]
    exact ⟨List.Perm.refl _, .inr ⟨_, rewound.provider, rfl⟩⟩

end

namespace TopologyScenario

def staged (operationId requirement : String) : ApiBinding :=
  { bindingId := "binding-" ++ requirement
    requirementName := requirement
    apiId := "api"
    apiVersion := "v1"
    consumerDeploymentId := "consumer"
    consumerServiceId := "consumer"
    consumerNodeId := "node"
    consumerEndpoint := ""
    providerDeploymentId := "provider-" ++ requirement
    providerServiceId := ""
    providerNodeId := ""
    providerEndpoint := ""
    providerPath := ""
    virtualEndpoint := ""
    protocol := "http"
    methods := []
    authMode := ""
    providerAuthMode := ""
    permission := ""
    timeoutMs := none
    topologyId := "t"
    topologyRevisionId := "t:r1:one"
    linkSourceEndpoint := ""
    linkTargetEndpoint := ""
    credentialRef := ""
    credentialGeneration := 1
    contextGeneration := 1
    desiredState := .active
    observedState := .pending
    health := .unknown
    drift := []
    lastOperationId := operationId
    state := .pending
    isOptional := false
    reason := ""
    createdAt := "now"
    updatedAt := "now" }

def swapPlan : StoreTopologyApplyPlan :=
  ⟨"t", "t:r1:one", [staged "swap" "second"], []⟩

def swapRequested : List topologyPlane.Action :=
  .event (.createTopology (specOf "one") note) ::
    requests { applying "swap" "t:r1:one" [staged "swap" "second"] with
      bootstraps := [("t", [staged "swap" "first"])] }

def swapJob (jobId : String) (phase : TopologyApplyPhase) (bindings : List ApiBinding) : NewJob :=
  jobOf "swap" jobId (ApplyPlan.payloadOf swapPlan phase bindings)

def bootstraps (env : WorkerEnvironment) : List topologyPlane.Action :=
  works (swapJob "bootstrap" .prepare [staged "swap" "first"]) env

def swapAbort : TopologyApplyPayload :=
  ApplyPlan.payloadOf swapPlan .abort [staged "swap" "second"]

/-- The abort of the replacement after what happened before it. -/
theorem exists_swapAborted (permits : topologyPlane.Discipline) [permits.Checkable]
    (actions : List topologyPlane.Action) (bindings : List ApiBinding) (restored : Bool)
    (played : ∃ aborting ∈ play permits idlePlane (swapRequested ++ actions ++
        [.event (.enqueueJob (jobOf "swap" "abort" swapAbort) 0)]),
      ∃ aborted ∈ play permits aborting [finalizes "t:r1:one" "one"],
        Plane.showsAbort aborting.state aborted.state "abort" "swap" swapAbort = true ∧
        aborted.state.topology.bindingsOf "t" = bindings ∧
        decide (Plane.ProvidersRestored aborted.state "t" "swap") = restored ∧
        ∃ job ∈ aborted.state.jobs.get "abort",
          (job.result.bind (·.get "restored")) = some (.bool true)) :
    ∃ aborting aborted, Run permits idlePlane aborting ∧ Step permits aborting aborted ∧
      Plane.SucceedsAbort aborting.state aborted.state "swap" swapAbort ∧
      aborted.state.topology.bindingsOf "t" = bindings ∧
      decide (Plane.ProvidersRestored aborted.state "t" "swap") = restored ∧
      ∃ job, aborted.state.jobs.get "abort" = some job ∧
        (job.result.bind (·.get "restored")) = some (.bool true) := by
  obtain ⟨aborting, reached, aborted, step, succeeds, rest⟩ := played
  exact ⟨aborting, aborted, run_of_play permits reached, step_of_play permits step,
    Plane.succeedsAbort_of_shows "abort" succeeds, rest⟩

/-- The providers refuse the revision and prove that they restored what was there. -/
def refusing : WorkerEnvironment :=
  { serving "t:r1:one" "one" with
    applied := .error ⟨.failed, .gatewayApply, .notRequired, .restoredPrevious, ""⟩ }

/-- The bootstrap is refused, so the abort finds everything as before. -/
theorem abort_restores_refused : ∃ aborting aborted, Run restoresReleased idlePlane aborting ∧
      Step restoresReleased aborting aborted ∧
      Plane.SucceedsAbort aborting.state aborted.state "swap" swapAbort ∧
      (aborted.state.topology.bindingsOf "t").Perm [] ∧
      Plane.ProvidersRestored aborted.state "t" "swap" := by
  obtain ⟨aborting, aborted, reached, step, succeeds, _⟩ := exists_swapAborted
    restoresReleased (bootstraps refusing) [] true (by decide +kernel)
  exact ⟨aborting, aborted, reached, step, succeeds, abort_restores reached step succeeds⟩

def unhealthy : WorkerEnvironment :=
  { serving "t:r1:one" "one" with
    runtime := fun _ _ deploymentId =>
      if deploymentId = "provider-second" then .missing else .available }

/-- The bootstrap succeeds and the second first phase is refused by the health check.
It releases the head as failed and restores nothing, so the abort reports what was
not restored. -/
theorem abort_reports_unrestored : ∃ aborting aborted, Run anySchedule idlePlane aborting ∧
      Step anySchedule aborting aborted ∧
      Plane.SucceedsAbort aborting.state aborted.state "swap" swapAbort ∧
      (∃ job, aborted.state.jobs.get "abort" = some job ∧
        (job.result.bind (·.get "restored")) = some (.bool true)) ∧
      aborted.state.topology.bindingsOf "t" = [staged "swap" "first"] ∧
      ¬ (aborted.state.topology.bindingsOf "t").Perm swapAbort.previousBindings ∧
      ¬ Plane.ProvidersRestored aborted.state "t" "swap" := by
  obtain ⟨aborting, aborted, reached, step, succeeds, rows, providers, reports⟩ :=
    exists_swapAborted anySchedule (bootstraps (serving "t:r1:one" "one") ++
        works (swapJob "prepare" .prepare [staged "swap" "second"]) unhealthy)
      [staged "swap" "first"] false (by decide +kernel)
  refine ⟨aborting, aborted, reached, step, succeeds, reports, rows, ?_,
    of_decide_eq_false providers⟩
  rw [rows]
  intro same
  exact absurd same.length_eq (by decide)

end TopologyScenario

end UntitledOJ
