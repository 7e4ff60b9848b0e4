import UntitledOJ.WorkerPasses

/-!
# What recovery and requests do

The calls of the two recovery routines and of an apply request, each with what is
known when it is made.
-/

namespace UntitledOJ

open Program (meets_bind Meets forEach Logic ensures_bind)
open Worked Plane

/-- Only heads, statuses and jobs differ. -/
structure Plane.SameRows (before after : Plane) : Prop where
  bindings : after.topology.bindings = before.topology.bindings
  providerCalls : after.providerCalls = before.providerCalls

theorem Plane.SameRows.refl (plane : Plane) : plane.SameRows plane := ⟨rfl, rfl⟩

def TopologyApplyPayload.identities (payload : TopologyApplyPayload) : List (String × String) :=
  if payload.phase = .finalizeGroup then
    payload.group.map fun member => (member.topologyId, member.revisionId)
  else [(payload.topologyId, payload.revisionId)]

def isRecoverable (job : Job) : Prop :=
  (job.kind = .topologyApply ∨ job.kind = .contributionProjection) ∧
    isContributionJob job = false

/-- The calls of `recover_expired`. -/
inductive RecoveryCall (start : Plane) (nowMs : Int) : PlaneCall → Plane → Prop
  | read {call : PlaneCall} {plane : Plane} (reads : call.isRead = true) :
      RecoveryCall start nowMs call plane
  | resolve {job : Job} {payload : TopologyApplyPayload} {members : List TopologyApplyGroupMember}
      {result : Value} {plane : Plane} (expired : job ∈ start.jobs.expiredLeases nowMs)
      (recoverable : isRecoverable job)
      (decoded : TopologyApplyPayload.ofDocument job.payload = .ok payload)
      (provable : successIdentities payload ≠ none) :
      RecoveryCall start nowMs
        (.resolveExpiredGroupSuccess members job.operationId job.jobId nowMs result) plane
  | finish {job : Job} {payload : TopologyApplyPayload} {topologyId revisionId updatedAt : String}
      {plane : Plane} (expired : job ∈ start.jobs.expiredLeases nowMs)
      (recoverable : isRecoverable job)
      (decoded : TopologyApplyPayload.ofDocument job.payload = .ok payload)
      (named : (topologyId, revisionId) ∈ payload.identities) (same : start.SameRows plane) :
      RecoveryCall start nowMs
        (.topology (.finish topologyId revisionId job.operationId .degraded updatedAt)) plane
  | degrade {status : TopologyStatus} {plane : Plane} :
      RecoveryCall start nowMs (.topology (.putStatus status)) plane
  | recover {plane : Plane} : RecoveryCall start nowMs (.recoverJobs nowMs) plane

/-- The calls of `recover_terminal_topology_applies`. -/
inductive TerminalCall (start : Plane) (statuses : String → Option DurableOperationStatus) :
    PlaneCall → Plane → Prop
  | read {call : PlaneCall} {plane : Plane} (reads : call.isRead = true) :
      TerminalCall start statuses call plane
  | finish {heads : TopologyHeads} {revisionId operationId updatedAt : String}
      {outcome : TopologyApplyOutcome} {detail : Option String} {plane : Plane}
      (listed : heads ∈ start.topology.heads.toList.map Prod.snd)
      (applying : heads.applyingRevisionId = some revisionId)
      (owner : heads.applyingOperationId = some operationId)
      (released : terminalRelease (statuses operationId) = some (outcome, detail))
      (same : start.SameRows plane) :
      TerminalCall start statuses
        (.topology (.finish heads.topologyId revisionId operationId outcome updatedAt)) plane
  | degrade {status : TopologyStatus} {plane : Plane} :
      TerminalCall start statuses (.topology (.putStatus status)) plane

inductive RequestCall : PlaneCall → Plane → Prop
  | read {call : PlaneCall} {plane : Plane} (reads : call.isRead = true) : RequestCall call plane
  | draft {topologyId expected : String} {spec : TopologySpec} {note : RevisionNote}
      {plane : Plane} : RequestCall (.topology (.createNext topologyId expected spec note)) plane
  | plan {operationId : String} {plan : ApplyPlan} {plane : Plane} :
      RequestCall (.plan operationId plan) plane
  | begin {operationId updatedAt : String} {plan : ApplyPlan} {topology : StoreTopologyApplyPlan}
      {plane : Plane} (planned : plane.plans[operationId]? = some plan)
      (member : topology ∈ plan.topologies) :
      RequestCall (.topology (.beginApply topology.topologyId topology.revisionId operationId
        updatedAt)) plane
  | release {operationId updatedAt : String} {plan : ApplyPlan}
      {topology : StoreTopologyApplyPlan} {plane : Plane}
      (planned : plane.plans[operationId]? = some plan) (member : topology ∈ plan.topologies) :
      RequestCall (.topology (.finish topology.topologyId topology.revisionId operationId .failed
        updatedAt)) plane

variable {operationId : String}

section

variable [Digests] [AddressSyntax] {start plane : Plane} {nowMs : Int}

theorem sameRows_topology {call : TopologyCall} {after : TopologyTables} {result : call.Result}
    (same : start.SameRows plane)
    (committed : plane.topology.exec plane.leaseEvidence call = (.ok result, after))
    (unwritten : call.rewritten plane.topology.bindings = plane.topology.bindings) :
    start.SameRows (plane.withTables call after) :=
  ⟨((TopologyTables.exec_bindings committed).1.trans unwritten).trans same.bindings,
    same.providerCalls⟩

variable {topologyId detail updatedAt : String} {lawful : PlaneCall → Plane → Prop}
  {revisionId : String}

section

variable (reads : ∀ call now, call.isRead = true → lawful call now)
  (degrades : ∀ status now, lawful (.topology (.putStatus status)) now)
include reads degrades

theorem markDegraded_sameRows (same : start.SameRows plane) :
    Keeps lawful (fun now => start.SameRows now)
      (markDegraded topologyId operationId detail updatedAt) plane := by
  refine ⟨reads _ _ rfl, keeps_orMissing ?_ same⟩
  intro status _
  refine keeps_topology (degrades _ _) ?_ ?_
  · rintro ⟨⟩ after committed
    exact sameRows_topology same committed rfl
  · intro _ _
    exact same

theorem finishUnknown_sameRows
    (allowed : lawful (.topology (.finish topologyId revisionId operationId .degraded
      updatedAt)) plane) (same : start.SameRows plane) :
    Keeps lawful (fun now => start.SameRows now)
      (finishUnknownTopologyApply topologyId revisionId operationId detail updatedAt) plane := by
  refine keeps_topology allowed ?_ ?_
  · intro finished after committed
    have sameNow := sameRows_topology same committed rfl
    exact keeps_orFail (fun _ _ => markDegraded_sameRows reads degrades sameNow) sameNow
  · intro error _
    exact keeps_orFail nofun same

end

variable {job : Job} {payload : TopologyApplyPayload}

section

variable (expired : job ∈ start.jobs.expiredLeases nowMs) (recoverable : isRecoverable job)
  (decoded : TopologyApplyPayload.ofDocument job.payload = .ok payload)
include expired recoverable decoded

theorem recoverUnknown_keeps (named : (topologyId, revisionId) ∈ payload.identities)
    (same : start.SameRows plane) : Keeps (RecoveryCall start nowMs) (fun now => start.SameRows now)
      (recoverUnknownTopologyApply topologyId revisionId job.operationId detail updatedAt)
      plane := by
  unfold recoverUnknownTopologyApply
  refine keeps_heads (.read rfl) (keeps_orMissing ?_ same)
  intro heads _
  split_ifs
  · exact finishUnknown_sameRows (fun _ _ => .read) (fun _ _ => .degrade)
      (.finish expired recoverable decoded named same) same
  · exact same
  · exact markDegraded_sameRows (fun _ _ => .read) (fun _ _ => .degrade) same

theorem recoverUnknownPayload_keeps (same : start.SameRows plane) :
    Keeps (RecoveryCall start nowMs) (fun now => start.SameRows now)
      (recoverUnknownTopologyPayload payload job.operationId updatedAt) plane := by
  unfold recoverUnknownTopologyPayload
  by_cases group : payload.phase = .finalizeGroup
  · split_ifs with empty
    · exact same
    refine keeps_forEach ?_ ?_ (fun _ sameNow => sameNow) same
    · intro member inside now sameNow
      have named : (member.topologyId, member.revisionId) ∈ payload.identities := by
        rw [TopologyApplyPayload.identities, if_pos group]
        exact List.mem_map_of_mem inside
      refine meets_bind.mpr (Program.meets_attempt.mpr ?_)
      have recovered : Keeps (RecoveryCall start nowMs) (fun now => start.SameRows now)
          (recoverGroupMember job.operationId
            "control-plane worker lease expired with an unproven grouped provider outcome"
            updatedAt member) now := by
        refine meets_bind.mpr (Meets.weaken
          (recoverUnknown_keeps expired recoverable decoded named sameNow) ?_)
        intro outcome later sameLater
        cases outcome with
        | error error => exact sameLater
        | ok _ =>
          exact markDegraded_sameRows (fun _ _ => .read) (fun _ _ => .degrade) sameLater
      refine Meets.weaken recovered ?_
      intro outcome later sameLater
      cases outcome <;> exact sameLater
    · intro failures now sameNow
      simp only
      split_ifs
      · exact sameNow
      · exact sameNow
  · rw [if_neg group]
    refine recoverUnknown_keeps expired recoverable decoded ?_ same
    rw [TopologyApplyPayload.identities, if_neg group]
    exact List.mem_singleton_self _

end

theorem expiredSuccessPlan_keeps {β : Type}
    {next : Option (List TopologyApplyGroupMember × Value) → Worked β} {ended : Plane → Prop}
    (continues : ∀ plan, (plan.isSome = true → successIdentities payload ≠ none) →
      Keeps (RecoveryCall start nowMs) ended (next plan) plane) (fails : ended plane) :
    Keeps (RecoveryCall start nowMs) ended
      (topologyExpiredSuccessPlan job payload >>= next) plane := by
  unfold topologyExpiredSuccessPlan
  cases provable : successIdentities payload with
  | none => exact continues none nofun
  | some identities =>
    simp only
    split_ifs
    · exact fails
    refine meets_bind.mpr ?_
    have counted : Keeps (RecoveryCall start nowMs) (fun now => now = plane)
        (do
          let members ← forEach countBindings identities
          return some
            (members.map fun member : ExpiredMember =>
                (⟨member.topologyId, member.revisionId, []⟩ : TopologyApplyGroupMember),
              expiredResult payload members)) plane := by
      refine keeps_forEach ?_ (fun _ now same => same) (fun _ same => same) rfl
      rintro identity _ now rfl
      exact keeps_bindings (.read rfl) (keeps_orFail (fun _ _ => rfl) rfl)
    refine Meets.weaken counted ?_
    rintro outcome now rfl
    cases outcome with
    | error error => exact fails
    | ok plan => exact continues plan fun _ => by rw [provable]; nofun

theorem resolve_sameRows (same : start.SameRows plane) (members : List TopologyApplyGroupMember)
    (operationId jobId : String) (now : Int) (result : Value) : start.SameRows
      (exec (.resolveExpiredGroupSuccess members operationId jobId now result) plane).2 := by
  simp only [exec, Plane.resolveExpiredGroupSuccess]
  split
  · exact same
  · split
    · exact same
    · split_ifs
      · exact ⟨same.bindings, same.providerCalls⟩
      · exact same

theorem recoverExpiredJob_keeps (expired : job ∈ start.jobs.expiredLeases nowMs)
    (same : start.SameRows plane) : Keeps (RecoveryCall start nowMs) (fun now => start.SameRows now)
      (recoverExpiredJob nowMs updatedAt job) plane := by
  unfold recoverExpiredJob
  by_cases skipped : (job.kind ≠ .topologyApply ∧ job.kind ≠ .contributionProjection) ∨
      isContributionJob job = true
  · rw [if_pos skipped]
    exact same
  rw [if_neg skipped]
  have recoverable : isRecoverable job := by
    simpa only [isRecoverable, not_or, not_and_or, ne_eq, not_not, Bool.not_eq_true] using skipped
  refine keeps_orFail ?_ same
  intro payload decoded
  refine expiredSuccessPlan_keeps ?_ same
  intro plan provable
  cases plan with
  | none => exact recoverUnknownPayload_keeps expired recoverable decoded same
  | some evidence =>
    obtain ⟨members, result⟩ := evidence
    refine ⟨.resolve expired recoverable decoded (provable rfl), ?_⟩
    have sameNow := resolve_sameRows same members job.operationId job.jobId nowMs result
    refine keeps_orFail ?_ sameNow
    intro resolved _
    split_ifs
    · exact sameNow
    · exact recoverUnknownPayload_keeps expired recoverable decoded sameNow

theorem recoverExpired_keeps : Keeps (RecoveryCall start nowMs) (fun now => start.SameRows now)
      (recoverExpired nowMs updatedAt) start := by
  unfold recoverExpired
  refine ⟨.read rfl, ?_⟩
  refine keeps_forEach ?_ ?_ (fun _ same => same) (SameRows.refl start)
  · intro job expired now same
    exact recoverExpiredJob_keeps expired same
  · intro _ now same
    exact ⟨.recover, same.bindings, same.providerCalls⟩

variable {statuses : String → Option DurableOperationStatus}

theorem recoverTerminalHead_keeps {heads : TopologyHeads}
    (listed : heads ∈ start.topology.heads.toList.map Prod.snd) (same : start.SameRows plane) :
    Keeps (TerminalCall start statuses) (fun now => start.SameRows now)
      (recoverTerminalHead statuses updatedAt heads) plane := by
  unfold recoverTerminalHead
  cases applying : heads.applyingRevisionId with
  | none => exact same
  | some revisionId =>
    cases owner : heads.applyingOperationId with
    | none => exact same
    | some operationId =>
      simp only
      cases released : terminalRelease (statuses operationId) with
      | none => exact same
      | some release =>
        obtain ⟨_, detail⟩ := release
        refine keeps_topology (.finish listed applying owner released same) ?_ ?_
        · intro finished after committed
          have sameNow := sameRows_topology same committed rfl
          refine keeps_orFail ?_ sameNow
          intro _ _
          cases detail with
          | none => exact sameNow
          | some detail =>
            exact markDegraded_sameRows (fun _ _ => .read) (fun _ _ => .degrade) sameNow
        · intro error _
          exact keeps_orFail nofun same

theorem recoverTerminal_keeps : Keeps (TerminalCall start statuses) (fun now => start.SameRows now)
      (recoverTerminalTopologyApplies statuses updatedAt) start := by
  unfold recoverTerminalTopologyApplies
  refine ⟨.read rfl, ?_⟩
  refine keeps_forEach ?_ (fun _ _ same => same) (fun _ same => same) (SameRows.refl start)
  intro heads listed now same
  exact recoverTerminalHead_keeps listed same

end

def PlaneCall.isPlanning : PlaneCall → Prop
  | .topology (.createNext ..) => True
  | call => call.isRead = true

theorem requestCall_of_isPlanning {call : PlaneCall} {plane : Plane} (planning : call.isPlanning) :
    RequestCall call plane := by
  cases call with
  | topology call =>
    cases call with
    | createNext topologyId expected spec note => exact .draft
    | _ => cases planning
  | _ => exact .read planning

theorem orFail_planning {Error α : Type} (text : Error → String) (outcome : Except Error α) :
    (orFail text outcome).ReadOnly PlaneCall.isPlanning := by
  cases outcome <;> trivial

theorem orMissing_planning {α : Type} (message : String) (value : Option α) :
    (orMissing message value).ReadOnly PlaneCall.isPlanning := by
  cases value <;> trivial

theorem storedRevision_planning (topologyId revisionId missing : String) :
    (storedRevision topologyId revisionId missing).ReadOnly PlaneCall.isPlanning :=
  ⟨rfl, fun _ => (orFail_planning _ _).bind fun _ => orMissing_planning _ _⟩

theorem selectedTopologySpec_planning (selection : SiblingSelection) :
    (ApplyRequest.selectedTopologySpec selection).ReadOnly PlaneCall.isPlanning := by
  refine ⟨rfl, fun found => ?_⟩
  refine (orMissing_planning _ _).bind fun heads => ?_
  split_ifs
  · trivial
  refine (orMissing_planning _ _).bind fun revisionId => ?_
  split_ifs
  · trivial
  · trivial
  · exact (storedRevision_planning _ _ _).bind fun _ => trivial

variable (request : ApplyRequest)

theorem propose_planning (selection : SiblingSelection) :
    (request.proposeGenerationSiblingTopology selection).ReadOnly PlaneCall.isPlanning := by
  refine (selectedTopologySpec_planning selection).bind fun ⟨spec, expected⟩ => ?_
  refine ⟨trivial, fun created => ?_⟩
  refine (orFail_planning _ _).bind fun revision => ?_
  refine ⟨rfl, fun bindings => ?_⟩
  exact (orFail_planning _ _).bind fun _ => (orFail_planning _ _).bind fun _ => trivial

theorem planTopologies_planning : request.planTopologies.ReadOnly PlaneCall.isPlanning := by
  refine ⟨rfl, fun found => ?_⟩
  refine (orMissing_planning _ _).bind fun heads => ?_
  split_ifs
  · trivial
  refine (storedRevision_planning _ _ _).bind fun _ => ?_
  refine ⟨rfl, fun bindings => ?_⟩
  refine (orFail_planning _ _).bind fun _ => (orFail_planning _ _).bind fun _ => ?_
  refine (Program.readOnly_forEach selectedTopologySpec_planning).bind fun _ => ?_
  refine (Program.readOnly_forEach (propose_planning request)).bind fun _ => ?_
  exact (orFail_planning _ _).bind fun _ => trivial

def Plane.KeepsPlans (before after : Plane) : Prop :=
  ∀ (operationId : String) plan,
    before.plans[operationId]? = some plan → after.plans[operationId]? = some plan

theorem Plane.KeepsPlans.refl (plane : Plane) : plane.KeepsPlans plane := fun _ _ found => found

theorem Plane.KeepsPlans.trans {first second third : Plane} (earlier : first.KeepsPlans second)
    (later : second.KeepsPlans third) : first.KeepsPlans third :=
  fun operationId plan found => later operationId plan (earlier operationId plan found)

def ApplyRequest.Recorded (request : ApplyRequest) (topologies : List StoreTopologyApplyPlan)
    (plane : Plane) : Prop :=
  plane.plans[request.operationId]? = some ⟨topologies, request.bootstraps⟩

theorem recordPlan_recorded {plane : Plane} {plan : ApplyPlan}
    (accepted : (plane.recordPlan operationId plan).1 = true) :
    (plane.recordPlan operationId plan).2.plans[operationId]? = some plan := by
  unfold recordPlan at accepted ⊢
  split at accepted
  · rename_i existing found
    have same : existing = plan := of_decide_eq_true accepted
    simp only [found, same]
  · split_ifs at accepted ⊢ with distinct
    exact Std.TreeMap.getElem?_insert_self

variable [Digests] [AddressSyntax]

theorem exec_topology_plans (call : TopologyCall) (plane : Plane) :
    (exec (.topology call) plane).2.plans = plane.plans := by
  rcases exec_topology_cases plane call with ⟨_, _, _, same⟩ | ⟨_, _, same⟩
  · rw [same]
    rfl
  · rw [same]

/-- The logic in which requests are followed: others may do anything but change a
plan. -/
abbrev requestLogic (known : Plane → Prop) : Logic Plane PlaneCall.Reply :=
  topologyPlane.logic KeepsPlans known fun _ call now => RequestCall call now

theorem ensures_topology {β : Type} {known : Plane → Prop} {call : TopologyCall}
    {next : Except StorageError call.Result → Worked β}
    {post : Except String β → Plane → Plane → Prop} {loaded state : Plane}
    (holds : ∀ now, state.KeepsPlans now → RequestCall (.topology call) now ∧
      ∀ reply marked, (next reply).Ensures (requestLogic known) post marked
        (exec (.topology call) now).2) :
    (Worked.topology call >>= next).Ensures (requestLogic known) post loaded state :=
  fun now relied _ => ⟨(holds now relied).1, (holds now relied).2 _ _⟩

namespace ApplyRequest

variable {request : ApplyRequest} {known : Plane → Prop} {loaded state : Plane}
  {topologies : List StoreTopologyApplyPlan}

theorem Recorded.topology (recorded : request.Recorded topologies state) (call : TopologyCall) :
    request.Recorded topologies (exec (.topology call) state).2 := by
  rw [Recorded, exec_topology_plans]
  exact recorded

theorem releaseBegun_ensures {begun : List StoreTopologyApplyPlan} {error : String}
    (inside : ∀ topology ∈ begun, topology ∈ topologies)
    (recorded : request.Recorded topologies state) :
    (request.releaseBegun begun error).Ensures (requestLogic known) (fun _ _ _ => True) loaded
      state := by
  unfold releaseBegun
  rw [ensures_bind]
  induction begun generalizing loaded state with
  | nil => trivial
  | cons topology rest ih =>
    refine ensures_topology fun now relied => ?_
    have recordedNow : request.Recorded topologies now := relied _ _ recorded
    refine ⟨.release recordedNow (inside topology List.mem_cons_self), fun _ marked => ?_⟩
    refine ensures_bind.mpr ((ih (fun other member =>
      inside other (List.mem_cons_of_mem _ member)) (recordedNow.topology _)).weaken ?_)
    intro outcome _ _ ended
    cases outcome <;> exact ended

theorem beginTopologies_ensures {begun rest : List StoreTopologyApplyPlan}
    (inside : ∀ topology ∈ begun, topology ∈ topologies)
    (left : ∀ topology ∈ rest, topology ∈ topologies)
    (recorded : request.Recorded topologies state) :
    (request.beginTopologies begun rest).Ensures (requestLogic known) (fun _ _ _ => True) loaded
      state := by
  induction rest generalizing begun loaded state with
  | nil =>
    unfold beginTopologies
    cases request.enqueued with
    | ok _ => trivial
    | error error => exact releaseBegun_ensures inside recorded
  | cons topology rest ih =>
    have here := left topology List.mem_cons_self
    refine ensures_topology fun now relied => ?_
    have recordedNow : request.Recorded topologies now := relied _ _ recorded
    refine ⟨.begin recordedNow here, fun reply marked => ?_⟩
    cases reply with
    | error error => exact releaseBegun_ensures inside (recordedNow.topology _)
    | ok revision =>
      refine ih ?_ (fun other member => left other (List.mem_cons_of_mem _ member))
        (recordedNow.topology _)
      rw [List.forall_mem_cons]
      exact ⟨here, inside⟩

theorem enqueueApply_ensures (request : ApplyRequest) (known : Plane → Prop)
    (loaded state : Plane) :
    request.enqueueApply.Ensures (requestLogic known) (fun _ _ _ => True) loaded state := by
  unfold enqueueApply
  rw [ensures_bind]
  refine Program.ensures_of_unguarded (fun _ _ _ => requestCall_of_isPlanning)
    (planTopologies_planning request) ?_ loaded state
  intro outcome marked planned
  cases outcome with
  | error error => trivial
  | ok topologies =>
    intro now _ _
    refine ⟨.plan, ?_⟩
    have recorded : (now.recordPlan request.operationId ⟨topologies, request.bootstraps⟩).1 =
        true → request.Recorded topologies
          (now.recordPlan request.operationId ⟨topologies, request.bootstraps⟩).2 :=
      recordPlan_recorded
    change (if (now.recordPlan request.operationId ⟨topologies, request.bootstraps⟩).1 = true then
      _ else _ : Worked Unit).Ensures (requestLogic known) _ _
        (now.recordPlan request.operationId ⟨topologies, request.bootstraps⟩).2
    revert recorded
    generalize now.recordPlan request.operationId ⟨topologies, request.bootstraps⟩ = answer
    intro recorded
    split_ifs with accepted
    · cases request.confirmed with
      | error error => trivial
      | ok _ => exact beginTopologies_ensures nofun (fun _ member => member) (recorded accepted)
    · trivial

end ApplyRequest

end UntitledOJ
