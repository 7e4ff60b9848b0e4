import UntitledOJ.ApplyDisciplines

/-!
# Where an abort returns to

An abort over a completed apply makes the parent of the applied revision the applied head.  That
is the revision applied before only when every apply begins with a draft of the applied one.
-/

namespace UntitledOJ

open Worked Plane Platform TopologyTables

variable {heads : TopologyHeads} {call : TopologyCall}

namespace TopologyTables

def Drafts (tables : TopologyTables) (topologyId revisionId : String) (parent : Option String) :
    Prop :=
  ∃ revision, tables.revision? topologyId revisionId = some revision ∧
    revision.parentRevisionId = parent

variable {tables after : TopologyTables} {topologyId revisionId : String}
  {parent other : Option String}

section

variable (drafts : tables.Drafts topologyId revisionId parent)
include drafts

theorem Drafts.parentOf : tables.parentOf topologyId revisionId = parent := by
  obtain ⟨_, found, rfl⟩ := drafts
  rw [parentOf, found]
  rfl

theorem Drafts.unique (again : tables.Drafts topologyId revisionId other) : parent = other :=
  drafts.parentOf.symm.trans again.parentOf

theorem Drafts.commits (commits : Commits tables call after) :
    after.Drafts topologyId revisionId parent := by
  obtain ⟨revision, found, drafted⟩ := drafts
  exact ⟨revision, commits.revision? found, drafted⟩

end

theorem Sound.drafts (sound : tables.Sound) (found : tables.heads[topologyId]? = some heads)
    (names : heads.Names revisionId) :
    tables.Drafts topologyId revisionId (tables.parentOf topologyId revisionId) := by
  obtain ⟨stored, member, sameTopology, sameRevision⟩ :=
    sound.stored topologyId heads revisionId found names
  cases lookup : tables.revision? topologyId revisionId with
  | none =>
    have absent := List.find?_eq_none.mp lookup stored member
    simp [sameTopology, sameRevision] at absent
  | some revision =>
    refine ⟨revision, lookup, ?_⟩
    rw [parentOf, lookup]
    rfl

end TopologyTables

def Plane.DrawsOnApplied (plane : Plane) (topologyId revisionId : String) : Prop :=
  ∀ heads ∈ plane.topology.heads[topologyId]?,
    plane.topology.parentOf topologyId revisionId = heads.appliedRevisionId
deriving Decidable

/-- Every apply is that of a draft of the applied revision; `was` holds of past applied heads. -/
structure Plane.Rooted (was : String → Option String → Prop) (plane : Plane) : Prop where
  applying : ∀ topologyId heads revisionId,
    plane.topology.heads[topologyId]? = some heads →
    heads.applyingRevisionId = some revisionId →
      plane.topology.Drafts topologyId revisionId heads.appliedRevisionId
  settled : ∀ topologyId heads operationId,
    plane.topology.heads[topologyId]? = some heads →
    heads.lastOperationId = some operationId →
      ∃ revisionId previous, plane.Plans operationId topologyId revisionId ∧
        plane.topology.Drafts topologyId revisionId previous ∧ was topologyId previous ∧
        (heads.appliedRevisionId = some revisionId ∨ heads.appliedRevisionId = previous)
  compensated : ∀ topologyId revisionId previous bindings operationId outcome,
    ProviderCall.compensate topologyId revisionId previous bindings operationId outcome ∈
      plane.providerCalls →
    plane.Plans operationId topologyId revisionId ∧
      plane.topology.Drafts topologyId revisionId (previous.map (·.revisionId)) ∧
      ∀ revision ∈ previous,
        plane.topology.revision? topologyId revision.revisionId = some revision

def PlaneCall.Returns (was : String → Option String → Prop) : PlaneCall → Plane → Prop
  | .topology (.beginApply topologyId revisionId operationId _), plane =>
    plane.Plans operationId topologyId revisionId ∧
      ∀ heads, plane.topology.heads[topologyId]? = some heads →
        plane.topology.parentOf topologyId revisionId = heads.appliedRevisionId ∧
          was topologyId heads.appliedRevisionId
  | .topology (.compensateCompleted topologyId revisionId previous operationId _), plane =>
    plane.Plans operationId topologyId revisionId ∧
      plane.topology.parentOf topologyId revisionId = some previous
  | .provider (.compensate topologyId revisionId previous _ operationId _), plane =>
    plane.Plans operationId topologyId revisionId ∧
      plane.topology.Drafts topologyId revisionId (previous.map (·.revisionId)) ∧
      ∀ revision ∈ previous,
        plane.topology.revision? topologyId revision.revisionId = some revision
  | _, _ => True

variable {operationId : String} {topologyId revisionId : String}

namespace Plane

variable {was : String → Option String → Prop} {plane : Plane}

theorem Orderly.plans_unique (orderly : plane.Orderly) {other : String}
    (plans : plane.Plans operationId topologyId revisionId)
    (again : plane.Plans operationId topologyId other) : revisionId = other := by
  obtain ⟨plan, found, _, inside, rfl, rfl⟩ := plans
  obtain ⟨_, foundAgain, _, insideAgain, same, rfl⟩ := again
  cases found.symm.trans foundAgain
  have distinct := orderly.distinct operationId plan found
  have looked := ApplyPlan.topology?_of_mem distinct inside
  rw [← same, ApplyPlan.topology?_of_mem distinct insideAgain] at looked
  rw [Option.some.inj looked]

theorem Rooted.keepsPlans (rooted : plane.Rooted was) {later : Plane}
    (topology : later.topology = plane.topology)
    (providerCalls : later.providerCalls = plane.providerCalls) (kept : plane.KeepsPlans later) :
    later.Rooted was := by
  refine ⟨?_, ?_, ?_⟩
  · rw [topology]
    exact rooted.applying
  · rw [topology]
    intro topologyId heads operationId found last
    obtain ⟨revisionId, previous, plans, rest⟩ :=
      rooted.settled topologyId heads operationId found last
    exact ⟨revisionId, previous, plans.mono kept, rest⟩
  · rw [topology, providerCalls]
    intro topologyId revisionId previous bindings operationId outcome member
    obtain ⟨plans, rest⟩ :=
      rooted.compensated topologyId revisionId previous bindings operationId outcome member
    exact ⟨plans.mono kept, rest⟩

theorem Rooted.mono {wider : String → Option String → Prop} (rooted : plane.Rooted was)
    (implies : ∀ topologyId applied, was topologyId applied → wider topologyId applied) :
    plane.Rooted wider := by
  refine ⟨rooted.applying, ?_, rooted.compensated⟩
  intro topologyId heads operationId found last
  obtain ⟨revisionId, previous, plans, drafts, past, applied⟩ :=
    rooted.settled topologyId heads operationId found last
  exact ⟨revisionId, previous, plans, drafts, implies _ _ past, applied⟩

section

variable {after : TopologyTables}

theorem returns_of_compensates {previousId : String}
    (returns : (PlaneCall.topology call).Returns was plane)
    (called : call.Compensates topologyId revisionId previousId operationId) :
    plane.Plans operationId topologyId revisionId ∧
      plane.topology.parentOf topologyId revisionId = some previousId := by
  cases call with
  | compensateCompleted =>
    obtain ⟨rfl, rfl, rfl, rfl⟩ := called
    exact returns
  | _ => cases called

variable (rooted : plane.Rooted was) (orderly : plane.Orderly)
  (commits : TopologyTables.Commits plane.topology call after)
  (returns : (PlaneCall.topology call).Returns was plane)
  (found : after.heads[topologyId]? = some heads)
include rooted orderly commits returns found

theorem Rooted.applyingAfter (applying : heads.applyingRevisionId = some revisionId) :
    after.Drafts topologyId revisionId heads.appliedRevisionId := by
  refine TopologyTables.Drafts.commits ?_ commits
  rcases commits.headAfter found with ⟨first, _, before, rfl⟩ | ⟨_, _, rfl⟩ | ⟨first, before, move⟩
  · exact rooted.applying topologyId first revisionId before applying
  · cases applying
  · cases move with
    | begin revision operation updatedAt called draft free =>
      cases applying
      subst called
      have drafts := orderly.sound.drafts before (.inl draft)
      rw [(returns.2 first before).1] at drafts
      exact drafts
    | finish | compensate | abort => cases applying

/-- The applied revision after a call is that of the latest operation or the one
before it. -/
theorem Rooted.settledAfter (last : heads.lastOperationId = some operationId) :
    ∃ revisionId previous, plane.Plans operationId topologyId revisionId ∧
      after.Drafts topologyId revisionId previous ∧ was topologyId previous ∧
      (heads.appliedRevisionId = some revisionId ∨ heads.appliedRevisionId = previous) := by
  rcases commits.headAfter found with ⟨first, _, before, rfl⟩ | ⟨_, _, rfl⟩ | ⟨first, before, move⟩
  · obtain ⟨revisionId, previous, plans, drafts, rest⟩ :=
      rooted.settled topologyId first operationId before last
    exact ⟨revisionId, previous, plans, drafts.commits commits, rest⟩
  · cases last
  · cases move with
    | begin revision operation updatedAt called draft free =>
      cases last
      subst called
      obtain ⟨drawn, past⟩ := returns.2 first before
      have drafts := orderly.sound.drafts before (.inl draft)
      rw [drawn] at drafts
      exact ⟨revision, first.appliedRevisionId, returns.1, drafts.commits commits, past, .inr rfl⟩
    | finish revision operation outcome called applying owner =>
      cases last
      obtain ⟨lastBefore, plans⟩ :=
        orderly.owned topologyId first revision operationId before applying owner
      obtain ⟨revisionId, previous, planned, drafts, past, applied⟩ :=
        rooted.settled topologyId first operationId before lastBefore
      obtain rfl := orderly.plans_unique plans planned
      refine ⟨revision, previous, plans, drafts.commits commits, past, ?_⟩
      split_ifs
      · exact .inl rfl
      · exact applied
    | compensate revision previousId operation called stored draft applied free owner =>
      cases last
      obtain ⟨revisionId, previous, planned, drafts, past, _⟩ :=
        rooted.settled topologyId first operationId before owner
      have returned := returns_of_compensates returns called
      obtain rfl := orderly.plans_unique returned.1 planned
      refine ⟨revision, previous, planned, drafts.commits commits, past, .inr ?_⟩
      rw [← drafts.parentOf, returned.2]
      rfl
    | abort revision previousId operation called stored draft applying owner applied =>
      cases last
      obtain ⟨lastBefore, _⟩ :=
        orderly.owned topologyId first revision operationId before applying owner
      obtain ⟨revisionId, previous, planned, drafts, past, appliedBefore⟩ :=
        rooted.settled topologyId first operationId before lastBefore
      rw [applied] at appliedBefore
      exact ⟨revisionId, previous, planned, drafts.commits commits, past, appliedBefore⟩

end

variable [Digests] [AddressSyntax] {call : PlaneCall}

theorem Rooted.elsewhere (rooted : plane.Rooted was) (elsewhere : call.isElsewhere = true) :
    (exec call plane).2.Rooted was := by
  obtain ⟨topology, providerCalls⟩ := exec_elsewhere elsewhere plane
  exact rooted.keepsPlans topology providerCalls (exec_keepsPlans call plane)

theorem Rooted.exec (rooted : plane.Rooted was) (orderly : plane.Orderly)
    (returns : call.Returns was plane) : (exec call plane).2.Rooted was := by
  cases call with
  | topology call =>
    rcases exec_topology_cases plane call with ⟨_, _, committed, same⟩ |
      ⟨_, _, same⟩
    · rw [same]
      have commits := exec_commits committed
      refine ⟨?_, ?_, ?_⟩
      · intro topologyId heads revisionId found applying
        exact rooted.applyingAfter orderly commits returns found applying
      · intro topologyId heads operationId found last
        exact rooted.settledAfter orderly commits returns found last
      · intro topologyId revisionId previous bindings operationId outcome member
        obtain ⟨plans, drafts, stored⟩ :=
          rooted.compensated topologyId revisionId previous bindings operationId outcome member
        exact ⟨plans, drafts.commits commits, fun revision inside =>
          commits.revision? (stored revision inside)⟩
    · rw [same]
      exact rooted
  | provider call =>
    refine ⟨rooted.applying, rooted.settled, ?_⟩
    intro topologyId revisionId previous bindings operationId outcome member
    rcases List.mem_cons.mp member with rfl | earlier
    · exact returns
    · exact rooted.compensated topologyId revisionId previous bindings operationId outcome earlier
  | _ => exact rooted.elsewhere rfl

end Plane

variable {held : HeldJob} {payload : TopologyApplyPayload} {env : WorkerEnvironment}

section

variable {was : String → Option String → Prop} {start plane : Plane} {call : PlaneCall}

theorem returns_of_isRead (reads : call.isRead = true) : call.Returns was plane := by
  cases call with
  | topology call | provider call => cases reads
  | _ => trivial

theorem Plane.Orderly.runs_plans (orderly : start.Orderly) (runs : start.Runs env held payload)
    (single : payload.isSingle) :
    start.Plans held.job.operationId payload.topologyId payload.revisionId := by
  obtain ⟨plan, planned, topology, member, sameTopology, sameRevision, _⟩ :=
    orderly.runs_topology runs single
  exact ⟨plan, planned, topology, member, sameTopology.symm, sameRevision.symm⟩

theorem Plane.Rooted.drafts_returnsTo (rooted : plane.Rooted was) (orderly : plane.Orderly)
    (found : plane.topology.heads[payload.topologyId]? = some heads)
    (admits : heads.Admits payload held.job.operationId) :
    plane.topology.Drafts payload.topologyId payload.revisionId
      (plane.topology.returnsTo payload held.job.operationId heads) := by
  rw [returnsTo]
  split_ifs with completed
  · refine orderly.sound.drafts found (.inr (.inl ?_))
    simp only [abortsCompleted, Bool.and_eq_true, decide_eq_true_eq] at completed
    exact completed.1.2
  · rcases admits with owns | aborts
    · simp only [ownsApply, Bool.and_eq_true, decide_eq_true_eq] at owns
      exact rooted.applying _ _ _ found owns.1
    · exact absurd aborts completed

theorem Plane.Rooted.returnsTo {origin : Plane} (rooted : plane.Rooted was)
    (orderly : plane.Orderly) (inside : InPhase held.job.jobId payload.topologyId origin plane)
    (found : origin.topology.heads[payload.topologyId]? = some heads)
    (admits : heads.Admits payload held.job.operationId) :
    plane.topology.Drafts payload.topologyId payload.revisionId
      (origin.topology.returnsTo payload held.job.operationId heads) := by
  have foundNow : plane.topology.heads[payload.topologyId]? = some heads := by
    rw [inside.heads]
    exact found
  have drafts := rooted.drafts_returnsTo orderly foundNow admits
  rw [TopologyTables.returnsTo, inside.parentOf] at drafts
  exact drafts

theorem passCall_returns (orderlyStart : start.Orderly) (rooted : plane.Rooted was)
    (orderly : plane.Orderly) (draws : ∀ held payload heads, start.Runs env held payload →
      start.topology.heads[payload.topologyId]? = some heads → payload.Reacquires heads →
        start.topology.parentOf payload.topologyId payload.revisionId = heads.appliedRevisionId ∧
          was payload.topologyId heads.appliedRevisionId) (lawful : PassCall start env call plane) :
    call.Returns was plane := by
  cases lawful with
  | read reads => exact returns_of_isRead reads
  | @reacquire held payload heads updatedAt _ runs phase same underway found free draft unapplied =>
    have plans := orderlyStart.runs_plans runs (.inl phase)
    constructor
    · obtain ⟨plan, planned, member⟩ := plans
      exact ⟨plan, by rw [same.plans]; exact planned, member⟩
    · rw [same.topology]
      intro again foundAgain
      cases found.symm.trans foundAgain
      exact draws held payload heads runs found ⟨phase, free, draft, unapplied⟩
  | @phase held payload heads origin _ _ runs _ single begins admits lawful =>
    cases lawful with
    | read reads => exact returns_of_isRead reads
    | write inside write =>
      have plans : plane.Plans held.job.operationId payload.topologyId payload.revisionId := by
        obtain ⟨plan, planned, member⟩ := orderlyStart.runs_plans runs single
        refine ⟨plan, ?_, member⟩
        rw [inside.plans, begins.plans]
        exact planned
      cases write with
      | compensate target stored =>
        refine ⟨plans, ?_, ?_⟩
        · rw [← target]
          exact rooted.returnsTo orderly inside begins.found admits
        · intro revision member
          rw [TopologyTables.revision?, inside.revisions]
          exact stored revision member
      | rewind _ completed target =>
        refine ⟨plans, ?_⟩
        rw [inside.parentOf, ← target, returnsTo, if_pos completed]
      | _ => trivial
    | _ => trivial
  | _ => trivial

theorem recoveryCall_returns {nowMs : Int} (lawful : RecoveryCall start nowMs call plane) :
    call.Returns was plane := by
  cases lawful with
  | read reads => exact returns_of_isRead reads
  | _ => trivial

theorem terminalCall_returns {statuses : String → Option DurableOperationStatus}
    (lawful : TerminalCall start statuses call plane) : call.Returns was plane := by
  cases lawful with
  | read reads => exact returns_of_isRead reads
  | _ => trivial

end

section

variable [Digests] [AddressSyntax]

/-- An apply begins only with a draft of the applied revision. -/
abbrev drawsOnApplied : topologyPlane.Discipline :=
  beginsWhen fun plane topologyId revisionId _ => plane.DrawsOnApplied topologyId revisionId

/-- The topology had this applied revision earlier in the run. -/
def Was (permits : topologyPlane.Discipline) (config : topologyPlane.Config) (topologyId : String)
    (applied : Option String) : Prop :=
  ∃ earlier, Run permits idlePlane earlier ∧ Run permits earlier config ∧
    ∃ heads, earlier.state.topology.heads[topologyId]? = some heads ∧
      heads.appliedRevisionId = applied

variable {config : topologyPlane.Config} {permits : topologyPlane.Discipline}

theorem was_now (reached : Run permits idlePlane config)
    (found : config.state.topology.heads[topologyId]? = some heads) :
    Was permits config topologyId heads.appliedRevisionId :=
  ⟨config, reached, .refl, heads, found, rfl⟩

theorem Plane.Rooted.react {before : topologyPlane.Config} {event : PlaneEvent}
    (reached : Run drawsOnApplied idlePlane before)
    (permitted : drawsOnApplied before (.event event))
    (rooted : Plane.Rooted (Was drawsOnApplied before) before.state) :
    (Plane.react event before.state).Rooted (Was drawsOnApplied before) := by
  have orderly := (reached_orderly reached).1
  have kept : (Plane.react event before.state).Orderly ∧
      (Plane.react event before.state).Rooted (Was drawsOnApplied before) := by
    refine react_invariant
      (fun now => now.Orderly ∧ now.Rooted (Was drawsOnApplied before)) orderly ?_ ?_
      ⟨orderly, rooted⟩
    · intro changes
      refine ⟨orderly.react event, ?_⟩
      obtain ⟨_, same⟩ := react_jobs changes before.state
      rw [same]
      exact rooted.keepsPlans rfl rfl (KeepsPlans.refl _)
    · intro call now holds made
      refine ⟨holds.1.exec (eventCall_respects orderly made), holds.2.exec holds.1 ?_⟩
      cases event with
      | createTopology spec note | editDraft topologyId expected spec note
      | rollbackDraft topologyId expected target note =>
        obtain ⟨rfl, _⟩ := made
        trivial
      | enqueueJob new nowMs | cancelJob jobId nowMs => cases made
      | pass env stop =>
        refine passCall_returns orderly holds.2 holds.1 ?_ made
        intro held payload heads runs found reacquires
        exact ⟨beginsWhen_pass permitted runs found reacquires heads found, was_now reached found⟩
      | recoverExpired nowMs updatedAt stop => exact recoveryCall_returns made
      | recoverTerminal statuses updatedAt stop => exact terminalCall_returns made
  exact kept.2

/-- Applies stay rooted in every run that begins them with drafts of the applied
revision. -/
theorem run_rooted (run : Run drawsOnApplied idlePlane config) :
    Plane.Rooted (Was drawsOnApplied config) config.state := by
  refine run_history (fun config plane => plane.Rooted (Was drawsOnApplied config)) ?_ ?_ ?_ ?_ run
  · intro before after plane step rooted
    refine rooted.mono ?_
    rintro topologyId applied ⟨earlier, reached, later, past⟩
    exact ⟨earlier, reached, later.tail step, past⟩
  · intro before index loaded call reached permitted performs lawful rooted
    refine rooted.exec (reached_orderly reached).1 ?_
    cases lawful with
    | read reads => exact returns_of_isRead reads
    | begin planned member =>
      refine ⟨⟨_, planned, _, member, rfl, rfl⟩, ?_⟩
      intro heads found
      exact ⟨beginsWhen_request permitted performs heads found, was_now reached found⟩
    | _ => trivial
  · intro before event reached permitted rooted
    exact rooted.react reached permitted
  · refine ⟨?_, ?_, ?_⟩
    · intro topologyId heads revisionId found
      simp [Plane.empty, TopologyTables.empty] at found
    · intro topologyId heads operationId found
      simp [Plane.empty, TopologyTables.empty] at found
    · intro _ _ _ _ _ _ member
      cases member

theorem run_drafts {first last : topologyPlane.Config} {parent : Option String}
    (reached : Run permits idlePlane first) (run : Run permits first last)
    (drafts : first.state.topology.Drafts topologyId revisionId parent)
    (plans : Plane.Plans first.state operationId topologyId revisionId) :
    last.state.topology.Drafts topologyId revisionId parent ∧
      Plane.Plans last.state operationId topologyId revisionId := by
  have kept : ∀ call (now : Plane),
      now.topology.Drafts topologyId revisionId parent ∧
        now.Plans operationId topologyId revisionId →
      (exec call now).2.topology.Drafts topologyId revisionId parent ∧
        (exec call now).2.Plans operationId topologyId revisionId := by
    rintro call now ⟨draftsNow, plansNow⟩
    refine ⟨?_, plansNow.mono (exec_keepsPlans call now)⟩
    rcases exec_tables call now with ⟨_, _, commits⟩ | same
    · exact draftsNow.commits commits
    · rw [same]
      exact draftsNow
  exact run_keeps kept (fun _ _ holds => holds) reached run ⟨drafts, plans⟩

end

section

def TopologyCall.isAborting : TopologyCall → Prop
  | .finish _ _ _ outcome _ => outcome ≠ .succeeded
  | .compensateCompleted .. | .completeAbort .. | .replaceBindings .. | .putStatus .. => True
  | _ => False

theorem passCall_aborting {start plane : Plane} (runs : start.Runs env held payload)
    (phase : payload.phase = .abort) (lawful : PassCall start env (.topology call) plane) :
    call.isAborting := by
  have other {again : HeldJob} {decoded : TopologyApplyPayload} {α : Prop}
      (runsAgain : start.Runs env again decoded) (differs : decoded.phase ≠ .abort) : α := by
    obtain ⟨_, rfl⟩ := runs.unique runsAgain
    exact absurd phase differs
  cases lawful with
  | read reads => cases reads
  | group runsAgain grouped => exact other runsAgain (by rw [grouped]; nofun)
  | refuse => exact (nofun : TopologyApplyOutcome.degraded ≠ .succeeded)
  | degrade => trivial
  | reacquire runsAgain prepares => exact other runsAgain (by rw [prepares]; nofun)
  | phase runsAgain _ _ _ _ lawful =>
    cases lawful with
    | read reads => cases reads
    | write _ write =>
      cases write with
      | stage | restore | activate | rewind | giveUp => trivial
      | reject prepares => exact other runsAgain (by rw [prepares]; nofun)
      | release _ unsuccessful => exact unsuccessful
      | advance finalizes => exact other runsAgain (by rw [finalizes]; nofun)

variable {was : String → Option String → Prop} {plane : Plane}

def Plane.AppliedBefore (was : String → Option String → Prop) (plane : Plane) : Prop :=
  ∀ topologyId heads,
    plane.topology.heads[topologyId]? = some heads → was topologyId heads.appliedRevisionId

/-- A call of an abort makes no revision the applied head that never was. -/
theorem Plane.AppliedBefore.commits {after : TopologyTables} (before : plane.AppliedBefore was)
    (rooted : plane.Rooted was) (orderly : plane.Orderly) (aborting : call.isAborting)
    (returns : (PlaneCall.topology call).Returns was plane)
    (commits : TopologyTables.Commits plane.topology call after)
    (found : after.heads[topologyId]? = some heads) : was topologyId heads.appliedRevisionId := by
  rcases commits.headAfter found with ⟨first, _, foundFirst, rfl⟩ | ⟨_, absent, rfl⟩ |
    ⟨first, foundFirst, move⟩
  · exact before topologyId first foundFirst
  · cases commits with
    | created revision called =>
      obtain ⟨_, _, rfl⟩ := called
      cases aborting
    | drafted revision first called =>
      cases call <;> first | exact absurd aborting id | exact absurd called id
    | moved revisions heads =>
      rcases heads topologyId with same | ⟨first, _, foundFirst, _⟩
      · rw [same, absent] at found
        cases found
      · rw [absent] at foundFirst
        cases foundFirst
  · cases move with
    | begin => exact before topologyId first foundFirst
    | finish revisionId operationId outcome called =>
      have unsuccessful : outcome ≠ .succeeded := by
        cases call with
        | finish =>
          obtain ⟨_, _, _, rfl⟩ := called
          exact aborting
        | _ => first | exact absurd aborting id | exact absurd called id
      rw [if_neg unsuccessful]
      exact before topologyId first foundFirst
    | compensate revisionId previousId operationId called _ _ _ _ owner =>
      obtain ⟨_, _, plans, drafts, past, _⟩ :=
        rooted.settled topologyId first operationId foundFirst owner
      have returned := returns_of_compensates returns called
      obtain rfl := orderly.plans_unique returned.1 plans
      rw [← returned.2, drafts.parentOf]
      exact past
    | abort revisionId previousId operationId called _ _ _ _ applied =>
      rw [← applied]
      exact before topologyId first foundFirst

variable [Digests] [AddressSyntax]

theorem abort_pass_applied {config : topologyPlane.Config} {stop : Option Nat}
    (reached : Run drawsOnApplied idlePlane config)
    (permitted : drawsOnApplied config (.event (.pass env stop)))
    (runs : Plane.Runs config.state env held payload) (phase : payload.phase = .abort) :
    (Plane.react (.pass env stop) config.state).AppliedBefore (Was drawsOnApplied config) := by
  have orderly := (reached_orderly reached).1
  have kept : (Plane.react (.pass env stop) config.state).Orderly ∧
      (Plane.react (.pass env stop) config.state).Rooted (Was drawsOnApplied config) ∧
      (Plane.react (.pass env stop) config.state).AppliedBefore (Was drawsOnApplied config) := by
    refine react_invariant (fun now => now.Orderly ∧ now.Rooted (Was drawsOnApplied config) ∧
      now.AppliedBefore (Was drawsOnApplied config)) orderly ?_ ?_
      ⟨orderly, run_rooted reached, fun _ _ found => was_now reached found⟩
    · rintro (⟨_, _, ⟨⟩⟩ | ⟨_, _, ⟨⟩⟩)
    · rintro call now ⟨orderlyNow, rooted, before⟩ made
      have returns : call.Returns (Was drawsOnApplied config) now := by
        refine passCall_returns orderly rooted orderlyNow ?_ made
        intro again decoded heads runsAgain found reacquires
        exact ⟨beginsWhen_pass permitted runsAgain found reacquires heads found,
          was_now reached found⟩
      refine ⟨orderlyNow.exec (passCall_respects orderly made), rooted.exec orderlyNow returns, ?_⟩
      intro topologyId heads found
      rcases exec_tables call now with ⟨_, rfl, commits⟩ | same
      · exact before.commits rooted orderlyNow (passCall_aborting runs phase made) returns commits
          found
      · rw [same] at found
        exact before topologyId heads found
  exact kept.2.2

end

section

/-- The operation's apply of the revision commits between two states. -/
structure Plane.CommitsApply (before after : Plane) (operationId topologyId revisionId : String)
    (first last : TopologyHeads) : Prop where
  found : before.topology.heads[topologyId]? = some first
  applying : first.applyingRevisionId = some revisionId
  owner : first.applyingOperationId = some operationId
  headed : after.topology.heads[topologyId]? = some last
  free : last.applyingRevisionId = none
  applied : last.appliedRevisionId = some revisionId

/-- The applied head is this one, and so is every revision that the operation asked
the providers to return to. -/
def Plane.ReturnedTo (plane : Plane) (operationId topologyId : String)
    (applied : Option String) : Prop :=
  (∃ heads, plane.topology.heads[topologyId]? = some heads ∧ heads.appliedRevisionId = applied) ∧
    ∀ revisionId previous bindings outcome,
      ProviderCall.compensate topologyId revisionId previous bindings operationId outcome ∈
        plane.providerCalls →
      previous.map (·.revisionId) = applied ∧ ∀ revision ∈ previous,
        plane.topology.revision? topologyId revision.revisionId = some revision

theorem replaysAbort_cases (replays : replaysAbort payload operationId heads = true) :
    heads.applyingRevisionId = none ∧ heads.lastOperationId = some operationId ∧
      heads.appliedRevisionId ≠ some payload.revisionId := by
  simp only [replaysAbort, keptRetryableDraft, restoredPreviousDraft, Bool.and_eq_true,
    Bool.or_eq_true, decide_eq_true_eq] at replays
  refine ⟨replays.1.1.2, replays.1.2, ?_⟩
  rcases replays.2 with kept | restored
  · exact kept.2
  · exact restored.2

theorem abortSettled_drafts {was : String → Option String → Prop} {start now : Plane}
    (orderly : start.Orderly) (rooted : start.Rooted was) (runs : start.Runs env held payload)
    (phase : payload.phase = .abort) (settled : start.AbortSettled held payload now) :
    ∃ heads, now.topology.heads[payload.topologyId]? = some heads ∧
      start.topology.Drafts payload.topologyId payload.revisionId heads.appliedRevisionId := by
  obtain ⟨heads, found, ⟨same, replays⟩ | ⟨admits, previous, rewound⟩⟩ := settled
  · obtain ⟨_, last, differs⟩ := replaysAbort_cases replays
    obtain ⟨_, _, plans, drafts, _, applied | applied⟩ :=
      rooted.settled _ heads _ found last
    · have planned := orderly.runs_plans runs (.inr (.inr phase))
      rw [orderly.plans_unique plans planned] at applied
      exact absurd applied differs
    · refine ⟨heads, by rw [same.topology]; exact found, ?_⟩
      obtain rfl := orderly.plans_unique plans (orderly.runs_plans runs (.inr (.inr phase)))
      rw [applied]
      exact drafts
  · refine ⟨_, rewound.rewound, ?_⟩
    rw [← rewound.target]
    exact rooted.drafts_returnsTo orderly found admits

variable [Digests] [AddressSyntax]

/-- When every apply begins with a draft of the applied revision, an abort returns the
topology and its providers to what was applied before, and applies nothing that never
was. -/
theorem abort_returns_to_applied : (∀ before committed late after operationId revisionId
        payload first last,
      Run drawsOnApplied idlePlane before → Step drawsOnApplied before committed →
      Plane.CommitsApply before.state committed.state operationId payload.topologyId revisionId
        first last → Run drawsOnApplied committed late → Step drawsOnApplied late after →
      Plane.SucceedsAbort late.state after.state operationId payload →
        Plane.ReturnedTo after.state operationId payload.topologyId first.appliedRevisionId) ∧
    ∀ config env stop held payload,
      Run drawsOnApplied idlePlane config → drawsOnApplied config (.event (.pass env stop)) →
      Plane.Runs config.state env held payload → payload.phase = .abort → ∀ topologyId heads,
          (Plane.react (.pass env stop) config.state).topology.heads[topologyId]? = some heads →
            Was drawsOnApplied config topologyId heads.appliedRevisionId := by
  constructor
  · intro before committed late after operationId revisionId payload first last reached commit
      commits later step succeeds
    have reachedLate := (reached.tail commit).trans later
    obtain ⟨env, stop, held, _, _, runs, rfl, settled⟩ := abort_step reachedLate step succeeds
    have orderly := (reached_orderly reachedLate).1
    -- what the operation applied, as its plan says at the end of the run
    obtain ⟨_, plansFirst⟩ := (reached_orderly reached).1.owned _ _ _ _ commits.found
      commits.applying commits.owner
    have draftsFirst := (run_rooted reached).applying _ _ _ commits.found commits.applying
    obtain ⟨drafts, plans⟩ := run_drafts reached ((Relation.ReflTransGen.single commit).trans
      (later.tail step)) draftsFirst plansFirst
    obtain ⟨draftsLate, plansLate⟩ := run_drafts reached
      ((Relation.ReflTransGen.single commit).trans later) draftsFirst plansFirst
    obtain ⟨heads, found, draftsAbort⟩ :=
      abortSettled_drafts orderly (run_rooted reachedLate) runs succeeds.1 settled
    obtain rfl := orderly.plans_unique plansLate (orderly.runs_plans runs (.inr (.inr succeeds.1)))
    refine ⟨⟨heads, found, draftsAbort.unique draftsLate⟩, ?_⟩
    intro compensated previous bindings outcome member
    obtain ⟨plansAgain, draftsAgain, stored⟩ :=
      (run_rooted (reachedLate.tail step)).compensated _ _ _ _ _ _ member
    obtain rfl := (reached_orderly (reachedLate.tail step)).1.plans_unique plans plansAgain
    exact ⟨draftsAgain.unique drafts, stored⟩
  · intro config env stop held payload reached permitted runs phase topologyId heads found
    exact abort_pass_applied reached permitted runs phase topologyId heads found

end

namespace TopologyScenario

scoped instance policyDigests : Digests where
  sha256Hex text := text
  toVec value :=
    match (value.get "authority").bind (·.get "exposure_policy") with
    | some (.string policy) => policy
    | _ => "document"

scoped instance anyAddress : AddressSyntax :=
  ⟨fun _ => true⟩

def specOf (policy : String) : TopologySpec :=
  { apiVersion := "v1"
    topologyId := "t"
    rootEndpoint := "a:1:s"
    authority := ⟨"a:1:s", policy⟩
    endpoints := [⟨"a:1:s", "s", "http", "", "", "", .object []⟩]
    links := [] }

def note : RevisionNote :=
  ⟨"now", "operator", ""⟩

/-- Everything outside the stores succeeds, and the providers serve the revision. -/
def serving (revisionId policy : String) : WorkerEnvironment :=
  let observation : TopologyProviderObservation :=
    ⟨.present, some revisionId, some policy, some ""⟩
  { clock := fun _ => 0
    leaseToken := .ok "token"
    hasProvider := true
    delegated := fun _ => (.succeeded, .null, "")
    runtime := fun _ _ _ => .available
    resolved := .ok []
    applied := .ok ⟨.succeeded, "t", revisionId, ""⟩
    compensated := .ok ()
    observed := fun _ => ⟨observation, observation⟩
    projectionSha256 := fun _ => .ok "" }

def applying (operationId revisionId : String) (staged : List ApiBinding) : ApplyRequest :=
  { operationId
    topologyId := "t"
    revisionId
    siblings := []
    staged := fun _ _ => .ok staged
    admissible := .ok ()
    bootstraps := []
    confirmed := .ok ()
    enqueued := .ok ()
    updatedAt := "now" }

def jobOf (operationId jobId : String) (payload : TopologyApplyPayload) : NewJob :=
  { jobId
    operationId
    nodeId := controlPlaneNodeId
    kind := .topologyApply
    payload := payload.toDocument
    idempotencyKey := jobId
    maxAttempts := 3 }

def requests (request : ApplyRequest) : List topologyPlane.Action :=
  .start request :: List.replicate 5 (.step 0)

def works (job : NewJob) (env : WorkerEnvironment) : List topologyPlane.Action :=
  [.event (.enqueueJob job 0), .event (.pass env none)]

def prepares (operationId revisionId policy : String) : List topologyPlane.Action :=
  let planned : StoreTopologyApplyPlan := ⟨"t", revisionId, [], []⟩
  requests (applying operationId revisionId []) ++
    works (jobOf operationId (operationId ++ "-prepare") (ApplyPlan.payloadOf planned .prepare []))
      (serving revisionId policy) ++
    [.event (.enqueueJob (jobOf operationId (operationId ++ "-group")
      (ApplyPlan.groupPayload ⟨[planned], []⟩)) 0)]

def finalizes (revisionId policy : String) : topologyPlane.Action :=
  .event (.pass (serving revisionId policy) none)

def abortPayload (revisionId : String) : TopologyApplyPayload :=
  ApplyPlan.payloadOf ⟨"t", revisionId, [], []⟩ .abort []

def firstApplied : List topologyPlane.Action :=
  .event (.createTopology (specOf "one") note) ::
    prepares "first" "t:r1:one" "one" ++ [finalizes "t:r1:one" "one"]

def editDraft (expected policy : String) : topologyPlane.Action :=
  .event (.editDraft "t" expected (specOf policy) note)

def applyingHead (revisionId : String) : TopologyHeads :=
  ⟨"t", revisionId, some "t:r1:one", some revisionId, some "second", some "second"⟩

def settledHead (revisionId : String) : TopologyHeads :=
  ⟨"t", revisionId, some revisionId, none, none, some "second"⟩

variable (permits : topologyPlane.Discipline) [permits.Checkable]

/-- The draft is edited, a second operation applies it, and its abort restores a
revision. -/
theorem exists_aborted (edits : List topologyPlane.Action) (revisionId policy restored : String)
    (played : ∃ ready ∈ play permits idlePlane
        (firstApplied ++ edits ++ prepares "second" revisionId policy),
      ready.state.topology.heads["t"]? = some (applyingHead revisionId) ∧
      ∃ committed ∈ play permits ready [finalizes revisionId policy],
        committed.state.topology.heads["t"]? = some (settledHead revisionId) ∧
        ∃ aborting ∈ play permits committed [.event (.enqueueJob (jobOf "second" "second-abort"
          (abortPayload revisionId)) 0)],
        ∃ aborted ∈ play permits aborting [finalizes revisionId policy],
          Plane.showsAbort aborting.state aborted.state "second-abort" "second"
            (abortPayload revisionId) = true ∧
          aborted.state.topology.heads["t"]? = some (settledHead restored)) :
    ∃ ready committed aborting aborted, Run permits idlePlane ready ∧ Step permits ready committed ∧
      Plane.CommitsApply ready.state committed.state "second" "t" revisionId
        (applyingHead revisionId) (settledHead revisionId) ∧
      Run permits committed aborting ∧ Step permits aborting aborted ∧
      Plane.SucceedsAbort aborting.state aborted.state "second" (abortPayload revisionId) ∧
      aborted.state.topology.heads["t"]? = some (settledHead restored) := by
  obtain ⟨ready, toReady, found, committed, commit, headed, aborting, later, aborted, abort,
    shown, returned⟩ := played
  exact ⟨ready, committed, aborting, aborted, run_of_play permits toReady,
    step_of_play permits commit, ⟨found, rfl, rfl, headed, rfl, rfl⟩, run_of_play permits later,
    step_of_play permits abort, Plane.succeedsAbort_of_shows "second-abort" shown, returned⟩

/-- An apply of a draft of the applied revision, and its abort. -/
theorem abort_returns_to_first : ∃ ready committed aborting aborted : topologyPlane.Config,
      Plane.CommitsApply ready.state committed.state "second" "t" "t:r2:two"
        (applyingHead "t:r2:two") (settledHead "t:r2:two") ∧
      Plane.SucceedsAbort aborting.state aborted.state "second" (abortPayload "t:r2:two") ∧
      Plane.ReturnedTo aborted.state "second" "t" (some "t:r1:one") ∧
      aborted.state.topology.heads["t"]? = some (settledHead "t:r1:one") ∧
      Was drawsOnApplied aborting "t" (some "t:r1:one") := by
  obtain ⟨ready, committed, aborting, aborted, toReady, commit, commits, later, abort, succeeds,
    found⟩ := exists_aborted drawsOnApplied [editDraft "t:r1:one" "two"] "t:r2:two" "two"
      "t:r1:one" (by decide +kernel)
  have reached := (toReady.tail commit).trans later
  obtain ⟨env, stop, held, permitted, same, runs, _⟩ := abort_step reached abort succeeds
  refine ⟨ready, committed, aborting, aborted, commits, succeeds,
    abort_returns_to_applied.1 ready committed aborting aborted "second" "t:r2:two"
      (abortPayload "t:r2:two") _ _ toReady commit commits later abort succeeds, found, ?_⟩
  rw [same] at found
  exact abort_returns_to_applied.2 aborting env stop held _ reached permitted runs succeeds.1 "t"
    (settledHead "t:r1:one") found

/-- The draft was edited twice between two applies.  The abort of the second makes
the draft in the middle the applied head, though the first revision was applied
before. -/
theorem abort_applies_unapplied_draft : ∃ ready committed aborting aborted,
      Run anySchedule idlePlane ready ∧ Step anySchedule ready committed ∧
      Plane.CommitsApply ready.state committed.state "second" "t" "t:r3:three"
        (applyingHead "t:r3:three") (settledHead "t:r3:three") ∧
      Run anySchedule committed aborting ∧ Step anySchedule aborting aborted ∧
      Plane.SucceedsAbort aborting.state aborted.state "second" (abortPayload "t:r3:three") ∧
      aborted.state.topology.heads["t"]? = some (settledHead "t:r2:two") ∧
      ¬ Plane.ReturnedTo aborted.state "second" "t"
        (applyingHead "t:r3:three").appliedRevisionId := by
  obtain ⟨ready, committed, aborting, aborted, toReady, commit, commits, later, abort, succeeds,
    found⟩ := exists_aborted anySchedule
      [editDraft "t:r1:one" "two", editDraft "t:r2:two" "three"] "t:r3:three" "three" "t:r2:two"
      (by decide +kernel)
  refine ⟨ready, committed, aborting, aborted, toReady, commit, commits, later, abort, succeeds,
    found, ?_⟩
  rintro ⟨⟨heads, foundAgain, returned⟩, _⟩
  cases found.symm.trans foundAgain
  revert returned
  decide

end TopologyScenario

end UntitledOJ
