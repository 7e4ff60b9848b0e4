import UntitledOJ.PlaneInvariant

/-!
# Runs of the control plane

Requests interleave with events, and an event that is a pass of the worker or of recovery may stop
anywhere.
-/

namespace UntitledOJ

open Worked Plane Platform

namespace Plane

variable {plane start : Plane} {event : PlaneEvent}

def EventCall (start : Plane) : PlaneEvent → PlaneCall → Plane → Prop
  | .createTopology spec note, call, now =>
    call = .topology (.createInitial spec note) ∧ now = start
  | .editDraft topologyId expected spec note, call, now =>
    call = .topology (.createNext topologyId expected spec note) ∧ now = start
  | .rollbackDraft topologyId expected target note, call, now =>
    call = .topology (.createRollback topologyId expected target note) ∧ now = start
  | .enqueueJob .., _, _ | .cancelJob .., _, _ => False
  | .pass env _, call, now => PassCall start env call now
  | .recoverExpired nowMs _ _, call, now => RecoveryCall start nowMs call now
  | .recoverTerminal statuses _ _, call, now => TerminalCall start statuses call now

theorem eventCall_respects (orderly : start.Orderly) {call : PlaneCall}
    (made : EventCall start event call plane) : call.Respects plane := by
  cases event with
  | createTopology spec note | editDraft topologyId expected spec note
  | rollbackDraft topologyId expected target note =>
    obtain ⟨rfl, _⟩ := made
    trivial
  | enqueueJob new nowMs | cancelJob jobId nowMs => cases made
  | pass env stop => exact passCall_respects orderly made
  | recoverExpired nowMs updatedAt stop => exact recoveryCall_respects made
  | recoverTerminal statuses updatedAt stop => exact terminalCall_respects made

theorem Orderly.jobs_changed (orderly : start.Orderly) {jobs : MemoryJobStore}
    (indexed : jobs.Indexed)
    (origin : ∀ jobId later, jobs.get jobId = some later →
      (∃ earlier, start.jobs.get jobId = some earlier ∧ later.payload = earlier.payload ∧
        later.kind = earlier.kind ∧ later.operationId = earlier.operationId) ∨
      ∃ new, start.admits new = true ∧ later.kind = new.kind ∧ later.payload = new.payload ∧
        later.operationId = new.operationId) :
    Orderly { start with jobs } := by
  refine ⟨orderly.sound, indexed, ?_, ?_, orderly.distinct, orderly.owned, orderly.keyed⟩
  · intro jobId job found kind
    rcases origin jobId job found with ⟨earlier, stored, payload, sameKind, operation⟩ |
      ⟨new, admitted, sameKind, payload, operation⟩
    · rw [payload, operation]
      exact orderly.planned jobId earlier stored (sameKind ▸ kind)
    · simp only [admits, ← sameKind, kind, Option.any_eq_true_iff_get] at admitted
      obtain ⟨isSome, written⟩ := admitted
      obtain ⟨plan, planned⟩ := Option.isSome_iff_exists.mp isSome
      simp only [planned, Option.get_some, List.any_eq_true, decide_eq_true_eq] at written
      obtain ⟨document, member, same⟩ := written
      rw [payload, operation]
      exact ⟨plan, planned, document, member, same⟩
  · intro jobId job found kind
    rcases origin jobId job found with ⟨earlier, stored, payload, sameKind, _⟩ |
      ⟨_, admitted, sameKind, payload, _⟩
    · rw [isContributionJob, payload, sameKind]
      exact orderly.contributed jobId earlier stored (sameKind ▸ kind)
    · simp only [admits, ← sameKind, kind] at admitted
      rw [isContributionJob, payload, kind]
      simpa using admitted

variable [Digests] [AddressSyntax]

variable {α : Type} {lawful : PlaneCall → Plane → Prop} {ended : Plane → Prop}
  {program : Worked α}

theorem work_invariant {invariant : Plane → Prop} (kept : Keeps lawful ended program plane)
    (keeps : ∀ call now, invariant now → lawful call now → invariant (exec call now).2)
    (initial : invariant plane) (stop : Option Nat) : invariant (plane.work program stop) := by
  cases stop with
  | none => exact (Program.Meets.strengthen kept keeps initial).eval.2
  | some calls => exact Program.Meets.stateAfter kept keeps initial calls

theorem react_jobs (changes : (∃ new nowMs, event = .enqueueJob new nowMs) ∨
      ∃ jobId nowMs, event = .cancelJob jobId nowMs) (start : Plane) :
    ∃ jobs, react event start = { start with jobs } := by
  rcases changes with ⟨_, nowMs, rfl⟩ | ⟨_, _, rfl⟩
  · simp only [Plane.react]
    split_ifs
    · exact ⟨_, rfl⟩
    · exact ⟨start.jobs, rfl⟩
  · exact ⟨_, rfl⟩

/-- An event keeps what its calls keep and what does not depend on the jobs. -/
theorem react_invariant (invariant : Plane → Prop) (orderly : start.Orderly)
    (closed : (∃ new nowMs, event = .enqueueJob new nowMs) ∨
      (∃ jobId nowMs, event = .cancelJob jobId nowMs) → invariant (react event start))
    (calls : ∀ call now, invariant now → EventCall start event call now →
      invariant (exec call now).2) (initial : invariant start) : invariant (react event start) := by
  cases event with
  | createTopology spec note | editDraft topologyId expected spec note
  | rollbackDraft topologyId expected target note => exact calls _ _ initial ⟨rfl, rfl⟩
  | enqueueJob new nowMs => exact closed (.inl ⟨new, nowMs, rfl⟩)
  | cancelJob jobId nowMs => exact closed (.inr ⟨jobId, nowMs, rfl⟩)
  | pass env stop =>
    exact work_invariant (processOne_keeps orderly.indexed fun _ _ => orderly.single) calls
      initial stop
  | recoverExpired nowMs updatedAt stop =>
    exact work_invariant recoverExpired_keeps calls initial stop
  | recoverTerminal statuses updatedAt stop =>
    exact work_invariant recoverTerminal_keeps calls initial stop

theorem Orderly.react (orderly : start.Orderly) (event : PlaneEvent) :
    (react event start).Orderly := by
  refine react_invariant Orderly orderly ?_ ?_ orderly
  · rintro (⟨new, nowMs, rfl⟩ | ⟨jobId, nowMs, rfl⟩)
    · simp only [Plane.react]
      split_ifs with admitted
      · refine orderly.jobs_changed (MemoryJobStore.enqueue_indexed orderly.indexed new nowMs) ?_
        intro jobId later found
        rcases MemoryJobStore.enqueue_origin found with stored | ⟨kind, payload, operation, _⟩
        · exact .inl ⟨later, stored, rfl, rfl, rfl⟩
        · exact .inr ⟨new, admitted, kind, payload, operation⟩
      · exact orderly
    · refine orderly.jobs_changed (orderly.indexed.update
        (MemoryJobStore.exec_moves orderly.indexed (.requestCancel jobId nowMs) (by simp)).updates)
        ?_
      intro other later found
      change (start.jobs.exec (.requestCancel jobId nowMs)).2.get other = some later at found
      obtain ⟨earlier, stored, same | move⟩ :=
        MemoryJobStore.exec_origin orderly.indexed (by rintro _ _ ⟨⟩) found
      · exact .inl ⟨earlier, stored, by rw [same], by rw [same], by rw [same]⟩
      · obtain ⟨payload, kind, operation, _⟩ := move.task
        exact .inl ⟨earlier, stored, payload, kind, operation⟩
  · intro call now orderlyNow made
    exact orderlyNow.exec (eventCall_respects orderly made)

theorem exec_tables (call : PlaneCall) (plane : Plane) : (∃ inner, call = .topology inner ∧
        TopologyTables.Commits plane.topology inner (exec call plane).2.topology) ∨
      (exec call plane).2.topology = plane.topology := by
  cases call with
  | topology inner =>
    rcases exec_topology_cases plane inner with ⟨_, _, committed, same⟩ | ⟨_, _, same⟩
    · refine .inl ⟨inner, rfl, ?_⟩
      rw [same]
      exact TopologyTables.exec_commits committed
    · exact .inr (by rw [same])
  | provider inner => exact .inr rfl
  | _ => exact .inr (exec_elsewhere rfl plane).1

theorem react_keepsPlans (orderly : start.Orderly) (event : PlaneEvent) :
    start.KeepsPlans (Plane.react event start) := by
  refine react_invariant start.KeepsPlans orderly ?_ ?_ (KeepsPlans.refl start)
  · intro changes
    obtain ⟨_, same⟩ := react_jobs changes start
    rw [same]
    exact KeepsPlans.refl start
  · intro call now kept _
    exact kept.trans (exec_keepsPlans call now)

end Plane

theorem empty_orderly : Plane.empty.Orderly := by
  refine ⟨TopologyTables.empty_sound, MemoryJobStore.indexed_empty, ?_, ?_, ?_, ?_, ?_⟩
  · intro jobId job found
    cases found
  · intro jobId job found
    cases found
  · intro operationId plan found
    simp [Plane.empty] at found
  · intro topologyId heads revisionId operationId found
    simp [Plane.empty, TopologyTables.empty] at found
  · intro row member
    cases member

variable [Digests] [AddressSyntax] {permits : topologyPlane.Discipline}
  {config : topologyPlane.Config}

/-- Every reachable state is orderly, and every suspended request keeps to its
protocol. -/
theorem reached_orderly (run : Run permits idlePlane config) :
    config.state.Orderly ∧ ∀ index loaded call, config.Performs index loaded call →
      RequestCall call config.state := by
  have starts : ∀ request state, state.Orderly →
      (topologyPlane.program request).Ensures (requestLogic Plane.Orderly) (fun _ _ _ => True)
        state state :=
    fun request state _ => request.enqueueApply_ensures Plane.Orderly state state
  have acts : ∀ (_ : Plane) call state, state.Orderly →
      RequestCall call state →
      (exec call state).2.Orderly ∧ state.KeepsPlans (exec call state).2 :=
    fun _ call state orderly lawful =>
      ⟨orderly.exec (requestCall_respects lawful), exec_keepsPlans call state⟩
  have reacts : ∀ event (state : Plane), state.Orderly →
      (react event state).Orderly ∧ state.KeepsPlans (react event state) :=
    fun event state orderly => ⟨orderly.react event, react_keepsPlans orderly event⟩
  obtain ⟨orderly, threads⟩ := @run_invariant topologyPlane KeepsPlans _ Orderly
    KeepsPlans.refl KeepsPlans.trans starts acts reacts _ _ _ rfl empty_orderly run
  refine ⟨orderly, ?_⟩
  rintro index loaded call ⟨next, found⟩
  exact ((threads _ (List.mem_of_getElem? found)).2 config.state (KeepsPlans.refl _) orderly).1

theorem plane_step_cases {before after : topologyPlane.Config}
    (reached : Run permits idlePlane before) (step : Step permits before after) :
    after.state = before.state ∨
      (∃ index loaded call, permits before (.step index) ∧ before.Performs index loaded call ∧
        RequestCall call before.state ∧ after.state = (exec call before.state).2) ∨
      ∃ event, permits before (.event event) ∧ after.state = react event before.state := by
  rcases step_cases step with same | ⟨index, loaded, call, permitted, performs, same⟩ | happened
  · exact .inl same
  · exact .inr (.inl ⟨index, loaded, call, permitted, performs,
      (reached_orderly reached).2 index loaded call performs, same⟩)
  · exact .inr (.inr happened)

theorem run_keeps {property : Plane → Prop} {first last : topologyPlane.Config}
    (calls : ∀ call now, property now → property (exec call now).2)
    (jobs : ∀ now jobs, property now → property { now with jobs })
    (reached : Run permits idlePlane first) (run : Run permits first last)
    (initial : property first.state) : property last.state := by
  induction run with
  | refl => exact initial
  | @tail before after earlier step holds =>
    have reachedBefore := reached.trans earlier
    rcases plane_step_cases reachedBefore step with same | ⟨_, _, call, _, _, _, same⟩ |
      ⟨_, _, same⟩
    · rw [same]
      exact holds
    · rw [same]
      exact calls call _ holds
    · rw [same]
      refine react_invariant property (reached_orderly reachedBefore).1 ?_
        (fun call now kept _ => calls call now kept) holds
      intro changes
      obtain ⟨_, changed⟩ := react_jobs changes before.state
      rw [changed]
      exact jobs _ _ holds

/-- An invariant of all runs of a discipline, which may speak of what was reached
before. -/
theorem run_history (invariant : topologyPlane.Config → Plane → Prop)
    (grows : ∀ {before after : topologyPlane.Config} {plane : Plane}, Step permits before after →
      invariant before plane → invariant after plane)
    (requests : ∀ {before : topologyPlane.Config} {index loaded call},
      Run permits idlePlane before → permits before (.step index) →
      before.Performs index loaded call → RequestCall call before.state →
      invariant before before.state → invariant before (exec call before.state).2)
    (events : ∀ {before : topologyPlane.Config} {event : PlaneEvent},
      Run permits idlePlane before → permits before (.event event) →
      invariant before before.state → invariant before (react event before.state))
    (initial : invariant idlePlane Plane.empty) (run : Run permits idlePlane config) :
    invariant config config.state := by
  induction run with
  | refl => exact initial
  | @tail before after earlier step holds =>
    refine grows step ?_
    rcases plane_step_cases earlier step with same |
      ⟨_, _, _, permitted, performs, lawful, same⟩ | ⟨_, permitted, same⟩
    · rw [same]
      exact holds
    · rw [same]
      exact requests earlier permitted performs lawful holds
    · rw [same]
      exact events earlier permitted holds

theorem run_plane (invariant : Plane → Prop)
    (requests : ∀ {before : topologyPlane.Config} {index loaded call},
      Run permits idlePlane before → permits before (.step index) →
      before.Performs index loaded call → RequestCall call before.state →
      invariant before.state → invariant (exec call before.state).2)
    (events : ∀ {before : topologyPlane.Config} {event : PlaneEvent},
      Run permits idlePlane before → permits before (.event event) →
      invariant before.state → invariant (react event before.state))
    (initial : invariant Plane.empty) (run : Run permits idlePlane config) :
    invariant config.state :=
  run_history (fun _ => invariant) (fun _ holds => holds) requests events initial run

end UntitledOJ
