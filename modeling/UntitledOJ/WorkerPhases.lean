import UntitledOJ.WorkerProtocol

/-!
# The phases keep to their protocol

The text of every phase is followed call by call.
-/

namespace UntitledOJ

open Worked Plane ProviderCall TopologyTables

variable {env : WorkerEnvironment} {held : HeldJob} {payload : TopologyApplyPayload}
  {heads : TopologyHeads} {origin plane : Plane}

theorem release_allowed {degraded : Bool} {updatedAt : String}
    (phase : payload.phase = .prepare ∨ payload.phase = .finalize)
    (inside : InPhase held.job.jobId payload.topologyId origin plane)
    (restored : degraded = false →
      plane.Restored payload.topologyId held.job.operationId payload.previousBindings)
    (troubled : degraded = true → Troubled origin env payload) :
    PhaseCall origin env held payload heads
      (.topology (.finish payload.topologyId payload.revisionId held.job.operationId
        (if degraded = true then .degraded else .failed) updatedAt)) plane := by
  cases degraded with
  | true => exact .write inside (.release phase nofun (.inr ⟨rfl, troubled rfl⟩))
  | false => exact .write inside (.release phase nofun (.inl (restored rfl)))

variable [Digests] [AddressSyntax]

variable {ended : Plane → Prop} {result : Value} {status : CompletionStatus} {message : String}

theorem phase_completes (underway : plane.Underway held.job.jobId)
    (other : payload.phase = .abort → status ≠ .succeeded)
    (finished : ∀ request, ended (exec (.complete request) plane).2) :
    Keeps (PhaseCall origin env held payload heads) ended
      (completeAndProject env held status result message) plane := by
  refine keeps_complete ?_ finished
  intro request named same
  refine .complete named underway ?_
  intro phase succeeded
  exact absurd (same.symm.trans succeeded) (other phase)

theorem phase_ends (phase : payload.phase ≠ .abort) (underway : plane.Underway held.job.jobId) :
    Keeps (PhaseCall origin env held payload heads) (fun _ => True)
      (completeAndProject env held status result message) plane :=
  phase_completes underway (fun abort => absurd abort phase) fun _ => trivial

theorem phase_releases {outcome : TopologyApplyOutcome} {text : String → String}
    (phase : payload.phase ≠ .abort) (underway : plane.Underway held.job.jobId)
    (allowed : ∀ updatedAt, PhaseCall origin env held payload heads
      (.topology (.finish payload.topologyId payload.revisionId held.job.operationId outcome
        updatedAt)) plane) :
    Keeps (PhaseCall origin env held payload heads) (fun _ => True)
      (do
        let finished ← finishApply env held payload outcome
        let _ ← Worked.orFail (text ∘ StorageError.text) finished
        completeAndProject env held status result message)
      plane := by
  refine keeps_topology (allowed _) ?_ ?_
  · intro finished after _
    refine keeps_orFail ?_ trivial
    intro _ _
    exact phase_ends phase underway
  · intro error _
    exact keeps_orFail nofun trivial

variable (inside : InPhase held.job.jobId payload.topologyId origin plane)
  {earlier : List ProviderCall} {cleanup : String → String} {β : Type}

include inside

/-- Restore the bindings after the providers were asked to restore theirs. -/
theorem phase_restores {next : Except StorageError Unit → Worked β}
    (restores : ∀ later, InPhase held.job.jobId payload.topologyId origin later →
      later.topology.bindingsOf payload.topologyId = payload.previousBindings →
      later.providerCalls = plane.providerCalls →
      Keeps (PhaseCall origin env held payload heads) ended (next (.ok ())) later)
    (fails : ∀ error, (origin.topology.replaceTopologyApiBindings payload.topologyId
        payload.previousBindings).1 = .error error →
      Keeps (PhaseCall origin env held payload heads) ended (next (.error error)) plane) :
    Keeps (PhaseCall origin env held payload heads) ended
      (replaceBindings payload.topologyId payload.previousBindings >>= next) plane := by
  refine keeps_topology (.write inside .restore) ?_ ?_
  · rintro ⟨⟩ after committed
    exact restores _ (inside.replaced committed) (bindingsOf_replaced committed) rfl
  · intro error failed
    exact fails error ((inside.acceptance _).symm.trans failed)

theorem abandonApply_keeps {failure : TopologyProviderApplyFailure} {call : ProviderCall}
    (phase : payload.phase = .prepare) (failed : env.applied = .error failure)
    (recorded : plane.providerCalls = call :: earlier)
    (isFor : call.isFor payload.topologyId held.job.operationId = true)
    (restoring : failure.state ≠ .degraded → call.isRestoring = true) :
    Keeps (PhaseCall origin env held payload heads) (fun _ => True)
      (abandonApply env held payload payload.previousBindings failure cleanup) plane := by
  have notAbort : payload.phase ≠ .abort := by rw [phase]; nofun
  unfold abandonApply
  refine phase_restores inside ?_ ?_
  · intro later insideLater bindings calls
    refine phase_releases notAbort insideLater.underway fun _ =>
      release_allowed (.inl phase) insideLater ?_ ?_
    · intro proved
      have undegraded : failure.state ≠ .degraded := by simpa using proved
      exact restored_of_call bindings (calls.trans recorded) isFor (restoring undegraded)
    · intro unproved
      have degraded : failure.state = .degraded := by simpa using unproved
      exact .inr (.inl ⟨phase, failure, failed, degraded⟩)
  · intro error refused
    refine phase_releases notAbort inside.underway fun _ =>
      release_allowed (.inl phase) inside ?_ fun _ => .inl ⟨error, refused⟩
    intro proved
    simp at proved

theorem preparePhase_keeps {revision : TopologyRevision} {previous : Option TopologyRevision}
    (phase : payload.phase = .prepare)
    (untouched : plane.topology.bindings = origin.topology.bindings ∧
      plane.providerCalls = origin.providerCalls) :
    Keeps (PhaseCall origin env held payload heads) (fun _ => True)
      (preparePhase env held payload revision previous) plane := by
  have notAbort : payload.phase ≠ .abort := by rw [phase]; nofun
  unfold preparePhase
  cases rejected : prepareValidation env held payload with
  | error detail =>
    exact phase_releases notAbort inside.underway fun _ =>
      .write inside (.reject phase untouched rejected)
  | ok _ =>
    refine keeps_topology (.write inside (.stage phase)) ?_ ?_
    · rintro ⟨⟩ after committed
      have insideLater := inside.replaced committed
      refine keeps_checkpoint (fun _ => .heartbeat) ?_ fun _ => trivial
      intro first
      refine ⟨.write (insideLater.heartbeat first) (.apply phase), ?_⟩
      refine keeps_checkpoint (fun _ => .heartbeat) ?_ fun _ => trivial
      intro second
      have insideNow := ((insideLater.heartbeat first).provider (.apply payload.topologyId
        payload.revisionId revision.spec payload.bindings previous payload.previousBindings
        held.job.operationId env.applied)).heartbeat second
      cases applied : env.applied with
      | ok receipt =>
        exact phase_ends notAbort insideNow.underway
      | error failure =>
        rw [applied] at insideNow
        exact abandonApply_keeps insideNow phase applied rfl (by simp [isFor]) decide_eq_true
    · intro error _
      trivial

variable {previous : Option TopologyRevision}
  (target : origin.topology.returnsTo payload held.job.operationId heads =
    previous.map (·.revisionId))
  (stored : ∀ revision ∈ previous,
    origin.topology.revision? payload.topologyId revision.revisionId = some revision)

include target stored

theorem compensateApply_keeps {detail : String → String → String}
    (phase : payload.phase = .finalize) :
    Keeps (PhaseCall origin env held payload heads) (fun _ => True)
      (compensateApply env held payload previous payload.previousBindings result detail cleanup)
      plane := by
  have notAbort : payload.phase ≠ .abort := by rw [phase]; nofun
  unfold compensateApply
  refine keeps_compensateProviders rfl (.write inside (.compensate target stored)) ?_
  refine phase_restores (inside.provider _) ?_ ?_
  · intro later insideLater bindings calls
    refine phase_releases notAbort insideLater.underway fun _ =>
      release_allowed (.inr phase) insideLater ?_ ?_
    · intro proved
      have succeeded : env.compensated.isOk = true := by simpa using proved
      exact restored_of_call bindings calls (by simp [isFor]) (isRestoring_compensate succeeded)
    · intro unproved
      have failed : env.compensated.isOk = false := by simpa using unproved
      exact .inr (.inr ⟨phase, exists_error_of_isOk failed⟩)
  · intro error refused
    refine phase_releases notAbort inside.underway fun _ =>
      release_allowed (.inr phase) (inside.provider _) ?_ fun _ => .inl ⟨error, refused⟩
    intro proved
    simp at proved

section

variable (phase : payload.phase = .abort)
  (found : origin.topology.heads[payload.topologyId]? = some heads)
include phase found

theorem rewindHead_keeps {next : Except String Unit → Worked β}
    (bindings : plane.topology.bindingsOf payload.topologyId = payload.previousBindings)
    (calls : plane.providerCalls = .compensate payload.topologyId payload.revisionId previous
      payload.previousBindings held.job.operationId (.ok ()) :: earlier)
    (rewinds : ∀ revision later, Rewound origin.topology held payload heads revision later →
      later.Underway held.job.jobId →
      Keeps (PhaseCall origin env held payload heads) ended (next (.ok ())) later)
    (fails : ∀ message, (abortsCompleted payload held.job.operationId heads = true →
        Unrewindable origin.topology env held payload) →
      Keeps (PhaseCall origin env held payload heads) ended (next (.error message)) plane) :
    Keeps (PhaseCall origin env held payload heads) ended
      (rewindHead env held payload (abortsCompleted payload held.job.operationId heads)
        (origin.topology.returnsTo payload held.job.operationId heads) >>= next) plane := by
  have isFor : (compensate payload.topologyId payload.revisionId previous
      payload.previousBindings held.job.operationId (.ok ())).isFor payload.topologyId
        held.job.operationId = true := by
    simp [ProviderCall.isFor]
  have restored : plane.Restored payload.topologyId held.job.operationId
      payload.previousBindings := restored_of_call bindings calls isFor rfl
  cases previous with
  | none =>
    rw [target]
    refine fails _ ?_
    intro completed previousRevisionId parent
    rw [returnsTo, if_pos completed, parent] at target
    cases target
  | some revision =>
    have there := stored revision rfl
    have latest : plane.latestCall payload.topologyId held.job.operationId = some
        (.compensate payload.topologyId payload.revisionId (some revision)
          payload.previousBindings held.job.operationId (.ok ())) := by
      rw [latestCall, calls]
      exact List.find?_cons_of_pos isFor
    have present : plane.topology.heads[payload.topologyId]? = some heads := by
      rw [inside.heads]
      exact found
    have rewound : ∀ {after : TopologyTables} {completed : TopologyHeads} {updatedAt : String}
        {matching : TopologyHeads → Bool} {unchanged : StorageError},
        transact plane.topology (plane.topology.compensateHeads payload.topologyId
          payload.revisionId revision.revisionId held.job.operationId updatedAt matching
          unchanged) = (.ok completed, after) →
        ∀ call,
          Rewound origin.topology held payload heads revision (plane.withTables call after) := by
      intro after completed updatedAt matching unchanged committed call
      obtain ⟨_, again, _, _, _, rows, moved⟩ := compensateHeads_ok (ok_of_transact committed)
      cases present.symm.trans again
      refine ⟨there, target, ?_, latest, ?_⟩
      · change after.heads[payload.topologyId]? = _
        rw [moved, Std.TreeMap.getElem?_insert_self]
      · change after.bindings.filter _ = _
        rw [rows]
        exact bindings
    rw [target]
    cases completed : abortsCompleted payload held.job.operationId heads with
    | true =>
      refine keeps_topology (.write inside (.rewind phase completed target restored)) ?_ ?_
      · intro result after committed
        exact rewinds revision _ (rewound committed _) inside.underway
      · intro error failed
        refine fails _ ?_
        intro _ previousRevisionId parent
        have same := target
        rw [returnsTo, if_pos completed, parent] at same
        obtain rfl := Option.some.inj same
        refine ⟨error, ?_⟩
        rw [← compensateCompleted_withBindings origin.topology plane.topology.bindings]
        exact (congrArg (fun tables : TopologyTables =>
          (tables.compensateCompletedTopologyApply payload.topologyId payload.revisionId
            revision.revisionId held.job.operationId (nowMarker (env.clock .head))).1)
          inside.tables).symm.trans failed
    | false =>
      refine keeps_topology (.write inside (.giveUp phase completed target restored)) ?_ ?_
      · intro result after committed
        exact rewinds revision _ (rewound committed _) inside.underway
      · intro error failed
        exact fails _ fun impossible =>
          absurd (completed.symm.trans impossible) Bool.false_ne_true

theorem abortPhase_keeps (untouched : plane.topology.bindings = origin.topology.bindings) :
    Keeps (PhaseCall origin env held payload heads)
      (AbortEnds origin.topology env held payload heads)
      (abortPhase env held payload (abortsCompleted payload held.job.operationId heads)
        (origin.topology.returnsTo payload held.job.operationId heads) previous) plane := by
  unfold abortPhase
  refine keeps_checkpoint (fun _ => .heartbeat) ?_ fun _ _ => .inl untouched
  intro first
  refine keeps_compensateProviders rfl
    (.write (inside.heartbeat first) (.compensate target stored)) ?_
  refine keeps_checkpoint (fun _ => .heartbeat) ?_ fun _ _ => .inl untouched
  intro second
  have insideNow := ((inside.heartbeat first).provider (.compensate payload.topologyId
    payload.revisionId previous payload.previousBindings held.job.operationId
    env.compensated)).heartbeat second
  refine phase_restores insideNow ?_ ?_
  · intro later insideLater bindings calls
    cases compensated : env.compensated with
    | error error =>
      exact phase_completes insideLater.underway nofun fun _ _ =>
        .inr (.inr (.inl ⟨error, compensated⟩))
    | ok _ =>
      rw [compensated] at calls
      refine rewindHead_keeps insideLater target stored phase found bindings calls ?_ ?_
      · intro revision rewoundPlane rewound underway
        refine keeps_complete ?_ ?_
        · intro request named _
          exact .complete named underway fun _ _ => ⟨revision, rewound⟩
        · intro request _
          exact .inr (.inl ⟨revision, rewound.sameTables (complete_sameTables _ request)⟩)
      · intro message unrewindable
        exact phase_completes insideLater.underway nofun fun _ completed =>
          .inr (.inr (.inr (unrewindable completed)))
  · intro error refused
    cases env.compensated with
    | error _ | ok _ =>
      exact phase_completes insideNow.underway nofun fun _ _ => .inl untouched

end

theorem finalizePhase_keeps (phase : payload.phase = .finalize)
    (same : plane.topology = origin.topology) :
    Keeps (PhaseCall origin env held payload heads) (fun _ => True)
      (finalizePhase env held payload previous) plane := by
  have notAbort : payload.phase ≠ .abort := by rw [phase]; nofun
  unfold finalizePhase
  refine keeps_bindings (.read rfl) ?_
  refine keeps_orFail ?_ trivial
  intro staged read
  rw [same] at read
  cases bindingsHealthy env 0 staged with
  | error health => exact compensateApply_keeps inside target stored phase
  | ok _ =>
    refine keeps_topology (.write inside (.activate phase read)) ?_ ?_
    · rintro ⟨⟩ after committed
      have activated := bindingsOf_replaced committed
      have insideLater := inside.replaced committed
      refine keeps_checkpoint (fun _ => .heartbeat) ?_ fun _ => trivial
      intro beat
      have insideNow := insideLater.heartbeat beat
      refine keeps_topology (.write insideNow (.advance phase read activated)) ?_ ?_
      · intro advanced _ _
        exact phase_ends notAbort insideNow.underway
      · intro headError _
        refine keeps_compensateProviders rfl (.write insideNow (.compensate target stored)) ?_
        refine phase_restores (insideNow.provider _) ?_ ?_
        · intro later insideLast bindings calls
          have settled : later.Restored payload.topologyId held.job.operationId
              payload.previousBindings ∨
                TopologyApplyOutcome.degraded = .degraded ∧ Troubled origin env payload := by
            cases succeeded : env.compensated.isOk with
            | true =>
              exact .inl (restored_of_call bindings calls (by simp [isFor])
                (isRestoring_compensate succeeded))
            | false => exact .inr ⟨rfl, .inr (.inr ⟨phase, exists_error_of_isOk succeeded⟩)⟩
          refine keeps_topology (.write insideLast (.release (.inr phase) nofun settled)) ?_ ?_
          · intro _ _ _
            exact phase_ends notAbort insideLast.underway
          · intro _ _
            exact phase_ends notAbort insideLast.underway
        · intro error refused
          refine keeps_topology (.write (insideNow.provider _)
            (.release (.inr phase) nofun (.inr ⟨rfl, .inl ⟨error, refused⟩⟩))) ?_ ?_
          · intro _ _ _
            exact phase_ends notAbort insideNow.underway
          · intro _ _
            exact phase_ends notAbort insideNow.underway
    · intro activationError _
      exact compensateApply_keeps inside target stored phase

end UntitledOJ
