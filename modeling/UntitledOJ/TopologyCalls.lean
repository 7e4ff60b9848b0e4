import UntitledOJ.TopologyTables

/-!
# Calls to the topology tables

What a committed call did: it inserted one revision and headed it, it inserted
one revision and made it the draft, or it moved heads.  The moves of a head are
listed with the comparison that admitted them.
-/

namespace UntitledOJ

open TopologyRevision

inductive TopologyCall where
  | createInitial (spec : TopologySpec) (note : RevisionNote)
  | createNext (topologyId expectedDraftRevisionId : String) (spec : TopologySpec)
      (note : RevisionNote)
  | createRollback (topologyId expectedDraftRevisionId targetRevisionId : String)
      (note : RevisionNote)
  | beginApply (topologyId expectedDraftRevisionId operationId updatedAt : String)
  | finish (topologyId revisionId operationId : String) (outcome : TopologyApplyOutcome)
      (updatedAt : String)
  | finishFenced (topologyId revisionId operationId : String) (outcome : TopologyApplyOutcome)
      (updatedAt : String) (fence : JobFence)
  | finishGroup (members : List TopologyApplyGroupMember) (operationId updatedAt : String)
  | finishGroupFenced (members : List TopologyApplyGroupMember) (operationId updatedAt : String)
      (fence : JobFence)
  | compensateCompleted
      (topologyId revisionId previousRevisionId operationId updatedAt : String)
  | completeAbort
      (topologyId candidateRevisionId previousRevisionId operationId updatedAt : String)
  | replaceBindings (topologyId : String) (bindings : List ApiBinding)
  | putStatus (status : TopologyStatus)

namespace TopologyCall

def Result : TopologyCall → Type
  | .createInitial .. | .createNext .. | .createRollback .. | .beginApply .. => TopologyRevision
  | .finish .. | .finishFenced .. | .compensateCompleted .. | .completeAbort .. => TopologyHeads
  | .finishGroup .. | .finishGroupFenced .. => List TopologyHeads
  | .replaceBindings .. | .putStatus .. => Unit

def replaces : TopologyCall → Bool
  | .finishGroup .. | .finishGroupFenced .. | .replaceBindings .. => true
  | _ => false

def Edits (topologyId : String) : TopologyCall → Prop
  | .createNext edited .. | .createRollback edited .. => edited = topologyId
  | _ => False

/-- The call ends the operation's apply of the revision with the outcome. -/
def Finishes (topologyId revisionId operationId : String) (outcome : TopologyApplyOutcome) :
    TopologyCall → Prop
  | .finish topology revision operation ended _
  | .finishFenced topology revision operation ended _ _ =>
    topology = topologyId ∧ revision = revisionId ∧ operation = operationId ∧ ended = outcome
  | .finishGroup members operation _ | .finishGroupFenced members operation _ _ =>
    operation = operationId ∧ outcome = .succeeded ∧
      ∃ member ∈ members, member.topologyId = topologyId ∧ member.revisionId = revisionId
  | _ => False

/-- The call rewinds the operation's apply that already reached the head. -/
def Compensates (topologyId revisionId previousRevisionId operationId : String) :
    TopologyCall → Prop
  | .compensateCompleted topology revision previous operation _ =>
    topology = topologyId ∧ revision = revisionId ∧ previous = previousRevisionId ∧
      operation = operationId
  | _ => False

/-- The call gives up the operation's apply for the revision applied before. -/
def Aborts (topologyId revisionId previousRevisionId operationId : String) :
    TopologyCall → Prop
  | .completeAbort topology revision previous operation _ =>
    topology = topologyId ∧ revision = revisionId ∧ previous = previousRevisionId ∧
      operation = operationId
  | _ => False

end TopologyCall

/-- The heads once the operation lets go of the revision it was applying. -/
@[simp] def TopologyHeads.releasedBy (operationId : String) (heads : TopologyHeads)
    (applied : Option String) : TopologyHeads :=
  { heads with
    appliedRevisionId := applied
    applyingRevisionId := none
    applyingOperationId := none
    lastOperationId := some operationId }

namespace TopologyTables

def exec [Digests] [AddressSyntax] (evidence : String → Except StorageError (Option LeaseEvidence))
    (tables : TopologyTables) :
    (call : TopologyCall) → Except StorageError call.Result × TopologyTables
  | .createInitial spec note => tables.createInitialTopologyRevision spec note
  | .createNext topologyId expected spec note =>
    tables.createNextTopologyRevision topologyId expected spec note
  | .createRollback topologyId expected target note =>
    tables.createTopologyRollbackRevision topologyId expected target note
  | .beginApply topologyId expected operationId updatedAt =>
    tables.beginTopologyApply topologyId expected operationId updatedAt
  | .finish topologyId revisionId operationId outcome updatedAt =>
    tables.finishTopologyApply topologyId revisionId operationId outcome updatedAt
  | .finishFenced topologyId revisionId operationId outcome updatedAt fence =>
    tables.finishTopologyApplyFenced evidence topologyId revisionId operationId outcome
      updatedAt fence
  | .finishGroup members operationId updatedAt =>
    tables.finishTopologyApplyGroup members operationId updatedAt
  | .finishGroupFenced members operationId updatedAt fence =>
    tables.finishTopologyApplyGroupFenced evidence members operationId updatedAt fence
  | .compensateCompleted topologyId revisionId previous operationId updatedAt =>
    tables.compensateCompletedTopologyApply topologyId revisionId previous operationId updatedAt
  | .completeAbort topologyId candidate previous operationId updatedAt =>
    tables.completeCompensatedTopologyAbort topologyId candidate previous operationId updatedAt
  | .replaceBindings topologyId bindings => tables.replaceTopologyApiBindings topologyId bindings
  | .putStatus status => tables.putTopologyStatus status

inductive HeadMove (revisions : List TopologyRevision) (call : TopologyCall)
    (topologyId : String) (heads : TopologyHeads) : TopologyHeads → Prop
  | begin (revisionId operationId updatedAt : String)
      (called : call = .beginApply topologyId revisionId operationId updatedAt)
      (draft : heads.draftRevisionId = revisionId) (free : heads.applyingRevisionId = none) :
      HeadMove revisions call topologyId heads
        { heads with
          applyingRevisionId := some revisionId
          applyingOperationId := some operationId
          lastOperationId := some operationId }
  | finish (revisionId operationId : String) (outcome : TopologyApplyOutcome)
      (called : call.Finishes topologyId revisionId operationId outcome)
      (applying : heads.applyingRevisionId = some revisionId)
      (owner : heads.applyingOperationId = some operationId) :
      HeadMove revisions call topologyId heads
        (heads.releasedBy operationId
          (if outcome = .succeeded then some revisionId else heads.appliedRevisionId))
  | compensate (revisionId previousRevisionId operationId : String)
      (called : call.Compensates topologyId revisionId previousRevisionId operationId)
      (stored : ∃ revision ∈ revisions, revision.topologyId = topologyId ∧
        revision.revisionId = previousRevisionId)
      (draft : heads.draftRevisionId = revisionId)
      (applied : heads.appliedRevisionId = some revisionId)
      (free : heads.applyingRevisionId = none)
      (owner : heads.lastOperationId = some operationId) :
      HeadMove revisions call topologyId heads
        { heads.releasedBy operationId (some previousRevisionId) with
          draftRevisionId := previousRevisionId }
  | abort (revisionId previousRevisionId operationId : String)
      (called : call.Aborts topologyId revisionId previousRevisionId operationId)
      (stored : ∃ revision ∈ revisions, revision.topologyId = topologyId ∧
        revision.revisionId = previousRevisionId)
      (draft : heads.draftRevisionId = revisionId)
      (applying : heads.applyingRevisionId = some revisionId)
      (owner : heads.applyingOperationId = some operationId)
      (applied : heads.appliedRevisionId = some previousRevisionId) :
      HeadMove revisions call topologyId heads
        { heads.releasedBy operationId (some previousRevisionId) with
          draftRevisionId := previousRevisionId }

/-- What a committed call did to the revisions and the heads. -/
inductive Commits (before : TopologyTables) (call : TopologyCall) (after : TopologyTables) : Prop
  | created (revision : TopologyRevision)
      (called : ∃ spec note, call = .createInitial spec note)
      (absent : before.heads[revision.topologyId]? = none)
      (number : revision.revisionNumber = 1)
      (parent : revision.parentRevisionId = none)
      (revisions : after.revisions = before.revisions ++ [revision])
      (heads : after.heads = before.heads.insert revision.topologyId
        ⟨revision.topologyId, revision.revisionId, none, none, none, none⟩)
  | drafted (revision : TopologyRevision) (heads : TopologyHeads)
      (called : call.Edits revision.topologyId)
      (found : before.heads[revision.topologyId]? = some heads)
      (free : heads.applyingRevisionId = none)
      (number : before.nextPersistedRevisionNumber revision.topologyId =
        .ok revision.revisionNumber)
      (parent : revision.parentRevisionId = some heads.draftRevisionId)
      (fresh : ∀ row ∈ before.revisions, row.revisionId ≠ revision.revisionId)
      (revisions : after.revisions = before.revisions ++ [revision])
      (moved : after.heads = before.heads.insert revision.topologyId
        { heads with draftRevisionId := revision.revisionId })
  | moved
      (revisions : after.revisions = before.revisions)
      (heads : ∀ topologyId, after.heads[topologyId]? = before.heads[topologyId]? ∨
        ∃ first last, before.heads[topologyId]? = some first ∧
          after.heads[topologyId]? = some last ∧
          HeadMove before.revisions call topologyId first last)

variable {topologyId operationId updatedAt revisionId : String} {heads : TopologyHeads}
  {revision : TopologyRevision}

variable {before after : TopologyTables}

structure SameHeads (before after : TopologyTables) : Prop where
  revisions : after.revisions = before.revisions
  heads : after.heads = before.heads

structure SameRows (before after : TopologyTables) : Prop extends SameHeads before after where
  bindings : after.bindings = before.bindings

theorem domain_ok {α : Type} {outcome : Except OrchestratorError α} {result : α}
    (succeeded : domain outcome = .ok result) : outcome = .ok result := by
  cases outcome with
  | error error => cases succeeded
  | ok value =>
    cases succeeded
    rfl

theorem writeHeads_ok (written : before.writeHeads topologyId heads = .ok after) :
    after = { before with heads := before.heads.insert topologyId heads } := by
  obtain ⟨_, _, written⟩ := ok_of_bind written
  obtain ⟨_, _, written⟩ := ok_of_bind written
  obtain ⟨_, _, written⟩ := ok_of_bind written
  obtain ⟨_, written⟩ := ok_of_require_bind written
  cases written
  rfl

theorem updateHeads_ok {matching : TopologyHeads → Bool} {change : TopologyHeads → TopologyHeads}
    {unchanged : StorageError}
    (updated : before.updateHeads topologyId matching change unchanged = .ok after) :
    ∃ heads, before.heads[topologyId]? = some heads ∧ matching heads = true ∧
      after = { before with heads := before.heads.insert topologyId (change heads) } := by
  unfold updateHeads at updated
  split at updated
  · cases updated
  · rename_i heads found
    split_ifs at updated with matches_
    exact ⟨heads, found, matches_, writeHeads_ok updated⟩

theorem upsertStatus_ok {status : TopologyStatus}
    (written : before.upsertStatus status = .ok after) : SameRows before after := by
  obtain ⟨_, _, written⟩ := ok_of_bind written
  obtain ⟨_, _, written⟩ := ok_of_bind written
  cases written
  exact ⟨⟨rfl, rfl⟩, rfl⟩

theorem report_ok {desired observed : Option String} {state : TopologyReconciliationState}
    (reported : before.report topologyId desired observed state operationId updatedAt = .ok after) :
    SameRows before after := by
  obtain ⟨_, _, written⟩ := ok_of_bind reported
  exact upsertStatus_ok written

theorem requiredHeads_ok {missing : String}
    (found : before.requiredHeads topologyId missing = .ok heads) :
    before.heads[topologyId]? = some heads := by
  unfold requiredHeads at found
  split at found
  · rename_i stored present
    cases found
    exact present
  · cases found

theorem requiredRevision_ok [Digests] [AddressSyntax] {missing : StorageError}
    (loaded : before.requiredRevision topologyId revisionId missing = .ok revision) :
    revision ∈ before.revisions ∧ revision.topologyId = topologyId ∧
      revision.revisionId = revisionId := by
  obtain ⟨_, load, answered⟩ := ok_of_bind loaded
  unfold loadRevision at load
  split at load
  · cases load
    cases answered
  · rename_i stored present
    obtain ⟨_, _, load⟩ := ok_of_bind load
    cases load
    cases answered
    have matching := List.find?_some present
    simp only [Bool.and_eq_true, decide_eq_true_eq] at matching
    exact ⟨List.mem_of_find?_eq_some present, matching⟩

theorem insertRevision_ok [Digests] [AddressSyntax]
    (inserted : before.insertRevision revision = .ok after) :
    revision.verify = .ok () ∧ (∀ row ∈ before.revisions, row.revisionId ≠ revision.revisionId) ∧
      after = { before with revisions := before.revisions ++ [revision] } := by
  obtain ⟨⟨⟩, verified, inserted⟩ := ok_of_bind inserted
  obtain ⟨_, inserted⟩ := ok_of_require_bind inserted
  obtain ⟨_, inserted⟩ := ok_of_require_bind inserted
  obtain ⟨_, inserted⟩ := ok_of_require_bind inserted
  obtain ⟨fresh, inserted⟩ := ok_of_require_bind inserted
  obtain ⟨_, _, inserted⟩ := ok_of_bind inserted
  obtain ⟨_, _, inserted⟩ := ok_of_bind inserted
  cases inserted
  refine ⟨domain_ok verified, ?_, rfl⟩
  intro row member same
  simp only [Bool.not_eq_true', List.any_eq_false, decide_eq_true_eq] at fresh
  exact fresh row member same

variable {call : TopologyCall}

theorem commits_of_move {first last : TopologyHeads}
    (revisions : after.revisions = before.revisions)
    (heads : after.heads = before.heads.insert topologyId last)
    (found : before.heads[topologyId]? = some first)
    (move : HeadMove before.revisions call topologyId first last) : Commits before call after := by
  refine .moved revisions ?_
  intro other
  rw [heads, getElem?_insert_of_eq]
  split_ifs with same
  · subst same
    exact .inr ⟨first, last, found, rfl, move⟩
  · exact .inl rfl

theorem commits_of_sameHeads (same : SameHeads before after) : Commits before call after := by
  refine .moved same.revisions ?_
  intro topologyId
  rw [same.heads]
  exact .inl rfl

variable {expected : String}

theorem ensureMutableHead_ok (mutable : ensureMutableHead heads expected = .ok ()) :
    heads.draftRevisionId = expected ∧ heads.applyingRevisionId = none := by
  obtain ⟨draft, mutable⟩ := ok_of_require_bind mutable
  exact ⟨of_decide_eq_true draft, Option.isNone_iff_eq_none.mp (of_require mutable)⟩

/-- What a call did that wrote no binding. -/
structure Rewrites (before : TopologyTables) (call : TopologyCall) (after : TopologyTables) :
    Prop where
  commits : Commits before call after
  bindings : after.bindings = before.bindings

theorem finishTransaction_rewrites {outcome : TopologyApplyOutcome}
    (called : call.Finishes topologyId revisionId operationId outcome)
    (committed : before.finishTransaction topologyId revisionId operationId outcome updatedAt =
      .ok (heads, after)) : Rewrites before call after := by
  obtain ⟨_, found, steps⟩ := ok_of_bind committed
  obtain ⟨owned, steps⟩ := ok_of_require_bind steps
  obtain ⟨_, updated, steps⟩ := ok_of_bind steps
  obtain ⟨_, reporting, steps⟩ := ok_of_bind steps
  obtain ⟨_, _, steps⟩ := ok_of_bind steps
  cases steps
  have present := requiredHeads_ok found
  obtain ⟨_, again, _, rfl⟩ := updateHeads_ok updated
  cases present.symm.trans again
  have same := report_ok reporting
  simp only [Bool.and_eq_true, decide_eq_true_eq] at owned
  exact ⟨commits_of_move same.revisions same.heads present
    (.finish revisionId operationId outcome called owned.1 owned.2), same.bindings⟩

variable {members : List TopologyApplyGroupMember} {completed : List TopologyHeads}
  {bindings : List ApiBinding}

theorem finishGroupHeads_ok
    (finished : before.finishGroupHeads operationId updatedAt members = .ok (completed, after)) :
    after.revisions = before.revisions ∧ after.bindings = before.bindings ∧
      ∀ topologyId, after.heads[topologyId]? = before.heads[topologyId]? ∨
        ∃ heads, ∃ member ∈ members, member.topologyId = topologyId ∧
          before.heads[topologyId]? = some heads ∧
          heads.applyingRevisionId = some member.revisionId ∧
          heads.applyingOperationId = some operationId ∧
          after.heads[topologyId]? = some (heads.releasedBy operationId member.revisionId) := by
  induction members generalizing before completed with
  | nil =>
    cases finished
    exact ⟨rfl, rfl, fun _ => .inl rfl⟩
  | cons member rest ih =>
    obtain ⟨moved, updated, steps⟩ := ok_of_bind finished
    obtain ⟨reported, reporting, steps⟩ := ok_of_bind steps
    obtain ⟨_, _, steps⟩ := ok_of_bind steps
    obtain ⟨⟨_, _⟩, remaining, steps⟩ := ok_of_bind steps
    cases steps
    obtain ⟨heads, found, matching, rfl⟩ := updateHeads_ok updated
    have same := report_ok reporting
    obtain ⟨revisions, bindings, later⟩ := ih remaining
    simp only [Bool.and_eq_true, decide_eq_true_eq] at matching
    refine ⟨revisions.trans same.revisions, bindings.trans same.bindings, ?_⟩
    intro topologyId
    have between : reported.heads[topologyId]? =
        if topologyId = member.topologyId then
          some (heads.releasedBy operationId member.revisionId)
        else before.heads[topologyId]? := by
      rw [same.heads, getElem?_insert_of_eq]
      rfl
    by_cases here : topologyId = member.topologyId
    · rw [if_pos here] at between
      rcases later topologyId with unchanged | ⟨moved, _, _, _, present, applying, _⟩
      · refine .inr ⟨heads, member, List.mem_cons_self, here.symm, here ▸ found, matching.1,
          matching.2, unchanged.trans between⟩
      · -- the head was released by the first update, so no later one matches
        rw [between] at present
        cases present
        cases applying
    · rw [if_neg here] at between
      rcases later topologyId with unchanged | ⟨moved, other, inside, rest⟩
      · exact .inl (unchanged.trans between)
      · rw [between] at rest
        exact .inr ⟨moved, other, List.mem_cons_of_mem _ inside, rest⟩

theorem insertBindings_eq (inserted : before.insertBindings bindings = .ok after) :
    after = { before with bindings := before.bindings ++ bindings } := by
  induction bindings generalizing before with
  | nil =>
    cases inserted
    rw [List.append_nil]
  | cons binding rest ih =>
    obtain ⟨_, insertion, inserted⟩ := ok_of_bind inserted
    obtain ⟨_, insertion⟩ := ok_of_require_bind insertion
    obtain ⟨_, insertion⟩ := ok_of_require_bind insertion
    cases insertion
    rw [ih inserted, List.append_assoc, List.singleton_append]

theorem insertGroupBindings_eq (inserted : before.insertGroupBindings members = .ok after) :
    after = { before with
      bindings := before.bindings ++ members.flatMap (·.activeBindings) } := by
  induction members generalizing before with
  | nil =>
    cases inserted
    rw [List.flatMap_nil, List.append_nil]
  | cons member rest ih =>
    obtain ⟨_, insertion, inserted⟩ := ok_of_bind inserted
    rw [ih inserted, insertBindings_eq insertion, List.append_assoc, List.flatMap_cons]

theorem deleteGroupBindings_eq (tables : TopologyTables)
    (members : List TopologyApplyGroupMember) : tables.deleteGroupBindings members =
      { tables with bindings := tables.bindings.filter fun row =>
          !members.any fun member => member.topologyId = row.topologyId } := by
  induction members generalizing tables with
  | nil => simp [deleteGroupBindings]
  | cons member rest ih =>
    have deleted := ih (tables.deleteBindings member.topologyId)
    simp only [deleteGroupBindings, List.foldl_cons] at deleted ⊢
    rw [deleted, deleteBindings, List.filter_filter]
    congr 1
    refine List.filter_congr fun row _ => ?_
    simp [eq_comm, Bool.and_comm]

theorem finishGroupTransaction_commits (called : ∀ member ∈ members,
      call.Finishes member.topologyId member.revisionId operationId .succeeded)
    (committed : before.finishGroupTransaction members operationId updatedAt =
      .ok (completed, after)) : Commits before call after := by
  obtain ⟨⟨⟩, _, steps⟩ := ok_of_bind committed
  obtain ⟨_, insertion, finished⟩ := ok_of_bind steps
  obtain ⟨revisions, _, heads⟩ := finishGroupHeads_ok finished
  rw [insertGroupBindings_eq insertion, deleteGroupBindings_eq] at revisions heads
  refine .moved revisions ?_
  intro topologyId
  rcases heads topologyId with unchanged |
    ⟨first, member, inside, rfl, found, applying, owner, last⟩
  · exact .inl unchanged
  · exact .inr ⟨first, _, found, last,
      .finish member.revisionId operationId .succeeded (called member inside) applying owner⟩

theorem validateTopologySet_keyed {requirements : List (String × String)} {ids : List String}
    (valid : validateTopologySet topologyId ids requirements bindings = .ok ()) :
    ∀ binding ∈ bindings, binding.topologyId = topologyId := by
  induction bindings generalizing ids requirements with
  | nil => simp
  | cons binding rest ih =>
    rw [List.forall_mem_cons]
    cases checked : binding.validate with
    | error message =>
      simp only [validateTopologySet, checked] at valid
      cases valid
    | ok result =>
      simp only [validateTopologySet, checked] at valid
      obtain ⟨belongs, steps⟩ := ok_of_require_bind valid
      obtain ⟨_, steps⟩ := ok_of_require_bind steps
      exact ⟨of_decide_eq_true belongs, ih steps⟩

theorem replaced_eq
    (committed : before.replaceTopologyApiBindings topologyId bindings = (.ok (), after)) :
    after = { before with
        bindings := (before.bindings.filter fun row => row.topologyId ≠ topologyId) ++ bindings } ∧
      ∀ binding ∈ bindings, binding.topologyId = topologyId := by
  obtain ⟨_, steps⟩ := ok_of_require_bind (ok_of_transact committed)
  obtain ⟨⟨⟩, valid, steps⟩ := ok_of_bind steps
  obtain ⟨_, insertion, steps⟩ := ok_of_bind steps
  cases steps
  exact ⟨insertBindings_eq insertion, validateTopologySet_keyed valid⟩

theorem replaceBindings_commits
    (committed : before.replaceTopologyApiBindings topologyId bindings = (.ok (), after)) :
    Commits before (.replaceBindings topologyId bindings) after := by
  obtain ⟨rfl, _⟩ := replaced_eq committed
  exact commits_of_sameHeads ⟨rfl, rfl⟩

variable [Digests] [AddressSyntax] {note : RevisionNote} {spec : TopologySpec}

theorem createInitial_rewrites
    (committed : before.createInitialTopologyRevision spec note = (.ok revision, after)) :
    Rewrites before (.createInitial spec note) after := by
  obtain ⟨_, initial, outcome⟩ := ok_of_bind (ok_of_transact committed)
  obtain ⟨absent, outcome⟩ := ok_of_require_bind outcome
  obtain ⟨_, insertion, outcome⟩ := ok_of_bind outcome
  obtain ⟨_, written, outcome⟩ := ok_of_bind outcome
  obtain ⟨_, _, outcome⟩ := ok_of_bind outcome
  obtain ⟨_, upserted, outcome⟩ := ok_of_bind outcome
  cases outcome
  obtain ⟨_, number, parent, _⟩ := fromParts_ok (domain_ok initial)
  obtain ⟨_, _, rfl⟩ := insertRevision_ok insertion
  have stored := writeHeads_ok written
  subst stored
  have same := upsertStatus_ok upserted
  refine ⟨.created revision ⟨spec, note, rfl⟩ ?_ number parent same.revisions same.heads,
    same.bindings⟩
  simpa only [Bool.not_eq_true', Std.TreeMap.contains_eq_isSome_getElem?,
    Option.isSome_eq_false_iff, Option.isNone_iff_eq_none] using absent

variable {parent base : TopologyRevision} {number : Nat} {rollbackOf : Option String}

theorem renumbered_ok (follows : parent.Follows base)
    (built : renumbered base number parent.revisionId rollbackOf = .ok revision) :
    revision.topologyId = parent.topologyId ∧ revision.revisionNumber = number ∧
      revision.parentRevisionId = some parent.revisionId := by
  unfold renumbered at built
  split_ifs at built with same
  · cases built
    exact ⟨follows.topology, same, follows.parent⟩
  · obtain ⟨topology, number, parent, _⟩ := fromParts_ok (domain_ok built)
    exact ⟨topology.trans (follows.belongs.trans follows.topology), number, parent⟩

theorem draft_rewrites {published : TopologyRevision} {missing : String} {absent : StorageError}
    (edits : call.Edits topologyId) (found : before.requiredHeads topologyId missing = .ok heads)
    (mutable : ensureMutableHead heads expected = .ok ())
    (loaded : before.requiredRevision topologyId expected absent = .ok parent)
    (follows : parent.Follows base)
    (counted : before.nextPersistedRevisionNumber topologyId = .ok number)
    (renumbering : renumbered base number parent.revisionId rollbackOf = .ok revision)
    (committed : before.publishDraft topologyId expected revision = .ok (published, after)) :
    Rewrites before call after := by
  obtain ⟨draft, free⟩ := ensureMutableHead_ok mutable
  obtain ⟨_, topology, rfl⟩ := requiredRevision_ok loaded
  obtain ⟨sameTopology, rfl, parent⟩ := renumbered_ok follows renumbering
  obtain rfl := sameTopology.trans topology
  obtain ⟨_, insertion, outcome⟩ := ok_of_bind committed
  obtain ⟨_, updated, outcome⟩ := ok_of_bind outcome
  obtain ⟨_, _, outcome⟩ := ok_of_bind outcome
  obtain ⟨_, upserted, outcome⟩ := ok_of_bind outcome
  cases outcome
  obtain ⟨_, fresh, rfl⟩ := insertRevision_ok insertion
  have found := requiredHeads_ok found
  obtain ⟨_, present, _, rfl⟩ := updateHeads_ok updated
  cases found.symm.trans present
  have same := upsertStatus_ok upserted
  exact ⟨.drafted revision heads edits found free counted (draft ▸ parent) fresh same.revisions
    same.heads, same.bindings⟩

theorem createNext_rewrites
    (committed : before.createNextTopologyRevision topologyId expected spec note =
      (.ok revision, after)) :
    Rewrites before (.createNext topologyId expected spec note) after := by
  obtain ⟨_, found, outcome⟩ := ok_of_bind (ok_of_transact committed)
  obtain ⟨⟨⟩, mutable, outcome⟩ := ok_of_bind outcome
  obtain ⟨_, loaded, outcome⟩ := ok_of_bind outcome
  obtain ⟨_, built, outcome⟩ := ok_of_bind outcome
  obtain ⟨_, counted, outcome⟩ := ok_of_bind outcome
  obtain ⟨_, renumbering, outcome⟩ := ok_of_bind outcome
  exact draft_rewrites rfl found mutable loaded (next_ok (domain_ok built)) counted renumbering
    outcome

theorem createRollback_rewrites {target : String}
    (committed : before.createTopologyRollbackRevision topologyId expected target note =
      (.ok revision, after)) :
    Rewrites before (.createRollback topologyId expected target note) after := by
  obtain ⟨_, found, outcome⟩ := ok_of_bind (ok_of_transact committed)
  obtain ⟨⟨⟩, mutable, outcome⟩ := ok_of_bind outcome
  obtain ⟨_, loaded, outcome⟩ := ok_of_bind outcome
  obtain ⟨_, _, outcome⟩ := ok_of_bind outcome
  obtain ⟨_, built, outcome⟩ := ok_of_bind outcome
  obtain ⟨_, counted, outcome⟩ := ok_of_bind outcome
  obtain ⟨_, renumbering, outcome⟩ := ok_of_bind outcome
  exact draft_rewrites rfl found mutable loaded (rollbackTo_ok (domain_ok built)) counted
    renumbering outcome

theorem beginApply_rewrites
    (committed : before.beginTopologyApply topologyId expected operationId updatedAt =
      (.ok revision, after)) :
    Rewrites before (.beginApply topologyId expected operationId updatedAt) after := by
  obtain ⟨_, outcome⟩ := ok_of_require_bind (ok_of_transact committed)
  obtain ⟨_, _, outcome⟩ := ok_of_bind outcome
  obtain ⟨_, updated, outcome⟩ := ok_of_bind outcome
  obtain ⟨_, _, outcome⟩ := ok_of_bind outcome
  obtain ⟨_, _, outcome⟩ := ok_of_bind outcome
  obtain ⟨_, upserted, outcome⟩ := ok_of_bind outcome
  cases outcome
  obtain ⟨_, found, matching, rfl⟩ := updateHeads_ok updated
  have same := upsertStatus_ok upserted
  simp only [Bool.and_eq_true, decide_eq_true_eq, Option.isNone_iff_eq_none] at matching
  exact ⟨commits_of_move same.revisions same.heads found
    (.begin expected operationId updatedAt rfl matching.1 matching.2), same.bindings⟩

variable {previous : String} {completed : TopologyHeads} {candidate : String}

theorem compensateHeads_ok {matching : TopologyHeads → Bool}
    {unchanged : StorageError}
    (committed : before.compensateHeads topologyId candidate previous operationId updatedAt
      matching unchanged = .ok (completed, after)) :
    ∃ heads, before.heads[topologyId]? = some heads ∧ matching heads = true ∧
      (∃ revision ∈ before.revisions, revision.topologyId = topologyId ∧
        revision.revisionId = previous) ∧
      after.revisions = before.revisions ∧ after.bindings = before.bindings ∧
      after.heads = before.heads.insert topologyId
        { heads.releasedBy operationId (some previous) with draftRevisionId := previous } := by
  obtain ⟨⟨⟩, ensured, steps⟩ := ok_of_bind committed
  obtain ⟨_, updated, steps⟩ := ok_of_bind steps
  obtain ⟨_, reporting, steps⟩ := ok_of_bind steps
  obtain ⟨_, _, steps⟩ := ok_of_bind steps
  cases steps
  obtain ⟨_, ensured⟩ := ok_of_require_bind ensured
  obtain ⟨_, _, ensured⟩ := ok_of_bind ensured
  obtain ⟨revision, loaded, _⟩ := ok_of_bind ensured
  obtain ⟨heads, found, matches_, rfl⟩ := updateHeads_ok updated
  have same := report_ok reporting
  exact ⟨heads, found, matches_, ⟨revision, requiredRevision_ok loaded⟩, same.revisions,
    same.bindings, same.heads⟩

theorem compensateCompleted_rewrites
    (committed : before.compensateCompletedTopologyApply topologyId revisionId previous
      operationId updatedAt = (.ok completed, after)) :
    Rewrites before (.compensateCompleted topologyId revisionId previous operationId updatedAt)
      after := by
  obtain ⟨_, found, matching, stored, revisions, bindings, moved⟩ :=
    compensateHeads_ok (ok_of_transact committed)
  simp only [Bool.and_eq_true, decide_eq_true_eq, Option.isNone_iff_eq_none] at matching
  obtain ⟨⟨⟨⟨draft, applied⟩, free⟩, _⟩, owner⟩ := matching
  exact ⟨commits_of_move revisions moved found
    (.compensate revisionId previous operationId ⟨rfl, rfl, rfl, rfl⟩ stored draft applied free
      owner), bindings⟩

theorem completeAbort_rewrites
    (committed : before.completeCompensatedTopologyAbort topologyId candidate previous
      operationId updatedAt = (.ok completed, after)) :
    Rewrites before (.completeAbort topologyId candidate previous operationId updatedAt) after := by
  obtain ⟨_, found, matching, stored, revisions, bindings, moved⟩ :=
    compensateHeads_ok (ok_of_transact committed)
  simp only [Bool.and_eq_true, decide_eq_true_eq] at matching
  obtain ⟨⟨⟨draft, applying⟩, owner⟩, applied⟩ := matching
  exact ⟨commits_of_move revisions moved found
    (.abort candidate previous operationId ⟨rfl, rfl, rfl, rfl⟩ stored draft applying owner
      applied), bindings⟩

theorem putStatus_rewrites {status : TopologyStatus}
    (committed : before.putTopologyStatus status = (.ok (), after)) :
    Rewrites before (.putStatus status) after := by
  obtain ⟨_, _, steps⟩ := ok_of_bind (ok_of_transact committed)
  obtain ⟨_, _, steps⟩ := ok_of_bind steps
  obtain ⟨_, _, steps⟩ := ok_of_bind steps
  obtain ⟨_, written, steps⟩ := ok_of_bind steps
  cases steps
  have same := upsertStatus_ok written
  exact ⟨commits_of_sameHeads same.toSameHeads, same.bindings⟩

variable {evidence : String → Except StorageError (Option LeaseEvidence)} {result : call.Result}

theorem exec_rewrites (committed : before.exec evidence call = (.ok result, after))
    (keeps : call.replaces = false) : Rewrites before call after := by
  cases call with
  | createInitial spec note => exact createInitial_rewrites committed
  | createNext topologyId expected spec note => exact createNext_rewrites committed
  | createRollback topologyId expected target note => exact createRollback_rewrites committed
  | beginApply topologyId expected operationId updatedAt => exact beginApply_rewrites committed
  | finish topologyId revisionId operationId outcome updatedAt =>
    exact finishTransaction_rewrites ⟨rfl, rfl, rfl, rfl⟩ (ok_of_transact committed)
  | finishFenced topologyId revisionId operationId outcome updatedAt fence =>
    obtain ⟨_, _, steps⟩ := ok_of_bind (ok_of_transact committed)
    exact finishTransaction_rewrites ⟨rfl, rfl, rfl, rfl⟩ steps
  | compensateCompleted topologyId revisionId previous operationId updatedAt =>
    exact compensateCompleted_rewrites committed
  | completeAbort topologyId candidate previous operationId updatedAt =>
    exact completeAbort_rewrites committed
  | putStatus status => exact putStatus_rewrites committed
  | finishGroup | finishGroupFenced | replaceBindings => cases keeps

theorem exec_commits (committed : before.exec evidence call = (.ok result, after)) :
    Commits before call after := by
  cases call with
  | finishGroup members operationId updatedAt =>
    obtain ⟨_, _, steps⟩ := ok_of_bind (ok_of_transact committed)
    refine finishGroupTransaction_commits ?_ steps
    exact fun member inside => ⟨rfl, rfl, member, inside, rfl, rfl⟩
  | finishGroupFenced members operationId updatedAt fence =>
    obtain ⟨_, _, steps⟩ := ok_of_bind (ok_of_transact committed)
    obtain ⟨_, _, steps⟩ := ok_of_bind steps
    refine finishGroupTransaction_commits ?_ steps
    exact fun member inside => ⟨rfl, rfl, member, inside, rfl, rfl⟩
  | replaceBindings topologyId bindings => exact replaceBindings_commits committed
  | _ => exact (exec_rewrites committed rfl).commits

theorem exec_error {error : StorageError} (failed : (before.exec evidence call).1 = .error error) :
    (before.exec evidence call).2 = before := by
  cases call with
  | _ => exact transact_error failed

end TopologyTables

end UntitledOJ
