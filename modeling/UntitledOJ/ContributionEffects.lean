import UntitledOJ.ContributionStore

/-!
# What a repository call does to revisions and heads

A call inserts one staged revision, moves the status of one, publishes one at a head, points a
head back to the predecessor of its candidate, or replaces a first candidate by an empty successor.
-/

namespace UntitledOJ

open Contribution ContributionRevisionV1

namespace Contribution

variable {α : Type} {outcome : Except DomainError α} {result : α}

theorem ok_of_asInvalid (passed : asInvalid outcome = .ok result) : outcome = .ok result := by
  cases outcome with
  | ok value => cases passed; rfl
  | error error => cases passed

theorem ok_of_asHeadError {backend : ContributionBackend}
    (passed : asHeadError backend outcome = .ok result) : outcome = .ok result := by
  cases outcome with
  | ok value => cases passed; rfl
  | error error => cases passed

theorem ok_of_found {row : Option α} {missing : String} {value : α}
    (passed : found row missing = .ok value) : row = some value := by
  cases row with
  | some stored => cases passed; rfl
  | none => cases passed

end Contribution

variable (revision : ContributionRevisionV1) (status : ContributionRevisionStatusV1)

@[simp] theorem ContributionRevisionV1.withStatus_revisionId :
    (revision.withStatus status).revisionId = revision.revisionId := rfl

@[simp] theorem ContributionRevisionV1.withStatus_scopeId :
    (revision.withStatus status).scopeId = revision.scopeId := rfl

@[simp] theorem ContributionRevisionV1.withStatus_serviceId :
    (revision.withStatus status).serviceId = revision.serviceId := rfl

@[simp] theorem ContributionRevisionV1.withStatus_status :
    (revision.withStatus status).status = status := rfl

variable {revision : ContributionRevisionV1} {expectedEtag : Sha256}

section

variable [RecordDigests] [VersionSyntax] {target : ContributionRevisionStatusV1}
  {current : Option ContributionHeadV1} {head : ContributionHeadV1}

theorem ContributionRevisionV1.transitionTo_ok {next : ContributionRevisionV1}
    (moved : revision.transitionTo target = .ok next) :
    next = revision.withStatus target ∧ next.validate = .ok () := by
  obtain ⟨_, _, moved⟩ := ok_of_bind moved
  obtain ⟨_, moved⟩ := ok_of_require_bind moved
  obtain ⟨⟨⟩, valid, moved⟩ := ok_of_bind moved
  cases moved
  exact ⟨rfl, valid⟩

theorem ContributionRevisionV1.transitionTo_of_mayBecome (valid : revision.validate = .ok ())
    (may : mayBecome revision.status target = true) :
    revision.transitionTo target = .ok (revision.withStatus target) := by
  have again : (revision.withStatus target).validate = .ok () := valid
  simp only [transitionTo, valid, again, may, require, ok_then]
  rfl

def Follows (current : Option ContributionHeadV1) (revision : ContributionRevisionV1) : Prop :=
  match current with
  | none => revision.previousRevisionId = none
  | some head => head.generation < revision.generation ∧
      revision.previousRevisionId = some head.activeRevisionId

omit [VersionSyntax] in
theorem follows_of_extendsHead (passed : extendsHead current revision = .ok ()) :
    Follows current revision := by
  cases current with
  | none => simpa [Follows] using of_rejectIf passed
  | some head =>
    obtain ⟨_, _, passed⟩ := ok_of_bind passed
    obtain ⟨_, passed⟩ := ok_of_rejectIf_bind passed
    obtain ⟨newer, passed⟩ := ok_of_rejectIf_bind passed
    exact ⟨by simpa using newer, by simpa using of_rejectIf passed⟩

theorem ContributionHeadV1.fromActiveRevision_ok (built : fromActiveRevision revision = .ok head) :
    head = naming revision revision.generation := by
  obtain ⟨_, _, built⟩ := ok_of_bind built
  obtain ⟨_, built⟩ := ok_of_rejectIf_bind built
  obtain ⟨_, _, built⟩ := ok_of_bind built
  cases built
  rfl

theorem ContributionHeadV1.restoredTo_ok {generation : Nat}
    (built : restoredTo revision generation = .ok head) : head = naming revision generation := by
  obtain ⟨_, _, built⟩ := ok_of_bind built
  obtain ⟨_, built⟩ := ok_of_rejectIf_bind built
  obtain ⟨_, built⟩ := ok_of_rejectIf_bind built
  obtain ⟨_, _, built⟩ := ok_of_bind built
  cases built
  rfl

theorem compareAndSwapContributionHead_ok {expectedEtag : Option Sha256} {next : ContributionHeadV1}
    (swapped : compareAndSwapContributionHead current expectedEtag revision = .ok next) :
    revision.status = .active ∧ Follows current revision ∧
      next = ContributionHeadV1.naming revision revision.generation := by
  obtain ⟨⟨⟩, _, swapped⟩ := ok_of_bind swapped
  obtain ⟨active, swapped⟩ := ok_of_rejectIf_bind swapped
  obtain ⟨_, swapped⟩ := ok_of_require_bind swapped
  obtain ⟨⟨⟩, extended, swapped⟩ := ok_of_bind swapped
  exact ⟨by simpa using active, follows_of_extendsHead extended,
    ContributionHeadV1.fromActiveRevision_ok swapped⟩

def Heads (current : ContributionHeadV1) (candidate : ContributionRevisionV1) : Prop :=
  current.activeRevisionId = candidate.revisionId ∧ current.generation = candidate.generation

variable {candidate : ContributionRevisionV1} {current : ContributionHeadV1}

/-- The candidate at the head replaced the older revision `previous`, which may be published
again. -/
structure Restores (current : ContributionHeadV1) (candidate previous : ContributionRevisionV1) :
    Prop where
  names : Heads current candidate
  active : candidate.status = .active
  revivable : previous.status = .active ∨ previous.status = .retired
  identity : previous.scopeId = candidate.scopeId ∧ previous.serviceId = candidate.serviceId
  lineage : candidate.previousRevisionId = some previous.revisionId
  older : previous.generation < candidate.generation

theorem restoreContributionHead_ok {previous : ContributionRevisionV1}
    {restored : ContributionHeadRestoreV1}
    (done : restoreContributionHead current expectedEtag candidate previous = .ok restored) :
    Restores current candidate previous ∧ restored = ⟨.naming previous current.generation,
      previous.withStatus .active, candidate.withStatus .retired⟩ := by
  obtain ⟨_, _, done⟩ := ok_of_bind done
  obtain ⟨_, _, done⟩ := ok_of_bind done
  obtain ⟨_, _, done⟩ := ok_of_bind done
  obtain ⟨_, done⟩ := ok_of_require_bind done
  obtain ⟨active, done⟩ := ok_of_rejectIf_bind done
  obtain ⟨revivable, done⟩ := ok_of_rejectIf_bind done
  obtain ⟨identities, done⟩ := ok_of_rejectIf_bind done
  obtain ⟨names, done⟩ := ok_of_rejectIf_bind done
  obtain ⟨lineage, done⟩ := ok_of_rejectIf_bind done
  obtain ⟨older, done⟩ := ok_of_rejectIf_bind done
  obtain ⟨_, retires, done⟩ := ok_of_bind done
  obtain ⟨⟨⟩, _, done⟩ := ok_of_bind done
  obtain ⟨_, restores, done⟩ := ok_of_bind done
  cases done
  obtain ⟨rfl, _⟩ := transitionTo_ok retires
  obtain rfl := ContributionHeadV1.restoredTo_ok restores
  simp only [ne_eq, decide_not, Bool.or_eq_false_iff, Bool.not_eq_eq_eq_not, Bool.not_false,
    decide_eq_true_eq] at identities names
  obtain ⟨⟨⟨scope, service⟩, otherScope⟩, otherService⟩ := identities
  exact ⟨⟨names, by simpa using active, by simpa [or_iff_not_imp_left] using revivable,
    ⟨otherScope.symm.trans scope, otherService.symm.trans service⟩, by simpa using lineage,
    by simpa using older⟩, rfl⟩

/-- A tombstone has no routes and follows the candidate. -/
structure Tombstone (candidate tombstone : ContributionRevisionV1) : Prop where
  scope : tombstone.scopeId = candidate.scopeId
  service : tombstone.serviceId = candidate.serviceId
  generation : tombstone.generation = candidate.generation + 1
  previous : tombstone.previousRevisionId = some candidate.revisionId
  active : tombstone.status = .active
  routes : tombstone.operationRoutes = []
  valid : tombstone.validate = .ok ()

theorem ContributionRevisionV1.stage_ok {content : RevisionHashMaterial}
    (done : stage content = .ok revision) :
    revision = staged content.canonicalized revision.revisionId ∧ revision.validate = .ok () := by
  obtain ⟨_, _, done⟩ := ok_of_bind done
  obtain ⟨⟨⟩, valid, done⟩ := ok_of_bind done
  cases done
  exact ⟨rfl, valid⟩

theorem tombstone_of_staged {staged tombstone : ContributionRevisionV1}
    (built : ContributionRevisionV1.stage (tombstoneContent candidate (candidate.generation + 1)) =
      .ok staged) (activated : staged.activate = .ok tombstone) :
    Tombstone candidate tombstone := by
  obtain ⟨content, _⟩ := stage_ok built
  obtain ⟨rfl, valid⟩ := transitionTo_ok activated
  rw [content] at valid ⊢
  exact ⟨rfl, rfl, rfl, rfl, rfl, rfl, valid⟩

/-- The candidate at the head has no predecessor and is followed by its tombstone. -/
structure Clears (current : ContributionHeadV1) (candidate tombstone : ContributionRevisionV1) :
    Prop where
  names : Heads current candidate
  active : candidate.status = .active
  first : candidate.previousRevisionId = none
  empty : Tombstone candidate tombstone

theorem clearInitialContributionHead_ok {cleared : ContributionHeadClearV1}
    (done : clearInitialContributionHead current expectedEtag candidate = .ok cleared) :
    ∃ tombstone, Clears current candidate tombstone ∧ cleared =
      ⟨.naming tombstone tombstone.generation, tombstone, candidate.withStatus .retired⟩ := by
  obtain ⟨_, _, done⟩ := ok_of_bind done
  obtain ⟨_, _, done⟩ := ok_of_bind done
  obtain ⟨_, done⟩ := ok_of_require_bind done
  obtain ⟨admitted, done⟩ := ok_of_rejectIf_bind done
  simp only [ne_eq, decide_not, Bool.or_eq_false_iff, Bool.not_eq_eq_eq_not, Bool.not_false,
    decide_eq_true_eq, Option.isSome_eq_false_iff, Option.isNone_iff_eq_none] at admitted
  obtain ⟨⟨⟨⟨⟨active, first⟩, names⟩, _⟩, _⟩, direct⟩ := admitted
  cases next : checkedSucc current.generation with
  | none => rw [next] at done; cases done
  | some generation =>
    rw [next] at done
    obtain ⟨_, built, done⟩ := ok_of_bind done
    obtain ⟨_, activated, done⟩ := ok_of_bind done
    obtain ⟨_, swapped, done⟩ := ok_of_bind done
    obtain ⟨_, retires, done⟩ := ok_of_bind done
    cases done
    obtain ⟨rfl, _⟩ := transitionTo_ok retires
    obtain ⟨_, _, rfl⟩ := compareAndSwapContributionHead_ok swapped
    rw [checkedSucc_eq next, direct] at built
    exact ⟨_, ⟨⟨names, direct⟩, active, first, tombstone_of_staged built activated⟩, rfl⟩

theorem validateRevisionTransition_ok {existing : ContributionRevisionV1}
    (passed : validateRevisionTransition existing candidate = .ok ()) :
    candidate = existing.withStatus candidate.status ∧ candidate.validate = .ok () ∧
      (candidate = existing ∨
        ContributionRevisionV1.mayBecome existing.status candidate.status = true) := by
  obtain ⟨_, _, passed⟩ := ok_of_bind passed
  obtain ⟨⟨⟩, valid, passed⟩ := ok_of_bind passed
  have valid := ok_of_asInvalid valid
  by_cases same : existing = candidate
  · subst same
    exact ⟨rfl, valid, .inl rfl⟩
  · rw [if_neg same] at passed
    obtain ⟨_, passed⟩ := ok_of_require_bind passed
    obtain ⟨may, passed⟩ := ok_of_require_bind passed
    obtain ⟨expected, moved, passed⟩ := ok_of_bind passed
    have equal : expected = candidate := by simpa using of_require passed
    obtain ⟨content, _⟩ := transitionTo_ok (ok_of_asInvalid moved)
    exact ⟨equal.symm.trans content, valid, .inr may⟩

end

namespace ContributionTables

def Writes (before after : ContributionTables) (revision : ContributionRevisionV1) : Prop :=
  ∀ id, after.revisions[id]? =
    if id = revision.revisionId then some revision else before.revisions[id]?

def Points (before after : ContributionTables) (head : ContributionHeadV1) : Prop :=
  ∀ key, after.heads[key]? =
    if key = (head.scopeId, head.serviceId) then some head else before.heads[key]?

def SameHeads (before after : ContributionTables) : Prop :=
  ∀ key : String × String, after.heads[key]? = before.heads[key]?

def SameRevisions (before after : ContributionTables) : Prop :=
  ∀ id : Sha256, after.revisions[id]? = before.revisions[id]?

def Headed (tables : ContributionTables) (revisionId : Sha256) : Prop :=
  ∃ (key : String × String) (head : ContributionHeadV1),
    tables.heads[key]? = some head ∧ head.activeRevisionId = revisionId

variable (tables : ContributionTables)

theorem writes_putRevision (revision : ContributionRevisionV1) :
    tables.Writes (tables.putRevision revision) revision := fun _ =>
  getElem?_insert_of_eq ..

theorem stored_putRevision {tables : ContributionTables} {written now : ContributionRevisionV1}
    {id : Sha256} (stored : (tables.putRevision written).revisions[id]? = some now) :
    (id = written.revisionId ∧ now = written) ∨
      (id ≠ written.revisionId ∧ tables.revisions[id]? = some now) := by
  rw [writes_putRevision] at stored
  split_ifs at stored with same
  · exact .inl ⟨same, (Option.some.inj stored).symm⟩
  · exact .inr ⟨same, stored⟩

theorem points_putHead (head : ContributionHeadV1) :
    tables.Points (tables.putHead head) head := fun _ =>
  getElem?_insert_of_eq ..

variable {before after : ContributionTables}

theorem insertRevision_ok {taken : String}
    (inserted : before.insertRevision backend revision taken = .ok after) :
    backend.storableGeneration revision.generation = .ok () ∧
      after = before.putRevision revision := by
  obtain ⟨⟨⟩, fits, inserted⟩ := ok_of_bind inserted
  obtain ⟨_, inserted⟩ := ok_of_require_bind inserted
  obtain ⟨_, _, inserted⟩ := ok_of_bind inserted
  cases inserted
  exact ⟨fits, rfl⟩

theorem sameRevisions_of_stored (stored : before.revisions[revision.revisionId]? = some revision) :
    before.SameRevisions (before.putRevision revision) := by
  intro id
  rw [writes_putRevision before revision id]
  by_cases same : id = revision.revisionId
  · rw [if_pos same, same, stored]
  · rw [if_neg same]

variable {backend : ContributionBackend} {reply : Unit}

variable {activation : ContributionActivationV1} {receipts : List ProjectionReceiptV1}

theorem putBundle_ok (done : before.putContributionActivationBundle backend activation receipts =
      .ok (reply, after)) : after = before.putBundle activation receipts := by
  obtain ⟨_, _, done⟩ := ok_of_bind done
  obtain ⟨_, _, done⟩ := ok_of_bind done
  obtain ⟨_, _, done⟩ := ok_of_bind done
  cases stored : before.activations[activation.activationId]? with
  | some existing | none =>
    rw [stored] at done
    obtain ⟨_, _, done⟩ := ok_of_bind done
    obtain ⟨_, _, done⟩ := ok_of_bind done
    cases done
    rfl

variable [RecordDigests] [VersionSyntax]

/-- What one call does to the tables. -/
inductive Effect (backend : ContributionBackend) (before : ContributionTables) :
    ContributionCall → ContributionTables → Prop
  | kept {call : ContributionCall} {after : ContributionTables}
      (revisions : before.SameRevisions after) (heads : before.SameHeads after)
      (activations : after.activations = before.activations)
      (receipts : after.receipts = before.receipts) : Effect backend before call after
  | inserted {revision : ContributionRevisionV1} (valid : revision.validate = .ok ())
      (status : revision.status = .staged)
      (unknown : before.revisions[revision.revisionId]? = none) :
      Effect backend before (.insertRevision revision) (before.putRevision revision)
  | staged {revision : ContributionRevisionV1} {activation : ContributionActivationV1}
      {receipts : List ProjectionReceiptV1}
      (checked : validateStageBundle revision activation receipts = .ok ())
      (unknown : before.revisions[revision.revisionId]? = none)
      (admitted : validateStageAgainstState revision activation
        (before.contributionHead revision.scopeId revision.serviceId)
        (before.staging backend revision.scopeId) = .ok ())
      (fits : backend.storableGeneration revision.generation = .ok ())
      (fresh : backend = .sqlite → before.activations[activation.activationId]? = none ∧
        ∀ (id : String) stored, before.activations[id]? = some stored →
          stored.candidateRevisionId ≠ activation.candidateRevisionId) :
      Effect backend before (.stageBundle revision activation receipts)
        ((before.putRevision revision).putBundle activation receipts)
  | bundled {activation : ContributionActivationV1} {receipts : List ProjectionReceiptV1}
      (done : before.putContributionActivationBundle backend activation receipts =
        .ok ((), before.putBundle activation receipts)) :
      Effect backend before (.putBundle activation receipts) (before.putBundle activation receipts)
  | observed {expected observed : ProjectionReceiptV1}
      (moved : validateReceiptTransition expected observed = .ok ()) :
      Effect backend before (.compareAndSwapReceipt expected observed)
        { before with
          receipts := before.receipts.insert (expected.activationId, expected.target) observed }
  | moved {existing : ContributionRevisionV1} {target : ContributionRevisionStatusV1}
      (stored : before.revisions[existing.revisionId]? = some existing)
      (may : mayBecome existing.status target = true)
      (valid : (existing.withStatus target).validate = .ok ())
      (unheaded : target = .retired → ¬ before.Headed existing.revisionId) :
      Effect backend before (.transitionRevision (existing.withStatus target))
        (before.putRevision (existing.withStatus target))
  | «published» {existing : ContributionRevisionV1} {expectedEtag : Option Sha256}
      (stored : before.revisions[existing.revisionId]? = some existing)
      (live : existing.status = .staged ∨ existing.status = .active)
      (valid : (existing.withStatus .active).validate = .ok ())
      (follows : Follows before.heads[(existing.scopeId, existing.serviceId)]? existing) :
      Effect backend before (.compareAndSwapHead expectedEtag (existing.withStatus .active))
        ((before.putRevision (existing.withStatus .active)).putHead
          (.naming existing existing.generation))
  | restored {current : ContributionHeadV1} {candidate previous : ContributionRevisionV1}
      {expectedEtag : Sha256}
      (storedCandidate : before.revisions[candidate.revisionId]? = some candidate)
      (storedPrevious : before.revisions[previous.revisionId]? = some previous)
      (headed : before.heads[(candidate.scopeId, candidate.serviceId)]? = some current)
      (restores : Restores current candidate previous) :
      Effect backend before (.restoreHead expectedEtag candidate.revisionId previous.revisionId)
        (((before.putRevision (candidate.withStatus .retired)).putRevision
          (previous.withStatus .active)).putHead (.naming previous current.generation))
  | cleared {current : ContributionHeadV1} {candidate tombstone : ContributionRevisionV1}
      {expectedEtag : Sha256}
      (storedCandidate : before.revisions[candidate.revisionId]? = some candidate)
      (headed : before.heads[(candidate.scopeId, candidate.serviceId)]? = some current)
      (clears : Clears current candidate tombstone)
      (unknown : backend = .sqlite → before.revisions[tombstone.revisionId]? = none)
      (fits : backend.storableGeneration tombstone.generation = .ok ()) :
      Effect backend before (.clearHead expectedEtag candidate.revisionId)
        (((before.putRevision (candidate.withStatus .retired)).putRevision tombstone).putHead
          (.naming tombstone tombstone.generation))

theorem Effect.idle {call : ContributionCall} : Effect backend before call before :=
  .kept (fun _ => rfl) (fun _ => rfl) rfl rfl

theorem effect_insert
    (done : before.insertContributionRevision backend revision = .ok (reply, after)) :
    Effect backend before (.insertRevision revision) after := by
  obtain ⟨⟨⟩, checked, done⟩ := ok_of_bind done
  obtain ⟨⟨⟩, valid, checked⟩ := ok_of_bind checked
  cases stored : before.revisions[revision.revisionId]? with
  | some existing =>
    rw [stored] at done
    obtain ⟨_, done⟩ := ok_of_require_bind done
    cases done
    exact .idle
  | none =>
    rw [stored] at done
    obtain ⟨_, writes, done⟩ := ok_of_bind done
    cases done
    obtain ⟨_, rfl⟩ := insertRevision_ok writes
    exact .inserted (ok_of_asInvalid valid) (by simpa using of_require checked) stored

theorem effect_stage (done : before.stageContributionBundle backend revision activation receipts =
      .ok (reply, after)) :
    Effect backend before (.stageBundle revision activation receipts) after := by
  obtain ⟨⟨⟩, checked, done⟩ := ok_of_bind done
  cases stored : before.revisions[revision.revisionId]? with
  | some existing =>
    rw [stored] at done
    obtain ⟨_, done⟩ := ok_of_require_bind done
    cases done
    exact .idle
  | none =>
    rw [stored] at done
    obtain ⟨⟨⟩, admitted, done⟩ := ok_of_bind done
    obtain ⟨_, writes, done⟩ := ok_of_bind done
    obtain ⟨⟨⟩, fresh, done⟩ := ok_of_bind done
    obtain ⟨⟨⟩, single, done⟩ := ok_of_bind done
    cases done
    obtain ⟨fits, rfl⟩ := insertRevision_ok writes
    refine .staged checked stored admitted fits ?_
    rintro rfl
    refine ⟨by simpa using of_require fresh, fun id other found same => ?_⟩
    have none := of_require single
    simp only [Bool.not_eq_true', List.any_eq_false, decide_eq_true_eq] at none
    exact none other (mem_tableRows.mpr ⟨id, found⟩) same

theorem validateStageBundle_ok (passed : validateStageBundle revision activation receipts = .ok
    ()) : revision.validate = .ok () ∧ revision.status = .staged := by
  obtain ⟨⟨⟩, checked, _⟩ := ok_of_bind passed
  obtain ⟨⟨⟩, valid, checked⟩ := ok_of_bind checked
  exact ⟨ok_of_asInvalid valid, by simpa using of_require checked⟩

def Keyed (tables : ContributionTables) : Prop :=
  ∀ id (revision : ContributionRevisionV1), tables.revisions[id]? = some revision →
    revision.revisionId = id ∧ revision.validate = .ok ()

theorem effect_transition (keyed : before.Keyed)
    (done : before.transitionContributionRevision revision = .ok (reply, after)) :
    Effect backend before (.transitionRevision revision) after := by
  obtain ⟨_, _, done⟩ := ok_of_bind done
  obtain ⟨existing, stored, done⟩ := ok_of_bind done
  obtain ⟨⟨⟩, moved, done⟩ := ok_of_bind done
  obtain ⟨unheaded, done⟩ := ok_of_require_bind done
  cases done
  have stored := ok_of_found stored
  obtain ⟨content, valid, same | may⟩ := validateRevisionTransition_ok moved
  · subst same
    exact .kept (sameRevisions_of_stored stored) (fun _ => rfl) rfl rfl
  · have identity := (keyed _ _ stored).1
    generalize revision.status = target at content may unheaded
    subst content
    refine .moved (by rw [identity]; exact stored) may valid ?_
    rintro retired ⟨key, head, headed, names⟩
    simp only [retired, decide_true, Bool.true_and, Bool.not_eq_true', List.any_eq_false,
      decide_eq_true_eq] at unheaded
    exact unheaded head (mem_tableRows.mpr ⟨key, headed⟩) names

theorem effect_receipt {expected observed reply : ProjectionReceiptV1}
    (done : before.compareAndSwapReceipt backend expected observed = .ok (reply, after)) :
    Effect backend before (.compareAndSwapReceipt expected observed) after := by
  obtain ⟨⟨⟩, moved, done⟩ := ok_of_bind done
  obtain ⟨current, _, done⟩ := ok_of_bind done
  split_ifs at done with same
  · cases done
    exact .idle
  · obtain ⟨_, done⟩ := ok_of_require_bind done
    obtain ⟨_, _, done⟩ := ok_of_bind done
    cases done
    exact .observed moved

variable {reply : ContributionHeadV1} {candidateId previousId : Sha256}

theorem effect_compareAndSwap (keyed : before.Keyed) {expectedEtag : Option Sha256}
    (done : before.compareAndSwapHead backend expectedEtag revision = .ok (reply, after)) :
    Effect backend before (.compareAndSwapHead expectedEtag revision) after := by
  obtain ⟨_, _, done⟩ := ok_of_bind done
  obtain ⟨_, _, done⟩ := ok_of_bind done
  obtain ⟨_, swapped, done⟩ := ok_of_bind done
  obtain ⟨existing, stored, done⟩ := ok_of_bind done
  obtain ⟨⟨⟩, moved, done⟩ := ok_of_bind done
  obtain ⟨_, _, done⟩ := ok_of_bind done
  cases done
  have stored := ok_of_found stored
  have identity := (keyed _ _ stored).1
  obtain ⟨active, follows, rfl⟩ := compareAndSwapContributionHead_ok (ok_of_asHeadError swapped)
  obtain ⟨content, valid, moves⟩ := validateRevisionTransition_ok moved
  have live : existing.status = .staged ∨ existing.status = .active := by
    rcases moves with same | may
    · exact .inr (same ▸ active)
    · rw [active] at may
      cases status : existing.status with
      | staged => exact .inl rfl
      | active | retired | aborted => rw [status] at may; cases may
  rw [active] at content
  subst content
  exact .published (by rw [identity]; exact stored) live valid follows

theorem effect_restore (keyed : before.Keyed)
    (done : before.restoreHead backend expectedEtag candidateId previousId = .ok (reply, after)) :
    Effect backend before (.restoreHead expectedEtag candidateId previousId) after := by
  obtain ⟨_, storedCandidate, done⟩ := ok_of_bind done
  obtain ⟨_, storedPrevious, done⟩ := ok_of_bind done
  obtain ⟨_, headed, done⟩ := ok_of_bind done
  obtain ⟨_, restored, done⟩ := ok_of_bind done
  obtain ⟨_, _, done⟩ := ok_of_bind done
  obtain ⟨restores, rfl⟩ := restoreContributionHead_ok (ok_of_asHeadError restored)
  cases done
  have storedCandidate := ok_of_found storedCandidate
  have storedPrevious := ok_of_found storedPrevious
  obtain rfl := (keyed _ _ storedCandidate).1
  obtain rfl := (keyed _ _ storedPrevious).1
  exact .restored storedCandidate storedPrevious (ok_of_found headed) restores

theorem effect_clear (keyed : before.Keyed)
    (done : before.clearHead backend expectedEtag candidateId = .ok (reply, after)) :
    Effect backend before (.clearHead expectedEtag candidateId) after := by
  obtain ⟨_, storedCandidate, done⟩ := ok_of_bind done
  obtain ⟨_, headed, done⟩ := ok_of_bind done
  obtain ⟨_, cleared, done⟩ := ok_of_bind done
  obtain ⟨⟨⟩, fits, done⟩ := ok_of_bind done
  obtain ⟨⟨⟩, fresh, done⟩ := ok_of_bind done
  obtain ⟨_, done⟩ := ok_of_require_bind done
  obtain ⟨_, clears, rfl⟩ := clearInitialContributionHead_ok (ok_of_asHeadError cleared)
  cases done
  have storedCandidate := ok_of_found storedCandidate
  obtain rfl := (keyed _ _ storedCandidate).1
  refine .cleared storedCandidate (ok_of_found headed) clears ?_ fits
  rintro rfl
  simpa using of_require fresh

theorem exec_effect (keyed : before.Keyed) (backend : ContributionBackend)
    (call : ContributionCall) : Effect backend before call (call.exec backend before).2 := by
  cases call with
  | insertRevision revision =>
    exact transact_holds (Effect backend before _) .idle fun _ _ => effect_insert
  | stageBundle revision activation receipts =>
    exact transact_holds (Effect backend before _) .idle fun _ _ => effect_stage
  | transitionRevision revision =>
    exact transact_holds (Effect backend before _) .idle fun _ _ => effect_transition keyed
  | compareAndSwapHead expectedEtag activeRevision =>
    exact transact_holds (Effect backend before _) .idle fun _ _ => effect_compareAndSwap keyed
  | restoreHead expectedEtag candidateId previousId =>
    exact transact_holds (Effect backend before _) .idle fun _ _ => effect_restore keyed
  | clearHead expectedEtag candidateId =>
    exact transact_holds (Effect backend before _) .idle fun _ _ => effect_clear keyed
  | putBundle activation receipts =>
    refine transact_holds (Effect backend before _) .idle fun reply after done => ?_
    obtain rfl := putBundle_ok done
    exact .bundled done
  | compareAndSwapReceipt expected observed =>
    exact transact_holds (Effect backend before _) .idle fun _ _ => effect_receipt
  | getRevision | listRevisions | getHead | getActivation | listActivations _
  | listReceipts => exact .idle

theorem Keyed.put (keyed : before.Keyed) (valid : revision.validate = .ok ()) :
    (before.putRevision revision).Keyed := by
  intro id now stored
  rcases stored_putRevision stored with ⟨same, rfl⟩ | ⟨_, stored⟩
  · exact ⟨same.symm, valid⟩
  · exact keyed id now stored

theorem Effect.keyed {call : ContributionCall} (effect : Effect backend before call after)
    (keyed : before.Keyed) : after.Keyed := by
  cases effect with
  | kept revisions => exact fun id stored found => keyed id stored (revisions id ▸ found)
  | bundled | observed => exact keyed
  | staged checked => exact keyed.put (validateStageBundle_ok checked).1
  | inserted valid | moved _ _ valid | «published» _ _ valid => exact keyed.put valid
  | @restored _ candidate previous _ storedCandidate storedPrevious =>
    have retired : (before.putRevision (candidate.withStatus .retired)).Keyed :=
      keyed.put (keyed _ _ storedCandidate).2
    have valid : (previous.withStatus .active).validate = .ok () := (keyed _ _ storedPrevious).2
    exact retired.put valid
  | @cleared _ candidate _ _ storedCandidate _ clears =>
    have retired : (before.putRevision (candidate.withStatus .retired)).Keyed :=
      keyed.put (keyed _ _ storedCandidate).2
    exact retired.put clears.empty.valid

end ContributionTables

end UntitledOJ
