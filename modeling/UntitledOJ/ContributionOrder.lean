import UntitledOJ.ContributionActivity

/-!
# Tables that contribution jobs leave

A job publishes only for an activation that is committing, and takes a candidate back only for one
that is compensating.  So the status of a candidate tells how far its activation has come.
-/

namespace UntitledOJ

open Contribution
open ContributionRevisionV1 (mayBecome withStatus_revisionId)

/-- How far the activation of a candidate is, at least. -/
def ContributionRevisionStatusV1.requiredRank : ContributionRevisionStatusV1 → Nat
  | .staged => 0
  | .active | .retired => 1
  | .aborted => 3

variable {status : ContributionRevisionStatusV1}

theorem active_of_mayBecome_retired (may : mayBecome status .retired = true) :
    status = .active := by
  cases status <;> first | rfl | cases may

theorem staged_of_mayBecome_aborted (may : mayBecome status .aborted = true) :
    status = .staged := by
  cases status <;> first | rfl | cases may

namespace ContributionTables

/-- What the jobs make sure of before a call. -/
def Lawful (tables : ContributionTables) : ContributionCall → Prop
  | .insertRevision _ => False
  | .compareAndSwapHead _ revision => ∃ id, tables.Activated id revision.revisionId 1
  | .transitionRevision revision => revision.status = .retired ∨
      revision.status = .aborted ∧ ∃ id, tables.Activated id revision.revisionId 3
  | .restoreHead _ candidate _ | .clearHead _ candidate => ∃ id, tables.Activated id candidate 3
  | .putBundle activation receipts =>
    tables.Activated activation.activationId activation.candidateRevisionId 0 ∧
      (activation.state = .succeeded → ∀ target ∈ [ProjectionTargetV1.gateway, .auth],
        ∃ receipt ∈ receipts, receipt.target = target ∧ receipt.state = .active)
  | .compareAndSwapReceipt expected observed => observed.state = .active ∨
      ∃ candidate, tables.Activated expected.activationId candidate 3
  | _ => True

theorem Lawful.ends {tables : ContributionTables} {existing : ContributionRevisionV1}
    (lawful : tables.Lawful (.transitionRevision (existing.withStatus status))) :
    status = .retired ∨ status = .aborted :=
  lawful.imp_right And.left

/-- The Gateway and Auth report that they serve the candidate. -/
def Acknowledged (tables : ContributionTables) (id : String) : Prop :=
  ∀ target ∈ [ProjectionTargetV1.gateway, .auth], ∃ receipt,
    tables.receipts[(id, target)]? = some receipt ∧ receipt.state = .active

variable {before after : ContributionTables} {call : ContributionCall}

def KeepsContent (before after : ContributionTables) : Prop :=
  ∀ (id : Sha256) revision, before.revisions[id]? = some revision →
    ∃ status, after.revisions[id]? = some (revision.withStatus status)

theorem KeepsContent.trans {middle : ContributionTables} (first : before.KeepsContent middle)
    (second : middle.KeepsContent after) : before.KeepsContent after := by
  intro id revision stored
  obtain ⟨_, found⟩ := first id revision stored
  obtain ⟨later, there⟩ := second id _ found
  exact ⟨later, there⟩

theorem KeepsContent.of_same (same : before.SameRevisions after) : before.KeepsContent after :=
  fun id revision stored => ⟨revision.status, by rw [same id, stored]; rfl⟩

theorem Writes.keepsContent {written : ContributionRevisionV1}
    (writes : before.Writes after written)
    (stored : ∀ existing, before.revisions[written.revisionId]? = some existing →
      ∃ status, written = existing.withStatus status) : before.KeepsContent after := by
  intro id revision found
  by_cases same : id = written.revisionId
  · obtain ⟨status, content⟩ := stored revision (same ▸ found)
    exact ⟨status, by rw [writes id, if_pos same, content]⟩
  · exact ⟨revision.status, by rw [writes id, if_neg same, found]; rfl⟩

theorem KeepsContent.withStatus {existing : ContributionRevisionV1}
    (stored : before.revisions[existing.revisionId]? = some existing)
    (status : ContributionRevisionStatusV1) :
    before.KeepsContent (before.putRevision (existing.withStatus status)) := by
  refine (writes_putRevision before _).keepsContent fun other found => ⟨status, ?_⟩
  rw [withStatus_revisionId, stored] at found
  cases found
  rfl

theorem KeepsContent.put {written : ContributionRevisionV1}
    (unknown : before.revisions[written.revisionId]? = none) :
    before.KeepsContent (before.putRevision written) :=
  (writes_putRevision before _).keepsContent fun _ found => by rw [unknown] at found; cases found

variable [RecordDigests] [VersionSyntax]

/-- Activations have their own candidates, and these are as far as they may be. -/
structure Orderly (tables : ContributionTables) : Prop where
  sound : tables.Sound
  named : ∀ id (activation : ContributionActivationV1),
    tables.activations[id]? = some activation → activation.activationId = id
  owned : ∀ (id : String) activation,
    tables.activations[id]? = some activation →
      ∃ revision, tables.revisions[activation.candidateRevisionId]? = some revision ∧
        activation.Owns revision
  single : ∀ (first second : String) activation other,
    tables.activations[first]? = some activation → tables.activations[second]? = some other →
      activation.candidateRevisionId = other.candidateRevisionId → first = second
  addressed : ∀ (key : String × ProjectionTargetV1) receipt,
    tables.receipts[key]? = some receipt → receipt.activationId = key.1
  acknowledged : ∀ id activation, tables.activations[id]? = some activation →
    activation.state = .succeeded → tables.Acknowledged id
  released : ∀ (id : String) activation
    revision, tables.activations[id]? = some activation →
      tables.revisions[activation.candidateRevisionId]? = some revision →
        revision.status.requiredRank ≤ activation.state.rank

theorem orderly_empty : empty.Orderly :=
  ⟨sound_empty, fun _ _ found => by simp [empty] at found,
    fun _ _ found => by simp [empty] at found,
    fun _ _ _ _ found => by simp [empty] at found,
    fun _ _ found => by simp [empty] at found, fun _ _ found => by simp [empty] at found,
    fun _ _ _ found => by simp [empty] at found⟩

theorem Effect.keepsContent (effect : Effect .sqlite before call after) :
    before.KeepsContent after := by
  cases effect with
  | kept revisions => exact .of_same revisions
  | bundled | observed => exact .of_same fun _ => rfl
  | inserted _ _ unknown | staged _ unknown => exact .put unknown
  | moved stored => exact .withStatus stored _
  | «published» stored => exact .withStatus stored .active
  | @restored _ candidate previous _ storedCandidate storedPrevious _ restores =>
    refine (KeepsContent.withStatus storedCandidate .retired).trans (.withStatus ?_ .active)
    refine (writes_putRevision before _ _).trans ((if_neg ?_).trans storedPrevious)
    -- a predecessor is another revision, since it is older
    intro same
    have equal : previous.revisionId = candidate.revisionId := same
    rw [equal, storedCandidate] at storedPrevious
    cases storedPrevious
    exact absurd restores.older (lt_irrefl _)
  | @cleared _ candidate tombstone _ storedCandidate _ _ unknown =>
    refine (KeepsContent.withStatus storedCandidate .retired).trans (.put ?_)
    refine (writes_putRevision before _ _).trans ((if_neg fun same => ?_).trans (unknown rfl))
    have fresh := unknown rfl
    rw [show tombstone.revisionId = candidate.revisionId from same, storedCandidate] at fresh
    cases fresh

theorem Effect.advances (effect : Effect .sqlite before call after) : before.Advances after := by
  have same {tables : ContributionTables} (same : tables.activations = before.activations) :
      before.Advances tables := fun id activation stored =>
    ⟨activation, by rw [same, stored], .refl activation⟩
  cases effect with
  | kept _ _ activations => exact same activations
  | @staged _ activation _ _ _ _ _ fresh =>
    intro id stored found
    refine ⟨stored, ?_, .refl stored⟩
    have other : id ≠ activation.activationId := by
      rintro rfl
      rw [(fresh rfl).1] at found
      cases found
    exact (putBundle_activations _ _ _ _).trans ((if_neg other).trans found)
  | @bundled activation _ done =>
    intro id stored found
    rw [putBundle_activations]
    split_ifs with equal
    · exact ⟨activation, rfl, (putBundle_checked done).1.evolves stored (equal ▸ found)⟩
    · exact ⟨stored, found, .refl stored⟩
  | inserted | observed | moved | «published» | restored | cleared => exact same rfl

variable {receipts : List ProjectionReceiptV1}

variable (orderly : before.Orderly)
include orderly

theorem Orderly.of_content (sound : after.Sound) (content : before.KeepsContent after)
    (activations : after.activations = before.activations)
    (receipts : after.receipts = before.receipts) (released : ∀ (id : String) activation
      revision, before.activations[id]? = some activation →
        after.revisions[activation.candidateRevisionId]? = some revision →
          revision.status.requiredRank ≤ activation.state.rank) : after.Orderly := by
  refine ⟨sound, ?_, ?_, ?_, receipts ▸ orderly.addressed, ?_, ?_⟩
  · rw [activations]
    exact orderly.named
  · rw [activations]
    intro id activation stored
    obtain ⟨_, found, owns⟩ := orderly.owned id activation stored
    obtain ⟨status, kept⟩ := content _ _ found
    exact ⟨_, kept, owns.withStatus status⟩
  · rw [activations]
    exact orderly.single
  · rw [activations]
    intro id activation stored succeeded target
    rw [receipts]
    exact orderly.acknowledged id activation stored succeeded target
  · rw [activations]
    exact released

theorem Orderly.released_writes {written : ContributionRevisionV1}
    (writes : before.Writes after written) (reached : ∀ (id : String) activation,
      before.activations[id]? = some activation →
        activation.candidateRevisionId = written.revisionId →
          written.status.requiredRank ≤ activation.state.rank)
    (id : String) (activation : ContributionActivationV1) (revision : ContributionRevisionV1)
    (stored : before.activations[id]? = some activation)
    (found : after.revisions[activation.candidateRevisionId]? = some revision) :
    revision.status.requiredRank ≤ activation.state.rank := by
  rw [writes] at found
  split_ifs at found with same
  · cases found
    exact reached id activation stored same
  · exact orderly.released id activation revision stored found

theorem Orderly.rank_of_activated {candidate : Sha256} {rank : Nat}
    (activated : ∃ id, before.Activated id candidate rank) {id : String}
    {activation : ContributionActivationV1} (stored : before.activations[id]? = some activation)
    (names : activation.candidateRevisionId = candidate) : rank ≤ activation.state.rank := by
  obtain ⟨other, found, there, named, reached⟩ := activated
  have same := orderly.single id other activation found stored there (names.trans named.symm)
  subst same
  rw [stored] at there
  cases there
  exact reached

theorem Orderly.rank_of_stored (existing : ContributionRevisionV1)
    (stored : before.revisions[existing.revisionId]? = some existing)
    (less : status.requiredRank ≤ existing.status.requiredRank) (id : String)
    (activation : ContributionActivationV1) (found : before.activations[id]? = some activation)
    (names : activation.candidateRevisionId = existing.revisionId) :
    status.requiredRank ≤ activation.state.rank :=
  less.trans (orderly.released id activation existing found (by rw [names]; exact stored))

theorem Orderly.released_withStatus {candidate revision : ContributionRevisionV1}
    (storedCandidate : before.revisions[candidate.revisionId]? = some candidate)
    (active : candidate.status = .active) {id : String} {activation : ContributionActivationV1}
    (found : before.activations[id]? = some activation)
    (there : (before.putRevision (candidate.withStatus
      .retired)).revisions[activation.candidateRevisionId]? = some revision) :
    revision.status.requiredRank ≤ activation.state.rank := by
  refine orderly.released_writes (writes_putRevision before (candidate.withStatus .retired))
    (orderly.rank_of_stored candidate storedCandidate ?_) id activation revision found there
  rw [active]
  exact le_rfl

theorem Orderly.observe {expected observed : ProjectionReceiptV1}
    (lawful : before.Lawful (.compareAndSwapReceipt expected observed))
    (moved : validateReceiptTransition expected observed = .ok ())
    (shape : after = { before with
      receipts := before.receipts.insert (expected.activationId, expected.target) observed })
    (sound : after.Sound) : after.Orderly := by
  subst shape
  refine ⟨sound, orderly.named, orderly.owned, orderly.single, ?_, ?_, orderly.released⟩
  · intro key receipt found
    rw [getElem?_insert_of_eq] at found
    split_ifs at found with same
    · cases found
      rw [same]
      exact validateReceiptTransition_ok moved
    · exact orderly.addressed key receipt found
  · intro id activation found succeeded target required
    obtain ⟨receipt, there, active⟩ := orderly.acknowledged id activation found succeeded target
      required
    rw [getElem?_insert_of_eq]
    split_ifs with same
    · refine ⟨observed, rfl, lawful.resolve_right ?_⟩
      -- an activation that has succeeded is not compensated yet
      rintro ⟨_, other, compensated, _, reached⟩
      rw [← (Prod.mk.inj same).1, found] at compensated
      cases compensated
      rw [succeeded] at reached
      exact absurd reached (by decide)
    · exact ⟨receipt, there, active⟩

variable {activation : ContributionActivationV1}

theorem Orderly.put (lawful : before.Lawful (.putBundle activation receipts))
    (checks : before.BundleChecks activation receipts)
    (sound : (before.putBundle activation receipts).Sound) :
    (before.putBundle activation receipts).Orderly := by
  obtain ⟨⟨existing, stored, _⟩, complete⟩ := lawful
  have evolves := checks.evolves existing stored
  have replaced : ∀ (id : String) now,
      (before.putBundle activation receipts).activations[id]? = some now →
        ∃ earlier, before.activations[id]? = some earlier ∧ earlier.Evolves now := by
    intro id now found
    rw [putBundle_activations] at found
    split_ifs at found with same
    · cases found
      exact ⟨existing, same ▸ stored, evolves⟩
    · exact ⟨now, found, .refl now⟩
  refine ⟨sound, ?_, ?_, ?_, ?_, ?_, ?_⟩
  · intro id now found
    obtain ⟨earlier, there, moves⟩ := replaced id now found
    exact moves.activationId.trans (orderly.named id earlier there)
  · intro id now found
    obtain ⟨earlier, there, moves⟩ := replaced id now found
    obtain ⟨revision, held, owns⟩ := orderly.owned id earlier there
    exact ⟨revision, by rw [moves.candidate]; exact held, owns.evolve moves⟩
  · intro first second now other found foundOther same
    obtain ⟨earlier, there, moves⟩ := replaced first now found
    obtain ⟨earlierOther, thereOther, movesOther⟩ := replaced second other foundOther
    exact orderly.single first second earlier earlierOther there thereOther
      (moves.candidate.symm.trans (same.trans movesOther.candidate))
  · intro key receipt found
    exact (checks.toAddresses.putBundle before found).elim id (orderly.addressed key receipt)
  · intro id now found succeeded target required
    rw [putBundle_activations] at found
    split_ifs at found with same
    · cases found
      obtain ⟨receipt, member, rfl, active⟩ := complete succeeded target required
      exact ⟨receipt, same ▸ putBundle_receipt _ _ checks.distinct member, active⟩
    · rw [putBundle_receipts_other _ _ checks.distinct fun _ _ equal => same (Prod.mk.inj equal).1]
      exact orderly.acknowledged id now found succeeded target required
  · intro id now revision found held
    obtain ⟨earlier, there, moves⟩ := replaced id now found
    rw [moves.candidate] at held
    exact (orderly.released id earlier revision there held).trans moves.rank

theorem Orderly.stage {revision : ContributionRevisionV1}
    (checked : validateStageBundle revision activation receipts = .ok ())
    (unknown : before.revisions[revision.revisionId]? = none)
    (alone : ∀ (id : String) stored, before.activations[id]? = some stored →
      stored.candidateRevisionId ≠ activation.candidateRevisionId)
    (sound : ((before.putRevision revision).putBundle activation receipts).Sound) :
    ((before.putRevision revision).putBundle activation receipts).Orderly := by
  obtain ⟨staged, addresses, owns, preparing⟩ := validateStageBundle_checks checked
  have cases_of : ∀ id now,
      ((before.putRevision revision).putBundle activation receipts).activations[id]? = some now →
        (id = activation.activationId ∧ now = activation) ∨
          (id ≠ activation.activationId ∧ before.activations[id]? = some now) := by
    intro id now found
    rw [putBundle_activations] at found
    split_ifs at found with same
    · cases found
      exact .inl ⟨same, rfl⟩
    · exact .inr ⟨same, found⟩
  have written : ((before.putRevision revision).putBundle activation
      receipts).revisions[activation.candidateRevisionId]? = some revision := by
    rw [owns.candidate]
    exact (writes_putRevision before revision _).trans (if_pos rfl)
  have kept : ∀ (id : String) now,
      before.activations[id]? = some now →
        ((before.putRevision revision).putBundle activation
          receipts).revisions[now.candidateRevisionId]? =
            before.revisions[now.candidateRevisionId]? := by
    intro id now found
    obtain ⟨other, stored, _⟩ := orderly.owned id now found
    have differs : now.candidateRevisionId ≠ revision.revisionId := by
      intro same
      rw [same, unknown] at stored
      cases stored
    exact (writes_putRevision before revision _).trans (if_neg differs)
  refine ⟨sound, ?_, ?_, ?_, ?_, ?_, ?_⟩
  · intro id now found
    rcases cases_of id now found with ⟨rfl, rfl⟩ | ⟨_, there⟩
    · rfl
    · exact orderly.named id now there
  · intro id now found
    rcases cases_of id now found with ⟨rfl, rfl⟩ | ⟨_, there⟩
    · exact ⟨revision, written, owns⟩
    · obtain ⟨other, stored, owned⟩ := orderly.owned id now there
      exact ⟨other, (kept id now there).trans stored, owned⟩
  · intro first second now other found foundOther same
    rcases cases_of first now found with ⟨rfl, rfl⟩ | ⟨_, there⟩ <;>
      rcases cases_of second other foundOther with ⟨rfl, rfl⟩ | ⟨_, thereOther⟩
    · rfl
    · exact absurd same.symm (alone second other thereOther)
    · exact absurd same (alone first now there)
    · exact orderly.single first second now other there thereOther same
  · intro key receipt found
    exact (addresses.putBundle (before.putRevision revision) found).elim id
      (orderly.addressed key receipt)
  · intro id now found succeeded target
    rcases cases_of id now found with ⟨rfl, rfl⟩ | ⟨differs, there⟩
    · rw [preparing] at succeeded
      cases succeeded
    · rw [putBundle_receipts_other _ _ addresses.distinct fun receipt _ same =>
        differs (Prod.mk.inj same).1]
      exact orderly.acknowledged id now there succeeded target
  · intro id now other found held
    rcases cases_of id now found with ⟨rfl, rfl⟩ | ⟨_, there⟩
    · rw [written] at held
      cases held
      rw [staged]
      exact Nat.zero_le _
    · rw [kept id now there] at held
      exact orderly.released id now other there held

theorem Orderly.exec (lawful : before.Lawful call) : (call.exec .sqlite before).2.Orderly := by
  have effect := exec_effect orderly.sound.keyed .sqlite call
  have content := effect.keepsContent
  have sound := orderly.sound.effect effect nofun
  generalize (call.exec .sqlite before).2 = after at effect content sound ⊢
  cases effect with
  | kept revisions _ activations receipts =>
    refine orderly.of_content sound content activations receipts
      fun id activation revision found there => ?_
    exact orderly.released id activation revision found ((revisions _).symm.trans there)
  | inserted => exact lawful.elim
  | staged checked unknown _ _ fresh => exact orderly.stage checked unknown (fresh rfl).2 sound
  | bundled done => exact orderly.put lawful (putBundle_checked done).1 sound
  | observed moved => exact orderly.observe lawful moved rfl sound
  | @moved existing target stored may =>
    refine orderly.of_content sound content rfl rfl
      (orderly.released_writes (writes_putRevision before _) fun id activation found names => ?_)
    have ends : target = .retired ∨
      target = .aborted ∧ ∃ id, before.Activated id existing.revisionId 3 := lawful
    rcases ends with rfl | ⟨rfl, activated⟩
    · refine orderly.rank_of_stored existing stored ?_ id activation found names
      rw [active_of_mayBecome_retired may]
      exact le_rfl
    · exact orderly.rank_of_activated activated found names
  | «published» =>
    exact orderly.of_content sound content rfl rfl
      (orderly.released_writes (writes_putRevision before _)
        fun id activation found names => orderly.rank_of_activated lawful found names)
  | @restored _ candidate previous _ storedCandidate storedPrevious _ restores =>
    refine orderly.of_content sound content rfl rfl fun id activation revision found there => ?_
    rcases stored_putRevision there with ⟨isPrevious, rfl⟩ | ⟨_, there⟩
    · refine orderly.rank_of_stored previous storedPrevious ?_ id activation found isPrevious
      rcases restores.revivable with status | status <;> rw [status] <;> exact le_rfl
    · exact orderly.released_withStatus storedCandidate restores.active found there
  | @cleared _ candidate tombstone _ storedCandidate _ clears unknown =>
    refine orderly.of_content sound content rfl rfl fun id activation revision found there => ?_
    rcases stored_putRevision there with ⟨isTombstone, rfl⟩ | ⟨_, there⟩
    · -- no activation has a candidate that is not stored
      obtain ⟨_, stored, _⟩ := orderly.owned id activation found
      rw [isTombstone, unknown rfl] at stored
      cases stored
    · exact orderly.released_withStatus storedCandidate clears.active found there

end ContributionTables

end UntitledOJ
