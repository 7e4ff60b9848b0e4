import UntitledOJ.ContributionHeads

/-!
# What a repository call does to activations and receipts

An activation is stored once with its candidate and from then on only moves forward.
-/

namespace UntitledOJ

open Contribution List ContributionActivationStateV1

namespace ContributionActivationStateV1

def rank : ContributionActivationStateV1 → Nat
  | .preparing => 0
  | .committing => 1
  | .succeeded => 2
  | .compensating => 3
  | .aborted | .needsAttention => 4

theorem rank_lt_of_mayBecome {earlier later : ContributionActivationStateV1}
    (may : earlier.mayBecome later = true) : earlier.rank < later.rank := by
  cases earlier <;> cases later <;> first | decide | cases may

end ContributionActivationStateV1

variable {revision : ContributionRevisionV1} {activation : ContributionActivationV1}

namespace ContributionActivationV1

/-- The later activation is the earlier one in a state that is not before its own. -/
structure Evolves (earlier later : ContributionActivationV1) : Prop where
  identity : later = { earlier with
    state := later.state, terminationIntent := later.terminationIntent }
  rank : earlier.state.rank ≤ later.state.rank

variable {first second third : ContributionActivationV1}

theorem Evolves.refl (activation : ContributionActivationV1) : activation.Evolves activation :=
  ⟨rfl, le_rfl⟩

theorem Evolves.trans (earlier : first.Evolves second) (later : second.Evolves third) :
    first.Evolves third := by
  refine ⟨?_, earlier.rank.trans later.rank⟩
  conv_lhs => rw [later.identity, earlier.identity]

theorem Evolves.candidate (evolves : first.Evolves second) :
    second.candidateRevisionId = first.candidateRevisionId := by
  rw [evolves.identity]

theorem Evolves.activationId (evolves : first.Evolves second) :
    second.activationId = first.activationId := by
  rw [evolves.identity]

/-- The activation is about the revision. -/
structure Owns (activation : ContributionActivationV1) (revision : ContributionRevisionV1) :
    Prop where
  scope : activation.scopeId = revision.scopeId
  service : activation.serviceId = revision.serviceId
  candidate : activation.candidateRevisionId = revision.revisionId
  previous : activation.previousRevisionId = revision.previousRevisionId

theorem Owns.evolve (owns : first.Owns revision) (evolves : first.Evolves second) :
    second.Owns revision := by
  rw [evolves.identity]
  exact ⟨owns.scope, owns.service, owns.candidate, owns.previous⟩

theorem Owns.withStatus (owns : first.Owns revision) (status : ContributionRevisionStatusV1) :
    first.Owns (revision.withStatus status) :=
  ⟨owns.scope, owns.service, owns.candidate, owns.previous⟩

theorem transition_ok {next : ContributionActivationV1}
    {state : ContributionActivationStateV1} {intent : Option ContributionTerminationIntentV1}
    (moved : activation.transition state intent = .ok next) :
    next = activation.moved state intent ∧ activation.state.mayBecome state = true := by
  obtain ⟨_, _, moved⟩ := ok_of_bind moved
  obtain ⟨may, moved⟩ := ok_of_require_bind moved
  obtain ⟨_, _, moved⟩ := ok_of_bind moved
  cases moved
  exact ⟨rfl, may⟩

end ContributionActivationV1

theorem ProjectionReceiptV1.record_ok {receipt next : ProjectionReceiptV1}
    {state : ProjectionReceiptStateV1} {generation : Option Nat}
    {stagedDigest activeDigest : Option Sha256} {lastError : Option String}
    (recorded : receipt.record state generation stagedDigest activeDigest lastError = .ok next) :
    next.state = state := by
  obtain ⟨_, _, recorded⟩ := ok_of_bind recorded
  obtain ⟨_, recorded⟩ := ok_of_require_bind recorded
  obtain ⟨_, _, recorded⟩ := ok_of_bind recorded
  cases recorded
  rfl

namespace ContributionTables

variable {before : ContributionTables} {receipt : ProjectionReceiptV1}

variable {receipts : List ProjectionReceiptV1} {after : ContributionTables}

theorem ok_of_forM {α Error : Type} {check : α → Except Error Unit} {items : List α}
    (passed : items.forM check = .ok ()) : ∀ item ∈ items, check item = .ok () := by
  induction items with
  | nil => simp
  | cons head tail ih =>
    obtain ⟨⟨⟩, first, rest⟩ := ok_of_bind passed
    intro item member
    rcases mem_cons.mp member with rfl | later
    · exact first
    · exact ih rest item later

theorem validateActivationTransition_ok {existing candidate : ContributionActivationV1}
    (passed : validateActivationTransition existing candidate = .ok ()) :
    existing.Evolves candidate := by
  unfold validateActivationTransition at passed
  by_cases same : existing = candidate
  · exact same ▸ .refl existing
  · rw [if_neg same] at passed
    obtain ⟨_, _, passed⟩ := ok_of_bind passed
    obtain ⟨_, _, passed⟩ := ok_of_bind passed
    have moved := of_require passed
    simp only [Bool.and_eq_true, decide_eq_true_eq] at moved
    exact ⟨moved.1.symm, (rank_lt_of_mayBecome moved.2).le⟩

theorem validateReceiptTransition_ok {existing : ProjectionReceiptV1}
    (passed : validateReceiptTransition existing receipt = .ok ()) :
    receipt.activationId = existing.activationId := by
  unfold validateReceiptTransition at passed
  by_cases same : existing = receipt
  · rw [same]
  · rw [if_neg same] at passed
    obtain ⟨_, _, passed⟩ := ok_of_bind passed
    obtain ⟨_, _, passed⟩ := ok_of_bind passed
    have moved := of_require passed
    simp only [Bool.and_eq_true, decide_eq_true_eq] at moved
    rw [← moved.1]
    rfl

/-- The receipts are of this activation, one for each target. -/
structure Addresses (activation : ContributionActivationV1) (receipts : List ProjectionReceiptV1) :
    Prop where
  distinct : (receipts.map (·.target)).Nodup
  own : ∀ receipt ∈ receipts, receipt.activationId = activation.activationId

theorem checkReceipts_ok {seen : List ProjectionTargetV1}
    (passed : validateActivationBundle.checkReceipts activation seen receipts = .ok ()) :
    Addresses activation receipts ∧ ∀ receipt ∈ receipts, receipt.target ∉ seen := by
  induction receipts generalizing seen with
  | nil => exact ⟨⟨nodup_nil, nofun⟩, nofun⟩
  | cons head tail ih =>
    obtain ⟨_, _, passed⟩ := ok_of_bind passed
    obtain ⟨fresh, passed⟩ := ok_of_require_bind passed
    obtain ⟨own, passed⟩ := ok_of_require_bind passed
    simp only [Bool.and_eq_true, decide_eq_true_eq] at own
    obtain ⟨⟨distinct, others⟩, unseen⟩ := ih passed
    refine ⟨⟨?_, forall_mem_cons.mpr ⟨own.1.1, others⟩⟩, ?_⟩
    · rw [map_cons, nodup_cons]
      refine ⟨?_, distinct⟩
      intro member
      obtain ⟨receipt, later, same⟩ := mem_map.mp member
      exact unseen receipt later (same ▸ mem_cons_self)
    · intro receipt member
      rcases mem_cons.mp member with rfl | later
      · simpa using fresh
      · exact fun old => unseen receipt later (mem_cons_of_mem _ old)

theorem validateActivationBundle_ok
    (passed : validateActivationBundle activation receipts = .ok ()) :
    Addresses activation receipts := by
  obtain ⟨_, _, passed⟩ := ok_of_bind passed
  exact (checkReceipts_ok passed).1

theorem validateActivationRevision_ok
    (passed : validateActivationRevision activation revision = .ok ()) :
    activation.Owns revision := by
  have same := of_require passed
  simp only [Bool.and_eq_true, decide_eq_true_eq] at same
  exact ⟨same.1.1.1, same.1.1.2, same.1.2, same.2⟩

theorem validateStageBundle_checks [RecordDigests] [VersionSyntax]
    (passed : validateStageBundle revision activation receipts = .ok ()) :
    revision.status = .staged ∧ Addresses activation receipts ∧ activation.Owns revision ∧
      activation.state = .preparing := by
  obtain ⟨_, staged⟩ := validateStageBundle_ok passed
  obtain ⟨⟨⟩, _, passed⟩ := ok_of_bind passed
  obtain ⟨⟨⟩, bundle, passed⟩ := ok_of_bind passed
  obtain ⟨⟨⟩, owner, passed⟩ := ok_of_bind passed
  obtain ⟨preparing, _⟩ := ok_of_require_bind passed
  exact ⟨staged, validateActivationBundle_ok bundle, validateActivationRevision_ok owner,
    by simpa using preparing⟩

structure BundleChecks (before : ContributionTables) (activation : ContributionActivationV1)
    (receipts : List ProjectionReceiptV1) : Prop extends Addresses activation receipts where
  evolves : ∀ existing, before.activations[activation.activationId]? = some existing →
    existing.Evolves activation

theorem putBundle_checked {backend : ContributionBackend} {reply : Unit}
    (done : before.putContributionActivationBundle backend activation receipts =
      .ok (reply, after)) :
    before.BundleChecks activation receipts ∧ after = before.putBundle activation receipts := by
  refine ⟨?_, putBundle_ok done⟩
  obtain ⟨⟨⟩, bundle, done⟩ := ok_of_bind done
  obtain ⟨_, _, done⟩ := ok_of_bind done
  obtain ⟨_, _, done⟩ := ok_of_bind done
  refine ⟨validateActivationBundle_ok bundle, fun existing known => ?_⟩
  rw [known] at done
  obtain ⟨⟨⟩, moved, _⟩ := ok_of_bind done
  exact validateActivationTransition_ok moved

section

theorem getElem?_writeReceipts (activationId : String) (receipts : List ProjectionReceiptV1)
    (distinct : (receipts.map (·.target)).Nodup)
    (stored : Std.TreeMap (String × ProjectionTargetV1) ProjectionReceiptV1 pairOrder) :
    (∀ receipt ∈ receipts, (receipts.foldl (fun stored receipt =>
        stored.insert (activationId, receipt.target) receipt) stored)[(activationId,
          receipt.target)]? = some receipt) ∧ ∀ key,
        (∀ receipt ∈ receipts, key ≠ (activationId, receipt.target)) →
        (receipts.foldl (fun stored receipt =>
          stored.insert (activationId, receipt.target) receipt) stored)[key]? = stored[key]? := by
  induction receipts generalizing stored with
  | nil => simp
  | cons head tail ih =>
    rw [map_cons, nodup_cons] at distinct
    obtain ⟨written, kept⟩ := ih distinct.2 (stored.insert (activationId, head.target) head)
    constructor
    · intro receipt member
      rcases mem_cons.mp member with rfl | later
      · rw [foldl_cons, kept]
        · rw [getElem?_insert_of_eq, if_pos rfl]
        · intro other inTail same
          exact distinct.1 (mem_map.mpr ⟨other, inTail, (Prod.mk.inj same).2.symm⟩)
      · exact written receipt later
    · intro key apart
      rw [foldl_cons, kept key fun receipt member =>
        apart receipt (mem_cons_of_mem _ member)]
      rw [getElem?_insert_of_eq, if_neg (apart head mem_cons_self)]

variable (tables : ContributionTables) (activation : ContributionActivationV1)
  (receipts : List ProjectionReceiptV1)

theorem putBundle_activations (id : String) :
    (tables.putBundle activation receipts).activations[id]? =
      if id = activation.activationId then some activation else tables.activations[id]? :=
  getElem?_insert_of_eq ..

variable {receipts} (distinct : (receipts.map (·.target)).Nodup)
include distinct

theorem putBundle_receipt (member : receipt ∈ receipts) :
    (tables.putBundle activation receipts).receipts[(activation.activationId,
      receipt.target)]? = some receipt :=
  (getElem?_writeReceipts _ receipts distinct _).1 receipt member

theorem putBundle_receipts_other {key : String × ProjectionTargetV1}
    (apart : ∀ receipt ∈ receipts, key ≠ (activation.activationId, receipt.target)) :
    (tables.putBundle activation receipts).receipts[key]? = tables.receipts[key]? :=
  (getElem?_writeReceipts _ receipts distinct _).2 key apart

omit distinct in
theorem Addresses.putBundle {activation : ContributionActivationV1}
    (addresses : Addresses activation receipts) {key : String × ProjectionTargetV1}
    (found : (tables.putBundle activation receipts).receipts[key]? = some receipt) :
    receipt.activationId = key.1 ∨ tables.receipts[key]? = some receipt := by
  by_cases written : ∃ other ∈ receipts, key = (activation.activationId, other.target)
  · obtain ⟨other, member, rfl⟩ := written
    rw [putBundle_receipt _ _ addresses.distinct member] at found
    cases found
    exact .inl (addresses.own receipt member)
  · push Not at written
    exact .inr (putBundle_receipts_other _ _ addresses.distinct written ▸ found)

end

/-- Activations are kept and move forward. -/
def Advances (before after : ContributionTables) : Prop :=
  ∀ (id : String) activation,
    before.activations[id]? = some activation →
      ∃ later, after.activations[id]? = some later ∧ activation.Evolves later

theorem Advances.refl (tables : ContributionTables) : tables.Advances tables :=
  fun _ activation stored => ⟨activation, stored, .refl activation⟩

theorem Advances.trans {first second third : ContributionTables}
    (earlier : first.Advances second) (later : second.Advances third) : first.Advances third := by
  intro id activation stored
  obtain ⟨middle, found, evolves⟩ := earlier id activation stored
  obtain ⟨last, there, moves⟩ := later id middle found
  exact ⟨last, there, evolves.trans moves⟩

/-- An activation of the candidate has come this far. -/
def Activated (tables : ContributionTables) (id : String) (candidate : Sha256) (rank : Nat) :
    Prop :=
  ∃ activation, tables.activations[id]? = some activation ∧
    activation.candidateRevisionId = candidate ∧ rank ≤ activation.state.rank

theorem Activated.advance {id : String} {candidate : Sha256} {rank : Nat}
    (activated : before.Activated id candidate rank) (advances : before.Advances after) :
    after.Activated id candidate rank := by
  obtain ⟨activation, stored, names, reached⟩ := activated
  obtain ⟨later, found, evolves⟩ := advances id activation stored
  exact ⟨later, found, evolves.candidate.trans names, reached.trans evolves.rank⟩

end ContributionTables

end UntitledOJ
