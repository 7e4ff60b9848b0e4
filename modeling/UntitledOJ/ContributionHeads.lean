import UntitledOJ.ContributionEffects
import UntitledOJ.CallSequence
import Mathlib.Data.List.Induction
import Mathlib.Data.List.Infix

/-!
# Contribution heads never go back

A head names an active revision of its service, its generation never decreases, and it never
takes an earlier value again.  A generation is headed by the revision that has it, and then at most
by the predecessor to which that one was compensated.
-/

namespace UntitledOJ

open Contribution ContributionTables List

section

variable [RecordDigests] [VersionSyntax]

theorem ContributionRevisionV1.revisionId_of_validate {revision : ContributionRevisionV1}
    (valid : revision.validate = .ok ()) :
    revision.revisionId = canonicalSha256 (.revision revision.toRevisionHashMaterial) := by
  obtain ⟨_, valid⟩ := ok_of_rejectIf_bind valid
  obtain ⟨_, _, valid⟩ := ok_of_bind valid
  obtain ⟨named, _⟩ := ok_of_rejectIf_bind valid
  exact not_not.mp (of_decide_eq_false named)

end

variable {head : ContributionHeadV1} {before after : ContributionTables} {key : String × String}
  {backend : ContributionBackend} {call : ContributionCall}

namespace ContributionTables

variable [RecordDigests]

/-- The head was written with its tag and names an active revision of its service that
is not newer than the head. -/
structure Publishes (tables : ContributionTables) (key : String × String)
    (head : ContributionHeadV1) (revision : ContributionRevisionV1) : Prop where
  key_eq : (head.scopeId, head.serviceId) = key
  tagged : head.etag = canonicalSha256 (.head head.toHeadHashMaterial)
  stored : tables.revisions[head.activeRevisionId]? = some revision
  owner : (revision.scopeId, revision.serviceId) = key
  active : revision.status = .active
  generation : revision.generation ≤ head.generation

variable {revision written : ContributionRevisionV1}

theorem Publishes.of_writes_other (publishes : before.Publishes key head revision)
    (writes : before.Writes after written) (other : head.activeRevisionId ≠ written.revisionId) :
    after.Publishes key head revision :=
  { publishes with stored := by rw [writes, if_neg other]; exact publishes.stored }

theorem Publishes.of_same (publishes : before.Publishes key head revision)
    (same : before.SameRevisions after) : after.Publishes key head revision :=
  { publishes with stored := by rw [same]; exact publishes.stored }

theorem publishes_naming (revision : ContributionRevisionV1) {generation : Nat}
    (active : revision.status = .active)
    (stored : after.revisions[revision.revisionId]? = some revision)
    (newer : revision.generation ≤ generation) :
    after.Publishes (revision.scopeId, revision.serviceId) (.naming revision generation) revision :=
  ⟨rfl, rfl, stored, rfl, active, newer⟩

theorem headed_of_points
    (points : before.Points after head) (key_eq : (head.scopeId, head.serviceId) = key)
    (publishes : after.Publishes key head revision) (others : ∀ other kept, other ≠ key →
      before.heads[other]? = some kept → ∃ revision, after.Publishes other kept revision) :
    ∀ other kept, after.heads[other]? = some kept →
      ∃ revision, after.Publishes other kept revision := by
  intro other kept found
  rw [points other, key_eq] at found
  by_cases same : other = key
  · rw [if_pos same] at found
    cases found
    exact ⟨revision, same ▸ publishes⟩
  · rw [if_neg same] at found
    exact others other kept same found

/-- A head of another service does not name that revision. -/
theorem Publishes.apart (publishes : before.Publishes key head revision)
    (other : ContributionRevisionV1) (stored : before.revisions[other.revisionId]? = some other)
    (different : key ≠ (other.scopeId, other.serviceId)) :
    head.activeRevisionId ≠ other.revisionId := by
  intro equal
  have found := publishes.stored
  rw [equal, stored] at found
  cases found
  exact different publishes.owner.symm

variable [VersionSyntax]

def hashed (tables : ContributionTables) : List HashedRecord :=
  (tableRows tables.revisions).map (fun revision => .revision revision.toRevisionHashMaterial) ++
    (tableRows tables.heads).map fun head => .head head.toHeadHashMaterial

/-- Revisions are valid, and every head publishes one. -/
structure Sound (tables : ContributionTables) : Prop where
  keyed : tables.Keyed
  headed : ∀ key head, tables.heads[key]? = some head →
    ∃ revision, tables.Publishes key head revision

theorem sound_empty : empty.Sound :=
  ⟨fun _ _ found => by simp [empty] at found, fun _ _ found => by simp [empty] at found⟩

def SameContent (before after : ContributionTables) : Prop :=
  ∀ (id : Sha256) first second, before.revisions[id]? = some first →
    after.revisions[id]? = some second →
      first.toRevisionHashMaterial = second.toRevisionHashMaterial

theorem sameContent_of_collisionFree {records : List HashedRecord} (free : CollisionFree records)
    (first : before.Keyed) (second : after.Keyed) (within : before.hashed ⊆ records)
    (withinAfter : after.hashed ⊆ records) : before.SameContent after := by
  intro id earlier later stored storedAfter
  obtain ⟨name, valid⟩ := first id earlier stored
  obtain ⟨nameAfter, validAfter⟩ := second id later storedAfter
  have member : .revision earlier.toRevisionHashMaterial ∈ records := within (mem_append_left _
    (mem_map_of_mem (mem_tableRows.mpr ⟨id, stored⟩)))
  have memberAfter : .revision later.toRevisionHashMaterial ∈ records :=
    withinAfter (mem_append_left _ (mem_map_of_mem (mem_tableRows.mpr ⟨id, storedAfter⟩)))
  apply HashedRecord.revision.inj
  apply free _ member _ memberAfter
  rw [← ContributionRevisionV1.revisionId_of_validate valid,
    ← ContributionRevisionV1.revisionId_of_validate validAfter, name, nameAfter]

theorem Sound.headed_same (sound : before.Sound) (revisions : before.SameRevisions after)
    (heads : before.SameHeads after) (key : String × String) (head : ContributionHeadV1)
    (found : after.heads[key]? = some head) : ∃ revision, after.Publishes key head revision := by
  rw [heads key] at found
  obtain ⟨revision, publishes⟩ := sound.headed key head found
  exact ⟨revision, publishes.of_same revisions⟩

theorem Sound.headed_inserted (sound : before.Sound)
    (unknown : before.revisions[written.revisionId]? = none) (key : String × String)
    (head : ContributionHeadV1) (found : before.heads[key]? = some head) :
    ∃ revision, (before.putRevision written).Publishes key head revision := by
  obtain ⟨revision, publishes⟩ := sound.headed key head found
  refine ⟨revision, publishes.of_writes_other (writes_putRevision _ _) fun equal => ?_⟩
  have stored := publishes.stored
  rw [equal, unknown] at stored
  cases stored

/-- Every effect keeps heads on active revisions of their service.  Only the in-memory
store could overwrite a revision by another one of the same digest. -/
theorem Sound.effect (sound : before.Sound) (effect : Effect backend before call after)
    (same : backend = .memory → before.SameContent after) : after.Sound := by
  refine ⟨effect.keyed sound.keyed, ?_⟩
  cases effect with
  | kept revisions heads => exact sound.headed_same revisions heads
  | bundled | observed => exact sound.headed_same (fun _ => rfl) fun _ => rfl
  | inserted _ _ unknown => exact sound.headed_inserted unknown
  | staged _ unknown =>
    intro key head found
    obtain ⟨revision, publishes⟩ := sound.headed_inserted unknown key head found
    exact ⟨revision, publishes.of_same fun _ => rfl⟩
  | @moved existing target stored may _ unheaded =>
    intro key head found
    obtain ⟨revision, publishes⟩ := sound.headed key head found
    refine ⟨revision, publishes.of_writes_other (writes_putRevision _ _) fun equal => ?_⟩
    -- an active revision can only be retired, which needs that no head names it
    have named := publishes.stored
    rw [show head.activeRevisionId = existing.revisionId from equal, stored] at named
    cases named
    rw [publishes.active] at may
    cases target with
    | retired => exact unheaded rfl ⟨key, head, found, equal⟩
    | staged | active | aborted => cases may
  | @published existing _ stored =>
    refine headed_of_points (points_putHead _ _) rfl (publishes_naming
      (existing.withStatus .active) rfl
      ((writes_putRevision before _ _).trans (if_pos rfl)) le_rfl) ?_
    intro other kept different found
    obtain ⟨revision, publishes⟩ := sound.headed other kept found
    exact ⟨revision, publishes.of_writes_other (writes_putRevision before _)
      (publishes.apart existing stored different)⟩
  | @restored current candidate previous _ storedCandidate storedPrevious _ restores =>
    refine headed_of_points (points_putHead _ _) rfl (publishes_naming
      (previous.withStatus .active) rfl ((writes_putRevision _ _ _).trans (if_pos rfl))
      (by rw [restores.names.2]; exact restores.older.le)) ?_
    intro other kept different found
    obtain ⟨revision, publishes⟩ := sound.headed other kept found
    have differs : other ≠ (candidate.scopeId, candidate.serviceId) := by
      rw [← restores.identity.1, ← restores.identity.2]
      exact different
    have retired := publishes.of_writes_other
      (writes_putRevision before (candidate.withStatus .retired))
      (publishes.apart candidate storedCandidate differs)
    exact ⟨revision, retired.of_writes_other
      (writes_putRevision _ (previous.withStatus .active))
      (publishes.apart previous storedPrevious different)⟩
  | @cleared current candidate tombstone _ storedCandidate _ clears unknown =>
    have empty := clears.empty
    have stored : ((before.putRevision (candidate.withStatus .retired)).putRevision
        tombstone).revisions[tombstone.revisionId]? = some tombstone :=
      (writes_putRevision _ _ _).trans (if_pos rfl)
    refine headed_of_points (points_putHead _ _) rfl
      (publishes_naming tombstone empty.active stored le_rfl) ?_
    intro other kept different found
    obtain ⟨revision, publishes⟩ := sound.headed other kept found
    have differs : other ≠ (candidate.scopeId, candidate.serviceId) := by
      rw [← empty.scope, ← empty.service]
      exact different
    have retired := publishes.of_writes_other
      (writes_putRevision before (candidate.withStatus .retired))
      (publishes.apart candidate storedCandidate differs)
    refine ⟨revision, retired.of_writes_other (writes_putRevision _ tombstone) fun equal => ?_⟩
    have named := publishes.stored
    rw [equal] at named
    cases backend with
    | sqlite => rw [unknown rfl] at named; cases named
    | memory =>
      have content := same rfl _ _ _ named stored
      exact different (publishes.owner.symm.trans (by rw [content]; rfl))

end ContributionTables

/-- How one call may move the head of a service. -/
inductive HeadMove (before after : ContributionTables) (head next : ContributionHeadV1) : Prop
  | kept (same : next = head)
  | advanced (newer : head.generation < next.generation)
  | returned (same : next.generation = head.generation)
      (candidate previous : ContributionRevisionV1)
      (stored : before.revisions[head.activeRevisionId]? = some candidate)
      (direct : candidate.generation = head.generation)
      (restored : after.revisions[next.activeRevisionId]? = some previous)
      (older : previous.generation < next.generation)

theorem headMove_of_points {written : ContributionHeadV1} (points : before.Points after written)
    (found : before.heads[key]? = some head)
    (moves : key = (written.scopeId, written.serviceId) → HeadMove before after head written) :
    ∃ next, after.heads[key]? = some next ∧ HeadMove before after head next := by
  by_cases same : key = (written.scopeId, written.serviceId)
  · exact ⟨written, by rw [points key, if_pos same], moves same⟩
  · exact ⟨head, by rw [points key, if_neg same, found], .kept rfl⟩

theorem ContributionTables.Effect.headMove [RecordDigests] [VersionSyntax]
    (effect : Effect backend before call after) (found : before.heads[key]? = some head) :
    ∃ next, after.heads[key]? = some next ∧ HeadMove before after head next := by
  cases effect with
  | kept _ heads => exact ⟨head, by rw [heads key, found], .kept rfl⟩
  | inserted | staged | bundled | observed | moved => exact ⟨head, found, .kept rfl⟩
  | @published existing _ _ _ _ follows =>
    refine headMove_of_points (points_putHead _ _) found fun same => .advanced ?_
    rw [show (existing.scopeId, existing.serviceId) = key from same.symm, found] at follows
    exact follows.1
  | @restored current candidate previous _ storedCandidate _ headed restores =>
      refine headMove_of_points (points_putHead _ _) found fun same => ?_
      have key_eq : (candidate.scopeId, candidate.serviceId) = key := by
        rw [same, ← restores.identity.1, ← restores.identity.2]
        rfl
      rw [key_eq, found] at headed
      cases headed
      refine .returned rfl candidate (previous.withStatus .active) ?_ restores.names.2.symm ?_ ?_
      · rw [restores.names.1, storedCandidate]
      · exact (writes_putRevision _ _ _).trans (if_pos rfl)
      · exact restores.names.2 ▸ restores.older
  | @cleared current candidate tombstone _ _ headed clears =>
    refine headMove_of_points (points_putHead _ _) found fun same => .advanced ?_
    have key_eq : (candidate.scopeId, candidate.serviceId) = key := by
      rw [same, ← clears.empty.scope, ← clears.empty.service]
      rfl
    rw [key_eq, found] at headed
    cases headed
    rw [clears.names.2]
    exact (Nat.lt_succ_self _).trans_eq clears.empty.generation.symm

/-- Where a head is, seen from a value that it had. -/
inductive HeadProgress (tables : ContributionTables) (early head : ContributionHeadV1) : Prop
  | same (equal : early = head)
  | advanced (newer : early.generation < head.generation)
  | returned (equal : early.generation = head.generation) (revision : ContributionRevisionV1)
      (stored : tables.revisions[head.activeRevisionId]? = some revision)
      (older : revision.generation < head.generation)

theorem HeadProgress.generation_le {tables : ContributionTables} {early : ContributionHeadV1}
    (progress : HeadProgress tables early head) : early.generation ≤ head.generation := by
  cases progress with
  | same equal => rw [equal]
  | advanced newer => exact newer.le
  | returned equal => exact equal.le

variable {early next : ContributionHeadV1}

section

variable (progress : HeadProgress before early head)
include progress

theorem HeadProgress.eq_of_direct (same : early.generation = head.generation)
    {candidate : ContributionRevisionV1}
    (stored : before.revisions[head.activeRevisionId]? = some candidate)
    (direct : candidate.generation = head.generation) : early = head := by
  cases progress with
  | same equal => exact equal
  | advanced newer => exact absurd same newer.ne
  | returned _ revision found older =>
    rw [stored] at found
    cases found
    exact absurd direct older.ne

theorem HeadProgress.step (move : HeadMove before after head next) (same : before.SameContent after)
    (kept : ∀ id : Sha256, before.revisions[id]?.isSome = true →
      after.revisions[id]?.isSome = true) : HeadProgress after early next := by
  cases move with
  | kept equal =>
    subst equal
    cases progress with
    | same equal => exact .same equal
    | advanced newer => exact .advanced newer
    | returned equal revision stored older =>
      obtain ⟨later, found⟩ := Option.isSome_iff_exists.mp (kept _ (by rw [stored]; rfl))
      have content := same _ _ _ stored found
      exact .returned equal later found (content ▸ older)
  | advanced newer => exact .advanced (progress.generation_le.trans_lt newer)
  | returned equal candidate previous stored direct restored older =>
    rcases progress.generation_le.lt_or_eq with below | level
    · exact .advanced (equal ▸ below)
    · exact .returned (level.trans equal.symm) previous restored older

theorem HeadProgress.fresh (move : HeadMove before after head next) (changed : next ≠ head)
    (same : before.SameContent after) : early.toHeadHashMaterial ≠ next.toHeadHashMaterial := by
  intro equal
  have names := congrArg HeadHashMaterial.activeRevisionId equal
  have generations := congrArg HeadHashMaterial.generation equal
  cases move with
  | kept equal => exact changed equal
  | advanced newer =>
    exact absurd generations (progress.generation_le.trans_lt newer).ne
  | returned level candidate previous stored direct restored older =>
    have first := progress.eq_of_direct (generations.trans level) stored direct
    subst first
    rw [← names] at restored
    have content := same _ _ _ stored restored
    rw [← content, direct, ← generations] at older
    exact lt_irrefl _ older

end

theorem ContributionTables.isSome_putRevision {written : ContributionRevisionV1} {id : Sha256}
    (stored : before.revisions[id]?.isSome = true) :
    (before.putRevision written).revisions[id]?.isSome = true := by
  rw [writes_putRevision before written id]
  split_ifs
  · rfl
  · exact stored

theorem ContributionTables.Effect.isSome [RecordDigests] [VersionSyntax]
    (effect : Effect backend before call after) (id : Sha256)
    (stored : before.revisions[id]?.isSome = true) : after.revisions[id]?.isSome = true := by
  cases effect with
  | kept revisions => rw [revisions id]; exact stored
  | bundled | observed => exact stored
  | inserted | staged | moved | «published» => exact isSome_putRevision stored
  | restored | cleared => exact isSome_putRevision (isSome_putRevision stored)

section

variable [RecordDigests] [VersionSyntax] (backend : ContributionBackend)

def contributionsAfter (calls : List ContributionCall) : ContributionTables :=
  afterCalls (fun tables call => ((), (ContributionCall.exec backend call tables).2)) .empty calls

theorem contributionsAfter_concat (calls : List ContributionCall) (call : ContributionCall) :
    contributionsAfter backend (calls ++ [call]) =
      (call.exec backend (contributionsAfter backend calls)).2 := by
  rw [contributionsAfter, afterCalls_append]
  rfl

/-- Every record that is hashed along the calls. -/
def hashedRecords (calls : List ContributionCall) : List HashedRecord :=
  calls.inits.flatMap fun first => (contributionsAfter backend first).hashed

variable {backend} {calls : List ContributionCall} {first : List ContributionCall}

theorem hashed_subset (start : first <+: calls) :
    (contributionsAfter backend first).hashed ⊆ hashedRecords backend calls :=
  fun _ member => mem_flatMap.mpr ⟨first, (mem_inits _ _).mpr start, member⟩

section

variable (free : CollisionFree (hashedRecords backend calls))

include free

theorem contributions_sound (start : first <+: calls) :
    (contributionsAfter backend first).Sound := by
  induction first using reverseRecOn with
  | nil => exact sound_empty
  | append_singleton first call ih =>
    have earlier : first <+: calls := (prefix_append first [call]).trans start
    have sound := ih earlier
    have effect := exec_effect sound.keyed backend call
    rw [contributionsAfter_concat]
    refine sound.effect effect fun _ => ?_
    apply sameContent_of_collisionFree free sound.keyed (effect.keyed sound.keyed)
      (hashed_subset earlier)
    rw [← contributionsAfter_concat]
    exact hashed_subset start

theorem contributions_sameContent (start : first ++ [call] <+: calls) :
    (contributionsAfter backend first).SameContent
      (contributionsAfter backend (first ++ [call])) := by
  have earlier : first <+: calls := (prefix_append first [call]).trans start
  exact sameContent_of_collisionFree free (contributions_sound free earlier).keyed
    (contributions_sound free start).keyed (hashed_subset earlier) (hashed_subset start)

theorem contributions_headMove (start : first ++ [call] <+: calls)
    (found : (contributionsAfter backend first).heads[key]? = some head) :
    ∃ next, (contributionsAfter backend (first ++ [call])).heads[key]? = some next ∧
      HeadMove (contributionsAfter backend first) (contributionsAfter backend (first ++ [call]))
        head next := by
  have earlier : first <+: calls := (prefix_append first [call]).trans start
  rw [contributionsAfter_concat]
  exact (exec_effect (contributions_sound free earlier).keyed backend call).headMove found

theorem contributions_progress {early late : List ContributionCall}
    (start : early ++ late <+: calls)
    (found : (contributionsAfter backend early).heads[key]? = some head) :
    ∃ next, (contributionsAfter backend (early ++ late)).heads[key]? = some next ∧
      HeadProgress (contributionsAfter backend (early ++ late)) head next := by
  induction late using reverseRecOn with
  | nil => exact ⟨head, by rw [append_nil]; exact found, .same rfl⟩
  | append_singleton late call ih =>
    rw [← append_assoc] at start ⊢
    have earlier : early ++ late <+: calls := (prefix_append (early ++ late) [call]).trans start
    obtain ⟨_, there, progress⟩ := ih earlier
    obtain ⟨next, moved, move⟩ := contributions_headMove free start there
    refine ⟨next, moved, progress.step move (contributions_sameContent free start) ?_⟩
    rw [contributionsAfter_concat]
    exact (exec_effect (contributions_sound free earlier).keyed backend call).isSome

end

/-- The generation of a head never decreases, an accepted change gives the head a tag
that it never had, and the head names an active revision. -/
theorem heads_never_repeat (backend : ContributionBackend) (calls : List ContributionCall)
    (free : CollisionFree (hashedRecords backend calls)) :
    (∀ early late (key : String × String) head,
      early ++ late <+: calls → (contributionsAfter backend early).heads[key]? = some head →
        ∃ next, (contributionsAfter backend (early ++ late)).heads[key]? = some next ∧
          head.generation ≤ next.generation) ∧ (∀ early late call (key : String × String)
      head next, early ++ late ++ [call] <+: calls →
        (contributionsAfter backend early).heads[key]? = some head →
        (contributionsAfter backend (early ++ late ++ [call])).heads[key]? = some next →
        (contributionsAfter backend (early ++ late)).heads[key]? ≠ some next →
          head.etag ≠ next.etag) ∧ ∀ first (key : String × String) head,
      first <+: calls → (contributionsAfter backend first).heads[key]? = some head → ∃ revision,
          (contributionsAfter backend first).revisions[head.activeRevisionId]? = some revision ∧
            revision.status = .active := by
  refine ⟨?_, ?_, ?_⟩
  · intro early late key head start found
    obtain ⟨next, there, progress⟩ := contributions_progress free start found
    exact ⟨next, there, progress.generation_le⟩
  · intro early late call key head next start found moved changed same
    have middle : early ++ late <+: calls := (prefix_append (early ++ late) [call]).trans start
    obtain ⟨current, there, progress⟩ := contributions_progress free middle found
    obtain ⟨_, arrived, move⟩ := contributions_headMove free start there
    rw [moved] at arrived
    cases arrived
    have differs : next ≠ current := by
      rintro rfl
      exact changed there
    -- equal tags would be equal digests of different records
    have first := (prefix_append early late).trans middle
    obtain ⟨_, published⟩ := (contributions_sound free first).headed key head found
    obtain ⟨_, publishedNext⟩ := (contributions_sound free start).headed key next moved
    apply progress.fresh move differs (contributions_sameContent free start)
    apply HashedRecord.head.inj
    apply free
    · exact hashed_subset first (mem_append_right _
        (mem_map_of_mem (mem_tableRows.mpr ⟨key, found⟩)))
    · exact hashed_subset start (mem_append_right _
        (mem_map_of_mem (mem_tableRows.mpr ⟨key, moved⟩)))
    · rw [← published.tagged, ← publishedNext.tagged, same]
  · intro first key head start found
    obtain ⟨revision, publishes⟩ := (contributions_sound free start).headed key head found
    exact ⟨revision, publishes.stored, publishes.active⟩

end

namespace ContributionScenario

scoped instance smallDigests : RecordDigests where
  canonicalSha256
    | .revision material =>
      ⟨Fin.ofNat _ (1 + 4 * (material.generation + 16 * (material.operationRoutes.length +
        16 * material.serviceId.utf8ByteSize)))⟩
    | .head material =>
      ⟨Fin.ofNat _ (2 + 4 * (material.generation + 16 * material.activeRevisionId.value))⟩

scoped instance anyVersion : VersionSyntax :=
  ⟨fun _ => none, fun _ => none⟩

def routeOf (path : String) : ContributionOperationRouteV1 :=
  ⟨.user, .get, path, "a", "o", path, .required, none, none⟩

def revisionOf (serviceId : String) (generation : Nat) (previous : Option Sha256)
    (paths : List String) : ContributionRevisionV1 :=
  let content : RevisionHashMaterial :=
    { scopeId := "s"
      deploymentId := "d"
      serviceId
      releaseDigest := ⟨0⟩
      contractDigest := ⟨0⟩
      generation
      previousRevisionId := previous
      apiSurfaces := [⟨"a", "1", "http", "/"⟩]
      operationRoutes := paths.map routeOf
      permissionDefinitions := []
      userFrontendModules := []
      adminFrontendModules := [] }
  .staged content (canonicalSha256 (.revision content))

def etagOf (revision : ContributionRevisionV1) : Sha256 :=
  (ContributionHeadV1.naming revision revision.generation).etag

def firstRevision : ContributionRevisionV1 := revisionOf "a" 1 none ["/u"]

def secondRevision : ContributionRevisionV1 :=
  revisionOf "a" 2 (some firstRevision.revisionId) []

def replaced : List ContributionCall :=
  [.insertRevision firstRevision, .compareAndSwapHead none (firstRevision.withStatus .active),
    .insertRevision secondRevision,
    .compareAndSwapHead (some (etagOf firstRevision)) (secondRevision.withStatus .active)]

def compensation : ContributionCall :=
  .restoreHead (etagOf secondRevision) secondRevision.revisionId firstRevision.revisionId

/-- The head that is restored has a new tag and names an active revision. -/
theorem compensation_never_repeats :
    (ContributionHeadV1.naming firstRevision 1).etag ≠ (.naming firstRevision 2 :
        ContributionHeadV1).etag ∧ ∃ revision, (contributionsAfter .memory
          (replaced ++ [compensation])).revisions[firstRevision.revisionId]? = some revision ∧
        revision.status = .active := by
  obtain ⟨_, fresh, active⟩ := heads_never_repeat .memory (replaced ++ [compensation])
    (by decide +kernel)
  exact ⟨fresh (replaced.take 2) (replaced.drop 2) compensation ("s", "a") _ _
      (prefix_refl _) (by decide +kernel) (by decide +kernel) (by decide +kernel),
    active _ ("s", "a") (.naming firstRevision 2) (prefix_refl _) (by decide +kernel)⟩

end ContributionScenario

end UntitledOJ
