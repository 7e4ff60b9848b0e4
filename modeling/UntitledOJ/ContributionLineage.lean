import UntitledOJ.ContributionProtocol

/-!
# The lineage of published revisions

A candidate is published over the revision that the head names, and is taken back to it.  So the
head of a service rests on every candidate that was published and not taken back.
-/

namespace UntitledOJ

open ContributionTables Contribution Platform
open ContributionRevisionV1 (mayBecome withStatus_revisionId withStatus_scopeId
  withStatus_serviceId withStatus_status)

/-- The revision is or was named by a head. -/
def ContributionRevisionStatusV1.isPublished : ContributionRevisionStatusV1 → Bool
  | .active | .retired => true
  | .staged | .aborted => false

def ContributionCall.publishes : ContributionCall → Option ContributionRevisionV1
  | .compareAndSwapHead _ revision => some revision
  | _ => none

namespace ContributionTables

variable (tables : ContributionTables)

def Published (id : Sha256) : Prop :=
  ∃ revision, tables.revisions[id]? = some revision ∧ revision.status.isPublished = true

def Succeeds (newer older : Sha256) : Prop :=
  ∃ revision, tables.revisions[newer]? = some revision ∧
    revision.previousRevisionId = some older

/-- Going back over what was replaced leads from the first to the second. -/
abbrev Rests : Sha256 → Sha256 → Prop :=
  Relation.ReflTransGen tables.Succeeds

/-- An activation that was not taken back published the candidate. -/
structure Standing (tables : ContributionTables) (id : String)
    (candidate : ContributionRevisionV1) : Prop where
  activated : ∃ activation, tables.activations[id]? = some activation ∧
    activation.candidateRevisionId = candidate.revisionId ∧ activation.state.rank ≤ 2
  stored : tables.revisions[candidate.revisionId]? = some candidate
  «published» : candidate.status.isPublished = true

variable {older newer : Sha256} {before after : ContributionTables}

theorem KeepsContent.succeeds (content : before.KeepsContent after)
    (succeeds : before.Succeeds newer older) : after.Succeeds newer older := by
  obtain ⟨revision, stored, previous⟩ := succeeds
  obtain ⟨_, found⟩ := content newer revision stored
  exact ⟨_, found, previous⟩

theorem KeepsContent.rests (content : before.KeepsContent after)
    (rests : before.Rests newer older) : after.Rests newer older :=
  rests.lift id fun _ _ => content.succeeds

theorem Succeeds.unique {other : Sha256} (first : before.Succeeds newer older)
    (second : before.Succeeds newer other) : older = other := by
  obtain ⟨_, stored, previous⟩ := first
  obtain ⟨_, found, previousAgain⟩ := second
  rw [stored] at found
  cases found
  exact Option.some.inj (previous.symm.trans previousAgain)

theorem active_of_putRevision {written now : ContributionRevisionV1} {id : Sha256}
    (stored : (before.putRevision written).revisions[id]? = some now)
    (active : now.status = .active) (inactive : written.status ≠ .active) :
    before.revisions[id]? = some now ∧ id ≠ written.revisionId := by
  rcases stored_putRevision stored with ⟨_, rfl⟩ | ⟨other, stored⟩
  · exact absurd active inactive
  · exact ⟨stored, other⟩

variable {call : ContributionCall}

section

/-- The previous revision was published in the same service and is older. -/
structure Precedes (previous revision : ContributionRevisionV1) : Prop where
  «published» : previous.status.isPublished = true
  scope : previous.scopeId = revision.scopeId
  service : previous.serviceId = revision.serviceId
  older : previous.generation < revision.generation

theorem Precedes.trans {first second third : ContributionRevisionV1}
    (earlier : Precedes first second) (later : Precedes second third) : Precedes first third :=
  ⟨earlier.published, earlier.scope.trans later.scope, earlier.service.trans later.service,
    earlier.older.trans later.older⟩

def Descends : Prop :=
  ∀ (id : Sha256) revision, tables.revisions[id]? = some revision →
    revision.status.isPublished = true → ∀ older, revision.previousRevisionId = some older →
      ∃ previous, tables.revisions[older]? = some previous ∧ Precedes previous revision

variable {before after : ContributionTables}

theorem Descends.writes (descends : before.Descends) {written : ContributionRevisionV1}
    (writes : before.Writes after written)
    (content : ∀ existing, before.revisions[written.revisionId]? = some existing →
      ∃ status, written = existing.withStatus status ∧
        (existing.status.isPublished = true → status.isPublished = true))
    (follows : written.status.isPublished = true → ∀ older,
      written.previousRevisionId = some older →
        ∃ previous, before.revisions[older]? = some previous ∧ Precedes previous written) :
    after.Descends := by
  -- a predecessor may be the revision that was written
  have kept : ∀ {older : Sha256} {revision : ContributionRevisionV1},
      (∃ previous, before.revisions[older]? = some previous ∧ Precedes previous revision) →
      ∃ previous, after.revisions[older]? = some previous ∧ Precedes previous revision := by
    rintro older revision ⟨previous, stored, precedes⟩
    rw [writes]
    split_ifs with same
    · obtain ⟨_, rfl, stays⟩ := content previous (same ▸ stored)
      exact ⟨_, rfl, { precedes with «published» := stays precedes.published }⟩
    · exact ⟨previous, stored, precedes⟩
  intro id revision stored isPublished older previous
  apply kept
  rw [writes] at stored
  split_ifs at stored with same
  · cases stored
    exact follows isPublished older previous
  · exact descends id revision stored isPublished older previous

theorem Descends.withStatus (descends : before.Descends) {existing : ContributionRevisionV1}
    (stored : before.revisions[existing.revisionId]? = some existing)
    {status : ContributionRevisionStatusV1}
    (writes : before.Writes after (existing.withStatus status))
    (stays : status.isPublished = existing.status.isPublished) : after.Descends := by
  refine descends.writes writes ?_ fun isPublished older previous => ?_
  · intro other found
    rw [withStatus_revisionId, stored] at found
    cases found
    exact ⟨status, rfl, fun wasPublished => stays.trans wasPublished⟩
  · obtain ⟨row, found, precedes⟩ :=
      descends _ existing stored (stays.symm.trans isPublished) older previous
    exact ⟨row, found, precedes.published, precedes.scope, precedes.service, precedes.older⟩

theorem Descends.rests_cases (descends : before.Descends) (rests : before.Rests newer older)
    {revision : ContributionRevisionV1} (stored : before.revisions[newer]? = some revision)
    (isPublished : revision.status.isPublished = true) :
    newer = older ∨ ∃ previous, before.revisions[older]? = some previous ∧
      Precedes previous revision := by
  induction rests with
  | refl => exact .inl rfl
  | @tail middle last _ step ih =>
    obtain ⟨between, found, previous⟩ := step
    rcases ih with rfl | ⟨_, storedThere, precedes⟩
    · rw [stored] at found
      cases found
      exact .inr (descends _ revision stored isPublished last previous)
    · rw [storedThere] at found
      cases found
      obtain ⟨final, storedFinal, further⟩ :=
        descends _ between storedThere precedes.published last previous
      exact .inr ⟨final, storedFinal, further.trans precedes⟩

variable {existing candidate : ContributionRevisionV1} {current : ContributionHeadV1}
  (descends : before.Descends)
include descends

theorem Descends.retired (stored : before.revisions[candidate.revisionId]? = some candidate)
    (active : candidate.status = .active) :
    (before.putRevision (candidate.withStatus .retired)).Descends :=
  descends.withStatus stored (writes_putRevision before _) (by rw [active]; rfl)

theorem Descends.restored {previous : ContributionRevisionV1}
    (storedCandidate : before.revisions[candidate.revisionId]? = some candidate)
    (storedPrevious : before.revisions[previous.revisionId]? = some previous)
    (restores : Restores current candidate previous) :
    ((before.putRevision (candidate.withStatus .retired)).putRevision
      (previous.withStatus .active)).Descends := by
  have differs : previous.revisionId ≠ candidate.revisionId := by
    intro same
    rw [same, storedCandidate] at storedPrevious
    cases storedPrevious
    exact lt_irrefl _ restores.older
  refine (descends.retired storedCandidate restores.active).withStatus ?_
    (writes_putRevision _ _) ?_
  · exact (writes_putRevision before _ _).trans ((if_neg differs).trans storedPrevious)
  · rcases restores.revivable with status | status <;> rw [status]
    rfl

variable [RecordDigests] [VersionSyntax]

theorem Descends.published (sound : before.Sound)
    (stored : before.revisions[existing.revisionId]? = some existing)
    (follows : Follows before.heads[(existing.scopeId, existing.serviceId)]? existing) :
    (before.putRevision (existing.withStatus .active)).Descends := by
  refine descends.writes (writes_putRevision before _) ?_ ?_
  · intro other found
    rw [withStatus_revisionId, stored] at found
    cases found
    exact ⟨.active, rfl, fun _ => rfl⟩
  · intro _ older previous
    cases headed : before.heads[(existing.scopeId, existing.serviceId)]? with
    | none =>
      rw [headed] at follows
      cases (show existing.previousRevisionId = none from follows).symm.trans previous
    | some head =>
      rw [headed] at follows
      obtain ⟨newer, names⟩ := follows
      obtain ⟨current, publishes⟩ := sound.headed _ head headed
      have same : older = head.activeRevisionId := Option.some.inj (previous.symm.trans names)
      obtain ⟨scope, service⟩ := Prod.mk.inj publishes.owner
      exact ⟨current, by rw [same]; exact publishes.stored, by rw [publishes.active]; rfl, scope,
        service, publishes.generation.trans_lt newer⟩

theorem Descends.cleared {tombstone : ContributionRevisionV1}
    (stored : before.revisions[candidate.revisionId]? = some candidate)
    (clears : Clears current candidate tombstone)
    (unknown : before.revisions[tombstone.revisionId]? = none) :
    ((before.putRevision (candidate.withStatus .retired)).putRevision tombstone).Descends := by
  have empty := clears.empty
  refine (descends.retired stored clears.active).writes (writes_putRevision _ _) ?_ ?_
  · intro existing found
    rw [writes_putRevision before _ _] at found
    split_ifs at found with same
    · rw [same, withStatus_revisionId, stored] at unknown
      cases unknown
    · rw [unknown] at found
      cases found
  · intro _ older previous
    rw [empty.previous] at previous
    cases previous
    refine ⟨candidate.withStatus .retired, ?_, rfl, empty.scope.symm, empty.service.symm, ?_⟩
    · rw [writes_putRevision before _ _]
      exact if_pos rfl
    · rw [empty.generation]
      exact Nat.lt_succ_self _

theorem Descends.effect (sound : before.Sound) (lawful : before.Lawful call)
    (effect : Effect .sqlite before call after) : after.Descends := by
  cases effect with
  | inserted => exact lawful.elim
  | kept revisions =>
    intro id revision stored isPublished older previous
    rw [revisions] at stored
    obtain ⟨found, there, precedes⟩ := descends id revision stored isPublished older previous
    exact ⟨found, by rw [revisions]; exact there, precedes⟩
  | bundled | observed => exact descends
  | @staged revision _ _ checked unknown =>
    have inserted : (before.putRevision revision).Descends := by
      refine descends.writes (writes_putRevision before revision) ?_ ?_
      · intro existing found
        rw [unknown] at found
        cases found
      · rw [(validateStageBundle_ok checked).2]
        exact nofun
    exact inserted
  | moved stored may =>
    refine descends.withStatus stored (writes_putRevision before _) ?_
    rcases lawful.ends with rfl | rfl
    · rw [active_of_mayBecome_retired may]
      rfl
    · rw [staged_of_mayBecome_aborted may]
      rfl
  | «published» stored _ _ follows => exact descends.published sound stored follows
  | restored storedCandidate storedPrevious _ restores =>
    exact descends.restored storedCandidate storedPrevious restores
  | cleared stored _ clears unknown => exact descends.cleared stored clears (unknown rfl)

end

section

/-- The head of a service rests on the candidates that stand. -/
def Based : Prop :=
  ∀ id candidate, tables.Standing id candidate →
    ∃ head, tables.heads[(candidate.scopeId, candidate.serviceId)]? = some head ∧
      tables.Rests head.activeRevisionId candidate.revisionId

variable {before after : ContributionTables} (based : before.Based)
  (content : before.KeepsContent after)
include based content

theorem Based.standing {id : String} {candidate : ContributionRevisionV1}
    (standing : before.Standing id candidate) :
    ∃ head, before.heads[(candidate.scopeId, candidate.serviceId)]? = some head ∧
      after.Rests head.activeRevisionId candidate.revisionId := by
  obtain ⟨head, headed, rests⟩ := based id candidate standing
  exact ⟨head, headed, content.rests rests⟩

variable [RecordDigests] {existing removed : ContributionRevisionV1}
  {current : ContributionHeadV1}

theorem Based.published
    (follows : Follows before.heads[(existing.scopeId, existing.serviceId)]? existing)
    (shape : after = (before.putRevision (existing.withStatus .active)).putHead
      (.naming existing existing.generation)) : after.Based := by
  rintro id candidate ⟨activated, stored, isPublished⟩
  subst shape
  rw [points_putHead]
  rcases stored_putRevision stored with ⟨_, rfl⟩ | ⟨_, stored⟩
  · exact ⟨.naming existing existing.generation, if_pos rfl, .refl⟩
  · obtain ⟨head, headed, rests⟩ := based.standing content ⟨activated, stored, isPublished⟩
    split_ifs with sameKey
    · -- the new head follows the one that the candidate is under
      rw [sameKey] at headed
      rw [show before.heads[(existing.scopeId, existing.serviceId)]? = some head from
        headed] at follows
      refine ⟨_, rfl, .head ⟨existing.withStatus .active, ?_, follows.2⟩ rests⟩
      exact (writes_putRevision before _ _).trans (if_pos rfl)
    · exact ⟨head, headed, rests⟩

variable [VersionSyntax] (orderly : before.Orderly)
include orderly

theorem Based.restored {previous : ContributionRevisionV1}
    (storedRemoved : before.revisions[removed.revisionId]? = some removed)
    (storedPrevious : before.revisions[previous.revisionId]? = some previous)
    (headedRemoved : before.heads[(removed.scopeId, removed.serviceId)]? = some current)
    (restores : Restores current removed previous)
    (withdrawn : ∃ id, before.Activated id removed.revisionId 3)
    (shape : after = ((before.putRevision (removed.withStatus .retired)).putRevision
      (previous.withStatus .active)).putHead (.naming previous current.generation)) :
    after.Based := by
  rintro id candidate ⟨activated, stored, isPublished⟩
  subst shape
  have apart : candidate.revisionId ≠ removed.revisionId := by
    rintro same
    obtain ⟨activation, found, named, _⟩ := activated
    have far := orderly.rank_of_activated withdrawn found (named.trans same)
    omega
  have standing : ∃ status, before.Standing id (candidate.withStatus status) := by
    rcases stored_putRevision stored with ⟨_, rfl⟩ | ⟨_, stored⟩
    · refine ⟨previous.status, activated, storedPrevious, ?_⟩
      rcases restores.revivable with status | status <;> rw [withStatus_status, status] <;> rfl
    · rcases stored_putRevision stored with ⟨same, _⟩ | ⟨_, stored⟩
      · exact absurd same apart
      · exact ⟨candidate.status, activated, stored, isPublished⟩
  obtain ⟨status, standing⟩ := standing
  obtain ⟨head, headed, rests⟩ := based id _ standing
  rw [points_putHead]
  split_ifs with sameKey
  · -- the candidate is under the revision that was taken back, so under its predecessor
    obtain ⟨scope, service⟩ := Prod.mk.inj
      (sameKey.trans (Prod.ext restores.identity.1 restores.identity.2))
    rw [withStatus_scopeId, withStatus_serviceId, scope, service, headedRemoved] at headed
    cases headed
    rw [restores.names.1] at rests
    rcases rests.cases_head with same | ⟨_, step, below⟩
    · exact absurd same.symm apart
    · have first : before.Succeeds removed.revisionId previous.revisionId :=
        ⟨removed, storedRemoved, restores.lineage⟩
      obtain rfl := first.unique step
      exact ⟨_, rfl, content.rests below⟩
  · exact ⟨head, headed, content.rests rests⟩

theorem Based.cleared {tombstone : ContributionRevisionV1}
    (storedRemoved : before.revisions[removed.revisionId]? = some removed)
    (headedRemoved : before.heads[(removed.scopeId, removed.serviceId)]? = some current)
    (clears : Clears current removed tombstone)
    (unknown : before.revisions[tombstone.revisionId]? = none)
    (shape : after = ((before.putRevision (removed.withStatus .retired)).putRevision
      tombstone).putHead (.naming tombstone tombstone.generation)) : after.Based := by
  rintro id candidate ⟨activated, stored, isPublished⟩
  subst shape
  have buried : Succeeds (((before.putRevision (removed.withStatus .retired)).putRevision
      tombstone).putHead (.naming tombstone tombstone.generation)) tombstone.revisionId
        removed.revisionId :=
    ⟨tombstone, (writes_putRevision _ _ _).trans (if_pos rfl), clears.empty.previous⟩
  have standing : ∃ status, before.Standing id (candidate.withStatus status) := by
    rcases stored_putRevision stored with ⟨same, _⟩ | ⟨_, stored⟩
    · obtain ⟨activation, found, named, _⟩ := activated
      obtain ⟨_, there, _⟩ := orderly.owned id activation found
      rw [named, same, unknown] at there
      cases there
    · rcases stored_putRevision stored with ⟨_, rfl⟩ | ⟨_, stored⟩
      · exact ⟨removed.status, activated, storedRemoved, by
          rw [withStatus_status, clears.active]; rfl⟩
      · exact ⟨candidate.status, activated, stored, isPublished⟩
  obtain ⟨_, standing⟩ := standing
  obtain ⟨head, headed, rests⟩ := based.standing content standing
  rw [points_putHead]
  split_ifs with sameKey
  · obtain ⟨scope, service⟩ := Prod.mk.inj
      (sameKey.trans (Prod.ext clears.empty.scope clears.empty.service))
    rw [withStatus_scopeId, withStatus_serviceId, scope, service, headedRemoved] at headed
    cases headed
    rw [clears.names.1] at rests
    exact ⟨_, rfl, .head buried rests⟩
  · exact ⟨head, headed, rests⟩

theorem Based.effect (lawful : before.Lawful call) (effect : Effect .sqlite before call after) :
    after.Based := by
  cases effect with
  | inserted => exact lawful.elim
  | observed =>
    rintro id candidate ⟨activated, stored, isPublished⟩
    exact based.standing content ⟨activated, stored, isPublished⟩
  | kept revisions heads activations =>
    rintro id candidate ⟨activated, stored, isPublished⟩
    rw [activations] at activated
    rw [revisions] at stored
    rw [heads]
    exact based.standing content ⟨activated, stored, isPublished⟩
  | @bundled activation receipts done =>
    rintro id candidate ⟨⟨now, found, names, within⟩, stored, isPublished⟩
    rw [putBundle_activations] at found
    refine (based id candidate ⟨?_, stored, isPublished⟩)
    split_ifs at found with same
    · cases found
      obtain ⟨existing, there, _⟩ := lawful.1
      have evolves := (putBundle_checked done).1.evolves existing there
      rw [← same] at there
      exact ⟨existing, there, evolves.candidate.symm.trans names, evolves.rank.trans within⟩
    · exact ⟨now, found, names, within⟩
  | staged checked =>
    obtain ⟨status, _, owns, _⟩ := validateStageBundle_checks checked
    rintro id candidate ⟨⟨now, found, names, within⟩, stored, isPublished⟩
    rw [putBundle_activations] at found
    rcases stored_putRevision stored with ⟨_, rfl⟩ | ⟨isNew, stored⟩
    · rw [status] at isPublished
      cases isPublished
    · split_ifs at found with same
      · cases found
        exact absurd (names.symm.trans owns.candidate) isNew
      · exact based.standing content ⟨⟨now, found, names, within⟩, stored, isPublished⟩
  | @moved existing target storedExisting may =>
    rintro id candidate ⟨activated, stored, isPublished⟩
    rcases stored_putRevision stored with ⟨_, rfl⟩ | ⟨_, stored⟩
    · obtain rfl := lawful.ends.resolve_right (by rintro rfl; cases isPublished)
      have standing : before.Standing id existing :=
        ⟨activated, storedExisting, by rw [active_of_mayBecome_retired may]; rfl⟩
      obtain ⟨head, headed, rests⟩ := based.standing content standing
      exact ⟨head, headed, rests⟩
    · exact based.standing content ⟨activated, stored, isPublished⟩
  | «published» _ _ _ follows => exact based.published content follows rfl
  | restored storedRemoved storedPrevious headed restores =>
    exact based.restored content orderly storedRemoved storedPrevious headed restores lawful rfl
  | cleared storedRemoved headed clears unknown =>
    exact based.cleared content orderly storedRemoved headed clears (unknown rfl) rfl

end

section

variable [RecordDigests] [VersionSyntax] {before after : ContributionTables}

theorem Published.effect {id : Sha256} (isPublished : before.Published id)
    (lawful : before.Lawful call) (effect : Effect .sqlite before call after) :
    after.Published id := by
  obtain ⟨revision, stored, status⟩ := isPublished
  -- one revision is written in a published status, or it was not published
  have written : ∀ {tables : ContributionTables} other,
      tables.Published id → (id = other.revisionId → other.status.isPublished = true) →
        (tables.putRevision other).Published id := by
    rintro tables other ⟨found, there, was⟩ stays
    by_cases same : id = other.revisionId
    · exact ⟨other, (writes_putRevision _ _ _).trans (if_pos same), stays same⟩
    · exact ⟨found, (writes_putRevision _ _ _).trans ((if_neg same).trans there), was⟩
  cases effect with
  | inserted => exact lawful.elim
  | kept revisions => exact ⟨revision, (revisions id).trans stored, status⟩
  | bundled | observed => exact ⟨revision, stored, status⟩
  | @staged other _ _ _ unknown =>
    refine written other ⟨revision, stored, status⟩ fun same => ?_
    rw [same, unknown] at stored
    cases stored
  | moved found may =>
    refine written _ ⟨revision, stored, status⟩ fun same => ?_
    rw [same, withStatus_revisionId, found] at stored
    cases stored
    rcases lawful.ends with rfl | rfl
    · rfl
    · rw [staged_of_mayBecome_aborted may] at status
      cases status
  | @published existing =>
    exact written (existing.withStatus .active) ⟨revision, stored, status⟩ fun _ => rfl
  | @restored current removed previous =>
    exact written (previous.withStatus .active)
      (written (removed.withStatus .retired) ⟨revision, stored, status⟩ fun _ => rfl) fun _ => rfl
  | @cleared current removed tombstone _ _ _ clears =>
    exact written tombstone (written (removed.withStatus .retired) ⟨revision, stored, status⟩
      fun _ => rfl) fun _ => by rw [clears.empty.active]; rfl

theorem Effect.active_of_replaced (orderly : before.Orderly) (descends : before.Descends)
    (based : before.Based) (lawful : before.Lawful call)
    (effect : Effect .sqlite before call after) {id : String}
    {candidate : ContributionRevisionV1} (standing : before.Standing id candidate)
    (replaced : candidate.previousRevisionId = some older) {now : ContributionRevisionV1}
    (stored : after.revisions[older]? = some now) (active : now.status = .active) :
    ∃ revision, before.revisions[older]? = some revision ∧ revision.status = .active := by
  obtain ⟨_, storedPrevious, precedes⟩ :=
    descends _ candidate standing.stored standing.published older replaced
  obtain ⟨head, headed, rests⟩ := based id candidate standing
  -- the head's revision is not older than the candidate
  obtain ⟨top, publishes⟩ := orderly.sound.headed _ head headed
  have above : candidate.generation ≤ top.generation := by
    rcases descends.rests_cases rests publishes.stored (by rw [publishes.active]; rfl) with
      same | ⟨found, there, below⟩
    · have equal := publishes.stored
      rw [same, standing.stored] at equal
      cases equal
      exact le_rfl
    · rw [standing.stored] at there
      cases there
      exact below.older.le
  cases effect with
  | inserted => exact lawful.elim
  | kept revisions =>
    rw [revisions] at stored
    exact ⟨now, stored, active⟩
  | bundled | observed => exact ⟨now, stored, active⟩
  | staged checked =>
    have was := active_of_putRevision stored active
      (by rw [(validateStageBundle_ok checked).2]; exact nofun)
    exact ⟨now, was.1, active⟩
  | moved =>
    have was := active_of_putRevision stored active
      (by rcases lawful.ends with rfl | rfl <;> exact nofun)
    exact ⟨now, was.1, active⟩
  | «published» found _ _ follows =>
    rcases stored_putRevision stored with ⟨same, _⟩ | ⟨_, stored⟩
    · -- it would have to follow a head that is newer
      rw [same, withStatus_revisionId, found] at storedPrevious
      cases storedPrevious
      rw [precedes.scope, precedes.service, headed] at follows
      have newer := follows.1
      have below := precedes.older
      have within := publishes.generation
      omega
    · exact ⟨now, stored, active⟩
  | @restored _ removed _ _ storedRemoved found headedRemoved restores =>
    rcases stored_putRevision stored with ⟨same, _⟩ | ⟨_, stored⟩
    · exfalso
      rw [same, withStatus_revisionId, found] at storedPrevious
      cases storedPrevious
      rw [← precedes.scope, ← precedes.service, restores.identity.1, restores.identity.2,
        headedRemoved] at headed
      cases headed
      rw [restores.names.1] at rests
      rcases rests.cases_head with itself | ⟨_, step, further⟩
      · obtain ⟨_, there, named, _⟩ := standing.activated
        have far := orderly.rank_of_activated lawful there (named.trans itself.symm)
        omega
      · obtain rfl := step.unique ⟨removed, storedRemoved, restores.lineage⟩
        rcases descends.rests_cases further found precedes.published with
          itself | ⟨_, there, below⟩
        · rw [itself, standing.stored] at found
          cases found
          exact lt_irrefl _ precedes.older
        · rw [standing.stored] at there
          cases there
          exact lt_asymm precedes.older below.older
    · exact ⟨now, (active_of_putRevision stored active nofun).1, active⟩
  | cleared _ _ _ unknown =>
    rcases stored_putRevision stored with ⟨same, _⟩ | ⟨_, stored⟩
    · rw [same, unknown rfl] at storedPrevious
      cases storedPrevious
    · exact ⟨now, (active_of_putRevision stored active nofun).1, active⟩

end

/-- Only the head's revision and its predecessor are active in a service. -/
def Alone : Prop :=
  ∀ id revision, tables.revisions[id]? = some revision →
    revision.status = .active →
      ∃ head, tables.heads[(revision.scopeId, revision.serviceId)]? = some head ∧
        (head.activeRevisionId = id ∨ tables.Succeeds head.activeRevisionId id)

def IsActive (id : Sha256) : Prop :=
  ∃ revision ∈ tables.revisions[id]?, revision.status = .active
deriving Decidable

/-- The predecessor of the head's revision is no longer active. -/
def Replaced (key : String × String) : Prop :=
  ∀ head ∈ tables.heads[key]?, ∀ revision ∈ tables.revisions[head.activeRevisionId]?,
    ∀ older ∈ revision.previousRevisionId, ¬ tables.IsActive older
deriving Decidable

/-- A candidate is published when the revision that it replaces has replaced its own
predecessor. -/
def PublishesAlone (call : ContributionCall) : Prop :=
  ∀ revision ∈ call.publishes, tables.Replaced (revision.scopeId, revision.serviceId)
deriving Decidable

variable {before after : ContributionTables}

theorem Alone.named_or_previous (alone : before.Alone) {current : ContributionHeadV1}
    {top revision : ContributionRevisionV1} {id : Sha256}
    (storedTop : before.revisions[top.revisionId]? = some top)
    (headed : before.heads[(top.scopeId, top.serviceId)]? = some current)
    (names : current.activeRevisionId = top.revisionId)
    (stored : before.revisions[id]? = some revision) (active : revision.status = .active)
    (scope : revision.scopeId = top.scopeId) (service : revision.serviceId = top.serviceId) :
    id = top.revisionId ∨ top.previousRevisionId = some id := by
  obtain ⟨_, there, near⟩ := alone id revision stored active
  rw [scope, service, headed] at there
  cases there
  rw [names] at near
  rcases near with same | ⟨_, found, older⟩
  · exact .inl same.symm
  · rw [storedTop] at found
    cases found
    exact .inr older

variable [RecordDigests] [VersionSyntax]

theorem Alone.effect (alone : before.Alone) (lawful : before.Lawful call)
    (effect : Effect .sqlite before call after) (quiet : before.PublishesAlone call) :
    after.Alone := by
  have content := effect.keepsContent
  -- an active revision of a service whose head was kept
  have kept : ∀ {id : Sha256} {revision : ContributionRevisionV1},
      before.revisions[id]? = some revision → revision.status = .active →
      after.heads[(revision.scopeId, revision.serviceId)]? =
        before.heads[(revision.scopeId, revision.serviceId)]? →
      ∃ head, after.heads[(revision.scopeId, revision.serviceId)]? = some head ∧
        (head.activeRevisionId = id ∨ after.Succeeds head.activeRevisionId id) := by
    intro id revision stored active same
    obtain ⟨head, headed, near⟩ := alone id revision stored active
    exact ⟨head, same.trans headed, near.imp_right content.succeeds⟩
  intro id revision stored active
  cases effect with
  | inserted => exact lawful.elim
  | kept revisions heads =>
    rw [revisions] at stored
    exact kept stored active (heads _)
  | bundled | observed => exact kept stored active rfl
  | staged checked =>
    have was := active_of_putRevision stored active
      (by rw [(validateStageBundle_ok checked).2]; exact nofun)
    exact kept was.1 active rfl
  | moved =>
    have was := active_of_putRevision stored active
      (by rcases lawful.ends with rfl | rfl <;> exact nofun)
    exact kept was.1 active rfl
  | @published existing _ _ _ _ follows =>
    rcases stored_putRevision stored with ⟨isNew, rfl⟩ | ⟨_, stored⟩
    · exact ⟨_, (points_putHead _ _ _).trans (if_pos rfl), .inl isNew.symm⟩
    · by_cases sameKey : (revision.scopeId, revision.serviceId) =
        (existing.scopeId, existing.serviceId)
      · refine ⟨_, (points_putHead _ _ _).trans (if_pos sameKey), .inr ?_⟩
        obtain ⟨head, headed, near⟩ := alone id revision stored active
        rw [sameKey] at headed
        rw [headed] at follows
        rcases near with names | ⟨current, there, older⟩
        · refine ⟨existing.withStatus .active, (writes_putRevision before _ _).trans (if_pos rfl),
            ?_⟩
          rw [← names]
          exact follows.2
        · exact absurd ⟨revision, stored, active⟩ (quiet _ rfl head headed current there id older)
      · exact kept stored active ((points_putHead _ _ _).trans (if_neg sameKey))
  | @restored current removed previous _ storedRemoved _ headed restores =>
    rcases stored_putRevision stored with ⟨isPrevious, rfl⟩ | ⟨isPrevious, stored⟩
    · exact ⟨_, (points_putHead _ _ _).trans (if_pos rfl), .inl isPrevious.symm⟩
    · obtain ⟨was, isRemoved⟩ := active_of_putRevision stored active nofun
      refine kept was active ((points_putHead _ _ _).trans (if_neg fun sameKey => ?_))
      -- a third active revision of the service would be neither
      obtain ⟨scope, service⟩ := Prod.mk.inj sameKey
      rcases alone.named_or_previous storedRemoved headed restores.names.1 was active
        (scope.trans restores.identity.1) (service.trans restores.identity.2) with same | older
      · exact isRemoved same
      · exact isPrevious (Option.some.inj (older.symm.trans restores.lineage))
  | @cleared current removed tombstone _ storedRemoved headed clears =>
    rcases stored_putRevision stored with ⟨isTombstone, rfl⟩ | ⟨_, stored⟩
    · exact ⟨_, (points_putHead _ _ _).trans (if_pos rfl), .inl isTombstone.symm⟩
    · obtain ⟨was, isRemoved⟩ := active_of_putRevision stored active nofun
      refine kept was active ((points_putHead _ _ _).trans (if_neg fun sameKey => ?_))
      obtain ⟨scope, service⟩ := Prod.mk.inj sameKey
      rcases alone.named_or_previous storedRemoved headed clears.names.1 was active
        (scope.trans clears.empty.scope) (service.trans clears.empty.service) with same | older
      · exact isRemoved same
      · cases clears.first.symm.trans older

end ContributionTables

/-- Published revisions descend, and heads rest on what stands. -/
structure ContributionTables.Lineage (tables : ContributionTables) : Prop where
  descends : tables.Descends
  based : tables.Based

variable [RecordDigests] [VersionSyntax] [ProjectionDigests]
variable {permits : contributionPlatform.Discipline} {world : ContributionWorld}
  {config : contributionPlatform.Config}

theorem contributions_lineage (run : Run permits (contributionsIdle world) config) :
    config.state.tables.Lineage := by
  refine contributions_induct ?_ ?_ run
  · refine ⟨fun _ _ stored => by simp [empty] at stored, ?_⟩
    rintro _ _ ⟨⟨_, found, _⟩, _⟩
    simp [empty] at found
  · rintro before index loaded label call earlier _ performs ⟨descends, based⟩
    have orderly := (contributions_orderly earlier).1
    have lawful := contributions_permitted earlier performs
    have effect := exec_effect orderly.sound.keyed .sqlite call
    exact ⟨descends.effect orderly.sound lawful effect,
      based.effect effect.keepsContent orderly lawful effect⟩

end UntitledOJ
