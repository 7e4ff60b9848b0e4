import UntitledOJ.ContributionProtocol

/-!
# Published routes do not conflict

A candidate is staged only when its routes avoid those of all live revisions in its scope.  So live
revisions of different services never conflict, as long as a retired one is made active again only
while its routes are free.
-/

namespace UntitledOJ

open Contribution ContributionTables Platform List

def ContributionOperationRouteV1.Conflicts (first second : ContributionOperationRouteV1) : Prop :=
  first.audience = second.audience ∧ methodsOverlap first.method second.method = true ∧
    routeTemplatesOverlap first.path second.path = .ok true
deriving Decidable

theorem methodsOverlap_comm (left right : ContributionHttpMethodV1) :
    methodsOverlap left right = methodsOverlap right left := by
  cases left <;> cases right <;> rfl

theorem overlaps_comm (left right : RouteSegment) : left.overlaps right = right.overlaps left := by
  cases left <;> cases right <;> simp [RouteSegment.overlaps, eq_comm]

theorem zip_overlaps_comm (left right : List RouteSegment) :
    ((left.zip right).all fun pair => pair.1.overlaps pair.2) =
      (right.zip left).all fun pair => pair.1.overlaps pair.2 := by
  induction left generalizing right with
  | nil => cases right <;> rfl
  | cons segment segments ih =>
    cases right with
    | nil => rfl
    | cons other others =>
      simp only [zip_cons_cons, all_cons, ih others, overlaps_comm segment other]

theorem routeTemplatesOverlap_comm {left right : String} {overlap : Bool}
    (found : routeTemplatesOverlap left right = .ok overlap) :
    routeTemplatesOverlap right left = .ok overlap := by
  obtain ⟨first, parsed, found⟩ := ok_of_bind found
  obtain ⟨second, parsedOther, found⟩ := ok_of_bind found
  cases found
  rw [routeTemplatesOverlap, parsedOther, parsed]
  show Except.ok _ = Except.ok _
  rw [zip_overlaps_comm second first]
  simp only [eq_comm]

/-- The comparison found that no request matches both routes. -/
def ContributionOperationRouteV1.Avoids (first second : ContributionOperationRouteV1) : Prop :=
  first.conflictsWith second = .ok false
deriving Decidable

variable {first second : ContributionOperationRouteV1}

theorem ContributionOperationRouteV1.Avoids.symm (avoids : first.Avoids second) :
    second.Avoids first := by
  unfold Avoids conflictsWith at avoids ⊢
  rw [methodsOverlap_comm second.method]
  simp only [eq_comm (a := second.audience)]
  split_ifs at avoids ⊢ with applies
  · exact routeTemplatesOverlap_comm avoids
  · rfl

theorem ContributionOperationRouteV1.Avoids.not_conflicts (avoids : first.Avoids second) :
    ¬ first.Conflicts second := by
  rintro ⟨audience, methods, paths⟩
  unfold Avoids conflictsWith at avoids
  rw [if_pos (by simp [audience, methods]), paths] at avoids
  cases avoids

def ContributionRevisionV1.RoutesAvoid (first second : ContributionRevisionV1) : Prop :=
  ∀ route ∈ first.operationRoutes, ∀ other ∈ second.operationRoutes, route.Avoids other
deriving Decidable

theorem ContributionRevisionV1.RoutesAvoid.symm {first second : ContributionRevisionV1}
    (avoid : first.RoutesAvoid second) : second.RoutesAvoid first :=
  fun route member other listed => (avoid other listed route member).symm

/-- The revision that a call makes active again. -/
def ContributionCall.revives : ContributionCall → Option Sha256
  | .restoreHead _ _ previousId => some previousId
  | _ => none

namespace ContributionTables

/-- The routes of the revision avoid those of the live revisions of other services. -/
def RoutesFree (tables : ContributionTables) (revision : ContributionRevisionV1) : Prop :=
  ∀ (id : Sha256) other, tables.revisions[id]? = some other →
    other.scopeId = revision.scopeId → other.serviceId ≠ revision.serviceId →
      other.status.isLive = true → revision.RoutesAvoid other

instance (tables : ContributionTables) (revision : ContributionRevisionV1) :
    Decidable (tables.RoutesFree revision) :=
  decidable_of_iff (∀ other ∈ tableRows tables.revisions, other.scopeId = revision.scopeId →
      other.serviceId ≠ revision.serviceId → other.status.isLive = true →
        revision.RoutesAvoid other)
    ⟨fun free _ other stored => free other (mem_tableRows.mpr ⟨_, stored⟩),
      fun free other listed => by
        obtain ⟨id, stored⟩ := mem_tableRows.mp listed
        exact free id other stored⟩

def LiveApart (tables : ContributionTables) : Prop :=
  ∀ (id : Sha256) revision, tables.revisions[id]? = some revision →
    revision.status.isLive = true → tables.RoutesFree revision

variable {revision : ContributionRevisionV1}

section

theorem exists_of_mapM {Error α β : Type} {f : α → Except Error β} {items : List α}
    {results : List β} (mapped : items.mapM f = .ok results) {item : α} (member : item ∈ items) :
    ∃ result ∈ results, f item = .ok result := by
  induction items generalizing results with
  | nil => cases member
  | cons first rest ih =>
    rw [mapM_cons] at mapped
    obtain ⟨result, here, mapped⟩ := ok_of_bind mapped
    obtain ⟨_, later, mapped⟩ := ok_of_bind mapped
    cases mapped
    rcases mem_cons.mp member with rfl | inRest
    · exact ⟨result, mem_cons_self, here⟩
    · obtain ⟨found, listed, same⟩ := ih later inRest
      exact ⟨found, mem_cons_of_mem _ listed, same⟩

variable {candidate : ContributionRevisionV1}

theorem routesAvoid_of_revisionCollisions (none : revisionCollisions candidate revision = .ok []) :
    candidate.RoutesAvoid revision := by
  obtain ⟨found, searched, none⟩ := ok_of_bind none
  have empty : found.flatten.flatten = [] := Except.ok.inj none
  intro route member other listed
  obtain ⟨row, inFound, compared⟩ := exists_of_mapM searched member
  obtain ⟨collisions, inRow, collided⟩ := exists_of_mapM compared listed
  obtain ⟨conflict, decided, collided⟩ := ok_of_bind collided
  have clear : collisions = [] := by
    have inner := flatten_eq_nil_iff.mp empty
    exact inner collisions (mem_flatten.mpr ⟨row, inFound, inRow⟩)
  rw [clear] at collided
  cases conflict with
  | false => exact decided
  | true => cases Except.ok.inj collided

theorem mem_staging {tables : ContributionTables} {id : Sha256} {scopeId : String}
    (stored : tables.revisions[id]? = some revision) (scope : revision.scopeId = scopeId) :
    revision ∈ tables.staging .sqlite scopeId := by
  simp only [staging, contributionRevisions, mem_insertionSort, mem_filter, Option.all_none,
    Bool.and_true, decide_eq_true_eq]
  exact ⟨mem_tableRows.mpr ⟨id, stored⟩, scope⟩

variable [RecordDigests] [VersionSyntax] {live : List ContributionRevisionV1}

theorem routesAvoid_of_stageRouteCollisions {collisions : List ContributionRouteCollisionV1}
    (checked : stageRouteCollisions candidate live = .ok collisions) (none : collisions = [])
    (member : revision ∈ live) (must : mustAvoid candidate revision = true) :
    candidate.RoutesAvoid revision := by
  obtain ⟨_, _, checked⟩ := ok_of_bind checked
  obtain ⟨_, checked⟩ := ok_of_rejectIf_bind checked
  obtain ⟨found, searched, checked⟩ := ok_of_bind checked
  have sorted := Except.ok.inj checked
  rw [none] at sorted
  have empty : found.flatten = [] := by
    have same := perm_insertionSort
      (fun first second : ContributionRouteCollisionV1 => first.precedes second = true)
      found.flatten
    rw [sorted] at same
    exact same.symm.eq_nil
  obtain ⟨own, listed, compared⟩ := exists_of_mapM searched member
  obtain ⟨_, _, compared⟩ := ok_of_bind compared
  rw [if_pos must, flatten_eq_nil_iff.mp empty own listed] at compared
  exact routesAvoid_of_revisionCollisions compared

theorem validateStageAgainstState_ok {activation : ContributionActivationV1}
    {head : Option ContributionHeadV1}
    (passed : validateStageAgainstState revision activation head live = .ok ()) :
    (∀ previous, revision.previousRevisionId = some previous →
        ∃ current, head = some current ∧ current.activeRevisionId = previous) ∧
      stageRouteCollisions revision live = .ok [] := by
  unfold validateStageAgainstState at passed
  split at passed
  · cases passed
  · obtain ⟨extended, passed⟩ := ok_of_require_bind passed
    obtain ⟨_, passed⟩ := ok_of_require_bind passed
    obtain ⟨collisions, checked, passed⟩ := ok_of_bind passed
    have none : collisions = [] := by simpa using of_require passed
    refine ⟨?_, by rw [← none]; exact ok_of_asInvalid checked⟩
    intro previous follows
    cases head with
    | none =>
      simp only [extendsHistory, follows, Bool.and_eq_true] at extended
      cases extended.2
    | some current =>
      simp only [extendsHistory, follows, Bool.and_eq_true, decide_eq_true_eq] at extended
      exact ⟨current, rfl, (Option.some.inj extended.2).symm⟩

end

variable {before after : ContributionTables} {written : ContributionRevisionV1}

theorem LiveApart.writes (apart : before.LiveApart) (writes : before.Writes after written)
    (free : written.status.isLive = true → before.RoutesFree written) : after.LiveApart := by
  intro id revision stored live otherId other storedOther scope service liveOther
  rw [writes] at stored storedOther
  split_ifs at stored with isWritten <;> split_ifs at storedOther with otherWritten
  · cases stored
    cases storedOther
    exact absurd rfl service
  · cases stored
    exact free live otherId other storedOther scope service liveOther
  · cases storedOther
    exact (free liveOther id revision stored scope.symm service.symm live).symm
  · exact apart id revision stored live otherId other storedOther scope service liveOther

theorem RoutesFree.retire (free : before.RoutesFree revision) (writes : before.Writes after written)
    (retired : written.status.isLive = false) : after.RoutesFree revision := by
  intro id other stored scope service live
  rw [writes] at stored
  split_ifs at stored
  · cases stored
    rw [retired] at live
    cases live
  · exact free id other stored scope service live

theorem LiveApart.free_of_live (apart : before.LiveApart) {existing : ContributionRevisionV1}
    (stored : before.revisions[existing.revisionId]? = some existing)
    (live : existing.status.isLive = true) (status : ContributionRevisionStatusV1) :
    before.RoutesFree (existing.withStatus status) :=
  apart _ existing stored live

variable [RecordDigests] [VersionSyntax] {call : ContributionCall}

/-- A revision that may be made active again: its routes are still free. -/
def Revivable (tables : ContributionTables) (previousId : Sha256) : Prop :=
  ∀ previous, tables.revisions[previousId]? = some previous → previous.status = .retired →
    tables.RoutesFree previous
deriving Decidable

def RestoresFree (tables : ContributionTables) (call : ContributionCall) : Prop :=
  ∀ previousId ∈ call.revives, tables.Revivable previousId
deriving Decidable

theorem LiveApart.stage (sound : before.Sound) (apart : before.LiveApart)
    {activation : ContributionActivationV1}
    (unknown : before.revisions[revision.revisionId]? = none)
    (admitted : validateStageAgainstState revision activation
      (before.contributionHead revision.scopeId revision.serviceId)
      (before.staging .sqlite revision.scopeId) = .ok ()) :
    (before.putRevision revision).LiveApart := by
  refine apart.writes (writes_putRevision before revision)
    fun _ id other stored scope service live => ?_
  obtain ⟨follows, checked⟩ := validateStageAgainstState_ok admitted
  refine routesAvoid_of_stageRouteCollisions checked rfl (mem_staging stored scope) ?_
  have key := (sound.keyed id other stored).1
  have differs : other.revisionId ≠ revision.revisionId := by
    intro same
    rw [← key, same, unknown] at stored
    cases stored
  -- the predecessor is headed by the service itself
  have notPrevious : revision.previousRevisionId ≠ some other.revisionId := by
    intro previous
    obtain ⟨current, headed, names⟩ := follows _ previous
    obtain ⟨_, publishes⟩ := sound.headed _ current headed
    have same := publishes.stored
    rw [names, key, stored] at same
    cases same
    exact service (Prod.mk.inj publishes.owner).2
  simp [mustAvoid, scope, differs, notPrevious, live]

theorem LiveApart.exec (orderly : before.Orderly) (apart : before.LiveApart)
    (lawful : before.Lawful call) (restores : before.RestoresFree call) :
    (call.exec .sqlite before).2.LiveApart := by
  have effect := exec_effect orderly.sound.keyed .sqlite call
  generalize (call.exec .sqlite before).2 = after at effect ⊢
  have retire (candidate : ContributionRevisionV1) :
      (before.putRevision (candidate.withStatus .retired)).LiveApart :=
    apart.writes (writes_putRevision before _) nofun
  cases effect with
  | kept revisions =>
    intro id revision stored live other found there
    rw [revisions] at stored there
    exact apart id revision stored live other found there
  | inserted => exact lawful.elim
  | bundled | observed => exact apart
  | staged _ unknown admitted => exact apart.stage orderly.sound unknown admitted
  | @published existing _ stored live =>
    refine apart.writes (writes_putRevision before (existing.withStatus .active)) fun _ => ?_
    refine apart.free_of_live stored ?_ .active
    rcases live with status | status <;> rw [status] <;> rfl
  | moved =>
    refine apart.writes (writes_putRevision before _) fun live => ?_
    rcases lawful.ends with rfl | rfl <;> cases live
  | @restored _ candidate previous _ _ storedPrevious _ restored =>
    refine (retire candidate).writes (writes_putRevision _ (previous.withStatus .active))
      fun _ => ?_
    refine RoutesFree.retire ?_ (writes_putRevision before (candidate.withStatus .retired)) rfl
    rcases restored.revivable with active | retired
    · exact apart.free_of_live storedPrevious (by rw [active]; rfl) .active
    · exact restores _ rfl previous storedPrevious retired
  | @cleared _ candidate tombstone _ _ _ clears =>
    refine (retire candidate).writes (writes_putRevision _ tombstone)
      fun _ _ _ _ _ _ _ route member => ?_
    rw [clears.empty.routes] at member
    cases member

end ContributionTables

section

variable [RecordDigests] [VersionSyntax] [ProjectionDigests]

def ContributionRequest.call? : ContributionRequest → Option ContributionCall
  | (_, .repository call) => some call
  | _ => none

def ContributionPlane.RevivesFree (plane : ContributionPlane) (request : ContributionRequest) :
    Prop :=
  ∀ call ∈ request.call?, plane.tables.RestoresFree call
deriving Decidable

/-- Every ABORT that restores a retired revision finds its routes free. -/
def restoresFreeRoutes : contributionPlatform.Discipline :=
  @callsMeet contributionPlatform fun request plane => plane.RevivesFree request

instance : restoresFreeRoutes.Checkable :=
  letI (request : contributionPlatform.Call) (plane : contributionPlatform.State) :=
    ContributionPlane.instDecidableRevivesFree plane request
  inferInstanceAs (Discipline.Checkable
    (@callsMeet contributionPlatform fun request plane => plane.RevivesFree request))

variable {world : ContributionWorld} {config : contributionPlatform.Config}

theorem contributions_liveApart (run : Run restoresFreeRoutes (contributionsIdle world) config) :
    config.state.tables.LiveApart := by
  refine contributions_induct (fun _ _ stored => by simp [ContributionTables.empty] at stored)
    ?_ run
  intro before index loaded label call earlier permitted performs apart
  exact apart.exec (contributions_orderly earlier).1 (contributions_permitted earlier performs)
    (threadsMeet_performs permitted performs call rfl)

/-- Heads of different services in one scope publish no two routes that conflict. -/
theorem published_routes_apart (run : Run restoresFreeRoutes (contributionsIdle world) config)
    {scopeId serviceId otherServiceId : String} (services : serviceId ≠ otherServiceId)
    {head otherHead : ContributionHeadV1} {revision otherRevision : ContributionRevisionV1}
    (headed : config.state.tables.contributionHead scopeId serviceId = some head)
    (otherHeaded : config.state.tables.contributionHead scopeId otherServiceId = some otherHead)
    (stored : config.state.tables.revisions[head.activeRevisionId]? = some revision)
    (otherStored : config.state.tables.revisions[otherHead.activeRevisionId]? =
      some otherRevision) :
    ∀ route ∈ revision.operationRoutes, ∀ other ∈ otherRevision.operationRoutes,
      ¬ route.Conflicts other := by
  have sound := (contributions_orderly run).1.sound
  have apart := contributions_liveApart run
  obtain ⟨_, publishes⟩ := sound.headed _ head headed
  obtain ⟨_, otherPublishes⟩ := sound.headed _ otherHead otherHeaded
  cases stored.symm.trans publishes.stored
  cases otherStored.symm.trans otherPublishes.stored
  obtain ⟨scope, service⟩ := Prod.mk.inj publishes.owner
  obtain ⟨otherScope, otherService⟩ := Prod.mk.inj otherPublishes.owner
  intro route member other listed
  refine (apart _ revision stored (by rw [publishes.active]; rfl) _ otherRevision otherStored
    (otherScope.trans scope.symm) ?_ (by rw [otherPublishes.active]; rfl) route member other
      listed).not_conflicts
  rw [service, otherService]
  exact services.symm

end

namespace ContributionScenario

scoped instance smallProjections : ProjectionDigests where
  projectionDigest projection :=
    ⟨Fin.ofNat _ (3 + 4 * projection.revisions.foldl
      (fun total published => 65536 * total + published.head.etag.value.val)
        projection.acknowledgements.length)⟩
  targetDigest digest target := ⟨Fin.ofNat _ (4 * (digest.value.val + target.asStr.utf8ByteSize))⟩

def candidateOf (serviceId : String) (generation : Nat) (previous : Option Sha256)
    (paths : List String) : ContributionRevisionV1 :=
  let content : RevisionHashMaterial :=
    { (revisionOf serviceId generation previous paths).toRevisionHashMaterial with
      scopeId := contributionScopeId
      deploymentId := serviceId }
  .staged content (canonicalSha256 (.revision content))

def healthyWorld : ContributionWorld where
  runtimeInstance deploymentId :=
    some ⟨deploymentId, some ⟨0⟩, true, true, true, 1, false, false, false, none⟩
  currentRuntime deploymentId :=
    some ⟨deploymentId, some ⟨0⟩, true, true, true, 1, false, false, false, none⟩
  operation _ := none
  job _ := none

def works (operationId jobId : String) (phase : ContributionJobPhase)
    (candidate : ContributionRevisionV1) (expected : Option Sha256) (steps : Nat) :
    List contributionPlatform.Action :=
  .event (.enqueue jobId operationId ⟨phase, operationId, candidate, expected, none⟩ 1) ::
    .start (.work jobId) :: List.replicate steps (.step 0)

def publishedAt (revision : ContributionRevisionV1) (generation : Nat) : PublishedRevision :=
  ⟨revision.withStatus .active, .naming revision generation, true, none⟩

def confirms (activationId : String) (candidate : ContributionRevisionV1)
    (published : List PublishedRevision) (steps : Nat) (target : ProjectionTargetV1) :
    List contributionPlatform.Action :=
  let obligation : ContributionProjectionAcknowledgementV1 :=
    ⟨activationId, candidate.serviceId, candidate.revisionId, candidate.generation, .active,
      candidate.revisionId, candidate.generation⟩
  let projection : ContributionProjection := ⟨contributionScopeId, [obligation], published⟩
  .start (.acknowledge ⟨true, .verified, contributionAckSchemaVersion, target,
    contributionScopeId, projectionDigest projection, [obligation]⟩) ::
      List.replicate steps (.step 0)

def oldRoutes : ContributionRevisionV1 := candidateOf "a" 1 none ["/u"]

def newRoutes : ContributionRevisionV1 := candidateOf "a" 2 (some oldRoutes.revisionId) []

def neighbour (path : String) : ContributionRevisionV1 := candidateOf "bb" 1 none [path]

/-- Operation 1 activates the old routes, and operation 2 replaces them. -/
def routesReplaced : List contributionPlatform.Action :=
  works "1" "1p" .prepare oldRoutes none 15 ++ works "1" "1c" .commit oldRoutes none 22 ++
    confirms "1" oldRoutes [publishedAt oldRoutes 1] 11 .gateway ++
    confirms "1" oldRoutes [publishedAt oldRoutes 1] 11 .auth ++
    works "1" "1g" .ackGate oldRoutes none 18 ++
    works "2" "2p" .prepare newRoutes (some (etagOf oldRoutes)) 15 ++
    works "2" "2c" .commit newRoutes (some (etagOf oldRoutes)) 23 ++
    confirms "2" newRoutes [publishedAt newRoutes 2] 12 .gateway ++
    confirms "2" newRoutes [publishedAt newRoutes 2] 12 .auth ++
    works "2" "2g" .ackGate newRoutes (some (etagOf oldRoutes)) 21

/-- Operation 3 publishes a route of the other service, and then operation 2 is
aborted. -/
def replacementAborted (path : String) : List contributionPlatform.Action :=
  routesReplaced ++ works "3" "3p" .prepare (neighbour path) none 15 ++
    works "3" "3c" .commit (neighbour path) none 24 ++
    works "2" "2a" .abort newRoutes (some (etagOf oldRoutes)) 14

def ShowsBothRoutes (path : String) (config : contributionPlatform.Config) : Prop :=
  config.state.tables.contributionHead contributionScopeId "a" = some (.naming oldRoutes 2) ∧
    config.state.tables.contributionHead contributionScopeId "bb" =
      some (.naming (neighbour path) 1) ∧
    config.state.tables.revisions[oldRoutes.revisionId]? = some (oldRoutes.withStatus .active) ∧
    config.state.tables.revisions[(neighbour path).revisionId]? =
      some ((neighbour path).withStatus .active)
deriving Decidable

/-- The other service has published another route when the old routes are restored. -/
theorem restored_routes_apart :
    ∃ config, Run restoresFreeRoutes (contributionsIdle healthyWorld) config ∧
      config.state.tables.contributionHead contributionScopeId "a" = some (.naming oldRoutes 2) ∧
      config.state.tables.contributionHead contributionScopeId "bb" =
        some (.naming (neighbour "/v") 1) ∧
      ∀ route ∈ oldRoutes.operationRoutes, ∀ other ∈ (neighbour "/v").operationRoutes,
        ¬ route.Conflicts other := by
  obtain ⟨config, run, head, otherHead, stored, otherStored⟩ :=
    exists_run_of_play restoresFreeRoutes (show ∃ config ∈ play restoresFreeRoutes
      (contributionsIdle healthyWorld) (replacementAborted "/v"), ShowsBothRoutes "/v" config by
        decide +kernel)
  have apart := published_routes_apart run (by decide) head otherHead stored otherStored
  exact ⟨config, run, head, otherHead, apart⟩

/-- The other service has published the same route by the time the old routes are
restored. -/
theorem restored_routes_conflict :
    ∃ config, Run anySchedule (contributionsIdle healthyWorld) config ∧
      config.state.tables.contributionHead contributionScopeId "a" = some (.naming oldRoutes 2) ∧
      config.state.tables.contributionHead contributionScopeId "bb" =
        some (.naming (neighbour "/u") 1) ∧
      config.state.tables.revisions[oldRoutes.revisionId]? = some (oldRoutes.withStatus .active) ∧
      config.state.tables.revisions[(neighbour "/u").revisionId]? =
        some ((neighbour "/u").withStatus .active) ∧
      ∃ route ∈ oldRoutes.operationRoutes, ∃ other ∈ (neighbour "/u").operationRoutes,
        route.Conflicts other := by
  obtain ⟨config, run, head, otherHead, stored, otherStored⟩ :=
    exists_run_of_play anySchedule (show ∃ config ∈ play anySchedule
      (contributionsIdle healthyWorld) (replacementAborted "/u"), ShowsBothRoutes "/u" config by
        decide +kernel)
  exact ⟨config, run, head, otherHead, stored, otherStored, routeOf "/u", mem_cons_self,
    routeOf "/u", mem_cons_self, by decide +kernel⟩

end ContributionScenario

end UntitledOJ
