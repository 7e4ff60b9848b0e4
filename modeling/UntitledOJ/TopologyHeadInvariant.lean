import UntitledOJ.TopologyCalls

/-!
# The head of a topology

The head of a topology names stored revisions, an apply owns the draft until it ends, the revisions
are numbered without gaps, and the applied revision changes only by the operation that owns the
apply or by its compensation.
-/

namespace UntitledOJ

open List

/-- The tables of the SQLite store that topology calls read and write. -/
structure TopologyDatabase (Text : Type) where
  tables : TopologyTables
  jobs : JobTables Text

/-- A topology call, or a call to the job store whose leases fence some of them. -/
inductive DatabaseCall where
  | topology (call : TopologyCall)
  | jobs (call : JobCall)

def failure? {Error α : Type} : Except Error α → Option Error
  | .ok _ => none
  | .error error => some error

namespace TopologyDatabase

variable {Text : Type} [JsonText Text] [Digests] [AddressSyntax]

/-- The error that a topology call answers with, if any, and the database after
the call. -/
def exec (database : TopologyDatabase Text) :
    DatabaseCall → Option StorageError × TopologyDatabase Text
  | .topology call =>
    let answer := database.tables.exec database.jobs.leaseEvidence call
    (failure? answer.1, { database with tables := answer.2 })
  | .jobs call => (none, { database with jobs := (database.jobs.exec call).2 })

variable (Text) in
abbrev reached (calls : List DatabaseCall) : TopologyDatabase Text :=
  afterCalls exec ⟨.empty, .initial⟩ calls

end TopologyDatabase

def TopologyHeads.Names (heads : TopologyHeads) (revisionId : String) : Prop :=
  heads.draftRevisionId = revisionId ∨ heads.appliedRevisionId = some revisionId ∨
    heads.applyingRevisionId = some revisionId

def TopologyCall.Ends (call : TopologyCall) (topologyId revisionId operationId : String) : Prop :=
  (∃ outcome, call.Finishes topologyId revisionId operationId outcome) ∨
    ∃ previousRevisionId, call.Aborts topologyId revisionId previousRevisionId operationId

namespace TopologyTables

/-- The numbers of the revisions of a topology, oldest first. -/
def numbers (tables : TopologyTables) (topologyId : String) : List Nat :=
  (tables.revisions.filter fun row => row.topologyId = topologyId).map (·.revisionNumber)

/-- Heads name stored revisions, and an apply is of the draft. -/
structure Sound (tables : TopologyTables) : Prop where
  paired : ∀ (topologyId : String) heads,
    tables.heads[topologyId]? = some heads →
      (heads.applyingRevisionId = none ↔ heads.applyingOperationId = none)
  drafted : ∀ (topologyId : String) heads revisionId,
    tables.heads[topologyId]? = some heads → heads.applyingRevisionId = some revisionId →
      heads.draftRevisionId = revisionId
  stored : ∀ topologyId heads revisionId,
    tables.heads[topologyId]? = some heads → heads.Names revisionId →
      ∃ revision ∈ tables.revisions, revision.topologyId = topologyId ∧
        revision.revisionId = revisionId
  numbered : ∀ topologyId, ∃ count, tables.numbers topologyId = List.range' 1 count
  headed : ∀ revision ∈ tables.revisions, tables.heads[revision.topologyId]? ≠ none

/-- What a call may do to revisions and heads. -/
structure Respects (before : TopologyTables) (call : TopologyCall) (after : TopologyTables) :
    Prop where
  revisions : ∃ created, after.revisions = before.revisions ++ created
  owned : ∀ topologyId heads revisionId operationId,
    before.heads[topologyId]? = some heads →
    heads.applyingRevisionId = some revisionId → heads.applyingOperationId = some operationId →
      after.heads[topologyId]? = some heads ∨ call.Ends topologyId revisionId operationId
  applied : ∀ topologyId first last,
    before.heads[topologyId]? = some first → after.heads[topologyId]? = some last →
    last.appliedRevisionId ≠ first.appliedRevisionId →
      (∃ revisionId operationId,
        call.Finishes topologyId revisionId operationId .succeeded ∧
          first.applyingRevisionId = some revisionId ∧
          first.applyingOperationId = some operationId ∧
          last.appliedRevisionId = some revisionId) ∨
      ∃ revisionId previousRevisionId operationId,
        call.Compensates topologyId revisionId previousRevisionId operationId ∧
          first.lastOperationId = some operationId

variable {topologyId : String}

theorem numbers_append (tables : TopologyTables) (revision : TopologyRevision)
    (topologyId : String) :
    { tables with revisions := tables.revisions ++ [revision] }.numbers topologyId =
      if revision.topologyId = topologyId then
        tables.numbers topologyId ++ [revision.revisionNumber]
      else tables.numbers topologyId := by
  simp only [numbers, filter_append, map_append]
  split_ifs with same
  · simp [same]
  · simp [same]

theorem max?_range' (count : Nat) : (List.range' 1 (count + 1)).max? = some (count + 1) := by
  rw [List.max?_eq_some_iff]
  refine ⟨by simp, ?_⟩
  intro number member
  have bounds := mem_range'_1.mp member
  omega

theorem next_number {tables : TopologyTables} {count next : Nat}
    (counted : tables.numbers topologyId = List.range' 1 count)
    (number : tables.nextPersistedRevisionNumber topologyId = .ok next) : next = count + 1 := by
  unfold nextPersistedRevisionNumber at number
  rw [← numbers, counted] at number
  cases count with
  | zero => cases number
  | succ count =>
    rw [max?_range'] at number
    dsimp only at number
    split_ifs at number
    cases number
    rfl

variable {before after : TopologyTables} {call : TopologyCall}

variable {revisions : List TopologyRevision} {first last : TopologyHeads}

theorem HeadMove.paired (move : HeadMove revisions call topologyId first last) :
    last.applyingRevisionId = none ↔ last.applyingOperationId = none := by
  cases move with
  | _ => simp

variable {revisionId : String}

theorem HeadMove.drafted (move : HeadMove revisions call topologyId first last)
    (applying : last.applyingRevisionId = some revisionId) : last.draftRevisionId = revisionId := by
  cases move with
  | begin _ _ _ _ draft => exact draft.trans (Option.some.inj applying)
  | finish | compensate | abort => cases applying

/-- A moved head names what it named, or a revision that the call looked up. -/
theorem HeadMove.names (move : HeadMove revisions call topologyId first last)
    (named : last.Names revisionId) :
    first.Names revisionId ∨ ∃ revision ∈ revisions, revision.topologyId = topologyId ∧
      revision.revisionId = revisionId := by
  cases move with
  | begin candidate _ _ _ draft =>
    rcases named with isDraft | isApplied | isApplying
    · exact .inl (.inl isDraft)
    · exact .inl (.inr (.inl isApplied))
    · exact .inl (.inl (draft.trans (Option.some.inj isApplying)))
  | finish candidate _ outcome _ applying =>
    rcases named with isDraft | isApplied | isApplying
    · exact .inl (.inl isDraft)
    · split_ifs at isApplied
      · exact .inl (.inr (.inr (applying.trans isApplied)))
      · exact .inl (.inr (.inl isApplied))
    · cases isApplying
  | compensate _ previous _ _ stored | abort _ previous _ _ stored =>
    rcases named with isDraft | isApplied | isApplying
    · exact .inr (isDraft ▸ stored)
    · exact .inr (Option.some.inj isApplied ▸ stored)
    · cases isApplying

/-- A revision that is appended under a head that names it and what is stored keeps the
invariant. -/
theorem Sound.published (sound : before.Sound) {revision : TopologyRevision}
    {heads : TopologyHeads} (revisions : after.revisions = before.revisions ++ [revision])
    (moved : after.heads = before.heads.insert revision.topologyId heads)
    (free : heads.applyingRevisionId = none ∧ heads.applyingOperationId = none)
    (names : ∀ revisionId, heads.Names revisionId → revisionId = revision.revisionId ∨
      ∃ row ∈ before.revisions, row.topologyId = revision.topologyId ∧ row.revisionId = revisionId)
    (numbered : ∃ count, before.numbers revision.topologyId ++ [revision.revisionNumber] =
      List.range' 1 count) : after.Sound := by
  have found (topologyId : String) : after.heads[topologyId]? =
      if topologyId = revision.topologyId then some heads else before.heads[topologyId]? := by
    rw [moved, getElem?_insert_of_eq]
  constructor
  · intro topologyId last stored
    rw [found] at stored
    split_ifs at stored
    · cases stored
      simp [free]
    · exact sound.paired topologyId last stored
  · intro topologyId last revisionId stored applying
    rw [found] at stored
    split_ifs at stored
    · cases stored
      exact absurd (free.1.symm.trans applying) (by simp)
    · exact sound.drafted topologyId last revisionId stored applying
  · intro topologyId last revisionId stored named
    simp only [revisions, mem_append]
    rw [found] at stored
    split_ifs at stored with here
    · cases stored
      subst here
      obtain rfl | ⟨row, member, identity⟩ := names revisionId named
      · exact ⟨revision, .inr (by simp), rfl, rfl⟩
      · exact ⟨row, .inl member, identity⟩
    · obtain ⟨row, member, identity⟩ := sound.stored topologyId last revisionId stored named
      exact ⟨row, .inl member, identity⟩
  · intro topologyId
    have appended := numbers_append before revision topologyId
    rw [← revisions] at appended
    rw [show after.numbers topologyId = _ from appended]
    split_ifs with here
    · exact here ▸ numbered
    · exact sound.numbered topologyId
  · intro row member
    rw [found]
    split_ifs with here
    · simp
    · rw [revisions, mem_append] at member
      rcases member with old | new
      · exact sound.headed row old
      · exact absurd (congrArg _ (mem_singleton.mp new)) here

theorem Sound.commits (sound : before.Sound) (commits : Commits before call after) :
    after.Sound := by
  cases commits with
  | created revision _ absent number _ revisions heads =>
    have none_before : before.numbers revision.topologyId = [] := by
      rw [numbers, map_eq_nil_iff, filter_eq_nil_iff]
      intro row member same
      exact sound.headed row member (of_decide_eq_true same ▸ absent)
    refine sound.published revisions heads ⟨rfl, rfl⟩ ?_ ⟨1, by rw [none_before, number]; rfl⟩
    rintro revisionId (rfl | isApplied | isApplying)
    · exact .inl rfl
    · cases isApplied
    · cases isApplying
  | drafted revision heads _ present free number parent fresh revisions moved =>
    refine sound.published revisions moved
      ⟨free, (sound.paired revision.topologyId heads present).mp free⟩ ?_ ?_
    · rintro revisionId (rfl | isApplied | isApplying)
      · exact .inl rfl
      · exact .inr (sound.stored _ heads revisionId present (.inr (.inl isApplied)))
      · exact .inr (sound.stored _ heads revisionId present (.inr (.inr isApplying)))
    · obtain ⟨count, counted⟩ := sound.numbered revision.topologyId
      refine ⟨count + 1, ?_⟩
      rw [counted, next_number counted number, range'_concat]
      simp [Nat.add_comm]
  | moved revisions heads =>
    constructor
    · intro topologyId last stored
      rcases heads topologyId with same | ⟨first, _, _, present, move⟩
      · exact sound.paired topologyId last (same ▸ stored)
      · cases present.symm.trans stored
        exact move.paired
    · intro topologyId last revisionId stored applying
      rcases heads topologyId with same | ⟨first, _, _, present, move⟩
      · exact sound.drafted topologyId last revisionId (same ▸ stored) applying
      · cases present.symm.trans stored
        exact move.drafted applying
    · intro topologyId last revisionId stored named
      rw [revisions]
      rcases heads topologyId with same | ⟨first, _, found, present, move⟩
      · exact sound.stored topologyId last revisionId (same ▸ stored) named
      · cases present.symm.trans stored
        rcases move.names named with earlier | looked
        · exact sound.stored topologyId first revisionId found earlier
        · exact looked
    · intro topologyId
      rw [numbers, revisions]
      exact sound.numbered topologyId
    · intro row member
      rw [revisions] at member
      rcases heads row.topologyId with same | ⟨_, _, _, present, _⟩
      · rw [same]
        exact sound.headed row member
      · rw [present]
        simp

theorem HeadMove.ends (move : HeadMove revisions call topologyId first last) {operationId : String}
    (applying : first.applyingRevisionId = some revisionId)
    (owner : first.applyingOperationId = some operationId) :
    call.Ends topologyId revisionId operationId := by
  cases move with
  | begin _ _ _ _ _ free | compensate _ _ _ _ _ _ _ free =>
    exact absurd (free.symm.trans applying) (by simp)
  | finish _ _ outcome called current currentOwner =>
    cases current.symm.trans applying
    cases currentOwner.symm.trans owner
    exact .inl ⟨outcome, called⟩
  | abort _ previous _ called _ _ current currentOwner =>
    cases current.symm.trans applying
    cases currentOwner.symm.trans owner
    exact .inr ⟨previous, called⟩

/-- The applied revision changes only by the owner's success or its compensation. -/
theorem HeadMove.applied (move : HeadMove revisions call topologyId first last)
    (changed : last.appliedRevisionId ≠ first.appliedRevisionId) :
    (∃ revisionId operationId, call.Finishes topologyId revisionId operationId .succeeded ∧
      first.applyingRevisionId = some revisionId ∧ first.applyingOperationId = some operationId ∧
      last.appliedRevisionId = some revisionId) ∨ ∃ revisionId previousRevisionId operationId,
      call.Compensates topologyId revisionId previousRevisionId operationId ∧
        first.lastOperationId = some operationId := by
  cases move with
  | begin => exact absurd rfl changed
  | finish revisionId operationId outcome called applying owner =>
    by_cases succeeded : outcome = .succeeded
    · subst succeeded
      exact .inl ⟨revisionId, operationId, called, applying, owner, by simp⟩
    · exact absurd (if_neg succeeded) changed
  | compensate revisionId previous operationId called _ _ _ _ owner =>
    exact .inr ⟨revisionId, previous, operationId, called, owner⟩
  | abort _ _ _ _ _ _ _ _ applied => exact absurd applied.symm changed

theorem Commits.respects (commits : Commits before call after) : Respects before call after := by
  cases commits with
  | created revision _ absent _ _ revisions heads =>
    -- The topology of a first revision had no head.
    have kept {topologyId : String} {first : TopologyHeads}
        (present : before.heads[topologyId]? = some first) :
        after.heads[topologyId]? = some first := by
      rw [heads, getElem?_insert_of_eq, if_neg, present]
      rintro rfl
      rw [absent] at present
      cases present
    refine ⟨⟨[revision], revisions⟩, fun _ _ _ _ present _ _ => .inl (kept present), ?_⟩
    intro topologyId first last present stored changed
    cases (kept present).symm.trans stored
    exact absurd rfl changed
  | drafted revision heads _ found free _ _ _ revisions moved =>
    have written (topologyId : String) : after.heads[topologyId]? =
        if topologyId = revision.topologyId then
          some { heads with draftRevisionId := revision.revisionId }
        else before.heads[topologyId]? := by
      rw [moved, getElem?_insert_of_eq]
    refine ⟨⟨[revision], revisions⟩, ?_, ?_⟩
    · intro topologyId first revisionId operationId present applying _
      left
      rw [written, if_neg, present]
      rintro rfl
      cases found.symm.trans present
      exact absurd (free.symm.trans applying) (by simp)
    · intro topologyId first last present stored changed
      rw [written] at stored
      split_ifs at stored with here
      · subst here
        cases found.symm.trans present
        cases stored
        exact absurd rfl changed
      · cases present.symm.trans stored
        exact absurd rfl changed
  | moved revisions heads =>
    refine ⟨⟨[], by rw [revisions, append_nil]⟩, ?_, ?_⟩
    · intro topologyId first revisionId operationId present applying owner
      rcases heads topologyId with same | ⟨_, _, found, _, move⟩
      · exact .inl (same.trans present)
      · cases found.symm.trans present
        exact .inr (move.ends applying owner)
    · intro topologyId first last present stored changed
      rcases heads topologyId with same | ⟨_, _, found, written, move⟩
      · cases present.symm.trans (same ▸ stored)
        exact absurd rfl changed
      · cases found.symm.trans present
        cases written.symm.trans stored
        exact move.applied changed

theorem respects_refl (tables : TopologyTables) (call : TopologyCall) :
    Respects tables call tables := by
  refine ⟨⟨[], by simp⟩, fun _ _ _ _ present _ _ => .inl present, ?_⟩
  intro topologyId first last present stored changed
  cases present.symm.trans stored
  exact absurd rfl changed

theorem empty_sound : empty.Sound := by
  refine ⟨?_, ?_, ?_, fun _ => ⟨0, rfl⟩, nofun⟩
  · intro topologyId heads found
    exact absurd found (by simp [empty])
  · intro topologyId heads revisionId found
    exact absurd found (by simp [empty])
  · intro topologyId heads revisionId found
    exact absurd found (by simp [empty])

variable [Digests] [AddressSyntax] {tables : TopologyTables}
  {evidence : String → Except StorageError (Option LeaseEvidence)}

theorem exec_cases (tables : TopologyTables)
    (evidence : String → Except StorageError (Option LeaseEvidence)) (call : TopologyCall) :
    Commits tables call (tables.exec evidence call).2 ∨ (tables.exec evidence call).2 = tables := by
  cases answered : (tables.exec evidence call).1 with
  | ok result => exact .inl (exec_commits (Prod.ext answered rfl))
  | error error => exact .inr (exec_error answered)

theorem Sound.exec (sound : tables.Sound) (call : TopologyCall) :
    (tables.exec evidence call).2.Sound := by
  rcases exec_cases tables evidence call with commits | same
  · exact sound.commits commits
  · rwa [same]

theorem exec_respects (call : TopologyCall) :
    Respects tables call (tables.exec evidence call).2 := by
  rcases exec_cases tables evidence call with commits | same
  · exact commits.respects
  · rw [same]
    exact respects_refl tables call

end TopologyTables

namespace TopologyDatabase

variable {Text : Type} [JsonText Text] [Digests] [AddressSyntax]

variable (Text) in
theorem reached_sound (calls : List DatabaseCall) : (reached Text calls).tables.Sound := by
  refine afterCalls_invariant (fun database : TopologyDatabase Text => database.tables.Sound) ?_
    TopologyTables.empty_sound calls
  intro database call sound
  cases call with
  | topology call => exact sound.exec call
  | jobs call => exact sound

variable (Text) in
/-- After any calls the heads are sound, the next call respects them, and a call
that answers with an error leaves the database as it was. -/
theorem heads_sound (calls : List DatabaseCall) : (reached Text calls).tables.Sound ∧ ∀ call,
        ((reached Text calls).tables.Respects call
          ((reached Text calls).exec (.topology call)).2.tables) ∧
        (((reached Text calls).exec (.topology call)).1 ≠ none →
          ((reached Text calls).exec (.topology call)).2 = reached Text calls) := by
  refine ⟨reached_sound Text calls, fun call => ⟨TopologyTables.exec_respects call, ?_⟩⟩
  intro failed
  generalize reached Text calls = database at failed ⊢
  dsimp only [exec] at failed ⊢
  cases answered : (database.tables.exec database.jobs.leaseEvidence call).1 with
  | ok result =>
    rw [answered] at failed
    exact absurd rfl failed
  | error error => rw [TopologyTables.exec_error answered]

end TopologyDatabase

end UntitledOJ
