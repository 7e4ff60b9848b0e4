import UntitledOJ.TopologyCalls

/-!
# The stored bindings of a topology

Only two kinds of calls write bindings: one replaces the bindings of a topology,
the other those of every member of a group.  Either way a binding is stored under
the topology that it names.
-/

namespace UntitledOJ

namespace TopologyCall

def rewritten (rows : List ApiBinding) : TopologyCall → List ApiBinding
  | .replaceBindings topologyId bindings =>
    (rows.filter fun row => row.topologyId ≠ topologyId) ++ bindings
  | .finishGroup members _ _ | .finishGroupFenced members _ _ _ =>
    (rows.filter fun row => !members.any fun member => member.topologyId = row.topologyId) ++
      members.flatMap (·.activeBindings)
  | _ => rows

def members : TopologyCall → List TopologyApplyGroupMember
  | .finishGroup members _ _ | .finishGroupFenced members _ _ _ => members
  | _ => []

def Keyed : TopologyCall → Prop
  | .replaceBindings topologyId bindings => ∀ binding ∈ bindings, binding.topologyId = topologyId
  | .finishGroup members _ _ | .finishGroupFenced members _ _ _ =>
    (members.map (·.topologyId)).Nodup ∧
      ∀ member ∈ members, ∀ binding ∈ member.activeBindings,
        binding.topologyId = member.topologyId
  | _ => True

end TopologyCall

namespace TopologyTables

variable {members : List TopologyApplyGroupMember} {operationId : String}
  {member : TopologyApplyGroupMember}

variable {bindings : List ApiBinding} {topologyId : String} {before after : TopologyTables}

theorem insertBindings_congr {first second : TopologyTables}
    (same : first.bindings = second.bindings) (bindings : List ApiBinding) :
    (fun _ => ()) <$> first.insertBindings bindings =
      (fun _ => ()) <$> second.insertBindings bindings := by
  induction bindings generalizing first second with
  | nil => rfl
  | cons binding rest ih =>
    simp only [insertBindings, insertBinding, same, map_bind, bind_assoc, pure_bind]
    exact bind_congr fun _ => bind_congr fun _ => ih rfl

theorem finishGroupTransaction_bindings {updatedAt : String} {completed : List TopologyHeads}
    (committed : before.finishGroupTransaction members operationId updatedAt =
      .ok (completed, after)) : after.bindings = (before.bindings.filter fun row =>
        !members.any fun member => member.topologyId = row.topologyId) ++
          members.flatMap (·.activeBindings) := by
  obtain ⟨⟨⟩, _, steps⟩ := ok_of_bind committed
  obtain ⟨_, insertion, finished⟩ := ok_of_bind steps
  obtain ⟨_, bindings, _⟩ := finishGroupHeads_ok finished
  rw [bindings, insertGroupBindings_eq insertion, deleteGroupBindings_eq]

variable {requirements : List (String × String)} {ids : List String}

theorem validateGroupBinding_ok {binding : ApiBinding}
    (valid : validateGroupBinding member operationId ids requirements binding = .ok ()) :
    binding.topologyId = member.topologyId := by
  cases checked : binding.validate with
  | error message =>
    simp only [validateGroupBinding, checked] at valid
    cases valid
  | ok result =>
    simp only [validateGroupBinding, checked] at valid
    have passed := of_require valid
    simp only [Bool.and_eq_true, decide_eq_true_eq] at passed
    obtain ⟨⟨⟨⟨⟨⟨topology, _⟩, _⟩, _⟩, _⟩, _⟩, _⟩ := passed
    exact topology

theorem validateGroupBindings_ok {last : List String} {others : List (String × String)}
    (valid : validateGroupBindings member operationId ids requirements bindings =
      .ok (last, others)) : ∀ binding ∈ bindings, binding.topologyId = member.topologyId := by
  induction bindings generalizing ids requirements with
  | nil => simp
  | cons binding rest ih =>
    obtain ⟨⟨⟩, checked, steps⟩ := ok_of_bind valid
    rw [List.forall_mem_cons]
    exact ⟨validateGroupBinding_ok checked, ih steps⟩

theorem validateGroupMembers_ok {topologyIds : List String}
    (valid : validateGroupMembers operationId topologyIds ids requirements members = .ok ()) :
    (members.map (·.topologyId)).Nodup ∧ (∀ member ∈ members, member.topologyId ∉ topologyIds) ∧
      ∀ member ∈ members, ∀ binding ∈ member.activeBindings,
        binding.topologyId = member.topologyId := by
  induction members generalizing topologyIds ids requirements with
  | nil => simp
  | cons member rest ih =>
    obtain ⟨identity, steps⟩ := ok_of_require_bind valid
    obtain ⟨⟨_, _⟩, checked, steps⟩ := ok_of_bind steps
    obtain ⟨distinct, unseen, others⟩ := ih steps
    simp only [Bool.and_eq_true, decide_eq_true_eq] at identity
    refine ⟨?_, ?_, ?_⟩
    · rw [List.map_cons, List.nodup_cons]
      refine ⟨?_, distinct⟩
      rintro repeated
      obtain ⟨other, inside, same⟩ := List.mem_map.mp repeated
      exact unseen other inside (same ▸ List.mem_cons_self)
    · rw [List.forall_mem_cons]
      exact ⟨identity.2, fun other inside => fun old =>
        unseen other inside (List.mem_cons_of_mem _ old)⟩
    · rw [List.forall_mem_cons]
      exact ⟨validateGroupBindings_ok checked, others⟩

section

variable [Digests] [AddressSyntax] {before after : TopologyTables}

theorem exec_bindings {evidence : String → Except StorageError (Option LeaseEvidence)}
    {call : TopologyCall} {result : call.Result}
    (committed : before.exec evidence call = (.ok result, after)) :
    after.bindings = call.rewritten before.bindings ∧ call.Keyed := by
  cases call with
  | finishGroup members operationId updatedAt =>
    obtain ⟨⟨⟩, valid, steps⟩ := ok_of_bind (ok_of_transact committed)
    obtain ⟨_, valid⟩ := ok_of_require_bind valid
    obtain ⟨distinct, _, keyed⟩ := validateGroupMembers_ok valid
    exact ⟨finishGroupTransaction_bindings steps, distinct, keyed⟩
  | finishGroupFenced members operationId updatedAt fence =>
    obtain ⟨⟨⟩, valid, steps⟩ := ok_of_bind (ok_of_transact committed)
    obtain ⟨_, _, steps⟩ := ok_of_bind steps
    obtain ⟨_, valid⟩ := ok_of_require_bind valid
    obtain ⟨distinct, _, keyed⟩ := validateGroupMembers_ok valid
    exact ⟨finishGroupTransaction_bindings steps, distinct, keyed⟩
  | replaceBindings topologyId bindings =>
    obtain ⟨rfl, keyed⟩ := replaced_eq committed
    exact ⟨rfl, keyed⟩
  | _ => exact ⟨(exec_rewrites committed rfl).bindings, trivial⟩

end

variable {rows : List ApiBinding}

section

variable (keyed : ∀ binding ∈ bindings, binding.topologyId = topologyId)
include keyed

theorem filter_replaced : (((rows.filter fun row => row.topologyId ≠ topologyId) ++ bindings).filter
      fun row => row.topologyId = topologyId) = bindings := by
  rw [List.filter_append, List.filter_filter]
  have none_left : (rows.filter fun row =>
      decide (row.topologyId = topologyId) && decide (row.topologyId ≠ topologyId)) = [] := by
    simp
  rw [none_left, List.nil_append, List.filter_eq_self]
  exact fun binding member => decide_eq_true (keyed binding member)

theorem filter_replaced_of_ne {other : String} (differ : other ≠ topologyId) :
    (((rows.filter fun row => row.topologyId ≠ topologyId) ++ bindings).filter
      fun row => row.topologyId = other) = rows.filter fun row => row.topologyId = other := by
  rw [List.filter_append, List.filter_filter]
  have none_new : (bindings.filter fun row => decide (row.topologyId = other)) = [] := by
    rw [List.filter_eq_nil_iff]
    intro binding member
    simp [keyed binding member, differ.symm]
  rw [none_new, List.append_nil]
  refine List.filter_congr fun row _ => ?_
  by_cases same : row.topologyId = other
  · simp [same, differ]
  · simp [same]

end

theorem filter_group (keyed : ∀ member ∈ members, ∀ binding ∈ member.activeBindings,
      binding.topologyId = member.topologyId)
    (absent : ∀ member ∈ members, member.topologyId ≠ topologyId) :
    (((rows.filter fun row => !members.any fun member => member.topologyId = row.topologyId) ++
        members.flatMap (·.activeBindings)).filter fun row => row.topologyId = topologyId) =
      rows.filter fun row => row.topologyId = topologyId := by
  have none_new : ((members.flatMap (·.activeBindings)).filter
      fun row => row.topologyId = topologyId) = [] := by
    rw [List.filter_eq_nil_iff]
    intro binding inside same
    obtain ⟨member, memberInside, inner⟩ := List.mem_flatMap.mp inside
    exact absent member memberInside
      ((keyed member memberInside binding inner).symm.trans (of_decide_eq_true same))
  rw [List.filter_append, List.filter_filter, none_new, List.append_nil]
  refine List.filter_congr fun row _ => ?_
  by_cases same : row.topologyId = topologyId
  · have unlisted : (members.any fun member => decide (member.topologyId = row.topologyId)) =
        false := by
      rw [List.any_eq_false]
      intro member inside matching
      exact absent member inside ((of_decide_eq_true matching).trans same)
    rw [unlisted]
    simp
  · simp [same]

theorem bindingsOf_exec [Digests] [AddressSyntax]
    {evidence : String → Except StorageError (Option LeaseEvidence)} {call : TopologyCall}
    {result : call.Result} (committed : before.exec evidence call = (.ok result, after))
    (topologyId : String) : after.bindingsOf topologyId = before.bindingsOf topologyId ∨
      (∃ bindings, call = .replaceBindings topologyId bindings) ∨
      ∃ member ∈ call.members, member.topologyId = topologyId := by
  obtain ⟨rows, keyed⟩ := exec_bindings committed
  simp only [bindingsOf, rows]
  cases call with
  | replaceBindings replaced bindings =>
    by_cases same : topologyId = replaced
    · subst same
      exact .inr (.inl ⟨bindings, rfl⟩)
    · exact .inl (filter_replaced_of_ne keyed same)
  | finishGroup members operationId updatedAt
  | finishGroupFenced members operationId updatedAt fence =>
    by_cases among : ∃ member ∈ members, member.topologyId = topologyId
    · exact .inr (.inr among)
    · exact .inl (filter_group keyed.2 fun member inside same => among ⟨member, inside, same⟩)
  | _ => exact .inl rfl

theorem replaced_congr {first second : TopologyTables}
    (others : (first.bindings.filter fun row => row.topologyId ≠ topologyId) =
      second.bindings.filter fun row => row.topologyId ≠ topologyId) (bindings : List ApiBinding) :
    (first.replaceTopologyApiBindings topologyId bindings).1 =
      (second.replaceTopologyApiBindings topologyId bindings).1 := by
  have same : (fun _ => ()) <$> (first.deleteBindings topologyId).insertBindings bindings =
      (fun _ => ()) <$> (second.deleteBindings topologyId).insertBindings bindings :=
    insertBindings_congr others bindings
  simp only [replaceTopologyApiBindings, transact_fst, map_bind, bind_pure_comp,
    Functor.map_map, same]

def withBindings (tables : TopologyTables) (bindings : List ApiBinding) : TopologyTables :=
  { tables with bindings }

variable (tables : TopologyTables) (bindings : List ApiBinding)

theorem writeHeads_withBindings (heads : TopologyHeads) :
    (tables.withBindings bindings).writeHeads topologyId heads =
      (withBindings · bindings) <$> tables.writeHeads topologyId heads := by
  simp only [writeHeads, map_bind, map_pure]
  rfl

theorem updateHeads_withBindings (matching : TopologyHeads → Bool)
    (change_ : TopologyHeads → TopologyHeads) (unchanged : StorageError) :
    (tables.withBindings bindings).updateHeads topologyId matching change_ unchanged =
      (withBindings · bindings) <$> tables.updateHeads topologyId matching change_ unchanged := by
  have same : (tables.withBindings bindings).heads = tables.heads := rfl
  simp only [updateHeads, same]
  cases tables.heads[topologyId]? with
  | none => rfl
  | some heads =>
    simp only
    split_ifs
    · exact writeHeads_withBindings tables bindings _
    · rfl

theorem upsertStatus_withBindings (status : TopologyStatus) :
    (tables.withBindings bindings).upsertStatus status =
      (withBindings · bindings) <$> tables.upsertStatus status := by
  simp only [upsertStatus, map_bind, map_pure]
  rfl

theorem report_withBindings {updatedAt : String} (desired observed : Option String)
    (state : TopologyReconciliationState) :
    (tables.withBindings bindings).report topologyId desired observed state operationId updatedAt =
      (withBindings · bindings) <$>
        tables.report topologyId desired observed state operationId updatedAt := by
  simp only [report, upsertStatus_withBindings, map_bind]

variable [Digests] [AddressSyntax]

theorem compensateHeads_withBindings (revisionId previousRevisionId operationId updatedAt : String)
    (matching : TopologyHeads → Bool) (unchanged : StorageError) :
    (tables.withBindings bindings).compensateHeads topologyId revisionId previousRevisionId
        operationId updatedAt matching unchanged =
      Prod.map id (withBindings · bindings) <$> tables.compensateHeads topologyId revisionId
        previousRevisionId operationId updatedAt matching unchanged := by
  simp only [compensateHeads, updateHeads_withBindings, report_withBindings, map_bind,
    bind_map_left, map_pure]
  rfl

theorem compensateCompleted_withBindings
    (revisionId previousRevisionId operationId updatedAt : String) :
    ((tables.withBindings bindings).compensateCompletedTopologyApply topologyId revisionId
        previousRevisionId operationId updatedAt).1 =
      (tables.compensateCompletedTopologyApply topologyId revisionId previousRevisionId
        operationId updatedAt).1 := by
  simp only [compensateCompletedTopologyApply, transact_fst, compensateHeads_withBindings,
    Functor.map_map]
  rfl

end TopologyTables

end UntitledOJ
