import Mathlib.Data.Prod.Lex
import Nexplane.Entities
import Nexplane.Lib.Sorting

set_option autoImplicit false

/-! The steps of a project's rollback, for a manual and for an automatic one: which members they
undo, how, and in which order. -/

namespace Nexplane
open PyValue Sorting

inductive ProjectStatus where
  | draft
  | inProgress
  | completed
  | cancelled
  | rollingBack
  deriving DecidableEq, Repr

inductive RollbackKind where
  | standard
  | reconstitution
  | permanentNoBackup
  deriving DecidableEq, Repr

/-- A member of a project; `title` is that of its change request. -/
structure ProjectChangeRequest where
  sequenceOrder : Int
  title : String
  changeRequest : ChangeRequest

def ProjectChangeRequest.changeRequestId (m : ProjectChangeRequest) : Uuid := m.changeRequest.id

/-- A project with its members loaded: those of one id have one change request. -/
structure Project where
  status : ProjectStatus
  members : List ProjectChangeRequest
  oneRow : ∀ m ∈ members, ∀ n ∈ members, m.changeRequestId = n.changeRequestId →
    m.changeRequest = n.changeRequest

/-- A step as it is created; its status is pending then. -/
structure NewRollbackStep where
  changeRequestId : Uuid
  sequenceOrder : Nat
  rollbackKind : RollbackKind
  backupCrId : Option Uuid
  deriving DecidableEq, Repr

def reconstitutionPairs : List (String × List String) :=
  [("rotate_iam_key",["create_backup","capture_instance_state"]),
    ("rotate_ssh_keys",["create_backup"]),
    ("gcp_rotate_service_account_key",["create_backup"]),
    ("azure_rotate_storage_key",["create_backup"]),
    ("rds_instance_delete",["rds_snapshot_create"]),
    ("ec2_terminate",["snapshot_asset","capture_instance_state"]),
    ("iam_user_delete",["capture_instance_state"])]

/-- `_find_backup_cr`: the last of the changes before `cr` that took its backup. -/
def findBackupCr (cr : ChangeRequest) (completedCrs : List ChangeRequest) :
    Option ChangeRequest :=
  let candidates := (reconstitutionPairs.lookup cr.changeType.str).getD []
  if candidates.isEmpty then none
  else
    let crIndex := completedCrs.findIdx fun c => c.id = cr.id
    (completedCrs.take crIndex).reverse.find? fun candidate =>
      candidates.contains candidate.changeType.str && candidate.status = .completed &&
        candidate.targetAssetIds.any (· ∈ cr.targetAssetIds)

def buildPreflightWarnings (members : List ProjectChangeRequest)
    (completedCrs : List ChangeRequest) (permanentTypes : List String) : List String :=
  members.filterMap fun m =>
    let cr := m.changeRequest
    if cr.changeType.str ∈ permanentTypes ∧ (findBackupCr cr completedCrs).isNone then
      some ("No backup found for '" ++ cr.changeType.str ++ "' (CR: " ++
        (if m.title = "" then cr.id else m.title) ++
        ") — will require manual intervention during rollback")
    else none

def ProjectChangeRequest.isEligible (crIds : Option (List Uuid)) (m : ProjectChangeRequest) :
    Bool := m.changeRequest.status = .completed && crIds.all (m.changeRequestId ∈ ·)

section Builders

variable (permanentTypes : List String) (p : Project)

def Project.changeRequests : List ChangeRequest := p.members.map (·.changeRequest)

/-- The completed members, of those asked for if any are. -/
def Project.eligibleMembers (crIds : Option (List Uuid)) : List ProjectChangeRequest :=
  p.members.filter (·.isEligible crIds)

def rollbackStep (allCrs : List ChangeRequest) (i : Nat) (cr : ChangeRequest) :
    NewRollbackStep :=
  let backup := if cr.changeType.str ∈ permanentTypes then some (findBackupCr cr allCrs) else none
  { changeRequestId := cr.id
    sequenceOrder := i + 1
    rollbackKind := match backup with
      | some (some _) => .reconstitution
      | some none => .permanentNoBackup
      | none => .standard
    backupCrId := backup.join.map (·.id) }

/-- The steps for members in the order in which they are to be undone. -/
def Project.rollbackSteps (sortedMembers : List ProjectChangeRequest) : List NewRollbackStep :=
  sortedMembers.mapIdx fun i m => rollbackStep permanentTypes p.changeRequests i m.changeRequest

def rollbackSortKey (m : ProjectChangeRequest) : ℤ ×ₗ ℤ :=
  match m.changeRequest.applicationSequence with
  | some appSeq => toLex (1,(appSeq : ℤ))
  | none => toLex (0,m.sequenceOrder)

/-- The steps that `initiate` creates. -/
def Project.initiateSteps (crIds : Option (List Uuid)) : List NewRollbackStep :=
  p.rollbackSteps permanentTypes (sortedReverse rollbackSortKey (p.eligibleMembers crIds))

def Project.initiateWarnings (crIds : Option (List Uuid)) : List String :=
  buildPreflightWarnings (p.eligibleMembers crIds) p.changeRequests permanentTypes

/-- The steps that `_populate_steps_for_auto_rollback` creates. -/
def Project.autoRollbackSteps : List NewRollbackStep :=
  p.rollbackSteps permanentTypes
    (sortedReverse ProjectChangeRequest.sequenceOrder (p.eligibleMembers none))

end Builders

/-- `n` was applied after `m`, to one of its assets. -/
def ProjectChangeRequest.AppliedOver (n m : ProjectChangeRequest) : Prop :=
  (∃ asset ∈ n.changeRequest.targetAssetIds, asset ∈ m.changeRequest.targetAssetIds) ∧
    ∃ a b, m.changeRequest.applicationSequence = some a ∧
      n.changeRequest.applicationSequence = some b ∧ a < b

/-- Each member has its step, and what was applied last is undone first. -/
structure UndoesInOrder (members : List ProjectChangeRequest) (steps : List NewRollbackStep) :
    Prop where
  once : (steps.map (·.changeRequestId)).Perm (members.map (·.changeRequestId))
  order : ∀ m ∈ members, ∀ n ∈ members, n.AppliedOver m → ∀ s ∈ steps, ∀ t ∈ steps,
    s.changeRequestId = m.changeRequestId → t.changeRequestId = n.changeRequestId →
      t.sequenceOrder < s.sequenceOrder

/-- Completed members were applied to a common asset in their planned order, and listed in it where
the plan does not tell. -/
def Project.AppliedAsPlanned (p : Project) : Prop :=
  ∀ m ∈ p.eligibleMembers none, ∀ n ∈ p.eligibleMembers none, n.AppliedOver m →
    m.sequenceOrder < n.sequenceOrder ∨
      m.sequenceOrder = n.sequenceOrder ∧ ¬[m,n].Sublist p.members

section Order

variable {permanentTypes : List String} {p : Project} {m n m' n' : ProjectChangeRequest}
  {members sortedMembers : List ProjectChangeRequest} {crIds : Option (List Uuid)}

theorem ProjectChangeRequest.AppliedOver.ne (h : n.AppliedOver m) : m ≠ n := by
  rintro rfl
  obtain ⟨_,a,b,ha,hb,hlt⟩ := h
  obtain rfl := Option.some.inj (ha.symm.trans hb)
  exact absurd hlt (lt_irrefl a)

theorem ProjectChangeRequest.AppliedOver.congr (h : n.AppliedOver m)
    (hm : m.changeRequest = m'.changeRequest) (hn : n.changeRequest = n'.changeRequest) :
    n'.AppliedOver m' := by
  rw [AppliedOver,← hm,← hn]
  exact h

theorem Project.mem_of_eligible (h : m ∈ p.eligibleMembers crIds) : m ∈ p.members :=
  (List.mem_filter.mp h).1

theorem rollbackSteps_ids (sortedMembers : List ProjectChangeRequest) :
    (p.rollbackSteps permanentTypes sortedMembers).map (·.changeRequestId) =
      sortedMembers.map (·.changeRequestId) := by
  refine List.ext_getElem (by simp [Project.rollbackSteps]) fun i _ _ => ?_
  simp [Project.rollbackSteps,rollbackStep,ProjectChangeRequest.changeRequestId]

/-- The steps undo in order exactly when no member comes before one applied over it. -/
theorem rollbackSteps_undo (hperm : sortedMembers.Perm members)
    (hmem : ∀ m ∈ members, m ∈ p.members) :
    UndoesInOrder members (p.rollbackSteps permanentTypes sortedMembers) ↔
      sortedMembers.Pairwise fun m n => ¬n.AppliedOver m := by
  constructor
  · intro h
    refine List.pairwise_iff_getElem.mpr fun i j hi hj hij happlied => ?_
    have hstep : ∀ k (hk : k < sortedMembers.length),
        rollbackStep permanentTypes p.changeRequests k sortedMembers[k].changeRequest ∈
          p.rollbackSteps permanentTypes sortedMembers :=
      fun k hk => List.mem_mapIdx.mpr ⟨k,hk,rfl⟩
    have hlt := h.order _ (hperm.subset (List.getElem_mem hi)) _
      (hperm.subset (List.getElem_mem hj)) happlied _ (hstep i hi) _ (hstep j hj) rfl rfl
    have hji : j < i := Nat.lt_of_succ_lt_succ hlt
    omega
  · intro h
    refine ⟨?_,?_⟩
    · rw [rollbackSteps_ids]
      exact hperm.map _
    · intro m hm n hn happlied s hs t ht hsm htn
      obtain ⟨i,hi,rfl⟩ := List.mem_mapIdx.mp hs
      obtain ⟨j,hj,rfl⟩ := List.mem_mapIdx.mp ht
      have hrow : ∀ k (hk : k < sortedMembers.length), ∀ m ∈ members,
          sortedMembers[k].changeRequestId = m.changeRequestId →
          m.changeRequest = sortedMembers[k].changeRequest := fun k hk m hm hid =>
        (p.oneRow _ (hmem _ (hperm.subset (List.getElem_mem hk))) _ (hmem m hm) hid).symm
      have hij := happlied.congr (hrow i hi m hm hsm) (hrow j hj n hn htn)
      rcases Nat.lt_trichotomy i j with hlt | rfl | hgt
      · exact absurd hij (List.pairwise_iff_getElem.mp h i j hi hj hlt)
      · exact absurd rfl hij.ne
      · exact Nat.succ_lt_succ hgt

theorem rollbackSortKey_le (h : rollbackSortKey n ≤ rollbackSortKey m) : ¬n.AppliedOver m := by
  rintro ⟨_,a,b,ha,hb,hlt⟩
  rw [rollbackSortKey,rollbackSortKey,ha,hb] at h
  rcases (Prod.Lex.toLex_le_toLex).mp h with hfst | ⟨_,hle⟩
  · exact absurd hfst (lt_irrefl _)
  · have hba : (b : ℤ) ≤ a := hle
    omega

theorem initiateSteps_undo (permanentTypes : List String) (p : Project)
    (crIds : Option (List Uuid)) :
    UndoesInOrder (p.eligibleMembers crIds) (p.initiateSteps permanentTypes crIds) := by
  rw [Project.initiateSteps,
    rollbackSteps_undo (sortedReverse_perm _ _) fun _ => Project.mem_of_eligible]
  exact (sortedReverse_pairwise rollbackSortKey _).imp rollbackSortKey_le

theorem autoRollbackSteps_undo :
    UndoesInOrder (p.eligibleMembers none) (p.autoRollbackSteps permanentTypes) ↔
      p.AppliedAsPlanned := by
  rw [Project.autoRollbackSteps,
    rollbackSteps_undo (sortedReverse_perm _ _) fun _ => Project.mem_of_eligible,
    List.pairwise_iff_forall_sublist]
  have hmembers : ∀ {m n}, m ∈ p.eligibleMembers none → n ∈ p.eligibleMembers none →
      ([m,n].Sublist (p.eligibleMembers none) ↔ [m,n].Sublist p.members) := by
    intro m n hm hn
    refine ⟨fun h => h.trans List.filter_sublist,fun h => ?_⟩
    have hboth : [m,n].filter (·.isEligible none) = [m,n] := by
      simp [(List.mem_filter.mp hm).2,(List.mem_filter.mp hn).2]
    rw [← hboth]
    exact h.filter _
  constructor
  · intro h m hm n hn happlied
    have hnot : ¬[m,n].Sublist (sortedReverse ProjectChangeRequest.sequenceOrder
        (p.eligibleMembers none)) := fun hsub => h hsub happlied
    rw [pair_sublist_iff hm hn happlied.ne,hmembers hm hn] at hnot
    obtain ⟨hle,htie⟩ := not_or.mp hnot
    rcases (not_lt.mp hle).lt_or_eq with hlt | heq
    · exact Or.inl hlt
    · exact Or.inr ⟨heq,fun hsub => htie ⟨heq.symm,hsub⟩⟩
  · intro h m n hsub happlied
    have hm := mem_sortedReverse.mp (hsub.subset List.mem_cons_self)
    have hn := mem_sortedReverse.mp (hsub.subset (List.mem_cons_of_mem _ List.mem_cons_self))
    rw [pair_sublist_iff hm hn happlied.ne,hmembers hm hn] at hsub
    rcases hsub with hgt | ⟨heq,hlisted⟩
    · rcases h m hm n hn happlied with hlt | ⟨heq,_⟩ <;> omega
    · rcases h m hm n hn happlied with hlt | ⟨_,hnot⟩
      · omega
      · exact hnot hlisted

end Order

/-- The steps of a manual rollback always undo in order; those of an automatic one only as far as
the plan was followed. -/
theorem rollback_steps_undo_iff (permanentTypes : List String) (p : Project)
    (crIds : Option (List Uuid)) :
    UndoesInOrder (p.eligibleMembers crIds) (p.initiateSteps permanentTypes crIds) ∧
      UndoesInOrder (p.eligibleMembers none) (p.autoRollbackSteps permanentTypes) ↔
    p.AppliedAsPlanned := by
  rw [autoRollbackSteps_undo]
  exact and_iff_right (initiateSteps_undo permanentTypes p crIds)

def sampleMember (id : Uuid) (sequenceOrder : Int) (applied : Nat) : ProjectChangeRequest where
  sequenceOrder := sequenceOrder
  title := id
  changeRequest :=
    { id := id
      organizationId := "org-1"
      requesterId := "user-1"
      changeType := .generic "patch"
      targetAssetIds := ["asset-1"]
      desiredOutcome := []
      status := .completed
      riskLevel := some .low
      changePlan := none
      applicationSequence := some applied }

/-- The second change of the plan was applied first. -/
def sampleProject : Project where
  status := .inProgress
  members := [sampleMember "cr-1" 1 2,sampleMember "cr-2" 2 1]
  oneRow := by simp [sampleMember,ProjectChangeRequest.changeRequestId]

/-- The automatic rollback undoes the second change of the plan first, though the first one was
applied over it. -/
theorem automatic_steps_out_of_order :
    (sampleProject.autoRollbackSteps []).map (fun s => (s.changeRequestId,s.sequenceOrder)) =
        [("cr-2",1),("cr-1",2)] ∧
      (sampleMember "cr-1" 1 2).AppliedOver (sampleMember "cr-2" 2 1) ∧
      ¬UndoesInOrder (sampleProject.eligibleMembers none)
        (sampleProject.autoRollbackSteps []) := by
  have happlied : (sampleMember "cr-1" 1 2).AppliedOver (sampleMember "cr-2" 2 1) :=
    ⟨⟨"asset-1",List.mem_cons_self,List.mem_cons_self⟩,1,2,rfl,rfl,by decide⟩
  refine ⟨by decide,happlied,fun h => ?_⟩
  have heligible : sampleProject.eligibleMembers none = sampleProject.members := rfl
  have hplanned := autoRollbackSteps_undo.mp h
  rw [Project.AppliedAsPlanned,heligible] at hplanned
  have horder := hplanned _ (List.mem_cons_of_mem _ List.mem_cons_self) _ List.mem_cons_self
    happlied
  simp [sampleMember] at horder

end Nexplane
