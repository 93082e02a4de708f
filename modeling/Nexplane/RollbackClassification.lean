import Nexplane.ProjectRollbackSteps

set_option autoImplicit false

/-! How the steps of a project's rollback are classified: by the manifest's permanent types, whose
names are compared with `str` of an enumeration member. -/

namespace Nexplane
open Sorting

/-- The permanent types of the manifest, which names types by their plain values. -/
structure PermanentTypes where
  values : List String
  plain : ∀ value ∈ values, '.' ∉ value.toList

/-- The candidate took a backup of an asset of the change, of a kind listed for it. -/
structure TakesBackup (cr candidate : ChangeRequest) : Prop where
  completed : candidate.status = .completed
  listed : ∃ names, reconstitutionPairs.lookup cr.changeType.value = some names ∧
    candidate.changeType.value ∈ names
  shared : ∃ asset ∈ candidate.targetAssetIds, asset ∈ cr.targetAssetIds

/-- Member `j` is the last one before member `i` that took its backup. -/
structure NearestBackup (members : List ProjectChangeRequest) (i : Nat) (m : ProjectChangeRequest)
    (j : Nat) (backup : ProjectChangeRequest) : Prop where
  here : members[j]? = some backup
  earlier : j < i
  takes : TakesBackup m.changeRequest backup.changeRequest
  nearest : ∀ k n, j < k → k < i → members[k]? = some n →
    ¬TakesBackup m.changeRequest n.changeRequest

def ProjectChangeRequest.noBackupWarning (m : ProjectChangeRequest) : String :=
  "No backup found for '" ++ m.changeRequest.changeType.str ++ "' (CR: " ++
    (if m.title = "" then m.changeRequestId else m.title) ++
    ") — will require manual intervention during rollback"

/-- The step of member `i` has the kind, the backup and the warning that its type calls for. -/
structure StepClassified (types : PermanentTypes) (members : List ProjectChangeRequest)
    (warnings : List String) (i : Nat) (m : ProjectChangeRequest) (step : NewRollbackStep) :
    Prop where
  standard : m.changeRequest.changeType.value ∉ types.values → step.rollbackKind = .standard
  reconstitution : m.changeRequest.changeType.value ∈ types.values →
    ∀ j backup, NearestBackup members i m j backup → step.rollbackKind = .reconstitution ∧
      step.backupCrId = some backup.changeRequestId
  permanent : m.changeRequest.changeType.value ∈ types.values →
    (∀ j backup, ¬NearestBackup members i m j backup) →
      step.rollbackKind = .permanentNoBackup ∧ m.noBackupWarning ∈ warnings

/-- Every eligible member's step is classified by its type. -/
def Project.StepsClassified (types : PermanentTypes) (p : Project) (crIds : Option (List Uuid)) :
    Prop :=
  ∀ i m, p.members[i]? = some m → m.isEligible crIds = true →
    ∀ step ∈ p.initiateSteps types.values crIds, step.changeRequestId = m.changeRequestId →
      StepClassified types p.members (p.initiateWarnings types.values crIds) i m step

section Kinds

variable {types : PermanentTypes} {p : Project} {crIds : Option (List Uuid)}
  {m : ProjectChangeRequest} {step : NewRollbackStep}

/-- `str` of a member is no name of the manifest. -/
theorem str_not_permanent (changeType : ChangeType) : changeType.str ∉ types.values := by
  intro h
  refine types.plain _ h ?_
  simp [ChangeType.str]

theorem initiateSteps_standard (h : step ∈ p.initiateSteps types.values crIds) :
    step.rollbackKind = .standard := by
  obtain ⟨i,hi,rfl⟩ := List.mem_mapIdx.mp h
  simp [rollbackStep,str_not_permanent]

theorem exists_step (h : m ∈ p.eligibleMembers crIds) :
    ∃ step ∈ p.initiateSteps types.values crIds, step.changeRequestId = m.changeRequestId := by
  have hmem : m.changeRequestId ∈ (p.initiateSteps types.values crIds).map (·.changeRequestId) := by
    rw [Project.initiateSteps,rollbackSteps_ids]
    exact List.mem_map_of_mem (mem_sortedReverse.mpr h)
  exact List.mem_map.mp hmem

end Kinds

/-- The classification holds only where there is nothing to classify. -/
theorem steps_classified_iff (types : PermanentTypes) (p : Project) (crIds : Option (List Uuid)) :
    p.StepsClassified types crIds ↔
      ∀ m ∈ p.eligibleMembers crIds, m.changeRequest.changeType.value ∉ types.values := by
  constructor
  · intro h m hm hpermanent
    obtain ⟨hmem,heligible⟩ := List.mem_filter.mp hm
    obtain ⟨i,hi⟩ := List.mem_iff_getElem?.mp hmem
    obtain ⟨step,hstep,hid⟩ : ∃ step ∈ p.initiateSteps types.values crIds,
        step.changeRequestId = m.changeRequestId := exists_step hm
    have hclass := h i m hi heligible step hstep hid
    have hstandard := initiateSteps_standard hstep
    by_cases hbackup : ∃ j backup, NearestBackup p.members i m j backup
    · obtain ⟨j,backup,hnearest⟩ := hbackup
      have hkind := (hclass.reconstitution hpermanent j backup hnearest).1
      rw [hstandard] at hkind
      cases hkind
    · have hkind := (hclass.permanent hpermanent fun j backup hnearest =>
        hbackup ⟨j,backup,hnearest⟩).1
      rw [hstandard] at hkind
      cases hkind
  · intro h i m hi heligible step hstep _
    have hm : m ∈ p.eligibleMembers crIds :=
      List.mem_filter.mpr ⟨List.mem_of_getElem? hi,heligible⟩
    exact ⟨fun _ => initiateSteps_standard hstep,fun hpermanent => absurd hpermanent (h m hm),
      fun hpermanent => absurd hpermanent (h m hm)⟩

/-- A backup, and the rotation of a key of the same asset after it. -/
def backedUpMember (id : Uuid) (sequenceOrder : Int) (changeType : String) :
    ProjectChangeRequest where
  sequenceOrder := sequenceOrder
  title := id
  changeRequest :=
    { id := id
      organizationId := "org-1"
      requesterId := "user-1"
      changeType := .generic changeType
      targetAssetIds := ["asset-1"]
      desiredOutcome := []
      status := .completed
      riskLevel := some .low
      changePlan := none
      applicationSequence := none }

def backedUpProject : Project where
  status := .completed
  members := [backedUpMember "cr-1" 1 "create_backup",backedUpMember "cr-2" 2 "rotate_iam_key"]
  oneRow := by simp [backedUpMember,ProjectChangeRequest.changeRequestId]

def keyRotation : PermanentTypes where
  values := ["rotate_iam_key"]
  plain := by decide

/-- The rotation is to be undone as if it could be, with its backup at hand. -/
theorem rotation_not_reconstituted :
    NearestBackup backedUpProject.members 1 (backedUpMember "cr-2" 2 "rotate_iam_key") 0
        (backedUpMember "cr-1" 1 "create_backup") ∧
      backedUpProject.initiateSteps keyRotation.values none =
        [⟨"cr-2",1,.standard,none⟩,⟨"cr-1",2,.standard,none⟩] ∧
      ¬backedUpProject.StepsClassified keyRotation none := by
  have hbackup : NearestBackup backedUpProject.members 1
      (backedUpMember "cr-2" 2 "rotate_iam_key") 0 (backedUpMember "cr-1" 1 "create_backup") := by
    refine ⟨rfl,by decide,⟨rfl,⟨_,rfl,by decide⟩,"asset-1",by decide,by decide⟩,?_⟩
    intro k n hlow hhigh
    omega
  have hsteps : backedUpProject.initiateSteps keyRotation.values none =
      [⟨"cr-2",1,.standard,none⟩,⟨"cr-1",2,.standard,none⟩] := by decide
  refine ⟨hbackup,hsteps,fun h => ?_⟩
  have hclass := h 1 _ rfl rfl ⟨"cr-2",1,.standard,none⟩ (by rw [hsteps]; exact List.mem_cons_self) rfl
  exact absurd (hclass.reconstitution (by decide) 0 _ hbackup).1 (by decide)

end Nexplane
