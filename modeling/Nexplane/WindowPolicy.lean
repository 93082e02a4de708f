import Nexplane.ApprovalInvariants
import Nexplane.ExecutionGates

set_option autoImplicit false

/-! Maintenance windows at the final approval of a change and at its execution. -/

namespace Nexplane
open PyValue

/-- The first and the last time of a `datetime`. -/
def datetimeMin : Int := -62135596800 * 1000000

def datetimeMax : Int := 253402300799999999

/-- `time + timedelta(minutes=minutes)`. -/
def addMinutes (time minutes : Int) : Except Exc Int :=
  let sum := time + minutes * 60 * 1000000
  if datetimeMin ≤ sum ∧ sum ≤ datetimeMax then .ok sum
  else .error (.other "date value out of range")

/-- `getNext` is `croniter(schedule, now).get_next()`. -/
structure WindowEnv extends GateEnv where
  getNext : String → Int → Except Exc Int

structure PolicyWindow extends MaintenanceWindow where
  organizationId : Uuid

/-- The tables with the organizations of the windows. -/
structure WindowStore where
  tables : GateStore
  owned : List PolicyWindow
  windows_eq : tables.windows = owned.map PolicyWindow.toMaintenanceWindow
  assetKey : (tables.assets.map Asset.id).Nodup

section Model

variable (env : WindowEnv)

/-- `_check_window_open`: whether the window is open, and when it opens next. -/
def checkWindowOpen (w : MaintenanceWindow) : Bool × Option Int :=
  if w.enabled = false then (false,none)
  else
    let check : Except Exc (Bool × Option Int) := do
      let lastOpen ← env.getPrev w.cronSchedule env.now
      let windowClose ← addMinutes lastOpen w.durationMinutes
      if lastOpen ≤ env.now ∧ env.now ≤ windowClose then return (true,none)
      let nextOpen ← env.getNext w.cronSchedule env.now
      return (false,some nextOpen)
    match check with
    | .ok result => result
    | .error _ => (false,none)

/-- Unlike at the execution, an empty list of tags applies to nothing. -/
def MaintenanceWindow.covers (w : MaintenanceWindow) (assetTags : List String) : Bool :=
  match w.appliesToTags with
  | none => true
  | some tags => tags.any fun tag => tag ∈ assetTags

def isWindowOpenForOrg (windows : List MaintenanceWindow) (assetTags : List String) : Bool :=
  windows.any fun w => w.enabled && (checkWindowOpen env w).1 && w.covers assetTags

/-- The tags of all the target assets of a change. -/
def targetTags (s : GateStore) (targetAssetIds : List String) : Except Exc (List String) := do
  let assetIds ← (targetAssetIds.filter fun id => id ≠ "None").mapM parseUuid
  return (s.assets.filter fun asset => asset.id ∈ assetIds).flatMap Asset.tags

/-- The enabled windows of an organization. -/
def WindowStore.windowsOf (s : WindowStore) (organizationId : Uuid) : List MaintenanceWindow :=
  (s.owned.filter fun w => w.organizationId = organizationId && w.enabled).map
    PolicyWindow.toMaintenanceWindow

/-- Windows are configured, and none is open for the target assets. -/
def windowsClosed (s : WindowStore) (organizationId : Uuid) (targetAssetIds : List String) :
    Except Exc Bool :=
  if (s.windowsOf organizationId).isEmpty then .ok false
  else do
    let assetTags ← targetTags s.tables targetAssetIds
    return !isWindowOpenForOrg env (s.windowsOf organizationId) assetTags

/-- The status that the final approval of a change leaves. -/
def finalStatus (s : WindowStore) (cr : ChangeRequest) : Except Exc ChangeRequestStatus := do
  let closed ← windowsClosed env s cr.organizationId cr.targetAssetIds
  return if closed then .queuedForMaintenance else .approved

/-- The windows let the change be executed. -/
def PassesWindows (s : WindowStore) (cr : ExecutableChange) : Prop :=
  cr.priority = "emergency" ∨
    requireOutsideWindows env.toGateEnv s.tables cr.targetAssetIds = .ok ()

/-- The two evaluations of the windows agree for any tags, and a change is released exactly when
the windows let it be executed. -/
def OneWindowPolicy (s : WindowStore) (cr : ExecutableChange) : Prop :=
  (∀ tags, isWindowOpenForOrg env (s.windowsOf cr.organizationId) tags =
    (isInMaintenanceWindow env.toGateEnv s.tables tags "hard").isSome) ∧
  (finalStatus env s cr.toChangeRequest = .ok .approved ↔ PassesWindows env s cr)

end Model

/-- All windows are enabled windows of the organization of the change that block executions. The
change is no emergency, and its targets are written as identifiers. -/
structure HardWindows (s : WindowStore) (cr : ExecutableChange) : Prop where
  some_window : s.owned ≠ []
  enabled : ∀ w ∈ s.owned, w.enabled = true
  hard : ∀ w ∈ s.owned, w.enforcement = "hard"
  owner : ∀ w ∈ s.owned, w.organizationId = cr.organizationId
  normal : cr.priority ≠ "emergency"
  targets : ∀ id ∈ cr.targetAssetIds, id ≠ "None" → ∃ assetId, parseUuid id = .ok assetId

section Windows

variable {env : WindowEnv} {s : WindowStore} {cr : ExecutableChange} {w : MaintenanceWindow}
  {tags tags' : List String}

theorem covers_mono (h : ∀ tag ∈ tags, tag ∈ tags') (hw : w.covers tags = true) :
    w.covers tags' = true := by
  unfold MaintenanceWindow.covers at hw ⊢
  cases hlist : w.appliesToTags with
  | none => rfl
  | some list =>
    simp only [hlist,List.any_eq_true,decide_eq_true_eq] at hw ⊢
    obtain ⟨tag,htag,hmem⟩ := hw
    exact ⟨tag,htag,h tag hmem⟩

theorem appliesTo_of_covers (h : w.covers tags = true) : w.appliesTo tags = true := by
  unfold MaintenanceWindow.covers at h
  unfold MaintenanceWindow.appliesTo
  cases hlist : w.appliesToTags with
  | none => simp
  | some list => simp_all

theorem addMinutes_ok {time minutes sum : Int} (h : addMinutes time minutes = .ok sum) :
    sum = time + minutes * 60 * 1000000 := by
  simp only [addMinutes] at h
  split at h <;> cases h
  rfl

/-- A window that is open at the approval is open at the execution. -/
theorem isOpen_of_check (h : (checkWindowOpen env w).1 = true) :
    w.isOpen env.toGateEnv = true := by
  cases henabled : w.enabled with
  | false => simp [checkWindowOpen,henabled] at h
  | true =>
    cases hprev : env.getPrev w.cronSchedule env.now with
    | error e => simp [checkWindowOpen,henabled,hprev,Checks.error_bind] at h
    | ok lastOpen =>
      cases hclose : addMinutes lastOpen w.durationMinutes with
      | error e => simp [checkWindowOpen,henabled,hprev,hclose,Checks.ok_bind,
          Checks.error_bind] at h
      | ok windowClose =>
        have hsum := addMinutes_ok hclose
        by_cases hin : lastOpen ≤ env.now ∧ env.now ≤ windowClose
        · simp only [MaintenanceWindow.isOpen,hprev,decide_eq_true_eq]
          omega
        · cases hnext : env.getNext w.cronSchedule env.now <;>
            simp [checkWindowOpen,henabled,hprev,hclose,hin,hnext,Checks.ok_bind] at h

theorem mem_windowsOf (h : HardWindows s cr) :
    w ∈ s.windowsOf cr.organizationId ↔ w ∈ s.tables.windows := by
  rw [WindowStore.windowsOf,s.windows_eq,List.filter_eq_self.mpr]
  intro w hw
  simp [h.owner w hw,h.enabled w hw]

theorem window_flags (h : HardWindows s cr) (hw : w ∈ s.tables.windows) :
    w.enabled = true ∧ w.enforcement = "hard" := by
  rw [s.windows_eq] at hw
  obtain ⟨owned,howned,rfl⟩ := List.mem_map.mp hw
  exact ⟨h.enabled owned howned,h.hard owned howned⟩

theorem openForOrg_iff (h : HardWindows s cr) :
    isWindowOpenForOrg env (s.windowsOf cr.organizationId) tags = true ↔
      ∃ w ∈ s.tables.windows, (checkWindowOpen env w).1 = true ∧ w.covers tags = true := by
  simp only [isWindowOpenForOrg,List.any_eq_true,Bool.and_eq_true,mem_windowsOf h,and_assoc]
  constructor
  · rintro ⟨w,hw,-,hopen,hcovers⟩
    exact ⟨w,hw,hopen,hcovers⟩
  · rintro ⟨w,hw,hopen,hcovers⟩
    exact ⟨w,hw,(window_flags h hw).1,hopen,hcovers⟩

theorem inWindow_iff (h : HardWindows s cr) :
    (isInMaintenanceWindow env.toGateEnv s.tables tags "hard").isSome = true ↔
      ∃ w ∈ s.tables.windows, w.appliesTo tags = true ∧ w.isOpen env.toGateEnv = true := by
  simp only [isInMaintenanceWindow,List.find?_isSome,List.mem_filter,Bool.and_eq_true,
    decide_eq_true_eq]
  constructor
  · rintro ⟨w,⟨hw,-⟩,hopen⟩
    exact ⟨w,hw,hopen⟩
  · rintro ⟨w,hw,hopen⟩
    exact ⟨w,⟨hw,window_flags h hw⟩,hopen⟩

/-- What is open at the approval blocks at the execution. -/
theorem inWindow_of_open (h : HardWindows s cr)
    (hopen : isWindowOpenForOrg env (s.windowsOf cr.organizationId) tags = true) :
    (isInMaintenanceWindow env.toGateEnv s.tables tags "hard").isSome = true := by
  obtain ⟨w,hw,hcheck,hcovers⟩ := (openForOrg_iff h).mp hopen
  exact (inWindow_iff h).mpr ⟨w,hw,appliesTo_of_covers hcovers,isOpen_of_check hcheck⟩

theorem openForOrg_mono (h : HardWindows s cr) (hsub : ∀ tag ∈ tags, tag ∈ tags')
    (hopen : isWindowOpenForOrg env (s.windowsOf cr.organizationId) tags = true) :
    isWindowOpenForOrg env (s.windowsOf cr.organizationId) tags' = true := by
  obtain ⟨w,hw,hcheck,hcovers⟩ := (openForOrg_iff h).mp hopen
  exact (openForOrg_iff h).mpr ⟨w,hw,hcheck,covers_mono hsub hcovers⟩

end Windows

section Targets

variable {env : WindowEnv} {s : WindowStore} {cr : ExecutableChange} {tags : List String}
  {tag : String} {assetId : Uuid}

theorem mem_tagsOf : tag ∈ s.tables.tagsOf assetId ↔
    ∃ asset ∈ s.tables.assets, asset.id = assetId ∧ tag ∈ asset.tags := by
  have hfind : ∀ asset, (s.tables.assets.find? fun asset => asset.id = assetId) = some asset ↔
      asset ∈ s.tables.assets ∧ asset.id = assetId := by
    intro asset
    rw [Orm.find?_eq_some s.assetKey (k := assetId) (by simp),decide_eq_true_eq]
  rw [GateStore.tagsOf]
  cases hfound : s.tables.assets.find? fun asset => asset.id = assetId with
  | none =>
    simp only [Option.map_none,Option.getD_none,List.not_mem_nil,false_iff]
    rintro ⟨asset,hasset,hid,-⟩
    have := (hfind asset).mpr ⟨hasset,hid⟩
    simp [hfound] at this
  | some asset =>
    obtain ⟨hasset,hid⟩ := (hfind asset).mp hfound
    simp only [Option.map_some,Option.getD_some]
    constructor
    · intro htag
      exact ⟨asset,hasset,hid,htag⟩
    · rintro ⟨other,hother,hother_id,htag⟩
      have := (hfind other).mpr ⟨hother,hother_id⟩
      simp only [hfound,Option.some.injEq] at this
      exact this ▸ htag

/-- The tags of the targets are those of one target or another. -/
theorem targetTags_ok (h : HardWindows s cr) :
    ∃ tags, targetTags s.tables cr.targetAssetIds = .ok tags ∧
      ∀ tag, tag ∈ tags ↔ ∃ id ∈ cr.targetAssetIds, id ≠ "None" ∧ ∃ assetId,
        parseUuid id = .ok assetId ∧ tag ∈ s.tables.tagsOf assetId := by
  have hparse : ∀ id ∈ cr.targetAssetIds.filter fun id => id ≠ "None",
      parseUuid id = .ok ((parseUuid id).toOption.getD "") := by
    intro id hid
    obtain ⟨hmem,hnone⟩ := List.mem_filter.mp hid
    obtain ⟨assetId,hassetId⟩ := h.targets id hmem (by simpa using hnone)
    simp [hassetId,Except.toOption]
  have hids := Checks.mapM_eq_ok hparse
  refine ⟨_,by rw [targetTags,hids]; rfl,fun tag => ?_⟩
  simp only [List.mem_flatMap,List.mem_filter,decide_eq_true_eq,List.mem_map,mem_tagsOf]
  constructor
  · rintro ⟨asset,⟨hasset,id,⟨hid,hnone⟩,hassetId⟩,htag⟩
    have hok := hparse id (List.mem_filter.mpr ⟨hid,by simpa using hnone⟩)
    exact ⟨id,hid,hnone,_,hok,asset,hasset,hassetId.symm,htag⟩
  · rintro ⟨id,hid,hnone,assetId,hok,asset,hasset,hassetId,htag⟩
    exact ⟨asset,⟨hasset,id,⟨hid,hnone⟩,by simp [hok,hassetId,Except.toOption]⟩,htag⟩

theorem finalStatus_approved (h : HardWindows s cr)
    (htags : targetTags s.tables cr.targetAssetIds = .ok tags) :
    finalStatus env s cr.toChangeRequest = .ok .approved ↔
      isWindowOpenForOrg env (s.windowsOf cr.organizationId) tags = true := by
  have hsome : (s.windowsOf cr.organizationId).isEmpty = false := by
    obtain ⟨w,hw⟩ := List.exists_mem_of_ne_nil _ h.some_window
    have hmem : w.toMaintenanceWindow ∈ s.windowsOf cr.organizationId := by
      rw [mem_windowsOf h,s.windows_eq]
      exact List.mem_map_of_mem hw
    simpa using List.ne_nil_of_mem hmem
  rw [finalStatus,windowsClosed,hsome]
  cases hopen : isWindowOpenForOrg env (s.windowsOf cr.organizationId) tags <;>
    simp [htags,hopen]

theorem passesWindows_iff (h : HardWindows s cr) : PassesWindows env s cr ↔
    ∀ id ∈ cr.targetAssetIds, id ≠ "None" → ∃ assetId, parseUuid id = .ok assetId ∧
      isInMaintenanceWindow env.toGateEnv s.tables (s.tables.tagsOf assetId) "hard" = none := by
  simp only [PassesWindows,h.normal,false_or,requireOutsideWindows_ok,requireOutsideWindow_ok,
    isInMaintenanceWindow_eq_none]

end Targets

section Policy

variable {env : WindowEnv} {s : WindowStore} {cr : ExecutableChange}

/-- A change with a target is released exactly when it cannot be executed, as far as the two
evaluations agree. -/
theorem policy_fails (h : HardWindows s cr) {id : String} (hid : id ∈ cr.targetAssetIds)
    (hnone : id ≠ "None") : ¬OneWindowPolicy env s cr := by
  rintro ⟨hagree,hreleased⟩
  obtain ⟨tags,htags,hmem⟩ := targetTags_ok h
  rw [finalStatus_approved h htags,passesWindows_iff h] at hreleased
  by_cases hopen : isWindowOpenForOrg env (s.windowsOf cr.organizationId) tags = true
  · -- some target is in the window that is open
    have hpass := hreleased.mp hopen
    obtain ⟨w,hw,hcheck,hcovers⟩ := (openForOrg_iff h).mp hopen
    have hblocked : ∀ assetId, w.covers (s.tables.tagsOf assetId) = true →
        isInMaintenanceWindow env.toGateEnv s.tables (s.tables.tagsOf assetId) "hard" ≠ none := by
      intro assetId hcovers hnot
      have hin := inWindow_of_open h ((openForOrg_iff h).mpr ⟨w,hw,hcheck,hcovers⟩)
      simp [hnot] at hin
    cases hlist : w.appliesToTags with
    | none =>
      obtain ⟨assetId,-,hnot⟩ := hpass id hid hnone
      exact hblocked assetId (by simp [MaintenanceWindow.covers,hlist]) hnot
    | some list =>
      simp only [MaintenanceWindow.covers,hlist,List.any_eq_true,decide_eq_true_eq] at hcovers
      obtain ⟨tag,htag,htags⟩ := hcovers
      obtain ⟨other,hother,hother_none,assetId,hassetId,htag_of⟩ := (hmem tag).mp htags
      obtain ⟨assetId',hassetId',hnot⟩ := hpass other hother hother_none
      obtain rfl : assetId = assetId' := by simpa [hassetId] using hassetId'
      refine hblocked assetId ?_ hnot
      simp only [MaintenanceWindow.covers,hlist,List.any_eq_true,decide_eq_true_eq]
      exact ⟨tag,htag,htag_of⟩
  · -- no target is in any window that is open
    refine hopen (hreleased.mpr fun other hother hother_none => ?_)
    obtain ⟨assetId,hassetId⟩ := h.targets other hother hother_none
    refine ⟨assetId,hassetId,?_⟩
    cases hblocked : isInMaintenanceWindow env.toGateEnv s.tables
      (s.tables.tagsOf assetId) "hard" with
    | none => rfl
    | some w =>
      have hagree := hagree (s.tables.tagsOf assetId)
      rw [hblocked,Option.isSome_some] at hagree
      have hsub : ∀ tag ∈ s.tables.tagsOf assetId, tag ∈ tags := fun tag htag =>
        (hmem tag).mpr ⟨other,hother,hother_none,assetId,hassetId,htag⟩
      exact absurd (openForOrg_mono h hsub hagree) hopen

/-- Without targets only an open window for all assets has the two sides agree. -/
theorem policy_without_targets (h : HardWindows s cr)
    (hnone : ∀ id ∈ cr.targetAssetIds, id = "None") : OneWindowPolicy env s cr ↔
      ∃ w ∈ s.tables.windows, w.appliesToTags = none ∧ (checkWindowOpen env w).1 = true := by
  obtain ⟨tags,htags,hmem⟩ := targetTags_ok h
  have hpass : PassesWindows env s cr :=
    (passesWindows_iff h).mpr fun id hid hother => absurd (hnone id hid) hother
  obtain rfl : tags = [] := by
    refine List.eq_nil_iff_forall_not_mem.mpr fun tag htag => ?_
    obtain ⟨id,hid,hother,-⟩ := (hmem tag).mp htag
    exact hother (hnone id hid)
  have hcovers_nil : ∀ w : MaintenanceWindow, w.covers [] = true ↔ w.appliesToTags = none := by
    intro w
    cases hlist : w.appliesToTags <;> simp [MaintenanceWindow.covers,hlist]
  rw [OneWindowPolicy,finalStatus_approved h htags,iff_true_right hpass,openForOrg_iff h]
  simp only [hcovers_nil]
  constructor
  · rintro ⟨-,w,hw,hcheck,hlist⟩
    exact ⟨w,hw,hlist,hcheck⟩
  · rintro ⟨w,hw,hlist,hcheck⟩
    refine ⟨fun tags => ?_,w,hw,hcheck,hlist⟩
    have hopen : isWindowOpenForOrg env (s.windowsOf cr.organizationId) tags = true :=
      (openForOrg_iff h).mpr ⟨w,hw,hcheck,by simp [MaintenanceWindow.covers,hlist]⟩
    rw [hopen,inWindow_of_open h hopen]

end Policy

/-- The window in which a change waits to be released is the one in which it cannot be executed. -/
theorem one_window_policy_iff {env : WindowEnv} {s : WindowStore} {cr : ExecutableChange}
    (h : HardWindows s cr) : OneWindowPolicy env s cr ↔
      (∀ id ∈ cr.targetAssetIds, id = "None") ∧
        ∃ w ∈ s.tables.windows, w.appliesToTags = none ∧ (checkWindowOpen env w).1 = true := by
  by_cases hnone : ∀ id ∈ cr.targetAssetIds, id = "None"
  · rw [policy_without_targets h hnone,and_iff_right hnone]
  · refine iff_of_false ?_ fun hcond => hnone hcond.1
    simp only [not_forall,exists_prop] at hnone
    obtain ⟨id,hid,hother⟩ := hnone
    exact policy_fails h hid hother

/-- Half past two of a Saturday, with windows that open every Saturday at two. -/
def saturdayEnv : WindowEnv where
  now := 1777689000 * 1000000
  getPrev := fun _ _ => .ok (1777687200 * 1000000)
  users := fun _ => { id := "u", organizationId := "o", role := .approver }
  changeType := fun _ => none
  getNext := fun _ _ => .ok (1778292000 * 1000000)

/-- One asset tagged `web`, and one window of an hour. -/
def oneWindow (appliesToTags : Option (List String)) : WindowStore where
  tables := {
    changes := []
    primaryKey := List.nodup_nil
    approvals := []
    assets := [{
      id := "11111111-1111-1111-1111-111111111111", organizationId := "o", connectorId := none,
      name := "web-1", assetType := "server", environment := "prod", criticality := "high",
      metadata := .null, tags := ["web"] }]
    freezes := []
    windows := [{
      name := "saturday", cronSchedule := "0 2 * * 6", durationMinutes := 60, appliesToTags
      enabled := true, enforcement := "hard" }]
    policies := []
    started := [] }
  owned := [{
    name := "saturday", cronSchedule := "0 2 * * 6", durationMinutes := 60, appliesToTags
    enabled := true, enforcement := "hard", organizationId := "o" }]
  windows_eq := rfl
  assetKey := by simp

def windowedChange (targetAssetIds : List String) : ExecutableChange where
  id := "cr"
  organizationId := "o"
  requesterId := "u"
  changeType := .changeIp
  targetAssetIds := targetAssetIds
  desiredOutcome := []
  status := .awaitingApproval
  riskLevel := some .low
  changePlan := none
  applicationSequence := none

theorem windowed_hard (appliesToTags : Option (List String)) {ids : List String}
    (h : ∀ id ∈ ids, ∃ assetId, parseUuid id = .ok assetId) :
    HardWindows (oneWindow appliesToTags) (windowedChange ids) where
  some_window := by simp [oneWindow]
  enabled := by simp [oneWindow]
  hard := by simp [oneWindow]
  owner := by simp [oneWindow,windowedChange]
  normal := by simp [windowedChange]
  targets := fun id hid _ => h id hid

theorem untargeted_change_released :
    OneWindowPolicy saturdayEnv (oneWindow none) (windowedChange []) :=
  (one_window_policy_iff (windowed_hard none (by simp))).mpr
    ⟨by simp [windowedChange],_,List.mem_singleton_self _,rfl,by decide⟩

/-- A change of a target in an open window is released and cannot be executed, and a window with an
empty list of tags is closed at the approval and open at the execution. -/
theorem window_policies_differ :
    let tagged := oneWindow (some ["web"])
    let empty := oneWindow (some [])
    let cr := windowedChange ["11111111-1111-1111-1111-111111111111"]
    (HardWindows tagged cr ∧
      finalStatus saturdayEnv tagged cr.toChangeRequest = .ok .approved ∧
      requireOutsideWindows saturdayEnv.toGateEnv tagged.tables cr.targetAssetIds = .error (.http 423
        "maintenance_window: execution blocked by hard-enforcement window 'saturday'") ∧
      ¬OneWindowPolicy saturdayEnv tagged cr) ∧
    isWindowOpenForOrg saturdayEnv (empty.windowsOf "o") ["web"] = false ∧
    (isInMaintenanceWindow saturdayEnv.toGateEnv empty.tables ["web"] "hard").isSome = true := by
  intro tagged empty cr
  have hparse : parseUuid "11111111-1111-1111-1111-111111111111" =
      .ok "11111111-1111-1111-1111-111111111111" := by rfl
  have hhard : HardWindows tagged cr := windowed_hard _ (by simp [hparse])
  have happroved : finalStatus saturdayEnv tagged cr.toChangeRequest = .ok .approved := by rfl
  have hblocked : requireOutsideWindows saturdayEnv.toGateEnv tagged.tables cr.targetAssetIds =
      .error (.http 423
        "maintenance_window: execution blocked by hard-enforcement window 'saturday'") := by rfl
  refine ⟨⟨hhard,happroved,hblocked,fun hpolicy => ?_⟩,by rfl,by rfl⟩
  rcases hpolicy.2.mp happroved with hnormal | hpass
  · exact hhard.normal hnormal
  · rw [hblocked] at hpass
    cases hpass

end Nexplane
