import Nexplane.ExecutionGates
import Nexplane.RunbookExecutor

set_option autoImplicit false

/-! Maintenance windows of several organizations, and what those of one decide for another. -/

namespace Nexplane
open PyValue

/-- A row of `maintenance_window`, with the column that its query leaves alone. -/
structure OwnedWindow extends MaintenanceWindow where
  organizationId : Uuid

def GateStore.withWindows (s : GateStore) (windows : List OwnedWindow) : GateStore :=
  { s with windows := windows.map OwnedWindow.toMaintenanceWindow }

structure Runbook where
  id : Nat
  organizationId : Uuid
  autoExecute : Bool

/-- The runbooks and their rows; `orderBy` is the order of step numbers. -/
structure RunbookTables where
  orderBy : List RunbookStepRow → List RunbookStepRow
  runbooks : List Runbook
  rows : List RunbookStepRow

def RunbookTables.runbookOf (t : RunbookTables) (runbookId : Nat) (organizationId : Uuid) :
    Option Runbook :=
  t.runbooks.find? fun rb => rb.id = runbookId && rb.organizationId = organizationId

section Model

variable (env : GateEnv) (t : RunbookTables)

/-- The assets that the steps of a runbook name. -/
def referencedAssets (runbookId : Nat) : Except Refusal (List Uuid) :=
  ((runbookSteps t.orderBy t.rows runbookId).flatMap fun step =>
    (step.fields.assetSelector.map AssetSelector.assetIds).getD []).mapM fun text =>
      match parseUuid text with
      | .error e => .error (.unhandled e.str)
      | .ok id => .ok id

/-- The check of `trigger_runbook`; the refusal has the warning of its detail. -/
def requireNoWindow (s : GateStore) : List Asset → Except Refusal Unit
  | [] => .ok ()
  | asset :: assets =>
    match isInMaintenanceWindow env s asset.tags "hard" with
    | some w => .error (.http 409 ("Active change freeze window '" ++ w.name ++
        "' covers affected assets. Set force=true to override as an emergency."))
    | none => requireNoWindow s assets

/-- `trigger_runbook`, without the audit event of a forced one. -/
def triggerRunbook (user : User) (runbookId : Nat) (context : Dict) (force : Bool)
    (s : GateStore) : Except Refusal RunbookExecution :=
  match t.runbookOf runbookId user.organizationId with
  | none => .error (.http 404 "Runbook not found")
  | some rb =>
    if rb.autoExecute = false then
      .error (.http 403
        "Runbook is not enabled for auto-execution. An admin must enable it first.")
    else if force = true ∧ (env.users user.id).role ≠ .admin then
      .error (.http 403 "Only admins may override a maintenance window freeze.")
    else do
      let _ ← (if force then .ok () else do
        let assetIds ← referencedAssets t rb.id
        requireNoWindow env s (s.assets.filter fun asset => asset.id ∈ assetIds))
      pure { steps := snapshotSteps t.orderBy t.rows rb.id, context := context }

/-- What a user of an organization asks for. -/
inductive WindowRequest where
  | execute (justification : Option String) (crId : Uuid)
  | trigger (runbookId : Nat) (context : Dict) (force : Bool)

def WindowRequest.allowed (user : User) (s : GateStore) : WindowRequest → Bool
  | .execute justification crId => (executeChangeRequest env user justification crId s).isOk
  | .trigger runbookId context force => (triggerRunbook env t user runbookId context force s).isOk

end Model

/-- Databases that differ in no window of the organization. -/
def SameWindowsOf (organizationId : Uuid) (ws ws' : List OwnedWindow) : Prop :=
  ws.filter (fun w => w.organizationId = organizationId) =
    ws'.filter fun w => w.organizationId = organizationId

section Decision

variable (env : GateEnv) (t : RunbookTables) (user : User) (s : GateStore)

/-- Nothing but a window can be in the way of the request. -/
def WindowRequest.Admissible : WindowRequest → Prop
  | .execute _ crId => ∃ cr ∈ s.changes, cr.id = crId ∧
      cr.organizationId = user.organizationId ∧ cr.status = .approved ∧
      GateOpen env (s.withWindows []) cr
  | .trigger runbookId _ force => ∃ rb, t.runbookOf runbookId user.organizationId = some rb ∧
      rb.autoExecute = true ∧ (force = true → (env.users user.id).role = .admin) ∧
      (force = false → ∃ assetIds, referencedAssets t rb.id = .ok assetIds)

/-- The tags of the assets for which the request asks for windows. -/
def WindowRequest.askedTags : WindowRequest → List (List String)
  | .execute _ crId =>
    match s.changeOf crId user.organizationId with
    | none => []
    | some cr =>
      if cr.priority = "emergency" then []
      else (cr.targetAssetIds.filter (· ≠ "None")).filterMap fun targetAssetId =>
        (parseUuid targetAssetId).toOption.map s.tagsOf
  | .trigger runbookId _ force =>
    if force then []
    else
      let assetIds := ((t.runbookOf runbookId user.organizationId).bind fun rb =>
        (referencedAssets t rb.id).toOption).getD []
      (s.assets.filter fun asset => asset.id ∈ assetIds).map Asset.tags

/-- A hard window that is open and applies to the tags. -/
def OwnedWindow.covers (tags : List String) (w : OwnedWindow) : Bool :=
  w.enabled && w.enforcement = "hard" && w.appliesTo tags && w.isOpen env

/-- One of the windows covers an asset for which the request asks. -/
def WindowRequest.BlockedBy (r : WindowRequest) (ws : List OwnedWindow) : Prop :=
  ∃ tags ∈ r.askedTags t user s, ∃ w ∈ ws, w.covers env tags = true

end Decision

section Allowed

variable {env : GateEnv} {t : RunbookTables} {user : User} {s : GateStore}
  {ws : List OwnedWindow}

theorem covers_iff {tags : List String} {w : OwnedWindow} : w.covers env tags = false ↔
    (w.enabled = true → w.enforcement = "hard" → w.appliesTo tags = true →
      w.isOpen env = false) := by
  rw [OwnedWindow.covers]
  cases w.enabled <;> cases w.appliesTo tags <;> simp

theorem withWindows_none_iff {tags : List String} :
    isInMaintenanceWindow env (s.withWindows ws) tags "hard" = none ↔
      ∀ w ∈ ws, w.covers env tags = false := by
  rw [isInMaintenanceWindow_eq_none,GateStore.withWindows,List.forall_mem_map]
  exact forall₂_congr fun w _ => covers_iff.symm

theorem requireNoWindow_ok {assets : List Asset} :
    requireNoWindow env (s.withWindows ws) assets = .ok () ↔
      ∀ asset ∈ assets, ∀ w ∈ ws, w.covers env asset.tags = false := by
  induction assets with
  | nil => simp [requireNoWindow]
  | cons asset assets ih =>
    rw [requireNoWindow,List.forall_mem_cons,← ih,← withWindows_none_iff]
    cases isInMaintenanceWindow env (s.withWindows ws) asset.tags "hard" <;> simp

theorem trigger_allowed_iff {runbookId : Nat} {context : Dict} {force : Bool} :
    (WindowRequest.trigger runbookId context force).allowed env t user (s.withWindows ws) = true ↔
      (WindowRequest.trigger runbookId context force).Admissible env t user s ∧
        ¬(WindowRequest.trigger runbookId context force).BlockedBy env t user s ws := by
  rw [WindowRequest.allowed,Checks.isOk_iff,triggerRunbook,WindowRequest.Admissible,
    WindowRequest.BlockedBy,WindowRequest.askedTags]
  cases hrb : t.runbookOf runbookId user.organizationId with
  | none => simp
  | some rb =>
    cases hauto : rb.autoExecute with
    | false => simp [hauto]
    | true =>
      cases force with
      | true =>
        by_cases hadmin : (env.users user.id).role = .admin
        · simp [hauto,hadmin]
        · simp [hauto,hadmin]
      | false =>
        cases hids : referencedAssets t rb.id with
        | error e => simp [hauto,hids]
        | ok assetIds =>
          have hspec : requireNoWindow env (s.withWindows ws)
              (s.assets.filter fun asset => asset.id ∈ assetIds) = .ok () ↔
                ∀ asset ∈ s.assets, asset.id ∈ assetIds →
                  ∀ w ∈ ws, w.covers env asset.tags = false := by
            rw [requireNoWindow_ok]
            simp
          simp only [hauto,hids,Option.bind_some,Except.toOption,Option.getD_some]
          constructor
          · rintro ⟨execution,h⟩
            obtain ⟨_,hrequire,_⟩ := Checks.bind_eq_ok.mp h
            refine ⟨⟨rb,rfl,hauto,(by rintro ⟨⟩),fun _ => ⟨assetIds,hids⟩⟩,?_⟩
            rintro ⟨tags,htags,w,hw,hcovered⟩
            obtain ⟨asset,hasset,rfl⟩ := List.mem_map.mp htags
            obtain ⟨hmem,hnamed⟩ := List.mem_filter.mp hasset
            have hfree := hspec.mp hrequire asset hmem (of_decide_eq_true hnamed) w hw
            rw [hcovered] at hfree
            cases hfree
          · rintro ⟨_,hfree⟩
            have hrequire := hspec.mpr fun asset hmem hnamed w hw =>
              Bool.eq_false_iff.mpr fun hcovered => hfree ⟨asset.tags,List.mem_map.mpr
                ⟨asset,List.mem_filter.mpr ⟨hmem,decide_eq_true hnamed⟩,rfl⟩,w,hw,hcovered⟩
            exact ⟨_,Checks.bind_eq_ok.mpr ⟨(),hrequire,rfl⟩⟩

/-- A change passes the gate when it does without windows and none covers its assets. -/
theorem gateOpen_withWindows {cr : ExecutableChange} : GateOpen env (s.withWindows ws) cr ↔
    GateOpen env (s.withWindows []) cr ∧ (cr.priority = "emergency" ∨
      ∀ targetAssetId ∈ cr.targetAssetIds, targetAssetId ≠ "None" → ∀ assetId,
        parseUuid targetAssetId = .ok assetId →
          ∀ w ∈ ws, w.covers env (s.tagsOf assetId) = false) := by
  have hwindows : ∀ assetId, (∀ w ∈ (s.withWindows ws).windows, w.enabled = true →
      w.enforcement = "hard" → w.appliesTo ((s.withWindows ws).tagsOf assetId) = true →
        w.isOpen env = false) ↔ ∀ w ∈ ws, w.covers env (s.tagsOf assetId) = false := by
    intro assetId
    rw [← withWindows_none_iff,isInMaintenanceWindow_eq_none]
    rfl
  constructor
  · intro h
    refine ⟨⟨h.noFreeze,h.notCritical,h.noWindow.imp_right fun hall => ?_⟩,
      h.noWindow.imp_right fun hall => ?_⟩
    · intro targetAssetId htarget hnone
      obtain ⟨assetId,hid,_⟩ := hall targetAssetId htarget hnone
      exact ⟨assetId,hid,nofun⟩
    · intro targetAssetId htarget hnone assetId hid
      obtain ⟨assetId',hid',hopen⟩ := hall targetAssetId htarget hnone
      obtain rfl := Except.ok.inj (hid.symm.trans hid')
      exact (hwindows assetId).mp hopen
  · rintro ⟨h,hcovers⟩
    refine ⟨h.noFreeze,h.notCritical,?_⟩
    rcases h.noWindow with hemergency | hparse
    · exact Or.inl hemergency
    rcases hcovers with hemergency | hcovers
    · exact Or.inl hemergency
    refine Or.inr fun targetAssetId htarget hnone => ?_
    obtain ⟨assetId,hid,_⟩ := hparse targetAssetId htarget hnone
    exact ⟨assetId,hid,(hwindows assetId).mpr (hcovers targetAssetId htarget hnone assetId hid)⟩

theorem execute_allowed_iff {justification : Option String} {crId : Uuid} :
    (WindowRequest.execute justification crId).allowed env t user (s.withWindows ws) = true ↔
      (WindowRequest.execute justification crId).Admissible env t user s ∧
        ¬(WindowRequest.execute justification crId).BlockedBy env t user s ws := by
  rw [WindowRequest.allowed,Checks.isOk_iff,executeChangeRequest_ok,WindowRequest.Admissible,
    WindowRequest.BlockedBy,WindowRequest.askedTags]
  constructor
  · rintro ⟨cr,hcr,hid,horg,hst,hgate⟩
    obtain ⟨hbare,hcovers⟩ := gateOpen_withWindows.mp hgate
    have hfound : s.changeOf crId user.organizationId = some cr :=
      changeOf_eq_some.mpr ⟨hcr,hid,horg⟩
    refine ⟨⟨cr,hcr,hid,horg,hst,hbare⟩,?_⟩
    rw [hfound]
    rintro ⟨tags,htags,w,hw,hcovered⟩
    dsimp only at htags
    split at htags
    · cases htags
    · rename_i hemergency
      obtain ⟨targetAssetId,htarget,hsome⟩ := List.mem_filterMap.mp htags
      obtain ⟨hmem,hnone⟩ := List.mem_filter.mp htarget
      obtain ⟨assetId,hparse,rfl⟩ := Option.map_eq_some_iff.mp hsome
      have hfree := hcovers.resolve_left hemergency targetAssetId hmem (by simpa using hnone)
        assetId (Checks.toOption_eq_some.mp hparse) w hw
      rw [hcovered] at hfree
      cases hfree
  · rintro ⟨⟨cr,hcr,hid,horg,hst,hbare⟩,hfree⟩
    refine ⟨cr,hcr,hid,horg,hst,gateOpen_withWindows.mpr ⟨hbare,?_⟩⟩
    have hfound : s.changeOf crId user.organizationId = some cr :=
      changeOf_eq_some.mpr ⟨hcr,hid,horg⟩
    rw [hfound] at hfree
    dsimp only at hfree
    by_cases hemergency : cr.priority = "emergency"
    · exact Or.inl hemergency
    refine Or.inr fun targetAssetId htarget hnone assetId hparse w hw => ?_
    rw [if_neg hemergency] at hfree
    refine Bool.eq_false_iff.mpr fun hcovered => hfree ⟨s.tagsOf assetId,?_,w,hw,hcovered⟩
    refine List.mem_filterMap.mpr ⟨targetAssetId,List.mem_filter.mpr ⟨htarget,by simpa⟩,?_⟩
    rw [Checks.toOption_eq_some.mpr hparse]
    rfl

theorem allowed_iff {r : WindowRequest} : r.allowed env t user (s.withWindows ws) = true ↔
    r.Admissible env t user s ∧ ¬r.BlockedBy env t user s ws := by
  cases r with
  | execute justification crId => exact execute_allowed_iff
  | trigger runbookId context force => exact trigger_allowed_iff

end Allowed

def ownWindows (organizationId : Uuid) (ws : List OwnedWindow) : List OwnedWindow :=
  ws.filter fun w => w.organizationId = organizationId

def foreignWindows (organizationId : Uuid) (ws : List OwnedWindow) : List OwnedWindow :=
  ws.filter fun w => w.organizationId ≠ organizationId

theorem blockedBy_split {env : GateEnv} {t : RunbookTables} {user : User} {s : GateStore}
    {r : WindowRequest} (organizationId : Uuid) (ws : List OwnedWindow) :
    r.BlockedBy env t user s ws ↔ r.BlockedBy env t user s (ownWindows organizationId ws) ∨
      r.BlockedBy env t user s (foreignWindows organizationId ws) := by
  constructor
  · rintro ⟨tags,htags,w,hw,hcovered⟩
    by_cases horg : w.organizationId = organizationId
    · exact Or.inl ⟨tags,htags,w,List.mem_filter.mpr ⟨hw,by simpa using horg⟩,hcovered⟩
    · exact Or.inr ⟨tags,htags,w,List.mem_filter.mpr ⟨hw,by simpa using horg⟩,hcovered⟩
  · rintro (⟨tags,htags,w,hw,hcovered⟩ | ⟨tags,htags,w,hw,hcovered⟩)
    · exact ⟨tags,htags,w,(List.mem_filter.mp hw).1,hcovered⟩
    · exact ⟨tags,htags,w,(List.mem_filter.mp hw).1,hcovered⟩

/-- Databases that differ in windows of other organizations only decide alike unless one of these
windows is what decides. -/
theorem windows_of_others_decide (env : GateEnv) (t : RunbookTables) (user : User) (s : GateStore)
    (r : WindowRequest) (ws ws' : List OwnedWindow)
    (hsame : SameWindowsOf user.organizationId ws ws') :
    r.allowed env t user (s.withWindows ws) = r.allowed env t user (s.withWindows ws') ↔
      (r.Admissible env t user s →
        ¬r.BlockedBy env t user s (ownWindows user.organizationId ws) →
          (r.BlockedBy env t user s (foreignWindows user.organizationId ws) ↔
            r.BlockedBy env t user s (foreignWindows user.organizationId ws'))) := by
  have hown : ownWindows user.organizationId ws = ownWindows user.organizationId ws' := hsame
  rw [Bool.eq_iff_iff,allowed_iff,allowed_iff,blockedBy_split user.organizationId ws,
    blockedBy_split user.organizationId ws',← hown]
  tauto

/-- An approved change on one asset. -/
def samplePatch : GateStore where
  changes := [{
    toChangeRequest := ⟨"cr-1","org-1","user-1",.generic "patch",
      ["12345678-1234-5678-1234-567812345678"],[],.approved,some .medium,none,none⟩ }]
  primaryKey := by simp
  approvals := []
  assets := []
  freezes := []
  windows := []
  policies := []
  started := []

def sampleWindowEnv : GateEnv where
  now := 0
  getPrev := fun _ now => .ok now
  users := fun id => ⟨id,"org-1",.admin⟩
  changeType := fun _ => none

def noRunbookTables : RunbookTables := ⟨id,[],[]⟩

def alwaysOpen (organizationId : Uuid) (enabled : Bool) : OwnedWindow :=
  ⟨⟨"Freeze","* * * * *",60,none,enabled,"hard"⟩,organizationId⟩

def sampleUser : User := ⟨"user-1","org-1",.admin⟩

theorem disabled_window_decides_nothing :
    (WindowRequest.execute none "cr-1").allowed sampleWindowEnv noRunbookTables sampleUser
        (samplePatch.withWindows []) =
      (WindowRequest.execute none "cr-1").allowed sampleWindowEnv noRunbookTables sampleUser
        (samplePatch.withWindows [alwaysOpen "org-2" false]) := by
  refine (windows_of_others_decide sampleWindowEnv noRunbookTables sampleUser samplePatch
    (.execute none "cr-1") [] [alwaysOpen "org-2" false] rfl).mpr fun _ _ => iff_of_false ?_ ?_
  · rintro ⟨_,_,w,hw,_⟩
    cases hw
  · rintro ⟨_,_,w,hw,hcovered⟩
    obtain rfl := List.mem_singleton.mp (List.mem_filter.mp hw).1
    cases hcovered

/-- The window of another organization is in the way of the change. -/
theorem window_of_other_blocks :
    SameWindowsOf "org-1" [] [alwaysOpen "org-2" true] ∧
      (WindowRequest.execute none "cr-1").allowed sampleWindowEnv noRunbookTables sampleUser
        (samplePatch.withWindows []) = true ∧
      (WindowRequest.execute none "cr-1").allowed sampleWindowEnv noRunbookTables sampleUser
        (samplePatch.withWindows [alwaysOpen "org-2" true]) = false :=
  ⟨rfl,by decide +kernel,by decide +kernel⟩

end Nexplane
