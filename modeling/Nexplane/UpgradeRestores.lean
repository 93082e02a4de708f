import Nexplane.UpgradeOutcomes

set_option autoImplicit false

/-! What the rollback of an upgrade restores of the snapshot that the upgrade took. -/

namespace Nexplane
open PyValue

/-- The rollback of a stored result restores `snap` on the asset: it calls for the snapshot, with
the keys that a restore needs. -/
def RestoreCalled (rollback : Dict → Dict → Py UpgradeLog Dict) (cr : ChangeRequest)
    (step : PlanStep) (assetId : String) (snap : EbsSnapshot) (result : Dict) : Prop :=
  ∃ call ∈ (rollback (undoParameters cr step result) result {}).2.restores,
    call.assetId = .str assetId ∧ call.snapshotId = .str snap.snapshotId ∧
      ∀ key ∈ ["instance_id", "root_volume_id", "availability_zone"],
        Dict.getD call.snapshotMeta key .null = Dict.getD snap.meta key .null

variable {env : UpgradeEnv} {cr : ChangeRequest} {step : PlanStep} {parameters p result : Dict}
  {assetId : String} {rest : List String} {log log' : UpgradeLog} {snap : EbsSnapshot}

theorem undoParameters_assetIds : Dict.getD (undoParameters cr step result) "asset_ids" .null =
    Dict.getD result "asset_ids" .null := by
  have hset : ∀ d : Dict, Dict.get? (d.setDefault "org_id" (.str cr.organizationId)) "asset_ids" =
      d.get? "asset_ids" := by
    intro d
    rw [Dict.setDefault]
    split
    · rfl
    · exact Dict.get?_set_of_ne (by decide) _ _
  rw [Dict.getD,undoParameters,hset,Dict.get?_set_of_ne (by decide),Dict.get?_set_of_ne (by decide),
    Dict.get?_set_of_ne (by decide)]
  rfl

theorem firstAssetId_undo (h : Dict.getD result "asset_ids" .null = .null) :
    firstAssetId (undoParameters cr step result) = .ok .null := by
  rw [firstAssetId,undoParameters_assetIds,h]
  rfl

theorem ebsRestore_log (call : RestoreCall) (log : UpgradeLog) :
    (ebsRestore env call log).2 = { log with restores := log.restores ++ [call] } := by
  simp only [ebsRestore,Py.modify_bind]
  split
  · cases hrestore : env.restore call <;> rfl
  · rfl

/-- What comes after a restore that is called first calls for no other one. -/
theorem restores_only {f : Except Exc Dict → Py UpgradeLog Dict} (call : RestoreCall)
    (hf : ∀ r s, (f r s).2.restores = s.restores) :
    ((Py.attempt (ebsRestore env call) >>= f) {}).2.restores = [call] := by
  rw [Py.attempt_bind,hf,ebsRestore_log]
  rfl

theorem restores_then {f : Dict → Py UpgradeLog Dict} (call : RestoreCall)
    (hf : ∀ r s, (f r s).2.restores = s.restores) :
    ((ebsRestore env call >>= f) {}).2.restores = [call] := by
  have hlog : (ebsRestore env call {}).2 = _ := ebsRestore_log call {}
  rw [Py.bind_run]
  rcases hrun : ebsRestore env call {} with ⟨_ | d,t⟩ <;> rw [hrun] at hlog <;> obtain rfl := hlog
  · rfl
  · exact hf d _

theorem json_str_truthy {text : String} (h : text ≠ "") : (Json.str text).truthy = true := by
  simpa [Json.truthy] using h

section Taken

/-- A phase for the snapshot that starts from nothing leaves in the log what it returns. -/
def Taken (outcome : Except Exc (Option EbsSnapshot) × UpgradeLog) : Prop :=
  outcome.2.snapshots = (outcome.1.toOption.getD none).toList

theorem Taken.ofExcept_bind {α : Type} {x : Except Exc α}
    {f : α → Py UpgradeLog (Option EbsSnapshot)} (h : ∀ a, Taken (f a {})) :
    Taken ((Py.ofExcept x >>= f) {}) := by
  cases x with
  | error e => rfl
  | ok a => exact h a

theorem Taken.ebsTake (instanceId : Json) :
    Taken ((do let snap ← ebsTake env instanceId; pure (some snap)) {}) := by
  simp only [Nexplane.ebsTake]
  cases env.takeSnapshot instanceId <;> simp [Taken,Py.bind_run,Except.toOption]

theorem Taken.tryExcept {x : Py UpgradeLog (Option EbsSnapshot)}
    {handler : Exc → Py UpgradeLog (Option EbsSnapshot)} (hx : Taken (x {}))
    (hhandler : ∀ e s, s.snapshots = [] → Taken (handler e s)) :
    Taken (Py.tryExcept x handler {}) := by
  simp only [Py.tryExcept]
  rcases hrun : x {} with ⟨e | snapshot,t⟩ <;> rw [hrun] at hx
  · exact hhandler e t hx
  · exact hx

theorem kernelTakeSnapshot_taken : Taken (kernelTakeSnapshot env assetId {}) := by
  refine Taken.tryExcept (Taken.ofExcept_bind fun creds => ?_) fun e s hs => hs
  split
  · exact Taken.ebsTake _
  · rfl

end Taken

def sampleEbsSnapshot : EbsSnapshot :=
  ⟨"snap-1","vol-1","/dev/sda1","eu-west-1a","eu-west-1","i-1",by decide⟩

/-- The same on an instance with a volume. -/
def reportingCloud (text : String) : UpgradeEnv := { reporting text with
  asset := fun _ => .ok (some (.obj [("instance_id",.str "i-1")]))
  awsCreds := .ok [("access_key_id",.str "key")]
  takeSnapshot := fun _ => .ok sampleEbsSnapshot }

section KernelUpgrade

variable {target previousKernel : Json} {pf : Dict} {snapshot : Option EbsSnapshot}

/-- The statuses of a kernel upgrade whose results hold the keys of the snapshot. -/
def keepsSnapshot (result : Dict) : Bool :=
  (Dict.getD result "status" .null).isStr "completed" ||
    (Dict.getD result "phase" .null).isStr "reboot_wait"

structure KernelResult (assetId : String) (snapshot : Option EbsSnapshot) (result : Dict) :
    Prop where
  assetId : Dict.getD result "asset_id" .null = .str assetId
  snapshotId : Dict.getD result "snapshot_id" .null = snapKey snapshot "snapshot_id"
  keys : keepsSnapshot result = true ∧
      (∀ key ∈ ["instance_id", "root_volume_id", "availability_zone"],
        Dict.getD result key .null = snapKey snapshot key) ∨
    keepsSnapshot result = false ∧ Dict.getD result "instance_id" .null = .null

theorem grubRollback_keeps (l : UpgradeLog) (asset : Json) :
    Py.Keeps (fun s => s = l) (grubRollback env asset previousKernel) := by
  unfold grubRollback
  refine Py.Keeps.ite (Py.Keeps.pure _) (Py.Keeps.bind (Py.Keeps.attempt (Py.Keeps.ofExcept _)) ?_)
  intro answer
  cases answer <;> exact Py.Keeps.pure _

theorem kernelRollback_keeps (l : List EbsSnapshot) (asset : Json) (snapResult : Dict) :
    Py.Keeps (fun s => s.snapshots = l) (kernelRollback env asset previousKernel snapResult) := by
  have hgrub : Py.Keeps (fun s => s.snapshots = l) (grubRollback env asset previousKernel) :=
    fun s hs => (congrArg UpgradeLog.snapshots (grubRollback_keeps s asset s rfl)).trans hs
  refine Py.Keeps.ite (Py.Keeps.bind (Py.Keeps.attempt ?_) fun answer => ?_) hgrub
  · intro s hs
    rw [ebsRestore_log]
    exact hs
  · cases answer with
    | ok restore => exact Py.Keeps.pure _
    | error e => exact hgrub

theorem kernelFinish_result {verify check : Dict}
    (h : kernelFinish env assetId target previousKernel pf snapshot verify check log =
      (.ok result,log')) :
    log'.snapshots = log.snapshots ∧ KernelResult assetId snapshot result := by
  rw [kernelFinish] at h
  split at h
  · obtain ⟨rollback,t,hrollback,h⟩ := Py.bind_eq_ok.mp h
    obtain ⟨rfl,rfl⟩ := pure_eq_ok.mp h
    exact ⟨(kernelRollback_keeps _ _ _).run hrollback rfl,rfl,rfl,.inr ⟨rfl,rfl⟩⟩
  · obtain ⟨rfl,rfl⟩ := pure_eq_ok.mp h
    refine ⟨rfl,rfl,rfl,.inl ⟨rfl,?_⟩⟩
    simp only [List.forall_mem_cons]
    exact ⟨rfl,rfl,rfl,by simp⟩

theorem kernelVerify_result
    (h : kernelVerify env assetId target previousKernel pf snapshot log = (.ok result,log')) :
    log'.snapshots = log.snapshots ∧ KernelResult assetId snapshot result := by
  simp only [kernelVerify] at h
  obtain ⟨verify,t,hverify,h⟩ := Py.bind_eq_ok.mp h
  obtain rfl := (dispatch_eq_ok.mp hverify).2
  split at h
  · obtain ⟨rollback,t,hrollback,h⟩ := Py.bind_eq_ok.mp h
    obtain ⟨rfl,rfl⟩ := pure_eq_ok.mp h
    exact ⟨(kernelRollback_keeps _ _ _).run hrollback rfl,rfl,rfl,.inr ⟨rfl,rfl⟩⟩
  · obtain ⟨first,t,hfirst,h⟩ := Py.bind_eq_ok.mp h
    obtain rfl := (dispatch_eq_ok.mp hfirst).2
    split at h
    · exact kernelFinish_result h
    · obtain ⟨check,t,hcheck,h⟩ := Py.bind_eq_ok.mp h
      obtain rfl := (dispatch_eq_ok.mp hcheck).2
      exact kernelFinish_result h

theorem kernelFromSnapshot_result
    (h : kernelFromSnapshot env p assetId target pf snapshot log = (.ok result,log')) :
    log'.snapshots = log.snapshots ∧ KernelResult assetId snapshot result := by
  simp only [kernelFromSnapshot,kernelInstall] at h
  split at h
  · obtain ⟨rfl,rfl⟩ := pure_eq_ok.mp h
    exact ⟨rfl,rfl,rfl,.inr ⟨rfl,rfl⟩⟩
  · obtain ⟨installed,t,hinstall,h⟩ := Py.bind_eq_ok.mp h
    obtain rfl := (dispatch_eq_ok.mp hinstall).2
    split at h
    · obtain ⟨rfl,rfl⟩ := pure_eq_ok.mp h
      exact ⟨rfl,rfl,rfl,.inr ⟨rfl,rfl⟩⟩
    · split at h
      · obtain ⟨rfl,rfl⟩ := pure_eq_ok.mp h
        refine ⟨rfl,rfl,rfl,.inl ⟨rfl,?_⟩⟩
        simp only [List.forall_mem_cons]
        exact ⟨rfl,rfl,rfl,by simp⟩
      · exact kernelVerify_result h

/-- The rollback of a kernel upgrade calls for the snapshot that the result names, with the keys of
the result, whatever they are. -/
theorem kernelRollbackModule_restores {snapshotId : String} (hid : assetId ≠ "")
    (hasset : Dict.getD result "asset_id" .null = .str assetId) (hnamed : snapshotId ≠ "")
    (hsnapshot : Dict.getD result "snapshot_id" .null = .str snapshotId) :
    (kernelRollbackModule env p result {}).2.restores = [⟨.str assetId,.str snapshotId,
      ["snapshot_id", "instance_id", "root_volume_id", "root_device_name", "availability_zone",
        "region"].map fun key => (key,Dict.getD result key .null)⟩] := by
  have hlast : ∀ (x : Py UpgradeLog Dict) (g : Dict → Dict),
      ((x >>= fun r => pure (g r)) {}).2 = (x {}).2 := by
    intro x g
    rw [Py.bind_run]
    rcases x {} with ⟨_ | _,_⟩ <;> rfl
  have hkey : Dict.getD (["snapshot_id", "instance_id", "root_volume_id", "root_device_name",
      "availability_zone", "region"].map fun key => (key,Dict.getD result key .null)) "snapshot_id"
      .null = .str snapshotId := hsnapshot
  simp only [kernelRollbackModule,hasset,Json.orElse,json_str_truthy hid,Py.pure_bind_run,if_true,
    Bool.not_true,Bool.false_eq_true,if_false]
  rw [hlast,kernelRollback,hkey,if_pos (json_str_truthy hnamed)]
  refine restores_only _ fun r s => ?_
  cases r with
  | ok restore => rfl
  | error e => exact congrArg UpgradeLog.restores (grubRollback_keeps s _ s rfl)

/-- A kernel upgrade is undone by its snapshot where it completed, or where the host did not come
back from its reboot. -/
theorem kernel_restores_iff (hid : assetId ≠ "")
    (h : kernelExecute env parameters (assetId :: rest) {} = (.ok result,log))
    (hsnap : snap ∈ log.snapshots) :
    RestoreCalled (kernelRollbackModule env) cr step assetId snap result ↔
      keepsSnapshot result = true := by
  obtain ⟨p,-,h⟩ := Py.ofExcept_bind_eq_ok.mp h
  split at h
  · cases h
  obtain ⟨pf,t,hpreflight,h⟩ := Py.bind_eq_ok.mp h
  obtain rfl := (dispatch_eq_ok.mp hpreflight).2
  split at h
  · obtain ⟨-,rfl⟩ := Prod.mk.inj h
    cases hsnap
  obtain ⟨_,-,h⟩ := Py.ofExcept_bind_eq_ok.mp h
  obtain ⟨snapshot,t,htaken,h⟩ : ∃ snapshot t, t.snapshots = Option.toList snapshot ∧
      kernelFromSnapshot env p assetId (p.getD "target_kernel" (.str "")) pf snapshot t =
        (.ok result,log) := by
    split at h <;> obtain ⟨snapshot,t,hsnapshot,h⟩ := Py.bind_eq_ok.mp h
    · obtain ⟨rfl,rfl⟩ := pure_eq_ok.mp hsnapshot
      exact ⟨none,_,rfl,h⟩
    · have htaken : Taken (kernelTakeSnapshot env assetId {}) := kernelTakeSnapshot_taken
      rw [hsnapshot] at htaken
      exact ⟨snapshot,t,htaken,h⟩
  obtain ⟨hsame,hasset,hsnapshot,hkeys⟩ := kernelFromSnapshot_result h
  rw [hsame,htaken] at hsnap
  obtain rfl := Option.mem_toList.mp hsnap
  rw [RestoreCalled,kernelRollbackModule_restores hid hasset snap.named.1 hsnapshot]
  simp only [List.mem_singleton,exists_eq_left,true_and]
  rcases hkeys with ⟨hkept,hkeys⟩ | ⟨hlost,hnull⟩
  · refine iff_of_true ?_ hkept
    simp only [List.forall_mem_cons] at hkeys ⊢
    exact ⟨hkeys.1,hkeys.2.1,hkeys.2.2.1,by simp⟩
  · rw [hlost]
    refine iff_of_false (fun hall => ?_) Bool.false_ne_true
    have hinstance : Dict.getD result "instance_id" .null = .str snap.instanceId :=
      hall "instance_id" (by simp)
    rw [hnull] at hinstance
    cases hinstance

theorem upgraded_kernel_restores : ∃ result,
    (kernelExecute (reportingCloud "6.1.0") [("target_kernel",.str "6.1.0")] ["host-1"] {}).1 =
      .ok result ∧
    ∀ cr step, RestoreCalled (kernelRollbackModule (reportingCloud "6.1.0")) cr step "host-1"
      sampleEbsSnapshot result := by
  obtain ⟨result,log,hrun,hsnap,hkept⟩ : ∃ result log,
      kernelExecute (reportingCloud "6.1.0") [("target_kernel",.str "6.1.0")] ["host-1"] {} =
        (.ok result,log) ∧ sampleEbsSnapshot ∈ log.snapshots ∧ keepsSnapshot result = true :=
    ⟨_,_,rfl,List.mem_singleton_self _,rfl⟩
  exact ⟨result,congrArg Prod.fst hrun,
    fun _ _ => (kernel_restores_iff (by decide) hrun hsnap).mpr hkept⟩

end KernelUpgrade

section DatabaseUpgrade

variable {snapshotResult upgradeResult : Dict}

def EbsSnapshot.record (snap : EbsSnapshot) (now : String) : Dict :=
  [("snapshot_type",.str "ebs_snapshot"),("snapshot_id",.str snap.snapshotId),
    ("snapshot_meta",.obj snap.meta),("snapshot_completed_at",.str now)]

structure DbResult (assetId : String) (snapshotResult result : Dict) : Prop where
  snapshot : subDict result "snapshot_result" = .ok snapshotResult
  assetIds : Dict.getD result "asset_ids" .null = .null
  assetId : Dict.getD result "asset_id" .null =
    if (Dict.getD result "status" .null).isStr "upgrade_failed" then .null else .str assetId

theorem dbTakeSnapshot_taken (h : dbTakeSnapshot env assetId p {} = (.ok result,log)) :
    log.snapshots = [] ∨ ∃ snap, log.snapshots = [snap] ∧ result = snap.record env.now := by
  rw [dbTakeSnapshot] at h
  split at h
  · obtain ⟨asset,-,h⟩ := Py.ofExcept_bind_eq_ok.mp h
    obtain ⟨instanceId,-,h⟩ := Py.ofExcept_bind_eq_ok.mp h
    split at h
    · cases h
    · obtain ⟨snap,t,htake,h⟩ := Py.bind_eq_ok.mp h
      obtain ⟨rfl,rfl⟩ := pure_eq_ok.mp h
      obtain ⟨taken,-,htake⟩ := Py.ofExcept_bind_eq_ok.mp htake
      obtain ⟨rfl,rfl⟩ := pure_eq_ok.mp htake
      exact .inr ⟨taken,rfl,rfl⟩
  · exact .inl (congrArg UpgradeLog.snapshots (Prod.mk.inj h).2.symm)

theorem dbUpgrade_keeps (l : UpgradeLog) : Py.Keeps (fun s => s = l) (dbUpgrade env assetId p) :=
  (Py.Keeps.ofExcept _).bind fun _ => Py.Keeps.pure _

theorem dbVerify_keeps (l : UpgradeLog) :
    Py.Keeps (fun s => s = l) (dbVerify env assetId p upgradeResult) :=
  (Py.Keeps.ofExcept _).bind fun _ => (Py.Keeps.ofExcept _).bind fun _ =>
    (Py.Keeps.ofExcept _).bind fun _ => Py.Keeps.pure _

theorem dbFromUpgrade_keeps (l : UpgradeLog) :
    Py.Keeps (fun s => s = l) (dbFromUpgrade env assetId p snapshotResult) := by
  refine (dbUpgrade_keeps l).attempt.bind fun answer => ?_
  cases answer with
  | error e => exact Py.Keeps.pure _
  | ok upgradeResult => exact (dbVerify_keeps l).bind fun _ => Py.Keeps.pure _

theorem dbFromUpgrade_result
    (h : dbFromUpgrade env assetId p (snap.record env.now) log = (.ok result,log')) :
    DbResult assetId (snap.record env.now) result := by
  obtain ⟨answer,t,-,h⟩ := Py.bind_eq_ok.mp h
  cases answer with
  | error e =>
    obtain rfl := Except.ok.inj (Prod.mk.inj h).1
    exact ⟨rfl,rfl,rfl⟩
  | ok upgradeResult =>
    obtain ⟨verifyResult,t',-,h⟩ := Py.bind_eq_ok.mp h
    obtain rfl := Except.ok.inj (Prod.mk.inj h).1
    refine ⟨rfl,rfl,?_⟩
    change Json.str assetId = if (Json.str (if _ then "completed" else "verify_failed")).isStr
      "upgrade_failed" then .null else .str assetId
    cases (Dict.getD verifyResult "verify_status" (.str "failed")).isStr "passed" <;> rfl

theorem dbRollback_restores {assetJson : Json}
    (hsnapshot : subDict result "snapshot_result" = .ok (snap.record env.now))
    (hassets : Dict.getD result "asset_ids" .null = .null)
    (hasset : (Dict.getD result "asset_id" .null).orElse (.str "None") = assetJson) :
    (dbRollback env (undoParameters cr step result) result {}).2.restores =
      [⟨assetJson,.str snap.snapshotId,snap.meta⟩] := by
  have hnamed : Dict.truthy (snap.record env.now) "snapshot_id" = true :=
    json_str_truthy snap.named.1
  have hinstance : Dict.truthy snap.meta "instance_id" = true :=
    json_str_truthy snap.named.2.2.2
  have hmeta : dictOf (Dict.getD (snap.record env.now) "snapshot_meta" (.obj [])) =
      .ok snap.meta := rfl
  have hindex : (Json.obj (snap.record env.now)).index "snapshot_id" =
      .ok (.str snap.snapshotId) := rfl
  have hcall : ∀ g : Exc → Dict, (Py.tryExcept (dbRollbackEbs env assetJson (snap.record env.now))
      (fun e => pure (g e)) {}).2.restores = [⟨assetJson,.str snap.snapshotId,snap.meta⟩] := by
    intro g
    have hebs : (dbRollbackEbs env assetJson (snap.record env.now) {}).2.restores =
        [⟨assetJson,.str snap.snapshotId,snap.meta⟩] := by
      simp only [dbRollbackEbs,hindex,hmeta,hinstance,Py.ofExcept_ok_bind,Bool.not_true,
        Bool.false_eq_true,if_false]
      exact restores_then _ fun _ _ => rfl
    rw [← hebs,Py.tryExcept]
    rcases dbRollbackEbs env assetJson (snap.record env.now) {} with ⟨_ | _,_⟩ <;> rfl
  rw [dbRollback,hsnapshot,Py.ofExcept_ok_bind,if_neg (by rw [hnamed]; exact Bool.false_ne_true)]
  dsimp only
  split
  next hgiven =>
    rw [Json.orElse,if_pos hgiven] at hasset
    rw [Py.pure_bind_run,Json.orElse,if_pos hgiven,hasset]
    exact hcall _
  next hgiven =>
    rw [Json.orElse,if_neg hgiven] at hasset
    rw [firstAssetId_undo hassets,Py.ofExcept_ok_bind,Json.orElse,if_neg hgiven]
    subst hasset
    exact hcall _

/-- A database upgrade is undone by the volume's snapshot unless the upgrade itself raised: its
result does not say which asset it is about. -/
theorem db_restores_iff (hid : assetId ≠ "")
    (h : dbExecute env parameters (assetId :: rest) {} = (.ok result,log))
    (hsnap : snap ∈ log.snapshots) :
    RestoreCalled (dbRollback env) cr step assetId snap result ↔
      (Dict.getD result "status" .null).isStr "upgrade_failed" = false ∨ assetId = "None" := by
  simp only [dbExecute] at h
  cases hdefaults : engineDefaults (parameters.getD "engine" .null) with
  | none =>
    rw [hdefaults] at h
    cases h
  | some defaults =>
    rw [hdefaults] at h
    obtain ⟨p,-,h⟩ := Py.ofExcept_bind_eq_ok.mp h
    obtain ⟨_,-,h⟩ := Py.ofExcept_bind_eq_ok.mp h
    obtain ⟨preflight,t,hpreflight,h⟩ := Py.bind_eq_ok.mp h
    obtain rfl := (dispatch_eq_ok.mp hpreflight).2
    split at h
    · obtain ⟨-,rfl⟩ := Prod.mk.inj h
      cases hsnap
    obtain ⟨snapshotResult,t,htaken,h⟩ : ∃ r t,
        (t.snapshots = [] ∨ ∃ snap : EbsSnapshot, t.snapshots = [snap] ∧ r = snap.record env.now) ∧
          dbFromUpgrade env assetId p r t = (.ok result,log) := by
      split at h <;> obtain ⟨snapshotResult,t,hsnapshot,h⟩ := Py.bind_eq_ok.mp h
      · obtain ⟨-,rfl⟩ := Prod.mk.inj hsnapshot
        exact ⟨snapshotResult,_,.inl rfl,h⟩
      · exact ⟨snapshotResult,t,dbTakeSnapshot_taken hsnapshot,h⟩
    obtain rfl := (dbFromUpgrade_keeps t).run h rfl
    rcases htaken with hnone | ⟨taken,htaken,rfl⟩
    · rw [hnone] at hsnap
      cases hsnap
    rw [htaken] at hsnap
    obtain rfl := List.mem_singleton.mp hsnap
    obtain ⟨hsnapshot,hassets,hasset⟩ := dbFromUpgrade_result h
    rw [RestoreCalled,dbRollback_restores hsnapshot hassets rfl,hasset]
    simp only [List.mem_singleton,exists_eq_left,true_and]
    cases hfailed : (Dict.getD result "status" .null).isStr "upgrade_failed" with
    | true => simp [Json.orElse,Json.truthy,eq_comm]
    | false => simp [Json.orElse,json_str_truthy hid]

theorem upgraded_database_restores : ∃ result,
    (dbExecute (reportingCloud "PostgreSQL 14.2") [("engine",.str "postgres"),
      ("target_version",.str "14"),("strategy",.str "in_place")] ["db-1"] {}).1 = .ok result ∧
    ∀ cr step, RestoreCalled (dbRollback (reportingCloud "PostgreSQL 14.2")) cr step "db-1"
      sampleEbsSnapshot result := by
  obtain ⟨result,log,hrun,hsnap,hstatus⟩ : ∃ result log,
      dbExecute (reportingCloud "PostgreSQL 14.2") [("engine",.str "postgres"),
        ("target_version",.str "14"),("strategy",.str "in_place")] ["db-1"] {} = (.ok result,log) ∧
      sampleEbsSnapshot ∈ log.snapshots ∧
      (Dict.getD result "status" .null).isStr "upgrade_failed" = false :=
    ⟨_,_,rfl,List.mem_singleton_self _,rfl⟩
  exact ⟨result,congrArg Prod.fst hrun,
    fun _ _ => (db_restores_iff (by decide) hrun hsnap).mpr (.inl hstatus)⟩

end DatabaseUpgrade

end Nexplane
