import Nexplane.DatabaseUpgrade
import Nexplane.StepRollback

set_option autoImplicit false

/-! When an upgrade is reported as completed, and what a later rollback restores. -/

namespace Nexplane
open PyValue Text

section Versions

/-- The digits and dots that come first in a text. -/
def versionIn (text : List Char) : List Char :=
  (text.dropWhile fun c => !c.isDigit).takeWhile fun c => c.isDigit || c = '.'

def components (version : List Char) : List Nat :=
  (version.splitOn '.').map fun digits => digits.foldl (fun n c => 10 * n + (c.toNat - 48)) 0

/-- The version that is reported equals or extends the target. -/
def ServerOn (target text : String) : Prop :=
  components target.toList <+: components (versionIn text.toList)

instance : DecidableRel ServerOn := fun _ _ => inferInstanceAs (Decidable (_ <+: _))

/-- The server reports `text` when it is asked for its version, and the checks before an upgrade do
not say that it is completed. -/
structure ReportsServer (env : UpgradeEnv) (text : String) : Prop where
  query : ∀ q a d, env.dispatch "db_version_query" q a = .ok d →
    d.getD "stdout" (.str "") = .str text
  preflight : ∀ q a d, env.dispatch "db_preflight" q a = .ok d →
    (d.getD "status" .null).isStr "completed" = false

/-- The host runs the kernel `text` when it is asked for it. -/
def RunsKernel (env : UpgradeEnv) (text : String) : Prop :=
  ∀ q a d, env.dispatch "verify_kernel_upgrade" q a = .ok d → d = verifyKernelOS env.now q text

/-- A database upgrade to `target` is completed only on a server of this version. -/
def ServerVerified (target text : String) : Prop :=
  ∀ env parameters assetIds log result log', ReportsServer env text →
    Dict.getD parameters "target_version" .null = .str target →
    dbExecute env parameters assetIds log = (.ok result,log') →
    (Dict.getD result "status" .null).isStr "completed" = true → ServerOn target text

/-- A kernel upgrade to `target` is completed only on this kernel. -/
def KernelVerified (target text : String) : Prop :=
  ∀ env parameters assetIds log result log' p, RunsKernel env text →
    upgradeParams parameters = .ok p →
    Dict.getD p "target_kernel" (.str "") = .str target →
    kernelExecute env parameters assetIds log = (.ok result,log') →
    (Dict.getD result "status" .null).isStr "completed" = true → text = target

end Versions

section Completed

variable {env : UpgradeEnv} {log log' : UpgradeLog} {assetId target text : String}
  {parameters p pf d result : Dict}

theorem dispatch_eq_ok {command : String} {asset : Json} :
    dispatchAgentJob env command parameters asset log = (.ok d,log') ↔
      env.dispatch command parameters asset = .ok d ∧ log = log' := Prod.mk.injEq ..|>.to_iff

theorem pure_eq_ok {α : Type} {a b : α} :
    (pure a : Py UpgradeLog α) log = (.ok b,log') ↔ a = b ∧ log = log' := by
  rw [Py.pure_run,Prod.mk.injEq,Except.ok.injEq]

theorem resolveDbParams_target {engine : Json} {defaults : Int × String}
    (h : resolveDbParams parameters engine defaults = .ok p)
    (htarget : parameters.getD "target_version" .null = .str target) :
    p.getD "target_version" .null = .str target := by
  rw [resolveDbParams] at h
  obtain ⟨target',hindex,h⟩ := Checks.bind_eq_ok.mp h
  obtain rfl := Except.ok.inj h
  cases hget : Dict.get? parameters "target_version" with
  | none =>
    rw [Json.index,hget] at hindex
    cases hindex
  | some v =>
    rw [Json.index,hget] at hindex
    obtain rfl := Except.ok.inj hindex
    rw [Dict.getD,hget] at htarget
    simpa [Dict.getD,Dict.get?,List.lookup_cons] using htarget

theorem dbVerify_passed {upgradeResult : Dict}
    (h : dbVerify env assetId p upgradeResult log = (.ok d,log')) (hserver : ReportsServer env text)
    (htarget : p.getD "target_version" .null = .str target)
    (hpassed : (d.getD "verify_status" (.str "failed")).isStr "passed" = true) :
    hasText target text = true := by
  obtain ⟨port,_,_,h⟩ := Py.bind_eq_ok.mp h
  obtain ⟨answer,_,hquery,h⟩ := Py.bind_eq_ok.mp h
  obtain ⟨⟨smoke,stdout⟩,_,hsmoke,h⟩ := Py.bind_eq_ok.mp h
  rw [Py.ofExcept_run,hserver.query _ _ _ (dispatch_eq_ok.mp hquery).1,htarget,smokeOk] at hsmoke
  obtain ⟨rfl,-⟩ := Prod.mk.inj (Except.ok.inj (Prod.mk.inj hsmoke).1)
  obtain rfl := Except.ok.inj (Prod.mk.inj h).1
  by_contra hmissing
  simp [hmissing,Dict.getD,Json.isStr] at hpassed

theorem dbFromUpgrade_completed {snapshotResult : Dict}
    (h : dbFromUpgrade env assetId p snapshotResult log = (.ok d,log'))
    (hserver : ReportsServer env text) (htarget : p.getD "target_version" .null = .str target)
    (hcompleted : (d.getD "status" .null).isStr "completed" = true) :
    hasText target text = true := by
  rw [dbFromUpgrade,Py.attempt_bind] at h
  cases hupgrade : (dbUpgrade env assetId p log).1 with
  | error e =>
    rw [hupgrade] at h
    obtain rfl := Except.ok.inj (Prod.mk.inj h).1
    simp [Dict.getD,Json.isStr] at hcompleted
  | ok upgradeResult =>
    rw [hupgrade] at h
    obtain ⟨verifyResult,_,hverify,h⟩ := Py.bind_eq_ok.mp h
    obtain rfl := Except.ok.inj (Prod.mk.inj h).1
    cases hpassed : (Dict.getD verifyResult "verify_status" (.str "failed")).isStr "passed" with
    | true => exact dbVerify_passed hverify hserver htarget hpassed
    | false =>
      change (Json.str (if _ then "completed" else "verify_failed")).isStr "completed" = true
        at hcompleted
      rw [hpassed] at hcompleted
      simp [Json.isStr] at hcompleted

theorem dbExecute_completed {assetIds : List String}
    (h : dbExecute env parameters assetIds log = (.ok d,log')) (hserver : ReportsServer env text)
    (htarget : parameters.getD "target_version" .null = .str target)
    (hcompleted : (d.getD "status" .null).isStr "completed" = true) :
    hasText target text = true := by
  rcases assetIds with _ | ⟨assetId,rest⟩
  · cases h
  simp only [dbExecute] at h
  cases hdefaults : engineDefaults (parameters.getD "engine" .null) with
  | none =>
    rw [hdefaults] at h
    cases h
  | some defaults =>
    rw [hdefaults] at h
    obtain ⟨p,_,hparams,h⟩ := Py.bind_eq_ok.mp h
    obtain ⟨_,_,_,h⟩ := Py.bind_eq_ok.mp h
    obtain ⟨preflight,_,hpreflight,h⟩ := Py.bind_eq_ok.mp h
    split at h
    · obtain rfl := Except.ok.inj (Prod.mk.inj h).1
      rw [hserver.preflight _ _ _ (dispatch_eq_ok.mp hpreflight).1] at hcompleted
      cases hcompleted
    · obtain ⟨snapshotResult,t,h⟩ : ∃ snapshotResult t,
          dbFromUpgrade env assetId p snapshotResult t = (.ok d,log') := by
        split at h <;> obtain ⟨snapshotResult,t,_,h⟩ := Py.bind_eq_ok.mp h <;>
          exact ⟨snapshotResult,t,h⟩
      exact dbFromUpgrade_completed h hserver
        (resolveDbParams_target (Prod.mk.inj hparams).1 htarget) hcompleted

theorem kernelVerify_completed {previousKernel : Json} {snapshot : Option EbsSnapshot}
    (h : kernelVerify env assetId (.str target) previousKernel pf snapshot log = (.ok d,log'))
    (hkernel : RunsKernel env text)
    (hcompleted : (d.getD "status" .null).isStr "completed" = true) :
    versionMatch target text = true := by
  rw [kernelVerify] at h
  obtain ⟨verify,_,hverify,h⟩ := Py.bind_eq_ok.mp h
  obtain rfl := hkernel _ _ _ (dispatch_eq_ok.mp hverify).1
  split at h
  · obtain ⟨rollback,_,_,h⟩ := Py.bind_eq_ok.mp h
    obtain rfl := Except.ok.inj (Prod.mk.inj h).1
    simp [Dict.getD,Json.isStr] at hcompleted
  next hverified =>
    simpa [verifyKernelOS,Dict.truthy,Dict.getD,Dict.get?,List.lookup_cons,Json.truthy,Json.textOf]
      using hverified

theorem kernelInstall_completed {snapshot : Option EbsSnapshot}
    (h : kernelInstall env assetId (.str target) pf snapshot log = (.ok d,log'))
    (hkernel : RunsKernel env text)
    (hcompleted : (d.getD "status" .null).isStr "completed" = true) :
    versionMatch target text = true := by
  simp only [kernelInstall] at h
  obtain ⟨answer,_,_,h⟩ := Py.bind_eq_ok.mp h
  split at h
  · obtain rfl := Except.ok.inj (Prod.mk.inj h).1
    simp [Dict.getD,Json.isStr] at hcompleted
  · split at h
    · obtain rfl := Except.ok.inj (Prod.mk.inj h).1
      simp [Dict.getD,Json.isStr] at hcompleted
    · exact kernelVerify_completed h hkernel hcompleted

theorem kernelExecute_completed {assetIds : List String}
    (h : kernelExecute env parameters assetIds log = (.ok d,log')) (hkernel : RunsKernel env text)
    (hparams : upgradeParams parameters = .ok p)
    (htarget : p.getD "target_kernel" (.str "") = .str target)
    (hcompleted : (d.getD "status" .null).isStr "completed" = true) :
    versionMatch target text = true := by
  rcases assetIds with _ | ⟨assetId,rest⟩
  · cases h
  simp only [kernelExecute,hparams,Py.ofExcept_ok_bind,htarget] at h
  split at h
  · cases h
  obtain ⟨pf,_,_,h⟩ := Py.bind_eq_ok.mp h
  split at h
  · obtain rfl := Except.ok.inj (Prod.mk.inj h).1
    simp [Dict.getD,Json.isStr] at hcompleted
  · obtain ⟨_,_,_,h⟩ := Py.bind_eq_ok.mp h
    obtain ⟨snapshot,t,h⟩ : ∃ snapshot t,
        kernelFromSnapshot env p assetId (.str target) pf snapshot t = (.ok d,log') := by
      split at h <;> obtain ⟨snapshot,t,_,h⟩ := Py.bind_eq_ok.mp h <;> exact ⟨snapshot,t,h⟩
    rw [kernelFromSnapshot] at h
    split at h
    · obtain rfl := Except.ok.inj (Prod.mk.inj h).1
      simp [Dict.getD,Json.isStr] at hcompleted
    · exact kernelInstall_completed h hkernel hcompleted

end Completed

section Verified

/-- Everything succeeds on a host that reports `text`. -/
def reporting (text : String) : UpgradeEnv where
  dispatch := fun command q _ =>
    if command = "db_version_query" then .ok [("stdout",.str text)]
    else if command = "verify_kernel_upgrade" then .ok (verifyKernelOS "2026-01-01" q text)
    else if command = "verify_services_post_kernel_upgrade" then
      .ok [("services_healthy",.bool true)]
    else .ok []
  asset := fun _ => .ok none
  awsCreds := .ok []
  takeSnapshot := fun _ => .error (.runtimeError "no cloud")
  restore := fun _ => .error (.runtimeError "no cloud")
  waitForAgent := true
  httpGet := fun _ => none
  toInt := fun _ => .error .typeError
  otherSnapshot := fun _ _ => .ok []
  otherRollback := fun _ _ _ => .ok []
  printable := fun _ => true
  now := "2026-01-01"

theorem reporting_server (text : String) : ReportsServer (reporting text) text where
  query := by
    intro q a d h
    obtain rfl := Except.ok.inj h
    rfl
  preflight := by
    intro q a d h
    obtain rfl := Except.ok.inj h
    rfl

theorem reporting_kernel (text : String) : RunsKernel (reporting text) text := by
  intro q a d h
  exact (Except.ok.inj h).symm

variable {target text : String}

def serverRequest (target : String) : Dict :=
  [("engine",.str "postgres"),("target_version",.str target),("strategy",.str "in_place"),
    ("skip_snapshot",.bool true)]

theorem reporting_job (text : String) {command : String} (q : Dict) (a : Json) (log : UpgradeLog)
    (hquery : command ≠ "db_version_query") (hkernel : command ≠ "verify_kernel_upgrade")
    (hservices : command ≠ "verify_services_post_kernel_upgrade") :
    dispatchAgentJob (reporting text) command q a log = (.ok [],log) := by
  simp [dispatchAgentJob,reporting,hquery,hkernel,hservices]

theorem server_upgraded (h : hasText target text = true) : ∃ result log',
    dbExecute (reporting text) (serverRequest target) ["db-1"] {} = (.ok result,log') ∧
    (Dict.getD result "status" .null).isStr "completed" = true := by
  obtain ⟨p,hparams,hdry,hskip,hengine,hstrategy,hport,hurl,htarget⟩ : ∃ p,
      resolveDbParams (serverRequest target) (.str "postgres") (5432,"postgres") = .ok p ∧
      p.truthy "dry_run" = false ∧ p.truthy "skip_snapshot" = true ∧
      p.getD "engine" .null = .str "postgres" ∧ p.getD "strategy" .null = .str "in_place" ∧
      p.getD "db_port" .null = .int 5432 ∧ p.getD "health_check_url" .null = .null ∧
      p.getD "target_version" .null = .str target := ⟨_,rfl,rfl,rfl,rfl,rfl,rfl,rfl,rfl⟩
  have hrequire : requireSnapshot (reporting text) "db-1" p = .ok () := by
    rw [requireSnapshot,if_pos hskip]
    rfl
  have hrequest : Dict.getD (serverRequest target) "engine" .null = .str "postgres" := rfl
  obtain ⟨upgraded,hupgrade⟩ : ∃ upgraded,
      dbUpgrade (reporting text) "db-1" p {} = (.ok upgraded,{}) := by
    simp only [dbUpgrade,hengine,hstrategy]
    exact ⟨_,(Py.bind_ok (reporting_job text _ _ _ (by decide) (by decide) (by decide))).trans rfl⟩
  have hverifyPort : verifyPort (reporting text) p upgraded = .ok (.int 5432) := by
    simp [verifyPort,hstrategy,hport,Json.isStr]
  have hquery : ∀ q, dispatchAgentJob (reporting text) "db_version_query" q (.str "db-1") {} =
      (.ok [("stdout",.str text)],{}) := fun _ => rfl
  have hsmoke : smokeOk (.str target) (Dict.getD [("stdout",.str text)] "stdout" (.str "")) =
      .ok (true,text.toList) := by
    rw [← h]
    rfl
  obtain ⟨verified,hverify,hpassed⟩ : ∃ verified,
      dbVerify (reporting text) "db-1" p upgraded {} = (.ok verified,{}) ∧
        (Dict.getD verified "verify_status" (.str "failed")).isStr "passed" = true := by
    simp only [dbVerify,hverifyPort,Py.ofExcept_ok_bind,Py.bind_ok (hquery _),htarget,hsmoke,hurl]
    exact ⟨_,rfl,rfl⟩
  have hpreflight : dispatchAgentJob (reporting text) "db_preflight" p (.str "db-1") {} =
      (.ok [],{}) := reporting_job text p _ {} (by decide) (by decide) (by decide)
  simp only [dbExecute,hrequest,engineDefaults,hparams,Py.ofExcept_ok_bind,hrequire,
    Py.bind_ok hpreflight,hdry,hskip]
  rw [if_neg (by simp [Dict.getD,Dict.get?,Json.isStr]),if_pos trivial,Py.pure_bind_run,
    dbFromUpgrade,Py.attempt_bind,hupgrade]
  dsimp only
  rw [Py.bind_ok hverify,hpassed]
  exact ⟨_,_,rfl,rfl⟩

theorem kernel_upgraded (h : versionMatch target text = true) : ∃ result log',
    kernelExecute (reporting text) [("target_kernel",.str target)] ["host-1"] {} =
      (.ok result,log') ∧
    (Dict.getD result "status" .null).isStr "completed" = true := by
  have hne : (Json.str target).truthy = true := by
    have : target ≠ "" := by
      rintro rfl
      cases h
    simpa [Json.truthy] using this
  have hparams : upgradeParams [("target_kernel",.str target)] =
      .ok [("target_kernel",.str target)] := rfl
  have htarget : Dict.getD [("target_kernel",.str target)] "target_kernel" (.str "") =
      .str target := rfl
  have hpreflight : ∀ q, dispatchAgentJob (reporting text) "preflight_kernel_upgrade" q
      (.str "host-1") {} = (.ok [],{}) := fun q =>
    reporting_job text q _ {} (by decide) (by decide) (by decide)
  have hinstall : ∀ q, dispatchAgentJob (reporting text) "execute_kernel_upgrade" q
      (.str "host-1") {} = (.ok [],{}) := fun q =>
    reporting_job text q _ {} (by decide) (by decide) (by decide)
  have hsnapshot : kernelTakeSnapshot (reporting text) "host-1" {} = (.ok none,{}) := rfl
  have hverify : ∀ q, dispatchAgentJob (reporting text) "verify_kernel_upgrade" q
      (.str "host-1") {} = (.ok (verifyKernelOS "2026-01-01" q text),{}) := fun _ => rfl
  have hservices : verifyServices (reporting text) "host-1" [] false {} =
      (.ok [("services_healthy",.bool true)],{}) := rfl
  have hverified : Dict.truthy (verifyKernelOS "2026-01-01" [("target_kernel",.str target)] text)
      "verified" = true := by
    rw [← h]
    rfl
  obtain ⟨result,hresult,hcompleted⟩ : ∃ result,
      kernelVerify (reporting text) "host-1" (.str target) (.str "") [] none {} = (.ok result,{}) ∧
        (Dict.getD result "status" .null).isStr "completed" = true := by
    simp only [kernelVerify,Py.bind_ok (hverify _),hverified]
    exact ⟨_,(Py.bind_ok hservices).trans rfl,rfl⟩
  have hskip : (Dict.getD [("target_kernel",.str target)] "skip_snapshot" (.bool false)).truthy =
      false := rfl
  refine ⟨result,{},?_,hcompleted⟩
  simp only [kernelExecute,hparams,Py.ofExcept_ok_bind,htarget,hne]
  refine (Py.bind_ok (hpreflight _)).trans ?_
  rw [if_neg (by simp [Dict.getD,Dict.get?,Json.isStr])]
  refine (Py.ofExcept_ok_bind [] _ _).trans ?_
  rw [if_neg (by rw [hskip]; decide),Py.bind_ok hsnapshot]
  exact (Py.bind_ok (hinstall _)).trans hresult

theorem server_verified_iff :
    ServerVerified target text ↔ (hasText target text = true → ServerOn target text) := by
  constructor
  · intro h hshown
    obtain ⟨result,log',hexecute,hcompleted⟩ := server_upgraded hshown
    exact h _ _ _ _ _ _ (reporting_server text) rfl hexecute hcompleted
  · intro h env parameters assetIds log result log' hserver htarget hexecute hcompleted
    exact h (dbExecute_completed hexecute hserver htarget hcompleted)

theorem kernel_verified_iff :
    KernelVerified target text ↔ (versionMatch target text = true → text = target) := by
  constructor
  · intro h hmatch
    obtain ⟨result,log',hexecute,hcompleted⟩ := kernel_upgraded hmatch
    exact h _ _ _ _ _ _ _ (reporting_kernel text) rfl rfl hexecute hcompleted
  · intro h env parameters assetIds log result log' p hkernel hparams htarget hexecute hcompleted
    exact h (kernelExecute_completed hexecute hkernel hparams htarget hcompleted)

/-- No upgrade is wrongly reported as completed exactly where a text that contains the target's is
the text of the target. -/
theorem upgrades_verified_iff (target text : String) :
    (ServerVerified target text ↔ (hasText target text = true → ServerOn target text)) ∧
      (KernelVerified target text ↔ (versionMatch target text = true → text = target)) :=
  ⟨server_verified_iff,kernel_verified_iff⟩

/-- The text of a later version contains that of an earlier one. -/
example : ¬ServerVerified "14" "PostgreSQL 13.14 on x86_64" ∧
    ¬KernelVerified "6.1.0-21-generic" "16.1.0-21-generic" := by
  rw [server_verified_iff,kernel_verified_iff]
  decide

end Verified

end Nexplane
