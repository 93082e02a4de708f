import Nexplane.RollbackRecords

set_option autoImplicit false

/-! The calls that a certificate rollback makes to give the dependents their certificates, and when
what it reports is what became of them. -/

namespace Nexplane
open PyValue

variable {ω : Type}

/-- What became of the call that gives a dependent its certificate. -/
inductive CallOutcome where
  | notMade
  | raised (e : Exc)
  | answered (result : Json)

/-- `_update_succeeded`: the answer reports success, by `success` or else by `applied`. -/
def Successful (result : Json) : Prop := updateSucceeded result = .ok true

def CallOutcome.Succeeded (outcome : CallOutcome) : Prop :=
  ∃ result, outcome = .answered result ∧ Successful result

/-- The rotation has updated the dependent. -/
def RotationUpdated (dep : Dict) : Prop :=
  dep.truthy "update_result" = true ∧ Successful (dep.getD "update_result" .null)

section Calls

variable (env : Env ω) (cr : ChangeRequest) (connectors : List Connector)

def executorCall (connectorType actionId : String) (parameters : Dict) (assetIds : List String)
    (connector : Option Connector) : Except Exc (Option (Py ω Json)) := do
  let module ← env.getExecutor connectorType actionId
  pure (some (module.execute parameters assetIds connector))

/-- A write of a cluster's secret succeeds when it does not raise. -/
def patchCall (connector : Option Connector) (name k8sNamespace data : Json) : Py ω Json := do
  env.certificate.patchNamespacedSecret connector name k8sNamespace data
  pure (.obj [("success",.bool true)])

/-- The call by which a dependent gets the new certificate, `none` where there is none to make. -/
def pushCall (rotation : Json) (dep : Dict) : Except Exc (Option (Py ω Json)) := do
  let connectorType ← Json.index (.obj dep) "connector_type"
  let connector ← loadConnector env connectors connectorType (dep.getD "connector_id" .null) none
  let kind ← Json.index (.obj dep) "type"
  if kind.isStr "host" then
    if connectorType.isStr "nexplane_agent" then do
      let certPem ← rotation.index "cert_pem"
      let keyPem ← rotation.index "key_pem"
      executorCall env "nexplane_agent" "manage_tls_certificates"
        [("cert_pem",certPem),("key_pem",keyPem),
          ("reload_command",dep.getD "reload_command" (.str "nginx -s reload"))]
        [Json.textOf (dep.getD "asset_id" (.str ""))] connector
    else do
      let subject ← rotation.index "subject"
      executorCall env "step_ca" "rotate_certificate"
        [("subject",subject),("deploy_via_ssm",.bool true),
          ("instance_id",dep.getD "asset_id" (.str ""))] [] connector
  else if kind.isStr "k8s_secret" then do
    let client ← env.certificate.hasK8sClient connector
    if client then do
      let certPem ← rotation.index "cert_pem" >>= asText
      let keyPem ← rotation.index "key_pem" >>= asText
      let name ← Json.index (.obj dep) "name"
      pure (some (patchCall env connector name (dep.getD "namespace" (.str "default"))
        (.obj [("tls.crt",.str (env.certificate.base64 certPem)),
          ("tls.key",.str (env.certificate.base64 keyPem))])))
    else pure none
  else if kind.isStr "aws_secret" then do
    let secretId ← Json.index (.obj dep) "secret_id"
    let certPem ← rotation.index "cert_pem"
    executorCall env "aws" "rotate_secrets_manager_secret"
      [("secret_id",secretId),("new_value",certPem)] [] connector
  else pure none

/-- Whether there is a client for the cluster. -/
def clusterClient (connector : Option Connector) : Except Exc Bool :=
  if connector.isSome then env.certificate.hasK8sClient connector else .ok false

/-- The call by which a dependent gets its snapshot back. -/
def restoreCall (connector : Option Connector) (dep : Dict) : Except Exc (Option (Py ω Json)) := do
  let kind ← Json.index (.obj dep) "type"
  let snapshot := dep.getD "snapshot" .null
  if kind.isStr "host" then
    executorCall env "nexplane_agent" "manage_tls_certificates"
      [("cert_pem",snapshot),("key_pem",dep.getD "snapshot_key" .null),
        ("reload_command",dep.getD "reload_command" (.str "nginx -s reload"))]
      [Json.textOf (dep.getD "asset_id" (.str ""))] connector
  else if kind.isStr "k8s_secret" then do
    let client ← clusterClient env connector
    if client then do
      let name ← Json.index (.obj dep) "name"
      pure (some (patchCall env connector name (dep.getD "namespace" (.str "default")) snapshot))
    else pure none
  else if kind.isStr "aws_secret" then do
    let secretId ← Json.index (.obj dep) "secret_id"
    executorCall env "aws" "rotate_secrets_manager_secret"
      [("secret_id",secretId),("new_value",snapshot)] [] connector
  else pure none

/-- The certificate that a re-issue pushes. -/
def newCertificate : Py ω Json := do
  let connector ← Py.ofExcept (loadStepCaConnector env connectors cr.organizationId)
  rotateCertificate env cr.desiredOutcome connector

/-- The dependent's snapshot is to be restored. -/
def RestoresSnapshot (strategy : String) (dep : Dict) : Prop :=
  strategy = "restore" ∧ dep.truthy "snapshot" = true

instance (strategy : String) (dep : Dict) : Decidable (RestoresSnapshot strategy dep) :=
  inferInstanceAs (Decidable (_ ∧ _))

def kindOf (dep : Dict) : Json := dep.getD "type" .null

/-- A host whose private key was not captured. -/
def LacksKey (dep : Dict) : Prop :=
  (kindOf dep).isStr "host" = true ∧ dep.truthy "snapshot_key" = false

instance (dep : Dict) : Decidable (LacksKey dep) := inferInstanceAs (Decidable (_ ∧ _))

def dependentConnector (dep : Dict) : Except Exc (Option Connector) := do
  let connectorType ← Json.index (.obj dep) "connector_type"
  loadConnector env connectors connectorType (dep.getD "connector_id" .null) none

/-- Makes a call, where there is one to make. -/
def makeCall (call : Except Exc (Option (Py ω Json))) (o : ω) : CallOutcome × ω :=
  match call with
  | .ok (some call) =>
    match call o with
    | (.ok result,o') => (.answered result,o')
    | (.error e,o') => (.raised e,o')
  | _ => (.notMade,o)

/-- The call for one dependent: its snapshot, or a certificate issued for it. -/
def certificateCall (strategy : String) (dep : Dict) (o : ω) : CallOutcome × ω :=
  match dependentConnector env connectors dep with
  | .error _ => (.notMade,o)
  | .ok connector =>
    if RestoresSnapshot strategy dep ∧ ¬LacksKey dep then makeCall (restoreCall env connector dep) o
    else
      match newCertificate env cr connectors o with
      | (.ok rotation,o') => makeCall (pushCall env connectors rotation dep) o'
      | (.error _,o') => (.notMade,o')

/-- The dependents, one after the other, with what became of their calls. -/
def certificateTurns (strategy : String) : List Dict → ω → List (Dict × CallOutcome) × ω
  | [], o => ([],o)
  | dep :: deps, o =>
    let (outcome,o') := certificateCall env cr connectors strategy dep o
    let (turns,o'') := certificateTurns strategy deps o'
    ((dep,outcome) :: turns,o'')

end Calls

/-- The computation prepares a call and then makes it; where there is none, it says so. -/
def Makes (x : Py ω Json) (call : Except Exc (Option (Py ω Json))) : Prop :=
  ∀ o, match call with
    | .ok (some call) => x o = call o
    | .ok none => ∃ text, x o = (.ok (.obj [("success",.bool false),("error",.str text)]),o)
    | .error e => x o = (.error e,o)

namespace Makes

variable {α : Type} {x x' : Py ω Json} {call call' : Except Exc (Option (Py ω Json))}

theorem bind {y : Except Exc α} {f : α → Py ω Json} {g : α → Except Exc (Option (Py ω Json))}
    (h : ∀ a, Makes (f a) (g a)) : Makes (Py.ofExcept y >>= f) (y >>= g) := by
  cases y with
  | error e => exact fun o => rfl
  | ok a => exact h a

theorem ite {c : Prop} [Decidable c] (h : Makes x call) (h' : Makes x' call') :
    Makes (if c then x else x') (if c then call else call') := by
  by_cases hc : c <;> simpa [hc]

theorem made (x : Py ω Json) : Makes x (pure (some x)) := fun _ => rfl

theorem refused (text : String) :
    Makes (pure (.obj [("success",.bool false),("error",.str text)]) : Py ω Json) (pure none) :=
  fun _ => ⟨text,rfl⟩

theorem executor (env : Env ω) (connectorType actionId : String) (parameters : Dict)
    (assetIds : List String) (connector : Option Connector) :
    Makes (runExecutor env connectorType actionId parameters assetIds connector)
      (executorCall env connectorType actionId parameters assetIds connector) :=
  bind fun m => made (m.execute parameters assetIds connector)

end Makes

section Push

variable {env : Env ω} {cr : ChangeRequest} {connectors : List Connector} {rotation : Json}
  {dep : Dict} {o o' : ω} {outcome : CallOutcome}

theorem pushCertificate_makes : Makes (pushCertificate env connectors rotation dep)
    (pushCall env connectors rotation dep) := by
  refine .bind fun connectorType => .bind fun connector => .bind fun kind => .ite ?_ (.ite ?_
    (.ite ?_ (.refused _)))
  · refine .ite (.bind fun certPem => .bind fun keyPem => .executor _ _ _ _ _ _) ?_
    exact .bind fun subject => .executor _ _ _ _ _ _
  · refine .bind fun client => .ite ?_ (.refused _)
    exact .bind fun certPem => .bind fun keyPem => .bind fun name => .made _
  · exact .bind fun secretId => .bind fun certPem => .executor _ _ _ _ _ _

/-- The answer to the call, or the failure that stands for it. -/
def AnswersAs (outcome : CallOutcome) (result : Json) : Prop :=
  outcome = .answered result ∨ (∀ r, outcome ≠ .answered r) ∧
    ∃ text, result = .obj [("success",.bool false),("error",.str text)]

theorem Makes.run {x : Py ω Json} {call : Except Exc (Option (Py ω Json))} (h : Makes x call)
    (hcall : makeCall call o = (outcome,o')) :
    ∃ r, Py.tryExcept x (fun e => pure (.obj [("success",.bool false),("error",.str e.str)])) o =
      (.ok r,o') ∧ AnswersAs outcome r := by
  have ho := h o
  cases call with
  | error e =>
    obtain ⟨rfl,rfl⟩ := Prod.mk.inj hcall
    exact ⟨_,Py.tryExcept_error ho _,Or.inr ⟨nofun,e.str,rfl⟩⟩
  | ok call =>
    cases call with
    | none =>
      obtain ⟨rfl,rfl⟩ := Prod.mk.inj hcall
      obtain ⟨text,ho⟩ := ho
      exact ⟨_,Py.tryExcept_ok ho _,Or.inr ⟨nofun,text,rfl⟩⟩
    | some call =>
      rcases hrun : call o with ⟨e | r,t⟩
      · rw [makeCall,hrun] at hcall
        obtain ⟨rfl,rfl⟩ := Prod.mk.inj hcall
        exact ⟨_,Py.tryExcept_error (ho.trans hrun) _,Or.inr ⟨nofun,e.str,rfl⟩⟩
      · rw [makeCall,hrun] at hcall
        obtain ⟨rfl,rfl⟩ := Prod.mk.inj hcall
        exact ⟨r,Py.tryExcept_ok (ho.trans hrun) _,Or.inl rfl⟩

theorem reissue_run {t : ω} (hnew : newCertificate env cr connectors o = (.ok rotation,t))
    (hcall : makeCall (pushCall env connectors rotation dep) t = (outcome,o')) :
    ∃ r, reissue env cr connectors (.obj dep) o = (.ok r,o') ∧ AnswersAs outcome r := by
  obtain ⟨r,hrun,hanswer⟩ := pushCertificate_makes.run hcall
  have hfresh : updateDependent env connectors rotation (.obj dep) t =
      (.ok (.obj (dep.set "update_result" r)),o') := by
    rw [updateDependent,Json.mapping_obj,Py.ofExcept_ok_bind,Py.bind_ok hrun]
    rfl
  have hresult : (Json.obj (dep.set "update_result" r)).get "update_result" .null = .ok r := by
    rw [Json.get_obj,Dict.getD,Dict.get?_set_self]
    rfl
  obtain ⟨connector,u,hconnector,hrotate⟩ := Py.bind_eq_ok.mp hnew
  refine ⟨r,?_,hanswer⟩
  rw [reissue,Py.bind_ok hconnector,Py.bind_ok hrotate,Py.bind_ok hfresh,hresult]
  rfl

theorem reissue_error {e : Exc} (hnew : newCertificate env cr connectors o = (.error e,o')) :
    reissue env cr connectors (.obj dep) o = (.error e,o') := by
  rcases Py.bind_eq_error.mp hnew with hconnector | ⟨connector,t,hconnector,hrotate⟩
  · rw [reissue,Py.bind_error hconnector]
  · rw [reissue,Py.bind_ok hconnector,Py.bind_error hrotate]

end Push

section Claims

variable (env : Env ω) (connectors : List Connector)

/-- The secret of a cluster is to be restored, and there is no client for the cluster. -/
def Disconnected (dep : Dict) : Prop :=
  (kindOf dep).isStr "k8s_secret" = true ∧ ∃ connector,
    dependentConnector env connectors dep = .ok connector ∧
    clusterClient env connector = .ok false

/-- When the rollback step of a dependent says that it is rolled back. -/
def ClaimsRolledBack (strategy : String) (dep : Dict) (outcome : CallOutcome) : Prop :=
  if RestoresSnapshot strategy dep then
    if LacksKey dep then ∃ r, outcome = .answered r ∧ Successful (r.orElse (.obj []))
    else (∃ r, outcome = .answered r) ∨ Disconnected env connectors dep
  else ∃ r, outcome = .answered r ∧ r.flag "success" = true

end Claims

section Undo

variable {env : Env ω} {cr : ChangeRequest} {connectors : List Connector} {strategy : String}
  {connector : Option Connector} {dep : Dict} {o o' : ω} {outcome : CallOutcome}

/-- The fields that a rollback sets on its step: they name no key twice, and whether they say that
the dependent is rolled back. -/
structure Sets (result : Except Exc Dict) (claim : Prop) : Prop where
  nodup : ∀ fields, result = .ok fields → (fields.map Prod.fst).Nodup
  claim : (∃ fields, result = .ok fields ∧ Dict.truthy fields "rolled_back" = true) ↔ claim

theorem Sets.error (e : Exc) {claim : Prop} (h : ¬claim) : Sets (.error e) claim :=
  ⟨nofun,iff_of_false (by simp) h⟩

theorem Sets.ok {fields : Dict} {claim : Prop} (hnodup : (fields.map Prod.fst).Nodup)
    (h : Dict.truthy fields "rolled_back" = true ↔ claim) : Sets (.ok fields) claim :=
  ⟨fun _ hf => Except.ok.inj hf ▸ hnodup,by simpa using h⟩

theorem Sets.congr {result : Except Exc Dict} {claim claim' : Prop} (h : Sets result claim)
    (hiff : claim ↔ claim') : Sets result claim' := ⟨h.nodup,h.claim.trans hiff⟩

theorem sets_reissued {result ok : Json} {failure : String} :
    Sets (reissued result ok failure) (ok.truthy = true) := by
  unfold reissued
  split
  · exact .ok (by simp) Iff.rfl
  · rename_i hok
    cases hget : (result.orElse (.obj [])).get "error" (.str failure) with
    | error e => exact .error e hok
    | ok error => exact .ok (by simp) Iff.rfl

theorem Makes.restored {x : Py ω Json} {call : Except Exc (Option (Py ω Json))} (h : Makes x call)
    (hsome : call ≠ .ok none) (hcall : makeCall call o = (outcome,o')) :
    ∃ result, (x >>= fun r => pure (restored r)) o = (result,o') ∧
      Sets result (∃ r, outcome = .answered r) := by
  have ho := h o
  cases call with
  | error e =>
    obtain ⟨rfl,rfl⟩ := Prod.mk.inj hcall
    exact ⟨_,Py.bind_error ho,.error e nofun⟩
  | ok call =>
    cases call with
    | none => exact absurd rfl hsome
    | some call =>
      rcases hrun : call o with ⟨e | r,t⟩
      · rw [makeCall,hrun] at hcall
        obtain ⟨rfl,rfl⟩ := Prod.mk.inj hcall
        exact ⟨_,Py.bind_error (ho.trans hrun),.error e nofun⟩
      · rw [makeCall,hrun] at hcall
        obtain ⟨rfl,rfl⟩ := Prod.mk.inj hcall
        exact ⟨_,Py.bind_ok (ho.trans hrun),.ok (by simp [Nexplane.restored])
          (iff_of_true rfl ⟨r,rfl⟩)⟩

theorem executorCall_some (connectorType actionId : String) (parameters : Dict)
    (assetIds : List String) (connector : Option Connector) :
    executorCall env connectorType actionId parameters assetIds connector ≠ .ok none := by
  rw [executorCall]
  cases env.getExecutor connectorType actionId <;> nofun

/-- A re-issue of the certificate, and what its answer is taken for. -/
theorem reissue_sets (claims : Json → Except Exc Json) (failure : String) {claim : Prop}
    (hoff : ¬(RestoresSnapshot strategy dep ∧ ¬LacksKey dep))
    (hconnector : dependentConnector env connectors dep = .ok connector)
    (hcall : certificateCall env cr connectors strategy dep o = (outcome,o'))
    (hclaim : ∀ r, AnswersAs outcome r →
      ((∃ ok, claims r = .ok ok ∧ ok.truthy = true) ↔ claim))
    (hnone : outcome = .notMade → ¬claim) :
    ∃ result, (do
        let r ← reissue env cr connectors (.obj dep)
        let ok ← Py.ofExcept (claims r)
        Py.ofExcept (reissued r ok failure)) o = (result,o') ∧ Sets result claim := by
  rw [certificateCall,hconnector] at hcall
  dsimp only at hcall
  rw [if_neg hoff] at hcall
  rcases hnew : newCertificate env cr connectors o with ⟨e | rotation,t⟩
  · rw [hnew] at hcall
    obtain ⟨rfl,rfl⟩ := Prod.mk.inj hcall
    exact ⟨_,Py.bind_error (reissue_error hnew),.error e (hnone rfl)⟩
  · rw [hnew] at hcall
    obtain ⟨r,hrun,hanswer⟩ := reissue_run hnew hcall
    rw [Py.bind_ok hrun]
    have hclaims := hclaim r hanswer
    cases hok : claims r with
    | error e =>
      rw [hok] at hclaims
      exact ⟨_,rfl,.error e fun h => by simpa using hclaims.mpr h⟩
    | ok ok =>
      rw [hok] at hclaims
      exact ⟨_,rfl,sets_reissued.congr (by simpa using hclaims)⟩

theorem answersAs_successful {r : Json} (h : AnswersAs outcome r) :
    (∃ ok, ((updateSucceeded (r.orElse (.obj []))).map Json.bool) = .ok ok ∧ ok.truthy = true) ↔
      ∃ r, outcome = .answered r ∧ Successful (r.orElse (.obj [])) := by
  rcases h with rfl | ⟨hnone,text,rfl⟩
  · cases hr : updateSucceeded (r.orElse (.obj [])) with
    | error e => simp [Successful,hr,Except.map]
    | ok b => simp [Successful,hr,Except.map,Json.truthy]
  · refine iff_of_false ?_ fun ⟨r,hr,_⟩ => hnone r hr
    rintro ⟨ok,hok,htrue⟩
    obtain rfl := Except.ok.inj hok
    cases htrue

theorem get_orElse_flag (r : Json) (key : String) :
    (∃ ok, (r.orElse (.obj [])).get key (.bool false) = .ok ok ∧ ok.truthy = true) ↔
      r.flag key = true := by
  cases hr : r.truthy with
  | false =>
    have hflag : r.flag key = false := by
      cases r with
      | obj d =>
        cases d with
        | nil => rfl
        | cons kv d => simp [Json.truthy] at hr
      | _ => rfl
    rw [Json.orElse,hr,hflag]
    refine iff_of_false ?_ (by decide)
    rintro ⟨ok,hok,htrue⟩
    obtain rfl := Except.ok.inj hok
    cases htrue
  | true =>
    rw [Json.orElse,hr,if_pos rfl]
    cases r with
    | obj d =>
      have hdefault : (Dict.getD d key (.bool false)).truthy = (Dict.getD d key .null).truthy := by
        rw [Dict.getD,Dict.getD]
        cases Dict.get? d key <;> rfl
      simp [Json.flag,Dict.truthy,hdefault]
    | _ => simp [Json.get,Json.flag]

theorem answersAs_flag {r : Json} (h : AnswersAs outcome r) :
    (∃ ok, (r.orElse (.obj [])).get "success" (.bool false) = .ok ok ∧ ok.truthy = true) ↔
      ∃ r, outcome = .answered r ∧ r.flag "success" = true := by
  rw [get_orElse_flag]
  rcases h with rfl | ⟨hnone,text,rfl⟩
  · simp
  · exact iff_of_false (by simp [Json.flag,Dict.truthy,Dict.getD,Json.truthy])
      fun ⟨r,hr,_⟩ => hnone r hr

theorem Disconnected.not_host (h : (kindOf dep).isStr "host" = true) :
    ¬Disconnected env connectors dep := by
  rintro ⟨hkind,_⟩
  cases hk : kindOf dep with
  | str s =>
    rw [hk] at h hkind
    have hhost : s = "host" := by simpa [Json.isStr] using h
    have hsecret : s = "k8s_secret" := by simpa [Json.isStr] using hkind
    rw [hhost] at hsecret
    exact absurd hsecret (by decide)
  | _ => simp [hk,Json.isStr] at h

theorem restoreCall_of_kind {kind : Json} (hkind : dep.get? "type" = some kind) :
    kindOf dep = kind ∧ Json.index (.obj dep) "type" = .ok kind := by
  simp [kindOf,Dict.getD,Json.index,hkind]

/-- The secret of a cluster gets its snapshot back, or there is no client. -/
theorem clusterRestore_sets (hkind : (kindOf dep).isStr "k8s_secret" = true)
    (hconnector : dependentConnector env connectors dep = .ok connector) {snapshot : Json}
    (hcall : makeCall (do
        let client ← clusterClient env connector
        if client then do
          let name ← Json.index (.obj dep) "name"
          pure (some (patchCall env connector name (dep.getD "namespace" (.str "default"))
            snapshot))
        else pure none) o = (outcome,o')) :
    ∃ result, (do
        let client ← Py.ofExcept (clusterClient env connector)
        if client then do
          let name ← Py.ofExcept (Json.index (.obj dep) "name")
          env.certificate.patchNamespacedSecret connector name
            (dep.getD "namespace" (.str "default")) snapshot
          pure (restored (.obj [("success",.bool true)]))
        else pure [("error",.str "No K8s client for rollback"),("rolled_back",.bool true)]) o =
        (result,o') ∧
      Sets result ((∃ r, outcome = .answered r) ∨ Disconnected env connectors dep) := by
  have hdisconnected : Disconnected env connectors dep ↔
      clusterClient env connector = .ok false := by
    constructor
    · rintro ⟨_,c,hc,hclient⟩
      obtain rfl := Except.ok.inj (hconnector.symm.trans hc)
      exact hclient
    · exact fun h => ⟨hkind,connector,hconnector,h⟩
  rw [hdisconnected]
  generalize clusterClient env connector = client at hcall ⊢
  cases client with
  | error e =>
    obtain ⟨rfl,rfl⟩ := Prod.mk.inj hcall
    exact ⟨_,rfl,.error e (by simp)⟩
  | ok client =>
    cases client with
    | false =>
      obtain ⟨rfl,rfl⟩ := Prod.mk.inj hcall
      exact ⟨_,rfl,.ok (by simp) (iff_of_true rfl (Or.inr rfl))⟩
    | true =>
      cases hname : Json.index (.obj dep) "name" with
      | error e =>
        rw [hname] at hcall
        obtain ⟨rfl,rfl⟩ := Prod.mk.inj hcall
        exact ⟨_,rfl,.error e (by simp)⟩
      | ok name =>
        rw [hname] at hcall
        obtain ⟨result,hrun,hsets⟩ := (Makes.made (patchCall env connector name
          (dep.getD "namespace" (.str "default")) snapshot)).restored nofun hcall
        rw [patchCall,Py.bind_assoc] at hrun
        exact ⟨result,hrun,hsets.congr (by simp)⟩

/-- A secret of AWS gets its snapshot back as its new value. -/
theorem secretRestore_sets (hconnected : ¬Disconnected env connectors dep) {snapshot : Json}
    (hcall : makeCall (do
        let secretId ← Json.index (.obj dep) "secret_id"
        executorCall env "aws" "rotate_secrets_manager_secret"
          [("secret_id",secretId),("new_value",snapshot)] [] connector) o = (outcome,o')) :
    ∃ result, (do
        let secretId ← Py.ofExcept (Json.index (.obj dep) "secret_id")
        let result ← runExecutor env "aws" "rotate_secrets_manager_secret"
          [("secret_id",secretId),("new_value",snapshot)] [] connector
        pure (restored result)) o = (result,o') ∧
      Sets result ((∃ r, outcome = .answered r) ∨ Disconnected env connectors dep) := by
  cases hid : Json.index (.obj dep) "secret_id" with
  | error e =>
    rw [hid] at hcall
    obtain ⟨rfl,rfl⟩ := Prod.mk.inj hcall
    exact ⟨_,rfl,.error e (by simp [hconnected])⟩
  | ok secretId =>
    rw [hid] at hcall
    obtain ⟨result,hrun,hsets⟩ :=
      (Makes.executor env _ _ _ _ connector).restored (executorCall_some _ _ _ _ _) hcall
    exact ⟨result,hrun,hsets.congr (by simp [hconnected])⟩

/-- A host without its private key is re-issued. -/
theorem keylessHost_sets (hconnector : dependentConnector env connectors dep = .ok connector)
    (hkey : LacksKey dep)
    (hcall : certificateCall env cr connectors strategy dep o = (outcome,o')) :
    ∃ result, (do
        let result ← reissue env cr connectors (.obj dep)
        let ok ← Py.ofExcept (updateSucceeded (result.orElse (.obj [])))
        Py.ofExcept (reissued result (.bool ok) "Re-issue fallback failed (no snapshot_key)")) o =
        (result,o') ∧
      Sets result (∃ r, outcome = .answered r ∧ Successful (r.orElse (.obj []))) := by
  obtain ⟨result,hrun,hsets⟩ := reissue_sets
    (fun r => (updateSucceeded (r.orElse (.obj []))).map Json.bool)
    "Re-issue fallback failed (no snapshot_key)" (fun h => h.2 hkey) hconnector hcall
    (fun r => answersAs_successful)
    fun h ⟨r,hanswer,_⟩ => nomatch h.symm.trans hanswer
  refine ⟨result,?_,hsets⟩
  rw [← hrun,Py.bind_run,Py.bind_run]
  rcases reissue env cr connectors (.obj dep) o with ⟨e | r,t⟩
  · rfl
  · dsimp only
    cases updateSucceeded (r.orElse (.obj [])) <;> rfl

theorem undoCertificate_sets (hconnector : dependentConnector env connectors dep = .ok connector)
    (hkind : ∃ kind, dep.get? "type" = some kind)
    (hcall : certificateCall env cr connectors strategy dep o = (outcome,o')) :
    ∃ result, undoCertificate env cr connectors strategy connector (.obj dep) o = (result,o') ∧
      Sets result (ClaimsRolledBack env connectors strategy dep outcome) := by
  have hget : (Json.obj dep).get "snapshot" .null = .ok (dep.getD "snapshot" .null) := rfl
  rw [undoCertificate,hget,Py.ofExcept_ok_bind,ClaimsRolledBack]
  by_cases hr : RestoresSnapshot strategy dep
  · have hon : strategy = "restore" ∧ (dep.getD "snapshot" .null).truthy = true := hr
    obtain ⟨kind,hkind⟩ := hkind
    obtain ⟨rfl,hindex⟩ := restoreCall_of_kind hkind
    rw [if_pos hon,if_pos hr,Json.mapping_obj,Py.ofExcept_ok_bind,hindex,Py.ofExcept_ok_bind]
    by_cases hkey : LacksKey dep
    · rw [if_pos hkey,if_pos hkey.1,hkey.2,if_neg Bool.false_ne_true]
      exact keylessHost_sets hconnector hkey hcall
    rw [if_neg hkey]
    rw [certificateCall,hconnector] at hcall
    dsimp only at hcall
    rw [if_pos ⟨hr,hkey⟩,restoreCall,hindex,Checks.ok_bind] at hcall
    split
    case isTrue hhost =>
      have hkeyed : dep.truthy "snapshot_key" = true := by
        by_contra hno
        exact hkey ⟨hhost,by simpa using hno⟩
      rw [if_pos hhost] at hcall
      rw [if_pos hkeyed]
      obtain ⟨result,hrun,hsets⟩ :=
        (Makes.executor env _ _ _ _ connector).restored (executorCall_some _ _ _ _ _) hcall
      exact ⟨result,hrun,hsets.congr (by simp [Disconnected.not_host hhost])⟩
    case isFalse hhost =>
      rw [if_neg hhost] at hcall
      split
      case isTrue hsecret =>
        rw [if_pos hsecret] at hcall
        exact clusterRestore_sets hsecret hconnector hcall
      case isFalse hsecret =>
        have hconnected : ¬Disconnected env connectors dep := fun h => hsecret h.1
        rw [if_neg hsecret] at hcall
        split
        case isTrue haws =>
          rw [if_pos haws] at hcall
          exact secretRestore_sets hconnected hcall
        case isFalse haws =>
          rw [if_neg haws] at hcall
          obtain ⟨rfl,rfl⟩ := Prod.mk.inj hcall
          exact ⟨_,rfl,.ok (by simp) (iff_of_false Bool.false_ne_true (by simp [hconnected]))⟩
  · have hoff : ¬(strategy = "restore" ∧ (dep.getD "snapshot" .null).truthy = true) := hr
    rw [if_neg hoff,if_neg hr]
    exact reissue_sets _ _ (fun h => hr h.1) hconnector hcall (fun r => answersAs_flag)
      fun h ⟨r,hanswer,_⟩ => nomatch h.symm.trans hanswer

theorem ClaimsRolledBack.loaded (h : ClaimsRolledBack env connectors strategy dep .notMade) :
    ∃ connector, dependentConnector env connectors dep = .ok connector := by
  rw [ClaimsRolledBack] at h
  split at h
  · split at h
    · obtain ⟨r,hr,_⟩ := h
      cases hr
    · rcases h with ⟨r,hr⟩ | ⟨_,connector,hconnector,_⟩
      · cases hr
      · exact ⟨connector,hconnector⟩
  · obtain ⟨r,hr,_⟩ := h
    cases hr

/-- A step that is rolled back only if the fields set on it say so. -/
theorem stepRolledBack_merge {index name : Json} {fields : Dict}
    (hnodup : (fields.map Prod.fst).Nodup) :
    stepRolledBack (.obj (Dict.merge [("index",index),("strategy",name),("rolled_back",.bool false),
      ("error",.null)] fields)) = fields.truthy "rolled_back" := by
  rw [stepRolledBack,Dict.truthy,Dict.truthy,Dict.getD,Dict.getD,Dict.get?_merge fields hnodup]
  cases fields.get? "rolled_back" <;> rfl

/-- The rollback step of a dependent, and the call made for it. -/
theorem undoDependent_step {index : Json} (hindex : dep.get? "index" = some index)
    (hkind : ∃ kind, dep.get? "type" = some kind) (s : Site ω)
    (hcall : certificateCall env cr connectors strategy dep s.outside = (outcome,o')) :
    ∃ step s', undoDependent env cr connectors strategy (.obj dep) s = (.ok step,s') ∧
      s'.outside = o' ∧
      (stepRolledBack step = true ↔ ClaimsRolledBack env connectors strategy dep outcome) := by
  have hplace : (Json.obj dep).index "index" = .ok index := by simp [Json.index,hindex]
  have hloaded : (do
      let connectorType ← (Json.obj dep).index "connector_type"
      let connectorId ← (Json.obj dep).get "connector_id" .null
      loadConnector env connectors connectorType connectorId none) =
        dependentConnector env connectors dep := rfl
  rw [undoDependent,Py.modify_bind,hplace,Py.ofExcept_ok_bind,hloaded,Py.attempt_bind,
    Py.ofExcept_run]
  cases hconnector : dependentConnector env connectors dep with
  | error e =>
    rw [certificateCall,hconnector] at hcall
    obtain ⟨rfl,rfl⟩ := Prod.mk.inj hcall
    refine ⟨_,_,rfl,rfl,iff_of_false Bool.false_ne_true fun hclaims => ?_⟩
    obtain ⟨connector,hloads⟩ := hclaims.loaded
    rw [hconnector] at hloads
    cases hloads
  | ok connector =>
    obtain ⟨result,hrun,hsets⟩ := undoCertificate_sets hconnector hkind hcall
    dsimp only
    rw [Py.attempt_bind,outside,Py.zoom_run,Site.log_outside,hrun]
    cases result with
    | error e =>
      refine ⟨_,_,rfl,rfl,iff_of_false Bool.false_ne_true fun hclaims => ?_⟩
      obtain ⟨fields,hfields,_⟩ := hsets.claim.mpr hclaims
      cases hfields
    | ok fields =>
      refine ⟨_,_,rfl,rfl,?_⟩
      rw [← hsets.claim]
      have hmerge := @stepRolledBack_merge index (.str (reportedStrategy strategy (.obj dep)))
        fields (hsets.nodup fields rfl)
      simp only [Except.ok.injEq,exists_eq_left']
      exact iff_of_eq (congrArg (· = true) hmerge)

theorem each_undoDependent {deps : List Dict}
    (hstored : ∀ dep ∈ deps, (∃ n, dep.get? "index" = some (.int n)) ∧
      ∃ kind, dep.get? "type" = some kind) (s : Site ω) :
    ∃ steps s', Py.each (undoDependent env cr connectors strategy) (deps.map Json.obj) s =
        (.ok steps,s') ∧
      s'.outside = (certificateTurns env cr connectors strategy deps s.outside).2 ∧
      List.Forall₂ (fun turn step => stepRolledBack step = true ↔
          ClaimsRolledBack env connectors strategy turn.1 turn.2)
        (certificateTurns env cr connectors strategy deps s.outside).1 steps := by
  induction deps generalizing s with
  | nil => exact ⟨[],s,rfl,rfl,.nil⟩
  | cons dep deps ih =>
    obtain ⟨⟨n,hindex⟩,hkind⟩ := hstored dep List.mem_cons_self
    rcases hcall : certificateCall env cr connectors strategy dep s.outside with ⟨outcome,o'⟩
    obtain ⟨step,t,hrun,rfl,hstep⟩ := undoDependent_step hindex hkind s hcall
    obtain ⟨steps,s',hrest,houtside,hsteps⟩ :=
      ih (fun d hd => hstored d (List.mem_cons_of_mem _ hd)) t
    refine ⟨step :: steps,s',?_,?_,?_⟩
    · rw [List.map_cons,Py.each,Py.bind_ok hrun,Py.bind_ok hrest]
      rfl
    · rw [certificateTurns,hcall]
      exact houtside
    · rw [certificateTurns,hcall]
      exact .cons hstep hsteps

/-- Without a client no call is made. -/
theorem Disconnected.notMade (h : Disconnected env connectors dep)
    (hr : RestoresSnapshot strategy dep)
    (hkey : ¬LacksKey dep) :
    (certificateCall env cr connectors strategy dep o).1 = .notMade := by
  have hhost : ¬(kindOf dep).isStr "host" = true := fun hhost => Disconnected.not_host hhost h
  obtain ⟨hsecret,connector,hconnector,hclient⟩ := h
  rw [certificateCall,hconnector]
  dsimp only
  rw [if_pos ⟨hr,hkey⟩,restoreCall]
  cases hkind : dep.get? "type" with
  | none => simp [kindOf,Dict.getD,hkind,Json.isStr] at hsecret
  | some kind =>
    obtain ⟨rfl,hindex⟩ := restoreCall_of_kind hkind
    rw [hindex,Checks.ok_bind,if_neg hhost,if_pos hsecret,hclient]
    rfl

end Undo

section Exact

variable (env : Env ω) (connectors : List Connector)

/-- What is pushed goes to a dependent that the rotation has updated. A snapshot is restored by a
call that is answered with success, in a cluster that has a client; a host that is re-issued for
lack of its key gets an answer that is not empty or is one of success; and in a re-issue a success
is reported as `success`. -/
def TrustedTurn (strategy : String) (turn : Dict × CallOutcome) : Prop :=
  (turn.2 ≠ .notMade → RotationUpdated turn.1) ∧
  if RestoresSnapshot strategy turn.1 then
    if LacksKey turn.1 then ∀ r, turn.2 = .answered r → r.truthy = false → Successful r
    else ¬Disconnected env connectors turn.1 ∧ ∀ r, turn.2 = .answered r → Successful r
  else ∀ r, turn.2 = .answered r → Successful r → r.flag "success" = true

end Exact

section Exact

variable {env : Env ω} {cr : ChangeRequest} {connectors : List Connector} {strategy : String}

theorem successful_of_flag {r : Json} (h : r.flag "success" = true) : Successful r := by
  cases r with
  | obj d =>
    rw [Json.flag,Dict.truthy,Dict.getD] at h
    rw [Successful,updateSucceeded]
    cases hsuccess : Dict.get? d "success" with
    | none => simp [hsuccess,Json.truthy] at h
    | some success =>
      rw [hsuccess] at h
      exact congrArg Except.ok h
  | _ => simp [Json.flag] at h

/-- An empty answer is taken for the empty dictionary, which counts as a success. -/
theorem successful_orElse {r : Json} :
    Successful (r.orElse (.obj [])) ↔ (r.truthy = true → Successful r) := by
  cases hr : r.truthy <;> simp [Json.orElse,hr,Successful,updateSucceeded]

/-- Two properties agree on an outcome when they agree on its answer. -/
theorem answered_iff {outcome : CallOutcome} {P Q : Json → Prop} :
    ((∃ r, outcome = .answered r ∧ P r) ↔ ∃ r, outcome = .answered r ∧ Q r) ↔
      ∀ r, outcome = .answered r → (P r ↔ Q r) := by
  cases outcome with
  | answered r => simp
  | notMade => simp
  | raised e => simp

/-- The claim of a rollback step is true of its call exactly for turns to be trusted. -/
theorem claims_iff_succeeded {dep : Dict} {outcome : CallOutcome}
    (hnone : RestoresSnapshot strategy dep → ¬LacksKey dep → Disconnected env connectors dep →
      outcome = .notMade) :
    (ClaimsRolledBack env connectors strategy dep outcome ↔ outcome.Succeeded) ↔
      if RestoresSnapshot strategy dep then
        if LacksKey dep then ∀ r, outcome = .answered r → r.truthy = false → Successful r
        else ¬Disconnected env connectors dep ∧ ∀ r, outcome = .answered r → Successful r
      else ∀ r, outcome = .answered r → Successful r → r.flag "success" = true := by
  rw [ClaimsRolledBack,CallOutcome.Succeeded]
  by_cases hr : RestoresSnapshot strategy dep
  · by_cases hkey : LacksKey dep
    · rw [if_pos hr,if_pos hkey,if_pos hr,if_pos hkey,answered_iff]
      refine forall₂_congr fun r _ => ?_
      rw [successful_orElse]
      cases r.truthy with
      | false => simp
      | true => simp
    · rw [if_pos hr,if_neg hkey,if_pos hr,if_neg hkey]
      by_cases hdis : Disconnected env connectors dep
      · rw [hnone hr hkey hdis]
        simp [hdis]
      · have hanswered := @answered_iff outcome (fun _ => True) Successful
        simpa [hdis] using hanswered
  · rw [if_neg hr,if_neg hr,answered_iff]
    exact forall₂_congr fun r _ => ⟨fun h => h.mpr,fun h => ⟨successful_of_flag,h⟩⟩

/-- A turn is what a call for its dependent came to. -/
theorem certificateTurns_made {deps : List Dict} {o : ω} :
    ∀ turn ∈ (certificateTurns env cr connectors strategy deps o).1,
      ∃ o', turn.2 = (certificateCall env cr connectors strategy turn.1 o').1 := by
  induction deps generalizing o with
  | nil => simp [certificateTurns]
  | cons dep deps ih =>
    intro turn hturn
    rcases List.mem_cons.mp hturn with rfl | hturn
    · exact ⟨o,rfl⟩
    · exact ih turn hturn

theorem trustedTurn_iff {deps : List Dict} {o : ω} {turn : Dict × CallOutcome}
    (hturn : turn ∈ (certificateTurns env cr connectors strategy deps o).1) :
    TrustedTurn env connectors strategy turn ↔ (turn.2 ≠ .notMade → RotationUpdated turn.1) ∧
      (ClaimsRolledBack env connectors strategy turn.1 turn.2 ↔ turn.2.Succeeded) := by
  obtain ⟨o',hmade⟩ := certificateTurns_made turn hturn
  rw [TrustedTurn,claims_iff_succeeded fun hr hkey hdis => hmade.trans (hdis.notMade hr hkey)]

theorem globalStrategy_ok (env : Env ω) {deps : List Dict} (desired : Dict)
    (hstored : ∀ dep ∈ deps, ∃ kind, dep.get? "type" = some kind) :
    ∃ strategy, globalStrategy env desired (deps.map Json.obj) = .ok strategy := by
  have hfound : ∃ found, anyRestorable env (deps.map Json.obj) = .ok found := by
    induction deps with
    | nil => exact ⟨false,rfl⟩
    | cons dep deps ih =>
      obtain ⟨kind,hkind⟩ := hstored dep List.mem_cons_self
      have hindex := (restoreCall_of_kind hkind).2
      obtain ⟨b,hb⟩ : ∃ b, restorable env (.obj dep) = .ok b := by
        rw [restorable,hindex]
        exact ⟨_,rfl⟩
      rw [List.map_cons,anyRestorable,hb,Checks.ok_bind]
      cases b with
      | true => exact ⟨true,rfl⟩
      | false => exact ih fun d hd => hstored d (List.mem_cons_of_mem _ hd)
  obtain ⟨found,hfound⟩ := hfound
  rw [globalStrategy]
  split
  · exact ⟨_,rfl⟩
  · rw [hfound]
    exact ⟨_,rfl⟩

theorem byDecreasingIndex_stored {deps : List Dict}
    (hstored : ∀ dep ∈ deps, ∃ n, dep.get? "index" = some (.int n)) :
    ∃ ordered : List Dict, byDecreasingIndex indexOf (deps.map Json.obj) =
        .ok (ordered.map Json.obj) ∧ ordered.Perm deps ∧
      ordered.Pairwise fun a b => indexValue (.obj b) ≤ indexValue (.obj a) := by
  have hkeyed : ∃ keyed, ((deps.map Json.obj).mapM fun item => do
      let n ← indexOf item
      pure (n,item)) = .ok keyed := by
    refine ⟨_,@Checks.mapM_eq_ok _ _ _ _ _ (fun item => (indexValue item,item))
      fun item hitem => ?_⟩
    obtain ⟨dep,hdep,rfl⟩ := List.mem_map.mp hitem
    obtain ⟨n,hn⟩ := hstored dep hdep
    have hindex : indexOf (.obj dep) = .ok n := by
      simp [indexOf,Json.index,hn,Checks.ok_bind,Checks.pure_def]
    rw [indexValue,hindex]
    rfl
  obtain ⟨keyed,hkeyed⟩ := hkeyed
  have hok : byDecreasingIndex indexOf (deps.map Json.obj) =
      .ok ((keyed.mergeSort fun a b => b.1 ≤ a.1).map Prod.snd) := by
    rw [byDecreasingIndex,hkeyed]
    rfl
  refine ⟨deps.mergeSort fun a b => indexValue (.obj b) ≤ indexValue (.obj a),?_,
    List.mergeSort_perm _ _,?_⟩
  · rw [hok,byDecreasingIndex_ok hok,reverseIndexOrder]
    have hmap := @List.map_mergeSort _ _ (fun a b : Dict => decide (indexValue (.obj b) ≤
      indexValue (.obj a))) (fun a b => decide (indexValue b ≤ indexValue a)) Json.obj deps
      fun _ _ _ _ => rfl
    rw [hmap]
  · have hsorted := @List.pairwise_mergeSort Dict (fun a b =>
      decide (indexValue (.obj b) ≤ indexValue (.obj a))) (by simp; omega) (by simp; omega) deps
    exact hsorted.imp fun h => by simpa using h

/-- The rollback goes through the dependents by decreasing index. It pushes certificates to updated
dependents only, says of each whether its call has succeeded and warns unless all have, exactly
when every turn is to be trusted. -/
theorem certificate_rollback_exact_iff {w : World ω} {deps : List Dict} {executionResult : Json}
    (hdeps : executionResult.get "dependents" (.arr []) = .ok (.arr (deps.map Json.obj)))
    (hstored : ∀ dep ∈ deps, (∃ n, dep.get? "index" = some (.int n)) ∧
      ∃ kind, dep.get? "type" = some kind) :
    ∃ strategy ordered steps warns w', globalStrategy env w.cr.desiredOutcome (deps.map Json.obj) =
        .ok strategy ∧
      ordered.Perm deps ∧
      ordered.Pairwise (fun a b => indexValue (.obj b) ≤ indexValue (.obj a)) ∧
      executeCertificateRollback env executionResult w = (.ok (.obj [
        ("rollback_steps",.arr steps),("all_rolled_back",.bool !warns),
        ("has_warnings",.bool warns),("rollback_strategy",.str strategy)]),w') ∧
      ∃ turns, certificateTurns env w.cr w.connectors strategy ordered w.site.outside =
          (turns,w'.site.outside) ∧
        (((∀ turn ∈ turns, turn.2 ≠ .notMade → RotationUpdated turn.1) ∧
            List.Forall₂ (fun turn step => stepRolledBack step = true ↔ turn.2.Succeeded)
              turns steps ∧
            (warns = false → ∀ turn ∈ turns, turn.2.Succeeded)) ↔
          ∀ turn ∈ turns, TrustedTurn env w.connectors strategy turn) := by
  obtain ⟨strategy,hstrategy⟩ :=
    globalStrategy_ok env w.cr.desiredOutcome fun dep hdep => (hstored dep hdep).2
  obtain ⟨ordered,hordered,hperm,hpairwise⟩ := byDecreasingIndex_stored fun dep hdep =>
    (hstored dep hdep).1
  obtain ⟨steps,s',hrun,houtside,hsteps⟩ := @each_undoDependent ω env w.cr w.connectors strategy
    ordered (fun dep hdep => hstored dep (hperm.mem_iff.mp hdep)) w.site
  refine ⟨strategy,ordered,steps,!steps.all stepRolledBack,{ w with site := s' },hstrategy,hperm,
    hpairwise,?_,_,Prod.ext rfl houtside.symm,?_⟩
  · have hread : (executionResult.get "dependents" (.arr []) >>= Json.iter) =
        .ok (deps.map Json.obj) := by
      rw [hdeps]
      rfl
    have hsite : onSite (Py.each (undoDependent env w.cr w.connectors strategy)
        (ordered.map Json.obj)) w = (.ok steps,{ w with site := s' }) := by
      rw [onSite,Py.zoom_run,hrun]
    rw [executeCertificateRollback,Py.get_bind,hread,Py.ofExcept_ok_bind,hstrategy,
      Py.ofExcept_ok_bind,hordered,Py.ofExcept_ok_bind,Py.bind_ok hsite,Bool.not_not]
    rfl
  · constructor
    · rintro ⟨hupdated,htrue,_⟩ turn hturn
      obtain ⟨step,_,hclaims,hsucceeded⟩ :=
        Lists.forall₂_mem_left (Lists.forall₂_both hsteps htrue) turn hturn
      exact (trustedTurn_iff hturn).mpr ⟨hupdated turn hturn,hclaims.symm.trans hsucceeded⟩
    · intro htrusted
      have hclaims := fun turn hturn => (trustedTurn_iff hturn).mp (htrusted turn hturn)
      have htrue := ((List.forall₂_and_left _ _).mpr
        ⟨fun turn hturn => (hclaims turn hturn).2,hsteps⟩).imp fun turn step h => h.2.trans h.1
      refine ⟨fun turn hturn => (hclaims turn hturn).1,htrue,fun hwarns turn hturn => ?_⟩
      obtain ⟨step,hstep,hsucceeded⟩ := Lists.forall₂_mem_left htrue turn hturn
      have hall : steps.all stepRolledBack = true := by simpa using hwarns
      exact hsucceeded.mp (List.all_eq_true.mp hall step hstep)

end Exact

/-- Executors that all give one answer. -/
def answeringHost (answer : Dict) : Env Unit :=
  { Env.ofModules fun _ _ => .ok ⟨fun _ _ _ => pure (.obj answer),none⟩ with
    certificate := { noModules.certificate with certHas24hRemaining := fun _ => true } }

def capturedHost : Dict :=
  [("index",.int 0),("type",.str "host"),("connector_type",.str "nexplane_agent"),
    ("snapshot",.str "old certificate"),("snapshot_fingerprint",.str "aa:bb"),
    ("snapshot_key",.str "old key"),("update_result",.obj [("applied",.bool true)])]

def rotatedHost : World Unit where
  cr := ⟨"cr-1","org-1","user-1",.certificateRotation,[],[("subject",.str "web")],.completed,
    some .low,none,none⟩
  others := []
  runs := []
  connectors := []
  site := ⟨[],[],[],[],()⟩

def hostResult : Json := .obj [("dependents",.arr [.obj capturedHost])]

/-- The snapshot is applied, and the report says so. -/
theorem applied_snapshot_reported : ∃ steps warns w' turns,
    executeCertificateRollback (answeringHost [("applied",.bool true)]) hostResult rotatedHost =
      (.ok (.obj [("rollback_steps",.arr steps),("all_rolled_back",.bool !warns),
        ("has_warnings",.bool warns),("rollback_strategy",.str "restore")]),w') ∧
    turns = [(capturedHost,.answered (.obj [("applied",.bool true)]))] ∧
    List.Forall₂ (fun (turn : Dict × CallOutcome) step =>
      stepRolledBack step = true ↔ turn.2.Succeeded) turns steps := by
  obtain ⟨strategy,ordered,steps,warns,w',hstrategy,hperm,_,hrun,turns,hturns,hiff⟩ :=
    @certificate_rollback_exact_iff Unit (answeringHost [("applied",.bool true)]) rotatedHost
      [capturedHost] hostResult rfl (by
        intro dep hdep
        obtain rfl := List.mem_singleton.mp hdep
        exact ⟨⟨0,rfl⟩,_,rfl⟩)
  obtain rfl := List.perm_singleton.mp hperm
  obtain rfl : "restore" = strategy := Except.ok.inj (Eq.trans rfl hstrategy)
  obtain rfl : [(capturedHost,CallOutcome.answered (.obj [("applied",.bool true)]))] = turns :=
    (congrArg Prod.fst (Eq.trans rfl hturns) :)
  refine ⟨steps,warns,w',_,hrun,rfl,(hiff.mpr fun turn hturn => ?_).2.1⟩
  obtain rfl := List.mem_singleton.mp hturn
  have hr : RestoresSnapshot "restore" capturedHost := ⟨rfl,rfl⟩
  have hkey : ¬LacksKey capturedHost := by decide
  refine ⟨fun _ => ⟨rfl,rfl⟩,?_⟩
  rw [if_pos hr,if_neg hkey]
  refine ⟨fun h => absurd h.1 (by decide),fun r hanswer => ?_⟩
  obtain rfl := CallOutcome.answered.inj hanswer
  rfl

/-- The host refuses its snapshot, and the report says that it is rolled back. -/
theorem refused_snapshot_reported :
    (executeCertificateRollback (answeringHost [("applied",.bool false)]) hostResult
      rotatedHost).1 = .ok (.obj [
        ("rollback_steps",.arr [.obj [("index",.int 0),("strategy",.str "restore"),
          ("rolled_back",.bool true),("error",.null),
          ("rollback_result",.obj [("applied",.bool false)])]]),
        ("all_rolled_back",.bool true),("has_warnings",.bool false),
        ("rollback_strategy",.str "restore")]) ∧
    certificateTurns (answeringHost [("applied",.bool false)]) rotatedHost.cr [] "restore"
      [capturedHost] () = ([(capturedHost,.answered (.obj [("applied",.bool false)]))],()) ∧
    ¬(CallOutcome.answered (.obj [("applied",.bool false)])).Succeeded := by
  have hordered : byDecreasingIndex indexOf [.obj capturedHost] = .ok [.obj capturedHost] := by
    have hkeyed : ([Json.obj capturedHost].mapM fun item => do
        let n ← indexOf item
        pure (n,item)) = .ok [(0,.obj capturedHost)] := rfl
    rw [byDecreasingIndex,hkeyed,Checks.ok_bind,List.mergeSort_singleton]
    rfl
  refine ⟨?_,rfl,fun ⟨_,hanswer,hsuccess⟩ => nomatch (CallOutcome.answered.inj hanswer ▸ hsuccess)⟩
  have hread : (hostResult.get "dependents" (.arr []) >>= Json.iter) =
      .ok [.obj capturedHost] := rfl
  have hstrategy : globalStrategy (answeringHost [("applied",.bool false)])
      rotatedHost.cr.desiredOutcome [.obj capturedHost] = .ok "restore" := rfl
  rw [executeCertificateRollback,Py.get_bind,hread,Py.ofExcept_ok_bind,hstrategy,
    Py.ofExcept_ok_bind,hordered]
  rfl

end Nexplane
