import Nexplane.CertificateProgress
import Nexplane.Workflow
import Nexplane.Lib.Runs

set_option autoImplicit false

/-! All runs of the certificate rotation executor on one change: each may be interrupted at any
point, and a later one re-enters with what the run has stored. -/

namespace Nexplane
open PyValue Runs

variable {ω : Type}

section Scan

/-- The terms that the names of assets are searched for. -/
def searchTerms (desired : Dict) : Except Exc (List String) := do
  let subject := Dict.getD desired "subject" (.str "")
  let sans ← ((Dict.getD desired "san" .null).orElse (.arr [subject])).iter
  (subject :: sans).mapM asText

/-- The asset's metadata, with the empty dictionary in the place of a missing one. -/
def Asset.meta (asset : Asset) : Dict :=
  match asset.metadata with
  | .obj d => d
  | _ => []

def emptyResults : Dict :=
  [("snapshot",.null),("snapshot_fingerprint",.null),("update_result",.null),
    ("verify_result",.null),("rollback_result",.null)]

variable (lower : String → String) (terms : List String)

def scanHost (asset : Asset) : Option Dict :=
  if terms.any fun t => hasText (lower t) (lower asset.name) || hasText (lower asset.name) (lower t)
  then some ([("type",.str "host"),("host",.str asset.name),
    ("port",Dict.getD asset.meta "port" (.int 443)),("connector_type",.str "nexplane_agent"),
    ("connector_id",.str (asset.connectorId.getD "")),("asset_id",.str asset.id)] ++ emptyResults)
  else none

/-- A secret whose certificate subject has one of the terms in it. -/
def matchesSubject (subject : Json) : Bool :=
  subject.truthy && terms.any fun t => hasText (lower t) (lower subject.textOf)

/-- The subject in the labels of a secret, else the one in its metadata. -/
def labelledSubject (asset : Asset) : Json :=
  let labels := (Dict.getD asset.meta "labels" (.obj [])).orElse (.obj [])
  let label := match labels with
    | .obj d => Dict.getD d "cert-subject" (.str "")
    | _ => .str ""
  label.orElse (Dict.getD asset.meta "cert_subject" (.str ""))

def scanK8sSecret (asset : Asset) : Option Dict :=
  if matchesSubject lower terms (labelledSubject asset) then
    some ([("type",.str "k8s_secret"),
      ("namespace",Dict.getD asset.meta "namespace" (.str "default")),("name",.str asset.name),
      ("connector_type",.str "kubernetes"),("connector_id",.str (asset.connectorId.getD "")),
      ("asset_id",.str asset.id)] ++ emptyResults)
  else none

def scanAwsSecret (asset : Asset) : Option Dict :=
  if matchesSubject lower terms (Dict.getD asset.meta "cert_subject" (.str "")) then
    some ([("type",.str "aws_secret"),("secret_id",.str asset.name),("connector_type",.str "aws"),
      ("connector_id",.str (asset.connectorId.getD "")),("asset_id",.str asset.id)] ++ emptyResults)
  else none

end Scan

/-- `_scan_dependents` over the assets of the inventory; `lower` is `str.lower`. -/
def scanDependents (lower : String → String) (assets : List Asset) (desired : Dict)
    (organizationId : Uuid) : Except Exc (List Json) := do
  let terms ← searchTerms desired
  let scope := ((Dict.getD desired "scan_scope" .null).orElse (.arr [])).strings
  let ofType := fun assetType => assets.filter fun a =>
    a.organizationId = organizationId && a.assetType = assetType
  let hosts := if "nexplane_agent" ∈ scope ∨ "aws" ∈ scope ∨ scope = [] then
    (ofType "server").filterMap (scanHost lower terms) else []
  let k8sSecrets := if "kubernetes" ∈ scope ∨ scope = [] then
    (ofType "k8s_secret").filterMap (scanK8sSecret lower terms) else []
  let awsSecrets := if "aws" ∈ scope ∨ scope = [] then
    (ofType "aws_secret").filterMap (scanAwsSecret lower terms) else []
  pure ((hosts ++ k8sSecrets ++ awsSecrets).zipIdx.map fun entry =>
    .obj (("index",.int entry.2) :: entry.1))

/-- What the environment answers to a scan is the scan of some inventory. -/
def ScansAssets (env : Env ω) : Prop :=
  ∀ desired organizationId o found o',
    env.certificate.scanDependents desired organizationId o = (.ok found,o') →
    ∃ lower assets, scanDependents lower assets desired organizationId = .ok found

theorem scan_empty {lower : String → String} {terms : List String} {asset : Asset} {entry : Dict}
    (h : scanHost lower terms asset = some entry ∨ scanK8sSecret lower terms asset = some entry ∨
      scanAwsSecret lower terms asset = some entry) :
    ∀ field ∈ phaseFields, Dict.getD entry field .null = .null := by
  have hfields : ∀ field ∈ phaseFields, field = "update_result" ∨ field = "verify_result" := by
    simp [phaseFields]
  intro field hfield
  simp only [scanHost,scanK8sSecret,scanAwsSecret,Option.ite_none_right_eq_some] at h
  rcases h with ⟨_,h⟩ | ⟨_,h⟩ | ⟨_,h⟩ <;> obtain rfl := Option.some.inj h <;>
    rcases hfields field hfield with rfl | rfl <;> rfl

/-- A scan lists dependents without results, numbered from zero on. -/
theorem scanDependents_lists {lower : String → String} {assets : List Asset} {desired : Dict}
    {organizationId : Uuid} {found : List Json}
    (h : scanDependents lower assets desired organizationId = .ok found) :
    (∀ dep ∈ found, IsDependent dep) ∧ (indexesOf found).Pairwise (· < ·) := by
  obtain ⟨terms,_,h⟩ := Checks.bind_eq_ok.mp h
  obtain rfl := Checks.pure_eq_ok.mp h
  have hsome : ∀ (c : Prop) [Decidable c] (f : Asset → Option Dict) (l : List Asset) (entry : Dict),
      entry ∈ (if c then l.filterMap f else []) → ∃ asset, f asset = some entry := by
    intro c _ f l entry hentry
    split at hentry
    · obtain ⟨asset,_,hasset⟩ := List.mem_filterMap.mp hentry
      exact ⟨asset,hasset⟩
    · simp at hentry
  constructor
  · intro dep hdep
    obtain ⟨⟨entry,k⟩,hentry,rfl⟩ := List.mem_map.mp hdep
    have hnone : ∀ field ∈ phaseFields, Dict.getD entry field .null = .null := by
      rcases List.mem_append.mp (List.fst_mem_of_mem_zipIdx hentry) with hmem | hmem
      · rcases List.mem_append.mp hmem with hmem | hmem
        · obtain ⟨asset,hasset⟩ := hsome _ _ _ _ hmem
          exact scan_empty (Or.inl hasset)
        · obtain ⟨asset,hasset⟩ := hsome _ _ _ _ hmem
          exact scan_empty (Or.inr (Or.inl hasset))
      · obtain ⟨asset,hasset⟩ := hsome _ _ _ _ hmem
        exact scan_empty (Or.inr (Or.inr hasset))
    refine ⟨⟨_,rfl,k,rfl⟩,fun field hfield => Or.inl ?_⟩
    have hne : field ≠ "index" := by
      rintro rfl
      simp [phaseFields] at hfield
    rw [fieldOf,Dict.getD,Dict.get?_cons_of_ne hne]
    exact hnone field hfield
  · have hindexes : ∀ entries : List Dict, indexesOf (entries.zipIdx.map fun entry =>
        .obj (("index",.int entry.2) :: entry.1)) =
        (entries.zipIdx.map Prod.snd).map (fun k : Nat => (k : Int)) := by
      intro entries
      rw [indexesOf,List.map_map,List.map_map]
      rfl
    rw [hindexes,List.zipIdx_map_snd,List.pairwise_map]
    exact (List.pairwise_lt_range' 1).imp fun hlt => by omega

/-- What an entered executor has read: the change, the connectors and its run. -/
structure CertificateEntry where
  cr : ChangeRequest
  connectors : List Connector
  run : Option Nat

/-- The phase that an executor is about to begin, with its local variables. -/
inductive CertificatePhase where
  | scan (stored rotation : Json)
  | snapshot (dependents : List Json) (rotation : Json)
  | rotate (dependents : List Json) (rotation : Json)
  | update (dependents : List Json) (rotation : Json)
  | verify (dependents : List Json) (rotation : Json)
  | report (dependents : List Json) (rotation : Json)

/-- One phase: the executor returns, or goes on to the next phase. -/
def CertificatePhase.next (env : Env ω) (e : CertificateEntry) :
    CertificatePhase → Py (World ω) (Json ⊕ CertificatePhase)
  | .scan stored rotation => do
    let dependents ← scanOnce env e.cr e.run stored
    pure (.inr (.snapshot dependents rotation))
  | .snapshot dependents rotation => do
    let dependents ← snapshotOnce env e.cr e.connectors e.run rotation dependents
    pure (.inr (.rotate dependents rotation))
  | .rotate dependents rotation => do
    let rotation ← rotateOnce env e.cr e.connectors e.run dependents rotation
    pure (.inr (.update dependents rotation))
  | .update dependents rotation => do
    let dependents ← completePhase e.run "update_result" "update" rotation
      (updateDependent env e.connectors rotation) dependents
    let updates ← Py.ofExcept (dependents.mapM updateFailed)
    if updates.any id then do
      let result ← Py.ofExcept (buildCertificateResult dependents rotation "update" true)
      pure (.inl result)
    else pure (.inr (.verify dependents rotation))
  | .verify dependents rotation => do
    let dependents ← completePhase e.run "verify_result" "verify" rotation
      (verifyDependent env e.connectors rotation) dependents
    pure (.inr (.report dependents rotation))
  | .report dependents rotation => do
    let verified ← Py.ofExcept (dependents.mapM verifySucceeded)
    let paused := !verified.all id
    let result ← Py.ofExcept (buildCertificateResult dependents rotation "verify" paused)
    if paused = false then do
      let stored ← Py.ofExcept result.mapping
      Py.modify fun w => w.setStatus .completed
      match e.run with
      | some i => Py.modify fun w =>
          w.setRun i fun r => { r with status := .completed, result := stored }
      | none => pure ()
      pure (.inl result)
    else pure (.inl result)

/-- The phases from the given one on, as many as `fuel`; there are six. -/
def CertificatePhase.finish (env : Env ω) (e : CertificateEntry) :
    Nat → CertificatePhase → Py (World ω) Json
  | 0, _ => Py.raise (.other "unfinished")
  | fuel + 1, p => do
    match ← p.next env e with
    | .inl result => pure result
    | .inr p => p.finish env e fuel

section Phases

variable {env : Env ω} {e : CertificateEntry} {n : Nat}

theorem finish_scan (stored rotation : Json) :
    (CertificatePhase.scan stored rotation).finish env e (n + 1) =
      scanOnce env e.cr e.run stored >>= fun dependents =>
        (CertificatePhase.snapshot dependents rotation).finish env e n := by
  rw [CertificatePhase.finish,CertificatePhase.next,Py.bind_assoc]
  rfl

theorem finish_snapshot (dependents : List Json) (rotation : Json) :
    (CertificatePhase.snapshot dependents rotation).finish env e (n + 1) =
      snapshotOnce env e.cr e.connectors e.run rotation dependents >>= fun dependents =>
        (CertificatePhase.rotate dependents rotation).finish env e n := by
  rw [CertificatePhase.finish,CertificatePhase.next,Py.bind_assoc]
  rfl

theorem finish_rotate (dependents : List Json) (rotation : Json) :
    (CertificatePhase.rotate dependents rotation).finish env e (n + 1) =
      rotateOnce env e.cr e.connectors e.run dependents rotation >>= fun rotation =>
        (CertificatePhase.update dependents rotation).finish env e n := by
  rw [CertificatePhase.finish,CertificatePhase.next,Py.bind_assoc]
  rfl

theorem finish_update (dependents : List Json) (rotation : Json) :
    (CertificatePhase.update dependents rotation).finish env e (n + 1) = (do
      let dependents ← completePhase e.run "update_result" "update" rotation
        (updateDependent env e.connectors rotation) dependents
      let updates ← Py.ofExcept (dependents.mapM updateFailed)
      if updates.any id then
        Py.ofExcept (buildCertificateResult dependents rotation "update" true)
      else (CertificatePhase.verify dependents rotation).finish env e n) := by
  rw [CertificatePhase.finish,CertificatePhase.next,Py.bind_assoc]
  congr 1
  funext dependents
  rw [Py.bind_assoc]
  congr 1
  funext updates
  split
  · rw [Py.bind_assoc]
    exact Py.bind_pure _
  · rfl

theorem finish_verify (dependents : List Json) (rotation : Json) :
    (CertificatePhase.verify dependents rotation).finish env e (n + 1) =
      completePhase e.run "verify_result" "verify" rotation
        (verifyDependent env e.connectors rotation) dependents >>= fun dependents =>
          (CertificatePhase.report dependents rotation).finish env e n := by
  rw [CertificatePhase.finish,CertificatePhase.next,Py.bind_assoc]
  rfl

theorem finish_report (dependents : List Json) (rotation : Json) :
    (CertificatePhase.report dependents rotation).finish env e (n + 1) = (do
      let verified ← Py.ofExcept (dependents.mapM verifySucceeded)
      let paused := !verified.all id
      let result ← Py.ofExcept (buildCertificateResult dependents rotation "verify" paused)
      if paused = false then do
        let stored ← Py.ofExcept result.mapping
        Py.modify fun w => w.setStatus .completed
        match e.run with
        | some i => Py.modify fun w =>
            w.setRun i fun r => { r with status := .completed, result := stored }
        | none => pure ()
        pure result
      else pure result) := by
  rw [CertificatePhase.finish,CertificatePhase.next,Py.bind_assoc]
  congr 1
  funext verified
  dsimp only
  rw [Py.bind_assoc]
  congr 1
  funext result
  split
  · rw [Py.bind_assoc]
    congr 1
    funext stored
    rw [Py.bind_assoc]
    congr 1
    funext _
    cases e.run <;> rfl
  · rfl

end Phases

/-- The update and the verification of the dependent have succeeded. -/
def Rotated (dep : Json) : Prop :=
  updateSucceeded (fieldOf "update_result" dep) = .ok true ∧ verifySucceeded dep = .ok true

/-- The local list of dependents is the stored one, and verification follows successful updates. -/
def CertificatePhase.Holds (dependents : List Json) : CertificatePhase → Prop
  | .scan stored _ => stored = .arr dependents
  | .snapshot local' _ => local' = dependents
  | .rotate local' _ => local' = dependents
  | .update local' _ => local' = dependents
  | .verify local' _ => local' = dependents ∧
      ∀ dep ∈ dependents, updateSucceeded (fieldOf "update_result" dep) = .ok true
  | .report local' _ => local' = dependents ∧
      ∀ dep ∈ dependents, updateSucceeded (fieldOf "update_result" dep) = .ok true

/-- The result lists these dependents, and reports no pause unless all of them are rotated. -/
def ReportsDependents (dependents : List Json) (result : Json) : Prop :=
  ∃ d, result = .obj d ∧ Dict.get? d "dependents" = some (.arr dependents) ∧
    (result.flag "paused" = false → ∀ dep ∈ dependents, Rotated dep)

section Next

variable {env : Env ω} {e : CertificateEntry} {w : World ω} {i : Nat} {dependents : List Json}

theorem scanOnce_lists (env : Env ω) (hw : w.ListsDependents i dependents) (he : e.run = some i) :
    (∃ e' w', scanOnce env e.cr e.run (.arr dependents) w = (.error e',w') ∧
        w'.ListsDependents i dependents) ∨
      ∃ found w', scanOnce env e.cr e.run (.arr dependents) w = (.ok found,w') ∧
        w'.ListsDependents i found ∧
        (found = dependents ∧ dependents ≠ [] ∨ dependents = [] ∧
          ∃ o o', env.certificate.scanDependents e.cr.desiredOutcome e.cr.organizationId o =
            (.ok found,o')) := by
  by_cases hempty : dependents = []
  · subst hempty
    have hsite := onOutside_lists
      (env.certificate.scanDependents e.cr.desiredOutcome e.cr.organizationId) hw
    rw [scanOnce,if_neg (by simp [Json.truthy])]
    rcases hrun : onOutside (env.certificate.scanDependents e.cr.desiredOutcome
      e.cr.organizationId) w with ⟨outcome,v⟩
    rw [hrun] at hsite
    cases outcome with
    | error e' => exact Or.inl ⟨e',v,Py.bind_error hrun,hsite⟩
    | ok found =>
      obtain ⟨u,hu,hlists⟩ := persistRun_lists "scan" found .null hsite
      refine Or.inr ⟨found,u,?_,hlists,Or.inr ⟨rfl,w.site.outside,v.site.outside,?_⟩⟩
      · rw [Py.bind_ok hrun,he,Py.bind_ok hu]
        rfl
      · obtain ⟨hfound,rfl⟩ := Prod.mk.inj hrun
        exact Prod.ext hfound rfl
  · refine Or.inr ⟨dependents,w,?_,hw,Or.inl ⟨rfl,hempty⟩⟩
    rw [scanOnce,if_pos (by simp [Json.truthy,hempty])]
    rfl

theorem rotateOnce_lists (env : Env ω) (rotation : Json) (hw : w.ListsDependents i dependents)
    (he : e.run = some i) :
    (rotateOnce env e.cr e.connectors e.run dependents rotation w).2.ListsDependents i
      dependents := by
  rw [rotateOnce]
  split
  · exact hw
  · cases hload : loadStepCaConnector env e.connectors e.cr.organizationId with
    | error e' => exact hw
    | ok connector =>
      have hsite := onOutside_lists (rotateCertificate env e.cr.desiredOutcome connector) hw
      rw [Py.ofExcept_ok_bind,Py.bind_run]
      rcases hrun : onOutside (rotateCertificate env e.cr.desiredOutcome connector) w with
        ⟨outcome,v⟩
      rw [hrun] at hsite
      cases outcome with
      | error e' => exact hsite
      | ok rotated =>
        obtain ⟨u,hu,hlists⟩ := persistRun_lists "rotate" dependents rotated hsite
        dsimp only
        rw [he,Py.bind_ok hu]
        exact hlists

theorem verifyWarns_ok {dep : Json} (h : IsDependent dep) : ∃ b, verifyWarns dep = .ok b := by
  rcases h.result "verify_result" (by simp [phaseFields]) with hnone | ⟨d,hd,hne⟩
  · exact ⟨false,by rw [verifyWarns,h.get,Checks.ok_bind,hnone]; rfl⟩
  · refine ⟨!(Dict.getD d "success" .null).truthy,?_⟩
    rw [verifyWarns,h.get,Checks.ok_bind,hd,if_pos (by simp [Json.truthy,hne]),Json.get_obj]
    rfl

theorem verifySucceeded_ok {dep : Json} (h : IsDependent dep) :
    ∃ b, verifySucceeded dep = .ok b := by
  rcases h.result "verify_result" (by simp [phaseFields]) with hnone | ⟨d,hd,hne⟩
  · exact ⟨_,by rw [verifySucceeded,h.get,Checks.ok_bind,hnone]; rfl⟩
  · refine ⟨(Dict.getD d "success" .null).truthy,?_⟩
    rw [verifySucceeded,h.get,Checks.ok_bind,hd,Json.orElse,if_pos (by simp [Json.truthy,hne]),
      Json.get_obj]
    rfl

/-- Once it has a result, the update of a dependent has either failed or succeeded. -/
theorem updateFailed_ok {dep : Json} (h : IsDependent dep)
    (hmarked : fieldOf "update_result" dep ≠ .null) : ∃ ok,
      updateSucceeded (fieldOf "update_result" dep) = .ok ok ∧ updateFailed dep = .ok !ok := by
  rcases h.result "update_result" (by simp [phaseFields]) with hnone | ⟨d,hd,hne⟩
  · exact absurd hnone hmarked
  · have hok : ∃ ok, updateSucceeded (.obj d) = .ok ok := by
      rw [updateSucceeded]
      split <;> exact ⟨_,rfl⟩
    obtain ⟨ok,hok⟩ := hok
    refine ⟨ok,hd ▸ hok,?_⟩
    rw [updateFailed,h.get,Checks.ok_bind,hd,if_pos (by simp [Json.truthy,hne]),hok]
    rfl

theorem buildCertificateResult_ok (rotation : Json) (hdep : ∀ dep ∈ dependents, IsDependent dep)
    (phase : String) (paused : Bool) :
    ∃ d, buildCertificateResult dependents rotation phase paused = .ok (.obj d) ∧
      Dict.get? d "dependents" = some (.arr dependents) ∧ (Json.obj d).flag "paused" = paused := by
  have hwarns : dependents.mapM verifyWarns = .ok (dependents.map (Checks.passes verifyWarns)) :=
    Checks.mapM_eq_ok fun dep h => Checks.eq_passes (verifyWarns_ok (hdep dep h))
  exact ⟨_,by rw [buildCertificateResult,hwarns]; rfl,rfl,rfl⟩

theorem update_next (rotation : Json) (henv : UpdatesReport env)
    (hdep : ∀ dep ∈ dependents, IsDependent dep)
    (hnodup : (indexesOf dependents).Nodup) (hw : w.ListsDependents i dependents)
    (he : e.run = some i) :
    ∃ dependents' w' r, (CertificatePhase.update dependents rotation).next env e w =
        (.ok r,w') ∧ w'.ListsDependents i dependents' ∧ Advances dependents dependents' ∧
      match r with
      | .inl result => ReportsDependents dependents' result
      | .inr p => p.Holds dependents' := by
  obtain ⟨dependents',w',hrun,hlists,hadvances,hmarked,_⟩ :=
    completePhase_lists "update" rotation (by simp [phaseFields]) hdep hnodup hw
      fun dep h o => updateDependent_worked henv e.connectors rotation (hdep dep h) o
  have hfailed : dependents'.mapM updateFailed =
      .ok (dependents'.map (Checks.passes updateFailed)) :=
    Checks.mapM_eq_ok fun dep h => Checks.eq_passes (by
      obtain ⟨ok,_,hfailed⟩ := updateFailed_ok (hadvances.wellFormed dep h) (hmarked dep h)
      exact ⟨_,hfailed⟩)
  rw [CertificatePhase.next,he,Py.bind_ok hrun,hfailed,Py.ofExcept_ok_bind]
  by_cases hany : (dependents'.map (Checks.passes updateFailed)).any id = true
  · obtain ⟨d,hbuild,hlisted,hpaused⟩ :=
      buildCertificateResult_ok rotation hadvances.wellFormed "update" true
    refine ⟨dependents',w',.inl (.obj d),by rw [if_pos hany,hbuild]; rfl,hlists,hadvances,d,rfl,
      hlisted,fun h => ?_⟩
    rw [hpaused] at h
    cases h
  · refine ⟨dependents',w',.inr (.verify dependents' rotation),by rw [if_neg hany]; rfl,hlists,
      hadvances,rfl,fun dep h => ?_⟩
    obtain ⟨ok,hok,hfailed⟩ := updateFailed_ok (hadvances.wellFormed dep h) (hmarked dep h)
    have hpasses : Checks.passes updateFailed dep = false := by
      simp only [List.any_map,List.any_eq_true,not_exists,not_and] at hany
      simpa using hany dep h
    rw [Checks.passes,hfailed] at hpasses
    obtain rfl : ok = true := by simpa [Except.toOption] using hpasses
    exact hok

theorem verify_next (env : Env ω) (rotation : Json) (hdep : ∀ dep ∈ dependents, IsDependent dep)
    (hnodup : (indexesOf dependents).Nodup) (hw : w.ListsDependents i dependents)
    (he : e.run = some i)
    (hok : ∀ dep ∈ dependents, updateSucceeded (fieldOf "update_result" dep) = .ok true) :
    ∃ dependents' w', (CertificatePhase.verify dependents rotation).next env e w =
        (.ok (.inr (.report dependents' rotation)),w') ∧ w'.ListsDependents i dependents' ∧
      Advances dependents dependents' ∧
      ∀ dep ∈ dependents', updateSucceeded (fieldOf "update_result" dep) = .ok true := by
  obtain ⟨dependents',v,hrun,hlists,hadvances,_,horigin⟩ :=
    completePhase_lists "verify" rotation (by simp [phaseFields]) hdep hnodup hw
      fun dep h o => verifyDependent_worked env e.connectors rotation (hdep dep h) o
  refine ⟨dependents',v,?_,hlists,hadvances,fun dep h => ?_⟩
  · rw [CertificatePhase.next,he,Py.bind_ok hrun]
    rfl
  · rcases horigin dep h with h | ⟨dep₀,h₀,hworked⟩
    · exact hok dep h
    · rw [hworked.others "update_result" (by simp [phaseFields]) (by simp)]
      exact hok dep₀ h₀

theorem report_next (env : Env ω) (rotation : Json) (hdep : ∀ dep ∈ dependents, IsDependent dep)
    (hw : w.ListsDependents i dependents) (he : e.run = some i)
    (hok : ∀ dep ∈ dependents, updateSucceeded (fieldOf "update_result" dep) = .ok true) :
    ∃ w' result, (CertificatePhase.report dependents rotation).next env e w =
        (.ok (.inl result),w') ∧ w'.ListsDependents i dependents ∧
      ReportsDependents dependents result := by
  have hverified : dependents.mapM verifySucceeded =
      .ok (dependents.map (Checks.passes verifySucceeded)) :=
    Checks.mapM_eq_ok fun dep h => Checks.eq_passes (verifySucceeded_ok (hdep dep h))
  generalize hall : (dependents.map (Checks.passes verifySucceeded)).all id = allVerified
  obtain ⟨d,hbuild,hlisted,hpaused⟩ :=
    buildCertificateResult_ok rotation hdep "verify" !allVerified
  have hreports : ReportsDependents dependents (.obj d) := by
    refine ⟨d,rfl,hlisted,fun h dep hmem => ⟨hok dep hmem,?_⟩⟩
    have hyes : allVerified = true := by simpa [hpaused] using h
    rw [hyes,List.all_map,List.all_eq_true] at hall
    rw [Checks.eq_passes (verifySucceeded_ok (hdep dep hmem))]
    simpa using hall dep hmem
  rw [CertificatePhase.next,he,hverified,Py.ofExcept_ok_bind]
  simp only [hall,hbuild,Py.ofExcept_ok_bind]
  cases allVerified with
  | false => exact ⟨w,.obj d,by simp,hw,hreports⟩
  | true =>
    refine ⟨_,.obj d,rfl,?_,hreports⟩
    exact (World.ListsDependents.of_runs hw rfl).setRun fun r => by simp [Dict.getD,hlisted]

end Next

/-- The executors of one rotation change. `returned` is what the last of them has returned and the
workflow not yet recorded, `scanned` the list of the last scan, which no code reads. -/
structure CertificateState (ω : Type) where
  world : World ω
  running : Option (CertificateEntry × CertificatePhase)
  returned : Option Json
  scanned : List Json

/-- A process may die in the middle of a phase, with `worked` of its dependents worked on. -/
inductive CertificateEvent (ω : Type) where
  | enter
  | phase
  | crash (worked : Nat) (outside : ω)
  | record

/-- The executor that reads the change as it is. -/
def World.entry (w : World ω) : CertificateEntry × CertificatePhase :=
  let run := currentRun w.runs
  (⟨w.cr,w.connectors,run⟩,
    .scan (Dict.getD (w.runResult run) "dependents" (.arr []))
      (Dict.getD (w.runResult run) "rotation_result" .null))

def rescanned (scanned : List Json) : CertificatePhase → Json ⊕ CertificatePhase → List Json
  | .scan stored _, .inr (.snapshot dependents _) => if stored.truthy then scanned else dependents
  | _, _ => scanned

def certificateSystem (env : Env ω) (initial : List Json) :
    System (CertificateState ω) (CertificateEvent ω) where
  start s := s.scanned = initial ∧ s.running = none ∧ s.returned = none ∧
    ∃ i, s.world.ListsDependents i initial
  step s
    | .enter =>
      if s.running.isSome then none
      else some { s with running := some s.world.entry, returned := none }
    | .phase =>
      match s.running with
      | none => none
      | some (e,p) =>
        match p.next env e s.world with
        | (.error _,w) => some { s with world := w, running := none }
        | (.ok (.inl result),w) => some { s with
            world := w, running := none, returned := some result }
        | (.ok (.inr p'),w) => some { s with
            world := w, running := some (e,p'), scanned := rescanned s.scanned p (.inr p') }
    | .crash _ outside =>
      if s.running.isNone then none
      else some { s with
        world := { s.world with site := { s.world.site with outside := outside } }
        running := none }
    | .record =>
      match s.returned with
      | none => none
      | some result =>
        if result.flag "paused" then
          some { s with
            world := (pauseChange (latestRun (fun _ => true) s.world.runs) result true s.world).2
            returned := none }
        -- A result without a pause completes the change.
        else none

/-- The indexes of the dependents that a step works on to give them the result. -/
def CertificateState.attempts (s : CertificateState ω) (field : String) :
    CertificateEvent ω → List Int
  | .phase => handled
  | .crash worked _ => handled.take worked
  | _ => []
where
  handled : List Int :=
    match s.running with
    | some (_,.update dependents _) =>
      if field = "update_result" then indexesOf (pendingOf field dependents) else []
    | some (_,.verify dependents _) =>
      if field = "verify_result" then indexesOf (pendingOf field dependents) else []
    | _ => []

def CertificateState.stored (s : CertificateState ω) : Json :=
  Dict.getD (s.world.runResult (currentRun s.world.runs)) "dependents" (.arr [])

/-- The stored list has a dependent with the index and the result. -/
def CertificateState.Has (s : CertificateState ω) (field : String) (k : Int) : Prop :=
  ∃ dependents, s.stored = .arr dependents ∧ Marked field dependents k

/-- The phase that is about to run works on no other dependents than the attempted ones: it does the
same with any other work on the rest. -/
structure CertificateState.WorksOnAttempts (env : Env ω) (s : CertificateState ω) : Prop where
  update : ∀ e dependents rotation, s.running = some (e,.update dependents rotation) →
    ∀ work, (∀ dep ∈ dependents, dependentIndex dep ∈ s.attempts "update_result" .phase →
      work dep = updateDependent env e.connectors rotation dep) →
    completePhase e.run "update_result" "update" rotation work dependents =
      completePhase e.run "update_result" "update" rotation
        (updateDependent env e.connectors rotation) dependents
  verify : ∀ e dependents rotation, s.running = some (e,.verify dependents rotation) →
    ∀ work, (∀ dep ∈ dependents, dependentIndex dep ∈ s.attempts "verify_result" .phase →
      work dep = verifyDependent env e.connectors rotation dep) →
    completePhase e.run "verify_result" "verify" rotation work dependents =
      completePhase e.run "verify_result" "verify" rotation
        (verifyDependent env e.connectors rotation) dependents

/-- The indexes of the scanned dependents, each once, in increasing order where the rotation began
with such a list. -/
structure ListsScanned (initial scanned dependents : List Json) : Prop where
  nodup : (indexesOf dependents).Nodup
  indexes : (indexesOf dependents).Perm (indexesOf scanned)
  increasing : (indexesOf initial).Pairwise (· < ·) → (indexesOf dependents).Pairwise (· < ·)

/-- The rotation as it stands between two steps: `dependents` is what the run lists. -/
structure CertificateLists (initial : List Json) (i : Nat) (s : CertificateState ω)
    (dependents : List Json) : Prop where
  lists : s.world.ListsDependents i dependents
  wellFormed : ∀ dep ∈ dependents, IsDependent dep
  scanned : ListsScanned initial s.scanned dependents
  running : ∀ e p, s.running = some (e,p) → e.run = some i ∧ p.Holds dependents
  idle : s.running.isSome → s.returned = none
  returned : ∀ result, s.returned = some result → ReportsDependents dependents result

section Steps

variable {env : Env ω} {initial dependents dependents' : List Json} {i : Nat}
  {s s' : CertificateState ω}

theorem CertificateLists.stored (h : CertificateLists initial i s dependents) :
    s.stored = .arr dependents := by
  obtain ⟨hcurrent,hresult⟩ := h.lists.current
  rw [CertificateState.stored,hcurrent,hresult]

theorem CertificateLists.advance (h : CertificateLists initial i s dependents)
    (hadvances : Advances dependents dependents')
    (hlists : s'.world.ListsDependents i dependents') (hscanned : s'.scanned = s.scanned)
    (hrunning : ∀ e p, s'.running = some (e,p) → e.run = some i ∧ p.Holds dependents')
    (hidle : s'.running.isSome → s'.returned = none)
    (hreturned : ∀ result, s'.returned = some result → ReportsDependents dependents' result) :
    CertificateLists initial i s' dependents' where
  lists := hlists
  wellFormed := hadvances.wellFormed
  scanned := ⟨hadvances.indexes.nodup_iff.mpr h.scanned.nodup,
    hscanned ▸ hadvances.indexes.trans h.scanned.indexes,
    fun hinitial => hadvances.increasing (h.scanned.increasing hinitial)⟩
  running := hrunning
  idle := hidle
  returned := hreturned

theorem enter_lists (h : CertificateLists initial i s dependents)
    (hs : (certificateSystem env initial).step s .enter = some s') :
    CertificateLists initial i s' dependents := by
  simp only [certificateSystem] at hs
  split at hs
  · cases hs
  · obtain rfl := Option.some.inj hs
    refine h.advance (.refl h.wellFormed) h.lists rfl ?_ (by simp) (by simp)
    intro e p hp
    obtain ⟨rfl,rfl⟩ := Prod.mk.inj (Option.some.inj hp)
    exact ⟨h.lists.current.1,h.stored⟩

theorem crash_lists {worked : Nat} {o : ω} (h : CertificateLists initial i s dependents)
    (hs : (certificateSystem env initial).step s (.crash worked o) = some s') :
    CertificateLists initial i s' dependents := by
  simp only [certificateSystem] at hs
  split at hs
  · cases hs
  · obtain rfl := Option.some.inj hs
    exact h.advance (.refl h.wellFormed) (h.lists.of_runs rfl) rfl (by simp) (by simp) h.returned

theorem record_lists (h : CertificateLists initial i s dependents)
    (hs : (certificateSystem env initial).step s .record = some s') :
    CertificateLists initial i s' dependents := by
  simp only [certificateSystem] at hs
  split at hs
  · cases hs
  rename_i result hresult
  split at hs
  · obtain rfl := Option.some.inj hs
    obtain ⟨d,rfl,hlisted,_⟩ := h.returned result hresult
    have hlatest : latestRun (fun _ => true) s.world.runs = some i := by
      obtain ⟨earlier,r,hw,rfl,_⟩ := h.lists
      rw [hw]
      exact latestRun_concat rfl
    refine h.advance (.refl h.wellFormed) ?_ rfl h.running (by simp) (by simp)
    have hset : (s.world.setRun i fun r =>
        { r with status := .running, result := d }).ListsDependents i dependents :=
      h.lists.setRun fun r => by simp [Dict.getD,hlisted]
    exact hset.of_runs (by rw [hlatest]; exact World.markStatus_runs _ _)
  · cases hs

/-- What a phase has done: it failed, returned, or goes on with another one. -/
inductive PhaseOutcome (env : Env ω) (e : CertificateEntry) (p : CertificatePhase) (w : World ω)
    (i : Nat) (dependents : List Json) : Prop where
  | failed (e' : Exc) (w' : World ω) : p.next env e w = (.error e',w') →
      w'.ListsDependents i dependents → PhaseOutcome env e p w i dependents
  | returned (result : Json) (w' : World ω) : p.next env e w = (.ok (.inl result),w') →
      w'.ListsDependents i dependents → ReportsDependents dependents result →
      PhaseOutcome env e p w i dependents
  | next (p' : CertificatePhase) (w' : World ω) : p.next env e w = (.ok (.inr p'),w') →
      w'.ListsDependents i dependents → p'.Holds dependents →
      PhaseOutcome env e p w i dependents

theorem PhaseOutcome.state {e : CertificateEntry} {p : CertificatePhase}
    (hnext : PhaseOutcome env e p s.world i dependents') (hrunning : s.running = some (e,p))
    (he : e.run = some i) (hidle : s.returned = none)
    (hs : (certificateSystem env initial).step s .phase = some s') :
    s'.world.ListsDependents i dependents' ∧
      (∀ e p, s'.running = some (e,p) → e.run = some i ∧ p.Holds dependents') ∧
      (s'.running.isSome → s'.returned = none) ∧
      (∀ result, s'.returned = some result → ReportsDependents dependents' result) ∧
      s'.scanned = match (p.next env e s.world).1 with
        | .ok r => rescanned s.scanned p r
        | .error _ => s.scanned := by
  simp only [certificateSystem,hrunning] at hs
  cases hnext with
  | failed e' w' hw hlists =>
    rw [hw] at hs ⊢
    obtain rfl := Option.some.inj hs
    exact ⟨hlists,by simp,by simp,by simp [hidle],rfl⟩
  | returned result w' hw hlists hreports =>
    rw [hw] at hs ⊢
    obtain rfl := Option.some.inj hs
    exact ⟨hlists,by simp,by simp,fun _ h => Option.some.inj h ▸ hreports,by
      cases p <;> rfl⟩
  | next p' w' hw hlists hholds =>
    rw [hw] at hs ⊢
    obtain rfl := Option.some.inj hs
    refine ⟨hlists,fun _ _ h => ?_,fun _ => hidle,by simp [hidle],rfl⟩
    obtain ⟨rfl,rfl⟩ := Prod.mk.inj (Option.some.inj h)
    exact ⟨he,hholds⟩

/-- A phase that lists no newly scanned dependents gives the listed ones new results. -/
theorem PhaseOutcome.advance {e : CertificateEntry} {p : CertificatePhase}
    (hnext : PhaseOutcome env e p s.world i dependents')
    (h : CertificateLists initial i s dependents) (hadvances : Advances dependents dependents')
    (hrunning : s.running = some (e,p))
    (hp : ∀ r, (p.next env e s.world).1 = .ok r → rescanned s.scanned p r = s.scanned)
    (hs : (certificateSystem env initial).step s .phase = some s') :
    CertificateLists initial i s' dependents' := by
  obtain ⟨hlists,hrunning',hidle,hreturned,hscanned⟩ :=
    hnext.state hrunning (h.running e p hrunning).1 (h.idle (by simp [hrunning])) hs
  refine h.advance hadvances hlists ?_ hrunning' hidle hreturned
  rw [hscanned]
  split
  · exact hp _ ‹_›
  · rfl

/-- One phase of a rotation keeps the list, and the results in it. -/
theorem phase_lists (hscans : ScansAssets env) (hreport : UpdatesReport env)
    (h : CertificateLists initial i s dependents)
    (hs : (certificateSystem env initial).step s .phase = some s') :
    ∃ dependents', CertificateLists initial i s' dependents' ∧
      ∀ field ∈ phaseFields, ∀ k, Marked field dependents k → Marked field dependents' k := by
  cases hrunning : s.running with
  | none => simp [certificateSystem,hrunning] at hs
  | some entry =>
    obtain ⟨e,p⟩ := entry
    obtain ⟨he,hholds⟩ := h.running e p hrunning
    cases p with
    | scan stored rotation =>
      obtain rfl : stored = .arr dependents := hholds
      have hreturned := h.idle (by simp [hrunning])
      rcases scanOnce_lists env h.lists he with ⟨e',w',hw,hlists⟩ |
        ⟨found,w',hw,hlists,⟨rfl,hne⟩ | ⟨rfl,o,o',hscan⟩⟩
      · have hnext : (CertificatePhase.scan (.arr dependents) rotation).next env e s.world =
            (.error e',w') := by rw [CertificatePhase.next,Py.bind_error hw]
        exact ⟨dependents,(PhaseOutcome.failed e' w' hnext hlists).advance h (.refl h.wellFormed)
          hrunning (by simp [hnext]) hs,fun _ _ _ => id⟩
      · have hnext : (CertificatePhase.scan (.arr found) rotation).next env e s.world =
            (.ok (.inr (.snapshot found rotation)),w') := by
          rw [CertificatePhase.next,Py.bind_ok hw]
          rfl
        refine ⟨found,(PhaseOutcome.next _ w' hnext hlists rfl).advance h (.refl h.wellFormed)
          hrunning (fun r hr => ?_) hs,fun _ _ _ => id⟩
        obtain rfl : Sum.inr (.snapshot found rotation) = r := by simpa [hnext] using hr
        simp [rescanned,Json.truthy,hne]
      · -- The stored list was empty, and what the scan has found takes its place.
        have hnext : (CertificatePhase.scan (.arr []) rotation).next env e s.world =
            (.ok (.inr (.snapshot found rotation)),w') := by
          rw [CertificatePhase.next,Py.bind_ok hw]
          rfl
        obtain ⟨lower,assets,hfound⟩ := hscans _ _ _ _ _ hscan
        obtain ⟨hwellFormed,hincreasing⟩ := scanDependents_lists hfound
        obtain ⟨hlists',hrunning',hidle',hreturned',hscanned⟩ :=
          (PhaseOutcome.next _ w' hnext hlists rfl).state hrunning he hreturned hs
        rw [hnext] at hscanned
        have hlisted : s'.scanned = found := hscanned
        refine ⟨found,⟨hlists',hwellFormed,⟨hincreasing.imp fun hlt => by omega,by rw [hlisted],
          fun _ => hincreasing⟩,hrunning',hidle',hreturned'⟩,fun field _ k hk => ?_⟩
        obtain ⟨dep,hdep,_⟩ := hk
        cases hdep
    | snapshot dependents₀ rotation =>
      obtain rfl : dependents₀ = dependents := hholds
      obtain ⟨dependents',w',hw,hlists,hadvances⟩ :=
        snapshotOnce_lists env e.connectors e.cr h.wellFormed h.lists
      refine ⟨dependents',?_,hadvances.marks⟩
      refine (PhaseOutcome.next (.rotate dependents' rotation) w' ?_ hlists rfl).advance h hadvances
        hrunning (fun _ _ => rfl) hs
      rw [CertificatePhase.next,he,Py.bind_ok hw]
      rfl
    | rotate dependents₀ rotation =>
      obtain rfl : dependents₀ = dependents := hholds
      have hadvances := Advances.refl h.wellFormed
      refine ⟨dependents₀,?_,hadvances.marks⟩
      have hlists := rotateOnce_lists env rotation h.lists he
      rcases hw : rotateOnce env e.cr e.connectors e.run dependents₀ rotation s.world with
        ⟨outcome | rotated,w'⟩ <;> rw [hw] at hlists
      · refine (PhaseOutcome.failed outcome w' ?_ hlists).advance h hadvances hrunning
          (fun _ _ => rfl) hs
        rw [CertificatePhase.next,Py.bind_error hw]
      · refine (PhaseOutcome.next (.update dependents₀ rotated) w' ?_ hlists rfl).advance h
          hadvances hrunning (fun _ _ => rfl) hs
        rw [CertificatePhase.next,Py.bind_ok hw]
        rfl
    | update dependents₀ rotation =>
      obtain rfl : dependents₀ = dependents := hholds
      obtain ⟨dependents',w',r,hw,hlists,hadvances,hr⟩ :=
        update_next rotation hreport h.wellFormed h.scanned.nodup h.lists he
      refine ⟨dependents',?_,hadvances.marks⟩
      cases r with
      | inl result =>
        exact (PhaseOutcome.returned result w' hw hlists hr).advance h hadvances hrunning
          (fun _ _ => rfl) hs
      | inr p' =>
        exact (PhaseOutcome.next p' w' hw hlists hr).advance h hadvances hrunning (fun _ _ => rfl) hs
    | verify dependents₀ rotation =>
      obtain ⟨rfl,hok⟩ : dependents₀ = dependents ∧ _ := hholds
      obtain ⟨dependents',w',hw,hlists,hadvances,hok'⟩ :=
        verify_next env rotation h.wellFormed h.scanned.nodup h.lists he hok
      refine ⟨dependents',?_,hadvances.marks⟩
      exact (PhaseOutcome.next _ w' hw hlists ⟨rfl,hok'⟩).advance h hadvances hrunning
        (fun _ _ => rfl) hs
    | report dependents₀ rotation =>
      obtain ⟨rfl,hok⟩ : dependents₀ = dependents ∧ _ := hholds
      obtain ⟨w',result,hw,hlists,hreports⟩ :=
        report_next env rotation h.wellFormed h.lists he hok
      have hadvances := Advances.refl h.wellFormed
      exact ⟨dependents₀,(PhaseOutcome.returned result w' hw hlists hreports).advance h hadvances
        hrunning (fun _ _ => rfl) hs,hadvances.marks⟩

theorem mem_attempts {e : CertificateEvent ω} {field : String} {k : Int}
    (h : CertificateLists initial i s dependents) (hk : k ∈ s.attempts field e) :
    ∃ dep ∈ pendingOf field dependents, dependentIndex dep = k := by
  have hhandled : k ∈ CertificateState.attempts.handled s field →
      k ∈ indexesOf (pendingOf field dependents) := by
    intro hk
    unfold CertificateState.attempts.handled at hk
    split at hk
    · obtain rfl := (h.running _ _ ‹_›).2
      simpa using (List.mem_ite_nil_right.mp hk).2
    · obtain ⟨rfl,_⟩ := (h.running _ _ ‹_›).2
      simpa using (List.mem_ite_nil_right.mp hk).2
    · cases hk
  apply List.mem_map.mp
  cases e with
  | phase => exact hhandled hk
  | crash worked o => exact hhandled (List.mem_of_mem_take hk)
  | enter => cases hk
  | record => cases hk

/-- A dependent that has a result is not worked on to give it one. -/
theorem attempts_lack {e : CertificateEvent ω} {field : String} (hfield : field ∈ phaseFields)
    {k : Int} (h : CertificateLists initial i s dependents) (hk : k ∈ s.attempts field e) :
    ¬Marked field dependents k := by
  obtain ⟨dep,hdep,rfl⟩ := mem_attempts h hk
  rintro ⟨dep',hdep',hindex,hresult⟩
  obtain ⟨hmem,hlacks⟩ := List.mem_filter.mp hdep
  obtain rfl := List.inj_on_of_nodup_map h.scanned.nodup hdep' hmem hindex
  have htruthy := ((h.wellFormed dep' hmem).result field hfield).truthy_iff.mpr hresult
  simp [htruthy] at hlacks

theorem CertificateLists.worksOnAttempts (h : CertificateLists initial i s dependents) :
    s.WorksOnAttempts env where
  update := by
    intro e dependents₀ rotation hrunning work hwork
    obtain rfl := (h.running _ _ hrunning).2
    refine completePhase_pending _ _ _ h.wellFormed fun dep hdep => hwork dep
      (List.mem_filter.mp hdep).1 ?_
    simp only [CertificateState.attempts,CertificateState.attempts.handled,hrunning]
    exact List.mem_map_of_mem hdep
  verify := by
    intro e dependents₀ rotation hrunning work hwork
    obtain ⟨rfl,_⟩ := (h.running _ _ hrunning).2
    refine completePhase_pending _ _ _ h.wellFormed fun dep hdep => hwork dep
      (List.mem_filter.mp hdep).1 ?_
    simp only [CertificateState.attempts,CertificateState.attempts.handled,hrunning]
    exact List.mem_map_of_mem hdep

theorem step_lists {a : CertificateEvent ω} (hscans : ScansAssets env) (hreport : UpdatesReport env)
    (h : CertificateLists initial i s dependents)
    (hs : (certificateSystem env initial).step s a = some s') :
    ∃ dependents', CertificateLists initial i s' dependents' ∧
      ∀ field ∈ phaseFields, ∀ k, Marked field dependents k → Marked field dependents' k := by
  cases a with
  | enter => exact ⟨dependents,enter_lists h hs,fun _ _ _ => id⟩
  | phase => exact phase_lists hscans hreport h hs
  | crash worked o => exact ⟨dependents,crash_lists h hs,fun _ _ _ => id⟩
  | record => exact ⟨dependents,record_lists h hs,fun _ _ _ => id⟩

end Steps

def CertificateInv (initial : List Json) (s : CertificateState ω) : Prop :=
  ∃ i dependents, CertificateLists initial i s dependents

theorem certificateInv_inductive {env : Env ω} {initial : List Json} (hscans : ScansAssets env)
    (hreport : UpdatesReport env) (hinitial : ∀ dep ∈ initial, IsDependent dep)
    (hnodup : (indexesOf initial).Nodup) :
    Inductive (certificateSystem env initial) (CertificateInv initial) where
  start := by
    rintro s ⟨hscanned,hrunning,hreturned,i,hlists⟩
    exact ⟨i,initial,hlists,hinitial,⟨hnodup,by rw [hscanned],id⟩,by simp [hrunning],
      by simp [hrunning],by simp [hreturned]⟩
  step := by
    rintro s a s' ⟨i,dependents,h⟩ hs
    obtain ⟨dependents',h',_⟩ := step_lists hscans hreport h hs
    exact ⟨i,dependents',h'⟩

theorem CertificateLists.has_iff {initial dependents : List Json} {i : Nat} {s : CertificateState ω}
    {field : String} {k : Int} (h : CertificateLists initial i s dependents) :
    s.Has field k ↔ Marked field dependents k := by
  constructor
  · rintro ⟨dependents₀,hstored,hk⟩
    obtain rfl := Json.arr.inj (hstored.symm.trans h.stored)
    exact hk
  · exact fun hk => ⟨dependents,h.stored,hk⟩

/-- The runs of a certificate rotation list the dependents of its scan, each once, and do no work
twice that has a result; a run that reports no pause has updated and verified all of them. -/
theorem certificate_rotation_keeps_dependents {env : Env ω} {initial : List Json}
    (hscans : ScansAssets env) (hreport : UpdatesReport env)
    (hinitial : ∀ dep ∈ initial, IsDependent dep) (hnodup : (indexesOf initial).Nodup)
    {tr : List (Transition (CertificateState ω) (CertificateEvent ω))} {s : CertificateState ω}
    (h : Run (certificateSystem env initial) tr s) :
    (∃ dependents, s.stored = .arr dependents ∧ ListsScanned initial s.scanned dependents) ∧
    (∀ result, s.returned = some result → ∃ dependents, ReportsDependents dependents result ∧
      ListsScanned initial s.scanned dependents) ∧
    s.WorksOnAttempts env ∧
    (∀ field ∈ phaseFields, ∀ t ∈ tr, ∀ k ∈ t.pre.attempts field t.label, ¬t.pre.Has field k) ∧
    ∀ field ∈ phaseFields, tr.Pairwise fun later earlier =>
      ∀ k, earlier.post.Has field k → later.post.Has field k ∧
        k ∉ later.pre.attempts field later.label := by
  have hind := certificateInv_inductive hscans hreport hinitial hnodup
  obtain ⟨i,dependents,hlists⟩ := h.invariant hind
  refine ⟨⟨dependents,hlists.stored,hlists.scanned⟩,fun result hresult =>
    ⟨dependents,hlists.returned result hresult,hlists.scanned⟩,hlists.worksOnAttempts,
    fun field hfield t ht k hk => ?_,fun field hfield => ?_⟩
  · obtain ⟨_,dependents',hlists'⟩ := (h.transition t ht).1.invariant hind
    rw [hlists'.has_iff]
    exact attempts_lack hfield hlists' hk
  · rw [List.pairwise_iff_forall_sublist]
    intro later earlier hsub k
    have hunder : InductiveUnder (certificateSystem env initial) (fun _ _ => True)
        (CertificateInv initial) := ⟨hind.start,fun s a s' hi _ hs => hind.step s a s' hi hs⟩
    have hstep : ∀ t : Transition (CertificateState ω) (CertificateEvent ω),
        (certificateSystem env initial).step t.pre t.label = some t.post →
        CertificateInv initial t.pre ∧ t.pre.Has field k →
        t.post.Has field k ∧ k ∉ t.pre.attempts field t.label := by
      rintro t ht ⟨⟨i,dependents,hlists⟩,hhas⟩
      rw [hlists.has_iff] at hhas
      obtain ⟨dependents',hlists',hmarks⟩ := step_lists hscans hreport hlists ht
      exact ⟨hlists'.has_iff.mpr (hmarks field hfield k hhas),fun hk =>
        attempts_lack hfield hlists hk hhas⟩
    have hafter : tr.Pairwise fun later earlier =>
        ¬(later.post.Has field k ∧ k ∉ later.pre.attempts field later.label) →
        ¬earlier.post.Has field k := by
      refine h.never_after (Q := fun s => CertificateInv initial s ∧ s.Has field k) hunder ?_ ?_ ?_
        fun _ _ => trivial
      · exact fun t hi _ ht hhas => ⟨hind.step _ _ _ hi ht,hhas⟩
      · exact fun t hi _ ht hq => ⟨hind.step _ _ _ hi ht,(hstep t ht hq).1⟩
      · exact fun t _ ht hq hnot => hnot (hstep t ht hq)
    intro hhas
    have hpair := List.pairwise_iff_forall_sublist.mp hafter hsub
    by_contra hnot
    exact hpair hnot hhas

/-- A secret whose certificate has been pushed and seen, before its first snapshot. -/
def rotatedDependent (n : Int) : Json :=
  .obj [("index",.int n),("type",.str "host"),("host",.str "web"),("port",.int 443),
    ("connector_type",.str "nexplane_agent"),("connector_id",.str ""),("asset_id",.str "a-1"),
    ("snapshot",.null),("snapshot_fingerprint",.null),
    ("update_result",.obj [("applied",.bool true)]),("verify_result",verifyOk (.str "aa")),
    ("rollback_result",.null)]

def certificateModules : Env Unit :=
  let modules : Env Unit := Env.ofModules fun _ _ =>
    .ok ⟨fun _ _ _ => pure (.obj [("applied",.bool true)]),none⟩
  { modules with certificate := { modules.certificate with
      scanDependents := fun desired organizationId =>
        Py.ofExcept (scanDependents String.toLower [] desired organizationId)
      tlsProbePem := fun _ _ _ => some "PEM" } }

def listedDependents (initial : List Json) : CertificateState Unit where
  world :=
    { cr := ⟨"cr-1","org-1","user-1",.certificateRotation,[],[("subject",.str "web")],
        .executing,some .low,none,none⟩
      others := []
      runs := [⟨"wf-1",.running,[("phase",.str "verify"),("dependents",.arr initial),
        ("rotation_result",.obj [("fingerprint",.str "aa")])]⟩]
      connectors := []
      site := ⟨[],[],[],[],()⟩ }
  running := none
  returned := none
  scanned := initial

def listOf (value : Json) : List Json :=
  match value with
  | .arr l => l
  | _ => []

/-- The indexes that the run lists, and those that the executor has returned. -/
def CertificateState.listed (s : CertificateState Unit) : List Int × Option (List Int × Bool) :=
  (indexesOf (listOf s.stored),
    s.returned.map fun r => (indexesOf (listOf (fieldOf "dependents" r)),r.flag "paused"))

theorem rotatedDependent_dependent (n : Int) : IsDependent (rotatedDependent n) where
  object := ⟨_,rfl,n,rfl⟩
  result := by
    intro field hfield
    simp only [phaseFields,List.mem_cons,List.not_mem_nil,or_false] at hfield
    rcases hfield with rfl | rfl <;> exact Or.inr ⟨_,rfl,by simp⟩

theorem listedDependents_start (initial : List Json) :
    Run (certificateSystem certificateModules initial) [] (listedDependents initial) :=
  .start ⟨rfl,rfl,rfl,0,[],_,rfl,rfl,by simp,rfl⟩

theorem certificateModules_scans : ScansAssets certificateModules := by
  intro desired organizationId o found o' h
  exact ⟨String.toLower,[],(Prod.mk.inj h).1⟩

theorem certificateModules_report : UpdatesReport certificateModules := by
  intro executor _ module hmodule parameters assetIds connector o result o' h
  obtain rfl := Except.ok.inj hmodule
  obtain rfl : Json.obj [("applied",.bool true)] = result := by simpa using h
  exact ⟨_,rfl,by simp⟩

/-- The executor is interrupted after the snapshots and entered again, and returns. -/
theorem interrupted_rotation_keeps_dependents : ∃ s result dependents,
    Reachable (certificateSystem certificateModules [rotatedDependent 0,rotatedDependent 1]) s ∧
      s.returned = some result ∧ result.flag "paused" = false ∧
      ReportsDependents dependents result ∧ (indexesOf dependents).Perm [0,1] ∧
      (indexesOf dependents).Pairwise (· < ·) ∧ ∀ dep ∈ dependents, Rotated dep := by
  have hend : ((certificateSystem certificateModules
      [rotatedDependent 0,rotatedDependent 1]).replay
        (listedDependents [rotatedDependent 0,rotatedDependent 1])
        [.enter,.phase,.phase,.crash 0 (),.enter,.phase,.phase,.phase,.phase,.phase,.phase]).map
        (fun s => (indexesOf s.scanned,s.returned.map fun r => r.flag "paused")) =
      some ([0,1],some false) := by decide
  obtain ⟨s,hs,hfields⟩ := Option.map_eq_some_iff.mp hend
  obtain ⟨hscanned,hreturned⟩ := Prod.mk.inj hfields
  obtain ⟨result,hresult,hpaused⟩ := Option.map_eq_some_iff.mp hreturned
  have hrun := (listedDependents_start _).replay hs
  have hkept := certificate_rotation_keeps_dependents certificateModules_scans
    certificateModules_report (by simp [rotatedDependent_dependent]) (by decide) hrun
  obtain ⟨dependents,hreports,hlisted⟩ := hkept.2.1 result hresult
  have hrotated := hreports
  obtain ⟨d,rfl,_,hall⟩ := hrotated
  exact ⟨s,.obj d,dependents,hrun.reachable,hresult,hpaused,hreports,hscanned ▸ hlisted.indexes,
    hlisted.increasing (by decide),hall hpaused⟩

/-- A stored list in another order is written back and returned in that order. -/
theorem unordered_dependents_stay_unordered :
    (indexesOf [rotatedDependent 1,rotatedDependent 0]).Nodup ∧ ∃ s,
      Reachable (certificateSystem certificateModules [rotatedDependent 1,rotatedDependent 0]) s ∧
      s.listed = ([1,0],some ([1,0],false)) ∧
      ¬(indexesOf (listOf s.stored)).Pairwise (· < ·) := by
  refine ⟨by decide,?_⟩
  have hend : ((certificateSystem certificateModules
      [rotatedDependent 1,rotatedDependent 0]).replay
        (listedDependents [rotatedDependent 1,rotatedDependent 0])
        [.enter,.phase,.phase,.phase,.phase,.phase,.phase]).map CertificateState.listed =
      some ([1,0],some ([1,0],false)) := by decide
  obtain ⟨s,hs,hlisted⟩ := Option.map_eq_some_iff.mp hend
  refine ⟨s,((listedDependents_start _).replay hs).reachable,hlisted,?_⟩
  rw [(Prod.mk.inj hlisted).1]
  decide

end Nexplane
