import Nexplane.Entities
import Nexplane.Lib.Py

set_option autoImplicit false

/-! The rows that executing and rolling back one change request reads and writes, and everything
those functions call outside the control plane. -/

namespace Nexplane
open PyValue

inductive ExecutionStatus where
  | pending
  | running
  | completed
  | failed
  | rollingBack
  | rolledBack
  deriving DecidableEq, Repr

def ExecutionStatus.value : ExecutionStatus → String
  | .pending => "pending"
  | .running => "running"
  | .completed => "completed"
  | .failed => "failed"
  | .rollingBack => "rolling_back"
  | .rolledBack => "rolled_back"

/-- `ExecutionStatus(text)`. -/
def ExecutionStatus.ofValue (text : String) : Except Exc ExecutionStatus :=
  match [pending,running,completed,failed,rollingBack,rolledBack].find? (·.value = text) with
  | some status => .ok status
  | none => .error (.valueError ("'" ++ text ++ "' is not a valid ExecutionStatus"))

structure ExecutionRun where
  workflowId : String
  status : ExecutionStatus
  result : Dict
  deriving Repr

/-- A connector row. `credentials` and `currentCrId` are attributes that the code hangs on the
loaded object; the row itself has none. -/
structure Connector where
  id : Uuid
  organizationId : Uuid
  connectorType : String
  credentials : Dict := []
  currentCrId : Option Uuid := none
  deriving Repr

structure Asset where
  id : Uuid
  organizationId : Uuid
  connectorId : Option Uuid
  name : String
  assetType : String
  environment : String
  criticality : String
  metadata : Json
  tags : List String
  deriving Repr

/-- What the modelled code asks to be done, in the order in which it asks. `execute` is a call of
`execute_action`, `undo` the undo of a plan step with the step result it is given,
`executorRollback` the rollback function found without a plan step, and `record` a record taken
up by the rollback of one of the change types with an executor of their own. -/
inductive Call where
  | execute (connectorType actionId : String) (parameters : Dict)
  | undo (step : PlanStep) (prior : Json)
  | executorRollback (connectorType actionId : String) (prior : Json)
  | record (item : Json)
  deriving Repr

/-- What running actions can change. `assets` is the inventory as the open session sees it,
`committedAssets` the one a new session would see. -/
structure Site (ω : Type) where
  assets : List Asset
  committedAssets : List Asset
  assetConnectors : List (Uuid × Uuid)
  calls : List Call
  outside : ω

/-- The database as far as one change request is concerned. Runs and connectors stand in the
order in which they were started or created. -/
structure World (ω : Type) where
  cr : ChangeRequest
  others : List ChangeRequest
  runs : List ExecutionRun
  connectors : List Connector
  site : Site ω

/-- An executor module: its `execute` and, where it has one, its `rollback`. -/
structure ExecutorModule (ω : Type) where
  execute : Dict → List String → Option Connector → Py ω Json
  rollback : Option (Dict → Json → Option Connector → Py ω Json)

/-- The TLS probes, step-ca and the Kubernetes client of a certificate rotation. -/
structure CertificateOps (ω : Type) where
  scanDependents : Dict → Uuid → Py ω (List Json)
  tlsProbePem : Json → Json → ω → Option String
  pemFingerprint : String → String
  certHas24hRemaining : Json → Bool
  base64 : String → String
  base64Decode : Json → Except Exc String
  now : ω → String
  hasK8sClient : Option Connector → Except Exc Bool
  readNamespacedSecret : Connector → Json → Json → Py ω Dict
  patchNamespacedSecret : Option Connector → Json → Json → Json → Py ω Unit
  issueCertificate : Option Connector → Json → Json → Json → Py ω (String × String)

/-- The reference scans and updates of a credential fan-out. -/
structure FanoutOps (ω : Type) where
  scanFunctions : String → List (Json → Connector → Py ω Json)
  updateSurface : String → Option (Dict → Connector → Py ω Json)
  rollbackSurface : String → Option (Json → Json → Connector → Py ω Json)

/-- The phases of a cluster upgrade, each of which only talks to the cluster. -/
structure K8sOps (ω : Type) where
  buildClients : Dict → Except Exc Unit
  clusterVersion : Dict → Py ω String
  runPreflightPhase : Dict → String → Json → Dict → Py ω (Json × String × Bool)
  runControlPlanePhase : String → Json → String → Dict → Connector → Py ω Dict
  workerNodes : Dict → Py ω (List String)
  upgradeNodeRolling : Dict → List String → String → Dict → Dict → String → Py ω Dict
  runVerifyPhase : Dict → String → Dict → Py ω Dict
  uncordon : Dict → Json → Py ω Unit
  now : ω → String

/-- What the modelled code calls and does not define. `credentials` decrypts the stored
credentials of a connector, `newUuid` is the identifier of a row added to the inventory. -/
structure Env (ω : Type) where
  getExecutor : String → String → Except Exc (ExecutorModule ω)
  isConnectorType : String → Bool
  credentials : Uuid → Except Exc Dict
  newUuid : List Asset → Uuid
  fanOutExecute : ChangeRequest → Py ω Json
  fanOutRollback : Dict → Json → Py ω Json
  orchestrateScan : ChangeRequest → Py ω Json
  transferExecute : Dict → List Uuid → Py ω Json
  transferRollback : Dict → Json → Py ω Json
  postHook : ChangeType → List Uuid → Json → Py ω Unit
  postCompletionDiscovery : ChangeRequest → Py ω Unit
  certificate : CertificateOps ω
  fanout : FanoutOps ω
  k8s : K8sOps ω

variable {ω : Type}

/-- An environment in which executor modules do all the work, and the rest answers trivially. -/
def Env.ofModules (getExecutor : String → String → Except Exc (ExecutorModule ω)) : Env ω where
  getExecutor := getExecutor
  isConnectorType := fun _ => true
  credentials := fun _ => .ok []
  newUuid := fun assets => toString assets.length
  fanOutExecute := fun _ => pure (.obj [])
  fanOutRollback := fun _ _ => pure (.obj [])
  orchestrateScan := fun _ => pure (.obj [])
  transferExecute := fun _ _ => pure (.obj [])
  transferRollback := fun _ _ => pure (.obj [])
  postHook := fun _ _ _ => pure ()
  postCompletionDiscovery := fun _ => pure ()
  certificate :=
    { scanDependents := fun _ _ => pure []
      tlsProbePem := fun _ _ _ => none
      pemFingerprint := fun pem => pem
      certHas24hRemaining := fun _ => false
      base64 := fun text => text
      base64Decode := fun v => .ok v.textOf
      now := fun _ => ""
      hasK8sClient := fun _ => .ok false
      readNamespacedSecret := fun _ _ _ => pure []
      patchNamespacedSecret := fun _ _ _ _ => pure ()
      issueCertificate := fun _ _ _ _ => pure ("","") }
  fanout :=
    { scanFunctions := fun _ => []
      updateSurface := fun _ => none
      rollbackSurface := fun _ => none }
  k8s :=
    { buildClients := fun _ => .ok ()
      clusterVersion := fun _ => pure ""
      runPreflightPhase := fun _ _ _ _ => pure (.obj [],"",false)
      runControlPlanePhase := fun _ _ _ _ _ => pure [("result",.str "success")]
      workerNodes := fun _ => pure []
      upgradeNodeRolling := fun _ _ _ _ pool _ => pure (pool.set "result" (.str "success"))
      runVerifyPhase := fun _ _ _ => pure [("passed",.bool true)]
      uncordon := fun _ _ => pure ()
      now := fun _ => "" }

def noModules : Env Unit := Env.ofModules fun _ _ => .error (.keyError "action")

def Site.log (s : Site ω) (c : Call) : Site ω := { s with calls := s.calls ++ [c] }

def Site.commit (s : Site ω) : Site ω := { s with committedAssets := s.assets }

/-- Closing a session rolls back what it flushed and did not commit. -/
def Site.close (s : Site ω) : Site ω := { s with assets := s.committedAssets }

@[simp] theorem Site.log_calls (s : Site ω) (c : Call) : (s.log c).calls = s.calls ++ [c] := rfl

@[simp] theorem Site.log_outside (s : Site ω) (c : Call) : (s.log c).outside = s.outside := rfl

@[simp] theorem Site.commit_calls (s : Site ω) : s.commit.calls = s.calls := rfl

@[simp] theorem Site.commit_outside (s : Site ω) : s.commit.outside = s.outside := rfl

@[simp] theorem Site.close_calls (s : Site ω) : s.close.calls = s.calls := rfl

@[simp] theorem Site.close_outside (s : Site ω) : s.close.outside = s.outside := rfl

/-- A call to the outside. -/
def outside {α : Type} (x : Py ω α) : Py (Site ω) α :=
  Py.zoom Site.outside (fun s o => { s with outside := o }) x

/-- Work that leaves the change request and its runs alone. -/
def onSite {α : Type} (x : Py (Site ω) α) : Py (World ω) α :=
  Py.zoom World.site (fun w s => { w with site := s }) x

/-- `async with AsyncSessionLocal() as db: x`. -/
def session {α : Type} (x : Py (Site ω) α) : Py (Site ω) α := fun s => ((x s).1,(x s).2.close)

@[simp] theorem session_run {α : Type} (x : Py (Site ω) α) (s : Site ω) :
    session x s = ((x s).1,(x s).2.close) := rfl

/-- The place of the last run that meets `p`: `order_by(started_at.desc()).limit(1)`. -/
def latestRun (p : ExecutionRun → Bool) : List ExecutionRun → Option Nat
  | [] => none
  | r :: runs =>
    match latestRun p runs with
    | some i => some (i + 1)
    | none => if p r then some 0 else none

def World.run? (w : World ω) (i : Nat) : Option ExecutionRun := w.runs[i]?

def World.setRun (w : World ω) (i : Nat) (f : ExecutionRun → ExecutionRun) : World ω :=
  { w with runs := w.runs.modify i f }

def World.setStatus (w : World ω) (status : ChangeRequestStatus) : World ω :=
  { w with cr := { w.cr with status := status } }

@[simp] theorem World.setRun_cr (w : World ω) (i : Nat) (f : ExecutionRun → ExecutionRun) :
    (w.setRun i f).cr = w.cr := rfl

@[simp] theorem World.setStatus_runs (w : World ω) (status : ChangeRequestStatus) :
    (w.setStatus status).runs = w.runs := rfl

@[simp] theorem World.setStatus_status (w : World ω) (status : ChangeRequestStatus) :
    (w.setStatus status).cr.status = status := rfl

/-- A property that the writes of an executor to its change and to existing runs keep. -/
structure RowWrites (I : World ω → Prop) : Prop where
  run : ∀ w i f, I w → I (w.setRun i f)
  status : ∀ w s, I w → I (w.setStatus s)
  outside : ∀ (w : World ω) o, I w → I { w with site := { w.site with outside := o } }

/-- A property that storing the result of a run and calls to the outside keep. -/
structure ResultWrites (I : World ω → Prop) : Prop where
  result : ∀ w i d, I w → I (w.setRun i fun r => { r with result := d })
  outside : ∀ (w : World ω) o, I w → I { w with site := { w.site with outside := o } }

theorem RowWrites.results {I : World ω → Prop} (h : RowWrites I) : ResultWrites I :=
  ⟨fun w i _ => h.run w i _,h.outside⟩

theorem onSite_frame {α : Type} {I : World ω → Prop}
    (hI : ∀ (w : World ω) s, I w → I { w with site := s }) (x : Py (Site ω) α) :
    Py.Keeps I (onSite x) := Py.Keeps.zoom hI x

theorem outside_keeps {α : Type} {I : Site ω → Prop}
    (hI : ∀ (s : Site ω) o, I s → I { s with outside := o }) (x : Py ω α) :
    Py.Keeps I (outside x) := Py.Keeps.zoom hI x

theorem rowWrites_length (n : Nat) (changeType : ChangeType) :
    RowWrites fun w : World ω => w.runs.length = n ∧ w.cr.changeType = changeType where
  run := fun w i f h => by simpa [World.setRun] using h
  status := fun _ _ h => h
  outside := fun _ _ h => h

section LatestRun

variable {p q : ExecutionRun → Bool} {r : ExecutionRun} {runs later : List ExecutionRun}

theorem latestRun_eq_none : latestRun p runs = none ↔ ∀ r ∈ runs, p r = false := by
  induction runs with
  | nil => simp [latestRun]
  | cons r runs ih =>
    cases hl : latestRun p runs with
    | none =>
      have hr := ih.mp hl
      by_cases hp : p r = true
      · simp [latestRun,hl,hp]
      · simpa [latestRun,hl,hp] using hr
    | some i =>
      have hr : ¬∀ r ∈ runs, p r = false := by simp [← ih,hl]
      simpa [latestRun,hl] using fun _ => by simpa using hr

theorem latestRun_append : latestRun p (runs ++ later) =
    ((latestRun p later).map (· + runs.length)).or (latestRun p runs) := by
  induction runs with
  | nil => cases hl : latestRun p later <;> simp [latestRun,hl]
  | cons r runs ih =>
    cases hl : latestRun p later with
    | none => simp [latestRun,ih,hl]
    | some i =>
      simp [latestRun,ih,hl]
      omega

theorem latestRun_append_of_none (h : ∀ r ∈ later, p r = false) :
    latestRun p (runs ++ later) = latestRun p runs := by
  simp [latestRun_append,latestRun_eq_none.mpr h]

theorem modify_concat (f : ExecutionRun → ExecutionRun) :
    (runs ++ [r]).modify runs.length f = runs ++ [f r] := by
  induction runs with
  | nil => rfl
  | cons r' runs ih => simp [ih]

theorem latestRun_concat (h : p r = true) : latestRun p (runs ++ [r]) = some runs.length := by
  simp [latestRun_append,latestRun,h]

/-- The newest run of all, by their number. -/
theorem latestRun_true : latestRun (fun _ => true) runs =
    if runs = [] then none else some (runs.length - 1) := by
  induction runs with
  | nil => rfl
  | cons r runs ih =>
    cases runs with
    | nil => rfl
    | cons r' runs =>
      rw [latestRun,ih]
      simp

theorem latestRun_holds {i : Nat} (h : latestRun p runs = some i) :
    ∃ r, runs[i]? = some r ∧ p r = true := by
  induction runs generalizing i with
  | nil => simp [latestRun] at h
  | cons r runs ih =>
    cases hl : latestRun p runs with
    | none =>
      by_cases hp : p r = true
      · obtain rfl : 0 = i := by simpa [latestRun,hl,hp] using h
        exact ⟨r,rfl,hp⟩
      · simp [latestRun,hl,hp] at h
    | some j =>
      obtain rfl : j + 1 = i := by simpa [latestRun,hl] using h
      simpa using ih hl

end LatestRun

end Nexplane
