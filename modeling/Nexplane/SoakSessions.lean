import Nexplane.Entities
import Nexplane.Lib.Orm
import Nexplane.Lib.Runs

set_option autoImplicit false

/-! Soak sessions: the requests that stop one or accept its diff, statement by statement, with what
they write to the session, to the baselines and to the change requests. -/

namespace Nexplane
open PyValue Runs

inductive SoakSessionStatus where
  | running
  | stopped
  | synthesized
  | crProposed
  deriving DecidableEq, Repr

def SoakSessionStatus.value : SoakSessionStatus → String
  | .running => "running"
  | .stopped => "stopped"
  | .synthesized => "synthesized"
  | .crProposed => "cr_proposed"

structure SoakSession where
  id : Uuid
  organizationId : Uuid
  projectId : Uuid
  policyType : String
  status : SoakSessionStatus := .running
  windowSeconds : Int
  assetIds : List Uuid
  rawObservations : Dict := []
  synthesizedProfile : Option Dict := none
  baselineDelta : Option Dict := none
  isPartial : Bool := false
  crId : Option Uuid := none

structure SecurityPolicyBaseline where
  id : Uuid
  organizationId : Uuid
  projectId : Uuid
  policyType : String
  profile : Dict
  crId : Option Uuid

/-- `uq_baselines_project_policy_type`. -/
def SecurityPolicyBaseline.key (b : SecurityPolicyBaseline) : Uuid × String :=
  (b.projectId,b.policyType)

/-- A plugin is a record of functions; `computeDelta` is `compute_delta` over its rules. -/
structure PolicyPlugin where
  synthesize : Dict → Except Exc Dict
  deltaExtract : Dict → Except Exc (List Json)
  computeDelta : Dict → Dict → Except Exc Dict
  crChangeType : ChangeType

/-- The registry of the plugins, and `json.dumps`. -/
structure SoakEnv where
  getPlugin : String → Except Exc PolicyPlugin
  dumps : Dict → String

def sameDict (a b : Option Dict) : Bool :=
  match a, b with
  | some a, some b => Json.eq (.obj a) (.obj b)
  | none, none => true
  | _, _ => false

/-- The row after an UPDATE by a request that loaded `loaded`. -/
def SoakSession.flush (row loaded assigned : SoakSession) : SoakSession :=
  { row with
    status := Orm.flushColumn row.status loaded.status assigned.status
    rawObservations := Orm.flushWith (fun a b => Json.eq (.obj a) (.obj b)) row.rawObservations
      loaded.rawObservations assigned.rawObservations
    synthesizedProfile := Orm.flushWith sameDict row.synthesizedProfile loaded.synthesizedProfile
      assigned.synthesizedProfile
    baselineDelta := Orm.flushWith sameDict row.baselineDelta loaded.baselineDelta
      assigned.baselineDelta
    isPartial := Orm.flushColumn row.isPartial loaded.isPartial assigned.isPartial
    crId := Orm.flushColumn row.crId loaded.crId assigned.crId }

/-- The next statement of a request: what the assets deliver, the SELECT of the baseline, and the
COMMIT; or else first the flush of the change request and the second SELECT of the baseline. -/
inductive SoakPhase where
  | collecting
  | compare (profile : Dict)
  | write
  | propose (profile : Dict)
  | lookUp (profile : Dict) (cr : ChangeRequest)
  | store (profile : Dict) (cr : ChangeRequest) (found : Option Uuid)

/-- A request with the row as it loaded it and the attributes it has assigned since. `holdsRow`
says that it has flushed the session and not committed yet. -/
structure SoakRequest where
  serviceName : String
  userId : Uuid
  loaded : SoakSession
  session : SoakSession
  phase : SoakPhase
  holdsRow : Bool := false

structure SoakState where
  row : SoakSession
  baselines : List SecurityPolicyBaseline
  changeRequests : List ChangeRequest
  requests : List SoakRequest

/-- `fail` ends a request by an error from outside. Other sessions and the endpoint for baselines
write and delete baselines of their own accord. -/
inductive SoakEvent where
  | stop (serviceName : String) (userId : Uuid)
  | accept (serviceName : String) (userId : Uuid)
  | observe (i : Nat) (outcome : Uuid → Option (List Json))
  | compare (i : Nat)
  | propose (i : Nat) (crId : Uuid)
  | lookUp (i : Nat)
  | commit (i : Nat) (baselineId : Uuid)
  | fail (i : Nat)
  | otherBaseline (baseline : SecurityPolicyBaseline)
  | deleteBaseline (organizationId projectId : Uuid) (policyType : String)

/-- The observations of the assets that answered, and whether one did not. -/
def collectObservations (assetIds : List Uuid) (outcome : Uuid → Option (List Json)) :
    Dict × Bool :=
  assetIds.foldl (fun (observations,isPartial) assetId =>
    match outcome assetId with
    | none => (observations,true)
    | some data => (observations.set assetId (.arr data),isPartial)) ([],false)

def buildCrParams (env : SoakEnv) (session : SoakSession) (profile : Dict)
    (serviceName : String) : Dict :=
  [("session_id",.str session.id),("service_name",.str serviceName),
    ("profile",.str (env.dumps profile)),("mode",.str "audit")]

/-- `_create_policy_cr` up to its flush; the rules are only counted. -/
def createPolicyCr (env : SoakEnv) (r : SoakRequest) (profile : Dict) (crId : Uuid) :
    Except Exc ChangeRequest := do
  let plugin ← env.getPlugin r.session.policyType
  let _ ← plugin.deltaExtract profile
  return {
    id := crId
    organizationId := r.session.organizationId
    requesterId := r.userId
    changeType := plugin.crChangeType
    targetAssetIds := r.session.assetIds
    desiredOutcome := buildCrParams env r.session profile r.serviceName
    status := .draft
    riskLevel := some .medium
    changePlan := none
    applicationSequence := none }

def acceptable (session : SoakSession) : Except Exc Dict :=
  if session.status ≠ .synthesized then
    .error (.valueError
      ("Session status must be 'synthesized', got '" ++ session.status.value ++ "'"))
  else
    match session.synthesizedProfile, session.baselineDelta with
    | none, _ => .error (.valueError "Session has no synthesized profile")
    | some _, none => .error (.valueError
        "No baseline delta to accept — use stop response cr_id for first-run sessions")
    | some profile, some _ => .ok profile

namespace SoakState

/-- The baseline that the SELECTs of a session find. -/
def baselineOf (s : SoakState) (session : SoakSession) : Option SecurityPolicyBaseline :=
  s.baselines.find? fun b => b.organizationId = session.organizationId ∧
    b.projectId = session.projectId ∧ b.policyType = session.policyType

def setRequest (s : SoakState) (i : Nat) (r : SoakRequest) : SoakState :=
  { s with requests := s.requests.set i r }

/-- A request that raises is rolled back. -/
def drop (s : SoakState) (i : Nat) : SoakState := { s with requests := s.requests.eraseIdx i }

/-- An UPDATE of the session waits for a transaction that holds its row. -/
def locked (s : SoakState) (i : Nat) : Bool :=
  (s.requests.eraseIdx i).any SoakRequest.holdsRow

def stop (s : SoakState) (serviceName : String) (userId : Uuid) : Option SoakState :=
  if s.row.status = .running then
    let r := { serviceName, userId, loaded := s.row, session := s.row, phase := .collecting }
    some { s with requests := s.requests ++ [r] }
  else none

def accept (s : SoakState) (serviceName : String) (userId : Uuid) : Option SoakState :=
  match acceptable s.row with
  | .ok profile =>
    let r := { serviceName, userId, loaded := s.row, session := s.row, phase := .propose profile }
    some { s with requests := s.requests ++ [r] }
  | .error _ => none

def observe (env : SoakEnv) (s : SoakState) (i : Nat) (outcome : Uuid → Option (List Json))
    (r : SoakRequest) : Option SoakState :=
  match r.phase with
  | .collecting =>
    let (observations,isPartial) := collectObservations r.session.assetIds outcome
    let synthesized : Except Exc Dict := do
      let plugin ← env.getPlugin r.session.policyType
      plugin.synthesize observations
    match synthesized with
    | .error _ => some (s.drop i)
    | .ok profile =>
      let session := { r.session with
        rawObservations := observations, synthesizedProfile := some profile, isPartial }
      some (s.setRequest i { r with session, phase := .compare profile })
  | _ => none

def compare (env : SoakEnv) (s : SoakState) (i : Nat) (r : SoakRequest) : Option SoakState :=
  match r.phase with
  | .compare profile =>
    match s.baselineOf r.session with
    | none =>
      let session := { r.session with baselineDelta := none, status := .synthesized }
      some (s.setRequest i { r with session, phase := .propose profile })
    | some baseline =>
      let delta : Except Exc Dict := do
        let plugin ← env.getPlugin r.session.policyType
        plugin.computeDelta baseline.profile profile
      match delta with
      | .error _ => some (s.drop i)
      | .ok delta =>
        let session := { r.session with baselineDelta := some delta, status := .synthesized }
        some (s.setRequest i { r with session, phase := .write })
  | _ => none

/-- The flush writes the session too when the request has assigned to it. -/
def propose (env : SoakEnv) (s : SoakState) (i : Nat) (crId : Uuid) (r : SoakRequest) :
    Option SoakState :=
  match r.phase with
  | .propose profile =>
    match createPolicyCr env r profile crId with
    | .error _ => some (s.drop i)
    | .ok cr =>
      let holdsRow : Bool := r.session.status ≠ r.loaded.status
      if holdsRow = true ∧ s.locked i = true then none
      else some (s.setRequest i { r with holdsRow, phase := .lookUp profile cr })
  | _ => none

def lookUp (s : SoakState) (i : Nat) (r : SoakRequest) : Option SoakState :=
  match r.phase with
  | .lookUp profile cr =>
    let found := (s.baselineOf r.session).map SecurityPolicyBaseline.id
    some (s.setRequest i { r with phase := .store profile cr found })
  | _ => none

/-- The baseline is inserted under the unique constraint, or updated if it is still there. -/
def storeBaseline (s : SoakState) (session : SoakSession) (profile : Dict) (crId : Uuid)
    (found : Option Uuid) (baselineId : Uuid) : Option (List SecurityPolicyBaseline) :=
  match found with
  | none =>
    let baseline : SecurityPolicyBaseline := {
      id := baselineId
      organizationId := session.organizationId
      projectId := session.projectId
      policyType := session.policyType
      profile := profile
      crId := some crId }
    if baseline.key ∈ s.baselines.map SecurityPolicyBaseline.key then none
    else some (s.baselines ++ [baseline])
  | some id =>
    if id ∈ s.baselines.map SecurityPolicyBaseline.id then
      some (s.baselines.map fun b =>
        if b.id = id then { b with profile := profile, crId := some crId } else b)
    else none

/-- The last flush and the COMMIT. Between two flushes of a request nobody else writes the row, so
that they are one. -/
def commit (s : SoakState) (i : Nat) (baselineId : Uuid) (r : SoakRequest) : Option SoakState :=
  if s.locked i = true then none
  else
    match r.phase with
    | .write => some { s.drop i with row := s.row.flush r.loaded r.session }
    | .store profile cr found =>
      match s.storeBaseline r.session profile cr.id found baselineId with
      | none => some (s.drop i)
      | some baselines =>
        let session := { r.session with crId := some cr.id, status := .crProposed }
        some { s.drop i with
          row := s.row.flush r.loaded session
          baselines := baselines
          changeRequests := s.changeRequests ++ [cr] }
    | _ => none

/-- What another session stores for its project. -/
def otherBaseline (s : SoakState) (baseline : SecurityPolicyBaseline) : SoakState :=
  if baseline.key ∈ s.baselines.map SecurityPolicyBaseline.key then
    { s with baselines := s.baselines.map fun b =>
      if b.key = baseline.key then { b with profile := baseline.profile, crId := baseline.crId }
      else b }
  else { s with baselines := s.baselines ++ [baseline] }

def deleteBaseline (s : SoakState) (organizationId projectId : Uuid) (policyType : String) :
    SoakState :=
  { s with baselines := s.baselines.filter fun b => ¬(b.organizationId = organizationId ∧
    b.projectId = projectId ∧ b.policyType = policyType) }

def step (env : SoakEnv) (s : SoakState) : SoakEvent → Option SoakState
  | .stop serviceName userId => s.stop serviceName userId
  | .accept serviceName userId => s.accept serviceName userId
  | .observe i outcome => s.requests[i]?.bind (s.observe env i outcome)
  | .compare i => s.requests[i]?.bind (s.compare env i)
  | .propose i crId => s.requests[i]?.bind (s.propose env i crId)
  | .lookUp i => s.requests[i]?.bind (s.lookUp i)
  | .commit i baselineId => s.requests[i]?.bind (s.commit i baselineId)
  | .fail i => s.requests[i]?.map fun _ => s.drop i
  | .otherBaseline baseline => some (s.otherBaseline baseline)
  | .deleteBaseline organizationId projectId policyType =>
    some (s.deleteBaseline organizationId projectId policyType)

end SoakState

/-- A session begins to run before its first request. -/
def soakSystem (env : SoakEnv) : System SoakState SoakEvent where
  start s := s.row.status = .running ∧ s.changeRequests = [] ∧ s.requests = [] ∧
    (s.baselines.map SecurityPolicyBaseline.key).Nodup
  step := SoakState.step env

end Nexplane
