import Nexplane.Lib.Py
import Nexplane.Lib.Orm
import Nexplane.ConnectorService
import Nexplane.FanOut
import Mathlib.Data.List.Sort
import Mathlib.Data.String.Basic

set_option autoImplicit false

/-! The stored states that drift is measured against, and what happens to them and to the open
drift events when a change request completes. -/

namespace Nexplane
open PyValue

inductive EventStatus where
  | opened
  | accepted
  | attested
  | dismissed
  deriving DecidableEq, Repr

/-- An organisation, an asset and a surface. -/
abbrev SurfaceKey := Uuid × Uuid × String

structure DriftEvent where
  id : Uuid
  organizationId : Uuid
  assetId : Uuid
  surfaceType : String
  status : EventStatus
  resolvedAt : Option Nat
  resolutionNote : Option String
  deriving DecidableEq, Repr

def DriftEvent.key (e : DriftEvent) : SurfaceKey := (e.organizationId,e.assetId,e.surfaceType)

structure ResourceState where
  id : Uuid
  organizationId : Uuid
  assetId : Uuid
  surfaceType : String
  state : Dict
  capturedAt : Nat
  source : String
  sourceCrId : Option Uuid
  acceptedBy : Option Uuid
  acceptedAt : Option Nat
  acceptanceNote : Option String

def ResourceState.key (row : ResourceState) : SurfaceKey :=
  (row.organizationId,row.assetId,row.surfaceType)

structure DriftPolicy where
  id : Uuid
  organizationId : Uuid
  name : String
  scopeType : String
  scopeValue : String
  surfaceTypes : List String
  pollIntervalSeconds : Nat
  autoCreated : Bool
  enabled : Bool
  sourceCrId : Option Uuid

structure DriftDb where
  resourceStates : List ResourceState
  policies : List DriftPolicy
  events : List DriftEvent
  eventKeys : (events.map DriftEvent.id).Nodup

namespace DriftDb

/-- `load_resource_state`. -/
def loadResourceState (db : DriftDb) (k : SurfaceKey) : Option ResourceState :=
  db.resourceStates.find? fun row => row.key = k

/-- `INSERT … ON CONFLICT (organization, asset, surface) DO UPDATE`. -/
def upsert (db : DriftDb) (row : ResourceState) : DriftDb :=
  { db with
    resourceStates := if (db.loadResourceState row.key).isSome then
        db.resourceStates.map fun old => if old.key = row.key then { row with id := old.id } else old
      else db.resourceStates ++ [row] }

/-- `UPDATE drift_events SET status = 'dismissed'` where the condition holds. -/
def dismiss (db : DriftDb) (p : DriftEvent → Bool) (now : Nat) (note : String) : DriftDb :=
  let close := fun e : DriftEvent => if p e then
    { e with status := .dismissed, resolvedAt := some now, resolutionNote := some note } else e
  { db with
    events := db.events.map close
    eventKeys := by
      have hid : DriftEvent.id ∘ close = DriftEvent.id := by
        funext e
        by_cases hp : p e = true <;> simp [close,hp]
      rw [List.map_map,hid]
      exact db.eventKeys }

end DriftDb

/-- An observation that a completed change request made, with the state that it stored. -/
structure Observation where
  key : SurfaceKey
  stored : Option Dict

/-- A session: what is committed, what its transaction sees, and the observations so far. -/
structure DriftSession where
  committed : DriftDb
  working : DriftDb
  observations : List Observation

def DriftSession.commit (s : DriftSession) : DriftSession := { s with committed := s.working }

/-- What the code reads: the answers of the agent to the jobs in their order, the catalog, the
texts of values, the clock and new identifiers. -/
structure DriftEnv where
  dispatchAgentJob : Nat → Uuid → String → Except Exc Dict
  driftSurfaces : String → List String
  str : Json → String
  now : Nat → Nat
  newUuid : Nat → Uuid

def hostSurfaces : List String :=
  ["ssh_config","sudoers","cron_jobs","listening_ports","running_services","users_groups",
    "firewall_rules"]

def cloudSurfaces : List String :=
  ["aws_security_group","aws_iam_policy","aws_s3_bucket_policy","gcp_firewall_rule",
    "gcp_iam_binding","oci_security_list"]

section Observe

variable (env : DriftEnv)

mutual

def normalizeJson : Json → Json
  | .arr items => .arr (items.insertionSort fun v w => env.str v ≤ env.str w)
  | .obj fields => .obj ((normalizeFields fields).insertionSort fun v w => v.1 ≤ w.1)
  | v => v

def normalizeFields : Dict → Dict
  | [] => []
  | (k,v) :: fields => (k,normalizeJson v) :: normalizeFields fields

end

/-- `normalize_state`. -/
def normalizeDict (raw : Dict) : Dict :=
  (normalizeFields env raw).insertionSort fun v w => v.1 ≤ w.1

def observeHostSurface (n : Nat) (assetId : Uuid) (surfaceType : String) : Except Exc Json := do
  let result ← env.dispatchAgentJob n assetId surfaceType
  if Json.isStr "success" (result.getD "status" .null) then (Json.obj result).index "state"
  else .error (.runtimeError (env.str (result.getD "error"
    (.str ("agent observation failed for " ++ surfaceType)))))

/-- `observe_surface` without a connector. -/
def observeSurface (n : Nat) (assetId : Uuid) (surfaceType : String) : Except Exc Json :=
  if surfaceType ∈ hostSurfaces then observeHostSurface env n assetId surfaceType
  else if surfaceType ∈ cloudSurfaces then
    .error (.valueError ("connector required for cloud surface " ++ surfaceType))
  else .error (.valueError ("Unknown surface type: " ++ surfaceType))

variable (cr : ChangeRequest)

/-- The statements of the `try` up to the write: what is observed, normalised. -/
def observation (n : Nat) (assetId : Uuid) (surfaceType : String) : Observation where
  key := (cr.organizationId,assetId,surfaceType)
  stored := do
    let observed ← (observeSurface env n assetId surfaceType).toOption
    let raw ← observed.mapping.toOption
    pure (normalizeDict env raw)

def anchorRow (n : Nat) (k : SurfaceKey) (state : Dict) : ResourceState where
  id := env.newUuid n
  organizationId := k.1
  assetId := k.2.1
  surfaceType := k.2.2
  state := state
  capturedAt := env.now n
  source := "cr_execution"
  sourceCrId := some cr.id
  acceptedBy := none
  acceptedAt := none
  acceptanceNote := none

/-- The statement is committed at once, with all that the transaction holds. -/
def upsertResourceState (k : SurfaceKey) (state : Dict) : Py DriftSession Unit :=
  Py.modify fun s =>
    let row := anchorRow env cr s.observations.length k state
    DriftSession.commit { s with working := s.working.upsert row }

/-- `try` to observe the surface and to store what was observed; an exception is logged. -/
def reanchor (assetId : Uuid) (surfaceType : String) : Py DriftSession Unit := do
  let s ← Py.get
  let o := observation env cr s.observations.length assetId surfaceType
  Py.modify fun s => { s with observations := s.observations ++ [o] }
  match o.stored with
  | some state => upsertResourceState env cr o.key state
  | none => pure ()

def DriftPolicy.covers (k : SurfaceKey) (policy : DriftPolicy) : Bool :=
  policy.organizationId = k.1 ∧ policy.scopeType = "asset" ∧ policy.scopeValue = k.2.1 ∧
    k.2.2 ∈ policy.surfaceTypes

def autoPolicy (id : Uuid) (k : SurfaceKey) : DriftPolicy where
  id := id
  organizationId := k.1
  name := "auto:" ++ k.2.2 ++ ":" ++ k.2.1
  scopeType := "asset"
  scopeValue := k.2.1
  surfaceTypes := [k.2.2]
  pollIntervalSeconds := 3600
  autoCreated := true
  enabled := true
  sourceCrId := some cr.id

def ensureDriftPolicy (k : SurfaceKey) : Py DriftSession Unit := do
  let s ← Py.get
  match s.working.policies.filter (DriftPolicy.covers k) with
  | [] => Py.modify fun s => { s with working := { s.working with
      policies := s.working.policies ++ [autoPolicy cr (env.newUuid s.observations.length) k] } }
  | [_] => pure ()
  | _ => Py.raise (.other "Multiple rows were found when one or none was required")

def resolutionNote : String := "resolved by CR " ++ cr.id

def dismissEvents (p : DriftEvent → Bool) : Py DriftSession Unit :=
  Py.modify fun s => { s with
    working := s.working.dismiss p (env.now s.observations.length) (resolutionNote cr) }

/-- The body of the two loops for a change request that is no restoration. -/
def closeSurface (assetId : Uuid) (surfaceType : String) : Py DriftSession Unit := do
  reanchor env cr assetId surfaceType
  ensureDriftPolicy env cr (cr.organizationId,assetId,surfaceType)
  dismissEvents env cr fun e =>
    e.key = (cr.organizationId,assetId,surfaceType) ∧ e.status = .opened

def restoreResourceState : ChangeType := .generic "restore_resource_state"

/-- The re-anchoring of a restoration. -/
def reanchorTargets (resourceStateId : Json) : Py DriftSession Unit :=
  if resourceStateId.truthy then do
    let id ← Py.ofExcept (parseUuid (jsonStr resourceStateId))
    let s ← Py.get
    match s.working.resourceStates.find? fun row => row.id = id with
    | some rs => do
      let _ ← Py.each (fun asset => do
        let assetId ← Py.ofExcept (parseUuid asset)
        reanchor env cr assetId rs.surfaceType) cr.targetAssetIds
      pure ()
    | none => pure ()
  else pure ()

def onRestoreCompleted : Py DriftSession Unit := do
  let driftEventId := cr.desiredOutcome.getD "drift_event_id" .null
  if driftEventId.truthy then do
    let id ← Py.ofExcept (parseUuid (jsonStr driftEventId))
    dismissEvents env cr fun e => e.id = id
    reanchorTargets env cr (cr.desiredOutcome.getD "resource_state_id" .null)
    Py.modify DriftSession.commit
  else do
    reanchorTargets env cr (cr.desiredOutcome.getD "resource_state_id" .null)
    Py.modify DriftSession.commit

def onChangeCompleted : Py DriftSession Unit := do
  let surfaces := env.driftSurfaces cr.changeType.value
  if surfaces.isEmpty then pure ()
  else do
    let _ ← Py.each (fun asset => do
      let assetId ← Py.ofExcept (parseUuid asset)
      Py.each (closeSurface env cr assetId) surfaces) cr.targetAssetIds
    Py.modify DriftSession.commit

def onCrCompleted : Option ChangeRequest → Py DriftSession Unit
  | none => pure ()
  | some cr =>
    if cr.changeType = restoreResourceState then onRestoreCompleted env cr
    else onChangeCompleted env cr

end Observe

/-- The session after the hook has run on its own session, which is closed without a commit. -/
def DriftDb.afterCompletion (db : DriftDb) (env : DriftEnv) (cr : Option ChangeRequest) :
    DriftSession :=
  (onCrCompleted env cr ⟨db,db,[]⟩).2

end Nexplane
