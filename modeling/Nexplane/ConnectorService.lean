import Nexplane.Lib.Checks
import Nexplane.World

set_option autoImplicit false

/-! Running one action through its executor module, and the inventory entries that actions
create on the way. -/

namespace Nexplane
open PyValue

variable {ω : Type}

/-- `text.replace(pattern, '')` for a non-empty pattern; `skip` counts what is left of a match. -/
def dropText (pattern : List Char) : Nat → List Char → List Char
  | _, [] => []
  | skip + 1, _ :: cs => dropText pattern skip cs
  | 0, c :: cs =>
    if pattern.isPrefixOf (c :: cs) then dropText pattern (pattern.length - 1) cs
    else c :: dropText pattern 0 cs

def stripBraces (cs : List Char) : List Char :=
  let brace : Char → Bool := fun c => c = '\x7b' || c = '\x7d'
  ((cs.dropWhile brace).reverse.dropWhile brace).reverse

/-- `uuid.UUID(text)` of 32 hexadecimal digits, as canonical text. -/
def parseUuid (text : String) : Except Exc Uuid :=
  let hex := stripBraces (dropText "uuid:".toList 0 (dropText "urn:".toList 0 text.toList))
  let digits := (hex.filter (· ≠ '-')).map Char.toLower
  let isHex : Char → Bool := fun c => c.isDigit || ('a' ≤ c && c ≤ 'f')
  if digits.length = 32 ∧ digits.all isHex then
    .ok (String.ofList (digits.take 8 ++ '-' :: (digits.drop 8).take 4 ++
      '-' :: (digits.drop 12).take 4 ++ '-' :: (digits.drop 16).take 4 ++
      '-' :: digits.drop 20))
  else .error (.valueError "badly formed hexadecimal UUID string")

def attachCredentials (env : Env ω) (connector : Connector) : Except Exc Connector := do
  let credentials ← env.credentials connector.id
  pure { connector with credentials := credentials }

def assetTypeValues : List String :=
  ["server", "cloud_account", "dns_zone", "firewall", "identity_provider", "application",
    "identity", "database", "storage_bucket", "load_balancer", "macos_fleet", "endpoint",
    "container_cluster", "key_pair", "kubernetes_cluster", "container_image",
    "kubernetes_workload", "application_profile", "service_endpoint", "database_instance",
    "network_port", "k8s_secret", "aws_secret"]

def environmentValues : List String := ["dev", "staging", "prod"]

def criticalityValues : List String := ["low", "medium", "high", "critical"]

/-- `Enumeration(value)` for an enumeration given by its values. -/
def memberOf (name : String) (values : List String) (value : Json) : Except Exc String :=
  match value with
  | .str s =>
    if s ∈ values then .ok s
    else .error (.valueError ("'" ++ s ++ "' is not a valid " ++ name))
  | _ => .error (.valueError ("not a valid " ++ name))

/-- A value that the column it is compared with or stored in takes as text. -/
def asText : Json → Except Exc String
  | .str s => .ok s
  | _ => .error .typeError

/-- `set(a) | set(b)` of two lists of texts. -/
def unionTags (a b : List String) : List String := a ++ b.filter (· ∉ a)

/-- `{**existing.asset_metadata, **payload.get("asset_metadata", {})}`. -/
def mergeMetadata (existing update : Json) : Except Exc Json := do
  let base ← existing.mapping
  let entries ← update.mapping
  pure (.obj (Dict.merge base entries))

/-- The row of an auto-created asset, with the defaults of the columns its payload leaves out. -/
def newAutoAsset (payload : Json) (organizationId connectorId : Uuid) (name : String)
    (id : Uuid) : Except Exc Asset := do
  let assetType ← payload.get "asset_type" (.str "server")
  let assetType ← memberOf "AssetType" assetTypeValues assetType
  let environment ← payload.get "environment" (.str "prod")
  let environment ← memberOf "Environment" environmentValues environment
  let criticality ← payload.get "criticality" (.str "medium")
  let criticality ← memberOf "Criticality" criticalityValues criticality
  let metadata ← payload.get "asset_metadata" (.obj [])
  let tags ← payload.get "tags" (.arr [])
  pure ⟨id,organizationId,some connectorId,name,assetType,environment,criticality,metadata,
    tags.strings⟩

def updatedAutoAsset (payload : Json) (existing : Asset) : Except Exc Asset := do
  let metadata ← payload.get "asset_metadata" (.obj [])
  let metadata ← mergeMetadata existing.metadata metadata
  let tags ← payload.get "tags" (.arr [])
  pure { existing with metadata := metadata, tags := unionTags existing.tags tags.strings }

def Site.replaceAsset (s : Site ω) (updated : Asset) : Site ω :=
  { s with assets := s.assets.map fun asset => if asset.id = updated.id then updated else asset }

/-- The insertion of the row and of its link to the connector, `on_conflict_do_nothing`. -/
def Site.addAsset (s : Site ω) (asset : Asset) (connectorId : Uuid) : Site ω :=
  { s with
    assets := s.assets ++ [asset]
    assetConnectors := if (asset.id,connectorId) ∈ s.assetConnectors then s.assetConnectors
      else s.assetConnectors ++ [(asset.id,connectorId)] }

def Asset.isTarget (organizationId connectorId : Uuid) (name : String) (asset : Asset) : Bool :=
  asset.organizationId = organizationId && asset.connectorId = some connectorId &&
    asset.name = name

def upsertAutoAsset (env : Env ω) (payload : Json) (organizationId connectorId : Uuid) :
    Py (Site ω) Uuid := do
  let name ← Py.ofExcept (payload.get "name" (.str "unnamed") >>= asText)
  let site ← Py.get
  match site.assets.find? (Asset.isTarget organizationId connectorId name) with
  | some existing =>
    let updated ← Py.ofExcept (updatedAutoAsset payload existing)
    Py.modify fun s => s.replaceAsset updated
    pure existing.id
  | none =>
    let asset ← Py.ofExcept
      (newAutoAsset payload organizationId connectorId name (env.newUuid site.assets))
    Py.modify fun s => s.addAsset asset connectorId
    pure asset.id

def deleteAutoAsset (assetId : Json) : Py (Site ω) Unit := do
  let text ← Py.ofExcept (asText assetId)
  let id ← Py.ofExcept (parseUuid text)
  Py.modify fun s => { s with
    assets := s.assets.filter fun asset => asset.id ≠ id
    assetConnectors := s.assetConnectors.filter fun link => link.1 ≠ id }

/-- The exceptions of `get_executor` that `execute_action` reports as its own. -/
def asConnectorError : Exc → Exc
  | .keyError key => .connectorError (Exc.str (.keyError key))
  | .importError message => .connectorError message
  | .valueError message => .connectorError message
  | e => e

/-- `execute_action`; every caller passes a session whenever it passes a connector. -/
def executeAction (env : Env ω) (connectorType actionId : String) (parameters : Dict)
    (assetIds : List String) (connector : Option Connector) : Py (Site ω) Json := do
  Py.modify fun s => s.log (.execute connectorType actionId parameters)
  let connector ← Py.ofExcept (connector.mapM (attachCredentials env))
  let executor ← Py.ofExcept ((env.getExecutor connectorType actionId).mapError asConnectorError)
  let result ← outside (executor.execute parameters assetIds connector)
  let hasAsset ← Py.ofExcept (result.contains "_auto_asset")
  match hasAsset, connector with
  | true, some connector =>
    let payload ← Py.ofExcept (result.index "_auto_asset")
    let fields ← Py.ofExcept result.mapping
    let id ← upsertAutoAsset env payload connector.organizationId connector.id
    pure (.obj ((Dict.erase fields "_auto_asset").set "_auto_asset_id" (.str id)))
  | _, _ => pure result

section Frame

variable {env : Env ω}

/-- Creating or updating an inventory entry touches the inventory only. -/
theorem upsertAutoAsset_keeps {I : Site ω → Prop}
    (hI : ∀ s assets links, I s → I { s with assets := assets, assetConnectors := links })
    (payload : Json) (organizationId connectorId : Uuid) :
    Py.Keeps I (upsertAutoAsset env payload organizationId connectorId) := by
  unfold upsertAutoAsset
  refine .bind (.ofExcept _) fun name => .bind .get fun site => ?_
  split
  · exact .bind (.ofExcept _) fun _ => .bind (.modify fun s h => hI s _ s.assetConnectors h)
      fun _ => .pure _
  · exact .bind (.ofExcept _) fun _ => .bind (.modify fun s h => hI s _ _ h) fun _ => .pure _

end Frame

section Returns

variable {env : Env ω} {connectorType actionId : String} {parameters : Dict}
  {assetIds : List String} {connector : Option Connector} {s s' : Site ω} {result : Json}

/-- What is recorded of an executor's answer: the identifier of an inventory entry stands in for
its payload. -/
inductive RecordedAs : Json → Json → Prop where
  | plain (raw : Json) : RecordedAs raw raw
  | asset (d : Dict) (id : Uuid) :
      RecordedAs (.obj d) (.obj ((Dict.erase d "_auto_asset").set "_auto_asset_id" (.str id)))

theorem attachCredentials_id {c d : Connector} (h : attachCredentials env c = .ok d) :
    d.id = c.id := by
  obtain ⟨credentials,_,h⟩ := Checks.bind_eq_ok.mp h
  obtain rfl := Except.ok.inj h
  rfl

theorem attachAll_id {attached : Option Connector}
    (h : connector.mapM (attachCredentials env) = .ok attached) :
    attached.map Connector.id = connector.map Connector.id := by
  cases connector with
  | none =>
    obtain rfl : none = attached := Except.ok.inj h
    rfl
  | some c =>
    obtain ⟨d,hd,h⟩ := Checks.bind_eq_ok.mp h
    obtain rfl := Except.ok.inj h
    simp [attachCredentials_id hd]

theorem upsertAutoAsset_outside (payload : Json) (organizationId connectorId : Uuid)
    (s : Site ω) :
    (upsertAutoAsset env payload organizationId connectorId s).2.outside = s.outside := by
  have hk : Py.Keeps (fun t : Site ω => t.outside = s.outside)
      (upsertAutoAsset env payload organizationId connectorId) :=
    upsertAutoAsset_keeps (fun _ _ _ h => h) payload organizationId connectorId
  exact hk s rfl

/-- An action that returns is one run of its executor module, with its connector. -/
theorem executeAction_returns
    (h : executeAction env connectorType actionId parameters assetIds connector s =
      (.ok result,s')) :
    ∃ module attached raw, env.getExecutor connectorType actionId = .ok module ∧
      attached.map Connector.id = connector.map Connector.id ∧
      module.execute parameters assetIds attached s.outside = (.ok raw,s'.outside) ∧
      RecordedAs raw result := by
  rw [executeAction,Py.modify_bind] at h
  obtain ⟨attached,hattached,h⟩ := Py.ofExcept_bind_eq_ok.mp h
  obtain ⟨module,hmodule,h⟩ := Py.ofExcept_bind_eq_ok.mp h
  obtain ⟨raw,hraw,h⟩ := Py.zoom_bind_eq_ok.mp h
  obtain ⟨hasAsset,_,h⟩ := Py.ofExcept_bind_eq_ok.mp h
  have hfound : env.getExecutor connectorType actionId = .ok module := by
    cases hm : env.getExecutor connectorType actionId with
    | error e => simp [hm,Except.mapError] at hmodule
    | ok m => simpa [hm,Except.mapError] using hmodule
  refine ⟨module,attached,raw,hfound,attachAll_id hattached,?_⟩
  split at h
  · obtain ⟨payload,_,h⟩ := Py.ofExcept_bind_eq_ok.mp h
    obtain ⟨fields,hfields,h⟩ := Py.ofExcept_bind_eq_ok.mp h
    obtain ⟨id,t,hasset,h⟩ := Py.bind_eq_ok.mp h
    obtain ⟨hres,rfl⟩ := Prod.mk.inj h
    obtain rfl := Except.ok.inj hres
    cases raw with
    | obj d =>
      obtain rfl := Except.ok.inj hfields
      have houtside := congrArg (fun r => r.2.outside) hasset
      rw [upsertAutoAsset_outside] at houtside
      exact ⟨Prod.ext hraw houtside,.asset d id⟩
    | _ => cases hfields
  · obtain ⟨hres,rfl⟩ := Prod.mk.inj h
    obtain rfl := Except.ok.inj hres
    exact ⟨Prod.ext hraw rfl,.plain raw⟩

end Returns

end Nexplane
