import Nexplane.Entities
import Nexplane.Lib.Py
import Nexplane.Lib.Runs
import Nexplane.Lib.Text

set_option autoImplicit false

/-! The accounts that identity connectors discover, and their correlation with profiles by e-mail.
All connectors of a sync share one database session. Times are in microseconds. -/

namespace Nexplane
open PyValue Runs

/-- `IdentityProfile`. -/
structure ProfileRow where
  id : Uuid
  organizationId : Uuid
  primaryEmail : String
  displayName : String
  sourceIdpConnectorId : Option Uuid := none
  correlationMethod : String
  lastSyncedAt : Option Int
  deriving DecidableEq

/-- `IdentityAccount`. -/
structure AccountRow where
  organizationId : Uuid
  identityProfileId : Uuid
  connectorId : Uuid
  connectorType : String
  externalId : String
  username : String := ""
  email : Option String := none
  rawAttributes : Json := .null
  lastSyncedAt : Option Int := none
  isStale : Bool := false

structure IdentityTables where
  profiles : List ProfileRow
  accounts : List AccountRow

/-- The key that the code looks profiles up by; the table has no constraint on it. -/
def ProfileRow.key (p : ProfileRow) : Uuid × String := (p.organizationId,p.primaryEmail)

/-- `uq_identity_accounts_connector_external`. -/
def AccountRow.key (a : AccountRow) : Uuid × String := (a.connectorId,a.externalId)

/-- The primary key of the profiles and the unique constraint of the accounts. -/
structure IdentityTables.Storable (t : IdentityTables) : Prop where
  profileIds : (t.profiles.map ProfileRow.id).Nodup
  accountKeys : (t.accounts.map AccountRow.key).Nodup

instance (t : IdentityTables) : Decidable t.Storable :=
  decidable_of_iff
    ((t.profiles.map ProfileRow.id).Nodup ∧ (t.accounts.map AccountRow.key).Nodup)
    ⟨fun h => ⟨h.1,h.2⟩,fun h => ⟨h.profileIds,h.accountKeys⟩⟩

/-- The tables with what the session has not flushed yet. `refused` says that a pending row has a
value that is no text in a column for texts, `inactive` that a flush has failed. -/
structure IdentitySession where
  tables : IdentityTables
  refused : Bool := false
  inactive : Bool := false

def flush : Py IdentitySession Unit := fun s =>
  if s.inactive = true then (.error (.other "PendingRollbackError"),s)
  else if s.refused = false ∧ s.tables.Storable then (.ok (),s)
  else (.error (.other "IntegrityError"),{ s with inactive := true })

def idpConnectorTypes : List String := ["okta","entra_id"]

/-- Dotted paths are split at the dots. -/
def emailFields : List (String × List (List String)) :=
  [("okta",[["profile","email"],["profile","login"]]),
    ("entra_id",[["mail"],["userPrincipalName"]]),
    ("active_directory",[["mail"],["userPrincipalName"]]),
    ("ldap",[["mail"],["email"]]),
    ("freeipa",[["mail"],["email"]]),
    ("github",[["email"]]),
    ("gitlab",[["email"]]),
    ("keycloak",[["email"]]),
    ("gitea",[["email"]]),
    ("teleport",[["traits","email"],["email"]]),
    ("kubernetes",[["email"]])]

def defaultEmailFields : List (List String) := [["email"],["mail"],["userPrincipalName"]]

def getNested : Json → List String → Option String
  | .str s, [] => some s
  | _, [] => none
  | .obj d, p :: ps => getNested (Dict.getD d p .null) ps
  | _, _ :: _ => none

section Emails

-- `str.lower`.
variable (lower : List Char → List Char)

/-- `val.lower().strip()`. -/
def normalizeEmail (val : String) : String := String.ofList (Text.strip (lower val.toList))

def correlateByEmail (connectorType : String) (raw : Json) : Option String :=
  let fields := (emailFields.lookup connectorType).getD defaultEmailFields
  ((fields.filterMap (getNested raw)).find? (· ≠ "")).map (normalizeEmail lower)

def firstEmail (record : Json) : List String → Except Exc (Option String)
  | [] => .ok none
  | field :: fields => do
    let val ← record.get field .null
    if val.truthy then
      match val with
      | .str s => .ok (some (normalizeEmail lower s))
      | _ => .error .attributeError
    else firstEmail record fields

def extractIdpCrossRefs (connectorType : String) (raw : Json) : Except Exc (Option String) := do
  if connectorType = "okta" then
    let profile ← raw.get "profile" raw
    firstEmail lower profile ["email","login"]
  else if connectorType = "entra_id" then
    firstEmail lower raw ["mail","userPrincipalName"]
  else .ok none

def emailOf (connectorType : String) (rawAttrs : Json) : Except Exc (Option String) :=
  if connectorType ∈ idpConnectorTypes then extractIdpCrossRefs lower connectorType rawAttrs
  else .ok (correlateByEmail lower connectorType rawAttrs)

end Emails

/-- `raw.get(field) or … or ""` over the fields. -/
def firstTruthy (raw : Json) : List String → Except Exc Json
  | [] => .ok (.str "")
  | field :: fields => do
    let v ← raw.get field .null
    let rest ← firstTruthy raw fields
    return v.orElse rest

/-- A discovered account as the loop reads it. -/
structure DiscoveredAccount where
  externalId : Json
  username : Json
  rawAttrs : Json
  email : Option String

def readAccount (lower : List Char → List Char) (connectorType : String) (raw : Json) :
    Except Exc DiscoveredAccount := do
  let externalId ← firstTruthy raw ["external_id","id"]
  let username ← firstTruthy raw ["username","login","samAccountName"]
  let rawAttributes ← raw.get "raw_attributes" .null
  let rawAttrs := rawAttributes.orElse raw
  let email ← emailOf lower connectorType rawAttrs
  return { externalId, username, rawAttrs, email }

structure SyncCall where
  organizationId : Uuid
  connectorId : Uuid
  connectorType : String
  accounts : List Json
  now : Int
  /-- The id of the profile that is created for an e-mail. -/
  newId : String → Uuid

def SyncCall.isIdp (c : SyncCall) : Bool := c.connectorType ∈ idpConnectorTypes

structure SyncStats where
  createdProfiles : Nat := 0
  upsertedAccounts : Nat := 0

/-- The text of a column for texts, and whether the value is one. -/
def textColumn : Json → String × Bool
  | .str s => (s,true)
  | _ => ("",false)

namespace SyncCall

/-- `profiles_by_email`, in which a later profile hides an earlier one. -/
def loadProfiles (c : SyncCall) (t : IdentityTables) : List (String × Uuid) :=
  ((t.profiles.filter fun p => p.organizationId = c.organizationId).map
    fun p => (p.primaryEmail,p.id)).reverse

/-- The keys of `accounts_by_ext`. -/
def loadAccounts (c : SyncCall) (t : IdentityTables) : List String :=
  (t.accounts.filter fun a => a.connectorId = c.connectorId).map AccountRow.externalId

def newProfile (c : SyncCall) (email displayName : String) : ProfileRow where
  id := c.newId email
  organizationId := c.organizationId
  primaryEmail := email
  displayName := displayName
  sourceIdpConnectorId := if c.isIdp then some c.connectorId else none
  correlationMethod := if c.isIdp then "idp" else "email"
  lastSyncedAt := some c.now

def touchProfile (c : SyncCall) (p : ProfileRow) : ProfileRow :=
  if c.isIdp ∧ p.sourceIdpConnectorId = none then
    { p with
      lastSyncedAt := some c.now
      sourceIdpConnectorId := some c.connectorId
      correlationMethod := "idp" }
  else { p with lastSyncedAt := some c.now }

/-- The profile of an e-mail, found or created; the dictionary is kept up to date. -/
def findOrCreateProfile (c : SyncCall) (found : DiscoveredAccount) (email : String)
    (byEmail : List (String × Uuid)) : Py IdentitySession (Uuid × List (String × Uuid) × Nat) :=
  match byEmail.lookup email with
  | some id => do
    Py.modify fun s => { s with tables := { s.tables with
      profiles := s.tables.profiles.map fun p => if p.id = id then c.touchProfile p else p } }
    return (id,byEmail,0)
  | none => do
    let displayName ← Py.ofExcept (firstTruthy found.rawAttrs ["displayName","name"])
    let (text,isText) := textColumn (displayName.orElse found.username)
    Py.modify fun s => { s with
      tables := { s.tables with profiles := s.tables.profiles ++ [c.newProfile email text] }
      refused := s.refused || !isText }
    flush
    return (c.newId email,(email,c.newId email) :: byEmail,1)

def touchAccount (c : SyncCall) (found : DiscoveredAccount) (email : String)
    (a : AccountRow) : AccountRow :=
  { a with
    username := (textColumn found.username).1
    email := some email
    rawAttributes := found.rawAttrs
    lastSyncedAt := some c.now
    isStale := false }

/-- The row of the account, found or created. `byExt` holds the rows from before the loop only, and
a key that is a list or a dictionary cannot be looked up. -/
def upsertAccount (c : SyncCall) (byExt : List String) (found : DiscoveredAccount)
    (email : String) (profileId : Uuid) : Py IdentitySession Unit :=
  match found.externalId with
  | .arr _ | .obj _ => Py.raise .typeError
  | .str externalId =>
    let refusedName := !(textColumn found.username).2
    if externalId ∈ byExt then
      Py.modify fun s => { s with
        tables := { s.tables with
          accounts := s.tables.accounts.map fun a =>
            if a.key = (c.connectorId,externalId) then c.touchAccount found email a else a }
        refused := s.refused || refusedName }
    else
      Py.modify fun s => { s with
        tables := { s.tables with
          accounts := s.tables.accounts ++ [c.touchAccount found email {
            organizationId := c.organizationId
            identityProfileId := profileId
            connectorId := c.connectorId
            connectorType := c.connectorType
            externalId := externalId }] }
        refused := s.refused || refusedName }
  | _ => Py.modify fun s => { s with refused := true }

def syncAccount (lower : List Char → List Char) (c : SyncCall) (byExt : List String)
    (byEmail : List (String × Uuid)) (raw : Json) :
    Py IdentitySession (List (String × Uuid) × SyncStats) := do
  let found ← Py.ofExcept (readAccount lower c.connectorType raw)
  match found.email with
  | none => return (byEmail,{})
  | some email =>
    if email = "" then return (byEmail,{})
    else
      let (profileId,byEmail,created) ← c.findOrCreateProfile found email byEmail
      c.upsertAccount byExt found email profileId
      return (byEmail,{ createdProfiles := created, upsertedAccounts := 1 })

def syncAccounts (lower : List Char → List Char) (c : SyncCall) (byExt : List String) :
    List (String × Uuid) → SyncStats → List Json → Py IdentitySession SyncStats
  | _, stats, [] => pure stats
  | byEmail, stats, raw :: rest => do
    let (byEmail,one) ← c.syncAccount lower byExt byEmail raw
    c.syncAccounts lower byExt byEmail {
      createdProfiles := stats.createdProfiles + one.createdProfiles
      upsertedAccounts := stats.upsertedAccounts + one.upsertedAccounts } rest

def staleThreshold : Int := 24 * 3600000000

def markStale (c : SyncCall) (a : AccountRow) : AccountRow :=
  if a.connectorId = c.connectorId ∧ a.lastSyncedAt.any (· < c.now - staleThreshold) then
    { a with isStale := true }
  else a

/-- `sync_connector_accounts`; each query flushes first. -/
def syncConnectorAccounts (lower : List Char → List Char) (c : SyncCall) :
    Py IdentitySession SyncStats := do
  flush
  let s ← Py.get
  let stats ← c.syncAccounts lower (c.loadAccounts s.tables) (c.loadProfiles s.tables) {} c.accounts
  flush
  Py.modify fun s => { s with
    tables := { s.tables with accounts := s.tables.accounts.map c.markStale } }
  return stats

end SyncCall

/-- The committed tables, and the session of the sync that is under way. -/
structure IdentityState where
  committed : IdentityTables
  session : IdentitySession

/-- A sync of all connectors makes one call for each, catches what it raises, and commits at its
end; `rollback` is a session that is closed without. -/
inductive IdentityEvent where
  | sync (call : SyncCall)
  | commit
  | rollback

namespace IdentityState

def rollback (s : IdentityState) : IdentityState :=
  { s with session := { tables := s.committed } }

def step (lower : List Char → List Char) (s : IdentityState) : IdentityEvent → IdentityState
  | .sync call => { s with session := (call.syncConnectorAccounts lower s.session).2 }
  | .commit =>
    match flush s.session with
    | (.ok _,session) => { committed := session.tables, session := session }
    | (.error _,_) => s.rollback
  | .rollback => s.rollback

end IdentityState

end Nexplane
