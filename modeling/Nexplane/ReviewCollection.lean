import Nexplane.ConnectorService
import Nexplane.DriftNormalization
import Nexplane.ReviewCampaigns
import Nexplane.Lib.Checks
import Nexplane.Lib.Runs
import Nexplane.Lib.UnitOfWork

set_option autoImplicit false

/-! The collection of an access review: the access entries read from the metadata of the identity
assets, what is added to them, and the session that writes them. -/

namespace Nexplane
open PyValue Runs UnitOfWork

/-- An asset of type identity; `connector` is the type of its connector. -/
structure IdentityAsset where
  name : String
  connectorId : Option Uuid
  connector : Option String
  metadata : Json

/-- What the collection reads of an asset that carries the name of a resource. -/
structure ResourceAsset where
  criticality : String
  tags : Json
  metadata : Json

structure ReviewScope where
  connectorIds : Option (List String) := none
  assetTags : Option (List String) := none
  userGroups : Option (List String) := none
  includeInactiveUsers : Bool := false

structure EvidenceOptions where
  includeLastLogin : Bool := true
  includeDaysInactive : Bool := true
  includeAssetSensitivity : Bool := true

inductive ReviewerRuleType where
  | managerCentric
  | resourceOwner
  | securityTeam
  deriving DecidableEq

structure ReviewerAssignmentRule where
  type : ReviewerRuleType
  fallbackReviewerId : Option String := none

structure AccessEntry where
  userEmail : Json
  userDisplayName : Json
  userStatus : String
  connectorId : Option Uuid
  resourceType : String
  resourceName : Json
  permissionLevel : Json
  isPrivileged : Json

/-- A new row, with what the collection assigns to its columns. -/
structure CollectedEntry where
  entry : AccessEntry
  evidence : Dict
  reviewerId : Option Uuid
  reviewerUnresolved : Bool

/-- What one collection reads: the campaign's settings, the identity assets of its organization, and
the answers to its queries by name and by address. `daysInactive` is the age of a time in ISO
format, where it is one with a zone. -/
structure ReviewInventory where
  scope : ReviewScope
  options : EvidenceOptions
  rule : ReviewerAssignmentRule
  assets : List IdentityAsset
  resource : String → Option ResourceAsset
  userByEmail : String → Option Uuid
  daysInactive : String → Option Int

def privilegedTerms : List String :=
  ["admin", "owner", "administrator", "domain admins", "schema admins", "global administrator",
    "privileged role administrator", "administratoraccess"]

def inactiveThresholdDays : Int := 90

section Extraction

variable (lower : String → String) (printable : Char → Bool)

def isPrivileged (value : Json) : Bool :=
  privilegedTerms.any fun term => hasText term (lower (pyStr printable value))

def normalizeStatus (raw : Json) : String :=
  let raw := lower (pyStr printable raw)
  if raw ∈ ["active", "enabled", "provisioned"] then "active"
  else if raw ∈ ["suspended", "deprovisioned", "locked_out"] then "suspended"
  else if raw ∈ ["inactive", "disabled", "deactivated"] then "disabled"
  else "active"

/-- `[f(v) for v in meta.get(key, [])]`. -/
def entriesOver (metadata : Json) (key : String) (f : Json → Except Exc AccessEntry) :
    Except Exc (List AccessEntry) := do
  let values ← metadata.get key (.arr [])
  let values ← values.iter
  values.mapM f

def extractEntriesFromAsset (asset : IdentityAsset) : Except Exc (List AccessEntry) := do
  let metadata := asset.metadata.orElse (.obj [])
  let connectorType := asset.connector.getD "unknown"
  let email ← metadata.get "email" .null
  let displayName ← metadata.get "display_name" .null
  let name ← metadata.get "name" .null
  let status ← metadata.get "status" (.str "active")
  let makeEntry (resourceName permissionLevel isPrivileged : Json) : AccessEntry :=
    { userEmail := email.orElse (.str asset.name)
      userDisplayName := displayName.orElse (name.orElse (.str asset.name))
      userStatus := normalizeStatus lower printable status
      connectorId := asset.connectorId
      resourceType := connectorType
      resourceName, permissionLevel, isPrivileged }
  let privileged (value : Json) : Json := .bool (isPrivileged lower printable value)
  if connectorType = "okta" then
    let groups ← entriesOver metadata "groups" fun group =>
      pure (makeEntry group (.str "member") (privileged group))
    let apps ← entriesOver metadata "app_assignments" fun app => do
      let appName ← app.get "app_name" (.str "Unknown App")
      let role ← app.get "role" (.str "user")
      let isAdmin ← metadata.get "is_admin" (.bool false)
      pure (makeEntry appName role ((privileged role).orElse isAdmin))
    pure (groups ++ apps)
  else if connectorType = "active_directory" then
    entriesOver metadata "groups" fun group =>
      pure (makeEntry group (.str "member") (privileged group))
  else if connectorType = "google_workspace" then
    entriesOver metadata "groups" fun group => do
      let role ← if group.isDict then group.get "role" (.str "member") else pure (.str "member")
      let name ← if group.isDict then group.get "name" group else pure group
      pure (makeEntry name role (privileged role))
  else if connectorType = "github" then
    let orgRole ← metadata.get "role" (.str "member")
    let orgName ← metadata.get "org" (.str "GitHub Organization")
    let repos ← entriesOver metadata "repo_permissions" fun repo => do
      let repoName ← repo.get "repo" (.str "repo")
      let permission ← repo.get "permission" (.str "read")
      let granted ← repo.get "permission" (.str "")
      pure (makeEntry repoName permission (privileged granted))
    pure (makeEntry orgName orgRole (privileged orgRole) :: repos)
  else if connectorType = "entra_id" ∨ connectorType = "azure" then
    let roles ← entriesOver metadata "assigned_roles" fun role =>
      pure (makeEntry role (.str "role assignment") (privileged role))
    let groups ← entriesOver metadata "groups" fun group =>
      pure (makeEntry group (.str "member") (.bool false))
    pure (roles ++ groups)
  else if connectorType = "aws" then
    entriesOver metadata "iam_groups" fun group =>
      pure (makeEntry group (.str "iam_group_member") (privileged group))
  else pure []

end Extraction

/-- A value that a set takes. -/
def hashable : Json → Bool
  | .arr _ | .obj _ => false
  | _ => true

namespace ReviewInventory

variable (inv : ReviewInventory)

def allowedGroups : List String := inv.scope.userGroups.getD []

def requiredTags : List String := inv.scope.assetTags.getD []

/-- The identity assets that the query selects. -/
def identityAssets : Except Exc (List IdentityAsset) :=
  match inv.scope.connectorIds with
  | none | some [] => .ok inv.assets
  | some texts => do
    let ids ← texts.mapM parseUuid
    pure (inv.assets.filter fun asset => asset.connectorId.any ids.contains)

def enrichEntry (entry : AccessEntry) (asset : IdentityAsset) (resource : Option ResourceAsset) :
    Except Exc Dict := do
  let metadata := asset.metadata.orElse (.obj [])
  let login : Dict ←
    if inv.options.includeLastLogin || inv.options.includeDaysInactive then do
      let lastLoginAt ← metadata.get "last_login_at" .null
      let lastSignIn ← metadata.get "last_sign_in" .null
      let lastLogin := lastLoginAt.orElse lastSignIn
      let unknown : Dict :=
        [("last_login_at",.null),("days_inactive",.null),("flagged_inactive",.bool false)]
      if lastLogin.truthy then
        match lastLogin with
        | .str text =>
          match inv.daysInactive text with
          | some days =>
            pure [("last_login_at",lastLogin),("days_inactive",.int days),
              ("flagged_inactive",.bool (inactiveThresholdDays < days))]
          | none => pure unknown
        | _ => .error .attributeError
      else pure unknown
    else pure []
  let sensitivity : Dict :=
    match inv.options.includeAssetSensitivity, resource with
    | true, some resource =>
      [("asset_criticality",.str resource.criticality),
        ("asset_tags",resource.tags.orElse (.arr []))]
    | _, _ => [("asset_criticality",.null),("asset_tags",.arr [])]
  pure (login ++ sensitivity ++ [("flagged_privileged",entry.isPrivileged)])

/-- The reference to a reviewer, and whether the rule left it unresolved. -/
def resolveReviewer (managerEmail ownerEmail : Json) : Json × Bool :=
  let fallback := inv.rule.fallbackReviewerId.elim .null .str
  match inv.rule.type with
  | .securityTeam => (fallback,false)
  | .managerCentric => if managerEmail.truthy then (managerEmail,false) else (fallback,true)
  | .resourceOwner => if ownerEmail.truthy then (ownerEmail,false) else (fallback,true)

variable (lower : String → String) (printable : Char → Bool)

/-- The extracted entries of one asset that the loop over its entries sees. -/
def entriesOf (asset : IdentityAsset) : Except Exc (List AccessEntry) :=
  if asset.connector = none then .ok []
  else do
    let raw ← (asset.metadata.orElse (.obj [])).get "status" (.str "active")
    if !inv.scope.includeInactiveUsers && normalizeStatus lower printable raw != "active" then
      pure []
    else
      let entries ← extractEntriesFromAsset lower printable asset
      if inv.allowedGroups = [] then pure entries
      else if entries.any fun e => !hashable e.resourceName then .error .typeError
      else pure (entries.filter fun e => inv.allowedGroups.any fun g => e.resourceName.isStr g)

def looksUpResource : Bool := !inv.requiredTags.isEmpty || inv.options.includeAssetSensitivity

/-- The query for the asset named like the resource; only text can be compared with a name. -/
def resourceOf (entry : AccessEntry) : Except Exc (Option ResourceAsset) :=
  if inv.looksUpResource then
    match entry.resourceName with
    | .str name => .ok (inv.resource name)
    | .null => .ok none
    | _ => .error (.other "DBAPIError")
  else .ok none

def passesTags (resource : Option ResourceAsset) : Except Exc Bool :=
  if inv.requiredTags = [] then .ok true
  else
    match resource with
    | none => .ok false
    | some resource => do
      let tags ← (resource.tags.orElse (.arr [])).iter
      if tags.all hashable then pure (inv.requiredTags.all fun t => tags.any (Json.isStr t))
      else .error .typeError

/-- The address in the first tag that names an owner. -/
def ownerTag : List Json → Except Exc Json
  | [] => .ok .null
  | .str tag :: tags =>
    if "owner:".toList.isPrefixOf tag.toList then .ok (.str (String.ofList (tag.toList.drop 6)))
    else ownerTag tags
  | _ :: _ => .error .attributeError

def ownerEmail : Option ResourceAsset → Except Exc Json
  | none => .ok .null
  | some resource => do
    let tags ← (resource.tags.orElse (.arr [])).iter
    let owner ← ownerTag tags
    if owner.truthy then pure owner
    else (resource.metadata.orElse (.obj [])).get "owner" .null

/-- The reference is text that is no id, so that a user is looked up by it. -/
def namesUser : Json → Bool
  | .str ref => ref != "" && (parseUuid ref).toOption.isNone
  | _ => false

def reviewerUuid (ref : Json) : Except Exc (Option Uuid) :=
  if ref.truthy then
    match ref with
    | .str text =>
      match parseUuid text with
      | .ok id => .ok (some id)
      | .error _ => .ok (inv.userByEmail text)
    | _ => .error .attributeError
  else .ok none

end ReviewInventory

/-- The campaign and its rows as they are stored. -/
structure ReviewStore where
  campaign : ReviewCampaign
  entries : List CollectedEntry

def ReviewStore.settle (status : ReviewStatus) (errorMessage : Option String) (store : ReviewStore)
    (rows : List CollectedEntry) : ReviewStore where
  campaign := { store.campaign with status, errorMessage }
  entries := store.entries ++ rows

section Collection

variable (lower : String → String) (printable : Char → Bool) (storable : CollectedEntry → Bool)

/-- One round of the innermost loop; a query flushes the session first. -/
def collectEntry (inv : ReviewInventory) (asset : IdentityAsset) (entry : AccessEntry) :
    Py (Session ReviewStore CollectedEntry) Unit := do
  if inv.looksUpResource then UnitOfWork.flush storable
  let resource ← Py.ofExcept (inv.resourceOf entry)
  let passes ← Py.ofExcept (inv.passesTags resource)
  if passes then
    let evidence ← Py.ofExcept (inv.enrichEntry entry asset resource)
    let managerEmail ← Py.ofExcept ((asset.metadata.orElse (.obj [])).get "manager_email" .null)
    let ownerEmail ← Py.ofExcept (ReviewInventory.ownerEmail resource)
    let ref := inv.resolveReviewer managerEmail ownerEmail
    if ReviewInventory.namesUser ref.1 then UnitOfWork.flush storable
    let reviewerId ← Py.ofExcept (inv.reviewerUuid ref.1)
    add { entry, evidence, reviewerId, reviewerUnresolved := ref.2 }

def collectAsset (inv : ReviewInventory) (asset : IdentityAsset) :
    Py (Session ReviewStore CollectedEntry) Unit := do
  let entries ← Py.ofExcept (inv.entriesOf lower printable asset)
  let _ ← Py.each (collectEntry storable inv asset) entries
  pure ()

def collectAssets (inv : ReviewInventory) : Py (Session ReviewStore CollectedEntry) Unit := do
  let assets ← Py.ofExcept inv.identityAssets
  UnitOfWork.flush storable
  let _ ← Py.each (collectAsset lower printable storable inv) assets
  pure ()

def runCollection (inv : ReviewInventory) : Py (Session ReviewStore CollectedEntry) Unit :=
  attempt storable (collectAssets lower printable storable inv)
    (ReviewStore.settle .inReview none)
    fun e => ReviewStore.settle .draft (some (String.ofList (e.str.toList.take 500)))

end Collection

/-- `task` is the collection that a launch has scheduled. -/
structure CollectionState where
  store : ReviewStore
  task : Bool := false

inductive CollectionEvent where
  | launch (organizationId : Uuid)
  | cancel (organizationId : Uuid)
  | collect (inv : ReviewInventory)

section System

variable (lower : String → String) (printable : Char → Bool) (storable : CollectedEntry → Bool)

def CollectionState.withStatus (s : CollectionState) (status : ReviewStatus) (task : Bool) :
    CollectionState where
  store := { s.store with campaign := { s.store.campaign with status } }
  task := task

def collectionStep (s : CollectionState) : CollectionEvent → Option CollectionState
  | .launch organizationId =>
    match (do assertCampaign s.store.campaign organizationId; launchable s.store.campaign) with
    | .ok _ => some (s.withStatus .collecting true)
    | .error _ => none
  | .cancel organizationId =>
    match (do assertCampaign s.store.campaign organizationId; cancellable s.store.campaign) with
    | .ok _ => some (s.withStatus .cancelled s.task)
    | .error _ => none
  | .collect inv =>
    if s.task = true then
      some { store := (runCollection lower printable storable inv { stored := s.store }).2.stored }
    else none

/-- A campaign is created as a draft without entries. -/
def collectionSystem : System CollectionState CollectionEvent where
  start s := s.store.campaign.status = .draft ∧ s.store.entries = [] ∧ s.task = false
  step := collectionStep lower printable storable

end System

section Rows

variable {lower : String → String} {printable : Char → Bool} {storable : CollectedEntry → Bool}
  {inv : ReviewInventory}

/-- What one round of the innermost loop adds, `none` for an entry outside the tags. -/
def ReviewInventory.rowOf (inv : ReviewInventory) (asset : IdentityAsset) (entry : AccessEntry) :
    Except Exc (Option CollectedEntry) := do
  let resource ← inv.resourceOf entry
  let passes ← inv.passesTags resource
  if passes then
    let evidence ← inv.enrichEntry entry asset resource
    let managerEmail ← (asset.metadata.orElse (.obj [])).get "manager_email" .null
    let ownerEmail ← ReviewInventory.ownerEmail resource
    let ref := inv.resolveReviewer managerEmail ownerEmail
    let reviewerId ← inv.reviewerUuid ref.1
    pure (some { entry, evidence, reviewerId, reviewerUnresolved := ref.2 })
  else pure none

theorem collectEntry_leaves (asset : IdentityAsset) (entry : AccessEntry) :
    Leaves storable (collectEntry storable inv asset entry)
      (Outcome.ofRow (inv.rowOf asset entry)) := by
  rw [collectEntry]
  apply leaves_flush_if
  refine leaves_ofExcept fun resource => leaves_ofExcept fun passes => ?_
  cases passes with
  | false => exact leaves_pure
  | true =>
    refine leaves_ofExcept fun evidence => leaves_ofExcept fun managerEmail => ?_
    refine leaves_ofExcept fun ownerEmail => ?_
    apply leaves_flush_if
    exact leaves_ofExcept fun reviewerId => leaves_add _

def assetOutcome (lower : String → String) (printable : Char → Bool) (inv : ReviewInventory)
    (asset : IdentityAsset) : Outcome CollectedEntry :=
  Outcome.after (inv.entriesOf lower printable asset) fun entries =>
    gather (fun entry => Outcome.ofRow (inv.rowOf asset entry)) entries

def collectionOutcome (lower : String → String) (printable : Char → Bool)
    (inv : ReviewInventory) : Outcome CollectedEntry :=
  Outcome.after inv.identityAssets fun assets => gather (assetOutcome lower printable inv) assets

theorem collectAsset_leaves (asset : IdentityAsset) :
    Leaves storable (collectAsset lower printable storable inv asset)
      (assetOutcome lower printable inv asset) :=
  leaves_after fun _ => Leaves.each (collectEntry_leaves asset) _

theorem collectAssets_leaves :
    Leaves storable (collectAssets lower printable storable inv)
      (collectionOutcome lower printable inv) :=
  leaves_after fun _ => leaves_flush.bind_quiet (Leaves.each collectAsset_leaves _)

/-- What a collection leaves in the database. -/
theorem runCollection_stored (store : ReviewStore) :
    (runCollection lower printable storable inv { stored := store }).2.stored =
      if (collectionOutcome lower printable inv).1.all storable = true then
        match (collectionOutcome lower printable inv).2 with
        | .ok _ => store.settle .inReview none (collectionOutcome lower printable inv).1
        | .error e =>
          store.settle .draft (some (String.ofList (e.str.toList.take 500)))
            (collectionOutcome lower printable inv).1
      else store :=
  attempt_stored collectAssets_leaves ⟨rfl,rfl⟩ rfl

end Rows

namespace ReviewInventory

variable (lower : String → String) (printable : Char → Bool) (inv : ReviewInventory)

/-- The entry passes the tags of the scope. -/
def inScope (entry : AccessEntry) : Except Exc Bool := do
  let resource ← inv.resourceOf entry
  inv.passesTags resource

/-- The extracted entries that pass the filters of the scope. -/
def passing : Except Exc (List AccessEntry) := do
  let assets ← inv.identityAssets
  let entries ← assets.mapM fun asset => do
    let entries ← inv.entriesOf lower printable asset
    entries.filterM inv.inScope
  pure entries.flatten

/-- Nothing raises and every row can be stored. -/
def Collects (storable : CollectedEntry → Bool) : Prop :=
  ∃ assets, inv.identityAssets = .ok assets ∧ ∀ asset ∈ assets,
    ∃ entries, inv.entriesOf lower printable asset = .ok entries ∧ ∀ entry ∈ entries,
      ∃ row, inv.rowOf asset entry = .ok row ∧ row.toList.all storable = true

/-- Every entry of the asset is left out by the scope. -/
def Idle (asset : IdentityAsset) : Prop :=
  ∃ entries, inv.entriesOf lower printable asset = .ok entries ∧
    ∀ entry ∈ entries, inv.rowOf asset entry = .ok none

/-- The asset raises before an entry of it is in scope. -/
def FailsAt (asset : IdentityAsset) : Prop :=
  (∃ e, inv.entriesOf lower printable asset = .error e) ∨
    ∃ before entry rest e, inv.entriesOf lower printable asset = .ok (before ++ entry :: rest) ∧
      (∀ other ∈ before, inv.rowOf asset other = .ok none) ∧ inv.rowOf asset entry = .error e

/-- The collection raises before it meets an entry in scope. -/
def FailsFirst : Prop :=
  (∃ e, inv.identityAssets = .error e) ∨
    ∃ before asset rest, inv.identityAssets = .ok (before ++ asset :: rest) ∧
      (∀ other ∈ before, inv.Idle lower printable other) ∧ inv.FailsAt lower printable asset

variable {lower printable inv} {asset : IdentityAsset} {entry : AccessEntry}

theorem rowOf_ok {row : Option CollectedEntry} (h : inv.rowOf asset entry = .ok row) :
    inv.inScope entry = .ok row.isSome ∧
      row.toList.map CollectedEntry.entry = if row.isSome = true then [entry] else [] := by
  obtain ⟨resource,hresource,h⟩ := Checks.bind_eq_ok.mp h
  obtain ⟨passes,hpasses,h⟩ := Checks.bind_eq_ok.mp h
  rw [inScope,hresource,Checks.ok_bind,hpasses]
  cases passes with
  | false =>
    obtain rfl := Checks.pure_eq_ok.mp h
    exact ⟨rfl,rfl⟩
  | true =>
    obtain ⟨evidence,_,h⟩ := Checks.bind_eq_ok.mp h
    obtain ⟨managerEmail,_,h⟩ := Checks.bind_eq_ok.mp h
    obtain ⟨ownerEmail,_,h⟩ := Checks.bind_eq_ok.mp h
    obtain ⟨reviewerId,_,h⟩ := Checks.bind_eq_ok.mp h
    obtain rfl := Checks.pure_eq_ok.mp h
    exact ⟨rfl,rfl⟩

/-- The rows of an asset are its entries in scope. -/
theorem assetOutcome_passing (h : (assetOutcome lower printable inv asset).2 = .ok ()) :
    (do
      let entries ← inv.entriesOf lower printable asset
      entries.filterM inv.inScope) =
        .ok ((assetOutcome lower printable inv asset).1.map CollectedEntry.entry) := by
  obtain ⟨entries,hentries,hend,hrows⟩ := after_ok h
  have hall := gather_eq_ok.mp hend
  have hscope : ∀ e ∈ entries, inv.inScope e = .ok (Checks.passes inv.inScope e) := by
    intro e he
    obtain ⟨row,hrow,_⟩ := ofRow_ok (hall e he)
    exact Checks.eq_passes ⟨_,(rowOf_ok hrow).1⟩
  rw [hentries,Checks.ok_bind,Checks.filterM_eq_ok hscope,assetOutcome,hrows,gather_rows hend,
    List.map_flatMap]
  congr 1
  clear hentries hend hrows hscope
  induction entries with
  | nil => rfl
  | cons e entries ih =>
    obtain ⟨he,hrest⟩ := List.forall_mem_cons.mp hall
    obtain ⟨row,hrow,hlist⟩ := ofRow_ok he
    obtain ⟨hpass,hentry⟩ := rowOf_ok hrow
    have hp : Checks.passes inv.inScope e = row.isSome := by
      rw [Checks.passes,hpass]
      rfl
    rw [List.flatMap_cons,← ih hrest,hlist,hentry,List.filter_cons,hp]
    cases row <;> rfl

theorem passing_of_ok (h : (collectionOutcome lower printable inv).2 = .ok ()) :
    inv.passing lower printable =
      .ok ((collectionOutcome lower printable inv).1.map CollectedEntry.entry) := by
  obtain ⟨assets,hassets,hend,hrows⟩ := after_ok h
  have hall := gather_eq_ok.mp hend
  rw [passing,hassets,Checks.ok_bind,
    Checks.mapM_eq_ok fun asset hasset => assetOutcome_passing (hall asset hasset),Checks.ok_bind,
    collectionOutcome,hrows,gather_rows hend,List.map_flatMap,List.flatMap]
  rfl

theorem assetOutcome_quiet :
    assetOutcome lower printable inv asset = ([],.ok ()) ↔ inv.Idle lower printable asset := by
  simp only [assetOutcome,after_quiet,gather_quiet,ofRow_quiet,Idle]

theorem assetOutcome_barren :
    (assetOutcome lower printable inv asset).Barren ↔ inv.FailsAt lower printable asset := by
  simp only [assetOutcome,barren_after,gather_barren,barren_ofRow,ofRow_quiet,FailsAt]
  refine or_congr_right ⟨?_,?_⟩
  · rintro ⟨_,hentries,before,entry,rest,rfl,hbefore,e,he⟩
    exact ⟨before,entry,rest,e,hentries,hbefore,he⟩
  · rintro ⟨before,entry,rest,e,hentries,hbefore,he⟩
    exact ⟨_,hentries,before,entry,rest,rfl,hbefore,e,he⟩

theorem failsFirst_iff :
    inv.FailsFirst lower printable ↔ (collectionOutcome lower printable inv).Barren := by
  simp only [collectionOutcome,barren_after,gather_barren,assetOutcome_barren,assetOutcome_quiet,
    FailsFirst]
  refine or_congr_right ⟨?_,?_⟩
  · rintro ⟨before,asset,rest,hassets,hbefore,hasset⟩
    exact ⟨_,hassets,before,asset,rest,rfl,hbefore,hasset⟩
  · rintro ⟨_,hassets,before,asset,rest,rfl,hbefore,hasset⟩
    exact ⟨before,asset,rest,hassets,hbefore,hasset⟩

theorem collects_iff {storable : CollectedEntry → Bool} :
    inv.Collects lower printable storable ↔
      (collectionOutcome lower printable inv).Sound storable := by
  simp only [Collects,collectionOutcome,assetOutcome,after_sound,gather_sound,ofRow_sound]

end ReviewInventory

section Runs

variable {lower : String → String} {printable : Char → Bool} {storable : CollectedEntry → Bool}
  {s s' : CollectionState}

/-- All or nothing: the campaign is in review with one row for each entry in scope, or a draft
without rows. -/
def CollectionState.Whole (lower : String → String) (printable : Char → Bool)
    (inv : ReviewInventory) (s : CollectionState) : Prop :=
  s.store.campaign.status = .inReview ∧
      inv.passing lower printable = .ok (s.store.entries.map CollectedEntry.entry) ∨
    s.store.campaign.status = .draft ∧ s.store.entries = []

/-- A collection that this step ended was all or nothing. -/
def EndsWhole (lower : String → String) (printable : Char → Bool)
    (t : Transition CollectionState CollectionEvent) : Prop :=
  ∀ inv, t.label = .collect inv → t.post.Whole lower printable inv

/-- A collection of this step raises nowhere and its rows can be stored, or it raises before it has
met an entry in scope. -/
def CollectsOrFailsFirst (lower : String → String) (printable : Char → Bool)
    (storable : CollectedEntry → Bool) (_ : CollectionState) (event : CollectionEvent) : Prop :=
  ∀ inv, event = .collect inv →
    inv.Collects lower printable storable ∨ inv.FailsFirst lower printable

/-- A campaign without rows while it is a draft or is being collected. -/
structure CollectionState.Blank (s : CollectionState) : Prop where
  draft : s.store.campaign.status = .draft → s.store.entries = [] ∧ s.task = false
  task : s.task = true →
    s.store.entries = [] ∧ s.store.campaign.status ≠ .draft ∧ s.store.campaign.status ≠ .inReview

theorem collected_whole_iff (inv : ReviewInventory) (hs : s.Blank) (htask : s.task = true) :
    CollectionState.Whole lower printable inv
        { store := (runCollection lower printable storable inv { stored := s.store }).2.stored } ↔
      inv.Collects lower printable storable ∨ inv.FailsFirst lower printable := by
  obtain ⟨hempty,hdraft,hreview⟩ := hs.task htask
  rw [CollectionState.Whole,runCollection_stored,ReviewInventory.collects_iff,
    ReviewInventory.failsFirst_iff,Outcome.Sound,Outcome.Barren]
  by_cases hall : (collectionOutcome lower printable inv).1.all storable = true
  · rw [if_pos hall]
    cases hend : (collectionOutcome lower printable inv).2 with
    | ok u =>
      have hpassing := ReviewInventory.passing_of_ok hend
      simp [ReviewStore.settle,hempty,hpassing,hall]
    | error e => simp [ReviewStore.settle,hempty]
  · have hnonempty : (collectionOutcome lower printable inv).1 ≠ [] := fun h => hall (by simp [h])
    simp [hall,hdraft,hreview,hnonempty]

theorem collectionStep_blank {event : CollectionEvent}
    (hs : s.Blank) (hguard : CollectsOrFailsFirst lower printable storable s event)
    (hstep : collectionStep lower printable storable s event = some s') : s'.Blank := by
  cases event with
  | launch organizationId =>
    rw [collectionStep] at hstep
    split at hstep
    · rename_i hcheck
      obtain ⟨_,_,hlaunch⟩ := Checks.bind_eq_ok.mp hcheck
      have hdraft : s.store.campaign.status = .draft := by
        by_contra h
        simp [launchable,h] at hlaunch
      obtain rfl := Option.some.inj hstep
      exact ⟨nofun,fun _ => ⟨(hs.draft hdraft).1,nofun,nofun⟩⟩
    · cases hstep
  | cancel organizationId =>
    rw [collectionStep] at hstep
    split at hstep
    · obtain rfl := Option.some.inj hstep
      exact ⟨nofun,fun htask => ⟨(hs.task htask).1,nofun,nofun⟩⟩
    · cases hstep
  | collect inv =>
    rw [collectionStep] at hstep
    split at hstep
    · rename_i htask
      have hwhole := (collected_whole_iff inv hs htask).mpr (hguard inv rfl)
      obtain rfl := Option.some.inj hstep
      refine ⟨fun hdraft => ?_,nofun⟩
      rcases hwhole with ⟨hreview,_⟩ | ⟨_,hempty⟩
      · rw [hreview] at hdraft
        cases hdraft
      · exact ⟨hempty,rfl⟩
    · cases hstep

theorem collection_blank :
    InductiveUnder (collectionSystem lower printable storable)
      (CollectsOrFailsFirst lower printable storable) CollectionState.Blank where
  start := by
    rintro s ⟨_,hempty,htask⟩
    exact ⟨fun _ => ⟨hempty,htask⟩,fun h => absurd (htask.symm.trans h) nofun⟩
  step := by
    intro s event s' hs hguard hstep
    exact collectionStep_blank hs hguard hstep

theorem endsWhole_iff {event : CollectionEvent} (hs : s.Blank)
    (hstep : collectionStep lower printable storable s event = some s') :
    EndsWhole lower printable ⟨s,event,s'⟩ ↔
      CollectsOrFailsFirst lower printable storable s event := by
  refine forall_congr' fun inv => forall_congr' fun hevent => ?_
  obtain rfl : event = .collect inv := hevent
  rw [collectionStep] at hstep
  split at hstep
  · rename_i htask
    obtain rfl := Option.some.inj hstep
    exact collected_whole_iff inv hs htask
  · cases hstep

/-- In every run of launches, cancellations and collections, each collection is all or nothing
exactly when each of them raises nowhere, or before its first entry in scope. -/
theorem collections_whole {tr : List (Transition CollectionState CollectionEvent)}
    (h : Run (collectionSystem lower printable storable) tr s) :
    (∀ t ∈ tr, EndsWhole lower printable t) ↔
      ∀ t ∈ tr, CollectsOrFailsFirst lower printable storable t.pre t.label :=
  h.all_iff_under collection_blank fun _ _ _ => endsWhole_iff

def launchableReview : CollectionState where
  store := { campaign := { id := "q3", organizationId := "acme" }, entries := [] }

/-- Two users of one identity provider; the second has no list of groups. -/
def groupsReview (bobGroups : Json) : ReviewInventory where
  scope := {}
  options := {}
  rule := { type := .securityTeam }
  assets :=
    [{ name := "alice", connectorId := some "okta-1", connector := some "okta"
       metadata := .obj [("groups",.arr [.str "Engineering"])] },
      { name := "bob", connectorId := some "okta-1", connector := some "okta"
        metadata := .obj [("groups",bobGroups)] }]
  resource := fun _ => none
  userByEmail := fun _ => none
  daysInactive := fun _ => none

def reviewed (bobGroups : Json) : CollectionState where
  store := (runCollection id (fun _ => true) (fun _ => true) (groupsReview bobGroups)
    { stored := (launchableReview.withStatus .collecting true).store }).2.stored

def reviewSteps (bobGroups : Json) : List (Transition CollectionState CollectionEvent) :=
  [⟨launchableReview.withStatus .collecting true,.collect (groupsReview bobGroups),reviewed bobGroups⟩,
    ⟨launchableReview,.launch "acme",launchableReview.withStatus .collecting true⟩]

theorem reviewSteps_run (bobGroups : Json) :
    Run (collectionSystem id (fun _ => true) fun _ => true) (reviewSteps bobGroups)
      (reviewed bobGroups) := by
  have hstart : Run (collectionSystem id (fun _ => true) fun _ => true) [] launchableReview :=
    .start ⟨rfl,rfl,rfl⟩
  have hlaunch : Run (collectionSystem id (fun _ => true) fun _ => true)
      [⟨launchableReview,.launch "acme",launchableReview.withStatus .collecting true⟩]
      (launchableReview.withStatus .collecting true) := hstart.step rfl
  exact hlaunch.step rfl

theorem collections_whole_groups :
    (∀ t ∈ reviewSteps (.arr []), EndsWhole id (fun _ => true) t) ↔
      ∀ t ∈ reviewSteps (.arr []),
        CollectsOrFailsFirst id (fun _ => true) (fun _ => true) t.pre t.label :=
  collections_whole (reviewSteps_run (.arr []))

theorem reviewed_null :
    (reviewed .null).store.campaign.status = .draft ∧ (reviewed .null).store.entries.length = 1 := by
  decide +kernel

/-- The second user's metadata ends the collection, and the first user's entry stays. -/
theorem rows_of_a_failed_collection :
    ∃ tr s, Run (collectionSystem id (fun _ => true) fun _ => true) tr s ∧
      s.store.campaign.status = .draft ∧ s.store.entries.length = 1 ∧
      ¬∀ t ∈ tr, EndsWhole id (fun _ => true) t := by
  obtain ⟨hstatus,hlength⟩ := reviewed_null
  refine ⟨_,_,reviewSteps_run .null,hstatus,hlength,fun h => ?_⟩
  have hwhole : (reviewed .null).Whole id (fun _ => true) (groupsReview .null) :=
    h _ List.mem_cons_self _ rfl
  rcases hwhole with ⟨hreview,_⟩ | ⟨_,hempty⟩
  · rw [hstatus] at hreview
    cases hreview
  · rw [hempty] at hlength
    cases hlength

end Runs

end Nexplane
