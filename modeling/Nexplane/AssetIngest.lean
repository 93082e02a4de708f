import Nexplane.ConnectorService
import Nexplane.IdentityResolution

set_option autoImplicit false

/-! Discovered assets brought into the inventory: each payload is matched with an asset by the ids in
its metadata or by its name, or makes a new one. -/

namespace Nexplane
open PyValue Checks

/-- `_METADATA_ID_CANDIDATES`. -/
def metadataIdCandidates : List String :=
  ["instance_id","db_identifier","bucket_name","lb_arn","okta_user_id","object_guid","device_id",
    "record_id"]

/-- A payload of a connector; the keys of its metadata are distinct, as in every dictionary. -/
structure IngestPayload where
  fields : Dict
  distinct : ∀ m, Dict.get? fields "asset_metadata" = some (.obj m) → (m.map Prod.fst).Nodup

/-- `metadata or {}` as what `get` is called on. -/
def metadataFields (metadata : Json) : Except Exc Dict :=
  match metadata.orElse (.obj []) with
  | .obj m => .ok m
  | _ => .error .attributeError

/-- The first true value under the known keys. -/
def firstId (m : Dict) : Option Json :=
  (metadataIdCandidates.map fun key => Dict.getD m key .null).find? Json.truthy

/-- What `->>` gives for a value of a JSON column. -/
def jsonText : Json → Option String
  | .null => none
  | .str s => some s
  | v => some (String.ofList (jsonDumps v))

def metadataField (metadata : Json) (key : String) : Option Json :=
  match metadata with
  | .obj m => Dict.get? m key
  | _ => none

def metadataText (metadata : Json) (key : String) : Option String :=
  (metadataField metadata key).bind jsonText

/-- The row that a query gives first, by the key or column it asks for. No query has an order. -/
abbrev FirstRow := String → List Asset → Option Asset

structure FirstRow.Lawful (first : FirstRow) : Prop where
  mem : ∀ key rows a, first key rows = some a → a ∈ rows
  found : ∀ key rows, rows ≠ [] → first key rows ≠ none

section Ingest

variable (printable : Char → Bool) (organizationId connectorId : Uuid)

def extractExternalId (payload : Dict) : Except Exc (Option String) :=
  let id := Dict.getD payload "id" .null
  if id.truthy then .ok (some (pyStr printable id))
  else do
    let m ← metadataFields (Dict.getD payload "asset_metadata" .null)
    pure ((firstId m).map (pyStr printable))

def Asset.ofConnector (a : Asset) : Bool :=
  a.organizationId = organizationId && a.connectorId = some connectorId

def existingById (first : FirstRow) (rows : List Asset) (externalId : String) :
    List String → Option Asset
  | [] => none
  | key :: keys =>
    match first key (rows.filter fun a => metadataText a.metadata key = some externalId) with
    | some a => some a
    | none => existingById first rows externalId keys

def existingByName (first : FirstRow) (rows : List Asset) (name : String) :
    Except Exc (Option Asset) :=
  match first "name" (rows.filter fun a => a.name = name) with
  | none => .ok none
  | some candidate => do
    let m ← metadataFields candidate.metadata
    pure (if (firstId m).isSome then none else some candidate)

def existingAsset (first : FirstRow) (rows : List Asset) (externalId : Option String)
    (name : String) : Except Exc (Option Asset) :=
  match (externalId.filter (· ≠ "")).bind fun e => existingById first rows e metadataIdCandidates with
  | some a => .ok (some a)
  | none => existingByName first rows name

/-- The fields of an asset that a payload has values for. -/
def updatedAsset (payload : Dict) (a : Asset) : Except Exc Asset := do
  let metadata ← (Dict.get? payload "asset_metadata").elim (pure a.metadata)
    (mergeMetadata a.metadata)
  let tags ← (Dict.get? payload "tags").elim (pure a.tags) fun v => do
    let _ ← v.iter
    pure (unionTags a.tags v.strings)
  let criticality ← (Dict.get? payload "criticality").elim (pure a.criticality)
    (memberOf "Criticality" criticalityValues)
  let environment ← (Dict.get? payload "environment").elim (pure a.environment)
    (memberOf "Environment" environmentValues)
  pure { a with
    metadata := metadata
    tags := tags
    criticality := criticality
    environment := environment }

def newAsset (payload : Dict) (name : String) (id : Uuid) : Except Exc Asset := do
  let assetType := Dict.getD payload "asset_type" .null
  if !assetType.truthy then
    throw (.valueError ("Payload for asset '" ++ name ++
      "' is missing required field 'asset_type'"))
  let assetType ← memberOf "AssetType" assetTypeValues assetType
  let environment ← memberOf "Environment" environmentValues
    (Dict.getD payload "environment" (.str "prod"))
  let criticality ← memberOf "Criticality" criticalityValues
    (Dict.getD payload "criticality" (.str "medium"))
  pure ⟨id,organizationId,some connectorId,name,assetType,environment,criticality,
    Dict.getD payload "asset_metadata" (.obj []),(Dict.getD payload "tags" (.arr [])).strings⟩

structure IngestResult where
  created : Nat := 0
  updated : Nat := 0
  assets : List Uuid := []

variable {ω : Type} (newUuid : List Asset → Uuid)

/-- One payload of the loop. -/
def ingestPayload (s : Site ω × IngestResult) (first : FirstRow) (payload : IngestPayload) :
    Except Exc (Site ω × IngestResult) := do
  let name ← Json.index (.obj payload.fields) "name" >>= asText
  let externalId ← extractExternalId printable payload.fields
  let rows := s.1.assets.filter (Asset.ofConnector organizationId connectorId)
  match ← existingAsset first rows externalId name with
  | some existing => do
    let asset ← updatedAsset payload.fields existing
    pure (s.1.replaceAsset asset,{ s.2 with
      updated := s.2.updated + 1
      assets := s.2.assets ++ [asset.id] })
  | none => do
    let asset ← newAsset organizationId connectorId payload.fields name (newUuid s.1.assets)
    pure (s.1.addAsset asset connectorId,{ s.2 with
      created := s.2.created + 1
      assets := s.2.assets ++ [asset.id] })

/-- The asset for the account itself, which is found by its name alone. -/
def ingestAutoAsset (site : Site ω) (first : FirstRow) (payload : IngestPayload) :
    Except Exc (Site ω) := do
  let name ← asText (Dict.getD payload.fields "name" (.str "unnamed"))
  let rows := site.assets.filter (Asset.ofConnector organizationId connectorId)
  match first "name" (rows.filter fun a => a.name = name) with
  | some existing => do
    let asset ← updatedAutoAsset (.obj payload.fields) existing
    pure (site.replaceAsset asset)
  | none => do
    let asset ← newAutoAsset (.obj payload.fields) organizationId connectorId name
      (newUuid site.assets)
    pure (site.addAsset asset connectorId)

/-- The loop; `firsts` are the answers of the queries for the payload at each position. -/
def ingestPayloads (firsts : Nat → FirstRow) (payloads : List IngestPayload) (site : Site ω) :
    Except Exc (Site ω × IngestResult) :=
  payloads.zipIdx.foldlM (fun s p => ingestPayload printable organizationId connectorId newUuid s
    (firsts p.2) p.1) (site,{})

/-- `if auto_asset_payload`. -/
def givenAsset (autoAsset : Option IngestPayload) : Option IngestPayload :=
  autoAsset.filter fun p => !p.fields.isEmpty

/-- `IngestService.run` on what the executor has answered. -/
def runIngest (firstAuto : FirstRow) (firsts : Nat → FirstRow) (autoAsset : Option IngestPayload)
    (payloads : List IngestPayload) (site : Site ω) : Except Exc (Site ω × IngestResult) := do
  let site ← (givenAsset autoAsset).elim (pure site)
    (ingestAutoAsset organizationId connectorId newUuid site firstAuto)
  ingestPayloads printable organizationId connectorId newUuid firsts payloads site

end Ingest

section Metadata

def IngestPayload.metadata (p : IngestPayload) : Json := Dict.getD p.fields "asset_metadata" .null

/-- A known key has the text. -/
def Carries (metadata : Json) (e : String) : Prop :=
  ∃ key ∈ metadataIdCandidates, metadataText metadata key = some e

/-- A known key has a true value. -/
def HasId (metadata : Json) : Prop :=
  ∃ key ∈ metadataIdCandidates, ∃ v, metadataField metadata key = some v ∧ v.truthy = true

/-- A known key has the text, which is not empty, as a true value. -/
def Holds (metadata : Json) (e : String) : Prop :=
  e ≠ "" ∧ ∃ key ∈ metadataIdCandidates, ∃ v, metadataField metadata key = some v ∧
    v.truthy = true ∧ jsonText v = some e

/-- The one metadata is the other with what a payload sets. -/
def Overlaid (base update result : Json) : Prop :=
  ∀ key, metadataField result key = (metadataField update key).or (metadataField base key)

variable {metadata base update result : Json} {e : String} {m : Dict} {p : IngestPayload}
  {a a' : Asset}

theorem Holds.carries (h : Holds metadata e) : Carries metadata e := by
  obtain ⟨_,key,hkey,v,hv,_,htext⟩ := h
  exact ⟨key,hkey,by rw [metadataText,hv,Option.bind_some,htext]⟩

theorem Holds.hasId (h : Holds metadata e) : HasId metadata := by
  obtain ⟨_,key,hkey,v,hv,htruthy,_⟩ := h
  exact ⟨key,hkey,v,hv,htruthy⟩

theorem Overlaid.holds (h : Overlaid base update result) (hupdate : Holds update e) :
    Holds result e := by
  obtain ⟨hne,key,hkey,v,hv,hrest⟩ := hupdate
  exact ⟨hne,key,hkey,v,by rw [h key,hv,Option.some_or],hrest⟩

theorem Overlaid.cases (h : Overlaid base update result) (key : String) :
    metadataField result key = metadataField update key ∨
      metadataField result key = metadataField base key := by
  rw [h key]
  cases metadataField update key with
  | none => exact .inr (Option.none_or)
  | some v => exact .inl (Option.some_or)

theorem Overlaid.carries (h : Overlaid base update result) (hresult : Carries result e) :
    Carries update e ∨ Carries base e := by
  obtain ⟨key,hkey,htext⟩ := hresult
  rw [metadataText] at htext
  rcases h.cases key with hfield | hfield
  · exact .inl ⟨key,hkey,by rw [metadataText,← hfield,htext]⟩
  · exact .inr ⟨key,hkey,by rw [metadataText,← hfield,htext]⟩

theorem Overlaid.hasId (h : Overlaid base update result) (hresult : HasId result) :
    HasId update ∨ HasId base := by
  obtain ⟨key,hkey,v,hv,htruthy⟩ := hresult
  rcases h.cases key with hfield | hfield
  · exact .inl ⟨key,hkey,v,by rw [← hfield,hv],htruthy⟩
  · exact .inr ⟨key,hkey,v,by rw [← hfield,hv],htruthy⟩

theorem metadataFields_get (h : metadataFields metadata = .ok m) (key : String) :
    Dict.get? m key = metadataField metadata key ∨
      Dict.get? m key = none ∧ metadata.truthy = false := by
  rw [metadataFields,Json.orElse] at h
  cases htruthy : metadata.truthy with
  | true =>
    simp only [htruthy,if_true] at h
    cases metadata <;> simp at h
    next fields =>
      subst h
      exact .inl rfl
  | false =>
    simp only [htruthy,Bool.false_eq_true,if_false,Except.ok.injEq] at h
    exact .inr ⟨h ▸ rfl,rfl⟩

theorem metadataField_falsy (h : metadata.truthy = false) (key : String) :
    metadataField metadata key = none := by
  cases metadata with
  | obj fields =>
    cases fields with
    | nil => rfl
    | cons kv fields => simp [Json.truthy] at h
  | _ => rfl

theorem firstId_isSome (h : metadataFields metadata = .ok m) :
    (firstId m).isSome = true ↔ HasId metadata := by
  have hget : ∀ key, Dict.get? m key = metadataField metadata key := by
    intro key
    rcases metadataFields_get h key with hkey | ⟨hkey,hfalsy⟩
    · exact hkey
    · rw [hkey,metadataField_falsy hfalsy]
  simp only [firstId,List.find?_isSome,List.mem_map,HasId,Dict.getD,hget]
  constructor
  · rintro ⟨_,⟨key,hkey,rfl⟩,htruthy⟩
    cases hv : metadataField metadata key with
    | none =>
      rw [hv] at htruthy
      cases htruthy
    | some v =>
      rw [hv] at htruthy
      exact ⟨key,hkey,v,hv,htruthy⟩
  · rintro ⟨key,hkey,v,hv,htruthy⟩
    exact ⟨v,⟨key,hkey,by rw [hv,Option.getD_some]⟩,htruthy⟩

end Metadata

section Assets

variable {printable : Char → Bool} {organizationId connectorId : Uuid} {p : IngestPayload}
  {a a' : Asset} {name : String} {id : Uuid} {e : Option String}

/-- The external id of a payload, when it has one. -/
def payloadId (printable : Char → Bool) (p : IngestPayload) : Option String :=
  (extractExternalId printable p.fields).toOption.join

def payloadName (p : IngestPayload) : Option String :=
  (Json.index (.obj p.fields) "name" >>= asText).toOption

theorem payloadId_of_ok (h : extractExternalId printable p.fields = .ok e) :
    payloadId printable p = e := by
  rw [payloadId,h]
  rfl

theorem hasId_of_extract (h : extractExternalId printable p.fields = .ok e)
    (hid : HasId p.metadata) : e.isSome = true := by
  rw [extractExternalId] at h
  split at h
  · obtain rfl := Except.ok.inj h
    rfl
  · obtain ⟨m,hm,h⟩ := bind_eq_ok.mp h
    obtain rfl := pure_eq_ok.mp h
    rw [Option.isSome_map]
    exact (firstId_isSome hm).mpr hid

/-- What an update leaves of the asset. -/
structure UpdatedFrom (p : IngestPayload) (a a' : Asset) : Prop where
  id : a'.id = a.id
  name : a'.name = a.name
  ofConnector : ∀ organizationId connectorId,
    a'.ofConnector organizationId connectorId = a.ofConnector organizationId connectorId
  metadata : Overlaid a.metadata p.metadata a'.metadata

theorem mergeMetadata_overlaid {base merged : Json}
    (hmerge : mergeMetadata base p.metadata = .ok merged)
    (hget : Dict.get? p.fields "asset_metadata" = some p.metadata) :
    Overlaid base p.metadata merged := by
  obtain ⟨fields,hfields,hmerge⟩ := bind_eq_ok.mp hmerge
  obtain ⟨update,hupdate,hmerge⟩ := bind_eq_ok.mp hmerge
  obtain rfl := pure_eq_ok.mp hmerge
  cases base <;> simp [Json.mapping] at hfields
  subst hfields
  cases hmetadata : p.metadata <;> simp [hmetadata,Json.mapping] at hupdate
  subst hupdate
  intro key
  exact Dict.get?_merge _ (p.distinct _ (hget.trans (congrArg some hmetadata))) _ key

theorem overlaid_self {base : Json} (hget : Dict.get? p.fields "asset_metadata" = none) :
    Overlaid base p.metadata base := by
  intro key
  have hnull : p.metadata = .null := by rw [IngestPayload.metadata,Dict.getD,hget,Option.getD_none]
  rw [hnull]
  rfl

theorem updatedAsset_spec (h : updatedAsset p.fields a = .ok a') : UpdatedFrom p a a' := by
  obtain ⟨metadata,hmetadata,h⟩ := bind_eq_ok.mp h
  obtain ⟨tags,_,h⟩ := bind_eq_ok.mp h
  obtain ⟨criticality,_,h⟩ := bind_eq_ok.mp h
  obtain ⟨environment,_,h⟩ := bind_eq_ok.mp h
  obtain rfl := pure_eq_ok.mp h
  refine ⟨rfl,rfl,fun _ _ => rfl,?_⟩
  cases hget : Dict.get? p.fields "asset_metadata" with
  | none =>
    rw [hget] at hmetadata
    obtain rfl := pure_eq_ok.mp hmetadata
    exact overlaid_self hget
  | some v =>
    have hv : v = p.metadata := by rw [IngestPayload.metadata,Dict.getD,hget,Option.getD_some]
    rw [hget,hv] at hmetadata
    exact mergeMetadata_overlaid hmetadata (hv ▸ hget)

/-- A new asset of a payload. -/
structure CreatedFrom (organizationId connectorId : Uuid) (p : IngestPayload) (name : String)
    (id : Uuid) (a' : Asset) : Prop where
  id : a'.id = id
  name : a'.name = name
  ofConnector : a'.ofConnector organizationId connectorId = true
  metadata : Overlaid .null p.metadata a'.metadata

theorem overlaid_default : Overlaid .null p.metadata
    (Dict.getD p.fields "asset_metadata" (.obj [])) := by
  intro key
  rw [IngestPayload.metadata,Dict.getD,Dict.getD]
  cases Dict.get? p.fields "asset_metadata" with
  | none => rfl
  | some v => exact Option.or_none.symm

theorem newAsset_spec (h : newAsset organizationId connectorId p.fields name id = .ok a') :
    CreatedFrom organizationId connectorId p name id a' := by
  rw [newAsset] at h
  dsimp only at h
  split at h
  · cases h
  · obtain ⟨assetType,_,h⟩ := bind_eq_ok.mp h
    obtain ⟨environment,_,h⟩ := bind_eq_ok.mp h
    obtain ⟨criticality,_,h⟩ := bind_eq_ok.mp h
    obtain rfl := pure_eq_ok.mp h
    exact ⟨rfl,rfl,by simp [Asset.ofConnector],overlaid_default⟩

end Assets

section Matching

variable {printable : Char → Bool} {first : FirstRow} {rows : List Asset} {name : String}
  {a : Asset} {e : String} {keys : List String} {externalId : Option String}

theorem existingById_some (hfirst : first.Lawful) (h : existingById first rows e keys = some a) :
    a ∈ rows ∧ ∃ key ∈ keys, metadataText a.metadata key = some e := by
  induction keys with
  | nil => cases h
  | cons key keys ih =>
    rw [existingById] at h
    split at h
    · next b hb =>
      obtain rfl := Option.some.inj h
      have hmem := List.mem_filter.mp (hfirst.mem key _ b hb)
      exact ⟨hmem.1,key,List.mem_cons_self,of_decide_eq_true hmem.2⟩
    · obtain ⟨hmem,key',hkey,htext⟩ := ih h
      exact ⟨hmem,key',List.mem_cons_of_mem _ hkey,htext⟩

theorem existingById_none (hfirst : first.Lawful) (h : existingById first rows e keys = none) :
    ∀ b ∈ rows, ∀ key ∈ keys, metadataText b.metadata key ≠ some e := by
  induction keys with
  | nil =>
    intro b _ key hkey
    cases hkey
  | cons key keys ih =>
    rw [existingById] at h
    split at h
    · cases h
    · next hnone =>
      intro b hb key' hkey
      rcases List.mem_cons.mp hkey with rfl | hkey
      · intro htext
        refine hfirst.found key' _ ?_ hnone
        exact List.ne_nil_of_mem (List.mem_filter.mpr ⟨hb,decide_eq_true htext⟩)
      · exact ih h b hb key' hkey

/-- How the name decides, when no id has. -/
inductive ByName (rows : List Asset) (name : String) : Option Asset → Prop where
  | candidate (a : Asset) (mem : a ∈ rows) (named : a.name = name) (free : ¬HasId a.metadata) :
      ByName rows name (some a)
  | taken (a : Asset) (mem : a ∈ rows) (named : a.name = name) (id : HasId a.metadata) :
      ByName rows name none
  | unknown (absent : ∀ a ∈ rows, a.name ≠ name) : ByName rows name none

theorem existingByName_spec (hfirst : first.Lawful) {found : Option Asset}
    (h : existingByName first rows name = .ok found) : ByName rows name found := by
  rw [existingByName] at h
  split at h
  · next hnone =>
    obtain rfl := Except.ok.inj h
    refine .unknown fun a ha hname => hfirst.found "name" _ ?_ hnone
    exact List.ne_nil_of_mem (List.mem_filter.mpr ⟨ha,decide_eq_true hname⟩)
  · next a ha =>
    have hmem := List.mem_filter.mp (hfirst.mem "name" _ a ha)
    have hname : a.name = name := of_decide_eq_true hmem.2
    obtain ⟨m,hm,h⟩ := bind_eq_ok.mp h
    have hid := firstId_isSome hm
    split at h
    · next hsome =>
      obtain rfl := pure_eq_ok.mp h
      exact .taken a hmem.1 hname (hid.mp hsome)
    · next hsome =>
      obtain rfl := pure_eq_ok.mp h
      exact .candidate a hmem.1 hname fun h => hsome (hid.mpr h)

/-- The asset that a payload with the id and the name is for. -/
inductive Matched (rows : List Asset) (externalId : Option String) (name : String) :
    Option Asset → Prop where
  | byId (a : Asset) (e : String) (mem : a ∈ rows) (id : externalId = some e)
      (carries : Carries a.metadata e) : Matched rows externalId name (some a)
  | byName (found : Option Asset)
      (new : ∀ e, externalId = some e → ∀ a ∈ rows, ¬Carries a.metadata e)
      (found_spec : ByName rows name found) : Matched rows externalId name found

theorem existingAsset_spec (hfirst : first.Lawful) {found : Option Asset}
    (hid : ∀ e, externalId = some e → e ≠ "")
    (h : existingAsset first rows externalId name = .ok found) :
    Matched rows externalId name found := by
  rw [existingAsset] at h
  cases externalId with
  | none =>
    refine .byName _ ?_ (existingByName_spec hfirst h)
    intro e he
    cases he
  | some e =>
    have hfilter : (some e).filter (· ≠ "") = some e := by simp [hid e rfl]
    rw [hfilter,Option.bind_some] at h
    split at h
    · next a ha =>
      obtain rfl := Except.ok.inj h
      obtain ⟨hmem,hcarries⟩ := existingById_some hfirst ha
      exact .byId a e hmem rfl hcarries
    · next hnone =>
      refine .byName _ ?_ (existingByName_spec hfirst h)
      rintro e' he a ha ⟨key,hkey,htext⟩
      obtain rfl := Option.some.inj he
      exact existingById_none hfirst hnone a ha key hkey htext

end Matching

section Rows

variable {ω : Type} {organizationId connectorId : Uuid} {rows rows' : List Asset} {a a' : Asset}
  {site : Site ω}

def Site.rowsOf (site : Site ω) (organizationId connectorId : Uuid) : List Asset :=
  site.assets.filter (Asset.ofConnector organizationId connectorId)

def Site.assetIds (site : Site ω) : List Uuid := site.assets.map Asset.id

/-- The rows after one has been written. -/
def Written (rows : List Asset) (a' : Asset) (rows' : List Asset) : Prop :=
  ∀ b, b ∈ rows' ↔ b = a' ∨ b ∈ rows ∧ b.id ≠ a'.id

theorem replaceAsset_written (ha : a ∈ site.rowsOf organizationId connectorId)
    (hid : a'.id = a.id) (hof : a'.ofConnector organizationId connectorId = true) :
    Written (site.rowsOf organizationId connectorId) a'
      ((site.replaceAsset a').rowsOf organizationId connectorId) := by
  intro b
  simp only [Site.rowsOf,Site.replaceAsset,List.mem_filter,List.mem_map] at ha ⊢
  constructor
  · rintro ⟨⟨c,hc,rfl⟩,hb⟩
    split at hb
    · next heq =>
      rw [if_pos heq]
      exact .inl rfl
    · next hne =>
      rw [if_neg hne]
      exact .inr ⟨⟨hc,hb⟩,hne⟩
  · rintro (rfl | ⟨⟨hb,hbof⟩,hne⟩)
    · exact ⟨⟨a,ha.1,if_pos hid.symm⟩,hof⟩
    · exact ⟨⟨b,hb,if_neg hne⟩,hbof⟩

theorem replaceAsset_assetIds : (site.replaceAsset a').assetIds = site.assetIds := by
  simp only [Site.assetIds,Site.replaceAsset,List.map_map]
  refine List.map_congr_left fun b _ => ?_
  by_cases h : b.id = a'.id
  · simp [h]
  · simp [h]

theorem addAsset_written (hid : a'.id ∉ site.assetIds)
    (hof : a'.ofConnector organizationId connectorId = true) :
    Written (site.rowsOf organizationId connectorId) a'
      ((site.addAsset a' connectorId).rowsOf organizationId connectorId) := by
  intro b
  simp only [Site.rowsOf,Site.addAsset,List.filter_append,List.mem_append,List.mem_filter,
    List.mem_singleton]
  constructor
  · rintro (⟨hb,hbof⟩ | ⟨rfl,_⟩)
    · refine .inr ⟨⟨hb,hbof⟩,fun heq => hid ?_⟩
      rw [← heq]
      exact List.mem_map_of_mem hb
    · exact .inl rfl
  · rintro (rfl | ⟨hb,_⟩)
    · exact .inr ⟨rfl,hof⟩
    · exact .inl hb

theorem Written.mem (h : Written rows a' rows') : a' ∈ rows' := (h a').mpr (.inl rfl)

theorem Written.kept (h : Written rows a' rows') (ha : a ∈ rows) (hne : a.id ≠ a'.id) :
    a ∈ rows' := (h a).mpr (.inr ⟨ha,hne⟩)

end Rows

section Steps

variable {ω : Type} {printable : Char → Bool} {organizationId connectorId : Uuid}
  {newUuid : List Asset → Uuid} {rows rows' : List Asset} {a a' : Asset} {p : IngestPayload}
  {first : FirstRow}

/-- The row that a payload is written to. -/
inductive Landed (printable : Char → Bool) (rows : List Asset) (p : IngestPayload) (a' : Asset) :
    Prop where
  | byId (a : Asset) (e : String) (mem : a ∈ rows) (id : payloadId printable p = some e)
      (carries : Carries a.metadata e) (updated : UpdatedFrom p a a')
  | byName (a : Asset) (mem : a ∈ rows) (named : payloadName p = some a.name)
      (free : ¬HasId a.metadata)
      (new : ∀ e, payloadId printable p = some e → ∀ b ∈ rows, ¬Carries b.metadata e)
      (updated : UpdatedFrom p a a')

/-- The new row of a payload that no row is for. -/
structure Introduced (printable : Char → Bool) (rows : List Asset) (p : IngestPayload)
    (a' : Asset) : Prop where
  new : ∀ e, payloadId printable p = some e → ∀ b ∈ rows, ¬Carries b.metadata e
  named : payloadName p = some a'.name
  name : ByName rows a'.name none
  id : ∀ b ∈ rows, b.id ≠ a'.id
  metadata : Overlaid .null p.metadata a'.metadata

theorem ingestPayload_cases {s s' : Site ω × IngestResult}
    (hnew : ∀ assets : List Asset, newUuid assets ∉ assets.map Asset.id) (hfirst : first.Lawful)
    (hid : ∀ e, payloadId printable p = some e → e ≠ "")
    (h : ingestPayload printable organizationId connectorId newUuid s first p = .ok s') :
    ∃ a', Written (s.1.rowsOf organizationId connectorId) a'
        (s'.1.rowsOf organizationId connectorId) ∧
      s'.2.assets = s.2.assets ++ [a'.id] ∧
      (payloadId printable p = none → ¬HasId p.metadata) ∧
      (Landed printable (s.1.rowsOf organizationId connectorId) p a' ∧
          s'.1.assetIds = s.1.assetIds ∧ s'.2.created = s.2.created ∨
        Introduced printable (s.1.rowsOf organizationId connectorId) p a' ∧
          s'.1.assetIds = s.1.assetIds ++ [a'.id] ∧ a'.id ∉ s.1.assetIds) := by
  rw [ingestPayload] at h
  obtain ⟨name,hname,h⟩ := bind_eq_ok.mp h
  obtain ⟨externalId,hexternal,h⟩ := bind_eq_ok.mp h
  obtain ⟨found,hfound,h⟩ := bind_eq_ok.mp h
  have hpayload := payloadId_of_ok hexternal
  have hpname : payloadName p = some name := toOption_eq_some.mpr hname
  have hnoid : payloadId printable p = none → ¬HasId p.metadata := by
    intro hnone hhas
    have hsome := hasId_of_extract hexternal hhas
    rw [← hpayload,hnone] at hsome
    cases hsome
  have hmatched := existingAsset_spec hfirst (hpayload ▸ hid) hfound
  clear hfound
  cases found with
  | some a =>
    obtain ⟨a',hupdated,h⟩ := bind_eq_ok.mp h
    obtain rfl := pure_eq_ok.mp h
    have hspec := updatedAsset_spec hupdated
    have hmem : a ∈ s.1.rowsOf organizationId connectorId := by
      cases hmatched with
      | byId _ e hmem _ _ => exact hmem
      | byName _ _ hname =>
        cases hname with
        | candidate _ hmem _ _ => exact hmem
    have hof : a'.ofConnector organizationId connectorId = true :=
      (hspec.ofConnector _ _).trans (List.mem_filter.mp hmem).2
    refine ⟨a',replaceAsset_written hmem hspec.id hof,rfl,hnoid,
      .inl ⟨?_,replaceAsset_assetIds,rfl⟩⟩
    cases hmatched with
    | byId _ e hmem hid hcarries => exact .byId a e hmem (hpayload.trans hid) hcarries hspec
    | byName _ hnone hname =>
      cases hname with
      | candidate _ hmem hnamed hfree =>
        exact .byName a hmem (hnamed ▸ hpname) hfree (hpayload ▸ hnone) hspec
  | none =>
    obtain ⟨a',hcreated,h⟩ := bind_eq_ok.mp h
    obtain rfl := pure_eq_ok.mp h
    have hspec := newAsset_spec hcreated
    have hfresh : a'.id ∉ s.1.assetIds := by
      rw [hspec.id]
      exact hnew _
    refine ⟨a',addAsset_written hfresh hspec.ofConnector,rfl,hnoid,.inr ⟨?_,?_,hfresh⟩⟩
    · cases hmatched with
      | byName _ hnone hname =>
        refine ⟨hpayload ▸ hnone,hspec.name ▸ hpname,hspec.name ▸ hname,?_,hspec.metadata⟩
        intro b hb heq
        refine hfresh ?_
        rw [← heq]
        exact List.mem_map_of_mem (List.mem_filter.mp hb).1
    · simp [Site.assetIds,Site.addAsset]

end Steps

section Invariants

variable {printable : Char → Bool} {known unnamed : String → Prop} {rows rows' : List Asset}
  {a b a' : Asset} {p : IngestPayload} {e f : String} {id : Uuid} {name : String}

/-- The ids of the payloads tell the rows apart. -/
structure Sound (known : String → Prop) (rows : List Asset) : Prop where
  held : ∀ a ∈ rows, ∀ e, known e → Carries a.metadata e → HasId a.metadata
  single : ∀ a ∈ rows, ∀ e f, known e → known f → Carries a.metadata e → Carries a.metadata f →
    e = f
  unique : ∀ a ∈ rows, ∀ b ∈ rows, ∀ e, known e → Carries a.metadata e → Carries b.metadata e →
    a.id = b.id

/-- The metadata of the payload has its own id, and no other one of the payloads. -/
structure Own (printable : Char → Bool) (known : String → Prop) (p : IngestPayload) : Prop where
  among : ∀ e, payloadId printable p = some e → known e
  holds : ∀ e, payloadId printable p = some e → Holds p.metadata e
  apart : ∀ e, known e → Carries p.metadata e → payloadId printable p = some e

def Owner (rows : List Asset) (e : String) (id : Uuid) : Prop :=
  ∃ a ∈ rows, a.id = id ∧ Carries a.metadata e

/-- An asset with the name of a payload without an id has no id either. -/
def Free (unnamed : String → Prop) (rows : List Asset) : Prop :=
  ∀ a ∈ rows, unnamed a.name → ¬HasId a.metadata

def Named (rows : List Asset) (name : String) : Prop := ∃ a ∈ rows, a.name = name

def Keyed (rows : List Asset) : Prop := ∀ a ∈ rows, ∀ b ∈ rows, a.id = b.id → a = b

theorem not_carries_of_fields {metadata : Json}
    (h : ∀ key ∈ metadataIdCandidates, metadataField metadata key = none) :
    ¬Carries metadata e := by
  rintro ⟨key,hkey,htext⟩
  rw [metadataText,h key hkey] at htext
  cases htext

theorem not_hasId_of_fields {metadata : Json}
    (h : ∀ key ∈ metadataIdCandidates, metadataField metadata key = none) : ¬HasId metadata := by
  rintro ⟨key,hkey,v,hv,_⟩
  rw [h key hkey] at hv
  cases hv

/-- The row that a payload has been written to, new or not. -/
def Placed (printable : Char → Bool) (rows : List Asset) (p : IngestPayload) (a' : Asset) : Prop :=
  Landed printable rows p a' ∨ Introduced printable rows p a'

theorem Placed.holds (h : Placed printable rows p a') (hown : Own printable known p)
    (he : payloadId printable p = some e) : Holds a'.metadata e := by
  have hp := hown.holds e he
  rcases h with (⟨_,_,_,_,_,hupdated⟩ | ⟨_,_,_,_,_,hupdated⟩) | hnew
  · exact hupdated.metadata.holds hp
  · exact hupdated.metadata.holds hp
  · exact hnew.metadata.holds hp

theorem Placed.carries (h : Placed printable rows p a') (hown : Own printable known p)
    (hsound : Sound known rows) (he : known e) (hcarries : Carries a'.metadata e) :
    payloadId printable p = some e := by
  rcases h with (⟨a,f,hmem,hid,hf,hupdated⟩ | ⟨a,hmem,_,hfree,_,hupdated⟩) | hnew
  · rcases hupdated.metadata.carries hcarries with hpayload | ha
    · exact hown.apart e he hpayload
    · rw [hsound.single a hmem e f he (hown.among f hid) ha hf,hid]
  · rcases hupdated.metadata.carries hcarries with hpayload | ha
    · exact hown.apart e he hpayload
    · exact absurd (hsound.held a hmem e he ha) hfree
  · rcases hnew.metadata.carries hcarries with hpayload | hnull
    · exact hown.apart e he hpayload
    · exact absurd hnull (not_carries_of_fields fun _ _ => rfl)

/-- A row with the id of the payload is the one that it has been written to. -/
theorem Placed.owner (h : Placed printable rows p a') (hown : Own printable known p)
    (hsound : Sound known rows) (he : payloadId printable p = some e) (hb : b ∈ rows)
    (hcarries : Carries b.metadata e) : b.id = a'.id := by
  rcases h with (⟨a,f,hmem,hid,hf,hupdated⟩ | ⟨a,_,_,_,hnew,_⟩) | hnew
  · obtain rfl := Option.some.inj (hid.symm.trans he)
    rw [hupdated.id]
    exact hsound.unique b hb a hmem f (hown.among f he) hcarries hf
  · exact absurd hcarries (hnew e he b hb)
  · exact absurd hcarries (hnew.new e he b hb)

/-- A row that has been written over had no id of another payload. -/
theorem Placed.replaced (h : Placed printable rows p a') (hown : Own printable known p)
    (hsound : Sound known rows) (hkeyed : Keyed rows) (he : known e) (hb : b ∈ rows)
    (hid : b.id = a'.id) (hcarries : Carries b.metadata e) : payloadId printable p = some e := by
  rcases h with (⟨a,f,hmem,hf,ha,hupdated⟩ | ⟨a,hmem,_,hfree,_,hupdated⟩) | hnew
  · obtain rfl := hkeyed b hb a hmem (hid.trans hupdated.id)
    rw [hsound.single b hb e f he (hown.among f hf) hcarries ha,hf]
  · obtain rfl := hkeyed b hb a hmem (hid.trans hupdated.id)
    exact absurd (hsound.held b hb e he hcarries) hfree
  · exact absurd hid (hnew.id b hb)

theorem Placed.sound (h : Placed printable rows p a') (hwritten : Written rows a' rows')
    (hown : Own printable known p) (hsound : Sound known rows) : Sound known rows' := by
  have hcarries := fun e he => h.carries (e := e) hown hsound he
  constructor
  · intro b hb e he hbe
    rcases (hwritten b).mp hb with rfl | ⟨hb,_⟩
    · exact (h.holds hown (hcarries e he hbe)).hasId
    · exact hsound.held b hb e he hbe
  · intro b hb e f he hf hbe hbf
    rcases (hwritten b).mp hb with rfl | ⟨hb,_⟩
    · exact Option.some.inj ((hcarries e he hbe).symm.trans (hcarries f hf hbf))
    · exact hsound.single b hb e f he hf hbe hbf
  · intro b hb c hc e he hbe hce
    rcases (hwritten b).mp hb with rfl | ⟨hb,hbne⟩
    · rcases (hwritten c).mp hc with rfl | ⟨hc,_⟩
      · rfl
      · exact (h.owner hown hsound (hcarries e he hbe) hc hce).symm
    · rcases (hwritten c).mp hc with rfl | ⟨hc,_⟩
      · exact absurd (h.owner hown hsound (hcarries e he hce) hb hbe) hbne
      · exact hsound.unique b hb c hc e he hbe hce

theorem Placed.owner_kept (h : Placed printable rows p a') (hwritten : Written rows a' rows')
    (hown : Own printable known p) (hsound : Sound known rows) (hkeyed : Keyed rows)
    (he : known e) (howner : Owner rows e id) : Owner rows' e id := by
  obtain ⟨b,hb,rfl,hbe⟩ := howner
  by_cases hid : b.id = a'.id
  · have hpayload := h.replaced hown hsound hkeyed he hb hid hbe
    exact ⟨a',hwritten.mem,hid.symm,(h.holds hown hpayload).carries⟩
  · exact ⟨b,hwritten.kept hb hid,rfl,hbe⟩

theorem Placed.named_kept (h : Placed printable rows p a') (hwritten : Written rows a' rows')
    (hkeyed : Keyed rows) (hnamed : Named rows name) : Named rows' name := by
  obtain ⟨b,hb,rfl⟩ := hnamed
  by_cases hid : b.id = a'.id
  · refine ⟨a',hwritten.mem,?_⟩
    rcases h with (⟨a,_,hmem,_,_,hupdated⟩ | ⟨a,hmem,_,_,_,hupdated⟩) | hnew
    · rw [hkeyed b hb a hmem (hid.trans hupdated.id),hupdated.name]
    · rw [hkeyed b hb a hmem (hid.trans hupdated.id),hupdated.name]
    · exact absurd hid (hnew.id b hb)
  · exact ⟨b,hwritten.kept hb hid,rfl⟩

theorem Placed.named (h : Placed printable rows p a') (hwritten : Written rows a' rows')
    (hid : payloadId printable p = none) (hname : payloadName p = some name) :
    Named rows' name := by
  refine ⟨a',hwritten.mem,?_⟩
  rcases h with (⟨_,_,_,he,_,_⟩ | ⟨a,_,hnamed,_,_,hupdated⟩) | hnew
  · rw [hid] at he
    cases he
  · exact hupdated.name.trans (Option.some.inj (hnamed.symm.trans hname))
  · exact Option.some.inj (hnew.named.symm.trans hname)

theorem Placed.free (h : Placed printable rows p a') (hwritten : Written rows a' rows')
    (hown : Own printable known p) (hsound : Sound known rows) (hfree : Free unnamed rows)
    (hnoid : payloadId printable p = none → ¬HasId p.metadata)
    (hnew : ∀ e, payloadId printable p = some e → (∀ b ∈ rows, ¬Carries b.metadata e) →
      ∀ name, payloadName p = some name → ¬unnamed name) : Free unnamed rows' := by
  intro b hb hunnamed
  rcases (hwritten b).mp hb with rfl | ⟨hb,_⟩
  · rcases h with (⟨a,e,hmem,hid,hcarries,hupdated⟩ | ⟨a,hmem,hnamed,hafree,habsent,hupdated⟩) |
      hintroduced
    · have hid := hsound.held a hmem e (hown.among e hid) hcarries
      exact absurd hid (hfree a hmem (hupdated.name ▸ hunnamed))
    · cases hid : payloadId printable p with
      | some e =>
        exact absurd (hupdated.name ▸ hunnamed) (hnew e hid (habsent e hid) _ hnamed)
      | none =>
        intro hhas
        rcases hupdated.metadata.hasId hhas with hp | ha
        · exact hnoid hid hp
        · exact hafree ha
    · cases hid : payloadId printable p with
      | some e =>
        exact absurd hunnamed (hnew e hid (hintroduced.new e hid) _ hintroduced.named)
      | none =>
        intro hhas
        rcases hintroduced.metadata.hasId hhas with hp | hnull
        · exact hnoid hid hp
        · exact not_hasId_of_fields (fun _ _ => rfl) hnull
  · exact hfree b hb hunnamed

end Invariants

section AutoAsset

variable {ω : Type} {organizationId connectorId : Uuid} {newUuid : List Asset → Uuid}
  {known unnamed : String → Prop} {rows rows' : List Asset} {a b a' : Asset} {p : IngestPayload}
  {e : String} {id : Uuid} {name : String} {site site' : Site ω} {first : FirstRow}

/-- No known key is set. -/
def Plain (metadata : Json) : Prop :=
  ∀ key ∈ metadataIdCandidates, metadataField metadata key = none

/-- Two rows that no payload can tell apart. -/
structure Twin (a b : Asset) : Prop where
  id : a.id = b.id
  name : a.name = b.name
  fields : ∀ key ∈ metadataIdCandidates, metadataField a.metadata key = metadataField b.metadata key

theorem Twin.symm (h : Twin a b) : Twin b a :=
  ⟨h.id.symm,h.name.symm,fun key hkey => (h.fields key hkey).symm⟩

theorem Twin.refl (a : Asset) : Twin a a := ⟨rfl,rfl,fun _ _ => rfl⟩

theorem Twin.carries (h : Twin a b) (ha : Carries a.metadata e) : Carries b.metadata e := by
  obtain ⟨key,hkey,htext⟩ := ha
  rw [metadataText,h.fields key hkey] at htext
  exact ⟨key,hkey,htext⟩

theorem Twin.hasId (h : Twin a b) (ha : HasId a.metadata) : HasId b.metadata := by
  obtain ⟨key,hkey,v,hv,htruthy⟩ := ha
  exact ⟨key,hkey,v,(h.fields key hkey).symm.trans hv,htruthy⟩

/-- The rows but for what no payload looks at, and for rows without ids. -/
structure Twins (rows rows' : List Asset) : Prop where
  back : ∀ b ∈ rows', (∃ a ∈ rows, Twin a b) ∨ Plain b.metadata
  forth : ∀ a ∈ rows, ∃ b ∈ rows', Twin a b

theorem Twins.carries (h : Twins rows rows') (hb : b ∈ rows') (hcarries : Carries b.metadata e) :
    ∃ a ∈ rows, Twin a b := by
  rcases h.back b hb with ha | hplain
  · exact ha
  · exact absurd hcarries (not_carries_of_fields hplain)

theorem Twins.sound (h : Twins rows rows') (hsound : Sound known rows) : Sound known rows' := by
  constructor
  · intro b hb e he hbe
    obtain ⟨a,ha,htwin⟩ := h.carries hb hbe
    exact htwin.hasId (hsound.held a ha e he (htwin.symm.carries hbe))
  · intro b hb e f he hf hbe hbf
    obtain ⟨a,ha,htwin⟩ := h.carries hb hbe
    exact hsound.single a ha e f he hf (htwin.symm.carries hbe) (htwin.symm.carries hbf)
  · intro b hb c hc e he hbe hce
    obtain ⟨a,ha,htwin⟩ := h.carries hb hbe
    obtain ⟨d,hd,htwin'⟩ := h.carries hc hce
    rw [← htwin.id,← htwin'.id]
    exact hsound.unique a ha d hd e he (htwin.symm.carries hbe) (htwin'.symm.carries hce)

theorem Twins.owner (h : Twins rows rows') (howner : Owner rows e id) : Owner rows' e id := by
  obtain ⟨a,ha,rfl,hae⟩ := howner
  obtain ⟨b,hb,htwin⟩ := h.forth a ha
  exact ⟨b,hb,htwin.id.symm,htwin.carries hae⟩

theorem Twins.named (h : Twins rows rows') (hnamed : Named rows name) : Named rows' name := by
  obtain ⟨a,ha,rfl⟩ := hnamed
  obtain ⟨b,hb,htwin⟩ := h.forth a ha
  exact ⟨b,hb,htwin.name.symm⟩

theorem Twins.free (h : Twins rows rows') (hfree : Free unnamed rows) : Free unnamed rows' := by
  intro b hb hunnamed
  rcases h.back b hb with ⟨a,ha,htwin⟩ | hplain
  · intro hid
    exact hfree a ha (htwin.name ▸ hunnamed) (htwin.symm.hasId hid)
  · exact not_hasId_of_fields hplain

theorem updatedAutoAsset_twin (hplain : Plain p.metadata)
    (h : updatedAutoAsset (.obj p.fields) a = .ok a') :
    Twin a a' ∧ ∀ organizationId connectorId,
      a'.ofConnector organizationId connectorId = a.ofConnector organizationId connectorId := by
  obtain ⟨update,hupdate,h⟩ := bind_eq_ok.mp h
  obtain ⟨merged,hmerged,h⟩ := bind_eq_ok.mp h
  obtain ⟨tags,_,h⟩ := bind_eq_ok.mp h
  obtain rfl := pure_eq_ok.mp h
  obtain rfl := Except.ok.inj hupdate
  refine ⟨⟨rfl,rfl,fun key hkey => ?_⟩,fun _ _ => rfl⟩
  cases hget : Dict.get? p.fields "asset_metadata" with
  | none =>
    have hempty : Dict.getD p.fields "asset_metadata" (.obj []) = .obj [] := by
      rw [Dict.getD,hget,Option.getD_none]
    rw [hempty] at hmerged
    obtain ⟨base,hbase,hmerged⟩ := bind_eq_ok.mp hmerged
    obtain rfl := pure_eq_ok.mp hmerged
    cases hmetadata : a.metadata <;> simp [hmetadata,Json.mapping] at hbase
    subst hbase
    rfl
  | some v =>
    have hv : v = p.metadata := by rw [IngestPayload.metadata,Dict.getD,hget,Option.getD_some]
    rw [Dict.getD,hget,Option.getD_some,hv] at hmerged
    have hoverlaid := mergeMetadata_overlaid hmerged (hv ▸ hget)
    rw [hoverlaid key,hplain key hkey,Option.none_or]

theorem newAutoAsset_spec (hplain : Plain p.metadata)
    (h : newAutoAsset (.obj p.fields) organizationId connectorId name id = .ok a') :
    a'.id = id ∧ a'.name = name ∧ a'.ofConnector organizationId connectorId = true ∧
      Plain a'.metadata := by
  obtain ⟨_,_,h⟩ := bind_eq_ok.mp h
  obtain ⟨assetType,_,h⟩ := bind_eq_ok.mp h
  obtain ⟨_,_,h⟩ := bind_eq_ok.mp h
  obtain ⟨environment,_,h⟩ := bind_eq_ok.mp h
  obtain ⟨_,_,h⟩ := bind_eq_ok.mp h
  obtain ⟨criticality,_,h⟩ := bind_eq_ok.mp h
  obtain ⟨metadata,hmetadata,h⟩ := bind_eq_ok.mp h
  obtain ⟨tags,_,h⟩ := bind_eq_ok.mp h
  obtain rfl := pure_eq_ok.mp h
  obtain rfl := Except.ok.inj hmetadata
  refine ⟨rfl,rfl,by simp [Asset.ofConnector],fun key hkey => ?_⟩
  rw [overlaid_default key,hplain key hkey]
  rfl

theorem Written.twins_of_update (h : Written rows a' rows') (ha : a ∈ rows) (hkeyed : Keyed rows)
    (htwin : Twin a a') : Twins rows rows' := by
  constructor
  · intro b hb
    rcases (h b).mp hb with rfl | ⟨hb,_⟩
    · exact .inl ⟨a,ha,htwin⟩
    · exact .inl ⟨b,hb,.refl b⟩
  · intro b hb
    by_cases hid : b.id = a'.id
    · obtain rfl := hkeyed b hb a ha (hid.trans htwin.id.symm)
      exact ⟨a',h.mem,htwin⟩
    · exact ⟨b,h.kept hb hid,.refl b⟩

theorem Written.twins_of_new (h : Written rows a' rows') (hnew : ∀ b ∈ rows, b.id ≠ a'.id)
    (hplain : Plain a'.metadata) : Twins rows rows' := by
  constructor
  · intro b hb
    rcases (h b).mp hb with rfl | ⟨hb,_⟩
    · exact .inr hplain
    · exact .inl ⟨b,hb,.refl b⟩
  · intro b hb
    exact ⟨b,h.kept hb (hnew b hb),.refl b⟩

theorem keyed_of_nodup (h : site.assetIds.Nodup) :
    Keyed (site.rowsOf organizationId connectorId) := by
  intro a ha b hb hid
  exact List.inj_on_of_nodup_map h (List.mem_filter.mp ha).1 (List.mem_filter.mp hb).1 hid

def autoName (p : IngestPayload) : Option String :=
  (asText (Dict.getD p.fields "name" (.str "unnamed"))).toOption

theorem ingestAutoAsset_spec (hnew : ∀ assets : List Asset, newUuid assets ∉ assets.map Asset.id)
    (hfirst : first.Lawful) (hplain : Plain p.metadata) (hnodup : site.assetIds.Nodup)
    (h : ingestAutoAsset organizationId connectorId newUuid site first p = .ok site') :
    Twins (site.rowsOf organizationId connectorId) (site'.rowsOf organizationId connectorId) ∧
      site'.assetIds.Nodup ∧ ∃ name, autoName p = some name ∧
        Named (site'.rowsOf organizationId connectorId) name ∧
        (Named (site.rowsOf organizationId connectorId) name →
          site'.assetIds = site.assetIds) := by
  obtain ⟨name,hname,h⟩ := bind_eq_ok.mp h
  have hpname : autoName p = some name := toOption_eq_some.mpr hname
  dsimp only at h
  split at h
  · next a ha =>
    obtain ⟨a',hupdated,h⟩ := bind_eq_ok.mp h
    obtain rfl := pure_eq_ok.mp h
    obtain ⟨hmem,hnamed⟩ := List.mem_filter.mp (hfirst.mem "name" _ a ha)
    obtain ⟨htwin,hof⟩ := updatedAutoAsset_twin hplain hupdated
    have hwritten := replaceAsset_written hmem htwin.id.symm
      ((hof _ _).trans (List.mem_filter.mp hmem).2)
    refine ⟨hwritten.twins_of_update hmem (keyed_of_nodup hnodup) htwin,?_,name,hpname,
      ⟨a',hwritten.mem,htwin.name.symm.trans (of_decide_eq_true hnamed)⟩,
      fun _ => replaceAsset_assetIds⟩
    rw [replaceAsset_assetIds]
    exact hnodup
  · next hnone =>
    obtain ⟨a',hcreated,h⟩ := bind_eq_ok.mp h
    obtain rfl := pure_eq_ok.mp h
    obtain ⟨hid,hnamed,hof,hmetadata⟩ := newAutoAsset_spec hplain hcreated
    have hfresh : a'.id ∉ site.assetIds := hid ▸ hnew site.assets
    have hwritten := addAsset_written hfresh hof
    refine ⟨hwritten.twins_of_new ?_ hmetadata,?_,name,hpname,⟨a',hwritten.mem,hnamed⟩,?_⟩
    · rintro b hb heq
      exact hfresh (heq ▸ List.mem_map_of_mem (List.mem_filter.mp hb).1)
    · have hids : (site.addAsset a' connectorId).assetIds = site.assetIds ++ [a'.id] := by
        simp [Site.assetIds,Site.addAsset]
      rw [hids]
      exact List.nodup_append.mpr ⟨hnodup,List.nodup_singleton _,by
        rintro x hx y hy rfl
        obtain rfl := List.mem_singleton.mp hy
        exact hfresh hx⟩
    · rintro ⟨b,hb,hbname⟩
      refine absurd hnone (hfirst.found "name" _ ?_)
      exact List.ne_nil_of_mem (List.mem_filter.mpr ⟨hb,decide_eq_true hbname⟩)

end AutoAsset

section Loop

variable {ω : Type} {printable : Char → Bool} {organizationId connectorId : Uuid}
  {newUuid : List Asset → Uuid} {known unnamed : String → Prop} {rows : List Asset}
  {p : IngestPayload} {first : FirstRow} {firsts : Nat → FirstRow}
  {xs : List (IngestPayload × Nat)} {s s' : Site ω × IngestResult}

/-- The loop on the rest of the payloads. -/
def ingestRest (printable : Char → Bool) (organizationId connectorId : Uuid)
    (newUuid : List Asset → Uuid) (firsts : Nat → FirstRow) (xs : List (IngestPayload × Nat))
    (s : Site ω × IngestResult) : Except Exc (Site ω × IngestResult) :=
  xs.foldlM (fun s p => ingestPayload printable organizationId connectorId newUuid s (firsts p.2)
    p.1) s

theorem ingestRest_cons {x : IngestPayload × Nat}
    (h : ingestRest printable organizationId connectorId newUuid firsts (x :: xs) s = .ok s') :
    ∃ s₁, ingestPayload printable organizationId connectorId newUuid s (firsts x.2) x.1 = .ok s₁ ∧
      ingestRest printable organizationId connectorId newUuid firsts xs s₁ = .ok s' := by
  rw [ingestRest,List.foldlM_cons] at h
  exact bind_eq_ok.mp h

theorem ingest_placed (hnew : ∀ assets : List Asset, newUuid assets ∉ assets.map Asset.id)
    (hfirst : first.Lawful) (hown : Own printable known p) (hnodup : s.1.assetIds.Nodup)
    (h : ingestPayload printable organizationId connectorId newUuid s first p = .ok s') :
    ∃ a', Placed printable (s.1.rowsOf organizationId connectorId) p a' ∧
      Written (s.1.rowsOf organizationId connectorId) a'
        (s'.1.rowsOf organizationId connectorId) ∧
      s'.2.assets = s.2.assets ++ [a'.id] ∧ s'.1.assetIds.Nodup ∧
      (payloadId printable p = none → ¬HasId p.metadata) ∧
      (¬Introduced printable (s.1.rowsOf organizationId connectorId) p a' →
        s'.1.assetIds = s.1.assetIds ∧ s'.2.created = s.2.created) := by
  obtain ⟨a',hwritten,hassets,hnoid,hcases⟩ :=
    ingestPayload_cases hnew hfirst (fun e he => (hown.holds e he).1) h
  rcases hcases with ⟨hlanded,hids,hcreated⟩ | ⟨hintroduced,hids,hfresh⟩
  · refine ⟨a',.inl hlanded,hwritten,hassets,?_,hnoid,fun _ => ⟨hids,hcreated⟩⟩
    rw [hids]
    exact hnodup
  · refine ⟨a',.inr hintroduced,hwritten,hassets,?_,hnoid,fun hnot => absurd hintroduced hnot⟩
    rw [hids]
    exact List.nodup_append.mpr ⟨hnodup,List.nodup_singleton _,by
      rintro x hx y hy rfl
      obtain rfl := List.mem_singleton.mp hy
      exact hfresh hx⟩

/-- What the loop keeps of the ids, and the asset that each payload with an id is in. -/
theorem ingestRest_owners (hnew : ∀ assets : List Asset, newUuid assets ∉ assets.map Asset.id)
    (hfirsts : ∀ i, (firsts i).Lawful) (hown : ∀ x ∈ xs, Own printable known x.1)
    (hsound : Sound known (s.1.rowsOf organizationId connectorId)) (hnodup : s.1.assetIds.Nodup)
    (h : ingestRest printable organizationId connectorId newUuid firsts xs s = .ok s') :
    Sound known (s'.1.rowsOf organizationId connectorId) ∧ s'.1.assetIds.Nodup ∧
      (∀ e id, known e → Owner (s.1.rowsOf organizationId connectorId) e id →
        Owner (s'.1.rowsOf organizationId connectorId) e id) ∧
      ∃ ids, s'.2.assets = s.2.assets ++ ids ∧
        List.Forall₂ (fun x id => ∀ e, payloadId printable x.1 = some e →
          Owner (s'.1.rowsOf organizationId connectorId) e id) xs ids := by
  induction xs generalizing s with
  | nil =>
    obtain rfl := pure_eq_ok.mp h
    exact ⟨hsound,hnodup,fun _ _ _ howner => howner,[],(List.append_nil _).symm,.nil⟩
  | cons x xs ih =>
    obtain ⟨s₁,hstep,h⟩ := ingestRest_cons h
    have hx := hown x List.mem_cons_self
    obtain ⟨a',hplaced,hwritten,hassets,hnodup₁,_,_⟩ :=
      ingest_placed hnew (hfirsts x.2) hx hnodup hstep
    have hsound₁ := hplaced.sound hwritten hx hsound
    obtain ⟨hsound',hnodup',howners,ids,hids,hforall⟩ :=
      ih (fun y hy => hown y (List.mem_cons_of_mem _ hy)) hsound₁ hnodup₁ h
    refine ⟨hsound',hnodup',?_,a'.id :: ids,?_,.cons ?_ hforall⟩
    · intro e id he howner
      exact howners e id he
        (hplaced.owner_kept hwritten hx hsound (keyed_of_nodup hnodup) he howner)
    · rw [hids,hassets,List.append_assoc,List.singleton_append]
    · intro e he
      refine howners e a'.id (hx.among e he) ⟨a',hwritten.mem,rfl,?_⟩
      exact (hplaced.holds hx he).carries

/-- The first payload with an id that no row has is not called as a payload without an id. -/
def NewNamesApart (printable : Char → Bool) (unnamed : String → Prop) (rows : List Asset)
    (payloads : List IngestPayload) : Prop :=
  ∀ pre p post e name, payloads = pre ++ p :: post → payloadId printable p = some e →
    (∀ q ∈ pre, payloadId printable q ≠ some e) → (∀ b ∈ rows, ¬Carries b.metadata e) →
    payloadName p = some name → ¬unnamed name

theorem NewNamesApart.tail {rows' : List Asset} {ps : List IngestPayload}
    (h : NewNamesApart printable unnamed rows (p :: ps))
    (hrows : ∀ e, payloadId printable p = some e → ∃ b ∈ rows', Carries b.metadata e)
    (hkept : ∀ q ∈ ps, ∀ e, payloadId printable q = some e → (∃ b ∈ rows, Carries b.metadata e) →
      ∃ b ∈ rows', Carries b.metadata e) : NewNamesApart printable unnamed rows' ps := by
  intro pre q post e name heq hq hpre hnone hname
  refine h (p :: pre) q post e name (congrArg (p :: ·) heq) hq ?_ ?_ hname
  · intro r hr hre
    rcases List.mem_cons.mp hr with rfl | hr
    · obtain ⟨b,hb,hcarries⟩ := hrows e hre
      exact hnone b hb hcarries
    · exact hpre r hr hre
  · intro b hb hcarries
    have hmem : q ∈ ps := heq ▸ List.mem_append_right _ List.mem_cons_self
    obtain ⟨b',hb',hcarries'⟩ := hkept q hmem e hq ⟨b,hb,hcarries⟩
    exact hnone b' hb' hcarries'

/-- What the loop keeps of the names, and the row of each payload without an id. -/
theorem ingestRest_names (hnew : ∀ assets : List Asset, newUuid assets ∉ assets.map Asset.id)
    (hfirsts : ∀ i, (firsts i).Lawful) (hown : ∀ x ∈ xs, Own printable known x.1)
    (hsound : Sound known (s.1.rowsOf organizationId connectorId)) (hnodup : s.1.assetIds.Nodup)
    (hfree : Free unnamed (s.1.rowsOf organizationId connectorId))
    (hnames : NewNamesApart printable unnamed (s.1.rowsOf organizationId connectorId)
      (xs.map Prod.fst))
    (h : ingestRest printable organizationId connectorId newUuid firsts xs s = .ok s') :
    Free unnamed (s'.1.rowsOf organizationId connectorId) ∧
      (∀ name, Named (s.1.rowsOf organizationId connectorId) name →
        Named (s'.1.rowsOf organizationId connectorId) name) ∧
      ∀ x ∈ xs, ∀ name, payloadId printable x.1 = none → payloadName x.1 = some name →
        Named (s'.1.rowsOf organizationId connectorId) name := by
  induction xs generalizing s with
  | nil =>
    obtain rfl := pure_eq_ok.mp h
    exact ⟨hfree,fun _ hnamed => hnamed,fun x hx => absurd hx List.not_mem_nil⟩
  | cons x xs ih =>
    obtain ⟨s₁,hstep,h⟩ := ingestRest_cons h
    have hx := hown x List.mem_cons_self
    obtain ⟨a',hplaced,hwritten,_,hnodup₁,hnoid,_⟩ :=
      ingest_placed hnew (hfirsts x.2) hx hnodup hstep
    have hkeyed : Keyed (s.1.rowsOf organizationId connectorId) := keyed_of_nodup hnodup
    have hfree₁ := hplaced.free hwritten hx hsound hfree hnoid fun e he habsent name hname =>
      hnames [] x.1 (xs.map Prod.fst) e name rfl he (fun q hq => absurd hq List.not_mem_nil)
        habsent hname
    have hrest := fun y hy => hown y (List.mem_cons_of_mem x hy)
    have hnames₁ : NewNamesApart printable unnamed (s₁.1.rowsOf organizationId connectorId)
        (xs.map Prod.fst) := by
      refine hnames.tail ?_ ?_
      · intro e he
        exact ⟨a',hwritten.mem,(hplaced.holds hx he).carries⟩
      · rintro q hq e he ⟨b,hb,hcarries⟩
        obtain ⟨y,hy,rfl⟩ := List.mem_map.mp hq
        obtain ⟨b',hb',_,hcarries'⟩ := hplaced.owner_kept hwritten hx hsound hkeyed
          ((hrest y hy).among e he) ⟨b,hb,rfl,hcarries⟩
        exact ⟨b',hb',hcarries'⟩
    obtain ⟨hfree',hkept,hnamed⟩ :=
      ih hrest (hplaced.sound hwritten hx hsound) hnodup₁ hfree₁ hnames₁ h
    refine ⟨hfree',?_,?_⟩
    · intro name hname
      exact hkept name (hplaced.named_kept hwritten hkeyed hname)
    · intro y hy name hid hname
      rcases List.mem_cons.mp hy with rfl | hy
      · exact hkept name (hplaced.named hwritten hid hname)
      · exact hnamed y hy name hid hname

/-- Every payload has a row. -/
structure Ingested (known unnamed : String → Prop) (rows : List Asset) : Prop where
  sound : Sound known rows
  free : Free unnamed rows
  owned : ∀ e, known e → ∃ id, Owner rows e id
  named : ∀ name, unnamed name → Named rows name

theorem Ingested.not_introduced {a' : Asset} (h : Ingested known unnamed rows)
    (hown : Own printable known p)
    (hunnamed : ∀ name, payloadId printable p = none → payloadName p = some name → unnamed name) :
    ¬Introduced printable rows p a' := by
  intro hnew
  cases hid : payloadId printable p with
  | some e =>
    obtain ⟨_,b,hb,_,hcarries⟩ := h.owned e (hown.among e hid)
    exact hnew.new e hid b hb hcarries
  | none =>
    have hname := hunnamed a'.name hid hnew.named
    cases hnew.name with
    | taken a hmem hnamed hhas => exact h.free a hmem (hnamed ▸ hname) hhas
    | unknown habsent =>
      obtain ⟨a,hmem,hnamed⟩ := h.named a'.name hname
      exact habsent a hmem hnamed

theorem ingestRest_again (hnew : ∀ assets : List Asset, newUuid assets ∉ assets.map Asset.id)
    (hfirsts : ∀ i, (firsts i).Lawful) (hown : ∀ x ∈ xs, Own printable known x.1)
    (hunnamed : ∀ x ∈ xs, ∀ name, payloadId printable x.1 = none → payloadName x.1 = some name →
      unnamed name)
    (hingested : Ingested known unnamed (s.1.rowsOf organizationId connectorId))
    (hnodup : s.1.assetIds.Nodup)
    (h : ingestRest printable organizationId connectorId newUuid firsts xs s = .ok s') :
    s'.1.assetIds = s.1.assetIds ∧ s'.2.created = s.2.created := by
  induction xs generalizing s with
  | nil =>
    obtain rfl := pure_eq_ok.mp h
    exact ⟨rfl,rfl⟩
  | cons x xs ih =>
    obtain ⟨s₁,hstep,h⟩ := ingestRest_cons h
    have hx := hown x List.mem_cons_self
    obtain ⟨a',hplaced,hwritten,_,hnodup₁,hnoid,hsame⟩ :=
      ingest_placed hnew (hfirsts x.2) hx hnodup hstep
    obtain ⟨hids,hcreated⟩ :=
      hsame (hingested.not_introduced hx (hunnamed x List.mem_cons_self))
    have hkeyed : Keyed (s.1.rowsOf organizationId connectorId) := keyed_of_nodup hnodup
    have hingested₁ : Ingested known unnamed (s₁.1.rowsOf organizationId connectorId) := by
      refine ⟨hplaced.sound hwritten hx hingested.sound,?_,?_,?_⟩
      · refine hplaced.free hwritten hx hingested.sound hingested.free hnoid ?_
        intro e he habsent
        obtain ⟨_,b,hb,_,hcarries⟩ := hingested.owned e (hx.among e he)
        exact absurd hcarries (habsent b hb)
      · intro e he
        obtain ⟨id,howner⟩ := hingested.owned e he
        exact ⟨id,hplaced.owner_kept hwritten hx hingested.sound hkeyed he howner⟩
      · intro name hname
        exact hplaced.named_kept hwritten hkeyed (hingested.named name hname)
    obtain ⟨hids',hcreated'⟩ := ih (fun y hy => hown y (List.mem_cons_of_mem x hy))
      (fun y hy => hunnamed y (List.mem_cons_of_mem x hy)) hingested₁ hnodup₁ h
    exact ⟨hids'.trans hids,hcreated'.trans hcreated⟩

end Loop

section Ingest

variable {ω : Type} {printable : Char → Bool} {organizationId connectorId : Uuid}
  {newUuid : List Asset → Uuid} {payloads : List IngestPayload} {autoAsset : Option IngestPayload}
  {rows : List Asset} {firstAuto firstAuto' : FirstRow} {firsts firsts' : Nat → FirstRow}
  {site site₁ site₂ : Site ω} {r₁ r₂ : IngestResult}

def ingestedIds (printable : Char → Bool) (payloads : List IngestPayload) : List String :=
  payloads.filterMap (payloadId printable)

/-- The names of the payloads without an id. -/
def unidentifiedNames (printable : Char → Bool) (payloads : List IngestPayload) : List String :=
  (payloads.filter fun p => payloadId printable p = none).filterMap payloadName

/-- The known keys tell the payloads and the assets of the inventory apart. -/
structure IdsApart (printable : Char → Bool) (payloads : List IngestPayload)
    (autoAsset : Option IngestPayload) (rows : List Asset) : Prop where
  holds : ∀ p ∈ payloads, ∀ e, payloadId printable p = some e → Holds p.metadata e
  apart : ∀ p ∈ payloads, ∀ e ∈ ingestedIds printable payloads, Carries p.metadata e →
    payloadId printable p = some e
  plain : ∀ p ∈ autoAsset, Plain p.metadata
  inventory : Sound (· ∈ ingestedIds printable payloads) rows

/-- No asset with an id, of the inventory or to come, is called as a payload without one. -/
structure NamesApart (printable : Char → Bool) (payloads : List IngestPayload)
    (rows : List Asset) : Prop where
  inventory : Free (· ∈ unidentifiedNames printable payloads) rows
  payloads : NewNamesApart printable (· ∈ unidentifiedNames printable payloads) rows payloads

theorem IdsApart.own (h : IdsApart printable payloads autoAsset rows) {p : IngestPayload}
    (hp : p ∈ payloads) : Own printable (· ∈ ingestedIds printable payloads) p :=
  ⟨fun _ he => List.mem_filterMap.mpr ⟨p,hp,he⟩,h.holds p hp,h.apart p hp⟩

theorem mem_unidentifiedNames {p : IngestPayload} {name : String} (hp : p ∈ payloads)
    (hid : payloadId printable p = none) (hname : payloadName p = some name) :
    name ∈ unidentifiedNames printable payloads :=
  List.mem_filterMap.mpr ⟨p,List.mem_filter.mpr ⟨hp,decide_eq_true hid⟩,hname⟩

theorem Twins.newNamesApart {rows' : List Asset} {unnamed : String → Prop}
    (h : Twins rows rows') (hnames : NewNamesApart printable unnamed rows payloads) :
    NewNamesApart printable unnamed rows' payloads := by
  intro pre p post e name heq hp hpre hnone hname
  refine hnames pre p post e name heq hp hpre ?_ hname
  intro b hb hcarries
  obtain ⟨c,hc,_,hcarries'⟩ := h.owner ⟨b,hb,rfl,hcarries⟩
  exact hnone c hc hcarries'

theorem Twins.refl (rows : List Asset) : Twins rows rows :=
  ⟨fun b hb => .inl ⟨b,hb,.refl b⟩,fun b hb => ⟨b,hb,.refl b⟩⟩

/-- The part of a run before the loop. -/
theorem runIngest_cases (hnew : ∀ assets : List Asset, newUuid assets ∉ assets.map Asset.id)
    (hauto : firstAuto.Lawful) (hplain : ∀ p ∈ autoAsset, Plain p.metadata)
    (hnodup : site.assetIds.Nodup)
    (h : runIngest printable organizationId connectorId newUuid firstAuto firsts autoAsset payloads
      site = .ok (site₁,r₁)) :
    ∃ site₀, Twins (site.rowsOf organizationId connectorId)
        (site₀.rowsOf organizationId connectorId) ∧ site₀.assetIds.Nodup ∧
      ingestRest printable organizationId connectorId newUuid firsts payloads.zipIdx (site₀,{}) =
        .ok (site₁,r₁) ∧
      (∀ name, (givenAsset autoAsset).bind autoName = some name →
        Named (site₀.rowsOf organizationId connectorId) name) ∧
      ((∀ name, (givenAsset autoAsset).bind autoName = some name →
          Named (site.rowsOf organizationId connectorId) name) →
        site₀.assetIds = site.assetIds) := by
  obtain ⟨site₀,hsite₀,h⟩ := bind_eq_ok.mp h
  cases hgiven : givenAsset autoAsset with
  | none =>
    rw [hgiven] at hsite₀
    obtain rfl := pure_eq_ok.mp hsite₀
    refine ⟨site,.refl _,hnodup,h,?_,fun _ => rfl⟩
    intro name hname
    cases hname
  | some p =>
    rw [hgiven] at hsite₀
    have hp := hplain p (Option.eq_some_of_filter_eq_some hgiven)
    obtain ⟨htwins,hnodup₀,name,hname,hnamed,hsame⟩ :=
      ingestAutoAsset_spec hnew hauto hp hnodup hsite₀
    refine ⟨site₀,htwins,hnodup₀,h,?_,fun hall => hsame (hall name hname)⟩
    intro name' hname'
    obtain rfl := Option.some.inj (hname.symm.trans hname')
    exact hnamed

/-- What a run leaves: the asset of each payload with an id, and rows that a second run finds. -/
theorem runIngest_spec (hnew : ∀ assets : List Asset, newUuid assets ∉ assets.map Asset.id)
    (hauto : firstAuto.Lawful) (hfirsts : ∀ i, (firsts i).Lawful)
    (hids : IdsApart printable payloads autoAsset (site.rowsOf organizationId connectorId))
    (hnodup : site.assetIds.Nodup)
    (h : runIngest printable organizationId connectorId newUuid firstAuto firsts autoAsset payloads
      site = .ok (site₁,r₁)) :
    Sound (· ∈ ingestedIds printable payloads) (site₁.rowsOf organizationId connectorId) ∧
      site₁.assetIds.Nodup ∧
      List.Forall₂ (fun p id => ∀ e, payloadId printable p = some e →
        Owner (site₁.rowsOf organizationId connectorId) e id) payloads r₁.assets ∧
      (NamesApart printable payloads (site.rowsOf organizationId connectorId) →
        Ingested (· ∈ ingestedIds printable payloads) (· ∈ unidentifiedNames printable payloads)
            (site₁.rowsOf organizationId connectorId) ∧
          ∀ name, (givenAsset autoAsset).bind autoName = some name →
            Named (site₁.rowsOf organizationId connectorId) name) := by
  obtain ⟨site₀,htwins,hnodup₀,hloop,hgiven,_⟩ := runIngest_cases hnew hauto hids.plain hnodup h
  have hfst : payloads.zipIdx.map Prod.fst = payloads := List.zipIdx_map_fst ..
  have hmem : ∀ x ∈ payloads.zipIdx, x.1 ∈ payloads := by
    intro x hx
    rw [← hfst]
    exact List.mem_map_of_mem hx
  have hown := fun x hx => hids.own (hmem x hx)
  have hsound₀ := htwins.sound hids.inventory
  obtain ⟨hsound₁,hnodup₁,_,ids,hassets,hforall⟩ :=
    ingestRest_owners hnew hfirsts hown hsound₀ hnodup₀ hloop
  obtain rfl : r₁.assets = ids := hassets
  have howners : List.Forall₂ (fun p id => ∀ e, payloadId printable p = some e →
      Owner (site₁.rowsOf organizationId connectorId) e id) payloads r₁.assets := by
    conv => arg 2; rw [← hfst]
    exact List.forall₂_map_left_iff.mpr hforall
  refine ⟨hsound₁,hnodup₁,howners,fun hnames => ?_⟩
  obtain ⟨hfree₁,hkept,hnamed⟩ := ingestRest_names hnew hfirsts hown hsound₀ hnodup₀
    (htwins.free hnames.inventory) (hfst.symm ▸ htwins.newNamesApart hnames.payloads) hloop
  refine ⟨⟨hsound₁,hfree₁,?_,?_⟩,fun name hname => hkept name (hgiven name hname)⟩
  · intro e he
    obtain ⟨p,hp,hid⟩ := List.mem_filterMap.mp he
    obtain ⟨id,_,howner⟩ := Lists.forall₂_mem_left howners p hp
    exact ⟨id,howner e hid⟩
  · intro name hname
    obtain ⟨p,hp,hpname⟩ := List.mem_filterMap.mp hname
    obtain ⟨hp,hid⟩ := List.mem_filter.mp hp
    rw [← hfst] at hp
    obtain ⟨x,hx,rfl⟩ := List.mem_map.mp hp
    exact hnamed x hx name (of_decide_eq_true hid) hpname

theorem runIngest_again (hnew : ∀ assets : List Asset, newUuid assets ∉ assets.map Asset.id)
    (hauto : firstAuto'.Lawful) (hfirsts : ∀ i, (firsts' i).Lawful)
    (hids : IdsApart printable payloads autoAsset (site₁.rowsOf organizationId connectorId))
    (hnodup : site₁.assetIds.Nodup)
    (hingested : Ingested (· ∈ ingestedIds printable payloads)
      (· ∈ unidentifiedNames printable payloads) (site₁.rowsOf organizationId connectorId))
    (hgiven : ∀ name, (givenAsset autoAsset).bind autoName = some name →
      Named (site₁.rowsOf organizationId connectorId) name)
    (h : runIngest printable organizationId connectorId newUuid firstAuto' firsts' autoAsset
      payloads site₁ = .ok (site₂,r₂)) : r₂.created = 0 ∧ site₂.assetIds = site₁.assetIds := by
  obtain ⟨site₀,htwins,hnodup₀,hloop,_,hsame⟩ := runIngest_cases hnew hauto hids.plain hnodup h
  have hmem : ∀ x ∈ payloads.zipIdx, x.1 ∈ payloads := by
    intro x hx
    rw [← List.zipIdx_map_fst 0 payloads]
    exact List.mem_map_of_mem hx
  have hingested₀ : Ingested (· ∈ ingestedIds printable payloads)
      (· ∈ unidentifiedNames printable payloads) (site₀.rowsOf organizationId connectorId) := by
    refine ⟨htwins.sound hingested.sound,htwins.free hingested.free,?_,?_⟩
    · intro e he
      obtain ⟨id,howner⟩ := hingested.owned e he
      exact ⟨id,htwins.owner howner⟩
    · exact fun name hname => htwins.named (hingested.named name hname)
  obtain ⟨hassets,hcreated⟩ := ingestRest_again hnew hfirsts
    (fun x hx => hids.own (hmem x hx))
    (fun x hx name hid hname => mem_unidentifiedNames (hmem x hx) hid hname) hingested₀ hnodup₀
    hloop
  exact ⟨hcreated,hassets.trans (hsame hgiven)⟩

/-- Payloads with ids are in one asset exactly when they have one id, and a second run creates
nothing. -/
theorem runIngest_keeps_identities
    (hnew : ∀ assets : List Asset, newUuid assets ∉ assets.map Asset.id)
    (hauto : firstAuto.Lawful) (hfirsts : ∀ i, (firsts i).Lawful)
    (hids : IdsApart printable payloads autoAsset (site.rowsOf organizationId connectorId))
    (hnodup : site.assetIds.Nodup)
    (h : runIngest printable organizationId connectorId newUuid firstAuto firsts autoAsset payloads
      site = .ok (site₁,r₁)) :
    r₁.assets.length = payloads.length ∧
      (∀ (i j : Nat) p q e f, payloads[i]? = some p → payloads[j]? = some q →
        payloadId printable p = some e → payloadId printable q = some f →
        (r₁.assets[i]? = r₁.assets[j]? ↔ e = f)) ∧
      (NamesApart printable payloads (site.rowsOf organizationId connectorId) →
        ∀ (firstAuto' : FirstRow) (firsts' : Nat → FirstRow) (site₂ : Site ω) (r₂ : IngestResult),
          firstAuto'.Lawful → (∀ i, (firsts' i).Lawful) →
          runIngest printable organizationId connectorId newUuid firstAuto' firsts' autoAsset
            payloads site₁ = .ok (site₂,r₂) →
          r₂.created = 0 ∧ site₂.assetIds = site₁.assetIds) := by
  obtain ⟨hsound,hnodup₁,howners,hnames⟩ := runIngest_spec hnew hauto hfirsts hids hnodup h
  refine ⟨howners.length_eq.symm,?_,?_⟩
  · intro i j p q e f hp hq he hf
    obtain ⟨x,hx,hxe⟩ := Lists.forall₂_getElem? howners hp
    obtain ⟨y,hy,hyf⟩ := Lists.forall₂_getElem? howners hq
    obtain ⟨a,ha,rfl,hae⟩ := hxe e he
    obtain ⟨b,hb,rfl,hbf⟩ := hyf f hf
    have heknown : e ∈ ingestedIds printable payloads :=
      List.mem_filterMap.mpr ⟨p,List.mem_of_getElem? hp,he⟩
    have hfknown : f ∈ ingestedIds printable payloads :=
      List.mem_filterMap.mpr ⟨q,List.mem_of_getElem? hq,hf⟩
    rw [hx,hy,Option.some.injEq]
    constructor
    · intro hid
      obtain rfl := keyed_of_nodup hnodup₁ a ha b hb hid
      exact hsound.single a ha e f heknown hfknown hae hbf
    · rintro rfl
      exact hsound.unique a ha b hb e heknown hae hbf
  · intro hapart firstAuto' firsts' site₂ r₂ hauto' hfirsts' h₂
    obtain ⟨hingested,hgiven⟩ := hnames hapart
    exact runIngest_again hnew hauto' hfirsts' ⟨hids.holds,hids.apart,hids.plain,hsound⟩ hnodup₁
      hingested hgiven h₂

end Ingest

section Sample

instance (metadata : Json) (e : String) : Decidable (Carries metadata e) :=
  inferInstanceAs (Decidable (∃ key ∈ metadataIdCandidates, metadataText metadata key = some e))

instance (metadata : Json) : Decidable (HasId metadata) :=
  inferInstanceAs (Decidable (∃ key ∈ metadataIdCandidates, ∃ v ∈ metadataField metadata key,
    v.truthy = true))

instance (metadata : Json) (e : String) : Decidable (Holds metadata e) :=
  inferInstanceAs (Decidable (e ≠ "" ∧ ∃ key ∈ metadataIdCandidates,
    ∃ v ∈ metadataField metadata key, v.truthy = true ∧ jsonText v = some e))

/-- An id that is longer than the others. -/
def longerUuid (assets : List Asset) : Uuid :=
  String.ofList ('x' :: assets.flatMap fun a => a.id.toList)

theorem longerUuid_fresh (assets : List Asset) : longerUuid assets ∉ assets.map Asset.id := by
  intro h
  obtain ⟨a,ha,hid⟩ := List.mem_map.mp h
  have hlength : a.id.toList.length = (assets.flatMap fun a => a.id.toList).length + 1 := by
    rw [hid,longerUuid,String.toList_ofList,List.length_cons]
  obtain ⟨pre,post,rfl⟩ := List.append_of_mem ha
  simp only [List.flatMap_append,List.flatMap_cons,List.length_append] at hlength
  omega

def headRow : FirstRow := fun _ rows => rows.head?

theorem headRow_lawful : headRow.Lawful :=
  ⟨fun _ _ _ h => List.mem_of_mem_head? h,fun _ _ h => by simpa [headRow] using h⟩

/-- A server that a connector has found, with the id at the top or in the metadata. -/
def foundServer (id : Option String) (name : String) (metadata : Dict)
    (distinct : (metadata.map Prod.fst).Nodup := by decide) : IngestPayload where
  fields := [("name",.str name),("asset_type",.str "server"),("asset_metadata",.obj metadata),
    ("id",id.elim .null .str)]
  distinct := by
    intro m h
    obtain rfl := Json.obj.inj (Option.some.inj h)
    exact distinct

def ingestFound (payloads : List IngestPayload) (site : Site Unit) :
    Except Exc (Site Unit × IngestResult) :=
  runIngest (fun _ => true) "o" "c" longerUuid headRow (fun _ => headRow) none payloads site

def inventoryOf (assets : List Asset) : Site Unit := ⟨assets,assets,[],[],()⟩

def listedServer : Asset :=
  ⟨"1","o",some "c","web","server","prod","medium",.obj [("instance_id",.str "i-1")],[]⟩

def foundServers : List IngestPayload :=
  [foundServer none "web" [("instance_id",.str "i-1")],
    foundServer none "db" [("db_identifier",.str "d-1")],foundServer none "printer" []]

theorem foundServers_keep_identities :
    ∃ site₁ r₁, ingestFound foundServers (inventoryOf [listedServer]) = .ok (site₁,r₁) ∧
      r₁.created = 2 ∧ r₁.assets[0]? ≠ r₁.assets[1]? ∧
      ∀ site₂ r₂, ingestFound foundServers site₁ = .ok (site₂,r₂) →
        r₂.created = 0 ∧ site₂.assetIds = site₁.assetIds := by
  have hok : (ingestFound foundServers (inventoryOf [listedServer])).isOk = true := by
    decide
  obtain ⟨⟨site₁,r₁⟩,hrun⟩ := isOk_iff.mp hok
  have hcreated : (ingestFound foundServers (inventoryOf [listedServer])).toOption.map
      (fun s => s.2.created) = some 2 := by decide
  rw [hrun] at hcreated
  have hids : IdsApart (fun _ => true) foundServers none
      ((inventoryOf [listedServer]).rowsOf "o" "c") := by
    refine ⟨?_,by decide,fun p hp => (by cases hp),?_,?_,?_⟩
    · exact (by decide : ∀ p ∈ foundServers, ∀ e ∈ payloadId (fun _ => true) p,
        Holds p.metadata e)
    · exact (by decide : ∀ a ∈ (inventoryOf [listedServer]).rowsOf "o" "c",
        ∀ e ∈ ingestedIds (fun _ => true) foundServers, Carries a.metadata e → HasId a.metadata)
    · intro a ha e f he hf
      exact (by decide : ∀ a ∈ (inventoryOf [listedServer]).rowsOf "o" "c",
        ∀ e ∈ ingestedIds (fun _ => true) foundServers,
        ∀ f ∈ ingestedIds (fun _ => true) foundServers,
        Carries a.metadata e → Carries a.metadata f → e = f) a ha e he f hf
    · exact (by decide : ∀ a ∈ (inventoryOf [listedServer]).rowsOf "o" "c",
        ∀ b ∈ (inventoryOf [listedServer]).rowsOf "o" "c",
        ∀ e ∈ ingestedIds (fun _ => true) foundServers,
        Carries a.metadata e → Carries b.metadata e → a.id = b.id)
  have hnames : NamesApart (fun _ => true) foundServers
      ((inventoryOf [listedServer]).rowsOf "o" "c") := by
    refine ⟨?_,fun pre p post e name heq hp _ _ hname => ?_⟩
    · exact (by decide : ∀ a ∈ (inventoryOf [listedServer]).rowsOf "o" "c",
        a.name ∈ unidentifiedNames (fun _ => true) foundServers → ¬HasId a.metadata)
    · have hmem : p ∈ foundServers := heq ▸ List.mem_append_right _ List.mem_cons_self
      exact (by decide : ∀ p ∈ foundServers, ∀ e ∈ payloadId (fun _ => true) p,
        ∀ name ∈ payloadName p, name ∉ unidentifiedNames (fun _ => true) foundServers) p hmem e hp
        name hname
  obtain ⟨_,happart,hagain⟩ := runIngest_keeps_identities longerUuid_fresh headRow_lawful
    (fun _ => headRow_lawful) hids (by decide) hrun
  refine ⟨site₁,r₁,hrun,Option.some.inj hcreated,?_,?_⟩
  · intro heq
    have hne : ("i-1" : String) ≠ "d-1" := by decide
    exact hne ((happart 0 1 _ _ _ _ rfl rfl (by decide) (by decide)).mp heq)
  · intro site₂ r₂ h₂
    exact hagain hnames headRow (fun _ => headRow) site₂ r₂ headRow_lawful (fun _ => headRow_lawful)
      h₂

def foundIds (payloads : List IngestPayload) : List (Option String) :=
  payloads.map (payloadId fun _ => true)

def foundAssets (payloads : List IngestPayload) : Option (List Uuid) :=
  (ingestFound payloads (inventoryOf [])).toOption.map fun s => s.2.assets

/-- The assets that a second run creates. -/
def createdAgain (payloads : List IngestPayload) : Option Nat :=
  ((ingestFound payloads (inventoryOf [])).toOption.bind fun s =>
    (ingestFound payloads s.1).toOption).map fun s => s.2.created

/-- A machine with the ids of two sources, and the same machine as the second source has it. -/
def twiceKnown : List IngestPayload :=
  [foundServer none "web" [("instance_id",.str "i-1"),("device_id",.str "7")],
    foundServer none "laptop" [("device_id",.str "7")]]

def namesakes : List IngestPayload :=
  [foundServer none "web" [("instance_id",.str "i-1")],foundServer none "web" []]

/-- The ids of a directory, which stand at the top alone. -/
def renamedAtTop : List IngestPayload :=
  [foundServer (some "1") "ann" [],foundServer (some "2") "ann" [],foundServer (some "1") "anne" []]

theorem ingest_mixes_identities :
    (foundIds twiceKnown = [some "i-1",some "7"] ∧ foundAssets twiceKnown = some ["x","x"]) ∧
      (foundIds namesakes = [some "i-1",none] ∧ createdAgain namesakes = some 1) ∧
      foundIds renamedAtTop = [some "1",some "2",some "1"] ∧
      foundAssets renamedAtTop = some ["x","x","xx"] := by
  decide

end Sample

end Nexplane
