import Nexplane.DriftNormalization
import Nexplane.JobSigning
import Nexplane.Lib.Checks
import Nexplane.Lib.Orm
import Nexplane.World
import Mathlib.Data.List.MinMax

set_option autoImplicit false

/-! The asset that the consumer found by a reference scan is: by a stable id, by its host name or by
what the scan saw of it. -/

namespace Nexplane
open PyValue Checks

section Dumps

/-- A character in a string that `json.dumps` writes. -/
def asciiEscape (c : Char) : List Char :=
  let n := c.toNat
  let u : Nat → List Char := fun code => ['\\','u'] ++ hexDigits 4 code
  if c = '\\' then ['\\','\\']
  else if c = '"' then ['\\','"']
  else if n = 8 then ['\\','b']
  else if n = 12 then ['\\','f']
  else if n = 10 then ['\\','n']
  else if n = 13 then ['\\','r']
  else if n = 9 then ['\\','t']
  else if 32 ≤ n ∧ n < 127 then [c]
  else if n < 0x10000 then u n
  else u (0xd800 + (n - 0x10000) / 0x400) ++ u (0xdc00 + (n - 0x10000) % 0x400)

def quoted (text : List Char) : List Char := '"' :: (text ++ ['"'])

def jsonString (s : String) : List Char := quoted (s.toList.flatMap asciiEscape)

mutual

/-- `json.dumps(v)`, the text that a JSON column keeps. -/
def jsonDumps : Json → List Char
  | .null => "null".toList
  | .bool b => if b then "true".toList else "false".toList
  | .int n => Dispatch.intText n
  | .float text => text.toList
  | .str s => jsonString s
  | .arr items => '[' :: (joined (dumpItems items) ++ [']'])
  | .obj fields => Char.ofNat 123 :: (joined (dumpFields fields) ++ [Char.ofNat 125])

def dumpItems : List Json → List (List Char)
  | [] => []
  | v :: vs => jsonDumps v :: dumpItems vs

def dumpFields : Dict → List (List Char)
  | [] => []
  | (k,v) :: fields => (jsonString k ++ [':',' '] ++ jsonDumps v) :: dumpFields fields

end

end Dumps

/-- What a scanner reports of the consumer. -/
structure ConsumerIdentity where
  stableId : Option String
  hostname : Option String
  surfaceMetadata : Dict

/-- The confidence is in hundredths. -/
structure IdentityResolutionResult where
  assetId : Option Uuid
  tier : Nat
  confidence : Nat
  newAssetData : Option Dict

section Resolution
variable (printable : Char → Bool)

def Asset.field (a : Asset) (field : String) : Option Json :=
  match a.metadata with
  | .obj fields => Dict.get? fields field
  | _ => none

/-- `cast(Asset.asset_metadata[field], String) == f'"{v}"'`. -/
def Asset.readsAs (a : Asset) (field : String) (v : Json) : Bool :=
  (a.field field).map jsonDumps = some (quoted (pyStr printable v).toList)

def fieldAssets (assets : List Asset) (field : String) (v : Json) : List Asset :=
  assets.filter fun a => a.readsAs printable field v

def fieldAsset (assets : List Asset) (field : String) (v : Json) : Except Exc (Option Asset) :=
  Orm.oneOrNone (.other "MultipleResultsFound") (fieldAssets printable assets field v)

def stableFields : List String := ["arn","resource_id","instance_id","function_name","cluster_id"]

def signalFields : List String := ["mac_address","os_type","primary_interface_ip"]

/-- `if text`. -/
def presentText (text : Option String) : Option String := text.filter fun s => s ≠ ""

/-- The first of the fields under which the query finds an asset. -/
def stableAsset (assets : List Asset) (stableId : String) : List String → Except Exc (Option Asset)
  | [] => .ok none
  | field :: fields => do
    match ← fieldAsset printable assets field (.str stableId) with
    | some a => pure (some a)
    | none => stableAsset assets stableId fields

def firstLabel (hostname : String) : String := String.ofList ((hostname.toList.splitOn '.').headD [])

def hostAssets (assets : List Asset) (hostname : String) : List Asset :=
  assets.filter fun a => a.name = hostname ∨ a.name = firstLabel hostname

def ConsumerIdentity.signals (identity : ConsumerIdentity) : List (String × Json) :=
  (signalFields.map fun field => (field,identity.surfaceMetadata.getD field .null)).filter
    fun signal => signal.2.truthy

def signalAssets (assets : List Asset) : List (String × Json) → Except Exc (List Asset)
  | [] => .ok []
  | (field,v) :: signals => do
    let found ← fieldAsset printable assets field v
    let others ← signalAssets assets signals
    pure (found.toList ++ others)

def ConsumerIdentity.label (identity : ConsumerIdentity) (fresh : String) : Json :=
  match presentText identity.hostname,presentText identity.stableId with
  | some name,_ => .str name
  | none,some name => .str name
  | none,none =>
    (identity.surfaceMetadata.getD "label" .null).orElse (.str ("unknown-consumer-" ++ fresh))

def ConsumerIdentity.newAssetData (identity : ConsumerIdentity) (fresh : String) : Dict :=
  [("name",identity.label fresh),("asset_type",.str "application"),("environment",.str "unknown"),
    ("asset_metadata",.obj (Dict.merge
      [("discovered_via",.str "reference_scan"),("stable_id",textOrNull identity.stableId),
        ("hostname",textOrNull identity.hostname)] identity.surfaceMetadata))]

/-- The result for the ids that `signal_matches` counts; `fresh` is the start of a new uuid. -/
def ConsumerIdentity.bySurface (identity : ConsumerIdentity) (fresh : String) (ids : List Uuid) :
    IdentityResolutionResult :=
  match (ids.argmax ids.count).filter fun best => 2 ≤ ids.count best with
  | some best => ⟨some best,3,70,none⟩
  | none => ⟨none,4,0,some (identity.newAssetData fresh)⟩

def resolveConsumerIdentity (inventory : List Asset) (organizationId : Uuid)
    (identity : ConsumerIdentity) (fresh : String) : Except Exc IdentityResolutionResult := do
  let assets := inventory.filter fun a => a.organizationId = organizationId
  let stable ← match presentText identity.stableId with
    | none => pure none
    | some stableId => stableAsset printable assets stableId stableFields
  match stable with
  | some a => pure ⟨some a.id,1,99,none⟩
  | none =>
    match (presentText identity.hostname).elim [] (hostAssets assets) with
    | [a] => pure ⟨some a.id,2,85,none⟩
    | a :: _ :: _ => pure ⟨some a.id,2,50,none⟩
    | [] =>
      let candidates ← signalAssets printable assets identity.signals
      pure (identity.bySurface fresh (candidates.map Asset.id))

end Resolution

section Matching
variable (printable : Char → Bool) (identity : ConsumerIdentity)

def Asset.hasValue (a : Asset) (field : String) (v : Json) : Bool :=
  (a.field field).any fun w => w.eq v

def ConsumerIdentity.StableMatch (a : Asset) : Prop :=
  ∃ stableId ∈ presentText identity.stableId, ∃ field ∈ stableFields,
    a.hasValue field (.str stableId) = true

def ConsumerIdentity.HostMatch (a : Asset) : Prop :=
  ∃ hostname ∈ presentText identity.hostname, a.name = hostname ∨ a.name = firstLabel hostname

/-- How many of the signals the asset has. -/
def ConsumerIdentity.signalCount (a : Asset) : Nat :=
  identity.signals.countP fun signal => a.hasValue signal.1 signal.2

/-- The result is of the first tier that an asset matches, and of such an asset. -/
def ConsumerIdentity.BestMatch (assets : List Asset) (r : IdentityResolutionResult) : Prop :=
  (r.tier = 1 ∧ ∃ a ∈ assets, r.assetId = some a.id ∧ identity.StableMatch a) ∨
  (∀ a ∈ assets, ¬identity.StableMatch a) ∧
    ((r.tier = 2 ∧ ∃ a ∈ assets, r.assetId = some a.id ∧ identity.HostMatch a) ∨
    (∀ a ∈ assets, ¬identity.HostMatch a) ∧
      ((r.tier = 3 ∧ ∃ a ∈ assets, r.assetId = some a.id ∧ 2 ≤ identity.signalCount a) ∨
      (∀ a ∈ assets, identity.signalCount a < 2) ∧ r.tier = 4 ∧ r.assetId = none))

/-- What the queries for the stable id find under the first field under which they find anything. -/
def firstReading (assets : List Asset) (stableId : String) (fields : List String) : List Asset :=
  ((fields.map fun field => fieldAssets printable assets field (.str stableId)).find?
    fun found => !found.isEmpty).getD []

def ConsumerIdentity.stableReading (assets : List Asset) : List Asset :=
  (presentText identity.stableId).elim [] fun stableId =>
    firstReading printable assets stableId stableFields

/-- How many of the signals the queries read off the asset. -/
def ConsumerIdentity.readCount (a : Asset) : Nat :=
  identity.signals.countP fun signal => a.readsAs printable signal.1 signal.2

variable {printable identity} {assets : List Asset} {a : Asset} {stableId : String}

theorem stableAsset_eq (fields : List String) : stableAsset printable assets stableId fields =
    Orm.oneOrNone (.other "MultipleResultsFound")
      (firstReading printable assets stableId fields) := by
  induction fields with
  | nil => rfl
  | cons field fields ih =>
    rw [stableAsset,fieldAsset,firstReading,List.map_cons,List.find?_cons]
    match hfound : fieldAssets printable assets field (.str stableId) with
    | [] => exact ih
    | [a] => rfl
    | _ :: _ :: _ => rfl

theorem mem_fieldAssets {field : String} {v : Json} :
    a ∈ fieldAssets printable assets field v ↔ a ∈ assets ∧ a.readsAs printable field v = true :=
  List.mem_filter

theorem mem_firstReading {fields : List String}
    (h : a ∈ firstReading printable assets stableId fields) :
    a ∈ assets ∧ ∃ field ∈ fields, a.readsAs printable field (.str stableId) = true := by
  rw [firstReading] at h
  cases hfind : (fields.map fun field => fieldAssets printable assets field (.str stableId)).find?
      fun found => !found.isEmpty with
  | none => simp [hfind] at h
  | some found =>
    obtain ⟨field,hfield,rfl⟩ := List.mem_map.mp (List.mem_of_find?_eq_some hfind)
    rw [hfind] at h
    obtain ⟨ha,hreads⟩ := mem_fieldAssets.mp h
    exact ⟨ha,field,hfield,hreads⟩

theorem mem_stableReading (h : a ∈ identity.stableReading printable assets) : a ∈ assets ∧
    ∃ stableId ∈ presentText identity.stableId, ∃ field ∈ stableFields,
      a.readsAs printable field (.str stableId) = true := by
  rw [ConsumerIdentity.stableReading] at h
  cases hid : presentText identity.stableId with
  | none => simp [hid] at h
  | some stableId =>
    rw [hid] at h
    obtain ⟨ha,hreads⟩ := mem_firstReading h
    exact ⟨ha,stableId,rfl,hreads⟩

theorem signalAssets_eq_ok_iff {signals : List (String × Json)} {found : List Asset} :
    signalAssets printable assets signals = .ok found ↔
      (∀ signal ∈ signals, (fieldAssets printable assets signal.1 signal.2).length ≤ 1) ∧
        found = signals.flatMap fun signal => fieldAssets printable assets signal.1 signal.2 := by
  induction signals generalizing found with
  | nil => simp [signalAssets,eq_comm]
  | cons signal signals ih =>
    obtain ⟨field,v⟩ := signal
    rw [signalAssets,fieldAsset]
    by_cases hlength : (fieldAssets printable assets field v).length ≤ 1
    · have hone : (fieldAssets printable assets field v).head?.toList =
          fieldAssets printable assets field v := by
        match fieldAssets printable assets field v,hlength with
        | [],_ => rfl
        | [a],_ => rfl
      rw [Orm.oneOrNone_of_length_le hlength,ok_bind,bind_eq_ok]
      constructor
      · rintro ⟨others,hothers,hfound⟩
        obtain ⟨hlengths,rfl⟩ := ih.mp hothers
        obtain rfl := Except.ok.inj hfound
        exact ⟨List.forall_mem_cons.mpr ⟨hlength,hlengths⟩,by rw [hone,List.flatMap_cons]⟩
      · rintro ⟨hlengths,rfl⟩
        refine ⟨_,ih.mpr ⟨(List.forall_mem_cons.mp hlengths).2,rfl⟩,?_⟩
        rw [hone,List.flatMap_cons]
        rfl
    · rw [Orm.oneOrNone_of_lt_length (Nat.lt_of_not_le hlength)]
      refine ⟨fun hfound => ?_,fun hall => absurd (hall.1 _ List.mem_cons_self) hlength⟩
      cases hfound

variable (printable identity assets) in
/-- The ids of the assets that the queries for the signals find, once for each of them. -/
def ConsumerIdentity.readIds : List Uuid :=
  (identity.signals.flatMap fun signal =>
    fieldAssets printable assets signal.1 signal.2).map Asset.id

theorem count_fieldAssets (hkey : (assets.map Asset.id).Nodup) (ha : a ∈ assets) (field : String)
    (v : Json) : ((fieldAssets printable assets field v).map Asset.id).count a.id =
      if a.readsAs printable field v then 1 else 0 := by
  have hnodup : ((fieldAssets printable assets field v).map Asset.id).Nodup :=
    hkey.sublist (List.filter_sublist.map _)
  split
  · next hreads =>
    exact List.count_eq_one_of_mem hnodup
      (List.mem_map.mpr ⟨a,mem_fieldAssets.mpr ⟨ha,hreads⟩,rfl⟩)
  · next hreads =>
    refine List.count_eq_zero.mpr fun hmem => ?_
    obtain ⟨b,hb,hid⟩ := List.mem_map.mp hmem
    obtain ⟨hb,hread⟩ := mem_fieldAssets.mp hb
    rw [Orm.eq_of_key hkey hb ha hid] at hread
    exact hreads hread

theorem count_readIds (hkey : (assets.map Asset.id).Nodup) (ha : a ∈ assets) :
    (identity.readIds printable assets).count a.id = identity.readCount printable a := by
  rw [ConsumerIdentity.readIds,ConsumerIdentity.readCount]
  induction identity.signals with
  | nil => rfl
  | cons signal signals ih =>
    rw [List.flatMap_cons,List.map_append,List.count_append,ih,List.countP_cons,
      count_fieldAssets hkey ha,Nat.add_comm]

theorem mem_readIds {id : Uuid} (h : id ∈ identity.readIds printable assets) :
    ∃ a ∈ assets, a.id = id := by
  obtain ⟨a,ha,hid⟩ := List.mem_map.mp h
  obtain ⟨signal,-,ha⟩ := List.mem_flatMap.mp ha
  exact ⟨a,(mem_fieldAssets.mp ha).1,hid⟩

theorem length_flatMap_le {signals : List (String × Json)}
    (h : ∀ signal ∈ signals, (fieldAssets printable assets signal.1 signal.2).length ≤ 1) :
    (signals.flatMap fun signal => fieldAssets printable assets signal.1 signal.2).length ≤
      signals.length := by
  induction signals with
  | nil => simp
  | cons signal signals ih =>
    obtain ⟨hfirst,hrest⟩ := List.forall_mem_cons.mp h
    have hle := ih hrest
    rw [List.flatMap_cons,List.length_append,List.length_cons]
    omega

theorem length_readIds
    (h : ∀ signal ∈ identity.signals, (fieldAssets printable assets signal.1 signal.2).length ≤ 1) :
    (identity.readIds printable assets).length ≤ 3 := by
  rw [ConsumerIdentity.readIds,List.length_map]
  calc _ ≤ identity.signals.length := length_flatMap_le h
    _ ≤ signalFields.length := (List.length_filter_le _ _).trans (List.length_map _).le
    _ = 3 := rfl

/-- Of three ids only one is there twice. -/
theorem eq_of_count {ids : List Uuid} {x y : Uuid} (hlength : ids.length ≤ 3)
    (hx : 2 ≤ ids.count x) (hy : 2 ≤ ids.count y) : x = y := by
  by_contra hne
  have hsplit := List.length_eq_countP_add_countP (fun id => id == x) (l := ids)
  have hle : ids.count y ≤ ids.countP fun id => decide ¬(id == x) = true := by
    refine List.countP_mono_left fun id _ hid => ?_
    have : id = y := by simpa using hid
    simpa [this] using Ne.symm hne
  rw [List.count] at hx
  omega

theorem bySurface_cases (identity : ConsumerIdentity) (fresh : String) (ids : List Uuid) :
    (∃ best ∈ ids, 2 ≤ ids.count best ∧
        identity.bySurface fresh ids = ⟨some best,3,70,none⟩) ∨
      (∀ id, ids.count id < 2) ∧
        identity.bySurface fresh ids = ⟨none,4,0,some (identity.newAssetData fresh)⟩ := by
  rw [ConsumerIdentity.bySurface]
  cases hbest : ids.argmax ids.count with
  | none =>
    obtain rfl := List.argmax_eq_none.mp hbest
    exact .inr ⟨by simp,rfl⟩
  | some best =>
    by_cases htwo : 2 ≤ ids.count best
    · refine .inl ⟨best,List.argmax_mem hbest,htwo,?_⟩
      rw [Option.filter_some,if_pos (decide_eq_true htwo)]
    · refine .inr ⟨fun id => ?_,by rw [Option.filter_some,if_neg (by simpa using htwo)]⟩
      by_cases hid : id ∈ ids
      · have hle : ids.count id ≤ ids.count best := List.le_of_mem_argmax hid hbest
        omega
      · rw [List.count_eq_zero.mpr hid]
        omega

theorem bySurface_tier (identity : ConsumerIdentity) (fresh : String) (ids : List Uuid) :
    (identity.bySurface fresh ids).tier ≠ 1 := by
  rcases bySurface_cases identity fresh ids with ⟨best,-,-,hresult⟩ | ⟨-,hresult⟩
  all_goals
    rw [hresult]
    simp

variable (printable identity assets) in
/-- The queries for the stable id find one asset under the first field where they find any, which
has it, or they find none and none has it; and then, if no asset has the host name, no signal is
read off two assets, and an asset that two of them are read off has two of them. -/
def ConsumerIdentity.Resolvable : Prop :=
  (∃ a, identity.stableReading printable assets = [a] ∧ identity.StableMatch a) ∨
  (identity.stableReading printable assets = [] ∧ ∀ a ∈ assets, ¬identity.StableMatch a) ∧
    ((∃ a ∈ assets, identity.HostMatch a) ∨
      (∀ signal ∈ identity.signals,
          (fieldAssets printable assets signal.1 signal.2).length ≤ 1) ∧
        ((∃ a ∈ assets, 2 ≤ identity.readCount printable a ∧ 2 ≤ identity.signalCount a) ∨
          ∀ a ∈ assets, identity.readCount printable a < 2 ∧ identity.signalCount a < 2))

theorem mem_hosts : a ∈ (presentText identity.hostname).elim [] (hostAssets assets) ↔
    a ∈ assets ∧ identity.HostMatch a := by
  rw [ConsumerIdentity.HostMatch]
  cases presentText identity.hostname with
  | none => simp
  | some hostname => simp [hostAssets]

theorem bestMatch_stable (hkey : (assets.map Asset.id).Nodup) (ha : a ∈ assets) :
    identity.BestMatch assets ⟨some a.id,1,99,none⟩ ↔ identity.StableMatch a := by
  constructor
  · rintro (⟨-,b,hb,hid,hmatch⟩ | ⟨-,⟨htier,-⟩ | ⟨-,⟨htier,-⟩ | ⟨-,htier,-⟩⟩⟩)
    · rwa [Orm.eq_of_key hkey ha hb (Option.some.inj hid)]
    all_goals cases htier
  · exact fun hmatch => .inl ⟨rfl,a,ha,rfl,hmatch⟩

theorem bestMatch_host (ha : a ∈ assets) (hhost : identity.HostMatch a) (confidence : Nat) :
    identity.BestMatch assets ⟨some a.id,2,confidence,none⟩ ↔
      ∀ a ∈ assets, ¬identity.StableMatch a := by
  constructor
  · rintro (⟨htier,-⟩ | ⟨hstable,-⟩)
    · cases htier
    · exact hstable
  · exact fun hstable => .inr ⟨hstable,.inl ⟨rfl,a,ha,rfl,hhost⟩⟩

/-- The result of the last two tiers. -/
theorem bestMatch_bySurface (hkey : (assets.map Asset.id).Nodup) (fresh : String)
    (hstable : ∀ a ∈ assets, ¬identity.StableMatch a) (hhost : ∀ a ∈ assets, ¬identity.HostMatch a)
    (hsingle : ∀ signal ∈ identity.signals,
      (fieldAssets printable assets signal.1 signal.2).length ≤ 1) :
    identity.BestMatch assets (identity.bySurface fresh (identity.readIds printable assets)) ↔
      ((∃ a ∈ assets, 2 ≤ identity.readCount printable a ∧ 2 ≤ identity.signalCount a) ∨
        ∀ a ∈ assets, identity.readCount printable a < 2 ∧ identity.signalCount a < 2) := by
  rcases bySurface_cases identity fresh (identity.readIds printable assets) with
    ⟨best,hbest,htwo,hresult⟩ | ⟨hfew,hresult⟩
  · obtain ⟨a,ha,rfl⟩ := mem_readIds hbest
    rw [count_readIds hkey ha] at htwo
    rw [hresult]
    constructor
    · rintro (⟨htier,-⟩ | ⟨-,⟨htier,-⟩ | ⟨-,⟨-,b,hb,hid,hcount⟩ | ⟨-,htier,-⟩⟩⟩)
      · cases htier
      · cases htier
      · rw [Orm.eq_of_key hkey hb ha (Option.some.inj hid).symm] at hcount
        exact .inl ⟨a,ha,htwo,hcount⟩
      · cases htier
    · rintro (⟨b,hb,hread,hcount⟩ | hnone)
      · rw [← count_readIds hkey hb] at hread
        rw [← count_readIds hkey ha] at htwo
        have hsame := Orm.eq_of_key hkey hb ha
          (eq_of_count (length_readIds hsingle) hread htwo)
        rw [hsame] at hcount
        exact .inr ⟨hstable,.inr ⟨hhost,.inl ⟨rfl,a,ha,rfl,hcount⟩⟩⟩
      · exact absurd (hnone a ha).1 (Nat.not_lt_of_le htwo)
  · rw [hresult]
    have hread : ∀ a ∈ assets, identity.readCount printable a < 2 := fun a ha => by
      rw [← count_readIds hkey ha]
      exact hfew a.id
    constructor
    · rintro (⟨htier,-⟩ | ⟨-,⟨htier,-⟩ | ⟨-,⟨htier,-⟩ | ⟨hcount,-⟩⟩⟩)
      · cases htier
      · cases htier
      · cases htier
      · exact .inr fun a ha => ⟨hread a ha,hcount a ha⟩
    · rintro (⟨a,ha,htwo,-⟩ | hnone)
      · exact absurd (hread a ha) (Nat.not_lt_of_le htwo)
      · exact .inr ⟨hstable,.inr ⟨hhost,.inr ⟨fun a ha => (hnone a ha).2,rfl,rfl⟩⟩⟩

section Stages
variable {inventory : List Asset} {organizationId : Uuid} {fresh : String}

theorem resolve_eq (hassets : (inventory.filter fun a => a.organizationId = organizationId) = assets) :
    resolveConsumerIdentity printable inventory organizationId identity fresh =
      (Orm.oneOrNone (.other "MultipleResultsFound") (identity.stableReading printable assets)) >>=
        fun stable => match stable with
          | some a => .ok ⟨some a.id,1,99,none⟩
          | none =>
            match (presentText identity.hostname).elim [] (hostAssets assets) with
            | [a] => .ok ⟨some a.id,2,85,none⟩
            | a :: _ :: _ => .ok ⟨some a.id,2,50,none⟩
            | [] => (signalAssets printable assets identity.signals) >>= fun candidates =>
              .ok (identity.bySurface fresh (candidates.map Asset.id)) := by
  rw [resolveConsumerIdentity,hassets,ConsumerIdentity.stableReading]
  cases presentText identity.stableId with
  | none => rfl
  | some stableId =>
    rw [Option.elim_some,← stableAsset_eq]
    rfl

/-- The answer is a result of the best tier. -/
def Resolves (identity : ConsumerIdentity) (assets : List Asset)
    (answer : Except Exc IdentityResolutionResult) : Prop :=
  ∃ r, answer = .ok r ∧ identity.BestMatch assets r

theorem resolves_iff_resolvable (hkey : (assets.map Asset.id).Nodup)
    (hassets : (inventory.filter fun a => a.organizationId = organizationId) = assets) :
    Resolves identity assets
        (resolveConsumerIdentity printable inventory organizationId identity fresh) ↔
      identity.Resolvable printable assets := by
  rw [resolve_eq hassets,ConsumerIdentity.Resolvable]
  match hreading : identity.stableReading printable assets with
  | [a] =>
    have ha : a ∈ assets := (mem_stableReading (hreading ▸ List.mem_singleton_self a)).1
    constructor
    · rintro ⟨r,hr,hbest⟩
      obtain rfl := Except.ok.inj hr
      exact .inl ⟨a,rfl,(bestMatch_stable hkey ha).mp hbest⟩
    · rintro (⟨b,hb,hmatch⟩ | ⟨⟨hnil,-⟩,-⟩)
      · obtain rfl : a = b := by simpa using hb
        exact ⟨_,rfl,(bestMatch_stable hkey ha).mpr hmatch⟩
      · cases hnil
  | _ :: _ :: _ =>
    constructor
    · rintro ⟨r,hr,-⟩
      cases hr
    · rintro (⟨b,hb,-⟩ | ⟨⟨hnil,-⟩,-⟩)
      · simp at hb
      · cases hnil
  | [] =>
    rw [Orm.oneOrNone,ok_bind]
    dsimp only
    have hhosts := fun a => @mem_hosts identity assets a
    match hfound : (presentText identity.hostname).elim [] (hostAssets assets) with
    | a :: others =>
      obtain ⟨ha,hhost⟩ := (hhosts a).mp (hfound ▸ List.mem_cons_self)
      have hresult : ∃ confidence, (match a :: others with
          | [a] => .ok ⟨some a.id,2,85,none⟩
          | a :: _ :: _ => .ok ⟨some a.id,2,50,none⟩
          | [] => (signalAssets printable assets identity.signals) >>= fun candidates =>
            .ok (identity.bySurface fresh (candidates.map Asset.id))) =
          (.ok ⟨some a.id,2,confidence,none⟩ : Except Exc IdentityResolutionResult) := by
        cases others with
        | nil => exact ⟨85,rfl⟩
        | cons b others => exact ⟨50,rfl⟩
      obtain ⟨confidence,hresult⟩ := hresult
      rw [hresult]
      constructor
      · rintro ⟨r,hr,hbest⟩
        obtain rfl := Except.ok.inj hr
        exact .inr ⟨⟨rfl,(bestMatch_host ha hhost confidence).mp hbest⟩,.inl ⟨a,ha,hhost⟩⟩
      · rintro (⟨b,hb,-⟩ | ⟨⟨-,hstable⟩,-⟩)
        · cases hb
        · exact ⟨_,rfl,(bestMatch_host ha hhost confidence).mpr hstable⟩
    | [] =>
      have hhost : ∀ a ∈ assets, ¬identity.HostMatch a := fun a ha hmatch => by
        have hmem := (hhosts a).mpr ⟨ha,hmatch⟩
        rw [hfound] at hmem
        cases hmem
      constructor
      · rintro ⟨r,hr,hbest⟩
        obtain ⟨candidates,hcandidates,hr⟩ := bind_eq_ok.mp hr
        obtain rfl := Except.ok.inj hr
        obtain ⟨hsingle,rfl⟩ := signalAssets_eq_ok_iff.mp hcandidates
        have hstable : ∀ a ∈ assets, ¬identity.StableMatch a := by
          rcases hbest with ⟨htier,-⟩ | ⟨hstable,-⟩
          · exact absurd htier (bySurface_tier identity fresh _)
          · exact hstable
        exact .inr ⟨⟨rfl,hstable⟩,.inr ⟨hsingle,
          (bestMatch_bySurface hkey fresh hstable hhost hsingle).mp hbest⟩⟩
      · rintro (⟨b,hb,-⟩ | ⟨⟨-,hstable⟩,⟨a,ha,hmatch⟩ | ⟨hsingle,hcounts⟩⟩)
        · cases hb
        · exact absurd hmatch (hhost a ha)
        · exact ⟨_,bind_eq_ok.mpr ⟨_,signalAssets_eq_ok_iff.mpr ⟨hsingle,rfl⟩,rfl⟩,
            (bestMatch_bySurface hkey fresh hstable hhost hsingle).mpr hcounts⟩

end Stages

section Claims
variable {inventory : List Asset} {organizationId : Uuid} {fresh : String}

/-- A consumer is resolved to the best tier just when the queries find single assets, and right ones. -/
theorem consumer_resolved_iff (hkey : (inventory.map Asset.id).Nodup) :
    Resolves identity (inventory.filter fun a => a.organizationId = organizationId)
        (resolveConsumerIdentity printable inventory organizationId identity fresh) ↔
      identity.Resolvable printable
        (inventory.filter fun a => a.organizationId = organizationId) :=
  resolves_iff_resolvable (hkey.sublist (List.filter_sublist.map _)) rfl

def linuxServer (id mac : String) : Asset where
  id := id
  organizationId := "org"
  connectorId := none
  name := "server-" ++ id
  assetType := "server"
  environment := "prod"
  criticality := "low"
  metadata := .obj [("mac_address",.str mac),("os_type",.str "linux")]
  tags := []

def seenLinux (mac : String) : ConsumerIdentity :=
  ⟨none,none,[("mac_address",.str mac),("os_type",.str "linux")]⟩

/-- One server, found by two signals. -/
theorem consumer_resolved_iff_signals :
    Resolves (seenLinux "aa:bb") [linuxServer "1" "aa:bb"]
      (resolveConsumerIdentity (fun _ => true) [linuxServer "1" "aa:bb"] "org"
        (seenLinux "aa:bb") "0a1b2c3d") := by
  have hresolvable : (seenLinux "aa:bb").Resolvable (fun _ => true) [linuxServer "1" "aa:bb"] := by
    refine .inr ⟨⟨rfl,?_⟩,.inr ⟨?_,.inl ⟨linuxServer "1" "aa:bb",by simp,?_,?_⟩⟩⟩
    · rintro a - ⟨stableId,hid,-⟩
      cases hid
    · decide
    · decide
    · decide
  exact (@consumer_resolved_iff _ _ [linuxServer "1" "aa:bb"] "org" _ (by simp)).mpr hresolvable

/-- Two servers of one operating system: the query for it finds both. -/
theorem shared_signal_raises : ¬ ∀ (inventory : List Asset) (organizationId : Uuid)
    (identity : ConsumerIdentity) (fresh : String), (inventory.map Asset.id).Nodup →
    Resolves identity (inventory.filter fun a => a.organizationId = organizationId)
      (resolveConsumerIdentity (fun _ => true) inventory organizationId identity fresh) := by
  intro hall
  obtain ⟨r,hr,-⟩ := hall [linuxServer "1" "aa:bb",linuxServer "2" "cc:dd"] "org"
    (seenLinux "aa:bb") "0a1b2c3d" (by decide)
  have hraises : (resolveConsumerIdentity (fun _ => true)
      [linuxServer "1" "aa:bb",linuxServer "2" "cc:dd"] "org" (seenLinux "aa:bb")
      "0a1b2c3d").isOk = false := by decide
  rw [hr] at hraises
  cases hraises

end Claims

end Matching

end Nexplane
