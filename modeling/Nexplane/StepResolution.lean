import Nexplane.PlanningEngine
import Mathlib.Data.List.ReduceOption

set_option autoImplicit false

/-! The action catalog as it is loaded from its files, and what the option that a step is given has
to do with the options in these files and with the connectors of the targets. -/

namespace Nexplane
open PyValue Checks

/-- A file of the action catalog. -/
structure CatalogFile where
  connectorType : String
  actions : List Dict

/-- The gate of `_load`: a commercial action that changes anything must be smoke verified. -/
def admitted (action : Dict) : Bool :=
  !((Dict.getD action "domain" .null).isStr "commercial" &&
    !(Dict.getD action "read_only" (.bool true)).truthy &&
    !(Dict.getD action "smoke_verified" (.bool false)).truthy)

def asTier : Json → Except Exc Int
  | .int n => .ok n
  | _ => .error .typeError

/-- The entry of `_generic_index` that an action makes. -/
def indexEntry (connectorType : String) (action : Dict) :
    Except Exc (Option (String × ActionOption)) := do
  let actionId ← Json.index (.obj action) "action_id" >>= asText
  let tier ← asTier (Dict.getD action "execution_tier" (.int 99))
  let generic := Dict.getD action "generic_action" .null
  if generic.truthy then do
    let name ← asText generic
    pure (some (name,⟨connectorType,actionId,action,tier⟩))
  else pure none

def loadFile (file : CatalogFile) : Except Exc (List (String × ActionOption)) := do
  let entries ← (file.actions.filter admitted).mapM (indexEntry file.connectorType)
  pure entries.reduceOption

/-- The files of the core catalog and behind them those of the commercial one, each in the order of
their names. -/
def loadCatalog (files : List CatalogFile) (getExecutor : String → String → Except Exc ExecutorFacts) :
    Except Exc Catalog := do
  let entries ← files.mapM loadFile
  pure {
    actions := fun connectorType =>
      (files.filter fun file => file.connectorType = connectorType).flatMap fun file =>
        file.actions.filter admitted
    genericIndex := fun generic =>
      ((entries.flatten.filter fun entry => entry.1 = generic).map Prod.snd).insertionSort
        fun a b => a.executionTier ≤ b.executionTier
    getExecutor := getExecutor }

section Options

/-- The files offer the option for the action. -/
def Offers (files : List CatalogFile) (generic : String) (o : ActionOption) : Prop :=
  ∃ file ∈ files, ∃ action ∈ file.actions, admitted action = true ∧
    indexEntry file.connectorType action = .ok (some (generic,o))

/-- The option is for assets of a type that a target has. -/
def ForTargets (assets : List TargetAsset) (o : ActionOption) : Prop :=
  ∃ a ∈ assets, a.asset.assetType ∈
    (Dict.getD o.actionDef "applicable_asset_types" (.arr [])).strings

/-- An option for the targets, or any option where none is for them. -/
def Applicable (files : List CatalogFile) (generic : String) (assets : List TargetAsset)
    (o : ActionOption) : Prop :=
  Offers files generic o ∧
    (ForTargets assets o ∨ ∀ other, Offers files generic other → ¬ForTargets assets other)

/-- A target has a connector of the option's type. -/
def Attached (assets : List TargetAsset) (o : ActionOption) : Prop :=
  ∃ a ∈ assets, ∃ c ∈ a.connectors, c.connectorType = o.connectorType

/-- Of the offered options those of the locked type, else those with an attached connector, else
all. -/
def Admissible (offered : ActionOption → Prop) (desired : Dict) (assets : List TargetAsset)
    (o : ActionOption) : Prop :=
  let locked := Dict.getD desired "_locked_connector_type" .null
  offered o ∧
    if locked.truthy then locked.isStr o.connectorType = true
    else Attached assets o ∨ ∀ other, offered other → ¬Attached assets other

variable {files : List CatalogFile} {catalog : Catalog} {generic : String} {desired : Dict}
  {assets : List TargetAsset} {o : ActionOption}
  {getExecutor : String → String → Except Exc ExecutorFacts}

theorem mem_loadFile {file : CatalogFile} {entries : List (String × ActionOption)}
    (h : loadFile file = .ok entries) (entry : String × ActionOption) :
    entry ∈ entries ↔ ∃ action ∈ file.actions, admitted action = true ∧
      indexEntry file.connectorType action = .ok (some entry) := by
  obtain ⟨found,hfound,hentries⟩ := bind_eq_ok.mp h
  obtain rfl := pure_eq_ok.mp hentries
  simp [List.reduceOption,mem_mapM_iff hfound,and_assoc]

theorem mem_genericIndex (hload : loadCatalog files getExecutor = .ok catalog) :
    o ∈ catalog.genericIndex generic ↔ Offers files generic o := by
  obtain ⟨entries,hentries,hcatalog⟩ := bind_eq_ok.mp hload
  obtain rfl := pure_eq_ok.mp hcatalog
  rw [List.mem_insertionSort,Offers]
  constructor
  · intro ho
    obtain ⟨⟨name,found⟩,hfiltered,hfound⟩ := List.mem_map.mp ho
    obtain ⟨hentry,hname⟩ := List.mem_filter.mp hfiltered
    obtain ⟨rfl,rfl⟩ : name = generic ∧ found = o := ⟨by simpa using hname,hfound⟩
    obtain ⟨loaded,hloaded,hmem⟩ := List.mem_flatten.mp hentry
    obtain ⟨file,hfile,hread⟩ := mapM_mem hentries loaded hloaded
    exact ⟨file,hfile,(mem_loadFile hread _).mp hmem⟩
  · rintro ⟨file,hfile,hoffer⟩
    obtain ⟨loaded,hloaded,hread⟩ :=
      Lists.forall₂_mem_left (mapM_forall₂ hentries) file hfile
    refine List.mem_map.mpr ⟨(generic,o),List.mem_filter.mpr ⟨?_,by simp⟩,rfl⟩
    exact List.mem_flatten.mpr ⟨loaded,hloaded,(mem_loadFile hread _).mpr hoffer⟩

theorem isSome_connectorByType :
    (connectorByType assets o.connectorType).isSome = true ↔ Attached assets o := by
  simp [connectorByType,Attached]

/-- A filter that is not applied when it leaves nothing. -/
def narrow {α : Type} (p : α → Bool) (xs : List α) : List α :=
  match xs.filter p with
  | [] => xs
  | found => found

theorem mem_narrow {α : Type} {p : α → Bool} {xs : List α} {x : α} :
    x ∈ narrow p xs ↔ x ∈ xs ∧ (p x = true ∨ ∀ y ∈ xs, ¬p y = true) := by
  rw [narrow]
  cases hfilter : xs.filter p with
  | nil =>
    have hnone := List.filter_eq_nil_iff.mp hfilter
    exact ⟨fun hx => ⟨hx,.inr hnone⟩,And.left⟩
  | cons y ys =>
    have hy : y ∈ xs.filter p := hfilter ▸ List.mem_cons_self
    dsimp only
    rw [← hfilter,List.mem_filter]
    refine and_congr_right fun _ => ⟨.inl,fun h => h.resolve_right fun hnone => ?_⟩
    exact hnone y (List.mem_filter.mp hy).1 (List.mem_filter.mp hy).2

/-- `any(t in o.action_def.get("applicable_asset_types", []) for t in asset_types)`. -/
def forTargets (assets : List TargetAsset) (o : ActionOption) : Bool :=
  (assets.map fun a => a.asset.assetType).any
    (Dict.getD o.actionDef "applicable_asset_types" (.arr [])).strings.contains

theorem forTargets_iff : forTargets assets o = true ↔ ForTargets assets o := by
  simp [forTargets,ForTargets]

/-- The filters of a step, one behind the other. -/
theorem candidateOptions_eq : candidateOptions catalog generic desired assets =
    (if (Dict.getD desired "_locked_connector_type" .null).truthy then
      (narrow (forTargets assets) (catalog.genericIndex generic)).filter fun o =>
        (Dict.getD desired "_locked_connector_type" .null).isStr o.connectorType
    else narrow (fun o => (connectorByType assets o.connectorType).isSome)
      (narrow (forTargets assets) (catalog.genericIndex generic))).insertionSort
        fun a b => a.executionTier ≤ b.executionTier := by
  have hfor : catalog.getOptionsForAction generic
      (some (assets.map fun a => a.asset.assetType)) =
      (catalog.genericIndex generic).filter (forTargets assets) := rfl
  have hall : catalog.getOptionsForAction generic none = catalog.genericIndex generic := rfl
  simp only [candidateOptions,narrow,hfor,hall]
  cases (catalog.genericIndex generic).filter (forTargets assets) with
  | nil =>
    dsimp only
    cases List.filter (fun o => (connectorByType assets o.connectorType).isSome)
      (catalog.genericIndex generic) <;> rfl
  | cons o os =>
    dsimp only
    cases List.filter (fun o => (connectorByType assets o.connectorType).isSome) (o :: os) <;> rfl

theorem mem_narrow_forTargets (hload : loadCatalog files getExecutor = .ok catalog) :
    o ∈ narrow (forTargets assets) (catalog.genericIndex generic) ↔
      Applicable files generic assets o := by
  simp only [mem_narrow,mem_genericIndex hload,forTargets_iff,Applicable]

/-- The options of a step are the admissible ones of those for the targets. -/
theorem mem_candidateOptions (hload : loadCatalog files getExecutor = .ok catalog) :
    o ∈ candidateOptions catalog generic desired assets ↔
      Admissible (Applicable files generic assets) desired assets o := by
  rw [candidateOptions_eq,List.mem_insertionSort,Admissible]
  cases hlocked : (Dict.getD desired "_locked_connector_type" .null).truthy with
  | true =>
    simp only [if_true]
    rw [List.mem_filter,mem_narrow_forTargets hload]
  | false =>
    simp only [Bool.false_eq_true,if_false]
    rw [mem_narrow,mem_narrow_forTargets hload,isSome_connectorByType]
    simp only [mem_narrow_forTargets hload,isSome_connectorByType]

theorem candidateOptions_least {best : ActionOption} {others : List ActionOption}
    (h : candidateOptions catalog generic desired assets = best :: others) :
    ∀ o ∈ candidateOptions catalog generic desired assets,
      best.executionTier ≤ o.executionTier := by
  have hsorted : (candidateOptions catalog generic desired assets).Pairwise
      fun a b => a.executionTier ≤ b.executionTier :=
    List.pairwise_insertionSort _ _
  rw [h] at hsorted ⊢
  intro o ho
  rcases List.mem_cons.mp ho with rfl | ho
  · exact le_rfl
  · exact (List.pairwise_cons.mp hsorted).1 o ho

end Options

section Steps

/-- The step is for the option. -/
structure Chosen (step : Dict) (o : ActionOption) : Prop where
  connectorType : Dict.get? step "connector_type" = some (.str o.connectorType)
  actionId : Dict.get? step "action_id" = some (.str o.actionId)
  executionTier : Dict.get? step "execution_tier" = some (.int o.executionTier)

/-- No option is left for the step. -/
def Unresolvable (step : Dict) : Prop := Dict.get? step "connector_options" = some (.arr [])

/-- Where an option is admissible the step is for one of the lowest tier. -/
def TierOptimal (admissible : ActionOption → Prop) (step : Dict) : Prop :=
  (∃ o, admissible o) → ¬Unresolvable step ∧
    ∃ o, admissible o ∧ Chosen step o ∧
      ∀ other, admissible other → o.executionTier ≤ other.executionTier

/-- The connector of the step, when it is set, is one of the connectors and of the step's type. -/
def WellTyped (connectors : List Connector) (step : Dict) : Prop :=
  ∀ id, Dict.get? step "connector_id" = some id → id ≠ .null →
    ∃ c ∈ connectors, id = .str c.id ∧
      Dict.get? step "connector_type" = some (.str c.connectorType)

variable {planner : Planner} {files : List CatalogFile} {stepDef desired : Dict}
  {assets : List TargetAsset} {stepNumber : Nat} {step : Dict}

/-- The connector that is recorded for a step. -/
def stepConnectorId (desired : Dict) (assets : List TargetAsset) (best : ActionOption) : Json :=
  let lockedId := Dict.getD desired "_locked_connector_id" .null
  if lockedId.truthy then lockedId
  else (connectorByType assets best.connectorType).elim .null fun c => .str c.id

theorem resolveStep_cases (h : resolveStep planner stepDef desired assets stepNumber = .ok step) :
    ∃ generic, Dict.get? stepDef "generic_action" = some (.str generic) ∧
      ((candidateOptions planner.catalog generic desired assets = [] ∧ Unresolvable step ∧
          Dict.get? step "connector_id" = some .null) ∨
        ∃ best others, candidateOptions planner.catalog generic desired assets = best :: others ∧
          Chosen step best ∧ ¬Unresolvable step ∧
          Dict.get? step "connector_id" = some (stepConnectorId desired assets best)) := by
  obtain ⟨generic,hgeneric,_⟩ := resolveStep_tier planner stepDef desired assets h
  refine ⟨generic,hgeneric,?_⟩
  have hindex : (Json.index (.obj stepDef) "generic_action" >>= asText) = .ok generic := by
    rw [Json.index,hgeneric]
    rfl
  rw [resolveStep,hindex,Checks.ok_bind] at h
  cases hoptions : candidateOptions planner.catalog generic desired assets with
  | nil =>
    rw [hoptions] at h
    obtain ⟨parameters,_,h⟩ := bind_eq_ok.mp h
    obtain rfl := pure_eq_ok.mp h
    exact .inl ⟨rfl,rfl,rfl⟩
  | cons best others =>
    rw [hoptions] at h
    obtain ⟨warning,_,h⟩ := bind_eq_ok.mp h
    obtain ⟨parameters,_,h⟩ := bind_eq_ok.mp h
    obtain rfl := pure_eq_ok.mp h
    refine .inr ⟨best,others,rfl,⟨rfl,rfl,rfl⟩,fun hnone => ?_,rfl⟩
    have : (best :: others).map optionFields = [] := by
      simpa using Option.some.inj (show some (Json.arr _) = some (Json.arr []) from hnone)
    simp at this

theorem stepConnectorId_attached {best : ActionOption}
    (hlocked : (Dict.getD desired "_locked_connector_id" .null).truthy = false) {id : Json}
    (hid : stepConnectorId desired assets best = id) (hset : id ≠ .null) :
    ∃ c ∈ assets.flatMap TargetAsset.connectors, id = .str c.id ∧
      c.connectorType = best.connectorType := by
  simp only [stepConnectorId,hlocked,Bool.false_eq_true,if_false] at hid
  cases hfound : connectorByType assets best.connectorType with
  | none =>
    rw [hfound] at hid
    exact absurd hid.symm hset
  | some c =>
    rw [hfound] at hid
    have htype := List.find?_some hfound
    exact ⟨c,List.mem_of_find?_eq_some hfound,hid.symm,by simpa using htype⟩

/-- What a step says of the options that are admissible for it and of its connector. -/
structure Resolved (admissible : ActionOption → Prop) (desired : Dict) (assets : List TargetAsset)
    (step : Dict) : Prop where
  optimal : TierOptimal admissible step
  unresolvable : (∀ o, ¬admissible o) → Unresolvable step ∧
    Dict.get? step "connector_id" = some .null
  locked : (Dict.getD desired "_locked_connector_id" .null).truthy = true → ¬Unresolvable step →
    Dict.get? step "connector_id" = some (Dict.getD desired "_locked_connector_id" .null)
  attached : (Dict.getD desired "_locked_connector_id" .null).truthy = false →
    WellTyped (assets.flatMap TargetAsset.connectors) step

theorem resolved_of_candidates {admissible : ActionOption → Prop} {generic : String}
    (hmem : ∀ o, o ∈ candidateOptions planner.catalog generic desired assets ↔ admissible o)
    (hgeneric : Dict.get? stepDef "generic_action" = some (.str generic))
    (h : resolveStep planner stepDef desired assets stepNumber = .ok step) :
    Resolved admissible desired assets step := by
  obtain ⟨name,hname,hcases⟩ := resolveStep_cases h
  obtain rfl : name = generic := by simpa [hname] using hgeneric
  rcases hcases with ⟨hnone,hun,hid⟩ | ⟨best,others,hbest,hchosen,hun,hid⟩
  · have hno : ∀ o, ¬admissible o := fun o ho => by simpa [hnone] using (hmem o).mpr ho
    refine ⟨fun ⟨o,ho⟩ => (hno o ho).elim,fun _ => ⟨hun,hid⟩,fun _ h => (h hun).elim,?_⟩
    intro _ id hset hnull
    exact (hnull (Option.some.inj (hset.symm.trans hid))).elim
  · have hadmissible : admissible best := (hmem best).mp (hbest ▸ List.mem_cons_self)
    refine ⟨fun _ => ⟨hun,best,hadmissible,hchosen,fun other hother => ?_⟩,
      fun hno => (hno best hadmissible).elim,fun hlocked _ => ?_,fun hlocked id hset hnull => ?_⟩
    · exact candidateOptions_least hbest other ((hmem other).mpr hother)
    · rw [hid,stepConnectorId,if_pos hlocked]
    · obtain ⟨c,hc,hcid,htype⟩ :=
        stepConnectorId_attached hlocked (Option.some.inj (hid.symm.trans hset)) hnull
      exact ⟨c,hc,hcid,by rw [hchosen.connectorType,htype]⟩

/-- A step is for the safest of the admissible options, which are those for the targets, and names
the locked connector or an attached one of its type. -/
theorem resolveStep_resolved {getExecutor : String → String → Except Exc ExecutorFacts}
    {generic : String} (hload : loadCatalog files getExecutor = .ok planner.catalog)
    (hgeneric : Dict.get? stepDef "generic_action" = some (.str generic))
    (h : resolveStep planner stepDef desired assets stepNumber = .ok step) :
    Resolved (Admissible (Applicable files generic assets) desired assets) desired assets step :=
  resolved_of_candidates (fun _ => mem_candidateOptions hload) hgeneric h

end Steps

section Samples

def stopAction (actionId : String) (tier : Int) (assetType : String) : Dict :=
  [("action_id",.str actionId),("generic_action",.str "stop_server"),("execution_tier",.int tier),
    ("applicable_asset_types",.arr [.str assetType])]

def stopFiles : List CatalogFile :=
  [⟨"aws",[stopAction "ec2_stop" 2 "server"]⟩,⟨"gcp",[stopAction "gcp_stop" 1 "cloud_account"]⟩]

def stopOption (connectorType actionId : String) (tier : Int) (assetType : String) : ActionOption :=
  ⟨connectorType,actionId,stopAction actionId tier assetType,tier⟩

def awsConnector : Connector := { id := "5", organizationId := "org-1", connectorType := "aws" }

def gcpConnector : Connector := { id := "7", organizationId := "org-1", connectorType := "gcp" }

def stopTargets : List TargetAsset :=
  [⟨⟨"a1","org-1",none,"web-1","server","production","high",.obj [],[]⟩,[awsConnector]⟩]

def completeExecutor (_ _ : String) : Except Exc ExecutorFacts := .ok ⟨true,true,none,none⟩

def stopPlanner : Planner where
  catalog := (loadCatalog stopFiles completeExecutor).toOption.getD
    ⟨fun _ => [],fun _ => [],completeExecutor⟩
  changeTypeDef _ := .ok []
  parameters _ _ := []
  discover _ _ := []

def stopStep : Dict := [("generic_action",.str "stop_server")]

theorem stopPlanner_loaded : loadCatalog stopFiles completeExecutor = .ok stopPlanner.catalog := by
  rfl

/-- The step that a hint of the outcome leads to. -/
def stopResolved (hint : Dict) : Dict :=
  match resolveStep stopPlanner stopStep hint stopTargets 1 with
  | .ok step => step
  | .error _ => []

theorem stop_offers {generic : String} {o : ActionOption} :
    Offers stopFiles generic o ↔ o ∈ stopPlanner.catalog.genericIndex generic :=
  (mem_genericIndex stopPlanner_loaded).symm

theorem resolveStep_resolved_stop :
    resolveStep stopPlanner stopStep [] stopTargets 1 = .ok (stopResolved []) ∧
      Resolved (Admissible (Applicable stopFiles "stop_server" stopTargets) [] stopTargets) []
        stopTargets (stopResolved []) := by
  have h : resolveStep stopPlanner stopStep [] stopTargets 1 = .ok (stopResolved []) := by rfl
  exact ⟨h,resolveStep_resolved stopPlanner_loaded rfl h⟩

/-- The option of the locked type is for no type of the target, and the locked connector is of
another type than the step. -/
theorem locked_hints_not_met :
    (∃ o, Admissible (Offers stopFiles "stop_server")
        [("_locked_connector_type",.str "gcp")] stopTargets o) ∧
      resolveStep stopPlanner stopStep [("_locked_connector_type",.str "gcp")] stopTargets 1 =
        .ok (stopResolved [("_locked_connector_type",.str "gcp")]) ∧
      Unresolvable (stopResolved [("_locked_connector_type",.str "gcp")]) ∧
      resolveStep stopPlanner stopStep [("_locked_connector_id",.str "7")] stopTargets 1 =
        .ok (stopResolved [("_locked_connector_id",.str "7")]) ∧
      ¬WellTyped [awsConnector,gcpConnector]
        (stopResolved [("_locked_connector_id",.str "7")]) := by
  refine ⟨⟨stopOption "gcp" "gcp_stop" 1 "cloud_account",?_,?_⟩,rfl,rfl,rfl,fun htyped => ?_⟩
  · exact stop_offers.mpr (List.mem_cons_self)
  · have hlocked : (Dict.getD [("_locked_connector_type",.str "gcp")] "_locked_connector_type"
        .null).truthy = true := rfl
    rw [if_pos hlocked]
    rfl
  · obtain ⟨c,hc,hid,htype⟩ := htyped (.str "7") rfl (by simp)
    have hgcp : c = gcpConnector := by
      rcases List.mem_pair.mp hc with rfl | rfl
      · simp [awsConnector] at hid
      · rfl
    have haws : Dict.get? (stopResolved [("_locked_connector_id",.str "7")]) "connector_type" =
      some (.str "aws") := rfl
    rw [haws,hgcp] at htype
    simp [gcpConnector] at htype

end Samples

end Nexplane
