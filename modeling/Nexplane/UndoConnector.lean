import Nexplane.PartialRollback

set_option autoImplicit false

/-! Which connector the undo of a step runs with, against the one that its action ran with. The
connectors may have changed in between. -/

namespace Nexplane
open PyValue

variable {ω : Type}

/-- The connector that the plan locks a step to. -/
def lockedId (step : PlanStep) : Option Uuid :=
  (truthyText step.connectorId).bind fun text => (parseUuid text).toOption

/-- One of the connectors is the one that the plan locks the step to. -/
def LockHeld (connectors : List Connector) (step : PlanStep) : Prop :=
  ∃ c ∈ connectors, lockedId step = some c.id

/-- The newest connector of a known type in the organization. -/
def newestOfType (env : Env ω) (connectors : List Connector) (organizationId : Uuid)
    (connectorType : String) : Option Connector := do
  guard (connectorType ≠ "" ∧ connectorType ≠ "unknown" ∧ env.isConnectorType connectorType)
  connectors.reverse.find? fun c =>
    c.organizationId = organizationId && c.connectorType = connectorType

/-- A step has run in the state `s` with the connector `used` and left the record `r`. -/
structure StepUses (env : Env ω) (cr : ChangeRequest) (connectors : List Connector)
    (carried : Dict) (step : PlanStep) (s : Site ω) (used : Option Uuid) (r : StepRecord) :
    Prop where
  connector : ∃ c, stepConnector env cr connectors s.assetConnectors step = .ok c ∧
    c.map Connector.id = used
  ran : ∃ s', runStep env cr connectors carried step s = (.ok r,s')

/-- The connector that `_executor_fallback` loads for the recorded steps. -/
def executorConnector (env : Env ω) (cr : ChangeRequest) (connectors : List Connector)
    (rs : List StepRecord) : Except Exc (Option Connector) := do
  let connectorType ← firstRecorded "connector_type" (rs.map StepRecord.toJson)
  let connectorId ← firstRecorded "connector_id" (rs.map StepRecord.toJson)
  recordedConnector env cr connectors connectorId connectorType

/-- The undo of a step runs with the connector of its action, or fails: the undo that the plan
declares, and the rollback of the executor module, which is given the result of step 1. -/
structure KeepsConnector (env : Env ω) (cr : ChangeRequest) (connectors : List Connector)
    (rs : List StepRecord) (step : PlanStep) (used : Option Uuid) (r : StepRecord) : Prop where
  planned : ∀ action connectorType c, declaredUndo step = some (action,connectorType) →
    undoConnector env cr connectors step connectorType = .ok c → c.map Connector.id = used
  fallback : rs.find? (fun q => q.stepNumber = 1) = some r → ∀ c,
    executorConnector env cr connectors rs = .ok c → c.map Connector.id = used

def recordedId (rs : List StepRecord) : Option String :=
  rs.findSome? fun r => truthyText r.connectorId

def recordedType (rs : List StepRecord) : Option String :=
  rs.findSome? fun r => truthyText (some r.connectorType)

/-- Some connector of a type, if its credentials can be read. -/
def someOfType (env : Env ω) (cr : ChangeRequest) (connectors : List Connector)
    (connectorType : String) : Option Connector := do
  guard (env.isConnectorType connectorType)
  let connector ← connectors.find? fun c =>
    c.organizationId = cr.organizationId && c.connectorType = connectorType
  (attachCredentials env connector).toOption

/-- What the executor module's rollback is run with is `used`: the connector of the first record
that names one, as long as it exists and can be opened, or some connector of the recorded type. -/
def RecordedSame (env : Env ω) (cr : ChangeRequest) (connectors : List Connector)
    (rs : List StepRecord) (used : Option Uuid) : Prop :=
  match recordedId rs with
  | some text =>
    match parseUuid text with
    | .ok id => (∃ c ∈ connectors, c.id = id) →
      used = if (env.credentials id).isOk then some id else none
    | .error _ => used = none
  | none => used = ((recordedType rs).bind (someOfType env cr connectors)).map Connector.id

/-- The connector that is there for the undo is the one that the action ran with: the plan's
locked connector was there for the action too, or cannot be opened any more; without it, `used`
is the newest one of the rollback connector's type. -/
structure SameConnector (env : Env ω) (cr : ChangeRequest) (before connectors : List Connector)
    (rs : List StepRecord) (step : PlanStep) (used : Option Uuid) (r : StepRecord) : Prop where
  locked : (declaredUndo step).isSome → LockHeld connectors step →
    LockHeld before step ∨ ∃ id, lockedId step = some id ∧ (env.credentials id).isOk = false
  newest : ∀ action connectorType, declaredUndo step = some (action,connectorType) →
    ¬LockHeld connectors step →
      (newestOfType env connectors cr.organizationId connectorType).map Connector.id = used
  recorded : rs.find? (fun q => q.stepNumber = 1) = some r → RecordedSame env cr connectors rs used

section
variable {env : Env ω} {cr : ChangeRequest} {connectors before : List Connector}
  {step : PlanStep} {rs : List StepRecord} {used : Option Uuid} {r : StepRecord}

theorem attachCredentials_isOk (c : Connector) :
    (attachCredentials env c).isOk = (env.credentials c.id).isOk := by
  unfold attachCredentials
  cases env.credentials c.id <;> rfl

theorem toOption_attach_id (env : Env ω) (c : Connector) :
    (attachCredentials env c).toOption.map Connector.id =
      if (env.credentials c.id).isOk then some c.id else none := by
  rw [← attachCredentials_isOk]
  cases h : attachCredentials env c with
  | error e => rfl
  | ok d => simp [Except.toOption,Except.isOk,Except.toBool,attachCredentials_id h]

theorem fallbackConnector_id (organizationId : Uuid) (connectorType : String) :
    (fallbackConnector env connectors organizationId connectorType).map Connector.id =
      (newestOfType env connectors organizationId connectorType).map Connector.id := by
  unfold fallbackConnector newestOfType
  by_cases hg : connectorType ≠ "" ∧ connectorType ≠ "unknown" ∧ env.isConnectorType connectorType
  · simp only [guard,if_pos hg,pure_bind]
    cases hf : connectors.reverse.find? fun c =>
        c.organizationId = organizationId && c.connectorType = connectorType with
    | none => rfl
    | some c =>
      cases ha : attachCredentials env c with
      | error e => simp [ha]
      | ok d => simp [ha,attachCredentials_id ha]
  · simp only [guard,if_neg hg]
    rfl

theorem find_id_mem {id : Uuid} {c : Connector}
    (h : (connectors.find? fun c => c.id = id) = some c) : c ∈ connectors ∧ c.id = id := by
  have hid := List.find?_some h
  exact ⟨List.mem_of_find?_eq_some h,by simpa using hid⟩

theorem find_id_none {id : Uuid} :
    (connectors.find? fun c => c.id = id) = none ↔ ∀ c ∈ connectors, c.id ≠ id := by
  simp

theorem lockedConnector_unheld {locked : Option Connector}
    (h : lockedConnector env connectors step.connectorId = .ok locked)
    (hno : ¬LockHeld connectors step) : locked = none := by
  unfold lockedConnector at h
  cases ht : truthyText step.connectorId with
  | none =>
    rw [ht] at h
    exact (Except.ok.inj h).symm
  | some text =>
    rw [ht] at h
    obtain ⟨id,hid,h⟩ := Checks.bind_eq_ok.mp h
    have hlock : lockedId step = some id := by simp [lockedId,ht,hid,Except.toOption]
    cases hf : connectors.find? fun c => c.id = id with
    | none =>
      rw [hf] at h
      exact (Except.ok.inj h).symm
    | some c =>
      obtain ⟨hmem,hc⟩ := find_id_mem hf
      exact absurd ⟨c,hmem,by rw [hlock,hc]⟩ hno

/-- A plan's lock that a connector answers to is that connector, or cannot be opened. -/
theorem lockedConnector_held {id : Uuid} (hid : lockedId step = some id)
    (h : LockHeld connectors step) :
    (∃ c, lockedConnector env connectors step.connectorId = .ok (some c) ∧ c.id = id ∧
        (env.credentials id).isOk = true) ∨
      ∃ e, lockedConnector env connectors step.connectorId = .error e ∧
        (env.credentials id).isOk = false := by
  obtain ⟨c,hmem,hc⟩ := h
  cases ht : truthyText step.connectorId with
  | none => simp [lockedId,ht] at hid
  | some text =>
    have hparse : parseUuid text = .ok id := by
      cases hp : parseUuid text with
      | error e => simp [lockedId,ht,hp,Except.toOption] at hid
      | ok id' =>
        obtain rfl : id' = id := by simpa [lockedId,ht,hp,Except.toOption] using hid
        rfl
    have hfound : ∃ d, (connectors.find? fun c => c.id = id) = some d := by
      cases hf : connectors.find? fun c => c.id = id with
      | none =>
        obtain rfl : id = c.id := Option.some.inj (hid.symm.trans hc)
        exact absurd rfl (find_id_none.mp hf c hmem)
      | some d => exact ⟨d,rfl⟩
    obtain ⟨d,hd⟩ := hfound
    obtain ⟨_,hdid⟩ := find_id_mem hd
    have hopen : (attachCredentials env d).isOk = (env.credentials d.id).isOk :=
      attachCredentials_isOk d
    rw [hdid] at hopen
    unfold lockedConnector
    rw [ht]
    simp only [hparse,Checks.ok_bind,hd,Option.mapM_some]
    cases ha : attachCredentials env d with
    | error e =>
      rw [ha] at hopen
      exact Or.inr ⟨e,rfl,hopen.symm⟩
    | ok attached =>
      rw [ha] at hopen
      refine Or.inl ⟨attached,rfl,?_,hopen.symm⟩
      rw [attachCredentials_id ha,hdid]

theorem newestOfType_mem {organizationId : Uuid} {connectorType : String} {c : Connector}
    (h : newestOfType env connectors organizationId connectorType = some c) : c ∈ connectors := by
  unfold newestOfType at h
  obtain ⟨_,_,h⟩ := Option.bind_eq_some_iff.mp h
  exact List.mem_reverse.mp (List.mem_of_find?_eq_some h)

theorem fallbackConnector_mem {organizationId : Uuid} {connectorType : String} {c : Connector}
    (h : fallbackConnector env connectors organizationId connectorType = some c) :
    ∃ d ∈ connectors, d.id = c.id := by
  have hid : (newestOfType env connectors organizationId connectorType).map Connector.id =
      some c.id := by
    rw [← fallbackConnector_id,h]
    rfl
  obtain ⟨d,hd,hdc⟩ := Option.map_eq_some_iff.mp hid
  exact ⟨d,newestOfType_mem hd,hdc⟩

theorem assetScopedConnector_mem {links : List (Uuid × Uuid)} {organizationId : Uuid}
    {connectorType : Option String} {assetIds : List Uuid} {c : Connector}
    (h : assetScopedConnector env connectors links organizationId connectorType assetIds = some c) :
    ∃ d ∈ connectors, d.id = c.id := by
  unfold assetScopedConnector at h
  obtain ⟨_,_,h⟩ := Option.bind_eq_some_iff.mp h
  obtain ⟨_,_,h⟩ := Option.bind_eq_some_iff.mp h
  obtain ⟨_,_,h⟩ := Option.bind_eq_some_iff.mp h
  obtain ⟨_,_,h⟩ := Option.bind_eq_some_iff.mp h
  obtain ⟨d,hd,h⟩ := Option.bind_eq_some_iff.mp h
  refine ⟨d,List.mem_of_find?_eq_some hd,?_⟩
  cases ha : attachCredentials env d with
  | error e => simp [ha,Except.toOption] at h
  | ok a =>
    obtain rfl : a = c := by simpa [ha,Except.toOption] using h
    exact (attachCredentials_id ha).symm

/-- An action runs with the connector that the plan locks its step to, if there is one. -/
theorem StepUses.of_held {carried : Dict} {s : Site ω} {id : Uuid}
    (h : StepUses env cr before carried step s used r) (hid : lockedId step = some id)
    (hheld : LockHeld before step) : used = some id := by
  obtain ⟨c,hc,rfl⟩ := h.connector
  obtain ⟨locked,hl,hc⟩ := Checks.bind_eq_ok.mp hc
  obtain rfl := Except.ok.inj hc
  obtain ⟨d,hd,hdid,_⟩ | ⟨e,he,_⟩ := lockedConnector_held hid hheld
  · rw [hd] at hl
    obtain rfl := Except.ok.inj hl
    simp [hdid]
  · rw [he] at hl
    cases hl

/-- Otherwise it runs with some other connector that is there, if it runs with one. -/
theorem StepUses.of_unheld {carried : Dict} {s : Site ω} {id : Uuid}
    (h : StepUses env cr before carried step s used r) (hid : lockedId step = some id)
    (hno : ¬LockHeld before step) : used ≠ some id := by
  obtain ⟨c,hc,rfl⟩ := h.connector
  obtain ⟨locked,hl,hc⟩ := Checks.bind_eq_ok.mp hc
  obtain rfl := Except.ok.inj hc
  rw [lockedConnector_unheld hl hno,Option.none_or]
  intro hused
  obtain ⟨c,hc,hcid⟩ := Option.map_eq_some_iff.mp hused
  have hmem : ∃ d ∈ before, d.id = c.id := by
    cases ha : assetScopedConnector env before s.assetConnectors cr.organizationId
        step.connectorType cr.targetAssetIds with
    | none =>
      rw [ha,Option.none_or] at hc
      exact fallbackConnector_mem hc
    | some a =>
      rw [ha,Option.some_or] at hc
      obtain rfl := Option.some.inj hc
      exact assetScopedConnector_mem ha
  obtain ⟨d,hd,hdid⟩ := hmem
  exact hno ⟨d,hd,by rw [hid,hdid,hcid]⟩

end

section
variable {env env' : Env ω} {cr cr' : ChangeRequest} {connectors before : List Connector}
  {step : PlanStep} {carried : Dict} {s : Site ω} {rs : List StepRecord} {used : Option Uuid}
  {r : StepRecord} {connectorType : String}

theorem undoConnector_held (h : StepUses env cr before carried step s used r)
    (hheld : LockHeld connectors step) :
    (∀ c, undoConnector env' cr' connectors step connectorType = .ok c →
      c.map Connector.id = used) ↔
      LockHeld before step ∨
        ∃ id, lockedId step = some id ∧ (env'.credentials id).isOk = false := by
  obtain ⟨d,hd,hid⟩ := id hheld
  have hlocked : (∃ c, lockedConnector env' connectors step.connectorId = .ok (some c) ∧
      c.id = d.id ∧ (env'.credentials d.id).isOk = true) ∨
      ∃ e, lockedConnector env' connectors step.connectorId = .error e ∧
        (env'.credentials d.id).isOk = false := lockedConnector_held hid hheld
  rcases hlocked with ⟨c,hc,hcid,hopen⟩ | ⟨e,he,hshut⟩
  · have hundo : undoConnector env' cr' connectors step connectorType = .ok (some c) := by
      rw [undoConnector,hc]
      rfl
    rw [hundo]
    constructor
    · intro hall
      have hused : some d.id = used := by
        rw [← hall (some c) rfl,Option.map_some,hcid]
      by_contra hno
      exact h.of_unheld hid (fun hb => hno (Or.inl hb)) hused.symm
    · rintro (hb | ⟨id,hid',hshut⟩) c' hc'
      · obtain rfl := Except.ok.inj hc'
        rw [h.of_held hid hb,Option.map_some,hcid]
      · obtain rfl := Option.some.inj (hid.symm.trans hid')
        rw [hopen] at hshut
        cases hshut
  · have hundo : undoConnector env' cr' connectors step connectorType = .error e := by
      rw [undoConnector,he]
      rfl
    rw [hundo]
    exact iff_of_true (fun c hc => by cases hc) (Or.inr ⟨d.id,hid,hshut⟩)

/-- The undo of a step without a lock that is held at the rollback: the lock was well formed when
the action ran. -/
theorem undoConnector_unheld (env' : Env ω) (cr' : ChangeRequest) (connectorType : String)
    (h : StepUses env cr before carried step s used r)
    (hno : ¬LockHeld connectors step) :
    ∃ c, undoConnector env' cr' connectors step connectorType = .ok c ∧ c.map Connector.id =
      (newestOfType env' connectors cr'.organizationId connectorType).map Connector.id := by
  have hlocked : lockedConnector env' connectors step.connectorId = .ok none := by
    cases hl : lockedConnector env' connectors step.connectorId with
    | ok locked => rw [lockedConnector_unheld hl hno]
    | error e =>
      obtain ⟨c,hc,_⟩ := h.connector
      obtain ⟨locked,hf,_⟩ := Checks.bind_eq_ok.mp hc
      unfold lockedConnector at hl hf
      cases ht : truthyText step.connectorId with
      | none => simp [ht] at hl
      | some text =>
        rw [ht] at hl hf
        obtain ⟨id,hid,_⟩ := Checks.bind_eq_ok.mp hf
        have hlock : lockedId step = some id := by simp [lockedId,ht,hid,Except.toOption]
        have hnone : (connectors.find? fun c => c.id = id) = none :=
          find_id_none.mpr fun c hc he => hno ⟨c,hc,by rw [hlock,he]⟩
        simp [hid,Checks.ok_bind,hnone,Checks.pure_def] at hl
  refine ⟨fallbackConnector env' connectors cr'.organizationId connectorType,?_,
    fallbackConnector_id _ _⟩
  rw [undoConnector,hlocked]
  rfl

theorem firstRecorded_text {key : String} (field : StepRecord → Option String)
    (hkey : ∀ q : StepRecord, Json.get q.toJson key .null = .ok (textOrNull (field q))) :
    firstRecorded key (rs.map StepRecord.toJson) =
      .ok ((rs.findSome? fun q => truthyText (field q)).map .str) := by
  induction rs with
  | nil => rfl
  | cons q rs ih =>
    rw [List.map_cons,firstRecorded,hkey q,Checks.ok_bind,ih]
    cases hf : field q with
    | none => simp [textOrNull,Json.truthy,truthyText,hf]
    | some text =>
      by_cases ht : text = ""
      · simp [textOrNull,Json.truthy,truthyText,hf,ht]
      · simp [textOrNull,Json.truthy,truthyText,hf,ht,Checks.pure_def]

theorem executorConnector_eq :
    executorConnector env' cr' connectors rs =
      recordedConnector env' cr' connectors ((recordedId rs).map .str)
        ((recordedType rs).map .str) := by
  have htype : firstRecorded "connector_type" (rs.map StepRecord.toJson) =
      .ok ((recordedType rs).map .str) :=
    firstRecorded_text (fun q => some q.connectorType) fun q => rfl
  have hid : firstRecorded "connector_id" (rs.map StepRecord.toJson) =
      .ok ((recordedId rs).map .str) := firstRecorded_text StepRecord.connectorId fun q => rfl
  rw [executorConnector,htype,hid]
  rfl

theorem executorConnector_iff :
    (∀ c, executorConnector env' cr' connectors rs = .ok c → c.map Connector.id = used) ↔
      RecordedSame env' cr' connectors rs used := by
  rw [executorConnector_eq]
  unfold RecordedSame
  cases hr : recordedId rs with
  | none =>
    have hload : recordedConnector env' cr' connectors none ((recordedType rs).map .str) =
        .ok ((recordedType rs).bind (someOfType env' cr' connectors)) := by
      cases recordedType rs <;> rfl
    rw [Option.map_none,hload]
    constructor
    · intro hall
      exact (hall _ rfl).symm
    · rintro rfl c hc
      obtain rfl := Except.ok.inj hc
      rfl
  | some text =>
    cases hp : parseUuid text with
    | error e =>
      have hload : recordedConnector env' cr' connectors (some (.str text))
          ((recordedType rs).map .str) = .ok none := by
        simp only [recordedConnector,Json.textOf,hp]
      simp only [Option.map_some,hload,hp]
      constructor
      · intro hall
        exact (hall none rfl).symm
      · intro hused c hc
        obtain rfl := Except.ok.inj hc
        exact hused.symm
    | ok id =>
      cases hf : connectors.find? fun c => c.id = id with
      | none =>
        have hload : ∃ e, recordedConnector env' cr' connectors (some (.str text))
            ((recordedType rs).map .str) = .error e := by
          simp only [recordedConnector,Json.textOf,hp,hf]
          exact ⟨_,rfl⟩
        obtain ⟨e,hload⟩ := hload
        simp only [Option.map_some,hload,hp]
        refine iff_of_true (fun c hc => by cases hc) ?_
        rintro ⟨c,hc,hcid⟩
        exact absurd hcid (find_id_none.mp hf c hc)
      | some d =>
        obtain ⟨hmem,hdid⟩ := find_id_mem hf
        have hload : recordedConnector env' cr' connectors (some (.str text))
            ((recordedType rs).map .str) = .ok (attachCredentials env' d).toOption := by
          simp only [recordedConnector,Json.textOf,hp,hf]
        have hids := toOption_attach_id env' d
        rw [hdid] at hids
        simp only [Option.map_some,hload,hp]
        constructor
        · intro hall _
          rw [← hall _ rfl,hids]
        · intro hused c hc
          obtain rfl := Except.ok.inj hc
          rw [hused ⟨d,hmem,hdid⟩,hids]

end

/-- The undo of a step runs with the connector of its action exactly when that connector is the
one there for it: locked in the plan at both times, recorded first among the step results, or
still the newest of the type. -/
theorem undo_connector_iff {env env' : Env ω} {cr cr' : ChangeRequest}
    {before connectors : List Connector} {carried : Dict} {step : PlanStep} {s : Site ω}
    {used : Option Uuid} {r : StepRecord} (h : StepUses env cr before carried step s used r)
    (rs : List StepRecord) :
    KeepsConnector env' cr' connectors rs step used r ↔
      SameConnector env' cr' before connectors rs step used r := by
  constructor
  · intro hk
    refine ⟨?_,?_,fun hfirst => executorConnector_iff.mp (hk.fallback hfirst)⟩
    · intro hdecl hheld
      obtain ⟨undo,hundo⟩ := Option.isSome_iff_exists.mp hdecl
      exact (undoConnector_held h hheld).mp fun c => hk.planned undo.1 undo.2 c hundo
    · intro action connectorType hundo hno
      obtain ⟨c,hc,hid⟩ := undoConnector_unheld env' cr' connectorType h hno
      rw [← hid,hk.planned action connectorType c hundo hc]
  · intro hs
    refine ⟨?_,fun hfirst => executorConnector_iff.mpr (hs.recorded hfirst)⟩
    intro action connectorType c hundo hc
    by_cases hheld : LockHeld connectors step
    · have hdecl : (declaredUndo step).isSome := by simp [hundo]
      exact (undoConnector_held h hheld).mpr (hs.locked hdecl hheld) c hc
    · obtain ⟨d,hd,hid⟩ := undoConnector_unheld env' cr' connectorType h hheld
      obtain rfl := Except.ok.inj (hc.symm.trans hd)
      rw [hid,hs.newest action connectorType hundo hheld]

def sampleConnector (id : Uuid) : Connector where
  id := id
  organizationId := "org-1"
  connectorType := "aws"

/-- Two accounts of the organization. -/
def sampleAccount : Connector := sampleConnector "12345678-1234-5678-1234-567812345678"

def otherAccount : Connector := sampleConnector "87654321-4321-8765-4321-876543218765"

/-- A step that creates a volume, locked to a connector or not. -/
def sampleVolumeStep (connectorId : Option String) : PlanStep :=
  { sampleStep 1 "create_volume" (some "delete_volume") with connectorId := connectorId }

/-- The step is locked to an account, and another one is added before the undo. -/
theorem sample_keeps_connector :
    KeepsConnector (volumeModules []) (sampleVolumes none).cr [sampleAccount,otherAccount]
        [sampleCreated []] (sampleVolumeStep (some sampleAccount.id)) (some sampleAccount.id)
        (sampleCreated []) ↔
      SameConnector (volumeModules []) (sampleVolumes none).cr [sampleAccount]
        [sampleAccount,otherAccount] [sampleCreated []] (sampleVolumeStep (some sampleAccount.id))
        (some sampleAccount.id) (sampleCreated []) := by
  have h : StepUses (volumeModules []) (sampleVolumes none).cr [sampleAccount] []
      (sampleVolumeStep (some sampleAccount.id)) (sampleVolumes none).site (some sampleAccount.id)
      (sampleCreated []) := ⟨⟨_,rfl,rfl⟩,_,rfl⟩
  exact undo_connector_iff h [sampleCreated []]

/-- Without a lock, the volume created in one account is deleted in the one added since. -/
theorem undo_in_other_account :
    StepUses (volumeModules []) (sampleVolumes none).cr [sampleAccount] [] (sampleVolumeStep none)
        (sampleVolumes none).site (some sampleAccount.id) (sampleCreated []) ∧
      undoConnector (volumeModules []) (sampleVolumes none).cr [sampleAccount,otherAccount]
        (sampleVolumeStep none) "aws" = .ok (some otherAccount) ∧
      ¬KeepsConnector (volumeModules []) (sampleVolumes none).cr [sampleAccount,otherAccount]
        [sampleCreated []] (sampleVolumeStep none) (some sampleAccount.id) (sampleCreated []) := by
  have hundo : undoConnector (volumeModules []) (sampleVolumes none).cr
      [sampleAccount,otherAccount] (sampleVolumeStep none) "aws" = .ok (some otherAccount) := rfl
  refine ⟨⟨⟨_,rfl,rfl⟩,_,rfl⟩,hundo,fun h => ?_⟩
  have hid := h.planned "delete_volume" "aws" (some otherAccount) rfl hundo
  revert hid
  decide

end Nexplane
