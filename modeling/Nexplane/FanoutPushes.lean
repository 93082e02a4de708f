import Nexplane.Lib.Runs
import Nexplane.PlanningEngine
import Nexplane.Resume

set_option autoImplicit false

/-! The new values that a credential fan-out pushes to the consumers it finds, in its first run and
in the ones that are resumed. -/

namespace Nexplane
open PyValue Runs

variable {ω α : Type}

/-- A call that leaves the record beside the state alone. -/
def unwatched (x : Py ω α) : Py (ω × List Json) α := Py.zoom Prod.fst (fun s o => (o,s.2)) x

def recordPush (params : Dict) : Py (ω × List Json) Unit :=
  Py.modify fun s => (s.1,s.2 ++ [params.getD "new_value" .null])

def ExecutorModule.unwatched (m : ExecutorModule ω) : ExecutorModule (ω × List Json) where
  execute := fun parameters assetIds connector =>
    Nexplane.unwatched (m.execute parameters assetIds connector)
  rollback := m.rollback.map fun rollback params result connector =>
    Nexplane.unwatched (rollback params result connector)

/-- The environment with a record of the new values that its update functions are called with. -/
def Env.recording (env : Env ω) : Env (ω × List Json) where
  getExecutor := fun connectorType actionId =>
    (env.getExecutor connectorType actionId).map ExecutorModule.unwatched
  isConnectorType := env.isConnectorType
  credentials := env.credentials
  newUuid := env.newUuid
  fanOutExecute := fun cr => unwatched (env.fanOutExecute cr)
  fanOutRollback := fun d result => unwatched (env.fanOutRollback d result)
  orchestrateScan := fun cr => unwatched (env.orchestrateScan cr)
  transferExecute := fun d ids => unwatched (env.transferExecute d ids)
  transferRollback := fun d result => unwatched (env.transferRollback d result)
  postHook := fun changeType ids result => unwatched (env.postHook changeType ids result)
  postCompletionDiscovery := fun cr => unwatched (env.postCompletionDiscovery cr)
  certificate :=
    { env.certificate with
      scanDependents := fun d id => unwatched (env.certificate.scanDependents d id)
      tlsProbePem := fun host port s => env.certificate.tlsProbePem host port s.1
      now := fun s => env.certificate.now s.1
      readNamespacedSecret := fun c name ns =>
        unwatched (env.certificate.readNamespacedSecret c name ns)
      patchNamespacedSecret := fun c name ns data =>
        unwatched (env.certificate.patchNamespacedSecret c name ns data)
      issueCertificate := fun c subject sans days =>
        unwatched (env.certificate.issueCertificate c subject sans days) }
  fanout :=
    { scanFunctions := fun scope => (env.fanout.scanFunctions scope).map fun scan proxy connector =>
        unwatched (scan proxy connector)
      updateSurface := fun surface => (env.fanout.updateSurface surface).map
        fun update params connector => do
          recordPush params
          unwatched (update params connector)
      rollbackSurface := fun surface => (env.fanout.rollbackSurface surface).map
        fun rollback params data connector => unwatched (rollback params data connector) }
  k8s :=
    { env.k8s with
      clusterVersion := fun creds => unwatched (env.k8s.clusterVersion creds)
      runPreflightPhase := fun creds current target d =>
        unwatched (env.k8s.runPreflightPhase creds current target d)
      runControlPlanePhase := fun provider name target creds c =>
        unwatched (env.k8s.runControlPlanePhase provider name target creds c)
      workerNodes := fun creds => unwatched (env.k8s.workerNodes creds)
      upgradeNodeRolling := fun creds nodes target d pool provider =>
        unwatched (env.k8s.upgradeNodeRolling creds nodes target d pool provider)
      runVerifyPhase := fun creds target d => unwatched (env.k8s.runVerifyPhase creds target d)
      uncordon := fun creds node => unwatched (env.k8s.uncordon creds node)
      now := fun s => env.k8s.now s.1 }

section Executions

variable (env : Env ω) (w : World ω)

def fanoutPrior : Dict := w.runResult (latestRun (fun r => r.status = .running) w.runs)

def fanoutPhase : Json := (fanoutPrior w).getD "phase" (.str "")

/-- The new value of the desired outcome. -/
def givenValue : Json := w.cr.desiredOutcome.getD "new_value" (.str "")

def startedFanout : FanoutProgress :=
  ⟨latestRun (fun r => r.status = .running) w.runs,
    (fanoutPrior w).getD "rotation_result" (.obj []),givenValue w,fanoutPhase w⟩

/-- The body of the `try` around the rotate action. -/
def rotateAction (connectorType : String) (connector : Option Connector) (rotateSpec : Json) :
    Py (World ω) (Json × Option Json) := do
  let actionId ← Py.ofExcept (rotateSpec.index "action_id" >>= asText)
  let params ← Py.ofExcept (rotateSpec.get "params" (.obj []) >>= Json.mapping)
  let result ← onSite (executeAction env connectorType actionId params [] connector)
  let newValue ← Py.ofExcept (result.get "new_value" .null)
  pure (result,if newValue.truthy then some newValue else none)

/-- There is a rotate action and the run is not past it. -/
def rotationDue : Bool :=
  (w.cr.desiredOutcome.getD "rotate" .null).truthy &&
    !((fanoutPhase w).isStr "scan" || (fanoutPhase w).isStr "update" ||
      (fanoutPhase w).isStr "verify")

/-- What the rotate action of an execution from here comes to, if it is called: the new value it
hands out, if any, or the exception it raises. -/
def rotation : Option (Except Exc (Option Json)) :=
  let rotateSpec := w.cr.desiredOutcome.getD "rotate" .null
  let found : Except Exc (String × Option Connector) := do
    let _ ← Json.iter ((fanoutPrior w).getD "consumers" (.arr []))
    let connectorType ← rotateSpec.index "connector_type" >>= asText
    let connector ← loadConnectorByType env w.connectors connectorType w.cr.organizationId
    pure (connectorType,connector)
  if rotationDue w then
    match found with
    | .ok (connectorType,connector) =>
      some ((rotateAction env connectorType connector rotateSpec w).1.map Prod.snd)
    | .error _ => none
  else none

/-- The value that an execution from here has at hand for the consumers. -/
def valueAtHand : Json :=
  match rotation env w with
  | some (.ok (some v)) => v
  | _ => givenValue w

/-- The consumers that an execution from here comes to in its update phase. -/
def arrivals : Except Exc (List Json) := do
  let consumers ← Json.iter ((fanoutPrior w).getD "consumers" (.arr []))
  let (progress,t) :=
    rotatePhase env w.cr w.connectors (startedFanout w)
      (w.cr.desiredOutcome.getD "rotate" .null) consumers w
  let progress ← progress
  if progress.phase.isStr "" || progress.phase.isStr "scan" then do
    let hits ← (runScans env w.connectors w.cr.organizationId
      (w.cr.desiredOutcome.getD "search_terms" (.arr []))
      (w.cr.desiredOutcome.getD "scan_scope" (.arr [])) t.site.outside).1
    hits.zipIdx.mapM fun entry => consumerOf w.cr.organizationId entry.2 entry.1
  else .ok (if progress.phase.isStr "update" then consumers else [])

end Executions

/-- The consumer has not been updated, and an update function and a connector are there for it. -/
structure Updatable (env : Env ω) (connectors : List Connector) (consumer : Json) : Prop where
  pending : hasField "update_result" consumer = .ok false
  function : ∃ surface, consumer.index "surface" = .ok surface ∧
    (env.fanout.updateSurface surface.textOf).isSome ∧
    ∃ organizationId connector, (consumer.index "_org_id" >>= asText) = .ok organizationId ∧
      loadConnectorByType env connectors (surfaceConnectorType surface.textOf) organizationId =
        .ok (some connector)

/-- An execution from here has nothing to update. -/
def NothingToUpdate (env : Env ω) (w : World ω) : Prop :=
  ∀ consumers, arrivals env w = .ok consumers →
    ∀ consumer ∈ consumers, ¬Updatable env w.connectors consumer

theorem rotateCredential_eq (env : Env ω) (cr : ChangeRequest) (connectors : List Connector)
    (rotateSpec : Json) :
    rotateCredential env cr connectors rotateSpec = (do
      let connectorType ← Py.ofExcept (rotateSpec.index "connector_type" >>= asText)
      let connector ← Py.ofExcept
        (loadConnectorByType env connectors connectorType cr.organizationId)
      Py.tryExcept (rotateAction env connectorType connector rotateSpec) fun e =>
        pure (.obj [("error",.str e.str),("success",.bool false)],none)) := rfl

section Record

variable {env : Env ω} {cr : ChangeRequest} {connectors : List Connector} {J : List Json → Prop}

theorem unwatched_keeps (x : Py ω α) : Py.Keeps (fun s => J s.2) (unwatched x) := fun _ h => h

theorem getExecutor_unwatched {connectorType actionId : String}
    {m : ExecutorModule (ω × List Json)}
    (h : (env.recording.getExecutor connectorType actionId).mapError asConnectorError = .ok m) :
    ∃ m' : ExecutorModule ω, m = m'.unwatched := by
  change Except.mapError asConnectorError
    ((env.getExecutor connectorType actionId).map ExecutorModule.unwatched) = .ok m at h
  cases hm : env.getExecutor connectorType actionId with
  | error e => simp [hm,Except.map,Except.mapError] at h
  | ok m' =>
    rw [hm] at h
    exact ⟨m',(Except.ok.inj h).symm⟩

theorem executeAction_recording (connectorType actionId : String) (parameters : Dict)
    (assetIds : List String) (connector : Option Connector) :
    Py.Keeps (fun s : Site (ω × List Json) => J s.outside.2)
      (executeAction env.recording connectorType actionId parameters assetIds connector) := by
  refine .bind (.modify fun _ h => h) fun _ => .bind (.ofExcept _) fun connector => ?_
  refine .ofExcept_bind fun m hm => ?_
  obtain ⟨m,rfl⟩ := getExecutor_unwatched hm
  refine .bind (fun s h => h) fun result => .bind (.ofExcept _) fun hasAsset => ?_
  split
  · refine .bind (.ofExcept _) fun _ => .bind (.ofExcept _) fun _ => .bind ?_ fun _ => .pure _
    exact upsertAutoAsset_keeps (fun _ _ _ h => h) _ _ _
  · exact .pure _

theorem runScans_recording (organizationId : Uuid) (searchTerms scanScope : Json) :
    Py.Keeps (fun s : ω × List Json => J s.2)
      (runScans env.recording connectors organizationId searchTerms scanScope) := by
  refine .bind (.ofExcept _) fun scopes => .bind (.each (fun scope => ?_) _) fun _ => .pure _
  refine .bind (.ofExcept _) fun text => .bind (.ofExcept _) fun connector => ?_
  cases connector with
  | none => exact .pure _
  | some c =>
    refine .bind (.each_mem fun scan hscan => ?_) fun _ => .pure _
    obtain ⟨scan,-,rfl⟩ := List.mem_map.mp hscan
    exact .tryExcept (.bind (unwatched_keeps _) fun _ => .ofExcept _) fun _ => .pure _

theorem renameKey_get? {params : Dict} {source target k : String} (hs : k ≠ source)
    (ht : k ≠ target) : (renameKey params source target).get? k = params.get? k := by
  unfold renameKey
  split
  · rw [Dict.get?_set_of_ne ht,Dict.get?_erase_of_ne hs]
  · rfl

theorem surfaceParams_newValue (surface : String) (params : Dict) :
    (surfaceParams surface params).get? "new_value" = params.get? "new_value" := by
  unfold surfaceParams
  split
  · rw [renameKey_get? (by decide) (by decide),renameKey_get? (by decide) (by decide)]
  · split
    · exact renameKey_get? (by decide) (by decide)
    · rfl

/-- The update of a consumer records the new value at most once, and not at all if there is no
update function or no connector for it. -/
theorem updateConsumer_recording {newValue consumer : Json}
    (hJ : ∀ vs, J vs → Updatable env.recording connectors consumer → J (vs ++ [newValue]))
    (hpending : hasField "update_result" consumer = .ok false) :
    Py.Keeps (fun s : ω × List Json => J s.2)
      (updateConsumer env.recording connectors newValue consumer) := by
  refine .ofExcept_bind fun surface hsurface => .bind (.ofExcept _) fun metadata => ?_
  refine .bind (.ofExcept _) fun oldValue => .ofExcept_bind fun organizationId horg => ?_
  refine .ofExcept_bind fun connector hconnector => ?_
  cases connector with
  | none => exact .pure _
  | some c =>
    refine .bind (.ofExcept _) fun base => ?_
    dsimp only
    split
    · exact .pure _
    · rename_i update hupdate
      obtain ⟨update,hfunction,rfl⟩ := Option.map_eq_some_iff.mp hupdate
      refine .tryExcept (.bind ?_ fun _ => unwatched_keeps _) fun _ => .pure _
      intro s hs
      have hpushed := hJ s.2 hs ⟨hpending,surface,hsurface,by simp [hupdate],organizationId,c,horg,
        hconnector⟩
      simpa [recordPush,Dict.getD,surfaceParams_newValue] using hpushed

theorem updateConsumers_recording {newValue : Json} {consumers : List Json}
    (hJ : ∀ consumer ∈ consumers, Updatable env.recording connectors consumer →
      ∀ vs, J vs → J (vs ++ [newValue])) :
    Py.Keeps (fun s : ω × List Json => J s.2)
      (updateConsumers env.recording connectors newValue consumers) := by
  refine .each_mem fun consumer hmem => .ofExcept_bind fun done hdone => ?_
  cases done with
  | true => exact .pure _
  | false =>
    refine .bind (updateConsumer_recording (fun vs hvs h => hJ consumer hmem h vs hvs) hdone)
      fun _ => ?_
    exact .bind (.ofExcept _) fun _ => .bind (.ofExcept _) fun _ => .bind (.ofExcept _) fun _ =>
      .pure _

end Record

/-- A property of the record and of the new value in the desired outcome. -/
def Watching (K : List Json → Json → Prop) (w : World (ω × List Json)) : Prop :=
  K w.site.outside.2 (givenValue w)

section Watching

variable {env : Env ω} {cr : ChangeRequest} {connectors : List Connector}
  {K : List Json → Json → Prop} {consumers : List Json}

theorem onOutside_watching {x : Py (ω × List Json) α}
    (hx : ∀ J : List Json → Prop, Py.Keeps (fun s => J s.2) x) :
    Py.Keeps (Watching K) (onOutside x) :=
  fun w hw => hx (fun vs => K vs (givenValue w)) w.site.outside hw

theorem persistFanout_watching (run : Option Nat) (result : Dict) :
    Py.Keeps (Watching (ω := ω) K) (persistFanout cr run result) := by
  cases run with
  | some i => exact fun _ h => h
  | none => exact fun _ h => h

theorem persistFanout_returns (cr : ChangeRequest) (run : Option Nat) (result : Dict)
    (w : World ω) :
    ∃ i, persistFanout cr run result w = (.ok i,(persistFanout cr run result w).2) := by
  cases run <;> exact ⟨_,rfl⟩

theorem pauseFanout_watching (run : Option Nat) (consumers : List Json) (rotation : Json)
    (phase : String) :
    Py.Keeps (Watching (ω := ω) K) (pauseFanout cr run consumers rotation phase) :=
  .bind (.ofExcept _) fun _ => .bind (persistFanout_watching _ _) fun _ =>
    .bind (.modify fun _ h => h) fun _ => .pure _

theorem verifyConsumers_watching (run : Option Nat) (searchTerms scanScope : Json)
    (consumers : List Json) (rotation : Json) : Py.Keeps (Watching K)
      (verifyConsumers env.recording cr connectors run searchTerms scanScope consumers rotation) :=
  .bind (onOutside_watching fun _ => runScans_recording _ _ _) fun _ => .bind (.ofExcept _)
    fun _ => .bind (.ofExcept _) fun _ => .bind (.ofExcept _) fun _ =>
    .ite (pauseFanout_watching _ _ _ _) (.bind (.ofExcept _) fun _ =>
      .bind (persistFanout_watching _ _) fun _ => .bind (.modify fun _ h => h) fun _ => .pure _)

theorem scanConsumers_watching (run : Option Nat) (searchTerms scanScope rotation : Json) :
    Py.Keeps (Watching K)
      (scanConsumers env.recording cr connectors run searchTerms scanScope rotation) :=
  .bind (onOutside_watching fun _ => runScans_recording _ _ _) fun _ => .bind (.ofExcept _)
    fun _ => .bind (.ofExcept _) fun _ => .bind (persistFanout_watching _ _) fun _ => .pure _

theorem updatePhase_watching {newValue : Json} (run : Option Nat) (rotation : Json)
    (hK : ∀ consumer ∈ consumers, Updatable env.recording connectors consumer →
      ∀ vs v, K vs v → K (vs ++ [newValue]) v) :
    Py.Keeps (Watching K)
      (updatePhase env.recording cr connectors run newValue rotation consumers) := by
  refine .bind (fun w hw => ?_) fun _ => .bind (.ofExcept _) fun _ => .ite ?_ ?_
  · exact updateConsumers_recording (J := fun vs => K vs (givenValue w))
      (fun consumer hmem h vs hvs => hK consumer hmem h vs _ hvs) w.site.outside hw
  · exact .bind (pauseFanout_watching _ _ _ _) fun _ => .pure _
  · exact .bind (.ofExcept _) fun _ => .bind (persistFanout_watching _ _) fun _ => .pure _

theorem updateAndVerify_watching {phase newValue : Json} (run : Option Nat) (rotation : Json)
    (hK : phase.isStr "update" = true → ∀ consumer ∈ consumers,
      Updatable env.recording connectors consumer → ∀ vs v, K vs v → K (vs ++ [newValue]) v) :
    Py.Keeps (Watching K)
      (updateAndVerify env.recording cr connectors run phase newValue rotation consumers) := by
  unfold updateAndVerify
  dsimp only
  split
  · rename_i hphase
    refine (updatePhase_watching run rotation (hK hphase)).bind fun outcome => ?_
    rcases outcome with paused | ⟨run,updated⟩
    · exact .pure _
    · exact verifyConsumers_watching _ _ _ _ _
  · exact .ite (verifyConsumers_watching _ _ _ _ _) (.bind (.ofExcept _) fun _ => .pure _)

theorem rotateAction_watching (connectorType : String) (connector : Option Connector)
    (rotateSpec : Json) :
    Py.Keeps (Watching K) (rotateAction env.recording connectorType connector rotateSpec) := by
  refine .bind (.ofExcept _) fun _ => .bind (.ofExcept _) fun _ => .bind (fun w hw => ?_) fun _ =>
    .bind (.ofExcept _) fun _ => .pure _
  exact executeAction_recording (J := fun vs => K vs (givenValue w)) _ _ _ _ _ w.site hw

end Watching

section Execution

variable {env : Env ω} {w : World (ω × List Json)} {K : List Json → Json → Prop}
  {consumers : List Json}

/-- What an execution from `w` may do to the record and to the new value of the desired outcome. -/
structure Allows (env : Env ω) (w : World (ω × List Json)) (K : List Json → Json → Prop) :
    Prop where
  adopt : ∀ vs v, rotation env.recording w = some (.ok (some v)) → K vs (givenValue w) → K vs v
  push : ¬NothingToUpdate env.recording w → ∀ vs v, K vs v →
    K (vs ++ [valueAtHand env.recording w]) v

theorem rotation_eq {connectorType : String} {connector : Option Connector}
    (hconsumers : Json.iter ((fanoutPrior w).getD "consumers" (.arr [])) = .ok consumers)
    (hdue : rotationDue w = true)
    (htype : ((w.cr.desiredOutcome.getD "rotate" .null).index "connector_type" >>= asText) =
      .ok connectorType)
    (hconnector : loadConnectorByType env.recording w.connectors connectorType
      w.cr.organizationId = .ok connector) :
    rotation env.recording w = some ((rotateAction env.recording connectorType connector
      (w.cr.desiredOutcome.getD "rotate" .null) w).1.map Prod.snd) := by
  unfold rotation
  dsimp only
  rw [if_pos hdue,hconsumers,Checks.ok_bind,htype,Checks.ok_bind,hconnector]
  rfl

/-- The first phase before it stores anything: it raises early, or it has what the rotate action
came to. -/
theorem rotateCredential_cases
    (hconsumers : Json.iter ((fanoutPrior w).getD "consumers" (.arr [])) = .ok consumers)
    (hdue : rotationDue w = true) :
    (∃ e, rotateCredential env.recording w.cr w.connectors
      (w.cr.desiredOutcome.getD "rotate" .null) w = (.error e,w)) ∨
    ∃ result newValue t, rotateCredential env.recording w.cr w.connectors
        (w.cr.desiredOutcome.getD "rotate" .null) w = (.ok (result,newValue),t) ∧
      (rotation env.recording w = some (.ok newValue) ∨
        newValue = none ∧ ∃ e, rotation env.recording w = some (.error e)) ∧
      ∀ K, Watching K w → Watching K t := by
  rw [rotateCredential_eq]
  cases htype : (w.cr.desiredOutcome.getD "rotate" .null).index "connector_type" >>= asText with
  | error e => exact .inl ⟨e,rfl⟩
  | ok connectorType =>
    rw [Py.ofExcept_ok_bind]
    cases hconnector : loadConnectorByType env.recording w.connectors connectorType
      w.cr.organizationId with
    | error e => exact .inl ⟨e,rfl⟩
    | ok connector =>
      right
      have hrotation := rotation_eq hconsumers hdue htype hconnector
      rw [Py.ofExcept_ok_bind]
      rcases haction : rotateAction env.recording connectorType connector
        (w.cr.desiredOutcome.getD "rotate" .null) w with ⟨e | ⟨result,newValue⟩,t⟩
      · rw [haction] at hrotation
        refine ⟨_,none,t,Py.tryExcept_error haction _,.inr ⟨rfl,e,hrotation⟩,fun K hK => ?_⟩
        exact (rotateAction_watching _ _ _).run haction hK
      · rw [haction] at hrotation
        refine ⟨result,newValue,t,Py.tryExcept_ok haction _,.inl hrotation,fun K hK => ?_⟩
        exact (rotateAction_watching _ _ _).run haction hK

theorem rotation_of_not_due (hdue : rotationDue w = false) : rotation env.recording w = none := by
  unfold rotation
  dsimp only
  rw [if_neg (by simp [hdue])]

theorem adoptNewValue_watching (hK : Allows env w K) {newValue : Option Json}
    {t : World (ω × List Json)} (ht : K t.site.outside.2 (givenValue w))
    (hgiven : givenValue t = givenValue w)
    (hnew : ∀ v, newValue = some v → rotation env.recording w = some (.ok (some v))) :
    Watching K (adoptNewValue newValue t).2 := by
  cases newValue with
  | none =>
    rw [← hgiven] at ht
    exact ht
  | some v =>
    have hadopted := hK.adopt _ v (hnew v rfl) ht
    simpa [Watching,adoptNewValue,givenValue,Dict.getD] using hadopted

theorem valueAtHand_rotated {newValue : Option Json}
    (hrotation : rotation env.recording w = some (.ok newValue) ∨
      newValue = none ∧ ∃ e, rotation env.recording w = some (.error e)) :
    valueAtHand env.recording w = newValue.getD (givenValue w) := by
  unfold valueAtHand
  rcases hrotation with hrotation | ⟨rfl,e,hrotation⟩
  · rw [hrotation]
    cases newValue <;> rfl
  · rw [hrotation]
    rfl

/-- The first phase goes on with the value at hand. -/
theorem rotatePhase_watching (hK : Allows env w K) (hw : Watching K w)
    (hconsumers : Json.iter ((fanoutPrior w).getD "consumers" (.arr [])) = .ok consumers)
    {r : Except Exc FanoutProgress} {t : World (ω × List Json)}
    (hrun : rotatePhase env.recording w.cr w.connectors (startedFanout w)
      (w.cr.desiredOutcome.getD "rotate" .null) consumers w = (r,t)) :
    Watching K t ∧
      ∀ progress, r = .ok progress → progress.newValue = valueAtHand env.recording w := by
  by_cases hdue : rotationDue w = true
  · have hphase : rotatePhase env.recording w.cr w.connectors (startedFanout w)
        (w.cr.desiredOutcome.getD "rotate" .null) consumers = _ := if_pos hdue
    rw [hphase] at hrun
    rcases rotateCredential_cases hconsumers hdue with
      ⟨e,hcredential⟩ | ⟨result,newValue,u,hcredential,hrotation,hu⟩
    · rw [Py.bind_error hcredential] at hrun
      obtain ⟨rfl,rfl⟩ := Prod.mk.inj hrun
      exact ⟨hw,nofun⟩
    · rw [Py.bind_ok hcredential] at hrun
      obtain ⟨hu₁,hu₂⟩ := hu (fun vs v => K vs v ∧ v = givenValue w) ⟨hw,rfl⟩
      have hnew : ∀ v, newValue = some v → rotation env.recording w = some (.ok (some v)) := by
        rintro v rfl
        rcases hrotation with hrotation | ⟨hnone,-⟩
        · exact hrotation
        · cases hnone
      cases hbuild : buildFanoutResult consumers result (.str "scan") false with
      | error e =>
        rw [hbuild] at hrun
        obtain ⟨rfl,rfl⟩ := Prod.mk.inj hrun
        exact ⟨hu₁,nofun⟩
      | ok stored =>
        rw [hbuild,Py.ofExcept_ok_bind] at hrun
        have hadopted := adoptNewValue_watching hK (hu₂ ▸ hu₁) hu₂ hnew
        have hreturns : adoptNewValue newValue u = (.ok (),(adoptNewValue newValue u).2) := by
          cases newValue <;> rfl
        rw [Py.bind_ok hreturns] at hrun
        obtain ⟨i,hstored⟩ := persistFanout_returns w.cr (startedFanout w).run stored
          (adoptNewValue newValue u).2
        rw [Py.bind_ok hstored] at hrun
        obtain ⟨rfl,rfl⟩ := Prod.mk.inj hrun
        refine ⟨persistFanout_watching _ _ _ hadopted,?_⟩
        rintro progress ⟨⟩
        exact (valueAtHand_rotated hrotation).symm
  · have hphase : rotatePhase env.recording w.cr w.connectors (startedFanout w)
        (w.cr.desiredOutcome.getD "rotate" .null) consumers = _ := if_neg hdue
    rw [hphase] at hrun
    obtain ⟨rfl,rfl⟩ := Prod.mk.inj hrun
    refine ⟨hw,?_⟩
    rintro progress ⟨⟩
    rw [valueAtHand,rotation_of_not_due (Bool.eq_false_iff.mpr hdue)]
    rfl

theorem arrivals_eq {progress : FanoutProgress} {t : World (ω × List Json)}
    (hconsumers : Json.iter ((fanoutPrior w).getD "consumers" (.arr [])) = .ok consumers)
    (hrotate : rotatePhase env.recording w.cr w.connectors (startedFanout w)
      (w.cr.desiredOutcome.getD "rotate" .null) consumers w = (.ok progress,t)) :
    arrivals env.recording w =
      if progress.phase.isStr "" || progress.phase.isStr "scan" then do
        let hits ← (runScans env.recording w.connectors w.cr.organizationId
          (w.cr.desiredOutcome.getD "search_terms" (.arr []))
          (w.cr.desiredOutcome.getD "scan_scope" (.arr [])) t.site.outside).1
        hits.zipIdx.mapM fun entry => consumerOf w.cr.organizationId entry.2 entry.1
      else .ok (if progress.phase.isStr "update" then consumers else []) := by
  unfold arrivals
  rw [hconsumers,Checks.ok_bind]
  dsimp only
  rw [hrotate]
  rfl

/-- The phases after the first one. -/
def afterRotation (env : Env ω) (w : World ω) (progress : FanoutProgress) (consumers : List Json) :
    Py (World ω) Json :=
  if progress.phase.isStr "" || progress.phase.isStr "scan" then do
    let (run,consumers) ← scanConsumers env w.cr w.connectors progress.run
      (w.cr.desiredOutcome.getD "search_terms" (.arr []))
      (w.cr.desiredOutcome.getD "scan_scope" (.arr [])) progress.rotation
    updateAndVerify env w.cr w.connectors run (.str "update") progress.newValue progress.rotation
      consumers
  else
    updateAndVerify env w.cr w.connectors progress.run progress.phase progress.newValue
      progress.rotation consumers

theorem executeCredentialRotationFanout_eq (env : Env ω) (w : World ω) :
    executeCredentialRotationFanout env w = (do
      let consumers ← Py.ofExcept (Json.iter ((fanoutPrior w).getD "consumers" (.arr [])))
      let progress ← rotatePhase env w.cr w.connectors (startedFanout w)
        (w.cr.desiredOutcome.getD "rotate" .null) consumers
      afterRotation env w progress consumers) w := rfl

theorem afterRotation_watching (hK : Allows env w K) {progress : FanoutProgress}
    {t : World (ω × List Json)} (ht : Watching K t)
    (hconsumers : Json.iter ((fanoutPrior w).getD "consumers" (.arr [])) = .ok consumers)
    (hrotate : rotatePhase env.recording w.cr w.connectors (startedFanout w)
      (w.cr.desiredOutcome.getD "rotate" .null) consumers w = (.ok progress,t))
    (hvalue : progress.newValue = valueAtHand env.recording w) :
    Watching K (afterRotation env.recording w progress consumers t).2 := by
  have harrivals := arrivals_eq hconsumers hrotate
  have hpush : ∀ {arrived}, arrivals env.recording w = .ok arrived → ∀ consumer ∈ arrived,
      Updatable env.recording w.connectors consumer →
        ∀ vs v, K vs v → K (vs ++ [progress.newValue]) v := by
    intro arrived harrived consumer hmem hupdatable vs v hvs
    rw [hvalue]
    exact hK.push (fun hnothing => hnothing arrived harrived consumer hmem hupdatable) vs v hvs
  unfold afterRotation
  split at harrivals
  · rename_i hphase
    rw [if_pos hphase]
    rcases hscan : scanConsumers env.recording w.cr w.connectors progress.run
      (w.cr.desiredOutcome.getD "search_terms" (.arr []))
      (w.cr.desiredOutcome.getD "scan_scope" (.arr [])) progress.rotation t with ⟨e | found,u⟩
    · rw [Py.bind_error hscan]
      exact (scanConsumers_watching _ _ _ _).run hscan ht
    · rw [Py.bind_ok hscan]
      have hu := (scanConsumers_watching _ _ _ _).run hscan ht
      obtain ⟨hits,hhits,hscan⟩ := Py.zoom_bind_eq_ok.mp hscan
      obtain ⟨arrived,harrived,hscan⟩ := Py.ofExcept_bind_eq_ok.mp hscan
      obtain ⟨stored,_,hscan⟩ := Py.ofExcept_bind_eq_ok.mp hscan
      obtain ⟨i,v,_,hscan⟩ := Py.bind_eq_ok.mp hscan
      obtain ⟨hfound,-⟩ := Prod.mk.inj hscan
      obtain rfl := Except.ok.inj hfound
      have hall : arrivals env.recording w = .ok arrived :=
        harrivals.trans (Checks.bind_eq_ok.mpr ⟨hits,hhits,harrived⟩)
      exact updateAndVerify_watching _ _ (fun _ => hpush hall) u hu
  · rename_i hphase
    rw [if_neg hphase]
    refine updateAndVerify_watching _ _ (fun hupdate => ?_) t ht
    rw [if_pos hupdate] at harrivals
    exact hpush harrivals

/-- An execution adopts the value that its rotate action hands out, and it pushes the value at hand,
if there is anything to update. -/
theorem executeCredentialRotationFanout_watching (hK : Allows env w K) (hw : Watching K w) :
    Watching K (executeCredentialRotationFanout env.recording w).2 := by
  rw [executeCredentialRotationFanout_eq]
  cases hconsumers : Json.iter ((fanoutPrior w).getD "consumers" (.arr [])) with
  | error e => exact hw
  | ok consumers =>
    rw [Py.ofExcept_ok_bind]
    rcases hrotate : rotatePhase env.recording w.cr w.connectors (startedFanout w)
      (w.cr.desiredOutcome.getD "rotate" .null) consumers w with ⟨e | progress,t⟩
    · rw [Py.bind_error hrotate]
      exact (rotatePhase_watching hK hw hconsumers hrotate).1
    · rw [Py.bind_ok hrotate]
      obtain ⟨ht,hvalue⟩ := rotatePhase_watching hK hw hconsumers hrotate
      exact afterRotation_watching hK ht hconsumers hrotate (hvalue progress rfl)

end Execution

/-- A change from its plan on: its rows, the record of the values pushed, the value that the plan
was made with, the values that rotate actions have returned, and how many values had been pushed
when one failed. -/
structure FanoutHistory (ω : Type) where
  world : World (ω × List Json)
  given : Json
  obtained : List Json
  failedAfter : Option Nat

def FanoutHistory.pushed (h : FanoutHistory ω) : List Json := h.world.site.outside.2

inductive FanoutLabel (ω : Type) where
  | execute
  | resume
  | decide (user : User) (action : ResumeAction)
  | elsewhere (outside : ω) (connectors : List Connector)

/-- The state that an execution from `h` leaves, and what its rotate action came to. -/
def FanoutHistory.executed (env : Env ω) (h : FanoutHistory ω) (w : World (ω × List Json)) :
    FanoutHistory ω :=
  { h with
    world := w
    obtained := match rotation env.recording h.world with
      | some (.ok (some v)) => h.obtained ++ [v]
      | _ => h.obtained
    failedAfter := match rotation env.recording h.world with
      | some (.error _) => h.failedAfter.or (some h.pushed.length)
      | _ => h.failedAfter }

/-- Executions by the workflow and by the resume endpoint, decisions of the operators in between,
and anything that happens outside. -/
def fanoutSystem (env : Env ω) : System (FanoutHistory ω) (FanoutLabel ω) where
  start := fun h => h.world.cr.changeType = .credentialRotationFanout ∧
    validateFanoutFields h.world.cr.desiredOutcome = .ok () ∧ h.pushed = [] ∧
    h.given = givenValue h.world ∧ h.obtained = [] ∧ h.failedAfter = none
  step := fun h label =>
    match label with
    | .execute => some (h.executed env (executeCredentialRotationFanout env.recording h.world).2)
    | .resume =>
      if h.world.cr.changeType = .credentialRotationFanout then
        some (h.executed env (resumeExecution env.recording h.world).2)
      else none
    | .decide user action => some { h with world := (action.request user h.world).2 }
    | .elsewhere outside connectors => some { h with world := { h.world with
        connectors := connectors
        site := { h.world.site with outside := (outside,h.pushed) } } }

/-- What has been pushed was there to be pushed, and nothing is pushed after a rotate action that
failed. -/
structure OnlyObtained (h : FanoutHistory ω) : Prop where
  pushed : ∀ v ∈ h.pushed, v.truthy = true ∧ (v = h.given ∨ v ∈ h.obtained)
  failed : ∀ n, h.failedAfter = some n → h.pushed.length = n

/-- An execution comes to a new value that is not empty, and no rotate action has failed, or it has
nothing to update. -/
def HasValue (env : Env ω) (h : FanoutHistory ω) : FanoutLabel ω → Prop
  | .execute | .resume =>
    NothingToUpdate env.recording h.world ∨
      (h.failedAfter = none ∧ (∀ e, rotation env.recording h.world ≠ some (.error e)) ∧
        (valueAtHand env.recording h.world).truthy = true)
  | _ => True

section Histories

variable {env : Env ω} {h h' : FanoutHistory ω}

structure FanoutInv (h : FanoutHistory ω) : Prop extends OnlyObtained h where
  value : givenValue h.world = h.given ∨ givenValue h.world ∈ h.obtained

theorem resumeExecution_watching {K : List Json → Json → Prop} {w : World (ω × List Json)}
    (htype : w.cr.changeType = .credentialRotationFanout)
    (hw : Watching K (executeCredentialRotationFanout env.recording w).2) :
    Watching K (resumeExecution env.recording w).2 := by
  rw [resumeExecution,Py.get_bind,htype]
  change Watching K ((Py.attempt (executeCredentialRotationFanout env.recording) >>= _) w).2
  rw [Py.attempt_bind]
  cases (executeCredentialRotationFanout env.recording w).1 with
  | ok _ => exact hw
  | error _ => exact hw

/-- What an execution from `h` brings about, said of the record and the desired outcome. -/
def Executed (env : Env ω) (h : FanoutHistory ω) (vs : List Json) (v : Json) : Prop :=
  (∃ k, vs = h.pushed ++ List.replicate k (valueAtHand env.recording h.world) ∧
    (NothingToUpdate env.recording h.world → k = 0)) ∧
  (v = givenValue h.world ∨ rotation env.recording h.world = some (.ok (some v)))

theorem executed_allows : Allows env h.world (Executed env h) where
  adopt := by
    rintro vs v hrotation ⟨hpushed,-⟩
    exact ⟨hpushed,.inr hrotation⟩
  push := by
    rintro hsome vs v ⟨⟨k,rfl,-⟩,hv⟩
    refine ⟨⟨k + 1,?_,fun hnothing => absurd hnothing hsome⟩,hv⟩
    rw [List.append_assoc,← List.replicate_succ']

theorem execute_executed :
    Watching (Executed env h) (executeCredentialRotationFanout env.recording h.world).2 :=
  executeCredentialRotationFanout_watching executed_allows
    ⟨⟨0,by simp [FanoutHistory.pushed],fun _ => rfl⟩,.inl rfl⟩

theorem mem_obtained {w : World (ω × List Json)} {v : Json}
    (hv : v ∈ h.obtained ∨ rotation env.recording h.world = some (.ok (some v))) :
    v ∈ (h.executed env w).obtained := by
  unfold FanoutHistory.executed
  rcases hv with hv | hv
  · dsimp only
    split
    · exact List.mem_append_left _ hv
    · exact hv
  · simp [hv]

theorem FanoutInv.atHand (hI : FanoutInv h) (w : World (ω × List Json)) :
    valueAtHand env.recording h.world = h.given ∨
      valueAtHand env.recording h.world ∈ (h.executed env w).obtained := by
  unfold valueAtHand
  split
  · rename_i v hrotation
    exact .inr (mem_obtained (.inr hrotation))
  · exact hI.value.imp id fun hmem => mem_obtained (.inl hmem)

/-- A failure noted after an execution was noted before it, or is one of its rotate action. -/
theorem executed_failedAfter {w : World (ω × List Json)} {n : Nat}
    (hn : (h.executed env w).failedAfter = some n) :
    h.failedAfter = some n ∨
      n = h.pushed.length ∧ ∃ e, rotation env.recording h.world = some (.error e) := by
  unfold FanoutHistory.executed at hn
  dsimp only at hn
  split at hn
  · rename_i e hrotation
    cases hfailed : h.failedAfter with
    | none =>
      rw [hfailed] at hn
      exact .inr ⟨(Option.some.inj hn).symm,e,hrotation⟩
    | some m =>
      rw [hfailed] at hn
      exact .inl hn
  · exact .inl hn

/-- An execution with a value keeps to what was given or obtained. -/
theorem FanoutInv.executed (hI : FanoutInv h) (hvalue : HasValue env h .execute)
    {w : World (ω × List Json)} (hw : Watching (Executed env h) w) :
    FanoutInv (h.executed env w) := by
  obtain ⟨⟨k,hpushed,hzero⟩,hnew⟩ := hw
  refine ⟨⟨?_,?_⟩,?_⟩
  · intro v hv
    change v ∈ w.site.outside.2 at hv
    rw [hpushed] at hv
    rcases List.mem_append.mp hv with hv | hv
    · obtain ⟨htruthy,hfrom⟩ := hI.pushed v hv
      exact ⟨htruthy,hfrom.imp id fun hmem => mem_obtained (.inl hmem)⟩
    · obtain ⟨hk,rfl⟩ := List.mem_replicate.mp hv
      rcases hvalue with hnothing | ⟨-,-,htruthy⟩
      · exact absurd (hzero hnothing) hk
      · exact ⟨htruthy,hI.atHand w⟩
  · intro n hn
    change w.site.outside.2.length = n
    have hnoted := executed_failedAfter hn
    have hnothing : NothingToUpdate env.recording h.world := by
      rcases hvalue with hnothing | ⟨hnever,hrotates,-⟩
      · exact hnothing
      · rcases hnoted with hfailed | ⟨-,e,hrotation⟩
        · rw [hnever] at hfailed
          cases hfailed
        · exact absurd hrotation (hrotates e)
    have hlength : w.site.outside.2.length = h.pushed.length := by
      rw [hpushed,hzero hnothing]
      simp
    rw [hlength]
    rcases hnoted with hfailed | ⟨rfl,-⟩
    · exact hI.failed n hfailed
    · rfl
  · rcases hnew with hsame | hrotation
    · change givenValue w = h.given ∨ givenValue w ∈ (h.executed env w).obtained
      rw [hsame]
      exact hI.value.imp id fun hmem => mem_obtained (.inl hmem)
    · exact .inr (mem_obtained (.inr hrotation))

/-- A step that changes neither the record nor the new value of the desired outcome. -/
theorem FanoutInv.same (hI : FanoutInv h) {w : World (ω × List Json)}
    (hw : Watching (fun vs v => vs = h.pushed ∧ v = givenValue h.world) w) :
    FanoutInv { h with world := w } := by
  obtain ⟨hpushed,hvalue⟩ := hw
  refine ⟨⟨fun v hv => hI.pushed v (hpushed ▸ hv),fun n hn => ?_⟩,?_⟩
  · exact (congrArg List.length hpushed).trans (hI.failed n hn)
  · change givenValue w = h.given ∨ givenValue w ∈ h.obtained
    rw [hvalue]
    exact hI.value

theorem fanoutInv_inductive (env : Env ω) :
    InductiveUnder (fanoutSystem env) (HasValue env) FanoutInv where
  start := by
    rintro h ⟨-,-,hpushed,hgiven,-,hfailed⟩
    refine ⟨⟨fun v hv => ?_,fun n hn => ?_⟩,.inl hgiven.symm⟩
    · rw [hpushed] at hv
      cases hv
    · rw [hfailed] at hn
      cases hn
  step := by
    intro h label h' hI hvalue hstep
    cases label with
    | execute =>
      obtain rfl := Option.some.inj hstep
      exact hI.executed hvalue execute_executed
    | resume =>
      simp only [fanoutSystem] at hstep
      split at hstep
      · rename_i htype
        obtain rfl := Option.some.inj hstep
        exact hI.executed hvalue (resumeExecution_watching htype execute_executed)
      · cases hstep
    | decide user action =>
      obtain rfl := Option.some.inj hstep
      exact hI.same (request_keeps (I := Watching _) (fun _ _ _ h => h) (fun _ _ h => h) user action
        h.world ⟨rfl,rfl⟩)
    | elsewhere outside connectors =>
      obtain rfl := Option.some.inj hstep
      exact hI.same ⟨rfl,rfl⟩

end Histories

/-- In a run whose executions come to a new value, what is pushed to the consumers has been given
or obtained, and nothing is pushed after a rotate action that failed. -/
theorem pushed_values_obtained (env : Env ω)
    {tr : List (Transition (FanoutHistory ω) (FanoutLabel ω))} {h : FanoutHistory ω}
    (hrun : Run (fanoutSystem env) tr h) (hvalue : ∀ t ∈ tr, HasValue env t.pre t.label) :
    OnlyObtained h :=
  (hrun.guarded (fanoutInv_inductive env) hvalue).toOnlyObtained

/-- One consumer, found in an SSM parameter. -/
def leakedHit : Json :=
  .obj [("surface",.str "aws_ssm_parameter"),("location",.str "ssm:/db/password"),
    ("matched_term",.str "hunter2"),("consumer_identity",.obj [])]

/-- A rotate action that answers as given, and one consumer that can be updated. -/
def rotatingEnv (answer : Except Exc Json) : Env Unit :=
  { Env.ofModules fun _ _ => .ok ⟨fun _ _ _ => Py.ofExcept answer,none⟩ with
    fanout :=
      { scanFunctions := fun _ => [fun _ _ => pure (.obj [("hits",.arr [leakedHit])])]
        updateSurface := fun _ => some fun _ _ => pure (.obj [("status",.str "updated")])
        rollbackSurface := fun _ => none } }

/-- A change with a rotate action and no new value, as the planner accepts it. -/
def leakedCredential : FanoutHistory Unit where
  world :=
    { cr := ⟨"cr-1","org-1","user-1",.credentialRotationFanout,[],
        [("search_terms",.arr [.str "hunter2"]),("scan_scope",.arr [.str "aws"]),
          ("rotate",.obj [("connector_type",.str "aws"),("action_id",.str "rotate_password")])],
        .executing,some .low,none,none⟩
      others := []
      runs := [⟨"wf-1",.running,[]⟩]
      connectors := [{ id := "con-1", organizationId := "org-1", connectorType := "aws" }]
      site := ⟨[],[],[],[],((),[])⟩ }
  given := .str ""
  obtained := []
  failedAfter := none

def rotatedCredential (answer : Except Exc Json) : FanoutHistory Unit :=
  leakedCredential.executed (rotatingEnv answer)
    (executeCredentialRotationFanout (rotatingEnv answer).recording leakedCredential.world).2

theorem rotatedCredential_run (answer : Except Exc Json) :
    Run (fanoutSystem (rotatingEnv answer))
      [⟨leakedCredential,.execute,rotatedCredential answer⟩] (rotatedCredential answer) :=
  .step (.start ⟨rfl,rfl,rfl,rfl,rfl,rfl⟩) rfl

theorem returned_value_pushed :
    (rotatedCredential (.ok (.obj [("new_value",.str "s3cret")]))).pushed = [.str "s3cret"] ∧
      OnlyObtained (rotatedCredential (.ok (.obj [("new_value",.str "s3cret")]))) := by
  refine ⟨rfl,pushed_values_obtained _ (rotatedCredential_run _) ?_⟩
  intro t ht
  obtain rfl := List.mem_singleton.mp ht
  have hrotation : rotation (rotatingEnv (.ok (.obj [("new_value",.str "s3cret")]))).recording
      leakedCredential.world = some (.ok (some (.str "s3cret"))) := rfl
  refine .inr ⟨rfl,fun e he => ?_,rfl⟩
  exact absurd (hrotation.symm.trans he) nofun

/-- After a rotate action that fails, the consumer is updated with an empty value. -/
theorem empty_value_pushed :
    ∃ tr h, Run (fanoutSystem (rotatingEnv (.error (.connectorError "access denied")))) tr h ∧
      h.pushed = [.str ""] ∧ ¬OnlyObtained h := by
  refine ⟨_,_,rotatedCredential_run _,rfl,fun hall => ?_⟩
  exact absurd (hall.failed 0 rfl) (by decide)

end Nexplane
