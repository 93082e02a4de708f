import Nexplane.ExecutorRollback
import Nexplane.SiteFrames

set_option autoImplicit false

/-! Which entries of the inventory survive the execution of a change and its later rollback. -/

namespace Nexplane
open PyValue

variable {ω : Type}

/-- Some entry has the identifier. -/
def Listed (assets : List Asset) (id : Uuid) : Prop := ∃ asset ∈ assets, asset.id = id

/-- The entry is listed as one of the instance's. -/
def OnlyOf (assets : List Asset) (organizationId : Uuid) (instanceId : Json) (id : Uuid) : Prop :=
  Listed assets id ∧ ∀ asset ∈ assets, asset.id = id →
    (asset.organizationId = organizationId && asset.hasInstance instanceId) = true

/-- The entry that the result of a step names as created by it. -/
def recordedAsset (prior : Dict) : Option Uuid :=
  if prior.truthy "_auto_asset_id" then
    (asText (prior.getD "_auto_asset_id" .null) >>= parseUuid).toOption
  else none

section Inventory

variable {env : Env ω} {id : Uuid} {s s' : Site ω}

/-- The identifier is listed as before, and nothing has been committed. -/
def SameListing (s : Site ω) (id : Uuid) (t : Site ω) : Prop :=
  (Listed t.assets id ↔ Listed s.assets id) ∧ t.committedAssets = s.committedAssets

theorem replaceAsset_ids (s : Site ω) (updated : Asset) :
    (s.replaceAsset updated).assets.map Asset.id = s.assets.map Asset.id := by
  simp only [Site.replaceAsset,List.map_map]
  refine List.map_congr_left fun asset _ => ?_
  by_cases h : asset.id = updated.id <;> simp [h]

theorem listed_iff_mem_ids (assets : List Asset) (id : Uuid) :
    Listed assets id ↔ id ∈ assets.map Asset.id := by
  simp [Listed]

theorem newAutoAsset_id {payload : Json} {organizationId connectorId id : Uuid} {name : String}
    {asset : Asset} (h : newAutoAsset payload organizationId connectorId name id = .ok asset) :
    asset.id = id := by
  obtain ⟨_,_,h⟩ := Checks.bind_eq_ok.mp h
  obtain ⟨_,_,h⟩ := Checks.bind_eq_ok.mp h
  obtain ⟨_,_,h⟩ := Checks.bind_eq_ok.mp h
  obtain ⟨_,_,h⟩ := Checks.bind_eq_ok.mp h
  obtain ⟨_,_,h⟩ := Checks.bind_eq_ok.mp h
  obtain ⟨_,_,h⟩ := Checks.bind_eq_ok.mp h
  obtain ⟨_,_,h⟩ := Checks.bind_eq_ok.mp h
  obtain ⟨_,_,h⟩ := Checks.bind_eq_ok.mp h
  obtain rfl := Except.ok.inj h
  rfl

theorem upsertAutoAsset_listing (hfresh : ∀ assets, env.newUuid assets ≠ id) (payload : Json)
    (organizationId connectorId : Uuid) :
    Py.Keeps (SameListing s id) (upsertAutoAsset env payload organizationId connectorId) := by
  unfold upsertAutoAsset
  refine .bind (.ofExcept _) fun name => .bind .get fun site => ?_
  split
  · refine .bind (.ofExcept _) fun updated => .bind (.modify fun t ht => ?_) fun _ => .pure _
    refine ⟨?_,ht.2⟩
    rw [listed_iff_mem_ids,replaceAsset_ids,← listed_iff_mem_ids]
    exact ht.1
  · intro t ht
    cases hnew : newAutoAsset payload organizationId connectorId name
      (env.newUuid site.assets) with
    | error e => exact ht
    | ok asset =>
      refine ⟨?_,ht.2⟩
      have hne : asset.id ≠ id := by
        rw [newAutoAsset_id hnew]
        exact hfresh _
      rw [← ht.1]
      constructor
      · rintro ⟨a,ha,rfl⟩
        rcases List.mem_append.mp ha with ha | ha
        · exact ⟨a,ha,rfl⟩
        · obtain rfl := List.mem_singleton.mp ha
          exact absurd rfl hne
      · rintro ⟨a,ha,rfl⟩
        exact ⟨a,List.mem_append_left _ ha,rfl⟩

theorem executeAction_listing (hfresh : ∀ assets, env.newUuid assets ≠ id)
    (connectorType actionId : String) (parameters : Dict) (assetIds : List String)
    (connector : Option Connector) :
    Py.Keeps (SameListing s id)
      (executeAction env connectorType actionId parameters assetIds connector) := by
  refine .bind (.modify fun _ h => h) fun _ => .bind (.ofExcept _) fun connector =>
    .bind (.ofExcept _) fun executor => .bind (outside_keeps (fun _ _ h => h) _) fun result =>
    .bind (.ofExcept _) fun hasAsset => ?_
  split
  · exact .bind (.ofExcept _) fun _ => .bind (.ofExcept _) fun _ =>
      .bind (upsertAutoAsset_listing hfresh _ _ _) fun _ => .pure _
  · exact .pure _

theorem executeAction_keepsListed (hfresh : ∀ assets, env.newUuid assets ≠ id)
    (connectorType actionId : String) (parameters : Dict) (assetIds : List String)
    (connector : Option Connector) :
    Py.Keeps (fun t => Listed t.assets id ∧ Listed t.committedAssets id)
      (executeAction env connectorType actionId parameters assetIds connector) := by
  intro t ht
  have hkept : SameListing t id _ :=
    executeAction_listing hfresh connectorType actionId parameters assetIds connector t
      ⟨Iff.rfl,rfl⟩
  exact ⟨hkept.1.mpr ht.1,by rw [hkept.2]; exact ht.2⟩

/-- The execution of a change takes no entry away. -/
theorem inventoryWrites (hfresh : ∀ assets, env.newUuid assets ≠ id) :
    SiteWrites env fun t => Listed t.assets id ∧ Listed t.committedAssets id where
  action := executeAction_keepsListed hfresh
  outside := fun _ _ h => h
  commit := fun _ h => ⟨h.1,h.1⟩
  close := fun _ h => ⟨h.2,h.2⟩

theorem removeInstance_listed (s : Site ω) (organizationId : Uuid) (instanceId : Json) :
    Listed (s.removeInstance organizationId instanceId).assets id ↔
      Listed s.assets id ∧ ¬OnlyOf s.assets organizationId instanceId id := by
  simp only [Listed,OnlyOf,Site.removeInstance,List.mem_filter,Bool.not_eq_true']
  constructor
  · rintro ⟨asset,⟨hasset,hother⟩,hid⟩
    refine ⟨⟨asset,hasset,hid⟩,fun h => ?_⟩
    rw [h.2 asset hasset hid] at hother
    cases hother
  · rintro ⟨hlisted,hnot⟩
    by_contra hnone
    refine hnot ⟨hlisted,fun asset hasset hid => ?_⟩
    by_contra hother
    exact hnone ⟨asset,⟨hasset,by simpa using hother⟩,hid⟩

end Inventory

section Undo

variable (env : Env ω) (cr : ChangeRequest) (connectors : List Connector)
  (results : List (Json × Json))

/-- An undo up to the removal of a terminated instance. -/
def undoInvocation (step : PlanStep) (rollbackConnector rollbackAction : String)
    (prior : Dict) (connector : Option Connector) : Py (Site ω) Json := do
  if prior.truthy "_auto_asset_id" then deleteAutoAsset (prior.getD "_auto_asset_id" .null)
  else pure ()
  Py.modify fun s => s.log (.undo step (.obj prior))
  invokeUndo env rollbackConnector rollbackAction (undoParameters cr step prior) prior connector

def terminatedInstance (step : PlanStep) (prior : Dict) : Json :=
  (prior.getD "instance_id" .null).orElse
    ((undoParameters cr step prior).getD "instance_id" .null)

/-- In this state the undo removes the entries of an instance that it has terminated, and commits
what it and the undos before it have done to the inventory. -/
def Removes (undo : PlanStep × String × String) (s t : Site ω) (organizationId : Uuid)
    (instanceId : Json) : Prop :=
  ∃ c prior result, undoConnector env cr connectors undo.1 undo.2.2 = .ok (some c) ∧
    (priorResult results undo.1.stepNumber).mapping = .ok prior ∧
    undo.2.1 = "terminate_instance" ∧ instanceId = terminatedInstance cr undo.1 prior ∧
    instanceId.truthy = true ∧ organizationId = c.organizationId ∧
    undoInvocation env cr undo.1 (actualType undo.2.2 (some c)) undo.2.1 prior (some c) s =
      (.ok result,t)

/-- The entry that an undo deletes first, where the step has recorded one. -/
def undoneAsset (undo : PlanStep × String × String) : Option Uuid :=
  match (priorResult results undo.1.stepNumber).mapping with
  | .ok prior => recordedAsset prior
  | .error _ => none

/-- Whenever the undos after `done` remove the entries of an instance, no undo up to this one has
deleted the entry as its own, and the entry is not one of the instance's. -/
def SparedBy (id : Uuid) (done : List (PlanStep × String × String)) :
    List (PlanStep × String × String) → Site ω → Prop
  | [], _ => True
  | undo :: undos, s =>
    (∀ t organizationId instanceId,
      Removes env cr connectors results undo s t organizationId instanceId →
        (∀ u ∈ done ++ [undo], undoneAsset results u ≠ some id) ∧
          ¬OnlyOf t.assets organizationId instanceId id) ∧
    ∀ r s', undoStep env cr connectors results undo s = (.ok r,s') →
      SparedBy id (done ++ [undo]) undos s'

end Undo

section Undo

variable {env : Env ω} {cr : ChangeRequest} {connectors : List Connector}
  {results : List (Json × Json)} {id : Uuid} {undo : PlanStep × String × String}
  {undos : List (PlanStep × String × String)} {s : Site ω}

theorem filter_listed (assets : List Asset) (deleted : Uuid) :
    Listed (assets.filter fun asset => asset.id ≠ deleted) id ↔
      Listed assets id ∧ deleted ≠ id := by
  constructor
  · rintro ⟨asset,hasset,rfl⟩
    obtain ⟨hmem,hne⟩ := List.mem_filter.mp hasset
    exact ⟨⟨asset,hmem,rfl⟩,fun heq => by simp [heq] at hne⟩
  · rintro ⟨⟨asset,hasset,rfl⟩,hne⟩
    exact ⟨asset,List.mem_filter.mpr ⟨hasset,by simpa using Ne.symm hne⟩,rfl⟩

theorem deleteAutoAsset_listed (id : Uuid) {prior : Dict} (h : prior.truthy "_auto_asset_id" = true)
    (s : Site ω) :
    (Listed (deleteAutoAsset (prior.getD "_auto_asset_id" .null) s).2.assets id ↔
      Listed s.assets id ∧ recordedAsset prior ≠ some id) ∧
    (deleteAutoAsset (prior.getD "_auto_asset_id" .null) s).2.committedAssets =
      s.committedAssets := by
  rw [recordedAsset,if_pos h,deleteAutoAsset]
  cases htext : asText (prior.getD "_auto_asset_id" .null) with
  | error e => simp [bind,Except.bind,Except.toOption]
  | ok text =>
    rw [Py.ofExcept_ok_bind]
    cases hid : parseUuid text with
    | error e => simp [bind,Except.bind,Except.toOption,hid]
    | ok deleted =>
      rw [Py.ofExcept_ok_bind]
      refine ⟨?_,rfl⟩
      rw [Py.modify_run,filter_listed]
      simp [bind,Except.bind,Except.toOption,hid]

theorem invokeUndo_listing (hfresh : ∀ assets, env.newUuid assets ≠ id)
    (rollbackConnector rollbackAction : String) (parameters prior : Dict)
    (connector : Option Connector) : Py.Keeps (SameListing s id)
      (invokeUndo env rollbackConnector rollbackAction parameters prior connector) := by
  unfold invokeUndo
  split
  · exact outside_keeps (fun _ _ h => h) _
  · exact executeAction_listing hfresh _ _ _ _ _

/-- An undo takes away the recorded entry and no other, before it removes an instance. -/
theorem undoInvocation_listed (hfresh : ∀ assets, env.newUuid assets ≠ id) (cr : ChangeRequest)
    (step : PlanStep)
    (rollbackConnector rollbackAction : String) (prior : Dict) (connector : Option Connector)
    (s : Site ω) :
    (Listed (undoInvocation env cr step rollbackConnector rollbackAction prior connector s).2.assets
        id ↔ Listed s.assets id ∧ recordedAsset prior ≠ some id) ∧
      (undoInvocation env cr step rollbackConnector rollbackAction prior connector
        s).2.committedAssets = s.committedAssets := by
  have hinvoke : ∀ t : Site ω, SameListing t id ((do
      Py.modify fun s => s.log (.undo step (.obj prior))
      invokeUndo env rollbackConnector rollbackAction (undoParameters cr step prior) prior
        connector : Py (Site ω) Json) t).2 := fun t =>
    invokeUndo_listing hfresh _ _ _ _ _ (t.log (.undo step (.obj prior))) ⟨Iff.rfl,rfl⟩
  cases hrecorded : prior.truthy "_auto_asset_id" with
  | false =>
    rw [undoInvocation,hrecorded,recordedAsset,hrecorded]
    obtain ⟨hlisted,hcommitted⟩ := hinvoke s
    exact ⟨hlisted.trans (by simp),hcommitted⟩
  | true =>
    obtain ⟨hdeleted,hkept⟩ := deleteAutoAsset_listed id hrecorded s
    rw [undoInvocation,if_pos hrecorded,Py.bind_run]
    rcases hrun : deleteAutoAsset (prior.getD "_auto_asset_id" .null) s with ⟨_ | u,t⟩
    · rw [hrun] at hdeleted hkept
      exact ⟨hdeleted,hkept⟩
    · rw [hrun] at hdeleted hkept
      obtain ⟨hlisted,hcommitted⟩ := hinvoke t
      exact ⟨hlisted.trans hdeleted,hcommitted.trans hkept⟩

theorem tryUndo_eq (step : PlanStep) (rollbackConnector rollbackAction : String)
    (prior : Dict) (connector : Option Connector) :
    tryUndo env step rollbackConnector rollbackAction (undoParameters cr step prior) prior
        connector =
      undoInvocation env cr step rollbackConnector rollbackAction prior connector >>= fun result =>
        removeTerminated rollbackAction (undoParameters cr step prior) prior connector >>=
          fun _ => pure result := by
  cases h : prior.truthy "_auto_asset_id" <;>
    simp only [tryUndo,undoInvocation,h,Py.bind_assoc,if_true,if_false,Bool.false_eq_true]

/-- The rest of an undo: the entries of a terminated instance are removed, where it removes any. -/
theorem removeTerminated_cases (cr : ChangeRequest) (rollbackAction : String) (step : PlanStep)
    (prior : Dict) (connector : Option Connector) (t : Site ω) :
    (∃ c, connector = some c ∧ rollbackAction = "terminate_instance" ∧
        (terminatedInstance cr step prior).truthy = true ∧
        removeTerminated rollbackAction (undoParameters cr step prior) prior connector t =
          (.ok (),(t.removeInstance c.organizationId (terminatedInstance cr step prior)).commit)) ∨
      ((connector = none ∨ rollbackAction ≠ "terminate_instance" ∨
          (terminatedInstance cr step prior).truthy = false) ∧
        removeTerminated rollbackAction (undoParameters cr step prior) prior connector t =
          (.ok (),t)) := by
  unfold removeTerminated
  cases connector with
  | none => exact Or.inr ⟨Or.inl rfl,rfl⟩
  | some c =>
    by_cases hends : rollbackAction = "terminate_instance" ∧
        (terminatedInstance cr step prior).truthy = true
    · exact Or.inl ⟨c,rfl,hends.1,hends.2,by rw [terminatedInstance] at hends ⊢; simp [hends]⟩
    · refine Or.inr ⟨Or.inr ?_,by rw [terminatedInstance] at hends; simp [hends]⟩
      by_cases haction : rollbackAction = "terminate_instance"
      · exact Or.inr (by simpa [haction] using hends)
      · exact Or.inl haction

/-- One undo: it removes the entries of an instance and commits, it cannot start, or it commits
nothing and takes at most the recorded entry away. -/
theorem undoStep_inventory (hfresh : ∀ assets, env.newUuid assets ≠ id) (cr : ChangeRequest)
    (connectors : List Connector) (results : List (Json × Json))
    (undo : PlanStep × String × String) (s : Site ω) :
    (∃ r t organizationId instanceId, Removes env cr connectors results undo s t organizationId
        instanceId ∧
      undoStep env cr connectors results undo s =
        (.ok r,(t.removeInstance organizationId instanceId).commit)) ∨
    (∀ t organizationId instanceId,
        ¬Removes env cr connectors results undo s t organizationId instanceId) ∧
      ((∃ e, undoStep env cr connectors results undo s = (.error e,s)) ∨
        ∃ r s', undoStep env cr connectors results undo s = (.ok r,s') ∧
          s'.committedAssets = s.committedAssets ∧
          (Listed s'.assets id ↔ Listed s.assets id ∧ undoneAsset results undo ≠ some id)) := by
  rw [undoStep,undoneAsset]
  dsimp only
  cases hconnector : undoConnector env cr connectors undo.1 undo.2.2 with
  | error e =>
    refine Or.inr ⟨?_,Or.inl ⟨e,rfl⟩⟩
    rintro t organizationId instanceId ⟨c,prior,result,hc,_⟩
    rw [hconnector] at hc
    cases hc
  | ok connector =>
    rw [Py.ofExcept_ok_bind]
    cases hprior : (priorResult results undo.1.stepNumber).mapping with
    | error e =>
      refine Or.inr ⟨?_,Or.inl ⟨e,rfl⟩⟩
      rintro t organizationId instanceId ⟨c,prior,result,_,hp,_⟩
      rw [hprior] at hp
      cases hp
    | ok prior =>
      rw [Py.ofExcept_ok_bind,tryUndo_eq]
      obtain ⟨hlisted,hcommitted⟩ := undoInvocation_listed hfresh cr undo.1
        (actualType undo.2.2 connector) undo.2.1 prior connector s
      rcases hinvoked : undoInvocation env cr undo.1 (actualType undo.2.2 connector) undo.2.1 prior
        connector s with ⟨e | result,t⟩
      · -- An invocation that raises is recorded as a failure of the step.
        rw [hinvoked] at hlisted hcommitted
        rw [Py.bind_ok (Py.tryExcept_error (Py.bind_error hinvoked) _)]
        refine Or.inr ⟨?_,Or.inr ⟨_,t,rfl,hcommitted,hlisted⟩⟩
        rintro t' organizationId instanceId ⟨c,prior',result,hc,hp,_,_,_,_,hrun⟩
        obtain rfl := Except.ok.inj (hconnector.symm.trans hc)
        obtain rfl := Except.ok.inj (hprior.symm.trans hp)
        rw [hinvoked] at hrun
        cases hrun
      · rw [hinvoked] at hlisted hcommitted
        rcases removeTerminated_cases cr undo.2.1 undo.1 prior connector t with
          ⟨c,rfl,haction,htruthy,hremoved⟩ | ⟨hno,hkept⟩
        · refine Or.inl ⟨⟨undo.1.stepNumber,undo.2.1,result⟩,t,c.organizationId,
            terminatedInstance cr undo.1 prior,
            ⟨c,prior,result,hconnector,hprior,haction,rfl,htruthy,rfl,hinvoked⟩,?_⟩
          rw [Py.bind_ok (Py.tryExcept_ok ((Py.bind_ok hinvoked).trans (Py.bind_ok hremoved)) _)]
          rfl
        · rw [Py.bind_ok (Py.tryExcept_ok ((Py.bind_ok hinvoked).trans (Py.bind_ok hkept)) _)]
          refine Or.inr ⟨?_,Or.inr ⟨_,t,rfl,hcommitted,hlisted⟩⟩
          rintro t' organizationId instanceId ⟨c,prior',result',hc,hp,haction,rfl,htruthy,_,_⟩
          obtain rfl := Except.ok.inj (hconnector.symm.trans hc)
          obtain rfl := Except.ok.inj (hprior.symm.trans hp)
          simp [haction,htruthy] at hno

theorem Removes.unique {t t' : Site ω} {organizationId organizationId' : Uuid}
    {instanceId instanceId' : Json}
    (h : Removes env cr connectors results undo s t organizationId instanceId)
    (h' : Removes env cr connectors results undo s t' organizationId' instanceId') :
    t = t' ∧ organizationId = organizationId' ∧ instanceId = instanceId' := by
  obtain ⟨c,prior,result,hc,hp,_,rfl,_,rfl,hrun⟩ := h
  obtain ⟨c',prior',result',hc',hp',_,rfl,_,rfl,hrun'⟩ := h'
  obtain rfl := Option.some.inj (Except.ok.inj (hc.symm.trans hc'))
  obtain rfl := Except.ok.inj (hp.symm.trans hp')
  exact ⟨(Prod.mk.inj (hrun.symm.trans hrun')).2,rfl,rfl⟩

theorem Removes.listed (hfresh : ∀ assets, env.newUuid assets ≠ id) {t : Site ω}
    {organizationId : Uuid} {instanceId : Json}
    (h : Removes env cr connectors results undo s t organizationId instanceId) :
    Listed t.assets id ↔ Listed s.assets id ∧ undoneAsset results undo ≠ some id := by
  obtain ⟨c,prior,result,_,hprior,_,_,_,_,hrun⟩ := h
  have hlisted := (undoInvocation_listed hfresh cr undo.1 (actualType undo.2.2 (some c)) undo.2.1
    prior (some c) s).1
  rw [hrun] at hlisted
  rw [undoneAsset,hprior]
  exact hlisted

theorem each_cons_state {σ α β : Type} (f : α → Py σ β) (a : α) (as : List α) (s : σ) :
    (Py.each f (a :: as) s).2 =
      match f a s with
      | (.ok _,t) => (Py.each f as t).2
      | (.error _,t) => t := by
  rw [Py.each,Py.bind_run]
  rcases f a s with ⟨e | b,t⟩
  · rfl
  · dsimp only
    rw [Py.bind_run]
    rcases Py.each f as t with ⟨e | bs,u⟩ <;> rfl

theorem undoSteps_gone (hfresh : ∀ assets, env.newUuid assets ≠ id) (cr : ChangeRequest)
    (connectors : List Connector) (results : List (Json × Json))
    (undos : List (PlanStep × String × String)) :
    Py.Keeps (fun t => ¬Listed t.assets id ∧ ¬Listed t.committedAssets id)
      (Py.each (undoStep env cr connectors results) undos) := by
  refine .each (fun undo s hs => ?_) undos
  rcases undoStep_inventory hfresh cr connectors results undo s with
    ⟨r,t,organizationId,instanceId,hremoves,hrun⟩ |
      ⟨_,⟨e,hrun⟩ | ⟨r,s',hrun,hcommitted,hlisted⟩⟩
  · rw [hrun]
    have hgone : ¬Listed (t.removeInstance organizationId instanceId).assets id := fun hleft =>
      hs.1 ((hremoves.listed hfresh).mp ((removeInstance_listed t _ _).mp hleft).1).1
    exact ⟨hgone,hgone⟩
  · rw [hrun]
    exact hs
  · rw [hrun]
    exact ⟨fun h => hs.1 (hlisted.mp h).1,by rw [hcommitted]; exact hs.2⟩

/-- An entry survives the undos exactly when it is spared by their removals. -/
theorem undoSteps_listed_iff (hfresh : ∀ assets, env.newUuid assets ≠ id) (cr : ChangeRequest)
    (connectors : List Connector) (results : List (Json × Json))
    (done undos : List (PlanStep × String × String)) (s : Site ω)
    (hs : Listed s.committedAssets id)
    (hdone : Listed s.assets id ↔ ∀ u ∈ done, undoneAsset results u ≠ some id) :
    Listed (Py.each (undoStep env cr connectors results) undos s).2.committedAssets id ↔
      SparedBy env cr connectors results id done undos s := by
  induction undos generalizing done s with
  | nil => exact iff_of_true hs trivial
  | cons undo undos ih =>
    rw [each_cons_state,SparedBy]
    have hsnoc : (∀ u ∈ done ++ [undo], undoneAsset results u ≠ some id) ↔
        Listed s.assets id ∧ undoneAsset results undo ≠ some id := by
      rw [hdone]
      simp [or_imp,forall_and]
    rcases undoStep_inventory hfresh cr connectors results undo s with
      ⟨r,t,organizationId,instanceId,hremoves,hrun⟩ |
        ⟨hno,⟨e,hrun⟩ | ⟨r,s',hrun,hcommitted,hlisted⟩⟩
    · rw [hrun]
      have hspared : Listed (t.removeInstance organizationId instanceId).assets id ↔
          (∀ u ∈ done ++ [undo], undoneAsset results u ≠ some id) ∧
            ¬OnlyOf t.assets organizationId instanceId id := by
        rw [removeInstance_listed,hremoves.listed hfresh,hsnoc]
      by_cases hleft : Listed (t.removeInstance organizationId instanceId).assets id
      · have hkept := hspared.mp hleft
        refine (ih (done ++ [undo]) (t.removeInstance organizationId instanceId).commit hleft
            (iff_of_true hleft hkept.1)).trans
          ⟨fun h => ⟨?_,?_⟩,fun h => h.2 _ _ rfl⟩
        · intro t' organizationId' instanceId' hother
          obtain ⟨rfl,rfl,rfl⟩ := hremoves.unique hother
          exact hkept
        · intro r' s' hr
          obtain ⟨_,rfl⟩ := Prod.mk.inj hr
          exact h
      · -- The entry is gone for the session and for good.
        refine iff_of_false ?_ fun h => hleft (hspared.mpr (h.1 _ _ _ hremoves))
        exact (undoSteps_gone hfresh cr connectors results undos
          (t.removeInstance organizationId instanceId).commit ⟨hleft,hleft⟩).2
    · rw [hrun]
      refine iff_of_true hs ⟨fun t o i h => absurd h (hno t o i),fun r s' h => ?_⟩
      cases h
    · rw [hrun]
      have hkept : Listed s'.committedAssets id := by
        rw [hcommitted]
        exact hs
      refine (ih (done ++ [undo]) s' hkept (hlisted.trans hsnoc.symm)).trans
        ⟨fun h => ⟨fun t o i hr => absurd hr (hno t o i),?_⟩,fun h => h.2 r s' rfl⟩
      intro r' s'' hr
      obtain ⟨_,rfl⟩ := Prod.mk.inj hr
      exact h

end Undo

/-- A session is not open: what it has flushed is what has been committed. -/
def Site.Closed (s : Site ω) : Prop := s.assets = s.committedAssets

/-- A state of the change after its execution, to which others may have added. -/
structure LaterInventory (w₁ w₂ : World ω) : Prop where
  closed : w₂.site.Closed
  kept : ∀ id, Listed w₁.site.committedAssets id → Listed w₂.site.committedAssets id

/-- Every asset from before the execution is still there after the rollback. -/
def InventorySurvives (env : Env ω) (w₀ w₂ : World ω) : Prop :=
  ∀ id, Listed w₀.site.committedAssets id →
    Listed (executeCrRollback env [] w₂).2.site.committedAssets id

/-- Every asset from before the execution is spared by the undos of the plan steps, where these are
what is executed. -/
def InventorySpared (env : Env ω) (w₀ w₂ : World ω) : Prop :=
  workflowExecutor w₂.cr.changeType = .planSteps → ∀ results,
    stepResultByNumber w₂.storedResult = .ok results → ∀ id, Listed w₀.site.committedAssets id →
      SparedBy env w₂.cr w₂.connectors results id [] (plannedUndos w₂.cr.steps) w₂.site

section Main

variable {env : Env ω} {w w₀ w₁ w₂ : World ω} {id : Uuid}

theorem executeChangeWorkflow_listed (hfresh : ∀ assets, env.newUuid assets ≠ id)
    (hclosed : w.site.Closed) (h : Listed w.site.committedAssets id) :
    Listed (executeChangeWorkflow env w).2.site.committedAssets id := by
  have hboth : Listed w.site.assets id ∧ Listed w.site.committedAssets id := by
    rw [hclosed]
    exact ⟨h,h⟩
  exact (executeChangeWorkflow_site (inventoryWrites hfresh) w hboth).2

theorem committedWrites (assets : List Asset) :
    UndoWrites fun s : Site ω => s.committedAssets = assets := ⟨fun _ _ h => h,fun _ _ h => h⟩

theorem plannedUndos_eq_nil {steps : List PlanStep} (h : steps.any declaresRollback = false) :
    plannedUndos steps = [] := by
  rw [plannedUndos,List.filterMap_eq_nil_iff]
  intro step hstep
  cases hdeclared : declaredUndo step with
  | none => rfl
  | some undo =>
    have hany := List.any_eq_true.mpr
      ⟨step,List.mem_reverse.mp hstep,declaredUndo_declares (by rw [hdeclared]; rfl)⟩
    rw [h] at hany
    cases hany

/-- What the rollback leaves of the inventory is what the undos of the plan leave of it. -/
theorem executeCrRollback_inventory (hexec : workflowExecutor w.cr.changeType = .planSteps) :
    (executeCrRollback env [] w).2.site.committedAssets =
      match stepResultByNumber w.storedResult with
      | .ok results => (Py.each (undoStep env w.cr w.connectors results)
          (plannedUndos w.cr.steps) w.site).2.committedAssets
      | .error _ => w.site.committedAssets := by
  rw [executeCrRollback_planSteps hexec,rollbackPlan_site,undoPlan,Py.get_bind]
  cases hany : w.cr.steps.any declaresRollback with
  | true =>
    rw [if_pos rfl]
    cases hresults : stepResultByNumber w.storedResult with
    | ok results =>
      rw [World.storedResult] at hresults
      rw [activityExecuteRollback_site hexec hresults]
      rfl
    | error e =>
      rw [World.storedResult] at hresults
      rw [activityExecuteRollback_planSteps hexec,hresults]
      rfl
  | false =>
    rw [if_neg Bool.false_ne_true,plannedUndos_eq_nil hany]
    have hkept : (executorFallback env w.cr w.connectors w.storedResult w.site).2.committedAssets =
        w.site.committedAssets := executorFallback_site (committedWrites _) _ w.site rfl
    refine Eq.trans hkept ?_
    cases stepResultByNumber w.storedResult <;> rfl

end Main

/-- Every asset from before the execution survives a later rollback exactly when the undos of the
plan steps spare it. -/
theorem inventory_survives_iff {env : Env ω} {w₀ w₂ : World ω} (hclosed : w₀.site.Closed)
    (hlater : LaterInventory (executeChangeWorkflow env w₀).2 w₂)
    (hfresh : ∀ id, Listed w₀.site.committedAssets id → ∀ assets, env.newUuid assets ≠ id) :
    InventorySurvives env w₀ w₂ ↔ InventorySpared env w₀ w₂ := by
  have hkept : ∀ id, Listed w₀.site.committedAssets id → Listed w₂.site.committedAssets id :=
    fun id h => hlater.kept id (executeChangeWorkflow_listed (hfresh id h) hclosed h)
  rw [InventorySurvives,InventorySpared]
  by_cases hexec : workflowExecutor w₂.cr.changeType = .planSteps
  · rw [executeCrRollback_inventory hexec]
    cases hresults : stepResultByNumber w₂.storedResult with
    | error e => exact iff_of_true hkept (by simp)
    | ok results =>
      have hspared : ∀ id, Listed w₀.site.committedAssets id →
          (Listed (Py.each (undoStep env w₂.cr w₂.connectors results) (plannedUndos w₂.cr.steps)
              w₂.site).2.committedAssets id ↔
            SparedBy env w₂.cr w₂.connectors results id [] (plannedUndos w₂.cr.steps)
              w₂.site) := by
        intro id h
        refine undoSteps_listed_iff (hfresh id h) _ _ _ [] _ _ (hkept id h) ?_
        rw [hlater.closed]
        simpa using hkept id h
      constructor
      · intro h _ results' hok id hlisted
        obtain rfl := Except.ok.inj hok
        exact (hspared id hlisted).mp (h id hlisted)
      · intro h id hlisted
        exact (hspared id hlisted).mpr (h hexec results rfl id hlisted)
  · have hcommitted : (executeCrRollback env [] w₂).2.site.committedAssets =
        w₂.site.committedAssets := executeCrRollback_site (committedWrites _) [] hexec rfl
    rw [hcommitted]
    exact iff_of_true hkept fun h => absurd h hexec

/-- Modules that launch an instance under a name, and have no pre-state to undo a termination. -/
def launchModules (name : String) : Env Unit :=
  { Env.ofModules fun _ action =>
      if action = "launch_instance" then .ok ⟨fun _ _ _ => pure (.obj
        [("action",.str "launch_instance"),("instance_id",.str "i-1"),("_auto_asset",.obj
          [("name",.str name),("asset_metadata",.obj [("instance_id",.str "i-1")]),
            ("tags",.arr [.str "ec2"])])]),none⟩
      else .ok ⟨fun _ _ _ => pure (.obj []),some fun _ _ _ => pure (.obj
        [("rolled_back",.bool false),("reason",.str "no pre-state captured")])⟩ with
    newUuid := fun _ => "bbbbbbbb-2222-4222-8222-222222222222" }

def sampleAsset : Asset := ⟨"aaaaaaaa-1111-4111-8111-111111111111","org-1",
  some "12345678-1234-5678-1234-567812345678","web","server","prod","medium",.obj [],[]⟩

/-- A plan that launches an instance, next to an asset that is there already. -/
def sampleLaunch : World Unit :=
  { sampleApproved (.generic "catalog_action")
      (some ⟨[sampleStep 1 "launch_instance" (some "terminate_instance")],[],[],""⟩) [] with
    site := ⟨[sampleAsset],[sampleAsset],[],[],()⟩ }

def sampleLaunched (name : String) : World Unit :=
  (executeChangeWorkflow (launchModules name) sampleLaunch).2

/-- Launching another instance updates the asset of that name, and undoing it deletes the asset. -/
theorem existing_asset_deleted :
    Listed sampleLaunch.site.committedAssets sampleAsset.id ∧
      (executeCrRollback (launchModules "web") [] (sampleLaunched "web")).2.site.committedAssets =
        [] ∧
      ¬InventorySurvives (launchModules "web") sampleLaunch (sampleLaunched "web") := by
  have hgone : (executeCrRollback (launchModules "web") []
      (sampleLaunched "web")).2.site.committedAssets = [] := rfl
  have hlisted : Listed sampleLaunch.site.committedAssets sampleAsset.id :=
    ⟨sampleAsset,List.mem_singleton_self _,rfl⟩
  refine ⟨hlisted,hgone,fun h => ?_⟩
  obtain ⟨asset,hasset,_⟩ := h _ hlisted
  rw [hgone] at hasset
  cases hasset

/-- Under a name of its own, the launched instance gets an asset of its own. -/
theorem sample_inventory_survives :
    (InventorySurvives (launchModules "db") sampleLaunch (sampleLaunched "db") ↔
      InventorySpared (launchModules "db") sampleLaunch (sampleLaunched "db")) ∧
    (executeCrRollback (launchModules "db") []
      (sampleLaunched "db")).2.site.committedAssets.map Asset.id = [sampleAsset.id] := by
  have hfresh : ∀ id, Listed sampleLaunch.site.committedAssets id →
      ∀ assets, (launchModules "db").newUuid assets ≠ id := by
    rintro id ⟨asset,hasset,rfl⟩ assets
    obtain rfl := List.mem_singleton.mp hasset
    simp [launchModules,sampleAsset]
  exact ⟨inventory_survives_iff rfl ⟨rfl,fun _ h => h⟩ hfresh,rfl⟩

end Nexplane
