import Nexplane.CompletedPlans
import Nexplane.UndoConnector

set_option autoImplicit false

/-! Whether the generic rollback brings the managed resources back to what they were before the
steps of the plan. The executor modules are assumed to be inverses of each other where the catalog
pairs them. -/

namespace Nexplane
open PyValue Saga

variable {ω ρ : Type}

/-- The module of a rollback function declines to undo anything. -/
def Refuses (answer : Json) : Prop :=
  ∃ d, answer = .obj d ∧ Dict.getD d "rolled_back" .null = .bool false

/-- Given what `act` returned, an `undo` that succeeds brings `view` back to what it was before
`act`. Both run with the connector `used`. -/
def Inverts (view : ω → ρ) (used : Option Uuid) (success : Json → Prop)
    (act : Dict → List String → Option Connector → Py ω Json)
    (undo : Dict → Option Connector → Py ω Json) : Prop :=
  ∀ parameters assetIds c raw prior o o', c.map Connector.id = used →
    act parameters assetIds c o = (.ok raw,o') → RecordedAs raw (.obj prior) →
      ∀ c' answer p p', c'.map Connector.id = used → view p = view o' →
        undo prior c' p = (.ok answer,p') → success answer → view p' = view o

/-- The rollback action as the rollback invokes it, with the step's own result. -/
def ExecutorModule.asUndo (module : ExecutorModule ω) (cr : ChangeRequest) (step : PlanStep)
    (prior : Dict) (c : Option Connector) : Py ω Json :=
  module.execute (undoParameters cr step prior) (Dict.getD prior "_asset_ids" .null).strings c

/-- What is assumed of the executor modules: the rollback action that a step declares inverts the
step's action, and the rollback function of a module inverts the module's own action, or
refuses to. -/
structure UndoLaws (env : Env ω) (view : ω → ρ) (cr : ChangeRequest) (steps : List PlanStep) :
    Prop where
  declared : ∀ step ∈ steps, ∀ undo undoType, declaredUndo step = some (undo,undoType) →
    ∀ c c' module inverse, c'.map Connector.id = c.map Connector.id →
      env.getExecutor (actualType (step.connectorType.getD "") c) (step.actionId.getD "") =
        .ok module →
      env.getExecutor (actualType undoType c') undo = .ok inverse →
        Inverts view (c.map Connector.id) NoError module.execute (inverse.asUndo cr step)
  own : ∀ connectorType actionId execute rollback,
    env.getExecutor connectorType actionId = .ok ⟨execute,some rollback⟩ → ∀ used step,
      Inverts view used (fun answer => NoError answer ∧ ¬Refuses answer) execute
        fun prior c => rollback (undoParameters cr step prior) (.obj prior) c

/-- The undo of a step is what inverts its action: the rollback action itself, or the rollback
function of the step's own module. -/
def PerformsInverse (env : Env ω) (cr : ChangeRequest) (connectors : List Connector)
    (d : StepDone ω) : Prop :=
  ∀ undo undoType c, declaredUndo d.step = some (undo,undoType) →
    undoConnector env cr connectors d.step undoType = .ok c → ∀ parameters prior,
      invokeUndo env (actualType undoType c) undo parameters prior c =
          executeAction env (actualType undoType c) undo parameters
            (Dict.getD prior "_asset_ids" .null).strings c ∨
        ∃ execute rollback, env.getExecutor d.record.connectorType d.record.actionId =
            .ok ⟨execute,some rollback⟩ ∧
          invokeUndo env (actualType undoType c) undo parameters prior c =
            outside (rollback parameters (.obj prior) c)

/-- A rollback that ends in rolled back has brought back what was there before the steps, and has
performed an inverse of each of them. -/
structure ReallyUndone (env : Env ω) (view : ω → ρ) (w w₂ : World ω) (ds : List (StepDone ω)) :
    Prop where
  restored : ∀ result w₃, executeCrRollback env [] w₂ = (.ok result,w₃) →
    w₃.cr.status = .rolledBack → view w₃.site.outside = view w.site.outside
  inverse : ∀ d ∈ ds, PerformsInverse env w₂.cr w₂.connectors d

/-- The undo of a completed step runs with the step's connector. The module of the rollback action
has no rollback function, or is the step's own and does not refuse the step's result. -/
structure RightUndo (env : Env ω) (view : ω → ρ) (cr : ChangeRequest) (connectors : List Connector)
    (d : StepDone ω) : Prop where
  connector : ∀ undo undoType c, declaredUndo d.step = some (undo,undoType) →
    undoConnector env cr connectors d.step undoType = .ok c → c.map Connector.id = d.used
  module : ∀ undo undoType c execute rollback, declaredUndo d.step = some (undo,undoType) →
    undoConnector env cr connectors d.step undoType = .ok c →
    env.getExecutor (actualType undoType c) undo = .ok ⟨execute,some rollback⟩ →
      env.getExecutor d.record.connectorType d.record.actionId = .ok ⟨execute,some rollback⟩ ∧
      ∀ prior answer o o', d.record.result = .obj prior → view o = view d.left →
        rollback (undoParameters cr d.step prior) (.obj prior) c o = (.ok answer,o') →
          ¬Refuses answer

/-- All steps of the plan have been completed, under numbers of their own, and each has the right
undo. -/
structure RightUndos (env : Env ω) (view : ω → ρ) (w w₂ : World ω) (ds : List (StepDone ω)) :
    Prop where
  complete : ds.map StepDone.step = w.cr.steps
  numbers : (w.cr.steps.map PlanStep.stepNumber).Nodup
  steps : ∀ d ∈ ds, RightUndo env view w₂.cr w₂.connectors d

section Undo

variable {env : Env ω} {cr : ChangeRequest} {connectors : List Connector}
  {results : List (Json × Json)} {step : PlanStep} {undo undoType : String}
  {parameters prior : Dict} {connector : Option Connector} {s s' : Site ω} {result : Json}
  {record : UndoRecord}

/-- The rollback function of the rollback action's module goes before the rollback action. -/
theorem invokeUndo_cases (env : Env ω) (undoType undo : String) (parameters prior : Dict)
    (connector : Option Connector) :
    (∃ execute rollback, env.getExecutor undoType undo = .ok ⟨execute,some rollback⟩ ∧
        invokeUndo env undoType undo parameters prior connector =
          outside (rollback parameters (.obj prior) connector)) ∨
      invokeUndo env undoType undo parameters prior connector =
        executeAction env undoType undo parameters (Dict.getD prior "_asset_ids" .null).strings
          connector := by
  rcases hfound : env.getExecutor undoType undo with e | ⟨execute,_ | rollback⟩
  · exact Or.inr (by rw [invokeUndo,hfound])
  · exact Or.inr (by rw [invokeUndo,hfound])
  · exact Or.inl ⟨execute,rollback,rfl,by rw [invokeUndo,hfound]⟩

theorem tryUndo_returns
    (h : tryUndo env step undoType undo parameters prior connector s = (.ok result,s')) :
    ∃ t t', invokeUndo env undoType undo parameters prior connector t = (.ok result,t') ∧
      t.outside = s.outside ∧ s'.outside = t'.outside := by
  have hdelete : ∀ assetId, Py.Keeps (fun t : Site ω => t.outside = s.outside)
      (deleteAutoAsset assetId) := fun assetId =>
    .bind (.ofExcept _) fun _ => .bind (.ofExcept _) fun _ => .modify fun _ h => h
  have hremove : ∀ o, Py.Keeps (fun t : Site ω => t.outside = o)
      (removeTerminated undo parameters prior connector) := by
    intro o
    cases connector with
    | none => exact .pure _
    | some c => exact .ite (.modify fun _ h => h) (.pure _)
  have hinvoke : ∀ u : Site ω, u.outside = s.outside → (do
      Py.modify fun s => s.log (.undo step (.obj prior))
      let result ← invokeUndo env undoType undo parameters prior connector
      removeTerminated undo parameters prior connector
      pure result : Py (Site ω) Json) u = (.ok result,s') →
        ∃ t t', invokeUndo env undoType undo parameters prior connector t = (.ok result,t') ∧
          t.outside = s.outside ∧ s'.outside = t'.outside := by
    intro u hu hrun
    rw [Py.modify_bind] at hrun
    obtain ⟨answer,t',hanswer,hrun⟩ := Py.bind_eq_ok.mp hrun
    obtain ⟨_,v,hremoved,hrun⟩ := Py.bind_eq_ok.mp hrun
    obtain ⟨hresult,rfl⟩ := Prod.mk.inj hrun
    obtain rfl := Except.ok.inj hresult
    exact ⟨_,t',hanswer,hu,(hremove t'.outside).run hremoved rfl⟩
  rw [tryUndo] at h
  split at h
  · obtain ⟨_,u,hdeleted,h⟩ := Py.bind_eq_ok.mp h
    exact hinvoke u ((hdelete _).run hdeleted rfl) h
  · exact hinvoke s rfl h

/-- An undo without an error is one run of the invoked function, on the step's stored result. -/
theorem undoStep_returns
    (h : undoStep env cr connectors results (step,undo,undoType) s = (.ok record,s'))
    (hok : NoError record.result) :
    ∃ c prior t t', undoConnector env cr connectors step undoType = .ok c ∧
      priorResult results step.stepNumber = .obj prior ∧
      invokeUndo env (actualType undoType c) undo (undoParameters cr step prior) prior c t =
        (.ok record.result,t') ∧ t.outside = s.outside ∧ s'.outside = t'.outside := by
  obtain ⟨c,hc,h⟩ := Py.ofExcept_bind_eq_ok.mp h
  obtain ⟨prior,hprior,h⟩ := Py.ofExcept_bind_eq_ok.mp h
  obtain ⟨result,u,hresult,h⟩ := Py.bind_eq_ok.mp h
  obtain ⟨hrecord,rfl⟩ := Prod.mk.inj h
  obtain rfl := Except.ok.inj hrecord
  have hobj : priorResult results step.stepNumber = .obj prior := by
    cases hr : priorResult results step.stepNumber with
    | obj d =>
      rw [hr] at hprior
      exact congrArg Json.obj (Except.ok.inj hprior)
    | _ => simp [hr,Json.mapping] at hprior
  rcases Py.tryExcept_eq_ok.mp hresult with hundone | ⟨e,v,_,hfailed⟩
  · obtain ⟨t,t',hinvoked,ht,ht'⟩ := tryUndo_returns hundone
    exact ⟨c,prior,t,t',hc,hobj,hinvoked,ht,ht'⟩
  · -- An exception becomes an answer with an error.
    obtain ⟨hfailure,_⟩ := Prod.mk.inj hfailed
    rw [← Except.ok.inj hfailure] at hok
    cases hok

theorem RecordedAs.noError {raw : Json} (h : RecordedAs raw result) (hok : NoError result) :
    NoError raw := by
  cases h with
  | plain raw => exact hok
  | asset d id =>
    have hkey : Dict.get? ((Dict.erase d "_auto_asset").set "_auto_asset_id" (.str id)) "error" =
        Dict.get? d "error" := by
      rw [Dict.get?_set_of_ne (by decide),Dict.get?_erase_of_ne (by decide)]
    rw [NoError,Json.contains,hkey] at hok
    exact hok

/-- The undo of a completed step ends without an error. -/
def UndoesStep (env : Env ω) (cr : ChangeRequest) (connectors : List Connector)
    (results : List (Json × Json)) (d : StepDone ω) (t t' : Site ω) : Prop :=
  ∃ undo undoType record, declaredUndo d.step = some (undo,undoType) ∧
    undoStep env cr connectors results (d.step,undo,undoType) t = (.ok record,t') ∧
    NoError record.result

theorem undoLoop_chain {ds : List (StepDone ω)} {records : List UndoRecord}
    (hdeclared : ∀ d ∈ ds, (declaredUndo d.step).isSome)
    (h : Py.each (undoStep env cr connectors results) ((ds.map StepDone.step).filterMap fun step =>
      (declaredUndo step).map fun undo => (step,undo)) s = (.ok records,s'))
    (hok : ∀ r ∈ records, NoError r.result) :
    Chain (UndoesStep env cr connectors results) ds s s' := by
  induction ds generalizing s records with
  | nil =>
    obtain ⟨_,rfl⟩ : [] = records ∧ s = s' := by simpa [Py.each] using h
    exact .nil s
  | cons d ds ih =>
    obtain ⟨⟨undo,undoType⟩,hundo⟩ := Option.isSome_iff_exists.mp (hdeclared d List.mem_cons_self)
    rw [List.map_cons,List.filterMap_cons_some (b := (d.step,undo,undoType)) (by rw [hundo]; rfl),
      Py.each] at h
    obtain ⟨record,t,hrecord,h⟩ := Py.bind_eq_ok.mp h
    obtain ⟨rest,u,hrest,h⟩ := Py.bind_eq_ok.mp h
    obtain ⟨hrecords,rfl⟩ := Prod.mk.inj h
    obtain rfl := Except.ok.inj hrecords
    refine .cons ⟨undo,undoType,record,hundo,hrecord,hok record List.mem_cons_self⟩ (ih ?_ hrest ?_)
    · exact fun d hd => hdeclared d (List.mem_cons_of_mem _ hd)
    · exact fun r hr => hok r (List.mem_cons_of_mem _ hr)

/-- The right undo of a completed step brings back what was there before the step. -/
theorem RightUndo.compensates {view : ω → ρ} {steps : List PlanStep} {cr' : ChangeRequest}
    {connectors' : List Connector} {d : StepDone ω} (hlaws : UndoLaws env view cr steps)
    (hright : RightUndo env view cr connectors d) (hd : d.step ∈ steps)
    (hown : priorResult results d.step.stepNumber = d.record.result) :
    Compensates (fun s : Site ω => view s.outside) (ActsStep env cr' connectors')
      (UndoesStep env cr connectors results) d := by
  rintro s s' t t' ⟨carried,hrun⟩ hview ⟨undo,undoType,record,hdeclared,hundo,hok⟩
  obtain ⟨c,module,attached,parameters,raw,hc,hmodule,hattached,hexec,hrecorded,_,haction,htype⟩ :=
    runStep_returns hrun.ran
  obtain ⟨c',prior,u,u',hc',hprior,hinvoked,hu,hu'⟩ := undoStep_returns hundo hok
  have hused : c.map Connector.id = d.used := by
    obtain ⟨c₀,hc₀,hid⟩ := hrun.connector
    obtain rfl := Except.ok.inj (hc.symm.trans hc₀)
    exact hid
  have hsame : c'.map Connector.id = d.used := hright.connector undo undoType c' hdeclared hc'
  have hresult : d.record.result = .obj prior := hown.symm.trans hprior
  have hkept : view u.outside = view s'.outside := by
    rw [hu]
    exact hview
  rw [hresult] at hrecorded
  show view t'.outside = view s.outside
  rw [hu']
  rcases invokeUndo_cases env (actualType undoType c') undo (undoParameters cr d.step prior) prior
    c' with ⟨execute,rollback,hfound,hinvoke⟩ | hinvoke <;> rw [hinvoke] at hinvoked
  · -- The rollback function is that of the step's own module.
    obtain ⟨hmine,haccepts⟩ := hright.module undo undoType c' execute rollback hdeclared hc' hfound
    rw [haction,htype] at hmine
    obtain rfl := Except.ok.inj (hmodule.symm.trans hmine)
    obtain ⟨hanswer,hstate⟩ := Prod.mk.inj hinvoked
    have hrolled : rollback (undoParameters cr d.step prior) (.obj prior) c' u.outside =
        (.ok record.result,u'.outside) := Prod.ext hanswer (congrArg Site.outside hstate)
    refine hlaws.own _ _ execute rollback hmine d.used d.step parameters _ attached raw prior
      s.outside s'.outside (hattached.trans hused) hexec hrecorded c' record.result u.outside
      u'.outside hsame hkept hrolled ⟨hok,?_⟩
    have hleft : view u.outside = view d.left := by rw [hkept,hrun.left]
    exact haccepts prior record.result u.outside u'.outside hresult hleft hrolled
  · obtain ⟨inverse,attached',raw',hinverse,hattached',hexec',hrecorded'⟩ :=
      executeAction_returns hinvoked
    have hboth : c'.map Connector.id = c.map Connector.id := hsame.trans hused.symm
    exact hlaws.declared d.step hd undo undoType hdeclared c c' module inverse hboth hmodule
      hinverse parameters _ attached raw prior s.outside s'.outside hattached hexec hrecorded
      attached' raw' u.outside u'.outside (hattached'.trans hboth) hkept hexec'
      (hrecorded'.noError hok)

end Undo

/-- A later state of the change, in which only runs of rollbacks have been added and the resources
are as the steps have left them. -/
structure AwaitsUndo (view : ω → ρ) (w w₁ w₂ : World ω) (site : Site ω) : Prop where
  rows : AwaitsRollback w w₁ w₂
  resources : view w₂.site.outside = view site.outside

/-- The change has a plan, and each step of it declares its undo. -/
structure DeclaresUndos (w : World ω) : Prop where
  steps : w.cr.steps ≠ []
  declared : ∀ step ∈ w.cr.steps, (declaredUndo step).isSome

section Main

variable {env : Env ω} {view : ω → ρ} {w w₁ w₂ : World ω} {ds : List (StepDone ω)} {site : Site ω}

theorem RightUndos.restored (hlaws : UndoLaws env view w₂.cr w.cr.steps) (hplan : DeclaresUndos w)
    (h : ExecutedChange env w w₁ ds site) (hl : AwaitsUndo view w w₁ w₂ site)
    (hright : RightUndos env view w w₂ ds) {result : Json} {w₃ : World ω}
    (hrun : executeCrRollback env [] w₂ = (.ok result,w₃)) (hst : w₃.cr.status = .rolledBack) :
    view w₃.site.outside = view w.site.outside := by
  have hc := hright.complete
  have hsteps : w₂.cr.steps = ds.map StepDone.step := by rw [hl.rows.steps,hc]
  have hdeclared : ∀ d ∈ ds, (declaredUndo d.step).isSome := fun d hd =>
    hplan.declared d.step (by rw [← hc]; exact List.mem_map_of_mem hd)
  have hdeclares : w₂.cr.steps.any declaresRollback = true := by
    obtain ⟨step,hstep⟩ := List.exists_mem_of_ne_nil _ hplan.steps
    rw [hl.rows.steps]
    exact List.any_eq_true.mpr ⟨step,hstep,declaredUndo_declares (hplan.declared step hstep)⟩
  have hexec : workflowExecutor w₂.cr.changeType = .planSteps := by
    rw [hl.rows.changeType]
    exact h.executor
  obtain ⟨records,t,hloop,hleft,hok⟩ := executeCrRollback_undoes hexec hdeclares
    (h.stored hplan.steps hc hl.rows) hrun hst
  have hact := h.ran.chain hc
  have hnumbers := chain_numbers hact
  have hnodup : ((ds.map StepDone.record).map StepRecord.stepNumber).Nodup := by
    have hsame : (ds.map StepDone.record).map StepRecord.stepNumber =
        w.cr.steps.map PlanStep.stepNumber := by
      rw [← hc,List.map_map,List.map_map]
      exact List.map_congr_left hnumbers
    rw [hsame]
    exact hright.numbers
  have hcompensates : ∀ d ∈ ds, Compensates (fun s : Site ω => view s.outside)
      (ActsStep env (w.markStatus .executing).cr w.connectors)
      (UndoesStep env w₂.cr w₂.connectors
        ((ds.map StepDone.record).map fun r => (.int r.stepNumber,r.result))) d := by
    intro d hd
    have hown := priorResult_own hnodup (List.mem_map_of_mem hd)
    rw [hnumbers d hd] at hown
    have hstep : d.step ∈ w.cr.steps := by
      rw [← hc]
      exact List.mem_map_of_mem hd
    exact (hright.steps d hd).compensates hlaws hstep hown
  rw [plannedUndos,hsteps,← List.map_reverse] at hloop
  have hundo := undoLoop_chain (fun d hd => hdeclared d (List.mem_reverse.mp hd)) hloop hok
  rw [hleft]
  exact hact.undone hcompensates hl.resources hundo

theorem RightUndo.performs {d : StepDone ω} (hright : RightUndo env view w.cr w.connectors d) :
    PerformsInverse env w.cr w.connectors d := by
  intro undo undoType c hdeclared hc parameters prior
  rcases invokeUndo_cases env (actualType undoType c) undo parameters prior c with
    ⟨execute,rollback,hfound,hinvoke⟩ | hinvoke
  · have hown := (hright.module undo undoType c execute rollback hdeclared hc hfound).1
    exact Or.inr ⟨execute,rollback,hown,hinvoke⟩
  · exact Or.inl hinvoke

end Main

/-- The rollback of a completed plan really undoes it when each step has the right undo. -/
theorem really_undone {env : Env ω} {view : ω → ρ} {w w₁ w₂ : World ω} {ds : List (StepDone ω)}
    {site : Site ω} (hlaws : UndoLaws env view w₂.cr w.cr.steps) (hplan : DeclaresUndos w)
    (h : ExecutedChange env w w₁ ds site) (hl : AwaitsUndo view w w₁ w₂ site)
    (hright : RightUndos env view w w₂ ds) : ReallyUndone env view w w₂ ds where
  restored := fun _ _ hrun hst => hright.restored hlaws hplan h hl hrun hst
  inverse := fun d hd => (hright.steps d hd).performs

/-- A security group's rules. Updating the group adds one, and restoring it takes one away. -/
def groupModules
    (rollback : Option (Dict → Json → Option Connector → Py (List String) Json)) :
    Env (List String) := Env.ofModules fun _ action =>
  if action = "update_security_group" then
    .ok ⟨fun _ _ _ => do
        Py.modify fun rules => rules ++ ["tcp/22"]
        pure (.obj [("group_id",.str "sg-1")]),
      some fun _ _ _ => do
        Py.modify List.dropLast
        pure (.obj [("rolled_back",.bool true)])⟩
  else
    .ok ⟨fun _ _ _ => do
        Py.modify List.dropLast
        pure (.obj [("action",.str "restore_security_group")]),rollback⟩

/-- The rollback function of `restore_security_group`. -/
def restoreRollback : Dict → Json → Option Connector → Py (List String) Json := fun _ _ _ =>
  pure (.obj [("rolled_back",.bool false),("reason",.str "restore has no further rollback")])

def sampleUpdate (number : Int) : PlanStep :=
  sampleStep number "update_security_group" (some "restore_security_group")

def sampleGroup (steps : List PlanStep) : World (List String) :=
  { sampleApproved (.generic "catalog_action") (some ⟨steps,[],[],""⟩) [] with
    site := ⟨[],[],[],[],[]⟩ }

def sampleUpdated (number : Int) (rules : List String) : StepDone (List String) :=
  ⟨sampleUpdate number,some "12345678-1234-5678-1234-567812345678",
    ⟨number,none,"update_security_group","aws",some "12345678-1234-5678-1234-567812345678",
      .obj [("group_id",.str "sg-1")]⟩,rules⟩

section

variable (rollback : Option (Dict → Json → Option Connector → Py (List String) Json))

theorem groupModules_laws (hrollback : ∀ r, rollback = some r → r = restoreRollback)
    (cr : ChangeRequest) {steps : List PlanStep}
    (hsteps : ∀ step ∈ steps, ∃ n, step = sampleUpdate n) :
    UndoLaws (groupModules rollback) id cr steps where
  declared := by
    intro step hstep undo undoType hundo c c' module inverse _ hmodule hinverse
    obtain ⟨n,rfl⟩ := hsteps step hstep
    obtain ⟨rfl,_⟩ : "restore_security_group" = undo ∧ "aws" = undoType :=
      Prod.mk.inj (Option.some.inj hundo)
    obtain rfl := Except.ok.inj hmodule
    obtain rfl := Except.ok.inj hinverse
    intro parameters assetIds c₁ raw prior o o' _ hact _ c₂ answer p p' _ hview hrestore _
    obtain ⟨_,rfl⟩ := Prod.mk.inj hact
    obtain ⟨_,rfl⟩ := Prod.mk.inj hrestore
    obtain rfl : p = o ++ ["tcp/22"] := hview
    exact List.dropLast_concat
  own := by
    intro connectorType actionId execute undo hfound used step parameters assetIds c₁ raw prior o o'
      _ hact _ c₂ answer p p' _ hview hundo hsuccess
    by_cases haction : actionId = "update_security_group"
    · simp only [groupModules,Env.ofModules,if_pos haction] at hfound
      obtain ⟨rfl,hundo'⟩ := ExecutorModule.mk.inj (Except.ok.inj hfound)
      obtain rfl := Option.some.inj hundo'
      obtain ⟨_,rfl⟩ := Prod.mk.inj hact
      obtain ⟨_,rfl⟩ := Prod.mk.inj hundo
      obtain rfl : p = o ++ ["tcp/22"] := hview
      exact List.dropLast_concat
    · -- Restoring a group has no undo but one that refuses.
      simp only [groupModules,Env.ofModules,if_neg haction] at hfound
      obtain ⟨_,hrestore⟩ := ExecutorModule.mk.inj (Except.ok.inj hfound)
      obtain rfl := hrollback undo hrestore
      obtain ⟨hanswer,_⟩ := Prod.mk.inj hundo
      exact absurd ⟨_,(Except.ok.inj hanswer).symm,rfl⟩ hsuccess.2

theorem sampleUpdate_runs (steps : List PlanStep) (number : Int) (carried : Dict)
    (s : Site (List String)) :
    (sampleUpdated number (s.outside ++ ["tcp/22"])).Runs (groupModules rollback)
      ((sampleGroup steps).markStatus .executing).cr (sampleGroup steps).connectors carried s
      (runStep (groupModules rollback) ((sampleGroup steps).markStatus .executing).cr
        (sampleGroup steps).connectors carried (sampleUpdate number) s).2 :=
  ⟨⟨_,rfl,rfl⟩,rfl,rfl⟩

end

def refusingModules : Env (List String) := groupModules (some restoreRollback)

def sampleRefused : World (List String) :=
  (executeChangeWorkflow refusingModules (sampleGroup [sampleUpdate 1])).2

/-- One rule is added. The rollback calls the rollback function of `restore_security_group`, which
refuses, and the change is rolled back with the rule in place. -/
theorem restore_refused :
    UndoLaws refusingModules id sampleRefused.cr [sampleUpdate 1] ∧
      DeclaresUndos (sampleGroup [sampleUpdate 1]) ∧
      (∃ site, ExecutedChange refusingModules (sampleGroup [sampleUpdate 1]) sampleRefused
        [sampleUpdated 1 ["tcp/22"]] site) ∧
      (executeCrRollback refusingModules [] sampleRefused).2.cr.status = .rolledBack ∧
      (executeCrRollback refusingModules [] sampleRefused).2.site.outside = ["tcp/22"] ∧
      ¬ReallyUndone refusingModules id (sampleGroup [sampleUpdate 1]) sampleRefused
        [sampleUpdated 1 ["tcp/22"]] := by
  refine ⟨groupModules_laws _ (fun r hr => (Option.some.inj hr).symm) _ (by simp),
    ⟨List.cons_ne_nil _ _,by decide⟩,
    ⟨_,rfl,⟨[],_,rfl,by decide⟩,by decide,
      .completed (sampleUpdate_runs _ _ 1 [] _) rfl (.done _ _),rfl⟩,rfl,rfl,fun h => ?_⟩
  have hrestored := h.restored _ _ rfl rfl
  cases hrestored

/-- Without a rollback function of its module, `restore_security_group` itself takes both rules
away. -/
theorem sample_really_undone :
    ReallyUndone (groupModules none) id (sampleGroup [sampleUpdate 1,sampleUpdate 2])
        (executeChangeWorkflow (groupModules none)
          (sampleGroup [sampleUpdate 1,sampleUpdate 2])).2
        [sampleUpdated 1 ["tcp/22"],sampleUpdated 2 ["tcp/22","tcp/22"]] ∧
      (executeCrRollback (groupModules none) [] (executeChangeWorkflow (groupModules none)
        (sampleGroup [sampleUpdate 1,sampleUpdate 2])).2).2.cr.status = .rolledBack := by
  have hright : ∀ number rules, RightUndo (groupModules none) id
      (executeChangeWorkflow (groupModules none)
        (sampleGroup [sampleUpdate 1,sampleUpdate 2])).2.cr
      (sampleGroup [sampleUpdate 1,sampleUpdate 2]).connectors (sampleUpdated number rules) := by
    intro number rules
    refine ⟨fun undo undoType c hundo hc => ?_,
      fun undo undoType c execute rollback hundo _ hfound => ?_⟩
    · obtain ⟨rfl,rfl⟩ : "restore_security_group" = undo ∧ "aws" = undoType :=
        Prod.mk.inj (Option.some.inj hundo)
      obtain rfl := Except.ok.inj hc
      rfl
    · obtain ⟨rfl,rfl⟩ : "restore_security_group" = undo ∧ "aws" = undoType :=
        Prod.mk.inj (Option.some.inj hundo)
      cases hfound
  have hlaws : UndoLaws (groupModules none) id (executeChangeWorkflow (groupModules none)
      (sampleGroup [sampleUpdate 1,sampleUpdate 2])).2.cr [sampleUpdate 1,sampleUpdate 2] :=
    groupModules_laws _ (fun r hr => by cases hr) _ (by simp)
  refine ⟨really_undone hlaws
    ⟨List.cons_ne_nil _ _,by decide⟩ ⟨rfl,⟨[],_,rfl,by decide⟩,by decide,
      .completed (sampleUpdate_runs _ _ 1 [] _) rfl
        (.completed (sampleUpdate_runs _ _ 2 _ _) rfl (.done _ _)),rfl⟩
    ⟨⟨rfl,rfl,[],rfl,by simp⟩,rfl⟩ ⟨rfl,by decide,?_⟩,rfl⟩
  intro d hd
  simp only [List.mem_cons,List.not_mem_nil,or_false] at hd
  rcases hd with rfl | rfl <;> exact hright _ _

end Nexplane
