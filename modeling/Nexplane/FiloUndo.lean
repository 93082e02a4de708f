import Nexplane.CredentialRotation
import Nexplane.Lib.Checks

set_option autoImplicit false

/-! What the rollback of a credential rotation undoes: its completed steps, from the last one to the
first, whatever each undo answers. -/

namespace Nexplane
open PyValue

variable {ω : Type}

/-- What the rollback reads of a step. -/
structure RotationStep where
  index : Json
  label : Json
  connectorType : String
  actionId : String
  params : Dict
  status : Json
  result : Json
  deriving Repr

namespace RotationStep

def Completed (step : RotationStep) : Prop := step.status.isStr "completed" = true

instance (step : RotationStep) : Decidable step.Completed := inferInstanceAs (Decidable (_ = true))

/-- The step that is stored as a dictionary. -/
structure StoredAs (step : RotationStep) (d : Dict) : Prop where
  index : d.get? "index" = some step.index
  label : d.getD "label" (.str "") = step.label
  connectorType : d.get? "connector_type" = some (.str step.connectorType)
  actionId : d.get? "action_id" = some (.str step.actionId)
  params : d.getD "params" (.obj []) = .obj step.params
  status : d.getD "status" .null = step.status
  result : d.getD "result" .null = step.result

def Stored (step : RotationStep) (item : Json) : Prop := ∃ d, item = .obj d ∧ step.StoredAs d

def entry (step : RotationStep) (result : Json) : Json :=
  .obj [("index",step.index),("label",step.label),("rollback_result",result)]

end RotationStep

/-- An execution result holds steps, itself or, where it has none, in its `execution`. -/
inductive HoldsSteps (items : List Json) : Json → Prop where
  | direct (d : Dict) (h : d.get? "steps" = some (.arr items)) (hne : items ≠ []) :
    HoldsSteps items (.obj d)
  | nested (d e : Dict) (h : (d.getD "steps" .null).truthy = false)
    (he : d.getD "execution" (.obj []) = .obj e) (hs : e.getD "steps" (.arr []) = .arr items) :
    HoldsSteps items (.obj d)

section Undone

variable (env : Env ω) (cr : ChangeRequest) (connectors : List Connector)

/-- One attempt to undo a step: the rollback function of its executor is called once, with the
step's own parameters and result, if there is one to call. -/
inductive Undone (step : RotationStep) : ω → Json → ω → Prop where
  | notLoaded (o : ω) (e : Exc) (h : env.getExecutor step.connectorType step.actionId = .error e) :
    Undone step o (.obj [("rolled_back",.bool false),
      ("error",.str ("Cannot load executor: " ++ e.str))]) o
  | noFunction (o : ω) (m : ExecutorModule ω)
    (h : env.getExecutor step.connectorType step.actionId = .ok m) (hm : m.rollback = none) :
    Undone step o (.obj [("rolled_back",.bool false),("reason",.str "no_rollback_function")]) o
  | answered (o o' : ω) (m : ExecutorModule ω) (f : Dict → Json → Option Connector → Py ω Json)
    (r : Json) (h : env.getExecutor step.connectorType step.actionId = .ok m)
    (hm : m.rollback = some f)
    (hf : f step.params (step.result.orElse (.obj []))
      (resolveConnector env connectors cr.organizationId (.str step.connectorType)) o =
        (.ok r,o')) : Undone step o r o'
  | raised (o o' : ω) (m : ExecutorModule ω) (f : Dict → Json → Option Connector → Py ω Json)
    (e : Exc) (h : env.getExecutor step.connectorType step.actionId = .ok m)
    (hm : m.rollback = some f)
    (hf : f step.params (step.result.orElse (.obj []))
      (resolveConnector env connectors cr.organizationId (.str step.connectorType)) o =
        (.error e,o')) :
    Undone step o (.obj [("rolled_back",.bool false),("error",.str e.str)]) o'

/-- One attempt after the other. -/
inductive UndoneAll : List RotationStep → ω → List Json → ω → Prop where
  | nil (o : ω) : UndoneAll [] o [] o
  | cons {step : RotationStep} {steps : List RotationStep} {o o' o'' : ω} {r : Json}
    {rs : List Json} (h : Undone env cr connectors step o r o') (hs : UndoneAll steps o' rs o'') :
    UndoneAll (step :: steps) o (r :: rs) o''

end Undone

/-- The answer of an undo says that the step is rolled back. -/
def ReportsUndone (r : Json) : Prop := r.flag "rolled_back" = true

section Run

variable {env : Env ω} {cr : ChangeRequest} {connectors : List Connector} {step : RotationStep}
  {d : Dict}

theorem filoUndo_undone (h : step.StoredAs d) {m : ExecutorModule ω}
    (hm : env.getExecutor step.connectorType step.actionId = .ok m) (s : Site ω) :
    ∃ r s', filoUndo (resolveConnector env connectors cr.organizationId
        (.str step.connectorType)) m (.obj d) s = (.ok r,s') ∧
      Undone env cr connectors step s.outside r s'.outside := by
  cases hf : m.rollback with
  | none => exact ⟨_,s,by rw [filoUndo,hf]; rfl,.noFunction _ m hm hf⟩
  | some f =>
    have hparams : (Json.obj d).get "params" (.obj []) = .ok (.obj step.params) :=
      congrArg Except.ok h.params
    have hresult : (Json.obj d).get "result" .null = .ok step.result := congrArg Except.ok h.result
    generalize hcall : f step.params (step.result.orElse (.obj []))
      (resolveConnector env connectors cr.organizationId (.str step.connectorType)) = call
    have hundo : filoUndo (resolveConnector env connectors cr.organizationId
        (.str step.connectorType)) m (.obj d) = Py.tryExcept (outside call) fun e =>
          pure (.obj [("rolled_back",.bool false),("error",.str e.str)]) := by
      rw [filoUndo,hf,← hcall]
      dsimp only
      rw [hparams,hresult]
      rfl
    rw [hundo]
    rcases hrun : call s.outside with ⟨e | r,o⟩
    · have herror : outside call s = (.error e,{ s with outside := o }) := by
        rw [outside,Py.zoom_run,hrun]
      rw [Py.tryExcept_error herror]
      exact ⟨_,_,rfl,.raised _ _ m f e hm hf (hcall ▸ hrun)⟩
    · have hok : outside call s = (.ok r,{ s with outside := o }) := by
        rw [outside,Py.zoom_run,hrun]
      rw [Py.tryExcept_ok hok]
      exact ⟨r,_,rfl,.answered _ _ m f r hm hf (hcall ▸ hrun)⟩

theorem filoStep_undone (h : step.StoredAs d) (s : Site ω) :
    ∃ r s', filoStep env cr connectors (.obj d) s = (.ok (step.entry r),s') ∧
      Undone env cr connectors step s.outside r s'.outside := by
  have hentry : ∀ r, filoEntry (.obj d) r = .ok (step.entry r) := by
    intro r
    have hindex : (Json.obj d).index "index" = .ok step.index := by simp [Json.index,h.index]
    have hlabel : (Json.obj d).get "label" (.str "") = .ok step.label := congrArg Except.ok h.label
    rw [filoEntry,hindex,hlabel]
    rfl
  have htype : (Json.obj d).index "connector_type" = .ok (.str step.connectorType) := by
    simp [Json.index,h.connectorType]
  have haction : (Json.obj d).index "action_id" = .ok (.str step.actionId) := by
    simp [Json.index,h.actionId]
  have hrecorded : env.recordedExecutor (.str step.connectorType) (.str step.actionId) =
      env.getExecutor step.connectorType step.actionId := rfl
  rw [filoStep,Py.modify_bind,htype,Py.ofExcept_ok_bind,haction,Py.ofExcept_ok_bind,hrecorded]
  cases hm : env.getExecutor step.connectorType step.actionId with
  | error e =>
    dsimp only
    rw [hentry]
    exact ⟨_,_,rfl,.notLoaded _ e hm⟩
  | ok m =>
    obtain ⟨r,s',hrun,hundone⟩ := filoUndo_undone h hm (s.log (.record (.obj d)))
    dsimp only
    rw [Py.bind_ok hrun,hentry]
    exact ⟨r,s',rfl,hundone⟩

theorem each_undone {steps : List RotationStep} {items : List Json}
    (h : List.Forall₂ RotationStep.Stored steps items) (s : Site ω) :
    ∃ rs s', Py.each (filoStep env cr connectors) items s =
        (.ok (List.zipWith RotationStep.entry steps rs),s') ∧
      UndoneAll env cr connectors steps s.outside rs s'.outside := by
  induction h generalizing s with
  | nil => exact ⟨[],s,rfl,.nil _⟩
  | @cons step item steps items hstored _ ih =>
    obtain ⟨d,rfl,hd⟩ := hstored
    obtain ⟨r,t,hrun,hundone⟩ := @filoStep_undone ω env cr connectors step d hd s
    obtain ⟨rs,s',hrest,hall⟩ := ih t
    refine ⟨r :: rs,s',?_,.cons hundone hall⟩
    rw [Py.each,Py.bind_ok hrun,Py.bind_ok hrest]
    rfl

theorem UndoneAll.length {steps : List RotationStep} {rs : List Json} {o o' : ω}
    (h : UndoneAll env cr connectors steps o rs o') : rs.length = steps.length := by
  induction h with
  | nil => rfl
  | cons _ _ ih => simp [ih]

end Run

section Records

variable {steps : List RotationStep} {items : List Json} {executionResult : Json}

theorem stepCompleted_stored {step : RotationStep} {item : Json} (h : step.Stored item) :
    stepCompleted item = .ok (decide step.Completed) := by
  obtain ⟨d,rfl,hd⟩ := h
  have hstatus : (Json.obj d).get "status" .null = .ok step.status := congrArg Except.ok hd.status
  have hdecide : decide step.Completed = step.status.isStr "completed" := Bool.decide_eq_true
  rw [stepCompleted,hstatus,Checks.ok_bind,hdecide]
  rfl

theorem filoRecords_of_holds (h : HoldsSteps items executionResult) :
    filoRecords executionResult = items.filterM stepCompleted := by
  cases h with
  | direct d h hne =>
    have hsteps : (Json.obj d).get "steps" .null = .ok (.arr items) :=
      congrArg Except.ok (by rw [Dict.getD,h]; rfl)
    have htruthy : (Json.arr items).truthy = true := by simpa [Json.truthy] using hne
    rw [filoRecords,hsteps,Checks.ok_bind,if_pos htruthy]
    rfl
  | nested d e h he hs =>
    have hsteps : (Json.obj d).get "steps" .null = .ok (d.getD "steps" .null) := rfl
    have hexecution : (Json.obj d).get "execution" (.obj []) = .ok (.obj e) := congrArg _ he
    have hnested : (Json.obj e).get "steps" (.arr []) = .ok (.arr items) := congrArg _ hs
    have hfalsy : ¬(d.getD "steps" .null).truthy = true := by simp [h]
    rw [filoRecords,hsteps,Checks.ok_bind,if_neg hfalsy,hexecution,Checks.ok_bind,hnested]
    rfl

/-- The completed ones of the stored steps are read, in their order. -/
theorem filoRecords_stored (hholds : HoldsSteps items executionResult)
    (hstored : List.Forall₂ RotationStep.Stored steps items) :
    ∃ completed, filoRecords executionResult = .ok completed ∧
      List.Forall₂ RotationStep.Stored (steps.filter fun s => s.Completed) completed := by
  have hcompleted : ∀ item ∈ items,
      stepCompleted item = .ok (Checks.passes stepCompleted item) := fun item hitem => by
    obtain ⟨step,_,hstep⟩ := Lists.forall₂_mem_right hstored item hitem
    exact Checks.eq_passes ⟨_,stepCompleted_stored hstep⟩
  refine ⟨_,(filoRecords_of_holds hholds).trans (Checks.filterM_eq_ok hcompleted),?_⟩
  refine List.rel_filter (fun step item hstep => ?_) hstored
  have hpasses : Checks.passes stepCompleted item = decide step.Completed := by
    rw [Checks.passes.eq_def,stepCompleted_stored hstep]
    rfl
  exact iff_of_eq (congrArg (· = true) hpasses.symm)

end Records

section Report

variable {step : RotationStep} {steps : List RotationStep} {r : Json} {rs : List Json}

theorem rolledBack_entry : rolledBack (step.entry r) =
    if r.isDict then .ok (r.flag "rolled_back") else .error .attributeError := by
  cases r with
  | obj d =>
    have hflag : (Dict.getD d "rolled_back" (.bool false)).truthy =
        (Dict.getD d "rolled_back" .null).truthy := by
      rw [Dict.getD,Dict.getD]
      cases Dict.get? d "rolled_back" <;> rfl
    exact congrArg Except.ok hflag
  | _ => rfl

theorem flags_of_dicts {steps : List RotationStep} (hlength : rs.length = steps.length)
    (h : ∀ r ∈ rs, r.isDict = true) :
    (List.zipWith RotationStep.entry steps rs).mapM rolledBack =
      .ok (rs.map (Json.flag · "rolled_back")) := by
  induction rs generalizing steps with
  | nil => simp
  | cons r rs ih =>
    cases steps with
    | nil => simp at hlength
    | cons step steps =>
      have hrest := ih (by simpa using hlength) fun r' hr => h r' (List.mem_cons_of_mem _ hr)
      rw [List.zipWith_cons_cons,List.mapM_cons,rolledBack_entry,if_pos (h r List.mem_cons_self),
        hrest]
      rfl

/-- Asking an answer that is not a dictionary raises. -/
theorem flags_of_other {steps : List RotationStep} (hlength : rs.length = steps.length)
    (h : ∃ r ∈ rs, r.isDict = false) :
    (List.zipWith RotationStep.entry steps rs).mapM rolledBack = .error .attributeError := by
  induction rs generalizing steps with
  | nil => simp at h
  | cons r rs ih =>
    cases steps with
    | nil => simp at hlength
    | cons step steps =>
      rw [List.zipWith_cons_cons,List.mapM_cons,rolledBack_entry]
      cases hr : r.isDict with
      | false => rfl
      | true =>
        have hother : ∃ r ∈ rs, r.isDict = false := by
          obtain ⟨r',hmem,hr'⟩ := h
          rcases List.mem_cons.mp hmem with rfl | hmem
          · rw [hr] at hr'
            cases hr'
          · exact ⟨r',hmem,hr'⟩
        rw [ih (by simpa using hlength) hother]
        rfl

/-- What a rollback answers after these answers of the undos. -/
def rollbackReport (steps : List RotationStep) (rs : List Json) : Except Exc Json := do
  let flags ← (List.zipWith RotationStep.entry steps rs).mapM rolledBack
  pure (.obj [("rollback_steps",.arr (List.zipWith RotationStep.entry steps rs)),
    ("all_rolled_back",.bool (flags.all id)),
    ("has_warnings",.bool (!flags.all id &&
      !(List.zipWith RotationStep.entry steps rs).isEmpty))])

/-- The report is true of the answers. -/
theorem rollbackReport_dicts (hlength : rs.length = steps.length)
    (hdicts : ∀ r ∈ rs, r.isDict = true) : ∃ allOk warnings, rollbackReport steps rs =
      .ok (.obj [("rollback_steps",.arr (List.zipWith RotationStep.entry steps rs)),
        ("all_rolled_back",.bool allOk),("has_warnings",.bool warnings)]) ∧
      (allOk = true ↔ ∀ r ∈ rs, ReportsUndone r) ∧
      (warnings = true ↔ ∃ r ∈ rs, ¬ReportsUndone r) := by
  rw [rollbackReport,flags_of_dicts hlength hdicts]
  have hflags : ((rs.map (Json.flag · "rolled_back")).all id) = true ↔
      ∀ r ∈ rs, ReportsUndone r := by
    simp [ReportsUndone]
  have hempty : (List.zipWith RotationStep.entry steps rs).isEmpty = rs.isEmpty := by
    cases rs with
    | nil => simp
    | cons r rs =>
      cases steps with
      | nil => simp at hlength
      | cons step steps => rfl
  refine ⟨_,_,rfl,hflags,?_⟩
  rw [hempty,Bool.and_eq_true,Bool.not_eq_true',← Bool.not_eq_true,hflags]
  simp only [Bool.not_eq_true',List.isEmpty_eq_false_iff]
  constructor
  · rintro ⟨hsome,_⟩
    simpa using hsome
  · rintro ⟨r,hr,hnot⟩
    exact ⟨fun hall => hnot (hall r hr),List.ne_nil_of_mem hr⟩

theorem rollbackReport_other (hlength : rs.length = steps.length)
    (h : ∃ r ∈ rs, r.isDict = false) : rollbackReport steps rs = .error .attributeError := by
  rw [rollbackReport,flags_of_other hlength h]
  rfl

end Report

/-- The steps with the places at which they are undone. -/
def undoOrder (steps : List RotationStep) : List (RotationStep × Nat) :=
  (steps.zipIdx.filter fun e => e.1.Completed).reverse

theorem undoOrder_steps (steps : List RotationStep) :
    (undoOrder steps).map Prod.fst = (steps.filter fun s => s.Completed).reverse := by
  rw [undoOrder,List.map_reverse]
  congr 1
  conv_rhs => rw [← List.zipIdx_map_fst 0 steps,List.filter_map]
  rfl

theorem undoOrder_decreasing (steps : List RotationStep) :
    ((undoOrder steps).map Prod.snd).Pairwise (· > ·) := by
  rw [undoOrder,List.map_reverse,List.pairwise_reverse]
  have hplaces : (steps.zipIdx.map Prod.snd).Pairwise (· < ·) := by
    rw [List.zipIdx_map_snd]
    exact List.pairwise_lt_range'
  exact hplaces.sublist (List.filter_sublist.map _)

theorem mem_undoOrder {steps : List RotationStep} {s : RotationStep} {i : Nat} :
    (s,i) ∈ undoOrder steps ↔ steps[i]? = some s ∧ s.Completed := by
  simp [undoOrder,List.mem_zipIdx_iff_getElem?]

/-- The completed steps, and no others, are undone from the last to the first whatever the undos
answer; the report says whether all, and whether not all, of them have reported it, unless one
answers no dictionary. -/
theorem completed_steps_undone {env : Env ω} {w : World ω} {steps : List RotationStep}
    {items : List Json} {executionResult : Json} (hholds : HoldsSteps items executionResult)
    (hstored : List.Forall₂ RotationStep.Stored steps items) :
    ∃ order : List (RotationStep × Nat), (order.map Prod.snd).Pairwise (· > ·) ∧
      (∀ s i, (s,i) ∈ order ↔ steps[i]? = some s ∧ s.Completed) ∧
      ∃ rs report w', executeFiloRollback env executionResult w = (report,w') ∧
        UndoneAll env w.cr w.connectors (order.map Prod.fst) w.site.outside rs w'.site.outside ∧
        ((∀ r ∈ rs, r.isDict = true) → ∃ allOk warnings,
          report = .ok (.obj [
            ("rollback_steps",.arr (List.zipWith RotationStep.entry (order.map Prod.fst) rs)),
            ("all_rolled_back",.bool allOk),("has_warnings",.bool warnings)]) ∧
          (allOk = true ↔ ∀ r ∈ rs, ReportsUndone r) ∧
          (warnings = true ↔ ∃ r ∈ rs, ¬ReportsUndone r)) ∧
        ((∃ r ∈ rs, r.isDict = false) → report = .error .attributeError) := by
  refine ⟨undoOrder steps,undoOrder_decreasing steps,fun _ _ => mem_undoOrder,?_⟩
  obtain ⟨completed,hrecords,hcompleted⟩ := filoRecords_stored hholds hstored
  rw [undoOrder_steps]
  have hreversed := List.rel_reverse hcompleted
  generalize (steps.filter fun s => s.Completed).reverse = undone at hreversed ⊢
  obtain ⟨rs,s',hrun,hall⟩ := @each_undone ω env w.cr w.connectors _ _ hreversed w.site
  have hreport : executeFiloRollback env executionResult w =
      (rollbackReport undone rs,{ w with site := s' }) := by
    have hsite : onSite (Py.each (filoStep env w.cr w.connectors) completed.reverse) w =
        (.ok (List.zipWith RotationStep.entry undone rs),{ w with site := s' }) := by
      rw [onSite,Py.zoom_run,hrun]
    rw [executeFiloRollback,Py.get_bind,hrecords,Py.ofExcept_ok_bind,Py.bind_ok hsite,Py.bind_run,
      Py.ofExcept_run,rollbackReport]
    cases (List.zipWith RotationStep.entry undone rs).mapM rolledBack <;> rfl
  exact ⟨rs,_,_,hreport,hall,rollbackReport_dicts hall.length,rollbackReport_other hall.length⟩

/-- Rollback functions that write down whom they undo and answer as the step asks them to. -/
def answeringUndos : Env (List Json) := Env.ofModules fun _ _ => .ok
  { execute := fun _ _ _ => pure (.obj [])
    rollback := some fun params _ _ => do
      Py.modify (· ++ [Dict.getD params "user" .null])
      match Dict.get? params "answer" with
      | some answer => pure answer
      | none => Py.raise (.runtimeError "unreachable") }

def userStep (i : Nat) (user : String) (status : String) (answer : Dict) : RotationStep where
  index := .int i
  label := .str user
  connectorType := "aws"
  actionId := "create_key"
  params := ("user",.str user) :: answer
  status := .str status
  result := .null

def RotationStep.dict (step : RotationStep) : Dict :=
  [("index",step.index),("label",step.label),("connector_type",.str step.connectorType),
    ("action_id",.str step.actionId),("params",.obj step.params),("status",step.status),
    ("result",step.result)]

theorem RotationStep.dict_stored (step : RotationStep) : step.Stored (.obj step.dict) :=
  ⟨_,rfl,⟨rfl,rfl,rfl,rfl,rfl,rfl,rfl⟩⟩

theorem stored_dicts (steps : List RotationStep) :
    List.Forall₂ RotationStep.Stored steps (steps.map fun s => .obj s.dict) := by
  induction steps with
  | nil => exact .nil
  | cons step steps ih => exact .cons step.dict_stored ih

def rotatedWorld : World (List Json) where
  cr := ⟨"cr-1","org-1","user-1",.credentialRotation,[],[],.completed,some .low,none,none⟩
  others := []
  runs := []
  connectors := []
  site := ⟨[],[],[],[],[]⟩

def rotatedSteps : List RotationStep :=
  [userStep 0 "ann" "completed" [("answer",.obj [("rolled_back",.bool true)])],
    userStep 1 "bob" "skipped" [],userStep 2 "cyd" "completed" []]

def stepsResult (steps : List RotationStep) : Json :=
  .obj [("execution",.obj [("steps",.arr (steps.map fun s => .obj s.dict))])]

/-- The undo of the last step raises, the first one is undone all the same. -/
theorem failing_undo_continues : ∃ order : List (RotationStep × Nat),
    (∀ s i, (s,i) ∈ order ↔ rotatedSteps[i]? = some s ∧ s.Completed) ∧
    ∃ (rs : List Json) (w' : World (List Json)),
      UndoneAll answeringUndos rotatedWorld.cr [] (order.map Prod.fst) [] rs w'.site.outside ∧
      w'.site.outside = [.str "cyd",.str "ann"] := by
  have hholds : HoldsSteps (rotatedSteps.map fun s => .obj s.dict) (stepsResult rotatedSteps) :=
    .nested _ _ rfl rfl rfl
  obtain ⟨order,_,hmem,rs,report,w',hrun,hall,_⟩ :=
    @completed_steps_undone _ answeringUndos rotatedWorld _ _ _ hholds (stored_dicts rotatedSteps)
  obtain rfl : (executeFiloRollback answeringUndos (stepsResult rotatedSteps) rotatedWorld).2 =
      w' := congrArg Prod.snd hrun
  exact ⟨order,hmem,rs,_,hall,rfl⟩

/-- There is no report at all when a rollback function answers nothing. -/
theorem unanswered_undo_raises :
    (executeFiloRollback answeringUndos
      (stepsResult [userStep 0 "ann" "completed" [("answer",.null)]]) rotatedWorld).1 =
        .error .attributeError ∧
    (executeFiloRollback answeringUndos
      (stepsResult [userStep 0 "ann" "completed" [("answer",.null)]]) rotatedWorld).2.site.outside =
        [.str "ann"] :=
  ⟨rfl,rfl⟩

end Nexplane
