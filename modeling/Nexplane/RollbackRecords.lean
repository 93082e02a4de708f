import Nexplane.WorkflowRecords
import Nexplane.RollbackExecutor

set_option autoImplicit false

/-! Which records of a completed change its rollback takes up. The workflow stores the executor's
result under `execution`; two of the four readers look for their records elsewhere. -/

namespace Nexplane
open PyValue

variable {ω : Type}

/-- The items of a result that stand under a key. -/
def listed (result : Json) (key : String) : List Json :=
  (result.get key (.arr []) >>= Json.iter).toOption.getD []

def indexValue (item : Json) : Int :=
  match indexOf item with
  | .ok n => n
  | .error _ => 0

def reverseIndexOrder (items : List Json) : List Json :=
  items.mergeSort fun a b => indexValue b ≤ indexValue a

def poolUpgraded (pool : Json) : Except Exc Bool := do
  let result ← pool.get "result" .null
  pure (result.isStr "success")

/-- The records that the rollback of a change has to take up, in the order in which it has to.
Steps and consumers are listed in the order of their indexes. -/
def requiredRecords (changeType : ChangeType) (result : Json) : List Json :=
  match changeType with
  | .credentialRotation => ((listed result "steps").filter (Checks.passes stepCompleted)).reverse
  | .certificateRotation => reverseIndexOrder (listed result "dependents")
  | .credentialRotationFanout =>
    ((listed result "consumers").filter (Checks.passes wasUpdated)).reverse
  | .k8sClusterUpgrade =>
    reverseIndexOrder ((listed result "node_pools").filter (Checks.passes poolUpgraded))
  | _ => []

def executorTypes : List ChangeType :=
  [.credentialRotation,.certificateRotation,.credentialRotationFanout,.k8sClusterUpgrade]

/-- The workflow has recorded the completion of a change whose executor returned `result`. -/
structure CompletedChange (env : Env ω) (w w₁ : World ω) (result : Json) : Prop where
  changeType : w.cr.changeType ∈ executorTypes
  runs : w.runs ≠ []
  executed : (activityExecuteChange env (w.markStatus .executing)).1 = .ok result
  notPaused : result.flag "paused" = false
  notFailed : result.flag "failed" = false
  recorded : executeChangeWorkflow env w = (.ok (),w₁)

/-- A later state of the change, in which no further run has completed. -/
structure LaterState (w w₁ w₂ : World ω) : Prop where
  changeType : w₂.cr.changeType = w.cr.changeType
  runs : ∃ later, w₂.runs = w₁.runs ++ later ∧ ∀ r ∈ later, r.status ≠ .completed

/-- A rollback that ends takes up these records, in this order, before it sets its status. -/
def TakesUp (env : Env ω) (w : World ω) (records : List Json) : Prop :=
  ∀ result w', executeCrRollback env [] w = (.ok result,w') →
    w'.site.calls = w.site.calls ++ records.map .record ∧
      w'.cr.status ∈ [ChangeRequestStatus.rolledBack,.rolledBackWithWarnings]

/-- Some run of the change is already running when its workflow starts. -/
def World.hasRunning (w : World ω) : Prop := ∃ r ∈ w.runs, r.status = .running

/-- The run that a rollback reads does not hold the executor's records where its reader looks. -/
def RecordsMisplaced (w : World ω) : Prop :=
  w.cr.changeType = .k8sClusterUpgrade ∨
    w.cr.changeType = .credentialRotationFanout ∧ w.hasRunning

section Completion

variable {env : Env ω} {w w₁ w₂ : World ω} {result : Json}

theorem latestRunning_none :
    latestRun (fun r => r.status = .running) w.runs = none ↔ ¬w.hasRunning := by
  simp [latestRun_eq_none,World.hasRunning]

/-- The executor leaves the number of runs as it is, except for a fan-out without a running
run. -/
theorem executor_runs {v : World ω} (hct : w.cr.changeType ∈ executorTypes)
    (hown : w.cr.changeType = .credentialRotationFanout → w.hasRunning)
    (h : activityExecuteChange env w = (.ok result,v)) (hp : result.flag "paused" = false) :
    v.runs.length = w.runs.length := by
  rw [activityExecuteChange,Py.get_bind] at h
  have hkept := rowWrites_length (ω := ω) w.runs.length w.cr.changeType
  simp only [executorTypes,List.mem_cons,List.not_mem_nil,or_false] at hct
  rcases hct with hct | hct | hct | hct <;> rw [hct] at h
  · exact ((executeSteps_keeps hkept fun _ _ _ => onSite_frame (fun _ _ h => h) _).run h
      ⟨rfl,rfl⟩).1
  · exact ((executeCertificateRotation_keeps hkept).run h ⟨rfl,rfl⟩).1
  · have hend := executeCredentialRotationFanout_ok h hp
    cases hl : latestRun (fun r => r.status = .running) w.runs with
    | some i =>
      rw [hl] at hend
      exact hend
    | none => exact absurd (hown hct) (latestRunning_none.mp hl)
  · have hexecutor : workflowExecutor .k8sClusterUpgrade = .k8sClusterUpgrade := rfl
    rw [hexecutor,Executor.run] at h
    exact ((executeK8sClusterUpgrade_keeps hkept).run h ⟨rfl,rfl⟩).1

/-- A fan-out without a running run starts one, and completes it with its result. -/
theorem fanout_runs {v : World ω} (hct : w.cr.changeType = .credentialRotationFanout)
    (hnone : ¬w.hasRunning) (h : activityExecuteChange env w = (.ok result,v))
    (hp : result.flag "paused" = false) :
    ∃ id d, result = .obj d ∧ v.runs = w.runs ++ [⟨id,.completed,d⟩] := by
  rw [activityExecuteChange,Py.get_bind,hct] at h
  have hend := executeCredentialRotationFanout_ok h hp
  rwa [latestRunning_none.mpr hnone] at hend

theorem recordOutcome_completes {v : World ω} {i : Nat} (hct : w.cr.changeType ∈ executorTypes)
    (hp : result.flag "paused" = false) (hf : result.flag "failed" = false)
    (plan : Option ChangePlan) (steps : List PlanStep) :
    recordOutcome env (some i) plan steps w.cr.changeType result v =
      (.ok (),v.completedWith i result) := by
  simp only [executorTypes,List.mem_cons,List.not_mem_nil,or_false] at hct
  rcases hct with hct | hct | hct | hct <;> simp [hct,recordOutcome,hp,hf,completeChange_eq]

theorem latestRun_of_ne_nil (h : w.runs ≠ []) :
    latestRun (fun _ => true) w.runs = some (w.runs.length - 1) := by
  rw [latestRun_true,if_neg h]

theorem CompletedChange.world (h : CompletedChange env w w₁ result) :
    ∃ v, activityExecuteChange env (w.markStatus .executing) = (.ok result,v) ∧
      w₁ = v.completedWith (w.runs.length - 1) result := by
  rcases executeChangeWorkflow_ok h.recorded with ⟨e,v,hexec,_⟩ | ⟨r,v,hexec,hrec⟩
  · have hok := h.executed
    rw [hexec] at hok
    cases hok
  · have hok := h.executed
    rw [hexec] at hok
    obtain rfl := Except.ok.inj hok
    rw [latestRun_of_ne_nil h.runs,
      recordOutcome_completes h.changeType h.notPaused h.notFailed] at hrec
    exact ⟨v,hexec,(Prod.mk.inj hrec).2.symm⟩

/-- Unless the executor started a run of its own, a rollback reads the workflow's envelope. -/
theorem CompletedChange.loaded (h : CompletedChange env w w₁ result) (hl : LaterState w w₁ w₂)
    (hown : w.cr.changeType = .credentialRotationFanout → w.hasRunning) :
    w₂.runResult (loadedRun w₂.runs) = inExecution result := by
  obtain ⟨v,hexec,rfl⟩ := h.world
  obtain ⟨later,hruns,hlater⟩ := hl.runs
  have hlen : v.runs.length = w.runs.length := by
    simpa using executor_runs (by simpa using h.changeType)
      (by simpa [World.hasRunning] using hown) hexec h.notPaused
  have hne : v.runs ≠ [] := by
    intro hnil
    exact h.runs (List.eq_nil_of_length_eq_zero (by rw [← hlen,hnil]; rfl))
  obtain ⟨init,r,hinit⟩ := modify_last hne fun r : ExecutionRun =>
    { r with status := .completed, result := inExecution result }
  rw [World.completedWith_runs,← hlen,hinit] at hruns
  exact runResult_loaded hruns rfl hlater

/-- The run of a fan-out that started it holds the bare result. -/
theorem CompletedChange.loaded_started (h : CompletedChange env w w₁ result)
    (hl : LaterState w w₁ w₂) (hct : w.cr.changeType = .credentialRotationFanout)
    (hnone : ¬w.hasRunning) :
    result = .obj (w₂.runResult (loadedRun w₂.runs)) := by
  obtain ⟨v,hexec,rfl⟩ := h.world
  obtain ⟨later,hruns,hlater⟩ := hl.runs
  obtain ⟨id,d,rfl,hv⟩ := fanout_runs (by simpa using hct)
    (by simpa [World.hasRunning] using hnone) hexec h.notPaused
  have hlt : w.runs.length - 1 < w.runs.length := by
    have hpos := List.length_pos_of_ne_nil h.runs
    omega
  rw [World.completedWith_runs,hv,World.markStatus_runs,modify_append_left hlt] at hruns
  rw [runResult_loaded hruns rfl hlater]

end Completion

section Readers

variable {env : Env ω} {w w' : World ω} {source result : Json}

theorem filoStep_calls {cr : ChangeRequest} {connectors : List Connector} (step entry : Json)
    (s s' : Site ω) (h : filoStep env cr connectors step s = (.ok entry,s')) :
    s'.calls = s.calls ++ [.record step] := by
  have hcalls : (filoStep env cr connectors step s).2.calls = s.calls ++ [.record step] :=
    filoStep_frame (J := fun t => t.calls = s.calls ++ [.record step]) (fun _ _ h => h) step s rfl
  rwa [h] at hcalls

theorem undoDependent_calls {cr : ChangeRequest} {connectors : List Connector} {strategy : String}
    (dep entry : Json) (s s' : Site ω)
    (h : undoDependent env cr connectors strategy dep s = (.ok entry,s')) :
    s'.calls = s.calls ++ [.record dep] := by
  have hcalls : (undoDependent env cr connectors strategy dep s).2.calls =
      s.calls ++ [.record dep] :=
    undoDependent_frame (J := fun t => t.calls = s.calls ++ [.record dep]) (fun _ _ h => h)
      strategy dep s rfl
  rwa [h] at hcalls

/-- The entry that a consumer leaves in the log of its rollback. -/
def unwoundRecords (consumer : Json) : List Call :=
  if Checks.passes wasUpdated consumer then [.record consumer] else []

theorem unwindConsumer_calls {connectors : List Connector} (consumer : Json)
    (entry : Json × Bool) (s s' : Site ω)
    (h : unwindConsumer env connectors consumer s = (.ok entry,s')) :
    s'.calls = s.calls ++ unwoundRecords consumer := by
  obtain ⟨updated,hupdated,h⟩ := Py.ofExcept_bind_eq_ok.mp h
  have hpass : Checks.passes wasUpdated consumer = updated := by
    rw [Checks.passes,hupdated]
    rfl
  cases updated with
  | true =>
    rw [unwoundRecords,if_pos hpass]
    refine Py.Keeps.after_modify (I := fun t => t.calls = s.calls ++ [.record consumer]) ?_ rfl h
    exact .bind (outside_keeps (fun _ _ h => h) _) fun _ => .bind (.ofExcept _) fun _ =>
      .bind (.ofExcept _) fun _ => .pure _
  | false =>
    obtain ⟨unwound,_,h⟩ := Py.ofExcept_bind_eq_ok.mp h
    obtain ⟨_,rfl⟩ := Prod.mk.inj h
    simp [unwoundRecords,hpass]

theorem onSite_each_calls {α β : Type} {f : α → Py (Site ω) β} {entries : α → List Call}
    (hround : ∀ a b s s', f a s = (.ok b,s') → s'.calls = s.calls ++ entries a) {as : List α}
    {bs : List β} (h : (Py.each f as w.site).1 = .ok bs) :
    (Py.each f as w.site).2.calls = w.site.calls ++ as.flatMap entries :=
  Py.each_trace hround (Prod.ext h rfl)

theorem flatMap_unwoundRecords (consumers : List Json) :
    consumers.flatMap unwoundRecords =
      (consumers.filter (Checks.passes wasUpdated)).map .record := by
  induction consumers with
  | nil => rfl
  | cons consumer consumers ih =>
    rw [List.flatMap_cons,ih]
    by_cases h : Checks.passes wasUpdated consumer = true <;> simp [unwoundRecords,h]

/-- Under the workflow's envelope, the steps are found one level down. -/
theorem filoRecords_execution {completed : List Json}
    (h : filoRecords (.obj (inExecution result)) = .ok completed) :
    completed = (listed result "steps").filter (Checks.passes stepCompleted) := by
  have hread : filoRecords (.obj (inExecution result)) =
      (result.get "steps" (.arr []) >>= Json.iter) >>= List.filterM stepCompleted := by
    cases result <;> rfl
  rw [hread] at h
  obtain ⟨steps,hsteps,h⟩ := Checks.bind_eq_ok.mp h
  rw [Checks.filterM_ok h,listed,hsteps]
  rfl

theorem executeFiloRollback_calls {answer : Json}
    (h : executeFiloRollback env (.obj (inExecution result)) w = (.ok answer,w')) :
    w'.site.calls = w.site.calls ++ (requiredRecords .credentialRotation result).map .record := by
  unfold executeFiloRollback at h
  rw [Py.get_bind] at h
  obtain ⟨completed,hcompleted,h⟩ := Py.ofExcept_bind_eq_ok.mp h
  obtain ⟨entries,hentries,h⟩ := Py.zoom_bind_eq_ok.mp h
  obtain ⟨flags,_,h⟩ := Py.ofExcept_bind_eq_ok.mp h
  obtain ⟨_,rfl⟩ := Prod.mk.inj h
  obtain rfl := filoRecords_execution hcompleted
  have hcalls := onSite_each_calls filoStep_calls hentries
  rwa [← List.map_eq_flatMap] at hcalls

theorem byDecreasingIndex_ok {items ordered : List Json}
    (h : byDecreasingIndex indexOf items = .ok ordered) : ordered = reverseIndexOrder items := by
  obtain ⟨keyed,hkeyed,h⟩ := Checks.bind_eq_ok.mp h
  obtain ⟨hitems,hkeys⟩ := Checks.mapM_keyed hkeyed
  have hindex : ∀ e ∈ keyed, e.1 = indexValue e.2 := fun e he => by
    rw [indexValue,hkeys e he]
  rw [← Checks.pure_eq_ok.mp h,reverseIndexOrder,← hitems]
  refine List.map_mergeSort fun a ha b hb => ?_
  rw [hindex a ha,hindex b hb]

theorem executeCertificateRollback_calls {answer : Json}
    (h : executeCertificateRollback env result w = (.ok answer,w')) :
    w'.site.calls = w.site.calls ++ (requiredRecords .certificateRotation result).map .record := by
  unfold executeCertificateRollback at h
  rw [Py.get_bind] at h
  obtain ⟨dependents,hdependents,h⟩ := Py.ofExcept_bind_eq_ok.mp h
  obtain ⟨strategy,_,h⟩ := Py.ofExcept_bind_eq_ok.mp h
  obtain ⟨ordered,hordered,h⟩ := Py.ofExcept_bind_eq_ok.mp h
  obtain ⟨steps,hsteps,h⟩ := Py.zoom_bind_eq_ok.mp h
  obtain ⟨_,rfl⟩ := Prod.mk.inj h
  have hlisted : dependents = listed result "dependents" := by
    rw [listed,hdependents]
    rfl
  obtain rfl := byDecreasingIndex_ok hordered
  obtain rfl := hlisted
  have hcalls := onSite_each_calls undoDependent_calls hsteps
  rwa [← List.map_eq_flatMap] at hcalls

theorem executeFanoutRollback_calls {answer : Json}
    (h : executeFanoutRollback env result w = (.ok answer,w')) :
    w'.site.calls =
      w.site.calls ++ (requiredRecords .credentialRotationFanout result).map .record := by
  unfold executeFanoutRollback at h
  rw [Py.get_bind] at h
  obtain ⟨consumers,hconsumers,h⟩ := Py.ofExcept_bind_eq_ok.mp h
  obtain ⟨unwound,hunwound,h⟩ := Py.zoom_bind_eq_ok.mp h
  obtain ⟨rotation,_,h⟩ := Py.ofExcept_bind_eq_ok.mp h
  obtain ⟨_,rfl⟩ := Prod.mk.inj h
  have hlisted : consumers = listed result "consumers" := by
    rw [listed,hconsumers]
    rfl
  obtain rfl := hlisted
  have hcalls := onSite_each_calls unwindConsumer_calls hunwound
  rwa [flatMap_unwoundRecords,List.filter_reverse] at hcalls

/-- In the workflow's envelope no consumer and no pool is found. -/
theorem executeFanoutRollback_execution (env : Env ω) (w : World ω) (result : Json) :
    ∃ answer, executeFanoutRollback env (.obj (inExecution result)) w = (.ok answer,w) :=
  ⟨_,rfl⟩

theorem executeK8sClusterUpgradeRollback_execution (env : Env ω) (w : World ω) (result : Json) :
    ∃ answer, executeK8sClusterUpgradeRollback env (.obj (inExecution result)) w =
      (.ok answer,w) ∧ answer.flag "has_warnings" = false := by
  have hpools : rollbackPools (.obj (inExecution result)) = .ok [] := by
    change Except.ok ((List.mergeSort [] _).map Prod.snd) = _
    rw [List.mergeSort_nil]
    rfl
  refine ⟨.obj [("rollback_note",.str rollbackNote),("pools_rolled_back",.arr []),
    ("has_warnings",.bool false)],?_,rfl⟩
  simp [executeK8sClusterUpgradeRollback,hpools]

theorem warnedStatus_mem (answer : Json) :
    warnedStatus answer ∈ [ChangeRequestStatus.rolledBack,.rolledBackWithWarnings] := by
  unfold warnedStatus
  split <;> simp

theorem endWarned_ok {rollback : Py (World ω) Json} {answer : Json}
    (h : endWarned rollback w = (.ok answer,w')) :
    ∃ t, rollback w = (.ok answer,t) ∧ w' = t.setStatus (warnedStatus answer) := by
  obtain ⟨result,t,hrun,h⟩ := Py.bind_eq_ok.mp h
  obtain ⟨hres,rfl⟩ := Prod.mk.inj h
  obtain rfl := Except.ok.inj hres
  exact ⟨t,hrun,rfl⟩

/-- The rollback of a change with an executor of its own. -/
def reader (env : Env ω) (executionResult : Dict) : ChangeType → Py (World ω) Json
  | .credentialRotation => executeFiloRollback env (.obj executionResult)
  | .certificateRotation =>
    executeCertificateRollback env (executionResult.getD "execution" (.obj executionResult))
  | .k8sClusterUpgrade => executeK8sClusterUpgradeRollback env (.obj executionResult)
  | _ => executeFanoutRollback env (.obj executionResult)

theorem executeCrRollback_reader (hct : w.cr.changeType ∈ executorTypes) :
    executeCrRollback env [] w =
      endWarned (reader env (w.runResult (loadedRun w.runs)) w.cr.changeType) w := by
  rw [executeCrRollback,Py.get_bind]
  simp only [executorTypes,List.mem_cons,List.not_mem_nil,or_false] at hct
  rcases hct with hct | hct | hct | hct <;> simp [hct,reader,Dict.merge]

theorem takesUp_iff {records : List Json} (hct : w.cr.changeType ∈ executorTypes) :
    TakesUp env w records ↔ ∀ answer w',
      reader env (w.runResult (loadedRun w.runs)) w.cr.changeType w = (.ok answer,w') →
        w'.site.calls = w.site.calls ++ records.map .record := by
  unfold TakesUp
  rw [executeCrRollback_reader hct]
  constructor
  · intro h answer w' hrun
    have hend : endWarned (reader env (w.runResult (loadedRun w.runs)) w.cr.changeType) w =
        (.ok answer,w'.setStatus (warnedStatus answer)) := by
      rw [endWarned,Py.bind_ok hrun]
      rfl
    exact (h answer _ hend).1
  · intro h answer w' hrun
    obtain ⟨t,ht,rfl⟩ := endWarned_ok hrun
    exact ⟨h answer t ht,warnedStatus_mem answer⟩

/-- A reader that leaves the world as it is takes nothing up. -/
theorem takesNothingUp_iff {x : Py (World ω) Json} {answer : Json} {records : List Json}
    (hrun : x w = (.ok answer,w)) :
    (∀ answer' w', x w = (.ok answer',w') →
      w'.site.calls = w.site.calls ++ records.map .record) ↔ records = [] := by
  constructor
  · intro hcalls
    simpa using hcalls answer w hrun
  · intro hnil answer' w' hrun'
    obtain ⟨_,rfl⟩ := Prod.mk.inj (hrun.symm.trans hrun')
    simp [hnil]

end Readers

/-- A rollback takes up exactly the records of the completed change, in reverse order, unless the
upgraded pools of a cluster, or the updated consumers of a fan-out whose run was running already,
are among them: these are stored where their reader does not look. -/
theorem rollback_takes_up_iff {env env' : Env ω} {w w₁ w₂ : World ω} {result : Json}
    (h : CompletedChange env w w₁ result) (hl : LaterState w w₁ w₂) :
    TakesUp env' w₂ (requiredRecords w.cr.changeType result) ↔
      (RecordsMisplaced w → requiredRecords w.cr.changeType result = []) := by
  rw [takesUp_iff (by rw [hl.changeType]; exact h.changeType),hl.changeType]
  have hloaded := h.loaded hl
  have hmem := h.changeType
  simp only [executorTypes,List.mem_cons,List.not_mem_nil,or_false] at hmem
  rcases hmem with hct | hct | hct | hct
  · have hplace : ¬RecordsMisplaced w := by simp [RecordsMisplaced,hct]
    rw [hloaded (by simp [hct]),hct]
    exact iff_of_true (fun answer w' hrun => executeFiloRollback_calls hrun)
      fun hm => absurd hm hplace
  · have hplace : ¬RecordsMisplaced w := by simp [RecordsMisplaced,hct]
    rw [hloaded (by simp [hct]),hct]
    exact iff_of_true (fun answer w' hrun => executeCertificateRollback_calls hrun)
      fun hm => absurd hm hplace
  · by_cases hrunning : w.hasRunning
    · have hplace : RecordsMisplaced w := Or.inr ⟨hct,hrunning⟩
      obtain ⟨answer,hrun⟩ := executeFanoutRollback_execution env' w₂ result
      rw [hloaded fun _ => hrunning,hct]
      exact (takesNothingUp_iff hrun).trans (imp_iff_right hplace).symm
    · have hplace : ¬RecordsMisplaced w := by simp [RecordsMisplaced,hct,hrunning]
      have hresult := h.loaded_started hl hct hrunning
      rw [hct]
      refine iff_of_true (fun answer w' hrun => ?_) fun hm => absurd hm hplace
      rw [hresult]
      exact executeFanoutRollback_calls hrun
  · have hplace : RecordsMisplaced w := Or.inl hct
    obtain ⟨answer,hrun,_⟩ := executeK8sClusterUpgradeRollback_execution env' w₂ result
    rw [hloaded (by simp [hct]),hct]
    exact (takesNothingUp_iff hrun).trans (imp_iff_right hplace).symm

/-- What the executor returns when the workflow of a change starts. -/
def World.executed (env : Env ω) (w : World ω) : Json :=
  (activityExecuteChange env (w.markStatus .executing)).1.toOption.getD .null

/-- Modules whose actions succeed and can be undone. -/
def sampleModules : Env Unit := Env.ofModules fun _ _ => .ok
  ⟨fun _ _ _ => pure (.obj [("ok",.bool true)]),
    some fun _ _ _ => pure (.obj [("rolled_back",.bool true)])⟩

def sampleRotated : World Unit :=
  sampleApproved .credentialRotation none [("steps",.arr [
    .obj [("connector_type",.str "aws"),("action_id",.str "rotate_access_key")],
    .obj [("connector_type",.str "aws"),("action_id",.str "rotate_secret")]])]

theorem sample_takes_up :
    TakesUp sampleModules (executeChangeWorkflow sampleModules sampleRotated).2
      (requiredRecords .credentialRotation (sampleRotated.executed sampleModules)) ↔
        (RecordsMisplaced sampleRotated →
          requiredRecords .credentialRotation (sampleRotated.executed sampleModules) = []) := by
  have h : CompletedChange sampleModules sampleRotated
      (executeChangeWorkflow sampleModules sampleRotated).2
      (sampleRotated.executed sampleModules) := ⟨by decide,by decide,rfl,rfl,rfl,rfl⟩
  exact rollback_takes_up_iff h ⟨rfl,[],rfl,by simp⟩

def sampleUpgrade : World Unit :=
  sampleApproved .k8sClusterUpgrade none
    [("connector_id",.str "12345678-1234-5678-1234-567812345678")]

def sampleUpgraded : World Unit := (executeChangeWorkflow noModules sampleUpgrade).2

/-- The rollback of a cluster upgrade reports success without taking up the upgraded pool. -/
theorem upgraded_pool_not_taken_up :
    CompletedChange noModules sampleUpgrade sampleUpgraded (sampleUpgrade.executed noModules) ∧
      (requiredRecords .k8sClusterUpgrade (sampleUpgrade.executed noModules)).length = 1 ∧
      (executeCrRollback noModules [] sampleUpgraded).2.cr.status = .rolledBack ∧
      (executeCrRollback noModules [] sampleUpgraded).2.site.calls = [] ∧
      ¬TakesUp noModules sampleUpgraded
        (requiredRecords .k8sClusterUpgrade (sampleUpgrade.executed noModules)) := by
  have hdone : CompletedChange noModules sampleUpgrade sampleUpgraded
      (sampleUpgrade.executed noModules) := ⟨by decide,by decide,rfl,rfl,rfl,rfl⟩
  have hone : (requiredRecords .k8sClusterUpgrade
      (sampleUpgrade.executed noModules)).length = 1 := by
    rw [requiredRecords,reverseIndexOrder,List.length_mergeSort]
    rfl
  have hloaded : sampleUpgraded.runResult (loadedRun sampleUpgraded.runs) =
      inExecution (sampleUpgrade.executed noModules) := rfl
  obtain ⟨answer,hrun,hwarn⟩ := executeK8sClusterUpgradeRollback_execution noModules
    sampleUpgraded (sampleUpgrade.executed noModules)
  have hend : executeCrRollback noModules [] sampleUpgraded =
      (.ok answer,sampleUpgraded.setStatus .rolledBack) := by
    rw [executeCrRollback_reader (by decide),hloaded,endWarned]
    change (executeK8sClusterUpgradeRollback noModules _ >>= _) sampleUpgraded = _
    rw [Py.bind_ok hrun]
    simp [warnedStatus,hwarn]
  refine ⟨hdone,hone,by rw [hend]; rfl,by rw [hend]; rfl,fun h => ?_⟩
  have hcalls := (h answer _ hend).1
  have hlen := congrArg List.length hcalls
  simp [World.setStatus,hone] at hlen

end Nexplane
