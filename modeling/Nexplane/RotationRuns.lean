import Nexplane.ResumeRouting
import Nexplane.RotationSteps
import Nexplane.WorkflowRecords
import Nexplane.Lib.Runs

set_option autoImplicit false

/-! All runs of a credential rotation: its workflow, the operator's decisions while the change is
paused, and the executions that they resume. While an execution is under way the change is in
status executing, in which every decision is refused. -/

namespace Nexplane
open PyValue Runs

variable {ω : Type}

/-- A change under credential rotation. `recording` is the outcome that the workflow has of its
execution and still has to record, with the change as the workflow loaded it. `succeeded` and
`skipped` tell what has happened; no code reads them. -/
structure RotationState (ω : Type) where
  world : World ω
  started : Bool
  recording : Option (World ω × Except Exc Json)
  resumes : Nat
  succeeded : List (Nat × List (Except Exc Json))
  skipped : List Nat

inductive RotationEvent where
  | execute
  | record
  | retry (user : User)
  | skip (user : User)
  | resume
  deriving Repr

def isFailedStep (step : Json) : Bool := stepStatus step = some "failed"

/-- The place of the step that a decision is about. -/
def World.failedPlace (w : World ω) : Nat :=
  match w.stored "steps" with
  | some (.arr steps) => steps.findIdx isFailedStep
  | _ => 0

/-- The change is a credential rotation that its workflow has yet to execute. -/
structure World.RotationReady (w : World ω) : Prop where
  changeType : w.cr.changeType = .credentialRotation
  status : w.cr.status ≠ .completed
  run : ∃ i r, w.Newest i r ∧ isActiveRun r = true ∧ r.result = []

/-- A request that is refused has no effect. -/
def rotationSystem (env : Env ω) : System (RotationState ω) RotationEvent where
  start s := s.world.RotationReady ∧ s.started = false ∧ s.recording = none ∧ s.resumes = 0 ∧
    s.succeeded = [] ∧ s.skipped = []
  step s
    | .execute =>
      if s.started then none
      else if s.world.cr.riskLevel.isNone then some { s with started := true }
      else
        let w := s.world.markStatus .executing
        some { s with
          world := (activityExecuteChange env w).2
          started := true
          recording := some (s.world,(activityExecuteChange env w).1)
          succeeded := s.succeeded ++ rotationActions env w }
    | .record =>
      s.recording.map fun (w,outcome) =>
        { s with world := (w.recordExecution env outcome s.world).2, recording := none }
    | .retry user =>
      match retryStep user s.world with
      | (.ok resumed,w) => some { s with world := w, resumes := s.resumes + resumed.toNat }
      | (.error _,_) => none
    | .skip user =>
      match skipStep user s.world with
      | (.ok resumed,w) => some { s with
          world := w
          resumes := s.resumes + resumed.toNat
          skipped := s.skipped ++ [s.world.failedPlace] }
      | (.error _,_) => none
    | .resume =>
      if s.resumes = 0 then none
      else some { s with
        world := (resumeExecution env s.world).2
        resumes := s.resumes - 1
        succeeded := s.succeeded ++ rotationActions env s.world }

section Decisions

variable {w w' : World ω} {user : User} {texts : ResumeTexts} {nothing status : String} {i j : Nat}
  {r : ExecutionRun} {more : Bool} {a b steps steps' : List Json} {x : Json}

theorem resolveFailedStep_none {t : String} (h : stepStatus x = some t) (ht : t ≠ "failed") :
    resolveFailedStep status x = .ok none := by
  obtain ⟨d,rfl⟩ := stepStatus_obj h
  cases hget : Dict.get? d "status" with
  | none => simp [stepStatus,hget] at h
  | some s =>
    cases s with
    | str u =>
      obtain rfl : u = t := by simpa [stepStatus,hget] using h
      simp [resolveFailedStep,Dict.getD,hget,Json.isStr,ht,Checks.ok_bind,Checks.pure_def]
    | _ => simp [stepStatus,hget] at h

theorem resolveFailedStep_some {y : Json} (h : resolveFailedStep status x = .ok (some y)) :
    stepStatus x = some "failed" := by
  obtain ⟨current,hcurrent,h⟩ := Checks.bind_eq_ok.mp h
  split at h
  · rename_i hfailed
    cases x with
    | obj d =>
      obtain rfl := Except.ok.inj hcurrent
      cases hget : Dict.get? d "status" with
      | none => simp [Dict.getD,hget,Json.isStr] at hfailed
      | some s =>
        cases s with
        | str u => simpa [Dict.getD,hget,Json.isStr,stepStatus] using hfailed
        | _ => simp [Dict.getD,hget,Json.isStr] at hfailed
    | _ => simp [Json.get] at hcurrent
  · cases Checks.pure_eq_ok.mp h

theorem resolveFailedStep_failed (status : String) (h : stepStatus x = some "failed") : ∃ y,
    resolveFailedStep status x = .ok (some y) ∧ stepStatus y = some status ∧
      stepAction y = stepAction x := by
  obtain ⟨d,hd⟩ := stepStatus_obj h
  obtain ⟨moved,y,hmoved,hy,hstatus,haction⟩ := put_moved hd status "error" (by simp) .null
  have hget : x.get "status" .null = .ok (.str "failed") := by
    subst hd
    cases hs : Dict.get? d "status" with
    | none => simp [stepStatus,hs] at h
    | some s =>
      cases s with
      | str u =>
        obtain rfl : u = "failed" := by simpa [stepStatus,hs] using h
        simp [Dict.getD,hs]
      | _ => simp [stepStatus,hs] at h
  refine ⟨y,?_,hstatus,haction⟩
  simp [resolveFailedStep,hget,Json.isStr,hmoved,hy,Checks.ok_bind,Checks.pure_def]

theorem changeFirst_unfailed (h : Unfailed steps) :
    changeFirst (resolveFailedStep status) steps ≠ .ok (some steps') := by
  induction steps generalizing steps' with
  | nil => simp [changeFirst]
  | cons x steps ih =>
    intro hchange
    obtain ⟨found,hfound,hchange⟩ := Checks.bind_eq_ok.mp hchange
    cases found with
    | some y => exact h x (by simp) (resolveFailedStep_some hfound)
    | none =>
      obtain ⟨rest,hrest,hchange⟩ := Checks.bind_eq_ok.mp hchange
      cases rest with
      | none => simp [Checks.pure_def] at hchange
      | some rest => exact ih (fun s hs => h s (by simp [hs])) hrest

theorem changeFirst_failed (status : String) (hknown : ∀ s ∈ a, ∃ t, stepStatus s = some t)
    (ha : Unfailed a) (hx : stepStatus x = some "failed") : ∃ y,
    changeFirst (resolveFailedStep status) (a ++ x :: b) = .ok (some (a ++ y :: b)) ∧
      stepStatus y = some status ∧ stepAction y = stepAction x := by
  obtain ⟨y,hy,hstatus,haction⟩ := resolveFailedStep_failed status hx
  refine ⟨y,?_,hstatus,haction⟩
  induction a with
  | nil => simp [changeFirst,hy,Checks.ok_bind,Checks.pure_def]
  | cons s a ih =>
    obtain ⟨t,ht⟩ := hknown s (by simp)
    have hne : t ≠ "failed" := by
      rintro rfl
      exact ha s (by simp) ht
    have hrest := ih (fun s hs => hknown s (by simp [hs])) fun s hs => ha s (by simp [hs])
    simp [changeFirst,resolveFailedStep_none ht hne,hrest,Checks.ok_bind,Checks.pure_def]

theorem anyM_waiting {more : Bool} (h : steps.anyM (fun s => do
      let status ← s.get "status" .null
      pure (status.isStr "pending" || status.isStr "executing")) = .ok more)
    (hmore : more = false) : ∀ s ∈ steps, stepStatus s ≠ some "pending" := by
  subst hmore
  induction steps with
  | nil => simp
  | cons s steps ih =>
    rw [List.anyM] at h
    obtain ⟨found,hfound,h⟩ := Checks.bind_eq_ok.mp h
    cases found with
    | true => cases Checks.pure_eq_ok.mp h
    | false =>
      obtain ⟨current,hcurrent,hfound⟩ := Checks.bind_eq_ok.mp hfound
      have hne : stepStatus s ≠ some "pending" := by
        intro hs
        obtain ⟨d,rfl⟩ := stepStatus_obj hs
        obtain rfl := Except.ok.inj hcurrent
        cases hget : Dict.get? d "status" with
        | none => simp [stepStatus,hget] at hs
        | some v =>
          cases v with
          | str t =>
            obtain rfl : t = "pending" := by simpa [stepStatus,hget] using hs
            simp [Dict.getD,hget,Json.isStr,Checks.pure_def] at hfound
          | _ => simp [stepStatus,hget] at hs
      simpa [hne] using ih h

/-- A decision is accepted on a paused change only and rewrites the steps of the newest run. -/
theorem decideStep_ok (hr : w.Newest i r)
    (h : decideStep user texts nothing status w = (.ok (j,more),w')) :
    w.cr.status = .paused ∧ j = i ∧ ∃ steps steps',
      (Dict.getD r.result "steps" (.arr [])).iter = .ok steps ∧
      changeFirst (resolveFailedStep status) steps = .ok (some steps') ∧
      (more = false → ∀ s ∈ steps', stepStatus s ≠ some "pending") ∧
      w' = w.setRun i fun r' => { r' with
        result := assignResult r.result "steps" steps' [("steps",.arr steps')] } := by
  obtain ⟨_,t,hcheck,hrest⟩ := Py.bind_eq_ok.mp h
  obtain ⟨ht,_,hpaused⟩ := checkPaused_ok hcheck
  rw [ht] at hrest
  have hlatest : latestRun (fun _ => true) w.runs = some i := hr.latest rfl
  obtain ⟨⟨k,loaded⟩,u,hrun,h⟩ := Py.bind_eq_ok.mp hrest
  unfold pausedRun at hrun
  rw [Py.get_bind,hlatest] at hrun
  obtain ⟨⟨rfl,rfl⟩,rfl⟩ : (i = k ∧ w.runResult (some i) = loaded) ∧ w = u := by simpa using hrun
  rw [hr.result] at h
  obtain ⟨steps',hreplace,h⟩ := Py.ofExcept_bind_eq_ok.mp h
  obtain ⟨more',hmore,h⟩ := Py.ofExcept_bind_eq_ok.mp h
  obtain ⟨⟨rfl,rfl⟩,rfl⟩ : (i = j ∧ more' = more) ∧ _ = w' := by simpa using h
  obtain ⟨steps,hsteps,hreplace⟩ := Checks.bind_eq_ok.mp hreplace
  obtain ⟨changed,hchanged,hreplace⟩ := Checks.bind_eq_ok.mp hreplace
  cases changed with
  | none => cases hreplace
  | some changed =>
    obtain rfl := Checks.pure_eq_ok.mp hreplace
    exact ⟨hpaused,rfl,steps,changed,hsteps,hchanged,anyM_waiting hmore,rfl⟩

/-- Nothing stored is in status failed, so every decision is refused. -/
theorem decideStep_refused (hr : w.Newest i r)
    (h : w.cr.status = .paused → StoresUnfailed r.result) :
    decideStep user texts nothing status w ≠ (.ok (j,more),w') := by
  intro hdecide
  obtain ⟨hpaused,_,steps,steps',hsteps,hchange,_⟩ := decideStep_ok hr hdecide
  exact changeFirst_unfailed (h hpaused steps hsteps) hchange

/-- The decision on the failed step of a paused state is written in place of the whole state. -/
theorem decideStep_failed {index : Json} (hr : w.Newest i r)
    (hstored : r.result = pausedState (a ++ x :: b) index)
    (hknown : ∀ s ∈ a, ∃ t, stepStatus s = some t) (ha : Unfailed a)
    (hx : stepStatus x = some "failed")
    (h : decideStep user texts nothing status w = (.ok (j,more),w')) :
    j = i ∧ ∃ y, stepStatus y = some status ∧ stepAction y = stepAction x ∧
      (more = false → ∀ s ∈ a ++ y :: b, stepStatus s ≠ some "pending") ∧
      w' = w.setRun i fun r' => { r' with result := [("steps",.arr (a ++ y :: b))] } := by
  obtain ⟨_,rfl,steps,steps',hsteps,hchange,hmore,hw⟩ := decideStep_ok hr h
  obtain rfl : a ++ x :: b = steps := by simpa [hstored,pausedState,Dict.getD] using hsteps
  obtain ⟨y,hy,hstatus,haction⟩ := changeFirst_failed status (b := b) hknown ha hx
  obtain rfl : a ++ y :: b = steps' := by simpa [hchange] using hy.symm
  refine ⟨rfl,y,hstatus,haction,hmore,?_⟩
  rw [hw,hstored]
  rfl

theorem retryStep_ok {resumed : Bool} (h : retryStep user w = (.ok resumed,w')) :
    resumed = true ∧ ∃ texts nothing j more v,
      decideStep user texts nothing "pending" w = (.ok (j,more),v) ∧
      w' = v.setStatus .executing := by
  obtain ⟨⟨j,more⟩,v,hdecide,h⟩ := Py.bind_eq_ok.mp h
  obtain ⟨rfl,rfl⟩ : true = resumed ∧ v.setStatus .executing = w' := by simpa using h
  exact ⟨rfl,_,_,j,more,v,hdecide,rfl⟩

theorem skipStep_ok {resumed : Bool} (h : skipStep user w = (.ok resumed,w')) :
    ∃ texts nothing j v, decideStep user texts nothing "skipped" w = (.ok (j,resumed),v) ∧
      w' = if resumed then v.setStatus .executing
        else (v.setStatus .completed).setRun j fun r => { r with status := .completed } := by
  obtain ⟨⟨j,more⟩,v,hdecide,h⟩ := Py.bind_eq_ok.mp h
  cases more with
  | true =>
    obtain ⟨rfl,rfl⟩ : true = resumed ∧ v.setStatus .executing = w' := by simpa using h
    exact ⟨_,_,j,v,hdecide,rfl⟩
  | false =>
    obtain ⟨rfl,rfl⟩ : false = resumed ∧ _ = w' := by simpa using h
    exact ⟨_,_,j,v,hdecide,rfl⟩

end Decisions

/-- The steps are those of the desired outcome, whatever their statuses are by now. -/
def Rotates (desired : Dict) (steps : List Json) : Prop :=
  ∃ planned, initSteps (Dict.getD desired "steps" (.arr [])) = .ok planned ∧
    steps.map stepAction = planned.map stepAction

/-- Every step of the change has been carried out, with the action it asks for, or skipped. -/
def RotationState.AllSettled (s : RotationState ω) : Prop :=
  ∃ planned, initSteps (Dict.getD s.world.cr.desiredOutcome "steps" (.arr [])) = .ok planned ∧
    ∀ k step, planned[k]? = some step → (k,stepAction step) ∈ s.succeeded ∨ k ∈ s.skipped

/-- Where a rotation stands. After the first decision no failed step is ever stored again, so a
change that pauses once more stays paused. -/
inductive RotationPhase (i : Nat) (s : RotationState ω) : Prop
  | approved (r : ExecutionRun) (hstarted : s.started = false) (hrecording : s.recording = none)
      (hresumes : s.resumes = 0) (hsucceeded : s.succeeded = []) (hskipped : s.skipped = [])
      (hstatus : s.world.cr.status ≠ .completed) (hr : s.world.Newest i r)
      (hactive : isActiveRun r = true) (hresult : r.result = [])
  | recording (w v : World ω) (outcome : Except Exc Json) (r : ExecutionRun) (before : List Json)
      (hstarted : s.started = true) (hrecording : s.recording = some (w,outcome))
      (hresumes : s.resumes = 0) (hlatest : latestRun (fun _ => true) w.runs = some i)
      (htype : w.cr.changeType = .credentialRotation) (hr : s.world.Newest i r)
      (hstatus : v.cr.status = .executing)
      (houtcome : ExecutionOutcome v s.world i before s.succeeded s.skipped outcome)
      (hrotates : ∀ result, outcome = .ok result → Rotates s.world.cr.desiredOutcome before)
  | failedStep (a : List Json) (x : Json) (b : List Json) (index : Json) (r : ExecutionRun)
      (hstarted : s.started = true) (hrecording : s.recording = none) (hresumes : s.resumes = 0)
      (hstatus : s.world.cr.status = .paused) (hr : s.world.Newest i r)
      (hactive : isActiveRun r = true) (hresult : r.result = pausedState (a ++ x :: b) index)
      (hx : stepStatus x = some "failed") (ha : Unfailed a) (hb : Unfailed b)
      (hrecords : RecordsActions (a ++ x :: b) s.succeeded s.skipped)
      (hrotates : Rotates s.world.cr.desiredOutcome (a ++ x :: b))
  | resuming (steps : List Json) (r : ExecutionRun) (hstarted : s.started = true)
      (hrecording : s.recording = none) (hresumes : s.resumes = 1)
      (hstatus : s.world.cr.status = .executing) (hr : s.world.Newest i r)
      (hactive : isActiveRun r = true) (hresult : r.result = [("steps",.arr steps)])
      (hsteps : steps ≠ []) (hunfailed : Unfailed steps)
      (hrecords : RecordsActions steps s.succeeded s.skipped)
      (hrotates : Rotates s.world.cr.desiredOutcome steps)
  | ended (r : ExecutionRun) (hstarted : s.started = true) (hrecording : s.recording = none)
      (hresumes : s.resumes = 0) (hr : s.world.Newest i r)
      (hrefuses : s.world.cr.status = .paused → StoresUnfailed r.result)
      (hsettled : s.world.cr.status = .completed → s.AllSettled)

structure RotationInv (s : RotationState ω) : Prop where
  changeType : s.world.cr.changeType = .credentialRotation
  once : (s.succeeded.map Prod.fst).Nodup
  phase : ∃ i, RotationPhase i s

theorem World.markStatus_desiredOutcome (w : World ω) (status : ChangeRequestStatus) :
    (w.markStatus status).cr.desiredOutcome = w.cr.desiredOutcome := by
  unfold World.markStatus
  split <;> rfl

theorem World.Newest.markStatus {w : World ω} {i : Nat} {r : ExecutionRun} (h : w.Newest i r)
    (status : ChangeRequestStatus) : (w.markStatus status).Newest i r := by
  obtain ⟨earlier,hw,hlen⟩ := h
  exact ⟨earlier,by rw [World.markStatus_runs,hw],hlen⟩

theorem World.Newest.unique {w : World ω} {i : Nat} {r r' : ExecutionRun} (h : w.Newest i r)
    (h' : w.Newest i r') : r = r' := by
  obtain ⟨earlier,hw,_⟩ := h
  obtain ⟨earlier',hw',_⟩ := h'
  simpa using (List.append_inj_right' (hw.symm.trans hw') rfl)

theorem storesUnfailed_nil : StoresUnfailed [] := by
  intro steps hsteps
  obtain rfl : [] = steps := by simpa [Dict.getD] using hsteps
  simp [Unfailed]

section Steps

variable {env : Env ω} {s s' : RotationState ω} {i : Nat} {steps : List Json}

theorem allSettled_of (hrotates : Rotates s.world.cr.desiredOutcome steps)
    (hrecords : RecordsActions steps s.succeeded s.skipped)
    (hsettled : ∀ step ∈ steps, StepSettled step) : s.AllSettled := by
  obtain ⟨planned,hplanned,hactions⟩ := hrotates
  refine ⟨planned,hplanned,fun k step hk => ?_⟩
  have hsame : steps[k]?.map stepAction = some (stepAction step) := by
    rw [← List.getElem?_map,hactions,List.getElem?_map,hk]
    rfl
  obtain ⟨current,hcurrent,haction⟩ := Option.map_eq_some_iff.mp hsame
  rw [← haction]
  rcases hsettled current (List.mem_of_getElem? hcurrent) with h | h
  · exact Or.inl (hrecords.completed k current hcurrent h)
  · exact Or.inr (hrecords.skipped k current hcurrent h)

/-- When a decision finds no failed step, the system takes none. -/
theorem decision_refused (env : Env ω) {r : ExecutionRun} (hr : s.world.Newest i r)
    (hrefuses : s.world.cr.status = .paused → StoresUnfailed r.result) (user : User) :
    (rotationSystem env).step s (.retry user) = none ∧
      (rotationSystem env).step s (.skip user) = none := by
  constructor
  · simp only [rotationSystem]
    rcases h : retryStep user s.world with ⟨outcome,w⟩
    cases outcome with
    | error e => rfl
    | ok resumed =>
      obtain ⟨_,texts,nothing,j,more,v,hdecide,_⟩ := retryStep_ok h
      exact absurd hdecide (decideStep_refused hr hrefuses)
  · simp only [rotationSystem]
    rcases h : skipStep user s.world with ⟨outcome,w⟩
    cases outcome with
    | error e => rfl
    | ok resumed =>
      obtain ⟨texts,nothing,j,v,hdecide,_⟩ := skipStep_ok h
      exact absurd hdecide (decideStep_refused hr hrefuses)

/-- What the execution returned decides where a decision on the recorded change would start. -/
theorem recording_refuses {v : World ω} {r : ExecutionRun} {outcome : Except Exc Json}
    (hr : s.world.Newest i r) (hstatus : v.cr.status = .executing)
    (houtcome : ExecutionOutcome v s.world i steps s.succeeded s.skipped outcome) :
    s.world.cr.status = .paused → StoresUnfailed r.result := by
  intro hpaused
  cases houtcome with
  | raised e hcr => simp [hcr,hstatus] at hpaused
  | finished _ hcr => simp [hcr] at hpaused
  | failed a x b index hcr hrun =>
    obtain ⟨r',hr',_,hunfailed⟩ := hrun
    rwa [hr.unique hr']

theorem executeSteps_unloaded (env : Env ω) {w : World ω} {r : ExecutionRun} {e : Exc}
    (hr : w.Newest i r) (hactive : isActiveRun r = true)
    (hload : loadSteps r.result w.cr.desiredOutcome = .error e) :
    executeSteps env w = (.error e,w) ∧ rotationActions env w = [] := by
  have hcurrent := hr.current hactive
  have hresult : w.runResult (some i) = r.result := hr.result
  constructor
  · rw [executeSteps,Py.get_bind]
    simp only [hcurrent,hresult,hload,Py.ofExcept_error_bind]
  · simp [rotationActions,hcurrent,hresult,hload]

theorem execute_keeps (hi : RotationInv s) (h : (rotationSystem env).step s .execute = some s') :
    RotationInv s' := by
  obtain ⟨htype,honce,i,hphase⟩ := hi
  simp only [rotationSystem] at h
  split at h
  · cases h
  rename_i hnew
  obtain ⟨r,hrecording,hresumes,hsucceeded,hskipped,hstatus,hr,hactive,hresult⟩ : ∃ r,
      s.recording = none ∧ s.resumes = 0 ∧ s.succeeded = [] ∧ s.skipped = [] ∧
      s.world.cr.status ≠ .completed ∧ s.world.Newest i r ∧ isActiveRun r = true ∧
      r.result = [] := by
    cases hphase with
    | approved r _ h1 h2 h3 h4 h5 h6 h7 h8 => exact ⟨r,h1,h2,h3,h4,h5,h6,h7,h8⟩
    | recording _ _ _ _ _ hstarted => exact absurd hstarted hnew
    | failedStep _ _ _ _ _ hstarted => exact absurd hstarted hnew
    | resuming _ _ hstarted => exact absurd hstarted hnew
    | ended _ hstarted => exact absurd hstarted hnew
  have hempty : StoresUnfailed r.result := by
    rw [hresult]
    exact storesUnfailed_nil
  split at h
  · obtain rfl := Option.some.inj h
    exact ⟨htype,honce,i,.ended r rfl hrecording hresumes hr (fun _ => hempty)
      fun hdone => absurd hdone hstatus⟩
  · obtain rfl := Option.some.inj h
    generalize hw : s.world.markStatus .executing = w
    have hwr : w.Newest i r := hw ▸ hr.markStatus .executing
    have hwtype : w.cr.changeType = .credentialRotation := by
      rw [← hw,World.markStatus_changeType,htype]
    have hwstatus : w.cr.status = .executing := by rw [← hw,World.markStatus_status]
    have hexec : activityExecuteChange env w = executeSteps env w := by
      rw [activityExecuteChange,Py.get_bind,hwtype]
      rfl
    have hlatest : latestRun (fun _ => true) s.world.runs = some i := hr.latest rfl
    simp only [hexec]
    cases hload : loadSteps r.result w.cr.desiredOutcome with
    | error e =>
      obtain ⟨hrun,hactions⟩ := executeSteps_unloaded env hwr hactive hload
      rw [hrun,hactions]
      exact ⟨hwtype,by simpa using honce,i,.recording s.world w _ r [] rfl rfl hresumes hlatest
        htype hwr hwstatus (.raised e rfl) (by simp)⟩
    | ok steps =>
      have hplanned : initSteps (Dict.getD w.cr.desiredOutcome "steps" (.arr [])) = .ok steps := by
        simpa [loadSteps,hresult,Dict.getD,Json.truthy] using hload
      have hpending := initSteps_status hplanned
      obtain ⟨hnodup,⟨r',hr'⟩,houtcome⟩ := executeSteps_outcome env hwr hactive hempty hload
        (.fresh hpending) (fun s hs => by simp [hpending s hs]) (by simp)
      obtain ⟨htype',hdesired⟩ := houtcome.kept
      have hsame : [] ++ rotationActions env w = s.succeeded ++ rotationActions env w := by
        rw [hsucceeded]
      rw [hsame,← hskipped] at houtcome
      rw [hsame] at hnodup
      refine ⟨htype'.trans hwtype,hnodup,i,.recording s.world w _ r' steps rfl rfl hresumes hlatest
        htype hr' hwstatus houtcome fun _ _ => ?_⟩
      exact ⟨steps,by rw [hdesired,hplanned],rfl⟩

section Recorded

variable {w v : World ω} (hlatest : latestRun (fun _ => true) w.runs = some i)

include hlatest

theorem recordExecution_raised (e : Exc) : (w.recordExecution env (.error e) v).2 =
    (v.markStatus .failed).setRun i fun r =>
      { r with status := .failed, result := [("error",.str e.str)] } := by
  rw [World.recordExecution,hlatest]
  rfl

variable (htype : w.cr.changeType = .credentialRotation)

include htype

theorem recordExecution_finished (steps : List Json) :
    (w.recordExecution env (.ok (stepsState steps)) v).2 =
      v.completedWith i (stepsState steps) := by
  rw [World.recordExecution,hlatest,htype]
  rfl

theorem recordExecution_paused (steps : List Json) (index : Json) :
    (w.recordExecution env (.ok (.obj (pausedState steps index))) v).2 =
      v.setRun i fun r => { r with status := .running, result := pausedState steps index } := by
  rw [World.recordExecution,hlatest,htype]
  rfl

end Recorded

theorem record_keeps (hi : RotationInv s) (h : (rotationSystem env).step s .record = some s') :
    RotationInv s' := by
  obtain ⟨htype,honce,i,hphase⟩ := hi
  obtain ⟨⟨w,outcome⟩,hrecording,h⟩ := Option.map_eq_some_iff.mp h
  obtain ⟨v,before,hstarted,hresumes,hlatest,hwtype,⟨r,hr⟩,hstatus,houtcome,hrotates⟩ :
      ∃ v before, s.started = true ∧ s.resumes = 0 ∧
        latestRun (fun _ => true) w.runs = some i ∧ w.cr.changeType = .credentialRotation ∧
        (∃ r, s.world.Newest i r) ∧ v.cr.status = .executing ∧
        ExecutionOutcome v s.world i before s.succeeded s.skipped outcome ∧
        ∀ result, outcome = .ok result → Rotates s.world.cr.desiredOutcome before := by
    cases hphase with
    | recording w₁ v outcome₁ r before h1 h2 h3 h4 h5 h6 h7 h8 h9 =>
      obtain ⟨rfl,rfl⟩ : w₁ = w ∧ outcome₁ = outcome := by simpa [h2] using hrecording
      exact ⟨v,before,h1,h3,h4,h5,⟨r,h6⟩,h7,h8,h9⟩
    | approved _ _ h => simp [h] at hrecording
    | failedStep _ _ _ _ _ _ h => simp [h] at hrecording
    | resuming _ _ _ h => simp [h] at hrecording
    | ended _ _ h => simp [h] at hrecording
  subst h
  dsimp only
  cases houtcome with
  | raised e hcr =>
    rw [recordExecution_raised hlatest]
    refine ⟨by simpa using htype,honce,i,.ended _ hstarted rfl hresumes
      ((hr.markStatus .failed).setRun _) (fun h => ?_) fun h => ?_⟩
    · simp at h
    · simp at h
  | finished steps hcr hdone hrecords hactions =>
    rw [recordExecution_finished hlatest hwtype]
    refine ⟨by simpa [World.completedWith] using htype,honce,i,.ended _ hstarted rfl hresumes
      ((hr.markStatus .completed).setRun _) (fun h => ?_) fun _ => ?_⟩
    · simp [World.completedWith] at h
    · refine allSettled_of ?_ hrecords hdone
      obtain ⟨planned,hplanned,hsame⟩ := hrotates _ rfl
      refine ⟨planned,?_,hactions.trans hsame⟩
      simpa [World.completedWith,World.markStatus_desiredOutcome] using hplanned
  | failed a x b index hcr hrun hx ha hb hrecords hactions =>
    rw [recordExecution_paused hlatest hwtype]
    obtain ⟨planned,hplanned,hsame⟩ := hrotates _ rfl
    exact ⟨htype,honce,i,.failedStep a x b index _ hstarted rfl hresumes (by simp [hcr])
      (hr.setRun _) rfl rfl hx ha hb hrecords ⟨planned,hplanned,hactions.trans hsame⟩⟩

/-- A decision starts from the failed step of a paused change. -/
theorem decision_phase (env : Env ω) (user : User) (hi : RotationPhase i s)
    (h : (rotationSystem env).step s (.retry user) ≠ none ∨
      (rotationSystem env).step s (.skip user) ≠ none) :
    ∃ a x b index r, s.started = true ∧ s.recording = none ∧ s.resumes = 0 ∧
      s.world.Newest i r ∧ isActiveRun r = true ∧ r.result = pausedState (a ++ x :: b) index ∧
      stepStatus x = some "failed" ∧ Unfailed a ∧ Unfailed b ∧
      RecordsActions (a ++ x :: b) s.succeeded s.skipped ∧
      Rotates s.world.cr.desiredOutcome (a ++ x :: b) := by
  have hrefused : ∀ r, s.world.Newest i r →
      (s.world.cr.status = .paused → StoresUnfailed r.result) → False := by
    intro r hr hrefuses
    obtain ⟨hretry,hskip⟩ := decision_refused env hr hrefuses user
    exact h.elim (fun h => h hretry) fun h => h hskip
  cases hi with
  | approved r _ _ _ _ _ _ hr _ hresult =>
    refine (hrefused r hr fun _ => ?_).elim
    rw [hresult]
    exact storesUnfailed_nil
  | recording w v outcome r before _ _ _ _ _ hr hstatus houtcome =>
    exact (hrefused r hr (recording_refuses hr hstatus houtcome)).elim
  | failedStep a x b index r h1 h2 h3 _ h4 h5 h6 h7 h8 h9 h10 h11 =>
    exact ⟨a,x,b,index,r,h1,h2,h3,h4,h5,h6,h7,h8,h9,h10,h11⟩
  | resuming _ r _ _ _ hstatus hr => exact (hrefused r hr fun h => by simp [hstatus] at h).elim
  | ended r _ _ _ hr hrefuses => exact (hrefused r hr hrefuses).elim

theorem findIdx_failed {a b : List Json} {x : Json} (ha : Unfailed a)
    (hx : stepStatus x = some "failed") : (a ++ x :: b).findIdx isFailedStep = a.length := by
  induction a with
  | nil => simp [List.findIdx_cons,isFailedStep,hx]
  | cons s a ih =>
    have hs : isFailedStep s = false := by simpa [isFailedStep] using ha s (by simp)
    have hrest := ih fun t ht => ha t (by simp [ht])
    simp [List.findIdx_cons,hs,hrest]

theorem World.Newest.failedPlace {w : World ω} {r : ExecutionRun} {a b : List Json}
    {x index : Json} (hr : w.Newest i r) (hresult : r.result = pausedState (a ++ x :: b) index)
    (ha : Unfailed a) (hx : stepStatus x = some "failed") : w.failedPlace = a.length := by
  have hlatest : latestRun (fun _ => true) w.runs = some i := hr.latest rfl
  have hstored : w.stored "steps" = some (.arr (a ++ x :: b)) := by
    rw [World.stored,hlatest,hr.result,hresult]
    rfl
  rw [World.failedPlace,hstored]
  exact findIdx_failed ha hx

theorem unfailed_replace {a b : List Json} {y : Json} (ha : Unfailed a) (hb : Unfailed b)
    (hy : stepStatus y ≠ some "failed") : Unfailed (a ++ y :: b) := by
  intro s hs
  simp only [List.mem_append,List.mem_cons] at hs
  rcases hs with hs | rfl | hs
  · exact ha s hs
  · exact hy
  · exact hb s hs

theorem Rotates.replace {desired : Dict} {a b : List Json} {x y : Json}
    (h : Rotates desired (a ++ x :: b)) (hy : stepAction y = stepAction x) :
    Rotates desired (a ++ y :: b) := by
  obtain ⟨planned,hplanned,hactions⟩ := h
  exact ⟨planned,hplanned,by rw [← hactions]; simp [hy]⟩

theorem RecordsActions.status {succeeded : List (Nat × List (Except Exc Json))}
    {skipped : List Nat} (h : RecordsActions steps succeeded skipped) :
    ∀ s ∈ steps, ∃ t, stepStatus s = some t := by
  intro s hs
  rcases h.known s hs with (h | h) | h | h <;> exact ⟨_,h⟩

theorem retry_keeps {user : User} (hi : RotationInv s)
    (h : (rotationSystem env).step s (.retry user) = some s') : RotationInv s' := by
  obtain ⟨htype,honce,_,hphase⟩ := hi
  obtain ⟨a,x,b,index,r,hstarted,hrecording,hresumes,hr,hactive,hresult,hx,ha,hb,hrecords,
    hrotates⟩ := decision_phase env user hphase (Or.inl (by simp [h]))
  simp only [rotationSystem] at h
  rcases hretry : retryStep user s.world with ⟨outcome,w⟩
  rw [hretry] at h
  cases outcome with
  | error e => cases h
  | ok resumed =>
    obtain rfl := Option.some.inj h
    obtain ⟨rfl,texts,nothing,j,more,v,hdecide,rfl⟩ := retryStep_ok hretry
    have hknown : ∀ s ∈ a, ∃ t, stepStatus s = some t := fun s hs =>
      hrecords.status s (by simp [hs])
    obtain ⟨rfl,y,hy,haction,_,rfl⟩ := decideStep_failed hr hresult hknown ha hx hdecide
    have hopen : ¬StepSettled x := by simp [StepSettled,hx]
    have hfresh := hrecords.undone a.length x (by simp) hopen
    have hnow : RecordsActions (a ++ y :: b) s.succeeded s.skipped :=
      hrecords.replace (by simp) (by simp +contextual) (by simp) (fun h => by simp [hy] at h)
        (fun h => by simp [hy] at h) (fun _ => hfresh) (Or.inr (Or.inl hy))
    exact ⟨htype,honce,_,.resuming _ _ hstarted hrecording (by simp [hresumes]) rfl
      (World.Newest.setRun (w := s.world) hr _) hactive rfl (by simp)
      (unfailed_replace ha hb (by simp [hy])) hnow (hrotates.replace haction)⟩

theorem skip_keeps {user : User} (hi : RotationInv s)
    (h : (rotationSystem env).step s (.skip user) = some s') : RotationInv s' := by
  obtain ⟨htype,honce,_,hphase⟩ := hi
  obtain ⟨a,x,b,index,r,hstarted,hrecording,hresumes,hr,hactive,hresult,hx,ha,hb,hrecords,
    hrotates⟩ := decision_phase env user hphase (Or.inr (by simp [h]))
  simp only [rotationSystem] at h
  rcases hskip : skipStep user s.world with ⟨outcome,w⟩
  rw [hskip] at h
  cases outcome with
  | error e => cases h
  | ok resumed =>
    obtain rfl := Option.some.inj h
    obtain ⟨texts,nothing,j,v,hdecide,rfl⟩ := skipStep_ok hskip
    have hknown : ∀ s ∈ a, ∃ t, stepStatus s = some t := fun s hs =>
      hrecords.status s (by simp [hs])
    obtain ⟨rfl,y,hy,haction,hmore,rfl⟩ := decideStep_failed hr hresult hknown ha hx hdecide
    have hplace : s.world.failedPlace = a.length := hr.failedPlace hresult ha hx
    have hnow : RecordsActions (a ++ y :: b) s.succeeded (s.skipped ++ [s.world.failedPlace]) :=
      hrecords.replace (by simp) (by simp +contextual) (by simp) (fun h => by simp [hy] at h)
        (fun _ => by simp [hplace]) (fun h => absurd (Or.inr hy) h) (Or.inl (Or.inr hy))
    have hunfailed := unfailed_replace ha hb (y := y) (by simp [hy])
    have hrotates' := hrotates.replace haction
    cases resumed with
    | true =>
      exact ⟨htype,honce,_,.resuming _ _ hstarted hrecording (by simp [hresumes]) rfl
        (World.Newest.setRun (w := s.world) hr _) hactive rfl (by simp) hunfailed hnow hrotates'⟩
    | false =>
      have hsettled : ∀ step ∈ a ++ y :: b, StepSettled step := by
        intro step hstep
        rcases hnow.known step hstep with h | h | h
        · exact h
        · exact absurd h (hmore rfl step hstep)
        · exact absurd h (hunfailed step hstep)
      refine ⟨htype,honce,_,.ended _ hstarted hrecording (by simp [hresumes])
        (World.Newest.setRun (w := s.world.setRun j _)
          (World.Newest.setRun (w := s.world) hr _) _) (fun h => ?_) fun _ => ?_⟩
      · simp at h
      · exact allSettled_of hrotates' hnow hsettled

theorem resumeExecution_rotation {w v : World ω} {outcome : Except Exc Json}
    (htype : w.cr.changeType = .credentialRotation) (hrun : executeSteps env w = (outcome,v)) :
    (resumeExecution env w).2 =
      match outcome with
      | .ok _ => v
      | .error _ => v.setStatus .failed := by
  have hexec : (resumedExecutor w.cr.changeType).run env w = (outcome,v) := by
    rw [htype]
    exact hrun
  rw [resumeExecution,Py.get_bind,Py.attempt_bind,hexec]
  cases outcome <;> rfl

theorem resume_keeps (hi : RotationInv s) (h : (rotationSystem env).step s .resume = some s') :
    RotationInv s' := by
  obtain ⟨htype,honce,i,hphase⟩ := hi
  simp only [rotationSystem] at h
  split at h
  · cases h
  rename_i hpending
  obtain rfl := Option.some.inj h
  cases hphase with
  | approved _ _ _ h => exact absurd h hpending
  | recording _ _ _ _ _ _ _ h => exact absurd h hpending
  | failedStep _ _ _ _ _ _ _ h => exact absurd h hpending
  | ended _ _ _ h => exact absurd h hpending
  | resuming steps r hstarted hrecording hresumes hstatus hr hactive hresult hsteps hunfailed
      hrecords hrotates =>
    have hload : loadSteps r.result s.world.cr.desiredOutcome = .ok steps := by
      simp [loadSteps,hresult,Dict.getD,Json.truthy,hsteps]
    have hstored : StoresUnfailed r.result := by
      rw [hresult]
      exact .steps hunfailed []
    obtain ⟨hnodup,⟨r',hr'⟩,houtcome⟩ :=
      executeSteps_outcome env hr hactive hstored hload hrecords hunfailed honce
    obtain ⟨htype',hdesired⟩ := houtcome.kept
    rcases hrun : executeSteps env s.world with ⟨outcome,w⟩
    rw [hrun] at hr' houtcome htype' hdesired
    dsimp only at hr' houtcome htype' hdesired
    have hresume := resumeExecution_rotation htype hrun
    have hzero : s.resumes - 1 = 0 := by omega
    rw [hresume]
    cases houtcome with
    | raised e hcr =>
      exact ⟨htype'.trans htype,hnodup,i,.ended r' hstarted hrecording hzero hr'
        (fun h => by simp at h) fun h => by simp at h⟩
    | finished steps' hcr hdone hrecords' hactions =>
      refine ⟨htype'.trans htype,hnodup,i,.ended r' hstarted hrecording hzero hr'
        (fun h => by simp [hcr] at h) fun _ => allSettled_of ?_ hrecords' hdone⟩
      obtain ⟨planned,hplanned,hsame⟩ := hrotates
      exact ⟨planned,by rw [hdesired,hplanned],hactions.trans hsame⟩
    | failed a x b index hcr hrun' =>
      obtain ⟨r₂,hr₂,_,hunfailed₂⟩ := hrun'
      exact ⟨htype'.trans htype,hnodup,i,.ended r₂ hstarted hrecording hzero hr₂
        (fun _ => hunfailed₂) fun h => by simp [hcr] at h⟩

theorem rotationInv_inductive (env : Env ω) : Inductive (rotationSystem env) RotationInv where
  start := by
    rintro s ⟨⟨htype,hstatus,i,r,hr,hactive,hresult⟩,h1,h2,h3,h4,h5⟩
    exact ⟨htype,by simp [h4],i,.approved r h1 h2 h3 h4 h5 hstatus hr hactive hresult⟩
  step := by
    intro s e s' hi h
    cases e with
    | execute => exact execute_keeps hi h
    | record => exact record_keeps hi h
    | retry user => exact retry_keeps hi h
    | skip user => exact skip_keeps hi h
    | resume => exact resume_keeps hi h

end Steps

/-- An executor whose second call is refused. -/
def flakyExecutor : Env Nat := Env.ofModules fun _ _ => .ok
  { execute := fun _ _ _ calls =>
      (if calls = 1 then .error (.other "refused") else .ok (.obj []),calls + 1)
    rollback := none }

def sampleUnrotated : RotationState Nat where
  world :=
    { cr := ⟨"cr-1","org-1","user-1",.credentialRotation,[],[("steps",.arr [
        .obj [("connector_type",.str "aws"),("action_id",.str "create_key")],
        .obj [("connector_type",.str "aws"),("action_id",.str "disable_key")]])],
        .approved,some .low,none,none⟩
      others := []
      runs := [⟨"wf-1",.pending,[]⟩]
      connectors := []
      site := ⟨[],[],[],[],0⟩ }
  started := false
  recording := none
  resumes := 0
  succeeded := []
  skipped := []

/-- A rotation is completed only when each of its steps has been carried out or skipped, and no
step is carried out twice. -/
theorem rotation_completes_once {env : Env ω} {s : RotationState ω}
    (h : Reachable (rotationSystem env) s) :
    (s.world.cr.status = .completed → s.AllSettled) ∧ (s.succeeded.map Prod.fst).Nodup := by
  obtain ⟨_,honce,i,hphase⟩ := h.invariant (rotationInv_inductive env)
  refine ⟨fun hdone => ?_,honce⟩
  cases hphase with
  | approved _ _ _ _ _ _ hstatus => exact absurd hdone hstatus
  | recording w v outcome r before _ _ _ _ _ _ hstatus houtcome hrotates =>
    cases houtcome with
    | raised e hcr => simp [hcr,hstatus] at hdone
    | failed a x b index hcr => simp [hcr] at hdone
    | finished steps hcr hsettled hrecords hactions =>
      obtain ⟨planned,hplanned,hsame⟩ := hrotates _ rfl
      exact allSettled_of ⟨planned,hplanned,hactions.trans hsame⟩ hrecords hsettled
  | failedStep _ _ _ _ _ _ _ _ hstatus => simp [hstatus] at hdone
  | resuming _ _ _ _ _ hstatus => simp [hstatus] at hdone
  | ended _ _ _ _ _ _ hsettled => exact hsettled hdone

/-- The second action fails, is retried and succeeds. -/
theorem retried_rotation_completed : ∃ s, Reachable (rotationSystem flakyExecutor) s ∧
    s.world.cr.status = .completed ∧ s.AllSettled ∧ s.succeeded.map Prod.fst = [0,1] := by
  have hstart : Run (rotationSystem flakyExecutor) [] sampleUnrotated :=
    .start ⟨⟨rfl,by decide,0,_,⟨[],rfl,rfl⟩,rfl,rfl⟩,rfl,rfl,rfl,rfl,rfl⟩
  have hend : ((rotationSystem flakyExecutor).replay sampleUnrotated
      [.execute,.record,.retry sampleAdmin,.resume]).map
        (fun s => (s.world.cr.status,s.succeeded.map Prod.fst)) =
      some (.completed,[0,1]) := by decide
  obtain ⟨s,hs,hfields⟩ := Option.map_eq_some_iff.mp hend
  obtain ⟨hstatus,hsucceeded⟩ := Prod.mk.inj hfields
  have hreach := (hstart.replay hs).reachable
  exact ⟨s,hreach,hstatus,(rotation_completes_once hreach).1 hstatus,hsucceeded⟩

end Nexplane
