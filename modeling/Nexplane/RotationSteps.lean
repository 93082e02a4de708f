import Nexplane.CredentialRotation
import Nexplane.Lib.Checks

set_option autoImplicit false

/-! What one execution of rotation steps does to them: which actions it carries out, how the
statuses change, and what of it the run remembers. -/

namespace Nexplane
open PyValue

variable {ω : Type}

/-- What a step asks for; carrying it out leaves these fields alone. -/
def stepAction (step : Json) : List (Except Exc Json) :=
  ["connector_type","action_id","params"].map step.index

def stepStatus : Json → Option String
  | .obj d =>
    match Dict.get? d "status" with
    | some (.str status) => some status
    | _ => none
  | _ => none

/-- The actions that the loop carries out without an exception, with the places of their steps. -/
def succeededActions (env : Env ω) (cr : ChangeRequest) (connectors : List Connector) :
    Nat → List Json → Site ω → List (Nat × List (Except Exc Json))
  | _, [], _ => []
  | k, step :: todo, s =>
    match needsExecution step, step.put "status" (.str "executing") with
    | .ok true, .ok executing =>
      match rotateStep env cr connectors executing s with
      | (.ok _, s') =>
        (k,stepAction executing) :: succeededActions env cr connectors (k + 1) todo s'
      | (.error _, _) => []
    | .ok false, _ => succeededActions env cr connectors (k + 1) todo s
    | _, _ => []

/-- The step has been carried out, or an operator has skipped it. -/
def StepSettled (step : Json) : Prop :=
  stepStatus step = some "completed" ∨ stepStatus step = some "skipped"

def Unfailed (steps : List Json) : Prop := ∀ step ∈ steps, stepStatus step ≠ some "failed"

/-- The statuses of the steps say no more than what has happened: a completed step's action has
succeeded, a skipped one was skipped, and the action of any other has not succeeded yet. -/
structure RecordsActions (steps : List Json) (succeeded : List (Nat × List (Except Exc Json)))
    (skipped : List Nat) : Prop where
  completed : ∀ k step, steps[k]? = some step → stepStatus step = some "completed" →
    (k,stepAction step) ∈ succeeded
  skipped : ∀ k step, steps[k]? = some step → stepStatus step = some "skipped" → k ∈ skipped
  undone : ∀ k step, steps[k]? = some step → ¬StepSettled step → k ∉ succeeded.map Prod.fst
  known : ∀ step ∈ steps, StepSettled step ∨ stepStatus step = some "pending" ∨
    stepStatus step = some "failed"

section Records

variable {step step' v : Json} {key status : String}

theorem put_eq_ok (h : step.put key v = .ok step') :
    ∃ d, step = .obj d ∧ step' = .obj (Dict.set d key v) := by
  cases step with
  | obj d => exact ⟨d,rfl,(Except.ok.inj h).symm⟩
  | _ => simp [Json.put] at h

theorem stepStatus_put (h : step.put "status" (.str status) = .ok step') :
    stepStatus step' = some status := by
  obtain ⟨d,rfl,rfl⟩ := put_eq_ok h
  simp [stepStatus]

theorem stepStatus_put_of_ne (hkey : "status" ≠ key) (h : step.put key v = .ok step') :
    stepStatus step' = stepStatus step := by
  obtain ⟨d,rfl,rfl⟩ := put_eq_ok h
  simp [stepStatus,Dict.get?_set_of_ne hkey]

theorem stepAction_put (hkey : key ∈ ["status","result","error"])
    (h : step.put key v = .ok step') : stepAction step' = stepAction step := by
  obtain ⟨d,rfl,rfl⟩ := put_eq_ok h
  have hget : ∀ k, k ≠ key → (Json.obj (Dict.set d key v)).index k = (Json.obj d).index k := by
    intro k hk
    simp [Json.index,Dict.get?_set_of_ne hk]
  simp only [List.mem_cons,List.not_mem_nil,or_false] at hkey
  rcases hkey with rfl | rfl | rfl <;> simp [stepAction,hget]

/-- A step that moves to another status, with its result or its error. -/
theorem put_moved {d : Dict} (hstep : step = .obj d) (status key : String)
    (hkey : key ∈ ["result","error"]) (v : Json) :
    ∃ moved x, step.put "status" (.str status) = .ok moved ∧ moved.put key v = .ok x ∧
      stepStatus x = some status ∧ stepAction x = stepAction step := by
  subst hstep
  have hmoved : (Json.obj d).put "status" (.str status) =
      .ok (.obj (Dict.set d "status" (.str status))) := rfl
  have hx : (Json.obj (Dict.set d "status" (.str status))).put key v =
      .ok (.obj (Dict.set (Dict.set d "status" (.str status)) key v)) := rfl
  have hne : "status" ≠ key := by
    rintro rfl
    simp at hkey
  refine ⟨_,_,hmoved,hx,(stepStatus_put_of_ne hne hx).trans (stepStatus_put hmoved),?_⟩
  exact (stepAction_put (List.mem_cons_of_mem _ hkey) hx).trans (stepAction_put (by simp) hmoved)

theorem stepStatus_obj (h : stepStatus step = some status) : ∃ d, step = .obj d := by
  cases step with
  | obj d => exact ⟨d,rfl⟩
  | _ => simp [stepStatus] at h

theorem needsExecution_of_status (h : stepStatus step = some status) :
    needsExecution step = .ok (status == "pending" || status == "executing") := by
  cases step with
  | obj d =>
    cases hget : Dict.get? d "status" with
    | none => simp [stepStatus,hget] at h
    | some s =>
      cases s with
      | str t =>
        obtain rfl : t = status := by simpa [stepStatus,hget] using h
        simp [needsExecution,Json.index,hget,Json.isStr,Checks.ok_bind,Checks.pure_def]
      | _ => simp [stepStatus,hget] at h
  | _ => simp [stepStatus] at h

theorem initStep_status {i : Nat} {desired : Json} (h : initStep i desired = .ok step) :
    stepStatus step = some "pending" := by
  obtain ⟨_,_,h⟩ := Checks.bind_eq_ok.mp h
  obtain ⟨_,_,h⟩ := Checks.bind_eq_ok.mp h
  obtain ⟨_,_,h⟩ := Checks.bind_eq_ok.mp h
  obtain ⟨_,_,h⟩ := Checks.bind_eq_ok.mp h
  obtain rfl := Checks.pure_eq_ok.mp h
  rfl

theorem initSteps_status {desired : Json} {steps : List Json}
    (h : initSteps desired = .ok steps) : ∀ step ∈ steps, stepStatus step = some "pending" := by
  obtain ⟨entries,_,h⟩ := Checks.bind_eq_ok.mp h
  intro step hstep
  obtain ⟨entry,_,hentry⟩ := Checks.mapM_mem h step hstep
  exact initStep_status hentry

end Records

section Loop

variable {succeeded succeeded' : List (Nat × List (Except Exc Json))} {skipped skipped' : List Nat}
  {a b : List Json} {x y : Json}

/-- One step that is not done gets another status; only its own place is in question. -/
theorem RecordsActions.replace (h : RecordsActions (a ++ x :: b) succeeded skipped)
    (hsucceeded : succeeded ⊆ succeeded')
    (hnew : ∀ k ∈ succeeded'.map Prod.fst, k ∈ succeeded.map Prod.fst ∨ k = a.length)
    (hskipped : skipped ⊆ skipped')
    (hcompleted : stepStatus y = some "completed" → (a.length,stepAction y) ∈ succeeded')
    (hskip : stepStatus y = some "skipped" → a.length ∈ skipped')
    (hundone : ¬StepSettled y → a.length ∉ succeeded'.map Prod.fst)
    (hknown : StepSettled y ∨ stepStatus y = some "pending" ∨ stepStatus y = some "failed") :
    RecordsActions (a ++ y :: b) succeeded' skipped' := by
  have hat : ∀ k step, (a ++ y :: b)[k]? = some step →
      k = a.length ∧ step = y ∨ k ≠ a.length ∧ (a ++ x :: b)[k]? = some step := by
    intro k step hk
    have hset : a ++ y :: b = (a ++ x :: b).set a.length y := by simp
    rw [hset,List.getElem?_set] at hk
    by_cases hka : a.length = k
    · subst hka
      simp at hk
      exact Or.inl ⟨rfl,hk.symm⟩
    · exact Or.inr ⟨Ne.symm hka,by simpa [hka] using hk⟩
  constructor
  · intro k step hk hs
    rcases hat k step hk with ⟨rfl,rfl⟩ | ⟨_,hk⟩
    · exact hcompleted hs
    · exact hsucceeded (h.completed k step hk hs)
  · intro k step hk hs
    rcases hat k step hk with ⟨rfl,rfl⟩ | ⟨_,hk⟩
    · exact hskip hs
    · exact hskipped (h.skipped k step hk hs)
  · intro k step hk hs hmem
    rcases hat k step hk with ⟨rfl,rfl⟩ | ⟨hne,hk⟩
    · exact hundone hs hmem
    · rcases hnew k hmem with hold | rfl
      · exact h.undone k step hk hs hold
      · exact hne rfl
  · intro step hstep
    simp only [List.mem_append,List.mem_cons] at hstep
    rcases hstep with hstep | rfl | hstep
    · exact h.known step (by simp [hstep])
    · exact hknown
    · exact h.known step (by simp [hstep])

theorem RecordsActions.fresh {steps : List Json}
    (h : ∀ step ∈ steps, stepStatus step = some "pending") : RecordsActions steps [] [] := by
  constructor
  · intro k step hk hs
    simp [h step (List.mem_of_getElem? hk)] at hs
  · intro k step hk hs
    simp [h step (List.mem_of_getElem? hk)] at hs
  · simp
  · intro step hstep
    exact Or.inr (Or.inl (h step hstep))

theorem persistSteps_eq (run : Option Nat) (shared : Bool) (steps : List Json) (w : World ω) :
    ∃ v, persistSteps run shared steps w = (.ok (),v) ∧ v.cr = w.cr ∧ v.site = w.site := by
  unfold persistSteps
  split
  · exact ⟨_,rfl,rfl,rfl⟩
  · exact ⟨_,rfl,rfl,rfl⟩

/-- How the loop over the steps ends. -/
inductive StepsOutcome (w w' : World ω) (before : List Json)
    (succeeded : List (Nat × List (Except Exc Json))) (skipped : List Nat) :
    Except Exc (List Json × Option Json) → Prop
  | raised (e : Exc) (hcr : w'.cr = w.cr) : StepsOutcome w w' before succeeded skipped (.error e)
  | finished (steps : List Json) (hcr : w'.cr = w.cr) (hdone : ∀ step ∈ steps, StepSettled step)
      (hrecords : RecordsActions steps succeeded skipped)
      (hactions : steps.map stepAction = before.map stepAction) :
      StepsOutcome w w' before succeeded skipped (.ok (steps,none))
  | failed (a : List Json) (x : Json) (b : List Json) (index : Json)
      (hcr : w'.cr = { w.cr with status := .paused }) (hx : stepStatus x = some "failed")
      (ha : Unfailed a) (hb : Unfailed b)
      (hrecords : RecordsActions (a ++ x :: b) succeeded skipped)
      (hactions : (a ++ x :: b).map stepAction = before.map stepAction) :
      StepsOutcome w w' before succeeded skipped (.ok (a ++ x :: b,some index))

theorem StepsOutcome.of_eq {v v' w : World ω} {before before' : List Json}
    {r : Except Exc (List Json × Option Json)}
    (h : StepsOutcome v v' before succeeded skipped r) (hcr : v.cr = w.cr)
    (hactions : before.map stepAction = before'.map stepAction) :
    StepsOutcome w v' before' succeeded skipped r := by
  cases h with
  | raised e h => exact .raised e (h.trans hcr)
  | finished steps h hdone hrecords hact =>
    exact .finished steps (h.trans hcr) hdone hrecords (hact.trans hactions)
  | failed a x b index h hx ha hb hrecords hact =>
    exact .failed a x b index (by rw [h,hcr]) hx ha hb hrecords (hact.trans hactions)

theorem rotateSteps_outcome (env : Env ω) (cr : ChangeRequest) (connectors : List Connector)
    (run : Option Nat) {done todo : List Json} (shared : Bool) (w : World ω)
    (hrecords : RecordsActions (done ++ todo) succeeded skipped)
    (hdone : ∀ step ∈ done, StepSettled step) (hunfailed : Unfailed todo)
    (hnodup : (succeeded.map Prod.fst).Nodup) :
    ((succeeded ++ succeededActions env cr connectors done.length todo w.site).map
        Prod.fst).Nodup ∧
      StepsOutcome w (rotateSteps env cr connectors run shared done todo w).2 (done ++ todo)
        (succeeded ++ succeededActions env cr connectors done.length todo w.site) skipped
        (rotateSteps env cr connectors run shared done todo w).1 := by
  induction todo generalizing done shared w succeeded with
  | nil =>
    simp only [succeededActions,rotateSteps,List.append_nil] at hrecords ⊢
    exact ⟨hnodup,.finished done rfl hdone hrecords rfl⟩
  | cons step todo ih =>
    have hstep : StepSettled step ∨ stepStatus step = some "pending" := by
      rcases hrecords.known step (by simp) with h | h | h
      · exact Or.inl h
      · exact Or.inr h
      · exact absurd h (hunfailed step (by simp))
    have htodo : Unfailed todo := fun s hs => hunfailed s (by simp [hs])
    rcases hstep with hstep | hstep
    · have hneeds : needsExecution step = .ok false := by
        rcases hstep with h | h <;> rw [needsExecution_of_status h] <;> rfl
      have hrest := @ih succeeded (done ++ [step]) shared w (by simpa using hrecords)
        (by simpa [or_imp,forall_and] using ⟨hdone,hstep⟩) htodo hnodup
      simpa [rotateSteps,succeededActions,hneeds] using hrest
    · have hneeds : needsExecution step = .ok true := by
        rw [needsExecution_of_status hstep]
        rfl
      obtain ⟨d,rfl⟩ := stepStatus_obj hstep
      have hopen : ¬StepSettled (Json.obj d) := by simp [StepSettled,hstep]
      have hfresh : done.length ∉ succeeded.map Prod.fst :=
        hrecords.undone done.length _ (by simp) hopen
      -- The step as it is while its action runs.
      generalize hexecuting : Json.obj (Dict.set d "status" (.str "executing")) = executing
      have hput : (Json.obj d).put "status" (.str "executing") = .ok executing := by
        rw [← hexecuting]
        rfl
      have haction : stepAction executing = stepAction (Json.obj d) := stepAction_put (by simp) hput
      obtain ⟨v,hv,hvcr,hvsite⟩ := persistSteps_eq run shared (done ++ executing :: todo) w
      rw [rotateSteps,succeededActions]
      simp only [hneeds,hput,Py.ofExcept_ok_bind,Bool.true_eq_false,if_false,Py.bind_ok hv,
        Py.attempt_bind,onSite,Py.zoom_run,hvsite]
      rcases hrun : rotateStep env cr connectors executing w.site with ⟨r,site⟩
      cases r with
      | ok result =>
        obtain ⟨moved,completed,hmoved,hcompleted,hstatus,hact⟩ :=
          put_moved hexecuting.symm "completed" "result" (by simp) result
        simp only [hmoved,hcompleted,Py.ofExcept_ok_bind]
        obtain ⟨u,hu,hucr,husite⟩ := persistSteps_eq run (shared || run.isSome)
          (done ++ completed :: todo) { v with site := site }
        rw [Py.bind_ok hu]
        have hnow : RecordsActions (done ++ [completed] ++ todo)
            (succeeded ++ [(done.length,stepAction executing)]) skipped := by
          rw [List.append_assoc,List.singleton_append]
          refine hrecords.replace (by simp) (by simp [or_comm]) (by simp) (fun _ => by simp [hact])
            (fun h => by simp [hstatus] at h) (fun h => absurd (Or.inl hstatus) h)
            (Or.inl (Or.inl hstatus))
        have hrest := @ih _ (done ++ [completed]) (shared || run.isSome) u hnow
          (by simpa [or_imp,forall_and] using ⟨hdone,Or.inl hstatus⟩) htodo
          (by
            simpa [List.nodup_append] using
              ⟨hnodup,fun k x hx hk => hfresh (hk ▸ List.mem_map_of_mem hx)⟩)
        rw [List.append_assoc,List.append_assoc,List.length_append,List.length_singleton,husite]
          at hrest
        exact ⟨hrest.1,hrest.2.of_eq (hucr.trans hvcr) (by simp [hact,haction])⟩
      | error e =>
        refine ⟨by simpa using hnodup,?_⟩
        simp only [List.append_nil]
        -- An entry that the handler itself cannot read lets a second exception out of it.
        cases hindex : executing.index "index" with
        | error e' => simpa using .raised e' hvcr
        | ok index =>
        cases hct : executing.index "connector_type" with
        | error e' => simpa using .raised e' hvcr
        | ok connectorType =>
        cases hai : executing.index "action_id" with
        | error e' => simpa using .raised e' hvcr
        | ok actionId =>
        obtain ⟨moved,failed,hmoved,hfailed,hstatus,hact⟩ :=
          put_moved hexecuting.symm "failed" "error" (by simp) (.str e.str)
        simp only [hmoved,hfailed,Py.ofExcept_ok_bind]
        obtain ⟨u,hu,hucr,husite⟩ := persistSteps_eq run (shared || run.isSome)
          (done ++ failed :: todo) { v with site := site }
        rw [Py.bind_ok hu,Py.modify_bind,Py.pure_run]
        have hnow : RecordsActions (done ++ failed :: todo) succeeded skipped :=
          hrecords.replace (by simp) (by simp +contextual) (by simp)
            (fun h => by simp [hstatus] at h) (fun h => by simp [hstatus] at h)
            (fun _ => hfresh) (Or.inr (Or.inr hstatus))
        refine .failed done failed todo index ?_ hstatus (fun s hs => ?_) htodo hnow
          (by simp [hact,haction])
        · simp [World.setStatus,hucr,hvcr]
        · rcases hdone s hs with h | h <;> simp [h]

end Loop

section Execution

variable {w w' : World ω} {i : Nat} {r : ExecutionRun}
  {succeeded : List (Nat × List (Except Exc Json))} {skipped : List Nat}

/-- `r` is the last run, with number `i`. -/
def World.Newest (w : World ω) (i : Nat) (r : ExecutionRun) : Prop :=
  ∃ earlier, w.runs = earlier ++ [r] ∧ earlier.length = i

theorem World.Newest.latest (h : w.Newest i r) {p : ExecutionRun → Bool} (hp : p r = true) :
    latestRun p w.runs = some i := by
  obtain ⟨earlier,hw,rfl⟩ := h
  rw [hw]
  exact latestRun_concat hp

theorem World.Newest.current (h : w.Newest i r) (hr : isActiveRun r = true) :
    currentRun w.runs = some i := by simp [currentRun,h.latest hr]

theorem World.Newest.result (h : w.Newest i r) : w.runResult (some i) = r.result := by
  obtain ⟨earlier,hw,rfl⟩ := h
  simp [World.runResult,World.run?,hw]

theorem World.Newest.setRun (h : w.Newest i r) (f : ExecutionRun → ExecutionRun) :
    (w.setRun i f).Newest i (f r) := by
  obtain ⟨earlier,hw,rfl⟩ := h
  exact ⟨earlier,by simp [World.setRun,hw,modify_concat],rfl⟩

/-- A decision on what is stored finds no failed step. -/
def StoresUnfailed (result : Dict) : Prop :=
  ∀ steps, (Dict.getD result "steps" (.arr [])).iter = .ok steps → Unfailed steps

/-- The newest run is active and stores no failed step. -/
def World.RunsUnfailed (w : World ω) (i : Nat) : Prop :=
  ∃ r, w.Newest i r ∧ isActiveRun r = true ∧ StoresUnfailed r.result

theorem StoresUnfailed.steps {steps : List Json} (h : Unfailed steps) (rest : Dict) :
    StoresUnfailed (("steps",.arr steps) :: rest) := by
  intro stored hstored
  obtain rfl : steps = stored := by simpa [Dict.getD] using hstored
  exact h

theorem persistSteps_unfailed {shared : Bool} {steps : List Json}
    (h : shared = true ∨ Unfailed steps) :
    Py.Keeps (fun v : World ω => v.RunsUnfailed i) (persistSteps (some i) shared steps) := by
  cases shared with
  | true => exact .pure _
  | false =>
    refine .modify fun v => ?_
    rintro ⟨r,hr,hactive,_⟩
    exact ⟨_,hr.setRun _,hactive,.steps (by simpa using h) []⟩

/-- While the steps are executed the run never stores a failed one: the first write precedes
every failure, and the later ones do not reach the row. -/
theorem rotateSteps_unfailed (env : Env ω) (cr : ChangeRequest) (connectors : List Connector)
    (shared : Bool) (done : List Json) {todo : List Json}
    (h : shared = true ∨ Unfailed (done ++ todo)) :
    Py.Keeps (fun v : World ω => v.RunsUnfailed i)
      (rotateSteps env cr connectors (some i) shared done todo) := by
  induction todo generalizing shared done with
  | nil => exact .pure _
  | cons step todo ih =>
    refine .bind (.ofExcept _) fun needed => .ite (ih _ _ (by simpa using h)) fun v hv => ?_
    cases hput : step.put "status" (.str "executing") with
    | error e => exact hv
    | ok executing =>
      have hpersist : shared = true ∨ Unfailed (done ++ executing :: todo) := by
        refine h.imp_right fun h s hs => ?_
        simp only [List.mem_append,List.mem_cons] at hs
        rcases hs with hs | rfl | hs
        · exact h s (by simp [hs])
        · simp [stepStatus_put hput]
        · exact h s (by simp [hs])
      have hlater : ∀ steps, Py.Keeps (fun v : World ω => v.RunsUnfailed i)
          (persistSteps (some i) (shared || (some i).isSome) steps) := fun steps =>
        persistSteps_unfailed (Or.inl (by simp))
      refine (Py.Keeps.bind (persistSteps_unfailed hpersist) fun _ =>
        .bind (.attempt (onSite_frame (fun _ _ h => h) _)) fun outcome => ?_ :
          Py.Keeps (fun v : World ω => v.RunsUnfailed i) _) v hv
      cases outcome with
      | ok result =>
        exact .bind (.ofExcept _) fun _ => .bind (.ofExcept _) fun _ =>
          .bind (hlater _) fun _ => ih _ _ (Or.inl (by simp))
      | error e =>
        exact .bind (.ofExcept _) fun _ => .bind (.ofExcept _) fun _ => .bind (.ofExcept _) fun _ =>
          .bind (.ofExcept _) fun _ => .bind (.ofExcept _) fun _ => .bind (hlater _) fun _ =>
          .bind (.modify fun _ h => h) fun _ => .pure _

/-- The actions that one execution of the steps carries out. -/
def rotationActions (env : Env ω) (w : World ω) : List (Nat × List (Except Exc Json)) :=
  match loadSteps (w.runResult (currentRun w.runs)) w.cr.desiredOutcome with
  | .ok steps => succeededActions env w.cr w.connectors 0 steps w.site
  | .error _ => []

/-- The result that an execution returns when a step fails. -/
def pausedState (steps : List Json) (index : Json) : Dict :=
  [("steps",.arr steps),("paused",.bool true),("current_step",index)]

/-- How an execution of the steps ends. -/
inductive ExecutionOutcome (w w' : World ω) (i : Nat) (before : List Json)
    (succeeded : List (Nat × List (Except Exc Json))) (skipped : List Nat) :
    Except Exc Json → Prop
  | raised (e : Exc) (hcr : w'.cr = w.cr) :
      ExecutionOutcome w w' i before succeeded skipped (.error e)
  | finished (steps : List Json) (hcr : w'.cr = { w.cr with status := .completed })
      (hdone : ∀ step ∈ steps, StepSettled step)
      (hrecords : RecordsActions steps succeeded skipped)
      (hactions : steps.map stepAction = before.map stepAction) :
      ExecutionOutcome w w' i before succeeded skipped (.ok (stepsState steps))
  | failed (a : List Json) (x : Json) (b : List Json) (index : Json)
      (hcr : w'.cr = { w.cr with status := .paused }) (hrun : w'.RunsUnfailed i)
      (hx : stepStatus x = some "failed") (ha : Unfailed a) (hb : Unfailed b)
      (hrecords : RecordsActions (a ++ x :: b) succeeded skipped)
      (hactions : (a ++ x :: b).map stepAction = before.map stepAction) :
      ExecutionOutcome w w' i before succeeded skipped
        (.ok (.obj (pausedState (a ++ x :: b) index)))

theorem ExecutionOutcome.kept {before : List Json} {outcome : Except Exc Json}
    (h : ExecutionOutcome w w' i before succeeded skipped outcome) :
    w'.cr.changeType = w.cr.changeType ∧ w'.cr.desiredOutcome = w.cr.desiredOutcome := by
  cases h with
  | raised e hcr => simp [hcr]
  | finished _ hcr => simp [hcr]
  | failed _ _ _ _ hcr => simp [hcr]

theorem executeSteps_outcome (env : Env ω) {steps : List Json} (hr : w.Newest i r)
    (hactive : isActiveRun r = true)
    (hstored : StoresUnfailed r.result)
    (hload : loadSteps r.result w.cr.desiredOutcome = .ok steps)
    (hrecords : RecordsActions steps succeeded skipped) (hunfailed : Unfailed steps)
    (hnodup : (succeeded.map Prod.fst).Nodup) :
    ((succeeded ++ rotationActions env w).map Prod.fst).Nodup ∧
      (∃ r', (executeSteps env w).2.Newest i r') ∧
      ExecutionOutcome w (executeSteps env w).2 i steps (succeeded ++ rotationActions env w)
        skipped (executeSteps env w).1 := by
  have hcurrent := hr.current hactive
  have hresult : w.runResult (some i) = r.result := hr.result
  have hloop := rotateSteps_outcome env w.cr w.connectors (some i) (sharesSteps r.result) w
    (show RecordsActions ([] ++ steps) succeeded skipped from hrecords) (by simp) hunfailed hnodup
  have hkept := rotateSteps_unfailed env w.cr w.connectors (sharesSteps r.result) []
    (Or.inr hunfailed) w ⟨r,hr,hactive,hstored⟩
  have hactions : rotationActions env w =
      succeededActions env w.cr w.connectors 0 steps w.site := by
    simp [rotationActions,hcurrent,hresult,hload]
  rw [hactions]
  refine ⟨hloop.1,?_⟩
  have hcases := hloop.2
  clear hloop
  rw [executeSteps,Py.get_bind]
  simp only [hcurrent,hresult,hload,Py.ofExcept_ok_bind]
  rcases hrun : rotateSteps env w.cr w.connectors (some i) (sharesSteps r.result) [] steps w with
    ⟨outcome,v⟩
  rw [hrun] at hcases hkept
  simp only [List.nil_append,List.length_nil] at hcases hkept
  obtain ⟨r',hr',hactive',hstored'⟩ := hkept
  cases hcases with
  | raised e hcr =>
    rw [Py.bind_error hrun]
    exact ⟨⟨r',hr'⟩,.raised e hcr⟩
  | failed a x b index hcr hx ha hb hrecords hact =>
    rw [Py.bind_ok hrun]
    exact ⟨⟨r',hr'⟩,.failed a x b index hcr ⟨r',hr',hactive',hstored'⟩ hx ha hb hrecords hact⟩
  | finished steps' hcr hdone hrecords hact =>
    rw [Py.bind_ok hrun]
    have hlatest : latestRun isActiveRun v.runs = some i := hr'.latest hactive'
    simp only [Py.modify_bind,Py.get_bind,World.setStatus_runs,hlatest,Py.pure_run]
    refine ⟨⟨_,World.Newest.setRun (r := r') hr' _⟩,.finished steps' ?_ hdone hrecords hact⟩
    simp [World.setStatus,hcr]

end Execution

end Nexplane
