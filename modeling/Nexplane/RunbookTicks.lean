import Nexplane.RunbookRuns
import Nexplane.Lib.Orm

set_option autoImplicit false

/-! The scheduler's tick over all executions, which may stop after any of its commits and starts,
and how often it starts a change request for a step. -/

namespace Nexplane
open Runs RunbookExecutor

/-- The rows of the executions, in the order in which they were triggered, and of the change
requests. -/
structure TickStore where
  executions : List RunbookExecution
  changeRequests : Uuid → Option ChangeRequestStatus

/-- A workflow that was started for a step, or for a child of its group. -/
structure RunbookStart where
  execution : Nat
  stepNumber : Int
  child : Nat
  crId : Uuid
  deriving DecidableEq, Repr

def RunbookStart.work (st : RunbookStart) : Nat × Int × Nat :=
  (st.execution,st.stepNumber,st.child)

/-- What is committed, and the workflows that were started, in their order. -/
structure RunbookLedger where
  store : TickStore
  starts : List RunbookStart

/-- What a tick does outside its session. -/
inductive TickEffect where
  | commit (store : TickStore)
  | start (st : RunbookStart)

def RunbookLedger.apply (l : RunbookLedger) : TickEffect → RunbookLedger
  | .commit store => { l with store := store }
  | .start st => { l with starts := l.starts ++ [st] }

namespace TickStore

def executor (w : TickStore) (j : Nat) : Option RunbookExecutor :=
  w.executions[j]?.map fun ex => ⟨ex,w.changeRequests⟩

def put (w : TickStore) (j : Nat) (s : RunbookExecutor) : TickStore :=
  ⟨w.executions.set j s.execution,s.changeRequests⟩

end TickStore

/-- The change requests that the bridge starts for a step. -/
def bridged (s : RunbookExecutor) (d : StepTree) (r : RunbookStepResult) (i : TickInput) :
    List Uuid :=
  if r.status = .pending then
    if d.fields.type = "change" then (i.created 0).toOption.toList
    else if d.fields.type = "parallel_group" then
      (createChildren i.created 0 d.parallelSteps s.changeRequests).1
    else []
  else []

/-- A later child of a group ends the tick of the execution with an exception that the loop over
the children does not catch, and what was started is not recorded. -/
def unrecorded (s : RunbookExecutor) (d : StepTree) (r : RunbookStepResult) (i : TickInput) :
    Bool :=
  r.status = .pending && d.fields.type = "parallel_group" &&
    !(createChildren i.created 0 d.parallelSteps s.changeRequests).1.isEmpty &&
    (createChildren i.created 0 d.parallelSteps s.changeRequests).2.2.any fun
      | .valueError _ => false
      | _ => true

/-- The bridge commits each change request, with all that the session holds, and starts its
workflow. -/
def bridgeEffects (j : Nat) (n : Int) (w : TickStore) : Nat → List Uuid → List TickEffect
  | _, [] => []
  | k, crId :: crIds =>
    let w := { w with changeRequests := Function.update w.changeRequests crId (some .approved) }
    .commit w :: .start ⟨j,n,k,crId⟩ :: bridgeEffects j n w (k + 1) crIds

section Tick

variable (eval : Evaluator) (inputs : Nat → TickInput)

namespace TickStore

/-- The effects of `tick_execution`. -/
def effectsOf (w : TickStore) (j : Nat) : List TickEffect :=
  match w.executor j with
  | none => []
  | some s =>
    match s.execution.stepAt s.execution.currentStep with
    | none => []
    | some d =>
      let (r,ex) := s.execution.getOrCreateStepResult d
      bridgeEffects j d.fields.stepNumber (w.put j (s.setExecution ex)) 0
        (bridged (s.setExecution ex) d r (inputs j))

/-- The rows in the session after `tick_execution`. -/
def ticked (w : TickStore) (j : Nat) : TickStore :=
  match w.executor j with
  | none => w
  | some s => w.put j (s.tickExecution eval (inputs j))

/-- `tick_execution` loses what it started. -/
def loses (w : TickStore) (j : Nat) : Bool :=
  match w.executor j with
  | none => false
  | some s =>
    match s.execution.stepAt s.execution.currentStep with
    | none => false
    | some d =>
      let (r,ex) := s.execution.getOrCreateStepResult d
      unrecorded (s.setExecution ex) d r (inputs j)

/-- The effects of a tick for the executions `js` and its final commit. -/
def tickEffects (w : TickStore) : List Nat → List TickEffect
  | [] => [.commit w]
  | j :: js => w.effectsOf inputs j ++ (w.ticked eval inputs j).tickEffects js

/-- The executions that a tick takes up. -/
def activeExecutions (w : TickStore) : List Nat :=
  (List.range w.executions.length).filter fun j =>
    (w.executor j).any RunbookExecutor.isActive

/-- The first `stop` effects of a tick do not end between a start and the commit of the record
of it. -/
def Unbroken (stop : Nat) (w : TickStore) : List Nat → Prop
  | [] => True
  | j :: js =>
    (stop ≤ 1 ∨ w.loses inputs j = false ∧ (w.effectsOf inputs j).length < stop) ∧
      Unbroken (stop - (w.effectsOf inputs j).length) (w.ticked eval inputs j) js

end TickStore

/-- `tick_all_executions`, which stops, or whose commit fails, after `stop` effects. -/
def RunbookLedger.tick (l : RunbookLedger) (stop : Nat) : RunbookLedger :=
  ((l.store.tickEffects eval inputs l.store.activeExecutions).take stop).foldl
    RunbookLedger.apply l

end Tick

/-- What happens to the stored executions. -/
inductive LedgerEvent where
  | trigger (steps : List StepTree) (context : PyValue.Dict)
  | tick (inputs : Nat → TickInput) (stop : Nat)
  | resume (j : Nat) (q : ResumeRequest)
  | abort (j : Nat) (now : Int)
  | change (crId : Uuid) (status : Option ChangeRequestStatus)

def RunbookLedger.request (l : RunbookLedger) (j : Nat)
    (f : RunbookExecutor → Except PyValue.Exc RunbookExecutor) : Option RunbookLedger := do
  let s ← l.store.executor j
  let s' ← (f s).toOption
  pure { l with store := l.store.put j s' }

def ledgerSystem (eval : Evaluator) : System RunbookLedger LedgerEvent where
  start l := l.store.executions = [] ∧ l.starts = []
  step l e := match e with
    | .trigger steps context => some { l with
        store := { l.store with
          executions := l.store.executions ++ [{ steps := steps, context := context }] } }
    | .tick inputs stop => some (l.tick eval inputs stop)
    | .resume j q => l.request j fun s => s.resumeCheckpoint q
    | .abort j now => l.request j fun s => s.abortExecution now
    | .change crId status => some { l with
        store := { l.store with
          changeRequests := Function.update l.store.changeRequests crId status } }

/-- A tick that records what it starts. -/
def Recording (eval : Evaluator) (l : RunbookLedger) : LedgerEvent → Prop
  | .tick inputs stop => l.store.Unbroken eval inputs stop l.store.activeExecutions
  | _ => True

/-- The row of the step has left its first status and names the change request. -/
def RunbookExecution.Records (ex : RunbookExecution) (st : RunbookStart) : Prop :=
  ∃ r, ex.resultAt st.stepNumber = some r ∧ r.status ≠ .pending ∧ st.crId ∈ r.changeRequestIds

def TickStore.Records (w : TickStore) (st : RunbookStart) : Prop :=
  ∃ ex, w.executions[st.execution]? = some ex ∧ ex.Records st

/-- No step and no child of a group is started twice, and each start is recorded. -/
structure StartedOnce (l : RunbookLedger) : Prop where
  once : (l.starts.map RunbookStart.work).Nodup
  recorded : ∀ st ∈ l.starts, l.store.Records st

section Rows

variable {eval : Evaluator} {s s' : RunbookExecutor} {ex : RunbookExecution} {d : StepTree}
  {r r' : RunbookStepResult} {i : TickInput} {n : Int} {st : RunbookStart}

/-- No step has two rows. -/
def RunbookExecution.RowsUnique (ex : RunbookExecution) : Prop :=
  (ex.stepResults.map RunbookStepResult.stepNumber).Nodup

theorem handleStepFailure_stepResults (d : StepTree) (now : Int) (ex : RunbookExecution) :
    (ex.handleStepFailure d now).stepResults = ex.stepResults := by
  unfold RunbookExecution.handleStepFailure
  split
  · rfl
  split
  · rfl
  split
  · rfl
  · rfl

/-- The row that a step writes keeps the change requests of an earlier tick and gets the ones of
this tick. -/
structure RowWritten (r r' : RunbookStepResult) (started : List Uuid) : Prop where
  number : r'.stepNumber = r.stepNumber
  taken : r'.status ≠ .pending
  names : ∀ crId ∈ started, crId ∈ r'.changeRequestIds
  keeps : r.status ≠ .pending → r'.changeRequestIds = r.changeRequestIds

/-- What a step does to the rows. -/
inductive RowsAfter (s : RunbookExecutor) (r : RunbookStepResult) (started : List Uuid)
    (lost : Bool) (s' : RunbookExecutor) : Prop where
  | same : s'.execution.stepResults = s.execution.stepResults →
      started = [] ∨ lost = true → RowsAfter s r started lost s'
  | saved (r' : RunbookStepResult) :
      s'.execution.stepResults = (s.execution.save r').stepResults →
      RowWritten r r' started → RowsAfter s r started lost s'

theorem failStep_rows {started : List Uuid} {lost : Bool} (h : RowWritten r r' started)
    (now : Int) (hs : s'.execution = s.execution) :
    RowsAfter s r started lost (s'.failStep d r' now) :=
  .saved r' (by rw [← hs]; exact handleStepFailure_stepResults d now _) h

theorem changeStep_rows (htype : d.fields.type = "change") :
    RowsAfter s r (bridged s d r i) (unrecorded s d r i) (s.executeChangeStep d r i) := by
  unfold RunbookExecutor.executeChangeStep bridged
  cases hr : r.status with
  | pending =>
    rw [if_pos rfl,if_pos htype]
    rcases hcreated : i.created 0 with e | crId
    · cases e with
      | valueError message =>
        refine failStep_rows ?_ _ rfl
        exact ⟨rfl,by simp,by simp [Except.toOption],fun h => absurd hr h⟩
      | _ => exact .same rfl (Or.inl rfl)
    · exact .saved _ rfl ⟨rfl,by simp,by simp [Except.toOption],fun h => absurd hr h⟩
  | running =>
    rw [if_neg (by simp)]
    rcases hids : r.changeRequestIds with _ | ⟨crId,rest⟩
    · exact .same rfl (Or.inl rfl)
    · dsimp only
      cases hcr : s.changeRequests crId with
      | none =>
        refine failStep_rows ?_ _ rfl
        exact ⟨rfl,by simp,by simp,fun _ => hids.symm⟩
      | some status =>
        cases status with
        | completed => exact .saved _ rfl ⟨rfl,by simp,by simp,fun _ => hids.symm⟩
        | failed | rejected | rolledBack =>
          refine failStep_rows ?_ _ rfl
          exact ⟨rfl,by simp,by simp,fun _ => hids.symm⟩
        | _ => exact .same rfl (Or.inl rfl)
  | _ => exact .same rfl (Or.inl rfl)

theorem conditionStep_rows (hstarted : bridged s d r i = []) :
    RowsAfter s r (bridged s d r i) (unrecorded s d r i) (s.executeConditionStep eval d r i) := by
  rw [hstarted]
  unfold RunbookExecutor.executeConditionStep
  split
  · exact .same rfl (Or.inl rfl)
  · split
    · refine failStep_rows ?_ _ rfl
      exact ⟨rfl,by simp,by simp,fun _ => rfl⟩
    · exact .saved _ rfl ⟨rfl,by simp,by simp,fun _ => rfl⟩

theorem checkpointStep_rows (hstarted : bridged s d r i = []) :
    RowsAfter s r (bridged s d r i) (unrecorded s d r i) (s.executeCheckpointStep d r i) := by
  rw [hstarted]
  unfold RunbookExecutor.executeCheckpointStep
  split
  · exact .saved _ rfl ⟨rfl,by simp,by simp,fun _ => rfl⟩
  split
  · split
    · exact .saved _ rfl ⟨rfl,by simp,by simp,fun _ => rfl⟩
    · exact .saved _ rfl ⟨rfl,by simp,by simp,fun _ => rfl⟩
  · exact .same rfl (Or.inl rfl)

theorem parallelStep_rows (htype : d.fields.type = "parallel_group") :
    RowsAfter s r (bridged s d r i) (unrecorded s d r i) (s.executeParallelStep d r i) := by
  unfold RunbookExecutor.executeParallelStep bridged unrecorded
  cases hr : r.status with
  | pending =>
    rw [if_pos rfl,if_neg (by simp [htype]),if_pos htype]
    generalize createChildren i.created 0 d.parallelSteps s.changeRequests = started
    obtain ⟨crIds,crs,e⟩ := started
    cases e with
    | none => exact .saved _ rfl ⟨rfl,by simp,fun _ h => h,fun h => absurd hr h⟩
    | some e =>
      cases e with
      | valueError message =>
        refine failStep_rows ?_ _ rfl
        exact ⟨rfl,by simp,fun _ h => h,fun h => absurd hr h⟩
      | _ =>
        refine .same rfl ?_
        cases crIds with
        | nil => exact Or.inl rfl
        | cons crId rest => exact Or.inr (by simp [htype])
  | running =>
    rw [if_neg (by simp)]
    dsimp only
    split
    · split
      · refine failStep_rows ?_ _ rfl
        exact ⟨rfl,by simp,by simp,fun _ => rfl⟩
      · exact .saved _ rfl ⟨rfl,by simp,by simp,fun _ => rfl⟩
    · exact .same rfl (Or.inl rfl)
  | _ => exact .same rfl (Or.inl rfl)

variable (eval s d r i) in
theorem executeStep_rows :
    RowsAfter s r (bridged s d r i) (unrecorded s d r i) (s.executeStep eval d r i) := by
  have hother : d.fields.type ≠ "change" → d.fields.type ≠ "parallel_group" →
      bridged s d r i = [] := by
    intro hchange hgroup
    simp [bridged,hchange,hgroup]
  unfold RunbookExecutor.executeStep
  split
  · exact changeStep_rows ‹_›
  split
  · rename_i hchange htype
    exact conditionStep_rows (hother hchange (by simp [htype]))
  split
  · rename_i hchange _ htype
    exact checkpointStep_rows (hother hchange (by simp [htype]))
  split
  · exact parallelStep_rows ‹_›
  · rename_i hchange _ _ hgroup
    exact .same rfl (Or.inl (hother hchange hgroup))

end Rows

section Records

variable {eval : Evaluator} {s : RunbookExecutor} {ex ex' : RunbookExecution} {d : StepTree}
  {r r' : RunbookStepResult} {i : TickInput} {n : Int} {st : RunbookStart}

theorem getOrCreate_keeps (h : ex.resultAt n = some r) :
    (ex.getOrCreateStepResult d).2.resultAt n = some r := by
  unfold RunbookExecution.getOrCreateStepResult
  cases hrow : ex.resultAt d.fields.stepNumber with
  | some row => exact h
  | none =>
    unfold RunbookExecution.resultAt at h
    simp [RunbookExecution.resultAt,List.find?_append,h]

theorem resultAt_congr (h : ex'.stepResults = ex.stepResults) (n : Int) :
    ex'.resultAt n = ex.resultAt n := by
  rw [RunbookExecution.resultAt,h,RunbookExecution.resultAt]

/-- A recorded start stays recorded when the step writes its row. -/
theorem Records.written {started : List Uuid} (h : ex.Records st)
    (hrow : ex.resultAt n = some r) (hr : r.stepNumber = n) (hw : RowWritten r r' started) :
    (ex.save r').Records st := by
  obtain ⟨row,hfound,hstatus,hmem⟩ := h
  by_cases hn : st.stepNumber = n
  · obtain rfl : row = r := by
      rw [hn,hrow] at hfound
      exact (Option.some.inj hfound).symm
    refine ⟨r',?_,hw.taken,?_⟩
    · rw [hn]
      exact resultAt_save_self hrow (hw.number.trans hr)
    · rw [hw.keeps hstatus]
      exact hmem
  · have hne : r'.stepNumber ≠ st.stepNumber := by
      rw [hw.number,hr]
      exact Ne.symm hn
    exact ⟨row,by rw [resultAt_save_ne hne]; exact hfound,hstatus,hmem⟩

theorem save_unique (h : ex.RowsUnique) (r : RunbookStepResult) : (ex.save r).RowsUnique := by
  have hnumbers : RunbookStepResult.stepNumber ∘ (fun r' : RunbookStepResult =>
      if r'.stepNumber = r.stepNumber then r else r') = RunbookStepResult.stepNumber := by
    funext r'
    by_cases hn : r'.stepNumber = r.stepNumber <;> simp [hn]
  unfold RunbookExecution.RowsUnique RunbookExecution.save
  rw [List.map_map,hnumbers]
  exact h

theorem getOrCreate_unique (h : ex.RowsUnique) (d : StepTree) :
    (ex.getOrCreateStepResult d).2.RowsUnique := by
  unfold RunbookExecution.getOrCreateStepResult
  cases hrow : ex.resultAt d.fields.stepNumber with
  | some row => exact h
  | none =>
    unfold RunbookExecution.RowsUnique
    dsimp only
    rw [List.map_append,List.nodup_append]
    refine ⟨h,by simp,fun a ha b hb hab => ?_⟩
    obtain ⟨row,hmem,rfl⟩ := List.mem_map.mp ha
    obtain rfl : b = d.fields.stepNumber := by simpa using hb
    exact absurd (decide_eq_true hab) (List.find?_eq_none.mp hrow row hmem)

theorem rowsUnique_congr (h : ex'.stepResults = ex.stepResults) :
    ex'.RowsUnique ↔ ex.RowsUnique := by
  rw [RunbookExecution.RowsUnique,h,RunbookExecution.RowsUnique]

theorem tickExecution_unique (h : s.execution.RowsUnique) :
    (s.tickExecution eval i).execution.RowsUnique := by
  unfold RunbookExecutor.tickExecution
  cases hstep : s.execution.stepAt s.execution.currentStep with
  | none => exact h
  | some d =>
    dsimp only
    have hcreated := getOrCreate_unique h d
    have hrows := executeStep_rows eval (s.setExecution (s.execution.getOrCreateStepResult d).2) d
      (s.execution.getOrCreateStepResult d).1 i
    cases hrows with
    | same hsame _ => exact (rowsUnique_congr hsame).mpr hcreated
    | saved r' hsaved _ => exact (rowsUnique_congr hsaved).mpr (save_unique hcreated r')

theorem tickExecution_keeps (h : s.execution.Records st) :
    (s.tickExecution eval i).execution.Records st := by
  unfold RunbookExecutor.tickExecution
  cases hstep : s.execution.stepAt s.execution.currentStep with
  | none => exact h
  | some d =>
    dsimp only
    have hkept : (s.execution.getOrCreateStepResult d).2.Records st := by
      obtain ⟨row,hfound,hrest⟩ := h
      exact ⟨row,getOrCreate_keeps hfound,hrest⟩
    have hrow := getOrCreate_resultAt s.execution d
    have hnumber := getOrCreate_number s.execution d
    have hrows := executeStep_rows eval (s.setExecution (s.execution.getOrCreateStepResult d).2) d
      (s.execution.getOrCreateStepResult d).1 i
    cases hrows with
    | same hsame _ =>
      obtain ⟨row,hfound,hrest⟩ := hkept
      exact ⟨row,(resultAt_congr hsame _).trans hfound,hrest⟩
    | saved r' hsaved hw =>
      obtain ⟨row,hfound,hrest⟩ := Records.written hkept hrow hnumber hw
      exact ⟨row,(resultAt_congr hsaved _).trans hfound,hrest⟩

/-- What a tick starts for a step, it records there, unless it loses it. -/
theorem tickExecution_records (hstep : s.execution.stepAt s.execution.currentStep = some d)
    (hkept : unrecorded (s.setExecution (s.execution.getOrCreateStepResult d).2) d
      (s.execution.getOrCreateStepResult d).1 i = false)
    (hst : st.stepNumber = d.fields.stepNumber)
    (hmem : st.crId ∈ bridged (s.setExecution (s.execution.getOrCreateStepResult d).2) d
      (s.execution.getOrCreateStepResult d).1 i) :
    (s.tickExecution eval i).execution.Records st := by
  unfold RunbookExecutor.tickExecution
  rw [hstep]
  dsimp only
  have hrows := executeStep_rows eval (s.setExecution (s.execution.getOrCreateStepResult d).2) d
    (s.execution.getOrCreateStepResult d).1 i
  cases hrows with
  | same _ hnone =>
    rcases hnone with hnone | hlost
    · rw [hnone] at hmem
      cases hmem
    · rw [hkept] at hlost
      cases hlost
  | saved r' hsaved hw =>
    refine ⟨r',(resultAt_congr hsaved _).trans ?_,hw.taken,hw.names _ hmem⟩
    rw [hst]
    exact resultAt_save_self (getOrCreate_resultAt s.execution d)
      (hw.number.trans (getOrCreate_number s.execution d))

/-- A step with a recorded start starts nothing. -/
theorem bridged_of_records (h : s.execution.Records st)
    (hst : st.stepNumber = d.fields.stepNumber) :
    bridged (s.setExecution (s.execution.getOrCreateStepResult d).2) d
      (s.execution.getOrCreateStepResult d).1 i = [] := by
  obtain ⟨row,hfound,hstatus,_⟩ := h
  have hrow := getOrCreate_keeps (d := d) hfound
  rw [hst,getOrCreate_resultAt] at hrow
  obtain rfl := Option.some.inj hrow
  simp [bridged,hstatus]

end Records

section Ledger

variable {eval : Evaluator} {inputs : Nat → TickInput} {w : TickStore} {l : RunbookLedger}
  {s s' : RunbookExecutor} {j stop : Nat} {st : RunbookStart} {starts : List RunbookStart}

theorem executor_eq_some (h : w.executor j = some s) :
    w.executions[j]? = some s.execution ∧ s.changeRequests = w.changeRequests := by
  obtain ⟨ex,hex,rfl⟩ := Option.map_eq_some_iff.mp h
  exact ⟨hex,rfl⟩

theorem put_executions (h : w.executor j = some s) (s' : RunbookExecutor) :
    (w.put j s').executions[j]? = some s'.execution := by
  obtain ⟨hj,_⟩ := executor_eq_some h
  obtain ⟨hlt,_⟩ := List.getElem?_eq_some_iff.mp hj
  simp [TickStore.put,hlt]

/-- What an execution keeps recorded, the store keeps recorded. -/
theorem TickStore.Records.put (h : w.Records st) (hj : w.executor j = some s)
    (hkeeps : s.execution.Records st → s'.execution.Records st) : (w.put j s').Records st := by
  obtain ⟨ex,hex,hrecords⟩ := h
  by_cases hst : st.execution = j
  · obtain ⟨hex',_⟩ := executor_eq_some hj
    rw [hst,hex'] at hex
    obtain rfl := Option.some.inj hex
    exact ⟨s'.execution,hst ▸ put_executions hj s',hkeeps hrecords⟩
  · refine ⟨ex,?_,hrecords⟩
    rw [TickStore.put,List.getElem?_set_ne (Ne.symm hst)]
    exact hex

structure LedgerInv (l : RunbookLedger) : Prop extends StartedOnce l where
  rows : ∀ ex ∈ l.store.executions, ex.RowsUnique

/-- What happens to an execution besides its ticks, and in them. -/
structure Continues (ex ex' : RunbookExecution) : Prop where
  records : ∀ st, ex.Records st → ex'.Records st
  unique : ex.RowsUnique → ex'.RowsUnique

theorem LedgerInv.put (h : LedgerInv ⟨w,starts⟩) (hj : w.executor j = some s)
    (hs : Continues s.execution s'.execution) : LedgerInv ⟨w.put j s',starts⟩ := by
  refine ⟨⟨h.once,fun st hst => (h.recorded st hst).put hj (hs.records st)⟩,fun ex hex => ?_⟩
  rcases List.mem_or_eq_of_mem_set hex with hex | rfl
  · exact h.rows ex hex
  · exact hs.unique (h.rows _ (List.mem_of_getElem? (executor_eq_some hj).1))

theorem tickExecution_continues (eval : Evaluator) (s : RunbookExecutor) (i : TickInput) :
    Continues s.execution (s.tickExecution eval i).execution :=
  ⟨fun _ hst => tickExecution_keeps hst,tickExecution_unique⟩

theorem LedgerInv.ticked (h : LedgerInv ⟨w,starts⟩) (eval : Evaluator)
    (inputs : Nat → TickInput) (j : Nat) :
    LedgerInv ⟨w.ticked eval inputs j,starts⟩ := by
  unfold TickStore.ticked
  cases hj : w.executor j with
  | none => exact h
  | some s => exact h.put hj (tickExecution_continues eval s (inputs j))

/-- The starts of a step. -/
def startsOf (j : Nat) (n : Int) (k : Nat) (crIds : List Uuid) : List RunbookStart :=
  (crIds.zipIdx k).map fun c => ⟨j,n,c.2,c.1⟩

theorem bridgeEffects_starts (j : Nat) (n : Int) (w : TickStore) (k : Nat) (crIds : List Uuid)
    (l : RunbookLedger) : ((bridgeEffects j n w k crIds).foldl RunbookLedger.apply l).starts =
      l.starts ++ startsOf j n k crIds := by
  induction crIds generalizing w k l with
  | nil => simp [bridgeEffects,startsOf]
  | cons crId crIds ih =>
    rw [bridgeEffects,List.foldl_cons,List.foldl_cons,ih]
    simp [RunbookLedger.apply,startsOf]

theorem mem_startsOf {n : Int} {k : Nat} {crIds : List Uuid} (h : st ∈ startsOf j n k crIds) :
    st.execution = j ∧ st.stepNumber = n ∧ st.crId ∈ crIds := by
  obtain ⟨c,hc,rfl⟩ := List.mem_map.mp h
  exact ⟨rfl,rfl,List.fst_mem_of_mem_zipIdx hc⟩

theorem startsOf_once (j : Nat) (n : Int) (k : Nat) (crIds : List Uuid) :
    ((startsOf j n k crIds).map RunbookStart.work).Nodup := by
  have hchild : (startsOf j n k crIds).map RunbookStart.work =
      ((crIds.zipIdx k).map Prod.snd).map fun child => (j,n,child) := by
    rw [startsOf,List.map_map,List.map_map]
    rfl
  rw [hchild,List.zipIdx_map_snd]
  exact List.Nodup.map (fun a b hab => by simpa using hab) List.nodup_range'

/-- The effects for an execution that are carried out as a whole are recorded in its session. -/
theorem LedgerInv.effects (h : LedgerInv ⟨w,l.starts⟩) (hkept : w.loses inputs j = false) :
    LedgerInv ⟨w.ticked eval inputs j,
      ((w.effectsOf inputs j).foldl RunbookLedger.apply l).starts⟩ := by
  unfold TickStore.effectsOf
  cases hj : w.executor j with
  | none => exact h.ticked eval inputs j
  | some s =>
    dsimp only
    cases hstep : s.execution.stepAt s.execution.currentStep with
    | none => exact h.ticked eval inputs j
    | some d =>
      dsimp only
      have hkept' : unrecorded (s.setExecution (s.execution.getOrCreateStepResult d).2) d
          (s.execution.getOrCreateStepResult d).1 (inputs j) = false := by
        simpa [TickStore.loses,hj,hstep] using hkept
      have hticked : w.ticked eval inputs j = w.put j (s.tickExecution eval (inputs j)) := by
        simp [TickStore.ticked,hj]
      rw [bridgeEffects_starts]
      have hold := h.ticked eval inputs j
      refine ⟨⟨?_,fun st hst => ?_⟩,hold.rows⟩
      · rw [List.map_append,List.nodup_append]
        refine ⟨h.once,startsOf_once _ _ _ _,fun a ha b hb hab => ?_⟩
        obtain ⟨old,hold,rfl⟩ := List.mem_map.mp ha
        obtain ⟨new,hnew,rfl⟩ := List.mem_map.mp hb
        obtain ⟨hexecution,hnumber,hmem⟩ := mem_startsOf hnew
        obtain ⟨he,hn,_⟩ : old.execution = new.execution ∧ old.stepNumber = new.stepNumber ∧
            old.child = new.child := by simpa [RunbookStart.work] using hab
        -- the step already has a recorded start, so that it starts nothing
        obtain ⟨ex,hex,hrecords⟩ := h.recorded old hold
        obtain ⟨hex',_⟩ := executor_eq_some hj
        rw [he,hexecution,hex'] at hex
        obtain rfl := Option.some.inj hex
        rw [bridged_of_records hrecords (hn.trans hnumber)] at hmem
        cases hmem
      · rcases List.mem_append.mp hst with hst | hst
        · exact hold.recorded st hst
        · obtain ⟨hexecution,hnumber,hmem⟩ := mem_startsOf hst
          rw [hticked]
          refine ⟨(s.tickExecution eval (inputs j)).execution,?_,
            tickExecution_records hstep hkept' hnumber hmem⟩
          rw [hexecution]
          exact put_executions hj _

theorem getOrCreate_continues (s : RunbookExecutor) (d : StepTree) :
    Continues s.execution (s.setExecution (s.execution.getOrCreateStepResult d).2).execution where
  records := by
    rintro st ⟨row,hfound,hrest⟩
    exact ⟨row,getOrCreate_keeps hfound,hrest⟩
  unique := fun h => getOrCreate_unique h d

/-- The first effect for an execution commits the row of its step and the change request. -/
theorem effectsOf_first {e : TickEffect} {es : List TickEffect}
    (h : w.effectsOf inputs j = e :: es) :
    ∃ w', e = .commit w' ∧ ∀ starts, LedgerInv ⟨w,starts⟩ → LedgerInv ⟨w',starts⟩ := by
  unfold TickStore.effectsOf at h
  cases hj : w.executor j with
  | none => simp [hj] at h
  | some s =>
    rw [hj] at h
    dsimp only at h
    cases hstep : s.execution.stepAt s.execution.currentStep with
    | none => simp [hstep] at h
    | some d =>
      rw [hstep] at h
      dsimp only at h
      generalize bridged _ d _ (inputs j) = crIds at h
      cases crIds with
      | nil => cases h
      | cons crId crIds =>
        rw [bridgeEffects,List.cons.injEq] at h
        refine ⟨_,h.1.symm,fun starts honce => ?_⟩
        have hput := honce.put hj (getOrCreate_continues s d)
        exact ⟨⟨hput.once,hput.recorded⟩,hput.rows⟩

/-- A tick that stops before its first start for an execution. -/
theorem LedgerInv.cut (inputs : Nat → TickInput) (j : Nat) (h : LedgerInv ⟨w,l.starts⟩)
    (hl : stop = 0 → LedgerInv l) (hstop : stop ≤ 1) :
    (((w.effectsOf inputs j).take stop).foldl RunbookLedger.apply l).starts = l.starts ∧
      (stop - (w.effectsOf inputs j).length = 0 →
        LedgerInv (((w.effectsOf inputs j).take stop).foldl RunbookLedger.apply l)) := by
  rcases heffects : w.effectsOf inputs j with _ | ⟨e,es⟩
  · refine ⟨by simp,fun hnone => ?_⟩
    rw [List.take_nil]
    exact hl (by simpa using hnone)
  · obtain ⟨w',rfl,hcommit⟩ := effectsOf_first heffects
    obtain rfl | rfl : stop = 0 ∨ stop = 1 := by omega
    · exact ⟨rfl,fun _ => hl rfl⟩
    · exact ⟨rfl,fun _ => hcommit _ h⟩

/-- The effects of a tick that stops where it records what it started. -/
theorem LedgerInv.tickEffects (js : List Nat) (h : LedgerInv ⟨w,l.starts⟩)
    (hl : stop = 0 → LedgerInv l) (hunbroken : w.Unbroken eval inputs stop js) :
    LedgerInv (((w.tickEffects eval inputs js).take stop).foldl RunbookLedger.apply l) := by
  induction js generalizing w l stop with
  | nil =>
    cases stop with
    | zero => exact hl rfl
    | succ stop =>
      rw [TickStore.tickEffects,List.take_succ_cons,List.take_nil]
      exact h
  | cons j js ih =>
    obtain ⟨hhere,hrest⟩ := hunbroken
    rw [TickStore.tickEffects,List.take_append,List.foldl_append]
    rcases hhere with hstop | ⟨hkept,hlong⟩
    · obtain ⟨hstarts,hcut⟩ := h.cut inputs j hl hstop
      refine ih ?_ hcut hrest
      rw [hstarts]
      exact h.ticked eval inputs j
    · rw [List.take_of_length_le (by omega)]
      exact ih (h.effects hkept) (fun hnone => by omega) hrest

theorem request_once {f : RunbookExecutor → Except PyValue.Exc RunbookExecutor}
    {l' : RunbookLedger} (h : LedgerInv l)
    (hf : ∀ s s', s.execution.RowsUnique → f s = .ok s' → Continues s.execution s'.execution)
    (hrequest : l.request j f = some l') : LedgerInv l' := by
  obtain ⟨s,hj,hrequest⟩ := Option.bind_eq_some_iff.mp hrequest
  obtain ⟨s',hs',hrequest⟩ := Option.bind_eq_some_iff.mp hrequest
  obtain rfl := Option.some.inj hrequest
  have hunique := h.rows _ (List.mem_of_getElem? (executor_eq_some hj).1)
  exact LedgerInv.put h hj (hf s s' hunique (Checks.toOption_eq_some.mp hs'))

end Ledger

section Requests

variable {s s' : RunbookExecutor} {r r' : RunbookStepResult} {ex : RunbookExecution}

/-- A row that is written over keeps its change requests and is not taken up again. -/
theorem save_continues (hrow : ex.resultAt r.stepNumber = some r) (hw : RowWritten r r' []) :
    Continues ex (ex.save r') where
  records := fun _ hst => Records.written hst hrow rfl hw
  unique := fun h => save_unique h r'

theorem Continues.congr {ex' ex'' : RunbookExecution} (h : Continues ex ex')
    (hsame : ex''.stepResults = ex'.stepResults) : Continues ex ex'' where
  records := by
    intro st hst
    obtain ⟨row,hfound,hrest⟩ := h.records st hst
    exact ⟨row,(resultAt_congr hsame _).trans hfound,hrest⟩
  unique := fun hunique => (rowsUnique_congr hsame).mpr (h.unique hunique)

theorem resultAt_of_mem (hunique : ex.RowsUnique) (hmem : r ∈ ex.stepResults) :
    ex.resultAt r.stepNumber = some r :=
  (Orm.find?_eq_some hunique fun r' hr' => by simpa using hr').mpr ⟨hmem,by simp⟩

theorem resume_continues {q : ResumeRequest} (hunique : s.execution.RowsUnique)
    (h : s.resumeCheckpoint q = .ok s') : Continues s.execution s'.execution := by
  unfold RunbookExecutor.resumeCheckpoint at h
  split at h
  · cases h
  split at h
  · cases h
  rename_i r hr
  have hrow := resultAt_of_mem hunique (List.mem_of_find?_eq_some hr)
  split at h
  · obtain rfl := Except.ok.inj h
    refine Continues.congr (save_continues hrow ?_) rfl
    exact ⟨rfl,by simp,by simp,fun _ => rfl⟩
  split at h
  · obtain rfl := Except.ok.inj h
    refine Continues.congr (save_continues hrow ?_) rfl
    exact ⟨rfl,by simp,by simp,fun _ => rfl⟩
  · cases h

theorem abort_continues {now : Int} (h : s.abortExecution now = .ok s') :
    Continues s.execution s'.execution := by
  unfold RunbookExecutor.abortExecution at h
  split at h
  · obtain rfl := Except.ok.inj h
    dsimp only [RunbookExecutor.setExecution]
    split
    · exact Continues.congr ⟨fun _ hst => hst,fun hunique => hunique⟩ rfl
    · rename_i r hr
      have hnumber := resultAt_number hr
      have hrow : s.execution.resultAt r.stepNumber = some r := by
        rw [hnumber]
        exact hr
      refine Continues.congr (save_continues hrow ?_) rfl
      exact ⟨rfl,by simp,by simp,fun _ => rfl⟩
  · cases h

end Requests

section Runs

variable {eval : Evaluator} {tr : List (Transition RunbookLedger LedgerEvent)}
  {l : RunbookLedger}

theorem ledgerInv_inductive (eval : Evaluator) :
    InductiveUnder (ledgerSystem eval) (Recording eval) LedgerInv where
  start := by
    rintro l ⟨hnone,hstarts⟩
    exact ⟨⟨by simp [hstarts],by simp [hstarts]⟩,by simp [hnone]⟩
  step := by
    intro l e l' h hrecording hstep
    cases e with
    | trigger steps context =>
      obtain rfl := Option.some.inj hstep
      refine ⟨⟨h.once,fun st hst => ?_⟩,fun ex hex => ?_⟩
      · obtain ⟨ex,hex,hrecords⟩ := h.recorded st hst
        exact ⟨ex,List.getElem?_append_left (List.getElem?_eq_some_iff.mp hex).1 ▸ hex,hrecords⟩
      · rcases List.mem_append.mp hex with hex | hex
        · exact h.rows ex hex
        · rw [List.mem_singleton.mp hex]
          exact List.nodup_nil
    | tick inputs stop =>
      obtain rfl := Option.some.inj hstep
      exact LedgerInv.tickEffects _ h (fun _ => h) hrecording
    | resume j q => exact request_once h (fun _ _ hunique => resume_continues hunique) hstep
    | abort j now => exact request_once h (fun _ _ _ => abort_continues) hstep
    | change crId status =>
      obtain rfl := Option.some.inj hstep
      exact ⟨⟨h.once,h.recorded⟩,h.rows⟩

/-- Where every tick records what it starts, each step and each child is started once. -/
theorem steps_started_once (hrun : Run (ledgerSystem eval) tr l)
    (hrecording : ∀ t ∈ tr, Recording eval t.pre t.label) : StartedOnce l :=
  (hrun.guarded (ledgerInv_inductive eval) hrecording).toStartedOnce

end Runs

/-- The change requests of a tick, named by a prefix. -/
def namedInput (name : String) (now : Int) : Nat → TickInput :=
  fun j => ⟨now,fun k => .ok (name ++ toString j ++ toString k)⟩

def emptyLedger : RunbookLedger := ⟨⟨[],fun _ => none⟩,[]⟩

theorem run_emptyLedger (eval : Evaluator) : Run (ledgerSystem eval) [] emptyLedger :=
  Run.start ⟨rfl,rfl⟩

/-- A tick that goes to its end records what it starts. -/
theorem whole_tick_started_once : ∃ tr l, Run (ledgerSystem alwaysTrue) tr l ∧
    l.starts.length = 1 ∧ StartedOnce l := by
  have hrun : (ledgerSystem alwaysTrue).replay emptyLedger
      [.trigger [patchStep 1] [],.tick (namedInput "a" 0) 3,.tick (namedInput "b" 1) 3] =
        some _ := rfl
  have h := (run_emptyLedger _).replay hrun
  have hmeets : (ledgerSystem alwaysTrue).Meets (Recording alwaysTrue) emptyLedger
      [.trigger [patchStep 1] [],.tick (namedInput "a" 0) 3,.tick (namedInput "b" 1) 3] := by
    refine ⟨trivial,⟨Or.inr ⟨rfl,by decide⟩,trivial⟩,⟨Or.inr ⟨rfl,by decide⟩,trivial⟩,trivial⟩
  exact ⟨_,_,h,rfl,steps_started_once h (System.history_meets hmeets (by simp))⟩

/-- A tick that stops after the start: the next one starts the step again. -/
theorem stopped_tick_starts_again : ∃ tr l, Run (ledgerSystem alwaysTrue) tr l ∧
    ¬StartedOnce l := by
  have hrun : (ledgerSystem alwaysTrue).replay emptyLedger
      [.trigger [patchStep 1] [],.tick (namedInput "a" 0) 2,.tick (namedInput "b" 1) 3] =
        some _ := rfl
  refine ⟨_,_,(run_emptyLedger _).replay hrun,fun honce => ?_⟩
  exact absurd honce.once (by decide)

end Nexplane
