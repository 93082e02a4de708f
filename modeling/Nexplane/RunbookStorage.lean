import Nexplane.Entities
import Nexplane.Lib.Checks
import Mathlib.Data.List.Sort
import Mathlib.Algebra.Group.Int.Defs

set_option autoImplicit false

/-! Runbooks in the database: the tree of steps of a payload becomes rows, and the snapshot of a
trigger and a fork are read back from the rows. -/

namespace Nexplane
open PyValue

structure AssetSelector where
  tags : List String
  assetIds : List Uuid
  environment : Option String
  deriving DecidableEq, Repr

/-- The fields of a step that are columns of its row. -/
structure StepFields where
  stepNumber : Int
  name : String
  type : String
  changeType : Option String := none
  parameters : Option Dict := none
  assetSelector : Option AssetSelector := none
  conditionExpr : Option String := none
  onTrueStep : Option Int := none
  onFalseStep : Option Int := none
  prompt : Option String := none
  requiredRole : Option String := none
  timeoutHours : Option Int := none
  onTimeout : Option String := none
  onFailure : String := "abort"
  deriving Repr

/-- A step with its `parallel_steps`: `RunbookStepCreate` in a payload, and `RunbookStepOut`, whose
identifiers are left out, in a snapshot. -/
inductive StepTree where
  | mk (fields : StepFields) (parallelSteps : List StepTree)

def StepTree.fields : StepTree → StepFields
  | .mk fields _ => fields

def StepTree.parallelSteps : StepTree → List StepTree
  | .mk _ parallelSteps => parallelSteps

/-- The same step, up to the order of the steps in a group. -/
inductive SameStep : StepTree → StepTree → Prop where
  | mk {fields : StepFields} {ts us vs : List StepTree} :
      List.Forall₂ SameStep ts us → us.Perm vs → SameStep (.mk fields ts) (.mk fields vs)

def SameSteps (ts vs : List StepTree) : Prop := ∃ us, List.Forall₂ SameStep ts us ∧ us.Perm vs

mutual

theorem SameStep.refl : (t : StepTree) → SameStep t t
  | .mk _ parallelSteps => .mk (SameStep.refl_all parallelSteps) (.refl _)

theorem SameStep.refl_all : (ts : List StepTree) → List.Forall₂ SameStep ts ts
  | [] => .nil
  | t :: ts => .cons (SameStep.refl t) (SameStep.refl_all ts)

end

theorem SameSteps.of_perm {ts vs : List StepTree} (h : ts.Perm vs) : SameSteps ts vs :=
  ⟨ts,SameStep.refl_all ts,h⟩

theorem SameSteps.length_eq {ts vs : List StepTree} (h : SameSteps ts vs) :
    ts.length = vs.length := by
  obtain ⟨us,hsame,hperm⟩ := h
  rw [hsame.length_eq,hperm.length_eq]

/-- A row of `runbook_steps`. Rows and runbooks are numbered in the order of their insertion. -/
structure RunbookStepRow where
  id : Nat
  runbookId : Nat
  parentStepId : Option Nat
  fields : StepFields
  deriving Repr

/-- An asset selector that JSON can hold: the identifiers in it are no JSON values. -/
def StepFields.jsonSelector (fields : StepFields) : Bool :=
  fields.assetSelector.all fun selector => selector.assetIds.isEmpty

/-- A value of an `Integer` column. -/
def fitsInteger (n : Int) : Bool := -2 ^ 31 ≤ n ∧ n < 2 ^ 31

def StepFields.fitsColumns (fields : StepFields) : Bool :=
  fields.name.length ≤ 255 && fields.type.length ≤ 32 &&
    fields.changeType.all (fun changeType => changeType.length ≤ 128) &&
    fields.requiredRole.all (fun role => role.length ≤ 64) &&
    fields.onTimeout.all (fun action => action.length ≤ 32) && fields.onFailure.length ≤ 32 &&
    fitsInteger fields.stepNumber && fields.onTrueStep.all fitsInteger &&
    fields.onFalseStep.all fitsInteger && fields.timeoutHours.all fitsInteger

def StepFields.storable (fields : StepFields) : Bool := fields.jsonSelector && fields.fitsColumns

def newStep (id runbookId : Nat) (parentId : Option Nat) (fields : StepFields) :
    Except Exc RunbookStepRow :=
  if fields.storable then .ok ⟨id,runbookId,parentId,fields⟩
  else .error (if fields.jsonSelector then .other "DataError" else .typeError)

mutual

/-- One round of the loop of `_insert_steps`. -/
def insertStep (runbookId : Nat) (parentId : Option Nat) :
    StepTree → List RunbookStepRow → Except Exc (List RunbookStepRow)
  | .mk fields parallelSteps, rows => do
    let step ← newStep rows.length runbookId parentId fields
    insertSteps runbookId (some step.id) parallelSteps (rows ++ [step])

def insertSteps (runbookId : Nat) (parentId : Option Nat) :
    List StepTree → List RunbookStepRow → Except Exc (List RunbookStepRow)
  | [], rows => .ok rows
  | s :: ss, rows => do
    let rows ← insertStep runbookId parentId s rows
    insertSteps runbookId parentId ss rows

end

mutual

def StepTree.size : StepTree → Nat
  | .mk _ parallelSteps => forestSize parallelSteps + 1

def forestSize : List StepTree → Nat
  | [] => 0
  | s :: ss => s.size + forestSize ss

end

theorem forestSize_eq_length {steps : List StepTree} :
    forestSize steps = steps.length ↔ ∀ s ∈ steps, s.parallelSteps = [] := by
  have hpos : ∀ s : StepTree, 1 ≤ s.size := by
    rintro ⟨fields,parallelSteps⟩
    simp [StepTree.size]
  have hleaf : ∀ s : StepTree, s.size = 1 ↔ s.parallelSteps = [] := by
    rintro ⟨fields,_ | ⟨t,ts⟩⟩
    · simp [StepTree.size,forestSize,StepTree.parallelSteps]
    · have := hpos t
      simp only [StepTree.size,forestSize,StepTree.parallelSteps]
      simp only [reduceCtorEq,iff_false]
      omega
  have hle : ∀ ss : List StepTree, ss.length ≤ forestSize ss := by
    intro ss
    induction ss with
    | nil => simp [forestSize]
    | cons s ss ih =>
      have := hpos s
      simp only [forestSize,List.length_cons]
      omega
  induction steps with
  | nil => simp [forestSize]
  | cons s ss ih =>
    have := hpos s
    have := hle ss
    rw [List.forall_mem_cons,forestSize,List.length_cons]
    constructor
    · intro h
      exact ⟨(hleaf s).mp (by omega),ih.mp (by omega)⟩
    · rintro ⟨hs,hss⟩
      have := (hleaf s).mpr hs
      have := ih.mpr hss
      omega

/-- What is added to the rows: `count` rows of the runbook. -/
structure Adds (runbookId count : Nat) (rows rows' : List RunbookStepRow) : Prop where
  appended : ∃ added, rows' = rows ++ added ∧ added.length = count ∧
    ∀ r ∈ added, r.runbookId = runbookId
  parents : (∀ r ∈ rows, ∀ p, r.parentStepId = some p → p < rows.length) →
    ∀ r ∈ rows', ∀ p, r.parentStepId = some p → p < rows'.length

theorem Adds.trans {runbookId n m : Nat} {rows rows' rows'' : List RunbookStepRow}
    (h : Adds runbookId n rows rows') (h' : Adds runbookId m rows' rows'') :
    Adds runbookId (n + m) rows rows'' where
  appended := by
    obtain ⟨added,rfl,hn,hid⟩ := h.appended
    obtain ⟨added',rfl,hm,hid'⟩ := h'.appended
    refine ⟨added ++ added',by simp,by simp [hn,hm],fun r hr => ?_⟩
    rcases List.mem_append.mp hr with hr | hr
    · exact hid r hr
    · exact hid' r hr
  parents := fun hkeys => h'.parents (h.parents hkeys)

theorem Adds.single {runbookId : Nat} {rows : List RunbookStepRow} {parentId : Option Nat}
    (fields : StepFields) (hparent : ∀ p, parentId = some p → p < rows.length) :
    Adds runbookId 1 rows (rows ++ [⟨rows.length,runbookId,parentId,fields⟩]) where
  appended := ⟨_,rfl,rfl,by simp⟩
  parents := by
    intro hkeys r hr p hp
    rw [List.length_append]
    rcases List.mem_append.mp hr with hr | hr
    · have := hkeys r hr p hp
      omega
    · obtain rfl := List.mem_singleton.mp hr
      have := hparent p hp
      omega

mutual

theorem insertStep_adds {runbookId : Nat} {parentId : Option Nat} {step : StepTree}
    {rows rows' : List RunbookStepRow} (hparent : ∀ p, parentId = some p → p < rows.length)
    (h : insertStep runbookId parentId step rows = .ok rows') :
    Adds runbookId step.size rows rows' := by
  obtain ⟨fields,parallelSteps⟩ := step
  rw [insertStep] at h
  obtain ⟨row,hrow,h⟩ := Checks.bind_eq_ok.mp h
  unfold newStep at hrow
  split at hrow
  · obtain rfl := Except.ok.inj hrow
    have hrest := insertSteps_adds (by simp) h
    rw [StepTree.size,Nat.add_comm]
    exact (Adds.single fields hparent).trans hrest
  · cases hrow

theorem insertSteps_adds {runbookId : Nat} {parentId : Option Nat} {steps : List StepTree}
    {rows rows' : List RunbookStepRow} (hparent : ∀ p, parentId = some p → p < rows.length)
    (h : insertSteps runbookId parentId steps rows = .ok rows') :
    Adds runbookId (forestSize steps) rows rows' := by
  cases steps with
  | nil =>
    obtain rfl := Except.ok.inj h
    exact ⟨⟨[],by simp,rfl,by simp⟩,id⟩
  | cons s ss =>
    obtain ⟨between,hfirst,h⟩ := Checks.bind_eq_ok.mp h
    have hs := insertStep_adds hparent hfirst
    refine hs.trans (insertSteps_adds (fun p hp => ?_) h)
    obtain ⟨added,rfl,_⟩ := hs.appended
    have := hparent p hp
    rw [List.length_append]
    omega

end

/-- The rows of all runbooks; the keys in a row are those of earlier ones. -/
structure RunbookStore where
  runbooks : Nat
  steps : List RunbookStepRow
  runbookKeys : ∀ r ∈ steps, r.runbookId < runbooks
  parentKeys : ∀ r ∈ steps, ∀ p, r.parentStepId = some p → p < steps.length

/-- The store with a new runbook and the rows added for it. -/
def RunbookStore.extend (s : RunbookStore) {rows : List RunbookStepRow}
    (h : ∃ count, Adds s.runbooks count s.steps rows) : RunbookStore where
  runbooks := s.runbooks + 1
  steps := rows
  runbookKeys := by
    obtain ⟨count,h⟩ := h
    obtain ⟨added,rfl,_,hid⟩ := h.appended
    intro r hr
    rcases List.mem_append.mp hr with hr | hr
    · exact Nat.lt_succ_of_lt (s.runbookKeys r hr)
    · rw [hid r hr]
      exact Nat.lt_succ_self _
  parentKeys := by
    obtain ⟨count,h⟩ := h
    exact h.parents s.parentKeys

def RunbookStore.createRunbook (s : RunbookStore) (payload : List StepTree) :
    Except Exc RunbookStore :=
  match h : insertSteps s.runbooks none payload s.steps with
  | .error e => .error e
  | .ok _ => .ok (s.extend ⟨_,insertSteps_adds (by simp) h⟩)

section Read

variable (orderBy : List RunbookStepRow → List RunbookStepRow) (rows : List RunbookStepRow)

/-- `Runbook.steps`, in the order of `step_number` that the database gives them. -/
def runbookSteps (runbookId : Nat) : List RunbookStepRow :=
  orderBy (rows.filter fun r => r.runbookId = runbookId)

/-- `RunbookStep.children`. -/
def stepChildren (r : RunbookStepRow) : List RunbookStepRow :=
  orderBy (rows.filter fun child => child.parentStepId = some r.id)

/-- An attribute of a loaded row that holds steps; `children` is the only one. -/
def stepAttribute (r : RunbookStepRow) (name : String) : Option (List RunbookStepRow) :=
  if name = "children" then some (stepChildren orderBy rows r) else none

/-- The steps below a row as they are read from an attribute, the empty list by default. No chain of
keys is longer than there are rows. -/
def readTree (name : String) : Nat → RunbookStepRow → StepTree
  | 0, r => .mk r.fields []
  | depth + 1, r => .mk r.fields
      (((stepAttribute orderBy rows r name).getD []).map (readTree name depth))

/-- The steps in the snapshot of `trigger_runbook`: `RunbookStepOut` takes its `parallel_steps`
from an attribute of that name. -/
def snapshotSteps (runbookId : Nat) : List StepTree :=
  (runbookSteps orderBy rows runbookId).map (readTree orderBy rows "parallel_steps" rows.length)

/-- The tree that the rows of a runbook make. -/
def storedTree (runbookId : Nat) : List StepTree :=
  (orderBy (rows.filter fun r => r.runbookId = runbookId ∧ r.parentStepId = none)).map
    (readTree orderBy rows "children" rows.length)

/-- `_copy_steps`. Calls may nest `limit` deep; `none` when they would have to be deeper. -/
def copySteps (source : List RunbookStepRow) (runbookId : Nat) :
    Nat → Option Nat → List RunbookStepRow → List RunbookStepRow → Option (List RunbookStepRow)
  | 0, _, _, _ => none
  | limit + 1, parentId, steps, rows => steps.foldlM (fun rows s =>
      let step : RunbookStepRow := ⟨rows.length,runbookId,parentId,s.fields⟩
      match stepChildren orderBy source s with
      | [] => some (rows ++ [step])
      | children => copySteps source runbookId limit (some step.id) children (rows ++ [step])) rows

end Read

section Copy

variable {orderBy : List RunbookStepRow → List RunbookStepRow} {source : List RunbookStepRow}
  {runbookId limit : Nat}

theorem copySteps_adds {parentId : Option Nat} {steps rows rows' : List RunbookStepRow}
    (hparent : ∀ p, parentId = some p → p < rows.length)
    (h : copySteps orderBy source runbookId limit parentId steps rows = some rows') :
    ∃ count, Adds runbookId count rows rows' := by
  induction limit generalizing parentId steps rows rows' with
  | zero => cases h
  | succ limit ih =>
    rw [copySteps] at h
    induction steps generalizing rows with
    | nil =>
      obtain rfl := Option.some.inj h
      exact ⟨0,⟨[],by simp,rfl,by simp⟩,id⟩
    | cons s ss ihs =>
      rw [List.foldlM_cons] at h
      obtain ⟨between,hfirst,h⟩ := Option.bind_eq_some_iff.mp h
      have hstep : Adds runbookId 1 rows _ := Adds.single s.fields hparent
      have hs : ∃ count, Adds runbookId count rows between := by
        dsimp only at hfirst
        split at hfirst
        · obtain rfl := Option.some.inj hfirst
          exact ⟨1,hstep⟩
        · obtain ⟨count,hrest⟩ := ih (by simp) hfirst
          exact ⟨_,hstep.trans hrest⟩
      obtain ⟨n,hs⟩ := hs
      obtain ⟨added,rfl,_⟩ := hs.appended
      obtain ⟨m,hss⟩ := ihs (fun p hp => by
        have := hparent p hp
        rw [List.length_append]
        omega) h
      exact ⟨n + m,hs.trans hss⟩

/-- `fork_runbook`. -/
def RunbookStore.forkRunbook (orderBy : List RunbookStepRow → List RunbookStepRow) (limit : Nat)
    (s : RunbookStore) (runbookId : Nat) : Option RunbookStore :=
  match h : copySteps orderBy s.steps s.runbooks limit none
      (runbookSteps orderBy s.steps runbookId) s.steps with
  | none => none
  | some _ => some (s.extend (copySteps_adds (by simp) h))

end Copy

theorem RunbookStore.createRunbook_steps {s s' : RunbookStore} {payload : List StepTree}
    (h : s.createRunbook payload = .ok s') :
    insertSteps s.runbooks none payload s.steps = .ok s'.steps ∧
      s'.runbooks = s.runbooks + 1 := by
  unfold RunbookStore.createRunbook at h
  split at h
  · cases h
  · rename_i rows hrows
    obtain rfl := Except.ok.inj h
    exact ⟨hrows,rfl⟩

theorem RunbookStore.createRunbook_ok {s : RunbookStore} {payload : List StepTree}
    {rows : List RunbookStepRow} (h : insertSteps s.runbooks none payload s.steps = .ok rows) :
    ∃ s', s.createRunbook payload = .ok s' ∧ s'.steps = rows ∧ s'.runbooks = s.runbooks + 1 := by
  unfold RunbookStore.createRunbook
  split
  · rename_i e he
    rw [he] at h
    cases h
  · rename_i rows' hrows
    rw [hrows] at h
    exact ⟨_,rfl,Except.ok.inj h,rfl⟩

theorem RunbookStore.forkRunbook_some {orderBy : List RunbookStepRow → List RunbookStepRow}
    {limit runbookId : Nat} {s : RunbookStore} {rows : List RunbookStepRow}
    (h : copySteps orderBy s.steps s.runbooks limit none (runbookSteps orderBy s.steps runbookId)
      s.steps = some rows) :
    ∃ s', s.forkRunbook orderBy limit runbookId = some s' ∧ s'.steps = rows := by
  unfold RunbookStore.forkRunbook
  split
  · rename_i hnone
    rw [hnone] at h
    cases h
  · rename_i rows' hrows
    rw [hrows] at h
    exact ⟨_,rfl,Option.some.inj h⟩

section Flat

variable {orderBy : List RunbookStepRow → List RunbookStepRow}
  {rows source old added : List RunbookStepRow} {runbookId n : Nat} {r : RunbookStepRow}

/-- A step without a group below it. -/
def StepFields.leaf (fields : StepFields) : StepTree := .mk fields []

theorem StepTree.eq_leaf {step : StepTree} (h : step.parallelSteps = []) :
    step = step.fields.leaf := by
  obtain ⟨fields,parallelSteps⟩ := step
  obtain rfl : parallelSteps = [] := h
  rfl

/-- The rows of steps without groups. -/
def flatRows (runbookId : Nat) : Nat → List StepFields → List RunbookStepRow
  | _, [] => []
  | n, fields :: rest => ⟨n,runbookId,none,fields⟩ :: flatRows runbookId (n + 1) rest

theorem flatRows_fields (fs : List StepFields) :
    (flatRows runbookId n fs).map RunbookStepRow.fields = fs := by
  induction fs generalizing n with
  | nil => rfl
  | cons f fs ih => rw [flatRows,List.map_cons,ih]

theorem mem_flatRows {fs : List StepFields} (h : r ∈ flatRows runbookId n fs) :
    r.runbookId = runbookId ∧ r.parentStepId = none ∧ n ≤ r.id := by
  induction fs generalizing n with
  | nil => cases h
  | cons f fs ih =>
    rcases List.mem_cons.mp h with rfl | h
    · simp
    · obtain ⟨hid,hparent,hn⟩ := ih h
      exact ⟨hid,hparent,by omega⟩

theorem insertSteps_flat {payload : List StepTree}
    (h : ∀ step ∈ payload, step.parallelSteps = [] ∧ step.fields.storable) :
    insertSteps runbookId none payload rows =
      .ok (rows ++ flatRows runbookId rows.length (payload.map StepTree.fields)) := by
  induction payload generalizing rows with
  | nil => simp [insertSteps,flatRows]
  | cons s ss ih =>
    obtain ⟨⟨hleaf,hstorable⟩,hss⟩ := List.forall_mem_cons.mp h
    rw [s.eq_leaf hleaf]
    simp only [insertSteps,insertStep,StepFields.leaf,newStep,hstorable,if_true,Checks.ok_bind,
      ih hss]
    simp [flatRows,StepTree.fields]

theorem insertSteps_storable {parentId : Option Nat} {payload : List StepTree}
    (h : insertSteps runbookId parentId payload rows = .ok source) :
    ∀ step ∈ payload, step.fields.storable := by
  induction payload generalizing rows with
  | nil => simp
  | cons s ss ih =>
    obtain ⟨between,hfirst,h⟩ := Checks.bind_eq_ok.mp h
    refine List.forall_mem_cons.mpr ⟨?_,ih h⟩
    obtain ⟨fields,parallelSteps⟩ := s
    rw [insertStep] at hfirst
    obtain ⟨row,hrow,_⟩ := Checks.bind_eq_ok.mp hfirst
    unfold newStep at hrow
    split at hrow
    · assumption
    · cases hrow

theorem copySteps_flat {steps : List RunbookStepRow} {limit : Nat}
    (h : ∀ s ∈ steps, stepChildren orderBy source s = []) :
    copySteps orderBy source runbookId (limit + 1) none steps rows =
      some (rows ++ flatRows runbookId rows.length (steps.map RunbookStepRow.fields)) := by
  rw [copySteps]
  induction steps generalizing rows with
  | nil => simp [flatRows]
  | cons s ss ih =>
    obtain ⟨hs,hss⟩ := List.forall_mem_cons.mp h
    rw [List.foldlM_cons]
    simp only [hs]
    rw [Option.bind_eq_bind,Option.bind_some,ih hss]
    simp [flatRows]

/-- The name in the schema is no attribute of a row, so that the default stands for the group. -/
theorem readTree_parallelSteps (depth : Nat) :
    readTree orderBy rows "parallel_steps" depth r = r.fields.leaf := by
  cases depth with
  | zero => rfl
  | succ depth => simp [readTree,stepAttribute,StepFields.leaf]

theorem readTree_childless (h : stepChildren orderBy rows r = []) (depth : Nat) :
    readTree orderBy rows "children" depth r = r.fields.leaf := by
  cases depth with
  | zero => rfl
  | succ depth => simp [readTree,stepAttribute,StepFields.leaf,h]

end Flat

section RoundTrip

variable {orderBy : List RunbookStepRow → List RunbookStepRow}
  (hperm : ∀ rows, (orderBy rows).Perm rows)
include hperm

theorem stepChildren_nil {rows : List RunbookStepRow} {r : RunbookStepRow}
    (h : ∀ child ∈ rows, child.parentStepId ≠ some r.id) : stepChildren orderBy rows r = [] := by
  have hnil : rows.filter (fun child => child.parentStepId = some r.id) = [] := by
    simpa [List.filter_eq_nil_iff] using h
  rw [stepChildren,hnil]
  exact (hperm []).eq_nil

theorem runbookSteps_added {old added : List RunbookStepRow} {runbookId : Nat}
    (hold : ∀ r ∈ old, r.runbookId < runbookId) (hadded : ∀ r ∈ added, r.runbookId = runbookId) :
    (runbookSteps orderBy (old ++ added) runbookId).Perm added := by
  refine (hperm _).trans ?_
  rw [List.filter_append,List.filter_eq_nil_iff.mpr,List.filter_eq_self.mpr,List.nil_append]
  · simpa using hadded
  · intro r hr
    have := hold r hr
    simp
    omega

theorem flatRows_childless {s : RunbookStore} {fs : List StepFields} :
    ∀ r ∈ flatRows s.runbooks s.steps.length fs,
      stepChildren orderBy (s.steps ++ flatRows s.runbooks s.steps.length fs) r = [] := by
  intro r hr
  have hid := (mem_flatRows hr).2.2
  refine stepChildren_nil hperm fun child hchild hparent => ?_
  rcases List.mem_append.mp hchild with hchild | hchild
  · have := s.parentKeys child hchild _ hparent
    omega
  · rw [(mem_flatRows hchild).2.1] at hparent
    cases hparent

/-- The tree of the rows that were added for a runbook without groups. -/
theorem storedTree_flat {s : RunbookStore} {fs : List StepFields} :
    (storedTree orderBy (s.steps ++ flatRows s.runbooks s.steps.length fs) s.runbooks).Perm
      (fs.map StepFields.leaf) := by
  have hrows : (s.steps ++ flatRows s.runbooks s.steps.length fs).filter
      (fun r => r.runbookId = s.runbooks ∧ r.parentStepId = none) =
      flatRows s.runbooks s.steps.length fs := by
    rw [List.filter_append,List.filter_eq_nil_iff.mpr,List.filter_eq_self.mpr,List.nil_append]
    · intro r hr
      obtain ⟨hid,hparent,_⟩ := mem_flatRows hr
      simp [hid,hparent]
    · intro r hr
      have := s.runbookKeys r hr
      simp
      omega
  rw [storedTree,hrows]
  refine ((hperm _).map _).trans (List.Perm.of_eq ?_)
  calc (flatRows s.runbooks s.steps.length fs).map (readTree orderBy _ "children" _)
      = (flatRows s.runbooks s.steps.length fs).map (StepFields.leaf ∘ RunbookStepRow.fields) :=
        List.map_congr_left fun r hr => readTree_childless (flatRows_childless hperm r hr) _
    _ = fs.map StepFields.leaf := by rw [← List.map_map,flatRows_fields]

theorem snapshotSteps_added {s : RunbookStore} {added : List RunbookStepRow}
    (hadded : ∀ r ∈ added, r.runbookId = s.runbooks) :
    (snapshotSteps orderBy (s.steps ++ added) s.runbooks).Perm
      ((added.map RunbookStepRow.fields).map StepFields.leaf) := by
  rw [snapshotSteps,List.map_map]
  refine (((runbookSteps_added hperm s.runbookKeys hadded).map _)).trans (List.Perm.of_eq ?_)
  exact List.map_congr_left fun r _ => readTree_parallelSteps _

/-- A copy of a runbook without groups has the steps of the runbook. -/
theorem forkRunbook_flat {s s' : RunbookStore} {fs : List StepFields} {limit : Nat}
    (hlimit : 0 < limit) (hsteps : s'.steps = s.steps ++ flatRows s.runbooks s.steps.length fs) :
    ∃ s'', s'.forkRunbook orderBy limit s.runbooks = some s'' ∧
      (storedTree orderBy s''.steps s'.runbooks).Perm (fs.map StepFields.leaf) := by
  obtain ⟨limit,rfl⟩ := Nat.exists_eq_add_one.mpr hlimit
  have hadded : (runbookSteps orderBy s'.steps s.runbooks).Perm
      (flatRows s.runbooks s.steps.length fs) := by
    rw [hsteps]
    exact runbookSteps_added hperm s.runbookKeys fun r hr => (mem_flatRows hr).1
  have hchildless : ∀ r ∈ runbookSteps orderBy s'.steps s.runbooks,
      stepChildren orderBy s'.steps r = [] := by
    intro r hr
    rw [hsteps]
    exact flatRows_childless hperm r (hadded.mem_iff.mp hr)
  have hcopy : copySteps orderBy s'.steps s'.runbooks (limit + 1) none _ s'.steps = _ :=
    copySteps_flat hchildless
  obtain ⟨s'',hfork,hrows⟩ := RunbookStore.forkRunbook_some hcopy
  refine ⟨s'',hfork,?_⟩
  rw [hrows]
  refine (storedTree_flat hperm).trans (((hadded.map _).trans (List.Perm.of_eq ?_)).map _)
  exact flatRows_fields fs

end RoundTrip

/-- Stored and read back, and copied, the steps of a payload are the same. -/
def RoundTrips (orderBy : List RunbookStepRow → List RunbookStepRow) (limit : Nat)
    (s : RunbookStore) (payload : List StepTree) : Prop :=
  ∃ s', s.createRunbook payload = .ok s' ∧
    SameSteps (snapshotSteps orderBy s'.steps s.runbooks) payload ∧
    ∃ s'', s'.forkRunbook orderBy limit s.runbooks = some s'' ∧
      SameSteps (storedTree orderBy s''.steps s'.runbooks)
        (storedTree orderBy s'.steps s.runbooks)

/-- The round trip loses the groups, and nothing else that can be stored. -/
theorem round_trips_without_groups (orderBy : List RunbookStepRow → List RunbookStepRow)
    (limit : Nat) (s : RunbookStore) (payload : List StepTree)
    (hperm : ∀ rows, (orderBy rows).Perm rows) (hlimit : 0 < limit) :
    RoundTrips orderBy limit s payload ↔
      ∀ step ∈ payload, step.parallelSteps = [] ∧ step.fields.storable := by
  constructor
  · rintro ⟨s',hcreate,hsnapshot,_⟩
    obtain ⟨hinsert,_⟩ := RunbookStore.createRunbook_steps hcreate
    obtain ⟨added,hrows,hcount,hadded⟩ := (insertSteps_adds (by simp) hinsert).appended
    rw [hrows] at hsnapshot
    have hlength := (snapshotSteps_added hperm hadded).length_eq
    rw [hsnapshot.length_eq,List.length_map,List.length_map,hcount] at hlength
    have hflat := forestSize_eq_length.mp hlength.symm
    have hstorable := insertSteps_storable hinsert
    exact fun step hstep => ⟨hflat step hstep,hstorable step hstep⟩
  · intro h
    obtain ⟨s',hcreate,hrows,_⟩ := RunbookStore.createRunbook_ok (insertSteps_flat h)
    obtain ⟨s'',hfork,htree⟩ := forkRunbook_flat hperm hlimit hrows
    refine ⟨s',hcreate,?_,s'',hfork,?_⟩
    · refine SameSteps.of_perm ?_
      rw [hrows]
      refine (snapshotSteps_added hperm fun r hr => (mem_flatRows hr).1).trans
        (List.Perm.of_eq ?_)
      rw [flatRows_fields,List.map_map]
      calc payload.map (StepFields.leaf ∘ StepTree.fields)
          = payload.map id :=
            List.map_congr_left fun step hstep => (step.eq_leaf (h step hstep).1).symm
        _ = payload := List.map_id payload
    · rw [hrows]
      exact SameSteps.of_perm (htree.trans (storedTree_flat hperm).symm)

def noRunbooks : RunbookStore := ⟨0,[],by simp,by simp⟩

def orderByNumber (rows : List RunbookStepRow) : List RunbookStepRow :=
  rows.insertionSort fun r r' => r.fields.stepNumber ≤ r'.fields.stepNumber

def restartStep : StepFields :=
  { stepNumber := 1, name := "Restart", type := "change", changeType := some "service_restart" }

theorem changes_round_trip : RoundTrips orderByNumber 1000 noRunbooks [restartStep.leaf] :=
  (round_trips_without_groups orderByNumber 1000 noRunbooks [restartStep.leaf]
    (fun rows => List.perm_insertionSort _ rows) (by decide)).mpr
    (by
      simp only [List.forall_mem_singleton]
      exact ⟨rfl,rfl⟩)

def groupStep : StepFields := { stepNumber := 1, name := "Both", type := "parallel_group" }

/-- The child of the group becomes a step of its own beside the group. -/
theorem group_child_beside_group :
    ¬ RoundTrips orderByNumber 1000 noRunbooks [.mk groupStep [restartStep.leaf]] := by
  rintro ⟨s',hcreate,hsnapshot,_⟩
  obtain ⟨hrows,_⟩ := RunbookStore.createRunbook_steps hcreate
  have hlength := hsnapshot.length_eq
  rw [← Except.ok.inj hrows] at hlength
  exact absurd hlength (by decide)

end Nexplane
