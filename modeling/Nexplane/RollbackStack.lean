import Nexplane.Lib.Orm
import Nexplane.Lib.Runs
import Nexplane.Lib.Stamps
import Nexplane.Resume
import Nexplane.RollbackReports

set_option autoImplicit false

/-! The rollback stack: the completions that take a place on it, statement by statement, the other
ways in which a change completes, and the manual rollbacks that go by it. -/

namespace Nexplane
open PyValue Runs Orm Stamps

variable {ω : Type}

/-- `update_change_request_status(_, "completed")` after the SELECT of its row, and after the one
of the highest sequence. -/
inductive StampUpdate where
  | loaded (place : Nat) (cr : ChangeRequest)
  | read (place : Nat) (cr : ChangeRequest) (maximum : Nat)

/-- Completions are numbered as they commit: `completedAt` is the last one of a change, `stampedAt`
the one in which it took its place. -/
structure StackState (ω : Type) where
  store : ChangeStore ω
  updates : Nat → Option StampUpdate
  /-- The background rollbacks that are still to run, with the run that each reports to. -/
  tasks : List (Nat × Nat)
  commits : Nat
  completedAt : Nat → Option Nat
  stampedAt : Nat → Option Nat

inductive StackEvent where
  | updateSelect (update place : Nat)
  | updateRead (update : Nat)
  | updateCommit (update : Nat)
  | decide (user : User) (place : Nat) (action : ResumeAction)
  /-- A status that a workflow, an executor or another request writes by itself. -/
  | writeStatus (place : Nat) (status : ChangeRequestStatus)
  | manualRollback (user : User) (place : Nat)
  | rollbackTask (task : Nat)

def StackState.setUpdate (s : StackState ω) (t : Nat) (u : Option StampUpdate) : StackState ω :=
  { s with updates := Function.update s.updates t u }

def StackState.markCompleted (s : StackState ω) (i : Nat) : StackState ω :=
  { s with
    commits := s.commits + 1
    completedAt := Function.update s.completedAt i (some s.commits) }

/-- A write to the row without a place on the stack. -/
def StackState.write (s : StackState ω) (i : Nat) (row : ChangeRow) : StackState ω :=
  let s' := { s with store := s.store.modifyRow i fun _ => row }
  if row.cr.status = .completed then s'.markCompleted i else s'

/-- The completion takes a place on the stack. -/
def ChangeRequest.takesPlace (cr : ChangeRequest) : Bool :=
  cr.applicationSequence.isNone && !cr.targetAssetIds.isEmpty

/-- The flush of a completion over the row as it is by then. -/
def ChangeRow.complete (row : ChangeRow) (loaded : ChangeRequest) : ChangeRow :=
  row.setStatus (flushColumn row.cr.status loaded.status .completed)

def ChangeRow.stamp (row : ChangeRow) (sequence : Nat) : ChangeRow :=
  { row with cr := { row.cr with applicationSequence := some sequence } }

def StackState.others (s : StackState ω) (i : Nat) : List ChangeRequest :=
  (s.store.rows.eraseIdx i).map ChangeRow.cr

def stackStep (env : Env ω) (s : StackState ω) : StackEvent → Option (StackState ω)
  | .updateSelect t i =>
    match s.updates t, s.store.rows[i]? with
    | none, some row => some (s.setUpdate t (some (.loaded i row.cr)))
    | _, _ => none
  | .updateRead t =>
    match s.updates t with
    | some (.loaded i cr) =>
      if cr.takesPlace then
        some (s.setUpdate t (some (.read i cr (maxSequence (s.others i) cr.targetAssetIds))))
      else none
    | _ => none
  | .updateCommit t =>
    match s.updates t with
    | some (.loaded i cr) =>
      if cr.takesPlace then none
      else some (({ s with store := s.store.modifyRow i fun row => row.complete cr }.markCompleted
        i).setUpdate t none)
    | some (.read i cr maximum) =>
      some (({ s with
        store := s.store.modifyRow i fun row => (row.complete cr).stamp (maximum + 1)
        stampedAt := Function.update s.stampedAt i (some s.commits) }.markCompleted i).setUpdate t
          none)
    | none => none
  | .decide user i action =>
    match s.store.rows[i]? with
    | some row =>
      match action.request user (s.store.world i row) with
      | (.ok _,w) => some (s.write i ⟨w.cr,w.runs⟩)
      | (.error _,_) => none
    | none => none
  | .writeStatus i status =>
    match s.store.rows[i]? with
    | some row => some (s.write i (row.setStatus status))
    | none => none
  | .manualRollback user i =>
    match startManualRollback user i s.store with
    | .ok (store,run) => some { s with store := store, tasks := s.tasks ++ [(i,run)] }
    | .error _ => none
  | .rollbackTask k =>
    match s.tasks[k]? with
    | some (i,run) => some { s with
        store := (doRollback env i run s.store).2
        tasks := s.tasks.eraseIdx k }
    | none => none

/-- At the start no change has completed. -/
def stackSystem (env : Env ω) : System (StackState ω) StackEvent where
  start s :=
    (∀ row ∈ s.store.rows, row.cr.status ≠ .completed ∧ row.cr.applicationSequence = none) ∧
    s.updates = (fun _ => none) ∧ s.tasks = [] ∧ s.completedAt = (fun _ => none) ∧
    s.stampedAt = fun _ => none
  step := stackStep env

/-- What the stack goes by: the sequence of a change and its target assets. -/
def ChangeRow.footprint (row : ChangeRow) : Option Nat × List Uuid :=
  (row.cr.applicationSequence,row.cr.targetAssetIds)

def ChangeStore.footprints (s : ChangeStore ω) : List (Option Nat × List Uuid) :=
  s.rows.map ChangeRow.footprint

def StackState.sequence (s : StackState ω) (i : Nat) : Option Nat :=
  s.store.footprints[i]?.bind Prod.fst

def StackState.targets (s : StackState ω) (i : Nat) : List Uuid :=
  (s.store.footprints[i]?.map Prod.snd).getD []

def StackState.Shares (s : StackState ω) (i j : Nat) : Prop :=
  ∃ asset ∈ s.targets i, asset ∈ s.targets j

/-- Of two changes on a common asset that both have a place on the stack, the one that took its
place later has the greater sequence. -/
def StackState.SequencesOrdered (s : StackState ω) : Prop :=
  ∀ i j m n, i ≠ j → s.Shares i j → s.sequence i = some m → s.sequence j = some n →
    m ≠ n ∧ ∀ a b, s.stampedAt i = some a → s.stampedAt j = some b → a < b → m < n

/-- The highest sequence is read while no other completion on one of the assets is between reading
it and its commit. -/
def ReadsAlone (s : StackState ω) : StackEvent → Prop
  | .updateRead t => ∀ i cr t' j cr' m, s.updates t = some (.loaded i cr) →
      s.updates t' = some (.read j cr' m) → ¬s.Shares i j
  | _ => True

section Footprints

variable {store : ChangeStore ω} {i j : Nat} {f : ChangeRow → ChangeRow}

theorem footprints_modifyRow
    (h : ∀ row, store.rows[i]? = some row → (f row).footprint = row.footprint) :
    (store.modifyRow i f).footprints = store.footprints := by
  refine List.ext_getElem? fun k => ?_
  simp only [ChangeStore.footprints,ChangeStore.modifyRow,List.getElem?_map,List.getElem?_modify]
  by_cases hk : i = k
  · subst hk
    cases hrow : store.rows[i]? with
    | none => rfl
    | some row => simp [h row hrow]
  · simp [hk]

theorem setStatus_footprint (row : ChangeRow) (status : ChangeRequestStatus) :
    (row.setStatus status).footprint = row.footprint := rfl

theorem footprints_stamp (cr : ChangeRequest) (n : Nat) :
    (store.modifyRow i fun row => (row.complete cr).stamp n).footprints =
      store.footprints.modify i fun p => (some n,p.2) := by
  refine List.ext_getElem? fun k => ?_
  simp only [ChangeStore.footprints,ChangeStore.modifyRow,List.getElem?_map,List.getElem?_modify]
  by_cases hk : i = k
  · subst hk
    cases store.rows[i]? with
    | none => rfl
    | some row => simp [ChangeRow.stamp,ChangeRow.complete,ChangeRow.footprint,ChangeRow.setStatus]
  · simp [hk]

theorem startManualRollback_footprints {user : User} {s₁ : ChangeStore ω} {run : Nat}
    (h : startManualRollback user i store = .ok (s₁,run)) :
    s₁.footprints = store.footprints := by
  obtain ⟨row,_,_,_,rfl⟩ := startManualRollback_accepted h
  exact footprints_modifyRow fun row _ => rfl

theorem doRollback_footprints (env : Env ω) (i run : Nat) (store : ChangeStore ω) :
    (doRollback env i run store).2.footprints = store.footprints := by
  cases hrow : store.rows[i]? with
  | none =>
    have hraised : executeRowRollback env i store =
        (.error (.other "No row was found when one was required"),store) := by
      rw [executeRowRollback,hrow]
    rw [doRollback_raised hraised]
    exact footprints_modifyRow fun row _ => rfl
  | some row =>
    rcases executeRowRollback_cases env hrow with ⟨result,status,site,hexec⟩ | ⟨e,site,hexec⟩
    · rw [doRollback_returned hexec]
      have hset : (store.rolledTo i row status site).footprints = store.footprints :=
        footprints_modifyRow fun row _ => setStatus_footprint row status
      rw [← hset]
      exact footprints_modifyRow fun row _ => rfl
    · rw [doRollback_raised hexec]
      have hkept : (store.raised i row e site).footprints = store.footprints := rfl
      rw [← hkept]
      exact footprints_modifyRow fun row _ => rfl

end Footprints

section Steps

variable {env : Env ω} {s s' : StackState ω} {t i : Nat}

theorem updateSelect_accepted (h : stackStep env s (.updateSelect t i) = some s') :
    ∃ row, s.store.rows[i]? = some row ∧ s' = s.setUpdate t (some (.loaded i row.cr)) := by
  simp only [stackStep] at h
  split at h
  · rename_i row _ hrow
    exact ⟨row,hrow,(Option.some.inj h).symm⟩
  · cases h

theorem updateRead_accepted (h : stackStep env s (.updateRead t) = some s') :
    ∃ i cr, s.updates t = some (.loaded i cr) ∧ cr.takesPlace = true ∧
      s' = s.setUpdate t (some (.read i cr (maxSequence (s.others i) cr.targetAssetIds))) := by
  simp only [stackStep] at h
  split at h
  · rename_i i cr hu
    split at h
    · rename_i htakes
      exact ⟨i,cr,hu,htakes,(Option.some.inj h).symm⟩
    · cases h
  · cases h

theorem updateCommit_accepted (h : stackStep env s (.updateCommit t) = some s') :
    (∃ i cr, s.updates t = some (.loaded i cr) ∧ cr.takesPlace = false ∧
      s' = ({ s with
        store := s.store.modifyRow i fun row => row.complete cr }.markCompleted i).setUpdate t
          none) ∨
    ∃ i cr m, s.updates t = some (.read i cr m) ∧
      s' = ({ s with
        store := s.store.modifyRow i fun row => (row.complete cr).stamp (m + 1)
        stampedAt := Function.update s.stampedAt i (some s.commits) }.markCompleted i).setUpdate t
          none := by
  simp only [stackStep] at h
  split at h
  · rename_i i cr hu
    split at h
    · cases h
    · rename_i htakes
      exact Or.inl ⟨i,cr,hu,by simpa using htakes,(Option.some.inj h).symm⟩
  · rename_i i cr m hu
    exact Or.inr ⟨i,cr,m,hu,(Option.some.inj h).symm⟩
  · cases h

theorem decide_accepted {user : User} {action : ResumeAction}
    (h : stackStep env s (.decide user i action) = some s') :
    ∃ row more w, s.store.rows[i]? = some row ∧
      action.request user (s.store.world i row) = (.ok more,w) ∧ s' = s.write i ⟨w.cr,w.runs⟩ := by
  simp only [stackStep] at h
  split at h
  · rename_i row hrow
    split at h
    · rename_i more w hrequest
      exact ⟨row,more,w,hrow,hrequest,(Option.some.inj h).symm⟩
    · cases h
  · cases h

theorem writeStatus_accepted {status : ChangeRequestStatus}
    (h : stackStep env s (.writeStatus i status) = some s') :
    ∃ row, s.store.rows[i]? = some row ∧ s' = s.write i (row.setStatus status) := by
  simp only [stackStep] at h
  split at h
  · rename_i row hrow
    exact ⟨row,hrow,(Option.some.inj h).symm⟩
  · cases h

theorem manualRollback_accepted {user : User}
    (h : stackStep env s (.manualRollback user i) = some s') :
    ∃ store run, startManualRollback user i s.store = .ok (store,run) ∧
      s' = { s with store := store, tasks := s.tasks ++ [(i,run)] } := by
  simp only [stackStep] at h
  split at h
  · rename_i store run hstart
    exact ⟨store,run,hstart,(Option.some.inj h).symm⟩
  · cases h

theorem rollbackTask_accepted (h : stackStep env s (.rollbackTask t) = some s') :
    ∃ i run, s.tasks[t]? = some (i,run) ∧
      s' = { s with
        store := (doRollback env i run s.store).2
        tasks := s.tasks.eraseIdx t } := by
  simp only [stackStep] at h
  split at h
  · rename_i i run htask
    exact ⟨i,run,htask,(Option.some.inj h).symm⟩
  · cases h

/-- A write without a place leaves the stack alone. -/
theorem write_footprints {row row' : ChangeRow} (hrow : s.store.rows[i]? = some row)
    (h : row'.footprint = row.footprint) : (s.write i row').store.footprints =
      s.store.footprints ∧ (s.write i row').updates = s.updates ∧
      (s.write i row').stampedAt = s.stampedAt ∧ s.commits ≤ (s.write i row').commits := by
  have hkept : (s.store.modifyRow i fun _ => row').footprints = s.store.footprints := by
    refine footprints_modifyRow fun r hr => ?_
    obtain rfl : row = r := Option.some.inj (hrow.symm.trans hr)
    exact h
  unfold StackState.write
  split
  · exact ⟨hkept,rfl,rfl,Nat.le_succ _⟩
  · exact ⟨hkept,rfl,rfl,Nat.le_refl _⟩

end Steps

/-- What holds in every run in which the highest sequence is read alone. -/
structure StackInv (s : StackState ω) : Prop where
  ordered : Ordered s.Shares s.sequence s.stampedAt
  stamped : ∀ i, s.sequence i = none ↔ s.stampedAt i = none
  recent : ∀ i a, s.stampedAt i = some a → a < s.commits
  distinct : ∀ i j a, s.stampedAt i = some a → s.stampedAt j = some a → i = j
  loaded : ∀ t i cr, s.updates t = some (.loaded i cr) → cr.targetAssetIds = s.targets i
  assets : ∀ t i cr m, s.updates t = some (.read i cr m) → s.targets i ≠ []
  highest : ∀ t i cr m, s.updates t = some (.read i cr m) →
    ∀ j n, j ≠ i → s.Shares j i → s.sequence j = some n → n ≤ m
  alone : ∀ t t' i j cr cr' m m', t ≠ t' → s.updates t = some (.read i cr m) →
    s.updates t' = some (.read j cr' m') → ¬s.Shares i j

section Invariant

variable {env : Env ω} {s s' : StackState ω} {t i j : Nat} {cr : ChangeRequest} {m : Nat}

theorem StackState.Shares.symm (h : s.Shares i j) : s.Shares j i := by
  obtain ⟨asset,hi,hj⟩ := h
  exact ⟨asset,hj,hi⟩

theorem StackInv.frame (hi : StackInv s) (hstore : s'.store.footprints = s.store.footprints)
    (hupdates : s'.updates = s.updates) (hstamped : s'.stampedAt = s.stampedAt)
    (hcommits : s.commits ≤ s'.commits) : StackInv s' := by
  have hseq : s'.sequence = s.sequence := by
    funext k
    simp only [StackState.sequence,hstore]
  have htargets : s'.targets = s.targets := by
    funext k
    simp only [StackState.targets,hstore]
  have hshares : s'.Shares = s.Shares := by
    funext k l
    simp only [StackState.Shares,htargets]
  constructor
  · rw [hshares,hseq,hstamped]
    exact hi.ordered
  · rw [hseq,hstamped]
    exact hi.stamped
  · rw [hstamped]
    exact fun k a ha => (hi.recent k a ha).trans_le hcommits
  · rw [hstamped]
    exact hi.distinct
  · rw [hupdates,htargets]
    exact hi.loaded
  · rw [hupdates,htargets]
    exact hi.assets
  · rw [hupdates,hshares,hseq]
    exact hi.highest
  · rw [hupdates,hshares]
    exact hi.alone

/-- A transaction that is not between reading the highest sequence and its commit. -/
theorem StackInv.setUpdate (hi : StackInv s) {u : Option StampUpdate}
    (hu : ∀ i cr m, u ≠ some (.read i cr m))
    (hl : ∀ i cr, u = some (.loaded i cr) → cr.targetAssetIds = s.targets i) :
    StackInv (s.setUpdate t u) := by
  have hread : ∀ t' i cr m, (s.setUpdate t u).updates t' = some (.read i cr m) →
      s.updates t' = some (.read i cr m) := by
    intro t' i cr m h
    by_cases ht : t' = t
    · subst ht
      exact absurd (by simpa [StackState.setUpdate] using h) (hu i cr m)
    · simpa [StackState.setUpdate,ht] using h
  refine ⟨hi.ordered,hi.stamped,hi.recent,hi.distinct,?_,?_,?_,?_⟩
  · intro t' i cr h
    by_cases ht : t' = t
    · subst ht
      exact hl i cr (by simpa [StackState.setUpdate] using h)
    · exact hi.loaded t' i cr (by simpa [StackState.setUpdate,ht] using h)
  · exact fun t' i cr m h => hi.assets t' i cr m (hread t' i cr m h)
  · exact fun t' i cr m h => hi.highest t' i cr m (hread t' i cr m h)
  · exact fun t' t'' i j cr cr' m m' hne h h' =>
      hi.alone t' t'' i j cr cr' m m' hne (hread _ _ _ _ h) (hread _ _ _ _ h')

theorem le_maxSequence {others : List ChangeRequest} {other : ChangeRequest} {n : Nat}
    {assetIds : List Uuid} (hmem : other ∈ others)
    (hshares : ∃ asset ∈ other.targetAssetIds, asset ∈ assetIds)
    (hn : other.applicationSequence = some n) : n ≤ maxSequence others assetIds := by
  have hbound : ∀ (l : List Nat) (k : Nat), k ≤ l.foldl max k ∧ ∀ n ∈ l, n ≤ l.foldl max k := by
    intro l
    induction l with
    | nil => simp
    | cons a l ih =>
      intro k
      obtain ⟨hk,hl⟩ := ih (max k a)
      simp only [List.foldl_cons,List.mem_cons,forall_eq_or_imp]
      exact ⟨by omega,by omega,hl⟩
  refine (hbound _ 0).2 n (List.mem_filterMap.mpr ⟨other,List.mem_filter.mpr ⟨hmem,?_⟩,hn⟩)
  simpa using hshares

theorem sequence_some {n : Nat} (h : s.sequence j = some n) :
    ∃ row, s.store.rows[j]? = some row ∧ row.cr.applicationSequence = some n ∧
      s.targets j = row.cr.targetAssetIds := by
  cases hrow : s.store.rows[j]? with
  | none => simp [StackState.sequence,ChangeStore.footprints,hrow] at h
  | some row =>
    refine ⟨row,rfl,?_,?_⟩
    · simpa [StackState.sequence,ChangeStore.footprints,hrow,ChangeRow.footprint] using h
    · simp [StackState.targets,ChangeStore.footprints,hrow,ChangeRow.footprint]

theorem StackInv.read (hi : StackInv s) (hu : s.updates t = some (.loaded i cr))
    (htakes : cr.takesPlace = true)
    (halone : ∀ t' j cr' m, s.updates t' = some (.read j cr' m) → ¬s.Shares i j) :
    StackInv (s.setUpdate t
      (some (.read i cr (maxSequence (s.others i) cr.targetAssetIds)))) := by
  have htargets := hi.loaded t i cr hu
  have hnew : ∀ t' k cr' m, (s.setUpdate t
      (some (.read i cr (maxSequence (s.others i) cr.targetAssetIds)))).updates t' =
        some (.read k cr' m) →
      t' = t ∧ k = i ∧ m = maxSequence (s.others i) cr.targetAssetIds ∨
        t' ≠ t ∧ s.updates t' = some (.read k cr' m) := by
    intro t' k cr' m h
    by_cases ht : t' = t
    · subst ht
      obtain ⟨rfl,_,rfl⟩ : i = k ∧ cr = cr' ∧ maxSequence (s.others i) cr.targetAssetIds = m := by
        simpa [StackState.setUpdate] using h
      exact Or.inl ⟨rfl,rfl,rfl⟩
    · exact Or.inr ⟨ht,by simpa [StackState.setUpdate,ht] using h⟩
  refine ⟨hi.ordered,hi.stamped,hi.recent,hi.distinct,?_,?_,?_,?_⟩
  · intro t' k cr' h
    by_cases ht : t' = t
    · subst ht
      simp [StackState.setUpdate] at h
    · exact hi.loaded t' k cr' (by simpa [StackState.setUpdate,ht] using h)
  · intro t' k cr' m h
    rcases hnew t' k cr' m h with ⟨_,rfl,_⟩ | ⟨_,h⟩
    · have hassets : cr.applicationSequence = none ∧ cr.targetAssetIds ≠ [] := by
        simpa [ChangeRequest.takesPlace] using htakes
      exact htargets ▸ hassets.2
    · exact hi.assets t' k cr' m h
  · intro t' k cr' m h j n hne hshares hn
    rcases hnew t' k cr' m h with ⟨_,rfl,rfl⟩ | ⟨_,h⟩
    · obtain ⟨row,hrow,hseq,htj⟩ := sequence_some hn
      have hmem : row.cr ∈ s.others k := List.mem_map_of_mem
        (List.mem_eraseIdx_iff_getElem?.mpr ⟨j,hne,hrow⟩)
      refine le_maxSequence hmem ?_ hseq
      rw [htargets,← htj]
      exact hshares
    · exact hi.highest t' k cr' m h j n hne hshares hn
  · intro t₁ t₂ k l cr₁ cr₂ m₁ m₂ hne h₁ h₂ hshares
    rcases hnew t₁ k cr₁ m₁ h₁ with ⟨rfl,rfl,_⟩ | ⟨_,hold₁⟩
    · rcases hnew t₂ l cr₂ m₂ h₂ with ⟨rfl,_,_⟩ | ⟨_,hold₂⟩
      · exact hne rfl
      · exact halone t₂ l cr₂ m₂ hold₂ hshares
    · rcases hnew t₂ l cr₂ m₂ h₂ with ⟨rfl,rfl,_⟩ | ⟨_,hold₂⟩
      · exact halone t₁ k cr₁ m₁ hold₁ hshares.symm
      · exact hi.alone t₁ t₂ k l cr₁ cr₂ m₁ m₂ hne hold₁ hold₂ hshares

/-- After the commit of a completion that takes its place. -/
def StackState.stamped (s : StackState ω) (t i : Nat) (cr : ChangeRequest) (m : Nat) :
    StackState ω :=
  ({ s with
    store := s.store.modifyRow i fun row => (row.complete cr).stamp (m + 1)
    stampedAt := Function.update s.stampedAt i (some s.commits) }.markCompleted i).setUpdate t none

theorem stamped_footprints : (s.stamped t i cr m).store.footprints =
    s.store.footprints.modify i fun p => (some (m + 1),p.2) := footprints_stamp cr (m + 1)

theorem stamped_sequence (h : s.targets i ≠ []) :
    (s.stamped t i cr m).sequence = Function.update s.sequence i (some (m + 1)) := by
  funext k
  by_cases hk : k = i
  · subst hk
    cases hrow : s.store.footprints[k]? with
    | none => simp [StackState.targets,hrow] at h
    | some p => simp [StackState.sequence,stamped_footprints,hrow]
  · simp [StackState.sequence,stamped_footprints,Ne.symm hk,hk]

theorem stamped_targets : (s.stamped t i cr m).targets = s.targets := by
  funext k
  by_cases hk : i = k
  · subst hk
    cases hrow : s.store.footprints[i]? <;> simp [StackState.targets,stamped_footprints,hrow]
  · simp [StackState.targets,stamped_footprints,hk]

theorem stamped_shares : (s.stamped t i cr m).Shares = s.Shares := by
  funext k l
  simp only [StackState.Shares,stamped_targets]

theorem stamped_updates {t' : Nat} {u : StampUpdate}
    (h : (s.stamped t i cr m).updates t' = some u) : t' ≠ t ∧ s.updates t' = some u := by
  by_cases ht : t' = t
  · subst ht
    simp [StackState.stamped,StackState.setUpdate,StackState.markCompleted] at h
  · exact ⟨ht,by
      simpa [StackState.stamped,StackState.setUpdate,StackState.markCompleted,ht] using h⟩

theorem StackInv.stamp (hi : StackInv s) (hu : s.updates t = some (.read i cr m)) :
    StackInv (s.stamped t i cr m) := by
  have hseq : (s.stamped t i cr m).sequence = Function.update s.sequence i (some (m + 1)) :=
    stamped_sequence (hi.assets t i cr m hu)
  have hstamped : (s.stamped t i cr m).stampedAt =
      Function.update s.stampedAt i (some s.commits) := rfl
  constructor
  · rw [stamped_shares,hseq,hstamped]
    refine hi.ordered.take (fun j n hne hc hn => ?_) hi.recent
    exact Nat.lt_succ_of_le (hi.highest t i cr m hu j n hne hc hn)
  · intro k
    rw [hseq,hstamped]
    by_cases hk : k = i
    · simp [hk]
    · simpa [hk] using hi.stamped k
  · exact recent_take hi.recent
  · exact distinct_take hi.distinct hi.recent
  · intro t' k cr' h
    rw [stamped_targets]
    exact hi.loaded t' k cr' (stamped_updates h).2
  · intro t' k cr' m' h
    rw [stamped_targets]
    exact hi.assets t' k cr' m' (stamped_updates h).2
  · intro t' k cr' m' h j n hne hc hn
    rw [stamped_shares] at hc
    rw [hseq] at hn
    obtain ⟨ht,hread⟩ := stamped_updates h
    -- the change that has just completed shares no asset with one that waits for its commit
    have hj : j ≠ i := by
      rintro rfl
      exact hi.alone t t' j k cr cr' m m' (Ne.symm ht) hu hread hc
    exact hi.highest t' k cr' m' hread j n hne hc (by simpa [hj] using hn)
  · intro t₁ t₂ k l cr₁ cr₂ m₁ m₂ hne h₁ h₂
    rw [stamped_shares]
    exact hi.alone t₁ t₂ k l cr₁ cr₂ m₁ m₂ hne (stamped_updates h₁).2 (stamped_updates h₂).2

theorem stackInv_inductive (env : Env ω) :
    InductiveUnder (stackSystem env) ReadsAlone StackInv := by
  constructor
  · rintro s ⟨hrows,hupdates,_,_,hstamped⟩
    have hseq : s.sequence = fun _ => none := by
      funext i
      cases hi : s.sequence i with
      | none => rfl
      | some n =>
        obtain ⟨row,hrow,hn,_⟩ := sequence_some hi
        rw [(hrows row (List.mem_of_getElem? hrow)).2] at hn
        cases hn
    refine ⟨?_,by simp [hseq,hstamped],by simp [hstamped],by simp [hstamped],by simp [hupdates],
      by simp [hupdates],by simp [hupdates],by simp [hupdates]⟩
    rw [hseq]
    exact ordered_empty
  · intro s e s' hi hG h
    replace h : stackStep env s e = some s' := h
    cases e with
    | updateSelect t i =>
      obtain ⟨row,hrow,rfl⟩ := updateSelect_accepted h
      refine hi.setUpdate (by simp) fun k cr hk => ?_
      obtain ⟨rfl,rfl⟩ : i = k ∧ row.cr = cr := by simpa using hk
      simp [StackState.targets,ChangeStore.footprints,hrow,ChangeRow.footprint]
    | updateRead t =>
      obtain ⟨i,cr,hu,htakes,rfl⟩ := updateRead_accepted h
      exact hi.read hu htakes fun t' j cr' m hread => hG i cr t' j cr' m hu hread
    | updateCommit t =>
      rcases updateCommit_accepted h with ⟨i,cr,_,_,rfl⟩ | ⟨i,cr,m,hu,rfl⟩
      · have hmid : StackInv ({ s with
            store := s.store.modifyRow i fun row => row.complete cr }.markCompleted i) :=
          hi.frame (footprints_modifyRow fun row _ => rfl) rfl rfl (Nat.le_succ _)
        exact hmid.setUpdate (by simp) (by simp)
      · exact hi.stamp hu
    | decide user i action =>
      obtain ⟨row,more,w,hrow,hrequest,rfl⟩ := decide_accepted h
      have hI : RowWrites fun w : World ω =>
          (w.cr.applicationSequence,w.cr.targetAssetIds) = row.footprint :=
        ⟨fun _ _ _ h => h,fun _ _ h => h,fun _ _ h => h⟩
      have hkept : ChangeRow.footprint ⟨w.cr,w.runs⟩ = row.footprint :=
        (request_keeps hI.run hI.status user action).run hrequest rfl
      obtain ⟨hstore,hupdates,hstamped,hcommits⟩ := write_footprints hrow hkept
      exact hi.frame hstore hupdates hstamped hcommits
    | writeStatus i status =>
      obtain ⟨row,hrow,rfl⟩ := writeStatus_accepted h
      obtain ⟨hstore,hupdates,hstamped,hcommits⟩ :=
        write_footprints hrow (setStatus_footprint row status)
      exact hi.frame hstore hupdates hstamped hcommits
    | manualRollback user i =>
      obtain ⟨store,run,hstart,rfl⟩ := manualRollback_accepted h
      exact hi.frame (startManualRollback_footprints hstart) rfl rfl (Nat.le_refl _)
    | rollbackTask k =>
      obtain ⟨i,run,_,rfl⟩ := rollbackTask_accepted h
      exact hi.frame (doRollback_footprints env i run s.store) rfl rfl (Nat.le_refl _)

theorem StackInv.sequencesOrdered (hi : StackInv s) : s.SequencesOrdered := by
  intro i j m n hne hshares hm hn
  have hlater : ∀ a b, s.stampedAt i = some a → s.stampedAt j = some b → a < b → m < n :=
    fun a b ha hb hlt => hi.ordered i j m n a b hne hshares hm hn ha hb hlt
  refine ⟨?_,hlater⟩
  have htaken : ∀ k l, s.sequence k = some l → ∃ a, s.stampedAt k = some a := by
    intro k l hk
    refine Option.ne_none_iff_exists'.mp fun hnone => ?_
    rw [(hi.stamped k).mpr hnone] at hk
    cases hk
  obtain ⟨a,ha⟩ := htaken i m hm
  obtain ⟨b,hb⟩ := htaken j n hn
  rcases Nat.lt_trichotomy a b with hlt | rfl | hlt
  · exact (hlater a b ha hb hlt).ne
  · exact absurd (hi.distinct i j a ha hb) hne
  · exact (hi.ordered j i n m b a (Ne.symm hne) hshares.symm hn hm hb ha hlt).ne'

end Invariant

/-- In every run in which each completion reads the highest sequence alone, changes on a common
asset have different sequences, in the order of their commits. -/
theorem stamps_ordered {env : Env ω} {tr : List (Transition (StackState ω) StackEvent)}
    {s : StackState ω} (h : Run (stackSystem env) tr s)
    (hG : ∀ t ∈ tr, ReadsAlone t.pre t.label) : s.SequencesOrdered :=
  (h.guarded (stackInv_inductive env) hG).sequencesOrdered

/-- Changes of one organization that are being executed on one asset. -/
def sampleExecuting (changeTypes : List ChangeType) : StackState Unit where
  store := {
    rows := changeTypes.map fun changeType =>
      ⟨⟨"cr","org-1","user-1",changeType,["asset-1"],[],.executing,some .low,none,none⟩,
        [⟨"wf",.pending,[("steps",.arr [.obj [("status",.str "failed")]])]⟩]⟩
    connectors := []
    site := ⟨[],[],[],[],()⟩
    rollbacks := [] }
  updates := fun _ => none
  tasks := []
  commits := 0
  completedAt := fun _ => none
  stampedAt := fun _ => none

theorem sampleExecuting_start (changeTypes : List ChangeType) :
    (stackSystem noModules).start (sampleExecuting changeTypes) :=
  ⟨by simp [sampleExecuting],rfl,rfl,rfl,rfl⟩

def sampleTypes : List ChangeType := [.generic "patch",.credentialRotation]

/-- Two completions, one after the other. -/
def sampleCompletions : List StackEvent :=
  [.updateSelect 0 0,.updateRead 0,.updateCommit 0,.updateSelect 1 1,.updateRead 1,.updateCommit 1]

theorem sampleCompletions_alone :
    (stackSystem noModules).Meets ReadsAlone (sampleExecuting sampleTypes) sampleCompletions := by
  refine ⟨trivial,?_,trivial,trivial,?_,trivial,trivial⟩
  · rintro i cr (_ | t) j cr' m _ hread <;> cases hread
  · rintro i cr (_ | _ | t) j cr' m _ hread <;> cases hread

theorem sample_stamps_ordered :
    ∃ (tr : List (Transition (StackState Unit) StackEvent)) (s : StackState Unit),
      Run (stackSystem noModules) tr s ∧ s.sequence 0 = some 1 ∧ s.sequence 1 = some 2 ∧
        s.SequencesOrdered := by
  have hrun : (stackSystem noModules).replay (sampleExecuting sampleTypes) sampleCompletions =
      some _ := rfl
  have h := (Run.start (sampleExecuting_start sampleTypes)).replay hrun
  exact ⟨_,_,h,rfl,rfl,stamps_ordered h (System.history_meets sampleCompletions_alone (by simp))⟩

/-- Both completions read the highest sequence before either of them commits. -/
def sampleBothRead : List StackEvent :=
  [.updateSelect 0 0,.updateSelect 1 1,.updateRead 0,.updateRead 1,.updateCommit 0,.updateCommit 1]

theorem place_taken_twice :
    ¬∀ (tr : List (Transition (StackState Unit) StackEvent)) (s : StackState Unit),
      Run (stackSystem noModules) tr s → s.SequencesOrdered := by
  intro hall
  have hrun : (stackSystem noModules).replay (sampleExecuting sampleTypes) sampleBothRead =
      some _ := rfl
  have hordered := hall _ _ ((Run.start (sampleExecuting_start sampleTypes)).replay hrun)
  have hshared : ∃ asset ∈ ["asset-1"], asset ∈ ["asset-1"] := ⟨"asset-1",by simp⟩
  exact (hordered 0 1 1 1 (by decide) hshared rfl rfl).1 rfl

end Nexplane
