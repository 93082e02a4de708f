import Nexplane.RollbackEntryPoints

set_option autoImplicit false

/-! What the ways of rolling changes back report, against what became of the changes. -/

namespace Nexplane
open PyValue

variable {ω : Type}

section Writes

/-- Only the site has changed. -/
def World.SameRows (w u : World ω) : Prop := ∃ site, u = { w with site := site }

variable {env : Env ω} {w w' : World ω}

theorem onSite_sameRows {α : Type} (x : Py (Site ω) α) : Py.Keeps w.SameRows (onSite x) := by
  refine onSite_frame ?_ x
  rintro _ s ⟨site,rfl⟩
  exact ⟨s,rfl⟩

theorem executeFiloRollback_rows (executionResult : Json) :
    Py.Keeps w.SameRows (executeFiloRollback env executionResult) :=
  .bind .get fun _ => .bind (.ofExcept _) fun _ => .bind (onSite_sameRows _) fun _ =>
    .bind (.ofExcept _) fun _ => .pure _

theorem executeCertificateRollback_rows (executionResult : Json) :
    Py.Keeps w.SameRows (executeCertificateRollback env executionResult) :=
  .bind .get fun _ => .bind (.ofExcept _) fun _ => .bind (.ofExcept _) fun _ =>
    .bind (.ofExcept _) fun _ => .bind (onSite_sameRows _) fun _ => .pure _

theorem executeFanoutRollback_rows (executionResult : Json) :
    Py.Keeps w.SameRows (executeFanoutRollback env executionResult) :=
  .bind .get fun _ => .bind (.ofExcept _) fun _ => .bind (onSite_sameRows _) fun _ =>
    .bind (.ofExcept _) fun _ => .pure _

theorem executeK8sClusterUpgradeRollback_rows (executionResult : Json) :
    Py.Keeps w.SameRows (executeK8sClusterUpgradeRollback env executionResult) := by
  refine .bind .get fun u => .bind (.ofExcept _) fun pools => .ite (.pure _) ?_
  refine .bind (.ofExcept _) fun recorded => ?_
  dsimp only
  split
  · exact .pure _
  · exact .bind (.ofExcept _) fun _ => .bind (onSite_sameRows _) fun _ => .pure _

theorem activityExecuteRollback_rows (steps : List PlanStep) (executionResult : Json) :
    Py.Keeps w.SameRows (activityExecuteRollback env steps executionResult) := by
  refine .bind .get fun u => .ite (onSite_sameRows _) ?_
  split
  · exact .pure _
  · exact .bind (.ofExcept _) fun _ => onSite_sameRows _
  · exact .bind (.ofExcept _) fun _ => .bind (onSite_sameRows _) fun _ => .pure _

theorem undoPlan_rows (env : Env ω) (executionResult : Json) :
    Py.Keeps w.SameRows (undoPlan env executionResult) :=
  .bind .get fun _ => .ite (activityExecuteRollback_rows _ _) (onSite_sameRows _)

/-- The rows after a rollback: it sets the status when it returns, and nothing when it raises. -/
def RollbackWrites (w : World ω) : Except Exc Json × World ω → Prop
  | (.ok _,w') => ∃ status, (w.setStatus status).SameRows w'
  | (.error _,w') => w.SameRows w'

theorem endWarned_writes {x : Py (World ω) Json} (hx : Py.Keeps w.SameRows x) :
    RollbackWrites w (endWarned x w) := by
  have hsame := hx w ⟨w.site,rfl⟩
  rw [endWarned,Py.bind_run]
  rcases hrun : x w with ⟨_ | result,u⟩
  · rw [hrun] at hsame
    exact hsame
  · rw [hrun] at hsame
    obtain ⟨site,rfl⟩ := hsame
    exact ⟨warnedStatus result,site,rfl⟩

theorem rollbackPlan_writes (executionResult : Json) :
    RollbackWrites w (rollbackPlan env executionResult w) := by
  have hsame := undoPlan_rows env executionResult w ⟨w.site,rfl⟩
  rw [rollbackPlan,Py.bind_run]
  rcases hrun : undoPlan env executionResult w with ⟨_ | result,u⟩
  · rw [hrun] at hsame
    exact hsame
  · rw [hrun] at hsame
    obtain ⟨site,rfl⟩ := hsame
    dsimp only
    cases rollbackOutcome result with
    | error e => exact ⟨site,rfl⟩
    | ok status => exact ⟨status,site,rfl⟩

theorem executeCrRollback_writes (env : Env ω) (extra : Dict) (w : World ω) :
    RollbackWrites w (executeCrRollback env extra w) := by
  rw [executeCrRollback,Py.get_bind]
  cases w.cr.changeType with
  | credentialRotation => exact endWarned_writes (executeFiloRollback_rows _)
  | certificateRotation => exact endWarned_writes (executeCertificateRollback_rows _)
  | k8sClusterUpgrade => exact endWarned_writes (executeK8sClusterUpgradeRollback_rows _)
  | credentialRotationFanout => exact endWarned_writes (executeFanoutRollback_rows _)
  | _ => exact rollbackPlan_writes _

end Writes

/-- The change is in one of the two statuses of a rollback that fully succeeded. -/
def ChangeRequestStatus.fullyRolledBack (status : ChangeRequestStatus) : Bool :=
  status ∈ [ChangeRequestStatus.rolledBack,.rolledBackWithWarnings]

def RollbackAttempt.returned (a : RollbackAttempt) : Bool := a.ended.isOk

def RollbackAttempt.succeeded (a : RollbackAttempt) : Bool :=
  match a.ended with
  | .ok status => status.fullyRolledBack
  | .error _ => false

/-- The rollbacks between two states. -/
def ChangeStore.newRollbacks (s s' : ChangeStore ω) : List RollbackAttempt :=
  s'.rollbacks.drop s.rollbacks.length

/-- No rollback between the two states has returned without success. -/
def WellEnded (s s' : ChangeStore ω) : Prop :=
  ∀ a ∈ s.newRollbacks s', a.returned = true → a.succeeded = true

def ChangeStore.isRolledBack (s : ChangeStore ω) (i : Nat) : Prop :=
  ∃ row, s.rows[i]? = some row ∧ row.cr.status.fullyRolledBack = true

/-- A run of the change has the status of a rollback. -/
def ChangeStore.runRolledBack (s : ChangeStore ω) (i run : Nat) : Prop :=
  ∃ row r, s.rows[i]? = some row ∧ row.runs[run]? = some r ∧ r.status = .rolledBack

/-- The run that a manual rollback keeps says rolled back exactly when the change is. -/
def ManualTruthful (env : Env ω) (user : User) (i : Nat) (s : ChangeStore ω) : Prop :=
  ∀ s₁ run, startManualRollback user i s = .ok (s₁,run) →
    ((doRollback env i run s₁).2.runRolledBack i run ↔
      (doRollback env i run s₁).2.isRolledBack i)

/-- The agent's tool answers rolled back exactly when the change is. -/
def McpTruthful (env : Env ω) (user : User) (i : Nat) (s : ChangeStore ω) : Prop :=
  ∀ status result s', mcpRollbackChangeRequest env user i s = .ok (status,result,s') →
    (status = "rolled_back" ↔ s'.isRolledBack i)

/-- The rollback of an asset lists the changes that were fully rolled back, went down the stack,
stopped at the first one that was not, and left that one another status. -/
structure UnwindTruthful (s s' : ChangeStore ω) (report : RollbackAllReport) : Prop where
  lists : ∀ i, i ∈ report.rolledBack ↔
    ∃ a ∈ s.newRollbacks s', a.place = i ∧ a.succeeded = true
  decreasing : (s.newRollbacks s').Pairwise fun a b =>
    ∃ m n, a.sequence = some m ∧ b.sequence = some n ∧ n < m
  stops : ∀ before a after, s.newRollbacks s' = before ++ a :: after → a.succeeded = false →
    after = []
  keeps : ∀ a ∈ s.newRollbacks s', a.succeeded = false →
    ∀ row, s'.rows[a.place]? = some row → row.cr.status ≠ .rolledBack

def AssetTruthful (env : Env ω) (user : User) (assetId : Uuid) (s : ChangeStore ω) : Prop :=
  ∀ outcome s', rollbackAll env user assetId s = .ok (outcome,s') →
    ∃ report, outcome = .ok report ∧ UnwindTruthful s s' report

/-- Each way of rolling back says what became of the changes. -/
structure ReportsTruthful (env : Env ω) (user : User) (i : Nat) (assetId : Uuid)
    (s : ChangeStore ω) : Prop where
  manual : ManualTruthful env user i s
  mcp : McpTruthful env user i s
  asset : AssetTruthful env user assetId s

section Row

variable {env : Env ω} {i : Nat} {s s' : ChangeStore ω} {row : ChangeRow} {result : Json} {e : Exc}

theorem modify_congr {f g : ChangeRow → ChangeRow} {rows : List ChangeRow}
    (h : rows[i]? = some row) (hfg : f row = g row) : rows.modify i f = rows.modify i g := by
  refine List.ext_getElem? fun j => ?_
  rw [List.getElem?_modify,List.getElem?_modify]
  by_cases hj : i = j
  · subst hj
    simp [h,hfg]
  · simp [hj]

theorem modifyRow_get (h : s.rows[i]? = some row) (f : ChangeRow → ChangeRow) :
    (s.modifyRow i f).rows[i]? = some (f row) := by
  simp [ChangeStore.modifyRow,h]

/-- The store after a rollback of row `i`, which has been given the status. -/
def ChangeStore.rolledTo (s : ChangeStore ω) (i : Nat) (row : ChangeRow)
    (status : ChangeRequestStatus) (site : Site ω) : ChangeStore ω :=
  { s.modifyRow i fun row => row.setStatus status with
    site := site
    rollbacks := s.rollbacks ++ [⟨i,row.cr.applicationSequence,.ok status⟩] }

/-- The store after a rollback of row `i` that has raised. -/
def ChangeStore.raised (s : ChangeStore ω) (i : Nat) (row : ChangeRow) (e : Exc) (site : Site ω) :
    ChangeStore ω :=
  { s with
    site := site
    rollbacks := s.rollbacks ++ [⟨i,row.cr.applicationSequence,.error e⟩] }

theorem executeRowRollback_cases (env : Env ω) (h : s.rows[i]? = some row) :
    (∃ result status site,
        executeRowRollback env i s = (.ok result,s.rolledTo i row status site)) ∨
      ∃ e site, executeRowRollback env i s = (.error e,s.raised i row e site) := by
  have hwrites := executeCrRollback_writes env [] (s.world i row)
  rw [executeRowRollback,h]
  dsimp only
  rcases hrun : executeCrRollback env [] (s.world i row) with ⟨e | result,w⟩
  · rw [hrun] at hwrites
    obtain ⟨site,rfl⟩ := hwrites
    refine Or.inr ⟨e,site,?_⟩
    have hrow : s.rows.modify i (fun _ => ⟨row.cr,row.runs⟩) = s.rows.modify i id :=
      modify_congr h rfl
    simp only [ChangeStore.modifyRow,ChangeStore.world,hrow,List.modify_id]
    rfl
  · rw [hrun] at hwrites
    obtain ⟨status,site,rfl⟩ := hwrites
    refine Or.inl ⟨result,status,site,?_⟩
    have hrow : s.rows.modify i (fun _ =>
        ⟨((s.world i row).setStatus status).cr,((s.world i row).setStatus status).runs⟩) =
          s.rows.modify i fun row => row.setStatus status := modify_congr h rfl
    simp only [ChangeStore.modifyRow,hrow]
    rfl

theorem newRollbacks_of_append {l : List RollbackAttempt} (h : s'.rollbacks = s.rollbacks ++ l) :
    s.newRollbacks s' = l := by
  rw [ChangeStore.newRollbacks,h,List.drop_left]

/-- One rollback that returned: it went well exactly when it left the change rolled back. -/
theorem wellEnded_returned {place : Nat} {sequence : Option Nat} {status : ChangeRequestStatus}
    (h : s'.rollbacks = s.rollbacks ++ [⟨place,sequence,.ok status⟩]) :
    WellEnded s s' ↔ status.fullyRolledBack = true := by
  rw [WellEnded,newRollbacks_of_append h]
  simp [RollbackAttempt.returned,RollbackAttempt.succeeded,Except.isOk,Except.toBool]

theorem wellEnded_raised {place : Nat} {sequence : Option Nat}
    (h : s'.rollbacks = s.rollbacks ++ [⟨place,sequence,.error e⟩]) : WellEnded s s' := by
  rw [WellEnded,newRollbacks_of_append h]
  simp [RollbackAttempt.returned,Except.isOk,Except.toBool]

theorem isRolledBack_row (h : s.rows[i]? = some row) :
    s.isRolledBack i ↔ row.cr.status.fullyRolledBack = true := by
  simp [ChangeStore.isRolledBack,h]

end Row

section Single

variable {env : Env ω} {user : User} {i run : Nat} {s s₁ : ChangeStore ω} {row : ChangeRow}

theorem rowOf_some (h : s.rowOf user i = some row) : s.rows[i]? = some row :=
  (Option.filter_eq_some_iff.mp h).1

theorem startManualRollback_accepted (h : startManualRollback user i s = .ok (s₁,run)) :
    ∃ row, s.rowOf user i = some row ∧ s.blocksRollback user i row = false ∧
      run = row.runs.length ∧
      s₁ = s.modifyRow i fun row' => { row'.setStatus .executing with
        runs := row'.runs ++ [⟨"wf-rollback-" ++ row.cr.id,.rollingBack,[]⟩] } := by
  unfold startManualRollback at h
  split at h
  · cases h
  · rename_i row hrow
    split_ifs at h with hstatus hrole hblocks hruns
    obtain ⟨rfl,rfl⟩ := Prod.mk.inj (Except.ok.inj h)
    exact ⟨row,hrow,by simpa using hblocks,rfl,rfl⟩

theorem startManualRollback_ok (h : startManualRollback user i s = .ok (s₁,run)) :
    ∃ row r, s₁.rows[i]? = some row ∧ row.runs[run]? = some r := by
  obtain ⟨row,hrow,_,rfl,rfl⟩ := startManualRollback_accepted h
  exact ⟨_,⟨"wf-rollback-" ++ row.cr.id,.rollingBack,[]⟩,modifyRow_get (rowOf_some hrow) _,by simp⟩

theorem doRollback_returned {result : Json} {s₂ : ChangeStore ω}
    (h : executeRowRollback env i s₁ = (.ok result,s₂)) : (doRollback env i run s₁).2 =
      s₂.modifyRow i fun row => row.endRun run .rolledBack (resultColumn result) := by
  rw [doRollback,Py.attempt_bind,h]
  rfl

theorem doRollback_raised {e : Exc} {s₂ : ChangeStore ω}
    (h : executeRowRollback env i s₁ = (.error e,s₂)) :
    (doRollback env i run s₁).2 = s₂.modifyRow i fun row =>
      (row.endRun run .failed [("error",.str e.str)]).setStatus .failed := by
  rw [doRollback,Py.attempt_bind,h]
  rfl

theorem runRolledBack_endRun {r : ExecutionRun} (hrow : s.rows[i]? = some row)
    (hrun : row.runs[run]? = some r) :
    s.runRolledBack i run ↔ r.status = .rolledBack := by
  simp [ChangeStore.runRolledBack,hrow,hrun]

/-- The run of a manual rollback is right exactly when no rollback has returned without success. -/
theorem manual_truthful_iff : ManualTruthful env user i s ↔
    ∀ s₁ run, startManualRollback user i s = .ok (s₁,run) →
      WellEnded s₁ (doRollback env i run s₁).2 := by
  refine forall₃_congr fun s₁ run hstart => ?_
  obtain ⟨row,r,hrow,hrun⟩ := startManualRollback_ok hstart
  rcases executeRowRollback_cases env hrow with ⟨result,status,site,hexec⟩ | ⟨e,site,hexec⟩
  · rw [doRollback_returned hexec,wellEnded_returned rfl]
    have hset : (s₁.rolledTo i row status site).rows[i]? = some (row.setStatus status) :=
      modifyRow_get hrow _
    have hend := modifyRow_get hset fun row => row.endRun run .rolledBack (resultColumn result)
    have hsaid : ((row.setStatus status).endRun run .rolledBack (resultColumn result)).runs[run]? =
        some { r with status := .rolledBack, result := resultColumn result } := by
      simp [ChangeRow.endRun,ChangeRow.setStatus,hrun]
    rw [runRolledBack_endRun hend hsaid,isRolledBack_row hend]
    simp [ChangeRow.endRun,ChangeRow.setStatus]
  · rw [doRollback_raised hexec]
    have hkept : (s₁.raised i row e site).rows[i]? = some row := hrow
    have hend := modifyRow_get hkept fun row =>
      (row.endRun run .failed [("error",.str e.str)]).setStatus .failed
    have hsaid : ((row.endRun run .failed [("error",.str e.str)]).setStatus .failed).runs[run]? =
        some { r with status := .failed, result := [("error",.str e.str)] } := by
      simp [ChangeRow.endRun,ChangeRow.setStatus,hrun]
    rw [runRolledBack_endRun hend hsaid,isRolledBack_row hend]
    exact iff_of_true (by simp [ChangeRow.setStatus,ChangeRequestStatus.fullyRolledBack])
      (wellEnded_raised rfl)

/-- The answer of the agent's tool is right exactly when no rollback has returned without
success. -/
theorem mcp_truthful_iff : McpTruthful env user i s ↔
    ∀ status result s', mcpRollbackChangeRequest env user i s = .ok (status,result,s') →
      WellEnded s s' := by
  refine forall₄_congr fun status result s' hcall => ?_
  unfold mcpRollbackChangeRequest at hcall
  split at hcall
  · cases hcall
  · rename_i row hrow
    have hget := rowOf_some hrow
    split at hcall
    · cases hcall
    · rename_i hstatus
      rcases executeRowRollback_cases env hget with ⟨r,ended,site,hexec⟩ | ⟨e,site,hexec⟩
      · rw [hexec] at hcall
        dsimp only at hcall
        cases hcall
        have hset : (s.rolledTo i row ended site).rows[i]? = some (row.setStatus ended) :=
          modifyRow_get hget _
        rw [wellEnded_returned rfl,isRolledBack_row hset]
        simp [ChangeRow.setStatus]
      · rw [hexec] at hcall
        dsimp only at hcall
        cases hcall
        have hkept : (s.raised i row e site).rows[i]? = some row := hget
        rw [isRolledBack_row hkept]
        refine iff_of_true ?_ (wellEnded_raised rfl)
        have hopen : row.cr.status = .completed ∨ row.cr.status = .failed := by
          simpa [or_iff_not_imp_left] using hstatus
        rcases hopen with h | h <;> simp [h,ChangeRequestStatus.fullyRolledBack]

end Single

section Unwind

variable {env : Env ω} {s s' : ChangeStore ω} {report report' : RollbackAllReport}
  {entries : List (Nat × Nat)} {attempts : List RollbackAttempt}

/-- The places and sequences in the table. -/
def ChangeStore.Applied (s : ChangeStore ω) (entries : List (Nat × Nat)) : Prop :=
  ∀ e ∈ entries, ∃ row, s.rows[e.1]? = some row ∧ row.cr.applicationSequence = some e.2

/-- What the loop over the applied changes has done. -/
structure Unwound (s s' : ChangeStore ω) (entries : List (Nat × Nat))
    (report report' : RollbackAllReport) (attempts : List RollbackAttempt) : Prop where
  logged : s'.rollbacks = s.rollbacks ++ attempts
  walked : attempts.map (fun a => (a.place,a.sequence)) <+: entries.map fun e => (e.1,some e.2)
  lists : report'.rolledBack =
    report.rolledBack ++ (attempts.filter RollbackAttempt.returned).map RollbackAttempt.place
  stops : ∀ before a after, attempts = before ++ a :: after → a.returned = false → after = []
  failed : ∀ a ∈ attempts, a.returned = false →
    ∀ row, s'.rows[a.place]? = some row → row.cr.status = .failed

theorem modifyRow_get_of_ne {i j : Nat} (h : i ≠ j) (f : ChangeRow → ChangeRow) :
    (s.modifyRow i f).rows[j]? = s.rows[j]? := by
  simp [ChangeStore.modifyRow,h]

/-- Work on one row leaves the other applied changes as they are. -/
theorem ChangeStore.Applied.of_rows {i : Nat} (h : s.Applied entries)
    (hi : i ∉ entries.map Prod.fst) (hrows : ∀ j, i ≠ j → s'.rows[j]? = s.rows[j]?) :
    s'.Applied entries := by
  intro e he
  have hne : i ≠ e.1 := fun heq => hi (heq ▸ List.mem_map_of_mem he)
  rw [hrows e.1 hne]
  exact h e he

theorem Unwound.cons {s₂ : ChangeStore ω} {i n : Nat} {status : ChangeRequestStatus}
    (hlog : s₂.rollbacks = s.rollbacks ++ [⟨i,some n,.ok status⟩])
    (h : Unwound s₂ s' entries { report with rolledBack := report.rolledBack ++ [i] } report'
      attempts) :
    Unwound s s' ((i,n) :: entries) report report' (⟨i,some n,.ok status⟩ :: attempts) where
  logged := by
    rw [h.logged,hlog,List.append_assoc]
    rfl
  walked := by
    rw [List.map_cons,List.map_cons]
    exact (List.prefix_cons_inj _).mpr h.walked
  lists := by
    rw [h.lists,List.filter_cons_of_pos rfl,List.map_cons,List.append_assoc]
    rfl
  stops := by
    intro before a after hsplit hraised
    cases before with
    | nil =>
      obtain ⟨rfl,_⟩ := List.cons.inj hsplit
      cases hraised
    | cons b before => exact h.stops before a after (List.cons.inj hsplit).2 hraised
  failed := by
    intro a ha hraised
    rcases List.mem_cons.mp ha with rfl | ha
    · cases hraised
    · exact h.failed a ha hraised

theorem Unwound.raised {i n : Nat} {e : Exc} {row : ChangeRow}
    (hlog : s'.rollbacks = s.rollbacks ++ [⟨i,some n,.error e⟩])
    (hrow : s'.rows[i]? = some row) (hfailed : row.cr.status = .failed)
    (hlists : report'.rolledBack = report.rolledBack) :
    Unwound s s' ((i,n) :: entries) report report' [⟨i,some n,.error e⟩] where
  logged := hlog
  walked := by simp
  lists := by
    have hskip : ¬RollbackAttempt.returned ⟨i,some n,.error e⟩ = true := by
      simp [RollbackAttempt.returned,Except.isOk,Except.toBool]
    rw [hlists,List.filter_cons_of_neg hskip]
    simp
  stops := by
    intro before a after hsplit _
    cases before with
    | nil => exact (List.cons.inj hsplit).2.symm
    | cons b before => simp at hsplit
  failed := by
    intro a ha _ row' hrow'
    obtain rfl := List.mem_singleton.mp ha
    obtain rfl := Option.some.inj (hrow.symm.trans hrow')
    exact hfailed

theorem unwindChanges_spec (env : Env ω) (report : RollbackAllReport)
    (hnodup : (entries.map Prod.fst).Nodup) (h : s.Applied entries) :
    ∃ report' s' attempts, unwindChanges env report (entries.map Prod.fst) s = (.ok report',s') ∧
      Unwound s s' entries report report' attempts := by
  induction entries generalizing s report with
  | nil =>
    exact ⟨report,s,[],rfl,by simp,by simp,by simp,by simp,by simp⟩
  | cons entry entries ih =>
    obtain ⟨i,n⟩ := entry
    obtain ⟨hi,hnodup⟩ := List.nodup_cons.mp hnodup
    obtain ⟨row,hrow,hseq⟩ := h (i,n) List.mem_cons_self
    have hmarked := modifyRow_get hrow fun row => row.setStatus .executing
    rcases executeRowRollback_cases env hmarked with ⟨result,status,site,hexec⟩ | ⟨e,site,hexec⟩
    · -- The change is overwritten, and the loop goes on with the others.
      let s₂ := ((s.modifyRow i fun row => row.setStatus .executing).rolledTo i
        (row.setStatus .executing) status site).modifyRow i ChangeRow.unapply
      have hothers : ∀ j, i ≠ j → s₂.rows[j]? = s.rows[j]? := by
        intro j hj
        rw [modifyRow_get_of_ne hj]
        exact (modifyRow_get_of_ne hj _).trans (modifyRow_get_of_ne hj _)
      have hrest : s.Applied entries := fun e he => h e (List.mem_cons_of_mem _ he)
      obtain ⟨report',s',attempts,hrun,hunwound⟩ :=
        ih { report with rolledBack := report.rolledBack ++ [i] } hnodup
          (hrest.of_rows hi hothers)
      refine ⟨report',s',⟨i,some n,.ok status⟩ :: attempts,?_,.cons ?_ hunwound⟩
      · rw [List.map_cons,unwindChanges,Py.modify_bind,Py.attempt_bind,hexec]
        exact hrun
      · rw [← hseq]
        rfl
    · have hend := modifyRow_get (s := (s.modifyRow i fun row => row.setStatus .executing).raised i
        (row.setStatus .executing) e site) hmarked fun row => row.setStatus .failed
      refine ⟨{ report with failedAt := some i, errors := report.errors ++ [(i,e)] },_,
        [⟨i,some n,.error e⟩],?_,.raised ?_ hend rfl rfl⟩
      · rw [List.map_cons,unwindChanges,Py.modify_bind,Py.attempt_bind,hexec]
        rfl
      · rw [← hseq]
        rfl

theorem appliedChanges_applied (s : ChangeStore ω) (organizationId assetId : Uuid) :
    s.Applied (s.appliedChanges organizationId assetId) := by
  intro e he
  rw [ChangeStore.appliedChanges,List.mem_insertionSort,List.mem_filterMap] at he
  obtain ⟨⟨row,i⟩,hmem,hentry⟩ := he
  split at hentry
  · obtain ⟨n,hn,rfl⟩ := Option.map_eq_some_iff.mp hentry
    exact ⟨row,List.mk_mem_zipIdx_iff_getElem?.mp hmem,hn⟩
  · cases hentry

theorem appliedChanges_nodup (s : ChangeStore ω) (organizationId assetId : Uuid) :
    ((s.appliedChanges organizationId assetId).map Prod.fst).Nodup := by
  have hplaces : s.rows.zipIdx.Pairwise fun a b => a.2 ≠ b.2 := by
    rw [← List.pairwise_map,List.zipIdx_map_snd]
    exact List.nodup_range'
  rw [ChangeStore.appliedChanges,((List.perm_insertionSort _ _).map Prod.fst).nodup_iff,
    List.Nodup,List.pairwise_map]
  refine hplaces.filterMap _ fun a b hab x hx y hy => ?_
  split at hx
  · obtain ⟨n,_,rfl⟩ := Option.map_eq_some_iff.mp hx
    split at hy
    · obtain ⟨m,_,rfl⟩ := Option.map_eq_some_iff.mp hy
      exact hab
    · cases hy
  · cases hx

theorem appliedChanges_sorted (s : ChangeStore ω) (organizationId assetId : Uuid) :
    (s.appliedChanges organizationId assetId).Pairwise fun a b => b.2 ≤ a.2 := by
  have : Std.Total fun a b : Nat × Nat => b.2 ≤ a.2 := ⟨fun a b => Nat.le_total b.2 a.2⟩
  have : IsTrans (Nat × Nat) fun a b => b.2 ≤ a.2 := ⟨fun _ _ _ h₁ h₂ => Nat.le_trans h₂ h₁⟩
  exact List.pairwise_insertionSort _ _

/-- The attempts of the loop went down the stack, as far as their sequences differ. -/
theorem Unwound.decreasing (h : Unwound s s' entries report report' attempts)
    (hsorted : entries.Pairwise fun a b => b.2 ≤ a.2) :
    (attempts.Pairwise fun a b => ∃ m n, a.sequence = some m ∧ b.sequence = some n ∧ n < m) ↔
      attempts.Pairwise fun a b => a.sequence ≠ b.sequence := by
  have hweak : attempts.Pairwise fun a b =>
      ∃ m n, a.sequence = some m ∧ b.sequence = some n ∧ n ≤ m := by
    have hentries : (entries.map fun e => (e.1,some e.2)).Pairwise fun a b =>
        ∃ m n, a.2 = some m ∧ b.2 = some n ∧ n ≤ m :=
      List.pairwise_map.mpr (hsorted.imp fun hle => ⟨_,_,rfl,rfl,hle⟩)
    exact List.pairwise_map.mp (hentries.sublist h.walked.sublist)
  constructor
  · intro hstrict
    refine hstrict.imp fun {a b} hab => ?_
    obtain ⟨m,n,ha,hb,hlt⟩ := hab
    rw [ha,hb]
    simp
    omega
  · intro hdistinct
    refine (hweak.and hdistinct).imp fun {a b} hab => ?_
    obtain ⟨⟨m,n,ha,hb,hle⟩,hne⟩ := hab
    have hmn : m ≠ n := fun heq => hne (by rw [ha,hb,heq])
    exact ⟨m,n,ha,hb,by omega⟩

theorem Unwound.place_inj (h : Unwound s s' entries report report' attempts)
    (hnodup : (entries.map Prod.fst).Nodup) {a b : RollbackAttempt} (ha : a ∈ attempts)
    (hb : b ∈ attempts) (hab : a.place = b.place) : a = b := by
  have hplaces : (attempts.map RollbackAttempt.place).Nodup := by
    have hwalked := h.walked.map Prod.fst
    simp only [List.map_map] at hwalked
    exact hnodup.sublist hwalked.sublist
  exact List.inj_on_of_nodup_map hplaces ha hb hab

theorem RollbackAttempt.returned_of_succeeded {a : RollbackAttempt} (h : a.succeeded = true) :
    a.returned = true := by
  unfold RollbackAttempt.succeeded at h
  split at h
  · rename_i hended
    rw [RollbackAttempt.returned,hended]
    rfl
  · cases h

theorem unwindTruthful_iff (h : Unwound s s' entries {} report attempts)
    (hnodup : (entries.map Prod.fst).Nodup) (hsorted : entries.Pairwise fun a b => b.2 ≤ a.2) :
    UnwindTruthful s s' report ↔
      WellEnded s s' ∧ (s.newRollbacks s').Pairwise fun a b => a.sequence ≠ b.sequence := by
  have hnew : s.newRollbacks s' = attempts := newRollbacks_of_append h.logged
  have hlisted : ∀ i, i ∈ report.rolledBack ↔ ∃ a ∈ attempts, a.place = i ∧ a.returned = true := by
    intro i
    rw [h.lists]
    simp only [List.nil_append,List.mem_map,List.mem_filter]
    exact exists_congr fun a => ⟨fun ⟨⟨ha,hr⟩,hp⟩ => ⟨ha,hp,hr⟩,fun ⟨ha,hp,hr⟩ => ⟨⟨ha,hr⟩,hp⟩⟩
  rw [WellEnded,hnew]
  constructor
  · intro htrue
    have hlists := htrue.lists
    have hdecreasing := htrue.decreasing
    rw [hnew] at hlists hdecreasing
    refine ⟨fun a ha hreturned => ?_,(h.decreasing hsorted).mp hdecreasing⟩
    obtain ⟨b,hb,hplace,hsucc⟩ := (hlists a.place).mp ((hlisted a.place).mpr ⟨a,ha,rfl,hreturned⟩)
    rwa [← h.place_inj hnodup hb ha hplace]
  · intro ⟨hwell,hdistinct⟩
    have hraised : ∀ a ∈ attempts, a.succeeded = false → a.returned = false := by
      intro a ha hsucc
      cases hr : a.returned with
      | false => rfl
      | true =>
        rw [hwell a ha hr] at hsucc
        cases hsucc
    constructor
    · intro i
      rw [hlisted,hnew]
      exact exists_congr fun a => and_congr_right fun ha => and_congr_right fun _ =>
        ⟨hwell a ha,RollbackAttempt.returned_of_succeeded⟩
    · rw [hnew]
      exact (h.decreasing hsorted).mpr hdistinct
    · intro before a after hsplit hsucc
      rw [hnew] at hsplit
      exact h.stops before a after hsplit (hraised a (by simp [hsplit]) hsucc)
    · rw [hnew]
      intro a ha hsucc row hrow
      rw [h.failed a ha (hraised a ha hsucc) row hrow]
      decide

end Unwind

/-- The rollback of an asset is right exactly when no rollback has returned without success and no
two of the changes it undid shared their place on the stack. -/
theorem asset_truthful_iff {env : Env ω} {user : User} {assetId : Uuid} {s : ChangeStore ω} :
    AssetTruthful env user assetId s ↔
      ∀ outcome s', rollbackAll env user assetId s = .ok (outcome,s') →
        WellEnded s s' ∧ (s.newRollbacks s').Pairwise fun a b => a.sequence ≠ b.sequence := by
  refine forall₃_congr fun outcome s' hcall => ?_
  unfold rollbackAll at hcall
  split at hcall
  · cases hcall
  · split at hcall
    · cases hcall
    · have hnodup := appliedChanges_nodup s user.organizationId assetId
      obtain ⟨report,t,attempts,hrun,hunwound⟩ := unwindChanges_spec env {} hnodup
        (appliedChanges_applied s user.organizationId assetId)
      rw [hrun] at hcall
      obtain ⟨rfl,rfl⟩ := Prod.mk.inj (Except.ok.inj hcall)
      rw [← unwindTruthful_iff hunwound hnodup
        (appliedChanges_sorted s user.organizationId assetId)]
      simp

/-- The ways of rolling back say what became of the changes exactly when no rollback that they run
returns without having fully succeeded, and the changes that the rollback of an asset undoes have
different places on the stack. -/
theorem reports_truthful_iff {env : Env ω} {user : User} {i : Nat} {assetId : Uuid}
    {s : ChangeStore ω} : ReportsTruthful env user i assetId s ↔
      (∀ s₁ run, startManualRollback user i s = .ok (s₁,run) →
        WellEnded s₁ (doRollback env i run s₁).2) ∧
      (∀ status result s', mcpRollbackChangeRequest env user i s = .ok (status,result,s') →
        WellEnded s s') ∧
      ∀ outcome s', rollbackAll env user assetId s = .ok (outcome,s') →
        WellEnded s s' ∧ (s.newRollbacks s').Pairwise fun a b => a.sequence ≠ b.sequence := by
  rw [← manual_truthful_iff,← mcp_truthful_iff,← asset_truthful_iff]
  exact ⟨fun h => ⟨h.manual,h.mcp,h.asset⟩,fun h => ⟨h.1,h.2.1,h.2.2⟩⟩

/-- A completed change on an asset, for which there is no way to undo it. -/
def sampleApplied : ChangeStore Unit where
  rows := [⟨⟨"cr-1","org-1","user-1",.generic "catalog_action",["asset-1"],[],.completed,some .low,
    none,some 1⟩,[⟨"wf-1",.completed,[]⟩]⟩]
  connectors := []
  site := ⟨[⟨"asset-1","org-1",none,"host","server","prod","high",.null,[]⟩],[],[],[],()⟩
  rollbacks := []

def sampleRollbackAdmin : User := ⟨"user-2","org-1",.admin⟩

/-- The rollback of the change fails, and everybody is told that it was rolled back. -/
theorem failed_rollback_reported :
    (executeRowRollback noModules 0 sampleApplied).2.rollbacks.map RollbackAttempt.ended =
        [.ok .rollbackFailed] ∧
      ¬ManualTruthful noModules sampleRollbackAdmin 0 sampleApplied ∧
      ¬McpTruthful noModules sampleRollbackAdmin 0 sampleApplied ∧
      ¬AssetTruthful noModules sampleRollbackAdmin "asset-1" sampleApplied ∧
      ¬ReportsTruthful noModules sampleRollbackAdmin 0 "asset-1" sampleApplied := by
  have hmanual : ¬ManualTruthful noModules sampleRollbackAdmin 0 sampleApplied := by
    intro h
    obtain ⟨row,hrow,hstatus⟩ := (h _ _ rfl).mp ⟨_,_,rfl,rfl,rfl⟩
    obtain rfl := Option.some.inj hrow
    cases hstatus
  refine ⟨rfl,hmanual,fun h => ?_,fun h => ?_,fun h => hmanual h.manual⟩
  · obtain ⟨row,hrow,hstatus⟩ := (h _ _ _ rfl).mp rfl
    obtain rfl := Option.some.inj hrow
    cases hstatus
  · obtain ⟨report,hreport,htrue⟩ := h _ _ rfl
    obtain rfl := Except.ok.inj hreport
    exact htrue.keeps ⟨0,some 1,.ok .rollbackFailed⟩ List.mem_cons_self rfl _ rfl rfl

end Nexplane
