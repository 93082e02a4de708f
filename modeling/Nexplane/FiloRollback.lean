import Nexplane.RollbackStack

set_option autoImplicit false

/-! Manual rollbacks in the order of the rollback stack: what has completed last on an asset is
rolled back first. -/

namespace Nexplane
open PyValue Runs Stamps

variable {ω : Type}

def StackState.status (s : StackState ω) (i : Nat) : Option ChangeRequestStatus :=
  s.store.rows[i]?.map fun row => row.cr.status

def StackState.organization (s : StackState ω) (i : Nat) : Option Uuid :=
  s.store.rows[i]?.map fun row => row.cr.organizationId

/-- `j` has completed after `i`, on one of its assets. -/
def StackState.AppliedOver (s : StackState ω) (j i : Nat) : Prop :=
  i ≠ j ∧ s.Shares i j ∧ ∃ a b, s.completedAt i = some a ∧ s.completedAt j = some b ∧ a < b

/-- An accepted manual rollback finds every change applied over its own rolled back. -/
def LastInFirstOut (t : Transition (StackState ω) StackEvent) : Prop :=
  ∀ user i j, t.label = .manualRollback user i → t.pre.AppliedOver j i →
    t.pre.status j = some .rolledBack

/-- The check of a manual rollback of `i` can see `j`: both have the place that their last
completion took, in one organization, and `j` is completed or rolled back. -/
structure StackState.Visible (s : StackState ω) (i j : Nat) : Prop where
  organization : s.organization j = s.organization i
  stamped : s.stampedAt i = s.completedAt i ∧ s.stampedAt j = s.completedAt j
  status : s.status j = some .completed ∨ s.status j = some .rolledBack

/-- No two completions on an asset overlap, and a manual rollback is asked for when its check can
see every change applied over its own. -/
def InSight (s : StackState ω) : StackEvent → Prop
  | .updateRead t => ReadsAlone s (.updateRead t)
  | .manualRollback _ i => ∀ j, s.AppliedOver j i → s.Visible i j
  | _ => True

theorem InSight.readsAlone {s : StackState ω} {e : StackEvent} (h : InSight s e) :
    ReadsAlone s e := by
  cases e with
  | updateRead t => exact h
  | _ => trivial

section Check

variable {s : StackState ω} {user : User} {i j : Nat}

theorem startManualRollback_unblocked {store store' : ChangeStore ω} {run : Nat}
    (h : startManualRollback user i store = .ok (store',run)) :
    ∃ row, store.rows[i]? = some row ∧ row.cr.organizationId = user.organizationId ∧
      store.blocksRollback user i row = false := by
  obtain ⟨row,hrow,hblocks,_⟩ := startManualRollback_accepted h
  obtain ⟨hget,horg⟩ := Option.filter_eq_some_iff.mp hrow
  exact ⟨row,hget,by simpa using horg,hblocks⟩

/-- The check refuses while a later change on one of the assets is completed. -/
theorem blocksRollback_later {store : ChangeStore ω} {row other : ChangeRow} {m n : Nat}
    (hne : j ≠ i) (hother : store.rows[j]? = some other)
    (horg : other.cr.organizationId = user.organizationId) (hdone : other.cr.status = .completed)
    (hm : row.cr.applicationSequence = some m) (hn : other.cr.applicationSequence = some n)
    (hlt : m < n) (hshares : ∃ asset ∈ other.cr.targetAssetIds, asset ∈ row.cr.targetAssetIds) :
    store.blocksRollback user i row = true := by
  rw [ChangeStore.blocksRollback,hm]
  refine List.any_eq_true.mpr ⟨other,List.mem_eraseIdx_iff_getElem?.mpr ⟨j,hne,hother⟩,?_⟩
  simpa [horg,hdone,hn,hlt] using hshares

theorem StackState.AppliedOver.sequences (hi : StackInv s) (h : s.AppliedOver j i)
    (hsight : s.Visible i j) :
    ∃ m n, s.sequence i = some m ∧ s.sequence j = some n ∧ m < n := by
  obtain ⟨hne,hshares,a,b,ha,hb,hlt⟩ := h
  have htaken : ∀ k c, s.stampedAt k = some c → ∃ m, s.sequence k = some m := by
    intro k c hk
    refine Option.ne_none_iff_exists'.mp fun hnone => ?_
    rw [(hi.stamped k).mp hnone] at hk
    cases hk
  have hai : s.stampedAt i = some a := hsight.stamped.1.trans ha
  have hbj : s.stampedAt j = some b := hsight.stamped.2.trans hb
  obtain ⟨m,hm⟩ := htaken i a hai
  obtain ⟨n,hn⟩ := htaken j b hbj
  exact ⟨m,n,hm,hn,hi.ordered i j m n a b hne hshares hm hn hai hbj hlt⟩

theorem manualRollback_lastIn {env : Env ω} {s' : StackState ω} (hi : StackInv s)
    (hG : InSight s (.manualRollback user i))
    (h : stackStep env s (.manualRollback user i) = some s') (hover : s.AppliedOver j i) :
    s.status j = some .rolledBack := by
  have hsight := hG j hover
  rcases hsight.status with hdone | hback
  · obtain ⟨store,run,hstart,_⟩ := manualRollback_accepted h
    obtain ⟨row,hrow,horg,hblocks⟩ := startManualRollback_unblocked hstart
    obtain ⟨m,n,hm,hn,hlt⟩ := hover.sequences hi hsight
    obtain ⟨row',hrow',hm,hti⟩ := sequence_some hm
    obtain rfl : row = row' := Option.some.inj (hrow.symm.trans hrow')
    obtain ⟨other,hother,hn,htj⟩ := sequence_some hn
    have hsame : other.cr.organizationId = row.cr.organizationId := by
      simpa [StackState.organization,hrow,hother] using hsight.organization
    have hstatus : other.cr.status = .completed := by
      simpa [StackState.status,hother] using hdone
    have hshares := hover.2.1.symm
    rw [StackState.Shares,hti,htj] at hshares
    rw [blocksRollback_later (Ne.symm hover.1) hother (hsame.trans horg) hstatus hm hn hlt
      hshares] at hblocks
    cases hblocks
  · exact hback

end Check

/-- In every run of which each step is in sight of the checks, manual rollbacks go last in, first
out. -/
theorem manual_rollbacks_last_in_first_out {env : Env ω}
    {tr : List (Transition (StackState ω) StackEvent)} {s : StackState ω}
    (h : Run (stackSystem env) tr s) (hG : ∀ t ∈ tr, InSight t.pre t.label) :
    ∀ t ∈ tr, LastInFirstOut t := by
  intro t ht
  obtain ⟨hi,hs⟩ := h.transition_guarded (stackInv_inductive env)
    (fun t ht => (hG t ht).readsAlone) t ht
  intro user i j hlabel hover
  have hguard := hG t ht
  rw [hlabel] at hs hguard
  have hstep : stackStep env t.pre (.manualRollback user i) = some t.post := hs
  exact manualRollback_lastIn hi hguard hstep hover

/-- The later of two completed changes is rolled back before the earlier one. -/
def sampleUnwound : List StackEvent :=
  sampleCompletions ++
    [.manualRollback sampleRollbackAdmin 1,.rollbackTask 0,.manualRollback sampleRollbackAdmin 0]

theorem sampleUnwound_inSight :
    (stackSystem noModules).Meets InSight (sampleExecuting sampleTypes) sampleUnwound := by
  refine ⟨trivial,?_,trivial,trivial,?_,trivial,?_,trivial,?_,trivial⟩
  · rintro i cr (_ | t) j cr' m _ hread <;> cases hread
  · rintro i cr (_ | _ | t) j cr' m _ hread <;> cases hread
  · rintro (_ | _ | j) ⟨hne,_,a,b,ha,hb,hlt⟩
    · obtain rfl := Option.some.inj ha
      obtain rfl := Option.some.inj hb
      exact absurd hlt (by decide)
    · exact absurd rfl hne
    · cases hb
  · rintro (_ | _ | j) ⟨hne,_,a,b,ha,hb,hlt⟩
    · exact absurd rfl hne
    · exact ⟨rfl,⟨rfl,rfl⟩,Or.inr rfl⟩
    · cases hb

theorem sample_last_in_first_out :
    ∃ (tr : List (Transition (StackState Unit) StackEvent)) (s : StackState Unit),
      Run (stackSystem noModules) tr s ∧
        tr.map Transition.label = sampleUnwound.reverse ∧ ∀ t ∈ tr, LastInFirstOut t := by
  have hrun : (stackSystem noModules).replay (sampleExecuting sampleTypes) sampleUnwound =
      some _ := rfl
  have h := (Run.start (sampleExecuting_start sampleTypes)).replay hrun
  exact ⟨_,_,h,rfl,manual_rollbacks_last_in_first_out h
    (System.history_meets sampleUnwound_inSight (by simp))⟩

/-- A rotation that an operator completes by skipping its failed step takes no place, so that the
change under it can be rolled back first. -/
def sampleSkipped : List StackEvent :=
  [.updateSelect 0 0,.updateRead 0,.updateCommit 0,.writeStatus 1 .paused,
    .decide sampleRollbackAdmin 1 .skipStep,.manualRollback sampleRollbackAdmin 0]

theorem skipped_step_rolled_over :
    ¬∀ (tr : List (Transition (StackState Unit) StackEvent)) (s : StackState Unit),
      Run (stackSystem noModules) tr s → ∀ t ∈ tr, LastInFirstOut t := by
  intro hall
  have hrun : (stackSystem noModules).replay (sampleExecuting sampleTypes) sampleSkipped =
      some _ := rfl
  have h := (Run.start (sampleExecuting_start sampleTypes)).replay hrun
  have hlast := hall _ _ h _ List.mem_cons_self sampleRollbackAdmin 0 1 rfl
  have hshared : ∃ asset ∈ ["asset-1"], asset ∈ ["asset-1"] := ⟨"asset-1",by simp⟩
  have hback := hlast ⟨by decide,hshared,0,1,rfl,rfl,by decide⟩
  cases hback

end Nexplane
