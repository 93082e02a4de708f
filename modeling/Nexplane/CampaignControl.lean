import Nexplane.PatchCampaigns

set_option autoImplicit false

/-! What an operator's pause or abort does to a patch campaign that is under way. -/

namespace Nexplane
open Runs

/-- How many batches have begun. -/
def CampaignTask.begun : CampaignTask → Nat
  | .created | .ended => 0
  | .between _ results => results.length
  | .held _ b => b.results.length
  | .creating _ b | .polling _ b | .gate b => b.results.length + 1

/-- The step creates a change request. -/
def Creates (t : Transition CampaignState CampaignEvent) : Prop :=
  t.pre.changeRequests.length < t.post.changeRequests.length

/-- The campaign obeys the operator in all steps of a run, newest first. -/
structure ObeysOperator (tr : List (Transition CampaignState CampaignEvent)) : Prop where
  aborted : tr.Pairwise fun later earlier => earlier.label = .abort →
    ¬Creates later ∧ later.post.row.status = .aborted
  paused : ∀ later between earlier, (later :: (between ++ [earlier])) <:+: tr →
    earlier.label = .pause → (∀ t ∈ later :: between, t.pre.row.status = .paused) →
    Creates later → later.pre.task.begun ≤ earlier.post.task.begun
  ended : ∀ t ∈ tr, t.pre.row.status = .aborted → t.post.task = .ended →
    t.post.row.status = .aborted

/-- The task has ended, or it reads the status before it next writes it: another batch follows,
and the threshold lets a batch through in which all assets failed. -/
def CampaignState.ReadsFirst (s : CampaignState) : Prop :=
  match s.task with
  | .created => False
  | .between batches _ => batches ≠ []
  | .held _ b | .creating _ b | .polling _ b | .gate b =>
    b.later ≠ [] ∧ 1 ≤ s.row.settings.abortThreshold
  | .ended => True

/-- An abort commits while the task reads the status before it writes it. -/
def AbortsHeard (s : CampaignState) (e : CampaignEvent) : Prop := e = .abort → s.ReadsFirst

/-- An aborted campaign is left alone by its task. -/
structure AbortStands (s : CampaignState) : Prop where
  fruitless : s.Fruitless
  reads : s.row.status = .aborted → s.ReadsFirst

section Steps

variable {s s' : CampaignState} {e : CampaignEvent}

theorem not_creates {t : Transition CampaignState CampaignEvent} (hpost : t.post.Fruitless) :
    ¬Creates t := by
  simp [Creates,hpost.changeRequests]

/-- The task leaves the status of an aborted campaign, or has written it at its end. -/
theorem execute_aborted {lookups : CampaignLookups} (h : s.Fruitless)
    (hreads : s.ReadsFirst) (haborted : s.row.status = .aborted)
    (hs : s.execute lookups = some s') : s'.ReadsFirst ∧ s'.row.status = .aborted := by
  have htask := h.task
  unfold CampaignState.ReadsFirst at hreads
  unfold CampaignState.execute at hs
  cases hat : s.task with
  | created =>
    rw [hat] at hreads
    exact hreads.elim
  | between batches results =>
    rw [hat] at hs hreads
    cases batches with
    | nil => exact absurd rfl hreads
    | cons assetIds later =>
      obtain rfl := Option.some.inj hs
      simp [CampaignState.startBatch,haborted,CampaignState.goto,CampaignState.ReadsFirst]
  | held polls b =>
    rw [hat] at hs hreads
    obtain rfl := Option.some.inj hs
    simpa [CampaignState.awaitResume,haborted,CampaignState.goto,CampaignState.ReadsFirst]
      using hreads
  | creating todo b =>
    rw [hat] at hs hreads
    cases todo with
    | nil =>
      obtain rfl := Option.some.inj hs
      exact ⟨hreads,haborted⟩
    | cons assetId rest =>
      obtain rfl := Option.some.inj hs
      rw [createNext_eq]
      exact ⟨hreads,haborted⟩
  | polling polls b =>
    rw [hat] at hs hreads htask
    obtain rfl := Option.some.inj hs
    rw [awaitCompletion_eq polls htask.crIds]
    exact ⟨hreads,haborted⟩
  | gate b =>
    rw [hat] at hs hreads htask
    obtain rfl := Option.some.inj hs
    have hpassed : ¬(shouldAbort b.result s.row.settings.abortThreshold = true ∧ b.later ≠ []) := by
      rintro ⟨habort,-⟩
      exact not_lt_of_ge hreads.2 ((fruitless_shouldAbort htask.result _).mp habort).2
    simp only [CampaignState.closeBatch,if_neg hpassed]
    exact ⟨hreads.1,haborted⟩
  | ended =>
    rw [hat] at hs
    cases hs

/-- An accepted step on an aborted campaign leaves it aborted. -/
theorem step_aborted (h : AbortStands s) (haborted : s.row.status = .aborted)
    (hs : campaignSystem.step s e = some s') : s'.row.status = .aborted := by
  cases e with
  | pause => simp [campaignSystem,CampaignState.pause,haborted] at hs
  | resume => simp [campaignSystem,CampaignState.resume,haborted] at hs
  | abort =>
    obtain rfl := Option.some.inj hs
    rfl
  | execute lookups => exact (execute_aborted h.fruitless (h.reads haborted) haborted hs).2
  | change crId status =>
    obtain rfl := Option.some.inj hs
    exact haborted

theorem abort_stands : InductiveUnder campaignSystem AbortsHeard AbortStands where
  start := by
    intro s h0
    refine ⟨campaign_fruitless.start s h0,fun haborted => ?_⟩
    rw [h0.1] at haborted
    cases haborted
  step := by
    intro s e s' h hheard hs
    refine ⟨campaign_fruitless.step s e s' h.fruitless hs,fun haborted => ?_⟩
    cases e with
    | pause =>
      obtain ⟨-,hs⟩ := Option.ite_none_right_eq_some.mp hs
      obtain rfl := Option.some.inj hs
      cases haborted
    | resume =>
      obtain ⟨-,hs⟩ := Option.ite_none_right_eq_some.mp hs
      obtain rfl := Option.some.inj hs
      cases haborted
    | abort =>
      obtain rfl := Option.some.inj hs
      exact hheard rfl
    | execute lookups =>
      have hpre := aborted_of_execute hs haborted
      exact (execute_aborted h.fruitless (h.reads hpre) hpre hs).1
    | change crId status =>
      obtain rfl := Option.some.inj hs
      exact h.reads haborted

end Steps

variable {tr : List (Transition CampaignState CampaignEvent)} {s : CampaignState}

theorem transition_not_creates (h : Run campaignSystem tr s) : ∀ t ∈ tr, ¬Creates t := by
  intro t ht
  obtain ⟨hpre,hstep⟩ := h.transition t ht
  exact not_creates ((hpre.step hstep).invariant campaign_fruitless)

theorem campaign_obeys_operator (h : Run campaignSystem tr s)
    (hG : ∀ t ∈ tr, AbortsHeard t.pre t.label) : ObeysOperator tr where
  aborted := by
    have hafter : tr.Pairwise fun later earlier =>
        later.post.row.status ≠ .aborted → ¬earlier.label = .abort := by
      refine Run.never_after (Q := fun s => AbortStands s ∧ s.row.status = .aborted)
        abort_stands ?_ ?_ ?_ h hG
      · intro t hinv hheard hstep hlabel
        refine ⟨abort_stands.step _ _ _ hinv hheard hstep,?_⟩
        rw [hlabel] at hstep
        obtain hpost := Option.some.inj hstep
        rw [← hpost]
        rfl
      · intro t hinv hheard hstep hpre
        exact ⟨abort_stands.step _ _ _ hinv hheard hstep,step_aborted hinv hpre.2 hstep⟩
      · intro t _ hstep hpre hpost
        exact hpost (step_aborted hpre.1 hpre.2 hstep)
    refine hafter.imp_of_mem fun hlater _ hkept habort => ⟨transition_not_creates h _ hlater,?_⟩
    by_contra hne
    exact hkept hne habort
  paused := by
    intro later between earlier hstretch _ _ hcreates
    exact absurd hcreates (transition_not_creates h _ (hstretch.subset List.mem_cons_self))
  ended := by
    intro t ht haborted _
    obtain ⟨hinv,hstep⟩ := h.transition_guarded abort_stands hG t ht
    exact step_aborted hinv haborted hstep

/-- What the database answers when it has a user and no fault. -/
def answeredLookups : CampaignLookups where
  rows := .ok (none,some "u1")
  commit := .ok "cr1"

def oneTarget : CampaignState where
  row := { id := "c1", organizationId := "o1", settings := { targetAssetIds := ["a1"] } }
  changeRequests := []
  task := .created

theorem run_oneTarget : Run campaignSystem [] oneTarget := .start ⟨rfl,rfl,rfl,rfl⟩

/-- An abort between two batches stands. -/
theorem early_abort_obeyed :
    ∃ tr s, Run campaignSystem tr s ∧ s.row.status = .aborted ∧ ObeysOperator tr := by
  have hrun : campaignSystem.replay oneTarget
      [.execute answeredLookups,.abort,.execute answeredLookups] = some _ := rfl
  refine ⟨_,_,run_oneTarget.replay hrun,rfl,?_⟩
  refine campaign_obeys_operator (run_oneTarget.replay hrun) (System.history_meets ?_ (by simp))
  exact ⟨nofun,fun _ => List.cons_ne_nil _ _,nofun,trivial⟩

def lastGate : CampaignState where
  row := { oneTarget.row with status := .aborted }
  changeRequests := []
  task := .gate { assetIds := ["a1"], failedIds := ["a1"], later := [], results := [] }

/-- An abort during the last batch is overwritten at its end. -/
theorem late_abort_overwritten :
    ∃ tr s, Run campaignSystem tr s ∧ s.row.status = .failed ∧ ¬ObeysOperator tr := by
  have hrun : campaignSystem.replay oneTarget
      [.execute answeredLookups,.execute answeredLookups,.abort,.execute answeredLookups,
        .execute answeredLookups,.execute answeredLookups] = some lastGate := rfl
  have hclose : campaignSystem.step lastGate (.execute answeredLookups) = some _ :=
    congrArg some (closeBatch_last rfl)
  have hended := ((run_oneTarget.replay hrun).step hclose).step (a := .execute answeredLookups) rfl
  refine ⟨_,_,hended,rfl,fun h => ?_⟩
  have hkept := h.ended _ List.mem_cons_self rfl rfl
  cases hkept

end Nexplane
