import Nexplane.Lib.Checks
import Nexplane.Lib.Lists
import Nexplane.ReviewCampaigns

set_option autoImplicit false

/-! Which statuses of a review campaign are final, and that a decided campaign is moved on, over
every run whose commits and counts are in time. -/

namespace Nexplane
open PyValue Runs

/-- The collector has put the campaign into review. -/
def Collected (tr : List (Transition ReviewState ReviewEvent)) : Prop :=
  ∃ t ∈ tr, t.post.row.status = .inReview

/-- The laws of a campaign in state `s` after the steps `tr`. -/
structure ReviewLaws (tr : List (Transition ReviewState ReviewEvent)) (s : ReviewState) : Prop where
  cancelled : ∀ t ∈ tr, t.pre.row.status = .cancelled → t.post.row.status = .cancelled
  completed : ∀ t ∈ tr, t.pre.row.status = .completed →
    t.post.row = t.pre.row ∧ t.post.entries = t.pre.entries ∧ t.post.revocations = t.pre.revocations
  settled : s.requests = [] → Collected tr → s.row.status ≠ .cancelled →
    (∀ e ∈ s.entries, e.decision ≠ none) →
      s.row.status = .awaitingApproval ∨ s.row.status = .completed

/-- The request decides the entry, has counted and leaves the campaign in review. -/
def ReviewRequest.Passed (r : ReviewRequest) (entryId : Uuid) : Prop :=
  r.campaign.status = .inReview ∧ ∃ d entry, r.phase = .deciding d entry ∧ d.entryId = entryId

/-- The commit of the request finds the campaign where its status still lets it. A collection is
not empty. -/
def ReviewState.InTime (s : ReviewState) (r : ReviewRequest) : Prop :=
  match r.phase with
  | .launching => s.row.status = .draft
  | .cancelling => s.row.status ≠ .completed
  | .collected entries =>
    s.row.status = .collecting ∧
      (r.campaign.status = .inReview → ∃ e ∈ s.entries ++ entries, e.decision = none)
  | .deciding _ _ =>
    s.row.status ≠ .completed ∧
      (s.row.status = .cancelled → r.campaign.status = r.loaded.status)
  | .revoking _ _ _ => s.row.status = .awaitingApproval
  | _ => True

/-- A decision in review that counts undecided entries counts one that no request is about to
decide without another count. -/
def ReviewState.CountsRest (s : ReviewState) (r : ReviewRequest) : Prop :=
  match r.phase with
  | .counting d entry =>
    s.row.status = .inReview → ReviewState.pending (s.decided d entry) ≠ 0 →
      ∃ e ∈ s.entries, e.decision = none ∧ e.id ≠ d.entryId ∧ ∀ q ∈ s.requests, ¬q.Passed e.id
  | _ => True

def ReviewsInTime (s : ReviewState) : ReviewEvent → Prop
  | .commit i _ => ∀ r, s.requests[i]? = some r → s.InTime r
  | .count i => ∀ r, s.requests[i]? = some r → s.CountsRest r
  | _ => True

inductive ReviewKind where
  | launch
  | cancel
  | collection
  | decision
  | approval
  deriving DecidableEq

def ReviewPhase.kind : ReviewPhase → ReviewKind
  | .launching => .launch
  | .cancelling => .cancel
  | .scheduled | .collecting | .collected _ => .collection
  | .selecting _ | .updating _ _ | .counting _ _ | .deciding _ _ => .decision
  | .checking _ | .choosing _ | .revoking _ _ _ => .approval

/-- What a request has loaded and assigned, and where the campaign can be meanwhile. -/
def ReviewRequest.Fits (r : ReviewRequest) (status : ReviewStatus) : Prop :=
  match r.phase.kind with
  | .launch => r.loaded.status = .draft ∧ r.campaign.status = .collecting
  | .cancel => r.campaign.status = .cancelled
  | .collection =>
    (status = .collecting ∨ status = .cancelled) ∧
      (r.loaded.status = .collecting ∨ r.loaded.status = .cancelled)
  | .decision =>
    status ≠ .draft ∧ status ≠ .collecting ∧
      (r.loaded.status = .inReview ∨ r.loaded.status = .awaitingApproval ∧ status ≠ .inReview) ∧
      (r.campaign.status = r.loaded.status ∨ r.campaign.status = .awaitingApproval)
  | .approval =>
    r.loaded.status = .awaitingApproval ∧
      (status = .awaitingApproval ∨ status = .completed ∨ status = .cancelled)

/-- A collection is put into review, or the campaign back to the drafts. -/
def ReviewRequest.Gathered (r : ReviewRequest) : Prop :=
  ∀ entries, r.phase = .collected entries →
    r.campaign.status = .inReview ∨ r.campaign.status = .draft

/-- There is one collector at most, and in review an undecided entry is left that no request is
about to decide without another count. -/
structure ReviewInvariant (status : ReviewStatus) (entries : List ReviewEntry)
    (requests : List ReviewRequest) : Prop where
  fits : ∀ r ∈ requests, r.Fits status ∧ r.Gathered
  collector : requests.countP (·.phase.kind = .collection) ≤ 1
  left : status = .inReview → ∃ e ∈ entries, e.decision = none ∧ ∀ r ∈ requests, ¬r.Passed e.id

section Requests

variable {r q : ReviewRequest} {status status' : ReviewStatus} {id : Uuid}

theorem ReviewRequest.Passed.kind (h : r.Passed id) : r.phase.kind = .decision := by
  obtain ⟨-,d,entry,hphase,-⟩ := h
  rw [hphase]
  rfl

theorem ReviewRequest.not_passed (h : r.phase.kind ≠ .decision) : ¬r.Passed id :=
  fun hpassed => h hpassed.kind

theorem ReviewRequest.gathered (h : r.phase.kind ≠ .collection) : r.Gathered := by
  intro entries hphase
  simp [hphase,ReviewPhase.kind] at h

theorem ReviewRequest.Fits.launched (h : q.Fits .draft) :
    q.Fits .collecting ∧ q.phase.kind ≠ .collection := by
  unfold ReviewRequest.Fits at *
  cases hkind : q.phase.kind <;> simp_all

theorem ReviewRequest.Fits.cancelled (h : q.Fits status) : q.Fits .cancelled := by
  unfold ReviewRequest.Fits at *
  cases hkind : q.phase.kind <;> simp_all
  exact h.2.2.1.imp_right And.left

/-- While the campaign is collected nobody decides or approves. -/
theorem ReviewRequest.Fits.collected (h : q.Fits .collecting) (hkind : q.phase.kind ≠ .collection) :
    q.Fits status' := by
  unfold ReviewRequest.Fits at *
  cases hq : q.phase.kind <;> simp_all

theorem ReviewRequest.Fits.undecided (h : q.Fits .collecting) : ¬q.Passed id := by
  refine ReviewRequest.not_passed fun hkind => ?_
  simp [ReviewRequest.Fits,hkind] at h

theorem ReviewRequest.Fits.moved (h : q.Fits status) (hcollecting : status ≠ .collecting)
    (hcancelled : status ≠ .cancelled) (hreviewed : status ≠ .draft) :
    q.Fits .awaitingApproval := by
  unfold ReviewRequest.Fits at *
  cases hkind : q.phase.kind <;> simp_all
  exact h.1.imp_right And.left

theorem ReviewRequest.Fits.approved (h : q.Fits .awaitingApproval) : q.Fits .completed := by
  unfold ReviewRequest.Fits at *
  cases hkind : q.phase.kind <;> simp_all

end Requests

section Invariant

variable {status status' : ReviewStatus} {entries entries' : List ReviewEntry}
  {requests : List ReviewRequest} {r r' : ReviewRequest} {i : Nat}

theorem ReviewInvariant.drop (h : ReviewInvariant status entries requests) (i : Nat) :
    ReviewInvariant status entries (requests.eraseIdx i) where
  fits r hr := h.fits r (List.mem_of_mem_eraseIdx hr)
  collector := Nat.le_trans (List.eraseIdx_sublist requests i).countP_le h.collector
  left hstatus := by
    obtain ⟨e,he,hnone,hpassed⟩ := h.left hstatus
    exact ⟨e,he,hnone,fun q hq => hpassed q (List.mem_of_mem_eraseIdx hq)⟩

theorem ReviewInvariant.move (h : ReviewInvariant status entries requests)
    (hfits : ∀ q ∈ requests, q.Fits status → q.Fits status')
    (hleft : status' = .inReview →
      ∃ e ∈ entries', e.decision = none ∧ ∀ q ∈ requests, ¬q.Passed e.id) :
    ReviewInvariant status' entries' requests where
  fits q hq := ⟨hfits q hq (h.fits q hq).1,(h.fits q hq).2⟩
  collector := h.collector
  left := hleft

theorem ReviewInvariant.add (h : ReviewInvariant status entries requests) (hfits : r.Fits status)
    (hcollection : r.phase.kind ≠ .collection) (hpassed : ∀ id, ¬r.Passed id) :
    ReviewInvariant status entries (requests ++ [r]) where
  fits q hq := by
    rcases List.mem_append.mp hq with hq | hq
    · exact h.fits q hq
    · obtain rfl := List.mem_singleton.mp hq
      exact ⟨hfits,ReviewRequest.gathered hcollection⟩
  collector := by
    have hcount := h.collector
    simp only [List.countP_append,List.countP_singleton,hcollection,decide_false]
    simpa using hcount
  left hstatus := by
    obtain ⟨e,he,hnone,hleft⟩ := h.left hstatus
    refine ⟨e,he,hnone,fun q hq => ?_⟩
    rcases List.mem_append.mp hq with hq | hq
    · exact hleft q hq
    · obtain rfl := List.mem_singleton.mp hq
      exact hpassed e.id

theorem ReviewInvariant.set (h : ReviewInvariant status entries requests)
    (hr : requests[i]? = some r) (hfits : r'.Fits status) (hgathered : r'.Gathered)
    (hkind : r'.phase.kind = r.phase.kind)
    (hleft : status = .inReview → ∃ e ∈ entries, e.decision = none ∧ ¬r'.Passed e.id ∧
      ∀ q ∈ requests, ¬q.Passed e.id) :
    ReviewInvariant status entries (requests.set i r') where
  fits q hq := by
    rcases Lists.mem_set_cases hq with rfl | hq
    · exact ⟨hfits,hgathered⟩
    · exact h.fits q hq
  collector := by
    have hcount := h.collector
    rw [(Lists.perm_cons_eraseIdx hr).countP_eq] at hcount
    rw [(Lists.set_perm_cons_eraseIdx hr r').countP_eq]
    simpa only [List.countP_cons,hkind] using hcount
  left hstatus := by
    obtain ⟨e,he,hnone,hnew,hold⟩ := hleft hstatus
    refine ⟨e,he,hnone,fun q hq => ?_⟩
    rcases Lists.mem_set_cases hq with rfl | hq
    · exact hnew
    · exact hold q hq

/-- A request that goes on without having counted. -/
theorem ReviewInvariant.advance (h : ReviewInvariant status entries requests)
    (hr : requests[i]? = some r) (hfits : r'.Fits status) (hgathered : r'.Gathered)
    (hkind : r'.phase.kind = r.phase.kind) (hpassed : ∀ id, ¬r'.Passed id) :
    ReviewInvariant status entries (requests.set i r') := by
  refine h.set hr hfits hgathered hkind fun hstatus => ?_
  obtain ⟨e,he,hnone,hleft⟩ := h.left hstatus
  exact ⟨e,he,hnone,hpassed e.id,hleft⟩

theorem ReviewInvariant.others (h : ReviewInvariant status entries requests)
    (hr : requests[i]? = some r) (hkind : r.phase.kind = .collection) :
    ∀ q ∈ requests.eraseIdx i, q.phase.kind ≠ .collection := by
  have hcount := h.collector
  rw [(Lists.perm_cons_eraseIdx hr).countP_eq,List.countP_cons] at hcount
  have hnone : (requests.eraseIdx i).countP (·.phase.kind = .collection) = 0 := by
    simp only [hkind,decide_true,if_true] at hcount
    omega
  intro q hq
  simpa using List.countP_eq_zero.mp hnone q hq

end Invariant

/-- What a step keeps. A campaign that has been in review stays behind the collection. -/
structure ReviewStepKept (s s' : ReviewState) : Prop where
  cancelled : s.row.status = .cancelled → s'.row.status = .cancelled
  completed : s.row.status = .completed →
    s'.row = s.row ∧ s'.entries = s.entries ∧ s'.revocations = s.revocations
  reviewed : s.row.status ≠ .draft ∧ s.row.status ≠ .collecting →
    s'.row.status ≠ .draft ∧ s'.row.status ≠ .collecting
  invariant : ReviewInvariant s'.row.status s'.entries s'.requests

section Steps

variable {s s' : ReviewState} {r : ReviewRequest} {i : Nat}

theorem ReviewInvariant.kept {requests : List ReviewRequest}
    (h : ReviewInvariant s.row.status s.entries requests) :
    ReviewStepKept s { s with requests := requests } where
  cancelled := id
  completed _ := ⟨rfl,rfl,rfl⟩
  reviewed := id
  invariant := h

theorem ReviewRequest.Fits.with_phase {status : ReviewStatus} {phase : ReviewPhase}
    (h : r.Fits status) (hkind : phase.kind = r.phase.kind) :
    ({ r with phase := phase } : ReviewRequest).Fits status := by
  unfold ReviewRequest.Fits at *
  rwa [← hkind] at h

theorem begin_kept {check : Except Exc Unit} {campaign : ReviewCampaign} {phase : ReviewPhase}
    (h : ReviewInvariant s.row.status s.entries s.requests)
    (hs : s.begin check campaign phase = some s') (hcollection : phase.kind ≠ .collection)
    (hpassed : ∀ d entry, phase ≠ .deciding d entry)
    (hfits : check = .ok () →
      ({ loaded := s.row, campaign, phase } : ReviewRequest).Fits s.row.status) :
    ReviewStepKept s s' := by
  unfold ReviewState.begin at hs
  split at hs
  · obtain rfl := Option.some.inj hs
    refine (h.add (hfits rfl) hcollection ?_).kept
    rintro id ⟨-,d,entry,hphase,-⟩
    exact hpassed d entry hphase
  · cases hs

theorem ReviewInvariant.next (h : ReviewInvariant s.row.status s.entries s.requests)
    (hr : s.requests[i]? = some r) {phase : ReviewPhase} (hkind : phase.kind = r.phase.kind)
    (hcollection : phase.kind ≠ .collection) (hpassed : ∀ d entry, phase ≠ .deciding d entry) :
    ReviewStepKept s (s.setRequest i { r with phase := phase }) := by
  have hfits := (h.fits r (List.mem_of_getElem? hr)).1
  refine (h.advance hr (hfits.with_phase hkind) (ReviewRequest.gathered hcollection) hkind ?_).kept
  rintro id ⟨-,d,entry,hphase,-⟩
  exact hpassed d entry hphase

theorem collect_kept (h : ReviewInvariant s.row.status s.entries s.requests)
    (hr : s.requests[i]? = some r) (hs : s.collect i r = some s') : ReviewStepKept s s' := by
  unfold ReviewState.collect at hs
  split at hs
  · next hphase =>
    have hfits := (h.fits r (List.mem_of_getElem? hr)).1
    simp only [ReviewRequest.Fits,hphase,ReviewPhase.kind] at hfits
    obtain rfl := Option.some.inj hs
    refine (h.advance hr ?_ ?_ ?_ ?_).kept
    · exact ⟨hfits.1,hfits.1⟩
    · simp [ReviewRequest.Gathered]
    · simp [hphase,ReviewPhase.kind]
    · simp [ReviewRequest.Passed]
  · cases hs

theorem gather_kept {entries : List ReviewEntry} {failure : Option String}
    (h : ReviewInvariant s.row.status s.entries s.requests) (hr : s.requests[i]? = some r)
    (hs : s.gather i entries failure r = some s') : ReviewStepKept s s' := by
  unfold ReviewState.gather at hs
  split at hs
  · next hphase =>
    have hfits := (h.fits r (List.mem_of_getElem? hr)).1
    simp only [ReviewRequest.Fits,hphase,ReviewPhase.kind] at hfits
    obtain rfl := Option.some.inj hs
    refine (h.advance hr ?_ ?_ ?_ ?_).kept
    · exact hfits
    · cases failure <;> simp [ReviewRequest.Gathered]
    · simp [hphase,ReviewPhase.kind]
    · simp [ReviewRequest.Passed]
  · cases hs

theorem select_kept (h : ReviewInvariant s.row.status s.entries s.requests)
    (hr : s.requests[i]? = some r) (hs : s.select i r = some s') : ReviewStepKept s s' := by
  unfold ReviewState.select at hs
  split at hs
  · next hphase =>
    split at hs
    · obtain rfl := Option.some.inj hs
      exact (h.drop i).kept
    · obtain rfl := Option.some.inj hs
      exact h.next hr (by simp [hphase,ReviewPhase.kind]) (by simp [ReviewPhase.kind]) (by simp)
  · next hphase =>
    obtain rfl := Option.some.inj hs
    exact h.next hr (by simp [hphase,ReviewPhase.kind]) (by simp [ReviewPhase.kind]) (by simp)
  · cases hs

theorem update_kept (h : ReviewInvariant s.row.status s.entries s.requests)
    (hr : s.requests[i]? = some r) (hs : s.update i r = some s') : ReviewStepKept s s' := by
  unfold ReviewState.update at hs
  split at hs
  · next hphase =>
    obtain ⟨-,hs⟩ := Option.ite_none_left_eq_some.mp hs
    obtain rfl := Option.some.inj hs
    exact h.next hr (by simp [hphase,ReviewPhase.kind]) (by simp [ReviewPhase.kind]) (by simp)
  · cases hs

theorem revoke_kept {crId : Uuid} (h : ReviewInvariant s.row.status s.entries s.requests)
    (hr : s.requests[i]? = some r) (hs : s.revoke i crId r = some s') : ReviewStepKept s s' := by
  unfold ReviewState.revoke at hs
  split at hs
  · next hphase =>
    obtain ⟨-,hs⟩ := Option.ite_none_left_eq_some.mp hs
    obtain rfl := Option.some.inj hs
    exact h.next hr (by simp [hphase,ReviewPhase.kind]) (by simp [ReviewPhase.kind]) (by simp)
  · cases hs

theorem count_kept (h : ReviewInvariant s.row.status s.entries s.requests)
    (hr : s.requests[i]? = some r) (hrest : s.CountsRest r) (hs : s.count i r = some s') :
    ReviewStepKept s s' := by
  unfold ReviewState.count at hs
  split at hs
  · next d entry hphase =>
    have hfits := (h.fits r (List.mem_of_getElem? hr)).1
    simp only [ReviewRequest.Fits,hphase,ReviewPhase.kind] at hfits
    simp only [ReviewState.CountsRest,hphase] at hrest
    dsimp only at hs
    obtain rfl := Option.some.inj hs
    refine (h.set hr ?_ ?_ ?_ ?_).kept
    · obtain ⟨hdraft,hcollecting,hloaded,hcampaign⟩ := hfits
      refine ⟨hdraft,hcollecting,hloaded,?_⟩
      dsimp only
      split
      · exact Or.inr rfl
      · exact hcampaign
    · exact ReviewRequest.gathered (by simp [ReviewPhase.kind])
    · simp [hphase,ReviewPhase.kind]
    · intro hreview
      by_cases hpending : ReviewState.pending (s.decided d entry) = 0
      · -- the campaign is moved on with the commit
        obtain ⟨e,he,hnone,hleft⟩ := h.left hreview
        refine ⟨e,he,hnone,?_,hleft⟩
        rintro ⟨hstatus,-⟩
        simp only [hpending,true_and] at hstatus
        split at hstatus
        · cases hstatus
        · next hcampaign => exact hcampaign hstatus
      · obtain ⟨e,he,hnone,hother,hleft⟩ := hrest hreview hpending
        refine ⟨e,he,hnone,?_,hleft⟩
        rintro ⟨-,d',entry',hdeciding,hid⟩
        cases hdeciding
        exact hother hid.symm
  · split at hs
    · obtain rfl := Option.some.inj hs
      exact (h.drop i).kept
    · next hphase _ =>
      obtain rfl := Option.some.inj hs
      exact h.next hr (by simp [hphase,ReviewPhase.kind]) (by simp [ReviewPhase.kind]) (by simp)
  · cases hs

theorem reviewFlush_status (row loaded assigned : ReviewCampaign) :
    (row.flush loaded assigned).status =
      Orm.flushColumn row.status loaded.status assigned.status := rfl

theorem launch_kept (h : ReviewInvariant s.row.status s.entries s.requests)
    (hr : s.requests[i]? = some r) (hphase : r.phase = .launching)
    (hdraft : s.row.status = .draft) {now : Int} (hs : s.commit i now r = some s') :
    ReviewStepKept s s' := by
  have hfits := (h.fits r (List.mem_of_getElem? hr)).1
  simp only [ReviewRequest.Fits,hphase,ReviewPhase.kind] at hfits
  obtain ⟨hloaded,hcampaign⟩ := hfits
  have hrow : (s.row.flush r.loaded r.campaign).status = .collecting := by
    rw [reviewFlush_status,hloaded,hcampaign]
    rfl
  simp only [ReviewState.commit,hphase,Option.some.injEq] at hs
  subst hs
  have hothers := h.drop i
  rw [hdraft] at hothers
  refine ⟨by simp [hdraft],by simp [hdraft],by simp [hdraft],?_,?_,?_⟩
  · intro q hq
    rcases List.mem_append.mp hq with hq | hq
    · obtain ⟨hold,hgathered⟩ := hothers.fits q hq
      rw [hrow]
      exact ⟨hold.launched.1,hgathered⟩
    · obtain rfl := List.mem_singleton.mp hq
      simp [ReviewRequest.Fits,ReviewRequest.Gathered,ReviewPhase.kind,hrow]
  · have hnone : (s.requests.eraseIdx i).countP (·.phase.kind = .collection) = 0 := by
      rw [List.countP_eq_zero]
      intro q hq
      simpa using (hothers.fits q hq).1.launched.2
    rw [List.countP_append,hnone]
    simp [ReviewPhase.kind]
  · intro hreview
    exact absurd (hrow.symm.trans hreview) (by decide)

theorem cancel_kept (h : ReviewInvariant s.row.status s.entries s.requests)
    (hr : s.requests[i]? = some r) (hphase : r.phase = .cancelling)
    (hopen : s.row.status ≠ .completed) {now : Int} (hs : s.commit i now r = some s') :
    ReviewStepKept s s' := by
  have hcampaign := (h.fits r (List.mem_of_getElem? hr)).1
  simp only [ReviewRequest.Fits,hphase,ReviewPhase.kind] at hcampaign
  simp only [ReviewState.commit,hphase,Option.some.injEq] at hs
  have hrow := reviewFlush_status s.row r.loaded r.campaign
  subst hs
  rcases Orm.flushColumn_cases s.row.status r.loaded.status r.campaign.status with
    ⟨-,hflush⟩ | ⟨-,hflush⟩
  · have hsame := hrow.trans hflush
    refine ⟨?_,fun hcompleted => absurd hcompleted hopen,?_,?_⟩
    · exact hsame.trans
    · rw [hsame]
      exact id
    · rw [hsame]
      exact h.drop i
  · have hcancelled := (hrow.trans hflush).trans hcampaign
    refine ⟨fun _ => hcancelled,fun hcompleted => absurd hcompleted hopen,?_,?_⟩
    · simp [hcancelled]
    · rw [hcancelled]
      exact (h.drop i).move (fun q _ hq => hq.cancelled) (by simp)

theorem collection_kept (h : ReviewInvariant s.row.status s.entries s.requests)
    (hr : s.requests[i]? = some r) {entries : List ReviewEntry}
    (hphase : r.phase = .collected entries) (hcollecting : s.row.status = .collecting)
    (hopen : r.campaign.status = .inReview → ∃ e ∈ s.entries ++ entries, e.decision = none)
    {now : Int} (hs : s.commit i now r = some s') : ReviewStepKept s s' := by
  obtain ⟨hfits,hgathered⟩ := h.fits r (List.mem_of_getElem? hr)
  have hcampaign := hgathered entries hphase
  simp only [ReviewRequest.Fits,hphase,ReviewPhase.kind] at hfits
  simp only [ReviewState.commit,hphase,Option.some.injEq] at hs
  have hrow : (s.row.flush r.loaded r.campaign).status = r.campaign.status := by
    rw [reviewFlush_status,Orm.flushColumn,if_neg]
    rcases hfits.2 with hloaded | hloaded <;> rcases hcampaign with hcampaign | hcampaign <;>
      simp [hloaded,hcampaign]
  subst hs
  have hkind := h.others hr (by simp [hphase,ReviewPhase.kind])
  have hothers := h.drop i
  rw [hcollecting] at hothers
  refine ⟨by simp [hcollecting],by simp [hcollecting],by simp [hcollecting],?_⟩
  refine hothers.move (fun q hq hold => hold.collected (hkind q hq)) fun hreview => ?_
  obtain ⟨e,he,hnone⟩ := hopen (hrow.symm.trans hreview)
  exact ⟨e,he,hnone,fun q hq => (hothers.fits q hq).1.undecided⟩

/-- The entries of the others stay as they are. -/
theorem mem_decided {d : DecisionSubmit} {entry e : ReviewEntry} (he : e ∈ s.entries)
    (hid : e.id ≠ d.entryId) : e ∈ s.decided d entry :=
  List.mem_map.mpr ⟨e,he,if_neg hid⟩

theorem decision_kept (h : ReviewInvariant s.row.status s.entries s.requests)
    (hr : s.requests[i]? = some r) {d : DecisionSubmit} {entry : ReviewEntry}
    (hphase : r.phase = .deciding d entry) (hopen : s.row.status ≠ .completed)
    (hstale : s.row.status = .cancelled → r.campaign.status = r.loaded.status) {now : Int}
    (hs : s.commit i now r = some s') : ReviewStepKept s s' := by
  have hfits := (h.fits r (List.mem_of_getElem? hr)).1
  simp only [ReviewRequest.Fits,hphase,ReviewPhase.kind] at hfits
  obtain ⟨hdraft,hcollecting,hloaded,hcampaign⟩ := hfits
  simp only [ReviewState.commit,hphase,Option.some.injEq] at hs
  have hrow := reviewFlush_status s.row r.loaded r.campaign
  subst hs
  rcases Orm.flushColumn_cases s.row.status r.loaded.status r.campaign.status with
    ⟨hkept,hflush⟩ | ⟨hmoved,hflush⟩
  · have hsame := hrow.trans hflush
    refine ⟨hsame.trans,fun hcompleted => absurd hcompleted hopen,?_,?_⟩
    · rw [hsame]
      exact id
    · rw [hsame]
      refine (h.drop i).move (fun q _ hq => hq) fun hreview => ?_
      obtain ⟨e,he,hnone,hleft⟩ := h.left hreview
      have hpassed : r.Passed d.entryId := by
        refine ⟨?_,d,entry,hphase,rfl⟩
        rcases hloaded with hloaded | ⟨-,hreviewed⟩
        · exact hkept.trans hloaded
        · exact absurd hreview hreviewed
      have hid : e.id ≠ d.entryId := by
        intro hid
        exact hleft r (List.mem_of_getElem? hr) (hid ▸ hpassed)
      exact ⟨e,mem_decided he hid,hnone,fun q hq => hleft q (List.mem_of_mem_eraseIdx hq)⟩
  · have hcancelled : s.row.status ≠ .cancelled := fun hcancelled => hmoved (hstale hcancelled)
    have hawaiting := (hrow.trans hflush).trans (hcampaign.resolve_left hmoved)
    refine ⟨fun hc => absurd hc hcancelled,fun hcompleted => absurd hcompleted hopen,?_,?_⟩
    · simp [hawaiting]
    · rw [hawaiting]
      exact (h.drop i).move (fun q _ hq => hq.moved hcollecting hcancelled hdraft) (by simp)

theorem approval_kept (h : ReviewInvariant s.row.status s.entries s.requests)
    (hr : s.requests[i]? = some r) {approverId : Uuid} {todo : List ReviewEntry}
    {created : List (Uuid × ChangeRequest)} (hphase : r.phase = .revoking approverId todo created)
    (hawaiting : s.row.status = .awaitingApproval) {now : Int}
    (hs : s.commit i now r = some s') : ReviewStepKept s s' := by
  have hfits := (h.fits r (List.mem_of_getElem? hr)).1
  simp only [ReviewRequest.Fits,hphase,ReviewPhase.kind] at hfits
  cases todo with
  | cons entry todo => simp [ReviewState.commit,hphase] at hs
  | nil =>
    simp only [ReviewState.commit,hphase,Option.some.injEq] at hs
    subst hs
    have hothers := h.drop i
    rw [hawaiting] at hothers
    refine ⟨by simp [hawaiting],by simp [hawaiting],?_,?_⟩
    · simp [reviewFlush_status,hfits.1,Orm.flushColumn]
    · simp only [reviewFlush_status,hfits.1,Orm.flushColumn,reduceCtorEq,if_false]
      exact hothers.move (fun q _ hq => hq.approved) (by simp)

theorem commit_kept {now : Int} (h : ReviewInvariant s.row.status s.entries s.requests)
    (hr : s.requests[i]? = some r) (hin : s.InTime r) (hs : s.commit i now r = some s') :
    ReviewStepKept s s' := by
  unfold ReviewState.InTime at hin
  split at hin
  · next hphase => exact launch_kept h hr hphase hin hs
  · next hphase => exact cancel_kept h hr hphase hin hs
  · next hphase => exact collection_kept h hr hphase hin.1 hin.2 hs
  · next hphase => exact decision_kept h hr hphase hin.1 hin.2 hs
  · next hphase => exact approval_kept h hr hphase hin hs
  · next hlaunching hcancelling hcollected hdeciding hrevoking =>
    unfold ReviewState.commit at hs
    dsimp only at hs
    split at hs <;> simp_all

theorem launchable_ok {row : ReviewCampaign} {organizationId : Uuid}
    (h : (do assertCampaign row organizationId; launchable row) = .ok ()) :
    row.status = .draft := by
  obtain ⟨-,-,h⟩ := Checks.bind_eq_ok.mp h
  by_contra hstatus
  rw [launchable,if_pos hstatus] at h
  cases h

theorem acceptsDecisions_ok {row : ReviewCampaign} {organizationId : Uuid}
    (h : (do assertCampaign row organizationId; acceptsDecisions row) = .ok ()) :
    row.status = .inReview ∨ row.status = .awaitingApproval := by
  obtain ⟨-,-,h⟩ := Checks.bind_eq_ok.mp h
  by_contra hstatus
  rw [acceptsDecisions,if_pos (not_or.mp hstatus)] at h
  cases h

theorem approvable_ok {row : ReviewCampaign} {organizationId : Uuid}
    (h : (do assertCampaign row organizationId; approvable row) = .ok ()) :
    row.status = .awaitingApproval := by
  obtain ⟨-,-,h⟩ := Checks.bind_eq_ok.mp h
  by_contra hstatus
  rw [approvable,if_pos hstatus] at h
  cases h

theorem review_step_kept {e : ReviewEvent} (h : ReviewInvariant s.row.status s.entries s.requests)
    (hG : ReviewsInTime s e) (hs : reviewSystem.step s e = some s') : ReviewStepKept s s' := by
  cases e with
  | launch organizationId =>
    refine begin_kept h hs (by simp [ReviewPhase.kind]) (by simp) fun hok => ?_
    simp [ReviewRequest.Fits,ReviewPhase.kind,launchable_ok hok]
  | cancel organizationId =>
    refine begin_kept h hs (by simp [ReviewPhase.kind]) (by simp) fun _ => ?_
    simp [ReviewRequest.Fits,ReviewPhase.kind]
  | submit organizationId d =>
    refine begin_kept h hs (by simp [ReviewPhase.kind]) (by simp) fun hok => ?_
    rcases acceptsDecisions_ok hok with hstatus | hstatus <;>
      simp [ReviewRequest.Fits,ReviewPhase.kind,hstatus]
  | approve organizationId approverId =>
    refine begin_kept h hs (by simp [ReviewPhase.kind]) (by simp) fun hok => ?_
    simp [ReviewRequest.Fits,ReviewPhase.kind,approvable_ok hok]
  | collect i =>
    obtain ⟨r,hr,hs⟩ := Option.bind_eq_some_iff.mp hs
    exact collect_kept h hr hs
  | gather i entries failure =>
    obtain ⟨r,hr,hs⟩ := Option.bind_eq_some_iff.mp hs
    exact gather_kept h hr hs
  | select i =>
    obtain ⟨r,hr,hs⟩ := Option.bind_eq_some_iff.mp hs
    exact select_kept h hr hs
  | update i =>
    obtain ⟨r,hr,hs⟩ := Option.bind_eq_some_iff.mp hs
    exact update_kept h hr hs
  | count i =>
    obtain ⟨r,hr,hs⟩ := Option.bind_eq_some_iff.mp hs
    exact count_kept h hr (hG r hr) hs
  | revoke i crId =>
    obtain ⟨r,hr,hs⟩ := Option.bind_eq_some_iff.mp hs
    exact revoke_kept h hr hs
  | commit i now =>
    obtain ⟨r,hr,hs⟩ := Option.bind_eq_some_iff.mp hs
    exact commit_kept h hr (hG r hr) hs
  | fail i =>
    obtain ⟨r,hr,rfl⟩ := Option.map_eq_some_iff.mp hs
    exact (h.drop i).kept

end Steps

theorem review_invariant : InductiveUnder reviewSystem ReviewsInTime fun s =>
    ReviewInvariant s.row.status s.entries s.requests where
  start := by
    rintro s ⟨hdraft,hnone,hidle⟩
    constructor <;> simp [hdraft,hidle]
  step := by
    intro s e s' h hG hs
    exact (review_step_kept h hG hs).invariant

section Runs

variable {tr : List (Transition ReviewState ReviewEvent)} {s : ReviewState}

theorem collected_reviewed (h : Run reviewSystem tr s)
    (hG : ∀ t ∈ tr, ReviewsInTime t.pre t.label) (hcollected : Collected tr) :
    s.row.status ≠ .draft ∧ s.row.status ≠ .collecting := by
  refine h.leaves_under (Q := fun s => s.row.status ≠ .draft ∧ s.row.status ≠ .collecting)
    review_invariant ?_ ?_ hG hcollected
  · intro t _ _ _ hreview
    simp [hreview]
  · intro t hinv ht hs hreviewed
    exact (review_step_kept hinv ht hs).reviewed hreviewed

theorem review_laws_kept (h : Run reviewSystem tr s)
    (hG : ∀ t ∈ tr, ReviewsInTime t.pre t.label) : ReviewLaws tr s := by
  have hsteps : ∀ t ∈ tr, ReviewStepKept t.pre t.post := by
    intro t ht
    obtain ⟨hinv,hs⟩ := h.transition_guarded review_invariant hG t ht
    exact review_step_kept hinv (hG t ht) hs
  refine ⟨fun t ht => (hsteps t ht).cancelled,fun t ht => (hsteps t ht).completed,?_⟩
  intro _ hcollected hopen hdecided
  have hreviewed := collected_reviewed h hG hcollected
  have hinv := h.guarded review_invariant hG
  cases hstatus : s.row.status with
  | draft => exact absurd hstatus hreviewed.1
  | collecting => exact absurd hstatus hreviewed.2
  | inReview =>
    obtain ⟨e,he,hnone,-⟩ := hinv.left hstatus
    exact absurd hnone (hdecided e he)
  | awaitingApproval => exact Or.inl rfl
  | completed => exact Or.inr rfl
  | cancelled => exact absurd hstatus hopen

end Runs

def draftReview : ReviewState where
  row := { id := "c1", organizationId := "o1" }
  entries := []
  revocations := []
  requests := []

theorem run_draftReview : Run reviewSystem [] draftReview := .start ⟨rfl,rfl,rfl⟩

def groupEntry (id : Uuid) : ReviewEntry where
  id := id
  userEmail := "ann@example.com"
  resourceName := "Domain Admins"
  resourceType := "okta"
  connectorId := some "k1"
  permissionLevel := "member"
  isPrivileged := true

def revokeOf (entryId : Uuid) : DecisionSubmit :=
  { entryId, decision := .revoke, note := none, decidedBy := "u1", decidedAt := 2 }

/-- The events up to the review of `entries`. -/
def collects (entries : List ReviewEntry) : List ReviewEvent :=
  [.launch "o1",.commit 0 1,.collect 0,.gather 0 entries none,.commit 0 1]

def reviewing (entries : List ReviewEntry) : ReviewState :=
  { draftReview with row := { draftReview.row with status := .inReview }, entries }

theorem meets_collects : reviewSystem.Meets ReviewsInTime draftReview
    (collects [groupEntry "e1"]) := by
  refine ⟨trivial,?_,trivial,trivial,?_,trivial⟩
  · intro r hr
    obtain rfl := Option.some.inj hr
    rfl
  · intro r hr
    obtain rfl := Option.some.inj hr
    exact ⟨rfl,fun _ => ⟨groupEntry "e1",List.mem_cons_self,rfl⟩⟩

theorem lone_reviewer_kept : ∃ tr s, Run reviewSystem tr s ∧
    s.row.status = .awaitingApproval ∧ s.requests = [] ∧ ReviewLaws tr s := by
  have hcollected : reviewSystem.replay draftReview (collects [groupEntry "e1"]) =
      some (reviewing [groupEntry "e1"]) := rfl
  have hdecided : reviewSystem.replay (reviewing [groupEntry "e1"])
      [.submit "o1" (revokeOf "e1"),.select 0,.update 0,.count 0,.commit 0 2] = some _ := rfl
  have hrun := (run_draftReview.replay hcollected).replay hdecided
  refine ⟨_,_,hrun,rfl,rfl,review_laws_kept hrun ?_⟩
  refine System.history_meets ?_ (System.history_meets meets_collects (by simp))
  refine ⟨trivial,trivial,trivial,?_,?_,trivial⟩
  · intro r hr
    obtain rfl := Option.some.inj hr
    intro _ hpending
    exact absurd rfl hpending
  · intro r hr
    obtain rfl := Option.some.inj hr
    exact ⟨by decide,fun hcancelled => absurd hcancelled (by decide)⟩

/-- A collection that ends after a cancellation, a cancellation that ends after an approval, a
campaign without entries, and two reviewers who count before either commits. -/
theorem review_laws_broken :
    (∃ tr s, Run reviewSystem tr s ∧
      ∃ t ∈ tr, t.pre.row.status = .cancelled ∧ t.post.row.status = .inReview) ∧
    (∃ tr s, Run reviewSystem tr s ∧
      ∃ t ∈ tr, t.pre.row.status = .completed ∧ t.post.row.status = .cancelled) ∧
    (∃ tr s, Run reviewSystem tr s ∧ s.row.status = .inReview ∧ s.requests = [] ∧
      s.entries = [] ∧ ¬ReviewLaws tr s) ∧
    ∃ tr s, Run reviewSystem tr s ∧ s.row.status = .inReview ∧ s.requests = [] ∧
      s.entries.length = 2 ∧ (∀ e ∈ s.entries, e.decision ≠ none) ∧ ¬ReviewLaws tr s := by
  refine ⟨?_,?_,?_,?_⟩
  · have hrun : reviewSystem.replay draftReview
        [.launch "o1",.commit 0 1,.collect 0,.gather 0 [groupEntry "e1"] none,.cancel "o1",
          .commit 1 2,.commit 0 3] = some _ := rfl
    exact ⟨_,_,run_draftReview.replay hrun,_,List.mem_cons_self,rfl,rfl⟩
  · have hcollected : reviewSystem.replay draftReview (collects [groupEntry "e1"]) =
        some (reviewing [groupEntry "e1"]) := rfl
    have hrun : reviewSystem.replay (reviewing [groupEntry "e1"])
        [.submit "o1" (revokeOf "e1"),.select 0,.update 0,.count 0,.commit 0 2,
          .approve "o1" "u2",.count 0,.select 0,.revoke 0 "cr1",.cancel "o1",.commit 0 3,
          .commit 0 4] = some _ := rfl
    exact ⟨_,_,(run_draftReview.replay hcollected).replay hrun,_,List.mem_cons_self,rfl,rfl⟩
  · have hrun : reviewSystem.replay draftReview (collects []) = some (reviewing []) := rfl
    refine ⟨_,_,run_draftReview.replay hrun,rfl,rfl,rfl,fun h => ?_⟩
    have hsettled := h.settled rfl ⟨_,List.mem_cons_self,rfl⟩ (by decide) (by simp [reviewing])
    exact absurd hsettled (by decide)
  · have hcollected : reviewSystem.replay draftReview (collects [groupEntry "e1",groupEntry "e2"]) =
        some (reviewing [groupEntry "e1",groupEntry "e2"]) := rfl
    have hrun : reviewSystem.replay (reviewing [groupEntry "e1",groupEntry "e2"])
        [.submit "o1" (revokeOf "e1"),.submit "o1" (revokeOf "e2"),.select 0,.select 1,.update 0,
          .update 1,.count 0,.count 1,.commit 0 2,.commit 0 3] = some _ := rfl
    have hdecided : ∀ e ∈ [groupEntry "e1",groupEntry "e2"].map fun e =>
        (revokeOf e.id).assign e, e.decision ≠ none := by
      simp [DecisionSubmit.assign]
    refine ⟨_,_,(run_draftReview.replay hcollected).replay hrun,rfl,rfl,rfl,hdecided,fun h => ?_⟩
    have hsettled := h.settled rfl ⟨_,List.mem_cons_self,rfl⟩ (by decide) hdecided
    exact absurd hsettled (by decide)

end Nexplane
