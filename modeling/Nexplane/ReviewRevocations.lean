import Nexplane.Lib.Lists
import Nexplane.ReviewLaws

set_option autoImplicit false

/-! The change requests that the approval of a review campaign creates, against the decisions on its
entries. -/

namespace Nexplane
open PyValue Runs

/-- A request that creates a remediation, with its entry once it has been read. -/
structure RemediationRequest where
  userId : Uuid
  organizationId : Uuid
  entryId : Uuid
  entry : Option ReviewEntry

/-- A collected campaign with what its approvals and its remediations have committed, each change
request with its entry. -/
structure RevocationState where
  review : ReviewState
  approved : List (Uuid × ChangeRequest)
  remediations : List (Uuid × ChangeRequest)
  remediating : List RemediationRequest

inductive RevocationEvent where
  | review (e : ReviewEvent)
  | remediate (organizationId userId entryId : Uuid)
  | readEntry (i : Nat)
  | commitRemediation (i : Nat) (crId : Uuid)
  | failRemediation (i : Nat)

/-- The steps of decisions and approvals. -/
def ReviewEvent.reviews : ReviewEvent → Bool
  | .launch _ | .cancel _ | .collect _ | .gather _ _ _ => false
  | _ => true

/-- What the event commits for an approval. -/
def ReviewState.approvedBy (s : ReviewState) : ReviewEvent → List (Uuid × ChangeRequest)
  | .commit i _ =>
    match s.requests[i]? with
    | some r =>
      match r.phase with
      | .revoking _ _ created => created
      | _ => []
    | none => []
  | _ => []

/-- The change request of `create_remediation_cr`. -/
def remediationCr (r : RemediationRequest) (entry : ReviewEntry) (crId : Uuid) : ChangeRequest where
  id := crId
  organizationId := r.organizationId
  requesterId := r.userId
  changeType := .generic "disable_iam_user"
  targetAssetIds := []
  desiredOutcome := [("user_email",.str entry.userEmail),("resource_name",.str entry.resourceName)]
  status := .draft
  riskLevel := none
  changePlan := none
  applicationSequence := none

namespace RevocationState

def dropRemediation (s : RevocationState) (i : Nat) : RevocationState :=
  { s with remediating := s.remediating.eraseIdx i }

def reviewed (s : RevocationState) (e : ReviewEvent) : Option RevocationState :=
  if e.reviews = true then
    (s.review.step e).map fun review =>
      { s with review, approved := s.approved ++ s.review.approvedBy e }
  else none

def remediate (s : RevocationState) (organizationId userId entryId : Uuid) :
    Option RevocationState :=
  match assertCampaign s.review.row organizationId with
  | .ok _ =>
    some { s with
      remediating := s.remediating ++ [{ userId, organizationId, entryId, entry := none }] }
  | .error _ => none

/-- A request for an entry that is missing or not to be revoked is refused. -/
def readEntry (s : RevocationState) (i : Nat) (r : RemediationRequest) :
    Option RevocationState :=
  match r.entry, s.review.entries.find? fun e => e.id = r.entryId with
  | some _, _ => none
  | none, some entry =>
    if entry.decision ≠ some .revoke then some (s.dropRemediation i)
    else some { s with remediating := s.remediating.set i { r with entry := some entry } }
  | none, none => some (s.dropRemediation i)

/-- The link of the entry waits for the transactions that hold its row. -/
def commitRemediation (s : RevocationState) (i : Nat) (crId : Uuid) (r : RemediationRequest) :
    Option RevocationState :=
  match r.entry with
  | none => none
  | some entry =>
    if (s.review.requests.any fun q => q.holds.contains r.entryId) = true then none
    else some { s.dropRemediation i with
      remediations := s.remediations ++ [(r.entryId,remediationCr r entry crId)] }

def step (s : RevocationState) : RevocationEvent → Option RevocationState
  | .review e => s.reviewed e
  | .remediate organizationId userId entryId => s.remediate organizationId userId entryId
  | .readEntry i => s.remediating[i]?.bind (s.readEntry i)
  | .commitRemediation i crId => s.remediating[i]?.bind (s.commitRemediation i crId)
  | .failRemediation i => s.remediating[i]?.map fun _ => s.dropRemediation i

end RevocationState

/-- A campaign that has been collected, with any decisions on its entries, and no request under
way. -/
def revocationSystem : System RevocationState RevocationEvent where
  start s :=
    (s.review.row.status = .inReview ∨ s.review.row.status = .awaitingApproval) ∧
      (s.review.entries.map ReviewEntry.id).Nodup ∧ s.review.requests = [] ∧
      s.review.revocations = [] ∧ s.approved = [] ∧ s.remediations = [] ∧ s.remediating = []
  step := RevocationState.step

/-- The change requests that approvals have committed for an entry. -/
def RevocationState.revocationsOf (s : RevocationState) (entryId : Uuid) : List ChangeRequest :=
  (s.approved.filter fun p => p.1 = entryId).map Prod.snd

/-- Of a completed campaign, each entry to be revoked has one revocation, to which it is linked, and
each entry to be kept has none. -/
def RevocationState.Matches (s : RevocationState) : Prop :=
  s.review.row.status = .completed → ∀ e ∈ s.review.entries,
    (e.decision = some .revoke →
      ∃ cr, s.revocationsOf e.id = [cr] ∧ e.changeRequestId = some cr.id) ∧
    (e.decision = some .keep → s.revocationsOf e.id = [])

/-- Nothing commits to a completed campaign, and an approval commits for the entries that are to be
revoked by then. -/
def ApprovesWhatStands (s : RevocationState) : RevocationEvent → Prop
  | .review (.commit i _) => ∀ r, s.review.requests[i]? = some r →
    s.review.row.status ≠ .completed ∧ ∀ approverId todo created,
      r.phase = .revoking approverId todo created →
        ∀ e ∈ s.review.entries, e.decision = some .revoke ↔ e.id ∈ created.map Prod.fst
  | _ => True

/-- An approval has its change requests and the entries that are left to it under their own ids,
and a decision does not complete the campaign. -/
def ReviewRequest.Reviews (r : ReviewRequest) : Prop :=
  match r.phase with
  | .selecting _ | .updating _ _ | .counting _ _ | .deciding _ _ => r.campaign.status ≠ .completed
  | .checking _ | .choosing _ => r.loaded.status = .awaitingApproval
  | .revoking _ todo created =>
    r.loaded.status = .awaitingApproval ∧
      (created.map Prod.fst ++ todo.map ReviewEntry.id).Nodup
  | _ => False

structure RevocationInvariant (s : RevocationState) : Prop where
  ids : (s.review.entries.map ReviewEntry.id).Nodup
  requests : ∀ r ∈ s.review.requests, r.Reviews
  ledger : s.review.revocations = s.approved.map Prod.snd
  unapproved : s.review.row.status ≠ .completed → s.approved = []
  matched : s.Matches

/-- What a step that commits nothing leaves alone. -/
structure ReviewState.Waits (s s' : ReviewState) : Prop where
  row : s'.row = s.row
  entries : s'.entries = s.entries
  revocations : s'.revocations = s.revocations
  requests : ∀ r ∈ s'.requests, r.Reviews

section Steps

variable {s s' : ReviewState} {r r' : ReviewRequest} {i : Nat}

theorem waits_set (h : ∀ r ∈ s.requests, r.Reviews) (hr : r.Reviews) :
    s.Waits (s.setRequest i r) := by
  refine ⟨rfl,rfl,rfl,fun q hq => ?_⟩
  rcases Lists.mem_set_cases hq with rfl | hq
  · exact hr
  · exact h q hq

theorem waits_drop (h : ∀ r ∈ s.requests, r.Reviews) : s.Waits (s.drop i) :=
  ⟨rfl,rfl,rfl,fun q hq => h q (List.mem_of_mem_eraseIdx hq)⟩

theorem begin_waits {check : Except Exc Unit} {campaign : ReviewCampaign} {phase : ReviewPhase}
    (h : ∀ r ∈ s.requests, r.Reviews) (hs : s.begin check campaign phase = some s')
    (hr : check = .ok () → ({ loaded := s.row, campaign, phase } : ReviewRequest).Reviews) :
    s.Waits s' := by
  unfold ReviewState.begin at hs
  split at hs
  · obtain rfl := Option.some.inj hs
    refine ⟨rfl,rfl,rfl,fun q hq => ?_⟩
    rcases List.mem_append.mp hq with hq | hq
    · exact h q hq
    · obtain rfl := List.mem_singleton.mp hq
      exact hr rfl
  · cases hs

theorem select_waits (h : ∀ r ∈ s.requests, r.Reviews)
    (hids : (s.entries.map ReviewEntry.id).Nodup) (hr : r.Reviews)
    (hs : s.select i r = some s') : s.Waits s' := by
  unfold ReviewState.select at hs
  split at hs
  · next hphase =>
    rw [ReviewRequest.Reviews,hphase] at hr
    split at hs
    · obtain rfl := Option.some.inj hs
      exact waits_drop h
    · obtain rfl := Option.some.inj hs
      exact waits_set h hr
  · next hphase =>
    rw [ReviewRequest.Reviews,hphase] at hr
    obtain rfl := Option.some.inj hs
    refine waits_set h ⟨hr,?_⟩
    simpa using hids.sublist (List.filter_sublist.map ReviewEntry.id)
  · cases hs

theorem update_waits (h : ∀ r ∈ s.requests, r.Reviews) (hr : r.Reviews)
    (hs : s.update i r = some s') : s.Waits s' := by
  unfold ReviewState.update at hs
  split at hs
  · next hphase =>
    rw [ReviewRequest.Reviews,hphase] at hr
    obtain ⟨-,hs⟩ := Option.ite_none_left_eq_some.mp hs
    obtain rfl := Option.some.inj hs
    exact waits_set h hr
  · cases hs

theorem count_waits (h : ∀ r ∈ s.requests, r.Reviews) (hr : r.Reviews)
    (hs : s.count i r = some s') : s.Waits s' := by
  unfold ReviewState.count at hs
  split at hs
  · next hphase =>
    rw [ReviewRequest.Reviews,hphase] at hr
    dsimp only at hs
    obtain rfl := Option.some.inj hs
    refine waits_set h ?_
    change ReviewCampaign.status _ ≠ _
    split
    · simp
    · exact hr
  · next hphase =>
    rw [ReviewRequest.Reviews,hphase] at hr
    split at hs
    · obtain rfl := Option.some.inj hs
      exact waits_drop h
    · obtain rfl := Option.some.inj hs
      exact waits_set h hr
  · cases hs

theorem revoke_waits {crId : Uuid} (h : ∀ r ∈ s.requests, r.Reviews) (hr : r.Reviews)
    (hs : s.revoke i crId r = some s') : s.Waits s' := by
  unfold ReviewState.revoke at hs
  split at hs
  · next hphase =>
    rw [ReviewRequest.Reviews,hphase] at hr
    obtain ⟨-,hs⟩ := Option.ite_none_left_eq_some.mp hs
    obtain rfl := Option.some.inj hs
    refine waits_set h ⟨hr.1,?_⟩
    simpa using hr.2
  · cases hs

theorem event_waits {e : ReviewEvent} (h : ∀ r ∈ s.requests, r.Reviews)
    (hids : (s.entries.map ReviewEntry.id).Nodup) (hreviews : e.reviews = true)
    (hcommit : ∀ i now, e ≠ .commit i now) (hs : s.step e = some s') : s.Waits s' := by
  cases e with
  | launch => cases hreviews
  | cancel => cases hreviews
  | collect => cases hreviews
  | gather => cases hreviews
  | commit i now => exact absurd rfl (hcommit i now)
  | submit organizationId d =>
    refine begin_waits h hs fun hok => ?_
    change s.row.status ≠ .completed
    rcases acceptsDecisions_ok hok with hstatus | hstatus <;> simp [hstatus]
  | approve organizationId approverId => exact begin_waits h hs approvable_ok
  | select i =>
    obtain ⟨r,hr,hs⟩ := Option.bind_eq_some_iff.mp hs
    exact select_waits h hids (h r (List.mem_of_getElem? hr)) hs
  | update i =>
    obtain ⟨r,hr,hs⟩ := Option.bind_eq_some_iff.mp hs
    exact update_waits h (h r (List.mem_of_getElem? hr)) hs
  | count i =>
    obtain ⟨r,hr,hs⟩ := Option.bind_eq_some_iff.mp hs
    exact count_waits h (h r (List.mem_of_getElem? hr)) hs
  | revoke i crId =>
    obtain ⟨r,hr,hs⟩ := Option.bind_eq_some_iff.mp hs
    exact revoke_waits h (h r (List.mem_of_getElem? hr)) hs
  | fail i =>
    obtain ⟨r,hr,rfl⟩ := Option.map_eq_some_iff.mp hs
    exact waits_drop h

theorem decided_ids {d : DecisionSubmit} {entry : ReviewEntry} :
    (s.decided d entry).map ReviewEntry.id = s.entries.map ReviewEntry.id := by
  rw [ReviewState.decided,List.map_map]
  refine List.map_congr_left fun e _ => ?_
  dsimp only [Function.comp]
  split <;> rfl

theorem linked_ids {created : List (Uuid × ChangeRequest)} :
    (s.linked created).map ReviewEntry.id = s.entries.map ReviewEntry.id := by
  rw [ReviewState.linked,List.map_map]
  refine List.map_congr_left fun e _ => ?_
  dsimp only [Function.comp]
  split <;> rfl

end Steps

section Commits

variable {s s' : RevocationState} {r : ReviewRequest} {i : Nat} {now : Int}

/-- The links of the entries are those of the change requests, and their decisions stand. -/
theorem linked_matched {created : List (Uuid × ChangeRequest)} {e : ReviewEntry}
    (hkeys : (created.map Prod.fst).Nodup)
    (hstand : ∀ e ∈ s.review.entries, e.decision = some .revoke ↔ e.id ∈ created.map Prod.fst)
    (he : e ∈ s.review.linked created) :
    (e.decision = some .revoke → ∃ cr,
      (created.filter fun p => p.1 = e.id).map Prod.snd = [cr] ∧
        e.changeRequestId = some cr.id) ∧
    (e.decision = some .keep → (created.filter fun p => p.1 = e.id).map Prod.snd = []) := by
  obtain ⟨old,hold,rfl⟩ := List.mem_map.mp he
  cases hlookup : created.lookup old.id with
  | some cr =>
    have hmem := Lists.mem_of_lookup hlookup
    have hrevoke := (hstand old hold).mpr (List.mem_map.mpr ⟨_,hmem,rfl⟩)
    refine ⟨fun _ => ⟨cr,?_,rfl⟩,fun hkeep => ?_⟩
    · rw [Lists.filter_key_eq hkeys hmem]
      rfl
    · cases hrevoke.symm.trans hkeep
  | none =>
    have hnone : old.id ∉ created.map Prod.fst := by
      intro hmem
      obtain ⟨⟨_,cr⟩,hpair,rfl⟩ := List.mem_map.mp hmem
      have hsome := (Lists.lookup_eq_some_iff hkeys).mpr hpair
      rw [hlookup] at hsome
      cases hsome
    refine ⟨fun hrevoke => absurd ((hstand old hold).mp hrevoke) hnone,fun _ => ?_⟩
    simp only [List.map_eq_nil_iff,List.filter_eq_nil_iff,decide_eq_true_eq]
    intro p hp hid
    exact hnone (List.mem_map.mpr ⟨p,hp,hid⟩)

theorem decision_commits (h : RevocationInvariant s) {d : DecisionSubmit} {entry : ReviewEntry}
    (hr : r.Reviews) (hphase : r.phase = .deciding d entry)
    (hopen : s.review.row.status ≠ .completed) {review : ReviewState}
    (hs : s.review.commit i now r = some review) :
    RevocationInvariant { s with review, approved := s.approved ++ [] } := by
  rw [ReviewRequest.Reviews,hphase] at hr
  simp only [ReviewState.commit,hphase,Option.some.injEq] at hs
  subst hs
  have hrow : (s.review.row.flush r.loaded r.campaign).status ≠ .completed := by
    intro hcompleted
    exact hopen (Orm.flushColumn_eq hcompleted hr)
  rw [List.append_nil]
  refine ⟨?_,?_,h.ledger,fun _ => h.unapproved hopen,fun hcompleted => absurd hcompleted hrow⟩
  · change ((s.review.decided d entry).map ReviewEntry.id).Nodup
    rw [decided_ids]
    exact h.ids
  · exact fun q hq => h.requests q (List.mem_of_mem_eraseIdx hq)

theorem approval_commits (h : RevocationInvariant s) {approverId : Uuid}
    {todo : List ReviewEntry} {created : List (Uuid × ChangeRequest)} (hr : r.Reviews)
    (hphase : r.phase = .revoking approverId todo created)
    (hopen : s.review.row.status ≠ .completed)
    (hstand : ∀ e ∈ s.review.entries, e.decision = some .revoke ↔ e.id ∈ created.map Prod.fst)
    {review : ReviewState} (hs : s.review.commit i now r = some review) :
    RevocationInvariant { s with review, approved := s.approved ++ created } := by
  rw [ReviewRequest.Reviews,hphase] at hr
  obtain ⟨hloaded,hkeys⟩ := hr
  cases todo with
  | cons entry todo => simp [ReviewState.commit,hphase] at hs
  | nil =>
    simp only [ReviewState.commit,hphase,Option.some.injEq] at hs
    subst hs
    have hfirst := h.unapproved hopen
    have hledger := h.ledger
    rw [hfirst] at hledger
    have hrow : (s.review.row.flush r.loaded
        { r.campaign with status := .completed, completedAt := some now }).status = .completed := by
      simp [ReviewCampaign.flush,Orm.flushColumn,hloaded]
    rw [hfirst,List.nil_append]
    refine ⟨?_,?_,?_,fun hcompleted => absurd hrow hcompleted,fun _ e he => ?_⟩
    · change ((s.review.linked created).map ReviewEntry.id).Nodup
      rw [linked_ids]
      exact h.ids
    · exact fun q hq => h.requests q (List.mem_of_mem_eraseIdx hq)
    · simp [hledger]
    · exact linked_matched (by simpa using hkeys) hstand he

theorem review_commits (h : RevocationInvariant s) (hr : s.review.requests[i]? = some r)
    (hG : ApprovesWhatStands s (.review (.commit i now))) {review : ReviewState}
    (hs : s.review.commit i now r = some review) :
    RevocationInvariant
      { s with review, approved := s.approved ++ s.review.approvedBy (.commit i now) } := by
  have hreviews := h.requests r (List.mem_of_getElem? hr)
  obtain ⟨hopen,hstand⟩ := hG r hr
  rw [ReviewState.approvedBy,hr]
  cases hphase : r.phase with
  | deciding d entry =>
    simp only [hphase]
    exact decision_commits h hreviews hphase hopen hs
  | revoking approverId todo created =>
    simp only [hphase]
    exact approval_commits h hreviews hphase hopen (hstand _ _ _ hphase) hs
  | _ => simp [ReviewState.commit,ReviewRequest.Reviews,hphase] at hs hreviews

end Commits

theorem RevocationInvariant.remediated {s : RevocationState} (h : RevocationInvariant s)
    {remediations : List (Uuid × ChangeRequest)} {remediating : List RemediationRequest} :
    RevocationInvariant { s with remediations, remediating } :=
  ⟨h.ids,h.requests,h.ledger,h.unapproved,h.matched⟩

theorem revocation_invariant :
    InductiveUnder revocationSystem ApprovesWhatStands RevocationInvariant where
  start := by
    rintro s ⟨hstatus,hids,hidle,hrevocations,happroved,-,-⟩
    refine ⟨hids,by simp [hidle],by simp [hrevocations,happroved],fun _ => happroved,?_⟩
    intro hcompleted
    rcases hstatus with hstatus | hstatus <;> rw [hstatus] at hcompleted <;> cases hcompleted
  step := by
    intro s e s' h hG hs
    cases e with
    | review e =>
      obtain ⟨hreviews,hs⟩ := Option.ite_none_right_eq_some.mp hs
      obtain ⟨review,hreview,rfl⟩ := Option.map_eq_some_iff.mp hs
      cases e with
      | commit i now =>
        obtain ⟨r,hr,hreview⟩ := Option.bind_eq_some_iff.mp hreview
        exact review_commits h hr hG hreview
      | _ =>
        obtain ⟨hrow,hentries,hrevocations,hrequests⟩ :=
          event_waits h.requests h.ids hreviews nofun hreview
        refine ⟨?_,hrequests,?_,?_,?_⟩
        · rw [hentries]
          exact h.ids
        · simp [ReviewState.approvedBy,hrevocations,h.ledger]
        · simpa [ReviewState.approvedBy,hrow] using h.unapproved
        · simpa [RevocationState.Matches,RevocationState.revocationsOf,ReviewState.approvedBy,hrow,
            hentries] using h.matched
    | remediate organizationId userId entryId =>
      simp only [revocationSystem,RevocationState.step,RevocationState.remediate] at hs
      split at hs
      · obtain rfl := Option.some.inj hs
        exact h.remediated
      · cases hs
    | readEntry i =>
      obtain ⟨r,hr,hs⟩ := Option.bind_eq_some_iff.mp hs
      unfold RevocationState.readEntry at hs
      split at hs
      · cases hs
      · split at hs
        · obtain rfl := Option.some.inj hs
          exact h.remediated
        · obtain rfl := Option.some.inj hs
          exact h.remediated
      · obtain rfl := Option.some.inj hs
        exact h.remediated
    | commitRemediation i crId =>
      obtain ⟨r,hr,hs⟩ := Option.bind_eq_some_iff.mp hs
      unfold RevocationState.commitRemediation at hs
      split at hs
      · cases hs
      · obtain ⟨-,hs⟩ := Option.ite_none_left_eq_some.mp hs
        obtain rfl := Option.some.inj hs
        exact h.remediated
    | failRemediation i =>
      obtain ⟨r,hr,rfl⟩ := Option.map_eq_some_iff.mp hs
      exact h.remediated

/-- A campaign that awaits approval with one entry, which is to be revoked. -/
def awaitedRevocation : RevocationState where
  review := {
    row := { draftReview.row with status := .awaitingApproval }
    entries := [(revokeOf "e1").assign (groupEntry "e1")]
    revocations := []
    requests := [] }
  approved := []
  remediations := []
  remediating := []

theorem run_awaitedRevocation : Run revocationSystem [] awaitedRevocation :=
  .start ⟨Or.inr rfl,List.nodup_singleton _,rfl,rfl,rfl,rfl,rfl⟩

end Nexplane
