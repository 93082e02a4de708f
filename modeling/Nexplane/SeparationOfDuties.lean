import Nexplane.ApprovalAuthority

set_option autoImplicit false

/-! No change request is approved on the strength of its requester's own approval. -/

namespace Nexplane
open Runs

/-- The approvals an entry point goes by: the recorded rows, or the caller's own decision. -/
def approvalsReliedOn (post : Db) (crId : Uuid) : Request → List Approval
  | .approve .. => post.approvalsOf crId
  | .bulkApprove actor _ _ => [⟨crId,actor,.approved⟩]
  | .mcpApprove actor _ => [⟨crId,actor,.approved⟩]
  | _ => []

/-- The requirement in force at an entry point: that of the risk level, or one approval by an
approver or an admin. -/
def EntryRequirement (users : Uuid → User) (req : Request) (riskLevel : Option RiskLevel)
    (xs : List Approval) : Prop :=
  match req with
  | .approve .. => ∃ level, riskLevel = some level ∧ Satisfied (roleOf users) level xs
  | _ => ∃ a ∈ xs, a.decision = .approved ∧ mayApprove (users a.approverId) = true

def DutiesSeparated (users : Uuid → User) (t : Transition Db Request) : Prop :=
  ∀ crId cr cr', MovedToApproved t.pre t.post crId cr cr' →
    EntryRequirement users t.label cr'.riskLevel
      ((approvalsReliedOn t.post crId t.label).filter fun a => a.approverId ≠ cr.requesterId)

/-- The requester casts no vote that decides: no approval that alone is enough and is not held
for a maintenance window, and no bulk approval of a change request of theirs. -/
def NoSelfApproval (users : Uuid → User) (db : Db) : Request → Prop
  | .approve actor crId decision _ windowsClosed =>
    ∀ cr level, db.changeRequests crId = some cr → cr.riskLevel = some level →
      cr.requesterId = actor → decision = .approved → windowsClosed = false →
      decidesAlone level (roleOf users actor) = false
  | .bulkApprove actor crIds decision =>
    decision = "approved" → ∀ crId ∈ crIds, ∀ cr, db.changeRequests crId = some cr →
      cr.organizationId = (users actor).organizationId → cr.status = .awaitingApproval →
      cr.riskLevel ≠ some .critical → cr.requesterId ≠ actor
  | _ => True

section
variable {users : Uuid → User} {pre post : Db} {actor crId : Uuid}

theorem approve_separated_iff {decision : ApprovalDecision} {freezeActive windowsClosed : Bool}
    (hi : Inv users pre)
    (h : approveChangeRequest users pre actor crId decision freezeActive windowsClosed = .ok post) :
    DutiesSeparated users ⟨pre,.approve actor crId decision freezeActive windowsClosed,post⟩ ↔
      NoSelfApproval users pre (.approve actor crId decision freezeActive windowsClosed) := by
  obtain ⟨cr,level,hcr,hs,hl,hpost⟩ := approveChangeRequest_ok h
  obtain rfl : cr.id = crId := hi.keyed crId cr hcr
  have hdec := satisfied_decisive (roleOf users) level
  have hno : ¬Satisfied (roleOf users) level (pre.approvalsOf cr.id) := by
    obtain ⟨level',hl',hno⟩ := hi.undecided hcr hs
    obtain rfl : level = level' := Option.some.inj (hl.symm.trans hl')
    exact hno
  rcases hpost with ⟨⟨hd,hsat⟩,rfl⟩ | ⟨hc,rfl⟩
  · have hw := writes_addApproval_put pre ⟨cr.id,actor,decision⟩
      { cr with status := if windowsClosed then .queuedForMaintenance else .approved } rfl
    -- The rows recorded before did not meet the requirement, so the new one does so alone.
    have hself : Satisfied (roleOf users) level [⟨cr.id,actor,decision⟩] := by
      rcases (hdec.append _ _).mp hsat with h1 | h1
      · exact absurd h1 hno
      · exact h1
    have hrows : ((pre.addApproval ⟨cr.id,actor,decision⟩).put
        { cr with status := if windowsClosed then .queuedForMaintenance else .approved }).approvalsOf
          cr.id = pre.approvalsOf cr.id ++ [⟨cr.id,actor,decision⟩] :=
      approvalsOf_addApproval_self pre ⟨cr.id,actor,decision⟩
    constructor
    · intro hsep c level' hc hl' hreq _ hopen
      obtain rfl : cr = c := Option.some.inj (hcr.symm.trans hc)
      have hm := hsep cr.id cr _ ⟨hcr,hw.self,by simp [hs],by simp [hopen]⟩
      obtain ⟨level'',hl'',hothers⟩ := hm
      obtain rfl : level = level'' := Option.some.inj (hl.symm.trans hl'')
      refine absurd (hdec.mono ?_ hothers) hno
      intro a ha
      obtain ⟨ha,hne⟩ := List.mem_filter.mp ha
      have ha : a ∈ pre.approvalsOf cr.id ++ [⟨cr.id,actor,decision⟩] := hrows ▸ ha
      rcases List.mem_append.mp ha with ha | ha
      · exact ha
      · obtain rfl := List.mem_singleton.mp ha
        simp [hreq] at hne
    · intro hn id c c' hm
      obtain ⟨rfl,rfl⟩ := hw.moved hm
      obtain rfl : cr = c := Option.some.inj (hcr.symm.trans hm.before)
      have hopen : windowsClosed = false := by
        have := hm.approved
        cases windowsClosed <;> simp_all
      have hother : actor ≠ cr.requesterId := by
        intro he
        have := hn cr level hcr hl he.symm hd hopen
        rw [((satisfied_singleton _ _ _).mp hself).2] at this
        exact absurd this (by decide)
      refine ⟨level,hl,hdec.mono ?_ hself⟩
      intro a ha
      obtain rfl := List.mem_singleton.mp ha
      have hin := List.mem_append_right (pre.approvalsOf cr.id)
        (List.mem_cons_self (a := (⟨cr.id,actor,decision⟩ : Approval)) (l := []))
      rw [← hrows] at hin
      exact List.mem_filter.mpr ⟨hin,by simpa using hother⟩
  · refine iff_of_true ?_ ?_
    · intro id c c' hm
      exact absurd hm ((writes_addApproval rfl hcr).not_moved (by simp [hs]))
    · intro c level' hc' hl' _ hd _
      obtain rfl : cr = c := Option.some.inj (hcr.symm.trans hc')
      obtain rfl : level = level' := Option.some.inj (hl.symm.trans hl')
      by_contra halone
      refine hc ⟨hd,(hdec.append _ _).mpr (Or.inr ((satisfied_singleton _ _ _).mpr ⟨hd,?_⟩))⟩
      simpa using halone

theorem bulk_separated_iff {crIds : List Uuid} {decision : String} (hi : Inv users pre)
    (h : bulkApprove users pre actor crIds decision = .ok post) :
    DutiesSeparated users ⟨pre,.bulkApprove actor crIds decision,post⟩ ↔
      NoSelfApproval users pre (.bulkApprove actor crIds decision) := by
  have hrole := (bulkApprove_ok h).1
  constructor
  · intro hsep hd id hmem cr hcr ho hs hl hreq
    obtain ⟨cr',hm⟩ := (bulk_moved_iff hi h hcr).mpr ⟨hmem,hd,hs,ho,hl⟩
    obtain ⟨a,ha,_⟩ := hsep id cr cr' hm
    simp [approvalsReliedOn,hreq] at ha
  · intro hn id cr cr' hm
    obtain ⟨hmem,hd,hs,ho,hl⟩ := (bulk_moved_iff hi h hm.before).mp ⟨cr',hm⟩
    have hne := hn hd id hmem cr hm.before ho hs hl
    refine ⟨⟨id,actor,.approved⟩,?_,rfl,(mayApprove_iff _).mpr hrole⟩
    simpa [approvalsReliedOn] using Ne.symm hne

theorem mcpApprove_separated (hi : Inv users pre)
    (h : mcpApproveChangeRequest users pre actor crId = .ok post) :
    DutiesSeparated users ⟨pre,.mcpApprove actor crId,post⟩ := by
  obtain ⟨cr,hcr,hrole,hreq,hs,rfl⟩ := mcpApproveChangeRequest_ok h
  obtain rfl : cr.id = crId := hi.keyed crId cr hcr
  have hw := writes_addApproval_put pre ⟨cr.id,actor,.approved⟩
    { cr with status := .approved } rfl
  intro id c c' hm
  obtain ⟨rfl,rfl⟩ := hw.moved hm
  obtain rfl : cr = c := Option.some.inj (hcr.symm.trans hm.before)
  refine ⟨⟨cr.id,actor,.approved⟩,?_,rfl,(mayApprove_iff _).mpr hrole⟩
  simpa [approvalsReliedOn] using Ne.symm hreq

theorem dutiesSeparated_iff {req : Request} (hi : Inv users pre)
    (h : handle users pre req = .ok post) :
    DutiesSeparated users ⟨pre,req,post⟩ ↔ NoSelfApproval users pre req := by
  cases req with
  | approve => exact approve_separated_iff hi h
  | bulkApprove => exact bulk_separated_iff hi h
  | mcpApprove => exact iff_of_true (mcpApprove_separated hi h) trivial
  | _ =>
    refine iff_of_true (fun crId c c' hm => ?_) trivial
    rcases moved_entry hi h hm with ⟨_,_,_,_,_,he⟩ | ⟨_,_,_,he⟩ | ⟨_,_,he⟩ <;> cases he

end

/-- Over every run, the requester's own approval is never what moves a change request to
approved exactly when no requester casts a deciding vote. -/
theorem run_duties_separated_iff (users : Uuid → User) {tr : List (Transition Db Request)}
    {db : Db} (h : Run (requestSystem users) tr db) :
    (∀ t ∈ tr, DutiesSeparated users t) ↔ ∀ t ∈ tr, NoSelfApproval users t.pre t.label :=
  h.all_iff (inv_inductive users) fun _ _ _ hi hs =>
    dutiesSeparated_iff hi (requestSystem_step.mp hs)

theorem sample_duties_separated_iff :
    ∃ tr db, Run (requestSystem sampleUsers) tr db ∧
      tr.map Transition.label = sampleApproval.reverse ∧
      ((∀ t ∈ tr, DutiesSeparated sampleUsers t) ↔
        ∀ t ∈ tr, NoSelfApproval sampleUsers t.pre t.label) := by
  obtain ⟨db,hdb⟩ : ∃ db, (requestSystem sampleUsers).replay Db.empty sampleApproval = some db :=
    ⟨_,rfl⟩
  have h := (Run.start rfl).replay hdb
  exact ⟨_,db,h,System.history_labels hdb,run_duties_separated_iff sampleUsers h⟩

/-- An admin approves the high-risk change request that they requested, alone. -/
theorem approve_own_request :
    ¬∀ (users : Uuid → User) (tr : List (Transition Db Request)) (db : Db),
      Run (requestSystem users) tr db → ∀ t ∈ tr, DutiesSeparated users t := by
  intro hall
  let own : List Request :=
    [.create "admin" "cr-1" (.generic "dns_update") ["asset-1"] [],
      .plan "admin" "cr-1" (.planned .high { generatedSteps := [] }),
      .submitForApproval "admin" "cr-1"]
  have hown : (requestSystem sampleUsers).replay Db.empty own = some (sampleDb own) := rfl
  have h := (Run.start rfl).replay hown
  have happ : (requestSystem sampleUsers).step (sampleDb own)
      (.approve "admin" "cr-1" .approved false false) = some _ := rfl
  have hsep := hall sampleUsers _ _ (h.step happ) _ List.mem_cons_self
  obtain ⟨level,_,hothers⟩ := hsep "cr-1" _ _ ⟨rfl,rfl,by decide,rfl⟩
  exact (satisfied_decisive (roleOf sampleUsers) level).not_nil hothers

end Nexplane
