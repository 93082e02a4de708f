import Nexplane.ApprovalInvariants

set_option autoImplicit false

/-! Who may move a change request to approved, over every run of requests. -/

namespace Nexplane
open Runs

theorem requestSystem_step {users : Uuid → User} {db db' : Db} {req : Request} :
    (requestSystem users).step db req = some db' ↔ handle users db req = .ok db' :=
  Checks.toOption_eq_some

/-- The step from `pre` to `post` moves `cr` to approved, where it reads `cr'`. -/
structure MovedToApproved (pre post : Db) (crId : Uuid) (cr cr' : ChangeRequest) : Prop where
  before : pre.changeRequests crId = some cr
  after : post.changeRequests crId = some cr'
  pending : cr.status ≠ .approved
  approved : cr'.status = .approved

def ApprovalJustified (users : Uuid → User) (t : Transition Db Request) : Prop :=
  ∀ crId cr cr', MovedToApproved t.pre t.post crId cr cr' →
    cr.status = .awaitingApproval ∧
      ∃ level, cr'.riskLevel = some level ∧
        Satisfied (roleOf users) level (t.post.approvalsOf crId)

/-- A bulk approval finds nothing to approve, and the agent tool is used on a change request
that is awaiting approval by a user whose approval alone is enough. -/
def ProperApproval (users : Uuid → User) (db : Db) : Request → Prop
  | .bulkApprove actor crIds decision =>
    decision = "approved" → ∀ crId ∈ crIds, ∀ cr, db.changeRequests crId = some cr →
      cr.organizationId = (users actor).organizationId → cr.status = .awaitingApproval →
      cr.riskLevel = some .critical
  | .mcpApprove actor crId =>
    ∀ cr, db.changeRequests crId = some cr →
      cr.status = .awaitingApproval ∧
        ∃ level, cr.riskLevel = some level ∧ decidesAlone level (roleOf users actor) = true
  | _ => True

section
variable {users : Uuid → User} {pre post : Db}

theorem Writes.moved {crId : Uuid} {cr c c' : ChangeRequest} (hw : Writes pre post cr)
    (hm : MovedToApproved pre post crId c c') : crId = cr.id ∧ c' = cr := by
  have hrow := hw.row crId
  by_cases hid : crId = cr.id
  · rw [if_pos hid,hm.after] at hrow
    exact ⟨hid,Option.some.inj hrow⟩
  · rw [if_neg hid,hm.after,hm.before] at hrow
    obtain rfl := Option.some.inj hrow
    exact absurd hm.approved hm.pending

theorem Writes.not_moved {crId : Uuid} {cr c c' : ChangeRequest} (hw : Writes pre post cr)
    (hs : cr.status ≠ .approved) : ¬MovedToApproved pre post crId c c' := by
  intro hm
  obtain ⟨_,rfl⟩ := hw.moved hm
  exact hs hm.approved

theorem Rejects.not_moved {crId id : Uuid} {c c' : ChangeRequest} (hi : Inv users pre)
    (h : Rejects pre post id) : ¬MovedToApproved pre post crId c c' := by
  obtain ⟨cr,hcr,rfl | ⟨actor,rfl⟩⟩ := h
  · exact (writes_put pre _).not_moved (by simp)
  · exact (writes_addApproval_put _ _ _ (hi.keyed id cr hcr).symm).not_moved (by simp)

theorem bulk_moved_iff {actor crId : Uuid} {crIds : List Uuid} {decision : String}
    {cr : ChangeRequest} (hi : Inv users pre)
    (h : bulkApprove users pre actor crIds decision = .ok post)
    (hcr : pre.changeRequests crId = some cr) :
    (∃ cr', MovedToApproved pre post crId cr cr') ↔
      crId ∈ crIds ∧ decision = "approved" ∧ cr.status = .awaitingApproval ∧
        cr.organizationId = (users actor).organizationId ∧ cr.riskLevel ≠ some .critical := by
  obtain ⟨_,rfl⟩ := bulkApprove_ok h
  have hrow := bulkApprove_row (users actor) decision crIds hi.keyed crId
  rw [hcr] at hrow
  constructor
  · rintro ⟨cr',hm⟩
    by_cases hmem : crId ∈ crIds
    · rw [if_pos hmem,hm.after,Option.map_some] at hrow
      have happ := hm.approved
      rw [Option.some.inj hrow] at happ
      unfold bulkDecide at happ
      split at happ
      next ho =>
        split at happ
        next hc => exact absurd happ hm.pending
        next hc =>
          have hd : decision = "approved" := by
            by_contra hd
            simp [hd] at happ
          exact ⟨hmem,hd,ho.2,ho.1,fun hl => hc ⟨hl,hd⟩⟩
      next ho => exact absurd happ hm.pending
    · rw [if_neg hmem,hm.after] at hrow
      obtain rfl := Option.some.inj hrow
      exact absurd hm.approved hm.pending
  · rintro ⟨hmem,hd,hs,ho,hl⟩
    rw [if_pos hmem,Option.map_some] at hrow
    exact ⟨_,hcr,hrow,by simp [hs],by simp [bulkDecide,ho,hs,hl,hd]⟩

/-- The rows of a change request that awaits approval do not meet its requirement yet. -/
theorem Inv.undecided (hi : Inv users pre) {crId : Uuid} {cr : ChangeRequest}
    (hcr : pre.changeRequests crId = some cr) (hs : cr.status = .awaitingApproval) :
    ∃ level, cr.riskLevel = some level ∧
      ¬Satisfied (roleOf users) level (pre.approvalsOf crId) := by
  have hc := hi.consistent crId cr hcr
  simpa only [Consistent,hs] using hc

theorem bulk_justified_iff {actor : Uuid} {crIds : List Uuid} {decision : String}
    (hi : Inv users pre) (h : bulkApprove users pre actor crIds decision = .ok post) :
    ApprovalJustified users ⟨pre,.bulkApprove actor crIds decision,post⟩ ↔
      ProperApproval users pre (.bulkApprove actor crIds decision) := by
  constructor
  · intro hj hd crId hmem cr hcr ho hs
    by_contra hl
    obtain ⟨cr',hm⟩ := (bulk_moved_iff hi h hcr).mpr ⟨hmem,hd,hs,ho,hl⟩
    obtain ⟨_,level,hl',hsat⟩ := hj crId cr cr' hm
    obtain ⟨level',hlevel,hno⟩ := hi.undecided hcr hs
    obtain ⟨_,rfl⟩ := bulkApprove_ok h
    have hrow := bulkApprove_row (users actor) decision crIds hi.keyed crId
    have hcr' : cr' = bulkDecide (users actor) decision cr := by
      have := hm.after
      rw [hrow,if_pos hmem,hcr] at this
      exact (Option.some.inj this).symm
    have hsame : cr'.riskLevel = cr.riskLevel := by
      rw [hcr']
      unfold bulkDecide
      split
      · split <;> rfl
      · rfl
    rw [hsame,hlevel] at hl'
    obtain rfl := Option.some.inj hl'
    refine hno ?_
    simpa only [Db.approvalsOf,bulkApprove_approvals] using hsat
  · intro hp crId cr cr' hm
    obtain ⟨hmem,hd,hs,ho,hl⟩ := (bulk_moved_iff hi h hm.before).mp ⟨cr',hm⟩
    exact absurd (hp hd crId hmem cr hm.before ho hs) hl

theorem mcpApprove_justified_iff {actor crId : Uuid} (hi : Inv users pre)
    (h : mcpApproveChangeRequest users pre actor crId = .ok post) :
    ApprovalJustified users ⟨pre,.mcpApprove actor crId,post⟩ ↔
      ProperApproval users pre (.mcpApprove actor crId) := by
  obtain ⟨cr,hcr,_,_,hs,rfl⟩ := mcpApproveChangeRequest_ok h
  obtain rfl : cr.id = crId := hi.keyed crId cr hcr
  have hw := writes_addApproval_put pre ⟨cr.id,actor,.approved⟩
    { cr with status := .approved } rfl
  have hrows := approvalsOf_addApproval_self pre ⟨cr.id,actor,.approved⟩
  constructor
  · intro hj c hc
    obtain rfl : cr = c := by
      rw [hcr] at hc
      exact Option.some.inj hc
    have hm : MovedToApproved pre _ cr.id cr _ :=
      ⟨hcr,hw.self,by rcases hs with hs | hs <;> simp [hs],rfl⟩
    obtain ⟨haw,level,hl,hsat⟩ := hj cr.id cr _ hm
    refine ⟨haw,level,hl,?_⟩
    obtain ⟨level',hl',hno⟩ := hi.undecided hcr haw
    obtain rfl : level' = level := by
      rw [hl'] at hl
      exact Option.some.inj hl
    rw [approvalsOf_put,hrows,(satisfied_decisive _ _).append] at hsat
    rcases hsat with hsat | hsat
    · exact absurd hsat hno
    · exact ((satisfied_singleton _ _ _).mp hsat).2
  · intro hp crId c c' hm
    obtain ⟨rfl,rfl⟩ := hw.moved hm
    obtain rfl : cr = c := Option.some.inj (hcr.symm.trans hm.before)
    obtain ⟨haw,level,hl,hd⟩ := hp cr hcr
    refine ⟨haw,level,hl,?_⟩
    rw [approvalsOf_put,hrows,(satisfied_decisive _ _).append]
    exact Or.inr ((satisfied_singleton _ _ _).mpr ⟨rfl,hd⟩)

theorem approve_justified {actor crId : Uuid} {decision : ApprovalDecision}
    {freezeActive windowsClosed : Bool} (hi : Inv users pre)
    (h : approveChangeRequest users pre actor crId decision freezeActive windowsClosed = .ok post) :
    ApprovalJustified users
      ⟨pre,.approve actor crId decision freezeActive windowsClosed,post⟩ := by
  intro id c c' hm
  obtain ⟨cr,level,hcr,hs,hl,⟨⟨_,hsat⟩,rfl⟩ | ⟨_,rfl⟩⟩ := approveChangeRequest_ok h
  · obtain rfl : cr.id = crId := hi.keyed crId cr hcr
    have hw := writes_addApproval_put pre ⟨cr.id,actor,decision⟩
      { cr with status := if windowsClosed then .queuedForMaintenance else .approved } rfl
    obtain ⟨rfl,rfl⟩ := hw.moved hm
    obtain rfl : cr = c := Option.some.inj (hcr.symm.trans hm.before)
    refine ⟨hs,level,hl,?_⟩
    rw [approvalsOf_put,approvalsOf_addApproval_self pre ⟨cr.id,actor,decision⟩]
    exact hsat
  · obtain rfl : cr.id = crId := hi.keyed crId cr hcr
    exact absurd hm ((writes_addApproval rfl hcr).not_moved (by simp [hs]))

theorem create_not_moved {actor id crId : Uuid} {changeType : ChangeType} {targets : List Uuid}
    {desired : PyValue.Dict} {c c' : ChangeRequest}
    (h : createChangeRequest users pre actor id changeType targets desired = .ok post) :
    ¬MovedToApproved pre post crId c c' := by
  obtain ⟨cr,_,hdraft,rfl⟩ := createChangeRequest_ok h
  exact (writes_put pre cr).not_moved (by simp [hdraft])

theorem plan_not_moved {actor id crId : Uuid} {outcome : PlanOutcome} {c c' : ChangeRequest}
    (hi : Inv users pre) (h : generateChangePlan users pre actor id outcome = .ok post) :
    ¬MovedToApproved pre post crId c c' := by
  obtain ⟨cr,level,plan,hcr,_,rfl⟩ := generateChangePlan_ok h
  obtain rfl : cr.id = id := hi.keyed id cr hcr
  exact (writes_deleteApprovals_put pre _).not_moved (by simp)

theorem submit_not_moved {actor id crId : Uuid} {c c' : ChangeRequest}
    (h : submitForApproval users pre actor id = .ok post) :
    ¬MovedToApproved pre post crId c c' := by
  obtain ⟨cr,level,_,_,_,rfl⟩ := submitForApproval_ok h
  exact (writes_put pre _).not_moved (by simp)

theorem mcpSubmit_not_moved {actor id crId : Uuid} {outcome : PlanOutcome}
    {c c' : ChangeRequest} (h : mcpSubmitForApproval users pre actor id outcome = .ok post) :
    ¬MovedToApproved pre post crId c c' := by
  obtain ⟨cr,cr',_,_,rfl⟩ := mcpSubmitForApproval_ok h
  exact (writes_put pre _).not_moved (by simp)

/-- Only the three approval entry points move anything to approved. -/
theorem moved_entry {req : Request} {crId : Uuid} {c c' : ChangeRequest} (hi : Inv users pre)
    (h : handle users pre req = .ok post) (hm : MovedToApproved pre post crId c c') :
    (∃ actor id decision freezeActive windowsClosed,
        req = .approve actor id decision freezeActive windowsClosed) ∨
      (∃ actor crIds decision, req = .bulkApprove actor crIds decision) ∨
      ∃ actor id, req = .mcpApprove actor id := by
  cases req with
  | create => exact absurd hm (create_not_moved h)
  | plan => exact absurd hm (plan_not_moved hi h)
  | submitForApproval => exact absurd hm (submit_not_moved h)
  | mcpSubmitForApproval => exact absurd hm (mcpSubmit_not_moved h)
  | approve => exact Or.inl ⟨_,_,_,_,_,rfl⟩
  | bulkApprove => exact Or.inr (Or.inl ⟨_,_,_,rfl⟩)
  | mcpApprove => exact Or.inr (Or.inr ⟨_,_,rfl⟩)
  | reject => exact absurd hm ((rejectChangeRequest_ok h).not_moved hi)
  | mcpReject => exact absurd hm ((mcpRejectChangeRequest_ok h).not_moved hi)
  | cancel => exact absurd hm ((cancelChangeRequest_ok h).not_moved hi)

theorem approvalJustified_iff {req : Request} (hi : Inv users pre)
    (h : handle users pre req = .ok post) :
    ApprovalJustified users ⟨pre,req,post⟩ ↔ ProperApproval users pre req := by
  cases req with
  | bulkApprove => exact bulk_justified_iff hi h
  | mcpApprove => exact mcpApprove_justified_iff hi h
  | approve => exact iff_of_true (approve_justified hi h) trivial
  | _ =>
    refine iff_of_true (fun crId c c' hm => ?_) trivial
    rcases moved_entry hi h hm with ⟨_,_,_,_,_,he⟩ | ⟨_,_,_,he⟩ | ⟨_,_,he⟩ <;> cases he

end

/-- Over every run, each move to approved is justified by the recorded approvals exactly when
every bulk and agent-tool approval of the run is a proper one. -/
theorem run_approvals_justified_iff (users : Uuid → User) {tr : List (Transition Db Request)}
    {db : Db} (h : Run (requestSystem users) tr db) :
    (∀ t ∈ tr, ApprovalJustified users t) ↔ ∀ t ∈ tr, ProperApproval users t.pre t.label :=
  h.all_iff (inv_inductive users) fun _ _ _ hi hs =>
    approvalJustified_iff hi (requestSystem_step.mp hs)

/-- A directory with one user of each role that can act on a change request. -/
def sampleUsers (id : Uuid) : User where
  id := id
  organizationId := "org"
  role :=
    if id = "admin" then .admin
    else if id = "approver" then .approver
    else if id = "operator" then .securityOperator
    else .auditor

def sampleCreate : Request :=
  .create "operator" "cr-1" (.generic "dns_update") ["asset-1"] []

/-- The life of a change request up to its approval by an admin. -/
def sampleApproval : List Request :=
  [sampleCreate,.plan "operator" "cr-1" (.planned .high { generatedSteps := [] }),
    .submitForApproval "operator" "cr-1",.approve "admin" "cr-1" .approved false false]

theorem sample_approvals_justified_iff :
    ∃ tr db, Run (requestSystem sampleUsers) tr db ∧
      tr.map Transition.label = sampleApproval.reverse ∧
      ((∀ t ∈ tr, ApprovalJustified sampleUsers t) ↔
        ∀ t ∈ tr, ProperApproval sampleUsers t.pre t.label) := by
  obtain ⟨db,hdb⟩ : ∃ db, (requestSystem sampleUsers).replay Db.empty sampleApproval = some db :=
    ⟨_,rfl⟩
  have h := (Run.start rfl).replay hdb
  exact ⟨_,db,h,System.history_labels hdb,run_approvals_justified_iff sampleUsers h⟩

/-- The tables after a list of accepted requests. -/
def sampleDb (reqs : List Request) : Db :=
  ((requestSystem sampleUsers).replay Db.empty reqs).getD Db.empty

/-- An approver approves a draft through the agent tool: it was never submitted and has no risk
level. -/
theorem mcpApprove_draft_unjustified :
    ¬∀ (users : Uuid → User) (tr : List (Transition Db Request)) (db : Db),
      Run (requestSystem users) tr db → ∀ t ∈ tr, ApprovalJustified users t := by
  intro hall
  have hdraft : (requestSystem sampleUsers).replay Db.empty [sampleCreate] =
      some (sampleDb [sampleCreate]) := rfl
  have h := (Run.start rfl).replay hdraft
  have happ : (requestSystem sampleUsers).step (sampleDb [sampleCreate])
      (.mcpApprove "approver" "cr-1") = some _ := rfl
  have hj := hall sampleUsers _ _ (h.step happ) _ List.mem_cons_self
  have hm := (hj "cr-1" _ _ ⟨rfl,rfl,by decide,rfl⟩).1
  exact absurd hm (by decide)

end Nexplane
