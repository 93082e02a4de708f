import Nexplane.ApprovalRequests
import Nexplane.Lib.Checks

set_option autoImplicit false

/-! What an accepted request does to the tables, and the invariant of every run of requests. -/

namespace Nexplane
open Checks

section
variable {users : Uuid → User} {db db' : Db} {actor crId : Uuid}

@[simp] theorem approvalsOf_put (db : Db) (cr : ChangeRequest) (id : Uuid) :
    (db.put cr).approvalsOf id = db.approvalsOf id := rfl

@[simp] theorem approvalsOf_addApproval_self (db : Db) (a : Approval) :
    (db.addApproval a).approvalsOf a.changeRequestId =
      db.approvalsOf a.changeRequestId ++ [a] := by
  simp [Db.approvalsOf,Db.addApproval]

theorem approvalsOf_addApproval_of_ne {id : Uuid} {a : Approval} (h : id ≠ a.changeRequestId) :
    (db.addApproval a).approvalsOf id = db.approvalsOf id := by
  simp [Db.approvalsOf,Db.addApproval,Ne.symm h]

@[simp] theorem approvalsOf_deleteApprovals_self (db : Db) (id : Uuid) :
    (db.deleteApprovals id).approvalsOf id = [] := by
  simp [Db.approvalsOf,Db.deleteApprovals]

theorem approvalsOf_deleteApprovals_of_ne {id id' : Uuid} (h : id' ≠ id) :
    (db.deleteApprovals id).approvalsOf id' = db.approvalsOf id' := by
  simp only [Db.approvalsOf,Db.deleteApprovals,List.filter_filter]
  refine List.filter_congr fun a _ => ?_
  by_cases ha : a.changeRequestId = id'
  · simp [ha,h]
  · simp [ha]

@[simp] theorem mayApprove_iff (user : User) :
    mayApprove user = true ↔ user.role = .approver ∨ user.role = .admin := by
  simp [mayApprove]

@[simp] theorem getCr_ok (cr : ChangeRequest) (org : Uuid) :
    getCr db crId org = .ok cr ↔ db.changeRequests crId = some cr ∧ cr.organizationId = org := by
  cases h : db.changeRequests crId with
  | none => simp [getCr,h]
  | some cr' =>
    by_cases ho : cr'.organizationId = org
    · simp only [getCr,h,ho,if_true,Except.ok.injEq,Option.some.injEq]
      exact ⟨fun e => ⟨e,e ▸ ho⟩,fun e => e.1⟩
    · simp only [getCr,h,ho,if_false,Option.some.injEq]
      exact ⟨fun e => (nomatch e),fun ⟨e,hc⟩ => absurd (e ▸ hc) ho⟩

@[simp] theorem mcpGetCr_ok (cr : ChangeRequest) (org : Uuid) :
    mcpGetCr db crId org = .ok cr ↔
      db.changeRequests crId = some cr ∧ cr.organizationId = org := by
  rw [← getCr_ok]
  cases h : db.changeRequests crId with
  | none => simp [getCr,mcpGetCr,h]
  | some cr' =>
    by_cases ho : cr'.organizationId = org
    · simp [getCr,mcpGetCr,h,ho]
    · simp [getCr,mcpGetCr,h,ho]

/-- The row of one change request is replaced by `cr`, and no other row and no other approval
is touched. -/
structure Writes (db db' : Db) (cr : ChangeRequest) : Prop where
  row : ∀ id, db'.changeRequests id = if id = cr.id then some cr else db.changeRequests id
  others : ∀ id, id ≠ cr.id → db'.approvalsOf id = db.approvalsOf id

theorem Writes.self {cr : ChangeRequest} (h : Writes db db' cr) :
    db'.changeRequests cr.id = some cr := by
  rw [h.row,if_pos rfl]

theorem writes_put (db : Db) (cr : ChangeRequest) : Writes db (db.put cr) cr :=
  ⟨fun _ => rfl,fun _ _ => rfl⟩

theorem writes_addApproval_put (db : Db) (a : Approval) (cr : ChangeRequest)
    (h : a.changeRequestId = cr.id) : Writes db ((db.addApproval a).put cr) cr :=
  ⟨fun _ => rfl,fun _ hne => approvalsOf_addApproval_of_ne (h ▸ hne)⟩

theorem writes_addApproval {a : Approval} {cr : ChangeRequest} (h : a.changeRequestId = cr.id)
    (hcr : db.changeRequests cr.id = some cr) : Writes db (db.addApproval a) cr := by
  refine ⟨fun id => ?_,fun _ hne => approvalsOf_addApproval_of_ne (h ▸ hne)⟩
  by_cases hid : id = cr.id
  · rw [if_pos hid,hid]
    exact hcr
  · rw [if_neg hid]
    rfl

theorem writes_deleteApprovals_put (db : Db) (cr : ChangeRequest) :
    Writes db ((db.deleteApprovals cr.id).put cr) cr :=
  ⟨fun _ => rfl,fun _ hne => approvalsOf_deleteApprovals_of_ne hne⟩

theorem createChangeRequest_ok {id : Uuid} {changeType : ChangeType} {targets : List Uuid}
    {desired : PyValue.Dict}
    (h : createChangeRequest users db actor id changeType targets desired = .ok db') :
    ∃ cr : ChangeRequest, db.changeRequests cr.id = none ∧ cr.status = .draft ∧
      db' = db.put cr := by
  unfold createChangeRequest at h
  cases hid : db.changeRequests id with
  | some cr => simp [hid] at h
  | none =>
    simp only [hid,Except.ok.injEq] at h
    exact ⟨_,hid,rfl,h.symm⟩

theorem planCr_ok {cr cr' : ChangeRequest} {outcome : PlanOutcome}
    (h : planCr cr outcome = .ok cr') :
    ∃ level plan, cr' = { cr with
      riskLevel := some level, changePlan := some plan, status := .planned } := by
  cases outcome with
  | blocked issues => simp [planCr] at h
  | planned level plan =>
    simp only [planCr,Except.ok.injEq] at h
    exact ⟨level,plan,h.symm⟩

theorem generateChangePlan_ok {outcome : PlanOutcome}
    (h : generateChangePlan users db actor crId outcome = .ok db') :
    ∃ cr level plan, db.changeRequests crId = some cr ∧
      (cr.status = .draft ∨ cr.status = .planned) ∧
      db' = (db.deleteApprovals crId).put { cr with
        riskLevel := some level, changePlan := some plan, status := .planned } := by
  simp only [generateChangePlan,bind_eq_ok,ite_eq_ok,throw_ne_ok,false_and,
    exists_false,and_false,false_or,getCr_ok] at h
  obtain ⟨cr,⟨hcr,_⟩,hs,h⟩ := h
  cases hp : planCr cr outcome with
  | error issues => simp [hp] at h
  | ok cr' =>
    obtain ⟨level,plan,rfl⟩ := planCr_ok hp
    refine ⟨cr,level,plan,hcr,?_,?_⟩
    · by_contra hn
      exact hs (not_or.mp hn)
    · simp only [hp,pure_eq_ok] at h
      exact h.symm

theorem submitForApproval_ok (h : submitForApproval users db actor crId = .ok db') :
    ∃ cr level, db.changeRequests crId = some cr ∧ cr.status = .planned ∧
      cr.riskLevel = some level ∧ db' = db.put { cr with status := .awaitingApproval } := by
  simp only [submitForApproval,bind_eq_ok,ite_eq_ok,throw_ne_ok,false_and,
    exists_false,and_false,false_or,getCr_ok,pure_eq_ok] at h
  obtain ⟨cr,⟨hcr,_⟩,hs,_,hl,h⟩ := h
  have hne : cr.riskLevel ≠ none := fun e => hl (by rw [e]; rfl)
  obtain ⟨level,hl⟩ := Option.ne_none_iff_exists'.mp hne
  exact ⟨cr,level,hcr,not_not.mp hs,hl,h.symm⟩

theorem mcpSubmitForApproval_ok {outcome : PlanOutcome}
    (h : mcpSubmitForApproval users db actor crId outcome = .ok db') :
    ∃ cr cr', db.changeRequests crId = some cr ∧
      (cr.status = .planned ∧ cr' = cr ∨ cr.status = .draft ∧ planCr cr outcome = .ok cr') ∧
      db' = db.put { cr' with status := .awaitingApproval } := by
  simp only [mcpSubmitForApproval,bind_eq_ok,ite_eq_ok,throw_ne_ok,and_false,or_false,
    mcpGetCr_ok,pure_eq_ok] at h
  obtain ⟨cr,⟨hcr,_⟩,⟨hs,h⟩ | ⟨_,hs,h⟩⟩ := h
  · cases hp : planCr cr outcome with
    | error issues => simp [hp] at h
    | ok cr' =>
      simp only [hp,pure_eq_ok] at h
      exact ⟨cr,cr',hcr,Or.inr ⟨hs,hp⟩,h.symm⟩
  · exact ⟨cr,cr,hcr,Or.inl ⟨hs,rfl⟩,h.symm⟩

/-- An accepted approval request adds its row, and moves the change request on when its own
decision is positive and the rows, the new one included, meet the requirement. -/
theorem approveChangeRequest_ok {decision : ApprovalDecision} {freezeActive windowsClosed : Bool}
    (h : approveChangeRequest users db actor crId decision freezeActive windowsClosed = .ok db') :
    ∃ cr level, db.changeRequests crId = some cr ∧ cr.status = .awaitingApproval ∧
      cr.riskLevel = some level ∧
      ((decision = .approved ∧
          Satisfied (roleOf users) level (db.approvalsOf crId ++ [⟨crId,actor,decision⟩])) ∧
        db' = (db.addApproval ⟨crId,actor,decision⟩).put
          { cr with status := if windowsClosed then .queuedForMaintenance else .approved } ∨
      ¬(decision = .approved ∧
          Satisfied (roleOf users) level (db.approvalsOf crId ++ [⟨crId,actor,decision⟩])) ∧
        db' = db.addApproval ⟨crId,actor,decision⟩) := by
  simp only [approveChangeRequest,bind_eq_ok,ite_eq_ok,throw_ne_ok,false_and,
    exists_false,and_false,false_or,getCr_ok] at h
  obtain ⟨_,cr,⟨hcr,_⟩,hs,_,_,h⟩ := h
  cases hl : cr.riskLevel with
  | none => simp [hl] at h
  | some level =>
    have hrows := approvalsOf_addApproval_self db ⟨crId,actor,decision⟩
    simp only [hl,hrows,ite_eq_ok,pure_eq_ok] at h
    refine ⟨cr,level,hcr,not_not.mp hs,hl,?_⟩
    rw [hl]
    rcases h with ⟨hc,h⟩ | ⟨hc,h⟩
    · exact Or.inl ⟨hc,h.symm⟩
    · exact Or.inr ⟨hc,h.symm⟩

theorem mcpApproveChangeRequest_ok (h : mcpApproveChangeRequest users db actor crId = .ok db') :
    ∃ cr, db.changeRequests crId = some cr ∧
      ((users actor).role = .approver ∨ (users actor).role = .admin) ∧ cr.requesterId ≠ actor ∧
      (cr.status = .draft ∨ cr.status = .awaitingApproval) ∧
      db' = (db.addApproval ⟨crId,actor,.approved⟩).put { cr with status := .approved } := by
  simp only [mcpApproveChangeRequest,bind_eq_ok,ite_eq_ok,throw_ne_ok,false_and,
    exists_false,and_false,false_or,mcpGetCr_ok,pure_eq_ok] at h
  obtain ⟨hrole,cr,⟨hcr,_⟩,hreq,hs,h⟩ := h
  refine ⟨cr,hcr,by simpa using hrole,hreq,?_,h.symm⟩
  by_contra hn
  exact hs (not_or.mp hn)

/-- What the reject and cancel requests do when accepted. -/
def Rejects (db db' : Db) (crId : Uuid) : Prop :=
  ∃ cr, db.changeRequests crId = some cr ∧
    (db' = db.put { cr with status := .rejected } ∨
      ∃ actor, db' = (db.addApproval ⟨crId,actor,.rejected⟩).put { cr with status := .rejected })

theorem rejectChangeRequest_ok (h : rejectChangeRequest users db actor crId = .ok db') :
    Rejects db db' crId := by
  simp only [rejectChangeRequest,bind_eq_ok,ite_eq_ok,throw_ne_ok,false_and,
    exists_false,and_false,false_or,getCr_ok,pure_eq_ok] at h
  obtain ⟨cr,⟨hcr,_⟩,_,_,h⟩ := h
  exact ⟨cr,hcr,Or.inr ⟨actor,h.symm⟩⟩

theorem mcpRejectChangeRequest_ok (h : mcpRejectChangeRequest users db actor crId = .ok db') :
    Rejects db db' crId := by
  simp only [mcpRejectChangeRequest,bind_eq_ok,ite_eq_ok,throw_ne_ok,false_and,
    exists_false,and_false,false_or,mcpGetCr_ok,pure_eq_ok] at h
  obtain ⟨_,cr,⟨hcr,_⟩,h⟩ := h
  exact ⟨cr,hcr,Or.inr ⟨actor,h.symm⟩⟩

theorem cancelChangeRequest_ok (h : cancelChangeRequest users db actor crId = .ok db') :
    Rejects db db' crId := by
  simp only [cancelChangeRequest,bind_eq_ok,ite_eq_ok,throw_ne_ok,false_and,
    exists_false,and_false,false_or,getCr_ok,pure_eq_ok] at h
  obtain ⟨cr,⟨hcr,_⟩,_,_,h⟩ := h
  exact ⟨cr,hcr,Or.inl h.symm⟩

/-- What the approval rows of a change request look like in each status: none before it is
submitted, and not yet enough of them while it is awaiting approval. -/
def Consistent (roleOf : Uuid → UserRole) (cr : ChangeRequest) (rows : List Approval) : Prop :=
  match cr.status with
  | .draft => rows = []
  | .planned => rows = [] ∧ ∃ level, cr.riskLevel = some level
  | .awaitingApproval => ∃ level, cr.riskLevel = some level ∧ ¬Satisfied roleOf level rows
  | _ => True

structure Inv (users : Uuid → User) (db : Db) : Prop where
  keyed : ∀ id cr, db.changeRequests id = some cr → cr.id = id
  referenced : ∀ a ∈ db.approvals, db.changeRequests a.changeRequestId ≠ none
  consistent : ∀ id cr, db.changeRequests id = some cr →
    Consistent (roleOf users) cr (db.approvalsOf id)

theorem Inv.write {cr : ChangeRequest} (hi : Inv users db) (hw : Writes db db' cr)
    (hc : Consistent (roleOf users) cr (db'.approvalsOf cr.id)) : Inv users db' := by
  refine ⟨?_,?_,?_⟩
  · intro id cr' h
    rw [hw.row] at h
    by_cases hid : id = cr.id
    · rw [if_pos hid] at h
      obtain rfl := Option.some.inj h
      exact hid.symm
    · rw [if_neg hid] at h
      exact hi.keyed id cr' h
  · intro a ha
    rw [hw.row]
    by_cases hid : a.changeRequestId = cr.id
    · simp [hid]
    · have hmem : a ∈ db'.approvalsOf a.changeRequestId := by simpa [Db.approvalsOf] using ha
      rw [hw.others _ hid] at hmem
      rw [if_neg hid]
      exact hi.referenced a (List.mem_filter.mp hmem).1
  · intro id cr' h
    rw [hw.row] at h
    by_cases hid : id = cr.id
    · rw [if_pos hid] at h
      obtain rfl := Option.some.inj h
      rw [hid]
      exact hc
    · rw [if_neg hid] at h
      rw [hw.others id hid]
      exact hi.consistent id cr' h

theorem Inv.empty : Inv users Db.empty :=
  ⟨by simp [Db.empty],by simp [Db.empty],by simp [Db.empty]⟩

theorem Inv.approvalsOf_new (hi : Inv users db) (h : db.changeRequests crId = none) :
    db.approvalsOf crId = [] := by
  rw [Db.approvalsOf,List.filter_eq_nil_iff]
  intro a ha hid
  have hid : a.changeRequestId = crId := by simpa using hid
  exact hi.referenced a ha (hid ▸ h)

theorem Inv.rejects (hi : Inv users db) (h : Rejects db db' crId) : Inv users db' := by
  obtain ⟨cr,hcr,rfl | ⟨actor,rfl⟩⟩ := h
  · exact hi.write (writes_put db _) (by simp [Consistent])
  · have hid : cr.id = crId := hi.keyed crId cr hcr
    exact hi.write (writes_addApproval_put _ _ _ hid.symm) (by simp [Consistent])

/-- The row a bulk decision leaves for a change request it names. -/
def bulkDecide (user : User) (decision : String) (cr : ChangeRequest) : ChangeRequest :=
  if cr.organizationId = user.organizationId ∧ cr.status = .awaitingApproval then
    if cr.riskLevel = some .critical ∧ decision = "approved" then cr
    else { cr with status := if decision = "approved" then .approved else .rejected }
  else cr

theorem bulkDecide_idem (user : User) (decision : String) (cr : ChangeRequest) :
    bulkDecide user decision (bulkDecide user decision cr) = bulkDecide user decision cr := by
  unfold bulkDecide
  by_cases ho : cr.organizationId = user.organizationId ∧ cr.status = .awaitingApproval
  · by_cases hc : cr.riskLevel = some .critical ∧ decision = "approved"
    · simp [ho,hc]
    · by_cases hd : decision = "approved"
      · have hl : cr.riskLevel ≠ some .critical := fun hl => hc ⟨hl,hd⟩
        simp [ho,hd,hl]
      · simp [ho,hd]
  · simp [ho]

@[simp] theorem bulkDecide_id (user : User) (decision : String) (cr : ChangeRequest) :
    (bulkDecide user decision cr).id = cr.id := by
  unfold bulkDecide
  split
  · split <;> rfl
  · rfl

theorem bulkApproveOne_row (user : User) (decision : String)
    (hk : ∀ id cr, db.changeRequests id = some cr → cr.id = id) (id : Uuid) :
    (bulkApproveOne user decision db crId).changeRequests id =
      if id = crId then (db.changeRequests id).map (bulkDecide user decision)
      else db.changeRequests id := by
  cases hcr : db.changeRequests crId with
  | none =>
    by_cases hid : id = crId
    · simp [bulkApproveOne,hcr,hid]
    · simp [bulkApproveOne,hcr,hid]
  | some cr =>
    have hkey := hk crId cr hcr
    by_cases ho : cr.organizationId = user.organizationId ∧ cr.status = .awaitingApproval
    · by_cases hc : cr.riskLevel = some .critical ∧ decision = "approved"
      · by_cases hid : id = crId <;> simp [bulkApproveOne,bulkDecide,hcr,ho,hc,hid]
      · by_cases hd : decision = "approved"
        · have hl : cr.riskLevel ≠ some .critical := fun hl => hc ⟨hl,hd⟩
          by_cases hid : id = crId <;>
            simp [bulkApproveOne,bulkDecide,hcr,ho,hl,hd,hid,Db.put,hkey]
        · by_cases hid : id = crId <;>
            simp [bulkApproveOne,bulkDecide,hcr,ho,hd,hid,Db.put,hkey]
    · by_cases hid : id = crId <;> simp [bulkApproveOne,bulkDecide,hcr,ho,hid]

theorem bulkApproveOne_approvals (user : User) (decision : String) (db : Db) (crId : Uuid) :
    (bulkApproveOne user decision db crId).approvals = db.approvals := by
  unfold bulkApproveOne
  repeat' split
  all_goals rfl

theorem bulkApproveOne_keyed (user : User) (decision : String)
    (hk : ∀ id cr, db.changeRequests id = some cr → cr.id = id) :
    ∀ id cr, (bulkApproveOne user decision db crId).changeRequests id = some cr → cr.id = id := by
  intro id cr h
  rw [bulkApproveOne_row user decision hk] at h
  by_cases hid : id = crId
  · rw [if_pos hid] at h
    obtain ⟨old,hold,rfl⟩ := Option.map_eq_some_iff.mp h
    rw [bulkDecide_id]
    exact hk id old hold
  · rw [if_neg hid] at h
    exact hk id cr h

/-- A bulk request decides each change request it names once, whatever the order and the
repetitions of its list. -/
theorem bulkApprove_row (user : User) (decision : String) (crIds : List Uuid)
    (hk : ∀ id cr, db.changeRequests id = some cr → cr.id = id) (id : Uuid) :
    (crIds.foldl (bulkApproveOne user decision) db).changeRequests id =
      if id ∈ crIds then (db.changeRequests id).map (bulkDecide user decision)
      else db.changeRequests id := by
  induction crIds generalizing db with
  | nil => simp
  | cons crId crIds ih =>
    rw [List.foldl_cons,ih (bulkApproveOne_keyed user decision hk),
      bulkApproveOne_row user decision hk]
    by_cases hid : id = crId
    · by_cases hm : crId ∈ crIds
      · simp [hid,hm,Option.map_map,Function.comp_def,bulkDecide_idem]
      · simp [hid,hm]
    · simp [hid]

theorem bulkApprove_approvals (user : User) (decision : String) (crIds : List Uuid) (db : Db) :
    (crIds.foldl (bulkApproveOne user decision) db).approvals = db.approvals := by
  induction crIds generalizing db with
  | nil => rfl
  | cons crId crIds ih => rw [List.foldl_cons,ih,bulkApproveOne_approvals]

theorem bulkApprove_ok {crIds : List Uuid} {decision : String}
    (h : bulkApprove users db actor crIds decision = .ok db') :
    ((users actor).role = .approver ∨ (users actor).role = .admin) ∧
      db' = crIds.foldl (bulkApproveOne (users actor) decision) db := by
  simp only [bulkApprove,ite_eq_ok,throw_ne_ok,bind_eq_ok,pure_eq_ok,false_and,exists_false,
    and_false,false_or] at h
  exact ⟨by simpa using h.1,h.2.symm⟩

theorem bulkDecide_consistent {user : User} {decision : String} {cr : ChangeRequest}
    {rows : List Approval} (h : Consistent (roleOf users) cr rows) :
    Consistent (roleOf users) (bulkDecide user decision cr) rows := by
  unfold bulkDecide
  split
  · split
    · exact h
    · by_cases hd : decision = "approved" <;> simp [Consistent,hd]
  · exact h

theorem Inv.bulkApprove {crIds : List Uuid} {decision : String} (hi : Inv users db)
    (h : bulkApprove users db actor crIds decision = .ok db') : Inv users db' := by
  obtain ⟨_,rfl⟩ := bulkApprove_ok h
  have hrow := bulkApprove_row (users actor) decision crIds hi.keyed
  have happ := bulkApprove_approvals (users actor) decision crIds db
  refine ⟨?_,?_,?_⟩
  · intro id cr hcr
    rw [hrow] at hcr
    split at hcr
    · obtain ⟨old,hold,rfl⟩ := Option.map_eq_some_iff.mp hcr
      exact (bulkDecide_id _ _ old).trans (hi.keyed id old hold)
    · exact hi.keyed id cr hcr
  · intro a ha
    rw [happ] at ha
    have hne := hi.referenced a ha
    rw [hrow]
    split
    · simpa using hne
    · exact hne
  · intro id cr hcr
    rw [hrow] at hcr
    simp only [Db.approvalsOf,happ]
    split at hcr
    · obtain ⟨old,hold,rfl⟩ := Option.map_eq_some_iff.mp hcr
      exact bulkDecide_consistent (hi.consistent id old hold)
    · exact hi.consistent id cr hcr

theorem Inv.handle {req : Request} (hi : Inv users db) (h : handle users db req = .ok db') :
    Inv users db' := by
  cases req with
  | create actor id changeType targets desired =>
    obtain ⟨cr,hnone,hdraft,rfl⟩ := createChangeRequest_ok h
    have hrows : db.approvalsOf cr.id = [] := hi.approvalsOf_new hnone
    exact hi.write (writes_put db cr) (by simpa [Consistent,hdraft] using hrows)
  | plan actor crId outcome =>
    obtain ⟨cr,level,plan,hcr,_,rfl⟩ := generateChangePlan_ok h
    obtain rfl : cr.id = crId := hi.keyed crId cr hcr
    exact hi.write (writes_deleteApprovals_put db _) (by simp [Consistent])
  | submitForApproval actor crId =>
    obtain ⟨cr,level,hcr,hs,hl,rfl⟩ := submitForApproval_ok h
    obtain rfl : cr.id = crId := hi.keyed crId cr hcr
    have hc : db.approvalsOf cr.id = [] := by
      have := hi.consistent _ cr hcr
      simp only [Consistent,hs] at this
      exact this.1
    refine hi.write (writes_put db _) ?_
    simpa [Consistent,hl,hc] using (satisfied_decisive (roleOf users) level).not_nil
  | mcpSubmitForApproval actor crId outcome =>
    obtain ⟨cr,cr',hcr,hs,rfl⟩ := mcpSubmitForApproval_ok h
    obtain rfl : cr.id = crId := hi.keyed crId cr hcr
    have hc := hi.consistent _ cr hcr
    obtain ⟨hid,hrows,level,hl⟩ : cr'.id = cr.id ∧ db.approvalsOf cr.id = [] ∧
        ∃ level, cr'.riskLevel = some level := by
      rcases hs with ⟨hs,rfl⟩ | ⟨hs,hp⟩
      · simp only [Consistent,hs] at hc
        exact ⟨rfl,hc⟩
      · obtain ⟨level,plan,rfl⟩ := planCr_ok hp
        simp only [Consistent,hs] at hc
        exact ⟨rfl,hc,level,rfl⟩
    refine hi.write (writes_put db _) ?_
    simpa [Consistent,hl,hid,hrows] using (satisfied_decisive (roleOf users) level).not_nil
  | approve actor crId decision freezeActive windowsClosed =>
    obtain ⟨cr,level,hcr,hs,hl,⟨hc,rfl⟩ | ⟨hc,rfl⟩⟩ := approveChangeRequest_ok h
    · have hid : cr.id = crId := hi.keyed crId cr hcr
      refine hi.write (writes_addApproval_put _ _ _ hid.symm) ?_
      cases windowsClosed <;> simp [Consistent]
    · obtain rfl : cr.id = crId := hi.keyed crId cr hcr
      refine hi.write (writes_addApproval rfl hcr) ?_
      have hold := hi.consistent _ cr hcr
      simp only [Consistent,hs,hl] at hold ⊢
      obtain ⟨level',hl',hn⟩ := hold
      obtain rfl := Option.some.inj hl'
      refine ⟨level,rfl,?_⟩
      rw [approvalsOf_addApproval_self db ⟨cr.id,actor,decision⟩,
        (satisfied_decisive (roleOf users) level).append]
      rintro (h1 | h1)
      · exact hn h1
      · have hd := ((satisfied_singleton _ _ _).mp h1).1
        exact hc ⟨hd,((satisfied_decisive _ _).append _ _).mpr (Or.inr h1)⟩
  | bulkApprove actor crIds decision => exact hi.bulkApprove h
  | mcpApprove actor crId =>
    obtain ⟨cr,hcr,_,_,_,rfl⟩ := mcpApproveChangeRequest_ok h
    have hid : cr.id = crId := hi.keyed crId cr hcr
    exact hi.write (writes_addApproval_put _ _ _ hid.symm) (by simp [Consistent])
  | reject actor crId => exact hi.rejects (rejectChangeRequest_ok h)
  | mcpReject actor crId => exact hi.rejects (mcpRejectChangeRequest_ok h)
  | cancel actor crId => exact hi.rejects (cancelChangeRequest_ok h)

theorem inv_inductive (users : Uuid → User) :
    Runs.Inductive (requestSystem users) (Inv users) := by
  refine ⟨?_,?_⟩
  · rintro db rfl
    exact Inv.empty
  · intro db req db' hi h
    exact hi.handle (Checks.toOption_eq_some.mp h)

end

end Nexplane
