import Nexplane.SeparationOfDuties

set_option autoImplicit false

/-! Approval requests that overlap, statement by statement, under read-committed isolation and
without row locks; every other request is one step. -/

namespace Nexplane
open Runs Checks

/-- The last statement an approval request has executed. A decided request holds the status it
assigned to the change request, if it assigned one. -/
inductive ApprovePhase where
  | loaded
  | checked
  | inserted
  | decided (status : Option ChangeRequestStatus)

/-- An open transaction of `approve_change_request` with the row it loaded. -/
structure ApproveTxn where
  actor : Uuid
  cr : ChangeRequest
  decision : ApprovalDecision
  phase : ApprovePhase

/-- The row the transaction inserts, which only it sees until it commits. -/
def ApproveTxn.approval (txn : ApproveTxn) : Approval :=
  { changeRequestId := txn.cr.id, approverId := txn.actor, decision := txn.decision }

structure ConcurrentDb where
  db : Db
  txns : Nat → Option ApproveTxn

inductive ConcurrentEvent where
  | request (req : Request)
  | selectCr (txnId : Nat) (actor crId : Uuid) (decision : ApprovalDecision) (freezeActive : Bool)
  | selectExisting (txnId : Nat)
  | insertApproval (txnId : Nat)
  | selectApprovals (txnId : Nat) (windowsClosed : Bool)
  | commit (txnId : Nat)

def ConcurrentDb.setTxn (s : ConcurrentDb) (txnId : Nat) (txn : Option ApproveTxn) :
    ConcurrentDb :=
  { s with txns := fun i => if i = txnId then txn else s.txns i }

section
variable (users : Uuid → User)

def selectCr (s : ConcurrentDb) (txnId : Nat) (actor crId : Uuid) (decision : ApprovalDecision)
    (freezeActive : Bool) : Except Refusal ConcurrentDb := do
  if freezeActive then
    throw (.http 423 "change_freeze_active")
  let cr ← getCr s.db crId (users actor).organizationId
  if cr.status ≠ .awaitingApproval then
    throw (.http 400 "Change request is not awaiting approval")
  if !mayApprove (users actor) then
    throw (.http 403 "Only approvers and admins can approve change requests")
  return s.setTxn txnId
    (some { actor := actor, cr := cr, decision := decision, phase := .loaded })

/-- A request that is turned down closes its transaction. -/
def selectExisting (s : ConcurrentDb) (txnId : Nat) (txn : ApproveTxn) : ConcurrentDb :=
  if (s.db.approvalsOf txn.cr.id).any fun a => a.approverId = txn.actor then
    s.setTxn txnId none
  else s.setTxn txnId (some { txn with phase := .checked })

def insertApproval (s : ConcurrentDb) (txnId : Nat) (txn : ApproveTxn) : ConcurrentDb :=
  s.setTxn txnId (some { txn with phase := .inserted })

/-- The committed rows and the transaction's own one decide. -/
def selectApprovals (s : ConcurrentDb) (txnId : Nat) (txn : ApproveTxn) (windowsClosed : Bool) :
    ConcurrentDb :=
  match txn.cr.riskLevel with
  | none => s.setTxn txnId none
  | some level =>
    let allApprovals := s.db.approvalsOf txn.cr.id ++ [txn.approval]
    let reqCheck := checkApprovalRequirements (roleOf users) level allApprovals
    let status : Option ChangeRequestStatus :=
      if txn.decision = .approved ∧ reqCheck.satisfied then
        some (if windowsClosed then .queuedForMaintenance else .approved)
      else none
    s.setTxn txnId (some { txn with phase := .decided status })

/-- The commit writes the inserted row and, of the change request, only the status that was
assigned. -/
def commitApproval (s : ConcurrentDb) (txnId : Nat) (txn : ApproveTxn)
    (status : Option ChangeRequestStatus) : ConcurrentDb :=
  let db := s.db.addApproval txn.approval
  let db :=
    match status, db.changeRequests txn.cr.id with
    | some status, some row => db.put { row with status := status }
    | _, _ => db
  { s with db := db }.setTxn txnId none

def concurrentStep (s : ConcurrentDb) : ConcurrentEvent → Option ConcurrentDb
  | .request req => ((requestSystem users).step s.db req).map fun db => { s with db := db }
  | .selectCr txnId actor crId decision freezeActive =>
    match s.txns txnId with
    | some _ => none
    | none => (selectCr users s txnId actor crId decision freezeActive).toOption
  | .selectExisting txnId =>
    match s.txns txnId with
    | some txn => match txn.phase with
      | .loaded => some (selectExisting s txnId txn)
      | _ => none
    | none => none
  | .insertApproval txnId =>
    match s.txns txnId with
    | some txn => match txn.phase with
      | .checked => some (insertApproval s txnId txn)
      | _ => none
    | none => none
  | .selectApprovals txnId windowsClosed =>
    match s.txns txnId with
    | some txn => match txn.phase with
      | .inserted => some (selectApprovals users s txnId txn windowsClosed)
      | _ => none
    | none => none
  | .commit txnId =>
    match s.txns txnId with
    | some txn => match txn.phase with
      | .decided status => some (commitApproval s txnId txn status)
      | _ => none
    | none => none

def concurrentSystem : System ConcurrentDb ConcurrentEvent where
  start s := s = { db := Db.empty, txns := fun _ => none }
  step := concurrentStep users

end

/-- A change request that has left planning behind; no request brings it back. -/
def Submitted (cr : ChangeRequest) : Prop := cr.status ≠ .draft ∧ cr.status ≠ .planned

section
variable {users : Uuid → User} {pre post : Db} {crId : Uuid}

/-- A submitted row keeps its risk level and stays submitted. -/
def KeepsSubmitted (pre post : Db) : Prop :=
  ∀ crId cr, pre.changeRequests crId = some cr → Submitted cr →
    ∃ cr', post.changeRequests crId = some cr' ∧ Submitted cr' ∧ cr'.riskLevel = cr.riskLevel

theorem Writes.keepsSubmitted {old cr : ChangeRequest} (hw : Writes pre post cr)
    (hold : pre.changeRequests cr.id = some old)
    (h : Submitted old → Submitted cr ∧ cr.riskLevel = old.riskLevel) :
    KeepsSubmitted pre post := by
  intro id c hc hs
  rw [hw.row]
  by_cases hid : id = cr.id
  · rw [if_pos hid]
    obtain rfl : old = c := Option.some.inj (hold.symm.trans (hid ▸ hc))
    exact ⟨cr,rfl,h hs⟩
  · rw [if_neg hid]
    exact ⟨c,hc,hs,rfl⟩

theorem Rejects.keepsSubmitted (hi : Inv users pre) (h : Rejects pre post crId) :
    KeepsSubmitted pre post := by
  obtain ⟨cr,hcr,rfl | ⟨actor,rfl⟩⟩ := h
  · obtain rfl := hi.keyed crId cr hcr
    exact (writes_put pre _).keepsSubmitted hcr fun _ => ⟨by simp [Submitted],rfl⟩
  · obtain rfl := hi.keyed crId cr hcr
    exact (writes_addApproval_put _ _ _ rfl).keepsSubmitted hcr fun _ => ⟨by simp [Submitted],rfl⟩

theorem create_keepsSubmitted {actor id : Uuid} {changeType : ChangeType} {targets : List Uuid}
    {desired : PyValue.Dict}
    (h : createChangeRequest users pre actor id changeType targets desired = .ok post) :
    KeepsSubmitted pre post := by
  obtain ⟨cr,hnone,_,rfl⟩ := createChangeRequest_ok h
  intro id' c hc hs
  rw [(writes_put pre cr).row,if_neg (by rintro rfl; simp [hnone] at hc)]
  exact ⟨c,hc,hs,rfl⟩

theorem bulkApprove_keepsSubmitted {actor : Uuid} {crIds : List Uuid} {decision : String}
    (hi : Inv users pre) (h : bulkApprove users pre actor crIds decision = .ok post) :
    KeepsSubmitted pre post := by
  obtain ⟨_,rfl⟩ := bulkApprove_ok h
  intro id c hc hs
  rw [bulkApprove_row _ _ _ hi.keyed,hc]
  split
  · refine ⟨_,rfl,?_⟩
    unfold bulkDecide
    split
    · split
      · exact ⟨hs,rfl⟩
      · by_cases hd : decision = "approved" <;> simp [Submitted,hd]
    · exact ⟨hs,rfl⟩
  · exact ⟨c,rfl,hs,rfl⟩

theorem handle_keepsSubmitted {req : Request} (hi : Inv users pre)
    (h : handle users pre req = .ok post) : KeepsSubmitted pre post := by
  cases req with
  | create => exact create_keepsSubmitted h
  | plan actor crId outcome =>
    obtain ⟨cr,level,plan,hcr,hs,rfl⟩ := generateChangePlan_ok h
    obtain rfl := hi.keyed crId cr hcr
    refine (writes_deleteApprovals_put pre _).keepsSubmitted hcr fun hsub => ?_
    exact absurd hs (not_or.mpr hsub)
  | submitForApproval actor crId =>
    obtain ⟨cr,level,hcr,_,_,rfl⟩ := submitForApproval_ok h
    obtain rfl := hi.keyed crId cr hcr
    exact (writes_put pre _).keepsSubmitted hcr fun _ => ⟨by simp [Submitted],rfl⟩
  | mcpSubmitForApproval actor crId outcome =>
    obtain ⟨cr,cr',hcr,hs,rfl⟩ := mcpSubmitForApproval_ok h
    obtain rfl := hi.keyed crId cr hcr
    rcases hs with ⟨hs,rfl⟩ | ⟨hs,hp⟩
    · exact (writes_put pre _).keepsSubmitted hcr fun hsub => absurd hs hsub.2
    · obtain ⟨level,plan,rfl⟩ := planCr_ok hp
      exact (writes_put pre _).keepsSubmitted hcr fun hsub => absurd hs hsub.1
  | approve actor crId decision freezeActive windowsClosed =>
    obtain ⟨cr,level,hcr,hs,_,⟨_,rfl⟩ | ⟨_,rfl⟩⟩ := approveChangeRequest_ok h
    · obtain rfl := hi.keyed crId cr hcr
      refine (writes_addApproval_put _ _ _ rfl).keepsSubmitted hcr fun _ => ⟨?_,rfl⟩
      cases windowsClosed <;> simp [Submitted]
    · obtain rfl := hi.keyed crId cr hcr
      exact (writes_addApproval rfl hcr).keepsSubmitted hcr fun hsub => ⟨hsub,rfl⟩
  | bulkApprove => exact bulkApprove_keepsSubmitted hi h
  | mcpApprove actor crId =>
    obtain ⟨cr,hcr,_,_,_,rfl⟩ := mcpApproveChangeRequest_ok h
    obtain rfl := hi.keyed crId cr hcr
    exact (writes_addApproval_put _ _ _ rfl).keepsSubmitted hcr fun _ => ⟨by simp [Submitted],rfl⟩
  | reject => exact (rejectChangeRequest_ok h).keepsSubmitted hi
  | mcpReject => exact (mcpRejectChangeRequest_ok h).keepsSubmitted hi
  | cancel => exact (cancelChangeRequest_ok h).keepsSubmitted hi

/-- The change request of an open transaction stays submitted at the risk level it was loaded
with, and a transaction that assigned no status holds no deciding approval. -/
structure TxnOk (users : Uuid → User) (db : Db) (txn : ApproveTxn) : Prop where
  row : ∃ cr, db.changeRequests txn.cr.id = some cr ∧ Submitted cr ∧
    cr.riskLevel = txn.cr.riskLevel
  undecided : txn.phase = .decided none → ∀ level, txn.cr.riskLevel = some level →
    ¬Satisfied (roleOf users) level [txn.approval]
  decided : ∀ status, txn.phase = .decided (some status) →
    status = .approved ∨ status = .queuedForMaintenance

structure ConcurrentInv (users : Uuid → User) (s : ConcurrentDb) : Prop where
  db : Inv users s.db
  txns : ∀ i txn, s.txns i = some txn → TxnOk users s.db txn

theorem TxnOk.keep {txn : ApproveTxn} (h : TxnOk users pre txn) (hk : KeepsSubmitted pre post) :
    TxnOk users post txn := by
  obtain ⟨cr,hcr,hs,hl⟩ := h.row
  obtain ⟨cr',hcr',hs',hl'⟩ := hk _ cr hcr hs
  exact ⟨⟨cr',hcr',hs',hl'.trans hl⟩,h.undecided,h.decided⟩

theorem ConcurrentInv.setTxn {s : ConcurrentDb} {i : Nat} {txn : Option ApproveTxn}
    (hi : ConcurrentInv users s) (h : ∀ t, txn = some t → TxnOk users s.db t) :
    ConcurrentInv users (s.setTxn i txn) := by
  refine ⟨hi.db,fun j t ht => ?_⟩
  by_cases hj : j = i
  · exact h t (by simpa [ConcurrentDb.setTxn,hj] using ht)
  · exact hi.txns j t (by simpa [ConcurrentDb.setTxn,hj] using ht)

theorem selectCr_inv {s s' : ConcurrentDb} {i : Nat} {actor : Uuid}
    {decision : ApprovalDecision} {freezeActive : Bool} (hi : ConcurrentInv users s)
    (h : selectCr users s i actor crId decision freezeActive = .ok s') :
    ConcurrentInv users s' := by
  simp only [selectCr,bind_eq_ok,ite_eq_ok,throw_ne_ok,pure_eq_ok,false_and,exists_false,
    and_false,false_or,getCr_ok] at h
  obtain ⟨_,cr,⟨hcr,_⟩,hs,_,rfl⟩ := h
  obtain rfl := hi.db.keyed crId cr hcr
  refine hi.setTxn fun t ht => ?_
  obtain rfl := Option.some.inj ht
  exact ⟨⟨cr,hcr,by simp [Submitted,not_not.mp hs],rfl⟩,by simp,by simp⟩

theorem selectApprovals_inv {s : ConcurrentDb} {i : Nat} {txn : ApproveTxn}
    {windowsClosed : Bool} (hi : ConcurrentInv users s) (ht : s.txns i = some txn) :
    ConcurrentInv users (selectApprovals users s i txn windowsClosed) := by
  have hok := hi.txns i txn ht
  unfold selectApprovals
  cases hl : txn.cr.riskLevel with
  | none => exact hi.setTxn (by simp)
  | some level =>
    refine hi.setTxn fun t he => ?_
    obtain rfl := Option.some.inj he
    refine ⟨hok.row,fun hnone level' hl' hself => ?_,fun status hst => ?_⟩
    · obtain rfl : level = level' := Option.some.inj (hl.symm.trans hl')
      have hd := ((satisfied_singleton _ _ _).mp hself).1
      have hall : Satisfied (roleOf users) level (s.db.approvalsOf txn.cr.id ++ [txn.approval]) :=
        ((satisfied_decisive _ _).append _ _).mpr (Or.inr hself)
      have hd : txn.decision = .approved := hd
      simp [hd,show (checkApprovalRequirements (roleOf users) level
        (s.db.approvalsOf txn.cr.id ++ [txn.approval])).satisfied = true from hall] at hnone
    · cases windowsClosed <;> simp_all

theorem commitApproval_inv {s : ConcurrentDb} {i : Nat} {txn : ApproveTxn}
    {status : Option ChangeRequestStatus} (hi : ConcurrentInv users s)
    (ht : s.txns i = some txn) (hp : txn.phase = .decided status) :
    ConcurrentInv users (commitApproval s i txn status) := by
  have hok := hi.txns i txn ht
  obtain ⟨cr,hcr,hsub,hlevel⟩ := hok.row
  have hid : cr.id = txn.cr.id := hi.db.keyed _ cr hcr
  have hrow : s.db.changeRequests cr.id = some cr := by
    rw [hid]
    exact hcr
  have hcr' : (s.db.addApproval txn.approval).changeRequests txn.cr.id = some cr := hcr
  have key : ∀ db' : Db, Inv users db' → KeepsSubmitted s.db db' →
      ConcurrentInv users ({ s with db := db' }.setTxn i none) := by
    intro db' hdb hk
    have hs' : ConcurrentInv users { s with db := db' } :=
      ⟨hdb,fun j t hj => (hi.txns j t hj).keep hk⟩
    exact hs'.setTxn (by simp)
  cases status with
  | none =>
    refine key _ ?_ ?_
    · have hw : Writes s.db (s.db.addApproval txn.approval) cr :=
        writes_addApproval hid.symm hrow
      refine hi.db.write hw ?_
      have hold := hi.db.consistent _ cr hcr
      have hrows : (s.db.addApproval txn.approval).approvalsOf cr.id =
          s.db.approvalsOf txn.cr.id ++ [txn.approval] := by
        rw [hid]
        exact approvalsOf_addApproval_self s.db txn.approval
      simp only [Consistent] at hold ⊢
      split
      next hs => exact absurd hs hsub.1
      next hs => exact absurd hs hsub.2
      next hs =>
        simp only [hs] at hold
        obtain ⟨level,hl,hno⟩ := hold
        refine ⟨level,hl,?_⟩
        rw [hrows,(satisfied_decisive _ _).append]
        rintro (h1 | h1)
        · exact hno h1
        · exact hok.undecided hp level (hlevel ▸ hl) h1
      next => trivial
    · exact (writes_addApproval hid.symm hrow).keepsSubmitted hrow
        fun hs => ⟨hs,rfl⟩
  | some status =>
    simp only [commitApproval,hcr']
    have hw : Writes s.db ((s.db.addApproval txn.approval).put { cr with status := status })
        { cr with status := status } := writes_addApproval_put _ _ _ hid.symm
    have hst := hok.decided status hp
    refine key _ (hi.db.write hw ?_) (hw.keepsSubmitted hrow fun _ => ⟨?_,rfl⟩)
    · rcases hst with rfl | rfl <;> simp [Consistent]
    · rcases hst with rfl | rfl <;> simp [Submitted]

theorem selectExisting_accepted {s s' : ConcurrentDb} {i : Nat}
    (h : concurrentStep users s (.selectExisting i) = some s') :
    ∃ txn, s.txns i = some txn ∧ txn.phase = .loaded ∧ s' = selectExisting s i txn := by
  simp only [concurrentStep] at h
  split at h
  · rename_i txn htxn
    split at h
    · rename_i hphase
      exact ⟨txn,htxn,hphase,(Option.some.inj h).symm⟩
    · cases h
  · cases h

theorem insertApproval_accepted {s s' : ConcurrentDb} {i : Nat}
    (h : concurrentStep users s (.insertApproval i) = some s') :
    ∃ txn, s.txns i = some txn ∧ txn.phase = .checked ∧ s' = insertApproval s i txn := by
  simp only [concurrentStep] at h
  split at h
  · rename_i txn htxn
    split at h
    · rename_i hphase
      exact ⟨txn,htxn,hphase,(Option.some.inj h).symm⟩
    · cases h
  · cases h

theorem selectApprovals_accepted {s s' : ConcurrentDb} {i : Nat} {windowsClosed : Bool}
    (h : concurrentStep users s (.selectApprovals i windowsClosed) = some s') :
    ∃ txn, s.txns i = some txn ∧ txn.phase = .inserted ∧
      s' = selectApprovals users s i txn windowsClosed := by
  simp only [concurrentStep] at h
  split at h
  · rename_i txn htxn
    split at h
    · rename_i hphase
      exact ⟨txn,htxn,hphase,(Option.some.inj h).symm⟩
    · cases h
  · cases h

theorem commit_accepted {s s' : ConcurrentDb} {i : Nat}
    (h : concurrentStep users s (.commit i) = some s') :
    ∃ txn status, s.txns i = some txn ∧ txn.phase = .decided status ∧
      s' = commitApproval s i txn status := by
  simp only [concurrentStep] at h
  split at h
  · rename_i txn htxn
    split at h
    · rename_i status hphase
      exact ⟨txn,status,htxn,hphase,(Option.some.inj h).symm⟩
    · cases h
  · cases h

theorem concurrentStep_inv {s s' : ConcurrentDb} {e : ConcurrentEvent}
    (hi : ConcurrentInv users s) (h : concurrentStep users s e = some s') :
    ConcurrentInv users s' := by
  cases e with
  | request req =>
    obtain ⟨db,hdb,rfl⟩ := Option.map_eq_some_iff.mp h
    have hreq := requestSystem_step.mp hdb
    exact ⟨hi.db.handle hreq,
      fun j t hj => (hi.txns j t hj).keep (handle_keepsSubmitted hi.db hreq)⟩
  | selectCr i actor crId decision freezeActive =>
    cases ht : s.txns i with
    | some txn => simp [concurrentStep,ht] at h
    | none =>
      simp only [concurrentStep,ht] at h
      exact selectCr_inv hi (Checks.toOption_eq_some.mp h)
  | selectExisting i =>
    obtain ⟨txn,ht,_,rfl⟩ := selectExisting_accepted h
    unfold selectExisting
    split
    · exact hi.setTxn (by simp)
    · refine hi.setTxn fun t he => ?_
      obtain rfl := Option.some.inj he
      exact ⟨(hi.txns i txn ht).row,by simp,by simp⟩
  | insertApproval i =>
    obtain ⟨txn,ht,_,rfl⟩ := insertApproval_accepted h
    refine hi.setTxn fun t he => ?_
    obtain rfl := Option.some.inj he
    exact ⟨(hi.txns i txn ht).row,by simp,by simp⟩
  | selectApprovals i windowsClosed =>
    obtain ⟨txn,ht,_,rfl⟩ := selectApprovals_accepted h
    exact selectApprovals_inv hi ht
  | commit i =>
    obtain ⟨txn,status,ht,hp,rfl⟩ := commit_accepted h
    exact commitApproval_inv hi ht hp

theorem concurrentInv_inductive (users : Uuid → User) :
    Inductive (concurrentSystem users) (ConcurrentInv users) := by
  refine ⟨?_,fun s e s' hi h => concurrentStep_inv hi h⟩
  rintro s rfl
  exact ⟨Inv.empty,by simp⟩

end

/-- The statements of one approval request in a row. -/
def approveStatements (i : Nat) (actor crId : Uuid) (decision : ApprovalDecision)
    (freezeActive windowsClosed : Bool) : List ConcurrentEvent :=
  [.selectCr i actor crId decision freezeActive,.selectExisting i,.insertApproval i,
    .selectApprovals i windowsClosed,.commit i]

theorem setTxn_twice (s : ConcurrentDb) (i : Nat) (t t' : Option ApproveTxn) :
    (s.setTxn i t).setTxn i t' = s.setTxn i t' := by
  simp only [ConcurrentDb.setTxn,ConcurrentDb.mk.injEq,true_and]
  funext j
  by_cases hj : j = i <;> simp [hj]

theorem setTxn_none {s : ConcurrentDb} {i : Nat} (h : s.txns i = none) : s.setTxn i none = s := by
  have htxns : (fun j => if j = i then none else s.txns j) = s.txns := by
    funext j
    by_cases hj : j = i <;> simp [hj,h]
  simp only [ConcurrentDb.setTxn,htxns]

@[simp] theorem setTxn_txns_self (s : ConcurrentDb) (i : Nat) (t : Option ApproveTxn) :
    (s.setTxn i t).txns i = t := by
  simp [ConcurrentDb.setTxn]

@[simp] theorem setTxn_db (s : ConcurrentDb) (i : Nat) (t : Option ApproveTxn) :
    (s.setTxn i t).db = s.db := rfl

theorem commitApproval_setTxn {s : ConcurrentDb} {i : Nat} (h : s.txns i = none)
    (t : Option ApproveTxn) (txn : ApproveTxn) (status : Option ChangeRequestStatus) :
    commitApproval (s.setTxn i t) i txn status =
      { s with db := (commitApproval s i txn status).db } := by
  have htxns := congrArg ConcurrentDb.txns (setTxn_none h)
  simp only [ConcurrentDb.setTxn] at htxns
  simp only [commitApproval,ConcurrentDb.setTxn,ConcurrentDb.mk.injEq,true_and]
  rw [← htxns]
  funext j
  by_cases hj : j = i <;> simp [hj]

/-- Executed without interruption, the statements of an approval request are the request. -/
theorem approveStatements_eq (users : Uuid → User) {s : ConcurrentDb} (hi : Inv users s.db)
    {i : Nat} (ht : s.txns i = none) (actor crId : Uuid) (decision : ApprovalDecision)
    (freezeActive windowsClosed : Bool) :
    (concurrentSystem users).replay s
        (approveStatements i actor crId decision freezeActive windowsClosed) =
      (approveChangeRequest users s.db actor crId decision freezeActive windowsClosed).toOption.map
        fun db => { s with db := db } := by
  simp only [approveStatements,System.replay,concurrentSystem,concurrentStep,ht,selectCr,
    approveChangeRequest]
  by_cases hf : freezeActive
  · simp [hf,throw_def,error_bind,Except.toOption]
  cases hg : getCr s.db crId (users actor).organizationId with
  | error e => simp [hf,error_bind,Except.toOption]
  | ok cr =>
    obtain ⟨hcr,_⟩ := (getCr_ok _ _).mp hg
    obtain rfl := hi.keyed crId cr hcr
    by_cases hs : cr.status = .awaitingApproval
    swap
    · simp [hf,hs,throw_def,ok_bind,error_bind,Except.toOption]
    by_cases hr : mayApprove (users actor) = true
    swap
    · simp [hf,hs,hr,throw_def,ok_bind,error_bind,Except.toOption]
    by_cases he : ∃ a ∈ s.db.approvalsOf cr.id, a.approverId = actor
    · simp [hf,hs,hr,he,throw_def,pure_def,ok_bind,error_bind,Except.toOption,selectExisting]
    cases hl : cr.riskLevel with
    | none =>
      simp [hf,hs,hr,he,hl,throw_def,pure_def,ok_bind,Except.toOption,selectExisting,
        insertApproval,selectApprovals]
    | some level =>
      have hrows := approvalsOf_addApproval_self s.db ⟨cr.id,actor,decision⟩
      have hcr' : (s.db.addApproval ⟨cr.id,actor,decision⟩).changeRequests cr.id = some cr := hcr
      by_cases hc : decision = .approved ∧ (checkApprovalRequirements (roleOf users) level
          (s.db.approvalsOf cr.id ++ [⟨cr.id,actor,decision⟩])).satisfied = true
      · obtain ⟨rfl,hsat⟩ := hc
        simp [hf,hs,hr,he,hl,hsat,hrows,pure_def,ok_bind,Except.toOption,selectExisting,
          insertApproval,selectApprovals,ApproveTxn.approval,setTxn_twice]
        rw [commitApproval_setTxn ht]
        simp [commitApproval,ApproveTxn.approval,hcr',hl]
      · simp [hf,hs,hr,he,hl,hc,hrows,pure_def,ok_bind,Except.toOption,selectExisting,
          insertApproval,selectApprovals,ApproveTxn.approval,setTxn_twice]
        rw [commitApproval_setTxn ht]
        simp [commitApproval,ApproveTxn.approval]

/-- However approval requests and the other requests interleave, a change request whose committed
approvals meet its requirement is not left awaiting approval. -/
theorem no_approval_lost (users : Uuid → User) {tr : List (Transition ConcurrentDb ConcurrentEvent)}
    {s : ConcurrentDb} (h : Run (concurrentSystem users) tr s) {crId : Uuid} {cr : ChangeRequest}
    {level : RiskLevel} (hcr : s.db.changeRequests crId = some cr)
    (hl : cr.riskLevel = some level)
    (hsat : Satisfied (roleOf users) level (s.db.approvalsOf crId)) :
    cr.status ≠ .awaitingApproval := by
  intro hs
  obtain ⟨level',hl',hno⟩ := (h.invariant (concurrentInv_inductive users)).db.undecided hcr hs
  obtain rfl : level = level' := Option.some.inj (hl.symm.trans hl')
  exact hno hsat

/-- An approver and an admin approve the same change request at once: neither sees the row of
the other, and the admin commits first. -/
def sampleOverlap : List ConcurrentEvent :=
  [.request sampleCreate,
    .request (.plan "operator" "cr-1" (.planned .high { generatedSteps := [] })),
    .request (.submitForApproval "operator" "cr-1"),
    .selectCr 0 "approver" "cr-1" .approved false,.selectCr 1 "admin" "cr-1" .approved false,
    .selectExisting 0,.selectExisting 1,.insertApproval 0,.insertApproval 1,
    .selectApprovals 0 false,.selectApprovals 1 false,.commit 1,.commit 0]

/-- The approver's request without the admin's. -/
theorem lone_approval_serial : ∃ s,
    (concurrentSystem sampleUsers).replay { db := Db.empty, txns := fun _ => none }
        (sampleOverlap.take 3) = some s ∧
    (concurrentSystem sampleUsers).replay s
        (approveStatements 0 "approver" "cr-1" .approved false false) =
      (approveChangeRequest sampleUsers s.db "approver" "cr-1" .approved false
        false).toOption.map fun db => { s with db := db } := by
  obtain ⟨s,hs,ht⟩ : ∃ s, (concurrentSystem sampleUsers).replay
      { db := Db.empty, txns := fun _ => none } (sampleOverlap.take 3) = some s ∧
        s.txns 0 = none := ⟨_,rfl,rfl⟩
  have hinv := ((Run.start rfl).replay hs).invariant (concurrentInv_inductive sampleUsers)
  exact ⟨s,hs,approveStatements_eq sampleUsers hinv.db ht _ _ _ _ _⟩

theorem sample_no_approval_lost :
    ∃ tr s cr, Run (concurrentSystem sampleUsers) tr s ∧
      tr.map Transition.label = sampleOverlap.reverse ∧
      s.db.changeRequests "cr-1" = some cr ∧ (s.db.approvalsOf "cr-1").length = 2 ∧
      cr.status ≠ .awaitingApproval := by
  obtain ⟨s,cr,hs,hcr,hl,hlen,hsat⟩ : ∃ s cr,
      (concurrentSystem sampleUsers).replay { db := Db.empty, txns := fun _ => none }
        sampleOverlap = some s ∧
      s.db.changeRequests "cr-1" = some cr ∧ cr.riskLevel = some .high ∧
      (s.db.approvalsOf "cr-1").length = 2 ∧
      Satisfied (roleOf sampleUsers) .high (s.db.approvalsOf "cr-1") :=
    ⟨_,_,rfl,rfl,rfl,rfl,rfl⟩
  have h := (Run.start rfl).replay hs
  exact ⟨_,s,cr,h,System.history_labels hs,hcr,hlen,no_approval_lost sampleUsers h hcr hl hsat⟩

end Nexplane
