import Mathlib.Data.List.Count
import Nexplane.RollbackDriver

set_option autoImplicit false

/-! The rollbacks of one project: how operators and failed members initiate them, and when there is
only one at a time. -/

namespace Nexplane
open PyValue Runs Orm

/-- The `cr_ids` of the tool `rollback_project`. -/
def Project.toolCrIds (p : Project) : Option Uuid → Except String (Option (List Uuid))
  | none => .ok none
  | some toCrId =>
    match p.members.find? (·.changeRequestId = toCrId) with
    | none => .error "cr_not_in_project"
    | some target =>
      if target.changeRequest.status ≠ .completed then .error "cr_not_executed"
      else
        let crIds := (p.members.filter fun m =>
          target.sequenceOrder ≤ m.sequenceOrder && m.changeRequest.status = .completed).map
            (·.changeRequestId)
        if crIds.isEmpty then .error "no executed CRs to roll back in range" else .ok (some crIds)

/-- A rollback that has passed the check of its request and is not inserted yet. -/
inductive Initiation where
  | initiate (project : Project) (userId : Uuid) (notes : Option String)
      (crIds : Option (List Uuid))
  | initiateAuto (crId : Uuid)

structure ProjectRollbacks where
  status : ProjectStatus
  rollbacks : List RollbackState
  initiations : Nat → Option Initiation

/-- `initiate_rollback`, `rollback_project` and `on_cr_failed` up to their check, and what follows
it; a change of the project; a step of its `i`-th rollback. -/
inductive ProjectEvent where
  | initiateRead (request : Nat) (project : Project) (userId : Uuid) (notes : Option String)
      (crIds : Option (List Uuid))
  | toolRead (request : Nat) (project : Project) (actorId : Uuid) (notes : Option String)
      (toCrId : Option Uuid)
  | failureRead (request : Nat) (crId : Uuid)
  | initiationCommit (request : Nat)
  | update (status : ProjectStatus)
  /-- The routes pause and resume the newest of several rollbacks; here it may be any of them. -/
  | on (i : Nat) (e : RollbackEvent)
  | restart

section System

def ProjectRollbacks.setInitiation (s : ProjectRollbacks) (request : Nat)
    (initiation : Option Initiation) : ProjectRollbacks :=
  { s with initiations := Function.update s.initiations request initiation }

/-- What a request loads is what is there, and the backend stops as a whole. -/
def ProjectRollbacks.admits (s : ProjectRollbacks) : RollbackEvent → Bool
  | .resumeRead _ project => project.status = s.status
  | .restart => false
  | _ => true

/-- The status of the project after a step of its rollback `r`. -/
def ProjectRollbacks.statusAfter (s : ProjectRollbacks) (r : RollbackState) :
    RollbackEvent → ProjectStatus
  | .resumeCommit q =>
    match r.requests q with
    | some (.resume _ (some (_,loaded))) => flushColumn s.status loaded .rollingBack
    | _ => s.status
  | .drive _ =>
    match r.driver with
    | some ⟨_,_,.finishing⟩ => if s.status = .rollingBack then .inProgress else s.status
    | _ => s.status
  | _ => s.status

variable (permanentTypes : List String)

def advanceProject (s : ProjectRollbacks) : ProjectEvent → Option ProjectRollbacks
  | .initiateRead q project userId notes crIds =>
    if s.initiations q = none ∧ project.status = s.status ∧ project.status ≠ .rollingBack then
      some (s.setInitiation q (some (.initiate project userId notes crIds)))
    else none
  | .toolRead q project actorId notes toCrId =>
    match project.toolCrIds toCrId with
    | .error _ => none
    | .ok crIds =>
      if s.initiations q = none ∧ project.status = s.status then
        some (s.setInitiation q (some (.initiate project actorId notes crIds)))
      else none
  | .failureRead q crId =>
    if s.initiations q = none ∧
        s.rollbacks.all (·.row.status ∉ [.running,.paused,.awaitingUser]) then
      some (s.setInitiation q (some (.initiateAuto crId)))
    else none
  | .initiationCommit q =>
    match s.initiations q with
    | some (.initiate project userId notes crIds) => some { s.setInitiation q none with
        status := flushColumn s.status project.status .rollingBack
        rollbacks := s.rollbacks ++
          [.initiated (project.initiateSteps permanentTypes crIds) userId notes] }
    | some (.initiateAuto crId) => some { s.setInitiation q none with
        rollbacks := s.rollbacks ++ [.automatic crId .executionFailure] }
    | none => none
  | .update status => some { s with status := status }
  | .on i e =>
    match s.rollbacks[i]? with
    | none => none
    | some r =>
      if s.admits e then
        (advanceRollback permanentTypes r e).map fun r' => { s with
          status := s.statusAfter r e
          rollbacks := s.rollbacks.set i r' }
      else none
  | .restart => some { s with
      rollbacks := s.rollbacks.map fun r => (advanceRollback permanentTypes r .restart).getD r
      initiations := fun _ => none }

/-- A project that has never been rolled back. -/
inductive ProjectRollbacks.Fresh : ProjectRollbacks → Prop where
  | fresh (status : ProjectStatus) : Fresh ⟨status,[],fun _ => none⟩

def projectSystem : System ProjectRollbacks ProjectEvent where
  start := ProjectRollbacks.Fresh
  step := advanceProject permanentTypes

end System

/-- The check of an initiation. -/
def ProjectEvent.checks : ProjectEvent → Bool
  | .initiateRead .. | .toolRead .. | .failureRead .. => true
  | _ => false

/-- What a step does to the rollbacks and to the initiations under way. -/
inductive ProjectMove (permanentTypes : List String) (s : ProjectRollbacks) : ProjectEvent →
    List RollbackState → (Nat → Option Initiation) → Prop where
  | check (e : ProjectEvent) (q : Nat) (initiation : Initiation) : e.checks = true →
      ProjectMove permanentTypes s e s.rollbacks
        (Function.update s.initiations q (some initiation))
  | insert (q : Nat) (r : RollbackState) : (s.initiations q).isSome = true →
      r.Fresh permanentTypes → ProjectMove permanentTypes s (.initiationCommit q)
        (s.rollbacks ++ [r]) (Function.update s.initiations q none)
  | update (status : ProjectStatus) :
      ProjectMove permanentTypes s (.update status) s.rollbacks s.initiations
  | on (i : Nat) (e : RollbackEvent) (r r' : RollbackState) : s.rollbacks[i]? = some r →
      advanceRollback permanentTypes r e = some r' →
      ProjectMove permanentTypes s (.on i e) (s.rollbacks.set i r') s.initiations
  | restart : ProjectMove permanentTypes s .restart
      (s.rollbacks.map fun r => (advanceRollback permanentTypes r .restart).getD r)
      fun _ => none

section Moves

variable {permanentTypes : List String} {s s' : ProjectRollbacks} {e : ProjectEvent}

theorem advanceProject_move (h : advanceProject permanentTypes s e = some s') :
    ProjectMove permanentTypes s e s'.rollbacks s'.initiations := by
  cases e with
  | initiateRead q project userId notes crIds =>
    simp only [advanceProject] at h
    split at h
    · obtain rfl := Option.some.inj h
      exact .check _ q _ rfl
    · cases h
  | toolRead q project actorId notes toCrId =>
    simp only [advanceProject] at h
    split at h
    · cases h
    · split at h
      · obtain rfl := Option.some.inj h
        exact .check _ q _ rfl
      · cases h
  | failureRead q crId =>
    simp only [advanceProject] at h
    split at h
    · obtain rfl := Option.some.inj h
      exact .check _ q _ rfl
    · cases h
  | initiationCommit q =>
    simp only [advanceProject] at h
    split at h
    · rename_i project userId notes crIds hq
      obtain rfl := Option.some.inj h
      exact .insert q _ (by simp [hq]) (.initiated project crIds userId notes)
    · rename_i crId hq
      obtain rfl := Option.some.inj h
      exact .insert q _ (by simp [hq]) (.automatic crId .executionFailure)
    · cases h
  | update status =>
    obtain rfl := Option.some.inj h
    exact .update status
  | on i e =>
    simp only [advanceProject] at h
    split at h
    · cases h
    · rename_i r hr
      split at h
      · obtain ⟨r',hr',rfl⟩ := Option.map_eq_some_iff.mp h
        exact .on i e r r' hr hr'
      · cases h
  | restart =>
    obtain rfl := Option.some.inj h
    exact .restart

/-- Each rollback of a project goes its way as if there were no other. -/
theorem rollbacks_reachable_inductive : Inductive (projectSystem permanentTypes)
    fun s => ∀ r ∈ s.rollbacks, Reachable (rollbackSystem permanentTypes) r := by
  constructor
  · rintro s ⟨status⟩
    simp
  · intro s e s' hi h
    have hmove := advanceProject_move h
    generalize s'.rollbacks = rollbacks at hmove ⊢
    generalize s'.initiations = initiations at hmove
    cases hmove with
    | check e q initiation _ => exact hi
    | insert q r _ hfresh =>
      intro r' hr'
      rcases List.mem_append.mp hr' with hold | hnew
      · exact hi r' hold
      · obtain rfl := List.mem_singleton.mp hnew
        exact ⟨[],.start hfresh⟩
    | update status => exact hi
    | on i e r r' hr hr' =>
      intro r'' hr''
      rcases List.mem_or_eq_of_mem_set hr'' with hold | rfl
      · exact hi r'' hold
      · exact (hi r (List.mem_of_getElem? hr)).step hr'
    | restart =>
      intro r' hr'
      obtain ⟨r,hr,rfl⟩ := List.mem_map.mp hr'
      exact (hi r hr).step (a := .restart) rfl

end Moves

def ProjectRollbackStatus.active : ProjectRollbackStatus → Bool
  | .pending | .running | .paused | .awaitingUser => true
  | .completed | .failed => false

def RollbackState.active (r : RollbackState) : Bool := r.row.status.active

/-- The driver is at the steps. -/
def RollbackState.atWork (r : RollbackState) : Bool := r.driver.any (·.point.inLoop)

structure OneAtATime (s : ProjectRollbacks) : Prop where
  active : s.rollbacks.countP RollbackState.active ≤ 1
  driver : s.rollbacks.countP RollbackState.atWork ≤ 1

/-- No rollback is active or about to be inserted. -/
def ProjectRollbacks.Quiet (s : ProjectRollbacks) : Prop :=
  s.rollbacks.countP RollbackState.active = 0 ∧ ∀ q, s.initiations q = none

/-- A driver begins on a rollback that is over, or a request commits that has read it before. -/
def RollbackState.Revived (r : RollbackState) : RollbackEvent → Prop
  | .drive _ => r.active = false ∧ ∃ d, r.driver = some d ∧ d.point = .starting
  | .pauseCommit _ | .resumeCommit _ => r.active = false
  | _ => False

/-- An initiation passes its check, or a rollback that is over is taken up again, only when no
rollback is active and no other initiation has passed its check. -/
def Alone (s : ProjectRollbacks) : ProjectEvent → Prop
  | .initiateRead .. | .toolRead .. | .failureRead .. => s.Quiet
  | .on i e => ∀ r, s.rollbacks[i]? = some r → r.Revived e → s.Quiet
  | _ => True

/-- At most one rollback is active; none is while an initiation is under way, and that is the only
one. -/
structure Exclusive (rollbacks : List RollbackState) (initiations : Nat → Option Initiation) :
    Prop where
  one : rollbacks.countP RollbackState.active ≤ 1
  initiated : ∀ q, initiations q ≠ none → rollbacks.countP RollbackState.active = 0 ∧
    ∀ q', initiations q' ≠ none → q' = q

structure AloneInv (permanentTypes : List String) (s : ProjectRollbacks) : Prop where
  reachable : ∀ r ∈ s.rollbacks, Reachable (rollbackSystem permanentTypes) r
  exclusive : Exclusive s.rollbacks s.initiations

section Alone

variable {permanentTypes : List String} {r r' : RollbackState} {s s' : ProjectRollbacks}

theorem atWork_active (h : RollbackOk r) (hwork : r.atWork = true) : r.active = true := by
  obtain ⟨d,hd,hloop⟩ := (Option.any_eq_true _ _).mp hwork
  rcases ((h.driver d hd).inLoop hloop).2.1 with hrunning | hpaused
  · simp [RollbackState.active,hrunning,ProjectRollbackStatus.active]
  · simp [RollbackState.active,hpaused,ProjectRollbackStatus.active]

theorem advance_active {e : RollbackEvent} (hok : RollbackOk r)
    (h : advanceRollback permanentTypes r e = some r') (hactive : r'.active = true) :
    r.active = true ∨ r.Revived e := by
  by_cases hbefore : r.active = true
  · exact Or.inl hbefore
  have hover : r.active = false := by simpa using hbefore
  refine Or.inr ?_
  rcases step_status hok h with ⟨hkept,_⟩ | ⟨q,rfl,_⟩ | ⟨q,rfl,_⟩ | ⟨outcome,d,rfl,hd,hmove⟩
  · rw [RollbackState.active,hkept] at hactive
    exact absurd hactive hbefore
  · exact hover
  · exact hover
  · refine ⟨hover,d,hd,?_⟩
    have hpoint := (hok.driver d hd).2
    rw [RollbackState.active] at hactive
    generalize r'.row = row' at hmove hactive
    generalize r'.driver = after at hmove
    cases hmove with
    | start hp => exact hp
    | finish hp =>
      simp only [hp] at hpoint
      simp [hpoint.1,flushColumn,ProjectRollbackStatus.active] at hactive
    | _ => exact absurd hactive hbefore

theorem countP_set_le {α : Type} {p : α → Bool} {l : List α} {i : Nat} {a b : α}
    (h : l[i]? = some a) :
    (l.set i b).countP p ≤ l.countP p + 1 ∧
      ((p b = true → p a = true) → (l.set i b).countP p ≤ l.countP p) := by
  obtain ⟨hi,rfl⟩ := List.getElem?_eq_some_iff.mp h
  have hpos : p l[i] = true → 0 < l.countP p := fun hp =>
    List.countP_pos_iff.mpr ⟨_,List.getElem_mem hi,hp⟩
  rw [List.countP_set hi]
  constructor
  · split
    · rename_i ha
      have hlt := hpos ha
      split <;> omega
    · split <;> omega
  · intro hkept
    by_cases hb : p b = true
    · have hlt := hpos (hkept hb)
      rw [if_pos (hkept hb),if_pos hb]
      omega
    · rw [if_neg hb]
      exact Nat.sub_le _ _

/-- A step of one rollback does not make another one active but out of quiet. -/
theorem on_active {i : Nat} {e : RollbackEvent} (hr : s.rollbacks[i]? = some r)
    (hok : RollbackOk r) (h : advanceRollback permanentTypes r e = some r')
    (hG : r.Revived e → s.Quiet) :
    (s.rollbacks.set i r').countP RollbackState.active ≤
        s.rollbacks.countP RollbackState.active ∨
      s.Quiet ∧ (s.rollbacks.set i r').countP RollbackState.active ≤ 1 := by
  obtain ⟨hsucc,hle⟩ := countP_set_le (p := RollbackState.active) (b := r') hr
  by_cases hrevived : r.Revived e
  · have hquiet := hG hrevived
    rw [hquiet.1] at hsucc
    exact Or.inr ⟨hquiet,hsucc⟩
  · exact Or.inl (hle fun hactive => (advance_active hok h hactive).resolve_right hrevived)

theorem projectMove_exclusive {e : ProjectEvent} {rollbacks : List RollbackState}
    {initiations : Nat → Option Initiation} (hi : Exclusive s.rollbacks s.initiations)
    (hok : ∀ r ∈ s.rollbacks, RollbackOk r) (hG : Alone s e)
    (h : ProjectMove permanentTypes s e rollbacks initiations) :
    Exclusive rollbacks initiations := by
  cases h with
  | check e q initiation hchecks =>
    have hquiet : s.Quiet := by
      cases e with
      | initiateRead _ _ _ _ _ => exact hG
      | toolRead _ _ _ _ _ => exact hG
      | failureRead _ _ => exact hG
      | _ => cases hchecks
    have honly : ∀ q', Function.update s.initiations q (some initiation) q' ≠ none → q' = q := by
      intro q' hq'
      by_contra hne
      rw [Function.update_of_ne hne] at hq'
      exact hq' (hquiet.2 q')
    exact ⟨hi.one,fun q₁ hq₁ => ⟨hquiet.1,fun q₂ hq₂ => (honly q₂ hq₂).trans (honly q₁ hq₁).symm⟩⟩
  | insert q r hq _ =>
    obtain ⟨hnone,honly⟩ := hi.initiated q (Option.isSome_iff_ne_none.mp hq)
    constructor
    · have hle : [r].countP RollbackState.active ≤ 1 := List.countP_le_length
      rw [List.countP_append,hnone]
      omega
    · intro q' hq'
      by_cases hne : q' = q
      · simp [hne] at hq'
      · rw [Function.update_of_ne hne] at hq'
        exact absurd (honly q' hq') hne
  | update status => exact hi
  | on i e r r' hr hr' =>
    rcases on_active hr (hok r (List.mem_of_getElem? hr)) hr' (hG r hr) with
      hle | ⟨hquiet,hle⟩
    · exact ⟨hle.trans hi.one,fun q hq =>
        ⟨Nat.le_zero.mp (hle.trans_eq (hi.initiated q hq).1),(hi.initiated q hq).2⟩⟩
    · exact ⟨hle,fun q hq => absurd (hquiet.2 q) hq⟩
  | restart =>
    have hkept : (s.rollbacks.map fun r =>
        (advanceRollback permanentTypes r .restart).getD r).countP RollbackState.active =
        s.rollbacks.countP RollbackState.active := by
      rw [List.countP_map]
      rfl
    exact ⟨hkept.trans_le hi.one,by simp⟩

theorem aloneInv_inductive :
    InductiveUnder (projectSystem permanentTypes) Alone (AloneInv permanentTypes) := by
  constructor
  · rintro s ⟨status⟩
    exact ⟨by simp,by simp,by simp⟩
  · intro s e s' hi hG h
    have hok : ∀ r ∈ s.rollbacks, RollbackOk r := fun r hr =>
      (hi.reachable r hr).invariant rollbackOk_inductive
    exact ⟨rollbacks_reachable_inductive.step s e s' hi.reachable h,
      projectMove_exclusive hi.exclusive hok hG (advanceProject_move h)⟩

/-- At most one rollback of a project is active at a time, and its driver alone is at work. -/
theorem one_rollback_at_a_time {tr : List (Transition ProjectRollbacks ProjectEvent)}
    (h : Run (projectSystem permanentTypes) tr s) (hG : ∀ t ∈ tr, Alone t.pre t.label) :
    OneAtATime s := by
  have hi := h.guarded aloneInv_inductive hG
  refine ⟨hi.exclusive.one,le_trans (List.countP_mono_left fun r hr => ?_) hi.exclusive.one⟩
  exact atWork_active ((hi.reachable r hr).invariant rollbackOk_inductive)

end Alone

/-- The first change is completed, and the second one has failed. -/
def sampleHalfDone (status : ProjectStatus) : Project where
  status := status
  members := [sampleMember "cr-1" 1 1,
    { sampleMember "cr-2" 2 2 with
      changeRequest := { (sampleMember "cr-2" 2 2).changeRequest with status := .failed } }]
  oneRow := by simp [sampleMember,ProjectChangeRequest.changeRequestId]

def sampleNoRollbacks : ProjectRollbacks := ⟨.inProgress,[],fun _ => none⟩

theorem sampleNoRollbacks_start : (projectSystem []).start sampleNoRollbacks := .fresh .inProgress

/-- A rollback by hand, up to its driver. -/
def sampleInitiated : List ProjectEvent :=
  [.initiateRead 0 (sampleHalfDone .inProgress) "user-1" none none,.initiationCommit 0]

def sampleMemberFailure : List ProjectEvent := [.failureRead 0 "cr-2",.initiationCommit 0]

/-- The failure is reported when the rollback by hand is over. -/
def sampleInTurn : List ProjectEvent :=
  sampleInitiated ++ sampleDriven.map (ProjectEvent.on 0) ++ sampleMemberFailure

theorem sampleInTurn_alone : (projectSystem []).Meets Alone sampleNoRollbacks sampleInTurn := by
  have hon : ∀ {s : ProjectRollbacks} {r : RollbackState} {e : RollbackEvent},
      s.rollbacks[0]? = some r → ¬r.Revived e → Alone s (.on 0 e) := by
    intro s r e hr hkept r' hr' hrevived
    obtain rfl := Option.some.inj (hr.symm.trans hr')
    exact absurd hrevived hkept
  have hactive : ∀ {s : ProjectRollbacks} {r : RollbackState}, s.rollbacks[0]? = some r →
      r.active = true → Alone s (.on 0 (.drive sampleUndone)) := by
    intro s r hr hactive
    refine hon hr fun h => ?_
    simp [hactive,RollbackState.Revived] at h
  refine ⟨⟨rfl,fun _ => rfl⟩,trivial,hon rfl id,hactive rfl rfl,hactive rfl rfl,hactive rfl rfl,
    hactive rfl rfl,hactive rfl rfl,hactive rfl rfl,hactive rfl rfl,hactive rfl rfl,
    hon rfl ?_,⟨rfl,fun q => ?_⟩,trivial,trivial⟩
  · rintro ⟨_,d,hd,hstarting⟩
    obtain rfl := Option.some.inj hd
    cases hstarting
  · cases q with
    | zero => rfl
    | succ q => rfl

theorem sample_one_rollback_at_a_time :
    ∃ tr s, Run (projectSystem []) tr s ∧ tr.map Transition.label = sampleInTurn.reverse ∧
      s.rollbacks.map (·.row.status) = [.completed,.awaitingUser] ∧ OneAtATime s := by
  have hrun : (projectSystem []).replay sampleNoRollbacks sampleInTurn = some _ := rfl
  have h := (Run.start sampleNoRollbacks_start).replay hrun
  exact ⟨_,_,h,rfl,rfl,one_rollback_at_a_time h (System.history_meets sampleInTurn_alone (by simp))⟩

/-- The change that the driver is undoing. -/
def RollbackState.undoing (r : RollbackState) : Option Uuid :=
  r.driver.bind fun d =>
    match d.point with
    | .executing loaded => some loaded.changeRequestId
    | _ => none

/-- The rollback by hand overtakes the one that awaits the user, who then resumes it. -/
def sampleOvertaken : List ProjectEvent :=
  sampleMemberFailure ++ sampleInitiated ++ (sampleDriven.take 6).map (ProjectEvent.on 1) ++
    [.on 0 (.resumeRead 0 (sampleHalfDone .rollingBack)),.on 0 (.resumeCommit 0)] ++
    (sampleDriven.take 6).map (ProjectEvent.on 0)

def sampleToolCall : List ProjectEvent :=
  [.toolRead 0 (sampleHalfDone .rollingBack) "user-2" none none,.initiationCommit 0]

/-- Two drivers undo one change; a failure and the tool both overlook a rollback that is pending. -/
theorem overlapping_rollbacks :
    (∃ tr s, Run (projectSystem []) tr s ∧ tr.map Transition.label = sampleOvertaken.reverse ∧
      s.rollbacks.map RollbackState.undoing = [some "cr-1",some "cr-1"] ∧ ¬OneAtATime s) ∧
    (∃ tr s, Run (projectSystem []) tr s ∧
      tr.map Transition.label = (sampleInitiated ++ sampleMemberFailure).reverse ∧
      s.rollbacks.map (·.row.status) = [.pending,.awaitingUser] ∧ ¬OneAtATime s) ∧
    ∃ tr s, Run (projectSystem []) tr s ∧
      tr.map Transition.label = (sampleInitiated ++ sampleToolCall).reverse ∧
      s.rollbacks.map (·.row.status) = [.pending,.pending] ∧ ¬OneAtATime s := by
  have hovertaken : (projectSystem []).replay sampleNoRollbacks sampleOvertaken = some _ := rfl
  have hfailure : (projectSystem []).replay sampleNoRollbacks
      (sampleInitiated ++ sampleMemberFailure) = some _ := rfl
  have htool : (projectSystem []).replay sampleNoRollbacks
      (sampleInitiated ++ sampleToolCall) = some _ := rfl
  refine ⟨⟨_,_,(Run.start sampleNoRollbacks_start).replay hovertaken,rfl,rfl,fun h => ?_⟩,
    ⟨_,_,(Run.start sampleNoRollbacks_start).replay hfailure,rfl,rfl,fun h => ?_⟩,
    ⟨_,_,(Run.start sampleNoRollbacks_start).replay htool,rfl,rfl,fun h => ?_⟩⟩
  · exact absurd h.active (by decide)
  · exact absurd h.active (by decide)
  · exact absurd h.active (by decide)

end Nexplane
