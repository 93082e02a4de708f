import Nexplane.ExecutionGates

set_option autoImplicit false

/-! The check for change freezes in full: its refusals, the audit event of a bypass, and the order
in which the database returns the windows. -/

namespace Nexplane
open PyValue

structure ReasonedFreeze extends ChangeFreezeWindow where
  reason : String

/-- The user of a request; `roles` is an attribute of that name, which the rows of users do not
have. -/
structure CurrentUser where
  user : User
  roles : Option (List String) := none

/-- A bypass carries the payload of its audit event, a refusal the detail of its response. -/
inductive FreezeAnswer where
  | pass
  | bypass (organizationId actorId : Uuid) (eventType : String) (payload : Dict)
  | refuse (statusCode : Nat) (detail : Json)

def FreezeAnswer.passes : FreezeAnswer → Bool
  | .pass | .bypass .. => true
  | .refuse .. => false

/-- The role that lifts a freeze is the user's own, or one of an attribute `roles`. -/
def CurrentUser.Holds (caller : CurrentUser) (freeze : ReasonedFreeze) : Prop :=
  freeze.emergencyBypassRole = caller.user.role.value ∨
    freeze.emergencyBypassRole ∈ caller.roles.getD []

/-- No window is active, or the user holds the role of each active one and gives a reason. -/
def FreezePermits (env : GateEnv) (caller : CurrentUser) (justification : Option String)
    (windows : List ReasonedFreeze) : Prop :=
  (∀ freeze ∈ windows, freeze.active env = false) ∨
    (∀ freeze ∈ windows, freeze.active env = true → caller.Holds freeze) ∧
      justification.getD "" ≠ ""

section Check

variable (isoformat : Int → String) (env : GateEnv)

def logFreezeBypass (user : User) (freeze : ReasonedFreeze) (justification : String) :
    FreezeAnswer :=
  .bypass user.organizationId user.id "change_freeze.bypassed"
    [("freeze_id",.str freeze.id),("reason",.str freeze.reason),
      ("justification",.str justification)]

/-- `windows` in the order in which the database returns them. -/
def freezeAnswer (caller : CurrentUser) (justification : Option String)
    (windows : List ReasonedFreeze) : FreezeAnswer :=
  match windows.find? fun freeze => freeze.active env with
  | none => .pass
  | some freeze =>
    if freeze.emergencyBypassRole ∉ caller.roles.getD [] then
      .refuse 423 (.obj [("error",.str "change_freeze_active"),
        ("message",.str ("Change freeze active until " ++ isoformat freeze.endAt)),
        ("reason",.str freeze.reason),("freeze_id",.str freeze.id)])
    else if justification.getD "" = "" then
      .refuse 422
        (.str "X-Emergency-Justification header required to bypass an active change freeze")
    else logFreezeBypass caller.user freeze (justification.getD "")

end Check

section Answers

variable {isoformat : Int → String} {env : GateEnv} {caller : CurrentUser}
  {justification : Option String} {windows : List ReasonedFreeze} {freeze : ReasonedFreeze}

theorem passes_none (h : ∀ freeze ∈ windows, freeze.active env = false) :
    (freezeAnswer isoformat env caller justification windows).passes = true := by
  have hnone : (windows.find? fun freeze => freeze.active env) = none := by simpa using h
  rw [freezeAnswer,hnone]
  rfl

/-- The first active window decides. -/
theorem passes_first (h : (windows.find? fun freeze => freeze.active env) = some freeze) :
    (freezeAnswer isoformat env caller justification windows).passes = true ↔
      freeze.emergencyBypassRole ∈ caller.roles.getD [] ∧ justification.getD "" ≠ "" := by
  rw [freezeAnswer,h]
  by_cases hrole : freeze.emergencyBypassRole ∈ caller.roles.getD []
  · by_cases hreason : justification.getD "" = ""
    · simp [hrole,hreason,FreezeAnswer.passes]
    · simp [hrole,hreason,FreezeAnswer.passes,logFreezeBypass]
  · simp [hrole,FreezeAnswer.passes]

/-- Any active window may be returned first. -/
theorem first_of_mem (hmem : freeze ∈ windows) (hactive : freeze.active env = true) :
    ∃ order : List ReasonedFreeze, order.Perm windows ∧
      (order.find? fun freeze => freeze.active env) = some freeze := by
  obtain ⟨before,rest,rfl⟩ := List.append_of_mem hmem
  exact ⟨freeze :: (before ++ rest),List.perm_middle.symm,by simp [hactive]⟩

theorem freezePermits_perm {order : List ReasonedFreeze} (h : order.Perm windows) :
    FreezePermits env caller justification order ↔
      FreezePermits env caller justification windows := by
  simp only [FreezePermits,h.mem_iff]

theorem permits_of_active (hmem : freeze ∈ windows) (hactive : freeze.active env = true) :
    FreezePermits env caller justification windows ↔
      (∀ freeze ∈ windows, freeze.active env = true → caller.Holds freeze) ∧
        justification.getD "" ≠ "" := by
  refine or_iff_right fun hnone => ?_
  have hclosed := hnone freeze hmem
  rw [hactive] at hclosed
  cases hclosed

/-- Each active window, returned first, decides as all of them should. -/
theorem listed_iff_holds (h : ∀ order : List ReasonedFreeze, order.Perm windows →
      ((freezeAnswer isoformat env caller justification order).passes = true ↔
        FreezePermits env caller justification windows))
    (hreason : justification.getD "" ≠ "") (hmem : freeze ∈ windows)
    (hactive : freeze.active env = true) :
    freeze.emergencyBypassRole ∈ caller.roles.getD [] ↔
      ∀ freeze ∈ windows, freeze.active env = true → caller.Holds freeze := by
  obtain ⟨order,hperm,hfirst⟩ := first_of_mem hmem hactive
  have hanswer := h order hperm
  rw [passes_first hfirst,permits_of_active hmem hactive] at hanswer
  simpa only [ne_eq,hreason,not_false_eq_true,and_true] using hanswer

end Answers

/-- Whatever the order of the windows, the request passes exactly when it is permitted; and that is
so exactly when no window is active, no reason is given, every active window asks for a role of the
attribute `roles`, or none does and the user's own role is not that of them all. -/
theorem freeze_answers_iff (isoformat : Int → String) (env : GateEnv) (caller : CurrentUser)
    (justification : Option String) (windows : List ReasonedFreeze) :
    (∀ order : List ReasonedFreeze, order.Perm windows →
      ((freezeAnswer isoformat env caller justification order).passes = true ↔
        FreezePermits env caller justification windows)) ↔
    ((∀ freeze ∈ windows, freeze.active env = false) ∨ justification.getD "" = "" ∨
      (∀ freeze ∈ windows, freeze.active env = true →
        freeze.emergencyBypassRole ∈ caller.roles.getD []) ∨
      (∀ freeze ∈ windows, freeze.active env = true →
        freeze.emergencyBypassRole ∉ caller.roles.getD []) ∧
        ∃ freeze ∈ windows, freeze.active env = true ∧
          freeze.emergencyBypassRole ≠ caller.user.role.value) := by
  constructor
  · intro h
    by_cases hnone : ∀ freeze ∈ windows, freeze.active env = false
    · exact .inl hnone
    by_cases hreason : justification.getD "" = ""
    · exact .inr (.inl hreason)
    have hlisted := fun freeze (hmem : freeze ∈ windows) => listed_iff_holds h hreason hmem
    by_cases hall : ∀ freeze ∈ windows, freeze.active env = true → caller.Holds freeze
    · exact .inr (.inr (.inl fun freeze hmem hactive => (hlisted freeze hmem hactive).mpr hall))
    · refine .inr (.inr (.inr ⟨fun freeze hmem hactive hrole => ?_,?_⟩))
      · exact hall ((hlisted freeze hmem hactive).mp hrole)
      · push Not at hall
        obtain ⟨freeze,hmem,hactive,hholds⟩ := hall
        exact ⟨freeze,hmem,hactive,fun hown => hholds (.inl hown)⟩
  · intro hcases order hperm
    rw [← freezePermits_perm hperm]
    simp only [← hperm.mem_iff] at hcases
    cases hfirst : order.find? fun freeze => freeze.active env with
    | none =>
      have hnone : ∀ freeze ∈ order, freeze.active env = false := by simpa using hfirst
      exact iff_of_true (passes_none hnone) (.inl hnone)
    | some freeze =>
      have hactive := List.find?_some hfirst
      have hmem := List.mem_of_find?_eq_some hfirst
      rw [passes_first hfirst,permits_of_active hmem hactive]
      refine and_congr_left fun hreason => ?_
      rcases hcases with hnone | hempty | hlisted | ⟨hunlisted,other,hother,hactive',hown⟩
      · exact absurd hactive (by simp [hnone freeze hmem])
      · exact absurd hempty hreason
      · exact iff_of_true (hlisted freeze hmem hactive) fun f hf ha => .inr (hlisted f hf ha)
      · refine iff_of_false (hunlisted freeze hmem hactive) fun hall => ?_
        rcases hall other hother hactive' with hrole | hrole
        · exact hown hrole
        · exact hunlisted other hother hactive' hrole

/-- An administrator with a reason, while the one freeze can be lifted by administrators. -/
theorem freeze_not_lifted :
    let user : User := { id := "u", organizationId := "acme", role := .admin }
    let freeze : ReasonedFreeze :=
      { id := "f", startAt := 0, endAt := 10, emergencyBypassRole := "admin", reason := "Q4" }
    let env : GateEnv :=
      { now := 5, getPrev := fun _ _ => .ok 0, users := fun _ => user, changeType := fun _ => none }
    FreezePermits env { user } (some "outage") [freeze] ∧
      freezeAnswer (fun _ => "") env { user } (some "outage") [freeze] =
        .refuse 423 (.obj [("error",.str "change_freeze_active"),
          ("message",.str "Change freeze active until "),
          ("reason",.str "Q4"),("freeze_id",.str "f")]) := by
  intro user freeze env
  refine ⟨.inr ⟨fun other hother _ => ?_,by decide⟩,rfl⟩
  obtain rfl := List.mem_singleton.mp hother
  exact .inl rfl

end Nexplane
