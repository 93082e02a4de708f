import Nexplane.Entities
import Nexplane.Lib.Decisive

set_option autoImplicit false

/-! Approval requirements per risk level. -/

namespace Nexplane

/-- One entry of the requirements table. -/
structure Requirement where
  minApprovals : Nat
  requiredRoles : List UserRole
  description : String
  mustInclude : Option (List UserRole)
  noAutoExecute : Bool

def requirements : RiskLevel → Requirement
  | .low => {
      minApprovals := 1
      requiredRoles := [.securityOperator,.admin]
      description := "Requires approval from security operator or admin"
      mustInclude := none
      noAutoExecute := false }
  | .medium => {
      minApprovals := 1
      requiredRoles := [.approver,.admin]
      description := "Requires approver or admin"
      mustInclude := none
      noAutoExecute := false }
  | .high => {
      minApprovals := 2
      requiredRoles := [.approver,.admin]
      description := "Requires approver AND admin"
      mustInclude := some [.approver,.admin]
      noAutoExecute := false }
  | .critical => {
      minApprovals := 2
      requiredRoles := [.approver,.admin]
      description := "Requires two approvals; does not auto-execute"
      mustInclude := some [.approver,.admin]
      noAutoExecute := true }

structure RequirementCheck where
  satisfied : Bool
  approvalsReceived : Nat
  approvalsRequired : Nat
  description : String
  noAutoExecute : Bool
  deriving DecidableEq, Repr

/-- The roles that approved; an admin also stands for the approver and the security operator. -/
def approverRoles (roleOf : Uuid → UserRole) (approvedDecisions : List Approval) :
    List UserRole :=
  let roles := approvedDecisions.map fun a => roleOf a.approverId
  if UserRole.admin ∈ roles then roles ++ [.approver,.securityOperator] else roles

def checkApprovalRequirements (roleOf : Uuid → UserRole) (riskLevel : RiskLevel)
    (approvals : List Approval) : RequirementCheck :=
  let approvedDecisions := approvals.filter fun a => a.decision = .approved
  let roles := approverRoles roleOf approvedDecisions
  let req := requirements riskLevel
  let effectiveMin := if UserRole.admin ∈ roles then 1 else req.minApprovals
  let met : Bool := effectiveMin ≤ approvedDecisions.length
  let met :=
    match req.mustInclude with
    | none => met && (req.requiredRoles.isEmpty || req.requiredRoles.any fun r => r ∈ roles)
    | some mustInclude => met && mustInclude.all fun r => r ∈ roles
  { satisfied := met
    approvalsReceived := approvedDecisions.length
    approvalsRequired := req.minApprovals
    description := req.description
    noAutoExecute := req.noAutoExecute }

/-- The roles whose single approval meets the requirement of a risk level. -/
def decidesAlone : RiskLevel → UserRole → Bool
  | _, .admin => true
  | .low, .securityOperator => true
  | .medium, .approver => true
  | _, _ => false

theorem admin_mem_approverRoles (roleOf : Uuid → UserRole) (xs : List Approval) :
    UserRole.admin ∈ approverRoles roleOf xs ↔ ∃ a ∈ xs, roleOf a.approverId = .admin := by
  by_cases h : UserRole.admin ∈ xs.map fun a => roleOf a.approverId
  · have hx : ∃ a ∈ xs, roleOf a.approverId = .admin := List.mem_map.mp h
    simp [approverRoles,h,hx]
  · have hx : ¬∃ a ∈ xs, roleOf a.approverId = .admin := fun hx => h (List.mem_map.mpr hx)
    simp only [approverRoles,h,if_false,hx]

theorem mem_approverRoles_of_admin {roleOf : Uuid → UserRole} {xs : List Approval}
    (h : UserRole.admin ∈ approverRoles roleOf xs) {r : UserRole} (hr : r ≠ .auditor) :
    r ∈ approverRoles roleOf xs := by
  have hm : UserRole.admin ∈ xs.map fun a => roleOf a.approverId :=
    List.mem_map.mpr ((admin_mem_approverRoles roleOf xs).mp h)
  cases r with
  | admin => exact h
  | securityOperator => simp [approverRoles,hm]
  | approver => simp [approverRoles,hm]
  | auditor => exact absurd rfl hr

theorem mem_approverRoles_of_no_admin {roleOf : Uuid → UserRole} {xs : List Approval}
    (h : UserRole.admin ∉ approverRoles roleOf xs) (r : UserRole) :
    r ∈ approverRoles roleOf xs ↔ ∃ a ∈ xs, roleOf a.approverId = r := by
  have hm : UserRole.admin ∉ xs.map fun a => roleOf a.approverId := by
    intro hm
    exact h ((admin_mem_approverRoles roleOf xs).mpr (List.mem_map.mp hm))
  simp only [approverRoles,hm,if_false,List.mem_map]

theorem decidesAlone_admin (level : RiskLevel) : decidesAlone level .admin = true := by
  cases level <;> rfl

theorem decidesAlone_of_two (level : RiskLevel) (h : (requirements level).minApprovals = 2)
    (r : UserRole) : decidesAlone level r = true ↔ r = .admin := by
  cases level <;> cases r <;> simp_all [requirements,decidesAlone]

/-- Every requirement is met exactly when one recorded approval meets it alone: an admin counts
for all, and the levels that ask for two approvals ask for an admin among them. -/
theorem satisfied_iff (roleOf : Uuid → UserRole) (level : RiskLevel) (xs : List Approval) :
    (checkApprovalRequirements roleOf level xs).satisfied = true ↔
      ∃ a ∈ xs, a.decision = .approved ∧ decidesAlone level (roleOf a.approverId) := by
  obtain ⟨ys,hys⟩ : ∃ ys, ys = xs.filter fun a => a.decision = .approved := ⟨_,rfl⟩
  have hmem : ∀ a, a ∈ ys ↔ a ∈ xs ∧ a.decision = .approved := by simp [hys]
  have hex : (∃ a ∈ xs, a.decision = .approved ∧ decidesAlone level (roleOf a.approverId)) ↔
      ∃ a ∈ ys, decidesAlone level (roleOf a.approverId) = true := by
    simp only [hmem,and_assoc]
  rw [hex]
  simp only [checkApprovalRequirements,← hys]
  by_cases h : UserRole.admin ∈ approverRoles roleOf ys
  · obtain ⟨a,ha,hrole⟩ := (admin_mem_approverRoles roleOf ys).mp h
    have hlen : 1 ≤ ys.length := List.length_pos_of_mem ha
    have happ : UserRole.approver ∈ approverRoles roleOf ys :=
      mem_approverRoles_of_admin h (by decide)
    have hright : ∃ a ∈ ys, decidesAlone level (roleOf a.approverId) = true :=
      ⟨a,ha,by rw [hrole]; exact decidesAlone_admin level⟩
    cases level <;> simpa [requirements,h,happ,hlen] using hright
  · have hno := fun r => mem_approverRoles_of_no_admin h r
    have hadm : ∀ a ∈ ys, roleOf a.approverId ≠ .admin := by
      intro a ha hrole
      exact h ((admin_mem_approverRoles roleOf ys).mpr ⟨a,ha,hrole⟩)
    have hlen : ∀ r, (∃ a ∈ ys, roleOf a.approverId = r) → 1 ≤ ys.length := by
      rintro r ⟨a,ha,_⟩
      exact List.length_pos_of_mem ha
    -- Without an admin a single-approval level has one role left that decides it.
    have hone : ∀ r, (∀ r', r' ≠ .admin → (decidesAlone level r' = true ↔ r' = r)) →
        ((∃ a ∈ ys, decidesAlone level (roleOf a.approverId) = true) ↔
          r ∈ approverRoles roleOf ys) := by
      intro r hr
      rw [hno r]
      exact ⟨fun ⟨a,ha,hd⟩ => ⟨a,ha,(hr _ (hadm a ha)).mp hd⟩,
        fun ⟨a,ha,he⟩ => ⟨a,ha,(hr _ (hadm a ha)).mpr he⟩⟩
    cases level with
    | low =>
      rw [hone .securityOperator (by intro r hr; cases r <;> simp_all [decidesAlone])]
      have hl := hlen .securityOperator
      rw [← hno] at hl
      simpa [requirements,h] using hl
    | medium =>
      rw [hone .approver (by intro r hr; cases r <;> simp_all [decidesAlone])]
      have hl := hlen .approver
      rw [← hno] at hl
      simpa [requirements,h] using hl
    | high =>
      simp only [decidesAlone_of_two .high rfl]
      simpa [requirements,h] using hadm
    | critical =>
      simp only [decidesAlone_of_two .critical rfl]
      simpa [requirements,h] using hadm

/-- The requirement of a risk level, met by a list of approval rows. -/
def Satisfied (roleOf : Uuid → UserRole) (level : RiskLevel) (xs : List Approval) : Prop :=
  (checkApprovalRequirements roleOf level xs).satisfied = true

instance (roleOf : Uuid → UserRole) (level : RiskLevel) (xs : List Approval) :
    Decidable (Satisfied roleOf level xs) :=
  inferInstanceAs (Decidable (_ = true))

theorem satisfied_singleton (roleOf : Uuid → UserRole) (level : RiskLevel) (a : Approval) :
    Satisfied roleOf level [a] ↔
      a.decision = .approved ∧ decidesAlone level (roleOf a.approverId) = true := by
  simp [Satisfied,satisfied_iff]

theorem satisfied_decisive (roleOf : Uuid → UserRole) (level : RiskLevel) :
    Votes.Decisive (Satisfied roleOf level) := by
  intro xs
  simp only [satisfied_singleton]
  exact satisfied_iff roleOf level xs

end Nexplane
