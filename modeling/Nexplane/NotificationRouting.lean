import Mathlib.Data.List.Sort
import Nexplane.Entities
import Nexplane.Lib.Checks

set_option autoImplicit false

/-! Notification routing rules: which of them a change request meets, whom they notify, and the
requests that create, change and delete them. -/

namespace Nexplane
open PyValue

/-- A rule; its conditions and its recipients may be absent. -/
structure NotificationRoutingRule where
  id : String
  name : String
  enabled : Bool := true
  priority : Int := 100
  matchCrTypes : Option (List String) := none
  matchSeverities : Option (List String) := none
  matchAssetTags : Option (List (String × String)) := none
  matchConnectorTypes : Option (List String) := none
  matchStatus : Option (List String) := none
  notifyUserIds : Option (List String) := none
  notifyRoleIds : Option (List String) := none
  notifyChannels : Option (List String) := none
  suppressDefault : Bool := false
  createdBy : Option Uuid := none
  deriving DecidableEq, Repr

/-- What the rules see of a change: the texts of its attributes, empty where it has none. -/
structure RoutedChange where
  organizationId : Uuid
  changeType : String
  severity : String
  assetTags : List (String × String)
  connectorType : String
  status : String

/-- A change request has no severity, tags and connector type of its own. -/
def ChangeRequest.routed (cr : ChangeRequest) : RoutedChange where
  organizationId := cr.organizationId
  changeType := cr.changeType.str
  severity := ""
  assetTags := []
  connectorType := ""
  status := cr.status.str

/-- `if allowed: if text not in allowed: return False`. -/
def allows (allowed : Option (List String)) (text : String) : Bool :=
  (allowed.getD []).isEmpty || (allowed.getD []).contains text

def ruleMatches (rule : NotificationRoutingRule) (cr : RoutedChange) : Bool :=
  allows rule.matchCrTypes cr.changeType && allows rule.matchSeverities cr.severity &&
    ((rule.matchAssetTags.getD []).all fun (k,v) => cr.assetTags.lookup k = some v) &&
    allows rule.matchConnectorTypes cr.connectorType && allows rule.matchStatus cr.status

/-- The order of a query by priority, which leaves rules of one priority in any order. -/
structure PriorityOrder where
  orderBy : List NotificationRoutingRule → List NotificationRoutingRule
  perm : ∀ rules, (orderBy rules).Perm rules
  sorted : ∀ rules, (orderBy rules).Pairwise fun a b => a.priority ≤ b.priority

/-- Rules of one priority stay in their order. -/
def PriorityOrder.stable : PriorityOrder where
  orderBy := List.insertionSort fun a b => a.priority ≤ b.priority
  perm := List.perm_insertionSort _
  sorted := by
    have htotal : Std.Total fun a b : NotificationRoutingRule => a.priority ≤ b.priority :=
      ⟨fun a b => Int.le_total a.priority b.priority⟩
    have htrans : IsTrans NotificationRoutingRule fun a b => a.priority ≤ b.priority :=
      ⟨fun _ _ _ => Int.le_trans⟩
    exact List.pairwise_insertionSort _

structure RoutingStore where
  users : List User
  rules : List NotificationRoutingRule

structure RoutingResult where
  userIds : List String := []
  channels : List String := []
  suppressDefault : Bool := false
  matchedRules : List String := []
  deriving DecidableEq

def UserRole.ofName (name : String) : Except Exc UserRole :=
  match [UserRole.admin,.securityOperator,.approver,.auditor].find? fun role =>
    role.value = name with
  | some role => .ok role
  | none => .error (.other ("invalid input value for enum userrole: " ++ name))

/-- The users of an organization that have one of the roles. -/
def RoutingStore.roleMembers (s : RoutingStore) (organizationId : Uuid) (roleIds : List String) :
    Except Exc (List String) := do
  let roles ← roleIds.mapM UserRole.ofName
  return (s.users.filter fun user =>
    user.organizationId = organizationId && roles.contains user.role).map User.id

def addChannel (channels : List String) (ch : String) : List String :=
  if ch ∈ channels then channels else channels ++ [ch]

def RoutingStore.applyRule (s : RoutingStore) (cr : RoutedChange) (acc : RoutingResult)
    (rule : NotificationRoutingRule) : Except Exc RoutingResult := do
  let members ← s.roleMembers cr.organizationId (rule.notifyRoleIds.getD [])
  return {
    userIds := acc.userIds ∪ rule.notifyUserIds.getD [] ∪ members
    channels := (rule.notifyChannels.getD []).foldl addChannel acc.channels
    suppressDefault := acc.suppressDefault || rule.suppressDefault
    matchedRules := acc.matchedRules ++ [rule.name] }

/-- `evaluate_routing_rules`; the user ids come as a set. -/
def evaluateRoutingRules (q : PriorityOrder) (s : RoutingStore) (cr : RoutedChange) :
    Except Exc RoutingResult :=
  ((q.orderBy (s.rules.filter fun rule => rule.enabled)).filter fun rule =>
    ruleMatches rule cr).foldlM (s.applyRule cr) {}

inductive RuleRequest where
  | create (ruleId : String) (body : NotificationRoutingRule)
  | update (ruleId : String) (body : NotificationRoutingRule)
  | delete (ruleId : String)

def RoutingStore.request (s : RoutingStore) (user : User) :
    RuleRequest → Except Refusal RoutingStore
  | .create ruleId body =>
    if (s.rules.any fun rule => rule.id = ruleId) = true then
      .error (.unhandled "IntegrityError")
    else .ok { s with rules := s.rules ++ [{ body with id := ruleId, createdBy := some user.id }] }
  | .update ruleId body =>
    if (s.rules.any fun rule => rule.id = ruleId) = true then
      .ok { s with
        rules := s.rules.map fun rule =>
          if rule.id = ruleId then { body with id := ruleId, createdBy := rule.createdBy }
          else rule }
    else .error (.http 404 "Rule not found")
  | .delete ruleId =>
    if (s.rules.any fun rule => rule.id = ruleId) = true then
      .ok { s with rules := s.rules.filter fun rule => rule.id ≠ ruleId }
    else .error (.http 404 "Rule not found")

/-- What users of other organizations make of the rules. -/
inductive EditedByOthers (organizationId : Uuid) : RoutingStore → RoutingStore → Prop where
  | refl (s : RoutingStore) : EditedByOthers organizationId s s
  | edit {s t u : RoutingStore} {user : User} {req : RuleRequest} :
      EditedByOthers organizationId s t → user ∈ t.users →
      user.organizationId ≠ organizationId → t.request user req = .ok u →
      EditedByOthers organizationId s u

/-- The same users, channels and suppression, or the same failure. -/
def SameRouting : Except Exc RoutingResult → Except Exc RoutingResult → Prop
  | .ok r, .ok r' =>
    (∀ u, u ∈ r.userIds ↔ u ∈ r'.userIds) ∧ r.channels = r'.channels ∧
      r.suppressDefault = r'.suppressDefault
  | .error e, .error e' => e = e'
  | _, _ => False

def RoutingStore.IsUserOf (s : RoutingStore) (organizationId : Uuid) (u : String) : Prop :=
  ∃ user ∈ s.users, user.id = u ∧ user.organizationId = organizationId

/-- Whatever others do to the rules, the changes of the organization are routed alike, to its own
users. -/
def RoutingIsolated (q : PriorityOrder) (organizationId : Uuid) (s : RoutingStore) : Prop :=
  ∀ s', EditedByOthers organizationId s s' → ∀ cr : ChangeRequest,
    cr.organizationId = organizationId →
      SameRouting (evaluateRoutingRules q s cr.routed) (evaluateRoutingRules q s' cr.routed) ∧
      ∀ r, evaluateRoutingRules q s' cr.routed = .ok r → ∀ u ∈ r.userIds,
        s'.IsUserOf organizationId u

def RoutingStore.Applies (s : RoutingStore) (cr : RoutedChange)
    (rule : NotificationRoutingRule) : Prop :=
  rule ∈ s.rules ∧ rule.enabled = true ∧ ruleMatches rule cr = true

def NotificationRoutingRule.RolesKnown (rule : NotificationRoutingRule) : Prop :=
  ∀ name ∈ rule.notifyRoleIds.getD [], ∃ role, UserRole.ofName name = .ok role

/-- The rules that apply to a change of the organization list its own users only, unless one of
them names a role that does not exist. -/
def RoutingStore.OwnRecipients (s : RoutingStore) (organizationId : Uuid) : Prop :=
  ∀ cr : ChangeRequest, cr.organizationId = organizationId →
    (∀ rule, s.Applies cr.routed rule → rule.RolesKnown) →
      ∀ rule, s.Applies cr.routed rule → ∀ u ∈ rule.notifyUserIds.getD [],
        s.IsUserOf organizationId u

section Evaluation

variable {q : PriorityOrder} {s : RoutingStore} {cr : RoutedChange} {acc r : RoutingResult}
  {rule : NotificationRoutingRule} {rules : List NotificationRoutingRule} {u : String}

theorem roleMembers_ok {organizationId : Uuid} {roleIds members : List String}
    (h : s.roleMembers organizationId roleIds = .ok members) :
    (∀ name ∈ roleIds, ∃ role, UserRole.ofName name = .ok role) ∧
      (u ∈ members → s.IsUserOf organizationId u) := by
  obtain ⟨roles,hroles,h⟩ := Checks.bind_eq_ok.mp h
  obtain rfl := Checks.pure_eq_ok.mp h
  refine ⟨fun name hname => ?_,fun hu => ?_⟩
  · obtain ⟨role,-,hrole⟩ := Lists.forall₂_mem_left (Checks.mapM_forall₂ hroles) name hname
    exact ⟨role,hrole⟩
  · obtain ⟨user,huser,rfl⟩ := List.mem_map.mp hu
    obtain ⟨hmem,hrole⟩ := List.mem_filter.mp huser
    simp only [Bool.and_eq_true,decide_eq_true_eq] at hrole
    exact ⟨user,hmem,rfl,hrole.1⟩

theorem roleMembers_isOk {organizationId : Uuid} {roleIds : List String}
    (h : ∀ name ∈ roleIds, ∃ role, UserRole.ofName name = .ok role) :
    ∃ members, s.roleMembers organizationId roleIds = .ok members := by
  obtain ⟨roles,hroles⟩ : ∃ roles, roleIds.mapM UserRole.ofName = .ok roles := by
    induction roleIds with
    | nil => exact ⟨[],rfl⟩
    | cons name names ih =>
      obtain ⟨role,hrole⟩ := h name List.mem_cons_self
      obtain ⟨roles,hroles⟩ := ih fun n hn => h n (List.mem_cons_of_mem _ hn)
      exact ⟨role :: roles,by simp [List.mapM_cons,hrole,hroles]⟩
  exact ⟨_,Checks.bind_eq_ok.mpr ⟨roles,hroles,rfl⟩⟩

/-- A rule that has been applied has roles that exist, and adds the users that it lists and users of
the organization. -/
theorem applyRule_ok (h : s.applyRule cr acc rule = .ok r) :
    rule.RolesKnown ∧ (∀ u, u ∈ acc.userIds ∨ u ∈ rule.notifyUserIds.getD [] → u ∈ r.userIds) ∧
      ∀ u ∈ r.userIds, u ∈ acc.userIds ∨ u ∈ rule.notifyUserIds.getD [] ∨
        s.IsUserOf cr.organizationId u := by
  obtain ⟨members,hmembers,h⟩ := Checks.bind_eq_ok.mp h
  obtain rfl := Checks.pure_eq_ok.mp h
  have hroles := fun u => roleMembers_ok (u := u) hmembers
  refine ⟨(hroles "").1,fun u hu => ?_,fun u hu => ?_⟩
  · simp only [List.mem_union_iff]
    exact Or.inl hu
  · simp only [List.mem_union_iff] at hu
    rcases hu with (hu | hu) | hu
    · exact Or.inl hu
    · exact Or.inr (Or.inl hu)
    · exact Or.inr (Or.inr ((hroles u).2 hu))

theorem applyRule_isOk (h : rule.RolesKnown) : ∃ r, s.applyRule cr acc rule = .ok r := by
  obtain ⟨members,hmembers⟩ : ∃ members, s.roleMembers cr.organizationId
      (rule.notifyRoleIds.getD []) = .ok members := roleMembers_isOk h
  exact ⟨_,Checks.bind_eq_ok.mpr ⟨members,hmembers,rfl⟩⟩

theorem foldRules_ok (h : rules.foldlM (s.applyRule cr) acc = .ok r) :
    (∀ rule ∈ rules, rule.RolesKnown) ∧
      (∀ u, (u ∈ acc.userIds ∨ ∃ rule ∈ rules, u ∈ rule.notifyUserIds.getD []) →
        u ∈ r.userIds) ∧
      ∀ u ∈ r.userIds, u ∈ acc.userIds ∨ (∃ rule ∈ rules, u ∈ rule.notifyUserIds.getD []) ∨
        s.IsUserOf cr.organizationId u := by
  induction rules generalizing acc with
  | nil =>
    obtain rfl := Checks.pure_eq_ok.mp h
    simp +contextual
  | cons rule rules ih =>
    rw [List.foldlM_cons] at h
    obtain ⟨next,hnext,h⟩ := Checks.bind_eq_ok.mp h
    obtain ⟨hknown,hin,hout⟩ := applyRule_ok hnext
    obtain ⟨hrest,hins,houts⟩ := ih h
    refine ⟨List.forall_mem_cons.mpr ⟨hknown,hrest⟩,fun u hu => hins u ?_,fun u hu => ?_⟩
    · simp only [List.exists_mem_cons_iff] at hu
      rcases hu with hu | hu | hu
      · exact Or.inl (hin u (Or.inl hu))
      · exact Or.inl (hin u (Or.inr hu))
      · exact Or.inr hu
    · simp only [List.exists_mem_cons_iff]
      rcases houts u hu with hu | hu | hu
      · rcases hout u hu with hu | hu | hu
        · exact Or.inl hu
        · exact Or.inr (Or.inl (Or.inl hu))
        · exact Or.inr (Or.inr hu)
      · exact Or.inr (Or.inl (Or.inr hu))
      · exact Or.inr (Or.inr hu)

theorem foldRules_isOk (h : ∀ rule ∈ rules, rule.RolesKnown) :
    ∃ r, rules.foldlM (s.applyRule cr) acc = .ok r := by
  induction rules generalizing acc with
  | nil => exact ⟨acc,rfl⟩
  | cons rule rules ih =>
    obtain ⟨hknown,hrest⟩ := List.forall_mem_cons.mp h
    obtain ⟨next,hnext⟩ := applyRule_isOk hknown
    obtain ⟨r,hr⟩ := ih hrest
    exact ⟨r,by rw [List.foldlM_cons]; exact Checks.bind_eq_ok.mpr ⟨next,hnext,hr⟩⟩

theorem mem_matched : rule ∈ ((q.orderBy (s.rules.filter fun rule => rule.enabled)).filter
    fun rule => ruleMatches rule cr) ↔ s.Applies cr rule := by
  rw [List.mem_filter,(q.perm _).mem_iff,List.mem_filter,RoutingStore.Applies,and_assoc]

theorem evaluate_isOk_iff : (∃ r, evaluateRoutingRules q s cr = .ok r) ↔
    ∀ rule, s.Applies cr rule → rule.RolesKnown := by
  constructor
  · rintro ⟨r,hr⟩ rule hrule
    exact (foldRules_ok hr).1 rule (mem_matched.mpr hrule)
  · intro h
    exact foldRules_isOk fun rule hrule => h rule (mem_matched.mp hrule)

theorem evaluate_users (h : evaluateRoutingRules q s cr = .ok r) :
    (∀ u ∈ r.userIds, s.IsUserOf cr.organizationId u) ↔
      ∀ rule, s.Applies cr rule → ∀ u ∈ rule.notifyUserIds.getD [],
        s.IsUserOf cr.organizationId u := by
  obtain ⟨-,hin,hout⟩ := foldRules_ok h
  constructor
  · intro hown rule hrule u hu
    exact hown u (hin u (Or.inr ⟨rule,mem_matched.mpr hrule,hu⟩))
  · intro hown u hu
    rcases hout u hu with hu | ⟨rule,hrule,hu⟩ | hu
    · cases hu
    · exact hown rule (mem_matched.mp hrule) u hu
    · exact hu

theorem SameRouting.refl (x : Except Exc RoutingResult) : SameRouting x x := by
  cases x <;> simp [SameRouting]

end Evaluation

section Isolation

variable {q : PriorityOrder} {organizationId : Uuid} {s t u : RoutingStore} {user : User}

theorem request_users {req : RuleRequest} (h : s.request user req = .ok t) : t.users = s.users := by
  cases req <;> simp only [RoutingStore.request] at h <;> split at h <;> cases h <;> rfl

theorem EditedByOthers.users (h : EditedByOthers organizationId s t) : t.users = s.users := by
  induction h with
  | refl => rfl
  | edit _ _ _ hreq ih => exact (request_users hreq).trans ih

theorem EditedByOthers.unchanged (h : EditedByOthers organizationId s t)
    (hown : ∀ user ∈ s.users, user.organizationId = organizationId) : t = s := by
  induction h with
  | refl => rfl
  | edit hpre huser hother _ ih =>
    subst ih
    exact absurd (hown _ huser) hother

/-- Anybody can delete all rules. -/
theorem edited_to_none (hmem : user ∈ s.users) (hother : user.organizationId ≠ organizationId) :
    ∀ n (t : RoutingStore), t.rules.length = n → EditedByOthers organizationId s t →
      EditedByOthers organizationId s { t with rules := [] } := by
  intro n
  induction n using Nat.strongRecOn with
  | ind n ih =>
    intro t hn h
    cases hrules : t.rules with
    | nil =>
      rw [← hrules]
      exact h
    | cons rule rules =>
      have hdelete : t.request user (.delete rule.id) =
          .ok { t with rules := t.rules.filter fun other => other.id ≠ rule.id } := by
        simp [RoutingStore.request,hrules]
      have hshort : (t.rules.filter fun other => other.id ≠ rule.id).length < n := by
        rw [← hn]
        exact List.length_filter_lt_length_iff_exists.mpr ⟨rule,by simp [hrules],by simp⟩
      have hedited := h.edit (h.users ▸ hmem) hother hdelete
      exact ih _ hshort { t with rules := t.rules.filter fun other => other.id ≠ rule.id } rfl hedited

/-- A rule that any change meets. -/
def unconditionalRule (suppressDefault : Bool) (createdBy : Option Uuid) :
    NotificationRoutingRule :=
  { id := "r1", name := "all", suppressDefault, createdBy }

theorem evaluate_unconditional (b : Bool) (createdBy : Option Uuid) (cr : RoutedChange) :
    evaluateRoutingRules q { s with rules := [unconditionalRule b createdBy] } cr =
      .ok { suppressDefault := b, matchedRules := ["all"] } := by
  have hsorted : q.orderBy [unconditionalRule b createdBy] = [unconditionalRule b createdBy] :=
    List.perm_singleton.mp (q.perm _)
  have henabled : (unconditionalRule b createdBy).enabled = true := rfl
  have hmatches : ruleMatches (unconditionalRule b createdBy) cr = true := by
    simp [ruleMatches,allows,unconditionalRule]
  simp only [evaluateRoutingRules,List.filter_cons,henabled,hmatches,hsorted,List.filter_nil,
    if_true,List.foldlM_cons,List.foldlM_nil]
  simp [RoutingStore.applyRule,RoutingStore.roleMembers,unconditionalRule]

/-- Somebody of another organization can always change how a change is routed. -/
theorem others_decide (hmem : user ∈ s.users) (hother : user.organizationId ≠ organizationId)
    (cr : RoutedChange) : ∃ s', EditedByOthers organizationId s s' ∧
      ¬SameRouting (evaluateRoutingRules q s cr) (evaluateRoutingRules q s' cr) := by
  have hnone := edited_to_none hmem hother _ s rfl (.refl s)
  have hcreate : ∀ b, EditedByOthers organizationId s
      { s with rules := [unconditionalRule b (some user.id)] } := by
    intro b
    have hcreate : RoutingStore.request { s with rules := [] } user
        (.create "r1" (unconditionalRule b none)) =
        .ok { s with rules := [unconditionalRule b (some user.id)] } := rfl
    exact hnone.edit hmem hother hcreate
  cases hresult : evaluateRoutingRules q s cr with
  | error e =>
    refine ⟨_,hcreate false,?_⟩
    rw [evaluate_unconditional]
    exact id
  | ok r =>
    refine ⟨_,hcreate (!r.suppressDefault),?_⟩
    rw [evaluate_unconditional]
    rintro ⟨-,-,hsuppress⟩
    simp at hsuppress

end Isolation

/-- The rules of one organization can be told from those of another by nothing. -/
theorem routing_isolated_iff (q : PriorityOrder) (organizationId : Uuid) (s : RoutingStore) :
    RoutingIsolated q organizationId s ↔
      (∀ user ∈ s.users, user.organizationId = organizationId) ∧
        s.OwnRecipients organizationId := by
  constructor
  · intro h
    constructor
    · intro user hmem
      by_contra hother
      let cr : ChangeRequest := {
        id := "cr", organizationId, requesterId := "u", changeType := .changeIp,
        targetAssetIds := [], desiredOutcome := [], status := .draft, riskLevel := none,
        changePlan := none, applicationSequence := none }
      obtain ⟨s',hedited,hdiffers⟩ := others_decide (q := q) hmem hother cr.routed
      exact hdiffers (h s' hedited cr rfl).1
    · intro cr horg hknown
      obtain ⟨r,hr⟩ := evaluate_isOk_iff (q := q).mpr hknown
      have hown := (h s (.refl s) cr horg).2 r hr
      rw [← horg] at hown ⊢
      exact (evaluate_users hr).mp hown
  · rintro ⟨husers,hown⟩ s' hedited cr horg
    obtain rfl := hedited.unchanged husers
    refine ⟨SameRouting.refl _,fun r hr => ?_⟩
    have hrules := hown cr horg (evaluate_isOk_iff.mp ⟨r,hr⟩)
    rw [← horg] at hrules ⊢
    exact (evaluate_users hr).mpr hrules

/-- A user of `org-b` makes a rule that sends the notifications of `org-a` to himself alone. -/
theorem routing_not_isolated :
    let own : User := { id := "u-a", organizationId := "org-a", role := .admin }
    let foreign : User := { id := "u-b", organizationId := "org-b", role := .auditor }
    let s : RoutingStore := { users := [own,foreign], rules := [] }
    let body : NotificationRoutingRule :=
      { id := "", name := "all", notifyUserIds := some ["u-b"], suppressDefault := true }
    let cr : ChangeRequest := {
      id := "cr", organizationId := "org-a", requesterId := "u-a", changeType := .changeIp,
      targetAssetIds := [], desiredOutcome := [], status := .awaitingApproval, riskLevel := none,
      changePlan := none, applicationSequence := none }
    ∃ s', s.request foreign (.create "r1" body) = .ok s' ∧
      evaluateRoutingRules .stable s cr.routed = .ok {} ∧
      evaluateRoutingRules .stable s' cr.routed = .ok
        { userIds := ["u-b"], suppressDefault := true, matchedRules := ["all"] } ∧
      ¬RoutingIsolated .stable "org-a" s := by
  intro own foreign s body cr
  let s' : RoutingStore :=
    { s with rules := [{ body with id := "r1", createdBy := some foreign.id }] }
  have hcreate : s.request foreign (.create "r1" body) = .ok s' := rfl
  have hbefore : evaluateRoutingRules .stable s cr.routed = .ok {} := rfl
  have hafter : evaluateRoutingRules .stable s' cr.routed = .ok
      { userIds := ["u-b"], suppressDefault := true, matchedRules := ["all"] } := rfl
  refine ⟨s',hcreate,hbefore,hafter,fun h => ?_⟩
  have hedited : EditedByOthers "org-a" s s' :=
    (EditedByOthers.refl s).edit (by simp [s]) (by decide) hcreate
  have hsame := (h s' hedited cr rfl).1
  rw [hbefore,hafter] at hsame
  simp [SameRouting] at hsame

end Nexplane
