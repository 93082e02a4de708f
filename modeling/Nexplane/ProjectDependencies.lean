import Nexplane.ProjectRollbackSteps
import Nexplane.Lib.Reach
import Nexplane.Lib.Runs
import Nexplane.Lib.Checks
import Nexplane.Lib.Orm

set_option autoImplicit false

/-! The members of a project and what they depend on: when a member may be executed, and the
requests that change the members. -/

namespace Nexplane
open Runs Reach

/-- A row of `project_change_requests`; the identifiers in `dependsOn` are parsed. -/
structure ProjectMember where
  id : Uuid
  changeRequestId : Uuid
  sequenceOrder : Int
  dependsOn : List Uuid
  deriving DecidableEq, Repr

/-- One project, with the statuses of the change requests of its organization. -/
structure Membership where
  status : ProjectStatus
  members : List ProjectMember
  changeStatus : Uuid → Option ChangeRequestStatus
  primaryKey : (members.map ProjectMember.id).Nodup

def dependenciesOf (members : List ProjectMember) (id : Uuid) : List Uuid :=
  ((members.find? fun m => m.id = id).map ProjectMember.dependsOn).getD []

namespace Membership

def ids (s : Membership) : List Uuid := s.members.map ProjectMember.id

def Completed (s : Membership) (m : ProjectMember) : Prop :=
  s.changeStatus m.changeRequestId = some .completed

instance (s : Membership) (m : ProjectMember) : Decidable (s.Completed m) :=
  inferInstanceAs (Decidable (_ = _))

def computeEligible (s : Membership) (pcr : ProjectMember) : Bool :=
  pcr.dependsOn.all fun depId =>
    match s.members.find? fun m => m.id = depId with
    | some dep => s.Completed dep
    | none => false

end Membership

section Requests

variable (limit : Nat)

/-- `_detect_cycle`. Calls may nest `limit` deep; `none` when they would have to be deeper. -/
def detectCycle (target : Uuid) (proposed : List Uuid) (members : List ProjectMember) :
    Option Bool :=
  reachesAny (Function.update (dependenciesOf members) target proposed) target limit proposed

/-- The dependencies do not close a cycle. -/
def checkCycle (target : Uuid) (proposed : List Uuid) (s : Membership) : Except Refusal Unit :=
  match detectCycle limit target proposed s.members with
  | some false => .ok ()
  | some true => .error (.http 400 "Dependency would create a cycle")
  | none => .error (.unhandled "RecursionError")

def Membership.insert (s : Membership) (m : ProjectMember) : Except Refusal Membership :=
  if h : m.id ∈ s.members.map ProjectMember.id then .error (.unhandled "IntegrityError")
  else .ok { s with
    members := s.members ++ [m]
    primaryKey := by
      rw [List.map_append,List.nodup_append]
      refine ⟨s.primaryKey,by simp,fun a ha b hb hab => ?_⟩
      obtain rfl : b = m.id := by simpa using hb
      exact h (hab ▸ ha) }

def Membership.delete (s : Membership) (id : Uuid) : Membership :=
  { s with
    members := s.members.filter fun m => m.id ≠ id
    primaryKey := s.primaryKey.sublist (List.filter_sublist.map _) }

/-- Changes each row without its identifier. -/
def Membership.modify (s : Membership) (f : ProjectMember → ProjectMember)
    (hf : ∀ m, (f m).id = m.id) : Membership :=
  { s with
    members := s.members.map f
    primaryKey := by
      rw [List.map_map]
      have hid : ProjectMember.id ∘ f = ProjectMember.id := funext hf
      rw [hid]
      exact s.primaryKey }

/-- `add_project_member`. The row gets the identifier `id`, the check for cycles another one. -/
def addProjectMember (placeholder id changeRequestId : Uuid) (sequenceOrder : Int)
    (dependsOn : List Uuid) (s : Membership) : Except Refusal Membership :=
  if s.status ≠ .draft then .error (.http 409 "Members can only be added to draft projects")
  else if (s.changeStatus changeRequestId).isNone then
    .error (.http 404 "Change request not found")
  else do
    let _ ← (if dependsOn.isEmpty then .ok () else checkCycle limit placeholder dependsOn s)
    s.insert ⟨id,changeRequestId,
      if sequenceOrder = 0 then s.members.length else sequenceOrder,dependsOn⟩

def removeProjectMember (pcrId : Uuid) (s : Membership) : Except Refusal Membership :=
  if s.status ≠ .draft then .error (.http 409 "Members can only be removed from draft projects")
  else if pcrId ∈ s.ids then .ok (s.delete pcrId)
  else .error (.http 404 "Project member not found")

def updateProjectMember (pcrId : Uuid) (dependsOn : Option (List Uuid))
    (sequenceOrder : Option Int) (s : Membership) : Except Refusal Membership :=
  if s.status ≠ .draft ∧ s.status ≠ .inProgress then
    .error (.http 409 "Members can only be updated in draft or in-progress projects")
  else if pcrId ∉ s.ids then .error (.http 404 "Project member not found")
  else do
    let _ ← dependsOn.elim (.ok ()) fun newDeps => checkCycle limit pcrId newDeps s
    pure (s.modify (fun m => if m.id = pcrId then { m with
        dependsOn := dependsOn.getD m.dependsOn
        sequenceOrder := sequenceOrder.getD m.sequenceOrder } else m)
      fun m => by split <;> rfl)

/-- `add_cr_to_project` of the agent tools, which looks for no cycle. -/
def addCrToProject (id changeRequestId : Uuid) (sequenceOrder : Option Int)
    (dependsOn : List Uuid) (s : Membership) : Except Refusal Membership :=
  if (s.changeStatus changeRequestId).isNone then
    .error (.tool "Change request not found or belongs to a different organisation")
  else
    let last := (s.members.map ProjectMember.sequenceOrder).max?.getD 0
    s.insert ⟨id,changeRequestId,sequenceOrder.getD (last + 1),dependsOn⟩

/-- `remove_cr_from_project` of the agent tools. The new numbers of the other rows are left out:
no check reads them. -/
def removeCrFromProject (changeRequestId : Uuid) (s : Membership) : Except Refusal Membership :=
  match s.members.filter fun m => m.changeRequestId = changeRequestId with
  | [] => .error (.tool "CR is not a member of this project")
  | [m] => .ok (s.delete m.id)
  | _ => .error (.unhandled "MultipleResultsFound")

/-- `change` is any step of a change request of the organization, its completion among them. -/
inductive MembershipEvent where
  | add (placeholder id changeRequestId : Uuid) (sequenceOrder : Int) (dependsOn : List Uuid)
  | remove (pcrId : Uuid)
  | update (pcrId : Uuid) (dependsOn : Option (List Uuid)) (sequenceOrder : Option Int)
  | toolAdd (id changeRequestId : Uuid) (sequenceOrder : Option Int) (dependsOn : List Uuid)
  | toolRemove (changeRequestId : Uuid)
  | setStatus (status : ProjectStatus)
  | change (changeRequestId : Uuid) (status : ChangeRequestStatus)

def MembershipEvent.apply (s : Membership) : MembershipEvent → Except Refusal Membership
  | .add placeholder id changeRequestId sequenceOrder dependsOn =>
    addProjectMember limit placeholder id changeRequestId sequenceOrder dependsOn s
  | .remove pcrId => removeProjectMember pcrId s
  | .update pcrId dependsOn sequenceOrder =>
    updateProjectMember limit pcrId dependsOn sequenceOrder s
  | .toolAdd id changeRequestId sequenceOrder dependsOn =>
    addCrToProject id changeRequestId sequenceOrder dependsOn s
  | .toolRemove changeRequestId => removeCrFromProject changeRequestId s
  | .setStatus status => .ok { s with status := status }
  | .change changeRequestId status => .ok { s with
      changeStatus := Function.update s.changeStatus changeRequestId (some status) }

def membershipSystem : System Membership MembershipEvent where
  start s := s.members = []
  step s e := (e.apply limit s).toOption

end Requests

/-- The step leaves no member with a dependency that is not a member. -/
def KeepsReferences (s : Membership) : MembershipEvent → Prop
  | .add _ _ _ _ dependsOn => ∀ d ∈ dependsOn, d ∈ s.ids
  | .toolAdd _ _ _ dependsOn => ∀ d ∈ dependsOn, d ∈ s.ids
  | .update _ dependsOn _ => ∀ d ∈ dependsOn.getD [], d ∈ s.ids
  | .remove pcrId => ∀ m ∈ s.members, m.id ≠ pcrId → pcrId ∉ m.dependsOn
  | .toolRemove changeRequestId => ∀ m ∈ s.members, ∀ n ∈ s.members,
      n.changeRequestId = changeRequestId → m.id ≠ n.id → n.id ∉ m.dependsOn
  | _ => True

/-- Where some member is not completed, one of them may be executed. -/
def Membership.NeverStuck (s : Membership) : Prop :=
  (∃ m ∈ s.members, ¬s.Completed m) → ∃ m ∈ s.members, ¬s.Completed m ∧ s.computeEligible m = true

/-- Every dependency is a member, and the dependencies have no cycle. -/
structure Membership.Ordered (s : Membership) : Prop where
  references : ∀ m ∈ s.members, ∀ d ∈ m.dependsOn, d ∈ s.ids
  ranked : Ranked (dependenciesOf s.members)

section Lookup

variable {s : Membership} {m : ProjectMember} {id : Uuid}

theorem Membership.find?_iff :
    (s.members.find? fun n => n.id = id) = some m ↔ m ∈ s.members ∧ m.id = id := by
  have hquery : ∀ r : ProjectMember, decide (r.id = id) = true → r.id = id := fun _ h => by
    simpa using h
  rw [Orm.find?_eq_some s.primaryKey hquery]
  simp

theorem Membership.dependenciesOf_id (h : m ∈ s.members) :
    dependenciesOf s.members m.id = m.dependsOn := by
  rw [dependenciesOf,Membership.find?_iff.mpr ⟨h,rfl⟩]
  rfl

theorem dependenciesOf_of_not_mem {members : List ProjectMember}
    (h : id ∉ members.map ProjectMember.id) : dependenciesOf members id = [] := by
  have hnone : (members.find? fun m => m.id = id) = none :=
    List.find?_eq_none.mpr fun m hm => by simpa using fun he => h (List.mem_map.mpr ⟨m,hm,he⟩)
  rw [dependenciesOf,hnone]
  rfl

theorem computeEligible_iff : s.computeEligible m = true ↔
    ∀ d ∈ m.dependsOn, ∃ n ∈ s.members, n.id = d ∧ s.Completed n := by
  rw [Membership.computeEligible,List.all_eq_true]
  refine forall₂_congr fun d _ => ?_
  cases hfind : s.members.find? fun n => n.id = d with
  | none =>
    have hnone := List.find?_eq_none.mp hfind
    constructor
    · simp
    · rintro ⟨n,hn,hid,_⟩
      exact absurd hid (by simpa using hnone n hn)
  | some n =>
    obtain ⟨hn,hid⟩ := Membership.find?_iff.mp hfind
    constructor
    · exact fun h => ⟨n,hn,hid,by simpa using h⟩
    · rintro ⟨n',hn',hid',hcompleted⟩
      obtain rfl := Orm.eq_of_key s.primaryKey hn hn' (hid.trans hid'.symm)
      simpa using hcompleted

/-- The open member of the lowest rank has completed all that it depends on. -/
theorem Membership.Ordered.neverStuck (h : s.Ordered) : s.NeverStuck := by
  rintro ⟨m,hm,hopen⟩
  have hsome : ∃ id, ∃ n ∈ s.members, n.id = id ∧ ¬s.Completed n := ⟨m.id,m,hm,rfl,hopen⟩
  obtain ⟨id,⟨n,hn,rfl,hopen⟩,hlast⟩ := h.ranked.exists_last hsome
  refine ⟨n,hn,hopen,computeEligible_iff.mpr fun d hd => ?_⟩
  obtain ⟨dep,hdep,rfl⟩ := List.mem_map.mp (h.references n hn d hd)
  refine ⟨dep,hdep,rfl,?_⟩
  by_contra hdepOpen
  exact hlast dep.id (by rwa [s.dependenciesOf_id hn]) ⟨dep,hdep,rfl,hdepOpen⟩

end Lookup

section Steps

variable {s s' : Membership} {m : ProjectMember} {id target : Uuid} {limit : Nat}

/-- What can be reached from a member is a member. -/
theorem Membership.Ordered.reaches_mem (h : s.Ordered) {x y : Uuid} (hx : x ∈ s.ids)
    (hreach : Reach.Reaches (dependenciesOf s.members) x y) : y ∈ s.ids := by
  induction hreach with
  | refl => exact hx
  | tail _ hedge ih =>
    obtain ⟨m,hm,rfl⟩ := List.mem_map.mp ih
    exact h.references m hm _ (by rwa [← s.dependenciesOf_id hm])

theorem Membership.insert_ok (hs : s.insert m = .ok s') :
    m.id ∉ s.ids ∧ s'.members = s.members ++ [m] := by
  unfold Membership.insert at hs
  split at hs
  · cases hs
  · rename_i hnew
    obtain rfl := Except.ok.inj hs
    exact ⟨hnew,rfl⟩

theorem insert_dependencies (hs : s.insert m = .ok s') : dependenciesOf s'.members =
    Function.update (dependenciesOf s.members) m.id m.dependsOn := by
  obtain ⟨hnew,hmembers⟩ := s.insert_ok hs
  rw [hmembers]
  funext x
  by_cases hx : x = m.id
  · subst hx
    have hnone : (s.members.find? fun n => n.id = m.id) = none :=
      List.find?_eq_none.mpr fun n hn => by
        simpa using fun he => hnew (List.mem_map.mpr ⟨n,hn,he⟩)
    simp [dependenciesOf,List.find?_append,hnone]
  · have hne : ¬m.id = x := fun he => hx he.symm
    simp [dependenciesOf,List.find?_append,hx,hne]

theorem insert_ordered (h : s.Ordered) (hreferences : ∀ d ∈ m.dependsOn, d ∈ s.ids)
    (hs : s.insert m = .ok s') : s'.Ordered := by
  obtain ⟨hnew,hmembers⟩ := s.insert_ok hs
  refine ⟨fun n hn d hd => ?_,?_⟩
  · rw [hmembers] at hn
    have hd' : d ∈ s.ids := by
      rcases List.mem_append.mp hn with hn | hn
      · exact h.references n hn d hd
      · obtain rfl := List.mem_singleton.mp hn
        exact hreferences d hd
    simpa [Membership.ids,hmembers] using Or.inl (List.mem_map.mp hd')
  · rw [insert_dependencies hs]
    exact h.ranked.update fun d hd hreach => hnew (h.reaches_mem (hreferences d hd) hreach)

theorem mem_delete : m ∈ (s.delete id).members ↔ m ∈ s.members ∧ m.id ≠ id := by
  simp [Membership.delete]

theorem delete_ranked (h : Ranked (dependenciesOf s.members)) :
    Ranked (dependenciesOf (s.delete id).members) := by
  refine h.mono fun x y hy => ?_
  by_cases hx : x ∈ (s.delete id).ids
  · obtain ⟨m,hm,rfl⟩ := List.mem_map.mp hx
    rw [(s.delete id).dependenciesOf_id hm] at hy
    rwa [s.dependenciesOf_id (mem_delete.mp hm).1]
  · rw [dependenciesOf_of_not_mem hx] at hy
    cases hy

theorem delete_ordered (h : s.Ordered)
    (hunused : ∀ m ∈ s.members, m.id ≠ id → id ∉ m.dependsOn) : (s.delete id).Ordered := by
  refine ⟨fun m hm d hd => ?_,delete_ranked h.ranked⟩
  obtain ⟨hold,hne⟩ := mem_delete.mp hm
  obtain ⟨dep,hdep,hid⟩ := List.mem_map.mp (h.references m hold d hd)
  refine List.mem_map.mpr ⟨dep,mem_delete.mpr ⟨hdep,fun he => ?_⟩,hid⟩
  obtain rfl : d = id := hid.symm.trans he
  exact hunused m hold hne hd

theorem Membership.modify_ids {f : ProjectMember → ProjectMember} (hf : ∀ m, (f m).id = m.id) :
    (s.modify f hf).ids = s.ids := by
  rw [Membership.ids,Membership.modify,List.map_map]
  exact List.map_congr_left fun m _ => hf m

theorem modify_dependencies {f : ProjectMember → ProjectMember} (hf : ∀ m, (f m).id = m.id)
    (x : Uuid) : dependenciesOf (s.modify f hf).members x =
      ((s.members.find? fun m => m.id = x).map fun m => (f m).dependsOn).getD [] := by
  simp [dependenciesOf,Membership.modify,List.find?_map,Function.comp_def,hf]

theorem checkCycle_ok {proposed : List Uuid} (h : checkCycle limit target proposed s = .ok ()) :
    detectCycle limit target proposed s.members = some false := by
  unfold checkCycle at h
  split at h
  · assumption
  · cases h
  · cases h

/-- What the update of a member's row is, and what was checked before. -/
theorem updateProjectMember_ok {dependsOn : Option (List Uuid)} {sequenceOrder : Option Int}
    (hs : updateProjectMember limit id dependsOn sequenceOrder s = .ok s') :
    id ∈ s.ids ∧ (∀ newDeps ∈ dependsOn,
      detectCycle limit id newDeps s.members = some false) ∧
    s' = s.modify (fun m => if m.id = id then { m with
        dependsOn := dependsOn.getD m.dependsOn
        sequenceOrder := sequenceOrder.getD m.sequenceOrder } else m)
      (fun m => by split <;> rfl) := by
  unfold updateProjectMember at hs
  split at hs
  · cases hs
  split at hs
  · cases hs
  rename_i _ hmem
  obtain ⟨_,hcheck,hs⟩ := Checks.bind_eq_ok.mp hs
  refine ⟨not_not.mp hmem,fun newDeps hnew => ?_,(Checks.pure_eq_ok.mp hs).symm⟩
  obtain rfl := Option.mem_def.mp hnew
  exact checkCycle_ok hcheck

theorem update_dependencies {dependsOn : Option (List Uuid)} {sequenceOrder : Option Int}
    (hs : updateProjectMember limit id dependsOn sequenceOrder s = .ok s') :
    dependenciesOf s'.members = Function.update (dependenciesOf s.members) id
      (dependsOn.getD (dependenciesOf s.members id)) := by
  obtain ⟨hmem,_,rfl⟩ := updateProjectMember_ok hs
  funext x
  rw [modify_dependencies]
  by_cases hx : x = id
  · subst hx
    obtain ⟨m,hm,rfl⟩ := List.mem_map.mp hmem
    rw [Function.update_self,s.dependenciesOf_id hm,Membership.find?_iff.mpr ⟨hm,rfl⟩]
    simp
  · rw [Function.update_of_ne hx,dependenciesOf]
    cases hfind : s.members.find? fun m => m.id = x with
    | none => rfl
    | some m =>
      have hid : m.id = x := (Membership.find?_iff.mp hfind).2
      have hne : ¬m.id = id := fun he => hx (hid.symm.trans he)
      simp [hne]

theorem update_ranked (h : Ranked (dependenciesOf s.members)) {dependsOn : Option (List Uuid)}
    {sequenceOrder : Option Int}
    (hs : updateProjectMember limit id dependsOn sequenceOrder s = .ok s') :
    Ranked (dependenciesOf s'.members) := by
  rw [update_dependencies hs]
  cases dependsOn with
  | none => simpa using h
  | some newDeps =>
    have hcycle := (updateProjectMember_ok hs).2.1 newDeps rfl
    exact h.update (reachesAny_false hcycle fun y hy => by rw [Function.update_of_ne hy])

theorem update_ordered (h : s.Ordered) {dependsOn : Option (List Uuid)}
    {sequenceOrder : Option Int} (hreferences : ∀ d ∈ dependsOn.getD [], d ∈ s.ids)
    (hs : updateProjectMember limit id dependsOn sequenceOrder s = .ok s') : s'.Ordered := by
  refine ⟨?_,update_ranked h.ranked hs⟩
  obtain ⟨_,_,rfl⟩ := updateProjectMember_ok hs
  intro m hm d hd
  rw [Membership.modify_ids]
  obtain ⟨n,hn,rfl⟩ := List.mem_map.mp hm
  by_cases hid : n.id = id
  · cases dependsOn with
    | none => exact h.references n hn d (by simpa [hid] using hd)
    | some newDeps => exact hreferences d (by simpa [hid] using hd)
  · exact h.references n hn d (by simpa [hid] using hd)

theorem addProjectMember_ok {placeholder changeRequestId : Uuid} {sequenceOrder : Int}
    {dependsOn : List Uuid}
    (hs : addProjectMember limit placeholder id changeRequestId sequenceOrder dependsOn s =
      .ok s') : ∃ m, m.id = id ∧ m.dependsOn = dependsOn ∧ s.insert m = .ok s' := by
  unfold addProjectMember at hs
  split at hs
  · cases hs
  split at hs
  · cases hs
  obtain ⟨_,_,hs⟩ := Checks.bind_eq_ok.mp hs
  exact ⟨_,rfl,rfl,hs⟩

theorem addCrToProject_ok {changeRequestId : Uuid} {sequenceOrder : Option Int}
    {dependsOn : List Uuid}
    (hs : addCrToProject id changeRequestId sequenceOrder dependsOn s = .ok s') :
    ∃ m, m.id = id ∧ m.dependsOn = dependsOn ∧ s.insert m = .ok s' := by
  unfold addCrToProject at hs
  split at hs
  · cases hs
  · exact ⟨_,rfl,rfl,hs⟩

theorem removeProjectMember_ok (hs : removeProjectMember id s = .ok s') : s' = s.delete id := by
  unfold removeProjectMember at hs
  split at hs
  · cases hs
  split at hs
  · exact (Except.ok.inj hs).symm
  · cases hs

theorem removeCrFromProject_ok {changeRequestId : Uuid}
    (hs : removeCrFromProject changeRequestId s = .ok s') :
    ∃ m ∈ s.members, m.changeRequestId = changeRequestId ∧ s' = s.delete m.id := by
  unfold removeCrFromProject at hs
  split at hs
  · cases hs
  · rename_i m hfilter
    obtain ⟨hm,hid⟩ : m ∈ s.members ∧ m.changeRequestId = changeRequestId := by
      have hmem : m ∈ s.members.filter fun m => m.changeRequestId = changeRequestId := by
        rw [hfilter]
        exact List.mem_cons_self
      simpa using hmem
    exact ⟨m,hm,hid,(Except.ok.inj hs).symm⟩
  · cases hs

theorem step_ordered {e : MembershipEvent} (h : s.Ordered) (hkeeps : KeepsReferences s e)
    (hs : (membershipSystem limit).step s e = some s') : s'.Ordered := by
  have hs : e.apply limit s = .ok s' := Checks.toOption_eq_some.mp hs
  cases e with
  | add placeholder new changeRequestId sequenceOrder dependsOn =>
    obtain ⟨m,_,rfl,hinsert⟩ := addProjectMember_ok hs
    exact insert_ordered h hkeeps hinsert
  | remove pcrId =>
    obtain rfl := removeProjectMember_ok hs
    exact delete_ordered h hkeeps
  | update pcrId dependsOn sequenceOrder => exact update_ordered h hkeeps hs
  | toolAdd new changeRequestId sequenceOrder dependsOn =>
    obtain ⟨m,_,rfl,hinsert⟩ := addCrToProject_ok hs
    exact insert_ordered h hkeeps hinsert
  | toolRemove changeRequestId =>
    obtain ⟨m,hm,hid,rfl⟩ := removeCrFromProject_ok hs
    exact delete_ordered h fun n hn hne => hkeeps n hn m hm hid hne
  | setStatus status =>
    obtain rfl := Except.ok.inj hs
    exact ⟨h.references,h.ranked⟩
  | change changeRequestId status =>
    obtain rfl := Except.ok.inj hs
    exact ⟨h.references,h.ranked⟩

end Steps

theorem ordered_inductive (limit : Nat) :
    InductiveUnder (membershipSystem limit) KeepsReferences Membership.Ordered where
  start := by
    intro s hs
    have hempty : s.members = [] := hs
    refine ⟨by simp [hempty],fun _ => 0,fun x y hy => ?_⟩
    simp [hempty,dependenciesOf] at hy
  step := fun _ _ _ h hkeeps hs => step_ordered h hkeeps hs

/-- As long as every dependency stays a member, an open project has a member to execute next. -/
theorem project_never_stuck {limit : Nat} {tr : List (Transition Membership MembershipEvent)}
    {s : Membership} (h : Run (membershipSystem limit) tr s)
    (hkeeps : ∀ t ∈ tr, KeepsReferences t.pre t.label) : s.NeverStuck :=
  (h.guarded (ordered_inductive limit) hkeeps).neverStuck

def emptyProject : Membership where
  status := .draft
  members := []
  changeStatus := fun id => if id = "cr-1" ∨ id = "cr-2" then some .approved else none
  primaryKey := List.nodup_nil

def firstMember : MembershipEvent := .add "" "m-1" "cr-1" 0 []

def secondMember : MembershipEvent := .add "" "m-2" "cr-2" 0 ["m-1"]

/-- A second member waits for the first one, which is completed. -/
theorem chained_project_never_stuck : ∃ s, Reachable (membershipSystem 10) s ∧
    s.members.map ProjectMember.dependsOn = [[],["m-1"]] ∧ s.NeverStuck := by
  have hrun : (membershipSystem 10).replay emptyProject
      [firstMember,secondMember,.change "cr-1" .completed] = some _ := rfl
  have h := (Run.start rfl).replay hrun
  have hmeets : (membershipSystem 10).Meets KeepsReferences emptyProject
      [firstMember,secondMember,.change "cr-1" .completed] :=
    ⟨nofun,fun _ hd => hd,trivial,trivial⟩
  exact ⟨_,h.reachable,rfl,project_never_stuck h (System.history_meets hmeets (by simp))⟩

/-- A member that waits for a removed one is never to be executed. -/
theorem removed_dependency_stuck : ∃ s, Reachable (membershipSystem 10) s ∧
    s.members.map ProjectMember.dependsOn = [["m-1"]] ∧ ¬s.NeverStuck := by
  have hrun : (membershipSystem 10).replay emptyProject
      [firstMember,secondMember,.remove "m-1"] = some _ := rfl
  have h := (Run.start rfl).replay hrun
  refine ⟨_,h.reachable,rfl,fun hstuck => ?_⟩
  obtain ⟨m,hm,_,heligible⟩ := hstuck ⟨_,List.mem_cons_self,by decide⟩
  obtain rfl := List.mem_singleton.mp hm
  exact absurd heligible (by decide)

end Nexplane
