import Nexplane.ProjectDependencies
import Nexplane.ConnectorService

set_option autoImplicit false

/-! The dependencies of a project's members have no cycle, and `_detect_cycle` refuses nothing else
than one. -/

namespace Nexplane
open PyValue Runs Reach

/-- A row of `project_change_requests` with its dependencies as texts, the way they are stored. -/
structure StoredMember where
  id : Uuid
  changeRequestId : Uuid
  sequenceOrder : Int
  dependsOn : List String
  deriving DecidableEq, Repr

/-- `_normalize_uuid` of every text. -/
def StoredMember.normalize (m : StoredMember) : Except Exc ProjectMember := do
  let dependsOn ← m.dependsOn.mapM parseUuid
  pure ⟨m.id,m.changeRequestId,m.sequenceOrder,dependsOn⟩

/-- `_detect_cycle` on the rows as they are stored. -/
def detectStoredCycle (limit : Nat) (target : Uuid) (proposed : List Uuid)
    (rows : List StoredMember) : Except Exc (Option Bool) := do
  let members ← rows.mapM StoredMember.normalize
  pure (detectCycle limit target proposed members)

/-- A new row gets an identifier that nothing refers to, and neither does the request. -/
def FreshMemberId (s : Membership) : MembershipEvent → Prop
  | .add placeholder id _ _ dependsOn =>
    (id ∉ dependsOn ∧ ∀ m ∈ s.members, id ∉ m.dependsOn) ∧
      placeholder ∉ dependsOn ∧ ∀ m ∈ s.members, placeholder ∉ m.dependsOn
  | .toolAdd id _ _ dependsOn => id ∉ dependsOn ∧ ∀ m ∈ s.members, id ∉ m.dependsOn
  | _ => True

instance (s : Membership) : (e : MembershipEvent) → Decidable (FreshMemberId s e)
  | .add .. => inferInstanceAs (Decidable ((_ ∧ _) ∧ _ ∧ _))
  | .toolAdd .. => inferInstanceAs (Decidable (_ ∧ _))
  | .remove _ | .update .. | .toolRemove _ | .setStatus _ | .change .. =>
    inferInstanceAs (Decidable True)

def Membership.Depends (s : Membership) : Uuid → Uuid → Prop :=
  Reach.Reaches (dependenciesOf s.members)

section Search

variable {s : Membership} {limit : Nat} {target : Uuid} {proposed : List Uuid} {found : Bool}

theorem mem_dependenciesOf {members : List ProjectMember} {x y : Uuid}
    (h : y ∈ dependenciesOf members x) : ∃ m ∈ members, m.id = x ∧ y ∈ m.dependsOn := by
  rw [dependenciesOf] at h
  cases hfind : members.find? fun m => m.id = x with
  | none => simp [hfind] at h
  | some m =>
    rw [hfind] at h
    exact ⟨m,List.mem_of_find?_eq_some hfind,by simpa using List.find?_some hfind,h⟩

theorem detectCycle_iff (h : detectCycle limit target proposed s.members = some found) :
    found = true ↔ ∃ d ∈ proposed, s.Depends d target := by
  have hsame : ∀ y, y ≠ target → dependenciesOf s.members y =
      Function.update (dependenciesOf s.members) target proposed y := fun y hy => by
    rw [Function.update_of_ne hy]
  cases found with
  | true =>
    obtain ⟨d,hd,hreach⟩ := reachesAny_true h
    exact iff_of_true rfl ⟨d,hd,hreach.congr hsame⟩
  | false =>
    refine iff_of_false (by decide) ?_
    rintro ⟨d,hd,hreach⟩
    exact reachesAny_false h hsame d hd hreach

theorem detectCycle_returns (h : s.members.length < limit) :
    ∃ found, detectCycle limit target proposed s.members = some found := by
  refine reachesAny_returns s.ids (fun y hy hmem => ?_) (by simpa [Membership.ids])
  rw [Function.update_of_ne hy]
  exact dependenciesOf_of_not_mem hmem

end Search

theorem insert_error {s : Membership} {m : ProjectMember} {r : Refusal}
    (h : s.insert m = .error r) : r = .unhandled "IntegrityError" := by
  unfold Membership.insert at h
  split at h
  · exact (Except.error.inj h).symm
  · cases h

theorem checkCycle_error {s : Membership} {limit : Nat} {target : Uuid} {proposed : List Uuid}
    {message : String} (h : checkCycle limit target proposed s = .error (.http 400 message)) :
    detectCycle limit target proposed s.members = some true := by
  unfold checkCycle at h
  split at h
  · cases h
  · assumption
  · cases h

section Steps

variable {s s' : Membership} {m : ProjectMember} {id : Uuid} {limit : Nat}

/-- What nothing depends on is reached from itself alone. -/
theorem not_depends_of_fresh {dependsOn : List Uuid}
    (hfresh : id ∉ dependsOn ∧ ∀ n ∈ s.members, id ∉ n.dependsOn) :
    ∀ d ∈ dependsOn, ¬s.Depends d id := by
  intro d hd hreach
  rcases Relation.ReflTransGen.cases_tail hreach with rfl | ⟨x,_,hedge⟩
  · exact hfresh.1 hd
  · obtain ⟨n,hn,_,hmem⟩ := mem_dependenciesOf hedge
    exact hfresh.2 n hn hmem

theorem insert_ranked (h : Ranked (dependenciesOf s.members))
    (hfresh : m.id ∉ m.dependsOn ∧ ∀ n ∈ s.members, m.id ∉ n.dependsOn)
    (hs : s.insert m = .ok s') : Ranked (dependenciesOf s'.members) := by
  rw [insert_dependencies hs]
  exact h.update (not_depends_of_fresh hfresh)

theorem step_ranked {e : MembershipEvent} (h : Ranked (dependenciesOf s.members))
    (hfresh : FreshMemberId s e) (hs : (membershipSystem limit).step s e = some s') :
    Ranked (dependenciesOf s'.members) := by
  have hs : e.apply limit s = .ok s' := Checks.toOption_eq_some.mp hs
  cases e with
  | add placeholder new changeRequestId sequenceOrder dependsOn =>
    obtain ⟨m,rfl,rfl,hinsert⟩ := addProjectMember_ok hs
    exact insert_ranked h hfresh.1 hinsert
  | remove pcrId =>
    obtain rfl := removeProjectMember_ok hs
    exact delete_ranked h
  | update pcrId dependsOn sequenceOrder => exact update_ranked h hs
  | toolAdd new changeRequestId sequenceOrder dependsOn =>
    obtain ⟨m,rfl,rfl,hinsert⟩ := addCrToProject_ok hs
    exact insert_ranked h hfresh hinsert
  | toolRemove changeRequestId =>
    obtain ⟨m,_,_,rfl⟩ := removeCrFromProject_ok hs
    exact delete_ranked h
  | setStatus status =>
    obtain rfl := Except.ok.inj hs
    exact h
  | change changeRequestId status =>
    obtain rfl := Except.ok.inj hs
    exact h

end Steps

theorem ranked_inductive (limit : Nat) : InductiveUnder (membershipSystem limit) FreshMemberId
    fun s => Ranked (dependenciesOf s.members) where
  start := by
    intro s hs
    have hempty : s.members = [] := hs
    refine ⟨fun _ => 0,fun x y hy => ?_⟩
    simp [hempty,dependenciesOf] at hy
  step := fun _ _ _ h hfresh hs => step_ranked h hfresh hs

/-- A refused update would have closed a cycle, and nothing else is refused for one. -/
theorem refused_cycle {s : Membership} {limit : Nat} {e : MembershipEvent}
    (hacyclic : Acyclic (dependenciesOf s.members)) (hfresh : FreshMemberId s e)
    (h : e.apply limit s = .error (.http 400 "Dependency would create a cycle")) :
    ∃ pcrId newDeps sequenceOrder, e = .update pcrId (some newDeps) sequenceOrder ∧
      ¬Acyclic (Function.update (dependenciesOf s.members) pcrId newDeps) := by
  cases e with
  | add placeholder new changeRequestId sequenceOrder dependsOn =>
    exfalso
    simp only [MembershipEvent.apply,addProjectMember] at h
    split at h
    · simp at h
    split at h
    · simp at h
    rcases Checks.bind_eq_error.mp h with hcheck | ⟨_,_,hinsert⟩
    · split at hcheck
      · cases hcheck
      · obtain ⟨d,hd,hreach⟩ := (detectCycle_iff (checkCycle_error hcheck)).mp rfl
        exact not_depends_of_fresh hfresh.2 d hd hreach
    · cases insert_error hinsert
  | remove pcrId =>
    simp only [MembershipEvent.apply,removeProjectMember] at h
    split at h
    · simp at h
    · split at h <;> simp at h
  | update pcrId dependsOn sequenceOrder =>
    simp only [MembershipEvent.apply,updateProjectMember] at h
    split at h
    · simp at h
    split at h
    · simp at h
    rcases Checks.bind_eq_error.mp h with hcheck | ⟨_,_,hpure⟩
    · cases dependsOn with
      | none => cases hcheck
      | some newDeps =>
        refine ⟨pcrId,newDeps,sequenceOrder,rfl,fun hafter => ?_⟩
        obtain ⟨d,hd,hreach⟩ := (detectCycle_iff (checkCycle_error hcheck)).mp rfl
        exact hacyclic.update_iff.mp hafter d hd hreach
    · cases hpure
  | toolAdd new changeRequestId sequenceOrder dependsOn =>
    simp only [MembershipEvent.apply,addCrToProject] at h
    split at h
    · simp at h
    · cases insert_error h
  | toolRemove changeRequestId =>
    simp only [MembershipEvent.apply,removeCrFromProject] at h
    split at h <;> simp at h
  | setStatus status => cases h
  | change changeRequestId status => cases h

/-- Whatever is requested, no member depends on itself in the end; `_detect_cycle` answers whether
a proposal leads back to its member, and it does exactly when accepting it closes a cycle. -/
theorem dependencies_acyclic :
    (∀ (limit : Nat) (tr : List (Transition Membership MembershipEvent)) (s : Membership),
      Run (membershipSystem limit) tr s → (∀ t ∈ tr, FreshMemberId t.pre t.label) →
      Acyclic (dependenciesOf s.members) ∧
      ∀ e, FreshMemberId s e →
        e.apply limit s = .error (.http 400 "Dependency would create a cycle") →
        ∃ pcrId newDeps sequenceOrder, e = .update pcrId (some newDeps) sequenceOrder ∧
          ¬Acyclic (Function.update (dependenciesOf s.members) pcrId newDeps)) ∧
    ∀ (s : Membership) (rows : List StoredMember),
      rows.mapM StoredMember.normalize = .ok s.members →
      ∀ (limit : Nat) (target : Uuid) (proposed : List Uuid),
        (∀ found, detectStoredCycle limit target proposed rows = .ok (some found) →
          (found = true ↔ ∃ d ∈ proposed, s.Depends d target)) ∧
        (s.members.length < limit →
          ∃ found, detectStoredCycle limit target proposed rows = .ok (some found)) ∧
        (Acyclic (dependenciesOf s.members) → ((∃ d ∈ proposed, s.Depends d target) ↔
          ¬Acyclic (Function.update (dependenciesOf s.members) target proposed))) := by
  constructor
  · intro limit tr s h hfresh
    have hacyclic := (h.guarded (ranked_inductive limit) hfresh).acyclic
    exact ⟨hacyclic,fun e he hrefused => refused_cycle hacyclic he hrefused⟩
  · intro s rows hrows limit target proposed
    have hdetect : detectStoredCycle limit target proposed rows =
        .ok (detectCycle limit target proposed s.members) := by
      rw [detectStoredCycle,hrows]
      rfl
    refine ⟨fun found h => ?_,fun hlimit => ?_,fun hacyclic => ?_⟩
    · rw [hdetect] at h
      exact detectCycle_iff (Except.ok.inj h)
    · obtain ⟨found,hfound⟩ := @detectCycle_returns s limit target proposed hlimit
      exact ⟨found,by rw [hdetect,hfound]⟩
    · rw [hacyclic.update_iff]
      simp [Membership.Depends]

def uuidText (digit : String) : String := "00000000-0000-0000-0000-00000000000" ++ digit

def twoMembers : List MembershipEvent :=
  [.add "" (uuidText "1") "cr-1" 0 [],.add "" (uuidText "2") "cr-2" 0 [uuidText "1"]]

/-- The second of two members depends on the first, which then may not depend on the second. -/
theorem second_depends_on_first : ∃ s, Reachable (membershipSystem 10) s ∧
    Acyclic (dependenciesOf s.members) ∧
    detectStoredCycle 10 (uuidText "1") [uuidText "2"]
      [⟨uuidText "1","cr-1",0,[]⟩,⟨uuidText "2","cr-2",1,["urn:uuid:" ++ uuidText "1"]⟩] =
        .ok (some true) ∧
    ¬Acyclic (Function.update (dependenciesOf s.members) (uuidText "1") [uuidText "2"]) := by
  obtain ⟨s,hrun,hmembers⟩ : ∃ s,
      (membershipSystem 10).replay emptyProject twoMembers = some s ∧ s.members =
        [⟨uuidText "1","cr-1",0,[]⟩,⟨uuidText "2","cr-2",1,[uuidText "1"]⟩] := ⟨_,rfl,rfl⟩
  have h := (Run.start rfl).replay hrun
  have hmeets : (membershipSystem 10).Meets FreshMemberId emptyProject twoMembers :=
    ⟨by decide,by decide,trivial⟩
  have hrows : [(⟨uuidText "1","cr-1",0,[]⟩ : StoredMember),
      ⟨uuidText "2","cr-2",1,["urn:uuid:" ++ uuidText "1"]⟩].mapM StoredMember.normalize =
        .ok s.members := hmembers ▸ rfl
  have hacyclic := (dependencies_acyclic.1 10 _ _ h (System.history_meets hmeets (by simp))).1
  obtain ⟨hright,_,hcloses⟩ := dependencies_acyclic.2 _ _ hrows 10 (uuidText "1") [uuidText "2"]
  have hdetect : detectStoredCycle 10 (uuidText "1") [uuidText "2"]
      [⟨uuidText "1","cr-1",0,[]⟩,⟨uuidText "2","cr-2",1,["urn:uuid:" ++ uuidText "1"]⟩] =
        .ok (some true) := rfl
  exact ⟨s,h.reachable,hacyclic,hdetect,(hcloses hacyclic).mp ((hright true hdetect).mp rfl)⟩

end Nexplane
