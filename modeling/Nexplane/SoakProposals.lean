import Mathlib.Data.List.Sort
import Nexplane.Lib.Lists
import Nexplane.SoakSessions

set_option autoImplicit false

/-! How often a soak session proposes a change request, and from what. -/

namespace Nexplane
open PyValue Runs

/-- Some asset has delivered observations. -/
def SoakSession.Observed (session : SoakSession) : Prop :=
  ∃ entry ∈ session.rawObservations, entry.2.truthy = true

/-- What a step keeps: there is one change request at most, a session with one is not synthesized
again, there is one baseline for a project and a policy type, and a request without observations
commits neither. -/
structure SoakStepKept (t : Transition SoakState SoakEvent) : Prop where
  once : t.post.changeRequests.length ≤ 1
  final : t.pre.row.status = .crProposed → t.post.row.status ≠ .synthesized
  baselines : (t.post.baselines.map SecurityPolicyBaseline.key).Nodup
  evidence : ∀ i baselineId r, t.label = .commit i baselineId → t.pre.requests[i]? = some r →
    ¬r.session.Observed →
      t.post.changeRequests = t.pre.changeRequests ∧ t.post.baselines = t.pre.baselines

/-- The database refuses the baseline of the request. -/
def SoakState.Refuses (s : SoakState) (r : SoakRequest) (baselineId : Uuid) : Prop :=
  ∃ profile cr found, r.phase = .store profile cr found ∧
    s.storeBaseline r.session profile cr.id found baselineId = none

/-- A request that commits finds no change request proposed yet, and when it proposes one some
asset has delivered observations. -/
def CommitsInTime (s : SoakState) : SoakEvent → Prop
  | .commit i baselineId =>
    ∀ r, s.requests[i]? = some r → ¬s.Refuses r baselineId →
      s.row.status ≠ .crProposed ∧ (r.phase ≠ .write → r.session.Observed)
  | _ => True

/-- No request loaded the session with a change request, and one that stops it loaded it while it
was running. -/
def SoakRequest.Sound (r : SoakRequest) : Prop :=
  match r.phase with
  | .collecting | .compare _ => r.loaded.status = .running
  | .write => r.loaded.status = .running ∧ r.session.status = .synthesized
  | .propose _ | .lookUp _ _ | .store _ _ _ => r.loaded.status ≠ .crProposed

/-- The change request of a session is proposed with its status. -/
structure SoakInvariant (s : SoakState) : Prop where
  proposed : s.changeRequests.length = if s.row.status = .crProposed then 1 else 0
  baselines : (s.baselines.map SecurityPolicyBaseline.key).Nodup
  requests : ∀ r ∈ s.requests, r.Sound

section Steps

variable {env : SoakEnv} {s s' : SoakState} {e : SoakEvent} {r r' : SoakRequest} {i : Nat}
  {baselineId : Uuid}

theorem SoakInvariant.with_requests (h : SoakInvariant s) {requests : List SoakRequest}
    (hrequests : ∀ r ∈ requests, r.Sound) : SoakInvariant { s with requests := requests } where
  proposed := h.proposed
  baselines := h.baselines
  requests := hrequests

theorem SoakInvariant.drop (h : SoakInvariant s) (i : Nat) : SoakInvariant (s.drop i) :=
  h.with_requests fun r hr => h.requests r (List.mem_of_mem_eraseIdx hr)

theorem SoakInvariant.setRequest (h : SoakInvariant s) (i : Nat) (hr : r.Sound) :
    SoakInvariant (s.setRequest i r) := by
  refine h.with_requests fun r' hr' => ?_
  rcases Lists.mem_set_cases hr' with rfl | hr'
  · exact hr
  · exact h.requests r' hr'

theorem SoakInvariant.add (h : SoakInvariant s) (hr : r.Sound) :
    SoakInvariant { s with requests := s.requests ++ [r] } := by
  refine h.with_requests fun r' hr' => ?_
  rcases List.mem_append.mp hr' with hr' | hr'
  · exact h.requests r' hr'
  · obtain rfl := List.mem_singleton.mp hr'
    exact hr

/-- What a step that commits nothing of the session leaves alone. -/
structure SoakFrame (s s' : SoakState) : Prop where
  row : s'.row = s.row
  changeRequests : s'.changeRequests = s.changeRequests
  invariant : SoakInvariant s'

theorem SoakInvariant.frame_drop (h : SoakInvariant s) (i : Nat) : SoakFrame s (s.drop i) :=
  ⟨rfl,rfl,h.drop i⟩

theorem SoakInvariant.frame_set (h : SoakInvariant s) (i : Nat) (hr : r.Sound) :
    SoakFrame s (s.setRequest i r) := ⟨rfl,rfl,h.setRequest i hr⟩

theorem observe_frame {outcome : Uuid → Option (List Json)} (h : SoakInvariant s) (hr : r.Sound)
    (hs : s.observe env i outcome r = some s') : SoakFrame s s' := by
  unfold SoakState.observe at hs
  split at hs
  · next hphase =>
    rw [SoakRequest.Sound,hphase] at hr
    dsimp only at hs
    split at hs
    · obtain rfl := Option.some.inj hs
      exact h.frame_drop i
    · obtain rfl := Option.some.inj hs
      exact h.frame_set i hr
  · cases hs

theorem compare_frame (h : SoakInvariant s) (hr : r.Sound) (hs : s.compare env i r = some s') :
    SoakFrame s s' := by
  unfold SoakState.compare at hs
  split at hs
  · next hphase =>
    rw [SoakRequest.Sound,hphase] at hr
    split at hs
    · obtain rfl := Option.some.inj hs
      refine h.frame_set i ?_
      change r.loaded.status ≠ _
      rw [hr]
      decide
    · dsimp only at hs
      split at hs
      · obtain rfl := Option.some.inj hs
        exact h.frame_drop i
      · obtain rfl := Option.some.inj hs
        exact h.frame_set i ⟨hr,rfl⟩
  · cases hs

theorem propose_frame {crId : Uuid} (h : SoakInvariant s) (hr : r.Sound)
    (hs : s.propose env i crId r = some s') : SoakFrame s s' := by
  unfold SoakState.propose at hs
  split at hs
  · next hphase =>
    rw [SoakRequest.Sound,hphase] at hr
    split at hs
    · obtain rfl := Option.some.inj hs
      exact h.frame_drop i
    · obtain ⟨-,hs⟩ := Option.ite_none_left_eq_some.mp hs
      obtain rfl := Option.some.inj hs
      exact h.frame_set i hr
  · cases hs

theorem lookUp_frame (h : SoakInvariant s) (hr : r.Sound) (hs : s.lookUp i r = some s') :
    SoakFrame s s' := by
  unfold SoakState.lookUp at hs
  split at hs
  · next hphase =>
    rw [SoakRequest.Sound,hphase] at hr
    obtain rfl := Option.some.inj hs
    exact h.frame_set i hr
  · cases hs

theorem stop_frame {serviceName : String} {userId : Uuid} (h : SoakInvariant s)
    (hs : s.stop serviceName userId = some s') : SoakFrame s s' := by
  obtain ⟨hrunning,hs⟩ := Option.ite_none_right_eq_some.mp hs
  obtain rfl := Option.some.inj hs
  exact ⟨rfl,rfl,h.add hrunning⟩

theorem acceptable_status {session : SoakSession} {profile : Dict}
    (h : acceptable session = .ok profile) : session.status = .synthesized := by
  unfold acceptable at h
  split at h
  · cases h
  · next hstatus => exact not_not.mp hstatus

theorem accept_frame {serviceName : String} {userId : Uuid} (h : SoakInvariant s)
    (hs : s.accept serviceName userId = some s') : SoakFrame s s' := by
  unfold SoakState.accept at hs
  split at hs
  · next hok =>
    obtain rfl := Option.some.inj hs
    refine ⟨rfl,rfl,h.add ?_⟩
    change s.row.status ≠ _
    rw [acceptable_status hok]
    decide
  · cases hs

theorem SoakInvariant.with_baselines (h : SoakInvariant s) {baselines : List SecurityPolicyBaseline}
    (hkeys : (baselines.map SecurityPolicyBaseline.key).Nodup) :
    SoakFrame s { s with baselines := baselines } :=
  ⟨rfl,rfl,h.proposed,hkeys,h.requests⟩

theorem otherBaseline_frame (h : SoakInvariant s) (b : SecurityPolicyBaseline) :
    SoakFrame s (s.otherBaseline b) := by
  unfold SoakState.otherBaseline
  split
  · refine h.with_baselines (Orm.nodup_of_update h.baselines fun b' => ?_)
    split <;> rfl
  · next hnew => exact h.with_baselines (Orm.nodup_of_insert h.baselines hnew)

theorem storeBaseline_keys {session : SoakSession} {profile : Dict} {crId : Uuid}
    {found : Option Uuid} {bs : List SecurityPolicyBaseline} (h : SoakInvariant s)
    (hs : s.storeBaseline session profile crId found baselineId = some bs) :
    (bs.map SecurityPolicyBaseline.key).Nodup := by
  unfold SoakState.storeBaseline at hs
  split at hs
  · obtain ⟨hnew,hs⟩ := Option.ite_none_left_eq_some.mp hs
    obtain rfl := Option.some.inj hs
    exact Orm.nodup_of_insert h.baselines hnew
  · obtain ⟨-,hs⟩ := Option.ite_none_right_eq_some.mp hs
    obtain rfl := Option.some.inj hs
    refine Orm.nodup_of_update h.baselines fun b => ?_
    split <;> rfl

/-- Every step but a commit leaves the session and its change requests alone. -/
theorem step_frame (h : SoakInvariant s) (hs : (soakSystem env).step s e = some s')
    (he : ∀ i baselineId, e ≠ .commit i baselineId) : SoakFrame s s' := by
  have hmem : ∀ i (r : SoakRequest), s.requests[i]? = some r → r.Sound := fun i r hr =>
    h.requests r (List.mem_of_getElem? hr)
  cases e with
  | stop serviceName userId => exact stop_frame h hs
  | accept serviceName userId => exact accept_frame h hs
  | observe i outcome =>
    obtain ⟨r,hr,hs⟩ := Option.bind_eq_some_iff.mp hs
    exact observe_frame h (hmem i r hr) hs
  | compare i =>
    obtain ⟨r,hr,hs⟩ := Option.bind_eq_some_iff.mp hs
    exact compare_frame h (hmem i r hr) hs
  | propose i crId =>
    obtain ⟨r,hr,hs⟩ := Option.bind_eq_some_iff.mp hs
    exact propose_frame h (hmem i r hr) hs
  | lookUp i =>
    obtain ⟨r,hr,hs⟩ := Option.bind_eq_some_iff.mp hs
    exact lookUp_frame h (hmem i r hr) hs
  | commit i baselineId => exact absurd rfl (he i baselineId)
  | fail i =>
    obtain ⟨r,-,rfl⟩ := Option.map_eq_some_iff.mp hs
    exact h.frame_drop i
  | otherBaseline baseline =>
    obtain rfl := Option.some.inj hs
    exact otherBaseline_frame h baseline
  | deleteBaseline organizationId projectId policyType =>
    obtain rfl := Option.some.inj hs
    exact h.with_baselines (h.baselines.sublist (List.filter_sublist.map _))

/-- A commit writes the session only, or is refused, or proposes a change request. -/
theorem commit_cases (hs : s.commit i baselineId r = some s') :
    (r.phase = .write ∧ s' = { s.drop i with row := s.row.flush r.loaded r.session }) ∨
    (s.Refuses r baselineId ∧ s' = s.drop i) ∨
    ∃ profile cr found baselines, r.phase = .store profile cr found ∧
      s.storeBaseline r.session profile cr.id found baselineId = some baselines ∧
      s' = { s.drop i with
        row := s.row.flush r.loaded
          { r.session with crId := some cr.id, status := .crProposed }
        baselines := baselines
        changeRequests := s.changeRequests ++ [cr] } := by
  unfold SoakState.commit at hs
  obtain ⟨-,hs⟩ := Option.ite_none_left_eq_some.mp hs
  split at hs
  · next hphase => exact Or.inl ⟨hphase,(Option.some.inj hs).symm⟩
  · next profile cr found hphase =>
    refine Or.inr ?_
    split at hs
    · next hstore => exact Or.inl ⟨⟨profile,cr,found,hphase,hstore⟩,(Option.some.inj hs).symm⟩
    · next baselines hstore =>
      exact Or.inr ⟨profile,cr,found,baselines,hphase,hstore,(Option.some.inj hs).symm⟩
  · cases hs

theorem flush_status {row loaded assigned : SoakSession} (h : assigned.status ≠ loaded.status) :
    (row.flush loaded assigned).status = assigned.status := if_neg h

/-- A step that commits nothing of the session keeps everything. -/
theorem SoakFrame.kept (h : SoakInvariant s) (hframe : SoakFrame s s')
    (hsame : ∀ i baselineId, e = .commit i baselineId → s'.baselines = s.baselines) :
    SoakStepKept ⟨s,e,s'⟩ where
  once := by
    rw [hframe.changeRequests,h.proposed]
    split <;> decide
  final := by
    intro hproposed
    rw [hframe.row,hproposed]
    decide
  baselines := hframe.invariant.baselines
  evidence := by
    intro i baselineId r hlabel _ _
    exact ⟨hframe.changeRequests,hsame i baselineId hlabel⟩

theorem written_status (hr : r.Sound) (hphase : r.phase = .write) (row : SoakSession) :
    (row.flush r.loaded r.session).status = .synthesized := by
  rw [SoakRequest.Sound,hphase] at hr
  have hne : r.session.status ≠ r.loaded.status := by
    rw [hr.1,hr.2]
    decide
  rw [flush_status hne,hr.2]

theorem proposed_status {profile : Dict} {cr : ChangeRequest} {found : Option Uuid} (hr : r.Sound)
    (hphase : r.phase = .store profile cr found) (row : SoakSession) (crId : Uuid) :
    (row.flush r.loaded { r.session with crId := some crId, status := .crProposed }).status =
      .crProposed := by
  rw [SoakRequest.Sound,hphase] at hr
  exact flush_status hr.symm

theorem write_iff (h : SoakInvariant s) (hr : s.requests[i]? = some r) (hphase : r.phase = .write) :
    SoakStepKept ⟨s,.commit i baselineId,
      { s.drop i with row := s.row.flush r.loaded r.session }⟩ ↔ s.row.status ≠ .crProposed := by
  have hstatus := written_status (h.requests r (List.mem_of_getElem? hr)) hphase s.row
  constructor
  · intro hkept hproposed
    exact hkept.final hproposed hstatus
  · intro hopen
    refine ⟨?_,fun hproposed => absurd hproposed hopen,h.baselines,fun _ _ _ _ _ _ => ⟨rfl,rfl⟩⟩
    have hlen := h.proposed
    rw [if_neg hopen] at hlen
    simp [SoakState.drop,hlen]

theorem store_iff (h : SoakInvariant s) (hr : s.requests[i]? = some r) {profile : Dict}
    {cr : ChangeRequest} {found : Option Uuid} {baselines : List SecurityPolicyBaseline}
    (hstore : s.storeBaseline r.session profile cr.id found baselineId = some baselines) :
    SoakStepKept ⟨s,.commit i baselineId,{ s.drop i with
      row := s.row.flush r.loaded { r.session with crId := some cr.id, status := .crProposed }
      baselines := baselines
      changeRequests := s.changeRequests ++ [cr] }⟩ ↔
    s.row.status ≠ .crProposed ∧ r.session.Observed := by
  have hlen := h.proposed
  constructor
  · intro hkept
    refine ⟨fun hproposed => ?_,?_⟩
    · have honce := hkept.once
      rw [if_pos hproposed] at hlen
      simp [hlen] at honce
    · by_contra hnone
      obtain ⟨hsame,-⟩ := hkept.evidence i baselineId r rfl hr hnone
      simp at hsame
  · rintro ⟨hopen,hobserved⟩
    rw [if_neg hopen] at hlen
    refine ⟨?_,fun hproposed => absurd hproposed hopen,storeBaseline_keys h hstore,?_⟩
    · simp [hlen]
    · intro j baselineId' r' hlabel hr' hnone
      cases hlabel
      obtain rfl := Option.some.inj (hr.symm.trans hr')
      exact absurd hobserved hnone

theorem refused_iff (h : SoakInvariant s) :
    SoakStepKept ⟨s,.commit i baselineId,s.drop i⟩ :=
  (h.frame_drop i).kept h fun _ _ _ => rfl

theorem commit_iff (h : SoakInvariant s) (hr : s.requests[i]? = some r)
    (hs : s.commit i baselineId r = some s') :
    SoakStepKept ⟨s,.commit i baselineId,s'⟩ ↔ CommitsInTime s (.commit i baselineId) := by
  have hguard : CommitsInTime s (.commit i baselineId) ↔ (¬s.Refuses r baselineId →
      s.row.status ≠ .crProposed ∧ (r.phase ≠ .write → r.session.Observed)) := by
    simp only [CommitsInTime,hr,Option.some.injEq,forall_eq']
  rw [hguard]
  rcases commit_cases hs with ⟨hphase,rfl⟩ | ⟨hrefused,rfl⟩ |
    ⟨profile,cr,found,baselines,hphase,hstore,rfl⟩
  · have haccepted : ¬s.Refuses r baselineId := by
      rintro ⟨_,_,_,hstore,-⟩
      rw [hphase] at hstore
      cases hstore
    rw [write_iff h hr hphase]
    simp [haccepted,hphase]
  · simp [refused_iff h,hrefused]
  · have haccepted : ¬s.Refuses r baselineId := by
      rintro ⟨_,_,_,hphase',hnone⟩
      rw [hphase] at hphase'
      cases hphase'
      rw [hstore] at hnone
      cases hnone
    rw [store_iff h hr hstore]
    simp [haccepted,hphase]

theorem commit_invariant (h : SoakInvariant s) (hr : s.requests[i]? = some r)
    (hG : CommitsInTime s (.commit i baselineId)) (hs : s.commit i baselineId r = some s') :
    SoakInvariant s' := by
  have hkept := (commit_iff h hr hs).mpr hG
  have hsound := h.requests r (List.mem_of_getElem? hr)
  have hrest := (h.drop i).requests
  have hlen := h.proposed
  rcases commit_cases hs with ⟨hphase,rfl⟩ | ⟨-,rfl⟩ |
    ⟨profile,cr,found,baselines,hphase,hstore,rfl⟩
  · have hopen := (write_iff h hr hphase).mp hkept
    refine ⟨?_,h.baselines,hrest⟩
    rw [if_neg hopen] at hlen
    simp [written_status hsound hphase,SoakState.drop,hlen]
  · exact h.drop i
  · obtain ⟨hopen,-⟩ := (store_iff h hr hstore).mp hkept
    refine ⟨?_,storeBaseline_keys h hstore,hrest⟩
    rw [if_neg hopen] at hlen
    simp [proposed_status hsound hphase,hlen]

end Steps

section Runs

variable {env : SoakEnv}

theorem soak_step_iff {s s' : SoakState} {e : SoakEvent} (h : SoakInvariant s)
    (hs : (soakSystem env).step s e = some s') :
    SoakStepKept ⟨s,e,s'⟩ ↔ CommitsInTime s e := by
  cases e with
  | commit i baselineId =>
    obtain ⟨r,hr,hs⟩ := Option.bind_eq_some_iff.mp hs
    exact commit_iff h hr hs
  | _ => exact iff_of_true ((step_frame h hs nofun).kept h nofun) trivial

variable (env) in
theorem soak_invariant : InductiveUnder (soakSystem env) CommitsInTime SoakInvariant where
  start := by
    rintro s ⟨hrunning,hnone,hidle,hbaselines⟩
    refine ⟨?_,hbaselines,?_⟩
    · simp [hrunning,hnone]
    · simp [hidle]
  step := by
    intro s e s' h hG hs
    cases e with
    | commit i baselineId =>
      obtain ⟨r,hr,hs⟩ := Option.bind_eq_some_iff.mp hs
      exact commit_invariant h hr hG hs
    | _ => exact (step_frame h hs nofun).invariant

theorem soak_kept_iff {tr : List (Transition SoakState SoakEvent)} {s : SoakState}
    (h : Run (soakSystem env) tr s) :
    (∀ t ∈ tr, SoakStepKept t) ↔ ∀ t ∈ tr, CommitsInTime t.pre t.label :=
  h.all_iff_under (soak_invariant env) fun _ _ _ hi hs => soak_step_iff hi hs

end Runs

/-- The names of the system calls that an asset reports. -/
def syscallNames : List Json → Except Exc (List String)
  | [] => .ok []
  | .str name :: rest => do
    let names ← syscallNames rest
    return name :: names
  | _ :: _ => .error .typeError

def seccompSynthesize (observations : Dict) : Except Exc Dict := do
  let names ← syscallNames (observations.flatMap fun entry =>
    match entry.2 with
    | .arr items => items
    | _ => [])
  let names := names.eraseDups.insertionSort (· ≤ ·)
  return [("defaultAction",.str "SCMP_ACT_ERRNO"),
    ("architectures",.arr [.str "SCMP_ARCH_X86_64",.str "SCMP_ARCH_X86",.str "SCMP_ARCH_X32"]),
    ("syscalls",.arr [.obj [("names",.arr (names.map .str)),
      ("action",.str "SCMP_ACT_ALLOW")]])]

def seccompRules (profile : Dict) : Except Exc (List Json) := do
  match profile.getD "syscalls" (.arr []) with
  | .arr (first :: _) => do
    let names ← first.get "names" (.arr [])
    names.iter
  | _ => .ok []

def seccompPlugin : PolicyPlugin where
  synthesize := seccompSynthesize
  deltaExtract := seccompRules
  computeDelta prior current := do
    let before ← syscallNames (← seccompRules prior)
    let after ← syscallNames (← seccompRules current)
    let sorted := fun (names : List String) =>
      Json.arr ((names.eraseDups.insertionSort (· ≤ ·)).map .str)
    return [("added",sorted (after.filter (· ∉ before))),
      ("removed",sorted (before.filter (· ∉ after)))]
  crChangeType := .generic "configure_seccomp"

/-- The text of the profile with one system call. -/
def readProfileText : String :=
  "\x7b\"defaultAction\": \"SCMP_ACT_ERRNO\", \"architectures\": [\"SCMP_ARCH_X86_64\", " ++
    "\"SCMP_ARCH_X86\", \"SCMP_ARCH_X32\"], \"syscalls\": [\x7b\"names\": [\"read\"], " ++
    "\"action\": \"SCMP_ACT_ALLOW\"\x7d]\x7d"

def seccompEnv : SoakEnv where
  getPlugin policyType :=
    if policyType = "seccomp" then .ok seccompPlugin
    else .error (.valueError ("Unsupported policy_type: '" ++ policyType ++
      "'. Known: ['apparmor', 'ebpf_lsm', 'ebpf_network', 'seccomp', 'selinux']"))
  dumps _ := readProfileText

def runningSession : SoakState where
  row := {
    id := "s1"
    organizationId := "o1"
    projectId := "p1"
    policyType := "seccomp"
    windowSeconds := 600
    assetIds := ["a1"] }
  baselines := []
  changeRequests := []
  requests := []

theorem run_runningSession : Run (soakSystem seccompEnv) [] runningSession :=
  .start ⟨rfl,rfl,rfl,List.nodup_nil⟩

def readSeen (_ : Uuid) : Option (List Json) := some [.str "read"]

theorem lone_stop_kept : ∃ tr s, Run (soakSystem seccompEnv) tr s ∧
    s.row.status = .crProposed ∧ ∀ t ∈ tr, SoakStepKept t := by
  have hrun : (soakSystem seccompEnv).replay runningSession
      [.stop "web" "u1",.observe 0 readSeen,.compare 0,.propose 0 "cr1",.lookUp 0,
        .commit 0 "b1"] = some _ := rfl
  refine ⟨_,_,run_runningSession.replay hrun,rfl,?_⟩
  refine (soak_kept_iff (run_runningSession.replay hrun)).mpr (System.history_meets ?_ (by simp))
  refine ⟨trivial,trivial,trivial,trivial,trivial,?_,trivial⟩
  intro r hr _
  obtain rfl := Option.some.inj hr
  exact ⟨by decide,fun _ => ⟨("a1",.arr [.str "read"]),List.mem_cons_self,rfl⟩⟩

/-- The second request commits after the first has proposed. -/
theorem overlapping_stops_propose_twice : ∃ tr s, Run (soakSystem seccompEnv) tr s ∧
    s.changeRequests.length = 2 ∧ ¬∀ t ∈ tr, SoakStepKept t := by
  have hrun : (soakSystem seccompEnv).replay runningSession
      [.stop "web" "u1",.stop "web" "u1",.observe 0 readSeen,.observe 1 readSeen,.compare 0,
        .propose 0 "cr1",.lookUp 0,.commit 0 "b1",.compare 0,.commit 0 "b2",.accept "web" "u1",
        .propose 0 "cr2",.lookUp 0,.commit 0 "b3"] = some _ := rfl
  refine ⟨_,_,run_runningSession.replay hrun,rfl,fun h => ?_⟩
  exact absurd (h _ List.mem_cons_self).once (by decide)

end Nexplane
