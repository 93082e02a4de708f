import Nexplane.ChangeIp
import Nexplane.Lib.Runs

set_option autoImplicit false

/-! The dead-man switch of a `commit_timer` execution, interleaved with the change it guards. -/

namespace Nexplane
open Runs PyValue

/-- Where the goroutine of `startDeadManSwitch` stands: inside a probe, in its `select`, past a
probe that answered 200, past its expiry, past its callback, or returned. -/
inductive SwitchPhase where
  | probing
  | waiting
  | confirmed
  | expired
  | restored
  | stopped
  deriving DecidableEq, Repr

inductive SwitchEvent where
  | reply (ok : Bool)
  | ticker
  | expiry
  | callback
  | remove
  deriving DecidableEq, Repr

/-- `due` says that the expiry timer has fired. -/
def SwitchPhase.next (due : Bool) : SwitchPhase → SwitchEvent → Option SwitchPhase
  | .probing, .reply ok => some (if ok then .confirmed else .waiting)
  | .waiting, .ticker => some .probing
  | .waiting, .expiry => if due then some .expired else none
  | .expired, .callback => some .restored
  | .confirmed, .remove => some .stopped
  | .restored, .remove => some .stopped
  | _, _ => none

/-- Where `executeOS` stands after it has started the switch. -/
inductive ApplyPhase where
  | pending
  | failed
  | applied
  | returned
  deriving DecidableEq, Repr

/-- `applyIPChange` has returned without an error. -/
def ApplyPhase.isApplied : ApplyPhase → Bool
  | .applied => true
  | .returned => true
  | _ => false

structure CommitState where
  now : Nat
  /-- The control plane answers a probe. -/
  reachable : Bool
  apply : ApplyPhase
  switch : SwitchPhase
  file : Bool
  /-- The parameters `rollbackOS` was called with. -/
  rollbacks : List Dict

inductive CommitEvent where
  | clock
  | network (up : Bool)
  | applyReturns (ok : Bool)
  | dnsReturns
  | switch (e : SwitchEvent)
  deriving DecidableEq, Repr

def CommitState.afterSwitch (s : CommitState) (snap : Snapshot) (e : SwitchEvent)
    (p : SwitchPhase) : CommitState :=
  { s with
    switch := p
    file := if e = .remove then false else s.file
    rollbacks := if e = .callback then s.rollbacks ++ [commitParams snap] else s.rollbacks }

def commitStep (snap : Snapshot) (expiresAt : Nat) (s : CommitState) :
    CommitEvent → Option CommitState
  | .clock => some { s with now := s.now + 1 }
  | .network up => some { s with reachable := up }
  | .applyReturns ok =>
    if s.apply = .pending then some { s with apply := if ok then .applied else .failed } else none
  | .dnsReturns => if s.apply = .applied then some { s with apply := .returned } else none
  | .switch e =>
    if e = .reply true ∧ s.reachable = false then none
    else (s.switch.next (expiresAt ≤ s.now) e).map (s.afterSwitch snap e)

def commitSystem (snap : Snapshot) (expiresAt : Nat) : System CommitState CommitEvent where
  start s := s.apply = .pending ∧ s.switch = .probing ∧ s.file = true ∧ s.rollbacks = []
  step := commitStep snap expiresAt

def IsSuccess (t : Transition CommitState CommitEvent) : Prop :=
  t.label = .switch (.reply true)

/-- The switch has ended, or is about to, without a rollback. -/
structure CommitState.Disarmed (s : CommitState) : Prop where
  switch : s.switch = .confirmed ∨ s.switch = .stopped
  rollbacks : s.rollbacks = []

/-- Steps of the switch itself, none of them a successful probe. -/
def Unanswered (es : List CommitEvent) : Prop :=
  ∀ e ∈ es, ∃ e', e = .switch e' ∧ e' ≠ .reply true

/-- Own steps of the switch lead to the rollback. -/
def LeadsToRollback (snap : Snapshot) (expiresAt : Nat) (s : CommitState) : Prop :=
  ∃ es s', Unanswered es ∧ (commitSystem snap expiresAt).replay s es = some s' ∧
    s'.rollbacks = [commitParams snap]

/-- The switch is on its way to the expiry, and from there to the rollback. -/
structure Armed (snap : Snapshot) (expiresAt : Nat) (s : CommitState) : Prop where
  switch : s.switch = .probing ∨ s.switch = .waiting ∨ s.switch = .expired
  expires : expiresAt ≤ s.now → LeadsToRollback snap expiresAt s

/-- A probe that succeeds between the apply and the expiry. -/
def SoundProbe (expiresAt : Nat) (s : CommitState) : Prop :=
  s.apply.isApplied = true ∧ s.now ≤ expiresAt

/-- The switch is disarmed only by a probe that succeeded after the change was applied, and
without one in time `rollbackOS` runs with the captured snapshot. -/
structure Protects (snap : Snapshot) (expiresAt : Nat)
    (tr : List (Transition CommitState CommitEvent)) (s : CommitState) : Prop where
  disarmed : s.Disarmed → ∃ t ∈ tr, IsSuccess t ∧ t.pre.apply.isApplied = true
  restores : (∀ t ∈ tr, IsSuccess t → ¬SoundProbe expiresAt t.pre) →
    s.rollbacks = [commitParams snap] ∨ Armed snap expiresAt s

/-- What the goroutine has called so far. -/
def SwitchPhase.Calls (snap : Snapshot) : SwitchPhase → List Dict → Prop
  | .restored, calls => calls = [commitParams snap]
  | .stopped, calls => calls = [] ∨ calls = [commitParams snap]
  | _, calls => calls = []

def CommitInv (snap : Snapshot) (s : CommitState) : Prop := s.switch.Calls snap s.rollbacks

section
variable {snap : Snapshot} {expiresAt : Nat} {s s' : CommitState}
  {tr : List (Transition CommitState CommitEvent)}

/-- Every step of the system but the switch's own leaves the switch alone. -/
theorem commitStep_cases {e : CommitEvent} (h : commitStep snap expiresAt s e = some s') :
    (s'.switch = s.switch ∧ s'.rollbacks = s.rollbacks ∧ ∀ e', e ≠ .switch e') ∨
      ∃ e' p, e = .switch e' ∧ s.switch.next (expiresAt ≤ s.now) e' = some p ∧
        s' = s.afterSwitch snap e' p := by
  cases e with
  | clock =>
    obtain rfl := Option.some.inj h
    exact Or.inl ⟨rfl,rfl,by simp⟩
  | network up =>
    obtain rfl := Option.some.inj h
    exact Or.inl ⟨rfl,rfl,by simp⟩
  | applyReturns ok =>
    simp only [commitStep,Option.ite_none_right_eq_some,Option.some.injEq] at h
    obtain ⟨_,rfl⟩ := h
    exact Or.inl ⟨rfl,rfl,by simp⟩
  | dnsReturns =>
    simp only [commitStep,Option.ite_none_right_eq_some,Option.some.injEq] at h
    obtain ⟨_,rfl⟩ := h
    exact Or.inl ⟨rfl,rfl,by simp⟩
  | switch e =>
    simp only [commitStep,Option.ite_none_left_eq_some,Option.map_eq_some_iff] at h
    obtain ⟨_,p,hp,rfl⟩ := h
    exact Or.inr ⟨e,p,rfl,hp,rfl⟩

/-- One line of `SwitchPhase.next` for each step of the goroutine. -/
theorem SwitchPhase.next_cases {due : Bool} {p p' : SwitchPhase} {e : SwitchEvent}
    (h : p.next due e = some p') :
    (p = .probing ∧ ∃ ok, e = .reply ok ∧ p' = if ok then .confirmed else .waiting) ∨
      (p = .waiting ∧ e = .ticker ∧ p' = .probing) ∨
      (p = .waiting ∧ e = .expiry ∧ due = true ∧ p' = .expired) ∨
      (p = .expired ∧ e = .callback ∧ p' = .restored) ∨
      ((p = .confirmed ∨ p = .restored) ∧ e = .remove ∧ p' = .stopped) := by
  cases p <;> cases e <;> simp_all [next]

theorem commitInv_inductive : Inductive (commitSystem snap expiresAt) (CommitInv snap) := by
  refine ⟨?_,?_⟩
  · rintro s ⟨_,hs,_,hr⟩
    simp [CommitInv,SwitchPhase.Calls,hs,hr]
  · intro s e s' hi h
    obtain ⟨hs,hr,_⟩ | ⟨e',p,rfl,hnext,rfl⟩ := commitStep_cases h
    · simpa [CommitInv,hs,hr] using hi
    · have hi : s.switch.Calls snap s.rollbacks := hi
      obtain ⟨hq,ok,rfl,rfl⟩ | ⟨hq,rfl,rfl⟩ | ⟨hq,rfl,_,rfl⟩ | ⟨hq,rfl,rfl⟩ | ⟨hq,rfl,rfl⟩ :=
        SwitchPhase.next_cases hnext
      · rw [hq] at hi
        cases ok <;> exact hi
      · rw [hq] at hi
        exact hi
      · rw [hq] at hi
        exact hi
      · rw [hq] at hi
        exact congrArg (· ++ [commitParams snap]) hi
      · rcases hq with hq | hq <;> rw [hq] at hi
        · exact Or.inl hi
        · exact Or.inr hi

theorem success_disarms (hi : CommitInv snap s)
    (h : commitStep snap expiresAt s (.switch (.reply true)) = some s') : s'.Disarmed := by
  obtain ⟨_,_,hne⟩ | ⟨e',p,he,hnext,rfl⟩ := commitStep_cases h
  · exact absurd rfl (hne _)
  · obtain rfl : SwitchEvent.reply true = e' := by simpa using he
    obtain ⟨hq,ok,hok,rfl⟩ | ⟨_,h,_⟩ | ⟨_,h,_⟩ | ⟨_,h,_⟩ | ⟨_,h,_⟩ :=
      SwitchPhase.next_cases hnext
    · have hi : s.switch.Calls snap s.rollbacks := hi
      rw [hq] at hi
      cases hok
      exact ⟨Or.inl rfl,hi⟩
    all_goals cases h

/-- Nothing arms it again, and no probe comes after. -/
theorem CommitState.Disarmed.step {e : CommitEvent} (hd : s.Disarmed)
    (h : commitStep snap expiresAt s e = some s') :
    s'.Disarmed ∧ e ≠ .switch (.reply true) := by
  obtain ⟨hs,hr,hne⟩ | ⟨e',p,rfl,hnext,rfl⟩ := commitStep_cases h
  · exact ⟨⟨hs ▸ hd.switch,hr ▸ hd.rollbacks⟩,hne _⟩
  · obtain ⟨hq,_⟩ | ⟨hq,_⟩ | ⟨hq,_⟩ | ⟨hq,_⟩ | ⟨_,rfl,rfl⟩ := SwitchPhase.next_cases hnext
    case inr.inr.inr.inr => exact ⟨⟨Or.inr rfl,hd.rollbacks⟩,by simp⟩
    all_goals
      have hs := hd.switch
      simp [hq] at hs

theorem Run.success_disarmed (h : Run (commitSystem snap expiresAt) tr s) :
    (∃ t ∈ tr, IsSuccess t) → s.Disarmed := by
  induction h with
  | start _ => simp
  | @step tr s s' a hr hs ih =>
    rintro ⟨t,ht,he⟩
    rcases List.mem_cons.mp ht with rfl | ht
    · obtain rfl : a = .switch (.reply true) := he
      exact success_disarms (hr.invariant commitInv_inductive) hs
    · exact ((ih ⟨t,ht,he⟩).step hs).1

theorem Run.success_unique (h : Run (commitSystem snap expiresAt) tr s) :
    ∀ t ∈ tr, ∀ u ∈ tr, IsSuccess t → IsSuccess u → t = u := by
  induction h with
  | start _ => simp
  | @step tr s s' a hr hs ih =>
    have hnew : ∀ t ∈ tr, IsSuccess t → a ≠ .switch (.reply true) := by
      intro t ht he
      exact ((Run.success_disarmed hr ⟨t,ht,he⟩).step hs).2
    intro t ht u hu htS huS
    rcases List.mem_cons.mp ht with rfl | ht <;> rcases List.mem_cons.mp hu with rfl | hu
    · rfl
    · exact absurd htS (hnew u hu huS)
    · exact absurd huS (hnew t ht htS)
    · exact ih t ht u hu htS huS

theorem Run.disarmed_success (h : Run (commitSystem snap expiresAt) tr s) :
    s.Disarmed → ∃ t ∈ tr, IsSuccess t := by
  induction h with
  | start h0 =>
    intro hd
    have hs := hd.switch
    simp [h0.2.1] at hs
  | @step tr s s' a hr hs ih =>
    intro hd
    have hi : CommitInv snap s := hr.invariant commitInv_inductive
    unfold CommitInv at hi
    obtain ⟨hsw,hrb,_⟩ | ⟨e',p,rfl,hnext,rfl⟩ := commitStep_cases hs
    · obtain ⟨t,ht,he⟩ := ih ⟨hsw ▸ hd.switch,hrb ▸ hd.rollbacks⟩
      exact ⟨t,List.mem_cons_of_mem _ ht,he⟩
    · have hsw := hd.switch
      obtain ⟨_,ok,rfl,rfl⟩ | ⟨_,_,rfl⟩ | ⟨_,_,_,rfl⟩ | ⟨_,_,rfl⟩ | ⟨hq,rfl,rfl⟩ :=
        SwitchPhase.next_cases hnext
      · cases ok with
        | false => simp [CommitState.afterSwitch] at hsw
        | true => exact ⟨_,List.mem_cons_self,rfl⟩
      · simp [CommitState.afterSwitch] at hsw
      · simp [CommitState.afterSwitch] at hsw
      · simp [CommitState.afterSwitch] at hsw
      · have hrb : s.rollbacks = [] := hd.rollbacks
        rcases hq with hq | hq
        · obtain ⟨t,ht,he⟩ := ih ⟨Or.inl hq,hrb⟩
          exact ⟨t,List.mem_cons_of_mem _ ht,he⟩
        · rw [hq,hrb] at hi
          cases hi

theorem LeadsToRollback.cons {e : SwitchEvent} {p : SwitchPhase} (he : e ≠ .reply true)
    (hnext : s.switch.next (expiresAt ≤ s.now) e = some p)
    (h : LeadsToRollback snap expiresAt (s.afterSwitch snap e p)) :
    LeadsToRollback snap expiresAt s := by
  obtain ⟨es,s',hes,hr,hs⟩ := h
  refine ⟨.switch e :: es,s',?_,?_,hs⟩
  · intro e' he'
    rcases List.mem_cons.mp he' with rfl | he'
    · exact ⟨e,rfl,he⟩
    · exact hes e' he'
  · have hstep : commitStep snap expiresAt s (.switch e) = some (s.afterSwitch snap e p) := by
      simp [commitStep,he,hnext]
    simpa [System.replay,commitSystem,hstep] using hr

/-- A probe that fails, the expiry and the callback. -/
theorem armed_of_phase (hi : CommitInv snap s)
    (hs : s.switch = .probing ∨ s.switch = .waiting ∨ s.switch = .expired) :
    Armed snap expiresAt s := by
  have hexpired : ∀ r : CommitState, r.switch = .expired → r.rollbacks = [] →
      LeadsToRollback snap expiresAt r := by
    intro r hr hc
    have hnext : r.switch.next (expiresAt ≤ r.now) .callback = some .restored := by
      rw [hr]
      rfl
    refine LeadsToRollback.cons (by simp) hnext ⟨[],_,by simp [Unanswered],rfl,?_⟩
    simp [CommitState.afterSwitch,hc]
  have hwaiting : ∀ r : CommitState, r.switch = .waiting → r.rollbacks = [] →
      expiresAt ≤ r.now → LeadsToRollback snap expiresAt r := by
    intro r hr hc hdue
    have hnext : r.switch.next (expiresAt ≤ r.now) .expiry = some .expired := by
      simp [SwitchPhase.next,hr,hdue]
    exact LeadsToRollback.cons (by simp) hnext (hexpired _ rfl hc)
  unfold CommitInv at hi
  refine ⟨hs,fun hdue => ?_⟩
  rcases hs with hs | hs | hs <;> rw [hs] at hi
  · have hnext : s.switch.next (expiresAt ≤ s.now) (.reply false) = some .waiting := by
      rw [hs]
      rfl
    exact LeadsToRollback.cons (by simp) hnext (hwaiting _ rfl hi hdue)
  · exact hwaiting s hs hi hdue
  · exact hexpired s hs hi

end

/-- The switch protects the change in exactly the runs whose successful probe comes after the
apply and before the expiry. -/
theorem switch_protects_iff {snap : Snapshot} {expiresAt : Nat}
    {tr : List (Transition CommitState CommitEvent)} {s : CommitState}
    (h : Run (commitSystem snap expiresAt) tr s) :
    Protects snap expiresAt tr s ↔ ∀ t ∈ tr, IsSuccess t → SoundProbe expiresAt t.pre := by
  have hi : CommitInv snap s := h.invariant commitInv_inductive
  unfold CommitInv at hi
  constructor
  · intro hp t ht hsucc
    by_contra hunsound
    have hd := Run.success_disarmed h ⟨t,ht,hsucc⟩
    have hall : ∀ u ∈ tr, IsSuccess u → ¬SoundProbe expiresAt u.pre := by
      intro u hu husucc
      rwa [Run.success_unique h u hu t ht husucc hsucc]
    rcases hp.restores hall with hr | harmed
    · rw [hd.rollbacks] at hr
      cases hr
    · have hs := hd.switch
      rcases harmed.switch with ha | ha | ha <;> simp [ha] at hs
  · intro hG
    refine ⟨?_,?_⟩
    · intro hd
      obtain ⟨t,ht,hsucc⟩ := Run.disarmed_success h hd
      exact ⟨t,ht,hsucc,(hG t ht hsucc).1⟩
    · intro hno
      have hnd : ¬s.Disarmed := by
        intro hd
        obtain ⟨t,ht,hsucc⟩ := Run.disarmed_success h hd
        exact hno t ht hsucc (hG t ht hsucc)
      cases hq : s.switch with
      | probing => exact Or.inr (armed_of_phase hi (Or.inl hq))
      | waiting => exact Or.inr (armed_of_phase hi (Or.inr (Or.inl hq)))
      | expired => exact Or.inr (armed_of_phase hi (Or.inr (Or.inr hq)))
      | confirmed =>
        rw [hq] at hi
        exact absurd ⟨Or.inl hq,hi⟩ hnd
      | restored =>
        rw [hq] at hi
        exact Or.inl hi
      | stopped =>
        rw [hq] at hi
        rcases hi with hi | hi
        · exact absurd ⟨Or.inr hq,hi⟩ hnd
        · exact Or.inl hi

def sampleSnapshot : Snapshot where
  interface := "eth0"
  ipv4Addresses := ["10.0.0.5/24"]
  ipv6Addresses := []
  gatewayV4 := "10.0.0.1"
  gatewayV6 := ""
  dnsServers := []
  dnsSearchDomains := []
  routes := [⟨"default","10.0.0.1","eth0"⟩]
  mtu := 1500
  networkManager := "NetworkManager"
  connectionName := "eth0"

/-- The switch as `executeOS` starts it, with the control plane in reach. -/
def sampleCommit : CommitState where
  now := 0
  reachable := true
  apply := .pending
  switch := .probing
  file := true
  rollbacks := []

theorem sampleCommit_start : (commitSystem sampleSnapshot 30).start sampleCommit :=
  ⟨rfl,rfl,rfl,rfl⟩

/-- The immediate probe is answered after the change. -/
theorem sample_switch_protects :
    ∃ tr s, Run (commitSystem sampleSnapshot 30) tr s ∧
      tr.map Transition.label = [.switch .remove,.switch (.reply true),.applyReturns true] ∧
      (Protects sampleSnapshot 30 tr s ↔
        ∀ t ∈ tr, IsSuccess t → SoundProbe 30 t.pre) ∧ Protects sampleSnapshot 30 tr s := by
  have happly : (commitSystem sampleSnapshot 30).step sampleCommit (.applyReturns true) =
      some { sampleCommit with apply := .applied } := rfl
  have hreply : (commitSystem sampleSnapshot 30).step { sampleCommit with apply := .applied }
      (.switch (.reply true)) =
        some { sampleCommit with apply := .applied, switch := .confirmed } := rfl
  have hremove : (commitSystem sampleSnapshot 30).step
      { sampleCommit with apply := .applied, switch := .confirmed } (.switch .remove) = some _ :=
    rfl
  have h := (((Run.start sampleCommit_start).step happly).step hreply).step hremove
  have hiff := switch_protects_iff h
  refine ⟨_,_,h,rfl,hiff,hiff.mpr ?_⟩
  intro t ht hsucc
  simp only [List.mem_cons,List.not_mem_nil,or_false] at ht
  rcases ht with rfl | rfl | rfl
  · cases hsucc
  · exact ⟨rfl,Nat.zero_le 30⟩
  · cases hsucc

/-- The immediate probe is answered before the change, which then cuts the control plane off. -/
theorem probe_before_apply :
    ¬∀ (snap : Snapshot) (expiresAt : Nat) (tr : List (Transition CommitState CommitEvent))
      (s : CommitState), Run (commitSystem snap expiresAt) tr s → Protects snap expiresAt tr s := by
  intro hall
  have hstart : (commitSystem sampleSnapshot 1).start sampleCommit := ⟨rfl,rfl,rfl,rfl⟩
  have hreply : (commitSystem sampleSnapshot 1).step sampleCommit (.switch (.reply true)) =
      some { sampleCommit with switch := .confirmed } := rfl
  obtain ⟨s,hs⟩ : ∃ s, (commitSystem sampleSnapshot 1).replay
      { sampleCommit with switch := .confirmed }
      [.switch .remove,.applyReturns true,.network false,.clock] = some s := ⟨_,rfl⟩
  have h := ((Run.start hstart).step hreply).replay hs
  have hd : s.Disarmed := by
    obtain rfl := Option.some.inj hs
    exact ⟨Or.inr rfl,rfl⟩
  obtain ⟨t,ht,hsucc,happlied⟩ := (hall _ _ _ _ h).disarmed hd
  have hfirst : ⟨sampleCommit,.switch (.reply true),{ sampleCommit with switch := .confirmed }⟩ ∈
      (commitSystem sampleSnapshot 1).history
        [⟨sampleCommit,.switch (.reply true),{ sampleCommit with switch := .confirmed }⟩]
        { sampleCommit with switch := .confirmed }
        [.switch .remove,.applyReturns true,.network false,.clock] := by
    rw [System.history_append]
    exact List.mem_append_right _ List.mem_cons_self
  obtain rfl := Run.success_unique h t ht _ hfirst hsucc rfl
  cases happlied

end Nexplane
