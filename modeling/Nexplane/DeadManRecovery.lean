import Nexplane.DeadManSwitch

set_option autoImplicit false

/-! The agent stops while the file of a dead-man switch exists, and is started again. -/

namespace Nexplane
open Runs PyValue

structure RecoveryState (ν : Type) where
  now : Nat
  /-- The control plane answers a probe. -/
  reachable : Bool
  host : ν
  file : Bool
  /-- The switch that `checkPendingRollback` has resumed; `none` while the agent is down. -/
  process : Option SwitchPhase
  /-- What the callback of this process has returned. -/
  outcome : Option Result

inductive RecoveryEvent where
  | clock
  | network (up : Bool)
  | start
  | stop
  | switch (e : SwitchEvent)
  deriving DecidableEq, Repr

section
variable {ν : Type} (os : Os ν) (others : Handlers ν)

/-- The phase in which `checkPendingRollback` leaves the switch: an expired one goes straight to
its callback. -/
def resumedPhase (expiresAt now : Nat) : SwitchPhase :=
  if expiresAt < now then .expired else .probing

def RecoveryState.afterSwitch (s : RecoveryState ν) (snap : Snapshot) (e : SwitchEvent)
    (p : SwitchPhase) : RecoveryState ν :=
  match e with
  | .callback =>
    let answer := (startupRollback os others snap.toMap).run s.host
    { s with process := some p, outcome := some answer.1, host := answer.2 }
  | .remove => { s with process := some p, file := false }
  | _ => { s with process := some p }

def recoveryStep (snap : Snapshot) (expiresAt : Nat) (s : RecoveryState ν) :
    RecoveryEvent → Option (RecoveryState ν)
  | .clock => some { s with now := s.now + 1 }
  | .network up => some { s with reachable := up }
  | .start =>
    if s.process = none then
      let phase := if s.file then resumedPhase expiresAt s.now else .stopped
      some { s with process := some phase, outcome := none }
    else none
  | .stop => if s.process = none then none else some { s with process := none }
  | .switch e =>
    if e = .reply true ∧ s.reachable = false then none
    else
      match s.process with
      | none => none
      | some phase =>
        (phase.next (expiresAt ≤ s.now) e).map (s.afterSwitch os others snap e)

/-- Every moment at which the agent may be down while the file exists. -/
def recoverySystem (snap : Snapshot) (expiresAt : Nat) :
    System (RecoveryState ν) RecoveryEvent where
  start s := s.process = none ∧ s.file = true
  step := recoveryStep os others snap expiresAt

/-- The callback restores what the callback of the first process would have restored. -/
def Restores (snap : Snapshot) (t : Transition (RecoveryState ν) RecoveryEvent) : Prop :=
  ∃ data, t.post.outcome = some ⟨"completed",some data,""⟩ ∧
    (commitRollback os snap).run.run t.pre.host = (.ok data,t.post.host)

structure Recovers (snap : Snapshot) (t : Transition (RecoveryState ν) RecoveryEvent) :
    Prop where
  callback : t.label = .switch .callback → Restores os snap t
  /-- The file goes after a probe that succeeded or a restore that did. -/
  file : t.pre.file = true → t.post.file = false → t.pre.process = some .confirmed ∨
    ∃ data, t.pre.outcome = some ⟨"completed",data,""⟩

variable {os others} {snap : Snapshot} {expiresAt : Nat} {s s' : RecoveryState ν}
  {tr : List (Transition (RecoveryState ν) RecoveryEvent)}

theorem recoverySwitch_some {e : SwitchEvent}
    (h : recoveryStep os others snap expiresAt s (.switch e) = some s') :
    ∃ phase p, s.process = some phase ∧ phase.next (expiresAt ≤ s.now) e = some p ∧
      s' = s.afterSwitch os others snap e p := by
  simp only [recoveryStep,Option.ite_none_left_eq_some] at h
  obtain ⟨_,h⟩ := h
  cases hp : s.process with
  | none => simp [hp] at h
  | some phase =>
    simp only [hp,Option.map_eq_some_iff] at h
    obtain ⟨p,hnext,hs⟩ := h
    exact ⟨phase,p,rfl,hnext,hs.symm⟩

@[simp] theorem afterSwitch_process {e : SwitchEvent} {p : SwitchPhase} :
    (s.afterSwitch os others snap e p).process = some p := by
  cases e <;> simp only [RecoveryState.afterSwitch]

theorem afterSwitch_file {e : SwitchEvent} {p : SwitchPhase} (he : e ≠ .remove) :
    (s.afterSwitch os others snap e p).file = s.file := by
  cases e with
  | remove => exact absurd rfl he
  | _ => simp only [RecoveryState.afterSwitch]

theorem recoveryStep_not_restored {e : RecoveryEvent}
    (h : recoveryStep os others snap expiresAt s e = some s') (he : e ≠ .switch .callback)
    (hs : s.process ≠ some .restored) : s'.process ≠ some .restored := by
  cases e with
  | clock =>
    obtain rfl := Option.some.inj h
    exact hs
  | network up =>
    obtain rfl := Option.some.inj h
    exact hs
  | start =>
    simp only [recoveryStep,Option.ite_none_right_eq_some,Option.some.injEq] at h
    obtain ⟨_,rfl⟩ := h
    by_cases hf : s.file = true <;> by_cases hx : expiresAt < s.now <;>
      simp [resumedPhase,hf,hx]
  | stop =>
    simp only [recoveryStep,Option.ite_none_left_eq_some,Option.some.injEq] at h
    obtain ⟨_,rfl⟩ := h
    simp
  | switch e =>
    obtain ⟨phase,p,hp,hnext,rfl⟩ := recoverySwitch_some h
    rw [afterSwitch_process]
    obtain ⟨_,ok,_,rfl⟩ | ⟨_,_,rfl⟩ | ⟨_,_,_,rfl⟩ | ⟨_,rfl,_⟩ | ⟨_,_,rfl⟩ :=
      SwitchPhase.next_cases hnext
    · cases ok <;> simp
    · simp
    · simp
    · exact absurd rfl he
    · simp

theorem recoveryStep_file {e : RecoveryEvent}
    (h : recoveryStep os others snap expiresAt s e = some s') (hf : s.file = true)
    (hf' : s'.file = false) : s.process = some .confirmed ∨ s.process = some .restored := by
  have hsame : s'.file ≠ s.file := by simp [hf,hf']
  cases e with
  | clock =>
    obtain rfl := Option.some.inj h
    exact absurd rfl hsame
  | network up =>
    obtain rfl := Option.some.inj h
    exact absurd rfl hsame
  | start =>
    simp only [recoveryStep,Option.ite_none_right_eq_some,Option.some.injEq] at h
    obtain ⟨_,rfl⟩ := h
    exact absurd rfl hsame
  | stop =>
    simp only [recoveryStep,Option.ite_none_left_eq_some,Option.some.injEq] at h
    obtain ⟨_,rfl⟩ := h
    exact absurd rfl hsame
  | switch e =>
    obtain ⟨phase,p,hp,hnext,rfl⟩ := recoverySwitch_some h
    by_cases he : e = .remove
    · subst he
      obtain ⟨_,_,h,_⟩ | ⟨_,h,_⟩ | ⟨_,h,_⟩ | ⟨_,h,_⟩ | ⟨hq,_,_⟩ := SwitchPhase.next_cases hnext
      case inr.inr.inr.inr => rcases hq with rfl | rfl <;> simp [hp]
      all_goals cases h
    · exact absurd (afterSwitch_file he) hsame

theorem Run.no_callback (h : Run (recoverySystem os others snap expiresAt) tr s)
    (hno : ∀ t ∈ tr, t.label ≠ .switch .callback) : s.process ≠ some .restored := by
  induction h with
  | start h0 => simp [h0.1]
  | @step tr s s' a hr hs ih =>
    have hprev := ih fun t ht => hno t (List.mem_cons_of_mem _ ht)
    exact recoveryStep_not_restored hs (hno _ List.mem_cons_self) hprev

/-- The callback of a restarted agent never restores anything. -/
theorem callback_never_restores
    (h : recoveryStep os others snap expiresAt s (.switch .callback) = some s') :
    ¬Restores os snap ⟨s,.switch .callback,s'⟩ := by
  obtain ⟨phase,p,_,_,rfl⟩ := recoverySwitch_some h
  rintro ⟨data,hout,_⟩
  simp [RecoveryState.afterSwitch,startupRollback_eq] at hout

end

/-- A restarted agent recovers exactly in the runs in which it never comes to its callback: a probe
succeeds before the expiry, or the agent stops again. -/
theorem recovery_restores_iff {ν : Type} {os : Os ν} {others : Handlers ν} {snap : Snapshot}
    {expiresAt : Nat} {tr : List (Transition (RecoveryState ν) RecoveryEvent)}
    {s : RecoveryState ν} (h : Run (recoverySystem os others snap expiresAt) tr s) :
    (∀ t ∈ tr, Recovers os snap t) ↔ ∀ t ∈ tr, t.label ≠ .switch .callback := by
  constructor
  · rintro hall ⟨s,e,s'⟩ ht rfl
    exact callback_never_restores (h.transition _ ht).2 ((hall _ ht).callback rfl)
  · intro hno
    induction h with
    | start _ => simp
    | @step tr s s' a hr hs ih =>
      have hno' : ∀ t ∈ tr, t.label ≠ .switch .callback :=
        fun t ht => hno t (List.mem_cons_of_mem _ ht)
      intro t ht
      rcases List.mem_cons.mp ht with rfl | ht
      · refine ⟨fun hc => absurd hc (hno _ List.mem_cons_self),fun hf hf' => ?_⟩
        rcases recoveryStep_file hs hf hf' with hp | hp
        · exact Or.inl hp
        · exact absurd hp (Run.no_callback hr hno')
      · exact ih hno' t ht

/-- A systemd host on which every command succeeds; it logs them. -/
def sampleOs : Os (List (List String)) where
  lookPath := fun _ _ => false
  stat := fun path _ => path = "/etc/systemd/network"
  run := fun name args log => (none,log ++ [name :: args])
  output := fun _ _ log => ("",log)
  readFile := fun _ _ => ""
  writeFile := fun path _ log => (none,log ++ [["write",path]])

def noHandlers : Handlers (List (List String)) where
  commands := fun _ => none
  rollbacks := fun _ => none

/-- The agent is down at time `now`. -/
def sampleDown (now : Nat) : RecoveryState (List (List String)) where
  now := now
  reachable := true
  host := []
  file := true
  process := none
  outcome := none

/-- The agent comes up in time and its probe is answered. -/
theorem sample_recovers :
    ∃ tr s, Run (recoverySystem sampleOs noHandlers sampleSnapshot 60) tr s ∧
      tr.map Transition.label = [.switch .remove,.switch (.reply true),.start] ∧
      s.file = false ∧ ∀ t ∈ tr, Recovers sampleOs sampleSnapshot t := by
  obtain ⟨s,hs⟩ : ∃ s, (recoverySystem sampleOs noHandlers sampleSnapshot 60).replay (sampleDown 0)
      [.start,.switch (.reply true),.switch .remove] = some s := ⟨_,rfl⟩
  have hstart : (recoverySystem sampleOs noHandlers sampleSnapshot 60).start (sampleDown 0) :=
    ⟨rfl,rfl⟩
  have h := (Run.start hstart).replay hs
  refine ⟨_,s,h,System.history_labels hs,?_,(recovery_restores_iff h).mpr ?_⟩
  · obtain rfl := Option.some.inj hs
    rfl
  · intro t ht hlab
    have hl := List.mem_map_of_mem (f := Transition.label) ht
    rw [System.history_labels hs,hlab] at hl
    simp at hl

/-- The agent comes up after the expiry: the file is gone and nothing was restored, where the
callback of the first process succeeds. -/
theorem expired_restart_restores_nothing :
    ∃ tr s, Run (recoverySystem sampleOs noHandlers sampleSnapshot 60) tr s ∧ s.file = false ∧
      s.host = [] ∧
      (commitRollback sampleOs sampleSnapshot).run.run [] =
        (.ok [("rolled_back",.bool true)],
          [["write","/etc/systemd/network/10-nexplane-eth0.network"],["networkctl","reload"]]) ∧
      ¬∀ t ∈ tr, Recovers sampleOs sampleSnapshot t := by
  have hstart : (recoverySystem sampleOs noHandlers sampleSnapshot 60).start (sampleDown 90) :=
    ⟨rfl,rfl⟩
  obtain ⟨s,hs⟩ : ∃ s, (recoverySystem sampleOs noHandlers sampleSnapshot 60).replay
      (sampleDown 90) [.start,.switch .callback,.switch .remove] = some s := ⟨_,rfl⟩
  have h := (Run.start hstart).replay hs
  refine ⟨_,s,h,?_,?_,rfl,?_⟩
  · obtain rfl := Option.some.inj hs
    rfl
  · obtain rfl := Option.some.inj hs
    rfl
  · intro hall
    have hmem : RecoveryEvent.switch .callback ∈
        ((recoverySystem sampleOs noHandlers sampleSnapshot 60).history [] (sampleDown 90)
          [.start,.switch .callback,.switch .remove]).map Transition.label := by
      rw [System.history_labels hs]
      decide
    obtain ⟨t,ht,hlab⟩ := List.mem_map.mp hmem
    obtain ⟨pre,label,post⟩ := t
    obtain rfl : label = .switch .callback := hlab
    exact callback_never_restores (h.transition _ ht).2 ((hall _ ht).callback rfl)

end Nexplane
