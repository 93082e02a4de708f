import Nexplane.TunnelManager
import Nexplane.Lib.Lists
import Nexplane.Lib.Runs

set_option autoImplicit false

/-! The counter of open streams over every interleaving of registrations, dials and closes. -/

namespace Nexplane
open Runs Lists

variable {Rule : Type}

inductive DialPhase where
  /-- In `session.dial`. -/
  | dialling
  /-- The stream is open, its audit row is being written. -/
  | auditing
  /-- The wrapper has been returned. -/
  | returned
  | closed
  | failed
  | cancelled
  deriving DecidableEq, Repr

/-- Being dialled, or returned and not yet closed. -/
def DialPhase.live : DialPhase → Bool
  | .dialling | .auditing | .returned => true
  | .closed | .failed | .cancelled => false

/-- A `TunnelManager.dial` that passed the gate, with the `_CountedStream` it returns. -/
structure TunnelDial where
  agentId : String
  session : Nat
  phase : DialPhase
  deriving DecidableEq, Repr

structure AccountState (Rule : Type) where
  manager : TunnelManager Rule
  dials : List TunnelDial
  nextSession : Nat

inductive AccountEvent (Rule : Type) where
  | register (agentId : String) (allowlist : List Rule) (maxConcurrent : Nat)
  | unregister (agentId : String)
  | dial (agentId host : String) (port : Int)
  | dialOpens (dial : Nat)
  | dialFails (dial : Nat)
  | dialCancelled (dial : Nat)
  | dialReturns (dial : Nat)
  | close (dial : Nat)

def AccountState.setPhase (s : AccountState Rule) (i : Nat) (d : TunnelDial) (phase : DialPhase) :
    AccountState Rule :=
  { s with dials := s.dials.set i { d with phase } }

/-- The step of dial `i` in the phase it is in. -/
def dialStep (s : AccountState Rule) (i : Nat) (d : TunnelDial) :
    AccountEvent Rule → Option (AccountState Rule)
  | .dialOpens _ => if d.phase = .dialling then some (s.setPhase i d .auditing) else none
  -- a timeout, a refusal, an ended session: every `Exception` is caught and raised again
  | .dialFails _ =>
    if d.phase = .dialling then
      some { s.setPhase i d .failed with manager := s.manager.release d.agentId }
    else none
  -- `CancelledError` is no `Exception`
  | .dialCancelled _ =>
    if d.phase = .dialling ∨ d.phase = .auditing then some (s.setPhase i d .cancelled) else none
  | .dialReturns _ => if d.phase = .auditing then some (s.setPhase i d .returned) else none
  | .close _ =>
    if d.phase = .returned then
      some { s.setPhase i d .closed with manager := s.manager.release d.agentId }
    else if d.phase = .closed then some s
    else none
  | _ => none

def accountStep (isAllowed : List Rule → String → Int → Bool) (s : AccountState Rule)
    (e : AccountEvent Rule) : Option (AccountState Rule) :=
  match e with
  | .register agentId allowlist maxConcurrent => some
      { s with
        manager := s.manager.register agentId s.nextSession allowlist maxConcurrent
        nextSession := s.nextSession + 1 }
  | .unregister agentId => some { s with manager := s.manager.unregister agentId }
  | .dial agentId host port =>
    match s.manager.beginDial isAllowed agentId host port with
    | .ok (session,manager) =>
      some { s with manager, dials := s.dials ++ [⟨agentId,session,.dialling⟩] }
    | .error _ => some s
  | .dialOpens i | .dialFails i | .dialCancelled i | .dialReturns i | .close i =>
    (s.dials[i]?).bind fun d => dialStep s i d e

def accountSystem (isAllowed : List Rule → String → Int → Bool) :
    System (AccountState Rule) (AccountEvent Rule) where
  start s := s = ⟨TunnelManager.empty,[],0⟩
  step := accountStep isAllowed

/-- The session that `_sessions` holds for the agent. -/
def TunnelManager.current (m : TunnelManager Rule) (agentId : String) : Option Nat :=
  (m.sessions agentId).map Prod.fst

/-- The dial belongs to the agent's current session and is live. -/
def TunnelDial.counts (m : TunnelManager Rule) (agentId : String) (d : TunnelDial) : Bool :=
  d.agentId == agentId && m.current agentId == some d.session && d.phase.live

def AccountState.streams (s : AccountState Rule) (agentId : String) : Nat :=
  s.dials.countP (TunnelDial.counts s.manager agentId)

/-- The counter of every agent is exact and within its limit. -/
def AccountState.Accounted (s : AccountState Rule) : Prop :=
  ∀ agentId, s.manager.activeStreamCount agentId = s.streams agentId ∧
    s.streams agentId ≤ s.manager.limit agentId

/-- The dial is of the agent's current session, or that session has no streams. -/
def AccountState.OwnCount (s : AccountState Rule) (i : Nat) : Prop :=
  ∀ d, s.dials[i]? = some d →
    s.manager.current d.agentId = some d.session ∨ s.streams d.agentId = 0

/-- No dial of an earlier session fails and no stream of one is closed while the agent's current
session has streams, and no dial of a current session is cancelled. -/
def CountsOwnSession (s : AccountState Rule) : AccountEvent Rule → Prop
  | .dialFails i => s.OwnCount i
  | .close i => (∃ d, s.dials[i]? = some d ∧ d.phase = .closed) ∨ s.OwnCount i
  | .dialCancelled i => ∀ d, s.dials[i]? = some d → s.manager.current d.agentId ≠ some d.session
  | _ => True

section Steps

variable {isAllowed : List Rule → String → Int → Bool} {s s' : AccountState Rule}
  {m m' : TunnelManager Rule} {i : Nat} {d : TunnelDial} {agentId : String} {phase : DialPhase}

theorem counts_iff : d.counts m agentId = true ↔
    d.agentId = agentId ∧ m.current agentId = some d.session ∧ d.phase.live = true := by
  simp [TunnelDial.counts,and_assoc]

theorem counts_congr (h : m'.current agentId = m.current agentId) (d : TunnelDial) :
    d.counts m' agentId = d.counts m agentId := by
  rw [TunnelDial.counts,TunnelDial.counts,h]

@[simp] theorem current_release (a : String) : (m.release agentId).current a = m.current a := rfl

@[simp] theorem current_setCount (a : String) (n : Nat) :
    (m.setCount agentId n).current a = m.current a := rfl

/-- What a step leaves as it is for every agent but one. -/
theorem streams_of_ne (hd : d.agentId ≠ agentId) (hi : s.dials[i]? = some d) :
    (s.setPhase i d phase).streams agentId = s.streams agentId := by
  have hold : d.counts s.manager agentId = false := by simp [TunnelDial.counts,hd]
  have hnew : ({ d with phase } : TunnelDial).counts s.manager agentId = false := by
    simp [TunnelDial.counts,hd]
  have := countP_set_add (TunnelDial.counts s.manager agentId) { d with phase } hi
  rw [hold,hnew] at this
  exact this

theorem streams_setPhase_live (hi : s.dials[i]? = some d) (hd : d.phase.live = true)
    (hp : phase.live = true) (a : String) : (s.setPhase i d phase).streams a = s.streams a := by
  have heq : ({ d with phase } : TunnelDial).counts s.manager a = d.counts s.manager a := by
    simp [TunnelDial.counts,hd,hp]
  have := countP_set_add (TunnelDial.counts s.manager a) { d with phase } hi
  rw [heq] at this
  exact Nat.add_right_cancel this

/-- A dial that stops being live is one stream less of the session it was dialled on. -/
theorem streams_setPhase_dead (hi : s.dials[i]? = some d) (hd : d.phase.live = true)
    (hp : phase.live = false) :
    (s.setPhase i d phase).streams d.agentId +
      (if s.manager.current d.agentId = some d.session then 1 else 0) = s.streams d.agentId := by
  have hnew : ({ d with phase } : TunnelDial).counts s.manager d.agentId = false := by
    simp [TunnelDial.counts,hp]
  have := countP_set_add (TunnelDial.counts s.manager d.agentId) { d with phase } hi
  rw [hnew] at this
  by_cases hc : s.manager.current d.agentId = some d.session
  · have hold : d.counts s.manager d.agentId = true := counts_iff.mpr ⟨rfl,hc,hd⟩
    rw [hold] at this
    rw [if_pos hc]
    exact this
  · have hold : d.counts s.manager d.agentId = false := by simp [TunnelDial.counts,hc]
    rw [hold] at this
    rw [if_neg hc]
    exact this

theorem released_iff (hs : s.Accounted) (hi : s.dials[i]? = some d) (hd : d.phase.live = true)
    (hp : phase.live = false) :
    AccountState.Accounted { s.setPhase i d phase with manager := s.manager.release d.agentId } ↔
      s.OwnCount i := by
  have hstreams : ∀ a, AccountState.streams
      { s.setPhase i d phase with manager := s.manager.release d.agentId } a =
      (s.setPhase i d phase).streams a := fun _ => rfl
  have hdead := streams_setPhase_dead hi hd hp
  obtain ⟨hcount,hlimit⟩ := hs d.agentId
  have hown : s.OwnCount i ↔
      s.manager.current d.agentId = some d.session ∨ s.streams d.agentId = 0 := by
    constructor
    · exact fun h => h d hi
    · intro h d' hd'
      obtain rfl : d = d' := Option.some.inj (hi.symm.trans hd')
      exact h
  rw [hown]
  constructor
  · intro hpost
    have hself := (hpost d.agentId).1
    rw [hstreams,TunnelManager.activeStreamCount_release_self] at hself
    by_cases hc : s.manager.current d.agentId = some d.session
    · exact Or.inl hc
    · rw [if_neg hc] at hdead
      omega
  · intro hown a
    rw [hstreams,TunnelManager.limit_release]
    by_cases ha : a = d.agentId
    · subst ha
      rw [TunnelManager.activeStreamCount_release_self]
      by_cases hc : s.manager.current d.agentId = some d.session
      · rw [if_pos hc] at hdead
        omega
      · have hzero := hown.resolve_left hc
        rw [if_neg hc] at hdead
        omega
    · rw [TunnelManager.activeStreamCount_release_of_ne _ _ ha,streams_of_ne (Ne.symm ha) hi]
      exact hs a

theorem cancelled_iff (hs : s.Accounted) (hi : s.dials[i]? = some d) (hd : d.phase.live = true) :
    (s.setPhase i d .cancelled).Accounted ↔ s.manager.current d.agentId ≠ some d.session := by
  have hdead := streams_setPhase_dead hi hd (show DialPhase.live .cancelled = false from rfl)
  obtain ⟨hcount,hlimit⟩ := hs d.agentId
  constructor
  · intro hpost hc
    have hself : s.manager.activeStreamCount d.agentId =
        (s.setPhase i d .cancelled).streams d.agentId := (hpost d.agentId).1
    rw [if_pos hc] at hdead
    omega
  · intro hc a
    change s.manager.activeStreamCount a = _ ∧ _ ≤ s.manager.limit a
    by_cases ha : a = d.agentId
    · subst ha
      rw [if_neg hc] at hdead
      omega
    · rw [streams_of_ne (Ne.symm ha) hi]
      exact hs a

theorem opened_accounted (hs : s.Accounted) (hi : s.dials[i]? = some d) (hd : d.phase.live = true)
    (hp : phase.live = true) : (s.setPhase i d phase).Accounted := by
  intro a
  rw [streams_setPhase_live hi hd hp]
  exact hs a

theorem dialled_accounted {host : String} {port : Int} {session : Nat} (hs : s.Accounted)
    (h : s.manager.beginDial isAllowed agentId host port = .ok (session,m')) :
    AccountState.Accounted
      { s with manager := m', dials := s.dials ++ [⟨agentId,session,.dialling⟩] } := by
  obtain ⟨allowlist,hsession,hlt,_,rfl⟩ := TunnelManager.beginDial_ok h
  have hcurrent : s.manager.current agentId = some session := by
    simp [TunnelManager.current,hsession]
  intro a
  obtain ⟨hcount,hlimit⟩ := hs a
  have hstreams : AccountState.streams
      { s with
        manager := s.manager.setCount agentId (s.manager.activeStreamCount agentId + 1)
        dials := s.dials ++ [⟨agentId,session,.dialling⟩] } a =
      s.streams a + if a = agentId then 1 else 0 := by
    rw [AccountState.streams,List.countP_append]
    by_cases ha : a = agentId
    · subst ha
      have hnew : TunnelDial.counts (s.manager.setCount a (s.manager.activeStreamCount a + 1)) a
          ⟨a,session,.dialling⟩ = true := counts_iff.mpr ⟨rfl,hcurrent,rfl⟩
      rw [if_pos rfl,List.countP_singleton,hnew]
      rfl
    · have hnew : TunnelDial.counts
          (s.manager.setCount agentId (s.manager.activeStreamCount agentId + 1)) a
          ⟨agentId,session,.dialling⟩ = false := by
        simp [TunnelDial.counts,Ne.symm ha]
      rw [if_neg ha,List.countP_singleton,hnew]
      rfl
  rw [hstreams,TunnelManager.limit_setCount]
  by_cases ha : a = agentId
  · subst ha
    rw [TunnelManager.activeStreamCount_setCount_self,if_pos rfl]
    omega
  · rw [TunnelManager.activeStreamCount_setCount_of_ne _ _ ha,if_neg ha]
    exact ⟨hcount,hlimit⟩

/-- Every session number in use is below the next one. -/
structure AccountState.Numbered (s : AccountState Rule) : Prop where
  dials : ∀ d ∈ s.dials, d.session < s.nextSession
  current : ∀ agentId session, s.manager.current agentId = some session →
    session < s.nextSession

theorem registered_accounted (hn : s.Numbered) (hs : s.Accounted) (allowlist : List Rule)
    (maxConcurrent : Nat) :
    AccountState.Accounted
      { s with
        manager := s.manager.register agentId s.nextSession allowlist maxConcurrent
        nextSession := s.nextSession + 1 } := by
  intro a
  by_cases ha : a = agentId
  · subst ha
    have hzero : AccountState.streams
        { s with
          manager := s.manager.register a s.nextSession allowlist maxConcurrent
          nextSession := s.nextSession + 1 } a = 0 := by
      refine List.countP_eq_zero.mpr fun d hd hcounts => ?_
      obtain ⟨_,hcurrent,_⟩ := counts_iff.mp hcounts
      have heq : s.nextSession = d.session := by
        simpa [TunnelManager.current,TunnelManager.register] using hcurrent
      exact absurd (hn.dials d hd) (by omega)
    rw [hzero]
    exact ⟨by simp [TunnelManager.activeStreamCount,TunnelManager.register],Nat.zero_le _⟩
  · have hcurrent : (s.manager.register agentId s.nextSession allowlist maxConcurrent).current a =
        s.manager.current a := by
      simp [TunnelManager.current,TunnelManager.register,ha]
    have hcounts := funext (counts_congr hcurrent)
    have h := hs a
    rw [AccountState.streams,← hcounts] at h
    simpa [AccountState.streams,TunnelManager.activeStreamCount,TunnelManager.limit,
      TunnelManager.register,ha] using h

theorem unregistered_accounted (hs : s.Accounted) (agentId : String) :
    AccountState.Accounted { s with manager := s.manager.unregister agentId } := by
  intro a
  by_cases ha : a = agentId
  · subst ha
    have hzero : AccountState.streams { s with manager := s.manager.unregister a } a = 0 := by
      refine List.countP_eq_zero.mpr fun d _ hcounts => ?_
      obtain ⟨_,hcurrent,_⟩ := counts_iff.mp hcounts
      simp [TunnelManager.current,TunnelManager.unregister] at hcurrent
    rw [hzero]
    exact ⟨by simp [TunnelManager.activeStreamCount,TunnelManager.unregister],Nat.zero_le _⟩
  · have hcurrent : (s.manager.unregister agentId).current a = s.manager.current a := by
      simp [TunnelManager.current,TunnelManager.unregister,ha]
    have hcounts := funext (counts_congr hcurrent)
    have h := hs a
    rw [AccountState.streams,← hcounts] at h
    simpa [AccountState.streams,TunnelManager.activeStreamCount,TunnelManager.limit,
      TunnelManager.unregister,ha] using h

theorem accounted_step {e : AccountEvent Rule} (hn : s.Numbered) (hs : s.Accounted)
    (h : accountStep isAllowed s e = some s') : s'.Accounted ↔ CountsOwnSession s e := by
  cases e with
  | register agentId allowlist maxConcurrent =>
    obtain rfl := Option.some.inj h
    exact iff_of_true (registered_accounted hn hs _ _) trivial
  | unregister agentId =>
    obtain rfl := Option.some.inj h
    exact iff_of_true (unregistered_accounted hs _) trivial
  | dial agentId host port =>
    simp only [accountStep] at h
    split at h
    · next session manager hd =>
      obtain rfl := Option.some.inj h
      exact iff_of_true (dialled_accounted hs hd) trivial
    · obtain rfl := Option.some.inj h
      exact iff_of_true hs trivial
  | dialOpens i =>
    obtain ⟨d,hi,h⟩ := Option.bind_eq_some_iff.mp h
    simp only [dialStep,Option.ite_none_right_eq_some,Option.some.injEq] at h
    obtain ⟨hp,rfl⟩ := h
    exact iff_of_true (opened_accounted hs hi (by rw [hp]; rfl) rfl) trivial
  | dialReturns i =>
    obtain ⟨d,hi,h⟩ := Option.bind_eq_some_iff.mp h
    simp only [dialStep,Option.ite_none_right_eq_some,Option.some.injEq] at h
    obtain ⟨hp,rfl⟩ := h
    exact iff_of_true (opened_accounted hs hi (by rw [hp]; rfl) rfl) trivial
  | dialFails i =>
    obtain ⟨d,hi,h⟩ := Option.bind_eq_some_iff.mp h
    simp only [dialStep,Option.ite_none_right_eq_some,Option.some.injEq] at h
    obtain ⟨hp,rfl⟩ := h
    exact released_iff hs hi (by rw [hp]; rfl) rfl
  | dialCancelled i =>
    obtain ⟨d,hi,h⟩ := Option.bind_eq_some_iff.mp h
    simp only [dialStep,Option.ite_none_right_eq_some,Option.some.injEq] at h
    obtain ⟨hp,rfl⟩ := h
    have hlive : d.phase.live = true := by rcases hp with hp | hp <;> rw [hp] <;> rfl
    rw [cancelled_iff hs hi hlive]
    constructor
    · intro hc d' hd'
      obtain rfl : d = d' := Option.some.inj (hi.symm.trans hd')
      exact hc
    · exact fun hg => hg d hi
  | close i =>
    obtain ⟨d,hi,h⟩ := Option.bind_eq_some_iff.mp h
    simp only [dialStep] at h
    split at h
    · next hp =>
      obtain rfl := Option.some.inj h
      rw [released_iff hs hi (by rw [hp]; rfl) rfl]
      constructor
      · exact Or.inr
      · rintro (⟨d',hd',hclosed⟩ | hown)
        · obtain rfl : d = d' := Option.some.inj (hi.symm.trans hd')
          exact absurd (hp.symm.trans hclosed) (by decide)
        · exact hown
    · split at h
      · next hclosed =>
        obtain rfl := Option.some.inj h
        exact iff_of_true hs (Or.inl ⟨d,hi,hclosed⟩)
      · cases h

/-- No event of a dial changes the registered sessions or the session the dial was made on. -/
theorem dialStep_frame {e : AccountEvent Rule} (h : dialStep s i d e = some s') :
    s'.manager.sessions = s.manager.sessions ∧ s'.nextSession = s.nextSession ∧
      (s' = s ∨ ∃ phase, s'.dials = s.dials.set i { d with phase }) := by
  cases e with
  | close =>
    simp only [dialStep] at h
    split at h
    · obtain rfl := Option.some.inj h
      exact ⟨rfl,rfl,Or.inr ⟨_,rfl⟩⟩
    · split at h
      · obtain rfl := Option.some.inj h
        exact ⟨rfl,rfl,Or.inl rfl⟩
      · cases h
  | register | unregister | dial => cases h
  | dialOpens | dialFails | dialCancelled | dialReturns =>
    simp only [dialStep,Option.ite_none_right_eq_some,Option.some.injEq] at h
    obtain ⟨_,rfl⟩ := h
    exact ⟨rfl,rfl,Or.inr ⟨_,rfl⟩⟩

theorem numbered_dialStep {e : AccountEvent Rule} (hn : s.Numbered) (hi : s.dials[i]? = some d)
    (h : dialStep s i d e = some s') : s'.Numbered := by
  obtain ⟨hsessions,hnext,hdials⟩ := dialStep_frame h
  constructor
  · rw [hnext]
    rcases hdials with rfl | ⟨phase,hdials⟩
    · exact hn.dials
    · intro d' hd'
      rw [hdials] at hd'
      rcases mem_set_cases hd' with rfl | hd'
      · exact hn.dials d (List.mem_of_getElem? hi)
      · exact hn.dials d' hd'
  · intro a session hc
    rw [TunnelManager.current,hsessions] at hc
    rw [hnext]
    exact hn.current a session hc

theorem numbered_step {e : AccountEvent Rule} (hn : s.Numbered)
    (h : accountStep isAllowed s e = some s') : s'.Numbered := by
  cases e with
  | register agentId allowlist maxConcurrent =>
    obtain rfl := Option.some.inj h
    refine ⟨fun d hd => Nat.lt_succ_of_lt (hn.dials d hd),fun a session hc => ?_⟩
    by_cases ha : a = agentId
    · have : s.nextSession = session := by
        simpa [TunnelManager.current,TunnelManager.register,ha] using hc
      simp [this]
    · have hc' : s.manager.current a = some session := by
        simpa [TunnelManager.current,TunnelManager.register,ha] using hc
      exact Nat.lt_succ_of_lt (hn.current a session hc')
  | unregister agentId =>
    obtain rfl := Option.some.inj h
    refine ⟨hn.dials,fun a session hc => ?_⟩
    by_cases ha : a = agentId
    · simp [TunnelManager.current,TunnelManager.unregister,ha] at hc
    · exact hn.current a session (by
        simpa [TunnelManager.current,TunnelManager.unregister,ha] using hc)
  | dial agentId host port =>
    simp only [accountStep] at h
    split at h
    · next session manager hd =>
      obtain rfl := Option.some.inj h
      obtain ⟨allowlist,hsession,_,_,rfl⟩ := TunnelManager.beginDial_ok hd
      refine ⟨fun d hd => ?_,hn.current⟩
      rcases List.mem_append.mp hd with hd | hd
      · exact hn.dials d hd
      · obtain rfl := List.mem_singleton.mp hd
        exact hn.current agentId session (by simp [TunnelManager.current,hsession])
    · obtain rfl := Option.some.inj h
      exact hn
  | dialOpens i | dialFails i | dialCancelled i | dialReturns i | close i =>
    obtain ⟨d,hi,h⟩ := Option.bind_eq_some_iff.mp h
    exact numbered_dialStep hn hi h

theorem numbered_inductive : Inductive (accountSystem isAllowed) AccountState.Numbered where
  start := by
    rintro s rfl
    exact ⟨by simp,by simp [TunnelManager.current,TunnelManager.empty]⟩
  step _ _ _ hn h := numbered_step hn h

theorem start_accounted (h : (accountSystem isAllowed).start s) : s.Accounted := by
  obtain rfl := h
  intro a
  simp [AccountState.streams,TunnelManager.activeStreamCount,TunnelManager.empty]

end Steps

/-- The counters stay exact and within their limits through a run exactly when every failing dial
and every closed stream either belongs to its agent's current session or finds that session
without streams, and no dial of a current session is cancelled. -/
theorem streams_accounted_iff {isAllowed : List Rule → String → Int → Bool}
    {tr : List (Transition (AccountState Rule) (AccountEvent Rule))} {s : AccountState Rule}
    (h : Run (accountSystem isAllowed) tr s) :
    (∀ t ∈ tr, t.post.Accounted) ↔ ∀ t ∈ tr, CountsOwnSession t.pre t.label :=
  h.stays_iff numbered_inductive (fun _ => start_accounted)
    fun _ _ _ hn hs hstep => accounted_step hn hs hstep

section Examples

def allowEvery : List Unit → String → Int → Bool := fun _ _ _ => true

/-- A stream of the old session is closed after the agent has reconnected and been dialled. -/
def closeAfterReconnect : List (AccountEvent Unit) :=
  [.register "a" [] 1,.dial "a" "db" 5432,.dialOpens 0,.dialReturns 0,
    .register "a" [] 1,.dial "a" "db" 5432,.close 0,.dial "a" "db" 5432]

def closeBeforeReconnect : List (AccountEvent Unit) :=
  [.register "a" [] 1,.dial "a" "db" 5432,.dialOpens 0,.dialReturns 0,.close 0,
    .register "a" [] 1,.dial "a" "db" 5432,.dialFails 1]

/-- The counter reads one while two streams of the current session are dialled, with a limit of
one. -/
theorem close_after_reconnect_miscounts :
    ∃ tr s, Run (accountSystem allowEvery) tr s ∧ s.manager.activeStreamCount "a" = 1 ∧
      s.streams "a" = 2 ∧ s.manager.limit "a" = 1 ∧ ¬ s.Accounted := by
  have hrun : (accountSystem allowEvery).replay ⟨TunnelManager.empty,[],0⟩
      closeAfterReconnect = some _ := rfl
  have h := (Run.start rfl).replay hrun
  refine ⟨_,_,h,rfl,rfl,rfl,fun hs => ?_⟩
  exact absurd (hs "a").2 (by decide)

theorem close_before_reconnect_accounted :
    ∃ tr s, Run (accountSystem allowEvery) tr s ∧ tr.length = 8 ∧ ∀ t ∈ tr, t.post.Accounted := by
  have hrun : (accountSystem allowEvery).replay ⟨TunnelManager.empty,[],0⟩
      closeBeforeReconnect = some _ := rfl
  have h := (Run.start rfl).replay hrun
  have hmeets : (accountSystem allowEvery).Meets CountsOwnSession ⟨TunnelManager.empty,[],0⟩
      closeBeforeReconnect := by
    refine ⟨trivial,trivial,trivial,trivial,Or.inr fun d hd => Or.inl ?_,trivial,trivial,
      fun d hd => Or.inl ?_,trivial⟩ <;>
    · obtain rfl := Option.some.inj hd
      rfl
  exact ⟨_,_,h,rfl,(streams_accounted_iff h).mpr (System.history_meets hmeets (by simp))⟩

end Examples
end Nexplane
