import Nexplane.TunnelManager
import Nexplane.Lib.Runs

set_option autoImplicit false

/-! The handlers of connected agents over the registry they share. A handler registers its session
and, some time after that session has ended, unregisters the agent. -/

namespace Nexplane
open Runs

variable {Rule : Type}

/-- A `run_agent_tunnel` from the registration of its session on. -/
structure TunnelHandler where
  agentId : String
  /-- `session._closed`: the read loop has ended. -/
  closed : Bool
  /-- The `finally` block has run. -/
  ended : Bool
  deriving DecidableEq, Repr

/-- The handlers stand in the order of their registrations; the place is the session's number. -/
structure RegistryState (Rule : Type) where
  manager : TunnelManager Rule
  handlers : List TunnelHandler

inductive RegistryEvent (Rule : Type) where
  | connect (agentId : String) (allowlist : List Rule) (maxConcurrent : Nat)
  | sessionEnds (handler : Nat)
  | handlerEnds (handler : Nat)
  | dial (agentId host : String) (port : Int)
  | release (agentId : String)

def registryStep (isAllowed : List Rule → String → Int → Bool) (s : RegistryState Rule) :
    RegistryEvent Rule → Option (RegistryState Rule)
  | .connect agentId allowlist maxConcurrent => some
      { manager := s.manager.register agentId s.handlers.length allowlist maxConcurrent
        handlers := s.handlers ++ [⟨agentId,false,false⟩] }
  | .sessionEnds i => (s.handlers[i]?).map fun h =>
      { s with handlers := s.handlers.set i { h with closed := true } }
  -- `session.wait()` returns only after the read loop has closed the session
  | .handlerEnds i =>
    match s.handlers[i]? with
    | none => none
    | some h =>
      if h.closed = true ∧ h.ended = false then some
        { manager := s.manager.unregister h.agentId
          handlers := s.handlers.set i { h with ended := true } }
      else none
  | .dial agentId host port =>
    match s.manager.beginDial isAllowed agentId host port with
    | .ok (_,manager) => some { s with manager }
    | .error _ => some s
  | .release agentId => some { s with manager := s.manager.release agentId }

def registrySystem (isAllowed : List Rule → String → Int → Bool) :
    System (RegistryState Rule) (RegistryEvent Rule) where
  start s := s = ⟨TunnelManager.empty,[]⟩
  step := registryStep isAllowed

/-- Handler `i` is the one that registered last for its agent. -/
structure RegistryState.Newest (s : RegistryState Rule) (i : Nat) (h : TunnelHandler) : Prop where
  here : s.handlers[i]? = some h
  last : ∀ j h', i < j → s.handlers[j]? = some h' → h'.agentId ≠ h.agentId

/-- An agent whose most recently registered session is alive is online, and a dial to it either
uses that session or is refused for the allowlist or the limit. -/
def RegistryState.ServesNewest (isAllowed : List Rule → String → Int → Bool)
    (s : RegistryState Rule) : Prop :=
  ∀ i h, s.Newest i h → h.closed = false →
    s.manager.isOnline h.agentId = true ∧
      ∀ host port,
        (∀ session m', s.manager.beginDial isAllowed h.agentId host port = .ok (session,m') →
          session = i) ∧
        ∀ a, s.manager.beginDial isAllowed h.agentId host port ≠ .error (.unavailable a)

/-- A handler ends only while its agent has no live session that was registered last. -/
def NoNewerSession (s : RegistryState Rule) : RegistryEvent Rule → Prop
  | .handlerEnds i => ∀ h, s.handlers[i]? = some h →
      ∀ j h', s.Newest j h' → h'.agentId = h.agentId → h'.closed = true
  | _ => True

section Steps

variable {isAllowed : List Rule → String → Int → Bool} {s s' : RegistryState Rule}
  {i j : Nat} {h h' : TunnelHandler}

theorem servesNewest_of_sessions
    (hs : ∀ i h, s.Newest i h → h.closed = false →
      ∃ allowlist, s.manager.sessions h.agentId = some (i,allowlist)) :
    s.ServesNewest isAllowed := by
  intro i h hn ha
  obtain ⟨allowlist,hsession⟩ := hs i h hn ha
  have honline : s.manager.isOnline h.agentId = true := by
    simp [TunnelManager.isOnline,hsession]
  refine ⟨honline,fun host port => ⟨?_,?_⟩⟩
  · intro session m' hd
    obtain ⟨_,hsession',_⟩ := TunnelManager.beginDial_ok hd
    rw [hsession] at hsession'
    exact (congrArg Prod.fst (Option.some.inj hsession')).symm
  · intro a hd
    rw [TunnelManager.beginDial_unavailable hd] at honline
    cases honline

/-- The registry names the newest session of every agent that has a live one. -/
def RegistryState.Registered (s : RegistryState Rule) : Prop :=
  ∀ i h, s.Newest i h → h.closed = false →
    ∃ allowlist, s.manager.sessions h.agentId = some (i,allowlist)

/-- Replacing a handler by one of the same agent changes no order of registration. -/
theorem newest_set {k : Nat} {h0 h1 : TunnelHandler} {m : TunnelManager Rule}
    (hk : s.handlers[k]? = some h0) (hn : RegistryState.Newest ⟨m,s.handlers.set k h1⟩ i h)
    (ha : h1.agentId = h0.agentId) :
    (i = k ∧ h = h1 ∧ s.Newest k h0) ∨ (i ≠ k ∧ s.Newest i h) := by
  have hlt : k < s.handlers.length := (List.getElem?_eq_some_iff.mp hk).1
  have hother : ∀ j h', j ≠ k → s.handlers[j]? = some h' →
      (s.handlers.set k h1)[j]? = some h' := by
    intro j h' hj hget
    rw [List.getElem?_set_ne (Ne.symm hj)]
    exact hget
  have hself : (s.handlers.set k h1)[k]? = some h1 := by simp [hlt]
  have hlast : ∀ j h', i < j → s.handlers[j]? = some h' → h'.agentId ≠ h.agentId := by
    intro j h' hj hget
    by_cases hjk : j = k
    · subst hjk
      obtain rfl : h0 = h' := Option.some.inj (hk.symm.trans hget)
      rw [← ha]
      exact hn.last j h1 hj hself
    · exact hn.last j h' hj (hother j h' hjk hget)
  by_cases hik : i = k
  · subst hik
    obtain rfl : h1 = h := Option.some.inj (hself.symm.trans hn.here)
    exact Or.inl ⟨rfl,rfl,hk,fun j h' hj hget => ha ▸ hlast j h' hj hget⟩
  · have hget : s.handlers[i]? = some h := by
      have := hn.here
      rwa [List.getElem?_set_ne (Ne.symm hik)] at this
    exact Or.inr ⟨hik,hget,hlast⟩

theorem newest_connect {agentId : String} {m : TunnelManager Rule}
    (hn : RegistryState.Newest ⟨m,s.handlers ++ [⟨agentId,false,false⟩]⟩ i h) :
    (i = s.handlers.length ∧ h.agentId = agentId) ∨ (h.agentId ≠ agentId ∧ s.Newest i h) := by
  have hget := hn.here
  by_cases hlt : i < s.handlers.length
  · refine Or.inr ⟨fun ha => ?_,?_,fun j h' hj hjget => ?_⟩
    · exact hn.last s.handlers.length ⟨agentId,false,false⟩ hlt (by simp) ha.symm
    · rwa [List.getElem?_append_left hlt] at hget
    · have hjlt := (List.getElem?_eq_some_iff.mp hjget).1
      exact hn.last j h' hj (by rwa [List.getElem?_append_left hjlt])
  · have hi : i = s.handlers.length := by
      have := (List.getElem?_eq_some_iff.mp hget).1
      simp at this
      omega
    subst hi
    simp at hget
    exact Or.inl ⟨rfl,by rw [← hget]⟩

theorem handlerEnds_some (hstep : registryStep isAllowed s (.handlerEnds i) = some s') :
    ∃ h, s.handlers[i]? = some h ∧ h.closed = true ∧
      s' = ⟨s.manager.unregister h.agentId,s.handlers.set i { h with ended := true }⟩ := by
  cases hh : s.handlers[i]? with
  | none => simp [registryStep,hh] at hstep
  | some h =>
    simp only [registryStep,hh,Option.ite_none_right_eq_some,Option.some.injEq] at hstep
    exact ⟨h,rfl,hstep.1.1,hstep.2.symm⟩

theorem registered_step {e : RegistryEvent Rule} (hr : s.Registered) (hg : NoNewerSession s e)
    (hstep : registryStep isAllowed s e = some s') : s'.Registered := by
  intro i h hn ha
  cases e with
  | connect agentId allowlist maxConcurrent =>
    obtain rfl := Option.some.inj hstep
    rcases newest_connect hn with ⟨rfl,hagent⟩ | ⟨hagent,hn⟩
    · exact ⟨allowlist,by simp [TunnelManager.register,hagent]⟩
    · obtain ⟨allowlist',hs⟩ := hr i h hn ha
      exact ⟨allowlist',by simpa [TunnelManager.register,hagent] using hs⟩
  | sessionEnds k =>
    obtain ⟨h0,hk,rfl⟩ := Option.map_eq_some_iff.mp hstep
    rcases newest_set hk hn rfl with ⟨_,rfl,_⟩ | ⟨_,hn⟩
    · cases ha
    · exact hr i h hn ha
  | handlerEnds k =>
    obtain ⟨h0,hk,hclosed,rfl⟩ := handlerEnds_some hstep
    rcases newest_set hk hn rfl with ⟨_,rfl,_⟩ | ⟨_,hn⟩
    · exact absurd (ha.symm.trans hclosed) (by decide)
    · have hagent : h.agentId ≠ h0.agentId := fun hagent =>
        absurd (ha.symm.trans (hg h0 hk i h hn hagent)) (by decide)
      obtain ⟨allowlist,hs⟩ := hr i h hn ha
      exact ⟨allowlist,by simpa [TunnelManager.unregister,hagent] using hs⟩
  | dial agentId host port =>
    simp only [registryStep] at hstep
    split at hstep
    · next session manager hd =>
      obtain rfl := Option.some.inj hstep
      obtain ⟨_,_,_,_,rfl⟩ := TunnelManager.beginDial_ok hd
      exact hr i h ⟨hn.here,hn.last⟩ ha
    · obtain rfl := Option.some.inj hstep
      exact hr i h hn ha
  | release agentId =>
    obtain rfl := Option.some.inj hstep
    exact hr i h ⟨hn.here,hn.last⟩ ha

theorem registered_inductive :
    InductiveUnder (registrySystem isAllowed) NoNewerSession RegistryState.Registered where
  start := by
    rintro s rfl i h hn
    simpa using hn.here
  step _ _ _ hr hg hstep := registered_step hr hg hstep

/-- Unregistering the agent while it has a newer live session leaves that session unreachable. -/
theorem noNewerSession_of_serves {e : RegistryEvent Rule}
    (hstep : registryStep isAllowed s e = some s') (hs : s'.ServesNewest isAllowed) :
    NoNewerSession s e := by
  cases e with
  | handlerEnds i =>
    intro h hi j h' hn hagent
    obtain ⟨h0,hk,hclosed,rfl⟩ := handlerEnds_some hstep
    obtain rfl : h0 = h := Option.some.inj (hk.symm.trans hi)
    by_contra hopen
    have hji : j ≠ i := by
      rintro rfl
      obtain rfl : h0 = h' := Option.some.inj (hk.symm.trans hn.here)
      exact hopen hclosed
    have hn' : RegistryState.Newest
        ⟨s.manager.unregister h0.agentId,s.handlers.set i { h0 with ended := true }⟩ j h' := by
      refine ⟨by simpa [List.getElem?_set_ne (Ne.symm hji)] using hn.here,?_⟩
      intro k hk' hlt hget
      by_cases hki : k = i
      · subst hki
        have hlast := hn.last k h0 hlt hk
        simp only [List.getElem?_set_self (List.getElem?_eq_some_iff.mp hk).1,
          Option.some.injEq] at hget
        rw [← hget]
        exact hlast
      · exact hn.last k hk' hlt (by simpa [List.getElem?_set_ne (Ne.symm hki)] using hget)
    have honline := (hs j h' hn' (by simpa using hopen)).1
    simp [TunnelManager.isOnline,TunnelManager.unregister,hagent] at honline
  | connect | sessionEnds | dial | release => trivial

end Steps

/-- A run keeps every agent with a live newest session online exactly when no handler ends while
its agent has a live session registered after its own. -/
theorem newest_session_served_iff {isAllowed : List Rule → String → Int → Bool}
    {tr : List (Transition (RegistryState Rule) (RegistryEvent Rule))} {s : RegistryState Rule}
    (h : Run (registrySystem isAllowed) tr s) :
    (∀ t ∈ tr, t.post.ServesNewest isAllowed) ↔ ∀ t ∈ tr, NoNewerSession t.pre t.label := by
  constructor
  · intro hs t ht
    exact noNewerSession_of_serves (h.transition t ht).2 (hs t ht)
  · intro hg t ht
    obtain ⟨hr,hstep⟩ := h.transition_guarded registered_inductive hg t ht
    exact servesNewest_of_sessions (registered_step hr (hg t ht) hstep)

section Examples

def allowAll : List Unit → String → Int → Bool := fun _ _ _ => true

/-- The agent reconnects before its old connection is found dead. -/
def reconnectEvents : List (RegistryEvent Unit) :=
  [.connect "a" [] 10,.connect "a" [] 10,.sessionEnds 0,.handlerEnds 0]

/-- The agent reconnects after the old handler has ended. -/
def reconnectLater : List (RegistryEvent Unit) :=
  [.connect "a" [] 10,.sessionEnds 0,.handlerEnds 0,.connect "a" [] 10]

/-- The end of the older connection takes the newer one out of the registry. -/
theorem reconnect_goes_offline :
    ∃ tr s, Run (registrySystem allowAll) tr s ∧
      s.Newest 1 ⟨"a",false,false⟩ ∧ s.manager.isOnline "a" = false ∧
      ¬ s.ServesNewest allowAll := by
  have hrun : (registrySystem allowAll).replay ⟨TunnelManager.empty,[]⟩
      reconnectEvents = some _ := rfl
  have h := (Run.start rfl).replay hrun
  have hn : RegistryState.Newest
      ⟨((TunnelManager.empty.register "a" 0 ([] : List Unit) 10).register "a" 1 [] 10).unregister "a",
        [⟨"a",true,true⟩,⟨"a",false,false⟩]⟩ 1 ⟨"a",false,false⟩ := by
    refine ⟨rfl,fun j h' hj hget => ?_⟩
    have := (List.getElem?_eq_some_iff.mp hget).1
    simp at this
    omega
  refine ⟨_,_,h,hn,rfl,fun hs => ?_⟩
  exact absurd (hs 1 _ hn rfl).1 (by decide)

theorem reconnect_later_served :
    ∃ tr s, Run (registrySystem allowAll) tr s ∧ tr.length = 4 ∧
      ∀ t ∈ tr, t.post.ServesNewest allowAll := by
  have hrun : (registrySystem allowAll).replay ⟨TunnelManager.empty,[]⟩
      reconnectLater = some _ := rfl
  have h := (Run.start rfl).replay hrun
  have hmeets : (registrySystem allowAll).Meets NoNewerSession
      ⟨TunnelManager.empty,[]⟩ reconnectLater := by
    refine ⟨trivial,trivial,?_,trivial,trivial⟩
    intro h0 h0get j h' hn hagent
    have hj : j = 0 := by
      have := (List.getElem?_eq_some_iff.mp hn.here).1
      simp at this
      omega
    subst hj
    exact congrArg TunnelHandler.closed (Option.some.inj hn.here).symm
  exact ⟨_,_,h,rfl,(newest_session_served_iff h).mpr (System.history_meets hmeets (by simp))⟩

end Examples
end Nexplane
