import Mathlib
import Nexplane.AllowlistAgreement
import Nexplane.TunnelManager
import Nexplane.Lib.Lists
import Nexplane.Lib.Runs

set_option autoImplicit false

/-! The allowlist of an agent's tunnel in its three places: the stored settings, the supervisor of
the agent, which polls them, and the relay, which reads them at each connection. -/

namespace Nexplane
open Runs Lists

/-- What the agent polls. -/
structure TunnelConfig where
  enabled : Bool
  allowlist : List String
  deriving DecidableEq, Repr

/-- The columns of the registration. -/
structure TunnelSettings extends TunnelConfig where
  maxConcurrent : Nat
  deriving DecidableEq, Repr

/-- A tunnel that the supervisor has started, and the handler of its connection. -/
structure RunningTunnel where
  allowlist : List String
  connection : Option Nat
  deriving DecidableEq, Repr

/-- A tunnel runs exactly while `cancel` is set. -/
structure Supervisor where
  running : Option RunningTunnel
  deriving DecidableEq, Repr

def desiredRunning (enabled : Bool) (allowlist : List String) : Bool :=
  enabled && decide (0 < allowlist.length)

def sameAllowlist : List String → List String → Bool
  | [], [] => true
  | a :: as, b :: bs => a == b && sameAllowlist as bs
  | _, _ => false

/-- `supervisor.apply`. -/
def Supervisor.apply (s : Supervisor) (cfg : TunnelConfig) : Supervisor :=
  let want := desiredRunning cfg.enabled cfg.allowlist
  let unchanged :=
    match s.running with
    | some tunnel => want && sameAllowlist tunnel.allowlist cfg.allowlist
    | none => !want
  if unchanged = true then s
  else if want = true then ⟨some ⟨cfg.allowlist,none⟩⟩
  else ⟨none⟩

/-- Where a `run_agent_tunnel` is. -/
inductive RelayPhase where
  /-- Accepted; the registration is about to be read. -/
  | accepted
  | loaded (allowlist : List Authorizer.Rule) (maxConcurrent : Nat)
  /-- The session is registered and open. -/
  | serving (allowlist : List Authorizer.Rule)
  /-- The session has ended. -/
  | closed
  | ended
  deriving DecidableEq, Repr

/-- `answer` is the answer of a poll under way, with whether it is still the stored one. `synced`
says that the last edit has been followed by a successful poll. -/
structure TunnelSync where
  settings : TunnelSettings
  answer : Option (TunnelConfig × Bool)
  synced : Bool
  supervisor : Supervisor
  handlers : List RelayPhase
  manager : TunnelManager Authorizer.Rule

inductive SyncEvent where
  | edit (settings : TunnelSettings)
  | pollAnswer
  | pollFails
  | pollApply
  | dial
  | drop
  | refuse (handler : Nat)
  | load (handler : Nat)
  | register (handler : Nat)
  | sessionEnds (handler : Nat)
  | handlerEnds (handler : Nat)
  deriving DecidableEq, Repr

section Model

variable (tables : CaseTables) (agentId : String)

def relayAllowlist (allowlist : List String) : Option (List Authorizer.Rule) :=
  (Authorizer.parseAllowlist tables (allowlist.map String.toList)).toOption

/-- `tunnel.Run` returns at once where the agent cannot read the list. -/
def agentReads (allowlist : List String) : Bool :=
  (AgentAllowlist.parseAllowlist tables (allowlist.map String.toList)).isOk

def TunnelSync.setHandler (s : TunnelSync) (i : Nat) (phase : RelayPhase) : TunnelSync :=
  { s with handlers := s.handlers.set i phase }

def TunnelSync.setConnection (s : TunnelSync) (tunnel : RunningTunnel)
    (connection : Option Nat) : TunnelSync :=
  { s with supervisor := ⟨some { tunnel with connection }⟩ }

/-- The relay's read of the registration: a disabled tunnel is refused, a list that cannot be read
ends the handler. -/
def loadPhase (settings : TunnelSettings) : RelayPhase :=
  if settings.enabled = false then .ended
  else
    match relayAllowlist tables settings.allowlist with
    | none => .ended
    | some rules => .loaded rules settings.maxConcurrent

/-- The steps of a handler. -/
def handlerStep (s : TunnelSync) (i : Nat) : SyncEvent → RelayPhase → Option TunnelSync
  | .refuse _, .accepted => some (s.setHandler i .ended)
  | .load _, .accepted => some (s.setHandler i (loadPhase tables s.settings))
  | .register _, .loaded rules maxConcurrent => some
      { s.setHandler i (.serving rules) with
        manager := s.manager.register agentId i rules maxConcurrent }
  | .sessionEnds _, .serving _ => some (s.setHandler i .closed)
  | .handlerEnds _, .closed => some
      { s.setHandler i .ended with manager := s.manager.unregister agentId }
  | _, _ => none

def syncStep (s : TunnelSync) (e : SyncEvent) : Option TunnelSync :=
  match e with
  | .edit settings => some
      { s with settings, synced := false, answer := s.answer.map fun answer => (answer.1,false) }
  | .pollAnswer =>
    match s.answer with
    | some _ => none
    | none => some { s with answer := some (s.settings.toTunnelConfig,true) }
  | .pollFails => some { s with answer := none }
  | .pollApply =>
    match s.answer with
    | none => none
    | some (cfg,current) => some
        { s with
          answer := none, synced := s.synced || current, supervisor := s.supervisor.apply cfg }
  | .dial =>
    match s.supervisor.running with
    | some ⟨allowlist,none⟩ =>
      if agentReads tables allowlist = true then some
        { s.setConnection ⟨allowlist,none⟩ s.handlers.length with
          handlers := s.handlers ++ [.accepted] }
      else none
    | _ => none
  | .drop =>
    match s.supervisor.running with
    | some ⟨allowlist,some i⟩ => some (s.setConnection ⟨allowlist,some i⟩ none)
    | _ => none
  | .refuse i | .load i | .register i | .sessionEnds i | .handlerEnds i =>
    (s.handlers[i]?).bind (handlerStep tables agentId s i e)

def syncSystem : System TunnelSync SyncEvent where
  start s := s.answer = none ∧ s.synced = false ∧ s.supervisor = ⟨none⟩ ∧ s.handlers = [] ∧
    s.manager = TunnelManager.empty
  step := syncStep tables agentId

end Model

/-- The running tunnel is connected by this handler. -/
def TunnelSync.ConnectedBy (s : TunnelSync) (tunnel : RunningTunnel) (i : Nat) : Prop :=
  s.supervisor.running = some tunnel ∧ tunnel.connection = some i

/-- The session of the running tunnel is registered under the stored list, which the tunnel was
started with; no tunnel runs while it is disabled. -/
structure TunnelSync.InSync (tables : CaseTables) (agentId : String) (s : TunnelSync) : Prop where
  stopped : s.settings.enabled = false → s.supervisor.running = none
  started : ∀ tunnel, s.supervisor.running = some tunnel →
    tunnel.allowlist = s.settings.allowlist
  registered : ∀ tunnel i rules, s.ConnectedBy tunnel i → s.handlers[i]? = some (.serving rules) →
    ∃ stored, relayAllowlist tables s.settings.allowlist = some stored ∧
      s.manager.sessions agentId = some (i,stored)

/-- The handler has read these rules and has not ended. -/
def RelayPhase.rules : RelayPhase → Option (List Authorizer.Rule)
  | .loaded rules _ | .serving rules => some rules
  | _ => none

/-- An edit gives the running tunnel its list back only if its connection has read that list, and
while its connection is registered, no other handler registers or unregisters the agent. -/
def NoStaleSession (tables : CaseTables) (s : TunnelSync) : SyncEvent → Prop
  | .edit settings => ∀ tunnel i phase rules, s.ConnectedBy tunnel i →
      s.handlers[i]? = some phase → phase.rules = some rules →
      tunnel.allowlist = settings.allowlist → relayAllowlist tables settings.allowlist = some rules
  | .register _ | .handlerEnds _ => ∀ tunnel j rules, s.ConnectedBy tunnel j →
      s.handlers[j]? ≠ some (.serving rules)
  | _ => True

structure SyncInv (tables : CaseTables) (agentId : String) (s : TunnelSync) : Prop where
  current : ∀ cfg, s.answer = some (cfg,true) → cfg = s.settings.toTunnelConfig
  fresh : s.synced = true → ∀ cfg current, s.answer = some (cfg,current) → current = true
  stopped : s.synced = true → s.settings.enabled = false → s.supervisor.running = none
  started : s.synced = true → ∀ tunnel, s.supervisor.running = some tunnel →
    tunnel.allowlist = s.settings.allowlist
  read : ∀ tunnel i phase rules, s.ConnectedBy tunnel i → s.handlers[i]? = some phase →
    phase.rules = some rules → tunnel.allowlist = s.settings.allowlist →
    relayAllowlist tables s.settings.allowlist = some rules
  entry : ∀ tunnel i rules, s.ConnectedBy tunnel i → s.handlers[i]? = some (.serving rules) →
    s.manager.sessions agentId = some (i,rules)

theorem sameAllowlist_iff {as bs : List String} : sameAllowlist as bs = true ↔ as = bs := by
  induction as generalizing bs with
  | nil => cases bs <;> simp [sameAllowlist]
  | cons a as ih => cases bs <;> simp [sameAllowlist,ih]

/-- The supervisor keeps a tunnel that has the polled list, and else starts or stops one. -/
theorem Supervisor.apply_cases (s : Supervisor) (cfg : TunnelConfig) :
    (∃ tunnel, s.running = some tunnel ∧ tunnel.allowlist = cfg.allowlist ∧ cfg.enabled = true ∧
      s.apply cfg = s) ∨
    (cfg.enabled = true ∧ s.apply cfg = ⟨some ⟨cfg.allowlist,none⟩⟩) ∨ s.apply cfg = ⟨none⟩ := by
  obtain ⟨running⟩ := s
  cases hwant : desiredRunning cfg.enabled cfg.allowlist with
  | false => cases running <;> simp [Supervisor.apply,hwant]
  | true =>
    have henabled : cfg.enabled = true := (Bool.and_eq_true_iff.mp hwant).1
    rw [henabled] at hwant
    cases running with
    | none => simp [Supervisor.apply,hwant,henabled]
    | some tunnel =>
      by_cases hsame : tunnel.allowlist = cfg.allowlist
      · exact Or.inl ⟨tunnel,rfl,hsame,henabled,by
          simp [Supervisor.apply,hwant,henabled,hsame,sameAllowlist_iff]⟩
      · exact Or.inr (Or.inl ⟨henabled,by
          simp [Supervisor.apply,hwant,henabled,hsame,sameAllowlist_iff]⟩)

section Steps

variable {tables : CaseTables} {agentId : String} {s s' : TunnelSync} {i : Nat}
  {phase : RelayPhase} {rules : List Authorizer.Rule}

theorem loadPhase_rules {settings : TunnelSettings}
    (h : (loadPhase tables settings).rules = some rules) :
    relayAllowlist tables settings.allowlist = some rules := by
  unfold loadPhase at h
  cases hread : relayAllowlist tables settings.allowlist with
  | none => split at h <;> simp [hread,RelayPhase.rules] at h
  | some read =>
    split at h
    · simp [RelayPhase.rules] at h
    · simpa [hread,RelayPhase.rules] using h

/-- One handler moves on, with what it makes of the registry. -/
theorem SyncInv.handler (hI : SyncInv tables agentId s)
    {manager : TunnelManager Authorizer.Rule}
    (hread : ∀ tunnel rules, s.ConnectedBy tunnel i → phase.rules = some rules →
      tunnel.allowlist = s.settings.allowlist →
      relayAllowlist tables s.settings.allowlist = some rules)
    (hentry : ∀ tunnel j rules, s.ConnectedBy tunnel j →
      (s.handlers.set i phase)[j]? = some (.serving rules) →
      manager.sessions agentId = some (j,rules)) :
    SyncInv tables agentId { s.setHandler i phase with manager } where
  current := hI.current
  fresh := hI.fresh
  stopped := hI.stopped
  started := hI.started
  read := by
    intro tunnel j other rules hconnected hj hrules
    rcases getElem?_set_cases hj with ⟨rfl,rfl⟩ | ⟨-,hj⟩
    · exact hread tunnel rules hconnected hrules
    · exact hI.read tunnel j other rules hconnected hj hrules
  entry := hentry

/-- A step to a phase that serves nothing keeps the entry. -/
theorem SyncInv.entry_set (hI : SyncInv tables agentId s)
    (hphase : ∀ rules, phase ≠ .serving rules) (tunnel : RunningTunnel) (j : Nat)
    (rules : List Authorizer.Rule) (hconnected : s.ConnectedBy tunnel j)
    (hj : (s.handlers.set i phase)[j]? = some (.serving rules)) :
    s.manager.sessions agentId = some (j,rules) := by
  rcases getElem?_set_cases hj with ⟨-,h⟩ | ⟨-,hj⟩
  · exact absurd h.symm (hphase rules)
  · exact hI.entry tunnel j rules hconnected hj

theorem syncInv_handlerStep {e : SyncEvent} (hI : SyncInv tables agentId s)
    (hg : NoStaleSession tables s e) (hi : s.handlers[i]? = some phase)
    (hstep : handlerStep tables agentId s i e phase = some s') : SyncInv tables agentId s' := by
  unfold handlerStep at hstep
  split at hstep
  · -- refused
    obtain rfl := Option.some.inj hstep
    exact hI.handler (by simp [RelayPhase.rules]) (hI.entry_set (by simp))
  · -- loaded
    obtain rfl := Option.some.inj hstep
    refine hI.handler (fun _ _ _ hrules _ => loadPhase_rules hrules) (hI.entry_set fun rules => ?_)
    unfold loadPhase
    split
    · simp
    · split <;> simp
  · -- registered
    next rules maxConcurrent =>
    obtain rfl := Option.some.inj hstep
    refine hI.handler (fun tunnel read hconnected hrules => ?_) fun tunnel j read hconnected hj => ?_
    · exact hI.read tunnel i _ read hconnected hi hrules
    · rcases getElem?_set_cases hj with ⟨rfl,h⟩ | ⟨-,hj⟩
      · obtain rfl : read = rules := by simpa using h
        simp [TunnelManager.register]
      · exact absurd hj (hg tunnel j read hconnected)
  · -- the session ends
    obtain rfl := Option.some.inj hstep
    exact hI.handler (by simp [RelayPhase.rules]) (hI.entry_set (by simp))
  · -- unregistered
    obtain rfl := Option.some.inj hstep
    refine hI.handler (by simp [RelayPhase.rules]) fun tunnel j read hconnected hj => ?_
    rcases getElem?_set_cases hj with ⟨-,h⟩ | ⟨-,hj⟩
    · cases h
    · exact absurd hj (hg tunnel j read hconnected)
  · cases hstep

/-- The running tunnel has no connection, or one whose handler is new. -/
theorem syncInv_reconnect {tunnel : RunningTunnel} {connection : Option Nat}
    {handlers : List RelayPhase} (hI : SyncInv tables agentId s)
    (hrunning : s.supervisor.running = some tunnel)
    (hnew : ∀ i, connection = some i → handlers[i]? = some .accepted) :
    SyncInv tables agentId { s.setConnection tunnel connection with handlers } := by
  have hconnected : ∀ other i, TunnelSync.ConnectedBy
      { s.setConnection tunnel connection with handlers } other i → connection = some i := by
    rintro other i ⟨hother,hi⟩
    obtain rfl := Option.some.inj hother
    exact hi
  constructor
  · exact hI.current
  · exact hI.fresh
  · intro hs hdisabled
    exact absurd (hI.stopped hs hdisabled) (by simp [hrunning])
  · intro hs other hother
    obtain rfl := Option.some.inj hother
    exact hI.started hs tunnel hrunning
  · intro other i phase rules h hphase hrules
    rw [hnew i (hconnected other i h)] at hphase
    obtain rfl := Option.some.inj hphase
    cases hrules
  · intro other i rules h hphase
    rw [hnew i (hconnected other i h)] at hphase
    cases hphase

theorem syncInv_unconnected (hfree : ∀ tunnel i, ¬s.ConnectedBy tunnel i)
    (hcurrent : ∀ cfg, s.answer = some (cfg,true) → cfg = s.settings.toTunnelConfig)
    (hfresh : s.synced = true → ∀ cfg current, s.answer = some (cfg,current) → current = true)
    (hstopped : s.synced = true → s.settings.enabled = false → s.supervisor.running = none)
    (hstarted : s.synced = true → ∀ tunnel, s.supervisor.running = some tunnel →
      tunnel.allowlist = s.settings.allowlist) : SyncInv tables agentId s where
  current := hcurrent
  fresh := hfresh
  stopped := hstopped
  started := hstarted
  read tunnel i _ _ h := absurd h (hfree tunnel i)
  entry tunnel i _ h := absurd h (hfree tunnel i)

theorem syncInv_apply {cfg : TunnelConfig} {current : Bool} (hI : SyncInv tables agentId s)
    (ha : s.answer = some (cfg,current)) : SyncInv tables agentId { s with
      answer := none, synced := s.synced || current, supervisor := s.supervisor.apply cfg } := by
  have hcfg : (s.synced || current) = true → cfg = s.settings.toTunnelConfig := by
    intro h
    obtain rfl : current = true := by
      rcases Bool.or_eq_true_iff.mp h with h | h
      · exact hI.fresh h cfg current ha
      · exact h
    exact hI.current cfg ha
  rcases s.supervisor.apply_cases cfg with
    ⟨tunnel,hrunning,hsame,henabled,happly⟩ | ⟨henabled,happly⟩ | happly
  · rw [happly]
    exact { hI with
      current := by simp
      fresh := by simp
      stopped := by
        intro hs hdisabled
        obtain rfl := hcfg hs
        exact absurd (henabled.symm.trans hdisabled) (by decide)
      started := by
        intro hs other hother
        obtain rfl := hcfg hs
        obtain rfl := Option.some.inj (hrunning.symm.trans hother)
        exact hsame }
  · rw [happly]
    refine syncInv_unconnected ?_ (by simp) (by simp) ?_ ?_
    · rintro other i ⟨hother,hi⟩
      obtain rfl := Option.some.inj hother
      cases hi
    · intro hs hdisabled
      obtain rfl := hcfg hs
      exact absurd (henabled.symm.trans hdisabled) (by decide)
    · intro hs other hother
      obtain rfl := hcfg hs
      obtain rfl := Option.some.inj hother
      rfl
  · rw [happly]
    exact syncInv_unconnected (by simp [TunnelSync.ConnectedBy]) (by simp) (by simp) (by simp)
      (by simp)

theorem syncInv_step {e : SyncEvent} (hI : SyncInv tables agentId s)
    (hg : NoStaleSession tables s e) (hstep : syncStep tables agentId s e = some s') :
    SyncInv tables agentId s' := by
  cases e with
  | edit settings =>
    obtain rfl := Option.some.inj hstep
    exact { hI with
      current := by
        intro cfg hcfg
        obtain ⟨answer,-,h⟩ := Option.map_eq_some_iff.mp hcfg
        simp at h
      fresh := by simp
      stopped := by simp
      started := by simp
      read := hg }
  | pollAnswer =>
    simp only [syncStep] at hstep
    split at hstep
    · cases hstep
    · obtain rfl := Option.some.inj hstep
      exact { hI with
        current := by simp
        fresh := by simp }
  | pollFails =>
    obtain rfl := Option.some.inj hstep
    exact { hI with
      current := by simp
      fresh := by simp }
  | pollApply =>
    simp only [syncStep] at hstep
    split at hstep
    · cases hstep
    · next cfg current ha =>
      obtain rfl := Option.some.inj hstep
      exact syncInv_apply hI ha
  | dial =>
    simp only [syncStep] at hstep
    split at hstep
    · next allowlist hrunning =>
      split at hstep
      · obtain rfl := Option.some.inj hstep
        refine syncInv_reconnect hI hrunning fun i hi => ?_
        obtain rfl := Option.some.inj hi
        simp
      · cases hstep
    · cases hstep
  | drop =>
    simp only [syncStep] at hstep
    split at hstep
    · next allowlist i hrunning =>
      obtain rfl := Option.some.inj hstep
      exact syncInv_reconnect hI hrunning (by simp)
    · cases hstep
  | refuse i | load i | register i | sessionEnds i | handlerEnds i =>
    obtain ⟨phase,hi,hstep⟩ := Option.bind_eq_some_iff.mp hstep
    exact syncInv_handlerStep hI hg hi hstep

theorem syncInv_inductive :
    InductiveUnder (syncSystem tables agentId) (NoStaleSession tables) (SyncInv tables agentId) where
  start := by
    rintro s ⟨hanswer,hsynced,hsupervisor,-,-⟩
    refine syncInv_unconnected ?_ ?_ ?_ ?_ ?_ <;>
      simp [TunnelSync.ConnectedBy,hanswer,hsynced,hsupervisor]
  step _ _ _ hI hg hstep := syncInv_step hI hg hstep

theorem SyncInv.inSync (hI : SyncInv tables agentId s) (hs : s.synced = true) :
    s.InSync tables agentId where
  stopped := hI.stopped hs
  started := hI.started hs
  registered := by
    intro tunnel i rules hconnected hi
    have hstarted := hI.started hs tunnel hconnected.1
    exact ⟨rules,hI.read tunnel i _ rules hconnected hi rfl hstarted,
      hI.entry tunnel i rules hconnected hi⟩

end Steps

/-- In every run without stale sessions the three places agree whenever the last edit has been
polled. -/
theorem tunnel_in_sync {tables : CaseTables} {agentId : String}
    {tr : List (Transition TunnelSync SyncEvent)} {s : TunnelSync}
    (h : Run (syncSystem tables agentId) tr s)
    (hg : ∀ t ∈ tr, NoStaleSession tables t.pre t.label) :
    ∀ t ∈ tr, t.post.synced = true → t.post.InSync tables agentId := by
  intro t ht
  obtain ⟨hI,hstep⟩ := h.transition_guarded syncInv_inductive hg t ht
  exact (syncInv_step hI (hg t ht) hstep).inSync

section Examples

def dbOnly : List String := ["db:5432"]

def webOnly : List String := ["web:443"]

def syncStart : TunnelSync :=
  ⟨⟨⟨true,dbOnly⟩,10⟩,none,false,⟨none⟩,[],TunnelManager.empty⟩

/-- The tunnel connects while the list is another one for a moment. -/
def undoneEdit : List SyncEvent :=
  [.pollAnswer,.pollApply,.dial,.edit ⟨⟨true,webOnly⟩,10⟩,.load 0,.register 0,
    .edit ⟨⟨true,dbOnly⟩,10⟩,.pollAnswer,.pollApply]

theorem undone_edit_out_of_sync :
    ∃ tr s, Run (syncSystem asciiTables "a") tr s ∧ s.synced = true ∧
      s.supervisor.running = some ⟨dbOnly,some 0⟩ ∧ s.settings.allowlist = dbOnly ∧
      s.manager.sessions "a" = some (0,[⟨.hostname "web".toList,443,443⟩]) ∧
      ¬s.InSync asciiTables "a" := by
  have hrun : (syncSystem asciiTables "a").replay syncStart undoneEdit = some _ := rfl
  have h := (Run.start (S := syncSystem asciiTables "a") ⟨rfl,rfl,rfl,rfl,rfl⟩).replay hrun
  refine ⟨_,_,h,rfl,rfl,rfl,rfl,fun hsync => ?_⟩
  obtain ⟨stored,hstored,hsession⟩ := hsync.registered ⟨dbOnly,some 0⟩ 0 _ ⟨rfl,rfl⟩ rfl
  have hdb : relayAllowlist asciiTables dbOnly = some [⟨.hostname "db".toList,5432,5432⟩] := rfl
  obtain rfl := Option.some.inj (hstored.symm.trans hdb)
  have hweb := congrArg Prod.snd (Option.some.inj hsession)
  revert hweb
  decide

/-- The state in which the relay has read the list for the first connection. -/
def syncLoaded : TunnelSync :=
  ⟨⟨⟨true,dbOnly⟩,10⟩,none,true,⟨some ⟨dbOnly,some 0⟩⟩,
    [.loaded [⟨.hostname "db".toList,5432,5432⟩] 10],TunnelManager.empty⟩

theorem first_connection_in_sync :
    ∃ tr s, Run (syncSystem asciiTables "a") tr s ∧ tr.length = 5 ∧
      s.handlers = [.serving [⟨.hostname "db".toList,5432,5432⟩]] ∧
      ∀ t ∈ tr, t.post.synced = true → t.post.InSync asciiTables "a" := by
  have hrun : (syncSystem asciiTables "a").replay syncStart
      [.pollAnswer,.pollApply,.dial,.load 0] = some syncLoaded := rfl
  have hloaded := (Run.start (S := syncSystem asciiTables "a") ⟨rfl,rfl,rfl,rfl,rfl⟩).replay hrun
  have h := hloaded.step (a := .register 0) rfl
  have hmeets : (syncSystem asciiTables "a").Meets (NoStaleSession asciiTables) syncStart
      [.pollAnswer,.pollApply,.dial,.load 0] := ⟨trivial,trivial,trivial,trivial,trivial⟩
  have hregister : NoStaleSession asciiTables syncLoaded (.register 0) := by
    rintro tunnel j rules ⟨hrunning,hj⟩
    obtain rfl := Option.some.inj hrunning
    obtain rfl := Option.some.inj hj
    simp [syncLoaded]
  exact ⟨_,_,h,rfl,rfl,tunnel_in_sync h
    (List.forall_mem_cons.mpr ⟨hregister,System.history_meets hmeets (by simp)⟩)⟩

end Examples
end Nexplane
