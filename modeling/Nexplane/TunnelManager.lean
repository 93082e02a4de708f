import Mathlib.Logic.Function.Basic

set_option autoImplicit false

/-! The registry of connected agents and the counter of their streams. The dictionaries are keyed
by agent id alone; a session object is known by its number. -/

namespace Nexplane

structure TunnelManager (Rule : Type) where
  sessions : String → Option (Nat × List Rule)
  maxConcurrent : String → Option Nat
  activeCount : String → Option Nat

inductive TunnelError where
  | unavailable (agentId : String)
  | concurrencyLimitExceeded (agentId : String) (limit : Nat)
  | destinationDenied (host : String) (port : Int) (agentId : String)
  deriving DecidableEq, Repr

def defaultMaxConcurrent : Nat := 10

namespace TunnelManager

variable {Rule : Type}

def empty : TunnelManager Rule := ⟨fun _ => none,fun _ => none,fun _ => none⟩

def register (m : TunnelManager Rule) (agentId : String) (session : Nat) (allowlist : List Rule)
    (maxConcurrent : Nat) : TunnelManager Rule where
  sessions := Function.update m.sessions agentId (some (session,allowlist))
  maxConcurrent := Function.update m.maxConcurrent agentId (some maxConcurrent)
  activeCount := Function.update m.activeCount agentId (some 0)

def unregister (m : TunnelManager Rule) (agentId : String) : TunnelManager Rule where
  sessions := Function.update m.sessions agentId none
  maxConcurrent := Function.update m.maxConcurrent agentId none
  activeCount := Function.update m.activeCount agentId none

def isOnline (m : TunnelManager Rule) (agentId : String) : Bool := (m.sessions agentId).isSome

def activeStreamCount (m : TunnelManager Rule) (agentId : String) : Nat :=
  (m.activeCount agentId).getD 0

def limit (m : TunnelManager Rule) (agentId : String) : Nat :=
  (m.maxConcurrent agentId).getD defaultMaxConcurrent

def setCount (m : TunnelManager Rule) (agentId : String) (n : Nat) : TunnelManager Rule :=
  { m with activeCount := Function.update m.activeCount agentId (some n) }

/-- `max(0, self._active_count.get(agent_id, 1) - 1)`, of a failed dial and of a closed stream. -/
def release (m : TunnelManager Rule) (agentId : String) : TunnelManager Rule :=
  m.setCount agentId ((m.activeCount agentId).getD 1 - 1)

/-- `dial` up to its call of `session.dial`, with the session it calls. -/
def beginDial (isAllowed : List Rule → String → Int → Bool) (m : TunnelManager Rule)
    (agentId host : String) (port : Int) : Except TunnelError (Nat × TunnelManager Rule) :=
  match m.sessions agentId with
  | none => .error (.unavailable agentId)
  | some (session,allowlist) =>
    let current := m.activeStreamCount agentId
    if m.limit agentId ≤ current then
      .error (.concurrencyLimitExceeded agentId (m.limit agentId))
    else if isAllowed allowlist host port = false then
      .error (.destinationDenied host port agentId)
    else .ok (session,m.setCount agentId (current + 1))

section Fields

variable (m : TunnelManager Rule) (agentId : String)

@[simp] theorem sessions_setCount (n : Nat) : (m.setCount agentId n).sessions = m.sessions := rfl

@[simp] theorem limit_setCount (a : String) (n : Nat) :
    (m.setCount agentId n).limit a = m.limit a := rfl

@[simp] theorem sessions_release : (m.release agentId).sessions = m.sessions := rfl

@[simp] theorem limit_release (a : String) : (m.release agentId).limit a = m.limit a := rfl

@[simp] theorem activeStreamCount_setCount_self (n : Nat) :
    (m.setCount agentId n).activeStreamCount agentId = n := by
  simp [activeStreamCount,setCount]

theorem activeStreamCount_setCount_of_ne {a : String} (h : a ≠ agentId) (n : Nat) :
    (m.setCount agentId n).activeStreamCount a = m.activeStreamCount a := by
  simp [activeStreamCount,setCount,h]

/-- A missing counter and a counter of zero read the same, before and after the decrement. -/
@[simp] theorem activeStreamCount_release_self :
    (m.release agentId).activeStreamCount agentId = m.activeStreamCount agentId - 1 := by
  cases h : m.activeCount agentId <;> simp [release,activeStreamCount,setCount,h]

theorem activeStreamCount_release_of_ne {a : String} (h : a ≠ agentId) :
    (m.release agentId).activeStreamCount a = m.activeStreamCount a :=
  activeStreamCount_setCount_of_ne m agentId h _

end Fields

/-- What an accepted dial has checked and what it changes. -/
theorem beginDial_ok {isAllowed : List Rule → String → Int → Bool} {m m' : TunnelManager Rule}
    {agentId host : String} {port : Int} {session : Nat}
    (h : m.beginDial isAllowed agentId host port = .ok (session,m')) :
    ∃ allowlist, m.sessions agentId = some (session,allowlist) ∧
      m.activeStreamCount agentId < m.limit agentId ∧ isAllowed allowlist host port = true ∧
      m' = m.setCount agentId (m.activeStreamCount agentId + 1) := by
  cases hs : m.sessions agentId with
  | none => simp [beginDial,hs] at h
  | some entry =>
    obtain ⟨session',allowlist⟩ := entry
    by_cases hlimit : m.limit agentId ≤ m.activeStreamCount agentId
    · simp [beginDial,hs,hlimit] at h
    · cases hallowed : isAllowed allowlist host port with
      | false => simp [beginDial,hs,hlimit,hallowed] at h
      | true =>
        simp only [beginDial,hs,if_neg hlimit,hallowed,Bool.true_eq_false,if_false,Except.ok.injEq,
          Prod.mk.injEq] at h
        obtain ⟨rfl,rfl⟩ := h
        exact ⟨allowlist,rfl,Nat.lt_of_not_le hlimit,hallowed,rfl⟩

theorem beginDial_unavailable {isAllowed : List Rule → String → Int → Bool}
    {m : TunnelManager Rule} {agentId host : String} {port : Int} {a : String}
    (h : m.beginDial isAllowed agentId host port = .error (.unavailable a)) :
    m.isOnline agentId = false := by
  cases hs : m.sessions agentId with
  | none => simp [isOnline,hs]
  | some entry =>
    simp only [beginDial,hs] at h
    split at h
    · cases h
    · split at h <;> cases h

end TunnelManager
end Nexplane
