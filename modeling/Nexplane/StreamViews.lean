import Nexplane.TunnelLink

set_option autoImplicit false

/-! One stream id as both ends and the channels between them see it, and its stages. -/

namespace Nexplane
open Lists

/-- What both ends and the channels have of one id. -/
structure StreamView where
  /-- The number of the stream in the table, and its object. -/
  entry : Option Nat
  object : Option TunnelStream
  requests : List (Nat × Protocol.Frame)
  replies : List Protocol.Frame
  /-- The connections with the id, each with the stream it was opened for. -/
  conn : Nat → Option (TunnelConn × Nat)
  /-- The connection in the agent's table. -/
  held : Option Nat

def connsOf (conns : List TunnelConn) (origins : List Nat) (id : Int) (k : Nat) :
    Option (TunnelConn × Nat) :=
  match conns[k]?, origins[k]? with
  | some c, some j => if c.streamId = id then some (c,j) else none
  | _, _ => none

def TunnelLink.view (s : TunnelLink) (id : Int) : StreamView where
  entry := s.session.streams id
  object := (s.session.streams id).bind fun j => s.session.objects[j]?
  requests := s.toAgent.filter fun x => x.2.streamId = id
  replies := s.back.filter fun f => f.streamId = id
  conn := connsOf s.agent.conns s.origins id
  held := s.agent.streams id

namespace StreamView

/-- Stream `j` is in the table and waits for its answer. -/
def Asked (v : StreamView) (j : Nat) : Prop :=
  v.entry = some j ∧ ∃ o, v.object = some o ∧ o.phase = .dialling ∧ o.result = .pending

/-- A refusal of the OPEN is on its way or has arrived. -/
def Refusing (v : StreamView) : Prop :=
  (∃ f ∈ v.replies, f.type = Protocol.OPEN_ERR) ∨
    (∃ k c j, v.conn k = some (c,j) ∧ ∃ reason, c.phase = .refused reason) ∨
    ∃ o, v.object = some o ∧ ∃ reason, o.result = .err reason

/-- The agent has no connection of the id, and none to come. -/
structure Released (v : StreamView) : Prop where
  requests : ∀ x ∈ v.requests, x.2.type ≠ Protocol.OPEN
  conns : ∀ k c j, v.conn k = some (c,j) → ¬c.Answering ∧ c.tcpOpen = false

/-- The stages that one id goes through: asked for, answered, and open at both ends until a CLOSE is
under way. -/
structure InStep (v : StreamView) : Prop where
  requested : ∀ x ∈ v.requests, x.2.type = Protocol.OPEN →
    v.requests = [x] ∧ v.Asked x.1 ∧ v.replies = [] ∧
      ∀ k c j, v.conn k = some (c,j) → c.phase = .exited
  answering : ∀ k c j, v.conn k = some (c,j) → c.Answering →
    v.Asked j ∧ v.requests = [] ∧ v.replies = [] ∧
      ∀ k' c' j', v.conn k' = some (c',j') → k' ≠ k → c'.phase = .exited
  refusing : v.Refusing → v.Released
  holds : ∀ k c j, v.conn k = some (c,j) → c.tcpOpen = true →
    c.phase = .connected ∨ c.Served ∧ v.held = some k
  entered : ∀ k, v.held = some k → ∃ c j, v.conn k = some (c,j) ∧ c.Served
  agreed : ∀ k c j, v.conn k = some (c,j) → c.tcpOpen = true →
    (∃ x ∈ v.requests, x.2.type = Protocol.CLOSE) ∨
      v.entry = some j ∧ ∃ o, v.object = some o ∧ (o.phase = .dialling ∨ o.phase = .opened)

/-- Nothing of an OPEN is under way. -/
structure Settled (v : StreamView) : Prop where
  requests : ∀ x ∈ v.requests, x.2.type ≠ Protocol.OPEN
  conns : ∀ k c j, v.conn k = some (c,j) → ¬c.Answering

/-- `closeStream`. -/
def shut (v : StreamView) : StreamView :=
  { v with
    conn := fun k =>
      if v.held = some k then (v.conn k).map fun (c,j) => (AgentTunnel.shutConn c,j) else v.conn k
    held := none }

variable {v : StreamView} {j k : Nat} {c d : TunnelConn} {o : TunnelStream}

/-- A connection that is neither new nor served is shut. -/
theorem InStep.unserved (h : v.InStep) (hk : v.conn k = some (c,j)) (hp : c.phase ≠ .connected)
    (hserved : ¬c.Served) : c.tcpOpen = false := by
  by_contra hopen
  rcases h.holds k c j hk (by simpa using hopen) with hc | ⟨hs,_⟩
  · exact hp hc
  · exact hserved hs

theorem InStep.exited (h : v.InStep) (hk : v.conn k = some (c,j)) (hp : c.phase = .exited) :
    c.tcpOpen = false :=
  h.unserved hk (by simp [hp]) (by simp [TunnelConn.Served,hp])

/-- An object that is not being dialled and unanswered belongs to a settled id. -/
theorem InStep.settled (h : v.InStep) (hasked : ∀ j, ¬v.Asked j) : v.Settled := by
  refine ⟨fun x hx hopen => ?_,fun k c j hk hc => ?_⟩
  · exact hasked _ (h.requested x hx hopen).2.1
  · exact hasked _ (h.answering k c j hk hc).1

theorem InStep.settled_of_reply (h : v.InStep) (hreplies : v.replies ≠ []) : v.Settled := by
  refine ⟨fun x hx hopen => ?_,fun k c j hk hc => ?_⟩
  · exact hreplies (h.requested x hx hopen).2.2.1
  · exact hreplies (h.answering k c j hk hc).2.2.1

/-- A request that is no OPEN comes after all answers. -/
theorem InStep.settled_of_request {x : Nat × Protocol.Frame} {rest : List (Nat × Protocol.Frame)}
    (h : v.InStep) (hr : v.requests = x :: rest) (hx : x.2.type ≠ Protocol.OPEN) : v.Settled := by
  refine ⟨fun y hy hopen => ?_,fun k c j hk hc => ?_⟩
  · have hsingle := (h.requested y hy hopen).1
    rw [hr,List.cons.injEq] at hsingle
    exact hx (hsingle.1 ▸ hopen)
  · exact absurd (hr.symm.trans (h.answering k c j hk hc).2.1) nofun

theorem Released.settled (h : v.Released) : v.Settled :=
  ⟨h.requests,fun k c j hk => (h.conns k c j hk).1⟩

/-- A new stream under an id of which nothing is left. -/
theorem InStep.ask {n : Nat} {reqs : List (Nat × Protocol.Frame)} (h : v.InStep)
    (hreplies : v.replies = []) (hconn : ∀ k c j, v.conn k = some (c,j) → c.phase = .exited)
    (ho : o.result = .pending)
    (hreqs : ∀ x ∈ reqs, reqs = [x] ∧ x.1 = n ∧ o.phase = .dialling) :
    InStep { v with entry := some n, object := some o, requests := reqs } := by
  have hshut : ∀ k c j, v.conn k = some (c,j) → c.tcpOpen = false := fun k c j hk =>
    h.exited hk (hconn k c j hk)
  have hserved : ∀ k c j, v.conn k = some (c,j) → ¬c.Answering ∧ ¬c.Served ∧
      ∀ reason, c.phase ≠ .refused reason := fun k c j hk => by
    simp [TunnelConn.Answering,TunnelConn.Served,hconn k c j hk]
  constructor
  · intro x hx _
    obtain ⟨hsingle,hn,hp⟩ := hreqs x hx
    exact ⟨hsingle,⟨congrArg some hn.symm,o,rfl,hp,ho⟩,hreplies,hconn⟩
  · exact fun k c j hk hc => absurd hc (hserved k c j hk).1
  · rintro (⟨f,hf,_⟩ | ⟨k,c,j,hk,reason,hc⟩ | ⟨o',ho',reason,hr⟩)
    · simp [hreplies] at hf
    · exact absurd hc ((hserved k c j hk).2.2 reason)
    · obtain rfl := Option.some.inj ho'
      exact absurd (ho.symm.trans hr) nofun
  · exact fun k c j hk hopen => absurd ((hshut k c j hk).symm.trans hopen) nofun
  · intro k hk
    obtain ⟨c,j,hc,hs⟩ := h.entered k hk
    exact absurd hs (hserved k c j hc).2.1
  · exact fun k c j hk hopen => absurd ((hshut k c j hk).symm.trans hopen) nofun

/-- The object of the stream changes. -/
theorem InStep.setObject {p : TunnelStream} (h : v.InStep) (ho : v.object = some o)
    (hasked : v.replies = [] → o.phase = .dialling → o.result = .pending →
      p.phase = .dialling ∧ p.result = .pending)
    (herr : ∀ reason, p.result = .err reason → v.Refusing)
    (hagreed : (∃ x ∈ v.requests, x.2.type = Protocol.CLOSE) ∨
      (o.phase = .dialling ∨ o.phase = .opened → p.phase = .dialling ∨ p.phase = .opened)) :
    InStep { v with object := some p } := by
  have hstill : ∀ j, v.replies = [] → v.Asked j → Asked { v with object := some p } j := by
    rintro j hreplies ⟨hentry,o',ho',hphase,hresult⟩
    obtain rfl := Option.some.inj (ho.symm.trans ho')
    obtain ⟨hp,hr⟩ := hasked hreplies hphase hresult
    exact ⟨hentry,p,rfl,hp,hr⟩
  constructor
  · intro x hx hopen
    obtain ⟨hsingle,ha,hreplies,hconn⟩ := h.requested x hx hopen
    exact ⟨hsingle,hstill _ hreplies ha,hreplies,hconn⟩
  · intro k c j hk hc
    obtain ⟨ha,hrequests,hreplies,hconn⟩ := h.answering k c j hk hc
    exact ⟨hstill _ hreplies ha,hrequests,hreplies,hconn⟩
  · rintro (hf | hc | ⟨p',hp',reason,hr⟩)
    · exact ⟨(h.refusing (Or.inl hf)).requests,(h.refusing (Or.inl hf)).conns⟩
    · exact ⟨(h.refusing (Or.inr (Or.inl hc))).requests,(h.refusing (Or.inr (Or.inl hc))).conns⟩
    · obtain rfl := Option.some.inj hp'
      have hrel := h.refusing (herr reason hr)
      exact ⟨hrel.requests,hrel.conns⟩
  · exact h.holds
  · exact h.entered
  · intro k c j hk hopen
    rcases hagreed with hclose | hphase
    · exact Or.inl hclose
    · refine (h.agreed k c j hk hopen).imp_right ?_
      rintro ⟨hentry,o',ho',hp⟩
      obtain rfl := Option.some.inj (ho.symm.trans ho')
      exact ⟨hentry,p,rfl,hphase hp⟩

/-- The table forgets the stream. -/
theorem InStep.forget (h : v.InStep) (hs : v.Settled)
    (hagreed : ∀ k c j, v.conn k = some (c,j) → c.tcpOpen = true →
      ∃ x ∈ v.requests, x.2.type = Protocol.CLOSE) :
    InStep { v with entry := none, object := none } := by
  constructor
  · exact fun x hx hopen => absurd hopen (hs.requests x hx)
  · exact fun k c j hk hc => absurd hc (hs.conns k c j hk)
  · rintro (hf | hc | ⟨o',ho',_⟩)
    · exact ⟨hs.requests,(h.refusing (Or.inl hf)).conns⟩
    · exact ⟨hs.requests,(h.refusing (Or.inr (Or.inl hc))).conns⟩
    · cases ho'
  · exact h.holds
  · exact h.entered
  · exact fun k c j hk hopen => Or.inl (hagreed k c j hk hopen)

/-- A frame of an open stream is sent to the agent. -/
theorem InStep.request {x : Nat × Protocol.Frame} (h : v.InStep) (hs : v.Settled)
    (hx : x.2.type ≠ Protocol.OPEN) : InStep { v with requests := v.requests ++ [x] } := by
  have hrequests : ∀ y ∈ v.requests ++ [x], y.2.type ≠ Protocol.OPEN := by
    intro y hy
    rcases List.mem_append.mp hy with hy | hy
    · exact hs.requests y hy
    · obtain rfl := List.mem_singleton.mp hy
      exact hx
  constructor
  · exact fun y hy hopen => absurd hopen (hrequests y hy)
  · exact fun k c j hk hc => absurd hc (hs.conns k c j hk)
  · exact fun hr => ⟨hrequests,(h.refusing hr).conns⟩
  · exact h.holds
  · exact h.entered
  · intro k c j hk hopen
    refine (h.agreed k c j hk hopen).imp_left ?_
    rintro ⟨y,hy,hclose⟩
    exact ⟨y,List.mem_append_left _ hy,hclose⟩

/-- The control plane has handled its next frame. -/
theorem InStep.replied {f : Protocol.Frame} {rest : List Protocol.Frame} (h : v.InStep)
    (hr : v.replies = f :: rest) : InStep { v with replies := rest } := by
  have hs : v.Settled := h.settled_of_reply (by simp [hr])
  constructor
  · exact fun x hx hopen => absurd hopen (hs.requests x hx)
  · exact fun k c j hk hc => absurd hc (hs.conns k c j hk)
  · rintro (⟨g,hg,herr⟩ | hc | ho)
    · have hrel := h.refusing (Or.inl ⟨g,by simp [hr,hg],herr⟩)
      exact ⟨hrel.requests,hrel.conns⟩
    · exact ⟨hs.requests,(h.refusing (Or.inr (Or.inl hc))).conns⟩
    · exact ⟨hs.requests,(h.refusing (Or.inr (Or.inr ho))).conns⟩
  · exact h.holds
  · exact h.entered
  · exact h.agreed

/-- The agent queues a frame, or drops it. -/
theorem InStep.reply {fs : List Protocol.Frame} (h : v.InStep) (hs : v.Settled)
    (herr : ∀ f ∈ fs, f.type = Protocol.OPEN_ERR → v.Released) :
    InStep { v with replies := v.replies ++ fs } := by
  constructor
  · exact fun x hx hopen => absurd hopen (hs.requests x hx)
  · exact fun k c j hk hc => absurd hc (hs.conns k c j hk)
  · rintro (⟨g,hg,htype⟩ | hc | ho)
    · rcases List.mem_append.mp hg with hg | hg
      · have hrel := h.refusing (Or.inl ⟨g,hg,htype⟩)
        exact ⟨hrel.requests,hrel.conns⟩
      · exact ⟨hs.requests,(herr g hg htype).conns⟩
    · exact ⟨hs.requests,(h.refusing (Or.inr (Or.inl hc))).conns⟩
    · exact ⟨hs.requests,(h.refusing (Or.inr (Or.inr ho))).conns⟩
  · exact h.holds
  · exact h.entered
  · exact h.agreed

theorem shut_conn {k : Nat} (hk : v.shut.conn k = some (c,j)) :
    ∃ d, v.conn k = some (d,j) ∧ c.phase = d.phase ∧ (c.tcpOpen = true → d.tcpOpen = true) ∧
      (v.held = some k → c.tcpOpen = false) := by
  simp only [shut] at hk
  split at hk
  · obtain ⟨⟨d,j'⟩,hd,heq⟩ := Option.map_eq_some_iff.mp hk
    obtain ⟨rfl,rfl⟩ := Prod.mk.inj heq
    exact ⟨d,hd,rfl,nofun,fun _ => rfl⟩
  · next hne => exact ⟨c,hk,rfl,fun h => h,fun h => absurd h hne⟩

theorem answering_congr (h : c.phase = d.phase) : c.Answering ↔ d.Answering := by
  rw [TunnelConn.Answering,TunnelConn.Answering,h]

theorem Released.shut (h : v.Released) : v.shut.Released := by
  refine ⟨h.requests,fun k c j hk => ?_⟩
  obtain ⟨d,hd,hphase,hopen,_⟩ := shut_conn hk
  obtain ⟨hans,hclosed⟩ := h.conns k d j hd
  refine ⟨fun hc => hans ((answering_congr hphase).mp hc),?_⟩
  by_contra hc
  exact absurd (hclosed.symm.trans (hopen (by simpa using hc))) nofun

theorem InStep.shut (h : v.InStep) : v.shut.InStep := by
  have hconn : ∀ k c j, v.shut.conn k = some (c,j) → ∃ d, v.conn k = some (d,j) ∧
      c.phase = d.phase := fun k c j hk => by
    obtain ⟨d,hd,hphase,_⟩ := shut_conn hk
    exact ⟨d,hd,hphase⟩
  constructor
  · intro x hx hopen
    obtain ⟨hsingle,ha,hreplies,hexit⟩ := h.requested x hx hopen
    refine ⟨hsingle,ha,hreplies,fun k c j hk => ?_⟩
    obtain ⟨d,hd,hphase⟩ := hconn k c j hk
    exact hphase.trans (hexit k d j hd)
  · intro k c j hk hc
    obtain ⟨d,hd,hphase⟩ := hconn k c j hk
    obtain ⟨ha,hrequests,hreplies,hexit⟩ := h.answering k d j hd ((answering_congr hphase).mp hc)
    refine ⟨ha,hrequests,hreplies,fun k' c' j' hk' hne => ?_⟩
    obtain ⟨d',hd',hphase'⟩ := hconn k' c' j' hk'
    exact hphase'.trans (hexit k' d' j' hd' hne)
  · intro hr
    refine (h.refusing ?_).shut
    rcases hr with hf | ⟨k,c,j,hk,reason,hc⟩ | ho
    · exact Or.inl hf
    · obtain ⟨d,hd,hphase⟩ := hconn k c j hk
      exact Or.inr (Or.inl ⟨k,d,j,hd,reason,hphase.symm.trans hc⟩)
    · exact Or.inr (Or.inr ho)
  · intro k c j hk hopen
    obtain ⟨d,hd,hphase,hwas,hheld⟩ := shut_conn hk
    rcases h.holds k d j hd (hwas hopen) with hc | ⟨_,hkept⟩
    · exact Or.inl (hphase.trans hc)
    · exact absurd ((hheld hkept).symm.trans hopen) nofun
  · exact nofun
  · intro k c j hk hopen
    obtain ⟨d,hd,_,hwas,_⟩ := shut_conn hk
    exact h.agreed k d j hd (hwas hopen)

theorem update_conn {k' : Nat} {c' : TunnelConn} {j' : Nat}
    (h : Function.update v.conn k (some (d,j)) k' = some (c',j')) :
    (k' = k ∧ c' = d ∧ j' = j) ∨ (k' ≠ k ∧ v.conn k' = some (c',j')) := by
  by_cases hk : k' = k
  · subst hk
    rw [Function.update_self,Option.some.injEq,Prod.mk.injEq] at h
    exact Or.inl ⟨rfl,h.1.symm,h.2.symm⟩
  · rw [Function.update_of_ne hk] at h
    exact Or.inr ⟨hk,h⟩

theorem InStep.served (h : v.InStep) (hk : v.conn k = some (c,j)) (hheld : v.held = some k) :
    c.Served := by
  obtain ⟨c',j',hk',hs⟩ := h.entered k hheld
  obtain rfl := (Prod.mk.inj (Option.some.inj (hk.symm.trans hk'))).1
  exact hs

/-- A goroutine that has not exited is the only one of the id that may have to answer. -/
theorem InStep.alone {k' : Nat} {c' : TunnelConn} {j' : Nat} (h : v.InStep)
    (hk : v.conn k = some (c,j)) (hexit : c.phase ≠ .exited) (hk' : v.conn k' = some (c',j'))
    (hc' : c'.Answering) : k' = k := by
  by_contra hne
  exact hexit ((h.answering k' c' j' hk' hc').2.2.2 k c j hk fun he => hne he.symm)

/-- The goroutine of a connection takes a step. -/
theorem InStep.setConn {held : Option Nat} (h : v.InStep) (hk : v.conn k = some (c,j))
    (hexit : c.phase ≠ .exited) (hans : d.Answering → c.Answering)
    (href : ∀ reason, d.phase = .refused reason →
      (∃ reason, c.phase = .refused reason) ∨ c.phase = .dialling)
    (hholds : d.tcpOpen = true → d.phase = .connected ∨ d.Served ∧ held = some k)
    (hopened : d.tcpOpen = true → c.tcpOpen = true ∨ c.Answering)
    (hheld : held = v.held ∧ (v.held = some k → d.Served) ∨
      held = some k ∧ d.Served ∧ c.Answering) :
    InStep { v with conn := Function.update v.conn k (some (d,j)), held } := by
  have hreleased : v.Released →
      Released { v with conn := Function.update v.conn k (some (d,j)), held } := by
    intro hr
    refine ⟨hr.requests,fun k' c' j' hk' => ?_⟩
    rcases update_conn hk' with ⟨rfl,rfl,rfl⟩ | ⟨_,hk'⟩
    · obtain ⟨hna,hclosed⟩ := hr.conns _ c _ hk
      refine ⟨fun hd => hna (hans hd),?_⟩
      by_contra hopen
      rcases hopened (by simpa using hopen) with hc | hc
      · exact absurd (hclosed.symm.trans hc) nofun
      · exact hna hc
    · exact hr.conns k' c' j' hk'
  constructor
  · exact fun x hx hopen => absurd ((h.requested x hx hopen).2.2.2 k c j hk) hexit
  · intro k' c' j' hk' hc'
    rcases update_conn hk' with ⟨rfl,rfl,rfl⟩ | ⟨hne,hk'⟩
    · obtain ⟨ha,hrequests,hreplies,hothers⟩ := h.answering _ c _ hk (hans hc')
      refine ⟨ha,hrequests,hreplies,fun k₂ c₂ j₂ hk₂ hne => ?_⟩
      rcases update_conn hk₂ with ⟨rfl,_,_⟩ | ⟨_,hk₂⟩
      · exact absurd rfl hne
      · exact hothers k₂ c₂ j₂ hk₂ hne
    · exact absurd (h.alone hk hexit hk' hc') hne
  · rintro (hf | ⟨k',c',j',hk',reason,hc⟩ | ho)
    · exact hreleased (h.refusing (Or.inl hf))
    · rcases update_conn hk' with ⟨rfl,rfl,rfl⟩ | ⟨_,hk'⟩
      · rcases href reason hc with hc₀ | hc₀
        · exact hreleased (h.refusing (Or.inr (Or.inl ⟨_,c,_,hk,hc₀⟩)))
        · obtain ⟨_,hrequests,_,hothers⟩ := h.answering _ c _ hk
            (by simp [TunnelConn.Answering,hc₀])
          refine ⟨by simp [hrequests],fun k₂ c₂ j₂ hk₂ => ?_⟩
          rcases update_conn hk₂ with ⟨rfl,rfl,rfl⟩ | ⟨hne,hk₂⟩
          · refine ⟨by simp [TunnelConn.Answering,hc],?_⟩
            by_contra hopen
            rcases hholds (by simpa using hopen) with hd | ⟨hd,_⟩
            · exact absurd (hc.symm.trans hd) nofun
            · simp [TunnelConn.Served,hc] at hd
          · have hexited := hothers k₂ c₂ j₂ hk₂ hne
            exact ⟨by simp [TunnelConn.Answering,hexited],h.exited hk₂ hexited⟩
      · exact hreleased (h.refusing (Or.inr (Or.inl ⟨k',c',j',hk',reason,hc⟩)))
    · exact hreleased (h.refusing (Or.inr (Or.inr ho)))
  · intro k' c' j' hk' hopen
    rcases update_conn hk' with ⟨rfl,rfl,rfl⟩ | ⟨hne,hold⟩
    · exact hholds hopen
    · rcases hheld with ⟨rfl,_⟩ | ⟨_,_,hc⟩
      · exact h.holds k' c' j' hold hopen
      · have hexited := (h.answering k c j hk hc).2.2.2 k' c' j' hold hne
        exact absurd ((h.exited hold hexited).symm.trans hopen) nofun
  · intro k' hk'
    by_cases hne : k' = k
    · subst hne
      rcases hheld with ⟨rfl,hserved⟩ | ⟨_,hserved,_⟩
      · exact ⟨d,j,Function.update_self ..,hserved hk'⟩
      · exact ⟨d,j,Function.update_self ..,hserved⟩
    · rcases hheld with ⟨rfl,_⟩ | ⟨rfl,_⟩
      · obtain ⟨c',j',hc',hs⟩ := h.entered k' hk'
        exact ⟨c',j',(Function.update_of_ne hne ..).trans hc',hs⟩
      · exact absurd (Option.some.inj hk').symm hne
  · intro k' c' j' hk' hopen
    rcases update_conn hk' with ⟨rfl,rfl,rfl⟩ | ⟨_,hk'⟩
    · rcases hopened hopen with hc | hc
      · exact h.agreed _ c _ hk hc
      · obtain ⟨⟨hentry,o,ho,hphase,_⟩,_⟩ := h.answering _ c _ hk hc
        exact Or.inr ⟨hentry,o,ho,Or.inl hphase⟩
    · exact h.agreed k' c' j' hk' hopen

theorem InStep.settled_setConn (h : v.InStep) (hk : v.conn k = some (c,j))
    (hexit : c.phase ≠ .exited) (hd : ¬d.Answering) :
    Settled { v with conn := Function.update v.conn k (some (d,j)) } := by
  refine ⟨fun x hx hopen => hexit ((h.requested x hx hopen).2.2.2 k c j hk),?_⟩
  intro k' c' j' hk' hc'
  rcases update_conn hk' with ⟨rfl,rfl,rfl⟩ | ⟨hne,hold⟩
  · exact hd hc'
  · exact hne (h.alone hk hexit hold hc')

theorem Released.setConn (h : v.Released) (hd : ¬d.Answering) (hclosed : d.tcpOpen = false) :
    Released { v with conn := Function.update v.conn k (some (d,j)) } := by
  refine ⟨h.requests,fun k' c' j' hk' => ?_⟩
  rcases update_conn hk' with ⟨rfl,rfl,rfl⟩ | ⟨_,hold⟩
  · exact ⟨hd,hclosed⟩
  · exact h.conns k' c' j' hold

/-- A step between two phases in which the connection is served. -/
theorem InStep.serve (h : v.InStep) (hk : v.conn k = some (c,j)) (hc : c.Served)
    (hd : d.Served) (hans : d.Answering → c.Answering) (hopen : d.tcpOpen = c.tcpOpen) :
    InStep { v with conn := Function.update v.conn k (some (d,j)) } := by
  have hexit : c.phase ≠ .exited := fun hp => by simp [TunnelConn.Served,hp] at hc
  refine h.setConn hk hexit hans (fun reason hp => ?_) (fun ho => ?_)
    (fun ho => Or.inl (hopen ▸ ho)) (Or.inl ⟨rfl,fun _ => hd⟩)
  · simp [TunnelConn.Served,hp] at hd
  · rcases h.holds k c j hk (hopen ▸ ho) with hp | ⟨_,hheld⟩
    · simp [TunnelConn.Served,hp] at hc
    · exact Or.inr ⟨hd,hheld⟩

/-- The agent begins to dial for an OPEN. -/
theorem InStep.accept {n : Nat} {x : Nat × Protocol.Frame} {rest : List (Nat × Protocol.Frame)}
    (h : v.InStep) (hr : v.requests = x :: rest) (hx : x.2.type = Protocol.OPEN)
    (hd : d.phase = .dialling) (hclosed : d.tcpOpen = false) :
    InStep { v with requests := rest, conn := Function.update v.conn n (some (d,x.1)) } := by
  obtain ⟨hsingle,hasked,hreplies,hexit⟩ := h.requested x (by simp [hr]) hx
  obtain rfl : rest = [] := by simpa [hr] using hsingle
  have hold : ∀ k c j, v.conn k = some (c,j) → ¬c.Answering ∧ ¬c.Served ∧
      (∀ reason, c.phase ≠ .refused reason) ∧ c.tcpOpen = false := fun k c j hk => by
    have he := hexit k c j hk
    exact ⟨by simp [TunnelConn.Answering,he],by simp [TunnelConn.Served,he],by simp [he],
      h.exited hk he⟩
  constructor
  · simp
  · intro k c j hk hc
    rcases update_conn hk with ⟨rfl,rfl,rfl⟩ | ⟨_,hk⟩
    · refine ⟨hasked,rfl,hreplies,fun k' c' j' hk' hne => ?_⟩
      rcases update_conn hk' with ⟨rfl,_,_⟩ | ⟨_,hk'⟩
      · exact absurd rfl hne
      · exact hexit k' c' j' hk'
    · exact absurd hc (hold k c j hk).1
  · rintro (⟨f,hf,_⟩ | ⟨k,c,j,hk,reason,hc⟩ | ⟨o,ho,reason,hres⟩)
    · simp [hreplies] at hf
    · rcases update_conn hk with ⟨rfl,rfl,rfl⟩ | ⟨_,hk⟩
      · exact absurd (hd.symm.trans hc) nofun
      · exact absurd hc ((hold k c j hk).2.2.1 reason)
    · obtain ⟨_,o',ho',_,hpending⟩ := hasked
      obtain rfl := Option.some.inj (ho'.symm.trans ho)
      exact absurd (hpending.symm.trans hres) nofun
  · intro k c j hk hopen
    rcases update_conn hk with ⟨rfl,rfl,rfl⟩ | ⟨_,hk⟩
    · exact absurd (hclosed.symm.trans hopen) nofun
    · exact absurd ((hold k c j hk).2.2.2.symm.trans hopen) nofun
  · intro k hk
    obtain ⟨c,j,hc,hs⟩ := h.entered k hk
    exact absurd hs (hold k c j hc).2.1
  · intro k c j hk hopen
    rcases update_conn hk with ⟨rfl,rfl,rfl⟩ | ⟨_,hk⟩
    · exact absurd (hclosed.symm.trans hopen) nofun
    · exact absurd ((hold k c j hk).2.2.2.symm.trans hopen) nofun

/-- The agent refuses an OPEN. -/
theorem InStep.refuse {x : Nat × Protocol.Frame} {rest : List (Nat × Protocol.Frame)}
    (h : v.InStep) (hr : v.requests = x :: rest) (hx : x.2.type = Protocol.OPEN) :
    InStep { v with requests := rest } ∧ Released { v with requests := rest } := by
  obtain ⟨hsingle,_,hreplies,hexit⟩ := h.requested x (by simp [hr]) hx
  obtain rfl : rest = [] := by simpa [hr] using hsingle
  have hreleased : Released { v with requests := [] } := by
    refine ⟨by simp,fun k c j hk => ?_⟩
    have he := hexit k c j hk
    exact ⟨by simp [TunnelConn.Answering,he],h.exited hk he⟩
  refine ⟨⟨by simp,?_,fun _ => hreleased,h.holds,h.entered,?_⟩,hreleased⟩
  · exact fun k c j hk hc => absurd hc (hreleased.conns k c j hk).1
  · exact fun k c j hk hopen => absurd ((hreleased.conns k c j hk).2.symm.trans hopen) nofun

/-- The agent has taken a frame that is no OPEN; for a CLOSE its table has been cleared. -/
theorem InStep.pop {x : Nat × Protocol.Frame} {rest : List (Nat × Protocol.Frame)} (h : v.InStep)
    (hr : v.requests = x :: rest) (hx : x.2.type ≠ Protocol.OPEN)
    (hclose : x.2.type = Protocol.CLOSE → v.held = none) :
    InStep { v with requests := rest } := by
  have hs := h.settled_of_request hr hx
  have hrest : ∀ y ∈ rest, y.2.type ≠ Protocol.OPEN := fun y hy => hs.requests y (by simp [hr,hy])
  constructor
  · exact fun y hy hopen => absurd hopen (hrest y hy)
  · exact fun k c j hk hc => absurd hc (hs.conns k c j hk)
  · exact fun hf => ⟨hrest,(h.refusing hf).conns⟩
  · exact h.holds
  · exact h.entered
  · intro k c j hk hopen
    rcases h.agreed k c j hk hopen with ⟨y,hy,hcl⟩ | hagreed
    · rw [hr] at hy
      rcases List.mem_cons.mp hy with rfl | hy
      · rcases h.holds k c j hk hopen with hc | ⟨_,hheld⟩
        · exact absurd (by simp [TunnelConn.Answering,hc]) (hs.conns k c j hk)
        · exact absurd ((hclose hcl).symm.trans hheld) nofun
      · exact Or.inl ⟨y,hy,hcl⟩
    · exact Or.inr hagreed

end StreamView

end Nexplane
