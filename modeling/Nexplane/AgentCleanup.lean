import Nexplane.AgentTunnel

set_option autoImplicit false

/-! The sends of the agent's goroutines around the cleanup of their tunnel connection. -/

namespace Nexplane
open Text Runs Lists

/-- The goroutine has made its last send. -/
def TunnelConn.sendsDone (c : TunnelConn) : Prop := c.phase = .closing ∨ c.phase = .exited

/-- The connection ends only when every goroutine has made its last send. -/
def EndsWhenSent (s : AgentTunnel) : AgentTunnelEvent → Prop
  | .loopEnds => ∀ c ∈ s.conns, c.sendsDone
  | _ => True

/-- Once the channel is closed nobody is left who would send. -/
structure SendersGone (s : AgentTunnel) : Prop where
  alive : s.panicked = false
  loop : s.chClosed = true → s.loop ≠ .running
  conns : s.chClosed = true → ∀ c ∈ s.conns, c.sendsDone

section Steps

variable {isAllowed : Bytes → Int → Bool} {s s' : AgentTunnel} {k : Nat} {c c' : TunnelConn}
  {e : AgentTunnelEvent}

variable (isAllowed) in
theorem onFrame_frame' (f : Protocol.Frame) (writeOk : Bool) (hc : s.chClosed = false) :
    (s.onFrame isAllowed f writeOk).chClosed = false ∧
      (s.onFrame isAllowed f writeOk).panicked = s.panicked := by
  unfold AgentTunnel.onFrame
  split
  · split
    · exact ⟨by simp [hc],sendFrame_panicked _ _ _ _ _ hc⟩
    · split
      · exact ⟨by simp [hc],sendFrame_panicked _ _ _ _ _ hc⟩
      · exact ⟨hc,rfl⟩
  · split
    · split
      · exact ⟨hc,rfl⟩
      · split
        · exact ⟨hc,rfl⟩
        · have hclosed : (s.closeStream f.streamId).chClosed = false := by simp [hc]
          exact ⟨by simp [hc],by rw [sendFrame_panicked _ _ _ _ _ hclosed]; simp⟩
    · split
      · exact ⟨by simp [hc],by simp⟩
      · exact ⟨hc,rfl⟩

theorem sendsDone_closeStream (h : ∀ c ∈ s.conns, c.sendsDone) (id : Int) :
    ∀ c ∈ (s.closeStream id).conns, c.sendsDone := by
  intro c' hm
  obtain ⟨j,hj⟩ := List.mem_iff_getElem?.mp hm
  obtain ⟨c,hc,rfl⟩ := closeStream_conn s id hj
  have hd := h c (List.mem_of_getElem? hc)
  split
  · exact hd
  · exact hd

/-- A goroutine past its last send can only close its stream and exit. -/
theorem connStep_sendsDone (hc : c.sendsDone) (h : connStep s k c e = some s') :
    s' = (s.setConn k { c with phase := .exited }).closeStream c.streamId := by
  rcases hc with hp | hp
  · cases e <;> simp [connStep,hp] at h
    exact h.symm
  · cases e <;> simp [connStep,hp] at h

theorem sendersGone_step (hI : SendersGone s) (hg : EndsWhenSent s e)
    (h : agentTunnelStep isAllowed s e = some s') : SendersGone s' := by
  obtain ⟨halive,h⟩ := agentTunnelStep_some.mp h
  cases e with
  | receive f writeOk =>
    simp only [liveStep,Option.ite_none_right_eq_some,Option.some.injEq] at h
    obtain ⟨hrun,rfl⟩ := h
    have hopen : s.chClosed = false := by
      cases hc : s.chClosed with
      | false => rfl
      | true => exact absurd hrun (hI.loop hc)
    obtain ⟨hclosed,hpanic⟩ := onFrame_frame' isAllowed f writeOk hopen
    exact ⟨hpanic.trans halive,fun hc => absurd (hclosed.symm.trans hc) (by decide),
      fun hc => absurd (hclosed.symm.trans hc) (by decide)⟩
  | loopEnds =>
    simp only [liveStep,Option.ite_none_right_eq_some,Option.some.injEq] at h
    obtain ⟨_,rfl⟩ := h
    exact ⟨halive,fun _ => nofun,fun _ => hg⟩
  | writerTakes =>
    simp only [liveStep] at h
    split at h
    · obtain rfl := Option.some.inj h
      exact ⟨halive,hI.loop,hI.conns⟩
    · cases h
  | writerWrites | writerFails =>
    simp only [liveStep] at h
    split at h
    · obtain rfl := Option.some.inj h
      exact ⟨halive,hI.loop,hI.conns⟩
    · cases h
  | writerFinishes =>
    simp only [liveStep,Option.ite_none_right_eq_some,Option.some.injEq] at h
    obtain ⟨_,rfl⟩ := h
    exact ⟨halive,hI.loop,hI.conns⟩
  | connsClosed =>
    simp only [liveStep,Option.ite_none_right_eq_some,Option.some.injEq] at h
    obtain ⟨_,rfl⟩ := h
    refine ⟨halive,fun _ => nofun,fun hc c' hm => ?_⟩
    obtain ⟨j,hj⟩ := List.mem_iff_getElem?.mp hm
    obtain ⟨c,hcj,rfl⟩ := closeConns_conn s hj
    have hd := hI.conns hc c (List.mem_of_getElem? hcj)
    split
    · exact hd
    · exact hd
  | dialSucceeds | dialFails | sendRefusal | store | sendOpenOk | read | sendData | sendClose
  | closeOwn =>
    obtain ⟨c,hk,h⟩ := Option.bind_eq_some_iff.mp h
    obtain ⟨hclosed,hloop,_,hpanic⟩ := connStep_frame h
    cases hc : s.chClosed with
    | false =>
      rw [hc] at hclosed
      exact ⟨(hpanic hc).trans halive,fun hc' => absurd (hclosed.symm.trans hc') (by decide),
        fun hc' => absurd (hclosed.symm.trans hc') (by decide)⟩
    | true =>
      have hdone := hI.conns hc c (List.mem_of_getElem? hk)
      obtain rfl := connStep_sendsDone hdone h
      refine ⟨by simpa using halive,fun _ => by simpa using hI.loop hc,fun _ => ?_⟩
      refine sendsDone_closeStream (fun c' hm => ?_) _
      rcases mem_set_cases hm with rfl | hm
      · exact Or.inr rfl
      · exact hI.conns hc c' hm

theorem sendersGone_inductive :
    InductiveUnder (agentTunnelSystem isAllowed) EndsWhenSent SendersGone where
  start := by
    rintro s rfl
    exact ⟨rfl,nofun,nofun⟩
  step _ _ _ hI hg h := sendersGone_step hI hg h

variable (isAllowed) in
/-- A goroutine about to send on the closed channel. -/
theorem sender_panics (hp : s.panicked = false) (hc : s.chClosed = true)
    (hk : s.conns[k]? = some c)
    (hphase : (∃ reason, c.phase = .refused reason) ∨ c.phase = .stored ∨
      (∃ data failed, c.phase = .chunk data failed) ∨ c.phase = .failing) :
    ∃ e s', agentTunnelStep isAllowed s e = some s' ∧ s'.panicked = true := by
  have hsend : ∀ e c' owner id typ payload,
      liveStep isAllowed s e = (s.conns[k]?).bind (connStep s k · e) →
      connStep s k c e = some ((s.setConn k c').sendFrame owner id typ payload) →
      ∃ e s', agentTunnelStep isAllowed s e = some s' ∧ s'.panicked = true := by
    intro e c' owner id typ payload hlive hconn
    refine ⟨e,_,agentTunnelStep_some.mpr ⟨hp,?_⟩,
      sendFrame_panics (s.setConn k c') owner id typ payload hc⟩
    rw [hlive,hk,Option.bind_some,hconn]
  obtain ⟨id,phase,tcpOpen,bytesRead,bytesWritten⟩ := c
  rcases hphase with ⟨reason,rfl⟩ | rfl | ⟨data,failed,rfl⟩ | rfl
  · exact hsend (.sendRefusal k) _ _ _ _ _ rfl rfl
  · exact hsend (.sendOpenOk k) _ _ _ _ _ rfl rfl
  · exact hsend (.sendData k) _ _ _ _ _ rfl rfl
  · exact hsend (.sendClose k) _ _ _ _ _ rfl rfl

variable (isAllowed) in
/-- A goroutine with a send ahead gets to it, whatever the others do. -/
theorem unsent_panics (hp : s.panicked = false) (hc : s.chClosed = true)
    (hk : s.conns[k]? = some c) (hsend : ¬c.sendsDone) :
    ∃ evs s', (agentTunnelSystem isAllowed).replay s evs = some s' ∧ s'.panicked = true := by
  have hlt := (List.getElem?_eq_some_iff.mp hk).1
  have hset : ∀ c', (s.setConn k c').conns[k]? = some c' := fun c' => by simp [hlt]
  -- the events up to the send, by the phase the goroutine is in
  have hone : ∀ e s' e', agentTunnelStep isAllowed s e = some s' →
      (∃ s'', agentTunnelStep isAllowed s' e' = some s'' ∧ s''.panicked = true) →
      ∃ evs s', (agentTunnelSystem isAllowed).replay s evs = some s' ∧ s'.panicked = true := by
    rintro e s' e' he ⟨s'',he',hpanic⟩
    exact ⟨[e,e'],s'',by simp [System.replay,agentTunnelSystem,he,he'],hpanic⟩
  cases hphase : c.phase with
  | refused | stored | chunk | failing =>
    obtain ⟨e,s',he,hpanic⟩ := sender_panics isAllowed hp hc hk
      (by simp [hphase])
    exact ⟨[e],s',by simp [System.replay,agentTunnelSystem,he],hpanic⟩
  | dialling =>
    have he : agentTunnelStep isAllowed s (.dialFails k []) =
        some (s.setConn k { c with phase := .refused [] }) :=
      agentTunnelStep_some.mpr ⟨hp,by simp [liveStep,hk,connStep,hphase]⟩
    obtain ⟨e',s'',he'⟩ := sender_panics isAllowed
      (s := s.setConn k { c with phase := .refused [] }) hp hc (hset _) (Or.inl ⟨[],rfl⟩)
    exact hone _ _ e' he ⟨s'',he'⟩
  | connected =>
    have he : agentTunnelStep isAllowed s (.store k) = some _ :=
      agentTunnelStep_some.mpr ⟨hp,by simp only [liveStep,hk,Option.bind_some,connStep,hphase]; rfl⟩
    obtain ⟨e',s'',he'⟩ := sender_panics isAllowed
      (s := { s.setConn k { c with phase := .stored } with
        streams := Function.update s.streams c.streamId (some k) })
      hp hc (hset _) (Or.inr (Or.inl rfl))
    exact hone _ _ e' he ⟨s'',he'⟩
  | reading =>
    have he : agentTunnelStep isAllowed s (.read k [] true) =
        some (s.setConn k { c with phase := .failing, bytesRead := c.bytesRead ++ [] }) :=
      agentTunnelStep_some.mpr
        ⟨hp,by simp [liveStep,hk,connStep,hphase,TunnelConn.mayRead]⟩
    obtain ⟨e',s'',he'⟩ := sender_panics isAllowed
      (s := s.setConn k { c with phase := .failing, bytesRead := c.bytesRead ++ [] }) hp hc
      (hset _) (Or.inr (Or.inr (Or.inr rfl)))
    exact hone _ _ e' he ⟨s'',he'⟩
  | closing => exact absurd (Or.inl hphase) hsend
  | exited => exact absurd (Or.inr hphase) hsend

end Steps

/-- No send meets the closed channel when the connection ends only after every goroutine has made
its last send; ended earlier, it lets a goroutine panic. -/
theorem no_send_after_close {isAllowed : Bytes → Int → Bool}
    {tr : List (Transition AgentTunnel AgentTunnelEvent)} {s : AgentTunnel}
    (h : Run (agentTunnelSystem isAllowed) tr s) (hg : ∀ t ∈ tr, EndsWhenSent t.pre t.label) :
    s.panicked = false ∧
      (s.loop = .running → ¬EndsWhenSent s .loopEnds →
        ∃ evs s', (agentTunnelSystem isAllowed).replay s (.loopEnds :: evs) = some s' ∧
          s'.panicked = true) := by
  have hgone := h.guarded sendersGone_inductive hg
  refine ⟨hgone.alive,fun hloop hends => ?_⟩
  obtain ⟨c,hm,hsend⟩ : ∃ c ∈ s.conns, ¬c.sendsDone := by simpa [EndsWhenSent] using hends
  obtain ⟨k,hk⟩ := List.mem_iff_getElem?.mp hm
  have hstep : agentTunnelStep isAllowed s .loopEnds =
      some { s with chClosed := true, loop := .draining } :=
    agentTunnelStep_some.mpr ⟨hgone.alive,by simp [liveStep,hloop]⟩
  obtain ⟨evs,s',hreplay,hpanic⟩ := unsent_panics isAllowed
    (s := { s with chClosed := true, loop := .draining }) hgone.alive rfl hk hsend
  refine ⟨evs,s',?_,hpanic⟩
  simpa [System.replay,agentTunnelSystem,hstep] using hreplay

section Examples

/-- The cleanup closes the connection of an open stream, whose `Read` then fails. -/
def endsUnderStream : List AgentTunnelEvent :=
  [.receive openDb true,.dialSucceeds 0,.store 0,.sendOpenOk 0,.loopEnds,.writerTakes,
    .writerWrites,.writerFinishes,.connsClosed,.read 0 [] true,.sendClose 0]

/-- The stream is closed by its TCP peer before the connection ends. -/
def endsAfterStream : List AgentTunnelEvent :=
  [.receive openDb true,.dialSucceeds 0,.store 0,.sendOpenOk 0,.read 0 [1] true,.sendData 0,
    .sendClose 0,.writerTakes,.writerWrites,.loopEnds,.closeOwn 0]

theorem open_stream_panics : ∃ tr s, Run (agentTunnelSystem allowEveryHost) tr s ∧
    s.chClosed = true ∧ s.panicked = true := by
  have hrun : (agentTunnelSystem allowEveryHost).replay AgentTunnel.new endsUnderStream =
      some _ := rfl
  exact ⟨_,_,(Run.start rfl).replay hrun,rfl,rfl⟩

theorem closed_stream_ends : ∃ tr s, Run (agentTunnelSystem allowEveryHost) tr s ∧
    tr.length = 11 ∧ s.chClosed = true ∧ s.panicked = false := by
  have hrun : (agentTunnelSystem allowEveryHost).replay AgentTunnel.new endsAfterStream =
      some _ := rfl
  have h := (Run.start rfl).replay hrun
  have hmeets : (agentTunnelSystem allowEveryHost).Meets EndsWhenSent AgentTunnel.new
      endsAfterStream := by
    refine ⟨trivial,trivial,trivial,trivial,trivial,trivial,trivial,trivial,trivial,?_,
      trivial,trivial⟩
    rintro c hm
    obtain rfl := List.mem_singleton.mp hm
    exact Or.inl rfl
  exact ⟨_,_,h,rfl,rfl,(no_send_after_close h (System.history_meets hmeets (by simp))).1⟩

end Examples
end Nexplane
