import Nexplane.SessionShutdown

set_option autoImplicit false

/-! What a reader obtains from a stream of a tunnel session, against the DATA frames that came for
the stream before its end. -/

namespace Nexplane
open Text Runs

/-- What reads return before the first empty chunk, in one. -/
def chunks (rq : List Bytes) : Bytes := (rq.takeWhile (· ≠ [])).flatten

/-- The payloads that have come for a stream, and whether it has ended. -/
structure Reception where
  payloads : Bytes
  ended : Bool
  deriving DecidableEq, Repr

/-- A DATA frame for the stream counts until a CLOSE for it, the end of the session, its own close
or the failure of its dial. -/
def Reception.after (r : Reception) (s : TunnelSession) (k : Nat) (e : TaskEvent) : Reception :=
  if r.ended then r
  else
    match s.objects[k]? with
    | none => r
    | some o =>
      match e with
      | .session (.receive data) =>
        match Protocol.decode data with
        | .error _ => { r with ended := true }
        | .ok frame =>
          if frame.streamId ≠ o.streamId then r
          else if frame.type = Protocol.DATA then { r with payloads := r.payloads ++ frame.payload }
          else if frame.type = Protocol.CLOSE then { r with ended := true }
          else r
      | .session .transportCloses => { r with ended := true }
      | .session (.closeEnds j) | .session (.dialRefused j) | .session (.dialTimesOut j) =>
        if j = k then { r with ended := true } else r
      | _ => r

/-- What the steps of a run, newest first, have brought for the stream of dial `k`. -/
def reception (k : Nat) : List (Transition TunnelSession TaskEvent) → Reception
  | [] => ⟨[],false⟩
  | t :: tr => (reception k tr).after t.pre k t.label

/-- An empty DATA frame comes only for streams that have ended. -/
def NoEmptyData (s : TunnelSession) : TaskEvent → Prop
  | .session (.receive data) => ∀ frame, Protocol.decode data = .ok frame →
      frame.type = Protocol.DATA → frame.payload = [] → ∀ (k : Nat) o,
        s.streams frame.streamId = some k → s.objects[k]? = some o → [] ∈ o.rq
  | _ => True

def CleanStep (s : TunnelSession) (e : TaskEvent) : Prop := FreshDial s e ∧ NoEmptyData s e

section Chunks

variable {rq t : List Bytes}

theorem chunks_cons (d : Bytes) (rq : List Bytes) :
    chunks (d :: rq) = if d = [] then [] else d ++ chunks rq := by
  by_cases hd : d = [] <;> simp [chunks,hd]

theorem chunks_append_of_mem (h : [] ∈ rq) : chunks (rq ++ t) = chunks rq := by
  induction rq with
  | nil => cases h
  | cons d rq ih =>
    simp only [List.cons_append,chunks_cons]
    split
    · rfl
    · next hd => rw [ih (by simpa [Ne.symm hd] using h)]

theorem chunks_append_of_notMem (h : [] ∉ rq) : chunks (rq ++ t) = chunks rq ++ chunks t := by
  induction rq with
  | nil => rfl
  | cons d rq ih =>
    simp only [List.mem_cons,not_or] at h
    simp [chunks_cons,Ne.symm h.1,ih h.2]

theorem chunks_singleton (d : Bytes) : chunks [d] = d := by
  by_cases hd : d = [] <;> simp [chunks,hd]

end Chunks

section Objects

variable {s s' : TunnelSession} {e : TaskEvent} {k : Nat} {o o' : TunnelStream}
  {r : Reception}

theorem rq_onFrame (frame : Protocol.Frame) (o : TunnelStream) :
    (TunnelSession.onFrame frame o).rq =
      if frame.type = Protocol.DATA then o.rq ++ [frame.payload]
      else if frame.type = Protocol.CLOSE then o.rq ++ [[]]
      else o.rq := by
  unfold TunnelSession.onFrame
  split
  · rfl
  · split
    · next h => simp [h,Protocol.OPEN_OK,Protocol.CLOSE]
    · split
      · next h => simp [h,Protocol.OPEN_ERR,Protocol.CLOSE]
      · split <;> rfl

/-- Payloads are fed behind those there are. -/
theorem rq_step (h : ObjectStep s k o e o') : ∃ t, o'.rq = o.rq ++ t := by
  cases h with
  | kept => exact ⟨[],by simp⟩
  | own h =>
    rcases h.rq with hrq | hrq
    · exact ⟨[],by simp [hrq]⟩
    · exact ⟨[[]],hrq⟩
  | frame =>
    rw [rq_onFrame]
    split
    · exact ⟨_,rfl⟩
    · split
      · exact ⟨_,rfl⟩
      · exact ⟨[],by simp⟩
  | shut => exact ⟨[[]],rq_resolve _⟩

theorem done_step (ht : s.Tabled) (ho : s.objects[k]? = some o) (hdone : o.phase = .done)
    (h : ObjectStep s k o e o') : o' = o := by
  have hnot : ∀ i, s.streams i ≠ some k := by
    intro i hi
    obtain ⟨o'',ho'',-,hnot⟩ := ht.entry i k hi
    rw [ho,Option.some.injEq] at ho''
    exact hnot (ho'' ▸ hdone)
  cases h with
  | kept => rfl
  | own h =>
    have hlive := h.live
    simp [TunnelStream.live,hdone] at hlive
  | frame _ hk => exact absurd hk (hnot _)
  | shut _ hk => exact absurd hk (hnot _)

end Objects

/-- The queue of a stream holds what has come for it. -/
structure Faithful (r : Reception) (s : TunnelSession) (o : TunnelStream) : Prop where
  chunks : chunks o.rq = r.payloads
  flowing : r.ended = false → [] ∉ o.rq ∧ o.live = true ∧ s.shut = false
  ended : r.ended = true → [] ∈ o.rq ∨ o.phase = .done

section Runs

variable {s s' : TunnelSession} {e : TaskEvent} {k : Nat} {o o' : TunnelStream}
  {r : Reception} {tr : List (Transition TunnelSession TaskEvent)}

theorem after_ended (h : r.ended = true) : r.after s k e = r := by
  rw [Reception.after,if_pos h]

theorem faithful_ended (ht : s.Tabled) (ho : s.objects[k]? = some o) (h : Faithful r s o)
    (hr : r.ended = true) (hstep : ObjectStep s k o e o') : Faithful (r.after s k e) s' o' := by
  rw [after_ended hr]
  refine ⟨?_,fun hf => absurd (hr.symm.trans hf) nofun,fun _ => ?_⟩
  · rcases h.ended hr with hmem | hdone
    · obtain ⟨t,hgrow⟩ := rq_step hstep
      rw [hgrow,chunks_append_of_mem hmem,h.chunks]
    · rw [done_step ht ho hdone hstep,h.chunks]
  · rcases h.ended hr with hmem | hdone
    · obtain ⟨t,hgrow⟩ := rq_step hstep
      exact Or.inl (by simp [hgrow,hmem])
    · exact Or.inr (by rw [done_step ht ho hdone hstep,hdone])

theorem shut_step (hs : taskStep s e = some s') (hopen : s.shut = false) (he : ¬e.EndsLoop) :
    s'.shut = false := by
  cases taskStep_table hs with
  | dials | dialsUnsent | forgets => exact hopen
  | kept _ _ hshut => rw [hshut,hopen]
  | ends hends => exact absurd hends he

theorem after_unreached (ho : s.objects[k]? = some o) (hentry : s.streams o.streamId = some k)
    (hno : ¬s.Reaches k o e) : r.after s k e = r ∧ ¬e.EndsLoop := by
  cases e with
  | sendFails => simp [Reception.after,ho,TaskEvent.EndsLoop]
  | session e =>
    cases e with
    | receive data =>
      cases hd : Protocol.decode data with
      | error error => simp [TunnelSession.Reaches,hd,hentry] at hno
      | ok frame =>
        have hid : frame.streamId ≠ o.streamId := by
          intro hid
          simp [TunnelSession.Reaches,hd,hid,hentry] at hno
        simp [Reception.after,ho,hd,hid,TaskEvent.EndsLoop]
    | transportCloses => simp [TunnelSession.Reaches,hentry] at hno
    | closeEnds j | dialRefused j | dialTimesOut j =>
      have hjk : j ≠ k := hno
      simp [Reception.after,ho,hjk,TaskEvent.EndsLoop]
    | _ => simp [Reception.after,ho,TaskEvent.EndsLoop]

theorem after_endsLoop (hr : r.ended = false) (ho : s.objects[k]? = some o) (he : e.EndsLoop) :
    r.after s k e = { r with ended := true } := by
  cases e with
  | sendFails => cases he
  | session e =>
    cases e with
    | receive data =>
      obtain ⟨error,hd⟩ := he
      simp [Reception.after,hr,ho,hd]
    | transportCloses => simp [Reception.after,hr,ho]
    | _ => cases he

/-- The end of file for a stream that has not ended. -/
theorem faithful_eof (h : Faithful r s o) (hmem : [] ∉ o.rq) (hrq : o'.rq = o.rq ++ [[]]) :
    Faithful { r with ended := true } s' o' := by
  refine ⟨?_,nofun,fun _ => Or.inl (by simp [hrq])⟩
  rw [hrq,chunks_append_of_notMem hmem,chunks_singleton,List.append_nil,h.chunks]

/-- A frame for the stream that has not ended. -/
theorem faithful_frame {data : Bytes} {frame : Protocol.Frame} (h : Faithful r s o)
    (hr : r.ended = false) (ho : s.objects[k]? = some o)
    (hd : Protocol.decode data = .ok frame) (hid : o.streamId = frame.streamId)
    (hdata : frame.type = Protocol.DATA → frame.payload ≠ []) (hopen : s'.shut = false) :
    Faithful (r.after s k (.session (.receive data))) s' (TunnelSession.onFrame frame o) := by
  obtain ⟨hmem,hlive,_⟩ := h.flowing hr
  have hafter : r.after s k (.session (.receive data)) =
      if frame.type = Protocol.DATA then { r with payloads := r.payloads ++ frame.payload }
      else if frame.type = Protocol.CLOSE then { r with ended := true }
      else r := by
    simp [Reception.after,hr,ho,hd,hid]
  have hlive' : (TunnelSession.onFrame frame o).live = true :=
    (live_congr (onFrame_frame frame o).2).trans hlive
  have hrq := rq_onFrame frame o
  rw [hafter]
  split
  · next ht =>
    rw [if_pos ht] at hrq
    refine ⟨?_,fun _ => ⟨?_,hlive',hopen⟩,fun hf => absurd (hr.symm.trans hf) nofun⟩
    · rw [hrq,chunks_append_of_notMem hmem,chunks_singleton,h.chunks]
    · simp [hrq,hmem,Ne.symm (hdata ht)]
  · next ht =>
    rw [if_neg ht] at hrq
    split
    · next hc =>
      rw [if_pos hc] at hrq
      exact faithful_eof h hmem hrq
    · next hc =>
      rw [if_neg hc] at hrq
      refine ⟨by rw [hrq,h.chunks],fun _ => ⟨by rw [hrq]; exact hmem,hlive',hopen⟩,
        fun hf => absurd (hr.symm.trans hf) nofun⟩

/-- A step of the task that holds the stream. -/
theorem faithful_own (h : Faithful r s o) (hr : r.ended = false) (ho : s.objects[k]? = some o)
    (hown : OwnStep k o e o') (hsent : o'.phase ≠ .unsent)
    (hopen : ¬e.EndsLoop → s'.shut = false) : Faithful (r.after s k e) s' o' := by
  obtain ⟨hmem,-,-⟩ := h.flowing hr
  cases hown with
  | returns =>
    have hafter : r.after s k (.session (.dialReturns k)) = r := by simp [Reception.after,ho]
    rw [hafter]
    exact ⟨h.chunks,fun _ => ⟨hmem,rfl,hopen id⟩,fun hf => absurd (hr.symm.trans hf) nofun⟩
  | refused =>
    have hafter : r.after s k (.session (.dialRefused k)) = { r with ended := true } := by
      simp [Reception.after,hr,ho]
    rw [hafter]
    exact ⟨h.chunks,nofun,fun _ => Or.inr rfl⟩
  | timesOut =>
    have hafter : r.after s k (.session (.dialTimesOut k)) = { r with ended := true } := by
      simp [Reception.after,hr,ho]
    rw [hafter]
    exact ⟨h.chunks,nofun,fun _ => Or.inr rfl⟩
  | unsent => exact absurd rfl hsent
  | closing =>
    have hafter : r.after s k (.session (.closeBegins k)) = r := by simp [Reception.after,ho]
    rw [hafter]
    exact ⟨h.chunks,fun _ => ⟨hmem,rfl,hopen id⟩,fun hf => absurd (hr.symm.trans hf) nofun⟩
  | closed =>
    have hafter : r.after s k (.session (.closeEnds k)) = { r with ended := true } := by
      simp [Reception.after,hr,ho]
    rw [hafter]
    exact faithful_eof h hmem rfl

/-- One step for a stream that has not ended. -/
theorem faithful_flowing (hheld : s.Held) (hclean : CleanStep s e)
    (hs : taskStep s e = some s') (ho : s.objects[k]? = some o) (h : Faithful r s o)
    (hr : r.ended = false) (hstep : ObjectStep s k o e o') (hsent : o'.phase ≠ .unsent) :
    Faithful (r.after s k e) s' o' := by
  obtain ⟨hmem,hlive,hopen⟩ := h.flowing hr
  have hentry := hheld.held hopen k o ho hlive
  cases hstep with
  | kept hno =>
    obtain ⟨hafter,hgoes⟩ := after_unreached (r := r) ho hentry hno
    rw [hafter]
    exact ⟨h.chunks,fun _ => ⟨hmem,hlive,shut_step hs hopen hgoes⟩,h.ended⟩
  | own hown => exact faithful_own h hr ho hown hsent (shut_step hs hopen)
  | @frame data frame hd hk =>
    obtain ⟨o'',ho'',hid,-⟩ := hheld.tabled.entry _ k hk
    obtain rfl := Option.some.inj (ho.symm.trans ho'')
    refine faithful_frame h hr ho hd hid (fun ht hempty => ?_) (shut_step hs hopen ?_)
    · exact hmem (hclean.2 frame hd ht hempty k o hk ho)
    · rintro ⟨error,herror⟩
      rw [hd] at herror
      cases herror
  | shut he =>
    rw [after_endsLoop hr ho he]
    exact faithful_eof h hmem (rq_resolve _)

/-- A stream that no dial has created has received nothing. -/
theorem reception_unborn (h : Run taskSystem tr s) (hk : s.objects[k]? = none) :
    reception k tr = ⟨[],false⟩ := by
  induction h with
  | start => rfl
  | @step tr s s' e hr hs ih =>
    have hpre : s.objects[k]? = none := by
      cases ho : s.objects[k]? with
      | none => rfl
      | some o =>
        obtain ⟨o',ho',-⟩ := taskStep_object hs ho
        rw [hk] at ho'
        cases ho'
    rw [reception,ih hpre]
    simp [Reception.after,hpre]

theorem phase_unsent (h : ObjectStep s k o e o') (ho : o.phase = .unsent) :
    o'.phase = .unsent := by
  cases h with
  | kept => exact ho
  | own h =>
    have hlive := h.live
    simp [TunnelStream.live,ho] at hlive
  | frame => rw [(onFrame_frame _ o).2,ho]
  | shut => exact (phase_resolve _).trans ho

theorem faithful_born (hheld : s.Held) (hs : taskStep s e = some s')
    (hpre : s.objects[k]? = none) (ho : s'.objects[k]? = some o) (hsent : o.phase ≠ .unsent) :
    Faithful ⟨[],false⟩ s' o := by
  rcases (taskStep_table hs).keptOrDial with hk | ⟨hc,rfl | rfl⟩
  · obtain ⟨o₀,ho₀,-⟩ := Kept.old hk ho
    rw [hpre] at ho₀
    cases ho₀
  · rcases getElem?_beginDial ho with ⟨-,rfl⟩ | hold
    · exact ⟨rfl,fun _ => ⟨nofun,rfl,hheld.opened hc⟩,nofun⟩
    · rw [hpre] at hold
      cases hold
  · rcases getElem?_beginDial ho with ⟨-,rfl⟩ | hold
    · exact absurd rfl hsent
    · rw [hpre] at hold
      cases hold

theorem run_faithful (h : Run taskSystem tr s) (hclean : ∀ t ∈ tr, CleanStep t.pre t.label)
    (ho : s.objects[k]? = some o) (hsent : o.phase ≠ .unsent) :
    Faithful (reception k tr) s o := by
  induction h generalizing o with
  | start h0 =>
    subst h0
    simp [TunnelSession.new] at ho
  | @step tr s s' e hr hs ih =>
    have hclean' : ∀ t ∈ tr, CleanStep t.pre t.label :=
      fun t ht => hclean t (List.mem_cons_of_mem _ ht)
    have hheld := hr.guarded held_inductive fun t ht => (hclean' t ht).1
    have hstep := hclean _ List.mem_cons_self
    cases hpre : s.objects[k]? with
    | none =>
      have hborn : Faithful ⟨[],false⟩ s' o := faithful_born hheld hs hpre ho hsent
      rw [reception,reception_unborn hr hpre]
      simpa [Reception.after,hpre] using hborn
    | some o₀ =>
      obtain ⟨o',ho',hobject⟩ := taskStep_object hs hpre
      obtain rfl := Option.some.inj (ho.symm.trans ho')
      have hfaithful := ih hclean' hpre fun hu => hsent (phase_unsent hobject hu)
      cases hended : (reception k tr).ended with
      | true => exact faithful_ended hheld.tabled hpre hfaithful hended hobject
      | false => exact faithful_flowing hheld hstep hs hpre hfaithful hended hobject hsent

/-- In a run whose dials take free ids, and in which no empty DATA frame comes for a stream before
its end, the chunks before the first empty one are the payloads that have come for the stream, and
the empty one is its end. -/
theorem reads_payloads (h : Run taskSystem tr s) (hclean : ∀ t ∈ tr, CleanStep t.pre t.label)
    (hreturned : ∃ t ∈ tr, t.label = .session (.dialReturns k)) :
    ∃ o, s.objects[k]? = some o ∧ chunks o.rq = (reception k tr).payloads ∧
      ([] ∈ o.rq ↔ (reception k tr).ended = true) := by
  obtain ⟨o,ho,hphase⟩ := run_returned h (fun t ht => (hclean t ht).1) hreturned
  have hsent : o.phase ≠ .unsent := by
    rintro hu
    simp [hu] at hphase
  have hf := run_faithful h hclean ho hsent
  refine ⟨o,ho,hf.chunks,?_,?_⟩
  · intro hmem
    cases hended : (reception k tr).ended with
    | true => rfl
    | false => exact absurd hmem (hf.flowing hended).1
  · intro hended
    rcases hf.ended hended with hmem | hdone
    · exact hmem
    · simp [hdone] at hphase
      exact List.mem_of_getLast? hphase

end Runs

section Examples

theorem noEmptyData_of_decode {s : TunnelSession} {data : Bytes} {frame : Protocol.Frame}
    (hd : Protocol.decode data = .ok frame)
    (h : frame.type ≠ Protocol.DATA ∨ frame.payload ≠ []) :
    NoEmptyData s (.session (.receive data)) := by
  intro frame' hd' htype hempty
  obtain rfl := Except.ok.inj (hd.symm.trans hd')
  rcases h with h | h
  · exact absurd htype h
  · exact absurd hempty h

/-- A stream that receives "h" and "ij", a CLOSE and "k". -/
def answeredStream : List TaskEvent :=
  [.session (.dial "db" 5432),.session (.receive [0,0,0,1,2]),.session (.dialReturns 0),
    .session (.receive [0,0,0,1,4,0x68]),.session (.receive [0,0,0,1,4,0x69,0x6A]),
    .session (.receive [0,0,0,1,5]),.session (.receive [0,0,0,1,4,0x6B])]

theorem answered_stream_reads :
    ∃ tr s o, Run taskSystem tr s ∧ s.objects[0]? = some o ∧ chunks o.rq = [0x68,0x69,0x6A] ∧
      [] ∈ o.rq := by
  have hrun : taskSystem.replay TunnelSession.new answeredStream = some _ := rfl
  have h := (Run.start rfl).replay hrun
  have hmeets : taskSystem.Meets CleanStep TunnelSession.new answeredStream :=
    ⟨⟨by simp [FreshDial,TunnelSession.new],trivial⟩,
      ⟨trivial,noEmptyData_of_decode rfl (by decide)⟩,⟨trivial,trivial⟩,
      ⟨trivial,noEmptyData_of_decode rfl (by decide)⟩,
      ⟨trivial,noEmptyData_of_decode rfl (by decide)⟩,
      ⟨trivial,noEmptyData_of_decode rfl (by decide)⟩,
      ⟨trivial,noEmptyData_of_decode rfl (by decide)⟩,trivial⟩
  obtain ⟨o,ho,hchunks,hend⟩ := reads_payloads h (System.history_meets hmeets (by simp))
    (k := 0) ⟨_,List.mem_of_getElem? (i := 4) rfl,rfl⟩
  exact ⟨_,_,o,h,ho,hchunks,hend.mpr rfl⟩

/-- An empty DATA frame reads as the end of the stream. -/
theorem empty_frame_ends_reads :
    ∃ tr s o, Run taskSystem tr s ∧ (∃ t ∈ tr, t.label = .session (.dialReturns 0)) ∧
      s.objects[0]? = some o ∧ [] ∈ o.rq ∧ (reception 0 tr).ended = false ∧
      chunks o.rq ≠ (reception 0 tr).payloads := by
  have hrun : taskSystem.replay TunnelSession.new
      [.session (.dial "db" 5432),.session (.receive [0,0,0,1,2]),.session (.dialReturns 0),
        .session (.receive [0,0,0,1,4]),.session (.receive [0,0,0,1,4,0x68])] = some _ := rfl
  refine ⟨_,_,⟨1,[[],[0x68]],.ok,.opened⟩,(Run.start rfl).replay hrun,
    ⟨_,List.mem_of_getElem? (i := 2) rfl,rfl⟩,rfl,by simp,rfl,?_⟩
  decide

end Examples

end Nexplane
