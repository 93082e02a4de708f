import Nexplane.TunnelSession

set_option autoImplicit false

/-! The end of a tunnel session: what a step does to one stream, and what the streams and the
pending dials find once the read loop has ended. -/

namespace Nexplane
open Text Runs Lists

/-- The steps of a session whose read loop has begun; the transport may also refuse an OPEN frame
after a dial has waited to send it. -/
inductive TaskEvent where
  | session (e : SessionEvent)
  | sendFails (stream : Nat)
  deriving DecidableEq, Repr

def taskStep (s : TunnelSession) : TaskEvent → Option TunnelSession
  | .session e => (sessionStep s e).map Prod.fst
  | .sendFails k => (s.objects[k]?).bind fun o =>
      if o.phase = .dialling then some (s.setObject k { o with phase := .unsent }) else none

def taskSystem : System TunnelSession TaskEvent where
  start s := s = TunnelSession.new
  step := taskStep

/-- What ends the read loop: undecodable bytes, the end of the transport or a cancellation. -/
def TaskEvent.EndsLoop : TaskEvent → Prop
  | .session (.receive data) => ∃ error, Protocol.decode data = .error error
  | .session .transportCloses => True
  | _ => False

/-- The frame, the end of the session or the end of the task is one for the stream. -/
def TunnelSession.Reaches (s : TunnelSession) (k : Nat) (o : TunnelStream) : TaskEvent → Prop
  | .session (.receive data) =>
    match Protocol.decode data with
    | .ok frame => s.streams frame.streamId = some k
    | .error _ => s.streams o.streamId = some k
  | .session .transportCloses => s.streams o.streamId = some k
  | .session (.closeEnds j) | .session (.dialRefused j) | .session (.dialTimesOut j) => j = k
  | _ => False

/-- What the task that holds stream `k` does to it. -/
inductive OwnStep (k : Nat) (o : TunnelStream) : TaskEvent → TunnelStream → Prop where
  | returns (hp : o.phase = .dialling) (hr : o.result = .ok) :
      OwnStep k o (.session (.dialReturns k)) { o with phase := .opened }
  | refused (hp : o.phase = .dialling) :
      OwnStep k o (.session (.dialRefused k)) { o with phase := .done }
  | timesOut (hp : o.phase = .dialling) :
      OwnStep k o (.session (.dialTimesOut k)) { o with phase := .done }
  | unsent (hp : o.phase = .dialling) : OwnStep k o (.sendFails k) { o with phase := .unsent }
  | closing (hp : o.phase = .opened) :
      OwnStep k o (.session (.closeBegins k)) { o with phase := .closing }
  | closed (hp : o.phase = .closing) :
      OwnStep k o (.session (.closeEnds k)) { o.feedEof with phase := .done }

/-- What a step does to the session. -/
inductive TaskCase (s : TunnelSession) : TaskEvent → TunnelSession → Prop where
  | dials {host : String} {port : Int} (hc : s.closed = false) :
      TaskCase s (.session (.dial host port)) (s.beginDial .dialling)
  | dialsUnsent {host : String} {port : Int} (hc : s.closed = false) :
      TaskCase s (.session (.dialUnsent host port)) (s.beginDial .unsent)
  | own {e : TaskEvent} {k : Nat} {o o' : TunnelStream} (ho : s.objects[k]? = some o)
      (h : OwnStep k o e o') (hnot : o'.phase ≠ .done) : TaskCase s e (s.setObject k o')
  | forgets {e : TaskEvent} {k : Nat} {o o' : TunnelStream} (ho : s.objects[k]? = some o)
      (h : OwnStep k o e o') (hdone : o'.phase = .done) :
      TaskCase s e ((s.setObject k o').forget o.streamId)
  | writes {k : Nat} {data : Bytes} : TaskCase s (.session (.write k data)) s
  | frame {data : Bytes} {frame : Protocol.Frame} (hd : Protocol.decode data = .ok frame) :
      TaskCase s (.session (.receive data)) (s.handleFrame frame)
  | closes : TaskCase s (.session .closeSession) { s with closed := true }
  | ends {e : TaskEvent} (he : e.EndsLoop) (hopen : s.shut = false) : TaskCase s e s.shutdown

/-- What a step does to a stream that is there. -/
inductive ObjectStep (s : TunnelSession) (k : Nat) (o : TunnelStream) :
    TaskEvent → TunnelStream → Prop where
  | kept {e : TaskEvent} (h : ¬s.Reaches k o e) : ObjectStep s k o e o
  | own {e : TaskEvent} {o' : TunnelStream} (h : OwnStep k o e o') : ObjectStep s k o e o'
  | frame {data : Bytes} {frame : Protocol.Frame} (hd : Protocol.decode data = .ok frame)
      (hk : s.streams frame.streamId = some k) :
      ObjectStep s k o (.session (.receive data)) (TunnelSession.onFrame frame o)
  | shut {e : TaskEvent} (he : e.EndsLoop) (hk : s.streams o.streamId = some k) :
      ObjectStep s k o e (TunnelSession.shutStream o)

section Steps

variable {s s' : TunnelSession} {e : TaskEvent} {j k : Nat} {o o' oj : TunnelStream}

theorem OwnStep.live (h : OwnStep k o e o') : o.live = true := by
  cases h with
  | returns hp | refused hp | timesOut hp | unsent hp | closing hp | closed hp =>
    simp [TunnelStream.live,hp]

theorem OwnStep.streamId (h : OwnStep k o e o') : o'.streamId = o.streamId := by
  cases h <;> rfl

theorem OwnStep.result (h : OwnStep k o e o') : o'.result = o.result := by
  cases h <;> rfl

theorem OwnStep.rq (h : OwnStep k o e o') : o'.rq = o.rq ∨ o'.rq = o.rq ++ [[]] := by
  cases h with
  | closed => exact Or.inr rfl
  | _ => exact Or.inl rfl

/-- Another stream is not reached. -/
theorem OwnStep.other (h : OwnStep j oj e o') (hjk : j ≠ k) : ¬s.Reaches k o e := by
  cases h with
  | refused | timesOut | closed => exact hjk
  | returns | unsent | closing => exact id

theorem taskStep_case (h : taskStep s e = some s') : TaskCase s e s' := by
  cases e with
  | sendFails j =>
    obtain ⟨o,ho,h⟩ := Option.bind_eq_some_iff.mp h
    simp only [Option.ite_none_right_eq_some,Option.some.injEq] at h
    obtain ⟨hp,rfl⟩ := h
    exact TaskCase.own ho (OwnStep.unsent hp) (by rintro ⟨⟩)
  | session e =>
    obtain ⟨⟨_,f⟩,hs,rfl⟩ := Option.map_eq_some_iff.mp h
    clear h
    cases e with
    | dial =>
      simp only [sessionStep,Option.ite_none_left_eq_some,Option.some.injEq,Prod.mk.injEq] at hs
      obtain ⟨hc,rfl,-⟩ := hs
      exact TaskCase.dials (by simpa using hc)
    | dialUnsent =>
      simp only [sessionStep,Option.ite_none_left_eq_some,Option.some.injEq,Prod.mk.injEq] at hs
      obtain ⟨hc,rfl,-⟩ := hs
      exact TaskCase.dialsUnsent (by simpa using hc)
    | dialReturns j =>
      obtain ⟨o,ho,hs⟩ := Option.bind_eq_some_iff.mp hs
      simp only [streamStep,Option.ite_none_right_eq_some,Option.some.injEq,Prod.mk.injEq] at hs
      obtain ⟨⟨hp,hr⟩,rfl,-⟩ := hs
      exact TaskCase.own ho (OwnStep.returns hp hr) (by rintro ⟨⟩)
    | dialRefused j =>
      obtain ⟨o,ho,hs⟩ := Option.bind_eq_some_iff.mp hs
      simp only [streamStep] at hs
      split at hs
      · simp only [Option.ite_none_right_eq_some,Option.some.injEq,Prod.mk.injEq] at hs
        obtain ⟨hp,rfl,-⟩ := hs
        exact TaskCase.forgets ho (OwnStep.refused hp) rfl
      · cases hs
    | dialTimesOut j =>
      obtain ⟨o,ho,hs⟩ := Option.bind_eq_some_iff.mp hs
      simp only [streamStep,Option.ite_none_right_eq_some,Option.some.injEq,Prod.mk.injEq] at hs
      obtain ⟨hp,rfl,-⟩ := hs
      exact TaskCase.forgets ho (OwnStep.timesOut hp) rfl
    | write j data =>
      obtain ⟨o,ho,hs⟩ := Option.bind_eq_some_iff.mp hs
      simp only [streamStep,Option.ite_none_right_eq_some,Option.some.injEq,Prod.mk.injEq] at hs
      obtain ⟨-,rfl,-⟩ := hs
      exact TaskCase.writes
    | closeBegins j =>
      obtain ⟨o,ho,hs⟩ := Option.bind_eq_some_iff.mp hs
      simp only [streamStep,Option.ite_none_right_eq_some,Option.some.injEq,Prod.mk.injEq] at hs
      obtain ⟨hp,rfl,-⟩ := hs
      exact TaskCase.own ho (OwnStep.closing hp) (by rintro ⟨⟩)
    | closeEnds j =>
      obtain ⟨o,ho,hs⟩ := Option.bind_eq_some_iff.mp hs
      simp only [streamStep,Option.ite_none_right_eq_some,Option.some.injEq,Prod.mk.injEq] at hs
      obtain ⟨hp,rfl,-⟩ := hs
      exact TaskCase.forgets ho (OwnStep.closed hp) rfl
    | receive data =>
      simp only [sessionStep,Option.ite_none_left_eq_some] at hs
      obtain ⟨hopen,hs⟩ := hs
      cases hd : Protocol.decode data with
      | error error =>
        simp only [hd,Option.some.injEq,Prod.mk.injEq] at hs
        obtain ⟨rfl,-⟩ := hs
        exact TaskCase.ends ⟨error,hd⟩ (by simpa using hopen)
      | ok frame =>
        simp only [hd,Option.some.injEq,Prod.mk.injEq] at hs
        obtain ⟨rfl,-⟩ := hs
        exact TaskCase.frame hd
    | closeSession =>
      simp only [sessionStep,Option.some.injEq,Prod.mk.injEq] at hs
      obtain ⟨rfl,-⟩ := hs
      exact TaskCase.closes
    | transportCloses =>
      simp only [sessionStep,Option.ite_none_left_eq_some,Option.some.injEq,Prod.mk.injEq] at hs
      obtain ⟨hopen,rfl,-⟩ := hs
      exact TaskCase.ends trivial (by simpa using hopen)

theorem getElem?_setObject (hj : s.objects[j]? = some oj) (ho : s.objects[k]? = some o) :
    (s.setObject j o').objects[k]? = some (if j = k then o' else o) := by
  have hlt := (List.getElem?_eq_some_iff.mp hj).1
  by_cases hjk : j = k
  · subst hjk
    simp [TunnelSession.setObject,hlt]
  · simp [TunnelSession.setObject,List.getElem?_set_ne hjk,ho,hjk]

theorem object_of_own (hj : s.objects[j]? = some oj) (ho : s.objects[k]? = some o)
    (h : OwnStep j oj e o') :
    ∃ o₁, (s.setObject j o').objects[k]? = some o₁ ∧ ObjectStep s k o e o₁ := by
  refine ⟨_,getElem?_setObject hj ho,?_⟩
  by_cases hjk : j = k
  · subst hjk
    obtain rfl := Option.some.inj (hj.symm.trans ho)
    rw [if_pos rfl]
    exact ObjectStep.own h
  · rw [if_neg hjk]
    exact ObjectStep.kept (h.other hjk)

theorem getElem?_shutdown (ho : s.objects[k]? = some o) : s.shutdown.objects[k]? =
    some (if s.streams o.streamId = some k then TunnelSession.shutStream o else o) := by
  simp [TunnelSession.shutdown,ho]

/-- The end of the loop reaches the streams of the table. -/
theorem reaches_of_ends (he : e.EndsLoop) (h : s.Reaches k o e) :
    s.streams o.streamId = some k := by
  cases e with
  | sendFails => cases he
  | session e =>
    cases e with
    | receive data =>
      obtain ⟨error,hd⟩ := he
      simpa only [TunnelSession.Reaches,hd] using h
    | transportCloses => exact h
    | _ => cases he

theorem object_of_frame {data : Bytes} {frame : Protocol.Frame}
    (hd : Protocol.decode data = .ok frame) (ho : s.objects[k]? = some o) :
    ∃ o', (s.handleFrame frame).objects[k]? = some o' ∧
      ObjectStep s k o (.session (.receive data)) o' := by
  have hkept : s.streams frame.streamId ≠ some k →
      ObjectStep s k o (.session (.receive data)) o := by
    intro hne
    refine ObjectStep.kept fun h => hne ?_
    simpa only [TunnelSession.Reaches,hd] using h
  unfold TunnelSession.handleFrame
  split
  · next hj => exact ⟨o,ho,hkept (by simp [hj])⟩
  · next j hj =>
    by_cases hjk : j = k
    · subst hjk
      rw [ho]
      exact ⟨_,by simp [getElem?_setObject ho ho],ObjectStep.frame hd hj⟩
    · have hne : s.streams frame.streamId ≠ some k := by simp [hj,hjk]
      split
      · exact ⟨o,ho,hkept hne⟩
      · next oj hoj => exact ⟨o,by simp [getElem?_setObject hoj ho,hjk],hkept hne⟩

theorem taskStep_object (hs : taskStep s e = some s') (ho : s.objects[k]? = some o) :
    ∃ o', s'.objects[k]? = some o' ∧ ObjectStep s k o e o' := by
  cases taskStep_case hs with
  | dials | dialsUnsent => exact ⟨o,beginDial_keeps ho,ObjectStep.kept id⟩
  | own hj h | forgets hj h => exact object_of_own hj ho h
  | writes | closes => exact ⟨o,ho,ObjectStep.kept id⟩
  | frame hd => exact object_of_frame hd ho
  | ends he =>
    refine ⟨_,getElem?_shutdown ho,?_⟩
    split
    · next hk => exact ObjectStep.shut he hk
    · next hk => exact ObjectStep.kept fun h => hk (reaches_of_ends he h)

theorem live_of_phase (h : o.phase = .dialling ∨ o.phase = .opened ∨ o.phase = .closing) :
    o.live = true := by
  rcases h with h | h | h <;> simp [TunnelStream.live,h]

theorem handleFrame_session (s : TunnelSession) (frame : Protocol.Frame) :
    (s.handleFrame frame).streams = s.streams ∧ (s.handleFrame frame).shut = s.shut ∧
      (s.handleFrame frame).closed = s.closed := by
  unfold TunnelSession.handleFrame
  split
  · exact ⟨rfl,rfl,rfl⟩
  · split <;> exact ⟨rfl,rfl,rfl⟩

/-- A step dials, forgets a stream, ends the loop, or leaves the table and the end as they are. -/
inductive TableStep (s : TunnelSession) : TaskEvent → TunnelSession → Prop where
  | dials {host : String} {port : Int} (hc : s.closed = false) :
      TableStep s (.session (.dial host port)) (s.beginDial .dialling)
  | dialsUnsent {host : String} {port : Int} (hc : s.closed = false) :
      TableStep s (.session (.dialUnsent host port)) (s.beginDial .unsent)
  | kept {e : TaskEvent} {s' : TunnelSession} (hk : s.Kept s') (hstreams : s'.streams = s.streams)
      (hshut : s'.shut = s.shut) (hclosed : s.closed = true → s'.closed = true) :
      TableStep s e s'
  | forgets {e : TaskEvent} {j : Nat} {oj o' : TunnelStream} (hj : s.objects[j]? = some oj)
      (h : OwnStep j oj e o') (hdone : o'.phase = .done) :
      TableStep s e ((s.setObject j o').forget oj.streamId)
  | ends {e : TaskEvent} (he : e.EndsLoop) (hopen : s.shut = false) : TableStep s e s.shutdown

theorem taskStep_table (hs : taskStep s e = some s') : TableStep s e s' := by
  cases taskStep_case hs with
  | dials hc => exact TableStep.dials hc
  | dialsUnsent hc => exact TableStep.dialsUnsent hc
  | own ho h hnot =>
    have hk : s.Kept (s.setObject _ _) := Kept.set ho rfl rfl (fun _ _ h => h) h.streamId
      (fun _ => h.live) fun hdone => absurd hdone hnot
    exact TableStep.kept hk rfl rfl id
  | forgets ho h hdone => exact TableStep.forgets ho h hdone
  | writes => exact TableStep.kept (Kept.refl s) rfl rfl id
  | frame =>
    obtain ⟨hstreams,hshut,hclosed⟩ := handleFrame_session s _
    exact TableStep.kept (handleFrame_kept s _) hstreams hshut (hclosed ▸ id)
  | closes =>
    exact TableStep.kept ⟨rfl,rfl,fun _ _ h => h,fun _ o ho => ⟨o,ho,rfl,id,Or.inl⟩⟩ rfl rfl
      fun _ => rfl
  | ends he hopen => exact TableStep.ends he hopen

theorem TableStep.keptOrDial (h : TableStep s e s') : s.Kept s' ∨ s.closed = false ∧
    (s' = s.beginDial .dialling ∨ s' = s.beginDial .unsent) := by
  cases h with
  | dials hc => exact Or.inr ⟨hc,Or.inl rfl⟩
  | dialsUnsent hc => exact Or.inr ⟨hc,Or.inr rfl⟩
  | kept hk => exact Or.inl hk
  | forgets hj h hdone => exact Or.inl (Kept.done hj h.streamId hdone)
  | ends => exact Or.inl (shutdown_kept s)

end Steps

/-- The id that a dial takes is not the id of a stream that is being dialled or open. -/
def FreshDial (s : TunnelSession) : TaskEvent → Prop
  | .session (.dial _ _) | .session (.dialUnsent _ _) =>
    ∀ o ∈ s.objects, o.live = true → o.streamId ≠ s.nextId
  | _ => True

/-- The table holds every stream being dialled or open until the read loop ends; then each has its
end of file and its answer. -/
structure TunnelSession.Held (s : TunnelSession) : Prop where
  tabled : s.Tabled
  distinct : s.Distinct
  held : s.shut = false → ∀ (k : Nat) o, s.objects[k]? = some o → o.live = true →
    s.streams o.streamId = some k
  emptied : s.shut = true → ∀ i, s.streams i = none
  closed : s.shut = true → s.closed = true
  ended : s.shut = true → ∀ (k : Nat) o, s.objects[k]? = some o → o.live = true →
    o.rq.getLast? = some [] ∧ o.result ≠ .pending

section Invariant

variable {s s' : TunnelSession} {e : TaskEvent} {k : Nat} {o o' : TunnelStream}

theorem result_resolve (r : OpenResult) (h : o.result ≠ .pending) :
    (o.resolve r).result = o.result := by
  rw [TunnelStream.resolve,if_neg h]

theorem shutStream_ended (o : TunnelStream) :
    (TunnelSession.shutStream o).rq.getLast? = some [] ∧
      (TunnelSession.shutStream o).result ≠ .pending := by
  constructor
  · simp [TunnelSession.shutStream,TunnelStream.feedEof,TunnelStream.feed]
  · unfold TunnelSession.shutStream TunnelStream.resolve
    split
    · exact nofun
    · next h => exact h

theorem TunnelSession.Held.opened (h : s.Held) (hc : s.closed = false) : s.shut = false := by
  cases hs : s.shut with
  | false => rfl
  | true => rw [← hc,h.closed hs]

theorem TunnelSession.Held.begin (h : s.Held) (hc : s.closed = false) {phase : StreamPhase}
    (hp : phase ≠ .done) (hfresh : ∀ o ∈ s.objects, o.live = true → o.streamId ≠ s.nextId) :
    (s.beginDial phase).Held := by
  have hopen := h.opened hc
  have hopen' : (s.beginDial phase).shut ≠ true := by
    rw [TunnelSession.beginDial,hopen]
    exact (by rintro ⟨⟩)
  refine ⟨tabled_beginDial h.tabled hp,distinct_beginDial h.distinct fun _ => hfresh,?_,
    fun hs => absurd hs hopen',fun hs => absurd hs hopen',fun hs => absurd hs hopen'⟩
  intro _ k o ho hlive
  rcases getElem?_beginDial ho with ⟨rfl,rfl⟩ | ho
  · simp [TunnelSession.beginDial]
  · have hne := hfresh o (List.mem_of_getElem? ho) hlive
    simp [TunnelSession.beginDial,hne,h.held hopen k o ho hlive]

/-- Once the table is empty a stream keeps its end of file and its answer. -/
theorem ended_step (hnone : ∀ i, s.streams i = none) (h : ObjectStep s k o e o')
    (hended : o.rq.getLast? = some [] ∧ o.result ≠ .pending) :
    o'.rq.getLast? = some [] ∧ o'.result ≠ .pending := by
  cases h with
  | kept => exact hended
  | own h =>
    rw [h.result]
    refine ⟨?_,hended.2⟩
    rcases h.rq with hrq | hrq <;> simp [hrq,hended.1]
  | frame _ hk =>
    rw [hnone] at hk
    cases hk
  | shut => exact shutStream_ended o

theorem TunnelSession.Held.step (h : s.Held) (hf : FreshDial s e) (hs : taskStep s e = some s') :
    s'.Held := by
  have htable := taskStep_table hs
  have hended : ∀ hk : s.Kept s', s.shut = true → ∀ (k : Nat) o', s'.objects[k]? = some o' →
      o'.live = true → o'.rq.getLast? = some [] ∧ o'.result ≠ .pending := by
    intro hk hshut k o' ho' hlive
    obtain ⟨o,ho,-,hlive'⟩ := Kept.old hk ho'
    obtain ⟨o'',ho'',hstep⟩ := taskStep_object hs ho
    obtain rfl : o'' = o' := Option.some.inj (ho''.symm.trans ho')
    exact ended_step (h.emptied hshut) hstep (h.ended hshut k o ho (hlive' hlive))
  cases htable with
  | dials hc => exact h.begin hc (by rintro ⟨⟩) hf
  | dialsUnsent hc => exact h.begin hc (by rintro ⟨⟩) hf
  | kept hk hstreams hshut hclosed =>
    refine ⟨tabled_kept h.tabled hk,distinct_kept h.distinct hk,?_,?_,?_,?_⟩
    · intro hopen k o' ho' hlive
      obtain ⟨o,ho,hid,hlive'⟩ := Kept.old hk ho'
      rw [hstreams,hid]
      exact h.held (hshut ▸ hopen) k o ho (hlive' hlive)
    · rw [hshut,hstreams]
      exact h.emptied
    · rw [hshut]
      exact fun hs => hclosed (h.closed hs)
    · rw [hshut]
      exact hended hk
  | @forgets _ j oj o' hj hown hdone =>
    have hk : s.Kept ((s.setObject j o').forget oj.streamId) := Kept.done hj hown.streamId hdone
    refine ⟨tabled_kept h.tabled hk,distinct_kept h.distinct hk,?_,?_,h.closed,hended hk⟩
    · intro hopen k ok hk' hlive
      rcases getElem?_set_cases hk' with ⟨rfl,rfl⟩ | ⟨hne,hold⟩
      · simp [TunnelStream.live,hdone] at hlive
      · have hids := h.distinct k j ok oj hold hj hne hlive hown.live
        have hheld := h.held hopen k ok hold hlive
        simp [TunnelSession.forget,TunnelSession.setObject,hids,hheld]
    · intro hshut i
      have hnone := h.emptied hshut
      cases hi : ((s.setObject j o').forget oj.streamId).streams i with
      | none => rfl
      | some k => exact absurd (forget_streams hi) (by simp [TunnelSession.setObject,hnone i])
  | ends he hopen =>
    have hk := shutdown_kept s
    refine ⟨tabled_kept h.tabled hk,distinct_kept h.distinct hk,(by rintro ⟨⟩),fun _ _ => rfl,fun _ => rfl,
      fun _ k o' ho' hlive => ?_⟩
    obtain ⟨o,ho,-,hlive'⟩ := Kept.old hk ho'
    rw [getElem?_shutdown ho,if_pos (h.held hopen k o ho (hlive' hlive))] at ho'
    obtain rfl := Option.some.inj ho'
    exact shutStream_ended o

theorem shut_closed : Inductive taskSystem fun s => s.shut = true → s.closed = true where
  start := by
    rintro s rfl
    exact nofun
  step s e s' ih hs := by
    cases taskStep_table hs with
    | dials | dialsUnsent | forgets => exact ih
    | kept _ _ hshut hclosed =>
      rw [hshut]
      exact fun h => hclosed (ih h)
    | ends => exact fun _ => rfl

theorem held_inductive : InductiveUnder taskSystem FreshDial TunnelSession.Held where
  start := by
    rintro s rfl
    have hobjects : ∀ k : Nat, TunnelSession.new.objects[k]? = none := by simp [TunnelSession.new]
    refine ⟨tabled_inductive.start _ rfl,?_,?_,(by rintro ⟨⟩),(by rintro ⟨⟩),(by rintro ⟨⟩)⟩
    · intro j k o o' ho
      rw [hobjects] at ho
      cases ho
    · intro _ k o ho
      rw [hobjects] at ho
      cases ho
  step _ _ _ h hf hs := h.step hf hs

end Invariant

/-- What the streams and the dials find once the read loop has ended. -/
structure ShutdownComplete (tr : List (Transition TunnelSession TaskEvent)) (s : TunnelSession) :
    Prop where
  table : ∀ i, s.streams i = none
  /-- Every stream that a dial has returned has its end of file after all that was fed to it. -/
  returned : ∀ k, (∃ t ∈ tr, t.label = .session (.dialReturns k)) →
    ∃ o, s.objects[k]? = some o ∧ o.rq.getLast? = some []
  /-- Every dial that was pending when the loop ended has its error. -/
  pending : ∀ t ∈ tr, t.label.EndsLoop → ∀ (k : Nat) o, t.pre.objects[k]? = some o →
    o.phase = .dialling → o.result = .pending →
      ∃ o' reason, s.objects[k]? = some o' ∧ o'.result = .err reason
  /-- No dial waits for its answer. -/
  answered : ∀ (k : Nat) o, s.objects[k]? = some o → o.phase = .dialling → o.result ≠ .pending
  refused : ∀ host port, taskStep s (.session (.dial host port)) = none ∧
    taskStep s (.session (.dialUnsent host port)) = none

section Shutdown

variable {s s' : TunnelSession} {e : TaskEvent} {k : Nat} {o o' : TunnelStream}
  {tr : List (Transition TunnelSession TaskEvent)}

/-- A returned stream is open, or closed with its end of file. -/
def Returned (k : Nat) (s : TunnelSession) : Prop :=
  ∃ o, s.objects[k]? = some o ∧
    (o.phase = .opened ∨ o.phase = .closing ∨ o.phase = .done ∧ o.rq.getLast? = some [])

theorem returned_step (ht : s.Tabled) (hs : taskStep s e = some s') (h : Returned k s) :
    Returned k s' := by
  obtain ⟨o,ho,hphase⟩ := h
  obtain ⟨o',ho',hstep⟩ := taskStep_object hs ho
  refine ⟨o',ho',?_⟩
  have hnot : ∀ i, s.streams i = some k → o.phase ≠ .done := by
    intro i hi
    obtain ⟨o'',ho'',-,hdone⟩ := ht.entry i k hi
    rwa [Option.some.inj (ho.symm.trans ho'')]
  cases hstep with
  | kept => exact hphase
  | own hown =>
    cases hown with
    | returns hp | refused hp | timesOut hp | unsent hp => simp [hp] at hphase
    | closing => exact Or.inr (Or.inl rfl)
    | closed => exact Or.inr (Or.inr ⟨rfl,by simp [TunnelStream.feedEof,TunnelStream.feed]⟩)
  | frame _ hk =>
    rw [(onFrame_frame _ o).2]
    have := hnot _ hk
    tauto
  | shut _ hk =>
    have hsame : (TunnelSession.shutStream o).phase = o.phase := phase_resolve _
    rw [hsame]
    have := hnot _ hk
    tauto

theorem result_onFrame (frame : Protocol.Frame) (h : o.result ≠ .pending) :
    (TunnelSession.onFrame frame o).result = o.result := by
  unfold TunnelSession.onFrame
  split
  · rfl
  · split
    · exact result_resolve _ h
    · split
      · exact result_resolve _ h
      · split <;> rfl

/-- An answer stays. -/
theorem result_step (h : ObjectStep s k o e o') (hr : o.result ≠ .pending) :
    o'.result = o.result := by
  cases h with
  | kept => rfl
  | own h => exact h.result
  | frame => exact result_onFrame _ hr
  | shut => exact result_resolve _ hr

theorem endsLoop_step (he : e.EndsLoop) (h : taskStep s e = some s') :
    s.shut = false ∧ s' = s.shutdown := by
  cases e with
  | sendFails => cases he
  | session e =>
    obtain ⟨⟨_,f⟩,hs,rfl⟩ := Option.map_eq_some_iff.mp h
    cases e with
    | receive data =>
      obtain ⟨error,hd⟩ := he
      simp only [sessionStep,hd,Option.ite_none_left_eq_some,Option.some.injEq,Prod.mk.injEq] at hs
      exact ⟨by simpa using hs.1,hs.2.1.symm⟩
    | transportCloses =>
      simp only [sessionStep,Option.ite_none_left_eq_some,Option.some.injEq,Prod.mk.injEq] at hs
      exact ⟨by simpa using hs.1,hs.2.1.symm⟩
    | _ => cases he

theorem returns_step (h : taskStep s (.session (.dialReturns k)) = some s') : Returned k s' := by
  obtain ⟨⟨_,f⟩,hs,rfl⟩ := Option.map_eq_some_iff.mp h
  obtain ⟨o,ho,hs⟩ := Option.bind_eq_some_iff.mp hs
  simp only [streamStep,Option.ite_none_right_eq_some,Option.some.injEq,Prod.mk.injEq] at hs
  obtain ⟨-,rfl,-⟩ := hs
  exact ⟨{ o with phase := .opened },by simp [getElem?_setObject ho ho],Or.inl rfl⟩

/-- A dial whose stream has its error: it can only fail. -/
def Refused (k : Nat) (s : TunnelSession) : Prop :=
  ∃ o reason, s.objects[k]? = some o ∧ o.result = .err reason

theorem ends_refused (h : s.Held) (he : e.EndsLoop) (hs : taskStep s e = some s')
    (ho : s.objects[k]? = some o) (hp : o.phase = .dialling) (hr : o.result = .pending) :
    Refused k s' := by
  obtain ⟨hopen,rfl⟩ := endsLoop_step he hs
  have hheld := h.held hopen k o ho (live_of_phase (Or.inl hp))
  refine ⟨_,utf8 "session closed",getElem?_shutdown ho,?_⟩
  simp [hheld,TunnelSession.shutStream,TunnelStream.resolve,TunnelStream.feedEof,
    TunnelStream.feed,hr]

theorem refused_step (hs : taskStep s e = some s') (h : Refused k s) : Refused k s' := by
  obtain ⟨o,reason,ho,hr⟩ := h
  obtain ⟨o',ho',hstep⟩ := taskStep_object hs ho
  exact ⟨o',reason,ho',(result_step hstep (by simp [hr])).trans hr⟩

theorem run_returned (h : Run taskSystem tr s) (hfresh : ∀ t ∈ tr, FreshDial t.pre t.label)
    (hk : ∃ t ∈ tr, t.label = .session (.dialReturns k)) : Returned k s :=
  h.leaves_under held_inductive (fun _ _ _ hs hlabel => returns_step (hlabel ▸ hs))
    (fun _ hinv _ hs hr => returned_step hinv.tabled hs hr) hfresh hk

/-- In a run whose dials take ids that no stream being dialled or open has, the end of the read
loop reaches every stream and every dial. -/
theorem shutdown_complete (h : Run taskSystem tr s) (hfresh : ∀ t ∈ tr, FreshDial t.pre t.label)
    (hshut : s.shut = true) : ShutdownComplete tr s := by
  have hheld := h.guarded held_inductive hfresh
  refine ⟨hheld.emptied hshut,fun k hk => ?_,fun t ht he k o ho hp hr => ?_,
    fun k o ho hp => (hheld.ended hshut k o ho (live_of_phase (Or.inl hp))).2,fun host port => ?_⟩
  · obtain ⟨o,ho,hopen | hclosing | ⟨-,hlast⟩⟩ := run_returned h hfresh hk
    · exact ⟨o,ho,(hheld.ended hshut k o ho (live_of_phase (Or.inr (Or.inl hopen)))).1⟩
    · exact ⟨o,ho,(hheld.ended hshut k o ho (live_of_phase (Or.inr (Or.inr hclosing)))).1⟩
    · exact ⟨o,ho,hlast⟩
  · have hrefused : Refused k s := h.leaves_under held_inductive
      (E := fun t => t.label.EndsLoop ∧ ∃ o, t.pre.objects[k]? = some o ∧ o.phase = .dialling ∧
        o.result = .pending)
      (fun t hinv _ hs ⟨he,o,ho,hp,hr⟩ => ends_refused hinv he hs ho hp hr)
      (fun t _ _ hs hr => refused_step hs hr) hfresh ⟨t,ht,he,o,ho,hp,hr⟩
    exact hrefused
  · have hclosed := hheld.closed hshut
    simp [taskStep,sessionStep,hclosed]

end Shutdown

section Examples

/-- A stream, a dial that waits for its answer, and bytes that are no frame. -/
def brokenTunnel : List TaskEvent :=
  [.session (.dial "db" 5432),.session (.receive [0,0,0,1,2]),.session (.dialReturns 0),
    .session (.dial "db" 5433),.session (.receive [1])]

theorem broken_tunnel_complete :
    ∃ tr s, Run taskSystem tr s ∧ tr.length = 5 ∧ s.shut = true ∧ ShutdownComplete tr s := by
  have hrun : taskSystem.replay TunnelSession.new brokenTunnel = some _ := rfl
  have h := (Run.start rfl).replay hrun
  have hmeets : taskSystem.Meets FreshDial TunnelSession.new brokenTunnel :=
    ⟨by simp [FreshDial,TunnelSession.new],trivial,trivial,
      show ∀ o ∈ [(⟨1,[],.ok,.opened⟩ : TunnelStream)], o.live = true → o.streamId ≠ 2 by decide,
      trivial,trivial⟩
  exact ⟨_,_,h,rfl,rfl,shutdown_complete h (System.history_meets hmeets (by simp)) rfl⟩

theorem Run.tasks {tr : List (Transition TunnelSession SessionEvent)} {s : TunnelSession}
    (h : Run sessionSystem tr s) : ∃ tr', Run taskSystem tr' s := by
  induction h with
  | start h0 => exact ⟨_,Run.start h0⟩
  | @step _ _ _ e _ hs ih =>
    obtain ⟨tr',ih⟩ := ih
    have htask : taskSystem.step _ (.session e) = some _ := hs
    exact ⟨_,ih.step htask⟩

/-- The first dial has waited while 2^32 others were made; the last of them has taken its place in
the table, and the end of the transport does not reach it. -/
theorem forgotten_dial_waits :
    ∃ tr s, Run taskSystem tr s ∧ s.shut = true ∧ ¬ShutdownComplete tr s := by
  obtain ⟨tr,s,hrun,hopen,hlength,hfirst⟩ := timed_out_dials 4294967294
  have hnext : s.nextId = 1 := by
    rw [(hrun.invariant tabled_inductive).next,hlength]
    decide
  obtain ⟨tr',hrun'⟩ := Run.tasks hrun
  have hdial : taskSystem.step s (.session (.dial "db" 5432)) = some (s.beginDial .dialling) := by
    simp [taskSystem,taskStep,sessionStep,hopen]
  have hends : taskSystem.step (s.beginDial .dialling) (.session .transportCloses) =
      some (s.beginDial .dialling).shutdown := by
    have hshut : (s.beginDial .dialling).shut = false := by
      cases hs : s.shut with
      | false => exact hs
      | true =>
        have hclosed := hrun'.invariant shut_closed hs
        rw [hopen] at hclosed
        cases hclosed
    simp [taskSystem,taskStep,sessionStep,hshut]
  -- the entry of id 1 is the new dial's
  have hlost : (s.beginDial .dialling).shutdown.objects[0]? =
      some ⟨1,[],.pending,.dialling⟩ := by
    rw [getElem?_shutdown (beginDial_keeps hfirst)]
    simp [TunnelSession.beginDial,hnext,hlength]
  exact ⟨_,_,(hrun'.step hdial).step hends,rfl,fun h => h.answered 0 _ hlost rfl rfl⟩

end Examples

end Nexplane
