import Nexplane.TunnelFrames
import Nexplane.Lib.Lists
import Nexplane.Lib.Runs
import Mathlib.Logic.Function.Basic

set_option autoImplicit false

/-! The control plane's end of one agent's tunnel: ids from a counter that wraps, a table of
streams and the frames of the read loop. -/

namespace Nexplane
open Text Runs Lists

/-- The future `_open`. -/
inductive OpenResult where
  | pending
  | ok
  | err (reason : Bytes)
  deriving DecidableEq, Repr

inductive StreamPhase where
  /-- `dial` awaits `_open`. -/
  | dialling
  | opened
  /-- `close` has set `_closed` and sent CLOSE. -/
  | closing
  /-- Closed, or its dial failed: the stream has been forgotten. -/
  | done
  /-- The transport refused the OPEN frame; nobody forgets the stream. -/
  | unsent
  deriving DecidableEq, Repr

structure TunnelStream where
  streamId : Int
  /-- The payloads fed to `_rq`; the empty one is its end of file. -/
  rq : List Bytes
  result : OpenResult
  phase : StreamPhase
  deriving DecidableEq, Repr

/-- Being dialled or open. -/
def TunnelStream.live (o : TunnelStream) : Bool :=
  match o.phase with
  | .dialling | .opened | .closing => true
  | .done | .unsent => false

def TunnelStream.feed (o : TunnelStream) (data : Bytes) : TunnelStream :=
  { o with rq := o.rq ++ [data] }

def TunnelStream.feedEof (o : TunnelStream) : TunnelStream := o.feed []

def TunnelStream.resolve (o : TunnelStream) (result : OpenResult) : TunnelStream :=
  if o.result = .pending then { o with result } else o

/-- A stream object is known by the number of its dial. -/
structure TunnelSession where
  streams : Int → Option Nat
  objects : List TunnelStream
  nextId : Int
  closed : Bool
  /-- The read loop has ended and run `_shutdown`. -/
  shut : Bool

namespace TunnelSession

def new : TunnelSession := ⟨fun _ => none,[],1,false,false⟩

/-- `(self._next_id + 1) & 0xFFFFFFFF or 1`. -/
def followingId (id : Int) : Int :=
  let next := (id + 1) % 4294967296
  if next = 0 then 1 else next

def forget (s : TunnelSession) (streamId : Int) : TunnelSession :=
  { s with streams := Function.update s.streams streamId none }

def setObject (s : TunnelSession) (k : Nat) (o : TunnelStream) : TunnelSession :=
  { s with objects := s.objects.set k o }

/-- `dial` up to the send of its OPEN frame. -/
def beginDial (s : TunnelSession) (phase : StreamPhase) : TunnelSession :=
  { s with
    streams := Function.update s.streams s.nextId (some s.objects.length)
    objects := s.objects ++ [⟨s.nextId,[],.pending,phase⟩]
    nextId := followingId s.nextId }

/-- What a frame does to the stream it names. -/
def onFrame (frame : Protocol.Frame) (o : TunnelStream) : TunnelStream :=
  if frame.type = Protocol.DATA then o.feed frame.payload
  else if frame.type = Protocol.OPEN_OK then o.resolve .ok
  else if frame.type = Protocol.OPEN_ERR then
    o.resolve (.err (if frame.payload = [] then utf8 "dial failed" else frame.payload))
  else if frame.type = Protocol.CLOSE then o.feedEof
  else o

def handleFrame (s : TunnelSession) (frame : Protocol.Frame) : TunnelSession :=
  match s.streams frame.streamId with
  | none => s
  | some k =>
    match s.objects[k]? with
    | none => s
    | some o => s.setObject k (onFrame frame o)

/-- `_shutdown` of one stream of the table. -/
def shutStream (o : TunnelStream) : TunnelStream :=
  o.feedEof.resolve (.err (utf8 "session closed"))

def shutdown (s : TunnelSession) : TunnelSession :=
  { s with
    streams := fun _ => none
    objects := s.objects.zipIdx.map fun (o,k) =>
      if s.streams o.streamId = some k then shutStream o else o
    closed := true
    shut := true }

end TunnelSession

inductive SessionEvent where
  | dial (host : String) (port : Int)
  | dialUnsent (host : String) (port : Int)
  | dialReturns (stream : Nat)
  | dialRefused (stream : Nat)
  | dialTimesOut (stream : Nat)
  | write (stream : Nat) (data : Bytes)
  | closeBegins (stream : Nat)
  | closeEnds (stream : Nat)
  | receive (data : Bytes)
  | closeSession
  | transportCloses
  deriving DecidableEq, Repr

/-- The step of a task that holds stream `k`, with the frame it sends. -/
def streamStep (s : TunnelSession) (k : Nat) (o : TunnelStream) :
    SessionEvent → Option (TunnelSession × Option Protocol.Frame)
  | .dialReturns _ =>
    if o.phase = .dialling ∧ o.result = .ok then
      some (s.setObject k { o with phase := .opened },none)
    else none
  | .dialRefused _ =>
    match o.result with
    | .err _ =>
      if o.phase = .dialling then
        some ((s.setObject k { o with phase := .done }).forget o.streamId,none)
      else none
    | _ => none
  -- the timer may win against a result that the task has not seen yet
  | .dialTimesOut _ =>
    if o.phase = .dialling then
      some ((s.setObject k { o with phase := .done }).forget o.streamId,none)
    else none
  | .write _ data =>
    if o.phase = .opened then some (s,some ⟨o.streamId,Protocol.DATA,data⟩) else none
  | .closeBegins _ =>
    if o.phase = .opened then
      some (s.setObject k { o with phase := .closing },some ⟨o.streamId,Protocol.CLOSE,[]⟩)
    else none
  | .closeEnds _ =>
    if o.phase = .closing then
      some ((s.setObject k { o.feedEof with phase := .done }).forget o.streamId,none)
    else none
  | _ => none

/-- One step between two awaits, with the frame it hands to the transport. -/
def sessionStep (s : TunnelSession) (e : SessionEvent) :
    Option (TunnelSession × Option Protocol.Frame) :=
  match e with
  | .dial host port =>
    if s.closed = true then none
    else some (s.beginDial .dialling,
      some ⟨s.nextId,Protocol.OPEN,utf8 (Protocol.openText host port)⟩)
  | .dialUnsent _ _ => if s.closed = true then none else some (s.beginDial .unsent,none)
  | .dialReturns k | .dialRefused k | .dialTimesOut k | .write k _ | .closeBegins k
  | .closeEnds k => (s.objects[k]?).bind fun o => streamStep s k o e
  | .receive data =>
    if s.shut = true then none
    else
      match Protocol.decode data with
      | .error _ => some (s.shutdown,none)
      | .ok frame => some (s.handleFrame frame,none)
  | .closeSession => some ({ s with closed := true },none)
  | .transportCloses => if s.shut = true then none else some (s.shutdown,none)

def sessionSystem : System TunnelSession SessionEvent where
  start s := s = TunnelSession.new
  step s e := (sessionStep s e).map Prod.fst

/-- What every step but a dial leaves as it is. -/
structure TunnelSession.Kept (s s' : TunnelSession) : Prop where
  length : s'.objects.length = s.objects.length
  nextId : s'.nextId = s.nextId
  streams : ∀ i k, s'.streams i = some k → s.streams i = some k
  object : ∀ (k : Nat) (o : TunnelStream), s.objects[k]? = some o →
    ∃ o', s'.objects[k]? = some o' ∧ o'.streamId = o.streamId ∧
      (o'.live = true → o.live = true) ∧
      (o'.phase = .done → o.phase = .done ∨ s'.streams o.streamId = none)

section Steps

variable {s s' : TunnelSession} {k : Nat} {o o' : TunnelStream} {e : SessionEvent}
  {f : Option Protocol.Frame}

@[simp] theorem phase_resolve (r : OpenResult) : (o.resolve r).phase = o.phase := by
  unfold TunnelStream.resolve
  split <;> rfl

@[simp] theorem streamId_resolve (r : OpenResult) : (o.resolve r).streamId = o.streamId := by
  unfold TunnelStream.resolve
  split <;> rfl

@[simp] theorem rq_resolve (r : OpenResult) : (o.resolve r).rq = o.rq := by
  unfold TunnelStream.resolve
  split <;> rfl

theorem onFrame_frame (frame : Protocol.Frame) (o : TunnelStream) :
    (TunnelSession.onFrame frame o).streamId = o.streamId ∧
      (TunnelSession.onFrame frame o).phase = o.phase := by
  unfold TunnelSession.onFrame
  split
  · exact ⟨rfl,rfl⟩
  · split
    · exact ⟨streamId_resolve _,phase_resolve _⟩
    · split
      · exact ⟨streamId_resolve _,phase_resolve _⟩
      · split <;> exact ⟨rfl,rfl⟩

theorem live_congr (h : o'.phase = o.phase) : o'.live = o.live := by
  rw [TunnelStream.live,TunnelStream.live,h]

theorem Kept.refl (s : TunnelSession) : s.Kept s :=
  ⟨rfl,rfl,fun _ _ h => h,fun _ o ho => ⟨o,ho,rfl,id,Or.inl⟩⟩

/-- A step that replaces one object, and forgets its stream where the object is done. -/
theorem Kept.set (ho : s.objects[k]? = some o) (hobjects : s'.objects = s.objects.set k o')
    (hnext : s'.nextId = s.nextId)
    (hstreams : ∀ i k, s'.streams i = some k → s.streams i = some k)
    (hid : o'.streamId = o.streamId) (hlive : o'.live = true → o.live = true)
    (hdone : o'.phase = .done → o.phase = .done ∨ s'.streams o.streamId = none) : s.Kept s' := by
  refine ⟨by rw [hobjects,List.length_set],hnext,hstreams,fun j oj hj => ?_⟩
  rw [hobjects]
  by_cases hjk : j = k
  · subst hjk
    obtain rfl : o = oj := Option.some.inj (ho.symm.trans hj)
    exact ⟨o',by simp [(List.getElem?_eq_some_iff.mp ho).1],hid,hlive,hdone⟩
  · exact ⟨oj,by rw [List.getElem?_set_ne (Ne.symm hjk)]; exact hj,rfl,id,Or.inl⟩

theorem forget_streams {i : Int} {id : Int} {k : Nat}
    (h : (s.forget id).streams i = some k) : s.streams i = some k := by
  by_cases hi : i = id
  · simp [TunnelSession.forget,hi] at h
  · simpa [TunnelSession.forget,hi] using h

theorem Kept.done (ho : s.objects[k]? = some o) (hid : o'.streamId = o.streamId)
    (hdone : o'.phase = .done) : s.Kept ((s.setObject k o').forget o.streamId) := by
  have hlive : o'.live = true → o.live = true := by simp [TunnelStream.live,hdone]
  exact Kept.set ho rfl rfl (fun _ _ h => forget_streams h) hid hlive
    fun _ => Or.inr (by simp [TunnelSession.forget])

theorem handleFrame_kept (s : TunnelSession) (frame : Protocol.Frame) :
    s.Kept (s.handleFrame frame) := by
  unfold TunnelSession.handleFrame
  split
  · exact Kept.refl s
  · split
    · exact Kept.refl s
    · next k _ o ho =>
      obtain ⟨hid,hphase⟩ := onFrame_frame frame o
      exact Kept.set ho rfl rfl (fun _ _ h => h) hid (by rw [live_congr hphase]; exact id)
        fun h => Or.inl (hphase ▸ h)

theorem shutdown_kept (s : TunnelSession) : s.Kept s.shutdown := by
  refine ⟨by simp [TunnelSession.shutdown],rfl,nofun,fun k o ho => ?_⟩
  have hget : s.shutdown.objects[k]? =
      some (if s.streams o.streamId = some k then TunnelSession.shutStream o else o) := by
    simp [TunnelSession.shutdown,ho]
  have hphase : (if s.streams o.streamId = some k then TunnelSession.shutStream o else o).phase =
      o.phase := by
    split
    · exact phase_resolve _
    · rfl
  have hid : (if s.streams o.streamId = some k then TunnelSession.shutStream o else o).streamId =
      o.streamId := by
    split
    · exact streamId_resolve _
    · rfl
  exact ⟨_,hget,hid,by rw [live_congr hphase]; exact id,fun h => Or.inl (hphase ▸ h)⟩

theorem streamStep_kept (ho : s.objects[k]? = some o) (h : streamStep s k o e = some (s',f)) :
    s.Kept s' := by
  cases e with
  | dialReturns =>
    simp only [streamStep,Option.ite_none_right_eq_some,Option.some.injEq,Prod.mk.injEq] at h
    obtain ⟨⟨hp,_⟩,rfl,_⟩ := h
    exact Kept.set ho rfl rfl (fun _ _ h => h) rfl (fun _ => by simp [TunnelStream.live,hp])
      nofun
  | dialRefused =>
    simp only [streamStep] at h
    split at h
    · simp only [Option.ite_none_right_eq_some,Option.some.injEq,Prod.mk.injEq] at h
      obtain ⟨_,rfl,_⟩ := h
      exact Kept.done ho rfl rfl
    · cases h
  | dialTimesOut =>
    simp only [streamStep,Option.ite_none_right_eq_some,Option.some.injEq,Prod.mk.injEq] at h
    obtain ⟨_,rfl,_⟩ := h
    exact Kept.done ho rfl rfl
  | write =>
    simp only [streamStep,Option.ite_none_right_eq_some,Option.some.injEq,Prod.mk.injEq] at h
    obtain ⟨_,rfl,_⟩ := h
    exact Kept.refl s
  | closeBegins =>
    simp only [streamStep,Option.ite_none_right_eq_some,Option.some.injEq,Prod.mk.injEq] at h
    obtain ⟨hp,rfl,_⟩ := h
    exact Kept.set ho rfl rfl (fun _ _ h => h) rfl (fun _ => by simp [TunnelStream.live,hp])
      nofun
  | closeEnds =>
    simp only [streamStep,Option.ite_none_right_eq_some,Option.some.injEq,Prod.mk.injEq] at h
    obtain ⟨_,rfl,_⟩ := h
    exact Kept.done ho rfl rfl
  | dial | dialUnsent | receive | closeSession | transportCloses => cases h

/-- A step begins a dial, or keeps the streams there are. -/
theorem sessionStep_cases (h : sessionStep s e = some (s',f)) :
    (s.closed = false ∧ ((∃ host port, e = .dial host port ∧ s' = s.beginDial .dialling) ∨
      ∃ host port, e = .dialUnsent host port ∧ s' = s.beginDial .unsent)) ∨ s.Kept s' := by
  cases e with
  | dial host port =>
    simp only [sessionStep,Option.ite_none_left_eq_some,Option.some.injEq,Prod.mk.injEq] at h
    obtain ⟨hc,rfl,_⟩ := h
    exact Or.inl ⟨by simpa using hc,Or.inl ⟨host,port,rfl,rfl⟩⟩
  | dialUnsent host port =>
    simp only [sessionStep,Option.ite_none_left_eq_some,Option.some.injEq,Prod.mk.injEq] at h
    obtain ⟨hc,rfl,_⟩ := h
    exact Or.inl ⟨by simpa using hc,Or.inr ⟨host,port,rfl,rfl⟩⟩
  | dialReturns | dialRefused | dialTimesOut | write | closeBegins | closeEnds =>
    obtain ⟨o,ho,h⟩ := Option.bind_eq_some_iff.mp h
    exact Or.inr (streamStep_kept ho h)
  | receive data =>
    simp only [sessionStep] at h
    split at h
    · cases h
    · split at h <;> simp only [Option.some.injEq,Prod.mk.injEq] at h <;> obtain ⟨rfl,_⟩ := h
      · exact Or.inr (shutdown_kept s)
      · exact Or.inr (handleFrame_kept s _)
  | closeSession =>
    simp only [sessionStep,Option.some.injEq,Prod.mk.injEq] at h
    obtain ⟨rfl,_⟩ := h
    exact Or.inr ⟨rfl,rfl,fun _ _ h => h,fun _ o ho => ⟨o,ho,rfl,id,Or.inl⟩⟩
  | transportCloses =>
    simp only [sessionStep,Option.ite_none_left_eq_some,Option.some.injEq,Prod.mk.injEq] at h
    obtain ⟨_,rfl,_⟩ := h
    exact Or.inr (shutdown_kept s)

end Steps

/-- Ids follow from the numbers of the dials, and the table holds no forgotten stream. -/
structure TunnelSession.Tabled (s : TunnelSession) : Prop where
  next : s.nextId = (s.objects.length : Int) % 4294967295 + 1
  ids : ∀ (k : Nat) o, s.objects[k]? = some o → o.streamId = (k : Int) % 4294967295 + 1
  entry : ∀ i k, s.streams i = some k →
    ∃ o, s.objects[k]? = some o ∧ o.streamId = i ∧ o.phase ≠ .done

/-- No two streams that are being dialled or open have one id. -/
def TunnelSession.Distinct (s : TunnelSession) : Prop :=
  ∀ (j k : Nat) (o o' : TunnelStream), s.objects[j]? = some o → s.objects[k]? = some o' → j ≠ k →
    o.live = true → o'.live = true → o.streamId ≠ o'.streamId

def TunnelSession.ValidIds (s : TunnelSession) : Prop :=
  ∀ o ∈ s.objects, 1 ≤ o.streamId ∧ o.streamId ≤ 0xFFFFFFFF

/-- A DATA payload goes to the one stream dialled under its id that the table holds, and that
stream has not been closed. -/
def DeliveredToOwner (t : Transition TunnelSession SessionEvent) : Prop :=
  ∀ data frame, t.label = .receive data → Protocol.decode data = .ok frame →
    frame.type = Protocol.DATA → ∀ (k : Nat) (o o' : TunnelStream), t.pre.objects[k]? = some o →
      t.post.objects[k]? = some o' → o'.rq ≠ o.rq →
        o.streamId = frame.streamId ∧ o.phase ≠ .done ∧ o'.rq = o.rq ++ [frame.payload]

def StreamIsolation (t : Transition TunnelSession SessionEvent) : Prop :=
  t.post.Distinct ∧ t.post.ValidIds ∧ DeliveredToOwner t

/-- The id that a dial takes is not the id of a stream that is being dialled or open. -/
def FreshId (s : TunnelSession) : SessionEvent → Prop
  | .dial _ _ => ∀ o ∈ s.objects, o.live = true → o.streamId ≠ s.nextId
  | _ => True

section Isolation

variable {s s' : TunnelSession} {e : SessionEvent} {f : Option Protocol.Frame}

theorem followingId_eq (n : Nat) :
    TunnelSession.followingId ((n : Int) % 4294967295 + 1) =
      ((n + 1 : Nat) : Int) % 4294967295 + 1 := by
  simp only [TunnelSession.followingId]
  split <;> omega

theorem getElem?_beginDial {phase : StreamPhase} {k : Nat} {o : TunnelStream}
    (h : (s.beginDial phase).objects[k]? = some o) :
    (k = s.objects.length ∧ o = ⟨s.nextId,[],.pending,phase⟩) ∨ s.objects[k]? = some o :=
  getElem?_append_singleton_cases h

theorem beginDial_keeps {phase : StreamPhase} {k : Nat} {o : TunnelStream}
    (h : s.objects[k]? = some o) : (s.beginDial phase).objects[k]? = some o := by
  have hlt := (List.getElem?_eq_some_iff.mp h).1
  rw [TunnelSession.beginDial,List.getElem?_append_left hlt]
  exact h

theorem tabled_beginDial (ht : s.Tabled) {phase : StreamPhase} (hp : phase ≠ .done) :
    (s.beginDial phase).Tabled := by
  refine ⟨?_,?_,?_⟩
  · have hlength : (s.beginDial phase).objects.length = s.objects.length + 1 := by
      simp [TunnelSession.beginDial]
    rw [hlength,← followingId_eq,← ht.next]
    rfl
  · intro k o ho
    rcases getElem?_beginDial ho with ⟨rfl,rfl⟩ | ho
    · exact ht.next
    · exact ht.ids k o ho
  · intro i k hk
    by_cases hi : i = s.nextId
    · subst hi
      have hlast : s.objects.length = k := by simpa [TunnelSession.beginDial] using hk
      subst hlast
      exact ⟨⟨s.nextId,[],.pending,phase⟩,by simp [TunnelSession.beginDial],rfl,hp⟩
    · have hold : s.streams i = some k := by simpa [TunnelSession.beginDial,hi] using hk
      obtain ⟨o,ho,hid,hphase⟩ := ht.entry i k hold
      exact ⟨o,beginDial_keeps ho,hid,hphase⟩

theorem Kept.old (hk : s.Kept s') {k : Nat} {o' : TunnelStream} (ho' : s'.objects[k]? = some o') :
    ∃ o, s.objects[k]? = some o ∧ o'.streamId = o.streamId ∧ (o'.live = true → o.live = true) := by
  have hlt : k < s.objects.length := hk.length ▸ (List.getElem?_eq_some_iff.mp ho').1
  obtain ⟨o'',ho'',hid,hlive,_⟩ := hk.object k _ (List.getElem?_eq_getElem hlt)
  obtain rfl : o'' = o' := Option.some.inj (ho''.symm.trans ho')
  exact ⟨_,List.getElem?_eq_getElem hlt,hid,hlive⟩

theorem tabled_kept (ht : s.Tabled) (hk : s.Kept s') : s'.Tabled := by
  refine ⟨by rw [hk.nextId,hk.length]; exact ht.next,?_,?_⟩
  · intro k o' ho'
    obtain ⟨o,ho,hid,_⟩ := Kept.old hk ho'
    rw [hid]
    exact ht.ids k o ho
  · intro i k hi
    obtain ⟨o,ho,hid,hphase⟩ := ht.entry i k (hk.streams i k hi)
    obtain ⟨o',ho',hid',_,hdone⟩ := hk.object k o ho
    refine ⟨o',ho',hid'.trans hid,fun hd => ?_⟩
    rcases hdone hd with hd | hnone
    · exact hphase hd
    · rw [hid,hi] at hnone
      cases hnone

theorem tabled_step (ht : s.Tabled) (h : sessionStep s e = some (s',f)) : s'.Tabled := by
  rcases sessionStep_cases h with ⟨_,⟨_,_,_,rfl⟩ | ⟨_,_,_,rfl⟩⟩ | hk
  · exact tabled_beginDial ht nofun
  · exact tabled_beginDial ht nofun
  · exact tabled_kept ht hk

theorem tabled_inductive : Inductive sessionSystem TunnelSession.Tabled where
  start := by
    rintro s rfl
    exact ⟨rfl,by simp [TunnelSession.new],nofun⟩
  step s e s' ht h := by
    obtain ⟨⟨_,f⟩,hstep,rfl⟩ := Option.map_eq_some_iff.mp h
    exact tabled_step ht hstep

theorem validIds_of_tabled (ht : s.Tabled) : s.ValidIds := by
  intro o ho
  obtain ⟨k,hk⟩ := List.mem_iff_getElem?.mp ho
  have hid := ht.ids k o hk
  omega

theorem distinct_kept (hd : s.Distinct) (hk : s.Kept s') : s'.Distinct := by
  intro j k oj ok hj hk' hne hlj hlk
  obtain ⟨pj,hpj,hidj,hlivej⟩ := Kept.old hk hj
  obtain ⟨pk,hpk,hidk,hlivek⟩ := Kept.old hk hk'
  rw [hidj,hidk]
  exact hd j k pj pk hpj hpk hne (hlivej hlj) (hlivek hlk)

theorem distinct_beginDial (hd : s.Distinct) {phase : StreamPhase}
    (hfresh : TunnelStream.live ⟨s.nextId,[],.pending,phase⟩ = true →
      ∀ o ∈ s.objects, o.live = true → o.streamId ≠ s.nextId) : (s.beginDial phase).Distinct := by
  intro j k oj ok hj hk hne hlj hlk
  rcases getElem?_beginDial hj with ⟨rfl,rfl⟩ | hj
  · rcases getElem?_beginDial hk with ⟨rfl,rfl⟩ | hk
    · exact absurd rfl hne
    · exact Ne.symm (hfresh hlj ok (List.mem_of_getElem? hk) hlk)
  · rcases getElem?_beginDial hk with ⟨rfl,rfl⟩ | hk
    · exact hfresh hlk oj (List.mem_of_getElem? hj) hlj
    · exact hd j k oj ok hj hk hne hlj hlk

theorem distinct_step (hd : s.Distinct) (h : sessionStep s e = some (s',f)) :
    s'.Distinct ↔ FreshId s e := by
  rcases sessionStep_cases h with ⟨_,⟨_,_,rfl,rfl⟩ | ⟨_,_,rfl,rfl⟩⟩ | hk
  · constructor
    · intro hpost o ho hlive
      obtain ⟨k,hk⟩ := List.mem_iff_getElem?.mp ho
      have hlt := (List.getElem?_eq_some_iff.mp hk).1
      have hnew : (s.beginDial .dialling).objects[s.objects.length]? =
          some ⟨s.nextId,[],.pending,.dialling⟩ := by simp [TunnelSession.beginDial]
      exact hpost k _ o _ (beginDial_keeps hk) hnew (Nat.ne_of_lt hlt) hlive rfl
    · intro hfresh
      exact distinct_beginDial hd fun _ => hfresh
  · exact iff_of_true (distinct_beginDial hd nofun) trivial
  · refine iff_of_true (distinct_kept hd hk) ?_
    cases e with
    | dial host port =>
      simp only [sessionStep,Option.ite_none_left_eq_some,Option.some.injEq,Prod.mk.injEq] at h
      obtain ⟨_,rfl,_⟩ := h
      have hlength := hk.length
      simp [TunnelSession.beginDial] at hlength
    | _ => trivial

theorem delivered_step (ht : s.Tabled) (h : sessionStep s e = some (s',f)) :
    DeliveredToOwner ⟨s,e,s'⟩ := by
  rintro data frame he hframe htype k o o' ho ho' hrq
  dsimp only at he ho ho'
  subst he
  simp only [sessionStep,hframe,Option.ite_none_left_eq_some,Option.some.injEq,
    Prod.mk.injEq] at h
  obtain ⟨_,rfl,_⟩ := h
  unfold TunnelSession.handleFrame at ho'
  split at ho'
  · exact absurd (congrArg TunnelStream.rq (Option.some.inj (ho'.symm.trans ho))) hrq
  · next j hj =>
    obtain ⟨oj,hoj,hid,hphase⟩ := ht.entry _ _ hj
    rw [hoj] at ho'
    rcases getElem?_set_cases ho' with ⟨rfl,rfl⟩ | ⟨_,ho'⟩
    · obtain rfl : oj = o := Option.some.inj (hoj.symm.trans ho)
      refine ⟨hid,hphase,?_⟩
      rw [TunnelSession.onFrame,if_pos htype]
      rfl
    · exact absurd (congrArg TunnelStream.rq (Option.some.inj (ho'.symm.trans ho))) hrq

/-- A live stream blocks its id only for the dials a whole period after its own. -/
theorem fresh_while_recent (h : Reachable sessionSystem s)
    (hrecent : ∀ (k : Nat) o, s.objects[k]? = some o → o.live = true →
      s.objects.length < k + 4294967295) : FreshId s e := by
  have ht := h.invariant tabled_inductive
  cases e with
  | dial =>
    intro o ho hlive
    obtain ⟨k,hk⟩ := List.mem_iff_getElem?.mp ho
    have hlt := (List.getElem?_eq_some_iff.mp hk).1
    have hbound := hrecent k o hk hlive
    rw [ht.ids k o hk,ht.next]
    omega
  | _ => trivial

theorem second_dial_fresh : FreshId (TunnelSession.new.beginDial .dialling) (.dial "db" 5433) := by
  refine fresh_while_recent ⟨_,(Run.start rfl).step (a := .dial "db" 5432) rfl⟩ fun k _ _ _ => ?_
  change 1 < k + 4294967295
  omega

end Isolation

/-- In a run of a session the streams stay isolated exactly when every dial takes an id that no
stream being dialled or open has. -/
theorem stream_isolation_iff {tr : List (Transition TunnelSession SessionEvent)}
    {s : TunnelSession} (h : Run sessionSystem tr s) :
    (∀ t ∈ tr, StreamIsolation t) ↔ ∀ t ∈ tr, FreshId t.pre t.label := by
  have hstays := h.stays_iff (P := TunnelSession.Distinct) (G := FreshId) tabled_inductive
    (by rintro s rfl; exact nofun) fun s e s' _ hd hstep => by
      obtain ⟨⟨_,f⟩,hsession,rfl⟩ := Option.map_eq_some_iff.mp hstep
      exact distinct_step hd hsession
  rw [← hstays]
  constructor
  · exact fun hiso t ht => (hiso t ht).1
  · intro hd t ht
    obtain ⟨hr,hstep⟩ := h.transition t ht
    have htab := hr.invariant tabled_inductive
    obtain ⟨⟨s',f⟩,hstep,hpost⟩ := Option.map_eq_some_iff.mp hstep
    dsimp only at hpost
    subst hpost
    exact ⟨hd t ht,validIds_of_tabled (tabled_step htab hstep),delivered_step htab hstep⟩

section Examples

/-- The stream of the first dial is still being dialled after any number of dials that time out. -/
theorem timed_out_dials (n : Nat) :
    ∃ tr s, Run sessionSystem tr s ∧ s.closed = false ∧ s.objects.length = n + 1 ∧
      s.objects[0]? = some ⟨1,[],.pending,.dialling⟩ := by
  induction n with
  | zero => exact ⟨_,_,(Run.start rfl).step (a := .dial "db" 5432) rfl,rfl,rfl,rfl⟩
  | succ n ih =>
    obtain ⟨tr,s,hrun,hopen,hlength,hfirst⟩ := ih
    have hdial : sessionSystem.step s (.dial "db" 5432) = some (s.beginDial .dialling) := by
      simp [sessionSystem,sessionStep,hopen]
    have hnew : (s.beginDial .dialling).objects[n + 1]? =
        some ⟨s.nextId,[],.pending,.dialling⟩ := by
      simp [TunnelSession.beginDial,← hlength]
    have htimeout : sessionSystem.step (s.beginDial .dialling) (.dialTimesOut (n + 1)) =
        some (((s.beginDial .dialling).setObject (n + 1) ⟨s.nextId,[],.pending,.done⟩).forget
          s.nextId) := by
      simp [sessionSystem,sessionStep,hnew,streamStep]
    refine ⟨_,_,(hrun.step hdial).step htimeout,hopen,?_,?_⟩
    · simp [TunnelSession.forget,TunnelSession.setObject,TunnelSession.beginDial,hlength]
    · have hne : n + 1 ≠ 0 := by omega
      rw [TunnelSession.forget,TunnelSession.setObject,List.getElem?_set_ne hne]
      exact beginDial_keeps hfirst

/-- The dial number 2^32 takes the id of the first one. -/
theorem ids_collide :
    ∃ tr s, Run sessionSystem tr s ∧ ¬ s.Distinct ∧ ¬ ∀ t ∈ tr, StreamIsolation t := by
  obtain ⟨tr,s,hrun,hopen,hlength,hfirst⟩ := timed_out_dials 4294967294
  have hnext : s.nextId = 1 := by
    rw [(hrun.invariant tabled_inductive).next,hlength]
    decide
  have hdial : sessionSystem.step s (.dial "db" 5432) = some (s.beginDial .dialling) := by
    simp [sessionSystem,sessionStep,hopen]
  have hlt : 0 < s.objects.length := by omega
  have hnew : (s.beginDial .dialling).objects[s.objects.length]? =
      some ⟨1,[],.pending,.dialling⟩ := by
    simp [TunnelSession.beginDial,hnext]
  have hcollide : ¬ (s.beginDial .dialling).Distinct := fun hd =>
    hd 0 s.objects.length _ _ (beginDial_keeps hfirst) hnew (Nat.ne_of_lt hlt) rfl rfl rfl
  exact ⟨_,_,hrun.step hdial,hcollide,fun h => hcollide (h _ List.mem_cons_self).1⟩

/-- Two streams, one closed, with a DATA frame for the other. -/
def twoStreams : List SessionEvent :=
  [.dial "db" 5432,.dial "db" 5433,.receive [0,0,0,1,2],.receive [0,0,0,2,2],.dialReturns 0,
    .dialReturns 1,.closeBegins 0,.closeEnds 0,.receive [0,0,0,2,4,0x68,0x69]]

theorem two_streams_isolated :
    ∃ tr s, Run sessionSystem tr s ∧ tr.length = 9 ∧ ∀ t ∈ tr, StreamIsolation t := by
  have hrun : sessionSystem.replay TunnelSession.new twoStreams = some _ := rfl
  have h := (Run.start rfl).replay hrun
  have hmeets : sessionSystem.Meets FreshId TunnelSession.new twoStreams :=
    ⟨nofun,by simp [FreshId,TunnelSession.beginDial,TunnelSession.new,TunnelSession.followingId],
      trivial,trivial,trivial,trivial,trivial,trivial,trivial,trivial⟩
  exact ⟨_,_,h,rfl,(stream_isolation_iff h).mpr (System.history_meets hmeets (by simp))⟩

end Examples
end Nexplane
