import Nexplane.AgentTunnel

set_option autoImplicit false

/-! The bytes of the agent's streams on their way from the TCP connection to the websocket. -/

namespace Nexplane
open Text Runs Lists

namespace OutFrame

def IsData (k : Nat) (f : OutFrame) : Prop := f.owner = some k ∧ f.frame.type = Protocol.DATA

def IsClose (k : Nat) (f : OutFrame) : Prop := f.owner = some k ∧ f.frame.type = Protocol.CLOSE

instance (k : Nat) (f : OutFrame) : Decidable (f.IsData k) := inferInstanceAs (Decidable (_ ∧ _))

instance (k : Nat) (f : OutFrame) : Decidable (f.IsClose k) := inferInstanceAs (Decidable (_ ∧ _))

theorem IsClose.not_data {k : Nat} {f : OutFrame} (h : f.IsClose k) : ¬f.IsData k := by
  rintro ⟨_,hd⟩
  exact absurd (h.2.symm.trans hd) (by decide)

end OutFrame

/-- The DATA payloads of stream `k`, concatenated. -/
def dataOf (k : Nat) (q : List OutFrame) : Bytes :=
  q.flatMap fun f => if f.IsData k then f.frame.payload else []

def Closed (k : Nat) (q : List OutFrame) : Prop := ∃ f ∈ q, f.IsClose k

def CloseLast (k : Nat) (q : List OutFrame) : Prop :=
  q.Pairwise fun f g => f.IsClose k → ¬g.IsData k

/-- What the websocket has got of the stream: a beginning of the bytes read, and a CLOSE after all
of them. -/
structure StreamIntact (k : Nat) (bytesRead : Bytes) (q : List OutFrame) : Prop where
  reads : dataOf k q <+: bytesRead
  closeLast : CloseLast k q
  complete : Closed k q → dataOf k q = bytesRead

section Frames

variable {k : Nat} {q q' : List OutFrame} {f : OutFrame}

theorem dataOf_append : dataOf k (q ++ q') = dataOf k q ++ dataOf k q' := List.flatMap_append

theorem dataOf_eq_nil (h : ∀ f ∈ q, ¬f.IsData k) : dataOf k q = [] :=
  List.flatMap_eq_nil_iff.mpr fun f hf => if_neg (h f hf)

theorem dataOf_concat (h : ¬f.IsData k) : dataOf k (q ++ [f]) = dataOf k q := by
  rw [dataOf_append,dataOf_eq_nil (q := [f]) (by simpa using h),List.append_nil]

theorem dataOf_concat_data (h : f.IsData k) :
    dataOf k (q ++ [f]) = dataOf k q ++ f.frame.payload := by
  simp [dataOf,h]

theorem closed_concat : Closed k (q ++ [f]) ↔ Closed k q ∨ f.IsClose k := by
  simp [Closed,or_and_right,exists_or]

theorem CloseLast.concat (h : CloseLast k q) (hf : Closed k q → ¬f.IsData k) :
    CloseLast k (q ++ [f]) := by
  refine List.pairwise_append.mpr ⟨h,List.pairwise_singleton _ _,fun g hg f' hf' hc => ?_⟩
  obtain rfl := List.mem_singleton.mp hf'
  exact hf ⟨g,hg,hc⟩

end Frames

namespace TunnelConn

/-- The bytes read that are still to be sent. -/
def pending (c : TunnelConn) : Bytes :=
  match c.phase with
  | .chunk frame _ => frame
  | _ => []

/-- The goroutine has stored its connection. -/
def Stored (c : TunnelConn) : Prop :=
  match c.phase with
  | .dialling | .refused _ | .connected => False
  | _ => True

/-- No byte of the stream will be sent any more. -/
def Mute (c : TunnelConn) : Prop :=
  match c.phase with
  | .stored | .reading => c.tcpOpen = false
  | .failing | .closing | .exited => True
  | _ => False

theorem Mute.pending {c : TunnelConn} (h : c.Mute) : c.pending = [] := by
  unfold TunnelConn.Mute at h
  unfold TunnelConn.pending
  split
  · next hp => simp [hp] at h
  · rfl

end TunnelConn

/-- All frames that the channel has taken, in order. -/
def AgentTunnel.queue (s : AgentTunnel) : List OutFrame := s.written ++ s.writer.frames ++ s.writeCh

/-- The frames taken are the bytes read, save the chunk in hand. -/
structure Tracks (k : Nat) (c : TunnelConn) (q : List OutFrame) : Prop where
  bytes : dataOf k q ++ c.pending = c.bytesRead
  mute : Closed k q → c.Mute
  closeLast : CloseLast k q

/-- While the writer is at work the whole channel tracks the stream, afterwards what it wrote stays
intact. -/
structure Accounted (s : AgentTunnel) (k : Nat) (c : TunnelConn) : Prop where
  tracks : s.writer.done = false → s.panicked = false → Tracks k c s.queue
  intact : StreamIntact k c.bytesRead s.written
  mute : Closed k s.written → c.Mute

/-- A chunk finds room in the channel, and the CLOSE of a failed write finds no chunk in hand;
neither matters once the writer has returned or the channel is closed. -/
def LosesNothing (s : AgentTunnel) : AgentTunnelEvent → Prop
  | .sendData _ =>
    s.writeCh.length < writeChannelSize ∨ s.writer.done = true ∨ s.chClosed = true
  | .receive f writeOk =>
    f.type = Protocol.DATA → writeOk = false → ∀ k c, s.streams f.streamId = some k →
      s.conns[k]? = some c →
      (∀ data failed, c.phase ≠ .chunk data failed) ∨ writeChannelSize ≤ s.writeCh.length ∨
        s.writer.done = true
  | _ => True

structure StreamsKept (s : AgentTunnel) : Prop where
  table : ∀ id k, s.streams id = some k → ∃ c, s.conns[k]? = some c ∧ c.Stored
  owners : ∀ f ∈ s.queue, ∀ k, f.owner = some k → k < s.conns.length
  conn : ∀ k c, s.conns[k]? = some c → Accounted s k c

theorem Tracks.intact {k : Nat} {c : TunnelConn} {q rest : List OutFrame}
    (h : Tracks k c (q ++ rest)) : StreamIntact k c.bytesRead q := by
  have hdata := h.bytes
  rw [dataOf_append,List.append_assoc] at hdata
  obtain ⟨hlast,_,hcross⟩ := List.pairwise_append.mp h.closeLast
  refine ⟨⟨_,hdata⟩,hlast,fun ⟨f,hf,hclose⟩ => ?_⟩
  have hmute := h.mute ⟨f,List.mem_append_left _ hf,hclose⟩
  have hrest : dataOf k rest = [] := dataOf_eq_nil fun g hg => hcross f hf g hg hclose
  rw [← hdata,hrest,hmute.pending,List.append_nil,List.append_nil]

section Steps

variable {isAllowed : Bytes → Int → Bool} {s s' : AgentTunnel} {k : Nat} {c c' : TunnelConn}
  {e : AgentTunnelEvent} {f : OutFrame}

/-- The step leaves what the stream has read and still has to send. -/
structure SameBytes (c c' : TunnelConn) : Prop where
  bytesRead : c'.bytesRead = c.bytesRead
  pending : c'.pending = c.pending
  mute : c.Mute → c'.Mute

theorem SameBytes.refl (c : TunnelConn) : SameBytes c c := ⟨rfl,rfl,id⟩

theorem sameBytes_shut (c : TunnelConn) : SameBytes c (AgentTunnel.shutConn c) := by
  refine ⟨rfl,rfl,fun h => ?_⟩
  unfold TunnelConn.Mute at h ⊢
  simp only [AgentTunnel.shutConn]
  split at h <;> simp_all

/-- The frame is no DATA and no CLOSE of the stream, if the channel took one at all. -/
def Beside (k : Nat) (q q' : List OutFrame) : Prop :=
  q' = q ∨ ∃ f, q' = q ++ [f] ∧ ¬f.IsData k ∧ ¬f.IsClose k

theorem Tracks.beside {q q' : List OutFrame} (h : Tracks k c q) (hq : Beside k q q')
    (hc : SameBytes c c') : Tracks k c' q' := by
  rcases hq with rfl | ⟨f,rfl,hdata,hclose⟩
  · exact ⟨by rw [hc.pending,hc.bytesRead]; exact h.bytes,fun hcl => hc.mute (h.mute hcl),
      h.closeLast⟩
  · refine ⟨?_,fun hcl => ?_,h.closeLast.concat fun _ => hdata⟩
    · rw [dataOf_concat hdata,hc.pending,hc.bytesRead]
      exact h.bytes
    · exact hc.mute (h.mute ((closed_concat.mp hcl).resolve_right hclose))

/-- A step of other business, as the stream sees it. -/
theorem Accounted.beside (h : Accounted s k c) (hc : SameBytes c c')
    (hwritten : s'.written = s.written) (hwriter : s'.writer = s.writer)
    (hpanic : s'.panicked = false → s.panicked = false) (hq : Beside k s.queue s'.queue) :
    Accounted s' k c' where
  tracks hd hp := (h.tracks (hwriter ▸ hd) (hpanic hp)).beside hq hc
  intact := by
    rw [hwritten,hc.bytesRead]
    exact h.intact
  mute hcl := hc.mute (h.mute (hwritten ▸ hcl))

theorem owners_concat {q q' : List OutFrame} {n : Nat}
    (h : ∀ f ∈ q, ∀ k, f.owner = some k → k < n)
    (hq : q' = q ∨ ∃ f, q' = q ++ [f] ∧ ∀ k, f.owner = some k → k < n) :
    ∀ f ∈ q', ∀ k, f.owner = some k → k < n := by
  rcases hq with rfl | ⟨f,rfl,hf⟩
  · exact h
  · intro g hg
    rcases List.mem_append.mp hg with hg | hg
    · exact h g hg
    · obtain rfl := List.mem_singleton.mp hg
      exact hf

/-- A step that is no stream's own. -/
theorem StreamsKept.beside (hI : StreamsKept s) (hlen : s'.conns.length = s.conns.length)
    (hconns : ∀ (j : Nat) (d : TunnelConn), s'.conns[j]? = some d →
      ∃ c, s.conns[j]? = some c ∧ SameBytes c d ∧ (c.Stored → d.Stored))
    (hstreams : ∀ id j, s'.streams id = some j → s.streams id = some j)
    (hwritten : s'.written = s.written) (hwriter : s'.writer = s.writer)
    (hpanic : s'.panicked = false → s.panicked = false)
    (hq : s'.queue = s.queue ∨ ∃ f, s'.queue = s.queue ++ [f] ∧ f.owner = none) :
    StreamsKept s' where
  table id j hj := by
    obtain ⟨c,hc,hstored⟩ := hI.table id j (hstreams id j hj)
    have hlt : j < s'.conns.length := hlen ▸ (List.getElem?_eq_some_iff.mp hc).1
    have hd := List.getElem?_eq_getElem hlt
    obtain ⟨c',hc',-,hkeep⟩ := hconns j _ hd
    obtain rfl := Option.some.inj (hc.symm.trans hc')
    exact ⟨_,hd,hkeep hstored⟩
  owners := by
    rw [hlen]
    refine owners_concat hI.owners (hq.imp_right ?_)
    rintro ⟨f,hf,hnone⟩
    exact ⟨f,hf,fun k hk => absurd (hnone.symm.trans hk) nofun⟩
  conn j d hd := by
    obtain ⟨c,hc,hsame,-⟩ := hconns j d hd
    refine (hI.conn j c hc).beside hsame hwritten hwriter hpanic (hq.imp_right ?_)
    rintro ⟨f,hf,hnone⟩
    exact ⟨f,hf,fun h => absurd (hnone.symm.trans h.1) nofun,
      fun h => absurd (hnone.symm.trans h.1) nofun⟩

/-- A step of stream `k`: its own account is all that is left to check. -/
theorem StreamsKept.own {d : TunnelConn} (hI : StreamsKept s) (hk : s.conns[k]? = some c)
    (hlen : s'.conns.length = s.conns.length) (hdk : s'.conns[k]? = some d)
    (hconns : ∀ j, j ≠ k → s'.conns[j]? = s.conns[j]?)
    (hstored : c.Stored → d.Stored)
    (hstreams : ∀ id j, s'.streams id = some j → s.streams id = some j ∨ j = k ∧ d.Stored)
    (hwritten : s'.written = s.written) (hwriter : s'.writer = s.writer)
    (hpanic : s'.panicked = false → s.panicked = false)
    (hq : s'.queue = s.queue ∨
      ∃ f, s'.queue = s.queue ++ [f] ∧ ∀ j, f.owner = some j → j = k)
    (hown : Accounted s' k d) : StreamsKept s' where
  table id j hj := by
    by_cases hjk : j = k
    · subst hjk
      rcases hstreams id j hj with h | ⟨_,h⟩
      · obtain ⟨c₀,hc₀,hst⟩ := hI.table id j h
        obtain rfl := Option.some.inj (hk.symm.trans hc₀)
        exact ⟨d,hdk,hstored hst⟩
      · exact ⟨d,hdk,h⟩
    · have h := (hstreams id j hj).resolve_right fun h => hjk h.1
      rw [hconns j hjk]
      exact hI.table id j h
  owners := by
    have hlt : k < s.conns.length := (List.getElem?_eq_some_iff.mp hk).1
    rw [hlen]
    refine owners_concat hI.owners (hq.imp_right ?_)
    rintro ⟨f,hf,howner⟩
    exact ⟨f,hf,fun j hj => howner j hj ▸ hlt⟩
  conn j c₁ hc₁ := by
    by_cases hjk : j = k
    · subst hjk
      obtain rfl := Option.some.inj (hdk.symm.trans hc₁)
      exact hown
    · rw [hconns j hjk] at hc₁
      refine (hI.conn j c₁ hc₁).beside (.refl c₁) hwritten hwriter hpanic (hq.imp_right ?_)
      rintro ⟨f,hf,howner⟩
      exact ⟨f,hf,fun h => hjk (howner j h.1),fun h => hjk (howner j h.1)⟩

theorem sendFrame_queue (owner : Option Nat) (id typ : Int) (payload : Bytes) :
    (s.sendFrame owner id typ payload).queue = s.queue ∨
      (s.sendFrame owner id typ payload).queue =
        s.queue ++ [⟨owner,⟨id,typ,payload⟩⟩] := by
  simp only [AgentTunnel.queue,sendFrame_written,sendFrame_writer]
  rcases sendFrame_writeCh_cases s owner id typ payload with h | h
  · exact Or.inl (by rw [h])
  · exact Or.inr (by rw [h]; simp)

theorem sendFrame_alive (owner : Option Nat) (id typ : Int) (payload : Bytes)
    (h : (s.sendFrame owner id typ payload).panicked = false) :
    s.chClosed = false ∧ s.panicked = false := by
  cases hc : s.chClosed with
  | true => exact absurd (h.symm.trans (sendFrame_panics s owner id typ payload hc)) (by decide)
  | false => exact ⟨rfl,by rwa [sendFrame_panicked s owner id typ payload hc] at h⟩

theorem StreamsKept.sendNone (hI : StreamsKept s) (id typ : Int) (payload : Bytes) :
    StreamsKept (s.sendFrame none id typ payload) :=
  hI.beside (by simp) (fun j d hd => ⟨d,by simpa using hd,.refl d,fun h => h⟩) (by simp) (by simp)
    (by simp) (fun h => (sendFrame_alive _ _ _ _ h).2)
    ((sendFrame_queue _ _ _ _).imp_right fun h => ⟨_,h,rfl⟩)

theorem stored_shut : (AgentTunnel.shutConn c).Stored ↔ c.Stored := Iff.rfl

theorem closeStream_streams {id id' : Int} {j : Nat}
    (h : (s.closeStream id).streams id' = some j) : s.streams id' = some j := by
  unfold AgentTunnel.closeStream at h
  split at h
  · exact h
  · by_cases hid : id' = id
    · simp [hid] at h
    · simpa [Function.update_of_ne hid] using h

theorem StreamsKept.closeStream (hI : StreamsKept s) (id : Int) :
    StreamsKept (s.closeStream id) := by
  refine hI.beside (closeStream_length s id) (fun j d hd => ?_)
    (fun _ _ => closeStream_streams) (by simp) (by simp) (by simp)
    (Or.inl (by simp [AgentTunnel.queue]))
  obtain ⟨c,hc,rfl⟩ := closeStream_conn s id hd
  refine ⟨c,hc,?_⟩
  split
  · exact ⟨sameBytes_shut c,stored_shut.mpr⟩
  · exact ⟨.refl c,fun h => h⟩

theorem setConn_kept {d : TunnelConn} (hI : StreamsKept s) (hk : s.conns[k]? = some c)
    (hsame : SameBytes c d) (hstored : c.Stored → d.Stored) : StreamsKept (s.setConn k d) := by
  have hlt := (List.getElem?_eq_some_iff.mp hk).1
  exact hI.own hk (by simp) (by simp [hlt]) (fun j hj => by simp [List.getElem?_set_ne hj.symm])
    hstored (fun _ _ h => Or.inl h) rfl rfl (fun h => h) (Or.inl rfl)
    ((hI.conn k c hk).beside hsame rfl rfl (fun h => h) (Or.inl rfl))

theorem sendOwn_kept {id typ : Int} {payload : Bytes} (hI : StreamsKept s)
    (hk : s.conns[k]? = some c) (hstored : c.Stored → c'.Stored)
    (hown : Accounted ((s.setConn k c').sendFrame (some k) id typ payload) k c') :
    StreamsKept ((s.setConn k c').sendFrame (some k) id typ payload) := by
  have hlt := (List.getElem?_eq_some_iff.mp hk).1
  refine hI.own hk (by simp) (by simp [hlt])
    (fun j hj => by simp [List.getElem?_set_ne hj.symm]) hstored
    (fun _ _ h => Or.inl (by simpa using h)) (by simp) (by simp)
    (fun h => (sendFrame_alive _ _ _ _ h).2) ?_ hown
  exact (sendFrame_queue _ _ _ _).imp_right fun h => ⟨_,h,fun j hj => (Option.some.inj hj).symm⟩

/-- A DATA frame that finds room moves the chunk in hand to the end of the channel. -/
theorem Accounted.sendData {data : Bytes} {failed : Bool} (h : Accounted s k c)
    (hphase : c.phase = .chunk data failed) (hg : LosesNothing s (.sendData k))
    (hbytes : c'.bytesRead = c.bytesRead) (hpending : c'.pending = []) (hp : s.panicked = false) :
    Accounted ((s.setConn k c').sendFrame (some k) c.streamId Protocol.DATA data) k c' := by
  have hloud : ¬c.Mute := by simp [TunnelConn.Mute,hphase]
  have hdata : OutFrame.IsData k ⟨some k,⟨c.streamId,Protocol.DATA,data⟩⟩ := ⟨rfl,rfl⟩
  refine ⟨fun hd hp' => ?_,?_,fun hcl => absurd (h.mute (by simpa using hcl)) hloud⟩
  · have hd : s.writer.done = false := by simpa using hd
    obtain ⟨hopen,-⟩ := sendFrame_alive _ _ _ _ hp'
    have hroom : s.writeCh.length < writeChannelSize := by
      rcases hg with hroom | hdone | hclosed
      · exact hroom
      · exact absurd (hd.symm.trans hdone) (by decide)
      · exact absurd (hopen.symm.trans hclosed) (by decide)
    have hq : ((s.setConn k c').sendFrame (some k) c.streamId Protocol.DATA data).queue =
        s.queue ++ [⟨some k,⟨c.streamId,Protocol.DATA,data⟩⟩] := by
      simp [AgentTunnel.queue,sendFrame_room (s.setConn k c') _ _ _ _ hroom hopen]
    have ht := h.tracks hd hp
    have hnever : ¬Closed k s.queue := fun hcl => hloud (ht.mute hcl)
    rw [hq]
    refine ⟨?_,fun hcl => ?_,ht.closeLast.concat fun hcl => absurd hcl hnever⟩
    · have hb := ht.bytes
      rw [TunnelConn.pending,hphase] at hb
      rw [dataOf_concat_data hdata,hpending,List.append_nil,hbytes,hb]
    · exact absurd ((closed_concat.mp hcl).resolve_right fun hc => hc.not_data hdata) hnever
  · rw [sendFrame_written,setConn_written,hbytes]
    exact h.intact

/-- A CLOSE may be sent once no byte of the stream will follow, and may be lost. -/
theorem Accounted.sendClose {id : Int} (h : Accounted s k c)
    (hbytes : c'.bytesRead = c.bytesRead) (hpending : c.pending = []) (hmute : c'.Mute)
    (hs' : s'.panicked = false → s.panicked = false) (hwritten : s'.written = s.written)
    (hwriter : s'.writer = s.writer)
    (hq : s'.queue = s.queue ∨ s'.queue = s.queue ++ [⟨some k,⟨id,Protocol.CLOSE,[]⟩⟩]) :
    Accounted s' k c' := by
  have hsame : SameBytes c c' := ⟨hbytes,hmute.pending.trans hpending.symm,fun _ => hmute⟩
  rcases hq with hq | hq
  · exact h.beside hsame hwritten hwriter hs' (Or.inl hq)
  · have hclose : OutFrame.IsClose k ⟨some k,⟨id,Protocol.CLOSE,[]⟩⟩ := ⟨rfl,rfl⟩
    refine ⟨fun hd hp => ?_,?_,fun _ => hmute⟩
    · have ht := h.tracks (hwriter ▸ hd) (hs' hp)
      rw [hq]
      refine ⟨?_,fun _ => hmute,ht.closeLast.concat fun _ => hclose.not_data⟩
      rw [dataOf_concat hclose.not_data,hsame.pending,hbytes]
      exact ht.bytes
    · rw [hwritten,hbytes]
      exact h.intact

/-- `Read` adds to the bytes read what it puts in hand. -/
theorem Accounted.read {data : Bytes} {failed : Bool} (h : Accounted s k c)
    (hphase : c.phase = .reading) (hread : c.mayRead data failed)
    (hc' : c' = { c with
      phase := if data = [] then .failing else .chunk data failed
      bytesRead := c.bytesRead ++ data }) : Accounted (s.setConn k c') k c' := by
  have hnone : c.Mute → data = [] := fun hm => by
    simp only [TunnelConn.Mute,hphase] at hm
    exact (hread.2.2 hm).1
  have hmute : c.Mute → c'.Mute := fun hm => by simp [hc',TunnelConn.Mute,hnone hm]
  have hpending : c'.pending = data := by
    rw [hc']
    by_cases hdata : data = []
    · simp [TunnelConn.pending,hdata]
    · simp [TunnelConn.pending,hdata]
  have hbytes : c'.bytesRead = c.bytesRead ++ data := by rw [hc']
  refine ⟨fun hd hp => ?_,?_,fun hcl => hmute (h.mute hcl)⟩
  · have ht := h.tracks hd hp
    refine ⟨?_,fun hcl => hmute (ht.mute hcl),ht.closeLast⟩
    have hb := ht.bytes
    rw [TunnelConn.pending,hphase,List.append_nil] at hb
    rw [hpending,hbytes,← hb]
    rfl
  · refine ⟨?_,h.intact.closeLast,fun hcl => ?_⟩
    · rw [hbytes]
      exact h.intact.reads.trans (List.prefix_append _ _)
    · rw [hbytes,hnone (h.mute hcl),List.append_nil]
      exact h.intact.complete hcl

theorem connStep_kept (hI : StreamsKept s) (hk : s.conns[k]? = some c) (hp : s.panicked = false)
    (hg : LosesNothing s e) (h : connStep s k c e = some s') : StreamsKept s' := by
  have hlt := (List.getElem?_eq_some_iff.mp hk).1
  have hacc := hI.conn k c hk
  cases e with
  | dialSucceeds | dialFails =>
    simp only [connStep,Option.ite_none_right_eq_some,Option.some.injEq] at h
    obtain ⟨hphase,rfl⟩ := h
    refine setConn_kept hI hk ⟨rfl,?_,?_⟩ ?_
    · simp [TunnelConn.pending,hphase]
    · simp [TunnelConn.Mute,hphase]
    · simp [TunnelConn.Stored,hphase]
  | sendRefusal =>
    simp only [connStep] at h
    split at h
    · next hphase =>
      obtain rfl := Option.some.inj h
      refine (setConn_kept (d := { c with phase := .exited }) hI hk ⟨rfl,?_,?_⟩ ?_).sendNone _ _ _
      · simp [TunnelConn.pending,hphase]
      · simp [TunnelConn.Mute,hphase]
      · simp [TunnelConn.Stored,hphase]
    · cases h
  | store =>
    simp only [connStep,Option.ite_none_right_eq_some,Option.some.injEq] at h
    obtain ⟨hphase,rfl⟩ := h
    refine hI.own hk (by simp) (d := { c with phase := .stored }) (by simp [hlt])
      (fun j hj => by simp [List.getElem?_set_ne hj.symm]) (by simp [TunnelConn.Stored,hphase])
      (fun id j hj => ?_) rfl rfl (fun h => h) (Or.inl rfl) ?_
    · by_cases hid : id = c.streamId
      · subst hid
        simp only [Function.update_self,Option.some.injEq] at hj
        exact Or.inr ⟨hj.symm,trivial⟩
      · simp only [Function.update_of_ne hid] at hj
        exact Or.inl hj
    · refine hacc.beside ⟨rfl,?_,?_⟩ rfl rfl (fun h => h) (Or.inl rfl)
      · simp [TunnelConn.pending,hphase]
      · simp [TunnelConn.Mute,hphase]
  | sendOpenOk =>
    simp only [connStep,Option.ite_none_right_eq_some,Option.some.injEq] at h
    obtain ⟨hphase,rfl⟩ := h
    refine sendOwn_kept hI hk (fun _ => trivial) ?_
    refine hacc.beside ⟨rfl,?_,?_⟩ (by simp) (by simp) (fun h => (sendFrame_alive _ _ _ _ h).2) ?_
    · simp [TunnelConn.pending,hphase]
    · simp [TunnelConn.Mute,hphase]
    · refine (sendFrame_queue _ _ _ _).imp_right fun h => ⟨_,h,?_,?_⟩
      · exact fun hd => absurd (show Protocol.OPEN_OK = Protocol.DATA from hd.2) (by decide)
      · exact fun hc => absurd (show Protocol.OPEN_OK = Protocol.CLOSE from hc.2) (by decide)
  | read _ data failed =>
    simp only [connStep,Option.ite_none_right_eq_some,Option.some.injEq] at h
    obtain ⟨⟨hphase,hread⟩,rfl⟩ := h
    refine hI.own hk (by simp) (by simp [hlt])
      (fun j hj => by simp [List.getElem?_set_ne hj.symm]) (fun _ => ?_)
      (fun _ _ h => Or.inl h) rfl rfl (fun h => h) (Or.inl rfl) (hacc.read hphase hread rfl)
    by_cases hdata : data = []
    · simp [TunnelConn.Stored,hdata]
    · simp [TunnelConn.Stored,hdata]
  | sendData _ =>
    simp only [connStep] at h
    split at h
    · next data failed hphase =>
      obtain rfl := Option.some.inj h
      refine sendOwn_kept hI hk (fun _ => ?_) (hacc.sendData hphase hg rfl ?_ hp)
      · cases failed <;> simp [TunnelConn.Stored]
      · cases failed <;> simp [TunnelConn.pending]
    · cases h
  | sendClose =>
    simp only [connStep,Option.ite_none_right_eq_some,Option.some.injEq] at h
    obtain ⟨hphase,rfl⟩ := h
    refine sendOwn_kept hI hk (fun _ => trivial) ?_
    exact hacc.sendClose rfl (by simp [TunnelConn.pending,hphase]) trivial
      (fun h => (sendFrame_alive _ _ _ _ h).2) (by simp) (by simp) (sendFrame_queue _ _ _ _)
  | closeOwn =>
    simp only [connStep,Option.ite_none_right_eq_some,Option.some.injEq] at h
    obtain ⟨hphase,rfl⟩ := h
    refine (setConn_kept (d := { c with phase := .exited }) hI hk ⟨rfl,?_,fun _ => trivial⟩
      fun _ => trivial).closeStream _
    simp [TunnelConn.pending,hphase]
  | receive | loopEnds | writerTakes | writerWrites | writerFails | writerFinishes
  | connsClosed => cases h

/-- A stream just opened has no frame yet. -/
theorem open_kept (hI : StreamsKept s) (id : Int) :
    StreamsKept { s with conns := s.conns ++ [⟨id,.dialling,false,[],[]⟩] } where
  table id j hj := by
    obtain ⟨c,hc,hstored⟩ := hI.table id j hj
    exact ⟨c,by simp [List.getElem?_append_left (List.getElem?_eq_some_iff.mp hc).1,hc],hstored⟩
  owners f hf k hk := by
    have hlt := hI.owners f hf k hk
    simp only [List.length_append,List.length_singleton]
    omega
  conn j d hd := by
    rcases getElem?_append_singleton_cases hd with ⟨rfl,rfl⟩ | hd
    · have hforeign : ∀ f ∈ s.queue, f.owner ≠ some s.conns.length := fun f hf ho =>
        absurd (hI.owners f hf _ ho) (by omega)
      have hwritten : ∀ f ∈ s.written, f.owner ≠ some s.conns.length := fun f hf =>
        hforeign f (by simp [AgentTunnel.queue,hf])
      have hopen : ∀ q : List OutFrame, (∀ f ∈ q, f.owner ≠ some s.conns.length) →
          Tracks s.conns.length ⟨id,.dialling,false,[],[]⟩ q := by
        intro q hq
        refine ⟨?_,fun ⟨f,hf,hc⟩ => absurd hc.1 (hq f hf),?_⟩
        · rw [dataOf_eq_nil fun f hf hd => hq f hf hd.1]
          rfl
        · exact List.pairwise_of_forall_mem_list fun f hf _ _ hc => absurd hc.1 (hq f hf)
      have hclosed := (hopen s.written hwritten).mute
      exact ⟨fun _ _ => hopen _ hforeign,
        (by simpa using hopen s.written hwritten : Tracks _ _ (s.written ++ [])).intact,hclosed⟩
    · have hacc := hI.conn j d hd
      exact ⟨hacc.tracks,hacc.intact,hacc.mute⟩

theorem writeOk_kept (hI : StreamsKept s) (k : Nat) (payload : Bytes) :
    StreamsKept { s with conns := s.conns.modify k fun c =>
      { c with bytesWritten := c.bytesWritten ++ payload } } := by
  refine hI.beside (by simp) (fun j d hd => ?_) (fun _ _ h => h) rfl rfl (fun h => h) (Or.inl rfl)
  simp only [List.getElem?_modify] at hd
  obtain ⟨c,hc,rfl⟩ := Option.map_eq_some_iff.mp hd
  refine ⟨c,hc,?_⟩
  split
  · exact ⟨⟨rfl,rfl,fun h => h⟩,fun h => h⟩
  · exact ⟨.refl c,fun h => h⟩

/-- The CLOSE of a failed write: the stream it shuts has no chunk in hand. -/
theorem writeFailed_kept {f : Protocol.Frame} (hI : StreamsKept s)
    (hk : s.streams f.streamId = some k)
    (hg : ∀ c, s.conns[k]? = some c → (∀ data failed, c.phase ≠ .chunk data failed) ∨
      writeChannelSize ≤ s.writeCh.length ∨ s.writer.done = true) :
    StreamsKept ((s.closeStream f.streamId).sendFrame (some k) f.streamId Protocol.CLOSE []) := by
  obtain ⟨c,hc,hstored⟩ := hI.table _ _ hk
  have hI' := hI.closeStream f.streamId
  have hshut : (s.closeStream f.streamId).conns[k]? = some (AgentTunnel.shutConn c) := by
    simp [AgentTunnel.closeStream,hk,hc]
  have hset : (s.closeStream f.streamId).setConn k (AgentTunnel.shutConn c) =
      s.closeStream f.streamId := by
    obtain ⟨hlt,hget⟩ := List.getElem?_eq_some_iff.mp hshut
    rw [AgentTunnel.setConn,← hget,List.set_getElem_self hlt]
  have hacc := hI'.conn k _ hshut
  rw [← hset]
  refine sendOwn_kept hI' hshut (fun h => h) ?_
  have halive : ((s.closeStream f.streamId).sendFrame (some k) f.streamId Protocol.CLOSE []
      ).panicked = false → (s.closeStream f.streamId).panicked = false :=
    fun h => (sendFrame_alive _ _ _ _ h).2
  rw [hset]
  rcases hg c hc with hnone | hfull | hdone
  · have hmute : (AgentTunnel.shutConn c).Mute := by
      unfold TunnelConn.Stored at hstored
      simp only [TunnelConn.Mute,AgentTunnel.shutConn]
      cases hphase : c.phase with
      | chunk data failed => exact hnone data failed hphase
      | dialling | refused | connected => simp [hphase] at hstored
      | stored | reading | failing | closing | exited => trivial
    exact hacc.sendClose rfl hmute.pending hmute halive (by simp) (by simp)
      (sendFrame_queue _ _ _ _)
  · have hdrop : ((s.closeStream f.streamId).sendFrame (some k) f.streamId Protocol.CLOSE []
        ).queue = (s.closeStream f.streamId).queue := by
      unfold AgentTunnel.sendFrame
      split
      · rfl
      · rw [if_neg (by simpa using hfull)]
    exact hacc.beside (.refl _) (by simp) (by simp) halive (Or.inl hdrop)
  · refine ⟨fun hd => ?_,by simpa using hacc.intact,fun hcl => hacc.mute (by simpa using hcl)⟩
    rw [sendFrame_writer,closeStream_writer,hdone] at hd
    exact absurd hd (by decide)

theorem onFrame_kept {f : Protocol.Frame} {writeOk : Bool} (hI : StreamsKept s)
    (hg : LosesNothing s (.receive f writeOk)) :
    StreamsKept (s.onFrame isAllowed f writeOk) := by
  unfold AgentTunnel.onFrame
  split
  · split
    · exact hI.sendNone _ _ _
    · split
      · exact hI.sendNone _ _ _
      · exact open_kept hI _
  · split
    · next hdata =>
      split
      · exact hI
      · next k hk =>
        split
        · exact writeOk_kept hI k _
        · next hw =>
          exact writeFailed_kept hI hk fun c hc => hg hdata (by simpa using hw) k c hk hc
    · split
      · exact hI.closeStream _
      · exact hI

theorem streamsKept_step (hI : StreamsKept s) (hg : LosesNothing s e)
    (h : agentTunnelStep isAllowed s e = some s') : StreamsKept s' := by
  obtain ⟨halive,h⟩ := agentTunnelStep_some.mp h
  cases e with
  | receive f writeOk =>
    simp only [liveStep,Option.ite_none_right_eq_some,Option.some.injEq] at h
    obtain ⟨_,rfl⟩ := h
    exact onFrame_kept hI hg
  | loopEnds =>
    simp only [liveStep,Option.ite_none_right_eq_some,Option.some.injEq] at h
    obtain ⟨_,rfl⟩ := h
    exact ⟨hI.table,hI.owners,fun k c hc => ⟨(hI.conn k c hc).tracks,(hI.conn k c hc).intact,
      (hI.conn k c hc).mute⟩⟩
  | writerTakes =>
    simp only [liveStep] at h
    split at h
    · next f rest hw hch =>
      obtain rfl := Option.some.inj h
      have hq : AgentTunnel.queue { s with writer := .holding f, writeCh := rest } = s.queue := by
        simp [AgentTunnel.queue,hw,hch,WriterState.frames]
      refine ⟨hI.table,by rw [hq]; exact hI.owners,fun k c hc => ?_⟩
      have hacc := hI.conn k c hc
      refine ⟨fun _ hp => ?_,hacc.intact,hacc.mute⟩
      rw [hq]
      exact hacc.tracks (by simp [hw,WriterState.done]) hp
    · cases h
  | writerWrites =>
    simp only [liveStep] at h
    split at h
    · next f hw =>
      obtain rfl := Option.some.inj h
      have hq : AgentTunnel.queue { s with writer := .idle, written := s.written ++ [f] } =
          s.queue := by
        simp [AgentTunnel.queue,hw,WriterState.frames]
      refine ⟨hI.table,by rw [hq]; exact hI.owners,fun k c hc => ?_⟩
      have ht := (hI.conn k c hc).tracks (by simp [hw,WriterState.done]) halive
      have hsplit : s.queue = s.written ++ [f] ++ s.writeCh := by
        simp [AgentTunnel.queue,hw,WriterState.frames]
      refine ⟨fun _ _ => by rw [hq]; exact ht,(hsplit ▸ ht).intact,fun ⟨g,hg,hcl⟩ => ?_⟩
      exact ht.mute ⟨g,by rw [hsplit]; exact List.mem_append_left _ hg,hcl⟩
    · cases h
  | writerFails =>
    simp only [liveStep] at h
    split at h
    · next f hw =>
      obtain rfl := Option.some.inj h
      have hq : AgentTunnel.queue { s with writer := .failed f } = s.queue := by
        simp [AgentTunnel.queue,hw,WriterState.frames]
      exact ⟨hI.table,by rw [hq]; exact hI.owners,fun k c hc => ⟨nofun,(hI.conn k c hc).intact,
        (hI.conn k c hc).mute⟩⟩
    · cases h
  | writerFinishes =>
    simp only [liveStep,Option.ite_none_right_eq_some,Option.some.injEq] at h
    obtain ⟨⟨hw,_⟩,rfl⟩ := h
    have hq : AgentTunnel.queue { s with writer := .finished } = s.queue := by
      simp [AgentTunnel.queue,hw,WriterState.frames]
    exact ⟨hI.table,by rw [hq]; exact hI.owners,fun k c hc => ⟨nofun,(hI.conn k c hc).intact,
      (hI.conn k c hc).mute⟩⟩
  | connsClosed =>
    simp only [liveStep,Option.ite_none_right_eq_some,Option.some.injEq] at h
    obtain ⟨_,rfl⟩ := h
    refine hI.beside (by simp [AgentTunnel.closeConns]) (fun j d hd => ?_) nofun rfl rfl
      (fun h => h) (Or.inl rfl)
    obtain ⟨c,hc,rfl⟩ := closeConns_conn s hd
    refine ⟨c,hc,?_⟩
    split
    · exact ⟨sameBytes_shut c,stored_shut.mpr⟩
    · exact ⟨.refl c,fun h => h⟩
  | dialSucceeds | dialFails | sendRefusal | store | sendOpenOk | read | sendData | sendClose
  | closeOwn =>
    obtain ⟨c,hk,h⟩ := Option.bind_eq_some_iff.mp h
    exact connStep_kept hI hk halive hg h

theorem streamsKept_inductive :
    InductiveUnder (agentTunnelSystem isAllowed) LosesNothing StreamsKept where
  start := by
    rintro s rfl
    exact ⟨nofun,nofun,nofun⟩
  step _ _ _ hI hg h := streamsKept_step hI hg h

end Steps

/-- In a run that loses no chunk, what is written of every stream is a beginning of the bytes read
from its TCP connection, and its CLOSE follows all of them. -/
theorem streams_intact {isAllowed : Bytes → Int → Bool}
    {tr : List (Transition AgentTunnel AgentTunnelEvent)} {s : AgentTunnel}
    (h : Run (agentTunnelSystem isAllowed) tr s) (hg : ∀ t ∈ tr, LosesNothing t.pre t.label)
    (k : Nat) (c : TunnelConn) (hc : s.conns[k]? = some c) :
    StreamIntact k c.bytesRead s.written :=
  ((h.guarded streamsKept_inductive hg).conn k c hc).intact

section Examples

/-- A stream that is opened, carries two chunks and is closed by its peer. -/
def twoChunks : List AgentTunnelEvent :=
  [.receive openDb true,.dialSucceeds 0,.store 0,.sendOpenOk 0,.read 0 [1,2] false,.writerTakes,
    .sendData 0,.writerWrites,.read 0 [3] true,.sendData 0,.sendClose 0,.writerTakes,.writerWrites,
    .writerTakes,.writerWrites,.writerTakes,.writerWrites,.closeOwn 0]

theorem two_chunks_intact : ∃ tr s c, Run (agentTunnelSystem allowEveryHost) tr s ∧
    s.conns[0]? = some c ∧ Closed 0 s.written ∧ dataOf 0 s.written = [1,2,3] ∧
    StreamIntact 0 c.bytesRead s.written := by
  have hrun : (agentTunnelSystem allowEveryHost).replay AgentTunnel.new twoChunks = some _ := rfl
  have h := (Run.start rfl).replay hrun
  have hmeets : (agentTunnelSystem allowEveryHost).Meets LosesNothing AgentTunnel.new
      twoChunks := by
    refine ⟨nofun,trivial,trivial,trivial,trivial,trivial,Or.inl (by decide),trivial,trivial,
      Or.inl (by decide),trivial,trivial,trivial,trivial,trivial,trivial,trivial,trivial,trivial⟩
  exact ⟨_,_,_,h,rfl,⟨_,List.mem_of_getElem? (i := 3) rfl,rfl,rfl⟩,rfl,
    streams_intact h (System.history_meets hmeets (by simp)) 0 _ rfl⟩

/-- One stream that has read and sent `n` chunks while the writer stood still. -/
def unwritten (n : Nat) : AgentTunnel where
  streams := Function.update (fun _ => none) 1 (some 0)
  conns := [⟨1,.reading,true,List.replicate n 1,[]⟩]
  writeCh := ⟨some 0,⟨1,Protocol.OPEN_OK,[]⟩⟩ ::
    List.replicate n ⟨some 0,⟨1,Protocol.DATA,[1]⟩⟩
  chClosed := false
  writer := .idle
  written := []
  loop := .running
  panicked := false

theorem unwritten_length (n : Nat) : (unwritten n).writeCh.length = n + 1 := by simp [unwritten]

/-- A chunk is read and sent, or dropped. -/
theorem carry_reachable {isAllowed : Bytes → Int → Bool} {s : AgentTunnel} {c : TunnelConn}
    (h : Reachable (agentTunnelSystem isAllowed) s) (hk : s.conns = [c])
    (hphase : c.phase = .reading) (hopen : c.tcpOpen = true) (hp : s.panicked = false) (b : UInt8) :
    Reachable (agentTunnelSystem isAllowed)
      ((s.setConn 0 { c with bytesRead := c.bytesRead ++ [b] }).sendFrame (some 0) c.streamId
        Protocol.DATA [b]) := by
  obtain ⟨id,phase,tcpOpen,bytesRead,bytesWritten⟩ := c
  obtain rfl : phase = .reading := hphase
  obtain rfl : tcpOpen = true := hopen
  have hread : (agentTunnelSystem isAllowed).step s (.read 0 [b] false) =
      some (s.setConn 0 ⟨id,.chunk [b] false,true,bytesRead ++ [b],bytesWritten⟩) :=
    agentTunnelStep_some.mpr ⟨hp,by
      simp [liveStep,hk,connStep,TunnelConn.mayRead,readBufferSize]⟩
  have hsend : (agentTunnelSystem isAllowed).step
      (s.setConn 0 ⟨id,.chunk [b] false,true,bytesRead ++ [b],bytesWritten⟩) (.sendData 0) =
      some ((s.setConn 0 ⟨id,.reading,true,bytesRead ++ [b],bytesWritten⟩).sendFrame (some 0) id
        Protocol.DATA [b]) :=
    agentTunnelStep_some.mpr ⟨hp,by simp [liveStep,hk,connStep,AgentTunnel.setConn]⟩
  exact (h.step hread).step hsend

theorem unwritten_reachable {n : Nat} (hn : n < writeChannelSize) :
    Reachable (agentTunnelSystem allowEveryHost) (unwritten n) := by
  induction n with
  | zero =>
    have hrun : (agentTunnelSystem allowEveryHost).replay AgentTunnel.new
        [.receive openDb true,.dialSucceeds 0,.store 0,.sendOpenOk 0] = some (unwritten 0) := rfl
    exact ((Run.start rfl).replay hrun).reachable
  | succ n ih =>
    have h := carry_reachable (ih (Nat.lt_of_succ_lt hn)) rfl rfl rfl rfl 1
    rw [sendFrame_room _ _ _ _ _ (by rw [setConn_writeCh,unwritten_length]; exact hn) rfl] at h
    simpa [unwritten,AgentTunnel.setConn,List.replicate_succ'] using h

/-- The writer catches up. -/
theorem drain_reachable {isAllowed : Bytes → Int → Bool} {q : List OutFrame} {s : AgentTunnel}
    (h : Reachable (agentTunnelSystem isAllowed) s) (hq : s.writeCh = q) (hw : s.writer = .idle)
    (hp : s.panicked = false) : Reachable (agentTunnelSystem isAllowed)
      { s with writeCh := [], written := s.written ++ q } := by
  induction q generalizing s with
  | nil =>
    rw [List.append_nil]
    exact hq ▸ h
  | cons f q ih =>
    have htake : (agentTunnelSystem isAllowed).step s .writerTakes =
        some { s with writer := .holding f, writeCh := q } :=
      agentTunnelStep_some.mpr ⟨hp,by simp [liveStep,hw,hq]⟩
    have hwrite : (agentTunnelSystem isAllowed).step { s with writer := .holding f, writeCh := q }
        .writerWrites = some { s with writeCh := q, written := s.written ++ [f] } :=
      agentTunnelStep_some.mpr ⟨hp,by simp [liveStep,hw]⟩
    have hrest := ih ((h.step htake).step hwrite) rfl hw hp
    simpa using hrest

theorem dataOf_replicate (k n : Nat) (b : UInt8) :
    dataOf k (List.replicate n ⟨some k,⟨1,Protocol.DATA,[b]⟩⟩) = List.replicate n b := by
  induction n with
  | zero => rfl
  | succ n ih =>
    rw [List.replicate_succ',dataOf_concat_data ⟨rfl,rfl⟩,ih]
    exact List.replicate_succ'.symm

/-- The channel is full when a chunk is read, and has room again for the next one. -/
theorem chunk_dropped : ∃ tr s c, Run (agentTunnelSystem allowEveryHost) tr s ∧
    s.conns[0]? = some c ∧ ¬dataOf 0 s.written <+: c.bytesRead := by
  have hfull := unwritten_reachable (n := 255) (by decide)
  have hdrop := carry_reachable hfull rfl rfl rfl rfl 2
  have hsize : ∀ c, writeChannelSize ≤ ((unwritten 255).setConn 0 c).writeCh.length :=
    fun _ => Nat.le_of_eq (unwritten_length 255).symm
  rw [sendFrame_full _ _ _ _ _ (hsize _) rfl] at hdrop
  have hdrained := drain_reachable hdrop rfl rfl rfl
  have hnext := carry_reachable hdrained rfl rfl rfl rfl 3
  rw [sendFrame_room _ _ _ _ _ (by decide) rfl] at hnext
  obtain ⟨tr,h⟩ := drain_reachable hnext rfl rfl rfl
  refine ⟨tr,_,_,h,rfl,fun hprefix => ?_⟩
  have hwritten : dataOf 0 (([] ++ (unwritten 255).writeCh) ++
      ([] ++ [⟨some 0,⟨1,Protocol.DATA,[3]⟩⟩])) = List.replicate 255 1 ++ [3] := by
    rw [List.nil_append,List.nil_append,dataOf_concat_data ⟨rfl,rfl⟩]
    simp only [unwritten]
    rw [← List.singleton_append,dataOf_append,dataOf_replicate]
    rfl
  replace hprefix : dataOf 0 (([] ++ (unwritten 255).writeCh) ++
      ([] ++ [⟨some 0,⟨1,Protocol.DATA,[3]⟩⟩])) <+: List.replicate 255 1 ++ [2] ++ [3] := hprefix
  rw [hwritten,List.append_assoc,List.prefix_append_right_inj] at hprefix
  exact absurd hprefix (by decide)

end Examples
end Nexplane
