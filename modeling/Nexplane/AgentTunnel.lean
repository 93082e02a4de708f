import Nexplane.TunnelFrames
import Nexplane.Lib.Lists
import Nexplane.Lib.Runs
import Mathlib.Logic.Function.Basic

set_option autoImplicit false

/-! One `runOnce` of the agent: its frame loop, the writer goroutine, a goroutine for every OPEN,
and the cleanup when the connection ends. -/

namespace Nexplane
open Text Runs Lists

/-- Where the goroutine of an OPEN stands. -/
inductive ConnPhase where
  | dialling
  /-- The dial failed, OPEN_ERR is to be sent. -/
  | refused (reason : Bytes)
  /-- The dial succeeded, the connection is to be stored. -/
  | connected
  /-- Stored, OPEN_OK is to be sent. -/
  | stored
  /-- In `tc.Read`. -/
  | reading
  /-- `Read` returned bytes, and perhaps an error as well. -/
  | chunk (frame : Bytes) (failed : Bool)
  /-- CLOSE is to be sent. -/
  | failing
  /-- `closeStream` is to be called. -/
  | closing
  | exited
  deriving DecidableEq, Repr

structure TunnelConn where
  streamId : Int
  phase : ConnPhase
  /-- The TCP connection is open at the agent's end. -/
  tcpOpen : Bool
  /-- All bytes that `Read` has returned. -/
  bytesRead : Bytes
  /-- All bytes written to the TCP connection. -/
  bytesWritten : Bytes
  deriving DecidableEq, Repr

/-- A frame for the websocket, with the goroutine whose stream it belongs to. -/
structure OutFrame where
  owner : Option Nat
  frame : Protocol.Frame
  deriving DecidableEq, Repr

inductive WriterState where
  | idle
  | holding (f : OutFrame)
  /-- `WriteMessage` failed on the frame: the goroutine has returned. -/
  | failed (f : OutFrame)
  /-- The channel was closed and drained. -/
  | finished
  deriving DecidableEq, Repr

/-- `writerDone` is closed. -/
def WriterState.done : WriterState → Bool
  | .idle | .holding _ => false
  | .failed _ | .finished => true

/-- The frame the writer holds. -/
def WriterState.frames : WriterState → List OutFrame
  | .holding f | .failed f => [f]
  | .idle | .finished => []

inductive LoopState where
  | running
  /-- `close(writeCh)` done, in `<-writerDone`. -/
  | draining
  | ended
  deriving DecidableEq, Repr

structure AgentTunnel where
  streams : Int → Option Nat
  conns : List TunnelConn
  writeCh : List OutFrame
  chClosed : Bool
  writer : WriterState
  /-- The frames written to the websocket, in order. -/
  written : List OutFrame
  loop : LoopState
  /-- A send on the closed channel has brought the process down. -/
  panicked : Bool

def writeChannelSize : Nat := 256

/-- The buffer of a reader goroutine. -/
def readBufferSize : Nat := 32 * 1024

namespace AgentTunnel

def new : AgentTunnel := ⟨fun _ => none,[],[],false,.idle,[],.running,false⟩

/-- The non-blocking send: a full channel drops the frame, a closed one panics. -/
def sendFrame (s : AgentTunnel) (owner : Option Nat) (streamId typ : Int) (payload : Bytes) :
    AgentTunnel :=
  if s.chClosed = true then { s with panicked := true }
  else if s.writeCh.length < writeChannelSize then
    { s with writeCh := s.writeCh ++ [⟨owner,⟨streamId,typ,payload⟩⟩] }
  else s

def setConn (s : AgentTunnel) (k : Nat) (c : TunnelConn) : AgentTunnel :=
  { s with conns := s.conns.set k c }

def shutConn (c : TunnelConn) : TunnelConn := { c with tcpOpen := false }

def closeStream (s : AgentTunnel) (streamId : Int) : AgentTunnel :=
  match s.streams streamId with
  | none => s
  | some k =>
    { s with
      streams := Function.update s.streams streamId none
      conns := s.conns.modify k shutConn }

/-- The frame loop on a decoded frame; `writeOk` is the outcome of `tc.Write`. -/
def onFrame (isAllowed : Bytes → Int → Bool) (s : AgentTunnel) (f : Protocol.Frame)
    (writeOk : Bool) : AgentTunnel :=
  if f.type = Protocol.OPEN then
    match AgentFrame.parseOpen f.payload with
    | .error _ => s.sendFrame none f.streamId Protocol.OPEN_ERR (utf8 "invalid OPEN payload")
    | .ok (host,port) =>
      if isAllowed host port = false then
        s.sendFrame none f.streamId Protocol.OPEN_ERR (utf8 "denied")
      else { s with conns := s.conns ++ [⟨f.streamId,.dialling,false,[],[]⟩] }
  else if f.type = Protocol.DATA then
    match s.streams f.streamId with
    | none => s
    | some k =>
      if writeOk = true then
        { s with conns := s.conns.modify k fun c =>
            { c with bytesWritten := c.bytesWritten ++ f.payload } }
      else (s.closeStream f.streamId).sendFrame (some k) f.streamId Protocol.CLOSE []
  else if f.type = Protocol.CLOSE then s.closeStream f.streamId
  else s

/-- The last step of `cleanup`. -/
def closeConns (s : AgentTunnel) : AgentTunnel :=
  { s with
    streams := fun _ => none
    conns := s.conns.zipIdx.map fun (c,k) =>
      if s.streams c.streamId = some k then shutConn c else c
    loop := .ended }

end AgentTunnel

inductive AgentTunnelEvent where
  | receive (frame : Protocol.Frame) (writeOk : Bool)
  /-- `ReadMessage` failed or the context was cancelled; `cleanup` closes the channel. -/
  | loopEnds
  | writerTakes
  | writerWrites
  | writerFails
  | writerFinishes
  | connsClosed
  | dialSucceeds (conn : Nat)
  | dialFails (conn : Nat) (reason : Bytes)
  | sendRefusal (conn : Nat)
  | store (conn : Nat)
  | sendOpenOk (conn : Nat)
  | read (conn : Nat) (data : Bytes) (failed : Bool)
  | sendData (conn : Nat)
  | sendClose (conn : Nat)
  | closeOwn (conn : Nat)
  deriving DecidableEq, Repr

/-- What `tc.Read` may return: a connection closed at this end returns an error only. -/
def TunnelConn.mayRead (c : TunnelConn) (data : Bytes) (failed : Bool) : Prop :=
  (data ≠ [] ∨ failed = true) ∧ data.length ≤ readBufferSize ∧
    (c.tcpOpen = false → data = [] ∧ failed = true)

instance (c : TunnelConn) (data : Bytes) (failed : Bool) : Decidable (c.mayRead data failed) :=
  inferInstanceAs (Decidable (_ ∧ _))

/-- The step of goroutine `k` in the phase it is in. -/
def connStep (s : AgentTunnel) (k : Nat) (c : TunnelConn) : AgentTunnelEvent → Option AgentTunnel
  | .dialSucceeds _ =>
    if c.phase = .dialling then
      some (s.setConn k { c with phase := .connected, tcpOpen := true })
    else none
  | .dialFails _ reason =>
    if c.phase = .dialling then some (s.setConn k { c with phase := .refused reason }) else none
  | .sendRefusal _ =>
    match c.phase with
    | .refused reason => some
        ((s.setConn k { c with phase := .exited }).sendFrame none c.streamId Protocol.OPEN_ERR
          reason)
    | _ => none
  | .store _ =>
    if c.phase = .connected then some
      { s.setConn k { c with phase := .stored } with
        streams := Function.update s.streams c.streamId (some k) }
    else none
  | .sendOpenOk _ =>
    if c.phase = .stored then some
      ((s.setConn k { c with phase := .reading }).sendFrame (some k) c.streamId Protocol.OPEN_OK [])
    else none
  | .read _ data failed =>
    if c.phase = .reading ∧ c.mayRead data failed then some
      (s.setConn k
        { c with
          phase := if data = [] then .failing else .chunk data failed
          bytesRead := c.bytesRead ++ data })
    else none
  | .sendData _ =>
    match c.phase with
    | .chunk data failed => some
        ((s.setConn k { c with phase := if failed = true then .failing else .reading }).sendFrame
          (some k) c.streamId Protocol.DATA data)
    | _ => none
  | .sendClose _ =>
    if c.phase = .failing then some
      ((s.setConn k { c with phase := .closing }).sendFrame (some k) c.streamId Protocol.CLOSE [])
    else none
  | .closeOwn _ =>
    if c.phase = .closing then
      some ((s.setConn k { c with phase := .exited }).closeStream c.streamId)
    else none
  | _ => none

def liveStep (isAllowed : Bytes → Int → Bool) (s : AgentTunnel) (e : AgentTunnelEvent) :
    Option AgentTunnel :=
  match e with
  | .receive frame writeOk =>
    if s.loop = .running then some (s.onFrame isAllowed frame writeOk) else none
  | .loopEnds =>
    if s.loop = .running then some { s with chClosed := true, loop := .draining } else none
  | .writerTakes =>
    match s.writer, s.writeCh with
    | .idle, f :: rest => some { s with writer := .holding f, writeCh := rest }
    | _, _ => none
  | .writerWrites =>
    match s.writer with
    | .holding f => some { s with writer := .idle, written := s.written ++ [f] }
    | _ => none
  | .writerFails =>
    match s.writer with
    | .holding f => some { s with writer := .failed f }
    | _ => none
  | .writerFinishes =>
    if s.writer = .idle ∧ s.writeCh = [] ∧ s.chClosed = true then
      some { s with writer := .finished }
    else none
  | .connsClosed =>
    if s.loop = .draining ∧ s.writer.done = true then some s.closeConns else none
  | .dialSucceeds k | .dialFails k _ | .sendRefusal k | .store k | .sendOpenOk k | .read k _ _
  | .sendData k | .sendClose k | .closeOwn k => (s.conns[k]?).bind fun c => connStep s k c e

/-- A panic ends the process. -/
def agentTunnelStep (isAllowed : Bytes → Int → Bool) (s : AgentTunnel) (e : AgentTunnelEvent) :
    Option AgentTunnel :=
  if s.panicked = true then none else liveStep isAllowed s e

theorem agentTunnelStep_some {isAllowed : Bytes → Int → Bool} {s s' : AgentTunnel}
    {e : AgentTunnelEvent} : agentTunnelStep isAllowed s e = some s' ↔
      s.panicked = false ∧ liveStep isAllowed s e = some s' := by
  cases h : s.panicked <;> simp [agentTunnelStep,h]

section Fields

variable (s : AgentTunnel) (owner : Option Nat) (id typ : Int) (payload : Bytes) (k : Nat)
  (c : TunnelConn)

@[simp] theorem setConn_chClosed : (s.setConn k c).chClosed = s.chClosed := rfl

@[simp] theorem setConn_loop : (s.setConn k c).loop = s.loop := rfl

@[simp] theorem setConn_panicked : (s.setConn k c).panicked = s.panicked := rfl

@[simp] theorem setConn_writeCh : (s.setConn k c).writeCh = s.writeCh := rfl

@[simp] theorem setConn_writer : (s.setConn k c).writer = s.writer := rfl

@[simp] theorem setConn_written : (s.setConn k c).written = s.written := rfl

@[simp] theorem setConn_streams : (s.setConn k c).streams = s.streams := rfl

@[simp] theorem setConn_conns : (s.setConn k c).conns = s.conns.set k c := rfl

@[simp] theorem sendFrame_conns : (s.sendFrame owner id typ payload).conns = s.conns := by
  unfold AgentTunnel.sendFrame
  split
  · rfl
  · split <;> rfl

@[simp] theorem sendFrame_streams : (s.sendFrame owner id typ payload).streams = s.streams := by
  unfold AgentTunnel.sendFrame
  split
  · rfl
  · split <;> rfl

@[simp] theorem sendFrame_loop : (s.sendFrame owner id typ payload).loop = s.loop := by
  unfold AgentTunnel.sendFrame
  split
  · rfl
  · split <;> rfl

@[simp] theorem sendFrame_chClosed :
    (s.sendFrame owner id typ payload).chClosed = s.chClosed := by
  unfold AgentTunnel.sendFrame
  split
  · rfl
  · split <;> rfl

@[simp] theorem sendFrame_writer : (s.sendFrame owner id typ payload).writer = s.writer := by
  unfold AgentTunnel.sendFrame
  split
  · rfl
  · split <;> rfl

@[simp] theorem sendFrame_written : (s.sendFrame owner id typ payload).written = s.written := by
  unfold AgentTunnel.sendFrame
  split
  · rfl
  · split <;> rfl

theorem sendFrame_panicked (h : s.chClosed = false) :
    (s.sendFrame owner id typ payload).panicked = s.panicked := by
  unfold AgentTunnel.sendFrame
  rw [if_neg (by simp [h])]
  split <;> rfl

theorem sendFrame_panics (h : s.chClosed = true) :
    (s.sendFrame owner id typ payload).panicked = true := by
  rw [AgentTunnel.sendFrame,if_pos h]

theorem sendFrame_room (hroom : s.writeCh.length < writeChannelSize) (h : s.chClosed = false) :
    s.sendFrame owner id typ payload =
      { s with writeCh := s.writeCh ++ [⟨owner,⟨id,typ,payload⟩⟩] } := by
  rw [AgentTunnel.sendFrame,if_neg (by simp [h]),if_pos hroom]

theorem sendFrame_full (hfull : writeChannelSize ≤ s.writeCh.length) (h : s.chClosed = false) :
    s.sendFrame owner id typ payload = s := by
  rw [AgentTunnel.sendFrame,if_neg (by simp [h]),if_neg (Nat.not_lt.mpr hfull)]

/-- Sent, dropped or panicked: the channel has at most the one frame more. -/
theorem sendFrame_writeCh_cases :
    (s.sendFrame owner id typ payload).writeCh = s.writeCh ∨
      (s.sendFrame owner id typ payload).writeCh = s.writeCh ++ [⟨owner,⟨id,typ,payload⟩⟩] := by
  unfold AgentTunnel.sendFrame
  split
  · exact Or.inl rfl
  · split
    · exact Or.inr rfl
    · exact Or.inl rfl

@[simp] theorem closeStream_writeCh : (s.closeStream id).writeCh = s.writeCh := by
  unfold AgentTunnel.closeStream
  split <;> rfl

@[simp] theorem closeStream_chClosed : (s.closeStream id).chClosed = s.chClosed := by
  unfold AgentTunnel.closeStream
  split <;> rfl

@[simp] theorem closeStream_writer : (s.closeStream id).writer = s.writer := by
  unfold AgentTunnel.closeStream
  split <;> rfl

@[simp] theorem closeStream_written : (s.closeStream id).written = s.written := by
  unfold AgentTunnel.closeStream
  split <;> rfl

@[simp] theorem closeStream_loop : (s.closeStream id).loop = s.loop := by
  unfold AgentTunnel.closeStream
  split <;> rfl

@[simp] theorem closeStream_panicked : (s.closeStream id).panicked = s.panicked := by
  unfold AgentTunnel.closeStream
  split <;> rfl

theorem closeStream_length : (s.closeStream id).conns.length = s.conns.length := by
  unfold AgentTunnel.closeStream
  split
  · rfl
  · simp

/-- Closing a stream shuts the connection it names and leaves the others. -/
theorem closeStream_conn {j : Nat} {c' : TunnelConn}
    (h : (s.closeStream id).conns[j]? = some c') :
    ∃ c, s.conns[j]? = some c ∧
      c' = if s.streams id = some j then AgentTunnel.shutConn c else c := by
  unfold AgentTunnel.closeStream at h
  split at h
  · next hnone => exact ⟨c',h,by simp [hnone]⟩
  · next k hk =>
    simp only [List.getElem?_modify] at h
    obtain ⟨c,hc,hc'⟩ := Option.map_eq_some_iff.mp h
    refine ⟨c,hc,?_⟩
    rw [← hc',hk]
    by_cases hkj : k = j
    · simp [hkj]
    · simp [hkj]

theorem closeConns_conn {j : Nat} {c' : TunnelConn} (h : s.closeConns.conns[j]? = some c') :
    ∃ c, s.conns[j]? = some c ∧
      c' = if s.streams c.streamId = some j then AgentTunnel.shutConn c else c := by
  simp only [AgentTunnel.closeConns,List.getElem?_map,List.getElem?_zipIdx,Option.map_map] at h
  obtain ⟨c,hc,hc'⟩ := Option.map_eq_some_iff.mp h
  exact ⟨c,hc,by simpa using hc'.symm⟩

variable {s k c} in
/-- What no step of a stream's goroutine touches. -/
theorem connStep_frame {s' : AgentTunnel} {e : AgentTunnelEvent} (h : connStep s k c e = some s') :
    s'.chClosed = s.chClosed ∧ s'.loop = s.loop ∧ s'.written = s.written ∧
      (s.chClosed = false → s'.panicked = s.panicked) := by
  have hsent : ∀ c' owner id typ payload, s.chClosed = false →
      ((s.setConn k c').sendFrame owner id typ payload).panicked = s.panicked :=
    fun _ _ _ _ _ hc => sendFrame_panicked _ _ _ _ _ hc
  cases e with
  | dialSucceeds | dialFails | read | store =>
    simp only [connStep,Option.ite_none_right_eq_some,Option.some.injEq] at h
    obtain ⟨_,rfl⟩ := h
    exact ⟨rfl,rfl,rfl,fun _ => rfl⟩
  | sendOpenOk | sendClose =>
    simp only [connStep,Option.ite_none_right_eq_some,Option.some.injEq] at h
    obtain ⟨_,rfl⟩ := h
    exact ⟨by simp,by simp,by simp,hsent _ _ _ _ _⟩
  | sendRefusal | sendData =>
    simp only [connStep] at h
    split at h
    · obtain rfl := Option.some.inj h
      exact ⟨by simp,by simp,by simp,hsent _ _ _ _ _⟩
    · cases h
  | closeOwn =>
    simp only [connStep,Option.ite_none_right_eq_some,Option.some.injEq] at h
    obtain ⟨_,rfl⟩ := h
    exact ⟨by simp,by simp,by simp,fun _ => by simp⟩
  | receive | loopEnds | writerTakes | writerWrites | writerFails | writerFinishes
  | connsClosed => cases h

end Fields

def agentTunnelSystem (isAllowed : Bytes → Int → Bool) : System AgentTunnel AgentTunnelEvent where
  start s := s = AgentTunnel.new
  step := agentTunnelStep isAllowed

def allowEveryHost : Bytes → Int → Bool := fun _ _ => true

def openDb : Protocol.Frame := ⟨1,Protocol.OPEN,utf8 "db:5432"⟩

end Nexplane
