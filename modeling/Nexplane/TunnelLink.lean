import Nexplane.AgentTunnel
import Nexplane.TunnelSession

set_option autoImplicit false

/-! A tunnel session and the agent's end of it, joined by two channels that keep the order and lose
nothing, and the streams that the two ends believe in. -/

namespace Nexplane
open Text Runs Lists

/-- Both ends and the frames between them; the codecs of the two ends agree, so the channels carry
decoded frames. -/
structure TunnelLink where
  session : TunnelSession
  agent : AgentTunnel
  /-- With the number of the stream that sent the frame. -/
  toAgent : List (Nat × Protocol.Frame)
  toControl : List Protocol.Frame
  /-- The stream whose OPEN frame started the connection. -/
  origins : List Nat

inductive LinkEvent where
  | control (e : SessionEvent)
  | deliverControl
  | agent (e : AgentTunnelEvent)
  | deliverAgent (writeOk : Bool)
  deriving DecidableEq, Repr

/-- The stream in whose name the step sends its frame. -/
def SessionEvent.sender (s : TunnelSession) : SessionEvent → Nat
  | .write k _ | .closeBegins k => k
  | _ => s.objects.length

namespace TunnelLink

def new : TunnelLink := ⟨TunnelSession.new,AgentTunnel.new,[],[],[]⟩

def controlStep (s : TunnelLink) (e : SessionEvent) : Option TunnelLink :=
  match e with
  | .receive _ => none
  | _ => (sessionStep s.session e).map fun (session,frame) =>
    { s with
      session
      toAgent := s.toAgent ++ frame.toList.map (e.sender s.session,·) }

/-- The read loop on the first frame of its channel. -/
def deliverControl (s : TunnelLink) : Option TunnelLink :=
  match s.toControl with
  | [] => none
  | frame :: rest =>
    if s.session.shut = true then none
    else some { s with session := s.session.handleFrame frame, toControl := rest }

/-- What the writer goroutine writes is in the channel. -/
def agentStep (isAllowed : Bytes → Int → Bool) (s : TunnelLink) (e : AgentTunnelEvent) :
    Option TunnelLink :=
  match e with
  | .receive _ _ => none
  | _ => (agentTunnelStep isAllowed s.agent e).map fun agent =>
    { s with
      agent
      toControl := s.toControl ++
        (agent.written.drop s.agent.written.length).map OutFrame.frame }

/-- The frame loop on the first frame of its channel. -/
def deliverAgent (isAllowed : Bytes → Int → Bool) (s : TunnelLink) (writeOk : Bool) :
    Option TunnelLink :=
  match s.toAgent with
  | [] => none
  | (origin,frame) :: rest =>
    (agentTunnelStep isAllowed s.agent (.receive frame writeOk)).map fun agent =>
      { s with
        agent
        toAgent := rest
        origins :=
          if s.agent.conns.length < agent.conns.length then s.origins ++ [origin]
          else s.origins }

end TunnelLink

def linkStep (isAllowed : Bytes → Int → Bool) (s : TunnelLink) : LinkEvent → Option TunnelLink
  | .control e => s.controlStep e
  | .deliverControl => s.deliverControl
  | .agent e => s.agentStep isAllowed e
  | .deliverAgent writeOk => s.deliverAgent isAllowed writeOk

def linkSystem (isAllowed : Bytes → Int → Bool) : System TunnelLink LinkEvent where
  start s := s = TunnelLink.new
  step := linkStep isAllowed

/-- The goroutine still dials, or has still to answer the OPEN with success. -/
def TunnelConn.Answering (c : TunnelConn) : Prop :=
  match c.phase with
  | .dialling | .connected | .stored => True
  | _ => False

/-- The connection has been stored and its goroutine still runs. -/
def TunnelConn.Served (c : TunnelConn) : Prop :=
  match c.phase with
  | .stored | .reading | .chunk _ _ | .failing | .closing => True
  | _ => False

namespace TunnelLink

def Open (s : TunnelLink) : Prop :=
  s.session.closed = false ∧ s.agent.loop = .running ∧ s.agent.panicked = false

/-- The frames on their way to the control plane, oldest first. -/
def back (s : TunnelLink) : List Protocol.Frame :=
  s.toControl ++ (s.agent.writer.frames ++ s.agent.writeCh).map OutFrame.frame

/-- No frame in flight, no dial pending at either end, the session open. -/
structure Quiescent (s : TunnelLink) : Prop where
  isOpen : s.Open
  toAgent : s.toAgent = []
  back : s.back = []
  dials : ∀ o ∈ s.session.objects, o.phase ≠ .dialling
  conns : ∀ c ∈ s.agent.conns, ¬c.Answering ∧ ∀ reason, c.phase ≠ .refused reason

/-- Every connection the agent holds belongs to a stream of the control plane's table. -/
def Agrees (s : TunnelLink) : Prop :=
  ∀ (k : Nat) (c : TunnelConn), s.agent.conns[k]? = some c → c.tcpOpen = true →
    ∃ j, s.origins[k]? = some j ∧ s.session.streams c.streamId = some j

/-- Nothing at either end or in flight has the id. -/
structure Unused (s : TunnelLink) (id : Int) : Prop where
  table : s.session.streams id = none
  toAgent : ∀ x ∈ s.toAgent, x.2.streamId ≠ id
  back : ∀ f ∈ s.back, f.streamId ≠ id
  conns : ∀ c ∈ s.agent.conns, c.streamId = id → c.phase = .exited

/-- The agent has nothing of the dial to come and nothing of it open. -/
structure Abandoned (s : TunnelLink) (j : Nat) : Prop where
  toAgent : ∀ x ∈ s.toAgent, x.1 = j → x.2.type ≠ Protocol.OPEN
  conns : ∀ (k : Nat) (c : TunnelConn), s.agent.conns[k]? = some c → s.origins[k]? = some j →
    ¬c.Answering ∧ c.tcpOpen = false

end TunnelLink

/-- A dial takes an unused id, and times out only when the agent has nothing of it left. -/
def DialsCleanly (s : TunnelLink) : LinkEvent → Prop
  | .control (.dial _ _) | .control (.dialUnsent _ _) => s.Unused s.session.nextId
  | .control (.dialTimesOut j) => s.Abandoned j
  | _ => True

end Nexplane
