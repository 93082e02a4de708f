import Nexplane.Lib.Text
import Mathlib.Algebra.Group.Nat.Defs

set_option autoImplicit false

/-! The wire format of the reverse tunnel as the control plane and the agent implement it. -/

namespace Nexplane
open Text

namespace Protocol

def OPEN : Int := 1
def OPEN_OK : Int := 2
def OPEN_ERR : Int := 3
def DATA : Int := 4
def CLOSE : Int := 5

def types : List Int := [OPEN,OPEN_OK,OPEN_ERR,DATA,CLOSE]

def headerLen : Nat := 5

inductive OpenProblem where
  | notUtf8
  | expectedHostPort
  | invalidInt (text : String)
  | portOutOfRange (port : Int)
  deriving DecidableEq, Repr

inductive ProtocolError where
  | unknownFrameType (type : Int)
  | streamIdOutOfRange (streamId : Int)
  | frameTooShort (length : Nat)
  | badOpenPayload (problem : OpenProblem)
  deriving DecidableEq, Repr

structure Frame where
  streamId : Int
  type : Int
  payload : Bytes
  deriving DecidableEq, Repr

/-- `struct.Struct(">IB").pack`, on values that fit. -/
def packHeader (streamId type : Int) : Bytes :=
  bigEndian streamId.toNat ++ [UInt8.ofNat type.toNat]

def encode (streamId type : Int) (payload : Bytes) : Except ProtocolError Bytes :=
  if type ∉ types then .error (.unknownFrameType type)
  else if ¬(0 ≤ streamId ∧ streamId ≤ 0xFFFFFFFF) then .error (.streamIdOutOfRange streamId)
  else .ok (packHeader streamId type ++ payload)

def decode (data : Bytes) : Except ProtocolError Frame :=
  if data.length < headerLen then .error (.frameTooShort data.length)
  else
    let streamId : Int := fromBigEndian (data.take 4)
    let type : Int := fromBigEndian ((data.take headerLen).drop 4)
    if type ∉ types then .error (.unknownFrameType type)
    else .ok ⟨streamId,type,data.drop headerLen⟩

/-- `f"{host}:{port}"`. -/
def openText (host : String) (port : Int) : String := host ++ ":" ++ toString port

def openFrame (streamId : Int) (host : String) (port : Int) : Except ProtocolError Bytes :=
  encode streamId OPEN (utf8 (openText host port))

def parseOpen (payload : Bytes) : Except ProtocolError (String × Int) :=
  match decodeUtf8 payload with
  | none => .error (.badOpenPayload .notUtf8)
  | some text =>
    match splitLast ':' text.toList with
    | none => .error (.badOpenPayload .expectedHostPort)
    | some (host,portText) =>
      if host = [] ∨ portText = [] then .error (.badOpenPayload .expectedHostPort)
      else
        match pyInt portText with
        | none => .error (.badOpenPayload (.invalidInt (String.ofList portText)))
        | some port =>
          if 1 ≤ port ∧ port ≤ 65535 then .ok (String.ofList host,port)
          else .error (.badOpenPayload (.portOutOfRange port))

end Protocol

namespace AgentFrame

def opOpen : UInt8 := 1
def opOpenOK : UInt8 := 2
def opOpenErr : UInt8 := 3
def opData : UInt8 := 4
def opClose : UInt8 := 5

inductive FrameError where
  | frameTooShort (length : Nat)
  | noColon (payload : Bytes)
  | invalidPort (portStr : Bytes)
  deriving DecidableEq, Repr

/-- `binary.BigEndian.PutUint32`. -/
def putUint32 (v : UInt32) : Bytes :=
  [(v >>> 24).toUInt8,(v >>> 16).toUInt8,(v >>> 8).toUInt8,v.toUInt8]

/-- `binary.BigEndian.Uint32`; the callers pass four bytes. -/
def uint32 : Bytes → UInt32
  | a :: b :: c :: d :: _ =>
    d.toUInt32 ||| c.toUInt32 <<< 8 ||| b.toUInt32 <<< 16 ||| a.toUInt32 <<< 24
  | _ => 0

def encode (streamID : UInt32) (typ : UInt8) (payload : Bytes) : Bytes :=
  putUint32 streamID ++ [typ] ++ payload

def decode (b : Bytes) : Except FrameError (UInt32 × UInt8 × Bytes) :=
  if b.length < 5 then .error (.frameTooShort b.length)
  else .ok (uint32 (b.take 4),b.getD 4 0,b.drop 5)

/-- The host keeps its bytes, a Go string need not be UTF-8. -/
def parseOpen (payload : Bytes) : Except FrameError (Bytes × Int) :=
  match splitLast 0x3A payload with
  | none => .error (.noColon payload)
  | some (host,portStr) =>
    match atoi (latin1 portStr) with
    | none => .error (.invalidPort portStr)
    | some p => if p < 1 ∨ 65535 < p then .error (.invalidPort portStr) else .ok (host,p)

end AgentFrame

section Words

theorem putUint32_eq (v : UInt32) : AgentFrame.putUint32 v = bigEndian v.toNat := by
  simp only [AgentFrame.putUint32,bigEndian,List.cons.injEq,and_true]
  refine ⟨?_,?_,?_,?_⟩ <;> apply UInt8.toNat_inj.mp <;>
    simp [Nat.shiftRight_eq_div_pow]

theorem or_shiftLeft {x i : Nat} (h : x < 2 ^ i) (y : Nat) : x ||| y <<< i = 2 ^ i * y + x := by
  rw [Nat.or_comm,← Nat.shiftLeft_add_eq_or_of_lt h,Nat.shiftLeft_eq,Nat.mul_comm]

theorem uint32_toNat (a b c d : UInt8) :
    (AgentFrame.uint32 [a,b,c,d]).toNat = fromBigEndian [a,b,c,d] := by
  have ha := a.toNat_lt
  have hb := b.toNat_lt
  have hc := c.toNat_lt
  have hd := d.toNat_lt
  have hshift : ∀ (x : UInt8) (i : Nat), i ≤ 24 → x.toNat <<< i % 4294967296 = x.toNat <<< i := by
    intro x i hi
    have hx := x.toNat_lt
    have hp : 2 ^ i ≤ 2 ^ 24 := Nat.pow_le_pow_right (by decide) hi
    have hm : x.toNat * 2 ^ i ≤ 255 * 2 ^ 24 := Nat.mul_le_mul (by omega) hp
    rw [Nat.shiftLeft_eq]
    omega
  simp only [AgentFrame.uint32,UInt32.toNat_or,UInt32.toNat_shiftLeft,UInt8.toNat_toUInt32,
    UInt32.reduceToNat,Nat.reduceMod,Nat.reducePow]
  rw [hshift c 8 (by decide),hshift b 16 (by decide),hshift a 24 (by decide)]
  rw [or_shiftLeft (i := 8) (by omega),or_shiftLeft (i := 16) (by omega),
    or_shiftLeft (i := 24) (by omega)]
  simp only [fromBigEndian,List.foldl_cons,List.foldl_nil]
  omega

end Words

section Codecs

theorem mem_types {type : Int} : type ∈ Protocol.types ↔ 1 ≤ type ∧ type ≤ 5 := by
  simp only [Protocol.types,Protocol.OPEN,Protocol.OPEN_OK,Protocol.OPEN_ERR,Protocol.DATA,
    Protocol.CLOSE,List.mem_cons,List.not_mem_nil,or_false]
  omega

theorem packHeader_eq (id : UInt32) (typ : UInt8) :
    Protocol.packHeader id.toNat typ.toNat = AgentFrame.putUint32 id ++ [typ] := by
  rw [putUint32_eq]
  simp [Protocol.packHeader]

theorem Protocol.encode_eq {id : UInt32} {typ : UInt8} (h : (typ.toNat : Int) ∈ Protocol.types)
    (payload : Bytes) :
    Protocol.encode id.toNat typ.toNat payload = .ok (AgentFrame.encode id typ payload) := by
  have hid := id.toNat_lt
  rw [Protocol.encode,if_neg (not_not_intro h),if_neg (by omega),packHeader_eq]
  rfl

theorem Protocol.decode_cons (a b c d t : UInt8) (payload : Bytes) :
    Protocol.decode (a :: b :: c :: d :: t :: payload) =
      if (t.toNat : Int) ∈ Protocol.types then
        .ok ⟨(AgentFrame.uint32 [a,b,c,d]).toNat,t.toNat,payload⟩
      else .error (.unknownFrameType t.toNat) := by
  have hlen : ¬(a :: b :: c :: d :: t :: payload).length < Protocol.headerLen := by
    simp [Protocol.headerLen]
  rw [Protocol.decode,if_neg hlen,uint32_toNat]
  have htype : fromBigEndian
      (((a :: b :: c :: d :: t :: payload).take Protocol.headerLen).drop 4) = t.toNat := by
    simp [fromBigEndian,Protocol.headerLen]
  rw [htype]
  by_cases ht : (t.toNat : Int) ∈ Protocol.types
  · rw [if_pos ht,if_neg (not_not_intro ht)]
    rfl
  · rw [if_neg ht,if_pos ht]

theorem AgentFrame.decode_cons (a b c d t : UInt8) (payload : Bytes) :
    AgentFrame.decode (a :: b :: c :: d :: t :: payload) =
      .ok (AgentFrame.uint32 [a,b,c,d],t,payload) := by
  have hlen : ¬(a :: b :: c :: d :: t :: payload).length < 5 := by simp
  rw [AgentFrame.decode,if_neg hlen]
  rfl

theorem uint32_putUint32 (id : UInt32) : AgentFrame.uint32 (AgentFrame.putUint32 id) = id := by
  apply UInt32.toNat_inj.mp
  rw [AgentFrame.putUint32,uint32_toNat,← AgentFrame.putUint32,putUint32_eq]
  exact fromBigEndian_bigEndian id.toNat_lt

theorem putUint32_uint32 (a b c d : UInt8) :
    AgentFrame.putUint32 (AgentFrame.uint32 [a,b,c,d]) = [a,b,c,d] := by
  rw [putUint32_eq,uint32_toNat,bigEndian_fromBigEndian]

theorem AgentFrame.decode_encode (id : UInt32) (typ : UInt8) (payload : Bytes) :
    AgentFrame.decode (AgentFrame.encode id typ payload) = .ok (id,typ,payload) := by
  have h := AgentFrame.decode_cons (id >>> 24).toUInt8 (id >>> 16).toUInt8 (id >>> 8).toUInt8
    id.toUInt8 typ payload
  rwa [← AgentFrame.putUint32,uint32_putUint32] at h

theorem Protocol.decode_encode {id : UInt32} {typ : UInt8}
    (h : (typ.toNat : Int) ∈ Protocol.types) (payload : Bytes) :
    Protocol.decode (AgentFrame.encode id typ payload) = .ok ⟨id.toNat,typ.toNat,payload⟩ := by
  have hd := Protocol.decode_cons (id >>> 24).toUInt8 (id >>> 16).toUInt8 (id >>> 8).toUInt8
    id.toUInt8 typ payload
  rwa [if_pos h,← AgentFrame.putUint32,uint32_putUint32] at hd

/-- What the control plane decodes is what the agent would have encoded. -/
theorem Protocol.decode_ok {data : Bytes} {frame : Protocol.Frame}
    (h : Protocol.decode data = .ok frame) :
    ∃ (id : UInt32) (typ : UInt8), (typ.toNat : Int) ∈ Protocol.types ∧
      frame = ⟨id.toNat,typ.toNat,frame.payload⟩ ∧
      data = AgentFrame.encode id typ frame.payload := by
  match data, h with
  | a :: b :: c :: d :: t :: payload, h =>
    rw [Protocol.decode_cons] at h
    split at h
    · next ht =>
      obtain rfl := Except.ok.inj h
      refine ⟨AgentFrame.uint32 [a,b,c,d],t,ht,rfl,?_⟩
      rw [AgentFrame.encode,putUint32_uint32]
      rfl
    · cases h
  | [], h | [_], h | [_,_], h | [_,_,_], h | [_,_,_,_], h => cases h

end Codecs

section OpenPayload

theorem utf8_openText (host : String) (port : Nat) :
    utf8 (Protocol.openText host port) =
      utf8 host ++ 0x3A :: utf8 (toString port) := by
  have hport : toString (port : Int) = toString port := rfl
  have hcolon : utf8 ":" = [0x3A] := by decide
  rw [Protocol.openText,utf8_append,utf8_append,hport,hcolon,List.append_assoc,
    List.singleton_append]

theorem digits_of_toString {port : Nat} {c : Char} (h : c ∈ (toString port).toList) :
    c.isDigit = true := by
  rw [Nat.toString_eq_repr,Nat.toList_repr] at h
  exact Nat.isDigit_of_mem_toDigits (by decide) (by decide) h

theorem colon_notMem_port (port : Nat) : 0x3A ∉ utf8 (toString port) := by
  rw [utf8_ascii fun c hc => isDigit_lt (digits_of_toString hc)]
  intro hm
  obtain ⟨c,hc,heq⟩ := List.mem_map.mp hm
  obtain ⟨hlo,hhi⟩ := isDigit_iff.mp (digits_of_toString hc)
  have hn := congrArg UInt8.toNat heq
  rw [UInt8.toNat_ofNat',show (0x3A : UInt8).toNat = 58 by decide] at hn
  omega

theorem AgentFrame.parseOpen_openText (host : String) {port : Nat} (hlo : 1 ≤ port)
    (hhi : port ≤ 65535) :
    AgentFrame.parseOpen (utf8 (Protocol.openText host port)) = .ok (utf8 host,(port : Int)) := by
  have hport : atoi (latin1 (utf8 (toString port))) = some (port : Int) := by
    rw [latin1_utf8 fun c hc => isDigit_lt (digits_of_toString hc),Nat.toString_eq_repr,
      Nat.toList_repr]
    exact atoi_toDigits (by omega)
  rw [AgentFrame.parseOpen,utf8_openText,splitLast_append _ (colon_notMem_port port)]
  simp only [hport]
  exact if_neg (by omega)

end OpenPayload

theorem tunnel_codecs_agree :
    (∀ (id : UInt32) (typ : UInt8) (payload : Bytes), 1 ≤ typ.toNat → typ.toNat ≤ 5 →
      Protocol.encode id.toNat typ.toNat payload = .ok (AgentFrame.encode id typ payload) ∧
      Protocol.decode (AgentFrame.encode id typ payload) = .ok ⟨id.toNat,typ.toNat,payload⟩ ∧
      AgentFrame.decode (AgentFrame.encode id typ payload) = .ok (id,typ,payload)) ∧
    (∀ (data : Bytes) (frame : Protocol.Frame), Protocol.decode data = .ok frame →
      Protocol.encode frame.streamId frame.type frame.payload = .ok data ∧
      ∃ (id : UInt32) (typ : UInt8), AgentFrame.decode data = .ok (id,typ,frame.payload) ∧
        frame.streamId = id.toNat ∧ frame.type = typ.toNat) ∧
    (∀ (id : UInt32) (host : String) (port : Nat), 1 ≤ port → port ≤ 65535 →
      ∃ data payload, Protocol.openFrame id.toNat host port = .ok data ∧
        AgentFrame.decode data = .ok (id,AgentFrame.opOpen,payload) ∧
        AgentFrame.parseOpen payload = .ok (utf8 host,(port : Int))) := by
  refine ⟨?_,?_,?_⟩
  · intro id typ payload hlo hhi
    have htype : (typ.toNat : Int) ∈ Protocol.types := mem_types.mpr (by omega)
    exact ⟨Protocol.encode_eq htype payload,Protocol.decode_encode htype payload,
      AgentFrame.decode_encode id typ payload⟩
  · intro data frame h
    obtain ⟨id,typ,htype,hframe,hdata⟩ := Protocol.decode_ok h
    rw [hframe,hdata]
    exact ⟨Protocol.encode_eq htype _,id,typ,AgentFrame.decode_encode id typ _,rfl,rfl⟩
  · intro id host port hlo hhi
    have hopen : (AgentFrame.opOpen.toNat : Int) ∈ Protocol.types := by decide
    exact ⟨_,_,Protocol.encode_eq hopen _,AgentFrame.decode_encode id _ _,
      AgentFrame.parseOpen_openText host hlo hhi⟩

/-- The golden vectors of the two test suites. -/
theorem tunnel_codecs_golden :
    Protocol.encode 0x01020304 4 [0x68,0x69] = .ok [1,2,3,4,4,0x68,0x69] ∧
    (∃ id typ, AgentFrame.decode [0,0,0,7,2] = .ok (id,typ,[]) ∧ 7 = (id.toNat : Int) ∧
      2 = (typ.toNat : Int)) ∧
    ∃ data payload, Protocol.openFrame 1 "db.internal" 5432 = .ok data ∧
      AgentFrame.decode data = .ok (1,1,payload) ∧
      AgentFrame.parseOpen payload = .ok (utf8 "db.internal",5432) := by
  refine ⟨?_,?_,?_⟩
  · exact (tunnel_codecs_agree.1 0x01020304 4 [0x68,0x69] (by decide) (by decide)).1
  · exact (tunnel_codecs_agree.2.1 [0,0,0,7,2] ⟨7,2,[]⟩ rfl).2
  · exact tunnel_codecs_agree.2.2 1 "db.internal" 5432 (by decide) (by decide)

end Nexplane
