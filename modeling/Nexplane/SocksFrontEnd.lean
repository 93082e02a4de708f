import Nexplane.Lib.Checks
import Nexplane.Lib.Ip
import Nexplane.Lib.LossyUtf8
import Nexplane.Lib.StreamReader

set_option autoImplicit false

/-! The SOCKS5 front-end of the reverse tunnel: what of a client's bytes leads to a dial. What is
written to the client arrives. -/

namespace Nexplane
open Text Checks LossyUtf8

namespace Socks

def VER : UInt8 := 5
def AUTH_USERPASS : UInt8 := 2
def CMD_CONNECT : UInt8 := 1
def ATYP_IPV4 : UInt8 := 1
def ATYP_DOMAIN : UInt8 := 3
def ATYP_IPV6 : UInt8 := 4

def REP_OK : UInt8 := 0
def REP_GENERAL : UInt8 := 1
def REP_NOT_ALLOWED : UInt8 := 2
def REP_UNREACHABLE : UInt8 := 3
def REP_REFUSED : UInt8 := 5
def REP_CMD_UNSUP : UInt8 := 7
def REP_ATYP_UNSUP : UInt8 := 8

/-- `_reply`. -/
def reply (rep : UInt8) : Bytes := [VER,rep,0,ATYP_IPV4,0,0,0,0,0,0]

section Addresses

/-- `str` of an `IPv4Address`. -/
def ipv4Text (address : Bytes) : String := String.ofList (Ip.quad (fromBigEndian address))

def hextets : Bytes → List Nat
  | a :: b :: bs => (256 * a.toNat + b.toNat) :: hextets bs
  | _ => []

/-- The run of zeros up to the hextet at `index`, and the first of the longest ones. -/
structure Zeros where
  index : Nat
  length : Nat
  bestStart : Nat
  bestLength : Nat

def Zeros.next (z : Zeros) (hextet : Nat) : Zeros :=
  if hextet ≠ 0 then { z with index := z.index + 1, length := 0 }
  else if z.bestLength < z.length + 1 then
    ⟨z.index + 1,z.length + 1,z.index - z.length,z.length + 1⟩
  else { z with index := z.index + 1, length := z.length + 1 }

/-- `_compress_hextets`. -/
def compressHextets (hs : List Nat) : List (List Char) :=
  let zeros := hs.foldl Zeros.next ⟨0,0,0,0⟩
  let texts := hs.map (Nat.toDigits 16)
  if 1 < zeros.bestLength then
    let stop := zeros.bestStart + zeros.bestLength
    let tail := texts.drop stop ++ if stop = hs.length then [[]] else []
    let compressed := texts.take zeros.bestStart ++ [] :: tail
    if zeros.bestStart = 0 then [] :: compressed else compressed
  else texts

/-- `str` of an `IPv6Address`. -/
def ipv6Text (address : Bytes) : String :=
  String.ofList (List.intercalate [':'] (compressHextets (hextets address)))

example : [ipv6Text [0,0,0,0,0,0,0,0,0,0,0,0,0,0,0,0],
    ipv6Text [0x20,1,0xD,0xB8,0,0,0,0,0,5,0,0,0,0,0,0],
    ipv6Text [0,0,0,0,0,1,0,0,0,0,0,0,0,0,0,0xA]] = ["::","2001:db8:0:0:5::","0:0:1::a"] := by
  decide

end Addresses

/-- A stage closes the connection after some replies, or goes on. -/
abbrev Stage := Except (List Bytes)

/-- `_read_exact`: the connection is closed when the client's bytes end. -/
def readExact (r : StreamReader) (n : Nat) : Stage (Bytes × StreamReader) :=
  match r.readExactly n with
  | none => .error []
  | some read => .ok read

/-- A length of one byte, and as many bytes. -/
def readPrefixed (r : StreamReader) : Stage (Bytes × StreamReader) := do
  let (length,r) ← readExact r 1
  readExact r (length.getD 0 0).toNat

def greeting (r : StreamReader) : Stage StreamReader := do
  let (head,r) ← readExact r 2
  if head.getD 0 0 ≠ VER then throw []
  let (methods,r) ← readExact r (head.getD 1 0).toNat
  if AUTH_USERPASS ∉ methods then throw [[VER,0xFF]]
  pure r

/-- The user's name. The version of the subnegotiation is read and not looked at. -/
def credentials (authToken : Option String) (r : StreamReader) : Stage (String × StreamReader) := do
  let (_,r) ← readExact r 1
  let (username,r) ← readPrefixed r
  let (password,r) ← readPrefixed r
  if ¬(authToken = none ∨ authToken = some (decodeReplace password)) then throw [[1,1]]
  pure (decodeReplace username,r)

def readHost (atyp : UInt8) (r : StreamReader) : Stage (String × StreamReader) :=
  if atyp = ATYP_IPV4 then do
    let (address,r) ← readExact r 4
    pure (ipv4Text address,r)
  else if atyp = ATYP_IPV6 then do
    let (address,r) ← readExact r 16
    pure (ipv6Text address,r)
  else if atyp = ATYP_DOMAIN then do
    let (name,r) ← readPrefixed r
    pure (decodeReplace name,r)
  else throw [reply REP_ATYP_UNSUP]

def connectRequest (r : StreamReader) : Stage ((String × Nat) × StreamReader) := do
  let (head,r) ← readExact r 4
  if head.getD 0 0 ≠ VER then throw []
  if head.getD 1 0 ≠ CMD_CONNECT then throw [reply REP_CMD_UNSUP]
  let (host,r) ← readHost (head.getD 3 0) r
  let (port,r) ← readExact r 2
  pure ((host,fromBigEndian port),r)

/-- What `manager.dial` returns or raises. -/
inductive DialOutcome where
  | stream
  | destinationDenied
  | tunnelUnavailable
  | concurrencyLimitExceeded
  | dialError
  | otherException
  deriving DecidableEq, Repr

def DialOutcome.rep : DialOutcome → UInt8
  | .stream => REP_OK
  | .destinationDenied => REP_NOT_ALLOWED
  | .tunnelUnavailable => REP_UNREACHABLE
  | .concurrencyLimitExceeded => REP_GENERAL
  | .dialError => REP_REFUSED
  | .otherException => REP_GENERAL

/-- What has become of a connection: the writes, the calls of `manager.dial`, and what `_relay`
takes over from the client. -/
structure Connection where
  written : List Bytes
  dials : List (String × String × Nat)
  relayed : Option StreamReader

def handleSocksConnection (authToken : Option String)
    (dial : String → String → Nat → DialOutcome) (r : StreamReader) : Connection :=
  match greeting r with
  | .error replies => ⟨replies,[],none⟩
  | .ok r =>
    match credentials authToken r with
    | .error replies => ⟨[VER,AUTH_USERPASS] :: replies,[],none⟩
    | .ok (username,r) =>
      match connectRequest r with
      | .error replies => ⟨[VER,AUTH_USERPASS] :: [1,0] :: replies,[],none⟩
      | .ok ((host,port),r) =>
        let outcome := dial username host port
        ⟨[[VER,AUTH_USERPASS],[1,0],reply outcome.rep],[(username,host,port)],
          if outcome = .stream then some r else none⟩

section Format

/-- A length of one byte and the field. -/
def prefixed (field : Bytes) : Bytes := UInt8.ofNat field.length :: field

inductive Address where
  | ipv4 (address : Bytes) (length : address.length = 4)
  | ipv6 (address : Bytes) (length : address.length = 16)
  | domain (name : Bytes) (short : name.length < 256)

def Address.atyp : Address → UInt8
  | .ipv4 _ _ => ATYP_IPV4
  | .ipv6 _ _ => ATYP_IPV6
  | .domain _ _ => ATYP_DOMAIN

def Address.bytes : Address → Bytes
  | .ipv4 address _ => address
  | .ipv6 address _ => address
  | .domain name _ => prefixed name

def Address.host : Address → String
  | .ipv4 address _ => ipv4Text address
  | .ipv6 address _ => ipv6Text address
  | .domain name _ => decodeReplace name

/-- What a client asks for in the format of RFC 1928 and RFC 1929; a field may be empty, and the
reserved byte is free. -/
structure ClientRequest where
  methods : Bytes
  username : Bytes
  password : Bytes
  reserved : UInt8
  address : Address
  port : Nat
  methods_short : methods.length < 256
  offered : AUTH_USERPASS ∈ methods
  username_short : username.length < 256
  password_short : password.length < 256
  port_lt : port < 65536

def ClientRequest.greeting (q : ClientRequest) : Bytes := VER :: prefixed q.methods

def ClientRequest.credentials (q : ClientRequest) (version : UInt8) : Bytes :=
  version :: (prefixed q.username ++ prefixed q.password)

def ClientRequest.connect (q : ClientRequest) : Bytes :=
  [VER,CMD_CONNECT,q.reserved,q.address.atyp] ++
    (q.address.bytes ++ [UInt8.ofNat (q.port / 256),UInt8.ofNat q.port])

/-- The bytes of the request, with a version of the subnegotiation; RFC 1929 has version 1. -/
def ClientRequest.bytes (q : ClientRequest) (version : UInt8) : Bytes :=
  q.greeting ++ (q.credentials version ++ q.connect)

/-- The password is the token, if there is one. -/
def ClientRequest.Accepted (authToken : Option String) (q : ClientRequest) : Prop :=
  authToken = none ∨ authToken = some (decodeReplace q.password)

def ClientRequest.dial (q : ClientRequest) : String × String × Nat :=
  (decodeReplace q.username,q.address.host,q.port)

end Format

section Stages

variable {r r' : StreamReader} {n : Nat} {bs tail : Bytes}

theorem readExact_sound (h : readExact r n = .ok (bs,r')) :
    r.rest = bs ++ r'.rest ∧ bs.length = n := by
  unfold readExact at h
  split at h
  · cases h
  · next read hread =>
    obtain rfl := Except.ok.inj h
    exact StreamReader.readExactly_sound hread

theorem readExact_complete (bs tail : Bytes) (h : r.rest = bs ++ tail) :
    ∃ r', readExact r bs.length = .ok (bs,r') ∧ r'.rest = tail := by
  obtain ⟨r',hread,hrest⟩ := StreamReader.readExactly_complete h
  exact ⟨r',by rw [readExact,hread],hrest⟩

theorem length_byte (h : n < 256) : (UInt8.ofNat n).toNat = n := by
  rw [UInt8.toNat_ofNat']
  omega

theorem readPrefixed_sound (h : readPrefixed r = .ok (bs,r')) :
    r.rest = prefixed bs ++ r'.rest ∧ bs.length < 256 := by
  obtain ⟨⟨length,r₁⟩,hlength,h⟩ := bind_eq_ok.mp h
  obtain ⟨hrest,hone⟩ := readExact_sound hlength
  obtain ⟨b,rfl⟩ := List.length_eq_one_iff.mp hone
  obtain ⟨hrest₁,hlen⟩ := readExact_sound h
  have hb : bs.length = b.toNat := hlen
  have hlt := b.toNat_lt
  refine ⟨?_,by omega⟩
  rw [hrest,hrest₁,prefixed,hb]
  simp

theorem readPrefixed_complete (hshort : bs.length < 256) (h : r.rest = prefixed bs ++ tail) :
    ∃ r', readPrefixed r = .ok (bs,r') ∧ r'.rest = tail := by
  obtain ⟨r₁,hlength,hrest₁⟩ := readExact_complete [UInt8.ofNat bs.length]
    (bs ++ tail) h
  obtain ⟨r',hread,hrest⟩ := readExact_complete _ _ hrest₁
  refine ⟨r',?_,hrest⟩
  have hlength : readExact r 1 = .ok ([UInt8.ofNat bs.length],r₁) := hlength
  simp only [readPrefixed,hlength,ok_bind,List.getD_cons_zero,length_byte hshort,hread]

theorem greeting_sound (h : greeting r = .ok r') :
    ∃ methods : Bytes, methods.length < 256 ∧ AUTH_USERPASS ∈ methods ∧
      r.rest = VER :: prefixed methods ++ r'.rest := by
  simp only [greeting,bind_eq_ok,ite_eq_ok,throw_ne_ok,pure_eq_ok,ne_eq,not_not,false_and,
    exists_false,and_false,false_or] at h
  obtain ⟨⟨head,r₁⟩,hhead,hver,⟨methods,r₂⟩,hmethods,hoffered,rfl⟩ := h
  obtain ⟨hrest,htwo⟩ := readExact_sound hhead
  obtain ⟨ver,nmethods,rfl⟩ := List.length_eq_two.mp htwo
  obtain ⟨hrest₁,hlen⟩ := readExact_sound hmethods
  obtain rfl : ver = VER := hver
  have hlen : methods.length = nmethods.toNat := hlen
  have hlt := nmethods.toNat_lt
  refine ⟨methods,by omega,hoffered,?_⟩
  simp [hrest,hrest₁,prefixed,hlen]

theorem greeting_complete {methods : Bytes} (hshort : methods.length < 256)
    (hoffered : AUTH_USERPASS ∈ methods) (h : r.rest = VER :: prefixed methods ++ tail) :
    ∃ r', greeting r = .ok r' ∧ r'.rest = tail := by
  obtain ⟨r₁,hhead,hrest₁⟩ := readExact_complete [VER,UInt8.ofNat methods.length]
    (methods ++ tail) h
  obtain ⟨r',hmethods,hrest⟩ := readExact_complete _ _ hrest₁
  refine ⟨r',?_,hrest⟩
  simp only [greeting,bind_eq_ok,ite_eq_ok,throw_ne_ok,pure_eq_ok,ne_eq,not_not,false_and,
    exists_false,and_false,false_or]
  refine ⟨_,hhead,rfl,(methods,r'),?_,hoffered,rfl⟩
  simpa [length_byte hshort] using hmethods

theorem credentials_sound {authToken : Option String} {name : String}
    (h : credentials authToken r = .ok (name,r')) :
    ∃ (version : UInt8) (username password : Bytes), username.length < 256 ∧
      password.length < 256 ∧
      (authToken = none ∨ authToken = some (decodeReplace password)) ∧
      r.rest = version :: (prefixed username ++ prefixed password) ++ r'.rest ∧
      name = decodeReplace username := by
  simp only [credentials,bind_eq_ok,ite_eq_ok,throw_ne_ok,pure_eq_ok,not_not,false_and,
    exists_false,and_false,false_or,Prod.mk.injEq] at h
  obtain ⟨⟨ver,r₁⟩,hver,⟨username,r₂⟩,husername,⟨password,r₃⟩,hpassword,haccepted,rfl,rfl⟩ := h
  obtain ⟨hrest,hone⟩ := readExact_sound hver
  obtain ⟨version,rfl⟩ := List.length_eq_one_iff.mp hone
  obtain ⟨hrest₁,hushort⟩ := readPrefixed_sound husername
  obtain ⟨hrest₂,hpshort⟩ := readPrefixed_sound hpassword
  refine ⟨version,username,password,hushort,hpshort,haccepted,?_,rfl⟩
  simp [hrest,hrest₁,hrest₂]

theorem credentials_complete {authToken : Option String} {version : UInt8}
    {username password : Bytes} (hushort : username.length < 256) (hpshort : password.length < 256)
    (haccepted : authToken = none ∨ authToken = some (decodeReplace password))
    (h : r.rest = version :: (prefixed username ++ prefixed password) ++ tail) :
    ∃ r', credentials authToken r = .ok (decodeReplace username,r') ∧ r'.rest = tail := by
  obtain ⟨r₁,hver,hrest₁⟩ := readExact_complete [version]
    (prefixed username ++ (prefixed password ++ tail)) (by simpa using h)
  obtain ⟨r₂,husername,hrest₂⟩ := readPrefixed_complete hushort hrest₁
  obtain ⟨r₃,hpassword,hrest₃⟩ := readPrefixed_complete hpshort hrest₂
  refine ⟨r₃,?_,hrest₃⟩
  simp only [credentials,bind_eq_ok,ite_eq_ok,throw_ne_ok,pure_eq_ok,not_not,false_and,
    exists_false,and_false,false_or]
  exact ⟨_,hver,_,husername,_,hpassword,haccepted,rfl⟩

theorem readHost_sound {atyp : UInt8} {host : String} (h : readHost atyp r = .ok (host,r')) :
    ∃ address : Address, atyp = address.atyp ∧ r.rest = address.bytes ++ r'.rest ∧
      host = address.host := by
  simp only [readHost,ite_eq_ok,bind_eq_ok,throw_ne_ok,pure_eq_ok,Prod.mk.injEq,and_false,
    or_false] at h
  rcases h with ⟨hatyp,⟨address,r₁⟩,hread,rfl,rfl⟩ | ⟨-,⟨hatyp,⟨address,r₁⟩,hread,rfl,rfl⟩ |
    ⟨-,hatyp,⟨name,r₁⟩,hread,rfl,rfl⟩⟩
  · obtain ⟨hrest,hlen⟩ := readExact_sound hread
    exact ⟨.ipv4 address hlen,hatyp,hrest,rfl⟩
  · obtain ⟨hrest,hlen⟩ := readExact_sound hread
    exact ⟨.ipv6 address hlen,hatyp,hrest,rfl⟩
  · obtain ⟨hrest,hshort⟩ := readPrefixed_sound hread
    exact ⟨.domain name hshort,hatyp,hrest,rfl⟩

theorem readHost_complete (address : Address) (h : r.rest = address.bytes ++ tail) :
    ∃ r', readHost address.atyp r = .ok (address.host,r') ∧ r'.rest = tail := by
  cases address with
  | ipv4 address length =>
    obtain ⟨r',hread,hrest⟩ := readExact_complete _ _ h
    have hread : readExact r 4 = .ok (address,r') := length ▸ hread
    exact ⟨r',by simp [readHost,Address.atyp,hread,ok_bind,pure_def,Address.host],hrest⟩
  | ipv6 address length =>
    obtain ⟨r',hread,hrest⟩ := readExact_complete _ _ h
    have hread : readExact r 16 = .ok (address,r') := length ▸ hread
    have hne : ATYP_IPV6 ≠ ATYP_IPV4 := by decide
    exact ⟨r',by simp [readHost,Address.atyp,hne,hread,ok_bind,pure_def,Address.host],hrest⟩
  | domain name short =>
    obtain ⟨r',hread,hrest⟩ := readPrefixed_complete short h
    have hne4 : ATYP_DOMAIN ≠ ATYP_IPV4 := by decide
    have hne6 : ATYP_DOMAIN ≠ ATYP_IPV6 := by decide
    exact ⟨r',by simp [readHost,Address.atyp,hne4,hne6,hread,ok_bind,pure_def,Address.host],hrest⟩

theorem port_bytes {p : Nat} (h : p < 65536) :
    fromBigEndian [UInt8.ofNat (p / 256),UInt8.ofNat p] = p := by
  simp only [fromBigEndian,List.foldl_cons,List.foldl_nil,UInt8.toNat_ofNat']
  omega

theorem bytes_port (a b : UInt8) :
    [UInt8.ofNat (fromBigEndian [a,b] / 256),UInt8.ofNat (fromBigEndian [a,b])] = [a,b] ∧
      fromBigEndian [a,b] < 65536 := by
  have ha := a.toNat_lt
  have hb := b.toNat_lt
  simp only [fromBigEndian,List.foldl_cons,List.foldl_nil,List.cons.injEq,and_true]
  refine ⟨⟨?_,?_⟩,by omega⟩ <;> apply UInt8.toNat_inj.mp <;> rw [UInt8.toNat_ofNat'] <;> omega

theorem connectRequest_sound {host : String} {port : Nat}
    (h : connectRequest r = .ok ((host,port),r')) :
    ∃ (reserved : UInt8) (address : Address), port < 65536 ∧ host = address.host ∧
      r.rest = [VER,CMD_CONNECT,reserved,address.atyp] ++
        (address.bytes ++ [UInt8.ofNat (port / 256),UInt8.ofNat port]) ++ r'.rest := by
  simp only [connectRequest,bind_eq_ok,ite_eq_ok,throw_ne_ok,pure_eq_ok,ne_eq,not_not,false_and,
    exists_false,and_false,false_or,Prod.mk.injEq] at h
  obtain ⟨⟨head,r₁⟩,hhead,hver,hcmd,⟨host',r₂⟩,hhost,⟨bs,r₃⟩,hport,⟨rfl,rfl⟩,rfl⟩ := h
  obtain ⟨hrest,hfour⟩ := readExact_sound hhead
  obtain ⟨ver,cmd,reserved,atyp,rfl⟩ : ∃ a b c d, head = [a,b,c,d] := by
    rcases head with _ | ⟨a,_ | ⟨b,_ | ⟨c,_ | ⟨d,_ | ⟨e,rest⟩⟩⟩⟩⟩ <;> simp at hfour ⊢
  obtain rfl : ver = VER := hver
  obtain rfl : cmd = CMD_CONNECT := hcmd
  obtain ⟨address,hatyp,hrest₁,rfl⟩ := readHost_sound hhost
  obtain ⟨hrest₂,htwo⟩ := readExact_sound hport
  obtain ⟨a,b,rfl⟩ := List.length_eq_two.mp htwo
  obtain ⟨hbytes,hlt⟩ := bytes_port a b
  obtain rfl : atyp = address.atyp := hatyp
  refine ⟨reserved,address,hlt,rfl,?_⟩
  rw [hbytes,hrest,hrest₁,hrest₂]
  simp

theorem connectRequest_complete {reserved : UInt8} {address : Address} {port : Nat}
    (hport : port < 65536)
    (h : r.rest = [VER,CMD_CONNECT,reserved,address.atyp] ++
      (address.bytes ++ [UInt8.ofNat (port / 256),UInt8.ofNat port]) ++ tail) :
    ∃ r', connectRequest r = .ok ((address.host,port),r') ∧ r'.rest = tail := by
  obtain ⟨r₁,hhead,hrest₁⟩ := readExact_complete [VER,CMD_CONNECT,reserved,address.atyp]
    (address.bytes ++ ([UInt8.ofNat (port / 256),UInt8.ofNat port] ++ tail))
    (by simpa using h)
  obtain ⟨r₂,hhost,hrest₂⟩ := readHost_complete address hrest₁
  obtain ⟨r₃,hbytes,hrest₃⟩ := readExact_complete _ _ hrest₂
  refine ⟨r₃,?_,hrest₃⟩
  simp only [connectRequest,bind_eq_ok,ite_eq_ok,throw_ne_ok,pure_eq_ok,ne_eq,not_not,false_and,
    exists_false,and_false,false_or]
  refine ⟨_,hhead,rfl,rfl,_,hhost,_,hbytes,?_⟩
  rw [port_bytes hport]

end Stages

section Dials

variable {authToken : Option String} {dial : String → String → Nat → DialOutcome}
  {r : StreamReader} {q q' : ClientRequest} {version version' : UInt8}

theorem dials_le_one : (handleSocksConnection authToken dial r).dials.length ≤ 1 := by
  unfold handleSocksConnection
  split
  · simp
  · split
    · simp
    · split <;> simp

/-- Every dial is asked for, in whatever version of the subnegotiation. -/
theorem dial_sound {d : String × String × Nat}
    (h : d ∈ (handleSocksConnection authToken dial r).dials) :
    ∃ (version : UInt8) (q : ClientRequest), q.Accepted authToken ∧ q.bytes version <+: r.rest ∧
      d = q.dial := by
  unfold handleSocksConnection at h
  split at h
  · cases h
  · next r₁ hgreeting =>
    split at h
    · cases h
    · next username r₂ hcredentials =>
      split at h
      · cases h
      · next host port r₃ hrequest =>
        obtain rfl := List.mem_singleton.mp h
        obtain ⟨methods,hmethods,hoffered,hrest⟩ := greeting_sound hgreeting
        obtain ⟨version,name,password,hname,hpassword,haccepted,hrest₁,rfl⟩ :=
          credentials_sound hcredentials
        obtain ⟨reserved,address,hport,rfl,hrest₂⟩ := connectRequest_sound hrequest
        refine ⟨version,⟨methods,name,password,reserved,address,port,hmethods,hoffered,hname,
          hpassword,hport⟩,haccepted,⟨r₃.rest,?_⟩,rfl⟩
        rw [hrest,hrest₁,hrest₂]
        simp [ClientRequest.bytes,ClientRequest.greeting,ClientRequest.credentials,
          ClientRequest.connect]

theorem greeting_reads {tail : Bytes} (q : ClientRequest) (h : r.rest = q.greeting ++ tail) :
    ∃ r', greeting r = .ok r' ∧ r'.rest = tail :=
  greeting_complete q.methods_short q.offered h

/-- Every client that asks is dialled for, in whatever version of the subnegotiation. -/
theorem dial_complete (haccepted : q.Accepted authToken) (h : q.bytes version <+: r.rest) :
    (handleSocksConnection authToken dial r).dials = [q.dial] := by
  obtain ⟨tail,h⟩ := h
  have hrest : r.rest = q.greeting ++ (q.credentials version ++ (q.connect ++ tail)) := by
    simp [← h,ClientRequest.bytes]
  obtain ⟨r₁,hgreeting,hrest₁⟩ := greeting_reads q hrest
  obtain ⟨r₂,hcredentials,hrest₂⟩ := credentials_complete q.username_short q.password_short
    haccepted hrest₁
  obtain ⟨r₃,hrequest,-⟩ := connectRequest_complete q.port_lt hrest₂
  rw [handleSocksConnection,hgreeting]
  simp only
  rw [hcredentials]
  simp only
  rw [hrequest]
  rfl

/-- The bytes tell the version. -/
theorem version_unique {stream : Bytes} (h : q.bytes version <+: stream)
    (h' : q'.bytes version' <+: stream) : version = version' := by
  obtain ⟨tail,h⟩ := h
  obtain ⟨tail',h'⟩ := h'
  have hrest : (⟨stream,[]⟩ : StreamReader).rest =
      q.greeting ++ (q.credentials version ++ (q.connect ++ tail)) := by
    simp [StreamReader.rest,← h,ClientRequest.bytes]
  have hrest' : (⟨stream,[]⟩ : StreamReader).rest =
      q'.greeting ++ (q'.credentials version' ++ (q'.connect ++ tail')) := by
    simp [StreamReader.rest,← h',ClientRequest.bytes]
  obtain ⟨r₁,hread,hrest₁⟩ := greeting_reads q hrest
  obtain ⟨r₂,hread',hrest₂⟩ := greeting_reads q' hrest'
  obtain rfl := Except.ok.inj (hread.symm.trans hread')
  have heq := hrest₁.symm.trans hrest₂
  exact (List.cons.inj heq).1

/-- At most one dial, and exactly the one that the client's bytes ask for in the format of the two
RFCs, with a password that equals the token. -/
structure DialsAsAsked (authToken : Option String) (stream : Bytes) (c : Connection) : Prop where
  once : c.dials.length ≤ 1
  exact : ∀ d, d ∈ c.dials ↔
    ∃ q : ClientRequest, q.Accepted authToken ∧ q.bytes 1 <+: stream ∧ d = q.dial

/-- The front-end keeps to the format exactly for the streams that ask in version 1, if they ask
at all. -/
theorem dials_as_asked_iff (authToken : Option String) (dial : String → String → Nat → DialOutcome)
    (r : StreamReader) :
    DialsAsAsked authToken r.rest (handleSocksConnection authToken dial r) ↔
      ∀ (version : UInt8) (q : ClientRequest), q.Accepted authToken →
        q.bytes version <+: r.rest → version = 1 := by
  constructor
  · intro h version q haccepted hbytes
    have hdial : q.dial ∈ (handleSocksConnection authToken dial r).dials := by
      simp [dial_complete haccepted hbytes]
    obtain ⟨q',-,hbytes',-⟩ := (h.exact q.dial).mp hdial
    exact version_unique hbytes hbytes'
  · intro h
    refine ⟨dials_le_one,fun d => ⟨fun hd => ?_,?_⟩⟩
    · obtain ⟨version,q,haccepted,hbytes,rfl⟩ := dial_sound hd
      obtain rfl := h version q haccepted hbytes
      exact ⟨q,haccepted,hbytes,rfl⟩
    · rintro ⟨q,haccepted,hbytes,rfl⟩
      simp [dial_complete haccepted hbytes]

/-- A client with version 5 of the subnegotiation, as in the greeting. -/
def versionFive : List Bytes := [[5,1,2],[5,1,0x61,1,0x74],[5,1,0,1,10,0,0,1,0x15,0x38]]

/-- It is dialled for all the same. -/
theorem version_five_dials :
    ¬DialsAsAsked (some "t") versionFive.flatten
      (handleSocksConnection (some "t") (fun _ _ _ => .stream) ⟨[],versionFive⟩) := by
  intro h
  have hdial : ("a","10.0.0.1",5432) ∈
      (handleSocksConnection (some "t") (fun _ _ _ => .stream) ⟨[],versionFive⟩).dials := by
    decide
  obtain ⟨q,-,hbytes,-⟩ := (h.exact _).mp hdial
  have hfive : ClientRequest.bytes ⟨[2],[0x61],[0x74],0,.ipv4 [10,0,0,1] rfl,5432,by decide,
      by decide,by decide,by decide,by decide⟩ 5 <+: versionFive.flatten := ⟨[],by decide⟩
  exact absurd (version_unique hfive hbytes) (by decide)

end Dials

end Socks

end Nexplane
