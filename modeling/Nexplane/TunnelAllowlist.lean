import Nexplane.Lib.Checks
import Nexplane.Lib.Ip

set_option autoImplicit false

/-! The allowlist of a tunnel as its two enforcement points read and apply it: the control plane's
authorizer and the agent. -/

namespace Nexplane
open Text Ip

/-- The case tables of the two languages, of which only the ASCII part is used here. -/
structure CaseTables where
  /-- `str.lower`. -/
  lower : List Char → List Char
  /-- `unicode.ToLower`. -/
  toLower : Char → Char
  /-- The representative of a character under simple case folding. -/
  fold : Char → Char
  lower_ascii : ∀ cs : List Char, (∀ c ∈ cs, c.toNat < 128) → lower cs = cs.map Char.toLower
  toLower_ascii : ∀ c : Char, c.toNat < 128 → toLower c = c.toLower
  fold_ascii : ∀ c : Char, c.toNat < 128 → fold c = c.toLower

namespace Authorizer

/-- `_prefix_from_ip_int`: the length of a mask that does not mix zeroes and ones. -/
def prefixFromIpInt (n : Nat) : Option Nat :=
  (List.range 33).find? fun p => n = (2 ^ p - 1) * 2 ^ (32 - p)

/-- `_prefix_from_prefix_string`; `int` refuses more than 4300 digits. -/
def prefixFromPrefixString (maxPrefixlen : Nat) (cs : List Char) : Option Nat :=
  match decimalValue cs with
  | none => none
  | some p => if cs.length ≤ 4300 ∧ p ≤ maxPrefixlen then some p else none

/-- `_prefix_from_ip_string`: a netmask, or else a hostmask. -/
def prefixFromIpString (cs : List Char) : Option Nat :=
  match v4Value cs with
  | none => none
  | some n =>
    match prefixFromIpInt n with
    | some p => some p
    | none => prefixFromIpInt (4294967295 - n)

/-- `IPv6Address(text)`; the scope id has no part in any comparison here. -/
def ipv6Address (cs : List Char) : Option Nat :=
  if '/' ∈ cs then none
  else
    match splitFirst '%' cs with
    | none => v6Value cs
    | some (addr,scopeId) => if scopeId = [] ∨ '%' ∈ scopeId then none else v6Value addr

/-- `ipaddress.ip_address`. -/
def ipAddress (cs : List Char) : Option Addr :=
  match v4Value cs with
  | some n => some (.v4 n)
  | none => (ipv6Address cs).map .v6

section Addresses

variable {cs addr : List Char} {c : Char} {a : Addr} {n : Nat}

theorem v4Value_bad (hc : c ∈ cs) (h : ¬AddrChar c) : v4Value cs = none := by
  rw [Option.eq_none_iff_forall_ne_some]
  intro n hn
  exact h (v4Value_chars hn c hc)

/-- Without a scope the two libraries read the same addresses. -/
theorem ipAddress_eq_parse (h : '%' ∉ cs) : ipAddress cs = parse cs := by
  by_cases hslash : '/' ∈ cs
  · rw [parse_eq_none hslash (by decide),ipAddress,v4Value_bad hslash (by decide),ipv6Address,
      if_pos hslash]
    rfl
  · rw [ipAddress,ipv6Address,if_neg hslash,splitFirst_eq_none.mpr h]
    rfl

theorem ipAddress_of_parse (h : parse cs = some a) : ipAddress cs = some a := by
  rw [ipAddress_eq_parse (Ip.percent_notMem h),h]

theorem ipAddress_slash (h : '/' ∈ cs) : ipAddress cs = none := by
  rw [ipAddress,v4Value_bad h (by decide),ipv6Address,if_pos h]
  rfl

theorem ipAddress_scoped (h : '%' ∈ cs) (ha : ipAddress cs = some a) :
    ∃ addr scope n, a = .v6 n ∧ splitFirst '%' cs = some (addr,scope) ∧ v6Value addr = some n := by
  rw [ipAddress,v4Value_bad h (by decide)] at ha
  obtain ⟨n,hn,rfl⟩ := Option.map_eq_some_iff.mp ha
  simp only [ipv6Address,Option.ite_none_left_eq_some] at hn
  obtain ⟨_,hn⟩ := hn
  split at hn
  · next hs => exact absurd h (splitFirst_eq_none.mp hs)
  · next addr scope hs =>
    simp only [Option.ite_none_left_eq_some] at hn
    exact ⟨addr,scope,n,rfl,hs,hn.2⟩

theorem ipAddress_withScope (h : v6Value addr = some n) :
    ipAddress (addr ++ ['%','x']) = some (.v6 n) := by
  have hno : ∀ c, ¬AddrChar c → c ∉ addr := fun c hc hm => hc (v6Value_chars h c hm)
  have hslash : '/' ∉ addr ++ ['%','x'] := by simp [hno '/' (by decide)]
  rw [ipAddress,v4Value_bad (show '%' ∈ addr ++ ['%','x'] by simp) (by decide),ipv6Address,
    if_neg hslash,splitFirst_append ['x'] (hno '%' (by decide))]
  simp [h]

/-- A text is no address when its first character is of no address. -/
theorem ipAddress_first (hc : ¬AddrChar c) (hpercent : c ≠ '%') : ipAddress (c :: cs) = none := by
  by_cases h : '%' ∈ c :: cs
  · rw [Option.eq_none_iff_forall_ne_some]
    intro a ha
    obtain ⟨addr,scope,n,_,hs,hn⟩ := ipAddress_scoped h ha
    simp only [splitFirst,if_neg hpercent] at hs
    obtain ⟨p,_,heq⟩ := Option.map_eq_some_iff.mp hs
    obtain ⟨rfl,_⟩ := Prod.mk.inj heq
    exact hc (v6Value_chars hn c List.mem_cons_self)
  · rw [ipAddress_eq_parse h]
    exact parse_eq_none List.mem_cons_self hc

theorem ipAddress_lower (cs : List Char) : ipAddress (cs.map Char.toLower) = ipAddress cs := by
  have hslash : '/' ∈ cs.map Char.toLower ↔ '/' ∈ cs := mem_lower (by decide)
  have hv6 : ipv6Address (cs.map Char.toLower) = ipv6Address cs := by
    simp only [ipv6Address,hslash,splitFirst_lower (show '%'.toNat < 65 by decide)]
    cases splitFirst '%' cs with
    | none => simp only [Option.map_none,v6Value_lower]
    | some p =>
      simp only [Option.map_some,List.map_eq_nil_iff,mem_lower (show '%'.toNat < 65 by decide),
        v6Value_lower]
  rw [ipAddress,ipAddress,v4Value_lower,hv6]

end Addresses

structure Network where
  networkAddress : Addr
  prefixlen : Nat
  deriving DecidableEq, Repr

def Network.new (addr : Addr) (prefixlen : Nat) : Network := ⟨addr.mask prefixlen,prefixlen⟩

/-- `IPv4Network(text, strict=False)`. -/
def ipv4Network (cs : List Char) : Option Network :=
  match cs.splitOn '/' with
  | [addr] => (v4Value addr).map fun n => .new (.v4 n) 32
  | [addr,mask] =>
    match v4Value addr with
    | none => none
    | some n =>
      match prefixFromPrefixString 32 mask with
      | some p => some (.new (.v4 n) p)
      | none => (prefixFromIpString mask).map (.new (.v4 n))
  | _ => none

/-- `IPv6Network(text, strict=False)`. -/
def ipv6Network (cs : List Char) : Option Network :=
  match cs.splitOn '/' with
  | [addr] => (ipv6Address addr).map fun n => .new (.v6 n) 128
  | [addr,mask] =>
    match ipv6Address addr with
    | none => none
    | some n => (prefixFromPrefixString 128 mask).map (.new (.v6 n))
  | _ => none

/-- `ipaddress.ip_network(text, strict=False)`. -/
def ipNetwork (cs : List Char) : Option Network :=
  match ipv4Network cs with
  | some net => some net
  | none => ipv6Network cs

section Networks

variable {cs addr mask : List Char} {a : Addr} {n : Nat}

theorem ipNetwork_single (h : '/' ∉ cs) :
    ipNetwork cs = (ipAddress cs).map fun a => .new a a.bits := by
  simp only [ipNetwork,ipv4Network,ipv6Network,List.splitOn_eq_singleton h,ipAddress]
  cases v4Value cs with
  | some n => rfl
  | none => cases ipv6Address cs <;> rfl

theorem ipNetwork_eq_none (h : '/' ∉ cs) : ipNetwork cs = none ↔ ipAddress cs = none := by
  rw [ipNetwork_single h,Option.map_eq_none_iff]

theorem ipNetwork_slash (h : splitFirst '/' cs = some (addr,mask)) (ha : parse addr = some a)
    (hmask : decimalValue mask = some n) :
    ipNetwork cs = if mask.length ≤ 4300 ∧ n ≤ a.bits then some (.new a n) else none := by
  obtain ⟨rfl,haddr⟩ := splitFirst_eq_some.mp h
  have hdigits := (decimalValue_eq_some.mp hmask).1.2
  have hno : ∀ c, c.isDigit = false → c ∉ mask := fun c hc hm => by simp [hdigits c hm] at hc
  have hsplit : (addr ++ '/' :: mask).splitOn '/' = [addr,mask] := by
    rw [List.splitOn_append_cons_self_of_not_mem haddr,List.splitOn_eq_singleton (hno '/' rfl)]
  have hquad : prefixFromIpString mask = none := by
    have hv4 : v4Value mask = none := by
      rw [v4Value,List.splitOn_eq_singleton (hno '.' rfl),List.map_singleton]
      cases octet mask <;> rfl
    rw [prefixFromIpString,hv4]
  have hscope : ipv6Address addr = v6Value addr := by
    rw [ipv6Address,if_neg haddr,splitFirst_eq_none.mpr (Ip.percent_notMem ha)]
  simp only [ipNetwork,ipv4Network,ipv6Network,hsplit,prefixFromPrefixString,hmask,hquad,hscope]
  cases a with
  | v4 v =>
    have hv := parse_eq_v4.mp ha
    have hv6 : v6Value addr = none := by
      by_contra hn
      obtain ⟨m,hm⟩ := Option.ne_none_iff_exists'.mp hn
      rw [v4Value_none hm] at hv
      cases hv
    simp only [hv,hv6,Addr.bits]
    by_cases hrange : mask.length ≤ 4300 ∧ n ≤ 32
    · simp [hrange]
    · simp [hrange]
  | v6 v =>
    have hv6 := parse_eq_v6.mp ha
    simp only [v4Value_none hv6,hv6,Addr.bits]
    by_cases hrange : mask.length ≤ 4300 ∧ n ≤ 128
    · simp [hrange]
    · simp [hrange]

end Networks

/-- `ip in network`: of one version, and equal under the mask. -/
def Network.contains (net : Network) (ip : Addr) : Bool :=
  ip.mask net.prefixlen = net.networkAddress

/-- Exactly one of network and hostname. -/
inductive RuleHost where
  | network (net : Network)
  | hostname (name : List Char)
  deriving DecidableEq, Repr

structure Rule where
  host : RuleHost
  portLo : Int
  portHi : Int
  deriving DecidableEq, Repr

inductive AllowlistError where
  | notHostPort (entry : List Char)
  | invalidPortSpec (spec : List Char)
  | invalidInt (text : List Char)
  deriving DecidableEq, Repr

def RuleHost.matches (tables : CaseTables) (ruleHost : RuleHost) (host : List Char) : Bool :=
  match ruleHost, ipAddress host with
  | .network net, some ip => net.contains ip
  | .network _, none => false
  | .hostname _, some _ => false
  | .hostname name, none => name = tables.lower host

def Rule.matches (tables : CaseTables) (rule : Rule) (host : List Char) (port : Int) : Bool :=
  if ¬(rule.portLo ≤ port ∧ port ≤ rule.portHi) then false else rule.host.matches tables host

def int (cs : List Char) : Except AllowlistError Int :=
  match pyInt cs with
  | some n => .ok n
  | none => .error (.invalidInt cs)

def parsePorts (spec : List Char) : Except AllowlistError (Int × Int) :=
  if spec = ['*'] then .ok (1,65535)
  else do
    let (lo,hi) ←
      match splitFirst '-' spec with
      | some (lo,hi) => do .ok ((← int lo),(← int hi))
      | none => do
        let p ← int spec
        .ok (p,p)
    if 1 ≤ lo ∧ lo ≤ hi ∧ hi ≤ 65535 then .ok (lo,hi) else .error (.invalidPortSpec spec)

theorem int_ok {cs : List Char} {n : Int} : int cs = .ok n ↔ pyInt cs = some n := by
  unfold int
  split <;> simp_all

theorem parsePorts_ok {spec : List Char} {lo hi : Int} (h : parsePorts spec = .ok (lo,hi)) :
    (1 ≤ lo ∧ lo ≤ hi ∧ hi ≤ 65535) ∧
      ((spec = ['*'] ∧ lo = 1 ∧ hi = 65535) ∨ (spec ≠ ['*'] ∧
        match splitFirst '-' spec with
        | some (loText,hiText) => pyInt loText = some lo ∧ pyInt hiText = some hi
        | none => pyInt spec = some lo ∧ hi = lo)) := by
  unfold parsePorts at h
  split at h
  · next hstar =>
    obtain ⟨rfl,rfl⟩ := Prod.mk.inj (Except.ok.inj h)
    exact ⟨by decide,Or.inl ⟨hstar,rfl,rfl⟩⟩
  · next hstar =>
    cases hs : splitFirst '-' spec with
    | some p =>
      simp only [hs,Checks.bind_eq_ok,int_ok,Except.ok.injEq,Checks.ite_eq_ok,Prod.mk.injEq,
        reduceCtorEq,and_false,or_false] at h
      obtain ⟨lo',hlo,hi',hhi,_,rfl,hrange,rfl,rfl⟩ := h
      exact ⟨hrange,Or.inr ⟨hstar,hlo,hhi⟩⟩
    | none =>
      simp only [hs,Checks.bind_eq_ok,int_ok,Except.ok.injEq,Checks.ite_eq_ok,Prod.mk.injEq,
        reduceCtorEq,and_false,or_false] at h
      obtain ⟨p,hp,_,rfl,hrange,rfl,rfl⟩ := h
      exact ⟨hrange,Or.inr ⟨hstar,hp,rfl⟩⟩

/-- The `try` block of `parse_rule`. -/
def ruleHost (tables : CaseTables) (hostPart : List Char) : RuleHost :=
  match ipNetwork hostPart with
  | some net => .network net
  | none => .hostname (tables.lower hostPart)

def parseRule (tables : CaseTables) (entry : List Char) : Except AllowlistError Rule :=
  match splitLast ':' (strip entry) with
  | none => .error (.notHostPort (strip entry))
  | some (hostPart,portPart) =>
    if hostPart = [] then .error (.notHostPort (strip entry))
    else do
      let (lo,hi) ← parsePorts portPart
      .ok ⟨ruleHost tables hostPart,lo,hi⟩

theorem parseRule_ok {tables : CaseTables} {entry : List Char} {rule : Rule} :
    parseRule tables entry = .ok rule ↔ ∃ hostPart portPart lo hi,
      splitLast ':' (strip entry) = some (hostPart,portPart) ∧ hostPart ≠ [] ∧
        parsePorts portPart = .ok (lo,hi) ∧ rule = ⟨ruleHost tables hostPart,lo,hi⟩ := by
  unfold parseRule
  cases splitLast ':' (strip entry) with
  | none => simp
  | some p =>
    simp only [Checks.ite_eq_ok,reduceCtorEq,and_false,false_or,Checks.bind_eq_ok,Except.ok.injEq,
      Prod.exists,Option.some.injEq]
    constructor
    · rintro ⟨hne,lo,hi,hports,rfl⟩
      exact ⟨p.1,p.2,lo,hi,rfl,hne,hports,rfl⟩
    · rintro ⟨_,_,lo,hi,rfl,hne,hports,rfl⟩
      exact ⟨hne,lo,hi,hports,rfl⟩

/-- Blank entries are skipped. -/
def parseAllowlist (tables : CaseTables) (entries : List (List Char)) :
    Except AllowlistError (List Rule) :=
  (entries.filter fun e => strip e ≠ []).mapM (parseRule tables)

def isAllowed (tables : CaseTables) (allowlist : List Rule) (host : List Char) (port : Int) :
    Bool :=
  if ¬(1 ≤ port ∧ port ≤ 65535) then false
  else allowlist.any fun r => r.matches tables host port

end Authorizer

namespace AgentAllowlist

/-- The sixteen bytes of an address as a number: IPv4 is mapped into IPv6. -/
def as16 : Addr → Nat
  | .v4 n => 0xFFFF * 4294967296 + n
  | .v6 n => n

/-- `IP.To4`. -/
def to4 (ip : Nat) : Option Nat :=
  if ip / 4294967296 = 0xFFFF then some (ip % 4294967296) else none

/-- `net.ParseIP`: no zones. -/
def parseIP (s : List Char) : Option Nat := (parse s).map as16

/-- `net.IPNet` with the number of ones of its mask. -/
structure IPNet where
  ip : Addr
  ones : Nat
  deriving DecidableEq, Repr

/-- `net.ParseCIDR`; `dtoi` refuses numbers from 0xFFFFFF on. -/
def parseCIDR (s : List Char) : Option IPNet :=
  match splitFirst '/' s with
  | none => none
  | some (addr,mask) =>
    match parse addr, decimalValue mask with
    | some a, some n =>
      if n < 0xFFFFFF ∧ n ≤ a.bits then some ⟨a.mask n,n⟩ else none
    | _, _ => none

section Addresses

variable {s : List Char} {net : IPNet} {ip x : Nat}

theorem to4_eq_some : to4 ip = some x ↔ ip = as16 (.v4 x) ∧ x < 4294967296 := by
  simp only [to4,as16,Option.ite_none_right_eq_some,Option.some.injEq]
  omega

theorem to4_as16 (h : x < 4294967296) : to4 (as16 (.v4 x)) = some x := to4_eq_some.mpr ⟨rfl,h⟩

theorem parseCIDR_eq_some : parseCIDR s = some net ↔
    ∃ addr mask a n, splitFirst '/' s = some (addr,mask) ∧ parse addr = some a ∧
      decimalValue mask = some n ∧ n ≤ a.bits ∧ net = ⟨a.mask n,n⟩ := by
  unfold parseCIDR
  constructor
  · intro h
    split at h
    · cases h
    · next addr mask hs =>
      split at h
      · next a n ha hn =>
        simp only [Option.ite_none_right_eq_some,Option.some.injEq] at h
        exact ⟨addr,mask,a,n,hs,ha,hn,h.1.2,h.2.symm⟩
      · cases h
  · rintro ⟨addr,mask,a,n,hs,ha,hn,hle,rfl⟩
    have hbits : a.bits ≤ 128 := by cases a <;> simp [Addr.bits]
    simp only [hs,ha,hn]
    exact if_pos ⟨by omega,hle⟩

/-- There are no zones. -/
theorem parseCIDR_percent (h : parseCIDR s = some net) : '%' ∉ s := by
  obtain ⟨addr,mask,a,n,hs,ha,hn,_,_⟩ := parseCIDR_eq_some.mp h
  obtain ⟨rfl,_⟩ := splitFirst_eq_some.mp hs
  have haddr := Ip.percent_notMem ha
  have hmask : '%' ∉ mask := fun hc => absurd ((decimalValue_eq_some.mp hn).1.2 '%' hc) (by decide)
  simp [haddr,hmask]

end Addresses

/-- `networkNumberAndMask`, with the length in bits: a mapped network is one of IPv4. -/
def networkNumberAndMask (n : IPNet) : Nat × Nat × Nat :=
  match n.ip with
  | .v4 a => (32,a,n.ones)
  | .v6 a =>
    match to4 a with
    | some x => (32,x,n.ones - 96)
    | none => (128,a,n.ones)

/-- `IPNet.Contains`. -/
def contains (n : IPNet) (ip : Nat) : Bool :=
  let (l,nn,m) := networkNumberAndMask n
  match to4 ip with
  | some x => l = 32 ∧ x / 2 ^ (32 - m) = nn / 2 ^ (32 - m)
  | none => l = 128 ∧ ip / 2 ^ (128 - m) = nn / 2 ^ (128 - m)

inductive RuleHost where
  | cidr (net : IPNet)
  | ip (ip : Nat)
  | hostname (name : List Char)
  deriving DecidableEq, Repr

inductive RulePorts where
  | any
  | range (min max : Int)
  deriving DecidableEq, Repr

structure Rule where
  host : RuleHost
  ports : RulePorts
  deriving DecidableEq, Repr

inductive ParseError where
  | missingColon (entry : List Char)
  | invalidCIDR (host : List Char)
  | invalidPortRange (port : List Char)
  | invalidPort (port : List Char)
  deriving DecidableEq, Repr

/-- `strings.EqualFold`. -/
def equalFold (tables : CaseTables) (s t : List Char) : Bool :=
  s.map tables.fold = t.map tables.fold

def parseHost (tables : CaseTables) (hostPart : List Char) : Except ParseError RuleHost :=
  if '/' ∈ hostPart then
    match parseCIDR hostPart with
    | some net => .ok (.cidr net)
    | none => .error (.invalidCIDR hostPart)
  else
    match parseIP hostPart with
    | some ip => .ok (.ip ip)
    | none => .ok (.hostname (hostPart.map tables.toLower))

theorem parseHost_slash {tables : CaseTables} {hostPart : List Char} {ruleHost : RuleHost}
    (h : '/' ∈ hostPart) : parseHost tables hostPart = .ok ruleHost ↔
      ∃ net, parseCIDR hostPart = some net ∧ ruleHost = .cidr net := by
  rw [parseHost,if_pos h]
  cases parseCIDR hostPart <;> simp [eq_comm]

theorem parseHost_single (tables : CaseTables) {hostPart : List Char} (h : '/' ∉ hostPart) :
    parseHost tables hostPart = .ok (match parse hostPart with
      | some a => .ip (as16 a)
      | none => .hostname (hostPart.map tables.toLower)) := by
  rw [parseHost,if_neg h,parseIP]
  cases parse hostPart <;> rfl

def parsePorts (portPart : List Char) : Except ParseError RulePorts :=
  if portPart = ['*'] then .ok .any
  else
    match splitFirst '-' portPart with
    | some (minText,maxText) =>
      match atoi minText, atoi maxText with
      | some min, some max =>
        if min < 1 ∨ 65535 < max ∨ max < min then .error (.invalidPortRange portPart)
        else .ok (.range min max)
      | _, _ => .error (.invalidPortRange portPart)
    | none =>
      match atoi portPart with
      | some p => if p < 1 ∨ 65535 < p then .error (.invalidPort portPart) else .ok (.range p p)
      | none => .error (.invalidPort portPart)

/-- The loop of `ParseAllowlist` on one entry. -/
def parseEntry (tables : CaseTables) (e : List Char) : Except ParseError Rule :=
  match splitLast ':' e with
  | none => .error (.missingColon e)
  | some (hostPart,portPart) => do
    let host ← parseHost tables hostPart
    let ports ← parsePorts portPart
    .ok ⟨host,ports⟩

theorem parseEntry_ok {tables : CaseTables} {e : List Char} {rule : Rule} :
    parseEntry tables e = .ok rule ↔ ∃ hostPart portPart host ports,
      splitLast ':' e = some (hostPart,portPart) ∧ parseHost tables hostPart = .ok host ∧
        parsePorts portPart = .ok ports ∧ rule = ⟨host,ports⟩ := by
  unfold parseEntry
  cases splitLast ':' e with
  | none => simp
  | some p =>
    simp only [Checks.bind_eq_ok,Except.ok.injEq,Option.some.injEq]
    constructor
    · rintro ⟨host,hhost,ports,hports,rfl⟩
      exact ⟨p.1,p.2,host,ports,rfl,hhost,hports,rfl⟩
    · rintro ⟨_,_,host,ports,rfl,hhost,hports,rfl⟩
      exact ⟨host,hhost,ports,hports,rfl⟩

def parseAllowlist (tables : CaseTables) (entries : List (List Char)) :
    Except ParseError (List Rule) := entries.mapM (parseEntry tables)

def RulePorts.admits (ports : RulePorts) (port : Int) : Bool :=
  match ports with
  | .any => true
  | .range min max => ¬(port < min ∨ max < port)

/-- The host check of `IsAllowed`. -/
def RuleHost.admits (tables : CaseTables) (ruleHost : RuleHost) (host : List Char) : Bool :=
  match ruleHost, parseIP host with
  | .cidr net, some dialIP => contains net dialIP
  | .cidr _, none => false
  | .ip addr, some dialIP => addr = dialIP
  | .ip _, none => false
  | .hostname _, some _ => false
  | .hostname name, none => equalFold tables name host

/-- The loop of `IsAllowed` on one rule. -/
def Rule.admits (tables : CaseTables) (r : Rule) (host : List Char) (port : Int) : Bool :=
  r.ports.admits port && r.host.admits tables host

def isAllowed (tables : CaseTables) (rules : List Rule) (host : List Char) (port : Int) : Bool :=
  rules.any fun r => r.admits tables host port

end AgentAllowlist

end Nexplane
