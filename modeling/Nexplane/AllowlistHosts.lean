import Nexplane.TunnelAllowlist

set_option autoImplicit false

/-! The host parts of allowlist entries that mean the same at the two enforcement points. -/

namespace Nexplane
open Text Ip
open AgentAllowlist (to4 as16)

def Ascii (cs : List Char) : Prop := ∀ c ∈ cs, c.toNat < 128

/-- An IPv6 address it names has no scope and is not that of a mapped IPv4 address. -/
def PlainHost (host : List Char) : Prop :=
  ∀ n, Authorizer.ipAddress host = some (.v6 n) → '%' ∉ host ∧ to4 n = none

/-- A prefix length is a decimal number, and an IPv6 network is scoped just when it is one of
mapped IPv4 addresses. -/
structure PlainAddress (hostPart : List Char) : Prop where
  prefixLength : ∀ addr mask, splitFirst '/' hostPart = some (addr,mask) →
    ∃ a n, parse addr = some a ∧ decimalValue mask = some n ∧ n ≤ a.bits ∧ mask.length ≤ 4300
  scope : ∀ n p, Authorizer.ipNetwork hostPart = some ⟨.v6 n,p⟩ → ('%' ∈ hostPart ↔ (to4 n).isSome)

def IsHostname (hostPart : List Char) : Prop :=
  '/' ∉ hostPart ∧ Authorizer.ipAddress hostPart = none

section Addresses

variable {a x : Addr} {ones : Nat} {host : List Char}

/-- The agent reads the address back from its sixteen bytes. -/
structure Ordinary (a : Addr) : Prop where
  range : ∀ n, a = .v4 n → n < 4294967296
  unmapped : ∀ n, a = .v6 n → to4 n = none

theorem parse_range (h : parse host = some a) : ∀ n, a = .v4 n → n < 4294967296 := by
  rintro n rfl
  exact (v4Value_spec (parse_eq_v4.mp h)).1

theorem as16_eq_iff (ha : Ordinary a) (hx : Ordinary x) : as16 a = as16 x ↔ x = a := by
  have hv4 : ∀ n m : Nat, n < 4294967296 → to4 m = none →
      as16 (.v4 n) ≠ as16 (.v6 m) := by
    intro n m hn hm h
    have hmapped : to4 (as16 (.v6 m)) = some n := h ▸ AgentAllowlist.to4_as16 hn
    rw [as16,hm] at hmapped
    cases hmapped
  cases a with
  | v4 n =>
    cases x with
    | v4 m =>
      simp only [as16,Addr.v4.injEq]
      omega
    | v6 m => simpa using hv4 n m (ha.range n rfl) (hx.unmapped m rfl)
  | v6 n =>
    cases x with
    | v4 m => simpa using (hv4 m n (hx.range m rfl) (ha.unmapped n rfl)).symm
    | v6 m =>
      simp only [as16,Addr.v6.injEq]
      omega

theorem contains_agree (ha : Ordinary (a.mask ones)) (hx : Ordinary x) :
    AgentAllowlist.contains ⟨a.mask ones,ones⟩ (as16 x) =
      Authorizer.Network.contains ⟨a.mask ones,ones⟩ x := by
  cases a with
  | v4 n =>
    cases x with
    | v4 m =>
      simp [AgentAllowlist.contains,AgentAllowlist.networkNumberAndMask,
        Authorizer.Network.contains,Addr.mask,AgentAllowlist.to4_as16 (hx.range m rfl),
        maskTo_eq_iff]
    | v6 m =>
      simp [AgentAllowlist.contains,AgentAllowlist.networkNumberAndMask,
        Authorizer.Network.contains,Addr.mask,as16,hx.unmapped m rfl]
  | v6 n =>
    cases x with
    | v4 m =>
      simp [AgentAllowlist.contains,AgentAllowlist.networkNumberAndMask,
        Authorizer.Network.contains,Addr.mask,AgentAllowlist.to4_as16 (hx.range m rfl),
        ha.unmapped _ rfl]
    | v6 m =>
      simp [AgentAllowlist.contains,AgentAllowlist.networkNumberAndMask,
        Authorizer.Network.contains,Addr.mask,as16,hx.unmapped m rfl,ha.unmapped _ rfl,
        maskTo_eq_iff]

/-- A mapped network of the agent is one of IPv4. -/
theorem contains_mapped {n m p : Nat} (h : to4 n = some m) :
    AgentAllowlist.contains ⟨.v6 n,p⟩ n = true := by
  simp [AgentAllowlist.contains,AgentAllowlist.networkNumberAndMask,h]

theorem contains_v4 {n p : Nat} (h : n < 4294967296) :
    AgentAllowlist.contains ⟨.v4 n,p⟩ (as16 (.v4 n)) = true := by
  simp [AgentAllowlist.contains,AgentAllowlist.networkNumberAndMask,AgentAllowlist.to4_as16 h]

theorem PlainHost.ipAddress_eq (h : PlainHost host) : Authorizer.ipAddress host = parse host := by
  by_cases hpercent : '%' ∈ host
  · rw [parse_eq_none hpercent (by decide),Option.eq_none_iff_forall_ne_some]
    intro a ha
    obtain ⟨addr,scope,n,rfl,_,_⟩ := Authorizer.ipAddress_scoped hpercent ha
    exact (h n ha).1 hpercent
  · exact Authorizer.ipAddress_eq_parse hpercent

theorem PlainHost.ordinary (h : PlainHost host) (ha : parse host = some a) : Ordinary a where
  range := parse_range ha
  unmapped := by
    rintro n rfl
    exact (h n (h.ipAddress_eq.trans ha)).2

theorem plainHost_of_none (h : Authorizer.ipAddress host = none) : PlainHost host := by
  intro n hn
  rw [h] at hn
  cases hn

end Addresses

section Names

variable {tables : CaseTables} {name host : List Char}

theorem lower_ascii_eq (tables : CaseTables) (hname : Ascii name) (hhost : Ascii host) :
    tables.lower name = tables.lower host ↔ name.map Char.toLower = host.map Char.toLower := by
  rw [tables.lower_ascii name hname,tables.lower_ascii host hhost]

theorem equalFold_ascii (tables : CaseTables) (hname : Ascii name) (hhost : Ascii host) :
    AgentAllowlist.equalFold tables (name.map tables.toLower) host = true ↔
      name.map Char.toLower = host.map Char.toLower := by
  have hlower : name.map tables.toLower = name.map Char.toLower :=
    List.map_congr_left fun c hc => tables.toLower_ascii c (hname c hc)
  have hfold : ∀ cs, Ascii cs → cs.map tables.fold = cs.map Char.toLower := fun cs hcs =>
    List.map_congr_left fun c hc => tables.fold_ascii c (hcs c hc)
  have hascii : Ascii (name.map Char.toLower) := by
    intro c hc
    obtain ⟨d,hd,rfl⟩ := List.mem_map.mp hc
    have hlt := hname d hd
    rw [toNat_toLower]
    split <;> omega
  have hidem : (name.map Char.toLower).map Char.toLower = name.map Char.toLower := by
    simp [Function.comp_def,toLower_toLower]
  rw [AgentAllowlist.equalFold,hlower,hfold _ hascii,hfold _ hhost,hidem,decide_eq_true_iff]

/-- Names that are equal but for letter case are addresses together. -/
theorem ipAddress_congr (h : name.map Char.toLower = host.map Char.toLower) :
    Authorizer.ipAddress name = Authorizer.ipAddress host := by
  rw [← Authorizer.ipAddress_lower name,h,Authorizer.ipAddress_lower]

theorem names_agree (hname : Ascii name) (hhost : Ascii host)
    (hip : Authorizer.ipAddress name = none) :
    (Authorizer.RuleHost.hostname (tables.lower name)).matches tables host =
      (AgentAllowlist.RuleHost.hostname (name.map tables.toLower)).admits tables host := by
  have hlower := lower_ascii_eq tables hname hhost
  have hfold := equalFold_ascii tables hname hhost
  simp only [Authorizer.RuleHost.matches,AgentAllowlist.RuleHost.admits,AgentAllowlist.parseIP]
  cases hh : Authorizer.ipAddress host with
  | none =>
    cases hparse : parse host with
    | none =>
      rw [Bool.eq_iff_iff,Option.map_none,hfold,decide_eq_true_iff,hlower]
    | some a =>
      rw [Authorizer.ipAddress_of_parse hparse] at hh
      cases hh
  | some a =>
    cases hparse : parse host with
    | none =>
      rw [Option.map_none,eq_comm,Bool.eq_false_iff,ne_eq,hfold]
      intro heq
      rw [ipAddress_congr heq,hh] at hip
      cases hip
    | some b => rfl

end Names

section Hosts

variable {tables : CaseTables} {hosts : List Char → Prop} {hostPart : List Char} {a : Addr} {n : Nat}

/-- From the host part both ends read rules with the same verdicts on `hosts`. -/
def HostsAgree (tables : CaseTables) (hosts : List Char → Prop) (hostPart : List Char) : Prop :=
  ∃ ruleHost, AgentAllowlist.parseHost tables hostPart = .ok ruleHost ∧
    ∀ host, Ascii host → hosts host →
      (Authorizer.ruleHost tables hostPart).matches tables host = ruleHost.admits tables host

theorem hostsAgree_hostname (hascii : Ascii hostPart) (h : IsHostname hostPart) :
    HostsAgree tables hosts hostPart := by
  obtain ⟨hslash,hip⟩ := h
  have hparse : parse hostPart = none := by
    by_contra hn
    obtain ⟨a,ha⟩ := Option.ne_none_iff_exists'.mp hn
    rw [Authorizer.ipAddress_of_parse ha] at hip
    cases hip
  have hagent := AgentAllowlist.parseHost_single tables hslash
  rw [hparse] at hagent
  refine ⟨_,hagent,fun host hhost _ => ?_⟩
  rw [Authorizer.ruleHost,(Authorizer.ipNetwork_eq_none hslash).mpr hip]
  exact names_agree hascii hhost hip

theorem exists_splitFirst (h : '/' ∈ hostPart) :
    ∃ addr mask, splitFirst '/' hostPart = some (addr,mask) := by
  cases hs : splitFirst '/' hostPart with
  | none => exact absurd h (splitFirst_eq_none.mp hs)
  | some p => exact ⟨p.1,p.2,rfl⟩

theorem mask_eq_iff (a x : Addr) : x.mask a.bits = a.mask a.bits ↔ x = a := by
  cases a <;> cases x <;> simp [Addr.mask,Addr.bits,maskTo_self]

theorem unmapped_of_scope (h : PlainAddress hostPart) (hpercent : '%' ∉ hostPart)
    (hnet : Authorizer.ipNetwork hostPart = some (.new a n))
    (hrange : ∀ m, a = .v4 m → m < 4294967296) :
    Ordinary (a.mask n) where
  range := by
    intro m hm
    cases a with
    | v4 k =>
      have hle := maskTo_le 32 n k
      have hk := hrange k rfl
      obtain rfl := Addr.v4.inj hm
      omega
    | v6 k => cases hm
  unmapped := by
    intro m hm
    have hnone := (h.scope m n (by rw [hnet,Authorizer.Network.new,hm])).not.mp hpercent
    simpa using hnone

/-- The addresses of a plain host part are the same for the two ends. -/
theorem hostsAgree_address (hascii : Ascii hostPart) (h : PlainAddress hostPart) :
    HostsAgree tables PlainHost hostPart := by
  by_cases hslash : '/' ∈ hostPart
  · obtain ⟨addr,mask,hs⟩ := exists_splitFirst hslash
    obtain ⟨a,n,ha,hn,hle,hlen⟩ := h.prefixLength addr mask hs
    have hnet := Authorizer.ipNetwork_slash hs ha hn
    rw [if_pos ⟨hlen,hle⟩] at hnet
    have hcidr := AgentAllowlist.parseCIDR_eq_some.mpr ⟨addr,mask,a,n,hs,ha,hn,hle,rfl⟩
    have hord := unmapped_of_scope h (AgentAllowlist.parseCIDR_percent hcidr) hnet (parse_range ha)
    refine ⟨_,(AgentAllowlist.parseHost_slash hslash).mpr ⟨_,hcidr,rfl⟩,fun host _ hplain => ?_⟩
    simp only [Authorizer.ruleHost,hnet,Authorizer.RuleHost.matches,hplain.ipAddress_eq,
      AgentAllowlist.RuleHost.admits,AgentAllowlist.parseIP]
    cases hx : parse host with
    | none => rfl
    | some x => exact (contains_agree hord (hplain.ordinary hx)).symm
  · have hagent := AgentAllowlist.parseHost_single tables hslash
    cases ha : parse hostPart with
    | some a =>
      rw [ha] at hagent
      have hip := Authorizer.ipAddress_of_parse ha
      have hnet := Authorizer.ipNetwork_single hslash
      rw [hip,Option.map_some] at hnet
      have hord := unmapped_of_scope h (percent_notMem ha) hnet (parse_range ha)
      rw [mask_bits] at hord
      refine ⟨_,hagent,fun host _ hplain => ?_⟩
      simp only [Authorizer.ruleHost,hnet,Authorizer.RuleHost.matches,hplain.ipAddress_eq,
        AgentAllowlist.RuleHost.admits,AgentAllowlist.parseIP]
      cases hx : parse host with
      | none => rfl
      | some x =>
        have hiff := as16_eq_iff hord (hplain.ordinary hx)
        simp only [Option.map_some,Authorizer.Network.contains,Authorizer.Network.new,
          mask_eq_iff,hiff]
    | none =>
      rw [ha] at hagent
      by_cases hip : Authorizer.ipAddress hostPart = none
      · exact hostsAgree_hostname hascii ⟨hslash,hip⟩
      · -- a scoped address: a name for the agent
        obtain ⟨a,hip⟩ := Option.ne_none_iff_exists'.mp hip
        have hpercent : '%' ∈ hostPart := by
          by_contra hpercent
          rw [Authorizer.ipAddress_eq_parse hpercent,ha] at hip
          cases hip
        obtain ⟨addr,scope,m,rfl,hs,hm⟩ := Authorizer.ipAddress_scoped hpercent hip
        have hnet := Authorizer.ipNetwork_single hslash
        rw [hip,Option.map_some] at hnet
        have hmapped : (to4 m).isSome := by
          apply (h.scope m 128 _).mp hpercent
          rw [hnet,Authorizer.Network.new,mask_bits]
          rfl
        refine ⟨_,hagent,fun host hhost hplain => ?_⟩
        simp only [Authorizer.ruleHost,hnet,Authorizer.RuleHost.matches,
          AgentAllowlist.RuleHost.admits,AgentAllowlist.parseIP]
        cases hx : Authorizer.ipAddress host with
        | none =>
          rw [← hplain.ipAddress_eq,hx,Option.map_none,eq_comm,Bool.eq_false_iff,ne_eq,
            equalFold_ascii tables hascii hhost]
          intro heq
          rw [ipAddress_congr heq,hx] at hip
          cases hip
        | some x =>
          rw [← hplain.ipAddress_eq,hx]
          simp only [Option.map_some,Authorizer.Network.contains,Authorizer.Network.new,mask_eq_iff,
            decide_eq_false_iff_not]
          rintro rfl
          rw [(hplain m hx).2] at hmapped
          cases hmapped

theorem ipNetwork_of_parse (hslash : '/' ∉ hostPart) (h : parse hostPart = some a) :
    Authorizer.ipNetwork hostPart = some (.new a a.bits) := by
  rw [Authorizer.ipNetwork_single hslash,Authorizer.ipAddress_of_parse h]
  rfl

/-- The rules that differ on a scoped address: a network for the control plane, a name for the
agent. -/
theorem scoped_differs (hascii : Ascii hostPart) (hslash : '/' ∉ hostPart)
    (hpercent : '%' ∈ hostPart)
    (hip : Authorizer.ipAddress hostPart = some a) (h : HostsAgree tables hosts hostPart)
    (hhosts : ∀ addr m, a = .v6 m → parse addr = some a → hosts addr) : False := by
  obtain ⟨addr,scope,m,rfl,hs,hm⟩ := Authorizer.ipAddress_scoped hpercent hip
  obtain ⟨heq,_⟩ := splitFirst_eq_some.mp hs
  have hparse : parse addr = some (.v6 m) := parse_eq_v6.mpr hm
  have hnone : parse hostPart = none := parse_eq_none hpercent (by decide)
  have hnet := Authorizer.ipNetwork_single hslash
  rw [hip,Option.map_some] at hnet
  obtain ⟨ruleHost,hrule,hagree⟩ := h
  rw [AgentAllowlist.parseHost_single tables hslash,hnone] at hrule
  obtain rfl := Except.ok.inj hrule
  have haddr : Ascii addr := fun c hc => hascii c (by simp [heq,hc])
  have hverdict := hagree addr haddr (hhosts addr m rfl hparse)
  simp [Authorizer.ruleHost,hnet,Authorizer.RuleHost.matches,Authorizer.ipAddress_of_parse hparse,
    AgentAllowlist.RuleHost.admits,AgentAllowlist.parseIP,hparse,Authorizer.Network.contains,
    Authorizer.Network.new] at hverdict

theorem ascii_quad (n : Nat) : Ascii (quad n) := by
  intro c hc
  rcases quad_chars hc with h | rfl
  · exact isDigit_lt h
  · decide

theorem plainHost_quad {x : Nat} (h : x < 4294967296) : PlainHost (quad x) := by
  intro n hn
  rw [Authorizer.ipAddress_of_parse (parse_eq_v4.mpr (v4Value_quad h))] at hn
  cases hn

/-- On a mapped IPv4 network the agent admits the IPv4 addresses, the control plane none. -/
theorem mapped_differs {ruleHost : AgentAllowlist.RuleHost} {m p x : Nat} (hx : to4 m = some x)
    (hnet : Authorizer.ipNetwork hostPart = some ⟨.v6 m,p⟩)
    (hrule : ruleHost = .cidr ⟨.v6 m,p⟩ ∨ ruleHost = .ip m)
    (hagree : ∀ host, Ascii host → PlainHost host →
      (Authorizer.ruleHost tables hostPart).matches tables host = ruleHost.admits tables host) :
    False := by
  obtain ⟨hm,hlt⟩ := AgentAllowlist.to4_eq_some.mp hx
  have hparse : parse (quad x) = some (.v4 x) := parse_eq_v4.mpr (v4Value_quad hlt)
  have hverdict := hagree (quad x) (ascii_quad x) (plainHost_quad hlt)
  simp only [Authorizer.ruleHost,hnet,Authorizer.RuleHost.matches,
    Authorizer.ipAddress_of_parse hparse,AgentAllowlist.RuleHost.admits,AgentAllowlist.parseIP,
    hparse,Option.map_some,← hm,Authorizer.Network.contains,Addr.mask] at hverdict
  rcases hrule with rfl | rfl
  · simp [contains_mapped hx] at hverdict
  · simp at hverdict

theorem network_of_hostsAgree (hascii : Ascii hostPart) (hslash : '/' ∈ hostPart)
    (h : HostsAgree tables PlainHost hostPart) : PlainAddress hostPart := by
  obtain ⟨ruleHost,hrule,hagree⟩ := h
  obtain ⟨net,hcidr,rfl⟩ := (AgentAllowlist.parseHost_slash hslash).mp hrule
  obtain ⟨addr,mask,a,n,hs,ha,hn,hle,rfl⟩ := AgentAllowlist.parseCIDR_eq_some.mp hcidr
  have hnet := Authorizer.ipNetwork_slash hs ha hn
  have hlen : mask.length ≤ 4300 := by
    -- a longer prefix length makes the text a hostname for the control plane
    by_contra hlong
    rw [if_neg fun hand => hlong hand.1] at hnet
    have hnone := Authorizer.ipAddress_slash hslash
    have hverdict := hagree hostPart hascii (plainHost_of_none hnone)
    simp [Authorizer.ruleHost,hnet,Authorizer.RuleHost.matches,hnone,
      AgentAllowlist.RuleHost.admits,AgentAllowlist.parseIP,
      parse_eq_none hslash (by decide)] at hverdict
  rw [if_pos ⟨hlen,hle⟩] at hnet
  constructor
  · intro addr' mask' hs'
    obtain ⟨rfl,rfl⟩ := Prod.mk.inj (Option.some.inj (hs.symm.trans hs'))
    exact ⟨a,n,ha,hn,hle,hlen⟩
  · intro m p hm
    refine iff_of_false (AgentAllowlist.parseCIDR_percent hcidr) fun hsome => ?_
    obtain ⟨x,hx⟩ := Option.isSome_iff_exists.mp hsome
    obtain ⟨hmask,rfl⟩ := Authorizer.Network.mk.inj (Option.some.inj (hnet.symm.trans hm))
    exact mapped_differs hx hm (Or.inl (by rw [hmask])) hagree

theorem address_of_hostsAgree (hascii : Ascii hostPart) (h : HostsAgree tables PlainHost hostPart) :
    PlainAddress hostPart := by
  by_cases hslash : '/' ∈ hostPart
  · exact network_of_hostsAgree hascii hslash h
  constructor
  · intro addr mask hs
    rw [splitFirst_eq_none.mpr hslash] at hs
    cases hs
  · intro m p hm
    have hnet := Authorizer.ipNetwork_single hslash
    obtain ⟨a,hip,ha⟩ := Option.map_eq_some_iff.mp (hnet.symm.trans hm)
    obtain ⟨hmask,rfl⟩ := Authorizer.Network.mk.inj ha
    obtain rfl : a = .v6 m := by rw [← hmask,mask_bits]
    constructor
    · intro hpercent
      by_contra hnone
      refine scoped_differs hascii hslash hpercent hip h fun addr k hk haddr => ?_
      obtain rfl := Addr.v6.inj hk
      intro k hk
      rw [Authorizer.ipAddress_of_parse haddr] at hk
      obtain rfl := Addr.v6.inj (Option.some.inj hk)
      exact ⟨percent_notMem haddr,by simpa using hnone⟩
    · intro hsome
      by_contra hpercent
      obtain ⟨x,hx⟩ := Option.isSome_iff_exists.mp hsome
      rw [Authorizer.ipAddress_eq_parse hpercent] at hip
      obtain ⟨ruleHost,hrule,hagree⟩ := h
      rw [AgentAllowlist.parseHost_single tables hslash,hip] at hrule
      exact mapped_differs hx hm (Or.inr (Except.ok.inj hrule).symm) hagree

theorem ascii_mappedText (n : Nat) : Ascii (mappedText n) := by
  intro c hc
  rcases List.mem_append.mp hc with hc | hc
  · have hprefix : ∀ c ∈ "::ffff:".toList, c.toNat < 128 := by simp
    exact hprefix c hc
  · exact ascii_quad n c hc

/-- Every address rule is read differently on some text of an IPv6 address: a mapped one for a
rule on IPv4 addresses, a scoped one for a rule on IPv6 addresses. -/
theorem some_host_differs (tables : CaseTables) {ruleHost : AgentAllowlist.RuleHost}
    {addr : List Char}
    (hascii : Ascii addr) (ha : parse addr = some a)
    (hnet : Authorizer.ipNetwork hostPart = some (.new a n))
    (hrule : ruleHost = .cidr ⟨a.mask n,n⟩ ∨ ruleHost = .ip (as16 a) ∧ n = a.bits) :
    ∃ host, Ascii host ∧
      (Authorizer.ruleHost tables hostPart).matches tables host ≠ ruleHost.admits tables host := by
  cases a with
  | v4 v =>
    have hle := maskTo_le 32 n v
    have hv := parse_range ha v rfl
    have hlt : maskTo 32 n v < 4294967296 := by omega
    have hparse : parse (mappedText (maskTo 32 n v)) = some (.v6 (as16 (.v4 (maskTo 32 n v)))) :=
      parse_eq_v6.mpr (v6Value_mappedText hlt)
    refine ⟨mappedText (maskTo 32 n v),ascii_mappedText _,?_⟩
    simp only [Authorizer.ruleHost,hnet,Authorizer.RuleHost.matches,
      Authorizer.ipAddress_of_parse hparse,AgentAllowlist.RuleHost.admits,
      AgentAllowlist.parseIP,hparse,Option.map_some,Authorizer.Network.contains,
      Authorizer.Network.new,Addr.mask,reduceCtorEq,decide_false]
    rcases hrule with rfl | ⟨rfl,rfl⟩
    · have hin := contains_v4 (p := n) hlt
      simpa [Addr.mask,as16] using hin
    · simp [Addr.bits,maskTo_self,as16]
  | v6 v =>
    have hscoped := Authorizer.ipAddress_withScope (parse_eq_v6.mp ha)
    have hparse : parse (addr ++ ['%','x']) = none :=
      parse_eq_none (c := '%') (by simp) (by decide)
    refine ⟨addr ++ ['%','x'],?_,?_⟩
    · intro c hc
      simp only [List.mem_append,List.mem_cons,List.not_mem_nil,or_false] at hc
      rcases hc with hc | rfl | rfl
      · exact hascii c hc
      · decide
      · decide
    · simp only [Authorizer.ruleHost,hnet,Authorizer.RuleHost.matches,hscoped,
        AgentAllowlist.RuleHost.admits,AgentAllowlist.parseIP,hparse,Option.map_none,
        Authorizer.Network.contains,Authorizer.Network.new]
      rcases hrule with rfl | ⟨rfl,rfl⟩
      · simp
      · simp

theorem hostname_of_hostsAgree (hascii : Ascii hostPart)
    (h : HostsAgree tables (fun _ => True) hostPart) : IsHostname hostPart := by
  have hplain : PlainAddress hostPart := by
    obtain ⟨ruleHost,hrule,hagree⟩ := h
    exact address_of_hostsAgree hascii ⟨ruleHost,hrule,fun host hhost _ => hagree host hhost trivial⟩
  have hslash : '/' ∉ hostPart := by
    intro hslash
    obtain ⟨addr,mask,hs⟩ := exists_splitFirst hslash
    obtain ⟨a,n,ha,hn,hle,hlen⟩ := hplain.prefixLength addr mask hs
    have hnet := Authorizer.ipNetwork_slash hs ha hn
    rw [if_pos ⟨hlen,hle⟩] at hnet
    have hcidr := AgentAllowlist.parseCIDR_eq_some.mpr ⟨addr,mask,a,n,hs,ha,hn,hle,rfl⟩
    have haddr : Ascii addr := by
      obtain ⟨rfl,_⟩ := splitFirst_eq_some.mp hs
      exact fun c hc => hascii c (by simp [hc])
    obtain ⟨ruleHost,hrule,hagree⟩ := h
    obtain ⟨net,hnet',rfl⟩ := (AgentAllowlist.parseHost_slash hslash).mp hrule
    obtain rfl := Option.some.inj (hcidr.symm.trans hnet')
    obtain ⟨host,hhost,hdiffers⟩ := some_host_differs tables haddr ha hnet (Or.inl rfl)
    exact hdiffers (hagree host hhost trivial)
  refine ⟨hslash,?_⟩
  by_contra hip
  obtain ⟨a,hip⟩ := Option.ne_none_iff_exists'.mp hip
  by_cases hpercent : '%' ∈ hostPart
  · exact scoped_differs hascii hslash hpercent hip h fun _ _ _ _ => trivial
  · have ha := (Authorizer.ipAddress_eq_parse hpercent).symm.trans hip
    obtain ⟨ruleHost,hrule,hagree⟩ := h
    rw [AgentAllowlist.parseHost_single tables hslash,ha] at hrule
    obtain ⟨host,hhost,hdiffers⟩ := some_host_differs tables hascii ha
      (ipNetwork_of_parse hslash ha) (Or.inr ⟨(Except.ok.inj hrule).symm,rfl⟩)
    exact hdiffers (hagree host hhost trivial)

end Hosts

end Nexplane
