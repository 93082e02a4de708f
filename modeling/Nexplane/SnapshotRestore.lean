import Nexplane.AddressRollback

set_option autoImplicit false

/-! What the rollback of an address change restores of the snapshot that was taken, back end by
back end. -/

namespace Nexplane
open PyValue Text Lines

section SnapshotMap

variable {ν : Type} {os : Os ν} {items : List String} {snap : Snapshot} {iface : String}

theorem hasItems_items : hasItems (some (jsonSlice (items.map .str))) = !items.isEmpty := by
  cases items with
  | nil => rfl
  | cons item items => rfl

theorem firstString_items :
    firstString (some (jsonSlice (items.map .str))) = items.head?.getD "" := by
  cases items with
  | nil => rfl
  | cons item items => rfl

theorem stringItems_items : stringItems (some (jsonSlice (items.map .str))) = items := by
  cases items with
  | nil => rfl
  | cons item items =>
    have hall : stringItems (some (.arr ((item :: items).map .str))) = item :: items := by
      rw [stringItems,List.filterMap_map]
      exact List.filterMap_some
    exact hall

/-- The first address of each family, which is all that the rollback takes of them. -/
def Snapshot.firstV4 (snap : Snapshot) : String := snap.ipv4Addresses.head?.getD ""

def Snapshot.firstV6 (snap : Snapshot) : String := snap.ipv6Addresses.head?.getD ""

def Snapshot.rollMode (snap : Snapshot) : String := if snap.firstV4 = "" then "dhcp" else "static"

/-- The address change of the rollback. -/
def revertAddress (os : Os ν) (method : NetworkManager) (iface : String) (snap : Snapshot) :
    Go ν Unit :=
  applyIPChange os method iface snap.rollMode "both"
    (rollbackParams iface snap.rollMode snap.firstV4 snap.firstV6 snap.gatewayV4 snap.gatewayV6)

theorem Recorded.revertAddress (os : Os ν) (method : NetworkManager) (iface : String)
    (snap : Snapshot) : Recorded (revertAddress os method iface snap)
      (revertAddress (recording os) method iface snap) :=
  Recorded.applyIPChange method iface _ _ _

theorem Recorded.detects (os : Os ν) :
    Recorded (detectNetworkManager os) (detectNetworkManager (recording os)) := Recorded.ask

/-- The servers of the snapshot handed back, when it has any. -/
def revertDns (os : Os ν) (method : NetworkManager) (iface : String) (snap : Snapshot) : Go ν Unit :=
  configureDNS os method iface snap.connectionName snap.dnsServers snap.dnsSearchDomains

theorem restoreSnapshot_toMap : restoreSnapshot os iface snap.toMap = (do
    let method ← detectNetworkManager os
    revertAddress os method iface snap
    if snap.dnsServers ≠ [] then
      let _ ← Go.succeeds (revertDns os method iface snap)
    pure [("rolled_back",.bool true)]) := by
  have h4 : firstString (Dict.get? snap.toMap "ip_v4_addresses") = snap.firstV4 := firstString_items
  have h6 : firstString (Dict.get? snap.toMap "ip_v6_addresses") = snap.firstV6 := firstString_items
  have hany : hasItems (Dict.get? snap.toMap "dns_servers") = !snap.dnsServers.isEmpty :=
    hasItems_items
  have hservers : stringItems (Dict.get? snap.toMap "dns_servers") = snap.dnsServers :=
    stringItems_items
  have hdomains : stringItems (Dict.get? snap.toMap "dns_search_domains") = snap.dnsSearchDomains :=
    stringItems_items
  have hgw4 : stringField snap.toMap "gateway_v4" = snap.gatewayV4 := rfl
  have hgw6 : stringField snap.toMap "gateway_v6" = snap.gatewayV6 := rfl
  have hcon : stringField snap.toMap "connection_name" = snap.connectionName := rfl
  rw [restoreSnapshot,h4,h6,hany,hservers,hdomains,hgw4,hgw6,hcon]
  cases hdns : snap.dnsServers with
  | nil => rfl
  | cons server servers =>
    simp only [revertDns,hdns]
    rfl

/-- The rollback of a snapshot changes the address and then hands the servers back. -/
theorem restoreSnapshot_steps {d : Dict} {s t : ν}
    (h : (restoreSnapshot os iface snap.toMap).exec s = (.ok d,t)) :
    ∃ method u, (detectNetworkManager os).exec s = (.ok method,s) ∧
      (revertAddress os method iface snap).exec s = (.ok (),u) ∧
      t = if snap.dnsServers = [] then u else ((revertDns os method iface snap).exec u).2 := by
  rw [restoreSnapshot_toMap] at h
  obtain ⟨method,s₁,hmethod,h⟩ := Go.bind_eq_ok.mp h
  obtain rfl : s = s₁ := (Go.ask_eq_ok.mp hmethod).2
  obtain ⟨_,u,hrevert,h⟩ := Go.bind_eq_ok.mp h
  refine ⟨method,u,hmethod,hrevert,?_⟩
  by_cases hdns : snap.dnsServers = []
  · simp only [hdns,ne_eq,not_true,if_false] at h
    rw [if_pos hdns]
    exact (Go.pure_eq_ok.mp h).2.symm
  · rw [if_pos hdns] at h
    obtain ⟨_,u',hdone,h⟩ := Go.bind_eq_ok.mp h
    rw [Go.succeeds_exec] at hdone
    rw [if_neg hdns,← (Go.pure_eq_ok.mp h).2]
    exact (Prod.mk.inj hdone).2.symm

end SnapshotMap

section Restoring

/-- An address that an interface gives to itself. -/
def linkLocal (address : String) : Bool :=
  match address.toList with
  | 'f' :: 'e' :: c :: _ :: ':' :: _ => c ∈ ['8','9','a','b']
  | cs => "169.254.".toList.isPrefixOf cs

def Snapshot.addresses (snap : Snapshot) : List String := snap.ipv4Addresses ++ snap.ipv6Addresses

/-- The configuration gives the interface what the snapshot has of it: of a family that is on DHCP
nothing but that, and of the others the addresses and the gateway. -/
@[mk_iff]
structure Restored (snap : Snapshot) (dhcp4 dhcp6 : Bool) (config : IfaceConfig) : Prop where
  addresses : ∀ a, linkLocal a = false → (a ∈ config.addresses ↔
    dhcp4 = false ∧ a ∈ snap.ipv4Addresses ∨ dhcp6 = false ∧ a ∈ snap.ipv6Addresses)
  gateways : ∀ g, g ∈ config.gateways ↔
    g ≠ "" ∧ (dhcp4 = false ∧ g = snap.gatewayV4 ∨ dhcp6 = false ∧ g = snap.gatewayV6)
  dhcp4 : config.dhcp4 = dhcp4
  dhcp6 : config.dhcp6 = dhcp6

variable {snap : Snapshot} {iface : String} {dhcp4 dhcp6 : Bool} {addresses gateways : List String}
  {host : HostConfig} {p : Profile}

theorem restored_static (hgw6 : snap.gatewayV6 = "")
    (haddresses : ∀ a ∈ addresses, a ∈ snap.addresses) :
    Restored snap dhcp4 dhcp6 ⟨addresses,gateways,false,false⟩ ↔
      (dhcp4 = false ∧ dhcp6 = false) ∧
        (∀ a ∈ snap.addresses, linkLocal a = false → a ∈ addresses) ∧
        ∀ g, g ∈ gateways ↔ g ≠ "" ∧ g = snap.gatewayV4 := by
  constructor
  · rintro ⟨hall,hgateways,rfl,rfl⟩
    refine ⟨⟨rfl,rfl⟩,fun a ha hglobal => ?_,fun g => ?_⟩
    · refine (hall a hglobal).mpr ?_
      simpa [Snapshot.addresses] using ha
    · rw [hgateways g,hgw6]
      grind
  · rintro ⟨⟨rfl,rfl⟩,hall,hgateways⟩
    refine ⟨fun a hglobal => ?_,fun g => ?_,rfl,rfl⟩
    · have hiff : a ∈ addresses ↔ a ∈ snap.addresses :=
        ⟨haddresses a,fun ha => hall a ha hglobal⟩
      simp only [hiff,Snapshot.addresses,List.mem_append,true_and]
    · rw [hgateways g,hgw6]
      grind

theorem mem_firstV4 (h : snap.firstV4 ≠ "") : snap.firstV4 ∈ snap.ipv4Addresses := by
  rw [Snapshot.firstV4] at h ⊢
  cases hlist : snap.ipv4Addresses with
  | nil => simp [hlist] at h
  | cons a rest => simp

theorem mem_firstV6 (h : snap.firstV6 ≠ "") : snap.firstV6 ∈ snap.ipv6Addresses := by
  rw [Snapshot.firstV6] at h ⊢
  cases hlist : snap.ipv6Addresses with
  | nil => simp [hlist] at h
  | cons a rest => simp

theorem Captured.noV4 (h : Captured iface snap) (hnone : snap.firstV4 = "") :
    snap.ipv4Addresses = [] := by
  cases hlist : snap.ipv4Addresses with
  | nil => rfl
  | cons a rest =>
    have hfirst : snap.firstV4 = a := by simp [Snapshot.firstV4,hlist]
    have hfield := h.ipv4 a (by simp [hlist])
    exact absurd (hfirst ▸ hnone) hfield.nonempty

theorem Captured.noV6 (h : Captured iface snap) (hnone : snap.firstV6 = "") :
    snap.ipv6Addresses = [] := by
  cases hlist : snap.ipv6Addresses with
  | nil => rfl
  | cons a rest =>
    have hfirst : snap.firstV6 = a := by simp [Snapshot.firstV6,hlist]
    have hfield := h.ipv6 a (by simp [hlist])
    exact absurd (hfirst ▸ hnone) hfield.nonempty

theorem restored_networkd_dhcp (h : Captured iface snap) (hnone : snap.firstV4 = "") :
    Restored snap dhcp4 dhcp6 ⟨[],[],false,true⟩ ↔
      dhcp4 = false ∧ dhcp6 = true ∧ snap.gatewayV4 = "" := by
  rw [restored_iff,h.noV4 hnone,h.gatewayV6]
  constructor
  · rintro ⟨_,hgateways,rfl,rfl⟩
    refine ⟨rfl,rfl,?_⟩
    by_contra hgw
    exact absurd ((hgateways snap.gatewayV4).mpr ⟨hgw,.inl ⟨rfl,rfl⟩⟩) (by simp)
  · rintro ⟨rfl,rfl,hgw⟩
    simp [hgw]

theorem restored_networkd_static (h : Captured iface snap) (hsome : snap.firstV4 ≠ "") :
    Restored snap dhcp4 dhcp6 ⟨[snap.firstV4],[snap.gatewayV4].filter (· ≠ ""),false,false⟩ ↔
      (dhcp4 = false ∧ dhcp6 = false) ∧
        ∀ a ∈ snap.addresses, linkLocal a = false → a = snap.firstV4 := by
  rw [restored_static h.gatewayV6]
  · have hgateways : ∀ g, g ∈ [snap.gatewayV4].filter (· ≠ "") ↔ g ≠ "" ∧ g = snap.gatewayV4 := by
      intro g
      rw [List.mem_filter,List.mem_singleton,decide_eq_true_eq,and_comm]
    simp only [List.mem_singleton,hgateways,implies_true,and_true]
  · intro a ha
    rw [List.mem_singleton.mp ha]
    exact List.mem_append_left _ (mem_firstV4 hsome)

theorem Captured.nonempty (h : Captured iface snap) {a : String} (ha : a ∈ snap.addresses) :
    a ≠ "" := by
  rcases List.mem_append.mp ha with ha | ha
  · exact (h.ipv4 a ha).nonempty
  · exact (h.ipv6 a ha).nonempty

theorem restored_ifcfg_dhcp (h : Captured iface snap) (hnone : snap.firstV4 = "") :
    Restored snap dhcp4 dhcp6 ⟨[],[],true,false⟩ ↔
      dhcp4 = true ∧ dhcp6 = false ∧ ∀ a ∈ snap.addresses, linkLocal a = true := by
  rw [restored_iff,Snapshot.addresses,h.noV4 hnone,h.gatewayV6]
  constructor
  · rintro ⟨hall,_,rfl,rfl⟩
    refine ⟨rfl,rfl,fun a ha => ?_⟩
    by_contra hglobal
    exact absurd ((hall a (by simpa using hglobal)).mpr (.inr ⟨rfl,ha⟩)) (by simp)
  · rintro ⟨rfl,rfl,hall⟩
    refine ⟨fun a hglobal => ?_,by simp,rfl,rfl⟩
    have hnot : a ∉ snap.ipv6Addresses := by
      intro ha
      rw [hall a ha] at hglobal
      cases hglobal
    simp [hnot]

theorem restored_ifcfg_static (h : Captured iface snap) (hsome : snap.firstV4 ≠ "") :
    Restored snap dhcp4 dhcp6 ⟨snap.firstV4 :: [snap.firstV6].filter (· ≠ ""),
        [snap.gatewayV4].filter (· ≠ ""),false,false⟩ ↔
      (dhcp4 = false ∧ dhcp6 = false) ∧
        ∀ a ∈ snap.addresses, linkLocal a = false → a = snap.firstV4 ∨ a = snap.firstV6 := by
  have hmem : ∀ a, a ∈ snap.firstV4 :: [snap.firstV6].filter (· ≠ "") ↔
      a = snap.firstV4 ∨ a = snap.firstV6 ∧ a ≠ "" := by simp
  rw [restored_static h.gatewayV6]
  · have hgateways : ∀ g, g ∈ [snap.gatewayV4].filter (· ≠ "") ↔ g ≠ "" ∧ g = snap.gatewayV4 := by
      intro g
      rw [List.mem_filter,List.mem_singleton,decide_eq_true_eq,and_comm]
    simp only [hgateways,implies_true,and_true,hmem]
    refine and_congr_right fun _ => forall₂_congr fun a ha => ?_
    have hne := h.nonempty ha
    simp [hne]
  · intro a ha
    rcases (hmem a).mp ha with rfl | ⟨rfl,hne⟩
    · exact List.mem_append_left _ (mem_firstV4 hsome)
    · exact List.mem_append_right _ (mem_firstV6 hne)

theorem restored_automatic (p : Profile) :
    Restored snap dhcp4 dhcp6 p.automatic.config ↔ dhcp4 = true ∧ dhcp6 = true ∧
      (∀ a ∈ p.config.addresses, linkLocal a = true) ∧ p.config.gateways = [] := by
  have hautomatic : p.automatic.config = ⟨p.config.addresses,p.config.gateways,true,true⟩ := rfl
  rw [hautomatic]
  constructor
  · rintro ⟨hall,hgateways,rfl,rfl⟩
    refine ⟨rfl,rfl,fun a ha => ?_,List.eq_nil_iff_forall_not_mem.mpr fun g hg => ?_⟩
    · by_contra hglobal
      have := (hall a (by simpa using hglobal)).mp ha
      simp at this
    · have := (hgateways g).mp hg
      simp at this
  · rintro ⟨rfl,rfl,hall,hgateways⟩
    refine ⟨fun a hglobal => ?_,fun g => by simp [hgateways],rfl,rfl⟩
    have hnot : a ∉ p.config.addresses := by
      intro ha
      rw [hall a ha] at hglobal
      cases hglobal
    simp [hnot]

/-- The gateway that the connection had is the captured one, where the captured one is not set. -/
def GatewaysFit (snap : Snapshot) (p : Profile) : Prop :=
  (snap.gatewayV4 = "" → p.v4.gateway = "") ∧
    (p.v6.gateway = "" ∨ p.v6.gateway = snap.gatewayV4)

theorem gatewaysFit_iff : GatewaysFit snap p ↔ ∀ g,
    g ∈ [if snap.gatewayV4 = "" then p.v4.gateway else snap.gatewayV4,p.v6.gateway].filter (· ≠ "") ↔
      g ≠ "" ∧ g = snap.gatewayV4 := by
  simp only [GatewaysFit,List.mem_filter,List.mem_cons,List.not_mem_nil,or_false,decide_eq_true_eq]
  constructor
  · rintro ⟨h4,h6⟩ g
    grind
  · intro hall
    have hv4 := hall p.v4.gateway
    have hv6 := hall p.v6.gateway
    grind

theorem static_config (p : Profile) (v4 gw4 v6 : String) : (p.static v4 gw4 v6 "").config =
    ⟨v4 :: (if v6 = "" then p.v6.addresses else [v6]),
      [if gw4 = "" then p.v4.gateway else gw4,p.v6.gateway].filter (· ≠ ""),false,
      v6 = "" && p.v6.automatic⟩ := by
  rw [Profile.config,Profile.static]
  split
  · next hempty => simp [FamilySettings.static,hempty]
  · next hne => simp [FamilySettings.static,hne]

theorem restored_connection_both (h : Captured iface snap) (hsome : snap.firstV4 ≠ "")
    (hsome6 : snap.firstV6 ≠ "") :
    Restored snap dhcp4 dhcp6 (p.static snap.firstV4 snap.gatewayV4 snap.firstV6 "").config ↔
      (dhcp4 = false ∧ dhcp6 = false) ∧ (∀ a ∈ snap.addresses, linkLocal a = false →
        a = snap.firstV4 ∨ a = snap.firstV6) ∧ GatewaysFit snap p := by
  have hauto : (decide (snap.firstV6 = "") && p.v6.automatic) = false := by simp [hsome6]
  rw [static_config,if_neg hsome6,hauto,restored_static h.gatewayV6,gatewaysFit_iff]
  · simp only [List.mem_cons,List.not_mem_nil,or_false]
  · intro a ha
    simp only [List.mem_cons,List.not_mem_nil,or_false] at ha
    rcases ha with rfl | rfl
    · exact List.mem_append_left _ (mem_firstV4 hsome)
    · exact List.mem_append_right _ (mem_firstV6 hsome6)

theorem restored_connection_v4 (h : Captured iface snap) (hnone : snap.firstV6 = "") :
    Restored snap dhcp4 dhcp6 (p.static snap.firstV4 snap.gatewayV4 snap.firstV6 "").config ↔
      (dhcp4 = false ∧ dhcp6 = p.v6.automatic) ∧ (∀ a, linkLocal a = false →
        (a = snap.firstV4 ∨ a ∈ p.v6.addresses ↔ a ∈ snap.addresses)) ∧ GatewaysFit snap p := by
  rw [static_config,if_pos hnone,gatewaysFit_iff,restored_iff,Snapshot.addresses,h.noV6 hnone,
    h.gatewayV6]
  simp only [hnone,decide_true,Bool.true_and,List.append_nil,List.mem_cons,List.not_mem_nil,
    and_false,or_false]
  constructor
  · rintro ⟨hall,hgateways,rfl,rfl⟩
    refine ⟨⟨rfl,rfl⟩,fun a hglobal => ?_,fun g => ?_⟩
    · simpa using hall a hglobal
    · rw [hgateways g]
      grind
  · rintro ⟨⟨rfl,rfl⟩,hall,hgateways⟩
    refine ⟨fun a hglobal => ?_,fun g => ?_,rfl,rfl⟩
    · simpa using hall a hglobal
    · rw [hgateways g]
      grind

end Restoring

section AddressChange

variable {ν : Type} {os : Os ν} {snap : Snapshot} {iface : String}
  {method : NetworkManager} {h₀ host : HostConfig} {s u : ν × List Effect}

/-- Without an IPv4 address in the snapshot the rollback turns DHCP on, as the back end has it. -/
def DhcpFits (method : NetworkManager) (snap : Snapshot) (dhcp4 dhcp6 : Bool) (host : HostConfig) :
    Prop :=
  match method with
  | .networkManager => dhcp4 = true ∧ dhcp6 = true ∧
      (∀ a ∈ host.profile.config.addresses, linkLocal a = true) ∧ host.profile.config.gateways = []
  | .systemd => dhcp4 = false ∧ dhcp6 = true ∧ snap.gatewayV4 = ""
  | .debian => Restored snap dhcp4 dhcp6 host.stanza
  | .rhel => dhcp4 = true ∧ dhcp6 = false ∧ ∀ a ∈ snap.addresses, linkLocal a = true

/-- What the connection keeps is part of what it is to have. -/
def ConnectionFits (snap : Snapshot) (dhcp4 dhcp6 : Bool) (p : Profile) : Prop :=
  GatewaysFit snap p ∧
    (snap.firstV6 = "" → (dhcp4 = false ∧ dhcp6 = p.v6.automatic) ∧ ∀ a, linkLocal a = false →
      (a = snap.firstV4 ∨ a ∈ p.v6.addresses ↔ a ∈ snap.addresses)) ∧
    (snap.firstV6 ≠ "" → (dhcp4 = false ∧ dhcp6 = false) ∧ ∀ a ∈ snap.addresses,
      linkLocal a = false → a = snap.firstV4 ∨ a = snap.firstV6)

/-- With an IPv4 address the rollback sets that one, and on two of the back ends one more. -/
def StaticFits (method : NetworkManager) (managed : Prop) (snap : Snapshot) (dhcp4 dhcp6 : Bool)
    (host : HostConfig) : Prop :=
  match method with
  | .networkManager => (managed → ConnectionFits snap dhcp4 dhcp6 host.profile) ∧
      (¬managed → Restored snap dhcp4 dhcp6 host.profile.config)
  | .systemd => (dhcp4 = false ∧ dhcp6 = false) ∧
      ∀ a ∈ snap.addresses, linkLocal a = false → a = snap.firstV4
  | .debian => Restored snap dhcp4 dhcp6 host.stanza
  | .rhel => (dhcp4 = false ∧ dhcp6 = false) ∧
      ∀ a ∈ snap.addresses, linkLocal a = false → a = snap.firstV4 ∨ a = snap.firstV6

def AddressesFit (method : NetworkManager) (managed : Prop) (snap : Snapshot) (dhcp4 dhcp6 : Bool)
    (host : HostConfig) : Prop :=
  (snap.firstV4 = "" → DhcpFits method snap dhcp4 dhcp6 host) ∧
    (snap.firstV4 ≠ "" → StaticFits method managed snap dhcp4 dhcp6 host)

theorem restored_connection (dhcp4 dhcp6 : Bool) (h : Captured iface snap)
    (hsome : snap.firstV4 ≠ "") (p : Profile) :
    Restored snap dhcp4 dhcp6 (p.static snap.firstV4 snap.gatewayV4 snap.firstV6 "").config ↔
      ConnectionFits snap dhcp4 dhcp6 p := by
  by_cases hv6 : snap.firstV6 = ""
  · rw [restored_connection_v4 h hv6,ConnectionFits]
    constructor
    · rintro ⟨hdhcp,hall,hgateways⟩
      exact ⟨hgateways,fun _ => ⟨hdhcp,hall⟩,fun hne => absurd hv6 hne⟩
    · rintro ⟨hgateways,hone,_⟩
      exact ⟨(hone hv6).1,(hone hv6).2,hgateways⟩
  · rw [restored_connection_both h hsome hv6,ConnectionFits]
    constructor
    · rintro ⟨hdhcp,hall,hgateways⟩
      exact ⟨hgateways,fun hempty => absurd hempty hv6,fun _ => ⟨hdhcp,hall⟩⟩
    · rintro ⟨hgateways,_,htwo⟩
      exact ⟨(htwo hv6).1,(htwo hv6).2,hgateways⟩

theorem oneLine_empty : '\n' ∉ "".toList := by simp

theorem Captured.firstV4_oneLine (h : Captured iface snap) : '\n' ∉ snap.firstV4.toList := by
  by_cases hv4 : snap.firstV4 = ""
  · rw [hv4]
    exact oneLine_empty
  · exact (h.ipv4 _ (mem_firstV4 hv4)).oneLine

theorem Captured.firstV6_oneLine (h : Captured iface snap) : '\n' ∉ snap.firstV6.toList := by
  by_cases hv6 : snap.firstV6 = ""
  · rw [hv6]
    exact oneLine_empty
  · exact (h.ipv6 _ (mem_firstV6 hv6)).oneLine

theorem Captured.gatewayV4_oneLine (h : Captured iface snap) : '\n' ∉ snap.gatewayV4.toList := by
  rcases h.gatewayV4 with hgw | hgw
  · rw [hgw]
    exact oneLine_empty
  · exact hgw.oneLine

theorem revertAddress_dhcp (dhcp4 dhcp6 : Bool) (h : Captured iface snap)
    (hiface : '\n' ∉ iface.toList) (hnone : snap.firstV4 = "")
    (hrevert : (revertAddress (recording os) method iface snap).exec s = (.ok (),u))
    (hs : HostIs iface h₀ host s) :
    ∃ host', HostIs iface h₀ host' u ∧
      (Restored snap dhcp4 dhcp6 (host'.of method) ↔ DhcpFits method snap dhcp4 dhcp6 host) := by
  have hmode : snap.rollMode = "dhcp" := if_pos hnone
  rw [revertAddress,hmode] at hrevert
  cases method with
  | networkManager => exact ⟨_,applyNmcli_dhcp hrevert hs,restored_automatic host.profile⟩
  | systemd =>
    refine ⟨_,applySystemd_host hrevert hs,?_⟩
    rw [networkdText_dhcp hiface]
    exact restored_networkd_dhcp h hnone
  | debian => exact ⟨host,keepsHost_debian.exec hrevert hs,Iff.rfl⟩
  | rhel =>
    refine ⟨_,applyRHEL_host hrevert hs,?_⟩
    rw [ifcfgText_dhcp hiface]
    exact restored_ifcfg_dhcp h hnone

theorem revertAddress_static (dhcp4 dhcp6 : Bool) (h : Captured iface snap)
    (hiface : '\n' ∉ iface.toList) (hsome : snap.firstV4 ≠ "")
    (hrevert : (revertAddress (recording os) method iface snap).exec s = (.ok (),u))
    (hs : HostIs iface h₀ host s) :
    ∃ host', HostIs iface h₀ host' u ∧ (Restored snap dhcp4 dhcp6 (host'.of method) ↔
      StaticFits method (Managed os iface snap.firstV4 snap.gatewayV4 s.1) snap dhcp4 dhcp6 host) := by
  have hmode : snap.rollMode = "static" := if_neg hsome
  rw [revertAddress,hmode] at hrevert
  cases method with
  | networkManager =>
    obtain ⟨haccepted,hrefused⟩ := applyNmcli_static hsome hrevert hs
    by_cases hmanaged : Managed os iface snap.firstV4 snap.gatewayV4 s.1
    · refine ⟨_,haccepted hmanaged,?_⟩
      have hconnection := restored_connection dhcp4 dhcp6 h hsome host.profile
      rw [← h.gatewayV6] at hconnection
      simp only [StaticFits,hmanaged,true_implies,not_true,false_implies,and_true]
      exact hconnection
    · refine ⟨_,hrefused hmanaged,?_⟩
      simp only [StaticFits,hmanaged,not_false_eq_true,true_implies,false_implies,true_and]
      exact Iff.rfl
  | systemd =>
    refine ⟨_,applySystemd_host hrevert hs,?_⟩
    rw [networkdText_static hsome hiface h.firstV4_oneLine h.gatewayV4_oneLine]
    exact restored_networkd_static h hsome
  | debian => exact ⟨host,keepsHost_debian.exec hrevert hs,Iff.rfl⟩
  | rhel =>
    refine ⟨_,applyRHEL_host hrevert hs,?_⟩
    rw [ifcfgText_static hsome hiface h.firstV4_oneLine h.gatewayV4_oneLine h.firstV6_oneLine]
    exact restored_ifcfg_static h hsome

/-- What the address change of the rollback leaves written is what the snapshot has exactly when
it fits. -/
theorem revertAddress_host (dhcp4 dhcp6 : Bool) (h : Captured iface snap)
    (hiface : '\n' ∉ iface.toList)
    (hrevert : (revertAddress (recording os) method iface snap).exec s = (.ok (),u))
    (hs : HostIs iface h₀ host s) :
    ∃ host', HostIs iface h₀ host' u ∧ (Restored snap dhcp4 dhcp6 (host'.of method) ↔
      AddressesFit method (Managed os iface snap.firstV4 snap.gatewayV4 s.1) snap dhcp4 dhcp6
        host) := by
  by_cases hv4 : snap.firstV4 = ""
  · obtain ⟨host',hhost,hiff⟩ := revertAddress_dhcp dhcp4 dhcp6 h hiface hv4
      hrevert hs
    refine ⟨host',hhost,hiff.trans ?_⟩
    simp only [AddressesFit,hv4,true_implies,ne_eq,not_true,false_implies,and_true]
  · obtain ⟨host',hhost,hiff⟩ := revertAddress_static dhcp4 dhcp6 h hiface
      hv4 hrevert hs
    refine ⟨host',hhost,hiff.trans ?_⟩
    simp only [AddressesFit,hv4,false_implies,true_and,ne_eq,not_false_eq_true,true_implies]

end AddressChange

section Servers

variable {ν : Type} {os : Os ν} {snap : Snapshot} {iface conName name path : String}
  {args servers searchDomains : List String} {method : NetworkManager} {r₀ r r' : Resolution}
  {s t : ν × List Effect}

/-- From a state with `P` the program ends in one with `Q`, or fails in one with `E`. -/
def Go.Ends {σ : Type} (P : σ → Prop) (x : Go σ Unit) (Q E : σ → Prop) : Prop :=
  ∀ s, P s → ((x.exec s).1 = .ok () → Q (x.exec s).2) ∧ ((x.exec s).1 ≠ .ok () → E (x.exec s).2)

theorem Go.Ends.bind {σ : Type} {P M Q E : σ → Prop} {x y : Go σ Unit} (hx : Go.Ends P x M E)
    (hy : Go.Ends M y Q E) : Go.Ends P (x >>= fun _ => y) Q E := by
  intro s hs
  obtain ⟨hok,herror⟩ := hx s hs
  rw [Go.bind_exec]
  rcases hr : x.exec s with ⟨e | u,t⟩
  · rw [hr] at herror
    exact ⟨fun h => (by cases h),fun _ => herror (by simp)⟩
  · rw [hr] at hok
    exact hy t (hok rfl)

/-- The servers that are asked are those of `r`, whatever a connection has got besides. -/
def AsksAs (r₀ r : Resolution) (s : ν × List Effect) : Prop :=
  (view Resolution.after r₀ s).servers = r.servers

theorem ends_run (hr : r.after (.ran name args) = r') : Go.Ends (DnsIs r₀ r)
    (runCmd (recording os) name args) (DnsIs r₀ r') (AsksAs r₀ r) := by
  intro s hs
  rcases hexec : (runCmd (recording os) name args).exec s with ⟨e | u,t⟩
  · refine ⟨fun h => (by cases h),fun _ => ?_⟩
    rw [AsksAs,command_refused hexec,hs]
  · refine ⟨fun _ => ?_,fun h => absurd rfl h⟩
    rw [DnsIs,(command_view hexec).1,hs,hr]

/-- A program that leaves alone where names are asked from, at the end of another. -/
theorem ends_keeps {x : Go (ν × List Effect) Unit} (hx : Go.Keeps (DnsIs r₀ r) x)
    (hr : r.servers = r'.servers) : Go.Ends (DnsIs r₀ r) x (DnsIs r₀ r) (AsksAs r₀ r') := by
  intro s hs
  refine ⟨fun _ => hx s hs,fun _ => ?_⟩
  rw [AsksAs,hx s hs,hr]

theorem ends_networkManager (os : Os ν) (iface : String) (hsome : snap.dnsServers ≠ []) :
    Go.Ends (DnsIs r₀ r) (revertDns (recording os) .networkManager iface snap)
      (DnsIs r₀ ⟨((" ".intercalate snap.dnsServers).toList.splitOn ' ').map String.ofList,none⟩)
      (AsksAs r₀ r) := by
  let con := if snap.connectionName = "" then iface else snap.connectionName
  let joined := " ".intercalate snap.dnsServers
  let searched := " ".intercalate snap.dnsSearchDomains
  have heq : revertDns (recording os) .networkManager iface snap = (do
      runNmcli (recording os) ["con","mod",con,"ipv4.dns",joined]
      runNmcli (recording os) ["con","mod",con,"ipv6.dns",joined]
      if !snap.dnsSearchDomains.isEmpty then
        runNmcli (recording os) ["con","mod",con,"ipv4.dns-search",searched]
      runNmcli (recording os) ["con","up",con]) := by
    have hany : ¬snap.dnsServers.isEmpty = true := by simpa using hsome
    exact if_neg hany
  let got : Resolution := { r with pending := some joined }
  have hup : Go.Ends (DnsIs r₀ got) (runNmcli (recording os) ["con","up",con])
      (DnsIs r₀ ⟨(joined.toList.splitOn ' ').map String.ofList,none⟩) (AsksAs r₀ got) := ends_run rfl
  have hkeep : ∀ property value, property ≠ "ipv4.dns" → Go.Ends (DnsIs r₀ got)
      (runNmcli (recording os) ["con","mod",con,property,value]) (DnsIs r₀ got) (AsksAs r₀ got) :=
    fun property value hne => ends_keeps (keepsDns_method con property hne value) rfl
  have hrest : Go.Ends (DnsIs r₀ got)
      (do
        if !snap.dnsSearchDomains.isEmpty then
          runNmcli (recording os) ["con","mod",con,"ipv4.dns-search",searched]
        runNmcli (recording os) ["con","up",con])
      (DnsIs r₀ ⟨(joined.toList.splitOn ' ').map String.ofList,none⟩) (AsksAs r₀ got) := by
    split
    · exact (hkeep _ _ (by decide)).bind hup
    · exact hup
  rw [heq]
  have hfirst : Go.Ends (DnsIs r₀ r) (runNmcli (recording os) ["con","mod",con,"ipv4.dns",joined])
      (DnsIs r₀ got) (AsksAs r₀ got) := ends_run rfl
  exact hfirst.bind ((hkeep _ _ (by decide)).bind hrest)

/-- The search domains come after the servers, which stay set when they are refused. -/
theorem resolvectl_state (os : Os ν) (iface : String) (hsome : snap.dnsServers ≠ [])
    (hs : DnsIs r₀ r s) :
    let setServers := runCmd (recording os) "resolvectl" ("dns" :: iface :: snap.dnsServers)
    let t := ((revertDns (recording os) .systemd iface snap).exec s).2
    ((setServers.exec s).1 = .ok () → DnsIs r₀ { r with servers := snap.dnsServers } t) ∧
      ((setServers.exec s).1 ≠ .ok () → AsksAs r₀ r t) := by
  intro setServers
  let setDomains := if !snap.dnsSearchDomains.isEmpty then
    runCmd (recording os) "resolvectl" ("domain" :: iface :: snap.dnsSearchDomains) else pure ()
  have heq : revertDns (recording os) .systemd iface snap = setServers >>= fun _ => setDomains := by
    have hany : ¬snap.dnsServers.isEmpty = true := by simpa using hsome
    exact if_neg hany
  rw [heq]
  have hends : Go.Ends (DnsIs r₀ r) setServers (DnsIs r₀ { r with servers := snap.dnsServers })
      (AsksAs r₀ r) := ends_run rfl
  have hrest : Go.Keeps (DnsIs r₀ { r with servers := snap.dnsServers }) setDomains :=
    .ite (keepsDns_run rfl) (.pure ())
  obtain ⟨hok,herror⟩ := hends s hs
  dsimp only
  rw [Go.bind_exec]
  rcases hexec : setServers.exec s with ⟨e | u,t⟩
  · rw [hexec] at herror
    exact ⟨fun h => (by cases h),fun _ => herror (by simp)⟩
  · rw [hexec] at hok
    exact ⟨fun _ => hrest t (hok rfl),fun h => absurd rfl h⟩

/-- The text of `/etc/resolv.conf` that is written. -/
def resolvText (kept servers searchDomains : List String) : String :=
  "\n".intercalate (kept ++ servers.map ("nameserver " ++ ·) ++
    if searchDomains.isEmpty then [] else ["search " ++ " ".intercalate searchDomains]) ++ "\n"

theorem mem_nameservers {kept : List String} {server : String} (hmem : server ∈ servers)
    (hline : '\n' ∉ server.toList) :
    server ∈ nameservers (resolvText kept servers searchDomains) := by
  have hend : "\n".toList = ['\n'] := by simp
  have hhead : '\n' ∉ "nameserver ".toList := by simp
  let written := kept ++ servers.map ("nameserver " ++ ·) ++
    if searchDomains.isEmpty then [] else ["search " ++ " ".intercalate searchDomains]
  have htext : (resolvText kept servers searchDomains).toList =
      ['\n'].intercalate (written.map String.toList) ++ '\n' :: [] := by
    rw [resolvText,String.toList_append,String.toList_intercalate,hend]
  have hpiece : ("nameserver " ++ server).toList ∈
      (['\n'].intercalate (written.map String.toList)).splitOn '\n' := by
    refine mem_splitOn_intercalate ?_ (List.mem_map_of_mem ?_)
    · rw [String.toList_append]
      simp only [List.mem_append,hhead,hline,or_self,not_false_eq_true]
    · exact List.mem_append_left _ (List.mem_append_right _ (List.mem_map_of_mem hmem))
  rw [nameservers,htext,List.splitOn_append_cons_self]
  refine List.mem_map.mpr ⟨server.toList,List.mem_filterMap.mpr ?_,String.ofList_toList⟩
  refine ⟨_,List.mem_append_left _ hpiece,?_⟩
  rw [String.toList_append]
  exact List.dropPrefix?_append_of_beq _ (by simp)

theorem ends_resolvConf (os : Os ν) (iface : String) (hmethod : method = .debian ∨ method = .rhel)
    (hsome : snap.dnsServers ≠ []) (hlines : ∀ server ∈ snap.dnsServers, '\n' ∉ server.toList) :
    Go.Ends (DnsIs r₀ r) (revertDns (recording os) method iface snap)
      (fun t => ∀ server ∈ snap.dnsServers, server ∈ (view Resolution.after r₀ t).servers)
      (AsksAs r₀ r) := by
  let written (kept : List String) := resolvText kept snap.dnsServers snap.dnsSearchDomains
  have heq : revertDns (recording os) method iface snap = (do
      let kept ← Go.ask fun s => keptResolvLines ((recording os).readFile "/etc/resolv.conf" s)
      writeFile (recording os) "/etc/resolv.conf" (written kept)) := by
    have hany : ¬snap.dnsServers.isEmpty = true := by simpa using hsome
    rcases hmethod with rfl | rfl
    · exact if_neg hany
    · exact if_neg hany
  rw [heq]
  intro s hs
  let kept := keptResolvLines (os.readFile "/etc/resolv.conf" s.1)
  have hask : (Go.ask fun s => keptResolvLines ((recording os).readFile "/etc/resolv.conf" s)).exec s =
      (.ok kept,s) := rfl
  rw [Go.bind_exec,hask]
  dsimp only
  rcases hexec : (writeFile (recording os) "/etc/resolv.conf" (written kept)).exec s with ⟨e | u,t⟩
  · refine ⟨fun h => (by cases h),fun _ => ?_⟩
    rw [AsksAs,write_refused hexec,hs]
  · refine ⟨fun _ server hserver => ?_,fun h => absurd rfl h⟩
    rw [(write_view hexec).1,Resolution.after,if_pos rfl]
    exact mem_nameservers hserver (hlines server hserver)

/-- The host takes the servers; on `systemd` the search domains do not count. -/
def DnsAccepted {ν : Type} (os : Os ν) (method : NetworkManager) (iface : String) (snap : Snapshot)
    (s : ν) : Prop :=
  ((configureDNS os method iface snap.connectionName snap.dnsServers
    (if method = .systemd then [] else snap.dnsSearchDomains)).exec s).1 = .ok ()

/-- NetworkManager gets the servers as one text with blanks between them. -/
def ServersFit (method : NetworkManager) (accepted : Prop) (snap : Snapshot) (r : Resolution) : Prop :=
  (accepted → method = .networkManager → ∀ server ∈ snap.dnsServers, ' ' ∉ server.toList) ∧
    (¬accepted → ∀ server ∈ snap.dnsServers, server ∈ r.servers)

def InForce (snap : Snapshot) (r : Resolution) : Prop := ∀ server ∈ snap.dnsServers, server ∈ r.servers

theorem inForce_joined :
    InForce snap ⟨((" ".intercalate snap.dnsServers).toList.splitOn ' ').map String.ofList,none⟩ ↔
      ∀ server ∈ snap.dnsServers, ' ' ∉ server.toList := by
  have hblank : " ".toList = [' '] := by simp
  constructor
  · intro hall server hserver
    obtain ⟨piece,hpiece,rfl⟩ := List.mem_map.mp (hall server hserver)
    rw [String.toList_ofList]
    exact splitOn_pieces ' ' _ piece hpiece
  · intro hblanks server hserver
    refine List.mem_map.mpr ⟨server.toList,?_,String.ofList_toList⟩
    rw [String.toList_intercalate,hblank]
    exact mem_splitOn_intercalate (hblanks server hserver) (List.mem_map_of_mem hserver)

theorem accepted_recording (os : Os ν) (method : NetworkManager) (iface : String)
    (snap : Snapshot) (s : ν × List Effect) :
    DnsAccepted (recording os) method iface snap s ↔ DnsAccepted os method iface snap s.1 := by
  rw [DnsAccepted,DnsAccepted,(Recorded.configureDNS _ _ _ _ _ s).1]

theorem accepted_resolvectl (os : Os ν) (iface : String) (hsome : snap.dnsServers ≠ [])
    (s : ν × List Effect) :
    DnsAccepted os .systemd iface snap s.1 ↔
      ((runCmd (recording os) "resolvectl" ("dns" :: iface :: snap.dnsServers)).exec s).1 = .ok () := by
  have hany : ¬snap.dnsServers.isEmpty = true := by simpa using hsome
  have heq : configureDNS (recording os) .systemd iface snap.connectionName snap.dnsServers [] = (do
      runCmd (recording os) "resolvectl" ("dns" :: iface :: snap.dnsServers)
      pure ()) := if_neg hany
  rw [← accepted_recording,DnsAccepted,if_pos rfl,heq,Go.bind_exec]
  rcases (runCmd (recording os) "resolvectl" ("dns" :: iface :: snap.dnsServers)).exec s with ⟨e | u,t⟩
  · exact Iff.rfl
  · exact Iff.rfl

theorem revertDns_servers (hlines : ∀ server ∈ snap.dnsServers, '\n' ∉ server.toList)
    (hsome : snap.dnsServers ≠ []) (hs : DnsIs r₀ r s) :
    InForce snap (view Resolution.after r₀ ((revertDns (recording os) method iface snap).exec s).2) ↔
      ServersFit method (DnsAccepted os method iface snap s.1) snap r := by
  have hfit : ∀ (accepted : Prop) (r' : Resolution), (accepted → (InForce snap r' ↔
      (method = .networkManager → ∀ server ∈ snap.dnsServers, ' ' ∉ server.toList))) →
      (¬accepted → r'.servers = r.servers) →
      (InForce snap r' ↔ ServersFit method accepted snap r) := by
    intro accepted r' hok herror
    by_cases haccepted : accepted
    · simp only [ServersFit,haccepted,true_implies,not_true,false_implies,and_true]
      exact hok haccepted
    · simp only [ServersFit,haccepted,false_implies,true_and,not_false_eq_true,true_implies]
      rw [InForce,herror haccepted]
  cases method with
  | networkManager =>
    obtain ⟨hok,herror⟩ := ends_networkManager os iface hsome s hs
    have hiff := accepted_recording os .networkManager iface snap s
    refine hfit _ _ (fun haccepted => ?_) fun hrefused => herror fun h => hrefused (hiff.mp h)
    have hset : view Resolution.after r₀ _ = _ := hok (hiff.mpr haccepted)
    rw [hset,inForce_joined]
    simp only [true_implies]
  | systemd =>
    obtain ⟨hok,herror⟩ := resolvectl_state os iface hsome hs
    have hiff := accepted_resolvectl os iface hsome s
    refine hfit _ _ (fun haccepted => ?_) fun hrefused => herror fun h => hrefused (hiff.mpr h)
    have hset : view Resolution.after r₀ _ = _ := hok (hiff.mp haccepted)
    rw [hset]
    exact ⟨fun _ hmethod => (by cases hmethod),fun _ _ hserver => hserver⟩
  | debian =>
    obtain ⟨hok,herror⟩ := ends_resolvConf os iface (.inl rfl) hsome hlines s hs
    have hiff := accepted_recording os .debian iface snap s
    refine hfit _ _ (fun haccepted => ?_) fun hrefused => herror fun h => hrefused (hiff.mp h)
    exact ⟨fun _ hmethod => (by cases hmethod),fun _ => hok (hiff.mpr haccepted)⟩
  | rhel =>
    obtain ⟨hok,herror⟩ := ends_resolvConf os iface (.inr rfl) hsome hlines s hs
    have hiff := accepted_recording os .rhel iface snap s
    refine hfit _ _ (fun haccepted => ?_) fun hrefused => herror fun h => hrefused (hiff.mp h)
    exact ⟨fun _ hmethod => (by cases hmethod),fun _ => hok (hiff.mpr haccepted)⟩

end Servers

section Rollback

variable {ν : Type} {os : QueryOs ν} {snap : Snapshot} {iface : String} {params d : Dict}
  {method : NetworkManager} {host : HostConfig} {r : Resolution} {s t : ν}

/-- What a record of effects leaves of the host and of the servers is what the snapshot has. -/
def RestoredBy (iface : String) (method : NetworkManager) (snap : Snapshot) (dhcp4 dhcp6 : Bool)
    (host : HostConfig) (r : Resolution) (done : List Effect) : Prop :=
  Restored snap dhcp4 dhcp6 ((done.foldl (HostConfig.after iface) host).of method) ∧
    InForce snap (done.foldl Resolution.after r)

/-- What the rollback can restore of the host as it finds it. -/
def CanRestore (os : Os ν) (iface : String) (method : NetworkManager) (snap : Snapshot)
    (dhcp4 dhcp6 : Bool) (host : HostConfig) (r : Resolution) (s : ν) : Prop :=
  AddressesFit method (Managed os iface snap.firstV4 snap.gatewayV4 s) snap dhcp4 dhcp6 host ∧
    ServersFit method
      (DnsAccepted os method iface snap ((revertAddress os method iface snap).exec s).2) snap r

theorem rollbackOS_eq (hsnapshot : params.get? "snapshot" = some (.obj snap.toMap))
    (hgiven : stringField params "interface" ∈ ["",iface]) (hinterface : snap.interface = iface)
    (hiface : iface ≠ "") (os : Os ν) : rollbackOS os params = restoreSnapshot os iface snap.toMap := by
  have hfield : stringField snap.toMap "interface" = iface := hinterface
  have hname : (if stringField params "interface" = "" then stringField snap.toMap "interface"
      else stringField params "interface") = iface := by
    simp only [List.mem_cons,List.not_mem_nil,or_false] at hgiven
    rcases hgiven with hempty | hname
    · rw [if_pos hempty,hfield]
    · rw [hname,if_neg hiface]
  rw [rollbackOS,hsnapshot]
  dsimp only
  rw [hname,if_neg hiface]

/-- The effects of restoring a snapshot, from its two steps. -/
theorem restoreSnapshot_recorded {u : ν × List Effect} (hname : IsField iface)
    (h : Captured iface snap) (hpending : r.pending = none) (dhcp4 dhcp6 : Bool)
    (hrevert : (revertAddress (recording os.toOs) method iface snap).exec (s,[]) = (.ok (),u)) :
    RestoredBy iface method snap dhcp4 dhcp6 host r (if snap.dnsServers = [] then u else
        ((revertDns (recording os.toOs) method iface snap).exec u).2).2 ↔
      CanRestore os.toOs iface method snap dhcp4 dhcp6 host r s := by
  have hstart : HostIs iface host host (s,[]) := rfl
  obtain ⟨host',hhost,haddresses⟩ := revertAddress_host dhcp4 dhcp6 h hname.oneLine hrevert hstart
  have hdns : DnsIs r r u := (keepsDns_applyIPChange hpending method).exec hrevert rfl
  have hstate : ((revertAddress os.toOs method iface snap).exec s).2 = u.1 := by
    have hplain := (Recorded.revertAddress os.toOs method iface snap (s,[])).2
    rw [hrevert] at hplain
    exact hplain.symm
  rw [CanRestore,hstate]
  refine and_congr ?_ ?_
  · have hfinal : HostIs iface host host' (if snap.dnsServers = [] then u else
        ((revertDns (recording os.toOs) method iface snap).exec u).2) := by
      split
      · exact hhost
      · exact keepsHost_configureDNS method _ _ u hhost
    rw [HostIs,view] at hfinal
    rw [hfinal]
    exact haddresses
  · by_cases hnone : snap.dnsServers = []
    · simp [InForce,ServersFit,hnone]
    · rw [if_neg hnone]
      exact revertDns_servers h.dns hnone hdns

/-- Recorded, a rollback that succeeds has restored the snapshot exactly when it can. -/
theorem rollback_recorded (hname : IsField iface) (h : Captured iface snap)
    (hsnapshot : params.get? "snapshot" = some (.obj snap.toMap))
    (hgiven : stringField params "interface" ∈ ["",iface]) (hpending : r.pending = none)
    (hmethod : (detectNetworkManager os.toOs).exec s = (.ok method,s))
    (hrollback : (rollbackOS os.toOs params).exec s = (.ok d,t)) (dhcp4 dhcp6 : Bool) :
    ∃ done, (rollbackOS (recording os.toOs) params).exec (s,[]) = (.ok d,(t,done)) ∧
      (RestoredBy iface method snap dhcp4 dhcp6 host r done ↔
        CanRestore os.toOs iface method snap dhcp4 dhcp6 host r s) := by
  obtain ⟨hresult,hstate⟩ : _ ∧ _ := @Recorded.rollbackOS ν os.toOs params (s,[])
  rcases hrec : (rollbackOS (recording os.toOs) params).exec (s,[]) with ⟨result,t',done⟩
  rw [hrec,hrollback] at hresult hstate
  obtain rfl : result = .ok d := hresult
  obtain rfl : t' = t := hstate
  refine ⟨done,rfl,?_⟩
  rw [rollbackOS_eq hsnapshot hgiven h.interface hname.nonempty] at hrec
  obtain ⟨method',u,hdetect,hrevert,hend⟩ := restoreSnapshot_steps hrec
  obtain rfl : method' = method := by
    have hsame := (Recorded.detects os.toOs (s,[])).1
    rw [hdetect,hmethod] at hsame
    exact Except.ok.inj hsame
  rw [← restoreSnapshot_recorded hname h hpending dhcp4 dhcp6 hrevert,← hend]

/-- After a rollback that succeeds, the configuration that is written for the interface and the
servers are what was captured of it exactly when the back end that is in use can restore that. -/
theorem rollbackOS_restores_iff {before captured : ν} (hname : IsField iface)
    (hcapture : (captureSnapshot os iface).exec before = (.ok snap,captured))
    (hsnapshot : params.get? "snapshot" = some (.obj snap.toMap))
    (hgiven : stringField params "interface" ∈ ["",iface]) (hpending : r.pending = none)
    (hmethod : (detectNetworkManager os.toOs).exec s = (.ok method,s))
    (hrollback : (rollbackOS os.toOs params).exec s = (.ok d,t)) (dhcp4 dhcp6 : Bool)
    (host : HostConfig) :
    ∃ done, (rollbackOS (recording os.toOs) params).exec (s,[]) = (.ok d,(t,done)) ∧
      (RestoredBy iface method snap dhcp4 dhcp6 host r done ↔
        CanRestore os.toOs iface method snap dhcp4 dhcp6 host r s) :=
  rollback_recorded hname (captureSnapshot_captured hcapture) hsnapshot hgiven hpending hmethod
    hrollback dhcp4 dhcp6

/-- A host with `systemd-networkd` that lists the given addresses and takes every command. -/
def networkdHost (listed : String) : QueryOs Unit where
  lookPath _ _ := false
  stat path _ := path = "/etc/systemd/network"
  run _ _ s := (none,s)
  output _ args s := (if args = ["-o","addr","show","eth0"] then listed else "",s)
  readFile _ _ := ""
  writeFile _ _ s := (none,s)
  fails _ _ _ := false

def capturedV4 (addresses : List String) : Snapshot where
  interface := "eth0"
  ipv4Addresses := addresses
  ipv6Addresses := []
  gatewayV4 := ""
  gatewayV6 := ""
  dnsServers := []
  dnsSearchDomains := []
  routes := []
  mtu := 0
  networkManager := "systemd-networkd"
  connectionName := ""

def unconfigured : HostConfig where
  profile := ⟨⟨[],"",true⟩,⟨[],"",true⟩⟩
  network := ⟨[],[],false,false⟩
  stanza := ⟨[],[],false,false⟩
  ifcfg := ⟨[],[],false,false⟩

theorem eth0_isField : IsField "eth0" := ⟨by decide,by simp⟩

def snapshotParams (snap : Snapshot) : Dict := [("snapshot",.obj snap.toMap)]

theorem rollback_runs (listed : String) (addresses : List String) :
    (rollbackOS (networkdHost listed).toOs (snapshotParams (capturedV4 ("10.0.0.5/24" :: addresses)))).exec
      () = (.ok [("rolled_back",.bool true)],()) := by rfl

theorem networkd_canRestore_iff (listed : String) (addresses : List String) :
    CanRestore (networkdHost listed).toOs "eth0" .systemd (capturedV4 ("10.0.0.5/24" :: addresses))
        false false unconfigured ⟨[],none⟩ () ↔
      ∀ a ∈ addresses, linkLocal a = false → a = "10.0.0.5/24" := by
  have hfirst : (capturedV4 ("10.0.0.5/24" :: addresses)).firstV4 = "10.0.0.5/24" := rfl
  have hall : (capturedV4 ("10.0.0.5/24" :: addresses)).addresses = "10.0.0.5/24" :: addresses := by
    simp [Snapshot.addresses,capturedV4]
  have hnone : (capturedV4 ("10.0.0.5/24" :: addresses)).dnsServers = [] := rfl
  have hne : ¬"10.0.0.5/24" = "" := by decide
  simp [CanRestore,AddressesFit,StaticFits,ServersFit,hfirst,hall,hnone,hne]

theorem capture_one : (captureSnapshot (networkdHost "2: eth0 inet 10.0.0.5/24") "eth0").exec () =
    (.ok (capturedV4 ["10.0.0.5/24"]),()) := by
  rfl

theorem networkd_restores_one : ∃ done,
    (rollbackOS (recording (networkdHost "2: eth0 inet 10.0.0.5/24").toOs)
      (snapshotParams (capturedV4 ["10.0.0.5/24"]))).exec ((),[]) =
        (.ok [("rolled_back",.bool true)],((),done)) ∧
      RestoredBy "eth0" .systemd (capturedV4 ["10.0.0.5/24"]) false false unconfigured ⟨[],none⟩
        done := by
  have hpending : (⟨[],none⟩ : Resolution).pending = none := rfl
  obtain ⟨done,hrun,hiff⟩ := rollbackOS_restores_iff eth0_isField capture_one rfl (by decide) hpending rfl
    (rollback_runs _ []) false false unconfigured
  exact ⟨done,hrun,hiff.mpr ((networkd_canRestore_iff _ []).mpr (by simp))⟩

theorem capture_two :
    (captureSnapshot (networkdHost "2: eth0 inet 10.0.0.5/24\n2: eth0 inet 10.0.0.6/24")
      "eth0").exec () = (.ok (capturedV4 ["10.0.0.5/24","10.0.0.6/24"]),()) := by
  rfl

/-- The second address of the interface is gone after its rollback. -/
theorem networkd_loses_second :
    (captureSnapshot (networkdHost "2: eth0 inet 10.0.0.5/24\n2: eth0 inet 10.0.0.6/24")
      "eth0").exec () = (.ok (capturedV4 ["10.0.0.5/24","10.0.0.6/24"]),()) ∧
    ∃ done, (rollbackOS (recording
        (networkdHost "2: eth0 inet 10.0.0.5/24\n2: eth0 inet 10.0.0.6/24").toOs)
      (snapshotParams (capturedV4 ["10.0.0.5/24","10.0.0.6/24"]))).exec ((),[]) =
        (.ok [("rolled_back",.bool true)],((),done)) ∧
      ¬RestoredBy "eth0" .systemd (capturedV4 ["10.0.0.5/24","10.0.0.6/24"]) false false unconfigured
        ⟨[],none⟩ done := by
  refine ⟨capture_two,?_⟩
  have hpending : (⟨[],none⟩ : Resolution).pending = none := rfl
  obtain ⟨done,hrun,hiff⟩ := rollback_recorded eth0_isField (captureSnapshot_captured capture_two)
    rfl (by decide) hpending rfl (rollback_runs _ ["10.0.0.6/24"]) false false
  refine ⟨done,hrun,fun hrestored => ?_⟩
  have hall := (networkd_canRestore_iff _ _).mp (hiff.mp hrestored)
  have hsame := hall "10.0.0.6/24" (by simp) (by decide)
  exact absurd hsame (by decide)

end Rollback

end Nexplane
