import Nexplane.HostEffects
import Nexplane.InterfaceFiles

set_option autoImplicit false

/-! What the rollback of an address change leaves written: the configuration of the interface and
the servers that names are asked from. -/

namespace Nexplane
open PyValue Text Lines

section Hosts

/-- What each of the back ends keeps for an interface: the connection of its name, its file for
`systemd-networkd`, its part of `/etc/network/interfaces` and its `ifcfg` file. -/
structure HostConfig where
  profile : Profile
  network : IfaceConfig
  stanza : IfaceConfig
  ifcfg : IfaceConfig
  deriving DecidableEq, Repr

def networkdPath (iface : String) : String :=
  "/etc/systemd/network/10-nexplane-" ++ iface ++ ".network"

def ifcfgPath (iface : String) : String := "/etc/sysconfig/network-scripts/ifcfg-" ++ iface

/-- The commands of `ip` change the interface as it runs, and nothing that is kept. -/
def HostConfig.after (iface : String) (host : HostConfig) : Effect → HostConfig
  | .ran "nmcli" ("con" :: "mod" :: connection :: properties) =>
    if connection = iface then { host with profile := host.profile.setAll properties } else host
  | .ran _ _ => host
  | .wrote path content =>
    if path = networkdPath iface then { host with network := readNetworkd content }
    else if path = ifcfgPath iface then { host with ifcfg := readIfcfg content }
    else host

def HostConfig.of (host : HostConfig) : NetworkManager → IfaceConfig
  | .networkManager => host.profile.config
  | .systemd => host.network
  | .debian => host.stanza
  | .rhel => host.ifcfg

/-- The servers that are asked, and those that a connection has got and not used yet. -/
structure Resolution where
  servers : List String
  pending : Option String
  deriving DecidableEq, Repr

def nameservers (content : String) : List String :=
  ((content.toList.splitOn '\n').filterMap fun line => line.dropPrefix? "nameserver ".toList).map
    String.ofList

def Resolution.after (r : Resolution) : Effect → Resolution
  | .ran "nmcli" ["con","mod",_,"ipv4.dns",servers] => { r with pending := some servers }
  | .ran "nmcli" ["con","up",_] =>
    match r.pending with
    | some servers => ⟨(servers.toList.splitOn ' ').map String.ofList,none⟩
    | none => r
  | .ran "resolvectl" ("dns" :: _ :: servers) => { r with servers := servers }
  | .ran _ _ => r
  | .wrote path content =>
    if path = "/etc/resolv.conf" then { r with servers := nameservers content } else r

example (host : HostConfig) : host.after "eth0" (.ran "nmcli" ["con","up","eth0"]) = host := by
  simp [HostConfig.after]

example (r : Resolution) : r.after (.ran "resolvectl" ["dns","eth0","9.9.9.9"]) =
    { r with servers := ["9.9.9.9"] } := by simp [Resolution.after]

end Hosts

section Steps

variable {iface name path content : String} {args properties : List String} {host : HostConfig}
  {r : Resolution}

theorem take_append_literal {head rest : String} {n : Nat} (h : n ≤ head.toList.length) :
    (head ++ rest).toList.take n = head.toList.take n := by
  rw [String.toList_append,List.take_append_of_le_length h]

theorem networkdPath_take :
    (networkdPath iface).toList.take 9 = ['/','e','t','c','/','s','y','s','t'] := by
  have hlength : 9 ≤ "/etc/systemd/network/10-nexplane-".toList.length := by simp
  have htake : "/etc/systemd/network/10-nexplane-".toList.take 9 =
      ['/','e','t','c','/','s','y','s','t'] := by simp
  have happend : networkdPath iface =
      "/etc/systemd/network/10-nexplane-" ++ (iface ++ ".network") := String.append_assoc
  exact happend ▸ (take_append_literal hlength).trans htake

theorem ifcfgPath_take :
    (ifcfgPath iface).toList.take 9 = ['/','e','t','c','/','s','y','s','c'] := by
  have hlength : 9 ≤ "/etc/sysconfig/network-scripts/ifcfg-".toList.length := by simp
  have htake : "/etc/sysconfig/network-scripts/ifcfg-".toList.take 9 =
      ['/','e','t','c','/','s','y','s','c'] := by simp
  exact (take_append_literal hlength).trans htake

theorem resolvConf_take :
    "/etc/resolv.conf".toList.take 9 = ['/','e','t','c','/','r','e','s','o'] := by simp

theorem resolvConf_ne_network : "/etc/resolv.conf" ≠ networkdPath iface := by
  intro h
  have htake := @networkdPath_take iface
  rw [← h,resolvConf_take] at htake
  contradiction

theorem resolvConf_ne_ifcfg : "/etc/resolv.conf" ≠ ifcfgPath iface := by
  intro h
  have htake := @ifcfgPath_take iface
  rw [← h,resolvConf_take] at htake
  contradiction

theorem ifcfg_ne_network : ifcfgPath iface ≠ networkdPath iface := by
  intro h
  have htake := @networkdPath_take iface
  rw [← h,ifcfgPath_take] at htake
  contradiction

theorem HostConfig.after_other (h : name ≠ "nmcli") :
    host.after iface (.ran name args) = host := by
  rw [HostConfig.after]
  intro connection properties heq
  exact absurd heq h

theorem HostConfig.after_up (connection : String) :
    host.after iface (.ran "nmcli" ["con","up",connection]) = host := by simp [HostConfig.after]

theorem HostConfig.after_mod : host.after iface (.ran "nmcli" ("con" :: "mod" :: iface :: properties)) =
    { host with profile := host.profile.setAll properties } := by simp [HostConfig.after]

theorem HostConfig.after_dns {property : String} (connection value : String)
    (h : property ∈ ["ipv4.dns","ipv6.dns","ipv4.dns-search"]) :
    host.after iface (.ran "nmcli" ["con","mod",connection,property,value]) = host := by
  have hset : host.profile.setAll [property,value] = host.profile := by
    simp only [List.mem_cons,List.not_mem_nil,or_false] at h
    rcases h with rfl | rfl | rfl <;> simp [Profile.setAll,Profile.set]
  simp [HostConfig.after,hset]

theorem HostConfig.after_resolv :
    host.after iface (.wrote "/etc/resolv.conf" content) = host := by
  simp [HostConfig.after,resolvConf_ne_network,resolvConf_ne_ifcfg]

theorem HostConfig.after_network : host.after iface (.wrote (networkdPath iface) content) =
    { host with network := readNetworkd content } := by simp [HostConfig.after]

theorem HostConfig.after_ifcfg : host.after iface (.wrote (ifcfgPath iface) content) =
    { host with ifcfg := readIfcfg content } := by simp [HostConfig.after,ifcfg_ne_network]

theorem Resolution.after_other (h : name ≠ "nmcli") (h' : name ≠ "resolvectl") :
    r.after (.ran name args) = r := by
  rw [Resolution.after] <;> simp [h,h']

end Steps

section HostViews

variable {ν : Type} {os : Os ν} {iface name conName mode ipVersion : String} {args : List String}
  {params : Dict} {h₀ host : HostConfig} {s t : ν × List Effect}

/-- The record leaves the host configured as `host`. -/
def HostIs (iface : String) (h₀ host : HostConfig) (s : ν × List Effect) : Prop :=
  view (HostConfig.after iface) h₀ s = host

theorem keepsHost_run (h : host.after iface (.ran name args) = host) :
    Go.Keeps (HostIs iface h₀ host) (runCmd (recording os) name args) :=
  keeps_run (P := fun v => v = host) fun _ hv => by rw [hv,h]

theorem keepsHost_other (h : name ≠ "nmcli") :
    Go.Keeps (HostIs iface h₀ host) (runCmd (recording os) name args) :=
  keepsHost_run (HostConfig.after_other h)

theorem keepsHost_up (connection : String) :
    Go.Keeps (HostIs iface h₀ host) (runNmcli (recording os) ["con","up",connection]) :=
  keepsHost_run (HostConfig.after_up connection)

theorem keepsHost_ip : Go.Keeps (HostIs iface h₀ host) (runCmd (recording os) "ip" args) :=
  keepsHost_other (by decide)

theorem keepsHost_nmcliUp (connection : String) :
    Go.Keeps (HostIs iface h₀ host) (nmcliUp (recording os) connection) :=
  .bind (.succeeds (keepsHost_up _)) fun _ => .ite (.pure ()) keepsHost_ip

theorem keepsHost_fallback :
    Go.Keeps (HostIs iface h₀ host) (applyIPAddrFallback (recording os) iface mode params) := by
  refine .bind (keeps_output (P := fun v => v = host) _ _) fun out => .bind (.forM fun addr => ?_) fun _ => ?_
  · exact .bind (.succeeds keepsHost_ip) fun _ => .pure ()
  · exact .ite (.optional keepsHost_ip (.optional (.succeeds keepsHost_ip) keepsHost_ip))
      keepsHost_ip

theorem keepsHost_dns {property value : String} (connection : String)
    (h : property ∈ ["ipv4.dns","ipv6.dns","ipv4.dns-search"]) :
    Go.Keeps (HostIs iface h₀ host)
      (runNmcli (recording os) ["con","mod",connection,property,value]) :=
  keepsHost_run (HostConfig.after_dns connection value h)

theorem keepsHost_configureDNS (method : NetworkManager) (servers searchDomains : List String) :
    Go.Keeps (HostIs iface h₀ host)
      (configureDNS (recording os) method iface conName servers searchDomains) := by
  have hresolv : ∀ content, Go.Keeps (HostIs iface h₀ host)
      (writeFile (recording os) "/etc/resolv.conf" content) := fun content =>
    keeps_write (P := fun v => v = host) fun _ hv => by rw [hv,HostConfig.after_resolv]
  have hresolvectl : ∀ args, Go.Keeps (HostIs iface h₀ host)
      (runCmd (recording os) "resolvectl" args) := fun _ => keepsHost_other (by decide)
  refine .ite (.pure ()) ?_
  cases method with
  | networkManager =>
    exact .bind (keepsHost_dns _ (by simp)) fun _ => .bind (keepsHost_dns _ (by simp)) fun _ =>
      .optional (keepsHost_dns _ (by simp)) (keepsHost_up _)
  | systemd => exact .bind (hresolvectl _) fun _ => .ite (hresolvectl _) (.pure ())
  | debian => exact .bind .ask fun _ => hresolv _
  | rhel => exact .bind .ask fun _ => hresolv _

theorem keepsHost_debian :
    Go.Keeps (HostIs iface h₀ host) (applyDebianInterfaces (recording os) iface mode ipVersion params) :=
  have hup : Go.Keeps (HostIs iface h₀ host) (runCmd (recording os) "ifup" [iface]) :=
    keepsHost_other (by decide)
  .bind (.succeeds (keepsHost_other (by decide))) fun _ =>
    .ite hup (.optional keepsHost_ip (.optional keepsHost_ip hup))

end HostViews

section Applied

variable {ν : Type} {os : Os ν} {iface v4 v6 gw4 gw6 : String} {h₀ host : HostConfig}
  {s t : ν × List Effect}

/-- The parameters that the rollback makes of the snapshot. -/
def rollbackParams (iface mode v4 v6 gw4 gw6 : String) : Dict :=
  [("interface",.str iface),("mode",.str mode),("ip_version",.str "both"),
    ("new_ip_v4",.str v4),("new_ip_v6",.str v6),("new_gateway_v4",.str gw4),
    ("new_gateway_v6",.str gw6)]

section Params

variable {mode : String}

end Params

theorem HostIs.write {path content : String}
    (h : (writeFile (recording os) path content).exec s = (.ok (),t)) (hs : HostIs iface h₀ host s) :
    HostIs iface h₀ (host.after iface (.wrote path content)) t := by
  rw [HostIs,(write_view h).1,hs]

theorem HostIs.run {name : String} {args : List String}
    (h : (runCmd (recording os) name args).exec s = (.ok (),t)) (hs : HostIs iface h₀ host s) :
    HostIs iface h₀ (host.after iface (.ran name args)) t := by
  rw [HostIs,(command_view h).1,hs]

theorem not_dhcp : ¬("static" = "dhcp") := by decide

theorem both_v4 : forV4 "both" = true := by decide

theorem both_v6 : forV6 "both" = true := by decide

/-- The file that is written for `systemd-networkd`. -/
def networkdText (iface mode v4 gw : String) : String :=
  "[Match]\nName=" ++ iface ++ "\n\n[Network]\n" ++
    if mode = "dhcp" then "DHCP=ipv4\n" ++ "DHCP=ipv6\n"
    else if v4 = "" then ""
    else "\n[Address]\nAddress=" ++ v4 ++ "\n" ++
      if gw = "" then "" else "\n[Route]\nGateway=" ++ gw ++ "\n"

theorem applySystemd_eq (mode : String) : applySystemdNetworkd os iface mode "both"
    (rollbackParams iface mode v4 v6 gw4 gw6) = (do
      writeFile os (networkdPath iface) (networkdText iface mode v4 gw4)
      runCmd os "networkctl" ["reload"]) := rfl

theorem applySystemd_host {mode : String}
    (h : (applySystemdNetworkd (recording os) iface mode "both"
      (rollbackParams iface mode v4 v6 gw4 gw6)).exec s = (.ok (),t))
    (hs : HostIs iface h₀ host s) :
    HostIs iface h₀ { host with network := readNetworkd (networkdText iface mode v4 gw4) } t := by
  rw [applySystemd_eq] at h
  obtain ⟨_,t₁,hwrite,h⟩ := Go.bind_eq_ok.mp h
  have hwritten := hs.write hwrite
  rw [HostConfig.after_network] at hwritten
  exact (keepsHost_other (by decide)).exec h hwritten

theorem networkdText_static (hne : v4 ≠ "") (hiface : '\n' ∉ iface.toList)
    (hv4 : '\n' ∉ v4.toList) (hgw : '\n' ∉ gw4.toList) :
    readNetworkd (networkdText iface "static" v4 gw4) =
      ⟨[v4],[gw4].filter (· ≠ ""),false,false⟩ := by
  delta networkdText
  rw [if_neg not_dhcp,if_neg hne]
  exact readNetworkd_static hiface hv4 hgw

theorem networkdText_dhcp (hiface : '\n' ∉ iface.toList) :
    readNetworkd (networkdText iface "dhcp" v4 gw4) = ⟨[],[],false,true⟩ := by
  delta networkdText
  rw [if_pos rfl]
  exact readNetworkd_dhcp hiface

/-- The `ifcfg` file that is written. -/
def ifcfgText (iface mode v4 gw v6 : String) : String :=
  "DEVICE=" ++ iface ++ "\nONBOOT=yes\n" ++
    if mode = "dhcp" then "BOOTPROTO=dhcp\n"
    else "BOOTPROTO=static\n" ++
      (if v4 ≠ "" && forV4 "both" then ifcfgAddress "IPADDR" "PREFIX" v4 else "") ++
      (if gw ≠ "" then "GATEWAY=" ++ gw ++ "\n" else "") ++
      if v6 ≠ "" && forV6 "both" then
        ifcfgAddress "IPV6ADDR" "IPV6PREFIX" v6 ++ "IPV6INIT=yes\n"
      else ""

theorem applyRHEL_eq (mode : String) : applyRHELIfcfg os iface mode "both"
    (rollbackParams iface mode v4 v6 gw4 gw6) = (do
      writeFile os (ifcfgPath iface) (ifcfgText iface mode v4 gw4 v6)
      let _ ← Go.succeeds (runCmd os "ifdown" [iface])
      runCmd os "ifup" [iface]) := rfl

theorem applyRHEL_host {mode : String}
    (h : (applyRHELIfcfg (recording os) iface mode "both"
      (rollbackParams iface mode v4 v6 gw4 gw6)).exec s = (.ok (),t))
    (hs : HostIs iface h₀ host s) :
    HostIs iface h₀ { host with ifcfg := readIfcfg (ifcfgText iface mode v4 gw4 v6) } t := by
  rw [applyRHEL_eq] at h
  obtain ⟨_,t₁,hwrite,h⟩ := Go.bind_eq_ok.mp h
  have hwritten := hs.write hwrite
  rw [HostConfig.after_ifcfg] at hwritten
  obtain ⟨_,t₂,hdown,h⟩ := Go.bind_eq_ok.mp h
  have hdone := (Go.Keeps.succeeds (keepsHost_other (by decide))).exec hdown hwritten
  exact (keepsHost_other (by decide)).exec h hdone

theorem ifcfgText_static (hne : v4 ≠ "") (hiface : '\n' ∉ iface.toList) (hv4 : '\n' ∉ v4.toList)
    (hgw : '\n' ∉ gw4.toList) (hv6 : '\n' ∉ v6.toList) :
    readIfcfg (ifcfgText iface "static" v4 gw4 v6) =
      ⟨v4 :: [v6].filter (· ≠ ""),[gw4].filter (· ≠ ""),false,false⟩ := by
  rw [ifcfgText,if_neg not_dhcp,both_v4,both_v6,← readIfcfg_static hiface hv4 hgw hv6]
  simp only [Bool.and_true,decide_eq_true_eq,ite_not,if_neg hne]

theorem ifcfgText_dhcp (hiface : '\n' ∉ iface.toList) :
    readIfcfg (ifcfgText iface "dhcp" v4 gw4 v6) = ⟨[],[],true,false⟩ := by
  rw [ifcfgText,if_pos rfl]
  exact readIfcfg_dhcp hiface

/-- A family as `nmcli con mod` leaves it with a static address. -/
def FamilySettings.static (f : FamilySettings) (address gateway : String) : FamilySettings :=
  ⟨[address],if gateway = "" then f.gateway else gateway,false⟩

theorem nmcliStatic_v4 (h : (nmcliStatic (recording os) iface "ipv4" v4 gw4).exec s = (.ok (),t))
    (hs : HostIs iface h₀ host s) :
    HostIs iface h₀ { host with
      profile := { host.profile with v4 := host.profile.v4.static v4 gw4 } } t := by
  have hdone := hs.run h
  have hargs : (["con","mod",iface,"ipv4" ++ ".method","manual","ipv4" ++ ".addresses",v4] ++
      if gw4 = "" then [] else ["ipv4" ++ ".gateway",gw4]) =
      "con" :: "mod" :: iface :: ("ipv4.method" :: "manual" :: "ipv4.addresses" :: v4 ::
        if gw4 = "" then [] else ["ipv4.gateway",gw4]) := by
    have hmethod : "ipv4" ++ ".method" = "ipv4.method" := by decide
    have haddresses : "ipv4" ++ ".addresses" = "ipv4.addresses" := by decide
    have hgateway : "ipv4" ++ ".gateway" = "ipv4.gateway" := by decide
    rw [hmethod,haddresses,hgateway]
    rfl
  rw [hargs,HostConfig.after_mod] at hdone
  have hset : host.profile.setAll ("ipv4.method" :: "manual" :: "ipv4.addresses" :: v4 ::
      if gw4 = "" then [] else ["ipv4.gateway",gw4]) =
      { host.profile with v4 := host.profile.v4.static v4 gw4 } := by
    split
    · next hempty => simp [Profile.setAll,Profile.set,FamilySettings.static,hempty]
    · next hne => simp [Profile.setAll,Profile.set,FamilySettings.static,hne]
  rwa [hset] at hdone

theorem nmcliStatic_v6 (h : (nmcliStatic (recording os) iface "ipv6" v6 gw6).exec s = (.ok (),t))
    (hs : HostIs iface h₀ host s) :
    HostIs iface h₀ { host with
      profile := { host.profile with v6 := host.profile.v6.static v6 gw6 } } t := by
  have hdone := hs.run h
  have hargs : (["con","mod",iface,"ipv6" ++ ".method","manual","ipv6" ++ ".addresses",v6] ++
      if gw6 = "" then [] else ["ipv6" ++ ".gateway",gw6]) =
      "con" :: "mod" :: iface :: ("ipv6.method" :: "manual" :: "ipv6.addresses" :: v6 ::
        if gw6 = "" then [] else ["ipv6.gateway",gw6]) := by
    have hmethod : "ipv6" ++ ".method" = "ipv6.method" := by decide
    have haddresses : "ipv6" ++ ".addresses" = "ipv6.addresses" := by decide
    have hgateway : "ipv6" ++ ".gateway" = "ipv6.gateway" := by decide
    rw [hmethod,haddresses,hgateway]
    rfl
  rw [hargs,HostConfig.after_mod] at hdone
  have hset : host.profile.setAll ("ipv6.method" :: "manual" :: "ipv6.addresses" :: v6 ::
      if gw6 = "" then [] else ["ipv6.gateway",gw6]) =
      { host.profile with v6 := host.profile.v6.static v6 gw6 } := by
    split
    · next hempty => simp [Profile.setAll,Profile.set,FamilySettings.static,hempty]
    · next hne => simp [Profile.setAll,Profile.set,FamilySettings.static,hne]
  rwa [hset] at hdone

/-- The connection when both families get their addresses automatically. -/
def Profile.automatic (p : Profile) : Profile where
  v4 := { p.v4 with automatic := true }
  v6 := { p.v6 with automatic := true }

/-- The connection when the rollback could set an address, and a second one if there is any. -/
def Profile.static (p : Profile) (v4 gw4 v6 gw6 : String) : Profile where
  v4 := p.v4.static v4 gw4
  v6 := if v6 = "" then p.v6 else p.v6.static v6 gw6

theorem applyNmcli_dhcp
    (h : (applyNmcli (recording os) iface "dhcp" "both"
      (rollbackParams iface "dhcp" v4 v6 gw4 gw6)).exec s = (.ok (),t))
    (hs : HostIs iface h₀ host s) :
    HostIs iface h₀ { host with profile := host.profile.automatic } t := by
  have heq : applyNmcli (recording os) iface "dhcp" "both"
      (rollbackParams iface "dhcp" v4 v6 gw4 gw6) = (do
        runNmcli (recording os) ["con","mod",iface,"ipv4.method","auto"]
        runNmcli (recording os) ["con","mod",iface,"ipv6.method","auto"]
        nmcliUp (recording os) iface) := rfl
  rw [heq] at h
  obtain ⟨_,t₁,h4,h⟩ := Go.bind_eq_ok.mp h
  obtain ⟨_,t₂,h6,h⟩ := Go.bind_eq_ok.mp h
  have hdone4 := hs.run h4
  rw [HostConfig.after_mod] at hdone4
  have hdone6 := hdone4.run h6
  rw [HostConfig.after_mod] at hdone6
  have hset : (host.profile.setAll ["ipv4.method","auto"]).setAll ["ipv6.method","auto"] =
      host.profile.automatic := by
    simp [Profile.setAll,Profile.set,Profile.automatic]
  rw [hset] at hdone6
  exact (keepsHost_nmcliUp iface).exec h hdone6

/-- NetworkManager has a connection of the interface's name and accepts the address for it. -/
def Managed {ν : Type} (os : Os ν) (iface v4 gw4 : String) (s : ν) : Prop :=
  ((nmcliStatic os iface "ipv4" v4 gw4).exec s).1 = .ok ()

/-- What follows the first address, which may have been refused. -/
def nmcliRest {ν : Type} (os : Os ν) (iface v4 v6 gw4 gw6 : String) (managed : Bool) : Go ν Unit :=
  if !managed then
    applyIPAddrFallback os iface "static" (rollbackParams iface "static" v4 v6 gw4 gw6)
  else do
    if v6 ≠ "" then nmcliStatic os iface "ipv6" v6 gw6
    nmcliUp os iface

theorem applyNmcli_static_eq (hne : v4 ≠ "") : applyNmcli os iface "static" "both"
    (rollbackParams iface "static" v4 v6 gw4 gw6) =
      Go.succeeds (nmcliStatic os iface "ipv4" v4 gw4) >>= nmcliRest os iface v4 v6 gw4 gw6 := by
  have hstatic : applyNmcli os iface "static" "both"
      (rollbackParams iface "static" v4 v6 gw4 gw6) = if v4 = "" then
        (pure true >>= nmcliRest os iface v4 v6 gw4 gw6) else
        Go.succeeds (nmcliStatic os iface "ipv4" v4 gw4) >>= nmcliRest os iface v4 v6 gw4 gw6 :=
    if_neg not_dhcp
  rw [hstatic,if_neg hne]

theorem nmcliRest_managed
    (h : (nmcliRest (recording os) iface v4 v6 gw4 gw6 true).exec s = (.ok (),t))
    (hs : HostIs iface h₀ host s) :
    HostIs iface h₀ { host with profile := { host.profile with
      v6 := if v6 = "" then host.profile.v6 else host.profile.v6.static v6 gw6 } } t := by
  have heq : nmcliRest (recording os) iface v4 v6 gw4 gw6 true = if v6 ≠ "" then
      (nmcliStatic (recording os) iface "ipv6" v6 gw6 >>= fun _ => nmcliUp (recording os) iface)
      else nmcliUp (recording os) iface := rfl
  rw [heq] at h
  by_cases hempty : v6 = ""
  · rw [if_neg (not_not.mpr hempty)] at h
    rw [if_pos hempty]
    exact (keepsHost_nmcliUp iface).exec h hs
  · rw [if_pos hempty] at h
    obtain ⟨_,t₁,h6,h⟩ := Go.bind_eq_ok.mp h
    rw [if_neg hempty]
    exact (keepsHost_nmcliUp iface).exec h (nmcliStatic_v6 h6 hs)

theorem applyNmcli_static (hne : v4 ≠ "")
    (h : (applyNmcli (recording os) iface "static" "both"
      (rollbackParams iface "static" v4 v6 gw4 gw6)).exec s = (.ok (),t))
    (hs : HostIs iface h₀ host s) :
    (Managed os iface v4 gw4 s.1 →
        HostIs iface h₀ { host with profile := host.profile.static v4 gw4 v6 gw6 } t) ∧
      (¬Managed os iface v4 gw4 s.1 → HostIs iface h₀ host t) := by
  rw [applyNmcli_static_eq hne] at h
  obtain ⟨managed,t₁,hfirst,h⟩ := Go.bind_eq_ok.mp h
  rw [Go.succeeds_exec] at hfirst
  obtain ⟨hmanaged,rfl⟩ := Prod.mk.inj hfirst
  obtain rfl := Except.ok.inj hmanaged
  have hplain : ((nmcliStatic (recording os) iface "ipv4" v4 gw4).exec s).1 =
      ((nmcliStatic os iface "ipv4" v4 gw4).exec s.1).1 := (Recorded.nmcli _ s).1
  rcases hexec : (nmcliStatic (recording os) iface "ipv4" v4 gw4).exec s with ⟨e | u,t₁⟩
  · rw [hexec] at hplain h
    have hrefused : ¬Managed os iface v4 gw4 s.1 := by
      rw [Managed,← hplain]
      intro hok
      cases hok
    refine ⟨fun hok => absurd hok hrefused,fun _ => ?_⟩
    have hkept : HostIs iface h₀ host t₁ := by rw [HostIs,command_refused hexec,hs]
    exact keepsHost_fallback.exec h hkept
  · rw [hexec] at hplain h
    have haccepted : Managed os iface v4 gw4 s.1 := hplain.symm
    refine ⟨fun _ => ?_,fun hnot => absurd haccepted hnot⟩
    exact nmcliRest_managed h (nmcliStatic_v4 hexec hs)

end Applied

section DnsViews

variable {ν : Type} {os : Os ν} {iface name conName v4 v6 gw4 gw6 mode : String}
  {args servers searchDomains : List String} {params : Dict} {r₀ r : Resolution}
  {s t : ν × List Effect}

/-- The record leaves the names asked from where `r` says. -/
def DnsIs (r₀ r : Resolution) (s : ν × List Effect) : Prop := view Resolution.after r₀ s = r

theorem keepsDns_run (h : r.after (.ran name args) = r) :
    Go.Keeps (DnsIs r₀ r) (runCmd (recording os) name args) :=
  keeps_run (P := fun v => v = r) fun _ hv => by rw [hv,h]

theorem keepsDns_other (h : name ≠ "nmcli") (h' : name ≠ "resolvectl") :
    Go.Keeps (DnsIs r₀ r) (runCmd (recording os) name args) :=
  keepsDns_run (Resolution.after_other h h')

theorem keepsDns_ip : Go.Keeps (DnsIs r₀ r) (runCmd (recording os) "ip" args) :=
  keepsDns_other (by decide) (by decide)

theorem keepsDns_write {path content : String} (h : path ≠ "/etc/resolv.conf") :
    Go.Keeps (DnsIs r₀ r) (writeFile (recording os) path content) :=
  keeps_write (P := fun v => v = r) fun _ hv => by rw [hv,Resolution.after,if_neg h]

/-- A connection that has got no servers since is brought up with the ones it has. -/
theorem keepsDns_up (h : r.pending = none) (connection : String) :
    Go.Keeps (DnsIs r₀ r) (runNmcli (recording os) ["con","up",connection]) :=
  keepsDns_run (by simp [Resolution.after,h])

theorem keepsDns_nmcliUp (h : r.pending = none) (connection : String) :
    Go.Keeps (DnsIs r₀ r) (nmcliUp (recording os) connection) :=
  .bind (.succeeds (keepsDns_up h _)) fun _ => .ite (.pure ()) keepsDns_ip

theorem keepsDns_method (connection property : String) (h : property ≠ "ipv4.dns") (value : String) :
    Go.Keeps (DnsIs r₀ r) (runNmcli (recording os) ["con","mod",connection,property,value]) :=
  keepsDns_run (by simp [Resolution.after,h])

theorem keepsDns_static (family address gateway : String) :
    Go.Keeps (DnsIs r₀ r) (nmcliStatic (recording os) iface family address gateway) :=
  keepsDns_run (by simp [Resolution.after])

theorem keepsDns_fallback :
    Go.Keeps (DnsIs r₀ r) (applyIPAddrFallback (recording os) iface mode params) := by
  refine .bind (keeps_output (P := fun v => v = r) _ _) fun out =>
    .bind (.forM fun addr => ?_) fun _ => ?_
  · exact .bind (.succeeds keepsDns_ip) fun _ => .pure ()
  · exact .ite (.optional keepsDns_ip (.optional (.succeeds keepsDns_ip) keepsDns_ip))
      keepsDns_ip

theorem keepsDns_applyNmcli (h : r.pending = none) :
    Go.Keeps (DnsIs r₀ r) (applyNmcli (recording os) iface mode "both" params) := by
  refine .ite ?_ ?_
  · exact .optional (keepsDns_method _ _ (by decide) _)
      (.optional (keepsDns_method _ _ (by decide) _) (keepsDns_nmcliUp h iface))
  · refine .ite (.bind (.pure true) fun managed => ?_)
      (.bind (.succeeds (keepsDns_static _ _ _)) fun managed => ?_)
    · exact .ite keepsDns_fallback (.optional (keepsDns_static _ _ _) (keepsDns_nmcliUp h iface))
    · exact .ite keepsDns_fallback (.optional (keepsDns_static _ _ _) (keepsDns_nmcliUp h iface))

/-- A change of the address leaves alone where names are asked from. -/
theorem keepsDns_applyIPChange (h : r.pending = none) (method : NetworkManager) :
    Go.Keeps (DnsIs r₀ r) (applyIPChange (recording os) method iface mode "both"
      (rollbackParams iface mode v4 v6 gw4 gw6)) := by
  have hifup : Go.Keeps (DnsIs r₀ r) (runCmd (recording os) "ifup" [iface]) :=
    keepsDns_other (by decide) (by decide)
  have hifdown : Go.Keeps (DnsIs r₀ r) (runCmd (recording os) "ifdown" [iface]) :=
    keepsDns_other (by decide) (by decide)
  cases method with
  | networkManager => exact keepsDns_applyNmcli h
  | systemd =>
    refine .bind (keepsDns_write ?_) fun _ => keepsDns_other (by decide) (by decide)
    exact Ne.symm resolvConf_ne_network
  | debian =>
    exact .bind (.succeeds hifdown) fun _ =>
      .ite hifup (.optional keepsDns_ip (.optional keepsDns_ip hifup))
  | rhel =>
    refine .bind (keepsDns_write ?_) fun _ => .bind (.succeeds hifdown) fun _ => hifup
    exact Ne.symm resolvConf_ne_ifcfg

end DnsViews

end Nexplane
