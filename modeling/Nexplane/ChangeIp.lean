import Nexplane.Lib.PyValue

set_option autoImplicit false

/-! The agent's `change_ip` on Linux: the captured snapshot, the commands that change an address
and the rollback. -/

namespace Nexplane
open PyValue

/-- A Go function that may return an error, with the host it runs on. -/
abbrev Go (ν α : Type) : Type := ExceptT String (StateM ν) α

/-- What the agent asks of the host. A failed command or write answers with its error text. -/
structure Os (ν : Type) where
  lookPath : String → ν → Bool
  stat : String → ν → Bool
  run : String → List String → ν → Option String × ν
  output : String → List String → ν → String × ν
  readFile : String → ν → String
  writeFile : String → String → ν → Option String × ν

section Commands
variable {ν : Type} (os : Os ν)

/-- `if err != nil { return err }` on the answer of a command. -/
def Go.check (call : ν → Option String × ν) : Go ν Unit :=
  ExceptT.mk fun s =>
    match call s with
    | (none,s') => (.ok (),s')
    | (some error,s') => (.error error,s')

/-- `err == nil`, with the error dropped. -/
def Go.succeeds (x : Go ν Unit) : Go ν Bool :=
  ExceptT.mk fun s =>
    match x.run s with
    | (.ok (),s') => (.ok true,s')
    | (.error _,s') => (.ok false,s')

def Go.ask {α : Type} (f : ν → α) : Go ν α := ExceptT.mk fun s => (.ok (f s),s)

def Go.call {α : Type} (f : ν → α × ν) : Go ν α := ExceptT.mk fun s => (.ok (f s).1,(f s).2)

def runCmd (name : String) (args : List String) : Go ν Unit := Go.check (os.run name args)

def runNmcli (args : List String) : Go ν Unit := Go.check (os.run "nmcli" args)

def writeFile (path content : String) : Go ν Unit := Go.check (os.writeFile path content)

/-- `v, _ := params[key].(string)`. -/
def stringField (params : Dict) (key : String) : String :=
  match params.get? key with
  | some (.str v) => v
  | _ => ""

inductive NetworkManager where
  | networkManager
  | systemd
  | debian
  | rhel
  deriving DecidableEq, Repr

def detectNetworkManager : Go ν NetworkManager :=
  Go.ask fun s =>
    if os.lookPath "nmcli" s then .networkManager
    else if os.stat "/etc/systemd/network" s then .systemd
    else if os.stat "/etc/network/interfaces" s then .debian
    else .rhel

def forV4 (ipVersion : String) : Bool := ipVersion = "4" || ipVersion = "both"

def forV6 (ipVersion : String) : Bool := ipVersion = "6" || ipVersion = "both"

/-- `strings.Fields`. -/
def stringFields (line : String) : List String :=
  ((line.toList.splitOnP Char.isWhitespace).filter (! ·.isEmpty)).map String.ofList

/-- The addresses `ip -o -4 addr show` lists. -/
def listedAddresses (out : String) : List String :=
  (out.splitOn "\n").filterMap fun line => (stringFields line)[3]?

def applyIPAddrFallback (iface mode : String) (params : Dict) : Go ν Unit := do
  let addrOut ← Go.call (os.output "ip" ["-o","-4","addr","show",iface])
  (listedAddresses addrOut).forM fun addr => do
    let _ ← Go.succeeds (runCmd os "ip" ["addr","del",addr,"dev",iface])
  if mode = "static" then
    let v4 := stringField params "new_ip_v4"
    let gw := stringField params "new_gateway_v4"
    if v4 ≠ "" then runCmd os "ip" ["addr","add",v4,"dev",iface]
    if gw ≠ "" then
      let _ ← Go.succeeds (runCmd os "ip" ["route","replace","default","via",gw,"dev",iface])
  runCmd os "ip" ["link","set",iface,"up"]

def nmcliUp (iface : String) : Go ν Unit := do
  if ← Go.succeeds (runNmcli os ["con","up",iface]) then pure ()
  else runCmd os "ip" ["link","set",iface,"up"]

/-- One address family of `nmcli con mod`. -/
def nmcliStatic (iface family address gateway : String) : Go ν Unit :=
  runNmcli os (["con","mod",iface,family ++ ".method","manual",family ++ ".addresses",address] ++
    if gateway = "" then [] else [family ++ ".gateway",gateway])

def applyNmcli (iface mode ipVersion : String) (params : Dict) : Go ν Unit := do
  if mode = "dhcp" then
    if forV4 ipVersion then runNmcli os ["con","mod",iface,"ipv4.method","auto"]
    if forV6 ipVersion then runNmcli os ["con","mod",iface,"ipv6.method","auto"]
    nmcliUp os iface
  else
    let v4 := stringField params "new_ip_v4"
    let v6 := stringField params "new_ip_v6"
    let managed ← if v4 = "" then pure true
      else Go.succeeds (nmcliStatic os iface "ipv4" v4 (stringField params "new_gateway_v4"))
    -- an interface NetworkManager does not manage
    if !managed then applyIPAddrFallback os iface mode params
    else
      if v6 ≠ "" then nmcliStatic os iface "ipv6" v6 (stringField params "new_gateway_v6")
      nmcliUp os iface

def applySystemdNetworkd (iface mode ipVersion : String) (params : Dict) : Go ν Unit := do
  let v4 := stringField params "new_ip_v4"
  let gw := stringField params "new_gateway_v4"
  let body :=
    if mode = "dhcp" then
      (if forV4 ipVersion then "DHCP=ipv4\n" else "") ++
        if forV6 ipVersion then "DHCP=ipv6\n" else ""
    else if v4 = "" then ""
    else "\n[Address]\nAddress=" ++ v4 ++ "\n" ++
      if gw = "" then "" else "\n[Route]\nGateway=" ++ gw ++ "\n"
  writeFile os ("/etc/systemd/network/10-nexplane-" ++ iface ++ ".network")
    ("[Match]\nName=" ++ iface ++ "\n\n[Network]\n" ++ body)
  runCmd os "networkctl" ["reload"]

def applyDebianInterfaces (iface mode ipVersion : String) (params : Dict) : Go ν Unit := do
  let _ ← Go.succeeds (runCmd os "ifdown" [iface])
  if mode = "dhcp" then runCmd os "ifup" [iface]
  else
    let v4 := stringField params "new_ip_v4"
    let v6 := stringField params "new_ip_v6"
    if v4 ≠ "" && forV4 ipVersion then runCmd os "ip" ["addr","add",v4,"dev",iface]
    if v6 ≠ "" && forV6 ipVersion then runCmd os "ip" ["-6","addr","add",v6,"dev",iface]
    runCmd os "ifup" [iface]

/-- The address and the prefix line of an `ifcfg` file. -/
def ifcfgAddress (addressKey prefixKey cidr : String) : String :=
  match cidr.splitOn "/" with
  | [] => addressKey ++ "=\n"
  | [address] => addressKey ++ "=" ++ address ++ "\n"
  | address :: rest =>
    addressKey ++ "=" ++ address ++ "\n" ++ prefixKey ++ "=" ++ "/".intercalate rest ++ "\n"

def applyRHELIfcfg (iface mode ipVersion : String) (params : Dict) : Go ν Unit := do
  let v4 := stringField params "new_ip_v4"
  let v6 := stringField params "new_ip_v6"
  let gw := stringField params "new_gateway_v4"
  let body :=
    if mode = "dhcp" then "BOOTPROTO=dhcp\n"
    else "BOOTPROTO=static\n" ++
      (if v4 ≠ "" && forV4 ipVersion then ifcfgAddress "IPADDR" "PREFIX" v4 else "") ++
      (if gw ≠ "" then "GATEWAY=" ++ gw ++ "\n" else "") ++
      if v6 ≠ "" && forV6 ipVersion then
        ifcfgAddress "IPV6ADDR" "IPV6PREFIX" v6 ++ "IPV6INIT=yes\n"
      else ""
  writeFile os ("/etc/sysconfig/network-scripts/ifcfg-" ++ iface)
    ("DEVICE=" ++ iface ++ "\nONBOOT=yes\n" ++ body)
  let _ ← Go.succeeds (runCmd os "ifdown" [iface])
  runCmd os "ifup" [iface]

def applyIPChange (method : NetworkManager) (iface mode ipVersion : String) (params : Dict) :
    Go ν Unit :=
  match method with
  | .networkManager => applyNmcli os iface mode ipVersion params
  | .systemd => applySystemdNetworkd os iface mode ipVersion params
  | .debian => applyDebianInterfaces os iface mode ipVersion params
  | .rhel => applyRHELIfcfg os iface mode ipVersion params

/-- The lines of `/etc/resolv.conf` that stay. -/
def keptResolvLines (content : String) : List String :=
  (content.splitOn "\n").filter fun line =>
    !(line.trimAscii.toString.startsWith "nameserver") && !(line.trimAscii.toString.startsWith "search")

def configureDNS (method : NetworkManager) (iface conName : String)
    (servers searchDomains : List String) : Go ν Unit := do
  if servers.isEmpty then pure ()
  else
    match method with
    | .networkManager =>
      let con := if conName = "" then iface else conName
      let dnsVal := " ".intercalate servers
      runNmcli os ["con","mod",con,"ipv4.dns",dnsVal]
      runNmcli os ["con","mod",con,"ipv6.dns",dnsVal]
      if !searchDomains.isEmpty then
        runNmcli os ["con","mod",con,"ipv4.dns-search"," ".intercalate searchDomains]
      runNmcli os ["con","up",con]
    | .systemd =>
      runCmd os "resolvectl" (["dns",iface] ++ servers)
      if !searchDomains.isEmpty then
        runCmd os "resolvectl" (["domain",iface] ++ searchDomains)
    | _ =>
      let kept ← Go.ask fun s => keptResolvLines (os.readFile "/etc/resolv.conf" s)
      let search := if searchDomains.isEmpty then [] else
        ["search " ++ " ".intercalate searchDomains]
      writeFile os "/etc/resolv.conf"
        ("\n".intercalate (kept ++ servers.map ("nameserver " ++ ·) ++ search) ++ "\n")

end Commands

structure RouteEntry where
  dst : String
  gw : String
  dev : String

/-- What `captureSnapshot` keeps of an interface. -/
structure Snapshot where
  interface : String
  ipv4Addresses : List String
  ipv6Addresses : List String
  gatewayV4 : String
  gatewayV6 : String
  dnsServers : List String
  dnsSearchDomains : List String
  routes : List RouteEntry
  mtu : Int
  networkManager : String
  connectionName : String

/-- A slice that was only ever appended to encodes as null when nothing was. -/
def jsonSlice (items : List Json) : Json := if items.isEmpty then .null else .arr items

def RouteEntry.toJson (r : RouteEntry) : Json :=
  .obj [("dst",.str r.dst),("gw",.str r.gw),("dev",.str r.dev)]

/-- `snapMap`: the snapshot encoded and decoded again, in memory and in the file alike. -/
def Snapshot.toMap (snap : Snapshot) : Dict :=
  [("interface",.str snap.interface),
    ("ip_v4_addresses",jsonSlice (snap.ipv4Addresses.map .str)),
    ("ip_v6_addresses",jsonSlice (snap.ipv6Addresses.map .str)),
    ("gateway_v4",.str snap.gatewayV4),
    ("gateway_v6",.str snap.gatewayV6),
    ("dns_servers",jsonSlice (snap.dnsServers.map .str)),
    ("dns_search_domains",jsonSlice (snap.dnsSearchDomains.map .str)),
    ("routes",jsonSlice (snap.routes.map RouteEntry.toJson)),
    ("mtu",.int snap.mtu),
    ("network_manager",.str snap.networkManager),
    ("connection_name",.str snap.connectionName)]

/-- The strings of `v.([]any)`. -/
def stringItems : Option Json → List String
  | some (.arr items) => items.filterMap fun item =>
    match item with
    | .str v => some v
    | _ => none
  | _ => []

/-- The first element of `v.([]any)`, when it is a string. -/
def firstString : Option Json → String
  | some (.arr (.str v :: _)) => v
  | _ => ""

/-- `v.([]any)` succeeds with an element in it. -/
def hasItems : Option Json → Bool
  | some (.arr (_ :: _)) => true
  | _ => false

section Rollback
variable {ν : Type} (os : Os ν)

/-- `rollbackOS` once its snapshot and its interface are known. -/
def restoreSnapshot (iface : String) (snapshot : Dict) : Go ν Dict := do
  let method ← detectNetworkManager os
  let ipv4 := firstString (Dict.get? snapshot "ip_v4_addresses")
  let ipv6 := firstString (Dict.get? snapshot "ip_v6_addresses")
  let rollMode := if ipv4 = "" then "dhcp" else "static"
  applyIPChange os method iface rollMode "both"
    [("interface",.str iface),("mode",.str rollMode),("ip_version",.str "both"),
      ("new_ip_v4",.str ipv4),("new_ip_v6",.str ipv6),
      ("new_gateway_v4",.str (stringField snapshot "gateway_v4")),
      ("new_gateway_v6",.str (stringField snapshot "gateway_v6"))]
  if hasItems (Dict.get? snapshot "dns_servers") then
    -- a failure to restore DNS is only logged
    let _ ← Go.succeeds (configureDNS os method iface (stringField snapshot "connection_name")
      (stringItems (Dict.get? snapshot "dns_servers"))
      (stringItems (Dict.get? snapshot "dns_search_domains")))
  pure [("rolled_back",.bool true)]

def rollbackOS (params : Dict) : Go ν Dict :=
  match params.get? "snapshot" with
  | some (.obj snapshot) =>
    let given := stringField params "interface"
    let iface := if given = "" then stringField snapshot "interface" else given
    if iface = "" then throw "cannot determine interface for rollback"
    else restoreSnapshot os iface snapshot
  | _ => throw "snapshot is required for rollback"

/-- The parameters of the rollback that `executeOS` hands to the dead-man switch. -/
def commitParams (snap : Snapshot) : Dict :=
  [("snapshot",.obj snap.toMap),("interface",.str snap.interface)]

def commitRollback (snap : Snapshot) : Go ν Dict := rollbackOS os (commitParams snap)

structure Result where
  status : String
  data : Option Dict
  error : String

/-- The command tables of the executor. -/
structure Handlers (ν : Type) where
  commands : String → Option (Dict → Go ν Dict)
  rollbacks : String → Option (Dict → Go ν Dict)

/-- The rollback table with its entry for `change_ip`; the other entries are given. -/
def agentHandlers (others : Handlers ν) : Handlers ν where
  commands := others.commands
  rollbacks command := if command = "change_ip" then some (rollbackOS os) else others.rollbacks command

def Handlers.run (fn : Dict → Go ν Dict) (params : Dict) : StateM ν Result := do
  match ← (fn params).run with
  | .ok data => pure ⟨"completed",some data,""⟩
  | .error message => pure ⟨"failed",none,message⟩

def Handlers.dispatch (handlers : Handlers ν) (command : String) (params : Dict) (rollback : Bool)
    (previousResult : Dict) : StateM ν Result :=
  if rollback then
    match handlers.rollbacks command with
    | none => pure ⟨"failed",none,"no rollback defined for command \"" ++ command ++ "\""⟩
    | some fn => Handlers.run fn ((Dict.merge [] previousResult).merge params)
  else
    match handlers.commands command with
    | none => pure ⟨"failed",none,"unknown command \"" ++ command ++ "\""⟩
    | some fn => Handlers.run fn params

/-- The callback that `main` hands to `CheckPendingRollback`. -/
def startupRollback (others : Handlers ν) (params : Dict) : StateM ν Result :=
  (agentHandlers os others).dispatch "change_ip" params true params

variable {os} {snap : Snapshot} {params : Dict}

theorem Snapshot.toMap_snapshot (snap : Snapshot) : ∀ kv ∈ snap.toMap, kv.1 ≠ "snapshot" := by
  simp [toMap]

theorem rollbackOS_of_none (h : params.get? "snapshot" = none) (s : ν) :
    (rollbackOS os params).run.run s = (.error "snapshot is required for rollback",s) := by
  rw [rollbackOS,h]
  rfl

/-- After a restart the stored map is not under the key that the rollback reads. -/
theorem startupRollback_eq (others : Handlers ν) (snap : Snapshot) (s : ν) :
    (startupRollback os others snap.toMap).run s =
      (⟨"failed",none,"snapshot is required for rollback"⟩,s) := by
  have hno := snap.toMap_snapshot
  have hget : ((Dict.merge [] snap.toMap).merge snap.toMap).get? "snapshot" = none := by
    rw [Dict.get?_merge_of_none hno,Dict.get?_merge_of_none hno]
    rfl
  have hr : (rollbackOS os ((Dict.merge [] snap.toMap).merge snap.toMap)).run.run s = _ :=
    rollbackOS_of_none hget s
  simp only [startupRollback,Handlers.dispatch,agentHandlers,if_true,Handlers.run]
  rw [StateT.run_bind,hr]
  rfl

end Rollback

end Nexplane
