import Nexplane.ChangeIp
import Nexplane.DriftSurfaces
import Nexplane.Lib.Checks
import Nexplane.Lib.Lines
import Mathlib.Data.List.Infix

set_option autoImplicit false

/-! The snapshot that the agent takes of an interface before it changes an address. -/

namespace Nexplane
open PyValue Text

/-- A host that also says whether a command that is asked for its output fails. -/
structure QueryOs (ν : Type) extends Os ν where
  fails : String → List String → ν → Bool

def lineFields (line : List Char) : List String := stringFields (String.ofList line)

/-- The family and the address on each line of `ip -o addr show`. -/
def addressLines (out : String) : List (String × String) :=
  ((trimSpace out.toList).splitOn '\n').filterMap fun line =>
    match lineFields line with
    | _ :: _ :: family :: cidr :: _ => some (family,cidr)
    | _ => none

def addressesOf (family : String) (lines : List (String × String)) : List String :=
  (lines.filter fun l => l.1 = family).map Prod.snd

/-- The value after the last `via`. -/
def viaGateway (fields : List String) : String :=
  (fields.zip fields.tail).foldl (fun gw pair => if pair.1 = "via" then pair.2 else gw) ""

/-- A line of blanks inside the table has no first field. -/
def routeEntry (iface : String) (line : List Char) : Except String RouteEntry :=
  match lineFields line with
  | [] => .error "runtime error: index out of range [0] with length 0"
  | dst :: rest => .ok ⟨dst,viaGateway (dst :: rest),iface⟩

def routeEntries (iface out : String) : Except String (List RouteEntry) :=
  (((trimSpace out.toList).splitOn '\n').filter (· ≠ [])).mapM (routeEntry iface)

def defaultGateway (routes : List RouteEntry) : String :=
  routes.foldl (fun gw entry => if entry.dst = "default" then entry.gw else gw) ""

/-- `fmt.Sscanf(s, "%d", &n)` on a field. -/
def scanInt (field : String) : Option Int :=
  let (negative,rest) := splitSign field.toList
  (decimalValue (rest.takeWhile Char.isDigit)).bind fun n =>
    let value : Int := if negative then -n else n
    if -9223372036854775808 ≤ value ∧ value < 9223372036854775808 then some value else none

def linkMtu (out : String) : Int :=
  ((out.toList.splitOn '\n').filter fun line => "mtu".toList <:+: line).foldl
    (fun mtu line => ((lineFields line).zip (lineFields line).tail).foldl
      (fun mtu pair => if pair.1 = "mtu" then (scanInt pair.2).getD mtu else mtu) mtu) 0

def NetworkManager.title : NetworkManager → String
  | .networkManager => "NetworkManager"
  | .systemd => "systemd-networkd"
  | .debian => "interfaces"
  | .rhel => "ifcfg"

/-- The name of the last active connection on the interface. -/
def activeConnection (iface out : String) : String :=
  (out.toList.splitOn '\n').foldl (fun name line =>
    match splitFirst ':' line with
    | some (connection,device) =>
      if String.ofList (trimSpace device) = iface then String.ofList (trimSpace connection) else name
    | none => name) ""

/-- `strings.TrimPrefix` of the lines that have the prefix, each trimmed. -/
def linesAfter (head : String) (text : String) : List (List Char) :=
  (text.toList.splitOn '\n').filterMap fun line => (trimSpace line).dropPrefix? head.toList

def Go.ofExcept {ν α : Type} (r : Except String α) : Go ν α := ExceptT.mk fun s => (r,s)

def activeConnections {ν : Type} (os : QueryOs ν) (nm : NetworkManager) : Go ν String :=
  if nm = .networkManager then
    Go.call (os.output "nmcli" ["-t","-f","NAME,DEVICE","con","show","--active"])
  else pure ""

def captureSnapshot {ν : Type} (os : QueryOs ν) (iface : String) : Go ν Snapshot := do
  let addrFails ← Go.ask (os.fails "ip" ["-o","addr","show",iface])
  let addrOut ← Go.call (os.output "ip" ["-o","addr","show",iface])
  let addresses := if addrFails then [] else addressLines addrOut
  let routeOut ← Go.call (os.output "ip" ["route","show","dev",iface])
  let routes ← Go.ofExcept (routeEntries iface routeOut)
  let linkOut ← Go.call (os.output "ip" ["link","show",iface])
  let nm ← detectNetworkManager os.toOs
  let conOut ← activeConnections os nm
  let resFails ← Go.ask (os.fails "resolvectl" ["status",iface])
  let resOut ← Go.call (os.output "resolvectl" ["status",iface])
  let rcData ← Go.ask (os.readFile "/etc/resolv.conf")
  pure {
    interface := iface
    ipv4Addresses := addressesOf "inet" addresses
    ipv6Addresses := addressesOf "inet6" addresses
    gatewayV4 := defaultGateway routes
    gatewayV6 := ""
    dnsServers := if resFails then (linesAfter "nameserver " rcData).map String.ofList
      else (linesAfter "DNS Servers:" resOut).flatMap lineFields
    dnsSearchDomains := if resFails then (linesAfter "search " rcData).flatMap lineFields
      else (linesAfter "DNS Domain:" resOut).flatMap lineFields
    routes := routes
    mtu := linkMtu linkOut
    networkManager := nm.title
    connectionName := activeConnection iface conOut }

section Runs

variable {ν α β : Type} {x : Go ν α} {f : α → Go ν β} {b : β} {s s' : ν}

def Go.exec (x : Go ν α) (s : ν) : Except String α × ν := x.run.run s

theorem Go.bind_exec (x : Go ν α) (f : α → Go ν β) (s : ν) :
    (x >>= f).exec s = match x.exec s with
      | (.ok a,t) => (f a).exec t
      | (.error e,t) => (.error e,t) := by
  rw [Go.exec,ExceptT.run_bind,StateT.run_bind]
  cases hx : x.exec s with
  | mk r t =>
    rw [Go.exec] at hx
    cases r with
    | ok a =>
      rw [hx]
      rfl
    | error e =>
      rw [hx]
      rfl

theorem Go.bind_eq_ok : (x >>= f).exec s = (.ok b,s') ↔
    ∃ a t, x.exec s = (.ok a,t) ∧ (f a).exec t = (.ok b,s') := by
  rw [Go.bind_exec]
  rcases x.exec s with ⟨e | a,t⟩ <;> simp

theorem Go.pure_eq_ok {a : β} : (pure a : Go ν β).exec s = (.ok b,s') ↔ a = b ∧ s = s' := by
  have hrun : (pure a : Go ν β).exec s = (.ok a,s) := rfl
  simp [hrun]

theorem Go.ask_eq_ok {g : ν → β} : (Go.ask g).exec s = (.ok b,s') ↔ g s = b ∧ s = s' := by
  have hrun : (Go.ask g).exec s = (.ok (g s),s) := rfl
  simp [hrun]

theorem Go.ofExcept_eq_ok {r : Except String β} :
    (Go.ofExcept r : Go ν β).exec s = (.ok b,s') ↔ r = .ok b ∧ s = s' := by
  have hrun : (Go.ofExcept r : Go ν β).exec s = (r,s) := rfl
  simp [hrun]

theorem Go.check_exec (call : ν → Option String × ν) (s : ν) :
    (Go.check call).exec s = ((call s).1.elim (.ok ()) .error,(call s).2) := by
  change (Go.check call) s = _
  rw [Go.check,ExceptT.mk]
  rcases call s with ⟨_ | e,t⟩
  · rfl
  · rfl

theorem Go.succeeds_exec (x : Go ν Unit) (s : ν) :
    (Go.succeeds x).exec s = (.ok (x.exec s).1.isOk,(x.exec s).2) := by
  change (Go.succeeds x) s = _
  rw [Go.succeeds,ExceptT.mk]
  change (match x.exec s with | (.ok (),s') => _ | (.error _,s') => _) = _
  rcases x.exec s with ⟨e | u,t⟩
  · rfl
  · rfl

end Runs

section Captured

variable {ν : Type} {os : QueryOs ν} {iface : String} {snap : Snapshot} {s s' : ν}

/-- A field of a line: not empty, and without blanks. -/
structure IsField (text : String) : Prop where
  nonempty : text ≠ ""
  noSpace : ∀ c ∈ text.toList, c.isWhitespace = false

theorem IsField.oneLine {text : String} (h : IsField text) : '\n' ∉ text.toList := by
  intro hc
  have := h.noSpace _ hc
  contradiction

theorem splitOnP_pieces (p : Char → Bool) (cs : List Char) :
    ∀ piece ∈ cs.splitOnP p, ∀ c ∈ piece, p c = false := by
  induction cs with
  | nil => simp
  | cons c cs ih =>
    rw [List.splitOnP_cons_eq_if_modifyHead]
    split
    · simpa using ih
    · next hc =>
      cases hcs : cs.splitOnP p with
      | nil => simp
      | cons piece pieces =>
        rw [hcs] at ih
        simpa [hc] using ih

theorem isField_of_mem {line text : String} (h : text ∈ stringFields line) : IsField text := by
  obtain ⟨piece,hpiece,rfl⟩ := List.mem_map.mp h
  obtain ⟨hmem,hne⟩ := List.mem_filter.mp hpiece
  constructor
  · intro hempty
    have : piece = [] := by simpa using hempty
    simp [this] at hne
  · intro c hc
    rw [String.toList_ofList] at hc
    exact splitOnP_pieces _ _ piece hmem c hc

/-- A text that is left out, or a field. -/
def IsOptional (text : String) : Prop := text = "" ∨ IsField text

/-- What a rollback relies on in the snapshot that it is given. -/
structure Captured (iface : String) (snap : Snapshot) : Prop where
  interface : snap.interface = iface
  ipv4 : ∀ a ∈ snap.ipv4Addresses, IsField a
  ipv6 : ∀ a ∈ snap.ipv6Addresses, IsField a
  gatewayV4 : IsOptional snap.gatewayV4
  gatewayV6 : snap.gatewayV6 = ""
  dns : ∀ server ∈ snap.dnsServers, '\n' ∉ server.toList

theorem isField_addressLines {out : String} : ∀ l ∈ addressLines out, IsField l.2 := by
  intro l hl
  obtain ⟨line,_,hline⟩ := List.mem_filterMap.mp hl
  split at hline
  · next index name family cidr rest hfields =>
    obtain rfl := Option.some.inj hline
    have hmem : cidr ∈ lineFields line := by simp [hfields]
    exact isField_of_mem hmem
  · cases hline

theorem isField_addressesOf {family : String} {lines : List (String × String)}
    (h : ∀ l ∈ lines, IsField l.2) : ∀ a ∈ addressesOf family lines, IsField a := by
  intro a ha
  obtain ⟨l,hl,rfl⟩ := List.mem_map.mp ha
  exact h l (List.mem_filter.mp hl).1

theorem isOptional_viaGateway {fields : List String} (h : ∀ f ∈ fields, IsField f) :
    IsOptional (viaGateway fields) := by
  refine List.foldlRecOn _ _ (.inl rfl) fun gw hgw pair hpair => ?_
  split
  · exact .inr (h _ (List.mem_of_mem_tail (List.of_mem_zip hpair).2))
  · exact hgw

theorem isOptional_routeEntries {out : String} {routes : List RouteEntry}
    (h : routeEntries iface out = .ok routes) : ∀ r ∈ routes, IsOptional r.gw := by
  intro r hr
  obtain ⟨line,_,hline⟩ := Checks.mapM_mem h r hr
  rw [routeEntry] at hline
  split at hline
  · cases hline
  · next dst rest hfields =>
    obtain rfl := Except.ok.inj hline
    refine isOptional_viaGateway fun f hf => ?_
    have hmem : f ∈ lineFields line := by rwa [hfields]
    exact isField_of_mem hmem

theorem isOptional_defaultGateway {routes : List RouteEntry} (h : ∀ r ∈ routes, IsOptional r.gw) :
    IsOptional (defaultGateway routes) := by
  refine List.foldlRecOn _ _ (.inl rfl) fun gw hgw r hr => ?_
  split
  · exact h r hr
  · exact hgw

theorem linesAfter_oneLine {head text : String} : ∀ rest ∈ linesAfter head text, '\n' ∉ rest := by
  intro rest hrest
  obtain ⟨line,hline,hdrop⟩ := List.mem_filterMap.mp hrest
  obtain ⟨pre,htrim,_⟩ := List.dropPrefix?_eq_some_iff.mp hdrop
  intro hmem
  refine Lines.splitOn_pieces '\n' _ line hline ((Lines.trim_sublist isIntSpace line).subset ?_)
  rw [show trim isIntSpace line = pre ++ rest from htrim]
  exact List.mem_append_right _ hmem

theorem captureSnapshot_captured (h : (captureSnapshot os iface).exec s = (.ok snap,s')) :
    Captured iface snap := by
  obtain ⟨addrFails,_,_,h⟩ := Go.bind_eq_ok.mp h
  obtain ⟨addrOut,_,_,h⟩ := Go.bind_eq_ok.mp h
  obtain ⟨routeOut,_,_,h⟩ := Go.bind_eq_ok.mp h
  obtain ⟨routes,_,hroutes,h⟩ := Go.bind_eq_ok.mp h
  obtain ⟨linkOut,_,_,h⟩ := Go.bind_eq_ok.mp h
  obtain ⟨nm,_,_,h⟩ := Go.bind_eq_ok.mp h
  obtain ⟨conOut,_,_,h⟩ := Go.bind_eq_ok.mp h
  obtain ⟨resFails,_,_,h⟩ := Go.bind_eq_ok.mp h
  obtain ⟨resOut,_,_,h⟩ := Go.bind_eq_ok.mp h
  obtain ⟨rcData,_,_,h⟩ := Go.bind_eq_ok.mp h
  obtain ⟨rfl,_⟩ := Go.pure_eq_ok.mp h
  have haddresses : ∀ l ∈ (if addrFails then [] else addressLines addrOut), IsField l.2 := by
    split
    · simp
    · exact isField_addressLines
  refine ⟨rfl,isField_addressesOf haddresses,isField_addressesOf haddresses,
    isOptional_defaultGateway (isOptional_routeEntries (Go.ofExcept_eq_ok.mp hroutes).1),rfl,?_⟩
  intro server hserver
  dsimp only at hserver
  split at hserver
  · obtain ⟨rest,hrest,rfl⟩ := List.mem_map.mp hserver
    rw [String.toList_ofList]
    exact linesAfter_oneLine rest hrest
  · obtain ⟨line,_,hmem⟩ := List.mem_flatMap.mp hserver
    exact (isField_of_mem hmem).oneLine

end Captured

end Nexplane
