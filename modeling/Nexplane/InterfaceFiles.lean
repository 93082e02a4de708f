import Nexplane.InterfaceSnapshots

set_option autoImplicit false

/-! What the files of an interface say of it. -/

namespace Nexplane
open PyValue Text Lines

section Meaning

/-- One address family of a connection. -/
structure FamilySettings where
  addresses : List String
  gateway : String
  automatic : Bool
  deriving DecidableEq, Repr

structure Profile where
  v4 : FamilySettings
  v6 : FamilySettings
  deriving DecidableEq, Repr

/-- What a configuration says of an interface. -/
structure IfaceConfig where
  addresses : List String
  gateways : List String
  dhcp4 : Bool
  dhcp6 : Bool
  deriving DecidableEq, Repr

def Profile.set (p : Profile) (property value : String) : Profile :=
  match property with
  | "ipv4.method" => { p with v4 := { p.v4 with automatic := value = "auto" } }
  | "ipv4.addresses" => { p with v4 := { p.v4 with addresses := [value] } }
  | "ipv4.gateway" => { p with v4 := { p.v4 with gateway := value } }
  | "ipv6.method" => { p with v6 := { p.v6 with automatic := value = "auto" } }
  | "ipv6.addresses" => { p with v6 := { p.v6 with addresses := [value] } }
  | "ipv6.gateway" => { p with v6 := { p.v6 with gateway := value } }
  | _ => p

/-- The properties of one `nmcli con mod`; the others keep their values. -/
def Profile.setAll (p : Profile) : List String → Profile
  | property :: value :: rest => (p.set property value).setAll rest
  | _ => p

def Profile.config (p : Profile) : IfaceConfig where
  addresses := p.v4.addresses ++ p.v6.addresses
  gateways := [p.v4.gateway,p.v6.gateway].filter (· ≠ "")
  dhcp4 := p.v4.automatic
  dhcp6 := p.v6.automatic

def textsOf (key : String) (content : String) : List String :=
  (valuesOf key.toList (keyValues content.toList)).map String.ofList

/-- A `.network` file; of the lines `DHCP=` the last one holds. -/
def readNetworkd (content : String) : IfaceConfig where
  addresses := textsOf "Address" content
  gateways := textsOf "Gateway" content
  dhcp4 := (textsOf "DHCP" content).getLast? ∈ [some "ipv4",some "yes"]
  dhcp6 := (textsOf "DHCP" content).getLast? ∈ [some "ipv6",some "yes"]

def withPrefix (length : Option String) (address : String) : String :=
  length.elim address fun n => address ++ "/" ++ n

/-- An `ifcfg` file. -/
def readIfcfg (content : String) : IfaceConfig where
  addresses :=
    (textsOf "IPADDR" content).map (withPrefix (textsOf "PREFIX" content).head?) ++
      (textsOf "IPV6ADDR" content).map (withPrefix (textsOf "IPV6PREFIX" content).head?)
  gateways := textsOf "GATEWAY" content
  dhcp4 := (textsOf "BOOTPROTO" content).getLast? = some "dhcp"
  dhcp6 := (textsOf "DHCPV6C" content).getLast? = some "yes"

end Meaning

section Files

variable {iface key content : String} {file : List FileLine}

def line (text : String) : FileLine := .plain text.toList

def put (key value : String) : FileLine := .setting key.toList value.toList

/-- The text has the lines. -/
def HasLines (content : String) (file : List FileLine) : Prop :=
  content.toList = unlines (file.map FileLine.chars)

theorem HasLines.append {content' : String} {file' : List FileLine} (h : HasLines content file)
    (h' : HasLines content' file') : HasLines (content ++ content') (file ++ file') := by
  rw [HasLines,String.toList_append,h,h',List.map_append,unlines_append]

def valueOf? (key : String) : FileLine → Option String
  | .plain _ => none
  | .setting k value => if k = key.toList then some (String.ofList value) else none

theorem valueOf?_line {text : String} : valueOf? key (line text) = none := rfl

theorem valueOf?_put {key' value : String} :
    valueOf? key (put key' value) = if key' = key then some value else none := by
  simp [valueOf?,put,String.toList_inj]

theorem HasLines.textsOf (h : HasLines content file) (hfile : ∀ l ∈ file, l.Proper)
    (key : String) : textsOf key content = file.filterMap (valueOf? key) := by
  rw [Nexplane.textsOf,valuesOf,h,keyValues_file hfile]
  clear h hfile
  induction file with
  | nil => rfl
  | cons l file ih =>
    cases l with
    | plain text => exact ih
    | setting k value =>
      rw [List.filterMap_cons_some (by rfl : FileLine.pair? (.setting k value) = some (k,value))]
      by_cases hk : k = key.toList
      · have hvalue : valueOf? key (.setting k value) = some (String.ofList value) := if_pos hk
        rw [List.filterMap_cons_some hvalue,← ih]
        simp [hk]
      · have hvalue : valueOf? key (.setting k value) = none := if_neg hk
        rw [List.filterMap_cons_none hvalue,← ih]
        simp [hk]

theorem hasLines_empty : HasLines "" [] := rfl

theorem hasLines_setting (before : String) {lines : List FileLine} {key value : String}
    (h : before.toList = unlines (lines.map FileLine.chars) ++ key.toList ++ ['=']) :
    HasLines (before ++ value ++ "\n") (lines ++ [put key value]) := by
  have hend : "\n".toList = ['\n'] := by simp
  rw [HasLines,String.toList_append,String.toList_append,h,List.map_append,unlines_append,hend]
  simp [unlines,put,FileLine.chars]

def networkdHead (iface : String) : List FileLine :=
  [line "[Match]",put "Name" iface,line "",line "[Network]"]

theorem hasLines_networkdHead (iface : String) :
    HasLines ("[Match]\nName=" ++ iface ++ "\n\n[Network]\n") (networkdHead iface) := by
  have hmatch : "[Match]\nName=".toList = "[Match]".toList ++ '\n' :: ("Name".toList ++ ['=']) := by
    simp
  have hnetwork : "\n\n[Network]\n".toList = '\n' :: '\n' :: ("[Network]".toList ++ ['\n']) := by
    simp
  have hempty : "".toList = [] := rfl
  rw [HasLines,String.toList_append,String.toList_append,hmatch,hnetwork]
  simp only [networkdHead,line,put,unlines,List.map_cons,List.map_nil,List.flatMap_cons,
    List.flatMap_nil,FileLine.chars,hempty]
  simp only [List.append_assoc,List.cons_append,List.nil_append,List.append_nil]

theorem proper_line {text : String} (h : '\n' ∉ text.toList ∧ '=' ∉ text.toList) :
    (line text).Proper := h

theorem proper_put {key value : String} (hkey : '\n' ∉ key.toList ∧ '=' ∉ key.toList)
    (hvalue : '\n' ∉ value.toList) : (put key value).Proper := ⟨hkey.1,hkey.2,hvalue⟩

theorem proper_networkdHead (h : '\n' ∉ iface.toList) : ∀ l ∈ networkdHead iface, l.Proper := by
  simp only [networkdHead,List.forall_mem_cons]
  exact ⟨proper_line (by simp),proper_put (by simp) h,
    proper_line (by simp),proper_line (by simp),by simp⟩

/-- A line with a key under its heads, when there is a value. -/
def putSome (heads : List String) (key value : String) : List FileLine :=
  if value = "" then [] else heads.map line ++ [put key value]

theorem proper_putSome {heads : List String} {key value : String}
    (hheads : ∀ t ∈ heads, '\n' ∉ t.toList ∧ '=' ∉ t.toList)
    (hkey : '\n' ∉ key.toList ∧ '=' ∉ key.toList) (hvalue : '\n' ∉ value.toList) :
    ∀ l ∈ putSome heads key value, l.Proper := by
  intro l hl
  rw [putSome] at hl
  split at hl
  · cases hl
  · rcases List.mem_append.mp hl with hl | hl
    · obtain ⟨t,ht,rfl⟩ := List.mem_map.mp hl
      exact proper_line (hheads t ht)
    · rw [List.mem_singleton.mp hl]
      exact proper_put hkey hvalue

theorem hasLines_putSome (before : String) {heads : List String} {key value : String}
    (h : before.toList = unlines ((heads.map line).map FileLine.chars) ++ key.toList ++ ['=']) :
    HasLines (if value = "" then "" else before ++ value ++ "\n") (putSome heads key value) := by
  rw [putSome]
  split
  · exact hasLines_empty
  · exact hasLines_setting before h

theorem valueOf?_putSome {heads : List String} {key' value : String} :
    (putSome heads key' value).filterMap (valueOf? key) =
      if key' = key then [value].filter (· ≠ "") else [] := by
  have hheads : (heads.map line).filterMap (valueOf? key) = [] := by
    rw [List.filterMap_map]
    exact List.filterMap_eq_nil_iff.mpr fun _ _ => rfl
  rw [putSome]
  split
  · next hempty => simp [hempty]
  · next hne =>
    rw [List.filterMap_append,hheads,List.nil_append]
    by_cases hkey : key' = key
    · simp [valueOf?_put,hkey,hne]
    · simp [valueOf?_put,hkey]

def networkdStatic (iface v4 gw : String) : List FileLine :=
  networkdHead iface ++ ([line "",line "[Address]"] ++ [put "Address" v4] ++
    putSome ["","[Route]"] "Gateway" gw)

theorem readNetworkd_static {v4 gw : String} (hiface : '\n' ∉ iface.toList)
    (hv4 : '\n' ∉ v4.toList) (hgw : '\n' ∉ gw.toList) :
    readNetworkd ("[Match]\nName=" ++ iface ++ "\n\n[Network]\n" ++
      ("\n[Address]\nAddress=" ++ v4 ++ "\n" ++
        if gw = "" then "" else "\n[Route]\nGateway=" ++ gw ++ "\n")) =
      ⟨[v4],[gw].filter (· ≠ ""),false,false⟩ := by
  have hlines : HasLines _ (networkdStatic iface v4 gw) :=
    (hasLines_networkdHead iface).append ((hasLines_setting "\n[Address]\nAddress=" (by decide)).append
      (hasLines_putSome "\n[Route]\nGateway=" (by decide)))
  have hproper : ∀ l ∈ networkdStatic iface v4 gw, l.Proper := by
    simp only [networkdStatic,List.forall_mem_append,List.forall_mem_cons]
    refine ⟨proper_networkdHead hiface,⟨⟨?_,?_,by simp⟩,?_,by simp⟩,?_⟩
    · exact proper_line (by simp)
    · exact proper_line (by simp)
    · exact proper_put (by simp) hv4
    · exact proper_putSome (by simp) (by simp) hgw
  have hvalues := hlines.textsOf hproper
  simp only [networkdStatic,networkdHead,List.filterMap_append,List.filterMap_cons,
    List.filterMap_nil,valueOf?_line,valueOf?_put,valueOf?_putSome] at hvalues
  rw [readNetworkd,hvalues,hvalues,hvalues]
  simp

theorem readNetworkd_dhcp (hiface : '\n' ∉ iface.toList) :
    readNetworkd ("[Match]\nName=" ++ iface ++ "\n\n[Network]\n" ++
      ("DHCP=ipv4\n" ++ "DHCP=ipv6\n")) = ⟨[],[],false,true⟩ := by
  have hdhcp : HasLines ("DHCP=ipv4\n" ++ "DHCP=ipv6\n") [put "DHCP" "ipv4",put "DHCP" "ipv6"] := by
    rw [HasLines]
    decide
  have hlines := (hasLines_networkdHead iface).append hdhcp
  have hproper : ∀ l ∈ networkdHead iface ++ [put "DHCP" "ipv4",put "DHCP" "ipv6"], l.Proper := by
    simp only [List.forall_mem_append,List.forall_mem_cons]
    refine ⟨proper_networkdHead hiface,?_,?_,by simp⟩
    · exact proper_put (by simp) (by simp)
    · exact proper_put (by simp) (by simp)
  have hvalues := hlines.textsOf hproper
  simp only [networkdHead,List.filterMap_append,List.filterMap_cons,
    List.filterMap_nil,valueOf?_line,valueOf?_put] at hvalues
  rw [readNetworkd,hvalues,hvalues,hvalues]
  simp

def addressPart (cidr : String) : String :=
  ((splitFirst '/' cidr.toList).map fun parts => String.ofList parts.1).getD cidr

def prefixPart (cidr : String) : Option String :=
  (splitFirst '/' cidr.toList).map fun parts => String.ofList parts.2

theorem withPrefix_parts (cidr : String) : withPrefix (prefixPart cidr) (addressPart cidr) = cidr := by
  rw [prefixPart,addressPart]
  cases hsplit : splitFirst '/' cidr.toList with
  | none => rfl
  | some parts =>
    obtain ⟨hcidr,_⟩ := splitFirst_eq_some.mp hsplit
    apply String.toList_inj.mp
    have hslash : "/".toList = ['/'] := by simp
    simp [withPrefix,hcidr,hslash]

def ifcfgLines (addressKey prefixKey cidr : String) : List FileLine :=
  put addressKey (addressPart cidr) :: (prefixPart cidr).toList.map (put prefixKey)

theorem splitFirst_of_splitOn {l piece : List Char} {rest : List (List Char)} (hne : rest ≠ [])
    (h : l.splitOn '/' = piece :: rest) :
    splitFirst '/' l = some (piece,['/'].intercalate rest) := by
  obtain ⟨second,others,rfl⟩ := List.exists_cons_of_ne_nil hne
  have hjoin : ['/'].intercalate (l.splitOn '/') = l := List.intercalate_splitOn '/'
  have hl : l = piece ++ '/' :: ['/'].intercalate (second :: others) := by
    rw [h,List.intercalate_cons_cons] at hjoin
    simp [← hjoin]
  have hpiece : '/' ∉ piece := splitOn_pieces '/' l piece (by simp [h])
  rw [hl]
  exact splitFirst_append _ hpiece

theorem hasLines_ifcfgAddress (addressKey prefixKey cidr : String) :
    HasLines (ifcfgAddress addressKey prefixKey cidr) (ifcfgLines addressKey prefixKey cidr) := by
  have hnewline : "\n".toList = ['\n'] := by simp
  have hequals : "=".toList = ['='] := by simp
  have hslash : "/".toList = ['/'] := by simp
  have hsplit : cidr.splitOn "/" = (cidr.toList.splitOn '/').map String.ofList :=
    splitOn_char '/' cidr
  rw [ifcfgAddress,hsplit]
  cases hpieces : cidr.toList.splitOn '/' with
  | nil => exact absurd hpieces (List.splitOn_ne_nil _ _)
  | cons piece rest =>
    cases rest with
    | nil =>
      have hjoin : ['/'].intercalate (cidr.toList.splitOn '/') = cidr.toList :=
        List.intercalate_splitOn '/'
      have hcidr : piece = cidr.toList := by rwa [hpieces,List.intercalate_singleton] at hjoin
      have hnone : splitFirst '/' cidr.toList = none := by
        rw [splitFirst_eq_none,← hcidr]
        exact splitOn_pieces '/' cidr.toList piece (by simp [hpieces])
      simp [HasLines,ifcfgLines,addressPart,prefixPart,hnone,unlines,put,FileLine.chars,hcidr,
        hnewline,hequals]
    | cons second rest =>
      have hsome := splitFirst_of_splitOn (List.cons_ne_nil second rest) hpieces
      simp [HasLines,ifcfgLines,addressPart,prefixPart,hsome,unlines,put,FileLine.chars,hnewline,
        hequals,hslash,String.toList_intercalate]

theorem oneLine_parts {cidr : String} (h : '\n' ∉ cidr.toList) :
    '\n' ∉ (addressPart cidr).toList ∧ ∀ p ∈ prefixPart cidr, '\n' ∉ p.toList := by
  rw [addressPart,prefixPart]
  cases hsplit : splitFirst '/' cidr.toList with
  | none => exact ⟨h,fun p hp => by cases hp⟩
  | some parts =>
    obtain ⟨hcidr,_⟩ := splitFirst_eq_some.mp hsplit
    rw [hcidr] at h
    simp only [List.mem_append,List.mem_cons,not_or] at h
    refine ⟨by simpa using h.1,?_⟩
    rintro p ⟨rfl⟩
    simpa using h.2.2

theorem proper_ifcfgLines {addressKey prefixKey cidr : String}
    (haddress : '\n' ∉ addressKey.toList ∧ '=' ∉ addressKey.toList)
    (hlength : '\n' ∉ prefixKey.toList ∧ '=' ∉ prefixKey.toList) (h : '\n' ∉ cidr.toList) :
    ∀ l ∈ ifcfgLines addressKey prefixKey cidr, l.Proper := by
  obtain ⟨hpart,hparts⟩ := oneLine_parts h
  intro l hl
  rcases List.mem_cons.mp hl with rfl | hl
  · exact proper_put haddress hpart
  · obtain ⟨p,hp,rfl⟩ := List.mem_map.mp hl
    exact proper_put hlength (hparts p (Option.mem_toList.mp hp))

theorem valueOf?_ifcfgLines {addressKey prefixKey cidr : String} :
    (ifcfgLines addressKey prefixKey cidr).filterMap (valueOf? key) =
      (if addressKey = key then [addressPart cidr] else []) ++
        if prefixKey = key then (prefixPart cidr).toList else [] := by
  rw [ifcfgLines]
  cases prefixPart cidr with
  | none => by_cases haddress : addressKey = key <;> simp [valueOf?_put,haddress]
  | some p =>
    by_cases haddress : addressKey = key <;> by_cases hlength : prefixKey = key <;>
      simp [valueOf?_put,haddress,hlength]

def ifcfgHead (iface : String) : List FileLine := [put "DEVICE" iface,put "ONBOOT" "yes"]

theorem hasLines_ifcfgHead (iface : String) :
    HasLines ("DEVICE=" ++ iface ++ "\nONBOOT=yes\n") (ifcfgHead iface) := by
  have hdevice : "DEVICE=".toList = "DEVICE".toList ++ ['='] := by simp
  have honboot : "\nONBOOT=yes\n".toList = '\n' :: ("ONBOOT".toList ++ '=' :: ("yes".toList ++ ['\n'])) := by
    simp
  rw [HasLines,String.toList_append,String.toList_append,hdevice,honboot]
  simp only [ifcfgHead,put,unlines,List.map_cons,List.map_nil,List.flatMap_cons,List.flatMap_nil,
    FileLine.chars]
  simp only [List.append_assoc,List.cons_append,List.nil_append,List.append_nil]

theorem proper_ifcfgHead (h : '\n' ∉ iface.toList) : ∀ l ∈ ifcfgHead iface, l.Proper := by
  simp only [ifcfgHead,List.forall_mem_cons]
  exact ⟨proper_put (by simp) h,proper_put (by simp) (by simp),by simp⟩

theorem readIfcfg_dhcp (hiface : '\n' ∉ iface.toList) :
    readIfcfg ("DEVICE=" ++ iface ++ "\nONBOOT=yes\n" ++ "BOOTPROTO=dhcp\n") =
      ⟨[],[],true,false⟩ := by
  have hdhcp : HasLines "BOOTPROTO=dhcp\n" [put "BOOTPROTO" "dhcp"] := by
    rw [HasLines]
    decide
  have hlines := (hasLines_ifcfgHead iface).append hdhcp
  have hproper : ∀ l ∈ ifcfgHead iface ++ [put "BOOTPROTO" "dhcp"], l.Proper := by
    simp only [List.forall_mem_append,List.forall_mem_cons]
    exact ⟨proper_ifcfgHead hiface,proper_put (by simp) (by simp),by simp⟩
  have hvalues := hlines.textsOf hproper
  simp only [ifcfgHead,List.filterMap_append,List.filterMap_cons,List.filterMap_nil,
    valueOf?_put] at hvalues
  simp only [readIfcfg,hvalues]
  simp

/-- The lines of the second family, when it has an address. -/
def ifcfgV6 (v6 : String) : List FileLine :=
  if v6 = "" then [] else ifcfgLines "IPV6ADDR" "IPV6PREFIX" v6 ++ [put "IPV6INIT" "yes"]

def ifcfgStatic (iface v4 gw v6 : String) : List FileLine :=
  ifcfgHead iface ++ ([put "BOOTPROTO" "static"] ++ ifcfgLines "IPADDR" "PREFIX" v4 ++
    putSome [] "GATEWAY" gw ++ ifcfgV6 v6)

theorem hasLines_ifcfgV6 (v6 : String) :
    HasLines (if v6 = "" then "" else ifcfgAddress "IPV6ADDR" "IPV6PREFIX" v6 ++ "IPV6INIT=yes\n")
      (ifcfgV6 v6) := by
  have hinit : HasLines "IPV6INIT=yes\n" [put "IPV6INIT" "yes"] := by
    rw [HasLines]
    decide
  rw [ifcfgV6]
  split
  · exact hasLines_empty
  · exact (hasLines_ifcfgAddress "IPV6ADDR" "IPV6PREFIX" v6).append hinit

theorem proper_ifcfgV6 {v6 : String} (h : '\n' ∉ v6.toList) : ∀ l ∈ ifcfgV6 v6, l.Proper := by
  rw [ifcfgV6]
  split
  · simp
  · simp only [List.forall_mem_append,List.forall_mem_cons]
    exact ⟨proper_ifcfgLines (by simp) (by simp) h,
      proper_put (by simp) (by simp),by simp⟩

theorem valueOf?_ifcfgV6 {v6 : String} : (ifcfgV6 v6).filterMap (valueOf? key) =
    if v6 = "" then [] else (if "IPV6ADDR" = key then [addressPart v6] else []) ++
      (if "IPV6PREFIX" = key then (prefixPart v6).toList else []) ++
      if "IPV6INIT" = key then ["yes"] else [] := by
  rw [ifcfgV6]
  split
  · rfl
  · rw [List.filterMap_append,valueOf?_ifcfgLines]
    by_cases hinit : "IPV6INIT" = key <;> simp [valueOf?_put,hinit]

theorem readIfcfg_static {v4 gw v6 : String} (hiface : '\n' ∉ iface.toList)
    (hv4 : '\n' ∉ v4.toList) (hgw : '\n' ∉ gw.toList) (hv6 : '\n' ∉ v6.toList) :
    readIfcfg ("DEVICE=" ++ iface ++ "\nONBOOT=yes\n" ++
      ("BOOTPROTO=static\n" ++ ifcfgAddress "IPADDR" "PREFIX" v4 ++
        (if gw = "" then "" else "GATEWAY=" ++ gw ++ "\n") ++
        if v6 = "" then "" else ifcfgAddress "IPV6ADDR" "IPV6PREFIX" v6 ++ "IPV6INIT=yes\n")) =
      ⟨v4 :: [v6].filter (· ≠ ""),[gw].filter (· ≠ ""),false,false⟩ := by
  have hstatic : HasLines "BOOTPROTO=static\n" [put "BOOTPROTO" "static"] := by
    rw [HasLines]
    decide
  have hlines : HasLines _ (ifcfgStatic iface v4 gw v6) :=
    (hasLines_ifcfgHead iface).append (((hstatic.append (hasLines_ifcfgAddress _ _ v4)).append
      (hasLines_putSome "GATEWAY=" (by decide))).append (hasLines_ifcfgV6 v6))
  have hproper : ∀ l ∈ ifcfgStatic iface v4 gw v6, l.Proper := by
    simp only [ifcfgStatic,List.forall_mem_append,List.forall_mem_cons]
    refine ⟨proper_ifcfgHead hiface,⟨⟨⟨?_,by simp⟩,?_⟩,?_⟩,proper_ifcfgV6 hv6⟩
    · exact proper_put (by simp) (by simp)
    · exact proper_ifcfgLines (by simp) (by simp) hv4
    · exact proper_putSome (by simp) (by simp) hgw
  have hvalues := hlines.textsOf hproper
  simp only [ifcfgStatic,ifcfgHead,List.filterMap_append,List.filterMap_cons,List.filterMap_nil,
    valueOf?_put,valueOf?_putSome,valueOf?_ifcfgLines,valueOf?_ifcfgV6] at hvalues
  simp only [readIfcfg,hvalues]
  by_cases hempty : v6 = ""
  · simp [hempty,withPrefix_parts]
  · simp [hempty,withPrefix_parts]

end Files

end Nexplane
