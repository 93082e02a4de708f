import Nexplane.AllowlistHosts
import Mathlib.Data.Set.Defs

set_option autoImplicit false

/-! Which allowlists mean the same at the two enforcement points of a tunnel. -/

namespace Nexplane
open Text Ip

/-- The list is one for the agent too, and the verdicts on dials to `hosts` are the same. -/
def SameVerdicts (tables : CaseTables) (hosts : List Char → Prop) (entries : List (List Char)) :
    Prop :=
  ∀ rules, Authorizer.parseAllowlist tables entries = .ok rules →
    ∃ agentRules, AgentAllowlist.parseAllowlist tables entries = .ok agentRules ∧
      ∀ host, Ascii host → hosts host → ∀ port : Int, 1 ≤ port → port ≤ 65535 →
        Authorizer.isAllowed tables rules host port =
          AgentAllowlist.isAllowed tables agentRules host port

/-- The control plane skips the entry or reads a rule from it. -/
def Accepted (tables : CaseTables) (e : List Char) : Prop :=
  strip e = [] ∨ ∃ rule, Authorizer.parseRule tables e = .ok rule

/-- The numbers of a port text. -/
def portNumbers (port : List Char) : List (List Char) :=
  match splitFirst '-' port with
  | some (lo,hi) => [lo,hi]
  | none => [port]

def DecimalPorts (port : List Char) : Prop := port = ['*'] ∨ ∀ text ∈ portNumbers port, Decimal text

structure PlainEntry (e hostPart portPart : List Char) : Prop where
  bare : strip e = e
  parts : splitLast ':' e = some (hostPart,portPart)
  ports : DecimalPorts portPart

section Ports

variable {port : List Char} {lo hi : Int} {ports : AgentAllowlist.RulePorts}

theorem decimalPorts_of_agent (h : AgentAllowlist.parsePorts port = .ok ports) :
    DecimalPorts port := by
  unfold AgentAllowlist.parsePorts at h
  split at h
  · next hstar => exact Or.inl hstar
  · right
    split at h
    · next minText maxText hs =>
      split at h
      · next hmin hmax => simp [portNumbers,hs,atoi_decimal hmin,atoi_decimal hmax]
      · cases h
    · next hs =>
      split at h
      · next hp => simp [portNumbers,hs,atoi_decimal hp]
      · cases h

theorem DecimalPorts.chars (h : DecimalPorts port) :
    ∀ c ∈ port, c.isDigit = true ∨ c = '-' ∨ c = '+' ∨ c = '*' := by
  intro c hc
  rcases h with rfl | h
  · simp_all
  · unfold portNumbers at h
    split at h
    · next minText maxText hs =>
      obtain ⟨rfl,_⟩ := splitFirst_eq_some.mp hs
      simp only [List.mem_append,List.mem_cons] at hc
      rcases hc with hc | rfl | hc
      · have := (h minText (by simp)).chars c hc
        tauto
      · simp
      · have := (h maxText (by simp)).chars c hc
        tauto
    · have := (h port (by simp)).chars c hc
      tauto

/-- Decimal ports that the control plane accepts are the same ports for the agent. -/
theorem ports_agree (h : Authorizer.parsePorts port = .ok (lo,hi)) (hdec : DecimalPorts port) :
    ∃ ports, AgentAllowlist.parsePorts port = .ok ports ∧
      ∀ p : Int, 1 ≤ p → p ≤ 65535 → (ports.admits p = true ↔ lo ≤ p ∧ p ≤ hi) := by
  obtain ⟨hrange,⟨rfl,rfl,rfl⟩ | ⟨hstar,hread⟩⟩ := Authorizer.parsePorts_ok h
  · exact ⟨.any,rfl,fun p hlo hhi => by simp [AgentAllowlist.RulePorts.admits,hlo,hhi]⟩
  · refine ⟨.range lo hi,?_,fun p _ _ => by simp [AgentAllowlist.RulePorts.admits]⟩
    have hdec : ∀ text ∈ portNumbers port, Decimal text := hdec.resolve_left hstar
    unfold portNumbers at hdec
    unfold AgentAllowlist.parsePorts
    rw [if_neg hstar]
    cases hs : splitFirst '-' port with
    | some p =>
      simp only [hs,List.forall_mem_cons] at hread hdec
      simp only [atoi_of_pyInt hdec.1 hread.1 (by omega),
        atoi_of_pyInt hdec.2.1 hread.2 (by omega)]
      exact if_neg (by omega)
    | none =>
      simp only [hs,List.forall_mem_cons] at hread hdec
      obtain ⟨hlo,rfl⟩ := hread
      simp only [atoi_of_pyInt hdec.1 hlo (by omega)]
      exact if_neg (by omega)

end Ports

section Entries

variable {tables : CaseTables} {hosts : List Char → Prop} {e hostPart portPart : List Char}

/-- Both ends read rules with the same verdicts from the entry. -/
def EntryAgrees (tables : CaseTables) (hosts : List Char → Prop) (e : List Char) : Prop :=
  ∃ rule agentRule, Authorizer.parseRule tables e = .ok rule ∧
    AgentAllowlist.parseEntry tables e = .ok agentRule ∧
    ∀ host, Ascii host → hosts host → ∀ port : Int, 1 ≤ port → port ≤ 65535 →
      rule.matches tables host port = agentRule.admits tables host port

theorem entryAgrees_of_plain {rule : Authorizer.Rule} (hplain : PlainEntry e hostPart portPart)
    (hrule : Authorizer.parseRule tables e = .ok rule) (hhosts : HostsAgree tables hosts hostPart) :
    EntryAgrees tables hosts e := by
  obtain ⟨hostPart',portPart',lo,hi,hs,hne,hports,rfl⟩ := Authorizer.parseRule_ok.mp hrule
  rw [hplain.bare,hplain.parts] at hs
  obtain ⟨rfl,rfl⟩ := Prod.mk.inj (Option.some.inj hs)
  obtain ⟨ports,hagent,hadmits⟩ := ports_agree hports hplain.ports
  obtain ⟨ruleHost,hhost,hagree⟩ := hhosts
  refine ⟨_,⟨ruleHost,ports⟩,hrule,
    AgentAllowlist.parseEntry_ok.mpr ⟨_,_,_,_,hplain.parts,hhost,hagent,rfl⟩,
    fun host hascii hh port hlo hhi => ?_⟩
  have hport := hadmits port hlo hhi
  by_cases hin : lo ≤ port ∧ port ≤ hi
  · simp [Authorizer.Rule.matches,AgentAllowlist.Rule.admits,hin,hport.mpr hin,
      hagree host hascii hh]
  · have hno : ports.admits port = false := by
      rw [Bool.eq_false_iff]
      exact fun hyes => hin (hport.mp hyes)
    simp [Authorizer.Rule.matches,AgentAllowlist.Rule.admits,hin,hno]

/-- Surrounding spaces lose an entry's meaning for the agent. -/
theorem lead_eq_nil {lead : List Char} {ruleHost : AgentAllowlist.RuleHost}
    (hascii : Ascii (lead ++ hostPart)) (hspace : ∀ c ∈ lead, isSpace c = true)
    (hnames : ∀ host, Authorizer.ipAddress host = none → hosts host)
    (hrule : AgentAllowlist.parseHost tables (lead ++ hostPart) = .ok ruleHost)
    (hagree : ∀ host, Ascii host → hosts host →
      (Authorizer.ruleHost tables hostPart).matches tables host = ruleHost.admits tables host) :
    lead = [] := by
  cases lead with
  | nil => rfl
  | cons c lead =>
    exfalso
    have hc := hspace c List.mem_cons_self
    have hchar : ¬AddrChar c ∧ c ≠ '%' ∧ c ≠ '/' := by
      refine ⟨?_,?_,?_⟩
      · intro haddr
        rw [addrChar_isSpace haddr] at hc
        cases hc
      · rintro rfl
        exact absurd hc (by decide)
      · rintro rfl
        exact absurd hc (by decide)
    obtain ⟨haddr,hpercent,hslash⟩ := hchar
    rw [List.cons_append] at hrule hascii
    by_cases hs : '/' ∈ c :: (lead ++ hostPart)
    · obtain ⟨net,hcidr,_⟩ := (AgentAllowlist.parseHost_slash hs).mp hrule
      obtain ⟨addr,mask,a,n,hsplit,ha,_⟩ := AgentAllowlist.parseCIDR_eq_some.mp hcidr
      simp only [splitFirst,if_neg hslash] at hsplit
      obtain ⟨p,_,heq⟩ := Option.map_eq_some_iff.mp hsplit
      obtain ⟨rfl,_⟩ := Prod.mk.inj heq
      exact haddr (parse_chars ha c List.mem_cons_self)
    · have hparse : parse (c :: (lead ++ hostPart)) = none :=
        parse_eq_none List.mem_cons_self haddr
      have hip : Authorizer.ipAddress (c :: (lead ++ hostPart)) = none :=
        Authorizer.ipAddress_first haddr hpercent
      rw [AgentAllowlist.parseHost_single tables hs,hparse] at hrule
      obtain rfl := Except.ok.inj hrule
      have hverdict := hagree _ hascii (hnames _ hip)
      have hfold := (equalFold_ascii tables hascii hascii).mpr rfl
      simp only [AgentAllowlist.RuleHost.admits,AgentAllowlist.parseIP,hparse,Option.map_none,hfold,
        Authorizer.RuleHost.matches,hip] at hverdict
      unfold Authorizer.ruleHost at hverdict
      cases hnet : Authorizer.ipNetwork hostPart with
      | some net => simp [hnet] at hverdict
      | none =>
        simp only [hnet,decide_eq_true_iff] at hverdict
        have hhost : Ascii hostPart := fun d hd => hascii d (by simp [hd])
        have hlen := congrArg List.length ((lower_ascii_eq tables hhost hascii).mp hverdict)
        simp at hlen
        omega

theorem plain_of_entryAgrees (hascii : Ascii e)
    (hnames : ∀ host, Authorizer.ipAddress host = none → hosts host)
    (h : EntryAgrees tables hosts e) :
    ∃ hostPart portPart, PlainEntry e hostPart portPart ∧ HostsAgree tables hosts hostPart := by
  obtain ⟨rule,agentRule,hrule,hagent,hagree⟩ := h
  obtain ⟨hostPart,portPart,lo,hi,hs,_,hports,rfl⟩ := Authorizer.parseRule_ok.mp hrule
  obtain ⟨rawHost,rawPort,ruleHost,ports,hraw,hhost,hagentPorts,rfl⟩ :=
    AgentAllowlist.parseEntry_ok.mp hagent
  obtain ⟨lead,trail,he,hlead,htrail⟩ := trim_decompose isSpace e
  obtain ⟨hstrip,hcolon⟩ := splitLast_eq_some.mp hs
  have hraw' : splitLast ':' e = some (lead ++ hostPart,portPart ++ trail) := by
    refine splitLast_eq_some.mpr ⟨?_,?_⟩
    · rw [he]
      change lead ++ strip e ++ trail = _
      rw [hstrip]
      simp
    · simp only [List.mem_append,not_or]
      exact ⟨hcolon,fun hm => absurd (htrail ':' hm) (by decide)⟩
  obtain ⟨rfl,rfl⟩ := Prod.mk.inj (Option.some.inj (hraw.symm.trans hraw'))
  have hdec := decimalPorts_of_agent hagentPorts
  have htrail_nil : trail = [] := by
    cases trail with
    | nil => rfl
    | cons c trail =>
      have hspace := htrail c List.mem_cons_self
      rcases hdec.chars c (by simp) with hd | rfl | rfl | rfl
      · rw [isSpace_isDigit hd] at hspace
        cases hspace
      · exact absurd hspace (by decide)
      · exact absurd hspace (by decide)
      · exact absurd hspace (by decide)
  subst htrail_nil
  rw [List.append_nil] at hdec hagentPorts hraw' he
  obtain ⟨ports',hports',hadmits⟩ := ports_agree hports hdec
  obtain rfl := Except.ok.inj (hagentPorts.symm.trans hports')
  obtain ⟨hrange,_⟩ := Authorizer.parsePorts_ok hports
  have hverdict : ∀ host, Ascii host → hosts host →
      (Authorizer.ruleHost tables hostPart).matches tables host = ruleHost.admits tables host := by
    intro host hh hin
    have hlo : ports.admits lo = true := (hadmits lo (by omega) (by omega)).mpr (by omega)
    have hboth := hagree host hh hin lo (by omega) (by omega)
    simpa [Authorizer.Rule.matches,AgentAllowlist.Rule.admits,hlo,hrange] using hboth
  have hascii' : Ascii (lead ++ hostPart) := by
    obtain ⟨heq,_⟩ := splitLast_eq_some.mp hraw'
    exact fun c hc => hascii c (by rw [heq]; exact List.mem_append_left _ hc)
  obtain rfl := lead_eq_nil hascii' hlead hnames hhost hverdict
  exact ⟨hostPart,portPart,⟨he.symm,hraw',hdec⟩,ruleHost,hhost,hverdict⟩

end Entries

section Lists

variable {tables : CaseTables} {hosts : List Char → Prop} {e : List Char} {E : Set (List Char)}

/-- The two ends agree on every list of entries from `E`. -/
def Agree (tables : CaseTables) (hosts : List Char → Prop) (E : Set (List Char)) : Prop :=
  ∀ entries : List (List Char), (∀ e ∈ entries, e ∈ E) → SameVerdicts tables hosts entries

theorem parseRule_blank (h : strip e = []) {rule : Authorizer.Rule} :
    Authorizer.parseRule tables e ≠ .ok rule := by
  intro hrule
  obtain ⟨hostPart,portPart,lo,hi,hs,_⟩ := Authorizer.parseRule_ok.mp hrule
  rw [h] at hs
  cases hs

theorem colon_notMem_blank (h : strip e = []) : ':' ∉ e := by
  obtain ⟨lead,trail,he,hlead,htrail⟩ := trim_decompose isSpace e
  have hnil : trim isSpace e = [] := h
  rw [hnil,List.append_nil] at he
  intro hm
  rw [he] at hm
  rcases List.mem_append.mp hm with hm | hm
  · exact absurd (hlead ':' hm) (by decide)
  · exact absurd (htrail ':' hm) (by decide)

/-- Rules that agree one by one agree as lists. -/
theorem rules_agree {entries : List (List Char)} {rules : List Authorizer.Rule}
    (h : List.Forall₂ (fun e rule => Authorizer.parseRule tables e = .ok rule) entries rules)
    (hagree : ∀ e ∈ entries, ∀ rule, Authorizer.parseRule tables e = .ok rule →
      EntryAgrees tables hosts e) :
    ∃ agentRules, AgentAllowlist.parseAllowlist tables entries = .ok agentRules ∧
      ∀ host, Ascii host → hosts host → ∀ port : Int, 1 ≤ port → port ≤ 65535 →
        (rules.any fun r => r.matches tables host port) =
          AgentAllowlist.isAllowed tables agentRules host port := by
  induction h with
  | nil => exact ⟨[],rfl,fun _ _ _ _ _ _ => rfl⟩
  | @cons e rule entries rules hrule _ ih =>
    obtain ⟨agentRules,hrest,hverdicts⟩ := ih fun e' he' => hagree e' (List.mem_cons_of_mem _ he')
    obtain ⟨rule',agentRule,hrule',hagent,hsame⟩ := hagree e List.mem_cons_self rule hrule
    obtain rfl := Except.ok.inj (hrule.symm.trans hrule')
    refine ⟨agentRule :: agentRules,?_,fun host hascii hh port hlo hhi => ?_⟩
    · have hrest' : entries.mapM (AgentAllowlist.parseEntry tables) = .ok agentRules := hrest
      rw [AgentAllowlist.parseAllowlist,List.mapM_cons,hagent,hrest']
      rfl
    · rw [List.any_cons,hsame host hascii hh port hlo hhi,hverdicts host hascii hh port hlo hhi]
      rfl

theorem agree_iff : Agree tables hosts E ↔
    ∀ e ∈ E, Accepted tables e → EntryAgrees tables hosts e := by
  constructor
  · intro h e he haccepted
    have hlist := h [e] (by simpa using he)
    rcases haccepted with hblank | ⟨rule,hrule⟩
    · exfalso
      have hskip : Authorizer.parseAllowlist tables [e] = .ok [] := by
        simp [Authorizer.parseAllowlist,hblank,pure,Except.pure]
      obtain ⟨agentRules,hagent,_⟩ := hlist [] hskip
      have hfail : AgentAllowlist.parseAllowlist tables [e] = .error (.missingColon e) := by
        rw [AgentAllowlist.parseAllowlist,List.mapM_cons,AgentAllowlist.parseEntry,
          splitLast_eq_none.mpr (colon_notMem_blank hblank)]
        rfl
      rw [hfail] at hagent
      cases hagent
    · have hne : strip e ≠ [] := fun hblank => parseRule_blank hblank hrule
      have hone : Authorizer.parseAllowlist tables [e] = .ok [rule] := by
        simp [Authorizer.parseAllowlist,hne,hrule,pure,Except.pure,bind,Except.bind]
      obtain ⟨agentRules,hagent,hsame⟩ := hlist [rule] hone
      have hpairs := Checks.mapM_forall₂ hagent
      cases hpairs with
      | @cons _ agentRule _ rest hentry hrest =>
      cases hrest
      refine ⟨rule,agentRule,hrule,hentry,fun host hascii hh port hlo hhi => ?_⟩
      have hverdict := hsame host hascii hh port hlo hhi
      simpa [Authorizer.isAllowed,AgentAllowlist.isAllowed,hlo,hhi] using hverdict
  · intro h entries hin rules hrules
    have hne : ∀ e ∈ entries, strip e ≠ [] := by
      intro e he hblank
      obtain ⟨rule,_,hrule,_⟩ := h e (hin e he) (Or.inl hblank)
      exact parseRule_blank hblank hrule
    have hfilter : (entries.filter fun e => strip e ≠ []) = entries :=
      List.filter_eq_self.mpr fun e he => by simpa using hne e he
    rw [Authorizer.parseAllowlist,hfilter] at hrules
    have hpairs := Checks.mapM_forall₂ hrules
    obtain ⟨agentRules,hagent,hverdicts⟩ := rules_agree hpairs fun e he rule hrule =>
      h e (hin e he) (Or.inr ⟨rule,hrule⟩)
    refine ⟨agentRules,hagent,fun host hascii hh port hlo hhi => ?_⟩
    rw [Authorizer.isAllowed,if_neg fun hn => hn ⟨hlo,hhi⟩]
    exact hverdicts host hascii hh port hlo hhi

theorem agree_iff_plain {P : List Char → Prop} (hascii : ∀ e ∈ E, Ascii e)
    (hnames : ∀ host, Authorizer.ipAddress host = none → hosts host)
    (hhosts : ∀ hostPart, Ascii hostPart → (HostsAgree tables hosts hostPart ↔ P hostPart)) :
    Agree tables hosts E ↔ ∀ e ∈ E, Accepted tables e →
      ∃ hostPart portPart, PlainEntry e hostPart portPart ∧ P hostPart := by
  have hpart : ∀ e ∈ E, ∀ hostPart portPart, PlainEntry e hostPart portPart → Ascii hostPart := by
    intro e he hostPart portPart hplain c hc
    obtain ⟨heq,_⟩ := splitLast_eq_some.mp hplain.parts
    exact hascii e he c (by simp [heq,hc])
  rw [agree_iff]
  constructor
  · intro h e he haccepted
    obtain ⟨hostPart,portPart,hplain,hagree⟩ :=
      plain_of_entryAgrees (hascii e he) hnames (h e he haccepted)
    exact ⟨hostPart,portPart,hplain,(hhosts hostPart (hpart e he _ _ hplain)).mp hagree⟩
  · intro h e he haccepted
    obtain ⟨hostPart,portPart,hplain,hP⟩ := h e he haccepted
    have hagree := (hhosts hostPart (hpart e he _ _ hplain)).mpr hP
    rcases haccepted with hblank | ⟨rule,hrule⟩
    · -- nothing is left of a blank entry to split
      have hparts := hplain.parts
      rw [← hplain.bare,hblank] at hparts
      cases hparts
    · exact entryAgrees_of_plain hplain hrule hagree

def asciiTables : CaseTables where
  lower := List.map Char.toLower
  toLower := Char.toLower
  fold := Char.toLower
  lower_ascii := fun _ _ => rfl
  toLower_ascii := fun _ _ => rfl
  fold_ascii := fun _ _ => rfl

end Lists

end Nexplane
