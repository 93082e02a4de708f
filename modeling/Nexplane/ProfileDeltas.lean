import Nexplane.PolicyDeltas

set_option autoImplicit false

/-! The deltas between two profiles that are texts, and those of all the policy plugins. -/

namespace Nexplane
open PyValue Patterns Globs Text Words Deltas

section Lines

variable {cs : List Char} {c : Char}

theorem strip_blank (h : isSpace c = true) (cs : List Char) : strip (c :: cs) = strip cs := by
  rw [strip,trim,List.dropWhile_cons_of_pos h]
  rfl

/-- The lines that are joined are those of the text. -/
theorem splitLines_lines {lines : List String} {last : String}
    (h : ∀ line ∈ lines ++ [last], Spaced line.toList) :
    splitLines ("\n".intercalate (lines ++ [last])).toList =
      (lines ++ if last.isEmpty then [] else [last]).map String.toList := by
  have htext : ("\n".intercalate (lines ++ [last])).toList =
      ['\n'].intercalate (lines.map String.toList ++ [last.toList]) := by
    simp [String.toList_intercalate]
  rw [htext,splitLines_join]
  · cases hempty : last.isEmpty with
    | true =>
      have hlast := String.isEmpty_iff.mp hempty
      simp [hlast]
    | false =>
      have hlast : last ≠ "" := fun he => by simp [he] at hempty
      simp [hlast]
  · intro l hl
    obtain ⟨line,hline,rfl⟩ := List.mem_map.mp hl
    exact (h line (List.mem_append_left _ hline)).noBreak
  · exact (h last (List.mem_append_right _ (List.mem_singleton_self _))).noBreak

theorem strip_ends {d : Char} (hc : isSpace c = false) (hd : isSpace d = false) (middle : List Char) :
    strip (c :: (middle ++ [d])) = c :: (middle ++ [d]) := by
  refine trim_of_ends ?_ ?_
  · simpa using hc
  · rw [← List.cons_append,List.getLast?_concat]
    simpa using hd

theorem rstripChar_start (c : Char) (cs : List Char) : rstripChar c cs <+: cs := by
  rw [rstripChar,← List.reverse_suffix,List.reverse_reverse]
  exact List.dropWhile_suffix _

end Lines

section Sets

theorem nodup_eraseDups (texts : List String) : texts.eraseDups.Nodup := by
  induction hlen : texts.length using Nat.strong_induction_on generalizing texts with
  | _ n ih =>
    cases texts with
    | nil => exact List.nodup_nil
    | cons t texts =>
      rw [List.eraseDups_cons,List.nodup_cons]
      constructor
      · rw [List.mem_eraseDups,List.mem_filter]
        rintro ⟨_,hother⟩
        simp at hother
      · refine ih _ ?_ _ rfl
        have hle := List.length_filter_le (fun b => !b == t) texts
        rw [← hlen,List.length_cons]
        omega

/-- Sets with the same elements are sorted to the same list. -/
theorem sortedSet_congr {texts texts' : List String} (h : ∀ t, t ∈ texts ↔ t ∈ texts') :
    sortedSet texts = sortedSet texts' := by
  have hperm : (sortedSet texts).Perm (sortedSet texts') := by
    refine (List.perm_ext_iff_of_nodup ?_ ?_).mpr fun t => ?_
    · exact (List.perm_insertionSort _ _).nodup_iff.mpr (nodup_eraseDups texts)
    · exact (List.perm_insertionSort _ _).nodup_iff.mpr (nodup_eraseDups texts')
    · rw [mem_sortedSet,mem_sortedSet,h]
  exact hperm.eq_of_sortedLE List.sortedLE_insertionSort List.sortedLE_insertionSort

end Sets

namespace Selinux

section Deltas

variable {word : Char → Bool} {rule rule' : Parsed} {rules : List Parsed} {line : String}

/-- What is compared of a line. -/
def extractLine (line : List Char) : Option String :=
  let stripped := rstripChar ';' (strip line)
  if "allow ".toList <+: stripped then some (String.ofList stripped) else none

def deltaExtract (profile : PolicyModule) : List String :=
  (splitLines profile.moduleSource.toList).filterMap extractLine

def plugin (word : Char → Bool) : DeltaPlugin String PolicyModule String where
  keyLe a b := a ≤ b
  synthesize := synthesize word
  deltaExtract := deltaExtract

def ruleName (rule : Parsed) : String :=
  "allow " ++ rule.key.stype ++ " " ++ rule.key.ttype ++ ":" ++ rule.key.tclass ++ " \x7b " ++
    permStr rule.perms ++ " \x7d"

theorem allowLine_name (rule : Parsed) : allowLine rule = ruleName rule ++ ";" := by
  have hclose : " \x7d;" = " \x7d" ++ ";" := by simp
  rw [allowLine,ruleName,hclose]
  simp [String.append_assoc]

theorem extractLine_allowLine (rule : Parsed) : extractLine (allowLine rule).toList = some (ruleName rule) := by
  have hname : ∃ middle, (ruleName rule).toList = "allow ".toList ++ middle ∧
      (ruleName rule).toList.getLast? = some '\x7d' := by
    refine ⟨(rule.key.stype ++ " " ++ rule.key.ttype ++ ":" ++ rule.key.tclass ++ " \x7b " ++
      permStr rule.perms ++ " \x7d").toList,by simp [ruleName],?_⟩
    have hend : " \x7d".toList = [' '] ++ ['\x7d'] := by simp
    rw [ruleName,String.toList_append,hend,← List.append_assoc,List.getLast?_concat]
  obtain ⟨middle,hmiddle,hlast⟩ := hname
  have hallow : "allow ".toList = 'a' :: "llow ".toList := by simp
  have hstrip : strip (allowLine rule).toList = (allowLine rule).toList := by
    rw [allowLine_name,String.toList_append,hmiddle,hallow]
    exact strip_ends (by decide) (by decide) ("llow ".toList ++ middle)
  have hstripped : rstripChar ';' (strip (allowLine rule).toList) = (ruleName rule).toList := by
    rw [hstrip,allowLine_name,String.toList_append]
    refine rstripChar_append ?_
    rw [hlast]
    decide
  rw [extractLine,hstripped,if_pos ⟨middle,hmiddle.symm⟩,String.ofList_toList]

/-- A line that does not begin with the letter of the keyword is not compared. -/
theorem extractLine_none {cs : List Char} (h : (strip cs).head? ≠ some 'a') : extractLine cs = none := by
  rw [extractLine]
  refine if_neg fun hprefix => h ?_
  obtain ⟨rest,hrest⟩ := hprefix.trans (rstripChar_start ';' (strip cs))
  have hallow : "allow ".toList = 'a' :: "llow ".toList := by simp
  rw [← hrest,hallow]
  rfl

theorem extractLine_typeLine (type : String) : extractLine (typeLine type).toList = none := by
  refine extractLine_none ?_
  have hline : (typeLine type).toList =
      ' ' :: ' ' :: ' ' :: ' ' :: 't' :: (("ype " ++ type).toList ++ [';']) := by simp [typeLine]
  rw [hline,strip_blank (by decide),strip_blank (by decide),strip_blank (by decide),
    strip_blank (by decide),strip_ends (by decide) (by decide)]
  simp

theorem extractLine_classLine (tclass : String × List String) :
    extractLine (classLine tclass).toList = none := by
  refine extractLine_none ?_
  have hline : (classLine tclass).toList = ' ' :: ' ' :: ' ' :: ' ' :: 'c' ::
      (("lass " ++ tclass.1 ++ " \x7b " ++ permStr tclass.2 ++ " \x7d").toList ++ [';']) := by
    simp [classLine]
  rw [hline,strip_blank (by decide),strip_blank (by decide),strip_blank (by decide),
    strip_blank (by decide),strip_ends (by decide) (by decide)]
  simp

/-- The rules of a module, by the text that is read of it. -/
def allowed (profile : PolicyModule) : List Parsed := (readModule profile.moduleSource).rules

theorem allowed_synthesize (hword : WordChars word) (raw : Observations String) :
    allowed (synthesize word raw) = rulesOf (raw.events.filterMap (parseAvcLine word)) := by
  rw [allowed,readModule_synthesize hword]

theorem allowed_legible (hword : WordChars word) (raw : Observations String) :
    ∀ rule ∈ allowed (synthesize word raw), rule.Legible word := by
  rw [allowed_synthesize hword]
  refine rulesOf_legible fun p hp => ?_
  obtain ⟨line,_,hline⟩ := List.mem_filterMap.mp hp
  exact parseAvcLine_legible hline

theorem deltaExtract_synthesize (hword : WordChars word) (raw : Observations String) :
    deltaExtract (synthesize word raw) = (allowed (synthesize word raw)).map ruleName := by
  rw [allowed_synthesize hword,deltaExtract,synthesize]
  dsimp only
  have hlegible := allowed_legible hword raw
  rw [allowed_synthesize hword] at hlegible
  generalize rulesOf (raw.events.filterMap (parseAvcLine word)) = rules at hlegible
  split
  · next hempty =>
    rw [List.isEmpty_iff.mp hempty]
    decide
  · have hspaced : ∀ line ∈ moduleLines rules ++ [""], Spaced line.toList := by
      intro line hline
      rcases List.mem_append.mp hline with hline | hline
      · exact moduleLines_spaced hword hlegible line hline
      · rw [List.mem_singleton.mp hline]
        exact spaced_const (by simp)
    have hne : moduleLines rules ≠ [] := by simp [moduleLines]
    have hheader : ["module " ++ moduleName ++ " 1.0;","","require \x7b"].filterMap
        (fun line => extractLine line.toList) = [] := by decide
    have hfooter : ["\x7d",""].filterMap (fun line => extractLine line.toList) = [] := by decide
    have htypes : ((typesOf rules).map typeLine).filterMap (fun line => extractLine line.toList) = [] :=
      filterMap_map_none fun type _ => extractLine_typeLine type
    have hclasses : ((classesOf rules).map classLine).filterMap
        (fun line => extractLine line.toList) = [] :=
      filterMap_map_none fun tclass _ => extractLine_classLine tclass
    have hrules : (rules.map allowLine).filterMap (fun line => extractLine line.toList) =
        rules.map ruleName := filterMap_map_some fun rule _ => extractLine_allowLine rule
    have hends : (if "".isEmpty then [] else [""]) = ([] : List String) := rfl
    rw [intercalate_end hne,splitLines_lines hspaced,hends,List.append_nil,List.filterMap_map]
    have hlines : (extractLine ∘ String.toList) = fun line : String => extractLine line.toList := rfl
    rw [hlines,moduleLines,List.filterMap_append,List.filterMap_append,List.filterMap_append,
      List.filterMap_append,hheader,hfooter,htypes,hclasses,hrules]
    rfl

/-- The permission of the class from the one type to the other. -/
def Parsed.Permits (rule : Parsed) (denial : RuleKey × String) : Prop :=
  rule.key = denial.1 ∧ denial.2 ∈ rule.perms

theorem ruleName_inj (hword : WordChars word) (h : rule.Legible word) (h' : rule'.Legible word)
    (hname : ruleName rule = ruleName rule') : rule = rule' := by
  have hline : allowLine rule = allowLine rule' := by rw [allowLine_name,allowLine_name,hname]
  have hread := readAllow_allowLine hword h
  rw [hline,readAllow_allowLine hword h'] at hread
  exact (Option.some.inj hread).symm

theorem delta_ofRules (hword : WordChars word) (prior current : Observations String) :
    OfRules Parsed.Permits ruleName (allowed (synthesize word prior)) (allowed (synthesize word current))
      (soakDelta (plugin word) prior current) := by
  have hnamed : Named ruleName (allowed (synthesize word prior)) (allowed (synthesize word current))
      (deltaExtract (synthesize word prior)) (deltaExtract (synthesize word current)) := by
    rw [deltaExtract_synthesize hword,deltaExtract_synthesize hword]
    exact ⟨fun _ => List.mem_map,fun _ => List.mem_map,fun r hr r' hr' h =>
      ruleName_inj hword (allowed_legible hword prior r hr) (allowed_legible hword current r' hr') h⟩
  exact hnamed.ofRules _

variable {parsed parsed' : List Parsed}

theorem rule_unique {r r' : Parsed} (hr : r ∈ rulesOf parsed) (hr' : r' ∈ rulesOf parsed)
    (hkey : r.key = r'.key) : r = r' := List.inj_on_of_nodup_map (rulesOf_keys parsed) hr hr' hkey

theorem rulesOf_subset (h : SameEvents Parsed.Permits (rulesOf parsed) (rulesOf parsed'))
    (hperms : ∀ p ∈ parsed, p.perms ≠ []) (hr : rule ∈ rulesOf parsed) : rule ∈ rulesOf parsed' := by
  obtain ⟨⟨p,hp,hkey⟩,hrule⟩ := mem_rulesOf.mp hr
  obtain ⟨perm,hperm⟩ := List.exists_mem_of_ne_nil _ (hperms p hp)
  have hmem : perm ∈ rule.perms := (mem_rule_perms hr).mpr ⟨p,hp,hkey,hperm⟩
  obtain ⟨r',hr',hkey',_⟩ := (h (rule.key,perm)).mp ⟨rule,hr,rfl,hmem⟩
  obtain ⟨_,hrule'⟩ := mem_rulesOf.mp hr'
  have hsame : ∀ t, t ∈ rule.perms ↔ t ∈ r'.perms := by
    intro t
    constructor
    · intro ht
      obtain ⟨r'',hr'',hkey'',ht''⟩ := (h (rule.key,t)).mp ⟨rule,hr,rfl,ht⟩
      rwa [rule_unique hr'' hr' (hkey''.trans hkey'.symm)] at ht''
    · intro ht
      obtain ⟨r'',hr'',hkey'',ht''⟩ := (h (rule.key,t)).mpr ⟨r',hr',hkey',ht⟩
      rwa [rule_unique hr'' hr hkey''] at ht''
  have hperms' : rule.perms = r'.perms := by
    rw [hrule,hrule']
    refine sortedSet_congr fun t => ?_
    have ht := hsame t
    rwa [hrule,hrule',mem_sortedSet,mem_sortedSet] at ht
  have heq : rule = r' := by
    cases rule
    cases r'
    simp_all
  rw [heq]
  exact hr'

/-- When every denial lists a permission, the delta is one of what is permitted. -/
theorem delta_ofEvents (hword : WordChars word) {prior current : Observations String}
    (hprior : ∀ p ∈ prior.events.filterMap (parseAvcLine word), p.perms ≠ [])
    (hcurrent : ∀ p ∈ current.events.filterMap (parseAvcLine word), p.perms ≠ []) :
    OfEvents Parsed.Permits ruleName (allowed (synthesize word prior)) (allowed (synthesize word current))
      (soakDelta (plugin word) prior current) := by
  refine (delta_ofRules hword prior current).ofEvents fun hevents r => ?_
  rw [allowed_synthesize hword,allowed_synthesize hword] at hevents ⊢
  exact ⟨rulesOf_subset hevents hprior,rulesOf_subset (fun e => (hevents e).symm) hcurrent⟩

end Deltas

end Selinux

namespace AppArmor

/-- A rule as its line has it, such as "capability chown" or "/etc/passwd r". -/
structure RuleLine where
  head : String
  tail : String
  deriving DecidableEq, Repr

def RuleLine.name (rule : RuleLine) : String := rule.head ++ " " ++ rule.tail

/-- Two words and a comma, and no comment. -/
def readRule (line : String) : Option RuleLine :=
  match stringFields line with
  | [head,tail] =>
    if head.toList.head? ≠ some '#' ∧ tail.toList.getLast? = some ',' then
      some ⟨head,String.ofList tail.toList.dropLast⟩
    else none
  | _ => none

def rulesOf (text : String) : List RuleLine :=
  (text.toList.splitOn '\n').filterMap fun line => readRule (String.ofList line)

def RuleLine.Permits (rule : RuleLine) (event : Event) : Prop :=
  rule.head = "capability" ∧ event = ⟨"capability",rule.tail⟩ ∨
    rule.head = "network" ∧ event = ⟨"network",rule.tail⟩ ∨
      rule.head.toList.head? = some '/' ∧ (rule.tail.toList ≠ [] ∧ rule.tail.toList.all isMode) ∧
        ∃ mask, maskOf event.operation = some mask ∧ mask.toList ⊆ rule.tail.toList ∧
          fits (tokens rule.head.toList) event.resource.toList = true

/-- What is compared of a line. The lines of the header are left out by how they begin. -/
def extractLine (line : List Char) : Option String :=
  let stripped := rstripChar ',' (strip line)
  if stripped ≠ [] ∧ ¬['#'] <+: stripped ∧ stripped ≠ ['\x7b'] ∧ stripped ≠ ['\x7d'] ∧
      ¬"/usr/sbin/".toList <+: stripped then
    some (String.ofList stripped)
  else none

def deltaExtract (profile : Profile) : List String :=
  (splitLines profile.profileText.toList).filterMap extractLine

def plugin : DeltaPlugin Event Profile String where
  keyLe a b := a ≤ b
  synthesize := synthesize
  deltaExtract := deltaExtract

/-- The rules that are not taken for the header. -/
def RuleLine.Shown (rule : RuleLine) : Prop := ¬"/usr/sbin/".toList <+: rule.head.toList

instance : DecidablePred RuleLine.Shown := fun _ => inferInstanceAs (Decidable (¬_))

def shownRules (profile : Profile) : List RuleLine :=
  (rulesOf profile.profileText).filter fun rule => rule.Shown

/-- The resource is one word, and a capability or a family does not end in a comma. -/
structure Event.OneWord (event : Event) : Prop where
  word : IsWord isSpace event.resource.toList
  comma : event.operation ∈ ["capability","network"] → event.resource.toList.getLast? ≠ some ','

section Deltas

variable {a b line text : String} {event : Event} {events : List Event} {raw : Observations Event}

theorem isField_of_isWord (h : IsWord isSpace a.toList) : IsField a := by
  refine ⟨?_,fun c hc => ?_⟩
  · rintro rfl
    exact h.nonempty rfl
  · have hspace := h.all c hc
    by_contra hwhite
    rw [Bool.not_eq_false] at hwhite
    simp only [Char.isWhitespace,Bool.or_eq_true,decide_eq_true_eq] at hwhite
    rcases hwhite with ((rfl | rfl) | rfl) | rfl <;> revert hspace <;> decide

theorem prefix_before {p cs rest : List Char} {c : Char} (hc : c ∉ p) (h : p <+: cs ++ c :: rest) :
    p <+: cs := by
  rcases List.prefix_or_prefix_of_prefix h (List.prefix_append cs (c :: rest)) with hp | ⟨more,rfl⟩
  · exact hp
  · cases more with
    | nil => simp
    | cons d more =>
      obtain ⟨tail,htail⟩ := h
      simp only [List.append_assoc,List.append_cancel_left_eq,List.cons_append,List.cons.injEq] at htail
      exact absurd (by simp [htail.1]) hc

/-- The rule of a line of two words is read, and compared unless it is a comment or taken for the
header. -/
theorem extractLine_rule (ha : IsWord isSpace a.toList) (hb : IsWord isSpace b.toList)
    (hcomma : b.toList.getLast? ≠ some ',') :
    extractLine ("  " ++ a ++ " " ++ b ++ ",").toList =
      ((readRule ("  " ++ a ++ " " ++ b ++ ",")).filter fun rule => rule.Shown).map RuleLine.name := by
  obtain ⟨c,first,hfirst⟩ := List.exists_cons_of_ne_nil ha.nonempty
  have hc : isSpace c = false := ha.all c (by simp [hfirst])
  have hline : ("  " ++ a ++ " " ++ b ++ ",").toList =
      ' ' :: ' ' :: c :: ((first ++ ' ' :: b.toList) ++ [',']) := by
    simp [hfirst]
  have hname : (RuleLine.name ⟨a,b⟩).toList = c :: (first ++ ' ' :: b.toList) := by
    simp [RuleLine.name,hfirst]
  have hlast : (c :: (first ++ ' ' :: b.toList)).getLast? = b.toList.getLast? := by
    have hsplit : c :: (first ++ ' ' :: b.toList) = (c :: (first ++ [' '])) ++ b.toList := by simp
    rw [hsplit,List.getLast?_append_of_ne_nil _ hb.nonempty]
  have hstripped : rstripChar ',' (strip ("  " ++ a ++ " " ++ b ++ ",").toList) =
      (RuleLine.name ⟨a,b⟩).toList := by
    rw [hline,strip_blank (by decide),strip_blank (by decide),strip_ends hc (by decide),
      ← List.cons_append,rstripChar_append (by rwa [hlast]),hname]
  have hread : readRule ("  " ++ a ++ " " ++ b ++ ",") =
      if a.toList.head? ≠ some '#' then some ⟨a,b⟩ else none := by
    have hend : (b ++ ",").toList = b.toList ++ [','] := by simp
    rw [readRule,stringFields_two (isField_of_isWord ha) (isField_of_isWord hb).noSpace]
    dsimp only
    rw [hend,List.getLast?_concat,List.dropLast_concat,String.ofList_toList]
    simp
  have hwhole : (RuleLine.name ⟨a,b⟩).toList = a.toList ++ ' ' :: b.toList := by simp [RuleLine.name]
  have hblank : ' ' ∉ "/usr/sbin/".toList := by simp
  rw [extractLine,hstripped,hread]
  by_cases hcomment : a.toList.head? = some '#'
  · rw [if_neg,if_neg (not_not.mpr hcomment)]
    · rfl
    · rintro ⟨_,hno,_⟩
      rw [hfirst] at hcomment
      obtain rfl : c = '#' := by simpa using hcomment
      exact hno (by simp [hname])
  · rw [if_pos hcomment,Option.filter_some]
    by_cases hshown : RuleLine.Shown ⟨a,b⟩
    · rw [if_pos,if_pos (by simpa using hshown),Option.map_some,String.ofList_toList]
      refine ⟨by simp [hname],fun hhash => ?_,by simp [hname],by simp [hname],fun hsbin => hshown ?_⟩
      · rw [hname,List.singleton_prefix_cons_iff] at hhash
        exact hcomment (by simp [hfirst,← hhash])
      · rw [hwhole] at hsbin
        exact prefix_before hblank hsbin
    · rw [if_neg,if_neg (by simpa using hshown)]
      · rfl
      · rintro ⟨_,_,_,_,hno⟩
        refine hshown fun hsbin => hno ?_
        rw [hwhole]
        exact hsbin.trans (List.prefix_append _ _)

theorem extract_const : ∀ line ∈ ["#include <tunables/global>","","/usr/sbin/\x7bservice_name\x7d \x7b",
    "  #include <abstractions/base>","\x7d"], extractLine line.toList = none ∧ readRule line = none := by
  decide

theorem mem_blockOf {lines : List String} {l : String} (h : l ∈ blockOf lines) : l ∈ lines ∨ l = "" := by
  rw [blockOf] at h
  split at h
  · cases h
  · simpa using h

theorem OneWord.globPath (h : IsWord isSpace a.toList) : IsWord isSpace (globPath a).toList := by
  have hfield := isField_of_isWord h
  have hglob := globPath_toList hfield.oneLine
  refine ⟨?_,fun c hc => ?_⟩
  · rw [hglob]
    exact generaliser.glob_ne_nil h.nonempty
  · rw [hglob] at hc
    rcases Generaliser.mem_glob hc with hc | rfl | rfl
    · exact h.all c hc
    · rfl
    · rfl

/-- A line of two words and a comma. -/
def IsRuleLine (line : String) : Prop := ∃ a b, (IsWord isSpace a.toList ∧ IsWord isSpace b.toList ∧
  b.toList.getLast? ≠ some ',') ∧ line = "  " ++ a ++ " " ++ b ++ ","

theorem resource_line {operation : String} (hoperation : operation ∈ ["capability","network"])
    (h : ∀ e ∈ events, e.OneWord) (hb : b ∈ resourcesOf operation events) :
    IsRuleLine ("  " ++ operation ++ " " ++ b ++ ",") := by
  have hkeyword : ∀ op ∈ ["capability","network"], op.toList ≠ [] ∧
      (op.toList.all fun c => !isSpace c) = true := by decide
  obtain ⟨e,he,rfl⟩ := List.mem_map.mp (mem_sortedSet.mp hb)
  obtain ⟨hin,hop⟩ := List.mem_filter.mp he
  obtain rfl : e.operation = operation := by simpa using hop
  obtain ⟨hne,hall⟩ := hkeyword _ hoperation
  refine ⟨_,_,⟨⟨hne,fun c hc => ?_⟩,(h e hin).word,(h e hin).comma hoperation⟩,rfl⟩
  simpa using List.all_eq_true.mp hall c hc

theorem file_line {rule : String × List String} (h : ∀ e ∈ events, e.OneWord)
    (hrule : rule ∈ fileRules events) : IsRuleLine (fileLine rule) := by
  obtain ⟨e,he,_,_,hpath⟩ := (mem_fileRules.mp hrule).1
  obtain ⟨hne,hmodes⟩ := maskText_modes hrule
  have hmode : ∀ c, isMode c = true → isSpace c = false ∧ c ≠ ',' := by
    intro c hc
    simp only [isMode,List.mem_cons,List.not_mem_nil,or_false,decide_eq_true_eq] at hc
    rcases hc with rfl | rfl | rfl | rfl | rfl | rfl <;> exact ⟨by decide,by decide⟩
  refine ⟨rule.1,maskText rule,⟨?_,⟨by simpa using hne,fun c hc => (hmode c (hmodes c hc)).1⟩,?_⟩,rfl⟩
  · rw [← hpath]
    exact OneWord.globPath (h e he).word
  · intro hlast
    exact (hmode ',' (hmodes _ (List.mem_of_getLast? hlast))).2 rfl

theorem profileLines_cases (h : ∀ e ∈ events, e.OneWord) (hline : line ∈ profileLines events) :
    line ∈ ["#include <tunables/global>","","/usr/sbin/\x7bservice_name\x7d \x7b",
      "  #include <abstractions/base>","\x7d"] ∨ IsRuleLine line := by
  simp only [profileLines,List.mem_append] at hline
  rcases hline with (((hline | hline) | hline) | hline) | hline
  · left
    simp only [List.mem_cons,List.not_mem_nil,or_false] at hline ⊢
    tauto
  · rcases mem_blockOf hline with hline | rfl
    · obtain ⟨cap,hcap,rfl⟩ := List.mem_map.mp hline
      rw [capability_line]
      exact .inr (resource_line (by simp) h hcap)
    · simp
  · rcases mem_blockOf hline with hline | rfl
    · obtain ⟨proto,hproto,rfl⟩ := List.mem_map.mp hline
      rw [network_line]
      exact .inr (resource_line (by simp) h hproto)
    · simp
  · obtain ⟨rule,hrule,rfl⟩ := List.mem_map.mp hline
    exact .inr (file_line h hrule)
  · left
    simp only [List.mem_cons,List.not_mem_nil,or_false] at hline ⊢
    tauto

theorem extractLine_profile (h : ∀ e ∈ events, e.OneWord) (hline : line ∈ profileLines events) :
    extractLine line.toList =
      ((readRule line).filter fun rule => rule.Shown).map RuleLine.name := by
  rcases profileLines_cases h hline with hconst | ⟨a,b,⟨ha,hb,hcomma⟩,rfl⟩
  · obtain ⟨hextract,hread⟩ := extract_const line hconst
    rw [hextract,hread]
    rfl
  · exact extractLine_rule ha hb hcomma

theorem profileLines_spaced (h : ∀ e ∈ events, e.OneWord) (hline : line ∈ profileLines events) :
    Spaced line.toList := by
  have hconsts : ∀ line ∈ ["#include <tunables/global>","","/usr/sbin/\x7bservice_name\x7d \x7b",
      "  #include <abstractions/base>","\x7d","  "," ",","],
        (line.toList.all fun c => !isSpace c || c = ' ') = true := by decide
  rcases profileLines_cases h hline with hconst | ⟨a,b,⟨ha,hb,_⟩,rfl⟩
  · exact spaced_const
      (hconsts line (by simp only [List.mem_cons,List.not_mem_nil,or_false] at hconst ⊢; tauto))
  · simp only [String.toList_append,spaced_append]
    exact ⟨⟨⟨⟨spaced_const (hconsts _ (by simp)),spaced_word ha⟩,spaced_const (hconsts _ (by simp))⟩,
      spaced_word hb⟩,spaced_const (hconsts _ (by simp))⟩

theorem lines_profileText (h : ∀ e ∈ raw.events, e.OneWord) :
    (synthesize raw).profileText.toList.splitOn '\n' = (profileLines raw.events).map String.toList ∧
      splitLines (synthesize raw).profileText.toList = (profileLines raw.events).map String.toList := by
  constructor
  · have hbreak : "\n".toList = ['\n'] := by simp
    rw [synthesize,String.toList_intercalate,hbreak]
    refine List.splitOn_intercalate _ (fun l hl => ?_) (by simp [profileLines])
    obtain ⟨line,hline,rfl⟩ := List.mem_map.mp hl
    exact (profileLines_spaced h hline).oneLine
  · obtain ⟨init,hinit⟩ : ∃ init, profileLines raw.events = init ++ ["\x7d"] := ⟨_,rfl⟩
    have hread := splitLines_lines fun line hline => profileLines_spaced h (hinit ▸ hline)
    have hend : (if "\x7d".isEmpty then [] else ["\x7d"]) = ["\x7d"] := rfl
    rw [hend,← hinit] at hread
    exact hread

theorem deltaExtract_synthesize (h : ∀ e ∈ raw.events, e.OneWord) :
    deltaExtract (synthesize raw) = (shownRules (synthesize raw)).map RuleLine.name := by
  obtain ⟨hsplit,hlines⟩ := lines_profileText h
  have hread : (fun line : List Char => readRule (String.ofList line)) ∘ String.toList = readRule := by
    funext line
    simp
  rw [deltaExtract,shownRules,rulesOf,hlines,hsplit,List.filterMap_map,List.filterMap_map,hread,
    List.filter_filterMap,List.map_filterMap]
  exact List.filterMap_congr fun line hline => extractLine_profile h hline

theorem readRule_head {rule : RuleLine} (h : readRule line = some rule) : ' ' ∉ rule.head.toList := by
  rw [readRule] at h
  split at h
  · next head tail hfields =>
    split at h
    · obtain rfl := Option.some.inj h
      have hfield : IsField head := isField_of_mem (by rw [hfields]; simp)
      intro hin
      have := hfield.noSpace _ hin
      contradiction
    · cases h
  · cases h

theorem name_inj {rule rule' : RuleLine} (h : ' ' ∉ rule.head.toList) (h' : ' ' ∉ rule'.head.toList)
    (hname : rule.name = rule'.name) : rule = rule' := by
  have hsplit : ∀ r : RuleLine, ' ' ∉ r.head.toList →
      splitFirst ' ' r.name.toList = some (r.head.toList,r.tail.toList) := by
    intro r hr
    have hwhole : r.name.toList = r.head.toList ++ ' ' :: r.tail.toList := by simp [RuleLine.name]
    rw [hwhole,splitFirst_append _ hr]
  have hsame := hsplit rule h
  rw [hname,hsplit rule' h'] at hsame
  obtain ⟨hhead,htail⟩ := Prod.mk.inj (Option.some.inj hsame)
  cases rule
  cases rule'
  rw [RuleLine.mk.injEq]
  exact ⟨String.toList_inj.mp hhead.symm,String.toList_inj.mp htail.symm⟩

/-- The delta of two profiles is one of the rules that are not taken for the header. -/
theorem delta_ofRules {prior current : Observations Event} (hprior : ∀ e ∈ prior.events, e.OneWord)
    (hcurrent : ∀ e ∈ current.events, e.OneWord) :
    OfRules RuleLine.Permits RuleLine.name (shownRules (synthesize prior)) (shownRules (synthesize current))
      (soakDelta plugin prior current) := by
  have hblank : ∀ {raw : Observations Event}, ∀ rule ∈ shownRules (synthesize raw),
      ' ' ∉ rule.head.toList := by
    intro raw rule hrule
    obtain ⟨_,_,hread⟩ := List.mem_filterMap.mp (List.mem_filter.mp hrule).1
    exact readRule_head hread
  have hnamed : Named RuleLine.name (shownRules (synthesize prior)) (shownRules (synthesize current))
      (deltaExtract (synthesize prior)) (deltaExtract (synthesize current)) := by
    rw [deltaExtract_synthesize hprior,deltaExtract_synthesize hcurrent]
    exact ⟨fun _ => List.mem_map,fun _ => List.mem_map,
      fun r hr r' hr' h => name_inj (hblank r hr) (hblank r' hr') h⟩
  simp only [soakDelta,computeDelta,plugin]
  exact hnamed.ofRules _

end Deltas

end AppArmor

section Plugins

/-- The deltas of the policy plugins: of what is permitted for system calls, denials and
destinations, and of the rules where rules can permit the same in different words. -/
theorem policy_deltas {word : Char → Bool} (hword : Selinux.WordChars word)
    {syscalls syscalls' : Observations String} {files files' : Observations AppArmor.Event}
    (hfiles : ∀ e ∈ files.events, e.OneWord) (hfiles' : ∀ e ∈ files'.events, e.OneWord)
    {lines lines' : Observations String}
    (hlines : ∀ p ∈ lines.events.filterMap (Selinux.parseAvcLine word), p.perms ≠ [])
    (hlines' : ∀ p ∈ lines'.events.filterMap (Selinux.parseAvcLine word), p.perms ≠ [])
    {flows flows' : Observations EbpfNetwork.Flow} {accesses accesses' : Observations EbpfLsm.Event} :
    OfEvents (fun (r e : String) => r = e) id (Seccomp.allowed (Seccomp.synthesize syscalls))
        (Seccomp.allowed (Seccomp.synthesize syscalls')) (soakDelta Seccomp.plugin syscalls syscalls') ∧
      OfRules AppArmor.RuleLine.Permits AppArmor.RuleLine.name
        (AppArmor.shownRules (AppArmor.synthesize files)) (AppArmor.shownRules (AppArmor.synthesize files'))
        (soakDelta AppArmor.plugin files files') ∧
      OfEvents Selinux.Parsed.Permits Selinux.ruleName (Selinux.allowed (Selinux.synthesize word lines))
        (Selinux.allowed (Selinux.synthesize word lines')) (soakDelta (Selinux.plugin word) lines lines') ∧
      OfEvents (fun (r e : EbpfNetwork.Destination) => r = e) id
        (EbpfNetwork.destinations (EbpfNetwork.synthesize flows))
        (EbpfNetwork.destinations (EbpfNetwork.synthesize flows')) (soakDelta EbpfNetwork.plugin flows flows') ∧
      OfRules EbpfLsm.Rule.Permits EbpfLsm.Rule.key (EbpfLsm.synthesize accesses).rules
        (EbpfLsm.synthesize accesses').rules (soakDelta EbpfLsm.plugin accesses accesses') :=
  ⟨Seccomp.delta_ofEvents syscalls syscalls',AppArmor.delta_ofRules hfiles hfiles',
    Selinux.delta_ofEvents hword hlines hlines',EbpfNetwork.delta_ofEvents flows flows',
    EbpfLsm.delta_ofRules accesses accesses'⟩

theorem oneWord_nginx : ∀ e ∈ (oneRead "/etc/nginx/nginx.conf").events, e.OneWord := by
  intro e he
  obtain rfl : e = ⟨"file_read","/etc/nginx/nginx.conf"⟩ := by
    simpa [oneRead,Observations.events] using he
  exact ⟨⟨by simp,by simp [isSpace]⟩,by simp⟩

theorem plainRaw_perms : ∀ p ∈ (Selinux.linesOf Selinux.plainRaw).events.filterMap
    (Selinux.parseAvcLine Selinux.asciiWord), p.perms ≠ [] := by
  have hsorted : sortedSet ["read"] = ["read"] := by decide
  have hwell : ∀ d ∈ Selinux.plainRaw.events, d.WellFormed Selinux.asciiWord ∧ d.perms = ["read"] := by
    intro d hd
    have hevents : Selinux.plainRaw.events =
        [Selinux.deniedRead "s0",Selinux.deniedRead "s0-s0:c0.c1023"] := rfl
    rw [hevents] at hd
    simp only [List.mem_cons,List.not_mem_nil,or_false] at hd
    rcases hd with rfl | rfl
    · exact ⟨Selinux.deniedRead_wellFormed (by simp [isSpace]),rfl⟩
    · exact ⟨Selinux.deniedRead_wellFormed (by simp [isSpace]),rfl⟩
  intro p hp
  obtain ⟨line,hline,hparse⟩ := List.mem_filterMap.mp hp
  rw [Selinux.linesOf_events] at hline
  obtain ⟨d,hd,rfl⟩ := List.mem_map.mp hline
  obtain ⟨hwellFormed,hperms⟩ := hwell d hd
  rw [Selinux.Denial.parse_line Selinux.asciiWord_wordChars hwellFormed,hperms,hsorted] at hparse
  obtain rfl := Option.some.inj hparse
  simp

/-- A flow of the process to one destination. -/
def flowOf (process : String) : Observations EbpfNetwork.Flow :=
  [("web-1",[⟨"10.0.0.5",some 443,"tcp",process⟩])]

theorem nginx_deltas :
    OfEvents (fun (r e : String) => r = e) id (Seccomp.allowed (Seccomp.synthesize []))
        (Seccomp.allowed (Seccomp.synthesize [("web-1",["read"])]))
        (soakDelta Seccomp.plugin [] [("web-1",["read"])]) ∧
      OfRules AppArmor.RuleLine.Permits AppArmor.RuleLine.name (AppArmor.shownRules (AppArmor.synthesize []))
        (AppArmor.shownRules (AppArmor.synthesize (oneRead "/etc/nginx/nginx.conf")))
        (soakDelta AppArmor.plugin [] (oneRead "/etc/nginx/nginx.conf")) ∧
      OfEvents Selinux.Parsed.Permits Selinux.ruleName
        (Selinux.allowed (Selinux.synthesize Selinux.asciiWord []))
        (Selinux.allowed (Selinux.synthesize Selinux.asciiWord (Selinux.linesOf Selinux.plainRaw)))
        (soakDelta (Selinux.plugin Selinux.asciiWord) [] (Selinux.linesOf Selinux.plainRaw)) ∧
      OfEvents (fun (r e : EbpfNetwork.Destination) => r = e) id
        (EbpfNetwork.destinations (EbpfNetwork.synthesize []))
        (EbpfNetwork.destinations (EbpfNetwork.synthesize (flowOf "curl")))
        (soakDelta EbpfNetwork.plugin [] (flowOf "curl")) ∧
      OfRules EbpfLsm.Rule.Permits EbpfLsm.Rule.key (EbpfLsm.synthesize []).rules
        (EbpfLsm.synthesize [("web-1",[⟨"open","/etc/hosts","nginx"⟩])]).rules
        (soakDelta EbpfLsm.plugin [] [("web-1",[⟨"open","/etc/hosts","nginx"⟩])]) :=
  policy_deltas Selinux.asciiWord_wordChars (by simp [Observations.events]) oneWord_nginx
    (by simp [Observations.events]) plainRaw_perms

theorem flows_delta : soakDelta EbpfNetwork.plugin (flowOf "curl") (flowOf "nginx") = ⟨[],[]⟩ := by
  decide

theorem flows_differ : ¬SameEvents EbpfNetwork.Rule.Permits (EbpfNetwork.synthesize (flowOf "curl")).rules
    (EbpfNetwork.synthesize (flowOf "nginx")).rules := by
  intro hsame
  have hcurl : (EbpfNetwork.synthesize (flowOf "curl")).rules = [⟨"10.0.0.5",443,"tcp","curl"⟩] := by
    decide
  have hnginx : (EbpfNetwork.synthesize (flowOf "nginx")).rules = [⟨"10.0.0.5",443,"tcp","nginx"⟩] := by
    decide
  rw [hcurl,hnginx] at hsame
  obtain ⟨r,hr,_,hprocess⟩ := (hsame (("10.0.0.5",443,"tcp"),"curl")).mp
    ⟨_,List.mem_singleton_self _,rfl,.inr rfl⟩
  obtain rfl := List.mem_singleton.mp hr
  revert hprocess
  simp [EbpfLsm.Concerns]

def nginxRead : Observations AppArmor.Event := oneRead "/usr/sbin/nginx"

theorem nginxRead_delta : soakDelta AppArmor.plugin [] nginxRead = ⟨[],[]⟩ := by decide +kernel

theorem nginxRead_permits :
    AppArmor.Permits (AppArmor.synthesize nginxRead).profileText "file_read" "/usr/sbin/nginx" ∧
      ¬AppArmor.Permits (AppArmor.synthesize []).profileText "file_read" "/usr/sbin/nginx" := by
  have hcollected : AppArmor.Collected nginxRead := by
    intro event hevent
    obtain rfl : event = ⟨"file_read","/usr/sbin/nginx"⟩ := by
      simpa [nginxRead,oneRead,Observations.events] using hevent
    exact ⟨"apparmor=\"ALLOWED\" operation=\"file_read\" name=\"/usr/sbin/nginx\"",
      by decide⟩
  have hnone : AppArmor.Collected [] := fun event hevent => by cases hevent
  rw [AppArmor.permits_iff hcollected,AppArmor.permits_iff hnone]
  refine ⟨⟨⟨"file_read","/usr/sbin/nginx"⟩,?_,rfl,?_,by simp,by decide⟩,?_⟩
  · simp [nginxRead,oneRead,Observations.events]
  · simp [AppArmor.Recognised,AppArmor.opToMask]
  · rintro ⟨event,hevent,_⟩
    cases hevent

def hostsRead (processes : List String) : Observations EbpfLsm.Event :=
  [("web-1",processes.map fun process => ⟨"open","/etc/hosts",process⟩)]

/-- A rule for one process adds nothing to one for all. -/
theorem hosts_sameEvents : SameEvents EbpfLsm.Rule.Permits
    (EbpfLsm.synthesize (hostsRead ["*"])).rules (EbpfLsm.synthesize (hostsRead ["*","nginx"])).rules := by
  have hall : (EbpfLsm.synthesize (hostsRead ["*"])).rules = [⟨"open","/etc/hosts","*","allow"⟩] := by
    decide
  have hboth : (EbpfLsm.synthesize (hostsRead ["*","nginx"])).rules =
      [⟨"open","/etc/hosts","*","allow"⟩,⟨"open","/etc/hosts","nginx","allow"⟩] := by decide
  rw [hall,hboth]
  intro e
  constructor
  · rintro ⟨r,hr,hpermits⟩
    exact ⟨r,by simp [List.mem_singleton.mp hr],hpermits⟩
  · rintro ⟨r,hr,haction,hsyscall,_,hfits⟩
    simp only [List.mem_cons,List.not_mem_nil,or_false] at hr
    rcases hr with rfl | rfl
    · exact ⟨_,List.mem_singleton_self _,haction,hsyscall,.inl rfl,hfits⟩
    · exact ⟨_,List.mem_singleton_self _,haction,hsyscall,.inl rfl,hfits⟩

theorem hosts_added : (soakDelta EbpfLsm.plugin (hostsRead ["*"]) (hostsRead ["*","nginx"])).added =
    [("open","/etc/hosts","nginx")] := by decide

/-- A rule that adds nothing is in the delta, a process and a rule for a path of the header are not. -/
theorem deltas_not_events :
    (SameEvents EbpfLsm.Rule.Permits (EbpfLsm.synthesize (hostsRead ["*"])).rules
        (EbpfLsm.synthesize (hostsRead ["*","nginx"])).rules ∧
      ¬(soakDelta EbpfLsm.plugin (hostsRead ["*"]) (hostsRead ["*","nginx"])).Empty) ∧
    ((soakDelta EbpfNetwork.plugin (flowOf "curl") (flowOf "nginx")).Empty ∧
      ¬SameEvents EbpfNetwork.Rule.Permits (EbpfNetwork.synthesize (flowOf "curl")).rules
        (EbpfNetwork.synthesize (flowOf "nginx")).rules) ∧
    (soakDelta AppArmor.plugin [] nginxRead).Empty ∧
      AppArmor.Permits (AppArmor.synthesize nginxRead).profileText "file_read" "/usr/sbin/nginx" ∧
      ¬AppArmor.Permits (AppArmor.synthesize []).profileText "file_read" "/usr/sbin/nginx" := by
  refine ⟨⟨hosts_sameEvents,fun hempty => ?_⟩,⟨?_,flows_differ⟩,?_,nginxRead_permits⟩
  · have hadded := hempty.1
    rw [hosts_added] at hadded
    cases hadded
  · rw [flows_delta]
    exact ⟨rfl,rfl⟩
  · rw [nginxRead_delta]
    exact ⟨rfl,rfl⟩

end Plugins

end Nexplane
