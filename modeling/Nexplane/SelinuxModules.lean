import Mathlib.Data.List.Dedup
import Nexplane.AvcLines

set_option autoImplicit false

/-! The SELinux policy module that is synthesized from the denials of a soak. -/

namespace Nexplane
open PyValue Patterns Text Words

namespace Selinux

def RuleKey.texts (key : RuleKey) : List String := [key.stype,key.ttype,key.tclass]

/-- One rule for each key, in their order. -/
def rulesOf (parsed : List Parsed) : List Parsed :=
  ((parsed.map Parsed.key).dedup.insertionSort (fun a b => a.texts ≤ b.texts)).map fun key =>
    ⟨key,sortedSet ((parsed.filter fun p => p.key = key).flatMap Parsed.perms)⟩

def typesOf (rules : List Parsed) : List String :=
  sortedSet (rules.flatMap fun rule => [rule.key.stype,rule.key.ttype])

def classesOf (rules : List Parsed) : List (String × List String) :=
  (sortedSet (rules.map fun rule => rule.key.tclass)).map fun tclass =>
    (tclass,sortedSet ((rules.filter fun rule => rule.key.tclass = tclass).flatMap Parsed.perms))

def permStr (perms : List String) : String := " ".intercalate perms

def typeLine (type : String) : String := "    type " ++ type ++ ";"

def classLine (tclass : String × List String) : String :=
  "    class " ++ tclass.1 ++ " \x7b " ++ permStr tclass.2 ++ " \x7d;"

def allowLine (rule : Parsed) : String :=
  "allow " ++ rule.key.stype ++ " " ++ rule.key.ttype ++ ":" ++ rule.key.tclass ++ " \x7b " ++
    permStr rule.perms ++ " \x7d;"

def moduleName : String := "nexplane-\x7bservice_name\x7d"

def moduleLines (rules : List Parsed) : List String :=
  ["module " ++ moduleName ++ " 1.0;","","require \x7b"] ++ (typesOf rules).map typeLine ++
    (classesOf rules).map classLine ++ ["\x7d",""] ++ rules.map allowLine

structure PolicyModule where
  moduleName : String
  moduleSource : String
  deriving DecidableEq, Repr

def synthesize (word : Char → Bool) (raw : Observations String) : PolicyModule where
  moduleName := moduleName
  moduleSource :=
    let rules := rulesOf (raw.events.filterMap (parseAvcLine word))
    if rules.isEmpty then "module " ++ moduleName ++ " 1.0;\n\nrequire \x7b\n\x7d\n"
    else "\n".intercalate (moduleLines rules) ++ "\n"

/-- A word with a semicolon after it. -/
def readEnd (text : String) : Option String :=
  if text.toList.getLast? = some ';' then some (String.ofList text.toList.dropLast) else none

def readBraces : List String → Option (List String)
  | [] => none
  | first :: rest =>
    if first = "\x7b" ∧ rest.getLast? = some "\x7d;" then some rest.dropLast else none

def readType (line : String) : Option String :=
  match pyWords line.toList with
  | [keyword,type] => if keyword = "type" then readEnd type else none
  | _ => none

def readClass (line : String) : Option (String × List String) :=
  match pyWords line.toList with
  | keyword :: tclass :: rest =>
    if keyword = "class" then (readBraces rest).map fun perms => (tclass,perms) else none
  | _ => none

def readAllow (line : String) : Option Parsed :=
  match pyWords line.toList with
  | keyword :: stype :: target :: rest =>
    if keyword = "allow" then
      (splitFirst ':' target.toList).bind fun pair => (readBraces rest).map fun perms =>
        ⟨⟨stype,String.ofList pair.1,String.ofList pair.2⟩,perms⟩
    else none
  | _ => none

/-- What a module declares in its require block, and the rules in it. -/
structure ModuleText where
  types : List String
  classes : List (String × List String)
  rules : List Parsed
  deriving DecidableEq, Repr

def requireBlock (lines : List String) : List String :=
  ((lines.dropWhile (· ≠ "require \x7b")).drop 1).takeWhile (· ≠ "\x7d")

def readModule (text : String) : ModuleText :=
  let lines := (text.toList.splitOn '\n').map String.ofList
  { types := (requireBlock lines).filterMap readType
    classes := (requireBlock lines).filterMap readClass
    rules := lines.filterMap readAllow }

/-- The module allows what is denied, and declares what it uses. -/
structure ModuleExact (text : String) (denials : List Denial) : Prop where
  oneRule : ((readModule text).rules.map Parsed.key).Nodup
  denied : ∀ key, key ∈ (readModule text).rules.map Parsed.key ↔ ∃ d ∈ denials, d.key = key
  union : ∀ rule ∈ (readModule text).rules, ∀ perm, perm ∈ rule.perms ↔
    ∃ d ∈ denials, d.key = rule.key ∧ perm ∈ d.perms
  types : ∀ rule ∈ (readModule text).rules,
    rule.key.stype ∈ (readModule text).types ∧ rule.key.ttype ∈ (readModule text).types
  classes : ∀ rule ∈ (readModule text).rules,
    ∃ perms, (rule.key.tclass,perms) ∈ (readModule text).classes ∧ rule.perms ⊆ perms

/-- What the regular expression can take for the types, the class and the permissions. -/
structure Parsed.Legible (word : Char → Bool) (p : Parsed) : Prop where
  stype : isWordText word p.key.stype.toList = true
  ttype : isWordText word p.key.ttype.toList = true
  tclass : isWordText word p.key.tclass.toList = true
  perms : ∀ perm ∈ p.perms, IsWord isSpace perm.toList ∧ '\x7d' ∉ perm.toList

section Legible

variable {word : Char → Bool} {line : String} {p : Parsed} {parsed : List Parsed}

theorem pyWords_mem {cs : List Char} {w : String} (h : w ∈ pyWords cs) :
    IsWord isSpace w.toList ∧ ∀ c ∈ w.toList, c ∈ cs := by
  obtain ⟨piece,hpiece,rfl⟩ := List.mem_map.mp h
  rw [String.toList_ofList]
  exact ⟨isWord_of_mem hpiece,
    fun c hc => (Words.splitOnP_pieces isSpace cs piece (List.mem_filter.mp hpiece).1).1.subset hc⟩

theorem parseAvcLine_legible (h : parseAvcLine word line = some p) : p.Legible word := by
  obtain ⟨m,hm,rfl⟩ := Option.map_eq_some_iff.mp h
  obtain ⟨_,hmatch⟩ := search_some hm
  obtain ⟨a₁,m₁,_,h₁,rfl⟩ := matchAt_text_some hmatch
  obtain ⟨b₂,a₂,m₂,_,h₂,rfl,_⟩ := matchAt_many_some h₁
  obtain ⟨a₃,m₃,_,h₃,rfl⟩ := matchAt_text_some h₂
  obtain ⟨b₄,a₄,m₄,_,h₄,rfl,_⟩ := matchAt_many_some h₃
  obtain ⟨a₅,m₅,_,h₅,rfl⟩ := matchAt_text_some h₄
  obtain ⟨perms,a₆,m₆,hperms,h₆,rfl,_⟩ := matchAt_many_some h₅
  obtain ⟨a₇,m₇,_,h₇,rfl⟩ := matchAt_text_some h₆
  obtain ⟨b₈,a₈,m₈,_,h₈,rfl,_⟩ := matchAt_many_some h₇
  obtain ⟨a₉,m₉,_,h₉,rfl⟩ := matchAt_text_some h₈
  obtain ⟨x,y,stype,u,gap,next,m₁₀,hsource,h₁₀,rfl,_⟩ := matchAt_context (g := 2) h₉
  obtain ⟨a₁₁,m₁₁,_,h₁₁,rfl⟩ := matchAt_text_some h₁₀
  obtain ⟨x',y',ttype,u',gap',next',m₁₂,htarget,h₁₂,rfl,_⟩ := matchAt_context (g := 3) h₁₁
  obtain ⟨a₁₃,m₁₃,_,h₁₃,rfl⟩ := matchAt_text_some h₁₂
  obtain ⟨tclass,a₁₄,m₁₄,hclass,h₁₄,rfl,_⟩ := matchAt_many_some h₁₃
  obtain rfl := Option.some.inj h₁₄
  simp only [group_taken,group_nil,reduceIte,List.nil_append,List.append_nil,Nat.reduceEqDiff]
  constructor
  · rw [String.toList_ofList]
    exact isWordText_iff.mpr hsource.third
  · rw [String.toList_ofList]
    exact isWordText_iff.mpr htarget.third
  · rw [String.toList_ofList]
    exact isWordText_iff.mpr ⟨List.length_pos_iff.mp hclass.long,hclass.all⟩
  · intro perm hperm
    obtain ⟨hisWord,hsub⟩ := pyWords_mem (mem_sortedSet.mp hperm)
    refine ⟨hisWord,fun hbrace => ?_⟩
    have := hperms.all _ (hsub _ hbrace)
    revert this
    decide

theorem isWord_of_isWordText (hword : WordChars word) {cs : List Char}
    (h : isWordText word cs = true) : IsWord isSpace cs :=
  ⟨(isWordText_iff.mp h).1,fun c hc => nonSpace_iff.mp (hword.nonSpace ((isWordText_iff.mp h).2 c hc))⟩

theorem mem_rulesOf {rule : Parsed} : rule ∈ rulesOf parsed ↔ (∃ p ∈ parsed, p.key = rule.key) ∧
    rule.perms = sortedSet ((parsed.filter fun p => p.key = rule.key).flatMap Parsed.perms) := by
  rw [rulesOf,List.mem_map]
  constructor
  · rintro ⟨key,hkey,rfl⟩
    rw [List.mem_insertionSort,List.mem_dedup] at hkey
    exact ⟨List.mem_map.mp hkey,rfl⟩
  · rintro ⟨hkey,hperms⟩
    refine ⟨rule.key,?_,?_⟩
    · rw [List.mem_insertionSort,List.mem_dedup]
      exact List.mem_map.mpr hkey
    · rw [← hperms]

theorem rulesOf_keys (parsed : List Parsed) : ((rulesOf parsed).map Parsed.key).Nodup := by
  have hkeys : (rulesOf parsed).map Parsed.key =
      (parsed.map Parsed.key).dedup.insertionSort (fun a b => a.texts ≤ b.texts) := by
    rw [rulesOf,List.map_map]
    exact List.map_id _
  rw [hkeys]
  exact (List.perm_insertionSort _ _).nodup_iff.mpr (List.nodup_dedup _)

theorem mem_rule_perms {rule : Parsed} (h : rule ∈ rulesOf parsed) {perm : String} :
    perm ∈ rule.perms ↔ ∃ p ∈ parsed, p.key = rule.key ∧ perm ∈ p.perms := by
  rw [(mem_rulesOf.mp h).2,mem_sortedSet,List.mem_flatMap]
  simp [and_assoc]

theorem exists_rule (h : p ∈ parsed) : ∃ rule, rule ∈ rulesOf parsed ∧ rule.key = p.key := by
  refine ⟨_,List.mem_map.mpr ⟨p.key,?_,rfl⟩,rfl⟩
  rw [List.mem_insertionSort,List.mem_dedup]
  exact List.mem_map_of_mem h

theorem rulesOf_legible (h : ∀ p ∈ parsed, p.Legible word) : ∀ rule ∈ rulesOf parsed, rule.Legible word := by
  intro rule hrule
  obtain ⟨p,hp,hkey⟩ := (mem_rulesOf.mp hrule).1
  have hlegible := h p hp
  constructor
  · exact hkey ▸ hlegible.stype
  · exact hkey ▸ hlegible.ttype
  · exact hkey ▸ hlegible.tclass
  · intro perm hperm
    obtain ⟨p',hp',_,hmem⟩ := (mem_rule_perms hrule).mp hperm
    exact (h p' hp').perms perm hmem

end Legible

section Lines

variable {word : Char → Bool} {line : String} {rule : Parsed} {rules : List Parsed}

theorem pyWords_append (l r : List Char) : pyWords (l ++ ' ' :: r) = pyWords l ++ pyWords r := by
  rw [pyWords,words_append rfl,List.map_append]
  rfl

theorem pyWords_word {text : String} (h : IsWord isSpace text.toList) : pyWords text.toList = [text] := by
  rw [pyWords,h.words]
  simp

theorem isWord_append {l r : String} (hl : IsWord isSpace l.toList)
    (hr : ∀ c ∈ r.toList, isSpace c = false) : IsWord isSpace (l ++ r).toList := by
  rw [String.toList_append]
  refine ⟨by simp [hl.nonempty],fun c hc => ?_⟩
  rcases List.mem_append.mp hc with hc | hc
  · exact hl.all c hc
  · exact hr c hc

theorem pyWords_permStr {perms : List String} (h : ∀ perm ∈ perms, IsWord isSpace perm.toList) :
    pyWords (permStr perms).toList = perms := by
  have hwords : ∀ w ∈ perms.map String.toList, IsWord isSpace w := by
    intro w hw
    obtain ⟨perm,hperm,rfl⟩ := List.mem_map.mp hw
    exact h perm hperm
  have hjoin : (permStr perms).toList = [' '].intercalate (perms.map String.toList) := by
    rw [permStr,String.toList_intercalate]
    rfl
  rw [pyWords,hjoin,words_join rfl hwords,List.map_map]
  simp

theorem readBraces_perms (perms : List String) :
    readBraces ("\x7b" :: (perms ++ ["\x7d;"])) = some perms := by
  rw [readBraces,if_pos ⟨rfl,by simp⟩]
  simp

theorem readEnd_semicolon (text : String) : readEnd (text ++ ";") = some text := by
  rw [readEnd,if_pos (by simp)]
  simp

/-- The words of the permissions between braces. -/
theorem pyWords_braces {perms : List String} (h : ∀ perm ∈ perms, IsWord isSpace perm.toList) :
    pyWords ("\x7b".toList ++ ' ' :: ((permStr perms).toList ++ ' ' :: "\x7d;".toList)) =
      "\x7b" :: (perms ++ ["\x7d;"]) := by
  have hopen : pyWords "\x7b".toList = ["\x7b"] := by decide
  have hclose : pyWords "\x7d;".toList = ["\x7d;"] := by decide
  rw [pyWords_append,pyWords_append,pyWords_permStr h,hopen,hclose]
  rfl

theorem pyWords_typeLine {type : String} (h : IsWord isSpace type.toList) :
    pyWords (typeLine type).toList = ["type",type ++ ";"] := by
  have hline : (typeLine type).toList = "   ".toList ++ ' ' :: ("type".toList ++ ' ' :: (type ++ ";").toList) := by
    simp [typeLine]
  have hindent : pyWords "   ".toList = [] := by decide
  have hkeyword : pyWords "type".toList = ["type"] := by decide
  have hend := pyWords_word (isWord_append h (by simp [isSpace] : ∀ c ∈ ";".toList, isSpace c = false))
  rw [hline,pyWords_append,pyWords_append,hindent,hkeyword,hend]
  rfl

theorem pyWords_classLine {tclass : String × List String} (h : IsWord isSpace tclass.1.toList)
    (hperms : ∀ perm ∈ tclass.2, IsWord isSpace perm.toList) :
    pyWords (classLine tclass).toList = "class" :: tclass.1 :: "\x7b" :: (tclass.2 ++ ["\x7d;"]) := by
  have hline : (classLine tclass).toList = "   ".toList ++ ' ' :: ("class".toList ++ ' ' ::
      (tclass.1.toList ++ ' ' :: ("\x7b".toList ++ ' ' :: ((permStr tclass.2).toList ++
        ' ' :: "\x7d;".toList)))) := by
    simp [classLine]
  have hindent : pyWords "   ".toList = [] := by decide
  have hkeyword : pyWords "class".toList = ["class"] := by decide
  rw [hline,pyWords_append,pyWords_append,pyWords_append,hindent,hkeyword,pyWords_word h,
    pyWords_braces hperms]
  rfl

theorem pyWords_allowLine (hword : WordChars word) (h : rule.Legible word) :
    pyWords (allowLine rule).toList = "allow" :: rule.key.stype ::
      (rule.key.ttype ++ ":" ++ rule.key.tclass) :: "\x7b" :: (rule.perms ++ ["\x7d;"]) := by
  have hline : (allowLine rule).toList = "allow".toList ++ ' ' :: (rule.key.stype.toList ++ ' ' ::
      ((rule.key.ttype ++ ":" ++ rule.key.tclass).toList ++ ' ' :: ("\x7b".toList ++ ' ' ::
        ((permStr rule.perms).toList ++ ' ' :: "\x7d;".toList)))) := by
    simp [allowLine]
  have hkeyword : pyWords "allow".toList = ["allow"] := by decide
  have htarget : IsWord isSpace (rule.key.ttype ++ ":" ++ rule.key.tclass).toList :=
    isWord_append (isWord_append (isWord_of_isWordText hword h.ttype) (by simp [isSpace]))
      (isWord_of_isWordText hword h.tclass).all
  rw [hline,pyWords_append,pyWords_append,pyWords_append,hkeyword,
    pyWords_word (isWord_of_isWordText hword h.stype),pyWords_word htarget,
    pyWords_braces fun perm hperm => (h.perms perm hperm).1]
  rfl

theorem readAllow_allowLine (hword : WordChars word) (h : rule.Legible word) :
    readAllow (allowLine rule) = some rule := by
  have hcolon : ':' ∉ rule.key.ttype.toList := word_noColon hword h.ttype
  have htarget : splitFirst ':' (rule.key.ttype ++ ":" ++ rule.key.tclass).toList =
      some (rule.key.ttype.toList,rule.key.tclass.toList) := by
    refine splitFirst_eq_some.mpr ⟨?_,hcolon⟩
    simp
  rw [readAllow,pyWords_allowLine hword h]
  dsimp only
  rw [if_pos rfl,htarget,Option.bind_some,readBraces_perms]
  simp

theorem read_typeLine {type : String} (h : IsWord isSpace type.toList) :
    readType (typeLine type) = some type ∧ readClass (typeLine type) = none ∧
      readAllow (typeLine type) = none := by
  rw [readType,readClass,readAllow,pyWords_typeLine h]
  exact ⟨readEnd_semicolon type,rfl,rfl⟩

theorem read_classLine {tclass : String × List String} (h : IsWord isSpace tclass.1.toList)
    (hperms : ∀ perm ∈ tclass.2, IsWord isSpace perm.toList) :
    readType (classLine tclass) = none ∧ readClass (classLine tclass) = some tclass ∧
      readAllow (classLine tclass) = none := by
  rw [readType,readClass,readAllow,pyWords_classLine h hperms]
  refine ⟨rfl,?_,?_⟩
  · dsimp only
    rw [if_pos rfl,readBraces_perms]
    rfl
  · cases hrest : tclass.2 ++ ["\x7d;"] <;> rfl

theorem indented_ne {text line : String} (h : line.toList.head? = some ' ')
    (htext : text.toList.head? ≠ some ' ') : line ≠ text := by
  rintro rfl
  exact htext h

theorem typeLine_head (type : String) : (typeLine type).toList.head? = some ' ' := by simp [typeLine]

theorem classLine_head (tclass : String × List String) : (classLine tclass).toList.head? = some ' ' := by
  simp [classLine]

theorem spaced_permStr {perms : List String} (h : ∀ perm ∈ perms, IsWord isSpace perm.toList) :
    Spaced (permStr perms).toList := by
  intro c hc hspace
  rw [permStr,String.toList_intercalate] at hc
  rcases mem_intercalate (c := ' ') hc with rfl | ⟨w,hw,hc⟩
  · rfl
  · obtain ⟨perm,hperm,rfl⟩ := List.mem_map.mp hw
    exact spaced_word (h perm hperm) c hc hspace

theorem typesOf_word (hword : WordChars word) (h : ∀ rule ∈ rules, rule.Legible word) {type : String}
    (htype : type ∈ typesOf rules) : IsWord isSpace type.toList := by
  obtain ⟨rule,hrule,hmem⟩ := List.mem_flatMap.mp (mem_sortedSet.mp htype)
  simp only [List.mem_cons,List.not_mem_nil,or_false] at hmem
  rcases hmem with rfl | rfl
  · exact isWord_of_isWordText hword (h rule hrule).stype
  · exact isWord_of_isWordText hword (h rule hrule).ttype

theorem classesOf_word (hword : WordChars word) (h : ∀ rule ∈ rules, rule.Legible word)
    {tclass : String × List String} (hclass : tclass ∈ classesOf rules) :
    IsWord isSpace tclass.1.toList ∧ ∀ perm ∈ tclass.2, IsWord isSpace perm.toList := by
  obtain ⟨name,hname,rfl⟩ := List.mem_map.mp hclass
  obtain ⟨rule,hrule,rfl⟩ := List.mem_map.mp (mem_sortedSet.mp hname)
  refine ⟨isWord_of_isWordText hword (h rule hrule).tclass,fun perm hperm => ?_⟩
  obtain ⟨rule',hrule',hmem⟩ := List.mem_flatMap.mp (mem_sortedSet.mp hperm)
  exact ((h rule' (List.mem_filter.mp hrule').1).perms perm hmem).1

theorem moduleLines_spaced (hword : WordChars word) (h : ∀ rule ∈ rules, rule.Legible word) :
    ∀ line ∈ moduleLines rules, Spaced line.toList := by
  have hheader : ∀ line ∈ ["module " ++ moduleName ++ " 1.0;","","require \x7b","\x7d"],
      (line.toList.all fun c => !isSpace c || c = ' ') = true := by decide
  have htype : Spaced "    type ".toList ∧ Spaced "    class ".toList ∧ Spaced "allow ".toList :=
    ⟨spaced_const (by decide),spaced_const (by decide),spaced_const (by decide)⟩
  have hopen : Spaced " \x7b ".toList ∧ Spaced " \x7d;".toList ∧ Spaced ";".toList :=
    ⟨spaced_const (by decide),spaced_const (by decide),spaced_const (by decide)⟩
  have hgaps : Spaced " ".toList ∧ Spaced ":".toList :=
    ⟨spaced_const (by simp),spaced_const (by decide)⟩
  intro line hline
  simp only [moduleLines,List.mem_append,List.mem_map] at hline
  rcases hline with (((hline | ⟨type,hmem,rfl⟩) | ⟨tclass,hmem,rfl⟩) | hline) | ⟨rule,hrule,rfl⟩
  · exact spaced_const
      (hheader line (by simp only [List.mem_cons,List.not_mem_nil,or_false] at hline ⊢; tauto))
  · simp only [typeLine,String.toList_append,spaced_append]
    exact ⟨⟨htype.1,spaced_word (typesOf_word hword h hmem)⟩,hopen.2.2⟩
  · have hclassWord := classesOf_word hword h hmem
    simp only [classLine,String.toList_append,spaced_append]
    exact ⟨⟨⟨⟨htype.2.1,spaced_word hclassWord.1⟩,hopen.1⟩,spaced_permStr hclassWord.2⟩,hopen.2.1⟩
  · exact spaced_const
      (hheader line (by simp only [List.mem_cons,List.not_mem_nil,or_false] at hline ⊢; tauto))
  · have hlegible := h rule hrule
    have hstype := spaced_word (isWord_of_isWordText hword hlegible.stype)
    have httype := spaced_word (isWord_of_isWordText hword hlegible.ttype)
    have htclass := spaced_word (isWord_of_isWordText hword hlegible.tclass)
    have hperms := spaced_permStr fun perm hperm => (hlegible.perms perm hperm).1
    simp only [allowLine,String.toList_append,spaced_append]
    exact ⟨⟨⟨⟨⟨⟨⟨⟨htype.2.2,hstype⟩,hgaps.1⟩,httype⟩,hgaps.2⟩,htclass⟩,hopen.1⟩,hperms⟩,hopen.2.1⟩

/-- A line feed at the end is one before an empty last line. -/
theorem intercalate_end {lines : List String} (hne : lines ≠ []) :
    "\n".intercalate lines ++ "\n" = "\n".intercalate (lines ++ [""]) := by
  rw [← String.toList_inj,String.toList_append,String.toList_intercalate,String.toList_intercalate,
    List.map_append]
  have hfeed : "\n".toList = ['\n'] := by simp
  rw [hfeed,intercalate_append (by simpa using hne) (by simp)]
  simp

theorem lines_moduleLines (hword : WordChars word) (h : ∀ rule ∈ rules, rule.Legible word) :
    (("\n".intercalate (moduleLines rules) ++ "\n").toList.splitOn '\n').map String.ofList =
      moduleLines rules ++ [""] := by
  have hne : moduleLines rules ≠ [] := by simp [moduleLines]
  have htext : ("\n".intercalate (moduleLines rules) ++ "\n").toList =
      ['\n'].intercalate ((moduleLines rules ++ [""]).map String.toList) := by
    rw [intercalate_end hne,String.toList_intercalate]
    rfl
  have hlines : ∀ cs ∈ (moduleLines rules ++ [""]).map String.toList, '\n' ∉ cs := by
    intro cs hcs
    obtain ⟨line,hline,rfl⟩ := List.mem_map.mp hcs
    rcases List.mem_append.mp hline with hline | hline
    · exact (moduleLines_spaced hword h line hline).oneLine
    · obtain rfl := List.mem_singleton.mp hline
      simp
  rw [htext,List.splitOn_intercalate _ hlines (by simp),List.map_map]
  simp

theorem requireBlock_lines (rules : List Parsed) : requireBlock (moduleLines rules ++ [""]) =
    (typesOf rules).map typeLine ++ (classesOf rules).map classLine := by
  have hlines : moduleLines rules ++ [""] = "module nexplane-\x7bservice_name\x7d 1.0;" :: "" ::
      "require \x7b" :: (((typesOf rules).map typeLine ++ (classesOf rules).map classLine) ++
        ("\x7d" :: "" :: (rules.map allowLine ++ [""]))) := by
    have hname : "module " ++ moduleName ++ " 1.0;" = "module nexplane-\x7bservice_name\x7d 1.0;" := by
      decide
    simp [moduleLines,hname]
  have hbrace : "\x7d".toList.head? ≠ some ' ' := by simp
  have hblock : ∀ line ∈ (typesOf rules).map typeLine ++ (classesOf rules).map classLine,
      (decide (line ≠ "\x7d")) = true := by
    intro line hline
    rw [decide_eq_true_eq]
    rcases List.mem_append.mp hline with hline | hline
    · obtain ⟨type,_,rfl⟩ := List.mem_map.mp hline
      exact indented_ne (typeLine_head type) hbrace
    · obtain ⟨tclass,_,rfl⟩ := List.mem_map.mp hline
      exact indented_ne (classLine_head tclass) hbrace
  rw [hlines,requireBlock,List.dropWhile_cons_of_pos (by simp),
    List.dropWhile_cons_of_pos (by simp),List.dropWhile_cons_of_neg (by simp),
    List.drop_one,List.tail_cons,List.takeWhile_append_of_pos hblock,
    List.takeWhile_cons_of_neg (by simp),List.append_nil]

theorem filterMap_map_some {α β γ : Type} {f : α → β} {g : β → Option γ} {k : α → γ} {ls : List α}
    (h : ∀ a ∈ ls, g (f a) = some (k a)) : (ls.map f).filterMap g = ls.map k := by
  induction ls with
  | nil => rfl
  | cons a ls ih =>
    rw [List.map_cons,List.filterMap_cons_some (h a List.mem_cons_self),
      ih fun b hb => h b (List.mem_cons_of_mem _ hb),List.map_cons]

theorem filterMap_map_none {α β γ : Type} {f : α → β} {g : β → Option γ} {ls : List α}
    (h : ∀ a ∈ ls, g (f a) = none) : (ls.map f).filterMap g = [] := by
  rw [List.filterMap_eq_nil_iff]
  intro b hb
  obtain ⟨a,ha,rfl⟩ := List.mem_map.mp hb
  exact h a ha

/-- What a module declares and allows is read back. -/
theorem readModule_moduleLines (hword : WordChars word) (h : ∀ rule ∈ rules, rule.Legible word) :
    readModule ("\n".intercalate (moduleLines rules) ++ "\n") =
      ⟨typesOf rules,classesOf rules,rules⟩ := by
  have htype : ∀ type ∈ typesOf rules, _ := fun type htype =>
    read_typeLine (typesOf_word hword h htype)
  have hclass : ∀ tclass ∈ classesOf rules, _ := fun tclass hclass =>
    read_classLine (classesOf_word hword h hclass).1 (classesOf_word hword h hclass).2
  have hheader : ["module " ++ moduleName ++ " 1.0;","","require \x7b"].filterMap readAllow = [] ∧
      ["\x7d",""].filterMap readAllow = [] ∧ [""].filterMap readAllow = [] := by decide
  rw [readModule,lines_moduleLines hword h,requireBlock_lines,List.filterMap_append,List.filterMap_append,
    filterMap_map_some fun type hmem => (htype type hmem).1,
    filterMap_map_none fun tclass hmem => (hclass tclass hmem).1,
    filterMap_map_none fun type hmem => (htype type hmem).2.1,
    filterMap_map_some fun tclass hmem => (hclass tclass hmem).2.1]
  simp only [moduleLines,List.filterMap_append]
  rw [hheader.1,hheader.2.1,hheader.2.2,filterMap_map_none fun type hmem => (htype type hmem).2.2,
    filterMap_map_none fun tclass hmem => (hclass tclass hmem).2.2,
    filterMap_map_some fun rule hmem => readAllow_allowLine hword (h rule hmem)]
  simp

theorem readModule_synthesize (hword : WordChars word) (raw : Observations String) :
    readModule (synthesize word raw).moduleSource =
      let rules := rulesOf (raw.events.filterMap (parseAvcLine word))
      ⟨typesOf rules,classesOf rules,rules⟩ := by
  have hlegible : ∀ p ∈ raw.events.filterMap (parseAvcLine word), p.Legible word := by
    intro p hp
    obtain ⟨line,_,hline⟩ := List.mem_filterMap.mp hp
    exact parseAvcLine_legible hline
  rw [synthesize]
  dsimp only
  split
  · next hempty =>
    have hnil := List.isEmpty_iff.mp hempty
    rw [hnil]
    decide
  · exact readModule_moduleLines hword (rulesOf_legible hlegible)

end Lines

section Granted

variable {word : Char → Bool} {denials : List Denial} {raw : Observations Denial}

def linesOf (raw : Observations Denial) : Observations String :=
  raw.map fun asset => (asset.1,asset.2.map Denial.line)

theorem linesOf_events (raw : Observations Denial) :
    (linesOf raw).events = raw.events.map Denial.line := by
  rw [Observations.events,Observations.events,linesOf,List.flatMap_map,List.map_flatMap]

def Denial.parsed (d : Denial) : Parsed := ⟨d.key,sortedSet d.perms⟩

def ParsedExactly (word : Char → Bool) (denials : List Denial) : Prop :=
  ∀ d ∈ denials, parseAvcLine word d.line = some d.parsed

theorem parsed_iff {d : Denial} (hword : WordChars word) (h : d.WellFormed word) :
    parseAvcLine word d.line = some d.parsed ↔ d.source.Plain word ∧ d.target.Plain word := by
  rw [Denial.parse_line hword h,plain_iff,plain_iff]
  simp only [Denial.parsed,Denial.key,Option.some.injEq,Parsed.mk.injEq,RuleKey.mk.injEq,and_true]
  refine and_congr ?_ ?_
  · rw [← String.toList_inj,String.toList_ofList]
  · rw [← String.toList_inj,String.toList_ofList]

theorem mem_typesOf {rules : List Parsed} {rule : Parsed} (h : rule ∈ rules) :
    rule.key.stype ∈ typesOf rules ∧ rule.key.ttype ∈ typesOf rules := by
  constructor <;> exact mem_sortedSet.mpr (List.mem_flatMap.mpr ⟨rule,h,by simp⟩)

theorem mem_classesOf {rules : List Parsed} {rule : Parsed} (h : rule ∈ rules) :
    ∃ perms, (rule.key.tclass,perms) ∈ classesOf rules ∧ rule.perms ⊆ perms := by
  refine ⟨_,List.mem_map.mpr ⟨rule.key.tclass,mem_sortedSet.mpr (List.mem_map.mpr ⟨rule,h,rfl⟩),rfl⟩,?_⟩
  intro perm hperm
  refine mem_sortedSet.mpr (List.mem_flatMap.mpr ⟨rule,List.mem_filter.mpr ⟨h,?_⟩,hperm⟩)
  simp

/-- When every line is read as it is meant, the module is exact. -/
theorem moduleExact_of_parsed (hword : WordChars word) (h : ParsedExactly word raw.events) :
    ModuleExact (synthesize word (linesOf raw)).moduleSource raw.events := by
  have hparsed : (linesOf raw).events.filterMap (parseAvcLine word) = raw.events.map Denial.parsed := by
    rw [linesOf_events]
    exact filterMap_map_some h
  have hread := readModule_synthesize hword (linesOf raw)
  rw [hparsed] at hread
  constructor
  · rw [hread]
    exact rulesOf_keys _
  · intro key
    rw [hread,List.mem_map]
    constructor
    · rintro ⟨rule,hrule,rfl⟩
      obtain ⟨p,hp,hkey⟩ := (mem_rulesOf.mp hrule).1
      obtain ⟨d,hd,rfl⟩ := List.mem_map.mp hp
      exact ⟨d,hd,hkey⟩
    · rintro ⟨d,hd,rfl⟩
      exact exists_rule (List.mem_map_of_mem hd)
  · rw [hread]
    intro rule hrule perm
    rw [mem_rule_perms hrule]
    constructor
    · rintro ⟨p,hp,hkey,hperm⟩
      obtain ⟨d,hd,rfl⟩ := List.mem_map.mp hp
      exact ⟨d,hd,hkey,mem_sortedSet.mp hperm⟩
    · rintro ⟨d,hd,hkey,hperm⟩
      exact ⟨d.parsed,List.mem_map_of_mem hd,hkey,mem_sortedSet.mpr hperm⟩
  · rw [hread]
    exact fun rule hrule => mem_typesOf hrule
  · rw [hread]
    exact fun rule hrule => mem_classesOf hrule

theorem granted_iff (hword : WordChars word) (h : ∀ d ∈ raw.events, d.WellFormed word) :
    (ParsedExactly word raw.events ∧
        ModuleExact (synthesize word (linesOf raw)).moduleSource raw.events) ↔
      ∀ d ∈ raw.events, d.source.Plain word ∧ d.target.Plain word := by
  constructor
  · rintro ⟨hparsed,_⟩ d hd
    exact (parsed_iff hword (h d hd)).mp (hparsed d hd)
  · intro hplain
    have hparsed : ParsedExactly word raw.events := fun d hd =>
      (parsed_iff hword (h d hd)).mpr (hplain d hd)
    exact ⟨hparsed,moduleExact_of_parsed hword hparsed⟩

end Granted

section Levels

def asciiWord (c : Char) : Bool := c.isAlphanum || c = '_'

theorem asciiWord_wordChars : WordChars asciiWord where
  ascii := fun _ _ => rfl
  space := by
    intro c hc
    by_contra hword
    rw [Bool.not_eq_false,asciiWord,Bool.or_eq_true,decide_eq_true_eq] at hword
    rcases hword with halnum | rfl
    · delta Char.isAlphanum Char.isAlpha Char.isUpper Char.isLower Char.isDigit at halnum
      simp only [Bool.or_eq_true,Bool.and_eq_true,decide_eq_true_eq,ge_iff_le,
        UInt32.le_iff_toNat_le] at halnum
      simp [isSpace] at hc halnum
      omega
    · revert hc
      decide

/-- A field of the line that is not a target context after a blank. -/
def targetFree : List Char → Bool
  | [] => true
  | c :: cs => !(isSpace c && "tcontext=".toList.isPrefixOf cs) && targetFree cs

theorem targetFree_spec {cs : List Char} (h : targetFree cs = true) :
    ∀ pre c post, cs = pre ++ c :: post → isSpace c = true → ¬"tcontext=".toList <+: post := by
  induction cs with
  | nil => simp
  | cons d cs ih =>
    rw [targetFree,Bool.and_eq_true] at h
    intro pre c post hsplit hspace hprefix
    cases pre with
    | nil =>
      obtain ⟨rfl,rfl⟩ := List.cons.inj hsplit
      have hfree := h.1
      rw [hspace,List.isPrefixOf_iff_prefix.mpr hprefix] at hfree
      cases hfree
    | cons e pre => exact ih h.2 pre c post (List.cons.inj hsplit).2 hspace hprefix

def deniedRead (level : String) : Denial where
  before := "type=AVC msg=audit(1234.567:890): "
  afterAvc := "  "
  afterDenied := "  "
  perms := ["read"]
  between := " for  pid=1234 comm=\"nginx\" "
  source := ⟨"system_u","system_r","httpd_t",level⟩
  afterSource := " "
  target := ⟨"system_u","object_r","etc_t","s0"⟩
  afterTarget := " "
  tclass := "file"
  after := " permissive=1"

theorem wellFormed_of_words {word : Char → Bool} {c : Context} (hword : WordChars word)
    (huser : isWordText word c.user.toList = true) (hrole : isWordText word c.role.toList = true)
    (htype : isWordText word c.type.toList = true) (hlevel : ∀ d ∈ c.level.toList, isSpace d = false) :
    c.WellFormed word :=
  ⟨⟨isWord_of_isWordText hword huser,word_noColon hword huser⟩,
    ⟨isWord_of_isWordText hword hrole,word_noColon hword hrole⟩,htype,hlevel⟩

theorem deniedRead_wellFormed {level : String} (h : ∀ c ∈ level.toList, isSpace c = false) :
    (deniedRead level).WellFormed asciiWord := by
  have hblank : IsGap " ".toList ∧ IsGap "  ".toList :=
    ⟨⟨by simp,by simp [isSpace]⟩,⟨by simp,by simp [isSpace]⟩⟩
  have hbefore : ¬"avc:".toList <:+: "type=AVC msg=audit(1234.567:890): ".toList := by decide
  have hread : IsWord isSpace "read".toList ∧ '\x7d' ∉ "read".toList :=
    ⟨⟨by simp,by simp [isSpace]⟩,by simp⟩
  have hbetween : Between " for  pid=1234 comm=\"nginx\" ".toList :=
    ⟨by simp [notLineFeed],by simp [isSpace],targetFree_spec (by decide)⟩
  have hfields : ∀ field ∈ ["system_u","system_r","object_r","httpd_t","etc_t"],
      isWordText asciiWord field.toList = true := by decide
  have hsource : Context.WellFormed asciiWord ⟨"system_u","system_r","httpd_t",level⟩ :=
    wellFormed_of_words asciiWord_wordChars (hfields _ (by simp)) (hfields _ (by simp))
      (hfields _ (by simp)) h
  have hplain : ∀ c ∈ "s0".toList, isSpace c = false := by simp [isSpace]
  have htarget : Context.WellFormed asciiWord ⟨"system_u","object_r","etc_t","s0"⟩ :=
    wellFormed_of_words asciiWord_wordChars (hfields _ (by simp)) (hfields _ (by simp))
      (hfields _ (by simp)) hplain
  have hclass : isWordText asciiWord "file".toList = true := by decide
  have hafter : ∀ c ∈ " permissive=1".toList.head?, asciiWord c = false := by simp [asciiWord]
  refine ⟨hbefore,hblank.2,hblank.2,?_,hbetween,hsource,hblank.1,htarget,hblank.1,hclass,hafter⟩
  intro p hp
  obtain rfl := List.mem_singleton.mp hp
  exact hread

theorem deniedRead_plain {level : String}
    (h : Context.levelWords asciiWord ⟨"system_u","system_r","httpd_t",level⟩ = []) :
    (deniedRead level).source.Plain asciiWord ∧ (deniedRead level).target.Plain asciiWord := by
  have htarget : Context.levelWords asciiWord ⟨"system_u","object_r","etc_t","s0"⟩ = [] := by
    decide
  constructor
  · intro w hw
    rw [deniedRead,h] at hw
    cases hw
  · intro w hw
    rw [deniedRead,htarget] at hw
    cases hw

/-- The denials are parsed and granted exactly when no level has a word that is taken for the type. -/
theorem denials_granted_iff {word : Char → Bool} {raw : Observations Denial} (hword : WordChars word)
    (h : ∀ d ∈ raw.events, d.WellFormed word) :
    (ParsedExactly word raw.events ∧
        ModuleExact (synthesize word (linesOf raw)).moduleSource raw.events) ↔
      ∀ d ∈ raw.events, d.source.Plain word ∧ d.target.Plain word :=
  granted_iff hword h

def plainRaw : Observations Denial := [("web",[deniedRead "s0",deniedRead "s0-s0:c0.c1023"])]

theorem plainRaw_granted : ParsedExactly asciiWord plainRaw.events ∧
    ModuleExact (synthesize asciiWord (linesOf plainRaw)).moduleSource plainRaw.events := by
  have hevents : plainRaw.events = [deniedRead "s0",deniedRead "s0-s0:c0.c1023"] := rfl
  refine (denials_granted_iff asciiWord_wordChars ?_).mpr ?_
  · rw [hevents]
    intro d hd
    simp only [List.mem_cons,List.not_mem_nil,or_false] at hd
    rcases hd with rfl | rfl
    · exact deniedRead_wellFormed (by simp [isSpace])
    · exact deniedRead_wellFormed (by simp [isSpace])
  · rw [hevents]
    intro d hd
    simp only [List.mem_cons,List.not_mem_nil,or_false] at hd
    rcases hd with rfl | rfl
    · exact deniedRead_plain (by decide)
    · exact deniedRead_plain (by decide)

def categoriesRaw : Observations Denial := [("web",[deniedRead "s0:c1,c2"])]

/-- With categories the sensitivity is taken for the type, and the rule is for it. -/
theorem categories_taken : (deniedRead "s0:c1,c2").WellFormed asciiWord ∧
    parseAvcLine asciiWord (deniedRead "s0:c1,c2").line = some ⟨⟨"s0","etc_t","file"⟩,["read"]⟩ ∧
    ¬ModuleExact (synthesize asciiWord (linesOf categoriesRaw)).moduleSource categoriesRaw.events := by
  have hwell : (deniedRead "s0:c1,c2").WellFormed asciiWord := deniedRead_wellFormed (by simp [isSpace])
  have hparsed : parseAvcLine asciiWord (deniedRead "s0:c1,c2").line =
      some ⟨⟨"s0","etc_t","file"⟩,["read"]⟩ := by
    have hsource : capturedType asciiWord (deniedRead "s0:c1,c2").source = "s0".toList := by
      decide
    have htarget : capturedType asciiWord (deniedRead "s0:c1,c2").target = "etc_t".toList := by
      decide
    have hperms : sortedSet (deniedRead "s0:c1,c2").perms = ["read"] := by decide
    rw [Denial.parse_line asciiWord_wordChars hwell,hsource,htarget,hperms]
    rfl
  refine ⟨hwell,hparsed,fun hexact => ?_⟩
  have hevents : (linesOf categoriesRaw).events.filterMap (parseAvcLine asciiWord) =
      [⟨⟨"s0","etc_t","file"⟩,["read"]⟩] := by
    have hlines : (linesOf categoriesRaw).events = [(deniedRead "s0:c1,c2").line] := rfl
    rw [hlines,List.filterMap_cons_some hparsed]
    rfl
  have hdenied := (hexact.denied ⟨"httpd_t","etc_t","file"⟩).mpr
    ⟨deniedRead "s0:c1,c2",List.mem_singleton_self _,rfl⟩
  rw [readModule_synthesize asciiWord_wordChars,hevents] at hdenied
  revert hdenied
  decide

end Levels

end Selinux

end Nexplane
