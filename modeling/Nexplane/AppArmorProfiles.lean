import Nexplane.InterfaceSnapshots
import Nexplane.Lib.Globs
import Nexplane.Lib.Words

set_option autoImplicit false

/-! The AppArmor profile that is synthesized from the events of a soak. -/

namespace Nexplane
open PyValue Patterns Globs Text

/-- What each asset has reported. -/
abbrev Observations (α : Type) : Type := List (String × List α)

def Observations.events {α : Type} (raw : Observations α) : List α := raw.flatMap Prod.snd

/-- `sorted` of a set. -/
def sortedSet (texts : List String) : List String := texts.eraseDups.insertionSort (· ≤ ·)

theorem mem_sortedSet {text : String} {texts : List String} : text ∈ sortedSet texts ↔ text ∈ texts := by
  rw [sortedSet,List.mem_insertionSort,List.mem_eraseDups]

/-- A regular expression for paths and what replaces its match, made of the first group. -/
structure GlobRule where
  pattern : Pattern
  replacement : List Char → List Char

def GlobRule.apply (rule : GlobRule) (path : List Char) : Option (List Char) :=
  (matchAt rule.pattern path).map fun m => rule.replacement (group 1 m) ++ m.2

def notSlash (c : Char) : Bool := c ≠ '/'

def notLineFeed (c : Char) : Bool := c ≠ '\n'

/-- `^(root[^/]+)/`. -/
def inDirectory (root : String) : Pattern :=
  [(1,.text root.toList),(1,.many 1 true notSlash),(0,.text ['/'])]

/-- `.*`. -/
def anything : Nat × Item := (0,.many 0 true notLineFeed)

namespace AppArmor

structure Event where
  operation : String
  resource : String
  deriving DecidableEq, Repr

def opToMask : List (String × String) :=
  [("file_read","r"),("file_write","w"),("file_exec","ix"),("file_append","a"),("file_link","l")]

def maskOf (operation : String) : Option String := opToMask.lookup operation

def globRules : List GlobRule :=
  [⟨inDirectory "/var/log/" ++ [anything],(· ++ ['/','*','*'])⟩,
    ⟨inDirectory "/etc/" ++ [anything],(· ++ ['/','*','*'])⟩,
    ⟨inDirectory "/var/lib/" ++ [anything],(· ++ ['/','*','*'])⟩,
    ⟨inDirectory "/run/" ++ [anything],(· ++ ['/','*'])⟩,
    ⟨[(0,.text "/tmp/".toList),anything],fun _ => "/tmp/**".toList⟩]

def globPath (path : String) : String :=
  String.ofList ((globRules.findSome? fun rule => rule.apply path.toList).getD path.toList)

/-- The masks of each path of the file rules. -/
def fileRules (events : List Event) : List (String × List String) :=
  let found := events.filterMap fun event =>
    (maskOf event.operation).map fun mask => (globPath event.resource,mask)
  (sortedSet (found.map Prod.fst)).map fun path =>
    (path,sortedSet ((found.filter fun rule => rule.1 = path).map Prod.snd))

def resourcesOf (operation : String) (events : List Event) : List String :=
  sortedSet ((events.filter fun event => event.operation = operation).map Event.resource)

/-- The lines of one kind and the empty line after them. -/
def blockOf (lines : List String) : List String := if lines.isEmpty then [] else lines ++ [""]

def fileLine (rule : String × List String) : String :=
  "  " ++ rule.1 ++ " " ++ "".intercalate rule.2 ++ ","

def profileLines (events : List Event) : List String :=
  ["#include <tunables/global>","","/usr/sbin/\x7bservice_name\x7d \x7b",
      "  #include <abstractions/base>",""] ++
    blockOf ((resourcesOf "capability" events).map fun cap => "  capability " ++ cap ++ ",") ++
    blockOf ((resourcesOf "network" events).map fun proto => "  network " ++ proto ++ ",") ++
    (fileRules events).map fileLine ++ ["\x7d"]

structure Profile where
  profileName : String
  mode : String
  profileText : String
  deriving DecidableEq, Repr

def synthesize (raw : Observations Event) : Profile where
  profileName := "nexplane-\x7bservice_name\x7d"
  mode := "complain"
  profileText := "\n".intercalate (profileLines raw.events)

/-- The access of a rule: the letters of the modes. -/
def isMode (c : Char) : Bool := c ∈ ['r','w','i','x','a','l']

/-- A line of a profile that is a rule for files: a path, and the access to it. -/
def readFileRule (line : String) : Option (String × String) :=
  match stringFields line with
  | [path,access] =>
    match path.toList.head?,access.toList.reverse with
    | some '/',',' :: mask =>
      if mask ≠ [] ∧ mask.all isMode then some (path,String.ofList mask.reverse) else none
    | _,_ => none
  | _ => none

def readProfile (text : String) : List (String × String) :=
  (text.toList.splitOn '\n').filterMap fun line => readFileRule (String.ofList line)

/-- The tokens `key=value` of a line of the audit log. -/
def auditFields (line : String) : List (String × String) :=
  (stringFields line).filterMap fun token =>
    (splitFirst '=' token.toList).bind fun pair =>
      if pair.1 = [] then none
      else some (String.ofList pair.1,String.ofList (trim (· = '"') pair.2))

def auditField (fields : List (String × String)) (key : String) : String :=
  ((fields.filter fun field => field.1 = key).getLast?.map Prod.snd).getD ""

def eventOf (operation resource : String) : Option Event :=
  if resource = "" then none else some ⟨operation,resource⟩

/-- What the agent reports of a line. -/
def parseAVCLine (line : String) : Option Event :=
  let fields := auditFields line
  let operation := auditField fields "operation"
  if operation ∈ ["file_read","file_write","file_exec","file_append","file_link"] then
    eventOf operation (auditField fields "name")
  else if operation = "capable" then eventOf "capability" (auditField fields "capname")
  else if operation ∈ ["connect","bind","accept","listen","sendmsg","recvmsg"] then
    let family := auditField fields "family"
    eventOf "network" (if family = "" then "inet" else family)
  else none

/-- The events are those that agents have read in lines of their audit logs. -/
def Collected (raw : Observations Event) : Prop :=
  ∀ event ∈ raw.events, ∃ line, parseAVCLine line = some event

/-- The profile permits the operation on the path. -/
def Permits (text operation path : String) : Prop :=
  ∃ rule ∈ readProfile text, ∃ mask, maskOf operation = some mask ∧
    mask.toList ⊆ rule.2.toList ∧ fits (tokens rule.1.toList) path.toList = true

end AppArmor

section Directories

variable {root path d rest : List Char} {r : Pattern} {m : Match}

theorem notSlash_iff {cs : List Char} : (∀ c ∈ cs, notSlash c = true) ↔ '/' ∉ cs := by
  constructor
  · intro hall hin
    have := hall _ hin
    contradiction
  · intro hno c hc
    rw [notSlash,decide_eq_true_eq]
    rintro rfl
    exact hno hc

theorem segments_one {cs : List Char} : segments 1 ('/' :: cs) = some (d,rest) ↔
    ∃ segment, segment ≠ [] ∧ '/' ∉ segment ∧ d = '/' :: segment ∧ cs = segment ++ '/' :: rest := by
  rw [segments_succ_iff]
  constructor
  · rintro ⟨segment,below,⟨d',rest'⟩,hne,hslash,hcs,hzero,heq⟩
    obtain ⟨hnil,hbelow⟩ := segments_zero.mp hzero
    obtain rfl : d' = [] := hnil
    obtain ⟨_,rfl⟩ := List.cons.inj hbelow
    obtain ⟨rfl,rfl⟩ := Prod.mk.inj heq
    obtain ⟨_,rfl⟩ := List.cons.inj hcs
    exact ⟨segment,hne,hslash,by simp,rfl⟩
  · rintro ⟨segment,hne,hslash,rfl,rfl⟩
    exact ⟨segment,rest,([],rest),hne,hslash,rfl,rfl,by simp⟩

/-- A segment of a path and the slash after it. -/
theorem matchAt_segment (g g' : Nat) (r : Pattern) (cs : List Char) :
    matchAt ((g,.many 1 true notSlash) :: (g',.text ['/']) :: r) cs =
      (segments 1 ('/' :: cs)).bind fun found => (matchAt r found.2).map fun m =>
        taken g (found.1.drop 1) (taken g' ['/'] m) := by
  cases hsegments : segments 1 ('/' :: cs) with
  | some found =>
    obtain ⟨segment,hne,hslash,hd,rfl⟩ := segments_one.mp hsegments
    have hlong : 1 ≤ segment.length := List.length_pos_iff.mpr hne
    have hrun : matchAt ((g,.many 1 true notSlash) :: (g',.text ['/']) :: r)
        (segment ++ (['/'] ++ found.2)) = _ :=
      matchAt_run (notSlash_iff.mpr hslash) rfl hlong true [] found.2 r
    have hpath : segment ++ '/' :: found.2 = segment ++ (['/'] ++ found.2) := rfl
    rw [hpath,hrun,Option.bind_some,hd,Option.map_map]
    rfl
  | none =>
    refine matchAt_many_none fun segment after htakes => ?_
    obtain ⟨m,hm⟩ := Option.isSome_iff_exists.mp htakes.rest
    obtain ⟨rest,_,rfl,_⟩ := matchAt_text_some hm
    have hne : segment ≠ [] := List.length_pos_iff.mp htakes.long
    have hfound : segments 1 ('/' :: cs) = some ('/' :: segment,rest) :=
      segments_one.mpr ⟨segment,hne,notSlash_iff.mp htakes.all,rfl,htakes.split.symm⟩
    rw [hsegments] at hfound
    cases hfound

/-- After a root and its slash, what a rule splits off. -/
theorem split_root (depth : Nat) (two : Bool) (cs : List Char) :
    (DirRule.mk root depth two).split (root ++ ['/'] ++ cs) =
      (segments depth ('/' :: cs)).map fun found => (root ++ found.1,found.2) := by
  rw [DirRule.split,List.append_assoc,List.dropPrefix?_append_of_beq _ (by simp)]
  rfl

theorem split_none (depth : Nat) (two : Bool) (h : ¬root ++ ['/'] <+: path) :
    (DirRule.mk root depth two).split path = none := by
  by_contra hsome
  obtain ⟨found,hfound⟩ := Option.ne_none_iff_exists'.mp hsome
  exact h (split_some hfound).2.1

/-- What a regular expression for the paths of a directory matches. -/
theorem matchAt_inDirectory {text : String} (htext : text.toList = root ++ ['/']) (two : Bool) (r : Pattern) :
    matchAt (inDirectory text ++ r) path = ((DirRule.mk root 1 two).split path).bind fun found =>
      (matchAt r found.2).map fun m => taken 1 (root ++ ['/'])
        (taken 1 (found.1.drop (root.length + 1)) (taken 0 ['/'] m)) := by
  have happend : inDirectory text ++ r =
      (1,.text (root ++ ['/'])) :: (1,.many 1 true notSlash) :: (0,.text ['/']) :: r := by
    rw [inDirectory,htext]
    rfl
  rw [happend]
  by_cases hroot : root ++ ['/'] <+: path
  · obtain ⟨cs,rfl⟩ := hroot
    rw [matchAt_text,matchAt_segment,split_root]
    cases segments 1 ('/' :: cs) with
    | none => rfl
    | some found =>
      have hdrop : (root ++ found.1).drop (root.length + 1) = found.1.drop 1 := by simp [List.drop_append]
      simp only [Option.bind_some,Option.map_some,Option.map_map,hdrop]
      rfl
  · rw [matchAt_text_none hroot,split_none 1 two hroot]
    rfl

theorem split_dir {two : Bool} {found : List Char × List Char}
    (h : (DirRule.mk root 1 two).split path = some found) :
    root ++ ['/'] ++ found.1.drop (root.length + 1) = found.1 := by
  obtain ⟨_,⟨cs,rfl⟩,_⟩ := split_some h
  rw [split_root] at h
  obtain ⟨f,hf,rfl⟩ := Option.map_eq_some_iff.mp h
  obtain ⟨segment,_,_,hd,_⟩ := segments_one.mp hf
  simp [hd,List.drop_append]

end Directories

namespace AppArmor

def dirRules : List DirRule :=
  [⟨"/var/log".toList,1,true⟩,⟨"/etc".toList,1,true⟩,⟨"/var/lib".toList,1,true⟩,
    ⟨"/run".toList,1,false⟩,⟨"/tmp".toList,0,true⟩]

theorem dirRules_apart : dirRules.Pairwise Apart := by decide

/-- The directories that stand for the paths below them. -/
def generaliser : Generaliser := Globs.generaliser false dirRules dirRules_apart fun _ _ _ => rfl

variable {path : String} {p root tail : List Char}

theorem apply_inDirectory {text : String} (htext : text.toList = root ++ ['/']) (two : Bool)
    (hline : '\n' ∉ p) :
    (GlobRule.mk (inDirectory text ++ [anything]) (· ++ tail)).apply p =
      ((DirRule.mk root 1 two).split p).map fun found => found.1 ++ tail := by
  rw [GlobRule.apply,matchAt_inDirectory htext two]
  cases hsplit : (DirRule.mk root 1 two).split p with
  | none => rfl
  | some found =>
    have hp := (split_some hsplit).1
    have hrest : ∀ c ∈ found.2, notLineFeed c = true := by
      intro c hc
      rw [notLineFeed,decide_eq_true_eq]
      rintro rfl
      exact hline (by simp [hp,hc])
    have hdir := split_dir hsplit
    rw [Option.bind_some,anything,matchAt_all 0 hrest]
    simpa [group,taken] using congrArg (· ++ tail) hdir

theorem apply_tmp (hline : '\n' ∉ p) :
    (GlobRule.mk [(0,.text "/tmp/".toList),anything] fun _ => "/tmp/**".toList).apply p =
      ((DirRule.mk "/tmp".toList 0 true).split p).map fun found => found.1 ++ stars true := by
  have htmp : "/tmp/".toList = "/tmp".toList ++ ['/'] := by simp
  have hstars : "/tmp/**".toList = "/tmp".toList ++ stars true := by decide
  rw [GlobRule.apply,htmp,hstars,DirRule.split]
  cases hdrop : p.dropPrefix? "/tmp".toList with
  | none =>
    rw [matchAt_text_none]
    · rfl
    · rintro ⟨after,rfl⟩
      rw [List.append_assoc,List.dropPrefix?_append_of_beq _ (by simp)] at hdrop
      cases hdrop
  | some below =>
    obtain ⟨pre,rfl,hpre⟩ := List.dropPrefix?_eq_some_iff.mp hdrop
    obtain rfl := beq_iff_eq.mp hpre
    rw [Option.bind_some]
    by_cases hslash : ∃ rest, below = '/' :: rest
    · obtain ⟨rest,rfl⟩ := hslash
      have hrest : ∀ c ∈ rest, notLineFeed c = true := by
        intro c hc
        rw [notLineFeed,decide_eq_true_eq]
        rintro rfl
        exact hline (by simp [hc])
      have happend : "/tmp".toList ++ '/' :: rest = "/tmp".toList ++ ['/'] ++ rest := by simp
      rw [happend,matchAt_text,anything,matchAt_all 0 hrest]
      simp [taken,segments]
    · rw [matchAt_text_none]
      · cases hzero : segments 0 below with
        | none => rfl
        | some found => exact absurd (segments_head hzero) hslash
      · rintro ⟨after,hafter⟩
        rw [List.append_assoc] at hafter
        exact hslash ⟨after,(List.append_cancel_left hafter).symm⟩

/-- On one line, what the regular expressions make of a path is the glob of its directory. -/
theorem globPath_toList (hline : '\n' ∉ path.toList) :
    (globPath path).toList = generaliser.glob path.toList := by
  have hlog : "/var/log/".toList = "/var/log".toList ++ ['/'] := by simp
  have hetc : "/etc/".toList = "/etc".toList ++ ['/'] := by simp
  have hlib : "/var/lib/".toList = "/var/lib".toList ++ ['/'] := by simp
  have hrun : "/run/".toList = "/run".toList ++ ['/'] := by simp
  have hrules : (globRules.findSome? fun rule => rule.apply path.toList) =
      dirRules.findSome? fun rule => (rule.split path.toList).map fun found =>
        found.1 ++ stars rule.two := by
    simp only [globRules,dirRules,List.findSome?_cons,List.findSome?_nil,
      apply_inDirectory hlog true hline,apply_inDirectory hetc true hline,
      apply_inDirectory hlib true hline,apply_inDirectory hrun false hline,apply_tmp hline]
    rfl
  rw [globPath,String.toList_ofList,hrules,dirOf_map,Generaliser.glob_eq]
  rfl

end AppArmor

namespace AppArmor

section Lines

variable {path mask text line : String} {raw : Observations Event} {event : Event}
  {events : List Event}

theorem auditField_noSpace (line key : String) :
    ∀ c ∈ (auditField (auditFields line) key).toList, c.isWhitespace = false := by
  rw [auditField]
  cases hlast : ((auditFields line).filter fun field => field.1 = key).getLast? with
  | none => simp
  | some field =>
    have hmem := (List.mem_filter.mp (List.mem_of_getLast? hlast)).1
    obtain ⟨token,htoken,hfield⟩ := List.mem_filterMap.mp hmem
    obtain ⟨pair,hpair,hvalue⟩ := Option.bind_eq_some_iff.mp hfield
    split at hvalue
    · cases hvalue
    · obtain rfl := Option.some.inj hvalue
      intro c hc
      have hin : c ∈ pair.2 := by
        have hvalue : c ∈ trim (· = '"') pair.2 := by simpa using hc
        exact (Lines.trim_sublist _ _).subset hvalue
      have hsplit := (splitFirst_eq_some.mp hpair).1
      refine (isField_of_mem htoken).noSpace c ?_
      rw [hsplit]
      exact List.mem_append_right _ (List.mem_cons_of_mem _ hin)

theorem eventOf_isField {operation resource : String} (h : eventOf operation resource = some event)
    (hspace : ∀ c ∈ resource.toList, c.isWhitespace = false) : IsField event.resource := by
  rw [eventOf] at h
  split at h
  · cases h
  · next hne =>
    obtain rfl := Option.some.inj h
    exact ⟨hne,hspace⟩

/-- What the agent reports has no blanks in it. -/
theorem parseAVCLine_isField (h : parseAVCLine line = some event) : IsField event.resource := by
  rw [parseAVCLine] at h
  dsimp only at h
  split at h
  · exact eventOf_isField h (auditField_noSpace line _)
  · split at h
    · exact eventOf_isField h (auditField_noSpace line _)
    · split at h
      · refine eventOf_isField h ?_
        split
        · simp
        · exact auditField_noSpace line _
      · cases h

theorem Collected.isField (h : Collected raw) (he : event ∈ raw.events) : IsField event.resource := by
  obtain ⟨line,hline⟩ := h event he
  exact parseAVCLine_isField hline

theorem globPath_isField (h : IsField path) : IsField (globPath path) := by
  have hglob := globPath_toList h.oneLine
  constructor
  · intro hempty
    rw [hempty] at hglob
    refine generaliser.glob_ne_nil ?_ hglob.symm
    simpa using h.nonempty
  · intro c hc
    rw [hglob] at hc
    rcases Generaliser.mem_glob hc with hc | rfl | rfl
    · exact h.noSpace c hc
    · rfl
    · rfl

theorem stringFields_words (line : String) :
    stringFields line = (Words.words Char.isWhitespace line.toList).map String.ofList := rfl

theorem isWord_toList (h : IsField text) : Words.IsWord Char.isWhitespace text.toList :=
  ⟨by simpa using h.nonempty,h.noSpace⟩

/-- The fields of a line with two words, the second of them with its comma. -/
theorem stringFields_two (h : IsField path) (hspace : ∀ c ∈ mask.toList, c.isWhitespace = false) :
    stringFields ("  " ++ path ++ " " ++ mask ++ ",") = [path,mask ++ ","] := by
  have hline : ("  " ++ path ++ " " ++ mask ++ ",").toList =
      ' ' :: ' ' :: (path.toList ++ ' ' :: (mask ++ ",").toList) := by simp
  have hmask : Words.IsWord Char.isWhitespace (mask ++ ",").toList := by
    constructor
    · simp
    · intro c hc
      simp only [String.toList_append,List.mem_append] at hc
      rcases hc with hc | hc
      · exact hspace c hc
      · obtain rfl : c = ',' := by simpa using hc
        rfl
  rw [stringFields_words,hline,Words.words_gap rfl,Words.words_gap rfl,
    Words.words_append_gap (isWord_toList h) rfl,hmask.words]
  simp

theorem readFileRule_line (h : IsField path) (hne : mask ≠ "")
    (hmodes : ∀ c ∈ mask.toList, isMode c = true) :
    readFileRule ("  " ++ path ++ " " ++ mask ++ ",") =
      if path.toList.head? = some '/' then some (path,mask) else none := by
  have hspace : ∀ c ∈ mask.toList, c.isWhitespace = false := by
    intro c hc
    have hmode := hmodes c hc
    simp only [isMode,List.mem_cons,List.not_mem_nil,or_false,decide_eq_true_eq] at hmode
    rcases hmode with rfl | rfl | rfl | rfl | rfl | rfl <;> rfl
  have haccess : (mask ++ ",").toList.reverse = ',' :: mask.toList.reverse := by simp
  have hall : mask.toList.reverse ≠ [] ∧ (mask.toList.reverse).all isMode = true := by
    refine ⟨by simpa using hne,List.all_eq_true.mpr fun c hc => ?_⟩
    exact hmodes c (List.mem_reverse.mp hc)
  rw [readFileRule,stringFields_two h hspace]
  dsimp only
  rw [haccess]
  split
  · next hhead hcomma =>
    obtain ⟨_,rfl⟩ := List.cons.inj hcomma
    rw [if_pos hall,if_pos hhead]
    simp
  · next hother =>
    rw [if_neg]
    intro hhead
    exact hother _ hhead rfl

/-- A line whose first word is no path is no rule for files. -/
theorem readFileRule_other {word : String} (hfields : stringFields line = [word,text])
    (hhead : word.toList.head? ≠ some '/') : readFileRule line = none := by
  rw [readFileRule,hfields]
  dsimp only
  split
  · next hslash _ => exact absurd hslash hhead
  · rfl

theorem mem_fileRules {rule : String × List String} : rule ∈ fileRules events ↔
    (∃ e ∈ events, ∃ m, maskOf e.operation = some m ∧ globPath e.resource = rule.1) ∧
      rule.2 = sortedSet (((events.filterMap fun e => (maskOf e.operation).map fun m =>
        (globPath e.resource,m)).filter fun r => r.1 = rule.1).map Prod.snd) := by
  rw [fileRules,List.mem_map]
  constructor
  · rintro ⟨path,hpath,rfl⟩
    refine ⟨?_,rfl⟩
    obtain ⟨⟨_,m⟩,hfound,rfl⟩ := List.mem_map.mp (mem_sortedSet.mp hpath)
    obtain ⟨e,he,hm⟩ := List.mem_filterMap.mp hfound
    obtain ⟨m',hm',heq⟩ := Option.map_eq_some_iff.mp hm
    obtain ⟨rfl,rfl⟩ := Prod.mk.inj heq
    exact ⟨e,he,m',hm',rfl⟩
  · rintro ⟨⟨e,he,m,hm,hpath⟩,hmasks⟩
    refine ⟨rule.1,mem_sortedSet.mpr (List.mem_map.mpr ⟨(rule.1,m),?_,rfl⟩),Prod.ext rfl hmasks.symm⟩
    exact List.mem_filterMap.mpr ⟨e,he,by rw [hm,← hpath]; rfl⟩

theorem exists_fileRule (he : event ∈ events) (hmask : maskOf event.operation = some mask) :
    ∃ rule ∈ fileRules events, rule.1 = globPath event.resource := by
  refine ⟨_,List.mem_map.mpr ⟨globPath event.resource,mem_sortedSet.mpr ?_,rfl⟩,rfl⟩
  refine List.mem_map.mpr ⟨(globPath event.resource,mask),?_,rfl⟩
  exact List.mem_filterMap.mpr ⟨event,he,by rw [hmask]; rfl⟩

/-- The masks of a path are those of the events with it. -/
theorem mem_masks {rule : String × List String} (h : rule ∈ fileRules events) : mask ∈ rule.2 ↔
    ∃ e ∈ events, maskOf e.operation = some mask ∧ globPath e.resource = rule.1 := by
  rw [(mem_fileRules.mp h).2,mem_sortedSet,List.mem_map]
  constructor
  · rintro ⟨⟨path,_⟩,hfound,rfl⟩
    obtain ⟨hfound,hpath⟩ := List.mem_filter.mp hfound
    obtain ⟨e,he,hrule⟩ := List.mem_filterMap.mp hfound
    obtain ⟨m,hm,heq⟩ := Option.map_eq_some_iff.mp hrule
    obtain ⟨rfl,rfl⟩ := Prod.mk.inj heq
    exact ⟨e,he,hm,by simpa using hpath⟩
  · rintro ⟨e,he,hm,hpath⟩
    refine ⟨(rule.1,mask),List.mem_filter.mpr ⟨List.mem_filterMap.mpr ⟨e,he,?_⟩,by simp⟩,rfl⟩
    rw [hm,← hpath]
    rfl

def maskText (rule : String × List String) : String := "".intercalate rule.2

theorem mem_maskText {rule : String × List String} {c : Char} :
    c ∈ (maskText rule).toList ↔ ∃ m ∈ rule.2, c ∈ m.toList := by
  rw [maskText,String.toList_intercalate]
  have hempty : "".toList = [] := rfl
  rw [hempty]
  induction rule.2 with
  | nil => simp
  | cons m ms ih =>
    cases ms with
    | nil => simp
    | cons m' ms =>
      rw [List.map_cons,List.map_cons,List.intercalate_cons_cons,List.append_nil,List.mem_append,
        ← List.map_cons,List.exists_mem_cons_iff]
      exact or_congr_right ih

theorem maskOf_mem {operation : String} (h : maskOf operation = some mask) :
    mask ∈ opToMask.map Prod.snd := by
  rw [maskOf] at h
  obtain ⟨l,r,heq,_⟩ := List.lookup_eq_some_iff.mp h
  rw [heq]
  simp

/-- No letter is in two masks, and every mask has one. -/
theorem masks_apart : ∀ m ∈ opToMask.map Prod.snd, m ≠ "" ∧ (∀ c ∈ m.toList, isMode c = true) ∧
    ∀ m' ∈ opToMask.map Prod.snd, (∃ c ∈ m.toList, c ∈ m'.toList) → m = m' := by
  simp [opToMask,isMode]

theorem masks_of_rule {rule : String × List String} (h : rule ∈ fileRules events) :
    ∀ m ∈ rule.2, m ∈ opToMask.map Prod.snd := by
  intro m hm
  obtain ⟨e,_,hmask,_⟩ := (mem_masks h).mp hm
  exact maskOf_mem hmask

/-- The letters of a mask are in the access of a rule exactly when the mask is. -/
theorem subset_maskText {rule : String × List String} (h : rule ∈ fileRules events)
    (hmask : mask ∈ opToMask.map Prod.snd) :
    mask.toList ⊆ (maskText rule).toList ↔ mask ∈ rule.2 := by
  obtain ⟨hne,_,hapart⟩ := masks_apart mask hmask
  constructor
  · intro hsubset
    obtain ⟨c,hc⟩ := List.exists_mem_of_ne_nil mask.toList (by simpa using hne)
    obtain ⟨m,hm,hcm⟩ := mem_maskText.mp (hsubset hc)
    rw [hapart m (masks_of_rule h m hm) ⟨c,hc,hcm⟩]
    exact hm
  · intro hm c hc
    exact mem_maskText.mpr ⟨mask,hm,hc⟩

theorem maskText_modes {rule : String × List String} (h : rule ∈ fileRules events) :
    maskText rule ≠ "" ∧ ∀ c ∈ (maskText rule).toList, isMode c = true := by
  constructor
  · obtain ⟨e,he,m,hm,hpath⟩ := (mem_fileRules.mp h).1
    obtain ⟨hne,_,_⟩ := masks_apart m (maskOf_mem hm)
    have hsubset := (subset_maskText h (maskOf_mem hm)).mpr ((mem_masks h).mpr ⟨e,he,hm,hpath⟩)
    intro hempty
    rw [hempty] at hsubset
    exact hne (by simpa using hsubset)
  · intro c hc
    obtain ⟨m,hm,hcm⟩ := mem_maskText.mp hc
    exact (masks_apart m (masks_of_rule h m hm)).2.1 c hcm

/-- What is read of a file rule. -/
def readBack (rule : String × List String) : Option (String × String) :=
  if rule.1.toList.head? = some '/' then some (rule.1,maskText rule) else none

theorem fileRules_isField (h : Collected raw) {rule : String × List String}
    (hrule : rule ∈ fileRules raw.events) : IsField rule.1 := by
  obtain ⟨e,he,_,_,hpath⟩ := (mem_fileRules.mp hrule).1
  rw [← hpath]
  exact globPath_isField (h.isField he)

theorem readFileRule_fileLine (h : Collected raw) {rule : String × List String}
    (hrule : rule ∈ fileRules raw.events) : readFileRule (fileLine rule) = readBack rule := by
  obtain ⟨hne,hmodes⟩ := maskText_modes hrule
  exact readFileRule_line (fileRules_isField h hrule) hne hmodes

theorem resourcesOf_noSpace (h : Collected raw) {operation resource : String}
    (hmem : resource ∈ resourcesOf operation raw.events) :
    ∀ c ∈ resource.toList, c.isWhitespace = false := by
  obtain ⟨e,he,rfl⟩ := List.mem_map.mp (mem_sortedSet.mp hmem)
  exact (h.isField (List.mem_filter.mp he).1).noSpace

theorem keyword_line {word resource : String} (hword : IsField word)
    (hspace : ∀ c ∈ resource.toList, c.isWhitespace = false)
    (hhead : word.toList.head? ≠ some '/') :
    readFileRule ("  " ++ word ++ " " ++ resource ++ ",") = none :=
  readFileRule_other (stringFields_two hword hspace) hhead

theorem filterMap_blockOf {lines : List String} (h : ∀ l ∈ lines, readFileRule l = none) :
    (blockOf lines).filterMap readFileRule = [] := by
  have hempty : readFileRule "" = none := by decide
  rw [blockOf]
  split
  · rfl
  · rw [List.filterMap_eq_nil_iff]
    intro l hl
    rcases List.mem_append.mp hl with hl | hl
    · exact h l hl
    · rw [List.mem_singleton.mp hl]
      exact hempty

theorem capability_isField : IsField "capability" := ⟨by decide,by simp⟩

theorem network_isField : IsField "network" := ⟨by decide,by simp⟩

theorem capability_line (resource : String) :
    "  capability " ++ resource ++ "," = "  " ++ "capability" ++ " " ++ resource ++ "," := by
  have hhead : "  capability " = "  " ++ "capability" ++ " " := by simp
  rw [hhead]

theorem network_line (resource : String) :
    "  network " ++ resource ++ "," = "  " ++ "network" ++ " " ++ resource ++ "," := by
  have hhead : "  network " = "  " ++ "network" ++ " " := by simp
  rw [hhead]

theorem filterMap_profileLines (h : Collected raw) :
    (profileLines raw.events).filterMap readFileRule = (fileRules raw.events).filterMap readBack := by
  have hheader : ["#include <tunables/global>","","/usr/sbin/\x7bservice_name\x7d \x7b",
      "  #include <abstractions/base>",""].filterMap readFileRule = [] := by decide
  have hfooter : ["\x7d"].filterMap readFileRule = [] := by decide
  have hcaps : ∀ l ∈ (resourcesOf "capability" raw.events).map fun cap =>
      "  capability " ++ cap ++ ",", readFileRule l = none := by
    intro l hl
    obtain ⟨cap,hcap,rfl⟩ := List.mem_map.mp hl
    rw [capability_line]
    exact keyword_line capability_isField (resourcesOf_noSpace h hcap) (by simp)
  have hnets : ∀ l ∈ (resourcesOf "network" raw.events).map fun proto =>
      "  network " ++ proto ++ ",", readFileRule l = none := by
    intro l hl
    obtain ⟨proto,hproto,rfl⟩ := List.mem_map.mp hl
    rw [network_line]
    exact keyword_line network_isField (resourcesOf_noSpace h hproto) (by simp)
  have hfiles : ((fileRules raw.events).map fileLine).filterMap readFileRule =
      (fileRules raw.events).filterMap readBack := by
    rw [List.filterMap_map]
    exact List.filterMap_congr fun rule hrule => readFileRule_fileLine h hrule
  rw [profileLines,List.filterMap_append,List.filterMap_append,List.filterMap_append,
    List.filterMap_append,hheader,filterMap_blockOf hcaps,filterMap_blockOf hnets,hfiles,hfooter,
    List.nil_append,List.nil_append,List.nil_append,List.append_nil]

theorem oneLine_append {s t : String} (hs : '\n' ∉ s.toList) (ht : '\n' ∉ t.toList) :
    '\n' ∉ (s ++ t).toList := by
  rw [String.toList_append,List.mem_append]
  exact not_or.mpr ⟨hs,ht⟩

theorem oneLine_noSpace (h : ∀ c ∈ text.toList, c.isWhitespace = false) : '\n' ∉ text.toList := by
  intro hin
  have := h _ hin
  contradiction

theorem maskText_oneLine {rule : String × List String} (h : rule ∈ fileRules events) :
    '\n' ∉ (maskText rule).toList := by
  intro hin
  have := (maskText_modes h).2 _ hin
  contradiction

theorem profileLines_oneLine (h : Collected raw) : ∀ l ∈ profileLines raw.events, '\n' ∉ l.toList := by
  have hfixed : ∀ l ∈ ["#include <tunables/global>","","/usr/sbin/\x7bservice_name\x7d \x7b",
      "  #include <abstractions/base>","","\x7d","  ",","," ","  capability ","  network "],
      '\n' ∉ l.toList := by simp
  have hblock : ∀ {lines : List String}, (∀ l ∈ lines, '\n' ∉ l.toList) →
      ∀ l ∈ blockOf lines, '\n' ∉ l.toList := by
    intro lines hlines l hl
    rw [blockOf] at hl
    split at hl
    · cases hl
    · rcases List.mem_append.mp hl with hl | hl
      · exact hlines l hl
      · exact hfixed l (by simp [List.mem_singleton.mp hl])
  intro l hl
  rw [profileLines] at hl
  simp only [List.mem_append] at hl
  rcases hl with (((hl | hl) | hl) | hl) | hl
  · exact hfixed l (by simp only [List.mem_cons,List.not_mem_nil,or_false] at hl ⊢; tauto)
  · refine hblock (fun l hl => ?_) l hl
    obtain ⟨cap,hcap,rfl⟩ := List.mem_map.mp hl
    exact oneLine_append (oneLine_append (hfixed _ (by simp))
      (oneLine_noSpace (resourcesOf_noSpace h hcap))) (hfixed _ (by simp))
  · refine hblock (fun l hl => ?_) l hl
    obtain ⟨proto,hproto,rfl⟩ := List.mem_map.mp hl
    exact oneLine_append (oneLine_append (hfixed _ (by simp))
      (oneLine_noSpace (resourcesOf_noSpace h hproto))) (hfixed _ (by simp))
  · obtain ⟨rule,hrule,rfl⟩ := List.mem_map.mp hl
    exact oneLine_append (oneLine_append (oneLine_append (oneLine_append (hfixed _ (by simp))
      (fileRules_isField h hrule).oneLine) (hfixed _ (by simp))) (maskText_oneLine hrule))
      (hfixed _ (by simp))
  · exact hfixed l (by simp [List.mem_singleton.mp hl])

/-- The rules that are read in the text of the profile are its file rules. -/
theorem readProfile_synthesize (h : Collected raw) :
    readProfile (synthesize raw).profileText = (fileRules raw.events).filterMap readBack := by
  have hbreak : "\n".toList = ['\n'] := by simp
  have hsplit : (synthesize raw).profileText.toList.splitOn '\n' =
      (profileLines raw.events).map String.toList := by
    rw [synthesize,String.toList_intercalate,hbreak]
    refine List.splitOn_intercalate _ (fun l hl => ?_) ?_
    · obtain ⟨line,hline,rfl⟩ := List.mem_map.mp hl
      exact profileLines_oneLine h line hline
    · simp [profileLines]
  rw [readProfile,hsplit,List.filterMap_map,← filterMap_profileLines h]
  refine List.filterMap_congr fun l _ => ?_
  rw [Function.comp_apply,String.ofList_toList]

end Lines

section Confinement

variable {raw : Observations Event} {event : Event} {operation path mask : String}

/-- An event for which there is a file rule. -/
def Recognised (event : Event) : Prop := event.operation ∈ opToMask.map Prod.fst

/-- The path is one, no part of it that stays in the rule has a star, and it is not below the
entries of a directory of `/run`. -/
def Generalises (path : String) : Prop :=
  path.toList.head? = some '/' ∧ '*' ∉ generaliser.kept path.toList ∧
    ¬generaliser.TooDeep path.toList

/-- The profile permits what has been observed. -/
def PermitsObserved (raw : Observations Event) : Prop :=
  ∀ event ∈ raw.events, Recognised event →
    Permits (synthesize raw).profileText event.operation event.resource

/-- The profile permits no operation on a path that is not in what an observed one stands for. -/
def PermitsOnlyObserved (raw : Observations Event) : Prop :=
  ∀ operation path, Permits (synthesize raw).profileText operation path →
    ∃ event ∈ raw.events, event.operation = operation ∧
      generaliser.Area event.resource.toList path.toList

theorem maskOf_operation (h : maskOf operation = some mask) : (operation,mask) ∈ opToMask := by
  obtain ⟨l,r,heq,_⟩ := List.lookup_eq_some_iff.mp h
  rw [heq]
  simp

theorem masks_injective : ∀ m ∈ opToMask, ∀ m' ∈ opToMask, m.2 = m'.2 → m.1 = m'.1 := by decide

theorem recognised_iff : Recognised event ↔ ∃ mask, maskOf event.operation = some mask := by
  constructor
  · intro h
    obtain ⟨⟨op,m⟩,hmem,hop⟩ := List.mem_map.mp h
    cases hlookup : maskOf event.operation with
    | some mask => exact ⟨mask,rfl⟩
    | none =>
      rw [maskOf,List.lookup_eq_none_iff] at hlookup
      have := hlookup (op,m) hmem
      simp [← hop] at this
  · rintro ⟨mask,hmask⟩
    exact List.mem_map.mpr ⟨_,maskOf_operation hmask,rfl⟩

/-- What is permitted comes from an event of the same operation, by the glob of its path. -/
theorem permits_iff (h : Collected raw) : Permits (synthesize raw).profileText operation path ↔
    ∃ event ∈ raw.events, event.operation = operation ∧ Recognised event ∧
      event.resource.toList.head? = some '/' ∧
      fits (tokens (generaliser.glob event.resource.toList)) path.toList = true := by
  rw [Permits,readProfile_synthesize h]
  constructor
  · rintro ⟨read,hread,mask,hmask,hsubset,hfits⟩
    obtain ⟨rule,hrule,hback⟩ := List.mem_filterMap.mp hread
    rw [readBack] at hback
    split at hback
    · next hhead =>
      obtain rfl := Option.some.inj hback
      obtain ⟨e,he,hmaskOf,hpath⟩ := (mem_masks hrule).mp
        ((subset_maskText hrule (maskOf_mem hmask)).mp hsubset)
      have hglob := globPath_toList (h.isField he).oneLine
      rw [hpath] at hglob
      dsimp only at hfits
      rw [hglob] at hhead hfits
      refine ⟨e,he,?_,recognised_iff.mpr ⟨mask,hmaskOf⟩,Generaliser.head_glob.mp hhead,hfits⟩
      exact masks_injective _ (maskOf_operation hmaskOf) _ (maskOf_operation hmask) rfl
    · cases hback
  · rintro ⟨e,he,rfl,hrecognised,hhead,hfits⟩
    obtain ⟨mask,hmask⟩ := recognised_iff.mp hrecognised
    have hglob := globPath_toList (h.isField he).oneLine
    obtain ⟨rule,hrule,hpath⟩ := exists_fileRule he hmask
    have hstart : rule.1.toList.head? = some '/' := by
      rw [hpath,hglob]
      exact Generaliser.head_glob.mpr hhead
    refine ⟨(rule.1,maskText rule),List.mem_filterMap.mpr ⟨rule,hrule,if_pos hstart⟩,mask,hmask,?_,?_⟩
    · exact (subset_maskText hrule (maskOf_mem hmask)).mpr ((mem_masks hrule).mpr
        ⟨e,he,hmask,hpath.symm⟩)
    · dsimp only
      rw [hpath,hglob]
      exact hfits

/-- A glob that starts with a slash fits only texts that do. -/
theorem head_of_fits {p q : List Char} (hhead : p.head? = some '/')
    (hfits : fits (tokens (generaliser.glob p)) q = true) : q.head? = some '/' := by
  have hglob := Generaliser.head_glob (g := generaliser) |>.mpr hhead
  cases hp : generaliser.glob p with
  | nil => simp [hp] at hglob
  | cons c rest =>
    rw [hp] at hglob hfits
    obtain rfl : c = '/' := by simpa using hglob
    rw [tokens_char (by decide)] at hfits
    obtain ⟨ds,rfl,_⟩ := fits_char.mp hfits
    rfl

/-- The profile permits what has been observed, and only that, exactly when every path is one that
generalises. -/
theorem permits_exactly_iff (h : Collected raw) : PermitsObserved raw ∧ PermitsOnlyObserved raw ↔
    ∀ event ∈ raw.events, Recognised event → Generalises event.resource := by
  constructor
  · rintro ⟨hobserved,honly⟩
    have hstarts : ∀ event ∈ raw.events, Recognised event → event.resource.toList.head? = some '/' := by
      intro event hevent hrecognised
      obtain ⟨e,_,_,_,hhead,hfits⟩ := (permits_iff h).mp (hobserved event hevent hrecognised)
      exact head_of_fits hhead hfits
    have hplain : ∀ event ∈ raw.events, Recognised event →
        '*' ∉ generaliser.kept event.resource.toList := by
      intro event hevent hrecognised hstar
      obtain ⟨q,hfits,hout⟩ := Generaliser.escapes hstar (raw.events.map fun e => e.resource.toList)
      have hpermits : Permits (synthesize raw).profileText event.operation (String.ofList q) :=
        (permits_iff h).mpr ⟨event,hevent,rfl,hrecognised,hstarts event hevent hrecognised,by
          rwa [String.toList_ofList]⟩
      obtain ⟨e,he,_,harea⟩ := honly _ _ hpermits
      rw [String.toList_ofList] at harea
      exact hout _ (List.mem_map_of_mem he) harea
    intro event hevent hrecognised
    refine ⟨hstarts event hevent hrecognised,hplain event hevent hrecognised,fun hdeep => ?_⟩
    obtain ⟨e,he,_,hrec,_,hfits⟩ := (permits_iff h).mp (hobserved event hevent hrecognised)
    exact Generaliser.not_fits_tooDeep hdeep (hplain e he hrec) hfits
  · intro hall
    constructor
    · intro event hevent hrecognised
      obtain ⟨hhead,_,hdeep⟩ := hall event hevent hrecognised
      exact (permits_iff h).mpr ⟨event,hevent,rfl,hrecognised,hhead,Generaliser.fits_own hdeep⟩
    · intro operation path hpermits
      obtain ⟨e,he,hop,hrec,_,hfits⟩ := (permits_iff h).mp hpermits
      exact ⟨e,he,hop,Generaliser.fits_area (hall e he hrec).2.1 hfits⟩

end Confinement

end AppArmor

end Nexplane
