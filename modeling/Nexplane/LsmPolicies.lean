import Nexplane.AppArmorProfiles

set_option autoImplicit false

/-! The eBPF LSM policy that is synthesized from the events of a soak, and what the two plugins
permit. -/

namespace Nexplane
open PyValue Patterns Globs

namespace EbpfLsm

structure Event where
  syscall : String := ""
  path : String := ""
  process : String := "*"
  deriving DecidableEq, Repr

/-- `[^/]+$`. -/
def entry : Pattern := [(0,.many 1 true notSlash),(0,.ending)]

def dirGlobRules : List Pattern :=
  [inDirectory "/etc/" ++ entry,inDirectory "/var/log/" ++ entry,inDirectory "/var/lib/" ++ entry,
    [(1,.text "/usr/".toList),(1,.many 1 true notSlash),(1,.text ['/']),(1,.many 1 true notSlash),
      (0,.text ['/'])] ++ entry,
    inDirectory "/run/" ++ entry]

def tmpPattern : Pattern := (0,.text "/tmp/".toList) :: entry

def globPath (path : String) : String :=
  if (matchAt tmpPattern path.toList).isSome then "/tmp/*"
  else match dirGlobRules.findSome? fun pattern => matchAt pattern path.toList with
    | some m => String.ofList (group 1 m) ++ "/*"
    | none => path

structure Rule where
  syscall : String
  pathPattern : String
  process : String
  action : String
  deriving DecidableEq, Repr

structure Profile where
  rules : List Rule
  defaultAction : String
  deriving DecidableEq, Repr

def ruleOf (event : Event) : Rule := ⟨event.syscall,globPath event.path,event.process,"allow"⟩

/-- The order of the rules: by the system call, then by the pattern. -/
def ruleLe (r s : Rule) : Bool :=
  r.syscall < s.syscall || (r.syscall = s.syscall && r.pathPattern ≤ s.pathPattern)

def synthesize (raw : Observations Event) : Profile where
  rules := (raw.events.map ruleOf).eraseDups.insertionSort fun r s => ruleLe r s = true
  defaultAction := "audit"

/-- A rule for all processes, or for the one. -/
def Concerns (process ruleProcess : String) : Prop := ruleProcess = "*" ∨ ruleProcess = process

def Permits (profile : Profile) (syscall path process : String) : Prop :=
  ∃ rule ∈ profile.rules, rule.action = "allow" ∧ rule.syscall = syscall ∧
    Concerns process rule.process ∧ fits (tokens rule.pathPattern.toList) path.toList = true

def dirRules : List DirRule :=
  [⟨"/tmp".toList,0,false⟩,⟨"/etc".toList,1,false⟩,⟨"/var/log".toList,1,false⟩,
    ⟨"/var/lib".toList,1,false⟩,⟨"/usr".toList,2,false⟩,⟨"/run".toList,1,false⟩]

theorem dirRules_apart : dirRules.Pairwise Apart := by decide

theorem dirRules_one : ∀ rule ∈ dirRules, rule.two = true → (true : Bool) = false := by
  decide

/-- The directories that stand for their entries. -/
def generaliser : Generaliser := Globs.generaliser true dirRules dirRules_apart dirRules_one

section Directories

variable {root p : List Char} {path : String}

/-- The rest of a path that is the name of an entry. -/
def isEntry (rest : List Char) : Bool := !(rest = [] || '/' ∈ rest)

theorem matchAt_entry (rest : List Char) : (isEntry rest = true → ∃ m, matchAt entry rest = some m ∧
    group 1 m = []) ∧ (isEntry rest = false → matchAt entry rest = none) := by
  constructor
  · intro h
    obtain ⟨hne,hslash⟩ : rest ≠ [] ∧ '/' ∉ rest := by simpa [isEntry] using h
    have htakes : Takes 1 notSlash [(0,.ending)] rest rest [] :=
      ⟨List.append_nil rest,notSlash_iff.mpr hslash,List.length_pos_iff.mpr hne,rfl⟩
    obtain ⟨m,hm⟩ := Option.isSome_iff_exists.mp (matchAt_many_isSome 0 true htakes)
    obtain ⟨before,after,m',_,hm',rfl,_⟩ := matchAt_many_some hm
    refine ⟨_,hm,?_⟩
    rw [matchAt] at hm'
    split at hm'
    · obtain rfl := Option.some.inj hm'
      rfl
    · cases hm'
  · intro h
    refine matchAt_many_none fun before after htakes => ?_
    have hend : after = [] ∨ after = ['\n'] := by
      have hrest := htakes.rest
      rw [matchAt] at hrest
      by_contra hno
      rw [if_neg hno] at hrest
      cases hrest
    have hslash : '/' ∉ rest := by
      rw [← htakes.split,List.mem_append]
      rintro (hin | hin)
      · exact notSlash_iff.mp htakes.all hin
      · rcases hend with rfl | rfl <;> simp at hin
    have hne : rest ≠ [] := by
      rintro rfl
      have := htakes.long
      have := congrArg List.length htakes.split
      simp only [List.length_append,List.length_nil] at this
      omega
    simp [isEntry,hne,hslash] at h

/-- The directory of the rule that the path is an entry of. -/
def entryDir (rule : DirRule) (p : List Char) : Option (List Char) :=
  (rule.split p).bind fun found => if isEntry found.2 then some found.1 else none

theorem group_entry {f : Match → List Char} {d rest : List Char}
    (hgroup : ∀ m, f m = d ++ group 1 m) :
    (matchAt entry rest).map f = if isEntry rest then some d else none := by
  obtain ⟨hsome,hnone⟩ := matchAt_entry rest
  cases hentry : isEntry rest with
  | false =>
    rw [hnone hentry]
    rfl
  | true =>
    obtain ⟨m,hm,hempty⟩ := hsome hentry
    rw [hm,Option.map_some,hgroup,hempty,List.append_nil]
    rfl

theorem match_inDirectory {text : String} (htext : text.toList = root ++ ['/']) :
    (matchAt (inDirectory text ++ entry) p).map (group 1) = entryDir ⟨root,1,false⟩ p := by
  rw [matchAt_inDirectory htext false,entryDir]
  cases hsplit : (DirRule.mk root 1 false).split p with
  | none => rfl
  | some found =>
    have hdir := split_dir hsplit
    rw [Option.bind_some,Option.bind_some,Option.map_map]
    refine group_entry fun m => ?_
    rw [← hdir]
    simp [group,taken]

theorem match_tmp : (matchAt tmpPattern p).map (fun _ => "/tmp".toList) =
    entryDir ⟨"/tmp".toList,0,false⟩ p := by
  have htmp : "/tmp/".toList = "/tmp".toList ++ ['/'] := by simp
  rw [tmpPattern,htmp,entryDir]
  by_cases hroot : "/tmp".toList ++ ['/'] <+: p
  · obtain ⟨rest,rfl⟩ := hroot
    rw [matchAt_text,split_root]
    obtain ⟨hsome,hnone⟩ := matchAt_entry rest
    cases hentry : isEntry rest with
    | false =>
      rw [hnone hentry]
      simp [segments,hentry]
    | true =>
      obtain ⟨m,hm,_⟩ := hsome hentry
      rw [hm]
      simp [segments,hentry]
  · rw [matchAt_text_none hroot,split_none 0 false hroot]
    rfl

/-- Two segments are one and then another. -/
theorem segments_two (cs : List Char) : segments 2 ('/' :: cs) =
    (segments 1 ('/' :: cs)).bind fun first => (segments 1 ('/' :: first.2)).map fun second =>
      (first.1 ++ second.1,second.2) := by
  cases hfirst : segments 1 ('/' :: cs) with
  | some first =>
    obtain ⟨segment,hne,hslash,hd,rfl⟩ := segments_one.mp hfirst
    rw [segments_succ hne hslash,Option.bind_some,hd]
    rfl
  | none =>
    by_contra hsome
    obtain ⟨found,hfound⟩ := Option.ne_none_iff_exists'.mp hsome
    obtain ⟨segment,below,f,hne,hslash,heq,_,_⟩ := segments_succ_iff.mp hfound
    have hone : segments 1 ('/' :: cs) = some ('/' :: segment,below) :=
      segments_one.mpr ⟨segment,hne,hslash,rfl,(List.cons.inj heq).2⟩
    rw [hfirst] at hone
    cases hone

theorem match_usr : (matchAt ([(1,.text "/usr/".toList),(1,.many 1 true notSlash),(1,.text ['/']),
      (1,.many 1 true notSlash),(0,.text ['/'])] ++ entry) p).map (group 1) =
    entryDir ⟨"/usr".toList,2,false⟩ p := by
  have husr : "/usr/".toList = "/usr".toList ++ ['/'] := by simp
  rw [husr,entryDir]
  by_cases hroot : "/usr".toList ++ ['/'] <+: p
  · obtain ⟨cs,rfl⟩ := hroot
    have hpattern : [(1,Item.many 1 true notSlash),(1,.text ['/']),(1,.many 1 true notSlash),
        (0,.text ['/'])] ++ entry = (1,.many 1 true notSlash) :: (1,.text ['/']) ::
          (1,.many 1 true notSlash) :: (0,.text ['/']) :: entry := rfl
    rw [List.cons_append,matchAt_text,split_root,hpattern,matchAt_segment,segments_two]
    cases hfirst : segments 1 ('/' :: cs) with
    | none => rfl
    | some first =>
      obtain ⟨segment,_,_,hd,_⟩ := segments_one.mp hfirst
      simp only [Option.bind_some,matchAt_segment]
      cases hsecond : segments 1 ('/' :: first.2) with
      | none => rfl
      | some second =>
        obtain ⟨segment',_,_,hd',_⟩ := segments_one.mp hsecond
        simp only [Option.bind_some,Option.map_some]
        simp only [Option.map_map]
        refine group_entry fun m => ?_
        simp [group,taken,hd,hd']
  · rw [List.cons_append,matchAt_text_none hroot,split_none 2 false hroot]
    rfl

theorem dirOf_entries (rules : List DirRule) (hone : ∀ rule ∈ rules, rule.two = false) :
    dirOf true rules p = (rules.findSome? fun rule => entryDir rule p).map fun d => (d,false) := by
  induction rules with
  | nil => rfl
  | cons rule rules ih =>
    have hrest := ih fun r hr => hone r (List.mem_cons_of_mem _ hr)
    rw [dirOf,List.findSome?_cons,List.findSome?_cons,entryDir]
    cases hsplit : rule.split p with
    | none => exact hrest
    | some found =>
      rw [Option.bind_some,Option.bind_some,hone rule List.mem_cons_self]
      cases hentry : isEntry found.2 with
      | true =>
        have hno : ¬(true && (found.2 = [] || '/' ∈ found.2)) = true := by simpa [isEntry] using hentry
        rw [if_neg hno]
        rfl
      | false =>
        have hyes : (true && (found.2 = [] || '/' ∈ found.2)) = true := by
          rw [isEntry,Bool.not_eq_false'] at hentry
          rwa [Bool.true_and]
        rw [if_pos hyes]
        exact hrest

theorem findSome_group (patterns : List Pattern) :
    (patterns.findSome? fun r => matchAt r p).map (group 1) =
      patterns.findSome? fun r => (matchAt r p).map (group 1) := by
  induction patterns with
  | nil => rfl
  | cons r patterns ih =>
    rw [List.findSome?_cons,List.findSome?_cons]
    cases matchAt r p with
    | none => exact ih
    | some m => rfl

/-- What the regular expressions make of a path is the glob of its directory. -/
theorem globPath_toList (path : String) : (globPath path).toList = generaliser.glob path.toList := by
  have hetc : "/etc/".toList = "/etc".toList ++ ['/'] := by simp
  have hlog : "/var/log/".toList = "/var/log".toList ++ ['/'] := by simp
  have hlib : "/var/lib/".toList = "/var/lib".toList ++ ['/'] := by simp
  have hrun : "/run/".toList = "/run".toList ++ ['/'] := by simp
  have hstar : "/*".toList = ['/','*'] := by simp
  have htmpStar : "/tmp/*".toList = "/tmp".toList ++ ['/','*'] := by simp
  have hdirs : (dirGlobRules.findSome? fun pattern => matchAt pattern path.toList).map (group 1) =
      dirRules.tail.findSome? fun rule => entryDir rule path.toList := by
    rw [findSome_group]
    simp only [dirGlobRules,dirRules,List.tail_cons,List.findSome?_cons,List.findSome?_nil,
      match_inDirectory hetc,match_inDirectory hlog,match_inDirectory hlib,match_inDirectory hrun,
      match_usr]
  have hdir : generaliser.dir path.toList =
      (dirRules.findSome? fun rule => entryDir rule path.toList).map fun d => (d,false) :=
    dirOf_entries dirRules (by decide)
  have htmp := match_tmp (p := path.toList)
  rw [Generaliser.glob_eq,hdir,dirRules,List.findSome?_cons,globPath]
  cases hmatch : matchAt tmpPattern path.toList with
  | some m =>
    rw [hmatch] at htmp
    rw [← htmp]
    exact htmpStar
  | none =>
    rw [hmatch] at htmp
    rw [← htmp]
    simp only [Option.isSome_none,Bool.false_eq_true,if_false,Option.map_none]
    rw [dirRules,List.tail_cons] at hdirs
    rw [← hdirs]
    cases hfound : dirGlobRules.findSome? fun pattern => matchAt pattern path.toList with
    | none => rfl
    | some m => simp [hstar]

end Directories

section Confinement

variable {raw : Observations Event} {syscall path process : String}

/-- The policy permits what has been observed. -/
def PermitsObserved (raw : Observations Event) : Prop :=
  ∀ event ∈ raw.events, Permits (synthesize raw) event.syscall event.path event.process

/-- The policy permits no path that is not in what an observed one stands for. -/
def PermitsOnlyObserved (raw : Observations Event) : Prop :=
  ∀ syscall path process, Permits (synthesize raw) syscall path process →
    ∃ event ∈ raw.events, event.syscall = syscall ∧ Concerns process event.process ∧
      generaliser.Area event.path.toList path.toList

theorem permits_iff : Permits (synthesize raw) syscall path process ↔ ∃ event ∈ raw.events,
    event.syscall = syscall ∧ Concerns process event.process ∧
      fits (tokens (generaliser.glob event.path.toList)) path.toList = true := by
  rw [Permits,synthesize]
  simp only [List.mem_insertionSort,List.mem_eraseDups,List.mem_map]
  constructor
  · rintro ⟨_,⟨event,hevent,rfl⟩,_,hsyscall,hprocess,hfits⟩
    dsimp only [ruleOf] at hfits
    rw [globPath_toList] at hfits
    exact ⟨event,hevent,hsyscall,hprocess,hfits⟩
  · rintro ⟨event,hevent,hsyscall,hprocess,hfits⟩
    refine ⟨ruleOf event,⟨event,hevent,rfl⟩,rfl,hsyscall,hprocess,?_⟩
    dsimp only [ruleOf]
    rwa [globPath_toList]

theorem not_tooDeep (p : List Char) : ¬generaliser.TooDeep p := by
  rintro ⟨d,rest,hd,hp,hslash⟩
  obtain ⟨rest',hp',hbelow⟩ := generaliser.parts p _ hd
  obtain rfl : rest = rest' := by
    rw [hp] at hp'
    exact (List.cons.inj (List.append_cancel_left hp')).2
  exact hbelow.elim (fun hnested => by cases hnested) fun hno => hno hslash

theorem permitsObserved (raw : Observations Event) : PermitsObserved raw :=
  fun event hevent => permits_iff.mpr ⟨event,hevent,rfl,.inr rfl,Generaliser.fits_own (not_tooDeep _)⟩

/-- The policy permits only what has been observed exactly when no path has a star in a part of it
that stays in the rule. -/
theorem permitsOnlyObserved_iff : PermitsOnlyObserved raw ↔
    ∀ event ∈ raw.events, '*' ∉ generaliser.kept event.path.toList := by
  constructor
  · intro honly event hevent hstar
    obtain ⟨q,hfits,hout⟩ := Generaliser.escapes hstar (raw.events.map fun e => e.path.toList)
    have hpermits : Permits (synthesize raw) event.syscall (String.ofList q) event.process :=
      permits_iff.mpr ⟨event,hevent,rfl,.inr rfl,by rwa [String.toList_ofList]⟩
    obtain ⟨e,he,_,_,harea⟩ := honly _ _ _ hpermits
    rw [String.toList_ofList] at harea
    exact hout _ (List.mem_map_of_mem he) harea
  · intro hplain syscall path process hpermits
    obtain ⟨e,he,hsyscall,hprocess,hfits⟩ := permits_iff.mp hpermits
    exact ⟨e,he,hsyscall,hprocess,Generaliser.fits_area (hplain e he) hfits⟩

end Confinement

end EbpfLsm

section Plugins

/-- Both plugins permit what has been observed, and nothing outside the directories it stands for,
exactly when the paths are of the kind that the rules are made for. -/
theorem policies_permit_observed_iff {raw : Observations AppArmor.Event} (h : AppArmor.Collected raw)
    (accesses : Observations EbpfLsm.Event) :
    ((AppArmor.PermitsObserved raw ∧ AppArmor.PermitsOnlyObserved raw) ∧
        EbpfLsm.PermitsObserved accesses ∧ EbpfLsm.PermitsOnlyObserved accesses) ↔
      (∀ event ∈ raw.events, AppArmor.Recognised event → AppArmor.Generalises event.resource) ∧
        ∀ event ∈ accesses.events, '*' ∉ EbpfLsm.generaliser.kept event.path.toList := by
  rw [AppArmor.permits_exactly_iff h,EbpfLsm.permitsOnlyObserved_iff]
  exact and_congr_right fun _ => ⟨fun hlsm => hlsm.2,fun hplain => ⟨EbpfLsm.permitsObserved accesses,hplain⟩⟩

/-- One event, read in a line of the audit log. -/
def oneRead (path : String) : Observations AppArmor.Event := [("web-1",[⟨"file_read",path⟩])]

theorem collected_nginx : AppArmor.Collected (oneRead "/etc/nginx/nginx.conf") := by
  intro event hevent
  obtain rfl : event = ⟨"file_read","/etc/nginx/nginx.conf"⟩ := by
    simpa [oneRead,Observations.events] using hevent
  exact ⟨"apparmor=\"ALLOWED\" operation=\"file_read\" name=\"/etc/nginx/nginx.conf\"",
    by decide⟩

theorem collected_bus : AppArmor.Collected (oneRead "/run/user/1000/bus") := by
  intro event hevent
  obtain rfl : event = ⟨"file_read","/run/user/1000/bus"⟩ := by
    simpa [oneRead,Observations.events] using hevent
  exact ⟨"apparmor=\"ALLOWED\" operation=\"file_read\" name=\"/run/user/1000/bus\"",
    by decide⟩

theorem nginx_permits_observed :
    (AppArmor.PermitsObserved (oneRead "/etc/nginx/nginx.conf") ∧
        AppArmor.PermitsOnlyObserved (oneRead "/etc/nginx/nginx.conf")) ∧
      EbpfLsm.PermitsObserved [("web-1",[⟨"open","/etc/nginx/nginx.conf","nginx"⟩])] ∧
        EbpfLsm.PermitsOnlyObserved [("web-1",[⟨"open","/etc/nginx/nginx.conf","nginx"⟩])] := by
  refine (policies_permit_observed_iff collected_nginx _).mpr ⟨?_,?_⟩
  · intro event hevent _
    obtain rfl : event = ⟨"file_read","/etc/nginx/nginx.conf"⟩ := by
      simpa [oneRead,Observations.events] using hevent
    refine ⟨by simp,by decide,?_⟩
    rintro ⟨d,rest,hd,_,_⟩
    have hdir : AppArmor.generaliser.dir "/etc/nginx/nginx.conf".toList =
        some ("/etc/nginx".toList,true) := by decide
    rw [hdir] at hd
    cases (Prod.mk.inj (Option.some.inj hd)).2
  · intro event hevent
    obtain rfl : event = ⟨"open","/etc/nginx/nginx.conf","nginx"⟩ := by
      simpa [Observations.events] using hevent
    decide

/-- The socket of a user's message bus is read, and the profile does not permit it. -/
theorem bus_not_permitted : AppArmor.Collected (oneRead "/run/user/1000/bus") ∧
    ¬AppArmor.PermitsObserved (oneRead "/run/user/1000/bus") := by
  refine ⟨collected_bus,fun hobserved => ?_⟩
  have hevent : (⟨"file_read","/run/user/1000/bus"⟩ : AppArmor.Event) ∈
      (oneRead "/run/user/1000/bus").events := by simp [oneRead,Observations.events]
  obtain ⟨e,he,_,_,_,hfits⟩ := (AppArmor.permits_iff collected_bus).mp
    (hobserved _ hevent (by simp [AppArmor.Recognised,AppArmor.opToMask]))
  obtain rfl : e = ⟨"file_read","/run/user/1000/bus"⟩ := by
    simpa [oneRead,Observations.events] using he
  have hdeep : AppArmor.generaliser.TooDeep "/run/user/1000/bus".toList :=
    ⟨"/run/user".toList,"1000/bus".toList,by decide,by simp,by simp⟩
  exact Generaliser.not_fits_tooDeep hdeep (by decide) hfits

end Plugins

end Nexplane
