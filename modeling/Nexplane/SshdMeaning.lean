import Nexplane.DriftRemediation
import Nexplane.Lib.Directives
import Mathlib.Algebra.Order.BigOperators.Group.List
import Mathlib.Data.List.Dedup

set_option autoImplicit false

/-! What `sshd` reads in its configuration before a capture and after a restore. -/

namespace Nexplane
open Text Lines Directives

/-- The lines of a file that are neither blank nor comments. -/
def settingLines (data : List Char) : List (List Char) :=
  ((data.splitOn '\n').map trimSpace).filter fun l => !skipLine l

def fileDirectives (data : List Char) : List Directive := (settingLines data).map readDirective

def SameMeaning (data data' : List Char) : Prop :=
  SameScopes (fileDirectives data) (fileDirectives data')

/-- The text before the first blank of a line. -/
def lineKey (l : List Char) : List Char := l.takeWhile fun c => c ≠ ' '

def lineRest (l : List Char) : List Char := (l.dropWhile fun c => c ≠ ' ').tail

/-- The first blank of a line stands outside double quotes, or no white space follows it. -/
def BlankOutside (l : List Char) : Prop :=
  endsQuoted false (lineKey l) = false ∨ ∀ c ∈ (lineRest l).head?, isIntSpace c = false

def byKey (ls : List (List Char)) : List (List Char) :=
  ls.insertionSort fun l m => lineKey l ≤ lineKey m

/-- Each line has a blank, a text of its own before it, and no line is too long to be read; in the
order of these texts the directives stay in their scopes and in sequence. -/
structure Restorable (data : List Char) : Prop where
  reached : ∀ l ∈ (data.splitOn '\n').dropWhile (fun l => byteSize l < scanLimit),
    skipLine (trimSpace l) = true
  keyed : ∀ l ∈ settingLines data, ' ' ∈ l
  distinct : ((settingLines data).map lineKey).Nodup
  outside : ∀ l ∈ settingLines data, BlankOutside l
  ordered : SameScopes (fileDirectives data) ((byKey (settingLines data)).map readDirective)

section Line

variable {l : List Char}

theorem splitFirst_line (hblank : ' ' ∈ l) : splitFirst ' ' l = some (lineKey l,lineRest l) := by
  induction l with
  | nil => cases hblank
  | cons c l ih =>
    by_cases hc : c = ' '
    · simp [splitFirst,lineKey,lineRest,hc]
    · have hl : ' ' ∈ l := by simpa [Ne.symm hc] using hblank
      simp [splitFirst,lineKey,lineRest,hc,ih hl]

/-- The line that a restore writes for a line. -/
def squeeze (l : List Char) : List Char := lineKey l ++ ' ' :: trimSpace (lineRest l)

/-- A trimmed line loses nothing but the white space after its first blank. -/
theorem exists_lead (htrim : Trimmed isIntSpace l) (hblank : ' ' ∈ l) :
    ∃ lead, l = lineKey l ++ ' ' :: (lead ++ trimSpace (lineRest l)) ∧
      lineRest l = lead ++ trimSpace (lineRest l) ∧ ∀ c ∈ lead, isIntSpace c = true := by
  obtain ⟨hline,_⟩ := splitFirst_eq_some.mp (splitFirst_line hblank)
  obtain ⟨lead,trail,hrest,hlead,htrail⟩ := trim_decompose isIntSpace (lineRest l)
  rcases List.eq_nil_or_concat trail with rfl | ⟨before,c,rfl⟩
  · rw [List.append_nil] at hrest
    exact ⟨lead,by rw [← trimSpace] at hrest; rw [← hrest]; exact hline,hrest,hlead⟩
  · have hspace : isIntSpace c = true := htrail c (by simp)
    have hlast := congrArg List.getLast? hline
    rw [hrest,List.concat_eq_append,← List.append_assoc,← List.cons_append,← List.append_assoc,
      List.getLast?_concat] at hlast
    rw [htrim.last c hlast] at hspace
    cases hspace

theorem blankOutside_iff {lead : List Char} (hrest : lineRest l = lead ++ trimSpace (lineRest l))
    (hlead : ∀ c ∈ lead, isIntSpace c = true) :
    BlankOutside l ↔ endsQuoted false (lineKey l) = false ∨ lead = [] := by
  refine or_congr Iff.rfl ?_
  cases lead with
  | nil =>
    rw [List.nil_append] at hrest
    rw [hrest]
    simpa [trimSpace] using (trim_trimmed isIntSpace (lineRest l)).first
  | cons c lead =>
    rw [hrest]
    simp [hlead c List.mem_cons_self]

/-- Outside double quotes the white space after the first blank is nothing. -/
theorem readDirective_squeeze (htrim : Trimmed isIntSpace l) (hblank : ' ' ∈ l)
    (houtside : BlankOutside l) : readDirective (squeeze l) = readDirective l := by
  obtain ⟨lead,hline,hrest,hlead⟩ := exists_lead htrim hblank
  have hwords : words (squeeze l) = words l := by
    rcases (blankOutside_iff hrest hlead).mp houtside with hquotes | rfl
    · conv_rhs => rw [hline]
      rw [squeeze,words_append hquotes (by decide),words_append hquotes (by decide),
        words_skip hlead]
    · conv_rhs => rw [hline]
      rfl
  rw [readDirective,readDirective,hwords]

/-- Between double quotes it is lost. -/
theorem squeeze_spaces (htrim : Trimmed isIntSpace l) (hblank : ' ' ∈ l) :
    (readDirective (squeeze l)).spaces ≤ (readDirective l).spaces ∧
      ((readDirective (squeeze l)).spaces = (readDirective l).spaces → BlankOutside l) := by
  obtain ⟨lead,hline,hrest,hlead⟩ := exists_lead htrim hblank
  have hspaces : quotedSpaces false l = quotedSpaces false (squeeze l) +
      if endsQuoted false (lineKey l) = true then lead.length else 0 := by
    have hsqueeze : squeeze l = lineKey l ++ ([' '] ++ trimSpace (lineRest l)) := rfl
    have hspace : isIntSpace ' ' = true := by decide
    have hone : ∀ c ∈ [' '], isIntSpace c = true := by simpa using hspace
    have hblank' : ∀ c ∈ ' ' :: lead, isIntSpace c = true := by simpa [hspace] using hlead
    conv_lhs => rw [hline,← List.cons_append]
    rw [hsqueeze,quotedSpaces_append,quotedSpaces_skip hblank',quotedSpaces_append,
      quotedSpaces_skip hone]
    split
    · simp only [List.length_cons,List.length_nil]
      omega
    · omega
  rw [readDirective_spaces,readDirective_spaces,hspaces,blankOutside_iff hrest hlead]
  refine ⟨by omega,fun heq => ?_⟩
  cases hquotes : endsQuoted false (lineKey l) with
  | false => exact Or.inl rfl
  | true =>
    right
    rw [hquotes] at heq
    simpa using heq

end Line

section Captured

variable {data l : List Char} {result state : DriftState}
  {fields : List (List Char × DriftValue)} {h : Host}

def isSaved (l : List Char) : Bool := !skipLine l && l.contains ' '

/-- The lines that a capture keeps. -/
def savedLines (data : List Char) : List (List Char) :=
  ((scan scanLimit data).map trimSpace).filter isSaved

def lineField (l : List Char) : List Char × DriftValue :=
  (lineKey l,.text (trimSpace (lineRest l)))

def storeFields (result : DriftState) (fields : List (List Char × DriftValue)) : DriftState :=
  fields.foldl (fun result kv => result.set kv.1 kv.2) result

theorem captureSSHLine_eq (result : DriftState) (l : List Char) : captureSSHLine result l =
    if isSaved l = true then result.set (lineField l).1 (lineField l).2 else result := by
  unfold captureSSHLine isSaved
  by_cases hskip : skipLine l = true
  · simp [hskip]
  · by_cases hblank : ' ' ∈ l
    · simp [hskip,hblank,splitFirst_line hblank,lineField]
    · simp [hskip,hblank,splitFirst_eq_none.mpr hblank]

theorem captureSSHConfig_eq (hdata : h.file sshPath = some data)
    (hcapture : captureSSHConfig h = .ok state) :
    state = storeFields .empty ((savedLines data).map lineField) := by
  simp only [captureSSHConfig,hdata] at hcapture
  obtain rfl := Except.ok.inj hcapture
  have hline : captureSSHLine = fun result l =>
      if isSaved l = true then result.set (lineField l).1 (lineField l).2 else result :=
    funext fun result => funext fun l => captureSSHLine_eq result l
  rw [storeFields,savedLines,hline]
  generalize (scan scanLimit data).map trimSpace = ls
  rw [List.foldl_map,List.foldl_filter]

theorem mem_keys_set {k k' : List Char} {v : DriftValue} :
    k' ∈ (result.set k v).fields.map Prod.fst ↔ k' = k ∨ k' ∈ result.fields.map Prod.fst := by
  unfold DriftState.set
  dsimp only
  split
  · next hk =>
    rw [DriftState.replaced_keys]
    constructor
    · exact fun hmem => Or.inr hmem
    · rintro (rfl | hmem)
      · exact hk
      · exact hmem
  · rw [List.map_append,List.mem_append]
    simp [or_comm]

theorem mem_keys_store {k : List Char} : k ∈ (storeFields result fields).fields.map Prod.fst ↔
    k ∈ result.fields.map Prod.fst ∨ k ∈ fields.map Prod.fst := by
  induction fields generalizing result with
  | nil => simp [storeFields]
  | cons kv fields ih =>
    rw [storeFields,List.foldl_cons,← storeFields,ih,mem_keys_set,List.map_cons,List.mem_cons,
      or_assoc,or_left_comm]

/-- One value is stored for each key. -/
theorem store_length (fields : List (List Char × DriftValue)) :
    (storeFields .empty fields).fields.length = (fields.map Prod.fst).dedup.length := by
  have hperm : ((storeFields .empty fields).fields.map Prod.fst).Perm
      (fields.map Prod.fst).dedup := by
    refine (List.perm_ext_iff_of_nodup (storeFields .empty fields).keys
      (List.nodup_dedup _)).mpr fun k => ?_
    rw [List.mem_dedup,mem_keys_store]
    simp [DriftState.empty]
  simpa using hperm.length_eq

theorem store_distinct (hkeys : (fields.map Prod.fst).Nodup) :
    (storeFields .empty fields).fields = fields :=
  foldl_set (by simpa [DriftState.empty] using hkeys)

/-- The lines that are read, and those behind a line that is too long. -/
theorem settingLines_eq (data : List Char) : settingLines data =
    (((scan scanLimit data).map trimSpace).filter fun l => !skipLine l) ++
      ((((data.splitOn '\n').dropWhile fun l => byteSize l < scanLimit).map trimSpace).filter
        fun l => !skipLine l) := by
  rw [← List.filter_append,← List.map_append,scan,List.takeWhile_append_dropWhile]
  rfl

theorem savedLines_eq (data : List Char) : savedLines data =
    (((scan scanLimit data).map trimSpace).filter fun l => !skipLine l).filter
      fun l => l.contains ' ' := by
  rw [List.filter_filter,savedLines]
  refine List.filter_congr fun l _ => ?_
  rw [isSaved,Bool.and_comm]

theorem savedLines_sublist (data : List Char) : (savedLines data).Sublist (settingLines data) := by
  rw [savedLines_eq,settingLines_eq]
  exact List.filter_sublist.trans (List.sublist_append_left _ _)

/-- Every line is kept when all are reached and have a blank. -/
theorem savedLines_eq_iff : savedLines data = settingLines data ↔
    (∀ l ∈ (data.splitOn '\n').dropWhile (fun l => byteSize l < scanLimit),
      skipLine (trimSpace l) = true) ∧ ∀ l ∈ settingLines data, ' ' ∈ l := by
  rw [savedLines_eq,settingLines_eq]
  generalize ((scan scanLimit data).map trimSpace).filter (fun l => !skipLine l) = ls
  have hsilent : ((((data.splitOn '\n').dropWhile fun l => byteSize l < scanLimit).map
      trimSpace).filter fun l => !skipLine l) = [] ↔
      ∀ l ∈ (data.splitOn '\n').dropWhile (fun l => byteSize l < scanLimit),
        skipLine (trimSpace l) = true := by
    rw [List.filter_eq_nil_iff,List.forall_mem_map]
    simp
  rw [← hsilent]
  generalize ((((data.splitOn '\n').dropWhile fun l => byteSize l < scanLimit).map
    trimSpace).filter fun l => !skipLine l) = ls'
  constructor
  · intro heq
    have hlength := congrArg List.length heq
    have hle := List.length_filter_le (fun l => l.contains ' ') ls
    rw [List.length_append] at hlength
    obtain rfl : ls' = [] := List.length_eq_zero_iff.mp (by omega)
    rw [List.append_nil,List.filter_eq_self] at heq
    exact ⟨rfl,by simpa using heq⟩
  · rintro ⟨rfl,hblank⟩
    rw [List.append_nil,List.filter_eq_self]
    simpa using hblank

end Captured

section Restored

variable {data : List Char} {state : DriftState} {ls : List (List Char)}

theorem trimmed_of_mem {l : List Char} (hl : l ∈ settingLines data) : Trimmed isIntSpace l := by
  obtain ⟨line,_,rfl⟩ := List.mem_map.mp (List.mem_filter.mp hl).1
  exact trim_trimmed isIntSpace line

theorem settingLines_unlines
    (h : ∀ l ∈ ls, '\n' ∉ l ∧ trimSpace l = l ∧ skipLine l = false) :
    settingLines (unlines ls) = ls := by
  have htrim : ls.map trimSpace = ls :=
    (List.map_congr_left fun l hl => (h l hl).2.1).trans (List.map_id ls)
  rw [settingLines,splitOn_unlines fun l hl => (h l hl).1,List.map_append,htrim,List.filter_append,
    List.filter_eq_self.mpr fun l hl => by simp [(h l hl).2.2]]
  simp [trimSpace,trim,skipLine]

theorem fileDirectives_restored (hset : ∀ kv ∈ state.fields, Setting kv) :
    fileDirectives (unlines ((sortedFields state).map sshLine)) =
      (sortedFields state).map fun kv => readDirective (sshLine kv) := by
  rw [fileDirectives,settingLines_unlines,List.map_map]
  · rfl
  · intro l hl
    obtain ⟨kv,hkv,rfl⟩ := List.mem_map.mp hl
    have hkv' := hset kv ((sortedFields_perm state).mem_iff.mp hkv)
    exact ⟨hkv'.line.oneLine,hkv'.trimmed,hkv'.kept⟩

/-- A file of as many directives as before has lost no line. -/
theorem kept_of_length (hlength : (settingLines data).length =
      (storeFields .empty ((savedLines data).map lineField)).fields.length) :
    savedLines data = settingLines data ∧ ((settingLines data).map lineKey).Nodup := by
  have hkeys : ((savedLines data).map lineField).map Prod.fst = (savedLines data).map lineKey := by
    rw [List.map_map]
    rfl
  rw [store_length,hkeys] at hlength
  have hdedup := (List.dedup_sublist ((savedLines data).map lineKey)).length_le
  have hsaved := (savedLines_sublist data).length_le
  rw [List.length_map] at hdedup
  have heq : savedLines data = settingLines data :=
    (savedLines_sublist data).eq_of_length (by omega)
  refine ⟨heq,?_⟩
  rw [heq] at hlength
  refine List.dedup_eq_self.mp ((List.dedup_sublist _).eq_of_length ?_)
  rw [← hlength,List.length_map]

theorem sortedFields_kept (hsaved : savedLines data = settingLines data)
    (hkeys : ((settingLines data).map lineKey).Nodup) :
    sortedFields (storeFields .empty ((savedLines data).map lineField)) =
      (byKey (settingLines data)).map lineField := by
  have hfields : (((settingLines data).map lineField).map Prod.fst).Nodup := by
    rw [List.map_map]
    exact hkeys
  rw [hsaved,sortedFields,store_distinct hfields,byKey]
  exact (List.map_insertionSort _ _ lineField _ fun l _ m _ => Iff.rfl).symm

theorem byKey_perm (ls : List (List Char)) : (byKey ls).Perm ls := List.perm_insertionSort _ ls

/-- The restored directives are those of the file exactly when no quoted white space is lost. -/
theorem outside_of_perm (hkeyed : ∀ l ∈ settingLines data, ' ' ∈ l)
    (hperm : (fileDirectives data).Perm
      ((byKey (settingLines data)).map fun l => readDirective (squeeze l))) :
    ∀ l ∈ settingLines data, BlankOutside l := by
  have hsum := ((hperm.trans ((byKey_perm _).map _)).map Directive.spaces).sum_eq
  rw [fileDirectives,List.map_map,List.map_map] at hsum
  intro l hl
  have hspaces := fun m (hm : m ∈ settingLines data) =>
    squeeze_spaces (trimmed_of_mem hm) (hkeyed m hm)
  refine (hspaces l hl).2 (le_antisymm (hspaces l hl).1 ?_)
  by_contra hlt
  have := List.sum_lt_sum (fun l => (readDirective (squeeze l)).spaces)
    (fun l => (readDirective l).spaces) (fun m hm => (hspaces m hm).1) ⟨l,hl,not_le.mp hlt⟩
  exact absurd hsum this.ne'

theorem restored_same_iff (data : List Char) : SameScopes (fileDirectives data)
    ((sortedFields (storeFields .empty ((savedLines data).map lineField))).map
      fun kv => readDirective (sshLine kv)) ↔ Restorable data := by
  have hrestored : ∀ hsaved : savedLines data = settingLines data,
      ∀ hkeys : ((settingLines data).map lineKey).Nodup,
      (sortedFields (storeFields .empty ((savedLines data).map lineField))).map
        (fun kv => readDirective (sshLine kv)) =
          (byKey (settingLines data)).map fun l => readDirective (squeeze l) := by
    intro hsaved hkeys
    rw [sortedFields_kept hsaved hkeys,List.map_map]
    rfl
  have hsqueeze : (∀ l ∈ settingLines data, ' ' ∈ l) →
      (∀ l ∈ settingLines data, BlankOutside l) →
      (byKey (settingLines data)).map (fun l => readDirective (squeeze l)) =
        (byKey (settingLines data)).map readDirective := by
    refine fun hkeyed houtside => List.map_congr_left fun l hl => ?_
    have hl' := (byKey_perm _).mem_iff.mp hl
    exact readDirective_squeeze (trimmed_of_mem hl') (hkeyed l hl') (houtside l hl')
  constructor
  · intro hsame
    have hlength := hsame.perm.length_eq
    rw [fileDirectives,List.length_map,List.length_map,(sortedFields_perm _).length_eq] at hlength
    obtain ⟨hsaved,hkeys⟩ := kept_of_length hlength
    obtain ⟨hreached,hkeyed⟩ := savedLines_eq_iff.mp hsaved
    rw [hrestored hsaved hkeys] at hsame
    have houtside := outside_of_perm hkeyed hsame.perm
    rw [hsqueeze hkeyed houtside] at hsame
    exact ⟨hreached,hkeyed,hkeys,houtside,hsame⟩
  · intro h
    rw [hrestored (savedLines_eq_iff.mpr ⟨h.reached,h.keyed⟩) h.distinct,
      hsqueeze h.keyed h.outside]
    exact h.ordered

variable {h h' : Host}

theorem restoreSSHConfig_file (hrestore : restoreSSHConfig h state = .ok h') :
    h'.file sshPath = some (unlines ((sortedFields state).map sshLine)) := by
  unfold restoreSSHConfig at hrestore
  dsimp only at hrestore
  split at hrestore
  · rename_i written hwrite
    obtain rfl := Except.ok.inj hrestore
    rw [writeFile_file hwrite,Function.update_self]
  · cases hrestore

theorem sameMeaning_iff (hdata : h.file sshPath = some data)
    (hcapture : captureSSHConfig h = .ok state) :
    SameMeaning data (unlines ((sortedFields state).map sshLine)) ↔ Restorable data := by
  rw [SameMeaning,fileDirectives_restored (captureSSHConfig_settings hcapture)]
  obtain rfl := captureSSHConfig_eq hdata hcapture
  exact restored_same_iff data

/-- The restored file means what the captured one meant exactly when the captured one is
restorable. -/
theorem restored_meaning_iff (h₀ h h' : Host) (data : List Char) (state : DriftState)
    (hdata : h₀.file sshPath = some data) (hcapture : captureSSHConfig h₀ = .ok state)
    (hrestore : restoreSSHConfig h state = .ok h') :
    ∃ data', h'.file sshPath = some data' ∧ (SameMeaning data data' ↔ Restorable data) :=
  ⟨_,restoreSSHConfig_file hrestore,sameMeaning_iff hdata hcapture⟩

end Restored

section Sorted

variable {data : List Char}

/-- Lines may change places when they open no block and differ in keyword. -/
theorem restorable_of_apart
    (hreached : ∀ l ∈ (data.splitOn '\n').dropWhile (fun l => byteSize l < scanLimit),
      skipLine (trimSpace l) = true)
    (hkeyed : ∀ l ∈ settingLines data, ' ' ∈ l)
    (hdistinct : ((settingLines data).map lineKey).Nodup)
    (houtside : ∀ l ∈ settingLines data, BlankOutside l)
    (hapart : (settingLines data).Pairwise fun l m =>
      lineKey l ≤ lineKey m ∨ Apart (readDirective l) (readDirective m)) : Restorable data :=
  ⟨hreached,hkeyed,hdistinct,houtside,sameScopes_sort hapart⟩

/-- A host with one text in `/etc/ssh/sshd_config`. -/
def sshHost (config : String) : Host where
  file := fun path => if path = sshPath then some config.toList else none
  dir := fun _ => []
  dirKeys := emptyDir_keys
  writable := fun _ => true
  tempFiles := true
  visudo := fun _ => true

theorem sshHost_restored (config : String) (state : DriftState) :
    ∃ h', restoreSSHConfig (sshHost config) state = .ok h' := by
  have hwrite : ∀ content, ∃ h', (sshHost config).writeFile sshPath content = some h' :=
    fun content => ⟨_,if_pos ⟨rfl,List.not_mem_nil⟩⟩
  obtain ⟨h',hh'⟩ := hwrite (unlines ((sortedFields state).map sshLine))
  exact ⟨h',by simp only [restoreSSHConfig,hh']⟩

/-- Two settings out of order, and a block behind them. -/
def unsortedConfig : String :=
  "LogLevel INFO\nAllowUsers alice\tbob\nMatch User bob\n  PermitTTY no\n"

theorem unsorted_file_restored : ∃ state h' data',
    captureSSHConfig (sshHost unsortedConfig) = .ok state ∧
      restoreSSHConfig (sshHost "") state = .ok h' ∧
    h'.file sshPath = some data' ∧ SameMeaning unsortedConfig.toList data' := by
  obtain ⟨state,hcapture⟩ : ∃ state, captureSSHConfig (sshHost unsortedConfig) = .ok state :=
    ⟨_,rfl⟩
  obtain ⟨h',hrestore⟩ := sshHost_restored "" state
  obtain ⟨data',hfile,hsame⟩ := restored_meaning_iff _ _ h' _ state rfl hcapture hrestore
  refine ⟨state,h',data',hcapture,hrestore,hfile,hsame.mpr (restorable_of_apart ?_ ?_ ?_ ?_ ?_)⟩
  · decide
  · decide
  · decide
  · have hquotes : ∀ l ∈ settingLines unsortedConfig.toList,
        endsQuoted false (lineKey l) = false := by decide
    exact fun l hl => Or.inl (hquotes l hl)
  · decide

/-- A command forced on one user is forced on everyone. -/
theorem forced_command_widened : ¬ ∀ (h₀ h h' : Host) (data : List Char) (state : DriftState),
    h₀.file sshPath = some data → captureSSHConfig h₀ = .ok state →
    restoreSSHConfig h state = .ok h' →
      ∃ data', h'.file sshPath = some data' ∧ SameMeaning data data' := by
  intro hall
  obtain ⟨state,hcapture⟩ : ∃ state, captureSSHConfig
      (sshHost "Port 22\nMatch User bob\nForceCommand internal-sftp\n") = .ok state := ⟨_,rfl⟩
  obtain ⟨h',hrestore⟩ := sshHost_restored "" state
  obtain ⟨data',hfile,hsame⟩ := hall _ _ h' _ state rfl hcapture hrestore
  obtain rfl := Option.some.inj (hfile.symm.trans (restoreSSHConfig_file hrestore))
  have hordered := ((sameMeaning_iff rfl hcapture).mp hsame).ordered.outside "port".toList
  exact absurd hordered (by decide)

end Sorted

end Nexplane
