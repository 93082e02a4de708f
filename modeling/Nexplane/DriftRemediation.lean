import Nexplane.DriftSurfaces

set_option autoImplicit false

/-! What a capture finds after a restore: the restored state, and what the files beside the
restored one hold. -/

namespace Nexplane
open Text Lines

/-- The two states are the same map. -/
def SameState (state state' : DriftState) : Prop := ∀ k, state.get k = state'.get k

/-- The surface holds the state, and a comparison with it finds no difference. -/
def Converges (h : Host) (surface : HostSurface) (baseline : DriftState) : Prop :=
  ∃ observed, captureDriftState h surface = .ok observed ∧ SameState baseline observed ∧
    computeDiff (normalizeState baseline) (normalizeState observed) = none

/-- The files that a capture of entries reads. -/
def entryFiles (h : Host) (main : HostPath) (dirs : List String) : List HostPath :=
  main :: dirs.flatMap h.filesIn

/-- No file but the restored one holds an entry. -/
def NothingBeside (h : Host) : HostSurface → Prop
  | .sshConfig => True
  | .sudoers => ∀ path ∈ entryFiles h sudoersPath sudoersDirs, path ≠ sudoersPath →
      h.entriesOf isDefaults path = []
  | .cronJobs => ∀ path ∈ entryFiles h crontabPath sysDirs, path ≠ managedPath →
      h.entriesOf (fun _ => false) path = []

section Entries

variable {skip : List Char → Bool} {l data : List Char} {ls : List (List Char)}

/-- A line that a capture takes as it is. -/
structure Entry (skip : List Char → Bool) (l : List Char) : Prop where
  line : IsLine scanLimit l
  trimmed : trimSpace l = l
  kept : (skipLine l || skip l) = false

theorem trimSpace_line (h : IsLine scanLimit l) : IsLine scanLimit (trimSpace l) :=
  h.sublist (trim_sublist _ l)

theorem trimSpace_trimSpace (l : List Char) : trimSpace (trimSpace l) = trimSpace l :=
  (trim_trimmed isIntSpace l).trim_eq

theorem entry_of_mem (h : l ∈ entryLines skip data) : Entry skip l := by
  obtain ⟨hmem,hkept⟩ := List.mem_filter.mp h
  obtain ⟨line,hline,rfl⟩ := List.mem_map.mp hmem
  exact ⟨trimSpace_line (isLine_of_mem_scan hline),trimSpace_trimSpace line,by simpa using hkept⟩

theorem entryLines_unlines (h : ∀ l ∈ ls, IsLine scanLimit l ∧ trimSpace l = l) :
    entryLines skip (unlines ls) = ls.filter fun l => !(skipLine l || skip l) := by
  have htrim : ls.map trimSpace = ls :=
    (List.map_congr_left fun l hl => (h l hl).2).trans (List.map_id ls)
  rw [entryLines,scan_unlines (by decide) fun l hl => (h l hl).1,List.map_append,htrim,
    List.filter_append]
  simp [trimSpace,trim,skipLine]

theorem joinLines_eq_unlines (h : ls ≠ []) : joinLines ls = unlines ls := by
  obtain ⟨l,ls,rfl⟩ := List.exists_cons_of_ne_nil h
  clear h
  induction ls generalizing l with
  | nil => simp [joinLines,unlines]
  | cons m ls ih =>
    have hrest := ih m
    rw [joinLines] at hrest ⊢
    rw [List.intercalate_cons_cons,List.append_assoc,List.append_assoc,hrest]
    simp [unlines]

/-- A header of which a capture takes nothing. -/
def SilentHeader (skip : List Char → Bool) (header : List (List Char)) : Prop :=
  header ≠ [] ∧ ∀ l ∈ header, IsLine scanLimit l ∧ trimSpace l = l ∧
    (skipLine l || skip l) = true

theorem entryLines_restored {header : List (List Char)} (hheader : SilentHeader skip header)
    (h : ∀ l ∈ ls, Entry skip l) : entryLines skip (joinLines (header ++ ls)) = ls := by
  obtain ⟨hne,hsilent⟩ := hheader
  rw [joinLines_eq_unlines (by simp [hne]),entryLines_unlines,List.filter_append,
    List.filter_eq_nil_iff.mpr,List.filter_eq_self.mpr,List.nil_append]
  · intro l hl
    simp [(h l hl).kept]
  · intro l hl
    simp [(hsilent l hl).2.2]
  · intro l hl
    rcases List.mem_append.mp hl with hl | hl
    · exact ⟨(hsilent l hl).1,(hsilent l hl).2.1⟩
    · exact ⟨(h l hl).line,(h l hl).trimmed⟩

theorem sortStrings_perm (ls : List (List Char)) : (sortStrings ls).Perm ls :=
  List.perm_insertionSort _ ls

theorem sortStrings_pairwise (ls : List (List Char)) : (sortStrings ls).Pairwise (· ≤ ·) :=
  List.pairwise_insertionSort _ ls

/-- Sorting gives a sorted part of the list back exactly when there is no other part. -/
theorem sortStrings_eq_iff {base others : List (List Char)} (hperm : ls.Perm (base ++ others))
    (hbase : base.Pairwise (· ≤ ·)) : sortStrings ls = base ↔ others = [] := by
  constructor
  · intro h
    have hlength := ((sortStrings_perm ls).trans hperm).length_eq
    rw [h,List.length_append] at hlength
    exact List.length_eq_zero_iff.mp (by omega)
  · rintro rfl
    rw [List.append_nil] at hperm
    exact ((sortStrings_perm ls).trans hperm).eq_of_pairwise' (sortStrings_pairwise ls) hbase

end Entries

section Files

variable {h h' : Host} {path f : HostPath} {content : List Char} {d : String}

theorem mem_filesIn : f ∈ h.filesIn d ↔ f.1 = d ∧ (f.2,false) ∈ h.dir d := by
  simp only [Host.filesIn,List.mem_map,List.mem_insertionSort,List.mem_filter]
  constructor
  · rintro ⟨name,⟨e,⟨he,hfile⟩,rfl⟩,rfl⟩
    obtain ⟨name,isDir⟩ := e
    obtain rfl : isDir = false := by simpa using hfile
    exact ⟨rfl,he⟩
  · rintro ⟨rfl,hname⟩
    exact ⟨f.2,⟨_,⟨hname,by simp⟩,rfl⟩,rfl⟩

theorem writeFile_file (hwrite : h.writeFile path content = some h') :
    h'.file = Function.update h.file path (some content) := by
  unfold Host.writeFile at hwrite
  split at hwrite
  · obtain rfl := Option.some.inj hwrite
    rfl
  · cases hwrite

theorem writeFile_filesIn (hwrite : h.writeFile path content = some h') :
    f ∈ h'.filesIn d ↔ f ∈ h.filesIn d ∨ d = path.1 ∧ f = path := by
  unfold Host.writeFile at hwrite
  split at hwrite
  · rename_i hallowed
    obtain rfl := Option.some.inj hwrite
    rw [mem_filesIn,mem_filesIn]
    by_cases hd : d = path.1
    · subst hd
      simp only [Function.update_self,true_and]
      split
      · rename_i hlisted
        obtain ⟨⟨name,isDir⟩,hmem,hname⟩ := List.mem_map.mp hlisted
        obtain rfl : name = path.2 := hname
        cases isDir with
        | true => exact absurd hmem hallowed.2
        | false =>
          constructor
          · exact fun hf => Or.inl hf
          · rintro (hf | rfl)
            · exact hf
            · exact ⟨rfl,hmem⟩
      · rw [List.mem_append,List.mem_singleton,Prod.mk.injEq,and_or_left]
        refine or_congr Iff.rfl ⟨?_,?_⟩
        · rintro ⟨hdir,hname,_⟩
          exact Prod.ext hdir hname
        · rintro rfl
          exact ⟨rfl,rfl,rfl⟩
    · simp [hd]
  · cases hwrite

theorem filesIn_nodup (h : Host) (d : String) : (h.filesIn d).Nodup := by
  have hnames : (((h.dir d).filter fun e => e.2 = false).map Prod.fst).Nodup :=
    (h.dirKeys d).sublist (List.filter_sublist.map _)
  refine List.Nodup.map (fun a b hab => (Prod.mk.inj hab).2) ?_
  exact (List.perm_insertionSort _ _).nodup_iff.mpr hnames

theorem entryFiles_nodup {main : HostPath} {dirs : List String} (hdirs : dirs.Nodup)
    (hmain : main.1 ∉ dirs) : (entryFiles h main dirs).Nodup := by
  rw [entryFiles,List.nodup_cons,List.nodup_flatMap]
  refine ⟨fun hmem => ?_,fun d _ => filesIn_nodup h d,hdirs.imp fun hne => ?_⟩
  · obtain ⟨d,hd,hf⟩ := List.mem_flatMap.mp hmem
    exact hmain ((mem_filesIn.mp hf).1 ▸ hd)
  · intro f hf hf'
    exact hne ((mem_filesIn.mp hf).1.symm.trans (mem_filesIn.mp hf').1)

/-- The files that are read after a write of one of them. -/
theorem entryFiles_written {main : HostPath} {dirs : List String} (hdirs : dirs.Nodup)
    (hmain : main.1 ∉ dirs) (hpath : path = main ∨ path.1 ∈ dirs)
    (hwrite : h.writeFile path content = some h') :
    (entryFiles h' main dirs).Perm
      (path :: (entryFiles h main dirs).filter fun f => f ≠ path) := by
  have hmem : ∀ f, f ∈ entryFiles h' main dirs ↔ f = path ∨ f ∈ entryFiles h main dirs := by
    intro f
    simp only [entryFiles,List.mem_cons,List.mem_flatMap,writeFile_filesIn hwrite]
    constructor
    · rintro (rfl | ⟨d,hd,hf | ⟨_,rfl⟩⟩)
      · exact Or.inr (Or.inl rfl)
      · exact Or.inr (Or.inr ⟨d,hd,hf⟩)
      · exact Or.inl rfl
    · rintro (rfl | rfl | ⟨d,hd,hf⟩)
      · rcases hpath with rfl | hdir
        · exact Or.inl rfl
        · exact Or.inr ⟨f.1,hdir,Or.inr ⟨rfl,rfl⟩⟩
      · exact Or.inl rfl
      · exact Or.inr ⟨d,hd,Or.inl hf⟩
  have hfilter : (path :: (entryFiles h main dirs).filter fun f => f ≠ path).Nodup := by
    refine List.nodup_cons.mpr ⟨by simp,(entryFiles_nodup hdirs hmain).filter _⟩
  refine (List.perm_ext_iff_of_nodup (entryFiles_nodup hdirs hmain) hfilter).mpr fun f => ?_
  rw [hmem]
  by_cases hf : f = path <;> simp [hf]

/-- Restoring entries brings them back exactly when no other file holds an entry. -/
theorem captureEntries_restored {skip : List Char → Bool} {main : HostPath}
    {dirs : List String} {header base : List (List Char)} (hdirs : dirs.Nodup)
    (hmain : main.1 ∉ dirs) (hpath : path = main ∨ path.1 ∈ dirs)
    (hheader : SilentHeader skip header) (hentry : ∀ l ∈ base, Entry skip l)
    (hsorted : base.Pairwise (· ≤ ·))
    (hwrite : h.writeFile path (joinLines (header ++ base)) = some h') :
    captureEntries skip h' main dirs = .ofEntries base ↔
      ∀ f ∈ entryFiles h main dirs, f ≠ path → h.entriesOf skip f = [] := by
  have hfile := writeFile_file hwrite
  have hrestored : h'.entriesOf skip path = base := by
    rw [Host.entriesOf,hfile,Function.update_self]
    exact entryLines_restored hheader hentry
  have hother : ((entryFiles h main dirs).filter fun f => f ≠ path).flatMap (h'.entriesOf skip) =
      ((entryFiles h main dirs).filter fun f => f ≠ path).flatMap (h.entriesOf skip) := by
    refine List.flatMap_congr fun f hf => ?_
    have hne : f ≠ path := by simpa using (List.mem_filter.mp hf).2
    rw [Host.entriesOf,hfile,Function.update_of_ne hne,Host.entriesOf]
  have hperm : ((entryFiles h' main dirs).flatMap (h'.entriesOf skip)).Perm
      (base ++ ((entryFiles h main dirs).filter fun f => f ≠ path).flatMap
        (h.entriesOf skip)) := by
    refine ((entryFiles_written hdirs hmain hpath hwrite).flatMap_right _).trans ?_
    rw [List.flatMap_cons,hrestored,hother]
  have hstate : captureEntries skip h' main dirs = .ofEntries base ↔
      sortStrings ((entryFiles h' main dirs).flatMap (h'.entriesOf skip)) = base := by
    rw [captureEntries,entryFiles,DriftState.ofEntries,DriftState.ofEntries]
    simp
  rw [hstate,sortStrings_eq_iff hperm hsorted,List.flatMap_eq_nil_iff]
  simp

end Files

section Restored

variable {h h' : Host} {state state' : DriftState}

theorem captureEntries_entry {skip : List Char → Bool} {main : HostPath} {dirs : List String} :
    ∀ l ∈ rawEntries (captureEntries skip h main dirs), Entry skip l := by
  intro l hl
  have hmem : l ∈ (main :: dirs.flatMap h.filesIn).flatMap (h.entriesOf skip) :=
    (sortStrings_perm _).mem_iff.mp hl
  obtain ⟨path,_,hpath⟩ := List.mem_flatMap.mp hmem
  rw [Host.entriesOf] at hpath
  cases hfile : h.file path with
  | none => simp [hfile] at hpath
  | some data =>
    rw [hfile] at hpath
    exact entry_of_mem hpath

theorem captureEntries_sorted {skip : List Char → Bool} {main : HostPath} {dirs : List String} :
    (rawEntries (captureEntries skip h main dirs)).Pairwise (· ≤ ·) := sortStrings_pairwise _

theorem ofEntries_rawEntries {skip : List Char → Bool} {main : HostPath} {dirs : List String} :
    DriftState.ofEntries (rawEntries (captureEntries skip h main dirs)) =
      captureEntries skip h main dirs := rfl

theorem sameState_ofEntries {entries entries' : List (List Char)} :
    SameState (.ofEntries entries) (.ofEntries entries') ↔ entries = entries' := by
  constructor
  · intro hsame
    have h := hsame "entries".toList
    simpa [DriftState.get,DriftState.ofEntries] using h
  · rintro rfl
    exact fun k => rfl

theorem lookup_eq_some {fields : List (List Char × DriftValue)} {k : List Char} {v : DriftValue}
    (hkeys : (fields.map Prod.fst).Nodup) : fields.lookup k = some v ↔ (k,v) ∈ fields := by
  induction fields with
  | nil => simp
  | cons kv fields ih =>
    obtain ⟨k',v'⟩ := kv
    rw [List.map_cons,List.nodup_cons] at hkeys
    rw [List.lookup_cons,List.mem_cons,Prod.mk.injEq]
    by_cases hk : k = k'
    · subst hk
      have hnew : (k,v) ∉ fields := fun hmem => hkeys.1 (List.mem_map.mpr ⟨_,hmem,rfl⟩)
      simp [hnew,eq_comm]
    · have hb : (k == k') = false := by simpa using hk
      rw [hb]
      simpa [hk] using ih hkeys.2

theorem sortedFields_perm (state : DriftState) : (sortedFields state).Perm state.fields :=
  List.perm_insertionSort _ _

theorem normalizeState_keys (state : DriftState) :
    ((normalizeState state).map Prod.fst).Nodup := by
  rw [normalizeState,List.map_map]
  exact (((sortedFields_perm state).map Prod.fst).nodup_iff).mpr state.keys

theorem normalizeState_lookup (state : DriftState) (k : List Char) :
    (normalizeState state).lookup k = (state.get k).map normalizeValue := by
  refine Option.ext fun v => ?_
  rw [lookup_eq_some (normalizeState_keys state),Option.map_eq_some_iff,normalizeState,
    List.mem_map]
  constructor
  · rintro ⟨kv,hkv,heq⟩
    obtain ⟨rfl,rfl⟩ := Prod.mk.inj heq
    exact ⟨kv.2,(lookup_eq_some state.keys).mpr ((sortedFields_perm state).mem_iff.mp hkv),rfl⟩
  · rintro ⟨w,hw,rfl⟩
    have hmem := (lookup_eq_some state.keys).mp hw
    exact ⟨(k,w),(sortedFields_perm state).mem_iff.mpr hmem,rfl⟩

/-- The control plane finds no difference between two states that are the same map. -/
theorem SameState.no_drift (h : SameState state state') :
    computeDiff (normalizeState state) (normalizeState state') = none := by
  have hlookup : ∀ k, (normalizeState state).lookup k = (normalizeState state').lookup k := by
    intro k
    rw [normalizeState_lookup,normalizeState_lookup,h k]
  have hbase : ∀ kv ∈ normalizeState state, (normalizeState state').lookup kv.1 = some kv.2 :=
    fun kv hkv => (hlookup kv.1).symm.trans
      ((lookup_eq_some (normalizeState_keys state)).mpr hkv)
  have hobserved : ∀ kv ∈ normalizeState state', (normalizeState state).lookup kv.1 = some kv.2 :=
    fun kv hkv => (hlookup kv.1).trans
      ((lookup_eq_some (normalizeState_keys state')).mpr hkv)
  have hadded : (normalizeState state').filter
      (fun kv => ((normalizeState state).lookup kv.1).isNone) = [] :=
    List.filter_eq_nil_iff.mpr fun kv hkv => by simp [hobserved kv hkv]
  have hremoved : (normalizeState state).filter
      (fun kv => ((normalizeState state').lookup kv.1).isNone) = [] :=
    List.filter_eq_nil_iff.mpr fun kv hkv => by simp [hbase kv hkv]
  have hchanged : ∀ f : List Char × DriftValue → Option (List Char × DriftValue × DriftValue),
      (∀ kv, (normalizeState state').lookup kv.1 = some kv.2 → f kv = none) →
        (normalizeState state).filterMap f = [] :=
    fun f hf => List.filterMap_eq_nil_iff.mpr fun kv hkv => hf kv (hbase kv hkv)
  rw [computeDiff,hadded,hremoved]
  dsimp only
  rw [hchanged _ fun kv hkv => by simp [hkv]]
  rfl

end Restored

section SSHConfig

variable {h h' : Host} {state state' result : DriftState} {l rest k : List Char}
  {ls : List (List Char)}
  {kv : List Char × DriftValue} {fields : List (List Char × DriftValue)}

/-- A setting whose line is read back as the setting. -/
structure Setting (kv : List Char × DriftValue) : Prop where
  line : IsLine scanLimit (sshLine kv)
  trimmed : trimSpace (sshLine kv) = sshLine kv
  kept : skipLine (sshLine kv) = false
  read : ∃ v, kv.2 = .text v ∧ trimSpace v = v ∧ ' ' ∉ kv.1

theorem Setting.capture (hs : Setting kv) (result : DriftState) :
    captureSSHLine result (sshLine kv) = result.set kv.1 kv.2 := by
  obtain ⟨v,hv,htrim,hspace⟩ := hs.read
  have hsplit : splitFirst ' ' (sshLine kv) = some (kv.1,v) := by
    rw [sshLine,hv]
    exact splitFirst_append v hspace
  rw [captureSSHLine,hs.kept]
  simp [hsplit,htrim,hv]

theorem trim_eq_nil_all {p : Char → Bool} (hnil : trim p l = []) : ∀ c ∈ l, p c = true := by
  obtain ⟨lead,trail,hl,hlead,htrail⟩ := trim_decompose p l
  rw [hnil,List.append_nil] at hl
  intro c hc
  rw [hl] at hc
  rcases List.mem_append.mp hc with hc | hc
  · exact hlead c hc
  · exact htrail c hc

theorem setting_of_line (hline : IsLine scanLimit l) (hkept : skipLine (trimSpace l) = false)
    (hsplit : splitFirst ' ' (trimSpace l) = some (k,rest)) :
    Setting (k,.text (trimSpace rest)) := by
  obtain ⟨heq,hspace⟩ := splitFirst_eq_some.mp hsplit
  obtain ⟨hfirst,hlast⟩ := trim_trimmed isIntSpace l
  have hblank : isIntSpace ' ' = true := by decide
  -- the line begins with the key, which is not empty
  obtain ⟨c,cs,rfl⟩ : ∃ c cs, k = c :: cs := by
    refine List.exists_cons_of_ne_nil ?_
    rintro rfl
    have := hfirst ' ' (by rw [← trimSpace,heq]; rfl)
    rw [hblank] at this
    cases this
  -- and ends with the value, which is not blank
  have hvalue : trimSpace rest ≠ [] := by
    intro hnil
    have hall := trim_eq_nil_all hnil
    have hlast' : ∀ c ∈ (' ' :: rest).getLast?, isIntSpace c = true := by
      intro c hc
      rcases List.mem_cons.mp (List.mem_of_getLast? hc) with rfl | hc
      · exact hblank
      · exact hall c hc
    obtain ⟨d,hd⟩ : ∃ d, (' ' :: rest).getLast? = some d := ⟨_,List.getLast?_cons⟩
    have hfalse := hlast d (by
      rw [← trimSpace,heq,List.getLast?_append,hd]
      rfl)
    rw [hlast' d hd] at hfalse
    cases hfalse
  have hsub : (sshLine (c :: cs,.text (trimSpace rest))).Sublist l := by
    have hrest : (trimSpace rest).Sublist rest := trim_sublist _ rest
    have : (c :: cs ++ ' ' :: trimSpace rest).Sublist (trimSpace l) := by
      rw [heq]
      exact (List.Sublist.refl _).append (hrest.cons_cons ' ')
    exact this.trans (trim_sublist _ l)
  refine ⟨hline.sublist hsub,trim_of_ends ?_ ?_,?_,_,rfl,trimSpace_trimSpace rest,hspace⟩
  · intro d hd
    obtain rfl : c = d := by simpa [sshLine] using hd
    exact hfirst c (by rw [← trimSpace,heq]; rfl)
  · intro d hd
    refine (trim_trimmed isIntSpace rest).last d ?_
    rw [sshLine,DriftValue.format,List.getLast?_append,List.getLast?_cons] at hd
    obtain ⟨e,he⟩ : ∃ e, (trimSpace rest).getLast? = some e :=
      ⟨_,List.getLast?_eq_some_getLast hvalue⟩
    rw [he] at hd
    rw [← trimSpace,he]
    simpa using hd
  · rw [heq] at hkept
    simpa [skipLine,hasPrefix,sshLine,List.isPrefixOf] using hkept

theorem mem_set {k : List Char} {v : DriftValue} (hmem : kv ∈ (result.set k v).fields) :
    kv = (k,v) ∨ kv ∈ result.fields := by
  unfold DriftState.set at hmem
  dsimp only at hmem
  split at hmem
  · obtain ⟨old,hold,rfl⟩ := List.mem_map.mp hmem
    split
    · exact Or.inl rfl
    · exact Or.inr hold
  · rcases List.mem_append.mp hmem with hmem | hmem
    · exact Or.inr hmem
    · exact Or.inl (List.mem_singleton.mp hmem)

/-- A line adds nothing but settings. -/
theorem captureSSHLine_settings (hline : IsLine scanLimit l)
    (hresult : ∀ kv ∈ result.fields, Setting kv) :
    ∀ kv ∈ (captureSSHLine result (trimSpace l)).fields, Setting kv := by
  unfold captureSSHLine
  split
  · exact hresult
  · rename_i hkept
    split
    · rename_i k rest hsplit
      intro kv hkv
      rcases mem_set hkv with rfl | hold
      · exact setting_of_line hline (by simpa using hkept) hsplit
      · exact hresult kv hold
    · exact hresult

theorem captureSSHConfig_settings (hcapture : captureSSHConfig h = .ok state) :
    ∀ kv ∈ state.fields, Setting kv := by
  unfold captureSSHConfig at hcapture
  split at hcapture
  · cases hcapture
  · rename_i data _
    obtain rfl := Except.ok.inj hcapture
    have hlines : ∀ l ∈ scan scanLimit data, IsLine scanLimit l :=
      fun l hl => isLine_of_mem_scan hl
    have hempty : ∀ kv ∈ DriftState.empty.fields, Setting kv := by simp [DriftState.empty]
    generalize DriftState.empty = result at hempty
    generalize scan scanLimit data = ls at hlines
    induction ls generalizing result with
    | nil => exact hempty
    | cons l ls ih =>
      refine ih _ (captureSSHLine_settings (hlines l (by simp)) hempty) fun m hm => ?_
      exact hlines m (by simp [hm])

theorem set_new {k : List Char} (v : DriftValue) (hnew : k ∉ result.fields.map Prod.fst) :
    (result.set k v).fields = result.fields ++ [(k,v)] := by
  simp [DriftState.set,hnew]

/-- Values under different keys are stored one after another. -/
theorem foldl_set (hkeys : ((result.fields ++ fields).map Prod.fst).Nodup) :
    (fields.foldl (fun result kv => result.set kv.1 kv.2) result).fields =
      result.fields ++ fields := by
  induction fields generalizing result with
  | nil => simp
  | cons kv fields ih =>
    have hnew : kv.1 ∉ result.fields.map Prod.fst := by
      rw [List.map_append,List.nodup_append] at hkeys
      exact fun hmem => hkeys.2.2 _ hmem kv.1 (by simp) rfl
    have hadd := set_new kv.2 hnew
    rw [List.foldl_cons,ih (by simpa [hadd] using hkeys),hadd]
    simp

theorem capture_settings (hset : ∀ kv ∈ fields, Setting kv) :
    (fields.map sshLine).foldl captureSSHLine result =
      fields.foldl (fun result kv => result.set kv.1 kv.2) result := by
  induction fields generalizing result with
  | nil => rfl
  | cons kv fields ih =>
    rw [List.map_cons,List.foldl_cons,List.foldl_cons,(hset kv (by simp)).capture]
    exact ih fun kv' hkv' => hset kv' (by simp [hkv'])

/-- Restoring a captured configuration brings it back. -/
theorem captureSSHConfig_restored (hset : ∀ kv ∈ state.fields, Setting kv)
    (hrestore : restoreSSHConfig h state = .ok h') :
    ∃ observed, captureSSHConfig h' = .ok observed ∧ observed.fields = sortedFields state := by
  unfold restoreSSHConfig at hrestore
  dsimp only at hrestore
  split at hrestore
  · rename_i written hwrite
    obtain rfl := Except.ok.inj hrestore
    have hsorted : ∀ kv ∈ sortedFields state, Setting kv :=
      fun kv hkv => hset kv ((sortedFields_perm state).mem_iff.mp hkv)
    have hlines : ∀ l ∈ (sortedFields state).map sshLine, IsLine scanLimit l := by
      intro l hl
      obtain ⟨kv,hkv,rfl⟩ := List.mem_map.mp hl
      exact (hsorted kv hkv).line
    have htrim : ((sortedFields state).map sshLine).map trimSpace =
        (sortedFields state).map sshLine := by
      rw [List.map_map]
      exact List.map_congr_left fun kv hkv => (hsorted kv hkv).trimmed
    have hkeys : ((sortedFields state).map Prod.fst).Nodup :=
      (((sortedFields_perm state).map Prod.fst).nodup_iff).mpr state.keys
    have hempty : ((DriftState.empty.fields ++ sortedFields state).map Prod.fst).Nodup := by
      simpa [DriftState.empty]
    have hread := foldl_set hempty
    rw [← capture_settings hsorted] at hread
    unfold captureSSHConfig
    rw [writeFile_file hwrite,Function.update_self]
    refine ⟨_,rfl,?_⟩
    rw [scan_unlines (by decide) hlines,List.map_append,htrim,List.foldl_append]
    simpa [DriftState.empty,captureSSHLine,trimSpace,trim,skipLine] using hread
  · cases hrestore

theorem sameState_of_perm (hperm : state'.fields.Perm state.fields) : SameState state state' := by
  intro k
  refine Option.ext fun v => ?_
  rw [DriftState.get,DriftState.get,lookup_eq_some state.keys,lookup_eq_some state'.keys,
    hperm.mem_iff]

end SSHConfig

theorem sudoersHeader_silent : SilentHeader isDefaults sudoersHeader := by
  refine ⟨by simp [sudoersHeader],?_⟩
  have hlines : ∀ l ∈ sudoersHeader, ('\n' ∉ l ∧ byteSize l < scanLimit) ∧ trimSpace l = l ∧
      (skipLine l || isDefaults l) = true := by decide
  exact fun l hl => ⟨⟨(hlines l hl).1.1,(hlines l hl).1.2⟩,(hlines l hl).2⟩

theorem cronHeader_silent : SilentHeader (fun _ => false) cronHeader := by
  refine ⟨by simp [cronHeader],?_⟩
  have hlines : ∀ l ∈ cronHeader, ('\n' ∉ l ∧ byteSize l < scanLimit) ∧ trimSpace l = l ∧
      (skipLine l || false) = true := by decide
  exact fun l hl => ⟨⟨(hlines l hl).1.1,(hlines l hl).1.2⟩,(hlines l hl).2⟩

section Converges

variable {h₀ h h' : Host} {state baseline observed : DriftState} {surface : HostSurface}

/-- A surface converges when the capture of it is the same map as the baseline. -/
theorem converges_iff (hcapture : captureDriftState h' surface = .ok observed) :
    Converges h' surface baseline ↔ SameState baseline observed := by
  constructor
  · rintro ⟨observed',hcapture',hsame,_⟩
    obtain rfl := Except.ok.inj (hcapture.symm.trans hcapture')
    exact hsame
  · exact fun hsame => ⟨observed,hcapture,hsame,hsame.no_drift⟩

/-- The captured entries are the baseline again exactly when nothing stands beside them. -/
theorem entries_converge {skip : List Char → Bool} {main path : HostPath} {dirs : List String}
    {header : List (List Char)} (hdirs : dirs.Nodup) (hmain : main.1 ∉ dirs)
    (hpath : path = main ∨ path.1 ∈ dirs) (hheader : SilentHeader skip header)
    (hwrite : h.writeFile path
      (joinLines (header ++ rawEntries (captureEntries skip h₀ main dirs))) = some h') :
    SameState (captureEntries skip h₀ main dirs) (captureEntries skip h' main dirs) ↔
      ∀ f ∈ entryFiles h main dirs, f ≠ path → h.entriesOf skip f = [] := by
  rw [← captureEntries_restored hdirs hmain hpath hheader captureEntries_entry
    captureEntries_sorted hwrite,ofEntries_rawEntries]
  constructor
  · intro hsame
    have hentries := sameState_ofEntries.mp hsame
    simp only [captureEntries,hentries]
  · intro hsame
    rw [hsame]
    exact fun k => rfl

theorem restoreCronJobs_written
    (hwrite : h.writeFile managedPath (joinLines (cronHeader ++ rawEntries state)) = some h') :
    restoreDriftState h state .cronJobs = .ok h' := by
  simp only [restoreDriftState,restoreCronJobs,hwrite]

/-- A restored surface converges exactly when its entries stand in the restored file alone. -/
theorem restored_converges (h₀ h h' : Host) (surface : HostSurface) (baseline : DriftState)
    (hcapture : captureDriftState h₀ surface = .ok baseline)
    (hrestore : restoreDriftState h baseline surface = .ok h') :
    Converges h' surface baseline ↔ NothingBeside h surface := by
  cases surface with
  | sshConfig =>
    have hset := captureSSHConfig_settings hcapture
    obtain ⟨observed,hobserved,hfields⟩ := captureSSHConfig_restored hset hrestore
    have hcaptured : captureDriftState h' .sshConfig = .ok observed := hobserved
    rw [converges_iff hcaptured]
    have hsame : SameState baseline observed :=
      sameState_of_perm (hfields ▸ sortedFields_perm baseline)
    simp [NothingBeside,hsame]
  | sudoers =>
    obtain rfl := Except.ok.inj hcapture
    simp only [restoreDriftState,restoreSudoers] at hrestore
    split at hrestore
    · cases hrestore
    · split at hrestore
      · cases hrestore
      · split at hrestore
        · rename_i written hwrite
          obtain rfl := Except.ok.inj hrestore
          rw [converges_iff rfl]
          exact entries_converge (by decide) (by decide) (Or.inl rfl) sudoersHeader_silent hwrite
        · cases hrestore
  | cronJobs =>
    obtain rfl := Except.ok.inj hcapture
    simp only [restoreDriftState,restoreCronJobs] at hrestore
    split at hrestore
    · rename_i written hwrite
      obtain rfl := Except.ok.inj hrestore
      rw [converges_iff rfl]
      exact entries_converge (by decide) (by decide) (Or.inr (by decide)) cronHeader_silent hwrite
    · cases hrestore

theorem emptyDir_keys (_ : String) : (([] : List (String × Bool)).map Prod.fst).Nodup := by simp

/-- A host with one text in `/etc/crontab`. -/
def crontabHost (crontab : String) : Host where
  file := fun path => if path = crontabPath then some crontab.toList else none
  dir := fun _ => []
  dirKeys := emptyDir_keys
  writable := fun _ => true
  tempFiles := true
  visudo := fun _ => true

theorem crontabHost_write (crontab : String) (content : List Char) :
    ∃ h', (crontabHost crontab).writeFile managedPath content = some h' :=
  ⟨_,if_pos ⟨rfl,List.not_mem_nil⟩⟩

/-- An emptied crontab: the restored file brings its entry back. -/
theorem emptied_crontab_converges : ∃ h',
    restoreDriftState (crontabHost "") (captureCronJobs (crontabHost "@daily root backup"))
      .cronJobs = .ok h' ∧
    Converges h' .cronJobs (captureCronJobs (crontabHost "@daily root backup")) := by
  obtain ⟨h',hwrite⟩ := crontabHost_write ""
    (joinLines (cronHeader ++ rawEntries (captureCronJobs (crontabHost "@daily root backup"))))
  have hrestore := restoreCronJobs_written hwrite
  refine ⟨h',hrestore,(restored_converges _ _ h' .cronJobs _ rfl hrestore).mpr ?_⟩
  have hfiles : ∀ path ∈ entryFiles (crontabHost "") crontabPath sysDirs, path ≠ managedPath →
      (crontabHost "").entriesOf (fun _ => false) path = [] := by decide
  exact hfiles

/-- A crontab that stands as it was captured: its entry is there twice after the restore. -/
theorem standing_crontab_doubled : ¬ ∀ (h₀ h h' : Host) (surface : HostSurface)
    (baseline : DriftState), captureDriftState h₀ surface = .ok baseline →
    restoreDriftState h baseline surface = .ok h' → Converges h' surface baseline := by
  intro hall
  obtain ⟨h',hwrite⟩ := crontabHost_write "@daily root backup"
    (joinLines (cronHeader ++ rawEntries (captureCronJobs (crontabHost "@daily root backup"))))
  have hconverges := hall _ _ h' .cronJobs _ rfl (restoreCronJobs_written hwrite)
  rw [converges_iff rfl] at hconverges
  have hpath : managedPath = crontabPath ∨ managedPath.1 ∈ sysDirs := Or.inr (by decide)
  have hfiles := (entries_converge (by decide) (by decide) hpath cronHeader_silent hwrite).mp
    hconverges crontabPath (by simp [entryFiles]) (by decide)
  exact absurd hfiles (by decide)

end Converges

end Nexplane
