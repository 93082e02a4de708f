import Nexplane.ChangeIp
import Nexplane.Lib.Runs
import Mathlib.Data.List.DropRight
import Mathlib.Logic.Function.Basic
import Mathlib.Data.List.Infix

set_option autoImplicit false

/-! The agent's updates of references in files, the backups they return, and what later updates
leave of these. -/

namespace Nexplane
open PyValue Runs

section Paths

/-- `filepath.Base`. -/
def pathBase (path : List Char) : List Char :=
  if path = [] then ['.']
  else
    let name := (path.rdropWhile (· = '/')).rtakeWhile (· ≠ '/')
    if name = [] then ['/'] else name

/-- `filepath.Ext`. -/
def pathExt (path : List Char) : List Char :=
  let name := path.rtakeWhile (· ≠ '/')
  if '.' ∈ name then '.' :: name.rtakeWhile (· ≠ '.') else []

def cleanPart (rooted : Bool) (kept : List (List Char)) (part : List Char) : List (List Char) :=
  if part = [] ∨ part = ['.'] then kept
  else if part ≠ ['.','.'] then kept ++ [part]
  else
    match kept.getLast? with
    | none => if rooted then [] else [part]
    | some last => if last = ['.','.'] then kept ++ [part] else kept.dropLast

/-- `filepath.Clean`. -/
def cleanPath (path : List Char) : List Char :=
  let rooted := path.head? == some '/'
  let text := ['/'].intercalate ((path.splitOn '/').foldl (cleanPart rooted) [])
  if rooted then '/' :: text else if text = [] then ['.'] else text

def trimSuffix (suffix text : List Char) : List Char :=
  if suffix.isSuffixOf text then text.take (text.length - suffix.length) else text

end Paths

section Replacing

/-- `strings.ReplaceAll` for a pattern that is not empty; `skip` counts what is left of a match. -/
def replaceAll (old new : List Char) : Nat → List Char → List Char
  | _, [] => []
  | skip + 1, _ :: cs => replaceAll old new skip cs
  | 0, c :: cs =>
    if old.isPrefixOf (c :: cs) then new ++ replaceAll old new (old.length - 1) cs
    else c :: replaceAll old new 0 cs

/-- `strings.Count`. -/
def countAll (old : List Char) : Nat → List Char → Nat
  | _, [] => 0
  | skip + 1, _ :: cs => countAll old skip cs
  | 0, c :: cs =>
    if old.isPrefixOf (c :: cs) then countAll old (old.length - 1) cs + 1
    else countAll old 0 cs

end Replacing

/-- A time of the clock in UTC. -/
structure UtcTime where
  year : Nat
  month : Nat
  day : Nat
  hour : Nat
  minute : Nat
  second : Nat
  nanosecond : Nat

def padded (width n : Nat) : List Char := (Nat.toDigits 10 n).leftpad width '0'

/-- `Format("20060102T150405Z")`. -/
def UtcTime.format (t : UtcTime) : List Char :=
  padded 4 t.year ++ padded 2 t.month ++ padded 2 t.day ++ 'T' :: padded 2 t.hour ++
    padded 2 t.minute ++ padded 2 t.second ++ ['Z']

/-- The texts of the files. -/
abbrev Files (ι : Type) := ι → Option (List Char)

/-- A write is done, or it fails and leaves the file as it was or with some text. -/
inductive WriteOutcome where
  | done
  | failed (error : String) (left : Option (List Char))

def WriteOutcome.landed (text : List Char) : WriteOutcome → Option (List Char)
  | .done => some text
  | .failed _ left => left

structure UpdateCall where
  params : Dict
  now : UtcTime
  mkdirAll : Option String
  backup : WriteOutcome
  update : WriteOutcome

namespace UpdateCall
variable (call : UpdateCall)

/-- The first of two parameters that is not empty. -/
def firstField (params : Dict) (key other : String) : List Char :=
  (if stringField params key = "" then stringField params other
    else stringField params key).toList

def filePath : List Char := firstField call.params "file" "file_path"
def oldValue : List Char := firstField call.params "old-value" "old_value"
def newValue : List Char := firstField call.params "new-value" "new_value"

def backupDir : List Char :=
  let dir := firstField call.params "backup-dir" "backup_dir"
  if dir = [] then "/tmp/nexplane-backups".toList else dir

def backupName : List Char :=
  trimSuffix (pathExt call.filePath) (pathBase call.filePath) ++ '-' :: call.now.format ++
    pathExt call.filePath

def backupPath : List Char := cleanPath (call.backupDir ++ '/' :: call.backupName)

def replaced (content : List Char) : List Char := replaceAll call.oldValue call.newValue 0 content

end UpdateCall

inductive UpdateResult where
  | skipped (reason : String)
  | updated (backupPath : List Char) (replacements : Nat)

section Commands
variable {ι : Type} [DecidableEq ι] (resolve : List Char → ι)

def Files.put (files : Files ι) (i : ι) : Option (List Char) → Files ι
  | none => files
  | some text => Function.update files i (some text)

/-- `resolve` finds the file that a path names. -/
def updateExecute (call : UpdateCall) (files : Files ι) : Except String UpdateResult × Files ι :=
  if call.filePath = [] then (.error "file_path is required",files)
  else if call.oldValue = [] then (.error "old_value is required",files)
  else
    match files (resolve call.filePath) with
    | none =>
      (.error ("read file: open " ++ String.ofList call.filePath ++ ": no such file or directory"),
        files)
    | some content =>
      if ¬call.oldValue <:+: content then (.ok (.skipped "old_value not found in file"),files)
      else
        match call.mkdirAll with
        | some error => (.error ("create backup dir: " ++ error),files)
        | none =>
          let files₁ := files.put (resolve call.backupPath) (call.backup.landed content)
          match call.backup with
          | .failed error _ => (.error ("write backup: " ++ error),files₁)
          | .done =>
            let files₂ :=
              files₁.put (resolve call.filePath) (call.update.landed (call.replaced content))
            match call.update with
            | .failed error _ => (.error ("write file: " ++ error),files₂)
            | .done => (.ok (.updated call.backupPath (countAll call.oldValue 0 content)),files₂)

variable (decodeBase64 : String → Except String (List Char))

def restoreExecute (params : Dict) (outcome : WriteOutcome) (files : Files ι) :
    Except String (List Char) × Files ι :=
  let backupPath := UpdateCall.firstField params "backup-path" "backup_path"
  let targetPath := UpdateCall.firstField params "target-path" "target_path"
  let oldContent := stringField params "old_content"
  let data : Except String (List Char) :=
    if oldContent ≠ "" then
      match decodeBase64 oldContent with
      | .error error => .error ("decode old_content: " ++ error)
      | .ok decoded => .ok decoded
    else if backupPath = [] then .error "backup_path or old_content is required"
    else
      match files (resolve backupPath) with
      | none =>
        .error ("read backup: open " ++ String.ofList backupPath ++ ": no such file or directory")
      | some content => .ok content
  if targetPath = [] then (.error "target_path is required",files)
  else
    match data with
    | .error error => (.error error,files)
    | .ok content =>
      let files' := files.put (resolve targetPath) (outcome.landed content)
      match outcome with
      | .failed error _ => (.error ("restore file: " ++ error),files')
      | .done => (.ok targetPath,files')

end Commands

section Runs
variable {ι : Type} [DecidableEq ι] (resolve : List Char → ι)

/-- A backup path that a call returned, with the file it updated and the text this had before. -/
structure ReturnedBackup where
  path : List Char
  file : List Char
  content : List Char
  deriving DecidableEq

structure Archive (ι : Type) where
  files : Files ι
  backups : List ReturnedBackup

def Archive.update (s : Archive ι) (call : UpdateCall) : Archive ι :=
  match updateExecute resolve call s.files with
  | (.ok (.updated path _),files) =>
    ⟨files,s.backups ++ [⟨path,call.filePath,(s.files (resolve call.filePath)).getD []⟩]⟩
  | (_,files) => ⟨files,s.backups⟩

def referenceSystem : System (Archive ι) UpdateCall where
  start s := s.backups = []
  step s call := some (s.update resolve call)

/-- The call finds the old value in the file and has a directory for the backup. -/
structure Reaches (s : Archive ι) (call : UpdateCall) (content : List Char) : Prop where
  filePath : call.filePath ≠ []
  oldValue : call.oldValue ≠ []
  read : s.files (resolve call.filePath) = some content
  found : call.oldValue <:+: content
  directory : call.mkdirAll = none

variable {resolve} {s : Archive ι} {call : UpdateCall} {content : List Char}

theorem Archive.update_eq_self (h : ∀ content, ¬Reaches resolve s call content) :
    s.update resolve call = s := by
  unfold Archive.update updateExecute
  by_cases hfile : call.filePath = []
  · simp [hfile]
  · by_cases hold : call.oldValue = []
    · simp [hfile,hold]
    · cases hread : s.files (resolve call.filePath) with
      | none => simp [hfile,hold]
      | some content =>
        by_cases hfound : call.oldValue <:+: content
        · cases hdir : call.mkdirAll with
          | none => exact absurd ⟨hfile,hold,hread,hfound,hdir⟩ (h content)
          | some error => simp [hfile,hold,hfound]
        · simp [hfile,hold,hfound]

/-- What a call that updates returns. -/
def UpdateCall.returned (call : UpdateCall) (content : List Char) : List ReturnedBackup :=
  match call.update with
  | .failed _ _ => []
  | .done => [⟨call.backupPath,call.filePath,content⟩]

theorem Reaches.update_eq (h : Reaches resolve s call content) : s.update resolve call =
    match call.backup with
    | .failed _ left => ⟨s.files.put (resolve call.backupPath) left,s.backups⟩
    | .done =>
      ⟨(s.files.put (resolve call.backupPath) (some content)).put (resolve call.filePath)
        (call.update.landed (call.replaced content)),s.backups ++ call.returned content⟩ := by
  unfold Archive.update updateExecute UpdateCall.returned
  rw [if_neg h.filePath,if_neg h.oldValue,h.read]
  dsimp only
  rw [if_neg (not_not_intro h.found),h.directory]
  cases call.backup with
  | failed error left => rfl
  | done =>
    cases call.update with
    | failed error left => simp [WriteOutcome.landed]
    | done => rfl

section Put
variable {files : Files ι} {i j : ι} {text : Option (List Char)} {c : List Char}

@[simp] theorem Files.put_self : files.put i text i = text.or (files i) := by
  cases text <;> simp [Files.put]

theorem Files.put_of_ne (h : j ≠ i) : files.put i text j = files j := by
  cases text <;> simp [Files.put,h]

theorem Files.put_holds_iff (h : files j = some c) :
    files.put i text j = some c ↔ (j = i → ∀ t ∈ text, t = c) := by
  by_cases hj : j = i
  · subst hj
    cases text <;> simp [h]
  · simp [Files.put_of_ne hj,h,hj]

/-- The backup is written before the file it is of. -/
theorem Files.put_put_holds_iff (i : ι) (text : Option (List Char)) (h : files j = some c) {k : ι}
    (hread : files k = some content) :
    (files.put i (some content)).put k text j = some c ↔
      (j = i → content = c) ∧ (j = k → ∀ t ∈ text, t = c) := by
  by_cases hj : j = k
  · subst hj
    obtain rfl : content = c := Option.some.inj (hread.symm.trans h)
    have hheld : files.put i (some content) j = some content := by simp [Files.put_holds_iff h]
    rw [Files.put_holds_iff hheld]
    simp
  · rw [Files.put_of_ne hj,Files.put_holds_iff h]
    simp [hj]

theorem Files.put_own_iff {t : List Char} (k : ι) :
    (files.put i (some content)).put k (some t) i = some content ↔ (i = k → t = content) := by
  have hwritten : files.put i (some content) i = some content := by simp
  simp [Files.put_holds_iff hwritten]

end Put

def Archive.Intact (resolve : List Char → ι) (s : Archive ι) : Prop :=
  ∀ b ∈ s.backups, s.files (resolve b.path) = some b.content

/-- A call that updates writes no other text over a returned backup, neither with its own backup nor
with the updated file, and its backup is not the updated file. -/
structure SparesWith (resolve : List Char → ι) (s : Archive ι) (call : UpdateCall)
    (content : List Char) : Prop where
  byBackup : ∀ b ∈ s.backups, resolve b.path = resolve call.backupPath →
    ∀ text ∈ call.backup.landed content, text = b.content
  byUpdate : call.backup = .done → ∀ b ∈ s.backups, resolve b.path = resolve call.filePath →
    ∀ text ∈ call.update.landed (call.replaced content), text = b.content
  own : call.backup = .done → call.update = .done →
    resolve call.backupPath = resolve call.filePath → call.replaced content = content

def Spares (resolve : List Char → ι) (s : Archive ι) (call : UpdateCall) : Prop :=
  ∀ content, Reaches resolve s call content → SparesWith resolve s call content

theorem Reaches.intact_iff (h : Reaches resolve s call content) (hs : s.Intact resolve) :
    (s.update resolve call).Intact resolve ↔ SparesWith resolve s call content := by
  rw [h.update_eq]
  cases hbackup : call.backup with
  | failed error left =>
    constructor
    · intro hpost
      refine ⟨fun b hb => ?_,by simp [hbackup],by simp [hbackup]⟩
      rw [hbackup]
      exact (Files.put_holds_iff (hs b hb)).mp (hpost b hb)
    · intro hspares b hb
      have hby := hspares.byBackup b hb
      rw [hbackup] at hby
      exact (Files.put_holds_iff (hs b hb)).mpr hby
  | done =>
    have hearlier := fun b hb => Files.put_put_holds_iff (resolve call.backupPath)
      (call.update.landed (call.replaced content)) (hs b hb) h.read
    have hlanded : call.backup.landed content = some content := by rw [hbackup]; rfl
    constructor
    · intro hpost
      have hold := fun b hb => (hearlier b hb).mp (hpost b (List.mem_append_left _ hb))
      refine ⟨fun b hb he => ?_,fun _ b hb => (hold b hb).2,fun _ hupdate => ?_⟩
      · simpa [hlanded] using (hold b hb).1 he
      · have hown := hpost ⟨call.backupPath,call.filePath,content⟩
          (by simp [UpdateCall.returned,hupdate])
        rw [hupdate] at hown
        exact (Files.put_own_iff _).mp hown
    · intro hspares b hb
      rcases List.mem_append.mp hb with hb | hb
      · refine (hearlier b hb).mpr ⟨fun he => ?_,hspares.byUpdate hbackup b hb⟩
        exact hspares.byBackup b hb he content hlanded
      · cases hupdate : call.update with
        | failed error left => simp [UpdateCall.returned,hupdate] at hb
        | done =>
          obtain rfl : b = ⟨call.backupPath,call.filePath,content⟩ := by
            simpa [UpdateCall.returned,hupdate] using hb
          exact (Files.put_own_iff _).mpr (hspares.own hbackup hupdate)

theorem intact_update_iff (hs : s.Intact resolve) :
    (s.update resolve call).Intact resolve ↔ Spares resolve s call := by
  by_cases hreach : ∃ content, Reaches resolve s call content
  · obtain ⟨content,h⟩ := hreach
    rw [h.intact_iff hs]
    refine ⟨fun hspares content' h' => ?_,fun hspares => hspares content h⟩
    obtain rfl : content = content' := Option.some.inj (h.read.symm.trans h'.read)
    exact hspares
  · have hnone : ∀ content, ¬Reaches resolve s call content := fun content h => hreach ⟨content,h⟩
    rw [Archive.update_eq_self hnone]
    exact ⟨fun _ content h => absurd h (hnone content),fun _ => hs⟩

variable (resolve) (decodeBase64 : String → Except String (List Char))

def restoreParams (b : ReturnedBackup) : Dict :=
  [("backup_path",.str (String.ofList b.path)),("target_path",.str (String.ofList b.file))]

/-- The backup holds the text of its file before the update, and the file can be restored from it. -/
structure RestorableFrom (s : Archive ι) (b : ReturnedBackup) : Prop where
  holds : s.files (resolve b.path) = some b.content
  restores : restoreExecute resolve decodeBase64 (restoreParams b) .done s.files =
    (.ok b.file,Function.update s.files (resolve b.file) (some b.content))

variable {resolve decodeBase64} {b : ReturnedBackup} {tr : List (Transition (Archive ι) UpdateCall)}

theorem restorable_iff (hpath : b.path ≠ []) (hfile : b.file ≠ []) :
    RestorableFrom resolve decodeBase64 s b ↔ s.files (resolve b.path) = some b.content := by
  refine ⟨RestorableFrom.holds,fun hholds => ⟨hholds,?_⟩⟩
  have hbackup : UpdateCall.firstField (restoreParams b) "backup-path" "backup_path" = b.path := by
    simp [UpdateCall.firstField,restoreParams,stringField,Dict.get?,List.lookup_cons,List.lookup_nil]
  have htarget : UpdateCall.firstField (restoreParams b) "target-path" "target_path" = b.file := by
    simp [UpdateCall.firstField,restoreParams,stringField,Dict.get?,List.lookup_cons,List.lookup_nil]
  have hencoded : stringField (restoreParams b) "old_content" = "" := by
    simp [restoreParams,stringField,Dict.get?,List.lookup_cons,List.lookup_nil]
  simp [restoreExecute,hbackup,htarget,hencoded,hpath,hfile,hholds,Files.put,WriteOutcome.landed]

theorem cleanPath_ne_nil (path : List Char) : cleanPath path ≠ [] := by
  rw [cleanPath]
  split
  · simp
  · split <;> simp_all

/-- Returned paths are not empty. -/
def Archive.Named (s : Archive ι) : Prop := ∀ b ∈ s.backups, b.path ≠ [] ∧ b.file ≠ []

theorem referenceSystem_named : Inductive (referenceSystem resolve) Archive.Named where
  start := by
    intro s hs b hb
    rw [show s.backups = [] from hs] at hb
    cases hb
  step := by
    intro s call s' hs hstep
    obtain rfl : s.update resolve call = s' := Option.some.inj hstep
    by_cases hreach : ∃ content, Reaches resolve s call content
    · obtain ⟨content,h⟩ := hreach
      rw [h.update_eq]
      cases call.backup with
      | failed error left => exact hs
      | done =>
        intro b hb
        rcases List.mem_append.mp hb with hb | hb
        · exact hs b hb
        · rw [UpdateCall.returned] at hb
          split at hb
          · cases hb
          · obtain rfl := List.mem_singleton.mp hb
            exact ⟨cleanPath_ne_nil _,h.filePath⟩
    · rw [Archive.update_eq_self fun content h => hreach ⟨content,h⟩]
      exact hs

theorem intact_run_iff (h : Run (referenceSystem resolve) tr s) :
    (∀ t ∈ tr, t.post.Intact resolve) ↔ ∀ t ∈ tr, Spares resolve t.pre t.label := by
  refine h.stays_iff referenceSystem_named (fun s hs b hb => ?_) fun s call s' _ hs hstep => ?_
  · rw [show s.backups = [] from hs] at hb
    cases hb
  · obtain rfl : s.update resolve call = s' := Option.some.inj hstep
    exact intact_update_iff hs

/-- Two files of one base name. -/
def twoConfigs : Archive (List Char) where
  files path := if path = "/etc/a/app.conf".toList then some "host=old".toList
    else if path = "/etc/b/app.conf".toList then some "url=old".toList else none
  backups := []

def configUpdate (file : String) (second : Nat) : UpdateCall where
  params := [("file_path",.str file),("old_value",.str "old"),("new_value",.str "new")]
  now := ⟨2026,1,2,3,4,second,0⟩
  mkdirAll := none
  backup := .done
  update := .done

def firstUpdated : Archive (List Char) :=
  twoConfigs.update cleanPath (configUpdate "/etc/a/app.conf" 5)

def firstBackup : ReturnedBackup where
  path := "/tmp/nexplane-backups/app-20260102T030405Z.conf".toList
  file := "/etc/a/app.conf".toList
  content := "host=old".toList

theorem firstUpdated_backups : firstUpdated.backups = [firstBackup] := by decide +kernel

def updateRun (second : Nat) : List (Transition (Archive (List Char)) UpdateCall) :=
  [⟨firstUpdated,configUpdate "/etc/b/app.conf" second,
      firstUpdated.update cleanPath (configUpdate "/etc/b/app.conf" second)⟩,
    ⟨twoConfigs,configUpdate "/etc/a/app.conf" 5,firstUpdated⟩]

theorem updateRun_run (second : Nat) : Run (referenceSystem cleanPath) (updateRun second)
    (firstUpdated.update cleanPath (configUpdate "/etc/b/app.conf" second)) :=
  .step (.step (.start rfl) rfl) rfl

theorem updateRun_spares : ∀ t ∈ updateRun 6, Spares cleanPath t.pre t.label := by
  intro t ht content _
  rcases List.mem_cons.mp ht with rfl | ht
  · refine ⟨fun b hb he => ?_,fun _ b hb he => ?_,fun _ _ he => absurd he (by decide)⟩
    all_goals
      rw [firstUpdated_backups] at hb
      rw [List.mem_singleton.mp hb] at he
      exact absurd he (by decide)
  · obtain rfl := List.mem_singleton.mp ht
    exact ⟨fun _ hb => absurd hb List.not_mem_nil,fun _ _ hb => absurd hb List.not_mem_nil,
      fun _ _ he => absurd he (by decide)⟩

/-- Every returned backup stays restorable in a run just when no call writes over one. -/
theorem backups_stay_restorable_iff (h : Run (referenceSystem resolve) tr s) :
    (∀ t ∈ tr, ∀ b ∈ t.post.backups, RestorableFrom resolve decodeBase64 t.post b) ↔
      ∀ t ∈ tr, Spares resolve t.pre t.label := by
  rw [← intact_run_iff h]
  refine forall₂_congr fun t ht => forall₂_congr fun b hb => ?_
  obtain ⟨hreach,hstep⟩ := h.transition t ht
  obtain ⟨hpath,hfile⟩ := (hreach.step hstep).invariant referenceSystem_named b hb
  exact restorable_iff hpath hfile

/-- The two updates one second apart. -/
theorem backups_stay_restorable_iff_apart : updateRun 6 ≠ [] ∧ ∀ t ∈ updateRun 6, ∀ b ∈ t.post.backups,
    RestorableFrom cleanPath (fun _ => .error "illegal base64 data at input byte 0") t.post b :=
  ⟨List.cons_ne_nil _ _,(backups_stay_restorable_iff (updateRun_run 6)).mpr updateRun_spares⟩

/-- The two updates in one second: the later one writes over the earlier backup. -/
theorem backup_overwritten : ¬ ∀ (tr : List (Transition (Archive (List Char)) UpdateCall))
    (s : Archive (List Char)), Run (referenceSystem cleanPath) tr s → ∀ b ∈ s.backups,
    RestorableFrom cleanPath (fun _ => .error "illegal base64 data at input byte 0") s b := by
  intro hall
  have hreturned : firstBackup ∈
      (firstUpdated.update cleanPath (configUpdate "/etc/b/app.conf" 5)).backups := by
    decide +kernel
  have hlost : (firstUpdated.update cleanPath (configUpdate "/etc/b/app.conf" 5)).files
      (cleanPath firstBackup.path) ≠ some firstBackup.content := by decide +kernel
  exact hlost (hall _ _ (updateRun_run 5) _ hreturned).holds

end Runs

end Nexplane
