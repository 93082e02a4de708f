import Nexplane.Lib.Lines
import Mathlib.Data.String.Basic
import Mathlib.Data.List.Lex
import Mathlib.Logic.Function.Basic

set_option autoImplicit false

/-! The surfaces of a host that the agent captures from files and restores to files, and how the
control plane compares two captured states. -/

namespace Nexplane
open Text Lines

/-- A directory and the name of a file in it. -/
abbrev HostPath := String × String

/-- The files of a host: what `os.ReadFile` reads, the names that `os.ReadDir` lists, with a mark at
directories, the files that can be written, and what `visudo -c` accepts. -/
structure Host where
  file : HostPath → Option (List Char)
  dir : String → List (String × Bool)
  dirKeys : ∀ d, ((dir d).map Prod.fst).Nodup
  writable : HostPath → Bool
  tempFiles : Bool
  visudo : List Char → Bool

/-- `os.WriteFile`. -/
def Host.writeFile (h : Host) (path : HostPath) (content : List Char) : Option Host :=
  if h.writable path = true ∧ (path.2,true) ∉ h.dir path.1 then
    some { h with
      file := Function.update h.file path (some content)
      dir := Function.update h.dir path.1 (if path.2 ∈ (h.dir path.1).map Prod.fst then h.dir path.1
        else h.dir path.1 ++ [(path.2,false)])
      dirKeys := by
        intro d
        by_cases hd : d = path.1
        · subst hd
          rw [Function.update_self]
          split
          · exact h.dirKeys path.1
          · rename_i hnew
            rw [List.map_append,List.nodup_append]
            refine ⟨h.dirKeys path.1,by simp,fun a ha b hb hab => ?_⟩
            obtain rfl : b = path.2 := by simpa using hb
            exact hnew (hab ▸ ha)
        · rw [Function.update_of_ne hd]
          exact h.dirKeys d }
  else none

inductive DriftValue where
  | text (s : List Char)
  | lines (entries : List (List Char))
  deriving DecidableEq

/-- `%v` of a value. -/
def DriftValue.format : DriftValue → List Char
  | .text s => s
  | .lines entries => '[' :: [' '].intercalate entries ++ [']']

/-- A captured state: a map from keys to values. -/
structure DriftState where
  fields : List (List Char × DriftValue)
  keys : (fields.map Prod.fst).Nodup

namespace DriftState

def get (state : DriftState) (k : List Char) : Option DriftValue := state.fields.lookup k

def empty : DriftState := ⟨[],List.nodup_nil⟩

theorem replaced_keys (fields : List (List Char × DriftValue)) (k : List Char) (v : DriftValue) :
    (fields.map fun kv => if kv.1 = k then (k,v) else kv).map Prod.fst = fields.map Prod.fst := by
  rw [List.map_map]
  refine List.map_congr_left fun kv _ => ?_
  by_cases hk : kv.1 = k <;> simp [hk]

/-- `result[k] = v`. -/
def set (state : DriftState) (k : List Char) (v : DriftValue) : DriftState where
  fields := if k ∈ state.fields.map Prod.fst then
      state.fields.map fun kv => if kv.1 = k then (k,v) else kv
    else state.fields ++ [(k,v)]
  keys := by
    split
    · rw [replaced_keys]
      exact state.keys
    · rename_i hnew
      rw [List.map_append,List.nodup_append]
      refine ⟨state.keys,by simp,fun a ha b hb hab => ?_⟩
      obtain rfl : b = k := by simpa using hb
      exact hnew (hab ▸ ha)

def ofEntries (entries : List (List Char)) : DriftState :=
  ⟨[("entries".toList,.lines entries)],by simp⟩

end DriftState

def trimSpace (l : List Char) : List Char := trim isIntSpace l

/-- The limit of `bufio.Scanner`. -/
def scanLimit : Nat := 65536

def hasPrefix (head : String) (l : List Char) : Bool := head.toList.isPrefixOf l

def sortStrings (ls : List (List Char)) : List (List Char) := ls.insertionSort (· ≤ ·)

/-- A line that a capture leaves out. -/
def skipLine (l : List Char) : Bool := l.isEmpty || hasPrefix "#" l

def captureSSHLine (result : DriftState) (line : List Char) : DriftState :=
  if skipLine line then result
  else match splitFirst ' ' line with
  | some (key,value) => result.set key (.text (trimSpace value))
  | none => result

def sshPath : HostPath := ("/etc/ssh","sshd_config")

def captureSSHConfig (h : Host) : Except String DriftState :=
  match h.file sshPath with
  | none => .error "reading sshd_config"
  | some data => .ok (((scan scanLimit data).map trimSpace).foldl captureSSHLine .empty)

section Entries

variable (skip : List Char → Bool)

/-- The entries in one file. -/
def entryLines (data : List Char) : List (List Char) :=
  ((scan scanLimit data).map trimSpace).filter fun l => !(skipLine l || skip l)

/-- `readFile`: a file that cannot be read has none. -/
def Host.entriesOf (h : Host) (path : HostPath) : List (List Char) :=
  (h.file path).elim [] (entryLines skip)

/-- The files in a directory, in the order of their names. -/
def Host.filesIn (h : Host) (dir : String) : List HostPath :=
  ((((h.dir dir).filter fun e => e.2 = false).map Prod.fst).insertionSort (· ≤ ·)).map
    fun name => (dir,name)

/-- The entries of a main file and of drop-in directories. -/
def captureEntries (h : Host) (main : HostPath) (dirs : List String) : DriftState :=
  .ofEntries (sortStrings ((main :: dirs.flatMap h.filesIn).flatMap (h.entriesOf skip)))

end Entries

def sudoersPath : HostPath := ("/etc","sudoers")

def sudoersDirs : List String := ["/etc/sudoers.d"]

def isDefaults (l : List Char) : Bool := hasPrefix "Defaults" l

def captureSudoers (h : Host) : DriftState := captureEntries isDefaults h sudoersPath sudoersDirs

def crontabPath : HostPath := ("/etc","crontab")

def sysDirs : List String :=
  ["/etc/cron.d","/etc/cron.daily","/etc/cron.hourly","/etc/cron.weekly","/etc/cron.monthly"]

def captureCronJobs (h : Host) : DriftState :=
  captureEntries (fun _ => false) h crontabPath sysDirs

inductive HostSurface where
  | sshConfig
  | sudoers
  | cronJobs
  deriving DecidableEq, Repr

def captureDriftState (h : Host) : HostSurface → Except String DriftState
  | .sshConfig => captureSSHConfig h
  | .sudoers => .ok (captureSudoers h)
  | .cronJobs => .ok (captureCronJobs h)

def sortedFields (state : DriftState) : List (List Char × DriftValue) :=
  state.fields.insertionSort fun a b => a.1 ≤ b.1

def sshLine (kv : List Char × DriftValue) : List Char := kv.1 ++ ' ' :: kv.2.format

def restoreSSHConfig (h : Host) (state : DriftState) : Except String Host :=
  let content := unlines ((sortedFields state).map sshLine)
  match h.writeFile sshPath content with
  | some h => .ok h
  | none => .error "writing sshd_config"

def rawEntries (state : DriftState) : List (List Char) :=
  match state.get "entries".toList with
  | some (.lines entries) => entries
  | _ => []

/-- `strings.Join(lines, "\n") + "\n"`. -/
def joinLines (ls : List (List Char)) : List Char := ['\n'].intercalate ls ++ ['\n']

/-- The `\t` of the last default is text: that literal is a raw one. -/
def sudoersHeader : List (List Char) :=
  ["# Restored by Nexplane drift remediation".toList,"Defaults\tenv_reset".toList,
    "Defaults\tmail_badpass".toList,
    ("Defaults\\tsecure_path=\"/usr/local/sbin:/usr/local/bin:/usr/sbin:/usr/bin:/sbin:/bin\"" :
      String).toList,[]]

def restoreSudoers (h : Host) (state : DriftState) : Except String Host :=
  let content := joinLines (sudoersHeader ++ rawEntries state)
  if h.tempFiles = false then .error "creating temp file"
  else if h.visudo content = false then .error "visudo validation failed"
  else match h.writeFile sudoersPath content with
  | some h => .ok h
  | none => .error "writing /etc/sudoers"

def managedPath : HostPath := ("/etc/cron.d","nexplane-managed")

def cronHeader : List (List Char) := ["# Restored by Nexplane drift remediation".toList]

def restoreCronJobs (h : Host) (state : DriftState) : Except String Host :=
  match h.writeFile managedPath (joinLines (cronHeader ++ rawEntries state)) with
  | some h => .ok h
  | none => .error "writing cron file"

def restoreDriftState (h : Host) (targetState : DriftState) : HostSurface → Except String Host
  | .sshConfig => restoreSSHConfig h targetState
  | .sudoers => restoreSudoers h targetState
  | .cronJobs => restoreCronJobs h targetState

def normalizeValue : DriftValue → DriftValue
  | .text s => .text s
  | .lines entries => .lines (sortStrings entries)

/-- `normalize_state`. -/
def normalizeState (raw : DriftState) : List (List Char × DriftValue) :=
  (sortedFields raw).map fun kv => (kv.1,normalizeValue kv.2)

structure DriftDiff where
  added : List (List Char × DriftValue)
  removed : List (List Char × DriftValue)
  changed : List (List Char × DriftValue × DriftValue)

/-- `compute_diff`, with `none` for the empty difference. -/
def computeDiff (baseline observed : List (List Char × DriftValue)) : Option DriftDiff :=
  let diff : DriftDiff :=
    { added := observed.filter fun kv => (baseline.lookup kv.1).isNone
      removed := baseline.filter fun kv => (observed.lookup kv.1).isNone
      changed := baseline.filterMap fun kv =>
        match observed.lookup kv.1 with
        | some v => if v = kv.2 then none else some (kv.1,kv.2,v)
        | none => none }
  if diff.added.isEmpty && diff.removed.isEmpty && diff.changed.isEmpty then none else some diff

end Nexplane
