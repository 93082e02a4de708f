import Nexplane.ChangeIp
import Nexplane.DriftSurfaces

set_option autoImplicit false

/-! The agent's edits of a user's `authorized_keys` file, and what they leave of its lines. -/

namespace Nexplane
open PyValue Text Lines

/-- The files of a host by their path; one that is there can be read. -/
structure KeyHost where
  file : List Char → Option (List Char)

def KeyHost.content (h : KeyHost) (path : List Char) : List Char := (h.file path).getD []

def KeyHost.write (h : KeyHost) (path content : List Char) : KeyHost :=
  ⟨Function.update h.file path (some content)⟩

/-- What the host refuses during one call. A write that fails leaves a part of the text. -/
structure FileErrors where
  mkdirAll : Option String
  openFile : Option String
  write : Option (String × Nat)

structure KeyReport where
  changed : Bool
  user : String
  reason : Option String
  deriving DecidableEq

section Commands
variable (quote : String → String)

def passwdPath : List Char := "/etc/passwd".toList

def passwdHome (user line : List Char) : Option (List Char) :=
  let fields := line.splitOn ':'
  if 7 ≤ fields.length ∧ fields[0]? = some user then fields[5]? else none

def homeDir (h : KeyHost) (user : String) : Except String (List Char) :=
  match h.file passwdPath with
  | none => .error "cannot read /etc/passwd: open /etc/passwd: no such file or directory"
  | some data =>
    match (data.splitOn '\n').findSome? (passwdHome user.toList) with
    | some dir => .ok dir
    | none => .error ("user " ++ quote user ++ " not found in /etc/passwd")

def keyUser (params : Dict) : String :=
  if stringField params "user" = "" then "root" else stringField params "user"

def keyLine (params : Dict) : List Char := trimSpace (stringField params "public_key").toList

def authFile (home : List Char) : List Char := home ++ "/.ssh/authorized_keys".toList

def hasKey (existing key : List Char) : Bool :=
  (existing.splitOn '\n').any fun line => trimSpace line = key

def keptLines (existing key : List Char) : List (List Char) :=
  (existing.splitOn '\n').filter fun line => trimSpace line ≠ key

def addAuthorizedKey (errors : FileErrors) (params : Dict) (h : KeyHost) :
    Except String KeyReport × KeyHost :=
  if keyLine params = [] then (.error "add_authorized_key: public_key is required",h)
  else
    match homeDir quote h (keyUser params) with
    | .error error => (.error error,h)
    | .ok home =>
      match errors.mkdirAll with
      | some error => (.error ("add_authorized_key: mkdir .ssh: " ++ error),h)
      | none =>
        let existing := h.content (authFile home)
        if hasKey existing (keyLine params) then
          (.ok ⟨false,keyUser params,some "already present"⟩,h)
        else
          match errors.openFile,errors.write with
          | some error,_ => (.error ("add_authorized_key: open authorized_keys: " ++ error),h)
          | none,some (error,written) =>
            (.error ("add_authorized_key: write: " ++ error),
              h.write (authFile home) (existing ++ (keyLine params ++ ['\n']).take written))
          | none,none =>
            (.ok ⟨true,keyUser params,none⟩,
              h.write (authFile home) (existing ++ (keyLine params ++ ['\n'])))

def removeAuthorizedKey (errors : FileErrors) (params : Dict) (h : KeyHost) :
    Except String KeyReport × KeyHost :=
  if keyLine params = [] then (.error "remove_authorized_key: public_key is required",h)
  else
    match homeDir quote h (keyUser params) with
    | .error error => (.error error,h)
    | .ok home =>
      match h.file (authFile home) with
      | none => (.ok ⟨false,keyUser params,some "file not found"⟩,h)
      | some existing =>
        let kept := ['\n'].intercalate (keptLines existing (keyLine params))
        match errors.openFile,errors.write with
        | some error,_ => (.error ("remove_authorized_key: write: " ++ error),h)
        | none,some (error,written) =>
          (.error ("remove_authorized_key: write: " ++ error),
            h.write (authFile home) (kept.take written))
        | none,none =>
          (.ok ⟨hasKey existing (keyLine params),keyUser params,none⟩,
            h.write (authFile home) kept)

variable {errors : FileErrors} {params : Dict} {h h' : KeyHost} {home : List Char}
  {report : KeyReport}

theorem passwdPath_ne_authFile (home : List Char) : passwdPath ≠ authFile home := by
  intro he
  have hlast := congrArg List.getLast? he
  rw [authFile,List.getLast?_append_of_ne_nil _ (by decide)] at hlast
  exact absurd hlast (by decide)

@[simp] theorem content_write (h : KeyHost) (path content : List Char) :
    (h.write path content).content path = content := by
  simp [KeyHost.content,KeyHost.write]

theorem homeDir_write (h : KeyHost) (home content : List Char) (user : String) :
    homeDir quote (h.write (authFile home) content) user = homeDir quote h user := by
  have hpasswd : (h.write (authFile home) content).file passwdPath = h.file passwdPath :=
    Function.update_of_ne (passwdPath_ne_authFile home) _ _
  rw [homeDir,homeDir,hpasswd]

/-- What a successful call leaves in the file. -/
def addedContent (existing key : List Char) : List Char :=
  if hasKey existing key then existing else existing ++ (key ++ ['\n'])

def removedContent (existing key : List Char) : List Char :=
  ['\n'].intercalate (keptLines existing key)

theorem addAuthorizedKey_ok (hhome : homeDir quote h (keyUser params) = .ok home)
    (hadd : addAuthorizedKey quote errors params h = (.ok report,h')) :
    keyLine params ≠ [] ∧ homeDir quote h' (keyUser params) = .ok home ∧
      h'.content (authFile home) = addedContent (h.content (authFile home)) (keyLine params) ∧
      (hasKey (h.content (authFile home)) (keyLine params) = true → h' = h) := by
  rw [addAuthorizedKey] at hadd
  split at hadd
  · cases hadd
  · next hkey =>
    rw [hhome] at hadd
    dsimp only at hadd
    refine ⟨hkey,?_⟩
    split at hadd
    · cases hadd
    · split at hadd
      · next hpresent =>
        cases hadd
        exact ⟨hhome,by rw [addedContent,if_pos hpresent],fun _ => rfl⟩
      · next hpresent =>
        split at hadd
        · cases hadd
        · cases hadd
        · cases hadd
          exact ⟨by rw [homeDir_write,hhome],
            by rw [content_write,addedContent,if_neg hpresent],fun hp => absurd hp hpresent⟩

theorem removeAuthorizedKey_ok (hhome : homeDir quote h (keyUser params) = .ok home)
    (hremove : removeAuthorizedKey quote errors params h = (.ok report,h')) :
    h'.content (authFile home) = removedContent (h.content (authFile home)) (keyLine params) := by
  rw [removeAuthorizedKey] at hremove
  split at hremove
  · cases hremove
  · next hkey =>
    rw [hhome] at hremove
    dsimp only at hremove
    split at hremove
    · next hfile =>
      cases hremove
      have hcontent : h.content (authFile home) = [] := by simp [KeyHost.content,hfile]
      have hblank : trimSpace [] ≠ keyLine params := fun he => hkey he.symm
      simp [hcontent,removedContent,keptLines,hblank]
    · next existing hfile =>
      have hcontent : h.content (authFile home) = existing := by simp [KeyHost.content,hfile]
      split at hremove
      · cases hremove
      · cases hremove
      · cases hremove
        rw [content_write,hcontent,removedContent]

end Commands

section Editing

/-- A key is added once, as a line of its own, and its removal leaves the other lines. -/
structure ExactEdit (path key : List Char) (before added again removed : KeyHost) : Prop where
  adds : (lines (added.content path)).map trimSpace =
    (lines (before.content path)).map trimSpace ++
      if key ∈ (lines (before.content path)).map trimSpace then [] else [key]
  idempotent : again = added
  removes : lines (removed.content path) =
    (lines (before.content path)).filter fun line => trimSpace line ≠ key

def otherLines (content key : List Char) : List (List Char) :=
  (lines content).filter fun line => trimSpace line ≠ key

/-- The last line is ended, or the key is there and the last of the other lines is not empty. -/
def EditsCleanly (content key : List Char) : Prop :=
  Ended content ∨
    key ∈ (lines content).map trimSpace ∧ (otherLines content key).getLast? ≠ some []

variable {content key : List Char}

theorem trimSpace_nil : trimSpace [] = [] := rfl

theorem hasKey_iff (hkey : key ≠ []) :
    hasKey content key = true ↔ key ∈ (lines content).map trimSpace := by
  have hpieces : hasKey content key = true ↔ key ∈ (content.splitOn '\n').map trimSpace := by
    simp [hasKey,List.mem_map]
  rw [hpieces]
  by_cases hended : Ended content
  · simp [splitOn_of_ended hended,trimSpace_nil,hkey]
  · rw [splitOn_of_not_ended hended]

theorem unlines_lines (hended : Ended content) : unlines (lines content) = content := by
  have hsplit := splitOn_of_ended hended
  calc unlines (lines content) = ['\n'].intercalate (lines content ++ [[]]) := by
        rw [← unlines_append_eq_intercalate,List.append_nil]
    _ = content := by rw [← hsplit,List.intercalate_splitOn]

theorem lines_addedContent (hkey : key ≠ []) (hline : '\n' ∉ key) (hended : Ended content) :
    lines (addedContent content key) =
      lines content ++ if key ∈ (lines content).map trimSpace then [] else [key] := by
  rw [addedContent]
  by_cases hpresent : key ∈ (lines content).map trimSpace
  · rw [if_pos ((hasKey_iff hkey).mpr hpresent),if_pos hpresent,List.append_nil]
  · have hnew : content ++ (key ++ ['\n']) = unlines (lines content ++ [key]) := by
      rw [unlines_append,unlines_lines hended]
      simp [unlines]
    rw [if_neg (mt (hasKey_iff hkey).mp hpresent),if_neg hpresent,hnew,lines_unlines]
    intro l hl
    rcases List.mem_append.mp hl with hl | hl
    · exact lines_oneLine content l hl
    · rwa [List.mem_singleton.mp hl]

theorem ended_addedContent (hended : Ended content) : Ended (addedContent content key) := by
  rw [addedContent]
  split
  · exact hended
  · exact .inr (by simp)

theorem keptLines_oneLine (content key : List Char) : ∀ l ∈ keptLines content key, '\n' ∉ l :=
  fun l hl => splitOn_pieces '\n' content l (List.mem_of_mem_filter hl)

theorem lines_removedContent (hkey : key ≠ []) (hended : Ended content) :
    lines (removedContent content key) = otherLines content key := by
  have hkept : keptLines content key = otherLines content key ++ [[]] := by
    rw [keptLines,splitOn_of_ended hended,List.filter_append,otherLines]
    simp [trimSpace_nil,Ne.symm hkey]
  rw [removedContent,lines_intercalate (keptLines_oneLine content key),hkept]
  simp

theorem lines_removedContent_iff (hended : ¬Ended content) :
    lines (removedContent content key) = otherLines content key ↔
      (otherLines content key).getLast? ≠ some [] := by
  have hkept : keptLines content key = otherLines content key := by
    rw [keptLines,splitOn_of_not_ended hended,otherLines]
  rw [removedContent,lines_intercalate (keptLines_oneLine content key),hkept]
  split
  · next hlast =>
    refine ⟨fun hsame => ?_,fun hne => absurd hlast hne⟩
    obtain ⟨others,hothers⟩ := List.getLast?_eq_some_iff.mp hlast
    have hlength := congrArg List.length hsame
    simp [hothers] at hlength
  · next hlast => simpa using hlast

theorem addedContent_of_present (hkey : key ≠ [])
    (hpresent : key ∈ (lines content).map trimSpace) : addedContent content key = content := by
  rw [addedContent,if_pos ((hasKey_iff hkey).mpr hpresent)]

/-- Without a line feed at the end the key is written into the last line. -/
theorem lines_addedContent_length (hkey : key ≠ []) (hline : '\n' ∉ key) (hended : ¬Ended content)
    (hpresent : key ∉ (lines content).map trimSpace) :
    (lines (addedContent content key)).length = (lines content).length := by
  obtain ⟨ls,last,hls,hlast,rfl⟩ := exists_unlines content
  have hne : last ≠ [] := by
    rintro rfl
    exact hended (by simpa using ended_unlines ls)
  have hjoined : unlines ls ++ last ++ (key ++ ['\n']) = unlines (ls ++ [last ++ key]) := by
    rw [unlines_append]
    simp [unlines]
  have hlines : ∀ l ∈ ls ++ [last ++ key], '\n' ∉ l := by
    intro l hl
    rcases List.mem_append.mp hl with hl | hl
    · exact hls l hl
    · simp [List.mem_singleton.mp hl,hlast,hline]
  rw [addedContent,if_neg (mt (hasKey_iff hkey).mp hpresent),hjoined,lines_unlines hlines,
    lines_unlines_append hls hlast hne]
  simp

theorem lines_addedContent_iff (hkey : key ≠ []) (hline : '\n' ∉ key)
    (htrim : trimSpace key = key) :
    (lines (addedContent content key)).map trimSpace = (lines content).map trimSpace ++
        (if key ∈ (lines content).map trimSpace then [] else [key]) ↔
      Ended content ∨ key ∈ (lines content).map trimSpace := by
  by_cases hended : Ended content
  · refine ⟨fun _ => .inl hended,fun _ => ?_⟩
    rw [lines_addedContent hkey hline hended,List.map_append]
    split
    · rfl
    · simp [htrim]
  · by_cases hpresent : key ∈ (lines content).map trimSpace
    · simp [addedContent_of_present hkey hpresent,hpresent]
    · refine ⟨fun hsame => ?_,fun hcond => (hcond.elim hended hpresent).elim⟩
      have hlength := congrArg List.length hsame
      rw [List.length_append,List.length_map,List.length_map,if_neg hpresent,
        lines_addedContent_length hkey hline hended hpresent] at hlength
      simp at hlength

/-- After a clean addition the key is there, so a second one changes nothing. -/
theorem hasKey_addedContent (hkey : key ≠ []) (hline : '\n' ∉ key) (htrim : trimSpace key = key)
    (hclean : Ended content ∨ key ∈ (lines content).map trimSpace) :
    hasKey (addedContent content key) key = true := by
  rw [hasKey_iff hkey,(lines_addedContent_iff hkey hline htrim).mpr hclean]
  split
  · next hpresent => simpa using hpresent
  · simp

theorem otherLines_addedContent (hkey : key ≠ []) (hline : '\n' ∉ key)
    (htrim : trimSpace key = key) (hended : Ended content) :
    otherLines (addedContent content key) key = otherLines content key := by
  rw [otherLines,lines_addedContent hkey hline hended,List.filter_append]
  split
  · simp [otherLines]
  · simp [otherLines,htrim]

end Editing

section Exactness
variable {quote : String → String} {params : Dict} {home : List Char} {h added again removed : KeyHost}
  {e₁ e₂ e₃ : FileErrors} {r₁ r₂ r₃ : KeyReport}

theorem trimSpace_keyLine (params : Dict) : trimSpace (keyLine params) = keyLine params :=
  (trim_trimmed isIntSpace _).trim_eq

theorem exactEdit_iff (hline : '\n' ∉ keyLine params)
    (hhome : homeDir quote h (keyUser params) = .ok home)
    (hadd : addAuthorizedKey quote e₁ params h = (.ok r₁,added))
    (hagain : addAuthorizedKey quote e₂ params added = (.ok r₂,again))
    (hremove : removeAuthorizedKey quote e₃ params added = (.ok r₃,removed)) :
    ExactEdit (authFile home) (keyLine params) h added again removed ↔
      EditsCleanly (h.content (authFile home)) (keyLine params) := by
  obtain ⟨hkey,hhome',hadded,hsame⟩ := addAuthorizedKey_ok quote hhome hadd
  obtain ⟨-,-,-,hagain'⟩ := addAuthorizedKey_ok quote hhome' hagain
  have hremoved := removeAuthorizedKey_ok quote hhome' hremove
  have htrim := trimSpace_keyLine params
  have hadds := @lines_addedContent_iff (h.content (authFile home)) _ hkey hline htrim
  rw [← hadded] at hadds
  constructor
  · intro hexact
    rcases hadds.mp hexact.adds with hended | hpresent
    · exact .inl hended
    · by_cases hended : Ended (h.content (authFile home))
      · exact .inl hended
      · refine .inr ⟨hpresent,(lines_removedContent_iff hended).mp ?_⟩
        rw [hsame ((hasKey_iff hkey).mpr hpresent)] at hremoved
        rw [← hremoved]
        exact hexact.removes
  · intro hclean
    have hclean' : Ended (h.content (authFile home)) ∨
        keyLine params ∈ (lines (h.content (authFile home))).map trimSpace :=
      hclean.imp id And.left
    refine ⟨hadds.mpr hclean',hagain' ?_,?_⟩
    · rw [hadded]
      exact hasKey_addedContent hkey hline htrim hclean'
    · rcases hclean with hended | ⟨hpresent,hlast⟩
      · rw [hremoved,hadded,lines_removedContent hkey (ended_addedContent hended),
          otherLines_addedContent hkey hline htrim hended,otherLines]
      · rw [hremoved,hadded,addedContent_of_present hkey hpresent]
        by_cases hended : Ended (h.content (authFile home))
        · exact lines_removedContent hkey hended
        · exact (lines_removedContent_iff hended).mpr hlast

def noErrors : FileErrors := ⟨none,none,none⟩

theorem addAuthorizedKey_noErrors (hkey : keyLine params ≠ [])
    (hhome : homeDir quote h (keyUser params) = .ok home) :
    ∃ r h', addAuthorizedKey quote noErrors params h = (.ok r,h') := by
  simp only [addAuthorizedKey,if_neg hkey,hhome,noErrors]
  split <;> exact ⟨_,_,rfl⟩

theorem removeAuthorizedKey_noErrors (hkey : keyLine params ≠ [])
    (hhome : homeDir quote h (keyUser params) = .ok home) :
    ∃ r h', removeAuthorizedKey quote noErrors params h = (.ok r,h') := by
  simp only [removeAuthorizedKey,if_neg hkey,hhome,noErrors]
  split <;> exact ⟨_,_,rfl⟩

theorem calls_noErrors (hkey : keyLine params ≠ [])
    (hhome : homeDir quote h (keyUser params) = .ok home) : ∃ r₁ r₂ r₃ added again removed,
    addAuthorizedKey quote noErrors params h = (.ok r₁,added) ∧
    addAuthorizedKey quote noErrors params added = (.ok r₂,again) ∧
    removeAuthorizedKey quote noErrors params added = (.ok r₃,removed) := by
  obtain ⟨r₁,added,hadd⟩ := addAuthorizedKey_noErrors hkey hhome
  obtain ⟨-,hhome',-⟩ := addAuthorizedKey_ok quote hhome hadd
  obtain ⟨r₂,again,hagain⟩ := addAuthorizedKey_noErrors hkey hhome'
  obtain ⟨r₃,removed,hremove⟩ := removeAuthorizedKey_noErrors hkey hhome'
  exact ⟨r₁,r₂,r₃,added,again,removed,hadd,hagain,hremove⟩

/-- A host with one user, and the text of its file. -/
def rootHost (content : List Char) : KeyHost where
  file := Function.update
    (fun path => if path = passwdPath then some "root:x:0:0:root:/root:/bin/bash".toList else none)
    (authFile "/root".toList) (some content)

def keyParams : Dict := [("public_key",.str "ssh-ed25519 B ops")]

/-- The edits of the file are exact just when its last line is ended, or the key is one of its lines
and the last of the others is not empty. -/
theorem authorizedKeys_exact_iff (hline : '\n' ∉ keyLine params)
    (hhome : homeDir quote h (keyUser params) = .ok home)
    (hadd : addAuthorizedKey quote e₁ params h = (.ok r₁,added))
    (hagain : addAuthorizedKey quote e₂ params added = (.ok r₂,again))
    (hremove : removeAuthorizedKey quote e₃ params added = (.ok r₃,removed)) :
    ExactEdit (authFile home) (keyLine params) h added again removed ↔
      EditsCleanly (h.content (authFile home)) (keyLine params) :=
  exactEdit_iff hline hhome hadd hagain hremove

/-- Two keys, each on a line of its own. -/
theorem authorizedKeys_exact_iff_two_keys : ∃ added again removed,
    ExactEdit (authFile "/root".toList) (keyLine keyParams)
      (rootHost "ssh-ed25519 A dev\n".toList) added again removed := by
  have hhome : homeDir id (rootHost "ssh-ed25519 A dev\n".toList) (keyUser keyParams) =
      .ok "/root".toList := by decide
  obtain ⟨_,_,_,added,again,removed,hadd,hagain,hremove⟩ := calls_noErrors (by decide) hhome
  exact ⟨added,again,removed,
    (authorizedKeys_exact_iff (by decide) hhome hadd hagain hremove).mpr (.inl (by decide))⟩

/-- A key that is written behind a last line without its line feed. -/
theorem unended_line_merged : ¬ ∀ (params : Dict) (home : List Char) (h added again removed : KeyHost)
    (r₁ r₂ r₃ : KeyReport), '\n' ∉ keyLine params → homeDir id h (keyUser params) = .ok home →
    addAuthorizedKey id noErrors params h = (.ok r₁,added) →
    addAuthorizedKey id noErrors params added = (.ok r₂,again) →
    removeAuthorizedKey id noErrors params added = (.ok r₃,removed) →
    ExactEdit (authFile home) (keyLine params) h added again removed := by
  intro hall
  have hhome : homeDir id (rootHost "ssh-ed25519 A dev".toList) (keyUser keyParams) =
      .ok "/root".toList := by decide
  obtain ⟨_,_,_,added,again,removed,hadd,hagain,hremove⟩ := calls_noErrors (by decide) hhome
  have hexact := hall _ _ _ _ _ _ _ _ _ (by decide) hhome hadd hagain hremove
  rcases (exactEdit_iff (by decide) hhome hadd hagain hremove).mp hexact with hended | ⟨hpresent,-⟩
  · exact absurd hended (by decide)
  · exact absurd hpresent (by decide)

end Exactness

end Nexplane
