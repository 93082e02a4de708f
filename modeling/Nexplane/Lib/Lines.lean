import Nexplane.Lib.Text
import Mathlib.Data.List.Sort
import Mathlib.Data.String.Basic
import Mathlib.Algebra.GroupWithZero.Nat

set_option autoImplicit false

/-! Lines of a text: read up to a limit on their size, trimmed, and written back. -/

namespace Lines
open Text

/-- The size of the text in UTF-8. -/
def byteSize (cs : List Char) : Nat := (cs.map Char.utf8Size).sum

/-- The lines of a text up to the first one of `limit` bytes or more; what follows a last line feed
is a line as well. -/
def scan (limit : Nat) (text : List Char) : List (List Char) :=
  (text.splitOn '\n').takeWhile fun l => byteSize l < limit

def unlines (ls : List (List Char)) : List Char := ls.flatMap fun l => l ++ ['\n']

/-- A line as `scan` reads it. -/
structure IsLine (limit : Nat) (l : List Char) : Prop where
  oneLine : '\n' ∉ l
  small : byteSize l < limit

variable {limit : Nat} {l m : List Char} {ls : List (List Char)} {p : Char → Bool}

theorem byteSize_le (h : l.Sublist m) : byteSize l ≤ byteSize m := by
  induction h with
  | slnil => exact le_refl _
  | cons c _ ih => exact ih.trans (by simp [byteSize])
  | cons_cons c _ ih => simpa [byteSize] using ih

@[simp] theorem byteSize_append (l m : List Char) : byteSize (l ++ m) = byteSize l + byteSize m := by
  simp [byteSize]

theorem byteSize_flatMap {α : Type} (f : α → List Char) (as : List α) :
    byteSize (as.flatMap f) = (as.map fun a => byteSize (f a)).sum := by
  induction as with
  | nil => rfl
  | cons a as ih => simp [ih]

theorem IsLine.sublist (h : IsLine limit m) (hsub : l.Sublist m) : IsLine limit l :=
  ⟨fun hl => h.oneLine (hsub.subset hl),(byteSize_le hsub).trans_lt h.small⟩

theorem splitOn_pieces (sep : Char) (cs : List Char) : ∀ l ∈ cs.splitOn sep, sep ∉ l := by
  induction cs with
  | nil => simp
  | cons c cs ih =>
    rw [List.splitOn_cons_eq_if_modifyHead]
    split
    · simpa using ih
    · next hc =>
      have hne : sep ≠ c := fun he => hc (by simp [he])
      cases hcs : cs.splitOn sep with
      | nil => simp
      | cons piece pieces =>
        rw [hcs] at ih
        simpa [hne] using ih

theorem isLine_of_mem_scan {text : List Char} (h : l ∈ scan limit text) : IsLine limit l := by
  have hsmall := List.mem_takeWhile_imp h
  have hmem := (List.takeWhile_sublist _).subset h
  exact ⟨splitOn_pieces '\n' text l hmem,by simpa using hsmall⟩

theorem unlines_append_eq_intercalate (ls : List (List Char)) (last : List Char) :
    unlines ls ++ last = ['\n'].intercalate (ls ++ [last]) := by
  induction ls with
  | nil => simp [unlines]
  | cons l ls ih =>
    have hrest : ls ++ [last] ≠ [] := by simp
    obtain ⟨m,ms,hms⟩ := List.exists_cons_of_ne_nil hrest
    rw [List.cons_append,hms,List.intercalate_cons_cons,← hms,← ih]
    simp [unlines]

theorem splitOn_unlines_append {last : List Char} (h : ∀ l ∈ ls, '\n' ∉ l) (hlast : '\n' ∉ last) :
    (unlines ls ++ last).splitOn '\n' = ls ++ [last] := by
  rw [unlines_append_eq_intercalate,List.splitOn_intercalate _ _ (by simp)]
  intro l hl
  rcases List.mem_append.mp hl with hl | hl
  · exact h l hl
  · rwa [List.mem_singleton.mp hl]

theorem splitOn_unlines (h : ∀ l ∈ ls, '\n' ∉ l) : (unlines ls).splitOn '\n' = ls ++ [[]] := by
  simpa using splitOn_unlines_append h (List.not_mem_nil (a := '\n'))

/-- Written lines are read back, with the empty rest after the last line feed. -/
theorem scan_unlines (hlimit : 0 < limit) (h : ∀ l ∈ ls, IsLine limit l) :
    scan limit (unlines ls) = ls ++ [[]] := by
  rw [scan,splitOn_unlines fun l hl => (h l hl).oneLine,List.takeWhile_eq_self_iff]
  intro l hl
  rcases List.mem_append.mp hl with hl | hl
  · simpa using (h l hl).small
  · simpa [List.mem_singleton.mp hl,byteSize] using hlimit

section Trim

theorem trim_sublist (p : Char → Bool) (cs : List Char) : (trim p cs).Sublist cs := by
  obtain ⟨lead,trail,hcs,_⟩ := trim_decompose p cs
  conv_rhs => rw [hcs]
  exact (List.sublist_append_right _ _).trans (List.sublist_append_left _ _)

/-- Both ends of the text stay where it is trimmed. -/
structure Trimmed (p : Char → Bool) (cs : List Char) : Prop where
  first : ∀ c ∈ cs.head?, p c = false
  last : ∀ c ∈ cs.getLast?, p c = false

theorem Trimmed.trim_eq (h : Trimmed p l) : trim p l = l := trim_of_ends h.first h.last

theorem head_dropWhile (p : Char → Bool) (cs : List Char) :
    ∀ c ∈ (cs.dropWhile p).head?, p c = false := by
  induction cs with
  | nil => simp
  | cons c cs ih =>
    by_cases hc : p c = true
    · simpa [hc] using ih
    · simp [hc]

theorem trim_trimmed (p : Char → Bool) (cs : List Char) : Trimmed p (trim p cs) where
  last := by simpa [trim] using head_dropWhile p (cs.dropWhile p).reverse
  first := by
    intro c hc
    have hsuffix : ((cs.dropWhile p).reverse.dropWhile p).reverse <+: cs.dropWhile p := by
      have := List.dropWhile_suffix p (l := (cs.dropWhile p).reverse)
      simpa using List.reverse_prefix.mpr this
    refine head_dropWhile p cs c ?_
    obtain ⟨rest,hrest⟩ := hsuffix
    rw [← hrest]
    rw [trim] at hc
    cases hd : ((cs.dropWhile p).reverse.dropWhile p).reverse with
    | nil => simp [hd] at hc
    | cons d ds =>
      rw [hd] at hc
      simpa using hc

end Trim

section Ends

/-- The lines of a text of which a last line feed ends the last one, and opens no further line. -/
def lines (text : List Char) : List (List Char) :=
  if (text.splitOn '\n').getLast? = some [] then (text.splitOn '\n').dropLast
  else text.splitOn '\n'

/-- No line of the text is without its line feed. -/
def Ended (text : List Char) : Prop := text = [] ∨ text.getLast? = some '\n'

instance (text : List Char) : Decidable (Ended text) := inferInstanceAs (Decidable (_ ∨ _))

variable {text last : List Char}

theorem unlines_append (ls ms : List (List Char)) :
    unlines (ls ++ ms) = unlines ls ++ unlines ms := List.flatMap_append

theorem lines_unlines (h : ∀ l ∈ ls, '\n' ∉ l) : lines (unlines ls) = ls := by
  simp [lines,splitOn_unlines h]

theorem lines_unlines_append (h : ∀ l ∈ ls, '\n' ∉ l) (hlast : '\n' ∉ last) (hne : last ≠ []) :
    lines (unlines ls ++ last) = ls ++ [last] := by
  simp [lines,splitOn_unlines_append h hlast,hne]

theorem ended_unlines (ls : List (List Char)) : Ended (unlines ls) := by
  rcases List.eq_nil_or_concat ls with rfl | ⟨init,l,rfl⟩
  · exact .inl rfl
  · exact .inr (by simp [unlines])

theorem not_ended_append (hlast : '\n' ∉ last) (hne : last ≠ []) :
    ¬Ended (unlines ls ++ last) := by
  obtain ⟨init,c,rfl⟩ := (List.eq_nil_or_concat last).resolve_left hne
  simp at hlast
  simp [Ended,Ne.symm hlast.2]

/-- A text is its lines, each with its line feed, and a rest without one. -/
theorem exists_unlines (text : List Char) : ∃ ls last, (∀ l ∈ ls, '\n' ∉ l) ∧ '\n' ∉ last ∧
    text = unlines ls ++ last := by
  obtain ⟨ls,last,hsplit⟩ :=
    (List.eq_nil_or_concat (text.splitOn '\n')).resolve_left (List.splitOn_ne_nil _ _)
  have hpieces := splitOn_pieces '\n' text
  rw [hsplit] at hpieces
  have hls : ∀ l ∈ ls, '\n' ∉ l := fun l hl => hpieces l (by simp [hl])
  have hlast : '\n' ∉ last := hpieces last (by simp)
  refine ⟨ls,last,hls,hlast,?_⟩
  calc text = ['\n'].intercalate (text.splitOn '\n') := (List.intercalate_splitOn _).symm
    _ = ['\n'].intercalate ((unlines ls ++ last).splitOn '\n') := by
        rw [splitOn_unlines_append hls hlast,hsplit,List.concat_eq_append]
    _ = unlines ls ++ last := List.intercalate_splitOn _

theorem splitOn_of_ended (h : Ended text) : text.splitOn '\n' = lines text ++ [[]] := by
  obtain ⟨ls,last,hls,hlast,rfl⟩ := exists_unlines text
  by_cases hne : last = []
  · subst hne
    rw [List.append_nil,splitOn_unlines hls,lines_unlines hls]
  · exact absurd h (not_ended_append hlast hne)

theorem splitOn_of_not_ended (h : ¬Ended text) : text.splitOn '\n' = lines text := by
  obtain ⟨ls,last,hls,hlast,rfl⟩ := exists_unlines text
  by_cases hne : last = []
  · subst hne
    exact absurd (by simpa using ended_unlines ls) h
  · rw [splitOn_unlines_append hls hlast,lines_unlines_append hls hlast hne]

theorem lines_oneLine (text : List Char) : ∀ l ∈ lines text, '\n' ∉ l := by
  intro l hl
  refine splitOn_pieces '\n' text l ?_
  rw [lines] at hl
  split at hl
  · exact List.dropLast_subset _ hl
  · exact hl

/-- Of joined lines an empty last one is lost. -/
theorem lines_intercalate (h : ∀ l ∈ ls, '\n' ∉ l) :
    lines (['\n'].intercalate ls) = if ls.getLast? = some [] then ls.dropLast else ls := by
  by_cases hne : ls = []
  · subst hne
    rfl
  · rw [lines,List.splitOn_intercalate _ h hne]

end Ends

section Pieces
open String

theorem splitOnAux_char (c : Char) (r l m : List Char) (acc : List String) :
    splitOnAux (ofList (l ++ m ++ r)) (ofList [c]) ⟨utf8Len l⟩ ⟨utf8Len (l ++ m)⟩ 0 acc =
      acc.reverse ++ (List.splitOnPPrepend (· == c) r m.reverse).map ofList := by
  induction r generalizing l m acc with
  | nil =>
    rw [splitOnAux,if_pos ((atEnd_of_valid (l ++ m) []).mpr rfl)]
    have hpiece := extract_of_valid l m []
    rw [← utf8Len_append] at hpiece
    rw [hpiece]
    simp
  | cons d r ih =>
    have hend : ¬Pos.Raw.atEnd (ofList (l ++ m ++ d :: r)) ⟨utf8Len (l ++ m)⟩ = true := by
      rw [atEnd_of_valid]
      exact List.cons_ne_nil d r
    have hget : Pos.Raw.get (ofList (l ++ m ++ d :: r)) ⟨utf8Len (l ++ m)⟩ = d :=
      get_of_valid (l ++ m) (d :: r)
    have hsep : Pos.Raw.get (ofList [c]) 0 = c := get_of_valid [] [c]
    have hnext : Pos.Raw.next (ofList (l ++ m ++ d :: r)) ⟨utf8Len (l ++ m)⟩ =
        ⟨utf8Len (l ++ m) + d.utf8Size⟩ := next_of_valid (l ++ m) d r
    have hsepNext : Pos.Raw.next (ofList [c]) 0 = ⟨c.utf8Size⟩ := by
      have := next_of_valid [] c []
      simpa using this
    rw [splitOnAux,if_neg hend,hget,hsep]
    by_cases hdc : d = c
    · subst hdc
      have hsepEnd : Pos.Raw.atEnd (ofList [d]) ⟨d.utf8Size⟩ = true := by
        have := (atEnd_of_valid [d] []).mpr rfl
        simpa using this
      have hback : Pos.Raw.unoffsetBy ⟨utf8Len (l ++ m) + d.utf8Size⟩ ⟨d.utf8Size⟩ =
          ⟨utf8Len (l ++ m)⟩ := by simp [Pos.Raw.unoffsetBy]
      have hpiece := extract_of_valid l m (d :: r)
      rw [← utf8Len_append] at hpiece
      have hrest := ih (l ++ m ++ [d]) [] (ofList m :: acc)
      have hlen : utf8Len (l ++ m) + d.utf8Size = utf8Len (l ++ m ++ [d]) := by
        rw [utf8Len_append (l ++ m),utf8Len_cons,utf8Len_nil,Nat.zero_add]
      rw [if_pos (beq_self_eq_true d)]
      simp only [hnext,hsepNext,if_pos hsepEnd,hback,hpiece]
      rw [hlen]
      rw [List.append_nil,List.append_assoc (l ++ m) [d] r,List.singleton_append] at hrest
      rw [hrest,List.splitOnPPrepend_cons_pos (p := (· == d)) (beq_self_eq_true d)]
      simp
    · have hback : Pos.Raw.unoffsetBy ⟨utf8Len (l ++ m)⟩ 0 = ⟨utf8Len (l ++ m)⟩ := by
        simp [Pos.Raw.unoffsetBy]
      have hrest := ih l (m ++ [d]) acc
      have hlen : utf8Len (l ++ m) + d.utf8Size = utf8Len (l ++ (m ++ [d])) := by simp [Nat.add_assoc]
      have hne : (d == c) = false := beq_false_of_ne hdc
      rw [if_neg (by simp [hdc]),hback,hnext,hlen,List.splitOnPPrepend_cons_neg (p := (· == c)) hne]
      simpa using hrest

/-- Splitting at a text of one character. -/
theorem splitOn_char (c : Char) (s : String) :
    s.splitOn (ofList [c]) = (s.toList.splitOn c).map ofList := by
  have haux := splitOnAux_char c s.toList [] [] []
  simp only [List.nil_append,ofList_toList] at haux
  rw [splitOn,if_neg (by simp)]
  exact haux

variable {sep : Char} {piece : List Char} {pieces : List (List Char)}

/-- A piece without the separator is a piece of what is joined, whatever the others are. -/
theorem mem_splitOn_intercalate (hpiece : sep ∉ piece) (hmem : piece ∈ pieces) :
    piece ∈ ([sep].intercalate pieces).splitOn sep := by
  induction pieces with
  | nil => cases hmem
  | cons first rest ih =>
    cases rest with
    | nil =>
      obtain rfl := List.mem_singleton.mp hmem
      rw [List.intercalate_singleton,List.splitOn_eq_singleton hpiece]
      exact List.mem_singleton_self _
    | cons second rest =>
      rw [List.intercalate_cons_cons,List.append_assoc,List.singleton_append,
        List.splitOn_append_cons_self,List.mem_append]
      rcases List.mem_cons.mp hmem with rfl | hmem
      · left
        rw [List.splitOn_eq_singleton hpiece]
        exact List.mem_singleton_self _
      · exact .inr (ih hmem)

end Pieces

section Settings

/-- The settings of a file with one on a line, `key=value`. -/
def keyValues (text : List Char) : List (List Char × List Char) :=
  (text.splitOn '\n').filterMap (splitFirst '=')

def valuesOf (key : List Char) (settings : List (List Char × List Char)) : List (List Char) :=
  (settings.filter fun setting => setting.1 = key).map Prod.snd

inductive FileLine where
  | plain (text : List Char)
  | setting (key value : List Char)

def FileLine.chars : FileLine → List Char
  | .plain text => text
  | .setting key value => key ++ '=' :: value

def FileLine.pair? : FileLine → Option (List Char × List Char)
  | .plain _ => none
  | .setting key value => some (key,value)

/-- A line that is read as what it is. -/
def FileLine.Proper : FileLine → Prop
  | .plain text => '\n' ∉ text ∧ '=' ∉ text
  | .setting key value => '\n' ∉ key ∧ '=' ∉ key ∧ '\n' ∉ value

theorem FileLine.Proper.oneLine {l : FileLine} (h : l.Proper) : '\n' ∉ l.chars := by
  cases l with
  | plain text => exact h.1
  | setting key value =>
    obtain ⟨hkey,_,hvalue⟩ := h
    simp [FileLine.chars,hkey,hvalue]

theorem FileLine.Proper.splitFirst_chars {l : FileLine} (h : l.Proper) :
    splitFirst '=' l.chars = l.pair? := by
  cases l with
  | plain text => exact splitFirst_eq_none.mpr h.2
  | setting key value => exact splitFirst_append value h.2.1

/-- The settings of a file, read back from its text. -/
theorem keyValues_file {file : List FileLine} (h : ∀ l ∈ file, l.Proper) :
    keyValues (unlines (file.map FileLine.chars)) = file.filterMap FileLine.pair? := by
  have hlines : ∀ l ∈ file.map FileLine.chars, '\n' ∉ l := by
    intro l hl
    obtain ⟨line,hline,rfl⟩ := List.mem_map.mp hl
    exact (h line hline).oneLine
  rw [keyValues,splitOn_unlines hlines,List.filterMap_append,List.filterMap_map]
  have hrest : [([] : List Char)].filterMap (splitFirst '=') = [] := rfl
  rw [hrest,List.append_nil]
  exact List.filterMap_congr fun l hl => (h l hl).splitFirst_chars

end Settings

end Lines
