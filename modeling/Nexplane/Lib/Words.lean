import Nexplane.Lib.Lines

set_option autoImplicit false

/-! The words of a text: the pieces between the characters of a class that are not empty. -/

namespace Words

def words (p : Char → Bool) (cs : List Char) : List (List Char) :=
  (cs.splitOnP p).filter (! ·.isEmpty)

/-- Not empty, and without the characters between words. -/
structure IsWord (p : Char → Bool) (w : List Char) : Prop where
  nonempty : w ≠ []
  all : ∀ c ∈ w, p c = false

variable {p : Char → Bool} {c : Char} {w cs : List Char}

@[simp] theorem words_nil : words p [] = [] := rfl

theorem words_gap (h : p c = true) (cs : List Char) : words p (c :: cs) = words p cs := by
  rw [words,List.splitOnP_cons_eq_if_modifyHead,if_pos h]
  rfl

theorem IsWord.words (h : IsWord p w) : Words.words p w = [w] := by
  have hne : w.isEmpty = false := by simpa using h.nonempty
  rw [Words.words,List.splitOnP_eq_singleton h.all]
  simp [hne]

/-- Words do not go over a character between words. -/
theorem words_append (hc : p c = true) (l r : List Char) : words p (l ++ c :: r) = words p l ++ words p r := by
  rw [words,List.splitOnP_append_cons _ _ hc,List.filter_append,words,words]

theorem words_append_gap (h : IsWord p w) (hc : p c = true) (cs : List Char) :
    words p (w ++ c :: cs) = w :: words p cs := by
  rw [words_append hc,h.words,List.singleton_append]

theorem splitOnP_pieces (p : Char → Bool) (cs : List Char) :
    ∀ piece ∈ cs.splitOnP p, piece.Sublist cs ∧ ∀ c ∈ piece, p c = false := by
  induction cs with
  | nil => simp
  | cons c cs ih =>
    rw [List.splitOnP_cons_eq_if_modifyHead]
    split
    · intro piece hpiece
      rcases List.mem_cons.mp hpiece with rfl | hpiece
      · exact ⟨List.nil_sublist _,by simp⟩
      · exact ⟨(ih piece hpiece).1.cons c,(ih piece hpiece).2⟩
    · next hc =>
      cases hcs : cs.splitOnP p with
      | nil => simp
      | cons first rest =>
        rw [hcs] at ih
        intro piece hpiece
        rcases List.mem_cons.mp hpiece with rfl | hpiece
        · obtain ⟨hsub,hall⟩ := ih first List.mem_cons_self
          exact ⟨hsub.cons_cons c,by simpa [hc] using hall⟩
        · obtain ⟨hsub,hall⟩ := ih piece (List.mem_cons_of_mem _ hpiece)
          exact ⟨hsub.cons c,hall⟩

theorem isWord_of_mem (h : w ∈ words p cs) : IsWord p w := by
  obtain ⟨hmem,hne⟩ := List.mem_filter.mp h
  exact ⟨by simpa using hne,(splitOnP_pieces p cs w hmem).2⟩

/-- Words with one separator between each two are read back. -/
theorem words_join (hc : p c = true) {ws : List (List Char)} (h : ∀ w ∈ ws, IsWord p w) :
    words p ([c].intercalate ws) = ws := by
  induction ws with
  | nil => rfl
  | cons w ws ih =>
    have hw := h w List.mem_cons_self
    cases ws with
    | nil => rw [List.intercalate_singleton,hw.words]
    | cons next rest =>
      rw [List.intercalate_cons_cons,List.append_assoc,List.singleton_append,
        words_append_gap hw hc,ih fun v hv => h v (List.mem_cons_of_mem _ hv)]

theorem mem_intercalate {ws : List (List Char)} {d : Char} (h : d ∈ [c].intercalate ws) :
    d = c ∨ ∃ w ∈ ws, d ∈ w := by
  induction ws with
  | nil => cases h
  | cons w ws ih =>
    cases ws with
    | nil => exact .inr ⟨w,List.mem_cons_self,by simpa using h⟩
    | cons next rest =>
      rw [List.intercalate_cons_cons,List.append_assoc,List.mem_append,List.singleton_append,
        List.mem_cons] at h
      rcases h with h | rfl | h
      · exact .inr ⟨w,List.mem_cons_self,h⟩
      · exact .inl rfl
      · rcases ih h with rfl | ⟨v,hv,hd⟩
        · exact .inl rfl
        · exact .inr ⟨v,List.mem_cons_of_mem _ hv,hd⟩

section Breaks

/-- The characters that end a line for `str.splitlines`. -/
def isLineBreak (c : Char) : Bool :=
  let n := c.toNat
  10 ≤ n && n ≤ 13 || 28 ≤ n && n ≤ 30 || [0x85,0x2028,0x2029].contains n

/-- A line feed after a carriage return ends no line of its own. -/
def breakLines (afterReturn : Bool) (line : List Char) : List Char → List (List Char)
  | [] => if line.isEmpty then [] else [line.reverse]
  | c :: cs =>
    if afterReturn && c = '\n' then breakLines false line cs
    else if isLineBreak c then line.reverse :: breakLines (c = '\r') [] cs
    else breakLines false (c :: line) cs

/-- `str.splitlines`. -/
def splitLines (cs : List Char) : List (List Char) := breakLines false [] cs

variable {l line last : List Char} {ls : List (List Char)}

theorem breakLines_append (h : ∀ c ∈ l, isLineBreak c = false) (cs : List Char) :
    breakLines false line (l ++ cs) = breakLines false (l.reverse ++ line) cs := by
  induction l generalizing line with
  | nil => rfl
  | cons d l ih =>
    rw [List.cons_append,breakLines,Bool.false_and,if_neg Bool.false_ne_true,
      h d List.mem_cons_self,if_neg Bool.false_ne_true,ih fun c hc => h c (List.mem_cons_of_mem _ hc)]
    simp

/-- Lines with one line feed between each two are read back, but for an empty last one. -/
theorem splitLines_join (h : ∀ l ∈ ls, ∀ c ∈ l, isLineBreak c = false)
    (hlast : ∀ c ∈ last, isLineBreak c = false) :
    splitLines (['\n'].intercalate (ls ++ [last])) = ls ++ if last.isEmpty then [] else [last] := by
  induction ls with
  | nil =>
    have hread : breakLines false [] (last ++ []) = _ := breakLines_append hlast []
    rw [List.append_nil] at hread
    rw [splitLines,List.nil_append,List.intercalate_singleton,hread,breakLines]
    simp
  | cons l ls ih =>
    have hbreak : isLineBreak '\n' = true := by decide
    obtain ⟨next,rest,hnext⟩ := List.exists_cons_of_ne_nil (by simp : ls ++ [last] ≠ [])
    rw [List.cons_append,hnext,List.intercalate_cons_cons,← hnext,List.append_assoc,splitLines,
      breakLines_append (h l List.mem_cons_self),List.singleton_append,breakLines,Bool.false_and,
      if_neg Bool.false_ne_true,if_pos hbreak]
    have hrest := ih fun l' hl' => h l' (List.mem_cons_of_mem _ hl')
    rw [splitLines] at hrest
    simpa using hrest

/-- `str.rstrip` of one character. -/
def rstripChar (c : Char) (cs : List Char) : List Char := (cs.reverse.dropWhile (· = c)).reverse

theorem rstripChar_append {c : Char} {cs : List Char} (h : cs.getLast? ≠ some c) :
    rstripChar c (cs ++ [c]) = cs := by
  rw [rstripChar,List.reverse_append,List.reverse_singleton,List.singleton_append,
    List.dropWhile_cons_of_pos (by simp)]
  cases hcs : cs.reverse with
  | nil => simpa using hcs
  | cons d ds =>
    have hd : d ≠ c := by
      rintro rfl
      refine h ?_
      rw [List.getLast?_eq_head?_reverse,hcs]
      rfl
    rw [List.dropWhile_cons_of_neg (by simpa using hd),← hcs,List.reverse_reverse]

end Breaks

section Spaced
open Text

variable {cs l r : List Char}

/-- All blanks in it are spaces. -/
def Spaced (cs : List Char) : Prop := ∀ c ∈ cs, isSpace c = true → c = ' '

theorem Spaced.oneLine (h : Spaced cs) : '\n' ∉ cs := by
  intro hin
  have := h _ hin (by decide)
  revert this
  decide

theorem spaced_word (h : IsWord isSpace cs) : Spaced cs := by
  intro c hc hspace
  rw [h.all c hc] at hspace
  cases hspace

theorem spaced_append : Spaced (l ++ r) ↔ Spaced l ∧ Spaced r := by
  simp [Spaced,or_imp,forall_and]

theorem spaced_const {text : String} (h : (text.toList.all fun c => !isSpace c || c = ' ') = true) :
    Spaced text.toList := by
  intro c hc hspace
  have hc := List.all_eq_true.mp h c hc
  rw [hspace] at hc
  simpa using hc

theorem lineBreak_space (h : isLineBreak c = true) : isSpace c = true ∧ c ≠ ' ' := by
  constructor
  · simp only [isLineBreak,isSpace,Bool.or_eq_true,Bool.and_eq_true,decide_eq_true_eq,
      List.contains_iff_mem,List.mem_cons,List.not_mem_nil,or_false] at h ⊢
    omega
  · rintro rfl
    revert h
    decide

theorem Spaced.noBreak (h : Spaced cs) : ∀ c ∈ cs, isLineBreak c = false := by
  intro c hc
  by_contra hbreak
  obtain ⟨hspace,hne⟩ := lineBreak_space (Bool.not_eq_false _ |>.mp hbreak)
  exact hne (h c hc hspace)

end Spaced

end Words
