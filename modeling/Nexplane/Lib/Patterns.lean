import Mathlib.Data.List.Basic
import Mathlib.Data.List.Infix
import Mathlib.Order.Basic

set_option autoImplicit false

/-! Regular expressions that are texts and repeated classes in a row, matched in the order of a
backtracking matcher. -/

namespace Patterns

/-- The end is also before a line feed that ends the text. -/
inductive Item where
  | text (t : List Char)
  | many (least : Nat) (greedy : Bool) (p : Char → Bool)
  | ending

/-- The items with the group that each is in, zero for none. -/
abbrev Pattern : Type := List (Nat × Item)

/-- What the items of a match have taken, and what is left. -/
abbrev Match : Type := List (Nat × List Char) × List Char

/-- The runs of a class at the start of a text, the longest first. -/
def spans (p : Char → Bool) : List Char → List (List Char × List Char)
  | [] => [([],[])]
  | c :: cs =>
    if p c then ((spans p cs).map fun s => (c :: s.1,s.2)) ++ [([],c :: cs)] else [([],c :: cs)]

def choices (least : Nat) (greedy : Bool) (p : Char → Bool) (cs : List Char) :
    List (List Char × List Char) :=
  let long := (spans p cs).filter fun s => least ≤ s.1.length
  if greedy then long else long.reverse

def taken (group : Nat) (t : List Char) (m : Match) : Match := ((group,t) :: m.1,m.2)

/-- The first match at the start of the text. -/
def matchAt : Pattern → List Char → Option Match
  | [],cs => some ([],cs)
  | (g,.text t) :: rest,cs => (cs.dropPrefix? t).bind fun after => (matchAt rest after).map (taken g t)
  | (g,.many least greedy p) :: rest,cs =>
    (choices least greedy p cs).findSome? fun s => (matchAt rest s.2).map (taken g s.1)
  | (_,.ending) :: rest,cs => if cs = [] ∨ cs = ['\n'] then matchAt rest cs else none

/-- The match that starts first. -/
def search (r : Pattern) (cs : List Char) : Option Match := cs.tails.findSome? (matchAt r)

def group (n : Nat) (m : Match) : List Char := (m.1.filter fun piece => piece.1 = n).flatMap Prod.snd

@[simp] theorem group_nil (n : Nat) (after : List Char) : group n ([],after) = [] := rfl

theorem group_taken (n g : Nat) (t : List Char) (m : Match) :
    group n (taken g t m) = (if g = n then t else []) ++ group n m := by
  by_cases hg : g = n
  · simp [group,taken,hg]
  · simp [group,taken,hg]

section Spans

variable {p : Char → Bool} {cs l r : List Char} {s : List Char × List Char}

theorem mem_spans : s ∈ spans p cs ↔ s.1 ++ s.2 = cs ∧ ∀ c ∈ s.1, p c = true := by
  induction cs generalizing s with
  | nil =>
    obtain ⟨l,r⟩ := s
    simp only [spans,List.mem_singleton,Prod.mk.injEq,List.append_eq_nil_iff]
    constructor
    · rintro ⟨rfl,rfl⟩
      simp
    · exact fun h => h.1
  | cons c cs ih =>
    obtain ⟨l,r⟩ := s
    rw [spans]
    split
    · next hc =>
      simp only [List.mem_append,List.mem_map,List.mem_singleton,Prod.mk.injEq]
      constructor
      · rintro (⟨s,hs,rfl,rfl⟩ | ⟨rfl,rfl⟩)
        · obtain ⟨happend,hall⟩ := ih.mp hs
          simpa [happend,hc] using hall
        · simp
      · rintro ⟨happend,hall⟩
        cases l with
        | nil => exact .inr ⟨rfl,happend⟩
        | cons d l =>
          obtain ⟨rfl,hrest⟩ := List.cons.inj happend
          exact .inl ⟨(l,r),ih.mpr ⟨hrest,fun x hx => hall x (List.mem_cons_of_mem _ hx)⟩,rfl,rfl⟩
    · next hc =>
      simp only [List.mem_singleton,Prod.mk.injEq]
      constructor
      · rintro ⟨rfl,rfl⟩
        simp
      · rintro ⟨happend,hall⟩
        cases l with
        | nil => exact ⟨rfl,happend⟩
        | cons d l =>
          obtain ⟨rfl,_⟩ := List.cons.inj happend
          exact absurd (hall d List.mem_cons_self) hc

theorem spans_sorted (p : Char → Bool) (cs : List Char) :
    (spans p cs).Pairwise fun s t => t.1.length < s.1.length := by
  induction cs with
  | nil => simp [spans]
  | cons c cs ih =>
    rw [spans]
    split
    · refine List.pairwise_append.mpr ⟨List.pairwise_map.mpr (ih.imp ?_),by simp,?_⟩
      · intro s t hst
        simpa using hst
      · intro s hs t ht
        obtain ⟨s',_,rfl⟩ := List.mem_map.mp hs
        simp [List.mem_singleton.mp ht]
    · simp

theorem mem_choices {least : Nat} {greedy : Bool} : s ∈ choices least greedy p cs ↔
    s.1 ++ s.2 = cs ∧ (∀ c ∈ s.1, p c = true) ∧ least ≤ s.1.length := by
  rw [choices]
  split
  · simp [List.mem_filter,mem_spans,and_assoc]
  · simp [List.mem_filter,mem_spans,and_assoc]

theorem choices_greedy (least : Nat) (p : Char → Bool) (cs : List Char) :
    (choices least true p cs).Pairwise fun s t => t.1.length < s.1.length :=
  (spans_sorted p cs).filter _

theorem choices_lazy (least : Nat) (p : Char → Bool) (cs : List Char) :
    (choices least false p cs).Pairwise fun s t => s.1.length < t.1.length :=
  List.pairwise_reverse.mpr ((spans_sorted p cs).filter _)

end Spans

theorem span_unique {p : Char → Bool} {c : Char} {l m x y : List Char} (hl : ∀ d ∈ l, p d = true)
    (hm : ∀ d ∈ m, p d = true) (hc : p c = false) (h : l ++ c :: x = m ++ c :: y) : l = m := by
  have hdrop : ∀ {l x : List Char}, (∀ d ∈ l, p d = true) → (l ++ c :: x).takeWhile p = l := by
    intro l x hl
    rw [List.takeWhile_append_of_pos hl,List.takeWhile_cons_of_neg (by simp [hc]),List.append_nil]
  rw [← hdrop hl,h,hdrop hm]

/-- A run up to where the class ends is the only one. -/
theorem run_unique {p : Char → Bool} {l m x y : List Char} (hl : ∀ d ∈ l, p d = true)
    (hm : ∀ d ∈ m, p d = true) (hx : ∀ c ∈ x.head?, p c = false) (hy : ∀ c ∈ y.head?, p c = false)
    (h : l ++ x = m ++ y) : l = m ∧ x = y := by
  have hrun : ∀ {l x : List Char}, (∀ d ∈ l, p d = true) → (∀ c ∈ x.head?, p c = false) →
      (l ++ x).takeWhile p = l := by
    intro l x hl hx
    rw [List.takeWhile_append_of_pos hl]
    cases x with
    | nil => simp
    | cons c x => rw [List.takeWhile_cons_of_neg (by simpa using hx c),List.append_nil]
  have hsame : l = m := by rw [← hrun hl hx,h,hrun hm hy]
  exact ⟨hsame,List.append_cancel_left (hsame ▸ h)⟩

section Matching

variable {r : Pattern} {g least : Nat} {greedy : Bool} {p : Char → Bool} {cs t before after : List Char}
  {m : Match}

theorem matchAt_text (g : Nat) (t after : List Char) (r : Pattern) :
    matchAt ((g,.text t) :: r) (t ++ after) = (matchAt r after).map (taken g t) := by
  rw [matchAt,List.dropPrefix?_append_of_beq _ (by simp)]
  rfl

theorem matchAt_text_none (h : ¬t <+: cs) : matchAt ((g,.text t) :: r) cs = none := by
  rw [matchAt]
  cases hdrop : cs.dropPrefix? t with
  | none => rfl
  | some after =>
    obtain ⟨pre,rfl,hpre⟩ := List.dropPrefix?_eq_some_iff.mp hdrop
    rw [beq_iff_eq.mp hpre] at h
    exact absurd (List.prefix_append t after) h

theorem matchAt_text_some (h : matchAt ((g,.text t) :: r) cs = some m) :
    ∃ after m', cs = t ++ after ∧ matchAt r after = some m' ∧ m = taken g t m' := by
  by_cases hprefix : t <+: cs
  · obtain ⟨after,rfl⟩ := hprefix
    rw [matchAt_text] at h
    obtain ⟨m',hm',rfl⟩ := Option.map_eq_some_iff.mp h
    exact ⟨after,m',rfl,hm',rfl⟩
  · rw [matchAt_text_none hprefix] at h
    cases h

/-- A run of the class with a match after it. -/
structure Takes (least : Nat) (p : Char → Bool) (r : Pattern) (cs before after : List Char) : Prop where
  split : before ++ after = cs
  all : ∀ c ∈ before, p c = true
  long : least ≤ before.length
  rest : (matchAt r after).isSome

theorem matchAt_many_none (h : ∀ before after, ¬Takes least p r cs before after) :
    matchAt ((g,.many least greedy p) :: r) cs = none := by
  rw [matchAt,List.findSome?_eq_none_iff]
  intro s hs
  obtain ⟨hsplit,hall,hlong⟩ := mem_choices.mp hs
  cases hrest : matchAt r s.2 with
  | none => rfl
  | some m => exact absurd ⟨hsplit,hall,hlong,by rw [hrest]; rfl⟩ (h s.1 s.2)

theorem matchAt_many_some (h : matchAt ((g,.many least greedy p) :: r) cs = some m) :
    ∃ before after m', Takes least p r cs before after ∧ matchAt r after = some m' ∧
      m = taken g before m' ∧ ∀ before' after', Takes least p r cs before' after' →
        if greedy then before'.length ≤ before.length else before.length ≤ before'.length := by
  rw [matchAt,List.findSome?_eq_some_iff] at h
  obtain ⟨earlier,s,later,hchoices,hs,hearlier⟩ := h
  obtain ⟨m',hm',rfl⟩ := Option.map_eq_some_iff.mp hs
  have hmem : s ∈ choices least greedy p cs := by simp [hchoices]
  obtain ⟨hsplit,hall,hlong⟩ := mem_choices.mp hmem
  refine ⟨s.1,s.2,m',⟨hsplit,hall,hlong,by rw [hm']; rfl⟩,hm',rfl,fun before' after' htakes => ?_⟩
  have hmem' : (before',after') ∈ choices least greedy p cs :=
    mem_choices.mpr ⟨htakes.split,htakes.all,htakes.long⟩
  rw [hchoices] at hmem'
  have hlate : (before',after') ∉ earlier := by
    intro hin
    have hnone := hearlier _ hin
    rw [Option.map_eq_none_iff] at hnone
    have hrest := htakes.rest
    rw [hnone] at hrest
    cases hrest
  rcases List.mem_append.mp hmem' with hin | hin
  · exact absurd hin hlate
  · rcases List.mem_cons.mp hin with heq | hin
    · rw [← heq]
      split <;> exact le_rfl
    · split
      · next hgreedy =>
        have hsorted := choices_greedy least p cs
        rw [hgreedy] at hchoices
        rw [hchoices] at hsorted
        exact Nat.le_of_lt ((List.pairwise_cons.mp (List.pairwise_append.mp hsorted).2.1).1 _ hin)
      · next hlazy =>
        have hsorted := choices_lazy least p cs
        rw [Bool.not_eq_true _ |>.mp hlazy] at hchoices
        rw [hchoices] at hsorted
        exact Nat.le_of_lt ((List.pairwise_cons.mp (List.pairwise_append.mp hsorted).2.1).1 _ hin)

theorem matchAt_many_isSome (g : Nat) (greedy : Bool) (h : Takes least p r cs before after) :
    (matchAt ((g,.many least greedy p) :: r) cs).isSome := by
  by_contra hnone
  rw [Option.not_isSome_iff_eq_none,matchAt,List.findSome?_eq_none_iff] at hnone
  have hmem : (before,after) ∈ choices least greedy p cs :=
    mem_choices.mpr ⟨h.split,h.all,h.long⟩
  have hafter := hnone _ hmem
  rw [Option.map_eq_none_iff] at hafter
  have hrest := h.rest
  rw [hafter] at hrest
  cases hrest

/-- When only one run has a match after it, that is the one. -/
theorem matchAt_many_unique (h : Takes least p r cs before after)
    (hunique : ∀ before' after', Takes least p r cs before' after' → before' = before) :
    matchAt ((g,.many least greedy p) :: r) cs = (matchAt r after).map (taken g before) := by
  obtain ⟨m,hm⟩ := Option.isSome_iff_exists.mp (matchAt_many_isSome g greedy h)
  obtain ⟨before',after',m',htakes,hm',rfl,_⟩ := matchAt_many_some hm
  obtain rfl := hunique _ _ htakes
  obtain rfl : after' = after := List.append_cancel_left (htakes.split.trans h.split.symm)
  rw [hm,hm']
  rfl

theorem search_start (h : matchAt r cs = some m) : search r cs = some m := by
  have htails : cs.tails = cs :: cs.tails.tail := by cases cs <;> rfl
  rw [search,htails,List.findSome?_cons,h]

theorem search_some (h : search r cs = some m) : ∃ s, matchAt r s = some m := by
  obtain ⟨s,_,hm⟩ := List.exists_of_findSome?_eq_some h
  exact ⟨s,hm⟩

theorem search_first (hbefore : ∀ s, s ≠ [] → s <:+ before → matchAt r (s ++ cs) = none) :
    search r (before ++ cs) = search r cs := by
  induction before with
  | nil => rfl
  | cons c before ih =>
    have hfirst := hbefore (c :: before) (by simp) (List.suffix_refl _)
    rw [search,List.cons_append,List.tails_cons,List.findSome?_cons,← List.cons_append,hfirst]
    exact ih fun s hs hsuffix => hbefore s hs (hsuffix.trans (List.suffix_cons c before))

/-- A run up to a character that is not of its class. -/
theorem matchAt_run {c : Char} {g' : Nat} (hall : ∀ d ∈ before, p d = true) (hc : p c = false)
    (hlong : least ≤ before.length) (greedy : Bool) (t after : List Char) (r : Pattern) :
    matchAt ((g,.many least greedy p) :: (g',.text (c :: t)) :: r) (before ++ (c :: t ++ after)) =
      ((matchAt r after).map (taken g' (c :: t))).map (taken g before) := by
  have hunique : ∀ before' after', Takes least p ((g',.text (c :: t)) :: r)
      (before ++ (c :: t ++ after)) before' after' → before' = before := by
    rintro before' after' ⟨hsplit,hall',_,hrest⟩
    obtain ⟨m,hm⟩ := Option.isSome_iff_exists.mp hrest
    obtain ⟨end_,_,rfl,_⟩ := matchAt_text_some hm
    exact span_unique hall' hall hc hsplit
  rw [← matchAt_text g' (c :: t) after r]
  cases hm : matchAt ((g',.text (c :: t)) :: r) (c :: t ++ after) with
  | some m =>
    rw [matchAt_many_unique ⟨rfl,hall,hlong,by rw [hm]; rfl⟩ hunique,hm]
  | none =>
    refine matchAt_many_none fun before' after' htakes => ?_
    obtain rfl := hunique _ _ htakes
    obtain rfl := List.append_cancel_left htakes.split
    have hrest := htakes.rest
    rw [hm] at hrest
    cases hrest

/-- A greedy run at the end goes up to where its class ends. -/
theorem matchAt_last (g : Nat) (hall : ∀ c ∈ before, p c = true) (hlong : least ≤ before.length)
    (hafter : ∀ c ∈ after.head?, p c = false) :
    matchAt [(g,.many least true p)] (before ++ after) = some ([(g,before)],after) := by
  have hrun : Takes least p [] (before ++ after) before after := ⟨rfl,hall,hlong,rfl⟩
  obtain ⟨m,hm⟩ := Option.isSome_iff_exists.mp (matchAt_many_isSome g true hrun)
  obtain ⟨before',after',m',htakes,hm',rfl,hlongest⟩ := matchAt_many_some hm
  obtain ⟨more,rfl⟩ : before <+: before' :=
    List.prefix_of_prefix_length_le (List.prefix_append _ _) ⟨after',htakes.split⟩ (hlongest _ _ hrun)
  have hsplit : more ++ after' = after := by
    have hwhole := htakes.split
    rw [List.append_assoc] at hwhole
    exact List.append_cancel_left hwhole
  obtain rfl : more = [] := by
    cases more with
    | nil => rfl
    | cons c more =>
      have hout := hafter c (by simp [← hsplit])
      rw [htakes.all c (by simp)] at hout
      cases hout
  obtain rfl := Option.some.inj hm'
  rw [hm,← hsplit,List.append_nil]
  rfl

theorem matchAt_all (g : Nat) (h : ∀ c ∈ cs, p c = true) :
    matchAt [(g,.many 0 true p)] cs = some ([(g,cs)],[]) := by
  have hlast : matchAt [(g,.many 0 true p)] (cs ++ []) = some ([(g,cs)],[]) :=
    matchAt_last g h (Nat.zero_le _) (by simp)
  rwa [List.append_nil] at hlast

end Matching

end Patterns
