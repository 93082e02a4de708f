import Mathlib.Data.List.Sort

set_option autoImplicit false

/-! Sorting by a key, the greatest key first. The sort is stable: where two keys are equal the list
keeps its order. -/

namespace Sorting

variable {α κ : Type} [LinearOrder κ]

/-- `sorted(l, key=key, reverse=True)`. -/
def sortedReverse (key : α → κ) (l : List α) : List α :=
  l.insertionSort fun a b => key b ≤ key a

variable {key : α → κ} {l : List α} {a b : α}

theorem sortedReverse_perm (key : α → κ) (l : List α) : (sortedReverse key l).Perm l :=
  List.perm_insertionSort _ l

theorem mem_sortedReverse : a ∈ sortedReverse key l ↔ a ∈ l := List.mem_insertionSort _

theorem sortedReverse_pairwise (key : α → κ) (l : List α) :
    (sortedReverse key l).Pairwise fun a b => key b ≤ key a := by
  have htotal : Std.Total fun a b : α => key b ≤ key a := ⟨fun a b => le_total (key b) (key a)⟩
  have htrans : IsTrans α fun a b => key b ≤ key a := ⟨fun _ _ _ hab hbc => hbc.trans hab⟩
  exact List.pairwise_insertionSort _ l

theorem key_le_of_sublist (h : [a,b].Sublist (sortedReverse key l)) : key b ≤ key a := by
  have hsorted := (sortedReverse_pairwise key l).sublist h
  simpa using hsorted

/-- The elements of one key stand in their old order. -/
theorem filter_sortedReverse (key : α → κ) (l : List α) (k : κ) :
    (sortedReverse key l).filter (fun a => key a = k) = l.filter fun a => key a = k := by
  have hequal : (l.filter fun a => key a = k).Pairwise fun a b => key b ≤ key a := by
    refine List.pairwise_iff_forall_sublist.mpr fun {a b} hab => ?_
    have ha := hab.subset List.mem_cons_self
    have hb := hab.subset (List.mem_cons_of_mem _ List.mem_cons_self)
    have hka : key a = k := by simpa using (List.mem_filter.mp ha).2
    have hkb : key b = k := by simpa using (List.mem_filter.mp hb).2
    exact (hkb.trans hka.symm).le
  have hsub : (l.filter fun a => key a = k).Sublist (sortedReverse key l) :=
    List.sublist_insertionSort hequal List.filter_sublist
  have hkept := hsub.filter fun a => key a = k
  rw [List.filter_filter] at hkept
  simp only [Bool.and_self] at hkept
  exact (hkept.eq_of_length ((sortedReverse_perm key l).filter _).length_eq.symm).symm

theorem pair_sublist_or (ha : a ∈ l) (hb : b ∈ l) (hne : a ≠ b) :
    [a,b].Sublist l ∨ [b,a].Sublist l := by
  obtain ⟨before,after,rfl⟩ := List.append_of_mem ha
  rcases List.mem_append.mp hb with hb | hb
  · right
    exact (List.singleton_sublist.mpr hb).append (List.singleton_sublist.mpr List.mem_cons_self)
  · left
    have hafter : b ∈ after := by simpa [hne.symm] using hb
    exact ((List.singleton_sublist.mpr hafter).cons_cons a).trans (List.sublist_append_right _ _)

/-- When an occurrence of `a` comes before one of `b`: its key is greater, or equal and it did so
before. -/
theorem pair_sublist_iff (ha : a ∈ l) (hb : b ∈ l) (hne : a ≠ b) :
    [a,b].Sublist (sortedReverse key l) ↔
      key b < key a ∨ key b = key a ∧ [a,b].Sublist l := by
  constructor
  · intro h
    rcases (key_le_of_sublist h).lt_or_eq with hlt | heq
    · exact Or.inl hlt
    · refine Or.inr ⟨heq,?_⟩
      have hfilter := h.filter fun c => key c = key a
      rw [filter_sortedReverse] at hfilter
      have hboth : [a,b].filter (fun c => key c = key a) = [a,b] := by simp [heq]
      rw [hboth] at hfilter
      exact hfilter.trans List.filter_sublist
  · intro h
    rcases h with hlt | ⟨heq,hsub⟩
    · have hboth := pair_sublist_or (mem_sortedReverse.mpr ha : a ∈ sortedReverse key l)
        (mem_sortedReverse.mpr hb) hne
      rcases hboth with hab | hba
      · exact hab
      · exact absurd (key_le_of_sublist hba) (not_le.mpr hlt)
    · exact List.pair_sublist_insertionSort heq.le hsub

section Arrangements

variable {β : Type} {S : α → α → Prop} {l₁ l₂ : List α} {c : β}

/-- Two arrangements of the same elements agree up to `f` if it tells two elements apart only where
one of them has to come before the other. -/
theorem map_eq_of_pairwise_perm (f : α → β) (hp : l₁.Perm l₂) (h₁ : l₁.Pairwise S)
    (h₂ : l₂.Pairwise S) (hS : ∀ a ∈ l₁, ∀ b ∈ l₁, S a b → S b a → f a = f b) :
    l₁.map f = l₂.map f := by
  induction l₁ generalizing l₂ with
  | nil => rw [hp.nil_eq]
  | cons a l ih =>
    obtain ⟨before,after,rfl⟩ := List.append_of_mem (hp.subset List.mem_cons_self)
    have hrest : l.Perm (before ++ after) := (hp.trans List.perm_middle).cons_inv
    obtain ⟨ha,hl⟩ := List.pairwise_cons.mp h₁
    have hbefore : ∀ b ∈ before, f b = f a := by
      intro b hb
      have hmem : b ∈ l := hrest.symm.subset (List.mem_append_left _ hb)
      refine hS b (List.mem_cons_of_mem _ hmem) a List.mem_cons_self ?_ (ha b hmem)
      exact (List.pairwise_append.mp h₂).2.2 b hb a List.mem_cons_self
    have htail := ih hrest hl (h₂.sublist (List.Sublist.append_left (List.sublist_cons_self _ _) _))
      fun x hx y hy => hS x (List.mem_cons_of_mem _ hx) y (List.mem_cons_of_mem _ hy)
    have hsame : before.map f = List.replicate before.length (f a) :=
      List.eq_replicate_iff.mpr ⟨List.length_map _,by simpa using hbefore⟩
    rw [List.map_cons,htail,List.map_append,List.map_append,List.map_cons,hsame,
      ← List.cons_append,← List.replicate_succ,List.replicate_succ',List.append_assoc]
    rfl

end Arrangements

/-- Sorting in ascending order of a key. -/
theorem pairwise_insertionSort_key (key : α → κ) (l : List α) :
    (l.insertionSort fun a b => key a ≤ key b).Pairwise fun a b => key a ≤ key b := by
  have htotal : Std.Total fun a b : α => key a ≤ key b := ⟨fun a b => le_total (key a) (key b)⟩
  have htrans : IsTrans α fun a b => key a ≤ key b := ⟨fun _ _ _ hab hbc => hab.trans hbc⟩
  exact List.pairwise_insertionSort _ l

section Moves

variable {β : Type} {f : α → β} {c : β} {x e e' : α}

theorem insert_before_ne (hxe : key x ≤ key e) (hne : f x ≠ c) (l : List α) :
    ((l.orderedInsert (fun a b => key a ≤ key b) e).orderedInsert
      (fun a b => key a ≤ key b) x).map f ≠
        c :: (l.orderedInsert (fun a b => key a ≤ key b) x).map f := by
  induction l with
  | nil => simp [hxe,hne]
  | cons y l ih =>
    intro h
    by_cases hxy : key x ≤ key y
    · -- Whatever stands first after `e` is inserted, `x` goes before it.
      have hhead : ∃ rest, ((y :: l).orderedInsert (fun a b => key a ≤ key b) e).orderedInsert
          (fun a b => key a ≤ key b) x = x :: rest := by
        rw [List.orderedInsert_cons]
        split
        · exact ⟨_,List.orderedInsert_cons_of_le _ _ hxe⟩
        · exact ⟨_,List.orderedInsert_cons_of_le _ _ hxy⟩
      obtain ⟨rest,hrest⟩ := hhead
      rw [hrest] at h
      exact hne (List.cons.inj h).1
    · have hey : ¬key e ≤ key y := fun hey => hxy (hxe.trans hey)
      simp only [List.orderedInsert_cons,if_neg hey,if_neg hxy,List.map_cons] at h
      obtain ⟨hy,hrest⟩ := List.cons.inj h
      rw [hy] at hrest
      exact ih hrest

/-- An element that moves from behind `x` to before it shows, if `f` tells it from `x`. -/
theorem insert_swapped_ne (hxe : key x ≤ key e) (hex : key e' ≤ key x) (hf : f e' = f e)
    (hne : f x ≠ f e) (l : List α) :
    ((x :: e :: l).insertionSort fun a b => key a ≤ key b).map f ≠
      ((e' :: x :: l).insertionSort fun a b => key a ≤ key b).map f := by
  simp only [List.insertionSort_cons]
  generalize l.insertionSort (fun a b => key a ≤ key b) = s
  induction s with
  | nil => simp [hxe,hex,hf,hne]
  | cons y s ih =>
    by_cases hey : key e' ≤ key y
    · have hright : ((y :: s).orderedInsert (fun a b => key a ≤ key b) x).orderedInsert
          (fun a b => key a ≤ key b) e' =
            e' :: (y :: s).orderedInsert (fun a b => key a ≤ key b) x := by
        rw [List.orderedInsert_cons]
        split
        · exact List.orderedInsert_cons_of_le _ _ hex
        · exact List.orderedInsert_cons_of_le _ _ hey
      rw [hright,List.map_cons,hf]
      exact insert_before_ne hxe hne _
    · have hxy : ¬key x ≤ key y := fun hxy => hey (hex.trans hxy)
      have hey' : ¬key e ≤ key y := fun hey' => hxy (hxe.trans hey')
      simp only [List.orderedInsert_cons,if_neg hey',if_neg hxy,if_neg hey,List.map_cons]
      exact fun h => ih (List.cons.inj h).2

end Moves

end Sorting
