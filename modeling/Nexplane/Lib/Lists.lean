import Mathlib.Data.List.Forall2
import Mathlib.Data.List.Perm.Basic

set_option autoImplicit false

/-! Lists of records of which one is replaced, lists cut into slices, and lists related item by
item. -/

namespace Lists

variable {α : Type} {l : List α} {i j : Nat} {a b c : α}

theorem getElem?_set_cases (h : (l.set i b)[j]? = some c) :
    (j = i ∧ c = b) ∨ (j ≠ i ∧ l[j]? = some c) := by
  by_cases hj : j = i
  · subst hj
    have hlt : j < l.length := by
      have := (List.getElem?_eq_some_iff.mp h).1
      rwa [List.length_set] at this
    rw [List.getElem?_set_self hlt] at h
    exact Or.inl ⟨rfl,(Option.some.inj h).symm⟩
  · rw [List.getElem?_set_ne (Ne.symm hj)] at h
    exact Or.inr ⟨hj,h⟩

theorem mem_set_cases (h : c ∈ l.set i b) : c = b ∨ c ∈ l := (List.mem_or_eq_of_mem_set h).symm

theorem getElem?_append_singleton_cases (h : (l ++ [a])[j]? = some c) :
    (j = l.length ∧ c = a) ∨ l[j]? = some c := by
  by_cases hlt : j < l.length
  · rw [List.getElem?_append_left hlt] at h
    exact Or.inr h
  · have hj : j = l.length := by
      have := (List.getElem?_eq_some_iff.mp h).1
      simp at this
      omega
    subst hj
    simp at h
    exact Or.inl ⟨rfl,h.symm⟩

/-- A member beside the others. -/
theorem perm_cons_eraseIdx (h : l[i]? = some a) : l.Perm (a :: l.eraseIdx i) := by
  obtain ⟨hi,rfl⟩ := List.getElem?_eq_some_iff.mp h
  exact (List.getElem_cons_eraseIdx_perm hi).symm

theorem set_perm_cons_eraseIdx (h : l[i]? = some a) (b : α) :
    (l.set i b).Perm (b :: l.eraseIdx i) :=
  List.set_perm_cons_eraseIdx (List.getElem?_eq_some_iff.mp h).1 b

theorem mem_of_lookup {β : Type} [BEq α] [LawfulBEq α] {d : List (α × β)} {v : β}
    (h : d.lookup a = some v) : (a,v) ∈ d := by
  induction d with
  | nil => cases h
  | cons entry d ih =>
    rw [List.lookup_cons] at h
    split at h
    · next ha =>
      obtain rfl := Option.some.inj h
      obtain rfl := eq_of_beq ha
      exact List.mem_cons_self
    · exact List.mem_cons_of_mem _ (ih h)

theorem lookup_eq_some_iff {β : Type} [BEq α] [LawfulBEq α] {d : List (α × β)} {v : β}
    (hkeys : (d.map Prod.fst).Nodup) : d.lookup a = some v ↔ (a,v) ∈ d := by
  refine ⟨mem_of_lookup,fun h => ?_⟩
  induction d with
  | nil => cases h
  | cons entry d ih =>
    obtain ⟨hnew,hkeys⟩ := List.nodup_cons.mp hkeys
    rcases List.mem_cons.mp h with rfl | h
    · exact List.lookup_cons_self
    · have hne : a ≠ entry.1 := by
        rintro rfl
        exact hnew (List.mem_map.mpr ⟨_,h,rfl⟩)
      rw [List.lookup_cons,beq_false_of_ne hne]
      exact ih hkeys h

theorem filter_key_eq {β : Type} [DecidableEq α] {d : List (α × β)} {v : β}
    (hkeys : (d.map Prod.fst).Nodup) (h : (a,v) ∈ d) :
    (d.filter fun entry => entry.1 = a) = [(a,v)] := by
  induction d with
  | nil => cases h
  | cons entry d ih =>
    obtain ⟨hnew,hkeys⟩ := List.nodup_cons.mp hkeys
    rcases List.mem_cons.mp h with rfl | h
    · have hrest : (d.filter fun entry => entry.1 = a) = [] := by
        simp only [List.filter_eq_nil_iff,decide_eq_true_eq]
        rintro other hother rfl
        exact hnew (List.mem_map.mpr ⟨other,hother,rfl⟩)
      simp [hrest]
    · have hne : entry.1 ≠ a := by
        rintro rfl
        exact hnew (List.mem_map.mpr ⟨_,h,rfl⟩)
      simp [hne,ih hkeys h]

/-- Replacing a member moves the count by what the two members count for. -/
theorem countP_set_add (p : α → Bool) (b : α) (h : l[i]? = some a) :
    (l.set i b).countP p + (p a).toNat = l.countP p + (p b).toNat := by
  obtain ⟨hi,rfl⟩ := List.getElem?_eq_some_iff.mp h
  have hpos : p l[i] = true → 0 < l.countP p := fun hp =>
    List.countP_pos_iff.mpr ⟨_,List.getElem_mem hi,hp⟩
  rw [List.countP_set hi]
  cases ha : p l[i] with
  | false => cases p b <;> simp
  | true =>
    have hlt := hpos ha
    cases p b <;> simp <;> omega

/-- `range(0, n, step)`. -/
def stepped (n step : Nat) : List Nat := (List.range ((n + step - 1) / step)).map (· * step)

theorem flatten_slices (l : List α) (size k : Nat) :
    ((List.range k).map fun i => (l.drop (i * size)).take size).flatten = l.take (k * size) := by
  induction k with
  | zero => simp
  | succ k ih =>
    rw [List.range_succ,List.map_append,List.flatten_append,ih,Nat.succ_mul,List.take_add]
    simp

/-- The slices of a list partition it in its order. -/
theorem flatten_stepped (l : List α) {size : Nat} (hsize : 0 < size) :
    ((stepped l.length size).map fun i => (l.drop i).take size).flatten = l := by
  have hlength : l.length ≤ (l.length + size - 1) / size * size := by
    have := Nat.div_add_mod (l.length + size - 1) size
    have := Nat.mod_lt (l.length + size - 1) hsize
    rw [Nat.mul_comm]
    omega
  rw [stepped,List.map_map]
  exact (flatten_slices l size _).trans (List.take_of_length_le hlength)

section Related

variable {β : Type} {R : α → β → Prop} {as : List α} {bs : List β}

theorem forall₂_mem_right (h : List.Forall₂ R as bs) : ∀ b ∈ bs, ∃ a ∈ as, R a b := by
  induction h with
  | nil => simp
  | cons hab _ ih =>
    intro b hb
    rcases List.mem_cons.mp hb with rfl | hb
    · exact ⟨_,List.mem_cons_self,hab⟩
    · obtain ⟨a,ha,hr⟩ := ih b hb
      exact ⟨a,List.mem_cons_of_mem _ ha,hr⟩

theorem forall₂_mem_left (h : List.Forall₂ R as bs) : ∀ a ∈ as, ∃ b ∈ bs, R a b :=
  forall₂_mem_right h.flip

theorem forall₂_getElem? (h : List.Forall₂ R as bs) {i : Nat} {a : α} (ha : as[i]? = some a) :
    ∃ b, bs[i]? = some b ∧ R a b := by
  obtain ⟨hi,rfl⟩ := List.getElem?_eq_some_iff.mp ha
  exact ⟨bs.get ⟨i,h.length_eq ▸ hi⟩,List.getElem?_eq_getElem _,h.get hi (h.length_eq ▸ hi)⟩

theorem forall₂_both {S : α → β → Prop} (h : List.Forall₂ R as bs) (h' : List.Forall₂ S as bs) :
    List.Forall₂ (fun a b => R a b ∧ S a b) as bs := by
  induction h with
  | nil => exact .nil
  | cons hab _ ih =>
    obtain ⟨hs,hrest⟩ := List.forall₂_cons.mp h'
    exact .cons ⟨hab,hs⟩ (ih hrest)

/-- Lists related item by item are the two sides of a list of related pairs. -/
theorem forall₂_pairs (h : List.Forall₂ R as bs) :
    ∃ pairs : List (α × β), as = pairs.map Prod.fst ∧ bs = pairs.map Prod.snd ∧
      ∀ p ∈ pairs, R p.1 p.2 := by
  induction h with
  | nil => exact ⟨[],rfl,rfl,by simp⟩
  | @cons a b as bs hr _ ih =>
    obtain ⟨pairs,rfl,rfl,hpairs⟩ := ih
    exact ⟨(a,b) :: pairs,rfl,rfl,List.forall_mem_cons.mpr ⟨hr,hpairs⟩⟩

theorem forall₂_map_eq {γ : Type} {f : α → γ} {g : β → γ} (h : List.Forall₂ R as bs)
    (hfg : ∀ a b, R a b → g b = f a) : bs.map g = as.map f := by
  induction h with
  | nil => rfl
  | cons hab _ ih => rw [List.map_cons,List.map_cons,hfg _ _ hab,ih]

end Related

section First

/-- The first item that meets `p` is rewritten. -/
def updateFirst (p : α → Bool) (f : α → α) : List α → List α
  | [] => []
  | a :: l => if p a then f a :: l else a :: updateFirst p f l

variable {p : α → Bool} {f g : α → α} {l : List α} {a : α}

theorem updateFirst_undo (hfind : l.find? p = some a) (hp : p (f a) = true) (hg : g (f a) = a) :
    updateFirst p g (updateFirst p f l) = l := by
  induction l with
  | nil => rfl
  | cons b l ih =>
    rw [List.find?_cons] at hfind
    cases hb : p b with
    | true =>
      obtain rfl : b = a := by simpa [hb] using hfind
      simp [updateFirst,hb,hp,hg]
    | false =>
      rw [hb] at hfind
      simp [updateFirst,hb,ih hfind]

theorem updateFirst_eq_self_iff (hfind : l.find? p = some a) :
    updateFirst p f l = l ↔ f a = a := by
  induction l with
  | nil => cases hfind
  | cons b l ih =>
    rw [List.find?_cons] at hfind
    cases hb : p b with
    | true =>
      obtain rfl : b = a := by simpa [hb] using hfind
      simp [updateFirst,hb]
    | false =>
      rw [hb] at hfind
      simp [updateFirst,hb,ih hfind]

end First

end Lists
