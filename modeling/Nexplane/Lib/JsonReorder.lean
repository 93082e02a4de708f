import Nexplane.Lib.PyNumbers
import Nexplane.Lib.Lists
import Nexplane.Lib.Sorting
import Mathlib.Data.List.Sort
import Mathlib.Data.String.Basic

set_option autoImplicit false

/-! Equality of values as Python has it, a canonical form that decides it, and values that differ in
the order of their keys and elements only. -/

namespace PyValue

mutual

/-- `v == w`: numbers compare by their values, dictionaries without their order. -/
def Json.same : Json → Json → Bool
  | .null, .null => true
  | .str a, .str b => a == b
  | .arr xs, .arr ys => Json.sameItems xs ys
  | .obj xs, .obj ys => xs.length == ys.length && Json.sameFields xs ys
  | v, w =>
    match v.number, w.number with
    | some m, some n => m = n
    | _, _ => false

def Json.sameItems : List Json → List Json → Bool
  | [], [] => true
  | x :: xs, y :: ys => Json.same x y && Json.sameItems xs ys
  | _, _ => false

def Json.sameFields : Dict → Dict → Bool
  | [], _ => true
  | (k,v) :: xs, ys =>
    (match List.lookup k ys with
      | some w => Json.same v w
      | none => false) && Json.sameFields xs ys

end

/-- No dictionary in the value has a key twice. -/
inductive Json.Distinct : Json → Prop where
  | null : Distinct .null
  | bool (b : Bool) : Distinct (.bool b)
  | int (n : Int) : Distinct (.int n)
  | float (text : String) : Distinct (.float text)
  | str (s : String) : Distinct (.str s)
  | arr {items : List Json} (h : ∀ v ∈ items, Distinct v) : Distinct (.arr items)
  | obj {fields : Dict} (hk : (fields.map Prod.fst).Nodup) (h : ∀ kv ∈ fields, Distinct kv.2) :
    Distinct (.obj fields)

def Json.ofNumber : Int ⊕ String → Json
  | .inl n => .int n
  | .inr text => .float text

def sortFields (fields : Dict) : Dict := fields.insertionSort fun v w => v.1 ≤ w.1

mutual

/-- Keys in order, and one form for each number. -/
def Json.canon : Json → Json
  | .null => .null
  | .str s => .str s
  | .bool b => .int (if b then 1 else 0)
  | .int n => .int n
  | .float text => Json.ofNumber (floatNumber text)
  | .arr items => .arr (Json.canonItems items)
  | .obj fields => .obj (sortFields (Json.canonFields fields))

def Json.canonItems : List Json → List Json
  | [] => []
  | v :: vs => Json.canon v :: Json.canonItems vs

def Json.canonFields : Dict → Dict
  | [] => []
  | (k,v) :: fields => (k,Json.canon v) :: Json.canonFields fields

end

namespace Json

section Numbers

variable {m m' : Int ⊕ String}

@[simp] theorem ofNumber_inj : ofNumber m = ofNumber m' ↔ m = m' := by
  cases m <;> cases m' <;> simp [ofNumber]

@[simp] theorem ofNumber_eq_int {n : Int} : ofNumber m = .int n ↔ m = .inl n := by
  cases m <;> simp [ofNumber]

@[simp] theorem int_eq_ofNumber {n : Int} : .int n = ofNumber m ↔ .inl n = m := by
  cases m <;> simp [ofNumber]

/-- A number is neither of these. -/
theorem ofNumber_ne (m : Int ⊕ String) :
    ofNumber m ≠ .null ∧ (∀ s, ofNumber m ≠ .str s) ∧ (∀ vs, ofNumber m ≠ .arr vs) ∧
      ∀ d, ofNumber m ≠ .obj d := by
  cases m <;> simp [ofNumber]

end Numbers

section Fields

variable {fields fields' : Dict}

theorem canonItems_eq (items : List Json) : canonItems items = items.map canon := by
  induction items with
  | nil => rfl
  | cons v vs ih => rw [canonItems,ih,List.map_cons]

theorem canonFields_eq (fields : Dict) :
    canonFields fields = fields.map fun kv => (kv.1,canon kv.2) := by
  induction fields with
  | nil => rfl
  | cons kv fields ih => rw [canonFields,ih,List.map_cons]

theorem sameItems_iff {xs ys : List Json} :
    sameItems xs ys = true ↔ List.Forall₂ (fun v w => same v w = true) xs ys := by
  induction xs generalizing ys with
  | nil => cases ys <;> simp [sameItems]
  | cons x xs ih => cases ys <;> simp [sameItems,ih]

theorem sameFields_iff {xs ys : Dict} :
    sameFields xs ys = true ↔
      ∀ kv ∈ xs, ∃ w, ys.lookup kv.1 = some w ∧ same kv.2 w = true := by
  induction xs with
  | nil => simp [sameFields]
  | cons kv xs ih =>
    obtain ⟨k,v⟩ := kv
    rw [sameFields,Bool.and_eq_true,ih,List.forall_mem_cons]
    refine and_congr_left fun _ => ?_
    cases ys.lookup k <;> simp

theorem sortFields_perm (fields : Dict) : (sortFields fields).Perm fields :=
  List.perm_insertionSort _ fields

theorem sortFields_pairwise (fields : Dict) :
    (sortFields fields).Pairwise fun v w => v.1 ≤ w.1 :=
  Sorting.pairwise_insertionSort_key Prod.fst fields

theorem sortFields_eq_iff (h : (fields.map Prod.fst).Nodup) :
    sortFields fields = sortFields fields' ↔ fields.Perm fields' := by
  constructor
  · intro heq
    exact (sortFields_perm fields).symm.trans (heq ▸ sortFields_perm fields')
  · intro hp
    have hall : (sortFields fields).Perm (sortFields fields') :=
      (sortFields_perm fields).trans (hp.trans (sortFields_perm fields').symm)
    refine hall.eq_of_pairwise ?_ (sortFields_pairwise fields) (sortFields_pairwise fields')
    intro v w hv hw hvw hwv
    have hw' : w ∈ sortFields fields := hall.symm.subset hw
    exact List.inj_on_of_nodup_map h ((sortFields_perm fields).subset hv)
      ((sortFields_perm fields).subset hw') (le_antisymm hvw hwv)

end Fields

section Equality

variable {v w : Json}

theorem canonFields_keys (fields : Dict) :
    (canonFields fields).map Prod.fst = fields.map Prod.fst := by
  rw [canonFields_eq,List.map_map]
  rfl

theorem forall₂_canon {xs ys : List Json}
    (h : ∀ x ∈ xs, ∀ y ∈ ys, same x y = true ↔ canon x = canon y) :
    List.Forall₂ (fun x y => same x y = true) xs ys ↔ xs.map canon = ys.map canon := by
  induction xs generalizing ys with
  | nil => cases ys <;> simp
  | cons x xs ih =>
    cases ys with
    | nil => simp
    | cons y ys =>
      rw [List.forall₂_cons,List.map_cons,List.map_cons,List.cons.injEq,
        h x List.mem_cons_self y List.mem_cons_self,
        ih fun x hx y hy => h x (List.mem_cons_of_mem _ hx) y (List.mem_cons_of_mem _ hy)]

/-- Dictionaries are equal if their canonical fields are the same up to their order. -/
theorem sameFields_canon {xs ys : Dict} (hxs : (xs.map Prod.fst).Nodup)
    (hys : (ys.map Prod.fst).Nodup)
    (h : ∀ x ∈ xs, ∀ y ∈ ys, same x.2 y.2 = true ↔ canon x.2 = canon y.2) :
    (xs.length = ys.length ∧ sameFields xs ys = true) ↔ (canonFields xs).Perm (canonFields ys) := by
  have hnodup : (canonFields xs).Nodup := List.Nodup.of_map _ (by rwa [canonFields_keys])
  rw [sameFields_iff]
  simp only [canonFields_eq] at hnodup ⊢
  constructor
  · rintro ⟨hlength,hall⟩
    refine (List.subperm_of_subset hnodup fun kv hkv => ?_).perm_of_length_le (by simp [hlength])
    obtain ⟨x,hx,rfl⟩ := List.mem_map.mp hkv
    obtain ⟨w,hlookup,hsame⟩ := hall x hx
    have hy := Lists.mem_of_lookup hlookup
    exact List.mem_map.mpr ⟨_,hy,Prod.ext rfl ((h x hx _ hy).mp hsame).symm⟩
  · intro hp
    refine ⟨by simpa using hp.length_eq,fun x hx => ?_⟩
    obtain ⟨y,hy,heq⟩ := List.mem_map.mp (hp.subset (List.mem_map.mpr ⟨x,hx,rfl⟩))
    obtain ⟨hkey,hcanon⟩ := Prod.mk.inj heq
    refine ⟨y.2,?_,(h x hx y hy).mpr hcanon.symm⟩
    rw [Lists.lookup_eq_some_iff hys,← hkey]
    exact hy

/-- Equality is equality of the canonical forms. -/
theorem same_iff (hv : v.Distinct) (hw : w.Distinct) : same v w = true ↔ canon v = canon w := by
  have hne := fun text => ofNumber_ne (floatNumber text)
  have hne' := fun text => (ofNumber_ne (floatNumber text)).2.1
  induction hv generalizing w with
  | null => cases w <;> simp [same,canon,number,(hne _).1.symm]
  | bool b => cases w <;> simp [same,canon,number]
  | int n => cases w <;> simp [same,canon,number]
  | float text => cases w <;> simp [same,canon,number,hne]
  | str s => cases w <;> simp [same,canon,number,((hne _).2.1 _).symm]
  | @arr items h ih =>
    cases hw with
    | @arr items' h' =>
      rw [same,sameItems_iff,canon,canon,arr.injEq,canonItems_eq,canonItems_eq]
      exact forall₂_canon fun x hx y hy => ih x hx (h' y hy)
    | float text => simp [same,canon,number,((hne text).2.2.1 _).symm]
    | _ => simp [same,canon,number]
  | @obj fields hk h ih =>
    cases hw with
    | @obj fields' hk' h' =>
      rw [same,canon,canon,obj.injEq,Bool.and_eq_true,beq_iff_eq,
        sameFields_canon hk hk' fun x hx y hy => ih x hx (h' y hy)]
      exact (sortFields_eq_iff (by rwa [canonFields_keys])).symm
    | float text => simp [same,canon,number,((hne text).2.2.2 _).symm]
    | _ => simp [same,canon,number]

end Equality

/-- The same value but for the order of keys and of elements, at any depth: the members of a list or
a dictionary correspond in pairs. -/
inductive Reorders : Json → Json → Prop where
  | null : Reorders .null .null
  | bool (b : Bool) : Reorders (.bool b) (.bool b)
  | int (n : Int) : Reorders (.int n) (.int n)
  | float (text : String) : Reorders (.float text) (.float text)
  | str (s : String) : Reorders (.str s) (.str s)
  | arr {items items' : List Json} (pairs : List (Json × Json))
    (h : ∀ p ∈ pairs, Reorders p.1 p.2) (hl : items = pairs.map Prod.fst)
    (hr : items'.Perm (pairs.map Prod.snd)) : Reorders (.arr items) (.arr items')
  | obj {fields fields' : Dict} (pairs : List (String × Json × Json))
    (h : ∀ p ∈ pairs, Reorders p.2.1 p.2.2) (hl : fields = pairs.map fun p => (p.1,p.2.1))
    (hr : fields'.Perm (pairs.map fun p => (p.1,p.2.2))) : Reorders (.obj fields) (.obj fields')

/-- Every list in the value has equal elements only, so that its order does not show. -/
inductive Rigid : Json → Prop where
  | null : Rigid .null
  | bool (b : Bool) : Rigid (.bool b)
  | int (n : Int) : Rigid (.int n)
  | float (text : String) : Rigid (.float text)
  | str (s : String) : Rigid (.str s)
  | arr {items : List Json} (h : ∀ v ∈ items, Rigid v)
    (hsame : ∀ v ∈ items, ∀ w ∈ items, same v w = true) : Rigid (.arr items)
  | obj {fields : Dict} (h : ∀ kv ∈ fields, Rigid kv.2) : Rigid (.obj fields)

section Reorders

variable {v v' w : Json} {items items' rest : List Json} {fields fields' : Dict}

theorem Reorders.ofItems (hp : items.Perm rest) (h : List.Forall₂ Reorders rest items') :
    Reorders (.arr items) (.arr items') := by
  obtain ⟨mid,hmid,hperm⟩ := List.perm_comp_forall₂ hp h
  obtain ⟨pairs,rfl,rfl,hpairs⟩ := Lists.forall₂_pairs hmid
  exact .arr pairs hpairs rfl hperm.symm

theorem Reorders.ofFields {mid : Dict} (hp : fields.Perm mid)
    (h : List.Forall₂ (fun x y => x.1 = y.1 ∧ Reorders x.2 y.2) mid fields') :
    Reorders (.obj fields) (.obj fields') := by
  obtain ⟨mid',hmid,hperm⟩ := List.perm_comp_forall₂ hp h
  obtain ⟨pairs,rfl,rfl,hpairs⟩ := Lists.forall₂_pairs hmid
  refine .obj (pairs.map fun p => (p.1.1,p.1.2,p.2.2)) ?_ ?_ ?_
  · intro q hq
    obtain ⟨p,hp,rfl⟩ := List.mem_map.mp hq
    exact (hpairs p hp).2
  · rw [List.map_map]
    rfl
  · have hkeys : pairs.map Prod.snd = pairs.map fun p => (p.1.1,p.2.2) := by
      refine List.map_congr_left fun p hp => Prod.ext (hpairs p hp).1.symm rfl
    rw [List.map_map]
    exact hkeys ▸ hperm.symm

theorem Distinct.refl (hv : v.Distinct) : Reorders v v := by
  induction hv with
  | null => exact .null
  | bool b => exact .bool b
  | int n => exact .int n
  | float text => exact .float text
  | str s => exact .str s
  | arr h ih => exact .ofItems .rfl (List.forall₂_same.mpr ih)
  | obj hk h ih => exact .ofFields .rfl (List.forall₂_same.mpr fun kv hkv => ⟨rfl,ih kv hkv⟩)

theorem Distinct.reorders (hv : v.Distinct) (hr : Reorders v v') : v'.Distinct := by
  induction hr with
  | null => exact .null
  | bool b => exact .bool b
  | int n => exact .int n
  | float text => exact .float text
  | str s => exact .str s
  | arr pairs h hl hr ih =>
    cases hv with
    | arr hitems =>
      refine .arr fun w hw => ?_
      obtain ⟨p,hp,rfl⟩ := List.mem_map.mp (hr.subset hw)
      exact ih p hp (hitems _ (hl ▸ List.mem_map.mpr ⟨p,hp,rfl⟩))
  | obj pairs h hl hr ih =>
    cases hv with
    | obj hk hfields =>
      refine .obj ?_ fun kv hkv => ?_
      · rw [(hr.map Prod.fst).nodup_iff,List.map_map]
        rw [hl,List.map_map] at hk
        exact hk
      · obtain ⟨p,hp,rfl⟩ := List.mem_map.mp (hr.subset hkv)
        exact ih p hp (hfields _ (hl ▸ List.mem_map.mpr ⟨p,hp,rfl⟩))

theorem Reorders.perm (hd : (Json.arr items).Distinct) (hp : items.Perm items') :
    Reorders (.arr items) (.arr items') := by
  cases hd with
  | arr h =>
    exact .ofItems hp (List.forall₂_same.mpr fun v hv => (h v (hp.symm.subset hv)).refl)

/-- A permutation whose first member is reordered too. -/
theorem Reorders.head (hd : (Json.arr items).Distinct) (hp : items.Perm (v :: rest))
    (hr : Reorders v v') : Reorders (.arr items) (.arr (v' :: rest)) := by
  cases hd with
  | arr h =>
    refine .ofItems hp (.cons hr (List.forall₂_same.mpr fun w hw => Distinct.refl (h w ?_)))
    exact hp.symm.subset (List.mem_cons_of_mem _ hw)

theorem Reorders.two (hd : (Json.arr items).Distinct) (hp : items.Perm (v :: w :: rest))
    (hv : Reorders v v') {w' : Json} (hw : Reorders w w') :
    Reorders (.arr items) (.arr (v' :: w' :: rest)) := by
  cases hd with
  | arr h =>
    refine .ofItems hp (.cons hv (.cons hw (List.forall₂_same.mpr fun u hu =>
      Distinct.refl (h u ?_))))
    exact hp.symm.subset (List.mem_cons_of_mem _ (List.mem_cons_of_mem _ hu))

/-- A member of a dictionary is reordered. -/
theorem Reorders.member (hd : (Json.obj fields).Distinct) {kv : String × Json} {others : Dict}
    (hp : fields.Perm (kv :: others)) (hr : Reorders kv.2 v') :
    Reorders (.obj fields) (.obj ((kv.1,v') :: others)) := by
  cases hd with
  | obj hk h =>
    refine .ofFields hp (.cons ⟨rfl,hr⟩ (List.forall₂_same.mpr fun x hx =>
      ⟨rfl,Distinct.refl (h x ?_)⟩))
    exact hp.symm.subset (List.mem_cons_of_mem _ hx)

/-- The pairs of a reordered list in the order of its right side. -/
theorem pairs_arranged {pairs : List (Json × Json)} (hr : items'.Perm (pairs.map Prod.snd)) :
    ∃ arranged : List (Json × Json), arranged.Perm pairs ∧ items' = arranged.map Prod.snd := by
  have hcomp : Relation.Comp (fun x y => x = List.map Prod.snd y) List.Perm items' pairs := by
    rw [List.eq_map_comp_perm]
    exact hr
  obtain ⟨arranged,hitems,hperm⟩ := hcomp
  exact ⟨arranged,hperm,hitems⟩

/-- The order within a rigid value does not show. -/
theorem Rigid.canon_eq (hg : Rigid v) (hd : v.Distinct) (hr : Reorders v v') :
    canon v = canon v' := by
  induction hr with
  | arr pairs h hl hr ih =>
    subst hl
    cases hg with
    | arr hrigid hsame =>
      cases hd with
      | arr hitems =>
        obtain ⟨arranged,hperm,rfl⟩ := pairs_arranged hr
        have hmem : ∀ p ∈ pairs, p.1 ∈ pairs.map Prod.fst := fun p hp =>
          List.mem_map.mpr ⟨p,hp,rfl⟩
        have hleft : pairs.map (fun p => canon p.1) = arranged.map fun p => canon p.1 := by
          refine @Sorting.map_eq_of_pairwise_perm _ _ (fun _ _ => True) _ _ _ hperm.symm
            (List.pairwise_of_forall fun _ _ => trivial)
            (List.pairwise_of_forall fun _ _ => trivial)
            fun p hp q hq _ _ => ?_
          exact (same_iff (hitems _ (hmem p hp)) (hitems _ (hmem q hq))).mp
            (hsame _ (hmem p hp) _ (hmem q hq))
        have hright : arranged.map (fun p => canon p.1) = arranged.map fun p => canon p.2 :=
          List.map_congr_left fun p hp => ih p (hperm.subset hp)
            (hrigid _ (hmem p (hperm.subset hp))) (hitems _ (hmem p (hperm.subset hp)))
        rw [canon,canon,canonItems_eq,canonItems_eq,List.map_map,List.map_map]
        exact congrArg Json.arr (hleft.trans hright)
  | obj pairs h hl hr ih =>
    subst hl
    cases hg with
    | obj hrigid =>
      cases hd with
      | obj hk hfields =>
        have hmem : ∀ p ∈ pairs, (p.1,p.2.1) ∈ pairs.map fun p => (p.1,p.2.1) := fun p hp =>
          List.mem_map.mpr ⟨p,hp,rfl⟩
        rw [canon,canon,obj.injEq,sortFields_eq_iff (by rwa [canonFields_keys]),canonFields_eq,
          canonFields_eq]
        refine List.Perm.trans (.of_eq ?_) (hr.map _).symm
        rw [List.map_map,List.map_map]
        refine List.map_congr_left fun p hp => Prod.ext rfl ?_
        exact ih p hp (hrigid _ (hmem p hp)) (hfields _ (hmem p hp))
  | _ => rfl

theorem exists_two {x y : Json} (hx : x ∈ items) (hy : y ∈ items) (hne : x ≠ y) :
    ∃ rest, items.Perm (x :: y :: rest) := by
  obtain ⟨before,after,rfl⟩ := List.append_of_mem hx
  have hperm : (before ++ x :: after).Perm (x :: (before ++ after)) := List.perm_middle
  have hy' : y ∈ before ++ after := by
    rcases List.mem_cons.mp (hperm.subset hy) with rfl | hy'
    · exact absurd rfl hne
    · exact hy'
  obtain ⟨before',after',heq⟩ := List.append_of_mem hy'
  refine ⟨before' ++ after',hperm.trans (.cons x ?_)⟩
  rw [heq]
  exact List.perm_middle

theorem perm_heads {α : Type} {a b : α} {l : List α} (h : (a :: l).Perm (b :: l)) : a = b :=
  List.singleton_perm_singleton.mp ((List.perm_append_right_iff l).mp h)

/-- A value whose reorderings are all equal is rigid. -/
theorem Distinct.rigid (hd : v.Distinct) (h : ∀ v', Reorders v v' → canon v = canon v') :
    Rigid v := by
  induction hd with
  | null => exact .null
  | bool b => exact .bool b
  | int n => exact .int n
  | float text => exact .float text
  | str s => exact .str s
  | @arr items hitems ih =>
    have hall : ∀ items', Reorders (.arr items) (.arr items') →
        items.map canon = items'.map canon := by
      intro items' hr
      simpa [canon,canonItems_eq] using h _ hr
    refine .arr (fun v hv => ih v hv fun v' hr => ?_) fun v hv w hw => ?_
    · obtain ⟨before,after,rfl⟩ := List.append_of_mem hv
      have hfirst := hall _ (.perm (.arr hitems) List.perm_middle)
      have hsecond := hall _ (.head (.arr hitems) List.perm_middle hr)
      exact (List.cons.inj (hfirst.symm.trans hsecond)).1
    · rw [same_iff (hitems v hv) (hitems w hw)]
      by_cases hne : v = w
      · rw [hne]
      · obtain ⟨rest,hp⟩ := exists_two hv hw hne
        have hfirst := hall _ (.perm (.arr hitems) hp)
        have hsecond := hall _ (.perm (.arr hitems) (hp.trans (.swap ..)))
        exact (List.cons.inj (hfirst.symm.trans hsecond)).1
  | @obj fields hk hfields ih =>
    refine .obj fun kv hkv => ih kv hkv fun v' hr => ?_
    obtain ⟨before,after,rfl⟩ := List.append_of_mem hkv
    have hmember := h _ (.member (.obj hk hfields) List.perm_middle hr)
    rw [canon,canon,obj.injEq,sortFields_eq_iff (by rwa [canonFields_keys])] at hmember
    have hsplit : (canonFields (before ++ kv :: after)).Perm
        ((kv.1,canon kv.2) :: canonFields (before ++ after)) := by
      simp only [canonFields_eq]
      exact List.perm_middle.map _
    have hheads := perm_heads (hsplit.symm.trans hmember)
    exact congrArg Prod.snd hheads

end Reorders

section Texts

variable {str : Json → String} {items items' : List Json}

/-- `sorted(items, key=str)`. -/
def sortTexts (str : Json → String) (items : List Json) : List Json :=
  items.insertionSort fun v w => str v ≤ str w

/-- The text of the one is less than that of the other, however the two are reordered. -/
def Before (str : Json → String) (v w : Json) : Prop :=
  ∀ v' w', Reorders v v' → Reorders w w' → str v' < str w'

/-- The list can be put into one order by the texts of its elements: these are rigid, and any two of
them are equal or always come in the same order. -/
structure Orderable (str : Json → String) (items : List Json) : Prop where
  rigid : ∀ v ∈ items, Rigid v
  apart : ∀ v ∈ items, ∀ w ∈ items, same v w = true ∨ Before str v w ∨ Before str w v

theorem sortTexts_perm (str : Json → String) (items : List Json) :
    (sortTexts str items).Perm items := List.perm_insertionSort _ items

theorem sortTexts_pairwise (str : Json → String) (items : List Json) :
    (sortTexts str items).Pairwise fun v w => str v ≤ str w :=
  Sorting.pairwise_insertionSort_key str items

theorem sortTexts_idem (str : Json → String) (items : List Json) :
    sortTexts str (sortTexts str items) = sortTexts str items :=
  (sortTexts_pairwise str items).insertionSort_eq

theorem not_before {v w : Json} (h : ¬Before str v w) :
    ∃ v' w', Reorders v v' ∧ Reorders w w' ∧ str w' ≤ str v' := by
  simp only [Before,not_forall,not_lt] at h
  obtain ⟨v',w',hv,hw,hle⟩ := h
  exact ⟨v',w',hv,hw,hle⟩

/-- The elements of an orderable list are sorted alike in all of its reorderings. -/
theorem Orderable.sorted (ho : Orderable str items) (hd : (Json.arr items).Distinct)
    (hr : Reorders (.arr items) (.arr items')) :
    (sortTexts str items).map canon = (sortTexts str items').map canon := by
  cases hr with
  | arr pairs h hl hr =>
    cases hd with
    | arr hitems =>
      subst hl
      obtain ⟨arranged,hperm,rfl⟩ := pairs_arranged hr
      have hmem : ∀ p ∈ pairs, p.1 ∈ pairs.map Prod.fst := fun p hp =>
        List.mem_map.mpr ⟨p,hp,rfl⟩
      let l₁ := pairs.insertionSort fun p q => str p.1 ≤ str q.1
      let l₂ := arranged.insertionSort fun p q => str p.2 ≤ str q.2
      have hl₁ : ∀ p ∈ l₁, p ∈ pairs := fun p hp => (List.perm_insertionSort _ pairs).subset hp
      have hl₂ : ∀ p ∈ l₂, p ∈ pairs := fun p hp =>
        hperm.subset ((List.perm_insertionSort _ arranged).subset hp)
      have hleft : sortTexts str (pairs.map Prod.fst) = l₁.map Prod.fst :=
        (List.map_insertionSort _ _ Prod.fst pairs fun _ _ _ _ => Iff.rfl).symm
      have hright : sortTexts str (arranged.map Prod.snd) = l₂.map Prod.snd :=
        (List.map_insertionSort _ _ Prod.snd arranged fun _ _ _ _ => Iff.rfl).symm
      -- Neither arrangement puts an element before one that always comes before it.
      have hfirst : l₁.Pairwise fun p q => ¬Before str q.1 p.1 := by
        refine (Sorting.pairwise_insertionSort_key (fun p => str p.1) pairs).imp_of_mem ?_
        intro p q hp hq hle hbefore
        exact not_lt.mpr hle (hbefore _ _ (hitems _ (hmem q (hl₁ q hq))).refl
          (hitems _ (hmem p (hl₁ p hp))).refl)
      have hsecond : l₂.Pairwise fun p q => ¬Before str q.1 p.1 := by
        refine (Sorting.pairwise_insertionSort_key (fun p => str p.2) arranged).imp_of_mem ?_
        intro p q hp hq hle hbefore
        exact not_lt.mpr hle (hbefore _ _ (h q (hl₂ q hq)) (h p (hl₂ p hp)))
      have hsame : l₁.map (fun p => canon p.1) = l₂.map fun p => canon p.1 := by
        refine Sorting.map_eq_of_pairwise_perm _ ?_ hfirst hsecond fun p hp q hq hqp hpq => ?_
        · exact (List.perm_insertionSort _ pairs).trans
            (hperm.symm.trans (List.perm_insertionSort _ arranged).symm)
        · rw [← same_iff (hitems _ (hmem p (hl₁ p hp))) (hitems _ (hmem q (hl₁ q hq)))]
          rcases ho.apart _ (hmem p (hl₁ p hp)) _ (hmem q (hl₁ q hq)) with hs | hb | hb
          · exact hs
          · exact absurd hb hpq
          · exact absurd hb hqp
      have hpairs : l₂.map (fun p => canon p.1) = l₂.map fun p => canon p.2 :=
        List.map_congr_left fun p hp => (ho.rigid _ (hmem p (hl₂ p hp))).canon_eq
          (hitems _ (hmem p (hl₂ p hp))) (h p (hl₂ p hp))
      rw [hleft,hright,List.map_map,List.map_map]
      exact hsame.trans hpairs

/-- A list whose reorderings are all sorted alike is orderable. -/
theorem orderable_of_sorted (hd : (Json.arr items).Distinct)
    (h : ∀ items', Reorders (.arr items) (.arr items') →
      (sortTexts str items).map canon = (sortTexts str items').map canon) :
    Orderable str items := by
  have hitems : ∀ v ∈ items, v.Distinct := by
    cases hd with
    | arr hitems => exact hitems
  have hrigid : ∀ v ∈ items, Rigid v := by
    intro v hv
    obtain ⟨before,after,rfl⟩ := List.append_of_mem hv
    refine (hitems v hv).rigid fun v' hr => ?_
    have hsorted := h _ (.head hd List.perm_middle hr)
    have hperm : ((v :: (before ++ after)).map canon).Perm
        ((v' :: (before ++ after)).map canon) := by
      refine (List.perm_middle.symm.trans (sortTexts_perm str _).symm).map canon |>.trans ?_
      rw [hsorted]
      exact (sortTexts_perm str _).map canon
    exact perm_heads hperm
  refine ⟨hrigid,fun v hv w hw => ?_⟩
  rw [same_iff (hitems v hv) (hitems w hw)]
  by_contra hnot
  obtain ⟨hne,hvw,hwv⟩ : canon v ≠ canon w ∧ ¬Before str v w ∧ ¬Before str w v := by
    simpa only [not_or] using hnot
  obtain ⟨v₁,w₁,hv₁,hw₁,hle₁⟩ := not_before hvw
  obtain ⟨w₂,v₂,hw₂,hv₂,hle₂⟩ := not_before hwv
  obtain ⟨rest,hp⟩ := exists_two hv hw fun heq => hne (congrArg canon heq)
  have hswap := hp.trans (List.Perm.swap ..)
  have hcanon : ∀ {u u'}, u ∈ items → Reorders u u' → canon u' = canon u := fun hu hr =>
    ((hrigid _ hu).canon_eq (hitems _ hu) hr).symm
  -- One of the two stays where it is, and the other one moves to its other side.
  rcases le_total (str w₂) (str v₁) with hle | hle
  · have hmoved := (h _ (.two hd hswap hw₂ hv₁)).symm.trans (h _ (.two hd hp hv₂ hw₂))
    refine Sorting.insert_swapped_ne hle hle₂ ((hcanon hv hv₂).trans (hcanon hv hv₁).symm) ?_ rest
      hmoved
    rw [hcanon hw hw₂,hcanon hv hv₁]
    exact hne.symm
  · have hmoved := (h _ (.two hd hp hv₁ hw₂)).symm.trans (h _ (.two hd hswap hw₁ hv₁))
    refine Sorting.insert_swapped_ne hle hle₁ ((hcanon hw hw₁).trans (hcanon hw hw₂).symm) ?_ rest
      hmoved
    rw [hcanon hw hw₂,hcanon hv hv₁]
    exact hne

end Texts

end Json

end PyValue
