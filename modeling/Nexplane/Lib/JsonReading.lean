import Mathlib.Data.List.Forall2
import Mathlib.Data.List.Nodup
import Nexplane.Lib.JsonText
import Nexplane.Lib.Lists
import Nexplane.Lib.Text

set_option autoImplicit false

/-! The texts of JSON values read back: a printer whose pieces can be told apart gives different
texts to different values, and no text of an object ends in a colon and the text of another. -/

namespace JsonText

variable {ν : Type}

/-- Equality of JSON values: the fields of an object have no order. -/
inductive Value.Same : Value ν → Value ν → Prop where
  | null : Same .null .null
  | bool (b : Bool) : Same (.bool b) (.bool b)
  | num (n : ν) : Same (.num n) (.num n)
  | str (s : List Char) : Same (.str s) (.str s)
  | arr {vs ws : List (Value ν)} (h : List.Forall₂ Same vs ws) : Same (.arr vs) (.arr ws)
  | obj {fs fs' gs gs' : List (List Char × Value ν)} (hfs : fs'.Perm fs) (hgs : gs'.Perm gs)
      (keys : fs'.map Prod.fst = gs'.map Prod.fst)
      (values : List.Forall₂ Same (fs'.map Prod.snd) (gs'.map Prod.snd)) : Same (.obj fs) (.obj gs)

mutual

/-- No object of the value has a key twice. -/
def Value.Distinct : Value ν → Prop
  | .arr items => itemsDistinct items
  | .obj fields => (fields.map Prod.fst).Nodup ∧ fieldsDistinct fields
  | _ => True

def itemsDistinct : List (Value ν) → Prop
  | [] => True
  | v :: vs => v.Distinct ∧ itemsDistinct vs

def fieldsDistinct : List (List Char × Value ν) → Prop
  | [] => True
  | (_,v) :: fs => v.Distinct ∧ fieldsDistinct fs

end

@[simp] theorem itemsDistinct_iff {items : List (Value ν)} :
    itemsDistinct items ↔ ∀ v ∈ items, v.Distinct := by
  induction items with
  | nil => simp [itemsDistinct]
  | cons v vs ih => simp [itemsDistinct,ih]

@[simp] theorem fieldsDistinct_iff {fields : List (List Char × Value ν)} :
    fieldsDistinct fields ↔ ∀ f ∈ fields, f.2.Distinct := by
  induction fields with
  | nil => simp [fieldsDistinct]
  | cons f fs ih => simp [fieldsDistinct,ih]

/-- A character of a string: itself, or a backslash with what follows it. -/
def piece : List Char → Bool
  | [] => false
  | [c] => c != '"' && c != '\\'
  | c :: _ :: r => c == '\\' && r.all fun d => d != '"' && d != '\\'

/-- A printer whose pieces can be told apart. -/
structure Readable (S : Style ν) (numChar : Char → Bool) : Prop where
  code : ∀ c d, S.char c <+: S.char d → c = d
  piece : ∀ c, piece (S.char c) = true
  num : ∀ n m, S.num n = S.num m → n = m
  nonempty : ∀ n, S.num n ≠ []
  digits : ∀ n, ∀ c ∈ S.num n, numChar c = true
  apart : ∀ c ∈ "[]{},:\"\\ntf".toList, numChar c = false

section Pieces

variable {S : Style ν} {numChar : Char → Bool} {x y : List Char}

theorem piece_append_ne {t : List Char} (h : piece t = true) : t ++ x ≠ '"' :: y := by
  intro heq
  cases t with
  | nil => cases h
  | cons c t =>
    obtain rfl : c = '"' := (List.cons.inj heq).1
    cases t with
    | nil => simp [piece] at h
    | cons d t => simp [piece] at h

theorem Readable.quote (hS : Readable S numChar) {s t : List Char}
    (h : S.quote s ++ x = S.quote t ++ y) : s = t ∧ x = y := by
  simp only [Style.quote,List.cons_append,List.append_assoc,List.cons.injEq,true_and,
    List.nil_append] at h
  induction s generalizing t with
  | nil =>
    cases t with
    | nil => simpa using h
    | cons d t =>
      simp only [List.flatMap_cons,List.append_assoc] at h
      exact absurd h.symm (piece_append_ne (hS.piece d))
  | cons c s ih =>
    cases t with
    | nil =>
      simp only [List.flatMap_cons,List.append_assoc] at h
      exact absurd h (piece_append_ne (hS.piece c))
    | cons d t =>
      simp only [List.flatMap_cons,List.append_assoc] at h
      have hcd : c = d := by
        rcases List.prefix_or_prefix_of_prefix (List.prefix_append (S.char c) _)
          (h ▸ List.prefix_append (S.char d) _) with hp | hp
        · exact hS.code c d hp
        · exact (hS.code d c hp).symm
      subst hcd
      obtain ⟨hst,hxy⟩ := ih (List.append_cancel_left h)
      exact ⟨by rw [hst],hxy⟩

theorem Readable.number (hS : Readable S numChar) (n m : ν) :
    Splits numChar (S.num n) (S.num m) (n = m) := by
  intro x y hx hy h
  have hnum : S.num n = S.num m := by
    rw [← takeWhile_number (hS.digits n) hx,h,takeWhile_number (hS.digits m) hy]
  rw [hnum] at h
  exact ⟨hS.num n m hnum,List.append_cancel_left h⟩

theorem Readable.ends (hS : Readable S numChar) {c : Char} (hc : c ∈ "[]{},:\"\\ntf".toList) :
    Ends numChar (c :: x) := by
  intro d hd
  obtain rfl : c = d := by simpa using hd
  exact hS.apart c hc

end Pieces

section Reading

variable {S : Style ν} {numChar : Char → Bool} {x y : List Char}

/-- The kind of a value by the character that its text begins with, any one for numbers. -/
def Value.kind : Value ν → Char
  | .null => 'n'
  | .bool true => 't'
  | .bool false => 'f'
  | .num _ => '0'
  | .str _ => '"'
  | .arr _ => '['
  | .obj _ => '{'

theorem Readable.kind (hS : Readable S numChar) (v : Value ν) :
    ∃ c r, render S v = c :: r ∧ (if numChar c then '0' else c) = v.kind := by
  have hplain : ∀ c ∈ "[]{},:\"\\ntf".toList, (if numChar c then '0' else c) = c := by
    intro c hc
    simp [hS.apart c hc]
  cases v with
  | null => exact ⟨'n',_,rfl,hplain 'n' (by decide)⟩
  | bool b =>
    cases b with
    | true => exact ⟨'t',_,rfl,hplain 't' (by decide)⟩
    | false => exact ⟨'f',_,rfl,hplain 'f' (by decide)⟩
  | num n =>
    cases hn : S.num n with
    | nil => exact absurd hn (hS.nonempty n)
    | cons c r =>
      have hc := hS.digits n c (by simp [hn])
      exact ⟨c,r,hn,by simp [hc,Value.kind]⟩
  | str s => exact ⟨'"',_,rfl,hplain '"' (by decide)⟩
  | arr items => exact ⟨'[',_,by rw [render],hplain '[' (by decide)⟩
  | obj fields => exact ⟨'{',_,by rw [render],hplain '{' (by decide)⟩

theorem Readable.kind_eq (hS : Readable S numChar) {v w : Value ν}
    (h : render S v ++ x = render S w ++ y) : v.kind = w.kind := by
  obtain ⟨c,r,hv,hkv⟩ := hS.kind v
  obtain ⟨d,s,hw,hkw⟩ := hS.kind w
  rw [hv,hw] at h
  rw [← hkv,← hkw,(List.cons.inj h).1]

theorem Readable.start_ne (hS : Readable S numChar) (v : Value ν) :
    ∃ c r, render S v = c :: r ∧ c ≠ ']' := by
  obtain ⟨c,r,hr,hk⟩ := hS.kind v
  refine ⟨c,r,hr,fun hc => ?_⟩
  rw [hc,hS.apart ']' (by decide)] at hk
  cases v with
  | bool b => cases b <;> simp [Value.kind] at hk
  | _ => simp [Value.kind] at hk

/-- A list of texts between a bracket and its end, read one by one. -/
theorem Readable.between (hS : Readable S numChar) {α : Type} {f : α → List Char}
    {R : α → α → Prop} {e : Char} (he : e = ']' ∨ e = '}') {l l' : List α}
    (hf : ∀ a, ∃ c r, f a = c :: r ∧ c ≠ e)
    (hl : ∀ a ∈ l, ∀ b ∈ l', Splits numChar (f a) (f b) (R a b))
    (h : commas (l.map f) ++ e :: x = commas (l'.map f) ++ e :: y) :
    List.Forall₂ R l l' ∧ x = y := by
  have hclose : ∀ z, Ends numChar (e :: z) := by
    rcases he with rfl | rfl
    · exact fun z => hS.ends (by decide)
    · exact fun z => hS.ends (by decide)
  have hcomma : ∀ z, Ends numChar (',' :: z) := fun z => hS.ends (by decide)
  have hne : e ≠ ',' := by rcases he with rfl | rfl <;> decide
  have hstart : ∀ a l z w, commas ((a :: l).map f) ++ z ≠ e :: w := by
    intro a l z w heq
    obtain ⟨c,r,hc,hce⟩ := hf a
    cases l with
    | nil => simp [commas,hc,hce] at heq
    | cons b l => simp [commas,hc,hce] at heq
  induction l generalizing l' with
  | nil =>
    cases l' with
    | nil => exact ⟨List.Forall₂.nil,by simpa [commas] using h⟩
    | cons b l' => exact absurd h.symm (hstart b l' _ _)
  | cons a l ih =>
    cases l' with
    | nil => exact absurd h (hstart a l _ _)
    | cons b l' =>
      have hab := hl a List.mem_cons_self b List.mem_cons_self
      have hrest := fun a ha b hb => hl a (List.mem_cons_of_mem _ ha) b (List.mem_cons_of_mem _ hb)
      cases l with
      | nil =>
        cases l' with
        | nil =>
          obtain ⟨hR,hxy⟩ := hab _ _ (hclose x) (hclose y) h
          exact ⟨List.Forall₂.cons hR List.Forall₂.nil,(List.cons.inj hxy).2⟩
        | cons b' l' =>
          simp only [List.map_cons,List.map_nil,commas,List.append_assoc,
            List.cons_append] at h
          exact absurd (List.cons.inj (hab _ _ (hclose x) (hcomma _) h).2).1 hne
      | cons a' l =>
        cases l' with
        | nil =>
          simp only [List.map_cons,List.map_nil,commas,List.append_assoc,
            List.cons_append] at h
          exact absurd (List.cons.inj (hab _ _ (hcomma _) (hclose y) h).2).1 hne.symm
        | cons b' l' =>
          simp only [List.map_cons,commas,List.append_assoc,List.cons_append] at h
          obtain ⟨hR,hnext⟩ := hab _ _ (hcomma _) (hcomma _) h
          obtain ⟨hRs,hxy⟩ := ih hrest (List.cons.inj hnext).2
          exact ⟨List.Forall₂.cons hR hRs,hxy⟩

theorem Readable.field (hS : Readable S numChar) {f g : List Char × Value ν}
    (hv : Splits numChar (render S f.2) (render S g.2) (f.2.Same g.2)) :
    Splits numChar (S.field f) (S.field g) (f.1 = g.1 ∧ f.2.Same g.2) := by
  intro x y hx hy h
  simp only [Style.field,List.append_assoc,List.cons_append] at h
  obtain ⟨hk,hrest⟩ := hS.quote h
  obtain ⟨hsame,hxy⟩ := hv x y hx hy (List.cons.inj hrest).2
  exact ⟨⟨hk,hsame⟩,hxy⟩

theorem sorted_perm (S : Style ν) (fields : List (List Char × Value ν)) :
    (S.sorted fields).Perm fields :=
  List.mergeSort_perm fields _

theorem same_of_sorted {fs gs : List (List Char × Value ν)}
    (h : List.Forall₂ (fun f g => f.1 = g.1 ∧ f.2.Same g.2) (S.sorted fs) (S.sorted gs)) :
    (Value.obj fs).Same (.obj gs) := by
  refine Value.Same.obj (sorted_perm S fs) (sorted_perm S gs) ?_ ?_
  · rw [← List.forall₂_eq_eq_eq,List.forall₂_map_left_iff,List.forall₂_map_right_iff]
    exact h.imp fun _ _ hfg => hfg.1
  · rw [List.forall₂_map_left_iff,List.forall₂_map_right_iff]
    exact h.imp fun _ _ hfg => hfg.2

/-- Two texts that begin with the texts of two values begin with those of the same value. -/
theorem Readable.splits (hS : Readable S numChar) (v w : Value ν) :
    Splits numChar (render S v) (render S w) (v.Same w) := by
  induction v using Value.induct generalizing w with
  | null =>
    intro x y hx hy h
    have hk := hS.kind_eq h
    cases w with
    | null => exact ⟨Value.Same.null,List.append_cancel_left h⟩
    | bool b => cases b <;> simp [Value.kind] at hk
    | _ => simp [Value.kind] at hk
  | bool b =>
    intro x y hx hy h
    have hk := hS.kind_eq h
    cases w with
    | bool b' =>
      obtain rfl : b = b' := by cases b <;> cases b' <;> simp [Value.kind] at hk ⊢
      exact ⟨Value.Same.bool b,List.append_cancel_left h⟩
    | _ => cases b <;> simp [Value.kind] at hk
  | num n =>
    intro x y hx hy h
    have hk := hS.kind_eq h
    cases w with
    | num m =>
      obtain ⟨rfl,hxy⟩ := hS.number n m x y hx hy h
      exact ⟨Value.Same.num n,hxy⟩
    | bool b => cases b <;> simp [Value.kind] at hk
    | _ => simp [Value.kind] at hk
  | str s =>
    intro x y hx hy h
    have hk := hS.kind_eq h
    cases w with
    | str t =>
      obtain ⟨rfl,hxy⟩ := hS.quote h
      exact ⟨Value.Same.str s,hxy⟩
    | bool b => cases b <;> simp [Value.kind] at hk
    | _ => simp [Value.kind] at hk
  | arr vs ih =>
    intro x y hx hy h
    have hk := hS.kind_eq h
    cases w with
    | arr ws =>
      simp only [render,renderItems_eq,List.cons_append,List.append_assoc,List.cons.injEq,
        true_and,List.nil_append] at h
      obtain ⟨hitems,hxy⟩ := hS.between (Or.inl rfl) hS.start_ne
        (fun v hv w _ => ih v hv w) h
      exact ⟨Value.Same.arr hitems,hxy⟩
    | bool b => cases b <;> simp [Value.kind] at hk
    | _ => simp [Value.kind] at hk
  | obj fs ih =>
    intro x y hx hy h
    have hk := hS.kind_eq h
    cases w with
    | obj gs =>
      simp only [render,sorted_renderFields,List.cons_append,List.append_assoc,List.cons.injEq,
        true_and,List.nil_append] at h
      obtain ⟨hfields,hxy⟩ := hS.between (Or.inr rfl)
        (fun f => ⟨'"',_,rfl,by decide⟩)
        (fun f hf g _ => hS.field (ih f (List.mem_mergeSort.mp hf) g.2)) h
      exact ⟨same_of_sorted hfields,hxy⟩
    | bool b => cases b <;> simp [Value.kind] at hk
    | _ => simp [Value.kind] at hk

end Reading

section Printing

variable {S : Style ν} {fs gs : List (List Char × Value ν)}

/-- An order of keys: total, and different keys are never below each other. -/
structure KeyOrder (le : List Char → List Char → Bool) : Prop where
  total : ∀ k l, (le k l || le l k) = true
  trans : ∀ k l m, le k l = true → le l m = true → le k m = true
  antisymm : ∀ k l, le k l = true → le l k = true → k = l

/-- Texts by the numbers of their characters. -/
theorem keyOrder_lexLe : KeyOrder (Text.lexLe Char.toNat) where
  total := by
    intro k l
    induction k generalizing l with
    | nil => simp [Text.lexLe]
    | cons c k ih =>
      cases l with
      | nil => simp [Text.lexLe]
      | cons d l =>
        have := ih l
        simp only [Text.lexLe]
        grind
  trans := by
    intro k l m hkl hlm
    induction k generalizing l m with
    | nil => simp [Text.lexLe]
    | cons c k ih =>
      cases l with
      | nil => simp [Text.lexLe] at hkl
      | cons d l =>
        cases m with
        | nil => simp [Text.lexLe] at hlm
        | cons e m =>
          have := ih l m
          simp only [Text.lexLe] at hkl hlm ⊢
          grind
  antisymm := by
    intro k l hkl hlk
    induction k generalizing l with
    | nil =>
      cases l with
      | nil => rfl
      | cons d l => simp [Text.lexLe] at hlk
    | cons c k ih =>
      cases l with
      | nil => simp [Text.lexLe] at hkl
      | cons d l =>
        have hchar : c.toNat = d.toNat → c = d := Char.toNat_inj.mp
        have := ih l
        simp only [Text.lexLe] at hkl hlk
        grind

/-- Fields with distinct keys are sorted in one way. -/
theorem KeyOrder.sorted_eq (hle : KeyOrder S.le) {ps qs : List (List Char × List Char)}
    (hnodup : (ps.map Prod.fst).Nodup) (h : ps.Perm qs) : S.sorted ps = S.sorted qs := by
  have hpair : ∀ l : List (List Char × List Char),
      (S.sorted l).Pairwise fun f g => S.le f.1 g.1 = true := fun l =>
    List.pairwise_mergeSort (fun f g k => hle.trans f.1 g.1 k.1) (fun f g => hle.total f.1 g.1) l
  refine List.Perm.eq_of_pairwise ?_ (hpair ps) (hpair qs)
    ((List.mergeSort_perm ps _).trans (h.trans (List.mergeSort_perm qs _).symm))
  intro f g hf hg hfg hgf
  have hf : f ∈ ps := List.mem_mergeSort.mp hf
  have hg : g ∈ ps := h.mem_iff.mpr (List.mem_mergeSort.mp hg)
  exact List.inj_on_of_nodup_map hnodup hf hg (hle.antisymm _ _ hfg hgf)

theorem renderFields_congr (hkeys : fs.map Prod.fst = gs.map Prod.fst)
    (hvalues : List.Forall₂ (fun v w => render S v = render S w) (fs.map Prod.snd)
      (gs.map Prod.snd)) : renderFields S fs = renderFields S gs := by
  induction fs generalizing gs with
  | nil =>
    obtain rfl : gs = [] := by simpa using hkeys.symm
    rfl
  | cons f fs ih =>
    cases gs with
    | nil => simp at hkeys
    | cons g gs =>
      simp only [List.map_cons,List.cons.injEq,List.forall₂_cons] at hkeys hvalues
      rw [renderFields,renderFields,hkeys.1,hvalues.1,ih hkeys.2 hvalues.2]

theorem render_same (hle : KeyOrder S.le) {v w : Value ν} (hv : v.Distinct) (h : v.Same w) :
    render S v = render S w := by
  induction v using Value.induct generalizing w with
  | null | bool b | num n | str s =>
    cases h
    rfl
  | arr vs ih =>
    cases h with
    | arr h =>
      have hmem : ∀ v ∈ vs, ∀ w, v.Same w → render S v = render S w := fun v hmem w =>
        ih v hmem (itemsDistinct_iff.mp hv v hmem)
      have hitems := Lists.forall₂_map_eq ((List.forall₂_and_left _ _).mpr ⟨hmem,h⟩)
        fun v w hvw => (hvw.1 w hvw.2).symm
      simp only [render,renderItems_eq,hitems]
  | obj fs ih =>
    cases h with
    | @obj _ fs' gs gs' hfs hgs keys values =>
      obtain ⟨hnodup,hfields⟩ := hv
      rw [fieldsDistinct_iff] at hfields
      have hvalues : List.Forall₂ (fun v w => render S v = render S w) (fs'.map Prod.snd)
          (gs'.map Prod.snd) := by
        have hmem : ∀ v ∈ fs'.map Prod.snd, ∀ w, v.Same w → render S v = render S w := by
          intro v hv w hsame
          obtain ⟨f,hf,rfl⟩ := List.mem_map.mp hv
          have hf := hfs.mem_iff.mp hf
          exact ih f hf (hfields f hf) hsame
        exact ((List.forall₂_and_left _ _).mpr ⟨hmem,values⟩).imp fun _ w hvw => hvw.1 w hvw.2
      have hperm : (renderFields S fs).Perm (renderFields S gs) := by
        have heq := renderFields_congr keys hvalues
        rw [renderFields_eq,renderFields_eq] at heq ⊢
        calc (fs.map fun f => (f.1,S.field f)).Perm (fs'.map _) := (hfs.map _).symm
          _ = gs'.map _ := heq
          _ |>.Perm (gs.map _) := hgs.map _
      have hkeys : ((renderFields S fs).map Prod.fst).Nodup := by
        rw [renderFields_eq,List.map_map]
        exact hnodup
      rw [render,render,hle.sorted_eq hkeys hperm]

/-- A canonical form: two values have one text just if they are the same. -/
theorem Readable.render_eq_iff {numChar : Char → Bool} (hS : Readable S numChar)
    (hle : KeyOrder S.le) {v w : Value ν} (hv : v.Distinct) :
    render S v = render S w ↔ v.Same w := by
  constructor
  · intro h
    have hnil : Ends numChar [] := by simp [Ends]
    exact (hS.splits v w [] [] hnil hnil (by rw [h])).1
  · exact render_same hle hv

end Printing

section Suffixes

/-- Where the reader of a text is: outside of strings, in one, or after a backslash in one. -/
inductive Mode where
  | plain
  | string
  | escaped
  deriving DecidableEq

/-- One character read, with the number of open braces. No backslash stands outside of strings. -/
def read : Mode × Nat → Char → Option (Mode × Nat)
  | (.plain,d), c =>
    if c = '"' then some (.string,d)
    else if c = '\\' then none
    else if c = '{' then some (.plain,d + 1)
    else if c = '}' then some (.plain,d - 1)
    else some (.plain,d)
  | (.string,d), c =>
    if c = '"' then some (.plain,d) else if c = '\\' then some (.escaped,d) else some (.string,d)
  | (.escaped,d), _ => some (.string,d)

def scan (p : Mode × Nat) (t : List Char) : Option (Mode × Nat) := t.foldlM read p

/-- A text that leaves a reader outside of strings where he was. -/
def Level (t : List Char) : Prop := ∀ d, scan (.plain,d) t = some (.plain,d)

variable {S : Style ν} {numChar : Char → Bool} {t u : List Char} {d : Nat}

@[simp] theorem scan_nil (p : Mode × Nat) : scan p [] = some p := rfl

@[simp] theorem scan_cons (p : Mode × Nat) (c : Char) (t : List Char) :
    scan p (c :: t) = (read p c).bind fun q => scan q t := rfl

theorem scan_append (p : Mode × Nat) (t u : List Char) :
    scan p (t ++ u) = (scan p t).bind fun q => scan q u := List.foldlM_append

theorem Level.append (ht : Level t) (hu : Level u) : Level (t ++ u) := by
  intro d
  rw [scan_append,ht d]
  exact hu d

theorem level_of_chars (h : ∀ c ∈ t, c ∉ ['"','\\','{','}']) : Level t := by
  intro d
  induction t with
  | nil => rfl
  | cons c t ih =>
    have hc := h c List.mem_cons_self
    simp only [List.mem_cons,List.not_mem_nil,or_false,not_or] at hc
    simp [read,hc,ih fun c hc => h c (List.mem_cons_of_mem _ hc)]

theorem Level.braces (h : Level t) : Level ('{' :: (t ++ ['}'])) := by
  intro d
  simp [read,scan_append,h (d + 1)]

theorem Level.brackets (h : Level t) : Level ('[' :: (t ++ [']'])) := by
  intro d
  simp [read,scan_append,h d]

theorem scan_string (h : ∀ c ∈ t, c ≠ '"' ∧ c ≠ '\\') :
    scan (.string,d) t = some (.string,d) := by
  induction t with
  | nil => rfl
  | cons c t ih =>
    simp [read,h c List.mem_cons_self,ih fun c hc => h c (List.mem_cons_of_mem _ hc)]

theorem scan_piece (h : piece t = true) : scan (.string,d) t = some (.string,d) := by
  match t with
  | [] => cases h
  | [c] =>
    simp only [piece,Bool.and_eq_true,bne_iff_ne] at h
    exact scan_string (by simpa using h)
  | c :: e :: r =>
    simp only [piece,Bool.and_eq_true,beq_iff_eq,List.all_eq_true,bne_iff_ne] at h
    obtain ⟨rfl,hr⟩ := h
    simp [read,scan_string hr]

theorem Readable.level_quote (hS : Readable S numChar) (s : List Char) : Level (S.quote s) := by
  intro d
  have hs : ∀ z, scan (.string,d) (s.flatMap S.char ++ z) = scan (.string,d) z := by
    intro z
    induction s with
    | nil => rfl
    | cons c s ih =>
      rw [List.flatMap_cons,List.append_assoc,scan_append,scan_piece (hS.piece c)]
      exact ih
  simp [Style.quote,read,hs]

theorem level_commas {ts : List (List Char)} (h : ∀ t ∈ ts, Level t) : Level (commas ts) := by
  induction ts with
  | nil => exact fun _ => rfl
  | cons t ts ih =>
    have hrest := ih fun u hu => h u (List.mem_cons_of_mem _ hu)
    cases ts with
    | nil => exact h t List.mem_cons_self
    | cons u ts =>
      have hcomma : Level [','] := level_of_chars (by simp)
      exact (h t List.mem_cons_self).append (hcomma.append hrest)

theorem Readable.level_fields (hS : Readable S numChar) (fields : List (List Char × Value ν))
    (h : ∀ f ∈ fields, Level (render S f.2)) : Level (commas ((S.sorted fields).map S.field)) := by
  refine level_commas fun t ht => ?_
  obtain ⟨f,hf,rfl⟩ := List.mem_map.mp ht
  have hcolon : Level [':'] := level_of_chars (by simp)
  exact (hS.level_quote f.1).append (hcolon.append (h f (List.mem_mergeSort.mp hf)))

theorem Readable.level_render (hS : Readable S numChar) (v : Value ν) : Level (render S v) := by
  induction v using Value.induct with
  | null => exact level_of_chars (t := "null".toList) (by simp)
  | bool b =>
    cases b with
    | true => exact level_of_chars (t := "true".toList) (by simp)
    | false => exact level_of_chars (t := "false".toList) (by simp)
  | num n =>
    refine level_of_chars fun c hc hbad => ?_
    have hno : numChar c = false := by
      apply hS.apart
      simp only [List.mem_cons,List.not_mem_nil,or_false] at hbad
      rcases hbad with rfl | rfl | rfl | rfl <;> decide
    rw [hS.digits n c hc] at hno
    cases hno
  | str s => exact hS.level_quote s
  | arr items ih =>
    simp only [render,renderItems_eq]
    refine (level_commas fun t ht => ?_).brackets
    obtain ⟨v,hv,rfl⟩ := List.mem_map.mp ht
    exact ih v hv
  | obj fields ih =>
    simp only [render,sorted_renderFields]
    exact (hS.level_fields fields ih).braces

/-- One reader is in a string where the other is outside of strings. -/
def Opposite (m m' : Mode) : Prop := m = .plain ∧ m' = .string ∨ m = .string ∧ m' = .plain

/-- Such readers stay opposite: neither meets a backslash, since the other stands outside. -/
theorem opposite_scan {p q p' q' : Mode × Nat} (h : Opposite p.1 q.1) (hp : scan p t = some p')
    (hq : scan q t = some q') : Opposite p'.1 q'.1 := by
  induction t generalizing p q with
  | nil =>
    obtain rfl := Option.some.inj hp
    obtain rfl := Option.some.inj hq
    exact h
  | cons c t ih =>
    obtain ⟨a,ha,hp⟩ := Option.bind_eq_some_iff.mp hp
    obtain ⟨b,hb,hq⟩ := Option.bind_eq_some_iff.mp hq
    refine ih ?_ hp hq
    obtain ⟨m,k⟩ := p
    obtain ⟨m',k'⟩ := q
    rcases h with ⟨rfl,rfl⟩ | ⟨rfl,rfl⟩
    · simp only [read] at ha hb
      grind [Opposite]
    · simp only [read] at ha hb
      grind [Opposite]

/-- The text of an object is not what follows a colon in the text of an object. -/
theorem Readable.no_suffix (hS : Readable S numChar) (fs gs : List (List Char × Value ν))
    (before : List Char) : render S (.obj fs) ≠ before ++ ':' :: render S (.obj gs) := by
  intro h
  have hinner : ∀ fs : List (List Char × Value ν), ∃ t, Level t ∧
      render S (.obj fs) = '{' :: (t ++ ['}']) := by
    intro fs
    exact ⟨_,hS.level_fields fs fun f _ => hS.level_render f.2,
      by simp only [render,sorted_renderFields]⟩
  obtain ⟨t,ht,hfs⟩ := hinner fs
  obtain ⟨u,hu,hgs⟩ := hinner gs
  rw [hfs,hgs] at h
  cases before with
  | nil => simp at h
  | cons c before =>
    -- without the outer braces the first text leaves a reader where he was
    have hcut : t = before ++ ':' :: '{' :: u := by
      have hend : t ++ ['}'] = (before ++ ':' :: '{' :: u) ++ ['}'] := by
        simpa using (List.cons.inj h).2
      exact List.append_cancel_right hend
    have hscan := ht 0
    rw [hcut,scan_append] at hscan
    obtain ⟨⟨m,k⟩,-,hscan⟩ := Option.bind_eq_some_iff.mp hscan
    cases m with
    | plain =>
      simp [read,hu (k + 1)] at hscan
    | string | escaped =>
      simp only [scan_cons,read] at hscan
      exact absurd (opposite_scan (Or.inl ⟨rfl,rfl⟩) (hu 0) hscan) (by simp [Opposite])

end Suffixes

end JsonText
