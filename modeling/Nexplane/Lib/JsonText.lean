import Mathlib.Data.List.Basic

set_option autoImplicit false

/-! Texts of JSON values as printers write them that differ in the escapes of strings and in the
numbers, and when two such printers write one text. -/

namespace JsonText

inductive Value (ν : Type) where
  | null
  | bool (b : Bool)
  | num (n : ν)
  | str (s : List Char)
  | arr (items : List (Value ν))
  | obj (fields : List (List Char × Value ν))

/-- A printer without blanks that sorts the keys of objects. -/
structure Style (ν : Type) where
  char : Char → List Char
  num : ν → List Char
  le : List Char → List Char → Bool

variable {ν μ : Type}

def commas : List (List Char) → List Char
  | [] => []
  | [t] => t
  | t :: ts => t ++ ',' :: commas ts

def Style.quote (S : Style ν) (s : List Char) : List Char := '"' :: (s.flatMap S.char ++ ['"'])

def Style.sorted {α : Type} (S : Style ν) (fields : List (List Char × α)) : List (List Char × α) :=
  fields.mergeSort fun f g => S.le f.1 g.1

mutual

def render (S : Style ν) : Value ν → List Char
  | .null => "null".toList
  | .bool true => "true".toList
  | .bool false => "false".toList
  | .num n => S.num n
  | .str s => S.quote s
  | .arr items => '[' :: (commas (renderItems S items) ++ [']'])
  | .obj fields => '{' :: (commas ((S.sorted (renderFields S fields)).map Prod.snd) ++ ['}'])

def renderItems (S : Style ν) : List (Value ν) → List (List Char)
  | [] => []
  | v :: vs => render S v :: renderItems S vs

/-- The fields with their keys, by which they are still to be sorted. -/
def renderFields (S : Style ν) : List (List Char × Value ν) → List (List Char × List Char)
  | [] => []
  | (k,v) :: fs => (k,S.quote k ++ ':' :: render S v) :: renderFields S fs

end

example (S : Style ν) : render S (.arr [.null,.arr []]) = "[null,[]]".toList := by
  simp [render,renderItems,commas]

mutual

/-- The strings of a value, the keys of its objects included. -/
def Value.strings : Value ν → List (List Char)
  | .str s => [s]
  | .arr items => itemStrings items
  | .obj fields => fieldStrings fields
  | _ => []

def itemStrings : List (Value ν) → List (List Char)
  | [] => []
  | v :: vs => v.strings ++ itemStrings vs

def fieldStrings : List (List Char × Value ν) → List (List Char)
  | [] => []
  | (k,v) :: fs => k :: (v.strings ++ fieldStrings fs)

end

mutual

def Value.numbers : Value ν → List ν
  | .num n => [n]
  | .arr items => itemNumbers items
  | .obj fields => fieldNumbers fields
  | _ => []

def itemNumbers : List (Value ν) → List ν
  | [] => []
  | v :: vs => v.numbers ++ itemNumbers vs

def fieldNumbers : List (List Char × Value ν) → List ν
  | [] => []
  | (_,v) :: fs => v.numbers ++ fieldNumbers fs

end

mutual

/-- The value with its numbers read anew, unless one of them cannot be. -/
def Value.mapNum (f : ν → Option μ) : Value ν → Option (Value μ)
  | .null => some .null
  | .bool b => some (.bool b)
  | .num n => (f n).map .num
  | .str s => some (.str s)
  | .arr items => (mapItems f items).map .arr
  | .obj fields => (mapFields f fields).map .obj

def mapItems (f : ν → Option μ) : List (Value ν) → Option (List (Value μ))
  | [] => some []
  | v :: vs =>
    match v.mapNum f, mapItems f vs with
    | some w, some ws => some (w :: ws)
    | _, _ => none

def mapFields (f : ν → Option μ) :
    List (List Char × Value ν) → Option (List (List Char × Value μ))
  | [] => some []
  | (k,v) :: fs =>
    match v.mapNum f, mapFields f fs with
    | some w, some gs => some ((k,w) :: gs)
    | _, _ => none

end

section Induction

variable {P : Value ν → Prop}

mutual

/-- Induction on a value by its members. -/
@[elab_as_elim] theorem Value.induct (null : P .null) (bool : ∀ b, P (.bool b))
    (num : ∀ n, P (.num n)) (str : ∀ s, P (.str s))
    (arr : ∀ items, (∀ v ∈ items, P v) → P (.arr items))
    (obj : ∀ fields, (∀ f ∈ fields, P f.2) → P (.obj fields)) : (v : Value ν) → P v
  | .null => null
  | .bool b => bool b
  | .num n => num n
  | .str s => str s
  | .arr items => arr items (items_induct null bool num str arr obj items)
  | .obj fields => obj fields (fields_induct null bool num str arr obj fields)

theorem items_induct (null : P .null) (bool : ∀ b, P (.bool b))
    (num : ∀ n, P (.num n)) (str : ∀ s, P (.str s))
    (arr : ∀ items, (∀ v ∈ items, P v) → P (.arr items))
    (obj : ∀ fields, (∀ f ∈ fields, P f.2) → P (.obj fields)) :
    (items : List (Value ν)) → ∀ v ∈ items, P v
  | [] => by simp
  | v :: vs => List.forall_mem_cons.mpr
      ⟨Value.induct null bool num str arr obj v,items_induct null bool num str arr obj vs⟩

theorem fields_induct (null : P .null) (bool : ∀ b, P (.bool b))
    (num : ∀ n, P (.num n)) (str : ∀ s, P (.str s))
    (arr : ∀ items, (∀ v ∈ items, P v) → P (.arr items))
    (obj : ∀ fields, (∀ f ∈ fields, P f.2) → P (.obj fields)) :
    (fields : List (List Char × Value ν)) → ∀ f ∈ fields, P f.2
  | [] => by simp
  | (_,v) :: fs => List.forall_mem_cons.mpr
      ⟨Value.induct null bool num str arr obj v,fields_induct null bool num str arr obj fs⟩

end

end Induction

/-- The text of a field. -/
def Style.field (S : Style ν) (f : List Char × Value ν) : List Char :=
  S.quote f.1 ++ ':' :: render S f.2

theorem renderItems_eq (S : Style ν) (items : List (Value ν)) :
    renderItems S items = items.map (render S) := by
  induction items with
  | nil => rfl
  | cons v vs ih => simp [renderItems,ih]

theorem renderFields_eq (S : Style ν) (fields : List (List Char × Value ν)) :
    renderFields S fields = fields.map fun f => (f.1,S.field f) := by
  induction fields with
  | nil => rfl
  | cons f fs ih => simp [renderFields,ih,Style.field]

/-- The fields may as well be sorted before they are printed. -/
theorem sorted_renderFields (S : Style ν) (fields : List (List Char × Value ν)) :
    (S.sorted (renderFields S fields)).map Prod.snd = (S.sorted fields).map S.field := by
  have hsort := List.map_mergeSort (r := fun f g : List Char × Value ν => S.le f.1 g.1)
    (s := fun f g : List Char × List Char => S.le f.1 g.1) (f := fun f => (f.1,S.field f))
    (l := fields) fun _ _ _ _ => rfl
  rw [renderFields_eq,Style.sorted,← hsort,List.map_map]
  rfl

section Members

variable {items : List (Value ν)} {fields : List (List Char × Value ν)} {s : List Char} {n : ν}

@[simp] theorem mem_itemStrings : s ∈ itemStrings items ↔ ∃ v ∈ items, s ∈ v.strings := by
  induction items with
  | nil => simp [itemStrings]
  | cons v vs ih => simp [itemStrings,ih]

@[simp] theorem mem_itemNumbers : n ∈ itemNumbers items ↔ ∃ v ∈ items, n ∈ v.numbers := by
  induction items with
  | nil => simp [itemNumbers]
  | cons v vs ih => simp [itemNumbers,ih]

@[simp] theorem mem_fieldStrings :
    s ∈ fieldStrings fields ↔ ∃ f ∈ fields, s = f.1 ∨ s ∈ f.2.strings := by
  induction fields with
  | nil => simp [fieldStrings]
  | cons f fs ih => simp [fieldStrings,ih,or_assoc]

@[simp] theorem mem_fieldNumbers : n ∈ fieldNumbers fields ↔ ∃ f ∈ fields, n ∈ f.2.numbers := by
  induction fields with
  | nil => simp [fieldNumbers]
  | cons f fs ih => simp [fieldNumbers,ih]

end Members

section Comparison

/-- Two printers that sort alike and whose texts can be told apart piece by piece. -/
structure Comparable (S T : Style ν) (numChar : Char → Bool) : Prop where
  le : S.le = T.le
  char : ∀ c x y, S.char c ++ x = T.char c ++ y → S.char c = T.char c
  left : ∀ n, ∀ c ∈ S.num n, numChar c = true
  right : ∀ n, ∀ c ∈ T.num n, numChar c = true
  ends : ∀ c, c = ',' ∨ c = ']' ∨ c = '}' → numChar c = false

/-- Every string and every number of the value is printed the same. -/
structure Alike (S T : Style ν) (strings : List (List Char)) (numbers : List ν) : Prop where
  chars : ∀ s ∈ strings, ∀ c ∈ s, S.char c = T.char c
  nums : ∀ n ∈ numbers, S.num n = T.num n

variable {S T : Style ν} {numChar : Char → Bool}

def Ends (numChar : Char → Bool) (x : List Char) : Prop := ∀ c ∈ x.head?, numChar c = false

theorem quote_eq (hC : Comparable S T numChar) {s x y : List Char}
    (h : S.quote s ++ x = T.quote s ++ y) : (∀ c ∈ s, S.char c = T.char c) ∧ x = y := by
  simp only [Style.quote,List.cons_append,List.append_assoc,List.cons.injEq,true_and] at h
  induction s with
  | nil => simpa using h
  | cons c s ih =>
    simp only [List.flatMap_cons,List.append_assoc] at h
    have hc := hC.char c _ _ h
    rw [hc] at h
    obtain ⟨hs,hxy⟩ := ih (List.append_cancel_left h)
    exact ⟨by simpa [hc] using hs,hxy⟩

theorem takeWhile_number {t z : List Char} (ht : ∀ c ∈ t, numChar c = true) (hz : Ends numChar z) :
    (t ++ z).takeWhile numChar = t := by
  rw [List.takeWhile_append_of_pos ht]
  cases z with
  | nil => simp
  | cons c z => simp [hz c rfl]

theorem num_eq (hC : Comparable S T numChar) {n : ν} {x y : List Char} (hx : Ends numChar x)
    (hy : Ends numChar y) (h : S.num n ++ x = T.num n ++ y) : S.num n = T.num n ∧ x = y := by
  have hnum : S.num n = T.num n := by
    rw [← takeWhile_number (hC.left n) hx,h,takeWhile_number (hC.right n) hy]
  rw [hnum] at h
  exact ⟨hnum,List.append_cancel_left h⟩

/-- Where the two texts begin what they print, they print the same, and then go on alike. -/
def Splits (numChar : Char → Bool) (t u : List Char) (P : Prop) : Prop :=
  ∀ x y, Ends numChar x → Ends numChar y → t ++ x = u ++ y → P ∧ x = y

theorem commas_eq {α : Type} {f g : α → List Char} {P : α → Prop} {e : Char} {l : List α}
    (hC : Comparable S T numChar) (he : e = ']' ∨ e = '}')
    (hl : ∀ a ∈ l, Splits numChar (f a) (g a) (P a)) {x y : List Char}
    (h : commas (l.map f) ++ e :: x = commas (l.map g) ++ e :: y) : (∀ a ∈ l, P a) ∧ x = y := by
  have hclose : ∀ z, Ends numChar (e :: z) := by
    intro z c hc
    obtain rfl : e = c := by simpa using hc
    exact hC.ends e (Or.inr he)
  have hcomma : ∀ z, Ends numChar (',' :: z) := by
    intro z c hc
    obtain rfl : ',' = c := by simpa using hc
    exact hC.ends ',' (Or.inl rfl)
  induction l with
  | nil => simpa [commas] using h
  | cons a l ih =>
    have ha := hl a List.mem_cons_self
    cases l with
    | nil =>
      obtain ⟨hP,hxy⟩ := ha _ _ (hclose x) (hclose y) h
      exact ⟨by simpa using hP,by simpa using hxy⟩
    | cons b l =>
      simp only [List.map_cons,commas,List.append_assoc,List.cons_append] at h
      obtain ⟨hP,hrest⟩ := ha _ _ (hcomma _) (hcomma _) h
      obtain ⟨hPs,hxy⟩ := ih (fun a' ha' => hl a' (List.mem_cons_of_mem _ ha'))
        (List.cons.inj hrest).2
      refine ⟨fun a' ha' => ?_,hxy⟩
      rcases List.mem_cons.mp ha' with rfl | ha'
      · exact hP
      · exact hPs a' ha'

theorem literal_splits {t : List Char} {P : Prop} (hP : P) : Splits numChar t t P :=
  fun _ _ _ _ h => ⟨hP,List.append_cancel_left h⟩

theorem alike_nil : Alike S T [] [] := ⟨by simp,by simp⟩

theorem field_splits (hC : Comparable S T numChar) {f : List Char × Value ν} {P : Prop}
    (hv : Splits numChar (render S f.2) (render T f.2) P) :
    Splits numChar (S.field f) (T.field f) ((∀ c ∈ f.1, S.char c = T.char c) ∧ P) := by
  intro x y hx hy h
  simp only [Style.field,List.append_assoc,List.cons_append] at h
  obtain ⟨hk,hrest⟩ := quote_eq hC h
  obtain ⟨hP,hxy⟩ := hv x y hx hy (List.cons.inj hrest).2
  exact ⟨⟨hk,hP⟩,hxy⟩

theorem render_splits (hC : Comparable S T numChar) (v : Value ν) :
    Splits numChar (render S v) (render T v) (Alike S T v.strings v.numbers) := by
  induction v using Value.induct with
  | null => exact literal_splits alike_nil
  | bool b => cases b <;> exact literal_splits alike_nil
  | num n =>
    intro x y hx hy h
    obtain ⟨hn,hxy⟩ := num_eq hC hx hy h
    exact ⟨⟨by simp [Value.strings],by simpa [Value.numbers] using hn⟩,hxy⟩
  | str s =>
    intro x y _ _ h
    obtain ⟨hs,hxy⟩ := quote_eq hC h
    exact ⟨⟨by simpa [Value.strings] using hs,by simp [Value.numbers]⟩,hxy⟩
  | arr items ih =>
    intro x y _ _ h
    simp only [render,renderItems_eq,List.cons_append,List.append_assoc,List.cons.injEq,
      true_and,List.nil_append] at h
    obtain ⟨hitems,hxy⟩ := commas_eq hC (Or.inl rfl) ih h
    refine ⟨⟨?_,?_⟩,hxy⟩
    · intro s hs
      obtain ⟨v,hv,hs⟩ := mem_itemStrings.mp hs
      exact (hitems v hv).chars s hs
    · intro n hn
      obtain ⟨v,hv,hn⟩ := mem_itemNumbers.mp hn
      exact (hitems v hv).nums n hn
  | obj fields ih =>
    intro x y _ _ h
    have hsorted : T.sorted fields = S.sorted fields := by rw [Style.sorted,Style.sorted,hC.le]
    simp only [render,sorted_renderFields,hsorted,List.cons_append,List.append_assoc,
      List.cons.injEq,true_and,List.nil_append] at h
    have hmem : ∀ f, f ∈ S.sorted fields ↔ f ∈ fields := fun f => List.mem_mergeSort
    obtain ⟨hfields,hxy⟩ := commas_eq hC (Or.inr rfl)
      (fun f hf => field_splits hC (ih f ((hmem f).mp hf))) h
    refine ⟨⟨?_,?_⟩,hxy⟩
    · intro s hs
      obtain ⟨f,hf,hs⟩ := mem_fieldStrings.mp hs
      have halike := hfields f ((hmem f).mpr hf)
      rcases hs with rfl | hs
      · exact halike.1
      · exact halike.2.chars s hs
    · intro n hn
      obtain ⟨f,hf,hn⟩ := mem_fieldNumbers.mp hn
      exact (hfields f ((hmem f).mpr hf)).2.nums n hn

theorem quote_congr {s : List Char} (h : ∀ c ∈ s, S.char c = T.char c) : S.quote s = T.quote s := by
  rw [Style.quote,Style.quote,List.flatMap_congr h]

theorem render_congr (hle : S.le = T.le) (v : Value ν) (h : Alike S T v.strings v.numbers) :
    render S v = render T v := by
  induction v using Value.induct with
  | null => rfl
  | bool b => cases b <;> rfl
  | num n => exact h.nums n (by simp [Value.numbers])
  | str s => exact quote_congr (h.chars s (by simp [Value.strings]))
  | arr items ih =>
    have hitems : ∀ v ∈ items, render S v = render T v := fun v hv => ih v hv
      ⟨fun s hs => h.chars s (mem_itemStrings.mpr ⟨v,hv,hs⟩),
        fun n hn => h.nums n (mem_itemNumbers.mpr ⟨v,hv,hn⟩)⟩
    simp only [render,renderItems_eq,List.map_congr_left hitems]
  | obj fields ih =>
    have hfields : ∀ f ∈ S.sorted fields, S.field f = T.field f := by
      intro f hf
      have hf : f ∈ fields := List.mem_mergeSort.mp hf
      have hkey := h.chars f.1 (mem_fieldStrings.mpr ⟨f,hf,Or.inl rfl⟩)
      have hvalue := ih f hf ⟨fun s hs => h.chars s (mem_fieldStrings.mpr ⟨f,hf,Or.inr hs⟩),
        fun n hn => h.nums n (mem_fieldNumbers.mpr ⟨f,hf,hn⟩)⟩
      rw [Style.field,Style.field,quote_congr hkey,hvalue]
    have hsorted : T.sorted fields = S.sorted fields := by rw [Style.sorted,Style.sorted,hle]
    simp only [render,sorted_renderFields,hsorted]
    rw [List.map_congr_left hfields]

/-- Two comparable printers write one text of a value just if they write its strings and its
numbers alike. -/
theorem render_eq_iff (hC : Comparable S T numChar) (v : Value ν) :
    render S v = render T v ↔ Alike S T v.strings v.numbers := by
  constructor
  · intro h
    have hnil : Ends numChar [] := by simp [Ends]
    exact (render_splits hC v [] [] hnil hnil (by rw [h])).1
  · exact render_congr hC.le v

end Comparison

section Replacing

variable {S : Style ν} {g : Char → List Char}

/-- The characters that a printer writes itself. -/
def structural : List Char := "[]{},:\"nultrefas".toList

/-- The printer whose text is replaced character by character. -/
def Style.replaced (S : Style ν) (g : Char → List Char) : Style ν where
  char := fun c => (S.char c).flatMap g
  num := S.num
  le := S.le

theorem flatMap_fixed {t : List Char} (h : ∀ c ∈ t, g c = [c]) : t.flatMap g = t := by
  rw [List.flatMap_congr h,List.flatMap_singleton']

theorem flatMap_commas (h : g ',' = [',']) (ts : List (List Char)) :
    (commas ts).flatMap g = commas (ts.map (List.flatMap g)) := by
  induction ts with
  | nil => rfl
  | cons t ts ih =>
    cases ts with
    | nil => rfl
    | cons u ts =>
      change (t ++ ',' :: commas (u :: ts)).flatMap g = _
      rw [List.flatMap_append,List.flatMap_cons,h,ih]
      rfl

theorem flatMap_quote (h : g '"' = ['"']) (s : List Char) :
    (S.quote s).flatMap g = (S.replaced g).quote s := by
  simp [Style.quote,Style.replaced,h,List.flatMap_assoc]

theorem render_replaced (hplain : ∀ c ∈ structural, g c = [c])
    (hnum : ∀ n, ∀ c ∈ S.num n, g c = [c]) (v : Value ν) :
    (render S v).flatMap g = render (S.replaced g) v := by
  have hchar : ∀ c, c ∈ structural → ∀ t, (c :: t).flatMap g = c :: t.flatMap g := by
    intro c hc t
    rw [List.flatMap_cons,hplain c hc]
    rfl
  induction v using Value.induct with
  | null =>
    have hsub : "null".toList ⊆ structural := by decide
    exact flatMap_fixed fun c hc => hplain c (hsub hc)
  | bool b =>
    have hsub : "true".toList ++ "false".toList ⊆ structural := by decide
    cases b with
    | true => exact flatMap_fixed fun c hc => hplain c (hsub (List.mem_append_left _ hc))
    | false => exact flatMap_fixed fun c hc => hplain c (hsub (List.mem_append_right _ hc))
  | num n => exact flatMap_fixed (hnum n)
  | str s => exact flatMap_quote (hplain '"' (by decide)) s
  | arr items ih =>
    simp only [render,renderItems_eq,hchar '[' (by decide),List.flatMap_append,
      hchar ']' (by decide),List.flatMap_nil,flatMap_commas (hplain ',' (by decide)),List.map_map]
    rw [List.map_congr_left (f := List.flatMap g ∘ render S) ih]
  | obj fields ih =>
    have hfield : ∀ f ∈ S.sorted fields, (S.field f).flatMap g = (S.replaced g).field f := by
      intro f hf
      rw [Style.field,List.flatMap_append,hchar ':' (by decide),flatMap_quote (hplain '"' (by decide)),
        ih f (List.mem_mergeSort.mp hf)]
      rfl
    simp only [render,sorted_renderFields,hchar '{' (by decide),List.flatMap_append,
      hchar '}' (by decide),List.flatMap_nil,flatMap_commas (hplain ',' (by decide)),List.map_map]
    rw [List.map_congr_left (f := List.flatMap g ∘ S.field) hfield]
    rfl

end Replacing

section Numbers

variable {f : ν → Option μ}

theorem mapItems_isSome {items : List (Value ν)} :
    (mapItems f items).isSome ↔ ∀ v ∈ items, (v.mapNum f).isSome := by
  induction items with
  | nil => simp [mapItems]
  | cons v vs ih =>
    simp only [mapItems,List.forall_mem_cons,← ih]
    cases v.mapNum f <;> cases mapItems f vs <;> simp

theorem mapFields_isSome {fields : List (List Char × Value ν)} :
    (mapFields f fields).isSome ↔ ∀ g ∈ fields, (g.2.mapNum f).isSome := by
  induction fields with
  | nil => simp [mapFields]
  | cons g gs ih =>
    simp only [mapFields,List.forall_mem_cons,← ih]
    cases g.2.mapNum f <;> cases mapFields f gs <;> simp

theorem mapNum_isSome (v : Value ν) :
    (v.mapNum f).isSome ↔ ∀ n ∈ v.numbers, (f n).isSome := by
  induction v using Value.induct with
  | null => simp [Value.mapNum,Value.numbers]
  | bool b => simp [Value.mapNum,Value.numbers]
  | num n => simp [Value.mapNum,Value.numbers]
  | str s => simp [Value.mapNum,Value.numbers]
  | arr items ih =>
    simp only [Value.mapNum,Option.isSome_map,mapItems_isSome,Value.numbers,mem_itemNumbers]
    grind
  | obj fields ih =>
    simp only [Value.mapNum,Option.isSome_map,mapFields_isSome,Value.numbers,mem_fieldNumbers]
    grind

/-- The printer of the numbers as they are read anew. -/
def Style.reading (T : Style μ) (f : ν → Option μ) : Style ν where
  char := T.char
  num := fun n => (f n).elim [] T.num
  le := T.le

variable {T : Style μ}

theorem mapItems_eq_some {items : List (Value ν)} {ws : List (Value μ)}
    (h : mapItems f items = some ws) (hmem : ∀ v ∈ items, ∀ w, v.mapNum f = some w →
      render T w = render (T.reading f) v) :
    ws.map (render T) = items.map (render (T.reading f)) := by
  induction items generalizing ws with
  | nil =>
    obtain rfl := Option.some.inj h
    rfl
  | cons v vs ih =>
    simp only [mapItems] at h
    split at h
    · next w ws' hw hws =>
      obtain rfl := Option.some.inj h
      rw [List.map_cons,List.map_cons,hmem v List.mem_cons_self w hw,
        ih hws fun u hu => hmem u (List.mem_cons_of_mem _ hu)]
    · cases h

theorem mapFields_eq_some {fields : List (List Char × Value ν)} {gs : List (List Char × Value μ)}
    (h : mapFields f fields = some gs) (hmem : ∀ g ∈ fields, ∀ w, g.2.mapNum f = some w →
      render T w = render (T.reading f) g.2) :
    renderFields T gs = renderFields (T.reading f) fields := by
  induction fields generalizing gs with
  | nil =>
    obtain rfl := Option.some.inj h
    rfl
  | cons g gs ih =>
    simp only [mapFields] at h
    split at h
    · next w ws hw hws =>
      obtain rfl := Option.some.inj h
      rw [renderFields,renderFields,hmem g List.mem_cons_self w hw,
        ih hws fun u hu => hmem u (List.mem_cons_of_mem _ hu)]
      rfl
    · cases h

theorem render_mapNum (v : Value ν) {w : Value μ} (h : v.mapNum f = some w) :
    render T w = render (T.reading f) v := by
  induction v using Value.induct generalizing w with
  | null =>
    obtain rfl := Option.some.inj h
    rfl
  | bool b =>
    obtain rfl := Option.some.inj h
    cases b <;> rfl
  | num n =>
    obtain ⟨m,hm,rfl⟩ := Option.map_eq_some_iff.mp h
    simp [render,Style.reading,hm]
  | str s =>
    obtain rfl := Option.some.inj h
    rfl
  | arr items ih =>
    obtain ⟨ws,hws,rfl⟩ := Option.map_eq_some_iff.mp h
    simp only [render,renderItems_eq,mapItems_eq_some hws fun v hv w hw => ih v hv hw]
  | obj fields ih =>
    obtain ⟨gs,hgs,rfl⟩ := Option.map_eq_some_iff.mp h
    simp only [render,mapFields_eq_some hgs fun g hg w hw => ih g hg hw]
    rfl

end Numbers

end JsonText
