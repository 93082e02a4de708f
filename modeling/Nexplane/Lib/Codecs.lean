import Mathlib.Data.List.TakeWhile

set_option autoImplicit false

/-! Printers with their readers: whatever follows a printed value, the reader finds the value's
image and stops behind it. -/

namespace Codecs

/-- What is printed of an `α` is read as a `β`. -/
structure Codec (α β : Type) where
  print : α → List Char
  read : List Char → Option (β × List Char)
  value : α → β
  read_print : ∀ a rest, read (print a ++ rest) = some (value a,rest)

namespace Codec

variable {α β γ δ : Type}

/-- Other names for what is printed and what is read. -/
def map (c : Codec α β) (f : γ → α) (g : β → δ) : Codec γ δ where
  print a := c.print (f a)
  read t := (c.read t).map fun p => (g p.1,p.2)
  value a := g (c.value (f a))
  read_print a rest := by rw [c.read_print]; rfl

/-- A fixed text in front. -/
def after (text : List Char) (c : Codec α β) : Codec α β where
  print a := text ++ c.print a
  read t := if text.isPrefixOf t then c.read (t.drop text.length) else none
  value := c.value
  read_print a rest := by
    have hprefix : text.isPrefixOf (text ++ c.print a ++ rest) = true := by
      rw [List.append_assoc,List.isPrefixOf_iff_prefix]
      exact List.prefix_append _ _
    rw [if_pos hprefix,List.append_assoc,List.drop_left,c.read_print]

def pair (c : Codec α β) (d : Codec γ δ) : Codec (α × γ) (β × δ) where
  print a := c.print a.1 ++ d.print a.2
  read t := (c.read t).bind fun p => (d.read p.2).map fun q => ((p.1,q.1),q.2)
  value a := (c.value a.1,d.value a.2)
  read_print a rest := by
    rw [List.append_assoc,c.read_print,Option.bind_some,d.read_print]
    rfl

/-- Nothing is printed, and nothing is read. -/
def nothing : Codec Unit Unit where
  print _ := []
  read t := some ((),t)
  value a := a
  read_print _ _ := rfl

/-- No printed value begins with the character, and each has a first one. -/
def StartsUnlike (c : Codec α β) (stop : Char) : Prop :=
  ∀ a, ∃ d ds, c.print a = d :: ds ∧ d ≠ stop

def readMany (c : Codec α β) (stop : Char) : Nat → List Char → Option (List β × List Char)
  | _,[] => none
  | 0,d :: t => if d = stop then some ([],t) else none
  | n + 1,d :: t =>
    if d = stop then some ([],t)
    else (c.read (d :: t)).bind fun p =>
      (readMany c stop n p.2).map fun q => (p.1 :: q.1,q.2)

theorem readMany_print {c : Codec α β} {stop : Char} (h : c.StartsUnlike stop) (as : List α)
    (rest : List Char) {n : Nat} (hn : as.length ≤ n) :
    readMany c stop n (as.flatMap c.print ++ stop :: rest) = some (as.map c.value,rest) := by
  induction as generalizing n with
  | nil => cases n <;> simp [readMany]
  | cons a as ih =>
    obtain ⟨n,rfl⟩ : ∃ m, n = m + 1 := ⟨n - 1,by simp at hn; omega⟩
    obtain ⟨d,ds,hd,hne⟩ := h a
    have hread : readMany c stop (n + 1) ((a :: as).flatMap c.print ++ stop :: rest) =
        (c.read (c.print a ++ (as.flatMap c.print ++ stop :: rest))).bind fun p =>
          (readMany c stop n p.2).map fun q => (p.1 :: q.1,q.2) := by
      rw [List.flatMap_cons,List.append_assoc,hd,List.cons_append,readMany,if_neg hne]
    rw [hread,c.read_print,Option.bind_some,ih (by simpa using hn)]
    rfl

theorem length_le_flatMap {c : Codec α β} {stop : Char} (h : c.StartsUnlike stop) (as : List α) :
    as.length ≤ (as.flatMap c.print).length := by
  induction as with
  | nil => exact Nat.le_refl 0
  | cons a as ih =>
    obtain ⟨d,ds,hd,_⟩ := h a
    rw [List.flatMap_cons,List.length_append,hd,List.length_cons,List.length_cons]
    omega

/-- Values one behind the other, up to a character. -/
def many (c : Codec α β) (stop : Char) (h : c.StartsUnlike stop) :
    Codec (List α) (List β) where
  print as := as.flatMap c.print ++ [stop]
  read t := c.readMany stop t.length t
  value as := as.map c.value
  read_print as rest := by
    have hlength := length_le_flatMap h as
    rw [List.append_assoc,List.singleton_append]
    exact readMany_print h as rest (by simp only [List.length_append]; omega)

/-- Values with commas between them, up to a character. -/
def commas (c : Codec α β) (stop : Char) (hstop : ',' ≠ stop) (h : c.StartsUnlike stop) :
    Codec (List α) (List β) :=
  let others := (c.after [',']).many stop fun a => ⟨',',c.print a,rfl,hstop⟩
  { print := fun
      | [] => [stop]
      | a :: as => c.print a ++ others.print as
    read := fun
      | [] => none
      | d :: t =>
        if d = stop then some ([],t)
        else ((c.pair others).read (d :: t)).map fun p => (p.1.1 :: p.1.2,p.2)
    value := fun as => as.map c.value
    read_print := by
      intro as rest
      cases as with
      | nil => simp
      | cons a as =>
        obtain ⟨d,ds,hd,hne⟩ := h a
        have hpair : (c.pair others).read (c.print a ++ others.print as ++ rest) =
          some ((c.value a,others.value as),rest) := (c.pair others).read_print (a,as) rest
        have hprint : c.print a ++ others.print as ++ rest =
          d :: (ds ++ others.print as ++ rest) := by rw [hd]; rfl
        rw [hprint] at hpair ⊢
        dsimp only
        rw [if_neg hne,hpair]
        rfl }

/-- A number in decimal, and a character behind it. -/
def natural (stop : Char) (hstop : stop.isDigit = false) : Codec Nat Nat where
  print n := Nat.toDigits 10 n ++ [stop]
  read t :=
    let digits := t.takeWhile Char.isDigit
    match t.dropWhile Char.isDigit with
    | [] => none
    | d :: rest =>
      if digits = [] ∨ d ≠ stop then none else some (Nat.ofDigitChars 10 digits 0,rest)
  value n := n
  read_print n rest := by
    have hdigits : ∀ c ∈ Nat.toDigits 10 n, c.isDigit = true := fun c hc =>
      Nat.isDigit_of_mem_toDigits (by decide) (by decide) hc
    have htake : (Nat.toDigits 10 n ++ [stop] ++ rest).takeWhile Char.isDigit =
        Nat.toDigits 10 n := by
      rw [List.append_assoc,List.takeWhile_append_of_pos hdigits]
      simp [hstop]
    have hdrop : (Nat.toDigits 10 n ++ [stop] ++ rest).dropWhile Char.isDigit =
        stop :: rest := by
      rw [List.append_assoc,List.dropWhile_append_of_pos hdigits]
      simp [hstop]
    simp only [htake,hdrop,Nat.ofDigitChars_ten_toDigits]
    rw [if_neg (by simp [Nat.toDigits_ne_nil])]

section Fields

variable {c : Codec α β} {d : Codec γ δ} {stop : Char}

@[simp] theorem print_map {ε ζ : Type} (f : ε → α) (g : β → ζ) (a : ε) :
    (c.map f g).print a = c.print (f a) := rfl

@[simp] theorem print_after (text : List Char) (a : α) :
    (c.after text).print a = text ++ c.print a := rfl

@[simp] theorem print_pair (a : α × γ) : (c.pair d).print a = c.print a.1 ++ d.print a.2 := rfl

@[simp] theorem print_nothing (a : Unit) : nothing.print a = [] := rfl

@[simp] theorem print_many (h : c.StartsUnlike stop) (as : List α) :
    (c.many stop h).print as = as.flatMap c.print ++ [stop] := rfl

@[simp] theorem print_commas_nil (hne : ',' ≠ stop) (h : c.StartsUnlike stop) :
    (c.commas stop hne h).print [] = [stop] := rfl

@[simp] theorem print_commas_cons (hne : ',' ≠ stop) (h : c.StartsUnlike stop) (a : α)
    (as : List α) : (c.commas stop hne h).print (a :: as) =
      c.print a ++ (as.flatMap (c.after [',']).print ++ [stop]) := rfl

@[simp] theorem print_natural (hstop : stop.isDigit = false) (n : Nat) :
    (natural stop hstop).print n = Nat.toDigits 10 n ++ [stop] := rfl

@[simp] theorem value_map {ε ζ : Type} (f : ε → α) (g : β → ζ) (a : ε) :
    (c.map f g).value a = g (c.value (f a)) := rfl

@[simp] theorem value_after (text : List Char) (a : α) :
    (c.after text).value a = c.value a := rfl

@[simp] theorem value_pair (a : α × γ) : (c.pair d).value a = (c.value a.1,d.value a.2) := rfl

@[simp] theorem value_many (h : c.StartsUnlike stop) (as : List α) :
    (c.many stop h).value as = as.map c.value := rfl

@[simp] theorem value_commas (hne : ',' ≠ stop) (h : c.StartsUnlike stop) (as : List α) :
    (c.commas stop hne h).value as = as.map c.value := rfl

end Fields

/-- All printed characters have the property. -/
def Prints (p : Char → Prop) (c : Codec α β) : Prop := ∀ a, ∀ d ∈ c.print a, p d

section Prints

variable {p : Char → Prop} {c : Codec α β} {d : Codec γ δ} {stop : Char}

theorem prints_map {ε ζ : Type} (f : ε → α) (g : β → ζ) (h : c.Prints p) : (c.map f g).Prints p :=
  fun a => h (f a)

theorem prints_after {text : List Char} (htext : ∀ e ∈ text, p e) (h : c.Prints p) :
    (c.after text).Prints p := by
  intro a e he
  rcases List.mem_append.mp he with he | he
  · exact htext e he
  · exact h a e he

theorem prints_pair (hc : c.Prints p) (hd : d.Prints p) : (c.pair d).Prints p := by
  intro a e he
  rcases List.mem_append.mp he with he | he
  · exact hc a.1 e he
  · exact hd a.2 e he

theorem prints_nothing : nothing.Prints p := fun _ _ he => by cases he

theorem prints_many {h : c.StartsUnlike stop} (hc : c.Prints p) (hstop : p stop) :
    (c.many stop h).Prints p := by
  intro as e he
  rcases List.mem_append.mp he with he | he
  · obtain ⟨a,_,he⟩ := List.mem_flatMap.mp he
    exact hc a e he
  · rwa [List.mem_singleton.mp he]

theorem prints_commas {hne : ',' ≠ stop} {h : c.StartsUnlike stop} (hc : c.Prints p)
    (hstop : p stop) (hcomma : p ',') : (c.commas stop hne h).Prints p := by
  intro as e he
  cases as with
  | nil => rwa [List.mem_singleton.mp he]
  | cons a as =>
    rcases List.mem_append.mp he with he | he
    · exact hc a e he
    · refine prints_many (prints_after ?_ hc) hstop as e he
      simpa using hcomma

theorem prints_natural {hstop : stop.isDigit = false} (hp : p stop)
    (hdigit : ∀ e : Char, e.isDigit = true → p e) : (natural stop hstop).Prints p := by
  intro n e he
  rcases List.mem_append.mp he with he | he
  · exact hdigit e (Nat.isDigit_of_mem_toDigits (by decide) (by decide) he)
  · rwa [List.mem_singleton.mp he]

end Prints

end Codec

end Codecs
