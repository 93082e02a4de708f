import Nexplane.Lib.Text
import Mathlib.Algebra.Group.Nat.Defs

set_option autoImplicit false

/-! Texts of IPv4 and IPv6 addresses: dotted quads, and hexadecimal groups of which one run of
zeros may be left out and the last two may be a dotted quad. -/

namespace Ip
open Text

inductive Addr where
  | v4 (value : Nat)
  | v6 (value : Nat)
  deriving DecidableEq, Repr

def Addr.bits : Addr → Nat
  | .v4 _ => 32
  | .v6 _ => 128

def Addr.value : Addr → Nat
  | .v4 n | .v6 n => n

/-- At most three digits, no leading zero. -/
def octet (cs : List Char) : Option Nat :=
  match decimalValue cs with
  | none => none
  | some n => if cs.length ≤ 3 ∧ (cs.head? = some '0' → cs = ['0']) ∧ n ≤ 255 then some n else none

def v4Value (cs : List Char) : Option Nat :=
  match (cs.splitOn '.').map octet with
  | [some a,some b,some c,some d] => some (16777216 * a + 65536 * b + 256 * c + d)
  | _ => none

def hexDigit (c : Char) : Option Nat :=
  let n := c.toNat
  if 48 ≤ n ∧ n ≤ 57 then some (n - 48)
  else if 97 ≤ n ∧ n ≤ 102 then some (n - 87)
  else if 65 ≤ n ∧ n ≤ 70 then some (n - 55)
  else none

/-- The number of hexadecimal digits. -/
def hexValue : List Char → Nat → Option Nat
  | [], n => some n
  | c :: cs, n =>
    match hexDigit c with
    | none => none
    | some d => hexValue cs (16 * n + d)

def hextet (cs : List Char) : Option Nat :=
  if cs = [] ∨ 4 < cs.length then none else hexValue cs 0

/-- The groups of a text between colons; with `quad` the last may be a dotted quad. -/
def groups (quad : Bool) : List (List Char) → Option (List Nat)
  | [] => some []
  | g :: gs =>
    if gs = [] ∧ quad = true ∧ '.' ∈ g then (v4Value g).map fun n => [n / 65536,n % 65536]
    else
      match hextet g, groups quad gs with
      | some n, some ns => some (n :: ns)
      | _, _ => none

def groupsOf (quad : Bool) (cs : List Char) : Option (List Nat) :=
  if cs = [] then some [] else groups quad (cs.splitOn ':')

/-- What stands before and after the first double colon. -/
def splitDouble : List Char → Option (List Char × List Char)
  | [] => none
  | c :: cs =>
    if c = ':' ∧ cs.head? = some ':' then some ([],cs.tail)
    else (splitDouble cs).map fun (before,after) => (c :: before,after)

def groupsValue (ns : List Nat) : Nat := ns.foldl (fun n g => 65536 * n + g) 0

def v6Value (cs : List Char) : Option Nat :=
  match splitDouble cs with
  | none =>
    match groupsOf true cs with
    | some ns => if ns.length = 8 then some (groupsValue ns) else none
    | none => none
  | some (before,after) =>
    match groupsOf false before, groupsOf true after with
    | some hi, some lo =>
      -- the double colon stands for at least one group
      if hi.length + lo.length ≤ 7 then
        some (groupsValue (hi ++ List.replicate (8 - hi.length - lo.length) 0 ++ lo))
      else none
    | _, _ => none

def parse (cs : List Char) : Option Addr :=
  match v4Value cs with
  | some n => some (.v4 n)
  | none => (v6Value cs).map .v6

/-- The value with all but the first `ones` of `bits` bits cleared. -/
def maskTo (bits ones n : Nat) : Nat := n / 2 ^ (bits - ones) * 2 ^ (bits - ones)

theorem maskTo_eq_iff {bits ones n m : Nat} :
    maskTo bits ones n = maskTo bits ones m ↔
      n / 2 ^ (bits - ones) = maskTo bits ones m / 2 ^ (bits - ones) := by
  have hpos : 0 < 2 ^ (bits - ones) := Nat.two_pow_pos _
  rw [maskTo,maskTo,Nat.mul_div_cancel _ hpos]
  constructor
  · exact Nat.eq_of_mul_eq_mul_right hpos
  · intro h
    rw [h]

/-- The address with all but its first `ones` bits cleared. -/
def Addr.mask (ones : Nat) : Addr → Addr
  | .v4 n => .v4 (maskTo 32 ones n)
  | .v6 n => .v6 (maskTo 128 ones n)

theorem maskTo_self (bits n : Nat) : maskTo bits bits n = n := by simp [maskTo]

theorem mask_bits (a : Addr) : a.mask a.bits = a := by
  cases a <;> simp [Addr.mask,Addr.bits,maskTo_self]

theorem maskTo_le (bits ones n : Nat) : maskTo bits ones n ≤ n := Nat.div_mul_le_self n _

section Alphabet

/-- The characters that address texts are made of. -/
def AddrChar (c : Char) : Prop := (hexDigit c).isSome ∨ c = '.' ∨ c = ':'

instance : DecidablePred AddrChar := fun c =>
  inferInstanceAs (Decidable ((hexDigit c).isSome ∨ c = '.' ∨ c = ':'))

variable {cs : List Char} {c : Char}

theorem addrChar_isSpace (h : AddrChar c) : isSpace c = false := by
  rcases h with h | rfl | rfl
  · have hn : 48 ≤ c.toNat ∧ c.toNat ≤ 102 := by
      simp only [hexDigit] at h
      grind
    unfold isSpace
    simp
    grind
  · decide
  · decide

theorem mem_splitOn (sep : Char) (h : c ∈ cs) : c = sep ∨ ∃ part ∈ cs.splitOn sep, c ∈ part := by
  induction cs with
  | nil => cases h
  | cons d cs ih =>
    rw [List.splitOn_cons_eq_if_modifyHead]
    by_cases hd : (d == sep) = true
    · rw [if_pos hd]
      rcases List.mem_cons.mp h with rfl | h
      · exact Or.inl (by simpa using hd)
      · refine (ih h).imp_right ?_
        rintro ⟨part,hp,hc⟩
        exact ⟨part,List.mem_cons_of_mem _ hp,hc⟩
    · rw [if_neg hd]
      cases hs : cs.splitOn sep with
      | nil => exact absurd hs (List.splitOn_ne_nil _ _)
      | cons part parts =>
        rcases List.mem_cons.mp h with rfl | h
        · exact Or.inr ⟨c :: part,by simp,by simp⟩
        · refine (ih h).imp_right ?_
          rintro ⟨p,hp,hc⟩
          rw [hs] at hp
          rcases List.mem_cons.mp hp with rfl | hp
          · exact ⟨d :: p,by simp,by simp [hc]⟩
          · exact ⟨p,by simp [hp],hc⟩

theorem octet_digits {n : Nat} (h : octet cs = some n) :
    n ≤ 255 ∧ ∀ c ∈ cs, c.isDigit = true := by
  unfold octet at h
  split at h
  · cases h
  · next m hm =>
    simp only [Option.ite_none_right_eq_some,Option.some.injEq] at h
    obtain ⟨⟨_,_,hle⟩,rfl⟩ := h
    simp only [decimalValue,Option.ite_none_right_eq_some] at hm
    exact ⟨hle,List.all_eq_true.mp hm.1.2⟩

theorem addrChar_of_quad (h : c.isDigit = true ∨ c = '.') : AddrChar c := by
  rcases h with h | rfl
  · have hn := isDigit_iff.mp h
    exact Or.inl (by simp [hexDigit,hn])
  · exact Or.inr (Or.inl rfl)

theorem v4Value_spec {n : Nat} (h : v4Value cs = some n) :
    n < 4294967296 ∧ ∀ c ∈ cs, c.isDigit = true ∨ c = '.' := by
  unfold v4Value at h
  split at h
  · next a b c d hparts =>
    obtain rfl := Option.some.inj h
    have hoctets : ∀ part ∈ cs.splitOn '.', ∃ m, octet part = some m := by
      intro part hp
      have hm := List.mem_map_of_mem (f := octet) hp
      rw [hparts] at hm
      simp only [List.mem_cons,List.not_mem_nil,or_false] at hm
      rcases hm with hm | hm | hm | hm
      · exact ⟨a,hm⟩
      · exact ⟨b,hm⟩
      · exact ⟨c,hm⟩
      · exact ⟨d,hm⟩
    have hbound : ∀ m, some m ∈ (cs.splitOn '.').map octet → m ≤ 255 := by
      intro m hm
      obtain ⟨part,_,hp⟩ := List.mem_map.mp hm
      exact (octet_digits hp).1
    rw [hparts] at hbound
    have ha := hbound a (by simp)
    have hb := hbound b (by simp)
    have hc := hbound c (by simp)
    have hd := hbound d (by simp)
    refine ⟨by omega,fun x hx => ?_⟩
    rcases mem_splitOn '.' hx with rfl | ⟨part,hp,hx⟩
    · exact Or.inr rfl
    · obtain ⟨m,hm⟩ := hoctets part hp
      exact Or.inl ((octet_digits hm).2 x hx)
  · cases h

theorem v4Value_chars {n : Nat} (h : v4Value cs = some n) : ∀ c ∈ cs, AddrChar c :=
  fun c hc => addrChar_of_quad ((v4Value_spec h).2 c hc)

theorem hexValue_chars {n m : Nat} (h : hexValue cs n = some m) : ∀ c ∈ cs, AddrChar c := by
  induction cs generalizing n with
  | nil => simp
  | cons c cs ih =>
    simp only [hexValue] at h
    split at h
    · cases h
    · next d hd =>
      intro x hx
      rcases List.mem_cons.mp hx with rfl | hx
      · exact Or.inl (by simp [hd])
      · exact ih h x hx

theorem groups_chars {quad : Bool} {parts : List (List Char)} {ns : List Nat}
    (h : groups quad parts = some ns) : ∀ part ∈ parts, ∀ c ∈ part, AddrChar c := by
  induction parts generalizing ns with
  | nil => simp
  | cons g gs ih =>
    simp only [groups] at h
    intro part hp x hx
    split at h
    · next hquad =>
      obtain ⟨n,hn,_⟩ := Option.map_eq_some_iff.mp h
      obtain rfl : part = g := by simpa [hquad.1] using hp
      exact v4Value_chars hn x hx
    · split at h
      · next n ns' hn hns =>
        rcases List.mem_cons.mp hp with rfl | hp
        · simp only [hextet,Option.ite_none_left_eq_some] at hn
          exact hexValue_chars hn.2 x hx
        · exact ih hns part hp x hx
      · cases h

theorem groupsOf_chars {quad : Bool} {ns : List Nat} (h : groupsOf quad cs = some ns) :
    ∀ c ∈ cs, AddrChar c := by
  intro x hx
  unfold groupsOf at h
  split at h
  · next hnil => simp [hnil] at hx
  · rcases mem_splitOn ':' hx with rfl | ⟨part,hp,hx⟩
    · exact Or.inr (Or.inr rfl)
    · exact groups_chars h part hp x hx

theorem splitDouble_eq {before after : List Char} (h : splitDouble cs = some (before,after)) :
    cs = before ++ ':' :: ':' :: after := by
  induction cs generalizing before with
  | nil => cases h
  | cons c cs ih =>
    simp only [splitDouble] at h
    split at h
    · next hc =>
      obtain ⟨rfl,rfl⟩ := Prod.mk.inj (Option.some.inj h)
      obtain ⟨rfl,hhead⟩ := hc
      cases cs with
      | nil => cases hhead
      | cons d cs =>
        obtain rfl := Option.some.inj hhead
        rfl
    · obtain ⟨⟨b,a⟩,hs,heq⟩ := Option.map_eq_some_iff.mp h
      obtain ⟨rfl,rfl⟩ := Prod.mk.inj heq
      rw [ih hs]
      rfl

theorem v6Value_chars {n : Nat} (h : v6Value cs = some n) : ∀ c ∈ cs, AddrChar c := by
  unfold v6Value at h
  split at h
  · split at h
    · next ns hns => exact groupsOf_chars hns
    · cases h
  · next before after hs =>
    split at h
    · next hi lo hhi hlo =>
      intro x hx
      rw [splitDouble_eq hs] at hx
      simp only [List.mem_append,List.mem_cons] at hx
      rcases hx with hx | rfl | rfl | hx
      · exact groupsOf_chars hhi x hx
      · exact Or.inr (Or.inr rfl)
      · exact Or.inr (Or.inr rfl)
      · exact groupsOf_chars hlo x hx
    · cases h

theorem length_groups {quad : Bool} {parts : List (List Char)} {ns : List Nat}
    (h : groups quad parts = some ns) : ns.length ≤ parts.length + 1 := by
  induction parts generalizing ns with
  | nil =>
    obtain rfl := Option.some.inj h
    simp
  | cons g gs ih =>
    simp only [groups] at h
    split at h
    · obtain ⟨n,_,rfl⟩ := Option.map_eq_some_iff.mp h
      simp
    · split at h
      · next n ns' _ hns =>
        obtain rfl := Option.some.inj h
        simpa using ih hns
      · cases h

theorem colon_mem_v6 {n : Nat} (h : v6Value cs = some n) : ':' ∈ cs := by
  unfold v6Value at h
  split at h
  · split at h
    · next ns hns =>
      simp only [Option.ite_none_right_eq_some] at h
      by_contra hcolon
      simp only [groupsOf,List.splitOn_eq_singleton hcolon] at hns
      split at hns
      · obtain rfl := Option.some.inj hns
        simp at h
      · have hlen := length_groups hns
        simp only [List.length_singleton] at hlen
        omega
    · cases h
  · next before after hs =>
    rw [splitDouble_eq hs]
    simp

theorem v4Value_none {n : Nat} (h : v6Value cs = some n) : v4Value cs = none := by
  by_contra hn
  obtain ⟨m,hm⟩ := Option.ne_none_iff_exists'.mp hn
  exact absurd ((v4Value_spec hm).2 ':' (colon_mem_v6 h)) (by decide)

theorem parse_eq_v4 {n : Nat} : parse cs = some (.v4 n) ↔ v4Value cs = some n := by
  unfold parse
  split
  · next m hm => simp [hm]
  · next hn => simp [hn]

theorem parse_eq_v6 {n : Nat} : parse cs = some (.v6 n) ↔ v6Value cs = some n := by
  constructor
  · intro h
    unfold parse at h
    split at h
    · cases h
    · obtain ⟨m,hm,heq⟩ := Option.map_eq_some_iff.mp h
      rw [hm,Addr.v6.inj heq]
  · intro h
    rw [parse,v4Value_none h,h]
    rfl

theorem parse_chars {a : Addr} (h : parse cs = some a) : ∀ c ∈ cs, AddrChar c := by
  cases a with
  | v4 n => exact v4Value_chars (parse_eq_v4.mp h)
  | v6 n => exact v6Value_chars (parse_eq_v6.mp h)

theorem percent_notMem {a : Addr} (h : parse cs = some a) : '%' ∉ cs := fun hc =>
  absurd (parse_chars h _ hc) (by decide)

/-- A text with a character of no address is no address. -/
theorem parse_eq_none (hc : c ∈ cs) (h : ¬AddrChar c) : parse cs = none :=
  Option.eq_none_iff_forall_ne_some.mpr fun _ ha => h (parse_chars ha c hc)

end Alphabet

section LetterCase

variable {cs : List Char}

theorem hexDigit_toLower (c : Char) : hexDigit c.toLower = hexDigit c := by
  have hn := toNat_toLower c
  simp only [hexDigit,hn]
  grind

theorem hexValue_lower (cs : List Char) (n : Nat) :
    hexValue (cs.map Char.toLower) n = hexValue cs n := by
  induction cs generalizing n with
  | nil => rfl
  | cons c cs ih =>
    simp only [List.map_cons,hexValue,hexDigit_toLower]
    cases hexDigit c with
    | none => rfl
    | some d => exact ih _

theorem hextet_lower (cs : List Char) : hextet (cs.map Char.toLower) = hextet cs := by
  simp [hextet,hexValue_lower]

theorem octet_lower (cs : List Char) : octet (cs.map Char.toLower) = octet cs := by
  by_cases h : cs.all Char.isDigit = true
  · rw [lower_of_digits (List.all_eq_true.mp h)]
  · have h' : (cs.map Char.toLower).all Char.isDigit ≠ true := by
      rw [List.all_map,Function.comp_def]
      simpa [isDigit_toLower] using h
    rw [octet,octet,decimalValue,decimalValue,if_neg fun hn => h' hn.2,if_neg fun hn => h hn.2]

theorem v4Value_lower (cs : List Char) : v4Value (cs.map Char.toLower) = v4Value cs := by
  have hoctet : octet ∘ List.map Char.toLower = octet := funext octet_lower
  rw [v4Value,v4Value,splitOn_lower (by decide),List.map_map,hoctet]

theorem groups_lower (quad : Bool) (parts : List (List Char)) :
    groups quad (parts.map (List.map Char.toLower)) = groups quad parts := by
  induction parts with
  | nil => rfl
  | cons g gs ih =>
    simp only [List.map_cons,groups,ih,List.map_eq_nil_iff,mem_lower (show '.'.toNat < 65 by decide),
      v4Value_lower,hextet_lower]

theorem groupsOf_lower (quad : Bool) (cs : List Char) :
    groupsOf quad (cs.map Char.toLower) = groupsOf quad cs := by
  simp only [groupsOf,List.map_eq_nil_iff,splitOn_lower (show ':'.toNat < 65 by decide),groups_lower]

theorem splitDouble_lower (cs : List Char) :
    splitDouble (cs.map Char.toLower) =
      (splitDouble cs).map fun p => (p.1.map Char.toLower,p.2.map Char.toLower) := by
  induction cs with
  | nil => rfl
  | cons c cs ih =>
    have hhead : (cs.map Char.toLower).head? = some ':' ↔ cs.head? = some ':' := by
      cases cs with
      | nil => simp
      | cons d cs => simp [toLower_eq_iff (show ':'.toNat < 65 by decide)]
    simp only [List.map_cons,splitDouble,toLower_eq_iff (show ':'.toNat < 65 by decide),hhead,ih]
    split
    · simp
    · cases splitDouble cs <;> simp

theorem v6Value_lower (cs : List Char) : v6Value (cs.map Char.toLower) = v6Value cs := by
  rw [v6Value,v6Value,splitDouble_lower]
  cases splitDouble cs with
  | none => simp only [Option.map_none,groupsOf_lower]
  | some p => simp only [Option.map_some,groupsOf_lower]

end LetterCase

section Quads

/-- The dotted quad of a 32-bit number. -/
def quad (n : Nat) : List Char :=
  Nat.toDigits 10 (n / 16777216) ++ '.' :: (Nat.toDigits 10 (n / 65536 % 256) ++
    '.' :: (Nat.toDigits 10 (n / 256 % 256) ++ '.' :: Nat.toDigits 10 (n % 256)))

theorem octet_toDigits {n : Nat} (h : n < 256) : octet (Nat.toDigits 10 n) = some n := by
  have hall : ∀ n < 256, octet (Nat.toDigits 10 n) = some n := by
    decide +kernel
  exact hall n h

theorem dot_notMem_toDigits (n : Nat) : '.' ∉ Nat.toDigits 10 n := fun h =>
  absurd (Nat.isDigit_of_mem_toDigits (by decide) (by decide) h) (by decide)

theorem v4Value_quad {n : Nat} (h : n < 4294967296) : v4Value (quad n) = some n := by
  have hsplit : (quad n).splitOn '.' = [Nat.toDigits 10 (n / 16777216),
      Nat.toDigits 10 (n / 65536 % 256),Nat.toDigits 10 (n / 256 % 256),
      Nat.toDigits 10 (n % 256)] := by
    simp only [quad,List.splitOn_append_cons_self_of_not_mem (dot_notMem_toDigits _),
      List.splitOn_eq_singleton (dot_notMem_toDigits _)]
  rw [v4Value,hsplit]
  simp only [List.map_cons,List.map_nil,octet_toDigits (show n / 16777216 < 256 by omega),
    octet_toDigits (Nat.mod_lt _ (by decide : 256 > 0))]
  congr 1
  omega

/-- The IPv4 address `n` written as an IPv6 address. -/
def mappedText (n : Nat) : List Char := "::ffff:".toList ++ quad n

theorem dot_mem_quad (n : Nat) : '.' ∈ quad n := by simp [quad]

theorem quad_chars {n : Nat} {c : Char} (h : c ∈ quad n) : c.isDigit = true ∨ c = '.' := by
  have hdigit : ∀ m, c ∈ Nat.toDigits 10 m → c.isDigit = true := fun m hm =>
    Nat.isDigit_of_mem_toDigits (by decide) (by decide) hm
  simp only [quad,List.mem_append,List.mem_cons] at h
  rcases h with h | h | h | h | h | h | h
  · exact Or.inl (hdigit _ h)
  · exact Or.inr h
  · exact Or.inl (hdigit _ h)
  · exact Or.inr h
  · exact Or.inl (hdigit _ h)
  · exact Or.inr h
  · exact Or.inl (hdigit _ h)

theorem v6Value_mappedText {n : Nat} (h : n < 4294967296) :
    v6Value (mappedText n) = some (0xFFFF * 4294967296 + n) := by
  have hcolon : ':' ∉ quad n := fun hc => absurd (quad_chars hc) (by decide)
  have hgroups : groupsOf true ("ffff:".toList ++ quad n) =
      some [65535,n / 65536,n % 65536] := by
    have hsplit : ("ffff:".toList ++ quad n).splitOn ':' = ["ffff".toList,quad n] := by
      have htext : "ffff:".toList ++ quad n = "ffff".toList ++ ':' :: quad n := rfl
      rw [htext,List.splitOn_append_cons_self_of_not_mem (by decide),
        List.splitOn_eq_singleton hcolon]
    have hffff : hextet "ffff".toList = some 65535 := by decide
    have hquad : groups true [quad n] = some [n / 65536,n % 65536] := by
      simp [groups,dot_mem_quad,v4Value_quad h]
    rw [groupsOf,if_neg (by simp),hsplit,groups,if_neg (by simp),hffff,hquad]
  have hdouble : splitDouble (mappedText n) = some ([],"ffff:".toList ++ quad n) := rfl
  rw [v6Value,hdouble]
  simp only [hgroups]
  simp [groupsOf,groupsValue]
  omega

end Quads

end Ip
