import Mathlib.Data.List.TakeWhile

set_option autoImplicit false

/-! Texts and byte strings as two languages read them: big-endian words, splitting at a separator
and decimal numbers. -/

namespace Text

abbrev Bytes := List UInt8

/-- The UTF-8 bytes of a text. -/
def utf8 (s : String) : Bytes := s.toList.flatMap String.utf8EncodeChar

/-- `data.decode("utf-8")`. -/
def decodeUtf8 (bs : Bytes) : Option String := String.fromUTF8? bs.toByteArray

/-- Bytes read one by one as the characters of the same numbers. -/
def latin1 (bs : Bytes) : List Char := bs.map fun b => Char.ofNat b.toNat

/-- The four bytes of `n`, most significant first. -/
def bigEndian (n : Nat) : Bytes :=
  [UInt8.ofNat (n / 16777216),UInt8.ofNat (n / 65536),UInt8.ofNat (n / 256),UInt8.ofNat n]

def fromBigEndian (bs : Bytes) : Nat := bs.foldl (fun n b => 256 * n + b.toNat) 0

theorem fromBigEndian_bigEndian {n : Nat} (h : n < 4294967296) :
    fromBigEndian (bigEndian n) = n := by
  simp only [fromBigEndian,bigEndian,List.foldl_cons,List.foldl_nil,UInt8.toNat_ofNat']
  omega

theorem bigEndian_fromBigEndian (a b c d : UInt8) :
    bigEndian (fromBigEndian [a,b,c,d]) = [a,b,c,d] := by
  have ha := a.toNat_lt
  have hb := b.toNat_lt
  have hc := c.toNat_lt
  have hd := d.toNat_lt
  simp only [fromBigEndian,bigEndian,List.foldl_cons,List.foldl_nil,List.cons.injEq,and_true]
  refine ⟨?_,?_,?_,?_⟩ <;> apply UInt8.toNat_inj.mp <;> rw [UInt8.toNat_ofNat'] <;> omega

section Splitting

variable {α : Type} [DecidableEq α]

/-- What stands before and after the first `sep`. -/
def splitFirst (sep : α) : List α → Option (List α × List α)
  | [] => none
  | a :: as =>
    if a = sep then some ([],as)
    else (splitFirst sep as).map fun (before,after) => (a :: before,after)

/-- What stands before and after the last `sep`. -/
def splitLast (sep : α) : List α → Option (List α × List α)
  | [] => none
  | a :: as =>
    match splitLast sep as with
    | some (before,after) => some (a :: before,after)
    | none => if a = sep then some ([],as) else none

theorem splitFirst_eq_none {sep : α} {as : List α} : splitFirst sep as = none ↔ sep ∉ as := by
  induction as with
  | nil => simp [splitFirst]
  | cons a as ih =>
    by_cases ha : a = sep
    · simp [splitFirst,ha]
    · simp [splitFirst,ha,Ne.symm ha,ih]

theorem splitFirst_append {sep : α} {before : List α} (after : List α) (h : sep ∉ before) :
    splitFirst sep (before ++ sep :: after) = some (before,after) := by
  induction before with
  | nil => simp [splitFirst]
  | cons a before ih =>
    simp only [List.mem_cons,not_or] at h
    simp [splitFirst,Ne.symm h.1,ih h.2]

theorem splitFirst_eq_some {sep : α} {as before after : List α} :
    splitFirst sep as = some (before,after) ↔ as = before ++ sep :: after ∧ sep ∉ before := by
  constructor
  · intro h
    induction as generalizing before with
    | nil => cases h
    | cons a as ih =>
      simp only [splitFirst] at h
      split at h
      · next ha =>
        obtain ⟨rfl,rfl⟩ := Prod.mk.inj (Option.some.inj h)
        simp [ha]
      · next ha =>
        obtain ⟨⟨b,c⟩,hs,heq⟩ := Option.map_eq_some_iff.mp h
        obtain ⟨rfl,rfl⟩ := Prod.mk.inj heq
        obtain ⟨rfl,hn⟩ := ih hs
        exact ⟨rfl,by simp [Ne.symm ha,hn]⟩
  · rintro ⟨rfl,hn⟩
    exact splitFirst_append after hn

theorem splitLast_eq_none {sep : α} {as : List α} : splitLast sep as = none ↔ sep ∉ as := by
  induction as with
  | nil => simp [splitLast]
  | cons a as ih =>
    cases h : splitLast sep as with
    | none =>
      have hmem : sep ∉ as := ih.mp h
      by_cases ha : a = sep
      · simp [splitLast,h,ha]
      · simp [splitLast,h,ha,hmem,Ne.symm ha]
    | some p =>
      have hmem : sep ∈ as := by
        by_contra hn
        rw [ih.mpr hn] at h
        cases h
      simp [splitLast,h,hmem]

theorem splitLast_append {sep : α} (before : List α) {after : List α} (h : sep ∉ after) :
    splitLast sep (before ++ sep :: after) = some (before,after) := by
  induction before with
  | nil => simp [splitLast,splitLast_eq_none.mpr h]
  | cons a before ih => simp [splitLast,ih]

theorem splitLast_eq_some {sep : α} {as before after : List α} :
    splitLast sep as = some (before,after) ↔ as = before ++ sep :: after ∧ sep ∉ after := by
  constructor
  · intro h
    induction as generalizing before with
    | nil => cases h
    | cons a as ih =>
      cases hs : splitLast sep as with
      | some p =>
        obtain ⟨before',after'⟩ := p
        simp only [splitLast,hs,Option.some.injEq,Prod.mk.injEq] at h
        obtain ⟨rfl,rfl⟩ := h
        obtain ⟨rfl,hn⟩ := ih hs
        exact ⟨rfl,hn⟩
      | none =>
        simp only [splitLast,hs] at h
        split at h
        · next ha =>
          simp only [Option.some.injEq,Prod.mk.injEq] at h
          obtain ⟨rfl,rfl⟩ := h
          exact ⟨by rw [ha,List.nil_append],splitLast_eq_none.mp hs⟩
        · cases h
  · rintro ⟨rfl,hn⟩
    exact splitLast_append before hn

end Splitting

/-- The value of a nonempty text of the digits 0 to 9. -/
def decimalValue (cs : List Char) : Option Nat :=
  if cs ≠ [] ∧ cs.all Char.isDigit then some (Nat.ofDigitChars 10 cs 0) else none

theorem decimalValue_toDigits (n : Nat) : decimalValue (Nat.toDigits 10 n) = some n := by
  have hdigits : (Nat.toDigits 10 n).all Char.isDigit = true :=
    List.all_eq_true.mpr fun c hc => Nat.isDigit_of_mem_toDigits (by decide) (by decide) hc
  rw [decimalValue,if_pos ⟨Nat.toDigits_ne_nil,hdigits⟩,Nat.ofDigitChars_ten_toDigits]

/-- An optional sign and what follows it. -/
def splitSign : List Char → Bool × List Char
  | '-' :: cs => (true,cs)
  | '+' :: cs => (false,cs)
  | cs => (false,cs)

/-- `strconv.Atoi`, on a machine with 64-bit integers. -/
def atoi (cs : List Char) : Option Int :=
  match decimalValue (splitSign cs).2 with
  | none => none
  | some n =>
    let v : Int := if (splitSign cs).1 then -(n : Int) else n
    if -9223372036854775808 ≤ v ∧ v < 9223372036854775808 then some v else none

theorem splitSign_toDigits (n : Nat) :
    splitSign (Nat.toDigits 10 n) = (false,Nat.toDigits 10 n) := by
  cases h : Nat.toDigits 10 n with
  | nil => rfl
  | cons c cs =>
    have hc : c.isDigit = true :=
      Nat.isDigit_of_mem_toDigits (n := n) (by decide) (by decide) (h ▸ List.mem_cons_self)
    unfold splitSign
    split
    · next heq =>
      obtain ⟨rfl,rfl⟩ := List.cons.inj heq
      exact absurd hc (by decide)
    · next heq =>
      obtain ⟨rfl,rfl⟩ := List.cons.inj heq
      exact absurd hc (by decide)
    · rfl

theorem atoi_toDigits {n : Nat} (h : n < 9223372036854775808) :
    atoi (Nat.toDigits 10 n) = some (n : Int) := by
  rw [atoi,splitSign_toDigits,decimalValue_toDigits]
  have hrange : (-9223372036854775808 : Int) ≤ n ∧ (n : Int) < 9223372036854775808 := by omega
  exact if_pos hrange

/-- `str.isspace` of one character. -/
def isSpace (c : Char) : Bool :=
  let n := c.toNat
  9 ≤ n && n ≤ 13 || 28 ≤ n && n ≤ 32 || 0x2000 ≤ n && n ≤ 0x200A ||
    [0x85,0xA0,0x1680,0x2028,0x2029,0x202F,0x205F,0x3000].contains n

/-- Drops the characters of `p` at both ends. -/
def trim (p : Char → Bool) (cs : List Char) : List Char :=
  ((cs.dropWhile p).reverse.dropWhile p).reverse

/-- `str.strip`. -/
def strip (cs : List Char) : List Char := trim isSpace cs

theorem trim_decompose (p : Char → Bool) (cs : List Char) :
    ∃ lead trail, cs = lead ++ trim p cs ++ trail ∧ (∀ c ∈ lead, p c = true) ∧
      ∀ c ∈ trail, p c = true := by
  refine ⟨cs.takeWhile p,((cs.dropWhile p).reverse.takeWhile p).reverse,?_,?_,?_⟩
  · rw [trim,List.append_assoc,← List.reverse_append,List.takeWhile_append_dropWhile,
      List.reverse_reverse,List.takeWhile_append_dropWhile]
  · exact fun c hc => List.mem_takeWhile_imp hc
  · exact fun c hc => List.mem_takeWhile_imp (List.mem_reverse.mp hc)

/-- The zeros of the Unicode decimal digits; the other nine follow each. -/
def decimalZeros : List Nat :=
  [0x30,0x660,0x6F0,0x7C0,0x966,0x9E6,0xA66,0xAE6,0xB66,0xBE6,0xC66,0xCE6,0xD66,0xDE6,0xE50,0xED0,
    0xF20,0x1040,0x1090,0x17E0,0x1810,0x1946,0x19D0,0x1A80,0x1A90,0x1B50,0x1BB0,0x1C40,0x1C50,
    0xA620,0xA8D0,0xA900,0xA9D0,0xA9F0,0xAA50,0xABF0,0xFF10,0x104A0,0x10D30,0x11066,0x110F0,
    0x11136,0x111D0,0x112F0,0x11450,0x114D0,0x11650,0x116C0,0x11730,0x118E0,0x11950,0x11C50,
    0x11D50,0x11DA0,0x11F50,0x16A60,0x16AC0,0x16B50,0x1D7CE,0x1D7D8,0x1D7E2,0x1D7EC,0x1D7F6,
    0x1E140,0x1E2F0,0x1E4F0,0x1E950,0x1FBF0]

def decimalDigit (c : Char) : Option Nat :=
  (decimalZeros.find? fun z => z ≤ c.toNat && c.toNat < z + 10).map fun z => c.toNat - z

/-- Decimal digits, with single underscores between them. -/
def intDigits : List Char → Option (List Nat)
  | [] => none
  | c :: cs =>
    match decimalDigit c, cs with
    | none, _ => none
    | some d, [] => some [d]
    | some d, c' :: cs' =>
      (if c' = '_' then intDigits cs' else intDigits (c' :: cs')).map fun ds => d :: ds

/-- The spaces that `int` skips: the separators 0x1C to 0x1F are not among them. -/
def isIntSpace (c : Char) : Bool := isSpace c && !(28 ≤ c.toNat && c.toNat ≤ 31)

/-- `int(text)`; a text of more than 4300 digits is refused. -/
def pyInt (cs : List Char) : Option Int :=
  let body := splitSign (trim isIntSpace cs)
  match intDigits body.2 with
  | none => none
  | some ds =>
    let n : Nat := ds.foldl (fun n d => 10 * n + d) 0
    if ds.length ≤ 4300 then some (if body.1 then -(n : Int) else n) else none

section Digits

variable {c : Char} {cs : List Char}

theorem isDigit_iff : c.isDigit = true ↔ 48 ≤ c.toNat ∧ c.toNat ≤ 57 := by
  have hv : c.val.toNat = c.toNat := rfl
  simp only [Char.isDigit,Bool.and_eq_true,decide_eq_true_eq,ge_iff_le,UInt32.le_iff_toNat_le]
  rw [hv]
  exact Iff.rfl

theorem decimalDigit_isDigit (h : c.isDigit = true) : decimalDigit c = some (c.toNat - 48) := by
  obtain ⟨hlo,hhi⟩ := isDigit_iff.mp h
  have hfound : (decide (0x30 ≤ c.toNat) && decide (c.toNat < 0x30 + 10)) = true := by
    simp only [Bool.and_eq_true,decide_eq_true_eq]
    omega
  simp [decimalDigit,decimalZeros,hfound]

theorem intDigits_isDigit (hne : cs ≠ []) (h : ∀ c ∈ cs, c.isDigit = true) :
    intDigits cs = some (cs.map fun c => c.toNat - 48) := by
  induction cs with
  | nil => exact absurd rfl hne
  | cons c cs ih =>
    have hc := decimalDigit_isDigit (h c List.mem_cons_self)
    cases cs with
    | nil => simp [intDigits,hc]
    | cons c' cs =>
      have hc' : c' ≠ '_' := by
        rintro rfl
        exact absurd (h '_' (by simp)) (by decide)
      have hrest := ih (by simp) fun d hd => h d (List.mem_cons_of_mem _ hd)
      rw [intDigits.eq_def]
      simp only [hc]
      rw [if_neg hc',hrest]
      rfl

theorem isSpace_isDigit (h : c.isDigit = true) : isSpace c = false := by
  obtain ⟨hlo,hhi⟩ := isDigit_iff.mp h
  unfold isSpace
  simp
  grind

theorem isIntSpace_isDigit (h : c.isDigit = true) : isIntSpace c = false := by
  rw [isIntSpace,isSpace_isDigit h,Bool.false_and]

theorem trim_of_ends {p : Char → Bool} (hfirst : ∀ c ∈ cs.head?, p c = false)
    (hlast : ∀ c ∈ cs.getLast?, p c = false) : trim p cs = cs := by
  have hfix : ∀ ds : List Char, (∀ c ∈ ds.head?, p c = false) → ds.dropWhile p = ds := by
    intro ds hds
    cases ds with
    | nil => rfl
    | cons d ds => exact List.dropWhile_cons_of_neg (by simp [hds d (by simp)])
  rw [trim,hfix cs hfirst,hfix cs.reverse (by simpa using hlast),List.reverse_reverse]

end Digits

section Numbers

variable {cs : List Char} {m : Int}

/-- An optional sign and digits 0 to 9. -/
def Decimal (cs : List Char) : Prop := (decimalValue (splitSign cs).2).isSome

theorem decimalValue_eq_some {n : Nat} : decimalValue cs = some n ↔
    (cs ≠ [] ∧ ∀ c ∈ cs, c.isDigit = true) ∧ Nat.ofDigitChars 10 cs 0 = n := by
  simp [decimalValue,List.all_eq_true]

theorem splitSign_cases (cs : List Char) :
    (splitSign cs).2 = cs ∨ ∃ c, (c = '-' ∨ c = '+') ∧ cs = c :: (splitSign cs).2 := by
  unfold splitSign
  split
  · next rest => exact Or.inr ⟨'-',Or.inl rfl,rfl⟩
  · next rest => exact Or.inr ⟨'+',Or.inr rfl,rfl⟩
  · exact Or.inl rfl

theorem Decimal.chars (h : Decimal cs) : ∀ c ∈ cs, c.isDigit = true ∨ c = '-' ∨ c = '+' := by
  intro c hc
  obtain ⟨n,hn⟩ := Option.isSome_iff_exists.mp h
  have hdigits := (decimalValue_eq_some.mp hn).1.2
  rcases splitSign_cases cs with hs | ⟨d,hd,hs⟩
  · exact Or.inl (hdigits c (by rw [hs]; exact hc))
  · rw [hs] at hc
    rcases List.mem_cons.mp hc with rfl | hc
    · exact Or.inr hd
    · exact Or.inl (hdigits c hc)

theorem atoi_decimal (h : atoi cs = some m) : Decimal cs := by
  unfold atoi at h
  split at h
  · cases h
  · next n hn => exact Option.isSome_iff_exists.mpr ⟨n,hn⟩

/-- On signs and digits the two readers of a number can only differ in what they refuse. -/
theorem atoi_of_pyInt (h : Decimal cs) (hm : pyInt cs = some m)
    (hrange : -9223372036854775808 ≤ m ∧ m < 9223372036854775808) : atoi cs = some m := by
  obtain ⟨n,hn⟩ := Option.isSome_iff_exists.mp h
  obtain ⟨⟨hne,hdigits⟩,hvalue⟩ := decimalValue_eq_some.mp hn
  have hspace : ∀ c ∈ cs, isIntSpace c = false := by
    intro c hc
    rcases h.chars c hc with hd | rfl | rfl
    · exact isIntSpace_isDigit hd
    · decide
    · decide
  have htrim : trim isIntSpace cs = cs :=
    trim_of_ends (fun c hc => hspace c (List.mem_of_mem_head? hc))
      fun c hc => hspace c (List.mem_of_mem_getLast? hc)
  have hfold : ((splitSign cs).2.map fun c => c.toNat - 48).foldl (fun n d => 10 * n + d) 0 = n := by
    rw [List.foldl_map,← hvalue,Nat.ofDigitChars_eq_foldl]
    rfl
  simp only [pyInt,htrim,intDigits_isDigit hne hdigits,hfold,List.length_map,
    Option.ite_none_right_eq_some,Option.some.injEq] at hm
  obtain ⟨_,rfl⟩ := hm
  simp only [atoi,hn]
  exact if_pos hrange

end Numbers

section Utf8

theorem utf8_append (s t : String) : utf8 (s ++ t) = utf8 s ++ utf8 t := by
  simp [utf8]

theorem decodeUtf8_utf8 (s : String) : decodeUtf8 (utf8 s) = some s := by
  have hbytes : (utf8 s).toByteArray = s.toByteArray := String.utf8Encode_toList
  have hvalid : s.toByteArray.IsValidUTF8 := s.isValidUTF8
  rw [decodeUtf8,hbytes,String.fromUTF8?,dif_pos hvalid]
  rfl

/-- An ASCII character is its own byte. -/
theorem utf8EncodeChar_ascii {c : Char} (h : c.toNat < 128) :
    String.utf8EncodeChar c = [UInt8.ofNat c.toNat] := by
  have hv : c.val.toNat ≤ 0x7f := by
    have : c.val.toNat = c.toNat := rfl
    omega
  simp only [String.utf8EncodeChar,if_pos hv]
  rfl

theorem utf8_ascii {s : String} (h : ∀ c ∈ s.toList, c.toNat < 128) :
    utf8 s = s.toList.map fun c => UInt8.ofNat c.toNat := by
  have key : ∀ cs : List Char, (∀ c ∈ cs, c.toNat < 128) →
      cs.flatMap String.utf8EncodeChar = cs.map fun c => UInt8.ofNat c.toNat := by
    intro cs
    induction cs with
    | nil => simp
    | cons c cs ih =>
      intro h
      have hc := utf8EncodeChar_ascii (h c List.mem_cons_self)
      have hcs := ih fun c hm => h c (List.mem_cons_of_mem _ hm)
      simp [hc,hcs]
  exact key s.toList h

theorem latin1_utf8 {s : String} (h : ∀ c ∈ s.toList, c.toNat < 128) :
    latin1 (utf8 s) = s.toList := by
  rw [utf8_ascii h,latin1,List.map_map]
  have key : ∀ c ∈ s.toList,
      ((fun b : UInt8 => Char.ofNat b.toNat) ∘ fun c => UInt8.ofNat c.toNat) c = c := by
    intro c hc
    have hlt := h c hc
    simp [UInt8.toNat_ofNat',Nat.mod_eq_of_lt (show c.toNat < 256 by omega)]
  exact (List.map_congr_left key).trans (List.map_id _)

theorem isDigit_lt {c : Char} (h : c.isDigit = true) : c.toNat < 128 := by
  have hv : c.val.toNat ≤ 57 := by
    simp only [Char.isDigit,Bool.and_eq_true,decide_eq_true_eq] at h
    exact h.2
  have : c.val.toNat = c.toNat := rfl
  omega

end Utf8

section LetterCase

variable {c sep : Char} {cs : List Char}

theorem toNat_toLower (c : Char) :
    c.toLower.toNat = if 65 ≤ c.toNat ∧ c.toNat ≤ 90 then c.toNat + 32 else c.toNat := by
  have hv : c.val.toNat = c.toNat := rfl
  have hcapital : (c.val ≥ 'A'.val ∧ c.val ≤ 'Z'.val) ↔ 65 ≤ c.toNat ∧ c.toNat ≤ 90 := by
    rw [ge_iff_le,UInt32.le_iff_toNat_le,UInt32.le_iff_toNat_le,hv]
    exact Iff.rfl
  unfold Char.toLower
  split
  · next h =>
    have h' := hcapital.mp h
    have hlt : c.val.toNat + 32 < 4294967296 := by omega
    rw [if_pos h']
    exact Nat.mod_eq_of_lt hlt
  · next h => rw [if_neg fun h' => h (hcapital.mpr h')]

theorem toLower_eq_iff (hsep : sep.toNat < 65) : c.toLower = sep ↔ c = sep := by
  rw [← Char.toNat_inj,← Char.toNat_inj,toNat_toLower]
  split <;> omega

theorem toLower_toLower (c : Char) : c.toLower.toLower = c.toLower := by
  rw [← Char.toNat_inj,toNat_toLower,toNat_toLower]
  grind

theorem isDigit_toLower (c : Char) : c.toLower.isDigit = c.isDigit := by
  rw [Bool.eq_iff_iff,isDigit_iff,isDigit_iff,toNat_toLower]
  split <;> omega

theorem lower_of_digits (h : ∀ c ∈ cs, c.isDigit = true) : cs.map Char.toLower = cs := by
  refine (List.map_congr_left fun c hc => ?_).trans (List.map_id cs)
  have hd := isDigit_iff.mp (h c hc)
  rw [id,← Char.toNat_inj,toNat_toLower]
  split <;> omega

theorem mem_lower (hsep : sep.toNat < 65) : sep ∈ cs.map Char.toLower ↔ sep ∈ cs := by
  simp [toLower_eq_iff hsep]

theorem splitOn_lower (hsep : sep.toNat < 65) (cs : List Char) :
    (cs.map Char.toLower).splitOn sep = (cs.splitOn sep).map (List.map Char.toLower) := by
  induction cs with
  | nil => simp
  | cons c cs ih =>
    simp only [List.map_cons,List.splitOn_cons_eq_if_modifyHead,beq_iff_eq,toLower_eq_iff hsep,ih]
    split
    · simp
    · cases cs.splitOn sep <;> simp

theorem splitFirst_lower (hsep : sep.toNat < 65) (cs : List Char) :
    splitFirst sep (cs.map Char.toLower) =
      (splitFirst sep cs).map fun p => (p.1.map Char.toLower,p.2.map Char.toLower) := by
  induction cs with
  | nil => rfl
  | cons c cs ih =>
    simp only [List.map_cons,splitFirst,toLower_eq_iff hsep,ih]
    split
    · simp
    · cases splitFirst sep cs <;> simp

end LetterCase

section Order

variable {α : Type} {f : α → Nat}

/-- The lexicographic order by the numbers of the members. -/
def lexLe (f : α → Nat) : List α → List α → Bool
  | [], _ => true
  | _ :: _, [] => false
  | a :: as, b :: bs => f a < f b || f a == f b && lexLe f as bs

theorem lexLe_append (p as bs : List α) : lexLe f (p ++ as) (p ++ bs) = lexLe f as bs := by
  induction p with
  | nil => rfl
  | cons a p ih => simp [lexLe,ih]

theorem utf8EncodeChar_toNat (c : Char) : (String.utf8EncodeChar c).map UInt8.toNat =
    if c.toNat < 128 then [c.toNat]
    else if c.toNat < 2048 then [192 + c.toNat / 64,128 + c.toNat % 64]
    else if c.toNat < 65536 then
      [224 + c.toNat / 64 / 64,128 + c.toNat / 64 % 64,128 + c.toNat % 64]
    else [240 + c.toNat / 64 / 64 / 64,128 + c.toNat / 64 / 64 % 64,128 + c.toNat / 64 % 64,
      128 + c.toNat % 64] := by
  have hv : c.val.toNat = c.toNat := rfl
  have hlt : c.toNat < 1114112 := by
    have hvalid := c.valid
    simp only [UInt32.isValidChar,Nat.isValidChar,hv] at hvalid
    omega
  simp only [String.utf8EncodeChar,hv]
  split_ifs <;> simp <;> omega

theorem lexLe_map (as bs : List α) : lexLe id (as.map f) (bs.map f) = lexLe f as bs := by
  induction as generalizing bs with
  | nil => cases bs <;> rfl
  | cons a as ih =>
    cases bs with
    | nil => rfl
    | cons b bs => simp [lexLe,ih]

theorem lexLe_utf8_char {c d : Char} (h : c.toNat < d.toNat) (x y : List Nat) :
    lexLe id ((String.utf8EncodeChar c).map UInt8.toNat ++ x)
      ((String.utf8EncodeChar d).map UInt8.toNat ++ y) = true ∧
    lexLe id ((String.utf8EncodeChar d).map UInt8.toNat ++ y)
      ((String.utf8EncodeChar c).map UInt8.toNat ++ x) = false := by
  rw [utf8EncodeChar_toNat,utf8EncodeChar_toNat]
  split_ifs <;> simp [lexLe] <;> grind

/-- The order of texts by code points is the order by bytes. -/
theorem lexLe_utf8 (s t : List Char) :
    lexLe UInt8.toNat (s.flatMap String.utf8EncodeChar) (t.flatMap String.utf8EncodeChar) =
      lexLe Char.toNat s t := by
  rw [← lexLe_map]
  induction s generalizing t with
  | nil => rfl
  | cons c s ih =>
    cases t with
    | nil =>
      cases hc : String.utf8EncodeChar c with
      | nil => exact absurd hc String.utf8EncodeChar_ne_nil
      | cons b bs => simp [hc,lexLe]
    | cons d t =>
      simp only [List.flatMap_cons,List.map_append]
      rcases Nat.lt_trichotomy c.toNat d.toNat with hlt | heq | hgt
      · rw [(lexLe_utf8_char hlt _ _).1]
        simp [lexLe,hlt]
      · obtain rfl := Char.toNat_inj.mp heq
        rw [lexLe_append,ih]
        simp [lexLe]
      · rw [(lexLe_utf8_char hgt _ _).2]
        simp [lexLe,Nat.lt_asymm hgt,Nat.ne_of_gt hgt]

end Order

end Text
