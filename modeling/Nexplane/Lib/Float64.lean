import Mathlib.Algebra.Order.Field.Rat
import Mathlib.Data.Nat.Log
import Nexplane.Lib.Text

set_option autoImplicit false

/-! Finite binary floating-point numbers of 64 bits by their shortest decimal digits, and the
numbers that integers and their quotients are rounded to. -/

/-- `significand * 10 ^ exponent` has the shortest digits that read back as the number. -/
structure Float64 where
  negative : Bool
  significand : Nat
  exponent : Int
  trimmed : significand % 10 ≠ 0 ∨ significand = 0 ∧ exponent = 0

namespace Float64
open Text

def digits (x : Float64) : List Char := Nat.toDigits 10 x.significand

/-- The decimal point stands after this many digits. -/
def point (x : Float64) : Int := x.exponent + (digits x).length

def sign (x : Float64) : List Char := if x.negative then ['-'] else []

/-- The digits and as many zeros as the decimal point needs. -/
def fixed (x : Float64) : List Char :=
  if 0 ≤ x.exponent then digits x ++ List.replicate x.exponent.toNat '0'
  else if 0 < point x then
    (digits x).take (point x).toNat ++ '.' :: (digits x).drop (point x).toNat
  else '0' :: '.' :: (List.replicate (-point x).toNat '0' ++ digits x)

/-- At least two digits. -/
def exponentDigits (n : Nat) : List Char :=
  if n < 10 then '0' :: Nat.toDigits 10 n else Nat.toDigits 10 n

def mantissa : List Char → List Char
  | [] => []
  | [d] => [d]
  | d :: ds => d :: '.' :: ds

def scientific (x : Float64) (exponentText : Nat → List Char) : List Char :=
  mantissa (digits x) ++ 'e' :: (if 1 ≤ point x then '+' else '-') ::
    exponentText (point x - 1).natAbs

theorem fixed_chars {x : Float64} {c : Char} (h : c ∈ x.fixed) : c.isDigit = true ∨ c = '.' := by
  have hdigits : c ∈ x.digits → c.isDigit = true :=
    Nat.isDigit_of_mem_toDigits (by decide) (by decide)
  have hzero : ∀ k, c ∈ List.replicate k '0' → c.isDigit = true := by
    intro k hk
    rw [(List.mem_replicate.mp hk).2]
    decide
  unfold fixed at h
  split at h
  · exact Or.inl ((List.mem_append.mp h).elim hdigits (hzero _))
  · split at h
    · rcases List.mem_append.mp h with h | h
      · exact Or.inl (hdigits (List.mem_of_mem_take h))
      · exact (List.mem_cons.mp h).symm.imp_left fun h => hdigits (List.mem_of_mem_drop h)
    · simp only [List.mem_cons,List.mem_append] at h
      rcases h with rfl | rfl | h | h
      · exact Or.inl (by decide)
      · exact Or.inr rfl
      · exact Or.inl (hzero _ h)
      · exact Or.inl (hdigits h)

theorem e_mem_scientific (x : Float64) (t : Nat → List Char) : 'e' ∈ x.scientific t := by
  simp [scientific]

section Integers

/-- The integer rounded to 53 bits, half to even. -/
def nearest (n : Nat) : Nat :=
  let e := n.log2 + 1 - 53
  let q := n / 2 ^ e
  let r := n % 2 ^ e
  (if 2 ^ e < 2 * r ∨ 2 ^ e = 2 * r ∧ q % 2 = 1 then q + 1 else q) * 2 ^ e

/-- The multiple of `10 ^ j` closest to `d` that is rounded to `d`, if one of its two neighbours
is. -/
def candidate (d j : Nat) : Option Nat :=
  let lo := d / 10 ^ j * 10 ^ j
  let hi := lo + 10 ^ j
  if d - lo ≤ hi - d then
    if nearest lo = d then some lo else if nearest hi = d then some hi else none
  else
    if nearest hi = d then some hi else if nearest lo = d then some lo else none

/-- The integer with the fewest digits before its zeros that is rounded to `d`. -/
def shortest (d : Nat) : Nat :=
  (((List.range (Nat.toDigits 10 d).length).reverse.map (· + 1)).findSome? (candidate d)).getD d

/-- The number without its last zeros, and how many they are. -/
def dropZeros : Nat → Nat → Nat × Nat
  | 0, n => (n,0)
  | fuel + 1, n =>
    if n ≠ 0 ∧ n % 10 = 0 then ((dropZeros fuel (n / 10)).1,(dropZeros fuel (n / 10)).2 + 1)
    else (n,0)

theorem dropZeros_spec {fuel n : Nat} (h : n ≤ fuel) :
    (dropZeros fuel n).1 * 10 ^ (dropZeros fuel n).2 = n ∧
      ((dropZeros fuel n).1 % 10 ≠ 0 ∨ n = 0 ∧ dropZeros fuel n = (0,0)) := by
  induction fuel generalizing n with
  | zero =>
    obtain rfl : n = 0 := by omega
    simp [dropZeros]
  | succ fuel ih =>
    simp only [dropZeros]
    split
    · next hz =>
      obtain ⟨hvalue,hlast⟩ := ih (n := n / 10) (by omega)
      refine ⟨?_,Or.inl (hlast.resolve_right fun hn => by omega)⟩
      rw [Nat.pow_succ,← Nat.mul_assoc,hvalue]
      omega
    · next hz =>
      refine ⟨by simp,?_⟩
      by_cases hn : n = 0
      · exact Or.inr ⟨hn,by simp [hn]⟩
      · exact Or.inl fun hzero => hz ⟨hn,hzero⟩

def ofInteger (negative : Bool) (n : Nat) : Float64 where
  negative := negative
  significand := (dropZeros n n).1
  exponent := (dropZeros n n).2
  trimmed := by
    rcases (dropZeros_spec (Nat.le_refl n)).2 with h | ⟨_,h⟩
    · exact Or.inl h
    · exact Or.inr (by simp [h])

/-- The float64 that the text of an integer is read as, unless it is out of range. -/
def read (n : Int) : Option Float64 :=
  if nearest n.natAbs < 2 ^ 1024 then some (ofInteger (n < 0) (shortest (nearest n.natAbs)))
  else none

/-- The quotient rounded to 53 bits, half to even. The integer that is rounded has at least two
bits more, and its last bit tells whether digits were cut off. -/
def quotient (a b : Nat) : ℚ :=
  let k := b.log2 + 55
  let cut := if a * 2 ^ k % b = 0 then 0 else 1
  nearest (2 * (a * 2 ^ k / b) + cut) / (2 ^ (k + 1) : Nat)

end Integers

section Lemmas

variable {n m j : Nat}

theorem toDigits_mul_pow (h : 0 < m) (j : Nat) :
    Nat.toDigits 10 (m * 10 ^ j) = Nat.toDigits 10 m ++ List.replicate j '0' := by
  induction j with
  | zero => simp
  | succ j ih =>
    have hpos : 0 < m * 10 ^ j := Nat.mul_pos h (Nat.pow_pos (by decide))
    have hstep := Nat.toDigits_append_toDigits (b := 10) (d := 0) (by decide) hpos (by decide)
    rw [Nat.pow_succ,← Nat.mul_assoc,Nat.mul_comm _ 10,List.replicate_succ',← List.append_assoc,← ih]
    exact hstep.symm

theorem toDigits_ofInteger (negative : Bool) (n : Nat) :
    digits (ofInteger negative n) ++ List.replicate (ofInteger negative n).exponent.toNat '0' =
      Nat.toDigits 10 n := by
  obtain ⟨hvalue,hlast⟩ := dropZeros_spec (Nat.le_refl n)
  rcases hlast with hlast | ⟨rfl,hzero⟩
  · have hpos : 0 < (dropZeros n n).1 := by
      by_contra hn
      exact hlast (by rw [Nat.eq_zero_of_not_pos hn])
    have hdigits := toDigits_mul_pow hpos (dropZeros n n).2
    rw [hvalue] at hdigits
    exact hdigits.symm
  · simp [digits,ofInteger,dropZeros,Nat.toDigits_zero]

theorem point_ofInteger (negative : Bool) (n : Nat) :
    point (ofInteger negative n) = (Nat.toDigits 10 n).length := by
  rw [← toDigits_ofInteger negative n,List.length_append,List.length_replicate]
  simp only [point,ofInteger]
  omega

theorem fixed_ofInteger (negative : Bool) (n : Nat) :
    fixed (ofInteger negative n) = Nat.toDigits 10 n := by
  have hexp : 0 ≤ (ofInteger negative n).exponent := Int.natCast_nonneg _
  rw [fixed,if_pos hexp,toDigits_ofInteger]

theorem toDigits_inj (h : Nat.toDigits 10 n = Nat.toDigits 10 m) : n = m := by
  rw [← Nat.ofDigitChars_ten_toDigits (n := n),h,Nat.ofDigitChars_ten_toDigits]

theorem nearest_le_double (n : Nat) : nearest n ≤ 2 * n := by
  by_cases hn : n = 0
  · subst hn
    decide
  have hlog := Nat.log2_self_le hn
  have hpow : 2 ^ (n.log2 + 1 - 53) ≤ 2 ^ n.log2 := Nat.pow_le_pow_right (by decide) (by omega)
  have hdiv := Nat.div_mul_le_self n (2 ^ (n.log2 + 1 - 53))
  simp only [nearest]
  split
  · rw [Nat.add_mul,Nat.one_mul]
    omega
  · omega

theorem nearest_two_pow (m : Nat) : nearest (2 ^ m) = 2 ^ m := by
  have hlog : (2 ^ m).log2 = m := Nat.log2_two_pow
  have hdvd : 2 ^ (m + 1 - 53) ∣ 2 ^ m := Nat.pow_dvd_pow 2 (by omega)
  have hpos : 0 < 2 ^ (m + 1 - 53) := Nat.two_pow_pos _
  simp only [nearest,hlog,Nat.mod_eq_zero_of_dvd hdvd]
  rw [if_neg (by omega)]
  exact Nat.div_mul_cancel hdvd

theorem quotient_self (h : 0 < n) : quotient n n = 1 := by
  have hdiv : n * 2 ^ (n.log2 + 55) / n = 2 ^ (n.log2 + 55) := Nat.mul_div_cancel_left _ h
  simp only [quotient,hdiv,Nat.mul_mod_right,if_true,Nat.add_zero]
  rw [← Nat.pow_succ',nearest_two_pow]
  exact div_self (by exact_mod_cast (Nat.two_pow_pos _).ne')

end Lemmas

end Float64
