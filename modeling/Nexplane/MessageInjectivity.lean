import Nexplane.JobSigning
import Nexplane.Lib.JsonReading

set_option autoImplicit false

/-! Jobs with one signed message: the texts of numbers and characters can be read back, and a
command cannot take over a part of the parameters. -/

namespace Nexplane
open Text JsonText

section Numbers

variable {m n j k : Nat} {x y : Float64}

theorem pow_split (hm : m % 10 ≠ 0) (hn : n % 10 ≠ 0) (h : m * 10 ^ j = n * 10 ^ k) :
    m = n ∧ j = k := by
  have hcase : ∀ {m n j i : Nat}, m % 10 ≠ 0 → m * 10 ^ j = n * 10 ^ (j + i) → i = 0 := by
    intro m n j i hm h
    rw [Nat.pow_add,Nat.mul_comm (10 ^ j),← Nat.mul_assoc] at h
    have heq := Nat.eq_of_mul_eq_mul_right (Nat.pow_pos (by decide)) h
    cases i with
    | zero => rfl
    | succ i =>
      rw [Nat.pow_succ,← Nat.mul_assoc] at heq
      omega
  have hjk : j = k := by
    rcases Nat.le_total j k with hle | hle
    · obtain ⟨i,rfl⟩ := Nat.exists_eq_add_of_le hle
      have := hcase hm h
      omega
    · obtain ⟨i,rfl⟩ := Nat.exists_eq_add_of_le hle
      have := hcase hn h.symm
      omega
  subst hjk
  exact ⟨Nat.eq_of_mul_eq_mul_right (Nat.pow_pos (by decide)) h,rfl⟩

theorem digits_isDigit (k : Nat) : ∀ c ∈ Nat.toDigits 10 k, c.isDigit = true :=
  fun _ hc => Nat.isDigit_of_mem_toDigits (by decide) (by decide) hc

theorem intText_isDigit (n : Int) : ∀ c ∈ Dispatch.intText n, c.isDigit = true ∨ c = '-' := by
  intro c hc
  simp only [Dispatch.intText] at hc
  split at hc
  · exact (List.mem_cons.mp hc).symm.imp_left (digits_isDigit _ c)
  · exact Or.inl (digits_isDigit _ c hc)

theorem intText_inj {n m : Int} (h : Dispatch.intText n = Dispatch.intText m) : n = m := by
  have hminus : ∀ k t, Nat.toDigits 10 k ≠ '-' :: t := by
    intro k t hk
    exact absurd (digits_isDigit k '-' (by simp [hk])) (by decide)
  simp only [Dispatch.intText] at h
  split at h
  · split at h
    · have := Float64.toDigits_inj (List.cons.inj h).2
      omega
    · exact absurd h.symm (hminus _ _)
  · split at h
    · exact absurd h (hminus _ _)
    · have := Float64.toDigits_inj h
      omega

/-- The text of a number without its sign. -/
def floatBody (x : Float64) : List Char :=
  if x.significand = 0 then ['0','.','0']
  else if -3 ≤ x.point ∧ x.point ≤ 16 then x.fixed ++ if 0 ≤ x.exponent then ['.','0'] else []
  else x.scientific Float64.exponentDigits

/-- A decimal fraction: digits, a point and digits, the number they stand for. -/
structure Fraction (x : Float64) (a b : List Char) : Prop where
  body : floatBody x = a ++ '.' :: b
  nonempty : a ≠ []
  digits : ∀ c ∈ a ++ b, c.isDigit = true
  value : ∃ k : Nat, Nat.ofDigitChars 10 (a ++ b) 0 = x.significand * 10 ^ k ∧
    x.exponent = (k : Int) - b.length

theorem fraction_of_zero (hzero : x.significand = 0) : Fraction x ['0'] ['0'] := by
  have hexp : x.exponent = 0 := (x.trimmed.resolve_left (by simp [hzero])).2
  refine ⟨?_,by simp,by simp,1,?_,?_⟩
  · rw [floatBody,if_pos hzero]
    rfl
  · rw [hzero]
    rfl
  · simp [hexp]

theorem digits_value (x : Float64) : Nat.ofDigitChars 10 x.digits 0 = x.significand :=
  Nat.ofDigitChars_ten_toDigits

theorem fixed_body (hzero : x.significand ≠ 0) (hrange : -3 ≤ x.point ∧ x.point ≤ 16) :
    floatBody x = x.fixed ++ if 0 ≤ x.exponent then ['.','0'] else [] := by
  rw [floatBody,if_neg hzero,if_pos hrange]

/-- All digits stand before the point, with zeros for those that the significand lacks. -/
theorem fraction_of_integer (hzero : x.significand ≠ 0) (hrange : -3 ≤ x.point ∧ x.point ≤ 16)
    (hexp : 0 ≤ x.exponent) :
    Fraction x (x.digits ++ List.replicate x.exponent.toNat '0') ['0'] := by
  have hne : x.digits ≠ [] := Nat.toDigits_ne_nil
  refine ⟨?_,by simp [hne],?_,x.exponent.toNat + 1,?_,?_⟩
  · simpa [Float64.fixed,hexp] using fixed_body hzero hrange
  · simp only [List.mem_append,List.mem_replicate,List.mem_singleton]
    rintro c ((hc | ⟨-,rfl⟩) | rfl)
    · exact digits_isDigit _ c hc
    · decide
    · decide
  · rw [List.append_assoc,show ['0'] = List.replicate 1 '0' from rfl,← List.replicate_add,
      Nat.ofDigitChars_append,digits_value,Nat.ofDigitChars_replicate_zero,Nat.mul_comm]
  · simp only [List.length_singleton]
    omega

/-- The point stands between the digits. -/
theorem fraction_of_inner (hzero : x.significand ≠ 0) (hrange : -3 ≤ x.point ∧ x.point ≤ 16)
    (hexp : ¬0 ≤ x.exponent) (hpos : 0 < x.point) :
    Fraction x (x.digits.take x.point.toNat) (x.digits.drop x.point.toNat) := by
  have hpoint : x.point = x.exponent + x.digits.length := rfl
  have hne : x.digits ≠ [] := Nat.toDigits_ne_nil
  refine ⟨?_,?_,?_,0,?_,?_⟩
  · simpa [Float64.fixed,hexp,hpos] using fixed_body hzero hrange
  · simp [hne]
    omega
  · rw [List.take_append_drop]
    exact digits_isDigit _
  · rw [List.take_append_drop,digits_value,Nat.pow_zero,Nat.mul_one]
  · simp only [List.length_drop]
    omega

/-- All digits stand behind the point, with zeros before them. -/
theorem fraction_of_small (hzero : x.significand ≠ 0) (hrange : -3 ≤ x.point ∧ x.point ≤ 16)
    (hexp : ¬0 ≤ x.exponent) (hpos : ¬0 < x.point) :
    Fraction x ['0'] (List.replicate (-x.point).toNat '0' ++ x.digits) := by
  have hpoint : x.point = x.exponent + x.digits.length := rfl
  refine ⟨?_,by simp,?_,0,?_,?_⟩
  · simpa [Float64.fixed,hexp,hpos] using fixed_body hzero hrange
  · simp only [List.mem_append,List.mem_replicate,List.mem_singleton]
    rintro c (rfl | ⟨-,rfl⟩ | hc)
    · decide
    · decide
    · exact digits_isDigit _ c hc
  · simp [Nat.ofDigitChars_append,Nat.ofDigitChars_cons,digits_value]
  · simp only [List.length_append,List.length_replicate]
    omega

theorem fraction_of_fixed (h : x.significand = 0 ∨ -3 ≤ x.point ∧ x.point ≤ 16) :
    ∃ a b, Fraction x a b := by
  by_cases hzero : x.significand = 0
  · exact ⟨_,_,fraction_of_zero hzero⟩
  have hrange := h.resolve_left hzero
  by_cases hexp : 0 ≤ x.exponent
  · exact ⟨_,_,fraction_of_integer hzero hrange hexp⟩
  by_cases hpos : 0 < x.point
  · exact ⟨_,_,fraction_of_inner hzero hrange hexp hpos⟩
  · exact ⟨_,_,fraction_of_small hzero hrange hexp hpos⟩

theorem float_ext (hsign : x.negative = y.negative) (hsig : x.significand = y.significand)
    (hexp : x.exponent = y.exponent) : x = y := by
  cases x
  cases y
  simp_all

theorem not_digit_of_point {t : List Char} (h : ∀ c ∈ t, c.isDigit = true) : '.' ∉ t :=
  fun hmem => absurd (h '.' hmem) (by decide)

theorem fraction_inj {a b a' b' : List Char} (hx : Fraction x a b) (hy : Fraction y a' b')
    (h : floatBody x = floatBody y) : x.significand = y.significand ∧ x.exponent = y.exponent := by
  rw [hx.body,hy.body] at h
  have hsplit := splitFirst_append b
    (not_digit_of_point fun c hc => hx.digits c (List.mem_append_left _ hc))
  rw [h,splitFirst_append b'
    (not_digit_of_point fun c hc => hy.digits c (List.mem_append_left _ hc))] at hsplit
  obtain ⟨rfl,rfl⟩ := Prod.mk.inj (Option.some.inj hsplit)
  obtain ⟨j,hj,hjexp⟩ := hx.value
  obtain ⟨k,hk,hkexp⟩ := hy.value
  rw [hj] at hk
  have hten : ∀ i, 10 ^ i ≠ 0 := fun i => (Nat.pow_pos (by decide)).ne'
  rcases x.trimmed with hxt | ⟨hxz,hxe⟩
  · rcases y.trimmed with hyt | ⟨hyz,hye⟩
    · obtain ⟨hsig,rfl⟩ := pow_split hxt hyt hk
      exact ⟨hsig,hjexp.trans hkexp.symm⟩
    · simp [hyz] at hk
      omega
  · rcases y.trimmed with hyt | ⟨hyz,hye⟩
    · simp [hxz] at hk
      omega
    · exact ⟨hxz.trans hyz.symm,hxe.trans hye.symm⟩

theorem mantissa_filter {ds : List Char} (h : ∀ c ∈ ds, c.isDigit = true) :
    (Float64.mantissa ds).filter (· ≠ '.') = ds := by
  have hkeep : ds.filter (· ≠ '.') = ds := by
    refine List.filter_eq_self.mpr fun c hc => ?_
    simp only [decide_eq_true_eq]
    rintro rfl
    exact absurd (h '.' hc) (by decide)
  match ds with
  | [] => rfl
  | [d] => exact hkeep
  | d :: e :: ds =>
    have hmantissa : Float64.mantissa (d :: e :: ds) = [d] ++ ['.'] ++ (e :: ds) := rfl
    rw [hmantissa,List.filter_append,List.filter_append]
    rw [show d :: e :: ds = [d] ++ (e :: ds) from rfl,List.filter_append] at hkeep
    simpa using hkeep

theorem mantissa_chars {ds : List Char} (h : ∀ c ∈ ds, c.isDigit = true) :
    'e' ∉ Float64.mantissa ds := by
  intro hmem
  have hfilter : 'e' ∈ (Float64.mantissa ds).filter (· ≠ '.') :=
    List.mem_filter.mpr ⟨hmem,by decide⟩
  rw [mantissa_filter h] at hfilter
  exact absurd (h 'e' hfilter) (by decide)

theorem exponentDigits_value (n : Nat) : Nat.ofDigitChars 10 (Float64.exponentDigits n) 0 = n := by
  rw [Float64.exponentDigits]
  split
  · rw [Nat.ofDigitChars_cons]
    exact Nat.ofDigitChars_ten_toDigits
  · exact Nat.ofDigitChars_ten_toDigits

theorem scientific_inj (h : x.scientific Float64.exponentDigits =
    y.scientific Float64.exponentDigits) :
    x.significand = y.significand ∧ x.exponent = y.exponent := by
  have hx : ∀ c ∈ x.digits, c.isDigit = true := digits_isDigit _
  have hy : ∀ c ∈ y.digits, c.isDigit = true := digits_isDigit _
  have hsplit := splitFirst_append ((if 1 ≤ x.point then '+' else '-') ::
    Float64.exponentDigits (x.point - 1).natAbs) (mantissa_chars hx)
  rw [show Float64.mantissa x.digits ++ 'e' :: _ = _ from h,Float64.scientific,
    splitFirst_append _ (mantissa_chars hy)] at hsplit
  obtain ⟨hmantissa,htail⟩ := Prod.mk.inj (Option.some.inj hsplit)
  have hdigits : x.digits = y.digits := by
    rw [← mantissa_filter hx,← hmantissa,mantissa_filter hy]
  obtain ⟨hsign,hexp⟩ := List.cons.inj htail
  have habs : (y.point - 1).natAbs = (x.point - 1).natAbs := by
    rw [← exponentDigits_value (y.point - 1).natAbs,hexp,exponentDigits_value]
  have hle : 1 ≤ y.point ↔ 1 ≤ x.point := by
    split at hsign <;> split at hsign <;> first | omega | exact absurd hsign (by decide)
  have hpoint : x.point = y.point := by omega
  refine ⟨Float64.toDigits_inj hdigits,?_⟩
  simp only [Float64.point,hdigits] at hpoint
  omega

/-- The text of a float64 has a point or an exponent, and begins with a digit after its sign. -/
theorem floatBody_form (x : Float64) :
    (∃ a b, Fraction x a b) ∨ floatBody x = x.scientific Float64.exponentDigits := by
  by_cases h : x.significand = 0 ∨ -3 ≤ x.point ∧ x.point ≤ 16
  · exact Or.inl (fraction_of_fixed h)
  · rw [not_or] at h
    exact Or.inr (by rw [floatBody,if_neg h.1,if_neg h.2])

theorem floatBody_head (x : Float64) : ∃ c r, floatBody x = c :: r ∧ c.isDigit = true := by
  rcases floatBody_form x with ⟨a,b,h⟩ | h
  · cases a with
    | nil => exact absurd rfl h.nonempty
    | cons c a => exact ⟨c,_,h.body,h.digits c (by simp)⟩
  · have hdigits : ∀ c ∈ x.digits, c.isDigit = true := digits_isDigit _
    rw [h,Float64.scientific]
    rcases hx : x.digits with _ | ⟨d,_ | ⟨e,ds⟩⟩
    · exact absurd hx Nat.toDigits_ne_nil
    · exact ⟨d,_,rfl,hdigits d (by simp [hx])⟩
    · exact ⟨d,_,rfl,hdigits d (by simp [hx])⟩

theorem floatBody_marked (x : Float64) : '.' ∈ floatBody x ∨ 'e' ∈ floatBody x := by
  rcases floatBody_form x with ⟨a,b,h⟩ | h
  · exact Or.inl (by simp [h.body])
  · exact Or.inr (by rw [h]; exact Float64.e_mem_scientific x _)

theorem floatBody_inj (h : floatBody x = floatBody y) :
    x.significand = y.significand ∧ x.exponent = y.exponent := by
  have hapart : ∀ {x y : Float64} {a b : List Char}, Fraction x a b →
      floatBody y = y.scientific Float64.exponentDigits → floatBody x ≠ floatBody y := by
    intro x y a b hx hy heq
    have he := Float64.e_mem_scientific y Float64.exponentDigits
    rw [← hy,← heq,hx.body] at he
    have hmem : 'e' ∈ a ++ b := by simpa using he
    exact absurd (hx.digits 'e' hmem) (by decide)
  rcases floatBody_form x with ⟨a,b,hx⟩ | hx
  · rcases floatBody_form y with ⟨a',b',hy⟩ | hy
    · exact fraction_inj hx hy h
    · exact absurd h (hapart hx hy)
  · rcases floatBody_form y with ⟨a',b',hy⟩ | hy
    · exact absurd h.symm (hapart hy hx)
    · exact scientific_inj (hx.symm.trans (h.trans hy))

theorem floatText_inj (h : Dispatch.floatText x = Dispatch.floatText y) : x = y := by
  have h : x.sign ++ floatBody x = y.sign ++ floatBody y := h
  have hminus : ∀ x : Float64, ∀ t, floatBody x ≠ '-' :: t := by
    intro x t ht
    obtain ⟨c,r,hc,hdigit⟩ := floatBody_head x
    rw [hc] at ht
    rw [(List.cons.inj ht).1] at hdigit
    exact absurd hdigit (by decide)
  cases hx : x.negative with
  | true =>
    cases hy : y.negative with
    | true =>
      simp only [Float64.sign,hx,hy,if_true,List.append_cancel_left_eq] at h
      exact float_ext (hx.trans hy.symm) (floatBody_inj h).1 (floatBody_inj h).2
    | false =>
      simp [Float64.sign,hx,hy] at h
      exact absurd h.symm (hminus y _)
  | false =>
    cases hy : y.negative with
    | true =>
      simp [Float64.sign,hx,hy] at h
      exact absurd h (hminus x _)
    | false =>
      simp [Float64.sign,hx,hy] at h
      exact float_ext (hx.trans hy.symm) (floatBody_inj h).1 (floatBody_inj h).2

theorem int_ne_float (n : Int) (x : Float64) : Dispatch.intText n ≠ Dispatch.floatText x := by
  intro h
  have hbody : ∀ c ∈ floatBody x, c.isDigit = true ∨ c = '-' := by
    intro c hc
    exact intText_isDigit n c (h ▸ List.mem_append_right x.sign hc)
  rcases floatBody_marked x with hmem | hmem
  · exact absurd (hbody _ hmem) (by decide)
  · exact absurd (hbody _ hmem) (by decide)

theorem numberText_inj {a b : Number} (h : Dispatch.numberText a = Dispatch.numberText b) :
    a = b := by
  cases a with
  | int n =>
    cases b with
    | int m => rw [intText_inj h]
    | float y => exact absurd h (int_ne_float n y)
  | float x =>
    cases b with
    | int m => exact absurd h.symm (int_ne_float m x)
    | float y => rw [floatText_inj h]

theorem numberText_ne_nil (a : Number) : Dispatch.numberText a ≠ [] := by
  cases a with
  | int n =>
    rw [Dispatch.numberText,Dispatch.intText]
    split
    · exact List.cons_ne_nil _ _
    · exact Nat.toDigits_ne_nil
  | float x =>
    obtain ⟨c,r,hc,-⟩ := floatBody_head x
    change x.sign ++ floatBody x ≠ []
    simp [hc]

end Numbers

section Characters

variable {c d : Char}

/-- The codes of the characters that are not written as themselves. -/
def escapedCodes : List Nat := List.range 32 ++ [34,38,60,62,92]

theorem char_plain (h : c.toNat ∉ escapedCodes) : dispatchStyle.char c = [c] := by
  have hall : ∀ n < 128, n ∉ escapedCodes →
      dispatchStyle.char (Char.ofNat n) = [Char.ofNat n] := by decide +kernel
  by_cases hascii : c.toNat < 128
  · simpa using hall c.toNat hascii (by simpa using h)
  · exact dispatch_unicode (Nat.le_of_not_lt hascii)

theorem char_escaped (h : c.toNat ∈ escapedCodes) : (dispatchStyle.char c).head? = some '\\' := by
  have hall : ∀ n ∈ escapedCodes, (dispatchStyle.char (Char.ofNat n)).head? = some '\\' := by
    decide +kernel
  simpa using hall c.toNat h

theorem char_piece (c : Char) : piece (dispatchStyle.char c) = true := by
  have hall : ∀ n ∈ escapedCodes, piece (dispatchStyle.char (Char.ofNat n)) = true := by
    decide +kernel
  by_cases hc : c.toNat ∈ escapedCodes
  · simpa using hall c.toNat hc
  · simp only [char_plain hc,piece,Bool.and_eq_true,bne_iff_ne]
    constructor
    · rintro rfl
      exact hc (by decide)
    · rintro rfl
      exact hc (by decide)

/-- No character's text begins the text of another. -/
theorem char_code (h : dispatchStyle.char c <+: dispatchStyle.char d) : c = d := by
  have hall : ∀ n ∈ escapedCodes, ∀ m ∈ escapedCodes,
      dispatchStyle.char (Char.ofNat n) <+: dispatchStyle.char (Char.ofNat m) → n = m := by
    decide +kernel
  have hbackslash : '\\'.toNat ∈ escapedCodes := by decide
  have hhead : (dispatchStyle.char c).head? = (dispatchStyle.char d).head? := by
    obtain ⟨x,hx⟩ := h
    have hne : dispatchStyle.char c ≠ [] := fun hnil => by
      have := char_piece c
      rw [hnil] at this
      cases this
    rw [← hx,List.head?_append_of_ne_nil _ hne]
  by_cases hc : c.toNat ∈ escapedCodes
  · by_cases hd : d.toNat ∈ escapedCodes
    · exact Char.toNat_inj.mp (hall c.toNat hc d.toNat hd (by simpa using h))
    · rw [char_escaped hc,char_plain hd] at hhead
      cases Option.some.inj hhead
      exact absurd hbackslash hd
  · by_cases hd : d.toNat ∈ escapedCodes
    · rw [char_plain hc,char_escaped hd] at hhead
      cases Option.some.inj hhead
      exact absurd hbackslash hc
    · rw [char_plain hc,char_plain hd] at hhead
      exact Option.some.inj hhead

theorem dispatch_readable : Readable dispatchStyle numChar where
  code := fun _ _ => char_code
  piece := char_piece
  num := fun _ _ => numberText_inj
  nonempty := numberText_ne_nil
  digits := numChar_numberText
  apart := by simp [numChar]

end Characters

section Messages

/-- The text of a UUID: 32 hexadecimal digits in five groups. -/
structure UuidForm (text : List Char) : Prop where
  length : text.length = 36
  chars : ∀ i : Fin 36, ∀ c ∈ text[i.val]?,
    if i.val ∈ [8,13,18,23] then c = '-' else c.isDigit ∨ 'a' ≤ c ∧ c ≤ 'f' ∨ 'A' ≤ c ∧ c ≤ 'F'

example : UuidForm "550e8400-e29b-41d4-a716-446655440000".toList :=
  ⟨by decide,by simp [Fin.forall_fin_succ]⟩

/-- What a job's signature is about; a `dict` has no key twice. -/
structure SignedJob where
  jobId : List Char
  command : List Char
  parameters : List (List Char × Value Number)
  uuid : UuidForm jobId
  distinct : (Value.obj parameters).Distinct

def SignedJob.message (j : SignedJob) : Bytes := dispatchMessage j.jobId j.command j.parameters

/-- A command does not reach into the parameters. -/
theorem command_params_inj {command command' : List Char} {fs gs : List (List Char × Value Number)}
    (h : command ++ ':' :: render dispatchStyle (.obj fs) =
      command' ++ ':' :: render dispatchStyle (.obj gs)) :
    command = command' ∧
      render dispatchStyle (.obj fs) = render dispatchStyle (.obj gs) := by
  rcases List.append_eq_append_iff.mp h with ⟨between,hcommand,htail⟩ | ⟨between,hcommand,htail⟩
  · cases between with
    | nil => exact ⟨by simpa using hcommand.symm,(List.cons.inj htail).2⟩
    | cons c between =>
      exact absurd (List.cons.inj htail).2 (dispatch_readable.no_suffix fs gs between)
  · cases between with
    | nil => exact ⟨by simpa using hcommand,(List.cons.inj htail).2.symm⟩
    | cons c between =>
      exact absurd (List.cons.inj htail).2 (dispatch_readable.no_suffix gs fs between)

/-- A signed message names one job: its id, its command and its parameters, up to the order of
the keys. -/
theorem message_inj (a b : SignedJob) :
    a.message = b.message ↔ a.jobId = b.jobId ∧ a.command = b.command ∧
      (Value.obj a.parameters).Same (.obj b.parameters) := by
  have hparams := dispatch_readable.render_eq_iff keyOrder_lexLe a.distinct
    (w := .obj b.parameters)
  constructor
  · intro h
    have htext := utf8_inj h
    rw [canonicalParams_eq,canonicalParams_eq] at htext
    have hlength : a.jobId.length = b.jobId.length := a.uuid.length.trans b.uuid.length.symm
    obtain ⟨hid,hrest⟩ := List.append_inj htext hlength
    obtain ⟨hcommand,hp⟩ := command_params_inj (List.cons.inj hrest).2
    exact ⟨hid,hcommand,hparams.mp hp⟩
  · rintro ⟨hid,hcommand,hsame⟩
    rw [SignedJob.message,SignedJob.message,dispatchMessage,dispatchMessage,canonicalParams_eq,
      canonicalParams_eq,hid,hcommand,hparams.mpr hsame]

end Messages

end Nexplane
