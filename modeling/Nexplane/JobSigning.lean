import Nexplane.Lib.Float64
import Nexplane.Lib.JsonText

set_option autoImplicit false

/-! The bytes that sign a job, as the control plane writes them and as the agent writes them anew
from the parameters it received. -/

namespace Nexplane
open Text JsonText

/-- A number as the control plane has it. -/
inductive Number where
  | int (n : Int)
  | float (x : Float64)

namespace Dispatch

/-- `ESCAPE_DCT`, and the other control characters by number. -/
def escape (c : Char) : List Char :=
  if c = '\\' then ['\\','\\']
  else if c = '"' then ['\\','"']
  else if c.toNat = 8 then ['\\','b']
  else if c.toNat = 12 then ['\\','f']
  else if c = '\n' then ['\\','n']
  else if c = '\r' then ['\\','r']
  else if c = '\t' then ['\\','t']
  else if c.toNat < 32 then
    ['\\','u','0','0',Nat.digitChar (c.toNat / 16),Nat.digitChar (c.toNat % 16)]
  else [c]

def intText (n : Int) : List Char :=
  if n < 0 then '-' :: Nat.toDigits 10 n.natAbs else Nat.toDigits 10 n.natAbs

/-- `float.__repr__`. -/
def floatText (x : Float64) : List Char :=
  x.sign ++
    if x.significand = 0 then ['0','.','0']
    else if -3 ≤ x.point ∧ x.point ≤ 16 then
      x.fixed ++ if 0 ≤ x.exponent then ['.','0'] else []
    else x.scientific Float64.exponentDigits

def numberText : Number → List Char
  | .int n => intText n
  | .float x => floatText x

/-- `json.dumps` with sorted keys and without blanks and ASCII escapes. -/
def dumps : Style Number := ⟨escape,numberText,lexLe Char.toNat⟩

/-- `str.replace` of one character. -/
def replace (c : Char) (by' : List Char) (text : List Char) : List Char :=
  text.flatMap fun d => if d = c then by' else [d]

def canonicalParams (parameters : Value Number) : List Char :=
  replace '&' "\\u0026".toList (replace '>' "\\u003e".toList (replace '<' "\\u003c".toList
    (render dumps parameters)))

end Dispatch

namespace AgentHmac

/-- `htmlSafeSet`. -/
def htmlSafe (c : Char) : Bool := 32 ≤ c.toNat && !(['"','&','<','>','\\'].contains c)

/-- `appendString` with HTML escapes. -/
def escape (c : Char) : List Char :=
  if c.toNat < 128 then
    if htmlSafe c then [c]
    else if c = '\\' ∨ c = '"' then ['\\',c]
    else if c.toNat = 8 then ['\\','b']
    else if c.toNat = 12 then ['\\','f']
    else if c = '\n' then ['\\','n']
    else if c = '\r' then ['\\','r']
    else if c = '\t' then ['\\','t']
    else ['\\','u','0','0',Nat.digitChar (c.toNat / 16),Nat.digitChar (c.toNat % 16)]
  else if c.toNat = 0x2028 ∨ c.toNat = 0x2029 then
    ['\\','u','2','0','2',Nat.digitChar (c.toNat % 16)]
  else [c]

/-- An exponent of one digit loses the zero before it. -/
def cleanExponent (n : Nat) : List Char :=
  match Float64.exponentDigits n with
  | ['0',d] => [d]
  | ds => ds

/-- `floatEncoder`: an exponent below 1e-6 and from 1e21 on. -/
def floatText (x : Float64) : List Char :=
  x.sign ++
    if x.significand ≠ 0 ∧ (x.point < -5 ∨ 21 < x.point) then x.scientific cleanExponent
    else x.fixed

/-- `json.Marshal` of decoded parameters. -/
def marshal : Style Float64 where
  char := escape
  num := floatText
  le := fun k l =>
    lexLe UInt8.toNat (k.flatMap String.utf8EncodeChar) (l.flatMap String.utf8EncodeChar)

/-- Every number is decoded into a float64. -/
def decodeNumber : Number → Option Float64
  | .int n => Float64.read n
  | .float x => some x

end AgentHmac

/-- `{job_id}:{command}:{params}` in UTF-8. -/
def signedMessage (jobId command params : List Char) : Bytes :=
  (jobId ++ ':' :: (command ++ ':' :: params)).flatMap String.utf8EncodeChar

/-- What `dispatch_agent_job` signs; the keys of a `dict` are distinct. -/
def dispatchMessage (jobId command : List Char) (parameters : List (List Char × Value Number)) :
    Bytes :=
  signedMessage jobId command (Dispatch.canonicalParams (.obj parameters))

/-- What `agenthmac.Sign` signs, when the job can be decoded. -/
def agentMessage (jobId command : List Char) (parameters : List (List Char × Value Number)) :
    Option Bytes :=
  ((Value.obj parameters).mapNum AgentHmac.decodeNumber).map fun received =>
    signedMessage jobId command (render AgentHmac.marshal received)

/-- `agenthmac.Verify` on the job and the signature that the control plane sent; both ends write a
digest as the same hexadecimal digits. -/
def jobVerified (hmac : Bytes → Bytes → Bytes) (secret jobId command : List Char)
    (parameters : List (List Char × Value Number)) : Bool :=
  let key := secret.flatMap String.utf8EncodeChar
  match agentMessage jobId command parameters with
  | none => false
  | some message => hmac key message = hmac key (dispatchMessage jobId command parameters)

section Characters

/-- The styles that the control plane's text is written in, the replacements included. -/
def dispatchStyle : Style Number :=
  ((Dispatch.dumps.replaced fun d => if d = '<' then "\\u003c".toList else [d]).replaced
    fun d => if d = '>' then "\\u003e".toList else [d]).replaced
      fun d => if d = '&' then "\\u0026".toList else [d]

theorem escape_ascii {c : Char} (h : c.toNat < 128) :
    dispatchStyle.char c = AgentHmac.escape c := by
  have hall : ∀ n < 128, dispatchStyle.char (Char.ofNat n) = AgentHmac.escape (Char.ofNat n) := by
    decide +kernel
  simpa using hall c.toNat h

theorem dispatch_unicode {c : Char} (h : 128 ≤ c.toNat) : dispatchStyle.char c = [c] := by
  have hne : ∀ d : Char, d.toNat < 128 → c ≠ d := by
    rintro d hd rfl
    omega
  have hesc : Dispatch.escape c = [c] := by
    simp only [Dispatch.escape]
    rw [if_neg (hne _ (by decide)),if_neg (hne _ (by decide)),if_neg (by omega),
      if_neg (by omega),if_neg (hne _ (by decide)),if_neg (hne _ (by decide)),
      if_neg (hne _ (by decide)),if_neg (by omega)]
  simp only [dispatchStyle,Style.replaced,Dispatch.dumps,hesc,List.flatMap_singleton,
    if_neg (hne '<' (by decide)),if_neg (hne '>' (by decide)),if_neg (hne '&' (by decide))]

/-- Only the two line separators are escaped by the agent alone. -/
theorem char_eq_iff (c : Char) :
    dispatchStyle.char c = AgentHmac.escape c ↔ c.toNat ≠ 0x2028 ∧ c.toNat ≠ 0x2029 := by
  by_cases hascii : c.toNat < 128
  · simp only [escape_ascii hascii,true_iff]
    omega
  · rw [dispatch_unicode (by omega),AgentHmac.escape,if_neg hascii]
    split
    · next hsep =>
      simp
      omega
    · next hsep =>
      simp
      omega

theorem char_apart (c : Char) (x y : List Char)
    (h : dispatchStyle.char c ++ x = AgentHmac.escape c ++ y) :
    dispatchStyle.char c = AgentHmac.escape c := by
  rw [char_eq_iff]
  by_contra hsep
  have hlarge : 128 ≤ c.toNat := by omega
  rw [dispatch_unicode hlarge,AgentHmac.escape,if_neg (by omega),if_pos (by omega)] at h
  obtain rfl : c = '\\' := (List.cons.inj h).1
  exact absurd hlarge (by decide)

end Characters

section Numbers

variable {x : Float64} {n : Int} {c : Char}

/-- The characters of number texts. -/
def numChar (c : Char) : Bool := c.isDigit || ['-','+','.','e'].contains c

theorem numChar_digits {k : Nat} (h : c ∈ Nat.toDigits 10 k) : numChar c = true := by
  rw [numChar,Nat.isDigit_of_mem_toDigits (by decide) (by decide) h,Bool.true_or]

theorem numChar_sign (h : c ∈ x.sign) : numChar c = true := by
  unfold Float64.sign at h
  split at h
  · obtain rfl := List.mem_singleton.mp h
    decide
  · cases h

theorem numChar_fixed (h : c ∈ x.fixed) : numChar c = true := by
  rcases Float64.fixed_chars h with hd | rfl
  · rw [numChar,hd,Bool.true_or]
  · decide

theorem numChar_scientific {e : Nat → List Char} (he : ∀ k, ∀ d ∈ e k, numChar d = true)
    (h : c ∈ x.scientific e) : numChar c = true := by
  have hmantissa : c ∈ Float64.mantissa x.digits → numChar c = true := by
    intro hm
    have hdigits : ∀ d ∈ x.digits, numChar d = true := fun d hd => numChar_digits hd
    unfold Float64.mantissa at hm
    split at hm
    · cases hm
    · next heq =>
      rw [heq] at hdigits
      exact hdigits c hm
    · next heq =>
      rw [heq] at hdigits
      simp only [List.mem_cons] at hm
      rcases hm with rfl | rfl | hm
      · exact hdigits c List.mem_cons_self
      · decide
      · exact hdigits c (List.mem_cons_of_mem _ hm)
  simp only [Float64.scientific,List.mem_append,List.mem_cons] at h
  rcases h with h | rfl | rfl | h
  · exact hmantissa h
  · decide
  · split <;> decide
  · exact he _ c h

theorem numChar_exponentDigits (k : Nat) : ∀ d ∈ Float64.exponentDigits k, numChar d = true := by
  intro d hd
  unfold Float64.exponentDigits at hd
  split at hd
  · rcases List.mem_cons.mp hd with rfl | hd
    · decide
    · exact numChar_digits hd
  · exact numChar_digits hd

theorem cleanExponent_eq (k : Nat) : AgentHmac.cleanExponent k = Nat.toDigits 10 k := by
  by_cases hk : k < 10
  · simp [AgentHmac.cleanExponent,Float64.exponentDigits,hk,Nat.toDigits_of_lt_base]
  · have hdigits := Nat.toDigits_of_base_le (b := 10) (by decide) (Nat.le_of_not_lt hk)
    rw [AgentHmac.cleanExponent,Float64.exponentDigits,if_neg hk]
    split
    · next d heq =>
      -- no number of two digits starts with a zero
      rw [heq] at hdigits
      have hfirst : ['0'] = Nat.toDigits 10 (k / 10) :=
        (List.append_inj' (show ['0'] ++ [d] = _ from hdigits) rfl).1
      have hzero := Float64.toDigits_inj ((Nat.toDigits_zero 10).trans hfirst)
      omega
    · rfl

theorem numChar_numberText (n : Number) : ∀ c ∈ Dispatch.numberText n, numChar c = true := by
  intro c hc
  cases n with
  | int n =>
    simp only [Dispatch.numberText,Dispatch.intText] at hc
    split at hc
    · rcases List.mem_cons.mp hc with rfl | hc
      · decide
      · exact numChar_digits hc
    · exact numChar_digits hc
  | float x =>
    simp only [Dispatch.numberText,Dispatch.floatText] at hc
    rcases List.mem_append.mp hc with hc | hc
    · exact numChar_sign hc
    · have hpoint : ∀ d ∈ ['.','0'], numChar d = true := by simp [numChar]
      split at hc
      · rcases List.mem_cons.mp hc with rfl | hc
        · decide
        · exact hpoint c hc
      · split at hc
        · rcases List.mem_append.mp hc with hc | hc
          · exact numChar_fixed hc
          · split at hc
            · exact hpoint c hc
            · cases hc
        · exact numChar_scientific numChar_exponentDigits hc

theorem numChar_marshal (x : Float64) : ∀ c ∈ AgentHmac.floatText x, numChar c = true := by
  intro c hc
  rcases List.mem_append.mp hc with hc | hc
  · exact numChar_sign hc
  · split at hc
    · refine numChar_scientific (fun k d hd => ?_) hc
      rw [cleanExponent_eq] at hd
      exact numChar_digits hd
    · exact numChar_fixed hc

/-- The numbers that both languages write alike: integers below 10^21 that are the shortest
integers rounded to their float64, fractions from 0.0001 to 10^16, and numbers below 10^-9 or from
10^21 on. -/
def Number.Portable : Number → Prop
  | .int n => n.natAbs < 10 ^ 21 ∧ Float64.shortest (Float64.nearest n.natAbs) = n.natAbs
  | .float x => x.significand ≠ 0 ∧
      (-3 ≤ x.point ∧ x.point ≤ 16 ∧ x.exponent < 0 ∨ x.point ≤ -9 ∨ 22 ≤ x.point)

theorem exponentDigits_eq_iff (k : Nat) :
    AgentHmac.cleanExponent k = Float64.exponentDigits k ↔ 10 ≤ k := by
  rw [cleanExponent_eq,Float64.exponentDigits]
  split
  · next hk =>
    refine iff_of_false (fun h => ?_) (by omega)
    have := congrArg List.length h
    simp at this
  · next hk => exact iff_of_true rfl (by omega)

theorem float_alike_iff (x : Float64) :
    AgentHmac.floatText x = Dispatch.floatText x ↔ (Number.float x).Portable := by
  rw [AgentHmac.floatText,Dispatch.floatText,List.append_cancel_left_eq]
  simp only [Number.Portable]
  have he : ∀ t, x.fixed ≠ x.scientific t := by
    intro t heq
    rcases Float64.fixed_chars (heq ▸ Float64.e_mem_scientific x t) with h | h
    · exact absurd h (by decide)
    · exact absurd h (by decide)
  by_cases hzero : x.significand = 0
  · have hexp : x.exponent = 0 := (x.trimmed.resolve_left (by simp [hzero])).2
    simp [hzero,Float64.fixed,hexp,Float64.digits,Nat.toDigits_zero]
  by_cases hmid : -3 ≤ x.point ∧ x.point ≤ 16
  · rw [if_neg (by omega),if_neg hzero,if_pos hmid]
    by_cases hexp : 0 ≤ x.exponent
    · simp [hexp]
      omega
    · simp [hexp,hzero]
      omega
  · rw [if_neg hzero,if_neg hmid]
    by_cases hsci : x.point < -5 ∨ 21 < x.point
    · rw [if_pos ⟨hzero,hsci⟩]
      simp only [Float64.scientific,List.append_cancel_left_eq,List.cons.injEq,true_and,
        exponentDigits_eq_iff]
      omega
    · rw [if_neg (fun h => hsci h.2)]
      exact iff_of_false (he _) (by omega)

theorem int_alike_iff (n : Int) :
    (∃ x, Float64.read n = some x ∧ AgentHmac.floatText x = Dispatch.intText n) ↔
      (Number.int n).Portable := by
  simp only [Number.Portable]
  by_cases hrange : Float64.nearest n.natAbs < 2 ^ 1024
  · simp only [Float64.read,if_pos hrange,Option.some.injEq,exists_eq_left']
    generalize hm : Float64.shortest (Float64.nearest n.natAbs) = m
    have hpoint := Float64.point_ofInteger (decide (n < 0)) m
    have hsign : Dispatch.intText n =
        (Float64.ofInteger (decide (n < 0)) m).sign ++ Nat.toDigits 10 n.natAbs := by
      by_cases hn : n < 0 <;> simp [Dispatch.intText,Float64.sign,Float64.ofInteger,hn]
    have hlen := Nat.length_toDigits_le_iff (b := 10) (n := m) (k := 21) (by decide) (by decide)
    rw [AgentHmac.floatText,hsign,List.append_cancel_left_eq]
    by_cases hsmall : m < 10 ^ 21
    · have hle := hlen.mpr hsmall
      rw [if_neg (by omega),Float64.fixed_ofInteger]
      constructor
      · intro h
        obtain rfl := Float64.toDigits_inj h
        exact ⟨hsmall,rfl⟩
      · rintro ⟨_,rfl⟩
        rfl
    · have hgt : ¬(Nat.toDigits 10 m).length ≤ 21 := fun hle => hsmall (hlen.mp hle)
      have hsig : (Float64.ofInteger (decide (n < 0)) m).significand ≠ 0 := by
        intro hzero
        have hdigits := Float64.toDigits_ofInteger (decide (n < 0)) m
        obtain ⟨hvalue,_⟩ := Float64.dropZeros_spec (Nat.le_refl m)
        have hz : (Float64.dropZeros m m).1 = 0 := hzero
        rw [hz,Nat.zero_mul] at hvalue
        omega
      rw [if_pos ⟨hsig,by omega⟩]
      refine iff_of_false (fun h => ?_) (by omega)
      have he := h ▸ Float64.e_mem_scientific _ AgentHmac.cleanExponent
      exact absurd (Nat.isDigit_of_mem_toDigits (by decide) (by decide) he) (by decide)
  · refine iff_of_false ?_ ?_
    · rintro ⟨x,hx,_⟩
      rw [Float64.read,if_neg hrange] at hx
      cases hx
    · rintro ⟨hsmall,_⟩
      have hle := Float64.nearest_le_double n.natAbs
      have hpow : 2 * 10 ^ 21 < 2 ^ 1024 := by decide +kernel
      omega

theorem number_alike_iff (n : Number) :
    (∃ x, AgentHmac.decodeNumber n = some x ∧ AgentHmac.floatText x = Dispatch.numberText n) ↔
      n.Portable := by
  cases n with
  | int n => exact int_alike_iff n
  | float x =>
    rw [← float_alike_iff]
    simp [AgentHmac.decodeNumber,Dispatch.numberText]

end Numbers

section Messages

/-- Parameters that both ends write alike. -/
structure Portable (parameters : List (List Char × Value Number)) : Prop where
  strings : ∀ s ∈ (Value.obj parameters).strings, ∀ c ∈ s, c.toNat ≠ 0x2028 ∧ c.toNat ≠ 0x2029
  numbers : ∀ n ∈ (Value.obj parameters).numbers, n.Portable

theorem utf8_inj {s t : List Char}
    (h : s.flatMap String.utf8EncodeChar = t.flatMap String.utf8EncodeChar) : s = t := by
  have hs := decodeUtf8_utf8 (String.ofList s)
  have ht := decodeUtf8_utf8 (String.ofList t)
  simp only [utf8,String.toList_ofList,h] at hs ht
  exact String.ofList_injective (Option.some.inj (hs.symm.trans ht))

theorem signedMessage_inj {jobId command p q : List Char} :
    signedMessage jobId command p = signedMessage jobId command q ↔ p = q := by
  constructor
  · intro h
    have heq := utf8_inj h
    simpa using heq
  · rintro rfl
    rfl

theorem canonicalParams_eq (parameters : Value Number) :
    Dispatch.canonicalParams parameters = render dispatchStyle parameters := by
  have hplain : ∀ d : Char, ∀ t : List Char, d ∉ structural →
      ∀ c ∈ structural, (if c = d then t else [c]) = [c] := by
    intro d t hd c hc
    exact if_neg (ne_of_mem_of_not_mem hc hd)
  have hnum : ∀ d : Char, ∀ t : List Char, numChar d = false → ∀ n, ∀ c ∈ Dispatch.numberText n,
      (if c = d then t else [c]) = [c] := by
    intro d t hd n c hc
    refine if_neg ?_
    rintro rfl
    rw [numChar_numberText n c hc] at hd
    cases hd
  rw [Dispatch.canonicalParams,Dispatch.replace,Dispatch.replace,Dispatch.replace,
    render_replaced (hplain '<' _ (by decide)) (hnum '<' _ (by decide)),
    render_replaced (hplain '>' _ (by decide)) (hnum '>' _ (by decide)),
    render_replaced (hplain '&' _ (by decide)) (hnum '&' _ (by decide))]
  rfl

theorem styles_comparable :
    Comparable dispatchStyle (AgentHmac.marshal.reading AgentHmac.decodeNumber) numChar where
  le := by
    funext k l
    exact (lexLe_utf8 k l).symm
  char := char_apart
  left := numChar_numberText
  right := by
    intro n c hc
    simp only [Style.reading] at hc
    cases hn : AgentHmac.decodeNumber n with
    | none => simp [hn] at hc
    | some x =>
      rw [hn] at hc
      exact numChar_marshal x c hc
  ends := by
    rintro c (rfl | rfl | rfl) <;> decide

theorem messages_agree_iff (jobId command : List Char)
    (parameters : List (List Char × Value Number)) :
    agentMessage jobId command parameters = some (dispatchMessage jobId command parameters) ↔
      Portable parameters := by
  have htext := render_eq_iff styles_comparable (Value.obj parameters)
  have hdecode := mapNum_isSome (f := AgentHmac.decodeNumber) (Value.obj parameters)
  constructor
  · intro h
    obtain ⟨received,hreceived,hmessage⟩ := Option.map_eq_some_iff.mp h
    rw [dispatchMessage,signedMessage_inj,canonicalParams_eq,
      render_mapNum (T := AgentHmac.marshal) _ hreceived] at hmessage
    have halike := htext.mp hmessage.symm
    refine ⟨fun s hs c hc => (char_eq_iff c).mp (halike.chars s hs c hc),fun n hn => ?_⟩
    rw [hreceived] at hdecode
    obtain ⟨x,hx⟩ := Option.isSome_iff_exists.mp (hdecode.mp rfl n hn)
    have hnum := halike.nums n hn
    simp only [Style.reading,hx,Option.elim_some] at hnum
    exact (number_alike_iff n).mp ⟨x,hx,hnum.symm⟩
  · intro h
    have hsome : ((Value.obj parameters).mapNum AgentHmac.decodeNumber).isSome := by
      refine hdecode.mpr fun n hn => ?_
      obtain ⟨x,hx,_⟩ := (number_alike_iff n).mpr (h.numbers n hn)
      rw [hx]
      rfl
    obtain ⟨received,hreceived⟩ := Option.isSome_iff_exists.mp hsome
    have halike : render dispatchStyle (Value.obj parameters) =
        render (AgentHmac.marshal.reading AgentHmac.decodeNumber) (Value.obj parameters) := by
      refine htext.mpr ⟨fun s hs c hc => (char_eq_iff c).mpr (h.strings s hs c hc),fun n hn => ?_⟩
      obtain ⟨x,hx,hnum⟩ := (number_alike_iff n).mpr (h.numbers n hn)
      simp only [Style.reading,hx,Option.elim_some]
      exact hnum.symm
    rw [agentMessage,hreceived,Option.map_some,dispatchMessage,canonicalParams_eq,halike,
      render_mapNum (T := AgentHmac.marshal) _ hreceived]

/-- The agent accepts the signature of a job, whatever the keyed hash, just if the parameters are
written alike by both ends; then both sign the same bytes. -/
theorem signatures_agree_iff (jobId command : List Char)
    (parameters : List (List Char × Value Number)) :
    (agentMessage jobId command parameters = some (dispatchMessage jobId command parameters) ↔
      Portable parameters) ∧
    ((∀ hmac secret, jobVerified hmac secret jobId command parameters = true) ↔
      Portable parameters) := by
  refine ⟨messages_agree_iff jobId command parameters,?_⟩
  rw [← messages_agree_iff jobId command parameters]
  constructor
  · intro h
    -- a hash that keeps the message shows that it is the same
    have hkeep := h (fun _ message => message) []
    cases hm : agentMessage jobId command parameters with
    | none => simp [jobVerified,hm] at hkeep
    | some message =>
      simp only [jobVerified,hm,decide_eq_true_iff] at hkeep
      rw [hkeep]
  · intro h hmac secret
    simp [jobVerified,h]

/-- A line separator in a parameter: the agent signs its escape. -/
theorem line_separator_rejected :
    agentMessage "j".toList "c".toList [("a".toList,.str ['\u2028'])] ≠
        some (dispatchMessage "j".toList "c".toList [("a".toList,.str ['\u2028'])]) ∧
      jobVerified (fun _ message => message) "k".toList "j".toList "c".toList
        [("a".toList,.str ['\u2028'])] = false := by
  have hne : agentMessage "j".toList "c".toList [("a".toList,.str ['\u2028'])] ≠
      some (dispatchMessage "j".toList "c".toList [("a".toList,.str ['\u2028'])]) := by
    intro h
    have hstrings := ((messages_agree_iff _ _ _).mp h).strings ['\u2028']
      (by simp [Value.strings,fieldStrings])
    exact absurd (hstrings '\u2028' (by simp)) (by decide)
  refine ⟨hne,?_⟩
  cases hm : agentMessage "j".toList "c".toList [("a".toList,.str ['\u2028'])] with
  | none => simp only [jobVerified,hm]
  | some message =>
    rw [hm] at hne
    simp only [jobVerified,hm,decide_eq_false_iff_not]
    exact fun heq => hne (congrArg some heq)

end Messages

end Nexplane
