import Nexplane.Lib.Text

set_option autoImplicit false

/-! UTF-8 decoding that replaces what is no character, as `decode("utf-8","replace")` does: one
U+FFFD for the longest beginning of a sequence, and the byte that breaks it is read anew. The
decoding that gives up single bytes is that of Go. -/

namespace LossyUtf8
open Text

/-- How many bytes of a sequence are still to come, the bounds of the next one, and the code point
so far. -/
structure Pending where
  needed : Nat
  lower : Nat
  upper : Nat
  point : Nat

def ready : Pending := ⟨0,0x80,0xBF,0⟩

/-- A byte at the beginning of a sequence. -/
def first (b : Nat) : List Char × Pending :=
  if b < 0x80 then ([Char.ofNat b],ready)
  else if 0xC2 ≤ b ∧ b ≤ 0xDF then ([],⟨1,0x80,0xBF,b - 0xC0⟩)
  else if 0xE0 ≤ b ∧ b ≤ 0xEF then
    ([],⟨2,if b = 0xE0 then 0xA0 else 0x80,if b = 0xED then 0x9F else 0xBF,b - 0xE0⟩)
  else if 0xF0 ≤ b ∧ b ≤ 0xF4 then
    ([],⟨3,if b = 0xF0 then 0x90 else 0x80,if b = 0xF4 then 0x8F else 0xBF,b - 0xF0⟩)
  else (['\uFFFD'],ready)

def next (st : Pending) (b : Nat) : List Char × Pending :=
  if st.needed = 0 then first b
  else if st.lower ≤ b ∧ b ≤ st.upper then
    let point := st.point * 64 + (b - 0x80)
    if st.needed = 1 then ([Char.ofNat point],ready) else ([],⟨st.needed - 1,0x80,0xBF,point⟩)
  else ('\uFFFD' :: (first b).1,(first b).2)

def decodeFrom (st : Pending) : List Nat → List Char
  | [] => if st.needed = 0 then [] else ['\uFFFD']
  | b :: bs => (next st b).1 ++ decodeFrom (next st b).2 bs

def decodeReplace (bs : Bytes) : String := String.ofList (decodeFrom ready (bs.map UInt8.toNat))

section Runes

/-- The character that a begun sequence goes on to, and what follows it. -/
def sequence (st : Pending) : List Nat → Option (Char × List Nat)
  | [] => none
  | b :: bs =>
    if st.needed = 0 ∨ b < st.lower ∨ st.upper < b then none
    else
      let point := st.point * 64 + (b - 0x80)
      if st.needed = 1 then some (Char.ofNat point,bs)
      else sequence ⟨st.needed - 1,0x80,0xBF,point⟩ bs

def runesFrom : Nat → List Nat → List (Option Char)
  | 0,_ => []
  | _,[] => []
  | n + 1,b :: bs =>
    if b < 0x80 then some (Char.ofNat b) :: runesFrom n bs
    else
      match sequence (first b).2 bs with
      | some (c,rest) => some c :: runesFrom n rest
      | none => none :: runesFrom n bs

/-- The characters of a byte string with `none` for each byte that is in no character, as
`utf8.DecodeRune` takes them off one by one. -/
def runes (bs : Bytes) : List (Option Char) := runesFrom bs.length (bs.map UInt8.toNat)

end Runes

end LossyUtf8
