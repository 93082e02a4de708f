import Nexplane.Lib.Text

set_option autoImplicit false

/-! A stream of bytes that is read in exact lengths, whatever the chunks it comes in. -/

open Text

/-- What has come and is not yet read, and the chunks that will come before the end. -/
structure StreamReader where
  buffer : Bytes
  coming : List Bytes

namespace StreamReader

/-- Everything that is still to be read. -/
def rest (r : StreamReader) : Bytes := r.buffer ++ r.coming.flatten

def readFrom (n : Nat) : Bytes → List Bytes → Option (Bytes × StreamReader)
  | buffer, [] => if n ≤ buffer.length then some (buffer.take n,⟨buffer.drop n,[]⟩) else none
  | buffer, chunk :: coming =>
    if n ≤ buffer.length then some (buffer.take n,⟨buffer.drop n,chunk :: coming⟩)
    else readFrom n (buffer ++ chunk) coming

/-- `readexactly`; `none` is its `IncompleteReadError`. -/
def readExactly (r : StreamReader) (n : Nat) : Option (Bytes × StreamReader) :=
  readFrom n r.buffer r.coming

variable {r r' : StreamReader} {n : Nat} {bs tail : Bytes}

theorem readExactly_sound (h : r.readExactly n = some (bs,r')) :
    r.rest = bs ++ r'.rest ∧ bs.length = n := by
  obtain ⟨buffer,coming⟩ := r
  simp only [readExactly,rest] at h ⊢
  have hhere : ∀ buffer coming, n ≤ buffer.length →
      some (buffer.take n,(⟨buffer.drop n,coming⟩ : StreamReader)) = some (bs,r') →
        buffer ++ coming.flatten = bs ++ (r'.buffer ++ r'.coming.flatten) ∧ bs.length = n := by
    intro buffer coming hn heq
    obtain ⟨rfl,rfl⟩ := Prod.mk.inj (Option.some.inj heq)
    rw [← List.append_assoc,List.take_append_drop]
    exact ⟨rfl,List.length_take_of_le hn⟩
  induction coming generalizing buffer with
  | nil =>
    simp only [readFrom,Option.ite_none_right_eq_some] at h
    exact hhere buffer [] h.1 h.2
  | cons chunk coming ih =>
    simp only [readFrom] at h
    split at h
    · next hn => exact hhere buffer _ hn h
    · simpa using ih (buffer ++ chunk) h

theorem readExactly_complete (h : r.rest = bs ++ tail) :
    ∃ r', r.readExactly bs.length = some (bs,r') ∧ r'.rest = tail := by
  obtain ⟨buffer,coming⟩ := r
  simp only [readExactly,rest] at h ⊢
  have hhere : ∀ (buffer : Bytes) (coming : List Bytes), bs.length ≤ buffer.length →
      buffer ++ coming.flatten = bs ++ tail → buffer.take bs.length = bs ∧
        buffer.drop bs.length ++ coming.flatten = tail := by
    intro buffer coming hn heq
    have htake := congrArg (List.take bs.length) heq
    have hdrop := congrArg (List.drop bs.length) heq
    rw [List.take_append_of_le_length hn,List.take_left] at htake
    rw [List.drop_append_of_le_length hn,List.drop_left] at hdrop
    exact ⟨htake,hdrop⟩
  induction coming generalizing buffer with
  | nil =>
    have hn : bs.length ≤ buffer.length := by
      have hlength := congrArg List.length h
      simp at hlength
      omega
    obtain ⟨htake,hdrop⟩ := hhere buffer [] hn h
    exact ⟨⟨buffer.drop bs.length,[]⟩,by rw [readFrom,if_pos hn,htake],hdrop⟩
  | cons chunk coming ih =>
    by_cases hn : bs.length ≤ buffer.length
    · obtain ⟨htake,hdrop⟩ := hhere buffer _ hn h
      exact ⟨⟨buffer.drop bs.length,chunk :: coming⟩,by rw [readFrom,if_pos hn,htake],hdrop⟩
    · rw [readFrom,if_neg hn]
      exact ih (buffer ++ chunk) (by simpa using h)

end StreamReader
