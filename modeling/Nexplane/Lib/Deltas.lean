import Mathlib.Data.List.Dedup
import Mathlib.Data.List.Sort

set_option autoImplicit false

/-! The difference of two lists of rules by their names, and what it says of what they permit. -/

namespace Deltas

variable {ρ ε κ : Type} {permits : ρ → ε → Prop} {name : ρ → κ} {P Q : List ρ} {d : ε}

structure Delta (κ : Type) where
  added : List κ
  removed : List κ
  deriving DecidableEq, Repr

def Delta.Empty (delta : Delta κ) : Prop := delta.added = [] ∧ delta.removed = []

/-- The sorted names that one has and the other has not. -/
def difference [DecidableEq κ] (le : κ → κ → Bool) (prior current : List κ) : Delta κ where
  added := (current.dedup.filter fun k => k ∉ prior).insertionSort fun a b => le a b = true
  removed := (prior.dedup.filter fun k => k ∉ current).insertionSort fun a b => le a b = true

def Permitted (permits : ρ → ε → Prop) (rules : List ρ) (e : ε) : Prop := ∃ r ∈ rules, permits r e

def SameRules (P Q : List ρ) : Prop := ∀ r, r ∈ P ↔ r ∈ Q

def SameEvents (permits : ρ → ε → Prop) (P Q : List ρ) : Prop :=
  ∀ e, Permitted permits P e ↔ Permitted permits Q e

/-- Every rule that permits more than the prior ones has its name in what is added. -/
def Represented (permits : ρ → ε → Prop) (name : ρ → κ) (P Q : List ρ) (delta : Delta κ) : Prop :=
  ∀ r ∈ Q, ∀ e, permits r e → ¬Permitted permits P e → name r ∈ delta.added

/-- A delta of the rules. -/
structure OfRules (permits : ρ → ε → Prop) (name : ρ → κ) (P Q : List ρ) (delta : Delta κ) : Prop where
  empty_iff : delta.Empty ↔ SameRules P Q
  events : delta.Empty → SameEvents permits P Q
  represented : Represented permits name P Q delta

/-- A delta of what the rules permit. -/
structure OfEvents (permits : ρ → ε → Prop) (name : ρ → κ) (P Q : List ρ) (delta : Delta κ) : Prop where
  empty_iff : delta.Empty ↔ SameEvents permits P Q
  represented : Represented permits name P Q delta

theorem SameRules.events (h : SameRules P Q) : SameEvents permits P Q :=
  fun _ => exists_congr fun r => and_congr_left fun _ => h r

/-- Where rules that permit the same are the same, a delta of the rules is one of what they permit. -/
theorem OfRules.ofEvents {delta : Delta κ} (h : OfRules permits name P Q delta)
    (hsame : SameEvents permits P Q → SameRules P Q) : OfEvents permits name P Q delta :=
  ⟨⟨h.events,fun hevents => h.empty_iff.mpr (hsame hevents)⟩,h.represented⟩

section Difference

variable [DecidableEq κ] {le : κ → κ → Bool} {prior current : List κ} {k : κ}

theorem mem_added : k ∈ (difference le prior current).added ↔ k ∈ current ∧ k ∉ prior := by
  simp [difference]

theorem mem_removed : k ∈ (difference le prior current).removed ↔ k ∈ prior ∧ k ∉ current := by
  simp [difference]

theorem difference_empty : (difference le prior current).Empty ↔ ∀ k, k ∈ prior ↔ k ∈ current := by
  rw [Delta.Empty,List.eq_nil_iff_forall_not_mem,List.eq_nil_iff_forall_not_mem]
  constructor
  · rintro ⟨hadded,hremoved⟩ k
    constructor
    · intro hprior
      by_contra hcurrent
      exact hremoved k (mem_removed.mpr ⟨hprior,hcurrent⟩)
    · intro hcurrent
      by_contra hprior
      exact hadded k (mem_added.mpr ⟨hcurrent,hprior⟩)
  · intro hsame
    constructor
    · intro k hk
      obtain ⟨hcurrent,hprior⟩ := mem_added.mp hk
      exact hprior ((hsame k).mpr hcurrent)
    · intro k hk
      obtain ⟨hprior,hcurrent⟩ := mem_removed.mp hk
      exact hcurrent ((hsame k).mp hprior)

/-- The names are those of the rules, and no two rules have one name. -/
structure Named (name : ρ → κ) (P Q : List ρ) (prior current : List κ) : Prop where
  prior : ∀ k, k ∈ prior ↔ ∃ r ∈ P, name r = k
  current : ∀ k, k ∈ current ↔ ∃ r ∈ Q, name r = k
  own : ∀ r ∈ P, ∀ r' ∈ Q, name r = name r' → r = r'

theorem Named.ofRules (h : Named name P Q prior current) (permits : ρ → ε → Prop) :
    OfRules permits name P Q (difference le prior current) := by
  have hrules : (difference le prior current).Empty → SameRules P Q := by
    intro hempty r
    rw [difference_empty] at hempty
    constructor
    · intro hr
      obtain ⟨r',hr',hname⟩ := (h.current _).mp ((hempty _).mp ((h.prior _).mpr ⟨r,hr,rfl⟩))
      rw [h.own r hr r' hr' hname.symm]
      exact hr'
    · intro hr
      obtain ⟨r',hr',hname⟩ := (h.prior _).mp ((hempty _).mpr ((h.current _).mpr ⟨r,hr,rfl⟩))
      rw [← h.own r' hr' r hr hname]
      exact hr'
  constructor
  · refine ⟨hrules,fun hsame => difference_empty.mpr fun k => ?_⟩
    rw [h.prior,h.current]
    exact exists_congr fun r => and_congr_left fun _ => hsame r
  · exact fun hempty => (hrules hempty).events
  · intro r hr e hpermits hnone
    refine mem_added.mpr ⟨(h.current _).mpr ⟨r,hr,rfl⟩,fun hprior => ?_⟩
    obtain ⟨r',hr',hname⟩ := (h.prior _).mp hprior
    rw [h.own r' hr' r hr hname] at hr'
    exact hnone ⟨r,hr',hpermits⟩

end Difference

end Deltas
