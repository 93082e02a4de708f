import Nexplane.Lib.Text
import Mathlib.Data.List.Forall2
import Mathlib.Data.List.Sort
import Mathlib.Algebra.GroupWithZero.Nat

set_option autoImplicit false

/-! A configuration file of directives, one on a line, some of them in blocks: what the file says,
apart from how it is written. -/

namespace Directives
open Text

/-- A keyword, which has no case, and its arguments. -/
structure Directive where
  keyword : List Char
  arguments : List (List Char)
  deriving DecidableEq

section Words

/-- What stands between the white space outside double quotes. -/
def pieces : Bool → List Char → List (List Char)
  | _, [] => [[]]
  | quoted, c :: cs =>
    if quoted = false ∧ isIntSpace c = true then [] :: pieces false cs
    else (pieces (quoted != (c == '"')) cs).modifyHead fun piece => c :: piece

def words (l : List Char) : List (List Char) := (pieces false l).filter fun piece => piece ≠ []

def unquote (word : List Char) : List Char := word.filter fun c => c ≠ '"'

def readDirective (l : List Char) : Directive where
  keyword := (unquote ((words l).headD [])).map Char.toLower
  arguments := (words l).tail.map unquote

/-- Whether double quotes are open after the text. -/
def endsQuoted (quoted : Bool) (l : List Char) : Bool :=
  l.foldl (fun quoted c => quoted != (c == '"')) quoted

variable {quoted : Bool} {c : Char} {l m : List Char}

theorem quote_of_space (hc : isIntSpace c = true) : (c == '"') = false := by
  rw [beq_eq_false_iff_ne]
  rintro rfl
  exact absurd hc (by decide)

theorem pieces_ne_nil (quoted : Bool) (l : List Char) : pieces quoted l ≠ [] := by
  induction l generalizing quoted with
  | nil => simp [pieces]
  | cons c l ih =>
    rw [pieces]
    split
    · simp
    · simpa using ih _

theorem pieces_append (hl : endsQuoted quoted l = false) (hc : isIntSpace c = true) :
    pieces quoted (l ++ c :: m) = pieces quoted l ++ pieces false m := by
  induction l generalizing quoted with
  | nil =>
    obtain rfl : quoted = false := by simpa [endsQuoted] using hl
    simp [pieces,hc]
  | cons d l ih =>
    rw [List.cons_append,pieces,pieces]
    split
    · next hd =>
      obtain ⟨rfl,hspace⟩ := hd
      have hrest : endsQuoted false l = false := by
        simpa [endsQuoted,quote_of_space hspace] using hl
      rw [ih hrest,List.cons_append]
    · obtain ⟨piece,more,hpieces⟩ := List.exists_cons_of_ne_nil
        (pieces_ne_nil (quoted != (d == '"')) l)
      rw [ih hl,hpieces]
      rfl

theorem words_append (hl : endsQuoted false l = false) (hc : isIntSpace c = true) :
    words (l ++ c :: m) = words l ++ words m := by
  rw [words,pieces_append hl hc,List.filter_append]
  rfl

/-- White space before the first word is nothing. -/
theorem words_skip (hl : ∀ c ∈ l, isIntSpace c = true) : words (l ++ m) = words m := by
  induction l with
  | nil => rfl
  | cons c l ih =>
    rw [List.cons_append,← List.nil_append (c :: (l ++ m)),
      words_append rfl (hl c List.mem_cons_self)]
    exact ih fun d hd => hl d (List.mem_cons_of_mem c hd)

end Words

section Spaces

/-- The white space inside the words. -/
def Directive.spaces (d : Directive) : Nat :=
  ((d.keyword :: d.arguments).map (List.countP isIntSpace)).sum

/-- The white space between double quotes. -/
def quotedSpaces : Bool → List Char → Nat
  | _, [] => 0
  | quoted, c :: cs =>
    (if quoted = true ∧ isIntSpace c = true then 1 else 0) +
      quotedSpaces (quoted != (c == '"')) cs

variable {quoted : Bool} {c : Char} {l m : List Char}

theorem quotedSpaces_append :
    quotedSpaces quoted (l ++ m) =
      quotedSpaces quoted l + quotedSpaces (endsQuoted quoted l) m := by
  induction l generalizing quoted with
  | nil => simp [quotedSpaces,endsQuoted]
  | cons c l ih =>
    rw [List.cons_append,quotedSpaces,quotedSpaces,ih,endsQuoted,endsQuoted,List.foldl_cons,
      Nat.add_assoc]

/-- White space leaves the quotes as they are. -/
theorem quotedSpaces_skip (hl : ∀ c ∈ l, isIntSpace c = true) :
    quotedSpaces quoted (l ++ m) = (if quoted = true then l.length else 0) +
      quotedSpaces quoted m := by
  induction l with
  | nil => simp
  | cons c l ih =>
    have hc := hl c List.mem_cons_self
    rw [List.cons_append,quotedSpaces,quote_of_space hc,Bool.bne_false,
      ih fun d hd => hl d (List.mem_cons_of_mem c hd)]
    cases quoted with
    | false => simp
    | true =>
      simp [hc]
      omega

theorem pieces_spaces :
    ((pieces quoted l).map (List.countP isIntSpace)).sum = quotedSpaces quoted l := by
  induction l generalizing quoted with
  | nil => simp [pieces,quotedSpaces]
  | cons c l ih =>
    rw [pieces,quotedSpaces]
    split
    · next hc =>
      obtain ⟨rfl,hspace⟩ := hc
      rw [quote_of_space hspace,Bool.bne_false,← ih]
      simp
    · next hc =>
      obtain ⟨piece,more,hpieces⟩ := List.exists_cons_of_ne_nil
        (pieces_ne_nil (quoted != (c == '"')) l)
      have hcount : (if quoted = true ∧ isIntSpace c = true then 1 else 0) =
          if isIntSpace c = true then 1 else 0 := by
        cases quoted <;> cases hspace : isIntSpace c <;> simp_all
      rw [hcount,← ih,hpieces]
      simp only [List.modifyHead_cons,List.map_cons,List.sum_cons,List.countP_cons]
      omega

theorem isIntSpace_letter (hc : 65 ≤ c.toNat ∧ c.toNat ≤ 122) : isIntSpace c = false := by
  have hspace : isSpace c = false := by
    simp [isSpace]
    omega
  rw [isIntSpace,hspace,Bool.false_and]

theorem isIntSpace_toLower (c : Char) : isIntSpace c.toLower = isIntSpace c := by
  have hlower := toNat_toLower c
  split at hlower
  · rw [isIntSpace_letter (by omega),isIntSpace_letter (by omega)]
  · rw [Char.toNat_inj.mp hlower]

theorem unquote_spaces (word : List Char) :
    (unquote word).countP isIntSpace = word.countP isIntSpace := by
  rw [unquote,List.countP_filter]
  refine List.countP_congr fun c _ => ?_
  constructor
  · intro hc
    simp_all
  · intro hc
    have := quote_of_space hc
    simp_all

/-- The directive of a line has the white space that stands in quotes on the line. -/
theorem readDirective_spaces (l : List Char) :
    (readDirective l).spaces = quotedSpaces false l := by
  have hwords : ((words l).map (List.countP isIntSpace)).sum = quotedSpaces false l := by
    rw [← pieces_spaces,words]
    generalize pieces false l = ps
    induction ps with
    | nil => rfl
    | cons p ps ih =>
      by_cases hp : p = []
      · simpa [hp] using ih
      · simpa [hp] using ih
  have hkeyword : ∀ word : List Char,
      ((unquote word).map Char.toLower).countP isIntSpace = word.countP isIntSpace := by
    intro word
    rw [List.countP_map,← unquote_spaces]
    exact List.countP_congr fun c _ => by simp [isIntSpace_toLower]
  have harguments : (List.countP isIntSpace) ∘ unquote = List.countP isIntSpace :=
    funext unquote_spaces
  rw [Directive.spaces,← hwords,readDirective]
  cases words l with
  | nil => rfl
  | cons word more =>
    simp only [List.headD_cons,List.tail_cons,List.map_cons,List.sum_cons,List.map_map,hkeyword,
      harguments]

end Spaces

section Scopes

/-- A block, and the arguments of the line that opens it. -/
structure Block where
  criteria : List (List Char)
  body : List Directive

def opens (d : Directive) : Bool := d.keyword = "match".toList

/-- The directives before the first block, and the blocks. -/
def scopes : List Directive → List Directive × List Block
  | [] => ([],[])
  | d :: ds =>
    if opens d = true then ([],⟨d.arguments,(scopes ds).1⟩ :: (scopes ds).2)
    else (d :: (scopes ds).1,(scopes ds).2)

/-- The arguments of the directives of one keyword. -/
def argumentsOf (keyword : List Char) (ds : List Directive) : List (List (List Char)) :=
  (ds.filter fun d => d.keyword = keyword).map Directive.arguments

/-- Every keyword has the same arguments in the same sequence. -/
def SameSettings (ds ds' : List Directive) : Prop :=
  ∀ keyword, argumentsOf keyword ds = argumentsOf keyword ds'

structure SameBlock (b b' : Block) : Prop where
  criteria : b.criteria = b'.criteria
  body : SameSettings b.body b'.body

/-- The same settings outside the blocks, and the same blocks. -/
structure SameScopes (ds ds' : List Directive) : Prop where
  outside : SameSettings (scopes ds).1 (scopes ds').1
  blocks : List.Forall₂ SameBlock (scopes ds).2 (scopes ds').2

variable {ds ds' : List Directive}

theorem count_argumentsOf (d : Directive) (ds : List Directive) :
    (argumentsOf d.keyword ds).count d.arguments = ds.count d := by
  induction ds with
  | nil => rfl
  | cons e ds ih =>
    rw [List.count_cons,← ih,argumentsOf,argumentsOf]
    by_cases hk : e.keyword = d.keyword
    · rw [List.filter_cons_of_pos (by simpa using hk),List.map_cons,List.count_cons]
      congr 1
      obtain ⟨k,args⟩ := e
      obtain ⟨k',args'⟩ := d
      simp_all
    · rw [List.filter_cons_of_neg (by simpa using hk)]
      have : e ≠ d := fun he => hk (he ▸ rfl)
      simp [this]

theorem SameSettings.perm (h : SameSettings ds ds') : ds.Perm ds' := by
  refine List.perm_iff_count.mpr fun d => ?_
  rw [← count_argumentsOf,h d.keyword,count_argumentsOf]

def Block.directives (b : Block) : List Directive := ⟨"match".toList,b.criteria⟩ :: b.body

theorem scopes_directives (ds : List Directive) :
    (scopes ds).1 ++ (scopes ds).2.flatMap Block.directives = ds := by
  induction ds with
  | nil => rfl
  | cons d ds ih =>
    rw [scopes]
    split
    · next hd =>
      obtain ⟨k,args⟩ := d
      obtain rfl : k = "match".toList := by simpa [opens] using hd
      simpa [Block.directives] using ih
    · simpa using ih

/-- Files that say the same have the same directives. -/
theorem SameScopes.perm (h : SameScopes ds ds') : ds.Perm ds' := by
  rw [← scopes_directives ds,← scopes_directives ds']
  refine h.outside.perm.append ?_
  have hblocks := h.blocks
  generalize (scopes ds).2 = bs at hblocks
  generalize (scopes ds').2 = bs' at hblocks
  induction hblocks with
  | nil => exact List.Perm.refl _
  | cons hblock _ ih =>
    rw [List.flatMap_cons,List.flatMap_cons]
    refine List.Perm.append ?_ ih
    rw [Block.directives,Block.directives,hblock.criteria]
    exact hblock.body.perm.cons _

end Scopes

section Order

variable {ds ds' ds'' : List Directive} {d e : Directive}

/-- Directives that may change places. -/
structure Apart (d e : Directive) : Prop where
  noBlock : opens d = false ∧ opens e = false
  keyword : d.keyword ≠ e.keyword

instance : Decidable (Apart d e) := decidable_of_iff
  ((opens d = false ∧ opens e = false) ∧ d.keyword ≠ e.keyword)
  ⟨fun h => ⟨h.1,h.2⟩,fun h => ⟨h.noBlock,h.keyword⟩⟩

theorem SameSettings.refl (ds : List Directive) : SameSettings ds ds := fun _ => rfl

theorem SameSettings.trans (h : SameSettings ds ds') (h' : SameSettings ds' ds'') :
    SameSettings ds ds'' := fun keyword => (h keyword).trans (h' keyword)

theorem SameSettings.cons (d : Directive) (h : SameSettings ds ds') :
    SameSettings (d :: ds) (d :: ds') := by
  intro keyword
  have hrest := h keyword
  simp only [argumentsOf] at hrest ⊢
  by_cases hk : d.keyword = keyword
  · rw [List.filter_cons_of_pos (by simpa using hk),List.filter_cons_of_pos (by simpa using hk),
      List.map_cons,List.map_cons,hrest]
  · rw [List.filter_cons_of_neg (by simpa using hk),List.filter_cons_of_neg (by simpa using hk),
      hrest]

theorem SameSettings.swap (hne : d.keyword ≠ e.keyword) :
    SameSettings (d :: e :: ds) (e :: d :: ds) := by
  intro keyword
  by_cases hk : d.keyword = keyword
  · have he : e.keyword ≠ keyword := fun he => hne (hk.trans he.symm)
    simp [argumentsOf,hk,he]
  · by_cases he : e.keyword = keyword <;> simp [argumentsOf,hk,he]

theorem sameBlocks_refl (bs : List Block) : List.Forall₂ SameBlock bs bs :=
  List.forall₂_same.mpr fun _ _ => ⟨rfl,.refl _⟩

theorem SameScopes.refl (ds : List Directive) : SameScopes ds ds := ⟨.refl _,sameBlocks_refl _⟩

theorem SameScopes.trans (h : SameScopes ds ds') (h' : SameScopes ds' ds'') :
    SameScopes ds ds'' where
  outside := h.outside.trans h'.outside
  blocks := by
    have hblocks := h.blocks
    have hblocks' := h'.blocks
    generalize (scopes ds).2 = bs at hblocks
    generalize (scopes ds').2 = bs' at hblocks hblocks'
    generalize (scopes ds'').2 = bs'' at hblocks'
    induction hblocks generalizing bs'' with
    | nil =>
      cases hblocks'
      exact .nil
    | cons hb _ ih =>
      cases hblocks' with
      | cons hb' hrest =>
        exact .cons ⟨hb.criteria.trans hb'.criteria,hb.body.trans hb'.body⟩ (ih _ hrest)

theorem SameScopes.cons (d : Directive) (h : SameScopes ds ds') :
    SameScopes (d :: ds) (d :: ds') := by
  by_cases hd : opens d = true
  · refine ⟨?_,?_⟩ <;> rw [scopes,scopes,if_pos hd,if_pos hd]
    · exact .refl _
    · exact .cons ⟨rfl,h.outside⟩ h.blocks
  · refine ⟨?_,?_⟩ <;> rw [scopes,scopes,if_neg hd,if_neg hd]
    · exact h.outside.cons d
    · exact h.blocks

theorem Apart.swap (h : Apart d e) (ds : List Directive) :
    SameScopes (d :: e :: ds) (e :: d :: ds) := by
  obtain ⟨⟨hd,he⟩,hne⟩ := h
  refine ⟨?_,?_⟩ <;> simp only [scopes,hd,he,Bool.false_eq_true,if_false]
  · exact .swap hne
  · exact sameBlocks_refl _

variable {α : Type} {r : α → α → Prop} [DecidableRel r] {read : α → Directive} {a : α} {l : List α}

theorem sameScopes_insert (h : ∀ b ∈ l, r a b ∨ Apart (read a) (read b)) :
    SameScopes (read a :: l.map read) ((l.orderedInsert r a).map read) := by
  induction l with
  | nil => exact .refl _
  | cons b l ih =>
    rw [List.orderedInsert_cons]
    split
    · exact .refl _
    · next hab =>
      have hapart := (h b List.mem_cons_self).resolve_left hab
      refine (hapart.swap _).trans (.cons (read b) (ih fun c hc => ?_))
      exact h c (List.mem_cons_of_mem b hc)

/-- A sort that moves no line past one of its keyword, or past the start of a block, keeps what
the lines say. -/
theorem sameScopes_sort (h : l.Pairwise fun a b => r a b ∨ Apart (read a) (read b)) :
    SameScopes (l.map read) ((l.insertionSort r).map read) := by
  induction h with
  | nil => exact .refl _
  | cons hhead _ ih =>
    rw [List.map_cons,List.insertionSort_cons]
    refine (SameScopes.cons _ ih).trans (sameScopes_insert fun b hb => ?_)
    exact hhead b ((List.mem_insertionSort r).mp hb)

end Order

end Directives
