import Nexplane.Lib.Patterns

set_option autoImplicit false

/-! Globs of paths, and what a set of paths is when some are replaced by their directories. -/

namespace Globs
open Patterns

/-- One star stays within a segment of the path, two go on across segments. -/
inductive Token where
  | char (c : Char)
  | segment
  | any
  deriving DecidableEq, Repr

def tokens : List Char → List Token
  | [] => []
  | '*' :: '*' :: cs => .any :: tokens cs
  | '*' :: cs => .segment :: tokens cs
  | c :: cs => .char c :: tokens cs

def fits : List Token → List Char → Bool
  | [],cs => cs.isEmpty
  | .char _ :: _,[] => false
  | .char c :: ts,d :: ds => c == d && fits ts ds
  | .segment :: ts,cs => (spans (· ≠ '/') cs).any fun s => fits ts s.2
  | .any :: ts,cs => cs.tails.any (fits ts)

/-- A star stays in its directory. -/
example : fits (tokens ['/','*']) ['/','a','/','b'] = false := by simp [tokens,fits,spans]

section Tokens

variable {c : Char} {cs ds l r : List Char} {ts : List Token}

theorem tokens_char (h : c ≠ '*') (cs : List Char) : tokens (c :: cs) = .char c :: tokens cs := by
  rw [tokens]
  · rintro ds rfl
    exact absurd rfl h
  · exact h

/-- A star begins with what it stands for, and the rest of it is that of the text. -/
theorem tokens_star (cs : List Char) :
    (∃ ds, cs = '*' :: ds ∧ tokens ('*' :: cs) = .any :: tokens ds) ∨
      tokens ('*' :: cs) = .segment :: tokens cs := by
  match cs with
  | [] => exact .inr rfl
  | d :: ds =>
    by_cases hd : d = '*'
    · subst hd
      exact .inl ⟨ds,rfl,by rw [tokens]⟩
    · refine .inr ?_
      rw [tokens]
      rintro es heq
      exact hd (List.cons.inj heq).1

theorem fits_segment : fits (.segment :: ts) cs = true ↔
    ∃ l r, l ++ r = cs ∧ '/' ∉ l ∧ fits ts r = true := by
  rw [fits,List.any_eq_true]
  constructor
  · rintro ⟨s,hs,hfits⟩
    obtain ⟨hsplit,hall⟩ := mem_spans.mp hs
    refine ⟨s.1,s.2,hsplit,fun hslash => ?_,hfits⟩
    have := hall _ hslash
    simp at this
  · rintro ⟨l,r,hsplit,hslash,hfits⟩
    refine ⟨(l,r),mem_spans.mpr ⟨hsplit,fun c hc => ?_⟩,hfits⟩
    simp only [decide_eq_true_eq]
    rintro rfl
    exact hslash hc

theorem fits_any : fits (.any :: ts) cs = true ↔ ∃ l r, l ++ r = cs ∧ fits ts r = true := by
  rw [fits,List.any_eq_true]
  constructor
  · rintro ⟨r,hr,hfits⟩
    obtain ⟨l,hsplit⟩ := (List.mem_tails r cs).mp hr
    exact ⟨l,r,hsplit,hfits⟩
  · rintro ⟨l,r,hsplit,hfits⟩
    exact ⟨r,(List.mem_tails r cs).mpr ⟨l,hsplit⟩,hfits⟩

theorem fits_char : fits (.char c :: ts) cs = true ↔ ∃ ds, cs = c :: ds ∧ fits ts ds = true := by
  cases cs with
  | nil => simp [fits]
  | cons d ds =>
    simp only [fits,Bool.and_eq_true,beq_iff_eq,List.cons.injEq]
    constructor
    · rintro ⟨rfl,hfits⟩
      exact ⟨ds,⟨rfl,rfl⟩,hfits⟩
    · rintro ⟨ds',⟨rfl,rfl⟩,hfits⟩
      exact ⟨rfl,hfits⟩

/-- Where no star is next to the seam, the tokens are those of the two parts. -/
theorem tokens_append (h : c ≠ '*') (l r : List Char) :
    tokens (l ++ c :: r) = tokens l ++ tokens (c :: r) := by
  induction l using tokens.induct with
  | case1 => rfl
  | case2 cs ih =>
    rw [List.cons_append,List.cons_append,tokens,tokens,ih]
    rfl
  | case3 cs hstar ih =>
    cases cs with
    | nil =>
      rw [List.cons_append,List.nil_append,tokens]
      · rfl
      · intro ds heq
        exact h (List.cons.inj heq).1
    | cons d cs =>
      have hd : d ≠ '*' := fun heq => hstar cs (by rw [heq])
      rw [List.cons_append,tokens,ih,tokens]
      · rfl
      · intro ds heq
        exact hd (List.cons.inj heq).1
      · intro ds heq
        exact hd (List.cons.inj heq).1
  | case4 d cs _ hd ih =>
    have hstar : d ≠ '*' := hd
    rw [List.cons_append,tokens_char hstar,tokens_char hstar,ih]
    rfl

theorem fits_append {ts us : List Token} (hl : fits ts l = true) (hr : fits us r = true) :
    fits (ts ++ us) (l ++ r) = true := by
  induction ts generalizing l with
  | nil =>
    obtain rfl := List.isEmpty_iff.mp hl
    exact hr
  | cons t ts ih =>
    cases t with
    | char c =>
      obtain ⟨ds,rfl,hds⟩ := fits_char.mp hl
      exact fits_char.mpr ⟨ds ++ r,rfl,ih hds⟩
    | segment =>
      obtain ⟨a,b,rfl,hslash,hb⟩ := fits_segment.mp hl
      exact fits_segment.mpr ⟨a,b ++ r,(List.append_assoc a b r).symm,hslash,ih hb⟩
    | any =>
      obtain ⟨a,b,rfl,hb⟩ := fits_any.mp hl
      exact fits_any.mpr ⟨a,b ++ r,(List.append_assoc a b r).symm,ih hb⟩

theorem fits_self (cs : List Char) : fits (tokens cs) cs = true := by
  induction cs using tokens.induct with
  | case1 => rfl
  | case2 cs ih => exact fits_any.mpr ⟨['*','*'],cs,rfl,ih⟩
  | case3 cs hstar ih =>
    rw [tokens]
    · exact fits_segment.mpr ⟨['*'],cs,rfl,by decide,ih⟩
    · exact hstar
  | case4 c cs _ hc ih =>
    rw [tokens_char hc]
    exact fits_char.mpr ⟨cs,rfl,ih⟩

/-- A glob fits the text without its stars. -/
theorem fits_unstarred (cs : List Char) : fits (tokens cs) (cs.filter (· ≠ '*')) = true := by
  induction cs using tokens.induct with
  | case1 => rfl
  | case2 cs ih => exact fits_any.mpr ⟨[],_,rfl,by simpa using ih⟩
  | case3 cs hstar ih =>
    rw [tokens]
    · exact fits_segment.mpr ⟨[],_,rfl,by simp,by simpa using ih⟩
    · exact hstar
  | case4 c cs _ hc ih =>
    rw [tokens_char hc]
    exact fits_char.mpr ⟨_,List.filter_cons_of_pos (by simpa using hc),ih⟩

theorem tokens_plain_append (h : '*' ∉ l) (r : List Char) : tokens (l ++ r) = tokens l ++ tokens r := by
  induction l with
  | nil => rfl
  | cons c l ih =>
    have hc : c ≠ '*' := fun heq => h (heq ▸ List.mem_cons_self)
    rw [List.cons_append,tokens_char hc,tokens_char hc,ih fun hin => h (List.mem_cons_of_mem c hin)]
    rfl

/-- Without stars a glob is the text. -/
theorem fits_plain (h : '*' ∉ l) (ts : List Token) : fits (tokens l ++ ts) cs = true ↔
    ∃ r, cs = l ++ r ∧ fits ts r = true := by
  induction l generalizing cs with
  | nil => simp [tokens]
  | cons c l ih =>
    have hc : c ≠ '*' := fun heq => h (heq ▸ List.mem_cons_self)
    rw [tokens_char hc,List.cons_append,fits_char]
    constructor
    · rintro ⟨ds,rfl,hds⟩
      obtain ⟨r,rfl,hr⟩ := (ih fun hin => h (List.mem_cons_of_mem c hin)).mp hds
      exact ⟨r,rfl,hr⟩
    · rintro ⟨r,rfl,hr⟩
      exact ⟨l ++ r,rfl,(ih fun hin => h (List.mem_cons_of_mem c hin)).mpr ⟨r,rfl,hr⟩⟩

theorem fits_literal (h : '*' ∉ l) : fits (tokens l) cs = true ↔ cs = l := by
  have hplain : fits (tokens l ++ []) cs = true ↔ _ := fits_plain h []
  rw [List.append_nil] at hplain
  rw [hplain]
  constructor
  · rintro ⟨r,rfl,hr⟩
    rw [List.isEmpty_iff.mp hr,List.append_nil]
  · rintro rfl
    exact ⟨[],(List.append_nil _).symm,rfl⟩

/-- A star takes any run of one other character. -/
theorem fits_run (hc : c ≠ '/') (n : Nat) (cs : List Char) :
    fits (tokens ('*' :: cs)) (List.replicate n c ++ cs.filter (· ≠ '*')) = true := by
  rcases tokens_star cs with ⟨ds,rfl,heq⟩ | heq
  · rw [heq]
    exact fits_any.mpr ⟨List.replicate n c,_,rfl,by simpa using fits_unstarred ds⟩
  · rw [heq]
    refine fits_segment.mpr ⟨List.replicate n c,_,rfl,fun hin => ?_,fits_unstarred cs⟩
    exact hc (List.eq_of_mem_replicate hin).symm

end Tokens

/-- What may stand below a directory: anything, or the name of one entry. -/
def Below (nested : Bool) (rest : List Char) : Prop := nested = true ∨ '/' ∉ rest

/-- Paths that are replaced by the directory they are in, with two stars or one for the rest. -/
structure Generaliser where
  dir : List Char → Option (List Char × Bool)
  nested : Bool
  parts : ∀ p d, dir p = some d → ∃ rest, p = d.1 ++ '/' :: rest ∧ Below nested rest
  two : ∀ p d, dir p = some d → d.2 = true → nested = true
  stable : ∀ p d rest, dir p = some d → (nested = true ∨ rest ≠ [] ∧ '/' ∉ rest) →
    dir (d.1 ++ '/' :: rest) = some d

namespace Generaliser

def glob (g : Generaliser) (p : List Char) : List Char :=
  match g.dir p with
  | some (d,true) => d ++ ['/','*','*']
  | some (d,false) => d ++ ['/','*']
  | none => p

/-- The part of the path that is in the glob. -/
def kept (g : Generaliser) (p : List Char) : List Char :=
  match g.dir p with
  | some (d,_) => d
  | none => p

/-- What the path stands for once it is replaced. -/
def Area (g : Generaliser) (p q : List Char) : Prop :=
  match g.dir p with
  | some (d,_) => ∃ rest, q = d ++ '/' :: rest ∧ Below g.nested rest
  | none => q = p

/-- A path below the entries of its directory, of which only those are allowed. -/
def TooDeep (g : Generaliser) (p : List Char) : Prop :=
  ∃ d rest, g.dir p = some (d,false) ∧ p = d ++ '/' :: rest ∧ '/' ∈ rest

variable {g : Generaliser} {p p' q : List Char}

theorem glob_two {d : List Char} (hd : g.dir p = some (d,true)) : g.glob p = d ++ ['/','*','*'] := by
  rw [glob,hd]

theorem glob_one {d : List Char} (hd : g.dir p = some (d,false)) : g.glob p = d ++ ['/','*'] := by
  rw [glob,hd]

theorem glob_none (hd : g.dir p = none) : g.glob p = p := by rw [glob,hd]

theorem tokens_two (d : List Char) : tokens (d ++ ['/','*','*']) = tokens d ++ [.char '/',.any] :=
  tokens_append (by decide) d ['*','*']

theorem tokens_one (d : List Char) : tokens (d ++ ['/','*']) = tokens d ++ [.char '/',.segment] :=
  tokens_append (by decide) d ['*']

theorem fits_below (rest : List Char) : fits [.char '/',.any] ('/' :: rest) = true :=
  fits_char.mpr ⟨rest,rfl,fits_any.mpr ⟨rest,[],List.append_nil rest,rfl⟩⟩

theorem fits_entry {rest : List Char} (h : '/' ∉ rest) :
    fits [.char '/',.segment] ('/' :: rest) = true :=
  fits_char.mpr ⟨rest,rfl,fits_segment.mpr ⟨rest,[],List.append_nil rest,h,rfl⟩⟩

theorem glob_eq (g : Generaliser) (p : List Char) :
    g.glob p = ((g.dir p).map fun found => found.1 ++ if found.2 then ['/','*','*'] else ['/','*']).getD
      p := by
  rw [glob]
  rcases g.dir p with _ | ⟨d,_ | _⟩ <;> rfl

theorem mem_glob {c : Char} (h : c ∈ g.glob p) : c ∈ p ∨ c = '/' ∨ c = '*' := by
  cases hd : g.dir p with
  | none =>
    rw [glob_none hd] at h
    exact .inl h
  | some found =>
    obtain ⟨rest,hp,_⟩ := g.parts p found hd
    obtain ⟨d,two⟩ := found
    cases two with
    | true =>
      rw [glob_two hd] at h
      rcases List.mem_append.mp h with h | h
      · exact .inl (hp ▸ List.mem_append_left _ h)
      · exact .inr (by simpa using h)
    | false =>
      rw [glob_one hd] at h
      rcases List.mem_append.mp h with h | h
      · exact .inl (hp ▸ List.mem_append_left _ h)
      · exact .inr (by simpa using h)

theorem glob_ne_nil (h : p ≠ []) : g.glob p ≠ [] := by
  rw [glob]
  split
  · simp
  · simp
  · exact h

theorem head_glob : (g.glob p).head? = some '/' ↔ p.head? = some '/' := by
  cases hd : g.dir p with
  | none => rw [glob_none hd]
  | some found =>
    obtain ⟨rest,hp,_⟩ := g.parts p found hd
    obtain ⟨d,two⟩ := found
    have hglob : ∃ tail, g.glob p = d ++ '/' :: tail := by
      cases two with
      | true => exact ⟨['*','*'],glob_two hd⟩
      | false => exact ⟨['*'],glob_one hd⟩
    obtain ⟨tail,htail⟩ := hglob
    rw [htail,hp]
    cases d with
    | nil => simp
    | cons c d => simp

/-- A path fits its own glob unless it is too deep. -/
theorem fits_own (h : ¬g.TooDeep p) : fits (tokens (g.glob p)) p = true := by
  cases hd : g.dir p with
  | none =>
    rw [glob_none hd]
    exact fits_self p
  | some found =>
    obtain ⟨d,two⟩ := found
    obtain ⟨rest,hp,_⟩ := g.parts p _ hd
    cases two with
    | true =>
      rw [glob_two hd,tokens_two,hp]
      exact fits_append (fits_self d) (fits_below rest)
    | false =>
      rw [glob_one hd,tokens_one,hp]
      refine fits_append (fits_self d) (fits_entry fun hslash => ?_)
      exact h ⟨d,rest,hd,hp,hslash⟩

theorem kept_some {d : List Char} {two : Bool} (hd : g.dir p = some (d,two)) : g.kept p = d := by
  rw [kept,hd]

theorem kept_none (hd : g.dir p = none) : g.kept p = p := by rw [kept,hd]

/-- Without stars in what is kept, the glob fits what the path stands for, and one star only the
entries. -/
theorem fits_unstarred_glob (hstar : '*' ∉ g.kept p) (h : fits (tokens (g.glob p)) q = true) :
    g.Area p q ∧ ∀ d, g.dir p = some (d,false) → ∃ rest, q = d ++ '/' :: rest ∧ '/' ∉ rest := by
  rw [Area]
  cases hd : g.dir p with
  | none =>
    rw [kept_none hd] at hstar
    rw [glob_none hd,fits_literal hstar] at h
    exact ⟨h,fun d heq => (by cases heq)⟩
  | some found =>
    obtain ⟨d,two⟩ := found
    rw [kept_some hd] at hstar
    cases two with
    | true =>
      rw [glob_two hd,tokens_two,fits_plain hstar] at h
      obtain ⟨r,rfl,hr⟩ := h
      obtain ⟨rest,rfl,_⟩ := fits_char.mp hr
      exact ⟨⟨rest,rfl,.inl (g.two p _ hd rfl)⟩,fun d' heq => (by cases heq)⟩
    | false =>
      rw [glob_one hd,tokens_one,fits_plain hstar] at h
      obtain ⟨r,rfl,hr⟩ := h
      obtain ⟨rest,rfl,hrest⟩ := fits_char.mp hr
      obtain ⟨l,tail,rfl,hslash,htail⟩ := fits_segment.mp hrest
      obtain rfl := List.isEmpty_iff.mp htail
      rw [List.append_nil]
      refine ⟨⟨l,rfl,.inr hslash⟩,fun d' heq => ?_⟩
      obtain ⟨rfl,_⟩ := Prod.mk.inj (Option.some.inj heq)
      exact ⟨l,rfl,hslash⟩

theorem fits_area (hstar : '*' ∉ g.kept p) (h : fits (tokens (g.glob p)) q = true) : g.Area p q :=
  (fits_unstarred_glob hstar h).1

/-- No glob without stars of its own fits a path that is too deep. -/
theorem not_fits_tooDeep (hdeep : g.TooDeep p) (hstar : '*' ∉ g.kept p') :
    ¬fits (tokens (g.glob p')) p = true := by
  intro hfits
  obtain ⟨d,rest,hd,hp,hslash⟩ := hdeep
  have hnested : g.nested = true := by
    obtain ⟨rest',hp',hbelow⟩ := g.parts p _ hd
    obtain rfl : rest = rest' := by
      rw [hp] at hp'
      exact (List.cons.inj (List.append_cancel_left hp')).2
    exact hbelow.resolve_right fun hno => hno hslash
  obtain ⟨harea,hone⟩ := fits_unstarred_glob hstar hfits
  rw [Area] at harea
  cases hd' : g.dir p' with
  | none =>
    rw [hd'] at harea
    rw [harea,hd'] at hd
    cases hd
  | some found =>
    obtain ⟨d',two⟩ := found
    rw [hd'] at harea
    obtain ⟨rest',hp',_⟩ := harea
    have hsame := g.stable p' _ rest' hd' (.inl hnested)
    rw [← hp',hd] at hsame
    obtain ⟨rfl,rfl⟩ := Prod.mk.inj (Option.some.inj hsame)
    obtain ⟨rest'',hp'',hno⟩ := hone d hd'
    rw [hp] at hp''
    obtain rfl : rest = rest'' := (List.cons.inj (List.append_cancel_left hp'')).2
    exact hno hslash

theorem glob_kept (g : Generaliser) (p : List Char) : ∃ tail, g.glob p = g.kept p ++ tail ∧
    (g.dir p = none ∨ '/' ∈ tail) := by
  cases hd : g.dir p with
  | none => exact ⟨[],by rw [glob_none hd,kept_none hd,List.append_nil],.inl rfl⟩
  | some found =>
    obtain ⟨d,two⟩ := found
    cases two with
    | true => exact ⟨['/','*','*'],by rw [glob_two hd,kept_some hd],.inr (by simp)⟩
    | false => exact ⟨['/','*'],by rw [glob_one hd,kept_some hd],.inr (by simp)⟩

theorem parts_length {d : List Char × Bool} (hd : g.dir p = some d) : d.1.length < p.length := by
  obtain ⟨rest,hp,_⟩ := g.parts p d hd
  rw [hp]
  simp

/-- A directory that a long run of another character is below ends before the run. -/
theorem before_run {d l rest tail : List Char} {n : Nat} (hlong : d.length < n)
    (h : l ++ (List.replicate n 'x' ++ tail) = d ++ '/' :: rest) :
    ∃ mid, l = d ++ '/' :: mid ∧ rest = mid ++ (List.replicate n 'x' ++ tail) := by
  rcases List.append_eq_append_iff.mp h with ⟨mid,hd,hrun⟩ | ⟨mid,hl,hrest⟩
  · -- the slash would be a character of the run
    have hlen : mid.length < n := by
      have := congrArg List.length hd
      rw [List.length_append] at this
      omega
    have hat := congrArg (fun cs => cs[mid.length]?) hrun
    rw [List.getElem?_append_left (by simpa using hlen)] at hat
    simp [hlen] at hat
  · cases mid with
    | nil =>
      cases n with
      | zero => omega
      | succ n =>
        rw [List.replicate_succ,List.nil_append,List.cons_append] at hrest
        exact absurd (List.cons.inj hrest).1 (by decide)
    | cons c mid =>
      obtain ⟨rfl,htail⟩ := List.cons.inj hrest
      exact ⟨mid,hl,htail⟩

theorem exists_longer (ps : List (List Char)) : ∃ n, ∀ p ∈ ps, p.length < n := by
  induction ps with
  | nil => exact ⟨0,by simp⟩
  | cons p ps ih =>
    obtain ⟨n,hn⟩ := ih
    refine ⟨n + p.length + 1,fun q hq => ?_⟩
    rcases List.mem_cons.mp hq with rfl | hq
    · omega
    · have := hn q hq
      omega

/-- With a star in what is kept, the glob fits a path that none of a set of paths stands for. -/
theorem escapes (hstar : '*' ∈ g.kept p) (ps : List (List Char)) :
    ∃ q, fits (tokens (g.glob p)) q = true ∧ ∀ p' ∈ ps, ¬g.Area p' q := by
  obtain ⟨n,hn⟩ := exists_longer ps
  obtain ⟨l,r,hkept,hl⟩ := List.eq_append_cons_of_mem hstar
  obtain ⟨tail,hglob,htail⟩ := glob_kept g p
  refine ⟨l ++ (List.replicate n 'x' ++ (r ++ tail).filter (· ≠ '*')),?_,fun p' hp' harea => ?_⟩
  · rw [hglob,hkept,List.append_assoc,List.cons_append,tokens_plain_append hl]
    exact fits_append (fits_self l) (fits_run (by decide) n (r ++ tail))
  rw [Area] at harea
  cases hd' : g.dir p' with
  | none =>
    rw [hd'] at harea
    have hlen := congrArg List.length harea
    have hlong := hn p' hp'
    simp only [List.length_append,List.length_replicate] at hlen
    omega
  | some found =>
    rw [hd'] at harea
    obtain ⟨rest,hq,hbelow⟩ := harea
    obtain ⟨mid,hmid,rfl⟩ := before_run ((parts_length hd').trans (hn p' hp')) hq
    -- the same directory would have been found for the path itself
    cases hd : g.dir p with
    | none =>
      have hp : p = found.1 ++ '/' :: (mid ++ '*' :: r) := by
        rw [← kept_none hd,hkept,hmid]
        simp
      have hentry : g.nested = true ∨ mid ++ '*' :: r ≠ [] ∧ '/' ∉ mid ++ '*' :: r := by
        refine hbelow.imp_right fun hno => ⟨by simp,fun hslash => hno ?_⟩
        have hmem : '/' ∈ mid ∨ '/' ∈ r := by simpa using hslash
        rcases hmem with hmem | hmem
        · exact List.mem_append_left _ hmem
        · refine List.mem_append_right _ (List.mem_append_right _ (List.mem_filter.mpr ⟨?_,by simp⟩))
          exact List.mem_append_left _ hmem
      have hfound := g.stable p' found (mid ++ '*' :: r) hd' hentry
      rw [← hp,hd] at hfound
      cases hfound
    | some own =>
      obtain ⟨below,hp,_⟩ := g.parts p own hd
      have hown : own.1 = found.1 ++ '/' :: (mid ++ '*' :: r) := by
        have hsame : g.kept p = own.1 := kept_some hd
        rw [← hsame,hkept,hmid]
        simp
      have hnested : g.nested = true := by
        refine hbelow.resolve_right fun hno => hno ?_
        have hslash : '/' ∈ tail := htail.resolve_left fun hnone => by
          rw [hd] at hnone
          cases hnone
        refine List.mem_append_right _ (List.mem_append_right _ (List.mem_filter.mpr ⟨?_,by simp⟩))
        exact List.mem_append_right _ hslash
      have hfound := g.stable p' found (mid ++ '*' :: r ++ '/' :: below) hd' (.inl hnested)
      have hpath : p = found.1 ++ '/' :: (mid ++ '*' :: r ++ '/' :: below) := by
        rw [hp,hown]
        simp
      rw [← hpath,hd] at hfound
      obtain rfl := Option.some.inj hfound
      have hlen := congrArg List.length hown
      simp only [List.length_append,List.length_cons] at hlen
      omega

end Generaliser

section Rules

/-- The directories a number of segments below a root, with two stars or one for the rest. -/
structure DirRule where
  root : List Char
  depth : Nat
  two : Bool

/-- Segments of a path, each after its slash, and what is after the next slash. -/
def segments : Nat → List Char → Option (List Char × List Char)
  | 0,'/' :: rest => some ([],rest)
  | n + 1,'/' :: cs =>
    let segment := cs.takeWhile (· ≠ '/')
    if segment = [] then none
    else (segments n (cs.dropWhile (· ≠ '/'))).map fun found => ('/' :: (segment ++ found.1),found.2)
  | _,_ => none

/-- The directory of the rule that the path is in, and the rest of the path. -/
def DirRule.split (rule : DirRule) (p : List Char) : Option (List Char × List Char) :=
  (p.dropPrefix? rule.root).bind fun below =>
    (segments rule.depth below).map fun found => (rule.root ++ found.1,found.2)

/-- The first rule with a directory for the path; when only entries are meant, the rest of the
path is the name of one. -/
def dirOf (entries : Bool) (rules : List DirRule) (p : List Char) : Option (List Char × Bool) :=
  rules.findSome? fun rule => (rule.split p).bind fun found =>
    if entries && (found.2 = [] || '/' ∈ found.2) then none else some (found.1,rule.two)

variable {rule rule' : DirRule} {rules : List DirRule} {entries : Bool} {n : Nat}
  {p d rest cs : List Char} {found : List Char × List Char}

theorem segments_head (h : segments n cs = some found) : ∃ below, cs = '/' :: below := by
  cases cs with
  | nil => cases n <;> cases h
  | cons c below =>
    by_cases hc : c = '/'
    · exact ⟨below,by rw [hc]⟩
    · rw [segments] at h
      · cases h
      · rintro rest _ heq
        exact hc (List.cons.inj heq).1
      · rintro m rest _ heq
        exact hc (List.cons.inj heq).1

theorem takeWhile_segment {segment : List Char} (h : '/' ∉ segment) (below : List Char) :
    (segment ++ '/' :: below).takeWhile (· ≠ '/') = segment ∧
      (segment ++ '/' :: below).dropWhile (· ≠ '/') = '/' :: below := by
  have hall : ∀ c ∈ segment, decide (c ≠ '/') = true := by
    intro c hc
    simp only [decide_eq_true_eq]
    rintro rfl
    exact h hc
  rw [List.takeWhile_append_of_pos hall,List.dropWhile_append_of_pos hall]
  simp

theorem segments_succ {segment below : List Char} (hne : segment ≠ []) (hslash : '/' ∉ segment) :
    segments (n + 1) ('/' :: (segment ++ '/' :: below)) = (segments n ('/' :: below)).map fun found =>
      ('/' :: (segment ++ found.1),found.2) := by
  obtain ⟨htake,hdrop⟩ := takeWhile_segment hslash below
  rw [segments,htake,hdrop,if_neg hne]

theorem segments_zero : segments 0 cs = some found ↔ found.1 = [] ∧ cs = '/' :: found.2 := by
  constructor
  · intro h
    obtain ⟨below,rfl⟩ := segments_head h
    obtain rfl := Option.some.inj h
    exact ⟨rfl,rfl⟩
  · rintro ⟨hd,rfl⟩
    obtain ⟨d,rest⟩ := found
    obtain rfl : d = [] := hd
    rfl

theorem segments_succ_iff : segments (n + 1) cs = some found ↔ ∃ segment below f, segment ≠ [] ∧
    '/' ∉ segment ∧ cs = '/' :: (segment ++ '/' :: below) ∧ segments n ('/' :: below) = some f ∧
    found = ('/' :: (segment ++ f.1),f.2) := by
  constructor
  · intro h
    obtain ⟨rest,rfl⟩ := segments_head h
    rw [segments] at h
    split at h
    · cases h
    · next hne =>
      obtain ⟨f,hf,rfl⟩ := Option.map_eq_some_iff.mp h
      obtain ⟨below,hbelow⟩ := segments_head hf
      rw [hbelow] at hf
      refine ⟨_,below,f,hne,fun hin => ?_,?_,hf,rfl⟩
      · have hall := List.all_eq_true.mp (List.all_takeWhile (l := rest)) _ hin
        simp at hall
      · rw [← hbelow,List.takeWhile_append_dropWhile]
  · rintro ⟨segment,below,f,hne,hslash,rfl,hf,rfl⟩
    rw [segments_succ hne hslash,hf]
    rfl

/-- What is split off, and that it is split off whatever comes after it. -/
theorem segments_some (h : segments n cs = some found) : cs = found.1 ++ '/' :: found.2 ∧
    ∀ rest, segments n (found.1 ++ '/' :: rest) = some (found.1,rest) := by
  induction n generalizing cs found with
  | zero =>
    obtain ⟨d,rest⟩ := found
    obtain ⟨hd,rfl⟩ := segments_zero.mp h
    obtain rfl : d = [] := hd
    exact ⟨rfl,fun _ => rfl⟩
  | succ n ih =>
    obtain ⟨segment,below,f,hne,hslash,rfl,hf,rfl⟩ := segments_succ_iff.mp h
    obtain ⟨hsplit,hrest⟩ := ih hf
    constructor
    · rw [hsplit]
      simp
    · intro rest
      obtain ⟨next,hnext⟩ := segments_head (hrest rest)
      refine segments_succ_iff.mpr ⟨segment,next,(f.1,rest),hne,hslash,?_,hnext ▸ hrest rest,rfl⟩
      rw [← hnext]
      simp

theorem split_some (h : rule.split p = some found) : p = found.1 ++ '/' :: found.2 ∧
    rule.root ++ ['/'] <+: p ∧ ∀ rest, rule.split (found.1 ++ '/' :: rest) = some (found.1,rest) := by
  obtain ⟨below,hbelow,hfound⟩ := Option.bind_eq_some_iff.mp h
  obtain ⟨pre,rfl,hpre⟩ := List.dropPrefix?_eq_some_iff.mp hbelow
  obtain rfl := beq_iff_eq.mp hpre
  obtain ⟨f,hf,rfl⟩ := Option.map_eq_some_iff.mp hfound
  obtain ⟨hsplit,hrest⟩ := segments_some hf
  refine ⟨by rw [List.append_assoc,← hsplit],?_,fun rest => ?_⟩
  · obtain ⟨after,rfl⟩ := segments_head hf
    exact ⟨after,by simp⟩
  · rw [DirRule.split,List.append_assoc,List.dropPrefix?_append_of_beq _ (by simp)]
    simp [hrest]

/-- No path is below the roots of both rules. -/
def Apart (rule rule' : DirRule) : Prop :=
  ¬rule.root ++ ['/'] <+: rule'.root ++ ['/'] ∧ ¬rule'.root ++ ['/'] <+: rule.root ++ ['/']

instance (rule rule' : DirRule) : Decidable (Apart rule rule') :=
  inferInstanceAs (Decidable (_ ∧ _))

theorem apart_split (h : Apart rule rule') (hroot : rule.root ++ ['/'] <+: p) : rule'.split p = none := by
  by_contra hsome
  obtain ⟨found,hfound⟩ := Option.ne_none_iff_exists'.mp hsome
  obtain ⟨_,hroot',_⟩ := split_some hfound
  rcases List.prefix_or_prefix_of_prefix hroot hroot' with hpre | hpre
  · exact h.1 hpre
  · exact h.2 hpre

def Allowed (entries : Bool) (rest : List Char) : Prop :=
  entries = true → rest ≠ [] ∧ '/' ∉ rest

theorem dirOf_some {found : List Char × Bool} (h : dirOf entries rules p = some found) :
    ∃ rule ∈ rules, ∃ rest, rule.split p = some (found.1,rest) ∧ found.2 = rule.two ∧
      Allowed entries rest := by
  obtain ⟨rule,hrule,hfound⟩ := List.exists_of_findSome?_eq_some h
  obtain ⟨f,hf,hallowed⟩ := Option.bind_eq_some_iff.mp hfound
  split at hallowed
  · cases hallowed
  · next hno =>
    obtain rfl := Option.some.inj hallowed
    refine ⟨rule,hrule,f.2,hf,rfl,fun hentries => ?_⟩
    simpa [hentries] using hno

theorem dirOf_of_split (hrules : rules.Pairwise Apart) (hrule : rule ∈ rules)
    (hsplit : rule.split p = some (d,rest)) (hallowed : Allowed entries rest) :
    dirOf entries rules p = some (d,rule.two) := by
  induction rules with
  | nil => cases hrule
  | cons first rules ih =>
    obtain ⟨hfirst,hrules⟩ := List.pairwise_cons.mp hrules
    rw [dirOf,List.findSome?_cons]
    rcases List.mem_cons.mp hrule with rfl | hrule
    · have hno : ¬(entries && (rest = [] || '/' ∈ rest)) = true := by
        intro hbad
        simp only [Bool.and_eq_true,Bool.or_eq_true,decide_eq_true_eq] at hbad
        obtain ⟨hne,hslash⟩ := hallowed hbad.1
        rcases hbad.2 with hempty | hin
        · exact hne hempty
        · exact hslash hin
      rw [hsplit,Option.bind_some,if_neg hno]
    · have hnone := apart_split ⟨(hfirst rule hrule).2,(hfirst rule hrule).1⟩ (split_some hsplit).2.1
      rw [hnone]
      exact ih hrules hrule

def stars (two : Bool) : List Char := if two then ['/','*','*'] else ['/','*']

theorem dirOf_map (rules : List DirRule) (p : List Char) :
    (rules.findSome? fun rule => (rule.split p).map fun found => found.1 ++ stars rule.two) =
      (dirOf false rules p).map fun found => found.1 ++ stars found.2 := by
  induction rules with
  | nil => rfl
  | cons rule rules ih =>
    rw [dirOf,List.findSome?_cons,List.findSome?_cons]
    cases rule.split p with
    | some found => rfl
    | none => exact ih

/-- Rules with roots apart from each other. -/
def generaliser (entries : Bool) (rules : List DirRule) (hrules : rules.Pairwise Apart)
    (htwo : ∀ rule ∈ rules, rule.two = true → entries = false) : Generaliser where
  dir := dirOf entries rules
  nested := !entries
  parts p found h := by
    obtain ⟨rule,_,rest,hsplit,_,hallowed⟩ := dirOf_some h
    refine ⟨rest,(split_some hsplit).1,?_⟩
    cases entries with
    | false => exact .inl rfl
    | true => exact .inr (hallowed rfl).2
  two p found h hfound := by
    obtain ⟨rule,hrule,rest,_,htwoOf,_⟩ := dirOf_some h
    rw [htwo rule hrule (htwoOf ▸ hfound)]
    rfl
  stable p found rest h hrest := by
    obtain ⟨rule,hrule,_,hsplit,htwoOf,_⟩ := dirOf_some h
    have hagain := (split_some hsplit).2.2 rest
    have hallowed : Allowed entries rest := by
      intro hentries
      refine hrest.resolve_left ?_
      simp [hentries]
    have hfound := dirOf_of_split hrules hrule hagain hallowed
    rw [← htwoOf] at hfound
    exact hfound

end Rules

end Globs
