import Nexplane.AppArmorProfiles

set_option autoImplicit false

/-! The lines of the audit log that SELinux writes for a denial, and what is read in them. -/

namespace Nexplane
open PyValue Patterns Text Words

namespace Selinux

/-- `\w`, of which other than ASCII characters are in the tables of the language. -/
structure WordChars (word : Char → Bool) : Prop where
  ascii : ∀ c, c.toNat < 128 → word c = (c.isAlphanum || c = '_')
  space : ∀ c, isSpace c = true → word c = false

def nonSpace (c : Char) : Bool := !isSpace c

def notBrace (c : Char) : Bool := c ≠ '\x7d'

/-- `\S+:\S+:(\w+):\S*\s+`. -/
def contextPattern (word : Char → Bool) (g : Nat) : Pattern :=
  [(0,.many 1 true nonSpace),(0,.text [':']),(0,.many 1 true nonSpace),(0,.text [':']),
    (g,.many 1 true word),(0,.text [':']),(0,.many 0 true nonSpace),(0,.many 1 true isSpace)]

def avcRe (word : Char → Bool) : Pattern :=
  [(0,.text "avc:".toList),(0,.many 1 true isSpace),(0,.text "denied".toList),
      (0,.many 1 true isSpace),(0,.text ['\x7b']),(1,.many 1 true notBrace),(0,.text ['\x7d']),
      (0,.many 0 false notLineFeed),(0,.text "scontext=".toList)] ++
    contextPattern word 2 ++ (0,.text "tcontext=".toList) ::
    (contextPattern word 3 ++ [(0,.text "tclass=".toList),(4,.many 1 true word)])

/-- The types and the class that a rule is for. -/
structure RuleKey where
  stype : String
  ttype : String
  tclass : String
  deriving DecidableEq, Repr

structure Parsed where
  key : RuleKey
  perms : List String
  deriving DecidableEq, Repr

def pyWords (cs : List Char) : List String := (words isSpace cs).map String.ofList

def parseAvcLine (word : Char → Bool) (line : String) : Option Parsed :=
  (search (avcRe word) line.toList).map fun m =>
    ⟨⟨String.ofList (group 2 m),String.ofList (group 3 m),String.ofList (group 4 m)⟩,
      sortedSet (pyWords (group 1 m))⟩

section Contexts

variable {word : Char → Bool} {g : Nat} {R : Pattern} {cs x y z u gap next : List Char} {m m' : Match}

/-- A way to match a context, the blanks after it and what follows. -/
structure ContextMatch (word : Char → Bool) (R : Pattern) (cs x y z u gap next : List Char) : Prop where
  split : cs = x ++ ':' :: (y ++ ':' :: (z ++ ':' :: (u ++ (gap ++ next))))
  first : x ≠ [] ∧ ∀ c ∈ x, nonSpace c = true
  second : y ≠ [] ∧ ∀ c ∈ y, nonSpace c = true
  third : z ≠ [] ∧ ∀ c ∈ z, word c = true
  last : ∀ c ∈ u, nonSpace c = true
  blanks : gap ≠ [] ∧ ∀ c ∈ gap, isSpace c = true
  rest : (matchAt R next).isSome

theorem takes_cons {p : Char → Bool} {least : Nat} {before after : List Char}
    (h : before ≠ [] ∧ ∀ c ∈ before, p c = true) (hleast : least ≤ 1) (hrest : (matchAt R after).isSome) :
    Takes least p R (before ++ after) before after :=
  ⟨rfl,h.2,hleast.trans (List.length_pos_iff.mpr h.1),hrest⟩

theorem isSome_text (g : Nat) (t after : List Char) (h : (matchAt R after).isSome) :
    (matchAt ((g,.text t) :: R) (t ++ after)).isSome := by
  rw [matchAt_text]
  simpa using h

theorem ContextMatch.takes (h : ContextMatch word R cs x y z u gap next) (g : Nat) :
    Takes 1 nonSpace ((contextPattern word g ++ R).tail) cs x
      (':' :: (y ++ ':' :: (z ++ ':' :: (u ++ (gap ++ next))))) := by
  have hblanks := matchAt_many_isSome 0 true (takes_cons h.blanks le_rfl h.rest)
  have hlast := matchAt_many_isSome 0 true
    (⟨rfl,h.last,Nat.zero_le _,hblanks⟩ : Takes 0 nonSpace _ (u ++ (gap ++ next)) u (gap ++ next))
  have hthird := matchAt_many_isSome g true (takes_cons h.third le_rfl (isSome_text 0 [':'] _ hlast))
  have hsecond := matchAt_many_isSome 0 true
    (takes_cons h.second le_rfl (isSome_text 0 [':'] _ hthird))
  rw [h.split]
  exact takes_cons h.first le_rfl (isSome_text 0 [':'] _ hsecond)

theorem matchAt_context (hm : matchAt (contextPattern word g ++ R) cs = some m) :
    ∃ x y z u gap next m', ContextMatch word R cs x y z u gap next ∧ matchAt R next = some m' ∧
      m = taken 0 x (taken 0 [':'] (taken 0 y (taken 0 [':'] (taken g z (taken 0 [':']
        (taken 0 u (taken 0 gap m'))))))) ∧
      ∀ {x' y' z' u' gap' next'}, ContextMatch word R cs x' y' z' u' gap' next' →
        x'.length ≤ x.length := by
  obtain ⟨x,a₁,m₁,h₁,hm₁,rfl,hlongest⟩ := matchAt_many_some hm
  obtain ⟨a₂,m₂,rfl,hm₂,rfl⟩ := matchAt_text_some hm₁
  obtain ⟨y,a₃,m₃,h₃,hm₃,rfl,_⟩ := matchAt_many_some hm₂
  obtain ⟨a₄,m₄,rfl,hm₄,rfl⟩ := matchAt_text_some hm₃
  obtain ⟨z,a₅,m₅,h₅,hm₅,rfl,_⟩ := matchAt_many_some hm₄
  obtain ⟨a₆,m₆,rfl,hm₆,rfl⟩ := matchAt_text_some hm₅
  obtain ⟨u,a₇,m₇,h₇,hm₇,rfl,_⟩ := matchAt_many_some hm₆
  obtain ⟨gap,next,m₈,h₈,hm₈,rfl,_⟩ := matchAt_many_some hm₇
  refine ⟨x,y,z,u,gap,next,m₈,?_,hm₈,rfl,fun h => ?_⟩
  · constructor
    · rw [← h₁.split,← h₃.split,← h₅.split,← h₇.split,← h₈.split]
      rfl
    · exact ⟨List.length_pos_iff.mp h₁.long,h₁.all⟩
    · exact ⟨List.length_pos_iff.mp h₃.long,h₃.all⟩
    · exact ⟨List.length_pos_iff.mp h₅.long,h₅.all⟩
    · exact h₇.all
    · exact ⟨List.length_pos_iff.mp h₈.long,h₈.all⟩
    · exact Option.isSome_iff_exists.mpr ⟨m₈,hm₈⟩
  · exact hlongest _ _ (h.takes g)

/-- What follows the blanks after a context starts with a character that is none. -/
def StartsWord (R : Pattern) : Prop :=
  ∀ cs, (matchAt R cs).isSome → cs ≠ [] ∧ ∀ c ∈ cs.head?, isSpace c = false

variable {tok : List Char}

theorem nonSpace_iff {c : Char} : nonSpace c = true ↔ isSpace c = false := by simp [nonSpace]

theorem WordChars.nonSpace (hword : WordChars word) {c : Char} (h : word c = true) :
    Selinux.nonSpace c = true := by
  refine nonSpace_iff.mpr (Bool.eq_false_iff.mpr fun hspace => ?_)
  rw [hword.space c hspace] at h
  cases h

theorem ContextMatch.nonSpace (hword : WordChars word) (h : ContextMatch word R cs x y z u gap next) :
    ∀ c ∈ x ++ ':' :: (y ++ ':' :: (z ++ ':' :: u)), nonSpace c = true := by
  have hcolon : Selinux.nonSpace ':' = true := by decide
  intro c hc
  simp only [List.mem_append,List.mem_cons] at hc
  rcases hc with hc | rfl | hc | rfl | hc | rfl | hc
  · exact h.first.2 c hc
  · exact hcolon
  · exact h.second.2 c hc
  · exact hcolon
  · exact hword.nonSpace (h.third.2 c hc)
  · exact hcolon
  · exact h.last c hc

/-- The context that is matched is the whole word, and what follows is what is after the blanks. -/
theorem ContextMatch.parts (hword : WordChars word) (hR : StartsWord R)
    (htok : ∀ c ∈ tok, Selinux.nonSpace c = true) (hgap : gap ≠ [] ∧ ∀ c ∈ gap, isSpace c = true)
    (hnext : ∀ c ∈ next.head?, isSpace c = false) {gap' next' : List Char}
    (h : ContextMatch word R (tok ++ (gap ++ next)) x y z u gap' next') :
    tok = x ++ ':' :: (y ++ ':' :: (z ++ ':' :: u)) ∧ gap = gap' ∧ next = next' := by
  have hhead : ∀ {gap next : List Char}, (gap ≠ [] ∧ ∀ c ∈ gap, isSpace c = true) →
      ∀ c ∈ (gap ++ next).head?, Selinux.nonSpace c = false := by
    intro gap next hgap c hc
    cases gap with
    | nil => exact absurd rfl hgap.1
    | cons d gap =>
      obtain rfl : d = c := by simpa using hc
      rw [Selinux.nonSpace,hgap.2 d List.mem_cons_self]
      rfl
  have hsplit : tok ++ (gap ++ next) =
      (x ++ ':' :: (y ++ ':' :: (z ++ ':' :: u))) ++ (gap' ++ next') := by
    rw [h.split]
    simp
  obtain ⟨hsame,hafter⟩ := run_unique htok (h.nonSpace hword) (hhead hgap) (hhead h.blanks) hsplit
  obtain ⟨hgaps,hnexts⟩ := run_unique hgap.2 h.blanks.2 hnext (hR next' h.rest).2 hafter
  exact ⟨hsame,hgaps,hnexts⟩

end Contexts

section Captured

variable {word : Char → Bool} {tok x y z u : List Char}

structure Context where
  user : String
  role : String
  type : String
  level : String
  deriving DecidableEq, Repr

def Context.text (c : Context) : String :=
  c.user ++ ":" ++ c.role ++ ":" ++ c.type ++ ":" ++ c.level

def isWordText (word : Char → Bool) (field : List Char) : Bool := field ≠ [] && field.all word

/-- The fields of the level that are words and have another field after them. -/
def Context.levelWords (word : Char → Bool) (c : Context) : List (List Char) :=
  (c.level.toList.splitOn ':').dropLast.filter (isWordText word)

/-- What is taken for the type. -/
def capturedType (word : Char → Bool) (c : Context) : List Char :=
  (c.levelWords word).getLast?.getD c.type.toList

/-- No other word can be taken for the type. -/
def Context.Plain (word : Char → Bool) (c : Context) : Prop :=
  ∀ w ∈ (c.levelWords word).getLast?, w = c.type.toList

theorem plain_iff {c : Context} : c.Plain word ↔ capturedType word c = c.type.toList := by
  rw [Context.Plain,capturedType]
  cases (c.levelWords word).getLast? with
  | none => simp
  | some w => simp

/-- The fields before the level are not empty, and without blanks and colons. -/
structure Context.WellFormed (word : Char → Bool) (c : Context) : Prop where
  user : IsWord isSpace c.user.toList ∧ ':' ∉ c.user.toList
  role : IsWord isSpace c.role.toList ∧ ':' ∉ c.role.toList
  type : isWordText word c.type.toList = true
  level : ∀ d ∈ c.level.toList, isSpace d = false

/-- Three fields of a context, the third a word, and the rest. -/
structure Fields (word : Char → Bool) (tok x y z u : List Char) : Prop where
  split : tok = x ++ ':' :: (y ++ ':' :: (z ++ ':' :: u))
  first : x ≠ []
  second : y ≠ []
  third : isWordText word z = true

theorem isWordText_iff : isWordText word z = true ↔ z ≠ [] ∧ ∀ c ∈ z, word c = true := by
  simp [isWordText]

theorem word_noColon (hword : WordChars word) (hz : isWordText word z = true) : ':' ∉ z := by
  intro hin
  have hcolon := (isWordText_iff.mp hz).2 _ hin
  rw [hword.ascii ':' (by decide)] at hcolon
  revert hcolon
  decide

theorem intercalate_append {c : Char} {ls ms : List (List Char)} (hls : ls ≠ []) (hms : ms ≠ []) :
    [c].intercalate (ls ++ ms) = [c].intercalate ls ++ c :: [c].intercalate ms := by
  induction ls with
  | nil => exact absurd rfl hls
  | cons l ls ih =>
    cases ls with
    | nil =>
      rw [List.cons_append,List.nil_append,List.intercalate_singleton,
        List.intercalate_cons_of_ne_nil hms]
      simp
    | cons l' ls =>
      rw [List.cons_append,List.cons_append,List.intercalate_cons_cons,← List.cons_append,
        ih (by simp),List.intercalate_cons_cons]
      simp

/-- A word among the later fields, with another after it, would have been taken. -/
theorem Fields.later (h : Fields word tok x y z u) {w : List Char}
    (hw : w ∈ (u.splitOn ':').dropLast) (hword : isWordText word w = true) :
    ∃ y' u', Fields word tok (x ++ ':' :: y) y' w u' := by
  obtain ⟨hne,_⟩ := isWordText_iff.mp h.third
  obtain ⟨ls,ms,hdrop⟩ := List.append_of_mem hw
  have hpieces := List.splitOn_ne_nil ':' u
  let last := (u.splitOn ':').getLast hpieces
  have hfields : u.splitOn ':' = ls ++ w :: (ms ++ [last]) := by
    rw [← List.dropLast_append_getLast hpieces,hdrop]
    simp [last]
  have hu : u = [':'].intercalate (ls ++ w :: (ms ++ [last])) := by
    rw [← hfields,List.intercalate_splitOn]
  have htail : [':'].intercalate (w :: (ms ++ [last])) = w ++ ':' :: [':'].intercalate (ms ++ [last]) := by
    rw [List.intercalate_cons_of_ne_nil (by simp)]
    simp
  cases ls with
  | nil =>
    refine ⟨z,[':'].intercalate (ms ++ [last]),?_,by simp,hne,hword⟩
    rw [h.split,hu,List.nil_append,htail]
    simp
  | cons l ls =>
    refine ⟨z ++ ':' :: [':'].intercalate (l :: ls),[':'].intercalate (ms ++ [last]),?_,by simp,by simp,
      hword⟩
    rw [h.split,hu,intercalate_append (by simp) (by simp),htail]
    simp

theorem Context.text_toList (c : Context) : c.text.toList =
    c.user.toList ++ ':' :: (c.role.toList ++ ':' :: (c.type.toList ++ ':' :: c.level.toList)) := by
  simp [Context.text]

/-- The fields with the longest start are those with the type that is taken. -/
theorem Fields.captured {c : Context} (hword : WordChars word) (hc : c.WellFormed word)
    (h : Fields word c.text.toList x y z u)
    (hlongest : ∀ {x' y' z' u'}, Fields word c.text.toList x' y' z' u' → x'.length ≤ x.length) :
    z = capturedType word c := by
  have hlater : (u.splitOn ':').dropLast.filter (isWordText word) = [] := by
    rw [List.filter_eq_nil_iff]
    intro w hw hisWord
    obtain ⟨y',u',hfields⟩ := h.later hw hisWord
    have hle := hlongest hfields
    rw [List.length_append,List.length_cons] at hle
    omega
  have hstart : (x ++ ':' :: y).splitOn ':' ++ z :: u.splitOn ':' =
      c.user.toList :: c.role.toList :: c.type.toList :: c.level.toList.splitOn ':' := by
    have hz : z.splitOn ':' = [z] := List.splitOn_eq_singleton (word_noColon hword h.third)
    have htype := List.splitOn_eq_singleton (word_noColon hword hc.type)
    have hsplit : (x ++ ':' :: y) ++ ':' :: (z ++ ':' :: u) = c.text.toList := by
      rw [h.split]
      simp
    have hfields := congrArg (List.splitOn ':') hsplit
    rw [c.text_toList] at hfields
    simpa [List.splitOn_append_cons_self,hz,htype,List.splitOn_eq_singleton hc.user.2,
      List.splitOn_eq_singleton hc.role.2] using hfields
  have hlong : 2 ≤ ((x ++ ':' :: y).splitOn ':').length := by
    rw [List.splitOn_append_cons_self,List.length_append]
    have hx := List.length_pos_iff.mpr (List.splitOn_ne_nil ':' x)
    have hy := List.length_pos_iff.mpr (List.splitOn_ne_nil ':' y)
    omega
  generalize (x ++ ':' :: y).splitOn ':' = first at hstart hlong
  obtain ⟨a,b,rest,rfl⟩ : ∃ a b rest, first = a :: b :: rest := by
    match first,hlong with
    | a :: b :: rest,_ => exact ⟨a,b,rest,rfl⟩
  simp only [List.cons_append,List.cons.injEq] at hstart
  obtain ⟨_,_,hrest⟩ := hstart
  rw [capturedType,Context.levelWords]
  cases rest with
  | nil =>
    obtain ⟨rfl,hlevel⟩ := List.cons.inj hrest
    rw [← hlevel,hlater]
    rfl
  | cons type rest =>
    rw [List.cons_append] at hrest
    obtain ⟨_,hlevel⟩ := List.cons.inj hrest
    rw [← hlevel,List.dropLast_append_of_ne_nil (by simp),
      List.dropLast_cons_of_ne_nil (List.splitOn_ne_nil ':' u),List.filter_append,
      List.filter_cons_of_pos h.third,hlater]
    simp

/-- The three fields of the text before its level. -/
theorem Context.WellFormed.fields {c : Context} (hc : c.WellFormed word) :
    Fields word c.text.toList c.user.toList c.role.toList c.type.toList c.level.toList :=
  ⟨c.text_toList,hc.user.1.nonempty,hc.role.1.nonempty,hc.type⟩

theorem Context.WellFormed.nonSpace {c : Context} (hword : WordChars word) (hc : c.WellFormed word) :
    ∀ d ∈ c.text.toList, nonSpace d = true := by
  have hcolon : Selinux.nonSpace ':' = true := by decide
  intro d hd
  simp only [c.text_toList,List.mem_append,List.mem_cons] at hd
  rcases hd with hd | rfl | hd | rfl | hd | rfl | hd
  · exact nonSpace_iff.mpr (hc.user.1.all d hd)
  · exact hcolon
  · exact nonSpace_iff.mpr (hc.role.1.all d hd)
  · exact hcolon
  · exact hword.nonSpace ((isWordText_iff.mp hc.type).2 d hd)
  · exact hcolon
  · exact nonSpace_iff.mpr (hc.level d hd)

/-- The fields of a word without blanks are a match of it with what follows. -/
theorem Fields.contextMatch {R : Pattern} {gap next : List Char} (h : Fields word tok x y z u)
    (htok : ∀ c ∈ tok, nonSpace c = true) (hgap : gap ≠ [] ∧ ∀ c ∈ gap, isSpace c = true)
    (hnext : (matchAt R next).isSome) :
    ContextMatch word R (tok ++ (gap ++ next)) x y z u gap next where
  split := by simp [h.split]
  first := ⟨h.first,fun c hc => htok c (by simp [h.split,hc])⟩
  second := ⟨h.second,fun c hc => htok c (by simp [h.split,hc])⟩
  third := isWordText_iff.mp h.third
  last := fun c hc => htok c (by simp [h.split,hc])
  blanks := hgap
  rest := hnext

/-- The pieces that are taken of a context. -/
def contextTaken (word : Char → Bool) (g : Nat) (c : Context) (x y u gap : List Char) (m : Match) : Match :=
  taken 0 x (taken 0 [':'] (taken 0 y (taken 0 [':'] (taken g (capturedType word c) (taken 0 [':']
    (taken 0 u (taken 0 gap m)))))))

theorem matchAt_wellFormed {c : Context} {R : Pattern} {gap next : List Char} {m : Match} (g : Nat)
    (hword : WordChars word) (hc : c.WellFormed word) (hR : StartsWord R)
    (hgap : gap ≠ [] ∧ ∀ c ∈ gap, isSpace c = true) (hnext : matchAt R next = some m) :
    ∃ x y u, matchAt (contextPattern word g ++ R) (c.text.toList ++ (gap ++ next)) =
      some (contextTaken word g c x y u gap m) := by
  have hsome : (matchAt R next).isSome := by rw [hnext]; rfl
  have htok := hc.nonSpace hword
  obtain ⟨m₁,hm₁⟩ := Option.isSome_iff_exists.mp
    (matchAt_many_isSome 0 true ((hc.fields.contextMatch htok hgap hsome).takes g))
  obtain ⟨x,y,z,u,gap',next',m₂,hmatch,hm₂,hpieces,hlongest⟩ := matchAt_context hm₁
  obtain ⟨hsplit,rfl,rfl⟩ := hmatch.parts hword hR htok hgap (hR next hsome).2
  obtain rfl : m = m₂ := Option.some.inj (hnext.symm.trans hm₂)
  have hfields : Fields word c.text.toList x y z u :=
    ⟨hsplit,hmatch.first.1,hmatch.second.1,isWordText_iff.mpr hmatch.third⟩
  obtain rfl := hfields.captured hword hc fun h => hlongest (h.contextMatch htok hgap hsome)
  refine ⟨x,y,u,?_⟩
  rw [contextTaken,← hpieces]
  exact hm₁

end Captured

section Between

variable {word : Char → Bool} {between rest : List Char} {R : Pattern} {m : Match}

def IsGap (gap : List Char) : Prop := gap ≠ [] ∧ ∀ c ∈ gap, isSpace c = true

/-- The fields before the contexts, none of which is a target context. -/
structure Between (between : List Char) : Prop where
  oneLine : ∀ c ∈ between, notLineFeed c = true
  blank : ∀ c ∈ between.getLast?, isSpace c = true
  noTarget : ∀ pre c post, between = pre ++ c :: post → isSpace c = true →
    ¬"tcontext=".toList <+: post

theorem scontext_ne_tcontext {a b : List Char} : "scontext=".toList ++ a ≠ "tcontext=".toList ++ b := by
  have hs : "scontext=".toList = ['s','c','o','n','t','e','x','t','='] := by simp
  have ht : "tcontext=".toList = ['t','c','o','n','t','e','x','t','='] := by simp
  rw [hs,ht]
  simp

theorem startsWord_text {c : Char} (hc : isSpace c = false) (g : Nat) (t : List Char) (R : Pattern) :
    StartsWord ((g,.text (c :: t)) :: R) := by
  intro cs hsome
  obtain ⟨m,hm⟩ := Option.isSome_iff_exists.mp hsome
  obtain ⟨after,_,rfl,_⟩ := matchAt_text_some hm
  simpa using hc

/-- A word before a text that ends with a blank is before its end. -/
theorem word_inside {w start left after : List Char} {last : Char} (hw : ∀ c ∈ w, nonSpace c = true)
    (hlast : isSpace last = true) (h : start ++ [last] ++ left = w ++ after) :
    ∃ more, start ++ [last] = w ++ more ∧ after = more ++ left := by
  rcases List.append_eq_append_iff.mp h with ⟨more,hmore,hleft⟩ | ⟨more,hmore,hafter⟩
  · have hspace := nonSpace_iff.mp (hw last (by simp [hmore]))
    rw [hlast] at hspace
    cases hspace
  · exact ⟨more,hmore,hafter⟩

/-- Blanks at the start of a text before a word are before its end, or all of it. -/
theorem gap_inside {gap text left after : List Char} (hgap : ∀ c ∈ gap, isSpace c = true)
    (hleft : left ≠ [] ∧ ∀ c ∈ left.head?, isSpace c = false) (h : text ++ left = gap ++ after) :
    ∃ more, text = gap ++ more ∧ after = more ++ left := by
  rcases List.append_eq_append_iff.mp h with ⟨more,rfl,hmore⟩ | ⟨more,hmore,hafter⟩
  · cases more with
    | nil => exact ⟨[],by simp,by simpa using hmore.symm⟩
    | cons c more =>
      have hspace := hleft.2 c (by simp [hmore])
      rw [hgap c (by simp)] at hspace
      cases hspace
  · exact ⟨more,hmore,hafter⟩

/-- No source context is before the one that the blanks end at. -/
theorem Between.noContext (hword : WordChars word) (h : Between between) {before tail : List Char}
    (hsplit : between = before ++ tail) (hne : tail ≠ []) :
    (matchAt ((0,.text "scontext=".toList) :: (contextPattern word 2 ++
      (0,.text "tcontext=".toList) :: R)) (tail ++ ("scontext=".toList ++ rest))) = none := by
  by_contra hsome
  obtain ⟨m,hm⟩ := Option.ne_none_iff_exists'.mp hsome
  obtain ⟨after,_,htail,hcontext,_⟩ := matchAt_text_some hm
  obtain ⟨x,y,z,u,gap,next,_,hmatch,hnext,_⟩ := matchAt_context hcontext
  obtain ⟨rest',_,rfl,_⟩ := matchAt_text_some hnext
  have htoken : ∀ c ∈ "scontext=".toList, nonSpace c = true := by simp [nonSpace,isSpace]
  have htarget : ∀ c ∈ "tcontext=".toList, nonSpace c = true := by simp [nonSpace,isSpace]
  have hleft : "scontext=".toList ++ rest ≠ [] ∧
      ∀ c ∈ ("scontext=".toList ++ rest).head?, isSpace c = false := by
    have hs : "scontext=".toList = 's' :: "context=".toList := by simp
    rw [hs]
    simpa using (by decide : isSpace 's' = false)
  obtain ⟨start,last,rfl⟩ : ∃ start last, tail = start ++ [last] :=
    ⟨tail.dropLast,tail.getLast hne,(List.dropLast_append_getLast hne).symm⟩
  have hlast : isSpace last = true := h.blank last (by simp [hsplit])
  -- the context is one word, so it ends before the blank that the fields end with
  generalize hcontextText : "scontext=".toList ++ (x ++ ':' :: (y ++ ':' :: (z ++ ':' :: u))) = w at *
  have hw : ∀ c ∈ w, nonSpace c = true := by
    intro c hc
    rw [← hcontextText] at hc
    rcases List.mem_append.mp hc with hc | hc
    · exact htoken c hc
    · exact hmatch.nonSpace hword c hc
  have hwhole : start ++ [last] ++ ("scontext=".toList ++ rest) =
      w ++ (gap ++ ("tcontext=".toList ++ rest')) := by
    rw [htail,hmatch.split,← hcontextText]
    simp
  obtain ⟨more,hmore,hgaps⟩ := word_inside hw hlast hwhole
  obtain ⟨fields,rfl,hfields⟩ := gap_inside hmatch.blanks.2 hleft hgaps.symm
  obtain ⟨pre,c,rfl⟩ : ∃ pre c, gap = pre ++ [c] :=
    ⟨gap.dropLast,gap.getLast hmatch.blanks.1,(List.dropLast_append_getLast hmatch.blanks.1).symm⟩
  have hbetween : between = (before ++ w ++ pre) ++ c :: fields := by
    rw [hsplit,hmore]
    simp
  refine h.noTarget _ c fields hbetween (hmatch.blanks.2 c (by simp)) ?_
  cases hfieldsNil : fields using List.reverseRecOn with
  | nil =>
    rw [hfieldsNil,List.nil_append] at hfields
    exact absurd hfields.symm scontext_ne_tcontext
  | append_singleton ls d =>
    obtain rfl : last = d := by
      have hends : start ++ [last] = (w ++ (pre ++ [c]) ++ ls) ++ [d] := by
        rw [hmore,hfieldsNil]
        simp
      simpa using (List.append_inj' hends rfl).2
    have hsame : ls ++ [last] ++ ("scontext=".toList ++ rest) = "tcontext=".toList ++ rest' := by
      rw [hfields,hfieldsNil]
    obtain ⟨more',hin,_⟩ := word_inside htarget hlast hsame
    exact ⟨more',hin.symm⟩

/-- What is skipped is all before the source context of the line. -/
theorem matchAt_between (hword : WordChars word) (h : Between between)
    (hm : matchAt (contextPattern word 2 ++ (0,.text "tcontext=".toList) :: R) rest = some m) :
    matchAt ((0,.many 0 false notLineFeed) :: (0,.text "scontext=".toList) ::
        (contextPattern word 2 ++ (0,.text "tcontext=".toList) :: R))
      (between ++ ("scontext=".toList ++ rest)) =
        some (taken 0 between (taken 0 "scontext=".toList m)) := by
  have hafter : matchAt ((0,.text "scontext=".toList) ::
      (contextPattern word 2 ++ (0,.text "tcontext=".toList) :: R)) ("scontext=".toList ++ rest) =
        some (taken 0 "scontext=".toList m) := by
    rw [matchAt_text,hm]
    rfl
  have htakes : Takes 0 notLineFeed ((0,.text "scontext=".toList) ::
      (contextPattern word 2 ++ (0,.text "tcontext=".toList) :: R))
      (between ++ ("scontext=".toList ++ rest)) between ("scontext=".toList ++ rest) :=
    ⟨rfl,h.oneLine,Nat.zero_le _,by rw [hafter]; rfl⟩
  obtain ⟨m₁,hm₁⟩ := Option.isSome_iff_exists.mp (matchAt_many_isSome 0 false htakes)
  obtain ⟨before,after,m',htakes',hm',rfl,hshortest⟩ := matchAt_many_some hm₁
  have hle : before.length ≤ between.length := hshortest _ _ htakes
  obtain ⟨tail,rfl⟩ : before <+: between :=
    List.prefix_of_prefix_length_le ⟨after,htakes'.split⟩ (List.prefix_append _ _) hle
  have hsplit := htakes'.split
  rw [List.append_assoc] at hsplit
  obtain rfl := List.append_cancel_left hsplit
  by_cases htail : tail = []
  · subst htail
    rw [List.nil_append,hafter] at hm'
    obtain rfl := Option.some.inj hm'
    simpa using hm₁
  · rw [h.noContext hword rfl htail] at hm'
    cases hm'

end Between

/-- A denial, and what else is in the line that the kernel writes for it. -/
structure Denial where
  before : String
  afterAvc : String
  afterDenied : String
  perms : List String
  between : String
  source : Context
  afterSource : String
  target : Context
  afterTarget : String
  tclass : String
  after : String
  deriving DecidableEq, Repr

namespace Denial

variable {word : Char → Bool} {d : Denial}

def permText (d : Denial) : String := " " ++ " ".intercalate d.perms ++ " "

def line (d : Denial) : String :=
  d.before ++ "avc:" ++ d.afterAvc ++ "denied" ++ d.afterDenied ++ "\x7b" ++ d.permText ++ "\x7d" ++
    d.between ++ "scontext=" ++ d.source.text ++ d.afterSource ++ "tcontext=" ++ d.target.text ++
    d.afterTarget ++ "tclass=" ++ d.tclass ++ d.after

structure WellFormed (word : Char → Bool) (d : Denial) : Prop where
  before : ¬"avc:".toList <:+: d.before.toList
  afterAvc : IsGap d.afterAvc.toList
  afterDenied : IsGap d.afterDenied.toList
  perms : ∀ p ∈ d.perms, IsWord isSpace p.toList ∧ '\x7d' ∉ p.toList
  between : Between d.between.toList
  source : d.source.WellFormed word
  afterSource : IsGap d.afterSource.toList
  target : d.target.WellFormed word
  afterTarget : IsGap d.afterTarget.toList
  tclass : isWordText word d.tclass.toList = true
  after : ∀ c ∈ d.after.toList.head?, word c = false

/-- The types and the class of the denial. -/
def key (d : Denial) : RuleKey := ⟨d.source.type,d.target.type,d.tclass⟩

theorem words_permText (h : d.WellFormed word) : pyWords d.permText.toList = d.perms := by
  have hblank : isSpace ' ' = true := by decide
  have hperms : d.permText.toList = ' ' :: ([' '].intercalate (d.perms.map String.toList) ++ [' ']) := by
    simp [permText,String.toList_intercalate]
  have hwords : ∀ w ∈ d.perms.map String.toList, IsWord isSpace w := by
    intro w hw
    obtain ⟨p,hp,rfl⟩ := List.mem_map.mp hw
    exact (h.perms p hp).1
  rw [pyWords,hperms,words_gap hblank,words_append hblank,words_join hblank hwords]
  simp

theorem permText_noBrace (h : d.WellFormed word) : ∀ c ∈ d.permText.toList, notBrace c = true := by
  intro c hc
  rw [notBrace,decide_eq_true_eq]
  rintro rfl
  simp only [permText,String.toList_append,String.toList_intercalate,List.mem_append] at hc
  rcases hc with (hc | hc) | hc
  · revert hc
    decide
  · rcases mem_intercalate (c := ' ') hc with hc | ⟨w,hw,hc⟩
    · revert hc
      decide
    · obtain ⟨p,hp,rfl⟩ := List.mem_map.mp hw
      exact (h.perms p hp).2 hc
  · revert hc
    decide

theorem line_toList (d : Denial) : d.line.toList =
    d.before.toList ++ ("avc:".toList ++ (d.afterAvc.toList ++ ("denied".toList ++
      (d.afterDenied.toList ++ (['\x7b'] ++ (d.permText.toList ++ (['\x7d'] ++
        (d.between.toList ++ ("scontext=".toList ++ (d.source.text.toList ++ (d.afterSource.toList ++
          ("tcontext=".toList ++ (d.target.text.toList ++ (d.afterTarget.toList ++
            ("tclass=".toList ++ (d.tclass.toList ++ d.after.toList)))))))))))))))) := by
  simp [line]

/-- A text without "avc:" does not begin one with what comes after it. -/
theorem before_none {s cs : List Char} (hs : s ≠ []) (hwithout : ¬"avc:".toList <:+: s) :
    matchAt (avcRe word) (s ++ ("avc:".toList ++ cs)) = none := by
  refine matchAt_text_none ?_
  have havc : "avc:".toList = ['a','v','c',':'] := by simp
  rw [havc] at hwithout ⊢
  intro hprefix
  match s,hs with
  | [a],_ => simp at hprefix
  | [a,b],_ => simp at hprefix
  | [a,b,c],_ => simp at hprefix
  | a :: b :: c :: d :: s,_ =>
    refine hwithout ⟨[],s,?_⟩
    simpa using hprefix

theorem isGap_run {gap : List Char} {c : Char} (h : IsGap gap) (hc : isSpace c = false)
    (t after : List Char) (R : Pattern) :
    matchAt ((0,.many 1 true isSpace) :: (0,.text (c :: t)) :: R) (gap ++ (c :: t ++ after)) =
      ((matchAt R after).map (taken 0 (c :: t))).map (taken 0 gap) :=
  matchAt_run h.2 hc (List.length_pos_iff.mpr h.1) true t after R

/-- What is matched after the permissions. -/
def fieldsPattern (word : Char → Bool) : Pattern :=
  (0,.many 0 false notLineFeed) :: (0,.text "scontext=".toList) :: (contextPattern word 2 ++
    (0,.text "tcontext=".toList) :: (contextPattern word 3 ++
      [(0,.text "tclass=".toList),(4,.many 1 true word)]))

def fieldsText (d : Denial) : List Char :=
  d.between.toList ++ ("scontext=".toList ++ (d.source.text.toList ++ (d.afterSource.toList ++
    ("tcontext=".toList ++ (d.target.text.toList ++ (d.afterTarget.toList ++
      ("tclass=".toList ++ (d.tclass.toList ++ d.after.toList))))))))

theorem matchAt_fields (hword : WordChars word) (h : d.WellFormed word) :
    ∃ m, matchAt (fieldsPattern word) d.fieldsText = some m ∧ group 1 m = [] ∧
      group 2 m = capturedType word d.source ∧ group 3 m = capturedType word d.target ∧
      group 4 m = d.tclass.toList := by
  have htarget : "tcontext=".toList = 't' :: "context=".toList := by simp
  have hclassText : "tclass=".toList = 't' :: "class=".toList := by simp
  have hclass := isWordText_iff.mp h.tclass
  have hclassMatch : matchAt [(0,.text "tclass=".toList),(4,.many 1 true word)]
      ("tclass=".toList ++ (d.tclass.toList ++ d.after.toList)) =
        some (taken 0 "tclass=".toList (taken 4 d.tclass.toList ([],d.after.toList))) := by
    have hlast := matchAt_last 4 hclass.2 (List.length_pos_iff.mpr hclass.1) h.after
    rw [matchAt_text,hlast]
    rfl
  have hR : StartsWord [(0,.text "tclass=".toList),(4,.many 1 true word)] := by
    rw [hclassText]
    exact startsWord_text (by decide) 0 _ _
  obtain ⟨x,y,u,htargetMatch⟩ := matchAt_wellFormed 3 hword h.target hR h.afterTarget hclassMatch
  have hcontexts := matchAt_text 0 "tcontext=".toList (d.target.text.toList ++ (d.afterTarget.toList ++
    ("tclass=".toList ++ (d.tclass.toList ++ d.after.toList)))) (contextPattern word 3 ++
      [(0,.text "tclass=".toList),(4,.many 1 true word)])
  rw [htargetMatch,Option.map_some] at hcontexts
  have hR' : StartsWord ((0,.text "tcontext=".toList) :: (contextPattern word 3 ++
      [(0,.text "tclass=".toList),(4,.many 1 true word)])) := by
    rw [htarget]
    exact startsWord_text (by decide) 0 _ _
  obtain ⟨x',y',u',hsourceMatch⟩ := matchAt_wellFormed 2 hword h.source hR' h.afterSource hcontexts
  refine ⟨_,matchAt_between hword h.between hsourceMatch,?_,?_,?_,?_⟩ <;>
    simp [group_taken,contextTaken]

/-- The types that are taken, the class and the permissions of the line. -/
theorem parse_line (hword : WordChars word) (h : d.WellFormed word) :
    parseAvcLine word d.line = some ⟨⟨String.ofList (capturedType word d.source),
      String.ofList (capturedType word d.target),d.tclass⟩,sortedSet d.perms⟩ := by
  obtain ⟨m,hfields,hperms,hsource,htarget,hclass⟩ := matchAt_fields hword h
  have hdenied : "denied".toList = 'd' :: "enied".toList := by simp
  have hlong : 1 ≤ d.permText.toList.length := by
    simp [permText]
  have hbraces : matchAt ((1,.many 1 true notBrace) :: (0,.text ['\x7d']) :: fieldsPattern word)
      (d.permText.toList ++ (['\x7d'] ++ d.fieldsText)) =
        some (taken 1 d.permText.toList (taken 0 ['\x7d'] m)) := by
    have hrun : matchAt ((1,.many 1 true notBrace) :: (0,.text ['\x7d']) :: fieldsPattern word)
        (d.permText.toList ++ (['\x7d'] ++ d.fieldsText)) = _ :=
      matchAt_run (permText_noBrace h) (by decide) hlong true [] d.fieldsText (fieldsPattern word)
    rwa [hfields] at hrun
  have hopen := isGap_run (c := '\x7b') h.afterDenied (by decide) []
    (d.permText.toList ++ (['\x7d'] ++ d.fieldsText))
    ((1,.many 1 true notBrace) :: (0,.text ['\x7d']) :: fieldsPattern word)
  have hstart := isGap_run (c := 'd') h.afterAvc (by decide) "enied".toList
    (d.afterDenied.toList ++ (['\x7b'] ++ (d.permText.toList ++ (['\x7d'] ++ d.fieldsText))))
    ((0,.many 1 true isSpace) :: (0,.text ['\x7b']) :: (1,.many 1 true notBrace) ::
      (0,.text ['\x7d']) :: fieldsPattern word)
  rw [hbraces] at hopen
  rw [hopen,← hdenied] at hstart
  have hsearch : search (avcRe word) d.line.toList = some (taken 0 "avc:".toList
      (taken 0 d.afterAvc.toList (taken 0 "denied".toList (taken 0 d.afterDenied.toList
        (taken 0 ['\x7b'] (taken 1 d.permText.toList (taken 0 ['\x7d'] m))))))) := by
    rw [line_toList,search_first]
    · refine search_start ?_
      have havc : avcRe word = (0,.text "avc:".toList) :: (0,.many 1 true isSpace) ::
          (0,.text "denied".toList) :: (0,.many 1 true isSpace) :: (0,.text ['\x7b']) ::
            (1,.many 1 true notBrace) :: (0,.text ['\x7d']) :: fieldsPattern word := rfl
      rw [havc,matchAt_text]
      exact congrArg (Option.map _) hstart
    · intro s hs hsuffix
      exact before_none hs fun hin => h.before (hin.trans hsuffix.isInfix)
  rw [parseAvcLine,hsearch]
  simp [group_taken,hperms,hsource,htarget,hclass,words_permText h]

end Denial

end Selinux

end Nexplane
