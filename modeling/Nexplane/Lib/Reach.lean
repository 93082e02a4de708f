import Mathlib.Logic.Relation
import Mathlib.Order.WellFounded
import Mathlib.Data.List.Basic
import Mathlib.Algebra.Order.BigOperators.Group.List
import Mathlib.Algebra.Order.Group.Nat

set_option autoImplicit false

/-! Depth-first search for one node of a directed graph, and graphs without cycles as graphs with a
rank that falls along every edge. -/

namespace Reach

variable {α : Type}

/-- Visits the nodes one after the other until one visit is successful. -/
def searchAll (visit : α → List α → Option (Bool × List α)) :
    List α → List α → Option (Bool × List α)
  | [], visited => some (false,visited)
  | x :: xs, visited => do
    let (found,visited) ← visit x visited
    if found then some (true,visited) else searchAll visit xs visited

def Reaches (next : α → List α) : α → α → Prop := Relation.ReflTransGen fun x y => y ∈ next x

/-- Some rank falls along every edge. -/
def Ranked (next : α → List α) : Prop := ∃ rank : α → Nat, ∀ x, ∀ y ∈ next x, rank y < rank x

def Acyclic (next : α → List α) : Prop := ∀ x, ¬Relation.TransGen (fun x y => y ∈ next x) x x

/-- What an unsuccessful search has added is not the target, and its edges stay inside. -/
structure Explored (next : α → List α) (target : α) (visited visited' : List α) : Prop where
  subset : ∀ x ∈ visited, x ∈ visited'
  closed : ∀ x ∈ visited', x ∈ visited ∨ x ≠ target ∧ ∀ y ∈ next x, y ∈ visited'

theorem Explored.trans {next : α → List α} {target : α} {visited visited' visited'' : List α}
    (h : Explored next target visited visited')
    (h' : Explored next target visited' visited'') : Explored next target visited visited'' where
  subset := fun x hx => h'.subset x (h.subset x hx)
  closed := by
    intro x hx
    rcases h'.closed x hx with hx | hx
    · rcases h.closed x hx with hx | ⟨hne,hnext⟩
      · exact Or.inl hx
      · exact Or.inr ⟨hne,fun y hy => h'.subset y (hnext y hy)⟩
    · exact Or.inr hx

theorem searchAll_false {next : α → List α} {target : α} {xs visited visited' : List α}
    {visit : α → List α → Option (Bool × List α)}
    (hvisit : ∀ x visited visited', visit x visited = some (false,visited') →
      Explored next target visited visited' ∧ x ∈ visited')
    (h : searchAll visit xs visited = some (false,visited')) :
    Explored next target visited visited' ∧ ∀ x ∈ xs, x ∈ visited' := by
  induction xs generalizing visited with
  | nil =>
    obtain ⟨_,rfl⟩ := Prod.mk.inj (Option.some.inj h)
    exact ⟨⟨fun _ => id,fun _ => Or.inl⟩,by simp⟩
  | cons x xs ih =>
    obtain ⟨⟨found,between⟩,hx,h⟩ := Option.bind_eq_some_iff.mp h
    cases found with
    | true => simp at h
    | false =>
      obtain ⟨hfirst,hmem⟩ := hvisit x visited between hx
      obtain ⟨hrest,hall⟩ := ih (by simpa using h)
      refine ⟨hfirst.trans hrest,fun y hy => ?_⟩
      rcases List.mem_cons.mp hy with rfl | hy
      · exact hrest.subset y hmem
      · exact hall y hy

theorem searchAll_true {next : α → List α} {target : α} {xs visited visited' : List α}
    {visit : α → List α → Option (Bool × List α)}
    (hvisit : ∀ x visited visited', visit x visited = some (true,visited') →
      Reaches next x target)
    (h : searchAll visit xs visited = some (true,visited')) : ∃ x ∈ xs, Reaches next x target := by
  induction xs generalizing visited with
  | nil => simp [searchAll] at h
  | cons x xs ih =>
    obtain ⟨⟨found,between⟩,hx,h⟩ := Option.bind_eq_some_iff.mp h
    cases found with
    | true => exact ⟨x,List.mem_cons_self,hvisit x visited between hx⟩
    | false =>
      obtain ⟨y,hy,hreach⟩ := ih (by simpa using h)
      exact ⟨y,List.mem_cons_of_mem _ hy,hreach⟩

/-- A search adds to what is visited. -/
theorem searchAll_subset {xs visited visited' : List α} {found : Bool}
    {visit : α → List α → Option (Bool × List α)}
    (hvisit : ∀ x visited found visited', visit x visited = some (found,visited') →
      visited ⊆ visited')
    (h : searchAll visit xs visited = some (found,visited')) : visited ⊆ visited' := by
  induction xs generalizing visited with
  | nil =>
    obtain ⟨_,rfl⟩ := Prod.mk.inj (Option.some.inj h)
    exact List.Subset.refl _
  | cons x xs ih =>
    obtain ⟨⟨found',between⟩,hx,h⟩ := Option.bind_eq_some_iff.mp h
    have hfirst := hvisit x visited found' between hx
    cases found' with
    | true =>
      obtain ⟨_,rfl⟩ := Prod.mk.inj (Option.some.inj h)
      exact hfirst
    | false => exact List.Subset.trans hfirst (ih (by simpa using h))

theorem searchAll_returns {xs visited : List α}
    {visit : α → List α → Option (Bool × List α)}
    (hsubset : ∀ x visited found visited', visit x visited = some (found,visited') →
      visited ⊆ visited')
    (hvisit : ∀ y visited', visited ⊆ visited' → ∃ r, visit y visited' = some r) :
    ∃ r, searchAll visit xs visited = some r := by
  induction xs generalizing visited with
  | nil => exact ⟨_,rfl⟩
  | cons x xs ih =>
    obtain ⟨⟨found,between⟩,hx⟩ := hvisit x visited (List.Subset.refl _)
    rw [searchAll,hx]
    cases found with
    | true => exact ⟨_,rfl⟩
    | false =>
      exact ih fun y visited' h => hvisit y visited' (List.Subset.trans (hsubset _ _ _ _ hx) h)

theorem Ranked.mono {next next' : α → List α} (h : Ranked next)
    (hsub : ∀ x, ∀ y ∈ next' x, y ∈ next x) : Ranked next' := by
  obtain ⟨rank,hrank⟩ := h
  exact ⟨rank,fun x y hy => hrank x y (hsub x y hy)⟩

/-- Among the nodes with a property there is one whose successors do not have it. -/
theorem Ranked.exists_last {next : α → List α} (h : Ranked next) {p : α → Prop} (hsome : ∃ x, p x) :
    ∃ x, p x ∧ ∀ y ∈ next x, ¬p y := by
  obtain ⟨rank,hrank⟩ := h
  obtain ⟨x,hx,hmin⟩ := (measure rank).wf.has_min {x | p x} hsome
  exact ⟨x,hx,fun y hy hp => hmin y hp (hrank x y hy)⟩

theorem Ranked.acyclic {next : α → List α} (h : Ranked next) : Acyclic next := by
  obtain ⟨rank,hrank⟩ := h
  have hfalls : ∀ x y, Relation.TransGen (fun x y => y ∈ next x) x y → rank y < rank x := by
    intro x y hpath
    induction hpath with
    | single hedge => exact hrank _ _ hedge
    | tail _ hedge ih => exact (hrank _ _ hedge).trans ih
  exact fun x hcycle => Nat.lt_irrefl _ (hfalls x x hcycle)

/-- The edges of the target itself do not matter for reaching it. -/
theorem Reaches.congr {next next' : α → List α} {x target : α} (h : Reaches next x target)
    (hsame : ∀ y, y ≠ target → next' y = next y) : Reaches next' x target := by
  induction h using Relation.ReflTransGen.head_induction_on with
  | refl => exact .refl
  | @head y z hedge _ ih =>
    by_cases hy : y = target
    · subst hy
      exact .refl
    · refine .head ?_ ih
      rwa [hsame y hy]

variable [DecidableEq α]

/-- The search for `target` from a node, with calls nested at most `depth` deep; `none` when they
would have to be deeper. -/
def search (next : α → List α) (target : α) : Nat → α → List α → Option (Bool × List α)
  | 0, _, _ => none
  | depth + 1, x, visited =>
    if x = target then some (true,visited)
    else if x ∈ visited then some (false,visited)
    else searchAll (search next target depth) (next x) (x :: visited)

/-- The search from each of the nodes, each time with nothing visited. -/
def reachesAny (next : α → List α) (target : α) (depth : Nat) : List α → Option Bool
  | [] => some false
  | x :: xs => do
    let (found,_) ← search next target depth x []
    if found then some true else reachesAny next target depth xs

variable {next next' : α → List α} {target x : α} {depth : Nat} {xs new visited visited' : List α}

theorem search_false (h : search next target depth x visited = some (false,visited')) :
    Explored next target visited visited' ∧ x ∈ visited' := by
  induction depth generalizing x visited visited' with
  | zero => cases h
  | succ depth ih =>
    rw [search] at h
    split at h
    · simp at h
    rename_i hne
    split at h
    · rename_i hmem
      obtain ⟨_,rfl⟩ := Prod.mk.inj (Option.some.inj h)
      exact ⟨⟨fun _ => id,fun _ => Or.inl⟩,hmem⟩
    · obtain ⟨hexplored,hall⟩ := searchAll_false (fun _ _ _ h => ih h) h
      refine ⟨⟨fun y hy => hexplored.subset y (List.mem_cons_of_mem _ hy),fun y hy => ?_⟩,
        hexplored.subset x List.mem_cons_self⟩
      rcases hexplored.closed y hy with hy | hy
      · rcases List.mem_cons.mp hy with rfl | hy
        · exact Or.inr ⟨hne,hall⟩
        · exact Or.inl hy
      · exact Or.inr hy

theorem search_true (h : search next target depth x visited = some (true,visited')) :
    Reaches next x target := by
  induction depth generalizing x visited visited' with
  | zero => cases h
  | succ depth ih =>
    rw [search] at h
    split at h
    · rename_i hx
      subst hx
      exact .refl
    split at h
    · simp at h
    · obtain ⟨y,hy,hreach⟩ := searchAll_true (fun _ _ _ h => ih h) h
      exact .head hy hreach

theorem search_subset {found : Bool}
    (h : search next target depth x visited = some (found,visited')) : visited ⊆ visited' := by
  induction depth generalizing x visited visited' found with
  | zero => cases h
  | succ depth ih =>
    rw [search] at h
    split at h
    · obtain ⟨_,rfl⟩ := Prod.mk.inj (Option.some.inj h)
      exact List.Subset.refl _
    split at h
    · obtain ⟨_,rfl⟩ := Prod.mk.inj (Option.some.inj h)
      exact List.Subset.refl _
    · exact List.Subset.trans (List.subset_cons_self _ _)
        (searchAll_subset (fun _ _ _ _ h => ih h) h)

/-- The nodes of a list that are not visited yet. -/
def unvisited (nodes visited : List α) : List α := nodes.filter fun x => x ∉ visited

theorem unvisited_antitone (nodes : List α) (h : visited ⊆ visited') :
    (unvisited nodes visited').length ≤ (unvisited nodes visited).length := by
  refine (List.monotone_filter_right nodes fun x hx => ?_).length_le
  simp only [decide_eq_true_eq] at hx ⊢
  exact fun hmem => hx (h hmem)

theorem unvisited_cons {nodes : List α} (hnode : x ∈ nodes) (hx : x ∉ visited) :
    (unvisited nodes (x :: visited)).length < (unvisited nodes visited).length := by
  have hsplit : unvisited nodes (x :: visited) = (unvisited nodes visited).filter (· ≠ x) := by
    rw [unvisited,unvisited,List.filter_filter]
    exact List.filter_congr fun y _ => by simp
  rw [hsplit]
  exact List.length_filter_lt_length_iff_exists.mpr ⟨x,by simp [unvisited,hnode,hx],by simp⟩

/-- Calls nest no deeper than there are nodes with edges that are not visited yet. -/
theorem search_returns {nodes : List α} (hnodes : ∀ y, y ≠ target → y ∉ nodes → next y = [])
    (h : (unvisited nodes visited).length < depth) :
    ∃ r, search next target depth x visited = some r := by
  induction depth generalizing x visited with
  | zero => omega
  | succ depth ih =>
    rw [search]
    split
    · exact ⟨_,rfl⟩
    rename_i hne
    split
    · exact ⟨_,rfl⟩
    rename_i hx
    by_cases hnode : x ∈ nodes
    · refine searchAll_returns (fun _ _ _ _ h => search_subset h) fun y visited' hsubset => ih ?_
      have hle := unvisited_antitone nodes hsubset
      have hlt := unvisited_cons hnode hx
      omega
    · rw [hnodes x hne hnode]
      exact ⟨_,rfl⟩

/-- After an unsuccessful search the target cannot be reached, whatever its own edges are. -/
theorem not_reaches (h : search next target depth x [] = some (false,visited'))
    (hsame : ∀ y, y ≠ target → next' y = next y) : ¬Reaches next' x target := by
  obtain ⟨hexplored,hmem⟩ := search_false h
  have hclosed : ∀ y ∈ visited', y ≠ target ∧ ∀ z ∈ next y, z ∈ visited' := fun y hy =>
    (hexplored.closed y hy).resolve_left (by simp)
  have hinside : ∀ y, Reaches next' x y → y ∈ visited' := by
    intro y hy
    induction hy with
    | refl => exact hmem
    | tail _ hedge ih =>
      obtain ⟨hne,hnext⟩ := hclosed _ ih
      rw [hsame _ hne] at hedge
      exact hnext _ hedge
  exact fun hreach => (hclosed target (hinside target hreach)).1 rfl

theorem reachesAny_false (h : reachesAny next target depth xs = some false)
    (hsame : ∀ y, y ≠ target → next' y = next y) : ∀ x ∈ xs, ¬Reaches next' x target := by
  induction xs with
  | nil => simp
  | cons x xs ih =>
    obtain ⟨⟨found,visited'⟩,hx,h⟩ := Option.bind_eq_some_iff.mp h
    cases found with
    | true => simp at h
    | false =>
      intro y hy
      rcases List.mem_cons.mp hy with rfl | hy
      · exact not_reaches hx hsame
      · exact ih (by simpa using h) y hy

theorem reachesAny_true (h : reachesAny next target depth xs = some true) :
    ∃ x ∈ xs, Reaches next x target := by
  induction xs with
  | nil => cases h
  | cons x xs ih =>
    obtain ⟨⟨found,visited'⟩,hx,h⟩ := Option.bind_eq_some_iff.mp h
    cases found with
    | true => exact ⟨x,List.mem_cons_self,search_true hx⟩
    | false =>
      obtain ⟨y,hy,hreach⟩ := ih (by simpa using h)
      exact ⟨y,List.mem_cons_of_mem _ hy,hreach⟩

theorem reachesAny_returns (nodes : List α) (hnodes : ∀ y, y ≠ target → y ∉ nodes → next y = [])
    (h : nodes.length < depth) : ∃ found, reachesAny next target depth xs = some found := by
  induction xs with
  | nil => exact ⟨_,rfl⟩
  | cons x xs ih =>
    have hlt : (unvisited nodes []).length < depth := by simpa [unvisited] using h
    obtain ⟨⟨found,visited'⟩,hx⟩ := search_returns (x := x) hnodes hlt
    rw [reachesAny,hx]
    cases found with
    | true => exact ⟨_,rfl⟩
    | false => exact ih

/-- Edges of the target close a cycle exactly when one of them leads back to it. -/
theorem Acyclic.update_iff (h : Acyclic next) :
    Acyclic (Function.update next target new) ↔ ∀ y ∈ new, ¬Reaches next y target := by
  have hsame : ∀ y, y ≠ target → Function.update next target new y = next y := fun y hy =>
    Function.update_of_ne hy _ _
  have hedge : ∀ y ∈ new, y ∈ Function.update next target new target := fun y hy => by
    rwa [Function.update_self]
  constructor
  · intro hacyclic y hy hreach
    exact hacyclic target (.head' (hedge y hy) (hreach.congr hsame))
  · intro hnew x hcycle
    -- A path of the new graph avoids the target's edges, or it passes through the target.
    have hpath : ∀ y, Relation.TransGen (fun x y => y ∈ Function.update next target new x) x y →
        Relation.TransGen (fun x y => y ∈ next x) x y ∨
          Reaches (Function.update next target new) x target ∧
            Relation.TransGen (fun x y => y ∈ Function.update next target new x) target y := by
      intro y hpath
      induction hpath with
      | @single y hstep =>
        by_cases hx : x = target
        · subst hx
          exact Or.inr ⟨.refl,.single hstep⟩
        · exact Or.inl (.single (by rwa [hsame x hx] at hstep))
      | @tail z y hbefore hstep ih =>
        rcases ih with hold | ⟨hreach,hthrough⟩
        · by_cases hz : z = target
          · subst hz
            exact Or.inr ⟨hbefore.to_reflTransGen,.single hstep⟩
          · exact Or.inl (hold.tail (by rwa [hsame z hz] at hstep))
        · exact Or.inr ⟨hreach,hthrough.tail hstep⟩
    rcases hpath x hcycle with hold | ⟨hreach,hthrough⟩
    · exact h x hold
    · obtain ⟨z,hz,hback⟩ := Relation.TransGen.head'_iff.mp (hthrough.trans_left hreach)
      rw [Function.update_self] at hz
      exact hnew z hz (Reaches.congr hback fun y hy => (hsame y hy).symm)

/-- A node may get new edges from which it cannot be reached. -/
theorem Ranked.update (h : Ranked next) (hnew : ∀ y ∈ new, ¬Reaches next y target) :
    Ranked (Function.update next target new) := by
  classical
  obtain ⟨rank,hrank⟩ := h
  -- Whatever reaches the target is lifted above the ranks of its new successors.
  generalize hlift : (new.map rank).sum + 1 = lift
  refine ⟨fun x => rank x + if Reaches next x target then lift else 0,fun x y hy => ?_⟩
  dsimp only
  by_cases hx : x = target
  · subst hx
    rw [Function.update_self] at hy
    have hle : rank y ≤ (new.map rank).sum :=
      List.single_le_sum (by simp) _ (List.mem_map_of_mem hy)
    have hself : Reaches next x x := .refl
    rw [if_neg (hnew y hy),if_pos hself]
    omega
  · rw [Function.update_of_ne hx] at hy
    have hfalls := hrank x y hy
    by_cases hreach : Reaches next y target
    · have hhead : Reaches next x target := .head hy hreach
      rw [if_pos hreach,if_pos hhead]
      omega
    · rw [if_neg hreach]
      omega

end Reach
