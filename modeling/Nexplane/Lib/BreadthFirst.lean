import Mathlib.Data.List.Nodup
import Mathlib.Data.Nat.Find

set_option autoImplicit false

/-! Breadth-first search of a directed graph with a queue, a set of visited nodes and a greatest
depth: it finds every node that a short enough path leads to, at its distance. -/

namespace BreadthFirst

variable {α ε : Type}

/-- The edges that leave a node, each with the node at its other end; `nodes` lists all ends. -/
structure Graph (α ε : Type) where
  edges : α → List ε
  node : ε → α
  nodes : List α
  closed : ∀ x, ∀ e ∈ edges x, node e ∈ nodes

/-- A path of the given number of edges. -/
inductive Path (G : Graph α ε) (x : α) : Nat → α → Prop where
  | start : Path G x 0 x
  | step {n : Nat} {y : α} {e : ε} (h : Path G x n y) (he : e ∈ G.edges y) :
      Path G x (n + 1) (G.node e)

/-- The number of edges of the shortest paths. -/
structure Distance (G : Graph α ε) (x y : α) (n : Nat) : Prop where
  path : Path G x n y
  shortest : ∀ k, Path G x k y → n ≤ k

structure Frontier (α ε : Type) where
  visited : List α
  queue : List (α × Nat)
  results : List (ε × Nat)

section Search

variable [DecidableEq α] (G : Graph α ε)

/-- Takes in the end of one edge that leaves a node of the given depth. -/
def Frontier.visit (depth : Nat) (s : Frontier α ε) (e : ε) : Frontier α ε :=
  if G.node e ∈ s.visited then s
  else ⟨s.visited ++ [G.node e],s.queue ++ [(G.node e,depth + 1)],s.results ++ [(e,depth + 1)]⟩

def Frontier.expand (depth : Nat) (s : Frontier α ε) (es : List ε) : Frontier α ε :=
  es.foldl (Frontier.visit G depth) s

/-- What is left to visit and to take from the queue. -/
def Frontier.rest (s : Frontier α ε) : Nat :=
  (G.nodes.filter fun x => x ∉ s.visited).length + s.queue.length

theorem filter_fresh_lt {nodes visited : List α} {x : α} (hx : x ∈ nodes) (hfresh : x ∉ visited) :
    (nodes.filter fun y => y ∉ visited ++ [x]).length + 1 ≤
      (nodes.filter fun y => y ∉ visited).length := by
  have hsub : (nodes.filter fun y => y ∉ visited ++ [x]) =
      (nodes.filter fun y => y ∉ visited).filter fun y => y ≠ x := by
    rw [List.filter_filter]
    refine List.filter_congr fun y _ => ?_
    simp [and_comm]
  rw [hsub]
  refine Nat.succ_le_of_lt (List.length_filter_lt_length_iff_exists.mpr ⟨x,?_,by simp⟩)
  simpa [hx] using hfresh

theorem visit_rest (depth : Nat) (s : Frontier α ε) {e : ε} (he : G.node e ∈ G.nodes) :
    (s.visit G depth e).rest G ≤ s.rest G := by
  unfold Frontier.visit
  split
  · exact Nat.le_refl _
  · next hfresh =>
    have hless := filter_fresh_lt he hfresh
    simp only [Frontier.rest,List.length_append,List.length_singleton]
    omega

theorem expand_rest (depth : Nat) (s : Frontier α ε) {es : List ε}
    (hes : ∀ e ∈ es, G.node e ∈ G.nodes) : (s.expand G depth es).rest G ≤ s.rest G := by
  induction es generalizing s with
  | nil => exact Nat.le_refl _
  | cons e es ih =>
    have hfirst := visit_rest G depth s (hes e List.mem_cons_self)
    have hrest := ih (s.visit G depth e) fun e he => hes e (List.mem_cons_of_mem _ he)
    exact Nat.le_trans hrest hfirst

/-- The loop: a node at the greatest depth is not expanded. -/
def search (maxDepth : Int) (s : Frontier α ε) : List (ε × Nat) :=
  match _hs : s.queue with
  | [] => s.results
  | (x,depth) :: queue =>
    if maxDepth ≤ depth then search maxDepth { s with queue }
    else search maxDepth (Frontier.expand G depth { s with queue } (G.edges x))
termination_by s.rest G
decreasing_by
  · simp [Frontier.rest,_hs]
  · refine Nat.lt_of_le_of_lt (expand_rest G depth _ (G.closed x)) ?_
    simp [Frontier.rest,_hs]

def searchFrom (x : α) (maxDepth : Int) : List (ε × Nat) :=
  search G maxDepth ⟨[x],[(x,0)],[]⟩

end Search

section Paths

variable {G : Graph α ε} {x y : α} {n m : Nat}

theorem Distance.unique (h : Distance G x y n) (h' : Distance G x y m) : n = m :=
  Nat.le_antisymm (h.shortest m h'.path) (h'.shortest n h.path)

theorem Path.distance (h : Path G x n y) : ∃ m, m ≤ n ∧ Distance G x y m := by
  classical
  have hsome : ∃ k, Path G x k y := ⟨n,h⟩
  exact ⟨Nat.find hsome,Nat.find_min' hsome h,Nat.find_spec hsome,fun _ => Nat.find_min' hsome⟩

theorem Distance.self (G : Graph α ε) (x : α) : Distance G x x 0 :=
  ⟨.start,fun _ _ => Nat.zero_le _⟩

theorem Path.cons {e : ε} (he : e ∈ G.edges x) (h : Path G (G.node e) n y) :
    Path G x (n + 1) y := by
  induction h with
  | start => exact Path.start.step he
  | step _ hlast ih => exact ih.step hlast

/-- Every edge of one graph is an edge of the other one the other way round. -/
def Mirrors (G H : Graph α ε) : Prop :=
  ∀ x, ∀ e ∈ G.edges x, ∃ e' ∈ H.edges (G.node e), H.node e' = x

variable {H : Graph α ε}

theorem Path.reverse (hmirror : Mirrors G H) (h : Path G x n y) : Path H y n x := by
  induction h with
  | start => exact .start
  | step _ he ih =>
    obtain ⟨e',he',rfl⟩ := hmirror _ _ he
    exact ih.cons he'

theorem Distance.reverse (hGH : Mirrors G H) (hHG : Mirrors H G) (h : Distance G x y n) :
    Distance H y x n :=
  ⟨h.path.reverse hGH,fun k hk => h.shortest k (hk.reverse hHG)⟩

end Paths

section Correctness

variable {G : Graph α ε} {x z : α} {maxDepth : Int} {depth : Nat} {s : Frontier α ε}
  {queue : List (α × Nat)}

/-- The edges among `es` that lead to a node not visited yet, one for each such node. -/
structure Fresh (G : Graph α ε) (visited : List α) (es new : List ε) : Prop where
  subset : ∀ e ∈ new, e ∈ es
  nodup : (new.map G.node).Nodup
  unvisited : ∀ e ∈ new, G.node e ∉ visited
  all : ∀ e ∈ es, G.node e ∈ visited ++ new.map G.node

/-- What holds whenever the loop looks at the queue: visited are the start and the results, each at
its distance; the depths in the queue rise by one at most; and the edges of whatever is visited and
not in the queue have been followed. -/
structure Layered (G : Graph α ε) (x : α) (maxDepth : Int) (s : Frontier α ε) : Prop where
  visited : s.visited = x :: s.results.map fun r => G.node r.1
  nodup : s.visited.Nodup
  found : ∀ r ∈ s.results, Distance G x (G.node r.1) r.2 ∧ (r.2 : Int) ≤ maxDepth
  queued : ∀ q ∈ s.queue, Distance G x q.1 q.2 ∧ (q.2 = 0 ∨ (q.2 : Int) ≤ maxDepth)
  ordered : s.queue.Pairwise fun q q' => q.2 ≤ q'.2
  narrow : ∀ q ∈ s.queue, ∀ q' ∈ s.queue, q'.2 ≤ q.2 + 1
  expanded : ∀ y ∈ s.visited, ∀ n, Distance G x y n → (n : Int) < maxDepth →
    (y,n) ∈ s.queue ∨ ∀ e ∈ G.edges y, G.node e ∈ s.visited

theorem layered_start (G : Graph α ε) (x : α) (maxDepth : Int) :
    Layered G x maxDepth ⟨[x],[(x,0)],[]⟩ where
  visited := rfl
  nodup := List.nodup_singleton x
  found := by simp
  queued := by
    intro q hq
    obtain rfl := List.mem_singleton.mp hq
    exact ⟨.self G x,Or.inl rfl⟩
  ordered := List.pairwise_singleton _ _
  narrow := by
    intro q hq q' hq'
    obtain rfl := List.mem_singleton.mp hq
    obtain rfl := List.mem_singleton.mp hq'
    exact Nat.le_succ _
  expanded := by
    intro y hy n hn _
    obtain rfl := List.mem_singleton.mp hy
    obtain rfl := hn.unique (.self G y)
    exact Or.inl List.mem_cons_self

theorem Layered.start_visited (h : Layered G x maxDepth s) : x ∈ s.visited := by
  rw [h.visited]
  exact List.mem_cons_self

/-- Along a path through nodes that are not in the queue everything is visited. -/
theorem Layered.path_visited (h : Layered G x maxDepth s) {n : Nat} {y : α} (hpath : Path G x n y)
    (hn : (n : Int) ≤ maxDepth) (hqueue : ∀ q ∈ s.queue, n ≤ q.2) : y ∈ s.visited := by
  induction hpath with
  | start => exact h.start_visited
  | @step n y e hpath he ih =>
    have hy := ih (by omega) fun q hq => Nat.le_trans (Nat.le_succ n) (hqueue q hq)
    obtain ⟨m,hm,hdist⟩ := hpath.distance
    rcases h.expanded y hy m hdist (by omega) with hmem | hall
    · have := hqueue _ hmem
      omega
    · exact hall e he

/-- The nodes up to the depth of the next node are visited. -/
theorem Layered.near_visited (h : Layered G x maxDepth s) (hs : s.queue = (z,depth) :: queue)
    {n : Nat} {y : α} (hpath : Path G x n y) (hn : n ≤ depth) : y ∈ s.visited := by
  rcases (h.queued (z,depth) (by simp [hs])).2 with hzero | hmax
  · obtain rfl : n = 0 := Nat.le_zero.mp (hzero ▸ hn)
    cases hpath
    exact h.start_visited
  · refine h.path_visited hpath (by omega) fun q hq => ?_
    have hordered := h.ordered
    rw [hs,List.pairwise_cons] at hordered
    rcases List.mem_cons.mp (hs ▸ hq) with rfl | hq
    · exact hn
    · exact Nat.le_trans hn (hordered.1 q hq)

theorem Layered.skip (h : Layered G x maxDepth s) (hs : s.queue = (z,depth) :: queue)
    (hdepth : maxDepth ≤ depth) : Layered G x maxDepth { s with queue } where
  visited := h.visited
  nodup := h.nodup
  found := h.found
  queued q hq := h.queued q (by rw [hs]; exact List.mem_cons_of_mem _ hq)
  ordered := (List.pairwise_cons.mp (hs ▸ h.ordered)).2
  narrow q hq q' hq' := h.narrow q (by rw [hs]; exact List.mem_cons_of_mem _ hq) q'
    (by rw [hs]; exact List.mem_cons_of_mem _ hq')
  expanded y hy n hn hlt := by
    rcases h.expanded y hy n hn hlt with hmem | hall
    · rcases List.mem_cons.mp (hs ▸ hmem) with heq | hmem
      · obtain ⟨-,rfl⟩ := Prod.mk.inj heq
        omega
      · exact Or.inl hmem
    · exact Or.inr hall

/-- A node behind a new edge is one step farther than the node that the edge leaves. -/
theorem Layered.fresh_distance (h : Layered G x maxDepth s) (hs : s.queue = (z,depth) :: queue)
    {e : ε} (he : e ∈ G.edges z) (hfresh : G.node e ∉ s.visited) :
    Distance G x (G.node e) (depth + 1) where
  path := (h.queued (z,depth) (by simp [hs])).1.path.step he
  shortest k hk := by
    by_contra hless
    exact hfresh (h.near_visited hs hk (by omega))

variable [DecidableEq α]

theorem expand_fresh (depth : Nat) (s : Frontier α ε) (es : List ε) : ∃ new,
    Fresh G s.visited es new ∧ s.expand G depth es = ⟨s.visited ++ new.map G.node,
      s.queue ++ new.map fun e => (G.node e,depth + 1),
      s.results ++ new.map fun e => (e,depth + 1)⟩ := by
  induction es generalizing s with
  | nil => exact ⟨[],⟨by simp,by simp,by simp,by simp⟩,by simp [Frontier.expand]⟩
  | cons e es ih =>
    obtain ⟨new,hnew,heq⟩ := ih (s.visit G depth e)
    by_cases he : G.node e ∈ s.visited
    · have hvisit : s.visit G depth e = s := by rw [Frontier.visit,if_pos he]
      rw [hvisit] at hnew heq
      refine ⟨new,⟨fun d hd => List.mem_cons_of_mem _ (hnew.subset d hd),hnew.nodup,
        hnew.unvisited,fun d hd => ?_⟩,by rw [← heq,Frontier.expand,List.foldl_cons,hvisit]; rfl⟩
      rcases List.mem_cons.mp hd with rfl | hd
      · exact List.mem_append_left _ he
      · exact hnew.all d hd
    · have hvisit : s.visit G depth e = ⟨s.visited ++ [G.node e],
          s.queue ++ [(G.node e,depth + 1)],s.results ++ [(e,depth + 1)]⟩ := by
        rw [Frontier.visit,if_neg he]
      rw [hvisit] at hnew heq
      refine ⟨e :: new,⟨fun d hd => ?_,?_,fun d hd => ?_,fun d hd => ?_⟩,?_⟩
      · rcases List.mem_cons.mp hd with rfl | hd
        · exact List.mem_cons_self
        · exact List.mem_cons_of_mem _ (hnew.subset d hd)
      · refine List.nodup_cons.mpr ⟨fun hmem => ?_,hnew.nodup⟩
        obtain ⟨d,hd,hnode⟩ := List.mem_map.mp hmem
        exact hnew.unvisited d hd (by simp [hnode])
      · rcases List.mem_cons.mp hd with rfl | hd
        · exact he
        · exact fun hmem => hnew.unvisited d hd (List.mem_append_left _ hmem)
      · rcases List.mem_cons.mp hd with rfl | hd
        · simp
        · simpa using hnew.all d hd
      · have hexpand : s.expand G depth (e :: es) = (s.visit G depth e).expand G depth es := rfl
        rw [hexpand,hvisit,heq]
        simp

theorem Layered.expand (h : Layered G x maxDepth s) (hs : s.queue = (z,depth) :: queue)
    (hdepth : ¬maxDepth ≤ depth) :
    Layered G x maxDepth (Frontier.expand G depth { s with queue } (G.edges z)) := by
  obtain ⟨new,hnew,heq⟩ := expand_fresh (G := G) depth { s with queue } (G.edges z)
  have hdist : ∀ e ∈ new, Distance G x (G.node e) (depth + 1) := fun e he =>
    h.fresh_distance hs (hnew.subset e he) (hnew.unvisited e he)
  have hordered := h.ordered
  rw [hs,List.pairwise_cons] at hordered
  have hnarrow : ∀ q ∈ queue, q.2 ≤ depth + 1 := fun q hq =>
    h.narrow (z,depth) (by simp [hs]) q (by simp [hs,hq])
  rw [heq]
  constructor
  · simp [h.visited]
  · refine List.nodup_append.mpr ⟨h.nodup,hnew.nodup,fun a ha b hb hab => ?_⟩
    obtain ⟨e,he,rfl⟩ := List.mem_map.mp hb
    exact hnew.unvisited e he (hab ▸ ha)
  · intro r hr
    rcases List.mem_append.mp hr with hr | hr
    · exact h.found r hr
    · obtain ⟨e,he,rfl⟩ := List.mem_map.mp hr
      exact ⟨hdist e he,by dsimp only; omega⟩
  · intro q hq
    rcases List.mem_append.mp hq with hq | hq
    · exact h.queued q (by rw [hs]; exact List.mem_cons_of_mem _ hq)
    · obtain ⟨e,he,rfl⟩ := List.mem_map.mp hq
      exact ⟨hdist e he,Or.inr (by dsimp only; omega)⟩
  · refine List.pairwise_append.mpr ⟨hordered.2,?_,fun q hq q' hq' => ?_⟩
    · rw [List.pairwise_map]
      exact List.pairwise_of_forall fun _ _ => Nat.le_refl _
    · obtain ⟨e,-,rfl⟩ := List.mem_map.mp hq'
      exact hnarrow q hq
  · have hbetween : ∀ q ∈ queue ++ new.map fun e => (G.node e,depth + 1),
        depth ≤ q.2 ∧ q.2 ≤ depth + 1 := by
      intro q hq
      rcases List.mem_append.mp hq with hq | hq
      · exact ⟨hordered.1 q hq,hnarrow q hq⟩
      · obtain ⟨e,-,rfl⟩ := List.mem_map.mp hq
        exact ⟨Nat.le_succ _,Nat.le_refl _⟩
    intro q hq q' hq'
    have := hbetween q hq
    have := hbetween q' hq'
    omega
  · intro y hy n hn hlt
    rcases List.mem_append.mp hy with hold | hnewNode
    · rcases h.expanded y hold n hn hlt with hmem | hall
      · rcases List.mem_cons.mp (hs ▸ hmem) with hhead | hmem
        · obtain ⟨rfl,-⟩ := Prod.mk.inj hhead
          exact Or.inr hnew.all
        · exact Or.inl (List.mem_append_left _ hmem)
      · exact Or.inr fun e he => List.mem_append_left _ (hall e he)
    · obtain ⟨e,he,rfl⟩ := List.mem_map.mp hnewNode
      obtain rfl := hn.unique (hdist e he)
      exact Or.inl (List.mem_append_right _ (List.mem_map.mpr ⟨e,he,rfl⟩))

theorem search_nil (hs : s.queue = []) : search G maxDepth s = s.results := by
  rw [search]
  split
  · rfl
  · next hcons => simp [hs] at hcons

theorem search_cons (hs : s.queue = (z,depth) :: queue) : search G maxDepth s =
    if maxDepth ≤ depth then search G maxDepth { s with queue }
    else search G maxDepth (Frontier.expand G depth { s with queue } (G.edges z)) := by
  rw [search]
  split
  · next hnil => simp [hs] at hnil
  · next hcons =>
    rw [hs] at hcons
    cases hcons
    rfl

/-- The loop ends with an empty queue. -/
theorem search_layered (h : Layered G x maxDepth s) :
    ∃ s', s'.queue = [] ∧ Layered G x maxDepth s' ∧ search G maxDepth s = s'.results := by
  induction s using search.induct G maxDepth with
  | case1 s hs => exact ⟨s,hs,h,search_nil hs⟩
  | case2 s z depth queue hs hdepth ih =>
    rw [search_cons hs,if_pos hdepth]
    exact ih (h.skip hs hdepth)
  | case3 s z depth queue hs hdepth ih =>
    rw [search_cons hs,if_neg hdepth]
    exact ih (h.expand hs hdepth)

variable (G x maxDepth)

theorem searchFrom_nodup : ((searchFrom G x maxDepth).map fun r => G.node r.1).Nodup := by
  obtain ⟨s,-,h,heq⟩ := search_layered (layered_start G x maxDepth)
  rw [searchFrom,heq]
  have hnodup := h.nodup
  rw [h.visited,List.nodup_cons] at hnodup
  exact hnodup.2

/-- The search finds the nodes other than the start within the greatest depth. -/
theorem mem_searchFrom {y : α} {n : Nat} :
    (∃ r ∈ searchFrom G x maxDepth, G.node r.1 = y ∧ r.2 = n) ↔
      y ≠ x ∧ Distance G x y n ∧ (n : Int) ≤ maxDepth := by
  obtain ⟨s,hempty,h,heq⟩ := search_layered (layered_start G x maxDepth)
  rw [searchFrom,heq]
  have hnodup := h.nodup
  rw [h.visited,List.nodup_cons] at hnodup
  constructor
  · rintro ⟨r,hr,rfl,rfl⟩
    refine ⟨fun hx => hnodup.1 (hx ▸ List.mem_map.mpr ⟨r,hr,rfl⟩),h.found r hr⟩
  · rintro ⟨hne,hdist,hn⟩
    have hy : y ∈ s.visited := h.path_visited hdist.path hn (by simp [hempty])
    rw [h.visited] at hy
    obtain ⟨r,hr,rfl⟩ := List.mem_map.mp (List.mem_of_ne_of_mem hne hy)
    exact ⟨r,hr,rfl,(h.found r hr).1.unique hdist⟩

end Correctness

end BreadthFirst
