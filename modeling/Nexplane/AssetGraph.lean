import Nexplane.Lib.BreadthFirst
import Nexplane.World

set_option autoImplicit false

/-! What an asset depends on and what depends on it, over any number of directed relationships. -/

namespace Nexplane
open BreadthFirst

structure AssetRelationship where
  id : Uuid
  organizationId : Uuid
  sourceAssetId : Uuid
  targetAssetId : Uuid
  relationshipType : String
  deriving DecidableEq, Repr

/-- The rows of the two tables; both ends of a relationship are foreign keys. -/
structure AssetTables where
  assets : List Asset
  relationships : List AssetRelationship
  primaryKey : (assets.map Asset.id).Nodup
  sourceKey : ∀ rel ∈ relationships, rel.sourceAssetId ∈ assets.map Asset.id
  targetKey : ∀ rel ∈ relationships, rel.targetAssetId ∈ assets.map Asset.id

/-- One entry of an answer. -/
structure RelatedAsset where
  id : Uuid
  name : String
  assetType : String
  relationshipType : String
  direction : String
  depth : Nat
  deriving DecidableEq, Repr

namespace AssetTables

variable (t : AssetTables)

/-- The relationships that `query` selects, each joined with the asset that `key` names. -/
def joined (query : AssetRelationship → Bool) (key : AssetRelationship → Uuid) :
    List (AssetRelationship × Asset) :=
  (t.relationships.filter query).flatMap fun rel =>
    (t.assets.filter fun asset => asset.id = key rel).map fun asset => (rel,asset)

/-- The relationships of an organization followed from `source` to `target`. -/
def graph (orgId : Uuid) (source target : AssetRelationship → Uuid) :
    BreadthFirst.Graph Uuid (AssetRelationship × Asset) where
  edges currentId :=
    t.joined (fun rel => rel.organizationId = orgId && source rel = currentId) target
  node row := row.2.id
  nodes := t.assets.map Asset.id
  closed := by
    intro x row hrow
    obtain ⟨rel,-,hrow⟩ := List.mem_flatMap.mp hrow
    obtain ⟨asset,hasset,rfl⟩ := List.mem_map.mp hrow
    exact List.mem_map.mpr ⟨asset,(List.mem_filter.mp hasset).1,rfl⟩

def upstream (orgId : Uuid) : BreadthFirst.Graph Uuid (AssetRelationship × Asset) :=
  t.graph orgId AssetRelationship.sourceAssetId AssetRelationship.targetAssetId

def downstream (orgId : Uuid) : BreadthFirst.Graph Uuid (AssetRelationship × Asset) :=
  t.graph orgId AssetRelationship.targetAssetId AssetRelationship.sourceAssetId

end AssetTables

def relatedAsset (direction : String) (found : (AssetRelationship × Asset) × Nat) : RelatedAsset :=
  ⟨found.1.2.id,found.1.2.name,found.1.2.assetType,found.1.1.relationshipType,direction,found.2⟩

def getUpstream (t : AssetTables) (assetId orgId : Uuid) (maxDepth : Int) : List RelatedAsset :=
  (searchFrom (t.upstream orgId) assetId maxDepth).map (relatedAsset "upstream")

def getDownstream (t : AssetTables) (assetId orgId : Uuid) (maxDepth : Int) :
    List RelatedAsset :=
  (searchFrom (t.downstream orgId) assetId maxDepth).map (relatedAsset "downstream")

/-- A path of relationships of an organization, from source to target. -/
inductive DependencyPath (t : AssetTables) (orgId a : Uuid) : Nat → Uuid → Prop where
  | start : DependencyPath t orgId a 0 a
  | step {n : Nat} {rel : AssetRelationship} (h : DependencyPath t orgId a n rel.sourceAssetId)
      (hrel : rel ∈ t.relationships) (horg : rel.organizationId = orgId) :
      DependencyPath t orgId a (n + 1) rel.targetAssetId

section Answers

variable (t : AssetTables) (orgId : Uuid) {source target : AssetRelationship → Uuid}

theorem mem_joined {query : AssetRelationship → Bool} {key : AssetRelationship → Uuid}
    {row : AssetRelationship × Asset} : row ∈ t.joined query key ↔
      row.1 ∈ t.relationships ∧ query row.1 = true ∧ row.2 ∈ t.assets ∧ row.2.id = key row.1 := by
  obtain ⟨rel,asset⟩ := row
  simp only [AssetTables.joined,List.mem_flatMap,List.mem_filter,List.mem_map,Prod.mk.injEq,
    decide_eq_true_eq]
  constructor
  · rintro ⟨_,⟨hrel,hquery⟩,_,⟨hasset,hid⟩,rfl,rfl⟩
    exact ⟨hrel,hquery,hasset,hid⟩
  · rintro ⟨hrel,hquery,hasset,hid⟩
    exact ⟨rel,⟨hrel,hquery⟩,asset,⟨hasset,hid⟩,rfl,rfl⟩

theorem graph_mirrors (hsource : ∀ rel ∈ t.relationships, source rel ∈ t.assets.map Asset.id) :
    Mirrors (t.graph orgId source target) (t.graph orgId target source) := by
  rintro x ⟨rel,asset⟩ hrow
  obtain ⟨hrel,hquery,-,hid⟩ := (mem_joined t).mp hrow
  obtain ⟨other,hother,hsource⟩ := List.mem_map.mp (hsource rel hrel)
  simp only [Bool.and_eq_true,decide_eq_true_eq] at hquery
  refine ⟨(rel,other),(mem_joined t).mpr ⟨hrel,?_,hother,hsource⟩,hsource.trans hquery.2⟩
  simp only [Bool.and_eq_true,decide_eq_true_eq]
  exact ⟨hquery.1,hid.symm⟩

theorem upstream_mirrors : Mirrors (t.upstream orgId) (t.downstream orgId) :=
  graph_mirrors t orgId t.sourceKey

theorem downstream_mirrors : Mirrors (t.downstream orgId) (t.upstream orgId) :=
  graph_mirrors t orgId t.targetKey

variable (maxDepth : Int) {a b : Uuid} {k : Nat}

theorem mem_getUpstream : (∃ r ∈ getUpstream t a orgId maxDepth, r.id = b ∧ r.depth = k) ↔
    b ≠ a ∧ Distance (t.upstream orgId) a b k ∧ (k : Int) ≤ maxDepth := by
  rw [← mem_searchFrom]
  simp [getUpstream,relatedAsset,AssetTables.upstream,AssetTables.graph]

theorem mem_getDownstream : (∃ r ∈ getDownstream t a orgId maxDepth, r.id = b ∧ r.depth = k) ↔
    b ≠ a ∧ Distance (t.downstream orgId) a b k ∧ (k : Int) ≤ maxDepth := by
  rw [← mem_searchFrom]
  simp [getDownstream,relatedAsset,AssetTables.downstream,AssetTables.graph]

theorem upstream_path {n : Nat} :
    Path (t.upstream orgId) a n b ↔ DependencyPath t orgId a n b := by
  constructor
  · intro h
    induction h with
    | start => exact .start
    | @step n y row h hrow ih =>
      obtain ⟨hrel,hquery,-,hid⟩ := (mem_joined t).mp hrow
      simp only [Bool.and_eq_true,decide_eq_true_eq] at hquery
      obtain ⟨horg,rfl⟩ := hquery
      have hnode : (t.upstream orgId).node row = row.1.targetAssetId := hid
      rw [hnode]
      exact ih.step hrel horg
  · intro h
    induction h with
    | start => exact .start
    | @step n rel h hrel horg ih =>
      obtain ⟨asset,hasset,hid⟩ := List.mem_map.mp (t.targetKey rel hrel)
      have hrow : (rel,asset) ∈ (t.upstream orgId).edges rel.sourceAssetId :=
        (mem_joined t).mpr ⟨hrel,by simp [horg],hasset,hid⟩
      have hnode : (t.upstream orgId).node (rel,asset) = rel.targetAssetId := hid
      exact hnode ▸ ih.step hrow

/-- What is within the greatest depth of an asset, each at its distance, and the other way round. -/
theorem dependencies_exact (a : Uuid) :
    (∀ b, (∃ r ∈ getUpstream t a orgId maxDepth, r.id = b) ↔
      b ≠ a ∧ ∃ n : Nat, 1 ≤ n ∧ (n : Int) ≤ maxDepth ∧ DependencyPath t orgId a n b) ∧
    ((getUpstream t a orgId maxDepth).map RelatedAsset.id).Nodup ∧
    (∀ r ∈ getUpstream t a orgId maxDepth, DependencyPath t orgId a r.depth r.id ∧
      ∀ n, DependencyPath t orgId a n r.id → r.depth ≤ n) ∧
    ∀ b k, (∃ r ∈ getDownstream t a orgId maxDepth, r.id = b ∧ r.depth = k) ↔
      ∃ r ∈ getUpstream t b orgId maxDepth, r.id = a ∧ r.depth = k := by
  refine ⟨fun b => ⟨?_,?_⟩,?_,fun r hr => ?_,fun b k => ?_⟩
  · rintro ⟨r,hr,rfl⟩
    obtain ⟨hne,hdist,hmax⟩ := (mem_getUpstream t orgId maxDepth).mp ⟨r,hr,rfl,rfl⟩
    refine ⟨hne,r.depth,Nat.one_le_iff_ne_zero.mpr fun hzero => ?_,hmax,
      (upstream_path t orgId).mp hdist.path⟩
    rw [hzero] at hdist
    cases hdist.path
    exact hne rfl
  · rintro ⟨hne,n,-,hmax,hpath⟩
    obtain ⟨m,hm,hdist⟩ := ((upstream_path t orgId).mpr hpath).distance
    obtain ⟨r,hr,hid,-⟩ := (mem_getUpstream t orgId maxDepth).mpr ⟨hne,hdist,by omega⟩
    exact ⟨r,hr,hid⟩
  · have hnodup := searchFrom_nodup (t.upstream orgId) a maxDepth
    rw [getUpstream,List.map_map]
    exact hnodup
  · obtain ⟨-,hdist,-⟩ := (mem_getUpstream t orgId maxDepth).mp ⟨r,hr,rfl,rfl⟩
    exact ⟨(upstream_path t orgId).mp hdist.path,fun n hn =>
      hdist.shortest n ((upstream_path t orgId).mpr hn)⟩
  · rw [mem_getDownstream,mem_getUpstream]
    constructor
    · rintro ⟨hne,hdist,hmax⟩
      exact ⟨hne.symm,hdist.reverse (downstream_mirrors t orgId) (upstream_mirrors t orgId),hmax⟩
    · rintro ⟨hne,hdist,hmax⟩
      exact ⟨hne.symm,hdist.reverse (upstream_mirrors t orgId) (downstream_mirrors t orgId),hmax⟩

end Answers

end Nexplane
