import Nexplane.CertificateRotation
import Nexplane.RotationSteps

set_option autoImplicit false

/-! The dependents of a certificate rotation from phase to phase: a phase works on those that lack
its result and loses none of them. -/

namespace Nexplane
open PyValue

variable {ω : Type}

def fieldOf (field : String) : Json → Json
  | .obj d => Dict.getD d field .null
  | _ => .null

def dependentIndex (dep : Json) : Int :=
  match fieldOf "index" dep with
  | .int n => n
  | _ => 0

def indexesOf (dependents : List Json) : List Int := dependents.map dependentIndex

/-- The two results that decide whether a dependent is worked on again. -/
def phaseFields : List String := ["update_result","verify_result"]

/-- A dictionary with something in it. -/
def IsReport (result : Json) : Prop := ∃ d, result = .obj d ∧ d ≠ []

/-- None yet, or a report. -/
def IsPhaseResult (result : Json) : Prop := result = .null ∨ IsReport result

structure IsDependent (dep : Json) : Prop where
  object : ∃ d, dep = .obj d ∧ ∃ n, Dict.get? d "index" = some (.int n)
  result : ∀ field ∈ phaseFields, IsPhaseResult (fieldOf field dep)

/-- The dependents that a phase still has to work on. -/
def pendingOf (field : String) (dependents : List Json) : List Json :=
  dependents.filter fun dep => !(fieldOf field dep).truthy

/-- The dependent with the index has a result in the field. -/
def Marked (field : String) (dependents : List Json) (k : Int) : Prop :=
  ∃ dep ∈ dependents, dependentIndex dep = k ∧ fieldOf field dep ≠ .null

/-- What the work of a phase makes of one dependent. -/
structure Worked (field : String) (dep dep' : Json) : Prop where
  index : dependentIndex dep' = dependentIndex dep
  dependent : IsDependent dep'
  marked : fieldOf field dep' ≠ .null
  others : ∀ other ∈ phaseFields, other ≠ field → fieldOf other dep' = fieldOf other dep

/-- The list after a phase has the indexes of the list before it and keeps every result. -/
structure Advances (dependents dependents' : List Json) : Prop where
  wellFormed : ∀ dep ∈ dependents', IsDependent dep
  indexes : (indexesOf dependents').Perm (indexesOf dependents)
  increasing : (indexesOf dependents).Pairwise (· < ·) → (indexesOf dependents').Pairwise (· < ·)
  marks : ∀ field ∈ phaseFields, ∀ k, Marked field dependents k → Marked field dependents' k

section Fields

variable {dep : Json} {field : String} {d : Dict} {v : Json}

theorem IsPhaseResult.truthy_iff {result : Json} (h : IsPhaseResult result) :
    result.truthy = true ↔ result ≠ .null := by
  rcases h with rfl | ⟨d,rfl,hd⟩
  · simp [Json.truthy]
  · simp [Json.truthy,hd]

theorem IsDependent.get (h : IsDependent dep) (field : String) :
    dep.get field .null = .ok (fieldOf field dep) := by
  obtain ⟨d,rfl,_⟩ := h.object
  rfl

theorem IsDependent.hasField (h : IsDependent dep) (field : String) :
    hasField field dep = .ok (fieldOf field dep).truthy := by
  rw [Nexplane.hasField,h.get]
  rfl

theorem IsDependent.indexOf (h : IsDependent dep) : indexOf dep = .ok (dependentIndex dep) := by
  obtain ⟨d,rfl,n,hn⟩ := h.object
  simp [Nexplane.indexOf,Json.index,hn,dependentIndex,fieldOf,Dict.getD,Checks.ok_bind,
    Checks.pure_def]

theorem fieldOf_set_self : fieldOf field (.obj (Dict.set d field v)) = v := by
  simp [fieldOf,Dict.getD]

theorem fieldOf_set_of_ne {other : String} (h : other ≠ field) :
    fieldOf other (.obj (Dict.set d field v)) = fieldOf other (.obj d) := by
  simp [fieldOf,Dict.getD,Dict.get?_set_of_ne h]

/-- Setting another field than the index leaves a dependent one. -/
theorem IsDependent.set (h : IsDependent (.obj d)) (hfield : field ≠ "index")
    (hv : field ∈ phaseFields → IsPhaseResult v) : IsDependent (.obj (Dict.set d field v)) where
  object := by
    obtain ⟨d',hd,n,hn⟩ := h.object
    obtain rfl := Json.obj.inj hd
    exact ⟨_,rfl,n,by rw [Dict.get?_set_of_ne (Ne.symm hfield),hn]⟩
  result := by
    intro other hother
    by_cases hsame : other = field
    · subst hsame
      rw [fieldOf_set_self]
      exact hv hother
    · rw [fieldOf_set_of_ne hsame]
      exact h.result other hother

theorem dependentIndex_set (hfield : field ≠ "index") :
    dependentIndex (.obj (Dict.set d field v)) = dependentIndex (.obj d) := by
  rw [dependentIndex,fieldOf_set_of_ne (Ne.symm hfield)]
  rfl

theorem IsDependent.worked (h : IsDependent (.obj d)) (hfield : field ∈ phaseFields)
    (hv : IsReport v) : Worked field (.obj d) (.obj (Dict.set d field v)) := by
  have hne : field ≠ "index" := by
    rintro rfl
    simp [phaseFields] at hfield
  refine ⟨dependentIndex_set hne,h.set hne fun _ => Or.inr hv,?_,fun other _ hother =>
    fieldOf_set_of_ne hother⟩
  obtain ⟨result,rfl,_⟩ := hv
  rw [fieldOf_set_self]
  simp

end Fields

section Merge

variable {existing newItems dependents : List Json}

theorem putIndexed_of_fresh {merged : List (Int × Json)} {n : Int} {dep : Json}
    (h : n ∉ merged.map Prod.fst) : putIndexed merged n dep = merged ++ [(n,dep)] := by
  induction merged with
  | nil => rfl
  | cons e merged ih =>
    obtain ⟨m,d⟩ := e
    have hm : m ≠ n := by
      rintro rfl
      simp at h
    have hrest : n ∉ merged.map Prod.fst := fun hn => h (by simp [hn])
    simp [putIndexed,hm,ih hrest]

theorem foldl_putIndexed {entries merged : List (Int × Json)}
    (h : ((merged ++ entries).map Prod.fst).Nodup) :
    entries.foldl (fun m e => putIndexed m e.1 e.2) merged = merged ++ entries := by
  induction entries generalizing merged with
  | nil => simp
  | cons e entries ih =>
    have hfresh : e.1 ∉ merged.map Prod.fst := by
      intro he
      rw [List.map_append,List.map_cons] at h
      exact (List.disjoint_of_nodup_append h) he List.mem_cons_self
    rw [List.foldl_cons,putIndexed_of_fresh hfresh,ih (by simpa using h),List.append_assoc]
    rfl

/-- Dependents with distinct indexes are merged into one list in the order of their indexes. -/
theorem mergeByIndex_ok (h : ∀ dep ∈ existing ++ newItems, IsDependent dep)
    (hnodup : (indexesOf (existing ++ newItems)).Nodup) :
    ∃ merged, mergeByIndex existing newItems = .ok merged ∧
      merged.Perm (existing ++ newItems) ∧ (indexesOf merged).Pairwise (· < ·) := by
  generalize hall : existing ++ newItems = all at h hnodup
  have hentries : (all.mapM fun dep => do let n ← indexOf dep; pure (n,dep)) =
      (.ok (all.map fun dep => (dependentIndex dep,dep)) : Except Exc (List (Int × Json))) := by
    refine Checks.mapM_eq_ok fun dep hdep => ?_
    rw [(h dep hdep).indexOf]
    rfl
  generalize hkeyed : (all.map fun dep => (dependentIndex dep,dep)) = keyed at hentries
  have hfst : keyed.map Prod.fst = indexesOf all := by simp [← hkeyed,indexesOf,Function.comp_def]
  have hsnd : keyed.map Prod.snd = all := by simp [← hkeyed,Function.comp_def]
  have hkey : ∀ e ∈ keyed, dependentIndex e.2 = e.1 := by
    intro e he
    rw [← hkeyed] at he
    obtain ⟨dep,_,rfl⟩ := List.mem_map.mp he
    rfl
  have hfold : keyed.foldl (fun m e => putIndexed m e.1 e.2) [] = keyed :=
    foldl_putIndexed (by simpa [hfst] using hnodup)
  have hperm : (keyed.mergeSort fun a b => a.1 ≤ b.1).Perm keyed := List.mergeSort_perm keyed _
  have hsorted : (keyed.mergeSort fun a b => a.1 ≤ b.1).Pairwise fun a b => a.1 ≤ b.1 := by
    have hpairs : (keyed.mergeSort fun a b => a.1 ≤ b.1).Pairwise fun a b =>
        decide (a.1 ≤ b.1) = true :=
      List.pairwise_mergeSort (fun a b c hab hbc => by simp only [decide_eq_true_eq] at *; omega)
        (fun a b => by simp only [Bool.or_eq_true,decide_eq_true_eq]; omega) keyed
    simpa using hpairs
  generalize hs : (keyed.mergeSort fun a b => a.1 ≤ b.1) = sorted at hperm hsorted
  have hindexes : indexesOf (sorted.map Prod.snd) = sorted.map Prod.fst := by
    rw [indexesOf,List.map_map]
    exact List.map_congr_left fun e he => hkey e (hperm.mem_iff.mp he)
  refine ⟨sorted.map Prod.snd,?_,?_,?_⟩
  · rw [mergeByIndex,hall,hentries,Checks.ok_bind,hfold]
    dsimp only
    rw [hs]
    rfl
  · rw [← hsnd]
    exact hperm.map _
  · have hdistinct : (sorted.map Prod.fst).Nodup := by
      rw [(hperm.map Prod.fst).nodup_iff,hfst]
      exact hnodup
    have hle : (sorted.map Prod.fst).Pairwise (· ≤ ·) := List.pairwise_map.mpr hsorted
    rw [hindexes]
    exact (hle.and hdistinct).imp fun ⟨hab,hne⟩ => by omega

end Merge

/-- The newest run is the only one that may be active, and it lists these dependents. -/
def World.ListsDependents (w : World ω) (i : Nat) (dependents : List Json) : Prop :=
  ∃ earlier r, w.runs = earlier ++ [r] ∧ earlier.length = i ∧
    (∀ r' ∈ earlier, isActiveRun r' = false) ∧
    Dict.getD r.result "dependents" (.arr []) = .arr dependents

section Stored

variable {w : World ω} {i : Nat} {dependents dependents' : List Json}

theorem World.ListsDependents.current (h : w.ListsDependents i dependents) :
    currentRun w.runs = some i ∧
      Dict.getD (w.runResult (some i)) "dependents" (.arr []) = .arr dependents := by
  obtain ⟨earlier,r,hw,rfl,hearlier,hlist⟩ := h
  constructor
  · rw [currentRun,hw]
    by_cases hr : isActiveRun r = true
    · rw [latestRun_concat hr]
      rfl
    · have hnone : latestRun isActiveRun (earlier ++ [r]) = none := by
        refine latestRun_eq_none.mpr fun r' hr' => ?_
        simp only [List.mem_append,List.mem_singleton] at hr'
        rcases hr' with hr' | rfl
        · exact hearlier r' hr'
        · simpa using hr
      rw [hnone,latestRun_concat rfl]
      rfl
  · simpa [World.runResult,World.run?,hw] using hlist

theorem World.ListsDependents.setRun (h : w.ListsDependents i dependents)
    {f : ExecutionRun → ExecutionRun}
    (hf : ∀ r, Dict.getD (f r).result "dependents" (.arr []) = .arr dependents') :
    (w.setRun i f).ListsDependents i dependents' := by
  obtain ⟨earlier,r,hw,rfl,hearlier,_⟩ := h
  exact ⟨earlier,f r,by simp [World.setRun,hw,modify_concat],rfl,hearlier,hf r⟩

theorem World.ListsDependents.of_runs {v : World ω} (h : w.ListsDependents i dependents)
    (hv : v.runs = w.runs) : v.ListsDependents i dependents := by
  obtain ⟨earlier,r,hw,hrest⟩ := h
  exact ⟨earlier,r,hv.trans hw,hrest⟩

theorem persistRun_lists (phase : String) (dependents' : List Json) (rotation : Json)
    (h : w.ListsDependents i dependents) : ∃ v,
    persistRun (some i) (phaseState phase dependents' rotation) w = (.ok (),v) ∧
      v.ListsDependents i dependents' :=
  ⟨_,rfl,h.setRun fun _ => rfl⟩

theorem onOutside_lists {α : Type} (x : Py ω α) (h : w.ListsDependents i dependents) :
    (onOutside x w).2.ListsDependents i dependents := h.of_runs rfl

end Stored

section Phase

variable {field : String} {dependents dependents' : List Json} {work : Json → Py ω Json}

theorem Advances.refl (h : ∀ dep ∈ dependents, IsDependent dep) :
    Advances dependents dependents := ⟨h,.refl _,id,fun _ _ _ => id⟩

/-- The dependents that a phase has worked on, put back among those that had their result. -/
theorem merge_worked {already pending worked : List Json}
    (hdep : ∀ dep ∈ dependents, IsDependent dep) (hnodup : (indexesOf dependents).Nodup)
    (hparts : (already ++ pending).Perm dependents)
    (halready : ∀ dep ∈ already, fieldOf field dep ≠ .null)
    (hworked : List.Forall₂ (Worked field) pending worked) :
    ∃ merged, mergeByIndex already worked = .ok merged ∧ Advances dependents merged ∧
      (∀ dep ∈ merged, fieldOf field dep ≠ .null) ∧
      ∀ dep' ∈ merged, dep' ∈ dependents ∨ ∃ dep ∈ dependents, Worked field dep dep' := by
  have hback := Lists.forall₂_mem_right hworked
  have hforth := Lists.forall₂_mem_left hworked
  have hold : ∀ dep ∈ already, dep ∈ dependents := fun dep h =>
    hparts.mem_iff.mp (List.mem_append_left _ h)
  have hsub : ∀ dep ∈ pending, dep ∈ dependents := fun dep h =>
    hparts.mem_iff.mp (List.mem_append_right _ h)
  have hindexes : (indexesOf (already ++ worked)).Perm (indexesOf dependents) := by
    rw [indexesOf,List.map_append,Lists.forall₂_map_eq hworked fun _ _ h => h.index,
      ← List.map_append]
    exact hparts.map _
  have hall : ∀ dep ∈ already ++ worked, IsDependent dep := by
    intro dep h
    rcases List.mem_append.mp h with h | h
    · exact hdep dep (hold dep h)
    · obtain ⟨_,_,hw⟩ := hback dep h
      exact hw.dependent
  obtain ⟨merged,hmerge,hperm,hincreasing⟩ :=
    mergeByIndex_ok hall (hindexes.nodup_iff.mpr hnodup)
  have hmem : ∀ dep, dep ∈ merged ↔ dep ∈ already ∨ dep ∈ worked := fun dep => by
    rw [hperm.mem_iff,List.mem_append]
  refine ⟨merged,hmerge,⟨fun dep h => hall dep (hperm.mem_iff.mp h),
    (hperm.map dependentIndex).trans hindexes,fun _ => hincreasing,?_⟩,fun dep h => ?_,
    fun dep h => ?_⟩
  · -- A dependent that was worked on keeps the result of the other phase.
    rintro other hother k ⟨dep,hmemDep,hk,hresult⟩
    rcases List.mem_append.mp (hparts.mem_iff.mpr hmemDep) with h | h
    · exact ⟨dep,(hmem dep).mpr (Or.inl h),hk,hresult⟩
    · obtain ⟨dep',hdep',hworked'⟩ := hforth dep h
      refine ⟨dep',(hmem dep').mpr (Or.inr hdep'),hworked'.index.trans hk,?_⟩
      by_cases hsame : other = field
      · exact hsame ▸ hworked'.marked
      · rwa [hworked'.others other hother hsame]
  · rcases (hmem dep).mp h with h | h
    · exact halready dep h
    · obtain ⟨_,_,hworked'⟩ := hback dep h
      exact hworked'.marked
  · rcases (hmem dep).mp h with h | h
    · exact Or.inl (hold dep h)
    · obtain ⟨dep₀,h₀,hworked'⟩ := hback dep h
      exact Or.inr ⟨dep₀,hsub dep₀ h₀,hworked'⟩

/-- A phase returns; afterwards every dependent has its result, and the run lists what it
returned. -/
theorem completePhase_lists {w : World ω} {i : Nat} (phase : String) (rotation : Json)
    (hfield : field ∈ phaseFields) (hdep : ∀ dep ∈ dependents, IsDependent dep)
    (hnodup : (indexesOf dependents).Nodup) (hw : w.ListsDependents i dependents)
    (hwork : ∀ dep ∈ dependents, ∀ o, ∃ dep' o', work dep o = (.ok dep',o') ∧
      Worked field dep dep') :
    ∃ dependents' w', completePhase (some i) field phase rotation work dependents w =
        (.ok dependents',w') ∧ w'.ListsDependents i dependents' ∧ Advances dependents dependents' ∧
      (∀ dep ∈ dependents', fieldOf field dep ≠ .null) ∧
      ∀ dep' ∈ dependents', dep' ∈ dependents ∨ ∃ dep ∈ dependents, Worked field dep dep' := by
  have htruthy : ∀ dep ∈ dependents, ((fieldOf field dep).truthy = true ↔
      fieldOf field dep ≠ .null) := fun dep h => ((hdep dep h).result field hfield).truthy_iff
  have halready : dependents.filterM (hasField field) =
      .ok (dependents.filter fun dep => (fieldOf field dep).truthy) :=
    Checks.filterM_eq_ok fun dep h => (hdep dep h).hasField field
  have hpending : (dependents.filterM fun dep => do
      let has ← hasField field dep
      pure !has) = (.ok (pendingOf field dependents) : Except Exc (List Json)) :=
    Checks.filterM_eq_ok fun dep h => by rw [(hdep dep h).hasField field]; rfl
  rw [completePhase,halready,hpending]
  simp only [Py.ofExcept_ok_bind]
  by_cases hempty : pendingOf field dependents = []
  · refine ⟨dependents,w,by simp [hempty],hw,.refl hdep,fun dep h => ?_,fun dep h => Or.inl h⟩
    have hnone := List.filter_eq_nil_iff.mp hempty dep h
    exact (htruthy dep h).mp (by simpa using hnone)
  · have hsub : ∀ dep ∈ pendingOf field dependents, dep ∈ dependents := fun dep h =>
      (List.mem_filter.mp h).1
    obtain ⟨worked,o,heach,hworked⟩ :=
      Py.each_related (fun dep h => hwork dep (hsub dep h)) w.site.outside
    have hparts : ((dependents.filter fun dep => (fieldOf field dep).truthy) ++
        pendingOf field dependents).Perm dependents := List.filter_append_perm _ _
    obtain ⟨merged,hmerge,hadvances,hmarked,hfrom⟩ := merge_worked hdep hnodup hparts
      (fun dep h => (htruthy dep (List.mem_filter.mp h).1).mp (List.mem_filter.mp h).2) hworked
    have hout : onOutside (Py.each work (pendingOf field dependents)) w =
        (.ok worked,{ w with site := { w.site with outside := o } }) := by
      simp [onOutside,onSite,outside,heach]
    have hsite := onOutside_lists (Py.each work (pendingOf field dependents)) hw
    rw [hout] at hsite
    obtain ⟨v,hv,hlists⟩ := persistRun_lists phase merged rotation hsite
    refine ⟨merged,v,?_,hlists,hadvances,hmarked,hfrom⟩
    rw [if_neg (by simpa using hempty),Py.bind_ok hout,hmerge,Py.ofExcept_ok_bind,Py.bind_ok hv]
    rfl

/-- A phase works on no other dependents than the pending ones. -/
theorem completePhase_pending {work' : Json → Py ω Json} (run : Option Nat) (phase : String)
    (rotation : Json) (hdep : ∀ dep ∈ dependents, IsDependent dep)
    (hsame : ∀ dep ∈ pendingOf field dependents, work dep = work' dep) :
    completePhase run field phase rotation work dependents =
      completePhase run field phase rotation work' dependents := by
  have hpending : (dependents.filterM fun dep => do
      let has ← hasField field dep
      pure !has) = (.ok (pendingOf field dependents) : Except Exc (List Json)) :=
    Checks.filterM_eq_ok fun dep h => by rw [(hdep dep h).hasField field]; rfl
  have heach : Py.each work (pendingOf field dependents) =
      Py.each work' (pendingOf field dependents) := by
    generalize pendingOf field dependents = pending at hsame
    induction pending with
    | nil => rfl
    | cons dep pending ih =>
      rw [Py.each,Py.each,hsame dep (by simp),ih fun d hd => hsame d (by simp [hd])]
  rw [completePhase,completePhase,hpending]
  funext w
  cases dependents.filterM (hasField field) with
  | error e => rfl
  | ok already =>
    simp only [Py.ofExcept_ok_bind,heach]

end Phase

/-- The executors that push a certificate to a dependent. -/
def updateExecutors : List (String × String) :=
  [("nexplane_agent","manage_tls_certificates"),("step_ca","rotate_certificate"),
    ("aws","rotate_secrets_manager_secret")]

/-- Each of these executors returns a dictionary literal with several entries, or raises. -/
def UpdatesReport (env : Env ω) : Prop :=
  ∀ executor ∈ updateExecutors, ∀ module, env.getExecutor executor.1 executor.2 = .ok module →
    ∀ parameters assetIds connector o result o',
      module.execute parameters assetIds connector o = (.ok result,o') → IsReport result

section Work

variable {env : Env ω} {connectors : List Connector} {rotation : Json} {d : Dict} {o o' : ω}
  {result : Json}

theorem runExecutor_report (henv : UpdatesReport env) {connectorType actionId : String}
    (hexecutor : (connectorType,actionId) ∈ updateExecutors) {parameters : Dict}
    {assetIds : List String} {connector : Option Connector}
    (h : runExecutor env connectorType actionId parameters assetIds connector o = (.ok result,o')) :
    IsReport result := by
  obtain ⟨module,hmodule,h⟩ := Py.ofExcept_bind_eq_ok.mp h
  exact henv _ hexecutor module hmodule _ _ _ _ _ _ h

theorem pushCertificate_report (henv : UpdatesReport env)
    (h : pushCertificate env connectors rotation d o = (.ok result,o')) : IsReport result := by
  obtain ⟨connectorType,_,h⟩ := Py.ofExcept_bind_eq_ok.mp h
  obtain ⟨connector,_,h⟩ := Py.ofExcept_bind_eq_ok.mp h
  obtain ⟨kind,_,h⟩ := Py.ofExcept_bind_eq_ok.mp h
  split at h
  · split at h
    · obtain ⟨certPem,_,h⟩ := Py.ofExcept_bind_eq_ok.mp h
      obtain ⟨keyPem,_,h⟩ := Py.ofExcept_bind_eq_ok.mp h
      exact runExecutor_report henv (by simp [updateExecutors]) h
    · obtain ⟨subject,_,h⟩ := Py.ofExcept_bind_eq_ok.mp h
      exact runExecutor_report henv (by simp [updateExecutors]) h
  split at h
  · obtain ⟨client,_,h⟩ := Py.ofExcept_bind_eq_ok.mp h
    split at h
    · obtain ⟨certPem,_,h⟩ := Py.ofExcept_bind_eq_ok.mp h
      obtain ⟨keyPem,_,h⟩ := Py.ofExcept_bind_eq_ok.mp h
      obtain ⟨name,_,h⟩ := Py.ofExcept_bind_eq_ok.mp h
      obtain ⟨_,_,_,h⟩ := Py.bind_eq_ok.mp h
      obtain ⟨rfl,_⟩ : _ = result ∧ _ = o' := by simpa using h
      exact ⟨_,rfl,by simp⟩
    · obtain ⟨rfl,_⟩ : _ = result ∧ _ = o' := by simpa using h
      exact ⟨_,rfl,by simp⟩
  split at h
  · obtain ⟨secretId,_,h⟩ := Py.ofExcept_bind_eq_ok.mp h
    obtain ⟨certPem,_,h⟩ := Py.ofExcept_bind_eq_ok.mp h
    exact runExecutor_report henv (by simp [updateExecutors]) h
  · obtain ⟨rfl,_⟩ : _ = result ∧ _ = o' := by simpa using h
    exact ⟨_,rfl,by simp⟩

theorem verifyStored_report {stored mismatch : String}
    (h : verifyStored rotation stored mismatch = .ok result) : IsReport result := by
  obtain ⟨certPem,_,h⟩ := Checks.bind_eq_ok.mp h
  split at h <;> obtain rfl := Checks.pure_eq_ok.mp h <;> exact ⟨_,rfl,by simp⟩

theorem probeDependent_report
    (h : probeDependent env connectors rotation d o = (.ok result,o')) : IsReport result := by
  have hpure : ∀ v : Json, IsReport v → ∀ u : ω, (pure v : Py ω Json) u = (.ok result,o') →
      IsReport result := by
    intro v hv u hu
    obtain ⟨rfl,_⟩ : v = result ∧ u = o' := by simpa using hu
    exact hv
  have hok : ∀ v, IsReport (verifyOk v) := fun v => ⟨_,rfl,by simp⟩
  have hfailed : ∀ v e, IsReport (verifyFailed v e) := fun v e => ⟨_,rfl,by simp⟩
  obtain ⟨kind,_,h⟩ := Py.ofExcept_bind_eq_ok.mp h
  split at h
  · obtain ⟨host,_,h⟩ := Py.ofExcept_bind_eq_ok.mp h
    rw [Py.get_bind] at h
    generalize (env.certificate.tlsProbePem host (Dict.getD d "port" (.int 443)) o).filter
      (· ≠ "") = probed at h
    cases probed with
    | none => exact hpure _ (hfailed _ _) _ h
    | some pem =>
      obtain ⟨expected,_,h⟩ := Py.ofExcept_bind_eq_ok.mp h
      split at h
      · exact hpure _ (hok _) _ h
      · exact hpure _ (hfailed _ _) _ h
  split at h
  · obtain ⟨connectorType,_,h⟩ := Py.ofExcept_bind_eq_ok.mp h
    obtain ⟨connector,_,h⟩ := Py.ofExcept_bind_eq_ok.mp h
    split at h
    · exact hpure _ (hfailed _ _) _ h
    · obtain ⟨client,_,h⟩ := Py.ofExcept_bind_eq_ok.mp h
      split at h
      · obtain ⟨name,_,h⟩ := Py.ofExcept_bind_eq_ok.mp h
        obtain ⟨data,_,_,h⟩ := Py.bind_eq_ok.mp h
        obtain ⟨stored,_,h⟩ := Py.ofExcept_bind_eq_ok.mp h
        obtain ⟨hv,_⟩ := Prod.mk.inj h
        exact verifyStored_report hv
      · exact hpure _ (hfailed _ _) _ h
  split at h
  · obtain ⟨connectorType,_,h⟩ := Py.ofExcept_bind_eq_ok.mp h
    obtain ⟨connector,_,h⟩ := Py.ofExcept_bind_eq_ok.mp h
    obtain ⟨secretId,_,h⟩ := Py.ofExcept_bind_eq_ok.mp h
    obtain ⟨answer,_,_,h⟩ := Py.bind_eq_ok.mp h
    obtain ⟨stored,_,h⟩ := Py.ofExcept_bind_eq_ok.mp h
    obtain ⟨hv,_⟩ := Prod.mk.inj h
    exact verifyStored_report hv
  · exact hpure _ (hfailed _ _) _ h

/-- Work whose outcome becomes a result of the dependent always returns. -/
theorem reported_worked {field : String} (hfield : field ∈ phaseFields) {dep : Json}
    (hdep : IsDependent dep) {push : Dict → Py ω Json} {handler : Exc → Json}
    (hpush : ∀ d o result o', push d o = (.ok result,o') → IsReport result)
    (hhandler : ∀ e, IsReport (handler e)) (o : ω) :
    ∃ dep' o', (do
        let dep ← Py.ofExcept dep.mapping
        let result ← Py.tryExcept (push dep) fun e => pure (handler e)
        pure (Json.obj (dep.set field result)) : Py ω Json) o = (.ok dep',o') ∧
      Worked field dep dep' := by
  obtain ⟨d,rfl,_⟩ := hdep.object
  rcases hrun : push d o with ⟨outcome,o₁⟩
  cases outcome with
  | ok result =>
    refine ⟨_,o₁,?_,hdep.worked hfield (hpush d o result o₁ hrun)⟩
    rw [Json.mapping_obj,Py.ofExcept_ok_bind,Py.bind_ok (Py.tryExcept_ok hrun _)]
    rfl
  | error e =>
    refine ⟨_,o₁,?_,hdep.worked hfield (hhandler e)⟩
    rw [Json.mapping_obj,Py.ofExcept_ok_bind,Py.bind_ok ((Py.tryExcept_error hrun _).trans rfl)]
    rfl

/-- What a snapshot leaves of a dependent. -/
structure Untouched (dep dep' : Json) : Prop where
  index : dependentIndex dep' = dependentIndex dep
  dependent : IsDependent dep'
  results : ∀ field ∈ phaseFields, fieldOf field dep' = fieldOf field dep

theorem IsDependent.untouched {field : String} (h : IsDependent (.obj d))
    (hfield : field ∈ ["snapshot","snapshot_fingerprint"]) (v : Json) :
    Untouched (.obj d) (.obj (Dict.set d field v)) := by
  have hne : field ≠ "index" ∧ field ∉ phaseFields := by
    simp only [List.mem_cons,List.not_mem_nil,or_false] at hfield
    rcases hfield with rfl | rfl <;> simp [phaseFields]
  exact ⟨dependentIndex_set hne.1,h.set hne.1 fun hf => absurd hf hne.2,fun other hother =>
    fieldOf_set_of_ne fun he => hne.2 (he ▸ hother)⟩

theorem Untouched.trans {dep dep' dep'' : Json} (h : Untouched dep dep')
    (h' : Untouched dep' dep'') : Untouched dep dep'' :=
  ⟨h'.index.trans h.index,h'.dependent,fun field hf => (h'.results field hf).trans
    (h.results field hf)⟩

theorem takeSnapshot_untouched {organizationId : Uuid} {d' : Dict} (hdep : IsDependent (.obj d))
    (h : takeSnapshot env connectors organizationId d o = (.ok d',o')) :
    Untouched (.obj d) (.obj d') := by
  have hset : ∀ v : Json, ∀ u : ω,
      (pure (Dict.set d "snapshot" v) : Py ω Dict) u = (.ok d',o') →
      Untouched (.obj d) (.obj d') := by
    intro v u hu
    obtain ⟨rfl,_⟩ : Dict.set d "snapshot" v = d' ∧ u = o' := by simpa using hu
    exact hdep.untouched (by simp) v
  obtain ⟨kind,_,h⟩ := Py.ofExcept_bind_eq_ok.mp h
  split at h
  · obtain ⟨host,_,h⟩ := Py.ofExcept_bind_eq_ok.mp h
    rw [Py.get_bind] at h
    generalize (env.certificate.tlsProbePem host (Dict.getD d "port" (.int 443)) o).filter
      (· ≠ "") = probed at h
    cases probed with
    | none => exact hset _ _ h
    | some pem =>
      obtain ⟨rfl,_⟩ : _ = d' ∧ o = o' := by simpa using h
      have hfirst := hdep.untouched (show "snapshot" ∈ _ by simp) (.str pem)
      exact hfirst.trans (hfirst.dependent.untouched (by simp) _)
  split at h
  · obtain ⟨connectorType,_,h⟩ := Py.ofExcept_bind_eq_ok.mp h
    obtain ⟨connector,_,h⟩ := Py.ofExcept_bind_eq_ok.mp h
    split at h
    · exact hset _ _ h
    · obtain ⟨client,_,h⟩ := Py.ofExcept_bind_eq_ok.mp h
      split at h
      · obtain ⟨name,_,h⟩ := Py.ofExcept_bind_eq_ok.mp h
        obtain ⟨data,_,_,h⟩ := Py.bind_eq_ok.mp h
        exact hset _ _ h
      · exact hset _ _ h
  split at h
  · obtain ⟨connectorType,_,h⟩ := Py.ofExcept_bind_eq_ok.mp h
    obtain ⟨connector,_,h⟩ := Py.ofExcept_bind_eq_ok.mp h
    split at h
    · exact hset _ _ h
    · obtain ⟨secretId,_,h⟩ := Py.ofExcept_bind_eq_ok.mp h
      obtain ⟨answer,_,_,h⟩ := Py.bind_eq_ok.mp h
      obtain ⟨snapshot,_,h⟩ := Py.ofExcept_bind_eq_ok.mp h
      exact hset _ _ h
  · obtain ⟨rfl,_⟩ : d = d' ∧ o = o' := by simpa using h
    exact ⟨rfl,hdep,fun _ _ => rfl⟩

theorem snapshotDependent_untouched (env : Env ω) (connectors : List Connector)
    (organizationId : Uuid) {dep : Json} (hdep : IsDependent dep)
    (o : ω) : ∃ dep' o', snapshotDependent env connectors organizationId dep o = (.ok dep',o') ∧
      Untouched dep dep' := by
  obtain ⟨d,rfl,_⟩ := hdep.object
  rcases hrun : takeSnapshot env connectors organizationId d o with ⟨outcome,o₁⟩
  cases outcome with
  | ok d' =>
    refine ⟨_,o₁,?_,takeSnapshot_untouched hdep hrun⟩
    rw [snapshotDependent,Json.mapping_obj,Py.ofExcept_ok_bind,Py.bind_ok (Py.tryExcept_ok hrun _)]
    rfl
  | error e =>
    refine ⟨_,o₁,?_,hdep.untouched (show "snapshot" ∈ _ by simp) .null⟩
    rw [snapshotDependent,Json.mapping_obj,Py.ofExcept_ok_bind,
      Py.bind_ok ((Py.tryExcept_error hrun _).trans rfl)]
    rfl

def missesSnapshot (dep : Json) : Bool := fieldOf "snapshot" dep matches .null

/-- The snapshot phase returns a list that differs in the snapshots only. -/
theorem snapshotOnce_lists (env : Env ω) (connectors : List Connector) (cr : ChangeRequest)
    {w : World ω} {i : Nat} {dependents : List Json}
    (hdep : ∀ dep ∈ dependents, IsDependent dep) (hw : w.ListsDependents i dependents) :
    ∃ dependents' w', snapshotOnce env cr connectors (some i) rotation dependents w =
        (.ok dependents',w') ∧ w'.ListsDependents i dependents' ∧
      Advances dependents dependents' := by
  have hlacking : dependents.mapM lacksSnapshot = .ok (dependents.map missesSnapshot) :=
    Checks.mapM_eq_ok fun dep h => by rw [lacksSnapshot,(hdep dep h).get]; rfl
  rw [snapshotOnce,hlacking,Py.ofExcept_ok_bind]
  split
  · obtain ⟨dependents',o,heach,hall⟩ := Py.each_related (fun dep h =>
      snapshotDependent_untouched env connectors cr.organizationId (hdep dep h)) w.site.outside
    have hout : onOutside (Py.each (snapshotDependent env connectors cr.organizationId)
        dependents) w = (.ok dependents',{ w with site := { w.site with outside := o } }) := by
      simp [onOutside,onSite,outside,heach]
    have hsite := onOutside_lists (Py.each (snapshotDependent env connectors cr.organizationId)
      dependents) hw
    rw [hout] at hsite
    obtain ⟨v,hv,hlists⟩ := persistRun_lists "snapshot" dependents' rotation hsite
    have hindexes : indexesOf dependents' = indexesOf dependents :=
      Lists.forall₂_map_eq hall fun _ _ h => h.index
    refine ⟨dependents',v,by rw [Py.bind_ok hout,Py.bind_ok hv]; rfl,hlists,fun dep h => ?_,
      .of_eq hindexes,fun h => hindexes ▸ h,?_⟩
    · obtain ⟨_,_,hu⟩ := Lists.forall₂_mem_right hall dep h
      exact hu.dependent
    · rintro field hfield k ⟨dep,hmem,hk,hresult⟩
      obtain ⟨dep',hmem',hu⟩ := Lists.forall₂_mem_left hall dep hmem
      exact ⟨dep',hmem',hu.index.trans hk,by rwa [hu.results field hfield]⟩
  · exact ⟨dependents,w,rfl,hw,.refl hdep⟩

theorem updateDependent_worked (henv : UpdatesReport env) (connectors : List Connector)
    (rotation : Json) {dep : Json} (hdep : IsDependent dep) (o : ω) :
    ∃ dep' o', updateDependent env connectors rotation dep o = (.ok dep',o') ∧
      Worked "update_result" dep dep' :=
  reported_worked (by simp [phaseFields]) hdep
    (fun _ _ _ _ h => pushCertificate_report henv h) (fun _ => ⟨_,rfl,by simp⟩) o

theorem verifyDependent_worked (env : Env ω) (connectors : List Connector) (rotation : Json)
    {dep : Json} (hdep : IsDependent dep) (o : ω) :
    ∃ dep' o', verifyDependent env connectors rotation dep o = (.ok dep',o') ∧
      Worked "verify_result" dep dep' :=
  reported_worked (by simp [phaseFields]) hdep
    (fun _ _ _ _ h => probeDependent_report h) (fun _ => ⟨_,rfl,by simp⟩) o

end Work

end Nexplane
