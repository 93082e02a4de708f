import Nexplane.CredentialFanout

set_option autoImplicit false

/-! The execution run of a credential fan-out: one that was running already, or one that the
executor starts itself and completes with the result it returns. -/

namespace Nexplane
open PyValue

variable {ω : Type}

section Runs

variable {env : Env ω} {cr : ChangeRequest} {connectors : List Connector} {i : Nat}
  {w w' : World ω} {rotation newValue searchTerms scanScope : Json} {consumers : List Json}
  {run : Option Nat} {rs : List ExecutionRun}

theorem buildFanoutResult_paused {phase : Json} {paused : Bool} {d : Dict}
    (h : buildFanoutResult consumers rotation phase paused = .ok d) :
    (Json.obj d).flag "paused" = paused := by
  obtain ⟨warns,_,hd⟩ := Checks.bind_eq_ok.mp h
  obtain rfl := Except.ok.inj hd
  rfl

/-- How the run that the executor works on and the list of runs develop from `rs`, where it found
a run or none: a found run stays, and without one the executor starts its own behind `rs`. -/
inductive FanoutRun (rs : List ExecutionRun) :
    Option Nat → Option Nat → List ExecutionRun → Prop
  | found (i : Nat) (runs : List ExecutionRun) (h : runs.length = rs.length) :
      FanoutRun rs (some i) (some i) runs
  | unstarted : FanoutRun rs none none rs
  | started (r : ExecutionRun) : FanoutRun rs none (some rs.length) (rs ++ [r])

theorem FanoutRun.set {start : Option Nat} {runs : List ExecutionRun}
    (h : FanoutRun rs start (some i) runs) (f : ExecutionRun → ExecutionRun) :
    FanoutRun rs start (some i) (runs.modify i f) := by
  cases h with
  | found _ _ h => exact .found i _ (by simpa using h)
  | started r => simpa [modify_concat] using FanoutRun.started (f r)

theorem persistFanout_run {start : Option Nat} {result : Dict}
    (hp : persistFanout cr run result w = (.ok i,w')) (h : FanoutRun rs start run w.runs) :
    FanoutRun rs start (some i) w'.runs := by
  cases run with
  | some j =>
    obtain ⟨hi,rfl⟩ := Prod.mk.inj hp
    obtain rfl := Except.ok.inj hi
    exact h.set _
  | none =>
    obtain ⟨hi,rfl⟩ := Prod.mk.inj hp
    obtain rfl := Except.ok.inj hi
    generalize w.runs = runs at h
    cases h
    exact .started _

theorem pauseFanout_ok {phase : String} {result : Json}
    (h : pauseFanout cr run consumers rotation phase w = (.ok result,w')) :
    result.flag "paused" = true := by
  obtain ⟨d,hd,h⟩ := Py.ofExcept_bind_eq_ok.mp h
  obtain ⟨j,t,_,h⟩ := Py.bind_eq_ok.mp h
  obtain ⟨hres,_⟩ := Prod.mk.inj h
  obtain rfl := Except.ok.inj hres
  exact buildFanoutResult_paused hd

theorem rotateCredential_keeps {I : World ω → Prop}
    (hI : ∀ (v : World ω) s, I v → I { v with site := s }) (rotateSpec : Json) :
    Py.Keeps I (rotateCredential env cr connectors rotateSpec) := by
  refine .bind (.ofExcept _) fun _ => .bind (.ofExcept _) fun _ => .tryExcept ?_ fun e => .pure _
  exact .bind (.ofExcept _) fun _ => .bind (.ofExcept _) fun _ => .bind
    (onSite_frame hI _) fun _ => .bind (.ofExcept _) fun _ => .pure _

theorem adoptNewValue_keeps {I : World ω → Prop}
    (hI : ∀ (v : World ω) d, I v → I { v with cr := { v.cr with desiredOutcome := d } })
    (value : Option Json) : Py.Keeps I (adoptNewValue value) := by
  cases value with
  | some value => exact .modify fun v h => hI v _ h
  | none => exact .pure _

theorem rotatePhase_run {start : Option Nat} {progress progress' : FanoutProgress}
    {rotateSpec : Json} (hr : FanoutRun rs start progress.run w.runs)
    (h : rotatePhase env cr connectors progress rotateSpec consumers w = (.ok progress',w')) :
    FanoutRun rs start progress'.run w'.runs ∧
      (progress'.phase = progress.phase ∨ progress'.phase = .str "scan") := by
  unfold rotatePhase at h
  split at h
  · obtain ⟨outcome,t,hout,h⟩ := Py.bind_eq_ok.mp h
    obtain ⟨result,_,h⟩ := Py.ofExcept_bind_eq_ok.mp h
    obtain ⟨_,u,hadopt,h⟩ := Py.bind_eq_ok.mp h
    obtain ⟨i,v,hp,h⟩ := Py.bind_eq_ok.mp h
    obtain ⟨hres,rfl⟩ := Prod.mk.inj h
    obtain rfl := Except.ok.inj hres
    let I : World ω → Prop := fun v => FanoutRun rs start progress.run v.runs
    have ht : I t := (rotateCredential_keeps (fun _ _ h => h) rotateSpec).run hout hr
    have hu : I u := (adoptNewValue_keeps (fun _ _ h => h) outcome.2).run hadopt ht
    exact ⟨persistFanout_run hp hu,Or.inr rfl⟩
  · obtain ⟨hres,rfl⟩ := Prod.mk.inj h
    obtain rfl := Except.ok.inj hres
    exact ⟨hr,Or.inl rfl⟩

theorem scanConsumers_run {start : Option Nat} {found : Option Nat × List Json}
    (hr : FanoutRun rs start run w.runs)
    (h : scanConsumers env cr connectors run searchTerms scanScope rotation w = (.ok found,w')) :
    ∃ i, found.1 = some i ∧ FanoutRun rs start (some i) w'.runs := by
  obtain ⟨hits,_,h⟩ := Py.zoom_bind_eq_ok.mp h
  obtain ⟨consumers,_,h⟩ := Py.ofExcept_bind_eq_ok.mp h
  obtain ⟨result,_,h⟩ := Py.ofExcept_bind_eq_ok.mp h
  obtain ⟨i,v,hp,h⟩ := Py.bind_eq_ok.mp h
  obtain ⟨hres,rfl⟩ := Prod.mk.inj h
  obtain rfl := Except.ok.inj hres
  exact ⟨i,rfl,persistFanout_run hp hr⟩

/-- What the executor leaves behind when it returns `result` without a pause. -/
def FanoutEnd (rs : List ExecutionRun) (result : Json) : Option Nat → List ExecutionRun → Prop
  | some _, runs => runs.length = rs.length
  | none, runs => ∃ id d, result = .obj d ∧ runs = rs ++ [⟨id,.completed,d⟩]

/-- Phase 4 either pauses or completes the run with the result it returns. -/
theorem verifyConsumers_ok {start : Option Nat} {result : Json}
    (hr : FanoutRun rs start (some i) w.runs) (h : verifyConsumers env cr connectors (some i)
      searchTerms scanScope consumers rotation w = (.ok result,w'))
    (hp : result.flag "paused" = false) : FanoutEnd rs result start w'.runs := by
  obtain ⟨hits,_,h⟩ := Py.zoom_bind_eq_ok.mp h
  obtain ⟨remaining,_,h⟩ := Py.ofExcept_bind_eq_ok.mp h
  obtain ⟨judged,_,h⟩ := Py.ofExcept_bind_eq_ok.mp h
  obtain ⟨failed,_,h⟩ := Py.ofExcept_bind_eq_ok.mp h
  split at h
  · exact absurd (pauseFanout_ok h) (by simp [hp])
  · obtain ⟨d,_,h⟩ := Py.ofExcept_bind_eq_ok.mp h
    obtain ⟨hres,rfl⟩ := Prod.mk.inj h
    obtain rfl := Except.ok.inj hres
    simp only [World.setRun]
    generalize w.runs = runs at hr
    cases hr with
    | found _ _ hl => simpa [FanoutEnd] using hl
    | started r => exact ⟨r.workflowId,d,rfl,by simp [modify_concat]⟩

theorem updateAndVerify_ok {start : Option Nat} {phase result : Json}
    (hr : FanoutRun rs start run w.runs) (hs : start = none → run.isSome ∧ phase = .str "update")
    (h : updateAndVerify env cr connectors run phase newValue rotation consumers w = (.ok result,w'))
    (hp : result.flag "paused" = false) : FanoutEnd rs result start w'.runs := by
  unfold updateAndVerify at h
  split at h
  · obtain ⟨outcome,t,hupdate,h⟩ := Py.bind_eq_ok.mp h
    obtain ⟨updated,_,hupdate⟩ := Py.zoom_bind_eq_ok.mp hupdate
    obtain ⟨failed,_,hupdate⟩ := Py.ofExcept_bind_eq_ok.mp hupdate
    split at hupdate
    · obtain ⟨paused,u,hpause,hupdate⟩ := Py.bind_eq_ok.mp hupdate
      obtain ⟨hres,rfl⟩ := Prod.mk.inj hupdate
      obtain rfl := Except.ok.inj hres
      obtain ⟨hres,rfl⟩ := Prod.mk.inj h
      obtain rfl := Except.ok.inj hres
      exact absurd (pauseFanout_ok hpause) (by simp [hp])
    · obtain ⟨d,_,hupdate⟩ := Py.ofExcept_bind_eq_ok.mp hupdate
      obtain ⟨i,u,hpersist,hupdate⟩ := Py.bind_eq_ok.mp hupdate
      obtain ⟨hres,rfl⟩ := Prod.mk.inj hupdate
      obtain rfl := Except.ok.inj hres
      exact verifyConsumers_ok (persistFanout_run hpersist hr) h hp
  · rename_i hphase
    cases start with
    | none => simp [hs rfl,Json.isStr] at hphase
    | some j =>
      split at h
      · obtain ⟨i,rfl⟩ : ∃ i, run = some i := by
          generalize w.runs = runs at hr
          cases hr
          exact ⟨j,rfl⟩
        exact verifyConsumers_ok hr h hp
      · obtain ⟨d,_,h⟩ := Py.ofExcept_bind_eq_ok.mp h
        obtain ⟨_,rfl⟩ := Prod.mk.inj h
        generalize w.runs = runs at hr
        cases hr with
        | found _ _ hl => exact hl

/-- An executor that found a running run keeps the number of runs, and one that found none leaves
behind a completed run of its own that stores the returned result. -/
theorem executeCredentialRotationFanout_ok {result : Json}
    (h : executeCredentialRotationFanout env w = (.ok result,w'))
    (hp : result.flag "paused" = false) :
    FanoutEnd w.runs result (latestRun (fun r => r.status = .running) w.runs) w'.runs := by
  generalize hstart : latestRun (fun r => r.status = .running) w.runs = start
  have hr : FanoutRun w.runs start start w.runs := by
    cases start with
    | some i => exact .found i _ rfl
    | none => exact .unstarted
  unfold executeCredentialRotationFanout at h
  rw [Py.get_bind,hstart] at h
  obtain ⟨consumers,_,h⟩ := Py.ofExcept_bind_eq_ok.mp h
  obtain ⟨progress,t,hrotate,h⟩ := Py.bind_eq_ok.mp h
  obtain ⟨ht,hphases⟩ := rotatePhase_run hr hrotate
  split at h
  · obtain ⟨found,u,hscan,h⟩ := Py.bind_eq_ok.mp h
    obtain ⟨i,hi,hu⟩ := scanConsumers_run ht hscan
    exact updateAndVerify_ok (hi ▸ hu) (fun _ => by simp [hi]) h hp
  · rename_i hphase
    refine updateAndVerify_ok ht (fun hnone => ?_) h hp
    -- Without a run the phase is empty, so the executor is still before its scan.
    subst hnone
    rcases hphases with hempty | hscan
    · exact absurd hempty fun he => hphase (by rw [he]; rfl)
    · exact absurd hscan fun he => hphase (by rw [he]; rfl)

end Runs

end Nexplane
