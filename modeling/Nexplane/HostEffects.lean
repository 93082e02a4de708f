import Nexplane.InterfaceSnapshots

set_option autoImplicit false

/-! The host that a program of the agent runs on, with a record of what has been done. -/

namespace Nexplane
open PyValue

/-- A command that has succeeded, or a file that has been written. -/
inductive Effect where
  | ran (name : String) (args : List String)
  | wrote (path content : String)
  deriving DecidableEq, Repr

/-- The same host with a record of what has been done on it. -/
def recording {ν : Type} (os : Os ν) : Os (ν × List Effect) where
  lookPath file s := os.lookPath file s.1
  stat path s := os.stat path s.1
  run name args s :=
    match os.run name args s.1 with
    | (none,t) => (none,(t,s.2 ++ [.ran name args]))
    | (some error,t) => (some error,(t,s.2))
  output name args s := ((os.output name args s.1).1,((os.output name args s.1).2,s.2))
  readFile path s := os.readFile path s.1
  writeFile path content s :=
    match os.writeFile path content s.1 with
    | (none,t) => (none,(t,s.2 ++ [.wrote path content]))
    | (some error,t) => (some error,(t,s.2))

section Recording

variable {ν α β : Type} {os : Os ν}

/-- The one program does on the host what the other does on the recorded host. -/
def Recorded (x : Go ν α) (y : Go (ν × List Effect) α) : Prop :=
  ∀ s, (y.exec s).1 = (x.exec s.1).1 ∧ (y.exec s).2.1 = (x.exec s.1).2

namespace Recorded

variable {x x' : Go ν α} {y y' : Go (ν × List Effect) α} {f : α → Go ν β}
  {g : α → Go (ν × List Effect) β}

theorem pure (a : α) : Recorded (Pure.pure a : Go ν α) (Pure.pure a) := fun _ => ⟨rfl,rfl⟩

theorem bind (h : Recorded x y) (hf : ∀ a, Recorded (f a) (g a)) : Recorded (x >>= f) (y >>= g) := by
  intro s
  obtain ⟨hresult,hstate⟩ := h s
  rw [Go.bind_exec,Go.bind_exec]
  rcases hy : y.exec s with ⟨r,t⟩
  rcases hx : x.exec s.1 with ⟨r',t'⟩
  rw [hy,hx] at hresult hstate
  obtain rfl : r = r' := hresult
  obtain rfl : t.1 = t' := hstate
  cases r with
  | ok a => exact hf a t
  | error e => exact ⟨rfl,rfl⟩

theorem ite {c : Prop} [Decidable c] (h : Recorded x y) (h' : Recorded x' y') :
    Recorded (if c then x else x') (if c then y else y') := by
  split
  · exact h
  · exact h'

theorem succeeds {x : Go ν Unit} {y : Go (ν × List Effect) Unit} (h : Recorded x y) :
    Recorded (Go.succeeds x) (Go.succeeds y) := by
  intro s
  obtain ⟨hresult,hstate⟩ := h s
  rw [Go.succeeds_exec,Go.succeeds_exec]
  exact ⟨by rw [hresult],hstate⟩

theorem check {call : ν → Option String × ν}
    {call' : ν × List Effect → Option String × (ν × List Effect)}
    (h : ∀ s, (call' s).1 = (call s.1).1 ∧ (call' s).2.1 = (call s.1).2) :
    Recorded (Go.check call) (Go.check call') := by
  intro s
  obtain ⟨hresult,hstate⟩ := h s
  rw [Go.check_exec,Go.check_exec]
  exact ⟨by rw [hresult],hstate⟩

theorem run (name : String) (args : List String) :
    Recorded (runCmd os name args) (runCmd (recording os) name args) := by
  refine check fun s => ?_
  simp only [recording]
  rcases os.run name args s.1 with ⟨_ | e,t⟩
  · exact ⟨rfl,rfl⟩
  · exact ⟨rfl,rfl⟩

theorem nmcli (args : List String) : Recorded (runNmcli os args) (runNmcli (recording os) args) :=
  run "nmcli" args

theorem write (path content : String) :
    Recorded (writeFile os path content) (writeFile (recording os) path content) := by
  refine check fun s => ?_
  simp only [recording]
  rcases os.writeFile path content s.1 with ⟨_ | e,t⟩
  · exact ⟨rfl,rfl⟩
  · exact ⟨rfl,rfl⟩

theorem ask {g : ν → α} : Recorded (Go.ask g) (Go.ask fun s => g s.1) := fun _ => ⟨rfl,rfl⟩

theorem output (name : String) (args : List String) :
    Recorded (Go.call (os.output name args)) (Go.call ((recording os).output name args)) :=
  fun _ => ⟨rfl,rfl⟩

theorem throws (e : String) : Recorded (throw e : Go ν α) (throw e) := fun _ => ⟨rfl,rfl⟩

theorem forM {as : List β} {f : β → Go ν Unit} {g : β → Go (ν × List Effect) Unit}
    (h : ∀ a, Recorded (f a) (g a)) : Recorded (as.forM f) (as.forM g) := by
  induction as with
  | nil => exact pure ()
  | cons a as ih => exact bind (h a) fun _ => ih

/-- A step that is taken or left out before the rest. -/
theorem optional {c : Prop} [Decidable c] {u : Go ν β} {v : Go (ν × List Effect) β}
    (h : Recorded x y) (hrest : Recorded u v) :
    Recorded (if c then x >>= fun _ => u else u) (if c then y >>= fun _ => v else v) :=
  ite (bind h fun _ => hrest) hrest

theorem fallback (iface mode : String) (params : Dict) : Recorded
    (applyIPAddrFallback os iface mode params)
    (applyIPAddrFallback (recording os) iface mode params) := by
  refine bind (output _ _) fun out => bind (forM fun addr => ?_) fun _ => ?_
  · exact bind (succeeds (run _ _)) fun _ => pure ()
  · exact ite (optional (run _ _) (optional (succeeds (run _ _)) (run _ _))) (run _ _)

theorem nmcliUp (iface : String) : Recorded (Nexplane.nmcliUp os iface)
    (Nexplane.nmcliUp (recording os) iface) :=
  bind (succeeds (nmcli _)) fun _ => ite (pure ()) (run _ _)

theorem applyNmcli (iface mode ipVersion : String) (params : Dict) : Recorded
    (Nexplane.applyNmcli os iface mode ipVersion params)
    (Nexplane.applyNmcli (recording os) iface mode ipVersion params) := by
  refine ite ?_ ?_
  · exact optional (nmcli _) (optional (nmcli _) (nmcliUp iface))
  · refine ite (bind (pure true) fun managed => ?_) (bind (succeeds (nmcli _)) fun managed => ?_)
    · exact ite (fallback iface mode params) (optional (nmcli _) (nmcliUp iface))
    · exact ite (fallback iface mode params) (optional (nmcli _) (nmcliUp iface))

theorem applySystemdNetworkd (iface mode ipVersion : String) (params : Dict) : Recorded
    (Nexplane.applySystemdNetworkd os iface mode ipVersion params)
    (Nexplane.applySystemdNetworkd (recording os) iface mode ipVersion params) :=
  bind (write _ _) fun _ => run _ _

theorem applyDebianInterfaces (iface mode ipVersion : String) (params : Dict) : Recorded
    (Nexplane.applyDebianInterfaces os iface mode ipVersion params)
    (Nexplane.applyDebianInterfaces (recording os) iface mode ipVersion params) :=
  bind (succeeds (run _ _)) fun _ =>
    ite (run _ _) (optional (run _ _) (optional (run _ _) (run _ _)))

theorem applyRHELIfcfg (iface mode ipVersion : String) (params : Dict) : Recorded
    (Nexplane.applyRHELIfcfg os iface mode ipVersion params)
    (Nexplane.applyRHELIfcfg (recording os) iface mode ipVersion params) :=
  bind (write _ _) fun _ => bind (succeeds (run _ _)) fun _ => run _ _

theorem applyIPChange (method : NetworkManager) (iface mode ipVersion : String) (params : Dict) :
    Recorded (Nexplane.applyIPChange os method iface mode ipVersion params)
      (Nexplane.applyIPChange (recording os) method iface mode ipVersion params) := by
  cases method with
  | networkManager => exact applyNmcli iface mode ipVersion params
  | systemd => exact applySystemdNetworkd iface mode ipVersion params
  | debian => exact applyDebianInterfaces iface mode ipVersion params
  | rhel => exact applyRHELIfcfg iface mode ipVersion params

theorem configureDNS (method : NetworkManager) (iface conName : String)
    (servers searchDomains : List String) :
    Recorded (Nexplane.configureDNS os method iface conName servers searchDomains)
      (Nexplane.configureDNS (recording os) method iface conName servers searchDomains) := by
  refine ite (pure ()) ?_
  cases method with
  | networkManager =>
    exact bind (nmcli _) fun _ => bind (nmcli _) fun _ => optional (nmcli _) (nmcli _)
  | systemd => exact bind (run _ _) fun _ => ite (run _ _) (pure ())
  | debian => exact bind ask fun _ => write _ _
  | rhel => exact bind ask fun _ => write _ _

theorem restoreSnapshot (iface : String) (snapshot : Dict) :
    Recorded (Nexplane.restoreSnapshot os iface snapshot)
      (Nexplane.restoreSnapshot (recording os) iface snapshot) :=
  bind ask fun _ => bind (applyIPChange _ _ _ _ _) fun _ =>
    optional (succeeds (configureDNS _ _ _ _ _)) (pure _)

theorem rollbackOS (params : Dict) :
    Recorded (Nexplane.rollbackOS os params) (Nexplane.rollbackOS (recording os) params) := by
  rw [Nexplane.rollbackOS,Nexplane.rollbackOS]
  split
  · exact ite (throws _) (restoreSnapshot _ _)
  · exact throws _

end Recorded

end Recording

section Views

variable {ν σ V α β : Type} {os : Os ν} {step : V → Effect → V} {v₀ v : V} {P : V → Prop}

def Go.Keeps (I : σ → Prop) (x : Go σ α) : Prop := ∀ s, I s → I (x.exec s).2

namespace Go.Keeps

variable {I : σ → Prop} {x x' : Go σ α} {f : α → Go σ β}

theorem pure (a : α) : Go.Keeps I (Pure.pure a : Go σ α) := fun _ h => h

theorem bind (hx : Go.Keeps I x) (hf : ∀ a, Go.Keeps I (f a)) : Go.Keeps I (x >>= f) := by
  intro s hs
  have ht := hx s hs
  rw [Go.bind_exec]
  rcases hr : x.exec s with ⟨e | a,t⟩
  · rw [hr] at ht
    exact ht
  · rw [hr] at ht
    exact hf a t ht

theorem ite {c : Prop} [Decidable c] (h : Go.Keeps I x) (h' : Go.Keeps I x') :
    Go.Keeps I (if c then x else x') := by
  split
  · exact h
  · exact h'

theorem optional {c : Prop} [Decidable c] {u : Go σ β} (h : Go.Keeps I x) (hu : Go.Keeps I u) :
    Go.Keeps I (if c then x >>= fun _ => u else u) := ite (bind h fun _ => hu) hu

theorem succeeds {x : Go σ Unit} (h : Go.Keeps I x) : Go.Keeps I (Go.succeeds x) := by
  intro s hs
  rw [Go.succeeds_exec]
  exact h s hs

theorem ask {g : σ → α} : Go.Keeps I (Go.ask g) := fun _ h => h

theorem forM {as : List β} {f : β → Go σ Unit} (h : ∀ a, Go.Keeps I (f a)) :
    Go.Keeps I (as.forM f) := by
  induction as with
  | nil => exact pure ()
  | cons a as ih => exact bind (h a) fun _ => ih

theorem exec {s t : σ} {r : Except String α} (h : Go.Keeps I x) (hx : x.exec s = (r,t)) (hs : I s) :
    I t := by
  have ht := h s hs
  rwa [hx] at ht

end Go.Keeps

/-- What the record adds up to. -/
def view (step : V → Effect → V) (v₀ : V) (s : ν × List Effect) : V := s.2.foldl step v₀

theorem view_snoc (s : ν) (done : List Effect) (e : Effect) :
    view step v₀ (s,done ++ [e]) = step (view step v₀ (s,done)) e := by simp [view]

theorem keeps_run {name : String} {args : List String}
    (h : ∀ v, P v → P (step v (.ran name args))) :
    Go.Keeps (fun s => P (view step v₀ s)) (runCmd (recording os) name args) := by
  intro s hs
  rw [runCmd,Go.check_exec]
  dsimp only [recording]
  rcases os.run name args s.1 with ⟨_ | e,t⟩
  · dsimp only
    rw [view_snoc]
    exact h _ hs
  · exact hs

theorem keeps_write {path content : String} (h : ∀ v, P v → P (step v (.wrote path content))) :
    Go.Keeps (fun s => P (view step v₀ s)) (writeFile (recording os) path content) := by
  intro s hs
  rw [writeFile,Go.check_exec]
  dsimp only [recording]
  rcases os.writeFile path content s.1 with ⟨_ | e,t⟩
  · dsimp only
    rw [view_snoc]
    exact h _ hs
  · exact hs

theorem keeps_output (name : String) (args : List String) :
    Go.Keeps (fun s => P (view step v₀ s)) (Go.call ((recording os).output name args)) :=
  fun _ h => h

theorem command_view {name : String} {args : List String} {s t : ν × List Effect}
    (h : (runCmd (recording os) name args).exec s = (.ok (),t)) :
    view step v₀ t = step (view step v₀ s) (.ran name args) ∧ (os.run name args s.1).1 = none := by
  rw [runCmd,Go.check_exec] at h
  dsimp only [recording] at h
  rcases hrun : os.run name args s.1 with ⟨_ | e,t'⟩
  · rw [hrun] at h
    obtain ⟨_,rfl⟩ := Prod.mk.inj h
    exact ⟨view_snoc t' s.2 _,rfl⟩
  · rw [hrun] at h
    cases (Prod.mk.inj h).1

theorem write_view {path content : String} {s t : ν × List Effect}
    (h : (writeFile (recording os) path content).exec s = (.ok (),t)) :
    view step v₀ t = step (view step v₀ s) (.wrote path content) ∧
      (os.writeFile path content s.1).1 = none := by
  rw [writeFile,Go.check_exec] at h
  dsimp only [recording] at h
  rcases hrun : os.writeFile path content s.1 with ⟨_ | e,t'⟩
  · rw [hrun] at h
    obtain ⟨_,rfl⟩ := Prod.mk.inj h
    exact ⟨view_snoc t' s.2 _,rfl⟩
  · rw [hrun] at h
    cases (Prod.mk.inj h).1

theorem command_refused {name : String} {args : List String} {e : String} {s t : ν × List Effect}
    (h : (runCmd (recording os) name args).exec s = (.error e,t)) :
    view step v₀ t = view step v₀ s := by
  rw [runCmd,Go.check_exec] at h
  dsimp only [recording] at h
  rcases hrun : os.run name args s.1 with ⟨_ | e',t'⟩
  · rw [hrun] at h
    cases (Prod.mk.inj h).1
  · rw [hrun] at h
    obtain ⟨_,rfl⟩ := Prod.mk.inj h
    rfl

theorem write_refused {path content : String} {e : String} {s t : ν × List Effect}
    (h : (writeFile (recording os) path content).exec s = (.error e,t)) :
    view step v₀ t = view step v₀ s := by
  rw [writeFile,Go.check_exec] at h
  dsimp only [recording] at h
  rcases hrun : os.writeFile path content s.1 with ⟨_ | e',t'⟩
  · rw [hrun] at h
    cases (Prod.mk.inj h).1
  · rw [hrun] at h
    obtain ⟨_,rfl⟩ := Prod.mk.inj h
    rfl

end Views

end Nexplane
