import Nexplane.Lib.Checks
import Nexplane.Lib.Py
import Nexplane.Lib.PyNumbers

set_option autoImplicit false

/-! The worker nodes of a cluster upgrade: the roll of one node after the other and the check of
the versions at the end. -/

namespace Nexplane
open PyValue

variable {σ : Type}

/-- `version.lstrip("v")`. -/
def lstripV (version : String) : List Char := version.toList.dropWhile fun c => c = 'v'

/-- A node as it is read: its conditions are pairs of a type and a status. A field without a value
raises when it is used. -/
structure ClusterNode where
  conditions : Except Exc (List (String × String))
  kubeletVersion : Except Exc String

structure ClusterPod where
  name : String
  phase : Except Exc (Option String)

structure DisruptionBudget where
  namespaceName : String
  name : String
  disruptionsAllowed : Except Exc (Option Int)

/-- The API of a cluster whose state is a `σ`. -/
structure ClusterApi (σ : Type) where
  kubeconfigPath : Option String
  setUnschedulable : String → Bool → Py σ Unit
  /-- Without a policy client there is nothing to list. -/
  listPodDisruptionBudgets : Option (Py σ (List DisruptionBudget))
  /-- `subprocess.run` with a timeout: the return code and the standard error. -/
  runCommand : List String → Int → Py σ (Int × String)
  readNode : String → Py σ ClusterNode
  listNode : Py σ (List ClusterNode)
  listNamespacedPod : Json → Py σ (List ClusterPod)
  now : σ → String

namespace ClusterNode

/-- The version of the node begins with the target. -/
def beginsWith (target : String) (node : ClusterNode) : Except Exc Bool := do
  let version ← node.kubeletVersion
  .ok ((lstripV target).isPrefixOf (lstripV version))

/-- The condition that ends the polls of a node. -/
def upToDate (target : String) (node : ClusterNode) : Except Exc Bool := do
  let conditions ← node.conditions
  let begins ← node.beginsWith target
  .ok (conditions.any (fun c => c.1 = "Ready" && c.2 = "True") && begins)

end ClusterNode

/-- A failed read is a node that is not there yet. -/
def accepted (target : String) (answer : Except Exc ClusterNode) : Bool :=
  match answer.bind (ClusterNode.upToDate target) with
  | .ok ready => ready
  | .error _ => false

/-- A node that has been drained: the state its polls started from and their answers. -/
structure DrainedNode (σ : Type) where
  node : String
  start : σ
  answers : List (Except Exc ClusterNode)

section Roll

variable (api : ClusterApi σ) (target : String) (drainTimeout : Int)

/-- `some entry` where the roll returns the entry. -/
def cordonNode (entry : Dict) (name : String) : Py σ (Option Dict) :=
  Py.tryExcept (do
    api.setUnschedulable name true
    pure none) fun e =>
      pure (some ((entry.set "result" (.str "failed")).set "error"
        (.str ("Cordon " ++ name ++ " failed: " ++ e.str))))

def pauseAt (entry : Dict) (name : String) : Dict :=
  (entry.set "result" (.str "paused")).set "paused_at_node" (.str name)

/-- The budgets that allow no disruption. -/
def budgetViolations (budgets : List DisruptionBudget) : Except Exc (List String) := do
  let blocked ← budgets.filterM fun p => do
    let allowed ← p.disruptionsAllowed
    .ok (allowed.getD 0 == 0)
  .ok (blocked.map fun p => p.namespaceName ++ "/" ++ p.name)

/-- `entry[k].extend(texts)`. -/
def extendTexts (entry : Dict) (k : String) (texts : List String) : Dict :=
  match entry.getD k .null with
  | .arr items => entry.set k (.arr (items ++ texts.map .str))
  | _ => entry

def checkBudgets (entry : Dict) (name : String) : Py σ (Option Dict) :=
  match api.listPodDisruptionBudgets with
  | none => pure none
  | some list => Py.tryExcept (do
      let budgets ← list
      let violations ← Py.ofExcept (budgetViolations budgets)
      pure (if violations = [] then none
        else some (pauseAt (extendTexts entry "pdb_violations" violations) name)))
      fun _ => pure none

def drainCommand (name : String) : List String :=
  let kubeconfig :=
    match api.kubeconfigPath with
    | none => "/tmp/smoke-k8s-kubeconfig.yaml"
    | some path => if path = "" then "/tmp/smoke-k8s-kubeconfig.yaml" else path
  ["kubectl","drain",name,"--ignore-daemonsets","--delete-emptydir-data",
    "--timeout=" ++ toString drainTimeout ++ "s","--kubeconfig=" ++ kubeconfig]

def drainNode (entry : Dict) (name : String) : Py σ (Option Dict) :=
  Py.tryExcept (do
    let proc ← api.runCommand (drainCommand api drainTimeout name) (drainTimeout + 30)
    pure (if proc.1 = 0 then none
      else some ((pauseAt entry name).set "drain_error"
        (.str (String.ofList (proc.2.toList.take 300)))))) fun e =>
      pure (some ((pauseAt entry name).set "drain_error" (.str e.str)))

/-- The answers of the polls, of which the last is the one that ended them, if one did. -/
def pollNode (name : String) : Nat → Py σ (List (Except Exc ClusterNode))
  | 0 => pure []
  | n + 1 => do
    let answer ← Py.attempt (api.readNode name)
    if accepted target answer then pure [answer]
    else do
      let answers ← pollNode name n
      pure (answer :: answers)

def uncordonNode (name : String) : Py σ Unit :=
  Py.tryExcept (api.setUnschedulable name false) fun _ => pure ()

/-- `entry[k] += 1`. -/
def addOne (entry : Dict) (k : String) : Dict :=
  match entry.getD k .null with
  | .int n => entry.set k (.int (n + 1))
  | _ => entry

/-- One pass of the loop: the entry that is returned in it, or the one it goes on with. -/
def rollNode (entry : Dict) (name : String) : Py σ (Except Dict (Dict × DrainedNode σ)) := do
  match ← cordonNode api entry name with
  | some stopped => pure (.error stopped)
  | none =>
    match ← checkBudgets api entry name with
    | some stopped => pure (.error stopped)
    | none =>
      match ← drainNode api drainTimeout entry name with
      | some stopped => pure (.error stopped)
      | none => do
        let start ← Py.get
        let answers ← pollNode api target name 60
        uncordonNode api name
        pure (.ok (addOne entry "nodes_upgraded",⟨name,start,answers⟩))

/-- The nodes that have been drained are returned beside the entry. -/
def rollNodes : List String → Dict → Py σ (Dict × List (DrainedNode σ))
  | [], entry => do
    let s ← Py.get
    pure ((entry.set "result" (.str "success")).set "completed_at" (.str (api.now s)),[])
  | name :: names, entry => do
    match ← rollNode api target drainTimeout entry name with
    | .error stopped => pure (stopped,[])
    | .ok (entry,drained) => do
      let (entry,rest) ← rollNodes names entry
      pure (entry,drained :: rest)

end Roll

def startedPool (entry : Dict) (nodeNames : List String) : Dict :=
  (((entry.set "nodes_total" (.int nodeNames.length)).set "nodes_upgraded" (.int 0)).set
    "nodes_failed" (.int 0)).set "pdb_violations" (.arr [])

/-- `_upgrade_node_rolling`, with the nodes that it drained. -/
def rollPool (api : ClusterApi σ) (nodeNames : List String) (target : String)
    (desired entry : Dict) : Py σ (Dict × List (DrainedNode σ)) := do
  let drainTimeout ← Py.ofExcept (toInt (desired.getD "drain_timeout_seconds" (.int 300)))
  rollNodes api target drainTimeout nodeNames (startedPool entry nodeNames)

def upgradeNodeRolling (api : ClusterApi σ) (nodeNames : List String) (target : String)
    (desired entry : Dict) : Py σ Dict := do
  let pool ← rollPool api nodeNames target desired entry
  pure pool.1

section Verify

variable (api : ClusterApi σ) (target : String)

def initialVerify : Dict :=
  [("nodes_at_target_version",.int 0),("nodes_total",.int 0),("system_pods_ready",.bool false),
    ("workload_health_ok",.bool false),("error",.null)]

def onCluster {α : Type} (x : Py σ α) : Py (σ × Dict) α := Py.zoom Prod.fst (fun s o => (o,s.2)) x

/-- `verify[k] = v`. -/
def noteVerify (k : String) (v : Json) : Py (σ × Dict) Unit :=
  Py.modify fun s => (s.1,s.2.set k v)

/-- `p.status.phase not in ("Running", "Succeeded", None)`. -/
def badPods (pods : List ClusterPod) : Except Exc (List String) := do
  let bad ← pods.filterM fun p => do
    let phase ← p.phase
    .ok (phase ∉ [some "Running",some "Succeeded",none])
  .ok (bad.map ClusterPod.name)

/-- One of the two checks of pods. -/
def checkPods (namespaceName : Json) (k : String) : Py (σ × Dict) Unit := do
  let pods ← onCluster (api.listNamespacedPod namespaceName)
  let bad ← Py.ofExcept (badPods pods)
  noteVerify k (.bool bad.isEmpty)

def checkNodes : Py (σ × Dict) Unit := do
  let nodes ← onCluster api.listNode
  let atTarget ← Py.ofExcept (nodes.filterM (ClusterNode.beginsWith target))
  noteVerify "nodes_total" (.int nodes.length)
  noteVerify "nodes_at_target_version" (.int atTarget.length)

def verifyChecks (healthNs : Json) : Py (σ × Dict) Unit := do
  checkNodes api target
  checkPods api (.str "kube-system") "system_pods_ready"
  checkPods api healthNs "workload_health_ok"

def versionPassed (verify : Dict) : Bool :=
  verify.truthy "system_pods_ready" && verify.truthy "workload_health_ok" &&
    (verify.getD "nodes_at_target_version" .null).eq (verify.getD "nodes_total" .null)

/-- What the checks have noted before one of them raised is kept. -/
def runVerifyPhase (desired : Dict) : Py σ Dict := fun s =>
  let healthNs := desired.getD "health_check_namespace" (.str "default")
  let checked := Py.tryExcept (verifyChecks api target healthNs)
    (fun e => noteVerify "error" (.str e.str)) (s,initialVerify)
  (.ok (checked.2.2.set "passed" (.bool (versionPassed checked.2.2))),checked.2.1)

end Verify

namespace ClusterNode

/-- The version of the node is the target. -/
def runs (target : String) (node : ClusterNode) : Bool :=
  match node.kubeletVersion with
  | .ok version => lstripV version = lstripV target
  | .error _ => false

def ready (node : ClusterNode) : Bool :=
  match node.conditions with
  | .ok conditions => conditions.any fun c => c.1 = "Ready" && c.2 = "True"
  | .error _ => false

end ClusterNode

/-- The node has been read, Ready and with the target as its version. -/
def showsUpgraded (target : String) (answer : Except Exc ClusterNode) : Bool :=
  match answer with
  | .ok node => node.ready && node.runs target
  | .error _ => false

/-- One of the polls saw the node upgraded. -/
def DrainedNode.observed (target : String) (d : DrainedNode σ) : Bool :=
  d.answers.any (showsUpgraded target)

/-- The answers of as many reads of a node, one after the other. -/
def reads (api : ClusterApi σ) (name : String) : Nat → σ → List (Except Exc ClusterNode)
  | 0, _ => []
  | n + 1, s => (api.readNode name s).1 :: reads api name n (api.readNode name s).2

/-- One of the 60 reads from here on is accepted, and the version in the first one that is accepted
is not longer than the target. -/
def ReachesTarget (api : ClusterApi σ) (target name : String) (s : σ) : Prop :=
  ∃ node, (reads api name 60 s).find? (accepted target) = some (.ok node) ∧
    node.runs target = true

section Nodes

variable {target : String} {node : ClusterNode}

theorem runs_iff :
    node.runs target = true ↔ ∃ v, node.kubeletVersion = .ok v ∧ lstripV v = lstripV target := by
  unfold ClusterNode.runs
  cases node.kubeletVersion <;> simp

theorem beginsWith_ok {b : Bool} :
    node.beginsWith target = .ok b ↔
      ∃ v, node.kubeletVersion = .ok v ∧ (lstripV target).isPrefixOf (lstripV v) = b := by
  simp [ClusterNode.beginsWith,Checks.bind_eq_ok]

theorem runs_beginsWith (h : node.runs target = true) : node.beginsWith target = .ok true := by
  obtain ⟨v,hv,heq⟩ := runs_iff.mp h
  exact beginsWith_ok.mpr ⟨v,hv,by simp [heq]⟩

theorem accepted_iff :
    accepted target (.ok node) = true ↔
      node.ready = true ∧ node.beginsWith target = .ok true := by
  unfold accepted ClusterNode.ready
  rw [Except.bind,ClusterNode.upToDate]
  cases node.conditions with
  | error e => simp [Checks.error_bind]
  | ok conditions =>
    rw [Checks.ok_bind]
    cases node.beginsWith target with
    | error e => simp [Checks.error_bind]
    | ok begins => simp [Checks.ok_bind]

/-- An answer that shows a node upgraded ends the polls. -/
theorem showsUpgraded_accepted {answer : Except Exc ClusterNode}
    (h : showsUpgraded target answer = true) : accepted target answer = true := by
  cases answer with
  | error e => simp [showsUpgraded] at h
  | ok node =>
    obtain ⟨hready,hruns⟩ := (Bool.and_eq_true _ _).mp h
    exact accepted_iff.mpr ⟨hready,runs_beginsWith hruns⟩

/-- Of the answers that are accepted, the ones with the version of the target show it. -/
theorem showsUpgraded_of_accepted {answer : Except Exc ClusterNode}
    (h : accepted target answer = true) :
    showsUpgraded target answer = true ↔ ∃ node, answer = .ok node ∧ node.runs target = true := by
  cases answer with
  | error e => simp [showsUpgraded]
  | ok node => simp [showsUpgraded,(accepted_iff.mp h).1]

end Nodes

section Rolling

variable {api : ClusterApi σ} {target name : String} {drainTimeout : Int} {entry : Dict}

/-- The polls see the node upgraded if and only if the first answer that is accepted does. -/
theorem pollNode_observed (api : ClusterApi σ) (target name : String) (n : Nat) (s : σ) :
    ∃ answers t, pollNode api target name n s = (.ok answers,t) ∧
      (answers.any (showsUpgraded target) = true ↔
        ∃ node, (reads api name n s).find? (accepted target) = some (.ok node) ∧
          node.runs target = true) := by
  induction n generalizing s with
  | zero => exact ⟨[],s,rfl,by simp [reads]⟩
  | succ n ih =>
    rw [pollNode,Py.attempt_bind,reads]
    generalize (api.readNode name s).1 = answer
    generalize (api.readNode name s).2 = t
    by_cases h : accepted target answer = true
    · rw [if_pos h,List.find?_cons_of_pos h]
      refine ⟨[answer],t,rfl,?_⟩
      simpa using showsUpgraded_of_accepted h
    · rw [if_neg h,List.find?_cons_of_neg h]
      obtain ⟨answers,u,hrun,hiff⟩ := ih t
      refine ⟨answer :: answers,u,by rw [Py.bind_ok hrun]; rfl,?_⟩
      have hnot : showsUpgraded target answer = false :=
        Bool.eq_false_iff.mpr fun hshows => h (showsUpgraded_accepted hshows)
      rw [← hiff,List.any_cons,hnot,Bool.false_or]

/-- An entry that the roll returns before its end. -/
structure Stopped (entry stopped : Dict) : Prop where
  result : stopped.get? "result" ≠ some (.str "success")
  upgraded : stopped.get? "nodes_upgraded" = entry.get? "nodes_upgraded"

theorem pauseAt_stopped (entry : Dict) (name : String) : Stopped entry (pauseAt entry name) := by
  constructor
  · simp [pauseAt,Dict.get?_set_of_ne]
  · simp [pauseAt,Dict.get?_set_of_ne]

theorem Stopped.set {stopped : Dict} (h : Stopped entry stopped) {k : String}
    (hr : "result" ≠ k) (hu : "nodes_upgraded" ≠ k) (v : Json) :
    Stopped entry (stopped.set k v) where
  result := by rw [Dict.get?_set_of_ne hr]; exact h.result
  upgraded := by rw [Dict.get?_set_of_ne hu]; exact h.upgraded

theorem extendTexts_get? {k k' : String} (h : k' ≠ k) (texts : List String) :
    (extendTexts entry k texts).get? k' = entry.get? k' := by
  unfold extendTexts
  split
  · exact Dict.get?_set_of_ne h ..
  · rfl

/-- A stage of the roll does not raise, and an entry that it returns is a stopped one. -/
def Stops (entry : Dict) (x : Py σ (Option Dict)) : Prop :=
  ∀ s, ∃ r s', x s = (.ok r,s') ∧ ∀ stopped, r = some stopped → Stopped entry stopped

theorem Stops.pure {r : Option Dict} (h : ∀ stopped, r = some stopped → Stopped entry stopped) :
    Stops entry (Pure.pure r : Py σ (Option Dict)) := fun s => ⟨r,s,rfl,h⟩

theorem Stops.tryExcept {x : Py σ (Option Dict)} {handler : Exc → Py σ (Option Dict)}
    (hx : ∀ s r s', x s = (.ok r,s') → ∀ stopped, r = some stopped → Stopped entry stopped)
    (hh : ∀ e, Stops entry (handler e)) : Stops entry (Py.tryExcept x handler) := by
  intro s
  rcases hrun : x s with ⟨e | r,t⟩
  · obtain ⟨r,s',hr,hstopped⟩ := hh e t
    exact ⟨r,s',by rw [Py.tryExcept_error hrun,hr],hstopped⟩
  · exact ⟨r,t,Py.tryExcept_ok hrun handler,hx s r t hrun⟩

theorem cordonNode_stops (api : ClusterApi σ) (entry : Dict) (name : String) :
    Stops entry (cordonNode api entry name) := by
  refine Stops.tryExcept ?_ fun e => Stops.pure ?_
  · intro s r s' hrun stopped hr
    obtain ⟨_,_,_,hrun⟩ := Py.bind_eq_ok.mp hrun
    have hnone := Except.ok.inj (Prod.mk.inj hrun).1
    rw [hr] at hnone
    cases hnone
  · rintro stopped ⟨⟩
    constructor
    · simp [Dict.get?_set_of_ne]
    · simp [Dict.get?_set_of_ne]

theorem checkBudgets_stops (api : ClusterApi σ) (entry : Dict) (name : String) :
    Stops entry (checkBudgets api entry name) := by
  unfold checkBudgets
  split
  · exact Stops.pure nofun
  · refine Stops.tryExcept ?_ fun e => Stops.pure nofun
    intro s r s' hrun stopped hr
    obtain ⟨budgets,t,_,hrun⟩ := Py.bind_eq_ok.mp hrun
    obtain ⟨violations,_,hrun⟩ := Py.ofExcept_bind_eq_ok.mp hrun
    have hstopped : r = if violations = [] then none
        else some (pauseAt (extendTexts entry "pdb_violations" violations) name) :=
      (Except.ok.inj (Prod.mk.inj hrun).1).symm
    rw [hr] at hstopped
    split at hstopped
    · cases hstopped
    · obtain rfl := Option.some.inj hstopped
      have hpause := pauseAt_stopped (extendTexts entry "pdb_violations" violations) name
      exact ⟨hpause.result,hpause.upgraded.trans (extendTexts_get? (by decide) violations)⟩

theorem drainNode_stops (api : ClusterApi σ) (drainTimeout : Int) (entry : Dict) (name : String) :
    Stops entry (drainNode api drainTimeout entry name) := by
  refine Stops.tryExcept ?_ fun e => Stops.pure ?_
  · intro s r s' hrun stopped hr
    obtain ⟨proc,t,_,hrun⟩ := Py.bind_eq_ok.mp hrun
    have hstopped := (Except.ok.inj (Prod.mk.inj hrun).1).symm
    rw [hr] at hstopped
    split at hstopped
    · cases hstopped
    · obtain rfl := Option.some.inj hstopped
      exact (pauseAt_stopped entry name).set (by decide) (by decide) _
  · rintro stopped ⟨⟩
    exact (pauseAt_stopped entry name).set (by decide) (by decide) _

theorem uncordonNode_returns (api : ClusterApi σ) (name : String) (s : σ) :
    ∃ s', uncordonNode api name s = (.ok (),s') := by
  rcases hrun : api.setUnschedulable name false s with ⟨e | _,t⟩
  · exact ⟨t,Py.tryExcept_error hrun _⟩
  · exact ⟨t,Py.tryExcept_ok hrun _⟩

/-- One pass of the loop returns an entry, or it goes on with a node that has been drained. -/
theorem rollNode_cases (api : ClusterApi σ) (target : String) (drainTimeout : Int) (entry : Dict)
    (name : String) (s : σ) :
    (∃ stopped s', rollNode api target drainTimeout entry name s = (.ok (.error stopped),s') ∧
      Stopped entry stopped) ∨
    ∃ d s', rollNode api target drainTimeout entry name s =
        (.ok (.ok (addOne entry "nodes_upgraded",d)),s') ∧
      d.node = name ∧ (d.observed target = true ↔ ReachesTarget api target d.node d.start) := by
  obtain ⟨cordoned,s₁,h₁,hcordoned⟩ := cordonNode_stops api entry name s
  rw [rollNode,Py.bind_ok h₁]
  cases cordoned with
  | some stopped => exact .inl ⟨stopped,s₁,rfl,hcordoned _ rfl⟩
  | none =>
    obtain ⟨checked,s₂,h₂,hchecked⟩ := checkBudgets_stops api entry name s₁
    dsimp only
    rw [Py.bind_ok h₂]
    cases checked with
    | some stopped => exact .inl ⟨stopped,s₂,rfl,hchecked _ rfl⟩
    | none =>
      obtain ⟨drained,s₃,h₃,hdrained⟩ := drainNode_stops api drainTimeout entry name s₂
      dsimp only
      rw [Py.bind_ok h₃]
      cases drained with
      | some stopped => exact .inl ⟨stopped,s₃,rfl,hdrained _ rfl⟩
      | none =>
        obtain ⟨answers,s₄,h₄,hpolls⟩ := pollNode_observed api target name 60 s₃
        obtain ⟨s₅,h₅⟩ := uncordonNode_returns api name s₄
        refine .inr ⟨⟨name,s₃,answers⟩,s₅,?_,rfl,hpolls⟩
        dsimp only
        rw [Py.get_bind,Py.bind_ok h₄,Py.bind_ok h₅]
        rfl

theorem addOne_get? {n : Int} {k : String} (h : entry.get? k = some (.int n)) :
    (addOne entry k).get? k = some (.int (n + 1)) := by
  rw [addOne,Dict.getD,h]
  exact Dict.get?_set_self ..

/-- The roll drains every node if it succeeds, and it counts the nodes that it has drained. -/
theorem rollNodes_counts {names : List String} {result : Dict} {drained : List (DrainedNode σ)}
    {n : Int} {s s' : σ} (hn : entry.get? "nodes_upgraded" = some (.int n))
    (hrun : rollNodes api target drainTimeout names entry s = (.ok (result,drained),s')) :
    (result.get? "result" = some (.str "success") → drained.map DrainedNode.node = names) ∧
      result.get? "nodes_upgraded" = some (.int (n + drained.length)) ∧
      ∀ d ∈ drained, (d.observed target = true ↔ ReachesTarget api target d.node d.start) := by
  induction names generalizing entry n s s' result drained with
  | nil =>
    obtain ⟨rfl,rfl⟩ := Prod.mk.inj (Except.ok.inj (Prod.mk.inj hrun).1)
    refine ⟨fun _ => rfl,?_,by simp⟩
    simpa [Dict.get?_set_of_ne] using hn
  | cons name names ih =>
    rw [rollNodes] at hrun
    rcases rollNode_cases api target drainTimeout entry name s with
      ⟨stopped,t,hstep,hstopped⟩ | ⟨d,t,hstep,hname,hd⟩
    · rw [Py.bind_ok hstep] at hrun
      obtain ⟨rfl,rfl⟩ := Prod.mk.inj (Except.ok.inj (Prod.mk.inj hrun).1)
      exact ⟨fun h => absurd h hstopped.result,by simpa [hn] using hstopped.upgraded,by simp⟩
    · rw [Py.bind_ok hstep] at hrun
      obtain ⟨⟨result',rest⟩,u,hrest,hrun⟩ := Py.bind_eq_ok.mp hrun
      obtain ⟨rfl,rfl⟩ := Prod.mk.inj (Except.ok.inj (Prod.mk.inj hrun).1)
      obtain ⟨hnames,hcount,hobserved⟩ := ih (addOne_get? hn) hrest
      refine ⟨fun h => ?_,?_,?_⟩
      · rw [List.map_cons,hname,hnames h]
      · rw [hcount,List.length_cons]
        congr 2
        omega
      · intro e he
        rcases List.mem_cons.mp he with rfl | he
        · exact hd
        · exact hobserved e he

theorem rollPool_counts {names : List String} {desired result : Dict}
    {drained : List (DrainedNode σ)} {s s' : σ}
    (hrun : rollPool api names target desired entry s = (.ok (result,drained),s')) :
    (result.get? "result" = some (.str "success") → drained.map DrainedNode.node = names) ∧
      result.get? "nodes_upgraded" = some (.int drained.length) ∧
      ∀ d ∈ drained, (d.observed target = true ↔ ReachesTarget api target d.node d.start) := by
  obtain ⟨drainTimeout,_,hrun⟩ := Py.ofExcept_bind_eq_ok.mp hrun
  have hzero : (startedPool entry names).get? "nodes_upgraded" = some (.int 0) := by
    simp [startedPool,Dict.get?_set_of_ne]
  simpa using rollNodes_counts hzero hrun

end Rolling

section Verifying

variable {api : ClusterApi σ} {target : String}

/-- No bad pod is in the list, which has been read. -/
def podsHealthy (answer : Except Exc (List ClusterPod)) : Bool :=
  match answer.bind badPods with
  | .ok bad => bad.isEmpty
  | .error _ => false

/-- The state after the nodes have been listed, and the one after the pods of the system. -/
def afterNodes (api : ClusterApi σ) (s : σ) : σ := (api.listNode s).2

def afterSystemPods (api : ClusterApi σ) (s : σ) : σ :=
  (api.listNamespacedPod (.str "kube-system") (afterNodes api s)).2

def healthNamespace (desired : Dict) : Json :=
  desired.getD "health_check_namespace" (.str "default")

theorem passes_iff {node : ClusterNode} :
    Checks.passes (ClusterNode.beginsWith target) node = true ↔
      node.beginsWith target = .ok true := by
  unfold Checks.passes
  cases node.beginsWith target <;> simp [Except.toOption]

/-- As many nodes begin with the target as there are, if all of them do. -/
theorem filterM_all {nodes : List ClusterNode} :
    (∃ some, nodes.filterM (ClusterNode.beginsWith target) = .ok some ∧
      some.length = nodes.length) ↔ ∀ node ∈ nodes, node.beginsWith target = .ok true := by
  constructor
  · rintro ⟨found,hfound,hlength⟩ node hmem
    rw [Checks.filterM_ok hfound,List.length_filter_eq_length_iff] at hlength
    exact passes_iff.mp (hlength node hmem)
  · intro h
    refine ⟨nodes,?_,rfl⟩
    rw [Checks.filterM_eq_ok (g := fun _ => true) h,List.filter_true]

theorem checkNodes_cases (api : ClusterApi σ) (target : String) (v : Dict) (s : σ) :
    (∃ nodes found, (api.listNode s).1 = .ok nodes ∧
      nodes.filterM (ClusterNode.beginsWith target) = .ok found ∧
      checkNodes api target (s,v) = (.ok (),afterNodes api s,
        (v.set "nodes_total" (.int nodes.length)).set "nodes_at_target_version"
          (.int found.length))) ∨
    ∃ e, checkNodes api target (s,v) = (.error e,afterNodes api s,v) ∧
      ∀ nodes, (api.listNode s).1 = .ok nodes →
        ∀ found, nodes.filterM (ClusterNode.beginsWith target) ≠ .ok found := by
  have hlist : onCluster api.listNode (s,v) = ((api.listNode s).1,afterNodes api s,v) := rfl
  rcases hnodes : (api.listNode s).1 with e | nodes
  · rw [hnodes] at hlist
    exact .inr ⟨e,Py.bind_error hlist,nofun⟩
  · rw [hnodes] at hlist
    have hrun : checkNodes api target (s,v) = _ := Py.bind_ok hlist
    rcases hfound : nodes.filterM (ClusterNode.beginsWith target) with e | found
    · rw [hfound] at hrun
      refine .inr ⟨e,hrun,?_⟩
      rintro _ ⟨⟩ found h
      rw [hfound] at h
      cases h
    · rw [hfound] at hrun
      exact .inl ⟨nodes,found,rfl,hfound,hrun⟩

theorem checkPods_cases (api : ClusterApi σ) (namespaceName : Json) (k : String) (v : Dict)
    (s : σ) :
    (∃ bad, podsHealthy (api.listNamespacedPod namespaceName s).1 = bad ∧
      checkPods api namespaceName k (s,v) =
        (.ok (),(api.listNamespacedPod namespaceName s).2,v.set k (.bool bad))) ∨
    ∃ e, checkPods api namespaceName k (s,v) =
        (.error e,(api.listNamespacedPod namespaceName s).2,v) ∧
      podsHealthy (api.listNamespacedPod namespaceName s).1 = false := by
  have hlist : onCluster (api.listNamespacedPod namespaceName) (s,v) =
    ((api.listNamespacedPod namespaceName s).1,(api.listNamespacedPod namespaceName s).2,v) := rfl
  rcases hpods : (api.listNamespacedPod namespaceName s).1 with e | pods
  · rw [hpods] at hlist
    exact .inr ⟨e,Py.bind_error hlist,rfl⟩
  · rw [hpods] at hlist
    have hrun : checkPods api namespaceName k (s,v) = _ := Py.bind_ok hlist
    unfold podsHealthy
    rcases hbad : badPods pods with e | bad
    · rw [hbad] at hrun
      exact .inr ⟨e,hrun,by simp [Except.bind,hbad]⟩
    · rw [hbad] at hrun
      refine .inl ⟨bad.isEmpty,by simp [Except.bind,hbad],hrun⟩

/-- What the checks have noted so far. -/
structure Noted (v : Dict) (found total : Int) (pods workload : Bool) : Prop where
  found : v.get? "nodes_at_target_version" = some (.int found)
  total : v.get? "nodes_total" = some (.int total)
  pods : v.get? "system_pods_ready" = some (.bool pods)
  workload : v.get? "workload_health_ok" = some (.bool workload)

namespace Noted

variable {v : Dict} {found total : Int} {pods workload : Bool}

theorem initial : Noted initialVerify 0 0 false false := ⟨rfl,rfl,rfl,rfl⟩

theorem set_nodes (h : Noted v found total pods workload) (found' total' : Int) :
    Noted ((v.set "nodes_total" (.int total')).set "nodes_at_target_version" (.int found'))
      found' total' pods workload where
  found := Dict.get?_set_self ..
  total := by simp [Dict.get?_set_of_ne]
  pods := by simpa [Dict.get?_set_of_ne] using h.pods
  workload := by simpa [Dict.get?_set_of_ne] using h.workload

theorem set_pods (h : Noted v found total pods workload) (pods' : Bool) :
    Noted (v.set "system_pods_ready" (.bool pods')) found total pods' workload where
  found := by simpa [Dict.get?_set_of_ne] using h.found
  total := by simpa [Dict.get?_set_of_ne] using h.total
  pods := Dict.get?_set_self ..
  workload := by simpa [Dict.get?_set_of_ne] using h.workload

theorem set_workload (h : Noted v found total pods workload) (workload' : Bool) :
    Noted (v.set "workload_health_ok" (.bool workload')) found total pods workload' where
  found := by simpa [Dict.get?_set_of_ne] using h.found
  total := by simpa [Dict.get?_set_of_ne] using h.total
  pods := by simpa [Dict.get?_set_of_ne] using h.pods
  workload := Dict.get?_set_self ..

theorem set_error (h : Noted v found total pods workload) (e : Json) :
    Noted (v.set "error" e) found total pods workload where
  found := by simpa [Dict.get?_set_of_ne] using h.found
  total := by simpa [Dict.get?_set_of_ne] using h.total
  pods := by simpa [Dict.get?_set_of_ne] using h.pods
  workload := by simpa [Dict.get?_set_of_ne] using h.workload

theorem passed_iff (h : Noted v found total pods workload) :
    versionPassed v = true ↔ found = total ∧ pods = true ∧ workload = true := by
  simp [versionPassed,Dict.truthy,Dict.getD,h.pods,h.workload,h.found,h.total,Json.truthy,Json.eq]
  tauto

end Noted

/-- As many nodes as there are show the target. -/
theorem found_all_iff {api : ClusterApi σ} {target : String} {s : σ}
    {nodes found : List ClusterNode}
    (hnodes : (api.listNode s).1 = .ok nodes)
    (hfound : nodes.filterM (ClusterNode.beginsWith target) = .ok found) :
    (found.length : Int) = nodes.length ↔ ∃ nodes, (api.listNode s).1 = .ok nodes ∧
      ∀ node ∈ nodes, node.beginsWith target = .ok true := by
  rw [Nat.cast_inj,hnodes]
  constructor
  · exact fun h => ⟨nodes,rfl,filterM_all.mp ⟨found,hfound,h⟩⟩
  · rintro ⟨_,⟨⟩,hall⟩
    obtain ⟨found',hfound',hlength⟩ := filterM_all.mpr hall
    rw [hfound] at hfound'
    cases hfound'
    exact hlength

/-- The check passes if the versions of all nodes begin with the target and no pod is bad. -/
theorem runVerifyPhase_passed (api : ClusterApi σ) (target : String) (desired : Dict) (s : σ) :
    ∃ verify s', runVerifyPhase api target desired s = (.ok verify,s') ∧
      (verify.get? "passed" = some (.bool true) ↔
        (∃ nodes, (api.listNode s).1 = .ok nodes ∧
          ∀ node ∈ nodes, node.beginsWith target = .ok true) ∧
        podsHealthy (api.listNamespacedPod (.str "kube-system") (afterNodes api s)).1 = true ∧
        podsHealthy (api.listNamespacedPod (healthNamespace desired) (afterSystemPods api s)).1 =
          true) := by
  refine ⟨_,_,rfl,?_⟩
  rw [Dict.get?_set_self,Option.some.injEq,Json.bool.injEq]
  change versionPassed (Py.tryExcept (verifyChecks api target (healthNamespace desired))
    (fun e => noteVerify "error" (.str e.str)) (s,initialVerify)).2.2 = true ↔ _
  rcases checkNodes_cases api target initialVerify s with
    ⟨nodes,found,hnodes,hfound,hrun⟩ | ⟨e,hrun,hnodes⟩
  · rw [← found_all_iff hnodes hfound]
    have hnoted := Noted.initial.set_nodes found.length nodes.length
    have hchecks : verifyChecks api target (healthNamespace desired) (s,initialVerify) = _ :=
      Py.bind_ok hrun
    generalize (initialVerify.set "nodes_total" (.int nodes.length)).set
      "nodes_at_target_version" (.int found.length) = v at hnoted hchecks
    rcases checkPods_cases api (.str "kube-system") "system_pods_ready" v
      (afterNodes api s) with ⟨pods,hpods,hrun⟩ | ⟨e,hrun,hpods⟩
    · rw [hpods]
      rw [Py.bind_ok hrun] at hchecks
      rcases checkPods_cases api (healthNamespace desired) "workload_health_ok"
        (v.set "system_pods_ready" (.bool pods)) (afterSystemPods api s) with
        ⟨workload,hworkload,hrun⟩ | ⟨e,hrun,hworkload⟩
      · rw [hworkload,Py.tryExcept_ok (hchecks.trans hrun)]
        exact ((hnoted.set_pods pods).set_workload workload).passed_iff
      · rw [hworkload,Py.tryExcept_error (hchecks.trans hrun)]
        exact ((hnoted.set_pods pods).set_error (.str e.str)).passed_iff
    · rw [hpods,Py.tryExcept_error (hchecks.trans (Py.bind_error hrun))]
      refine (hnoted.set_error (.str e.str)).passed_iff.trans ?_
      simp
  · have herror : verifyChecks api target (healthNamespace desired) (s,initialVerify) = _ :=
      Py.bind_error hrun
    rw [Py.tryExcept_error herror]
    refine (Noted.initial.set_error (.str e.str)).passed_iff.trans ?_
    constructor
    · rintro ⟨-,hfalse,-⟩
      cases hfalse
    · rintro ⟨⟨nodes,hanswer,hall⟩,-⟩
      obtain ⟨found,hfound,-⟩ := filterM_all.mpr hall
      exact absurd hfound (hnodes nodes hanswer found)

end Verifying

/-- The roll reports success only if it has seen all nodes upgraded, and it counts the nodes that it
has seen so. -/
structure RollExact (target : String) (nodeNames : List String) (result : Dict)
    (drained : List (DrainedNode σ)) : Prop where
  success : result.get? "result" = some (.str "success") →
    drained.map DrainedNode.node = nodeNames ∧ ∀ d ∈ drained, d.observed target = true
  upgraded : result.get? "nodes_upgraded" =
    some (.int (drained.countP (DrainedNode.observed target)))

/-- The check passes only if all nodes of the cluster run the target. -/
def VerifyExact (api : ClusterApi σ) (target : String) (s : σ) (verify : Dict) : Prop :=
  verify.get? "passed" = some (.bool true) →
    ∃ nodes, (api.listNode s).1 = .ok nodes ∧ ∀ node ∈ nodes, node.runs target = true

/-- The pods are healthy and the versions of all listed nodes begin with the target, of which one is
longer. -/
structure LongerListed (api : ClusterApi σ) (target : String) (desired : Dict) (s : σ)
    (nodes : List ClusterNode) : Prop where
  listed : (api.listNode s).1 = .ok nodes
  begin : ∀ node ∈ nodes, node.beginsWith target = .ok true
  longer : ∃ node ∈ nodes, node.runs target = false
  systemPods : podsHealthy (api.listNamespacedPod (.str "kube-system") (afterNodes api s)).1 = true
  workload : podsHealthy
    (api.listNamespacedPod (healthNamespace desired) (afterSystemPods api s)).1 = true

theorem rollExact_iff {api : ClusterApi σ} {target : String} {desired entry result : Dict}
    {nodeNames : List String} {drained : List (DrainedNode σ)} {s s' : σ}
    (hrun : rollPool api nodeNames target desired entry s = (.ok (result,drained),s')) :
    RollExact target nodeNames result drained ↔
      ∀ d ∈ drained, ReachesTarget api target d.node d.start := by
  obtain ⟨hnames,hcount,hobserved⟩ := rollPool_counts hrun
  have hall : drained.countP (DrainedNode.observed target) = drained.length ↔
      ∀ d ∈ drained, ReachesTarget api target d.node d.start := by
    rw [List.countP_eq_length]
    exact forall₂_congr hobserved
  rw [← hall]
  constructor
  · intro h
    have heq := h.upgraded
    rw [hcount,Option.some.injEq,Json.int.injEq,Nat.cast_inj] at heq
    exact heq.symm
  · intro h
    refine ⟨fun hsuccess => ⟨hnames hsuccess,List.countP_eq_length.mp h⟩,?_⟩
    rw [hcount,h]

theorem verifyExact_iff {api : ClusterApi σ} {target : String} {desired verify : Dict} {s s' : σ}
    (hrun : runVerifyPhase api target desired s = (.ok verify,s')) :
    VerifyExact api target s verify ↔ ∀ nodes, ¬LongerListed api target desired s nodes := by
  obtain ⟨_,_,hverify,hpassed⟩ := runVerifyPhase_passed api target desired s
  obtain ⟨hsome,-⟩ := Prod.mk.inj (hrun.symm.trans hverify)
  obtain rfl := Except.ok.inj hsome
  unfold VerifyExact
  rw [hpassed]
  constructor
  · rintro h nodes ⟨hlisted,hbegin,⟨node,hmem,hlonger⟩,hsystem,hworkload⟩
    obtain ⟨nodes',hlisted',hruns⟩ := h ⟨⟨nodes,hlisted,hbegin⟩,hsystem,hworkload⟩
    rw [hlisted] at hlisted'
    cases hlisted'
    simp [hruns node hmem] at hlonger
  · rintro h ⟨⟨nodes,hlisted,hbegin⟩,hsystem,hworkload⟩
    refine ⟨nodes,hlisted,fun node hmem => ?_⟩
    by_contra hlonger
    exact h nodes ⟨hlisted,hbegin,⟨node,hmem,Bool.eq_false_iff.mpr hlonger⟩,hsystem,hworkload⟩

/-- A roll reports and counts the nodes that run the target, and only these, if and only if none of
its polls runs out or ends with a longer version; the check at the end passes only for the target
unless all versions begin with it. -/
theorem node_versions_exact_iff (api : ClusterApi σ) (target : String) (desired : Dict) :
    (∀ (nodeNames : List String) (entry result : Dict) (drained : List (DrainedNode σ)) (s s' : σ),
      rollPool api nodeNames target desired entry s = (.ok (result,drained),s') →
        (RollExact target nodeNames result drained ↔
          ∀ d ∈ drained, ReachesTarget api target d.node d.start)) ∧
    ∀ (verify : Dict) (s s' : σ), runVerifyPhase api target desired s = (.ok verify,s') →
      (VerifyExact api target s verify ↔ ∀ nodes, ¬LongerListed api target desired s nodes) :=
  ⟨fun _ _ _ _ _ _ => rollExact_iff,fun _ _ _ => verifyExact_iff⟩

/-- A cluster whose nodes always answer the same. -/
def steadyCluster (answer : Except Exc ClusterNode) : ClusterApi Unit where
  kubeconfigPath := none
  setUnschedulable := fun _ _ => pure ()
  listPodDisruptionBudgets := none
  runCommand := fun _ _ => pure (0,"")
  readNode := fun _ => Py.ofExcept answer
  listNode := Py.ofExcept (answer.map fun node => [node])
  listNamespacedPod := fun _ => pure []
  now := fun _ => ""

def readyNode (version : String) : Except Exc ClusterNode :=
  .ok ⟨.ok [("Ready","True")],.ok version⟩

/-- The node is rolled and counted as upgraded, whatever it answers. -/
def rolledEntry : Dict :=
  [("nodes_total",.int 1),("nodes_upgraded",.int 1),("nodes_failed",.int 0),
    ("pdb_violations",.arr []),("result",.str "success"),("completed_at",.str "")]

theorem same_version_upgraded :
    ∃ drained, rollPool (steadyCluster (readyNode "v1.28.1")) ["w1"] "1.28.1" [] [] () =
        (.ok (rolledEntry,drained),()) ∧
      RollExact "1.28.1" ["w1"] rolledEntry drained ∧
      ∃ verify, runVerifyPhase (steadyCluster (readyNode "v1.28.1")) "1.28.1" [] () =
          (.ok verify,()) ∧
        VerifyExact (steadyCluster (readyNode "v1.28.1")) "1.28.1" () verify := by
  have h := node_versions_exact_iff (steadyCluster (readyNode "v1.28.1")) "1.28.1" []
  refine ⟨_,rfl,(h.1 ["w1"] [] _ _ () () rfl).mpr ?_,_,rfl,(h.2 _ () () rfl).mpr ?_⟩
  · intro d hd
    obtain rfl := List.mem_singleton.mp hd
    exact ⟨_,rfl,rfl⟩
  · rintro nodes ⟨hlisted,-,⟨node,hmem,hlonger⟩,-,-⟩
    obtain rfl := Except.ok.inj hlisted
    obtain rfl := List.mem_singleton.mp hmem
    exact absurd hlonger (by decide)

/-- A node with a longer version is reported and passes, and so is one that is never read. -/
theorem longer_version_upgraded :
    (∃ drained, rollPool (steadyCluster (readyNode "v1.28.10")) ["w1"] "1.28.1" [] [] () =
        (.ok (rolledEntry,drained),()) ∧ ¬RollExact "1.28.1" ["w1"] rolledEntry drained) ∧
    (∃ drained, rollPool (steadyCluster (.error .typeError)) ["w1"] "1.28.1" [] [] () =
        (.ok (rolledEntry,drained),()) ∧ ¬RollExact "1.28.1" ["w1"] rolledEntry drained) ∧
    ∃ verify, runVerifyPhase (steadyCluster (readyNode "v1.28.10")) "1.28.1" [] () =
        (.ok verify,()) ∧
      ¬VerifyExact (steadyCluster (readyNode "v1.28.10")) "1.28.1" () verify := by
  refine ⟨⟨_,rfl,?_⟩,⟨_,rfl,?_⟩,_,rfl,?_⟩
  · intro h
    exact absurd ((h.success rfl).2 _ List.mem_cons_self) (by decide)
  · intro h
    exact absurd ((h.success rfl).2 _ List.mem_cons_self) (by decide)
  · intro h
    obtain ⟨nodes,hlisted,hruns⟩ := h rfl
    obtain rfl := Except.ok.inj hlisted
    exact absurd (hruns _ List.mem_cons_self) (by decide)

end Nexplane
