import Nexplane.Lib.Lists
import Nexplane.Lib.PyValue
import Mathlib.Logic.Function.Basic

set_option autoImplicit false

/-! The updates of references in Kubernetes objects and AWS resources, each with its rollback by
value. -/

namespace Nexplane
open PyValue Lists

abbrev TextMap := String → Option String

structure EnvVar where
  name : String
  value : Option String
  deriving DecidableEq

structure Container where
  name : String
  image : Option String
  env : List EnvVar
  deriving DecidableEq

structure IngressRule where
  host : Option String
  deriving DecidableEq

structure SsmParameter where
  type : String
  value : String
  deriving DecidableEq

/-- An answer that is not `updated`. -/
structure NotUpdated where
  status : String
  reason : String

section Resources
variable (name key container envVar old new : String)

/-- A text or None in an f-string. -/
def optionText (text : Option String) : String := text.getD "None"

def skippedValue (current : Option String) : NotUpdated :=
  ⟨"skipped","current value '" ++ optionText current ++ "' != expected old_value '" ++ old ++ "'"⟩

def updateConfigmapValue (data : TextMap) : Except NotUpdated TextMap :=
  if data key ≠ some old then .error (skippedValue old (data key))
  else .ok (Function.update data key (some new))

def rollbackConfigmapValue (data : TextMap) : TextMap := Function.update data key (some old)

def updateDeploymentImage (containers : List Container) : Except NotUpdated (List Container) :=
  match containers.find? fun c => c.name = container with
  | none =>
    .error ⟨"skipped","container '" ++ container ++ "' not found in deployment '" ++ name ++ "'"⟩
  | some c =>
    if c.image ≠ some old then
      .error ⟨"skipped","current image '" ++ optionText c.image ++ "' != expected old_image '" ++
        old ++ "'"⟩
    else
      .ok (updateFirst (fun c => c.name = container) (fun c => { c with image := some new })
        containers)

def rollbackDeploymentImage (containers : List Container) : List Container :=
  updateFirst (fun c => c.name = container) (fun c => { c with image := some old }) containers

/-- The first variable of the name in the first container of the name. -/
def setEnvVar (value : String) (containers : List Container) : List Container :=
  let setValue : List EnvVar → List EnvVar :=
    updateFirst (fun e => e.name = envVar) fun e => { e with value := some value }
  updateFirst (fun c => c.name = container) (fun c => { c with env := setValue c.env }) containers

def updateDeploymentEnvVar (containers : List Container) : Except NotUpdated (List Container) :=
  match (containers.find? fun c => c.name = container).bind fun c =>
    c.env.find? fun e => e.name = envVar with
  | none =>
    .error ⟨"skipped","env var '" ++ envVar ++ "' not found in container '" ++ container ++ "'"⟩
  | some e =>
    if e.value ≠ some old then .error (skippedValue old e.value)
    else .ok (setEnvVar container envVar new containers)

def rollbackDeploymentEnvVar (containers : List Container) : List Container :=
  setEnvVar container envVar old containers

def replaceHost (before after : String) (rules : List IngressRule) : List IngressRule :=
  rules.map fun rule =>
    if rule.host = some before then { rule with host := some after } else rule

def updateIngressHost (rules : List IngressRule) : Except NotUpdated (List IngressRule) :=
  if rules.any fun rule => rule.host = some old then .ok (replaceHost old new rules)
  else .error ⟨"skipped","host " ++ old ++ " not found in ingress rules"⟩

def rollbackIngressHost (rules : List IngressRule) : List IngressRule := replaceHost new old rules

def updateLambdaEnvVar (vars : TextMap) : Except NotUpdated TextMap :=
  if vars key ≠ some old then .error (skippedValue old (vars key))
  else .ok (Function.update vars key (some new))

def rollbackLambdaEnvVar (vars : TextMap) : TextMap :=
  Function.update vars key (some old)

def updateSsmParameterValue (parameter : SsmParameter) : Except NotUpdated SsmParameter :=
  if parameter.type = "SecureString" then
    .error ⟨"error",
      "SecureString parameters are not supported — use Secrets Manager for encrypted values"⟩
  else if parameter.value ≠ old then .error (skippedValue old (some parameter.value))
  else .ok { parameter with value := new }

def rollbackSsmParameterValue (parameter : SsmParameter) : SsmParameter :=
  { parameter with value := old }

/-- A description that is missing is read as the empty one. -/
def updateSecretDescription (description : String) : Except NotUpdated String :=
  if description ≠ old then
    .error ⟨"skipped","current description '" ++ description ++ "' != expected old_description '" ++
      old ++ "'"⟩
  else .ok new

def rollbackSecretDescription (_ : String) : String := old

end Resources

inductive ResourceKind where
  | configMap
  | deployment
  | ingress
  | function
  | parameter
  | secret
  deriving DecidableEq

/-- What an update can change of a resource of the kind. -/
abbrev Resource : ResourceKind → Type
  | .configMap => TextMap
  | .deployment => List Container
  | .ingress => List IngressRule
  | .function => TextMap
  | .parameter => SsmParameter
  | .secret => String

/-- The parameters of the seven actions, apart from the old and the new value. -/
inductive ReferenceTarget where
  | configmapValue (namespace_ name key : String)
  | deploymentImage (namespace_ name container : String)
  | deploymentEnvVar (namespace_ name container envVar : String)
  | ingressHost (namespace_ name : String)
  | lambdaEnvVar (region : Option String) (arn key : String)
  | ssmParameterValue (region : Option String) (name : String)
  | secretDescription (region : Option String) (arn : String)

/-- Where a client finds a resource. -/
inductive Place (κ : Type) where
  | inCluster (cluster : κ) (namespace_ name : String)
  | inRegion (region : Option String) (name : String)
  deriving DecidableEq

abbrev Cloud (κ : Type) := (kind : ResourceKind) → Place κ → Option (Resource kind)

def Cloud.put {κ : Type} [DecidableEq κ] (cloud : Cloud κ) (kind : ResourceKind) (place : Place κ)
    (resource : Resource kind) : Cloud κ :=
  Function.update cloud kind (Function.update (cloud kind) place (some resource))

namespace ReferenceTarget

def kind : ReferenceTarget → ResourceKind
  | .configmapValue _ _ _ => .configMap
  | .deploymentImage _ _ _ => .deployment
  | .deploymentEnvVar _ _ _ _ => .deployment
  | .ingressHost _ _ => .ingress
  | .lambdaEnvVar _ _ _ => .function
  | .ssmParameterValue _ _ => .parameter
  | .secretDescription _ _ => .secret

def update (old new : String) :
    (t : ReferenceTarget) → Resource t.kind → Except NotUpdated (Resource t.kind)
  | .configmapValue _ _ key => updateConfigmapValue key old new
  | .deploymentImage _ name container => updateDeploymentImage name container old new
  | .deploymentEnvVar _ _ container envVar => updateDeploymentEnvVar container envVar old new
  | .ingressHost _ _ => updateIngressHost old new
  | .lambdaEnvVar _ _ key => updateLambdaEnvVar key old new
  | .ssmParameterValue _ _ => updateSsmParameterValue old new
  | .secretDescription _ _ => updateSecretDescription old new

def rollback (old new : String) : (t : ReferenceTarget) → Resource t.kind → Resource t.kind
  | .configmapValue _ _ key => rollbackConfigmapValue key old
  | .deploymentImage _ _ container => rollbackDeploymentImage container old
  | .deploymentEnvVar _ _ container envVar => rollbackDeploymentEnvVar container envVar old
  | .ingressHost _ _ => rollbackIngressHost old new
  | .lambdaEnvVar _ _ key => rollbackLambdaEnvVar key old
  | .ssmParameterValue _ _ => rollbackSsmParameterValue old
  | .secretDescription _ _ => rollbackSecretDescription old

end ReferenceTarget

section Executors
variable {κ : Type} [DecidableEq κ] (clusterOf : String → Except Exc κ)

/-- The cluster that the client is for, with the kubeconfig of the parameters before the one of the
connector. -/
def getK8sClient (parameterConfig connectorConfig : String) : Except Exc (Option κ) :=
  let kubeconfig := if parameterConfig ≠ "" then parameterConfig else connectorConfig
  if kubeconfig = "" then .ok none else (clusterOf kubeconfig).map some

def ReferenceTarget.place (parameterConfig connectorConfig : String) :
    ReferenceTarget → Except Exc (Option (Place κ))
  | .configmapValue namespace_ name _ | .deploymentImage namespace_ name _
  | .deploymentEnvVar namespace_ name _ _ | .ingressHost namespace_ name =>
    (getK8sClient clusterOf parameterConfig connectorConfig).map
      (Option.map fun cluster => .inCluster cluster namespace_ name)
  | .lambdaEnvVar region arn _ => .ok (some (.inRegion region arn))
  | .ssmParameterValue region name => .ok (some (.inRegion region name))
  | .secretDescription region arn => .ok (some (.inRegion region arn))

/-- The new value is kept for an Ingress only. -/
structure RollbackData where
  target : ReferenceTarget
  old : String
  new : String

structure ReferenceCall where
  target : ReferenceTarget
  old : String
  new : String
  kubeconfig : String

def notFound : Exc := .other "NotFound"

/-- `refusal` is the error of a write that is refused. -/
def updateReference (connectorConfig : String) (call : ReferenceCall) (refusal : Option Exc)
    (cloud : Cloud κ) : Except Exc (Except NotUpdated RollbackData) × Cloud κ :=
  match call.target.place clusterOf call.kubeconfig connectorConfig with
  | .error e => (.error e,cloud)
  | .ok none => (.ok (.error ⟨"error","No kubeconfig available"⟩),cloud)
  | .ok (some place) =>
    match cloud call.target.kind place with
    | none => (.error notFound,cloud)
    | some resource =>
      match call.target.update call.old call.new resource with
      | .error answer => (.ok (.error answer),cloud)
      | .ok resource' =>
        match refusal with
        | some e => (.error e,cloud)
        | none =>
          (.ok (.ok ⟨call.target,call.old,call.new⟩),cloud.put call.target.kind place resource')

def rollbackReference (connectorConfig : String) (data : RollbackData) (cloud : Cloud κ) :
    Except Exc (Except NotUpdated Unit) × Cloud κ :=
  match data.target.place clusterOf "" connectorConfig with
  | .error e => (.error e,cloud)
  | .ok none => (.ok (.error ⟨"error","No kubeconfig available"⟩),cloud)
  | .ok (some place) =>
    match cloud data.target.kind place with
    | none => (.error notFound,cloud)
    | some resource =>
      (.ok (.ok ()),cloud.put data.target.kind place
        (data.target.rollback data.old data.new resource))

end Executors

section Values
variable {old new key container envVar : String}

namespace ReferenceTarget

/-- The resource has the old value where the update looks for it. -/
def Finds (old : String) : (t : ReferenceTarget) → Resource t.kind → Prop
  | .configmapValue _ _ key, data => data key = some old
  | .deploymentImage _ _ container, containers =>
    ∃ c, (containers.find? fun c => c.name = container) = some c ∧ c.image = some old
  | .deploymentEnvVar _ _ container envVar, containers =>
    ∃ c e, (containers.find? fun c => c.name = container) = some c ∧
      (c.env.find? fun e => e.name = envVar) = some e ∧ e.value = some old
  | .ingressHost _ _, (rules : List IngressRule) => ∃ rule ∈ rules, rule.host = some old
  | .lambdaEnvVar _ _ key, vars => vars key = some old
  | .ssmParameterValue _ _, parameter =>
    parameter.type ≠ "SecureString" ∧ parameter.value = old
  | .secretDescription _ _, description => description = old

/-- No rule of an Ingress has the new host yet. -/
def Spare (new : String) : (t : ReferenceTarget) → Resource t.kind → Prop
  | .ingressHost _ _, (rules : List IngressRule) => ∀ rule ∈ rules, rule.host ≠ some new
  | _, _ => True

end ReferenceTarget

theorem replaceHost_undo_iff {rules : List IngressRule} (hne : old ≠ new) :
    replaceHost new old (replaceHost old new rules) = rules ↔
      ∀ rule ∈ rules, rule.host ≠ some new := by
  rw [replaceHost,replaceHost,List.map_map]
  constructor
  · intro hsame rule hrule hhost
    have hback := List.map_inj_left.mp (hsame.trans (List.map_id rules).symm) rule hrule
    have hold : rule.host ≠ some old := by
      rw [hhost]
      simpa using Ne.symm hne
    rw [Function.comp_apply,if_neg hold,if_pos hhost] at hback
    exact hold (congrArg IngressRule.host hback).symm
  · intro hspare
    refine (List.map_congr_left fun rule hrule => ?_).trans (List.map_id rules)
    rw [Function.comp_apply,id]
    by_cases hold : rule.host = some old
    · rw [if_pos hold,if_pos rfl,← hold]
    · rw [if_neg hold,if_neg (hspare rule hrule)]

theorem replaceHost_eq_self_iff {rules : List IngressRule}
    (hold : ∃ rule ∈ rules, rule.host = some old) :
    replaceHost old new rules = rules ↔ old = new := by
  obtain ⟨rule,hrule,hhost⟩ := hold
  constructor
  · intro hsame
    have hkept := List.map_inj_left.mp (hsame.trans (List.map_id rules).symm) rule hrule
    rw [if_pos hhost] at hkept
    have hnew : some new = rule.host := congrArg IngressRule.host hkept
    exact (Option.some.inj (hnew.trans hhost)).symm
  · rintro rfl
    refine (List.map_congr_left fun rule _ => ?_).trans (List.map_id rules)
    rw [id]
    split
    · next hold => rw [← hold]
    · rfl

theorem guarded_eq_ok {α ε : Type} {c : Prop} [Decidable c] {e : ε} {a b : α} :
    (if c then Except.error e else .ok a) = .ok b ↔ ¬c ∧ b = a := by
  split
  · simp_all
  · simp_all [eq_comm]

section Each
variable {name : String} {containers containers' : List Container} {rules rules' : List IngressRule}
  {parameter parameter' : SsmParameter} {c : Container} {e : EnvVar}

theorem updateDeploymentImage_ok :
    updateDeploymentImage name container old new containers = .ok containers' ↔
      (∃ c, (containers.find? fun c => c.name = container) = some c ∧ c.image = some old) ∧
        containers' = rollbackDeploymentImage container new containers := by
  rw [updateDeploymentImage]
  cases hfind : containers.find? fun c => c.name = container with
  | none => simp
  | some c =>
    refine guarded_eq_ok.trans ?_
    simp [rollbackDeploymentImage]

theorem updateDeploymentEnvVar_ok :
    updateDeploymentEnvVar container envVar old new containers = .ok containers' ↔
      (∃ c e, (containers.find? fun c => c.name = container) = some c ∧
        (c.env.find? fun e => e.name = envVar) = some e ∧ e.value = some old) ∧
        containers' = rollbackDeploymentEnvVar container envVar new containers := by
  rw [updateDeploymentEnvVar]
  cases hfind : containers.find? fun c => c.name = container with
  | none => simp
  | some c =>
    rw [Option.bind_some]
    cases hvar : c.env.find? fun e => e.name = envVar with
    | none => simp [hvar]
    | some e =>
      refine guarded_eq_ok.trans ?_
      simp [hvar,rollbackDeploymentEnvVar]

theorem updateIngressHost_ok : updateIngressHost old new rules = .ok rules' ↔
    (∃ rule ∈ rules, rule.host = some old) ∧ rules' = rollbackIngressHost new old rules := by
  rw [updateIngressHost,rollbackIngressHost]
  split
  · next hany =>
    have hold : ∃ rule ∈ rules, rule.host = some old := by simpa using hany
    simp [hold,eq_comm]
  · next hany =>
    have hold : ¬∃ rule ∈ rules, rule.host = some old := by simpa using hany
    simp [hold]

theorem updateSsmParameterValue_ok : updateSsmParameterValue old new parameter = .ok parameter' ↔
    (parameter.type ≠ "SecureString" ∧ parameter.value = old) ∧
      parameter' = rollbackSsmParameterValue new parameter := by
  rw [updateSsmParameterValue,rollbackSsmParameterValue]
  by_cases hsecure : parameter.type = "SecureString"
  · simp [hsecure]
  · rw [if_neg hsecure]
    refine guarded_eq_ok.trans ?_
    simp [hsecure]

theorem updateSecretDescription_ok {description description' : String} :
    updateSecretDescription old new description = .ok description' ↔
      description = old ∧ description' = rollbackSecretDescription new description :=
  guarded_eq_ok.trans (by rw [not_not]; rfl)

theorem rollbackDeploymentImage_undo
    (hfind : (containers.find? fun c => c.name = container) = some c) (hold : c.image = some old) :
    rollbackDeploymentImage container old (rollbackDeploymentImage container new containers) =
      containers := by
  refine updateFirst_undo hfind ?_ (by rw [← hold])
  simpa using List.find?_some hfind

theorem rollbackDeploymentImage_eq_self_iff
    (hfind : (containers.find? fun c => c.name = container) = some c) (hold : c.image = some old) :
    rollbackDeploymentImage container new containers = containers ↔ old = new := by
  refine (updateFirst_eq_self_iff hfind).trans ⟨fun hsame => ?_,?_⟩
  · have himage : some new = c.image := congrArg Container.image hsame
    exact (Option.some.inj (himage.trans hold)).symm
  · rintro rfl
    rw [← hold]

theorem rollbackDeploymentEnvVar_undo
    (hfind : (containers.find? fun c => c.name = container) = some c)
    (hvar : (c.env.find? fun e => e.name = envVar) = some e) (hold : e.value = some old) :
    rollbackDeploymentEnvVar container envVar old
      (rollbackDeploymentEnvVar container envVar new containers) = containers := by
  refine updateFirst_undo hfind (by simpa using List.find?_some hfind) ?_
  have henv : _ = c.env := updateFirst_undo hvar
    (f := fun e => { e with value := some new }) (g := fun e => { e with value := some old })
    (by simpa using List.find?_some hvar) (by rw [← hold])
  dsimp only
  rw [henv]

theorem rollbackDeploymentEnvVar_eq_self_iff
    (hfind : (containers.find? fun c => c.name = container) = some c)
    (hvar : (c.env.find? fun e => e.name = envVar) = some e) (hold : e.value = some old) :
    rollbackDeploymentEnvVar container envVar new containers = containers ↔ old = new := by
  refine (updateFirst_eq_self_iff hfind).trans ?_
  have henv := @updateFirst_eq_self_iff EnvVar _ (fun e => { e with value := some new }) _ _ hvar
  constructor
  · intro hsame
    have hvalue := henv.mp (congrArg Container.env hsame)
    exact (Option.some.inj ((congrArg EnvVar.value hvalue).trans hold)).symm
  · rintro rfl
    have hkept := henv.mpr (by rw [← hold])
    rw [hkept]

theorem update_text_eq_self_iff {texts : TextMap} (hold : texts key = some old) :
    Function.update texts key (some new) = texts ↔ old = new := by
  rw [Function.update_eq_self_iff,hold,Option.some.injEq,eq_comm]

end Each

theorem update_eq_ok_iff (t : ReferenceTarget) (r r' : Resource t.kind) :
    t.update old new r = .ok r' ↔ t.Finds old r ∧ r' = t.rollback new old r := by
  cases t with
  | configmapValue namespace_ name key => exact guarded_eq_ok.trans (by rw [not_not]; rfl)
  | deploymentImage namespace_ name container => exact updateDeploymentImage_ok
  | deploymentEnvVar namespace_ name container envVar => exact updateDeploymentEnvVar_ok
  | ingressHost namespace_ name => exact updateIngressHost_ok
  | lambdaEnvVar region arn key => exact guarded_eq_ok.trans (by rw [not_not]; rfl)
  | ssmParameterValue region name => exact updateSsmParameterValue_ok
  | secretDescription region arn =>
    exact updateSecretDescription_ok

/-- What an update writes is what it found just when the two values are the same. -/
theorem written_eq_self_iff (t : ReferenceTarget) (r : Resource t.kind) (h : t.Finds old r) :
    t.rollback new old r = r ↔ old = new := by
  cases t with
  | configmapValue namespace_ name key => exact update_text_eq_self_iff h
  | deploymentImage namespace_ name container =>
    obtain ⟨c,hfind,hold⟩ := h
    exact rollbackDeploymentImage_eq_self_iff hfind hold
  | deploymentEnvVar namespace_ name container envVar =>
    obtain ⟨c,e,hfind,hvar,hold⟩ := h
    exact rollbackDeploymentEnvVar_eq_self_iff hfind hvar hold
  | ingressHost namespace_ name => exact replaceHost_eq_self_iff h
  | lambdaEnvVar region arn key => exact update_text_eq_self_iff h
  | ssmParameterValue region name =>
    obtain ⟨-,rfl⟩ := h
    exact ⟨fun hsame => (congrArg SsmParameter.value hsame).symm,by rintro rfl; rfl⟩
  | secretDescription region arn =>
    obtain rfl := h
    exact eq_comm

/-- A rollback by value takes an update back, but for a host that was already there. -/
theorem rollback_undo_iff (t : ReferenceTarget) (r : Resource t.kind) (h : t.Finds old r) :
    t.rollback old new (t.rollback new old r) = r ↔ old = new ∨ t.Spare new r := by
  have htexts : ∀ {key : String} {texts : TextMap}, texts key = some old →
      Function.update (Function.update texts key (some new)) key (some old) = texts := by
    intro key texts hold
    rw [Function.update_idem,← hold,Function.update_eq_self]
  cases t with
  | configmapValue namespace_ name key => exact iff_of_true (htexts h) (.inr trivial)
  | deploymentImage namespace_ name container =>
    obtain ⟨c,hfind,hold⟩ := h
    exact iff_of_true (rollbackDeploymentImage_undo hfind hold) (.inr trivial)
  | deploymentEnvVar namespace_ name container envVar =>
    obtain ⟨c,e,hfind,hvar,hold⟩ := h
    exact iff_of_true (rollbackDeploymentEnvVar_undo hfind hvar hold) (.inr trivial)
  | ingressHost namespace_ name =>
    by_cases hsame : old = new
    · subst hsame
      have hkept : replaceHost old old r = r := (replaceHost_eq_self_iff h).mpr rfl
      refine iff_of_true ?_ (.inl rfl)
      change replaceHost old old (replaceHost old old r) = r
      rw [hkept,hkept]
    · exact (replaceHost_undo_iff hsame).trans (by simp [hsame,ReferenceTarget.Spare])
  | lambdaEnvVar region arn key => exact iff_of_true (htexts h) (.inr trivial)
  | ssmParameterValue region name =>
    obtain ⟨-,rfl⟩ := h
    exact iff_of_true rfl (.inr trivial)
  | secretDescription region arn => exact iff_of_true h.symm (.inr trivial)

end Values

section Reversal
variable {κ : Type} [DecidableEq κ] {clusterOf : String → Except Exc κ} {connectorConfig : String}
  {call : ReferenceCall} {refusal : Option Exc} {cloud : Cloud κ} {kind : ResourceKind}
  {place place' : Place κ} {resource : Resource kind}

@[simp] theorem Cloud.put_self : cloud.put kind place resource kind place = some resource := by
  rw [Cloud.put,Function.update_self,Function.update_self]

theorem Cloud.put_of_ne (h : place' ≠ place) :
    cloud.put kind place resource kind place' = cloud kind place' := by
  rw [Cloud.put,Function.update_self,Function.update_of_ne h]

/-- After an update its rollback returns the resource to what it was, and a call that does not
update leaves everything as it was. -/
def Reversible (clusterOf : String → Except Exc κ) (connectorConfig : String) (call : ReferenceCall)
    (refusal : Option Exc) (cloud : Cloud κ) : Prop :=
  match updateReference clusterOf connectorConfig call refusal cloud with
  | (.ok (.ok data),updated) =>
    ∀ place, call.target.place clusterOf call.kubeconfig connectorConfig = .ok (some place) →
      (rollbackReference clusterOf connectorConfig data updated).2 call.target.kind place =
        cloud call.target.kind place
  | (_,left) => left = cloud

/-- The call reaches a resource with the old value. -/
structure Reached (clusterOf : String → Except Exc κ) (connectorConfig : String)
    (call : ReferenceCall) (cloud : Cloud κ) (place : Place κ)
    (resource : Resource call.target.kind) : Prop where
  reaches : call.target.place clusterOf call.kubeconfig connectorConfig = .ok (some place)
  holds : cloud call.target.kind place = some resource
  finds : call.target.Finds call.old resource

/-- The rollback reaches the resource that was updated, and the new value was not there. -/
def RollbackFits (clusterOf : String → Except Exc κ) (connectorConfig : String)
    (call : ReferenceCall) (cloud : Cloud κ) : Prop :=
  ∀ place resource, Reached clusterOf connectorConfig call cloud place resource →
    call.old = call.new ∨
      call.target.place clusterOf "" connectorConfig = .ok (some place) ∧
        call.target.Spare call.new resource

theorem Reached.updateReference_eq {resource : Resource call.target.kind}
    (h : Reached clusterOf connectorConfig call cloud place resource) :
    updateReference clusterOf connectorConfig call refusal cloud =
      match refusal with
      | some e => (.error e,cloud)
      | none => (.ok (.ok ⟨call.target,call.old,call.new⟩),
        cloud.put call.target.kind place (call.target.rollback call.new call.old resource)) := by
  have hupdate : call.target.update call.old call.new resource =
      .ok (call.target.rollback call.new call.old resource) :=
    (update_eq_ok_iff call.target resource _).mpr ⟨h.finds,rfl⟩
  simp only [updateReference,h.reaches,h.holds,hupdate]

theorem updateReference_of_not_reached
    (h : ∀ place resource, ¬Reached clusterOf connectorConfig call cloud place resource) :
    Reversible clusterOf connectorConfig call refusal cloud := by
  unfold Reversible updateReference
  cases hplace : call.target.place clusterOf call.kubeconfig connectorConfig with
  | error e => rfl
  | ok found =>
    cases found with
    | none => rfl
    | some place =>
      dsimp only
      cases hresource : cloud call.target.kind place with
      | none => rfl
      | some resource =>
        dsimp only
        cases hupdate : call.target.update call.old call.new resource with
        | error answer => rfl
        | ok resource' =>
          have hfinds := ((update_eq_ok_iff call.target resource resource').mp hupdate).1
          exact absurd ⟨hplace,hresource,hfinds⟩ (h place resource)

/-- What the rollback makes of the updated resource. -/
theorem Reached.rolledBack_iff {resource : Resource call.target.kind}
    (h : Reached clusterOf connectorConfig call cloud place resource) :
    (rollbackReference clusterOf connectorConfig ⟨call.target,call.old,call.new⟩
        (cloud.put call.target.kind place
          (call.target.rollback call.new call.old resource))).2 call.target.kind place =
        some resource ↔
      call.old = call.new ∨
        call.target.place clusterOf "" connectorConfig = .ok (some place) ∧
          call.target.Spare call.new resource := by
  have hleft : (some (call.target.rollback call.new call.old resource) = some resource) ↔
      call.old = call.new := by
    rw [Option.some.injEq]
    exact written_eq_self_iff call.target resource h.finds
  rw [rollbackReference]
  dsimp only
  match hback : call.target.place clusterOf "" connectorConfig with
  | .error e => simp [hleft]
  | .ok none => simp [hleft]
  | .ok (some other) =>
    dsimp only
    by_cases hsame : other = place
    · subst hsame
      rw [Cloud.put_self]
      dsimp only
      rw [Cloud.put_self,Option.some.injEq]
      refine (rollback_undo_iff call.target resource h.finds).trans ?_
      simp
    · -- the updated resource is left as it is
      have hkept : ∀ back : Except Exc (Except NotUpdated Unit) × Cloud κ,
          (back.2 call.target.kind place =
            some (call.target.rollback call.new call.old resource)) →
          (back.2 call.target.kind place = some resource ↔ call.old = call.new ∨
            (Except.ok (some other) : Except Exc (Option (Place κ))) = .ok (some place) ∧
              call.target.Spare call.new resource) := by
        intro back hback
        rw [hback,hleft]
        simp [hsame]
      split
      · exact hkept _ Cloud.put_self
      · exact hkept _ ((Cloud.put_of_ne (Ne.symm hsame)).trans Cloud.put_self)

theorem reversible_iff_fits : Reversible clusterOf connectorConfig call refusal cloud ↔
    (refusal = none → RollbackFits clusterOf connectorConfig call cloud) := by
  by_cases hreached : ∃ place resource, Reached clusterOf connectorConfig call cloud place resource
  · obtain ⟨place,resource,h⟩ := hreached
    have hplace : ∀ {other}, call.target.place clusterOf call.kubeconfig connectorConfig =
        .ok (some other) → place = other := fun hother =>
      Option.some.inj (Except.ok.inj (h.reaches.symm.trans hother))
    have hback := h.rolledBack_iff
    cases refusal with
    | some e => simp [Reversible,h.updateReference_eq]
    | none =>
      rw [Reversible,h.updateReference_eq]
      constructor
      · intro hreversed _ place' resource' h'
        obtain rfl := hplace h'.reaches
        obtain rfl : resource = resource' := Option.some.inj (h.holds.symm.trans h'.holds)
        exact hback.mp ((hreversed place h.reaches).trans h.holds)
      · intro hfits other hother
        obtain rfl := hplace hother
        exact (hback.mpr (hfits rfl place resource h)).trans h.holds.symm
  · have hnone : ∀ place resource, ¬Reached clusterOf connectorConfig call cloud place resource :=
      fun place resource h => hreached ⟨place,resource,h⟩
    exact iff_of_true (updateReference_of_not_reached hnone)
      fun _ place resource h => absurd h (hnone place resource)

/-- An update is reversible just when it changes nothing, or its rollback goes to the same cluster
and finds the new value only where the update put it. -/
theorem reference_update_reversible_iff (clusterOf : String → Except Exc κ)
    (connectorConfig : String) (call : ReferenceCall) (refusal : Option Exc) (cloud : Cloud κ) :
    Reversible clusterOf connectorConfig call refusal cloud ↔
      (refusal = none → RollbackFits clusterOf connectorConfig call cloud) := reversible_iff_fits

/-- An Ingress with a rule for the old host and one for the new host. -/
def twoHosts : Cloud Unit
  | .ingress, _ => some [⟨some "old.example.com"⟩,⟨some "new.example.com"⟩]
  | _, _ => none

/-- The rollback takes the rule with it that had the new host before. -/
theorem ingress_rules_merged : ¬ ∀ (connectorConfig : String) (call : ReferenceCall)
    (cloud : Cloud Unit), Reversible (fun _ => .ok ()) connectorConfig call none cloud := by
  intro hall
  have hfits := reversible_iff_fits.mp (hall "kubeconfig"
    ⟨.ingressHost "default" "web","old.example.com","new.example.com",""⟩ twoHosts) rfl
  have hreached : Reached (fun _ => .ok ()) "kubeconfig"
      ⟨.ingressHost "default" "web","old.example.com","new.example.com",""⟩ twoHosts
      (.inCluster () "default" "web") [⟨some "old.example.com"⟩,⟨some "new.example.com"⟩] :=
    ⟨rfl,rfl,⟨some "old.example.com"⟩,List.mem_cons_self,rfl⟩
  rcases hfits _ _ hreached with hsame | ⟨-,hspare⟩
  · exact absurd hsame (by decide)
  · exact hspare ⟨some "new.example.com"⟩ (by simp) rfl

end Reversal

end Nexplane
