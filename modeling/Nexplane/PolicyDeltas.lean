import Nexplane.Lib.Deltas
import Nexplane.LsmPolicies
import Nexplane.SelinuxModules

set_option autoImplicit false

/-! The deltas between two profiles of a policy plugin, for the plugins whose profiles are lists of
rules. -/

namespace Nexplane
open PyValue Deltas

/-- What a plugin makes of observations and compares of a profile. -/
structure DeltaPlugin (Event Profile Key : Type) where
  keyLe : Key → Key → Bool
  synthesize : Observations Event → Profile
  deltaExtract : Profile → List Key

section Compute

variable {Event Profile Key : Type} [DecidableEq Key]

def computeDelta (plugin : DeltaPlugin Event Profile Key) (prior current : Profile) : Delta Key :=
  difference plugin.keyLe (plugin.deltaExtract prior) (plugin.deltaExtract current)

/-- The delta between what two soaks give. -/
def soakDelta (plugin : DeltaPlugin Event Profile Key) (prior current : Observations Event) : Delta Key :=
  computeDelta plugin (plugin.synthesize prior) (plugin.synthesize current)

end Compute

namespace Seccomp

structure SyscallRule where
  names : List String
  action : String
  deriving DecidableEq, Repr

structure Profile where
  defaultAction : String
  architectures : List String
  syscalls : List SyscallRule
  deriving DecidableEq, Repr

def synthesize (raw : Observations String) : Profile where
  defaultAction := "SCMP_ACT_ERRNO"
  architectures := ["SCMP_ARCH_X86_64","SCMP_ARCH_X86","SCMP_ARCH_X32"]
  syscalls := [⟨sortedSet raw.events,"SCMP_ACT_ALLOW"⟩]

def deltaExtract (profile : Profile) : List String :=
  match profile.syscalls with
  | [] => []
  | rule :: _ => rule.names

def plugin : DeltaPlugin String Profile String where
  keyLe a b := a ≤ b
  synthesize := synthesize
  deltaExtract := deltaExtract

/-- The system calls that the rules of a profile allow. -/
def allowed (profile : Profile) : List String :=
  (profile.syscalls.filter fun rule => rule.action = "SCMP_ACT_ALLOW").flatMap SyscallRule.names

theorem delta_ofEvents (prior current : Observations String) :
    OfEvents (fun (r e : String) => r = e) id (allowed (synthesize prior)) (allowed (synthesize current))
      (soakDelta plugin prior current) := by
  have hallowed : ∀ raw : Observations String, allowed (synthesize raw) = sortedSet raw.events := by
    intro raw
    simp [allowed,synthesize]
  have hnamed : Named id (allowed (synthesize prior)) (allowed (synthesize current))
      (deltaExtract (synthesize prior)) (deltaExtract (synthesize current)) := by
    rw [hallowed,hallowed]
    exact ⟨fun k => by simp [deltaExtract,synthesize],fun k => by simp [deltaExtract,synthesize],
      fun r _ r' _ h => h⟩
  refine (hnamed.ofRules _).ofEvents fun hevents r => ?_
  simpa [Permitted] using hevents r

end Seccomp

namespace EbpfNetwork

/-- A flow of which every field can be missing. -/
structure Flow where
  dstIp : Option String := none
  dstPort : Option Int := none
  protocol : Option String := none
  process : Option String := none
  deriving DecidableEq, Repr

structure Rule where
  dstIp : String
  dstPort : Int
  protocol : String
  process : String
  deriving DecidableEq, Repr

structure Profile where
  rules : List Rule
  defaultAction : String
  deriving DecidableEq, Repr

/-- By which flows are the same; its defaults are not those of the rule. -/
def Flow.key (flow : Flow) : String × Int × String × String :=
  (flow.dstIp.getD "",flow.dstPort.getD 0,flow.protocol.getD "",flow.process.getD "")

def ruleOf (flow : Flow) : Rule where
  dstIp := flow.dstIp.getD ""
  dstPort := flow.dstPort.getD 0
  protocol := flow.protocol.getD "tcp"
  process := flow.process.getD "*"

/-- The rules of the flows that are not the same as an earlier one. -/
def rulesOf (seen : List (String × Int × String × String)) : List Flow → List Rule
  | [] => []
  | flow :: flows =>
    if flow.key ∈ seen then rulesOf seen flows
    else ruleOf flow :: rulesOf (flow.key :: seen) flows

def ruleLe (r s : Rule) : Bool :=
  r.dstPort < s.dstPort || (r.dstPort = s.dstPort && r.dstIp ≤ s.dstIp)

def synthesize (raw : Observations Flow) : Profile where
  rules := (rulesOf [] raw.events).insertionSort fun r s => ruleLe r s = true
  defaultAction := "audit"

/-- Where a rule lets flows to. -/
abbrev Destination : Type := String × Int × String

def Rule.destination (rule : Rule) : Destination := (rule.dstIp,rule.dstPort,rule.protocol)

def deltaExtract (profile : Profile) : List Destination := profile.rules.map Rule.destination

def destinationLe (a b : Destination) : Bool :=
  a.1 < b.1 || (a.1 = b.1 && (a.2.1 < b.2.1 || (a.2.1 = b.2.1 && a.2.2 ≤ b.2.2)))

def plugin : DeltaPlugin Flow Profile Destination where
  keyLe := destinationLe
  synthesize := synthesize
  deltaExtract := deltaExtract

/-- The rule lets the process connect to the destination. -/
def Rule.Permits (rule : Rule) (flow : Destination × String) : Prop :=
  rule.destination = flow.1 ∧ EbpfLsm.Concerns flow.2 rule.process

def destinations (profile : Profile) : List Destination := profile.rules.map Rule.destination

/-- The delta of the network plugin is one of the destinations, whatever process connects to them. -/
theorem delta_ofEvents (prior current : Observations Flow) :
    OfEvents (fun (r e : Destination) => r = e) id (destinations (synthesize prior))
      (destinations (synthesize current)) (soakDelta plugin prior current) := by
  have hnamed : Named id (destinations (synthesize prior)) (destinations (synthesize current))
      (deltaExtract (synthesize prior)) (deltaExtract (synthesize current)) :=
    ⟨fun k => by simp [deltaExtract,destinations],fun k => by simp [deltaExtract,destinations],
      fun r _ r' _ h => h⟩
  refine (hnamed.ofRules _).ofEvents fun hevents r => ?_
  simpa [Permitted] using hevents r

end EbpfNetwork

namespace EbpfLsm

abbrev Key : Type := String × String × String

def Rule.key (rule : Rule) : Key := (rule.syscall,rule.pathPattern,rule.process)

def deltaExtract (profile : Profile) : List Key := profile.rules.map Rule.key

def keyLe (a b : Key) : Bool :=
  a.1 < b.1 || (a.1 = b.1 && (a.2.1 < b.2.1 || (a.2.1 = b.2.1 && a.2.2 ≤ b.2.2)))

def plugin : DeltaPlugin Event Profile Key where
  keyLe := keyLe
  synthesize := synthesize
  deltaExtract := deltaExtract

/-- What `Permits` asks of a rule. -/
def Rule.Permits (rule : Rule) (event : Event) : Prop :=
  rule.action = "allow" ∧ rule.syscall = event.syscall ∧ Concerns event.process rule.process ∧
    Globs.fits (Globs.tokens rule.pathPattern.toList) event.path.toList = true

theorem rule_action {raw : Observations Event} {rule : Rule} (h : rule ∈ (synthesize raw).rules) :
    rule.action = "allow" := by
  simp only [synthesize,List.mem_insertionSort,List.mem_eraseDups,List.mem_map] at h
  obtain ⟨event,_,rfl⟩ := h
  rfl

theorem key_inj {r r' : Rule} (haction : r.action = r'.action) (h : r.key = r'.key) : r = r' := by
  obtain ⟨hsyscall,hrest⟩ := Prod.mk.inj h
  obtain ⟨hpattern,hprocess⟩ := Prod.mk.inj hrest
  cases r
  cases r'
  simp_all

theorem delta_ofRules (prior current : Observations Event) :
    OfRules Rule.Permits Rule.key (synthesize prior).rules (synthesize current).rules
      (soakDelta plugin prior current) := by
  have hnamed : Named Rule.key (synthesize prior).rules (synthesize current).rules
      (deltaExtract (synthesize prior)) (deltaExtract (synthesize current)) :=
    ⟨fun _ => List.mem_map,fun _ => List.mem_map,
      fun r hr r' hr' h => key_inj ((rule_action hr).trans (rule_action hr').symm) h⟩
  exact hnamed.ofRules _

end EbpfLsm

end Nexplane
