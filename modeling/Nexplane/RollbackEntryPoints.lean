import Mathlib.Data.List.Sort
import Nexplane.RollbackExecutor

set_option autoImplicit false

/-! The three ways in which a user has changes rolled back: the manual rollback of a change, the
tool for agents, and the rollback of all changes applied to an asset. -/

namespace Nexplane
open PyValue

variable {ω : Type}

structure ChangeRow where
  cr : ChangeRequest
  runs : List ExecutionRun

def ChangeRow.setStatus (row : ChangeRow) (status : ChangeRequestStatus) : ChangeRow :=
  { row with cr := { row.cr with status := status } }

/-- One run of `execute_cr_rollback`: the change and its place on the rollback stack, and the
exception it raised or the status it left. -/
structure RollbackAttempt where
  place : Nat
  sequence : Option Nat
  ended : Except Exc ChangeRequestStatus

/-- The tables that a rollback reads and writes, and the rollbacks that have run. A change is
known by its place in the table. -/
structure ChangeStore (ω : Type) where
  rows : List ChangeRow
  connectors : List Connector
  site : Site ω
  rollbacks : List RollbackAttempt

def ChangeStore.modifyRow (s : ChangeStore ω) (i : Nat) (f : ChangeRow → ChangeRow) :
    ChangeStore ω := { s with rows := s.rows.modify i f }

def ChangeStore.world (s : ChangeStore ω) (i : Nat) (row : ChangeRow) : World ω :=
  ⟨row.cr,(s.rows.eraseIdx i).map ChangeRow.cr,row.runs,s.connectors,s.site⟩

/-- `execute_cr_rollback` on one of the changes. -/
def executeRowRollback (env : Env ω) (i : Nat) : Py (ChangeStore ω) Json := fun s =>
  match s.rows[i]? with
  | none => (.error (.other "No row was found when one was required"),s)
  | some row =>
    match executeCrRollback env [] (s.world i row) with
    | (outcome,w) => (outcome,
        { s.modifyRow i fun _ => ⟨w.cr,w.runs⟩ with
          site := w.site
          rollbacks := s.rollbacks ++
            [⟨i,row.cr.applicationSequence,outcome.map fun _ => w.cr.status⟩] })

/-- The lookup of a change in the user's organization. -/
def ChangeStore.rowOf (s : ChangeStore ω) (user : User) (i : Nat) : Option ChangeRow :=
  s.rows[i]?.filter fun row => row.cr.organizationId = user.organizationId

section Manual

/-- A later change on one of the assets is still applied. -/
def ChangeStore.blocksRollback (s : ChangeStore ω) (user : User) (i : Nat) (row : ChangeRow) :
    Bool :=
  match row.cr.applicationSequence with
  | none => false
  | some n =>
    (s.rows.eraseIdx i).any fun other =>
      other.cr.organizationId = user.organizationId && other.cr.status = .completed &&
        other.cr.applicationSequence.any (n < ·) &&
          other.cr.targetAssetIds.any (· ∈ row.cr.targetAssetIds)

/-- `manual_rollback`, up to the task that it leaves behind: the rollback's own run, in which that
task is to record its outcome. -/
def startManualRollback (user : User) (i : Nat) (s : ChangeStore ω) :
    Except Refusal (ChangeStore ω × Nat) :=
  match s.rowOf user i with
  | none => .error (.http 404 "Change request not found")
  | some row =>
    if row.cr.status ∉ [.completed,.failed,.paused] then
      .error (.http 400
        "Can only manually roll back completed, failed, or paused change requests")
    else if user.role ∉ [.admin,.approver] then
      .error (.http 403 "Only admins and approvers can initiate manual rollback")
    else if s.blocksRollback user i row then .error (.http 409 "out_of_order_rollback")
    else if row.runs.isEmpty then .error (.http 400 "No execution run found to roll back")
    else
      let run : ExecutionRun := ⟨"wf-rollback-" ++ row.cr.id,.rollingBack,[]⟩
      .ok (s.modifyRow i fun row =>
        { row.setStatus .executing with runs := row.runs ++ [run] },row.runs.length)

/-- The columns of a result that is a dictionary; any other is stored as it is, and left out. -/
def resultColumn : Json → Dict
  | .obj d => d
  | _ => []

def ChangeRow.endRun (row : ChangeRow) (run : Nat) (status : ExecutionStatus) (result : Dict) :
    ChangeRow :=
  { row with runs := row.runs.modify run fun r => { r with status := status, result := result } }

def doRollback (env : Env ω) (i run : Nat) : Py (ChangeStore ω) Unit := do
  let outcome ← Py.attempt (executeRowRollback env i)
  match outcome with
  | .ok result =>
    Py.modify fun s => s.modifyRow i fun row => row.endRun run .rolledBack (resultColumn result)
  | .error e =>
    Py.modify fun s => s.modifyRow i fun row =>
      (row.endRun run .failed [("error",.str e.str)]).setStatus .failed

end Manual

/-- `rollback_change_request`, with the status that it answers. -/
def mcpRollbackChangeRequest (env : Env ω) (user : User) (i : Nat) (s : ChangeStore ω) :
    Except Refusal (String × Json × ChangeStore ω) :=
  match s.rowOf user i with
  | none => .error (.tool "Change request not found")
  | some row =>
    if row.cr.status ∉ [.completed,.failed] then
      .error (.tool ("Only completed or failed CRs can be rolled back; current status: " ++
        row.cr.status.str))
    else
      match executeRowRollback env i s with
      | (.ok result,s') => .ok ("rolled_back",result,s')
      | (.error e,s') => .ok ("rollback_failed",.obj [("error",.str e.str)],s')

section Asset

/-- The answer of `rollback_all`. An error stands with the change whose rollback raised it. -/
structure RollbackAllReport where
  rolledBack : List Nat := []
  failedAt : Option Nat := none
  errors : List (Nat × Exc) := []

/-- The applied changes of an asset, the last applied one first. -/
def ChangeStore.appliedChanges (s : ChangeStore ω) (organizationId assetId : Uuid) :
    List (Nat × Nat) :=
  (s.rows.zipIdx.filterMap fun entry =>
    if entry.1.cr.organizationId = organizationId ∧ entry.1.cr.status = .completed ∧
        assetId ∈ entry.1.cr.targetAssetIds then
      entry.1.cr.applicationSequence.map fun n => (entry.2,n)
    else none).insertionSort fun a b => b.2 ≤ a.2

/-- The place on the rollback stack is given up, so that the change can be applied again. -/
def ChangeRow.unapply (row : ChangeRow) : ChangeRow :=
  { row with cr := { row.cr with status := .rolledBack, applicationSequence := none } }

/-- The loop of `rollback_all`. -/
def unwindChanges (env : Env ω) (report : RollbackAllReport) :
    List Nat → Py (ChangeStore ω) RollbackAllReport
  | [] => pure report
  | i :: places => do
    Py.modify fun s => s.modifyRow i fun row => row.setStatus .executing
    let outcome ← Py.attempt (executeRowRollback env i)
    match outcome with
    | .ok _ => do
      Py.modify fun s => s.modifyRow i ChangeRow.unapply
      unwindChanges env { report with rolledBack := report.rolledBack ++ [i] } places
    | .error e => do
      Py.modify fun s => s.modifyRow i fun row => row.setStatus .failed
      pure { report with failedAt := some i, errors := report.errors ++ [(i,e)] }

def rollbackAll (env : Env ω) (user : User) (assetId : Uuid) (s : ChangeStore ω) :
    Except Refusal (Except Exc RollbackAllReport × ChangeStore ω) :=
  if user.role ∉ [.admin,.approver] then
    .error (.http 403 "Only admins and approvers can roll back all changes")
  else if (s.site.assets.any fun a => a.id = assetId && a.organizationId = user.organizationId)
      = false then
    .error (.http 404 "Asset not found")
  else
    .ok (unwindChanges env {} ((s.appliedChanges user.organizationId assetId).map Prod.fst) s)

end Asset

end Nexplane
