import Nexplane.World

set_option autoImplicit false

/-! The rollback of a container image transfer. -/

namespace Nexplane
open PyValue

variable {ω : Type}

/-- What the rollback of a transfer uses: the stored credentials of a connector, and the two calls
of the registry client, over connector type, credentials, repository and tag. -/
structure RegistryOps (ω : Type) where
  loadCredsByConnectorId : Json → Py ω Json
  deleteTag : Json → Json → String → String → Py ω Unit
  restoreTagByDigest : Json → Json → String → String → Json → Py ω Bool

/-- `image.rsplit(":", 1)`, unpacked into a repository and a tag. -/
def splitImage (image : Json) : Except Exc (String × String) :=
  match image with
  | .str s =>
    match s.toList.reverse.span (· ≠ ':') with
    | (tag,_ :: repo) => .ok (String.ofList repo.reverse,String.ofList tag.reverse)
    | _ => .error (.valueError "not enough values to unpack (expected 2, got 1)")
  | _ => .error .attributeError

/-- What was transferred, and where to. -/
structure TransferredImage where
  connectorType : Json
  creds : Json
  repo : String
  tag : String
  snapshot : Json

section Rollback

variable (ops : RegistryOps ω)

/-- `_do` of the rollback: whether the destination is as before, with a note. -/
def undoTransfer (image : TransferredImage) : Py ω (Bool × String) := do
  let existed ← Py.ofExcept (image.snapshot.get "exists" .null)
  if existed.truthy then do
    let digest ← Py.ofExcept (image.snapshot.index "digest")
    let restored ← ops.restoreTagByDigest image.connectorType image.creds image.repo image.tag
      digest
    if restored then pure (true,"restored_original_digest")
    else do
      Py.tryExcept (ops.deleteTag image.connectorType image.creds image.repo image.tag)
        fun _ => pure ()
      pure (false,"partial_original_manifest_gc_deleted")
  else do
    ops.deleteTag image.connectorType image.creds image.repo image.tag
    pure (true,"deleted_net_new_tag")

def nothingTransferred : Json :=
  .obj [("rolled_back",.bool true),("note",.str "nothing_to_undo")]

def transferUndone (destImage : Json) (ok : Bool) (note : String) : Json :=
  .obj [("rolled_back",.bool ok),("note",.str note),("rolled_back_image",destImage),
    ("partial",.bool !ok)]

def transferFailure (e : Exc) : Json := .obj [("rolled_back",.bool false),("error",.str e.str)]

/-- `rollback`, which does not read the connector. -/
def transferRollback (parameters : Dict) (executionResult : Json) : Py ω Json := do
  let inner ← Py.ofExcept (executionResult.get "execution" executionResult)
  let rd ← Py.ofExcept (inner.get "rollback_data" (.obj []))
  let snap ← Py.ofExcept (rd.get "snapshot" (.obj []))
  let destImage ← Py.ofExcept (rd.get "dest_image" .null)
  let dstConnectorType ← Py.ofExcept (rd.get "dst_connector_type" .null)
  let destConnectorId := parameters.getD "dest_connector_id" .null
  if destImage.truthy && destConnectorId.truthy then do
    let dstCreds ← ops.loadCredsByConnectorId destConnectorId
    let (repo,tag) ← Py.ofExcept (splitImage destImage)
    Py.tryExcept
      (do
        let (ok,note) ← undoTransfer ops ⟨dstConnectorType,dstCreds,repo,tag,snap⟩
        pure (transferUndone destImage ok note))
      fun e => pure (transferFailure e)
  else pure nothingTransferred

/-- An environment whose image transfers are rolled back as above. -/
def Env.withTransfers (env : Env ω) : Env ω :=
  { env with transferRollback := Nexplane.transferRollback ops }

end Rollback

theorem transferRollback_cases {ops : RegistryOps ω} {parameters : Dict}
    {executionResult report : Json} {s s' : ω}
    (h : transferRollback ops parameters executionResult s = (.ok report,s')) :
    report = nothingTransferred ∨ (∃ destImage ok note, report = transferUndone destImage ok note) ∨
      ∃ e, report = transferFailure e := by
  obtain ⟨inner,_,h⟩ := Py.ofExcept_bind_eq_ok.mp h
  obtain ⟨rd,_,h⟩ := Py.ofExcept_bind_eq_ok.mp h
  obtain ⟨snap,_,h⟩ := Py.ofExcept_bind_eq_ok.mp h
  obtain ⟨destImage,_,h⟩ := Py.ofExcept_bind_eq_ok.mp h
  obtain ⟨dstConnectorType,_,h⟩ := Py.ofExcept_bind_eq_ok.mp h
  split at h
  · obtain ⟨dstCreds,t,_,h⟩ := Py.bind_eq_ok.mp h
    obtain ⟨⟨repo,tag⟩,_,h⟩ := Py.ofExcept_bind_eq_ok.mp h
    rcases Py.tryExcept_eq_ok.mp h with h | ⟨e,u,_,h⟩
    · obtain ⟨⟨ok,note⟩,u,_,h⟩ := Py.bind_eq_ok.mp h
      exact Or.inr (Or.inl ⟨destImage,ok,note,(Except.ok.inj (Prod.mk.inj h).1).symm⟩)
    · exact Or.inr (Or.inr ⟨e,(Except.ok.inj (Prod.mk.inj h).1).symm⟩)
  · exact Or.inl (Except.ok.inj (Prod.mk.inj h).1).symm

end Nexplane
