import Nexplane.VulnerabilityFindings
import Nexplane.Lib.Checks
import Nexplane.Lib.Lists
import Nexplane.Lib.Runs

set_option autoImplicit false

/-! Findings that scanners deliver by webhook: a delivery is accepted at once, and each one is
ingested in the background, in a transaction of its own that is committed at its end. -/

namespace Nexplane
open PyValue Runs

/-- A finding with the organization and the scanner that it was delivered for. -/
structure FindingReport where
  organizationId : Uuid
  scanner : String
  finding : FindingIngest

/-- What the unique constraint compares; a null is equal to nothing. -/
def FindingReport.key (q : FindingReport) : Option (Uuid × String × String) :=
  q.finding.scannerFindingId.map fun id => (q.organizationId,q.scanner,id)

/-- What a row keeps of the finding that was delivered. -/
def FindingRecord.report (r : FindingRecord) : FindingReport where
  organizationId := r.finding.organizationId
  scanner := r.finding.scanner
  finding := {
    scannerFindingId := r.finding.scannerFindingId
    findingType := r.finding.findingType
    severity := r.finding.severity
    cveId := r.finding.cveId
    resourceType := r.finding.resourceType }

def FindingRecord.key (r : FindingRecord) : Option (Uuid × String × String) := r.report.key

def keysOf (rows : List FindingRecord) : List (Uuid × String × String) :=
  rows.filterMap FindingRecord.key

/-- The findings without an id of the scanner. -/
def anonymous (reports : List FindingReport) : List FindingReport :=
  reports.filter fun q => q.key.isNone

structure WebhookFindingsPayload where
  scanner : String
  organizationId : Uuid
  findings : List FindingIngest

def WebhookFindingsPayload.report (p : WebhookFindingsPayload) (f : FindingIngest) :
    FindingReport where
  organizationId := p.organizationId
  scanner := p.scanner
  finding := f

def WebhookFindingsPayload.reports (p : WebhookFindingsPayload) : List FindingReport :=
  p.findings.map p.report

def defaultSlaConfig : Dict := [("critical",.int 72),("high",.int 168),("medium",.int 720)]

/-- `settings` is the `sla_config` of the organization, if it has one. -/
def getSlaConfig (settings : Option Dict) : Dict := defaultSlaConfig.merge (settings.getD [])

/-- The SLA hours of a severity. Other values than a number are no `timedelta`, and a float is no
value of the column. -/
def slaHours (config : Dict) (severity : String) : Except Exc (Option Int) :=
  match config.getD severity .null with
  | .int n => .ok (some n)
  | .bool b => .ok (if b then some 1 else none)
  | v => if v.truthy then .error .typeError else .ok none

/-- A background ingest: the findings that are left, whether the first of them has passed the look
for a duplicate, and the rows that are not committed yet. -/
structure IngestTask where
  payload : WebhookFindingsPayload
  todo : List FindingIngest
  checked : Bool := false
  done : List FindingRecord := []

/-- What an ingest finds out while it stores a finding. `fault` is the error of a statement that
the database refuses, as for a value that a column cannot hold. -/
structure InsertLookups where
  id : Uuid
  assetId : Option Uuid
  now : Int
  generation : GenerationEnv
  fault : Option Exc := none

namespace IngestTask

/-- The look for a duplicate is left out for an id that is null or empty. -/
def isStored (rows : List FindingRecord) (t : IngestTask) (f : FindingIngest) : Bool :=
  f.scannerFindingId.any (· ≠ "") && (t.payload.report f).key.any (· ∈ keysOf (rows ++ t.done))

def check (rows : List FindingRecord) (t : IngestTask) : Option IngestTask :=
  match t.checked, t.todo with
  | false, f :: rest =>
    some (if t.isStored rows f then { t with todo := rest } else { t with checked := true })
  | _, _ => none

def stored (settings : Uuid → Option Dict) (rows : List FindingRecord) (t : IngestTask)
    (f : FindingIngest) (l : InsertLookups) : Except Exc FindingRecord :=
  if (t.payload.report f).key.any (· ∈ keysOf (rows ++ t.done)) then
    .error (.other "IntegrityError")
  else
    match l.fault with
    | some e => .error e
    | none => do
      let sla ← slaHours (getSlaConfig (settings t.payload.organizationId)) f.severity
      .ok (ingestFinding l.generation
        (f.toFinding l.id t.payload.organizationId t.payload.scanner l.assetId) sla l.now)

/-- The INSERT waits for another transaction that holds a row with the same key. -/
def waitsFor (t : IngestTask) (others : List IngestTask) (f : FindingIngest) : Bool :=
  (t.payload.report f).key.any (· ∈ keysOf (others.flatMap IngestTask.done))

end IngestTask

structure WebhookState where
  accepted : List WebhookFindingsPayload
  running : List IngestTask
  rows : List FindingRecord
  ended : List WebhookFindingsPayload
  discarded : List WebhookFindingsPayload

/-- `deliver` is a request with a valid signature. The others are what the ingest at a position
does next, `abandon` the end of a wait by an error of the database. -/
inductive WebhookEvent where
  | deliver (payload : WebhookFindingsPayload)
  | check (i : Nat)
  | insert (i : Nat) (lookups : InsertLookups)
  | commit (i : Nat)
  | abandon (i : Nat)

namespace WebhookState

def deliver (s : WebhookState) (p : WebhookFindingsPayload) : WebhookState :=
  { s with
    accepted := s.accepted ++ [p]
    running := s.running ++ [{ payload := p, todo := p.findings }] }

/-- An exception ends the ingest, and its transaction is rolled back. -/
def discard (s : WebhookState) (i : Nat) (t : IngestTask) : WebhookState :=
  { s with running := s.running.eraseIdx i, discarded := s.discarded ++ [t.payload] }

def check (s : WebhookState) (i : Nat) (t : IngestTask) : Option WebhookState :=
  (t.check s.rows).map fun t => { s with running := s.running.set i t }

def insert (settings : Uuid → Option Dict) (s : WebhookState) (i : Nat) (l : InsertLookups)
    (t : IngestTask) : Option WebhookState :=
  match t.checked, t.todo with
  | true, f :: rest =>
    if t.waitsFor (s.running.eraseIdx i) f then none
    else
      match t.stored settings s.rows f l with
      | .ok r =>
        let t := { t with todo := rest, checked := false, done := t.done ++ [r] }
        some { s with running := s.running.set i t }
      | .error _ => some (s.discard i t)
  | _, _ => none

def commit (s : WebhookState) (i : Nat) (t : IngestTask) : Option WebhookState :=
  match t.todo with
  | [] =>
    some { s with
      running := s.running.eraseIdx i
      rows := s.rows ++ t.done
      ended := s.ended ++ [t.payload] }
  | _ => none

def abandon (s : WebhookState) (i : Nat) (t : IngestTask) : Option WebhookState :=
  match t.checked, t.todo with
  | true, f :: _ =>
    if t.waitsFor (s.running.eraseIdx i) f then some (s.discard i t) else none
  | _, _ => none

def step (settings : Uuid → Option Dict) (s : WebhookState) : WebhookEvent → Option WebhookState
  | .deliver p => some (s.deliver p)
  | .check i => s.running[i]?.bind (s.check i)
  | .insert i l => s.running[i]?.bind (s.insert settings i l)
  | .commit i => s.running[i]?.bind (s.commit i)
  | .abandon i => s.running[i]?.bind (s.abandon i)

end WebhookState

/-- Hours other than zero have their SLA row. -/
def FindingRecord.HasSla (settings : Uuid → Option Dict) (r : FindingRecord) : Prop :=
  ∀ n, slaHours (getSlaConfig (settings r.finding.organizationId)) r.finding.severity =
      .ok (some n) → n ≠ 0 →
    ∃ sla, r.sla = some sla ∧ sla.severity = r.finding.severity ∧ sla.slaHours = n

/-- No two rows have one key, and each has its SLA row. -/
structure SoundRows (settings : Uuid → Option Dict) (rows : List FindingRecord) : Prop where
  unique : (keysOf rows).Nodup
  sla : ∀ r ∈ rows, r.HasSla settings

/-- The deliveries begin with `stored` in the table. -/
def webhookSystem (settings : Uuid → Option Dict) (stored : List FindingRecord) :
    System WebhookState WebhookEvent where
  start s := SoundRows settings stored ∧
    s = { accepted := [], running := [], rows := stored, ended := [], discarded := [] }
  step := WebhookState.step settings

/-- Once no ingest is running, each accepted finding with an id has its row and each without one a
row of its own; no two rows have one key, and no payload was discarded. -/
structure WebhookKept (settings : Uuid → Option Dict) (stored : List FindingRecord)
    (s : WebhookState) : Prop where
  rows : SoundRows settings s.rows
  identified : s.running = [] → ∀ p ∈ s.accepted, ∀ q ∈ p.reports, ∀ k, q.key = some k →
    ∃ r ∈ s.rows, r.key = some k
  anonymous : s.running = [] → (anonymous (s.rows.map FindingRecord.report)).Perm
    (anonymous (stored.map FindingRecord.report) ++
      anonymous (s.accepted.flatMap WebhookFindingsPayload.reports))
  whole : s.discarded = []

/-- The finding is refused by no row that its look for a duplicate did not see, its severity has a
number of hours or none, and its statements are accepted; no wait ends in an error. -/
def StoresAll (settings : Uuid → Option Dict) (s : WebhookState) : WebhookEvent → Prop
  | .insert i l =>
    ∀ t f rest, s.running[i]? = some t → t.todo = f :: rest →
      (∀ k, (t.payload.report f).key = some k → k ∉ keysOf (s.rows ++ t.done)) ∧
      (slaHours (getSlaConfig (settings t.payload.organizationId)) f.severity).isOk ∧
      l.fault = none
  | .abandon _ => False
  | _ => True

section Rows

variable {settings : Uuid → Option Dict} {rows rows' : List FindingRecord} {r r' : FindingRecord}
  {env : GenerationEnv}

@[simp] theorem keysOf_append : keysOf (rows ++ rows') = keysOf rows ++ keysOf rows' := by
  simp [keysOf]

@[simp] theorem anonymous_append (qs qs' : List FindingReport) :
    anonymous (qs ++ qs') = anonymous qs ++ anonymous qs' := by
  simp [anonymous]

theorem mem_keysOf {k : Uuid × String × String} : k ∈ keysOf rows ↔ ∃ r ∈ rows, r.key = some k :=
  List.mem_filterMap

theorem SoundRows.of_perm (h : SoundRows settings rows) (hperm : rows'.Perm rows) :
    SoundRows settings rows' where
  unique := (hperm.filterMap FindingRecord.key).nodup_iff.mpr h.unique
  sla := by
    intro r hr
    exact h.sla r (hperm.mem_iff.mp hr)

theorem SoundRows.cons (h : SoundRows settings rows)
    (hfresh : ∀ k, r.key = some k → k ∉ keysOf rows) (hsla : r.HasSla settings) :
    SoundRows settings (r :: rows) where
  unique := by
    cases hk : r.key with
    | none => simpa [keysOf,hk] using h.unique
    | some k =>
      have hcons : keysOf (r :: rows) = k :: keysOf rows := by simp [keysOf,hk]
      rw [hcons]
      exact List.nodup_cons.mpr ⟨hfresh k hk,h.unique⟩
  sla := List.forall_mem_cons.mpr ⟨hsla,h.sla⟩

theorem SoundRows.of_append (h : SoundRows settings (rows ++ rows')) : SoundRows settings rows where
  unique := by
    have hunique := h.unique
    rw [keysOf_append] at hunique
    exact (List.nodup_append.mp hunique).1
  sla := by
    intro r hr
    exact h.sla r (List.mem_append_left _ hr)

theorem applyPolicy_keeps (env : GenerationEnv) (r : FindingRecord) :
    (r.applyPolicy env).report = r.report ∧ (r.applyPolicy env).sla = r.sla := by
  unfold FindingRecord.applyPolicy
  split
  · exact ⟨rfl,rfl⟩
  split
  · exact ⟨rfl,rfl⟩
  simp only [generateChangeRequestForFinding]
  cases env.systemUser r.finding.organizationId with
  | none => exact ⟨rfl,rfl⟩
  | some systemUser => exact ⟨rfl,rfl⟩

end Rows

section Steps

variable {settings : Uuid → Option Dict} {stored : List FindingRecord} {rows : List FindingRecord}
  {s s' : WebhookState} {t t' : IngestTask} {f : FindingIngest} {l : InsertLookups}
  {r : FindingRecord} {i : Nat}

/-- The row of a finding keeps its report and has its SLA row. -/
theorem stored_ok (h : t.stored settings rows f l = .ok r) :
    r.report = t.payload.report f ∧ r.HasSla settings := by
  unfold IngestTask.stored at h
  split at h
  · cases h
  split at h
  · cases h
  obtain ⟨hours,hhours,hr⟩ := Checks.bind_eq_ok.mp h
  obtain rfl := Except.ok.inj hr
  obtain ⟨hreport,hsla⟩ := applyPolicy_keeps l.generation
    { finding := f.toFinding l.id t.payload.organizationId t.payload.scanner l.assetId
      sla := newSla f.severity hours l.now }
  refine ⟨hreport,?_⟩
  have horg : (ingestFinding _ _ _ _).finding.organizationId = _ :=
    congrArg FindingReport.organizationId hreport
  have hseverity : (ingestFinding _ _ _ _).finding.severity = _ :=
    congrArg (fun q => q.finding.severity) hreport
  intro n hn hne
  rw [horg,hseverity] at hn
  obtain rfl : hours = some n := Except.ok.inj (hhours.symm.trans hn)
  refine ⟨_,hsla.trans (if_neg hne),?_,rfl⟩
  exact hseverity.symm

/-- Each finding of the payload is left or has a row, the ones without an id in their order. -/
structure IngestTask.Sound (rows : List FindingRecord) (t : IngestTask) : Prop where
  identified : ∀ q ∈ t.payload.reports, q ∈ t.todo.map t.payload.report ∨
    ∀ k, q.key = some k → k ∈ keysOf (rows ++ t.done)
  anonymous : anonymous (t.done.map FindingRecord.report) ++
    anonymous (t.todo.map t.payload.report) = anonymous t.payload.reports

theorem IngestTask.Sound.mono {rows' : List FindingRecord} (h : t.Sound rows)
    (hsub : rows ⊆ rows') : t.Sound rows' where
  identified := by
    intro q hq
    refine (h.identified q hq).imp_right fun hkeys k hk => ?_
    exact List.filterMap_subset _ (List.append_subset.mpr ⟨fun r hr =>
      List.mem_append_left _ (hsub hr),List.subset_append_right _ _⟩) (hkeys k hk)
  anonymous := h.anonymous

/-- The first finding is done with when its key is in the table or it has a row of its own. -/
theorem IngestTask.Sound.advance {rest : List FindingIngest} {new : List FindingRecord}
    (h : t.Sound rows) (htodo : t.todo = f :: rest) (htodo' : t'.todo = rest)
    (hdone : t'.done = t.done ++ new) (hpayload : t'.payload = t.payload)
    (hkey : ∀ k, (t.payload.report f).key = some k → k ∈ keysOf (rows ++ t.done ++ new))
    (hnew : Nexplane.anonymous (new.map FindingRecord.report) =
      Nexplane.anonymous [t.payload.report f]) : t'.Sound rows where
  identified := by
    rw [hpayload,htodo',hdone,← List.append_assoc]
    intro q hq
    have hcases := h.identified q hq
    rw [htodo,List.map_cons,List.mem_cons] at hcases
    rcases hcases with (rfl | hrest) | hkeys
    · exact Or.inr hkey
    · exact Or.inl hrest
    · refine Or.inr fun k hk => ?_
      rw [keysOf_append]
      exact List.mem_append_left _ (hkeys k hk)
  anonymous := by
    have hall := h.anonymous
    rw [htodo,List.map_cons,← List.singleton_append,anonymous_append,← List.append_assoc] at hall
    rw [hpayload,htodo',hdone,List.map_append,anonymous_append,hnew]
    exact hall

theorem key_of_isStored (h : t.isStored rows f = true) :
    ∃ k, (t.payload.report f).key = some k ∧ k ∈ keysOf (rows ++ t.done) := by
  unfold IngestTask.isStored at h
  cases hk : (t.payload.report f).key with
  | none => simp [hk] at h
  | some k =>
    have hmem := (Bool.and_eq_true _ _ ▸ h).2
    rw [hk] at hmem
    exact ⟨k,rfl,of_decide_eq_true hmem⟩

theorem check_sound (h : t.Sound rows) (hs : t.check rows = some t') :
    t'.Sound rows ∧ t'.payload = t.payload ∧ t'.done = t.done := by
  unfold IngestTask.check at hs
  split at hs
  · next f rest _ htodo =>
    obtain rfl := Option.some.inj hs
    split
    · next hstored =>
      obtain ⟨k,hk,hmem⟩ := key_of_isStored hstored
      refine ⟨h.advance htodo rfl (List.append_nil _).symm rfl ?_ ?_,rfl,rfl⟩
      · intro k' hk'
        obtain rfl := Option.some.inj (hk.symm.trans hk')
        rwa [List.append_nil]
      · simp [anonymous,hk]
    · exact ⟨⟨h.identified,h.anonymous⟩,rfl,rfl⟩
  · cases hs

theorem stored_sound (h : t.Sound rows) {rest : List FindingIngest} (htodo : t.todo = f :: rest)
    (hr : r.report = t.payload.report f) :
    IngestTask.Sound rows { t with todo := rest, checked := false, done := t.done ++ [r] } := by
  refine h.advance htodo rfl rfl rfl ?_ ?_
  · intro k hk
    refine mem_keysOf.mpr ⟨r,List.mem_append_right _ List.mem_cons_self,?_⟩
    rw [FindingRecord.key,hr,hk]
  · rw [List.map_singleton,hr]

theorem stored_succeeds
    (hfresh : ∀ k, (t.payload.report f).key = some k → k ∉ keysOf (rows ++ t.done))
    (hhours : (slaHours (getSlaConfig (settings t.payload.organizationId)) f.severity).isOk)
    (hfault : l.fault = none) : ∃ r, t.stored settings rows f l = .ok r := by
  obtain ⟨hours,hhours⟩ := Checks.isOk_iff.mp hhours
  have hkey : (t.payload.report f).key.any (· ∈ keysOf (rows ++ t.done)) = false := by
    cases hk : (t.payload.report f).key with
    | none => rfl
    | some k => exact decide_eq_false (hfresh k hk)
  simp only [IngestTask.stored,hkey,hfault,hhours]
  exact ⟨_,rfl⟩

/-- The rows of the table and of all open transactions. -/
def WebhookState.allRows (s : WebhookState) : List FindingRecord :=
  s.rows ++ s.running.flatMap IngestTask.done

structure IngestSound (settings : Uuid → Option Dict) (stored : List FindingRecord)
    (s : WebhookState) : Prop where
  rows : SoundRows settings s.allRows
  accounted : s.accepted.Perm (s.ended ++ s.running.map IngestTask.payload)
  whole : s.discarded = []
  tasks : ∀ t ∈ s.running, t.Sound s.rows
  identified : ∀ p ∈ s.ended, ∀ q ∈ p.reports, ∀ k, q.key = some k → k ∈ keysOf s.rows
  anonymous : (anonymous (s.rows.map FindingRecord.report)).Perm
    (anonymous (stored.map FindingRecord.report) ++
      anonymous (s.ended.flatMap WebhookFindingsPayload.reports))

/-- One ingest goes on, and the rows of all are sound with its new ones. -/
theorem IngestSound.proceed (h : IngestSound settings stored s) (ht : s.running[i]? = some t)
    (hpayload : t'.payload = t.payload) (htask : t'.Sound s.rows)
    (hrows : SoundRows settings
      (s.rows ++ (t'.done ++ (s.running.eraseIdx i).flatMap IngestTask.done))) :
    IngestSound settings stored { s with running := s.running.set i t' } where
  rows := by
    refine hrows.of_perm (List.Perm.append_left _ ?_)
    have hperm := (Lists.set_perm_cons_eraseIdx ht t').flatMap_right IngestTask.done
    rwa [List.flatMap_cons] at hperm
  accounted := by
    refine h.accounted.trans (List.Perm.append_left _ ?_)
    have hbefore := (Lists.perm_cons_eraseIdx ht).map IngestTask.payload
    have hafter := (Lists.set_perm_cons_eraseIdx ht t').map IngestTask.payload
    rw [List.map_cons] at hbefore hafter
    rw [hpayload] at hafter
    exact hbefore.trans hafter.symm
  whole := h.whole
  tasks := by
    intro u hu
    rcases Lists.mem_set_cases hu with rfl | hu
    · exact htask
    · exact h.tasks u hu
  identified := h.identified
  anonymous := h.anonymous

theorem allRows_perm (ht : s.running[i]? = some t) : s.allRows.Perm
    (s.rows ++ (t.done ++ (s.running.eraseIdx i).flatMap IngestTask.done)) := by
  have hperm := (Lists.perm_cons_eraseIdx ht).flatMap_right IngestTask.done
  rw [List.flatMap_cons] at hperm
  exact List.Perm.append_left _ hperm

theorem IngestSound.check (h : IngestSound settings stored s) (ht : s.running[i]? = some t)
    (hs : s.check i t = some s') : IngestSound settings stored s' := by
  obtain ⟨t',hcheck,rfl⟩ := Option.map_eq_some_iff.mp hs
  obtain ⟨htask,hpayload,hdone⟩ := check_sound (h.tasks t (List.mem_of_getElem? ht)) hcheck
  refine h.proceed ht hpayload htask ?_
  rw [hdone]
  exact h.rows.of_perm (allRows_perm ht).symm

theorem IngestSound.insert (h : IngestSound settings stored s) (ht : s.running[i]? = some t)
    (hG : StoresAll settings s (.insert i l)) (hs : s.insert settings i l t = some s') :
    IngestSound settings stored s' := by
  have htask := h.tasks t (List.mem_of_getElem? ht)
  unfold WebhookState.insert at hs
  split at hs
  · next f rest _ htodo =>
    obtain ⟨hfree,hs⟩ := Option.ite_none_left_eq_some.mp hs
    obtain ⟨hfresh,hhours,hfault⟩ := hG t f rest ht htodo
    obtain ⟨r,hstored⟩ := stored_succeeds hfresh hhours hfault
    rw [hstored] at hs
    obtain rfl := Option.some.inj hs
    obtain ⟨hreport,hsla⟩ := stored_ok hstored
    refine h.proceed ht rfl (stored_sound htask htodo hreport) ?_
    have hrows := h.rows.of_perm (allRows_perm ht).symm
    refine (hrows.cons (fun k hk => ?_) hsla).of_perm ?_
    · rw [FindingRecord.key,hreport] at hk
      rw [← List.append_assoc,keysOf_append,List.mem_append]
      rintro (hown | hother)
      · exact hfresh k hk hown
      · simp [IngestTask.waitsFor,hk,hother] at hfree
    · simp only [List.append_assoc,List.singleton_append]
      exact (List.perm_middle.append_left s.rows).trans List.perm_middle
  · cases hs

theorem IngestSound.commit (h : IngestSound settings stored s) (ht : s.running[i]? = some t)
    (hs : s.commit i t = some s') : IngestSound settings stored s' := by
  have htask := h.tasks t (List.mem_of_getElem? ht)
  unfold WebhookState.commit at hs
  split at hs
  · next htodo =>
    obtain rfl := Option.some.inj hs
    constructor
    · refine h.rows.of_perm ?_
      have hperm := (allRows_perm ht).symm
      rwa [← List.append_assoc] at hperm
    · refine h.accounted.trans ?_
      have hperm := (Lists.perm_cons_eraseIdx ht).map IngestTask.payload
      rw [List.append_assoc]
      exact List.Perm.append_left _ hperm
    · exact h.whole
    · intro u hu
      exact (h.tasks u (List.mem_of_mem_eraseIdx hu)).mono (List.subset_append_left _ _)
    · intro p hp q hq k hk
      rcases List.mem_append.mp hp with hp | hp
      · rw [keysOf_append]
        exact List.mem_append_left _ (h.identified p hp q hq k hk)
      · obtain rfl := List.mem_singleton.mp hp
        rcases htask.identified q hq with hleft | hkeys
        · simp [htodo] at hleft
        · exact hkeys k hk
    · have hdone : Nexplane.anonymous (t.done.map FindingRecord.report) =
          Nexplane.anonymous t.payload.reports := by
        have hall := htask.anonymous
        rwa [htodo,List.map_nil,← anonymous_append,List.append_nil] at hall
      rw [List.map_append,anonymous_append,hdone,List.flatMap_append,anonymous_append,
        List.flatMap_singleton,← List.append_assoc]
      exact h.anonymous.append_right _
  · cases hs

theorem deliver_sound (p : WebhookFindingsPayload) (h : IngestSound settings stored s) :
    IngestSound settings stored (s.deliver p) where
  rows := by
    have hrows : (s.deliver p).allRows = s.allRows := by
      simp [WebhookState.allRows,WebhookState.deliver]
    rw [hrows]
    exact h.rows
  accounted := by
    have hperm := h.accounted.append_right [p]
    rw [List.append_assoc] at hperm
    simpa [WebhookState.deliver] using hperm
  whole := h.whole
  tasks := by
    intro u hu
    rcases List.mem_append.mp hu with hu | hu
    · exact h.tasks u hu
    · obtain rfl := List.mem_singleton.mp hu
      exact ⟨fun q hq => Or.inl hq,rfl⟩
  identified := h.identified
  anonymous := h.anonymous

variable (settings stored) in
theorem ingest_sound : InductiveUnder (webhookSystem settings stored) (StoresAll settings)
    (IngestSound settings stored) where
  start := by
    intro s h0
    obtain ⟨hrows,rfl⟩ := h0
    refine ⟨?_,List.Perm.refl _,rfl,by simp,by simp,?_⟩
    · simpa [WebhookState.allRows] using hrows
    · simp [anonymous]
  step := by
    intro s e s' h hG hs
    cases e with
    | deliver p =>
      obtain rfl := Option.some.inj hs
      exact deliver_sound p h
    | check i =>
      obtain ⟨t,ht,hs⟩ := Option.bind_eq_some_iff.mp hs
      exact h.check ht hs
    | insert i l =>
      obtain ⟨t,ht,hs⟩ := Option.bind_eq_some_iff.mp hs
      exact h.insert ht hG hs
    | commit i =>
      obtain ⟨t,ht,hs⟩ := Option.bind_eq_some_iff.mp hs
      exact h.commit ht hs
    | abandon i => exact hG.elim

end Steps

theorem webhook_findings_kept {settings : Uuid → Option Dict} {stored : List FindingRecord}
    {tr : List (Transition WebhookState WebhookEvent)} {s : WebhookState}
    (h : Run (webhookSystem settings stored) tr s)
    (hG : ∀ t ∈ tr, StoresAll settings t.pre t.label) : WebhookKept settings stored s := by
  have hsound := h.guarded (ingest_sound settings stored) hG
  have hended : s.running = [] → s.accepted.Perm s.ended := by
    intro hidle
    simpa [hidle] using hsound.accounted
  refine ⟨hsound.rows.of_append,?_,?_,hsound.whole⟩
  · intro hidle p hp q hq k hk
    exact mem_keysOf.mp (hsound.identified p ((hended hidle).mem_iff.mp hp) q hq k hk)
  · intro hidle
    have hreports := (hended hidle).symm.flatMap_right WebhookFindingsPayload.reports
    exact hsound.anonymous.trans ((hreports.filter _).append_left _)

def scannedFinding (id : Option String) : FindingIngest where
  scannerFindingId := id
  findingType := "cve"
  severity := "high"

def scannedPayload (ids : List (Option String)) : WebhookFindingsPayload where
  scanner := "qualys"
  organizationId := "o1"
  findings := ids.map scannedFinding

/-- What an ingest finds out in an organization without policies. -/
def plainLookups (id : Uuid) : InsertLookups where
  id := id
  assetId := none
  now := 0
  generation := { policies := [], users := [], changeType := fun _ => none, newId := fun f => f }

def noDeliveries : WebhookState where
  accepted := []
  running := []
  rows := []
  ended := []
  discarded := []

theorem run_noDeliveries : Run (webhookSystem (fun _ => none) []) [] noDeliveries :=
  .start ⟨⟨List.nodup_nil,by simp⟩,rfl⟩

/-- The second delivery looks for its finding after the first has committed it. -/
theorem sequential_findings_kept : ∃ tr s, Run (webhookSystem (fun _ => none) []) tr s ∧
    s.running = [] ∧ s.accepted.length = 2 ∧ s.rows.length = 2 ∧
    WebhookKept (fun _ => none) [] s := by
  have hrun : (webhookSystem (fun _ => none) []).replay noDeliveries
      [.deliver (scannedPayload [some "x",none]),.deliver (scannedPayload [some "x"]),.check 0,
        .insert 0 (plainLookups "f1"),.check 0,.insert 0 (plainLookups "f2"),.commit 0,.check 0,
        .commit 0] = some _ := rfl
  refine ⟨_,_,run_noDeliveries.replay hrun,rfl,rfl,rfl,?_⟩
  refine webhook_findings_kept (run_noDeliveries.replay hrun) (System.history_meets ?_ (by simp))
  refine ⟨trivial,trivial,trivial,?_,trivial,?_,trivial,trivial,trivial,trivial⟩
  · rintro t f rest ht hf
    obtain rfl := Option.some.inj ht
    obtain ⟨rfl,rfl⟩ := List.cons.inj hf
    exact ⟨fun k _ => List.not_mem_nil,rfl,rfl⟩
  · rintro t f rest ht hf
    obtain rfl := Option.some.inj ht
    obtain ⟨rfl,rfl⟩ := List.cons.inj hf
    exact ⟨nofun,rfl,rfl⟩

/-- Both deliveries have looked before either commits, so that the second one loses all its
findings. -/
theorem overlapping_findings_lost : ∃ tr s, Run (webhookSystem (fun _ => none) []) tr s ∧
    s.running = [] ∧ ¬WebhookKept (fun _ => none) [] s := by
  have hrun : (webhookSystem (fun _ => none) []).replay noDeliveries
      [.deliver (scannedPayload [some "x"]),.deliver (scannedPayload [some "x",some "y"]),
        .check 0,.check 1,.insert 0 (plainLookups "f1"),.commit 0,.insert 0 (plainLookups "f2")] =
      some _ := rfl
  refine ⟨_,_,run_noDeliveries.replay hrun,rfl,fun h => ?_⟩
  obtain ⟨r,hr,hk⟩ := h.identified rfl (scannedPayload [some "x",some "y"])
    (List.mem_cons_of_mem _ List.mem_cons_self) _ (List.mem_cons_of_mem _ List.mem_cons_self) _ rfl
  obtain rfl := List.mem_singleton.mp hr
  exact absurd hk (by decide)

end Nexplane
