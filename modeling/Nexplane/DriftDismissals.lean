import Nexplane.DriftAnchors

set_option autoImplicit false

/-! Which open drift events a completed change request dismisses without an observation that was
stored after it. -/

namespace Nexplane
open PyValue

variable {env : DriftEnv} {cr : ChangeRequest} {db db' : DriftDb} {k : SurfaceKey}

/-- The state that was stored last for a surface. -/
def lastStored (os : List Observation) (k : SurfaceKey) : Option Dict :=
  os.reverse.findSome? fun o => if o.key = k then o.stored else none

/-- A change request dismisses an open event only if it stored an observation of the surface, and
what it did not observe it leaves as it was. -/
structure NothingHidden (crId : Option Uuid) (db : DriftDb) (s : DriftSession) : Prop where
  observed : ∀ e ∈ db.events, ∀ e' ∈ s.committed.events, e'.id = e.id → e.status = .opened →
    e'.status ≠ .opened → ∃ state row, lastStored s.observations e.key = some state ∧
      s.committed.loadResourceState e.key = some row ∧ row.state = state ∧ row.sourceCrId = crId
  failed : ∀ o ∈ s.observations, lastStored s.observations o.key = none →
    s.committed.loadResourceState o.key = db.loadResourceState o.key ∧
      ∀ e ∈ db.events, e.key = o.key → e.status = .opened → ∀ e' ∈ s.committed.events,
        e'.id = e.id → e'.status = .opened

/-- The pairs that the loops visit; an identifier that is none ends them. -/
def visits (targets surfaces : List String) : List (Option (Uuid × String)) :=
  targets.flatMap fun asset => match parseUuid asset with
    | .ok assetId => surfaces.map fun surfaceType => some (assetId,surfaceType)
    | .error _ => [none]

/-- Two policies cover the surface. -/
def DriftDb.ambiguous (db : DriftDb) (k : SurfaceKey) : Bool :=
  2 ≤ (db.policies.filter (DriftPolicy.covers k)).length

section Planned

variable (env cr) (stops : SurfaceKey → Bool)

/-- The observations that the visits make; `n` counts the ones before. -/
def observationsOf (n : Nat) : List (Option (Uuid × String)) → List Observation
  | some (assetId,surfaceType) :: rest => observation env cr n assetId surfaceType ::
      if stops (cr.organizationId,assetId,surfaceType) then [] else observationsOf (n + 1) rest
  | _ => []

/-- No visit raises. -/
def completes (steps : List (Option (Uuid × String))) : Bool :=
  steps.all fun step => step.any fun p => !stops (cr.organizationId,p.1,p.2)

end Planned

/-- An observation with a later one that was stored: what the transaction holds is committed. -/
def Followed (os : List Observation) (o : Observation) : Prop :=
  ∃ before after, os = before ++ o :: after ∧ ∃ later ∈ after, later.stored ≠ none

/-- A failed observation of a surface with an open event does not count when the surface is
observed another time, or when the hook raises before a commit. -/
def SurfacesObserved (env : DriftEnv) (db : DriftDb) (cr : ChangeRequest) : Prop :=
  let steps := visits cr.targetAssetIds (env.driftSurfaces cr.changeType.value)
  let os := observationsOf env cr db.ambiguous 0 steps
  ∀ o ∈ os, o.stored = none → completes cr db.ambiguous steps = true ∨ Followed os o →
    ∀ e ∈ db.events, e.status = .opened → e.key = o.key → ∃ other ∈ os, other.key = o.key ∧
      other.stored ≠ none

/-- The event that a restoration names. -/
def restoredEvent (cr : ChangeRequest) (e : DriftEvent) : Prop :=
  (cr.desiredOutcome.getD "drift_event_id" .null).truthy = true ∧
    parseUuid (jsonStr (cr.desiredOutcome.getD "drift_event_id" .null)) = .ok e.id

def restoreVisits (db : DriftDb) (cr : ChangeRequest) : List (Option (Uuid × String)) :=
  let resourceStateId := cr.desiredOutcome.getD "resource_state_id" .null
  if resourceStateId.truthy then
    match parseUuid (jsonStr resourceStateId) with
    | .ok id => match db.resourceStates.find? fun row => row.id = id with
      | some rs => visits cr.targetAssetIds [rs.surfaceType]
      | none => []
    | .error _ => [none]
  else []

/-- A restoration stores an observation of the surface of its event, unless it raises before the
first one that it stores. -/
def RestoredObserved (env : DriftEnv) (db : DriftDb) (cr : ChangeRequest) : Prop :=
  let steps := restoreVisits db cr
  let os := observationsOf env cr (fun _ => false) 0 steps
  ∀ e ∈ db.events, e.status = .opened → restoredEvent cr e →
    completes cr (fun _ => false) steps = true ∨ (∃ o ∈ os, o.stored ≠ none) →
    ∃ o ∈ os, o.key = e.key ∧ o.stored ≠ none

/-- Every event that a completed change request would close has an observation. -/
def ClosesObserved (env : DriftEnv) (db : DriftDb) : Option ChangeRequest → Prop
  | none => True
  | some cr => if cr.changeType = restoreResourceState then RestoredObserved env db cr
    else SurfacesObserved env db cr

section Events

variable {P Q R : DriftEvent → Prop} {e e' : DriftEvent}

/-- What became of an event when the ones with `P` were dismissed. -/
structure Fate (P : DriftEvent → Prop) (e e' : DriftEvent) : Prop where
  id : e'.id = e.id
  key : e'.key = e.key
  closed : P e → e'.status = .dismissed
  kept : ¬P e → e'.status = e.status

def EventsAfter (P : DriftEvent → Prop) (db db' : DriftDb) : Prop :=
  List.Forall₂ (Fate P) db.events db'.events

theorem EventsAfter.congr (h : EventsAfter P db db') (hPQ : ∀ e, P e ↔ Q e) :
    EventsAfter Q db db' := by
  have : P = Q := funext fun _ => propext (hPQ _)
  exact this ▸ h

theorem EventsAfter.refl (db : DriftDb) : EventsAfter (fun _ => False) db db :=
  List.forall₂_same.mpr fun _ _ => ⟨rfl,rfl,fun h => h.elim,fun _ => rfl⟩

/-- An update that dismisses the events with `R` that still stand. -/
theorem EventsAfter.dismiss (h : EventsAfter P db db') {p : DriftEvent → Bool} (now : Nat)
    (note : String) (hp : ∀ e e', Fate P e e' → ¬P e → (p e' = true ↔ R e)) :
    EventsAfter (fun e => P e ∨ R e) db (db'.dismiss p now note) := by
  unfold EventsAfter DriftDb.dismiss
  refine List.forall₂_map_right_iff.mpr (h.imp fun e e' hfate => ?_)
  refine ⟨?_,?_,fun hclosed => ?_,fun hkept => ?_⟩
  · split
    · exact hfate.id
    · exact hfate.id
  · split
    · exact hfate.key
    · exact hfate.key
  · split
    · rfl
    · rename_i hfalse
      by_cases hP : P e
      · exact hfate.closed hP
      · exact absurd ((hp e e' hfate hP).mpr (hclosed.resolve_left hP)) hfalse
  · have hP : ¬P e := fun hP => hkept (Or.inl hP)
    rw [if_neg fun htrue => hkept (Or.inr ((hp e e' hfate hP).mp htrue))]
    exact hfate.kept hP

theorem EventsAfter.fate (h : EventsAfter P db db') (he : e ∈ db.events) :
    ∃ e' ∈ db'.events, Fate P e e' := by
  obtain ⟨i,hi,rfl⟩ := List.mem_iff_getElem.mp he
  have hlength := h.length_eq
  exact ⟨db'.events[i],List.getElem_mem _,h.get hi (hlength ▸ hi)⟩

theorem EventsAfter.fate_of_id (h : EventsAfter P db db') (he : e ∈ db.events)
    (he' : e' ∈ db'.events) (hid : e'.id = e.id) : Fate P e e' := by
  obtain ⟨other,hother,hfate⟩ := h.fate he
  have : other = e' := Orm.eq_of_key db'.eventKeys hother he' (hfate.id.trans hid.symm)
  exact this ▸ hfate

end Events

section Anchors

variable {os : List Observation} {o : Observation} {row : ResourceState}

/-- The anchors are the states that were stored last. -/
def AnchorsAfter (cr : ChangeRequest) (os : List Observation) (db db' : DriftDb) : Prop :=
  ∀ k, match lastStored os k with
    | none => db'.loadResourceState k = db.loadResourceState k
    | some state => ∃ row, db'.loadResourceState k = some row ∧ row.state = state ∧
        row.sourceCrId = some cr.id

theorem loadResourceState_upsert (db : DriftDb) (row : ResourceState) (k : SurfaceKey) :
    ∃ id, (db.upsert row).loadResourceState k =
      if row.key = k then some { row with id := id } else db.loadResourceState k := by
  unfold DriftDb.upsert
  cases hold : db.loadResourceState row.key with
  | none =>
    refine ⟨row.id,?_⟩
    have hnone := List.find?_eq_none.mp hold
    simp only [Option.isSome_none,Bool.false_eq_true,if_false,DriftDb.loadResourceState,
      List.find?_append]
    by_cases hk : row.key = k
    · subst hk
      rw [if_pos rfl]
      have : db.resourceStates.find? (fun r => r.key = row.key) = none := hold
      rw [this]
      simp
    · simp [hk]
  | some old =>
    refine ⟨old.id,?_⟩
    have hkey : ∀ r : ResourceState,
        (if r.key = row.key then { row with id := r.id } else r).key = r.key := by
      intro r
      split
      · rename_i heq
        exact heq.symm
      · rfl
    simp only [Option.isSome_some,if_true,DriftDb.loadResourceState,List.find?_map]
    have hcomp : (fun r : ResourceState => decide (r.key = k)) ∘ (fun r : ResourceState =>
        if r.key = row.key then { row with id := r.id } else r) = fun r => decide (r.key = k) := by
      funext r
      simp [hkey r]
    rw [hcomp]
    by_cases hk : row.key = k
    · subst hk
      have : db.resourceStates.find? (fun r => r.key = row.key) = some old := hold
      have holdKey : old.key = row.key := by simpa using List.find?_some this
      rw [this,if_pos rfl]
      simp [holdKey]
    · rw [if_neg hk]
      cases hfound : db.resourceStates.find? (fun r => r.key = k) with
      | none => simp
      | some found =>
        have hfoundKey : found.key = k := by simpa using List.find?_some hfound
        have hne : found.key ≠ row.key := fun heq => hk (heq.symm.trans hfoundKey)
        simp [hne]

theorem lastStored_append (os : List Observation) (o : Observation) (k : SurfaceKey) :
    lastStored (os ++ [o]) k =
      if o.key = k ∧ o.stored ≠ none then o.stored else lastStored os k := by
  unfold lastStored
  rw [List.reverse_append]
  by_cases hk : o.key = k
  · cases hstored : o.stored <;> simp [hk,hstored]
  · simp [hk]

theorem lastStored_eq_none : lastStored os k = none ↔ ∀ o ∈ os, o.key = k → o.stored = none := by
  unfold lastStored
  rw [List.findSome?_eq_none_iff]
  simp only [List.mem_reverse,ite_eq_right_iff]

theorem AnchorsAfter.failed (h : AnchorsAfter cr os db db') (hfailed : o.stored = none) :
    AnchorsAfter cr (os ++ [o]) db db' := by
  intro k
  rw [lastStored_append,if_neg fun hk => hk.2 hfailed]
  exact h k

theorem AnchorsAfter.stored (h : AnchorsAfter cr os db db') {state : Dict}
    (hstored : o.stored = some state) (n : Nat) :
    AnchorsAfter cr (os ++ [o]) db (db'.upsert (anchorRow env cr n o.key state)) := by
  intro k
  have hkey : (anchorRow env cr n o.key state).key = o.key := rfl
  obtain ⟨id,hload⟩ := loadResourceState_upsert db' (anchorRow env cr n o.key state) k
  rw [lastStored_append,hload,hkey]
  by_cases hk : o.key = k
  · rw [if_pos ⟨hk,by simp [hstored]⟩,if_pos hk,hstored]
    exact ⟨_,rfl,rfl,rfl⟩
  · rw [if_neg fun h => hk h.1,if_neg hk]
    exact h k

end Anchors

section Follow

variable {os : List Observation} {o last : Observation}

theorem followed_append_stored (h : last.stored ≠ none) :
    Followed (os ++ [last]) o ↔ o ∈ os := by
  constructor
  · rintro ⟨before,after,heq,later,hlater,_⟩
    obtain ⟨after',x,rfl⟩ :=
      (List.eq_nil_or_concat after).resolve_left (List.ne_nil_of_mem hlater)
    have hos : os ++ [last] = (before ++ o :: after') ++ [x] := by simpa using heq
    rw [(List.append_inj' hos rfl).1]
    simp
  · intro ho
    obtain ⟨before,after,rfl⟩ := List.append_of_mem ho
    exact ⟨before,after ++ [last],by simp,last,by simp,h⟩

theorem followed_append_failed (h : last.stored = none) :
    Followed (os ++ [last]) o ↔ Followed os o := by
  constructor
  · rintro ⟨before,after,heq,later,hlater,hstored⟩
    obtain ⟨after',x,rfl⟩ :=
      (List.eq_nil_or_concat after).resolve_left (List.ne_nil_of_mem hlater)
    have hos : os ++ [last] = (before ++ o :: after') ++ [x] := by simpa using heq
    obtain ⟨rfl,hx⟩ := List.append_inj' hos rfl
    obtain rfl : last = x := by simpa using hx
    refine ⟨before,after',rfl,later,?_,hstored⟩
    rw [List.concat_eq_append] at hlater
    rcases List.mem_append.mp hlater with hlater | hlater
    · exact hlater
    · rw [List.mem_singleton.mp hlater] at hstored
      exact absurd h hstored
  · rintro ⟨before,after,rfl,later,hlater,hstored⟩
    exact ⟨before,after ++ [last],by simp,later,by simp [hlater],hstored⟩

theorem Followed.mem (h : Followed os o) : o ∈ os := by
  obtain ⟨before,after,rfl,_⟩ := h
  simp

end Follow

section Session

variable {P Q : DriftEvent → Prop} {s : DriftSession}

/-- A session in which the events with `P` are dismissed and the dismissals of the ones with `Q`
are committed. -/
structure Tracked (cr : ChangeRequest) (db : DriftDb) (P Q : DriftEvent → Prop)
    (s : DriftSession) : Prop where
  working : EventsAfter P db s.working
  committed : EventsAfter Q db s.committed
  anchors : AnchorsAfter cr s.observations db s.committed
  shared : s.working.resourceStates = s.committed.resourceStates
  policies : ∀ k, s.working.ambiguous k = db.ambiguous k

theorem tracked_start (db : DriftDb) :
    Tracked cr db (fun _ => False) (fun _ => False) ⟨db,db,[]⟩ where
  working := .refl db
  committed := .refl db
  anchors := fun k => by simp [lastStored]
  shared := rfl
  policies := fun _ => rfl

theorem loadResourceState_shared (h : s.working.resourceStates = s.committed.resourceStates)
    (k : SurfaceKey) : s.working.loadResourceState k = s.committed.loadResourceState k := by
  rw [DriftDb.loadResourceState,h,DriftDb.loadResourceState]

/-- The `try` records the observation; what is stored commits the transaction. -/
theorem reanchor_tracked (env : DriftEnv) (assetId : Uuid) (surfaceType : String)
    (h : Tracked cr db P Q s) :
    ∃ s', reanchor env cr assetId surfaceType s = (.ok (),s') ∧
      s'.observations =
        s.observations ++ [observation env cr s.observations.length assetId surfaceType] ∧
      Tracked cr db P (fun e =>
        ((observation env cr s.observations.length assetId surfaceType).stored ≠ none ∧ P e) ∨
        ((observation env cr s.observations.length assetId surfaceType).stored = none ∧ Q e))
        s' := by
  unfold reanchor
  dsimp only
  rw [Py.get_bind,Py.modify_bind]
  generalize ho : observation env cr s.observations.length assetId surfaceType = o
  cases hstored : o.stored with
  | none =>
    refine ⟨_,rfl,rfl,h.working,?_,h.anchors.failed hstored,h.shared,h.policies⟩
    exact h.committed.congr fun e => by simp
  | some state =>
    refine ⟨_,rfl,rfl,h.working,?_,?_,rfl,h.policies⟩
    · have hworking : EventsAfter P db s.working := h.working
      exact hworking.congr fun e => by simp
    · have hanchors : AnchorsAfter cr s.observations db s.working := by
        intro k
        have hk := h.anchors k
        rwa [← loadResourceState_shared h.shared k] at hk
      exact hanchors.stored hstored _

theorem covers_autoPolicy (id : Uuid) (k k' : SurfaceKey) :
    (autoPolicy cr id k).covers k' = decide (k = k') := by
  obtain ⟨org,assetId,surfaceType⟩ := k
  obtain ⟨org',assetId',surfaceType'⟩ := k'
  simp only [DriftPolicy.covers,autoPolicy,List.mem_singleton,Prod.mk.injEq]
  simp [eq_comm]

theorem ensureDriftPolicy_tracked (env : DriftEnv) (k : SurfaceKey) (h : Tracked cr db P Q s) :
    (db.ambiguous k = true → ∃ e, ensureDriftPolicy env cr k s = (.error e,s)) ∧
    (db.ambiguous k = false → ∃ s', ensureDriftPolicy env cr k s = (.ok (),s') ∧
      s'.observations = s.observations ∧ Tracked cr db P Q s') := by
  have hpolicies := h.policies
  rw [← hpolicies k]
  unfold ensureDriftPolicy
  rw [Py.get_bind]
  cases hcover : s.working.policies.filter (DriftPolicy.covers k) with
  | nil =>
    refine ⟨fun hamb => by simp [DriftDb.ambiguous,hcover] at hamb,fun _ => ?_⟩
    refine ⟨_,rfl,rfl,h.working,h.committed,h.anchors,h.shared,fun k' => ?_⟩
    rw [← hpolicies k']
    by_cases hk : k = k'
    · subst hk
      simp [DriftDb.ambiguous,List.filter_append,hcover,covers_autoPolicy]
    · simp [DriftDb.ambiguous,List.filter_append,covers_autoPolicy,hk]
  | cons policy rest =>
    cases rest with
    | nil =>
      refine ⟨fun hamb => by simp [DriftDb.ambiguous,hcover] at hamb,fun _ => ?_⟩
      exact ⟨s,rfl,rfl,h⟩
    | cons policy' rest =>
      refine ⟨fun _ => ⟨_,rfl⟩,fun hamb => ?_⟩
      simp [DriftDb.ambiguous,hcover] at hamb

theorem dismissEvents_tracked (env : DriftEnv) (h : Tracked cr db P Q s)
    {p : DriftEvent → Bool} {R : DriftEvent → Prop}
    (hp : ∀ e e', Fate P e e' → ¬P e → (p e' = true ↔ R e)) :
    ∃ s', dismissEvents env cr p s = (.ok (),s') ∧ s'.observations = s.observations ∧
      Tracked cr db (fun e => P e ∨ R e) Q s' :=
  ⟨_,rfl,rfl,h.working.dismiss _ _ hp,h.committed,h.anchors,h.shared,h.policies⟩

theorem Tracked.congr {P' Q' : DriftEvent → Prop} (h : Tracked cr db P Q s)
    (hP : ∀ e, P e ↔ P' e) (hQ : ∀ e, Q e ↔ Q' e) : Tracked cr db P' Q' s :=
  ⟨h.working.congr hP,h.committed.congr hQ,h.anchors,h.shared,h.policies⟩

/-- A session whose dismissals are all committed. -/
theorem Tracked.commit (h : Tracked cr db P Q s) : Tracked cr db P P s.commit where
  working := h.working
  committed := h.working
  anchors := by
    intro k
    have hk := h.anchors k
    rwa [← loadResourceState_shared h.shared k] at hk
  shared := rfl
  policies := h.policies

end Session

section Loop

variable {body : Uuid → String → Py DriftSession Unit} {stops : SurfaceKey → Bool}
  {good halted : DriftSession → Prop} {s : DriftSession}

def visit (body : Uuid → String → Py DriftSession Unit) :
    Option (Uuid × String) → Py DriftSession Unit
  | some p => body p.1 p.2
  | none => Py.raise (.valueError "badly formed hexadecimal UUID string")

/-- What one round of a loop does: it makes one observation and raises where it stops. -/
def Round (env : DriftEnv) (cr : ChangeRequest) (stops : SurfaceKey → Bool)
    (halted good : DriftSession → Prop) (body : Uuid → String → Py DriftSession Unit) : Prop :=
  ∀ s assetId surfaceType, good s → ∃ r s', body assetId surfaceType s = (r,s') ∧
    s'.observations =
      s.observations ++ [observation env cr s.observations.length assetId surfaceType] ∧
    r.isOk = !stops (cr.organizationId,assetId,surfaceType) ∧ halted s' ∧
    (r.isOk = true → good s')

/-- The loop makes the planned observations and raises where the plan says so. -/
theorem Round.loop (hround : Round env cr stops halted good body)
    (hhalted : ∀ s, good s → halted s) (steps : List (Option (Uuid × String))) (hs : good s) :
    (Py.each (visit body) steps s).2.observations =
        s.observations ++ observationsOf env cr stops s.observations.length steps ∧
      (Py.each (visit body) steps s).1.isOk = completes cr stops steps ∧
      halted (Py.each (visit body) steps s).2 ∧
      (completes cr stops steps = true → good (Py.each (visit body) steps s).2) := by
  induction steps generalizing s with
  | nil => exact ⟨by simp [Py.each,observationsOf],rfl,hhalted s hs,fun _ => hs⟩
  | cons step steps ih =>
    obtain ⟨hstate,hok⟩ := Py.each_cons_alike (visit body) step steps s
    rw [hstate,hok,Py.bind_run]
    cases step with
    | none => exact ⟨by simp [visit,observationsOf],by simp [visit,completes]; rfl,hhalted s hs,
        fun h => by simp [completes] at h⟩
    | some p =>
      obtain ⟨assetId,surfaceType⟩ := p
      obtain ⟨r,t,hrun,hobserves,hreturns,hleaves,hkeeps⟩ := hround s assetId surfaceType hs
      have hvisit : visit body (some (assetId,surfaceType)) s = (r,t) := hrun
      rw [hvisit]
      cases r with
      | error e =>
        have hstop : stops (cr.organizationId,assetId,surfaceType) = true := by
          simpa [Except.isOk,Except.toBool] using hreturns
        refine ⟨?_,?_,hleaves,fun h => ?_⟩
        · simpa [observationsOf,hstop] using hobserves
        · simp [completes,hstop]
          rfl
        · simp [completes,hstop] at h
      | ok u =>
        have hgo : stops (cr.organizationId,assetId,surfaceType) = false := by
          simpa [Except.isOk,Except.toBool] using hreturns
        obtain ⟨hos,hrest,hleft,hgood⟩ := ih (hkeeps rfl)
        have hcompletes : completes cr stops (some (assetId,surfaceType) :: steps) =
            completes cr stops steps := by simp [completes,hgo]
        rw [hcompletes]
        refine ⟨?_,hrest,hleft,hgood⟩
        rw [hos,hobserves]
        simp [observationsOf,hgo]

end Loop

section Rounds

/-- The open events of the observed surfaces. -/
def ClosedBy (os : List Observation) (e : DriftEvent) : Prop :=
  e.status = .opened ∧ ∃ o ∈ os, o.key = e.key

/-- The ones whose dismissal a later observation has committed. -/
def CommittedBy (os : List Observation) (e : DriftEvent) : Prop :=
  e.status = .opened ∧ ∃ o, Followed os o ∧ o.key = e.key

theorem closedBy_append (os : List Observation) (o : Observation) (e : DriftEvent) :
    ClosedBy os e ∨ (e.key = o.key ∧ e.status = .opened) ↔ ClosedBy (os ++ [o]) e := by
  simp only [ClosedBy,List.mem_append,List.mem_singleton,or_and_right,exists_or,exists_eq_left]
  rw [and_or_left]
  exact or_congr Iff.rfl (and_comm.trans (and_congr_right fun _ => eq_comm))

theorem committedBy_append (os : List Observation) (o : Observation) (e : DriftEvent) :
    (o.stored ≠ none ∧ ClosedBy os e) ∨ (o.stored = none ∧ CommittedBy os e) ↔
      CommittedBy (os ++ [o]) e := by
  by_cases hstored : o.stored = none
  · simp [CommittedBy,followed_append_failed hstored,hstored]
  · simp [CommittedBy,ClosedBy,followed_append_stored hstored,hstored]

def OpenLoop (cr : ChangeRequest) (db : DriftDb) (s : DriftSession) : Prop :=
  Tracked cr db (ClosedBy s.observations) (CommittedBy s.observations) s

def Halted (cr : ChangeRequest) (db : DriftDb) (s : DriftSession) : Prop :=
  ∃ P, Tracked cr db P (CommittedBy s.observations) s

/-- One round for an asset and a surface. -/
theorem closeSurface_round (env : DriftEnv) (cr : ChangeRequest) (db : DriftDb) :
    Round env cr db.ambiguous (Halted cr db) (OpenLoop cr db) (closeSurface env cr) := by
  intro s assetId surfaceType h
  obtain ⟨s₁,hanchor,hos,htracked⟩ := reanchor_tracked env assetId surfaceType h
  generalize ho : observation env cr s.observations.length assetId surfaceType = o at *
  have hkey : o.key = (cr.organizationId,assetId,surfaceType) := by rw [← ho]; rfl
  have htracked₁ : Tracked cr db (ClosedBy s.observations) (CommittedBy s₁.observations) s₁ :=
    htracked.congr (fun _ => Iff.rfl) fun e => by
      rw [hos]
      exact committedBy_append s.observations o e
  obtain ⟨hraises,hgoes⟩ :=
    ensureDriftPolicy_tracked env (cr.organizationId,assetId,surfaceType) htracked₁
  unfold closeSurface
  rw [Py.bind_ok hanchor]
  cases hamb : db.ambiguous (cr.organizationId,assetId,surfaceType) with
  | true =>
    obtain ⟨exc,hexc⟩ := hraises hamb
    rw [Py.bind_error hexc]
    exact ⟨_,_,rfl,hos,rfl,⟨_,htracked₁⟩,fun hok => by cases hok⟩
  | false =>
    obtain ⟨s₂,hensure,hos₂,htracked₂⟩ := hgoes hamb
    rw [Py.bind_ok hensure]
    have hquery : ∀ e e', Fate (ClosedBy s.observations) e e' → ¬ClosedBy s.observations e →
        (decide (e'.key = (cr.organizationId,assetId,surfaceType) ∧ e'.status = .opened) = true ↔
          e.key = o.key ∧ e.status = .opened) := by
      intro e e' hfate hopen
      rw [hfate.key,hfate.kept hopen,hkey]
      simp
    obtain ⟨s₃,hdismiss,hos₃,htracked₃⟩ := dismissEvents_tracked env htracked₂ hquery
    have hos' : s₃.observations = s.observations ++ [o] := by rw [hos₃,hos₂,hos]
    have hopen : OpenLoop cr db s₃ := htracked₃.congr
      (fun e => by rw [hos']; exact closedBy_append s.observations o e)
      (fun e => by rw [hos',← hos])
    exact ⟨_,s₃,hdismiss,hos',rfl,⟨_,hopen⟩,fun _ => hopen⟩

end Rounds

section Outcome

variable {os : List Observation} {C : DriftEvent → Prop} {s : DriftSession}

/-- The end of the hook: the observations, and the open events that it dismissed. -/
structure Ended (cr : ChangeRequest) (db : DriftDb) (os : List Observation)
    (C : DriftEvent → Prop) (s : DriftSession) : Prop where
  observations : s.observations = os
  events : EventsAfter C db s.committed
  anchors : AnchorsAfter cr os db s.committed

theorem exists_stored : (∃ state, lastStored os k = some state) ↔
    ∃ o ∈ os, o.key = k ∧ o.stored ≠ none := by
  rw [← Option.isSome_iff_exists,← Option.ne_none_iff_isSome,Ne,lastStored_eq_none]
  simp

/-- Nothing is hidden when the dismissed events have been observed. -/
theorem Ended.nothingHidden_iff (h : Ended cr db os C s) :
    NothingHidden (some cr.id) db s ↔
      ∀ e ∈ db.events, e.status = .opened → C e → ∃ o ∈ os, o.key = e.key ∧ o.stored ≠ none := by
  constructor
  · intro hidden e he hopen hC
    obtain ⟨e',he',hfate⟩ := h.events.fate he
    have hclosed : e'.status ≠ .opened := by
      rw [hfate.closed hC]
      decide
    obtain ⟨state,row,hstored,_⟩ := hidden.observed e he e' he' hfate.id hopen hclosed
    rw [h.observations] at hstored
    exact exists_stored.mp ⟨state,hstored⟩
  · intro hobserved
    have hstays : ∀ e ∈ db.events, e.status = .opened → ∀ e' ∈ s.committed.events,
        e'.id = e.id → lastStored os e.key = none → e'.status = .opened := by
      intro e he hopen e' he' hid hnone
      have hfate := h.events.fate_of_id he he' hid
      have hC : ¬C e := by
        intro hC
        obtain ⟨state,hstate⟩ := exists_stored.mpr (hobserved e he hopen hC)
        rw [hnone] at hstate
        cases hstate
      exact (hfate.kept hC).trans hopen
    constructor
    · intro e he e' he' hid hopen hclosed
      have hanchor := h.anchors e.key
      rw [h.observations]
      cases hlast : lastStored os e.key with
      | none => exact absurd (hstays e he hopen e' he' hid hlast) hclosed
      | some state =>
        rw [hlast] at hanchor
        obtain ⟨row,hrow,hstate,hcr⟩ := hanchor
        exact ⟨state,row,rfl,hrow,hstate,hcr⟩
    · intro o _ hnone
      have hanchor := h.anchors o.key
      rw [h.observations] at hnone
      rw [hnone] at hanchor
      refine ⟨hanchor,fun e he hkey hopen e' he' hid => ?_⟩
      exact hstays e he hopen e' he' hid (by rwa [hkey])

theorem ended_unchanged (cr : ChangeRequest) (db : DriftDb) :
    Ended cr db [] (fun _ => False) ⟨db,db,[]⟩ where
  observations := rfl
  events := .refl db
  anchors := fun k => by simp [lastStored]

end Outcome

section Completed

variable {os : List Observation} {C P : DriftEvent → Prop} {s : DriftSession} {done : Bool}

/-- A loop is left by an exception, or its end is committed. -/
theorem ended_of_loop {α : Type} {x : Py DriftSession α} (hos : (x s).2.observations = os)
    (hdone : (x s).1.isOk = done) (hhalted : ∃ P', Tracked cr db P' P (x s).2)
    (hgood : done = true → ∃ Q, Tracked cr db C Q (x s).2) (hPC : ∀ e, P e → C e) :
    Ended cr db os (fun e => C e ∧ (done = true ∨ P e))
      ((x >>= fun _ => Py.modify DriftSession.commit) s).2 := by
  rw [Py.bind_run]
  rcases hrun : x s with ⟨r,t⟩
  rw [hrun] at hos hdone hhalted hgood
  cases r with
  | error e =>
    obtain rfl : false = done := hdone
    obtain ⟨P',h⟩ := hhalted
    exact ⟨hos,h.committed.congr fun e => by simpa using hPC e,hos ▸ h.anchors⟩
  | ok u =>
    obtain rfl : true = done := hdone
    obtain ⟨Q,h⟩ := hgood rfl
    have hcommit := h.commit
    exact ⟨hos,hcommit.committed.congr fun e => by simp,hos ▸ hcommit.anchors⟩

/-- The nested loops of an ordinary change request as one loop. -/
theorem each_visits (body : Uuid → String → Py DriftSession Unit)
    (targets surfaces : List String) :
    Py.Alike (Py.each (fun asset => do
        let assetId ← Py.ofExcept (parseUuid asset)
        Py.each (body assetId) surfaces) targets)
      (Py.each (visit body) (visits targets surfaces)) := by
  refine Py.each_nested (fun asset => ?_) targets
  cases hid : parseUuid asset with
  | error e => exact fun s => ⟨rfl,rfl⟩
  | ok assetId =>
    have hmap : (surfaces.map fun surfaceType => some (assetId,surfaceType)) =
        surfaces.flatMap fun surfaceType => [some (assetId,surfaceType)] := List.map_eq_flatMap
    dsimp only
    rw [hmap]
    refine Py.Alike.trans (fun s => ⟨rfl,rfl⟩) (Py.each_nested (fun surfaceType => ?_) surfaces)
    exact (Py.alike_map _ _).symm

theorem each_visits_one (body : Uuid → String → Py DriftSession Unit) (targets : List String)
    (surfaceType : String) :
    Py.Alike (Py.each (fun asset => do
        let assetId ← Py.ofExcept (parseUuid asset)
        body assetId surfaceType) targets)
      (Py.each (visit body) (visits targets [surfaceType])) := by
  refine Py.each_nested (fun asset => ?_) targets
  cases hid : parseUuid asset with
  | error e => exact fun s => ⟨rfl,rfl⟩
  | ok assetId => exact (Py.alike_map (body assetId surfaceType) fun u => [u]).symm

theorem observationsOf_none {stops : SurfaceKey → Bool} {n : Nat}
    {steps : List (Option (Uuid × String))} (h : ∀ step ∈ steps, step = none) :
    observationsOf env cr stops n steps = [] := by
  cases steps with
  | nil => rfl
  | cons step steps =>
    rw [h step (by simp)]
    rfl

theorem onChangeCompleted_ended (env : DriftEnv) (cr : ChangeRequest) (db : DriftDb)
    (hos : observationsOf env cr db.ambiguous 0
      (visits cr.targetAssetIds (env.driftSurfaces cr.changeType.value)) = os)
    (hdone : completes cr db.ambiguous
      (visits cr.targetAssetIds (env.driftSurfaces cr.changeType.value)) = done) :
    Ended cr db os (fun e => ClosedBy os e ∧ (done = true ∨ CommittedBy os e))
      (onChangeCompleted env cr ⟨db,db,[]⟩).2 := by
  unfold onChangeCompleted
  split
  · rename_i hempty
    have hnil : env.driftSurfaces cr.changeType.value = [] := by simpa using hempty
    have hnone : ∀ step ∈ visits cr.targetAssetIds [], step = none := by
      intro step hstep
      obtain ⟨asset,_,hasset⟩ := List.mem_flatMap.mp hstep
      split at hasset
      · simp at hasset
      · simpa using hasset
    rw [hnil,observationsOf_none hnone] at hos
    subst hos
    have h := ended_unchanged cr db
    exact ⟨h.observations,h.events.congr fun e => by simp [ClosedBy],h.anchors⟩
  · have hstart : OpenLoop cr db ⟨db,db,[]⟩ := (tracked_start db).congr
      (fun e => by simp [ClosedBy]) (fun e => by simp [CommittedBy,Followed])
    obtain ⟨hobs,hok,hhalted,hgood⟩ := (closeSurface_round env cr db).loop
      (fun s hs => ⟨_,hs⟩)
      (visits cr.targetAssetIds (env.driftSurfaces cr.changeType.value)) hstart
    obtain ⟨hstate,hsame⟩ := each_visits (closeSurface env cr) cr.targetAssetIds
      (env.driftSurfaces cr.changeType.value) ⟨db,db,[]⟩
    rw [← hstate] at hobs hhalted hgood
    rw [← hsame,hdone] at hok
    have hall := hobs.trans ((List.nil_append _).trans hos)
    refine ended_of_loop hall hok ?_ (fun h => ?_) ?_
    · obtain ⟨P',hP'⟩ := hhalted
      exact ⟨P',hall ▸ hP'⟩
    · exact ⟨_,Tracked.congr (hgood (hdone.trans h)) (fun e => by rw [hall]) fun _ => Iff.rfl⟩
    · rintro e ⟨hopen,o,hfollowed,hkey⟩
      exact ⟨hopen,o,hfollowed.mem,hkey⟩

/-- A restoration whose event is dismissed from the start. -/
def RestoreLoop (cr : ChangeRequest) (db : DriftDb) (P : DriftEvent → Prop)
    (s : DriftSession) : Prop :=
  Tracked cr db P (fun e => P e ∧ ∃ o ∈ s.observations, o.stored ≠ none) s

theorem reanchor_round (env : DriftEnv) (cr : ChangeRequest) (db : DriftDb) :
    Round env cr (fun _ => false) (RestoreLoop cr db P) (RestoreLoop cr db P)
      (reanchor env cr) := by
  intro s assetId surfaceType h
  obtain ⟨s',hrun,hos,htracked⟩ := reanchor_tracked env assetId surfaceType h
  refine ⟨_,s',hrun,hos,rfl,?_,fun _ => ?_⟩
  all_goals
    refine htracked.congr (fun _ => Iff.rfl) fun e => ?_
    rw [hos]
    by_cases hstored : (observation env cr s.observations.length assetId surfaceType).stored = none
    · simp [hstored,or_and_right,exists_or]
    · simp [hstored,or_and_right,exists_or]

/-- The re-anchoring of a restoration as one loop. -/
theorem reanchorTargets_visits (env : DriftEnv) (cr : ChangeRequest)
    (hshared : s.working.resourceStates = db.resourceStates) :
    (reanchorTargets env cr (cr.desiredOutcome.getD "resource_state_id" .null) s).2 =
        (Py.each (visit (reanchor env cr)) (restoreVisits db cr) s).2 ∧
      (reanchorTargets env cr (cr.desiredOutcome.getD "resource_state_id" .null) s).1.isOk =
        (Py.each (visit (reanchor env cr)) (restoreVisits db cr) s).1.isOk := by
  unfold reanchorTargets restoreVisits
  dsimp only
  split
  · cases hid : parseUuid (jsonStr (cr.desiredOutcome.getD "resource_state_id" .null)) with
    | error e => exact ⟨rfl,rfl⟩
    | ok id =>
      rw [Py.ofExcept_ok_bind,Py.get_bind,hshared]
      dsimp only
      cases hrow : db.resourceStates.find? fun row => row.id = id with
      | none => exact ⟨rfl,rfl⟩
      | some rs =>
        have halike := (Py.alike_map _ fun _ => ()).trans
          (each_visits_one (reanchor env cr) cr.targetAssetIds rs.surfaceType)
        exact halike s
  · exact ⟨rfl,rfl⟩

theorem reanchorTargets_ended (env : DriftEnv) (cr : ChangeRequest)
    (hos : observationsOf env cr (fun _ => false) 0 (restoreVisits db cr) = os)
    (hdone : completes cr (fun _ => false) (restoreVisits db cr) = done)
    (hs : Tracked cr db P (fun _ => False) s) (hnew : s.observations = [])
    (hshared : s.working.resourceStates = db.resourceStates) :
    Ended cr db os (fun e => P e ∧ (done = true ∨ P e ∧ ∃ o ∈ os, o.stored ≠ none))
      ((reanchorTargets env cr (cr.desiredOutcome.getD "resource_state_id" .null) >>= fun _ =>
        Py.modify DriftSession.commit) s).2 := by
  have hstart : RestoreLoop cr db P s :=
    hs.congr (fun _ => Iff.rfl) fun e => by simp [hnew]
  obtain ⟨hobs,hok,hhalted,hgood⟩ := (reanchor_round env cr db).loop (fun _ h => h)
    (restoreVisits db cr) hstart
  obtain ⟨hstate,hsame⟩ := reanchorTargets_visits env cr hshared
  rw [← hstate] at hobs hhalted hgood
  rw [← hsame,hdone] at hok
  rw [hnew] at hobs
  have hall := hobs.trans ((List.nil_append _).trans hos)
  refine ended_of_loop hall hok ?_ (fun h => ⟨_,hgood (hdone.trans h)⟩) fun e h => h.1
  exact ⟨P,Tracked.congr hhalted (fun _ => Iff.rfl) fun e => by rw [hall]⟩

theorem onRestoreCompleted_iff (env : DriftEnv) (cr : ChangeRequest) (db : DriftDb) :
    NothingHidden (some cr.id) db (onRestoreCompleted env cr ⟨db,db,[]⟩).2 ↔
      RestoredObserved env db cr := by
  unfold onRestoreCompleted RestoredObserved
  dsimp only
  by_cases hevent : (cr.desiredOutcome.getD "drift_event_id" .null).truthy = true
  · rw [if_pos hevent]
    cases hid : parseUuid (jsonStr (cr.desiredOutcome.getD "drift_event_id" .null)) with
    | error exc =>
      have hnone : ∀ e, ¬restoredEvent cr e := by simp [restoredEvent,hid]
      refine (ended_unchanged cr db).nothingHidden_iff.trans ?_
      simp [hnone]
    | ok id =>
      have hnamed : ∀ e : DriftEvent, e.id = id ↔ restoredEvent cr e := by
        simp [restoredEvent,hevent,hid,eq_comm]
      have hquery : ∀ e e', Fate (fun _ => False) e e' → ¬False →
          (decide (e'.id = id) = true ↔ e.id = id) := by
        intro e e' hfate _
        simp [hfate.id]
      obtain ⟨s,hrun,hnew,htracked⟩ := dismissEvents_tracked env (tracked_start db) hquery
      have hshared : s.working.resourceStates = db.resourceStates := by
        have := congrArg (fun r => r.2.working.resourceStates) hrun
        exact this.symm
      have hended := reanchorTargets_ended env cr rfl rfl htracked hnew hshared
      rw [Py.ofExcept_ok_bind,Py.bind_ok hrun]
      refine hended.nothingHidden_iff.trans ?_
      simp only [false_or,hnamed]
      refine forall_congr' fun e => forall_congr' fun _ => forall_congr' fun _ => ?_
      constructor
      · exact fun h hrestored hkept => h ⟨hrestored,hkept.imp_right fun ho => ⟨hrestored,ho⟩⟩
      · exact fun h hkept => h hkept.1 (hkept.2.imp_right And.right)
  · have hnone : ∀ e, ¬restoredEvent cr e := fun e h => hevent h.1
    rw [if_neg hevent]
    have hended := reanchorTargets_ended env cr rfl rfl (tracked_start db) rfl rfl
    refine hended.nothingHidden_iff.trans ?_
    simp [hnone]

theorem onChangeCompleted_iff (env : DriftEnv) (cr : ChangeRequest) (db : DriftDb) :
    NothingHidden (some cr.id) db (onChangeCompleted env cr ⟨db,db,[]⟩).2 ↔
      SurfacesObserved env db cr := by
  refine (onChangeCompleted_ended env cr db rfl rfl).nothingHidden_iff.trans ?_
  unfold SurfacesObserved
  dsimp only
  generalize observationsOf env cr db.ambiguous 0 _ = os
  constructor
  · intro h o ho hfailed hkept e he hopen hkey
    have hclosed : ClosedBy os e := ⟨hopen,o,ho,hkey.symm⟩
    obtain ⟨other,hother,hsame,hstored⟩ := h e he hopen ⟨hclosed,hkept.imp_right fun hfollowed =>
      ⟨hopen,o,hfollowed,hkey.symm⟩⟩
    exact ⟨other,hother,hsame.trans hkey,hstored⟩
  · rintro h e he hopen ⟨⟨_,o,ho,hkey⟩,hkept⟩
    -- the observation that closed the event, or a followed one
    obtain ⟨o,ho,hkey,hkept⟩ : ∃ o ∈ os, o.key = e.key ∧ (completes cr db.ambiguous
        (visits cr.targetAssetIds (env.driftSurfaces cr.changeType.value)) = true ∨
        Followed os o) := by
      rcases hkept with hdone | ⟨_,o',hfollowed,hkey'⟩
      · exact ⟨o,ho,hkey,Or.inl hdone⟩
      · exact ⟨o',hfollowed.mem,hkey',Or.inr hfollowed⟩
    by_cases hstored : o.stored = none
    · obtain ⟨other,hother,hsame,hstored⟩ := h o ho hstored hkept e he hopen hkey.symm
      exact ⟨other,hother,hsame.trans hkey,hstored⟩
    · exact ⟨o,ho,hkey,hstored⟩

/-- A completed change request hides no drift exactly when it observes what it closes. -/
theorem closes_only_observed (env : DriftEnv) (cr : Option ChangeRequest) (db : DriftDb) :
    NothingHidden (cr.map ChangeRequest.id) db (db.afterCompletion env cr) ↔
      ClosesObserved env db cr := by
  unfold DriftDb.afterCompletion ClosesObserved onCrCompleted
  cases cr with
  | none =>
    refine iff_of_true ⟨fun e he e' he' hid hopen hclosed => ?_,by simp⟩ trivial
    have : e' = e := Orm.eq_of_key db.eventKeys he' he hid
    exact absurd (this ▸ hopen) hclosed
  | some cr =>
    dsimp only
    split
    · exact onRestoreCompleted_iff env cr db
    · exact onChangeCompleted_iff env cr db

/-- An agent that answers no job. -/
def silentEnv : DriftEnv where
  dispatchAgentJob := fun _ _ _ => .error (.runtimeError "agent offline")
  driftSurfaces := fun _ => ["ssh_config"]
  str := jsonStr
  now := id
  newUuid := toString

def hardenedAsset : Uuid := "12345678-1234-5678-1234-567812345678"

def hardenSsh : ChangeRequest where
  id := "cr"
  organizationId := "org"
  requesterId := "user"
  changeType := .generic "harden_ssh"
  targetAssetIds := [hardenedAsset]
  desiredOutcome := []
  status := .completed
  riskLevel := none
  changePlan := none
  applicationSequence := none

def driftedDb : DriftDb where
  resourceStates := []
  policies := []
  events := [⟨"event","org",hardenedAsset,"ssh_config",.opened,none,none⟩]
  eventKeys := by simp

/-- The observation fails, and the open event is dismissed. -/
theorem unobserved_event_dismissed : ¬ ∀ (env : DriftEnv) (cr : Option ChangeRequest)
    (db : DriftDb), NothingHidden (cr.map ChangeRequest.id) db (db.afterCompletion env cr) := by
  intro hall
  have hhidden : NothingHidden (some hardenSsh.id) driftedDb
      (onChangeCompleted silentEnv hardenSsh ⟨driftedDb,driftedDb,[]⟩).2 :=
    hall silentEnv (some hardenSsh) driftedDb
  have hobserved := (onChangeCompleted_iff silentEnv hardenSsh driftedDb).mp hhidden
  have hid : parseUuid hardenedAsset = .ok hardenedAsset := by decide +kernel
  have hvisits : visits hardenSsh.targetAssetIds
      (silentEnv.driftSurfaces hardenSsh.changeType.value) =
        [some (hardenedAsset,"ssh_config")] := by
    simp [visits,hardenSsh,silentEnv,hid]
  have hplan : observationsOf silentEnv hardenSsh driftedDb.ambiguous 0
      [some (hardenedAsset,"ssh_config")] = [⟨("org",hardenedAsset,"ssh_config"),none⟩] := rfl
  unfold SurfacesObserved at hobserved
  rw [hvisits] at hobserved
  dsimp only at hobserved
  rw [hplan] at hobserved
  obtain ⟨other,hother,_,hstored⟩ := hobserved _ (List.mem_singleton_self _) rfl (Or.inl rfl)
    ⟨"event","org",hardenedAsset,"ssh_config",.opened,none,none⟩ (by simp [driftedDb]) rfl rfl
  rw [List.mem_singleton.mp hother] at hstored
  exact hstored rfl

end Completed

end Nexplane
