import Nexplane.Entities
import Nexplane.Lib.Orm
import Nexplane.Lib.PyValue
import Nexplane.Lib.Runs

set_option autoImplicit false

/-! The store of the states that steps capture before they change a resource, for the rollback that
retrieves them. -/

namespace Nexplane
open PyValue Runs

/-- What a captured state is of. -/
structure SnapshotKey where
  crId : Uuid
  stepId : String
  organizationId : Uuid
  deriving DecidableEq

/-- A row of `pre_state_snapshots`, with times in microseconds from 1970 on. -/
structure PreStateSnapshot where
  key : SnapshotKey
  stateJson : Json
  capturedAt : Int
  expiresAt : Int

/-- The snapshots in the database, and all that were ever captured, oldest first. -/
structure SnapshotStore where
  clock : Int
  retentionDays : Uuid → Option Int
  rows : List PreStateSnapshot
  captured : List PreStateSnapshot

inductive SnapshotEvent where
  | capture (key : SnapshotKey) (state : Json)
  | purgeExpired
  | updateRetention (organizationId : Uuid) (days : Int)

namespace SnapshotStore

def defaultRetentionDays : Int := 30

def minTime : Int := -62135596800000000

def maxTime : Int := 253402300799999999

/-- `now + timedelta(days=days)`. -/
def addDays (now days : Int) : Except Exc Int :=
  let later := now + days * 86400000000
  if -999999999 ≤ days ∧ days ≤ 999999999 ∧ minTime ≤ later ∧ later ≤ maxTime then .ok later
  else .error (.other "OverflowError")

def capture (s : SnapshotStore) (now : Int) (key : SnapshotKey) (state : Json) :
    Except Exc SnapshotStore := do
  let days := (s.retentionDays key.organizationId).getD defaultRetentionDays
  let expiresAt ← addDays now days
  let snapshot : PreStateSnapshot := ⟨key,state,now,expiresAt⟩
  pure { s with rows := s.rows ++ [snapshot],captured := s.captured ++ [snapshot] }

def purgeExpired (s : SnapshotStore) (now : Int) : SnapshotStore :=
  { s with rows := s.rows.filter fun row => ¬row.expiresAt < now }

def retrieve (s : SnapshotStore) (key : SnapshotKey) (now : Int) : Except Exc (Option Json) := do
  let snapshot ← Orm.oneOrNone (.other "MultipleResultsFound")
    (s.rows.filter fun row => row.key = key ∧ row.expiresAt > now)
  pure (snapshot.map PreStateSnapshot.stateJson)

/-- A call or a change of the settings; the settings route refuses less than a week. -/
def apply (s : SnapshotStore) (now : Int) : SnapshotEvent → SnapshotStore
  | .capture key state =>
    match s.capture now key state with
    | .error _ => s
    | .ok s' => s'
  | .purgeExpired => s.purgeExpired now
  | .updateRetention organizationId days =>
    if days < 7 then s
    else { s with retentionDays := Function.update s.retentionDays organizationId (some days) }

end SnapshotStore

/-- The clock does not go back. -/
def snapshotSystem : System SnapshotStore (Int × SnapshotEvent) where
  start s := s.rows = [] ∧ s.captured = []
  step s label :=
    if label.1 < s.clock then none else some { s.apply label.1 label.2 with clock := label.1 }

section Retrieval
variable {tr : List (Transition SnapshotStore (Int × SnapshotEvent))} {s s' : SnapshotStore}
  {key : SnapshotKey} {now : Int}

/-- Every captured snapshot is there until it has expired. -/
def SnapshotStore.Kept (s : SnapshotStore) : Prop :=
  ∀ t, s.clock ≤ t → (s.rows.filter fun row => t < row.expiresAt) =
    s.captured.filter fun row => t < row.expiresAt

theorem capture_cases (s : SnapshotStore) (now : Int) (key : SnapshotKey) (state : Json) :
    s.apply now (.capture key state) = s ∨ ∃ snapshot : PreStateSnapshot,
      s.apply now (.capture key state) =
        { s with rows := s.rows ++ [snapshot],captured := s.captured ++ [snapshot] } := by
  cases hdays : SnapshotStore.addDays now
      ((s.retentionDays key.organizationId).getD SnapshotStore.defaultRetentionDays) with
  | error e => exact .inl (by simp [SnapshotStore.apply,SnapshotStore.capture,hdays,bind,Except.bind])
  | ok expiresAt =>
    exact .inr ⟨⟨key,state,now,expiresAt⟩,by
      simp [SnapshotStore.apply,SnapshotStore.capture,hdays,bind,Except.bind,pure,Except.pure]⟩

theorem purge_filter (s : SnapshotStore) {now t : Int} (h : now ≤ t) :
    ((s.purgeExpired now).rows.filter fun row => t < row.expiresAt) =
      s.rows.filter fun row => t < row.expiresAt := by
  rw [SnapshotStore.purgeExpired,List.filter_filter]
  refine List.filter_congr fun row _ => ?_
  by_cases hlive : t < row.expiresAt
  · have hkept : ¬row.expiresAt < now := by omega
    simp [hlive,hkept]
  · simp [hlive]

theorem snapshotSystem_kept : Inductive snapshotSystem SnapshotStore.Kept where
  start := by
    rintro s ⟨hrows,hcaptured⟩ t _
    rw [hrows,hcaptured]
  step := by
    rintro s ⟨now,event⟩ s' hs hstep t ht
    simp only [snapshotSystem] at hstep
    split at hstep
    · cases hstep
    · next hclock =>
      obtain rfl := Option.some.inj hstep
      have hold := hs t (by dsimp only at hclock ht; omega)
      cases event with
      | capture key state =>
        rcases capture_cases s now key state with hsame | ⟨snapshot,hnew⟩
        · rw [hsame]
          exact hold
        · rw [hnew]
          simp only [List.filter_append]
          rw [hold]
      | purgeExpired =>
        exact (purge_filter s ht).trans hold
      | updateRetention organizationId days =>
        simp only [SnapshotStore.apply]
        split
        · exact hold
        · exact hold

/-- The captures of the key that have not expired. -/
def SnapshotStore.unexpired (s : SnapshotStore) (key : SnapshotKey) (now : Int) :
    List PreStateSnapshot :=
  s.captured.filter fun row => row.key = key ∧ now < row.expiresAt

theorem SnapshotStore.Kept.retrieve_eq (hs : s.Kept) (key : SnapshotKey) (hnow : s.clock ≤ now) :
    s.retrieve key now =
      (Orm.oneOrNone (.other "MultipleResultsFound") (s.unexpired key now)).map
        (Option.map PreStateSnapshot.stateJson) := by
  have hrows : (s.rows.filter fun row => row.key = key ∧ row.expiresAt > now) =
      s.unexpired key now := by
    simpa [List.filter_filter,SnapshotStore.unexpired] using
      congrArg (List.filter fun row => row.key = key) (hs now hnow)
  rw [SnapshotStore.retrieve,hrows]
  cases Orm.oneOrNone (Exc.other "MultipleResultsFound") (s.unexpired key now) <;> rfl

/-- The answer is the first captured state of the key while it has not expired, and none when
there is no unexpired one. -/
structure Retrieves (s : SnapshotStore) (key : SnapshotKey) (now : Int)
    (answer : Except Exc (Option Json)) : Prop where
  returns : ∃ found, answer = .ok found
  first : ∀ row, (s.captured.find? fun row => row.key = key) = some row → now < row.expiresAt →
    answer = .ok (some row.stateJson)
  absent : (∀ row ∈ s.captured, row.key = key → row.expiresAt ≤ now) → answer = .ok none

theorem head?_unexpired {row : PreStateSnapshot}
    (hfirst : (s.captured.find? fun row => row.key = key) = some row) (hlive : now < row.expiresAt) :
    (s.unexpired key now).head? = some row := by
  rw [SnapshotStore.unexpired,List.head?_filter]
  obtain ⟨hkey,before,after,hcaptured,hbefore⟩ := List.find?_eq_some_iff_append.mp hfirst
  refine List.find?_eq_some_iff_append.mpr ⟨?_,before,after,hcaptured,fun earlier hearlier => ?_⟩
  · simpa using ⟨of_decide_eq_true hkey,hlive⟩
  · have hother := hbefore earlier hearlier
    simp at hother
    simp [hother]

theorem retrieves_iff_single (h : Run snapshotSystem tr s) (hnow : s.clock ≤ now) :
    Retrieves s key now (s.retrieve key now) ↔ (s.unexpired key now).length ≤ 1 := by
  rw [(h.invariant snapshotSystem_kept).retrieve_eq key hnow]
  constructor
  · rintro ⟨⟨found,hfound⟩,-,-⟩
    cases hone : Orm.oneOrNone (Exc.other "MultipleResultsFound") (s.unexpired key now) with
    | error e => simp [hone,Except.map] at hfound
    | ok row => exact Orm.oneOrNone_isOk_iff.mp ⟨row,hone⟩
  · intro hlength
    rw [Orm.oneOrNone_of_length_le hlength]
    refine ⟨⟨_,rfl⟩,fun row hfirst hlive => ?_,fun hexpired => ?_⟩
    · rw [head?_unexpired hfirst hlive]
      rfl
    · have hnone : s.unexpired key now = [] := by
        refine List.filter_eq_nil_iff.mpr fun row hrow => ?_
        have := hexpired row hrow
        simp
        exact this
      rw [hnone]
      rfl

/-- The state of a key can be retrieved just when the key has one unexpired capture at most. -/
theorem preState_retrievable_iff (h : Run snapshotSystem tr s) (hnow : s.clock ≤ now) :
    Retrieves s key now (s.retrieve key now) ↔ (s.unexpired key now).length ≤ 1 :=
  retrieves_iff_single h hnow

def emptyStore : SnapshotStore := ⟨0,fun _ => none,[],[]⟩

def stepKey (step : String) : SnapshotKey := ⟨"cr","step_" ++ step,"org"⟩

/-- Two captures, a second apart. -/
def captures (first second : SnapshotKey) : List (Int × SnapshotEvent) :=
  [(0,.capture first (.str "first")),(1000000,.capture second (.str "second"))]

def capturedStore (first second : SnapshotKey) : SnapshotStore where
  clock := 1000000
  retentionDays _ := none
  rows := [⟨first,.str "first",0,2592000000000⟩,⟨second,.str "second",1000000,2592001000000⟩]
  captured := [⟨first,.str "first",0,2592000000000⟩,⟨second,.str "second",1000000,2592001000000⟩]

theorem captures_run (first second : SnapshotKey) :
    Run snapshotSystem (snapshotSystem.history [] emptyStore (captures first second))
      (capturedStore first second) := by
  have hstart : Run snapshotSystem [] emptyStore := .start ⟨rfl,rfl⟩
  exact hstart.replay rfl

/-- Two steps that capture a state each. -/
theorem preState_retrievable_iff_steps :
    Retrieves (capturedStore (stepKey "0") (stepKey "1")) (stepKey "1") 2000000
      (.ok (some (.str "second"))) :=
  (preState_retrievable_iff (captures_run _ _) (by decide)).mpr (by decide)

/-- A step that captures its state again. -/
theorem repeated_capture_raises : ¬ ∀ (tr : List (Transition SnapshotStore (Int × SnapshotEvent)))
    (s : SnapshotStore) (key : SnapshotKey) (now : Int), Run snapshotSystem tr s → s.clock ≤ now →
    Retrieves s key now (s.retrieve key now) := by
  intro hall
  obtain ⟨⟨found,hfound⟩,-,-⟩ :=
    hall _ _ (stepKey "0") 2000000 (captures_run (stepKey "0") (stepKey "0")) (by decide)
  exact absurd hfound (by rintro ⟨⟩)

end Retrieval

end Nexplane
