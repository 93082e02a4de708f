import Nexplane.Lib.Py

set_option autoImplicit false

/-! Sessions that collect new rows, write them out before each query and hand them to the database
with a commit. What a computation leaves behind is told by the rows it adds and how it ends. -/

namespace UnitOfWork
open PyValue

variable {κ ρ α β : Type}

/-- `stored` is what the database holds; the flushed rows belong to the open transaction. A session
whose flush has failed takes no further statement. -/
structure Session (κ ρ : Type) where
  stored : κ
  flushed : List ρ := []
  pending : List ρ := []
  failed : Bool := false

def Session.rows (s : Session κ ρ) : List ρ := s.flushed ++ s.pending

section Statements

variable (storable : ρ → Bool)

/-- A flush, by itself or before a query. -/
def flush : Py (Session κ ρ) Unit := fun s =>
  if s.failed = true then (.error (.other "PendingRollbackError"),s)
  else if s.pending.all storable = true then
    (.ok (),{ s with flushed := s.rows, pending := [] })
  else (.error (.other "DBAPIError"),{ s with failed := true })

def add (row : ρ) : Py (Session κ ρ) Unit :=
  Py.modify fun s => { s with pending := s.pending ++ [row] }

/-- `write` gives the database with the rows of the transaction. -/
def commit (write : κ → List ρ → κ) : Py (Session κ ρ) Unit := do
  flush storable
  Py.modify fun s => { stored := write s.stored s.flushed }

end Statements

/-- The rows a computation adds, and how it ends. -/
abbrev Outcome (ρ : Type) := List ρ × Except Exc Unit

def Outcome.andThen (o o' : Outcome ρ) : Outcome ρ :=
  match o.2 with
  | .ok _ => (o.1 ++ o'.1,o'.2)
  | .error e => (o.1,.error e)

/-- The outcome of a round that adds one row at most. -/
def Outcome.ofRow : Except Exc (Option ρ) → Outcome ρ
  | .ok row => (row.toList,.ok ())
  | .error e => ([],.error e)

/-- The outcome of a computation on the value of a check. -/
def Outcome.after (y : Except Exc α) (g : α → Outcome ρ) : Outcome ρ :=
  match y with
  | .ok a => g a
  | .error e => ([],.error e)

/-- The outcome of a loop, which ends at the first item that raises. -/
def gather (f : α → Outcome ρ) : List α → Outcome ρ
  | [] => ([],.ok ())
  | x :: xs => (f x).andThen (gather f xs)

section Gather

variable {f : α → Outcome ρ} {o o' : Outcome ρ} {xs : List α}

theorem Outcome.andThen_ok (h : o.2 = .ok ()) : o.andThen o' = (o.1 ++ o'.1,o'.2) := by
  rw [Outcome.andThen,h]

theorem Outcome.andThen_error {e : Exc} (h : o.2 = .error e) : o.andThen o' = o := by
  rw [Outcome.andThen,h]
  exact Prod.ext rfl h.symm

theorem Outcome.andThen_extends (o o' : Outcome ρ) : o.1 <+: (o.andThen o').1 := by
  cases h : o.2 with
  | ok u => simp [Outcome.andThen,h]
  | error e => simp [Outcome.andThen_error h]

theorem gather_eq_ok :
    (gather f xs).2 = .ok () ↔ ∀ x ∈ xs, (f x).2 = .ok () := by
  induction xs with
  | nil => simp [gather]
  | cons x xs ih =>
    rw [gather,List.forall_mem_cons,← ih]
    cases h : (f x).2 with
    | ok u => simp [Outcome.andThen_ok h]
    | error e => simp [Outcome.andThen_error h,h]

theorem gather_rows (h : (gather f xs).2 = .ok ()) :
    (gather f xs).1 = xs.flatMap fun x => (f x).1 := by
  induction xs with
  | nil => rfl
  | cons x xs ih =>
    have hall := gather_eq_ok.mp h
    have hx : (f x).2 = .ok () := hall x List.mem_cons_self
    have hxs := gather_eq_ok.mpr fun y hy => hall y (List.mem_cons_of_mem _ hy)
    rw [gather,Outcome.andThen_ok hx,ih hxs,List.flatMap_cons]

/-- An outcome without rows whose end is an exception. -/
def Outcome.Barren (o : Outcome ρ) : Prop := o.1 = [] ∧ o.2 ≠ .ok ()

theorem ofRow_ok {y : Except Exc (Option ρ)} (h : (Outcome.ofRow y).2 = .ok ()) :
    ∃ row, y = .ok row ∧ (Outcome.ofRow y).1 = row.toList := by
  cases y with
  | error e => cases h
  | ok row => exact ⟨row,rfl,rfl⟩

theorem after_ok {y : Except Exc α} {g : α → Outcome ρ} (h : (Outcome.after y g).2 = .ok ()) :
    ∃ a, y = .ok a ∧ (g a).2 = .ok () ∧ (Outcome.after y g).1 = (g a).1 := by
  cases y with
  | error e => cases h
  | ok a => exact ⟨a,rfl,h,rfl⟩

@[simp] theorem barren_ofRow {y : Except Exc (Option ρ)} :
    (Outcome.ofRow y).Barren ↔ ∃ e, y = .error e := by
  cases y <;> simp [Outcome.ofRow,Outcome.Barren]

@[simp] theorem barren_after {y : Except Exc α} {g : α → Outcome ρ} :
    (Outcome.after y g).Barren ↔ (∃ e, y = .error e) ∨ ∃ a, y = .ok a ∧ (g a).Barren := by
  cases y <;> simp [Outcome.after,Outcome.Barren]

theorem ofRow_quiet {y : Except Exc (Option ρ)} :
    Outcome.ofRow y = ([],.ok ()) ↔ y = .ok none := by
  rcases y with _ | _ | _ <;> simp [Outcome.ofRow]

theorem after_quiet {y : Except Exc α} {g : α → Outcome ρ} :
    Outcome.after y g = ([],.ok ()) ↔ ∃ a, y = .ok a ∧ g a = ([],.ok ()) := by
  cases y <;> simp [Outcome.after]

theorem gather_quiet : gather f xs = ([],.ok ()) ↔ ∀ x ∈ xs, f x = ([],.ok ()) := by
  constructor
  · intro h x hx
    have hend : (gather f xs).2 = .ok () := by rw [h]
    have hrows := gather_rows hend
    rw [h] at hrows
    exact Prod.ext (List.flatMap_eq_nil_iff.mp hrows.symm x hx) (gather_eq_ok.mp hend x hx)
  · intro h
    have hend : (gather f xs).2 = .ok () := gather_eq_ok.mpr fun x hx => by rw [h x hx]
    refine Prod.ext ?_ hend
    rw [gather_rows hend]
    exact List.flatMap_eq_nil_iff.mpr fun x hx => by rw [h x hx]

/-- An outcome without an exception whose rows can all be stored. -/
def Outcome.Sound (storable : ρ → Bool) (o : Outcome ρ) : Prop :=
  o.2 = .ok () ∧ o.1.all storable = true

theorem ofRow_sound {storable : ρ → Bool} {y : Except Exc (Option ρ)} :
    (Outcome.ofRow y).Sound storable ↔ ∃ row, y = .ok row ∧ row.toList.all storable = true := by
  cases y <;> simp [Outcome.ofRow,Outcome.Sound]

theorem after_sound {storable : ρ → Bool} {y : Except Exc α} {g : α → Outcome ρ} :
    (Outcome.after y g).Sound storable ↔ ∃ a, y = .ok a ∧ (g a).Sound storable := by
  cases y <;> simp [Outcome.after,Outcome.Sound]

theorem gather_sound {storable : ρ → Bool} :
    (gather f xs).Sound storable ↔ ∀ x ∈ xs, (f x).Sound storable := by
  constructor
  · rintro ⟨hend,hall⟩ x hx
    rw [gather_rows hend,List.all_flatMap,List.all_eq_true] at hall
    exact ⟨gather_eq_ok.mp hend x hx,hall x hx⟩
  · intro h
    have hend : (gather f xs).2 = .ok () := gather_eq_ok.mpr fun x hx => (h x hx).1
    refine ⟨hend,?_⟩
    rw [gather_rows hend,List.all_flatMap,List.all_eq_true]
    exact fun x hx => (h x hx).2

/-- A loop that raises without a row raises at its first item that adds a row or raises. -/
theorem gather_barren :
    (gather f xs).Barren ↔
      ∃ before x rest, xs = before ++ x :: rest ∧ (∀ y ∈ before, f y = ([],.ok ())) ∧
        (f x).Barren := by
  induction xs with
  | nil => simp [gather,Outcome.Barren]
  | cons x xs ih =>
    constructor
    · intro h
      cases hx : (f x).2 with
      | error e =>
        rw [gather,Outcome.andThen_error hx] at h
        exact ⟨[],x,xs,rfl,by simp,h⟩
      | ok u =>
        rw [gather,Outcome.andThen_ok hx] at h
        obtain ⟨hrows,hend⟩ := h
        obtain ⟨hfirst,hrest⟩ := List.append_eq_nil_iff.mp hrows
        obtain ⟨before,y,rest,rfl,hbefore,hy⟩ := ih.mp ⟨hrest,hend⟩
        refine ⟨x :: before,y,rest,rfl,?_,hy⟩
        exact List.forall_mem_cons.mpr ⟨Prod.ext hfirst hx,hbefore⟩
    · rintro ⟨before,y,rest,hsplit,hbefore,hy⟩
      cases before with
      | nil =>
        obtain ⟨rfl,rfl⟩ := List.cons.inj hsplit
        cases hx : (f x).2 with
        | ok u => exact absurd hx hy.2
        | error e => rwa [gather,Outcome.andThen_error hx]
      | cons z before =>
        obtain ⟨rfl,rfl⟩ := List.cons.inj hsplit
        obtain ⟨hx,hbefore⟩ := List.forall_mem_cons.mp hbefore
        have hrest := ih.mpr ⟨before,y,rest,rfl,hbefore,hy⟩
        have hok : (f x).2 = .ok () := by rw [hx]
        rw [gather,Outcome.andThen_ok hok,hx]
        exact hrest

end Gather

section Leaves

variable {storable : ρ → Bool} {x y : Py (Session κ ρ) Unit} {o o' : Outcome ρ}
  {s : Session κ ρ}

/-- No flush has failed, and what has been written the database has taken. -/
structure Session.Live (storable : ρ → Bool) (s : Session κ ρ) : Prop where
  open_ : s.failed = false
  taken : s.flushed.all storable = true

/-- From a session that is live, `x` ends as told with the rows told, unless a flush failed on its
way: then not all of these rows can be stored. -/
def Leaves (storable : ρ → Bool) (x : Py (Session κ ρ) Unit) (o : Outcome ρ) : Prop :=
  ∀ s : Session κ ρ, s.Live storable →
    (∃ s', x s = (o.2,s') ∧ s'.Live storable ∧ s'.stored = s.stored ∧ s'.rows = s.rows ++ o.1) ∨
    (∃ e s', x s = (.error e,s') ∧ s'.failed = true ∧ s'.stored = s.stored ∧
      ¬(s.rows ++ o.1).all storable = true)

theorem leaves_pure : Leaves storable (pure () : Py (Session κ ρ) Unit) ([],.ok ()) := fun s hs =>
  .inl ⟨s,rfl,hs,rfl,(List.append_nil _).symm⟩

theorem leaves_raise (e : Exc) :
    Leaves storable (Py.raise e : Py (Session κ ρ) Unit) ([],.error e) := fun s hs =>
  .inl ⟨s,rfl,hs,rfl,(List.append_nil _).symm⟩

theorem leaves_add (row : ρ) :
    Leaves storable (add row : Py (Session κ ρ) Unit) ([row],.ok ()) := fun _ hs =>
  .inl ⟨_,rfl,⟨hs.open_,hs.taken⟩,rfl,(List.append_assoc _ _ _).symm⟩

theorem all_rows (hs : s.Live storable) : s.rows.all storable = s.pending.all storable := by
  rw [Session.rows,List.all_append,hs.taken,Bool.true_and]

theorem flush_ok (hs : s.Live storable) (h : s.rows.all storable = true) :
    flush storable s = (.ok (),{ s with flushed := s.rows, pending := [] }) := by
  rw [all_rows hs] at h
  simp [flush,hs.open_,h]

theorem flush_error (hs : s.Live storable) (h : ¬s.rows.all storable = true) :
    flush storable s = (.error (.other "DBAPIError"),{ s with failed := true }) := by
  rw [all_rows hs] at h
  simp only [flush,hs.open_,Bool.false_eq_true,if_false,if_neg h]

theorem flush_failed (h : s.failed = true) :
    flush storable s = (.error (.other "PendingRollbackError"),s) := by
  rw [flush,if_pos h]

theorem leaves_flush :
    Leaves storable (flush storable : Py (Session κ ρ) Unit) ([],.ok ()) := by
  intro s hs
  by_cases h : s.rows.all storable = true
  · refine .inl ⟨_,flush_ok hs h,⟨hs.open_,h⟩,rfl,?_⟩
    simp [Session.rows]
  · refine .inr ⟨_,_,flush_error hs h,rfl,rfl,?_⟩
    rwa [List.append_nil]

theorem Leaves.bind (hx : Leaves storable x o) (hy : Leaves storable y o') :
    Leaves storable (x >>= fun _ => y) (o.andThen o') := by
  intro s hs
  rcases hx s hs with ⟨t,hxt,ht,hstored,hrows⟩ | ⟨e,t,hxt,hfailed,hstored,hbad⟩
  · cases hend : o.2 with
    | error e =>
      rw [hend] at hxt
      rw [Outcome.andThen_error hend,hend]
      exact .inl ⟨t,Py.bind_error hxt,ht,hstored,hrows⟩
    | ok u =>
      rw [hend] at hxt
      rw [Outcome.andThen_ok hend,Py.bind_ok hxt,← List.append_assoc,← hrows,← hstored]
      exact hy t ht
  · refine .inr ⟨e,t,Py.bind_error hxt,hfailed,hstored,fun hall => hbad ?_⟩
    obtain ⟨more,hmore⟩ := Outcome.andThen_extends o o'
    rw [← hmore,← List.append_assoc,List.all_append,Bool.and_eq_true] at hall
    exact hall.1

theorem Leaves.bind_quiet (hx : Leaves storable x ([],.ok ())) (hy : Leaves storable y o') :
    Leaves storable (x >>= fun _ => y) o' := hx.bind hy

/-- A conditional query before the rest. -/
theorem leaves_flush_if {c : Prop} [Decidable c] {rest : Unit → Py (Session κ ρ) Unit}
    (h : Leaves storable (rest ()) o) :
    Leaves storable (if c then flush storable >>= rest else rest ()) o := by
  by_cases hc : c
  · rw [if_pos hc]
    exact leaves_flush.bind_quiet h
  · rwa [if_neg hc]

theorem leaves_after {y : Except Exc α} {f : α → Py (Session κ ρ) Unit} {g : α → Outcome ρ}
    (h : ∀ a, Leaves storable (f a) (g a)) :
    Leaves storable (Py.ofExcept y >>= f) (Outcome.after y g) := by
  cases y with
  | error e => exact leaves_raise e
  | ok a => exact h a

theorem leaves_ofExcept {y : Except Exc α} {f : α → Py (Session κ ρ) Unit}
    {g : α → Except Exc (Option ρ)} (h : ∀ a, Leaves storable (f a) (Outcome.ofRow (g a))) :
    Leaves storable (Py.ofExcept y >>= f) (Outcome.ofRow (y >>= g)) := by
  have hbind : Outcome.ofRow (y >>= g) = Outcome.after y fun a => Outcome.ofRow (g a) := by
    cases y <;> rfl
  rw [hbind]
  exact leaves_after h

theorem Leaves.each {f : α → Py (Session κ ρ) Unit} {g : α → Outcome ρ}
    (h : ∀ a, Leaves storable (f a) (g a)) (as : List α) :
    Leaves storable (Py.each f as >>= fun _ => pure ()) (gather g as) := by
  induction as with
  | nil => exact leaves_pure
  | cons a as ih =>
    have hsplit : (Py.each f (a :: as) >>= fun _ => pure ()) =
        f a >>= fun _ => Py.each f as >>= fun _ => pure () := by
      rw [Py.each,Py.bind_assoc]
      congr 1
      funext b
      rw [Py.bind_assoc]
      rfl
    rw [hsplit,gather]
    exact (h a).bind ih

theorem commit_ok {write : κ → List ρ → κ} (hs : s.Live storable)
    (h : s.rows.all storable = true) :
    commit storable write s = (.ok (),{ stored := write s.stored s.rows }) := by
  rw [commit,Py.bind_ok (flush_ok hs h)]
  rfl

theorem commit_error {write : κ → List ρ → κ} (hs : s.Live storable)
    (h : ¬s.rows.all storable = true) :
    commit storable write s = (.error (.other "DBAPIError"),{ s with failed := true }) := by
  rw [commit,Py.bind_error (flush_error hs h)]

theorem commit_failed {write : κ → List ρ → κ} (h : s.failed = true) :
    commit storable write s = (.error (.other "PendingRollbackError"),s) := by
  rw [commit,Py.bind_error (flush_failed h)]

/-- `try: x; commit except: commit; raise`, each commit with its own assignments. -/
def attempt (storable : ρ → Bool) (x : Py (Session κ ρ) Unit) (write : κ → List ρ → κ)
    (recover : Exc → κ → List ρ → κ) : Py (Session κ ρ) Unit :=
  Py.tryExcept (x >>= fun _ => commit storable write) fun e =>
    commit storable (recover e) >>= fun _ => Py.raise e

/-- The database after such an attempt: the rows added by then are in it, however the computation
ended, unless one of them cannot be stored. -/
theorem attempt_stored {write : κ → List ρ → κ} {recover : Exc → κ → List ρ → κ}
    (hx : Leaves storable x o) (hs : s.Live storable) (hempty : s.rows = []) :
    (attempt storable x write recover s).2.stored =
      if o.1.all storable = true then
        match o.2 with
        | .ok _ => write s.stored o.1
        | .error e => recover e s.stored o.1
      else s.stored := by
  have hx := hx s hs
  rw [hempty,List.nil_append] at hx
  rcases hx with ⟨t,hxt,ht,hstored,hrows⟩ | ⟨e,t,hxt,hfailed,hstored,hbad⟩
  · rw [← hrows,← hstored]
    by_cases hall : t.rows.all storable = true
    · rw [if_pos hall]
      cases hend : o.2 with
      | ok u =>
        rw [hend] at hxt
        rw [attempt,Py.tryExcept_ok ((Py.bind_ok hxt).trans (commit_ok ht hall))]
      | error e =>
        rw [hend] at hxt
        rw [attempt,Py.tryExcept_error (Py.bind_error hxt),Py.bind_ok (commit_ok ht hall)]
        rfl
    · rw [if_neg hall]
      cases hend : o.2 with
      | ok u =>
        rw [hend] at hxt
        have hfail : ({ t with failed := true } : Session κ ρ).failed = true := rfl
        rw [attempt,Py.tryExcept_error ((Py.bind_ok hxt).trans (commit_error ht hall)),
          Py.bind_error (commit_failed hfail)]
      | error e =>
        rw [hend] at hxt
        rw [attempt,Py.tryExcept_error (Py.bind_error hxt),Py.bind_error (commit_error ht hall)]
  · rw [if_neg hbad,attempt,Py.tryExcept_error (Py.bind_error hxt),
      Py.bind_error (commit_failed hfailed),hstored]

end Leaves

end UnitOfWork
