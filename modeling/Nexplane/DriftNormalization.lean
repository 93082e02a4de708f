import Nexplane.DriftAnchors
import Nexplane.Lib.JsonReorder

set_option autoImplicit false

/-! The normal form of an observed state, and the difference of two states in it. -/

namespace Nexplane
open PyValue PyValue.Json

structure StateDiff where
  added : Dict
  removed : Dict
  changed : List (String × Json × Json)

/-- `compute_diff`, with `none` for the empty difference. -/
def computeStateDiff (baseline observed : Dict) : Option StateDiff :=
  let diff : StateDiff :=
    { added := observed.filter fun kv => (baseline.lookup kv.1).isNone
      removed := baseline.filter fun kv => (observed.lookup kv.1).isNone
      changed := baseline.filterMap fun kv =>
        match observed.lookup kv.1 with
        | some v => if kv.2.same v then none else some (kv.1,kv.2,v)
        | none => none }
  if diff.added.isEmpty && diff.removed.isEmpty && diff.changed.isEmpty then none else some diff

section Text

variable (printable : Char → Bool)

def hexDigits (width n : Nat) : List Char :=
  let digits := Nat.toDigits 16 n
  List.replicate (width - digits.length) '0' ++ digits

def reprChar (quote c : Char) : List Char :=
  let n := c.toNat
  if c = quote || n = 92 then [Char.ofNat 92,c]
  else if n = 9 then [Char.ofNat 92,'t']
  else if n = 10 then [Char.ofNat 92,'n']
  else if n = 13 then [Char.ofNat 92,'r']
  else if 32 ≤ n && n < 127 || 127 < n && printable c then [c]
  else if n < 0x100 then [Char.ofNat 92,'x'] ++ hexDigits 2 n
  else if n < 0x10000 then [Char.ofNat 92,'u'] ++ hexDigits 4 n
  else [Char.ofNat 92,'U'] ++ hexDigits 8 n

/-- `repr(s)`: in double quotes if there are only single ones in it. -/
def reprText (s : List Char) : List Char :=
  let quote := if s.contains (Char.ofNat 39) && !s.contains (Char.ofNat 34) then Char.ofNat 34
    else Char.ofNat 39
  quote :: (s.flatMap (reprChar printable quote) ++ [quote])

def joined : List (List Char) → List Char
  | [] => []
  | [text] => text
  | text :: texts => text ++ [',',' '] ++ joined texts

mutual

def reprJson : Json → List Char
  | .null => "None".toList
  | .bool b => if b then "True".toList else "False".toList
  | .int n => (toString n).toList
  | .float text => text.toList
  | .str s => reprText printable s.toList
  | .arr items => ['['] ++ joined (reprItems items) ++ [']']
  | .obj fields => [Char.ofNat 123] ++ joined (reprFields fields) ++ [Char.ofNat 125]

def reprItems : List Json → List (List Char)
  | [] => []
  | v :: vs => reprJson v :: reprItems vs

def reprFields : Dict → List (List Char)
  | [] => []
  | (k,v) :: fields =>
    (reprText printable k.toList ++ [':',' '] ++ reprJson v) :: reprFields fields

end

/-- `str(v)`. -/
def pyStr : Json → String
  | .str s => s
  | v => String.ofList (reprJson printable v)

example : pyStr (fun _ => true) (.arr [.int 22,.str "22",.null]) = "[22, '22', None]" := by decide

end Text

/-- A state as an observation returns it. -/
structure SurfaceState where
  fields : Dict
  distinct : (Json.obj fields).Distinct

/-- Every list that is reached through keys alone is orderable. -/
inductive Settled (str : Json → String) : Json → Prop where
  | null : Settled str .null
  | bool (b : Bool) : Settled str (.bool b)
  | int (n : Int) : Settled str (.int n)
  | float (text : String) : Settled str (.float text)
  | str (s : String) : Settled str (.str s)
  | arr {items : List Json} (h : Orderable str items) : Settled str (.arr items)
  | obj {fields : Dict} (h : ∀ kv ∈ fields, Settled str kv.2) : Settled str (.obj fields)

section Normal

variable {env : DriftEnv} {v v' : Json} {fields fields' : Dict}

theorem normalizeFields_eq (env : DriftEnv) (fields : Dict) :
    normalizeFields env fields = fields.map fun kv => (kv.1,normalizeJson env kv.2) := by
  induction fields with
  | nil => rfl
  | cons kv fields ih => rw [normalizeFields,ih,List.map_cons]

theorem normalizeJson_arr (env : DriftEnv) (items : List Json) :
    normalizeJson env (.arr items) = .arr (sortTexts env.str items) := by
  rw [normalizeJson]
  rfl

theorem normalizeJson_obj (env : DriftEnv) (fields : Dict) :
    normalizeJson env (.obj fields) = .obj (normalizeDict env fields) := by
  rw [normalizeJson]
  rfl

theorem normalizeDict_eq (env : DriftEnv) (fields : Dict) :
    normalizeDict env fields = sortFields (fields.map fun kv => (kv.1,normalizeJson env kv.2)) := by
  rw [normalizeDict,normalizeFields_eq]
  rfl

theorem normalizeDict_keys (env : DriftEnv) (fields : Dict) :
    ((normalizeDict env fields).map Prod.fst).Perm (fields.map Prod.fst) := by
  rw [normalizeDict_eq]
  refine ((sortFields_perm _).map _).trans (.of_eq ?_)
  rw [List.map_map]
  rfl

theorem distinct_normalizeJson (env : DriftEnv) (hv : v.Distinct) :
    (normalizeJson env v).Distinct := by
  induction hv with
  | null => exact .null
  | bool b => exact .bool b
  | int n => exact .int n
  | float text => exact .float text
  | str s => exact .str s
  | @arr items h ih =>
    rw [normalizeJson_arr]
    exact .arr fun v hv => h v ((sortTexts_perm _ _).subset hv)
  | @obj fields hk h ih =>
    rw [normalizeJson_obj]
    refine .obj ((normalizeDict_keys env fields).nodup_iff.mpr hk) fun kv hkv => ?_
    rw [normalizeDict_eq] at hkv
    obtain ⟨x,hx,rfl⟩ := List.mem_map.mp ((sortFields_perm _).subset hkv)
    exact ih x hx

theorem sortFields_idem (fields : Dict) : sortFields (sortFields fields) = sortFields fields :=
  (sortFields_pairwise fields).insertionSort_eq

theorem normalizeJson_idem (env : DriftEnv) (hv : v.Distinct) :
    normalizeJson env (normalizeJson env v) = normalizeJson env v := by
  induction hv with
  | @arr items h ih =>
    rw [normalizeJson_arr,normalizeJson_arr,sortTexts_idem]
  | @obj fields hk h ih =>
    rw [normalizeJson_obj,normalizeJson_obj,normalizeDict_eq env (normalizeDict env fields)]
    have hfixed : (normalizeDict env fields).map (fun kv => (kv.1,normalizeJson env kv.2)) =
        (normalizeDict env fields).map id := by
      refine List.map_congr_left fun kv hkv => ?_
      rw [normalizeDict_eq] at hkv
      obtain ⟨x,hx,rfl⟩ := List.mem_map.mp ((sortFields_perm _).subset hkv)
      exact Prod.ext rfl (ih x hx)
    rw [hfixed,List.map_id,normalizeDict_eq,sortFields_idem]
  | _ => rfl

theorem normalizeDict_idem (hd : (Json.obj fields).Distinct) :
    normalizeDict env (normalizeDict env fields) = normalizeDict env fields := by
  have h := normalizeJson_idem env hd
  rw [normalizeJson_obj,normalizeJson_obj] at h
  exact Json.obj.inj h

end Normal

section Equal

variable {env : DriftEnv} {v v' : Json} {fields fields' : Dict}

theorem canon_obj_eq_iff (hk : (fields.map Prod.fst).Nodup) :
    canon (.obj fields) = canon (.obj fields') ↔
      (canonFields fields).Perm (canonFields fields') := by
  rw [canon,canon,obj.injEq,sortFields_eq_iff (by rwa [canonFields_keys])]

/-- The canonical fields of a normal form, up to their order. -/
theorem canonFields_normalize (env : DriftEnv) (fields : Dict) :
    (canonFields (normalizeDict env fields)).Perm
      (fields.map fun kv => (kv.1,canon (normalizeJson env kv.2))) := by
  rw [normalizeDict_eq,canonFields_eq]
  refine ((sortFields_perm _).map _).trans (.of_eq ?_)
  rw [List.map_map]
  rfl

theorem normalize_obj_iff (hk : (fields.map Prod.fst).Nodup) :
    canon (normalizeJson env (.obj fields)) = canon (normalizeJson env (.obj fields')) ↔
      (fields.map fun kv => (kv.1,canon (normalizeJson env kv.2))).Perm
        (fields'.map fun kv => (kv.1,canon (normalizeJson env kv.2))) := by
  rw [normalizeJson_obj,normalizeJson_obj,
    canon_obj_eq_iff ((normalizeDict_keys env fields).nodup_iff.mpr hk)]
  constructor
  · intro h
    exact (canonFields_normalize env fields).symm.trans
      (h.trans (canonFields_normalize env fields'))
  · intro h
    exact (canonFields_normalize env fields).trans
      (h.trans (canonFields_normalize env fields').symm)

/-- The normal forms of the reorderings of a settled value are equal. -/
theorem Settled.canon_eq (hs : Settled env.str v) (hd : v.Distinct) (hr : Reorders v v') :
    canon (normalizeJson env v) = canon (normalizeJson env v') := by
  induction hr with
  | arr pairs h hl hr ih =>
    cases hs with
    | arr ho =>
      rw [normalizeJson_arr,normalizeJson_arr,canon,canon,canonItems_eq,canonItems_eq]
      exact congrArg Json.arr (ho.sorted hd (.arr pairs h hl hr))
  | obj pairs h hl hr ih =>
    subst hl
    cases hs with
    | obj hsettled =>
      cases hd with
      | obj hk hfields =>
        rw [normalize_obj_iff hk]
        refine List.Perm.trans (.of_eq ?_) (hr.map _).symm
        rw [List.map_map,List.map_map]
        refine List.map_congr_left fun p hp => Prod.ext rfl ?_
        have hmem : (p.1,p.2.1) ∈ pairs.map fun p => (p.1,p.2.1) := List.mem_map.mpr ⟨p,hp,rfl⟩
        exact ih p hp (hsettled _ hmem) (hfields _ hmem)
  | _ => rfl

/-- A value is settled if the normal forms of its reorderings are equal. -/
theorem settled_of_canon_eq (hd : v.Distinct)
    (h : ∀ v', Reorders v v' → canon (normalizeJson env v) = canon (normalizeJson env v')) :
    Settled env.str v := by
  induction hd with
  | null => exact .null
  | bool b => exact .bool b
  | int n => exact .int n
  | float text => exact .float text
  | str s => exact .str s
  | @arr items hitems ih =>
    refine .arr (orderable_of_sorted (.arr hitems) fun items' hr => ?_)
    have hsame := h _ hr
    rw [normalizeJson_arr,normalizeJson_arr,canon,canon,canonItems_eq,canonItems_eq] at hsame
    exact Json.arr.inj hsame
  | @obj fields hk hfields ih =>
    refine .obj fun kv hkv => ih kv hkv fun v' hr => ?_
    obtain ⟨before,after,rfl⟩ := List.append_of_mem hkv
    have hmember := h _ (.member (.obj hk hfields) List.perm_middle hr)
    rw [normalize_obj_iff hk] at hmember
    have hmiddle : (before ++ kv :: after).Perm (kv :: (before ++ after)) := List.perm_middle
    have hsplit := hmiddle.map fun kv => (kv.1,canon (normalizeJson env kv.2))
    exact congrArg Prod.snd (perm_heads (hsplit.symm.trans hmember))

/-- Every key of `fields` is one of `fields'`, too. -/
def KeysWithin (fields fields' : Dict) : Prop := ∀ kv ∈ fields, (fields'.lookup kv.1).isNone = false

theorem keysWithin_iff (hk : (fields'.map Prod.fst).Nodup) :
    KeysWithin fields fields' ↔ fields.map Prod.fst ⊆ fields'.map Prod.fst := by
  constructor
  · intro h k hmem
    obtain ⟨kv,hkv,rfl⟩ := List.mem_map.mp hmem
    obtain ⟨v,hv⟩ := Option.isSome_iff_exists.mp (Option.isNone_eq_false_iff.mp (h kv hkv))
    exact List.mem_map.mpr ⟨_,Lists.mem_of_lookup hv,rfl⟩
  · intro h kv hkv
    obtain ⟨x,hx,hkey⟩ := List.mem_map.mp (h (List.mem_map.mpr ⟨kv,hkv,rfl⟩))
    rw [← hkey,(Lists.lookup_eq_some_iff hk).mpr hx]
    rfl

theorem computeStateDiff_eq_none :
    computeStateDiff fields fields' = none ↔
      KeysWithin fields' fields ∧ KeysWithin fields fields' ∧
        ∀ kv ∈ fields, ∀ v, fields'.lookup kv.1 = some v → kv.2.same v = true := by
  have hchanged : ∀ kv : String × Json,
      (match fields'.lookup kv.1 with
        | some v => if kv.2.same v then none else some (kv.1,kv.2,v)
        | none => none) = none ↔ ∀ v, fields'.lookup kv.1 = some v → kv.2.same v = true := by
    intro kv
    cases fields'.lookup kv.1 <;> simp
  unfold computeStateDiff KeysWithin
  simp only [ite_eq_left_iff,reduceCtorEq,imp_false,not_not,Bool.and_eq_true,List.isEmpty_iff,
    List.filter_eq_nil_iff,List.filterMap_eq_nil_iff,Bool.not_eq_true,hchanged,and_assoc]

/-- The difference of two dictionaries is empty if they are equal. -/
theorem computeStateDiff_none (hk : (fields.map Prod.fst).Nodup)
    (hk' : (fields'.map Prod.fst).Nodup) :
    computeStateDiff fields fields' = none ↔ (Json.obj fields).same (.obj fields') = true := by
  rw [computeStateDiff_eq_none,keysWithin_iff hk,keysWithin_iff hk',same,Bool.and_eq_true,
    beq_iff_eq,sameFields_iff]
  constructor
  · rintro ⟨hadded,hremoved,hchanged⟩
    have hlength : (fields.map Prod.fst).length = (fields'.map Prod.fst).length :=
      le_antisymm (List.subperm_of_subset hk hremoved).length_le
        (List.subperm_of_subset hk' hadded).length_le
    refine ⟨by simpa using hlength,fun kv hkv => ?_⟩
    obtain ⟨x,hx,hkey⟩ := List.mem_map.mp (hremoved (List.mem_map.mpr ⟨kv,hkv,rfl⟩))
    have hlookup : fields'.lookup kv.1 = some x.2 := by
      rw [← hkey]
      exact (Lists.lookup_eq_some_iff hk').mpr hx
    exact ⟨x.2,hlookup,hchanged kv hkv _ hlookup⟩
  · rintro ⟨hlength,hall⟩
    have hremoved : fields.map Prod.fst ⊆ fields'.map Prod.fst := by
      intro k hmem
      obtain ⟨kv,hkv,rfl⟩ := List.mem_map.mp hmem
      obtain ⟨v,hv,_⟩ := hall kv hkv
      exact List.mem_map.mpr ⟨_,Lists.mem_of_lookup hv,rfl⟩
    have hperm := (List.subperm_of_subset hk hremoved).perm_of_length_le (by simp [hlength])
    refine ⟨hperm.symm.subset,hremoved,fun kv hkv v hv => ?_⟩
    obtain ⟨w,hw,hsame⟩ := hall kv hkv
    rw [hv] at hw
    obtain rfl := Option.some.inj hw
    exact hsame

theorem normalizeDict_distinct (env : DriftEnv) (hd : (Json.obj fields).Distinct) :
    (Json.obj (normalizeDict env fields)).Distinct := by
  have h := distinct_normalizeJson env hd
  rwa [normalizeJson_obj] at h

theorem diff_none_iff (hd : (Json.obj fields).Distinct) (hd' : (Json.obj fields').Distinct) :
    computeStateDiff (normalizeDict env fields) (normalizeDict env fields') = none ↔
      canon (normalizeJson env (.obj fields)) = canon (normalizeJson env (.obj fields')) := by
  have hnormal := normalizeDict_distinct env hd
  have hnormal' := normalizeDict_distinct env hd'
  have hkeys : ∀ {d : Dict}, (Json.obj d).Distinct → (d.map Prod.fst).Nodup := by
    intro d h
    cases h with
    | obj hk _ => exact hk
  rw [computeStateDiff_none (hkeys hnormal) (hkeys hnormal'),same_iff hnormal hnormal',
    normalizeJson_obj,normalizeJson_obj]

end Equal

/-- A state never differs from its reorderings once normalised if and only if it is settled, and a
second normalisation changes nothing. -/
theorem no_false_drift_iff (env : DriftEnv) (raw : SurfaceState) :
    ((∀ other : SurfaceState, Reorders (.obj raw.fields) (.obj other.fields) →
        computeStateDiff (normalizeDict env raw.fields) (normalizeDict env other.fields) = none) ↔
      Settled env.str (.obj raw.fields)) ∧
    normalizeDict env (normalizeDict env raw.fields) = normalizeDict env raw.fields := by
  refine ⟨⟨fun h => settled_of_canon_eq raw.distinct fun v' hr => ?_,fun hs other hr => ?_⟩,
    normalizeDict_idem raw.distinct⟩
  · cases hr with
    | @obj _ fields' pairs hpairs hl hp =>
      have hreorder : Reorders (.obj raw.fields) (.obj fields') := .obj pairs hpairs hl hp
      have hd := raw.distinct.reorders hreorder
      exact (diff_none_iff raw.distinct hd).mp (h ⟨fields',hd⟩ hreorder)
  · exact (diff_none_iff raw.distinct other.distinct).mpr (hs.canon_eq raw.distinct hr)

/-- The rules of a security group with one rule, for these address ranges. -/
def ruleState (ranges : List Json) : Dict :=
  [("ingress",.arr [.obj [("FromPort",.int 22),("IpRanges",.arr ranges)]])]

def officeRanges : List Json :=
  [.obj [("CidrIp",.str "10.0.0.0/8")],.obj [("CidrIp",.str "192.168.0.0/16")]]

theorem range_distinct (cidr : String) : (Json.obj [("CidrIp",.str cidr)]).Distinct :=
  .obj (by simp) (by simpa using .str cidr)

theorem ranges_distinct : (Json.arr officeRanges).Distinct :=
  .arr (by simpa [officeRanges] using ⟨range_distinct _,range_distinct _⟩)

theorem ruleState_reorders {ranges : List Json}
    (h : Reorders (.arr officeRanges) (.arr ranges)) :
    Reorders (.obj (ruleState officeRanges)) (.obj (ruleState ranges)) := by
  refine .ofFields .rfl (.cons ⟨rfl,.ofItems .rfl (.cons (.ofFields .rfl ?_) .nil)⟩ .nil)
  exact .cons ⟨rfl,.int 22⟩ (.cons ⟨rfl,h⟩ .nil)

def ruleSurface (ranges : List Json) (h : (Json.arr ranges).Distinct) : SurfaceState where
  fields := ruleState ranges
  distinct := by
    refine .obj (by simp [ruleState]) ?_
    have hrule : (Json.obj [("FromPort",.int 22),("IpRanges",.arr ranges)]).Distinct :=
      .obj (by simp) (by simpa using ⟨.int 22,h⟩)
    simpa [ruleState] using Distinct.arr (by simpa using hrule)

def textEnv : DriftEnv where
  dispatchAgentJob := fun _ _ _ => .ok []
  driftSurfaces := fun _ => []
  str := pyStr fun _ => true
  now := fun n => n
  newUuid := fun n => toString n

/-- The same two address ranges in another order are reported as drift. -/
theorem reordered_ranges_differ :
    ∃ raw other : SurfaceState, Reorders (.obj raw.fields) (.obj other.fields) ∧
      computeStateDiff (normalizeDict textEnv raw.fields) (normalizeDict textEnv other.fields) ≠
        none := by
  have hswap : Reorders (.arr officeRanges) (.arr officeRanges.reverse) :=
    .perm ranges_distinct (List.reverse_perm _).symm
  refine ⟨ruleSurface officeRanges ranges_distinct,
    ruleSurface officeRanges.reverse (ranges_distinct.reorders hswap),ruleState_reorders hswap,?_⟩
  change computeStateDiff (ruleState officeRanges) (ruleState officeRanges.reverse) ≠ none
  decide

end Nexplane
