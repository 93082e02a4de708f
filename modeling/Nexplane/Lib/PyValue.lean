import Mathlib.Data.List.Basic

set_option autoImplicit false

/-! Decoded JSON values as Python holds them. A dictionary keeps insertion order; a write to a
present key keeps its place. -/

namespace PyValue

inductive Json where
  | null
  | bool (b : Bool)
  | int (n : Int)
  | float (text : String)
  | str (s : String)
  | arr (items : List Json)
  | obj (fields : List (String × Json))
  deriving Repr, Inhabited

abbrev Dict := List (String × Json)

instance lawfulBEq_optionText : LawfulBEq (Option String) := inferInstance

/-- `d.get(k)`, with `none` for an absent key. -/
def Dict.get? (d : Dict) (k : String) : Option Json := List.lookup k d

/-- `d.get(k, default)`. -/
def Dict.getD (d : Dict) (k : String) (default : Json) : Json := (d.get? k).getD default

/-- `d[k] = v`. -/
def Dict.set : Dict → String → Json → Dict
  | [], k, v => [(k,v)]
  | (k',v') :: d, k, v => if k' = k then (k,v) :: d else (k',v') :: Dict.set d k v

/-- `{**base, **update}`. -/
def Dict.merge (base update : Dict) : Dict :=
  update.foldl (fun d kv => d.set kv.1 kv.2) base

/-- `d.setdefault(k, v)`. -/
def Dict.setDefault (d : Dict) (k : String) (v : Json) : Dict :=
  match d.get? k with
  | some _ => d
  | none => d.set k v

/-- `d.pop(k, None)` without its return value. -/
def Dict.erase (d : Dict) (k : String) : Dict := d.filter fun kv => kv.1 != k

@[simp] theorem Dict.get?_nil (k : String) : Dict.get? [] k = none := rfl

@[simp] theorem Dict.get?_cons_self (k : String) (v : Json) (d : Dict) :
    Dict.get? ((k,v) :: d) k = some v := by
  simp [Dict.get?,List.lookup_cons_self]

theorem Dict.get?_cons_of_ne {k k' : String} (h : k ≠ k') (v : Json) (d : Dict) :
    Dict.get? ((k',v) :: d) k = Dict.get? d k := by
  have hb : (k == k') = false := by simpa using h
  simp [Dict.get?,List.lookup_cons,hb]

@[simp] theorem Dict.get?_set_self (d : Dict) (k : String) (v : Json) :
    (d.set k v).get? k = some v := by
  induction d with
  | nil => simp [Dict.set]
  | cons kv d ih =>
    obtain ⟨k',v'⟩ := kv
    by_cases h : k' = k
    · simp [Dict.set,h]
    · simp [Dict.set,h,Dict.get?_cons_of_ne (Ne.symm h),ih]

theorem Dict.get?_set_of_ne {k k' : String} (h : k' ≠ k) (d : Dict) (v : Json) :
    (d.set k v).get? k' = d.get? k' := by
  induction d with
  | nil => simp [Dict.set,Dict.get?_cons_of_ne h]
  | cons kv d ih =>
    obtain ⟨j,w⟩ := kv
    by_cases hj : j = k
    · subst hj
      simp [Dict.set,Dict.get?_cons_of_ne h]
    · by_cases hk : k' = j
      · subst hk
        simp [Dict.set,hj]
      · simp [Dict.set,hj,Dict.get?_cons_of_ne hk,ih]

theorem Dict.get?_erase_of_ne {k k' : String} (h : k' ≠ k) (d : Dict) :
    (d.erase k).get? k' = d.get? k' := by
  induction d with
  | nil => rfl
  | cons kv d ih =>
    obtain ⟨j,v⟩ := kv
    have hrest : Dict.get? (Dict.erase ((j,v) :: d) k) k' =
        if j = k then Dict.get? d k' else Dict.get? ((j,v) :: Dict.erase d k) k' := by
      by_cases hj : j = k
      · simpa [Dict.erase,hj] using ih
      · simp [Dict.erase,hj]
    by_cases hj : j = k
    · subst hj
      rw [hrest,if_pos rfl,Dict.get?_cons_of_ne h]
    · rw [hrest,if_neg hj]
      by_cases hk : k' = j
      · subst hk
        simp
      · rw [Dict.get?_cons_of_ne hk,Dict.get?_cons_of_ne hk,ih]

/-- A key of the overriding dictionary wins, any other keeps the base value. -/
theorem Dict.get?_merge_of_none {update : Dict} {k : String} (h : ∀ kv ∈ update, kv.1 ≠ k)
    (base : Dict) : (base.merge update).get? k = base.get? k := by
  induction update generalizing base with
  | nil => rfl
  | cons kv update ih =>
    have hk : k ≠ kv.1 := fun e => h kv List.mem_cons_self e.symm
    have ho : ∀ kv ∈ update, kv.1 ≠ k := fun kv hm => h kv (List.mem_cons_of_mem _ hm)
    have hm := ih ho (base.set kv.1 kv.2)
    simpa only [Dict.merge,List.foldl_cons,Dict.get?_set_of_ne hk] using hm

theorem Dict.get?_merge (fields : Dict) (hnodup : (fields.map Prod.fst).Nodup) (base : Dict)
    (k : String) : (base.merge fields).get? k = (fields.get? k).or (base.get? k) := by
  induction fields generalizing base with
  | nil => simp [Dict.merge,Dict.get?]
  | cons kv fields ih =>
    obtain ⟨k',v⟩ := kv
    obtain ⟨hnot,hrest⟩ := List.nodup_cons.mp hnodup
    have hmerge : base.merge ((k',v) :: fields) = (base.set k' v).merge fields := rfl
    rw [hmerge,ih hrest]
    by_cases hk : k = k'
    · subst hk
      have hnone : Dict.get? fields k = none := List.lookup_eq_none_iff.mpr fun kv hkv => by
        simpa using fun he => hnot (List.mem_map.mpr ⟨kv,hkv,he.symm⟩)
      simp [hnone]
    · rw [Dict.get?_set_of_ne hk,Dict.get?_cons_of_ne hk]

/-- `bool(v)`. -/
def Json.truthy : Json → Bool
  | .null => false
  | .bool b => b
  | .int n => n != 0
  | .float text => text != "0.0" && text != "-0.0"
  | .str s => s != ""
  | .arr items => !items.isEmpty
  | .obj fields => !fields.isEmpty

mutual

/-- `v == w`. Dictionaries compare without their order, and a boolean is the integer 0 or 1. -/
def Json.eq : Json → Json → Bool
  | .null, .null => true
  | .bool a, .bool b => a == b
  | .bool a, .int n => n == if a then 1 else 0
  | .int n, .bool b => n == if b then 1 else 0
  | .int a, .int b => a == b
  | .float a, .float b => a == b
  | .str a, .str b => a == b
  | .arr xs, .arr ys => Json.eqItems xs ys
  | .obj xs, .obj ys => xs.length == ys.length && Json.eqFields xs ys
  | _, _ => false

def Json.eqItems : List Json → List Json → Bool
  | [], [] => true
  | x :: xs, y :: ys => Json.eq x y && Json.eqItems xs ys
  | _, _ => false

def Json.eqFields : List (String × Json) → List (String × Json) → Bool
  | [], _ => true
  | (k,v) :: xs, ys =>
    (match List.lookup k ys with
      | some w => Json.eq v w
      | none => false) && Json.eqFields xs ys

end

/-- `v is True`. -/
def Json.isTrue : Json → Bool
  | .bool true => true
  | _ => false

/-- `v == s` for a string constant `s`. -/
def Json.isStr (s : String) : Json → Bool
  | .str t => t == s
  | _ => false

def Dict.truthy (d : Dict) (k : String) : Bool := (d.getD k .null).truthy

/-- The exceptions of the modelled code: the ones it raises itself and the ones of the
interpreter, whose own texts are left out. -/
inductive Exc where
  | keyError (key : String)
  | typeError
  | attributeError
  | valueError (message : String)
  | runtimeError (message : String)
  | importError (message : String)
  | connectorError (message : String)
  | http (status : Nat) (detail : String)
  | other (message : String)
  deriving DecidableEq, Repr

/-- `str(exc)`. -/
def Exc.str : Exc → String
  | .keyError key => "'" ++ key ++ "'"
  | .typeError => "TypeError"
  | .attributeError => "AttributeError"
  | .valueError message => message
  | .runtimeError message => message
  | .importError message => message
  | .connectorError message => message
  | .http status detail => toString status ++ ": " ++ detail
  | .other message => message

/-- `key in text`. -/
def hasText (key text : String) : Bool := text.toList.tails.any key.toList.isPrefixOf

/-- `a or b`. -/
def Json.orElse (a b : Json) : Json := if a.truthy then a else b

/-- `isinstance(v, dict)`. -/
def Json.isDict : Json → Bool
  | .obj _ => true
  | _ => false

/-- `v.get(k, default)`. -/
def Json.get (v : Json) (k : String) (default : Json) : Except Exc Json :=
  match v with
  | .obj d => .ok (Dict.getD d k default)
  | _ => .error .attributeError

/-- `v[k]`. -/
def Json.index (v : Json) (k : String) : Except Exc Json :=
  match v with
  | .obj d => (Dict.get? d k).elim (.error (.keyError k)) .ok
  | _ => .error .typeError

/-- `v[k] = x`. -/
def Json.put (v : Json) (k : String) (x : Json) : Except Exc Json :=
  match v with
  | .obj d => .ok (.obj (Dict.set d k x))
  | _ => .error .typeError

/-- `{**v}`. -/
def Json.mapping : Json → Except Exc Dict
  | .obj d => .ok d
  | _ => .error .typeError

/-- The values of `for x in v`. -/
def Json.iter : Json → Except Exc (List Json)
  | .arr items => .ok items
  | .obj d => .ok (d.map fun kv => .str kv.1)
  | .str s => .ok (s.toList.map fun c => .str c.toString)
  | _ => .error .typeError

/-- The items of a value that is concatenated with a list. -/
def Json.list : Json → Except Exc (List Json)
  | .arr items => .ok items
  | _ => .error .typeError

/-- `k in v`. -/
def Json.contains (k : String) : Json → Except Exc Bool
  | .obj d => .ok (Dict.get? d k).isSome
  | .arr items => .ok (items.any (Json.isStr k))
  | .str s => .ok (hasText k s)
  | _ => .error .typeError

/-- `isinstance(v, dict) and v.get(k)`, read as a condition. -/
def Json.flag (v : Json) (k : String) : Bool :=
  match v with
  | .obj d => Dict.truthy d k
  | _ => false

def Json.strings : Json → List String
  | .arr items => items.filterMap fun
    | .str s => some s
    | _ => none
  | _ => []

/-- The text of a value that is text, the empty text for any other. -/
def Json.textOf : Json → String
  | .str s => s
  | _ => ""

@[simp] theorem Json.get_obj (d : Dict) (k : String) (default : Json) :
    (Json.obj d).get k default = .ok (Dict.getD d k default) := rfl

@[simp] theorem Json.mapping_obj (d : Dict) : (Json.obj d).mapping = .ok d := rfl

@[simp] theorem Json.iter_arr (items : List Json) : (Json.arr items).iter = .ok items := rfl

end PyValue
