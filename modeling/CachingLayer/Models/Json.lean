import Mathlib

/-!
# Python values

JSON values as `orjson.loads` returns them, the exceptions the modelled code can
raise, and the two packages the code calls for (de)serialisation:

* `Orjson`: `loads` and `dumps`, on bytes;
* `Pydantic`: the one coercion the models need that is not the identity on the
  value's own type, to `int` in lax mode.
-/

namespace CachingLayer

/-- A Python float: finite values are exact rationals (every double is one). -/
inductive PyFloat
  | finite (x : ℚ)
  | negZero
  | inf (negative : Bool)
  | nan
deriving DecidableEq

inductive PyError
  | attributeError
  | typeError
  | valueError
  | validationError
  /-- An exception raised by the embedding service or an upstream provider. -/
  | external (message : String)
deriving DecidableEq

inductive Json
  | null
  | bool (b : Bool)
  | int (i : Int)
  | float (x : PyFloat)
  | str (s : String)
  | arr (xs : List Json)
  | obj (kvs : List (String × Json))

/-- `dict[str, Any]` with its keys in order. -/
abbrev Dict := List (String × Json)

/-- `d.get(key, default)`. -/
def Dict.get (d : Dict) (key : String) (default : Json) : Json := (d.lookup key).getD default

/-- A key kept by a filter on keys is still found. -/
theorem Dict.lookup_filter (d : Dict) (keys : List String) (key : String) (h : key ∈ keys) :
    (d.filter fun kv => kv.1 ∈ keys).lookup key = d.lookup key := by
  induction d with
  | nil => rfl
  | cons kv d ih =>
    obtain ⟨k, v⟩ := kv
    by_cases hk : key = k
    · subst hk
      rw [List.filter_cons_of_pos (by simpa using h), List.lookup_cons_self, List.lookup_cons_self]
    · have hne : (key == k) = false := beq_eq_false_iff_ne.mpr hk
      rw [List.lookup_cons, hne, List.filter_cons]
      split
      · rw [List.lookup_cons, hne]; exact ih
      · exact ih

/-- `d[key] = value`. -/
def Dict.set (d : Dict) (key : String) (value : Json) : Dict :=
  if d.any (·.1 == key) then d.map fun kv => if kv.1 = key then (key, value) else kv
  else d ++ [(key, value)]

/-- The other keys are read as before. -/
theorem Dict.lookup_set_of_ne (d : Dict) (key name : String) (value : Json) (h : name ≠ key) :
    (d.set key value).lookup name = d.lookup name := by
  have hne : (name == key) = false := beq_eq_false_iff_ne.mpr h
  unfold set
  split
  · clear * - hne
    induction d with
    | nil => rfl
    | cons kv d ih =>
      rw [List.map_cons, List.lookup_cons, List.lookup_cons, ih]
      by_cases hk : kv.1 = key
      · rw [if_pos hk, hk, hne]
      · rw [if_neg hk]
  · rw [List.lookup_append, List.lookup_cons, hne, List.lookup_nil, Option.or_none]

namespace Json

def isNone : Json → Bool
  | null => true
  | _ => false

/-- `bool(x)`. -/
def truthy : Json → Bool
  | null => false
  | bool b => b
  | int i => i != 0
  | float x => x != .finite 0 && x != .negZero
  | str s => s != ""
  | arr xs => !xs.isEmpty
  | obj kvs => !kvs.isEmpty

/-- `x.get`, `x.items`: only a dict has them. -/
def asDict : Json → Except PyError Dict
  | obj kvs => .ok kvs
  | _ => .error .attributeError

/-- `for y in x`: a list's elements, a dict's keys, a string's characters. -/
def iter : Json → Except PyError (List Json)
  | arr xs => .ok xs
  | obj kvs => .ok (kvs.map fun kv => .str kv.1)
  | str s => .ok (s.toList.map fun c => .str (String.singleton c))
  | _ => .error .typeError

/-- `None` or a value. -/
def opt {α : Type} (f : α → Json) : Option α → Json
  | none => .null
  | some a => f a

end Json

structure Orjson where
  loads : List UInt8 → Option Json
  dumps : Json → List UInt8

/-- Lax-mode validation of an `int` field.  What becomes of strings, floats and
booleans is the package's business. -/
structure Pydantic where
  int : Json → Option Int
  int_int : ∀ i, int (.int i) = some i
  int_null : int .null = none

/-- A coercion that takes integers only. -/
def Pydantic.strict : Pydantic where
  int
    | .int i => some i
    | _ => none
  int_int _ := rfl
  int_null := rfl

/-! ## Fields of a model -/

/-- A field's value: validated when given, else its default. -/
def field {α : Type} (d : Dict) (name : String) (default : Option α)
    (validate : Json → Except PyError α) : Except PyError α :=
  match d.lookup name, default with
  | some v, _ => validate v
  | none, some a => .ok a
  | none, none => .error .validationError

def validateStr : Json → Except PyError String
  | .str s => .ok s
  | _ => .error .validationError

/-- `T | None`. -/
def validateOpt {α : Type} (validate : Json → Except PyError α) : Json → Except PyError (Option α)
  | .null => .ok none
  | j => some <$> validate j

def validateInt (pyd : Pydantic) (j : Json) : Except PyError Int :=
  match pyd.int j with
  | some i => .ok i
  | none => .error .validationError

/-- A nested model or a dict. -/
def validateDict {α : Type} (validate : Dict → Except PyError α) : Json → Except PyError α
  | .obj d => validate d
  | _ => .error .validationError

def validateList {α : Type} (validate : Json → Except PyError α) : Json → Except PyError (List α)
  | .arr xs => xs.mapM validate
  | _ => .error .validationError

theorem validateInt_int (pyd : Pydantic) (i : Int) : validateInt pyd (.int i) = .ok i := by
  unfold validateInt; rw [pyd.int_int]

/-- What a list of values was written from is read back, one by one. -/
theorem mapM_map_ok {α β ε : Type} (f : α → β) (g : β → Except ε α) (h : ∀ a, g (f a) = .ok a)
    (l : List α) : (l.map f).mapM g = .ok l := by
  induction l with
  | nil => rfl
  | cons a l ih => rw [List.map_cons, List.mapM_cons, h, ih]; rfl

/-- Fields beside the declared ones (`extra="allow"`). -/
structure Extra (declared : List String) where
  kvs : Dict
  undeclared : ∀ kv ∈ kvs, kv.1 ∉ declared

namespace Extra

def none (declared : List String) : Extra declared := ⟨[], by simp⟩

instance (declared : List String) : Inhabited (Extra declared) := ⟨none declared⟩

/-- The entries of a dict that no declared field takes. -/
def of (declared : List String) (d : Dict) : Extra declared where
  kvs := d.filter fun kv => kv.1 ∉ declared
  undeclared := fun kv h => by simpa using (List.mem_filter.mp h).2

theorem of_append (declared : List String) (fields : Dict) (x : Extra declared)
    (h : ∀ kv ∈ fields, kv.1 ∈ declared) : of declared (fields ++ x.kvs) = x := by
  have h1 : fields.filter (fun kv => kv.1 ∉ declared) = [] := by
    rw [List.filter_eq_nil_iff]
    intro kv hkv
    simpa using h kv hkv
  have h2 : x.kvs.filter (fun kv => kv.1 ∉ declared) = x.kvs := by
    rw [List.filter_eq_self]
    intro kv hkv
    simpa using x.undeclared kv hkv
  cases x with
  | mk kvs hk =>
    unfold of
    congr 1
    rw [List.filter_append, h1, h2, List.nil_append]

end Extra

end CachingLayer
