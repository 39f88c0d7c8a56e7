import Mathlib.Data.Rat.Defs

/- Python objects as the RESP2/RESP3 decoder hands them to the response callbacks, and as
   the callbacks return them, by value. A float is kept by its exact value; the builtins only
   produce binary64 values (`Coredis.Python.Float`), and -0.0 is 0.0. A datetime is kept as
   the instant it denotes, in microseconds since the epoch. Sets and dicts keep their elements
   in insertion order; which of them are equal is decided by hash keys, as Python decides it. -/
namespace Coredis

inductive PyFloat where
  | finite (q : ℚ)
  | inf
  | negInf
  | nan
  deriving DecidableEq, Repr

inductive PyVal where
  | none
  | bool (b : Bool)
  | int (n : Int)
  | float (f : PyFloat)
  | bytes (b : List UInt8)
  | str (s : String)
  | list (xs : List PyVal)
  | tuple (xs : List PyVal)
  | set (xs : List PyVal)
  | dict (ps : List (PyVal × PyVal))
  | datetime (us : Int)
  deriving Repr, Inhabited

/-- Python exceptions by class; `raised cls arg` is `cls(arg)` for a class a caller configured. -/
inductive PyExc where
  | typeError
  | valueError
  | overflowError
  | osError
  | raised (cls : String) (arg : PyVal)
  deriving Repr

mutual
/-- What `hash` and `==` see of a hashable object: `True`, `1` and `1.0` are one key. NaN
    objects, which Python tells apart by identity, are one key here. -/
inductive Key where
  | none
  | num (q : ℚ)
  | inf
  | negInf
  | nan
  | bytes (b : List UInt8)
  | str (s : String)
  | datetime (us : Int)
  | tuple (ks : Keys)

inductive Keys where
  | nil
  | cons (k : Key) (ks : Keys)
end

deriving instance DecidableEq for Key

section
variable {ε α β : Type} (e : ε) (a : α) (g : α → Except ε β)

@[simp] theorem except_pure : (pure a : Except ε α) = .ok a := rfl

@[simp] theorem except_throw : (throw e : Except ε α) = .error e := rfl

@[simp] theorem except_ok_bind : (Except.ok a : Except ε α) >>= g = g a := rfl

@[simp] theorem except_error_bind : (Except.error e : Except ε α) >>= g = .error e := rfl

theorem except_bind_eq_ok {x : Except ε α} {b : β} :
    x >>= g = .ok b ↔ ∃ a, x = .ok a ∧ g a = .ok b := by
  cases x <;> simp

end

namespace PyVal

/-- `bool(x)`. A datetime is always true. -/
def truthy : PyVal → Bool
  | none => false
  | bool b => b
  | int n => n != 0
  | float f => f != .finite 0
  | bytes b => !b.isEmpty
  | str s => !s.isEmpty
  | list xs | tuple xs | set xs => !xs.isEmpty
  | dict ps => !ps.isEmpty
  | datetime _ => true

@[simp] theorem truthy_none : none.truthy = false := rfl
@[simp] theorem truthy_bool (b : Bool) : (bool b).truthy = b := rfl
@[simp] theorem truthy_bytes (b : List UInt8) : (bytes b).truthy = !b.isEmpty := rfl
@[simp] theorem truthy_str (s : String) : (str s).truthy = !s.isEmpty := rfl
@[simp] theorem truthy_list (xs : List PyVal) : (list xs).truthy = !xs.isEmpty := rfl
@[simp] theorem truthy_set (xs : List PyVal) : (set xs).truthy = !xs.isEmpty := rfl

def IsScalar : PyVal → Prop
  | none | bool _ | int _ | float _ | bytes _ | str _ => True
  | _ => False

def isFloat : PyVal → Bool
  | float _ => true
  | _ => false

/-- `isinstance(x, int)`, which `bool` passes as a subclass of `int`. -/
def isInt : PyVal → Bool
  | int _ | bool _ => true
  | _ => false

def isBool : PyVal → Bool
  | bool _ => true
  | _ => false

def isList : PyVal → Bool
  | list _ => true
  | _ => false

def isSet : PyVal → Bool
  | set _ => true
  | _ => false

def isDict : PyVal → Bool
  | dict _ => true
  | _ => false

def iter : PyVal → Except PyExc (List PyVal)
  | list xs | tuple xs | set xs => .ok xs
  | dict ps => .ok (ps.map Prod.fst)
  | bytes b => .ok (b.map fun c => int c.toNat)
  | str s => .ok (s.toList.map fun c => str (String.singleton c))
  | _ => .error .typeError

mutual
def key? : PyVal → Option Key
  | none => some .none
  | bool b => some (.num (if b then 1 else 0))
  | int n => some (.num n)
  | float (.finite q) => some (.num q)
  | float .inf => some .inf
  | float .negInf => some .negInf
  | float .nan => some .nan
  | bytes b => some (.bytes b)
  | str s => some (.str s)
  | datetime us => some (.datetime us)
  | tuple xs => (keys? xs).map .tuple
  | list _ | set _ | dict _ => Option.none

def keys? : List PyVal → Option Keys
  | [] => some .nil
  | x :: xs => do
    let k ← key? x
    let ks ← keys? xs
    pure (.cons k ks)
end

end PyVal

def keysOf (xs : List PyVal) : List Key := xs.filterMap PyVal.key?

@[simp] theorem keysOf_nil : keysOf [] = [] := rfl

@[simp] theorem keysOf_append (xs ys : List PyVal) :
    keysOf (xs ++ ys) = keysOf xs ++ keysOf ys := List.filterMap_append _ _ _

@[simp] theorem keysOf_cons_of_key {x : PyVal} {k : Key} (xs : List PyVal)
    (h : x.key? = some k) : keysOf (x :: xs) = k :: keysOf xs := by
  simp [keysOf, h]

theorem mem_keysOf {xs : List PyVal} {k : Key} : k ∈ keysOf xs ↔ ∃ x ∈ xs, x.key? = some k :=
  List.mem_filterMap

end Coredis
