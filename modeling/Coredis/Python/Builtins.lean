import Coredis.Python.Numeral

/- The builtins the callbacks call: `bool`, `float`, `int`, `tuple`, `list`, `set` and
   `dict`, each on every kind of object, with the class of the exception it raises.
   Exception messages are not modelled. -/
namespace Coredis

def pyBool (x : PyVal) : PyVal := .bool x.truthy

/-- `float()` of an int: the nearest double, and OverflowError when that is an infinity. -/
def intToFloat (n : Int) : Except PyExc PyFloat :=
  match roundDouble n with
  | .finite q => .ok (.finite q)
  | _ => .error .overflowError

def pyFloat : PyVal → Except PyExc PyVal
  | .float f => .ok (.float f)
  | .bool b => .ok (.float (.finite (if b then 1 else 0)))
  | .int n => .float <$> intToFloat n
  | .bytes b => .float <$> floatOfText (bytesChars b)
  | .str s => .float <$> floatOfText s.toList
  | _ => .error .typeError

def pyInt : PyVal → Except PyExc PyVal
  | .int n => .ok (.int n)
  | .bool b => .ok (.int (if b then 1 else 0))
  | .float (.finite q) => .ok (.int (truncate q))
  | .float .nan => .error .valueError
  | .float _ => .error .overflowError
  | .bytes b => .int <$> intOfText (bytesChars b)
  | .str s => .int <$> intOfText s.toList
  | _ => .error .typeError

theorem intToFloat_of_abs_le {n : Int} (h : |n| ≤ 2 ^ 53) : intToFloat n = .ok (.finite n) := by
  unfold intToFloat
  rw [roundDouble_of_isDouble (isDouble_intCast h)]

def pyTuple (x : PyVal) : Except PyExc PyVal := .tuple <$> x.iter

def pyList (x : PyVal) : Except PyExc PyVal := .list <$> x.iter

/-- `s.add(x)` on a set holding `xs`: an element equal to one already there is not added. -/
def setAdd (xs : List PyVal) (x : PyVal) : Except PyExc (List PyVal) :=
  match x.key? with
  | some k => .ok (if k ∈ keysOf xs then xs else xs ++ [x])
  | none => .error .typeError

def pySet (x : PyVal) : Except PyExc PyVal := do
  let xs ← x.iter
  return .set (← xs.foldlM setAdd [])

/-- `d[k] = v`: a key equal to one already there keeps that key's place and object, and
    takes the new value. -/
def setItem (ps : List (PyVal × PyVal)) (k v : PyVal) : Except PyExc (List (PyVal × PyVal)) :=
  match k.key? with
  | some key =>
    .ok (if key ∈ keysOf (ps.map Prod.fst) then
      ps.map fun p => if p.1.key? = some key then (p.1, v) else p
    else ps ++ [(k, v)])
  | none => .error .typeError

def dictUpdate (ps : List (PyVal × PyVal)) (e : PyVal) : Except PyExc (List (PyVal × PyVal)) :=
  match e.iter with
  | .ok [k, v] => setItem ps k v
  | .ok _ => .error .valueError
  | .error _ => .error .typeError

def pyDict : PyVal → Except PyExc PyVal
  | .dict ps => .ok (.dict ps)
  | x => do
    let es ← x.iter
    return .dict (← es.foldlM dictUpdate [])

end Coredis
