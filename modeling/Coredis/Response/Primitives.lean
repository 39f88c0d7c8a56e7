import Coredis.Response.Callbacks

/- The primitive callbacks, `BoolsCallback` and `DateTimeCallback` on every reply: every
   result is of the class the callback declares. The `isinstance` shortcut of `FloatCallback`,
   `BoolCallback` and `ListCallback` returns an object of that class, and each builtin they
   fall back on returns one too. -/
namespace Coredis

inductive PyType where
  | none | bool | int | float | bytes | str | list | tuple | set | dict | datetime
  deriving DecidableEq, Repr

def PyVal.type : PyVal → PyType
  | .none => .none
  | .bool _ => .bool
  | .int _ => .int
  | .float _ => .float
  | .bytes _ => .bytes
  | .str _ => .str
  | .list _ => .list
  | .tuple _ => .tuple
  | .set _ => .set
  | .dict _ => .dict
  | .datetime _ => .datetime

def Returns (cb : SimpleCallback) (t : PyType) : Prop :=
  ∀ response version x, cb.call response version = .ok x → x.type = t

theorem passThrough_returns {isInstance : PyVal → Bool} {coerce : PyVal → Except PyExc PyVal}
    {t : PyType} (hi : ∀ r, isInstance r → r.type = t)
    (hc : ∀ r x, coerce r = .ok x → x.type = t) : Returns (passThrough isInstance coerce) t := by
  intro r v x h
  by_cases hr : isInstance r <;> simp only [passThrough_call, hr] at h
  · cases h; exact hi r hr
  · exact hc r x (by simpa using h)

theorem except_map_type {α : Type} {e : Except PyExc α} {c : α → PyVal} {x : PyVal}
    {t : PyType} (h : c <$> e = .ok x) (hc : ∀ a, (c a).type = t) : x.type = t := by
  cases e with
  | error => cases h
  | ok a => cases h; exact hc a

theorem pyFloat_type {r x : PyVal} (h : pyFloat r = .ok x) : x.type = .float := by
  cases r with
  | int n => exact except_map_type h fun _ => rfl
  | bytes b => exact except_map_type h fun _ => rfl
  | str s => exact except_map_type h fun _ => rfl
  | float | bool => cases h; rfl
  | _ => cases h

theorem isinstance_type (r : PyVal) :
    (r.isFloat → r.type = .float) ∧ (r.isBool → r.type = .bool) ∧ (r.isList → r.type = .list) ∧
    (r.isDict → r.type = .dict) ∧ (r.isSet → r.type = .set) := by
  cases r <;> simp [PyVal.isFloat, PyVal.isBool, PyVal.isList, PyVal.isDict, PyVal.isSet,
    PyVal.type]

theorem mapM_boolCallback (xs : List PyVal) :
    xs.mapM (fun r => boolCallback.call r) = .ok (xs.map fun x => .bool x.truthy) := by
  induction xs with
  | nil => rfl
  | cons x xs ih =>
    rw [List.mapM_cons, ih]
    cases x <;> rfl

theorem boolsCallback_eq (response : PyVal) (version : Int) :
    boolsCallback.call response version =
      (fun xs => .tuple (xs.map fun x => .bool x.truthy)) <$> response.iter := by
  rw [boolsCallback_call]
  cases response.iter <;> simp only [except_ok_bind, except_error_bind, mapM_boolCallback,
    Except.map_ok, Except.map_error]

theorem pySet_type {r x : PyVal} (h : pySet r = .ok x) : x.type = .set := by
  simp only [pySet, except_bind_eq_ok, except_pure, Except.ok.injEq] at h
  obtain ⟨_, _, _, _, rfl⟩ := h
  rfl

theorem pyDict_type {r x : PyVal} (h : pyDict r = .ok x) : x.type = .dict := by
  cases r
  case dict => cases h; rfl
  all_goals
    simp only [pyDict, except_bind_eq_ok, except_pure, Except.ok.injEq] at h
    obtain ⟨_, _, _, _, rfl⟩ := h
    rfl

theorem timetDatetime_type {t us : Int} {x : PyVal} (h : timetDatetime t us = .ok x) :
    x.type = .datetime := by
  unfold timetDatetime localDatetime at h
  split_ifs at h
  cases h; rfl

theorem fromtimestamp_type {r x : PyVal} (h : fromtimestamp r = .ok x) :
    x.type = .datetime := by
  cases r with
  | int | bool => exact timetDatetime_type h
  | float f => cases f <;> first | exact timetDatetime_type h | cases h
  | _ => cases h

theorem iter_map_eq_ok {r x : PyVal} {c : List PyVal → PyVal} (h : c <$> r.iter = .ok x) :
    ∃ xs, x = c xs := by
  cases hr : r.iter <;> rw [hr] at h <;> cases h
  exact ⟨_, rfl⟩

/-- Every result of the primitive callbacks, under every version, is of the class their
    `PrimitiveCallback[...]` parameter declares; `BoolsCallback` returns a tuple of
    booleans and `DateTimeCallback` a datetime. -/
theorem primitive_callbacks_return_declared_class :
    Returns floatCallback .float ∧ Returns boolCallback .bool ∧ Returns listCallback .list ∧
    Returns tupleCallback .tuple ∧ Returns (dictCallback) .dict ∧ Returns setCallback .set ∧
    (∀ response version x, boolsCallback.call response version = .ok x →
      ∃ xs, x = .tuple xs ∧ ∀ y ∈ xs, y.type = .bool) ∧
    ∀ response version kwargs x,
      dateTimeCallback.call response version kwargs = .ok x → x.type = .datetime := by
  refine ⟨passThrough_returns (fun r hr => (isinstance_type r).1 hr) fun _ _ => pyFloat_type,
    passThrough_returns (fun r hr => (isinstance_type r).2.1 hr) fun _ _ h => by cases h; rfl,
    passThrough_returns (fun r hr => (isinstance_type r).2.2.1 hr) fun _ _ h => ?list,
    fun r v x h => ?tuple, fun r v x h => ?dict, fun r v x h => ?set, fun r v x h => ?bools,
    fun r v kw x h => ?datetime⟩
  case list =>
    obtain ⟨_, rfl⟩ := iter_map_eq_ok h
    rfl
  case tuple =>
    obtain ⟨_, rfl⟩ := iter_map_eq_ok ((tupleCallback_call r v).symm.trans h)
    rfl
  case dict =>
    by_cases hd : r.isDict <;> simp only [dictCallback_call, hd, if_true, if_false] at h
    · cases h; exact (isinstance_type r).2.2.2.1 hd
    · exact pyDict_type h
  case set =>
    rw [setCallback_call] at h
    split_ifs at h with hs
    · cases h; exact (isinstance_type r).2.2.2.2 hs
    · exact pySet_type h
    · cases h; rfl
  case bools =>
    obtain ⟨_, rfl⟩ := iter_map_eq_ok ((boolsCallback_eq r v).symm.trans h)
    exact ⟨_, rfl, by simp [PyVal.type]⟩
  case datetime =>
    rw [dateTimeCallback_call, except_bind_eq_ok] at h
    obtain ⟨_, _, h⟩ := h
    exact fromtimestamp_type h

end Coredis
