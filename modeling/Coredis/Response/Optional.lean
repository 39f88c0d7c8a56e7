import Coredis.Response.Callbacks

/- The optional callbacks. Each is `response and base(response)` for its non-optional
   counterpart `base`: nil gives `None`, a truthy reply gets the counterpart's result, and
   any other falsy reply (an empty bulk string, an empty array, `0`, `False`) comes back as
   itself, outside the declared `Optional[...]` result. -/
namespace Coredis

/-- The falsy replies the optional callbacks return as themselves, where the counterpart
    raises or converts: `b""` to the float and int ones, `[]` to the set and tuple ones, and
    `0` to the float one, which `FloatCallback` turns into `0.0`. -/
theorem optional_callbacks_return_falsy_reply :
    optionalFloatCallback.call (.bytes []) = .ok (.bytes []) ∧
      floatCallback.call (.bytes []) = .error .valueError ∧
    optionalIntCallback.call (.bytes []) = .ok (.bytes []) ∧
      pyInt (.bytes []) = .error .valueError ∧
    optionalSetCallback.call (.list []) = .ok (.list []) ∧
      setCallback.call (.list []) = .ok (.set []) ∧
    optionalTupleCallback.call (.list []) = .ok (.list []) ∧
      tupleCallback.call (.list []) = .ok (.tuple []) ∧
    optionalFloatCallback.call (.int 0) = .ok (.int 0) ∧
      floatCallback.call (.int 0) = .ok (.float (.finite 0)) :=
  ⟨rfl, rfl, rfl, rfl, rfl, rfl, rfl, rfl, rfl,
    by simp [PyVal.isFloat, pyFloat, intToFloat_of_abs_le]⟩

end Coredis
