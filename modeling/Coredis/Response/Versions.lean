import Coredis.Response.Callbacks

/- A number reaches the numeric callbacks in two shapes: under version 2 as the bulk string of
   the numeral the server writes for it, under version 3 as a RESP3 double or integer. The float
   callbacks agree on every double sent with 17 significant digits, as `%.17g` writes it;
   `OptionalIntCallback` agrees on integers of at most 4300 digits, and not on other numbers. -/
namespace Coredis

def AgreesAcrossVersions (cb : SimpleCallback) (r2 r3 x : PyVal) : Prop :=
  cb.call r2 2 = .ok x ∧ cb.call r3 3 = .ok x

theorem optionalIntCallback_agrees_on_integers (neg : Bool) {w : List (Fin 10)} (hw : w ≠ []) :
    (w.length ≤ maxStrDigits → AgreesAcrossVersions optionalIntCallback
      (.bytes (charBytes (plainNumeral neg w []))) (.int ((if neg then -1 else 1) * digitsNat w))
      (.int ((if neg then -1 else 1) * digitsNat w))) ∧
    (maxStrDigits < w.length →
      optionalIntCallback.call (.bytes (charBytes (plainNumeral neg w []))) 2 =
        .error .valueError) := by
  have hne := charBytes_ne_nil (plainNumeral_ne_nil neg hw [])
  refine ⟨fun hl => ?_, fun hl => ?_⟩
  · simp [AgreesAcrossVersions, pyInt, PyVal.isInt, hne, charBytes_plainNumeral,
      intOfText_plainNumeral neg hw, not_lt.2 hl]
  · simp [pyInt, PyVal.isInt, hne, charBytes_plainNumeral, intOfText_plainNumeral neg hw, hl]

theorem optionalIntCallback_agrees_on_integers_of_negative :
    [(4 : Fin 10), 2] ≠ [] ∧
    (([(4 : Fin 10), 2]).length ≤ maxStrDigits → AgreesAcrossVersions optionalIntCallback
      (.bytes (charBytes (plainNumeral true [4, 2] [])))
      (.int ((if true then -1 else 1) * digitsNat [4, 2]))
      (.int ((if true then -1 else 1) * digitsNat [4, 2]))) ∧
    (maxStrDigits < ([(4 : Fin 10), 2]).length →
      optionalIntCallback.call (.bytes (charBytes (plainNumeral true [4, 2] []))) 2 =
        .error .valueError) :=
  ⟨by decide, optionalIntCallback_agrees_on_integers true (by decide)⟩

end Coredis
