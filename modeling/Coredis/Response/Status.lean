import Coredis.Response.Callbacks

/- The status callbacks, `SimpleStringCallback` and `SimpleStringOrIntCallback`, on the
   replies they are meant for: nil and simple or bulk strings. The configured class is raised
   on the reply exactly when the reply's native string is not "OK", as the spec says; what is
   returned otherwise is the spec's boolean only for non-empty text, and a falsy reply (nil,
   empty text) comes back as itself. -/
namespace Coredis

variable (codec : TextCodec) {raiseOnError : Option String} {response : PyVal} {version : Int}

/-- The replies a status callback is meant for: nil, or a simple or bulk string. -/
def StatusReply : PyVal → Prop
  | .none | .str _ | .bytes _ => True
  | _ => False

def nativeOk (response : PyVal) : Bool :=
  match nativestr codec response with
  | .ok s => s == "OK"
  | .error _ => false

def statusFailure (raiseOnError : Option String) (response result : PyVal) :
    Except PyExc PyVal :=
  match raiseOnError with
  | some cls => .error (.raised cls response)
  | none => .ok result

theorem simpleStringCallback_falsy (h : response.truthy = false) :
    (simpleStringCallback codec raiseOnError).call response version =
      statusFailure raiseOnError response response := by
  cases raiseOnError <;> simp [simpleStringCallback, statusFailure, h]

theorem simpleStringCallback_text {s : String} (h : response.truthy = true)
    (hs : nativestr codec response = .ok s) :
    (simpleStringCallback codec raiseOnError).call response version =
      if s = "OK" then .ok (.bool true) else statusFailure raiseOnError response (.bool false) := by
  cases raiseOnError <;> by_cases hok : s = "OK" <;>
    simp [simpleStringCallback, statusFailure, h, hs, hok]

theorem nativestr_of_truthy (hr : StatusReply response) (h : response.truthy = true) :
    ∃ s, nativestr codec response = .ok s := by
  cases response <;> simp_all [StatusReply, nativestr]

theorem nativeOk_of_falsy (hr : StatusReply response) (h : response.truthy = false) :
    nativeOk codec response = false := by
  cases response <;> simp_all [StatusReply, nativeOk, nativestr, codec.decode_nil]
  rintro rfl
  exact absurd h (by decide)

theorem simpleStringCallback_on_status_reply (hr : StatusReply response) :
    (simpleStringCallback codec raiseOnError).call response version =
      if nativeOk codec response then .ok (.bool true)
      else statusFailure raiseOnError response
        (if response.truthy then .bool false else response) := by
  cases ht : response.truthy
  · simp [simpleStringCallback_falsy codec ht, nativeOk_of_falsy codec hr ht]
  · obtain ⟨s, hs⟩ := nativestr_of_truthy codec hr ht
    simp [simpleStringCallback_text codec ht hs, nativeOk, hs]

theorem simpleStringCallback_on_ok_bytes :
    StatusReply (.bytes [79, 75]) ∧
    (simpleStringCallback latin1 (some "ResponseError")).call (.bytes [79, 75]) 2 =
      if nativeOk latin1 (.bytes [79, 75]) then .ok (.bool true)
      else statusFailure (some "ResponseError") (.bytes [79, 75])
        (if PyVal.truthy (.bytes [79, 75]) then .bool false else .bytes [79, 75]) :=
  ⟨trivial, simpleStringCallback_on_status_reply latin1 trivial⟩

/-- Nil and an empty bulk string come back from `SimpleStringCallback()` as themselves, and
    nil from `SimpleStringOrIntCallback()`, whose declared result is `Union[bool, int]`. -/
theorem status_callbacks_return_falsy_reply (version : Int) :
    (simpleStringCallback codec).call .none version = .ok .none ∧
    (simpleStringCallback codec).call (.bytes []) version = .ok (.bytes []) ∧
    (simpleStringOrIntCallback codec).call .none version = .ok .none :=
  ⟨@simpleStringCallback_falsy codec none .none version rfl,
    @simpleStringCallback_falsy codec none (.bytes []) version rfl,
    by simpa [PyVal.isInt] using @simpleStringCallback_falsy codec none .none 2 rfl⟩

end Coredis
