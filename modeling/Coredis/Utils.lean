import Coredis.Python.Builtins

/- `coredis.utils`, of which the callbacks use `nativestr`, as the spec describes it. -/
namespace Coredis

/-- Modelled from the spec: the client's configured text encoding, of which `nativestr`
    uses the decoding. Every encoding decodes no bytes to the empty text. -/
structure TextCodec where
  decode : List UInt8 → String
  decode_nil : decode [] = ""

def latin1 : TextCodec := ⟨fun b => String.mk (bytesChars b), rfl⟩

/-- Modelled from the spec: the native string of a text reply is the text, of a byte reply its
    decoding under the client's encoding. The spec gives no native string to other replies;
    the model raises there. -/
def nativestr (codec : TextCodec) : PyVal → Except PyExc String
  | .str s => .ok s
  | .bytes b => .ok (codec.decode b)
  | _ => .error .typeError

end Coredis
