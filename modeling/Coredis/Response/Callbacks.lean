import Coredis.Utils
import Coredis.Python.Datetime

/- `coredis.response.callbacks`. A callback object is its `transform` and its `transform_3`,
   which defaults to `transform`; `__call__` picks one by protocol version. No class of the
   module overrides `transform_3`. -/
namespace Coredis

structure SimpleCallback where
  transform : PyVal → Except PyExc PyVal
  transform3 : PyVal → Except PyExc PyVal := transform

def SimpleCallback.call (self : SimpleCallback) (response : PyVal) (version : Int := 2) :
    Except PyExc PyVal :=
  if version = 3 then self.transform3 response else self.transform response

@[simp] theorem SimpleCallback.call_mk (t : PyVal → Except PyExc PyVal) (response : PyVal)
    (version : Int) : SimpleCallback.call { transform := t } response version = t response :=
  ite_self _

abbrev Kwargs := List (String × PyVal)

structure ParametrizedCallback where
  transform : PyVal → Kwargs → Except PyExc PyVal
  transform3 : PyVal → Kwargs → Except PyExc PyVal := transform

def ParametrizedCallback.call (self : ParametrizedCallback) (response : PyVal)
    (version : Int := 2) (kwargs : Kwargs := []) : Except PyExc PyVal :=
  if version = 3 then self.transform3 response kwargs else self.transform response kwargs

@[simp] theorem ParametrizedCallback.call_mk (t : PyVal → Kwargs → Except PyExc PyVal)
    (response : PyVal) (version : Int) (kwargs : Kwargs) :
    ParametrizedCallback.call { transform := t } response version kwargs = t response kwargs :=
  ite_self _

section
variable (codec : TextCodec)

/-- `success = response and nativestr(response) == "OK"`; a false `success` raises the
    configured class on the reply, and is returned otherwise. -/
def simpleStringCallback (raiseOnError : Option String := none) : SimpleCallback where
  transform response := do
    let success ← if response.truthy then
        (fun s => PyVal.bool (s == "OK")) <$> nativestr codec response
      else pure response
    if !success.truthy then
      if let some cls := raiseOnError then throw (.raised cls response)
    return success

def simpleStringOrIntCallback : SimpleCallback where
  transform response :=
    if response.isInt then .ok response else (simpleStringCallback codec).call response

@[simp] theorem simpleStringOrIntCallback_call (response : PyVal) (version : Int) :
    (simpleStringOrIntCallback codec).call response version =
      if response.isInt then .ok response else (simpleStringCallback codec).call response :=
  SimpleCallback.call_mk _ response version

end

/-- `response if isinstance(response, T) else T(response)`, the body of `FloatCallback`,
    `BoolCallback` and `ListCallback`. -/
def passThrough (isInstance : PyVal → Bool) (coerce : PyVal → Except PyExc PyVal) :
    SimpleCallback where
  transform response := if isInstance response then .ok response else coerce response

@[simp] theorem passThrough_call (isInstance : PyVal → Bool)
    (coerce : PyVal → Except PyExc PyVal) (response : PyVal) (version : Int) :
    (passThrough isInstance coerce).call response version =
      if isInstance response then .ok response else coerce response :=
  SimpleCallback.call_mk _ response version

def floatCallback : SimpleCallback := passThrough PyVal.isFloat pyFloat

@[simp] theorem floatCallback_call (response : PyVal) (version : Int) :
    floatCallback.call response version =
      if response.isFloat then .ok response else pyFloat response :=
  passThrough_call _ _ response version

def boolCallback : SimpleCallback := passThrough PyVal.isBool fun r => .ok (pyBool r)

@[simp] theorem boolCallback_call (response : PyVal) (version : Int) :
    boolCallback.call response version =
      if response.isBool then .ok response else .ok (pyBool response) :=
  passThrough_call _ _ response version

def listCallback : SimpleCallback := passThrough PyVal.isList pyList

@[simp] theorem listCallback_call (response : PyVal) (version : Int) :
    listCallback.call response version =
      if response.isList then .ok response else pyList response :=
  passThrough_call _ _ response version

def tupleCallback : SimpleCallback where
  transform := pyTuple

@[simp] theorem tupleCallback_call (response : PyVal) (version : Int) :
    tupleCallback.call response version = pyTuple response :=
  SimpleCallback.call_mk _ response version

/-- `ts / 1000.0`: an int is converted by `float()` first, and the quotient is rounded to the
    nearest double. -/
def divThousand : PyVal → Except PyExc PyVal
  | .int n => (fun f => .float (divFloat f 1000)) <$> intToFloat n
  | .bool b => .ok (.float (divFloat (.finite (if b then 1 else 0)) 1000))
  | .float f => .ok (.float (divFloat f 1000))
  | _ => .error .typeError

def timestampOf (response : PyVal) (kwargs : Kwargs) : Except PyExc PyVal :=
  match kwargs.lookup "unit" with
  | some (.str "milliseconds") => divThousand response
  | _ => .ok response

def dateTimeCallback : ParametrizedCallback where
  transform response kwargs := timestampOf response kwargs >>= fromtimestamp

@[simp] theorem dateTimeCallback_call (response : PyVal) (version : Int) (kwargs : Kwargs) :
    dateTimeCallback.call response version kwargs =
      timestampOf response kwargs >>= fromtimestamp :=
  ParametrizedCallback.call_mk _ response version kwargs

def dictCallback (transformFunction : Option (PyVal → Except PyExc PyVal) := none) :
    SimpleCallback where
  transform response := match transformFunction with
    | none => if response.isDict then .ok response else pyDict response
    | some f => f response

@[simp] theorem dictCallback_call (transformFunction : Option (PyVal → Except PyExc PyVal))
    (response : PyVal) (version : Int) :
    (dictCallback transformFunction).call response version =
      match transformFunction with
      | none => if response.isDict then .ok response else pyDict response
      | some f => f response :=
  SimpleCallback.call_mk _ response version

def setCallback : SimpleCallback where
  transform response :=
    if response.isSet then .ok response
    else if response.truthy then pySet response else .ok (.set [])

@[simp] theorem setCallback_call (response : PyVal) (version : Int) :
    setCallback.call response version =
      if response.isSet then .ok response
      else if response.truthy then pySet response else .ok (.set []) :=
  SimpleCallback.call_mk _ response version

def boolsCallback : SimpleCallback where
  transform response := do
    let xs ← response.iter
    return .tuple (← xs.mapM fun r => boolCallback.call r)

@[simp] theorem boolsCallback_call (response : PyVal) (version : Int) :
    boolsCallback.call response version =
      response.iter >>= fun xs => .tuple <$> xs.mapM fun r => boolCallback.call r :=
  SimpleCallback.call_mk _ response version

def optionalPrimitiveCallback : SimpleCallback where
  transform := .ok

/-- `response if isinstance(response, T) else response and T(response)`, the body of
    `OptionalFloatCallback`, `OptionalIntCallback` and `OptionalSetCallback`. -/
def optionalCoerce (isInstance : PyVal → Bool) (coerce : PyVal → Except PyExc PyVal) :
    SimpleCallback where
  transform response :=
    if isInstance response then .ok response
    else if response.truthy then coerce response else .ok response

@[simp] theorem optionalCoerce_call (isInstance : PyVal → Bool)
    (coerce : PyVal → Except PyExc PyVal) (response : PyVal) (version : Int) :
    (optionalCoerce isInstance coerce).call response version =
      if isInstance response then .ok response
      else if response.truthy then coerce response else .ok response :=
  SimpleCallback.call_mk _ response version

def optionalFloatCallback : SimpleCallback := optionalCoerce PyVal.isFloat pyFloat

@[simp] theorem optionalFloatCallback_call (response : PyVal) (version : Int) :
    optionalFloatCallback.call response version =
      if response.isFloat then .ok response
      else if response.truthy then pyFloat response else .ok response :=
  optionalCoerce_call _ _ response version

def optionalIntCallback : SimpleCallback := optionalCoerce PyVal.isInt pyInt

@[simp] theorem optionalIntCallback_call (response : PyVal) (version : Int) :
    optionalIntCallback.call response version =
      if response.isInt then .ok response
      else if response.truthy then pyInt response else .ok response :=
  optionalCoerce_call _ _ response version

def optionalSetCallback : SimpleCallback := optionalCoerce PyVal.isSet pySet

@[simp] theorem optionalSetCallback_call (response : PyVal) (version : Int) :
    optionalSetCallback.call response version =
      if response.isSet then .ok response
      else if response.truthy then pySet response else .ok response :=
  optionalCoerce_call _ _ response version

/-- `response and tuple(response)`: unlike its siblings, no `isinstance` test first. -/
def optionalTupleCallback : SimpleCallback where
  transform response := if response.truthy then pyTuple response else .ok response

@[simp] theorem optionalTupleCallback_call (response : PyVal) (version : Int) :
    optionalTupleCallback.call response version =
      if response.truthy then pyTuple response else .ok response :=
  SimpleCallback.call_mk _ response version

end Coredis
