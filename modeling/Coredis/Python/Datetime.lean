import Coredis.Python.Float

/- `datetime.datetime.fromtimestamp(ts)` as CPython 3.11 computes it on a 64-bit platform whose
   local time zone is UTC: `_PyTime_ObjectToTimeval` splits the timestamp into seconds and
   microseconds, `time_t` bounds the seconds, and `datetime_from_timet_and_us` builds the
   datetime from `localtime`, probing a day earlier to detect a fold. A datetime is kept as
   the microseconds since the epoch of the instant it denotes. -/
namespace Coredis

/-- The POSIX time of January 1 of year `y`, 00:00 UTC, in the proleptic Gregorian calendar. -/
def yearStart (y : Int) : Int :=
  86400 * (365 * (y - 1970) + ((y - 1) / 4 - (y - 1) / 100 + (y - 1) / 400) - 477)

/-- `_PyTime_DoubleToDenominator(d, 1e6, ROUND_HALF_EVEN)`: `modf` splits `d`, the fraction
    times `1e6` rounds to a double and then half to even, and a carry moves one second. -/
def splitMicros (d : ℚ) : Int × Int :=
  let us := roundHalfEven (nearestValue ((d - truncate d) * 1000000))
  if 1000000 ≤ us then (truncate d + 1, us - 1000000)
  else if us < 0 then (truncate d - 1, us + 1000000)
  else (truncate d, us)

/-- `datetime_from_timet_and_us` with `localtime` in UTC: OSError when the year does not fit
    `tm_year`, ValueError outside the years 1 to 9999, for the datetime or for the fold
    probe a day before it. -/
def localDatetime (t us : Int) : Except PyExc PyVal :=
  if t < yearStart (1900 - 2 ^ 31) ∨ yearStart (1900 + 2 ^ 31) ≤ t then .error .osError
  else if t < yearStart 1 ∨ yearStart 10000 ≤ t then .error .valueError
  else if t - 86400 < yearStart 1 then .error .valueError
  else .ok (.datetime (t * 1000000 + us))

def timetDatetime (t us : Int) : Except PyExc PyVal :=
  if t < -2 ^ 63 ∨ 2 ^ 63 ≤ t then .error .overflowError else localDatetime t us

def fromtimestamp : PyVal → Except PyExc PyVal
  | .int n => timetDatetime n 0
  | .bool b => timetDatetime (if b then 1 else 0) 0
  | .float (.finite q) => timetDatetime (splitMicros q).1 (splitMicros q).2
  | .float .nan => .error .valueError
  | .float _ => .error .overflowError
  | _ => .error .typeError

example : yearStart 1970 = 0 ∧ yearStart 1 = -62135596800 ∧ yearStart 10000 = 253402300800 := by
  decide

end Coredis
