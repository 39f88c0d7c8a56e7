import Mathlib.Data.Nat.Digits
import Mathlib.Data.List.DropRight
import Coredis.Python.Float

/- The text forms `int()` and `float()` accept: surrounding whitespace, a sign, decimal
   digits with single underscores between digits, and for `float()` a point, an exponent and
   the words inf, infinity and nan in any case. Digits and whitespace are the ASCII ones
   (`str` also accepts other Unicode digits and spaces, which are not modelled); bytes are
   read one character per byte. -/
namespace Coredis

def isSpace (c : Char) : Bool :=
  c == ' ' || c == '\t' || c == '\n' || c == '\r' || c == '\x0b' || c == '\x0c'

def strip (cs : List Char) : List Char :=
  ((cs.dropWhile isSpace).reverse.dropWhile isSpace).reverse

def sign : List Char → Int × List Char
  | '+' :: cs => (1, cs)
  | '-' :: cs => (-1, cs)
  | cs => (1, cs)

def digitsValue (cs : List Char) : Nat :=
  cs.foldl (fun n c => 10 * n + (c.toNat - 48)) 0

/-- Digits with single underscores between them: their value and how many digits. -/
def digitPart (cs : List Char) : Option (Nat × Nat) :=
  let groups := cs.splitOn '_'
  if groups.all fun g => !g.isEmpty && g.all Char.isDigit then
    some (digitsValue groups.flatten, groups.flatten.length)
  else none

def optionalDigits : List Char → Option (Nat × Nat)
  | [] => some (0, 0)
  | cs => digitPart cs

/-- `sys.int_info.default_max_str_digits`: since CPython 3.11 `int()` raises ValueError on a
    decimal text of more digits. -/
def maxStrDigits : Nat := 4300

def intOfText (cs : List Char) : Except PyExc Int :=
  let (s, body) := sign (strip cs)
  match digitPart body with
  | some (n, digits) => if maxStrDigits < digits then .error .valueError else .ok (s * n)
  | none => .error .valueError

def exponent : List Char → Option Int
  | [] => some 0
  | c :: cs =>
    if c == 'e' || c == 'E' then
      let (s, body) := sign cs
      (digitPart body).map fun (n, _) => s * n
    else none

def significand (cs : List Char) : Option (Nat × Nat) :=
  match cs.span (· != '.') with
  | (whole, []) => (digitPart whole).map fun (w, _) => (w, 0)
  | ([], [_]) => none
  | (whole, _ :: frac) => do
    let (w, _) ← optionalDigits whole
    let (f, nf) ← optionalDigits frac
    pure (w * Nat.pow 10 nf + f, nf)

def decimal (s : Int) (cs : List Char) : Option ℚ := do
  let (mant, exp) := cs.span fun c => c != 'e' && c != 'E'
  let e ← exponent exp
  let (m, nf) ← significand mant
  let scale := e - nf
  pure (mkRat (s * (m * Nat.pow 10 scale.toNat)) (Nat.pow 10 (-scale).toNat))

def floatOfText (cs : List Char) : Except PyExc PyFloat :=
  let (s, body) := sign (strip cs)
  let word := body.map Char.toLower
  if word == "inf".toList || word == "infinity".toList then
    .ok (if s < 0 then .negInf else .inf)
  else if word == "nan".toList then .ok .nan
  else match decimal s body with
    | some q => .ok (roundDouble q)
    | none => .error .valueError

def bytesChars (b : List UInt8) : List Char := b.map fun c => Char.ofNat c.toNat

def charBytes (cs : List Char) : List UInt8 := cs.map fun c => c.toNat.toUInt8

theorem bytesChars_charBytes {cs : List Char} (h : ∀ c ∈ cs, c.toNat < 256) :
    bytesChars (charBytes cs) = cs := by
  have hc : ∀ c ∈ cs, Char.ofNat c.toNat.toUInt8.toNat = c := fun c hc => by
    rw [UInt8.toNat_ofNat_of_lt (h c hc), Char.ofNat_toNat]
  rw [bytesChars, charBytes, List.map_map]
  exact (List.map_congr_left hc).trans (List.map_id cs)

theorem charBytes_ne_nil {cs : List Char} (h : cs ≠ []) : (charBytes cs).isEmpty = false := by
  simpa [charBytes, List.isEmpty_iff] using h

/-! ### Plain numerals

A server writes a number in a bulk string as a plain numeral: an optional minus, digits, and a
point and more digits when the number has a fraction. Both parsers read such a numeral as the
number it denotes. -/

def digitChar (d : Fin 10) : Char := Char.ofNat (48 + d)

def digitsNat (ds : List (Fin 10)) : Nat := Nat.ofDigits 10 (ds.reverse.map Fin.val)

def plainNumeral (neg : Bool) (w f : List (Fin 10)) : List Char :=
  (if neg then ['-'] else []) ++ w.map digitChar ++ (if f = [] then [] else '.' :: f.map digitChar)

theorem plainNumeral_ne_nil (neg : Bool) {w : List (Fin 10)} (hw : w ≠ []) (f : List (Fin 10)) :
    plainNumeral neg w f ≠ [] := by
  simp [plainNumeral, hw]

@[simp] theorem digitChar_spec (d : Fin 10) :
    (digitChar d).isDigit ∧ (digitChar d).toNat - 48 = d ∧ (digitChar d).toNat < 256 ∧
    isSpace (digitChar d) = false ∧ digitChar d ≠ '+' ∧ digitChar d ≠ '-' ∧
    digitChar d ≠ '.' ∧ digitChar d ≠ '_' ∧ digitChar d ≠ 'e' ∧ digitChar d ≠ 'E' ∧
    (digitChar d).toLower ≠ 'i' ∧ (digitChar d).toLower ≠ 'n' := by
  revert d; decide

theorem digitsValue_digitChar (ds : List (Fin 10)) :
    digitsValue (ds.map digitChar) = digitsNat ds := by
  induction ds using List.reverseRecOn with
  | nil => rfl
  | append_singleton ds d ih =>
    simp only [digitsValue, digitsNat, List.map_append, List.foldl_append, List.reverse_append] at *
    simp [ih, Nat.ofDigits_cons]
    omega

theorem digitPart_digitChar {ds : List (Fin 10)} (h : ds ≠ []) :
    digitPart (ds.map digitChar) = some (digitsNat ds, ds.length) := by
  have hs : (ds.map digitChar).splitOn '_' = [ds.map digitChar] :=
    List.splitOnP_eq_single _ _ (by simp)
  simp [digitPart, hs, h, digitsValue_digitChar]

theorem plainNumeral_forall {p : Char → Prop} (hm : p '-') (hp : p '.') (hd : ∀ d, p (digitChar d))
    {neg : Bool} {w f : List (Fin 10)} : ∀ c ∈ plainNumeral neg w f, p c := by
  intro c h
  simp only [plainNumeral, List.mem_append] at h
  split at h <;> split at h <;> aesop

theorem strip_of_forall {cs : List Char} (h : ∀ c ∈ cs, isSpace c = false) : strip cs = cs := by
  have hd {cs : List Char} (h : ∀ c ∈ cs, isSpace c = false) : cs.dropWhile isSpace = cs :=
    List.dropWhile_eq_self_iff.2 fun hl => by simp [h _ (List.getElem_mem hl)]
  rw [strip, hd h, hd (by simpa using h), List.reverse_reverse]

theorem strip_plainNumeral (neg : Bool) (w f : List (Fin 10)) :
    strip (plainNumeral neg w f) = plainNumeral neg w f :=
  strip_of_forall (plainNumeral_forall (p := fun c => isSpace c = false) rfl rfl (by simp))

theorem sign_of_ne {c : Char} (h1 : c ≠ '+') (h2 : c ≠ '-') (cs : List Char) :
    sign (c :: cs) = (1, c :: cs) := by
  unfold sign; split <;> simp_all

theorem sign_plainNumeral_append (neg : Bool) {w : List (Fin 10)} (hw : w ≠ [])
    (f : List (Fin 10)) (r : List Char) :
    sign (plainNumeral neg w f ++ r) = (if neg then -1 else 1, plainNumeral false w f ++ r) := by
  obtain ⟨d, w, rfl⟩ := List.exists_cons_of_ne_nil hw
  cases neg
  · simp [plainNumeral, sign_of_ne]
  · simp [plainNumeral, sign]

theorem sign_plainNumeral (neg : Bool) {w : List (Fin 10)} (hw : w ≠ []) (f : List (Fin 10)) :
    sign (plainNumeral neg w f) = (if neg then -1 else 1, plainNumeral false w f) := by
  simpa using sign_plainNumeral_append neg hw f []

theorem intOfText_plainNumeral (neg : Bool) {w : List (Fin 10)} (hw : w ≠ []) :
    intOfText (plainNumeral neg w []) =
      if maxStrDigits < w.length then .error .valueError
      else .ok ((if neg then -1 else 1) * digitsNat w) := by
  have : plainNumeral false w [] = w.map digitChar := by simp [plainNumeral]
  simp [intOfText, strip_plainNumeral, sign_plainNumeral neg hw, this, digitPart_digitChar hw]

theorem charBytes_plainNumeral (neg : Bool) (w f : List (Fin 10)) :
    bytesChars (charBytes (plainNumeral neg w f)) = plainNumeral neg w f :=
  bytesChars_charBytes (plainNumeral_forall (by decide) (by decide) (by simp))

end Coredis
