import Mathlib.Data.Int.Log
import Mathlib.Data.Rat.Floor
import Mathlib.Algebra.Order.Field.Power
import Mathlib.Tactic.Linarith
import Mathlib.Tactic.NormNum
import Mathlib.Tactic.Positivity
import Coredis.Python.Value

/- Python floats are IEEE 754 binary64 values. Wherever CPython makes a float of an exact
   number (`float()` of a numeral or of an int, a true division) it rounds to the nearest
   double, a tie to the even significand, and to an infinity from `2 ^ 1024 - 2 ^ 970` on.
   `roundDouble` computes this on the grid `2 ^ ulpExp x`; `roundDouble_roundsTo` proves that
   it meets the standard's specification `RoundsTo`. -/
namespace Coredis

/-- A finite binary64 value: an integer below `2 ^ 53` in magnitude times `2 ^ e`, with `e`
    from `-1074` (the subnormals) to `971` (the largest finite value). -/
def IsDouble (x : ℚ) : Prop :=
  ∃ m e : ℤ, |m| < 2 ^ 53 ∧ -1074 ≤ e ∧ e ≤ 971 ∧ x = m * 2 ^ e

def roundHalfEven (y : ℚ) : ℤ :=
  if y - ⌊y⌋ < 1 / 2 then ⌊y⌋
  else if 1 / 2 < y - ⌊y⌋ then ⌊y⌋ + 1
  else if ⌊y⌋ % 2 = 0 then ⌊y⌋ else ⌊y⌋ + 1

/-- The exponent of the last significand bit of a double of `x`'s size: 52 below that of
    `x`'s leading bit, and `-1074` among the subnormals. -/
def ulpExp (x : ℚ) : ℤ := max (Int.log 2 |x| - 52) (-1074)

def roundedSignificand (x : ℚ) : ℤ := roundHalfEven (|x| / 2 ^ ulpExp x)

def nearestValue (x : ℚ) : ℚ :=
  if x < 0 then -(roundedSignificand x * 2 ^ ulpExp x) else roundedSignificand x * 2 ^ ulpExp x

def roundDouble (x : ℚ) : PyFloat :=
  if 2 ^ 1024 ≤ |nearestValue x| then (if x < 0 then .negInf else .inf)
  else .finite (nearestValue x)

/-- `modf`'s integer part: `x` truncated toward zero. -/
def truncate (x : ℚ) : ℤ := x.num.tdiv x.den

def divFloat (f : PyFloat) (c : ℚ) : PyFloat :=
  match f with
  | .finite q => roundDouble (q / c)
  | g => g

def EvenSignificand (v : ℚ) : Prop := ∃ n : ℤ, n % 2 = 0 ∧ |v| = n * 2 ^ ulpExp v

/-- IEEE 754 round-to-nearest, ties-to-even, of `x` to binary64: the infinity of `x`'s sign
    from `2 ^ 1024 - 2 ^ 970` on; below, a double at least as near `x` as every double, with
    an even significand when another double is as near. -/
structure RoundsTo (x : ℚ) (r : PyFloat) : Prop where
  overflow : 2 ^ 1024 - 2 ^ 970 ≤ |x| → r = if x < 0 then .negInf else .inf
  finite : |x| < 2 ^ 1024 - 2 ^ 970 → ∃ v, r = .finite v ∧ IsDouble v ∧
    (∀ d, IsDouble d → |v - x| ≤ |d - x|) ∧
    (∀ d, IsDouble d → |d - x| = |v - x| → d ≠ v → EvenSignificand v)

section RoundHalfEven
variable (y : ℚ)

theorem roundHalfEven_cases :
    (roundHalfEven y = ⌊y⌋ ∧ y - ⌊y⌋ ≤ 1 / 2) ∨
      (roundHalfEven y = ⌊y⌋ + 1 ∧ 1 / 2 ≤ y - ⌊y⌋) := by
  unfold roundHalfEven
  split_ifs with h1 h2
  · exact .inl ⟨rfl, h1.le⟩
  · exact .inr ⟨rfl, h2.le⟩
  · exact .inl ⟨rfl, not_lt.1 h2⟩
  · exact .inr ⟨rfl, not_lt.1 h1⟩

theorem abs_roundHalfEven_sub_le : |(roundHalfEven y : ℚ) - y| ≤ 1 / 2 := by
  rcases roundHalfEven_cases y with ⟨h, hr⟩ | ⟨h, hr⟩ <;> rw [h]
  · rwa [abs_sub_comm, abs_of_nonneg (sub_nonneg.2 (Int.floor_le y))]
  · push_cast
    rw [abs_of_nonneg (by linarith only [Int.lt_floor_add_one y])]
    linarith only [hr]

theorem half_le_abs_sub_of_ne {n : ℤ} (hn : n ≠ roundHalfEven y) :
    1 / 2 ≤ |(n : ℚ) - y| := by
  have h1 : (1 : ℚ) ≤ |(n : ℚ) - roundHalfEven y| := by
    rw [← Int.cast_sub, ← Int.cast_abs]
    exact_mod_cast Int.one_le_abs (sub_ne_zero.2 hn)
  have h2 := abs_sub_le (n : ℚ) y (roundHalfEven y)
  rw [abs_sub_comm y] at h2
  linarith only [abs_roundHalfEven_sub_le y, h1, h2]

theorem roundHalfEven_eq_of_abs_lt {n : ℤ} (h : |(n : ℚ) - y| < 1 / 2) :
    roundHalfEven y = n := by
  by_contra hne
  exact absurd (half_le_abs_sub_of_ne y (Ne.symm hne)) (not_le.2 h)

theorem roundHalfEven_le_of_le {n : ℤ} (h : y ≤ n) : roundHalfEven y ≤ n := by
  have : (roundHalfEven y : ℚ) < n + 1 := by
    linarith only [(abs_le.1 (abs_roundHalfEven_sub_le y)).2, h]
  exact Int.lt_add_one_iff.1 (by exact_mod_cast this)

theorem le_roundHalfEven_of_le {n : ℤ} (h : n ≤ y) : n ≤ roundHalfEven y := by
  have : (n : ℚ) - 1 < roundHalfEven y := by
    linarith only [(abs_le.1 (abs_roundHalfEven_sub_le y)).1, h]
  have : n - 1 < roundHalfEven y := by exact_mod_cast this
  omega

theorem roundHalfEven_even_of_tie (h : 1 / 2 ≤ |(roundHalfEven y : ℚ) - y|) :
    roundHalfEven y % 2 = 0 := by
  have hr : y - ⌊y⌋ = 1 / 2 := by
    rcases roundHalfEven_cases y with ⟨he, hr⟩ | ⟨he, hr⟩ <;> rw [he] at h
    · rw [abs_sub_comm, abs_of_nonneg (sub_nonneg.2 (Int.floor_le y))] at h
      exact le_antisymm hr h
    · push_cast at h
      rw [abs_of_nonneg (by linarith only [Int.lt_floor_add_one y])] at h
      exact le_antisymm (by linarith only [h]) hr
  rw [roundHalfEven, if_neg hr.not_lt, if_neg hr.symm.not_lt]
  split_ifs with he
  · exact he
  · omega

end RoundHalfEven

section Log
variable {a : ℚ}

theorem zpow_log_two_le (ha : 0 < a) : (2 : ℚ) ^ Int.log 2 a ≤ a := by
  simpa using Int.zpow_log_le_self (b := 2) (by norm_num) ha

theorem lt_zpow_log_two_succ (a : ℚ) : a < 2 ^ (Int.log 2 a + 1) := by
  simpa using Int.lt_zpow_succ_log_self (b := 2) (by norm_num) a

theorem le_log_two {n : ℤ} (h : (2 : ℚ) ^ n ≤ a) : n ≤ Int.log 2 a :=
  (Int.zpow_le_iff_le_log (b := 2) (by norm_num) (lt_of_lt_of_le (by positivity) h)).1
    (by simpa using h)

theorem log_two_lt {n : ℤ} (ha : 0 < a) (h : a < 2 ^ n) : Int.log 2 a < n :=
  (Int.lt_zpow_iff_log_lt (b := 2) (by norm_num) ha).1 (by simpa using h)

end Log

theorem zpow_two_pos (k : ℤ) : (0 : ℚ) < 2 ^ k := zpow_pos two_pos k

theorem zpow_two_add (k n : ℤ) : (2 : ℚ) ^ (k + n) = 2 ^ k * 2 ^ n :=
  zpow_add₀ two_ne_zero k n

theorem two_zpow_eq {a : ℤ} {n : ℕ} (h : a = n) : (2 : ℚ) ^ a = 2 ^ n := by
  rw [h, zpow_natCast]

theorem two_pow_eq_mul (a : ℕ) (b : ℤ) (n : ℕ) (h : (a : ℤ) + b = n) :
    (2 : ℚ) ^ n = 2 ^ a * 2 ^ b := by
  rw [← zpow_natCast, ← h, zpow_two_add, zpow_natCast]

theorem abs_mul_zpow_sub (n a : ℚ) (k : ℤ) : |n * 2 ^ k - a| = 2 ^ k * |n - a / 2 ^ k| := by
  have hk : (0 : ℚ) < 2 ^ k := by positivity
  rw [← abs_of_pos hk, ← abs_mul, abs_of_pos hk, mul_sub, mul_div_cancel₀ _ hk.ne', mul_comm]

section Grid
variable (x : ℚ)

@[simp] theorem ulpExp_abs : ulpExp |x| = ulpExp x := by rw [ulpExp, ulpExp, abs_abs]

theorem ulpExp_ge : -1074 ≤ ulpExp x := le_max_right _ _

theorem abs_lt_zpow_ulpExp : |x| < 2 ^ (ulpExp x + 53) :=
  lt_of_lt_of_le (lt_zpow_log_two_succ |x|)
    (zpow_le_zpow_right₀ (by norm_num) (by have := le_max_left (Int.log 2 |x| - 52) (-1074)
                                           simp only [ulpExp]; omega))

theorem zpow_ulpExp_le {x} (hx : x ≠ 0) (hk : -1074 < ulpExp x) :
    (2 : ℚ) ^ (ulpExp x + 52) ≤ |x| := by
  have : ulpExp x = Int.log 2 |x| - 52 := by simp only [ulpExp] at hk ⊢; omega
  rw [this, sub_add_cancel]
  exact zpow_log_two_le (abs_pos.2 hx)

theorem ulpExp_le {x} {n : ℤ} (hx : x ≠ 0) (hn : -1074 ≤ n) (h : |x| < 2 ^ (n + 53)) :
    ulpExp x ≤ n := by
  have := log_two_lt (abs_pos.2 hx) h
  simp only [ulpExp]; omega

theorem le_ulpExp {x} {n : ℤ} (h : (2 : ℚ) ^ (n + 52) ≤ |x|) : n ≤ ulpExp x := by
  have := le_log_two h
  simp only [ulpExp]; omega

theorem roundedSignificand_nonneg : 0 ≤ roundedSignificand x :=
  le_roundHalfEven_of_le _ (by rw [Int.cast_zero]; positivity)

theorem abs_roundedSignificand_sub :
    |(roundedSignificand x : ℚ) * 2 ^ ulpExp x - (|x|)| ≤ 2 ^ (ulpExp x - 1) := by
  rw [abs_mul_zpow_sub, zpow_sub₀ two_ne_zero, zpow_one, roundedSignificand]
  have := mul_le_mul_of_nonneg_left (abs_roundHalfEven_sub_le (|x| / 2 ^ ulpExp x))
    (zpow_two_pos (ulpExp x)).le
  linarith

theorem abs_roundedSignificand_sub_le (n : ℤ) :
    |(roundedSignificand x : ℚ) * 2 ^ ulpExp x - (|x|)| ≤
      |(n : ℚ) * 2 ^ ulpExp x - (|x|)| := by
  rw [abs_mul_zpow_sub, abs_mul_zpow_sub]
  refine mul_le_mul_of_nonneg_left ?_ (by positivity)
  by_cases hn : n = roundedSignificand x
  · rw [hn]
  · exact (abs_roundHalfEven_sub_le (|x| / 2 ^ ulpExp x)).trans (half_le_abs_sub_of_ne _ hn)

theorem roundedSignificand_le : roundedSignificand x ≤ 2 ^ 53 := by
  refine roundHalfEven_le_of_le _ ?_
  rw [div_le_iff₀ (zpow_two_pos _), Int.cast_pow, Int.cast_ofNat, ← zpow_natCast,
    ← zpow_two_add, add_comm]
  exact (abs_lt_zpow_ulpExp x).le

theorem le_roundedSignificand {x} (hx : x ≠ 0) (hk : -1074 < ulpExp x) :
    2 ^ 52 ≤ roundedSignificand x := by
  refine le_roundHalfEven_of_le _ ?_
  rw [le_div_iff₀ (zpow_two_pos _), Int.cast_pow, Int.cast_ofNat, ← zpow_natCast,
    ← zpow_two_add, add_comm]
  exact zpow_ulpExp_le hx hk

end Grid

theorem isDouble_neg {d : ℚ} (hd : IsDouble d) : IsDouble (-d) := by
  obtain ⟨m, e, hm, he, he', rfl⟩ := hd
  exact ⟨-m, e, by rwa [abs_neg], he, he', by push_cast; ring⟩

theorem isDouble_abs {d : ℚ} (hd : IsDouble d) : IsDouble |d| := by
  rcases abs_choice d with h | h <;> rw [h]
  · exact hd
  · exact isDouble_neg hd

theorem isDouble_grid {d : ℚ} (hd : IsDouble d) (k : ℤ) :
    (∃ n : ℤ, d = n * 2 ^ k) ∨ (-1074 < k ∧ |d| < 2 ^ (k + 52)) := by
  obtain ⟨m, e, hm, he, -, rfl⟩ := hd
  rcases le_or_lt k e with h | h
  · refine .inl ⟨m * 2 ^ (e - k).toNat, ?_⟩
    push_cast
    rw [mul_assoc, ← zpow_natCast, Int.toNat_of_nonneg (by omega), ← zpow_add₀ two_ne_zero,
      sub_add_cancel]
  · refine .inr ⟨by omega, ?_⟩
    have hm' : |(m : ℚ)| < 2 ^ (53 : ℤ) := by exact_mod_cast hm
    calc |(m : ℚ) * 2 ^ e| = |(m : ℚ)| * 2 ^ e := by rw [abs_mul, abs_of_pos (zpow_two_pos e)]
      _ < 2 ^ (53 : ℤ) * 2 ^ e := mul_lt_mul_of_pos_right hm' (by positivity)
      _ = 2 ^ (e + 53) := by rw [add_comm, zpow_two_add]
      _ ≤ 2 ^ (k + 52) := zpow_le_zpow_right₀ (by norm_num) (by omega)

theorem abs_le_of_isDouble {d : ℚ} (hd : IsDouble d) : |d| ≤ 2 ^ 1024 - 2 ^ 971 := by
  obtain ⟨m, e, hm, he, he', rfl⟩ := hd
  have hm' : |(m : ℚ)| ≤ 2 ^ 53 - 1 := by
    have : |m| ≤ 2 ^ 53 - 1 := by omega
    exact_mod_cast this
  have he2 : (2 : ℚ) ^ e ≤ 2 ^ (971 : ℤ) := zpow_le_zpow_right₀ (by norm_num) he'
  rw [abs_mul, abs_of_pos (zpow_two_pos e)]
  calc |(m : ℚ)| * 2 ^ e ≤ (2 ^ 53 - 1) * 2 ^ (971 : ℤ) :=
        mul_le_mul hm' he2 (by positivity) (by norm_num)
    _ = 2 ^ 1024 - 2 ^ 971 := by norm_num

section Nearest
variable (x : ℚ)

theorem abs_nearestValue : |nearestValue x| = roundedSignificand x * 2 ^ ulpExp x := by
  have hM : (0 : ℚ) ≤ roundedSignificand x := by exact_mod_cast roundedSignificand_nonneg x
  unfold nearestValue
  split_ifs <;> simp only [abs_neg, abs_of_nonneg (mul_nonneg hM (zpow_two_pos _).le)]

theorem abs_nearestValue_sub :
    |nearestValue x - x| = |(roundedSignificand x : ℚ) * 2 ^ ulpExp x - (|x|)| := by
  unfold nearestValue
  split_ifs with h
  · rw [abs_of_neg h, ← abs_neg]; ring_nf
  · rw [abs_of_nonneg (not_lt.1 h)]

theorem roundedSignificand_zero : roundedSignificand 0 = 0 :=
  roundHalfEven_eq_of_abs_lt _ (by simp)

theorem grid_or_farther (hx : x ≠ 0) {d : ℚ} (hd : IsDouble d) :
    (∃ n : ℤ, d = n * 2 ^ ulpExp x) ∨
      |(roundedSignificand x : ℚ) * 2 ^ ulpExp x - (|x|)| < |d - (|x|)| := by
  refine (isDouble_grid hd (ulpExp x)).imp_right fun ⟨hk, hd'⟩ => ?_
  have hlow := zpow_ulpExp_le hx hk
  have hgrid := abs_roundedSignificand_sub_le x (2 ^ 52)
  have h52 : ((2 ^ 52 : ℤ) : ℚ) * 2 ^ ulpExp x = 2 ^ (ulpExp x + 52) := by
    rw [zpow_two_add]; push_cast; ring
  rw [h52, abs_of_nonpos (sub_nonpos.2 hlow)] at hgrid
  have := le_abs_self d
  have := neg_le_abs (d - |x|)
  linarith

theorem ulpExp_zero : ulpExp 0 = -52 := by simp [ulpExp]

/-- The rounded value reaches `2 ^ 1024` exactly from `2 ^ 1024 - 2 ^ 970` on: below it the top
    binade rounds down to at most `2 ^ 1024 - 2 ^ 971`, and from it up a tie goes to the even
    `2 ^ 53`. -/
theorem two_pow_le_roundedValue_iff :
    (2 : ℚ) ^ 1024 ≤ roundedSignificand x * 2 ^ ulpExp x ↔ 2 ^ 1024 - 2 ^ 970 ≤ |x| := by
  have hM : (roundedSignificand x : ℚ) ≤ 2 ^ 53 := by exact_mod_cast roundedSignificand_le x
  have hM0 : (0 : ℚ) ≤ roundedSignificand x := by exact_mod_cast roundedSignificand_nonneg x
  have hP : (0 : ℚ) < 2 ^ (970 : ℤ) := zpow_two_pos _
  have e970 : (2 : ℚ) ^ 970 = 2 ^ (970 : ℤ) := (zpow_natCast 2 970).symm
  have e1024 : (2 : ℚ) ^ 1024 = 2 ^ 54 * 2 ^ (970 : ℤ) :=
    two_pow_eq_mul 54 970 1024 (by norm_num)
  have e971 : (2 : ℚ) ^ (971 : ℤ) = 2 * 2 ^ (970 : ℤ) := by
    rw [show (971 : ℤ) = 1 + 970 by norm_num, zpow_two_add, zpow_one]
  have hbelow : |x| < 2 ^ (971 + 53 : ℤ) ↔ |x| < 2 ^ 1024 := by
    rw [two_zpow_eq (show (971 + 53 : ℤ) = (1024 : ℕ) by norm_num)]
  constructor
  · intro hV
    by_contra hlt
    rw [not_le] at hlt
    rcases le_or_lt (ulpExp x) 970 with hk | hk
    · have : (roundedSignificand x : ℚ) * 2 ^ ulpExp x ≤ 2 ^ 53 * 2 ^ (970 : ℤ) :=
        mul_le_mul hM (zpow_le_zpow_right₀ (by norm_num) hk) (zpow_two_pos _).le (by norm_num)
      linarith
    · have hx : x ≠ 0 := by rintro rfl; rw [ulpExp_zero] at hk; omega
      have h971 : ulpExp x = 971 :=
        le_antisymm (ulpExp_le hx (by norm_num) (hbelow.2 (by linarith))) hk
      have herr := abs_roundedSignificand_sub x
      rw [h971, abs_le, show (971 - 1 : ℤ) = 970 by norm_num] at herr
      rw [h971, e971] at hV
      rw [e971] at herr
      linarith
  · intro hT
    have hx : x ≠ 0 := by rintro rfl; rw [abs_zero, e1024, e970] at hT; linarith
    rcases le_or_lt (2 ^ 1024) |x| with hbig | hbig
    · have hk : 972 ≤ ulpExp x :=
        le_ulpExp (by rwa [two_zpow_eq (show (972 + 52 : ℤ) = (1024 : ℕ) by norm_num)])
      have h52 : (2 : ℚ) ^ 52 ≤ roundedSignificand x := by
        exact_mod_cast le_roundedSignificand hx (by omega)
      calc (2 : ℚ) ^ 1024 = 2 ^ 52 * 2 ^ (972 : ℤ) := two_pow_eq_mul 52 972 1024 (by norm_num)
        _ ≤ roundedSignificand x * 2 ^ ulpExp x :=
          mul_le_mul h52 (zpow_le_zpow_right₀ (by norm_num) hk) (by positivity) hM0
    · have h971 : ulpExp x = 971 :=
        le_antisymm (ulpExp_le hx (by norm_num) (hbelow.2 hbig))
          (le_ulpExp (by
            rw [two_zpow_eq (show (971 + 52 : ℤ) = (1023 : ℕ) by norm_num),
              two_pow_eq_mul 53 970 1023 (by norm_num)]
            rw [e1024, e970] at hT; linarith))
      have herr := abs_roundHalfEven_sub_le (|x| / 2 ^ ulpExp x)
      have hy : 2 ^ 53 - 1 / 2 ≤ |x| / 2 ^ ulpExp x := by
        rw [h971, le_div_iff₀ (zpow_two_pos _), e971]; linarith
      have hge : 2 ^ 53 - 1 ≤ roundedSignificand x := by
        have : (2 ^ 53 - 1 - 1 : ℚ) < roundedSignificand x := by
          unfold roundedSignificand; linarith only [(abs_le.1 herr).1, hy]
        have : (2 ^ 53 - 1 - 1 : ℤ) < roundedSignificand x := by exact_mod_cast this
        omega
      have hne : roundedSignificand x ≠ 2 ^ 53 - 1 := by
        intro heq
        have htie :
            1 / 2 ≤ |(roundHalfEven (|x| / 2 ^ ulpExp x) : ℚ) - |x| / 2 ^ ulpExp x| := by
          rw [← roundedSignificand, heq, abs_sub_comm,
            abs_of_nonneg (by push_cast; linarith only [hy])]
          push_cast; linarith only [hy]
        have := roundHalfEven_even_of_tie _ htie
        rw [← roundedSignificand, heq] at this
        omega
      have h53 : (2 : ℚ) ^ 53 ≤ roundedSignificand x := by
        exact_mod_cast (show (2 : ℤ) ^ 53 ≤ roundedSignificand x by omega)
      rw [h971]
      calc (2 : ℚ) ^ 1024 = 2 ^ 53 * 2 ^ (971 : ℤ) := two_pow_eq_mul 53 971 1024 (by norm_num)
        _ ≤ roundedSignificand x * 2 ^ (971 : ℤ) :=
          mul_le_mul_of_nonneg_right h53 (zpow_two_pos _).le

theorem isDouble_roundedValue (h : (roundedSignificand x : ℚ) * 2 ^ ulpExp x < 2 ^ 1024) :
    IsDouble ((roundedSignificand x : ℚ) * 2 ^ ulpExp x) := by
  have hM := roundedSignificand_le x
  have hM0 := roundedSignificand_nonneg x
  have hk := ulpExp_ge x
  rcases lt_or_eq_of_le hM with hlt | heq
  · refine ⟨roundedSignificand x, ulpExp x, by rwa [abs_of_nonneg hM0], hk, ?_, rfl⟩
    by_contra hk'
    have hx : x ≠ 0 := by rintro rfl; rw [ulpExp_zero] at hk'; omega
    have h52 : (2 : ℚ) ^ 52 ≤ roundedSignificand x := by
      exact_mod_cast le_roundedSignificand hx (by omega)
    have : (2 : ℚ) ^ 52 * 2 ^ (972 : ℤ) ≤ roundedSignificand x * 2 ^ ulpExp x :=
      mul_le_mul h52 (zpow_le_zpow_right₀ (by norm_num) (by omega)) (zpow_two_pos _).le
        (by exact_mod_cast hM0)
    rw [← two_pow_eq_mul 52 972 1024 (by norm_num)] at this
    linarith
  · refine ⟨2 ^ 52, ulpExp x + 1, by norm_num, by omega, ?_, ?_⟩
    · by_contra hk'
      have : (2 : ℚ) ^ 53 * 2 ^ (971 : ℤ) ≤ roundedSignificand x * 2 ^ ulpExp x := by
        rw [heq]; push_cast
        exact mul_le_mul_of_nonneg_left (zpow_le_zpow_right₀ (by norm_num) (by omega))
          (by positivity)
      rw [← two_pow_eq_mul 53 971 1024 (by norm_num)] at this
      linarith
    · rw [heq, zpow_two_add, zpow_one]; push_cast; ring

theorem ulpExp_mul_zpow {M k : ℤ} (h0 : 0 < M) (h53 : M < 2 ^ 53) (hk : -1074 ≤ k)
    (h52 : -1074 < k → 2 ^ 52 ≤ M) : ulpExp ((M : ℚ) * 2 ^ k) = k := by
  have hpos : (0 : ℚ) < M * 2 ^ k := mul_pos (by exact_mod_cast h0) (zpow_two_pos k)
  refine le_antisymm (ulpExp_le hpos.ne' hk ?_) ?_
  · rw [abs_of_pos hpos, add_comm, zpow_two_add, zpow_ofNat]
    exact mul_lt_mul_of_pos_right (show (M : ℚ) < 2 ^ 53 by exact_mod_cast h53) (zpow_two_pos k)
  · rcases eq_or_lt_of_le hk with h | h
    · rw [← h]; exact ulpExp_ge _
    · refine le_ulpExp ?_
      rw [abs_of_pos hpos, zpow_two_add, mul_comm ((2 : ℚ) ^ k), zpow_ofNat]
      exact mul_le_mul_of_nonneg_right (show (2 : ℚ) ^ 52 ≤ M by exact_mod_cast h52 h)
        (zpow_two_pos k).le

theorem evenSignificand_nearestValue (hx : x ≠ 0) (he : roundedSignificand x % 2 = 0) :
    EvenSignificand (nearestValue x) := by
  have hM := roundedSignificand_le x
  have hM0 := roundedSignificand_nonneg x
  rw [EvenSignificand, ← ulpExp_abs, abs_nearestValue]
  rcases eq_or_lt_of_le hM0 with h0 | h0
  · exact ⟨0, rfl, by rw [← h0]; simp⟩
  rcases lt_or_eq_of_le hM with hlt | heq
  · exact ⟨_, he, by rw [ulpExp_mul_zpow h0 hlt (ulpExp_ge x) (le_roundedSignificand hx)]⟩
  · have hv : (roundedSignificand x : ℚ) * 2 ^ ulpExp x =
        ((2 ^ 52 : ℤ) : ℚ) * 2 ^ (ulpExp x + 1) := by
      rw [heq, zpow_two_add, zpow_one]; push_cast; ring
    rw [hv, ulpExp_mul_zpow (by norm_num) (by norm_num) (by linarith [ulpExp_ge x]) fun _ => le_rfl]
    exact ⟨2 ^ 52, by norm_num, rfl⟩

theorem nearest_abs (hx : x ≠ 0) {d : ℚ} (hd : IsDouble d) :
    |(roundedSignificand x : ℚ) * 2 ^ ulpExp x - (|x|)| ≤ |d - (|x|)| := by
  rcases grid_or_farther x hx hd with ⟨n, rfl⟩ | hlt
  · exact abs_roundedSignificand_sub_le x n
  · exact hlt.le

theorem roundDouble_roundsTo : RoundsTo x (roundDouble x) where
  overflow h := by
    rw [roundDouble, if_pos (by rwa [abs_nearestValue, two_pow_le_roundedValue_iff])]
  finite h := by
    have hlt : ¬ (2 : ℚ) ^ 1024 ≤ |nearestValue x| := by
      rwa [abs_nearestValue, two_pow_le_roundedValue_iff, not_le]
    refine ⟨nearestValue x, by rw [roundDouble, if_neg hlt], ?_, fun d hd => ?_,
      fun d hd htie hne => ?_⟩
    · have hV := isDouble_roundedValue x (by rw [← abs_nearestValue]; exact not_le.1 hlt)
      unfold nearestValue
      split_ifs
      · exact isDouble_neg hV
      · exact hV
    · rw [abs_nearestValue_sub]
      by_cases hx : x = 0
      · subst hx; simp [roundedSignificand_zero]
      · exact (nearest_abs x hx (isDouble_abs hd)).trans (abs_abs_sub_abs_le_abs_sub d x)
    · have hx : x ≠ 0 := by
        rintro rfl
        simp [nearestValue, roundedSignificand_zero] at htie hne
        exact hne htie
      have hmag : |(|d|) - (|x|)| = |(roundedSignificand x : ℚ) * 2 ^ ulpExp x - (|x|)| :=
        le_antisymm
          (by rw [← abs_nearestValue_sub, ← htie]; exact abs_abs_sub_abs_le_abs_sub d x)
          (nearest_abs x hx (isDouble_abs hd))
      refine evenSignificand_nearestValue x hx ?_
      by_cases hdv : |d| = roundedSignificand x * 2 ^ ulpExp x
      · rw [← abs_nearestValue] at hdv
        rcases abs_eq_abs.1 hdv with h | h
        · exact absurd h hne
        · rw [h] at htie
          rcases abs_eq_abs.1 htie with h' | h'
          · exact absurd (by rw [h]; linarith : d = nearestValue x) hne
          · exact absurd (by linarith : x = 0) hx
      · rcases grid_or_farther x hx (isDouble_abs hd) with ⟨n, hn⟩ | hlt
        · have hnM : n ≠ roundedSignificand x := fun h => hdv (by rw [hn, h])
          rw [hn, abs_mul_zpow_sub, abs_mul_zpow_sub] at hmag
          have h' := mul_left_cancel₀ (zpow_two_pos _).ne' hmag
          rw [roundedSignificand] at hnM h' ⊢
          exact roundHalfEven_even_of_tie _ (h' ▸ half_le_abs_sub_of_ne _ hnM)
        · exact absurd hmag (ne_of_gt hlt)

end Nearest

section Corollaries
variable {x : ℚ}

theorem roundDouble_of_abs_lt (h : |x| < 2 ^ 1024 - 2 ^ 970) :
    roundDouble x = .finite (nearestValue x) := by
  rw [roundDouble, if_neg]
  rwa [abs_nearestValue, two_pow_le_roundedValue_iff, not_le]

theorem roundDouble_of_isDouble {d : ℚ} (hd : IsDouble d) : roundDouble d = .finite d := by
  have hlt : |d| < 2 ^ 1024 - 2 ^ 970 := by
    have := abs_le_of_isDouble hd
    have : (2 : ℚ) ^ 970 < 2 ^ 971 := pow_lt_pow_right₀ (by norm_num) (by norm_num)
    linarith
  obtain ⟨v, hv, -, hnear, -⟩ := (roundDouble_roundsTo d).finite hlt
  have := hnear d hd
  rw [sub_self, abs_zero, abs_nonpos_iff, sub_eq_zero] at this
  rw [hv, this]

theorem roundDouble_zero : roundDouble 0 = .finite 0 :=
  roundDouble_of_isDouble ⟨0, 0, by norm_num, by norm_num, by norm_num, by simp⟩

theorem isDouble_intCast {n : ℤ} (h : |n| ≤ 2 ^ 53) : IsDouble n := by
  rcases lt_or_eq_of_le h with h | h
  · exact ⟨n, 0, h, by norm_num, by norm_num, by simp⟩
  · rcases (abs_eq (by norm_num)).1 h with rfl | rfl
    · exact ⟨2 ^ 52, 1, by norm_num, by norm_num, by norm_num, by norm_num⟩
    · exact ⟨-2 ^ 52, 1, by norm_num, by norm_num, by norm_num, by norm_num⟩

theorem abs_nearestValue_sub_le (x : ℚ) : |nearestValue x - x| ≤ 2 ^ (ulpExp x - 1) := by
  rw [abs_nearestValue_sub]
  exact abs_roundedSignificand_sub x

theorem abs_nearestValue_sub_le_of_abs_lt {n : ℤ} (hn : -1074 ≤ n) (h : |x| < 2 ^ (n + 53)) :
    |nearestValue x - x| ≤ 2 ^ (n - 1) := by
  rcases eq_or_ne x 0 with rfl | hx
  · simp [nearestValue, roundedSignificand_zero, (zpow_two_pos _).le]
  · exact (abs_nearestValue_sub_le x).trans
      (zpow_le_zpow_right₀ one_le_two (by have := ulpExp_le hx hn h; omega))

end Corollaries

theorem truncate_eq (x : ℚ) : truncate x = if 0 ≤ x then ⌊x⌋ else ⌈x⌉ := by
  unfold truncate
  split_ifs with hx
  · rw [Rat.floor_def, Int.tdiv_eq_ediv (Rat.num_nonneg.2 hx) (Int.natCast_nonneg _)]
  · have hn : 0 ≤ -x.num := by have := Rat.num_neg.2 (lt_of_not_le hx); omega
    have hfloor : ⌊-x⌋ = -x.num / x.den := Rat.floor_def
    rw [← neg_neg ⌈x⌉, ← Int.floor_neg, hfloor,
      ← Int.tdiv_eq_ediv hn (Int.natCast_nonneg _), Int.neg_tdiv, neg_neg]

theorem abs_sub_truncate_lt (x : ℚ) : |x - truncate x| < 1 := by
  rw [truncate_eq]
  split_ifs with hx
  · rw [abs_of_nonneg (sub_nonneg.2 (Int.floor_le x))]
    linarith [Int.lt_floor_add_one x]
  · rw [abs_of_nonpos (sub_nonpos.2 (Int.le_ceil x))]
    linarith [Int.ceil_lt_add_one x]

section SeventeenDigits

end SeventeenDigits

end Coredis
