import Coredis.Response.Callbacks

/- `DateTimeCallback` with `unit="milliseconds"`: `response / 1000.0` rounds to a double, and
   `fromtimestamp` splits the double with `modf` and rounds the fraction to microseconds.
   Within `2 ^ 33` seconds of the epoch (the years 1697 to 2242) the roundings cancel and the
   datetime is the instant the milliseconds name. -/
namespace Coredis

theorem splitMicros_total (d : ℚ) :
    (splitMicros d).1 * 1000000 + (splitMicros d).2 =
      truncate d * 1000000 + roundHalfEven (nearestValue ((d - truncate d) * 1000000)) := by
  simp only [splitMicros]
  split_ifs <;> ring

theorem abs_splitMicros_fst_sub_lt (d : ℚ) : |((splitMicros d).1 : ℚ) - d| < 2 := by
  have := abs_sub_lt_iff.1 (abs_sub_truncate_lt d)
  simp only [splitMicros]
  split_ifs <;> push_cast <;> exact abs_sub_lt_iff.2 ⟨by linarith, by linarith⟩

/-- A double within `2 ^ -21` of `n / 1000` splits into exactly `n` milliseconds: the two
    roundings of the fraction stay below half a microsecond. -/
theorem splitMicros_of_near {n : ℤ} {d : ℚ} (hd : |d - n / 1000| ≤ 2 ^ (-21 : ℤ)) :
    (splitMicros d).1 * 1000000 + (splitMicros d).2 = 1000 * n := by
  set f := (d - truncate d) * 1000000
  have hf : |f| < 2 ^ (-33 + 53 : ℤ) := by
    rw [abs_mul, abs_of_pos (by norm_num : (0 : ℚ) < 1000000)]
    have := abs_sub_truncate_lt d
    norm_num
    linarith
  have hy : |nearestValue f - f| ≤ 2 ^ (-33 - 1 : ℤ) :=
    abs_nearestValue_sub_le_of_abs_lt (by norm_num) hf
  have key : |((1000 * n - truncate d * 1000000 : ℤ) : ℚ) - nearestValue f| < 1 / 2 := calc
    _ = |1000000 * ((n : ℚ) / 1000 - d) + (f - nearestValue f)| := by congr 1; push_cast; ring
    _ ≤ 1000000 * |d - n / 1000| + |nearestValue f - f| := by
      refine (abs_add _ _).trans_eq ?_
      rw [abs_mul, abs_of_pos (by norm_num : (0 : ℚ) < 1000000), abs_sub_comm ((n : ℚ) / 1000),
        abs_sub_comm f]
    _ ≤ 1000000 * 2 ^ (-21 : ℤ) + 2 ^ (-33 - 1 : ℤ) :=
      add_le_add (mul_le_mul_of_nonneg_left hd (by norm_num)) hy
    _ < 1 / 2 := by norm_num
  rw [splitMicros_total, roundHalfEven_eq_of_abs_lt _ key]
  ring

theorem timetDatetime_of_within {t : Int} (us : Int) (hlo : yearStart 1 + 86400 ≤ t)
    (hhi : t < yearStart 10000) : timetDatetime t us = .ok (.datetime (t * 1000000 + us)) := by
  have h1 : yearStart (1900 - 2 ^ 31) ≤ yearStart 1 := by decide
  have h2 : yearStart 10000 ≤ yearStart (1900 + 2 ^ 31) := by decide
  have h3 : -2 ^ 63 ≤ yearStart 1 ∧ yearStart 10000 ≤ 2 ^ 63 := by decide
  unfold timetDatetime localDatetime
  rw [if_neg (by omega), if_neg (by omega), if_neg (by omega), if_neg (by omega)]

theorem timestampOf_milliseconds {n : ℤ} (hn : |n| ≤ 2 ^ 53) :
    timestampOf (.int n) [("unit", .str "milliseconds")] =
      .ok (.float (.finite (nearestValue ((n : ℚ) / 1000)))) := by
  have hq : |(n : ℚ) / 1000| < 2 ^ 1024 - 2 ^ 970 := by
    have : |(n : ℚ)| ≤ 2 ^ 53 := by exact_mod_cast hn
    have := one_le_zpow₀ (one_le_two : (1 : ℚ) ≤ 2) (show (0 : ℤ) ≤ 970 by norm_num)
    rw [abs_div, abs_of_pos (by norm_num : (0 : ℚ) < 1000), div_lt_iff₀ (by norm_num),
      two_pow_eq_mul 54 970 1024 (by norm_num), ← two_zpow_eq (a := 970) (n := 970) (by norm_num)]
    linarith
  show (fun f => PyVal.float (divFloat f 1000)) <$> intToFloat n = _
  rw [intToFloat_of_abs_le hn]
  show Except.ok (PyVal.float (roundDouble _)) = _
  rw [roundDouble_of_abs_lt hq]

theorem fromtimestamp_of_near {n : ℤ} {d : ℚ} (hq : |(n : ℚ) / 1000| < 2 ^ 33)
    (hd : |d - n / 1000| ≤ 2 ^ (-21 : ℤ)) :
    fromtimestamp (.float (.finite d)) = .ok (.datetime (1000 * n)) := by
  have hys : yearStart 1 + 86400 = -62135510400 ∧ yearStart 10000 = 253402300800 := by decide
  obtain ⟨ht1, ht2⟩ := abs_sub_lt_iff.1 (abs_splitMicros_fst_sub_lt d)
  obtain ⟨hd1, hd2⟩ := abs_sub_le_iff.1 hd
  obtain ⟨hq1, hq2⟩ := abs_lt.1 hq
  norm_num at hd1 hd2 hq1 hq2
  have hlo : yearStart 1 + 86400 ≤ (splitMicros d).1 := by
    rw [hys.1]; exact_mod_cast (by linarith : (-62135510400 : ℚ) ≤ (splitMicros d).1)
  have hhi : (splitMicros d).1 < yearStart 10000 := by
    rw [hys.2]; exact_mod_cast (by linarith : ((splitMicros d).1 : ℚ) < 253402300800)
  show timetDatetime _ _ = _
  rw [timetDatetime_of_within _ hlo hhi, splitMicros_of_near hd]

theorem dateTimeCallback_milliseconds (n : Int) (hn : |n| < 1000 * 2 ^ 33) (version : Int) :
    dateTimeCallback.call (.int n) version [("unit", .str "milliseconds")] =
      .ok (.datetime (1000 * n)) := by
  have hq : |(n : ℚ) / 1000| < 2 ^ 33 := by
    rw [abs_div, abs_of_pos (by norm_num : (0 : ℚ) < 1000), div_lt_iff₀ (by norm_num), mul_comm]
    exact_mod_cast hn
  rw [dateTimeCallback_call, timestampOf_milliseconds (hn.le.trans (by norm_num))]
  have hd := abs_nearestValue_sub_le_of_abs_lt (n := -20) (by norm_num) (by norm_num; exact hq)
  exact fromtimestamp_of_near hq (by simpa using hd)

/-- `1700000000123` milliseconds is 2023-11-14 22:13:20.123 UTC. -/
theorem dateTimeCallback_milliseconds_of_recent_instant :
    |(1700000000123 : Int)| < 1000 * 2 ^ 33 ∧
    dateTimeCallback.call (.int 1700000000123) 3 [("unit", .str "milliseconds")] =
      .ok (.datetime (1000 * 1700000000123)) :=
  ⟨by norm_num, dateTimeCallback_milliseconds 1700000000123 (by norm_num) 3⟩

end Coredis
