import TenantQuery.Proofs.Decimal.Rounding
/-!
Integers scaled by a power of ten.

The integer and the power are rounded before they are multiplied, and then their product is.  Each
rounding moves an integer by at most one part in `2 ^ 53`, and it does not move those that have 53
binary digits in front of zeros.
-/

namespace TenantQuery.Binary64

variable {n m bits : Nat} {negative : Bool} {x y : Binary64}

section Fractions

theorem divNearest_mul_right (num den : Nat) {common : Nat} (h : 0 < common) :
    divNearest (num * common) (den * common) = divNearest num den := by
  have hless : 2 * (num % den * common) < den * common ↔ 2 * (num % den) < den := by
    rw [← Nat.mul_assoc]
    exact Nat.mul_lt_mul_right h
  have hequal : 2 * (num % den * common) = den * common ↔ 2 * (num % den) = den := by
    rw [← Nat.mul_assoc]
    exact Nat.mul_left_inj (Nat.ne_of_gt h)
  simp only [divNearest, Nat.mul_div_mul_right num den h, Nat.mul_mod_mul_right, hless,
    Bool.or_eq_true, decide_eq_true_eq, Bool.and_eq_true, beq_iff_eq, hequal]

theorem inUnits_mul_right (num den common : Nat) (exponent : Int) :
    inUnits (num * common) (den * common) exponent =
      ((inUnits num den exponent).1 * common, (inUnits num den exponent).2 * common) := by
  unfold inUnits
  split
  · simp only [Nat.mul_right_comm]
  · simp only [Nat.mul_right_comm]

theorem inUnits_neg_natCast (num den bits : Nat) :
    inUnits num den (-(bits : Int)) = (num * Nat.pow 2 bits, den) := by
  unfold inUnits
  split
  · obtain rfl : bits = 0 := by omega
    simp
  · simp

theorem log2_mul_pow (h : n ≠ 0) (bits : Nat) :
    Nat.log2 (n * Nat.pow 2 bits) = Nat.log2 n + bits := by
  have hpos : 0 < Nat.pow 2 bits := Nat.pow_pos (by decide)
  rw [Nat.log2_eq_iff (Nat.mul_ne_zero h (Nat.ne_of_gt hpos)), Nat.add_right_comm, Nat.pow_add,
    Nat.pow_add]
  exact ⟨Nat.mul_le_mul_right _ (Nat.log2_self_le h),
    (Nat.mul_lt_mul_right hpos).mpr Nat.lt_log2_self⟩

theorem unitExponent_mul_pow (h : n ≠ 0) (bits : Nat) :
    unitExponent (n * Nat.pow 2 bits) (1 * Nat.pow 2 bits) = unitExponent n 1 := by
  have hpos : 0 < Nat.pow 2 bits := Nat.pow_pos (by decide)
  have hestimate : (Nat.log2 (n * Nat.pow 2 bits) : Int) - Nat.log2 (1 * Nat.pow 2 bits) =
      Nat.log2 n - Nat.log2 1 := by
    rw [log2_mul_pow h, log2_mul_pow (by decide)]
    omega
  simp only [unitExponent, hestimate, inUnits_mul_right, Nat.mul_le_mul_right_iff hpos]

/-- A fraction with a power of two in both parts is rounded like the one without. -/
theorem nearest?_mul_pow (h : n ≠ 0) (bits : Nat) :
    nearest? (n * Nat.pow 2 bits) (1 * Nat.pow 2 bits) = nearest? n 1 := by
  have hpos : 0 < Nat.pow 2 bits := Nat.pow_pos (by decide)
  simp only [nearest?, unitExponent_mul_pow h, inUnits_mul_right, divNearest_mul_right _ _ hpos]

end Fractions

section Rounded

/-- An integer of 53 binary digits in front of zeros is not moved. -/
theorem nearestInteger_mul_pow {mantissa : Nat} (hmost : mantissa < Nat.pow 2 53) (bits : Nat) :
    nearestInteger (mantissa * Nat.pow 2 bits) = mantissa * Nat.pow 2 bits := by
  by_cases hzero : mantissa = 0
  · subst hzero
    rw [Nat.zero_mul]
    decide
  · have hlog : Nat.log2 mantissa < 53 := (Nat.log2_lt hzero).mpr hmost
    apply nearestInteger_of_dvd
    rw [lastPlace, log2_mul_pow hzero]
    exact Nat.dvd_trans (Nat.pow_dvd_pow 2 (by omega)) (Nat.dvd_mul_left _ _)

theorem pow_ten_eq (places : Nat) : Nat.pow 10 places = Nat.pow 5 places * Nat.pow 2 places :=
  Nat.mul_pow 5 2 places

theorem nearestInteger_pow_ten {places : Nat} (h : places ≤ 22) :
    nearestInteger (Nat.pow 10 places) = Nat.pow 10 places := by
  rw [pow_ten_eq]
  apply nearestInteger_mul_pow
  exact Nat.lt_of_le_of_lt (Nat.pow_le_pow_right (by decide : 0 < 5) h) (by decide)

/-- Rounding moves an integer by at most one part in `2 ^ 53`. -/
theorem nearestInteger_near (n : Nat) :
    9007199254740991 * n ≤ 9007199254740992 * nearestInteger n ∧
      9007199254740992 * nearestInteger n ≤ 9007199254740993 * n := by
  by_cases hsmall : Nat.log2 n ≤ 52
  · rw [nearestInteger_of_log2 hsmall]
    omega
  · have hne : n ≠ 0 := by
      rintro rfl
      exact hsmall (by decide)
    have hplace : Nat.pow 2 (52 + 0) * lastPlace n ≤ n := by
      rw [two_pow_mul_lastPlace (by omega) 0]
      exact Nat.log2_self_le hne
    have hpow : Nat.pow 2 (52 + 0) = 4503599627370496 := rfl
    have hnear : divNearest n (lastPlace n) = divNearest n (lastPlace n) := rfl
    obtain ⟨hlow, hhigh, -⟩ := (divNearest_eq_iff (lastPlace_pos n)).mp hnear
    rw [hpow] at hplace
    rw [nearestInteger]
    omega

theorem nearestInteger_ne_zero (h : n ≠ 0) : nearestInteger n ≠ 0 := by
  have hnear := (nearestInteger_near n).1
  omega

theorem nearestInteger_nearestInteger (n : Nat) :
    nearestInteger (nearestInteger n) = nearestInteger n := by
  by_cases hsmall : Nat.log2 n ≤ 52
  · rw [nearestInteger_of_log2 hsmall, nearestInteger_of_log2 hsmall]
  · have hlarge : 52 ≤ Nat.log2 n := by omega
    obtain ⟨mantissa, exponent, hvalue, -, hmost, -⟩ := nearest?_one hlarge
    rw [← hvalue]
    exact nearestInteger_mul_pow hmost exponent

/-- Four roundings and what is cut off behind the leading digits together move an integer by less
than one part in `10 ^ 15`. -/
theorem near_of_rounded_product {written leading scale : Nat}
    (hleading : 1152921504606846976 ≤ leading) (hleast : leading * scale ≤ n)
    (hmost : n < (leading + 1) * scale)
    (h : nearestInteger written = nearestInteger (nearestInteger leading * nearestInteger scale)) :
    1000000000000000 * written ≤ 1000000000000001 * n ∧
      999999999999999 * n ≤ 1000000000000000 * written := by
  obtain ⟨hfrontLow, hfrontHigh⟩ := nearestInteger_near leading
  obtain ⟨hscaleLow, hscaleHigh⟩ := nearestInteger_near scale
  -- The bounds of the factors are multiplied; from there on everything is linear.
  have hlow := Nat.mul_le_mul hfrontLow hscaleLow
  have hhigh := Nat.mul_le_mul hfrontHigh hscaleHigh
  rw [Nat.mul_mul_mul_comm, Nat.mul_mul_mul_comm 9007199254740992] at hlow
  rw [Nat.mul_mul_mul_comm, Nat.mul_mul_mul_comm 9007199254740993] at hhigh
  have hrest : 1152921504606846976 * scale ≤ leading * scale := Nat.mul_le_mul_right scale hleading
  rw [Nat.succ_mul] at hmost
  obtain ⟨hproductLow, hproductHigh⟩ :=
    nearestInteger_near (nearestInteger leading * nearestInteger scale)
  obtain ⟨hwrittenLow, hwrittenHigh⟩ := nearestInteger_near written
  rw [h] at hwrittenLow hwrittenHigh
  omega

end Rounded

/-- The number is the integer.  Its exponent is -52 or more, so that it may have 53 binary digits
behind the point. -/
def Denotes (x : Binary64) (n : Nat) : Prop :=
  ∃ places : Nat, x.exponent = (places : Int) - 52 ∧
    x.mantissa * Nat.pow 2 places = n * Nat.pow 2 52

theorem Denotes.mantissa_ne_zero (h : x.Denotes n) (hne : n ≠ 0) : x.mantissa ≠ 0 := by
  obtain ⟨places, -, hvalue⟩ := h
  intro hzero
  rw [hzero, Nat.zero_mul] at hvalue
  exact Nat.mul_ne_zero hne (by decide) hvalue.symm

/-- A small integer has 53 binary digits with the places behind the point. -/
theorem nearest?_small (hne : n ≠ 0) (hsmall : Nat.log2 n ≤ 52) :
    nearest? n 1 = some (n * Nat.pow 2 (52 - Nat.log2 n), (Nat.log2 n : Int) - 52) := by
  have hexponent : (Nat.log2 n : Int) - 52 = -((52 - Nat.log2 n : Nat) : Int) := by omega
  have hmost : n * Nat.pow 2 (52 - Nat.log2 n) < Nat.pow 2 53 := by
    calc n * Nat.pow 2 (52 - Nat.log2 n)
        < Nat.pow 2 (Nat.log2 n + 1) * Nat.pow 2 (52 - Nat.log2 n) :=
          (Nat.mul_lt_mul_right (Nat.pow_pos (by decide))).mpr Nat.lt_log2_self
      _ = Nat.pow 2 53 := by
          rw [Nat.pow_eq, Nat.pow_eq, Nat.pow_eq, ← Nat.pow_add]
          congr 1
          omega
  have hwhole : ∀ whole, divNearest whole 1 = whole := by
    intro whole
    apply (divNearest_eq_iff (by decide)).mpr
    omega
  have hrange : ¬ maxExponent < -((52 - Nat.log2 n : Nat) : Int) := by
    unfold maxExponent
    omega
  simp only [nearest?, unitExponent_one hne, hexponent, inUnits_neg_natCast, hwhole,
    if_neg (Nat.ne_of_lt hmost), if_neg hrange]

/-- A positive integer is rounded to a number that is an integer. -/
theorem denotes_of_ofNat? (hne : n ≠ 0) (h : ofNat? negative n = some x) :
    x.negative = negative ∧ x.Denotes (nearestInteger n) := by
  by_cases hsmall : Nat.log2 n ≤ 52
  · rw [ofNat?_eq negative hne, nearest?_small hne hsmall] at h
    cases h
    refine ⟨rfl, Nat.log2 n, rfl, ?_⟩
    have hdigits : Nat.pow 2 (52 - Nat.log2 n) * Nat.pow 2 (Nat.log2 n) = Nat.pow 2 52 := by
      rw [Nat.pow_eq, Nat.pow_eq, Nat.pow_eq, ← Nat.pow_add, Nat.sub_add_cancel hsmall]
    rw [nearestInteger_of_log2 hsmall, Nat.mul_assoc, hdigits]
  · obtain ⟨mantissa, exponent, rfl, hvalue, -⟩ := exists_of_ofNat? (by omega) h
    refine ⟨rfl, exponent + 52, by simp, ?_⟩
    have hplaces : Nat.pow 2 (exponent + 52) = Nat.pow 2 exponent * Nat.pow 2 52 :=
      Nat.pow_add 2 exponent 52
    rw [hplaces, ← hvalue, Nat.mul_assoc]

/-- The product of integers is rounded like an integer. -/
theorem Denotes.times?_eq (hx : x.Denotes m) (hy : y.Denotes n) (hne : m * n ≠ 0) :
    x.times? y = ofNat? (x.negative != y.negative) (m * n) := by
  have hmantissa : x.mantissa * y.mantissa ≠ 0 := by
    obtain ⟨hm, hn⟩ := Nat.mul_ne_zero_iff.mp hne
    exact Nat.mul_ne_zero (hx.mantissa_ne_zero hm) (hy.mantissa_ne_zero hn)
  obtain ⟨first, hfirst, hm⟩ := hx
  obtain ⟨second, hsecond, hn⟩ := hy
  have hproduct : x.mantissa * y.mantissa * Nat.pow 2 (first + second) =
      m * n * Nat.pow 2 104 := by
    calc x.mantissa * y.mantissa * Nat.pow 2 (first + second)
        = (x.mantissa * Nat.pow 2 first) * (y.mantissa * Nat.pow 2 second) := by
          rw [Nat.mul_mul_mul_comm]
          exact congrArg _ (Nat.pow_add 2 first second)
      _ = m * n * Nat.pow 2 104 := by
          rw [hm, hn, Nat.mul_mul_mul_comm]
  by_cases hwhole : 104 ≤ first + second
  · -- The product of the mantissas is a part of the integer.
    obtain ⟨more, hmore⟩ := Nat.exists_eq_add_of_le hwhole
    have hexponent : -(x.exponent + y.exponent) = -(more : Int) := by omega
    have hvalue : x.mantissa * y.mantissa * Nat.pow 2 more = m * n := by
      have hplaces : Nat.pow 2 (first + second) = Nat.pow 2 more * Nat.pow 2 104 := by
        rw [hmore, Nat.add_comm]
        exact Nat.pow_add 2 more 104
      rw [hplaces, ← Nat.mul_assoc] at hproduct
      exact Nat.eq_of_mul_eq_mul_right (by decide) hproduct
    simp only [times?, hexponent, inUnits_neg_natCast, hvalue, ofNat?]
  · -- It has binary zeros at its end, for the places behind the point.
    obtain ⟨more, hmore⟩ := Nat.exists_eq_add_of_le (Nat.le_of_not_le hwhole)
    have hexponent : -(x.exponent + y.exponent) = (more : Int) := by omega
    have hvalue : x.mantissa * y.mantissa = m * n * Nat.pow 2 more := by
      have hplaces : Nat.pow 2 104 = Nat.pow 2 more * Nat.pow 2 (first + second) := by
        rw [hmore, Nat.add_comm (first + second)]
        exact Nat.pow_add 2 more (first + second)
      rw [hplaces, ← Nat.mul_assoc] at hproduct
      exact Nat.eq_of_mul_eq_mul_right (Nat.pow_pos (by decide)) hproduct
    rw [hvalue] at hmantissa
    simp only [times?, hexponent, inUnits_natCast, hvalue, ofNat?, ofRatio?, if_neg hmantissa,
      if_neg hne, nearest?_mul_pow hne]

/-- What an integer is read as that is scaled by a power of ten: the integer and the power are
rounded, and then their product. -/
theorem ofNat?_of_ofDecimal? {significand exponent : Nat} (hne : significand ≠ 0)
    (h : ofDecimal? negative significand exponent = some x) :
    ofNat? negative (nearestInteger significand * nearestInteger (Nat.pow 10 exponent)) =
      some x := by
  obtain ⟨unscaled, hunscaled, h⟩ := Option.bind_eq_some_iff.mp h
  obtain ⟨hsign, hvalue⟩ := denotes_of_ofNat? hne hunscaled
  have hrounded := nearestInteger_ne_zero hne
  rw [scale?, Int.natAbs_natCast] at h
  split at h
  · obtain ⟨power, hpower, h⟩ := Option.bind_eq_some_iff.mp h
    have hten : Nat.pow 10 exponent ≠ 0 := Nat.ne_of_gt (Nat.pow_pos (by decide))
    obtain ⟨hplain, hpowerValue⟩ := denotes_of_ofNat? hten hpower
    rw [if_pos (Int.natCast_nonneg exponent), hvalue.times?_eq hpowerValue
      (Nat.mul_ne_zero hrounded (nearestInteger_ne_zero hten)), hsign, hplain, Bool.bne_false] at h
    exact h
  · rw [if_neg (hvalue.mantissa_ne_zero hrounded), if_pos (Int.natCast_nonneg exponent)] at h
    cases h

end TenantQuery.Binary64
