import Mathlib.Tactic.Ring
import TenantQuery.Proofs.Decimal.Rounding
import TenantQuery.Decimal.Shortest
/-!
The integer that stands for a large rounded integer, written with the fewest digits.

An integer in the rounding interval of a number is rounded to this number again.  From `2 ^ 54` on
the interval has a point on the grid of 17 digits, so the search for the shortest decimal ends with
one that is in the interval; and no two decimals of 15 digits are in one interval.
-/

namespace TenantQuery.Binary64

/-- The integer is between the ends of the interval. -/
def RoundingInterval.Holds (interval : RoundingInterval) (point : Nat) : Prop :=
  let unit := Nat.pow 2 interval.exponent.toNat
  if interval.closed then interval.low * unit ≤ point ∧ point ≤ interval.high * unit
  else interval.low * unit < point ∧ point < interval.high * unit

/-- The mantissa has all of its 53 binary digits. -/
structure Normal (mantissa : Nat) : Prop where
  least : Nat.pow 2 52 ≤ mantissa
  most : mantissa < Nat.pow 2 53

theorem Normal.scaled {mantissa : Nat} (h : Normal mantissa) (unit : Nat) :
    4503599627370496 * unit ≤ mantissa * unit ∧
      mantissa * unit + unit ≤ 9007199254740992 * unit := by
  refine ⟨Nat.mul_le_mul_right unit h.least, ?_⟩
  rw [← Nat.succ_mul]
  exact Nat.mul_le_mul_right unit (Nat.succ_le_of_lt h.most)

section Interval

variable {negative : Bool} {mantissa exponent point : Nat}

/-- How far the interval of a number reaches below it, in quarters of its last place. -/
def gapBelow (mantissa : Nat) : Nat :=
  if mantissa = Nat.pow 2 52 then 1 else 2

theorem gapBelow_cases (mantissa : Nat) :
    (mantissa = 4503599627370496 ∧ gapBelow mantissa = 1) ∨
      (mantissa ≠ 4503599627370496 ∧ gapBelow mantissa = 2) := by
  unfold gapBelow
  split
  · rename_i hpower
    exact .inl ⟨hpower, rfl⟩
  · rename_i hother
    exact .inr ⟨hother, rfl⟩

theorem gapBelow_mul_le (mantissa quarter : Nat) : gapBelow mantissa * quarter ≤ 2 * quarter := by
  have hcases := gapBelow_cases mantissa
  exact Nat.mul_le_mul_right quarter (by omega)

/-- The interval of a number with an integer last place, in quarters of this place. -/
theorem holds_roundingInterval_iff (hnormal : Normal mantissa) (hexponent : 2 ≤ exponent) :
    (roundingInterval ⟨negative, mantissa, exponent⟩).Holds point ↔
      let quarter := Nat.pow 2 (exponent - 2)
      4 * (mantissa * quarter) ≤ point + gapBelow mantissa * quarter ∧
      point ≤ 4 * (mantissa * quarter) + 2 * quarter ∧
      (mantissa % 2 = 0 ∨ 4 * (mantissa * quarter) < point + gapBelow mantissa * quarter ∧
        point < 4 * (mantissa * quarter) + 2 * quarter) := by
  have hplace : ((exponent : Int) - 2).toNat = exponent - 2 := by omega
  have hleast : ((exponent : Int) != minExponent) = true := by
    rw [bne_iff_ne, minExponent]
    omega
  have hlow : (4 * mantissa - gapBelow mantissa) * Nat.pow 2 (exponent - 2) +
      gapBelow mantissa * Nat.pow 2 (exponent - 2) = 4 * (mantissa * Nat.pow 2 (exponent - 2)) := by
    have hmantissa : 4503599627370496 ≤ mantissa := hnormal.least
    have hgap := gapBelow_cases mantissa
    rw [← Nat.add_mul, Nat.sub_add_cancel (by omega), Nat.mul_assoc]
  have hbelow : (if mantissa = Nat.pow 2 52 then 1 else 2) = gapBelow mantissa := rfl
  simp only [RoundingInterval.Holds, roundingInterval, hplace, hleast, Bool.and_true,
    decide_eq_true_eq, beq_iff_eq, hbelow, Nat.add_mul, Nat.mul_assoc]
  split <;> omega

theorem log2_eq_of_bounds {n bits : Nat} (hleast : Nat.pow 2 bits ≤ n)
    (hmost : n < Nat.pow 2 (bits + 1)) : Nat.log2 n = bits := by
  have hne : n ≠ 0 := by
    rintro rfl
    exact absurd hleast (Nat.not_le_of_lt (Nat.pow_pos (by decide)))
  exact (Nat.log2_eq_iff hne).mpr ⟨hleast, hmost⟩

/-- Powers of two around a last place, in quarters of it. -/
theorem exists_quarter (hexponent : 2 ≤ exponent) :
    ∃ quarter, 0 < quarter ∧ Nat.pow 2 (exponent - 2) = quarter ∧
      Nat.pow 2 (exponent - 1) = 2 * quarter ∧ Nat.pow 2 exponent = 4 * quarter ∧
      Nat.pow 2 (51 + exponent) = 9007199254740992 * quarter ∧
      Nat.pow 2 (52 + exponent) = 18014398509481984 * quarter ∧
      Nat.pow 2 (53 + exponent) = 36028797018963968 * quarter := by
  obtain ⟨more, rfl⟩ := Nat.exists_eq_add_of_le hexponent
  have hpow : ∀ bits total, total = bits + more →
      Nat.pow 2 total = Nat.pow 2 bits * Nat.pow 2 more := by
    rintro bits _ rfl
    exact Nat.pow_add 2 bits more
  exact ⟨Nat.pow 2 more, Nat.pow_pos (by decide), congrArg _ (by omega), hpow 1 _ (by omega),
    hpow 2 _ (by omega), hpow 53 _ (by omega), hpow 54 _ (by omega), hpow 55 _ (by omega)⟩

/-- An integer in the interval of a number is rounded to the number. -/
theorem nearestInteger_of_holds (hnormal : Normal mantissa) (hexponent : 2 ≤ exponent)
    (h : (roundingInterval ⟨negative, mantissa, exponent⟩).Holds point) :
    nearestInteger point = mantissa * Nat.pow 2 exponent := by
  obtain ⟨hlow, hhigh, htie⟩ := (holds_roundingInterval_iff hnormal hexponent).mp h
  obtain ⟨quarter, hpos, hquarter, hhalf, hplace, hbelow, hfirst, hnext⟩ := exists_quarter hexponent
  rw [hquarter] at hlow hhigh htie
  have hgap := gapBelow_cases mantissa
  obtain ⟨hleast, hmost⟩ := hnormal.scaled quarter
  have hvalue : mantissa * (4 * quarter) = 4 * (mantissa * quarter) := Nat.mul_left_comm _ _ _
  by_cases hbinade : Nat.pow 2 (52 + exponent) ≤ point
  · have hlog : Nat.log2 point = 52 + exponent := by
      apply log2_eq_of_bounds hbinade
      rw [show 52 + exponent + 1 = 53 + exponent by omega]
      omega
    have hlast : lastPlace point = 4 * quarter := by
      rw [lastPlace, hlog, Nat.add_sub_cancel_left, hplace]
    have hgapped := gapBelow_mul_le mantissa quarter
    rw [nearestInteger, hlast, hplace, (divNearest_eq_iff (by omega)).mpr ?_]
    omega
  · -- Below a power of two the places are half as wide, and the mantissa is carried.
    obtain ⟨hpower, hgap⟩ : mantissa = 4503599627370496 ∧ gapBelow mantissa = 1 := by
      rcases hgap with hpower | ⟨hother, hgap⟩
      · exact hpower
      · have hmore : 4503599627370497 * quarter ≤ mantissa * quarter :=
          Nat.mul_le_mul_right quarter (Nat.lt_of_le_of_ne hnormal.least (Ne.symm hother))
        rw [hgap] at hlow
        omega
    rw [hgap] at hlow
    subst hpower
    have hlog : Nat.log2 point = 51 + exponent := by
      apply log2_eq_of_bounds
      · omega
      · rw [show 51 + exponent + 1 = 52 + exponent by omega]
        omega
    have hlast : lastPlace point = 2 * quarter := by
      rw [lastPlace, hlog, ← hhalf]
      congr 1
      omega
    have hcarried : divNearest point (2 * quarter) = 9007199254740992 :=
      (divNearest_eq_iff (by omega)).mpr (by omega)
    rw [nearestInteger, hlast, hplace, hcarried]
    omega

/-- An integer that is rounded to a number is in the interval of the number. -/
theorem holds_of_nearestInteger {n : Nat} (hnormal : Normal mantissa) (hexponent : 2 ≤ exponent)
    (h : nearestInteger n = mantissa * Nat.pow 2 exponent) :
    (roundingInterval ⟨negative, mantissa, exponent⟩).Holds n := by
  obtain ⟨quarter, hpos, hquarter, hhalf, hplace, hbelow, hfirst, hnext⟩ := exists_quarter hexponent
  have hgap := gapBelow_cases mantissa
  obtain ⟨hleast, hmost⟩ := hnormal.scaled quarter
  have hvalue : mantissa * (4 * quarter) = 4 * (mantissa * quarter) := Nat.mul_left_comm _ _ _
  have hlarge : 52 ≤ Nat.log2 n := by
    by_contra hsmall
    have hbound : n < Nat.pow 2 52 := Nat.lt_of_lt_of_le Nat.lt_log2_self
      (Nat.pow_le_pow_right (by decide) (by omega))
    have hpow : Nat.pow 2 52 = 4503599627370496 := rfl
    rw [nearestInteger_of_log2 (by omega), hplace, hvalue] at h
    omega
  have hne : n ≠ 0 := by
    rintro rfl
    exact absurd hlarge (by decide)
  rw [holds_roundingInterval_iff hnormal hexponent, hquarter]
  obtain ⟨hself, hcarried⟩ := nearestInteger_mem_binade hne hlarge
  rw [h, hplace, hvalue] at hself hcarried
  have hbinade : Nat.log2 n = 52 + exponent ∨ Nat.log2 n = 51 + exponent := by
    have hupper : Nat.pow 2 (Nat.log2 n) < Nat.pow 2 (53 + exponent) := by omega
    have hlower : Nat.pow 2 (52 + exponent) ≤ Nat.pow 2 (Nat.log2 n + 1) := by omega
    have := (Nat.pow_lt_pow_iff_right (by decide : 1 < 2)).mp hupper
    have := (Nat.pow_le_pow_iff_right (by decide : 1 < 2)).mp hlower
    omega
  have hself := Nat.log2_self_le hne
  rcases hbinade with hlog | hlog
  · have hlast : lastPlace n = 4 * quarter := by
      rw [lastPlace, hlog, Nat.add_sub_cancel_left, hplace]
    have hrounded : divNearest n (4 * quarter) = mantissa := by
      rw [nearestInteger, hlast, hplace] at h
      exact Nat.eq_of_mul_eq_mul_right (by omega) h
    have hbounds := (divNearest_eq_iff (by omega)).mp hrounded
    rw [← Nat.pow_eq, hlog] at hself
    rcases hgap with ⟨rfl, hgap⟩ | ⟨-, hgap⟩
    · rw [hgap]
      omega
    · rw [hgap]
      omega
  · -- What is carried comes from below a power of two.
    have hlast : lastPlace n = 2 * quarter := by
      rw [lastPlace, hlog, ← hhalf]
      congr 1
      omega
    have hrounded : divNearest n (2 * quarter) = 2 * mantissa := by
      rw [nearestInteger, hlast, hplace] at h
      apply Nat.eq_of_mul_eq_mul_right (by omega : 0 < 2 * quarter)
      rw [h]
      ring
    have hbounds := (divNearest_eq_iff (by omega)).mp hrounded
    have hmore : n < Nat.pow 2 (52 + exponent) := by
      have hless : n < Nat.pow 2 (Nat.log2 n + 1) := Nat.lt_log2_self
      rwa [hlog, show 51 + exponent + 1 = 52 + exponent by omega] at hless
    have hscaled : 2 * mantissa * (2 * quarter) = 4 * (mantissa * quarter) := by ring
    rcases hgap with ⟨rfl, hgap⟩ | ⟨hother, hgap⟩
    · rw [hgap]
      omega
    · have hnext : 4503599627370497 * quarter ≤ mantissa * quarter :=
        Nat.mul_le_mul_right quarter (Nat.lt_of_le_of_ne hnormal.least (Ne.symm hother))
      omega

end Interval

section Grid

variable {interval : RoundingInterval} {leading : Int} {count scale : Nat} {decimal : Decimal}

/-- The search looks at the two neighbours of the number on a grid of integers. -/
theorem onGrid?_cases (hscale : leading - count + 1 = scale) (hexponent : 0 ≤ interval.exponent) :
    let below := interval.value * Nat.pow 2 interval.exponent.toNat / Nat.pow 10 scale
    (∃ digits, (digits = below ∨ digits = below + 1) ∧ interval.Holds (digits * Nat.pow 10 scale) ∧
        onGrid? interval leading count = some ⟨digits, scale⟩) ∨
      (onGrid? interval leading count = none ∧ ¬ interval.Holds (below * Nat.pow 10 scale) ∧
        ¬ interval.Holds ((below + 1) * Nat.pow 10 scale)) := by
  intro neighbour
  unfold onGrid?
  extract_lets gridScale tens twos step quarter value low high inside below above chosen?
  have hgridScale : gridScale = scale := hscale
  have hstep : step = Nat.pow 10 scale := by
    simp [step, tens, hgridScale, hexponent]
  have hquarter : quarter = Nat.pow 2 interval.exponent.toNat := by
    have habs : interval.exponent.natAbs = interval.exponent.toNat := by omega
    simp [quarter, twos, hgridScale, hexponent, habs]
  have hbelow : below = neighbour := by
    simp only [below, value, neighbour, hstep, hquarter]
  have hinside : ∀ digits, inside digits = true ↔ interval.Holds (digits * Nat.pow 10 scale) := by
    intro digits
    simp only [inside, low, high, hstep, hquarter, RoundingInterval.Holds]
    split <;> simp
  rw [← hbelow, ← hinside below, ← hinside (below + 1)]
  have hfound : ∀ digits, digits = below ∨ digits = below + 1 → inside digits = true →
      chosen? = some digits →
      ∃ digits, (digits = below ∨ digits = below + 1) ∧
        interval.Holds (digits * Nat.pow 10 scale) ∧
        chosen?.map (Decimal.mk · gridScale) = some ⟨digits, scale⟩ := by
    intro digits hnear hdigits hchosen
    exact ⟨digits, hnear, (hinside digits).mp hdigits, by rw [hchosen, hgridScale]; rfl⟩
  by_cases hfirst : inside below = true
  · by_cases hsecond : inside above = true
    · have hchosen : chosen? = some (divNearest value step) := by simp [chosen?, hfirst, hsecond]
      have hleast := div_le_divNearest value step
      have hmost := divNearest_le value step
      have hnear : divNearest value step = below ∨ divNearest value step = below + 1 := by
        simp only [below]
        omega
      refine .inl (hfound _ hnear ?_ hchosen)
      rcases hnear with heq | heq
      · rwa [heq]
      · rwa [heq]
    · exact .inl (hfound below (.inl rfl) hfirst (by simp [chosen?, hfirst, hsecond]))
  · by_cases hsecond : inside above = true
    · exact .inl (hfound above (.inr rfl) hsecond (by simp [chosen?, hfirst, hsecond]))
    · exact .inr ⟨by simp [chosen?, hfirst, hsecond], hfirst, hsecond⟩

theorem RoundingInterval.Holds.convex {first between last : Nat} (hfirst : interval.Holds first)
    (hlast : interval.Holds last) (hleast : first ≤ between) (hmost : between ≤ last) :
    interval.Holds between := by
  unfold RoundingInterval.Holds at *
  dsimp only at *
  split <;> simp_all <;> omega

/-- Where the grid has a point in the interval of a number, the search finds one. -/
theorem exists_onGrid? (hscale : leading - count + 1 = scale) (hexponent : 0 ≤ interval.exponent)
    (hvalue : interval.Holds (interval.value * Nat.pow 2 interval.exponent.toNat))
    {point : Nat} (hpoint : interval.Holds (point * Nat.pow 10 scale)) :
    ∃ digits, interval.Holds (digits * Nat.pow 10 scale) ∧
      onGrid? interval leading count = some ⟨digits, scale⟩ := by
  rcases onGrid?_cases hscale hexponent with ⟨digits, -, hdigits, hfound⟩ | ⟨-, hbelow, habove⟩
  · exact ⟨digits, hdigits, hfound⟩
  · -- Between the point and the number there is a neighbour of the number.
    have hstep : 0 < Nat.pow 10 scale := Nat.pow_pos (by decide)
    by_cases hside : point * Nat.pow 10 scale ≤ interval.value * Nat.pow 2 interval.exponent.toNat
    · have hnear := (Nat.le_div_iff_mul_le hstep).mpr hside
      exact absurd (hpoint.convex hvalue (Nat.mul_le_mul_right _ hnear) (Nat.div_mul_le_self _ _))
        hbelow
    · have hnear := (Nat.div_lt_iff_lt_mul hstep).mpr (Nat.lt_of_not_le hside)
      have hnext := (Nat.div_lt_iff_lt_mul hstep).mp (Nat.lt_succ_self
        (interval.value * Nat.pow 2 interval.exponent.toNat / Nat.pow 10 scale))
      exact absurd (hvalue.convex hpoint (Nat.le_of_lt hnext) (Nat.mul_le_mul_right _ hnear)) habove

end Grid

/-- The first value that is found is found no later than where there is one. -/
theorem findSome?_range {α : Type} (f : Nat → Option α) {n k : Nat} (hk : k < n)
    (h : (f k).isSome) :
    ∃ found ≤ k, ∃ value, f found = some value ∧ (List.range n).findSome? f = some value := by
  obtain ⟨more, rfl⟩ := Nat.exists_eq_add_of_lt hk
  have hsome : ((List.range (k + 1)).findSome? f).isSome :=
    List.findSome?_isSome_iff.mpr ⟨k, List.mem_range.mpr (Nat.lt_succ_self k), h⟩
  obtain ⟨value, hvalue⟩ := Option.isSome_iff_exists.mp hsome
  obtain ⟨found, hfound, hat⟩ := List.exists_of_findSome?_eq_some hvalue
  refine ⟨found, Nat.le_of_lt_succ (List.mem_range.mp hfound), value, hat, ?_⟩
  rw [Nat.add_right_comm, List.range_add, List.findSome?_append, hvalue]
  rfl

section Shortest

variable {negative : Bool} {mantissa exponent : Nat}

/-- The powers of ten around an integer. -/
theorem pow_digitCount {n : Nat} (h : 0 < n) :
    0 < digitCount n ∧ Nat.pow 10 (digitCount n - 1) ≤ n ∧ n < Nat.pow 10 (digitCount n) := by
  have hpos : 0 < digitCount n := List.length_pos_iff.mpr Nat.toDigits_ne_nil
  refine ⟨hpos, ?_, (Nat.length_toDigits_le_iff (by decide) hpos).mp (Nat.le_refl _)⟩
  by_cases hone : digitCount n - 1 = 0
  · rw [hone]
    exact h
  · by_contra hless
    have hshort := (Nat.length_toDigits_le_iff (by decide) (Nat.pos_of_ne_zero hone)).mpr
      (Nat.lt_of_not_le hless)
    rw [← digitCount] at hshort
    omega

/-- A number is in its own interval. -/
theorem holds_value (hnormal : Normal mantissa) (hexponent : 2 ≤ exponent) :
    let interval := roundingInterval ⟨negative, mantissa, exponent⟩
    interval.Holds (interval.value * Nat.pow 2 interval.exponent.toNat) := by
  obtain ⟨quarter, hpos, hquarter, -⟩ := exists_quarter hexponent
  have hplace : ((exponent : Int) - 2).toNat = exponent - 2 := by omega
  have hvalue : 4 * mantissa * quarter = 4 * (mantissa * quarter) := Nat.mul_assoc _ _ _
  dsimp only
  rw [holds_roundingInterval_iff hnormal hexponent, hquarter]
  simp only [roundingInterval, hplace, hquarter, hvalue]
  rcases gapBelow_cases mantissa with ⟨-, hgap⟩ | ⟨-, hgap⟩
  · rw [hgap]
    omega
  · rw [hgap]
    omega

/-- The interval of a number has a point on the grid of 17 digits. -/
theorem exists_holds_seventeen (hnormal : Normal mantissa) (hexponent : 2 ≤ exponent) {step : Nat}
    (hstep : 0 < step) (hfine : 10000000000000000 * step ≤ mantissa * Nat.pow 2 exponent) :
    ∃ point, (roundingInterval ⟨negative, mantissa, exponent⟩).Holds (point * step) := by
  obtain ⟨quarter, hpos, hquarter, -, hplace, -⟩ := exists_quarter hexponent
  obtain ⟨hleast, hmost⟩ := hnormal.scaled quarter
  have hvalue : mantissa * (4 * quarter) = 4 * (mantissa * quarter) := Nat.mul_left_comm _ _ _
  rw [hplace, hvalue] at hfine
  have hdivision := Nat.div_add_mod (4 * (mantissa * quarter)) step
  have hrest := Nat.mod_lt (4 * (mantissa * quarter)) hstep
  rw [Nat.mul_comm] at hdivision
  generalize 4 * (mantissa * quarter) / step = below at hdivision
  generalize 4 * (mantissa * quarter) % step = rest at hdivision hrest
  have hnext : (below + 1) * step = below * step + step := Nat.succ_mul _ _
  simp only [holds_roundingInterval_iff hnormal hexponent, hquarter]
  rcases gapBelow_cases mantissa with ⟨rfl, hgap⟩ | ⟨-, hgap⟩
  · refine ⟨below + 1, ?_⟩
    rw [hgap, hnext]
    omega
  · by_cases hnear : rest < 2 * quarter
    · refine ⟨below, ?_⟩
      rw [hgap]
      omega
    · refine ⟨below + 1, ?_⟩
      rw [hgap, hnext]
      omega

/-- How many places the grid of a number of digits has before the point. -/
theorem leading_sub {digits count : Nat} (h : count ≤ digits) :
    ((digits : Int) - 1) - count + 1 = (digits - count : Nat) := by
  omega

theorem shortest_eq (hnormal : Normal mantissa) :
    shortest ⟨negative, mantissa, exponent⟩ =
      ((List.range 17).findSome? fun n =>
        onGrid? (roundingInterval ⟨negative, mantissa, exponent⟩)
          ((digitCount (mantissa * Nat.pow 2 exponent) : Int) - 1) (n + 1)).getD ⟨mantissa, 0⟩ := by
  have hpos : 1 ≤ mantissa * Nat.pow 2 exponent :=
    Nat.mul_pos (Nat.lt_of_lt_of_le (by decide) hnormal.least) (Nat.pow_pos (by decide))
  have hleading : leadingExponent (mantissa * Nat.pow 2 exponent) 1 =
      (digitCount (mantissa * Nat.pow 2 exponent) : Int) - 1 := by
    rw [leadingExponent, if_pos hpos, Nat.div_one]
  simp only [shortest, Int.natCast_nonneg, ↓reduceIte, Int.toNat_natCast, hleading]

/-- No two multiples of a step are in the interval of a number of at most 15 digits before it. -/
theorem eq_of_holds_multiples (hnormal : Normal mantissa) (hexponent : 2 ≤ exponent)
    {first second step : Nat} (hcoarse : mantissa * Nat.pow 2 exponent < 1000000000000000 * step)
    (hfirst : (roundingInterval ⟨negative, mantissa, exponent⟩).Holds (first * step))
    (hsecond : (roundingInterval ⟨negative, mantissa, exponent⟩).Holds (second * step)) :
    first = second := by
  obtain ⟨quarter, hpos, hquarter, -, hplace, -⟩ := exists_quarter hexponent
  obtain ⟨hleast, -⟩ := hnormal.scaled quarter
  have hvalue : mantissa * (4 * quarter) = 4 * (mantissa * quarter) := Nat.mul_left_comm _ _ _
  have hgap := gapBelow_mul_le mantissa quarter
  rw [hplace, hvalue] at hcoarse
  rw [holds_roundingInterval_iff hnormal hexponent, hquarter] at hfirst hsecond
  have hless : ∀ one other : Nat, one < other → one * step + step ≤ other * step := by
    intro one other hlt
    rw [← Nat.succ_mul]
    exact Nat.mul_le_mul_right step hlt
  rcases Nat.lt_trichotomy first second with hlt | heq | hlt
  · have := hless _ _ hlt
    omega
  · exact heq
  · have := hless _ _ hlt
    omega

/-- A decimal of at most 15 digits in the interval of a number is on the grid of 15 digits. -/
theorem exists_multiple_of_short (hnormal : Normal mantissa) (hexponent : 2 ≤ exponent)
    {point zeros places : Nat} (hpoint : point < Nat.pow 10 15)
    (hleast : Nat.pow 10 (places + 15) ≤ mantissa * Nat.pow 2 exponent)
    (h : (roundingInterval ⟨negative, mantissa, exponent⟩).Holds (point * Nat.pow 10 zeros)) :
    ∃ multiple, point * Nat.pow 10 zeros = multiple * Nat.pow 10 (places + 1) := by
  by_cases hmany : places + 1 ≤ zeros
  · obtain ⟨more, rfl⟩ := Nat.exists_eq_add_of_le hmany
    refine ⟨point * Nat.pow 10 more, ?_⟩
    rw [Nat.pow_eq, Nat.pow_eq, Nat.pow_eq]
    ring
  · -- Too small a decimal would be further away than the interval reaches.
    exfalso
    obtain ⟨quarter, hpos, hquarter, -, hplace, -⟩ := exists_quarter hexponent
    obtain ⟨hmantissa, -⟩ := hnormal.scaled quarter
    have hvalue : mantissa * (4 * quarter) = 4 * (mantissa * quarter) := Nat.mul_left_comm _ _ _
    have hgap := gapBelow_mul_le mantissa quarter
    have hbound : point * Nat.pow 10 zeros ≤ 999999999999999 * Nat.pow 10 places :=
      Nat.mul_le_mul (Nat.le_of_lt_succ hpoint)
        (Nat.pow_le_pow_right (by decide) (Nat.le_of_lt_succ (Nat.lt_of_not_le hmany)))
    have hshifted : Nat.pow 10 (places + 15) = Nat.pow 10 places * 1000000000000000 :=
      Nat.pow_add 10 places 15
    rw [hplace, hvalue, hshifted] at hleast
    rw [holds_roundingInterval_iff hnormal hexponent, hquarter] at h
    omega

/-- Where a grid has a point in the interval, the search ends there or before. -/
theorem exists_found (hnormal : Normal mantissa) (hexponent : 2 ≤ exponent) {total k : Nat}
    (hk : k < 17) (htotal : 17 ≤ total) {point : Nat}
    (hpoint : (roundingInterval ⟨negative, mantissa, exponent⟩).Holds
      (point * Nat.pow 10 (total - (k + 1)))) :
    ∃ found ≤ k, ∃ digits,
      (roundingInterval ⟨negative, mantissa, exponent⟩).Holds
        (digits * Nat.pow 10 (total - (found + 1))) ∧
      ((List.range 17).findSome? fun n =>
        onGrid? (roundingInterval ⟨negative, mantissa, exponent⟩) ((total : Int) - 1) (n + 1)) =
        some ⟨digits, (total - (found + 1) : Nat)⟩ := by
  have hexact : (0 : Int) ≤ (roundingInterval ⟨negative, mantissa, exponent⟩).exponent := by
    simp only [roundingInterval]
    omega
  obtain ⟨_, -, hthere⟩ := exists_onGrid? (leading_sub (by omega)) hexact
    (holds_value hnormal hexponent) hpoint
  obtain ⟨found, hfound, decimal, hdecimal, hsearch⟩ :=
    findSome?_range (fun n => onGrid? (roundingInterval ⟨negative, mantissa, exponent⟩)
      ((total : Int) - 1) (n + 1)) hk (Option.isSome_iff_exists.mpr ⟨_, hthere⟩)
  refine ⟨found, hfound, ?_⟩
  have hscale : (total : Int) - 1 - (found + 1 : Nat) + 1 = (total - (found + 1) : Nat) :=
    leading_sub (by omega)
  rcases onGrid?_cases hscale hexact with ⟨digits, -, hdigits, hsome⟩ | ⟨hnone, -⟩
  · rw [hsome, Option.some_inj] at hdecimal
    exact ⟨digits, hdigits, hdecimal ▸ hsearch⟩
  · rw [hnone] at hdecimal
    cases hdecimal

/-- The shortest decimal is in the interval, and it is the only one there of 15 digits or less. -/
theorem shortest_spec (negative : Bool) (hnormal : Normal mantissa) (hexponent : 2 ≤ exponent) :
    ∃ digits scale : Nat, shortest ⟨negative, mantissa, exponent⟩ = ⟨digits, scale⟩ ∧
      (roundingInterval ⟨negative, mantissa, exponent⟩).Holds (digits * Nat.pow 10 scale) ∧
      ∀ point zeros, point < Nat.pow 10 15 →
        (roundingInterval ⟨negative, mantissa, exponent⟩).Holds (point * Nat.pow 10 zeros) →
          digits * Nat.pow 10 scale = point * Nat.pow 10 zeros := by
  have hpositive : 0 < mantissa * Nat.pow 2 exponent :=
    Nat.mul_pos (Nat.lt_of_lt_of_le (by decide) hnormal.least) (Nat.pow_pos (by decide))
  obtain ⟨-, hleast, hmost⟩ := pow_digitCount hpositive
  have hlarge : 17 ≤ digitCount (mantissa * Nat.pow 2 exponent) := by
    by_contra hfew
    obtain ⟨quarter, hpos, -, -, hplace, -⟩ := exists_quarter hexponent
    obtain ⟨hmantissa, -⟩ := hnormal.scaled quarter
    have hbound : Nat.pow 10 (digitCount (mantissa * Nat.pow 2 exponent)) ≤ Nat.pow 10 16 :=
      Nat.pow_le_pow_right (by decide) (by omega)
    have hvalue : mantissa * (4 * quarter) = 4 * (mantissa * quarter) := Nat.mul_left_comm _ _ _
    have hten : Nat.pow 10 16 = 10000000000000000 := rfl
    rw [hplace, hvalue] at hmost hbound
    omega
  rw [shortest_eq hnormal]
  generalize digitCount (mantissa * Nat.pow 2 exponent) = total at *
  have hpow : ∀ places bits, Nat.pow 10 (places + bits) = Nat.pow 10 places * Nat.pow 10 bits :=
    fun places bits => Nat.pow_add 10 places bits
  obtain ⟨places, rfl⟩ := Nat.exists_eq_add_of_le hlarge
  have hstep : 10000000000000000 * Nat.pow 10 places ≤ mantissa * Nat.pow 2 exponent := by
    rw [show 17 + places - 1 = 16 + places by omega, hpow] at hleast
    exact hleast
  obtain ⟨point, hpoint⟩ :=
    exists_holds_seventeen hnormal hexponent (Nat.pow_pos (by decide)) hstep
  rw [show places = 17 + places - (16 + 1) by omega] at hpoint
  obtain ⟨found, hfound, digits, hdigits, hsearch⟩ :=
    exists_found hnormal hexponent (by decide) hlarge hpoint
  refine ⟨digits, 17 + places - (found + 1), by rw [hsearch]; rfl, hdigits, ?_⟩
  intro short zeros hshort hholds
  -- What has 15 digits is found with 15 digits, and two such decimals are too far apart.
  have hplaces : Nat.pow 10 (places + 1 + 15) ≤ mantissa * Nat.pow 2 exponent := by
    rwa [show places + 1 + 15 = 17 + places - 1 by omega]
  obtain ⟨multiple, hmultiple⟩ := exists_multiple_of_short hnormal hexponent hshort hplaces hholds
  rw [hmultiple] at hholds ⊢
  have hgrid : places + 1 + 1 = 17 + places - (14 + 1) := by omega
  obtain ⟨other, hother, found', hfound', hsearch'⟩ :=
    exists_found hnormal hexponent (by decide) hlarge (hgrid ▸ hholds)
  rw [hsearch, Option.some_inj, Decimal.mk.injEq] at hsearch'
  obtain ⟨rfl, hscale⟩ := hsearch'
  obtain ⟨more, hmore⟩ : ∃ more, 17 + places - (found + 1) = more + (places + 1 + 1) :=
    ⟨14 - found, by omega⟩
  rw [hmore, hpow, ← Nat.mul_assoc] at hdigits ⊢
  have hcoarse :
      mantissa * Nat.pow 2 exponent < 1000000000000000 * Nat.pow 10 (places + 1 + 1) := by
    rwa [show 17 + places = 15 + (places + 1 + 1) by omega, hpow] at hmost
  rw [eq_of_holds_multiples hnormal hexponent hcoarse hdigits hholds]

end Shortest

end TenantQuery.Binary64
