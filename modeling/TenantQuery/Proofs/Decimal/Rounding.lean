import TenantQuery.Decimal.Binary64
/-!
Integers of more than 53 binary digits, rounded to binary64.

Such an integer is rounded to a multiple of a power of two, so it stays an integer.  Those from
`2 ^ 63` on that are rounded to `2 ^ 63` itself end half a unit behind it, where the tie goes to
the even one.
-/

namespace TenantQuery.Binary64

/-- The place of the last of 53 binary digits. -/
def lastPlace (n : Nat) : Nat :=
  Nat.pow 2 (Nat.log2 n - 52)

/-- The multiple of its last place that an integer is rounded to. -/
def nearestInteger (n : Nat) : Nat :=
  divNearest n (lastPlace n) * lastPlace n

variable {n : Nat} {negative : Bool} {x : Binary64}

theorem lastPlace_pos (n : Nat) : 0 < lastPlace n :=
  Nat.pow_pos (by decide)

theorem div_le_divNearest (num den : Nat) : num / den ≤ divNearest num den := by
  unfold divNearest
  extract_lets quotient twice
  split
  · exact Nat.le_refl _
  · exact Nat.le_succ _

theorem inUnits_natCast (num den exponent : Nat) :
    inUnits num den exponent = (num, den * Nat.pow 2 exponent) := by
  simp [inUnits]

theorem unitExponent_one (h : n ≠ 0) : unitExponent n 1 = (Nat.log2 n : Int) - 52 := by
  have hestimate : (Nat.log2 n : Int) - Nat.log2 1 = Nat.log2 n := by
    have hone : Nat.log2 1 = 0 := by decide
    omega
  have hleading : 1 * Nat.pow 2 (Nat.log2 n) ≤ n := by
    rw [Nat.one_mul]
    exact Nat.log2_self_le h
  simp only [unitExponent, hestimate, inUnits_natCast, hleading, ↓reduceIte, minExponent]
  omega

theorem two_pow_mul_lastPlace (hlarge : 52 ≤ Nat.log2 n) (bits : Nat) :
    Nat.pow 2 (52 + bits) * lastPlace n = Nat.pow 2 (Nat.log2 n + bits) := by
  rw [lastPlace, Nat.pow_eq, Nat.pow_eq, Nat.pow_eq, ← Nat.pow_add]
  congr 1
  omega

theorem divNearest_le (num den : Nat) : divNearest num den ≤ num / den + 1 := by
  unfold divNearest
  extract_lets quotient twice
  split
  · exact Nat.le_succ _
  · exact Nat.le_refl _

/-- The quotient is within half a unit, and even where it is half a unit off. -/
theorem divNearest_eq_iff {num den quotient : Nat} (hden : 0 < den) :
    divNearest num den = quotient ↔
      2 * (quotient * den) ≤ 2 * num + den ∧ 2 * num ≤ 2 * (quotient * den) + den ∧
        (quotient % 2 = 0 ∨
          2 * (quotient * den) < 2 * num + den ∧ 2 * num < 2 * (quotient * den) + den) := by
  have hdivision : num / den * den + num % den = num := by
    rw [Nat.mul_comm]
    exact Nat.div_add_mod num den
  have hrest := Nat.mod_lt num hden
  have hcases : ∀ other, 2 * (other * den) ≤ 2 * num + den → 2 * num ≤ 2 * (other * den) + den →
      other = num / den ∨ other = num / den + 1 := by
    intro other hlow hhigh
    have hleast : num / den ≤ other := by
      apply Nat.le_of_not_lt
      intro hless
      have := Nat.mul_le_mul_right den (Nat.succ_le_of_lt hless)
      rw [Nat.succ_mul] at this
      omega
    have hmost : other ≤ num / den + 1 := by
      apply Nat.le_of_not_lt
      intro hmore
      have := Nat.mul_le_mul_right den (Nat.succ_le_of_lt hmore)
      rw [Nat.succ_mul, Nat.succ_mul] at this
      omega
    omega
  have hnext : (num / den + 1) * den = num / den * den + den := Nat.succ_mul _ _
  constructor
  · rintro rfl
    simp only [divNearest, Bool.or_eq_true, decide_eq_true_eq, Bool.and_eq_true, beq_iff_eq]
    split <;> omega
  · rintro ⟨hlow, hhigh, htie⟩
    simp only [divNearest, Bool.or_eq_true, decide_eq_true_eq, Bool.and_eq_true, beq_iff_eq]
    rcases hcases quotient hlow hhigh with rfl | rfl
    · rw [if_pos (by omega)]
    · rw [if_neg (by omega)]

theorem nearestInteger_of_dvd (h : lastPlace n ∣ n) : nearestInteger n = n := by
  obtain ⟨quotient, hquotient⟩ := h
  have hpos := lastPlace_pos n
  have hrounded : divNearest n (lastPlace n) = quotient := by
    apply (divNearest_eq_iff hpos).mpr
    rw [Nat.mul_comm quotient, ← hquotient]
    omega
  rw [nearestInteger, hrounded, Nat.mul_comm, ← hquotient]

theorem nearestInteger_of_log2 (h : Nat.log2 n ≤ 52) : nearestInteger n = n := by
  apply nearestInteger_of_dvd
  rw [lastPlace, Nat.sub_eq_zero_of_le h]
  exact Nat.one_dvd n

/-- The quotient by the last place has all of the 53 digits, and it may be carried into one more. -/
theorem divNearest_lastPlace (h : n ≠ 0) (hlarge : 52 ≤ Nat.log2 n) :
    Nat.pow 2 52 ≤ divNearest n (lastPlace n) ∧ divNearest n (lastPlace n) ≤ Nat.pow 2 53 := by
  have hleast : Nat.pow 2 52 ≤ n / lastPlace n := by
    rw [Nat.le_div_iff_mul_le (lastPlace_pos n), two_pow_mul_lastPlace hlarge 0]
    exact Nat.log2_self_le h
  have hmost : n / lastPlace n < Nat.pow 2 53 := by
    rw [Nat.div_lt_iff_lt_mul (lastPlace_pos n), two_pow_mul_lastPlace hlarge 1]
    exact Nat.lt_log2_self
  exact ⟨Nat.le_trans hleast (div_le_divNearest _ _),
    Nat.le_trans (divNearest_le _ _) (Nat.succ_le_of_lt hmost)⟩

/-- A large integer is rounded to the nearest multiple of its last place, if that is in range.  The
mantissa has 53 binary digits. -/
theorem nearest?_one (hlarge : 52 ≤ Nat.log2 n) :
    ∃ mantissa exponent : Nat, mantissa * Nat.pow 2 exponent = nearestInteger n ∧
      Nat.pow 2 52 ≤ mantissa ∧ mantissa < Nat.pow 2 53 ∧
      Nat.log2 n - 52 ≤ exponent ∧ exponent ≤ Nat.log2 n - 51 ∧
      nearest? n 1 =
        if maxExponent < (exponent : Int) then none else some (mantissa, (exponent : Int)) := by
  have hne : n ≠ 0 := by
    rintro rfl
    exact absurd hlarge (by decide)
  have hplace : Nat.pow 2 (Nat.log2 n - 52) = lastPlace n := rfl
  have hexponent : (Nat.log2 n : Int) - 52 = (Nat.log2 n - 52 : Nat) := by omega
  obtain ⟨hleast, hmost⟩ := divNearest_lastPlace hne hlarge
  simp only [nearest?, unitExponent_one hne, hexponent, inUnits_natCast, Nat.one_mul, hplace]
  by_cases hcarry : divNearest n (lastPlace n) = Nat.pow 2 53
  · -- The carry into a new digit moves the last place and keeps the value.
    refine ⟨Nat.pow 2 52, Nat.log2 n - 52 + 1, ?_, Nat.le_refl _, by decide, by omega, by omega,
      by simp [hcarry]⟩
    rw [nearestInteger, hcarry, lastPlace]
    change 4503599627370496 * (Nat.pow 2 (Nat.log2 n - 52) * 2) = 9007199254740992 * _
    omega
  · exact ⟨divNearest n (lastPlace n), Nat.log2 n - 52, rfl, hleast,
      Nat.lt_of_le_of_ne hmost hcarry, Nat.le_refl _, by omega, by simp [hcarry]⟩

theorem ofNat?_eq (negative : Bool) (h : n ≠ 0) :
    ofNat? negative n =
      (nearest? n 1).map fun (mantissa, exponent) => ⟨negative, mantissa, exponent⟩ := by
  rw [ofNat?, ofRatio?, if_neg h]

/-- A large integer in range is rounded to a number whose mantissa has 53 binary digits. -/
theorem exists_of_ofNat? (hlarge : 52 ≤ Nat.log2 n) (h : ofNat? negative n = some x) :
    ∃ mantissa exponent : Nat, x = ⟨negative, mantissa, exponent⟩ ∧
      mantissa * Nat.pow 2 exponent = nearestInteger n ∧
      Nat.pow 2 52 ≤ mantissa ∧ mantissa < Nat.pow 2 53 ∧ Nat.log2 n - 52 ≤ exponent := by
  have hne : n ≠ 0 := by
    rintro rfl
    exact absurd hlarge (by decide)
  obtain ⟨mantissa, exponent, hvalue, hleast, hmost, hexponent, -, hnearest⟩ := nearest?_one hlarge
  rw [ofNat?_eq negative hne, hnearest] at h
  obtain ⟨⟨_, _⟩, hfound, rfl⟩ := Option.map_eq_some_iff.mp h
  obtain ⟨-, heq⟩ := Option.ite_none_left_eq_some.mp hfound
  cases heq
  exact ⟨mantissa, exponent, rfl, hvalue, hleast, hmost, hexponent⟩

/-- The number that a large integer is rounded to is the nearest multiple of its last place. -/
theorem natAbs?_of_ofNat? (hlarge : 52 ≤ Nat.log2 n) (h : ofNat? negative n = some x) :
    x.negative = negative ∧ x.natAbs? = some (nearestInteger n) := by
  obtain ⟨mantissa, exponent, rfl, hvalue, -⟩ := exists_of_ofNat? hlarge h
  exact ⟨rfl, by simpa [natAbs?] using hvalue⟩

/-- Integers of 64 bits are in range. -/
theorem isSome_ofNat? (hlarge : 52 ≤ Nat.log2 n) (hbound : n < Nat.pow 2 64) :
    (ofNat? negative n).isSome := by
  have hne : n ≠ 0 := by
    rintro rfl
    exact absurd hlarge (by decide)
  have hlog : Nat.log2 n < 64 := (Nat.log2_lt hne).mpr hbound
  obtain ⟨mantissa, exponent, -, -, -, -, hexponent, hnearest⟩ := nearest?_one hlarge
  have hrange : ¬ maxExponent < (exponent : Int) := by
    unfold maxExponent
    omega
  simp [ofNat?_eq negative hne, hnearest, hrange]

/-- Rounding keeps the number of binary digits, or it carries to the next power of two. -/
theorem nearestInteger_mem_binade (h : n ≠ 0) (hlarge : 52 ≤ Nat.log2 n) :
    Nat.pow 2 (Nat.log2 n) ≤ nearestInteger n ∧ nearestInteger n ≤ Nat.pow 2 (Nat.log2 n + 1) := by
  obtain ⟨hleast, hmost⟩ := divNearest_lastPlace h hlarge
  constructor
  · calc Nat.pow 2 (Nat.log2 n) = Nat.pow 2 52 * lastPlace n :=
          (two_pow_mul_lastPlace hlarge 0).symm
      _ ≤ nearestInteger n := Nat.mul_le_mul_right _ hleast
  · calc nearestInteger n ≤ Nat.pow 2 53 * lastPlace n := Nat.mul_le_mul_right _ hmost
      _ = Nat.pow 2 (Nat.log2 n + 1) := two_pow_mul_lastPlace hlarge 1

/-- From `2 ^ 63` on no integer is rounded below it, and those rounded to it end at the tie. -/
theorem nearestInteger_bound (hbound : Nat.pow 2 63 ≤ n) :
    Nat.pow 2 63 ≤ nearestInteger n ∧
      (nearestInteger n = Nat.pow 2 63 ↔ n ≤ Nat.pow 2 63 + 1024) := by
  have hpow : Nat.pow 2 63 = 9223372036854775808 := rfl
  have hne : n ≠ 0 := by omega
  have hlarge : 63 ≤ Nat.log2 n := (Nat.le_log2 hne).mpr hbound
  rcases Nat.lt_or_eq_of_le hlarge with hlarger | hword
  · -- From `2 ^ 64` on the quotient has 53 digits, so not even rounding down comes near.
    have hdouble : Nat.pow 2 64 ≤ Nat.pow 2 (Nat.log2 n) :=
      Nat.pow_le_pow_right (by decide) hlarger
    have hself : Nat.pow 2 (Nat.log2 n) ≤ n := Nat.log2_self_le hne
    have hnearest := (nearestInteger_mem_binade hne (by omega)).1
    have hvalue : Nat.pow 2 64 = 18446744073709551616 := rfl
    omega
  · have hplace : lastPlace n = 2048 := by rw [lastPlace, ← hword]
    have hlast : n < Nat.pow 2 64 := (Nat.log2_lt hne).mp (by omega)
    have hdouble : Nat.pow 2 64 = 18446744073709551616 := rfl
    simp only [nearestInteger, hplace, divNearest, Bool.or_eq_true, decide_eq_true_eq,
      Bool.and_eq_true, beq_iff_eq]
    split
    · omega
    · omega

end TenantQuery.Binary64
