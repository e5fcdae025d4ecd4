import TenantQuery.Proofs.Decimal.Constant
import TenantQuery.Proofs.Json.IntegerLiteral
/-!
The numeric constant that is written for an integer literal of JSON.

Within 64 bits it denotes the integer itself.  Beyond, the integer is rounded when it is read, from
its leading digits and the power of ten for those behind them, and the constant is the shortest
decimal of the rounded number.  This is another integer that is rounded to the same number; it is
near to the integer of the literal, and that one itself where few digits stand before its zeros.
-/

namespace TenantQuery

open Sql Binary64 Json

/-- The integer that is written stands for the one that was read.  They are the same within 64 bits,
with up to 8 digits before zeros below `10 ^ 41`, and with up to 15 where they are rounded to the
same number.  Otherwise they are near to each other.  The one that is written is always rounded to
the number that was read: the product, rounded, of the leading digits of the integer and the power
of ten behind them, which are both rounded as well. -/
structure StandsFor (written read : Int) : Prop where
  within : -9223372036854775808 ≤ read → read ≤ 18446744073709551615 → written = read
  short : ∀ digits zeros : Nat, digits < 10 ^ 8 → read.natAbs = digits * 10 ^ zeros →
    read.natAbs < 10 ^ 41 → written = read
  same : ∀ digits zeros : Nat, digits < 10 ^ 15 → read.natAbs = digits * 10 ^ zeros →
    nearestInteger read.natAbs = nearestInteger written.natAbs → written = read
  sign : written.sign = read.sign
  near : 1000000000000000 * (written - read).natAbs ≤ read.natAbs
  rounded : ∃ leading behind, LeadingDigits read.natAbs leading behind ∧
    nearestInteger written.natAbs =
      nearestInteger (nearestInteger leading * nearestInteger (Nat.pow 10 behind))

/-- Within 64 bits there is nothing behind the leading digits, and they are rounded alone. -/
theorem nearestInteger_mul_one (n : Nat) :
    nearestInteger (nearestInteger n * nearestInteger (Nat.pow 10 0)) = nearestInteger n := by
  have hone : nearestInteger (Nat.pow 10 0) = 1 := by decide
  rw [hone, Nat.mul_one, nearestInteger_nearestInteger]

theorem StandsFor.refl {v : Int} (h : v.natAbs < Nat.pow 2 64) : StandsFor v v := by
  refine ⟨fun _ _ => rfl, fun _ _ _ _ _ => rfl, fun _ _ _ _ _ => rfl, rfl, ?_, v.natAbs, 0,
    .whole h, ?_⟩
  · rw [Int.sub_self, Int.natAbs_zero, Nat.mul_zero]
    exact Nat.zero_le _
  · exact (nearestInteger_mul_one _).symm

section Leading

variable {magnitude leading behind : Nat}

/-- Where few digits stand before zeros, the leading ones end with zeros too. -/
theorem Json.LeadingDigits.exists_of_short (h : LeadingDigits magnitude leading behind)
    (hlarge : 1844674407370955161 ≤ magnitude) {digits zeros : Nat} (hshort : digits < 10 ^ 8)
    (hmagnitude : magnitude = digits * 10 ^ zeros) :
    magnitude = leading * Nat.pow 10 behind ∧ ∃ more, leading = digits * 10 ^ (11 + more) := by
  have hpos : 0 < Nat.pow 10 behind := Nat.pow_pos (by decide)
  have hmany : behind + 11 ≤ zeros := by
    by_contra hfew
    have hzeros : 10 ^ zeros ≤ Nat.pow 10 behind * 10 ^ 10 := by
      rw [Nat.pow_eq, ← Nat.pow_add]
      exact Nat.pow_le_pow_right (by decide) (by omega)
    have hvalue : digits * 10 ^ zeros ≤ 99999999 * (Nat.pow 10 behind * 10 ^ 10) :=
      Nat.mul_le_mul (by omega) hzeros
    have hfront : 1844674407370955161 * Nat.pow 10 behind ≤ leading * Nat.pow 10 behind :=
      Nat.mul_le_mul_right _ (h.le_leading hlarge)
    have hleast := h.bounds.1
    omega
  obtain ⟨more, rfl⟩ := Nat.exists_eq_add_of_le hmany
  have hsplit : 10 ^ (behind + 11 + more) = 10 ^ (11 + more) * Nat.pow 10 behind := by
    rw [Nat.pow_eq, ← Nat.pow_add]
    congr 1
    omega
  have hvalue : magnitude = digits * 10 ^ (11 + more) * Nat.pow 10 behind := by
    rw [hmagnitude, hsplit, Nat.mul_assoc]
  have hfront : leading = digits * 10 ^ (11 + more) := by
    rw [← h.front, hvalue, Nat.mul_div_cancel _ hpos]
  exact ⟨hfront ▸ hvalue, more, hfront⟩

/-- Below `10 ^ 41` at most 22 digits are behind the leading ones. -/
theorem Json.LeadingDigits.behind_le (h : LeadingDigits magnitude leading behind)
    (hlarge : 1844674407370955161 ≤ magnitude) (hmost : magnitude < 10 ^ 41) : behind ≤ 22 := by
  by_contra hmany
  have hscale : 10 ^ 23 ≤ Nat.pow 10 behind := Nat.pow_le_pow_right (by decide) (by omega)
  have hproduct := Nat.mul_le_mul (h.le_leading hlarge) hscale
  have hleast := h.bounds.1
  omega

/-- Then neither they nor the power of ten is moved when they are rounded. -/
theorem Json.LeadingDigits.exact_of_short (h : LeadingDigits magnitude leading behind)
    (hlarge : 1844674407370955161 ≤ magnitude) {digits zeros : Nat} (hshort : digits < 10 ^ 8)
    (hmagnitude : magnitude = digits * 10 ^ zeros) (hmost : magnitude < 10 ^ 41) :
    nearestInteger leading * nearestInteger (Nat.pow 10 behind) = magnitude := by
  obtain ⟨hvalue, more, hfront⟩ := h.exists_of_short hlarge hshort hmagnitude
  have hleading : nearestInteger leading = leading := by
    have hbits : leading = digits * Nat.pow 5 (11 + more) * Nat.pow 2 (11 + more) := by
      rw [Nat.mul_assoc, ← pow_ten_eq]
      exact hfront
    -- Eleven zeros take as many binary digits away, so that 53 are left of 64.
    have hpow : 2048 ≤ Nat.pow 2 (11 + more) :=
      Nat.pow_le_pow_right (by decide : 0 < 2) (Nat.le_add_right 11 more)
    have hleast := Nat.mul_le_mul_left (digits * Nat.pow 5 (11 + more)) hpow
    have hfits := h.fits
    have hword : Nat.pow 2 64 = 18446744073709551616 := rfl
    have hmantissa : Nat.pow 2 53 = 9007199254740992 := rfl
    rw [hbits]
    exact nearestInteger_mul_pow (by omega) _
  rw [hleading, nearestInteger_pow_ten (h.behind_le hlarge hmost), hvalue]

end Leading

theorem natAbs_signed (negative : Bool) (n : Nat) :
    (if negative then -(n : Int) else n).natAbs = n := by
  split
  · rw [Int.natAbs_neg, Int.natAbs_natCast]
  · exact Int.natAbs_natCast n

/-- Beyond 64 bits only the rounded magnitudes are compared. -/
theorem StandsFor.of_rounded (negative : Bool) {written magnitude leading behind : Nat}
    (hlarge : 18446744073709551616 ≤ magnitude ∨ negative ∧ 9223372036854775809 ≤ magnitude)
    (hdigits : LeadingDigits magnitude leading behind)
    (hrounded : nearestInteger written =
      nearestInteger (nearestInteger leading * nearestInteger (Nat.pow 10 behind)))
    (hshort : ∀ digits zeros, digits < 10 ^ 15 →
      nearestInteger (digits * 10 ^ zeros) = nearestInteger written →
        written = digits * 10 ^ zeros) :
    StandsFor (if negative then -(written : Int) else written)
      (if negative then -(magnitude : Int) else magnitude) := by
  have hleading := hdigits.le_leading (by omega)
  obtain ⟨hleast, hmost⟩ := hdigits.bounds
  obtain ⟨hhigh, hlow⟩ := near_of_rounded_product (by omega) hleast hmost hrounded
  have hsame : ∀ digits zeros : Nat, digits < 10 ^ 15 → magnitude = digits * 10 ^ zeros →
      nearestInteger magnitude = nearestInteger written →
        (if negative then -(written : Int) else written) =
          (if negative then -(magnitude : Int) else magnitude) := by
    intro digits zeros hfew hmagnitude hnearest
    rw [hmagnitude] at hnearest ⊢
    rw [hshort digits zeros hfew hnearest]
  constructor
  case within =>
    split
    · omega
    · rename_i hplain
      have hlong := hlarge.resolve_right fun hsigned => hplain hsigned.1
      omega
  case short =>
    rw [natAbs_signed]
    intro digits zeros hfew hmagnitude hbound
    apply hsame digits zeros (by omega) hmagnitude
    rw [hrounded, hdigits.exact_of_short (by omega) hfew hmagnitude hbound]
  case same =>
    rw [natAbs_signed, natAbs_signed]
    exact hsame
  case sign =>
    split
    · rw [Int.sign_eq_neg_one_of_neg (by omega), Int.sign_eq_neg_one_of_neg (by omega)]
    · rw [Int.sign_eq_one_of_pos (by omega), Int.sign_eq_one_of_pos (by omega)]
  case near =>
    split <;> omega
  case rounded =>
    rw [natAbs_signed, natAbs_signed]
    exact ⟨leading, behind, hdigits, hrounded⟩

theorem Sql.unsignedConstant?_natural (n : Nat) :
    unsignedConstant? (Nat.toDigits 10 n) = some (n : ℚ) := by
  have hconstant := unsignedConstant?_append (AllDigits.toDigits n) (AllDigits.zeros 0) (by simp)
    (.inr ⟨rfl, rfl⟩) (.inl rfl) (rfl : exponentOf? [] = some 0)
  rw [List.append_nil, List.append_nil, List.replicate_zero, List.append_nil,
    Nat.ofDigitChars_ten_toDigits, List.length_nil, Nat.cast_zero, sub_zero, zpow_zero,
    mul_one] at hconstant
  exact hconstant

/-- A constant with a minus in front denotes the negative. -/
theorem Sql.constant?_signed (negative : Bool) {text : String} {value : ℚ}
    (htext : IsUnsigned text.toList) (h : unsignedConstant? text.toList = some value) :
    constant? ((if negative then "-" else "") ++ text).toList =
      some (if negative then -value else value) := by
  rw [String.toList_append]
  cases negative with
  | true =>
      change (unsignedConstant? text.toList).map Neg.neg = some (-value)
      rw [h, Option.map_some]
  | false =>
      change constant? text.toList = some value
      rw [← h, constant?]
      intro chars hminus
      have hdigit := htext.start '-' (by rw [hminus]; rfl)
      exact absurd hdigit (by decide)

namespace Json

variable {negative : Bool} {magnitude : Nat} {number : Number} {x : Binary64}

/-- The text of an integer denotes the integer. -/
theorem constant?_integer (negative : Bool) (magnitude : Nat) (h : negative → 0 < magnitude) :
    constant? (Number.integer (if negative then -(magnitude : Int) else magnitude)).text.toList =
      some ((if negative then -(magnitude : Int) else magnitude : Int) : ℚ) := by
  have hunsigned := AllDigits.toList_toString_isUnsigned magnitude
  have hvalue := Sql.unsignedConstant?_natural magnitude
  rw [← AllDigits.toList_toString] at hvalue
  have hconstant := Sql.constant?_signed negative hunsigned hvalue
  have htext : (Number.integer (if negative then -(magnitude : Int) else magnitude)).text =
      (if negative then "-" else "") ++ toString magnitude := by
    cases negative with
    | true =>
        obtain ⟨n, rfl⟩ := Nat.exists_eq_add_of_lt (h rfl)
        rw [Nat.zero_add]
        rfl
    | false => exact String.empty_append.symm
  rw [htext, hconstant]
  cases negative with
  | true => simp
  | false => simp

/-- A rounded zero denotes zero, with a sign or without one. -/
theorem constant?_zero (negative : Bool) :
    constant? (Number.real ⟨negative, 0, minExponent⟩).text.toList = some 0 := by
  have hdigits : Nat.ofDigitChars 10 ['0', '0'] 0 = 0 := rfl
  have hpointed := unsignedConstant?_pointed (AllDigits.zeros 1) (AllDigits.zeros 1) (by simp)
  have hzero : unsignedConstant? "0.0".toList = some 0 := by
    simpa [hdigits] using hpointed
  have hunsigned : IsUnsigned "0.0".toList :=
    (AllDigits.zeros 1).isUnsigned_append (by simp) (.pointed (AllDigits.zeros 1))
  have hconstant := Sql.constant?_signed negative hunsigned hzero
  rw [neg_zero, ite_self] at hconstant
  exact hconstant

/-- The text of a large rounded integer denotes an integer that is rounded to the same number.  No
other integer with 15 digits before zeros is. -/
theorem constant?_real (hlarge : 54 ≤ Nat.log2 magnitude) (h : ofNat? negative magnitude = some x) :
    ∃ written : Nat,
      constant? x.text.toList =
        some ((if negative then -(written : Int) else written : Int) : ℚ) ∧
      nearestInteger written = nearestInteger magnitude ∧
      ∀ digits zeros, digits < 10 ^ 15 →
        nearestInteger (digits * 10 ^ zeros) = nearestInteger written →
          written = digits * 10 ^ zeros := by
  obtain ⟨mantissa, exponent, rfl, hvalue, hleast, hmost, hexponent⟩ :=
    exists_of_ofNat? (Nat.le_trans (by decide) hlarge) h
  have hnormal : Normal mantissa := ⟨hleast, hmost⟩
  obtain ⟨digits, scale, hshortest, hholds, hshort⟩ :=
    shortest_spec negative hnormal (by omega : 2 ≤ exponent)
  have hrounded := nearestInteger_of_holds hnormal (by omega) hholds
  refine ⟨digits * Nat.pow 10 scale, ?_, hrounded.trans hvalue, ?_⟩
  · have hpositive : mantissa ≠ 0 := Nat.ne_of_gt (Nat.lt_of_lt_of_le (by decide) hleast)
    have hconstant := Sql.constant?_signed negative (isUnsigned_text layout ⟨digits, scale⟩)
      (unsignedConstant?_text layout ⟨digits, scale⟩)
    rw [Binary64.text, if_neg hpositive, hshortest, hconstant]
    cases negative with
    | true => simp
    | false => simp
  · intro point zeros hpoint hsame
    rw [hrounded] at hsame
    exact hshort point zeros hpoint (holds_of_nearestInteger hnormal (by omega) hsame)

/-- The text of a number that is rounded like the scaled leading digits of an integer denotes an
integer that stands for it. -/
theorem exists_of_real {leading behind rounded : Nat}
    (hlarge : 18446744073709551616 ≤ magnitude ∨ negative ∧ 9223372036854775809 ≤ magnitude)
    (hdigits : LeadingDigits magnitude leading behind) (hbits : 18014398509481984 ≤ rounded)
    (hrounded : nearestInteger rounded =
      nearestInteger (nearestInteger leading * nearestInteger (Nat.pow 10 behind)))
    (h : ofNat? negative rounded = some x) :
    ∃ written : Int, constant? (Number.real x).text.toList = some (written : ℚ) ∧
      StandsFor written (if negative then -(magnitude : Int) else magnitude) := by
  obtain ⟨written, hconstant, hwritten, hshort⟩ :=
    constant?_real ((Nat.le_log2 (by omega)).mpr hbits) h
  exact ⟨_, hconstant, .of_rounded negative hlarge hdigits (hwritten.trans hrounded) hshort⟩

/-- The text of a number within 64 bits denotes an integer that stands for it. -/
theorem constant?_of_word? (hword : magnitude < Nat.pow 2 64)
    (h : word? negative magnitude = some number) :
    ∃ written : Int, constant? number.text.toList = some (written : ℚ) ∧
      StandsFor written (if negative then -(magnitude : Int) else magnitude) := by
  have hsame : StandsFor (if negative then -(magnitude : Int) else magnitude)
      (if negative then -(magnitude : Int) else magnitude) := by
    apply StandsFor.refl
    rwa [natAbs_signed]
  cases negative with
  | true =>
      simp only [word?, ↓reduceIte, Bool.and_eq_true, decide_eq_true_eq] at h
      split at h
      · rename_i hsigned
        cases h
        exact ⟨_, constant?_integer true magnitude fun _ => hsigned.1, hsame⟩
      · rename_i hlarge
        obtain ⟨x, hx, rfl⟩ := Option.map_eq_some_iff.mp h
        by_cases hzero : magnitude = 0
        · -- A zero with a sign is written with a sign, and still denotes zero.
          subst hzero
          cases hx
          exact ⟨0, by simpa using constant?_zero true, hsame⟩
        · have hfirst : Nat.pow 2 63 = 9223372036854775808 := rfl
          exact exists_of_real (.inr ⟨rfl, by omega⟩) (.whole hword) (by omega)
            (nearestInteger_mul_one magnitude).symm hx
  | false =>
      simp only [word?, Bool.false_eq_true, ↓reduceIte] at h
      cases h
      exact ⟨_, constant?_integer false magnitude (by simp), hsame⟩

/-- The text of the number that is read at an integer literal denotes an integer that stands for
the one of the literal. -/
theorem constant?_of_integerLiteral? {digits : List Char} (hall : AllDigits digits)
    (h : integerLiteral? negative digits = some number) :
    ∃ written : Int, constant? number.text.toList = some (written : ℚ) ∧
      StandsFor written
        (if negative then -(Text.decimalValue digits : Int) else Text.decimalValue digits) := by
  rcases integerLiteral?_cases hall h with
    ⟨hword, hnumber⟩ | ⟨hlong, leading, behind, x, hdigits, hx, rfl⟩
  · exact constant?_of_word? hword hnumber
  · have hword : Nat.pow 2 64 = 18446744073709551616 := rfl
    have hleading := hdigits.le_leading (by omega)
    have hfront := (nearestInteger_near leading).1
    have hscale : 0 < nearestInteger (Nat.pow 10 behind) :=
      Nat.pos_of_ne_zero (nearestInteger_ne_zero (Nat.ne_of_gt (Nat.pow_pos (by decide))))
    have hbits := Nat.le_mul_of_pos_right (nearestInteger leading) hscale
    exact exists_of_real (.inl hlong) hdigits (by omega) rfl
      (ofNat?_of_ofDecimal? (by omega) hx)

-- Nine digits before zeros can be too many: the leading ones are rounded before they are scaled.
example : (integerLiteral? false "92293250900000000000".toList).map Number.text =
    some "9.229325089999998e+19" := by
  decide +kernel

end Json

end TenantQuery
