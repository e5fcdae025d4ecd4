import TenantQuery.Intent.Reading
import TenantQuery.Json.Reader
import TenantQuery.Proofs.Decimal.Numeral
import TenantQuery.Proofs.Decimal.Scaling
/-!
Integers as they are written in JSON, and the integers of 64 bits that are read there.

An integer within 64 bits is read exactly.  One that is out of range, by not more than rounding
undoes, is read as the end of the range, and any other as none.  Of an integer past 64 bits only the
leading digits are read; those behind them scale it.
-/

namespace TenantQuery

namespace Json

/-- An integer as it is written: digits, of any number, and a minus in front of them or not. -/
inductive IsIntegerLiteral : List Char → Int → Prop
  | plain {digits : List Char} (hne : digits ≠ []) (hall : AllDigits digits) :
      IsIntegerLiteral digits (Text.decimalValue digits)
  | minus {digits : List Char} (hne : digits ≠ []) (hall : AllDigits digits) :
      IsIntegerLiteral ('-' :: digits) (-(Text.decimalValue digits : Int))

variable {chars rest literal : List Char} {number : Number} {v : Int}

theorem IsIntegerLiteral.head (h : IsIntegerLiteral literal v) :
    ∃ first tail, literal = first :: tail ∧ (first.isDigit ∨ first = '-') := by
  cases h with
  | plain hne hall =>
      obtain ⟨d, tail, rfl⟩ := List.exists_cons_of_ne_nil hne
      exact ⟨d, tail, rfl, .inl (hall d List.mem_cons_self)⟩
  | minus => exact ⟨'-', _, rfl, .inr rfl⟩

/-- What is read in front of the rest, and whether that is nothing. -/
theorem exists_of_fraction? {digits : List Char} (h : fraction? chars = some (digits, rest)) :
    ∃ read, chars = read ++ rest ∧ (read = [] → digits = []) := by
  unfold fraction? at h
  split at h
  · rename_i behind
    split at h
    · cases h
    · cases h
      refine ⟨'.' :: behind.takeWhile Char.isDigit, by simp, by simp⟩
  · cases h
    exact ⟨[], rfl, fun _ => rfl⟩

theorem exists_of_exponentDigits? {negative : Bool} {exponent : Option Int}
    (h : exponentDigits? negative chars = some (exponent, rest)) :
    ∃ read, chars = read ++ rest := by
  unfold exponentDigits? at h
  split at h
  · cases h
  · rename_i digits behind _ hsplit
    cases h
    cases hsplit
    exact ⟨chars.takeWhile Char.isDigit, List.takeWhile_append_dropWhile.symm⟩

theorem exists_of_exponent? {exponent : Option Int} (h : exponent? chars = some (exponent, rest)) :
    ∃ read, chars = read ++ rest ∧ (read = [] → exponent = none) := by
  unfold exponent? at h
  split at h
  · rename_i c behind
    split at h
    · split at h <;> obtain ⟨read, rfl⟩ := exists_of_exponentDigits? h
      · exact ⟨c :: '+' :: read, rfl, by simp⟩
      · exact ⟨c :: '-' :: read, rfl, by simp⟩
      · exact ⟨c :: read, rfl, by simp⟩
    · cases h
      exact ⟨[], rfl, fun _ => rfl⟩
  · cases h
    exact ⟨[], rfl, fun _ => rfl⟩

/-- A number without its sign is digits and what is read behind them.  Where that is nothing, the
number is an integer. -/
theorem exists_of_unsignedNumber? {negative : Bool}
    (h : unsignedNumber? negative chars = some (number, rest)) :
    ∃ read, chars = chars.takeWhile Char.isDigit ++ (read ++ rest) ∧
      (read = [] → integerLiteral? negative (chars.takeWhile Char.isDigit) = some number) := by
  unfold unsignedNumber? at h
  split at h
  · cases h
  · cases h
  · rename_i whole behind _ _ hsplit
    cases hsplit
    obtain ⟨⟨fraction, afterFraction⟩, hfraction, h⟩ := Option.bind_eq_some_iff.mp h
    obtain ⟨⟨exponent, afterExponent⟩, hexponent, h⟩ := Option.bind_eq_some_iff.mp h
    obtain ⟨pointed, hpointed, hfractionNone⟩ := exists_of_fraction? hfraction
    obtain ⟨scaled, hscaled, hexponentNone⟩ := exists_of_exponent? hexponent
    have hchars : chars = chars.takeWhile Char.isDigit ++ (pointed ++ scaled ++ afterExponent) := by
      rw [List.append_assoc, ← hscaled, ← hpointed, List.takeWhile_append_dropWhile]
    dsimp only at h
    split at h <;> obtain ⟨found, hfound, h⟩ := Option.bind_eq_some_iff.mp h <;> cases h
    · exact ⟨pointed ++ scaled, hchars, fun _ => hfound⟩
    · rename_i hmore
      refine ⟨pointed ++ scaled, hchars, fun hnone => absurd ?_ hmore⟩
      obtain ⟨hpoint, hscale⟩ := List.append_eq_nil_iff.mp hnone
      simp [hfractionNone hpoint, hexponentNone hscale]

theorem exists_of_number? (h : number? chars = some (number, rest)) :
    ∃ read, chars = read ++ rest := by
  unfold number? at h
  split at h <;> obtain ⟨read, hchars, -⟩ := exists_of_unsignedNumber? h
  · exact ⟨'-' :: (_ ++ read), by rw [List.cons_append, List.append_assoc, ← hchars]⟩
  · exact ⟨_ ++ read, by rw [List.append_assoc, ← hchars]⟩

/-- Where the characters read are an integer literal, the number is that of the literal. -/
theorem integerLiteral?_of_number? (hliteral : IsIntegerLiteral literal v)
    (h : number? (literal ++ rest) = some (number, rest)) :
    ∃ (negative : Bool) (digits : List Char), AllDigits digits ∧
      integerLiteral? negative digits = some number ∧
      v = if negative then -(Text.decimalValue digits : Int) else Text.decimalValue digits := by
  -- Nothing but digits is read behind digits, and these are all read at once.
  have hread : ∀ {negative : Bool} {digits : List Char}, AllDigits digits →
      unsignedNumber? negative (digits ++ rest) = some (number, rest) →
        integerLiteral? negative digits = some number := by
    intro negative digits hall hnumber
    obtain ⟨read, hchars, hinteger⟩ := exists_of_unsignedNumber? hnumber
    rw [List.takeWhile_append_of_pos hall] at hchars hinteger
    simp only [List.append_assoc, List.append_cancel_left_eq] at hchars
    have hlength := congrArg List.length hchars
    simp only [List.length_append] at hlength
    have hnone : read = [] := List.eq_nil_of_length_eq_zero (by omega)
    have hstop : rest.takeWhile Char.isDigit = [] := List.eq_nil_of_length_eq_zero (by omega)
    rw [hstop, List.append_nil] at hinteger
    exact hinteger hnone
  cases hliteral with
  | plain hne hall =>
      refine ⟨false, _, hall, hread hall ?_, rfl⟩
      obtain ⟨d, tail, rfl⟩ := List.exists_cons_of_ne_nil hne
      rw [List.cons_append, number?] at h
      · exact h
      · rintro behind heq
        cases heq
        exact absurd (hall '-' List.mem_cons_self) (by decide)
  | minus hne hall => exact ⟨true, _, hall, hread hall h, rfl⟩

/-- The digits at the front of an integer, as many as fit 64 bits, and how many are behind them. -/
structure LeadingDigits (n leading behind : Nat) : Prop where
  front : n / Nat.pow 10 behind = leading
  fits : leading < Nat.pow 2 64
  longest : 0 < behind → Nat.pow 2 64 ≤ n / Nat.pow 10 (behind - 1)

theorem LeadingDigits.whole {n : Nat} (h : n < Nat.pow 2 64) : LeadingDigits n n 0 :=
  ⟨Nat.div_one n, h, fun hnone => absurd hnone (Nat.lt_irrefl 0)⟩

theorem LeadingDigits.bounds {n leading behind : Nat} (h : LeadingDigits n leading behind) :
    leading * Nat.pow 10 behind ≤ n ∧ n < (leading + 1) * Nat.pow 10 behind := by
  have hpos : 0 < Nat.pow 10 behind := Nat.pow_pos (by decide)
  rw [← Nat.le_div_iff_mul_le hpos, ← Nat.div_lt_iff_lt_mul hpos, h.front]
  exact ⟨Nat.le_refl leading, Nat.lt_succ_self leading⟩

theorem LeadingDigits.behind_pos {n leading behind : Nat} (h : LeadingDigits n leading behind)
    (hlong : Nat.pow 2 64 ≤ n) : 0 < behind := by
  apply Nat.pos_of_ne_zero
  rintro rfl
  have hfront : n = leading := (Nat.div_one n).symm.trans h.front
  exact absurd h.fits (Nat.not_lt_of_le (hfront ▸ hlong))

/-- An integer that fits 64 bits only without its last digit still has 19 digits. -/
theorem LeadingDigits.le_leading {n leading behind : Nat} (h : LeadingDigits n leading behind)
    (hlarge : 1844674407370955161 ≤ n) : 1844674407370955161 ≤ leading := by
  obtain ⟨rfl, -, hlongest⟩ := h
  cases behind with
  | zero =>
      rw [Nat.pow_eq, Nat.pow_zero, Nat.div_one]
      exact hlarge
  | succ behind =>
      have hmore := hlongest (Nat.succ_pos behind)
      have hword : Nat.pow 2 64 = 18446744073709551616 := rfl
      have htens : Nat.pow 10 (behind + 1) = Nat.pow 10 behind * 10 := rfl
      rw [Nat.add_sub_cancel] at hmore
      rw [htens, ← Nat.div_div_eq_div_mul]
      omega

/-- More digits do not change those in front. -/
theorem ofDigitChars_div {digits : List Char} (hall : AllDigits digits) (start : Nat) :
    Nat.ofDigitChars 10 digits start / Nat.pow 10 digits.length = start := by
  induction digits generalizing start with
  | nil => exact Nat.div_one start
  | cons c rest ih =>
      have hdigit : c.toNat - '0'.toNat < 10 := by
        have hlast : c.toNat ≤ 57 := (Char.isDigit_iff_toNat.mp (hall c List.mem_cons_self)).2
        have hzero : '0'.toNat = 48 := rfl
        omega
      have hshifted := ih (fun other hother => hall other (List.mem_cons_of_mem c hother))
        (10 * start + (c.toNat - '0'.toNat))
      have htens : Nat.pow 10 (c :: rest).length = Nat.pow 10 rest.length * 10 := rfl
      rw [Nat.ofDigitChars_cons, htens, ← Nat.div_div_eq_div_mul, hshifted]
      omega

/-- The digits that are read one by one are the leading ones of the integer. -/
theorem leadingDigits_of_appendDigits {digits beyond : List Char} {start significand : Nat}
    (hall : AllDigits digits) (hstart : start < Nat.pow 2 64)
    (h : appendDigits start digits = (significand, beyond)) :
    LeadingDigits (Nat.ofDigitChars 10 digits start) significand beyond.length := by
  induction digits generalizing start with
  | nil =>
      cases h
      exact .whole hstart
  | cons c rest ih =>
      simp only [appendDigits] at h
      split at h
      · rename_i hlonger
        exact ih (fun other hother => hall other (List.mem_cons_of_mem c hother)) hlonger h
      · rename_i hlonger
        cases h
        refine ⟨ofDigitChars_div hall _, hstart, fun _ => ?_⟩
        rw [Nat.ofDigitChars_cons, List.length_cons, Nat.add_sub_cancel,
          ofDigitChars_div fun other hother => hall other (List.mem_cons_of_mem c hother)]
        exact Nat.le_of_not_lt hlonger

/-- An integer within 64 bits is taken as it is, and of any other the leading digits are scaled. -/
theorem integerLiteral?_cases {negative : Bool} {digits : List Char} (hall : AllDigits digits)
    (h : integerLiteral? negative digits = some number) :
    (Text.decimalValue digits < Nat.pow 2 64 ∧
      word? negative (Text.decimalValue digits) = some number) ∨
    (Nat.pow 2 64 ≤ Text.decimalValue digits ∧ ∃ (leading behind : Nat) (x : Binary64),
      LeadingDigits (Text.decimalValue digits) leading behind ∧
      Binary64.ofDecimal? negative leading behind = some x ∧ number = .real x) := by
  unfold integerLiteral? at h
  split at h
  · rename_i magnitude hread
    have hdigits := leadingDigits_of_appendDigits hall (by decide) hread
    have hvalue : Text.decimalValue digits = magnitude := (Nat.div_one _).symm.trans hdigits.front
    rw [hvalue]
    exact .inl ⟨hdigits.fits, h⟩
  · rename_i significand beyond hnone hread
    obtain ⟨x, hx, rfl⟩ := Option.map_eq_some_iff.mp h
    have hdigits := leadingDigits_of_appendDigits hall (by decide) hread
    have hsome : 0 < beyond.length := List.length_pos_iff.mpr hnone
    refine .inr ⟨?_, significand, beyond.length, x, hdigits, hx, rfl⟩
    exact Nat.le_trans (hdigits.longest hsome) (Nat.div_le_self _ _)

end Json

namespace Reading

/-- What is read where an integer is written: the nearest one of 64 bits, up to half the unit of
the rounding behind their ends. -/
def readInteger? (v : Int) : Option Int :=
  if -(integerBound + 1024) ≤ v ∧ v ≤ integerBound + 1024 then
    some (max (-integerBound) (min v (integerBound - 1)))
  else none

open Binary64

variable {magnitude : Nat} {negative : Bool} {number : Number} {x : Binary64}

theorem integerBound_eq : integerBound = 9223372036854775808 := rfl

theorem le_log2_of_integerBound_le (hlarge : Nat.pow 2 63 ≤ magnitude) :
    52 ≤ Nat.log2 magnitude := by
  have hne : magnitude ≠ 0 := by
    rintro rfl
    exact absurd hlarge (by decide)
  exact (Nat.le_log2 hne).mpr (le_trans (by decide) hlarge)

/-- An integer that is rounded on the way is read at an end of the range or not at all. -/
theorem realInteger?_of_ofNat? (hlarge : Nat.pow 2 63 ≤ magnitude)
    (h : ofNat? negative magnitude = some x) :
    realInteger? x = readInteger? (if negative then -(magnitude : Int) else magnitude) := by
  obtain ⟨hsign, hnatAbs⟩ := natAbs?_of_ofNat? (le_log2_of_integerBound_le hlarge) h
  obtain ⟨hleast, hend⟩ := nearestInteger_bound hlarge
  have hvalue : x.toInt? =
      some (if negative then -(nearestInteger magnitude : Int) else nearestInteger magnitude) := by
    rw [toInt?, hnatAbs, hsign]
    rfl
  have hpow : Nat.pow 2 63 = 9223372036854775808 := rfl
  simp only [realInteger?, hvalue, readInteger?, integerBound_eq]
  cases negative with
  | false =>
      simp only [Bool.false_eq_true, ↓reduceIte]
      split <;> split <;> first | rfl | omega | (congr 1; omega)
  | true =>
      simp only [↓reduceIte]
      split <;> split <;> first | rfl | omega | (congr 1; omega)

theorem readInteger?_of_beyond (negative : Bool) (h : integerBound + 1024 < magnitude) :
    readInteger? (if negative then -(magnitude : Int) else magnitude) = none := by
  rw [integerBound_eq] at h
  rw [readInteger?, integerBound_eq, if_neg]
  split <;> omega

/-- Past 64 bits the rounding of the leading digits and of the power of ten does not lead back into
the range. -/
theorem realInteger?_of_ofDecimal? {leading behind : Nat}
    (hdigits : Json.LeadingDigits magnitude leading behind) (hlong : Nat.pow 2 64 ≤ magnitude)
    (h : ofDecimal? negative leading behind = some x) :
    realInteger? x = readInteger? (if negative then -(magnitude : Int) else magnitude) := by
  have hword : Nat.pow 2 64 = 18446744073709551616 := rfl
  have hleading := hdigits.le_leading (by omega)
  have hten : 10 ≤ Nat.pow 10 behind :=
    Nat.pow_le_pow_right (by decide : 0 < 10) (hdigits.behind_pos hlong)
  have hfront := (nearestInteger_near leading).1
  have hscale := (nearestInteger_near (Nat.pow 10 behind)).1
  have hproduct : 1844674407370954000 * 10 ≤
      nearestInteger leading * nearestInteger (Nat.pow 10 behind) :=
    Nat.mul_le_mul (by omega) (by omega)
  have hbound : Nat.pow 2 63 = 9223372036854775808 := rfl
  have hne : leading ≠ 0 := by omega
  rw [realInteger?_of_ofNat? (by omega) (ofNat?_of_ofDecimal? hne h),
    readInteger?_of_beyond negative (by rw [integerBound_eq]; omega),
    readInteger?_of_beyond negative (by rw [integerBound_eq]; omega)]

/-- A magnitude of 64 bits is read as its integer, within the range and as far as the rounding goes
behind its ends. -/
theorem numberInteger?_of_word? (hword : magnitude < Nat.pow 2 64)
    (h : Json.word? negative magnitude = some number) :
    numberInteger? number = readInteger? (if negative then -(magnitude : Int) else magnitude) := by
  have hpow : Nat.pow 2 63 = 9223372036854775808 := rfl
  have hwithin : ∀ v : Int, -integerBound ≤ v → v < integerBound → some v = readInteger? v := by
    intro v hfirst hlast
    rw [integerBound_eq] at hfirst hlast
    rw [readInteger?, integerBound_eq, if_pos (by omega)]
    congr 1
    omega
  cases negative with
  | true =>
      simp only [Json.word?, ↓reduceIte, Bool.and_eq_true, decide_eq_true_eq] at h ⊢
      split at h
      · cases h
        have hlast : -(magnitude : Int) < integerBound := by rw [integerBound_eq]; omega
        have hfirst : -integerBound ≤ -(magnitude : Int) := by rw [integerBound_eq]; omega
        rw [numberInteger?, if_pos hlast]
        exact hwithin _ hfirst hlast
      · rename_i hlarge
        obtain ⟨x, hx, rfl⟩ := Option.map_eq_some_iff.mp h
        by_cases hzero : magnitude = 0
        · -- A zero with a sign is a rounded number, and still zero.
          subst hzero
          cases hx
          decide +kernel
        · exact realInteger?_of_ofNat? (by omega) hx
  | false =>
      simp only [Json.word?, Bool.false_eq_true, ↓reduceIte] at h ⊢
      cases h
      by_cases hlast : (magnitude : Int) < integerBound
      · rw [numberInteger?, if_pos hlast]
        exact hwithin _ (by rw [integerBound_eq]; omega) hlast
      · have hlarge : Nat.pow 2 63 ≤ magnitude := by rw [integerBound_eq] at hlast; omega
        obtain ⟨x, hx⟩ := Option.isSome_iff_exists.mp
          (isSome_ofNat? (le_log2_of_integerBound_le hlarge) hword)
        rw [numberInteger?, if_neg hlast, Int.toNat_natCast, hx, Option.bind_some]
        exact realInteger?_of_ofNat? hlarge hx

/-- What is read where an integer literal stands. -/
theorem numberInteger?_of_isIntegerLiteral {literal rest : List Char} {v : Int}
    (hliteral : Json.IsIntegerLiteral literal v)
    (h : Json.number? (literal ++ rest) = some (number, rest)) :
    numberInteger? number = readInteger? v := by
  obtain ⟨negative, digits, hall, hinteger, rfl⟩ := Json.integerLiteral?_of_number? hliteral h
  rcases Json.integerLiteral?_cases hall hinteger with
    ⟨hword, hnumber⟩ | ⟨hlong, leading, behind, x, hdigits, hx, rfl⟩
  · exact numberInteger?_of_word? hword hnumber
  · exact realInteger?_of_ofDecimal? hdigits hlong hx

end Reading

end TenantQuery
