import Mathlib.Data.List.TakeWhile
import Mathlib.Tactic.FieldSimp
import Mathlib.Tactic.NormNum
import TenantQuery.Proofs.Decimal.Numeral
import TenantQuery.Proofs.Decimal.RoundTrip
/-!
What a numeric constant of SQL denotes, exactly.

A constant is digits with a point among or behind them, or with none, and a power of ten behind an
exponent mark; a minus stands in front.  The text of a decimal denotes the decimal itself, in
whatever layout it is written.
-/

namespace TenantQuery

namespace Sql

/-- The power of ten behind an exponent mark, or one where there is no mark. -/
def exponentOf? : List Char → Option Int
  | [] => some 0
  | 'e' :: '-' :: digits => (digitsOf? digits).map fun (n : Nat) => -(n : Int)
  | 'e' :: '+' :: digits => (digitsOf? digits).map Int.ofNat
  | 'e' :: digits => (digitsOf? digits).map Int.ofNat
  | _ => none
where
  /-- The number that digits write, of which there is at least one. -/
  digitsOf? (digits : List Char) : Option Nat :=
    if !digits.isEmpty && digits.all Char.isDigit then some (Nat.ofDigitChars 10 digits 0)
    else none

/-- The value of a constant without a sign. -/
def unsignedConstant? (chars : List Char) : Option ℚ :=
  let mantissa := chars.takeWhile (· ≠ 'e')
  let whole := mantissa.takeWhile (· ≠ '.')
  let fraction := (mantissa.dropWhile (· ≠ '.')).drop 1
  match exponentOf?.digitsOf? (whole ++ fraction), exponentOf? (chars.dropWhile (· ≠ 'e')) with
  | some digits, some exponent => some (digits * 10 ^ (exponent - fraction.length))
  | _, _ => none

def constant? : List Char → Option ℚ
  | '-' :: chars => (unsignedConstant? chars).map Neg.neg
  | chars => unsignedConstant? chars

end Sql

open Sql

theorem digitsOf?_of_allDigits {digits : List Char} (hne : digits ≠ []) (hall : AllDigits digits) :
    exponentOf?.digitsOf? digits = some (Nat.ofDigitChars 10 digits 0) := by
  have hdigits : digits.all Char.isDigit := List.all_eq_true.mpr hall
  rw [exponentOf?.digitsOf?, if_pos (by simp [hne, hdigits])]

/-- A text is cut in front of the first character of a kind. -/
theorem takeWhile_append_stop {front back : List Char} {stop : Char} (hfront : stop ∉ front)
    (hback : back = [] ∨ back.head? = some stop) :
    (front ++ back).takeWhile (· ≠ stop) = front ∧ (front ++ back).dropWhile (· ≠ stop) = back := by
  have hkept : ∀ c ∈ front, decide (c ≠ stop) = true := by
    intro c hc
    rw [decide_eq_true_eq]
    rintro rfl
    exact hfront hc
  rw [List.takeWhile_append_of_pos hkept, List.dropWhile_append_of_pos hkept]
  rcases hback with rfl | hback
  · simp
  · obtain ⟨rest, rfl⟩ := List.head?_eq_some_iff.mp hback
    simp

theorem AllDigits.not_mem {digits : List Char} (h : AllDigits digits) {c : Char}
    (hc : c.isDigit = false) : c ∉ digits := by
  intro hmem
  rw [h c hmem] at hc
  cases hc

/-- Digits, with a point in front of those of the fraction where there is one, and an exponent
denote the digits shifted. -/
theorem unsignedConstant?_append {whole behind fraction mark : List Char} {exponent : Int}
    (hwhole : AllDigits whole) (hfraction : AllDigits fraction) (hne : whole ++ fraction ≠ [])
    (hbehind : behind = '.' :: fraction ∨ behind = [] ∧ fraction = [])
    (hmark : mark = [] ∨ mark.head? = some 'e') (hexponent : exponentOf? mark = some exponent) :
    unsignedConstant? (whole ++ behind ++ mark) =
      some ((Nat.ofDigitChars 10 (whole ++ fraction) 0 : ℚ) *
        10 ^ (exponent - fraction.length)) := by
  have hfront : 'e' ∉ whole ++ behind := by
    rw [List.mem_append, not_or]
    refine ⟨hwhole.not_mem (by decide), ?_⟩
    rcases hbehind with rfl | ⟨rfl, -⟩
    · exact List.not_mem_cons_of_ne_of_not_mem (by decide) (hfraction.not_mem (by decide))
    · exact List.not_mem_nil
  obtain ⟨hmantissa, hrest⟩ := takeWhile_append_stop hfront hmark
  have hpoint : behind = [] ∨ behind.head? = some '.' := by
    rcases hbehind with rfl | ⟨rfl, -⟩
    · exact .inr rfl
    · exact .inl rfl
  obtain ⟨hbefore, hafter⟩ := takeWhile_append_stop (hwhole.not_mem (by decide)) hpoint
  have hdrop : behind.drop 1 = fraction := by
    rcases hbehind with rfl | ⟨rfl, rfl⟩
    · rfl
    · rfl
  simp only [unsignedConstant?, hmantissa, hrest, hbefore, hafter, hdrop, hexponent,
    digitsOf?_of_allDigits hne (hwhole.append hfraction)]

/-- An exponent is read as it is written. -/
theorem exponentOf?_written (exponent : Int) :
    exponentOf? ('e' :: (if 0 ≤ exponent then '+' else '-') :: Nat.toDigits 10 exponent.natAbs) =
      some exponent := by
  have hdigits := digitsOf?_of_allDigits Nat.toDigits_ne_nil (AllDigits.toDigits exponent.natAbs)
  rw [Nat.ofDigitChars_ten_toDigits] at hdigits
  split
  · rw [exponentOf?, hdigits, Option.map_some, Int.ofNat_eq_natCast]
    congr 1
    omega
  · rw [exponentOf?, hdigits, Option.map_some]
    congr 1
    omega

namespace Binary64

/-- The zeros that are stripped. -/
theorem exists_stripZeros (digits : List Char) :
    ∃ zeros, digits = stripZeros digits ++ List.replicate zeros '0' := by
  have hzeros : (digits.reverse.takeWhile (· == '0')).reverse =
      List.replicate (digits.reverse.takeWhile (· == '0')).length '0' := by
    rw [← List.length_reverse]
    apply List.eq_replicate_of_mem
    intro c hc
    have hzero := List.mem_takeWhile_imp (List.mem_reverse.mp hc)
    exact eq_of_beq hzero
  refine ⟨(digits.reverse.takeWhile (· == '0')).length, ?_⟩
  rw [← hzeros, stripZeros, ← List.reverse_append, List.takeWhile_append_dropWhile,
    List.reverse_reverse]

theorem natCast_mul_zpow (value zeros : Nat) (exponent : Int) :
    ((value * 10 ^ zeros : Nat) : ℚ) * 10 ^ exponent = value * 10 ^ (exponent + zeros) := by
  rw [zpow_add₀ (by norm_num), zpow_natCast]
  push_cast
  ring

theorem ofDigitChars_append_zeros (digits : List Char) (zeros : Nat) :
    Nat.ofDigitChars 10 (digits ++ List.replicate zeros '0') 0 =
      Nat.ofDigitChars 10 digits 0 * 10 ^ zeros := by
  rw [Nat.ofDigitChars_append, Nat.ofDigitChars_replicate_zero, Nat.mul_comm]

theorem ofDigitChars_zeros_append (digits : List Char) (zeros : Nat) :
    Nat.ofDigitChars 10 (List.replicate zeros '0' ++ digits) 0 = Nat.ofDigitChars 10 digits 0 := by
  rw [Nat.ofDigitChars_append, Nat.ofDigitChars_replicate_zero, Nat.mul_zero]

/-- Digits on both sides of a point denote the digits, shifted by those behind the point. -/
theorem unsignedConstant?_pointed {whole fraction : List Char} (hwhole : AllDigits whole)
    (hfraction : AllDigits fraction) (hne : whole ++ fraction ≠ []) :
    unsignedConstant? (whole ++ '.' :: fraction) =
      some ((Nat.ofDigitChars 10 (whole ++ fraction) 0 : ℚ) * 10 ^ (-(fraction.length : Int))) := by
  have hconstant := unsignedConstant?_append hwhole hfraction hne (.inl rfl) (.inl rfl)
    (rfl : exponentOf? [] = some 0)
  rwa [List.append_nil, zero_sub] at hconstant

section Layouts

variable {digits : List Char}

/-- The layout of a number below one. -/
theorem unsignedConstant?_fraction (h : AllDigits digits) (zeros : Nat) :
    unsignedConstant? ("0." ++ String.ofList (List.replicate zeros '0' ++ digits)).toList =
      some ((Nat.ofDigitChars 10 digits 0 : ℚ) *
        10 ^ (-((zeros + digits.length : Nat) : Int))) := by
  have hconstant := unsignedConstant?_pointed (AllDigits.zeros 1) ((AllDigits.zeros zeros).append h)
    (by simp)
  rw [ofDigitChars_zeros_append, ofDigitChars_zeros_append, List.length_append,
    List.length_replicate] at hconstant
  simpa using hconstant

/-- The layout of a number from one on.  Zeros fill up the places before the point, and a zero
stands behind it where there is nothing else. -/
theorem unsignedConstant?_positional (h : AllDigits digits) (whole : Nat) :
    unsignedConstant? (String.ofList
        ((digits ++ List.replicate (whole - digits.length) '0').take whole) ++ "." ++
      (if (digits.drop whole).isEmpty then "0" else String.ofList (digits.drop whole))).toList =
      some ((Nat.ofDigitChars 10 digits 0 : ℚ) * 10 ^ ((whole : Int) - digits.length)) := by
  by_cases hshort : digits.length ≤ whole
  · have htake : (digits ++ List.replicate (whole - digits.length) '0').take whole =
        digits ++ List.replicate (whole - digits.length) '0' := by
      apply List.take_of_length_le
      rw [List.length_append, List.length_replicate]
      omega
    have hconstant := unsignedConstant?_pointed
      (h.append (AllDigits.zeros (whole - digits.length))) (AllDigits.zeros 1) (by simp)
    have hvalue : Nat.ofDigitChars 10
        (digits ++ List.replicate (whole - digits.length) '0' ++ List.replicate 1 '0') 0 =
          Nat.ofDigitChars 10 digits 0 * 10 ^ (whole - digits.length + 1) := by
      rw [List.append_assoc, List.replicate_append_replicate, ofDigitChars_append_zeros]
    have hplaces : -((List.replicate 1 '0').length : Int) + (whole - digits.length + 1 : Nat) =
        whole - digits.length := by
      rw [List.length_replicate]
      omega
    rw [hvalue, natCast_mul_zpow, hplaces] at hconstant
    rw [htake, List.drop_eq_nil_of_le hshort]
    simpa using hconstant
  · have hfill : whole - digits.length = 0 := by omega
    have hmore : digits.drop whole ≠ [] := by
      rw [← List.length_pos_iff, List.length_drop]
      omega
    have hconstant := unsignedConstant?_pointed (h.of_sublist (List.take_sublist whole digits))
      (h.of_sublist (List.drop_sublist whole digits)) (List.append_ne_nil_of_right_ne_nil _ hmore)
    have hplaces : -((digits.drop whole).length : Int) = whole - digits.length := by
      rw [List.length_drop]
      omega
    rw [List.take_append_drop, hplaces] at hconstant
    rw [hfill, List.replicate_zero, List.append_nil]
    simpa [hmore] using hconstant

/-- The layout with an exponent: one digit stands before the point. -/
theorem unsignedConstant?_exponential (digits : List Char) (leading : Int) : AllDigits digits →
    unsignedConstant? ((match digits with
      | [] => "0"
      | [d] => String.ofList [d]
      | d :: rest => String.ofList (d :: '.' :: rest)) ++ "e" ++
        (if 0 ≤ leading then "+" else "-") ++ toString leading.natAbs).toList =
      some ((Nat.ofDigitChars 10 digits 0 : ℚ) * 10 ^ (leading + 1 - digits.length)) := by
  intro h
  have hmark := exponentOf?_written leading
  have hsign : (if 0 ≤ leading then "+" else "-").toList = [if 0 ≤ leading then '+' else '-'] := by
    split <;> rfl
  simp only [String.toList_append, AllDigits.toList_toString, hsign]
  match digits, h with
  | [], _ =>
      have hconstant := unsignedConstant?_append (AllDigits.zeros 1) (AllDigits.zeros 0) (by simp)
        (.inr ⟨rfl, rfl⟩) (.inr rfl) hmark
      have hnone : Nat.ofDigitChars 10 ['0'] 0 = 0 := rfl
      simpa [hnone] using hconstant
  | [d], h =>
      have hconstant := unsignedConstant?_append h (AllDigits.zeros 0) (by simp)
        (.inr ⟨rfl, rfl⟩) (.inr rfl) hmark
      simpa using hconstant
  | d :: e :: rest, h =>
      have hfirst : AllDigits [d] := h.of_sublist (by simp)
      have hconstant := unsignedConstant?_append hfirst
        (h.of_sublist (List.sublist_cons_self d (e :: rest))) (by simp) (.inl rfl) (.inr rfl) hmark
      simpa using hconstant

end Layouts

/-- The text of a decimal denotes the decimal. -/
theorem unsignedConstant?_text (layout : Layout) (decimal : Decimal) :
    unsignedConstant? (decimal.text layout).toList =
      some ((decimal.digits : ℚ) * 10 ^ decimal.scale) := by
  have hstripped := allDigits_stripZeros (AllDigits.toDigits decimal.digits)
  obtain ⟨zeros, hzeros⟩ := exists_stripZeros (Nat.toDigits 10 decimal.digits)
  have hdigits : decimal.digits =
      Nat.ofDigitChars 10 (stripZeros (Nat.toDigits 10 decimal.digits)) 0 * 10 ^ zeros := by
    rw [← ofDigitChars_append_zeros, ← hzeros, Nat.ofDigitChars_ten_toDigits]
  have hlength := congrArg List.length hzeros
  rw [List.length_append, List.length_replicate] at hlength
  rw [congrArg (fun n : Nat => some ((n : ℚ) * 10 ^ decimal.scale)) hdigits, natCast_mul_zpow]
  -- Whatever the layout is, the digits are shifted by the same power of ten.
  have hplaces : ∀ {places : Int}, places = decimal.scale + zeros →
      some ((Nat.ofDigitChars 10 (stripZeros (Nat.toDigits 10 decimal.digits)) 0 : ℚ) *
        10 ^ places) =
      some ((Nat.ofDigitChars 10 (stripZeros (Nat.toDigits 10 decimal.digits)) 0 : ℚ) *
        10 ^ (decimal.scale + zeros)) := by
    rintro _ rfl
    rfl
  unfold Decimal.text
  extract_lets all leading digits whole padded fraction mantissa
  have hleading : leading =
      ((stripZeros (Nat.toDigits 10 decimal.digits)).length + zeros : Nat) - 1 + decimal.scale := by
    rw [← hlength]
  split
  · split
    · rw [unsignedConstant?_fraction hstripped]
      apply hplaces
      omega
    · rw [unsignedConstant?_positional hstripped]
      apply hplaces
      omega
  · exact (unsignedConstant?_exponential _ leading hstripped).trans (hplaces (by omega))

end Binary64

end TenantQuery
