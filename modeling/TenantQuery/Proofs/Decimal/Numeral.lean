import Mathlib.Data.List.Chain
import TenantQuery.Json.Value
/-!
The characters of a written number: digits, a point, an exponent mark and signs.

A minus stands in front of a digit and an exponent mark behind one, so no number starts a
comment, and no part of one reads as a name.
-/

namespace TenantQuery

/-- Which characters may follow one another in a number. -/
def NumeralStep (first second : Char) : Prop :=
  (second = 'e' → first.isDigit) ∧ (first = '-' → second.isDigit)

/-- The text of a number from some digit on. -/
structure NumeralTail (chars : List Char) : Prop where
  mem : ∀ c ∈ chars, c.isDigit ∨ c ∈ ['.', 'e', '+', '-']
  steps : chars.IsChain NumeralStep

structure IsNumeral (chars : List Char) : Prop extends NumeralTail chars where
  start : chars.head? ≠ some 'e'

def AllDigits (chars : List Char) : Prop := ∀ c ∈ chars, c.isDigit

namespace AllDigits

theorem append {first second : List Char} (hfirst : AllDigits first)
    (hsecond : AllDigits second) : AllDigits (first ++ second) := by
  intro c hc
  rcases List.mem_append.mp hc with hc | hc
  · exact hfirst c hc
  · exact hsecond c hc

theorem of_sublist {few many : List Char} (h : AllDigits many) (hsub : few.Sublist many) :
    AllDigits few :=
  fun c hc => h c (hsub.mem hc)

theorem zeros (n : Nat) : AllDigits (List.replicate n '0') := by
  intro c hc
  rw [(List.mem_replicate.mp hc).2]
  decide

theorem toDigits (n : Nat) : AllDigits (Nat.toDigits 10 n) :=
  fun _ hc => Nat.isDigit_of_mem_toDigits (by decide) (by decide) hc

theorem toList_toString (n : Nat) : (toString n).toList = Nat.toDigits 10 n := by
  rw [Nat.toString_eq_ofList_toDigits, String.toList_ofList]

theorem ne_of_mem {digits : List Char} (h : AllDigits digits) {c : Char} (hc : c ∈ digits) :
    c ≠ 'e' ∧ c ≠ '-' := by
  have hdigit := h c hc
  constructor
  · rintro rfl
    exact absurd hdigit (by decide)
  · rintro rfl
    exact absurd hdigit (by decide)

/-- Digits in front of what may follow a digit. -/
theorem append_tail {digits rest : List Char} (hdigits : AllDigits digits)
    (hrest : NumeralTail rest) : NumeralTail (digits ++ rest) := by
  refine ⟨?_, List.isChain_append.mpr ⟨?_, hrest.steps, ?_⟩⟩
  · intro c hc
    rcases List.mem_append.mp hc with hc | hc
    · exact .inl (hdigits c hc)
    · exact hrest.mem c hc
  · apply List.isChain_iff_forall_rel_of_append_cons_cons.mpr
    rintro a b before after rfl
    exact ⟨fun hb => absurd hb (hdigits.ne_of_mem (by simp)).1,
      fun ha => absurd ha (hdigits.ne_of_mem (by simp)).2⟩
  · intro last hlast next _
    have hmem := List.mem_of_mem_getLast? hlast
    exact ⟨fun _ => hdigits last hmem, fun hminus => absurd hminus (hdigits.ne_of_mem hmem).2⟩

theorem tail {digits : List Char} (h : AllDigits digits) : NumeralTail digits := by
  have hnone : NumeralTail [] := ⟨by simp, by simp⟩
  simpa using h.append_tail hnone

end AllDigits

namespace NumeralTail

/-- A sign or point in front of a digit. -/
theorem marked {c d : Char} {rest : List Char} (hc : c ∈ ['.', '+', '-']) (hd : d.isDigit)
    (h : NumeralTail (d :: rest)) : NumeralTail (c :: d :: rest) := by
  refine ⟨?_, List.isChain_cons_cons.mpr ⟨⟨?_, fun _ => hd⟩, h.steps⟩⟩
  · intro other hother
    rcases List.mem_cons.mp hother with rfl | hother
    · simp only [List.mem_cons, List.not_mem_nil, or_false] at hc ⊢
      rcases hc with rfl | rfl | rfl <;> simp
    · exact h.mem other hother
  · rintro rfl
    exact absurd hd (by decide)

/-- A point in front of digits. -/
theorem pointed {digits : List Char} (h : AllDigits digits) : NumeralTail ('.' :: digits) := by
  cases digits with
  | nil => exact ⟨by simp, by simp⟩
  | cons d digits => exact marked (by simp) (h d List.mem_cons_self) h.tail

/-- An exponent. -/
theorem exponent {sign : Char} {digits : List Char} (hsign : sign ∈ ['+', '-'])
    (h : AllDigits digits) (hne : digits ≠ []) : NumeralTail ('e' :: sign :: digits) := by
  cases digits with
  | nil => exact absurd rfl hne
  | cons d digits =>
      have hrest : NumeralTail (sign :: d :: digits) :=
        marked (by simp_all) (h d List.mem_cons_self) h.tail
      refine ⟨?_, List.isChain_cons_cons.mpr ⟨⟨?_, by simp⟩, hrest.steps⟩⟩
      · intro c hc
        rcases List.mem_cons.mp hc with rfl | hc
        · exact .inr (by simp)
        · exact hrest.mem c hc
      · rintro rfl
        exact absurd hsign (by decide)

end NumeralTail

/-- The text of a number starts with a digit when the number is written without a sign. -/
structure IsUnsigned (chars : List Char) : Prop extends NumeralTail chars where
  start : ∀ c ∈ chars.head?, c.isDigit
  ne_nil : chars ≠ []

theorem IsUnsigned.isNumeral {chars : List Char} (h : IsUnsigned chars) : IsNumeral chars := by
  refine ⟨h.toNumeralTail, fun hhead => ?_⟩
  exact absurd (h.start 'e' hhead) (by decide)

theorem IsUnsigned.negated {chars : List Char} (h : IsUnsigned chars) :
    IsNumeral ('-' :: chars) := by
  cases chars with
  | nil => exact absurd rfl h.ne_nil
  | cons c rest => exact ⟨.marked (by simp) (h.start c rfl) h.toNumeralTail, by simp⟩

namespace AllDigits

theorem isUnsigned_append {digits rest : List Char} (hdigits : AllDigits digits)
    (hne : digits ≠ []) (hrest : NumeralTail rest) : IsUnsigned (digits ++ rest) := by
  refine ⟨hdigits.append_tail hrest, ?_, by simp [hne]⟩
  cases digits with
  | nil => exact absurd rfl hne
  | cons c digits =>
      intro d hd
      cases hd
      exact hdigits c List.mem_cons_self

theorem isUnsigned {digits : List Char} (h : AllDigits digits) (hne : digits ≠ []) :
    IsUnsigned digits := by
  have hnone : NumeralTail [] := ⟨by simp, by simp⟩
  simpa using h.isUnsigned_append hne hnone

theorem toList_toString_isUnsigned (n : Nat) : IsUnsigned (toString n).toList := by
  rw [toList_toString]
  exact (toDigits n).isUnsigned Nat.toDigits_ne_nil

end AllDigits

namespace Binary64

theorem allDigits_stripZeros {digits : List Char} (h : AllDigits digits) :
    AllDigits (stripZeros digits) := by
  apply h.of_sublist
  have hsub := (List.dropWhile_sublist (l := digits.reverse) (· == '0')).reverse
  rwa [List.reverse_reverse] at hsub

/-- A decimal is written as digits, then at most a point and digits, then at most an
exponent. -/
theorem isUnsigned_text (layout : Layout) (decimal : Decimal) :
    IsUnsigned (decimal.text layout).toList := by
  have hall := AllDigits.toDigits decimal.digits
  have hstripped := allDigits_stripZeros hall
  have hzero : AllDigits ['0'] := AllDigits.zeros 1
  unfold Decimal.text
  extract_lets all leading digits whole padded fraction mantissa
  split
  · split
    · -- A zero, the point, and the digits behind their zeros.
      have htail := NumeralTail.pointed ((AllDigits.zeros (-leading - 1).toNat).append hstripped)
      simpa using hzero.isUnsigned_append (by simp) htail
    · have hpadded : AllDigits padded := hstripped.append (AllDigits.zeros _)
      have hlength : (padded.take whole).length = whole := by
        simp only [padded, List.length_take, List.length_append, List.length_replicate]
        omega
      have hne : padded.take whole ≠ [] := by
        rw [← List.length_pos_iff, hlength]
        exact Nat.succ_pos _
      have hfraction : AllDigits (if fraction.isEmpty then ['0'] else fraction) := by
        split
        · exact hzero
        · exact hstripped.of_sublist (List.drop_sublist whole digits)
      have htail := NumeralTail.pointed hfraction
      have hresult := (hpadded.of_sublist (List.take_sublist whole padded)).isUnsigned_append
        hne htail
      split <;> simp_all
  · -- A digit, at most a point and digits, and the exponent.
    have hexponent : NumeralTail
        ('e' :: (if 0 ≤ leading then '+' else '-') :: Nat.toDigits 10 leading.natAbs) := by
      refine NumeralTail.exponent ?_ (AllDigits.toDigits _) Nat.toDigits_ne_nil
      split <;> simp
    have htext : (mantissa ++ "e" ++ (if 0 ≤ leading then "+" else "-") ++
        toString leading.natAbs).toList = mantissa.toList ++
          'e' :: (if 0 ≤ leading then '+' else '-') :: Nat.toDigits 10 leading.natAbs := by
      split <;> simp
    rw [htext]
    have hdigits : AllDigits digits := hstripped
    revert hdigits
    unfold mantissa
    cases digits with
    | nil => exact fun _ => hzero.isUnsigned_append (by simp) hexponent
    | cons d rest =>
        intro hdigits
        have hfirst : AllDigits [d] := hdigits.of_sublist (by simp)
        have hrest : AllDigits rest := hdigits.of_sublist (List.sublist_cons_self d rest)
        cases rest with
        | nil => simpa using hfirst.isUnsigned_append (by simp) hexponent
        | cons e rest =>
            have htail : NumeralTail ('.' :: e :: rest ++ 'e' ::
                (if 0 ≤ leading then '+' else '-') :: Nat.toDigits 10 leading.natAbs) :=
              .marked (by simp) (hrest e List.mem_cons_self) (hrest.append_tail hexponent)
            simpa using hfirst.isUnsigned_append (by simp) htail

theorem isNumeral_text (x : Binary64) : IsNumeral x.text.toList := by
  have hdigit : AllDigits ['0'] := AllDigits.zeros 1
  have hzero : IsUnsigned "0.0".toList :=
    hdigit.isUnsigned_append (by simp) (.pointed hdigit)
  have hmagnitude :
      IsUnsigned (if x.mantissa = 0 then "0.0" else x.shortest.text layout).toList := by
    split
    · exact hzero
    · exact isUnsigned_text layout x.shortest
  unfold Binary64.text
  cases x.negative with
  | false => simpa using hmagnitude.isNumeral
  | true => simpa using hmagnitude.negated

end Binary64

theorem Number.isNumeral_text (number : Number) : IsNumeral number.text.toList := by
  cases number with
  | real x => exact x.isNumeral_text
  | integer n =>
      cases n with
      | ofNat n => exact (AllDigits.toList_toString_isUnsigned n).isNumeral
      | negSucc n =>
          have h := (AllDigits.toList_toString_isUnsigned (n + 1)).negated
          have htext : (Number.integer (Int.negSucc n)).text = "-" ++ toString (n + 1) := rfl
          rw [htext, String.toList_append]
          exact h

end TenantQuery
