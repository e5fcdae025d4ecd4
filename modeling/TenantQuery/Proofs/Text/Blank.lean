import Mathlib.Data.List.TakeWhile
import TenantQuery.Text.Blank
/-!
What trimming takes away: the blank characters at both ends and nothing else.
-/

namespace TenantQuery.Text

theorem dropBlank_blank_append {blank chars : List Char} (h : ∀ c ∈ blank, isBlank c) :
    dropBlank (blank ++ chars) = dropBlank chars :=
  List.dropWhile_append_of_pos h

theorem dropBlank_append_blank (chars : List Char) {blank : List Char}
    (h : ∀ c ∈ blank, isBlank c) :
    ∃ kept, dropBlank (chars ++ blank) = dropBlank chars ++ kept ∧ ∀ c ∈ kept, isBlank c := by
  unfold dropBlank
  rw [List.dropWhile_append]
  split
  · rename_i hempty
    refine ⟨blank.dropWhile isBlank, by simp_all, ?_⟩
    intro c hc
    exact h c ((List.dropWhile_sublist isBlank).mem hc)
  · exact ⟨blank, rfl, h⟩

/-- Blank characters around a text do not change what trimming leaves of it. -/
theorem trimChars_padded {before after : List Char} (chars : List Char)
    (hbefore : ∀ c ∈ before, isBlank c) (hafter : ∀ c ∈ after, isBlank c) :
    trimChars (before ++ chars ++ after) = trimChars chars := by
  obtain ⟨kept, hkept, hblank⟩ := dropBlank_append_blank chars hafter
  unfold trimChars
  rw [List.append_assoc, dropBlank_blank_append hbefore, hkept, List.reverse_append,
    dropBlank_blank_append]
  intro c hc
  exact hblank c (List.mem_reverse.mp hc)

theorem dropBlank_append_visible {chars rest : List Char} {first : Char}
    (hfirst : rest.head? = some first) (hshown : isBlank first = false) :
    dropBlank (chars ++ rest) = dropBlank chars ++ rest := by
  have hrest : dropBlank rest = rest := by
    cases rest with
    | nil => rfl
    | cons c rest =>
        cases hfirst
        simp [dropBlank, hshown]
  unfold dropBlank at hrest ⊢
  rw [List.dropWhile_append]
  split
  · rename_i hempty
    rw [hrest, List.isEmpty_iff.mp hempty, List.nil_append]
  · rfl

/-- Trimming stops at a part with visible ends. -/
theorem trimChars_around (before after : List Char) {chars : List Char} {first last : Char}
    (hfirst : chars.head? = some first) (hlast : chars.getLast? = some last)
    (hshown : isBlank first = false) (hend : isBlank last = false) :
    trimChars (before ++ chars ++ after) =
      dropBlank before ++ chars ++ (dropBlank after.reverse).reverse := by
  have hfront : dropBlank (before ++ (chars ++ after)) = dropBlank before ++ (chars ++ after) :=
    dropBlank_append_visible (by simp [hfirst]) hshown
  have hback : dropBlank (after.reverse ++ (chars.reverse ++ (dropBlank before).reverse)) =
      dropBlank after.reverse ++ (chars.reverse ++ (dropBlank before).reverse) :=
    dropBlank_append_visible (by simp [hlast]) hend
  rw [trimChars, List.append_assoc, hfront]
  simp only [List.reverse_append, List.append_assoc] at hback ⊢
  rw [hback]
  simp

/-- A text with visible ends is left as it is. -/
theorem trimChars_eq_self {first last : Char} {chars : List Char}
    (hfirst : chars.head? = some first) (hlast : chars.getLast? = some last)
    (hshown : isBlank first = false) (hend : isBlank last = false) : trimChars chars = chars := by
  simpa [dropBlank] using trimChars_around [] [] hfirst hlast hshown hend

/-- A text is what trimming leaves of it between blank characters. -/
theorem exists_trimChars (chars : List Char) :
    ∃ before after, chars = before ++ trimChars chars ++ after ∧ (∀ c ∈ before, isBlank c) ∧
      ∀ c ∈ after, isBlank c := by
  refine ⟨chars.takeWhile isBlank, ((dropBlank chars).reverse.takeWhile isBlank).reverse,
    ?_, ?_, ?_⟩
  · have hback : trimChars chars ++ ((dropBlank chars).reverse.takeWhile isBlank).reverse =
        dropBlank chars := by
      rw [trimChars, dropBlank, ← List.reverse_append, List.takeWhile_append_dropWhile,
        List.reverse_reverse]
    rw [List.append_assoc, hback, dropBlank, List.takeWhile_append_dropWhile]
  · intro c hc
    exact List.all_eq_true.mp List.all_takeWhile c hc
  · intro c hc
    exact List.all_eq_true.mp List.all_takeWhile c (List.mem_reverse.mp hc)

/-- Nothing blank is left in front. -/
theorem dropBlank_trimChars (chars : List Char) :
    dropBlank (trimChars chars) = trimChars chars := by
  have hprefix : trimChars chars <+: dropBlank chars := by
    have hsuffix := List.dropWhile_suffix (l := (dropBlank chars).reverse) isBlank
    simpa [trimChars, dropBlank] using List.reverse_prefix.mpr hsuffix
  cases htrim : trimChars chars with
  | nil => rfl
  | cons c rest =>
      obtain ⟨tail, htail⟩ := htrim ▸ hprefix
      have hshown := List.head?_dropWhile_not isBlank chars
      rw [show chars.dropWhile isBlank = c :: (rest ++ tail) from htail.symm] at hshown
      exact List.dropWhile_cons_of_neg (by simpa using hshown)

/-- A text without anything blank in it is left as it is. -/
theorem trimChars_of_visible {chars : List Char} (h : ∀ c ∈ chars, isBlank c = false) :
    trimChars chars = chars := by
  have hdrop : ∀ {part : List Char}, (∀ c ∈ part, isBlank c = false) → dropBlank part = part := by
    intro part hpart
    cases part with
    | nil => rfl
    | cons c rest => exact List.dropWhile_cons_of_neg (by simp [hpart c List.mem_cons_self])
  rw [trimChars, hdrop h, hdrop fun c hc => h c (List.mem_reverse.mp hc), List.reverse_reverse]

theorem length_trimChars_le (chars : List Char) : (trimChars chars).length ≤ chars.length := by
  obtain ⟨before, after, hchars, -, -⟩ := exists_trimChars chars
  have hlength := congrArg List.length hchars
  rw [List.length_append, List.length_append] at hlength
  omega

theorem dropBlank_eq_nil_iff {chars : List Char} :
    dropBlank chars = [] ↔ ∀ c ∈ chars, isBlank c := by
  rw [dropBlank, List.dropWhile_eq_nil_iff]

/-- Trimming leaves nothing of a blank text, and of no other. -/
theorem isEmpty_trim (text : String) : (trim text).isEmpty = isBlankText text := by
  have hempty : (trim text).isEmpty = (trimChars text.toList).isEmpty := by
    rw [← toList_trim, Bool.eq_iff_iff, List.isEmpty_iff, String.isEmpty_iff]
    simp [String.ext_iff]
  rw [hempty, isBlankText, Bool.eq_iff_iff, List.isEmpty_iff, List.all_eq_true]
  constructor
  · intro hnone
    obtain ⟨before, after, htext, hbefore, hafter⟩ := exists_trimChars text.toList
    rw [hnone, List.append_nil] at htext
    rw [htext]
    intro c hc
    rcases List.mem_append.mp hc with hc | hc
    · exact hbefore c hc
    · exact hafter c hc
  · intro hblank
    have hnone := trimChars_padded [] hblank (List.forall_mem_nil _)
    rw [List.append_nil, List.append_nil] at hnone
    exact hnone.trans (by decide)

end TenantQuery.Text
