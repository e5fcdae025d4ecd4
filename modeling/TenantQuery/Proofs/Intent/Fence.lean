import Mathlib
import TenantQuery.Intent.Extraction
/-!
Where the fences of an answer are.

A fence is three back quotes in a row.  The block of an answer is what stands between its first
fence and the next one, and this is so whatever stands around the two, unless it adds an earlier
fence.
-/

namespace TenantQuery.Extraction

def fence : List Char := ['\x60', '\x60', '\x60']

/-- The first fence of the characters, with what stands before and behind it. -/
structure FirstFence (chars before behind : List Char) : Prop where
  split : chars = before ++ fence ++ behind
  first : ∀ other rest, chars = other ++ fence ++ rest → before.length ≤ other.length

theorem isPrefixOf?_fence_eq_none_iff {chars : List Char} :
    List.isPrefixOf? ['\x60', '\x60', '\x60'] chars = none ↔ ¬ fence <+: chars := by
  rw [← Option.not_isSome_iff_eq_none, List.isSome_isPrefixOf?_eq_isPrefixOf,
    List.isPrefixOf_iff_prefix]
  rfl

section Search

variable {c : Char} {chars rest before behind : List Char}

theorem behindFence?_fence (rest : List Char) : behindFence? (fence ++ rest) = some rest := by
  simp [fence, behindFence?, List.isPrefixOf?]

theorem beforeFence?_fence (rest : List Char) : beforeFence? (fence ++ rest) = some [] := by
  simp [fence, beforeFence?]

theorem behindFence?_cons (h : ¬ fence <+: c :: rest) :
    behindFence? (c :: rest) = behindFence? rest := by
  rw [behindFence?, isPrefixOf?_fence_eq_none_iff.mpr h]

theorem beforeFence?_cons (h : ¬ fence <+: c :: rest) :
    beforeFence? (c :: rest) = (beforeFence? rest).map (c :: ·) := by
  rw [beforeFence?, if_neg]
  rw [List.isPrefixOf_iff_prefix]
  exact h

theorem firstFence_fence_append_iff :
    FirstFence (fence ++ rest) before behind ↔ before = [] ∧ behind = rest := by
  constructor
  · intro h
    have hbefore : before = [] := List.eq_nil_of_length_eq_zero
      (Nat.le_zero.mp (h.first [] rest rfl))
    have hsplit := h.split
    rw [hbefore] at hsplit
    exact ⟨hbefore, (List.append_cancel_left hsplit).symm⟩
  · rintro ⟨rfl, rfl⟩
    exact ⟨rfl, fun _ _ _ => Nat.zero_le _⟩

theorem firstFence_cons_iff (h : ¬ fence <+: c :: rest) :
    FirstFence (c :: rest) before behind ↔
      ∃ inner, before = c :: inner ∧ FirstFence rest inner behind := by
  constructor
  · rintro ⟨hsplit, hfirst⟩
    cases before with
    | nil => exact absurd ⟨behind, hsplit.symm⟩ h
    | cons d inner =>
        obtain ⟨rfl, hrest⟩ := List.cons.inj hsplit
        refine ⟨inner, rfl, hrest, fun other more hmore => ?_⟩
        have hlength := hfirst (c :: other) more (congrArg (c :: ·) hmore)
        exact Nat.le_of_succ_le_succ hlength
  · rintro ⟨inner, rfl, hsplit, hfirst⟩
    refine ⟨congrArg (c :: ·) hsplit, fun other more hmore => ?_⟩
    cases other with
    | nil => exact absurd ⟨more, hmore.symm⟩ h
    | cons d other => exact Nat.succ_le_succ (hfirst other more (List.cons.inj hmore).2)

/-- The two searches find the first fence. -/
theorem firstFence_iff :
    FirstFence chars before behind ↔
      beforeFence? chars = some before ∧ behindFence? chars = some behind := by
  induction chars generalizing before with
  | nil =>
      constructor
      · intro h
        simpa [fence] using h.split
      · rintro ⟨h, -⟩
        cases h
  | cons c rest ih =>
      by_cases h : fence <+: c :: rest
      · obtain ⟨more, hmore⟩ := h
        rw [← hmore, firstFence_fence_append_iff, beforeFence?_fence, behindFence?_fence,
          Option.some_inj, Option.some_inj, eq_comm, eq_comm (a := more)]
      · rw [firstFence_cons_iff h, beforeFence?_cons h, behindFence?_cons h,
          Option.map_eq_some_iff]
        constructor
        · rintro ⟨inner, rfl, hinner⟩
          exact ⟨⟨inner, (ih.mp hinner).1, rfl⟩, (ih.mp hinner).2⟩
        · rintro ⟨⟨inner, hinner, rfl⟩, hbehind⟩
          exact ⟨inner, rfl, ih.mpr ⟨hinner, hbehind⟩⟩

theorem isSome_beforeFence? (chars : List Char) :
    (beforeFence? chars).isSome = (behindFence? chars).isSome := by
  induction chars with
  | nil => rfl
  | cons c rest ih =>
      by_cases h : fence <+: c :: rest
      · obtain ⟨more, hmore⟩ := h
        rw [← hmore, beforeFence?_fence, behindFence?_fence]
        rfl
      · rw [beforeFence?_cons h, behindFence?_cons h, Option.isSome_map, ih]

theorem exists_firstFence_of_before (h : beforeFence? chars = some before) :
    ∃ behind, FirstFence chars before behind := by
  have hsome := isSome_beforeFence? chars
  rw [h, Option.isSome_some, eq_comm, Option.isSome_iff_exists] at hsome
  obtain ⟨behind, hbehind⟩ := hsome
  exact ⟨behind, firstFence_iff.mpr ⟨h, hbehind⟩⟩

theorem exists_firstFence_of_behind (h : behindFence? chars = some behind) :
    ∃ before, FirstFence chars before behind := by
  have hsome := isSome_beforeFence? chars
  rw [h, Option.isSome_some, Option.isSome_iff_exists] at hsome
  obtain ⟨before, hbefore⟩ := hsome
  exact ⟨before, firstFence_iff.mpr ⟨hbefore, h⟩⟩

theorem not_fence_isPrefix (h : c ≠ '\x60') : ¬ fence <+: c :: rest := by
  rintro ⟨more, hmore⟩
  exact h (List.cons.inj hmore).1.symm

/-- A fence at the front of joined characters stands in the first of them, when the second begin
with no back quote. -/
theorem fence_isPrefix_append_iff (h : rest.head? ≠ some '\x60') :
    fence <+: chars ++ rest ↔ fence <+: chars := by
  refine ⟨?_, fun hprefix => hprefix.trans (List.prefix_append chars rest)⟩
  rintro ⟨more, hmore⟩
  rcases List.append_eq_append_iff.mp hmore with ⟨inner, rfl, -⟩ | ⟨inner, hinner, rfl⟩
  · exact List.prefix_append fence inner
  · cases inner with
    | nil => rw [hinner, List.append_nil]
    | cons d inner =>
        have hd : d ∈ fence := hinner ▸ List.mem_append_right chars List.mem_cons_self
        have hquote : d = '\x60' := by simpa [fence] using hd
        exact absurd (congrArg some hquote) h

theorem behindFence?_append_of_not_mem (h : '\x60' ∉ chars) :
    behindFence? (chars ++ rest) = behindFence? rest := by
  induction chars with
  | nil => rfl
  | cons c chars ih =>
      rw [List.mem_cons, not_or] at h
      rw [List.cons_append, behindFence?_cons (not_fence_isPrefix (Ne.symm h.1)), ih h.2]

theorem beforeFence?_append_of_not_mem (h : '\x60' ∉ chars) :
    beforeFence? (chars ++ rest) = (beforeFence? rest).map (chars ++ ·) := by
  induction chars with
  | nil => exact Option.map_id'.symm
  | cons c chars ih =>
      rw [List.mem_cons, not_or] at h
      rw [List.cons_append, beforeFence?_cons (not_fence_isPrefix (Ne.symm h.1)), ih h.2,
        Option.map_map]
      rfl

theorem behindFence?_append (h : rest.head? ≠ some '\x60') :
    behindFence? (chars ++ rest) =
      ((behindFence? chars).map (· ++ rest)).or (behindFence? rest) := by
  induction chars with
  | nil => rfl
  | cons c chars ih =>
      by_cases hprefix : fence <+: c :: chars
      · obtain ⟨more, hmore⟩ := hprefix
        rw [← hmore, List.append_assoc, behindFence?_fence, behindFence?_fence]
        rfl
      · rw [behindFence?_cons hprefix, List.cons_append, behindFence?_cons, ih]
        rwa [← List.cons_append, fence_isPrefix_append_iff h]

theorem beforeFence?_append (h : rest.head? ≠ some '\x60') :
    beforeFence? (chars ++ rest) =
      (beforeFence? chars).or ((beforeFence? rest).map (chars ++ ·)) := by
  induction chars with
  | nil => exact Option.map_id'.symm
  | cons c chars ih =>
      by_cases hprefix : fence <+: c :: chars
      · obtain ⟨more, hmore⟩ := hprefix
        rw [← hmore, List.append_assoc, beforeFence?_fence, beforeFence?_fence]
        rfl
      · rw [beforeFence?_cons hprefix, List.cons_append, beforeFence?_cons, ih]
        · cases beforeFence? chars <;> simp [Function.comp_def]
        · rwa [← List.cons_append, fence_isPrefix_append_iff h]

end Search

section Tag

/-- The tag `json` in any letter case. -/
def IsTag (tag : List Char) : Prop :=
  ∃ j s o n, tag = [j, s, o, n] ∧ isLetter 'j' j ∧ isLetter 's' s ∧ isLetter 'o' o ∧ isLetter 'n' n

variable {tag chars : List Char}

theorem IsTag.quote_not_mem (h : IsTag tag) : '\x60' ∉ tag := by
  obtain ⟨j, s, o, n, rfl, hj, hs, ho, hn⟩ := h
  simp only [List.mem_cons, List.not_mem_nil, or_false, not_or]
  refine ⟨?_, ?_, ?_, ?_⟩
  · rintro rfl
    simp [isLetter] at hj
  · rintro rfl
    simp [isLetter] at hs
  · rintro rfl
    simp [isLetter] at ho
  · rintro rfl
    simp [isLetter] at hn

theorem skipTag_append (h : IsTag tag) (rest : List Char) : skipTag (tag ++ rest) = rest := by
  obtain ⟨j, s, o, n, rfl, hj, hs, ho, hn⟩ := h
  simp [skipTag, hj, hs, ho, hn]

theorem skipTag_eq_self (h : ∀ tag, IsTag tag → ¬ tag <+: chars) : skipTag chars = chars := by
  unfold skipTag
  split
  · rename_i j s o n rest
    rw [if_neg]
    intro htag
    simp only [Bool.and_eq_true] at htag
    obtain ⟨⟨⟨hj, hs⟩, ho⟩, hn⟩ := htag
    exact h [j, s, o, n] ⟨j, s, o, n, rfl, hj, hs, ho, hn⟩ ⟨rest, rfl⟩
  · rfl

theorem length_skipTag_le (chars : List Char) : (skipTag chars).length ≤ chars.length := by
  unfold skipTag
  split
  · split
    · simp only [List.length_cons]
      omega
    · exact le_rfl
  · exact le_rfl

/-- Skipping the tag of a block does not move the fence behind it. -/
theorem beforeFence?_skipTag (chars : List Char) :
    beforeFence? (skipTag chars) = (beforeFence? chars).map skipTag := by
  by_cases htag : ∃ tag, IsTag tag ∧ tag <+: chars
  · obtain ⟨tag, htag, rest, rfl⟩ := htag
    rw [skipTag_append htag, beforeFence?_append_of_not_mem htag.quote_not_mem, Option.map_map]
    simp [Function.comp_def, skipTag_append htag]
  · rw [not_exists] at htag
    rw [skipTag_eq_self fun tag h hprefix => htag tag ⟨h, hprefix⟩]
    cases hbefore : beforeFence? chars with
    | none => rfl
    | some before =>
        obtain ⟨behind, hfence⟩ := exists_firstFence_of_before hbefore
        have hprefix : before <+: chars := hfence.split ▸ ⟨fence ++ behind, by simp⟩
        rw [Option.map_some, skipTag_eq_self fun tag h htagged =>
          htag tag ⟨h, htagged.trans hprefix⟩]

/-- A block is what stands between two fences, without its tag and the white space around it. -/
theorem fencedBody?_eq (chars : List Char) :
    fencedBody? chars =
      ((behindFence? chars).bind beforeFence?).map fun block => Text.trimChars (skipTag block) := by
  cases hbehind : behindFence? chars with
  | none => simp [fencedBody?, hbehind]
  | some behind =>
      simp only [fencedBody?, hbehind, Option.bind_eq_bind, Option.bind_some,
        beforeFence?_skipTag]
      cases beforeFence? behind <;> rfl

end Tag

end TenantQuery.Extraction
