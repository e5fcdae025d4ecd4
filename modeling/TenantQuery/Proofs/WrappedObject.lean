import TenantQuery.Loading.Documents
import TenantQuery.Proofs.Intent.Fence
import TenantQuery.Proofs.Text.Blank
/-!
The object that an answer wraps is found.

An object stands in an answer among prose, bare or in a fenced block.  It is found as it is, unless
a fence inside its own strings makes a part of it look like an object: the body of its first block,
or what stands before its first fence where the object is in a block itself.
-/

namespace TenantQuery

namespace Extraction

/-- Characters that an object may stand among: none of them can be taken for a part of an object or
of a fence. -/
structure IsProse (chars : List Char) : Prop where
  unbraced : ∀ c ∈ chars, c ≠ '{' ∧ c ≠ '}'
  unquoted : '\x60' ∉ chars

section Wrapped

variable {object before after : List Char}

theorem IsProse.of_subset (h : IsProse before) (hsubset : after ⊆ before) : IsProse after :=
  ⟨fun c hc => h.unbraced c (hsubset hc), fun hquote => h.unquoted (hsubset hquote)⟩

theorem IsProse.dropBlank (h : IsProse before) : IsProse (Text.dropBlank before) :=
  h.of_subset (List.dropWhile_subset _)

theorem IsProse.dropBlank_reverse (h : IsProse after) :
    IsProse (Text.dropBlank after.reverse).reverse := by
  apply h.of_subset
  intro c hc
  exact List.mem_reverse.mp (List.dropWhile_subset _ (List.mem_reverse.mp hc))

theorem IsProse.head?_ne (h : IsProse after) : after.head? ≠ some '\x60' :=
  fun hhead => h.unquoted (List.mem_of_head? hhead)

theorem IsProse.behindFence?_eq_none (h : IsProse after) : behindFence? after = none := by
  rw [← List.append_nil after, behindFence?_append_of_not_mem h.unquoted]
  rfl

theorem IsProse.beforeFence?_eq_none (h : IsProse after) : beforeFence? after = none := by
  rw [← List.append_nil after, beforeFence?_append_of_not_mem h.unquoted]
  rfl

theorem head?_of_isObjectShaped (h : isObjectShaped object) : object.head? = some '{' := by
  rw [isObjectShaped, Bool.and_eq_true, beq_iff_eq] at h
  exact h.1

theorem getLast?_of_isObjectShaped (h : isObjectShaped object) : object.getLast? = some '}' := by
  rw [isObjectShaped, Bool.and_eq_true, beq_iff_eq, beq_iff_eq] at h
  exact h.2

/-- An object with anything around it does not make up the whole answer. -/
theorem not_isObjectShaped_wrapped (hbefore : IsProse before) (hafter : IsProse after)
    (h : before ≠ [] ∨ after ≠ []) : isObjectShaped (before ++ object ++ after) = false := by
  rw [Bool.eq_false_iff]
  intro hshaped
  cases before with
  | cons c before =>
      have hhead := head?_of_isObjectShaped hshaped
      exact (hbefore.unbraced c List.mem_cons_self).1 (Option.some_inj.mp hhead)
  | nil =>
      have hlast := getLast?_of_isObjectShaped hshaped
      obtain ⟨last, hend⟩ := Option.ne_none_iff_exists'.mp
        (mt List.getLast?_eq_none_iff.mp (h.resolve_left (by simp)))
      rw [List.nil_append, List.getLast?_append, hend, Option.some_or, Option.some_inj] at hlast
      exact (hafter.unbraced last (List.mem_of_getLast? hend)).2 hlast

/-- The braces around an object are the first and the last ones. -/
theorem braced?_wrapped (hobject : isObjectShaped object) (hbefore : ∀ c ∈ before, c ≠ '{')
    (hafter : ∀ c ∈ after, c ≠ '}') : braced? (before ++ object ++ after) = some object := by
  have hopened : (before ++ object ++ after).dropWhile (· != '{') = object ++ after := by
    rw [List.append_assoc, List.dropWhile_append_of_pos (by simpa using hbefore)]
    cases object with
    | nil => cases hobject
    | cons c object =>
        cases head?_of_isObjectShaped hobject
        simp
  have hclosed : ((object ++ after).reverse.dropWhile (· != '}')).reverse = object := by
    rw [List.reverse_append, List.dropWhile_append_of_pos (by simpa using hafter)]
    have hlast := getLast?_of_isObjectShaped hobject
    rw [← List.head?_reverse] at hlast
    cases hchars : object.reverse with
    | nil => simp [hchars] at hlast
    | cons c rest =>
        rw [hchars] at hlast
        cases hlast
        rw [List.dropWhile_cons_of_neg (by simp), ← hchars, List.reverse_reverse]
  have hsome : object.isEmpty = false := by
    cases object with
    | nil => cases hobject
    | cons c object => rfl
  simp only [braced?, hopened, hclosed, hsome, Bool.false_eq_true, ↓reduceIte]

/-- Prose around an object has no part in a block. -/
theorem fencedBody?_wrapped (hbefore : IsProse before) (hafter : IsProse after) :
    fencedBody? (before ++ object ++ after) = fencedBody? object := by
  have hbehind : behindFence? (before ++ object ++ after) =
      (behindFence? object).map (· ++ after) := by
    rw [List.append_assoc, behindFence?_append_of_not_mem hbefore.unquoted,
      behindFence?_append hafter.head?_ne, hafter.behindFence?_eq_none, Option.or_none]
  have hblock : ∀ behind, beforeFence? (behind ++ after) = beforeFence? behind := by
    intro behind
    rw [beforeFence?_append hafter.head?_ne, hafter.beforeFence?_eq_none, Option.map_none,
      Option.or_none]
  rw [fencedBody?_eq, fencedBody?_eq, hbehind]
  cases behindFence? object with
  | none => rfl
  | some behind => rw [Option.map_some, Option.bind_some, Option.bind_some, hblock]

/-- A bare object among prose gives way to its own first block alone. -/
theorem fromTrimmed_wrapped (hobject : isObjectShaped object) (hbefore : IsProse before)
    (hafter : IsProse after) (h : before ≠ [] ∨ after ≠ []) :
    fromTrimmed (before ++ object ++ after) =
      ((fencedBody? object).filter isObjectShaped).getD object := by
  rw [fromTrimmed, not_isObjectShaped_wrapped hbefore hafter h, fencedBody?_wrapped hbefore hafter,
    braced?_wrapped hobject (fun c hc => (hbefore.unbraced c hc).1)
      (fun c hc => (hafter.unbraced c hc).2)]
  cases (fencedBody? object).filter isObjectShaped <;> rfl

/-- The object in a fenced block of its own, on lines of its own. -/
def inBlock (object : List Char) : List Char :=
  fence ++ (['j', 's', 'o', 'n'] ++ '\n' :: (object ++ '\n' :: fence))

theorem isTag_json : IsTag ['j', 's', 'o', 'n'] :=
  ⟨'j', 's', 'o', 'n', rfl, by decide, by decide, by decide, by decide⟩

/-- The block ends at the first fence in the object, or else behind the object. -/
theorem beforeFence?_inBlock (object after : List Char) :
    beforeFence? ('\n' :: (object ++ '\n' :: (fence ++ after))) =
      some ('\n' :: (beforeFence? object).getD (object ++ ['\n'])) := by
  have hbreak : '\n' ≠ '\x60' := by decide
  have hhead : ('\n' :: (fence ++ after)).head? ≠ some '\x60' :=
    fun hhead => hbreak (Option.some_inj.mp hhead)
  rw [beforeFence?_cons (not_fence_isPrefix hbreak), beforeFence?_append hhead,
    beforeFence?_cons (not_fence_isPrefix hbreak), beforeFence?_fence]
  cases beforeFence? object <;> rfl

theorem fencedBody?_inBlock (hobject : isObjectShaped object) (hbefore : IsProse before)
    (after : List Char) :
    fencedBody? (before ++ inBlock object ++ after) =
      some (((beforeFence? object).map Text.trimChars).getD object) := by
  have hbehind : behindFence? (before ++ inBlock object ++ after) =
      some (['j', 's', 'o', 'n'] ++ '\n' :: (object ++ '\n' :: (fence ++ after))) := by
    rw [List.append_assoc, behindFence?_append_of_not_mem hbefore.unquoted, inBlock,
      List.append_assoc, behindFence?_fence]
    simp
  have hbreak : ∀ c ∈ ['\n'], Text.isBlank c := by simp [Text.isBlank]
  rw [fencedBody?_eq, hbehind, Option.bind_some,
    beforeFence?_append_of_not_mem isTag_json.quote_not_mem, beforeFence?_inBlock,
    Option.map_some, Option.map_some, skipTag_append isTag_json]
  cases beforeFence? object with
  | none =>
      have htrim : Text.trimChars object = object := Text.trimChars_eq_self
        (head?_of_isObjectShaped hobject) (getLast?_of_isObjectShaped hobject) (by decide)
        (by decide)
      exact congrArg some ((Text.trimChars_padded object hbreak hbreak).trans htrim)
  | some inner =>
      have hpadded := Text.trimChars_padded inner hbreak (List.forall_mem_nil _)
      rw [List.append_nil] at hpadded
      exact congrArg some hpadded

theorem not_isObjectShaped_inBlock (hbefore : IsProse before) (object after : List Char) :
    isObjectShaped (before ++ inBlock object ++ after) = false := by
  rw [Bool.eq_false_iff]
  intro hshaped
  have hhead := head?_of_isObjectShaped hshaped
  cases before with
  | nil => cases Option.some_inj.mp hhead
  | cons c before =>
      exact (hbefore.unbraced c List.mem_cons_self).1 (Option.some_inj.mp hhead)

/-- There are no braces in the fences of a block. -/
theorem braced?_inBlock (hobject : isObjectShaped object) (hbefore : IsProse before)
    (hafter : IsProse after) : braced? (before ++ inBlock object ++ after) = some object := by
  have hsplit : before ++ inBlock object ++ after =
      (before ++ (fence ++ ['j', 's', 'o', 'n', '\n'])) ++ object ++ ('\n' :: fence ++ after) := by
    simp [inBlock]
  have hopening : ∀ c ∈ fence ++ ['j', 's', 'o', 'n', '\n'], c ≠ '{' := by simp [fence]
  have hclosing : ∀ c ∈ '\n' :: fence, c ≠ '}' := by simp [fence]
  rw [hsplit]
  apply braced?_wrapped hobject
  · intro c hc
    exact (List.mem_append.mp hc).elim (fun hc => (hbefore.unbraced c hc).1) (hopening c)
  · intro c hc
    exact (List.mem_append.mp hc).elim (hclosing c) fun hc => (hafter.unbraced c hc).2

/-- An object in a block of its own gives way to what stands before its own first fence alone. -/
theorem fromTrimmed_inBlock (hobject : isObjectShaped object) (hbefore : IsProse before)
    (hafter : IsProse after) :
    fromTrimmed (before ++ inBlock object ++ after) =
      (((beforeFence? object).map Text.trimChars).filter isObjectShaped).getD object := by
  rw [fromTrimmed, not_isObjectShaped_inBlock hbefore, fencedBody?_inBlock hobject hbefore,
    braced?_inBlock hobject hbefore hafter]
  cases beforeFence? object with
  | none => simp [Option.filter, hobject]
  | some inner =>
      by_cases hinner : isObjectShaped (Text.trimChars inner)
      · simp [Option.filter, hinner]
      · simp [Option.filter, hinner]

/-- The first block in an object looks like an object. -/
def HoldsBlock (object : List Char) : Prop :=
  ∃ before behind block rest, FirstFence object before behind ∧ FirstFence behind block rest ∧
    isObjectShaped (Text.trimChars (skipTag block))

/-- An object looks like a whole one where its first fence begins. -/
def ClosesAtFence (object : List Char) : Prop :=
  ∃ before behind, FirstFence object before behind ∧ isObjectShaped (Text.trimChars before)

theorem holdsBlock_iff :
    HoldsBlock object ↔ ((fencedBody? object).filter isObjectShaped).isSome := by
  simp only [Option.isSome_iff_exists, Option.filter_eq_some_iff, fencedBody?_eq,
    Option.map_eq_some_iff, Option.bind_eq_some_iff]
  constructor
  · rintro ⟨before, behind, block, rest, houter, hinner, hshaped⟩
    exact ⟨_, ⟨block, ⟨behind, (firstFence_iff.mp houter).2, (firstFence_iff.mp hinner).1⟩, rfl⟩,
      hshaped⟩
  · rintro ⟨_, ⟨block, ⟨behind, hbehind, hblock⟩, rfl⟩, hshaped⟩
    obtain ⟨before, houter⟩ := exists_firstFence_of_behind hbehind
    obtain ⟨rest, hinner⟩ := exists_firstFence_of_before hblock
    exact ⟨before, behind, block, rest, houter, hinner, hshaped⟩

theorem closesAtFence_iff :
    ClosesAtFence object ↔
      (((beforeFence? object).map Text.trimChars).filter isObjectShaped).isSome := by
  simp only [Option.isSome_iff_exists, Option.filter_eq_some_iff, Option.map_eq_some_iff]
  constructor
  · rintro ⟨before, behind, hfence, hshaped⟩
    exact ⟨_, ⟨before, (firstFence_iff.mp hfence).1, rfl⟩, hshaped⟩
  · rintro ⟨_, ⟨before, hbefore, rfl⟩, hshaped⟩
    obtain ⟨behind, hfence⟩ := exists_firstFence_of_before hbefore
    exact ⟨before, behind, hfence, hshaped⟩

instance (object : List Char) : Decidable (HoldsBlock object) :=
  decidable_of_iff _ holdsBlock_iff.symm

instance (object : List Char) : Decidable (ClosesAtFence object) :=
  decidable_of_iff _ closesAtFence_iff.symm

/-- A part of an object is not the whole. -/
theorem getD_eq_self_iff {found : Option (List Char)}
    (h : ∀ body, found = some body → body.length < object.length) :
    found.getD object = object ↔ ¬ found.isSome := by
  cases found with
  | none => simp
  | some body =>
      have hlength := h body rfl
      simp only [Option.getD_some, Option.isSome_some, not_true_eq_false, iff_false]
      rintro rfl
      exact lt_irrefl _ hlength

theorem length_lt_of_fencedBody? {body : List Char}
    (h : (fencedBody? object).filter isObjectShaped = some body) :
    body.length < object.length := by
  simp only [Option.filter_eq_some_iff, fencedBody?_eq, Option.map_eq_some_iff,
    Option.bind_eq_some_iff] at h
  obtain ⟨⟨block, ⟨behind, hbehind, hblock⟩, rfl⟩, -⟩ := h
  obtain ⟨before, houter⟩ := exists_firstFence_of_behind hbehind
  obtain ⟨rest, hinner⟩ := exists_firstFence_of_before hblock
  have htrim := Text.length_trimChars_le (skipTag block)
  have htag := length_skipTag_le block
  have hobject := congrArg List.length houter.split
  have hbody := congrArg List.length hinner.split
  simp only [List.length_append, fence, List.length_cons, List.length_nil] at hobject hbody
  omega

theorem length_lt_of_beforeFence? {body : List Char}
    (h : ((beforeFence? object).map Text.trimChars).filter isObjectShaped = some body) :
    body.length < object.length := by
  simp only [Option.filter_eq_some_iff, Option.map_eq_some_iff] at h
  obtain ⟨⟨before, hbefore, rfl⟩, -⟩ := h
  obtain ⟨behind, hfence⟩ := exists_firstFence_of_before hbefore
  have htrim := Text.length_trimChars_le before
  have hobject := congrArg List.length hfence.split
  simp only [List.length_append, fence, List.length_cons, List.length_nil] at hobject
  omega

end Wrapped

section Answer

variable {object before after : String}

theorem extract_eq_iff {response : String} :
    extract response = object ↔
      fromTrimmed (Text.trimChars response.toList) = object.toList := by
  rw [extract, ← String.toList_inj, String.toList_ofList]

/-- A bare object is found unless its first block looks like an object and visible prose hides
that the object is the whole answer. -/
theorem extract_bare_eq_iff (hobject : isObjectShaped object.toList)
    (hbefore : IsProse before.toList) (hafter : IsProse after.toList) :
    extract (before ++ object ++ after) = object ↔
      (Text.isBlankText before ∧ Text.isBlankText after) ∨ ¬ HoldsBlock object.toList := by
  have htrim := Text.trimChars_around before.toList after.toList
    (head?_of_isObjectShaped hobject) (getLast?_of_isObjectShaped hobject) (by decide) (by decide)
  have hfront : Text.isBlankText before ↔ Text.dropBlank before.toList = [] := by
    rw [Text.dropBlank_eq_nil_iff, Text.isBlankText, List.all_eq_true]
  have hback : Text.isBlankText after ↔
      (Text.dropBlank after.toList.reverse).reverse = [] := by
    rw [List.reverse_eq_nil_iff, Text.dropBlank_eq_nil_iff, Text.isBlankText, List.all_eq_true]
    simp only [List.mem_reverse]
  rw [extract_eq_iff, String.toList_append, String.toList_append, htrim, hfront, hback]
  by_cases hbare : Text.dropBlank before.toList = [] ∧
      (Text.dropBlank after.toList.reverse).reverse = []
  · rw [hbare.1, hbare.2]
    simp [fromTrimmed, hobject]
  · rw [fromTrimmed_wrapped hobject hbefore.dropBlank hafter.dropBlank_reverse
      (not_and_or.mp hbare), getD_eq_self_iff fun body => length_lt_of_fencedBody?, holdsBlock_iff]
    exact (or_iff_right hbare).symm

/-- An object in a block of its own is found unless it looks like a whole one where its first fence
begins. -/
theorem extract_inBlock_eq_iff (hobject : isObjectShaped object.toList)
    (hbefore : IsProse before.toList) (hafter : IsProse after.toList) :
    extract (before ++ "```json\n" ++ object ++ "\n```" ++ after) = object ↔
      ¬ ClosesAtFence object.toList := by
  have hchars : (before ++ "```json\n" ++ object ++ "\n```" ++ after).toList =
      before.toList ++ inBlock object.toList ++ after.toList := by
    simp [inBlock, fence]
  have hhead : (inBlock object.toList).head? = some '\x60' := rfl
  have hlast : (inBlock object.toList).getLast? = some '\x60' := by
    have hend : inBlock object.toList = fence ++ (['j', 's', 'o', 'n'] ++ '\n' ::
        (object.toList ++ ['\n', '\x60', '\x60'])) ++ ['\x60'] := by
      simp [inBlock, fence]
    rw [hend, List.getLast?_concat]
  rw [extract_eq_iff, hchars, Text.trimChars_around _ _ hhead hlast (by decide) (by decide),
    fromTrimmed_inBlock hobject hbefore.dropBlank hafter.dropBlank_reverse,
    getD_eq_self_iff fun body => length_lt_of_beforeFence?, closesAtFence_iff]

end Answer

end Extraction

open Extraction

/-- The object that prose or a fenced block wraps is found, and the answer is read as the object
is, unless a fence in the object makes a part of it look like an object. -/
theorem wrapped_object_found {object before after : String}
    (hobject : isObjectShaped object.toList) (hbefore : IsProse before.toList)
    (hafter : IsProse after.toList) :
    (extract (before ++ object ++ after) = object ↔
      (Text.isBlankText before ∧ Text.isBlankText after) ∨ ¬ HoldsBlock object.toList) ∧
    (extract (before ++ "```json\n" ++ object ++ "\n```" ++ after) = object ↔
      ¬ ClosesAtFence object.toList) ∧
    ((Text.isBlankText before ∧ Text.isBlankText after) ∨ ¬ HoldsBlock object.toList →
      Intent.loadResponse (before ++ object ++ after) = Intent.load object) ∧
    (¬ ClosesAtFence object.toList →
      Intent.loadResponse (before ++ "```json\n" ++ object ++ "\n```" ++ after) =
        Intent.load object) := by
  have hbare := extract_bare_eq_iff hobject hbefore hafter
  have hblock := extract_inBlock_eq_iff hobject hbefore hafter
  refine ⟨hbare, hblock, fun h => ?_, fun h => ?_⟩
  · rw [Intent.loadResponse, hbare.mpr h]
  · rw [Intent.loadResponse, hblock.mpr h]

/-- An object whose text has fences, a brace and an escaped line break. -/
def Sample.queryObject : String := "\x7b\"sql\": \"```sql\\nSELECT 1``` \x7b\"\x7d"

/-- Fences and braces in the text of an object do no harm by themselves. -/
theorem wrapped_object_found_query :
    extract ("Here it is: " ++ Sample.queryObject ++ " Anything else?") = Sample.queryObject ∧
    extract ("Here it is: " ++ "```json\n" ++ Sample.queryObject ++ "\n```" ++ " Anything else?") =
      Sample.queryObject := by
  have hobject : isObjectShaped Sample.queryObject.toList := by decide +kernel
  have hbefore : IsProse "Here it is: ".toList := ⟨by simp, by simp⟩
  have hafter : IsProse " Anything else?".toList := ⟨by simp, by simp⟩
  obtain ⟨hbare, hblock, -, -⟩ := wrapped_object_found hobject hbefore hafter
  exact ⟨hbare.mpr (.inr (by decide +kernel)), hblock.mpr (by decide +kernel)⟩

theorem exists_members_of_isSome {value? : Option Json}
    (h : (value?.bind Intent.ofJson?).isSome) : ∃ members, value? = some (.object members) := by
  obtain ⟨noted, hnoted⟩ := Option.isSome_iff_exists.mp h
  obtain ⟨value, rfl, hread⟩ := Option.bind_eq_some_iff.mp hnoted
  cases value with
  | object members => exact ⟨members, rfl⟩
  | null | bool _ | number _ | string _ | array _ => cases hread

/-- An object whose text has a block with an object in it. -/
def Sample.blockObject : String := "\x7b\"sql\": \"```\x7b\x7d```\"\x7d"

/-- An object whose text has a closing brace before a fence. -/
def Sample.cutObject : String := "\x7b\"sql\": \"\x7d```\"\x7d"

/-- A fence in the text of an object can hide the object: a block in it is taken for the object, or
the object is cut off at the fence. -/
theorem wrapped_object_missed :
    (¬ ∀ object before after : String,
      (∃ members, Json.parse? object = some (.object members)) → isObjectShaped object.toList →
        IsProse before.toList → IsProse after.toList →
          extract (before ++ object ++ after) = object) ∧
    ¬ ∀ object before after : String,
      (∃ members, Json.parse? object = some (.object members)) → isObjectShaped object.toList →
        IsProse before.toList → IsProse after.toList →
          extract (before ++ "```json\n" ++ object ++ "\n```" ++ after) = object := by
  have hnone : IsProse "".toList := ⟨by simp, by simp⟩
  constructor
  · intro hall
    have hbefore : IsProse "Answer: ".toList := ⟨by simp, by simp⟩
    have hwhole := hall Sample.blockObject "Answer: " ""
      (exists_members_of_isSome (by decide +kernel)) (by decide +kernel) hbefore hnone
    have hpart : extract ("Answer: " ++ Sample.blockObject ++ "") = "\x7b\x7d" := by
      decide +kernel
    exact absurd (hpart.symm.trans hwhole) (by decide +kernel)
  · intro hall
    have hwhole := hall Sample.cutObject "" ""
      (exists_members_of_isSome (by decide +kernel)) (by decide +kernel) hnone hnone
    have hpart : extract ("" ++ "```json\n" ++ Sample.cutObject ++ "\n```" ++ "") =
        "\x7b\"sql\": \"\x7d" := by
      decide +kernel
    exact absurd (hpart.symm.trans hwhole) (by decide +kernel)

end TenantQuery
