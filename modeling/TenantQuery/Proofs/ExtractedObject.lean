import TenantQuery.Proofs.WrappedObject
/-!
Whatever an answer is, what is taken out of it looks like an object.

It is a part of the answer where an opening brace stands before a closing one, and the empty object
where none does.  White space around an answer has no part in it, and what was taken out is taken
out of itself as it is.
-/

namespace TenantQuery

namespace Extraction

/-- An opening brace stands before a closing one. -/
def HoldsBraces (chars : List Char) : Prop :=
  ∃ before inner after, chars = before ++ '{' :: (inner ++ '}' :: after)

variable {chars part : List Char}

theorem isObjectShaped_iff :
    isObjectShaped chars ↔ ∃ inner, chars = '{' :: (inner ++ ['}']) := by
  constructor
  · intro h
    have hlast := getLast?_of_isObjectShaped h
    obtain ⟨tail, rfl⟩ := List.head?_eq_some_iff.mp (head?_of_isObjectShaped h)
    obtain ⟨front, hfront⟩ := List.getLast?_eq_some_iff.mp hlast
    cases front with
    | nil => cases hfront
    | cons c inner =>
        obtain ⟨-, rfl⟩ := List.cons.inj hfront
        exact ⟨inner, rfl⟩
  · rintro ⟨inner, rfl⟩
    have hlast : ('{' :: (inner ++ ['}'])).getLast? = some '}' :=
      List.getLast?_concat (l := '{' :: inner)
    rw [isObjectShaped, hlast]
    rfl

theorem HoldsBraces.of_isObjectShaped (h : isObjectShaped part) (hpart : part <:+: chars) :
    HoldsBraces chars := by
  obtain ⟨before, after, rfl⟩ := hpart
  obtain ⟨inner, rfl⟩ := isObjectShaped_iff.mp h
  exact ⟨before, inner, after, by simp⟩

/-- Between the first opening brace and the last closing one stands a part that looks like an
object. -/
theorem isObjectShaped_of_braced? (h : braced? chars = some part) :
    isObjectShaped part ∧ part <:+: chars := by
  unfold braced? at h
  dsimp only at h
  split at h
  · cases h
  · rename_i hsome
    obtain rfl := Option.some_inj.mp h
    generalize hopened : chars.dropWhile (· != '{') = opened at hsome ⊢
    have hprefix : (opened.reverse.dropWhile (· != '}')).reverse <+: opened := by
      have hsuffix := List.dropWhile_suffix (l := opened.reverse) (· != '}')
      simpa using List.reverse_prefix.mpr hsuffix
    have hinfix : opened <:+: chars := hopened ▸ (List.dropWhile_suffix (· != '{')).isInfix
    refine ⟨?_, hprefix.isInfix.trans hinfix⟩
    have hfirst := List.head?_dropWhile_not (· != '{') chars
    have hlast := List.head?_dropWhile_not (· != '}') opened.reverse
    rw [hopened] at hfirst
    rw [← List.getLast?_reverse] at hlast
    generalize (opened.reverse.dropWhile (· != '}')).reverse = closed at hsome hprefix hlast
    obtain ⟨after, rfl⟩ := hprefix
    cases closed with
    | nil => contradiction
    | cons c rest =>
        rw [List.getLast?_eq_some_getLast (List.cons_ne_nil c rest)] at hlast
        have hc : c = '{' := by simpa using hfirst
        have hend : (c :: rest).getLast (List.cons_ne_nil c rest) = '}' := by simpa using hlast
        rw [isObjectShaped, List.getLast?_eq_some_getLast (List.cons_ne_nil c rest), hend, hc]
        rfl

theorem isSome_braced?_iff : (braced? chars).isSome ↔ HoldsBraces chars := by
  constructor
  · intro h
    obtain ⟨part, hpart⟩ := Option.isSome_iff_exists.mp h
    obtain ⟨hshaped, hinfix⟩ := isObjectShaped_of_braced? hpart
    exact .of_isObjectShaped hshaped hinfix
  · rintro ⟨before, inner, after, rfl⟩
    -- The closing brace is not dropped with what stands in front of the first opening one.
    have hclosing : '}' ∈ (before ++ '{' :: (inner ++ '}' :: after)).dropWhile (· != '{') := by
      rw [List.dropWhile_append]
      split
      · simp
      · simp
    unfold braced?
    dsimp only
    rw [if_neg, Option.isSome_some]
    rw [List.isEmpty_reverse, List.isEmpty_iff, List.dropWhile_eq_nil_iff]
    intro hnone
    have hother := hnone '}' (List.mem_reverse.mpr hclosing)
    simp at hother

theorem skipTag_suffix (chars : List Char) : skipTag chars <:+ chars := by
  unfold skipTag
  split
  · split
    · rename_i j s o n rest _
      exact ⟨[j, s, o, n], rfl⟩
    · exact List.suffix_rfl
  · exact List.suffix_rfl

/-- A block is a part of its answer. -/
theorem infix_of_fencedBody? (h : fencedBody? chars = some part) : part <:+: chars := by
  rw [fencedBody?_eq] at h
  obtain ⟨block, hblock, rfl⟩ := Option.map_eq_some_iff.mp h
  obtain ⟨behind, hbehind, hbefore⟩ := Option.bind_eq_some_iff.mp hblock
  obtain ⟨before, houter⟩ := exists_firstFence_of_behind hbehind
  obtain ⟨rest, hinner⟩ := exists_firstFence_of_before hbefore
  obtain ⟨left, right, htrim, -, -⟩ := Text.exists_trimChars (skipTag block)
  calc Text.trimChars (skipTag block)
      <:+: skipTag block := ⟨left, right, htrim.symm⟩
    _ <:+: block := (skipTag_suffix block).isInfix
    _ <:+: behind := ⟨[], fence ++ rest, by simp [hinner.split]⟩
    _ <:+: chars := ⟨before ++ fence, [], by simp [houter.split]⟩

/-- What is taken out of trimmed characters is a part of them that looks like an object, or it
stands in for one where no opening brace stands before a closing one. -/
theorem fromTrimmed_cases (chars : List Char) :
    (isObjectShaped (fromTrimmed chars) ∧ fromTrimmed chars <:+: chars) ∨
      (¬ HoldsBraces chars ∧ fromTrimmed chars = ['{', '}']) := by
  unfold fromTrimmed
  split
  · rename_i hshaped
    exact .inl ⟨hshaped, List.infix_rfl⟩
  · split
    · rename_i body hbody
      obtain ⟨hfound, hshaped⟩ := Option.filter_eq_some_iff.mp hbody
      exact .inl ⟨hshaped, infix_of_fencedBody? hfound⟩
    · cases hbraced : braced? chars with
      | some part => exact .inl (isObjectShaped_of_braced? hbraced)
      | none =>
          refine .inr ⟨?_, rfl⟩
          rw [← isSome_braced?_iff, hbraced]
          simp

instance (chars : List Char) : Decidable (HoldsBraces chars) :=
  decidable_of_iff _ isSome_braced?_iff

variable {before response after : String}

theorem isObjectShaped_extract (response : String) :
    isObjectShaped (extract response).toList := by
  rw [extract, String.toList_ofList]
  rcases fromTrimmed_cases (Text.trimChars response.toList) with ⟨hshaped, -⟩ | ⟨-, hempty⟩
  · exact hshaped
  · rw [hempty]
    rfl

/-- What looks like an object is the whole of what is taken out of it. -/
theorem extract_eq_self (h : isObjectShaped response.toList) : extract response = response := by
  rw [extract_eq_iff, Text.trimChars_eq_self (head?_of_isObjectShaped h)
    (getLast?_of_isObjectShaped h) (by decide) (by decide), fromTrimmed, if_pos h]

theorem extract_padded (hbefore : Text.isBlankText before) (hafter : Text.isBlankText after) :
    extract (before ++ response ++ after) = extract response := by
  rw [Text.isBlankText, List.all_eq_true] at hbefore hafter
  rw [extract, String.toList_append, String.toList_append,
    Text.trimChars_padded response.toList hbefore hafter, extract]

theorem extract_infix (h : HoldsBraces (Text.trim response).toList) :
    (extract response).toList <:+: response.toList := by
  rw [Text.toList_trim] at h
  obtain ⟨left, right, hsplit, -, -⟩ := Text.exists_trimChars response.toList
  have htrim : Text.trimChars response.toList <:+: response.toList := ⟨left, right, hsplit.symm⟩
  rw [extract, String.toList_ofList]
  rcases fromTrimmed_cases (Text.trimChars response.toList) with ⟨-, hpart⟩ | ⟨hnone, -⟩
  · exact hpart.trans htrim
  · exact absurd h hnone

theorem extract_eq_empty (h : ¬ HoldsBraces (Text.trim response).toList) :
    extract response = "\x7b\x7d" := by
  rw [Text.toList_trim] at h
  rw [extract_eq_iff]
  rcases fromTrimmed_cases (Text.trimChars response.toList) with ⟨hshaped, hpart⟩ | ⟨-, hempty⟩
  · exact absurd (.of_isObjectShaped hshaped hpart) h
  · exact hempty

end Extraction

open Extraction

theorem Intent.load_empty : Intent.load "\x7b\x7d" = .ok ({}, []) := rfl

/-- What is taken out of an answer begins with an opening brace and ends with a closing one, is
taken out of itself as it is, and does not depend on white space around the answer.  It is a part
of the answer where an opening brace stands before a closing one; elsewhere it is the empty object,
which is read as a request for nothing. -/
theorem answer_yields_object (response : String) :
    (∃ inner, (extract response).toList = '{' :: (inner ++ ['}'])) ∧
    extract (extract response) = extract response ∧
    (∀ before after : String, Text.isBlankText before → Text.isBlankText after →
      extract (before ++ response ++ after) = extract response) ∧
    (HoldsBraces (Text.trim response).toList →
      (extract response).toList <:+: response.toList) ∧
    (¬ HoldsBraces (Text.trim response).toList →
      extract response = "\x7b\x7d" ∧ Intent.loadResponse response = .ok ({}, [])) := by
  have hshaped := isObjectShaped_extract response
  refine ⟨isObjectShaped_iff.mp hshaped, extract_eq_self hshaped,
    fun before after => extract_padded, extract_infix, fun hnone => ?_⟩
  have hempty := extract_eq_empty hnone
  exact ⟨hempty, by rw [Intent.loadResponse, hempty, Intent.load_empty]⟩

/-- An answer with braces around the block that its object is in. -/
def Sample.hedged : String :=
  "See \x7d or ```JSON\n\x7b\"table\": \"orders\"\x7d ```, not \x7bx\x7d."

theorem answer_yields_object_hedged :
    extract Sample.hedged = "\x7b\"table\": \"orders\"\x7d" ∧
    (extract Sample.hedged).toList <:+: Sample.hedged.toList ∧
    extract ("\u3000" ++ Sample.hedged ++ "\n") = extract Sample.hedged ∧
    Intent.loadResponse "\x7d backwards \x7b" = .ok ({}, []) := by
  obtain ⟨-, -, hpadded, hpart, -⟩ := answer_yields_object Sample.hedged
  obtain ⟨-, -, -, -, hnone⟩ := answer_yields_object "\x7d backwards \x7b"
  exact ⟨by decide +kernel, hpart (by decide +kernel),
    hpadded "\u3000" "\n" (by decide +kernel) (by decide +kernel),
    (hnone (by decide +kernel)).2⟩

end TenantQuery
