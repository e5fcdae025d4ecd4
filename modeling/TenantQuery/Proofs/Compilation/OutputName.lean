import TenantQuery.Compilation.Columns
import TenantQuery.Proofs.Identifier
/-!
Output names are names.

An output name is the requested one, the default, or a numbered cut of the default.  A default is
the column or the column behind its aggregate, and no cut of it is a reserved word.
-/

namespace TenantQuery.Compilation

open Identifier

/-- A text that names are made of by cutting and numbering. -/
structure IsBaseName (base : String) : Prop where
  name : IsName base.toList
  cut : ∀ word ∈ reservedWords, base.toList.take maxLength ≠ word.toList

theorem isName_take {chars : List Char} (h : IsName chars) {n : Nat} (hn : n ≠ 0)
    (hcut : ∀ word ∈ reservedWords, chars.take n ≠ word.toList) : IsName (chars.take n) := by
  obtain ⟨c, hc, hstart⟩ := h.start
  refine ⟨⟨c, ?_, hstart⟩, fun d hd => h.all d (List.mem_of_mem_take hd), ?_, hcut⟩
  · rwa [List.head?_take, if_neg hn]
  · rw [List.map_take, h.folded]

theorem last_not_isDigit_of_reserved : ∀ word ∈ reservedWords, ∀ c ∈ word.toList.getLast?,
    c.isDigit = false := by
  simp only [reservedWords, List.forall_mem_cons]
  simp

theorem folded_of_isDigit {c : Char} (h : c.isDigit) : c.toLower = c := by
  refine Char.toLower_eq_of_not_isUpper fun hupper => ?_
  have hstart : isNameStart c := by simp [isNameStart, Char.isAlpha, hupper]
  simp [not_isDigit_of_isNameStart hstart] at h

/-- A number behind a name, or alone behind the underscore. -/
theorem isName_numbered {chars : List Char} (hall : ∀ c ∈ chars, isNameChar c)
    (hstart : ∀ c ∈ chars.head?, isNameStart c) (hfolded : chars.map Char.toLower = chars)
    (n : Nat) : IsName (chars ++ '_' :: Nat.toDigits 10 n) := by
  have hdigits : ∀ c ∈ Nat.toDigits 10 n, c.isDigit := fun c hc => Nat.isDigit_of_mem_toDigits
    (by decide) (by decide) hc
  refine ⟨?_, ?_, ?_, ?_⟩
  · cases chars with
    | nil => exact ⟨'_', rfl, by decide⟩
    | cons c rest => exact ⟨c, rfl, hstart c rfl⟩
  · intro c hc
    simp only [List.mem_append, List.mem_cons] at hc
    rcases hc with hc | rfl | hc
    · exact hall c hc
    · decide
    · exact isNameChar_iff.mpr (.inr (hdigits c hc))
  · rw [List.map_append, hfolded, List.map_cons]
    congr 2
    exact (List.map_congr_left fun c hc => folded_of_isDigit (hdigits c hc)).trans
      (List.map_id' _)
  · intro word hword heq
    have hlast := List.getLast?_eq_some_getLast (Nat.toDigits_ne_nil (b := 10) (n := n))
    generalize (Nat.toDigits 10 n).getLast _ = last at hlast
    have hend : word.toList.getLast? = some last := by
      rw [← heq, List.getLast?_append, List.getLast?_cons, hlast]
      rfl
    have hdigit := hdigits last (List.mem_of_getLast? hlast)
    simp [last_not_isDigit_of_reserved word hword last hend] at hdigit

theorem candidate_succ_toList (base : String) (k : Nat) :
    (candidate base (k + 1)).toList =
      base.toList.take (maxLength - (Nat.toDigits 10 (k + 2)).length - 1) ++
        '_' :: Nat.toDigits 10 (k + 2) := by
  have hsuffix : ("_" ++ toString (k + 2)).toList = '_' :: Nat.toDigits 10 (k + 2) := by
    simp
  have hlength : ("_" ++ toString (k + 2)).length = (Nat.toDigits 10 (k + 2)).length + 1 := by
    rw [← String.length_toList, hsuffix, List.length_cons]
  rw [candidate, cutFor, String.toList_append, String.toList_ofList, hsuffix, hlength,
    Nat.sub_add_eq]

theorem isName_candidate {base : String} (h : IsBaseName base) (k : Nat) :
    IsName (candidate base k).toList := by
  cases k with
  | zero =>
      rw [candidate, cutFor, String.toList_ofList]
      exact isName_take h.name (by decide) h.cut
  | succ k =>
      rw [candidate_succ_toList]
      refine isName_numbered (fun c hc => h.name.all c (List.mem_of_mem_take hc)) ?_ ?_ _
      · intro c hc
        obtain ⟨d, hd, hstart⟩ := h.name.start
        rw [List.head?_take] at hc
        split at hc
        · cases hc
        · cases Option.mem_unique hc hd
          exact hstart
      · rw [List.map_take, h.name.folded]

/-- Numbers of up to 62 digits leave room for a name. -/
theorem length_candidate_le {base : String} {k : Nat} (hk : k < 10 ^ 61) :
    (candidate base k).toList.length ≤ maxLength := by
  cases k with
  | zero =>
      rw [candidate, cutFor, String.toList_ofList]
      exact List.length_take_le _ _
  | succ k =>
      have hdigits : (Nat.toDigits 10 (k + 2)).length ≤ 62 :=
        (Nat.length_toDigits_le_iff (by decide) (by decide)).mpr (by omega)
      rw [candidate_succ_toList, List.length_append, List.length_cons]
      have htake := List.length_take_le
        (maxLength - (Nat.toDigits 10 (k + 2)).length - 1) base.toList
      have hmax : maxLength = 63 := rfl
      omega

theorem isCanonical_of_isName {name : String} (h : IsName name.toList)
    (hlength : name.toList.length ≤ maxLength) : isCanonical name := by
  have hfolded : canonical name = name := by
    apply String.toList_inj.mp
    rw [canonical, Text.toList_fold, h.folded]
  have hreserved : isReserved name = false := by
    rw [isReserved, hfolded]
    simp only [List.contains_eq_mem, decide_eq_false_iff_not]
    exact fun hmem => h.notReserved name hmem rfl
  refine isCanonical_iff.mpr ⟨?_, hfolded⟩
  rw [isIdentifier, hreserved]
  obtain ⟨c, hc, hstart⟩ := h.start
  cases hchars : name.toList with
  | nil => simp [hchars] at hc
  | cons d rest =>
      have hmem : ∀ e ∈ rest, e ∈ name.toList := fun e he => by simp [hchars, he]
      have hall : rest.all isNameChar := List.all_eq_true.mpr fun e he => h.all e (hmem e he)
      rw [hchars] at hc hlength
      cases hc
      simp only [List.length_cons] at hlength
      simp [isNameShaped, hstart, hall]
      omega

theorem length_le_of_isIdentifier {name : String} (h : isIdentifier name) :
    name.toList.length ≤ maxLength := by
  simp only [isIdentifier, Bool.and_eq_true] at h
  cases hchars : name.toList with
  | nil => exact Nat.zero_le _
  | cons c rest =>
      rw [hchars, isNameShaped] at h
      simp only [Bool.and_eq_true, decide_eq_true_eq] at h
      exact h.1.2

theorem exists_candidate_unusedName (taken : List String) (base : String) :
    ∃ k < taken.length + 2, unusedName taken base = candidate base k := by
  unfold unusedName
  cases hfound : ((List.range (taken.length + 2)).map (candidate base)).find?
      (!taken.contains ·) with
  | none => exact ⟨0, by omega, rfl⟩
  | some name =>
      obtain ⟨k, hk, rfl⟩ := List.mem_map.mp (List.mem_of_find?_eq_some hfound)
      exact ⟨k, List.mem_range.mp hk, rfl⟩

/-- The digits behind the last underscore are the number of a candidate. -/
theorem takeWhile_isDigit_numbered (chars : List Char) (n : Nat) :
    (chars ++ '_' :: Nat.toDigits 10 n).reverse.takeWhile Char.isDigit =
      (Nat.toDigits 10 n).reverse := by
  have hdigits : ∀ c ∈ (Nat.toDigits 10 n).reverse, c.isDigit := fun c hc =>
    Nat.isDigit_of_mem_toDigits (by decide) (by decide) (List.mem_reverse.mp hc)
  rw [List.reverse_append, List.reverse_cons, List.append_assoc,
    List.takeWhile_append_of_pos hdigits]
  simp

/-- However far a name is cut, its numbered candidates differ from one another. -/
theorem candidate_succ_injective (base : String) :
    Function.Injective fun k => candidate base (k + 1) := by
  intro first second heq
  have hchars := congrArg String.toList heq
  simp only [candidate_succ_toList] at hchars
  have hdigits := congrArg (fun chars => chars.reverse.takeWhile Char.isDigit) hchars
  simp only [takeWhile_isDigit_numbered, List.reverse_inj] at hdigits
  have hnumber := congrArg (fun digits => Nat.ofDigitChars 10 digits 0) hdigits
  simpa using hnumber

/-- Of names that differ from one another, one more than there are taken names cannot all be
taken. -/
theorem exists_not_mem_of_injective (taken : List String) {name : Nat → String}
    (hname : Function.Injective name) : ∃ k ≤ taken.toFinset.card, name k ∉ taken := by
  by_contra! hall
  have hsubset : (Finset.range (taken.toFinset.card + 1)).image name ⊆ taken.toFinset := by
    intro other hother
    obtain ⟨k, hk, rfl⟩ := Finset.mem_image.mp hother
    exact List.mem_toFinset.mpr (hall k (Finset.mem_range_succ_iff.mp hk))
  have hcard := Finset.card_le_card hsubset
  rw [Finset.card_image_of_injective _ hname, Finset.card_range] at hcard
  exact Nat.not_succ_le_self _ hcard

/-- The first candidate that is free, if it is one of those that are tried. -/
theorem unusedName_eq_candidate {taken : List String} {base : String} {k : Nat}
    (hk : k < taken.length + 2) (hfree : candidate base k ∉ taken)
    (hbefore : ∀ earlier < k, candidate base earlier ∈ taken) :
    unusedName taken base = candidate base k := by
  have hfound : (List.range (taken.length + 2)).find?
      ((!taken.contains ·) ∘ candidate base) = some k := by
    rw [List.find?_range_eq_some]
    refine ⟨by simpa using hfree, List.mem_range.mpr hk, fun earlier hearlier => ?_⟩
    simpa using hbefore earlier hearlier
  rw [unusedName, List.find?_map, hfound, Option.map_some, Option.getD_some]

/-- One of the numbered candidates is free, and there are enough of them among those that are
tried. -/
theorem unusedName_not_mem (taken : List String) (base : String) :
    unusedName taken base ∉ taken := by
  unfold unusedName
  cases hfound : ((List.range (taken.length + 2)).map (candidate base)).find?
      (!taken.contains ·) with
  | some name =>
      have hfree := List.find?_some hfound
      simpa using hfree
  | none =>
      obtain ⟨k, hk, hfree⟩ := exists_not_mem_of_injective taken (candidate_succ_injective base)
      have hcard := taken.toFinset_card_le
      have htried : candidate base (k + 1) ∈
          (List.range (taken.length + 2)).map (candidate base) :=
        List.mem_map_of_mem (List.mem_range.mpr (by omega))
      have htaken := List.find?_eq_none.mp hfound _ htried
      exact absurd (by simpa using htaken) hfree

/-- No column gets a name that an earlier column has. -/
theorem resolveName_not_mem (taken : List String) (field : String) (requested : Option String)
    (default : String) : (resolveName taken field requested default).1 ∉ taken := by
  unfold resolveName settledName
  simp only []
  split
  · exact unusedName_not_mem taken default
  · rename_i hfree
    split
    · simpa using hfree
    · exact unusedName_not_mem taken default

/-- Where an output name comes from. -/
theorem resolveName_cases (taken : List String) (field : String) (requested : Option String)
    (default : String) :
    (∃ name, requested = some name ∧ isIdentifier name ∧
        (resolveName taken field requested default).1 = canonical name) ∨
      ((resolveName taken field requested default).1 = default ∧ isIdentifier default) ∨
      ∃ k < taken.length + 2, (resolveName taken field requested default).1 =
        candidate default k := by
  have hpreferred : (preferredName field requested default).1 = default ∨
      ∃ name, requested = some name ∧ isIdentifier name ∧
        (preferredName field requested default).1 = canonical name := by
    unfold preferredName
    cases requested with
    | none => exact .inl rfl
    | some name =>
        by_cases hname : isIdentifier name
        · exact .inr ⟨name, rfl, hname, by simp [hname]⟩
        · refine .inl ?_
          simp only [hname]
          split
          · contradiction
          · split <;> rfl
  unfold resolveName settledName
  simp only []
  split
  · exact .inr (.inr (exists_candidate_unusedName taken default))
  · split
    · rename_i hname
      rcases hpreferred with heq | ⟨name, hsome, hidentifier, heq⟩
      · exact .inr (.inl ⟨heq, heq ▸ hname⟩)
      · exact .inl ⟨name, hsome, hidentifier, heq⟩
    · exact .inr (.inr (exists_candidate_unusedName taken default))

/-- What is reported about an output name is about the column that has it. -/
theorem mem_resolveName_snd {taken : List String} {field : String} {requested : Option String}
    {default : String} {adjustment : Adjustment}
    (hmem : adjustment ∈ (resolveName taken field requested default).2) :
    (∃ word used, adjustment = .nameReserved field word used) ∨
      (∃ used, adjustment = .nameIllFormed field used) ∨
      ∃ wanted used, adjustment = .nameTaken field wanted used := by
  have hpreferred : adjustment ∈ (preferredName field requested default).2 →
      (∃ word used, adjustment = .nameReserved field word used) ∨
        ∃ used, adjustment = .nameIllFormed field used := by
    intro hmem
    unfold preferredName at hmem
    split at hmem
    · cases hmem
    · split at hmem
      · cases hmem
      · split at hmem
        · exact .inl ⟨_, _, List.mem_singleton.mp hmem⟩
        · exact .inr ⟨_, List.mem_singleton.mp hmem⟩
  have hsettled : ∀ preferred, adjustment ∈ (settledName taken field preferred default).2 →
      ∃ wanted used, adjustment = .nameTaken field wanted used := by
    intro preferred hmem
    unfold settledName at hmem
    split at hmem
    · exact ⟨_, _, List.mem_singleton.mp hmem⟩
    · split at hmem <;> cases hmem
  rcases List.mem_append.mp hmem with hmem | hmem
  · exact (hpreferred hmem).imp id .inl
  · exact .inr (.inr (hsettled _ hmem))

theorem isName_resolveName {default : String} (h : IsBaseName default) (taken : List String)
    (field : String) (requested : Option String) :
    IsName (resolveName taken field requested default).1.toList := by
  rcases resolveName_cases taken field requested default with
    ⟨name, -, hname, heq⟩ | ⟨heq, -⟩ | ⟨k, -, heq⟩
  · rw [heq]
    exact isName_of_isCanonical (isCanonical_canonical hname)
  · rw [heq]
    exact h.name
  · rw [heq]
    exact isName_candidate h k

/-- With fewer taken names than there are numbers of 61 digits, an output name is an
identifier. -/
theorem isCanonical_resolveName {default : String} (h : IsBaseName default)
    {taken : List String} (htaken : taken.length + 1 < 10 ^ 61) (field : String)
    (requested : Option String) :
    isCanonical (resolveName taken field requested default).1 := by
  have hname := isName_resolveName h taken field requested
  apply isCanonical_of_isName hname
  rcases resolveName_cases taken field requested default with
    ⟨name, -, hidentifier, heq⟩ | ⟨heq, hidentifier⟩ | ⟨k, hk, heq⟩
  · rw [heq]
    exact length_le_of_isIdentifier ((isIdentifier_canonical name).trans hidentifier)
  · rw [heq]
    exact length_le_of_isIdentifier hidentifier
  · rw [heq]
    exact length_candidate_le (by omega)

theorem take_not_mem_of_reserved : ∀ word ∈ reservedWords, word.toList.take 4 ∉
    [['s', 'u', 'm', '_'], ['c', 'o', 'u', 'n'], ['a', 'v', 'g', '_'], ['m', 'a', 'x', '_'],
      ['m', 'i', 'n', '_']] := by
  simp only [reservedWords, List.forall_mem_cons]
  simp

theorem isBaseName_canonical {field : String} (h : isIdentifier field) :
    IsBaseName (canonical field) := by
  have hname := isName_of_isCanonical (isCanonical_canonical h)
  refine ⟨hname, ?_⟩
  have hshort := length_le_of_isIdentifier ((isIdentifier_canonical field).trans h)
  rw [List.take_of_length_le hshort]
  exact hname.notReserved

/-- What stands before the column in the default name of a metric. -/
def aggregatePrefix : Aggregate → List Char
  | .sum => ['s', 'u', 'm', '_']
  | .count => ['c', 'o', 'u', 'n', 't', '_']
  | .countDistinct => ['c', 'o', 'u', 'n', 't', '_', 'd', 'i', 's', 't', 'i', 'n', 'c', 't', '_']
  | .avg => ['a', 'v', 'g', '_']
  | .max => ['m', 'a', 'x', '_']
  | .min => ['m', 'i', 'n', '_']

theorem toList_aggregatePrefix (aggregate : Aggregate) :
    (Vocabulary.name aggregate ++ "_").toList = aggregatePrefix aggregate := by
  cases aggregate <;> decide

/-- The column behind its aggregate. -/
theorem isBaseName_aggregate (aggregate : Aggregate) {field : String} (h : isIdentifier field) :
    IsBaseName (Vocabulary.name aggregate ++ "_" ++ canonical field) := by
  have hname := isName_of_isCanonical (isCanonical_canonical h)
  obtain ⟨c, rest, hword, hstart, hall, hfolded, htake⟩ :
      ∃ c rest, aggregatePrefix aggregate = c :: rest ∧ isNameStart c ∧
        (∀ d ∈ c :: rest, isNameChar d) ∧ (c :: rest).map Char.toLower = c :: rest ∧
        ∀ more, ((c :: rest) ++ more).take 4 ∈
          [['s', 'u', 'm', '_'], ['c', 'o', 'u', 'n'], ['a', 'v', 'g', '_'],
            ['m', 'a', 'x', '_'], ['m', 'i', 'n', '_']] := by
    cases aggregate <;>
      exact ⟨_, _, rfl, by decide, by simp [isNameChar], by simp, fun more => by simp⟩
  have hchars : (Vocabulary.name aggregate ++ "_" ++ canonical field).toList =
      (c :: rest) ++ (canonical field).toList := by
    rw [String.toList_append, toList_aggregatePrefix, hword]
  have hfree : ∀ word ∈ reservedWords, ∀ chars : List Char,
      chars.take 4 = ((c :: rest) ++ (canonical field).toList).take 4 →
        chars ≠ word.toList := by
    rintro word hmem chars hsame rfl
    exact take_not_mem_of_reserved word hmem (hsame ▸ htake _)
  refine ⟨⟨?_, ?_, ?_, ?_⟩, ?_⟩
  · rw [hchars]
    exact ⟨c, rfl, hstart⟩
  · intro d hd
    rw [hchars] at hd
    rcases List.mem_append.mp hd with hd | hd
    · exact hall d hd
    · exact hname.all d hd
  · rw [hchars, List.map_append, hfolded, hname.folded]
  · intro word hmem
    rw [hchars]
    exact hfree word hmem _ rfl
  · intro word hmem
    rw [hchars]
    apply hfree word hmem _
    rw [List.take_take]
    rfl

end TenantQuery.Compilation
