import Mathlib
import TenantQuery.Identifier
import TenantQuery.Text.Blank
/-!
Folding a name to lower case changes nothing about whether it is one.

So what is checked of a requested name holds of the canonical form that is emitted, and folding
a canonical name leaves it as it is.
-/

namespace TenantQuery.Identifier

/-- Characters that read as one unquoted name in canonical form, whatever their number. -/
structure IsName (chars : List Char) : Prop where
  start : ∃ c ∈ chars.head?, isNameStart c
  all : ∀ c ∈ chars, isNameChar c
  folded : chars.map Char.toLower = chars
  notReserved : ∀ word ∈ reservedWords, chars ≠ word.toList

@[simp] theorem isNameStart_toLower (c : Char) : isNameStart c.toLower = isNameStart c := by
  by_cases hupper : c.isUpper
  · have halpha : c.isAlpha = true := by simp [Char.isAlpha, hupper]
    simp [isNameStart, halpha]
  · rw [Char.toLower_eq_of_not_isUpper hupper]

@[simp] theorem isNameChar_toLower (c : Char) : isNameChar c.toLower = isNameChar c := by
  by_cases hupper : c.isUpper
  · have halpha : c.isAlpha = true := by simp [Char.isAlpha, hupper]
    simp [isNameChar, Char.isAlphanum, halpha]
  · rw [Char.toLower_eq_of_not_isUpper hupper]

theorem isDigit_iff {c : Char} : c.isDigit ↔ 48 ≤ c.toNat ∧ c.toNat ≤ 57 :=
  Char.isDigit_iff_toNat

theorem isNameStart_iff {c : Char} : isNameStart c ↔
    (65 ≤ c.toNat ∧ c.toNat ≤ 90 ∨ 97 ≤ c.toNat ∧ c.toNat ≤ 122) ∨ c.toNat = 95 := by
  have hscore : c = '_' ↔ c.toNat = 95 := Char.toNat_inj.symm
  simp only [isNameStart, Char.isAlpha, Char.isUpper, Char.isLower, Bool.or_eq_true,
    Bool.and_eq_true, decide_eq_true_eq, beq_iff_eq, ge_iff_le, UInt32.le_iff_toNat_le, hscore]
  exact Iff.rfl

theorem isNameChar_iff {c : Char} : isNameChar c ↔ isNameStart c ∨ c.isDigit := by
  simp only [isNameChar, isNameStart, Char.isAlphanum, Bool.or_eq_true]
  exact or_right_comm

theorem isNameChar_of_isNameStart {c : Char} (h : isNameStart c) : isNameChar c :=
  isNameChar_iff.mpr (.inl h)

theorem not_isDigit_of_isNameStart {c : Char} (h : isNameStart c) : c.isDigit = false := by
  rw [isNameStart_iff] at h
  rw [Bool.eq_false_iff, ne_eq, isDigit_iff]
  omega

theorem not_isNameChar_of_isBlank {c : Char} (h : Text.isBlank c) : ¬ isNameChar c := by
  rw [isNameChar_iff, isNameStart_iff, isDigit_iff]
  simp only [Text.isBlank, Bool.or_eq_true, Bool.and_eq_true, decide_eq_true_eq, beq_iff_eq] at h
  omega

theorem isNameShaped_map_toLower (chars : List Char) :
    isNameShaped (chars.map Char.toLower) = isNameShaped chars := by
  cases chars with
  | nil => rfl
  | cons c rest =>
      have hall : (rest.map Char.toLower).all isNameChar = rest.all isNameChar := by
        simp [List.all_map, Function.comp_def]
      simp only [List.map_cons, isNameShaped, isNameStart_toLower, hall, List.length_map]

@[simp] theorem canonical_canonical (name : String) :
    canonical (canonical name) = canonical name := by
  apply String.toList_inj.mp
  simp [canonical, Function.comp_def]

@[simp] theorem isFolded_canonical (name : String) : isFolded (canonical name) = true := by
  simp [isFolded, canonical]

theorem canonical_eq_self {name : String} (h : isFolded name) : canonical name = name := by
  apply String.toList_inj.mp
  simp only [isFolded, Bool.not_eq_true', List.any_eq_false] at h
  simp only [canonical, Text.toList_fold]
  exact (List.map_congr_left fun c hc => Char.toLower_eq_of_not_isUpper (h c hc)).trans
    (List.map_id' _)

@[simp] theorem isReserved_canonical (name : String) :
    isReserved (canonical name) = isReserved name := by
  simp [isReserved]

@[simp] theorem isIdentifier_canonical (name : String) :
    isIdentifier (canonical name) = isIdentifier name := by
  rw [isIdentifier, isReserved_canonical]
  simp [canonical, isNameShaped_map_toLower, isIdentifier]

/-- The canonical form of a name that was checked is in canonical form. -/
theorem isCanonical_canonical {name : String} (h : isIdentifier name) :
    isCanonical (canonical name) := by
  simp [isCanonical, h]

theorem isCanonical_iff {name : String} :
    isCanonical name ↔ isIdentifier name ∧ canonical name = name := by
  rw [isCanonical, Bool.and_eq_true]
  constructor
  · rintro ⟨hname, hfolded⟩
    exact ⟨hname, canonical_eq_self hfolded⟩
  · rintro ⟨hname, hcanonical⟩
    exact ⟨hname, hcanonical ▸ isFolded_canonical name⟩

theorem IsName.ne_nil {chars : List Char} (h : IsName chars) : chars ≠ [] := by
  rintro rfl
  obtain ⟨c, hc, -⟩ := h.start
  cases hc

/-- A name shape in lower case that is no reserved word. -/
theorem IsName.of_isNameShaped {name : String} (hshape : isNameShaped name.toList)
    (hfolded : canonical name = name) (hreserved : isReserved name = false) :
    IsName name.toList := by
  have hlower : name.toList.map Char.toLower = name.toList := by
    simpa [canonical] using congrArg String.toList hfolded
  refine ⟨?_, ?_, hlower, ?_⟩
  · cases hchars : name.toList with
    | nil => simp [hchars, isNameShaped] at hshape
    | cons c rest => exact ⟨c, rfl, by simp_all [isNameShaped]⟩
  · cases hchars : name.toList with
    | nil => simp
    | cons c rest =>
        rw [hchars] at hshape
        simp only [isNameShaped, Bool.and_eq_true, List.all_eq_true] at hshape
        intro d hd
        rcases List.mem_cons.mp hd with rfl | hd
        · exact isNameChar_of_isNameStart hshape.1.1
        · exact hshape.1.2 d hd
  · intro word hword heq
    rw [String.toList_inj.mp heq] at hfolded hreserved
    rw [isReserved, hfolded] at hreserved
    simp [hword] at hreserved

theorem isName_of_isCanonical {name : String} (h : isCanonical name) : IsName name.toList := by
  obtain ⟨hname, hfolded⟩ := isCanonical_iff.mp h
  simp only [isIdentifier, Bool.and_eq_true, Bool.not_eq_true'] at hname
  exact .of_isNameShaped hname.1 hfolded hname.2

theorem cutAt?_map_toLower (separator : Char) (hseparator : ¬ separator.isAlpha)
    (chars : List Char) :
    Text.cutAt? separator (chars.map Char.toLower) =
      (Text.cutAt? separator chars).map fun parts =>
        (parts.1.map Char.toLower, parts.2.map Char.toLower) := by
  have hsame : ((· != separator) ∘ Char.toLower) = (· != separator) := by
    funext c
    by_cases hupper : c.isUpper
    · have halpha : c.isAlpha = true := by simp [Char.isAlpha, hupper]
      have hfolded : (c.toLower == separator) = false := by
        apply beq_eq_false_iff_ne.mpr
        rintro rfl
        simp [halpha] at hseparator
      have hplain : (c == separator) = false := by
        apply beq_eq_false_iff_ne.mpr
        rintro rfl
        exact hseparator halpha
      simp only [Function.comp_def, bne, hfolded, hplain]
    · simp [Char.toLower_eq_of_not_isUpper hupper]
  unfold Text.cutAt?
  rw [List.dropWhile_map, List.takeWhile_map, hsame]
  cases chars.dropWhile (· != separator) <;> rfl

/-- The parts of a table name that was checked. -/
theorem isTableName_canonical (name : String) :
    isTableName (canonical name) = isTableName name := by
  have hpart : ∀ chars, isIdentifier (String.ofList (chars.map Char.toLower)) =
      isIdentifier (String.ofList chars) := by
    intro chars
    have hfold : String.ofList (chars.map Char.toLower) = canonical (String.ofList chars) := by
      simp [canonical, Text.fold]
    rw [hfold, isIdentifier_canonical]
  rw [isTableName, isTableName]
  simp only [canonical, Text.toList_fold, cutAt?_map_toLower '.' (by decide)]
  cases Text.cutAt? '.' name.toList with
  | none => exact isIdentifier_canonical name
  | some parts => simp [hpart]

theorem isCanonicalTable_canonical {name : String} (h : isTableName name) :
    isCanonicalTable (canonical name) := by
  simp [isCanonicalTable, isTableName_canonical, h]

/-- The name of a table is one name, or two with a point between them. -/
theorem isName_of_isCanonicalTable {table : String} (h : isCanonicalTable table) :
    match Text.cutAt? '.' table.toList with
    | some (schema, inner) => IsName schema ∧ IsName inner
    | none => IsName table.toList := by
  simp only [isCanonicalTable, Bool.and_eq_true] at h
  obtain ⟨hname, hfolded⟩ := h
  have hpart : ∀ chars : List Char, (∀ c ∈ chars, c ∈ table.toList) →
      isIdentifier (String.ofList chars) → IsName chars := by
    intro chars hsub hchars
    have hcanonical : isCanonical (String.ofList chars) := by
      simp only [isCanonical, hchars, isFolded, Bool.true_and, String.toList_ofList]
      simp only [isFolded, Bool.not_eq_true', List.any_eq_false] at hfolded ⊢
      exact fun c hc => hfolded c (hsub c hc)
    simpa using isName_of_isCanonical hcanonical
  rw [isTableName] at hname
  cases hcut : Text.cutAt? '.' table.toList with
  | none =>
      rw [hcut] at hname
      exact hpart _ (fun _ hc => hc) (by simpa using hname)
  | some parts =>
      obtain ⟨schema, inner⟩ := parts
      rw [hcut, Bool.and_eq_true] at hname
      have hjoin := Text.append_of_cutAt? hcut
      exact ⟨hpart _ (fun c hc => by simp [hjoin, hc]) hname.1,
        hpart _ (fun c hc => by simp [hjoin, hc]) hname.2⟩

end TenantQuery.Identifier
