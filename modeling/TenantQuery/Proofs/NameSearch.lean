import TenantQuery.Proofs.Compilation.OutputName
import TenantQuery.Proofs.Text.Ascii
/-!
The search for an unused name, turn by turn.

The search has no bound of its own, its counter is a signed word of 32 bits, and it cuts names at
lengths in bytes.  It ends all the same, after no more numbered names than one more than there are
taken ones, with no length below zero and no cut inside of a character, and the name that it ends
with is the unused name.
-/

namespace TenantQuery.Compilation

open Identifier

/-- A name with a number behind it, cut so that the whole fits. -/
def numberedName (base : String) (number : Nat) : String :=
  cutFor ("_" ++ toString number).length base ++ ("_" ++ toString number)

/-- The same with lengths in bytes.  There is no such name where nothing is left of the length of
an identifier, or where the cut falls inside of a character. -/
def numberedName? (base : String) (number : Nat) : Option String :=
  let suffix := "_" ++ toString number
  if suffix.utf8ByteSize ≤ maxLength then
    (Text.firstBytes? (min base.utf8ByteSize (maxLength - suffix.utf8ByteSize)) base.toList).map
      fun stem => String.ofList stem ++ suffix
  else none

def counterLimit : Nat := 2 ^ 31 - 1

/-- Where a search stands. -/
inductive NameSearch where
  /-- The base is taken, and so are its names with smaller numbers than this one from 2 on. -/
  | trying (base : String) (number : Nat)
  | found (name : String)
  /-- A length, a cut or the counter went out of range. -/
  | fault
deriving DecidableEq

/-- A search starts with the base, cut to the length of an identifier. -/
def NameSearch.start (taken : List String) (base : String) : NameSearch :=
  match Text.firstBytes? (min base.utf8ByteSize maxLength) base.toList with
  | none => .fault
  | some chars =>
    let base := String.ofList chars
    if taken.contains base then .trying base 2 else .found base

/-- In a turn of the search one numbered name is tried. -/
def NameSearch.turn (taken : List String) : NameSearch → NameSearch
  | .trying base number =>
    match numberedName? base number with
    | none => .fault
    | some name =>
      if !taken.contains name then .found name
      else if number < counterLimit then .trying base (number + 1)
      else .fault
  | .found name => .found name
  | .fault => .fault

section Ascii

variable {taken : List String} {base : String} {number : Nat}

theorem isAscii_suffix (number : Nat) : Text.IsAscii ("_" ++ toString number).toList := by
  have hsuffix : ("_" ++ toString number).toList = ['_'] ++ Nat.toDigits 10 number := by simp
  rw [hsuffix]
  exact Text.IsAscii.append (by simp [Text.IsAscii]) (.toDigits number)

/-- The numbers of the counter leave room for a name. -/
theorem length_suffix_le (hnumber : number ≤ counterLimit) :
    ("_" ++ toString number).length ≤ 11 := by
  have hdigits : (Nat.toDigits 10 number).length ≤ 10 :=
    (Nat.length_toDigits_le_iff (by decide) (by decide)).mpr
      (Nat.lt_of_le_of_lt hnumber (by norm_num [counterLimit]))
  have hlength : ("_" ++ toString number).length = (Nat.toDigits 10 number).length + 1 := by
    rw [← String.length_toList]
    simp
  omega

theorem isAscii_cutFor (hascii : Text.IsAscii base.toList) (suffixLength : Nat) :
    Text.IsAscii (cutFor suffixLength base).toList := by
  rw [cutFor, String.toList_ofList]
  exact hascii.take _

theorem isAscii_candidate (hascii : Text.IsAscii base.toList) (k : Nat) :
    Text.IsAscii (candidate base k).toList := by
  cases k with
  | zero => exact isAscii_cutFor hascii 0
  | succ k =>
      rw [candidate, String.toList_append]
      exact (isAscii_cutFor hascii _).append (isAscii_suffix _)

/-- A text is cut at any length up to that of an identifier. -/
theorem firstBytes?_min (hascii : Text.IsAscii base.toList) (size : Nat) :
    Text.firstBytes? (min base.utf8ByteSize size) base.toList =
      some (base.toList.take size) := by
  rw [hascii.utf8ByteSize, hascii.firstBytes? (Nat.min_le_left _ _), Nat.min_comm,
    ← List.take_eq_take_min]

/-- Within the range of the counter no length and no cut goes out of range, and cutting twice is
the same as cutting once. -/
theorem numberedName?_cutFor (hascii : Text.IsAscii base.toList) (hnumber : number ≤ counterLimit) :
    numberedName? (cutFor 0 base) number = some (numberedName base number) := by
  have hsuffix := (isAscii_suffix number).utf8ByteSize
  rw [String.length_toList] at hsuffix
  have hroom : ("_" ++ toString number).length ≤ maxLength :=
    (length_suffix_le hnumber).trans (by decide)
  have hstem : (cutFor 0 base).toList.take (maxLength - ("_" ++ toString number).length) =
      base.toList.take (maxLength - ("_" ++ toString number).length) := by
    rw [cutFor, String.toList_ofList, List.take_take, Nat.min_eq_left (Nat.sub_le_sub_left _ _)]
    exact Nat.zero_le _
  simp only [numberedName?, hsuffix, hroom, ↓reduceIte, firstBytes?_min (isAscii_cutFor hascii 0),
    hstem, Option.map_some]
  rfl

theorem NameSearch.start_eq (hascii : Text.IsAscii base.toList) :
    start taken base =
      if taken.contains (cutFor 0 base) then .trying (cutFor 0 base) 2
      else .found (cutFor 0 base) := by
  rw [start, firstBytes?_min hascii]
  rfl

/-- A turn goes on from a taken name to the next number. -/
theorem NameSearch.turn_of_mem (hascii : Text.IsAscii base.toList) (hnumber : number < counterLimit)
    (htaken : numberedName base number ∈ taken) :
    turn taken (.trying (cutFor 0 base) number) = .trying (cutFor 0 base) (number + 1) := by
  simp [turn, numberedName?_cutFor hascii hnumber.le, htaken, hnumber]

/-- A turn ends the search at a free name. -/
theorem NameSearch.turn_of_not_mem (hascii : Text.IsAscii base.toList)
    (hnumber : number ≤ counterLimit) (hfree : numberedName base number ∉ taken) :
    turn taken (.trying (cutFor 0 base) number) = .found (numberedName base number) := by
  simp [turn, numberedName?_cutFor hascii hnumber, hfree]

/-- From a number on, the search ends at the first free name, with one turn for each name up to
it. -/
theorem NameSearch.turns_to_free (hascii : Text.IsAscii base.toList) {more : Nat}
    (hnumber : number + more ≤ counterLimit)
    (htaken : ∀ i < more, numberedName base (number + i) ∈ taken)
    (hfree : numberedName base (number + more) ∉ taken) :
    (turn taken)^[more + 1] (.trying (cutFor 0 base) number) =
      .found (numberedName base (number + more)) := by
  induction more generalizing number with
  | zero => exact turn_of_not_mem hascii hnumber hfree
  | succ more ih =>
      have hnext : ∀ i, number + 1 + i = number + (i + 1) := by omega
      have hfirst : numberedName base number ∈ taken := htaken 0 (Nat.succ_pos more)
      rw [Function.iterate_succ_apply, turn_of_mem hascii (by omega) hfirst, ← hnext more]
      refine ih (by omega) (fun i hi => ?_) (by rwa [hnext])
      rw [hnext]
      exact htaken (i + 1) (Nat.succ_lt_succ hi)

/-- The search ends at the first candidate that is free, with one turn for each candidate behind
the base. -/
theorem NameSearch.turns_from_start (hascii : Text.IsAscii base.toList) {k : Nat}
    (hk : k < counterLimit) (hfree : candidate base k ∉ taken)
    (hbefore : ∀ earlier < k, candidate base earlier ∈ taken) :
    (turn taken)^[k] (start taken base) = .found (candidate base k) := by
  rw [start_eq hascii]
  cases k with
  | zero =>
      have hbase : cutFor 0 base ∉ taken := hfree
      simp [hbase, candidate]
  | succ more =>
      have hbase : cutFor 0 base ∈ taken := hbefore 0 (Nat.succ_pos more)
      have hnumbered : ∀ i, candidate base (i + 1) = numberedName base (2 + i) := by
        intro i
        rw [Nat.add_comm 2 i]
        rfl
      simp only [List.contains_eq_mem, hbase, decide_true, ↓reduceIte, hnumbered] at hfree ⊢
      refine turns_to_free hascii (by omega) (fun i hi => ?_) hfree
      rw [← hnumbered]
      exact hbefore (i + 1) (Nat.succ_lt_succ hi)

theorem candidate_ne_empty (hbase : base ≠ "") (k : Nat) : candidate base k ≠ "" := by
  intro hempty
  have hchars := congrArg String.toList hempty
  cases k with
  | zero =>
      rw [candidate, cutFor, String.toList_ofList, String.toList_empty, List.take_eq_nil_iff]
        at hchars
      rcases hchars with hroom | hnone
      · exact absurd hroom (by decide)
      · exact hbase (String.toList_eq_nil_iff.mp hnone)
  | succ k => simp [candidate_succ_toList] at hchars

/-- One of the candidates is the first that is free.  It comes no later than any that is free. -/
theorem exists_first_candidate {last : Nat} (hlast : candidate base last ∉ taken) :
    ∃ k ≤ last, candidate base k ∉ taken ∧ ∀ earlier < k, candidate base earlier ∈ taken := by
  have hexists : ∃ k, candidate base k ∉ taken := ⟨last, hlast⟩
  exact ⟨Nat.find hexists, Nat.find_min' hexists hlast, Nat.find_spec hexists,
    fun earlier hearlier => not_not.mp (Nat.find_min hexists hearlier)⟩

/-- The candidates differ from one another, unless the base is cut to one of its numbered names. -/
theorem candidate_injective (h : ∀ n, 2 ≤ n → numberedName base n ≠ cutFor 0 base) :
    Function.Injective (candidate base) := by
  intro first second heq
  cases first with
  | zero =>
      cases second with
      | zero => rfl
      | succ second => exact absurd heq.symm (h (second + 2) (Nat.le_add_left 2 second))
  | succ first =>
      cases second with
      | zero => exact absurd heq (h (first + 2) (Nat.le_add_left 2 first))
      | succ second => exact congrArg (· + 1) (candidate_succ_injective base heq)

/-- With the base the first free candidate is among the first ones, one more than there are taken
names, unless the base is cut to one of its numbered names. -/
theorem first_le_card (h : ∀ n, 2 ≤ n → numberedName base n ≠ cutFor 0 base) {k : Nat}
    (hbefore : ∀ earlier < k, candidate base earlier ∈ taken) : k ≤ taken.toFinset.card := by
  obtain ⟨free, hfew, hfree⟩ := exists_not_mem_of_injective taken (candidate_injective h)
  exact (not_lt.mp fun hlt => hfree (hbefore free hlt)).trans hfew

/-- The number of the first free candidate is the least of the numbers that are free. -/
theorem isLeast_of_first {k : Nat} (hfree : candidate base (k + 1) ∉ taken)
    (hbefore : ∀ earlier < k + 1, candidate base earlier ∈ taken) :
    IsLeast {n | 2 ≤ n ∧ numberedName base n ∉ taken} (k + 2) := by
  refine ⟨⟨Nat.le_add_left 2 k, hfree⟩, ?_⟩
  rintro number ⟨hnumber, hunused⟩
  obtain ⟨earlier, rfl⟩ := Nat.exists_eq_add_of_le' hnumber
  by_contra hlt
  exact hunused (hbefore (earlier + 1) (by omega))

/-- Turns behind the end of the search change nothing. -/
theorem NameSearch.turns_of_free (hascii : Text.IsAscii base.toList) {k turns : Nat}
    (hk : k < counterLimit) (hfree : candidate base k ∉ taken)
    (hbefore : ∀ earlier < k, candidate base earlier ∈ taken) (hturns : k ≤ turns) :
    (turn taken)^[turns] (start taken base) = .found (candidate base k) := by
  obtain ⟨more, rfl⟩ := Nat.exists_eq_add_of_le' hturns
  rw [Function.iterate_add_apply, turns_from_start hascii hk hfree hbefore]
  exact Function.iterate_fixed rfl more

end Ascii

/-- Among the names that are made of an ASCII base the search finds the first that is free: the base
itself, or else the one with the least number.  It tries at most one numbered name more than there
are taken names, and with the base there are no more than that, unless the base is cut to one of its
own numbered names.  What it finds is an unused name of the length of an identifier. -/
theorem search_finds_least_free {taken : List String} {base : String} (hbase : base ≠ "")
    (hascii : Text.IsAscii base.toList) (hcount : taken.toFinset.card < 2 ^ 31 - 3) :
    (NameSearch.turn taken)^[taken.toFinset.card + 1] (.start taken base) =
      .found (unusedName taken base) ∧
    ((∀ n, 2 ≤ n → numberedName base n ≠ cutFor 0 base) →
      (NameSearch.turn taken)^[taken.toFinset.card] (.start taken base) =
        .found (unusedName taken base)) ∧
    unusedName taken base ∉ taken ∧ unusedName taken base ≠ "" ∧
    (unusedName taken base).utf8ByteSize ≤ 63 ∧
    (cutFor 0 base ∉ taken → unusedName taken base = cutFor 0 base) ∧
    (cutFor 0 base ∈ taken → ∃ number,
      IsLeast {n | 2 ≤ n ∧ numberedName base n ∉ taken} number ∧
        unusedName taken base = numberedName base number) := by
  obtain ⟨last, hlast, hlastFree⟩ :=
    exists_not_mem_of_injective taken (candidate_succ_injective base)
  obtain ⟨k, hk, hfree, hbefore⟩ := exists_first_candidate hlastFree
  have hcard := taken.toFinset_card_le
  have hname : unusedName taken base = candidate base k :=
    unusedName_eq_candidate (by omega) hfree hbefore
  have hcounter : k < counterLimit := by
    unfold counterLimit
    omega
  rw [hname]
  refine ⟨?_, fun hother => ?_, hfree, candidate_ne_empty hbase k, ?_, ?_, ?_⟩
  · exact NameSearch.turns_of_free hascii hcounter hfree hbefore (by omega)
  · exact NameSearch.turns_of_free hascii hcounter hfree hbefore (first_le_card hother hbefore)
  · rw [(isAscii_candidate hascii k).utf8ByteSize]
    exact length_candidate_le (hcounter.trans (by norm_num [counterLimit]))
  · intro hunused
    cases k with
    | zero => rfl
    | succ k => exact absurd (hbefore 0 (Nat.succ_pos k)) hunused
  · intro hused
    cases k with
    | zero => exact absurd hused hfree
    | succ k => exact ⟨k + 2, isLeast_of_first hfree hbefore, rfl⟩

namespace Sample

/-- A stem that leaves room for two more characters. -/
def longStem : String :=
  String.ofList (List.replicate 61 'a')

end Sample

/-- The base is taken, and it is its own name with the number 2, so the number is 3. -/
theorem search_finds_least_free_own_number :
    (NameSearch.turn [Sample.longStem ++ "_2"])^[2]
        (.start [Sample.longStem ++ "_2"] (Sample.longStem ++ "_2")) =
      .found (Sample.longStem ++ "_3") ∧
    (Sample.longStem ++ "_3").utf8ByteSize ≤ 63 ∧
    ∃ number, IsLeast {n | 2 ≤ n ∧
        numberedName (Sample.longStem ++ "_2") n ∉ [Sample.longStem ++ "_2"]} number ∧
      Sample.longStem ++ "_3" = numberedName (Sample.longStem ++ "_2") number := by
  have hbase : Sample.longStem ++ "_2" ≠ "" := by decide +kernel
  have hascii : Text.IsAscii (Sample.longStem ++ "_2").toList := by decide +kernel
  have hcard : [Sample.longStem ++ "_2"].toFinset.card = 1 := rfl
  have hname : unusedName [Sample.longStem ++ "_2"] (Sample.longStem ++ "_2") =
      Sample.longStem ++ "_3" := by
    decide +kernel
  have htaken : cutFor 0 (Sample.longStem ++ "_2") ∈ [Sample.longStem ++ "_2"] := by
    decide +kernel
  have hcount : [Sample.longStem ++ "_2"].toFinset.card < 2 ^ 31 - 3 := by
    rw [hcard]
    decide
  obtain ⟨hfound, -, -, -, hsize, -, hleast⟩ := search_finds_least_free hbase hascii hcount
  rw [hcard, hname] at hfound
  rw [hname] at hsize hleast
  exact ⟨hfound, hsize, hleast htaken⟩

end TenantQuery.Compilation
