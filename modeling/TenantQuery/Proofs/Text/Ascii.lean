import TenantQuery.Proofs.Identifier
/-!
Texts of ASCII characters, each of which is one byte.

Such a text is as long in bytes as in characters, and it can be cut behind every byte.
-/

namespace TenantQuery.Text

def IsAscii (chars : List Char) : Prop :=
  ∀ c ∈ chars, c.toNat < 128

instance : DecidablePred IsAscii :=
  List.decidableBAll fun c : Char => c.toNat < 128

/-- The first bytes of a text.  There are none where the text ends before, or where the cut falls
inside of a character. -/
def firstBytes? : Nat → List Char → Option (List Char)
  | 0, _ => some []
  | _ + 1, [] => none
  | size + 1, c :: rest =>
    if c.utf8Size ≤ size + 1 then
      (firstBytes? (size + 1 - c.utf8Size) rest).map (c :: ·)
    else none

theorem utf8Size_of_ascii {c : Char} (h : c.toNat < 128) : c.utf8Size = 1 :=
  Char.utf8Size_eq_one_iff.mpr (UInt32.le_iff_toNat_le.mpr (Nat.le_of_lt_succ h))

namespace IsAscii

variable {chars more : List Char}

theorem append (h : IsAscii chars) (hmore : IsAscii more) : IsAscii (chars ++ more) :=
  fun c hc => (List.mem_append.mp hc).elim (h c) (hmore c)

theorem take (h : IsAscii chars) (n : Nat) : IsAscii (chars.take n) :=
  fun c hc => h c (List.mem_of_mem_take hc)

/-- Decimal digits are ASCII. -/
theorem toDigits (n : Nat) : IsAscii (Nat.toDigits 10 n) := by
  intro c hc
  have hdigit := Identifier.isDigit_iff.mp
    (Nat.isDigit_of_mem_toDigits (by decide) (by decide) hc)
  omega

/-- The length of a text in bytes. -/
theorem utf8ByteSize {text : String} (h : IsAscii text.toList) :
    text.utf8ByteSize = text.toList.length := by
  have hsize : ∀ chars : List Char, IsAscii chars → String.utf8Len chars = chars.length := by
    intro chars hchars
    induction chars with
    | nil => rfl
    | cons c rest ih =>
        have hrest := ih fun d hd => hchars d (List.mem_cons_of_mem c hd)
        have hc := utf8Size_of_ascii (hchars c List.mem_cons_self)
        rw [String.utf8Len_cons, hrest, hc, List.length_cons]
  have hchars := hsize text.toList h
  rwa [← String.utf8ByteSize_ofList, String.ofList_toList] at hchars

/-- A cut behind a byte of the text is a cut behind a character. -/
theorem firstBytes? (h : IsAscii chars) {size : Nat} (hsize : size ≤ chars.length) :
    Text.firstBytes? size chars = some (chars.take size) := by
  induction chars generalizing size with
  | nil =>
      cases Nat.le_zero.mp hsize
      rfl
  | cons c rest ih =>
      cases size with
      | zero => rfl
      | succ size =>
          have hc := utf8Size_of_ascii (h c List.mem_cons_self)
          have hrest := ih (fun d hd => h d (List.mem_cons_of_mem c hd))
            (Nat.le_of_succ_le_succ hsize)
          rw [Text.firstBytes?, hc, if_pos (Nat.le_add_left 1 size), Nat.add_sub_cancel, hrest,
            Option.map_some, List.take_succ_cons]

end IsAscii

end TenantQuery.Text
