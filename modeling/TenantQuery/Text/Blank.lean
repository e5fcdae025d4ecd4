/-!
White space in request text, and the cuts made at it.

Requests come from people and from language models, so "blank" is the Unicode property
`White_Space` and not the handful of ASCII spaces.  Trimming keeps everything between the
first and the last character that is not blank.
-/

namespace TenantQuery.Text

/-- The characters of the Unicode property `White_Space`. -/
def isBlank (c : Char) : Bool :=
  let n := c.toNat
  (9 ≤ n && n ≤ 13) || n == 0x20 || n == 0x85 || n == 0xA0 || n == 0x1680 ||
    (0x2000 ≤ n && n ≤ 0x200A) || n == 0x2028 || n == 0x2029 || n == 0x202F ||
    n == 0x205F || n == 0x3000

def dropBlank (chars : List Char) : List Char :=
  chars.dropWhile isBlank

def trimChars (chars : List Char) : List Char :=
  (dropBlank (dropBlank chars).reverse).reverse

def trim (text : String) : String :=
  String.ofList (trimChars text.toList)

/-- Nothing but white space; the empty text is blank too. -/
def isBlankText (text : String) : Bool :=
  text.toList.all isBlank

/-- The characters before and after the first `separator`, when there is one. -/
def cutAt? (separator : Char) (chars : List Char) : Option (List Char × List Char) :=
  match chars.dropWhile (· != separator) with
  | [] => none
  | _ :: after => some (chars.takeWhile (· != separator), after)

@[simp] theorem toList_trim (text : String) : (trim text).toList = trimChars text.toList := by
  simp [trim]

/-- A cut loses the separator and nothing else. -/
theorem append_of_cutAt? {separator : Char} {chars before after : List Char}
    (h : cutAt? separator chars = some (before, after)) :
    chars = before ++ separator :: after := by
  unfold cutAt? at h
  split at h
  · contradiction
  · rename_i found rest hdrop
    simp only [Option.some.injEq, Prod.mk.injEq] at h
    obtain ⟨rfl, rfl⟩ := h
    have hhead : found = separator := by
      have := List.head?_dropWhile_not (· != separator) chars
      simpa [hdrop] using this
    have hjoin := List.takeWhile_append_dropWhile (p := (· != separator)) (l := chars)
    rw [hdrop, hhead] at hjoin
    exact hjoin.symm

end TenantQuery.Text
