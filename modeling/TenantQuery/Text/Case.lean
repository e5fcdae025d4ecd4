/-!
Letter case, in the two senses that requests meet.

Names are folded the way the database folds unquoted names: ASCII letters only.  Words of a
closed vocabulary are compared in Unicode lower case; every such word is ASCII, so the only
characters that matter are those whose lower case is ASCII.
-/

namespace TenantQuery.Text

def fold (text : String) : String :=
  String.ofList (text.toList.map Char.toLower)

/-- The lower case of a character, where that is ASCII.  Besides `A` to `Z` the Kelvin sign is
such a character; any other cased character keeps a text from being an ASCII word in either
case, so it may stay as it is. -/
def lowerChar (c : Char) : Char :=
  if c = '\u212A' then 'k' else c.toLower

/-- The text as it is compared with the words of a vocabulary. -/
def lower (text : String) : String :=
  String.ofList (text.toList.map lowerChar)

@[simp] theorem toList_fold (text : String) :
    (fold text).toList = text.toList.map Char.toLower := by
  simp [fold]

end TenantQuery.Text
