/-!
Entries under text keys, kept in ascending order of the keys with one entry for each.

The order is that of code points, which is also the order of the keys' UTF-8 bytes.
-/

namespace TenantQuery

abbrev Dictionary (α : Type) := List (String × α)

namespace Dictionary

variable {α : Type}

/-- Puts an entry at its place; an entry under the same key gives way. -/
def insert (key : String) (value : α) : Dictionary α → Dictionary α
  | [] => [(key, value)]
  | (other, kept) :: rest =>
    if key < other then (key, value) :: (other, kept) :: rest
    else if key = other then (key, value) :: rest
    else (other, kept) :: insert key value rest

def get? (entries : Dictionary α) (key : String) : Option α :=
  entries.lookup key

/-- The keys in ascending order. -/
def keys (entries : Dictionary α) : List String :=
  entries.map Prod.fst

/-- The dictionary of a list of entries, of which the last under each key counts. -/
def ofList (entries : List (String × α)) : Dictionary α :=
  entries.foldl (fun kept entry => insert entry.1 entry.2 kept) []

/-- Looking up the key just inserted gives the value just inserted. -/
@[simp] theorem get?_insert_self (key : String) (value : α) (entries : Dictionary α) :
    get? (insert key value entries) key = some value := by
  induction entries with
  | nil => simp [insert, get?]
  | cons entry rest ih =>
    obtain ⟨other, kept⟩ := entry
    simp only [insert]
    split
    · simp [get?]
    · split
      · simp [get?]
      · rename_i hne
        have hbeq : (key == other) = false := by simpa using hne
        simpa [get?, List.lookup_cons, hbeq] using ih

/-- Looking up another key gives what it gave before. -/
theorem get?_insert_of_ne {key other : String} (h : other ≠ key) (value : α)
    (entries : Dictionary α) : get? (insert key value entries) other = get? entries other := by
  have hbeq : (other == key) = false := by simpa using h
  induction entries with
  | nil => simp [insert, get?, List.lookup_cons, hbeq]
  | cons entry rest ih =>
    obtain ⟨found, kept⟩ := entry
    simp only [insert]
    split
    · simp [get?, List.lookup_cons, hbeq]
    · split
      · rename_i heq
        subst heq
        simp [get?, List.lookup_cons, hbeq]
      · simp only [get?, List.lookup_cons] at ih ⊢
        split
        · rfl
        · exact ih

/-- Leaving out entries by their keys leaves the entries under all other keys. -/
theorem get?_filter (keep : String → Bool) (entries : Dictionary α) (key : String) :
    get? (entries.filter fun entry => keep entry.1) key =
      if keep key then get? entries key else none := by
  induction entries with
  | nil => simp [get?]
  | cons entry rest ih =>
    obtain ⟨other, value⟩ := entry
    by_cases hkey : key = other
    · subst hkey
      cases hkeep : keep key with
      | true => simp [get?, hkeep]
      | false => simpa [get?, hkeep] using ih
    · have hbeq : (key == other) = false := by simpa using hkey
      cases hkeep : keep other <;> simpa [get?, hkeep, List.lookup_cons, hbeq] using ih

theorem get?_map {β : Type} (f : α → β) (entries : Dictionary α) (key : String) :
    get? (entries.map fun entry => (entry.1, f entry.2)) key = (get? entries key).map f := by
  induction entries with
  | nil => rfl
  | cons entry rest ih =>
    obtain ⟨other, value⟩ := entry
    simp only [get?, List.map_cons, List.lookup_cons] at ih ⊢
    split
    · rfl
    · exact ih

theorem mem_of_get? {entries : Dictionary α} {key : String} {value : α}
    (h : get? entries key = some value) : (key, value) ∈ entries := by
  obtain ⟨before, after, hentries, -⟩ := List.lookup_eq_some_iff.mp h
  simp [hentries]

theorem mem_keys_of_get? {entries : Dictionary α} {key : String} {value : α}
    (h : get? entries key = some value) : key ∈ entries.keys :=
  List.mem_map_of_mem (mem_of_get? h)

end Dictionary

end TenantQuery
