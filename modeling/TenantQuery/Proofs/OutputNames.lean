import TenantQuery.Proofs.Authorization
import TenantQuery.Proofs.Text.Ascii
/-!
Every column of a result can be asked for by its output name.

Whatever names a request repeats, misspells or leaves out, the names that come out differ from one
another, and each of them reads as one unquoted name that the database keeps in full.
-/

namespace TenantQuery

open Sql Compilation Identifier

namespace Identifier

/-- The characters of a name are bytes. -/
theorem utf8ByteSize_of_isName {name : String} (h : IsName name.toList) :
    name.utf8ByteSize = name.toList.length := by
  apply Text.IsAscii.utf8ByteSize
  intro c hc
  have hchar := h.all c hc
  rw [isNameChar_iff, isNameStart_iff, isDigit_iff] at hchar
  omega

end Identifier

/-- The output names of a result differ from one another, and each is a name in lower case.  It
takes more columns than can be counted to make a number so long that the name is not kept in
full. -/
theorem output_names_unambiguous {settings : Settings} {access : Access} {intent : Intent}
    {today : Date} (hsuccess : (compileOn settings access intent today).success) :
    ((compileOn settings access intent today).columns.map OutputColumn.name).Nodup ∧
    (∀ column ∈ (compileOn settings access intent today).columns, IsName column.name.toList) ∧
    (intent.Addressable → ∀ column ∈ (compileOn settings access intent today).columns,
      isCanonical column.name ∧ column.name.utf8ByteSize ≤ 63) := by
  obtain ⟨table, hadmitted⟩ := success_iff.mp hsuccess
  have hcolumns : (compileOn settings access intent today).columns =
      (selectColumns access table [] (columnRequests intent)).1.map OutputColumn.ofColumn := by
    rw [compileOn_of_admitted hadmitted today]
    rfl
  have hnames : OutputColumn.name ∘ OutputColumn.ofColumn = Column.outputName := rfl
  rw [hcolumns]
  refine ⟨?_, ?_, ?_⟩
  · rw [List.map_map, hnames]
    exact nodup_outputNames (columnRequests intent) []
  · intro output hmem
    obtain ⟨column, hcolumn, rfl⟩ := List.mem_map.mp hmem
    exact isName_outputName hcolumn
  · intro hcount output hmem
    obtain ⟨column, hcolumn, rfl⟩ := List.mem_map.mp hmem
    have hcanonical := isCanonical_outputName hcount hcolumn
    have hsize := utf8ByteSize_of_isName (isName_outputName hcolumn)
    exact ⟨hcanonical, hsize.le.trans (length_le_of_isIdentifier (isCanonical_iff.mp hcanonical).1)⟩

/-- A request for one column three times, the last time under a name that numbering comes to. -/
def Sample.repetitive : Intent where
  table := "orders"
  dimensions := [{ field := "region" }, { field := "Region" },
    { field := "region", outputName := some "REGION_2" }]
  metrics := [{ field := "amount", outputName := some "Select" }]

theorem output_names_unambiguous_repetitive :
    (compileOn {} ⟨Sample.port, Sample.caller⟩ Sample.repetitive Sample.day).columns.map
        OutputColumn.name = ["region", "region_2", "region_3", "sum_amount"] ∧
    ["region", "region_2", "region_3", "sum_amount"].Nodup ∧
    ∀ column ∈ (compileOn {} ⟨Sample.port, Sample.caller⟩ Sample.repetitive Sample.day).columns,
      isCanonical column.name ∧ column.name.utf8ByteSize ≤ 63 := by
  have hsuccess :
      (compileOn {} ⟨Sample.port, Sample.caller⟩ Sample.repetitive Sample.day).success := by
    decide +kernel
  have hnames : (compileOn {} ⟨Sample.port, Sample.caller⟩ Sample.repetitive
      Sample.day).columns.map OutputColumn.name =
        ["region", "region_2", "region_3", "sum_amount"] := by
    decide +kernel
  obtain ⟨hnodup, -, hcanonical⟩ := output_names_unambiguous hsuccess
  rw [hnames] at hnodup
  exact ⟨hnames, hnodup, hcanonical (by decide)⟩

end TenantQuery
