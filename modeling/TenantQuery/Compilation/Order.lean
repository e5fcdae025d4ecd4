import TenantQuery.Compilation.Conditions
/-!
What the rows are sorted by.

A sort key means the column with that output name, or else the first column over that field; a
key that means no column is dropped.  Grouped rows are sorted by the first column when no key is
left.
-/

namespace TenantQuery.Compilation

/-- The column that a name means. -/
def targetColumn? (columns : List Sql.Column) (name : String) : Option Sql.Column :=
  (columns.find? (·.outputName == name)).or (columns.find? (·.field == name))

/-- The sort key of an entry, or the reason why it has none. -/
def sortKey (columns : List Sql.Column) (entry : OrderSpec) : Except Adjustment Sql.SortKey :=
  if !Identifier.isIdentifier entry.field then .error .sortKeyIllFormed
  else
    let name := Identifier.canonical entry.field
    match targetColumn? columns name with
    | some column => .ok (.output column.outputName entry.direction)
    | none => .error (.sortKeyUnmatched name)

def sortKeys (columns : List Sql.Column) (entries : List OrderSpec) :
    List Sql.SortKey × List Adjustment :=
  let (keys, adjustments) := separate (entries.map (sortKey columns))
  if keys.isEmpty && columns.any (·.isDimension) then ([.firstColumn], adjustments)
  else (keys, adjustments)

end TenantQuery.Compilation
