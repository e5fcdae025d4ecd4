import TenantQuery.Proofs.Accounting
import TenantQuery.Proofs.OutputNames
/-!
A replaced output name is reported with the name that is used.

A column whose name was taken gets another name than it would have on its own, and a column whose
requested name is none gets the default; each of the two is a warning that ends in the name really
used.  This holds while the default name is no longer than a name may be.  A longer default is cut
without a word, whichever way it comes to be used.
-/

namespace TenantQuery

open Sql Compilation Identifier

/-- A request over the same table for one column and no other. -/
structure Intent.AsksOnlyFor (lone intent : Intent) (request : ColumnRequest) : Prop where
  table : lone.table = intent.table
  columns : columnRequests lone = [request]

/-- The warning ends by telling the name that is used. -/
def TellsUsed (warning used : String) : Prop :=
  ∃ opening, warning = opening ++ "using '" ++ used ++ "'"

/-- The warning says that a name was taken, and which one is used. -/
def TellsTaken (warning used : String) : Prop :=
  ∃ wanted, warning = "alias '" ++ wanted ++ "' is already in use; using '" ++ used ++ "'"

/-- The name that stands in for the requested one. -/
def Adjustment.used? : Adjustment → Option String
  | .nameReserved _ _ used | .nameIllFormed _ used | .nameTaken _ _ used => some used
  | _ => none

theorem tellsUsed_append {opening close joined : String} (used : String)
    (hjoin : joined = close ++ "using '") : TellsUsed (opening ++ joined ++ used ++ "'") used :=
  ⟨opening ++ close, by rw [hjoin, ← String.append_assoc]⟩

theorem Adjustment.tellsUsed_message {adjustment : Adjustment} {used : String}
    (h : adjustment.used? = some used) : TellsUsed adjustment.message used := by
  cases adjustment with
  | nameReserved field word name =>
      cases h
      have hjoin : "' is a reserved word; using '" = "' is a reserved word; " ++ "using '" := by
        decide +kernel
      exact tellsUsed_append used hjoin
  | nameIllFormed field name =>
      cases h
      have hjoin : " is not a valid identifier; using '" =
          " is not a valid identifier; " ++ "using '" := by
        decide +kernel
      have hopening : "alias is not a valid identifier; using '" =
          "alias" ++ " is not a valid identifier; using '" := by
        decide +kernel
      show TellsUsed ("alias is not a valid identifier; using '" ++ used ++ "'") used
      rw [hopening]
      exact tellsUsed_append used hjoin
  | nameTaken field wanted name =>
      cases h
      have hjoin : "' is already in use; using '" = "' is already in use; " ++ "using '" := by
        decide +kernel
      exact tellsUsed_append used hjoin
  | _ => cases h

namespace Compilation

/-- No name that is too long can come into play: the default is short enough, or the column has a
name of its own. -/
def ColumnRequest.NamesFit (request : ColumnRequest) : Prop :=
  request.defaultName.length ≤ maxLength ∨
    ∃ name, request.requestedName = some name ∧ isIdentifier name

/-- What the share of a column tells of its output name.  A name is changed when a request for
that column alone comes to another one. -/
structure ColumnRequest.Reported (settings : Settings) (access : Access) (intent : Intent)
    (request : ColumnRequest) (share : Share Column) : Prop where
  taken : request.NamesFit → ∀ column ∈ share.part, ∀ lone day, lone.AsksOnlyFor intent request →
    (compileOn settings access lone day).columns ≠ [.ofColumn column] →
      ∃ warning ∈ share.adjustments.map Adjustment.message, TellsTaken warning column.outputName
  replaced : request.defaultName.length ≤ maxLength → ∀ name, request.requestedName = some name →
    isIdentifier name = false → ∀ column ∈ share.part,
      ∃ warning, (share.adjustments.map Adjustment.message).getLast? = some warning ∧
        TellsUsed warning column.outputName

section Names

variable {field default : String} {requested : Option String}

/-- A name that is no identifier gives way to the default, with one departure that tells so. -/
theorem preferredName_of_not_isIdentifier (field default : String) {name : String}
    (h : isIdentifier name = false) :
    ∃ note : Adjustment, preferredName field (some name) default = (default, [note]) ∧
      note.used? = some default := by
  by_cases hreserved : isReserved name
  · exact ⟨.nameReserved field (canonical name) default, by simp [preferredName, h, hreserved], rfl⟩
  · exact ⟨.nameIllFormed field default, by simp [preferredName, h, hreserved], rfl⟩

/-- A preferred name that can be one is used, or it is taken. -/
theorem resolveName_of_fits (taken : List String)
    (h : isIdentifier (preferredName field requested default).1) :
    ((preferredName field requested default).1 ∉ taken ∧
        resolveName taken field requested default = preferredName field requested default) ∨
      ((preferredName field requested default).1 ∈ taken ∧
        resolveName taken field requested default =
          (unusedName taken default, (preferredName field requested default).2 ++
            [.nameTaken field (preferredName field requested default).1
              (unusedName taken default)])) := by
  by_cases htaken : (preferredName field requested default).1 ∈ taken
  · exact .inr ⟨htaken, by simp [resolveName, settledName, htaken]⟩
  · exact .inl ⟨htaken, by simp [resolveName, settledName, htaken, h]⟩

theorem isIdentifier_of_isBaseName {base : String} (h : IsBaseName base)
    (hlength : base.length ≤ maxLength) : isIdentifier base := by
  rw [← String.length_toList] at hlength
  exact (isCanonical_iff.mp (isCanonical_of_isName h.name hlength)).1

theorem ColumnRequest.isIdentifier_preferredName {request : ColumnRequest}
    (hregular : IsBaseName request.defaultName) (h : request.NamesFit) (field : String) :
    isIdentifier (preferredName field request.requestedName request.defaultName).1 := by
  cases hname : request.requestedName with
  | none =>
      refine isIdentifier_of_isBaseName hregular (h.resolve_right ?_)
      simp [hname]
  | some name =>
      cases hidentifier : isIdentifier name with
      | true => simp [preferredName, hidentifier]
      | false =>
          obtain ⟨note, hpreferred, -⟩ :=
            preferredName_of_not_isIdentifier field request.defaultName hidentifier
          rw [hpreferred]
          refine isIdentifier_of_isBaseName hregular (h.resolve_right ?_)
          simp [hname, hidentifier]

/-- Two names of one column differ because the one was taken, and then it is reported. -/
theorem ColumnRequest.tellsTaken {request : ColumnRequest}
    (hregular : IsBaseName request.defaultName) (hfits : request.NamesFit)
    (taken : List String) (field : String)
    (hother : (resolveName taken field request.requestedName request.defaultName).1 ≠
      (resolveName [] field request.requestedName request.defaultName).1) :
    ∃ note ∈ (resolveName taken field request.requestedName request.defaultName).2,
      TellsTaken note.message
        (resolveName taken field request.requestedName request.defaultName).1 := by
  have hidentifier := request.isIdentifier_preferredName hregular hfits field
  have hown := (resolveName_of_fits [] hidentifier).resolve_right (by simp)
  rcases resolveName_of_fits taken hidentifier with ⟨-, hfree⟩ | ⟨-, htaken⟩
  · exact absurd (by rw [hfree, hown.2]) hother
  · rw [htaken]
    exact ⟨_, List.mem_append_right _ List.mem_cons_self, _, rfl⟩

/-- The last departure of a column whose requested name is none tells the name that is used. -/
theorem ColumnRequest.tellsUsed {request : ColumnRequest}
    (hregular : IsBaseName request.defaultName) (hlength : request.defaultName.length ≤ maxLength)
    {name : String} (hname : request.requestedName = some name)
    (hinvalid : isIdentifier name = false) (taken : List String) (field : String) :
    ∃ note, (resolveName taken field request.requestedName request.defaultName).2.getLast? =
        some note ∧
      TellsUsed note.message
        (resolveName taken field request.requestedName request.defaultName).1 := by
  have hidentifier := request.isIdentifier_preferredName hregular (.inl hlength) field
  obtain ⟨note, hpreferred, hused⟩ :=
    preferredName_of_not_isIdentifier field request.defaultName hinvalid
  rw [hname] at hidentifier ⊢
  rcases resolveName_of_fits taken hidentifier with ⟨-, hfree⟩ | ⟨-, htaken⟩
  · rw [hfree, hpreferred]
    exact ⟨note, rfl, Adjustment.tellsUsed_message hused⟩
  · rw [htaken, hpreferred]
    exact ⟨.nameTaken field request.defaultName (unusedName taken request.defaultName), rfl,
      Adjustment.tellsUsed_message rfl⟩

end Names

section Shares

variable {settings : Settings} {access : Access} {table : String} {intent : Intent}

/-- A request for one column that survives comes to that column, under the name that it has with
no name taken. -/
theorem columns_of_asksOnlyFor {lone : Intent} {request : ColumnRequest}
    (htable : resolveTable? settings intent.table = some table)
    (hallowed : access.tableAllowed table) (hlone : lone.AsksOnlyFor intent request)
    (hadmits : admits access table request.field) (day : Date) :
    (compileOn settings access lone day).columns =
      (request.keptShare []).part.toList.map .ofColumn := by
  have hselect : (selectColumns access table [] (columnRequests lone)).1 =
      (request.keptShare []).part.toList := by
    rw [hlone.columns, selectColumns_cons_of_admits [] [] hadmits]
    rfl
  have hadmitted : Admitted settings access lone table :=
    ⟨hlone.table ▸ htable, hallowed, by rw [hselect]; simp [ColumnRequest.keptShare]⟩
  rw [compileOn_of_admitted hadmitted day, ← hselect]
  rfl

theorem ColumnRequest.reported_keptShare {request : ColumnRequest}
    (htable : resolveTable? settings intent.table = some table)
    (hallowed : access.tableAllowed table) (hregular : request.Regular)
    (hadmits : admits access table request.field) (taken : List String) :
    request.Reported settings access intent (request.keptShare taken) where
  taken hfits column hcolumn lone day hlone hother := by
    cases hcolumn
    rw [columns_of_asksOnlyFor htable hallowed hlone hadmits day] at hother
    obtain ⟨note, hmem, htells⟩ := request.tellsTaken (hregular (isIdentifier_of_admits hadmits))
      hfits taken (canonical request.field) fun heq => hother (by
        simp [ColumnRequest.keptShare, heq])
    exact ⟨note.message, List.mem_map_of_mem hmem, htells⟩
  replaced hlength name hname hinvalid column hcolumn := by
    cases hcolumn
    obtain ⟨note, hlast, htells⟩ := request.tellsUsed (hregular (isIdentifier_of_admits hadmits))
      hlength hname hinvalid taken (canonical request.field)
    exact ⟨note.message, by rw [List.getLast?_map]; exact congrArg _ hlast, htells⟩

theorem ColumnRequest.reported_of_dropped {request : ColumnRequest} {share : Share Column}
    (h : share.part = none) : request.Reported settings access intent share where
  taken _ column hcolumn := by rw [h] at hcolumn; cases hcolumn
  replaced _ _ _ _ column hcolumn := by rw [h] at hcolumn; cases hcolumn

end Shares

end Compilation

/-- Every column of a compilation that succeeds has a share in its warnings, which reports the
name of the column if that is not the requested one.  This needs the names to fit: a default that
is too long is cut, and of this nothing is said. -/
theorem replaced_names_reported {settings : Settings} {access : Access} {intent : Intent}
    {today : Date} (hsuccess : (compileOn settings access intent today).success) :
    ∃ (table : String) (dimensions metrics : List (Share Column)) (later : List Adjustment),
      (compileOn settings access intent today).columns =
        (dimensions.filterMap Share.part ++ metrics.filterMap Share.part).map .ofColumn ∧
      (compileOn settings access intent today).warnings =
        (dimensions.flatMap Share.adjustments ++ metrics.flatMap Share.adjustments ++ later).map
          Adjustment.message ∧
      List.Forall₂ (fun dimension share =>
          (ColumnRequest.ofDimension dimension).Settled access table share ∧
            (ColumnRequest.ofDimension dimension).Reported settings access intent share)
        intent.dimensions dimensions ∧
      List.Forall₂ (fun metric share =>
          (ColumnRequest.ofMetric metric).Settled access table share ∧
            (ColumnRequest.ofMetric metric).Reported settings access intent share)
        intent.metrics metrics := by
  obtain ⟨table, hadmitted⟩ := success_iff.mp hsuccess
  -- A default name can be cut and numbered because it is made from an identifier.
  obtain ⟨dimensions, metrics, hdimensions, hmetrics, hselect⟩ := exists_selectShares
    (R := fun request share => request.Settled access table share ∧
      (request.Regular → request.Reported settings access intent share))
    (fun request taken hadmits => ⟨ColumnRequest.settled_of_admits taken hadmits, fun hregular =>
      request.reported_keptShare hadmitted.resolved hadmitted.allowed hregular hadmits taken⟩)
    (fun request adjustment hadmits hresult => ⟨ColumnRequest.settled_of_not_admits hadmits hresult,
      fun _ => request.reported_of_dropped rfl⟩)
    intent
  refine ⟨table, dimensions, metrics, (conditions settings access table today intent).2 ++
    (sortKeys (selectColumns access table [] (columnRequests intent)).1 intent.orderBy).2,
    ?_, ?_, ?_, ?_⟩
  · rw [compileOn_of_admitted hadmitted today]
    exact congrArg (·.1.map OutputColumn.ofColumn) hselect
  · rw [compileOn_of_admitted hadmitted today, CompileResult.ofStatement, adjustmentsOver, hselect,
      List.append_assoc _ (conditions settings access table today intent).2]
  · exact hdimensions.imp fun dimension _ h => ⟨h.1, h.2 isBaseName_canonical⟩
  · exact hmetrics.imp fun metric _ h => ⟨h.1, h.2 (isBaseName_aggregate metric.aggregate)⟩

/-- The reserved name of the metric gives way to the default, and a warning tells so. -/
theorem replaced_names_reported_repetitive :
    ∃ warning ∈ (compileOn {} ⟨Sample.port, Sample.caller⟩ Sample.repetitive Sample.day).warnings,
      TellsUsed warning "sum_amount" := by
  have hsuccess :
      (compileOn {} ⟨Sample.port, Sample.caller⟩ Sample.repetitive Sample.day).success := by
    decide +kernel
  have hlast : ((compileOn {} ⟨Sample.port, Sample.caller⟩ Sample.repetitive
      Sample.day).columns.map OutputColumn.name).getLast? = some "sum_amount" := by
    decide +kernel
  obtain ⟨table, dimensions, metrics, later, hcolumns, hwarnings, -, hmetrics⟩ :=
    replaced_names_reported hsuccess
  obtain - | ⟨⟨hsettled, hreported⟩, hrest⟩ := hmetrics
  cases hrest
  cases hsettled with
  | @kept column notes _ hfits =>
      obtain ⟨warning, hwarning, htells⟩ :=
        hreported.replaced (by decide) "Select" rfl (by decide) column rfl
      have hname : column.outputName = "sum_amount" := by
        rw [hcolumns] at hlast
        simpa [OutputColumn.ofColumn] using hlast
      refine ⟨warning, ?_, hname ▸ htells⟩
      rw [hwarnings, List.map_append, List.map_append]
      exact List.mem_append_left _ (List.mem_append_right _
        (by simpa using List.mem_of_getLast? hwarning))
  | dropped hdropped =>
      have hadmits : admits ⟨Sample.port, Sample.caller⟩ table "amount" = true := by
        simp only [admits, Access.fieldAllowed, Sample.port]
        decide
      cases hadmits.symm.trans hdropped

namespace Sample

/-- A column whose sum has a default name that is too long. -/
def longField : String := String.ofList ('a' :: List.replicate 59 'b')

/-- A request for that sum twice, the second time under a name that is none. -/
def longNamed : Intent where
  table := "orders"
  metrics := [{ field := longField }, { field := longField, outputName := some "1st" }]

/-- The default name of the sum with this many letters left of the column. -/
def longName (letters : Nat) : String :=
  String.ofList (['s', 'u', 'm', '_', 'a'] ++ List.replicate letters 'b')

end Sample

/-- A default that is too long is cut without a word: the second column has another name than it
would have alone, and no warning says that this one was taken; and the only warning tells a name
that no column has. -/
theorem replaced_names_unreported_long :
    (compileOn {} ⟨Sample.port, Sample.caller⟩ Sample.longNamed Sample.day).columns.map
        OutputColumn.name = [Sample.longName 58, Sample.longName 56 ++ "_2"] ∧
    (compileOn {} ⟨Sample.port, Sample.caller⟩
        { Sample.longNamed with metrics := Sample.longNamed.metrics.drop 1 }
        Sample.day).columns.map OutputColumn.name = [Sample.longName 58] ∧
    (compileOn {} ⟨Sample.port, Sample.caller⟩ Sample.longNamed Sample.day).warnings =
      ["alias is not a valid identifier; using '" ++ Sample.longName 59 ++ "'"] ∧
    ¬ TellsTaken ("alias is not a valid identifier; using '" ++ Sample.longName 59 ++ "'")
      (Sample.longName 56 ++ "_2") ∧
    ¬ TellsUsed ("alias is not a valid identifier; using '" ++ Sample.longName 59 ++ "'")
      (Sample.longName 56 ++ "_2") := by
  have hresult :
      ((compileOn {} ⟨Sample.port, Sample.caller⟩ Sample.longNamed Sample.day).columns.map
          OutputColumn.name,
        (compileOn {} ⟨Sample.port, Sample.caller⟩ Sample.longNamed Sample.day).warnings) =
      ([Sample.longName 58, Sample.longName 56 ++ "_2"],
        ["alias is not a valid identifier; using '" ++ Sample.longName 59 ++ "'"]) := by
    decide +kernel
  obtain ⟨hcolumns, hwarnings⟩ := Prod.mk.inj hresult
  refine ⟨hcolumns, by decide +kernel, hwarnings, ?_, ?_⟩
  · rintro ⟨wanted, heq⟩
    have hchars := congrArg String.toList heq
    simp only [String.toList_append] at hchars
    -- Behind the first word the one has a quote and the other has none.
    have hquote := congrArg (fun chars => (chars.drop 6).head?) hchars
    simp at hquote
  · rintro ⟨opening, heq⟩
    have hchars := congrArg String.toList heq
    simp only [String.toList_append, Sample.longName, String.toList_ofList] at hchars
    -- Before the last quote the one has a letter and the other has a digit.
    have hend := congrArg List.reverse hchars
    simp at hend

end TenantQuery
