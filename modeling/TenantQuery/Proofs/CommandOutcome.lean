import TenantQuery.Proofs.CommandArguments
import TenantQuery.Proofs.Json.ReadBack
import TenantQuery.Proofs.Policy.CanonicalNames
import TenantQuery.Proofs.Refusal
/-!
How the command that compiles ends.

Its status tells whether there is a statement, an error of the compilation, or something that could
not be read.  In the first two cases one JSON object is printed that shows the same, and in the
third one nothing is printed.
-/

namespace TenantQuery

theorem bind_eq_ok_iff {ε α β : Type} {attempt : Except ε α} {next : α → Except ε β} {value : β} :
    attempt >>= next = .ok value ↔ ∃ found, attempt = .ok found ∧ next found = .ok value := by
  cases attempt <;> simp [bind, Except.bind]

/-- A file is read as the text whose UTF-8 its bytes are. -/
theorem fileText_eq_ok_iff {path text : String} {bytes : Option ByteArray} :
    fileText path bytes = .ok text ↔ bytes = some text.toUTF8 := by
  have hdecode : ∀ {content : ByteArray},
      String.fromUTF8? content = some text ↔ content = text.toUTF8 := by
    intro content
    unfold String.fromUTF8?
    constructor
    · intro h
      split at h
      · cases h
        rfl
      · cases h
    · rintro rfl
      rw [String.toUTF8_eq_toByteArray, dif_pos text.isValidUTF8]
      rfl
  unfold fileText
  cases bytes with
  | none => simp
  | some content =>
      rw [Option.bind_some, Option.some_inj, ← hdecode]
      cases String.fromUTF8? content <;> simp

theorem Settings.fault?_of_load {yaml : String} {settings : Settings}
    (h : Settings.load yaml = .ok settings) : settings.fault? = none := by
  obtain ⟨found, -, hvalid⟩ := bind_eq_ok_iff.mp h
  obtain ⟨hfault, rfl⟩ := unlessFault_eq_ok_iff.mp hvalid
  exact hfault

namespace CommandLine

def CompileArguments.source (given : CompileArguments) (inputs : Inputs) : Option ByteArray :=
  if given.intent = "-" then some inputs.standardInput else inputs.file given.intent

/-- Reads the intent in a text, which may be the raw answer of a language model. -/
def CompileArguments.readIntent (given : CompileArguments) (text : String) :
    Except LoadError (Reading.Noted Intent) :=
  if given.raw then Intent.loadResponse text else Intent.load text

/-- Everything that a compilation needs is there and well formed, and the settings have no fault. -/
structure CompileArguments.Ready (given : CompileArguments) (inputs : Inputs)
    (prepared : Prepared) : Prop where
  policy : ∃ text, inputs.file given.policy = some text.toUTF8 ∧
    Allowlist.load text = .ok prepared.allowlist
  settings : match given.settings with
    | none => prepared.settings = {}
    | some path => ∃ text, inputs.file path = some text.toUTF8 ∧
        Settings.load text = .ok prepared.settings
  faultless : prepared.settings.fault? = none
  intent : ∃ text notes, given.source inputs = some text.toUTF8 ∧
    given.readIntent text = .ok (prepared.intent, notes)

/-- What the compilation of what was read comes to, for the caller of the arguments. -/
def CompileArguments.result (given : CompileArguments) (inputs : Inputs) (prepared : Prepared) :
    CompileResult :=
  compileOn prepared.settings ⟨prepared.allowlist.toPolicy, given.caller⟩ prepared.intent
    (given.today.getD inputs.today)

/-- The object shows a statement and how its rows may be drawn. -/
structure ShowsStatement (members : Dictionary Json) (sql : String) (hints : ChartHints) :
    Prop where
  success : members.get? "success" = some (.bool true)
  sql : members.get? "sql" = some (.string sql)
  chart : members.get? "chart" = some hints.json
  error : members.get? "error" = none

/-- The object shows an error and nothing that could be executed or drawn. -/
structure ShowsError (members : Dictionary Json) (error : String) : Prop where
  success : members.get? "success" = some (.bool false)
  error : members.get? "error" = some (.string error)
  sql : members.get? "sql" = none
  chart : members.get? "chart" = none

inductive CompileArguments.Ends (given : CompileArguments) (inputs : Inputs) : Output → Prop where
  | statement {prepared : Prepared} {sql text : String} {hints : ChartHints}
      {members : Dictionary Json} (ready : given.Ready inputs prepared)
      (success : (given.result inputs prepared).success = true)
      (statement : (given.result inputs prepared).sql = some sql)
      (chart : ChartHints.of? prepared.intent (given.result inputs prepared) given.question =
        some hints)
      (printed : Json.parse? text = some (.object members))
      (shows : ShowsStatement members sql hints) : Ends given inputs ⟨0, text⟩
  | rejection {prepared : Prepared} {error text : String} {members : Dictionary Json}
      (ready : given.Ready inputs prepared)
      (failure : (given.result inputs prepared).success = false)
      (reason : (given.result inputs prepared).error = some error)
      (printed : Json.parse? text = some (.object members))
      (shows : ShowsError members error) : Ends given inputs ⟨1, text⟩
  | unread (h : ∀ prepared, ¬ given.Ready inputs prepared) : Ends given inputs ⟨2, ""⟩

section Reading

variable {given : CompileArguments} {inputs : Inputs} {prepared other : Prepared}

theorem intentText_eq_ok_iff {text : String} :
    given.intentText inputs = .ok text ↔ given.source inputs = some text.toUTF8 := by
  simp only [CompileArguments.intentText, CompileArguments.source, fileText_eq_ok_iff, beq_iff_eq]

/-- Reads the settings; without a file for them they are the usual ones. -/
def CompileArguments.readSettings (given : CompileArguments) (inputs : Inputs) :
    Except LoadError Settings :=
  match given.settings with
  | some path => fileText path (inputs.file path) >>= Settings.load
  | none => Settings.validate {}

theorem readSettings_eq_ok_iff {settings : Settings} :
    given.readSettings inputs = .ok settings ↔
      (match given.settings with
        | none => settings = {}
        | some path => ∃ text, inputs.file path = some text.toUTF8 ∧
            Settings.load text = .ok settings) ∧ settings.fault? = none := by
  unfold CompileArguments.readSettings
  cases given.settings with
  | none =>
      simp only [Settings.validate, unlessFault_eq_ok_iff]
      constructor
      · rintro ⟨hfault, rfl⟩
        exact ⟨rfl, hfault⟩
      · rintro ⟨rfl, hfault⟩
        exact ⟨hfault, rfl⟩
  | some path =>
      simp only [bind_eq_ok_iff, fileText_eq_ok_iff]
      constructor
      · rintro ⟨text, htext, hload⟩
        exact ⟨⟨text, htext, hload⟩, Settings.fault?_of_load hload⟩
      · rintro ⟨hread, -⟩
        exact hread

theorem prepare_eq (given : CompileArguments) (inputs : Inputs) :
    given.prepare inputs = do
      let policyText ← fileText given.policy (inputs.file given.policy)
      let allowlist ← Allowlist.load policyText
      let settings ← given.readSettings inputs
      let text ← given.intentText inputs
      let noted ← given.readIntent text
      return { allowlist, settings, intent := noted.1 } := by
  unfold CompileArguments.prepare CompileArguments.readSettings CompileArguments.readIntent
  cases given.settings <;> cases given.raw <;> simp

/-- Reading succeeds exactly when everything is there. -/
theorem prepare_eq_ok_iff : given.prepare inputs = .ok prepared ↔ given.Ready inputs prepared := by
  simp only [prepare_eq, bind_eq_ok_iff, fileText_eq_ok_iff, intentText_eq_ok_iff,
    readSettings_eq_ok_iff]
  constructor
  · rintro ⟨policyText, hpolicy, allowlist, hallowlist, settings, ⟨hsettings, hfault⟩, text, htext,
      ⟨intent, notes⟩, hintent, hprepared⟩
    cases hprepared
    exact ⟨⟨policyText, hpolicy, hallowlist⟩, hsettings, hfault, text, notes, htext, hintent⟩
  · rintro ⟨⟨policyText, hpolicy, hallowlist⟩, hsettings, hfault, text, notes, htext, hintent⟩
    exact ⟨policyText, hpolicy, _, hallowlist, _, ⟨hsettings, hfault⟩, text, htext, _, hintent, rfl⟩

theorem CompileArguments.Ready.unique (h : given.Ready inputs prepared)
    (hother : given.Ready inputs other) : prepared = other :=
  Except.ok.inj ((prepare_eq_ok_iff.mpr h).symm.trans (prepare_eq_ok_iff.mpr hother))

end Reading

section Printing

open Json (ReadsAs)

/-- Members with values that read back make an object that does. -/
theorem readsAs_object {depth : Nat} {members : List (String × Json)}
    (h : ∀ member ∈ members, ReadsAs depth member.2 member.2) :
    ReadsAs (depth + 1) (.object members) (.object (Dictionary.ofList members)) :=
  .object (List.forall₂_same.mpr fun member hmember => ⟨rfl, h member hmember⟩)

theorem readsAs_sorted {depth : Nat} {members : List (String × Json)}
    (h : ∀ member ∈ members, ReadsAs depth member.2 member.2)
    (hsorted : (members.map Prod.fst).Pairwise (· < ·)) :
    ReadsAs (depth + 1) (.object members) (.object members) := by
  have hread := readsAs_object h
  rwa [Dictionary.ofList_of_sorted hsorted] at hread

theorem readsAs_columnJson (depth : Nat) (column : OutputColumn) :
    ReadsAs (depth + 1) (CompileResult.columnJson column) (CompileResult.columnJson column) := by
  refine readsAs_sorted ?_ (by decide : ["alias", "kind"].Pairwise (· < ·))
  simp only [List.forall_mem_cons]
  exact ⟨.string _ _, .string _ _, List.forall_mem_nil _⟩

theorem readsAs_hints (depth : Nat) (hints : ChartHints) :
    ReadsAs (depth + 2) hints.json hints.json := by
  unfold ChartHints.json
  cases hints.xAxis with
  | none =>
      refine readsAs_sorted ?_ (by decide : ["chartType", "title", "yAxis"].Pairwise (· < ·))
      simp only [Option.map_none, Option.toList_none, List.append_nil, List.cons_append,
        List.nil_append, List.forall_mem_cons]
      exact ⟨.string _ _, .string _ _, ReadsAs.strings _ _, List.forall_mem_nil _⟩
  | some axis =>
      refine readsAs_sorted ?_
        (by decide : ["chartType", "title", "xAxis", "yAxis"].Pairwise (· < ·))
      simp only [Option.map_some, Option.toList_some, List.cons_append, List.nil_append,
        List.forall_mem_cons]
      exact ⟨.string _ _, .string _ _, .string _ _, ReadsAs.strings _ _, List.forall_mem_nil _⟩

/-- The members of what a compilation prints. -/
def documentMembers (result : CompileResult) (chart : Option ChartHints) : List (String × Json) :=
  result.members ++ (chart.map fun hints => ("chart", hints.json)).toList

/-- What a compilation prints is read back as one object with the members that were printed. -/
theorem parse?_compileOutput (result : CompileResult) (chart : Option ChartHints) :
    Json.parse? (compileOutput result chart).text =
      some (.object (Dictionary.ofList (documentMembers result chart))) := by
  apply ReadsAs.parse?_pretty
  have hcolumns : ReadsAs 126 (.array (result.columns.map CompileResult.columnJson))
      (.array (result.columns.map CompileResult.columnJson)) :=
    .array (List.forall₂_same.mpr fun _ hcolumn => by
      obtain ⟨column, -, rfl⟩ := List.mem_map.mp hcolumn
      exact readsAs_columnJson 124 column)
  apply readsAs_object
  simp only [CompileResult.members, List.forall_mem_append, List.forall_mem_cons]
  refine ⟨⟨.bool _ _, ⟨?_, ?_⟩, ReadsAs.strings 125 _, ReadsAs.strings 125 _, hcolumns,
    List.forall_mem_nil _⟩, ?_⟩
  · cases result.sql with
    | none => exact List.forall_mem_nil _
    | some sql => exact List.forall_mem_singleton.mpr (.string _ _)
  · cases result.error with
    | none => exact List.forall_mem_nil _
    | some error => exact List.forall_mem_singleton.mpr (.string _ _)
  · cases chart with
    | none => exact List.forall_mem_nil _
    | some hints => exact List.forall_mem_singleton.mpr (readsAs_hints 124 hints)

theorem showsStatement {result : CompileResult} {sql : String} {hints : ChartHints}
    (hsuccess : result.success = true) (hsql : result.sql = some sql)
    (herror : result.error = none) :
    ShowsStatement (Dictionary.ofList (documentMembers result (some hints))) sql hints := by
  constructor <;> rw [Dictionary.get?_ofList] <;>
    simp [documentMembers, CompileResult.members, hsuccess, hsql, herror, List.lookup_cons]

theorem showsError {result : CompileResult} {error : String} (hfailure : result.success = false)
    (herror : result.error = some error) (hsql : result.sql = none) :
    ShowsError (Dictionary.ofList (documentMembers result none)) error := by
  constructor <;> rw [Dictionary.get?_ofList] <;>
    simp [documentMembers, CompileResult.members, hfailure, hsql, herror, List.lookup_cons]

end Printing

section Ending

variable {given : CompileArguments} {inputs : Inputs} {prepared : Prepared} {output : Output}

/-- What is printed for the result of a compilation, and the status with it. -/
theorem compileOutput_eq (result : CompileResult) (chart : Option ChartHints) :
    compileOutput result chart =
      ⟨if result.success then 0 else 1, (compileOutput result chart).text⟩ := rfl

theorem result_cases (given : CompileArguments) (inputs : Inputs) (prepared : Prepared) :
    (∃ statement warnings, given.result inputs prepared = .ofStatement statement warnings) ∨
      ∃ rejection warnings, given.result inputs prepared = .ofRejection rejection warnings := by
  unfold CompileArguments.result compileOn Compilation.result
  split
  · exact .inl ⟨_, _, rfl⟩
  · exact .inr ⟨_, _, rfl⟩

/-- A compilation that has all it needs ends with a statement or with a rejection. -/
theorem CompileArguments.Ready.ends (h : given.Ready inputs prepared) :
    given.Ends inputs (compileOutput (given.result inputs prepared)
      (ChartHints.of? prepared.intent (given.result inputs prepared) given.question)) := by
  rcases result_cases given inputs prepared with
    ⟨statement, warnings, hresult⟩ | ⟨rejection, warnings, hresult⟩
  · have hsuccess : (given.result inputs prepared).success = true := by rw [hresult]; rfl
    have hsql : (given.result inputs prepared).sql = some statement.render := by rw [hresult]; rfl
    have herror : (given.result inputs prepared).error = none := by rw [hresult]; rfl
    obtain ⟨hints, hhints⟩ : ∃ hints, ChartHints.of? prepared.intent (given.result inputs prepared)
        given.question = some hints := by simp [ChartHints.of?, hsuccess]
    rw [compileOutput_eq, if_pos hsuccess, hhints]
    exact .statement h hsuccess hsql hhints (parse?_compileOutput _ _)
      (showsStatement hsuccess hsql herror)
  · have hfailure : (given.result inputs prepared).success = false := by rw [hresult]; rfl
    have hsql : (given.result inputs prepared).sql = none := by rw [hresult]; rfl
    have herror : (given.result inputs prepared).error = some rejection.message := by
      rw [hresult]; rfl
    have hhints : ChartHints.of? prepared.intent (given.result inputs prepared) given.question =
        none := by simp [ChartHints.of?, hfailure]
    rw [compileOutput_eq, if_neg (by simp [hfailure]), hhints]
    exact .rejection h hfailure herror (parse?_compileOutput _ _)
      (showsError hfailure herror hsql)

/-- The command ends in one of the three ways. -/
theorem CompileArguments.ends_run (given : CompileArguments) (inputs : Inputs) :
    given.Ends inputs (given.run inputs) := by
  unfold CompileArguments.run
  cases hprepare : given.prepare inputs with
  | error cause =>
      refine .unread fun prepared hready => ?_
      rw [prepare_eq_ok_iff.mpr hready] at hprepare
      cases hprepare
  | ok prepared => exact (prepare_eq_ok_iff.mp hprepare).ends

/-- What holds of what was read holds of what is there, since there is nothing else to be read. -/
theorem CompileArguments.Ready.exists_iff (h : given.Ready inputs prepared) {P : Prepared → Prop} :
    (∃ other, given.Ready inputs other ∧ P other) ↔ P prepared := by
  constructor
  · rintro ⟨other, hother, hP⟩
    rwa [hother.unique h] at hP
  · exact fun hP => ⟨prepared, h, hP⟩

/-- The status is 0 for a success and 1 for a failure of the compilation. -/
theorem CompileArguments.Ends.status_eq_iff (h : given.Ends inputs output) (success : Bool) :
    output.status = (if success then 0 else 1) ↔
      ∃ prepared, given.Ready inputs prepared ∧
        (given.result inputs prepared).success = success := by
  cases h with
  | statement ready hsuccess =>
      rw [ready.exists_iff, hsuccess]
      cases success <;> simp
  | rejection ready hfailure =>
      rw [ready.exists_iff, hfailure]
      cases success <;> simp
  | unread hnone =>
      have hstatus : (2 : Nat) ≠ if success then 0 else 1 := by cases success <;> decide
      refine iff_of_false hstatus ?_
      rintro ⟨prepared, hready, -⟩
      exact hnone prepared hready

theorem CompileArguments.Ends.status_eq_two_iff (h : given.Ends inputs output) :
    output.status = 2 ↔ ∀ prepared, ¬ given.Ready inputs prepared := by
  cases h with
  | statement ready => exact iff_of_false (by simp) fun hnone => hnone _ ready
  | rejection ready => exact iff_of_false (by simp) fun hnone => hnone _ ready
  | unread hnone => exact iff_of_true rfl hnone

end Ending

/-- The arguments are those of the command that compiles, perhaps behind the option for more
reports. -/
def ArgumentsOf (rest arguments : List String) : Prop :=
  arguments = "compile" :: rest ∨ arguments = "--debug" :: "compile" :: rest

/-- No other command comes to a compilation. -/
theorem exists_of_command? {arguments : List String} {given : CompileArguments}
    (h : command? arguments = some (.compile given)) :
    ∃ rest, arguments = "compile" :: rest ∧ compile? rest = some (.compile given) := by
  unfold command? at h
  split at h
  · exact ⟨_, rfl, h⟩
  · unfold checkPolicy? at h
    simp only [Option.bind_eq_bind, Option.bind_eq_some_iff] at h
    obtain ⟨parts, -, debug, -, hpath⟩ := h
    split at hpath <;> cases hpath
  · split at h <;> cases h
  · cases h

theorem exists_argumentsOf {arguments : List String} {given : CompileArguments}
    (h : parse? arguments = some (.compile given)) :
    ∃ rest, ArgumentsOf rest arguments ∧ compile? rest = some (.compile given) := by
  unfold parse? at h
  split at h
  · obtain ⟨rest, rfl, hcompile⟩ := exists_of_command? h
    exact ⟨rest, .inr rfl, hcompile⟩
  · obtain ⟨rest, rfl, hcompile⟩ := exists_of_command? h
    exact ⟨rest, .inl rfl, hcompile⟩

/-- Accepted arguments say what is compiled and for whom, and the status of the command tells how
this ends: 0 with a statement, 1 with an error of the compilation, and 2 exactly when something
could not be read.  The object that is printed shows the same, and nothing is printed with status 2.
An attribute is accepted exactly when a key that is not blank stands in front of its first equals
sign, and what stands behind it is the value. -/
theorem status_tells_outcome {arguments : List String} {given : CompileArguments}
    (haccepted : parse? arguments = some (.compile given)) (inputs : Inputs) :
    (∃ rest parts, ArgumentsOf rest arguments ∧ compileOptions.split? rest = some parts ∧
      parts.Say given) ∧
    given.Describes given.caller ∧
    given.Ends inputs ((Command.compile given).run inputs) ∧
    (((Command.compile given).run inputs).status = 0 ↔
      ∃ prepared, given.Ready inputs prepared ∧
        (given.result inputs prepared).success = true) ∧
    (((Command.compile given).run inputs).status = 1 ↔
      ∃ prepared, given.Ready inputs prepared ∧
        (given.result inputs prepared).success = false) ∧
    (((Command.compile given).run inputs).status = 2 ↔
      ∀ prepared, ¬ given.Ready inputs prepared) ∧
    (∀ argument key value,
      attribute? argument = some (key, value) ↔ WritesAttribute argument key value) ∧
    ∀ argument rest extended,
      compile? (("--attr=" ++ argument) :: rest) = some (.compile extended) ↔
        ∃ key value others, WritesAttribute argument key value ∧
          compile? rest = some (.compile others) ∧
          extended = { others with attributes := (key, value) :: others.attributes } := by
  obtain ⟨rest, hrest, hcompile⟩ := exists_argumentsOf haccepted
  obtain ⟨parts, hparts, hsay⟩ := compile?_eq_some_iff.mp hcompile
  have hends : given.Ends inputs ((Command.compile given).run inputs) := given.ends_run inputs
  exact ⟨⟨rest, parts, hrest, hparts, hsay⟩, given.describes_caller, hends,
    hends.status_eq_iff true, hends.status_eq_iff false, hends.status_eq_two_iff,
    fun _ _ _ => attribute?_eq_some_iff, fun _ _ _ => compile?_attribute_iff⟩

namespace Sample

/-- A policy under which a caller sees the amounts of one region. -/
def policyYaml : String :=
  "tables: \x7borders: \x7bfields: [amount], rowFilters: " ++
    "[\x7bfield: region, userAttribute: area\x7d]\x7d\x7d"

/-- The policy that is written there. -/
def regionPolicy : Allowlist where
  tables := [("orders", { fields := ["amount"], rowFilters := [⟨"region", "area"⟩] })]

def reply : String :=
  "Sure: \x7b\"table\":\"Orders\",\"metrics\":[\x7b\"field\":\"amount\"\x7d]\x7d"

/-- Arguments with two attributes under one key. -/
def commandLine : List String :=
  ["compile", "--intent=-", "--policy", "policy.yaml", "--user=u-1", "--role=clerk",
    "--attr= area = a=b", "--attr", "area=n'orth", "--raw"]

def arguments : CompileArguments where
  intent := "-"
  policy := "policy.yaml"
  settings := none
  user := "u-1"
  roles := ["clerk"]
  attributes := [("area", " a=b"), ("area", "n'orth")]
  raw := true
  today := none
  question := ""

/-- The policy is in its file, and the answer comes from standard input. -/
def inputs : Inputs where
  file path := if path = "policy.yaml" then some policyYaml.toUTF8 else none
  standardInput := reply.toUTF8
  today := TenantQuery.Sample.day

theorem load_policyYaml : Allowlist.load policyYaml = .ok regionPolicy := by
  have hread : (Yaml.parse? policyYaml).bind Allowlist.decoder.decode? = some regionPolicy := by
    cbv
  have hvalid : regionPolicy.validate = .ok regionPolicy := by decide
  rw [Allowlist.load, readYaml, hread]
  exact hvalid

end Sample

/-- A statement is printed, for the last of the two areas; without the file of the policy nothing
is. -/
theorem status_tells_outcome_reply :
    parse? Sample.commandLine = some (.compile Sample.arguments) ∧
      ((Command.compile Sample.arguments).run Sample.inputs).status = 0 ∧
      Sample.arguments.caller.attribute? "area" = some "n'orth" ∧
      (∃ prepared, Sample.arguments.Ready Sample.inputs prepared ∧
        (Sample.arguments.result Sample.inputs prepared).success = true) ∧
      ((Command.compile Sample.arguments).run
        { Sample.inputs with file := fun _ => none }).status = 2 := by
  have haccepted : parse? Sample.commandLine = some (.compile Sample.arguments) := by
    decide +kernel
  have hcompiled : ∃ noted ∈ (Sample.arguments.readIntent Sample.reply).toOption,
      (Sample.arguments.result Sample.inputs
        ⟨Sample.regionPolicy, {}, noted.1⟩).success = true := by
    decide +kernel
  obtain ⟨noted, hnoted, hsuccess⟩ := hcompiled
  have hintent : Sample.arguments.readIntent Sample.reply = .ok noted := by
    generalize Sample.arguments.readIntent Sample.reply = outcome at hnoted
    cases outcome with
    | error error => cases hnoted
    | ok found => rw [Option.some_inj.mp hnoted]
  have hready : Sample.arguments.Ready Sample.inputs ⟨Sample.regionPolicy, {}, noted.1⟩ :=
    ⟨⟨_, rfl, Sample.load_policyYaml⟩, rfl, (by decide : ({} : Settings).fault? = none),
      ⟨_, noted.2, rfl, hintent⟩⟩
  obtain ⟨-, hcaller, -, hzero, -⟩ := status_tells_outcome haccepted Sample.inputs
  obtain ⟨-, -, -, -, -, htwo, -⟩ :=
    status_tells_outcome haccepted { Sample.inputs with file := fun _ => none }
  refine ⟨haccepted, hzero.mpr ⟨_, hready, hsuccess⟩, ?_, ⟨_, hready, hsuccess⟩, htwo.mpr ?_⟩
  · rw [hcaller.attributes]
    decide
  · rintro prepared ⟨⟨text, htext, -⟩, -⟩
    cases htext

end CommandLine

end TenantQuery
