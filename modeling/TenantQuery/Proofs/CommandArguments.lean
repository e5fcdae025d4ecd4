import TenantQuery.CommandLine.Run
import TenantQuery.Proofs.Json.Members
import TenantQuery.Proofs.PairedLists
import TenantQuery.Proofs.Text.Blank
/-!
What the arguments of the command that compiles say.

Each of the options says one thing, and what is said is what the command is carried out with.  An
attribute has a key in front of its first equals sign, and all behind it is the value.
-/

namespace TenantQuery

theorem Text.cutAt?_eq_some_iff {separator : Char} {chars before after : List Char} :
    Text.cutAt? separator chars = some (before, after) ↔
      chars = before ++ separator :: after ∧ separator ∉ before := by
  constructor
  · intro h
    refine ⟨Text.append_of_cutAt? h, ?_⟩
    unfold Text.cutAt? at h
    split at h
    · cases h
    · cases h
      intro hmem
      simpa using List.mem_takeWhile_imp hmem
  · rintro ⟨rfl, hbefore⟩
    have hpass : ∀ c ∈ before, (c != separator) = true := by
      intro c hc
      simpa using fun heq : c = separator => hbefore (heq ▸ hc)
    simp [Text.cutAt?, List.dropWhile_append_of_pos hpass, List.takeWhile_append_of_pos hpass]

namespace CommandLine

/-- The argument writes an attribute.  Behind the first equals sign stands the value as it is, and
in front of it the key, which is not blank, with or without white space around it. -/
def WritesAttribute (argument key value : String) : Prop :=
  ∃ written, argument = written ++ "=" ++ value ∧ '=' ∉ written.toList ∧
    ¬ Text.isBlankText written ∧ key = Text.trim written

theorem attribute?_eq_some_iff {argument key value : String} :
    attribute? argument = some (key, value) ↔ WritesAttribute argument key value := by
  have htrim : ∀ chars, String.ofList (Text.trimChars chars) = Text.trim (String.ofList chars) := by
    simp [Text.trim]
  unfold attribute?
  constructor
  · intro h
    split at h
    · rename_i written rest hcut
      obtain ⟨htext, hnone⟩ := Text.cutAt?_eq_some_iff.mp hcut
      simp only [htrim, Text.isEmpty_trim] at h
      split at h
      · cases h
      · rename_i hshown
        cases h
        refine ⟨String.ofList written, ?_, by simpa using hnone, hshown, rfl⟩
        apply String.toList_inj.mp
        simp [htext]
    · cases h
  · rintro ⟨written, rfl, hnone, hshown, rfl⟩
    have hcut : Text.cutAt? '=' (written ++ "=" ++ value).toList =
        some (written.toList, value.toList) :=
      Text.cutAt?_eq_some_iff.mpr ⟨by simp, hnone⟩
    simp only [hcut, htrim, String.ofList_toList, Text.isEmpty_trim, hshown, Bool.false_eq_true,
      ↓reduceIte]

/-- What the parts of an argument list say. -/
@[mk_iff]
structure Parts.Say (parts : Parts) (given : CompileArguments) : Prop where
  others : parts.others = []
  debug : (parts.flag? "debug").isSome
  raw : parts.flag? "raw" = some given.raw
  intent : parts.values "intent" = [given.intent]
  policy : parts.values "policy" = [given.policy]
  settings : parts.values "config" = given.settings.toList
  user : parts.values "user" = [given.user]
  /-- The roles come in the order in which they stand. -/
  roles : parts.values "role" = given.roles
  /-- Every attribute is well written. -/
  attributes : List.Forall₂ (fun argument entry => WritesAttribute argument entry.1 entry.2)
    (parts.values "attr") given.attributes
  today : List.Forall₂ (fun argument day => date? argument = some day) (parts.values "today")
    given.today.toList
  question : ∃ asked : Option String, parts.values "question" = asked.toList ∧
    given.question = asked.getD ""

theorem single?_eq_some_iff {parts : Parts} {name : String} {found : Option String} :
    parts.single? name = some found ↔ parts.values name = found.toList := by
  unfold Parts.single?
  cases parts.values name with
  | nil => cases found <;> simp
  | cons first later =>
      cases later with
      | nil => cases found <;> simp [eq_comm]
      | cons second later => cases found <;> simp

/-- The day is given by one argument, or by none. -/
theorem exists_written {arguments : List String} {today : Option Date}
    (h : List.Forall₂ (fun argument day => date? argument = some day) arguments today.toList) :
    ∃ written : Option String, arguments = written.toList ∧
      (written.elim (some none) fun text => (date? text).map some) = some today := by
  cases today with
  | none => exact ⟨none, List.forall₂_nil_right_iff.mp h, rfl⟩
  | some day =>
      obtain ⟨text, _, hday, hnone, rfl⟩ := List.forall₂_cons_right_iff.mp h
      rw [List.forall₂_nil_right_iff.mp hnone]
      exact ⟨some text, rfl, by simp [hday]⟩

/-- Arguments that are accepted say what is to be compiled. -/
theorem exists_say_of_compile? {arguments : List String} {command : Command}
    (h : compile? arguments = some command) :
    ∃ given parts, command = .compile given ∧ compileOptions.split? arguments = some parts ∧
      parts.Say given := by
  unfold compile? at h
  simp only [Option.bind_eq_bind] at h
  obtain ⟨parts, hparts, h⟩ := Option.bind_eq_some_iff.mp h
  have hothers : parts.others = [] := by
    by_contra hothers
    rw [if_pos (by simpa using hothers)] at h
    cases h
  rw [hothers, if_neg (by simp)] at h
  obtain ⟨debug, hdebug, h⟩ := Option.bind_eq_some_iff.mp h
  obtain ⟨written, hwritten, h⟩ := Option.bind_eq_some_iff.mp h
  -- Only the day is read in another way where it is written; all else is as it is without it.
  rcases written with _ | text
  all_goals
    simp only [Option.bind_eq_some_iff] at h
    obtain ⟨today, htoday, _, hintent, intent, rfl, _, hpolicy, policy, rfl, settings, hsettings,
      _, huser, user, rfl, attributes, hattributes, raw, hraw, question, hquestion, h⟩ := h
    cases h
    refine ⟨_, parts, rfl, hparts, hothers, Option.isSome_iff_exists.mpr ⟨_, hdebug⟩,
      hraw, single?_eq_some_iff.mp hintent, single?_eq_some_iff.mp hpolicy,
      single?_eq_some_iff.mp hsettings, single?_eq_some_iff.mp huser, rfl,
      (mapM_eq_some_iff.mp hattributes).imp fun _ _ => attribute?_eq_some_iff.mp, ?_,
      question, single?_eq_some_iff.mp hquestion, rfl⟩
    rw [single?_eq_some_iff.mp hwritten]
  · cases htoday
    exact .nil
  · obtain ⟨day, hday, rfl⟩ := Option.map_eq_some_iff.mp htoday
    exact .cons hday .nil

/-- Parts that say what is to be compiled are accepted. -/
theorem compile?_of_say {arguments : List String} {parts : Parts} {given : CompileArguments}
    (hparts : compileOptions.split? arguments = some parts) (h : parts.Say given) :
    compile? arguments = some (.compile given) := by
  obtain ⟨intent, policy, settings, user, roles, attributes, raw, today, question⟩ := given
  have hsingle : ∀ {name : String} {found : Option String}, parts.values name = found.toList →
      parts.single? name = some found := single?_eq_some_iff.mpr
  obtain ⟨debug, hdebug⟩ := Option.isSome_iff_exists.mp h.debug
  obtain ⟨asked, hasked, hquestion⟩ := h.question
  have hintent : parts.single? "intent" = some (some intent) := hsingle h.intent
  have hpolicy : parts.single? "policy" = some (some policy) := hsingle h.policy
  have huser : parts.single? "user" = some (some user) := hsingle h.user
  have hattributes : (parts.values "attr").mapM attribute? = some attributes :=
    mapM_eq_some_iff.mpr (h.attributes.imp fun _ _ => attribute?_eq_some_iff.mpr)
  obtain ⟨written, hwritten, htoday⟩ := exists_written h.today
  simp only [compile?, Option.bind_eq_bind, hparts, h.others, hdebug, hsingle hwritten, hintent,
    hpolicy, hsingle h.settings, huser, hattributes, h.raw, hsingle hasked, h.roles, ← hquestion,
    List.isEmpty_nil, Bool.not_true, Bool.false_eq_true, ↓reduceIte, Option.bind_some]
  cases written with
  | none =>
      cases htoday
      rfl
  | some text =>
      simp only [Option.elim] at htoday
      simp only [htoday]
      rfl

/-- The arguments are accepted exactly when they say something, and it is this that is done. -/
theorem compile?_eq_some_iff {arguments : List String} {given : CompileArguments} :
    compile? arguments = some (.compile given) ↔
      ∃ parts, compileOptions.split? arguments = some parts ∧ parts.Say given := by
  constructor
  · intro h
    obtain ⟨_, parts, hcommand, hparts, hsay⟩ := exists_say_of_compile? h
    cases hcommand
    exact ⟨parts, hparts, hsay⟩
  · rintro ⟨parts, hparts, hsay⟩
    exact compile?_of_say hparts hsay

def Parts.withAttribute (argument : String) (parts : Parts) : Parts :=
  { parts with options := ("attr", some argument) :: parts.options }

theorem Parts.values_withAttribute (argument name : String) (parts : Parts) :
    (parts.withAttribute argument).values name =
      (if name = "attr" then [argument] else []) ++ parts.values name := by
  by_cases hname : "attr" = name
  · subst hname
    simp [values, withAttribute]
  · simp [values, withAttribute, hname, Ne.symm hname]

theorem Parts.flag?_withAttribute (argument : String) {name : String} (h : name ≠ "attr")
    (parts : Parts) : (parts.withAttribute argument).flag? name = parts.flag? name := by
  simp [flag?, withAttribute, h.symm]

theorem longOption?_attribute (argument : String) :
    longOption? ("--attr=" ++ argument) = some ("attr", some argument) := by
  have hcut : Text.cutAt? '=' ("attr=".toList ++ argument.toList) =
      some ("attr".toList, argument.toList) :=
    Text.cutAt?_eq_some_iff.mpr ⟨by simp, by decide⟩
  have htext : ("--attr=" ++ argument).toList =
      '-' :: '-' :: ("attr=".toList ++ argument.toList) := by simp
  simp only [longOption?, htext, hcut, String.ofList_toList]

theorem split?_attribute (argument : String) (rest : List String) :
    compileOptions.split? (("--attr=" ++ argument) :: rest) =
      (compileOptions.split? rest).map (Parts.withAttribute argument) := by
  have hne : ∀ short : String, short.toList.length < 7 →
      (("--attr=" ++ argument) == short) = false := by
    intro short hshort
    rw [beq_eq_false_iff_ne]
    rintro rfl
    have hlength : "--attr=".toList.length = 7 := by decide
    rw [String.toList_append, List.length_append] at hshort
    omega
  have hoption : isOptionLike ("--attr=" ++ argument) := by
    simp [isOptionLike, bne, hne]
  have hflag : compileOptions.flags.contains "attr" = false := by decide
  have hvalued : compileOptions.valued.contains "attr" := by decide
  rw [Options.split?]
  simp only [hne "--" (by decide), hoption, longOption?_attribute, hflag, hvalued]
  rfl

/-- One more attribute in front says one more attribute and nothing else. -/
theorem Parts.say_withAttribute_iff {argument key value : String} {parts : Parts}
    {given : CompileArguments} :
    (parts.withAttribute argument).Say
        { given with attributes := (key, value) :: given.attributes } ↔
      WritesAttribute argument key value ∧ parts.Say given := by
  have hraw := flag?_withAttribute argument (by decide : "raw" ≠ "attr") parts
  have hdebug := flag?_withAttribute argument (by decide : "debug" ≠ "attr") parts
  simp only [say_iff, values_withAttribute, hraw, hdebug, String.reduceEq, ↓reduceIte,
    List.nil_append, List.singleton_append, List.forall₂_cons]
  tauto

/-- An attribute in front of other arguments is accepted when it is well written and they are
accepted, and then it comes first among the attributes. -/
theorem compile?_attribute_iff {argument : String} {rest : List String}
    {given : CompileArguments} :
    compile? (("--attr=" ++ argument) :: rest) = some (.compile given) ↔
      ∃ key value others, WritesAttribute argument key value ∧
        compile? rest = some (.compile others) ∧
        given = { others with attributes := (key, value) :: others.attributes } := by
  simp only [compile?_eq_some_iff, split?_attribute, Option.map_eq_some_iff]
  constructor
  · rintro ⟨_, ⟨parts, hparts, rfl⟩, hsay⟩
    have hattributes := hsay.attributes
    rw [Parts.values_withAttribute, if_pos rfl, List.singleton_append] at hattributes
    obtain ⟨⟨key, value⟩, later, -, -, hgiven⟩ := List.forall₂_cons_left_iff.mp hattributes
    have hsplit : given =
        { ({ given with attributes := later } : CompileArguments) with
          attributes := (key, value) :: later } := by rw [← hgiven]
    rw [hsplit] at hsay
    obtain ⟨hwrites, hothers⟩ := Parts.say_withAttribute_iff.mp hsay
    exact ⟨key, value, { given with attributes := later }, hwrites, ⟨parts, hparts, hothers⟩,
      hsplit⟩
  · rintro ⟨key, value, others, hwrites, ⟨parts, hparts, hothers⟩, rfl⟩
    exact ⟨_, ⟨parts, hparts, rfl⟩, Parts.say_withAttribute_iff.mpr ⟨hwrites, hothers⟩⟩

/-- The caller is the one of the arguments: the roles stand in their order, and of the values under
one key the last counts. -/
structure CompileArguments.Describes (given : CompileArguments) (caller : Caller) : Prop where
  userId : caller.userId = given.user
  roles : caller.roles = given.roles
  attributes : ∀ key, caller.attribute? key = given.attributes.reverse.lookup key

theorem foldl_withRole (roles : List String) (caller : Caller) :
    roles.foldl Caller.withRole caller = { caller with roles := caller.roles ++ roles } := by
  induction roles generalizing caller with
  | nil => simp
  | cons role roles ih => simp [ih, Caller.withRole]

theorem foldl_withAttribute (entries : List (String × String)) (caller : Caller) :
    entries.foldl (fun caller (key, value) => caller.withAttribute key value) caller =
      { caller with
        attributes := entries.foldl (fun kept entry => kept.insert entry.1 entry.2)
          caller.attributes } := by
  induction entries generalizing caller with
  | nil => rfl
  | cons entry entries ih =>
      rw [List.foldl_cons, ih]
      rfl

theorem CompileArguments.describes_caller (given : CompileArguments) :
    given.Describes given.caller := by
  have hcaller : given.caller =
      { userId := given.user, roles := given.roles
        attributes := Dictionary.ofList given.attributes } := by
    rw [caller, foldl_withRole, foldl_withAttribute]
    simp [Dictionary.ofList]
  rw [hcaller]
  exact ⟨rfl, rfl, Dictionary.get?_ofList given.attributes⟩

end CommandLine

end TenantQuery
