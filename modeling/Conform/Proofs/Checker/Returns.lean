import Conform.Proofs.Checker.Reference
import Mathlib.Control.Monad.Basic

/-!
# Checks that return

The standard formats are plain predicates, with one exception: `regex` compiles its string, and some
patterns are too large for that or change their flags half way. So on a schema compiled with the
standard formats only two tests can fail, the format of patterns and the search for a pattern, and
both fail on a string (`overtaxes_of_undecided`). Where they answer on the strings in a value, the
evaluator and the validator return (`Validator.returns_of_answering_strings`).
-/

namespace Conform

/-! ## The formats in a checker -/

/-- Every format among the refinements is the one that the registry has under its name. -/
def FormatsFrom (registry : Registry) (refinements : List Refinement) : Prop :=
  ∀ name format, .format name format ∈ refinements → registry.find? name = some format

section
variable {registry : Registry} {place : String}

theorem formatsFrom_append {rs rs' : List Refinement} (h : FormatsFrom registry rs)
    (h' : FormatsFrom registry rs') : FormatsFrom registry (rs ++ rs') := by
  intro name format hmem
  rcases List.mem_append.1 hmem with hmem | hmem
  · exact h name format hmem
  · exact h' name format hmem

theorem formatsFrom_ofKind {r : Refinements} {k : Kind} {rs : List Refinement}
    (h : r.ofKind registry place k = .ok rs) : FormatsFrom registry rs := by
  intro name format hmem
  cases k with
  | string =>
    obtain ⟨least, -, most, -, -, -, pattern, -, given, hgiven, rfl⟩ :=
      Refinements.ofString_eq_ok.1 h
    have hformat : ∃ f, given = some f ∧ r.format.text = name ∧ f = format := by
      simpa [Refinement.format.injEq] using hmem
    obtain ⟨f, rfl, rfl, rfl⟩ := hformat
    rcases whenGiven_eq_ok.1 hgiven with ⟨-, hnone⟩ | ⟨-, f', hresolve, hf⟩
    · cases hnone
    · obtain rfl := Option.some.inj hf
      obtain ⟨s, hs, hfind⟩ := resolve_eq_ok.1 hresolve
      rw [hs]
      exact hfind
  | number =>
    obtain ⟨least, -, most, -, -, -, rfl⟩ := Refinements.ofNumber_eq_ok.1 h
    simp at hmem
  | boolean | null =>
    obtain rfl := Except.ok.inj h
    cases hmem

mutual

theorem formatsFrom_compileAt (schema : Schema) {place : String} {checker : Checker}
    (h : schema.compileAt registry place = .ok checker) :
    FormatsFrom registry checker.refinements := by
  cases schema with
  | primitive kind r =>
    obtain ⟨k, -, rs, hr, rfl⟩ := compilePrimitive_eq_ok.1 h
    exact formatsFrom_ofKind hr
  | literal expected =>
    obtain ⟨-, rfl⟩ := compileAt_literal.1 h
    exact nofun
  | list item minItems maxItems =>
    obtain ⟨least, -, most, -, inner, hi, -, -, rfl⟩ := compileAt_list.1 h
    have hitem : FormatsFrom registry inner.refinements := formatsFrom_compileAt item hi
    exact hitem
  | object entries strict =>
    obtain ⟨fields, hf, -, -, rfl⟩ := compileAt_object.1 h
    exact formatsFrom_compileEntries entries hf
  | union options =>
    obtain ⟨checkers, ho, rfl⟩ := compileAt_union.1 h
    exact formatsFrom_compileAll options ho
  | field inner required => cases h
  | other w => cases h
termination_by structural schema

theorem formatsFrom_compileEntries (entries : List Entry) {place : String}
    {fields : List FieldChecker} (h : compileEntries entries registry place = .ok fields) :
    FormatsFrom registry (fieldRefinements fields) := by
  cases entries with
  | nil =>
    cases h
    exact nofun
  | cons entry rest =>
    obtain ⟨field, hf, others, ho, rfl⟩ := compileEntries_cons.1 h
    exact formatsFrom_append (formatsFrom_compileEntry entry hf)
      (formatsFrom_compileEntries rest ho)
termination_by structural entries

theorem formatsFrom_compileEntry (entry : Entry) {place : String} {field : FieldChecker}
    (h : entry.compileAt registry place = .ok field) :
    FormatsFrom registry field.refinements := by
  match entry with
  | .named name (.field schema required) =>
    obtain ⟨_, _, _, ⟨⟩, -, checker, hs, rfl⟩ := compileAt_entry.1 h
    exact formatsFrom_compileAt schema hs
  | .other w => simp [compileAt_entry] at h
termination_by structural entry

theorem formatsFrom_compileAll (options : List Schema) {place : String} {index : Nat}
    {checkers : List Checker} (h : compileAll options registry place index = .ok checkers) :
    FormatsFrom registry (optionRefinements checkers) := by
  cases options with
  | nil =>
    cases h
    exact nofun
  | cons option rest =>
    obtain ⟨checker, ho, others, hr, rfl⟩ := compileAll_cons.1 h
    exact formatsFrom_append (formatsFrom_compileAt option ho) (formatsFrom_compileAll rest hr)
termination_by structural options

end

end

/-- The standard formats are plain predicates, but for the format of patterns. -/
theorem standard_find {name : String} {format : Format}
    (h : Registry.standard.find? name = some format) :
    (name = "regex" ∧ format = ⟨Format.isPattern, fun _ => false⟩) ∨
      ∃ p, format = Format.total p := by
  obtain ⟨before, after, hsplit, -⟩ := List.lookup_eq_some_iff.1 h
  have hmem : (name, format) ∈ Registry.standard := by
    rw [hsplit]
    exact List.mem_append_right _ List.mem_cons_self
  simp only [Registry.standard, List.mem_cons, Prod.mk.injEq, List.not_mem_nil, or_false] at hmem
  rcases hmem with ⟨-, rfl⟩ | ⟨-, rfl⟩ | ⟨-, rfl⟩ | ⟨-, rfl⟩ | hregex | ⟨-, rfl⟩ | ⟨-, rfl⟩ |
    ⟨-, rfl⟩
  case inr.inr.inr.inr.inl => exact .inl hregex
  all_goals exact .inr ⟨_, rfl⟩

/-! ## The strings in a value -/

/-- A test of the checker that fails on a string: the search for one of its patterns or, where the
format of patterns is asked for, the compilation of the string. -/
inductive Checker.Overtaxes (checker : Checker) (s : String) (fault : Fault) : Prop
  | search {text : String} {program : Pattern.Program} :
      .pattern text program ∈ checker.refinements → program.search s = .error fault →
        Overtaxes checker s fault
  | regex {format : Format} :
      .format "regex" format ∈ checker.refinements → Format.isPattern s = .error fault →
        Overtaxes checker s fault

/-- With the standard formats, a test that fails on a part of a value fails on a string. -/
theorem Checker.overtaxes_of_undecided {checker : Checker} {v : Value} {fault : Fault}
    (hformats : FormatsFrom .standard checker.refinements)
    (h : Undecided checker.refinements v fault) :
    ∃ s, (Value.str s).PartOf v ∧ checker.Overtaxes s fault := by
  obtain ⟨r, hr, w, hw, hfault⟩ := h
  cases r with
  | pattern text program =>
    cases w with
    | str s => exact ⟨s, hw, .search hr hfault⟩
    | _ => cases hfault
  | format name format =>
    cases w with
    | str s =>
      have hconforms : format.conforms s = .error fault := hfault
      rcases standard_find (hformats name format hr) with ⟨rfl, rfl⟩ | ⟨p, rfl⟩
      · refine ⟨s, hw, .regex hr ?_⟩
        cases hpattern : Format.isPattern s with
        | ok b => simp [Format.conforms, hpattern] at hconforms
        | error e => simpa [Format.conforms, hpattern] using hconforms
      · cases hconforms
    | _ => cases hfault
  | _ => cases w <;> cases hfault

/-! ## Validators -/

/-- On a schema compiled with the standard formats, the evaluator and the validator return for every
value in whose strings the patterns can be searched for and, where the schema asks for that, those
strings can be told to be patterns or not; and they all say the same. -/
theorem Validator.returns_of_answering_strings {schema : Schema} {validator : Validator}
    (hv : Validator.ofSchema schema .standard = .ok validator) {value : Value}
    (hs : ∀ s fault, (Value.str s).PartOf value → ¬ validator.checker.Overtaxes s fault) :
    ∃ violations, schema.evaluate .standard value [] = .ok violations ∧
      validator.errors value = .ok violations ∧
      validator.check value = .ok violations.isEmpty ∧
      validator.first value = .ok violations.head? := by
  obtain ⟨checker, hc, hv⟩ := bind_eq_ok.1 hv
  obtain rfl := Except.ok.inj hv
  have hdecided : ∀ fault, ¬ Undecided checker.refinements value fault := by
    intro fault hundecided
    obtain ⟨s, hpart, hfault⟩ :=
      Checker.overtaxes_of_undecided (formatsFrom_compileAt schema hc) hundecided
    exact hs s fault hpart hfault
  have hfollows := evaluate_follows schema hc value []
  have hagree := checker.agree value []
  cases hevaluate : schema.evaluate .standard value [] with
  | error e =>
    obtain ⟨fault, -, hfault⟩ := hfollows.failure e hevaluate
    exact absurd hfault (hdecided fault)
  | ok violations =>
    have herrors : checker.collect value [] = .ok violations :=
      hfollows.result violations hevaluate
    have hcheck : checker.accepts value = .ok violations.isEmpty :=
      hagree.verdict_of_report violations herrors
    refine ⟨violations, rfl, herrors, hcheck, ?_⟩
    simp only [first, check, errors, hcheck, herrors, ok_bind]
    cases violations <;> rfl

/-- A list of short patterns. -/
def patternsSchema : Schema :=
  .list (.string { pattern := .str "^.{1,20}$", format := .str "regex" }) .null .null

def patternsChecker (program : Pattern.Program) : Checker :=
  .list (.primitive .string
    [.pattern "^.{1,20}$" program, .format "regex" ⟨Format.isPattern, fun _ => false⟩]) none none

theorem patterns_not_overtaxed {program : Pattern.Program} (hgroups : program.groups = 1)
    {s : String} {fault : Fault} (hs : (Value.str s).PartOf (.list [.str "a+", .str "("])) :
    ¬ (patternsChecker program).Overtaxes s fault := by
  have hall : (patternsChecker program).refinements =
      [.pattern "^.{1,20}$" program, .format "regex" ⟨Format.isPattern, fun _ => false⟩] := rfl
  have hmem : s ∈ ["a+", "("] := by
    rcases Value.partOf_list hs with hs | ⟨item, hitem, hs⟩
    · cases hs
    · simp only [List.mem_cons, List.not_mem_nil, or_false] at hitem
      rcases hitem with rfl | rfl <;> simp [Value.str.inj (Value.partOf_str hs)]
  rintro (⟨hmem', hfault⟩ | ⟨-, hfault⟩)
  · rw [hall] at hmem'
    obtain ⟨-, rfl⟩ : _ ∧ _ = program := by simpa using hmem'
    obtain ⟨b, hb⟩ := search_of_groupless hgroups s
    rw [hb] at hfault
    cases hfault
  · have htold : ∀ s ∈ ["a+", "("], (Format.isPattern s).isOk = true := by decide +kernel
    have hok := htold s hmem
    rw [hfault] at hok
    cases hok

theorem compile_patterns {program : Pattern.Program}
    (h : Pattern.compile "^.{1,20}$" = .ok program) :
    Validator.ofSchema patternsSchema .standard =
      .ok ⟨patternsSchema, patternsChecker program⟩ := by
  have hpattern : requirePattern (.str "^.{1,20}$") = .ok ("^.{1,20}$", program) :=
    requirePattern_eq_ok.2 ⟨rfl, h⟩
  simp only [Validator.ofSchema, Schema.compile, patternsSchema, Schema.string, Schema.compileAt,
    compilePrimitive, Refinements.ofString, whenGiven, hpattern]
  rfl

/-- One of the two is no pattern. -/
theorem Validator.returns_patterns : ∃ validator,
    Validator.ofSchema patternsSchema .standard = .ok validator ∧
    ∃ violations,
      patternsSchema.evaluate .standard (.list [.str "a+", .str "("]) [] = .ok violations ∧
      validator.errors (.list [.str "a+", .str "("]) = .ok violations ∧
      validator.check (.list [.str "a+", .str "("]) = .ok false ∧
      validator.first (.list [.str "a+", .str "("]) = .ok violations.head? ∧
      violations.map (fun v => (v.pointer, v.kind)) = [("/1", .formatInvalid)] := by
  have hgroups : (Pattern.compile "^.{1,20}$").toOption.map (·.groups) = some 1 := by
    decide +kernel
  cases hc : Pattern.compile "^.{1,20}$" with
  | error e =>
    rw [hc] at hgroups
    cases hgroups
  | ok program =>
    rw [hc] at hgroups
    have hprogram : program.groups = 1 := Option.some.inj hgroups
    obtain ⟨violations, hevaluate, herrors, hcheck, hfirst⟩ :=
      Validator.returns_of_answering_strings (compile_patterns hc)
        fun s fault => patterns_not_overtaxed hprogram
    have hrun : (patternsSchema.evaluate .standard (.list [.str "a+", .str "("]) []).toOption.map
        (List.map fun v => (v.pointer, v.kind)) = some [("/1", .formatInvalid)] := by
      decide +kernel
    rw [hevaluate] at hrun
    have hviolations : violations.map (fun v => (v.pointer, v.kind)) = [("/1", .formatInvalid)] :=
      Option.some.inj hrun
    have hne : violations.isEmpty = false := by
      cases violations with
      | nil => cases hviolations
      | cons => rfl
    rw [hne] at hcheck
    exact ⟨_, compile_patterns hc, violations, hevaluate, herrors, hcheck, hfirst, hviolations⟩

/-- Strings that are patterns. -/
def regexSchema : Schema := .string { format := .str "regex" }

def regexChecker : Checker :=
  .primitive .string [.format "regex" ⟨Format.isPattern, fun _ => false⟩]

/-- What overtaxes the format of patterns is passed on by all who ask for it. -/
theorem fails_of_overtaxing {s : String} {fault : Fault} (h : Format.isPattern s = .error fault) :
    regexSchema.evaluate .standard (.str s) [] = .error (.fault fault) ∧
      regexChecker.accepts (.str s) = .error fault ∧
      regexChecker.collect (.str s) [] = .error fault := by
  have hconforms : (Format.mk Format.isPattern fun _ => false).conforms s = .error fault := by
    simp [Format.conforms, h]
  have hcollect : regexChecker.collect (.str s) [] = .error fault := by
    simp [regexChecker, Checker.collect, Kind.includes, Value.isString, Refinement.violations,
      Refinement.holds, hconforms]
  have hcompile : compilePrimitive (.known .string) { format := .str "regex" } .standard "" =
      .ok regexChecker := rfl
  have hevaluate : regexSchema.evaluate .standard (.str s) [] =
      SchemaFailure.ofFault (regexChecker.collect (.str s) []) :=
    evaluatePrimitive_eq_collect hcompile (.str s) []
  refine ⟨?_, ?_, hcollect⟩
  · rw [hevaluate, hcollect]
    rfl
  · simp [regexChecker, Checker.accepts, Kind.includes, Value.isString, Refinement.allHold,
      Refinement.holds, hconforms]

/-- The string asks for more repetitions than can be counted. -/
theorem Validator.overtaxed_by_repetition : ∃ validator,
    Validator.ofSchema regexSchema .standard = .ok validator ∧
    regexSchema.evaluate .standard (.str "a{99999999999}") [] = .error (.fault .tooLarge) ∧
    validator.errors (.str "a{99999999999}") = .error .tooLarge ∧
    validator.check (.str "a{99999999999}") = .error .tooLarge ∧
    validator.first (.str "a{99999999999}") = .error .tooLarge := by
  have hpattern : Format.isPattern "a{99999999999}" = .error .tooLarge := by decide +kernel
  obtain ⟨hevaluate, haccepts, hcollect⟩ := fails_of_overtaxing hpattern
  have hcheck : (Validator.mk regexSchema regexChecker).check (.str "a{99999999999}") =
      .error .tooLarge := haccepts
  refine ⟨⟨regexSchema, regexChecker⟩, rfl, hevaluate, hcollect, hcheck, ?_⟩
  rw [first, hcheck, error_bind]

end Conform
