import Conform.CommandLine.Summary
import Conform.Proofs.Checker.Message
import Conform.Proofs.Checker.Reference
import Conform.Proofs.Checker.Rendering
import Conform.Proofs.FileCheck
import Conform.Proofs.SourceMap
import Conform.Proofs.Value.Json
import Mathlib.Algebra.GroupWithZero.Nat

/-!
# The JSON report

What the JSON report says about files that are checked against a schema, in terms of the schema's
evaluation alone (`ErrorsOf`): a file that has no value has one error, which is a message, and a
file that has one has an error for each violation, in order (`EntryOf`). The reports that a
validator makes come to this (`errorsOf_reports`). A summary is JSON data without doubles
(`Summary.isExact_toValue`), so all reports together have a JSON text (`exists_json_summary`).
-/

namespace Conform

namespace DataFile

/-- The tree of a file's text. -/
def IsRoot (disk : Disk) (path : String) (root : Yaml.Node) : Prop :=
  ∃ place contents chars, disk.find? (FilePath.normalize path) = some (place, contents) ∧
    decodeFile contents = .ok chars ∧ Yaml.compose chars = .ok (some root)

/-- The source map of a file is that of its tree; without a tree it is empty. -/
theorem sourceMap_of_load {disk : Disk} {path : String} {value : Value} {map : SourceMap}
    (h : (load disk path).2 = .ok (value, map)) :
    (∃ root, IsRoot disk path root ∧ map = root.sourceMap) ∨
      (∀ root, ¬ IsRoot disk path root) ∧ map = [] := by
  obtain ⟨place, contents, hfind, hparse⟩ := load_eq_ok.1 h
  obtain ⟨chars, hchars, -, hmap⟩ := parse_eq_ok.1 hparse
  have hcompose {root : Yaml.Node} (hroot : IsRoot disk path root) :
      Yaml.compose chars = .ok (some root) := by
    obtain ⟨_, _, _, hfind', hchars', hcompose⟩ := hroot
    obtain ⟨rfl, rfl⟩ := Prod.mk.inj (Option.some.inj (hfind.symm.trans hfind'))
    rwa [Except.ok.inj (hchars.symm.trans hchars')]
  unfold Yaml.sourceMap at hmap
  split at hmap
  · rename_i root hroot
    exact .inl ⟨root, ⟨place, contents, chars, hfind, hchars, hroot⟩, (Except.ok.inj hmap).symm⟩
  · rename_i hnone
    refine .inr ⟨fun root hroot => ?_, (Except.ok.inj hmap).symm⟩
    cases hnone.symm.trans (hcompose hroot)
  · rename_i herror
    refine .inr ⟨fun root hroot => ?_, (Except.ok.inj hmap).symm⟩
    cases herror.symm.trans (hcompose hroot)
  · cases hmap

end DataFile

/-! ## Values of reports -/

theorem Finding.keys_entry (name : String) (value : Option Value) :
    ∃ names : List String, (entry name value).map (·.1) = names.map .str ∧
      names.Sublist [name] := by
  cases value with
  | none => exact ⟨[], rfl, List.nil_sublist _⟩
  | some v => exact ⟨[name], rfl, .refl _⟩

theorem Finding.isExact_entry {name : String} {value : Option Value}
    (h : ∀ v, value = some v → v.IsExact) : ∀ member ∈ entry name value, member.2.IsExact := by
  cases value with
  | none => exact nofun
  | some v => exact List.forall_mem_singleton.2 (h v rfl)

theorem Finding.isExact_toValue (finding : Finding) : finding.toValue.IsExact := by
  obtain ⟨kinds, hkinds, hkind⟩ := keys_entry "kind" (finding.kind.map .str)
  obtain ⟨paths, hpaths, hpath⟩ := keys_entry "path" (finding.pointer.map .str)
  obtain ⟨lines, hlines, hline⟩ := keys_entry "line" (finding.line.map .int)
  obtain ⟨columns, hcolumns, hcolumn⟩ := keys_entry "column" (finding.column.map .int)
  have hnames : ("message" :: (kinds ++ paths ++ lines ++ columns)).Sublist
      ["message", "kind", "path", "line", "column"] :=
    (((hkind.append hpath).append hline).append hcolumn).cons_cons _
  have hstr {s : Option String} : ∀ v, s.map Value.str = some v → v.IsExact := by
    rintro _ h
    obtain ⟨s, -, rfl⟩ := Option.map_eq_some_iff.1 h
    exact .str s
  have hint {n : Option Int} : ∀ v, n.map Value.int = some v → v.IsExact := by
    rintro _ h
    obtain ⟨n, -, rfl⟩ := Option.map_eq_some_iff.1 h
    exact .int n
  refine .map ?_ (hnames.nodup (by decide)) ?_
  · simp [hkinds, hpaths, hlines, hcolumns]
  · simp only [List.forall_mem_cons, List.forall_mem_append]
    exact ⟨.str _, ⟨⟨isExact_entry hstr, isExact_entry hstr⟩, isExact_entry hint⟩,
      isExact_entry hint⟩

theorem FileReport.isExact_toValue (report : FileReport) : report.toValue.IsExact := by
  have herrors : (Value.list (report.errors.map Finding.toValue)).IsExact :=
    .list (List.forall_mem_map.2 fun finding _ => finding.isExact_toValue)
  refine .map (show _ = ["file", "ok", "errors"].map Value.str from rfl) (by decide) ?_
  simp [Value.IsExact.str, Value.IsExact.bool, herrors]

namespace CommandLine

theorem Summary.isExact_toValue (summary : Summary) : summary.toValue.IsExact := by
  have hwarnings : (Value.list (summary.warnings.map .str)).IsExact :=
    .list (List.forall_mem_map.2 fun warning _ => .str warning)
  have hresults : (Value.list (summary.reports.map FileReport.toValue)).IsExact :=
    .list (List.forall_mem_map.2 fun report _ => report.isExact_toValue)
  refine .map (show _ = ["schema", "files", "errors", "warnings", "results"].map Value.str from rfl)
    (by decide) ?_
  simp [Value.IsExact.str, Value.IsExact.int, hwarnings, hresults]

/-- A summary has JSON text, which is what it is printed as. -/
theorem Summary.json?_toValue (summary : Summary) :
    summary.toValue.json? jsonLayout = some summary.json := by
  have hlayout : jsonLayout.sortKeys = false := rfl
  obtain ⟨text, htext⟩ := Value.exists_json? hlayout summary.isExact_toValue.isJson
  rw [Summary.json, htext, Option.getD_some]

variable {schema : Schema} {validator : Validator} {disk : Disk}

/-! ## Entries -/

/-- A mapping of names to values. -/
def object (fields : List (String × Value)) : Value :=
  .map (fields.map fun field => (.str field.1, field.2))

/-- The entry of a violation, with what is known of its position. -/
def violationEntry (v : Violation) (position : List (String × Value)) : Value :=
  object ([("message", .str (v.pointer ++ ": " ++ v.message)), ("kind", .str v.kind.name),
    ("path", .str v.pointer)] ++ position)

/-- What the report says of a violation in a file. If the file has a tree, there are a line and a
column: those of the node that the violation is at or closest below. -/
inductive EntryOf (disk : Disk) (path : String) (v : Violation) : Value → Prop
  | placed {root : Yaml.Node} {line column : Int} : DataFile.IsRoot disk path root →
      root.sourceMap.closest v.pointer = some ⟨some line, some column⟩ →
      EntryOf disk path v (violationEntry v [("line", .int line), ("column", .int column)])
  | unplaced : (∀ root, ¬ DataFile.IsRoot disk path root) →
      EntryOf disk path v (violationEntry v [])

theorem entryOf_ofViolation {path file : String} {value : Value} {map : SourceMap}
    (hload : (DataFile.load disk path).2 = .ok (value, map)) (v : Violation) :
    EntryOf disk path v (Finding.ofViolation map file v).toValue := by
  rcases DataFile.sourceMap_of_load hload with ⟨root, hroot, rfl⟩ | ⟨hrootless, rfl⟩
  · obtain ⟨line, column, hclosest⟩ :=
      SourceMap.closest_of_rooted (Yaml.rooted_sourceMap root) v.path
    have hentry : (Finding.ofViolation root.sourceMap file v).toValue =
        violationEntry v [("line", .int line), ("column", .int column)] := by
      have hclosest : root.sourceMap.closest v.pointer = _ := hclosest
      simp [Finding.ofViolation, Finding.at?, Finding.toValue, Finding.entry, SourceMap.locate,
        hclosest, violationEntry, object, Violation.line]
    rw [hentry]
    exact .placed hroot hclosest
  · have hclosest (pointer : String) : SourceMap.closest [] pointer = none :=
      List.findSome?_eq_none_iff.2 fun _ _ => rfl
    have hentry : (Finding.ofViolation [] file v).toValue = violationEntry v [] := by
      simp [Finding.ofViolation, Finding.at?, Finding.toValue, Finding.entry, SourceMap.locate,
        hclosest, violationEntry, object, Violation.line]
    rw [hentry]
    exact .unplaced hrootless

/-! ## Files -/

/-- The errors that the report has for a file. -/
inductive ErrorsOf (schema : Schema) (disk : Disk) (path : String) : List Value → Prop
  | unloadable {error : DataError} : (DataFile.load disk path).2 = .error (.data error) →
      ErrorsOf schema disk path [object [("message", .str error.message)]]
  | checked {value : Value} {map : SourceMap} {violations : List Violation}
      {entries : List Value} : (DataFile.load disk path).2 = .ok (value, map) →
      schema.evaluate .standard value [] = .ok violations →
      (∀ v ∈ violations, v.IsCanonical) →
      List.Forall₂ (EntryOf disk path) violations entries → ErrorsOf schema disk path entries

/-- The file cannot be loaded, or its value has violations. -/
inductive FailsCheck (schema : Schema) (disk : Disk) (path : String) : Prop
  | unloadable {failure : DataFailure} : (DataFile.load disk path).2 = .error failure →
      FailsCheck schema disk path
  | violated {value : Value} {map : SourceMap} {violations : List Violation} :
      (DataFile.load disk path).2 = .ok (value, map) →
      schema.evaluate .standard value [] = .ok violations → violations ≠ [] →
      FailsCheck schema disk path

/-- If the file has a value, the evaluation of the schema on it comes to an end. -/
def EvaluatesOn (schema : Schema) (disk : Disk) (path : String) : Prop :=
  ∀ value map, (DataFile.load disk path).2 = .ok (value, map) →
    ∃ violations, schema.evaluate .standard value [] = .ok violations

instance (schema : Schema) (disk : Disk) (path : String) :
    Decidable (FailsCheck schema disk path) :=
  match hload : (DataFile.load disk path).2 with
  | .error _ => isTrue (.unloadable hload)
  | .ok (value, _) =>
    match hevaluate : schema.evaluate .standard value [] with
    | .ok (_ :: _) => isTrue (.violated hload hevaluate nofun)
    | .ok [] => isFalse fun h => by
      cases h with
      | unloadable hfailed => cases hload.symm.trans hfailed
      | violated hloaded hfound hne =>
        cases hload.symm.trans hloaded
        exact hne (Except.ok.inj (hevaluate.symm.trans hfound)).symm
    | .error _ => isFalse fun h => by
      cases h with
      | unloadable hfailed => cases hload.symm.trans hfailed
      | violated hloaded hfound _ =>
        cases hload.symm.trans hloaded
        cases hevaluate.symm.trans hfound

instance (schema : Schema) (disk : Disk) (path : String) :
    Decidable (EvaluatesOn schema disk path) :=
  match hload : (DataFile.load disk path).2 with
  | .error _ => isTrue fun _ _ h => by cases hload.symm.trans h
  | .ok (value, map) =>
    match hevaluate : schema.evaluate .standard value [] with
    | .ok violations => isTrue fun _ _ h => by
      cases hload.symm.trans h
      exact ⟨violations, hevaluate⟩
    | .error _ => isFalse fun h => by
      obtain ⟨violations, hfound⟩ := h value map hload
      cases hevaluate.symm.trans hfound

theorem errors_of_evaluate (hv : Validator.ofSchema schema .standard = .ok validator)
    {value : Value} {violations : List Violation}
    (h : schema.evaluate .standard value [] = .ok violations) :
    validator.errors value = .ok violations := by
  obtain ⟨checker, hc, hv⟩ := bind_eq_ok.1 hv
  obtain rfl := Except.ok.inj hv
  exact (evaluate_follows schema hc value []).result violations h

section
variable (hv : Validator.ofSchema schema .standard = .ok validator) {path : String}
  {report : FileReport} (hevaluates : EvaluatesOn schema disk path)
include hv hevaluates

theorem errorsOf_reports (h : validator.Reports disk path report) :
    ErrorsOf schema disk path (report.errors.map Finding.toValue) := by
  cases h with
  | unloadable hload => exact .unloadable hload
  | checked hload herrors =>
    obtain ⟨violations, hevaluate⟩ := hevaluates _ _ hload
    obtain rfl := Except.ok.inj (herrors.symm.trans (errors_of_evaluate hv hevaluate))
    refine .checked hload hevaluate (Checker.canonical_of_collect _ _ _ _ herrors) ?_
    rw [List.map_map, List.forall₂_map_right_iff, List.forall₂_same]
    exact fun v _ => entryOf_ofViolation hload v

theorem ok_iff_not_failsCheck (h : validator.Reports disk path report) :
    report.ok = true ↔ ¬ FailsCheck schema disk path := by
  cases h with
  | unloadable hload => exact iff_of_false nofun fun hfails => hfails (.unloadable hload)
  | checked hload herrors =>
    obtain ⟨violations, hevaluate⟩ := hevaluates _ _ hload
    obtain rfl := Except.ok.inj (herrors.symm.trans (errors_of_evaluate hv hevaluate))
    rw [FileReport.ok, List.isEmpty_iff, List.map_eq_nil_iff, ← not_iff_not, not_not]
    constructor
    · exact .violated hload hevaluate
    · intro hfails
      cases hfails with
      | unloadable hfailed => cases hload.symm.trans hfailed
      | violated hloaded hfound hne =>
        cases hload.symm.trans hloaded
        rwa [Except.ok.inj (hevaluate.symm.trans hfound)]

end

/-! ## Reports -/

/-- What the report says of a file with some errors. -/
def resultEntry (path : String) (errors : List Value) : Value :=
  object [("file", .str (FilePath.normalize path)), ("ok", .bool errors.isEmpty),
    ("errors", .list errors)]

/-- The report on some files, each with its errors, and the warnings of a schema document. -/
def reportEntry (source : String) (warnings : List String) (paths : List String)
    (errors : List (List Value)) : Value :=
  object [("schema", .str source), ("files", .int paths.length),
    ("errors", .int (errors.map List.length).sum), ("warnings", .list (warnings.map .str)),
    ("results", .list (List.zipWith resultEntry paths errors))]

theorem errorCount_eq (summary : Summary) :
    summary.errorCount = (summary.reports.map fun report => report.errors.length).sum := by
  rw [Summary.errorCount, List.sum_eq_foldl, List.foldl_map]

theorem toValue_of_reports : ∀ {paths : List String} {reports : List FileReport},
    List.Forall₂ (validator.Reports disk) paths reports →
      reports.map FileReport.toValue =
        List.zipWith resultEntry paths (reports.map fun report => report.errors.map Finding.toValue)
  | [], _, .nil => rfl
  | path :: _, report :: _, .cons hreport h => by
    have hfile : report.file = FilePath.normalize path := by cases hreport <;> rfl
    have hresult : report.toValue = resultEntry path (report.errors.map Finding.toValue) := by
      simp [FileReport.toValue, FileReport.ok, resultEntry, object, hfile]
    rw [List.map_cons, List.map_cons, List.zipWith_cons_cons, toValue_of_reports h, hresult]

section
variable (hv : Validator.ofSchema schema .standard = .ok validator) {paths : List String}
  (hevaluates : ∀ path ∈ paths, EvaluatesOn schema disk path) {reports : List FileReport}
  (h : List.Forall₂ (validator.Reports disk) paths reports)
include hv hevaluates h

theorem errorsOf_all : List.Forall₂ (ErrorsOf schema disk) paths
    (reports.map fun report => report.errors.map Finding.toValue) := by
  induction h with
  | nil => exact .nil
  | cons hreport _ ih =>
    obtain ⟨hpath, hevaluates⟩ := List.forall_mem_cons.1 hevaluates
    exact .cons (errorsOf_reports hv hpath hreport) (ih hevaluates)

/-- The JSON text of a summary is that of the report. -/
theorem exists_json_summary (source : String) (warnings : List String) :
    ∃ errors, List.Forall₂ (ErrorsOf schema disk) paths errors ∧
      (reportEntry source warnings paths errors).json? Summary.jsonLayout =
        some (Summary.mk source warnings reports).json := by
  have herrors := errorsOf_all hv hevaluates h
  have hvalue : (Summary.mk source warnings reports).toValue = reportEntry source warnings paths
      (reports.map fun report => report.errors.map Finding.toValue) := by
    simp [Summary.toValue, reportEntry, object, errorCount_eq, toValue_of_reports h, h.length_eq,
      Function.comp_def]
  exact ⟨_, herrors, by rw [← hvalue, Summary.json?_toValue]⟩

theorem all_ok_iff : reports.all FileReport.ok = true ↔
    ¬ ∃ path ∈ paths, FailsCheck schema disk path := by
  induction h with
  | nil => simp
  | cons hreport _ ih =>
    obtain ⟨hpath, hevaluates⟩ := List.forall_mem_cons.1 hevaluates
    rw [List.all_cons, Bool.and_eq_true, ok_iff_not_failsCheck hv hpath hreport, ih hevaluates]
    simp

end

end CommandLine

end Conform
