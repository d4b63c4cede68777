import Conform.CommandLine.Summary
import Conform.Proofs.Document.Version
import Conform.Proofs.Pointer
import Conform.Proofs.Value.OneLine
import Mathlib.Algebra.GroupWithZero.Nat

/-!
# Commands, line by line

A command is one line if what it is made of is. Names of properties and the message of a violation
are written as they are, and a message has a line end if and only if it shows a string that has one
(`ViolationKind.oneLine_message_iff`). So there is one line for each warning and each violation just
as long as no violation brings line ends in, and each line end in a violation makes one line more
(`commands_lines`).
-/

namespace Conform

open Text

/-! ## Messages -/

namespace ViolationKind

/-- Whether the message of a kind shows its detail. -/
def showsDetail : ViolationKind → Bool
  | .missingRequired => false
  | .unexpectedProperty => false
  | .noAlternativeMatched => false
  | _ => true

/-- A bound is written as an integer or as its plain text. -/
theorem boundText_cases (bound : Value) :
    (∃ (x : Binary64) (n : Int), bound = .float x ∧ boundText bound = toString n) ∨
      boundText bound = bound.text := by
  cases bound with
  | float x =>
    cases hint : x.toInt? with
    | none => exact .inr (by simp only [boundText, hint])
    | some n => exact .inl ⟨x, n, rfl, by simp only [boundText, hint]⟩
  | _ => exact .inr rfl

theorem oneLine_boundText_iff (bound : Value) :
    OneLine (boundText bound) ↔ ∀ s, bound = .str s → OneLine s := by
  rcases boundText_cases bound with ⟨x, n, rfl, htext⟩ | htext
  · rw [htext]
    exact iff_of_true (oneLine_intRepr n) nofun
  · rw [htext, Value.oneLine_text_iff]

/-- A literal that is no string is written as JSON or as it is displayed. -/
theorem literalText_cases (literal : Value) :
    (∃ s, literal = .str s ∧ literalText literal = "'" ++ s ++ "'") ∨
      (∀ s, literal ≠ .str s) ∧
        literalText literal = (literal.json? .canonical).getD literal.display := by
  cases literal with
  | str s => exact .inl ⟨s, rfl, rfl⟩
  | _ => exact .inr ⟨nofun, rfl⟩

theorem oneLine_literalText_iff (literal : Value) :
    OneLine (literalText literal) ↔ ∀ s, literal = .str s → OneLine s := by
  rcases literalText_cases literal with ⟨s, rfl, htext⟩ | ⟨hstr, htext⟩
  · have hquote : OneLine "'" := by decide
    rw [htext]
    simp [hquote]
  · rw [htext]
    refine iff_of_true ?_ fun s hs => absurd hs (hstr s)
    cases hjson : literal.json? .canonical with
    | none => exact Value.oneLine_display literal
    | some text => exact Value.oneLine_jsonAt rfl literal 0 hjson

/-- Between texts on one line the line ends are those of what stands there. -/
theorem oneLine_within {left text right : String} (hleft : OneLine left) (hright : OneLine right) :
    OneLine (left ++ text ++ right) ↔ OneLine text := by
  rw [oneLine_append, oneLine_append, and_iff_left hright, and_iff_right hleft]

theorem oneLine_after {left text : String} (hleft : OneLine left) :
    OneLine (left ++ text) ↔ OneLine text := by
  rw [oneLine_append, and_iff_right hleft]

/-- A message has a line end if and only if it shows a string with one. -/
theorem oneLine_message_iff (kind : ViolationKind) (detail : Value) :
    OneLine (kind.message detail) ↔
      (kind.showsDetail = true → ∀ s, detail = .str s → OneLine s) := by
  have htext := Value.oneLine_text_iff detail
  have hbound := oneLine_boundText_iff detail
  have hshown {p q : Prop} (h : p ↔ q) : p ↔ (true = true → q) := by simp [h]
  cases kind with
  | typeMismatch => exact hshown ((oneLine_after (by decide)).trans htext)
  | literalMismatch =>
    exact hshown ((oneLine_after (by decide)).trans (oneLine_literalText_iff detail))
  | belowMinimum => exact hshown ((oneLine_after (by decide)).trans hbound)
  | aboveMaximum => exact hshown ((oneLine_after (by decide)).trans hbound)
  | lengthTooShort => exact hshown ((oneLine_after (by decide)).trans htext)
  | lengthTooLong => exact hshown ((oneLine_after (by decide)).trans htext)
  | patternMismatch => exact hshown ((oneLine_within (by decide) (by decide)).trans htext)
  | formatInvalid => exact hshown ((oneLine_within (by decide) (by decide)).trans htext)
  | tooFewItems => exact hshown ((oneLine_after (by decide)).trans htext)
  | tooManyItems => exact hshown ((oneLine_after (by decide)).trans htext)
  | missingRequired =>
    refine iff_of_true ?_ nofun
    show OneLine "Expected required property"
    decide
  | unexpectedProperty =>
    refine iff_of_true ?_ nofun
    show OneLine "Unexpected property"
    decide
  | noAlternativeMatched =>
    refine iff_of_true ?_ nofun
    show OneLine "Expected union value"
    decide

end ViolationKind

/-! ## Violations -/

theorem Pointer.newline_mem_escapeToken_iff (token : List Char) :
    '\n' ∈ escapeToken token ↔ '\n' ∈ token := by
  have hescape (c : Char) : '\n' ∈ escapeChar c ↔ '\n' = c := by
    rcases escapeChar_cases c with ⟨rfl, h⟩ | ⟨rfl, h⟩ | ⟨-, -, h⟩ <;> rw [h]
    · decide
    · decide
    · exact List.mem_singleton
  simp [escapeToken, List.mem_flatMap, hescape]

/-- A pointer has a line end if and only if a name on its path has one. -/
theorem Pointer.oneLine_join_iff (path : Path) :
    OneLine (join path) ↔ ∀ s, .str s ∈ path → OneLine s := by
  have hjoin : OneLine (join path) ↔ ∀ segment ∈ path, OneLine segment.text := by
    rw [join, oneLine_ofList, joinTokens, List.mem_flatMap]
    simp [OneLine, newline_mem_escapeToken_iff]
  rw [hjoin]
  constructor
  · intro h s hs
    exact (Value.oneLine_text_iff (.str s)).1 (h _ hs) s rfl
  · intro h segment hsegment
    refine (Value.oneLine_text_iff segment).2 fun s hs => h s ?_
    rwa [← hs]

namespace Violation

/-- A name on the path or the message has a line end. -/
inductive Breaks (v : Violation) : Prop
  | name {s : String} : .str s ∈ v.path → ¬OneLine s → Breaks v
  | message : ¬OneLine v.message → Breaks v

theorem oneLine_line_iff (v : Violation) : OneLine v.line ↔ ¬v.Breaks := by
  have hcolon : OneLine ": " := by decide
  rw [line, oneLine_append, oneLine_append, pointer, Pointer.oneLine_join_iff]
  constructor
  · rintro ⟨⟨hpath, -⟩, hmessage⟩ hbreaks
    cases hbreaks with
    | name hmem hs => exact hs (hpath _ hmem)
    | message h => exact h hmessage
  · intro h
    refine ⟨⟨fun s hs => ?_, hcolon⟩, ?_⟩
    · exact Decidable.by_contra fun hline => h (.name hs hline)
    · exact Decidable.by_contra fun hline => h (.message hline)

end Violation

/-! ## Lines -/

namespace CommandLine

/-- The lines of what is printed; each has an end. -/
def outputLines (text : String) : List String :=
  (fields '\n' text.toList).dropLast.map String.ofList

/-- What is printed as one line has more of them if there are line ends in it. -/
theorem outputLines_ofLines (lines : List String) : outputLines (ofLines lines) =
    lines.flatMap fun line => (fields '\n' line.toList).map String.ofList := by
  induction lines with
  | nil => rfl
  | cons line rest ih =>
    have htext : (ofLines (line :: rest)).toList =
        line.toList ++ '\n' :: (ofLines rest).toList := by
      simp [ofLines]
    obtain ⟨first, others, hrest⟩ := @exists_fields '\n' (ofLines rest).toList
    have hne : fields '\n' (ofLines rest).toList ≠ [] := by
      rw [hrest]
      exact nofun
    rw [outputLines, htext, fields_join, List.dropLast_append_of_ne_nil hne, List.map_append,
      List.flatMap_cons, ← ih]
    rfl

theorem outputLines_eq_self {lines : List String} (h : ∀ line ∈ lines, OneLine line) :
    outputLines (ofLines lines) = lines := by
  rw [outputLines_ofLines]
  induction lines with
  | nil => rfl
  | cons line rest ih =>
    obtain ⟨hline, hrest⟩ := List.forall_mem_cons.1 h
    rw [List.flatMap_cons, ih hrest, fields_of_not_mem hline]
    simp

theorem length_outputLines (lines : List String) : (outputLines (ofLines lines)).length =
    (lines.map fun line => line.toList.count '\n' + 1).sum := by
  rw [outputLines_ofLines, List.length_flatMap]
  simp [length_fields]

theorem oneLine_of_mem_outputLines {text line : String} (h : line ∈ outputLines text) :
    OneLine line := by
  obtain ⟨field, hfield, rfl⟩ := List.mem_map.1 h
  exact oneLine_ofList.2 (not_mem_of_mem_fields (List.dropLast_subset _ hfield))

/-- Lines are printed as they are if and only if there are no line ends in them. -/
theorem outputLines_eq_self_iff {lines : List String} :
    outputLines (ofLines lines) = lines ↔ ∀ line ∈ lines, OneLine line := by
  constructor
  · intro h line hline
    rw [← h] at hline
    exact oneLine_of_mem_outputLines hline
  · exact outputLines_eq_self

/-- A file with what is found in it: violations in batches that have a source map each. -/
structure CheckedFile where
  path : String
  batches : List (List Violation × SourceMap)

namespace CheckedFile

/-- The report that the batches are added to. -/
def report (file : CheckedFile) : FileReport :=
  file.batches.foldl (fun report batch => report.addViolations batch.1 batch.2) (.ofFile file.path)

def violations (file : CheckedFile) : List Violation := file.batches.flatMap (·.1)

/-- The command for a violation, on the first line if its place is not known. -/
def command (path : String) (map : SourceMap) (v : Violation) : String :=
  "::error file=" ++ path ++ ",line=" ++
    toString ((map.locate v.pointer (some path)).line.getD 1) ++ "::" ++ v.line

def commands (file : CheckedFile) : List String :=
  file.batches.flatMap fun batch => batch.1.map (command (FilePath.normalize file.path) batch.2)

theorem report_eq (file : CheckedFile) : file.report = ⟨FilePath.normalize file.path,
    file.batches.flatMap fun batch =>
      batch.1.map (Finding.ofViolation batch.2 (FilePath.normalize file.path))⟩ := by
  have hadd : ∀ (batches : List (List Violation × SourceMap)) (report : FileReport),
      batches.foldl (fun report batch => report.addViolations batch.1 batch.2) report =
        ⟨report.file, report.errors ++ batches.flatMap fun batch =>
          batch.1.map (Finding.ofViolation batch.2 report.file)⟩ := by
    intro batches
    induction batches with
    | nil => simp
    | cons batch rest ih =>
      intro report
      rw [List.foldl_cons, ih]
      simp [FileReport.addViolations]
  exact hadd file.batches (.ofFile file.path)

theorem commands_report (file : CheckedFile) :
    file.report.errors.map (Summary.findingCommand file.report.file) = file.commands := by
  rw [report_eq, commands, List.map_flatMap]
  simp only [List.map_map]
  rfl

end CheckedFile

/-- The commands for the warnings and for the violations, in order. -/
def commandsFor (schema : String) (warnings : List String) (files : List CheckedFile) :
    List String :=
  warnings.map (fun warning => "::warning file=" ++ schema ++ "::" ++ warning) ++
    files.flatMap CheckedFile.commands

theorem commandLines_eq (schema : String) (warnings : List String) (files : List CheckedFile) :
    Summary.commandLines ⟨schema, warnings, files.map CheckedFile.report⟩ =
      commandsFor schema warnings files := by
  rw [Summary.commandLines, commandsFor, List.flatMap_map]
  simp only [CheckedFile.commands_report]

/-! ## One line each -/

theorem oneLine_normalize {path : String} (h : OneLine path) :
    OneLine (FilePath.normalize path) := by
  have hnames : ∀ name ∈ FilePath.names path, OneLine name := by
    intro name hname
    obtain ⟨field, hfield, rfl⟩ := List.mem_map.1 (List.mem_of_mem_filter hname)
    exact oneLine_ofList.2 fun hmem => h (mem_of_mem_fields hfield hmem)
  have hroot : OneLine (FilePath.root path.toList) := by
    unfold FilePath.root
    split <;> decide
  unfold FilePath.normalize
  dsimp only
  split
  · decide
  · exact oneLine_append.2 ⟨hroot, oneLine_intercalate (by decide) hnames⟩

theorem oneLine_version (version : Version) : OneLine version.text := by
  have hpoint : OneLine "." := by decide
  simp [Version.text, hpoint]

theorem oneLine_missingWarning : OneLine Version.missingWarning := by decide +kernel

theorem oneLine_newerWarning (declared : Version) :
    OneLine (Version.newerWarning declared) := by
  have hbefore : OneLine "Format version " := by decide
  have hbetween : OneLine " is newer than the supported " := by decide
  have hafter : OneLine "; some keywords may not be understood." := by decide +kernel
  have hdeclared := oneLine_append.2 ⟨hbefore, oneLine_version declared⟩
  have hsupported := oneLine_append.2 ⟨oneLine_append.2 ⟨hdeclared, hbetween⟩,
    oneLine_version Version.supported⟩
  exact oneLine_append.2 ⟨hsupported, hafter⟩

/-- What the gate has to say is said on one line. -/
theorem oneLine_warning {declared : Value} {warning : String}
    (h : Version.gate declared = .ok (some warning)) : OneLine warning := by
  rcases Version.gate_eq_ok.1 h with ⟨-, hwarning⟩ | ⟨_, version, -, -, -, hwarning⟩
  · obtain rfl := Option.some.inj hwarning
    exact oneLine_missingWarning
  · unfold Version.remark at hwarning
    split at hwarning
    · obtain rfl := Option.some.inj hwarning
      exact oneLine_newerWarning version
    · cases hwarning

section
variable {path : String} (hpath : OneLine path) (map : SourceMap) (v : Violation)
include hpath

/-- The line ends in a command are those of the violation. -/
theorem count_command :
    (CheckedFile.command path map v).toList.count '\n' = v.line.toList.count '\n' := by
  have hleft : OneLine ("::error file=" ++ path ++ ",line=" ++
      toString ((map.locate v.pointer (some path)).line.getD 1) ++ "::") := by
    have herror : OneLine "::error file=" := by decide
    have hline : OneLine ",line=" := by decide
    have hcolons : OneLine "::" := by decide
    simp [herror, hpath, hline, hcolons]
  show (_ ++ v.line).toList.count '\n' = _
  rw [String.toList_append, List.count_append, List.count_eq_zero.2 hleft, Nat.zero_add]

theorem oneLine_command_iff : OneLine (CheckedFile.command path map v) ↔ ¬v.Breaks := by
  rw [← Violation.oneLine_line_iff, OneLine, OneLine, ← List.count_eq_zero, count_command hpath,
    List.count_eq_zero]

end

namespace CheckedFile

theorem mem_commands_iff {file : CheckedFile} {line : String} : line ∈ file.commands ↔
    ∃ batch ∈ file.batches, ∃ v ∈ batch.1,
      command (FilePath.normalize file.path) batch.2 v = line := by
  simp only [commands, List.mem_flatMap, List.mem_map]

/-- The commands for a file are lines if and only if no violation in it breaks them. -/
theorem oneLine_commands_iff {file : CheckedFile} (hpath : OneLine file.path) :
    (∀ line ∈ file.commands, OneLine line) ↔ ∀ v ∈ file.violations, ¬v.Breaks := by
  have hcommand := oneLine_command_iff (oneLine_normalize hpath)
  constructor
  · intro h v hv
    obtain ⟨batch, hbatch, hv⟩ := List.mem_flatMap.1 hv
    exact (hcommand batch.2 v).1 (h _ (mem_commands_iff.2 ⟨batch, hbatch, v, hv, rfl⟩))
  · intro h line hline
    obtain ⟨batch, hbatch, v, hv, rfl⟩ := mem_commands_iff.1 hline
    exact (hcommand batch.2 v).2 (h v (List.mem_flatMap.2 ⟨batch, hbatch, hv⟩))

theorem count_commands {file : CheckedFile} (hpath : OneLine file.path) :
    (file.commands.map fun line => line.toList.count '\n' + 1) =
      file.violations.map fun v => v.line.toList.count '\n' + 1 := by
  rw [commands, violations, List.map_flatMap, List.map_flatMap]
  simp only [List.map_map, Function.comp_def, count_command (oneLine_normalize hpath)]

end CheckedFile

theorem oneLine_warningCommand {schema warning : String} {declared : Value}
    (hschema : OneLine schema) (hgate : Version.gate declared = .ok (some warning)) :
    OneLine ("::warning file=" ++ schema ++ "::" ++ warning) := by
  have hbefore : OneLine "::warning file=" := by decide
  have hcolons : OneLine "::" := by decide
  simp [hbefore, hschema, hcolons, oneLine_warning hgate]

section
variable {schema : String} {warnings : List String} {files : List CheckedFile}
  (hschema : OneLine schema) (hfiles : ∀ file ∈ files, OneLine file.path)
  (hwarnings : ∀ warning ∈ warnings, ∃ declared, Version.gate declared = .ok (some warning))
include hschema hfiles hwarnings

theorem oneLine_commandsFor_iff : (∀ line ∈ commandsFor schema warnings files, OneLine line) ↔
    ∀ file ∈ files, ∀ v ∈ file.violations, ¬v.Breaks := by
  rw [commandsFor, List.forall_mem_append]
  constructor
  · rintro ⟨-, h⟩ file hfile
    refine (CheckedFile.oneLine_commands_iff (hfiles file hfile)).1 fun line hline => h line ?_
    exact List.mem_flatMap.2 ⟨file, hfile, hline⟩
  · intro h
    refine ⟨List.forall_mem_map.2 fun warning hwarning => ?_, fun line hline => ?_⟩
    · obtain ⟨declared, hgate⟩ := hwarnings warning hwarning
      exact oneLine_warningCommand hschema hgate
    · obtain ⟨file, hfile, hline⟩ := List.mem_flatMap.1 hline
      exact (CheckedFile.oneLine_commands_iff (hfiles file hfile)).2 (h file hfile) line hline

theorem count_commandsFor :
    ((commandsFor schema warnings files).map fun line => line.toList.count '\n' + 1).sum =
      warnings.length +
        (files.map fun file =>
          (file.violations.map fun v => v.line.toList.count '\n' + 1).sum).sum := by
  have hwarningCounts : ((warnings.map fun warning =>
      "::warning file=" ++ schema ++ "::" ++ warning).map fun line =>
        line.toList.count '\n' + 1) = warnings.map fun _ => 1 := by
    rw [List.map_map]
    refine List.map_congr_left fun warning hwarning => ?_
    obtain ⟨declared, hgate⟩ := hwarnings warning hwarning
    rw [Function.comp_apply, List.count_eq_zero.2 (oneLine_warningCommand hschema hgate)]
  have hfileCounts : ((files.flatMap CheckedFile.commands).map fun line =>
      line.toList.count '\n' + 1) =
        files.flatMap fun file => file.violations.map fun v => v.line.toList.count '\n' + 1 := by
    rw [List.map_flatMap]
    exact List.flatMap_congr fun file hfile => CheckedFile.count_commands (hfiles file hfile)
  rw [commandsFor, List.map_append, List.sum_append, hwarningCounts, hfileCounts]
  simp [List.flatMap, List.sum_flatten, Function.comp_def]

end

/-- One line is printed for each warning and for each violation, in order, if and only if no
violation brings line ends in; each of these makes one line more. A violation brings one in by a
name on its path or by its message, and a message only by a string that it shows. -/
theorem commands_lines {schema : String} {warnings : List String} {files : List CheckedFile}
    (hschema : OneLine schema) (hfiles : ∀ file ∈ files, OneLine file.path)
    (hwarnings : ∀ warning ∈ warnings, ∃ declared,
      Version.gate declared = .ok (some warning)) :
    (outputLines (Summary.text ⟨schema, warnings, files.map CheckedFile.report⟩ .githubActions) =
        commandsFor schema warnings files ↔
      ∀ file ∈ files, ∀ v ∈ file.violations, ¬v.Breaks) ∧
    (outputLines (Summary.text ⟨schema, warnings, files.map CheckedFile.report⟩
        .githubActions)).length =
      warnings.length + (files.map fun file => (file.violations.map fun v =>
        v.line.toList.count '\n' + 1).sum).sum ∧
    ∀ (kind : ViolationKind) (detail : Value), OneLine (kind.message detail) ↔
      (kind.showsDetail = true → ∀ s, detail = .str s → OneLine s) := by
  have htext : Summary.text ⟨schema, warnings, files.map CheckedFile.report⟩ .githubActions =
      ofLines (commandsFor schema warnings files) :=
    congrArg ofLines (commandLines_eq schema warnings files)
  rw [htext, outputLines_eq_self_iff, oneLine_commandsFor_iff hschema hfiles hwarnings,
    length_outputLines, count_commandsFor hschema hfiles hwarnings]
  exact ⟨Iff.rfl, rfl, ViolationKind.oneLine_message_iff⟩

/-- A file with a name that has to be escaped and a bound that is shown. -/
def plainFile : CheckedFile :=
  ⟨"d.yaml", [([.of [.str "name"] .lengthTooShort (.int 2)], [("/name", ⟨some 3, some 1⟩)]),
    ([.of [.str "a/b"] .literalMismatch (.str "x")], [])]⟩

theorem commands_lines_plain :
    outputLines (Summary.text ⟨"s.yaml", [Version.missingWarning], [plainFile.report]⟩
      .githubActions) =
    ["::warning file=s.yaml::Missing 'structcheck_format' field. " ++
        "Consider adding 'structcheck_format: 0.1.0'.",
      "::error file=d.yaml,line=3::/name: Expected string length greater or equal to 2",
      "::error file=d.yaml,line=1::/a~1b: Expected 'x'"] := by
  have hwarnings : ∀ warning ∈ [Version.missingWarning], ∃ declared,
      Version.gate declared = .ok (some warning) :=
    List.forall_mem_singleton.2 ⟨.null, rfl⟩
  have hfiles : ∀ file ∈ [plainFile], OneLine file.path :=
    List.forall_mem_singleton.2 (by decide)
  have hlines : ∀ v ∈ plainFile.violations, OneLine v.line := by decide +kernel
  have hplain : ∀ file ∈ [plainFile], ∀ v ∈ file.violations, ¬v.Breaks :=
    List.forall_mem_singleton.2 fun v hv => v.oneLine_line_iff.1 (hlines v hv)
  refine ((@commands_lines "s.yaml" [Version.missingWarning] [plainFile] (by decide) hfiles
    hwarnings).1.2 hplain).trans ?_
  decide +kernel

/-- A file with one violation, at a name that has a line end and goes on like a command. -/
def brokenFile : CheckedFile :=
  ⟨"d.yaml", [([.of [.str "a\n::error file=s.yaml,line=7::b"] .unexpectedProperty .null], [])]⟩

/-- What is printed of one violation reads as two commands. -/
theorem commands_brokenFile :
    outputLines (Summary.text ⟨"s.yaml", [], [brokenFile.report]⟩ .githubActions) =
      ["::error file=d.yaml,line=1::/a", "::error file=s.yaml,line=7::b: Unexpected property"] ∧
    brokenFile.report.errors.length = 1 := by
  decide +kernel

end CommandLine

end Conform
