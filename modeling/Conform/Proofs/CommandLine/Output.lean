import Conform.Proofs.CommandLine.Verdict
import Conform.Proofs.Document.Records
import Conform.Proofs.Value.JsonReader

/-!
# Standard output of a run

A run that checks all files logs a record for each of its steps (`completeLog`). Those between the
level of logging and that of standard error are printed, a line each, and the summary comes after
them (`Completes.output_lines`). A summary in the JSON layout is one JSON document; no line of a log
begins like one. So standard output is a JSON document just as long as nothing of the log is printed
(`run_json`), which the levels decide: all records but the warning of a document are of debugging.
-/

namespace Conform

/-! ## Levels -/

theorem Settings.severity_mem (level : String) : severity level ∈ [50, 40, 30, 20, 10, 0] := by
  have hnames : ∀ entry ∈ Severity.names, entry.1 ∈ [50, 40, 30, 20, 10, 0] := by decide
  unfold severity Severity.ofName?
  cases hfind : Severity.names.find? fun entry => entry.2 = mapCodes Unicode.upperCode level with
  | none => exact (by decide : Severity.warning ∈ [50, 40, 30, 20, 10, 0])
  | some entry => exact hnames entry (List.mem_of_find?_eq_some hfind)

namespace Routing

/-- Records of a severity go to standard output. -/
def Prints (routing : Routing) (severity : Int) : Prop :=
  routing.threshold ≤ severity ∧ severity < routing.errorLevel

instance (routing : Routing) : DecidablePred routing.Prints := fun _ =>
  inferInstanceAs (Decidable (_ ∧ _))

/-- The lines of the records that go to standard output. -/
def printed (routing : Routing) (records : List Record) : List String :=
  (records.filter fun record => routing.Prints record.severity).map Record.line

theorem output_write {routing : Routing} {record : Record}
    (h : isBelowLogger record.channel = true) (written : Written) :
    (routing.write written record).output =
      written.output ++ CommandLine.ofLines (routing.printed [record]) := by
  have hroute : routing.route record =
      if record.severity < routing.threshold then none
      else if record.severity < routing.errorLevel then some (.output, record.line)
      else some (.error, record.line) := if_pos h
  rw [write, hroute]
  by_cases hlogged : record.severity < routing.threshold
  · have hprints : ¬ routing.Prints record.severity := fun hprints => by
      have := hprints.1
      omega
    simp [hlogged, printed, hprints, CommandLine.ofLines]
  · by_cases hbelow : record.severity < routing.errorLevel
    · have hprints : routing.Prints record.severity := ⟨Int.not_lt.1 hlogged, hbelow⟩
      simp [hlogged, hbelow, printed, hprints, CommandLine.ofLines, Written.add]
    · have hprints : ¬ routing.Prints record.severity := fun hprints => hbelow hprints.2
      simp [hlogged, hbelow, printed, hprints, CommandLine.ofLines, Written.add]

theorem output_writeAll {routing : Routing} {records : List Record}
    (h : ∀ record ∈ records, isBelowLogger record.channel = true) (written : Written) :
    (routing.writeAll written records).output =
      written.output ++ CommandLine.ofLines (routing.printed records) := by
  induction records generalizing written with
  | nil => simp [writeAll, printed, CommandLine.ofLines]
  | cons record records ih =>
    obtain ⟨hrecord, hrecords⟩ := List.forall_mem_cons.1 h
    have hsplit : CommandLine.ofLines (routing.printed (record :: records)) =
        CommandLine.ofLines (routing.printed [record]) ++
          CommandLine.ofLines (routing.printed records) := by
      by_cases hprints : routing.Prints record.severity <;>
        simp [printed, hprints, CommandLine.ofLines]
    show (routing.writeAll (routing.write written record) records).output = _
    rw [ih hrecords, output_write hrecord, hsplit, String.append_assoc]

end Routing

namespace CommandLine

variable {settings : Settings} {disk : Disk} {options : Options}

theorem printLevel_effective (settings : Settings) (options : Options) :
    (effective settings options).printLevel = settings.printLevel := by
  unfold effective
  split <;> rfl

/-- The level of logging of a run: that of debugging if it is verbose. -/
theorem severity_effective (settings : Settings) (options : Options) :
    Settings.severity (effective settings options).logLevel =
      if options.verbose then Severity.debug else Settings.severity settings.logLevel := by
  have hdebug : Settings.severity "DEBUG" = Severity.debug := by decide +kernel
  unfold effective
  split
  · exact hdebug
  · rfl

/-- Debugging is printed if it is logged and standard error begins above it. -/
theorem prints_debug_iff :
    (Routing.ofSettings (effective settings options)).Prints Severity.debug ↔
      (options.verbose = true ∨ Settings.severity settings.logLevel = Severity.debug) ∧
        Severity.debug < Settings.severity settings.printLevel := by
  have hlevel := Settings.severity_mem settings.logLevel
  simp only [Routing.Prints, Routing.threshold, Routing.ofSettings, severity_effective,
    printLevel_effective, Severity.debug, Severity.warning]
  simp only [List.mem_cons, List.not_mem_nil, or_false] at hlevel
  cases options.verbose <;> grind

/-- Warnings are logged at a level of zero, too. -/
theorem prints_warning_iff :
    (Routing.ofSettings (effective settings options)).Prints Severity.warning ↔
      (options.verbose = true ∨ Settings.severity settings.logLevel ≤ Severity.warning) ∧
        Severity.warning < Settings.severity settings.printLevel := by
  simp only [Routing.Prints, Routing.threshold, Routing.ofSettings, severity_effective,
    printLevel_effective, Severity.debug, Severity.warning]
  cases options.verbose <;> grind

/-! ## Records -/

theorem records_load_file (disk : Disk) (path : String) :
    ∀ record ∈ (DataFile.load disk path).1,
      record = DataFile.loadingRecord (FilePath.normalize path) := by
  cases hfind : disk.find? (FilePath.normalize path) with
  | none => simp [DataFile.load, hfind]
  | some found => simp [DataFile.load, hfind]

/-- What is logged of the check of a file: that it is read, if it is there, and what came of it. -/
def fileLog (disk : Disk) (path : String) (report : FileReport) : List Record :=
  (DataFile.load disk path).1 ++ [report.record]

theorem checkFile_eq {validator : Validator} {path : String} {report : FileReport}
    (h : validator.Reports disk path report) :
    validator.checkFile disk path = (fileLog disk path report, .ok report) := by
  have hreport : validator.report path (DataFile.load disk path).2 = .ok report := by
    rw [← Validator.checkFile_result]
    exact Validator.checkFile_eq_ok.2 h
  simp only [Validator.checkFile, hreport, fileLog]

theorem records_checkFiles {validator : Validator} {paths : List String}
    {reports : List FileReport} (h : List.Forall₂ (validator.Reports disk) paths reports) :
    (validator.checkFiles disk paths).1 =
      (List.zipWith (fileLog disk) paths reports).flatten := by
  induction h with
  | nil => rfl
  | cons hreport _ ih =>
    simp only [Validator.checkFiles, checkFile_eq hreport, ih, List.zipWith_cons_cons,
      List.flatten_cons]

/-- What is logged of a run that checks all files: that the schema document is read, its warnings,
that its grammar is loaded and its schema compiled, and the check of each file. -/
def completeLog (disk : Disk) (options : Options) (document : Document) (resolved : String)
    (validator : Validator) (reports : List FileReport) : List Record :=
  let source := FilePath.normalize options.schema
  Document.loadingRecord source ::
    (document.warnings.map (Document.warningRecord · source) ++
      Document.grammarRecord resolved :: validator.record ::
        (List.zipWith (fileLog disk) options.paths reports).flatten)

theorem mem_completeLog {document : Document} {resolved : String} {validator : Validator}
    {reports : List FileReport} {record : Record}
    (h : record ∈ completeLog disk options document resolved validator reports) :
    Routing.isBelowLogger record.channel = true ∧
      (record.severity = Severity.debug ∨
        record.severity = Severity.warning ∧ document.warnings ≠ []) := by
  simp only [completeLog, List.mem_cons, List.mem_append, List.mem_map, List.mem_flatten] at h
  have hloader : Routing.isBelowLogger Document.channel = true := by decide
  rcases h with rfl | ⟨warning, hwarning, rfl⟩ | rfl | rfl | ⟨records, hrecords, hmem⟩
  · exact ⟨hloader, .inl rfl⟩
  · exact ⟨hloader, .inr ⟨rfl, List.ne_nil_of_mem hwarning⟩⟩
  · exact ⟨hloader, .inl rfl⟩
  · exact ⟨(by decide : Routing.isBelowLogger "structcheck.compiler" = true), .inl rfl⟩
  · obtain ⟨path, report, rfl⟩ : ∃ path report, records = fileLog disk path report := by
      obtain ⟨i, hi, rfl⟩ := List.mem_iff_getElem.1 hrecords
      exact ⟨_, _, List.getElem_zipWith⟩
    rcases List.mem_append.1 hmem with hmem | hmem
    · rw [records_load_file disk path record hmem]
      exact ⟨(by decide : Routing.isBelowLogger "structcheck.file_io.data_loader" = true),
        .inl rfl⟩
    · rw [List.mem_singleton.1 hmem]
      exact ⟨(by decide : Routing.isBelowLogger "structcheck.cli.run_check" = true), .inl rfl⟩

/-- Nothing of a log is printed if neither debugging is nor, where the document has some, warnings
are. -/
theorem printed_completeLog_eq_nil {routing : Routing} {document : Document} {resolved : String}
    {validator : Validator} {reports : List FileReport} :
    routing.printed (completeLog disk options document resolved validator reports) = [] ↔
      ¬ routing.Prints Severity.debug ∧
        (document.warnings ≠ [] → ¬ routing.Prints Severity.warning) := by
  rw [Routing.printed, List.map_eq_nil_iff, List.filter_eq_nil_iff]
  simp only [decide_eq_true_eq]
  constructor
  · intro h
    refine ⟨h _ List.mem_cons_self, fun hwarnings => ?_⟩
    obtain ⟨warning, hwarning⟩ := List.exists_mem_of_ne_nil _ hwarnings
    exact h (Document.warningRecord warning (FilePath.normalize options.schema))
      (List.mem_cons_of_mem _ (List.mem_append_left _ (List.mem_map_of_mem hwarning)))
  · rintro ⟨hdebug, hwarnings⟩ record hrecord
    rcases (mem_completeLog hrecord).2 with hseverity | ⟨hseverity, hne⟩
    · rwa [hseverity]
    · rw [hseverity]
      exact hwarnings hne

/-! ## Output -/

theorem channel_head {channel : String} (h : Routing.isBelowLogger channel = true) :
    ∃ tail, channel.toList = 's' :: tail := by
  unfold Routing.isBelowLogger at h
  rcases Bool.or_eq_true _ _ ▸ h with h | h
  · rw [of_decide_eq_true h]
    exact ⟨_, rfl⟩
  · obtain ⟨tail, htail⟩ := List.isPrefixOf_iff_prefix.1 h
    exact ⟨_, htail.symm⟩

/-- No text with lines of a log before it is a document. -/
theorem ofJson?_printed {routing : Routing} {records : List Record}
    (h : ∀ record ∈ records, Routing.isBelowLogger record.channel = true)
    (hprinted : routing.printed records ≠ []) (text : String) :
    Value.ofJson? (ofLines (routing.printed records) ++ text) = none := by
  obtain ⟨line, lines, hlines⟩ := List.exists_cons_of_ne_nil hprinted
  have hmem : line ∈ routing.printed records := hlines ▸ List.mem_cons_self
  obtain ⟨record, hrecord, rfl⟩ := List.mem_map.1 hmem
  obtain ⟨tail, htail⟩ := channel_head (h record (List.mem_of_mem_filter hrecord))
  have htext : (ofLines (routing.printed records) ++ text).toList = 's' :: (tail ++
      (" - " ++ Severity.name record.severity ++ " - " ++ record.message ++ "\n" ++
        ofLines lines ++ text).toList) := by
    rw [hlines]
    simp [ofLines, Record.line, htail]
  exact Value.ofJson?_eq_none htext (by decide) (by decide) (by decide)

theorem Summary.text_json (summary : Summary) : summary.text .json = summary.json ++ "\n" := by
  simp [Summary.text, ofLines]

section
variable {found : Loaded} {validator : Validator} {reports : List FileReport}
  (h : Completes settings.caching disk options.schema options.paths found validator reports)
include h

theorem Completes.records : ∃ resolved, found.document.HasGrammar resolved ∧
    (prepare settings.caching disk options.schema).1 ++
      (validator.checkFiles disk options.paths).1 =
        completeLog disk options found.document resolved validator reports := by
  have hload := h.document
  unfold loadedFrom Loading.outcome at hload
  unfold prepare
  cases hrun : (Loader.load disk settings.caching options.schema).run.run {} with
  | mk result loader =>
    rw [hrun] at hload
    obtain rfl : result = .ok found := hload
    obtain ⟨resolved, hgrammar, hrecords⟩ := Loader.records_load hrun
    refine ⟨resolved, hgrammar, ?_⟩
    simp only [h.compiled, hrecords, records_checkFiles h.reported, completeLog]
    simp

/-- The lines of what is logged to standard output go before the summary. -/
theorem Completes.output_lines : ∃ resolved, found.document.HasGrammar resolved ∧
    (runOptions settings disk options).written.output =
      ofLines ((Routing.ofSettings (effective settings options)).printed
        (completeLog disk options found.document resolved validator reports)) ++
        (Summary.mk options.schema found.document.warnings reports).text options.layout := by
  obtain ⟨resolved, hgrammar, hrecords⟩ := h.records
  refine ⟨resolved, hgrammar, ?_⟩
  rw [h.output_eq, hrecords, Routing.output_writeAll fun record hrecord =>
    (mem_completeLog hrecord).1]
  rw [String.empty_append]

/-- The report is the JSON document of the output, and it is the output as long as nothing is
logged there. -/
theorem Completes.output_json (hlayout : options.layout = .json) :
    ∃ resolved lines text, found.document.HasGrammar resolved ∧
      lines = (Routing.ofSettings (effective settings options)).printed
        (completeLog disk options found.document resolved validator reports) ∧
      (runOptions settings disk options).written.output = ofLines lines ++ (text ++ "\n") ∧
      Value.ofJson? (text ++ "\n") =
        some (Summary.mk options.schema found.document.warnings reports).toValue ∧
      Value.ofJson? (runOptions settings disk options).written.output =
        if lines = [] then
          some (Summary.mk options.schema found.document.warnings reports).toValue
        else none := by
  obtain ⟨resolved, hgrammar, houtput⟩ := h.output_lines
  rw [hlayout, Summary.text_json] at houtput
  have hdocument : Value.ofJson?
      ((Summary.mk options.schema found.document.warnings reports).json ++ "\n") =
        some (Summary.mk options.schema found.document.warnings reports).toValue :=
    Value.ofJson?_of_json? rfl (Summary.isExact_toValue _) (Summary.json?_toValue _)
  refine ⟨resolved, _, _, hgrammar, rfl, houtput, hdocument, ?_⟩
  rw [houtput]
  split
  · rename_i hlines
    rw [hlines]
    show Value.ofJson? ("" ++ _) = _
    rw [String.empty_append, hdocument]
  · rename_i hlines
    exact ofJson?_printed (fun record hrecord => (mem_completeLog hrecord).1) hlines _

end

/-- A run in the JSON layout that checks all files prints the lines of its log that are between the
level of logging and that of standard error, then the report as one JSON document, and nothing else.
Its output is a JSON document, which is the report, if and only if no line is printed: if debugging
is not, and neither is the warning of the document if it has one. -/
theorem run_json {words : List String} {code : Nat} (hparse : parse words = .ok options)
    (hlayout : options.layout = .json) (hrun : (run settings disk words).ending = .exit code)
    (hcode : code = 0 ∨ code = 1) :
    ∃ found validator reports resolved lines text,
      Completes settings.caching disk options.schema options.paths found validator reports ∧
      found.document.HasGrammar resolved ∧
      lines = (Routing.ofSettings (effective settings options)).printed
        (completeLog disk options found.document resolved validator reports) ∧
      (run settings disk words).written.output = ofLines lines ++ (text ++ "\n") ∧
      Value.ofJson? (text ++ "\n") =
        some (Summary.mk options.schema found.document.warnings reports).toValue ∧
      (Value.ofJson? (run settings disk words).written.output =
        if lines = [] then
          some (Summary.mk options.schema found.document.warnings reports).toValue
        else none) ∧
      (lines = [] ↔
        ¬ ((options.verbose = true ∨ Settings.severity settings.logLevel = Severity.debug) ∧
          Severity.debug < Settings.severity settings.printLevel) ∧
        (found.document.warnings ≠ [] →
          ¬ ((options.verbose = true ∨ Settings.severity settings.logLevel ≤ Severity.warning) ∧
            Severity.warning < Settings.severity settings.printLevel))) := by
  rw [run_of_parse hparse] at hrun ⊢
  obtain ⟨hrefused, -⟩ | ⟨found, validator, reports, h, -⟩ := runOptions_eq_exit.1 hrun
  · omega
  obtain ⟨resolved, lines, text, hgrammar, hlines, houtput, hdocument, hwhole⟩ :=
    h.output_json hlayout
  refine ⟨found, validator, reports, resolved, lines, text, h, hgrammar, hlines, houtput, hdocument,
    hwhole, ?_⟩
  rw [hlines, printed_completeLog_eq_nil, prints_debug_iff, prints_warning_iff]

/-- With the usual settings the output is the report. -/
theorem run_json_names : ∃ options found validator reports,
    parse namesWords = .ok options ∧ options.layout = .json ∧
    (run {} namesDisk namesWords).ending = .exit 1 ∧
    Completes true namesDisk options.schema options.paths found validator reports ∧
    Value.ofJson? (run {} namesDisk namesWords).written.output =
      some (Summary.mk options.schema found.document.warnings reports).toValue := by
  have hparse : parse namesWords = .ok ⟨"names.yaml",
      ["long.yaml", "short.yaml", "none.yaml", "short.yaml"], .json, false, false⟩ := rfl
  have hrun : (run {} namesDisk namesWords).ending = .exit 1 := by decide +kernel
  have hlevel : Settings.severity "WARNING" = Severity.warning := by decide +kernel
  obtain ⟨found, validator, reports, resolved, lines, text, hcompletes, -, -, -, -, hdocument,
    hlines⟩ := run_json hparse rfl hrun (.inr rfl)
  have hnone : lines = [] := by
    rw [hlines, hlevel]
    exact ⟨by decide, fun _ => by decide⟩
  rw [if_pos hnone] at hdocument
  exact ⟨_, found, validator, reports, hparse, rfl, hrun, hcompletes, hdocument⟩

def verboseWords : List String :=
  ["--schema", "names.yaml", "--format", "json", "-v", "long.yaml"]

/-- A verbose run prints what it logs before the report. -/
theorem run_verbose : ∃ options, parse verboseWords = .ok options ∧ options.layout = .json ∧
    (run {} namesDisk verboseWords).ending = .exit 0 ∧
    Value.ofJson? (run {} namesDisk verboseWords).written.output = none := by
  have hparse : parse verboseWords =
      .ok ⟨"names.yaml", ["long.yaml"], .json, false, true⟩ := rfl
  have hrun : (run {} namesDisk verboseWords).ending = .exit 0 := by decide +kernel
  have hlevel : Settings.severity "WARNING" = Severity.warning := by decide +kernel
  rw [run_of_parse hparse] at hrun ⊢
  have hexit := runOptions_eq_exit.1 hrun
  obtain ⟨hcode, -⟩ | ⟨found, validator, reports, h, -⟩ := hexit
  · cases hcode
  obtain ⟨resolved, lines, text, -, hlines, -, -, hdocument⟩ := h.output_json rfl
  have hprinted : lines ≠ [] := by
    rw [hlines, ne_eq, printed_completeLog_eq_nil, prints_debug_iff, hlevel]
    exact fun hnone => hnone.1 ⟨.inl rfl, by decide⟩
  rw [if_neg hprinted] at hdocument
  exact ⟨_, rfl, rfl, hrun, hdocument⟩

end CommandLine

end Conform
