import Conform.CommandLine.Run
import Conform.Proofs.CommandLine.Report
import Conform.Proofs.Document.Loader

/-!
# The verdict of a run

A run that ends with an exit code has refused the schema document, or it has checked all files and
prints their summary (`Completes`, `runOptions_eq_exit`). Neither what is logged nor the layout
takes part in this. Where the schema's evaluation comes to an end on the values of the files, the
code is that of the reference semantics, and the JSON report says what the evaluation lists
(`run_verdict`). The condition is needed: a union is refused by the checker as soon as a length is
wrong, before a format on which the evaluation fails (`run_overtaxed`).
-/

namespace Conform.CommandLine

variable {settings : Settings} {disk : Disk} {options : Options}

/-! ## The schema -/

/-- The document that a path stands for when nothing has been loaded before. -/
def loadedFrom (caching : Bool) (disk : Disk) (path : String) : Except DocumentFailure Loaded :=
  (Loader.load disk caching path).outcome {}

/-- There is no document, or no validator for its schema, by an error of the library. -/
inductive SchemaRefused (caching : Bool) (disk : Disk) (path : String) : Prop
  | document {error : DocumentError} : loadedFrom caching disk path = .error (.document error) →
      SchemaRefused caching disk path
  | definition {error : SchemaError} : loadedFrom caching disk path = .error (.schema error) →
      SchemaRefused caching disk path
  | uncompiled {found : Loaded} {error : SchemaError} : loadedFrom caching disk path = .ok found →
      Validator.ofSchema found.document.schema .standard = .error (.schema error) →
      SchemaRefused caching disk path

theorem prepare_result (caching : Bool) (disk : Disk) (path : String) :
    (prepare caching disk path).2 = (do
      let found ← (loadedFrom caching disk path).mapError .ofDocument
      let validator ← (Validator.ofSchema found.document.schema .standard).mapError .ofSchema
      .ok (found.document, validator)) := by
  unfold prepare loadedFrom Loading.outcome
  cases (Loader.load disk caching path).run.run {} with
  | mk result loader =>
    cases result with
    | error failure => rfl
    | ok found =>
      simp only [Except.mapError, ok_bind]
      cases Validator.ofSchema found.document.schema .standard <;> rfl

theorem prepare_eq_ok {caching : Bool} {path : String} {document : Document}
    {validator : Validator} :
    (prepare caching disk path).2 = .ok (document, validator) ↔
      ∃ found, loadedFrom caching disk path = .ok found ∧ found.document = document ∧
        Validator.ofSchema document.schema .standard = .ok validator := by
  simp only [prepare_result, bind_eq_ok, mapError_eq_ok, Except.ok.injEq, Prod.mk.injEq]
  constructor
  · rintro ⟨found, hfound, validator, hv, rfl, rfl⟩
    exact ⟨found, hfound, rfl, hv⟩
  · rintro ⟨found, hfound, rfl, hv⟩
    exact ⟨found, hfound, validator, hv, rfl, rfl⟩

theorem prepare_eq_message {caching : Bool} {path : String} :
    (∃ text, (prepare caching disk path).2 = .error (.message text)) ↔
      SchemaRefused caching disk path := by
  constructor
  · rintro ⟨text, h⟩
    rw [prepare_result] at h
    rcases bind_eq_error.1 h with h | ⟨found, hfound, h⟩
    · obtain ⟨failure, hfailure, h⟩ := mapError_eq_error.1 h
      cases failure with
      | document error => exact .document hfailure
      | schema error => exact .definition hfailure
      | fault reason => cases h
    · rcases bind_eq_error.1 h with h | ⟨validator, -, h⟩
      · obtain ⟨failure, hfailure, h⟩ := mapError_eq_error.1 h
        cases failure with
        | schema error => exact .uncompiled (mapError_eq_ok.1 hfound) hfailure
        | fault reason => cases h
      · cases h
  · rintro (h | h | ⟨h, h'⟩)
    · exact ⟨_, by rw [prepare_result, h]; rfl⟩
    · exact ⟨_, by rw [prepare_result, h]; rfl⟩
    · exact ⟨_, by rw [prepare_result, h, Except.mapError, ok_bind, h']; rfl⟩

/-! ## Runs -/

/-- All files are checked against the schema of a document, with the reports on them. -/
structure Completes (caching : Bool) (disk : Disk) (source : String) (paths : List String)
    (found : Loaded) (validator : Validator) (reports : List FileReport) : Prop where
  document : loadedFrom caching disk source = .ok found
  compiled : Validator.ofSchema found.document.schema .standard = .ok validator
  reported : List.Forall₂ (validator.Reports disk) paths reports

theorem runOptions_ending : (runOptions settings disk options).ending =
    match (prepare settings.caching disk options.schema).2 with
    | .error (.fault fault) => .broken fault
    | .error (.message _) => .exit 2
    | .ok (document, validator) =>
      match (validator.checkFiles disk options.paths).2 with
      | .error fault => .broken fault
      | .ok reports => .exit ((Summary.mk options.schema document.warnings reports).exitCode
          options.strictExit) := by
  unfold runOptions
  cases prepare settings.caching disk options.schema with
  | mk preparation prepared =>
    cases prepared with
    | error problem => cases problem <;> rfl
    | ok made =>
      obtain ⟨document, validator⟩ := made
      simp only
      cases validator.checkFiles disk options.paths with
      | mk records checked => cases checked <;> rfl

/-- A run ends with an exit code if the schema is refused or if all files are checked. -/
theorem runOptions_eq_exit {code : Nat} :
    (runOptions settings disk options).ending = .exit code ↔
      code = 2 ∧ SchemaRefused settings.caching disk options.schema ∨
      ∃ found validator reports,
        Completes settings.caching disk options.schema options.paths found validator reports ∧
          code = (Summary.mk options.schema found.document.warnings reports).exitCode
            options.strictExit := by
  rw [runOptions_ending]
  constructor
  · intro h
    split at h
    · cases h
    · rename_i text hprepare
      exact .inl ⟨(Ending.exit.inj h).symm, prepare_eq_message.1 ⟨text, hprepare⟩⟩
    · rename_i document validator hprepare
      obtain ⟨found, hfound, rfl, hv⟩ := prepare_eq_ok.1 hprepare
      split at h
      · cases h
      · rename_i reports hreports
        exact .inr ⟨found, validator, reports,
          ⟨hfound, hv, Validator.checkFiles_eq_ok.1 hreports⟩, (Ending.exit.inj h).symm⟩
  · rintro (⟨rfl, h⟩ | ⟨found, validator, reports, h, rfl⟩)
    · obtain ⟨text, hprepare⟩ := prepare_eq_message.2 h
      rw [hprepare]
    · have hprepare := prepare_eq_ok.2 ⟨found, h.document, rfl, h.compiled⟩
      rw [hprepare]
      simp only [Validator.checkFiles_eq_ok.2 h.reported]

section
variable {found : Loaded} {validator : Validator} {reports : List FileReport}
  (h : Completes settings.caching disk options.schema options.paths found validator reports)
include h

theorem Completes.not_refused : ¬ SchemaRefused settings.caching disk options.schema := by
  rintro (hfound | hfound | ⟨hfound, hv⟩)
  · cases h.document.symm.trans hfound
  · cases h.document.symm.trans hfound
  · obtain rfl := Except.ok.inj (h.document.symm.trans hfound)
    cases h.compiled.symm.trans hv

/-- What is logged goes before the summary. -/
theorem Completes.output_eq : (runOptions settings disk options).written.output =
    ((Routing.ofSettings (effective settings options)).writeAll {}
      ((prepare settings.caching disk options.schema).1 ++
        (validator.checkFiles disk options.paths).1)).output ++
      (Summary.mk options.schema found.document.warnings reports).text options.layout := by
  have hprepare := prepare_eq_ok.2 ⟨found, h.document, rfl, h.compiled⟩
  have hreports := Validator.checkFiles_eq_ok.2 h.reported
  unfold runOptions
  cases hp : prepare settings.caching disk options.schema with
  | mk preparation prepared =>
    rw [hp] at hprepare
    obtain rfl := hprepare
    cases hc : validator.checkFiles disk options.paths with
    | mk records checked =>
      rw [hc] at hreports
      obtain rfl := hreports
      simp only [hc, Routing.writeAll, List.foldl_append, Written.add]

theorem Completes.output :
    ∃ records, (runOptions settings disk options).written.output =
      ((Routing.ofSettings (effective settings options)).writeAll {} records).output ++
        (Summary.mk options.schema found.document.warnings reports).text options.layout :=
  ⟨_, h.output_eq⟩

end

/-! ## Exit codes -/

theorem exitCode_le_one (summary : Summary) (strictExit : Bool) :
    summary.exitCode strictExit ≤ 1 := by
  unfold Summary.exitCode
  split
  · exact Nat.le_refl 1
  · split <;> decide

theorem exitCode_eq_zero_iff (summary : Summary) (strictExit : Bool) :
    summary.exitCode strictExit = 0 ↔
      summary.reports.all FileReport.ok = true ∧
        ¬ (strictExit = true ∧ summary.warnings ≠ []) := by
  unfold Summary.exitCode
  cases summary.reports.all FileReport.ok <;> cases strictExit <;> cases summary.warnings <;> simp

/-- There is a failure to report: in a file, or by the warnings of the document if they count. -/
def HasFailure (disk : Disk) (options : Options) (document : Document) : Prop :=
  (∃ path ∈ options.paths, FailsCheck document.schema disk path) ∨
    options.strictExit = true ∧ document.warnings ≠ []

instance (disk : Disk) (options : Options) (document : Document) :
    Decidable (HasFailure disk options document) :=
  inferInstanceAs (Decidable (_ ∨ _))

theorem Completes.exitCode_eq_zero_iff {found : Loaded} {validator : Validator}
    {reports : List FileReport}
    (h : Completes settings.caching disk options.schema options.paths found validator reports)
    (hevaluates : ∀ path ∈ options.paths, EvaluatesOn found.document.schema disk path) :
    (Summary.mk options.schema found.document.warnings reports).exitCode options.strictExit = 0 ↔
      ¬ HasFailure disk options found.document := by
  rw [CommandLine.exitCode_eq_zero_iff, all_ok_iff h.compiled hevaluates h.reported, HasFailure,
    not_or]

theorem run_of_parse {words : List String} (h : parse words = .ok options) :
    run settings disk words = runOptions settings disk options := by
  rw [run, h]

/-- The exit code of a run is two if the schema document is refused; otherwise it is one if a file
cannot be loaded or its value has violations, or if warnings count and the document has some; and
otherwise zero. The layout and what is logged have no part in it. The JSON report has the errors of
each file, in the order of the files. -/
theorem run_verdict {words : List String} {code : Nat} (hparse : parse words = .ok options)
    (hrun : (run settings disk words).ending = .exit code)
    (hevaluates : ∀ found, loadedFrom settings.caching disk options.schema = .ok found →
      ∀ path ∈ options.paths, EvaluatesOn found.document.schema disk path) :
    (code = 2 ↔ SchemaRefused settings.caching disk options.schema) ∧
    (¬ SchemaRefused settings.caching disk options.schema → ∃ found,
      loadedFrom settings.caching disk options.schema = .ok found ∧
      (code = 1 ↔ HasFailure disk options found.document) ∧
      (code = 0 ↔ ¬ HasFailure disk options found.document) ∧
      (options.layout = .json → ∃ records errors text,
        (run settings disk words).written.output =
          ((Routing.ofSettings (effective settings options)).writeAll {} records).output ++
            text ++ "\n" ∧
        (reportEntry options.schema found.document.warnings options.paths errors).json?
          Summary.jsonLayout = some text ∧
        List.Forall₂ (ErrorsOf found.document.schema disk) options.paths errors)) ∧
    ∀ others layout verbose, parse others = .ok { options with layout, verbose } →
      (run settings disk others).ending = .exit code := by
  rw [run_of_parse hparse] at hrun ⊢
  have hexit := runOptions_eq_exit.1 hrun
  refine ⟨?_, fun hrefused => ?_, fun others layout verbose hothers => ?_⟩
  · rcases hexit with ⟨rfl, h⟩ | ⟨found, validator, reports, h, rfl⟩
    · exact iff_of_true rfl h
    · have hle := exitCode_le_one ⟨options.schema, found.document.warnings, reports⟩
        options.strictExit
      exact iff_of_false (by omega) h.not_refused
  · obtain ⟨-, h⟩ | ⟨found, validator, reports, h, rfl⟩ := hexit
    · exact absurd h hrefused
    have hle := exitCode_le_one ⟨options.schema, found.document.warnings, reports⟩
      options.strictExit
    have hzero := h.exitCode_eq_zero_iff (hevaluates found h.document)
    refine ⟨found, h.document, ?_, hzero, fun hlayout => ?_⟩
    · rw [← not_iff_not, ← hzero]
      omega
    · obtain ⟨records, houtput⟩ := h.output
      obtain ⟨errors, herrors, htext⟩ := exists_json_summary h.compiled
        (hevaluates found h.document) h.reported options.schema found.document.warnings
      refine ⟨records, errors, _, ?_, htext, herrors⟩
      simp only [houtput, hlayout, Summary.text, ofLines, List.map_cons, List.map_nil,
        String.append_assoc]
      rfl
  · rw [run_of_parse hothers]
    exact runOptions_eq_exit.2 hexit

/-- A schema of names, a name that is too short and one that is not. -/
def namesDisk : Disk where
  working := ["data"]
  directories := []
  files :=
    [(["data", "names.yaml"],
      "structcheck_format: 0.1.0\nschema:\n  type: string\n  minLength: 3\n".toUTF8.toList),
     (["data", "short.yaml"], "Al".toUTF8.toList),
     (["data", "long.yaml"], "Alice".toUTF8.toList)]

def namesWords : List String :=
  ["--schema", "names.yaml", "--format", "json", "long.yaml", "short.yaml", "none.yaml",
    "short.yaml"]

/-- One report for each path, of which one file is missing and one stands there twice. -/
theorem run_verdict_names : ∃ options found, parse namesWords = .ok options ∧
    (run {} namesDisk namesWords).ending = .exit 1 ∧
    loadedFrom true namesDisk options.schema = .ok found ∧
    (∀ path ∈ options.paths, EvaluatesOn found.document.schema namesDisk path) ∧
    ¬ SchemaRefused true namesDisk options.schema ∧
    HasFailure namesDisk options found.document ∧
    ∃ errors text, (reportEntry options.schema found.document.warnings
        ["long.yaml", "short.yaml", "none.yaml", "short.yaml"] errors).json? Summary.jsonLayout =
          some text ∧
      List.Forall₂ (ErrorsOf found.document.schema namesDisk)
        ["long.yaml", "short.yaml", "none.yaml", "short.yaml"] errors := by
  have hrun : (run {} namesDisk namesWords).ending = .exit 1 := by decide +kernel
  have hresult : ((parse namesWords).toOption.any fun options =>
      (loadedFrom true namesDisk options.schema).toOption.any fun found =>
        decide (options.layout = .json ∧
          options.paths = ["long.yaml", "short.yaml", "none.yaml", "short.yaml"] ∧
          ∀ path ∈ options.paths, EvaluatesOn found.document.schema namesDisk path)) = true := by
    decide +kernel
  obtain ⟨options, hparse, hresult⟩ := exists_of_any_toOption hresult
  obtain ⟨found, hfound, hresult⟩ := exists_of_any_toOption hresult
  obtain ⟨hlayout, hpaths, hevaluates⟩ := of_decide_eq_true hresult
  have hall : ∀ other, loadedFrom true namesDisk options.schema = .ok other →
      ∀ path ∈ options.paths, EvaluatesOn other.document.schema namesDisk path := by
    intro other hother
    rwa [← Except.ok.inj (hfound.symm.trans hother)]
  obtain ⟨hrefused, hverdict, -⟩ := run_verdict hparse hrun hall
  have hnot : ¬ SchemaRefused true namesDisk options.schema := fun h => nomatch hrefused.2 h
  obtain ⟨other, hother, hone, -, hjson⟩ := hverdict hnot
  obtain rfl := Except.ok.inj (hfound.symm.trans hother)
  obtain ⟨-, errors, text, -, htext, herrors⟩ := hjson hlayout
  rw [hpaths] at htext herrors
  exact ⟨options, found, hparse, hrun, hfound, hevaluates, hnot, hone.1 rfl, errors, text, htext,
    herrors⟩

/-- A union whose option asks for a longer text than there is, and for a format that the text
overtaxes: the checker stops at the length, the evaluation goes on to the format. -/
def overtaxedDisk : Disk where
  working := ["data"]
  directories := []
  files :=
    [(["data", "regex.yaml"],
      ("structcheck_format: 0.1.0\nschema:\n  anyOf:\n" ++
        "  - \x7btype: string, minLength: 100, format: regex\x7d\n").toUTF8.toList),
     (["data", "long.yaml"], "a\x7b99999999999\x7d".toUTF8.toList)]

def overtaxedWords : List String := ["--schema", "regex.yaml", "long.yaml"]

theorem run_overtaxed : ∃ options found, parse overtaxedWords = .ok options ∧
    (run {} overtaxedDisk overtaxedWords).ending = .exit 1 ∧
    loadedFrom true overtaxedDisk options.schema = .ok found ∧
    ¬ HasFailure overtaxedDisk options found.document ∧
    ¬ EvaluatesOn found.document.schema overtaxedDisk "long.yaml" := by
  have hrun : (run {} overtaxedDisk overtaxedWords).ending = .exit 1 := by decide +kernel
  have hresult : ((parse overtaxedWords).toOption.any fun options =>
      (loadedFrom true overtaxedDisk options.schema).toOption.any fun found =>
        decide (¬ HasFailure overtaxedDisk options found.document ∧
          ¬ EvaluatesOn found.document.schema overtaxedDisk "long.yaml")) = true := by
    decide +kernel
  obtain ⟨options, hparse, hresult⟩ := exists_of_any_toOption hresult
  obtain ⟨found, hfound, hresult⟩ := exists_of_any_toOption hresult
  exact ⟨options, found, hparse, hrun, hfound, of_decide_eq_true hresult⟩

end Conform.CommandLine
