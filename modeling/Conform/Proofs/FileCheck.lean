import Conform.FileCheck
import Conform.Proofs.Checker.Returns
import Conform.Proofs.Yaml.Load
import Mathlib.Data.List.Forall2

/-!
# Checking several files

`Validator.Reports` says what the report on a file is, whatever the other files are: the violations
of the file's value, or that it has none. The reports on several files are those on each of them, in
their order (`Validator.checkFiles_eq_ok`). A check ends without reports if it comes to a file that
has none (`Validator.checkFiles_eq_error`). Without formats this is a file whose name cannot be
looked up, whose text has a part of which nothing can be made, or whose value has a key that no
pointer can name (`Validator.Unreported`, `Validator.checkFiles_report`).
-/

namespace Conform

namespace DataFile

/-! ## Files that load -/

theorem load_eq_ok {disk : Disk} {path : String} {loaded : Value × SourceMap} :
    (load disk path).2 = .ok loaded ↔ ∃ place contents,
      disk.find? (FilePath.normalize path) = some (place, contents) ∧
        parse contents = .ok loaded := by
  cases hfind : disk.find? (FilePath.normalize path) with
  | none => simp [load, hfind]
  | some found =>
    obtain ⟨place, contents⟩ := found
    cases hparse : parse contents with
    | ok value => simp [load, hfind, hparse]
    | error failure => cases failure <;> simp [load, hfind, hparse]

theorem parse_eq_ok {contents : List UInt8} {value : Value} {map : SourceMap} :
    parse contents = .ok (value, map) ↔ ∃ chars, decodeFile contents = .ok chars ∧
      loadText chars = .ok value ∧ Yaml.sourceMap chars = .ok map := by
  simp only [parse, bind_eq_ok, mapError_eq_ok, Except.ok.injEq, Prod.mk.injEq]
  constructor
  · rintro ⟨chars, hchars, value, hvalue, map, hmap, rfl, rfl⟩
    exact ⟨chars, hchars, hvalue, hmap⟩
  · rintro ⟨chars, hchars, hvalue, hmap⟩
    exact ⟨chars, hchars, value, hvalue, map, hmap, rfl, rfl⟩

/-! ## Files that fail to load -/

theorem loadText_eq_ok {chars : List Char} {value : Value} :
    loadText chars = .ok value ↔ Yaml.load chars = .ok value := by
  cases hload : Yaml.load chars with
  | ok found => simp [loadText, hload]
  | error failure => cases failure <;> simp [loadText, hload]

theorem loadText_eq_fault {chars : List Char} {fault : Fault} :
    loadText chars = .error (.fault fault) ↔ Yaml.load chars = .error (.fault fault) := by
  cases hload : Yaml.load chars with
  | ok value => simp [loadText, hload]
  | error failure => cases failure <;> simp [loadText, hload]

/-- The positions of a text are there if its value is. -/
theorem sourceMap_of_loadText {chars : List Char} {value : Value}
    (h : loadText chars = .ok value) : ∃ map, Yaml.sourceMap chars = .ok map := by
  obtain ⟨root, hroot, -⟩ := Yaml.load_eq_ok.1 (loadText_eq_ok.1 h)
  cases root with
  | none => exact ⟨[], by rw [Yaml.sourceMap, hroot]⟩
  | some root => exact ⟨root.sourceMap, by rw [Yaml.sourceMap, hroot]⟩

theorem parse_eq_fault {contents : List UInt8} {fault : Fault} :
    parse contents = .error (.fault fault) ↔ ∃ chars, decodeFile contents = .ok chars ∧
      Yaml.load chars = .error (.fault fault) := by
  simp only [← loadText_eq_fault]
  constructor
  · intro h
    rcases bind_eq_error.1 h with h | ⟨chars, hchars, h⟩
    · unfold decodeFile at h
      split at h <;> cases h
    refine ⟨chars, hchars, ?_⟩
    rcases bind_eq_error.1 h with h | ⟨value, hvalue, h⟩
    · exact h
    · obtain ⟨map, hmap⟩ := sourceMap_of_loadText hvalue
      rw [hmap] at h
      cases h
  · rintro ⟨chars, hchars, hload⟩
    rw [parse, hchars, ok_bind, hload, error_bind]

theorem load_eq_fault {disk : Disk} {path : String} {fault : Fault} :
    (load disk path).2 = .error (.fault fault) ↔
      (disk.find? (FilePath.normalize path) = none ∧
        disk.isOverlong (FilePath.normalize path) = true ∧ .nameTooLong = fault) ∨
      ∃ place contents chars, disk.find? (FilePath.normalize path) = some (place, contents) ∧
        decodeFile contents = .ok chars ∧ Yaml.load chars = .error (.fault fault) := by
  cases hfind : disk.find? (FilePath.normalize path) with
  | none => cases hlong : disk.isOverlong (FilePath.normalize path) <;> simp [load, hfind, hlong]
  | some found =>
    obtain ⟨place, contents⟩ := found
    have hparse := @parse_eq_fault contents fault
    cases hresult : parse contents with
    | ok value => simp_all [load]
    | error failure => cases failure <;> simp_all [load]

end DataFile

namespace Validator

variable {validator : Validator} {disk : Disk}

/-! ## One file -/

/-- What is reported on a file. That it could not be loaded is the only error then, of no kind and
at no location. -/
inductive Reports (validator : Validator) (disk : Disk) (path : String) : FileReport → Prop
  | unloadable {error : DataError} : (DataFile.load disk path).2 = .error (.data error) →
      Reports validator disk path
        ⟨FilePath.normalize path, [⟨error.message, none, none, none, none⟩]⟩
  | checked {value : Value} {map : SourceMap} {violations : List Violation} :
      (DataFile.load disk path).2 = .ok (value, map) → validator.errors value = .ok violations →
      violations.all Violation.hasText = true →
      Reports validator disk path ⟨FilePath.normalize path,
        violations.map (Finding.ofViolation map (FilePath.normalize path))⟩

theorem checkFile_result (path : String) :
    (validator.checkFile disk path).2 = validator.report path (DataFile.load disk path).2 := by
  simp only [checkFile]
  split <;> simp [*]

theorem checkFile_eq_ok {path : String} {report : FileReport} :
    (validator.checkFile disk path).2 = .ok report ↔ validator.Reports disk path report := by
  rw [checkFile_result]
  constructor
  · intro h
    cases hload : (DataFile.load disk path).2 with
    | error failure =>
      rw [hload] at h
      cases failure with
      | data error =>
        obtain rfl := Except.ok.inj h
        exact .unloadable hload
      | fault fault => cases h
    | ok loaded =>
      obtain ⟨value, map⟩ := loaded
      rw [hload] at h
      obtain ⟨violations, hviolations, h⟩ := bind_eq_ok.1 h
      split at h
      · rename_i htext
        obtain rfl := Except.ok.inj h
        exact .checked hload hviolations htext
      · cases h
  · intro h
    cases h with
    | unloadable hload =>
      rw [hload]
      rfl
    | checked hload hviolations htext =>
      simp only [hload, report, hviolations, ok_bind, htext, if_true]
      rfl

/-- Why a file has no report although its value can be checked: its name cannot be looked up, no
value can be made of its text, or a pointer cannot be written. -/
inductive Unreported (validator : Validator) (disk : Disk) (path : String) : Fault → Prop
  | overlong : disk.find? (FilePath.normalize path) = none →
      disk.isOverlong (FilePath.normalize path) = true →
      Unreported validator disk path .nameTooLong
  | text {place contents chars} {fault : Fault} :
      disk.find? (FilePath.normalize path) = some (place, contents) →
      decodeFile contents = .ok chars → Yaml.load chars = .error (.fault fault) →
      Yaml.Unmade chars fault → Unreported validator disk path fault
  | pointer {value : Value} {map : SourceMap} {violations : List Violation} :
      (DataFile.load disk path).2 = .ok (value, map) → validator.errors value = .ok violations →
      violations.all Violation.hasText = false → Unreported validator disk path .badValue

theorem unreported_of_load {path : String} {fault : Fault}
    (h : (DataFile.load disk path).2 = .error (.fault fault)) :
    validator.Unreported disk path fault := by
  rcases DataFile.load_eq_fault.1 h with ⟨hfind, hlong, rfl⟩ | ⟨place, contents, chars, hfind,
    hchars, hload⟩
  · exact .overlong hfind hlong
  · exact .text hfind hchars hload (Yaml.unmade_of_load hload)

theorem load_of_unreported {path : String} {fault : Fault}
    (h : validator.Unreported disk path fault) :
    (DataFile.load disk path).2 = .error (.fault fault) ∨ ∃ value map violations,
      (DataFile.load disk path).2 = .ok (value, map) ∧ validator.errors value = .ok violations ∧
        violations.all Violation.hasText = false ∧ .badValue = fault := by
  cases h with
  | overlong hfind hlong => exact .inl (DataFile.load_eq_fault.2 (.inl ⟨hfind, hlong, rfl⟩))
  | text hfind hchars hload _ =>
    exact .inl (DataFile.load_eq_fault.2 (.inr ⟨_, _, _, hfind, hchars, hload⟩))
  | pointer hload hviolations htext => exact .inr ⟨_, _, _, hload, hviolations, htext, rfl⟩

/-- A file has a report or none, the latter for one of the reasons of `Unreported`. -/
theorem checkFile_eq_error {path : String} {fault : Fault}
    (herrors : ∀ value map, (DataFile.load disk path).2 = .ok (value, map) →
      ∃ violations, validator.errors value = .ok violations) :
    (validator.checkFile disk path).2 = .error fault ↔ validator.Unreported disk path fault := by
  rw [checkFile_result]
  constructor
  · intro h
    cases hload : (DataFile.load disk path).2 with
    | error failure =>
      rw [hload] at h
      cases failure with
      | data error => cases h
      | fault found =>
        cases h
        exact unreported_of_load hload
    | ok loaded =>
      obtain ⟨value, map⟩ := loaded
      obtain ⟨violations, hviolations⟩ := herrors value map hload
      simp only [hload, report, hviolations, ok_bind] at h
      split at h
      · cases h
      · rename_i htext
        cases h
        exact .pointer hload hviolations (Bool.eq_false_iff.2 htext)
  · intro h
    rcases load_of_unreported h with hload | ⟨_, _, _, hload, hviolations, htext, rfl⟩
    · rw [hload, report]
    · simp only [hload, report, hviolations, ok_bind, htext, Bool.false_eq_true, if_false]

/-! ## Several files -/

theorem checkFiles_cons (path : String) (paths : List String) :
    (validator.checkFiles disk (path :: paths)).2 = (do
      let report ← (validator.checkFile disk path).2
      let others ← (validator.checkFiles disk paths).2
      .ok (report :: others)) := by
  rw [checkFiles]
  cases validator.checkFile disk path with
  | mk records result =>
    cases result with
    | error fault => rfl
    | ok report =>
      cases validator.checkFiles disk paths with
      | mk others results => cases results <;> rfl

/-- There is one report for each path, in the order of the paths, and none depends on the others. -/
theorem checkFiles_eq_ok : ∀ {paths : List String} {reports : List FileReport},
    (validator.checkFiles disk paths).2 = .ok reports ↔
      List.Forall₂ (validator.Reports disk) paths reports
  | [], reports => by
    rw [List.forall₂_nil_left_iff]
    constructor
    · exact fun h => (Except.ok.inj h).symm
    · rintro rfl
      rfl
  | path :: paths, reports => by
    rw [checkFiles_cons, List.forall₂_cons_left_iff]
    simp only [bind_eq_ok, checkFile_eq_ok, checkFiles_eq_ok, Except.ok.injEq]
    constructor
    · rintro ⟨report, hreport, others, hothers, rfl⟩
      exact ⟨report, others, hreport, hothers, rfl⟩
    · rintro ⟨report, others, hreport, hothers, rfl⟩
      exact ⟨report, hreport, others, hothers, rfl⟩

theorem exists_checkFiles_iff : ∀ {paths : List String},
    (∃ reports, (validator.checkFiles disk paths).2 = .ok reports) ↔
      ∀ path ∈ paths, ∃ report, validator.Reports disk path report
  | [] => iff_of_true ⟨[], rfl⟩ (List.forall_mem_nil _)
  | path :: paths => by
    rw [checkFiles_cons, List.forall_mem_cons, ← exists_checkFiles_iff]
    simp only [exists_bind_eq_ok, checkFile_eq_ok, Except.ok.injEq, exists_eq', and_true]
    exact exists_and_right

/-- The first element with a property, after others that have another one, is the head or the first
of the tail. -/
theorem first_cons_iff {α : Type} {p q : α → Prop} {x : α} {xs : List α} :
    (∃ before y after, x :: xs = before ++ y :: after ∧ (∀ z ∈ before, q z) ∧ p y) ↔
      p x ∨ q x ∧ ∃ before y after, xs = before ++ y :: after ∧ (∀ z ∈ before, q z) ∧ p y := by
  constructor
  · rintro ⟨before, y, after, h, hbefore, hy⟩
    cases before with
    | nil =>
      cases h
      exact .inl hy
    | cons z before =>
      cases h
      obtain ⟨hx, hrest⟩ := List.forall_mem_cons.1 hbefore
      exact .inr ⟨hx, before, y, after, rfl, hrest, hy⟩
  · rintro (hx | ⟨hx, before, y, after, rfl, hbefore, hy⟩)
    · exact ⟨[], x, xs, rfl, List.forall_mem_nil _, hx⟩
    · exact ⟨x :: before, y, after, rfl, List.forall_mem_cons.2 ⟨hx, hbefore⟩, hy⟩

/-- The check ends with the fault of the first file that has one. -/
theorem checkFiles_eq_error {fault : Fault} : ∀ {paths : List String},
    (validator.checkFiles disk paths).2 = .error fault ↔ ∃ before path after,
      paths = before ++ path :: after ∧ (∀ p ∈ before, ∃ report, validator.Reports disk p report) ∧
        (validator.checkFile disk path).2 = .error fault
  | [] => by
    refine iff_of_false (fun h => by cases h) ?_
    rintro ⟨before, path, after, h, -⟩
    exact List.append_ne_nil_of_right_ne_nil before (List.cons_ne_nil path after) h.symm
  | path :: paths => by
    have hothers (report : FileReport) : (do
        let others ← (validator.checkFiles disk paths).2
        .ok (report :: others)) = .error fault ↔
          (validator.checkFiles disk paths).2 = .error fault := by simp [bind_eq_error]
    rw [checkFiles_cons, first_cons_iff, ← checkFiles_eq_error, bind_eq_error]
    simp only [hothers, checkFile_eq_ok, exists_and_right]

/-! ## Without formats -/

section
variable (hformats : ∀ name format, .format name format ∉ validator.checker.refinements)
include hformats

/-- The violations of a value are found if its patterns answer. -/
theorem exists_errors {value : Value}
    (hpatterns : ∀ text program, .pattern text program ∈ validator.checker.refinements →
      ∀ s, (Value.str s).PartOf value → ∃ b, program.search s = .ok b) :
    ∃ violations, validator.errors value = .ok violations := by
  cases herrors : validator.errors value with
  | ok violations => exact ⟨violations, rfl⟩
  | error fault =>
    have hundecided := (validator.checker.agree value []).cause_of_report fault herrors
    have hregistered : FormatsFrom .standard validator.checker.refinements :=
      fun name format hmem => absurd hmem (hformats name format)
    obtain ⟨s, hs, hovertaxed⟩ := Checker.overtaxes_of_undecided hregistered hundecided
    cases hovertaxed with
    | search hmem hfault =>
      obtain ⟨b, hb⟩ := hpatterns _ _ hmem s hs
      cases hb.symm.trans hfault
    | regex hmem _ => exact absurd hmem (hformats _ _)

/-- A validator without formats, whose patterns answer on the strings in the files, checks files of
any contents. It reports on each of them, in order, unless there is one that has no report; then the
check ends with the fault of the first such file. -/
theorem checkFiles_report (disk : Disk) (paths : List String)
    (hpatterns : ∀ path ∈ paths, ∀ value map, (DataFile.load disk path).2 = .ok (value, map) →
      ∀ text program, .pattern text program ∈ validator.checker.refinements →
        ∀ s, (Value.str s).PartOf value → ∃ b, program.search s = .ok b) :
    ((∃ reports, (validator.checkFiles disk paths).2 = .ok reports) ↔
      ∀ path ∈ paths, ∀ fault, ¬ validator.Unreported disk path fault) ∧
    (∀ reports, (validator.checkFiles disk paths).2 = .ok reports →
      List.Forall₂ (validator.Reports disk) paths reports) ∧
    ∀ fault, (validator.checkFiles disk paths).2 = .error fault ↔ ∃ before path after,
      paths = before ++ path :: after ∧ (∀ p ∈ before, ∃ report, validator.Reports disk p report) ∧
        validator.Unreported disk path fault := by
  have hfile : ∀ path ∈ paths, ∀ fault, (validator.checkFile disk path).2 = .error fault ↔
      validator.Unreported disk path fault := fun path hpath _ =>
    checkFile_eq_error fun value map hload =>
      exists_errors hformats (hpatterns path hpath value map hload)
  refine ⟨?_, fun reports => checkFiles_eq_ok.1, fun fault => ?_⟩
  · rw [exists_checkFiles_iff]
    refine forall₂_congr fun path hpath => ?_
    simp only [← checkFile_eq_ok, ← hfile path hpath]
    cases (validator.checkFile disk path).2 <;> simp
  · rw [checkFiles_eq_error]
    constructor
    · rintro ⟨before, path, after, rfl, hbefore, hfault⟩
      exact ⟨before, path, after, rfl, hbefore, (hfile path (by simp) fault).1 hfault⟩
    · rintro ⟨before, path, after, rfl, hbefore, hfault⟩
      exact ⟨before, path, after, rfl, hbefore, (hfile path (by simp) fault).2 hfault⟩

end

/-! ## Files of all kinds -/

/-- A short text, a list that does not end, bytes that are no text, a date that does not exist, a
list that contains itself, and a longer text. -/
def mixedDisk : Disk where
  working := ["data"]
  directories := []
  files :=
    [(["data", "short.yaml"], "ab".toUTF8.toList), (["data", "open.yaml"], "[".toUTF8.toList),
     (["data", "bytes.yaml"], [0xff]), (["data", "date.yaml"], "2023-02-30".toUTF8.toList),
     (["data", "cycle.yaml"], "&a [*a]".toUTF8.toList),
     (["data", "long.yaml"], "abcd".toUTF8.toList)]

/-- The validator of texts of at least three characters. -/
def lengthValidator : Validator :=
  ⟨.string { minLength := .int 3 }, .primitive .string [.minLength 3]⟩

theorem lengthValidator_of :
    ofSchema (.string { minLength := .int 3 }) .standard = .ok lengthValidator := rfl

theorem lengthValidator_formats :
    ∀ name format, .format name format ∉ lengthValidator.checker.refinements := by
  intro name format hmem
  have hall : lengthValidator.checker.refinements = [.minLength 3] := rfl
  simp [hall] at hmem

/-- Files that are missing or unreadable have one error each, among files that are checked. -/
theorem checkFiles_report_mixed :
    ∃ reports, (lengthValidator.checkFiles mixedDisk
        ["short.yaml", "open.yaml", "bytes.yaml", "none.yaml", "long.yaml"]).2 = .ok reports ∧
      List.Forall₂ (lengthValidator.Reports mixedDisk)
        ["short.yaml", "open.yaml", "bytes.yaml", "none.yaml", "long.yaml"] reports ∧
      reports.map (fun report => report.errors.map (·.kind)) =
        [[some "LengthTooShort"], [none], [none], [none], []] := by
  have hpatterns : ∀ text program,
      .pattern text program ∉ lengthValidator.checker.refinements := by
    intro text program hmem
    have hall : lengthValidator.checker.refinements = [.minLength 3] := rfl
    simp [hall] at hmem
  obtain ⟨-, hreports, -⟩ := checkFiles_report lengthValidator_formats mixedDisk
    ["short.yaml", "open.yaml", "bytes.yaml", "none.yaml", "long.yaml"]
    fun _ _ _ _ _ text program hmem => absurd hmem (hpatterns text program)
  have hrun : ((lengthValidator.checkFiles mixedDisk
      ["short.yaml", "open.yaml", "bytes.yaml", "none.yaml", "long.yaml"]).2.toOption.map
        fun reports => reports.map fun report => report.errors.map (·.kind)) =
      some [[some "LengthTooShort"], [none], [none], [none], []] := by decide +kernel
  obtain ⟨reports, hreported, hkinds⟩ := Option.map_eq_some_iff.1 hrun
  have hok := eq_ok_of_toOption hreported
  exact ⟨reports, hok, hreports reports hok, hkinds⟩

/-- A date that does not exist ends the check of all files, and so does a list that contains
itself. -/
theorem checkFiles_date :
    ofSchema (.string { minLength := .int 3 }) .standard = .ok lengthValidator ∧
    (∀ name format, .format name format ∉ lengthValidator.checker.refinements) ∧
    (lengthValidator.checkFiles mixedDisk ["long.yaml", "date.yaml"]).2 = .error .badValue ∧
    (lengthValidator.checkFiles mixedDisk ["long.yaml", "cycle.yaml"]).2 =
      .error .selfContaining := by
  refine ⟨lengthValidator_of, lengthValidator_formats, ?_, ?_⟩
  · have hrun : errorOf? (lengthValidator.checkFiles mixedDisk ["long.yaml", "date.yaml"]).2 =
        some .badValue := by decide +kernel
    exact eq_error_of_errorOf? hrun
  · have hrun : errorOf? (lengthValidator.checkFiles mixedDisk ["long.yaml", "cycle.yaml"]).2 =
        some .selfContaining := by decide +kernel
    exact eq_error_of_errorOf? hrun

end Validator

end Conform
