import Conform.Proofs.Checker.Reading
import Conform.Proofs.Value.Part
import Conform.Schema.Build
import Conform.Validator

/-!
# Checkers that always answer

A pattern or a format may fail on a string instead of accepting or refusing it. `Checker.Answers`
says that none of a checker does: each is a total test of strings. Then every refinement in the
checker decides every value (`Answers.decides`). Patterns without groups of their own and formats
that are plain predicates always answer (`search_of_groupless`, `conforms_total`).

Of one value it is enough that the tests answer on its parts (`Value.PartOf`); `Undecided` is the
opposite, a test that fails on a part.
-/

namespace Conform

mutual

/-- The refinements of a checker and of the checkers in it. -/
def Checker.refinements : Checker → List Refinement
  | .primitive _ refinements => refinements
  | .literal _ => []
  | .list item _ _ => item.refinements
  | .object fields _ => fieldRefinements fields
  | .union options => optionRefinements options
termination_by structural c => c

def FieldChecker.refinements : FieldChecker → List Refinement
  | .mk _ _ checker => checker.refinements
termination_by structural f => f

def fieldRefinements : List FieldChecker → List Refinement
  | [] => []
  | field :: rest => field.refinements ++ fieldRefinements rest
termination_by structural fs => fs

def optionRefinements : List Checker → List Refinement
  | [] => []
  | option :: rest => option.refinements ++ optionRefinements rest
termination_by structural os => os

end

/-- Every pattern and every format in the checker accepts or refuses every string. -/
structure Checker.Answers (checker : Checker) : Prop where
  patterns : ∀ text program, .pattern text program ∈ checker.refinements →
    ∀ s, ∃ b, program.search s = .ok b
  formats : ∀ name format, .format name format ∈ checker.refinements →
    ∀ s, ∃ b, format.conforms s = .ok b

/-- Whether a value meets the refinement is never left open. -/
def Refinement.Decides (r : Refinement) : Prop := ∀ v, ∃ b, r.holds v = .ok b

theorem Checker.Answers.decides {checker : Checker} (h : checker.Answers) :
    ∀ r ∈ checker.refinements, r.Decides := by
  intro r hr v
  cases r with
  | pattern text program =>
    cases v with
    | str s => exact h.patterns text program hr s
    | _ => exact ⟨true, rfl⟩
  | format name format =>
    cases v with
    | str s => exact h.formats name format hr s
    | _ => exact ⟨true, rfl⟩
  | _ => cases v <;> exact ⟨_, rfl⟩

/-! ## One value -/

/-- One of some refinements fails on a part of the value, and this is the fault. -/
def Undecided (refinements : List Refinement) (v : Value) (fault : Fault) : Prop :=
  ∃ r ∈ refinements, ∃ w : Value, w.PartOf v ∧ r.holds w = .error fault

namespace Undecided

variable {rs rs' : List Refinement} {v v' : Value} {fault : Fault}

theorem of_part (h : Undecided rs v fault) (hv : ∀ w : Value, w.PartOf v → w.PartOf v') :
    Undecided rs v' fault := by
  obtain ⟨r, hr, w, hw, hfault⟩ := h
  exact ⟨r, hr, w, hv w hw, hfault⟩

theorem append_left (h : Undecided rs v fault) : Undecided (rs ++ rs') v fault := by
  obtain ⟨r, hr, hw⟩ := h
  exact ⟨r, List.mem_append_left _ hr, hw⟩

theorem append_right (h : Undecided rs' v fault) : Undecided (rs ++ rs') v fault := by
  obtain ⟨r, hr, hw⟩ := h
  exact ⟨r, List.mem_append_right _ hr, hw⟩

theorem of_cons {r : Refinement} (h : Undecided rs v fault) : Undecided (r :: rs) v fault :=
  @append_right [r] rs v fault h

theorem of_decides (hd : ∀ r ∈ rs, r.Decides) : ¬ Undecided rs v fault := by
  rintro ⟨r, hr, w, -, hfault⟩
  obtain ⟨b, hb⟩ := hd r hr w
  rw [hb] at hfault
  cases hfault

end Undecided

/-- Only a group can end before it begins. -/
theorem search_of_groupless {program : Pattern.Program} (h : program.groups = 1) (s : String) :
    ∃ b, program.search s = .ok b := by
  unfold Pattern.Program.search
  cases program.firstMatch? s with
  | none => exact ⟨false, rfl⟩
  | some marks => exact ⟨true, by simp [h]⟩

theorem conforms_total (p : String → Bool) (s : String) : (Format.total p).conforms s = .ok (p s) :=
  rfl

/-! ## A schema of accounts -/

/-- A name, perhaps a day of birth, and at least one role; nothing else. -/
def accountSchema : Schema :=
  .object
    [.named (.str "name")
      (.field (.string { minLength := .int 2, pattern := .str "^[a-z]+$" }) (.bool true)),
     .named (.str "born") (.field (.string { format := .str "date" }) (.bool false)),
     .named (.str "roles")
      (.field (.list (.enumOf [.str "admin", .str "guest"]) (.int 1) .null) (.bool true))]
    (.bool true)

/-- A value that is no account, for several reasons. -/
def accountValue : Value :=
  .map [(.str "name", .str "X"), (.str "born", .str "1990-02-30"),
    (.str "roles", .list [.str "guest", .str "owner"]), (.str "age", .int 34)]

/-- What the schema is compiled to, with the program of the name's pattern. -/
def accountChecker (program : Pattern.Program) : Checker :=
  .object
    [⟨.str "name", true, .primitive .string [.minLength 2, .pattern "^[a-z]+$" program]⟩,
     ⟨.str "born", false, .primitive .string [.format "date" (.total Format.isDate)]⟩,
     ⟨.str "roles", true, .list (.union [.literal (.str "admin"), .literal (.str "guest")])
        (some 1) none⟩]
    true

theorem accountChecker_answers {program : Pattern.Program} (h : program.groups = 1) :
    (accountChecker program).Answers := by
  have hall : (accountChecker program).refinements = [.minLength 2, .pattern "^[a-z]+$" program,
      .format "date" (.total Format.isDate)] := rfl
  constructor
  · intro text program' hmem
    rw [hall] at hmem
    obtain ⟨-, rfl⟩ : text = "^[a-z]+$" ∧ program' = program := by simpa using hmem
    exact search_of_groupless h
  · intro name format hmem
    rw [hall] at hmem
    obtain ⟨-, rfl⟩ : name = "date" ∧ format = .total Format.isDate := by simpa using hmem
    exact fun s => ⟨_, conforms_total Format.isDate s⟩

theorem compile_account {program : Pattern.Program} (h : Pattern.compile "^[a-z]+$" = .ok program) :
    accountSchema.compile .standard = .ok (accountChecker program) := by
  have hpattern : requirePattern (.str "^[a-z]+$") = .ok ("^[a-z]+$", program) :=
    requirePattern_eq_ok.2 ⟨rfl, h⟩
  have hname (place : String) : compilePrimitive (.known .string)
      { minLength := .int 2, pattern := .str "^[a-z]+$" } .standard place =
        .ok (.primitive .string [.minLength 2, .pattern "^[a-z]+$" program]) := by
    simp only [compilePrimitive, Refinements.ofString, whenGiven, hpattern]
    rfl
  simp only [Schema.compile, accountSchema, Schema.string, Schema.compileAt, compileEntries,
    Entry.compileAt, hname]
  rfl

theorem account_answers : ∃ validator,
    Validator.ofSchema accountSchema .standard = .ok validator ∧ validator.checker.Answers := by
  have hgroups : (Pattern.compile "^[a-z]+$").toOption.map (·.groups) = some 1 := by
    decide +kernel
  cases hc : Pattern.compile "^[a-z]+$" with
  | error e =>
    rw [hc] at hgroups
    cases hgroups
  | ok program =>
    rw [hc] at hgroups
    refine ⟨⟨accountSchema, accountChecker program⟩, ?_,
      accountChecker_answers (Option.some.inj hgroups)⟩
    rw [Validator.ofSchema, compile_account hc, ok_bind]

section
variable {validator : Validator} {violations : List Violation}
  (hv : Validator.ofSchema accountSchema .standard = .ok validator)
  (h : validator.errors accountValue = .ok violations)
include hv h

theorem eq_of_account_run {α : Type} {f : List Violation → α} {a : α}
    (hrun : ((Validator.ofSchema accountSchema .standard).toOption.bind fun validator =>
      (validator.errors accountValue).toOption.map f) = some a) : f violations = a := by
  rw [hv, Except.toOption, Option.bind_some, h] at hrun
  exact Option.some.inj hrun

theorem account_violations :
    violations.map (fun v => (v.pointer, v.kind)) =
      [("/name", .lengthTooShort), ("/name", .patternMismatch), ("/born", .formatInvalid),
        ("/roles/1", .noAlternativeMatched), ("/age", .unexpectedProperty)] := by
  refine eq_of_account_run hv h ?_
  decide +kernel

theorem account_violations_hasText : violations.all Violation.hasText = true := by
  refine eq_of_account_run hv h (f := fun violations => violations.all Violation.hasText) ?_
  decide +kernel

end

end Conform
