import Conform.Proofs.Checker.Answers
import Conform.Proofs.Outcome

/-!
# One verdict

A checker decides about a value in two ways: `accepts` stops at the first failure, `collect` lists
every violation. `Agree` relates what the two give for one value: a report that is given decides the
verdict, and a fault of either has a cause. Each step of the one is matched by a step of the other
(`agree_unless`, `agree_and`), so they agree on refinements, items and fields, and from there on
whole checkers (`agree`), where the cause is a test that fails on a part of the value. A union is
only asked for its verdict, whose faults are those of its options (`undecided_of_acceptsAny`).
-/

namespace Conform

/-! ## What a verdict says -/

/-- Whenever the verdict is given, it says whether the proposition holds. -/
def Settles (verdict : Except Fault Bool) (p : Prop) : Prop :=
  ∀ b, verdict = .ok b → (b = true ↔ p)

namespace Settles

variable {x y : Except Fault Bool} {p q : Prop}

theorem of_iff {b : Bool} (h : b = true ↔ p) : Settles (.ok b) p :=
  fun _ hb => Except.ok.inj hb ▸ h

theorem congr (h : Settles x p) (hpq : p ↔ q) : Settles x q := fun b hb => (h b hb).trans hpq

/-- The second verdict is only asked for if the first one is positive. -/
theorem and (hx : Settles x p) (hy : Settles y q) :
    Settles (do if ← x then y else .ok false) (p ∧ q) := by
  intro b h
  obtain ⟨c, hc, h⟩ := bind_eq_ok.1 h
  have hp := hx c hc
  cases c with
  | true => rw [hy b h, hp.1 rfl |> eq_true, true_and]
  | false =>
    obtain rfl := Except.ok.inj h
    exact iff_of_false Bool.false_ne_true fun hpq => Bool.false_ne_true (hp.2 hpq.1)

theorem or (hx : Settles x p) (hy : Settles y q) :
    Settles (do if ← x then .ok true else y) (p ∨ q) := by
  intro b h
  obtain ⟨c, hc, h⟩ := bind_eq_ok.1 h
  have hp := hx c hc
  cases c with
  | true =>
    obtain rfl := Except.ok.inj h
    exact iff_of_true rfl (.inl (hp.1 rfl))
  | false =>
    have hnot : ¬ p := fun h => Bool.false_ne_true (hp.2 h)
    rw [hy b h, eq_false hnot, false_or]

end Settles

theorem settles_allPass {test : Value → Except Fault Bool} {p : Value → Prop} :
    ∀ {items : List Value}, (∀ v ∈ items, Settles (test v) (p v)) →
      Settles (Checker.allPass test items) (∀ v ∈ items, p v)
  | [], _ => .of_iff (by simp)
  | v :: items, h => by
    obtain ⟨hv, hitems⟩ := List.forall_mem_cons.1 h
    exact (hv.and (settles_allPass hitems)).congr List.forall_mem_cons.symm

/-! ## Verdicts and reports -/

namespace Checker

/-- The verdict is that there is nothing to report, whenever there is a report; and a fault of the
verdict or of the report has the cause. -/
structure Agree (cause : Fault → Prop) (verdict : Except Fault Bool)
    (report : Except Fault (List Violation)) : Prop where
  verdict_of_report : ∀ violations, report = .ok violations → verdict = .ok violations.isEmpty
  cause_of_verdict : ∀ fault, verdict = .error fault → cause fault
  cause_of_report : ∀ fault, report = .error fault → cause fault

section
variable {cause : Fault → Prop}

theorem agree_ok {violations : List Violation} {b : Bool} (h : b = violations.isEmpty) :
    Agree cause (.ok b) (.ok violations) := by
  refine ⟨fun found hfound => ?_, nofun, nofun⟩
  obtain rfl := Except.ok.inj hfound
  rw [h]

theorem agree_error {fault : Fault} (h : cause fault) :
    Agree cause (.error fault) (.error fault) := by
  refine ⟨nofun, fun other hother => ?_, fun other hother => ?_⟩ <;>
    · obtain rfl := Except.error.inj hother
      exact h

theorem agree_unless (holds : Bool) (path : Pointer.Path) (kind : ViolationKind) (detail : Value) :
    Agree cause (.ok holds) (.ok (violationUnless holds path kind detail)) :=
  agree_ok (by cases holds <;> rfl)

/-- The second check is made only if the first one succeeds; the reports are put together. -/
theorem agree_and {b₁ b₂ : Except Fault Bool} {r₁ r₂ : Except Fault (List Violation)}
    (h₁ : Agree cause b₁ r₁) (h₂ : Agree cause b₂ r₂) :
    Agree cause (do if ← b₁ then b₂ else .ok false)
      (do
        let found ← r₁
        let others ← r₂
        .ok (found ++ others)) := by
  refine ⟨fun violations h => ?_, fun fault h => ?_, fun fault h => ?_⟩
  · obtain ⟨found, hfound, h⟩ := bind_eq_ok.1 h
    obtain ⟨others, hothers, h⟩ := bind_eq_ok.1 h
    obtain rfl := Except.ok.inj h
    rw [h₁.verdict_of_report found hfound, h₂.verdict_of_report others hothers, ok_bind]
    cases found <;> simp
  · rcases bind_eq_error.1 h with h | ⟨b, -, h⟩
    · exact h₁.cause_of_verdict fault h
    · cases b with
      | true => exact h₂.cause_of_verdict fault h
      | false => cases h
  · rcases bind_eq_error.1 h with h | ⟨found, -, h⟩
    · exact h₁.cause_of_report fault h
    · rcases bind_eq_error.1 h with h | ⟨others, -, h⟩
      · exact h₂.cause_of_report fault h
      · cases h

theorem Agree.mono {cause' : Fault → Prop} {verdict : Except Fault Bool}
    {report : Except Fault (List Violation)} (h : Agree cause verdict report)
    (hcause : ∀ fault, cause fault → cause' fault) : Agree cause' verdict report :=
  ⟨h.verdict_of_report, fun fault hf => hcause fault (h.cause_of_verdict fault hf),
    fun fault hf => hcause fault (h.cause_of_report fault hf)⟩

/-! ## The checks of one node -/

theorem agree_counts (minItems maxItems : Option Nat) (length : Nat) (path : Pointer.Path) :
    Agree cause (.ok (atLeast minItems length && atMost maxItems length))
      (.ok (countViolations minItems maxItems length path)) := by
  apply agree_ok
  unfold countViolations
  cases atLeast minItems length <;> cases atMost maxItems length <;> rfl

theorem agree_items {test : Value → Except Fault Bool}
    {report : Nat → Value → Except Fault (List Violation)} : ∀ (items : List Value) (index : Nat),
    (∀ index, ∀ v ∈ items, Agree cause (test v) (report index v)) →
    Agree cause (allPass test items) (collectFrom report index items)
  | [], _, _ => agree_ok rfl
  | v :: items, index, h => by
    have hv := h index v List.mem_cons_self
    have hitems := agree_items items (index + 1) fun i w hw => h i w (List.mem_cons_of_mem v hw)
    exact agree_and hv hitems

theorem agree_unexpected (strict : Bool) (keys : List Value) (path : Pointer.Path) :
    Agree cause (.ok (!strict || keys.isEmpty)) (.ok ((if strict then keys else []).map fun key =>
      .of (path ++ [key]) .unexpectedProperty .null)) := by
  apply agree_ok
  cases strict <;> cases keys <;> rfl

end

theorem agree_refinements (v : Value) (path : Pointer.Path) : ∀ rs : List Refinement,
    Agree (Undecided rs v) (Refinement.allHold rs v) (Refinement.violations rs v path)
  | [] => agree_ok rfl
  | r :: rs => by
    have hrs : Agree (Undecided (r :: rs) v) _ _ :=
      (agree_refinements v path rs).mono fun _ h => Undecided.of_cons h
    unfold Refinement.allHold Refinement.violations
    cases hr : r.holds v with
    | error fault =>
      simp only [error_bind]
      exact agree_error ⟨r, List.mem_cons_self, v, .here, hr⟩
    | ok holds => exact agree_and (agree_unless holds path r.kind r.detail) hrs

/-! ## Whole checkers -/

mutual

theorem agree (c : Checker) (v : Value) (path : Pointer.Path) :
    Agree (Undecided c.refinements v) (c.accepts v) (c.collect v path) := by
  cases c with
  | primitive kind rs =>
    simp only [accepts, collect]
    cases kind.includes v with
    | true => exact agree_refinements v path rs
    | false => exact agree_ok rfl
  | literal expected => exact agree_unless ..
  | list item minItems maxItems =>
    simp only [accepts, collect]
    cases hv : v.items? with
    | none => exact agree_ok rfl
    | some items =>
      have hitem : ∀ index : Nat, ∀ w ∈ items, Agree (Undecided item.refinements v)
          (item.accepts w) (item.collect w (path ++ [.int index])) := fun index w hw =>
        (agree item w (path ++ [.int index])).mono fun _ h => h.of_part fun _ => .item hv hw
      have hitems := agree_items items 0 hitem
      exact agree_and (agree_counts minItems maxItems items.length path) hitems
  | object fields strict =>
    cases v with
    | map entries =>
      simp only [accepts, collect]
      exact agree_and (agree_fields fields entries path) (agree_unexpected ..)
    | _ => exact agree_ok rfl
  | union options =>
    simp only [accepts, collect]
    cases hb : acceptsAny options v with
    | error fault =>
      rw [error_bind]
      exact agree_error (undecided_of_acceptsAny options v fault hb)
    | ok b => exact agree_unless ..
termination_by structural c

theorem agree_fields (fields : List FieldChecker) (entries : List (Value × Value))
    (path : Pointer.Path) :
    Agree (Undecided (fieldRefinements fields) (.map entries)) (acceptsFields fields entries)
      (collectFields fields entries path) := by
  cases fields with
  | nil => exact agree_ok rfl
  | cons field rest =>
    exact agree_and ((agree_field field entries path).mono fun _ h => h.append_left)
      ((agree_fields rest entries path).mono fun _ h => h.append_right)
termination_by structural fields

theorem agree_field (field : FieldChecker) (entries : List (Value × Value))
    (path : Pointer.Path) :
    Agree (Undecided field.refinements (.map entries)) (acceptsField field entries)
      (collectField field entries path) := by
  cases field with
  | mk name required checker =>
    simp only [acceptsField, collectField]
    cases hv : Value.lookup name entries with
    | some v =>
      exact (agree checker v (path ++ [name])).mono fun _ h => h.of_part fun _ => .of_lookup hv
    | none => exact agree_unless ..
termination_by structural field

theorem undecided_of_acceptsAny (options : List Checker) (v : Value) :
    ∀ fault, acceptsAny options v = .error fault →
      Undecided (optionRefinements options) v fault := by
  cases options with
  | nil => exact nofun
  | cons option rest =>
    intro fault h
    have hoption := agree option v []
    have hrest := undecided_of_acceptsAny rest v
    rcases bind_eq_error.1 h with h | ⟨b, -, h⟩
    · exact (hoption.cause_of_verdict fault h).append_left
    · cases b with
      | true => cases h
      | false => exact (hrest fault h).append_right
termination_by structural options

end

/-- Where every test decides, there are a verdict and a report. -/
theorem agree_accepts_collect (c : Checker) (h : ∀ r ∈ c.refinements, r.Decides) (v : Value)
    (path : Pointer.Path) : ∃ violations, c.collect v path = .ok violations ∧
      c.accepts v = .ok violations.isEmpty := by
  have hagree := agree c v path
  cases hcollect : c.collect v path with
  | error fault => exact absurd (hagree.cause_of_report fault hcollect) (Undecided.of_decides h)
  | ok violations => exact ⟨violations, rfl, hagree.verdict_of_report violations hcollect⟩

end Checker

/-! ## Validators -/

/-- What a validator that always answers says about a value follows from the list of violations: the
verdict is that there are none, the first one is their head, and a value that is asserted to be
valid comes back as it is or is refused with all of them, each on a line of the message. The message
has to be written for that: it is a fault if one of the pointers has a key without a text. -/
theorem Validator.verdicts_of_errors (validator : Validator) (ha : validator.checker.Answers)
    (value : Value) (label : String) :
    ∃ violations, validator.errors value = .ok violations ∧
      validator.check value = .ok violations.isEmpty ∧
      validator.first value = .ok violations.head? ∧
      validator.assertValid value label =
        (if violations.isEmpty then .ok (.ok value)
          else if violations.all Violation.hasText then .ok (.error ⟨label, violations⟩)
          else .error .badValue) ∧
      (InvalidValue.mk label violations).message = "Invalid " ++ label ++ ":\n" ++
        String.intercalate "\n" (violations.map fun v => v.pointer ++ ": " ++ v.message) := by
  obtain ⟨violations, he, hc⟩ :=
    Checker.agree_accepts_collect validator.checker ha.decides value []
  have hcheck : validator.check value = .ok violations.isEmpty := hc
  have herrors : validator.errors value = .ok violations := he
  refine ⟨violations, herrors, hcheck, ?_, ?_, ?_⟩
  · simp only [first, hcheck, herrors, ok_bind]
    cases violations <;> rfl
  · simp only [assertValid, hcheck, herrors, ok_bind]
  · simp [InvalidValue.message, Violation.lines, Violation.line]

theorem Validator.verdicts_account : ∃ validator,
    Validator.ofSchema accountSchema .standard = .ok validator ∧ validator.checker.Answers ∧
    ∃ violations, validator.errors accountValue = .ok violations ∧
      validator.check accountValue = .ok false ∧
      validator.first accountValue = .ok violations.head? ∧
      validator.assertValid accountValue "account" = .ok (.error ⟨"account", violations⟩) ∧
      violations.map (fun v => (v.pointer, v.kind)) =
        [("/name", .lengthTooShort), ("/name", .patternMismatch), ("/born", .formatInvalid),
          ("/roles/1", .noAlternativeMatched), ("/age", .unexpectedProperty)] := by
  obtain ⟨validator, hv, ha⟩ := account_answers
  obtain ⟨violations, he, hcheck, hfirst, hassert, -⟩ :=
    Validator.verdicts_of_errors validator ha accountValue "account"
  have hviolations := account_violations hv he
  have hne : violations.isEmpty = false := by
    cases violations with
    | nil => cases hviolations
    | cons => rfl
  rw [hne] at hcheck
  rw [hne, account_violations_hasText hv he] at hassert
  exact ⟨validator, hv, ha, violations, he, hcheck, hfirst, hassert, hviolations⟩

/-- A strict object without fields. -/
def emptySchema : Schema := .object [] (.bool true)

/-- A value with a key that is longer than what is written. -/
def longKeyValue : Value := .map [(.int longInteger, .int 1)]

/-- There is a violation, but the value is not refused with it. -/
theorem Validator.assertValid_longKey : ∃ validator violation,
    Validator.ofSchema emptySchema .standard = .ok validator ∧ validator.checker.Answers ∧
      validator.errors longKeyValue = .ok [violation] ∧
      validator.assertValid longKeyValue "value" = .error .badValue := by
  have hanswers : (Checker.object [] true).Answers := ⟨nofun, nofun⟩
  let validator : Validator := ⟨emptySchema, .object [] true⟩
  let violation : Violation := .of [.int longInteger] .unexpectedProperty .null
  have hcheck : validator.check longKeyValue = .ok false := rfl
  have herrors : validator.errors longKeyValue = .ok [violation] := rfl
  have htext : [violation].all Violation.hasText = false := by
    simp only [violation, List.all_cons, Violation.hasText, Violation.of, Value.longInteger_hasText,
      Bool.false_and]
  refine ⟨validator, violation, rfl, hanswers, herrors, ?_⟩
  simp only [assertValid, hcheck, herrors, ok_bind, htext]
  rfl

end Conform
