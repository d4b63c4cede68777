import Conform.Proofs.Checker.Reading
import Conform.Proofs.Checker.Verdict

/-!
# Compiled checkers and the evaluator

`evaluate_follows`: on a schema that has been compiled, whenever the evaluator comes to a result,
the compiled checker comes to the same one when it lists violations, violation by violation
(`Follows`). The evaluator goes by the keywords of a node, the checker by the refinements that
compilation made of them: for each keyword there is a lemma that the two tests are the same test
with the same message (`unless_atLeast`, `violations_pattern`, `violations_bounds` and so on).

Unions are where the two differ. The evaluator lists the violations of an option and looks whether
there are any; the checker has the option's verdict (`evaluateAny_follows`). They agree because
verdicts and lists do (`Checker.agree`). A list may come to a test that a verdict has stopped short
of, so that the evaluator may fail where the checker does not, but only by a test that is undecided
on a part of the value. Where the patterns and formats answer, the two are equal
(`evaluate_eq_collect`).
-/

namespace Conform

/-! ## Refinements -/

theorem violations_append (rs rs' : List Refinement) (v : Value) (path : Pointer.Path) :
    Refinement.violations (rs ++ rs') v path = (do
      let found ← Refinement.violations rs v path
      let others ← Refinement.violations rs' v path
      .ok (found ++ others)) := by
  induction rs with
  | nil => cases h : Refinement.violations rs' v path <;> simp [Refinement.violations, h]
  | cons r rs ih =>
    simp only [List.cons_append, Refinement.violations, ih]
    cases r.holds v with
    | error e => rfl
    | ok holds =>
      cases Refinement.violations rs v path with
      | error e => rfl
      | ok found => cases Refinement.violations rs' v path <;> simp

/-- A least count as the evaluator and as the checker test it. -/
theorem unless_atLeast {keyword place : String} {v : Value} {least : Option Nat}
    (h : readCount keyword place v = .ok least) (n : Nat) (path : Pointer.Path)
    (kind : ViolationKind) :
    violationUnless (!(Value.int n).isBelow v) path kind v =
      violationUnless (Checker.atLeast least n) path kind (.int (least.getD 0)) := by
  rcases readCount_eq_ok.1 h with ⟨rfl, rfl⟩ | ⟨b, rfl, rfl⟩
  · simp [violationUnless, Checker.atLeast]
  · simp [Value.not_isBelow_natCast, Checker.atLeast]

theorem unless_atMost {keyword place : String} {v : Value} {most : Option Nat}
    (h : readCount keyword place v = .ok most) (n : Nat) (path : Pointer.Path)
    (kind : ViolationKind) :
    violationUnless (!v.isBelow (.int n)) path kind v =
      violationUnless (Checker.atMost most n) path kind (.int (most.getD 0)) := by
  rcases readCount_eq_ok.1 h with ⟨rfl, rfl⟩ | ⟨b, rfl, rfl⟩
  · simp [violationUnless, Checker.atMost]
  · simp [Value.not_isBelow_natCast, Checker.atMost]

/-- What is reported has a message if the detail has a text, as it has where a schema compiles. -/
theorem reportUnless_eq {detail : Value} (h : detail.hasText = true) (holds : Bool)
    (path : Pointer.Path) (kind : ViolationKind) :
    reportUnless holds path kind detail = .ok (violationUnless holds path kind detail) := by
  have htext : SchemaFailure.ofFault detail.requireText = .ok () := ofFault_requireText.2 h
  cases holds <;> simp [reportUnless, htext]

theorem lengthViolations_eq {keyword keyword' place : String} {v w : Value}
    {least most : Option Nat} (hl : readCount keyword place v = .ok least)
    (hm : readCount keyword' place w = .ok most) (hv : v.hasText = true) (hw : w.hasText = true)
    (n : Nat) (path : Pointer.Path) (tooFew tooMany : ViolationKind) :
    lengthViolations path v w tooFew tooMany n =
      .ok (violationUnless (Checker.atLeast least n) path tooFew (.int (least.getD 0)) ++
        violationUnless (Checker.atMost most n) path tooMany (.int (most.getD 0))) := by
  simp only [lengthViolations, reportUnless_eq hv, reportUnless_eq hw, ok_bind, unless_atLeast hl,
    unless_atMost hm]

theorem violations_lengths (least most : Option Nat) (s : String) (path : Pointer.Path) :
    Refinement.violations ((least.map .minLength).toList ++ (most.map .maxLength).toList) (.str s)
        path =
      .ok (violationUnless (Checker.atLeast least s.length) path .lengthTooShort
          (.int (least.getD 0)) ++
        violationUnless (Checker.atMost most s.length) path .lengthTooLong
          (.int (most.getD 0))) := by
  cases least <;> cases most <;>
    simp [Refinement.violations, Refinement.holds, Refinement.kind, Refinement.detail,
      Checker.atLeast, Checker.atMost, violationUnless]

/-- What a pattern keyword says about a string; without the keyword all strings match. -/
def patternHolds (pattern : Option (String × Pattern.Program)) (s : String) : Except Fault Bool :=
  match pattern with
  | some (_, program) => program.search s
  | none => .ok true

def formatHolds (format : Option Format) (s : String) : Except Fault Bool :=
  match format with
  | some format => format.conforms s
  | none => .ok true

theorem violations_pattern {v : Value} {pattern : Option (String × Pattern.Program)}
    (h : whenGiven v requirePattern = .ok pattern) (s : String) (path : Pointer.Path) :
    Refinement.violations (pattern.map fun (text, program) => .pattern text program).toList (.str s)
      path = (do
        let holds ← patternHolds pattern s
        .ok (violationUnless holds path .patternMismatch v)) := by
  rcases whenGiven_eq_ok.1 h with ⟨rfl, rfl⟩ | ⟨-, ⟨text, program⟩, hp, rfl⟩
  · rfl
  · obtain ⟨rfl, -⟩ := requirePattern_eq_ok.1 hp
    simp [Refinement.violations, Refinement.holds, Refinement.kind, Refinement.detail,
      patternHolds]

theorem violations_format {v : Value} {registry : Registry} {format : Option Format}
    (h : whenGiven v registry.resolve = .ok format) (s : String) (path : Pointer.Path) :
    Refinement.violations (format.map fun format => .format v.text format).toList (.str s)
      path = (do
        let holds ← formatHolds format s
        .ok (violationUnless holds path .formatInvalid v)) := by
  rcases whenGiven_eq_ok.1 h with ⟨rfl, rfl⟩ | ⟨-, format, hf, rfl⟩
  · rfl
  · obtain ⟨name, rfl, -⟩ := resolve_eq_ok.1 hf
    simp [Refinement.violations, Refinement.holds, Refinement.kind, Refinement.detail,
      formatHolds, Value.text]

/-- The evaluator on a string, once the keywords have been read. -/
theorem evaluateString_str {r : Refinements} {registry : Registry}
    {pattern : Option (String × Pattern.Program)} {format : Option Format}
    (hl : requireCount "min_length" "" r.minLength = .ok ())
    (hm : requireCount "max_length" "" r.maxLength = .ok ())
    (hp : whenGiven r.pattern requirePattern = .ok pattern)
    (hf : whenGiven r.format registry.resolve = .ok format) (s : String) (path : Pointer.Path) :
    evaluateString registry r (.str s) path = (do
      let lengths ←
        lengthViolations path r.minLength r.maxLength .lengthTooShort .lengthTooLong s.length
      let matched ← SchemaFailure.ofFault (patternHolds pattern s)
      let conforms ← SchemaFailure.ofFault (formatHolds format s)
      .ok (lengths ++ violationUnless matched path .patternMismatch r.pattern ++
        violationUnless conforms path .formatInvalid r.format)) := by
  simp only [evaluateString, hl, hm, hp, hf, ok_bind]
  cases pattern <;> cases format <;> rfl

theorem evaluateString_eq_collect {r : Refinements} {registry : Registry} {place : String}
    {rs : List Refinement} (h : r.ofString registry place = .ok rs) (v : Value)
    (path : Pointer.Path) :
    evaluateString registry r v path =
      SchemaFailure.ofFault ((Checker.primitive .string rs).collect v path) := by
  obtain ⟨least, hl, most, hm, hleast, hmost, pattern, hp, format, hf, rfl⟩ :=
    Refinements.ofString_eq_ok.1 h
  cases v with
  | str s =>
    simp only [Checker.collect, Kind.includes, Value.isString, if_true]
    rw [evaluateString_str (requireCount_of_read hl) (requireCount_of_read hm) hp hf,
      lengthViolations_eq hl hm hleast hmost, ok_bind, violations_append, violations_append,
      violations_lengths, violations_pattern hp, violations_format hf]
    cases patternHolds pattern s with
    | error e => rfl
    | ok matched => cases formatHolds format s <;> rfl
  | _ =>
    simp only [evaluateString, requireCount_of_read hl, requireCount_of_read hm, hp, hf, ok_bind]
    rfl

theorem violations_bounds {keyword keyword' place : String} {v w : Value}
    {least most : Option Value} (hl : readBound keyword place v = .ok least)
    (hm : readBound keyword' place w = .ok most) (x : Value) (path : Pointer.Path) :
    Refinement.violations ((least.map .minimum).toList ++ (most.map .maximum).toList) x path =
      .ok (violationUnless (!x.isBelow v) path .belowMinimum v ++
        violationUnless (!w.isBelow x) path .aboveMaximum w) := by
  rcases readBound_eq_ok.1 hl with ⟨rfl, rfl⟩ | ⟨-, rfl⟩ <;>
    rcases readBound_eq_ok.1 hm with ⟨rfl, rfl⟩ | ⟨-, rfl⟩ <;>
    simp [Refinement.violations, Refinement.holds, Refinement.kind, Refinement.detail,
      violationUnless]

theorem evaluateNumber_eq_collect {r : Refinements} {place : String} {rs : List Refinement}
    (h : r.ofNumber place = .ok rs) (v : Value) (path : Pointer.Path) :
    evaluateNumber r v path =
      SchemaFailure.ofFault ((Checker.primitive .number rs).collect v path) := by
  obtain ⟨least, hl, most, hm, hleast, hmost, rfl⟩ := Refinements.ofNumber_eq_ok.1 h
  simp only [evaluateNumber, reportUnless_eq hleast, reportUnless_eq hmost,
    requireBound_of_read hl, requireBound_of_read hm, ok_bind, Checker.collect]
  by_cases hv : v.isNumber = true
  · have hk : Kind.number.includes v = true := hv
    rw [if_pos hv, if_pos hk, violations_bounds hl hm, SchemaFailure.ofFault_ok]
  · have hk : ¬ Kind.number.includes v = true := hv
    rw [if_neg hv, if_neg hk, SchemaFailure.ofFault_ok]

theorem evaluatePrimitive_eq_collect {kind : KindRef} {r : Refinements} {registry : Registry}
    {place : String} {checker : Checker}
    (h : compilePrimitive kind r registry place = .ok checker) (v : Value) (path : Pointer.Path) :
    evaluatePrimitive registry kind r v path = SchemaFailure.ofFault (checker.collect v path) := by
  obtain ⟨k, hk, rs, hr, rfl⟩ := compilePrimitive_eq_ok.1 h
  simp only [evaluatePrimitive, requireKind_eq_ok.2 hk, ok_bind]
  cases k with
  | string => exact evaluateString_eq_collect hr v path
  | number => exact evaluateNumber_eq_collect hr v path
  | boolean | null =>
    obtain rfl := Except.ok.inj hr
    simp only [Checker.collect, violationUnless]
    split <;> rfl

/-! ## Results of both -/

/-- A result of the evaluator is one of the checker; and when the evaluator fails, it is a fault
that has the cause. -/
structure Follows {α : Type} (cause : Fault → Prop) (evaluated : Except SchemaFailure α)
    (collected : Except Fault α) : Prop where
  result : ∀ a, evaluated = .ok a → collected = .ok a
  failure : ∀ e, evaluated = .error e → ∃ fault, e = .fault fault ∧ cause fault

section
variable {α β : Type} {cause : Fault → Prop}

theorem follows_ok (a : α) : Follows cause (.ok a) (.ok a) :=
  ⟨fun b hb => by rw [Except.ok.inj hb], nofun⟩

/-- The evaluator does what the checker does. -/
theorem follows_ofFault {x : Except Fault α} (h : ∀ fault, x = .error fault → cause fault) :
    Follows cause (SchemaFailure.ofFault x) x := by
  cases x with
  | ok a => exact follows_ok a
  | error fault =>
    refine ⟨nofun, fun e he => ⟨fault, ?_, h fault rfl⟩⟩
    exact (Except.error.inj he).symm

theorem Follows.bind {x : Except SchemaFailure α} {y : Except Fault α}
    {f : α → Except SchemaFailure β} {g : α → Except Fault β} (h : Follows cause x y)
    (hf : ∀ a, Follows cause (f a) (g a)) : Follows cause (x >>= f) (y >>= g) := by
  constructor
  · intro b hb
    obtain ⟨a, ha, hb⟩ := bind_eq_ok.1 hb
    rw [h.result a ha, ok_bind]
    exact (hf a).result b hb
  · intro e he
    rcases bind_eq_error.1 he with he | ⟨a, -, he⟩
    · exact h.failure e he
    · exact (hf a).failure e he

theorem Follows.mono {cause' : Fault → Prop} {x : Except SchemaFailure α} {y : Except Fault α}
    (h : Follows cause x y) (hcause : ∀ fault, cause fault → cause' fault) :
    Follows cause' x y := by
  refine ⟨h.result, fun e he => ?_⟩
  obtain ⟨fault, rfl, hfault⟩ := h.failure e he
  exact ⟨fault, rfl, hcause fault hfault⟩

theorem follows_collectFrom {f : Nat → Value → Except SchemaFailure (List α)}
    {g : Nat → Value → Except Fault (List α)} : ∀ (items : List Value) (index : Nat),
      (∀ index, ∀ v ∈ items, Follows cause (f index v) (g index v)) →
        Follows cause (collectFrom f index items) (collectFrom g index items)
  | [], _, _ => follows_ok []
  | v :: items, index, h => by
    have hv := h index v List.mem_cons_self
    have hitems := follows_collectFrom items (index + 1) fun i w hw =>
      h i w (List.mem_cons_of_mem v hw)
    exact hv.bind fun found => hitems.bind fun others => follows_ok (found ++ others)

/-- One option after the other: the evaluator looks for violations, the checker has a verdict. -/
theorem follows_or {x : Except SchemaFailure (List Violation)} {verdict : Except Fault Bool}
    {report : Except Fault (List Violation)} {y : Except SchemaFailure Bool}
    {z : Except Fault Bool} (hx : Follows cause x report)
    (hverdict : Checker.Agree cause verdict report) (hy : Follows cause y z) :
    Follows cause (do let found ← x; if found.isEmpty then .ok true else y)
      (do if ← verdict then .ok true else z) := by
  have hempty : ∀ b : Bool,
      Follows cause (if b then .ok true else y) (if b then .ok true else z) := by
    intro b
    cases b with
    | true => exact follows_ok true
    | false => exact hy
  constructor
  · intro accepted h
    obtain ⟨found, hfound, h⟩ := bind_eq_ok.1 h
    rw [hverdict.verdict_of_report found (hx.result found hfound), ok_bind]
    exact (hempty found.isEmpty).result accepted h
  · intro e h
    rcases bind_eq_error.1 h with h | ⟨found, -, h⟩
    · exact hx.failure e h
    · exact (hempty found.isEmpty).failure e h

end

/-! ## Whole schemas -/

mutual

theorem evaluate_follows (schema : Schema) {registry : Registry} {place : String}
    {checker : Checker} (hc : schema.compileAt registry place = .ok checker) (v : Value)
    (path : Pointer.Path) :
    Follows (Undecided checker.refinements v) (schema.evaluate registry v path)
      (checker.collect v path) := by
  cases schema with
  | primitive kind r =>
    have hevaluate : (Schema.primitive kind r).evaluate registry v path = _ :=
      evaluatePrimitive_eq_collect hc v path
    rw [hevaluate]
    exact follows_ofFault (checker.agree v path).cause_of_report
  | literal expected =>
    obtain ⟨htext, rfl⟩ := compileAt_literal.1 hc
    rw [Schema.evaluate, reportUnless_eq htext]
    exact follows_ok _
  | list item minItems maxItems =>
    obtain ⟨least, hl, most, hm, inner, hi, hleast, hmost, rfl⟩ := compileAt_list.1 hc
    simp only [Schema.evaluate, Checker.collect, requireCount_of_read hl, requireCount_of_read hm,
      ok_bind]
    cases hv : v.items? with
    | none => exact follows_ok _
    | some items =>
      have hitem : ∀ index : Nat, ∀ w ∈ items, Follows (Undecided inner.refinements v)
          (item.evaluate registry w (path ++ [.int index]))
          (inner.collect w (path ++ [.int index])) := fun index w hw =>
        (evaluate_follows item hi w (path ++ [.int index])).mono
          fun _ h => h.of_part fun _ => .item hv hw
      have hitems := follows_collectFrom items 0 hitem
      simp only [lengthViolations_eq hl hm hleast hmost, ok_bind, Checker.countViolations]
      exact hitems.bind fun found => follows_ok _
  | field inner required => cases hc
  | object entries strict =>
    obtain ⟨fields, hf, hk, -, rfl⟩ := compileAt_object.1 hc
    cases v with
    | map values =>
      simp only [Schema.evaluate, Checker.collect, fieldNames_of_compile hf]
      refine (evaluateEntries_follows entries hf hk values path).bind fun found => ?_
      cases strict.truthy with
      | true => exact follows_ok _
      | false =>
        simp only [Bool.false_eq_true, if_false, List.map_nil, List.append_nil]
        exact follows_ok _
    | _ => exact follows_ok _
  | union options =>
    obtain ⟨checkers, ho, rfl⟩ := compileAt_union.1 hc
    simp only [Schema.evaluate, Checker.collect]
    exact (evaluateAny_follows options ho v path).bind fun accepted => follows_ok _
  | other w => cases hc
termination_by structural schema

theorem evaluateEntries_follows (entries : List Entry) {registry : Registry} {place : String}
    {fields : List FieldChecker} (hc : compileEntries entries registry place = .ok fields)
    (hk : (fields.map FieldChecker.name).all Value.isKey = true) (values : List (Value × Value))
    (path : Pointer.Path) :
    Follows (Undecided (fieldRefinements fields) (.map values))
      (evaluateEntries entries registry values path)
      (Checker.collectFields fields values path) := by
  cases entries with
  | nil =>
    cases hc
    exact follows_ok []
  | cons entry rest =>
    obtain ⟨field, hf, others, ho, rfl⟩ := compileEntries_cons.1 hc
    simp only [List.map_cons, List.all_cons, Bool.and_eq_true] at hk
    have hfield : Follows (Undecided (fieldRefinements (field :: others)) (.map values)) _ _ :=
      (evaluateEntry_follows entry hf hk.1 values path).mono fun _ h => h.append_left
    have hrest : Follows (Undecided (fieldRefinements (field :: others)) (.map values)) _ _ :=
      (evaluateEntries_follows rest ho hk.2 values path).mono fun _ h => h.append_right
    exact hfield.bind fun found => hrest.bind fun found' => follows_ok (found ++ found')
termination_by structural entries

theorem evaluateEntry_follows (entry : Entry) {registry : Registry} {place : String}
    {field : FieldChecker} (hc : entry.compileAt registry place = .ok field)
    (hk : field.name.isKey = true) (values : List (Value × Value)) (path : Pointer.Path) :
    Follows (Undecided field.refinements (.map values)) (evaluateEntry entry registry values path)
      (Checker.collectField field values path) := by
  match entry with
  | .named name (.field schema required) =>
    obtain ⟨_, _, _, heq, -, checker, hs, rfl⟩ := compileAt_entry.1 hc
    cases heq
    have hname : name.isKey = true := hk
    simp only [evaluateEntry, Checker.collectField, hname, Bool.not_true, Bool.false_eq_true,
      if_false]
    cases hv : Value.lookup name values with
    | some v =>
      exact (evaluate_follows schema hs v (path ++ [name])).mono
        fun _ h => h.of_part fun _ => .of_lookup hv
    | none => exact follows_ok _
  | .other w => simp [compileAt_entry] at hc
termination_by structural entry

/-- The evaluator's options are decided by whether they have violations, the checker's by their
verdicts. -/
theorem evaluateAny_follows (options : List Schema) {registry : Registry} {place : String}
    {index : Nat} {checkers : List Checker}
    (hc : compileAll options registry place index = .ok checkers) (v : Value)
    (path : Pointer.Path) :
    Follows (Undecided (optionRefinements checkers) v) (evaluateAny options registry v path)
      (Checker.acceptsAny checkers v) := by
  cases options with
  | nil =>
    cases hc
    exact follows_ok false
  | cons option rest =>
    obtain ⟨checker, ho, others, hr, rfl⟩ := compileAll_cons.1 hc
    have hoption : Follows (Undecided (optionRefinements (checker :: others)) v) _ _ :=
      (evaluate_follows option ho v path).mono fun _ h => h.append_left
    have hverdict : Checker.Agree (Undecided (optionRefinements (checker :: others)) v) _ _ :=
      (checker.agree v path).mono fun _ h => h.append_left
    have hrest : Follows (Undecided (optionRefinements (checker :: others)) v) _ _ :=
      (evaluateAny_follows rest hr v path).mono fun _ h => h.append_right
    exact follows_or hoption hverdict hrest
termination_by structural options

end

/-- Where every test decides, the evaluator and the checker do the same. -/
theorem evaluate_eq_collect (schema : Schema) {registry : Registry} {place : String}
    {checker : Checker} (hc : schema.compileAt registry place = .ok checker)
    (hd : ∀ r ∈ checker.refinements, r.Decides) (v : Value) (path : Pointer.Path) :
    schema.evaluate registry v path = SchemaFailure.ofFault (checker.collect v path) := by
  have hfollows := evaluate_follows schema hc v path
  cases he : schema.evaluate registry v path with
  | error e =>
    obtain ⟨fault, -, hfault⟩ := hfollows.failure e he
    exact absurd hfault (Undecided.of_decides hd)
  | ok violations => rw [hfollows.result violations he, SchemaFailure.ofFault_ok]

/-- A value has the same violations, in the same order, for the evaluator and for the validator
compiled from the schema; neither fails. -/
theorem errors_eq_evaluate {schema : Schema} {registry : Registry} {validator : Validator}
    (hv : Validator.ofSchema schema registry = .ok validator)
    (ha : validator.checker.Answers) (value : Value) :
    ∃ violations, schema.evaluate registry value [] = .ok violations ∧
      validator.errors value = .ok violations := by
  obtain ⟨checker, hc, hv⟩ := bind_eq_ok.1 hv
  obtain rfl := Except.ok.inj hv
  obtain ⟨violations, he, -⟩ := checker.agree_accepts_collect ha.decides value []
  refine ⟨violations, ?_, he⟩
  rw [evaluate_eq_collect schema hc ha.decides value [], he, SchemaFailure.ofFault_ok]

theorem errors_eq_evaluate_account : ∃ validator,
    Validator.ofSchema accountSchema .standard = .ok validator ∧ validator.checker.Answers ∧
    ∃ violations, accountSchema.evaluate .standard accountValue [] = .ok violations ∧
      validator.errors accountValue = .ok violations ∧
      violations.map (fun v => (v.pointer, v.kind)) =
        [("/name", .lengthTooShort), ("/name", .patternMismatch), ("/born", .formatInvalid),
          ("/roles/1", .noAlternativeMatched), ("/age", .unexpectedProperty)] := by
  obtain ⟨validator, hv, ha⟩ := account_answers
  obtain ⟨violations, hevaluate, he⟩ := errors_eq_evaluate hv ha accountValue
  exact ⟨validator, hv, ha, violations, hevaluate, he, account_violations hv he⟩

end Conform
