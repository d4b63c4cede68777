import Conform.Proofs.Checker.Compiled
import Conform.Proofs.Checker.Order
import Conform.Proofs.Checker.Rendering
import Conform.Proofs.Checker.Resemblance
import Conform.Proofs.Checker.Returns
import Conform.Proofs.Schema.Rewriting

/-!
# The order and the grouping of declarations

Schemas that differ in the order or in the grouping of declarations compile to checkers that
resemble each other. A rule is looked at where it is used (`resembles_of_regroups`,
`resembles_of_permutesFields`); that the rest of the schema goes along is proved once for all rules
(`resembles_of_rewritten`).

So the order of alternatives and of fields decides nothing, as long as every test decides
(`Validator.errors_of_rewritten`). One that fails can make the order matter, since a test is only
made if those before it did not decide (`Validator.regrouped_overtaxed`).
-/

namespace Conform

/-! ## Lists that are related item by item -/

section
variable {α β : Type} {r : α → β → Prop}

theorem forall₂_split {a : α} {after : List α} : ∀ {before : List α} {bs : List β},
    List.Forall₂ r (before ++ a :: after) bs → ∃ bs₁ b bs₂, bs = bs₁ ++ b :: bs₂ ∧
      List.Forall₂ r before bs₁ ∧ r a b ∧ List.Forall₂ r after bs₂
  | [], _, .cons h hs => ⟨[], _, _, rfl, .nil, h, hs⟩
  | _ :: _, _, .cons h hs => by
    obtain ⟨bs₁, b, bs₂, rfl, h₁, hb, h₂⟩ := forall₂_split hs
    exact ⟨_ :: bs₁, b, bs₂, rfl, .cons h h₁, hb, h₂⟩

theorem exists_forall₂ : ∀ {as : List α}, (∀ a ∈ as, ∃ b, r a b) → ∃ bs, List.Forall₂ r as bs
  | [], _ => ⟨[], .nil⟩
  | a :: as, h => by
    obtain ⟨⟨b, hb⟩, has⟩ := List.forall_mem_cons.1 h
    obtain ⟨bs, hbs⟩ := exists_forall₂ has
    exact ⟨b :: bs, .cons hb hbs⟩

end

/-! ## Schemas -/

/-- Whatever checker the first schema compiles to, the second compiles to one that resembles it. -/
def Schema.Resembles (R : List Violation → List Violation → Prop) (registry : Registry)
    (s t : Schema) : Prop :=
  ∀ c, s.Compiled registry c → ∃ c', t.Compiled registry c' ∧ Checker.Resembles R c c'

section
variable {R : List Violation → List Violation → Prop} (hR : Checker.ReportRelation R)
  {registry : Registry} {s t : Schema}
include hR

theorem resembles_item {least most : Value} (h : s.Resembles R registry t) :
    (Schema.list s least most).Resembles R registry (.list t least most) := by
  intro c hc
  obtain ⟨minItems, hl, maxItems, hm, inner, hi, hleast, hmost, rfl⟩ := compiled_list.1 hc
  obtain ⟨inner', hi', hinner⟩ := h inner hi
  exact ⟨_, compiled_list.2 ⟨minItems, hl, maxItems, hm, inner', hi', hleast, hmost, rfl⟩,
    hinner.list hR minItems maxItems⟩

theorem resembles_field {name required strict : Value} {before after : List Entry}
    (h : s.Resembles R registry t) :
    (Schema.object (before ++ .named name (.field s required) :: after) strict).Resembles R registry
      (.object (before ++ .named name (.field t required) :: after) strict) := by
  intro c hc
  obtain ⟨fields, hf, hk, hd, rfl⟩ := compiled_object.1 hc
  obtain ⟨fields₁, field, fields₂, rfl, h₁, hfield, h₂⟩ := forall₂_split hf
  obtain ⟨_, _, _, heq, htext, checker, hs, rfl⟩ := compiled_entry.1 hfield
  cases heq
  obtain ⟨checker', ht, hchecker⟩ := h checker hs
  have hfield' : (Entry.named name (.field t required)).Compiled registry
      ⟨name, required.truthy, checker'⟩ :=
    compiled_entry.2 ⟨name, t, required, rfl, htext, checker', ht, rfl⟩
  have hrefl (fields : List FieldChecker) :
      List.Forall₂ (Checker.FieldResembles R) fields fields :=
    List.forall₂_same.2 fun field _ => ⟨rfl, rfl, .refl hR field.checker⟩
  refine ⟨_, compiled_object.2 ⟨fields₁ ++ ⟨name, required.truthy, checker'⟩ :: fields₂,
    List.rel_append h₁ (.cons hfield' h₂), ?_, ?_, rfl⟩, ?_⟩
  · simpa [FieldChecker.name] using hk
  · simpa [FieldChecker.name] using hd
  · apply Checker.Resembles.object hR
    exact List.rel_append (hrefl fields₁) (.cons ⟨rfl, rfl, hchecker⟩ (hrefl fields₂))

theorem resembles_option {before after : List Schema} (h : s.Resembles R registry t) :
    (Schema.union (before ++ s :: after)).Resembles R registry
      (.union (before ++ t :: after)) := by
  intro c hc
  obtain ⟨checkers, ho, rfl⟩ := compiled_union.1 hc
  obtain ⟨checkers₁, checker, checkers₂, rfl, h₁, hs, h₂⟩ := forall₂_split ho
  obtain ⟨checker', ht, hchecker⟩ := h checker hs
  refine ⟨_, compiled_union.2 ⟨checkers₁ ++ checker' :: checkers₂,
    List.rel_append h₁ (.cons ht h₂), rfl⟩, ?_⟩
  apply Checker.Resembles.union hR
  · simp [Checker.mem_optionRefinements, or_and_right, exists_or, hchecker.refinements]
  · intro v hv
    have hdecided : DecidedOn checker.refinements v :=
      hv.mono fun r hr => Checker.mem_optionRefinements.2 ⟨checker, by simp, hr⟩
    obtain ⟨b, hb, hb'⟩ := hchecker.accepts hR hdecided
    simp [or_and_right, exists_or, hb, hb']

/-- If the rules keep the reports, so does using them at any number of places. -/
theorem resembles_of_rewritten {Rule : Schema → Schema → Prop}
    (hrule : ∀ s t, Rule s t → s.Resembles R registry t) (h : Schema.Rewritten Rule s t) :
    s.Resembles R registry t := by
  induction h with
  | refl => exact fun c hc => ⟨c, hc, .refl hR c⟩
  | trans _ _ ih ih' =>
    intro c hc
    obtain ⟨c', hc', h⟩ := ih c hc
    obtain ⟨c'', hc'', h'⟩ := ih' c' hc'
    exact ⟨c'', hc'', h.trans hR h'⟩
  | rule h => exact hrule _ _ h
  | item _ ih => exact resembles_item hR ih
  | field _ ih => exact resembles_field hR ih
  | option _ ih => exact resembles_option hR ih

end

/-! ## Regrouped unions -/

theorem mem_of_compiled {registry : Registry} {options options' : List Schema}
    {checkers checkers' : List Checker} (hsub : options ⊆ options')
    (ho : List.Forall₂ (Schema.Compiled registry) options checkers)
    (ho' : List.Forall₂ (Schema.Compiled registry) options' checkers') : checkers ⊆ checkers' := by
  intro checker hmem
  obtain ⟨option, hoption, hc⟩ := Schema.exists_of_mem_right ho checker hmem
  have hflip : List.Forall₂ (flip (Schema.Compiled registry)) checkers' options' := ho'.flip
  obtain ⟨checker', hmem', hc'⟩ := Schema.exists_of_mem_right hflip option (hsub hoption)
  rwa [hc.unique hc']

theorem resembles_of_regroups {registry : Registry} {s t : Schema} (h : Schema.Regroups s t) :
    s.Resembles Eq registry t := by
  intro c hc
  cases h with
  | @same options options' hsame =>
    obtain ⟨checkers, ho, rfl⟩ := compiled_union.1 hc
    have hflip : List.Forall₂ (flip (Schema.Compiled registry)) checkers options := ho.flip
    obtain ⟨checkers', ho'⟩ := exists_forall₂ fun option hoption => by
      obtain ⟨checker, -, hc⟩ := Schema.exists_of_mem_right hflip option ((hsame option).2 hoption)
      exact ⟨checker, hc⟩
    have hmem : ∀ checker, checker ∈ checkers ↔ checker ∈ checkers' := fun checker =>
      ⟨fun h => mem_of_compiled (fun o => (hsame o).1) ho ho' h,
        fun h => mem_of_compiled (fun o => (hsame o).2) ho' ho h⟩
    refine ⟨_, compiled_union.2 ⟨checkers', ho', rfl⟩, ?_⟩
    apply Checker.Resembles.union Checker.reportRelation_eq
    · simp [Checker.mem_optionRefinements, hmem]
    · simp [hmem]
  | @flatten before inner after =>
    obtain ⟨checkers, ho, rfl⟩ := compiled_union.1 hc
    obtain ⟨checkers₁, checker, checkers₂, rfl, h₁, hu, h₂⟩ := forall₂_split ho
    obtain ⟨checkers', hinner, rfl⟩ := compiled_union.1 hu
    refine ⟨_, compiled_union.2 ⟨checkers₁ ++ checkers' ++ checkers₂,
      List.rel_append (List.rel_append h₁ hinner) h₂, rfl⟩, ?_⟩
    apply Checker.Resembles.union Checker.reportRelation_eq
    · simp [Checker.mem_optionRefinements, or_and_right, exists_or, Checker.refinements]
    · intro v hv
      have hdecided : DecidedOn (optionRefinements checkers') v :=
        hv.mono fun r hr => Checker.mem_optionRefinements.2 ⟨.union checkers', by simp, hr⟩
      simp [or_and_right, exists_or, Checker.accepts_union_iff hdecided]

/-! ## Permuted fields -/

theorem areDistinct_iff_pairwise {names : List Value} :
    areDistinct names = true ↔ names.Pairwise fun name other => name.same other = false := by
  induction names with
  | nil => simp [areDistinct]
  | cons name names ih => simp [areDistinct, ih, Value.isAmong]

theorem areDistinct_perm {names names' : List Value} (h : names.Perm names')
    (hk : names.all Value.isKey = true) (hd : areDistinct names = true) :
    areDistinct names' = true := by
  have hkey : ∀ name ∈ names', name.isKey = true := fun name hname =>
    List.all_eq_true.1 hk name (h.mem_iff.2 hname)
  -- to differ is symmetric between keys only
  have hdiffer : names.Pairwise fun name other =>
      name.isKey = true → other.isKey = true → name.same other = false :=
    (areDistinct_iff_pairwise.1 hd).imp fun h _ _ => h
  have hdiffer' := h.pairwise hdiffer fun {name other} h hother hname => by
    rw [Value.same_comm (.inl hother)]
    exact h hname hother
  exact areDistinct_iff_pairwise.2 (hdiffer'.imp_of_mem fun hname hother h =>
    h (hkey _ hname) (hkey _ hother))

theorem resembles_of_permutesFields {registry : Registry} {s t : Schema}
    (h : Schema.PermutesFields s t) : s.Resembles List.Perm registry t := by
  intro c hc
  cases h with
  | @object entries entries' strict hperm =>
    obtain ⟨fields, hf, hk, hd, rfl⟩ := compiled_object.1 hc
    obtain ⟨fields', hf', hfields⟩ := List.perm_comp_forall₂ hperm.symm hf
    have hnames := hfields.symm.map FieldChecker.name
    refine ⟨_, compiled_object.2 ⟨fields', hf', ?_, areDistinct_perm hnames hk hd, rfl⟩,
      Checker.resembles_of_perm hfields.symm strict.truthy⟩
    rw [← hnames.all_eq, hk]

/-! ## Validators -/

/-- Neither the order and the grouping of alternatives nor the order of fields decides anything. If
a schema compiles, so does every regrouped one, and a value on which all tests decide has the same
violations; if fields are permuted, it has the same verdict, and its violations are permuted. -/
theorem Validator.errors_of_rewritten {schema : Schema} {registry : Registry}
    {validator : Validator} (hv : Validator.ofSchema schema registry = .ok validator) :
    (∀ other, Schema.Regrouped schema other → ∃ validator',
      Validator.ofSchema other registry = .ok validator' ∧
      ∀ value, DecidedOn validator.checker.refinements value → ∃ violations,
        validator.errors value = .ok violations ∧ validator'.errors value = .ok violations) ∧
    ∀ other, Schema.FieldsPermuted schema other → ∃ validator',
      Validator.ofSchema other registry = .ok validator' ∧
      ∀ value, DecidedOn validator.checker.refinements value →
        (∃ b, validator.check value = .ok b ∧ validator'.check value = .ok b) ∧
        ∃ violations violations', validator.errors value = .ok violations ∧
          validator'.errors value = .ok violations' ∧ violations.Perm violations' := by
  obtain ⟨checker, hc, hv⟩ := bind_eq_ok.1 hv
  obtain rfl := Except.ok.inj hv
  have hcompiled : schema.Compiled registry checker := compiled_of_compileAt hc
  have hof {other : Schema} {checker' : Checker} (h : other.Compiled registry checker') :
      Validator.ofSchema other registry = .ok ⟨other, checker'⟩ := by
    rw [Validator.ofSchema, Schema.compile, h "", ok_bind]
  refine ⟨fun other h => ?_, fun other h => ?_⟩
  · obtain ⟨checker', hc', hresembles⟩ := resembles_of_rewritten Checker.reportRelation_eq
      (fun _ _ => resembles_of_regroups) h checker hcompiled
    refine ⟨_, hof hc', fun value hdecided => ?_⟩
    obtain ⟨violations, _, hl, hl', rfl⟩ := hresembles.reports value hdecided []
    exact ⟨violations, hl, hl'⟩
  · obtain ⟨checker', hc', hresembles⟩ := resembles_of_rewritten Checker.reportRelation_perm
      (fun _ _ => resembles_of_permutesFields) h checker hcompiled
    refine ⟨_, hof hc', fun value hdecided => ⟨?_, hresembles.reports value hdecided []⟩⟩
    exact hresembles.accepts Checker.reportRelation_perm hdecided

/-- A day, if only by its name, and a number of seats. -/
def bookingSchema : Schema :=
  .object
    [.named (.str "day") (.field (.union [.union [.string { format := .str "date" }, .null],
      .string { maxLength := .int 3 }]) (.bool true)),
     .named (.str "seats") (.field (.number (.int 1) (.int 4)) (.bool true))]
    (.bool false)

def bookingRegrouped : Schema :=
  .object
    [.named (.str "day") (.field (.union [.null, .string { maxLength := .int 3 }, .null,
      .string { format := .str "date" }]) (.bool true)),
     .named (.str "seats") (.field (.number (.int 1) (.int 4)) (.bool true))]
    (.bool false)

def bookingPermuted : Schema :=
  .object
    [.named (.str "seats") (.field (.number (.int 1) (.int 4)) (.bool true)),
     .named (.str "day") (.field (.union [.union [.string { format := .str "date" }, .null],
      .string { maxLength := .int 3 }]) (.bool true))]
    (.bool false)

def bookingChecker : Checker :=
  .object
    [⟨.str "day", true, .union [.union [.primitive .string [.format "date" (.total Format.isDate)],
      .primitive .null []], .primitive .string [.maxLength 3]]⟩,
     ⟨.str "seats", true, .primitive .number [.minimum (.int 1), .maximum (.int 4)]⟩]
    false

/-- No day, and too many seats. -/
def bookingValue : Value := .map [(.str "day", .str "soon"), (.str "seats", .int 9)]

theorem answers_booking : bookingChecker.Answers := by
  have hall : bookingChecker.refinements = [.format "date" (.total Format.isDate), .maxLength 3,
      .minimum (.int 1), .maximum (.int 4)] := rfl
  refine ⟨fun text program hmem => ?_, fun name format hmem s => ?_⟩
  · simp [hall] at hmem
  · obtain ⟨-, rfl⟩ : name = "date" ∧ format = .total Format.isDate := by simpa [hall] using hmem
    exact ⟨_, conforms_total Format.isDate s⟩

theorem regrouped_booking : Schema.Regrouped bookingSchema bookingRegrouped := by
  have hflat : Schema.Regrouped
      (.union [.union [.string { format := .str "date" }, .null], .string { maxLength := .int 3 }])
      (.union [.string { format := .str "date" }, .null, .string { maxLength := .int 3 }]) :=
    .rule (@Schema.Regroups.flatten [] _ _)
  have hsame : Schema.Regrouped
      (.union [.string { format := .str "date" }, .null, .string { maxLength := .int 3 }])
      (.union [.null, .string { maxLength := .int 3 }, .null,
        .string { format := .str "date" }]) := by
    refine .rule (.same fun option => ?_)
    simp only [List.mem_cons, List.not_mem_nil, or_false]
    tauto
  exact @Schema.Rewritten.field _ _ _ _ _ _ [] _ (.trans hflat hsame)

theorem Validator.errors_booking : ∃ validator regrouped permuted,
    Validator.ofSchema bookingSchema .standard = .ok validator ∧
    Validator.ofSchema bookingRegrouped .standard = .ok regrouped ∧
    Validator.ofSchema bookingPermuted .standard = .ok permuted ∧
    DecidedOn validator.checker.refinements bookingValue ∧
    ∃ violations violations', validator.errors bookingValue = .ok violations ∧
      regrouped.errors bookingValue = .ok violations ∧
      permuted.errors bookingValue = .ok violations' ∧ violations.Perm violations' ∧
      violations.map (fun v => (v.pointer, v.kind)) =
        [("/day", .noAlternativeMatched), ("/seats", .aboveMaximum)] := by
  have hv : Validator.ofSchema bookingSchema .standard = .ok ⟨bookingSchema, bookingChecker⟩ := rfl
  have hdecided : DecidedOn bookingChecker.refinements bookingValue :=
    .of_decides answers_booking.decides
  obtain ⟨hregrouped, hpermuted⟩ := Validator.errors_of_rewritten hv
  obtain ⟨regrouped, hr, hsame⟩ := hregrouped _ regrouped_booking
  obtain ⟨permuted, hp, hperm⟩ := hpermuted bookingPermuted (.rule (.object (.swap _ _ [])))
  obtain ⟨violations, he, her⟩ := hsame bookingValue hdecided
  obtain ⟨-, violations₁, violations', he₁, hep, hviolations⟩ := hperm bookingValue hdecided
  obtain rfl := Except.ok.inj (he.symm.trans he₁)
  have hrun : (bookingChecker.collect bookingValue []).toOption.map
      (List.map fun v => (v.pointer, v.kind)) =
      some [("/day", .noAlternativeMatched), ("/seats", .aboveMaximum)] := by decide +kernel
  have he' : bookingChecker.collect bookingValue [] = .ok violations := he
  rw [he'] at hrun
  exact ⟨_, regrouped, permuted, hv, hr, hp, hdecided, violations, violations', he, her, hep,
    hviolations, Option.some.inj hrun⟩

/-- Two alternatives in the other order, and one more string overtaxes a test. -/
theorem Validator.regrouped_overtaxed :
    ∃ (schema other : Schema) (validator validator' : Validator),
      Schema.Regrouped schema other ∧ Validator.ofSchema schema .standard = .ok validator ∧
      Validator.ofSchema other .standard = .ok validator' ∧
      validator.errors (.str "a{99999999999}") = .ok [] ∧
      validator'.errors (.str "a{99999999999}") = .error .tooLarge := by
  have hpattern : Format.isPattern "a{99999999999}" = .error .tooLarge := by decide +kernel
  obtain ⟨-, hregex, -⟩ := fails_of_overtaxing hpattern
  have hunion : (Checker.union [regexChecker, .primitive .string []]).collect
      (.str "a{99999999999}") [] = .error .tooLarge := by
    rw [Checker.collect, Checker.acceptsAny, hregex, error_bind, error_bind]
  refine ⟨.union [.string {}, regexSchema], .union [regexSchema, .string {}], _, _,
    .rule (.same fun option => ?_), rfl, rfl, rfl, hunion⟩
  simp only [List.mem_cons, List.not_mem_nil, or_false]
  exact or_comm

end Conform
