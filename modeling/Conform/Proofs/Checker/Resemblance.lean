import Conform.Proofs.Checker.Verdict
import Mathlib.Data.List.Forall2

/-!
# Checkers that resemble each other

Two checkers that go through the same tests in another order resemble each other
(`Checker.Resembles`): they hold the same refinements, and on a value on which these decide
(`DecidedOn`) both give a report, the two reports being in a relation. What is asked of the relation
(`ReportRelation`) is that reports can be put together; equality is one, permutation another. Every
node keeps it (`Resembles.list`, `Resembles.object`, `Resembles.union`), and the fields of an object
may be permuted (`resembles_of_perm`).
-/

namespace Conform

/-! ## Values on which tests decide -/

/-- Every refinement accepts or refuses every part of the value. -/
def DecidedOn (refinements : List Refinement) (v : Value) : Prop :=
  ∀ r ∈ refinements, ∀ w : Value, w.PartOf v → ∃ b, r.holds w = .ok b

namespace DecidedOn

variable {rs rs' : List Refinement} {v w : Value}

theorem mono (h : DecidedOn rs v) (hrs : ∀ r ∈ rs', r ∈ rs) : DecidedOn rs' v :=
  fun r hr => h r (hrs r hr)

theorem part (h : DecidedOn rs v) (hw : ∀ x : Value, x.PartOf w → x.PartOf v) : DecidedOn rs w :=
  fun r hr x hx => h r hr x (hw x hx)

theorem of_decides (h : ∀ r ∈ rs, r.Decides) : DecidedOn rs v := fun r hr w _ => h r hr w

theorem not_undecided (h : DecidedOn rs v) {fault : Fault} : ¬ Undecided rs v fault := by
  rintro ⟨r, hr, w, hw, hfault⟩
  obtain ⟨b, hb⟩ := h r hr w hw
  rw [hb] at hfault
  cases hfault

end DecidedOn

namespace Checker

theorem mem_optionRefinements {r : Refinement} : ∀ {options : List Checker},
    r ∈ optionRefinements options ↔ ∃ option ∈ options, r ∈ option.refinements
  | [] => by simp [optionRefinements]
  | option :: options => by simp [optionRefinements, mem_optionRefinements]

theorem mem_fieldRefinements {r : Refinement} : ∀ {fields : List FieldChecker},
    r ∈ fieldRefinements fields ↔ ∃ field ∈ fields, r ∈ field.refinements
  | [] => by simp [fieldRefinements]
  | field :: fields => by simp [fieldRefinements, mem_fieldRefinements]

/-- Where every test decides, there are a report and the verdict that goes with it. -/
theorem exists_report (c : Checker) {v : Value} (h : DecidedOn c.refinements v)
    (path : Pointer.Path) :
    ∃ l, c.collect v path = .ok l ∧ c.accepts v = .ok l.isEmpty := by
  have hagree := agree c v path
  cases hcollect : c.collect v path with
  | error fault => exact absurd (hagree.cause_of_report fault hcollect) h.not_undecided
  | ok l => exact ⟨l, rfl, hagree.verdict_of_report l hcollect⟩

theorem acceptsAny_eq {v : Value} : ∀ {options : List Checker},
    (∀ option ∈ options, ∃ b, option.accepts v = .ok b) → ∃ b, acceptsAny options v = .ok b ∧
      (b = true ↔ ∃ option ∈ options, option.accepts v = .ok true)
  | [], _ => ⟨false, rfl, by simp⟩
  | option :: options, h => by
    obtain ⟨⟨b, hb⟩, hrest⟩ := List.forall_mem_cons.1 h
    obtain ⟨b', hb', hiff⟩ := acceptsAny_eq hrest
    rw [acceptsAny, hb, ok_bind]
    cases b with
    | true => exact ⟨true, rfl, by simp [hb]⟩
    | false => exact ⟨b', hb', by simp [hb, hiff]⟩

/-- Where every test decides, a union accepts what one of its options does. -/
theorem exists_verdict {options : List Checker} {v : Value}
    (h : DecidedOn (optionRefinements options) v) : ∃ b, acceptsAny options v = .ok b ∧
      (b = true ↔ ∃ option ∈ options, option.accepts v = .ok true) := by
  apply acceptsAny_eq
  intro option ho
  have hoption : DecidedOn option.refinements v :=
    h.mono fun r hr => mem_optionRefinements.2 ⟨option, ho, hr⟩
  obtain ⟨l, -, ha⟩ := option.exists_report hoption []
  exact ⟨l.isEmpty, ha⟩

theorem accepts_union_iff {options : List Checker} {v : Value}
    (h : DecidedOn (optionRefinements options) v) :
    (Checker.union options).accepts v = .ok true ↔
      ∃ option ∈ options, option.accepts v = .ok true := by
  obtain ⟨b, hb, hiff⟩ := exists_verdict h
  simp only [accepts, hb, Except.ok.injEq, hiff]

/-! ## Related reports -/

/-- A relation of reports that holds of a whole if it holds of the parts, and of an empty report
only with an empty one. -/
structure ReportRelation (R : List Violation → List Violation → Prop) : Prop where
  refl : ∀ l, R l l
  trans : ∀ l l' l'', R l l' → R l' l'' → R l l''
  append : ∀ l l' m m', R l l' → R m m' → R (l ++ m) (l' ++ m')
  isEmpty : ∀ l l', R l l' → l.isEmpty = l'.isEmpty

theorem reportRelation_eq : ReportRelation Eq where
  refl _ := rfl
  trans _ _ _ := Eq.trans
  append := by rintro _ _ _ _ rfl rfl; rfl
  isEmpty := by rintro _ _ rfl; rfl

theorem reportRelation_perm : ReportRelation List.Perm where
  refl := List.Perm.refl
  trans _ _ _ := List.Perm.trans
  append _ _ _ _ := List.Perm.append
  isEmpty _ _ := List.Perm.isEmpty_eq

/-- Both reports are given, and they are in the relation. -/
def BothReport (R : List Violation → List Violation → Prop)
    (report report' : Except Fault (List Violation)) : Prop :=
  ∃ l l', report = .ok l ∧ report' = .ok l' ∧ R l l'

/-- The checkers hold the same refinements, and where these decide, they give reports that are in
the relation. -/
structure Resembles (R : List Violation → List Violation → Prop) (c c' : Checker) : Prop where
  refinements : ∀ r, r ∈ c.refinements ↔ r ∈ c'.refinements
  reports : ∀ v, DecidedOn c.refinements v → ∀ path,
    BothReport R (c.collect v path) (c'.collect v path)

section
variable {R : List Violation → List Violation → Prop} (hR : ReportRelation R)
include hR

theorem BothReport.append {x x' y y' : Except Fault (List Violation)} (hx : BothReport R x x')
    (hy : BothReport R y y') :
    BothReport R
      (do
        let found ← x
        let others ← y
        .ok (found ++ others))
      (do
        let found ← x'
        let others ← y'
        .ok (found ++ others)) := by
  obtain ⟨l, l', rfl, rfl, hl⟩ := hx
  obtain ⟨m, m', rfl, rfl, hm⟩ := hy
  exact ⟨l ++ m, l' ++ m', rfl, rfl, hR.append l l' m m' hl hm⟩

theorem Resembles.refl (c : Checker) : Resembles R c c := by
  refine ⟨fun _ => Iff.rfl, fun v hv path => ?_⟩
  obtain ⟨l, hl, -⟩ := c.exists_report hv path
  exact ⟨l, l, hl, hl, hR.refl l⟩

theorem Resembles.trans {c c' c'' : Checker} (h : Resembles R c c') (h' : Resembles R c' c'') :
    Resembles R c c'' := by
  refine ⟨fun r => (h.refinements r).trans (h'.refinements r), fun v hv path => ?_⟩
  obtain ⟨l, m, hl, hm, hlm⟩ := h.reports v hv path
  have hv' : DecidedOn c'.refinements v := hv.mono fun r => (h.refinements r).2
  obtain ⟨m', n, hm', hn, hmn⟩ := h'.reports v hv' path
  obtain rfl := Except.ok.inj (hm.symm.trans hm')
  exact ⟨l, n, hl, hn, hR.trans l m n hlm hmn⟩

/-- Checkers that resemble each other give the same verdict. -/
theorem Resembles.accepts {c c' : Checker} (h : Resembles R c c') {v : Value}
    (hv : DecidedOn c.refinements v) : ∃ b, c.accepts v = .ok b ∧ c'.accepts v = .ok b := by
  have hv' : DecidedOn c'.refinements v := hv.mono fun r => (h.refinements r).2
  obtain ⟨l, hl, ha⟩ := c.exists_report hv []
  obtain ⟨l', hl', ha'⟩ := c'.exists_report hv' []
  obtain ⟨m, m', hm, hm', hR'⟩ := h.reports v hv []
  obtain rfl := Except.ok.inj (hl.symm.trans hm)
  obtain rfl := Except.ok.inj (hl'.symm.trans hm')
  rw [← hR.isEmpty l l' hR'] at ha'
  exact ⟨l.isEmpty, ha, ha'⟩

end

/-! ## Fields -/

/-- Fields of the same name, both required or both not, with checkers that resemble each other. -/
structure FieldResembles (R : List Violation → List Violation → Prop)
    (field field' : FieldChecker) : Prop where
  name : field.name = field'.name
  required : field.required = field'.required
  checker : Resembles R field.checker field'.checker

section
variable {R : List Violation → List Violation → Prop} {fields fields' : List FieldChecker}

theorem names_eq (h : List.Forall₂ (FieldResembles R) fields fields') :
    fields.map FieldChecker.name = fields'.map FieldChecker.name := by
  induction h with
  | nil => rfl
  | cons h _ ih => rw [List.map_cons, List.map_cons, h.name, ih]

theorem mem_fieldRefinements_iff (h : List.Forall₂ (FieldResembles R) fields fields')
    (r : Refinement) : r ∈ fieldRefinements fields ↔ r ∈ fieldRefinements fields' := by
  induction h with
  | nil => rfl
  | @cons field field' _ _ h _ ih =>
    obtain ⟨name, required, checker⟩ := field
    obtain ⟨name', required', checker'⟩ := field'
    simp only [fieldRefinements, List.mem_append, ih]
    exact or_congr_left (h.checker.refinements r)

end

section
variable {R : List Violation → List Violation → Prop} (hR : ReportRelation R)
include hR

/-! ## Lists -/

theorem bothReport_items {f f' : Nat → Value → Except Fault (List Violation)} :
    ∀ {items : List Value} (index : Nat),
      (∀ index, ∀ w ∈ items, BothReport R (f index w) (f' index w)) →
      BothReport R (collectFrom f index items) (collectFrom f' index items)
  | [], _, _ => ⟨[], [], rfl, rfl, hR.refl []⟩
  | w :: items, index, h => by
    have hw := h index w List.mem_cons_self
    have hitems := bothReport_items (index + 1) fun i x hx => h i x (List.mem_cons_of_mem w hx)
    exact BothReport.append hR hw hitems

theorem Resembles.list {item item' : Checker} (h : Resembles R item item')
    (minItems maxItems : Option Nat) :
    Resembles R (.list item minItems maxItems) (.list item' minItems maxItems) := by
  refine ⟨h.refinements, fun v hv path => ?_⟩
  simp only [collect]
  cases hitems : v.items? with
  | none => exact ⟨_, _, rfl, rfl, hR.refl _⟩
  | some items =>
    have hinner : BothReport R
        (collectFrom (fun index w => item.collect w (path ++ [.int index])) 0 items)
        (collectFrom (fun index w => item'.collect w (path ++ [.int index])) 0 items) := by
      apply bothReport_items hR
      intro index w hw
      exact h.reports w (hv.part fun x => .item hitems hw) _
    obtain ⟨l, l', hl, hl', hll⟩ := hinner
    simp only [hl, hl', ok_bind]
    exact ⟨_, _, rfl, rfl, hR.append _ _ l l' (hR.refl _) hll⟩

/-! ## Objects -/

theorem bothReport_field {field field' : FieldChecker} (h : FieldResembles R field field')
    {entries : List (Value × Value)} (hv : DecidedOn field.refinements (.map entries))
    (path : Pointer.Path) :
    BothReport R (collectField field entries path) (collectField field' entries path) := by
  obtain ⟨name, required, checker⟩ := field
  obtain ⟨name', required', checker'⟩ := field'
  obtain ⟨rfl, rfl, hc⟩ : name = name' ∧ required = required' ∧ Resembles R checker checker' :=
    ⟨h.name, h.required, h.checker⟩
  simp only [collectField]
  cases hw : Value.lookup name entries with
  | some w => exact hc.reports w (hv.part fun x => .of_lookup hw) _
  | none => exact ⟨_, _, rfl, rfl, hR.refl _⟩

theorem bothReport_fields {entries : List (Value × Value)} (path : Pointer.Path) :
    ∀ {fields fields' : List FieldChecker}, List.Forall₂ (FieldResembles R) fields fields' →
      DecidedOn (fieldRefinements fields) (.map entries) →
      BothReport R (collectFields fields entries path) (collectFields fields' entries path)
  | _, _, .nil, _ => ⟨[], [], rfl, rfl, hR.refl []⟩
  | field :: fields, _, .cons h hs, hv => by
    have hfield : DecidedOn field.refinements (.map entries) :=
      hv.mono fun r hr => List.mem_append_left _ hr
    have hfields : DecidedOn (fieldRefinements fields) (.map entries) :=
      hv.mono fun r hr => List.mem_append_right _ hr
    exact BothReport.append hR (bothReport_field hR h hfield path)
      (bothReport_fields path hs hfields)

theorem Resembles.object {fields fields' : List FieldChecker}
    (h : List.Forall₂ (FieldResembles R) fields fields') (strict : Bool) :
    Resembles R (.object fields strict) (.object fields' strict) := by
  refine ⟨mem_fieldRefinements_iff h, fun v hv path => ?_⟩
  have hnames := names_eq h
  cases v with
  | map entries =>
    obtain ⟨l, l', hl, hl', hll⟩ := bothReport_fields hR path h hv
    simp only [collect, hl, hl', hnames, ok_bind]
    exact ⟨_, _, rfl, rfl, hR.append l l' _ _ hll (hR.refl _)⟩
  | _ => exact ⟨_, _, rfl, rfl, hR.refl _⟩

/-! ## Unions -/

/-- A union is asked only whether one of its options accepts. -/
theorem Resembles.union {options options' : List Checker}
    (hr : ∀ r, r ∈ optionRefinements options ↔ r ∈ optionRefinements options')
    (h : ∀ v, DecidedOn (optionRefinements options) v →
      ((∃ option ∈ options, option.accepts v = .ok true) ↔
        ∃ option ∈ options', option.accepts v = .ok true)) :
    Resembles R (.union options) (.union options') := by
  refine ⟨hr, fun v hv path => ?_⟩
  obtain ⟨b, hb, hiff⟩ := exists_verdict hv
  obtain ⟨b', hb', hiff'⟩ := exists_verdict (hv.mono fun r => (hr r).2)
  have hbb : b = b' := by rw [Bool.eq_iff_iff, hiff, hiff', h v hv]
  subst hbb
  simp only [collect, hb, hb', ok_bind]
  exact ⟨_, _, rfl, rfl, hR.refl _⟩

end

/-! ## Fields in another order -/

theorem collectFields_perm {fields fields' : List FieldChecker} {entries : List (Value × Value)}
    {path : Pointer.Path} (h : fields.Perm fields') {l : List Violation}
    (hl : collectFields fields entries path = .ok l) :
    ∃ l', collectFields fields' entries path = .ok l' ∧ l.Perm l' := by
  induction h generalizing l with
  | nil => exact ⟨l, hl, .refl l⟩
  | cons field _ ih =>
    obtain ⟨found, hf, hl⟩ := bind_eq_ok.1 hl
    obtain ⟨others, ho, hl⟩ := bind_eq_ok.1 hl
    obtain rfl := Except.ok.inj hl
    obtain ⟨others', ho', hperm⟩ := ih ho
    refine ⟨found ++ others', ?_, hperm.append_left found⟩
    rw [collectFields, hf, ok_bind, ho', ok_bind]
  | swap field field' fields =>
    obtain ⟨found, hf, hl⟩ := bind_eq_ok.1 hl
    obtain ⟨rest, hrest, hl⟩ := bind_eq_ok.1 hl
    obtain ⟨found', hf', hrest⟩ := bind_eq_ok.1 hrest
    obtain ⟨others, ho, hrest⟩ := bind_eq_ok.1 hrest
    obtain rfl := Except.ok.inj hl
    obtain rfl := Except.ok.inj hrest
    refine ⟨found' ++ (found ++ others), ?_, ?_⟩
    · simp only [collectFields, hf, hf', ho, ok_bind]
    · rw [← List.append_assoc, ← List.append_assoc]
      exact List.perm_append_comm.append_right others
  | trans _ _ ih ih' =>
    obtain ⟨m, hm, hlm⟩ := ih hl
    obtain ⟨n, hn, hmn⟩ := ih' hm
    exact ⟨n, hn, hlm.trans hmn⟩

theorem resembles_of_perm {fields fields' : List FieldChecker} (h : fields.Perm fields')
    (strict : Bool) : Resembles List.Perm (.object fields strict) (.object fields' strict) := by
  refine ⟨fun r => ?_, fun v hv path => ?_⟩
  · simp only [Checker.refinements, mem_fieldRefinements, h.mem_iff]
  · cases v with
    | map entries =>
      obtain ⟨l, hl, -⟩ := (Checker.object fields strict).exists_report hv path
      obtain ⟨found, hf, hl⟩ := bind_eq_ok.1 hl
      obtain rfl := Except.ok.inj hl
      obtain ⟨found', hf', hperm⟩ := collectFields_perm h hf
      have hkeys : unexpectedKeys (fields'.map FieldChecker.name) entries =
          unexpectedKeys (fields.map FieldChecker.name) entries := by
        unfold unexpectedKeys Value.isAmong
        simp only [(h.map FieldChecker.name).any_eq]
      simp only [collect, hf, hf', hkeys, ok_bind]
      exact ⟨_, _, rfl, rfl, hperm.append_right _⟩
    | _ => exact ⟨_, _, rfl, rfl, .refl _⟩

end Checker

end Conform
