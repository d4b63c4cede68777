import Conform.Proofs.Checker.Rendering
import Conform.Proofs.Checker.Verdict
import Conform.Proofs.Schema.Validity

/-!
# A schema and its rendering mean the same

The checker of a schema asks for the type first and stops at the first failure; the rendered schema
is a mapping of keywords that all have to be met. `Settles x p` relates the two for one value:
whenever the verdict `x` is given, it says whether `p` holds. Verdicts are made by `and` and `or`
(`Settles.and`, `Settles.or`), which match how keywords and options are taken apart, so the two
agree part by part and from there on whole schemas (`agrees_of_compile`).

`Schema.Portable` is what JSON can express of a schema; values are JSON data throughout.
-/

namespace Conform

open Schema

/-! ## Refinements -/

theorem allHold_append (v : Value) : ∀ rs rs' : List Refinement,
    Refinement.allHold (rs ++ rs') v =
      (do if ← Refinement.allHold rs v then Refinement.allHold rs' v else .ok false)
  | [], _ => rfl
  | r :: rs, rs' => by
    simp only [List.cons_append, Refinement.allHold, allHold_append v rs rs']
    cases r.holds v with
    | error e => rfl
    | ok b => cases b <;> rfl

theorem settles_refinements {v : Value} {p q : Prop} {rs rs' : List Refinement}
    (h : Settles (Refinement.allHold rs v) p) (h' : Settles (Refinement.allHold rs' v) q) :
    Settles (Refinement.allHold (rs ++ rs') v) (p ∧ q) := by
  rw [allHold_append]
  exact h.and h'

section
variable {registry : Registry} {keywords : List (Value × Value)} {place : String}

theorem settles_absent (keyword : Keyword) (v : Value) :
    Settles (Refinement.allHold [] v)
      (Holds registry keywords (Conform.keyword keyword.name .null) v) :=
  .of_iff (iff_of_true rfl ((holds_keyword keyword).2 fun h => absurd rfl h))

theorem settles_given (keyword : Keyword) {arg v : Value} {r : Refinement} (hne : arg ≠ .null)
    (h : Settles (r.holds v) (Meets registry keywords keyword arg v)) :
    Settles (Refinement.allHold [r] v)
      (Holds registry keywords (Conform.keyword keyword.name arg) v) := by
  have hnone : Settles (Refinement.allHold [] v) True := .of_iff (by simp)
  refine (h.and hnone).congr ?_
  rw [holds_keyword]
  simp [hne]

theorem settles_minLength {name : String} {bound : Value} {least : Option Nat}
    (h : readCount name place bound = .ok least) (s : String) :
    Settles (Refinement.allHold (least.map .minLength).toList (.str s))
      (Holds registry keywords (keyword "minLength" bound) (.str s)) := by
  rcases readCount_eq_ok.1 h with ⟨rfl, rfl⟩ | ⟨n, rfl, rfl⟩
  · exact settles_absent .minLength _
  · exact settles_given .minLength Value.noConfusion (.of_iff (by simp [meets_minLength_iff]))

theorem settles_maxLength {name : String} {bound : Value} {most : Option Nat}
    (h : readCount name place bound = .ok most) (s : String) :
    Settles (Refinement.allHold (most.map .maxLength).toList (.str s))
      (Holds registry keywords (keyword "maxLength" bound) (.str s)) := by
  rcases readCount_eq_ok.1 h with ⟨rfl, rfl⟩ | ⟨n, rfl, rfl⟩
  · exact settles_absent .maxLength _
  · exact settles_given .maxLength Value.noConfusion (.of_iff (by simp [meets_maxLength_iff]))

theorem settles_pattern {v : Value} {pattern : Option (String × Pattern.Program)}
    (h : whenGiven v requirePattern = .ok pattern) (s : String) :
    Settles (Refinement.allHold
        (pattern.map fun (text, program) => .pattern text program).toList (.str s))
      (Holds registry keywords (keyword "pattern" v) (.str s)) := by
  rcases whenGiven_eq_ok.1 h with ⟨rfl, rfl⟩ | ⟨hne, ⟨text, program⟩, hp, rfl⟩
  · exact settles_absent .pattern _
  · obtain ⟨rfl, hprogram⟩ := requirePattern_eq_ok.1 hp
    refine settles_given .pattern hne fun b hb => ?_
    have hsearch : program.search s = .ok b := hb
    simp [meets_pattern_iff, hprogram, hsearch]

theorem settles_format {v : Value} {format : Option Format}
    (h : whenGiven v registry.resolve = .ok format) (s : String) :
    Settles (Refinement.allHold (format.map fun format => .format v.text format).toList (.str s))
      (Holds registry keywords (keyword "format" v) (.str s)) := by
  rcases whenGiven_eq_ok.1 h with ⟨rfl, rfl⟩ | ⟨hne, format, hf, rfl⟩
  · exact settles_absent .format _
  · obtain ⟨name, rfl, hname⟩ := resolve_eq_ok.1 hf
    refine settles_given .format hne fun b hb => ?_
    have hconforms : format.conforms s = .ok b := hb
    simp [meets_format_iff, hname, hconforms]

/-- A bound is finite unless it is a double that is not. -/
def FiniteBound (bound : Value) : Prop := ∀ x, bound = .float x → x.isFinite = true

theorem FiniteBound.number? {bound : Value} (h : FiniteBound bound)
    (hb : (∃ n, bound = .int n) ∨ ∃ x, bound = .float x) :
    bound ≠ .null ∧ ∃ y, bound.number? = some y := by
  rcases hb with ⟨n, rfl⟩ | ⟨x, rfl⟩
  · exact ⟨Value.noConfusion, n, rfl⟩
  · exact ⟨Value.noConfusion, Value.number?_of_isFinite (h x rfl)⟩

theorem settles_minimum {name : String} {bound v : Value} {least : Option Value} {x : Rat}
    (h : readBound name place bound = .ok least) (hfinite : FiniteBound bound)
    (hv : v.number? = some x) :
    Settles (Refinement.allHold (least.map .minimum).toList v)
      (Holds registry keywords (keyword "minimum" bound) v) := by
  rcases readBound_eq_ok.1 h with ⟨rfl, rfl⟩ | ⟨hb, rfl⟩
  · exact settles_absent .minimum v
  · obtain ⟨hne, y, hy⟩ := hfinite.number? hb
    have hholds : (Refinement.minimum bound).holds v = .ok !v.isBelow bound := by cases v <;> rfl
    refine settles_given .minimum hne ?_
    rw [hholds]
    refine .of_iff ?_
    rw [Bool.not_eq_true', ← Bool.not_eq_true, Value.isBelow_iff hv hy, meets_minimum_iff hv]
    simp only [hy, Rat.not_lt, Option.some.injEq, exists_eq_left']

theorem settles_maximum {name : String} {bound v : Value} {most : Option Value} {x : Rat}
    (h : readBound name place bound = .ok most) (hfinite : FiniteBound bound)
    (hv : v.number? = some x) :
    Settles (Refinement.allHold (most.map .maximum).toList v)
      (Holds registry keywords (keyword "maximum" bound) v) := by
  rcases readBound_eq_ok.1 h with ⟨rfl, rfl⟩ | ⟨hb, rfl⟩
  · exact settles_absent .maximum v
  · obtain ⟨hne, y, hy⟩ := hfinite.number? hb
    have hholds : (Refinement.maximum bound).holds v = .ok !bound.isBelow v := by cases v <;> rfl
    refine settles_given .maximum hne ?_
    rw [hholds]
    refine .of_iff ?_
    rw [Bool.not_eq_true', ← Bool.not_eq_true, Value.isBelow_iff hy hv, meets_maximum_iff hv]
    simp only [hy, Rat.not_lt, Option.some.injEq, exists_eq_left']

end

/-! ## Whole schemas -/

/-- What JSON can express of a schema: kinds are known, bounds that are doubles are finite, literals
are JSON data, and fields are named by strings. -/
inductive Schema.Portable : Schema → Prop
  | primitive {kind : Kind} {r : Refinements} :
      FiniteBound r.minimum → FiniteBound r.maximum → Portable (.primitive (.known kind) r)
  | literal {value : Value} : value.IsJson → Portable (.literal value)
  | list {item : Schema} (minItems maxItems : Value) :
      Portable item → Portable (.list item minItems maxItems)
  | object {entries : List Entry} (strict : Value) :
      (∀ entry ∈ entries, ∃ name node, entry = .named (.str name) node) →
      (∀ name schema required, .named name (.field schema required) ∈ entries → Portable schema) →
      Portable (.object entries strict)
  | union {options : List Schema} :
      (∀ option ∈ options, Portable option) → Portable (.union options)

/-- On JSON data, the checker decides validity against the rendered schema. -/
def Agrees (registry : Registry) (checker : Checker) (rendered : Value) : Prop :=
  ∀ v : Value, v.IsJson → Settles (checker.accepts v) (Valid registry rendered v)

section
variable {registry : Registry} {place : String}

theorem jsonType?_eq_kind_iff {v : Value} (hv : v.IsJson) (kind : Kind) :
    v.jsonType? = some kind.name ↔ kind.includes v = true := by
  cases hv with
  | float hfinite => cases kind <;> simp [Value.jsonType?, Kind.name, Kind.includes,
      Value.isString, Value.isNumber, Value.isBoolean, Value.isNull, hfinite]
  | _ => cases kind <;> simp [Value.jsonType?, Kind.name, Kind.includes,
      Value.isString, Value.isNumber, Value.isBoolean, Value.isNull]

variable {keywords : List (Value × Value)} {r : Refinements} {v : Value}

theorem holds_of_not_string (hv : v.isString = false) :
    Holds registry keywords (keyword "minLength" r.minLength ++ keyword "maxLength" r.maxLength ++
      keyword "pattern" r.pattern ++ keyword "format" r.format) v := by
  have h (arg : Value) : ∀ keyword ∈ [Keyword.minLength, .maxLength, .pattern, .format],
      Meets registry keywords keyword arg v := meets_of_not_string hv arg
  simp only [List.forall_mem_cons] at h
  simp only [holds_append, and_assoc]
  exact ⟨(holds_keyword .minLength).2 fun _ => (h _).1,
    (holds_keyword .maxLength).2 fun _ => (h _).2.1,
    (holds_keyword .pattern).2 fun _ => (h _).2.2.1,
    (holds_keyword .format).2 fun _ => (h _).2.2.2.1⟩

theorem holds_of_not_number (hv : v.number? = none) :
    Holds registry keywords (keyword "minimum" r.minimum ++ keyword "maximum" r.maximum) v := by
  have h (arg : Value) : ∀ keyword ∈ [Keyword.minimum, .maximum],
      Meets registry keywords keyword arg v := meets_of_not_number hv arg
  simp only [List.forall_mem_cons] at h
  exact holds_append.2 ⟨(holds_keyword .minimum).2 fun _ => (h _).1,
    (holds_keyword .maximum).2 fun _ => (h _).2.1⟩

/-- The refinements that are compiled for a kind are the keywords that constrain values of that
kind; all other keywords are met by them. -/
theorem settles_ofKind {kind : Kind} {rs : List Refinement}
    (h : r.ofKind registry place kind = .ok rs)
    (hleast : FiniteBound r.minimum) (hmost : FiniteBound r.maximum)
    (hv : v.IsJson) (hk : kind.includes v = true) :
    Settles (Refinement.allHold rs v) (Holds registry keywords (refinementKeywords r) v) := by
  have happ : Holds registry keywords (refinementKeywords r) v ↔
      Holds registry keywords (keyword "minLength" r.minLength ++ keyword "maxLength" r.maxLength ++
        keyword "pattern" r.pattern ++ keyword "format" r.format) v ∧
      Holds registry keywords (keyword "minimum" r.minimum ++ keyword "maximum" r.maximum) v := by
    rw [refinementKeywords, List.append_assoc _ (keyword "minimum" _), holds_append]
  refine Settles.congr ?_ happ.symm
  cases kind with
  | string =>
    obtain ⟨s, rfl⟩ : ∃ s, v = .str s := by cases v <;> first | exact ⟨_, rfl⟩ | cases hk
    obtain ⟨least, hl, most, hm, -, -, pattern, hp, format, hf, rfl⟩ :=
      Refinements.ofString_eq_ok.1 h
    rw [iff_true_intro (holds_of_not_number rfl), and_true]
    simp only [holds_append]
    exact settles_refinements (settles_refinements (settles_refinements (settles_minLength hl s)
      (settles_maxLength hm s)) (settles_pattern hp s)) (settles_format hf s)
  | number =>
    obtain ⟨least, hl, most, hm, -, -, rfl⟩ := Refinements.ofNumber_eq_ok.1 h
    obtain ⟨x, hx⟩ : ∃ x, v.number? = some x := by
      cases v with
      | int n => exact ⟨n, rfl⟩
      | float y => exact Value.number?_of_isFinite hk
      | _ => cases hk
    have hstring : v.isString = false := by cases v <;> first | rfl | cases hk
    rw [iff_true_intro (holds_of_not_string hstring), true_and, holds_append]
    exact settles_refinements (settles_minimum hl hleast hx) (settles_maximum hm hmost hx)
  | boolean | null =>
    obtain rfl := Except.ok.inj h
    have hstring : v.isString = false := by cases v <;> first | rfl | cases hk
    have hnumber : v.number? = none := by cases v <;> first | rfl | cases hk
    exact .of_iff (iff_of_true rfl ⟨holds_of_not_string hstring, holds_of_not_number hnumber⟩)

theorem agrees_primitive {kind : Kind} {rs : List Refinement}
    (h : r.ofKind registry place kind = .ok rs)
    (hleast : FiniteBound r.minimum) (hmost : FiniteBound r.maximum) :
    Agrees registry (.primitive kind rs) (.map (primitiveKeywords kind r)) := by
  intro v hv
  have hvalid : Valid registry (.map (primitiveKeywords kind r)) v ↔ kind.includes v = true ∧
      Holds registry (primitiveKeywords kind r) (refinementKeywords r) v := by
    rw [valid_iff_holds, ← jsonType?_eq_kind_iff hv, ← meets_type_iff]
    exact holds_cons .type
  refine Settles.congr ?_ hvalid.symm
  simp only [Checker.accepts]
  cases hk : kind.includes v with
  | true => exact (settles_ofKind h hleast hmost hv hk).congr (and_iff_right rfl).symm
  | false => exact .of_iff (by simp)

theorem agrees_literal {expected : Value} (h : expected.IsJson) :
    Agrees registry (.literal expected) (.map [(.str "const", expected)]) := by
  intro v hv
  refine .of_iff ?_
  rw [Value.deepEqual_iff_jsonEqual hv h, valid_iff_holds, ← meets_const_iff]
  exact ((holds_cons .const).trans (and_iff_left holds_nil)).symm

/-! ### Lists -/

theorem atLeast_iff {name : String} {bound : Value} {least : Option Nat}
    (h : readCount name place bound = .ok least) (elements : List Value) :
    Checker.atLeast least elements.length = true ↔
      Holds registry keywords (keyword "minItems" bound) (.list elements) := by
  rw [show "minItems" = Keyword.minItems.name from rfl, holds_keyword, meets_minItems_iff]
  rcases readCount_eq_ok.1 h with ⟨rfl, rfl⟩ | ⟨n, rfl, rfl⟩ <;> simp [Checker.atLeast]

theorem atMost_iff {name : String} {bound : Value} {most : Option Nat}
    (h : readCount name place bound = .ok most) (elements : List Value) :
    Checker.atMost most elements.length = true ↔
      Holds registry keywords (keyword "maxItems" bound) (.list elements) := by
  rw [show "maxItems" = Keyword.maxItems.name from rfl, holds_keyword, meets_maxItems_iff]
  rcases readCount_eq_ok.1 h with ⟨rfl, rfl⟩ | ⟨n, rfl, rfl⟩ <;> simp [Checker.atMost]

theorem valid_list_iff {item minItems maxItems : Value} {elements : List Value} :
    Valid registry (.map (listKeywords item minItems maxItems)) (.list elements) ↔
      (Holds registry (listKeywords item minItems maxItems) (keyword "minItems" minItems)
          (.list elements) ∧
        Holds registry (listKeywords item minItems maxItems) (keyword "maxItems" maxItems)
          (.list elements)) ∧
      ∀ w ∈ elements, Valid registry item w := by
  have hhead {keywords} :
      Holds registry keywords [(.str "type", .str "array"), (.str "items", item)] (.list elements) ↔
        Meets registry keywords .type (.str "array") (.list elements) ∧
          Meets registry keywords .items item (.list elements) ∧
          Holds registry keywords [] (.list elements) :=
    (holds_cons .type).trans (and_congr_right fun _ => holds_cons .items)
  have htype {keywords} : Meets registry keywords .type (.str "array") (.list elements) := .type rfl
  rw [valid_iff_holds]
  conv_lhs => rw [listKeywords, holds_append, holds_append, ← listKeywords, hhead]
  rw [iff_true_intro htype, iff_true_intro holds_nil, true_and, and_true, meets_items_iff,
    and_assoc, and_comm]

theorem agrees_list {item : Checker} {rendered minItems maxItems : Value} {least most : Option Nat}
    (hl : readCount "min_items" place minItems = .ok least)
    (hm : readCount "max_items" place maxItems = .ok most) (h : Agrees registry item rendered) :
    Agrees registry (.list item least most)
      (.map (listKeywords rendered minItems maxItems)) := by
  intro v hv
  cases hv with
  | @list elements hitems =>
    refine Settles.congr ?_ valid_list_iff.symm
    refine (Settles.of_iff ?_).and (settles_allPass fun w hw => h w (hitems w hw))
    rw [Bool.and_eq_true, atLeast_iff hl, atMost_iff hm]
  | _ =>
    refine .of_iff (iff_of_false Bool.false_ne_true fun hvalid => ?_)
    have htype := jsonType?_of_valid hvalid List.mem_cons_self
    simp [Value.jsonType?] at htype

/-! ### Objects -/

/-- A field is checked if it is there, and has to be there if it is required. -/
theorem settles_acceptsField {field : FieldChecker} {property : Value × Value}
    (h : FieldRelated (Agrees registry) field property) {names : List String}
    {entries : List (Value × Value)} (hk : entries.map (·.1) = names.map .str) (hn : names.Nodup)
    (hjson : ∀ entry ∈ entries, entry.2.IsJson) :
    Settles (Checker.acceptsField field entries)
      ((∀ w, (property.1, w) ∈ entries → Valid registry property.2 w) ∧
        (field.required = true → field.name ∈ entries.map (·.1))) := by
  obtain ⟨_, required, checker⟩ := field
  obtain ⟨_, schema⟩ := property
  obtain ⟨⟨s, rfl⟩, rfl, hc⟩ := h
  have hmem (w : Value) := Value.lookup_str_iff_mem (s := s) (v := w) hk hn
  simp only [Checker.acceptsField, FieldChecker.name, FieldChecker.required, ← hmem]
  cases hl : Value.lookup (.str s) entries with
  | some w =>
    have hw := (hmem w).1 hl
    refine Settles.congr (hc w (hjson _ hw)) ?_
    have hkey : Value.str s ∈ entries.map (·.1) := List.mem_map_of_mem hw
    simp [hkey]
  | none =>
    have hkey : Value.str s ∉ entries.map (·.1) := fun hkey => by
      obtain ⟨⟨_, w⟩, hw, rfl⟩ := List.mem_map.1 hkey
      cases hl.symm.trans ((hmem w).2 hw)
    exact .of_iff (by simp [hkey])

theorem settles_acceptsFields {names : List String} {entries : List (Value × Value)}
    (hk : entries.map (·.1) = names.map .str) (hn : names.Nodup)
    (hjson : ∀ entry ∈ entries, entry.2.IsJson) : ∀ {fields : List FieldChecker}
    {properties : List (Value × Value)},
    List.Forall₂ (FieldRelated (Agrees registry)) fields properties →
      Settles (Checker.acceptsFields fields entries)
        ((∀ property ∈ properties, ∀ w, (property.1, w) ∈ entries → Valid registry property.2 w) ∧
          ∀ field ∈ fields, field.required = true → field.name ∈ entries.map (·.1))
  | [], _, .nil => .of_iff (by simp)
  | _ :: _, _, .cons h hs => by
    refine Settles.congr ((settles_acceptsField h hk hn hjson).and
      (settles_acceptsFields hk hn hjson hs)) ?_
    rw [List.forall_mem_cons, List.forall_mem_cons, and_and_and_comm]

theorem valid_object_iff {properties entries : List (Value × Value)} {required : List Value}
    {strict : Bool} :
    Valid registry (.map (objectKeywords properties required strict)) (.map entries) ↔
      ((∀ property ∈ properties, ∀ w, (property.1, w) ∈ entries → Valid registry property.2 w) ∧
        ∀ name ∈ required, name ∈ entries.map (·.1)) ∧
      (strict = true → ∀ name ∈ entries.map (·.1), name ∈ properties.map (·.1)) := by
  have htype {keywords} : Meets registry keywords .type (.str "object") (.map entries) := .type rfl
  have hhead {keywords} : Holds registry keywords
      [(.str "type", .str "object"), (.str "properties", .map properties)] (.map entries) ↔
        Meets registry keywords .type (.str "object") (.map entries) ∧
          Meets registry keywords .properties (.map properties) (.map entries) ∧
          Holds registry keywords [] (.map entries) :=
    (holds_cons .type).trans (and_congr_right fun _ => holds_cons .properties)
  have hrequired {keywords} : Holds registry keywords
      (if required.isEmpty then [] else [(.str "required", .list required)]) (.map entries) ↔
        ∀ name ∈ required, name ∈ entries.map (·.1) := by
    cases required with
    | nil => simp [holds_nil]
    | cons =>
      rw [← meets_required_iff]
      exact (holds_cons .required).trans (and_iff_left holds_nil)
  have hstrict : Holds registry (objectKeywords properties required strict)
      (if strict then [(.str "additionalProperties", .bool false)] else []) (.map entries) ↔
        (strict = true → ∀ name ∈ entries.map (·.1), name ∈ properties.map (·.1)) := by
    cases strict with
    | false => simp [holds_nil]
    | true =>
      have hproperties (properties' : List (Value × Value)) :
          (.str "properties", .map properties') ∈ objectKeywords properties required true ↔
            properties' = properties := by
        cases required <;> simp [objectKeywords]
      refine ((holds_cons .additionalProperties).trans (and_iff_left holds_nil)).trans ?_
      simp [meets_additionalProperties_iff, Keyword.name, hproperties]
  have hmeets {keywords} :
      Meets registry keywords .properties (.map properties) (.map entries) ↔
        ∀ property ∈ properties, ∀ w, (property.1, w) ∈ entries → Valid registry property.2 w := by
    rw [meets_properties_iff]
    exact ⟨fun h property hp w hw => h _ _ w hp hw, fun h _ _ w hp hw => h _ hp w hw⟩
  rw [valid_iff_holds]
  conv_lhs => rw [objectKeywords, holds_append, holds_append, ← objectKeywords, hhead]
  rw [iff_true_intro htype, iff_true_intro holds_nil, true_and, and_true, hmeets, hrequired,
    hstrict]

/-- A strict object has no undeclared keys. -/
theorem unexpectedKeys_isEmpty_iff {names : List String} {entries : List (Value × Value)} :
    (unexpectedKeys (names.map .str) entries).isEmpty = true ↔
      ∀ name ∈ entries.map (·.1), name ∈ names.map .str := by
  have hamong (name : Value) : name.isAmong (names.map .str) = true ↔ name ∈ names.map .str := by
    rw [Value.isAmong_str_iff, List.mem_map]
    exact exists_congr fun s => and_congr_right fun _ => eq_comm
  simp only [unexpectedKeys, List.isEmpty_iff, List.filter_eq_nil_iff, Bool.not_eq_true',
    Bool.not_eq_false, hamong]

theorem agrees_object {fields : List FieldChecker} {properties : List (Value × Value)}
    (h : List.Forall₂ (FieldRelated (Agrees registry)) fields properties) (strict : Bool) :
    Agrees registry (.object fields strict)
      (.map (objectKeywords properties
        ((fields.filter FieldChecker.required).map FieldChecker.name) strict)) := by
  obtain ⟨names, hfields, hproperties⟩ := names_of_fieldRelated h
  intro v hv
  cases hv with
  | @map _ entries hk hn hjson =>
    refine Settles.congr ?_ valid_object_iff.symm
    refine Settles.and ((settles_acceptsFields hk hn hjson h).congr ?_) (.of_iff ?_)
    · simp only [List.forall_mem_map, List.mem_filter, and_imp]
    · rw [hfields, hproperties, ← unexpectedKeys_isEmpty_iff]
      cases strict <;> simp
  | _ =>
    refine .of_iff (iff_of_false Bool.false_ne_true fun hvalid => ?_)
    have htype := jsonType?_of_valid hvalid List.mem_cons_self
    simp [Value.jsonType?] at htype

/-! ### Unions -/

theorem settles_acceptsAny {v : Value} (hv : v.IsJson) : ∀ {checkers : List Checker}
    {rendered : List Value}, List.Forall₂ (Agrees registry) checkers rendered →
      Settles (Checker.acceptsAny checkers v) (∃ option ∈ rendered, Valid registry option v)
  | [], _, .nil => .of_iff (by simp)
  | _ :: _, _, .cons h hs =>
    ((h v hv).or (settles_acceptsAny hv hs)).congr (by simp)

theorem agrees_union {checkers : List Checker} {rendered : List Value}
    (h : List.Forall₂ (Agrees registry) checkers rendered) :
    Agrees registry (.union checkers) (.map [(.str "anyOf", .list rendered)]) := by
  intro v hv
  refine Settles.congr (settles_acceptsAny hv h) ?_
  rw [valid_iff_holds, ← meets_anyOf_iff]
  exact ((holds_cons .anyOf).trans (and_iff_left holds_nil)).symm

/-! ### All schemas -/

theorem agrees_of_compile {schema : Schema} (h : schema.Portable) :
    RendersTo registry (Agrees registry) schema := by
  induction h with
  | primitive hleast hmost =>
    intro place checker hc
    obtain ⟨_, ⟨⟩, rs, hr, rfl⟩ := compilePrimitive_eq_ok.1 hc
    exact ⟨_, rfl, agrees_primitive hr hleast hmost⟩
  | literal hjson =>
    intro place checker hc
    obtain ⟨-, rfl⟩ := compileAt_literal.1 hc
    exact ⟨_, rfl, agrees_literal hjson⟩
  | list minItems maxItems _ ih =>
    intro place checker hc
    obtain ⟨least, hl, most, hm, inner, hi, -, -, rfl⟩ := compileAt_list.1 hc
    obtain ⟨rendered, hrender, hagrees⟩ := ih hi
    exact ⟨_, by rw [render, hrender, ok_bind]; rfl, agrees_list hl hm hagrees⟩
  | object strict hnamed _ ih =>
    intro place checker hc
    obtain ⟨fields, properties, rfl, hrender, hall, -⟩ := render_of_compileAt_object hnamed ih hc
    exact ⟨_, hrender, agrees_object hall strict.truthy⟩
  | union _ ih =>
    intro place checker hc
    obtain ⟨checkers, ho, rfl⟩ := compileAt_union.1 hc
    obtain ⟨rendered, hrender, hall⟩ := renderAll_of_compileAll ih ho
    exact ⟨_, by rw [render, hrender, ok_bind], agrees_union hall⟩

end

/-- A schema that compiles is rendered, and every verdict about JSON data is whether they are valid
against the rendering. If its patterns and formats always answer, there is a verdict on all data. -/
theorem Validator.check_iff_valid {schema : Schema} {registry : Registry} {validator : Validator}
    (hs : schema.Portable) (hv : Validator.ofSchema schema registry = .ok validator) :
    ∃ rendered, schema.render = .ok rendered ∧ ∀ v : Value, v.IsJson →
      (∀ b, validator.check v = .ok b → (b = true ↔ Valid registry rendered v)) ∧
      (validator.checker.Answers → ∃ b, validator.check v = .ok b) := by
  obtain ⟨checker, hc, hv⟩ := bind_eq_ok.1 hv
  obtain rfl := Except.ok.inj hv
  obtain ⟨rendered, hrender, hagrees⟩ := agrees_of_compile hs hc
  refine ⟨rendered, hrender, fun v hjson => ⟨hagrees v hjson, fun ha => ?_⟩⟩
  obtain ⟨violations, -, hcheck⟩ := checker.agree_accepts_collect ha.decides v []
  exact ⟨_, hcheck⟩

theorem portable_account : accountSchema.Portable := by
  have hrole : (Schema.enumOf [.str "admin", .str "guest"]).Portable := by
    refine .union fun option ho => ?_
    obtain rfl | rfl : option = .literal (.str "admin") ∨ option = .literal (.str "guest") := by
      simpa using ho
    · exact .literal (.str _)
    · exact .literal (.str _)
  refine .object _ ?_ ?_
  · simp
  · intro name schema required hfield
    simp only [List.mem_cons, Entry.named.injEq, Schema.field.injEq, List.not_mem_nil,
      or_false] at hfield
    rcases hfield with ⟨-, rfl, -⟩ | ⟨-, rfl, -⟩ | ⟨-, rfl, -⟩
    · exact .primitive nofun nofun
    · exact .primitive nofun nofun
    · exact .list _ _ hrole

theorem isJson_account : accountValue.IsJson := by
  have hroles : (Value.list [.str "guest", .str "owner"]).IsJson := .list fun v hv => by
    obtain rfl | rfl : v = .str "guest" ∨ v = .str "owner" := by simpa using hv
    · exact .str _
    · exact .str _
  have hkeys : [Value.str "name", .str "born", .str "roles", .str "age"] =
      ["name", "born", "roles", "age"].map .str := rfl
  refine .map hkeys (by decide) ?_
  simp only [List.forall_mem_cons]
  exact ⟨.str _, .str _, hroles, .int _, nofun⟩

theorem Validator.check_account : ∃ validator,
    Validator.ofSchema accountSchema .standard = .ok validator ∧ accountSchema.Portable ∧
    accountValue.IsJson ∧ validator.checker.Answers ∧
    ∃ rendered, accountSchema.render = .ok rendered ∧
      validator.check accountValue = .ok false ∧ ¬ Valid .standard rendered accountValue := by
  obtain ⟨validator, hv, ha⟩ := account_answers
  obtain ⟨rendered, hrender, hmeaning⟩ := Validator.check_iff_valid portable_account hv
  obtain ⟨hsettles, htotal⟩ := hmeaning accountValue isJson_account
  obtain ⟨b, hcheck⟩ := htotal ha
  have hrun : ((Validator.ofSchema accountSchema .standard).toOption.bind fun validator =>
      (validator.check accountValue).toOption) = some false := by decide +kernel
  rw [hv, Except.toOption, Option.bind_some, hcheck] at hrun
  obtain rfl : b = false := Option.some.inj hrun
  exact ⟨validator, hv, portable_account, isJson_account, ha, rendered, hrender, hcheck,
    fun hvalid => Bool.false_ne_true ((hsettles false hcheck).2 hvalid)⟩

end Conform
