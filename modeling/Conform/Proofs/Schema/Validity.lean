import Conform.Format.Registry
import Conform.Pattern.Search
import Conform.Proofs.Value.Json
import Conform.Schema.Render

/-!
# Validity against JSON Schema

What the keywords of a rendered schema say by the rules of JSON Schema, draft 7. `Valid registry
schema v`: every keyword of the mapping `schema` is met by `v`, each by itself and in no order.
`Meets` has one rule for each keyword; most constrain values of one type only and are met by all
others. Formats are asserted, by the predicates of a registry.

A schema is rendered as a sequence of keywords, some of which may be left out. `Holds` says that the
keywords of a part of the mapping are met, and is taken apart along that sequence (`holds_append`,
`holds_cons`, `holds_keyword`).
-/

namespace Conform

/-- The keywords that a rendered schema can have. -/
inductive Keyword where
  | type
  | const
  | anyOf
  | items
  | minItems
  | maxItems
  | properties
  | required
  | additionalProperties
  | minLength
  | maxLength
  | pattern
  | format
  | minimum
  | maximum

namespace Keyword

def name : Keyword → String
  | .type => "type"
  | .const => "const"
  | .anyOf => "anyOf"
  | .items => "items"
  | .minItems => "minItems"
  | .maxItems => "maxItems"
  | .properties => "properties"
  | .required => "required"
  | .additionalProperties => "additionalProperties"
  | .minLength => "minLength"
  | .maxLength => "maxLength"
  | .pattern => "pattern"
  | .format => "format"
  | .minimum => "minimum"
  | .maximum => "maximum"

theorem eq_of_name {k l : Keyword} (h : k.name = l.name) : k = l := by
  cases k <;> cases l <;> first | rfl | exact absurd h (by decide)

end Keyword

/-- The type of JSON data, as the keyword `type` names it. -/
def Value.jsonType? : Value → Option String
  | .null => some "null"
  | .bool _ => some "boolean"
  | .int _ => some "number"
  | .float _ => some "number"
  | .str _ => some "string"
  | .list _ => some "array"
  | .map _ => some "object"
  | _ => none

mutual

/-- The value is valid against the schema. -/
inductive Valid (registry : Registry) : Value → Value → Prop
  | mk {keywords : List (Value × Value)} {v : Value} :
      (∀ (keyword : Keyword) arg, (.str keyword.name, arg) ∈ keywords →
        Meets registry keywords keyword arg v) →
      Valid registry (.map keywords) v

/-- The value meets a keyword that stands, with its argument, in the given mapping. -/
inductive Meets (registry : Registry) : List (Value × Value) → Keyword → Value → Value → Prop
  | type {keywords : List (Value × Value)} {name : String} {v : Value} :
      v.jsonType? = some name → Meets registry keywords .type (.str name) v
  | const {keywords : List (Value × Value)} {c v : Value} :
      v.JsonEqual c → Meets registry keywords .const c v
  | anyOf {keywords : List (Value × Value)} {options : List Value} {option v : Value} :
      option ∈ options → Valid registry option v → Meets registry keywords .anyOf (.list options) v
  | items {keywords : List (Value × Value)} {item v : Value} :
      (∀ elements, v = .list elements → ∀ w ∈ elements, Valid registry item w) →
      Meets registry keywords .items item v
  | minItems {keywords : List (Value × Value)} {bound v : Value} :
      (∀ elements, v = .list elements → ∃ n : Int, bound = .int n ∧ n ≤ elements.length) →
      Meets registry keywords .minItems bound v
  | maxItems {keywords : List (Value × Value)} {bound v : Value} :
      (∀ elements, v = .list elements → ∃ n : Int, bound = .int n ∧ elements.length ≤ n) →
      Meets registry keywords .maxItems bound v
  | properties {keywords properties : List (Value × Value)} {v : Value} :
      (∀ fields, v = .map fields → ∀ name schema w, (name, schema) ∈ properties →
        (name, w) ∈ fields → Valid registry schema w) →
      Meets registry keywords .properties (.map properties) v
  | required {keywords : List (Value × Value)} {names : List Value} {v : Value} :
      (∀ fields, v = .map fields → ∀ name ∈ names, name ∈ fields.map (·.1)) →
      Meets registry keywords .required (.list names) v
  /-- The properties are those of the same schema. -/
  | additionalProperties {keywords : List (Value × Value)} {v : Value} :
      (∀ fields, v = .map fields → ∀ name ∈ fields.map (·.1), ∃ properties,
        (.str Keyword.properties.name, .map properties) ∈ keywords ∧
          name ∈ properties.map (·.1)) →
      Meets registry keywords .additionalProperties (.bool false) v
  | minLength {keywords : List (Value × Value)} {bound v : Value} :
      (∀ s, v = .str s → ∃ n : Int, bound = .int n ∧ n ≤ s.length) →
      Meets registry keywords .minLength bound v
  | maxLength {keywords : List (Value × Value)} {bound v : Value} :
      (∀ s, v = .str s → ∃ n : Int, bound = .int n ∧ s.length ≤ n) →
      Meets registry keywords .maxLength bound v
  /-- The pattern matches somewhere in the string. -/
  | pattern {keywords : List (Value × Value)} {pattern v : Value} :
      (∀ s, v = .str s → ∃ text program, pattern = .str text ∧
        Pattern.compile text = .ok program ∧ program.search s = .ok true) →
      Meets registry keywords .pattern pattern v
  | format {keywords : List (Value × Value)} {format v : Value} :
      (∀ s, v = .str s → ∃ name predicate, format = .str name ∧
        registry.find? name = some predicate ∧ predicate.conforms s = .ok true) →
      Meets registry keywords .format format v
  | minimum {keywords : List (Value × Value)} {bound v : Value} :
      (∀ x, v.number? = some x → ∃ b, bound.number? = some b ∧ b ≤ x) →
      Meets registry keywords .minimum bound v
  | maximum {keywords : List (Value × Value)} {bound v : Value} :
      (∀ x, v.number? = some x → ∃ b, bound.number? = some b ∧ x ≤ b) →
      Meets registry keywords .maximum bound v

end

section
variable {registry : Registry} {keywords : List (Value × Value)} {v : Value}

/-! ## Keywords one by one -/

theorem meets_type_iff {name : String} :
    Meets registry keywords .type (.str name) v ↔ v.jsonType? = some name :=
  ⟨fun | .type h => h, .type⟩

theorem meets_const_iff {c : Value} : Meets registry keywords .const c v ↔ v.JsonEqual c :=
  ⟨fun | .const h => h, .const⟩

theorem meets_anyOf_iff {options : List Value} :
    Meets registry keywords .anyOf (.list options) v ↔
      ∃ option ∈ options, Valid registry option v :=
  ⟨fun | .anyOf ho h => ⟨_, ho, h⟩, fun ⟨_, ho, h⟩ => .anyOf ho h⟩

theorem meets_items_iff {item : Value} {elements : List Value} :
    Meets registry keywords .items item (.list elements) ↔
      ∀ w ∈ elements, Valid registry item w :=
  ⟨fun | .items h => h elements rfl, fun h => .items fun _ heq => Value.list.inj heq ▸ h⟩

theorem meets_minItems_iff {bound : Value} {elements : List Value} :
    Meets registry keywords .minItems bound (.list elements) ↔
      ∃ n : Int, bound = .int n ∧ n ≤ elements.length :=
  ⟨fun | .minItems h => h elements rfl, fun h => .minItems fun _ heq => Value.list.inj heq ▸ h⟩

theorem meets_maxItems_iff {bound : Value} {elements : List Value} :
    Meets registry keywords .maxItems bound (.list elements) ↔
      ∃ n : Int, bound = .int n ∧ elements.length ≤ n :=
  ⟨fun | .maxItems h => h elements rfl, fun h => .maxItems fun _ heq => Value.list.inj heq ▸ h⟩

theorem meets_properties_iff {properties fields : List (Value × Value)} :
    Meets registry keywords .properties (.map properties) (.map fields) ↔
      ∀ name schema w, (name, schema) ∈ properties → (name, w) ∈ fields →
        Valid registry schema w :=
  ⟨fun | .properties h => h fields rfl, fun h => .properties fun _ heq => Value.map.inj heq ▸ h⟩

theorem meets_required_iff {names : List Value} {fields : List (Value × Value)} :
    Meets registry keywords .required (.list names) (.map fields) ↔
      ∀ name ∈ names, name ∈ fields.map (·.1) :=
  ⟨fun | .required h => h fields rfl, fun h => .required fun _ heq => Value.map.inj heq ▸ h⟩

theorem meets_additionalProperties_iff {fields : List (Value × Value)} :
    Meets registry keywords .additionalProperties (.bool false) (.map fields) ↔
      ∀ name ∈ fields.map (·.1), ∃ properties,
        (.str Keyword.properties.name, .map properties) ∈ keywords ∧
          name ∈ properties.map (·.1) :=
  ⟨fun | .additionalProperties h => h fields rfl,
    fun h => .additionalProperties fun _ heq => Value.map.inj heq ▸ h⟩

theorem meets_minLength_iff {bound : Value} {s : String} :
    Meets registry keywords .minLength bound (.str s) ↔
      ∃ n : Int, bound = .int n ∧ n ≤ s.length :=
  ⟨fun | .minLength h => h s rfl, fun h => .minLength fun _ heq => Value.str.inj heq ▸ h⟩

theorem meets_maxLength_iff {bound : Value} {s : String} :
    Meets registry keywords .maxLength bound (.str s) ↔
      ∃ n : Int, bound = .int n ∧ s.length ≤ n :=
  ⟨fun | .maxLength h => h s rfl, fun h => .maxLength fun _ heq => Value.str.inj heq ▸ h⟩

theorem meets_pattern_iff {pattern : Value} {s : String} :
    Meets registry keywords .pattern pattern (.str s) ↔
      ∃ text program, pattern = .str text ∧ Pattern.compile text = .ok program ∧
        program.search s = .ok true :=
  ⟨fun | .pattern h => h s rfl, fun h => .pattern fun _ heq => Value.str.inj heq ▸ h⟩

theorem meets_format_iff {format : Value} {s : String} :
    Meets registry keywords .format format (.str s) ↔
      ∃ name predicate, format = .str name ∧ registry.find? name = some predicate ∧
        predicate.conforms s = .ok true :=
  ⟨fun | .format h => h s rfl, fun h => .format fun _ heq => Value.str.inj heq ▸ h⟩

theorem meets_minimum_iff {bound : Value} {x : Rat} (hv : v.number? = some x) :
    Meets registry keywords .minimum bound v ↔ ∃ b, bound.number? = some b ∧ b ≤ x :=
  ⟨fun | .minimum h => h x hv, fun h => .minimum fun _ heq =>
    Option.some.inj (hv.symm.trans heq) ▸ h⟩

theorem meets_maximum_iff {bound : Value} {x : Rat} (hv : v.number? = some x) :
    Meets registry keywords .maximum bound v ↔ ∃ b, bound.number? = some b ∧ x ≤ b :=
  ⟨fun | .maximum h => h x hv, fun h => .maximum fun _ heq =>
    Option.some.inj (hv.symm.trans heq) ▸ h⟩

/-- Whatever its argument, a keyword for strings is met by all other values. -/
theorem meets_of_not_string (hv : v.isString = false) (arg : Value) :
    ∀ keyword ∈ [Keyword.minLength, .maxLength, .pattern, .format],
      Meets registry keywords keyword arg v := by
  have h {p : String → Prop} (s : String) (heq : v = .str s) : p s := by
    rw [heq] at hv
    cases hv
  simp only [List.forall_mem_cons]
  exact ⟨.minLength h, .maxLength h, .pattern h, .format h, nofun⟩

theorem meets_of_not_number (hv : v.number? = none) (arg : Value) :
    ∀ keyword ∈ [Keyword.minimum, .maximum], Meets registry keywords keyword arg v := by
  have h {p : Rat → Prop} (x : Rat) (heq : v.number? = some x) : p x := by
    cases hv.symm.trans heq
  simp only [List.forall_mem_cons]
  exact ⟨.minimum h, .maximum h, nofun⟩

/-! ## Parts of a mapping -/

/-- The value meets the keywords in a part of the mapping. -/
def Holds (registry : Registry) (keywords part : List (Value × Value)) (v : Value) : Prop :=
  ∀ (keyword : Keyword) arg, (.str keyword.name, arg) ∈ part →
    Meets registry keywords keyword arg v

theorem valid_iff_holds :
    Valid registry (.map keywords) v ↔ Holds registry keywords keywords v :=
  ⟨fun | .mk h => h, .mk⟩

/-- A value is of the type that the schema names. -/
theorem jsonType?_of_valid {name : String} (h : Valid registry (.map keywords) v)
    (ht : (.str "type", .str name) ∈ keywords) : v.jsonType? = some name :=
  meets_type_iff.1 (valid_iff_holds.1 h .type _ ht)

variable {part others : List (Value × Value)} {arg : Value}

theorem holds_nil : Holds registry keywords [] v := nofun

theorem holds_append : Holds registry keywords (part ++ others) v ↔
    Holds registry keywords part v ∧ Holds registry keywords others v := by
  simp only [Holds, List.mem_append, or_imp, forall_and]

theorem holds_cons (keyword : Keyword) :
    Holds registry keywords ((.str keyword.name, arg) :: part) v ↔
      Meets registry keywords keyword arg v ∧ Holds registry keywords part v := by
  constructor
  · intro h
    exact ⟨h keyword arg List.mem_cons_self, fun k a hk => h k a (List.mem_cons_of_mem _ hk)⟩
  · rintro ⟨hm, h⟩ k a hk
    rcases List.mem_cons.1 hk with heq | hk
    · simp only [Prod.mk.injEq, Value.str.injEq] at heq
      obtain ⟨hname, rfl⟩ := heq
      obtain rfl := Keyword.eq_of_name hname
      exact hm
    · exact h k a hk

/-- A keyword that has been left out says nothing. -/
theorem holds_keyword (keyword : Keyword) :
    Holds registry keywords (Conform.keyword keyword.name arg) v ↔
      (arg ≠ .null → Meets registry keywords keyword arg v) := by
  unfold Conform.keyword
  split
  · rename_i h
    simp [Value.isNull_iff.1 h, holds_nil]
  · rename_i h
    have hne : arg ≠ .null := fun heq => h (Value.isNull_iff.2 heq)
    rw [holds_cons]
    simp [hne, holds_nil]

end

end Conform
