import Conform.Proofs.Checker.Reading
import Conform.Proofs.Schema.Keywords
import Mathlib.Data.List.Forall2

/-!
# Compiling and rendering side by side

A schema that compiles is also rendered. `RendersTo r schema` says that in this case checker and
rendering stand in the relation `r`; here it is carried from options to unions and from fields to
objects. The rendered list of required names and the flag of a strict object are those of the
checker.
-/

namespace Conform.Schema

variable {registry : Registry} {r : Checker → Value → Prop}

theorem exists_of_mem_right {α β : Type} {r : α → β → Prop} : ∀ {as : List α} {bs : List β},
    List.Forall₂ r as bs → ∀ b ∈ bs, ∃ a ∈ as, r a b
  | [], _, .nil => nofun
  | a :: _, _, .cons h hs => List.forall_mem_cons.2 ⟨⟨a, List.mem_cons_self, h⟩, fun b hb =>
      (exists_of_mem_right hs b hb).imp fun _ => And.imp_left (List.mem_cons_of_mem a)⟩

/-- Whatever checker the schema compiles to, the schema is rendered, and the two are related. -/
def RendersTo (registry : Registry) (r : Checker → Value → Prop) (schema : Schema) : Prop :=
  ∀ {place : String} {checker : Checker}, schema.compileAt registry place = .ok checker →
    ∃ rendered, schema.render = .ok rendered ∧ r checker rendered

theorem renderAll_of_compileAll {place : String} : ∀ {options : List Schema} {index : Nat}
    {checkers : List Checker}, (∀ option ∈ options, RendersTo registry r option) →
      compileAll options registry place index = .ok checkers →
      ∃ rendered, renderAll options = .ok rendered ∧ List.Forall₂ r checkers rendered
  | [], _, _, _, h => by
    obtain rfl := Except.ok.inj h
    exact ⟨[], rfl, .nil⟩
  | option :: options, _, _, ih, h => by
    obtain ⟨checker, hc, others, ho, rfl⟩ := compileAll_cons.1 h
    obtain ⟨hoption, ih⟩ := List.forall_mem_cons.1 ih
    obtain ⟨first, hrender, hrelated⟩ := hoption hc
    obtain ⟨rendered, hrenders, hall⟩ := renderAll_of_compileAll ih ho
    exact ⟨first :: rendered, by simp [renderAll, hrender, hrenders], .cons hrelated hall⟩

/-! ## Objects -/

/-- A field of a checker and a property of the rendered schema with the same name. -/
def FieldRelated (r : Checker → Value → Prop) (field : FieldChecker) (property : Value × Value) :
    Prop :=
  (∃ s, field.name = .str s) ∧ property.1 = field.name ∧ r field.checker property.2

theorem names_of_fieldRelated : ∀ {fields : List FieldChecker} {properties : List (Value × Value)},
    List.Forall₂ (FieldRelated r) fields properties →
      ∃ names : List String, fields.map FieldChecker.name = names.map .str ∧
        properties.map (·.1) = names.map .str
  | [], _, .nil => ⟨[], rfl, rfl⟩
  | _ :: _, _, .cons ⟨⟨s, hs⟩, hname, _⟩ h => by
    obtain ⟨names, hfields, hproperties⟩ := names_of_fieldRelated h
    refine ⟨s :: names, ?_, ?_⟩
    · rw [List.map_cons, List.map_cons, hfields, hs]
    · rw [List.map_cons, List.map_cons, hproperties, hname, hs]

theorem renderAssignments_of_compileEntries {place : String} : ∀ {entries : List Entry}
    {fields : List FieldChecker},
    (∀ entry ∈ entries, ∃ name node, entry = .named (.str name) node) →
    (∀ name schema required, .named name (.field schema required) ∈ entries →
      RendersTo registry r schema) →
    compileEntries entries registry place = .ok fields →
      ∃ properties, renderAssignments entries = .ok properties ∧
        List.Forall₂ (FieldRelated r) fields properties ∧
        requiredNames entries = (fields.filter FieldChecker.required).map FieldChecker.name
  | [], _, _, _, h => by
    obtain rfl := Except.ok.inj h
    exact ⟨[], rfl, .nil, rfl⟩
  | entry :: entries, _, hnamed, ih, h => by
    obtain ⟨field, hf, others, ho, rfl⟩ := compileEntries_cons.1 h
    obtain ⟨⟨s, node, hentry⟩, hrest⟩ := List.forall_mem_cons.1 hnamed
    obtain ⟨name, schema, required, rfl, -, checker, hc, rfl⟩ := compileAt_entry.1 hf
    cases hentry
    obtain ⟨first, hrender, hrelated⟩ := ih _ schema required List.mem_cons_self hc
    obtain ⟨properties, hrenders, hall, hrequired⟩ := renderAssignments_of_compileEntries hrest
      (fun name schema required he => ih name schema required (List.mem_cons_of_mem _ he)) ho
    refine ⟨(.str s, first) :: properties, ?_, .cons ⟨⟨s, rfl⟩, rfl, hrelated⟩ hall, ?_⟩
    · simp [renderAssignments, hrender, Value.isKey, hrenders]
    · simp only [requiredNames, hrequired, List.filter_cons, FieldChecker.required]
      cases required.truthy <;> rfl

/-- An object that compiles, and how it is rendered. -/
theorem render_of_compileAt_object {place : String} {entries : List Entry} {strict : Value}
    {checker : Checker} (hnamed : ∀ entry ∈ entries, ∃ name node, entry = .named (.str name) node)
    (ih : ∀ name schema required, .named name (.field schema required) ∈ entries →
      RendersTo registry r schema)
    (hc : (Schema.object entries strict).compileAt registry place = .ok checker) :
    ∃ fields properties, checker = .object fields strict.truthy ∧
      (Schema.object entries strict).render = .ok (.map (objectKeywords properties
        ((fields.filter FieldChecker.required).map FieldChecker.name) strict.truthy)) ∧
      List.Forall₂ (FieldRelated r) fields properties ∧
      ∃ names : List String, fields.map FieldChecker.name = names.map .str ∧ names.Nodup := by
  obtain ⟨fields, hf, -, hdistinct, rfl⟩ := compileAt_object.1 hc
  obtain ⟨properties, hrender, hall, hrequired⟩ := renderAssignments_of_compileEntries hnamed ih hf
  obtain ⟨names, hfields, hproperties⟩ := names_of_fieldRelated hall
  rw [hfields, areDistinct_str_iff] at hdistinct
  refine ⟨fields, properties, rfl, ?_, hall, names, hfields, hdistinct⟩
  rw [render, hrender, ok_bind, Value.ofAssignments_eq hproperties hdistinct, hrequired]
  rfl

end Conform.Schema
