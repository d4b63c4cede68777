import Conform.Proofs.Document.Conversion

/-!
# Reading node by node

What reading a mapping does is decided by the keywords that it has (`NodeForm`), which need not be
those of a node. Below the mapping it reads some parts of it, its children (`Child`), one after the
other and counted in this order. If the mapping is read, so are all children (`Readable.child`).
If it is not, that may be due to the mapping itself or to the first child that is not read
(`exists_child_of_readAll`, `exists_child_of_readFields`).
-/

namespace Conform.Schema

open Grammar (Entries)
open Pointer (Path)

/-! ## What decides how a mapping is read -/

/-- It is left to the type to decide the kind of the node, which is null if there is none. -/
structure Typed (entries : Entries) (type : Value) : Prop where
  anyOf : get? entries "anyOf" = none
  const : get? entries "const" = none
  enum : get? entries "enum" = none
  is : getD entries "type" = type

/-- What kind of node a mapping is taken for. -/
inductive NodeForm (entries : Entries) : Prop
  | anyOf {v : Value} (hany : get? entries "anyOf" = some v)
  | const {v : Value} (hany : get? entries "anyOf" = none) (hconst : get? entries "const" = some v)
  | enum {v : Value} (hany : get? entries "anyOf" = none) (hconst : get? entries "const" = none)
      (henum : get? entries "enum" = some v)
  | primitive {kind : Kind} (h : Typed entries (.str kind.name))
  | array (h : Typed entries (.str "array"))
  | object (h : Typed entries (.str "object"))
  | unsupported {type : Value} (h : Typed entries type)
      (hne : ∀ name ∈ Grammar.typeNames, type ≠ .str name)

theorem nodeForm (entries : Entries) : NodeForm entries := by
  cases hany : get? entries "anyOf" with
  | some v => exact .anyOf hany
  | none =>
  cases hconst : get? entries "const" with
  | some v => exact .const hany hconst
  | none =>
  cases henum : get? entries "enum" with
  | some v => exact .enum hany hconst henum
  | none =>
  have htyped : Typed entries (getD entries "type") := ⟨hany, hconst, henum, rfl⟩
  by_cases h : ∃ name ∈ Grammar.typeNames, getD entries "type" = .str name
  · obtain ⟨name, hname, heq⟩ := h
    rw [heq] at htyped
    simp only [Grammar.typeNames, List.mem_cons, List.not_mem_nil, or_false] at hname
    rcases hname with rfl | rfl | rfl | rfl | rfl | rfl
    · exact @NodeForm.primitive _ .string htyped
    · exact @NodeForm.primitive _ .number htyped
    · exact @NodeForm.primitive _ .boolean htyped
    · exact @NodeForm.primitive _ .null htyped
    · exact .array htyped
    · exact .object htyped
  · exact .unsupported htyped fun name hname heq => h ⟨name, hname, heq⟩

section
variable {entries : Entries}

theorem Typed.unique {type type' : Value} (h : Typed entries type) (h' : Typed entries type') :
    type = type' := h.is.symm.trans h'.is

theorem Typed.not_object (h : Typed entries (.str "array")) : ¬ Typed entries (.str "object") :=
  fun h' => by simpa using h.unique h'

theorem Typed.get?_type {s : String} (h : Typed entries (.str s)) :
    get? entries "type" = some (.str s) := by
  have htype := h.is
  unfold getD at htype
  cases hget : get? entries "type" with
  | none =>
    rw [hget] at htype
    cases htype
  | some v =>
    rw [hget, Option.getD_some] at htype
    rw [htype]

theorem read_other {v : Value} (hv : ∀ entries, v ≠ .map entries) (place : String) :
    read v place = .error (.node (.notMapping place v.typeName)) := by
  cases v with
  | map entries => exact absurd rfl (hv entries)
  | _ => rfl

variable (place : String)

theorem read_typed_object (h : Typed entries (.str "object")) :
    read (.map entries) place = (do
      let required ← declaredNames place entries
      let properties ← propertiesIn entries (Pointer.child place (.str "properties"))
      ReadFailure.ofSchema (objectOf (properties.map fun (name, schema) =>
        (name, if name.isAmong required then schema else optional schema))
          (.bool (isStrict entries)))) := by
  simp only [read, optionsIn_eq, h.anyOf, h.const, h.enum, h.is, Option.map_none]
  rfl

theorem read_unsupported {type : Value} (h : Typed entries type)
    (hne : ∀ name ∈ Grammar.typeNames, type ≠ .str name) :
    read (.map entries) place = .error (.raise (.unsupportedType place type)) := by
  simp only [Grammar.typeNames, List.forall_mem_cons, List.not_mem_nil, false_imp_iff,
    implies_true, and_true] at hne
  obtain ⟨hstring, hnumber, hboolean, hnull, harray, hobject⟩ := hne
  simp only [read, optionsIn_eq, h.anyOf, h.const, h.enum, h.is, Option.map_none]

end

/-! ## Children -/

/-- The parts of a mapping that are read after it, with the way to them and their number. -/
inductive Child (entries : Entries) : Path → Nat → Value → Prop
  | option {v item : Value} {items : List Value} {i : Nat} :
      get? entries "anyOf" = some v → v.items? = some items → items[i]? = some item →
      Child entries [.str "anyOf", .int i] i item
  | item {item : Value} : Typed entries (.str "array") → get? entries "items" = some item →
      Child entries [.str "items"] 0 item
  | property {properties : Entries} {i : Nat} {name v : Value} : Typed entries (.str "object") →
      get? entries "properties" = some (.map properties) → properties[i]? = some (name, v) →
      Child entries [.str "properties", name] i v

/-- The value is read, no matter where it stands. -/
def Readable (v : Value) : Prop := ∃ place schema, read v place = .ok schema

section
variable {entries : Entries} {segments segments' : Path} {i : Nat} {v w : Value}

theorem Child.unique (h : Child entries segments i v) (h' : Child entries segments' i w) :
    segments = segments' ∧ v = w := by
  cases h with
  | option hany hitems hitem =>
    cases h' with
    | option hany' hitems' hitem' =>
      cases hany.symm.trans hany'
      cases hitems.symm.trans hitems'
      cases hitem.symm.trans hitem'
      exact ⟨rfl, rfl⟩
    | item h' => cases hany.symm.trans h'.anyOf
    | property h' => cases hany.symm.trans h'.anyOf
  | item h hitem =>
    cases h' with
    | option hany => cases hany.symm.trans h.anyOf
    | item _ hitem' =>
      cases hitem.symm.trans hitem'
      exact ⟨rfl, rfl⟩
    | property h' => exact absurd h' h.not_object
  | property h hproperties hv =>
    cases h' with
    | option hany => cases hany.symm.trans h.anyOf
    | item h' => exact absurd h h'.not_object
    | property _ hproperties' hv' =>
      cases hproperties.symm.trans hproperties'
      cases hv.symm.trans hv'
      exact ⟨rfl, rfl⟩

theorem Child.sizeOf_lt (h : Child entries segments i v) :
    sizeOf v < sizeOf (Value.map entries) := by
  cases h with
  | @option container _ items _ hany hitems hitem =>
    have hcontainer := sizeOf_lt_of_get? hany
    have hmem := List.sizeOf_lt_of_mem (List.mem_of_getElem? hitem)
    cases container with
    | list | tuple =>
      obtain rfl := Option.some.inj hitems
      simp only [Value.list.sizeOf_spec, Value.tuple.sizeOf_spec] at hcontainer
      omega
    | _ => cases hitems
  | item _ hitem => exact sizeOf_lt_of_get? hitem
  | property _ hproperties hv =>
    have hcontainer := sizeOf_lt_of_get? hproperties
    have hmem := List.sizeOf_lt_of_mem (List.mem_of_getElem? hv)
    simp only [Value.map.sizeOf_spec, Prod.mk.sizeOf_spec] at hcontainer hmem ⊢
    omega

end

/-- What holds of a mapping if it holds of its children, and of everything else, holds always. -/
theorem child_induction {p : Value → Prop}
    (map : ∀ entries : Entries, (∀ segments i v, Child entries segments i v → p v) →
      p (.map entries))
    (other : ∀ v, (∀ entries, v ≠ .map entries) → p v) (v : Value) : p v := by
  cases v with
  | map entries => exact map entries fun _ _ w _ => child_induction map other w
  | _ => exact other _ nofun
termination_by sizeOf v
decreasing_by exact Child.sizeOf_lt ‹_›

/-! ## Reading children -/

theorem readOptions_of_items? {v : Value} {items : List Value} (h : v.items? = some items)
    (place : String) : readOptions v place = readAll items place 0 := by
  cases v with
  | list | tuple =>
    obtain rfl := Option.some.inj h
    rfl
  | _ => cases h

theorem readOptions_of_items?_eq_none {v : Value} (h : v.items? = none) (place : String) :
    readOptions v place = noOptions place v := by
  cases v with
  | list | tuple => cases h
  | _ => rfl

theorem readable_of_readAll {place : String} : ∀ {items : List Value} {index : Nat}
    {schemas : List Schema}, readAll items place index = .ok schemas →
      ∀ item ∈ items, Readable item
  | [], _, _, _ => List.forall_mem_nil Readable
  | item :: items, _, _, h => by
    obtain ⟨schema, hitem, h⟩ := bind_eq_ok.1 h
    obtain ⟨others, hothers, -⟩ := bind_eq_ok.1 h
    exact List.forall_mem_cons.2 ⟨⟨_, schema, hitem⟩, readable_of_readAll hothers⟩

theorem readable_of_readFields {place : String} : ∀ {properties : Entries}
    {fields : List (Value × Schema)}, readFields properties place = .ok fields →
      ∀ property ∈ properties, Readable property.2
  | [], _, _ => List.forall_mem_nil _
  | (name, v) :: properties, _, h => by
    obtain ⟨-, schema, hv, others, hothers, -⟩ := readFields_cons.1 h
    exact List.forall_mem_cons.2 ⟨⟨_, schema, hv⟩, readable_of_readFields hothers⟩

theorem propertiesIn_of_get? {entries properties : Entries}
    (h : get? entries "properties" = some (.map properties)) (place : String) :
    propertiesIn entries place = readFields properties place := by
  rw [propertiesIn_eq, h, Option.map_some, Option.getD_some, readProperties]

/-- The children of a mapping that is read are read. -/
theorem Readable.child {entries : Entries} {segments : Path} {i : Nat} {v : Value}
    (h : Readable (.map entries)) (hv : Child entries segments i v) : Readable v := by
  obtain ⟨place, schema, h⟩ := h
  cases hv with
  | option hany hitems hitem =>
    rw [read_options place hany, readOptions_of_items? hitems] at h
    obtain ⟨options, hoptions, -⟩ := bind_eq_ok.1 h
    exact readable_of_readAll hoptions _ (List.mem_of_getElem? hitem)
  | item htyped hitem =>
    rw [read_array place htyped.anyOf htyped.const htyped.enum htyped.get?_type, hitem] at h
    obtain ⟨item, hread, -⟩ := bind_eq_ok.1 h
    exact ⟨_, item, hread⟩
  | property htyped hproperties hv =>
    rw [read_typed_object place htyped, propertiesIn_of_get? hproperties] at h
    obtain ⟨_, -, h⟩ := bind_eq_ok.1 h
    obtain ⟨fields, hfields, -⟩ := bind_eq_ok.1 h
    exact readable_of_readFields hfields _ (List.mem_of_getElem? hv)

/-- The first item that is not read, after others that are. -/
theorem exists_child_of_readAll {base : String} {e : ReadFailure} : ∀ {items : List Value}
    {index : Nat}, readAll items base index = .error e →
      ∃ i item, items[i]? = some item ∧
        read item (Pointer.child base (.int (index + i : Nat))) = .error e ∧
        ∀ j x, j < i → items[j]? = some x → Readable x
  | [], _, h => by cases h
  | item :: items, index, h => by
    rcases bind_eq_error.1 h with hitem | ⟨schema, hitem, h⟩
    · exact ⟨0, item, rfl, hitem, nofun⟩
    rcases bind_eq_error.1 h with h | ⟨_, -, h⟩
    · obtain ⟨i, other, hother, herror, hbefore⟩ := exists_child_of_readAll h
      refine ⟨i + 1, other, hother, by rwa [Nat.add_right_comm, Nat.add_assoc] at herror,
        fun j x hj hx => ?_⟩
      cases j with
      | zero =>
        obtain rfl := Option.some.inj hx
        exact ⟨_, schema, hitem⟩
      | succ j => exact hbefore j x (Nat.lt_of_succ_lt_succ hj) hx
    · cases h

/-- The first property that is not read, after others that are. It may be due to its name, which no
pointer can be made of. -/
theorem exists_child_of_readFields {base : String} {e : ReadFailure} : ∀ {properties : Entries},
    readFields properties base = .error e →
      (e = .fault .badValue ∧ ∃ property ∈ properties, property.1.hasText = false) ∨
      ∃ (i : Nat) (name v : Value), properties[i]? = some (name, v) ∧
        read v (Pointer.child base name) = .error e ∧
        ∀ j name' x, j < i → properties[j]? = some (name', x) → Readable x
  | [], h => by cases h
  | (name, v) :: properties, h => by
    rcases bind_eq_error.1 h with hname | ⟨_, -, h⟩
    · obtain ⟨fault, hfault, rfl⟩ := ofFault_eq_error.1 hname
      obtain ⟨htext, rfl⟩ := Value.requireText_eq_error.1 hfault
      exact .inl ⟨rfl, (name, v), List.mem_cons_self, htext⟩
    rcases bind_eq_error.1 h with hv | ⟨schema, hv, h⟩
    · exact .inr ⟨0, name, v, rfl, hv, nofun⟩
    rcases bind_eq_error.1 h with h | ⟨_, -, h⟩
    · rcases exists_child_of_readFields h with ⟨rfl, property, hproperty, htext⟩ |
        ⟨i, name', w, hw, herror, hbefore⟩
      · exact .inl ⟨rfl, property, List.mem_cons_of_mem _ hproperty, htext⟩
      refine .inr ⟨i + 1, name', w, hw, herror, fun j other x hj hx => ?_⟩
      cases j with
      | zero =>
        cases hx
        exact ⟨_, schema, hv⟩
      | succ j => exact hbefore j other x (Nat.lt_of_succ_lt_succ hj) hx
    · cases h

end Conform.Schema
