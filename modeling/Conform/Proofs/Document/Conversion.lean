import Conform.Proofs.Document.Node
import Conform.Proofs.Schema.RoundTrip

/-!
# Which nodes are converted

Reading a node converts only some of the nodes in it (`Converted`): the options of a union, the item
of an array and the properties of an object, but not what stands under a keyword that the node's
kind makes no use of. The grammar leaves two things to reading, that an array has an item and that
an object declares the names it requires (`Complete`). A node is read without an error if and only
if all that is converted is complete (`read_ok_iff`).

`NodeKind` is the case distinction that reading makes, with the absence of the other keywords.
-/

namespace Conform

/-! ## Keys -/

/-- The keys of mappings are strings that differ from each other, at any depth of mappings and
lists. No node is looked for in other values. -/
inductive Value.TextKeyed : Value → Prop
  | map {names : List String} {entries : List (Value × Value)} :
      entries.map (·.1) = names.map .str → names.Nodup →
      (∀ entry ∈ entries, TextKeyed entry.2) → TextKeyed (.map entries)
  | list {items : List Value} : (∀ item ∈ items, TextKeyed item) → TextKeyed (.list items)
  | other {v : Value} : (∀ entries, v ≠ .map entries) → (∀ items, v ≠ .list items) → TextKeyed v

namespace Value

variable {entries : List (Value × Value)} {items : List Value}

theorem textKeyed_map_iff : (Value.map entries).TextKeyed ↔
    (∃ names : List String, entries.map (·.1) = names.map .str ∧ names.Nodup) ∧
      ∀ entry ∈ entries, entry.2.TextKeyed := by
  constructor
  · intro h
    cases h with
    | map hk hn h => exact ⟨⟨_, hk, hn⟩, h⟩
    | other hmap _ => exact absurd rfl (hmap entries)
  · rintro ⟨⟨names, hk, hn⟩, h⟩
    exact .map hk hn h

/-- The keys of a mapping one by one. -/
theorem textKeyed_iff_keys : (Value.map entries).TextKeyed ↔
    (∀ key ∈ entries.map (·.1), ∃ s, key = .str s) ∧ (entries.map (·.1)).Nodup ∧
      ∀ entry ∈ entries, entry.2.TextKeyed := by
  rw [textKeyed_map_iff, ← and_assoc, forall_str_iff]
  refine and_congr_left fun _ => ?_
  constructor
  · rintro ⟨names, hk, hn⟩
    exact ⟨⟨names, hk⟩, hk ▸ hn.map fun _ _ => Value.str.inj⟩
  · rintro ⟨⟨names, hk⟩, hn⟩
    exact ⟨names, hk, List.Nodup.of_map _ (hk ▸ hn)⟩

theorem TextKeyed.name_hasText (h : (Value.map entries).TextKeyed) :
    ∀ entry ∈ entries, entry.1.hasText = true := by
  obtain ⟨⟨names, hnames, -⟩, -⟩ := textKeyed_map_iff.1 h
  intro entry hentry
  have hmem : entry.1 ∈ names.map str := hnames ▸ List.mem_map_of_mem hentry
  obtain ⟨name, -, hname⟩ := List.mem_map.1 hmem
  rw [← hname]
  rfl

theorem textKeyed_list_iff : (Value.list items).TextKeyed ↔ ∀ item ∈ items, item.TextKeyed := by
  constructor
  · intro h
    cases h with
    | list h => exact h
    | other _ hlist => exact absurd rfl (hlist items)
  · exact .list

theorem textKeyed_str (s : String) : (Value.str s).TextKeyed := by
  refine .other (fun _ h => ?_) fun _ h => ?_ <;> cases h

theorem TextKeyed.of_get? (h : (Value.map entries).TextKeyed) {keyword : String} {v : Value}
    (hv : Schema.get? entries keyword = some v) : v.TextKeyed :=
  (textKeyed_map_iff.1 h).2 _ (mem_of_lookup_str hv)

end Value

namespace Schema

open Grammar (Entries Given Node Shaped)

/-! ## Kinds of nodes -/

/-- The keyword that decides the kind of a node, with its value, and the absence of those that are
looked at before it. -/
inductive NodeKind (entries : Entries) : Prop
  | anyOf {items : List Value} (hany : get? entries "anyOf" = some (.list items))
      (htype : get? entries "type" = none)
  | const {v : Value} (hany : get? entries "anyOf" = none) (hconst : get? entries "const" = some v)
      (htype : get? entries "type" = none)
  | enum {values : List Value} (hany : get? entries "anyOf" = none)
      (hconst : get? entries "const" = none) (henum : get? entries "enum" = some (.list values))
      (htype : get? entries "type" = none)
  | primitive {kind : Kind} (hany : get? entries "anyOf" = none)
      (hconst : get? entries "const" = none) (henum : get? entries "enum" = none)
      (htype : get? entries "type" = some (.str kind.name))
  | array (hany : get? entries "anyOf" = none) (hconst : get? entries "const" = none)
      (henum : get? entries "enum" = none) (htype : get? entries "type" = some (.str "array"))
  | object (hany : get? entries "anyOf" = none) (hconst : get? entries "const" = none)
      (henum : get? entries "enum" = none) (htype : get? entries "type" = some (.str "object"))

theorem nodeKind_of_shaped {entries : Entries} (h : Shaped entries) : NodeKind entries := by
  obtain ⟨keyword, ⟨hkeyword, hgiven⟩, hunique⟩ := h.kind
  obtain ⟨v, hv⟩ := Option.isSome_iff_exists.1 hgiven
  have habsent : ∀ other ∈ Grammar.kindKeywords, other ≠ keyword → get? entries other = none :=
    fun other hother hne => Option.not_isSome_iff_eq_none.1 fun hsome =>
      hne (hunique other ⟨hother, hsome⟩)
  simp only [Grammar.kindKeywords, List.forall_mem_cons] at habsent
  obtain ⟨htype, hconst, henum, hany, -⟩ := habsent
  simp only [Grammar.kindKeywords, List.mem_cons, List.not_mem_nil, or_false] at hkeyword
  rcases hkeyword with rfl | rfl | rfl | rfl
  · have hany := hany (by decide)
    have hconst := hconst (by decide)
    have henum := henum (by decide)
    obtain ⟨name, hname, rfl⟩ := h.fits "type" v hv
    simp only [Grammar.typeNames, List.mem_cons, List.not_mem_nil, or_false] at hname
    rcases hname with rfl | rfl | rfl | rfl | rfl | rfl
    · exact @NodeKind.primitive _ .string hany hconst henum hv
    · exact @NodeKind.primitive _ .number hany hconst henum hv
    · exact @NodeKind.primitive _ .boolean hany hconst henum hv
    · exact @NodeKind.primitive _ .null hany hconst henum hv
    · exact .array hany hconst henum hv
    · exact .object hany hconst henum hv
  · exact .const (hany (by decide)) hv (htype (by decide))
  · obtain ⟨first, others, rfl⟩ := h.fits "enum" v hv
    exact .enum (hany (by decide)) (hconst (by decide)) hv (htype (by decide))
  · obtain ⟨items, rfl⟩ := h.fits "anyOf" v hv
    exact .anyOf hv (htype (by decide))

/-! ## Converted nodes -/

/-- The node with the given entries is converted when the value is. -/
inductive Converted : Value → Entries → Prop
  | here {entries : Entries} : Converted (.map entries) entries
  | option {entries node : Entries} {items : List Value} {item : Value} :
      get? entries "anyOf" = some (.list items) → item ∈ items → Converted item node →
      Converted (.map entries) node
  | item {entries node : Entries} {item : Value} :
      get? entries "type" = some (.str "array") → get? entries "items" = some item →
      Converted item node → Converted (.map entries) node
  | property {entries node properties : Entries} {property : Value × Value} :
      get? entries "type" = some (.str "object") →
      get? entries "properties" = some (.map properties) → property ∈ properties →
      Converted property.2 node → Converted (.map entries) node

/-- An array node has an item and an object node declares the properties that it requires. -/
structure Complete (entries : Entries) : Prop where
  item : get? entries "type" = some (.str "array") → ∃ item, get? entries "items" = some item
  declared : get? entries "type" = some (.str "object") →
    ∀ names, get? entries "required" = some (.list names) → ∀ name ∈ names,
      ∃ properties, get? entries "properties" = some (.map properties) ∧
        name ∈ properties.map (·.1)

theorem complete_of_ne {entries : Entries} (harray : get? entries "type" ≠ some (.str "array"))
    (hobject : get? entries "type" ≠ some (.str "object")) : Complete entries :=
  ⟨fun h => absurd h harray, fun h => absurd h hobject⟩

section
variable {entries : Entries} {p : Entries → Prop}

/-- What is converted is the node itself and what is converted below it. -/
theorem forall_converted_iff :
    (∀ node, Converted (.map entries) node → p node) ↔ p entries ∧
      (∀ items, get? entries "anyOf" = some (.list items) →
        ∀ item ∈ items, ∀ node, Converted item node → p node) ∧
      (get? entries "type" = some (.str "array") → ∀ item, get? entries "items" = some item →
        ∀ node, Converted item node → p node) ∧
      (get? entries "type" = some (.str "object") →
        ∀ properties, get? entries "properties" = some (.map properties) →
          ∀ property ∈ properties, ∀ node, Converted property.2 node → p node) := by
  constructor
  · intro h
    exact ⟨h _ .here, fun items hitems item hitem node hn => h node (.option hitems hitem hn),
      fun htype item hitem node hn => h node (.item htype hitem hn),
      fun htype properties hproperties property hproperty node hn =>
        h node (.property htype hproperties hproperty hn)⟩
  · rintro ⟨here, option, item, property⟩ node hn
    cases hn with
    | here => exact here
    | option hitems hitem hn => exact option _ hitems _ hitem node hn
    | item htype hitem hn => exact item htype _ hitem node hn
    | property htype hproperties hproperty hn =>
      exact property htype _ hproperties _ hproperty node hn

theorem forall_converted_anyOf {items : List Value}
    (hany : get? entries "anyOf" = some (.list items)) (htype : get? entries "type" = none) :
    (∀ node, Converted (.map entries) node → p node) ↔
      p entries ∧ ∀ item ∈ items, ∀ node, Converted item node → p node := by
  simp [forall_converted_iff, hany, htype]

/-- Below literals and primitives nothing is converted. -/
theorem forall_converted_leaf (hany : get? entries "anyOf" = none)
    (hitem : get? entries "type" ≠ some (.str "array"))
    (hproperties : get? entries "type" ≠ some (.str "object")) :
    (∀ node, Converted (.map entries) node → p node) ↔ p entries := by
  simp [forall_converted_iff, hany, hitem, hproperties]

theorem forall_converted_array (hany : get? entries "anyOf" = none)
    (htype : get? entries "type" = some (.str "array")) {item : Value}
    (hitem : get? entries "items" = some item) :
    (∀ node, Converted (.map entries) node → p node) ↔
      p entries ∧ ∀ node, Converted item node → p node := by
  simp [forall_converted_iff, hany, htype, hitem]

theorem forall_converted_object (hany : get? entries "anyOf" = none)
    (htype : get? entries "type" = some (.str "object")) :
    (∀ node, Converted (.map entries) node → p node) ↔ p entries ∧
      ∀ properties, get? entries "properties" = some (.map properties) →
        ∀ property ∈ properties, ∀ node, Converted property.2 node → p node := by
  simp [forall_converted_iff, hany, htype]

/-- A node without the keyword has no properties. -/
theorem forall_properties_iff {p : Value × Value → Prop} {properties : Entries}
    (hp : (get? entries "properties").getD (.map []) = .map properties) :
    (∀ properties, get? entries "properties" = some (.map properties) →
      ∀ property ∈ properties, p property) ↔ ∀ property ∈ properties, p property := by
  cases h : get? entries "properties" with
  | none =>
    rw [h] at hp
    cases hp
    simp
  | some v =>
    rw [h] at hp
    cases hp
    simp

end

/-! ## Reading by kind -/

section
variable {entries : Entries} (place : String)

theorem read_options {v : Value} (hany : get? entries "anyOf" = some v) :
    read (.map entries) place = (do
      let options ← readOptions v (Pointer.child place (.str "anyOf"))
      .ok (unionOf options)) := by
  simp only [read, optionsIn_eq, hany, Option.map_some]

theorem read_anyOf {items : List Value} (hany : get? entries "anyOf" = some (.list items)) :
    read (.map entries) place = (do
      let options ← readAll items (Pointer.child place (.str "anyOf")) 0
      .ok (unionOf options)) := read_options place hany

theorem read_const {v : Value} (hany : get? entries "anyOf" = none)
    (hconst : get? entries "const" = some v) : read (.map entries) place = .ok (.literal v) := by
  simp only [read, optionsIn_eq, hany, hconst, Option.map_none]

theorem read_choice {v : Value} (hany : get? entries "anyOf" = none)
    (hconst : get? entries "const" = none) (henum : get? entries "enum" = some v) :
    read (.map entries) place = (do
      let values ← ReadFailure.ofFault v.elements
      .ok (enumOf values)) := by
  simp only [read, optionsIn_eq, hany, hconst, henum, Option.map_none]

theorem read_enum {values : List Value} (hany : get? entries "anyOf" = none)
    (hconst : get? entries "const" = none) (henum : get? entries "enum" = some (.list values)) :
    read (.map entries) place = .ok (enumOf values) := read_choice place hany hconst henum

/-- The schema that a node of a primitive kind is read as. -/
def primitiveOf (entries : Entries) : Kind → Schema
  | .string => string (stringRefinements entries)
  | .number => number (getD entries "minimum") (getD entries "maximum")
  | .boolean => boolean
  | .null => null

/-- Only an explicit `false` makes an object strict. -/
def isStrict (entries : Entries) : Bool :=
  match get? entries "additionalProperties" with
  | some (.bool false) => true
  | _ => false

section
variable (hany : get? entries "anyOf" = none) (hconst : get? entries "const" = none)
  (henum : get? entries "enum" = none)
include hany hconst henum

theorem read_primitive {kind : Kind} (htype : get? entries "type" = some (.str kind.name)) :
    read (.map entries) place = .ok (primitiveOf entries kind) := by
  cases kind <;>
    simp only [read, optionsIn_eq, hany, hconst, henum, getD, htype, Kind.name, Option.map_none,
      Option.getD_some, primitiveOf]

theorem read_array (htype : get? entries "type" = some (.str "array")) :
    read (.map entries) place =
      (match get? entries "items" with
      | none => .error (.node (.missingItems place))
      | some item => do
        let item ← read item (Pointer.child place (.str "items"))
        .ok (.list item (getD entries "minItems") (getD entries "maxItems"))) := by
  simp only [read, optionsIn_eq, itemsIn_eq, hany, hconst, henum, getD, htype, Option.map_none,
    Option.getD_some]
  cases get? entries "items" <;> rfl

theorem read_object (htype : get? entries "type" = some (.str "object"))
    {properties : List (Value × Value)}
    (hp : (get? entries "properties").getD (.map []) = .map properties) :
    read (.map entries) place = (do
      let required ← declaredNames place entries
      let properties ← readFields properties (Pointer.child place (.str "properties"))
      ReadFailure.ofSchema (objectOf (properties.map fun (name, schema) =>
        (name, if name.isAmong required then schema else optional schema))
          (.bool (isStrict entries)))) := by
  have hin : propertiesIn entries (Pointer.child place (.str "properties")) =
      readFields properties (Pointer.child place (.str "properties")) := by
    rw [propertiesIn_eq]
    cases h : get? entries "properties" with
    | none =>
      rw [h] at hp
      cases hp
      rfl
    | some v =>
      rw [h] at hp
      cases hp
      rfl
  simp only [read, optionsIn_eq, hany, hconst, henum, getD, htype, Option.map_none,
    Option.getD_some, hin]
  rfl

end
end

/-! ## Reading nodes that are complete -/

/-- The value is read, at any place, if the proposition holds and not otherwise. -/
def Reads (v : Value) (p : Prop) : Prop := ∀ place, (∃ schema, read v place = .ok schema) ↔ p

theorem readAll_ok_iff {p : Value → Prop} (place : String) : ∀ {items : List Value} (index : Nat),
    (∀ item ∈ items, Reads item (p item)) →
      ((∃ schemas, readAll items place index = .ok schemas) ↔ ∀ item ∈ items, p item)
  | [], _, _ => by simp [readAll]
  | item :: items, index, h => by
    obtain ⟨hitem, hitems⟩ := List.forall_mem_cons.1 h
    rw [readAll, exists_bind_eq_ok, List.forall_mem_cons,
      ← hitem (Pointer.child place (.int index)), ← readAll_ok_iff place (index + 1) hitems]
    simp only [exists_bind_eq_ok, Except.ok.injEq, exists_eq', and_true]
    exact exists_and_right

/-- Names are written into the places below them. -/
theorem readFields_cons {name v : Value} {properties : Entries} {place : String}
    {fields : List (Value × Schema)} :
    readFields ((name, v) :: properties) place = .ok fields ↔ name.hasText = true ∧
      ∃ schema, read v (Pointer.child place name) = .ok schema ∧
      ∃ others, readFields properties place = .ok others ∧ (name, schema) :: others = fields := by
  simp only [readFields, bind_eq_ok, ofFault_eq_ok, Value.requireText_eq_ok, exists_const,
    Except.ok.injEq]

theorem readFields_ok_iff {p : Value → Prop} (place : String) : ∀ {properties : Entries},
    (∀ property ∈ properties, property.1.hasText = true) →
    (∀ property ∈ properties, Reads property.2 (p property.2)) →
      ((∃ fields, readFields properties place = .ok fields) ↔
        ∀ property ∈ properties, p property.2)
  | [], _, _ => by simp [readFields]
  | (name, v) :: properties, htexts, h => by
    obtain ⟨htext, htexts⟩ := List.forall_mem_cons.1 htexts
    obtain ⟨hv, hproperties⟩ := List.forall_mem_cons.1 h
    rw [List.forall_mem_cons, ← hv (Pointer.child place name),
      ← readFields_ok_iff place htexts hproperties]
    simp only [readFields_cons]
    constructor
    · rintro ⟨_, -, schema, hschema, others, hothers, -⟩
      exact ⟨⟨schema, hschema⟩, others, hothers⟩
    · rintro ⟨⟨schema, hschema⟩, others, hothers⟩
      exact ⟨_, htext, schema, hschema, others, hothers, rfl⟩

theorem readFields_names {place : String} : ∀ {properties : Entries}
    {fields : List (Value × Schema)}, readFields properties place = .ok fields →
      fields.map (·.1) = properties.map (·.1)
  | [], _, h => by
    obtain rfl := Except.ok.inj h
    rfl
  | _ :: _, _, h => by
    obtain ⟨-, schema, -, others, hothers, rfl⟩ := readFields_cons.1 h
    rw [List.map_cons, List.map_cons, readFields_names hothers]

section
variable {entries : Entries}

/-- The names that a node requires, none if there is no list of them. -/
theorem names_of_shaped (h : Shaped entries) : ∃ names : List String,
    (get? entries "required").getD (.list []) = .list (names.map .str) := by
  cases hr : get? entries "required" with
  | none => exact ⟨[], rfl⟩
  | some v =>
    obtain ⟨names, -, rfl⟩ := h.fits "required" v hr
    exact ⟨names, rfl⟩

theorem properties_of_shaped (h : Shaped entries) : ∃ properties,
    (get? entries "properties").getD (.map []) = .map properties := by
  cases hp : get? entries "properties" with
  | none => exact ⟨[], rfl⟩
  | some v =>
    obtain ⟨properties, rfl⟩ := h.fits "properties" v hp
    exact ⟨properties, rfl⟩

theorem textKeyed_properties (hkeys : (Value.map entries).TextKeyed) {properties : Entries}
    (hp : (get? entries "properties").getD (.map []) = .map properties) :
    (Value.map properties).TextKeyed := by
  cases h : get? entries "properties" with
  | none =>
    rw [h] at hp
    cases hp
    exact Value.textKeyed_map_iff.2 ⟨⟨[], rfl, List.nodup_nil⟩, nofun⟩
  | some v =>
    rw [h] at hp
    cases hp
    exact hkeys.of_get? h

theorem complete_object_iff (htype : get? entries "type" = some (.str "object"))
    {properties : Entries} {names : List String}
    (hp : (get? entries "properties").getD (.map []) = .map properties)
    (hr : (get? entries "required").getD (.list []) = .list (names.map .str)) :
    Complete entries ↔
      ∀ name ∈ names.map Value.str, (Value.lookup name properties).isSome = true := by
  simp only [List.forall_mem_map, Value.lookup_str_isSome_iff]
  constructor
  · intro h s hs
    cases hrequired : get? entries "required" with
    | none =>
      rw [hrequired] at hr
      obtain rfl : names = [] := by simpa using hr
      cases hs
    | some v =>
      rw [hrequired, Option.getD_some] at hr
      subst hr
      obtain ⟨declared, hdeclared, hmem⟩ :=
        h.declared htype _ hrequired (.str s) (List.mem_map_of_mem hs)
      rw [hdeclared, Option.getD_some, Value.map.injEq] at hp
      exact hp ▸ hmem
  · intro h
    refine ⟨fun harray => ?_, fun _ required hrequired name hname => ?_⟩
    · simp [htype] at harray
    · rw [hrequired, Option.getD_some, Value.list.injEq] at hr
      subst hr
      obtain ⟨s, hs, rfl⟩ := List.mem_map.1 hname
      have hmem := h s hs
      cases hproperties : get? entries "properties" with
      | none =>
        rw [hproperties] at hp
        cases hp
        cases hmem
      | some v =>
        rw [hproperties, Option.getD_some] at hp
        exact ⟨properties, by rw [hp], hmem⟩

theorem objectOf_ok {properties : Entries} (hkeys : (Value.map properties).TextKeyed)
    {place : String} {fields : List (Value × Schema)}
    (h : readFields properties place = .ok fields) (flag : Value × Schema → Schema)
    (strict : Value) :
    ∃ schema, objectOf (fields.map fun field => (field.1, flag field)) strict = .ok schema := by
  obtain ⟨⟨names, hnames, hnodup⟩, -⟩ := Value.textKeyed_map_iff.1 hkeys
  have hfields : (fields.map fun field => (field.1, flag field)).map (·.1) = names.map .str := by
    rw [List.map_map, ← hnames, ← readFields_names h]
    rfl
  exact ⟨_, objectOf_eq_ok.2 ⟨_, checkedFields_eq hfields hnodup nofun, rfl⟩⟩

/-- An object is read if its required names are declared and its properties are read. -/
theorem read_object_ok_iff (hany : get? entries "anyOf" = none)
    (hconst : get? entries "const" = none) (henum : get? entries "enum" = none)
    (htype : get? entries "type" = some (.str "object")) {properties : Entries}
    {names : List String} (hp : (get? entries "properties").getD (.map []) = .map properties)
    (hr : (get? entries "required").getD (.list []) = .list (names.map .str))
    (hkeys : (Value.map properties).TextKeyed) (place : String) :
    (∃ schema, read (.map entries) place = .ok schema) ↔ Complete entries ∧
      ∃ fields, readFields properties (Pointer.child place (.str "properties")) = .ok fields := by
  have hnames : ∀ name ∈ names.map Value.str, name.isKey = true := by simp [Value.isKey]
  rw [read_object place hany hconst henum htype hp, complete_object_iff htype hp hr]
  simp only [exists_bind_eq_ok, declaredNames_eq_ok hp hr hnames, ofSchema_eq_ok]
  constructor
  · rintro ⟨_, ⟨-, hdeclared⟩, fields, hfields, -⟩
    exact ⟨hdeclared, fields, hfields⟩
  · rintro ⟨hdeclared, fields, hfields⟩
    exact ⟨_, ⟨rfl, hdeclared⟩, fields, hfields, objectOf_ok hkeys hfields _ _⟩

end

/-- A node is read if and only if all nodes in it that are converted are complete. -/
theorem read_ok_iff {v : Value} (h : Node v) (hkeys : v.TextKeyed) :
    Reads v (∀ node, Converted v node → Complete node) := by
  induction h with
  | @mk entries shaped options items properties ihoptions ihitems ihproperties =>
    intro place
    cases nodeKind_of_shaped shaped with
    | @anyOf items' hany htype =>
      have hitems := Value.textKeyed_list_iff.1 (hkeys.of_get? hany)
      have hreads := fun item hitem => ihoptions items' hany item hitem (hitems item hitem)
      have hcomplete : Complete entries := complete_of_ne (by simp [htype]) (by simp [htype])
      rw [forall_converted_anyOf hany htype, and_iff_right hcomplete, read_anyOf place hany,
        exists_bind_eq_ok]
      simp only [Except.ok.injEq, exists_eq', and_true, readAll_ok_iff _ _ hreads]
    | const hany hconst htype =>
      have hcomplete : Complete entries := complete_of_ne (by simp [htype]) (by simp [htype])
      rw [forall_converted_leaf hany (by simp [htype]) (by simp [htype]),
        read_const place hany hconst]
      exact iff_of_true ⟨_, rfl⟩ hcomplete
    | enum hany hconst henum htype =>
      have hcomplete : Complete entries := complete_of_ne (by simp [htype]) (by simp [htype])
      rw [forall_converted_leaf hany (by simp [htype]) (by simp [htype]),
        read_enum place hany hconst henum]
      exact iff_of_true ⟨_, rfl⟩ hcomplete
    | @primitive kind hany hconst henum htype =>
      have hne : kind.name ≠ "array" ∧ kind.name ≠ "object" := by cases kind <;> decide
      have hcomplete : Complete entries :=
        complete_of_ne (by simp [htype, hne]) (by simp [htype, hne])
      rw [forall_converted_leaf hany (by simp [htype, hne]) (by simp [htype, hne]),
        read_primitive place hany hconst henum htype]
      exact iff_of_true ⟨_, rfl⟩ hcomplete
    | array hany hconst henum htype =>
      rw [read_array place hany hconst henum htype]
      cases hitem : get? entries "items" with
      | none =>
        refine iff_of_false (by simp) fun hall => ?_
        obtain ⟨item, hsome⟩ := (hall entries .here).item htype
        cases hitem.symm.trans hsome
      | some item =>
        have hcomplete : Complete entries := ⟨fun _ => ⟨item, hitem⟩, by simp [htype]⟩
        have hread := ihitems item hitem (hkeys.of_get? hitem)
        rw [forall_converted_array hany htype hitem, and_iff_right hcomplete, exists_bind_eq_ok]
        simp only [Except.ok.injEq, exists_eq', and_true, hread _]
    | object hany hconst henum htype =>
      obtain ⟨names, hr⟩ := names_of_shaped shaped
      obtain ⟨properties', hp⟩ := properties_of_shaped shaped
      have hproperties := textKeyed_properties hkeys hp
      have hreads := (forall_properties_iff hp).1 ihproperties
      have hreads := fun property hmem => hreads property hmem
        ((Value.textKeyed_map_iff.1 hproperties).2 property hmem)
      rw [forall_converted_object hany htype, forall_properties_iff hp,
        read_object_ok_iff hany hconst henum htype hp hr hproperties,
        readFields_ok_iff (p := fun v => ∀ node, Converted v node → Complete node) _
          hproperties.name_hasText hreads]

end Schema

end Conform
