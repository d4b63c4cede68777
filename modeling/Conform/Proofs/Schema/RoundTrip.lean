import Conform.Proofs.Outcome
import Conform.Proofs.Schema.Keywords
import Mathlib.Data.List.Nodup

/-!
# Rendering and reading

Schemas that have been built (`Built`) are rendered without an error, and what comes out reads back
as the very same schema, wherever it stands (`ReadsBack`). This is an induction over how the schema
was built; the fields of an object, rendered as a mapping and a list of required names, are put
together again in `readsBack_object`. Schemas that were read are among those that have been built
(`built_of_read`), so from the first reading on nothing changes any more.
-/

namespace Conform.Schema

/-! ## Built schemas -/

/-- A field as it is given to `objectOf`. -/
structure Field where
  name : Value
  required : Bool
  schema : Schema

namespace Field

/-- A schema by itself is a required field. -/
def argument (field : Field) : Value × Schema :=
  (field.name, if field.required then field.schema else optional field.schema)

def entry (field : Field) : Entry := .named field.name (.field field.schema (.bool field.required))

end Field

/-- The schemas that are made with the functions of `Conform.Schema.Build`. -/
inductive Built : Schema → Prop
  | string (minLength maxLength pattern format : Value) :
      Built (string { minLength, maxLength, pattern, format })
  | number (minimum maximum : Value) : Built (number minimum maximum)
  | boolean : Built boolean
  | null : Built null
  | literal (value : Value) : Built (.literal value)
  | enumOf (values : List Value) : Built (enumOf values)
  | list {item : Schema} (minItems maxItems : Value) :
      Built item → Built (.list item minItems maxItems)
  | unionOf {options : List Schema} : (∀ option ∈ options, Built option) → Built (unionOf options)
  | objectOf {fields : List Field} {strict : Bool} {schema : Schema} :
      (∀ field ∈ fields, Built field.schema) →
      objectOf (fields.map Field.argument) (.bool strict) = .ok schema → Built schema

theorem objectOf_eq_ok {fields : List (Value × Schema)} {strict : Value} {schema : Schema} :
    Schema.objectOf fields strict = .ok schema ↔
      ∃ entries, checkedFields [] fields = .ok entries ∧ .object entries strict = schema := by
  simp only [Schema.objectOf, bind_eq_ok, Except.ok.injEq]

theorem unionOf_eq_union (options : List Schema) :
    ∃ alternatives, Schema.unionOf options = .union alternatives := by
  unfold Schema.unionOf
  split
  · split
    · exact ⟨_, rfl⟩
    · exact ⟨_, rfl⟩
  · exact ⟨_, rfl⟩

/-- Neither field nodes nor values in place of nodes are built. -/
theorem Built.ne {schema : Schema} (h : Built schema) :
    (∀ node required, schema ≠ .field node required) ∧ ∀ v, schema ≠ .other v := by
  cases h with
  | @unionOf options =>
    obtain ⟨alternatives, heq⟩ := unionOf_eq_union options
    rw [heq]
    constructor <;> nofun
  | objectOf _ h =>
    obtain ⟨entries, -, rfl⟩ := objectOf_eq_ok.1 h
    constructor <;> nofun
  | _ => constructor <;> nofun

theorem unionOf_eq {options : List Schema} (h : ∀ option ∈ options, Built option) :
    Schema.unionOf options = .union options := by
  unfold Schema.unionOf
  split
  · rename_i v
    exact absurd rfl ((h _ List.mem_cons_self).ne.2 v)
  · rfl

/-- Every field becomes a field node under its name; the names are strings, new and distinct. -/
theorem of_checkedFields : ∀ {fields : List (Value × Schema)} {seen : List String}
    {entries : List Entry}, checkedFields seen fields = .ok entries →
      (fields.map fun field => .named field.1 (asField field.2)) = entries ∧
      ∃ names : List String, fields.map (·.1) = names.map .str ∧ names.Nodup ∧
        ∀ name ∈ names, name ∉ seen
  | [], _, _, h => ⟨Except.ok.inj h, [], rfl, List.nodup_nil, nofun⟩
  | (key, node) :: rest, seen, _, h => by
    cases key with
    | str name =>
      simp only [checkedFields] at h
      split at h
      · cases h
      · rename_i hseen
        obtain ⟨others, ho, h⟩ := bind_eq_ok.1 h
        obtain rfl := Except.ok.inj h
        obtain ⟨rfl, names, hnames, hnodup, hnew⟩ := of_checkedFields ho
        refine ⟨rfl, name :: names, by rw [List.map_cons, hnames, List.map_cons], ?_, ?_⟩
        · rw [List.nodup_cons]
          exact ⟨fun hn => hnew name hn List.mem_cons_self, hnodup⟩
        · intro n hn
          rcases List.mem_cons.1 hn with rfl | hn
          · simpa using hseen
          · exact fun hs => hnew n hn (List.mem_cons_of_mem name hs)
    | _ => cases h

/-- Fields under distinct names are accepted. -/
theorem checkedFields_eq : ∀ {names : List String} {fields : List (Value × Schema)}
    {seen : List String}, fields.map (·.1) = names.map .str → names.Nodup →
      (∀ name ∈ names, name ∉ seen) →
      checkedFields seen fields = .ok (fields.map fun field => .named field.1 (asField field.2))
  | _, [], _, _, _, _ => rfl
  | [], _ :: _, _, h, _, _ => by cases h
  | name :: names, (_, node) :: fields, seen, h, hn, hnew => by
    simp only [List.map_cons, List.cons.injEq] at h
    obtain ⟨rfl, h⟩ := h
    obtain ⟨hname, hn⟩ := List.nodup_cons.1 hn
    obtain ⟨hseen, hnew⟩ := List.forall_mem_cons.1 hnew
    have hrest : ∀ other ∈ names, other ∉ name :: seen := fun other hother hmem => by
      rcases List.mem_cons.1 hmem with rfl | hmem
      · exact hname hother
      · exact hnew other hother hmem
    rw [checkedFields, if_neg (by simpa using hseen), checkedFields_eq h hn hrest]
    rfl

/-- The fields of an object that has been built: each entry is a field node with its flag, and the
names are strings that differ from each other. -/
theorem of_objectOf {fields : List Field} {strict : Value} {schema : Schema}
    (hf : ∀ field ∈ fields, Built field.schema)
    (h : Schema.objectOf (fields.map Field.argument) strict = .ok schema) :
    schema = .object (fields.map Field.entry) strict ∧
      ∃ names : List String, fields.map Field.name = names.map .str ∧ names.Nodup := by
  obtain ⟨entries, he, rfl⟩ := objectOf_eq_ok.1 h
  obtain ⟨rfl, names, hnames, hnodup, -⟩ := of_checkedFields he
  rw [List.map_map] at hnames
  refine ⟨?_, names, hnames, hnodup⟩
  rw [List.map_map]
  congr 1
  refine List.map_congr_left fun field hfield => ?_
  have hne := (hf field hfield).ne.1
  simp only [Function.comp_apply, Field.argument, Field.entry]
  cases field.required with
  | false => rfl
  | true =>
    simp only [if_true]
    unfold asField
    split
    · rename_i node required heq
      exact absurd heq (hne node required)
    · rfl

/-! ## Reading what has been rendered -/

/-- The schema is rendered, and reads back as it is. -/
def ReadsBack (schema : Schema) : Prop :=
  ∃ rendered, schema.render = .ok rendered ∧ ∀ place, read rendered place = .ok schema

theorem readsBack_string (minLength maxLength pattern format : Value) :
    ReadsBack (string { minLength, maxLength, pattern, format }) := by
  refine ⟨_, rfl, fun place => ?_⟩
  simp [read, optionsIn_eq, getD, stringRefinements, Kind.name]

theorem readsBack_number (minimum maximum : Value) : ReadsBack (number minimum maximum) := by
  refine ⟨_, rfl, fun place => ?_⟩
  simp [read, optionsIn_eq, getD, Kind.name]

theorem readsBack_literal (value : Value) : ReadsBack (.literal value) := by
  refine ⟨_, rfl, fun place => ?_⟩
  simp [read, optionsIn_eq]

theorem readsBack_list {item : Schema} (minItems maxItems : Value) (h : item.ReadsBack) :
    ReadsBack (.list item minItems maxItems) := by
  obtain ⟨rendered, hrender, hread⟩ := h
  refine ⟨_, by rw [render, hrender, ok_bind], fun place => ?_⟩
  simp [read, optionsIn_eq, itemsIn_eq, getD, hread]

theorem readAll_of_readsBack : ∀ {options : List Schema}, (∀ option ∈ options, option.ReadsBack) →
    ∃ rendered, renderAll options = .ok rendered ∧
      ∀ place index, readAll rendered place index = .ok options
  | [], _ => ⟨[], rfl, fun _ _ => rfl⟩
  | option :: options, h => by
    obtain ⟨hoption, hoptions⟩ := List.forall_mem_cons.1 h
    obtain ⟨first, hrender, hread⟩ := hoption
    obtain ⟨others, hrenders, hreads⟩ := readAll_of_readsBack hoptions
    refine ⟨first :: others, ?_, fun place index => ?_⟩
    · simp only [renderAll, hrender, hrenders, ok_bind]
    · simp only [readAll, hread, hreads, ok_bind]

/-- An only option is no list of options, so it stays the only one. -/
theorem readsBack_union {options : List Schema} (hb : ∀ option ∈ options, Built option)
    (h : ∀ option ∈ options, option.ReadsBack) : ReadsBack (.union options) := by
  obtain ⟨rendered, hrender, hread⟩ := readAll_of_readsBack h
  refine ⟨_, by rw [render, hrender, ok_bind], fun place => ?_⟩
  simp [read, optionsIn_eq, readOptions, hread, unionOf_eq hb]

/-! ## Objects -/

theorem renderAssignments_entries : ∀ {fields : List Field},
    (∀ field ∈ fields, ∃ s, field.name = .str s) → (∀ field ∈ fields, field.schema.ReadsBack) →
      ∃ properties, renderAssignments (fields.map Field.entry) = .ok properties ∧
        properties.map (·.1) = fields.map Field.name ∧
        ∀ place, readFields properties place =
          .ok (fields.map fun field => (field.name, field.schema))
  | [], _, _ => ⟨[], rfl, rfl, fun _ => rfl⟩
  | f :: fields, hs, h => by
    obtain ⟨⟨s, hname⟩, hstrings⟩ := List.forall_mem_cons.1 hs
    obtain ⟨⟨first, hrender, hread⟩, hfields⟩ := List.forall_mem_cons.1 h
    obtain ⟨others, hrenders, hnames, hreads⟩ := renderAssignments_entries hstrings hfields
    have htext : ReadFailure.ofFault (Value.str s).requireText = .ok () := rfl
    refine ⟨(f.name, first) :: others, ?_, ?_, fun place => ?_⟩
    · simp [renderAssignments, Field.entry, hrender, hname, Value.isKey, hrenders]
    · rw [List.map_cons, List.map_cons, hnames]
    · simp only [readFields, hread, hreads, ok_bind, List.map_cons, hname, htext]

theorem requiredNames_entries : ∀ fields : List Field,
    requiredNames (fields.map Field.entry) = (fields.filter Field.required).map Field.name
  | [] => rfl
  | ⟨name, required, schema⟩ :: fields => by
    simp only [List.map_cons, Field.entry, requiredNames, Value.truthy, List.filter_cons]
    cases required with
    | false => exact requiredNames_entries fields
    | true => exact congrArg (name :: ·) (requiredNames_entries fields)

theorem name_of_mem {fields : List Field} {names : List String}
    (hnames : fields.map Field.name = names.map .str) {field : Field} (hf : field ∈ fields) :
    ∃ s ∈ names, field.name = .str s := by
  have hmem : field.name ∈ fields.map Field.name := List.mem_map_of_mem hf
  rw [hnames] at hmem
  obtain ⟨s, hs, heq⟩ := List.mem_map.1 hmem
  exact ⟨s, hs, heq.symm⟩

/-- Fields with the same text for a name are the same. -/
theorem eq_of_name {fields : List Field} {names : List String} {field other : Field}
    (hnames : fields.map Field.name = names.map .str) (hnodup : names.Nodup)
    (hfield : field ∈ fields) (hother : other ∈ fields) (h : field.name.text = other.name.text) :
    field = other := by
  have hdistinct : (fields.map Field.name).Nodup := by
    rw [hnames]
    exact hnodup.map fun _ _ => Value.str.inj
  obtain ⟨s, -, hs⟩ := name_of_mem hnames hfield
  obtain ⟨t, -, ht⟩ := name_of_mem hnames hother
  rw [hs, ht] at h
  obtain rfl : s = t := h
  exact List.inj_on_of_nodup_map hdistinct hfield hother (hs.trans ht.symm)

/-- The list of required names says which of the fields are required, since the names differ. -/
theorem isAmong_required {fields : List Field} {names : List String}
    (hnames : fields.map Field.name = names.map .str) (hnodup : names.Nodup) {field : Field}
    (hf : field ∈ fields) :
    field.name.isAmong ((fields.filter Field.required).map Field.name) = field.required := by
  obtain ⟨s, -, hs⟩ := name_of_mem hnames hf
  rw [Bool.eq_iff_iff]
  simp only [Value.isAmong, List.any_eq_true, List.mem_map, List.mem_filter]
  constructor
  · rintro ⟨_, ⟨other, ⟨ho, hrequired⟩, rfl⟩, hsame⟩
    obtain ⟨t, -, ht⟩ := name_of_mem hnames ho
    rw [hs, ht, Value.same_str, beq_iff_eq] at hsame
    have hname : field.name.text = other.name.text := by rw [hs, ht, hsame]
    rwa [eq_of_name hnames hnodup hf ho hname]
  · intro hrequired
    exact ⟨field.name, ⟨field, ⟨hf, hrequired⟩, rfl⟩, by rw [hs, Value.same_str, beq_self_eq_true]⟩

theorem filterAuxM_of_all_ok {p : Value → Except Fault Bool} {q : Value → Bool} :
    ∀ {names : List Value}, (∀ name ∈ names, p name = .ok (q name)) →
      ∀ kept, names.filterAuxM p kept = .ok ((names.filter q).reverse ++ kept)
  | [], _, _ => rfl
  | name :: names, h, kept => by
    obtain ⟨hname, hnames⟩ := List.forall_mem_cons.1 h
    rw [List.filterAuxM, hname, ok_bind, filterAuxM_of_all_ok hnames, List.filter_cons]
    cases q name <;> simp

theorem filterM_of_all_ok {p : Value → Except Fault Bool} {q : Value → Bool} {names : List Value}
    (h : ∀ name ∈ names, p name = .ok (q name)) : names.filterM p = .ok (names.filter q) := by
  rw [List.filterM, filterAuxM_of_all_ok h, ok_bind, List.append_nil, List.reverse_reverse]
  rfl

theorem forall_of_filterAuxM {p : Value → Except Fault Bool} : ∀ {names kept result : List Value},
    names.filterAuxM p kept = .ok result → ∀ name ∈ names, ∃ b, p name = .ok b
  | [], _, _, _ => List.forall_mem_nil _
  | name :: names, _, _, h => by
    obtain ⟨b, hname, h⟩ := bind_eq_ok.1 h
    exact List.forall_mem_cons.2 ⟨⟨b, hname⟩, forall_of_filterAuxM h⟩

/-- A test that has been made on all names says of each which way it went. -/
theorem exists_of_filterM {p : Value → Except Fault Bool} {names kept : List Value}
    (h : names.filterM p = .ok kept) :
    ∃ q : Value → Bool, (∀ name ∈ names, p name = .ok (q name)) ∧ names.filter q = kept := by
  obtain ⟨result, hresult, -⟩ := bind_eq_ok.1 h
  have hp : ∀ name ∈ names, p name = .ok ((p name).toOption.getD false) := fun name hname => by
    obtain ⟨b, hb⟩ := forall_of_filterAuxM hresult name hname
    rw [hb]
    rfl
  exact ⟨_, hp, Except.ok.inj ((filterM_of_all_ok hp).symm.trans h)⟩

/-- The required names are read if they are among the properties. -/
theorem declaredNames_eq_ok {entries properties : List (Value × Value)}
    {required result : List Value} {place : String}
    (hp : (get? entries "properties").getD (.map []) = .map properties)
    (hr : (get? entries "required").getD (.list []) = .list required)
    (hk : ∀ name ∈ required, name.isKey = true) :
    declaredNames place entries = .ok result ↔
      required = result ∧ ∀ name ∈ required, (Value.lookup name properties).isSome = true := by
  have hcontains : ∀ name ∈ required, (do
      let declared ← (Value.map properties).contains name
      .ok !declared : Except Fault Bool) = .ok !(Value.lookup name properties).isSome := by
    intro name hn
    simp [Value.contains, hk name hn]
  have hundeclared : (required.filter fun name => !(Value.lookup name properties).isSome) = [] ↔
      ∀ name ∈ required, (Value.lookup name properties).isSome = true := by
    simp only [List.filter_eq_nil_iff, Bool.not_eq_true', Bool.not_eq_false]
  simp only [declaredNames, hp, hr, Value.elements, ReadFailure.ofFault, ok_bind,
    filterM_of_all_ok hcontains, List.isEmpty_iff]
  by_cases h : ∀ name ∈ required, (Value.lookup name properties).isSome = true
  · rw [if_pos (hundeclared.2 h), Except.ok.injEq, and_iff_left h]
  · rw [if_neg (mt hundeclared.1 h)]
    refine iff_of_false (fun hok => ?_) fun hresult => h hresult.2
    obtain ⟨_, -, hok⟩ := bind_eq_ok.1 hok
    cases hok

/-- How an object is read, by its keywords. -/
theorem read_objectKeywords {properties : List (Value × Value)} {required : List Value}
    {strict : Bool} {place : String} {fields : List (Value × Schema)}
    (hk : ∀ name ∈ required, name.isKey = true ∧ (Value.lookup name properties).isSome = true)
    (hread : readFields properties (Pointer.child place (.str "properties")) = .ok fields) :
    read (.map (objectKeywords properties required strict)) place =
      ReadFailure.ofSchema (Schema.objectOf
        (fields.map fun (name, schema) =>
          (name, if name.isAmong required then schema else optional schema)) (.bool strict)) := by
  have hrequired : (get? (objectKeywords properties required strict) "required").getD (.list []) =
      .list required := by
    cases strict <;> cases required <;> simp [objectKeywords]
  have hproperties :
      get? (objectKeywords properties required strict) "properties" = some (.map properties) := by
    simp [objectKeywords]
  have hdeclared : declaredNames place (objectKeywords properties required strict) =
      .ok required :=
    (declaredNames_eq_ok (by rw [hproperties, Option.getD_some]) hrequired fun name hn =>
      (hk name hn).1).2 ⟨rfl, fun name hn => (hk name hn).2⟩
  have htype : getD (objectKeywords properties required strict) "type" = .str "object" := by
    simp [getD, objectKeywords]
  have hstrict : get? (objectKeywords properties required strict) "additionalProperties" =
      if strict then some (.bool false) else none := by
    cases strict <;> cases required <;> simp [objectKeywords]
  have habsent : ∀ name ∈ ["anyOf", "const", "enum"],
      get? (objectKeywords properties required strict) name = none := by
    cases strict <;> cases required <;> simp [objectKeywords]
  simp only [List.forall_mem_cons] at habsent
  obtain ⟨hany, hconst, henum, -⟩ := habsent
  simp only [read, optionsIn_eq, hany, hconst, henum, htype, Option.map_none,
    hdeclared, propertiesIn_eq, hproperties, Option.map_some,
    Option.getD_some, readProperties, hread, ok_bind, hstrict]
  cases strict <;> rfl

theorem readsBack_object {fields : List Field} {strict : Bool} {schema : Schema}
    (hf : ∀ field ∈ fields, Built field.schema) (ih : ∀ field ∈ fields, field.schema.ReadsBack)
    (h : Schema.objectOf (fields.map Field.argument) (.bool strict) = .ok schema) :
    schema.ReadsBack := by
  obtain ⟨heq, names, hnames, hnodup⟩ := of_objectOf hf h
  have hstrings : ∀ field ∈ fields, ∃ s, field.name = .str s := fun field hfield => by
    obtain ⟨s, -, hs⟩ := name_of_mem hnames hfield
    exact ⟨s, hs⟩
  obtain ⟨properties, hrender, hnames', hread⟩ := renderAssignments_entries hstrings ih
  have hassign : Value.ofAssignments properties = properties :=
    Value.ofAssignments_eq (hnames'.trans hnames) hnodup
  have hdeclared : ∀ name ∈ (fields.filter Field.required).map Field.name,
      name.isKey = true ∧ (Value.lookup name properties).isSome = true := fun name hname => by
    obtain ⟨field, hfield, rfl⟩ := List.mem_map.1 hname
    have hmem := (List.mem_filter.1 hfield).1
    obtain ⟨s, hs, heq⟩ := name_of_mem hnames hmem
    rw [heq]
    exact ⟨rfl, Value.lookup_isSome_of_mem (hnames'.trans hnames) hs⟩
  have harguments : (fields.map fun field => (field.name, field.schema)).map (fun (name, schema) =>
      (name, if name.isAmong ((fields.filter Field.required).map Field.name) then schema
        else optional schema)) = fields.map Field.argument := by
    rw [List.map_map]
    refine List.map_congr_left fun field hfield => ?_
    simp only [Function.comp_apply, isAmong_required hnames hnodup hfield, Field.argument]
  refine ⟨.map (objectKeywords properties ((fields.filter Field.required).map Field.name) strict),
    ?_, fun place => ?_⟩
  · rw [heq, render, hrender, ok_bind, hassign, requiredNames_entries]
    rfl
  · rw [read_objectKeywords hdeclared (hread _), harguments, h]
    rfl

theorem Built.readsBack {schema : Schema} (h : Built schema) : schema.ReadsBack := by
  induction h with
  | string minLength maxLength pattern format =>
    exact readsBack_string minLength maxLength pattern format
  | number minimum maximum => exact readsBack_number minimum maximum
  | boolean => exact ⟨_, rfl, fun _ => rfl⟩
  | null => exact ⟨_, rfl, fun _ => rfl⟩
  | literal value => exact readsBack_literal value
  | enumOf values =>
    refine readsBack_union (fun option ho => ?_) fun option ho => ?_
    · obtain ⟨value, -, rfl⟩ := List.mem_map.1 ho
      exact .literal value
    · obtain ⟨value, -, rfl⟩ := List.mem_map.1 ho
      exact readsBack_literal value
  | list minItems maxItems _ ih => exact readsBack_list minItems maxItems ih
  | unionOf ho ih =>
    rw [unionOf_eq ho]
    exact readsBack_union ho ih
  | objectOf hf ho ih => exact readsBack_object hf ih ho

/-! ## What has been read has been built -/

/-- What is no list of options is read only if it is empty. -/
theorem built_of_noOptions {v : Value} {place : String} {options : List Schema}
    (h : noOptions place v = .ok options) : options = [] := by
  obtain ⟨items, -, h⟩ := bind_eq_ok.1 h
  cases items with
  | nil => exact (Except.ok.inj h).symm
  | cons => cases h

/-- An object whose fields have been read, each with a flag. -/
theorem built_object {properties : List (Value × Schema)} {required : List Value} {strict : Bool}
    {schema : Schema} (hp : ∀ property ∈ properties, Built property.2)
    (h : Schema.objectOf (properties.map fun (name, schema) =>
      (name, if name.isAmong required then schema else optional schema)) (.bool strict) =
        .ok schema) : Built schema := by
  let fields := properties.map fun (name, schema) => Field.mk name (name.isAmong required) schema
  have hfields : ∀ field ∈ fields, Built field.schema := by
    intro field hfield
    obtain ⟨property, hproperty, rfl⟩ := List.mem_map.1 hfield
    exact hp property hproperty
  have harguments : Schema.objectOf (fields.map Field.argument) (.bool strict) = .ok schema := by
    rw [List.map_map]
    exact h
  exact .objectOf hfields harguments

mutual

theorem built_of_read (v : Value) {place : String} {schema : Schema}
    (h : read v place = .ok schema) : Built schema := by
  cases v with
  | map entries =>
    simp only [read] at h
    split at h
    · rename_i options ho
      obtain ⟨options, rfl, h⟩ := bind_eq_ok.1 h
      obtain rfl := Except.ok.inj h
      exact .unionOf (built_of_optionsIn entries ho)
    · split at h
      · obtain rfl := Except.ok.inj h
        exact .literal _
      · obtain ⟨values, -, h⟩ := bind_eq_ok.1 h
        obtain rfl := Except.ok.inj h
        exact .enumOf values
      · split at h
        · obtain rfl := Except.ok.inj h
          exact .string _ _ _ _
        · obtain rfl := Except.ok.inj h
          exact .number _ _
        · obtain rfl := Except.ok.inj h
          exact .boolean
        · obtain rfl := Except.ok.inj h
          exact .null
        · split at h
          · cases h
          · rename_i item hi
            obtain ⟨item, rfl, h⟩ := bind_eq_ok.1 h
            obtain rfl := Except.ok.inj h
            exact .list _ _ (built_of_itemsIn entries hi)
        · obtain ⟨required, -, h⟩ := bind_eq_ok.1 h
          obtain ⟨properties, hp, h⟩ := bind_eq_ok.1 h
          exact built_object (built_of_propertiesIn entries hp) (ofSchema_eq_ok.1 h)
        · cases h
  | _ => cases h
termination_by structural v

theorem built_of_optionsIn (entries : List (Value × Value)) {place : String}
    {options : List Schema} (h : optionsIn entries place = some (.ok options)) :
    ∀ option ∈ options, Built option := by
  cases entries with
  | nil => cases h
  | cons entry rest =>
    obtain ⟨key, v⟩ := entry
    simp only [optionsIn] at h
    split at h
    · exact built_of_readOptions v (Option.some.inj h)
    · exact built_of_optionsIn rest h
termination_by structural entries

theorem built_of_readOptions (v : Value) {place : String} {options : List Schema}
    (h : readOptions v place = .ok options) : ∀ option ∈ options, Built option := by
  cases v with
  | list items => exact built_of_readAll items h
  | tuple items => exact built_of_readAll items h
  | _ =>
    obtain rfl := built_of_noOptions h
    nofun
termination_by structural v

theorem built_of_readAll (items : List Value) {place : String} {index : Nat}
    {options : List Schema} (h : readAll items place index = .ok options) :
    ∀ option ∈ options, Built option := by
  cases items with
  | nil =>
    obtain rfl := Except.ok.inj h
    nofun
  | cons v rest =>
    obtain ⟨first, hf, h⟩ := bind_eq_ok.1 h
    obtain ⟨others, ho, h⟩ := bind_eq_ok.1 h
    obtain rfl := Except.ok.inj h
    exact List.forall_mem_cons.2 ⟨built_of_read v hf, built_of_readAll rest ho⟩
termination_by structural items

theorem built_of_itemsIn (entries : List (Value × Value)) {place : String} {item : Schema}
    (h : itemsIn entries place = some (.ok item)) : Built item := by
  cases entries with
  | nil => cases h
  | cons entry rest =>
    obtain ⟨key, v⟩ := entry
    simp only [itemsIn] at h
    split at h
    · exact built_of_read v (Option.some.inj h)
    · exact built_of_itemsIn rest h
termination_by structural entries

theorem built_of_propertiesIn (entries : List (Value × Value)) {place : String}
    {properties : List (Value × Schema)} (h : propertiesIn entries place = .ok properties) :
    ∀ property ∈ properties, Built property.2 := by
  cases entries with
  | nil =>
    obtain rfl := Except.ok.inj h
    nofun
  | cons entry rest =>
    obtain ⟨key, v⟩ := entry
    simp only [propertiesIn] at h
    split at h
    · exact built_of_readProperties v h
    · exact built_of_propertiesIn rest h
termination_by structural entries

theorem built_of_readProperties (v : Value) {place : String}
    {properties : List (Value × Schema)} (h : readProperties v place = .ok properties) :
    ∀ property ∈ properties, Built property.2 := by
  cases v with
  | map entries => exact built_of_readFields entries h
  | _ => cases h
termination_by structural v

theorem built_of_readFields (entries : List (Value × Value)) {place : String}
    {properties : List (Value × Schema)} (h : readFields entries place = .ok properties) :
    ∀ property ∈ properties, Built property.2 := by
  cases entries with
  | nil =>
    obtain rfl := Except.ok.inj h
    nofun
  | cons entry rest =>
    obtain ⟨name, v⟩ := entry
    obtain ⟨_, -, h⟩ := bind_eq_ok.1 h
    obtain ⟨first, hf, h⟩ := bind_eq_ok.1 h
    obtain ⟨others, ho, h⟩ := bind_eq_ok.1 h
    obtain rfl := Except.ok.inj h
    exact List.forall_mem_cons.2 ⟨built_of_read v hf, built_of_readFields rest ho⟩
termination_by structural entries

end

/-- A schema that has been built reads back after rendering. One that has been read has been built:
rendered, it reads as the same schema again, which is rendered in the same way. -/
theorem read_render :
    (∀ schema, Built schema → ∃ rendered, schema.render = .ok rendered ∧
      ∀ place, read rendered place = .ok schema) ∧
    ∀ node place schema, read node place = .ok schema →
      ∃ rendered, schema.render = .ok rendered ∧
        ∀ place, ∃ again, read rendered place = .ok again ∧ again = schema ∧
          again.render = .ok rendered := by
  refine ⟨fun schema h => h.readsBack, fun node place schema h => ?_⟩
  obtain ⟨rendered, hrender, hread⟩ := (built_of_read node h).readsBack
  exact ⟨rendered, hrender, fun place => ⟨schema, hread place, rfl, hrender⟩⟩

/-- A strict object with fields named like keywords, one of which may be absent and has to be null,
and a node that is not written the way it is rendered. -/
theorem read_render_keywords :
    (∃ schema, Built schema ∧
      schema = .object
        [.named (.str "const") (.field (.literal .null) (.bool false)),
         .named (.str "anyOf") (.field (string { minLength := .int 1 }) (.bool true))]
        (.bool true) ∧
      ∃ rendered, schema.render = .ok rendered ∧ ∀ place, read rendered place = .ok schema) ∧
    read (.map [(.str "enum", .tuple [.int 1, .null])]) "" = .ok (enumOf [.int 1, .null]) ∧
    ∃ rendered, (enumOf [.int 1, .null]).render = .ok rendered ∧
      ∀ place, ∃ again, read rendered place = .ok again ∧ again = enumOf [.int 1, .null] ∧
        again.render = .ok rendered := by
  have hbuilt : Built (.object
      [.named (.str "const") (.field (.literal .null) (.bool false)),
       .named (.str "anyOf") (.field (string { minLength := .int 1 }) (.bool true))]
      (.bool true)) := by
    let fields : List Field := [⟨.str "const", false, .literal .null⟩,
      ⟨.str "anyOf", true, string { minLength := .int 1 }⟩]
    have hfields : ∀ field ∈ fields, Built field.schema :=
      List.forall_mem_cons.2 ⟨.literal .null,
        List.forall_mem_cons.2 ⟨.string (.int 1) .null .null .null, nofun⟩⟩
    exact .objectOf hfields rfl
  have henum : read (.map [(.str "enum", .tuple [.int 1, .null])]) "" =
      .ok (enumOf [.int 1, .null]) := rfl
  exact ⟨⟨_, hbuilt, rfl, read_render.1 _ hbuilt⟩, henum, read_render.2 _ _ _ henum⟩

end Conform.Schema
