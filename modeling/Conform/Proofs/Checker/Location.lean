import Conform.Proofs.Checker.Refusal
import Conform.Proofs.Pointer.Resolution
import Conform.Proofs.Schema.Composed
import Conform.Validator

/-!
# Where a schema is at fault

When compilation reports an error with a place, the place is the spelling of the path to the node
that is refused (`exists_failsWith`). The pointer of that path stands for the node's part of the
rendered schema (`resolve_render`). Places and pointers are the same only as long as no name on the
path has a character that pointers escape; names with slashes make places of different nodes
coincide.
-/

namespace Conform

/-- The place that an error mentions. -/
def SchemaError.place? : SchemaError → Option String
  | .repeatedNames place => some place
  | .notPairs place => some place
  | .notField _ place _ => place
  | .misplacedOptional place => some place
  | .unknownNode place _ => place
  | .badCount _ place _ => some place
  | .badBound _ place _ => some place
  | _ => none

theorem PatternRefused.place?_eq_none {v : Value} {error : SchemaError}
    (h : PatternRefused v (.schema error)) : error.place? = none := by
  cases h <;> rfl

theorem FormatRefused.place?_eq_none {registry : Registry} {v : Value} {error : SchemaError}
    (h : FormatRefused registry v (.schema error)) : error.place? = none := by
  cases h
  rfl

theorem Schema.Refused.place_eq {registry : Registry} {place mentioned : String} {node : Schema}
    {error : SchemaError} (h : node.Refused registry place (.schema error))
    (hplace : error.place? = some mentioned) : mentioned = place := by
  cases h with
  | pattern _ h | format _ h => cases h.place?_eq_none.symm.trans hplace
  | entry _ h => cases h <;> exact (Option.some.inj hplace).symm
  | kind => cases hplace
  | _ => exact (Option.some.inj hplace).symm

namespace Schema

/-! ## Parts of the rendered schema -/

theorem render_of_mem {fields : List Field} {assignments : List (Value × Value)}
    (h : renderAssignments (fields.map Field.entry) = .ok assignments) :
    assignments.map (·.1) = fields.map Field.name ∧ ∀ field ∈ fields, ∃ part,
      field.schema.render = .ok part ∧ (field.name, part) ∈ assignments := by
  induction fields generalizing assignments with
  | nil =>
    obtain rfl := Except.ok.inj h
    exact ⟨rfl, nofun⟩
  | cons field fields ih =>
    obtain ⟨part, hpart, h⟩ := bind_eq_ok.1 h
    split at h
    · cases h
    obtain ⟨others, hothers, h⟩ := bind_eq_ok.1 h
    obtain rfl := Except.ok.inj h
    obtain ⟨hnames, hparts⟩ := ih hothers
    refine ⟨congrArg (field.name :: ·) hnames, List.forall_mem_cons.2
      ⟨⟨part, hpart, List.mem_cons_self⟩, fun other hother => ?_⟩⟩
    obtain ⟨otherPart, hrender, hmem⟩ := hparts other hother
    exact ⟨otherPart, hrender, List.mem_cons_of_mem _ hmem⟩

theorem render_of_getElem? : ∀ {options : List Schema} {parts : List Value} {index : Nat}
    {option : Schema}, renderAll options = .ok parts → options[index]? = some option →
      ∃ part, option.render = .ok part ∧ parts[index]? = some part
  | [], _, _, _, _, ho => by cases ho
  | first :: options, _, index, option, h, ho => by
    obtain ⟨part, hpart, h⟩ := bind_eq_ok.1 h
    obtain ⟨others, hothers, h⟩ := bind_eq_ok.1 h
    obtain rfl := Except.ok.inj h
    cases index with
    | zero =>
      obtain rfl := Option.some.inj ho
      exact ⟨part, hpart, rfl⟩
    | succ index =>
      rw [List.getElem?_cons_succ] at ho ⊢
      exact render_of_getElem? hothers ho

/-- What is rendered of a node is found in the rendered schema at the end of the node's path. -/
theorem follow_render {schema node : Schema} {path : Pointer.Path} (hnode : schema.NodeAt path node)
    (h : schema.Composed) {rendered : Value} (hrender : schema.render = .ok rendered) :
    ∃ part, node.render = .ok part ∧
      Pointer.follow (path.map Value.text) rendered = some part := by
  induction hnode generalizing rendered with
  | here => exact ⟨rendered, hrender, rfl⟩
  | @item item node least most path _ ih =>
    obtain ⟨items, hitems, hok⟩ := bind_eq_ok.1 hrender
    obtain rfl := Except.ok.inj hok
    obtain ⟨part, hpart, hfollow⟩ := ih h.shape hitems
    have hget : get? (listKeywords items least most) "items" = some items := by
      simp [listKeywords]
    exact ⟨part, hpart, (Pointer.follow_key hget _).trans hfollow⟩
  | @field entries strict name required schema node path hentry _ ih =>
    obtain ⟨fields, rfl, hschemas, names, hnames, hnodup⟩ := h.shape
    obtain ⟨field, hfield, rfl, rfl⟩ := field_of_mem hentry
    obtain ⟨assignments, hassignments, hok⟩ := bind_eq_ok.1 hrender
    obtain rfl := Except.ok.inj hok
    obtain ⟨hkeys, hparts⟩ := render_of_mem hassignments
    obtain ⟨inner, hinner, hmem⟩ := hparts field hfield
    obtain ⟨part, hpart, hfollow⟩ := ih (hschemas field hfield) hinner
    have hkeys := hkeys.trans hnames
    obtain ⟨s, -, hs⟩ := name_of_mem hnames hfield
    have hget : get? (objectKeywords assignments (requiredNames (fields.map Field.entry))
        strict.truthy) "properties" = some (.map assignments) := by
      simp [objectKeywords]
    have hproperty : get? assignments s = some inner :=
      (Value.lookup_str_iff_mem hkeys hnodup).2 (hs ▸ hmem)
    refine ⟨part, hpart, ?_⟩
    rw [Value.ofAssignments_eq hkeys hnodup, hs]
    exact (Pointer.follow_key hget _).trans ((Pointer.follow_key hproperty _).trans hfollow)
  | @option options option node index path hoption _ ih =>
    obtain ⟨parts, hparts, hok⟩ := bind_eq_ok.1 hrender
    obtain rfl := Except.ok.inj hok
    obtain ⟨inner, hinner, hindex⟩ := render_of_getElem? hparts hoption
    obtain ⟨part, hpart, hfollow⟩ := ih (h.shape _ (List.mem_of_getElem? hoption)) hinner
    have hget : get? [(.str "anyOf", .list parts)] "anyOf" = some (.list parts) := by simp
    refine ⟨part, hpart, (Pointer.follow_key hget _).trans ?_⟩
    exact (Pointer.follow_item rfl hindex _).trans hfollow

/-! ## One node for a path -/

/-- The texts of a path lead to one node. -/
theorem NodeAt.unique {schema node node' : Schema} {path path' : Pointer.Path}
    (hnode : schema.NodeAt path node) (h : schema.Composed) (hnode' : schema.NodeAt path' node')
    (htexts : path.map Value.text = path'.map Value.text) : path = path' ∧ node = node' := by
  induction hnode generalizing path' with
  | here =>
    cases hnode' with
    | here => exact ⟨rfl, rfl⟩
    | _ => cases htexts
  | item _ ih =>
    cases hnode' with
    | here => cases htexts
    | item hitem =>
      obtain ⟨rfl, rfl⟩ := ih h.shape hitem (List.cons.inj htexts).2
      exact ⟨rfl, rfl⟩
  | field hentry _ ih =>
    obtain ⟨fields, rfl, hschemas, names, hnames, hnodup⟩ := h.shape
    obtain ⟨field, hfield, rfl, rfl⟩ := field_of_mem hentry
    cases hnode' with
    | here => cases htexts
    | field hentry' hschema =>
      obtain ⟨field', hfield', rfl, rfl⟩ := field_of_mem hentry'
      -- names are texts, so the text of a segment says which field it goes to
      obtain ⟨hname, hrest⟩ := List.cons.inj (List.cons.inj htexts).2
      obtain rfl := eq_of_name hnames hnodup hfield hfield' hname
      obtain ⟨rfl, rfl⟩ := ih (hschemas field hfield) hschema hrest
      exact ⟨rfl, rfl⟩
  | option hoption _ ih =>
    cases hnode' with
    | here => cases htexts
    | option hoption' hschema =>
      obtain ⟨hindex, hrest⟩ := List.cons.inj (List.cons.inj htexts).2
      obtain rfl := Pointer.index_inj hindex
      obtain rfl := Option.some.inj (hoption.symm.trans hoption')
      obtain ⟨rfl, rfl⟩ := ih (h.shape _ (List.mem_of_getElem? hoption)) hschema hrest
      exact ⟨rfl, rfl⟩

/-- In a rendered schema a pointer stands for the part of one node. -/
theorem resolve_render {schema node : Schema} {path : Pointer.Path}
    (hnode : schema.NodeAt path node) (h : schema.Composed) {rendered : Value}
    (hrender : schema.render = .ok rendered) :
    ∃ part, node.render = .ok part ∧ Pointer.resolve (Pointer.join path) rendered = some part := by
  simp only [Pointer.resolve_join]
  exact follow_render hnode h hrender

end Schema

/-! ## Errors of compilation -/

/-- An error with a place is that of a node. The place is the pointer of this node, which stands for
its part of the rendered schema and for no other node, unless something on the path has to be
escaped; and it is the place of no other node without slashes on its path if there are none on the
path of this one. -/
theorem Validator.ofSchema_error_place {schema : Schema} {registry : Registry} {error : SchemaError}
    {place : String} (h : schema.Composed)
    (herror : Validator.ofSchema schema registry = .error (.schema error))
    (hplace : error.place? = some place) :
    ∃ path node, schema.NodeAt path node ∧ node.Refused registry place (.schema error) ∧
      place = Pointer.spell path ∧
      (∀ rendered, schema.render = .ok rendered → ∃ part, node.render = .ok part ∧
        Pointer.resolve (Pointer.join path) rendered = some part) ∧
      (∀ path' node', schema.NodeAt path' node' → Pointer.join path' = Pointer.join path →
        path' = path ∧ node' = node) ∧
      (place = Pointer.join path ↔ ∀ segment ∈ path, Pointer.Plain segment.text.toList) ∧
      ((∀ segment ∈ path, '/' ∉ segment.text.toList) →
        ∀ path' node', schema.NodeAt path' node' →
          (∀ segment ∈ path', '/' ∉ segment.text.toList) → Pointer.spell path' = place →
            path' = path ∧ node' = node) := by
  rcases bind_eq_error.1 herror with hcompile | ⟨_, -, hcompile⟩
  swap
  · cases hcompile
  obtain ⟨path, node, hnode, hfails⟩ := exists_failsWith hcompile
  rw [String.empty_append] at hfails
  have hrefused := hfails.refused_schema
  obtain rfl := hrefused.place_eq hplace
  refine ⟨path, node, hnode, hrefused, rfl, fun rendered => Schema.resolve_render hnode h,
    fun path' node' hnode' hjoin => ?_, Pointer.spell_eq_join_iff path,
    fun hslash path' node' hnode' hslash' hspell => ?_⟩
  · exact hnode'.unique h hnode (Pointer.texts_of_join hjoin)
  · exact hnode'.unique h hnode (Pointer.texts_of_spell hspell hslash' hslash)

/-- An object with a list of tags that cannot be that short. -/
def tagsSchema : Schema :=
  .object [.named (.str "tags") (.field
    (.list (.string { minLength := .int (-1) }) .null .null) (.bool true))] (.bool false)

/-- An object with two fields, the name of one of which is the path to the items of the other. -/
def slashedSchema : Schema :=
  .object [.named (.str "a/items") (.field (.string { minLength := .int (-1) }) (.bool true)),
    .named (.str "a") (.field (.list (.string {}) .null .null) (.bool true))] (.bool false)

theorem composed_tags : tagsSchema.Composed := by
  let fields : List (Value × Schema) :=
    [(.str "tags", .list (.string { minLength := .int (-1) }) .null .null)]
  have hfields : ∀ field ∈ fields, field.2.Composed :=
    List.forall_mem_singleton.2 (.list _ _ (.string _ _ _ _))
  exact .objectOf hfields rfl

theorem composed_slashed : slashedSchema.Composed := by
  let fields : List (Value × Schema) := [(.str "a/items", .string { minLength := .int (-1) }),
    (.str "a", .list (.string {}) .null .null)]
  have hfields : ∀ field ∈ fields, field.2.Composed :=
    List.forall_mem_cons.2 ⟨.string _ _ _ _,
      List.forall_mem_singleton.2 (.list _ _ (.string _ _ _ _))⟩
  exact .objectOf hfields rfl

theorem Validator.ofSchema_error_place_tags : tagsSchema.Composed ∧
    Validator.ofSchema tagsSchema .standard =
      .error (.schema (.badCount "min_length" "/properties/tags/items" (.int (-1)))) ∧
    ∃ path node, tagsSchema.NodeAt path node ∧
      node.Refused .standard "/properties/tags/items"
        (.schema (.badCount "min_length" "/properties/tags/items" (.int (-1)))) ∧
      "/properties/tags/items" = Pointer.spell path := by
  have herror : Validator.ofSchema tagsSchema .standard =
      .error (.schema (.badCount "min_length" "/properties/tags/items" (.int (-1)))) := by
    rfl
  obtain ⟨path, node, hnode, hrefused, hspell, -⟩ :=
    Validator.ofSchema_error_place composed_tags herror rfl
  exact ⟨composed_tags, herror, path, node, hnode, hrefused, hspell⟩

/-- The place of the field is the pointer of the other field's items, which are sound. -/
theorem Validator.ofSchema_misplaced : slashedSchema.Composed ∧
    Validator.ofSchema slashedSchema .standard =
      .error (.schema (.badCount "min_length" "/properties/a/items" (.int (-1)))) ∧
    slashedSchema.NodeAt [.str "properties", .str "a/items"]
      (.string { minLength := .int (-1) }) ∧
    slashedSchema.NodeAt [.str "properties", .str "a", .str "items"] (.string {}) ∧
    Pointer.spell [.str "properties", .str "a/items"] = "/properties/a/items" ∧
    Pointer.spell [.str "properties", .str "a", .str "items"] = "/properties/a/items" ∧
    ∃ rendered, slashedSchema.render = .ok rendered ∧
      Pointer.resolve "/properties/a/items" rendered =
        some (.map [(.str "type", .str "string")]) ∧
      Pointer.resolve "/properties/a~1items" rendered =
        some (.map [(.str "type", .str "string"), (.str "minLength", .int (-1))]) := by
  have hitems :
      Pointer.join [.str "properties", .str "a", .str "items"] = "/properties/a/items" := by
    decide +kernel
  have hslashed : Pointer.join [.str "properties", .str "a/items"] = "/properties/a~1items" := by
    decide +kernel
  have hfield : slashedSchema.NodeAt [.str "properties", .str "a/items"]
      (.string { minLength := .int (-1) }) := .field List.mem_cons_self .here
  have hitem : slashedSchema.NodeAt [.str "properties", .str "a", .str "items"] (.string {}) :=
    .field (List.mem_cons_of_mem _ List.mem_cons_self) (.item .here)
  obtain ⟨rendered, hrendered⟩ : ∃ rendered, slashedSchema.render = .ok rendered := ⟨_, rfl⟩
  obtain ⟨part, hpart, hresolve⟩ := Schema.resolve_render hitem composed_slashed hrendered
  obtain rfl := Except.ok.inj hpart
  obtain ⟨part, hpart, hresolve'⟩ := Schema.resolve_render hfield composed_slashed hrendered
  obtain rfl := Except.ok.inj hpart
  rw [hitems] at hresolve
  rw [hslashed] at hresolve'
  exact ⟨composed_slashed, rfl, hfield, hitem, by decide +kernel, by decide +kernel, rendered,
    hrendered, hresolve, hresolve'⟩

end Conform
