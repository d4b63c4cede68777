import Conform.Proofs.Checker.Answers
import Conform.Proofs.Checker.Rendering
import Conform.Proofs.Document.Acceptance
import Conform.Proofs.Schema.RoundTrip

/-!
# Rendered schemas are accepted

A schema that has been built and compiles is rendered as a node of the grammar
(`Built.rendersNode`): what compilation asks of a keyword is at least what the grammar does, and it
writes what it shows in messages. Since a rendered schema reads back as it is, a document that
consists of a version and the rendered schema is accepted without a warning, and its schema is the
one that was rendered (`Loader.accepts_rendered`).

The keywords of a rendered node are a sequence, parts of which may be left out. `Fit` says that a
part of it is within the grammar and has a text, and is taken apart along that sequence.
-/

namespace Conform

open Grammar (Entries Given IsCount IsBound IsPattern IsText IsTypeName Fits Shaped Node)

namespace Schema

/-! ## Parts of a node -/

/-- The keywords in a part of a node are known, and their values fit and have texts. -/
def Fit (part : Entries) : Prop :=
  ∀ key v, (key, v) ∈ part → ∃ keyword ∈ Grammar.nodeKeywords, key = .str keyword ∧
    Fits keyword v ∧ v.hasText = true

theorem fit_nil : Fit [] := nofun

theorem fit_append {part others : Entries} :
    Fit (part ++ others) ↔ Fit part ∧ Fit others := by
  simp only [Fit, List.mem_append, or_imp, forall_and]

theorem fit_cons {keyword : String} {v : Value} {part : Entries}
    (hk : keyword ∈ Grammar.nodeKeywords) (hv : Fits keyword v) (ht : v.hasText = true)
    (h : Fit part) : Fit ((.str keyword, v) :: part) := by
  intro key w hmem
  rcases List.mem_cons.1 hmem with heq | hmem
  · cases heq
    exact ⟨keyword, hk, rfl, hv, ht⟩
  · exact h key w hmem

theorem fit_keyword {name : String} {v : Value} (hk : name ∈ Grammar.nodeKeywords)
    (hv : v ≠ .null → Fits name v) (ht : v.hasText = true) : Fit (keyword name v) := by
  unfold keyword
  split
  · exact fit_nil
  · rename_i hnull
    exact fit_cons hk (hv fun heq => hnull (Value.isNull_iff.2 heq)) ht fit_nil

theorem hasText_of_fit {entries : Entries} (h : Fit entries) :
    (Value.map entries).hasText = true := by
  refine Value.entriesHaveText_iff.2 fun ⟨key, v⟩ hmem => ?_
  obtain ⟨keyword, -, rfl, -, ht⟩ := h key v hmem
  exact ⟨rfl, ht⟩

/-- A node of which all keywords fit, one of them deciding its kind. -/
theorem shaped_of_fit {entries : Entries} (kind : String) (h : Fit entries)
    (hk : kind ∈ Grammar.kindKeywords) (hkind : (get? entries kind).isSome = true)
    (hothers : ∀ other ∈ Grammar.kindKeywords, other ≠ kind → get? entries other = none) :
    Shaped entries where
  known := by
    intro key hkey
    obtain ⟨⟨_, v⟩, hmem, rfl⟩ := List.mem_map.1 hkey
    obtain ⟨keyword, hkeyword, heq, -⟩ := h _ v hmem
    exact ⟨keyword, hkeyword, heq⟩
  kind := by
    refine ⟨kind, ⟨hk, hkind⟩, fun other ⟨hother, hgiven⟩ => ?_⟩
    by_contra hne
    rw [hothers other hother hne] at hgiven
    cases hgiven
  fits := by
    intro keyword v hv
    obtain ⟨_, -, heq, hfits, -⟩ := h _ v (Value.mem_of_lookup_str hv)
    cases heq
    exact hfits

/-! ## Keywords that compile -/

section
variable {place name : String} {registry : Registry} {v : Value}

theorem fit_null (name : String) : Fit (keyword name .null) := fit_nil

theorem fit_count {keyword : String}
    (hk : keyword ∈ ["minLength", "maxLength", "minItems", "maxItems"])
    {count : Option Nat} (h : readCount name place v = .ok count) (ht : v.hasText = true) :
    Fit (Conform.keyword keyword v) := by
  have hcount (hne : v ≠ .null) : IsCount v := by
    rcases readCount_eq_ok.1 h with ⟨rfl, -⟩ | ⟨n, rfl, -⟩
    · exact absurd rfl hne
    · exact ⟨n, by rw [Value.number?, Rat.intCast_natCast]⟩
  simp only [List.mem_cons, List.not_mem_nil, or_false] at hk
  rcases hk with rfl | rfl | rfl | rfl
  all_goals exact fit_keyword (by decide) hcount ht

theorem fit_bound {keyword : String} (hk : keyword ∈ ["minimum", "maximum"])
    {bound : Option Value} (h : readBound name place v = .ok bound) (ht : v.hasText = true) :
    Fit (Conform.keyword keyword v) := by
  have hbound (hne : v ≠ .null) : IsBound v := by
    rcases readBound_eq_ok.1 h with ⟨rfl, -⟩ | ⟨hv, -⟩
    · exact absurd rfl hne
    · exact hv
  simp only [List.mem_cons, List.not_mem_nil, or_false] at hk
  rcases hk with rfl | rfl
  all_goals exact fit_keyword (by decide) hbound ht

theorem fit_pattern {pattern : Option (String × Pattern.Program)}
    (h : whenGiven v requirePattern = .ok pattern) : Fit (keyword "pattern" v) := by
  rcases whenGiven_eq_ok.1 h with ⟨rfl, -⟩ | ⟨-, ⟨text, program⟩, hp, -⟩
  · exact fit_null "pattern"
  · obtain ⟨rfl, hprogram⟩ := requirePattern_eq_ok.1 hp
    exact fit_keyword (by decide) (fun _ => ⟨text, program, rfl, hprogram⟩) rfl

theorem fit_format {format : Option Format} (h : whenGiven v registry.resolve = .ok format) :
    Fit (keyword "format" v) := by
  rcases whenGiven_eq_ok.1 h with ⟨rfl, -⟩ | ⟨-, format, hf, -⟩
  · exact fit_null "format"
  · obtain ⟨name, rfl, -⟩ := resolve_eq_ok.1 hf
    exact fit_keyword (by decide) (fun _ => ⟨name, rfl⟩) rfl

end

/-! ## Nodes -/

/-- A node that has a text, so that the grammar finds no problems in it. -/
def WrittenNode (v : Value) : Prop := Node v ∧ v.hasText = true

theorem node_primitive {kind : Kind} {r : Refinements} (h : Fit (refinementKeywords r)) :
    WrittenNode (.map (primitiveKeywords kind r)) := by
  have htype : IsTypeName (.str kind.name) := ⟨kind.name, by cases kind <;> decide, rfl⟩
  have hfit : Fit (primitiveKeywords kind r) := fit_cons (by decide) htype rfl h
  have hshaped : Shaped (primitiveKeywords kind r) := by
    refine shaped_of_fit "type" hfit (by decide) ?_ ?_
    · simp [primitiveKeywords]
    · simp [primitiveKeywords, refinementKeywords, Grammar.kindKeywords]
  refine ⟨.mk hshaped ?_ ?_ ?_, hasText_of_fit hfit⟩ <;>
    simp [primitiveKeywords, refinementKeywords]

theorem node_literal {v : Value} (h : v.hasText = true) :
    WrittenNode (.map [(.str "const", v)]) := by
  have hfit : Fit [(.str "const", v)] := fit_cons (by decide) trivial h fit_nil
  have hshaped : Shaped [(.str "const", v)] := by
    refine shaped_of_fit "const" hfit (by decide) ?_ ?_
    · simp
    · simp [Grammar.kindKeywords]
  refine ⟨.mk hshaped ?_ ?_ ?_, hasText_of_fit hfit⟩ <;> simp

theorem node_union {options : List Value} (h : ∀ option ∈ options, WrittenNode option) :
    WrittenNode (.map [(.str "anyOf", .list options)]) := by
  have htext : (Value.list options).hasText = true :=
    Value.haveText_iff.2 fun option hoption => (h option hoption).2
  have hfit : Fit [(.str "anyOf", .list options)] :=
    fit_cons (by decide) ⟨options, rfl⟩ htext fit_nil
  have hshaped : Shaped [(.str "anyOf", .list options)] := by
    refine shaped_of_fit "anyOf" hfit (by decide) ?_ ?_
    · simp
    · simp [Grammar.kindKeywords]
  refine ⟨.mk hshaped ?_ ?_ ?_, hasText_of_fit hfit⟩
  · simpa using fun option hoption => (h option hoption).1
  · simp
  · simp

theorem node_list {item minItems maxItems : Value} (h : WrittenNode item)
    (hl : Fit (keyword "minItems" minItems)) (hm : Fit (keyword "maxItems" maxItems)) :
    WrittenNode (.map (listKeywords item minItems maxItems)) := by
  have htype : IsTypeName (.str "array") := ⟨"array", by decide, rfl⟩
  have hfit : Fit (listKeywords item minItems maxItems) := by
    simp only [listKeywords, fit_append]
    exact ⟨⟨fit_cons (by decide) htype rfl (fit_cons (by decide) trivial h.2 fit_nil), hl⟩, hm⟩
  have hshaped : Shaped (listKeywords item minItems maxItems) := by
    refine shaped_of_fit "type" hfit (by decide) ?_ ?_
    · simp [listKeywords]
    · simp [listKeywords, Grammar.kindKeywords]
  refine ⟨.mk hshaped ?_ ?_ ?_, hasText_of_fit hfit⟩
  · simp [listKeywords]
  · simpa [listKeywords] using h.1
  · simp [listKeywords]

theorem node_object {properties : Entries} {required : List String} (strict : Bool)
    (hnames : ∀ property ∈ properties, ∃ s, property.1 = .str s)
    (h : ∀ property ∈ properties, WrittenNode property.2) (hrequired : required.Nodup) :
    WrittenNode (.map (objectKeywords properties (required.map .str) strict)) := by
  have htype : IsTypeName (.str "object") := ⟨"object", by decide, rfl⟩
  have hproperties : (Value.map properties).hasText = true := by
    refine Value.entriesHaveText_iff.2 fun property hproperty => ⟨?_, (h property hproperty).2⟩
    obtain ⟨s, hs⟩ := hnames property hproperty
    rw [hs]
    rfl
  have hlist : (Value.list (required.map .str)).hasText = true :=
    Value.haveText_iff.2 (List.forall_mem_map.2 fun _ _ => rfl)
  have hlisted : Fit (if (required.map Value.str).isEmpty then []
      else [(.str "required", .list (required.map .str))]) := by
    split
    · exact fit_nil
    · exact fit_cons (by decide) ⟨required, hrequired, rfl⟩ hlist fit_nil
  have hstrict : Fit (if strict then [(.str "additionalProperties", .bool false)] else []) := by
    split
    · exact fit_cons (by decide) ⟨false, rfl⟩ rfl fit_nil
    · exact fit_nil
  have hfit : Fit (objectKeywords properties (required.map .str) strict) := by
    simp only [objectKeywords, fit_append]
    exact ⟨⟨fit_cons (by decide) htype rfl
      (fit_cons (by decide) ⟨properties, rfl⟩ hproperties fit_nil), hlisted⟩, hstrict⟩
  -- which keywords there are depends on whether names are required and on strictness
  have hget (name : String) (hname : name ∈ ["const", "enum", "anyOf", "items"]) :
      get? (objectKeywords properties (required.map .str) strict) name = none := by
    simp only [List.mem_cons, List.not_mem_nil, or_false] at hname
    rcases hname with rfl | rfl | rfl | rfl <;> cases strict <;> cases required <;>
      simp [objectKeywords]
  have hshaped : Shaped (objectKeywords properties (required.map .str) strict) := by
    have hgiven : (get? (objectKeywords properties (required.map .str) strict) "type").isSome :=
      by simp [objectKeywords]
    refine shaped_of_fit "type" hfit (by decide) hgiven fun other hother hne => hget other ?_
    simp only [Grammar.kindKeywords, List.mem_cons, List.not_mem_nil, or_false] at hother ⊢
    tauto
  refine ⟨.mk hshaped ?_ ?_ ?_, hasText_of_fit hfit⟩
  · simp [hget "anyOf" (by decide)]
  · simp [hget "items" (by decide)]
  · simpa [objectKeywords] using fun name v hproperty => (h (name, v) hproperty).1

/-! ## Built schemas -/

section
variable {registry : Registry}

/-- Every schema that compiles is rendered as a node with a text. -/
abbrev RendersNode (registry : Registry) : Schema → Prop :=
  RendersTo registry fun _ rendered => WrittenNode rendered

theorem rendersNode_literal (value : Value) : RendersNode registry (.literal value) := by
  intro place checker hc
  obtain ⟨htext, rfl⟩ := compileAt_literal.1 hc
  exact ⟨_, rfl, node_literal htext⟩

theorem rendersNode_union {options : List Schema}
    (h : ∀ option ∈ options, RendersNode registry option) :
    RendersNode registry (.union options) := by
  intro place checker hc
  obtain ⟨checkers, ho, rfl⟩ := compileAt_union.1 hc
  obtain ⟨rendered, hrender, hall⟩ := renderAll_of_compileAll h ho
  refine ⟨_, by rw [render, hrender, ok_bind], node_union fun option hoption => ?_⟩
  obtain ⟨_, -, hnode⟩ := exists_of_mem_right hall option hoption
  exact hnode

theorem rendersNode_object {fields : List Field} {names : List String} {strict : Value}
    (hnames : fields.map Field.name = names.map .str)
    (h : ∀ field ∈ fields, RendersNode registry field.schema) :
    RendersNode registry (.object (fields.map Field.entry) strict) := by
  intro place checker hc
  have hnamed : ∀ entry ∈ fields.map Field.entry, ∃ name node, entry = .named (.str name) node := by
    rintro _ hentry
    obtain ⟨field, hfield, rfl⟩ := List.mem_map.1 hentry
    obtain ⟨s, -, hs⟩ := name_of_mem hnames hfield
    exact ⟨s, .field field.schema (.bool field.required), by rw [Field.entry, hs]⟩
  have hschemas : ∀ name schema required, .named name (.field schema required) ∈
      fields.map Field.entry → RendersNode registry schema := by
    intro name schema required hentry
    obtain ⟨field, hfield, heq⟩ := List.mem_map.1 hentry
    cases heq
    exact h field hfield
  obtain ⟨checkers, properties, -, hrender, hall, declared, hdeclared, hnodup⟩ :=
    render_of_compileAt_object hnamed hschemas hc
  -- the required names are some of the declared ones, which differ from each other
  have hsublist : ((checkers.filter FieldChecker.required).map FieldChecker.name).Sublist
      (declared.map .str) := hdeclared ▸ List.filter_sublist.map FieldChecker.name
  obtain ⟨required, hsublist, hrequired⟩ := List.sublist_map_iff.1 hsublist
  rw [hrequired] at hrender
  refine ⟨_, hrender, node_object strict.truthy (fun property hproperty => ?_)
    (fun property hproperty => ?_) (hnodup.sublist hsublist)⟩
  all_goals
    obtain ⟨field, -, ⟨s, hs⟩, hname, hnode⟩ := exists_of_mem_right hall property hproperty
  · exact ⟨s, hname.trans hs⟩
  · exact hnode

theorem Built.rendersNode {schema : Schema} (h : Built schema) : RendersNode registry schema := by
  induction h with
  | string minLength maxLength pattern format =>
    intro place checker hc
    obtain ⟨_, ⟨⟩, rs, hr, rfl⟩ := compilePrimitive_eq_ok.1 hc
    obtain ⟨_, hleast, _, hmost, hl, hm, _, hpattern, _, hformat, -⟩ :=
      Refinements.ofString_eq_ok.1 hr
    refine ⟨_, rfl, node_primitive ?_⟩
    simp only [refinementKeywords, fit_append]
    exact ⟨⟨⟨⟨⟨fit_count (by decide) hleast hl, fit_count (by decide) hmost hm⟩,
      fit_pattern hpattern⟩, fit_format hformat⟩, fit_null "minimum"⟩, fit_null "maximum"⟩
  | number minimum maximum =>
    intro place checker hc
    obtain ⟨_, ⟨⟩, rs, hr, rfl⟩ := compilePrimitive_eq_ok.1 hc
    obtain ⟨_, hleast, _, hmost, hl, hm, -⟩ := Refinements.ofNumber_eq_ok.1 hr
    refine ⟨_, rfl, node_primitive ?_⟩
    simp only [refinementKeywords, fit_append]
    exact ⟨⟨⟨⟨⟨fit_null "minLength", fit_null "maxLength"⟩, fit_null "pattern"⟩,
      fit_null "format"⟩, fit_bound (by decide) hleast hl⟩, fit_bound (by decide) hmost hm⟩
  | boolean => exact fun _ => ⟨_, rfl, node_primitive fit_nil⟩
  | null => exact fun _ => ⟨_, rfl, node_primitive fit_nil⟩
  | literal value => exact rendersNode_literal value
  | enumOf values =>
    refine rendersNode_union fun option ho => ?_
    obtain ⟨value, -, rfl⟩ := List.mem_map.1 ho
    exact rendersNode_literal value
  | list minItems maxItems _ ih =>
    intro place checker hc
    obtain ⟨least, hleast, most, hmost, inner, hi, hl, hm, rfl⟩ := compileAt_list.1 hc
    obtain ⟨rendered, hrender, hnode⟩ := ih hi
    exact ⟨_, by rw [render, hrender, ok_bind]; rfl,
      node_list hnode (fit_count (by decide) hleast hl) (fit_count (by decide) hmost hm)⟩
  | unionOf ho ih =>
    rw [unionOf_eq ho]
    exact rendersNode_union ih
  | objectOf hf ho ih =>
    obtain ⟨rfl, names, hnames, -⟩ := of_objectOf hf ho
    exact rendersNode_object hnames ih

end

end Schema

/-! ## Documents -/

/-- The document of a rendered schema, with the supported version. -/
def Document.ofRendered (rendered : Value) : Entries :=
  [(.str "structcheck_format", .str "0.1.0"), (.str "schema", rendered)]

theorem Document.wellFormed_ofRendered {rendered : Value} (h : Node rendered) :
    Grammar.WellFormed (ofRendered rendered) where
  known := by simp [ofRendered, Grammar.documentKeywords, Version.fieldName]
  version := by simp [Given, ofRendered, Version.fieldName, IsText]
  title := by simp [Given, ofRendered]
  description := by simp [Given, ofRendered]
  schema := ⟨rendered, by simp [ofRendered], h⟩

theorem Document.header_ofRendered (rendered : Value) (source : String) :
    Document.header (.map (ofRendered rendered)) source =
      .ok (⟨some "0.1.0", none⟩, ofRendered rendered) := by
  have hversion : Schema.getD (ofRendered rendered) Version.fieldName = .str "0.1.0" := by
    simp [Schema.getD, ofRendered, Version.fieldName]
  have htext : Version.supported.text = "0.1.0" := by decide +kernel
  have hparse : Version.parse "0.1.0" = .ok Version.supported :=
    htext ▸ Version.parse_text (by decide +kernel)
  refine header_eq_ok.2 ⟨rfl, .inr ⟨"0.1.0", Version.supported, hversion, hparse, rfl, ?_⟩⟩
  rw [htext]
  rfl

/-- The rendering of a schema that has been built and compiles is within the grammar, and the
document of it is accepted: there are no warnings, and its schema is the one that was rendered. -/
theorem Loader.accepts_rendered {schema : Schema} {registry : Registry} {validator : Validator}
    (hb : Schema.Built schema) (hv : Validator.ofSchema schema registry = .ok validator)
    (source : String) (loader : Loader) :
    ∃ rendered, schema.render = .ok rendered ∧
      Grammar.problems (Document.ofRendered rendered) = .ok [] ∧
      (Loader.parse (.map (Document.ofRendered rendered)) source).outcome loader =
        .ok ⟨schema, source, some "0.1.0", none, none, []⟩ := by
  obtain ⟨checker, hc, -⟩ := bind_eq_ok.1 hv
  obtain ⟨rendered, hrender, hnode⟩ := hb.rendersNode hc
  obtain ⟨_, hrender', hread⟩ := hb.readsBack
  obtain rfl := Except.ok.inj (hrender.symm.trans hrender')
  have hwell := Document.wellFormed_ofRendered hnode.1
  have htext : Grammar.NodeHasText (Document.ofRendered rendered) := by
    simpa [Grammar.NodeHasText, Schema.getD, Document.ofRendered] using hnode.2
  refine ⟨rendered, hrender, Grammar.problems_eq_nil_iff.2 ⟨hwell, htext⟩, ?_⟩
  rw [parse_outcome, Document.parse_eq_ok]
  have hfindable : (⟨some "0.1.0", none⟩ : Document.Header).Findable := by
    show "0.1.0".length ≤ Disk.nameLimit
    decide
  refine ⟨_, _, Document.header_ofRendered rendered source, hfindable,
    Document.ofEntries_eq_ok.2 ⟨⟨hwell, htext⟩, schema, ?_, ?_⟩⟩
  · simpa [Schema.getD, Document.ofRendered] using hread "/schema"
  · simp [Document.text?, Document.ofRendered]

theorem Schema.built_account : Built accountSchema := by
  let fields : List Field :=
    [⟨.str "name", true, string { minLength := .int 2, pattern := .str "^[a-z]+$" }⟩,
      ⟨.str "born", false, string { format := .str "date" }⟩,
      ⟨.str "roles", true, .list (enumOf [.str "admin", .str "guest"]) (.int 1) .null⟩]
  have hfields : ∀ field ∈ fields, Built field.schema := by
    refine List.forall_mem_cons.2 ⟨.string _ _ _ _, ?_⟩
    refine List.forall_mem_cons.2 ⟨.string _ _ _ _, ?_⟩
    exact List.forall_mem_cons.2 ⟨.list _ _ (.enumOf _), nofun⟩
  exact .objectOf hfields rfl

theorem Loader.accepts_account : ∃ validator,
    Validator.ofSchema accountSchema .standard = .ok validator ∧ Schema.Built accountSchema ∧
    ∃ rendered, accountSchema.render = .ok rendered ∧
      (Loader.parse (.map (Document.ofRendered rendered)) "account.json").outcome {} =
        .ok ⟨accountSchema, "account.json", some "0.1.0", none, none, []⟩ := by
  obtain ⟨validator, hv, -⟩ := account_answers
  obtain ⟨rendered, hrender, -, hparse⟩ :=
    Loader.accepts_rendered Schema.built_account hv "account.json" {}
  exact ⟨validator, hv, Schema.built_account, rendered, hrender, hparse⟩

end Conform
