import Conform.Proofs.Checker.Reading
import Conform.Proofs.Document.Acceptance
import Conform.Validator

/-!
# Which documents compile

The grammar lets two things through that compilation refuses: the name of a format that is not
registered, and a count that is a double, as `2.0` is. Only converted nodes matter, and only those
whose kind makes use of the keyword (`Schema.Ready`). Everything else that compilation asks for has
been seen to by the grammar and by reading, so that a document's schema compiles if and only if all
converted nodes are ready (`Loader.compiles_iff`).
-/

namespace Conform

open Grammar (Entries Given IsText IsCount IsBound IsPattern Node Shaped)

namespace Schema

def IsInteger (v : Value) : Prop := ∃ n, v = .int n

def IsRegistered (registry : Registry) (v : Value) : Prop :=
  ∃ name format, v = .str name ∧ registry.find? name = some format

/-- What compilation asks of a node over and above the grammar. -/
structure Ready (registry : Registry) (entries : Entries) : Prop where
  minLength : get? entries "type" = some (.str "string") → Given entries "minLength" IsInteger
  maxLength : get? entries "type" = some (.str "string") → Given entries "maxLength" IsInteger
  format : get? entries "type" = some (.str "string") →
    Given entries "format" (IsRegistered registry)
  minItems : get? entries "type" = some (.str "array") → Given entries "minItems" IsInteger
  maxItems : get? entries "type" = some (.str "array") → Given entries "maxItems" IsInteger

/-- Compilation asks nothing more of nodes of other types. -/
theorem ready_of_ne {registry : Registry} {entries : Entries}
    (hstring : get? entries "type" ≠ some (.str "string"))
    (harray : get? entries "type" ≠ some (.str "array")) : Ready registry entries :=
  ⟨fun h => absurd h hstring, fun h => absurd h hstring, fun h => absurd h hstring,
    fun h => absurd h harray, fun h => absurd h harray⟩

/-! ## Keywords -/

section
variable {entries : Entries} {keyword name place : String} {registry : Registry}

theorem exists_readCount_iff (h : Given entries keyword IsCount) :
    (∃ count, readCount name place (getD entries keyword) = .ok count) ↔
      Given entries keyword IsInteger := by
  unfold getD Given
  cases hv : get? entries keyword with
  | none => simp [readCount_eq_ok]
  | some v =>
    obtain ⟨n, hn⟩ := h v hv
    simp only [Option.getD_some, Option.some.injEq, forall_eq', readCount_eq_ok]
    constructor
    · rintro ⟨_, ⟨rfl, -⟩ | ⟨m, rfl, -⟩⟩
      · cases hn
      · exact ⟨m, rfl⟩
    · rintro ⟨m, rfl⟩
      have hm : m = n := by
        rw [← Rat.intCast_inj, Rat.intCast_natCast]
        exact Option.some.inj hn
      exact ⟨some n, .inr ⟨n, by rw [hm], rfl⟩⟩

theorem exists_readBound (h : Given entries keyword IsBound) :
    ∃ bound, readBound name place (getD entries keyword) = .ok bound := by
  unfold getD
  cases hv : get? entries keyword with
  | none => exact ⟨none, rfl⟩
  | some v => exact ⟨some v, readBound_eq_ok.2 (.inr ⟨h v hv, rfl⟩)⟩

theorem exists_whenGiven_pattern (h : Given entries "pattern" IsPattern) :
    ∃ pattern, whenGiven (getD entries "pattern") requirePattern = .ok pattern := by
  unfold getD
  cases hv : get? entries "pattern" with
  | none => exact ⟨none, rfl⟩
  | some v =>
    obtain ⟨s, program, rfl, hprogram⟩ := h v hv
    exact ⟨some (s, program), whenGiven_eq_ok.2
      (.inr ⟨Value.noConfusion, _, requirePattern_eq_ok.2 ⟨rfl, hprogram⟩, rfl⟩)⟩

theorem exists_whenGiven_format_iff (h : Given entries "format" IsText) :
    (∃ format, whenGiven (getD entries "format") registry.resolve = .ok format) ↔
      Given entries "format" (IsRegistered registry) := by
  unfold getD Given
  cases hv : get? entries "format" with
  | none => simp [whenGiven_eq_ok]
  | some v =>
    obtain ⟨s, rfl⟩ := h v hv
    simp only [Option.getD_some, Option.some.injEq, forall_eq', whenGiven_eq_ok, IsRegistered,
      resolve_eq_ok]
    constructor
    · rintro ⟨_, ⟨hnull, -⟩ | ⟨-, format, hformat, -⟩⟩
      · cases hnull
      · obtain ⟨name, hname, hfind⟩ := hformat
        exact ⟨name, format, hname, hfind⟩
    · rintro ⟨name, format, hname, hfind⟩
      exact ⟨some format, .inr ⟨Value.noConfusion, format, ⟨name, hname, hfind⟩, rfl⟩⟩

end

/-! ## Primitives -/

/-- The schema compiles, at any place, if the proposition holds and not otherwise. -/
def Compiles (registry : Registry) (schema : Schema) (p : Prop) : Prop :=
  ∀ place, (∃ checker, schema.compileAt registry place = .ok checker) ↔ p

section
variable {entries : Entries} {registry : Registry} {place : String}

theorem exists_compilePrimitive_iff {kind : Kind} {r : Refinements} :
    (∃ checker, (Schema.primitive (.known kind) r).compileAt registry place = .ok checker) ↔
      ∃ rs, r.ofKind registry place kind = .ok rs := by
  simp only [Schema.compileAt, compilePrimitive_eq_ok, KindRef.kind?, Option.some.injEq,
    exists_eq_left']
  constructor
  · rintro ⟨_, rs, hrs, -⟩
    exact ⟨rs, hrs⟩
  · rintro ⟨rs, hrs⟩
    exact ⟨_, rs, hrs, rfl⟩

theorem compiles_string (shaped : Shaped entries) (htext : (Value.map entries).hasText = true)
    (htype : get? entries "type" = some (.str "string")) :
    Compiles registry (string (stringRefinements entries)) (Ready registry entries) := by
  intro place
  have harray : get? entries "type" ≠ some (.str "array") := by simp [htype]
  obtain ⟨pattern, hpattern⟩ := exists_whenGiven_pattern (shaped.fits "pattern")
  rw [string, exists_compilePrimitive_iff]
  simp only [Refinements.ofKind, Refinements.ofString_eq_ok, stringRefinements]
  constructor
  · rintro ⟨_, least, hleast, most, hmost, -, -, _, -, format, hformat, -⟩
    exact ⟨fun _ => (exists_readCount_iff (shaped.fits "minLength")).1 ⟨least, hleast⟩,
      fun _ => (exists_readCount_iff (shaped.fits "maxLength")).1 ⟨most, hmost⟩,
      fun _ => (exists_whenGiven_format_iff (shaped.fits "format")).1 ⟨format, hformat⟩,
      fun h => absurd h harray, fun h => absurd h harray⟩
  · intro h
    obtain ⟨least, hleast⟩ := (exists_readCount_iff (shaped.fits "minLength")).2 (h.minLength htype)
    obtain ⟨most, hmost⟩ := (exists_readCount_iff (shaped.fits "maxLength")).2 (h.maxLength htype)
    obtain ⟨format, hformat⟩ :=
      (exists_whenGiven_format_iff (shaped.fits "format")).2 (h.format htype)
    exact ⟨_, least, hleast, most, hmost, hasText_getD htext _, hasText_getD htext _, pattern,
      hpattern, format, hformat, rfl⟩

/-- Other primitives always compile. -/
theorem compiles_primitiveOf (shaped : Shaped entries) (htext : (Value.map entries).hasText = true)
    {kind : Kind} (htype : get? entries "type" = some (.str kind.name)) :
    Compiles registry (primitiveOf entries kind) (Ready registry entries) := by
  cases kind with
  | string => exact compiles_string shaped htext htype
  | number =>
    intro place
    obtain ⟨least, hleast⟩ := exists_readBound (shaped.fits "minimum")
    obtain ⟨most, hmost⟩ := exists_readBound (shaped.fits "maximum")
    rw [primitiveOf, number, exists_compilePrimitive_iff]
    exact iff_of_true ⟨_, Refinements.ofNumber_eq_ok.2 ⟨least, hleast, most, hmost,
      hasText_getD htext _, hasText_getD htext _, rfl⟩⟩
      (ready_of_ne (by simp [htype, Kind.name]) (by simp [htype, Kind.name]))
  | boolean | null =>
    intro place
    exact iff_of_true ⟨_, rfl⟩
      (ready_of_ne (by simp [htype, Kind.name]) (by simp [htype, Kind.name]))

end

/-! ## Nodes that have been read -/

section
variable {entries : Entries} {registry : Registry} {place : String}

theorem exists_compileAll_literals : ∀ {values : List Value} (index : Nat),
    (∀ v ∈ values, v.hasText = true) → ∃ checkers,
      compileAll (values.map .literal) registry place index = .ok checkers
  | [], _, _ => ⟨[], rfl⟩
  | v :: values, index, h => by
    obtain ⟨hv, hvalues⟩ := List.forall_mem_cons.1 h
    obtain ⟨checkers, hcheckers⟩ := exists_compileAll_literals (index + 1) hvalues
    exact ⟨_, compileAll_cons.2
      ⟨.literal v, compileAt_literal.2 ⟨hv, rfl⟩, checkers, hcheckers, rfl⟩⟩

theorem exists_compileAt_union_iff {options : List Schema} :
    (∃ checker, (Schema.union options).compileAt registry place = .ok checker) ↔
      ∃ checkers, compileAll options registry (place ++ "/anyOf/") 0 = .ok checkers := by
  simp only [compileAt_union]
  constructor
  · rintro ⟨_, checkers, hcheckers, -⟩
    exact ⟨checkers, hcheckers⟩
  · rintro ⟨checkers, hcheckers⟩
    exact ⟨_, checkers, hcheckers, rfl⟩

theorem exists_compileAt_enumOf {values : List Value} (h : (Value.list values).hasText = true) :
    ∃ checker, (enumOf values).compileAt registry place = .ok checker :=
  exists_compileAt_union_iff.2
    (exists_compileAll_literals 0 fun _ => Value.hasText_of_mem_list h)

/-- A list compiles if its counts are integers and its item compiles. -/
theorem exists_compileAt_list_iff (shaped : Shaped entries)
    (htext : (Value.map entries).hasText = true)
    (htype : get? entries "type" = some (.str "array")) {item : Schema} :
    (∃ checker, (Schema.list item (getD entries "minItems") (getD entries "maxItems")).compileAt
        registry place = .ok checker) ↔
      Ready registry entries ∧
        ∃ checker, item.compileAt registry (place ++ "/items") = .ok checker := by
  have hstring : get? entries "type" ≠ some (.str "string") := by simp [htype]
  simp only [compileAt_list]
  constructor
  · rintro ⟨_, least, hleast, most, hmost, inner, hinner, -⟩
    exact ⟨⟨fun h => absurd h hstring, fun h => absurd h hstring, fun h => absurd h hstring,
      fun _ => (exists_readCount_iff (shaped.fits "minItems")).1 ⟨least, hleast⟩,
      fun _ => (exists_readCount_iff (shaped.fits "maxItems")).1 ⟨most, hmost⟩⟩, inner, hinner⟩
  · rintro ⟨h, inner, hinner⟩
    obtain ⟨least, hleast⟩ := (exists_readCount_iff (shaped.fits "minItems")).2 (h.minItems htype)
    obtain ⟨most, hmost⟩ := (exists_readCount_iff (shaped.fits "maxItems")).2 (h.maxItems htype)
    exact ⟨_, least, hleast, most, hmost, inner, hinner, hasText_getD htext _,
      hasText_getD htext _, rfl⟩

end

/-- What the value is read as compiles if and only if all that is converted is ready. -/
def CompilesAsRead (registry : Registry) (v : Value) : Prop :=
  ∀ {place schema}, read v place = .ok schema →
    Compiles registry schema (∀ node, Converted v node → Ready registry node)

section
variable {registry : Registry}

theorem compileAll_read_iff {source place : String} : ∀ {items : List Value} (index : Nat)
    {start : Nat} {schemas : List Schema}, (∀ item ∈ items, CompilesAsRead registry item) →
      readAll items source start = .ok schemas →
      ((∃ checkers, compileAll schemas registry place index = .ok checkers) ↔
        ∀ item ∈ items, ∀ node, Converted item node → Ready registry node)
  | [], _, _, _, _, h => by
    obtain rfl := Except.ok.inj h
    exact iff_of_true ⟨[], rfl⟩ nofun
  | item :: items, index, _, _, hitems, h => by
    obtain ⟨schema, hschema, h⟩ := bind_eq_ok.1 h
    obtain ⟨others, hothers, h⟩ := bind_eq_ok.1 h
    obtain rfl := Except.ok.inj h
    obtain ⟨hitem, hitems⟩ := List.forall_mem_cons.1 hitems
    rw [List.forall_mem_cons, ← hitem hschema (place ++ toString index),
      ← compileAll_read_iff (index + 1) hitems hothers]
    simp only [compileAll_cons]
    constructor
    · rintro ⟨_, checker, hchecker, checkers, hcheckers, -⟩
      exact ⟨⟨checker, hchecker⟩, checkers, hcheckers⟩
    · rintro ⟨⟨checker, hchecker⟩, checkers, hcheckers⟩
      exact ⟨_, checker, hchecker, checkers, hcheckers, rfl⟩

/-- The entry of a field that has been read, with its flag. -/
def fieldEntry (flag : Value → Bool) (field : Value × Schema) : Entry :=
  .named field.1 (.field field.2 (.bool (flag field.1)))

theorem compileEntries_read_iff {source place : String} (flag : Value → Bool) :
    ∀ {properties : Entries} {fields : List (Value × Schema)},
      (∀ property ∈ properties, CompilesAsRead registry property.2) →
      readFields properties source = .ok fields →
      ((∃ checkers, compileEntries (fields.map (fieldEntry flag)) registry place = .ok checkers) ↔
        ∀ property ∈ properties, ∀ node, Converted property.2 node → Ready registry node)
  | [], _, _, h => by
    obtain rfl := Except.ok.inj h
    exact iff_of_true ⟨[], rfl⟩ nofun
  | (name, v) :: properties, _, hproperties, h => by
    obtain ⟨htext, schema, hschema, others, hothers, rfl⟩ := readFields_cons.1 h
    obtain ⟨hv, hproperties⟩ := List.forall_mem_cons.1 hproperties
    rw [List.forall_mem_cons, ← hv hschema (place ++ "/properties/" ++ name.text),
      ← compileEntries_read_iff flag hproperties hothers]
    simp only [List.map_cons, compileEntries_cons, fieldEntry, compileAt_entry]
    constructor
    · rintro ⟨_, _, ⟨_, _, _, hentry, -, checker, hchecker, -⟩, checkers, hcheckers, -⟩
      cases hentry
      exact ⟨⟨checker, hchecker⟩, checkers, hcheckers⟩
    · rintro ⟨⟨checker, hchecker⟩, checkers, hcheckers⟩
      exact ⟨_, _, ⟨name, schema, _, rfl, htext, checker, hchecker, rfl⟩, checkers, hcheckers, rfl⟩

theorem names_of_compileEntries {place : String} {flag : Value → Bool} :
    ∀ {fields : List (Value × Schema)} {checkers : List FieldChecker},
    compileEntries (fields.map (fieldEntry flag)) registry place = .ok checkers →
      checkers.map FieldChecker.name = fields.map (·.1)
  | [], _, h => by
    obtain rfl := Except.ok.inj h
    rfl
  | _ :: _, _, h => by
    obtain ⟨field, hfield, others, hothers, rfl⟩ := compileEntries_cons.1 h
    obtain ⟨name, _, _, hentry, -, checker, -, rfl⟩ := compileAt_entry.1 hfield
    cases hentry
    rw [List.map_cons, List.map_cons, names_of_compileEntries hothers]
    rfl

variable {place : String}

/-- An object compiles if its fields do: their names differ from each other. -/
theorem exists_compileAt_object_iff {flag : Value → Bool} {strict : Value}
    {fields : List (Value × Schema)} {names : List String}
    (hnames : fields.map (·.1) = names.map .str) (hnodup : names.Nodup) :
    (∃ checker, (Schema.object (fields.map (fieldEntry flag)) strict).compileAt registry place =
        .ok checker) ↔
      ∃ checkers, compileEntries (fields.map (fieldEntry flag)) registry place = .ok checkers := by
  simp only [compileAt_object]
  constructor
  · rintro ⟨_, checkers, hcheckers, -⟩
    exact ⟨checkers, hcheckers⟩
  · rintro ⟨checkers, hcheckers⟩
    have hkeys : checkers.map FieldChecker.name = names.map .str :=
      (names_of_compileEntries hcheckers).trans hnames
    refine ⟨_, checkers, hcheckers, ?_, ?_, rfl⟩
    · rw [hkeys]
      simp [Value.isKey]
    · rw [hkeys, areDistinct_str_iff]
      exact hnodup

variable {entries : Entries}

/-- What an object node is read as: the fields that are read, under names that differ. -/
theorem of_read_object (hany : get? entries "anyOf" = none)
    (hconst : get? entries "const" = none) (henum : get? entries "enum" = none)
    (htype : get? entries "type" = some (.str "object")) {properties : Entries}
    (hp : (get? entries "properties").getD (.map []) = .map properties) {schema : Schema}
    (h : read (.map entries) place = .ok schema) :
    ∃ fields flag, readFields properties (Pointer.child place (.str "properties")) = .ok fields ∧
      schema = .object (fields.map (fieldEntry flag)) (.bool (isStrict entries)) ∧
      ∃ names : List String, fields.map (·.1) = names.map .str ∧ names.Nodup := by
  rw [read_object place hany hconst henum htype hp] at h
  obtain ⟨required, -, h⟩ := bind_eq_ok.1 h
  obtain ⟨fields, hfields, h⟩ := bind_eq_ok.1 h
  let given := fields.map fun field => Field.mk field.1 (field.1.isAmong required) field.2
  have hbuilt : ∀ field ∈ given, Built field.schema := by
    intro field hfield
    obtain ⟨read, hread, rfl⟩ := List.mem_map.1 hfield
    exact built_of_readFields properties hfields read hread
  have harguments : Schema.objectOf (given.map Field.argument) (.bool (isStrict entries)) =
      .ok schema := by
    rw [List.map_map]
    exact ofSchema_eq_ok.1 h
  obtain ⟨rfl, names, hnames, hnodup⟩ := of_objectOf hbuilt harguments
  rw [List.map_map] at hnames
  refine ⟨fields, fun name => name.isAmong required, hfields, ?_, names, hnames, hnodup⟩
  rw [List.map_map]
  rfl

/-- A node that has been read and has a text compiles if and only if all nodes in it that are
converted are ready. -/
theorem compilesAsRead {v : Value} (h : Node v) (htext : v.hasText = true) :
    CompilesAsRead registry v := by
  induction h with
  | @mk entries shaped options items properties ihoptions ihitems ihproperties =>
    intro source schema hread place
    have hbelow {keyword : String} {w : Value} (hw : get? entries keyword = some w) :
        w.hasText = true := hasText_of_get? htext hw
    cases nodeKind_of_shaped shaped with
    | @anyOf items' hany htype =>
      have hready : Ready registry entries := ready_of_ne (by simp [htype]) (by simp [htype])
      have ih : ∀ item ∈ items', CompilesAsRead registry item := fun item hitem =>
        ihoptions items' hany item hitem (Value.hasText_of_mem_list (hbelow hany) hitem)
      rw [read_anyOf source hany] at hread
      obtain ⟨schemas, hschemas, hread⟩ := bind_eq_ok.1 hread
      obtain rfl := Except.ok.inj hread
      rw [unionOf_eq (built_of_readAll items' hschemas), exists_compileAt_union_iff,
        forall_converted_anyOf hany htype, and_iff_right hready,
        compileAll_read_iff 0 ih hschemas]
    | const hany hconst htype =>
      rw [read_const source hany hconst] at hread
      obtain rfl := Except.ok.inj hread
      rw [forall_converted_leaf hany (by simp [htype]) (by simp [htype])]
      exact iff_of_true ⟨_, compileAt_literal.2 ⟨hbelow hconst, rfl⟩⟩
        (ready_of_ne (by simp [htype]) (by simp [htype]))
    | enum hany hconst henum htype =>
      rw [read_enum source hany hconst henum] at hread
      obtain rfl := Except.ok.inj hread
      rw [forall_converted_leaf hany (by simp [htype]) (by simp [htype])]
      exact iff_of_true (exists_compileAt_enumOf (hbelow henum))
        (ready_of_ne (by simp [htype]) (by simp [htype]))
    | @primitive kind hany hconst henum htype =>
      have hne : kind.name ≠ "array" ∧ kind.name ≠ "object" := by cases kind <;> decide
      rw [read_primitive source hany hconst henum htype] at hread
      obtain rfl := Except.ok.inj hread
      rw [forall_converted_leaf hany (by simp [htype, hne]) (by simp [htype, hne])]
      exact compiles_primitiveOf shaped htext htype place
    | array hany hconst henum htype =>
      rw [read_array source hany hconst henum htype] at hread
      cases hitem : get? entries "items" with
      | none => simp [hitem] at hread
      | some item =>
        simp only [hitem] at hread
        obtain ⟨inner, hinner, hread⟩ := bind_eq_ok.1 hread
        obtain rfl := Except.ok.inj hread
        rw [forall_converted_array hany htype hitem, exists_compileAt_list_iff shaped htext htype,
          ihitems item hitem (hbelow hitem) hinner]
    | object hany hconst henum htype =>
      have hready : Ready registry entries := ready_of_ne (by simp [htype]) (by simp [htype])
      obtain ⟨properties', hp⟩ := properties_of_shaped shaped
      obtain ⟨fields, flag, hfields, rfl, names, hnames, hnodup⟩ :=
        of_read_object hany hconst henum htype hp hread
      have ih : ∀ property ∈ properties', CompilesAsRead registry property.2 :=
        (forall_properties_iff hp).1 fun list hlist property hproperty =>
          ihproperties list hlist property hproperty
            (Value.hasText_of_mem_map (hbelow hlist) hproperty)
      rw [forall_converted_object hany htype, forall_properties_iff hp, and_iff_right hready,
        exists_compileAt_object_iff hnames hnodup, compileEntries_read_iff flag ih hfields]

end

end Schema

/-- The schema of a document that a loader has accepted compiles if and only if the string nodes in
it that are converted name registered formats and all counts of converted nodes are integers. -/
theorem Loader.compiles_iff {v : Value} {source : String} {loader : Loader} {document : Document}
    (h : (Loader.parse v source).outcome loader = .ok document) (registry : Registry) :
    ∃ entries root, v = .map entries ∧ Schema.get? entries "schema" = some root ∧
      ((∃ validator, Validator.ofSchema document.schema registry = .ok validator) ↔
        ∀ node, Schema.Converted root node → Schema.Ready registry node) := by
  rw [Loader.parse_outcome] at h
  obtain ⟨header, entries, hheader, -, hentries⟩ := Document.parse_eq_ok.1 h
  obtain ⟨rfl, -⟩ := Document.header_eq_ok.1 hheader
  obtain ⟨⟨hwell, htext⟩, schema, hread, rfl⟩ := Document.ofEntries_eq_ok.1 hentries
  obtain ⟨root, hroot, hnode⟩ := hwell.schema
  rw [Grammar.NodeHasText, Schema.getD, hroot, Option.getD_some] at htext
  rw [Schema.getD, hroot, Option.getD_some] at hread
  refine ⟨entries, root, rfl, hroot, ?_⟩
  rw [← Schema.compilesAsRead hnode htext hread ""]
  simp only [Validator.ofSchema, Schema.compile, exists_bind_eq_ok, Except.ok.injEq, exists_eq',
    and_true]

theorem Loader.compiles_users :
    ∃ document, (Loader.parse (usersDocument (.str "v0.7.0")) "users.json").outcome {} =
        .ok document ∧
      ∃ entries root, usersDocument (.str "v0.7.0") = .map entries ∧
        Schema.get? entries "schema" = some root ∧
        (∃ validator, Validator.ofSchema document.schema .standard = .ok validator) ∧
        ∀ node, Schema.Converted root node → Schema.Ready .standard node := by
  have hrun : (((Loader.parse (usersDocument (.str "v0.7.0")) "users.json").outcome
      {}).toOption.bind fun document =>
        (Validator.ofSchema document.schema .standard).toOption).isSome = true := by decide +kernel
  cases h : (Loader.parse (usersDocument (.str "v0.7.0")) "users.json").outcome {} with
  | error e =>
    rw [h] at hrun
    cases hrun
  | ok document =>
    have hcompiles : ∃ validator, Validator.ofSchema document.schema .standard = .ok validator := by
      cases hc : Validator.ofSchema document.schema .standard with
      | error e => simp [h, hc, Except.toOption] at hrun
      | ok validator => exact ⟨validator, rfl⟩
    obtain ⟨entries, root, hentries, hroot, hiff⟩ := Loader.compiles_iff h .standard
    exact ⟨document, rfl, entries, root, hentries, hroot, hcompiles, hiff.1 hcompiles⟩

/-! ## A count that is a double -/

/-- The schema node of strings of at least `2.0` characters. -/
def doubleCountNode : Entries :=
  [(.str "type", .str "string"), (.str "minLength", .float (.ofInt 2))]

def doubleCountDocument : Entries :=
  [(.str "structcheck_format", .str "0.1.0"), (.str "schema", .map doubleCountNode)]

/-- A double that stands for a count is a count by the grammar, but not for compilation. Formats
have nothing to do with it. -/
theorem Loader.not_compiles_doubleCount :
    ∃ document, (Loader.parse (.map doubleCountDocument) "<memory>").outcome {} = .ok document ∧
      (∀ node, Schema.Converted (.map doubleCountNode) node →
        Given node "format" (Schema.IsRegistered .standard)) ∧
      ¬ ∃ validator, Validator.ofSchema document.schema .standard = .ok validator := by
  have hrun : (((Loader.parse (.map doubleCountDocument) "<memory>").outcome {}).toOption.map
      fun document => (Validator.ofSchema document.schema .standard).isOk) = some false := by
    decide +kernel
  have hformat : ∀ node, Schema.Converted (.map doubleCountNode) node →
      Given node "format" (Schema.IsRegistered .standard) := by
    rw [Schema.forall_converted_leaf (by simp [doubleCountNode]) (by simp [doubleCountNode])
      (by simp [doubleCountNode])]
    simp [Given, doubleCountNode]
  cases h : (Loader.parse (.map doubleCountDocument) "<memory>").outcome {} with
  | error e =>
    rw [h] at hrun
    cases hrun
  | ok document =>
    refine ⟨document, rfl, hformat, ?_⟩
    rintro ⟨validator, hvalidator⟩
    simp [h, hvalidator, Except.toOption, Except.isOk, Except.toBool] at hrun

end Conform
