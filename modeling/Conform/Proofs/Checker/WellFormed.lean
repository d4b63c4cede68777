import Conform.Proofs.Checker.Compiled
import Conform.Proofs.Checker.Refusal
import Conform.Proofs.Checker.Rendering
import Conform.Validator

/-!
# Well-formed schemas

`Schema.WellFormed` says of a schema, node by node, that it makes sense: kinds are among the four,
keywords that matter for a node have values that are allowed, the entries of an object are fields
under different names, and field nodes stand nowhere else. A schema compiles if and only if it is
well formed and every value that its messages show has a text (`Validator.ofSchema_ok_iff`).
Compilation goes through all of it, so a schema that compiles is well formed to the end
(`wellFormed_of_compiled`) and can be shown (`shown_of_compiled`); and a schema that does not
compile has a node that is refused, which no node of a well-formed schema is
(`WellFormed.not_refused`), or one with a value that has no text.
-/

namespace Conform

/-! ## Kinds and keywords -/

/-- The kind itself or its name. -/
def KindRef.Names (ref : KindRef) (kind : Kind) : Prop :=
  ref = .known kind ∨ ref = .given (.str kind.name)

theorem Kind.ofName?_eq_some {name : String} {kind : Kind} :
    Kind.ofName? name = some kind ↔ name = kind.name := by
  constructor
  · intro h
    have hname := List.find?_some h
    exact (of_decide_eq_true hname).symm
  · rintro rfl
    cases kind <;> rfl

theorem KindRef.kind?_eq_some {ref : KindRef} {kind : Kind} :
    ref.kind? = some kind ↔ ref.Names kind := by
  cases ref with
  | known k => simp [kind?, Names]
  | given v =>
    cases v with
    | str name => simp [kind?, Names, Kind.ofName?_eq_some]
    | _ => simp [kind?, Names]

/-- A pattern is absent or a text that the pattern compiler accepts. -/
def PatternAllowed (v : Value) : Prop :=
  v = .null ∨ ∃ s program, v = .str s ∧ Pattern.compile s = .ok program

/-- A format is absent or a name that is registered. -/
def FormatAllowed (registry : Registry) (v : Value) : Prop :=
  v = .null ∨ ∃ name format, v = .str name ∧ registry.find? name = some format

/-! ## Schemas -/

namespace Schema

inductive WellFormed (registry : Registry) : Schema → Prop
  | string {kind : KindRef} {r : Refinements} : kind.Names .string →
      CountAllowed r.minLength → CountAllowed r.maxLength → PatternAllowed r.pattern →
      FormatAllowed registry r.format → WellFormed registry (.primitive kind r)
  | number {kind : KindRef} {r : Refinements} : kind.Names .number →
      BoundAllowed r.minimum → BoundAllowed r.maximum → WellFormed registry (.primitive kind r)
  | boolean {kind : KindRef} {r : Refinements} : kind.Names .boolean →
      WellFormed registry (.primitive kind r)
  | null {kind : KindRef} {r : Refinements} : kind.Names .null →
      WellFormed registry (.primitive kind r)
  | literal (value : Value) : WellFormed registry (.literal value)
  | list {item : Schema} {minItems maxItems : Value} :
      CountAllowed minItems → CountAllowed maxItems → WellFormed registry item →
      WellFormed registry (.list item minItems maxItems)
  | object {entries : List Entry} {strict : Value} {names : List Value} :
      (∀ entry ∈ entries, ∃ name schema required, entry = .named name (.field schema required)) →
      (∀ name schema required, .named name (.field schema required) ∈ entries →
        WellFormed registry schema) →
      fieldNames entries = .ok names → names.all Value.isKey = true → Value.KeysDiffer names →
      WellFormed registry (.object entries strict)
  | union {options : List Schema} :
      (∀ option ∈ options, WellFormed registry option) → WellFormed registry (.union options)

/-! ## What compiles is well formed -/

section
variable {registry : Registry} {place : String}

theorem patternAllowed_of_whenGiven {v : Value} {pattern : Option (String × Pattern.Program)}
    (h : whenGiven v requirePattern = .ok pattern) : PatternAllowed v := by
  rcases whenGiven_eq_ok.1 h with ⟨rfl, -⟩ | ⟨-, ⟨s, program⟩, hp, -⟩
  · exact .inl rfl
  · exact .inr ⟨s, program, requirePattern_eq_ok.1 hp⟩

theorem formatAllowed_of_whenGiven {v : Value} {format : Option Format}
    (h : whenGiven v registry.resolve = .ok format) : FormatAllowed registry v := by
  rcases whenGiven_eq_ok.1 h with ⟨rfl, -⟩ | ⟨-, found, hf, -⟩
  · exact .inl rfl
  · obtain ⟨name, hname, hfound⟩ := resolve_eq_ok.1 hf
    exact .inr ⟨name, found, hname, hfound⟩

theorem countAllowed_of_readCount {keyword : String} {v : Value} {count : Option Nat}
    (h : readCount keyword place v = .ok count) : CountAllowed v :=
  (readCount_eq_ok.1 h).imp And.left fun ⟨n, hn, _⟩ => ⟨n, hn⟩

theorem boundAllowed_of_readBound {keyword : String} {v : Value} {bound : Option Value}
    (h : readBound keyword place v = .ok bound) : BoundAllowed v :=
  (readBound_eq_ok.1 h).imp And.left And.left

theorem wellFormed_of_compilePrimitive {kind : KindRef} {r : Refinements} {checker : Checker}
    (h : compilePrimitive kind r registry place = .ok checker) :
    (Schema.primitive kind r).WellFormed registry := by
  obtain ⟨k, hk, refinements, hr, -⟩ := compilePrimitive_eq_ok.1 h
  have hk := KindRef.kind?_eq_some.1 hk
  cases k with
  | string =>
    obtain ⟨_, hleast, _, hmost, -, -, _, hpattern, _, hformat, -⟩ :=
      Refinements.ofString_eq_ok.1 hr
    exact .string hk (countAllowed_of_readCount hleast) (countAllowed_of_readCount hmost)
      (patternAllowed_of_whenGiven hpattern) (formatAllowed_of_whenGiven hformat)
  | number =>
    obtain ⟨_, hleast, _, hmost, -⟩ := Refinements.ofNumber_eq_ok.1 hr
    exact .number hk (boundAllowed_of_readBound hleast) (boundAllowed_of_readBound hmost)
  | boolean => exact .boolean hk
  | null => exact .null hk

theorem wellFormed_of_compiled {schema : Schema} {checker : Checker}
    (h : schema.Compiled registry checker) : schema.WellFormed registry := by
  induction schema using Schema.memInduction generalizing checker with
  | primitive kind r => exact wellFormed_of_compilePrimitive (h "")
  | literal value => exact .literal value
  | list item least most ih =>
    obtain ⟨_, hleast, _, hmost, inner, hi, -⟩ := compiled_list.1 h
    exact .list (countAllowed_of_readCount hleast) (countAllowed_of_readCount hmost) (ih hi)
  | object entries strict ih =>
    obtain ⟨fields, hf, hk, hd, -⟩ := compiled_object.1 h
    have hfield : ∀ entry ∈ entries, ∃ name schema required,
        entry = .named name (.field schema required) ∧
        ∃ checker, schema.Compiled registry checker := fun entry hentry => by
      obtain ⟨field, -, hc⟩ := exists_of_mem_right hf.flip entry hentry
      obtain ⟨name, schema, required, heq, -, checker, hc, -⟩ := compiled_entry.1 hc
      exact ⟨name, schema, required, heq, checker, hc⟩
    have hnames : fieldNames entries = .ok (fields.map FieldChecker.name) :=
      fieldNames_of_compile (@compileEntries_of_compiled registry "" _ _ hf)
    refine .object (fun entry hentry => ?_) (fun name schema required hmem => ?_) hnames hk
      ((areDistinct_iff_keysDiffer hk).1 hd)
    · obtain ⟨name, schema, required, heq, -⟩ := hfield entry hentry
      exact ⟨name, schema, required, heq⟩
    · obtain ⟨_, _, _, heq, checker, hc⟩ := hfield _ hmem
      cases heq
      exact ih _ _ _ hmem hc
  | union options ih =>
    obtain ⟨checkers, ho, -⟩ := compiled_union.1 h
    refine .union fun option hoption => ?_
    obtain ⟨checker, -, hc⟩ := exists_of_mem_right ho.flip option hoption
    exact ih option hoption hc
  | field | other => cases h ""

/-- What compiles in a schema compiles at each of its nodes. -/
theorem Compiled.of_nodeAt {schema node : Schema} {path : Pointer.Path} {checker : Checker}
    (h : schema.Compiled registry checker) (hnode : schema.NodeAt path node) :
    ∃ checker, node.Compiled registry checker := by
  induction hnode generalizing checker with
  | here => exact ⟨checker, h⟩
  | item _ ih =>
    obtain ⟨_, -, _, -, inner, hi, -⟩ := compiled_list.1 h
    exact ih hi
  | field hentry _ ih =>
    obtain ⟨fields, hf, -⟩ := compiled_object.1 h
    obtain ⟨field, -, hc⟩ := exists_of_mem_right hf.flip _ hentry
    obtain ⟨_, _, _, heq, -, checker, hc, -⟩ := compiled_entry.1 hc
    cases heq
    exact ih hc
  | option hoption _ ih =>
    obtain ⟨checkers, ho, -⟩ := compiled_union.1 h
    obtain ⟨checker, -, hc⟩ := exists_of_mem_right ho.flip _ (List.mem_of_getElem? hoption)
    exact ih hc

/-- The messages of a node that compiles can be written. -/
theorem Compiled.shown {node : Schema} {checker : Checker} (h : node.Compiled registry checker)
    {v : Value} (hv : v ∈ node.shown) : v.hasText = true := by
  cases node with
  | primitive kind r =>
    obtain ⟨k, hk, refinements, hr, -⟩ := compilePrimitive_eq_ok.1 (h "")
    simp only [Schema.shown, hk] at hv
    cases k with
    | string =>
      obtain ⟨_, -, _, -, hleast, hmost, -⟩ := Refinements.ofString_eq_ok.1 hr
      rcases List.mem_pair.1 hv with rfl | rfl
      · exact hleast
      · exact hmost
    | number =>
      obtain ⟨_, -, _, -, hleast, hmost, -⟩ := Refinements.ofNumber_eq_ok.1 hr
      rcases List.mem_pair.1 hv with rfl | rfl
      · exact hleast
      · exact hmost
    | boolean | null => cases hv
  | literal value =>
    obtain rfl := List.mem_singleton.1 hv
    exact (compiled_literal.1 h).1
  | list item least most =>
    obtain ⟨_, -, _, -, _, -, hleast, hmost, -⟩ := compiled_list.1 h
    rcases List.mem_pair.1 hv with rfl | rfl
    · exact hleast
    · exact hmost
  | object entries strict =>
    obtain ⟨fields, hf, -⟩ := compiled_object.1 h
    obtain ⟨entry, hentry, hname⟩ := List.mem_filterMap.1 hv
    obtain ⟨field, -, hc⟩ := exists_of_mem_right hf.flip entry hentry
    obtain ⟨name, schema, required, rfl, htext, -⟩ := compiled_entry.1 hc
    obtain rfl := Option.some.inj hname
    exact htext
  | field | union | other => cases hv

/-! ## What is well formed compiles -/

/-- The nodes of a well-formed schema are well formed. -/
theorem WellFormed.of_nodeAt {schema node : Schema} {path : Pointer.Path}
    (h : schema.WellFormed registry) (hnode : schema.NodeAt path node) :
    node.WellFormed registry := by
  induction hnode with
  | here => exact h
  | item _ ih =>
    cases h with
    | list _ _ hitem => exact ih hitem
  | field hentry _ ih =>
    cases h with
    | object _ hschemas => exact ih (hschemas _ _ _ hentry)
  | option hoption _ ih =>
    cases h with
    | union hoptions => exact ih (hoptions _ (List.mem_of_getElem? hoption))

theorem WellFormed.string_keywords {kind : KindRef} {r : Refinements}
    (h : (Schema.primitive kind r).WellFormed registry) (hk : kind.kind? = some .string) :
    CountAllowed r.minLength ∧ CountAllowed r.maxLength ∧ PatternAllowed r.pattern ∧
      FormatAllowed registry r.format := by
  cases h with
  | string _ hleast hmost hpattern hformat => exact ⟨hleast, hmost, hpattern, hformat⟩
  | number hn | boolean hn | null hn => cases hk.symm.trans (KindRef.kind?_eq_some.2 hn)

theorem WellFormed.number_keywords {kind : KindRef} {r : Refinements}
    (h : (Schema.primitive kind r).WellFormed registry) (hk : kind.kind? = some .number) :
    BoundAllowed r.minimum ∧ BoundAllowed r.maximum := by
  cases h with
  | number _ hleast hmost => exact ⟨hleast, hmost⟩
  | string hn | boolean hn | null hn => cases hk.symm.trans (KindRef.kind?_eq_some.2 hn)

theorem not_patternRefused {v : Value} {failure : SchemaFailure} (h : PatternAllowed v) :
    ¬ PatternRefused v failure := by
  rintro hrefused
  rcases h with rfl | ⟨s, program, rfl, hs⟩
  · cases hrefused with
    | notText hnull => exact hnull rfl
  · cases hrefused with
    | notText _ htext => exact htext s rfl
    | invalid h | excess h => cases hs.symm.trans h

theorem not_formatRefused {v : Value} {failure : SchemaFailure} (h : FormatAllowed registry v) :
    ¬ FormatRefused registry v failure := by
  rintro hrefused
  rcases h with rfl | ⟨name, format, rfl, hfind⟩
  · cases hrefused with
    | noKey hk => cases hk
    | unknown hnull => exact hnull rfl
  · cases hrefused with
    | noKey hk => cases hk
    | unknown _ _ hunknown => exact hunknown name format rfl hfind

/-- A well-formed node is not refused, at any place. -/
theorem WellFormed.not_refused {schema : Schema} {failure : SchemaFailure}
    (h : schema.WellFormed registry) : ¬ schema.Refused registry place failure := by
  intro hrefused
  cases hrefused with
  | misplaced | unknown => cases h
  | kind hk =>
    cases h with
    | string hn | number hn | boolean hn | null hn =>
      cases hk.symm.trans (KindRef.kind?_eq_some.2 hn)
  | length hk hmem hcount =>
    obtain ⟨hleast, hmost, -⟩ := h.string_keywords hk
    simp only [List.mem_cons, Prod.mk.injEq, List.not_mem_nil, or_false] at hmem
    rcases hmem with ⟨-, rfl⟩ | ⟨-, rfl⟩
    · exact hcount hleast
    · exact hcount hmost
  | pattern hk hp => exact not_patternRefused (h.string_keywords hk).2.2.1 hp
  | format hk hf => exact not_formatRefused (h.string_keywords hk).2.2.2 hf
  | bound hk hmem hbound =>
    obtain ⟨hleast, hmost⟩ := h.number_keywords hk
    simp only [List.mem_cons, Prod.mk.injEq, List.not_mem_nil, or_false] at hmem
    rcases hmem with ⟨-, rfl⟩ | ⟨-, rfl⟩
    · exact hbound hleast
    · exact hbound hmost
  | itemCount hmem hcount =>
    cases h with
    | list hleast hmost =>
      simp only [List.mem_cons, Prod.mk.injEq, List.not_mem_nil, or_false] at hmem
      rcases hmem with ⟨-, rfl⟩ | ⟨-, rfl⟩
      · exact hcount hleast
      · exact hcount hmost
  | entry hentry hrefused =>
    cases h with
    | object hfields =>
      obtain ⟨name, schema, required, rfl⟩ := hfields _ hentry
      cases hrefused with
      | notField hne => exact hne schema required rfl
  | noKeys hnames hk =>
    cases h with
    | object _ _ hnames' hk' =>
      cases hnames.symm.trans hnames'
      cases hk.symm.trans hk'
  | repeated hnames _ hdiffer =>
    cases h with
    | object _ _ hnames' _ hdiffer' =>
      cases hnames.symm.trans hnames'
      exact hdiffer hdiffer'

end

end Schema

/-- A schema compiles if and only if it is well formed and the messages of its nodes show no value
without a text. -/
theorem Validator.ofSchema_ok_iff (schema : Schema) (registry : Registry) :
    (∃ validator, Validator.ofSchema schema registry = .ok validator) ↔
      schema.WellFormed registry ∧
        ∀ path node, schema.NodeAt path node → ∀ v ∈ node.shown, v.hasText = true := by
  constructor
  · rintro ⟨validator, h⟩
    obtain ⟨checker, hc, -⟩ := bind_eq_ok.1 h
    have hcompiled := compiled_of_compileAt hc
    refine ⟨Schema.wellFormed_of_compiled hcompiled, fun path node hnode v hv => ?_⟩
    obtain ⟨_, hc⟩ := hcompiled.of_nodeAt hnode
    exact hc.shown hv
  · rintro ⟨hwell, hshown⟩
    cases hcompile : schema.compile registry with
    | ok checker => exact ⟨⟨schema, checker⟩, by rw [ofSchema, hcompile, ok_bind]⟩
    | error failure =>
      obtain ⟨path, node, hnode, hfails⟩ := exists_failsWith hcompile
      cases hfails with
      | refused hrefused => exact absurd hrefused (hwell.of_nodeAt hnode).not_refused
      | unshown hv htext => cases htext.symm.trans (hshown path node hnode _ hv)

/-- A literal with more digits than are written. -/
def longLiteral : Schema := .literal (.int longInteger)

/-- Well formed, but not compiled: the message of the literal cannot be written. -/
theorem Validator.ofSchema_longLiteral : longLiteral.WellFormed .standard ∧
    Validator.ofSchema longLiteral .standard = .error (.fault .badValue) := by
  refine ⟨.literal _, ?_⟩
  simp [longLiteral, ofSchema, Schema.compile, Schema.compileAt, Value.requireText,
    Value.longInteger_hasText, SchemaFailure.ofFault]

end Conform
