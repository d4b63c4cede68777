import Conform.Proofs.Checker.Missing
import Conform.Proofs.SourceMap.Search
import Conform.Proofs.Yaml.Repeated

/-!
# Stale pointers

The source map has a pointer for every node of the text, and where keys are repeated not every node
is in the data. A pointer that only nodes have which are not kept is stale (`Node.Stale`): nothing
in the data has it. The pointers of a source map are those of the parts of the data and the stale
ones, and the parts are where the map says (`sourceMap_repeated`).

A missing property is located at the mapping that should contain it, since that is a part of the
data and the closest ancestor. It is different if the pointer of the property is stale: then a node
is found that is not in the data (`sourceMap_stale`).
-/

namespace Conform.Yaml

/-- The pointer is that of nodes, but of none that is kept. -/
def Node.Stale (root : Node) (pointer : String) : Prop :=
  (∃ path node, root.At path node ∧ pointer = Pointer.join path) ∧
    ∀ path node, root.Kept path node → pointer ≠ Pointer.join path

/-- Where a property that is missing is located. It is missing in a mapping that is a part of the
data and made of a kept node. If the pointer of the property is not in the source map, it is located
where that node starts, and otherwise where a node with this pointer does; the pointer is stale then
if the name of the property is a string. -/
def Node.LocatesMissing (root : Node) (map : SourceMap) (v : Value) (x : Violation)
    (file : Option String) : Prop :=
  ∃ above name entries node, x.path = above ++ [name] ∧ v.At above (.map entries) ∧
    Value.lookup name entries = none ∧ root.Kept above node ∧ node.value = .ok (.map entries) ∧
    (x.pointer ∉ map.map (·.1) → map.locate x.pointer file =
      ⟨file, some x.pointer, some (node.mark.line + 1), some (node.mark.column + 1)⟩) ∧
    (x.pointer ∈ map.map (·.1) →
      (∃ way other, root.At way other ∧ x.pointer = Pointer.join way ∧
        map.locate x.pointer file =
          ⟨file, some x.pointer, some (other.mark.line + 1), some (other.mark.column + 1)⟩) ∧
      ∀ s, name = .str s → root.Stale x.pointer)

namespace Node.Named

section
variable {root node : Node} {v : Value} {path above : Pointer.Path} {pointer : String}

theorem keys_eq {entries : List (Value × Value)} (hnamed : node.Named)
    (hvalue : node.value = .ok (.map entries)) :
    ∃ names : List String, entries.map (·.1) = names.map .str := by
  cases hnamed with
  | scalar => exact absurd rfl ((leaf_of_scalar hvalue).2 entries)
  | sequence _ =>
    obtain ⟨values, -, hlist⟩ := eq_of_collected hvalue
    cases hlist
  | mapping hnames _ =>
    obtain ⟨kept, keys, hmap, hkeys, -, -⟩ := eq_of_repeated hnames hvalue
    rw [Value.map.inj hmap]
    exact ⟨keys, hkeys⟩

theorem stringKeys (hnamed : root.Named) (hvalue : root.value = .ok v) : v.StringKeys := by
  rintro key ⟨entries, hpart, hkey⟩
  obtain ⟨path, hpath⟩ := hpart.exists_at
  obtain ⟨node, hnode, hnodeValue⟩ := hnamed.exists_kept_of_part hvalue hpath
  obtain ⟨names, hnames⟩ := (hnamed.of_at hnode.toAt).keys_eq hnodeValue
  exact Value.forall_str_iff.2 ⟨names, hnames⟩ key hkey

/-! ## Pointers -/

theorem mem_keys_iff (hnamed : root.Named) : pointer ∈ root.sourceMap.map (·.1) ↔
    ∃ path node, root.At path node ∧ pointer = Pointer.join path := by
  rw [Node.sourceMap, SourceMap.mem_keys_ofRecords, List.mem_map]
  constructor
  · rintro ⟨record, hrecord, rfl⟩
    obtain ⟨path, node, hnode, rfl⟩ := hnamed.mem_positions_iff.1 hrecord
    exact ⟨path, node, hnode, rfl⟩
  · rintro ⟨path, node, hnode, rfl⟩
    exact ⟨_, hnamed.mem_positions_iff.2 ⟨path, node, hnode, rfl⟩, rfl⟩

theorem lookup_of_kept (hnamed : root.Named) (hnode : root.Kept path node) :
    root.sourceMap.lookup (Pointer.join path) = some node.mark.position := by
  have hlookup := hnode.lookup_positions hnamed ""
  rwa [String.empty_append, ← SourceMap.lookup_ofRecords] at hlookup

/-- A pointer of the source map is stale or leads to a part of the data. -/
theorem mem_keys_iff_stale (hnamed : root.Named) (hvalue : root.value = .ok v) :
    pointer ∈ root.sourceMap.map (·.1) ↔
      root.Stale pointer ∨ ∃ path part, v.At path part ∧ pointer = Pointer.join path := by
  rw [hnamed.mem_keys_iff]
  constructor
  · rintro ⟨path, node, hnode, rfl⟩
    by_cases hkept : ∃ way other, root.Kept way other ∧ Pointer.join path = Pointer.join way
    · obtain ⟨way, other, hother, hjoin⟩ := hkept
      obtain ⟨part, hpart, -⟩ := hnamed.exists_part_of_kept hvalue hother
      exact .inr ⟨way, part, hpart, hjoin⟩
    · exact .inl ⟨⟨path, node, hnode, rfl⟩, fun way other hother hjoin =>
        hkept ⟨way, other, hother, hjoin⟩⟩
  · rintro (⟨hnode, -⟩ | ⟨path, part, hpart, rfl⟩)
    · exact hnode
    · obtain ⟨node, hnode, -⟩ := hnamed.exists_kept_of_part hvalue hpart
      exact ⟨path, node, hnode.toAt, rfl⟩

/-! ## Missing properties -/

/-- No kept node has the pointer of a name that is missing in a mapping. -/
theorem join_ne_of_missing {entries : List (Value × Value)} {name : String} {other : Node}
    (hnamed : root.Named) (hnode : root.Kept above node) (hvalue : node.value = .ok (.map entries))
    (hnone : Value.lookup (.str name) entries = none) (hother : root.Kept path other) :
    Pointer.join (above ++ [.str name]) ≠ Pointer.join path := by
  intro hjoin
  have htexts := Pointer.texts_of_join hjoin
  rw [List.map_append] at htexts
  obtain ⟨way, rest, rfl, hway, hrest⟩ := List.map_eq_append_iff.1 htexts.symm
  obtain ⟨key, rfl, hkey⟩ := List.map_eq_singleton_iff.1 hrest
  obtain ⟨middle, hmiddle, hchild⟩ := hother.of_append
  obtain ⟨-, rfl⟩ := hmiddle.unique hnode hway
  obtain ⟨w, hw⟩ := (hnamed.of_at hnode.toAt).lookup_of_child hvalue hchild hkey
  cases hnone.symm.trans hw

theorem locate_of_not_mem {name : Value} (hnamed : root.Named) (hnode : root.Kept above node)
    (h : Pointer.join (above ++ [name]) ∉ root.sourceMap.map (·.1)) (file : Option String) :
    root.sourceMap.locate (Pointer.join (above ++ [name])) file =
      ⟨file, some (Pointer.join (above ++ [name])), some (node.mark.line + 1),
        some (node.mark.column + 1)⟩ := by
  have hunknown : root.sourceMap.position? (Pointer.join (above ++ [name])) = none := by
    cases hlookup : root.sourceMap.lookup (Pointer.join (above ++ [name])) with
    | none => rw [SourceMap.position?, hlookup, Option.filter_none]
    | some position =>
      exact absurd (List.mem_map_of_mem (SourceMap.mem_of_lookup hlookup)) h
  have hparent : root.sourceMap.position? (Pointer.join above) = some node.mark.position := by
    rw [SourceMap.position?, hnamed.lookup_of_kept hnode]
    rfl
  exact SourceMap.locate_concat hunknown hparent file

/-- What the source map finds for a pointer that it has is the start of a node. -/
theorem exists_locate_of_mem (hnamed : root.Named) (h : pointer ∈ root.sourceMap.map (·.1))
    (file : Option String) : ∃ path node, root.At path node ∧ pointer = Pointer.join path ∧
      root.sourceMap.locate pointer file =
        ⟨file, some pointer, some (node.mark.line + 1), some (node.mark.column + 1)⟩ := by
  obtain ⟨position, hlookup⟩ := SourceMap.exists_lookup_of_mem h
  have hrecord := SourceMap.mem_ofRecords (SourceMap.mem_of_lookup hlookup)
  obtain ⟨path, node, hnode, heq⟩ := at_of_mem_positions hnamed hrecord
  obtain ⟨hpointer, rfl⟩ := Prod.mk.inj heq
  have hknown : root.sourceMap.position? pointer = some node.mark.position := by
    rw [SourceMap.position?, hlookup]
    rfl
  refine ⟨path, node, hnode, by rw [hpointer, String.empty_append], ?_⟩
  rw [SourceMap.locate, SourceMap.closest_of_known hknown]
  rfl

theorem locatesMissing {validator : Validator} {violations : List Violation} {x : Violation}
    (hnamed : root.Named) (hvalue : root.value = .ok v)
    (herrors : validator.errors v = .ok violations) (hx : x ∈ violations)
    (hkind : x.kind = .missingRequired) (file : Option String) :
    root.LocatesMissing root.sourceMap v x file := by
  have hkeys := hnamed.stringKeys hvalue
  obtain ⟨_, hpath, above, entries, name, rfl, hpart, hnone⟩ :=
    validator.checker.lacks_of_collect hkeys [] violations herrors x hx hkind
  obtain ⟨node, hnode, hmade⟩ := hnamed.exists_kept_of_part hvalue hpart
  have hpointer : x.pointer = Pointer.join (above ++ [name]) := by
    rw [Violation.pointer, hpath, List.nil_append]
  refine ⟨above, name, entries, node, hpath, hpart, hnone, hnode, hmade, fun hmem => ?_,
    fun hmem => ⟨hnamed.exists_locate_of_mem hmem file, ?_⟩⟩
  · rw [hpointer] at hmem ⊢
    exact hnamed.locate_of_not_mem hnode hmem file
  · rintro s rfl
    refine ⟨hnamed.mem_keys_iff.1 hmem, fun path kept hkept => ?_⟩
    rw [hpointer]
    exact hnamed.join_ne_of_missing hnode hmade hnone hkept

end

end Node.Named

/-! ## Texts -/

/-- The source map of a text with repeated keys has the pointers of the parts of the data, and of
each part the position where the node starts of which it is made. Other pointers that it has are
stale, and no part has one of these. A missing property is located at the mapping that should
contain it, unless its pointer is stale, which leads to a node that is not kept. -/
theorem sourceMap_repeated {text : List Char} {root? : Option Node} {v : Value}
    (hroot : compose text = .ok root?) (hnamed : ∀ root ∈ root?, root.Named)
    (hload : load text = .ok v) :
    ∃ map, sourceMap text = .ok map ∧ (map.map (·.1)).Nodup ∧
      (∀ pointer, pointer ∈ map.map (·.1) ↔ ∃ root ∈ root?, root.Stale pointer ∨
        ∃ path part, v.At path part ∧ pointer = Pointer.join path) ∧
      (∀ root ∈ root?, ∀ path part, v.At path part → ¬ root.Stale (Pointer.join path) ∧
        ∃ node, root.Kept path node ∧ node.value = .ok part ∧ map.lookup (Pointer.join path) =
          some ⟨some (node.mark.line + 1), some (node.mark.column + 1)⟩) ∧
      ∀ (validator : Validator) violations, validator.errors v = .ok violations →
        ∀ x ∈ violations, x.kind = .missingRequired →
          ∃ root ∈ root?, ∀ file, root.LocatesMissing map v x file := by
  cases root? with
  | none =>
    obtain ⟨root, hroot', hvalue⟩ := load_eq_ok.1 hload
    obtain rfl := Except.ok.inj (hroot.symm.trans hroot')
    obtain rfl := Except.ok.inj hvalue
    refine ⟨[], by rw [sourceMap, hroot], List.nodup_nil, by simp,
      fun _ h => absurd h (Option.not_mem_none _), ?_⟩
    intro validator violations herrors x hx hkind
    have hkeys : Value.null.StringKeys := Value.stringKeys_scalar rfl
    have hleaf : Value.null.IsLeaf := ⟨rfl, fun _ h => by cases h⟩
    obtain ⟨_, -, above, entries, name, -, hpart, -⟩ :=
      validator.checker.lacks_of_collect hkeys [] violations herrors x hx hkind
    obtain ⟨-, hmap⟩ := (Value.at_leaf_iff hleaf).1 hpart
    cases hmap
  | some root =>
    have hnamed := hnamed root rfl
    have hvalue := value_of_load hroot hload
    refine ⟨root.sourceMap, by rw [sourceMap, hroot], SourceMap.nodup_keys_ofRecords,
      fun pointer => ?_, ?_, ?_⟩
    · simp only [Option.mem_some_iff, exists_eq_left']
      exact hnamed.mem_keys_iff_stale hvalue
    · intro other hother path part hpart
      obtain rfl := Option.some.inj hother
      obtain ⟨node, hnode, hmade⟩ := hnamed.exists_kept_of_part hvalue hpart
      exact ⟨fun hstale => hstale.2 path node hnode rfl, node, hnode, hmade,
        hnamed.lookup_of_kept hnode⟩
    · intro validator violations herrors x hx hkind
      exact ⟨root, rfl, hnamed.locatesMissing hvalue herrors hx hkind⟩

/-- A key whose first value has what the second one has not. -/
def repeatedText : List Char := "a: {b: x}\na: {}\n".toList

def repeatedValue : Value := .map [(.str "a", .map [])]

theorem load_repeated : load repeatedText = .ok repeatedValue := by
  have hload : (load repeatedText).toOption.any repeatedValue.deepEqual = true := by decide +kernel
  obtain ⟨v, hv, hequal⟩ := exists_of_any_toOption hload
  obtain ⟨entries, rfl, hlength, hentries⟩ := Value.deepEqual_map_left_iff.1 hequal
  obtain ⟨inner, hlookup, hinner⟩ := hentries _ _ List.mem_cons_self
  obtain ⟨others, rfl, hothers, -⟩ := Value.deepEqual_map_left_iff.1 hinner
  obtain ⟨entry, rfl⟩ := List.length_eq_one_iff.1 hlength.symm
  obtain rfl := List.mem_singleton.1 (Value.mem_of_lookup_str hlookup)
  obtain rfl := List.length_eq_zero_iff.1 hothers.symm
  exact hv

theorem sourceMap_repeated_eq : sourceMap repeatedText = .ok [("", ⟨some 1, some 1⟩),
    ("/a", ⟨some 2, some 4⟩), ("/a/b", ⟨some 1, some 8⟩)] := by
  have hmap : (sourceMap repeatedText).toOption = some [("", ⟨some 1, some 1⟩),
    ("/a", ⟨some 2, some 4⟩), ("/a/b", ⟨some 1, some 8⟩)] := by decide +kernel
  exact eq_ok_of_toOption hmap

theorem compose_repeated : ∃ root, compose repeatedText = .ok (some root) ∧ root.Named := by
  have hroot : ((compose repeatedText).toOption.any fun root? =>
      root?.any Node.isNamed) = true := by decide +kernel
  obtain ⟨root?, hcompose, hroot⟩ := exists_of_any_toOption hroot
  cases root? with
  | none => cases hroot
  | some root => exact ⟨root, hcompose, named_of_isNamed root hroot⟩

/-- The validator of objects that hold an object with two properties. -/
def pairValidator : Validator :=
  let pair : Schema := .object [.named (.str "b") (.field (.string {}) (.bool true)),
    .named (.str "c") (.field (.string {}) (.bool true))] (.bool false)
  let checker : Checker := .object [⟨.str "b", true, .primitive .string []⟩,
    ⟨.str "c", true, .primitive .string []⟩] false
  ⟨.object [.named (.str "a") (.field pair (.bool true))] (.bool false),
    .object [⟨.str "a", true, checker⟩] false⟩

theorem errors_repeated : pairValidator.errors repeatedValue = .ok
    [.of [.str "a", .str "b"] .missingRequired .null,
     .of [.str "a", .str "c"] .missingRequired .null] := rfl

/-- Of two missing properties one has a stale pointer. -/
theorem sourceMap_repeated_pair : ∃ root map, compose repeatedText = .ok (some root) ∧
    root.Named ∧ load repeatedText = .ok repeatedValue ∧ sourceMap repeatedText = .ok map ∧
    root.Stale "/a/b" ∧ ¬ root.Stale "/a" ∧
    map.locate "/a/c" none = ⟨none, some "/a/c", some 2, some 4⟩ := by
  obtain ⟨root, hroot, hnamed⟩ := compose_repeated
  obtain ⟨map, hmap, -, -, hparts, hmissing⟩ :=
    sourceMap_repeated hroot (fun _ h => Option.some.inj h ▸ hnamed) load_repeated
  obtain rfl := Except.ok.inj (sourceMap_repeated_eq.symm.trans hmap)
  refine ⟨root, _, hroot, hnamed, load_repeated, hmap, ?_, ?_, by decide⟩
  · obtain ⟨_, hsome, hlocates⟩ :=
      hmissing pairValidator _ errors_repeated _ List.mem_cons_self rfl
    obtain rfl := Option.some.inj hsome
    obtain ⟨above, name, entries, node, hpath, -, -, -, -, -, hstale⟩ := hlocates none
    have hpath : [Value.str "a"] ++ [.str "b"] = above ++ [name] := hpath
    have hname := List.cons.inj (List.append_inj_right' hpath rfl)
    exact (hstale (by decide)).2 "b" hname.1.symm
  · exact (hparts root rfl [.str "a"] _ (.entry List.mem_cons_self .root)).1

/-- The source map has the pointer of a node that is not in the data, and a missing property is
located there, a line above the object that should contain it. -/
theorem sourceMap_stale : ∃ root map, compose repeatedText = .ok (some root) ∧ root.Named ∧
    load repeatedText = .ok repeatedValue ∧ sourceMap repeatedText = .ok map ∧
    "/a/b" ∈ map.map (·.1) ∧
    (∀ path part, repeatedValue.At path part → "/a/b" ≠ Pointer.join path) ∧
    Validator.ofSchema pairValidator.schema .standard = .ok pairValidator ∧
    ∃ x y, pairValidator.errors repeatedValue = .ok [x, y] ∧ x.kind = .missingRequired ∧
      x.path = [.str "a", .str "b"] ∧ map.lookup "/a" = some ⟨some 2, some 4⟩ ∧
      map.locate x.pointer none = ⟨none, some "/a/b", some 1, some 8⟩ := by
  obtain ⟨root, hroot, hnamed⟩ := compose_repeated
  refine ⟨root, _, hroot, hnamed, load_repeated, sourceMap_repeated_eq, by decide, ?_, rfl, _, _,
    errors_repeated, rfl, rfl, by decide, by decide⟩
  intro path part hpart hjoin
  have htexts : [Value.str "a", .str "b"].map Value.text = path.map Value.text :=
    Pointer.texts_of_join hjoin
  cases hpart with
  | root => cases htexts
  | item hitems => cases hitems
  | entry hmem hpart =>
    obtain ⟨rfl, rfl⟩ := Prod.mk.inj (List.mem_singleton.1 hmem)
    cases hpart with
    | root => cases htexts
    | item hitems => cases hitems
    | entry hmem => cases hmem

end Conform.Yaml
