import Conform.Proofs.Yaml.Repeated

/-!
# Positions and parts of the data

The tree of a text is read twice, for the data and for the source map. In a tree without merge keys,
whose collections are sequences and mappings and whose keys are distinct strings (`Node.Plain`), all
nodes are kept and both readings go along the same paths: the data has a part where the tree has a
node (`Node.Plain.exists_node_of_part`, `Node.Plain.exists_part_of_node`), and the source map has
the start of that node under the pointer of the path (`mem_positions_iff`). A pointer stands for one
path only (`Node.Plain.at_unique`), so no position hides another.
-/

namespace Conform.Yaml

theorem mem_positions_iff {root : Node} (hplain : root.Plain) {record : String × Position} :
    record ∈ root.positions "" ↔ ∃ (path : Pointer.Path) (node : Node),
      root.At path node ∧ record = (Pointer.join path, node.mark.position) :=
  hplain.named.mem_positions_iff

namespace Node.Plain

section
variable {root : Node} {v : Value} {path : Pointer.Path}

/-- In a plain tree no two nodes have paths with the same texts. -/
theorem at_unique {node other : Node} {way : Pointer.Path} (hplain : root.Plain)
    (hnode : root.At path node) (hother : root.At way other)
    (htexts : path.map Value.text = way.map Value.text) : path = way ∧ node = other :=
  (hplain.kept_of_at hnode).unique (hplain.kept_of_at hother) htexts

/-- In a plain tree a part of the data is the value of the node that stands where the part does. -/
theorem exists_node_of_part {part : Value} (hplain : root.Plain) (hvalue : root.value = .ok v)
    (hpart : v.At path part) : ∃ node, root.At path node ∧ node.value = .ok part := by
  obtain ⟨node, hnode, hmade⟩ := hplain.named.exists_kept_of_part hvalue hpart
  exact ⟨node, hnode.toAt, hmade⟩

/-- In a plain tree that has a value all nodes do, and their values are parts of it. -/
theorem exists_part_of_node {node : Node} (hplain : root.Plain) (hvalue : root.value = .ok v)
    (hnode : root.At path node) : ∃ part, v.At path part ∧ node.value = .ok part :=
  hplain.named.exists_part_of_kept hvalue (hplain.kept_of_at hnode)

end

end Node.Plain

/-- The pointers of the source map of a plain tree are those of the parts of the data, each once,
and a part stands where the node of which it is made starts. -/
theorem sourceMap_parts {text : List Char} {root : Node} {v : Value}
    (hroot : compose text = .ok (some root)) (hplain : root.Plain) (hload : load text = .ok v) :
    ∃ map, sourceMap text = .ok map ∧ (map.map (·.1)).Nodup ∧
      (∀ pointer, pointer ∈ map.map (·.1) ↔
        ∃ path part, v.At path part ∧ pointer = Pointer.join path) ∧
      ∀ path part, v.At path part → ∃ node, root.At path node ∧ node.value = .ok part ∧
        (∀ other, root.At path other → other = node) ∧
        (∀ way other, v.At way other → Pointer.join way = Pointer.join path →
          way = path ∧ other = part) ∧
        map.lookup (Pointer.join path) =
          some ⟨some (node.mark.line + 1), some (node.mark.column + 1)⟩ := by
  have hvalue := value_of_load hroot hload
  have hkeys (pointer : String) : pointer ∈ root.sourceMap.map (·.1) ↔
      ∃ path part, v.At path part ∧ pointer = Pointer.join path := by
    rw [Node.sourceMap, SourceMap.mem_keys_ofRecords, List.mem_map]
    constructor
    · rintro ⟨record, hrecord, rfl⟩
      obtain ⟨path, node, hnode, rfl⟩ := (mem_positions_iff hplain).1 hrecord
      obtain ⟨part, hpart, -⟩ := hplain.exists_part_of_node hvalue hnode
      exact ⟨path, part, hpart, rfl⟩
    · rintro ⟨path, part, hpart, rfl⟩
      obtain ⟨node, hnode, -⟩ := hplain.exists_node_of_part hvalue hpart
      exact ⟨_, (mem_positions_iff hplain).2 ⟨path, node, hnode, rfl⟩, rfl⟩
  refine ⟨root.sourceMap, by rw [sourceMap, hroot], SourceMap.nodup_keys_ofRecords, hkeys, ?_⟩
  intro path part hpart
  obtain ⟨node, hnode, hmade⟩ := hplain.exists_node_of_part hvalue hpart
  refine ⟨node, hnode, hmade, fun other hother => ?_, fun way other hother hjoin => ?_, ?_⟩
  · exact (hplain.at_unique hother hnode rfl).2
  · obtain ⟨node', hnode', hmade'⟩ := hplain.exists_node_of_part hvalue hother
    obtain ⟨rfl, rfl⟩ := hplain.at_unique hnode' hnode (Pointer.texts_of_join hjoin)
    exact ⟨rfl, Except.ok.inj (hmade'.symm.trans hmade)⟩
  · -- the record that counts is one of this pointer, and no other node has it
    obtain ⟨position, hlookup⟩ :=
      SourceMap.exists_lookup_of_mem ((hkeys (Pointer.join path)).2 ⟨path, part, hpart, rfl⟩)
    have hrecord := SourceMap.mem_ofRecords (SourceMap.mem_of_lookup hlookup)
    obtain ⟨way, other, hother, heq⟩ := (mem_positions_iff hplain).1 hrecord
    obtain ⟨hjoin, rfl⟩ := Prod.mk.inj heq
    obtain ⟨rfl, rfl⟩ := hplain.at_unique hnode hother (Pointer.texts_of_join hjoin)
    exact hlookup

/-- A list that is referred to a second time, and keys that have to be escaped. -/
def aliasText : List Char := "p/q: &n\n  - 1\n  - \"~\": two\nr: *n\n".toList

/-- The parts of a list that is referred to have positions under both of its keys. -/
theorem sourceMap_parts_alias : ∃ root v map, compose aliasText = .ok (some root) ∧ root.Plain ∧
    load aliasText = .ok v ∧ sourceMap aliasText = .ok map ∧
    (∀ pointer ∈ ["", "/p~1q", "/p~1q/0", "/p~1q/1", "/p~1q/1/~0", "/r", "/r/0", "/r/1", "/r/1/~0"],
      ∃ path part, v.At path part ∧ pointer = Pointer.join path) ∧
    map.lookup "/r/1/~0" = some ⟨some 3, some 10⟩ := by
  have hroot : ((compose aliasText).toOption.any fun root? => root?.any Node.isPlain) = true := by
    decide +kernel
  have hload : (load aliasText).toOption.isSome = true := by decide +kernel
  have hmap : (sourceMap aliasText).toOption = some
      [("", ⟨some 1, some 1⟩), ("/p~1q", ⟨some 1, some 6⟩), ("/p~1q/0", ⟨some 2, some 5⟩),
       ("/p~1q/1", ⟨some 3, some 5⟩), ("/p~1q/1/~0", ⟨some 3, some 10⟩), ("/r", ⟨some 1, some 6⟩),
       ("/r/0", ⟨some 2, some 5⟩), ("/r/1", ⟨some 3, some 5⟩), ("/r/1/~0", ⟨some 3, some 10⟩)] := by
    decide +kernel
  obtain ⟨root?, hcompose, hroot⟩ := exists_of_any_toOption hroot
  cases root? with
  | none => cases hroot
  | some root =>
    have hplain := plain_of_isPlain root hroot
    obtain ⟨v, hvalue⟩ := Option.isSome_iff_exists.1 hload
    have hvalue := eq_ok_of_toOption hvalue
    obtain ⟨map, hok, -, hkeys, -⟩ := sourceMap_parts hcompose hplain hvalue
    rw [hok] at hmap
    obtain rfl := Option.some.inj hmap
    refine ⟨root, v, _, hcompose, hplain, hvalue, hok, fun pointer hpointer => ?_, by decide⟩
    exact (hkeys pointer).1 hpointer

end Conform.Yaml
