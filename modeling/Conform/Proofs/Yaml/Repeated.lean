import Conform.Proofs.SourceMap
import Conform.Proofs.Yaml.Nodes

/-!
# Repeated keys

A key may come several times in a mapping of a text, and the data has the last of its values. The
nodes that the data is made of are those that are got to by going down to last values only
(`Node.Kept`): they and the parts of the data are at the same paths
(`Node.Named.exists_kept_of_part`, `Node.Named.exists_part_of_kept`).

The source map has records of the other nodes as well. Records are made in the order of the text and
the last one of a pointer counts, so a node that is kept is recorded where it starts
(`Node.Kept.lookup_positions`): what comes after it in the text is under other pointers.
-/

namespace Conform.Yaml

/-- The value of a name in a mapping: of several the last. -/
def lastValue? (name : String) (entries : List (Node × Node)) : Option Node :=
  (entries.reverse.find? fun entry => entry.1.name? = some name).map (·.2)

/-- A node of a tree that no later value of a repeated key takes the place of. -/
inductive Node.Kept : Node → Pointer.Path → Node → Prop
  | root {node : Node} : Kept node [] node
  | item {tag : Tag} {items : List Node} {mark : Mark} {item node : Node} {index : Nat}
      {path : Pointer.Path} : items[index]? = some item → Kept item path node →
      Kept (.sequence tag items mark) (.int index :: path) node
  | entry {tag : Tag} {name : String} {mark : Mark} {value node : Node}
      {entries : List (Node × Node)} {path : Pointer.Path} :
      lastValue? name entries = some value → Kept value path node →
      Kept (.mapping tag entries mark) (.str name :: path) node

/-! ## Last values -/

section
variable {name : String} {entries : List (Node × Node)} {value : Node}

theorem lastValue?_cons (key : Node) : lastValue? name ((key, value) :: entries) =
    (lastValue? name entries).or (if key.name? = some name then some value else none) := by
  unfold lastValue?
  rw [List.reverse_cons, List.find?_append, List.find?_cons, List.find?_nil]
  cases entries.reverse.find? fun entry => entry.1.name? = some name with
  | some entry => rfl
  | none => by_cases hkey : key.name? = some name <;> simp [hkey]

theorem lastValue?_eq_none_iff :
    lastValue? name entries = none ↔ ∀ entry ∈ entries, entry.1.name? ≠ some name := by
  simp [lastValue?]

theorem exists_entry_of_lastValue (h : lastValue? name entries = some value) :
    ∃ tag mark, (.scalar tag name mark, value) ∈ entries := by
  obtain ⟨⟨key, value⟩, hfound, rfl⟩ := Option.map_eq_some_iff.1 h
  have hname : key.name? = some name := by simpa using List.find?_some hfound
  obtain ⟨tag, mark, rfl⟩ := eq_scalar_of_name hname
  exact ⟨tag, mark, List.mem_reverse.1 (List.mem_of_find?_eq_some hfound)⟩

/-- What a mapping holds under a name after the assignments is the value of the last node. -/
theorem value_of_lastValue {made : List (Value × Value)}
    (hmade : (entries.map fun entry => (entry.1.name?.map Value.str, entry.2.value)) =
      made.map fun pair => (some pair.1, .ok pair.2)) :
    (lastValue? name entries).map Node.value =
      (Value.lookup (.str name) (Value.ofAssignments made)).map .ok := by
  have hfind := congrArg (fun pairs : List (Option Value × Outcome Value) =>
    (pairs.reverse.find? fun pair => pair.1.any (Value.str name).same).map (·.2)) hmade
  simp only [← List.map_reverse, List.find?_map, Option.map_map] at hfind
  have hname (entry : Node × Node) :
      (entry.1.name?.map Value.str).any (Value.str name).same =
        decide (entry.1.name? = some name) := by
    cases entry.1.name? with
    | none => rfl
    | some other =>
      by_cases h : other = name
      · simp [h]
      · simp [h, Ne.symm h]
  rw [Value.lookup_ofAssignments, Value.lookup, lastValue?, Option.map_map, Option.map_map]
  simpa only [Function.comp_def, hname, Option.any_some] using hfind

end

/-! ## Kept nodes -/

namespace Node.Kept

variable {root node other : Node} {path way : Pointer.Path}

theorem toAt (h : root.Kept path node) : root.At path node := by
  induction h with
  | root => exact .root
  | item hitem _ ih => exact .item hitem ih
  | entry hlast _ ih =>
    obtain ⟨tag, mark, hmem⟩ := exists_entry_of_lastValue hlast
    exact .entry hmem ih

/-- A kept node is the only one whose path has its texts. -/
theorem unique (hnode : root.Kept path node) (hother : root.Kept way other)
    (htexts : path.map Value.text = way.map Value.text) : path = way ∧ node = other := by
  induction hnode generalizing way with
  | root =>
    cases hother with
    | root => exact ⟨rfl, rfl⟩
    | item _ _ => cases htexts
    | entry _ _ => cases htexts
  | item hitem _ ih =>
    cases hother with
    | root => cases htexts
    | item hitem' hother =>
      obtain ⟨hindex, hrest⟩ := List.cons.inj htexts
      obtain rfl := Pointer.index_inj hindex
      obtain rfl := Option.some.inj (hitem.symm.trans hitem')
      obtain ⟨rfl, rfl⟩ := ih hother hrest
      exact ⟨rfl, rfl⟩
  | @entry tag name mark value node entries path hlast _ ih =>
    cases hother with
    | root => cases htexts
    | @entry _ name' _ _ _ _ _ hlast' hother =>
      obtain ⟨hname, hrest⟩ := List.cons.inj htexts
      obtain rfl : name = name' := hname
      obtain rfl := Option.some.inj (hlast.symm.trans hlast')
      obtain ⟨rfl, rfl⟩ := ih hother hrest
      exact ⟨rfl, rfl⟩

/-- The way to a kept node leads through kept nodes. -/
theorem of_append {above rest : Pointer.Path} (h : root.Kept (above ++ rest) node) :
    ∃ middle, root.Kept above middle ∧ middle.Kept rest node := by
  induction above generalizing root with
  | nil => exact ⟨root, .root, h⟩
  | cons key above ih =>
    cases h with
    | item hitem h =>
      obtain ⟨middle, habove, hrest⟩ := ih h
      exact ⟨middle, .item hitem habove, hrest⟩
    | entry hlast h =>
      obtain ⟨middle, habove, hrest⟩ := ih h
      exact ⟨middle, .entry hlast habove, hrest⟩

end Node.Kept

/-- If no key is repeated, all nodes are kept. -/
theorem Node.Plain.kept_of_at {root node : Node} {path : Pointer.Path} (hplain : root.Plain)
    (hnode : root.At path node) : root.Kept path node := by
  induction hnode with
  | root => exact .root
  | item hitem _ ih =>
    cases hplain with
    | sequence hitems => exact .item hitem (ih (hitems _ (List.mem_of_getElem? hitem)))
  | @entry tag keyTag text mark keyMark value node entries path hmem _ ih =>
    cases hplain with
    | mapping hnames hnodup hentries =>
      cases hlast : lastValue? text entries with
      | none => exact absurd (name?_of_mem hnames hmem) (lastValue?_eq_none_iff.1 hlast _ hmem)
      | some last =>
        obtain ⟨_, _, hentry⟩ := exists_entry_of_lastValue hlast
        obtain rfl := value_unique hnames hnodup hmem hentry
        exact .entry hlast (ih (hentries _ hmem))

/-! ## Values -/

/-- The entries of the value of a mapping are those of the last nodes of its names. -/
theorem eq_of_repeated {entries : List (Node × Node)} {names : List String} {mark : Mark}
    {v : Value} (hnames : (entries.map fun entry => entry.1.name?) = names.map some)
    (h : (Node.mapping .map entries mark).value = .ok v) :
    ∃ (kept : List (Value × Value)) (keys : List String),
      v = .map kept ∧ kept.map (·.1) = keys.map .str ∧ keys.Nodup ∧
        ∀ name, (lastValue? name entries).map Node.value =
          (Value.lookup (.str name) kept).map .ok := by
  obtain ⟨made, hall, rfl⟩ := eq_of_collectedPairs h
  have hmade := made_of_names hnames hall
  obtain ⟨keys, hkeys, hnodup⟩ := Value.keys_ofAssignments (keys_of_names hnames hmade)
  exact ⟨_, keys, rfl, hkeys, hnodup, fun _ => value_of_lastValue hmade⟩

namespace Node.Named

variable {root node : Node} {v : Value} {path : Pointer.Path}

/-- A part of the data is the value of the kept node that stands where the part does. -/
theorem exists_kept_of_part {part : Value} (hnamed : root.Named) (hvalue : root.value = .ok v)
    (hpart : v.At path part) : ∃ node, root.Kept path node ∧ node.value = .ok part := by
  induction hnamed generalizing v path with
  | scalar =>
    obtain ⟨rfl, rfl⟩ := (Value.at_leaf_iff (leaf_of_scalar hvalue)).1 hpart
    exact ⟨_, .root, hvalue⟩
  | @sequence items mark _ ih =>
    obtain ⟨values, hvalues, rfl⟩ := eq_of_collected hvalue
    cases hpart with
    | root => exact ⟨_, .root, hvalue⟩
    | item hitems hw hpart =>
      obtain rfl := Option.some.inj hitems
      obtain ⟨item, hitem, hmade⟩ := exists_item_of_made hvalues hw
      obtain ⟨node, hnode, hnodeValue⟩ := ih item (List.mem_of_getElem? hitem) hmade hpart
      exact ⟨node, .item hitem hnode, hnodeValue⟩
  | @mapping names entries mark hnames _ ih =>
    obtain ⟨kept, keys, rfl, hkeys, hnodup, hlast⟩ := eq_of_repeated hnames hvalue
    cases hpart with
    | root => exact ⟨_, .root, hvalue⟩
    | item hitems _ _ => cases hitems
    | entry hpair hpart =>
      obtain ⟨name, -, rfl⟩ := Value.exists_name_of_mem hkeys hpair
      have hname := hlast name
      rw [(Value.lookup_str_iff_mem hkeys hnodup).2 hpair] at hname
      obtain ⟨value, hvalue, hchild⟩ := Option.map_eq_some_iff.1 hname
      obtain ⟨tag, keyMark, hentry⟩ := exists_entry_of_lastValue hvalue
      obtain ⟨node, hnode, hnodeValue⟩ := ih _ hentry hchild hpart
      exact ⟨node, .entry hvalue hnode, hnodeValue⟩

/-- The values of kept nodes are parts of the data. -/
theorem exists_part_of_kept (hnamed : root.Named) (hvalue : root.value = .ok v)
    (hnode : root.Kept path node) : ∃ part, v.At path part ∧ node.value = .ok part := by
  induction hnode generalizing v with
  | root => exact ⟨v, .root, hvalue⟩
  | item hitem _ ih =>
    cases hnamed with
    | sequence hitems =>
      obtain ⟨values, hvalues, rfl⟩ := eq_of_collected hvalue
      obtain ⟨w, hw, hmade⟩ := exists_made_of_item hvalues hitem
      obtain ⟨part, hpart, hnodeValue⟩ := ih (hitems _ (List.mem_of_getElem? hitem)) hmade
      exact ⟨part, .item rfl hw hpart, hnodeValue⟩
  | @entry _ name _ _ _ _ _ hvalueOf _ ih =>
    cases hnamed with
    | mapping hnames hentries =>
      obtain ⟨kept, keys, rfl, hkeys, hnodup, hlast⟩ := eq_of_repeated hnames hvalue
      have hname := hlast name
      rw [hvalueOf] at hname
      obtain ⟨w, hw, hchild⟩ := Option.map_eq_some_iff.1 hname.symm
      obtain ⟨tag, keyMark, hentry⟩ := exists_entry_of_lastValue hvalueOf
      obtain ⟨part, hpart, hnodeValue⟩ := ih (hentries _ hentry) hchild.symm
      exact ⟨part, .entry ((Value.lookup_str_iff_mem hkeys hnodup).1 hw) hpart, hnodeValue⟩

theorem of_at (hnamed : root.Named) (hnode : root.At path node) : node.Named := by
  induction hnode with
  | root => exact hnamed
  | item hitem _ ih =>
    cases hnamed with
    | sequence hitems => exact ih (hitems _ (List.mem_of_getElem? hitem))
  | entry hentry _ ih =>
    cases hnamed with
    | mapping _ hentries => exact ih (hentries _ hentry)

/-- A mapping that has a node under a name has a value under it. -/
theorem lookup_of_child {entries : List (Value × Value)} {key : Value} {name : String}
    {child : Node} (hnamed : node.Named) (hvalue : node.value = .ok (.map entries))
    (hchild : node.Kept [key] child) (hkey : key.text = name) :
    ∃ w, Value.lookup (.str name) entries = some w := by
  cases hchild with
  | item _ _ =>
    cases hnamed with
    | sequence _ =>
      obtain ⟨values, -, hlist⟩ := eq_of_collected hvalue
      cases hlist
  | @entry _ other _ _ _ _ _ hlastOf _ =>
    obtain rfl : other = name := hkey
    cases hnamed with
    | mapping hnames _ =>
      obtain ⟨kept, _, hmap, -, -, hlast⟩ := eq_of_repeated hnames hvalue
      obtain rfl := Value.map.inj hmap
      have hname := hlast other
      rw [hlastOf] at hname
      obtain ⟨w, hw, -⟩ := Option.map_eq_some_iff.1 hname.symm
      exact ⟨w, hw⟩

end Node.Named

/-! ## Records -/

theorem lookup_reverse_eq_none {records : List (String × Position)} {pointer : String}
    (h : ∀ record ∈ records, record.1 ≠ pointer) : records.reverse.lookup pointer = none := by
  rw [List.lookup_eq_none_iff]
  intro record hrecord
  exact bne_iff_ne.2 (h record (List.mem_reverse.1 hrecord)).symm

section
variable {pointer : String} {record : String × Position} {position : Position}
  {path : Pointer.Path}

theorem exists_item_of_record {items : List Node} {start : Nat}
    (hnamed : ∀ item ∈ items, item.Named) (h : record ∈ itemPositions items pointer start) :
    ∃ (index : Nat) (path : Pointer.Path),
      record.1 = pointer ++ Pointer.join (.int ↑(start + index) :: path) := by
  obtain ⟨index, item, hitem, h⟩ := mem_itemPositions_iff.1 h
  obtain ⟨path, node, -, rfl⟩ := at_of_mem_positions (hnamed item (List.mem_of_getElem? hitem)) h
  exact ⟨index, path, Pointer.child_append_join _ _ _⟩

theorem exists_entry_of_record {entries : List (Node × Node)}
    (hnamed : ∀ entry ∈ entries, entry.2.Named) (h : record ∈ entryPositions entries pointer) :
    ∃ (tag : Tag) (text : String) (mark : Mark) (value : Node) (path : Pointer.Path),
      (.scalar tag text mark, value) ∈ entries ∧
        record.1 = pointer ++ Pointer.join (.str text :: path) := by
  obtain ⟨tag, text, mark, value, hentry, h⟩ := mem_entryPositions_iff.1 h
  obtain ⟨path, node, -, rfl⟩ := at_of_mem_positions (hnamed _ hentry) h
  exact ⟨tag, text, mark, value, path, hentry, Pointer.child_append_join _ _ _⟩

/-- The records of an item are not hidden by those of the items after it. -/
theorem lookup_itemPositions {items : List Node} {item : Node} {index start : Nat}
    (hnamed : ∀ item ∈ items, item.Named) (hitem : items[index]? = some item)
    (hlookup : (item.positions (Pointer.child pointer (.int ↑(start + index)))).reverse.lookup
      (pointer ++ Pointer.join (.int ↑(start + index) :: path)) = some position) :
    (itemPositions items pointer start).reverse.lookup
      (pointer ++ Pointer.join (.int ↑(start + index) :: path)) = some position := by
  induction items generalizing index start with
  | nil => cases hitem
  | cons first rest ih =>
    obtain ⟨-, hrest⟩ := List.forall_mem_cons.1 hnamed
    rw [itemPositions, List.reverse_append, List.lookup_append]
    cases index with
    | zero =>
      obtain rfl := Option.some.inj hitem
      have hnone : (itemPositions rest pointer (start + 1)).reverse.lookup
          (pointer ++ Pointer.join (.int ↑(start + 0) :: path)) = none := by
        refine lookup_reverse_eq_none fun record hrecord heq => ?_
        obtain ⟨later, way, hrecord⟩ := exists_item_of_record hrest hrecord
        have hindex := (List.cons.inj (Pointer.texts_of_append (hrecord.symm.trans heq))).1
        have := Pointer.index_inj hindex
        omega
      rw [hnone]
      exact hlookup
    | succ index =>
      have hshift : start + (index + 1) = start + 1 + index := by omega
      rw [hshift] at hlookup ⊢
      rw [ih hrest hitem hlookup]
      rfl

/-- Nor are those of the last value of a name hidden by what comes after it. -/
theorem lookup_entryPositions {entries : List (Node × Node)} {names : List String} {name : String}
    {value : Node} (hnames : (entries.map fun entry => entry.1.name?) = names.map some)
    (hnamed : ∀ entry ∈ entries, entry.2.Named) (hlast : lastValue? name entries = some value)
    (hlookup : (value.positions (Pointer.child pointer (.str name))).reverse.lookup
      (pointer ++ Pointer.join (.str name :: path)) = some position) :
    (entryPositions entries pointer).reverse.lookup
      (pointer ++ Pointer.join (.str name :: path)) = some position := by
  induction entries generalizing names with
  | nil => cases hlast
  | cons entry rest ih =>
    obtain ⟨key, first⟩ := entry
    cases names with
    | nil => cases hnames
    | cons keyName names =>
      obtain ⟨hkey, hrestNames⟩ := List.cons.inj hnames
      obtain ⟨-, hrest⟩ := List.forall_mem_cons.1 hnamed
      obtain ⟨tag, mark, rfl⟩ := eq_scalar_of_name hkey
      rw [entryPositions, List.reverse_append, List.lookup_append]
      rw [lastValue?_cons] at hlast
      cases hlater : lastValue? name rest with
      | some later =>
        rw [hlater] at hlast
        obtain rfl := Option.some.inj hlast
        rw [ih hrestNames hrest hlater]
        rfl
      | none =>
        rw [hlater, Option.none_or] at hlast
        obtain ⟨hname, hfirst⟩ := Option.ite_none_right_eq_some.1 hlast
        obtain rfl := Option.some.inj (hkey.symm.trans hname)
        obtain rfl := Option.some.inj hfirst
        have hnone : (entryPositions rest pointer).reverse.lookup
            (pointer ++ Pointer.join (.str keyName :: path)) = none := by
          refine lookup_reverse_eq_none fun record hrecord heq => ?_
          obtain ⟨_, text, _, _, way, hentry, hrecord⟩ := exists_entry_of_record hrest hrecord
          have htext : text = keyName :=
            (List.cons.inj (Pointer.texts_of_append (hrecord.symm.trans heq))).1
          subst htext
          exact lastValue?_eq_none_iff.1 hlater _ hentry (name?_of_mem hrestNames hentry)
        rw [hnone]
        exact hlookup

end

/-- The last record of the pointer of a kept node is its own. -/
theorem Node.Kept.lookup_positions {root node : Node} {path : Pointer.Path} (hnamed : root.Named)
    (hnode : root.Kept path node) (pointer : String) :
    (root.positions pointer).reverse.lookup (pointer ++ Pointer.join path) =
      some node.mark.position := by
  induction hnode generalizing pointer with
  | @root node =>
    have hnil {segment : Value} {path : Pointer.Path} :
        pointer ++ Pointer.join (segment :: path) ≠ pointer ++ Pointer.join [] := fun heq =>
      nomatch Pointer.texts_of_append heq
    cases hnamed with
    | scalar => simp [Node.positions, Pointer.append_join_nil, Node.mark]
    | @sequence items mark hitems =>
      rw [Node.positions, List.reverse_cons, List.lookup_append, lookup_reverse_eq_none]
      · simp [Pointer.append_join_nil, Node.mark]
      · intro record hrecord heq
        obtain ⟨_, _, hpointer⟩ := exists_item_of_record hitems hrecord
        exact hnil (hpointer.symm.trans heq)
    | @mapping names entries mark hnames hentries =>
      rw [Node.positions, List.reverse_cons, List.lookup_append, lookup_reverse_eq_none]
      · simp [Pointer.append_join_nil, Node.mark]
      · intro record hrecord heq
        obtain ⟨_, _, _, _, _, _, hpointer⟩ := exists_entry_of_record hentries hrecord
        exact hnil (hpointer.symm.trans heq)
  | @item tag items mark item node index path hitem _ ih =>
    cases hnamed with
    | sequence hitems =>
      have hlookup := ih (hitems item (List.mem_of_getElem? hitem))
        (Pointer.child pointer (.int ↑(0 + index)))
      rw [Pointer.child_append_join] at hlookup
      have hlater := lookup_itemPositions hitems hitem hlookup
      rw [Nat.zero_add] at hlater
      rw [Node.positions, List.reverse_cons, List.lookup_append, hlater]
      rfl
  | @entry tag name mark value node entries path hlast _ ih =>
    cases hnamed with
    | mapping hnames hentries =>
      obtain ⟨keyTag, keyMark, hentry⟩ := exists_entry_of_lastValue hlast
      have hlookup := ih (hentries _ hentry) (Pointer.child pointer (.str name))
      rw [Pointer.child_append_join] at hlookup
      have hlater := lookup_entryPositions hnames hentries hlast hlookup
      rw [Node.positions, List.reverse_cons, List.lookup_append, hlater]
      rfl

end Conform.Yaml
