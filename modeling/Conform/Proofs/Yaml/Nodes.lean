import Conform.Proofs.Pointer
import Conform.Proofs.Value.Lookup
import Conform.Proofs.Value.Part
import Conform.Proofs.Yaml.Load
import Conform.Yaml.Positions
import Mathlib.Data.List.Nodup

/-!
# Nodes with their paths

The nodes of a tree are got to by the texts of keys and by indices (`Node.At`). What is said about
trees here is for those whose collections are sequences and mappings and whose keys are strings
(`Node.Named`), so that nothing is merged; in a plain tree (`Node.Plain`) no key is repeated either.

The positions that are recorded are those of the nodes (`Node.Named.mem_positions_iff`), and the
value of a collection is made from those of its nodes, one by one.
-/

namespace Conform

namespace Value

theorem at_leaf_iff {v part : Value} {path : Pointer.Path} (hleaf : v.IsLeaf) :
    v.At path part ↔ path = [] ∧ part = v := by
  constructor
  · intro h
    cases h with
    | root => exact ⟨rfl, rfl⟩
    | item hitems _ _ =>
      rw [hleaf.1] at hitems
      cases hitems
    | entry _ _ => exact absurd rfl (hleaf.2 _)
  · rintro ⟨rfl, rfl⟩
    exact .root

end Value

namespace Yaml

/-- A node of a tree, with the texts of keys and the indices that lead to it. -/
inductive Node.At : Node → Pointer.Path → Node → Prop
  | root {node : Node} : At node [] node
  | item {tag : Tag} {items : List Node} {mark : Mark} {item node : Node} {index : Nat}
      {path : Pointer.Path} : items[index]? = some item → At item path node →
      At (.sequence tag items mark) (.int index :: path) node
  | entry {tag keyTag : Tag} {text : String} {mark keyMark : Mark} {value node : Node}
      {entries : List (Node × Node)} {path : Pointer.Path} :
      (.scalar keyTag text keyMark, value) ∈ entries → At value path node →
      At (.mapping tag entries mark) (.str text :: path) node

/-- The string that a scalar is. The sign of a default value is one as a key. -/
def Node.name? : Node → Option String
  | .scalar .str text _ => some text
  | .scalar .value text _ => some text
  | _ => none

/-- A tree of sequences and mappings by default, whose keys are strings and differ in a mapping. No
key is a merge key, then. -/
inductive Node.Plain : Node → Prop
  | scalar {tag : Tag} {text : String} {mark : Mark} : Plain (.scalar tag text mark)
  | sequence {items : List Node} {mark : Mark} : (∀ item ∈ items, Plain item) →
      Plain (.sequence .seq items mark)
  | mapping {names : List String} {entries : List (Node × Node)} {mark : Mark} :
      (entries.map fun entry => entry.1.name?) = names.map some → names.Nodup →
      (∀ entry ∈ entries, Plain entry.2) → Plain (.mapping .map entries mark)

/-- A tree like a plain one, but a key may be repeated in a mapping. -/
inductive Node.Named : Node → Prop
  | scalar {tag : Tag} {text : String} {mark : Mark} : Named (.scalar tag text mark)
  | sequence {items : List Node} {mark : Mark} : (∀ item ∈ items, Named item) →
      Named (.sequence .seq items mark)
  | mapping {names : List String} {entries : List (Node × Node)} {mark : Mark} :
      (entries.map fun entry => entry.1.name?) = names.map some →
      (∀ entry ∈ entries, Named entry.2) → Named (.mapping .map entries mark)

theorem Node.Plain.named {node : Node} (hplain : node.Plain) : node.Named := by
  induction hplain with
  | scalar => exact .scalar
  | sequence _ ih => exact .sequence ih
  | mapping hnames _ _ ih => exact .mapping hnames ih

mutual

/-- Whether a tree is plain. -/
def Node.isPlain : Node → Bool
  | .scalar _ _ _ => true
  | .sequence tag items _ => tag = .seq && arePlain items
  | .mapping tag entries _ =>
    tag = .map && entries.all (·.1.name?.isSome) && decide (entries.map (·.1.name?)).Nodup &&
      havePlainValues entries

def arePlain : List Node → Bool
  | [] => true
  | item :: rest => item.isPlain && arePlain rest

def havePlainValues : List (Node × Node) → Bool
  | [] => true
  | (_, value) :: rest => value.isPlain && havePlainValues rest

end

mutual

theorem plain_of_isPlain (node : Node) (h : node.isPlain = true) : node.Plain := by
  cases node with
  | scalar tag text mark => exact .scalar
  | sequence tag items mark =>
    simp only [Node.isPlain, Bool.and_eq_true, decide_eq_true_eq] at h
    obtain ⟨rfl, hitems⟩ := h
    exact .sequence (plain_of_arePlain items hitems)
  | mapping tag entries mark =>
    simp only [Node.isPlain, Bool.and_eq_true, decide_eq_true_eq, List.all_eq_true] at h
    obtain ⟨⟨⟨rfl, hsome⟩, hnodup⟩, hentries⟩ := h
    have hnames : (entries.map fun entry => entry.1.name?) =
        (entries.map fun entry => entry.1.name?.getD "").map some := by
      rw [List.map_map]
      refine List.map_congr_left fun entry hentry => ?_
      obtain ⟨name, hname⟩ := Option.isSome_iff_exists.1 (hsome entry hentry)
      rw [Function.comp_apply, hname, Option.getD_some]
    refine .mapping hnames ?_ (plain_of_havePlainValues entries hentries)
    rw [hnames] at hnodup
    exact hnodup.of_map some
termination_by structural node

theorem plain_of_arePlain (items : List Node) (h : arePlain items = true) :
    ∀ item ∈ items, item.Plain := by
  cases items with
  | nil => exact nofun
  | cons item rest =>
    rw [arePlain, Bool.and_eq_true] at h
    exact List.forall_mem_cons.2 ⟨plain_of_isPlain item h.1, plain_of_arePlain rest h.2⟩
termination_by structural items

theorem plain_of_havePlainValues (entries : List (Node × Node))
    (h : havePlainValues entries = true) : ∀ entry ∈ entries, entry.2.Plain := by
  cases entries with
  | nil => exact nofun
  | cons entry rest =>
    obtain ⟨key, value⟩ := entry
    rw [havePlainValues, Bool.and_eq_true] at h
    exact List.forall_mem_cons.2 ⟨plain_of_isPlain value h.1, plain_of_havePlainValues rest h.2⟩
termination_by structural entries

end

mutual

/-- Whether a tree is plain but for repeated keys. -/
def Node.isNamed : Node → Bool
  | .scalar _ _ _ => true
  | .sequence tag items _ => tag = .seq && areNamed items
  | .mapping tag entries _ => tag = .map && haveNames entries

def areNamed : List Node → Bool
  | [] => true
  | item :: rest => item.isNamed && areNamed rest

def haveNames : List (Node × Node) → Bool
  | [] => true
  | (key, value) :: rest => key.name?.isSome && value.isNamed && haveNames rest

end

mutual

theorem named_of_isNamed (node : Node) (h : node.isNamed = true) : node.Named := by
  cases node with
  | scalar tag text mark => exact .scalar
  | sequence tag items mark =>
    simp only [Node.isNamed, Bool.and_eq_true, decide_eq_true_eq] at h
    obtain ⟨rfl, hitems⟩ := h
    exact .sequence (named_of_areNamed items hitems)
  | mapping tag entries mark =>
    simp only [Node.isNamed, Bool.and_eq_true, decide_eq_true_eq] at h
    obtain ⟨rfl, hentries⟩ := h
    obtain ⟨⟨names, hnames⟩, hvalues⟩ := named_of_haveNames entries hentries
    exact .mapping hnames hvalues
termination_by structural node

theorem named_of_areNamed (items : List Node) (h : areNamed items = true) :
    ∀ item ∈ items, item.Named := by
  cases items with
  | nil => exact nofun
  | cons item rest =>
    rw [areNamed, Bool.and_eq_true] at h
    exact List.forall_mem_cons.2 ⟨named_of_isNamed item h.1, named_of_areNamed rest h.2⟩
termination_by structural items

theorem named_of_haveNames (entries : List (Node × Node)) (h : haveNames entries = true) :
    (∃ names : List String, (entries.map fun entry => entry.1.name?) = names.map some) ∧
      ∀ entry ∈ entries, entry.2.Named := by
  cases entries with
  | nil => exact ⟨⟨[], rfl⟩, nofun⟩
  | cons entry rest =>
    obtain ⟨key, value⟩ := entry
    simp only [haveNames, Bool.and_eq_true] at h
    obtain ⟨⟨hkey, hvalue⟩, hrest⟩ := h
    obtain ⟨name, hname⟩ := Option.isSome_iff_exists.1 hkey
    obtain ⟨⟨names, hnames⟩, hvalues⟩ := named_of_haveNames rest hrest
    refine ⟨⟨name :: names, by rw [List.map_cons, hname, hnames, List.map_cons]⟩, ?_⟩
    exact List.forall_mem_cons.2 ⟨named_of_isNamed value hvalue, hvalues⟩
termination_by structural entries

end

/-! ## Positions -/

section
variable {pointer : String} {record : String × Position}

theorem mem_itemPositions_iff {items : List Node} {start : Nat} :
    record ∈ itemPositions items pointer start ↔ ∃ (index : Nat) (item : Node),
      items[index]? = some item ∧
        record ∈ item.positions (Pointer.child pointer (.int ↑(start + index))) := by
  induction items generalizing start with
  | nil => simp [itemPositions]
  | cons item rest ih =>
    rw [itemPositions, List.mem_append, ih]
    constructor
    · rintro (h | ⟨index, other, hother, h⟩)
      · exact ⟨0, item, rfl, h⟩
      · refine ⟨index + 1, other, hother, ?_⟩
        rwa [Nat.add_right_comm] at h
    · rintro ⟨index, other, hother, h⟩
      cases index with
      | zero =>
        obtain rfl := Option.some.inj hother
        exact .inl h
      | succ index =>
        refine .inr ⟨index, other, hother, ?_⟩
        rwa [Nat.add_right_comm]

theorem mem_entryPositions_iff {entries : List (Node × Node)} :
    record ∈ entryPositions entries pointer ↔
      ∃ (tag : Tag) (text : String) (mark : Mark) (value : Node),
        (.scalar tag text mark, value) ∈ entries ∧
          record ∈ value.positions (Pointer.child pointer (.str text)) := by
  induction entries with
  | nil => simp [entryPositions]
  | cons entry rest ih =>
    obtain ⟨key, value⟩ := entry
    cases key with
    | scalar tag text mark =>
      rw [entryPositions, List.mem_append, ih]
      constructor
      · rintro (h | ⟨_, _, _, _, hmem, h⟩)
        · exact ⟨tag, text, mark, value, List.mem_cons_self, h⟩
        · exact ⟨_, _, _, _, List.mem_cons_of_mem _ hmem, h⟩
      · rintro ⟨_, _, _, _, hmem, h⟩
        rcases List.mem_cons.1 hmem with heq | hmem
        · cases heq
          exact .inl h
        · exact .inr ⟨_, _, _, _, hmem, h⟩
    | sequence tag items mark => simp [entryPositions, ih]
    | mapping tag entries mark => simp [entryPositions, ih]

end

/-- Every node below a node has a position, under the pointer of its path. -/
theorem mem_positions_of_at {root node : Node} {path : Pointer.Path} (h : root.At path node)
    (pointer : String) :
    (pointer ++ Pointer.join path, node.mark.position) ∈ root.positions pointer := by
  induction h generalizing pointer with
  | @root node =>
    rw [Pointer.append_join_nil]
    cases node <;> exact List.mem_cons_self
  | @item tag items mark item node index path hitem _ ih =>
    refine List.mem_cons_of_mem _ (mem_itemPositions_iff.2 ⟨index, item, hitem, ?_⟩)
    rw [Nat.zero_add, ← Pointer.child_append_join]
    exact ih _
  | @entry tag keyTag text mark keyMark value node entries path hmem _ ih =>
    refine List.mem_cons_of_mem _ (mem_entryPositions_iff.2 ⟨_, _, _, _, hmem, ?_⟩)
    rw [← Pointer.child_append_join]
    exact ih _

theorem at_of_mem_positions {root : Node} (hnamed : root.Named) {pointer : String}
    {record : String × Position} (h : record ∈ root.positions pointer) :
    ∃ (path : Pointer.Path) (node : Node), root.At path node ∧
      record = (pointer ++ Pointer.join path, node.mark.position) := by
  induction hnamed generalizing pointer with
  | scalar =>
    obtain rfl := List.mem_singleton.1 h
    exact ⟨[], _, .root, by rw [Pointer.append_join_nil]; rfl⟩
  | @sequence items mark _ ih =>
    rcases List.mem_cons.1 h with rfl | h
    · exact ⟨[], _, .root, by rw [Pointer.append_join_nil]; rfl⟩
    · obtain ⟨index, item, hitem, h⟩ := mem_itemPositions_iff.1 h
      obtain ⟨path, node, hnode, rfl⟩ := ih item (List.mem_of_getElem? hitem) h
      rw [Nat.zero_add, Pointer.child_append_join]
      exact ⟨_, node, .item hitem hnode, rfl⟩
  | @mapping names entries mark _ _ ih =>
    rcases List.mem_cons.1 h with rfl | h
    · exact ⟨[], _, .root, by rw [Pointer.append_join_nil]; rfl⟩
    · obtain ⟨tag, text, keyMark, value, hmem, h⟩ := mem_entryPositions_iff.1 h
      obtain ⟨path, node, hnode, rfl⟩ := ih _ hmem h
      rw [Pointer.child_append_join]
      exact ⟨_, node, .entry hmem hnode, rfl⟩

/-- The positions of a tree are those of the nodes below its root. -/
theorem Node.Named.mem_positions_iff {root : Node} (hnamed : root.Named)
    {record : String × Position} :
    record ∈ root.positions "" ↔ ∃ (path : Pointer.Path) (node : Node),
      root.At path node ∧ record = (Pointer.join path, node.mark.position) := by
  constructor
  · intro h
    simpa only [String.empty_append] using at_of_mem_positions hnamed h
  · rintro ⟨path, node, hnode, rfl⟩
    simpa only [String.empty_append] using mem_positions_of_at hnode ""

/-! ## Keys -/

section
variable {names : List String} {entries : List (Node × Node)} {tag : Tag} {text : String}
  {mark : Mark} {value : Node}

theorem eq_scalar_of_name {key : Node} {name : String} (h : key.name? = some name) :
    ∃ tag mark, key = .scalar tag name mark := by
  cases key with
  | scalar tag text mark => cases tag <;> cases h <;> exact ⟨_, _, rfl⟩
  | sequence tag items mark => cases h
  | mapping tag entries mark => cases h

/-- The name of a key is its text. -/
theorem name?_of_mem (hnames : (entries.map fun entry => entry.1.name?) = names.map some)
    (h : (.scalar tag text mark, value) ∈ entries) :
    (Node.scalar tag text mark).name? = some text := by
  have hname : (Node.scalar tag text mark).name? ∈ names.map some := by
    rw [← hnames]
    exact List.mem_map_of_mem h
  obtain ⟨name, -, hname⟩ := List.mem_map.1 hname
  cases tag <;> cases hname <;> rfl

/-- Under a text stands one node only. -/
theorem value_unique (hnames : (entries.map fun entry => entry.1.name?) = names.map some)
    (hnodup : names.Nodup) {tag' : Tag} {mark' : Mark} {value' : Node}
    (h : (.scalar tag text mark, value) ∈ entries)
    (h' : (.scalar tag' text mark', value') ∈ entries) : value = value' := by
  have hdistinct : (entries.map fun entry => entry.1.name?).Nodup := by
    rw [hnames]
    exact hnodup.map fun _ _ => Option.some.inj
  have hname := (name?_of_mem hnames h).trans (name?_of_mem hnames h').symm
  exact congrArg Prod.snd (List.inj_on_of_nodup_map hdistinct h h' hname)

end

/-! ## Values -/

namespace Outcome

section
variable {α β : Type}

theorem here_eq_ok {result : Except Failure α} {a : α} :
    here result = .ok a ↔ result = .ok a := by
  cases result <;> simp [here]

theorem deeper_eq_ok {outcome : Outcome α} {a : α} :
    outcome.deeper = .ok a ↔ outcome = .ok a := by
  cases outcome <;> simp [deeper]

theorem both_eq_ok {first : Outcome α} {second : Outcome β} {pair : α × β} :
    both first second = .ok pair ↔ first = .ok pair.1 ∧ second = .ok pair.2 := by
  cases first <;> cases second <;> simp [both, Prod.ext_iff]

theorem eq_map_of_all {outcomes : List (Outcome α)} {results : List α}
    (h : all outcomes = .ok results) : outcomes = results.map .ok := by
  induction outcomes generalizing results with
  | nil =>
    obtain rfl := Except.ok.inj h
    rfl
  | cons outcome rest ih =>
    rw [all_cons] at h
    cases hboth : both outcome (all rest) with
    | error e =>
      rw [hboth] at h
      cases h
    | ok pair =>
      rw [hboth] at h
      obtain rfl := Except.ok.inj h
      obtain ⟨hfirst, hrest⟩ := both_eq_ok.1 hboth
      rw [List.map_cons, ← ih hrest, hfirst]

end

end Outcome

theorem eq_of_collected {parts : Outcome (List Value)} {make : List Value → Value} {v : Value}
    (h : collected parts make = .ok v) : ∃ values, parts = .ok values ∧ v = make values := by
  unfold collected at h
  cases hparts : parts.deeper with
  | error e =>
    rw [hparts] at h
    cases h
  | ok values =>
    rw [hparts] at h
    exact ⟨values, Outcome.deeper_eq_ok.1 hparts, (Except.ok.inj h).symm⟩

theorem eq_of_collectedPairs {entries : List (Node × Node)} {pairs : Pairs}
    {make : List (Value × Value) → Value} {v : Value}
    (h : collectedPairs entries pairs make = .ok v) :
    ∃ made, Outcome.all pairs.all = .ok made ∧ v = make (Value.ofAssignments made) := by
  unfold collectedPairs at h
  split at h
  · cases h
  · cases hpairs : (Outcome.all pairs.all).deeper with
    | error e =>
      rw [hpairs] at h
      cases h
    | ok made =>
      rw [hpairs] at h
      exact ⟨made, Outcome.deeper_eq_ok.1 hpairs, (Except.ok.inj h).symm⟩

theorem itemValues_eq_map (items : List Node) : itemValues items = items.map Node.value := by
  induction items with
  | nil => rfl
  | cons item rest ih => rw [itemValues, ih, List.map_cons]

theorem leaf_of_scalar {tag : Tag} {text : String} {mark : Mark} {v : Value}
    (h : (Node.scalar tag text mark).value = .ok v) : v.IsLeaf := by
  unfold Node.value at h
  split at h
  · cases h
  · exact leaf_of_typed (Outcome.here_eq_ok.1 h)

theorem pairOf_of_name {key : Node} {name : String} (h : key.name? = some name)
    (value : Outcome Value) :
    key.tag ≠ .merge ∧
      pairOf key.tag (keyValue key) value = Outcome.both (.ok (.str name)) value := by
  cases key with
  | scalar tag text mark => cases tag <;> cases h <;> exact ⟨nofun, rfl⟩
  | sequence tag items mark => cases h
  | mapping tag entries mark => cases h

section
variable {entries : List (Node × Node)} {names : List String}

/-- Nothing is merged into a mapping whose keys are names. -/
theorem entryValues_of_names (hnames : (entries.map fun entry => entry.1.name?) = names.map some) :
    (entryValues entries).all =
      entries.map fun entry => pairOf entry.1.tag (keyValue entry.1) entry.2.value := by
  have hpairs : entryValues entries =
      ⟨[], entries.map fun entry => pairOf entry.1.tag (keyValue entry.1) entry.2.value⟩ := by
    induction entries generalizing names with
    | nil => rfl
    | cons entry rest ih =>
      cases names with
      | nil => cases hnames
      | cons name names =>
        obtain ⟨hname, hnames⟩ := List.cons.inj hnames
        rw [entryValues, if_neg (pairOf_of_name hname (.error (0, .malformed))).1, ih hnames,
          List.map_cons]
  rw [hpairs, Pairs.all, List.nil_append]

/-- The entries of a mapping are made one by one: the key a string, the value that of its node. -/
theorem made_of_names {made : List (Value × Value)}
    (hnames : (entries.map fun entry => entry.1.name?) = names.map some)
    (h : Outcome.all (entryValues entries).all = .ok made) :
    (entries.map fun entry => (entry.1.name?.map Value.str, entry.2.value)) =
      made.map fun pair => (some pair.1, .ok pair.2) := by
  replace h := Outcome.eq_map_of_all h
  rw [entryValues_of_names hnames] at h
  induction entries generalizing names made with
  | nil =>
    cases made with
    | nil => rfl
    | cons pair made => cases h
  | cons entry rest ih =>
    cases names with
    | nil => cases hnames
    | cons name names =>
      cases made with
      | nil => cases h
      | cons pair made =>
        obtain ⟨hname, hnames⟩ := List.cons.inj hnames
        obtain ⟨hpair, hrest⟩ := List.cons.inj h
        simp only [(pairOf_of_name hname _).2, Outcome.both_eq_ok] at hpair
        have hkey : entry.1.name?.map Value.str = some pair.1 := by
          rw [show entry.1.name? = some name from hname, Option.map_some, Except.ok.inj hpair.1]
        rw [List.map_cons, List.map_cons, ih hnames hrest, hkey, hpair.2]

theorem keys_of_names {made : List (Value × Value)}
    (hnames : (entries.map fun entry => entry.1.name?) = names.map some)
    (hmade : (entries.map fun entry => (entry.1.name?.map Value.str, entry.2.value)) =
      made.map fun pair => (some pair.1, .ok pair.2)) :
    made.map (·.1) = names.map Value.str := by
  have hkeys := congrArg (List.map Prod.fst) hmade
  rw [List.map_map, List.map_map] at hkeys
  have hnames := congrArg (List.map (Option.map Value.str)) hnames
  rw [List.map_map, List.map_map] at hnames
  apply List.map_injective_iff.2 (fun _ _ => Option.some.inj)
  rw [List.map_map, List.map_map]
  exact hkeys.symm.trans hnames

end

theorem exists_made_of_item {items : List Node} {values : List Value} {index : Nat} {item : Node}
    (h : Outcome.all (itemValues items) = .ok values) (hitem : items[index]? = some item) :
    ∃ w, values[index]? = some w ∧ item.value = .ok w := by
  have hindex := congrArg (·[index]?) (Outcome.eq_map_of_all h)
  simp only [itemValues_eq_map, List.getElem?_map, hitem, Option.map_some] at hindex
  obtain ⟨w, hw, hvalue⟩ := Option.map_eq_some_iff.1 hindex.symm
  exact ⟨w, hw, hvalue.symm⟩

theorem exists_item_of_made {items : List Node} {values : List Value} {index : Nat} {w : Value}
    (h : Outcome.all (itemValues items) = .ok values) (hw : values[index]? = some w) :
    ∃ item, items[index]? = some item ∧ item.value = .ok w := by
  have hindex := congrArg (·[index]?) (Outcome.eq_map_of_all h)
  simp only [itemValues_eq_map, List.getElem?_map, hw, Option.map_some] at hindex
  exact Option.map_eq_some_iff.1 hindex

/-! ## Texts -/

theorem value_of_load {text : List Char} {root : Node} {v : Value}
    (hroot : compose text = .ok (some root)) (hload : load text = .ok v) : root.value = .ok v := by
  obtain ⟨root', hroot', hvalue⟩ := load_eq_ok.1 hload
  obtain rfl := Except.ok.inj (hroot.symm.trans hroot')
  cases hw : root.value with
  | ok w =>
    simp only [valueOf, hw, Except.ok.injEq] at hvalue
    rw [hvalue]
  | error e => simp [valueOf, hw] at hvalue

end Yaml

end Conform
