import Conform.Proofs.Outcome
import Conform.Proofs.Value.Key
import Conform.Yaml.Value

/-!
# What loading comes to

A mapping that is loaded has been put together by assignments, so no key of it is the same as an
earlier one, however deep the mapping stands in lists and other mappings (`Yaml.keyed_of_load`).
Keys may be of any type that can be a key. What stands in the tuples of ordered pairs and in sets is
left aside.

A text that has no value is malformed, or it has an escape, a node or a reference of which nothing
can be made (`Yaml.unmade_of_load`).

Both are properties of the outcome for a node, `Outcome.Meets`, and follow the making of values.
-/

namespace Conform

namespace Value

/-- The keys of mappings differ, at any depth of mappings and lists. -/
inductive Keyed : Value → Prop
  | map {entries : List (Value × Value)} : KeysDiffer (entries.map (·.1)) →
      (∀ entry ∈ entries, Keyed entry.2) → Keyed (.map entries)
  | list {items : List Value} : (∀ item ∈ items, Keyed item) → Keyed (.list items)
  | other {v : Value} : (∀ entries, v ≠ .map entries) → (∀ items, v ≠ .list items) → Keyed v

theorem keyed_map_iff {entries : List (Value × Value)} : (Value.map entries).Keyed ↔
    KeysDiffer (entries.map (·.1)) ∧ ∀ entry ∈ entries, entry.2.Keyed := by
  constructor
  · intro h
    cases h with
    | map hkeys hentries => exact ⟨hkeys, hentries⟩
    | other hmap _ => exact absurd rfl (hmap entries)
  · rintro ⟨hkeys, hentries⟩
    exact .map hkeys hentries

/-- A value without parts. -/
def IsLeaf (v : Value) : Prop := v.items? = none ∧ ∀ entries, v ≠ .map entries

theorem IsLeaf.keyed {v : Value} (h : v.IsLeaf) : v.Keyed := by
  refine .other h.2 fun items hlist => ?_
  rw [hlist] at h
  cases h.1

theorem keyed_list_iff {items : List Value} :
    (Value.list items).Keyed ↔ ∀ item ∈ items, item.Keyed := by
  constructor
  · intro h
    cases h with
    | list hitems => exact hitems
    | other _ hlist => exact absurd rfl (hlist items)
  · exact .list

/-! ## Assignments -/

section
variable {key v : Value} {entries : List (Value × Value)}

/-- A new key comes last. -/
theorem keys_put : (put key v entries).map (·.1) =
    if key.isAmong (entries.map (·.1)) then entries.map (·.1)
    else entries.map (·.1) ++ [key] := by
  induction entries with
  | nil => rfl
  | cons entry entries ih =>
    obtain ⟨k, w⟩ := entry
    rw [put, List.map_cons, isAmong, List.any_cons]
    cases hsame : key.same k with
    | true => rfl
    | false =>
      rw [if_neg Bool.false_ne_true, List.map_cons, ih, Bool.false_or, ← isAmong]
      cases key.isAmong (entries.map (·.1)) <;> rfl

theorem keysDiffer_put (h : KeysDiffer (entries.map (·.1))) :
    KeysDiffer ((put key v entries).map (·.1)) := by
  rw [keys_put]
  cases hamong : key.isAmong (entries.map (·.1)) with
  | true => exact h
  | false =>
    refine List.pairwise_append.2 ⟨h, List.pairwise_singleton _ _, fun k hk last hlast => ?_⟩
    obtain rfl := List.mem_singleton.1 hlast
    exact Bool.eq_false_iff.2 fun hsame =>
      Bool.eq_false_iff.1 hamong (List.any_eq_true.2 ⟨k, hk, hsame⟩)

theorem mem_put {entry : Value × Value} (h : entry ∈ put key v entries) :
    entry ∈ entries ∨ entry.2 = v := by
  induction entries with
  | nil =>
    obtain rfl := List.mem_singleton.1 h
    exact .inr rfl
  | cons first entries ih =>
    obtain ⟨k, w⟩ := first
    rw [put] at h
    split at h
    · rcases List.mem_cons.1 h with rfl | h
      · exact .inr rfl
      · exact .inl (List.mem_cons_of_mem _ h)
    · rcases List.mem_cons.1 h with rfl | h
      · exact .inl List.mem_cons_self
      · exact (ih h).imp_left (List.mem_cons_of_mem _)

theorem keyed_put (h : (Value.map entries).Keyed) (hv : v.Keyed) :
    (Value.map (put key v entries)).Keyed := by
  obtain ⟨hkeys, hentries⟩ := keyed_map_iff.1 h
  refine .map (keysDiffer_put hkeys) fun entry hentry => ?_
  rcases mem_put hentry with hmem | hvalue
  · exact hentries entry hmem
  · rw [hvalue]
    exact hv

end

theorem keyed_ofAssignments {pairs : List (Value × Value)} (h : ∀ pair ∈ pairs, pair.2.Keyed) :
    (Value.map (ofAssignments pairs)).Keyed := by
  induction pairs using List.reverseRecOn with
  | nil => exact .map List.Pairwise.nil nofun
  | append_singleton pairs pair ih =>
    obtain ⟨hpairs, hpair⟩ := List.forall_mem_append.1 h
    rw [ofAssignments_concat]
    exact keyed_put (ih hpairs) (hpair pair (List.mem_singleton_self pair))

/-- A mapping has no keys but those that are assigned to. -/
theorem mem_keys_ofAssignments {key : Value} {pairs : List (Value × Value)}
    (h : key ∈ (ofAssignments pairs).map (·.1)) : key ∈ pairs.map (·.1) := by
  induction pairs using List.reverseRecOn with
  | nil => exact h
  | append_singleton pairs pair ih =>
    rw [ofAssignments_concat, keys_put] at h
    rw [List.map_append, List.mem_append]
    split at h
    · exact .inl (ih h)
    · exact (List.mem_append.1 h).imp_left ih

theorem keysDiffer_ofAssignments (pairs : List (Value × Value)) :
    KeysDiffer ((ofAssignments pairs).map (·.1)) := by
  induction pairs using List.reverseRecOn with
  | nil => exact List.Pairwise.nil
  | append_singleton pairs pair ih =>
    rw [ofAssignments_concat]
    exact keysDiffer_put ih

/-- The keys of a mapping that is made by assignments to names are some of the names. -/
theorem keys_ofAssignments {names : List String} {pairs : List (Value × Value)}
    (h : pairs.map (·.1) = names.map .str) :
    ∃ kept : List String, (ofAssignments pairs).map (·.1) = kept.map .str ∧ kept.Nodup := by
  have hstr : ∀ key ∈ (ofAssignments pairs).map (·.1), ∃ s, key = .str s := fun key hkey =>
    forall_str_iff.2 ⟨names, h⟩ key (mem_keys_ofAssignments hkey)
  obtain ⟨kept, hkept⟩ := forall_str_iff.1 hstr
  exact ⟨kept, hkept, nodup_of_keysDiffer (hkept ▸ keysDiffer_ofAssignments pairs)⟩

end Value

namespace Yaml

/-! ## Outcomes -/

namespace Outcome

/-- A result has a property, and a fault has a cause; to be malformed needs none. -/
inductive Meets {α : Type} (p : α → Prop) (cause : Fault → Prop) : Outcome α → Prop
  | ok {a : α} : p a → Meets p cause (.ok a)
  | malformed (depth : Nat) : Meets p cause (.error (depth, .malformed))
  | fault (depth : Nat) {fault : Fault} : cause fault → Meets p cause (.error (depth, .fault fault))

section
variable {α β : Type} {p : α → Prop} {q : β → Prop} {cause : Fault → Prop}

theorem meets_here {outcome : Except Failure α} (hresult : ∀ a, outcome = .ok a → p a)
    (hfault : ∀ fault, outcome = .error (.fault fault) → cause fault) :
    Meets p cause (here outcome) := by
  cases outcome with
  | ok a => exact .ok (hresult a rfl)
  | error failure =>
    cases failure with
    | malformed => exact .malformed 0
    | fault fault => exact .fault 0 (hfault fault rfl)

theorem Meets.mono {cause' : Fault → Prop} {outcome : Outcome α} (h : Meets p cause outcome)
    (hcause : ∀ fault, cause fault → cause' fault) : Meets p cause' outcome := by
  cases h with
  | ok ha => exact .ok ha
  | malformed depth => exact .malformed depth
  | fault depth hfault => exact .fault depth (hcause _ hfault)

theorem Meets.weaken {p' : α → Prop} {outcome : Outcome α} (h : Meets p cause outcome)
    (hp : ∀ a, p a → p' a) : Meets p' cause outcome := by
  cases h with
  | ok ha => exact .ok (hp _ ha)
  | malformed depth => exact .malformed depth
  | fault depth hfault => exact .fault depth hfault

theorem Meets.deeper {outcome : Outcome α} (h : Meets p cause outcome) :
    Meets p cause outcome.deeper := by
  cases h with
  | ok ha => exact .ok ha
  | malformed depth => exact .malformed (depth + 1)
  | fault depth hfault => exact .fault (depth + 1) hfault

/-- What is asked of a result says nothing of a failure. -/
theorem Meets.error {e : Nat × Failure} (h : Meets p cause (.error e)) :
    Meets q cause (.error e) := by
  cases h with
  | malformed depth => exact .malformed depth
  | fault depth hfault => exact .fault depth hfault

/-- Of two failures one is kept. -/
theorem Meets.both {a : Outcome α} {b : Outcome β} (ha : Meets p cause a) (hb : Meets q cause b) :
    Meets (fun pair => p pair.1 ∧ q pair.2) cause (Outcome.both a b) := by
  cases a with
  | ok a =>
    cases ha with
    | ok ha =>
      cases hb with
      | ok hb => exact .ok ⟨ha, hb⟩
      | malformed depth => exact .malformed depth
      | fault depth hfault => exact .fault depth hfault
  | error e =>
    cases b with
    | ok b => exact ha.error
    | error f =>
      have hboth : Outcome.both (Except.error e : Outcome α) (.error f : Outcome β) =
          .error (if f.1 < e.1 then f else e) := rfl
      rw [hboth]
      split
      · exact hb.error
      · exact ha.error

theorem Meets.map {outcome : Outcome α} (h : Meets p cause outcome) {f : α → β}
    (hf : ∀ a, p a → q (f a)) : Meets q cause (Except.map f outcome) := by
  cases h with
  | ok ha => exact .ok (hf _ ha)
  | malformed depth => exact .malformed depth
  | fault depth hfault => exact .fault depth hfault

theorem all_cons (outcome : Outcome α) (rest : List (Outcome α)) : all (outcome :: rest) =
    Except.map (fun pair => pair.1 :: pair.2) (Outcome.both outcome (all rest)) := by
  rw [all]
  cases Outcome.both outcome (all rest) <;> rfl

theorem meets_all : ∀ {outcomes : List (Outcome α)},
    (∀ outcome ∈ outcomes, Meets p cause outcome) →
      Meets (fun results => ∀ a ∈ results, p a) cause (all outcomes)
  | [], _ => .ok (List.forall_mem_nil _)
  | outcome :: rest, h => by
    obtain ⟨hfirst, hrest⟩ := List.forall_mem_cons.1 h
    rw [all_cons]
    exact (hfirst.both (meets_all hrest)).map fun pair hpair => List.forall_mem_cons.2 hpair

end

end Outcome

/-! ## Scalars -/

section
variable {text : String} {v : Value}

theorem bool_eq_ok (h : Typed.bool text = .ok v) : ∃ b, v = .bool b := by
  simp only [Typed.bool] at h
  split at h
  · exact ⟨true, (Except.ok.inj h).symm⟩
  · split at h
    · exact ⟨false, (Except.ok.inj h).symm⟩
    · cases h

theorem int_eq_ok (h : Typed.int text = .ok v) : ∃ n, v = .int n := by
  obtain ⟨_, -, h⟩ := bind_eq_ok.1 h
  obtain ⟨n, -, h⟩ := bind_eq_ok.1 h
  exact ⟨_, (Except.ok.inj h).symm⟩

theorem float_eq_ok (h : Typed.float text = .ok v) : ∃ x, v = .float x := by
  obtain ⟨⟨negative, s⟩, -, h⟩ := bind_eq_ok.1 h
  have hsigned {x : Except Fault Binary64}
      (hx : (do let x ← x; .ok (Value.float (if negative then x.neg else x))) = .ok v) :
      ∃ x, v = .float x := by
    obtain ⟨x, -, hx⟩ := bind_eq_ok.1 hx
    exact ⟨_, (Except.ok.inj hx).symm⟩
  simp only at h
  split at h
  · exact hsigned h
  · split at h
    · exact hsigned h
    · split at h
      · obtain ⟨digits, -, h⟩ := bind_eq_ok.1 h
        exact hsigned h
      · exact hsigned h

theorem timestamp_eq_ok (h : Typed.timestamp text = .ok v) :
    (∃ d, v = .date d) ∨ ∃ t, v = .datetime t := by
  simp only [Typed.timestamp] at h
  split at h
  · cases h
  · split at h
    · exact .inl ⟨_, (Except.ok.inj h).symm⟩
    · cases h
  · split at h
    · cases h
    · split at h
      · exact .inr ⟨_, (Except.ok.inj h).symm⟩
      · cases h

theorem binary_eq_ok (h : Typed.binary text = .ok v) : ∃ data, v = .bytes data := by
  simp only [Typed.binary] at h
  split at h
  · cases h
  · split at h
    · exact ⟨_, (Except.ok.inj h).symm⟩
    · cases h

end

/-- What has the type of a scalar is neither a mapping nor a list. -/
theorem leaf_of_typed {tag : Tag} {node : Node} {v : Value} (h : typed tag node = .ok v) :
    v.IsLeaf := by
  unfold typed at h
  split at h
  · cases h
  · split at h
    · obtain rfl := Except.ok.inj h
      exact ⟨rfl, nofun⟩
    · obtain ⟨b, rfl⟩ := bool_eq_ok (mapError_eq_ok.1 h)
      exact ⟨rfl, nofun⟩
    · obtain ⟨n, rfl⟩ := int_eq_ok (mapError_eq_ok.1 h)
      exact ⟨rfl, nofun⟩
    · obtain ⟨x, rfl⟩ := float_eq_ok (mapError_eq_ok.1 h)
      exact ⟨rfl, nofun⟩
    · obtain ⟨data, rfl⟩ := binary_eq_ok h
      exact ⟨rfl, nofun⟩
    · split at h
      · rcases timestamp_eq_ok (mapError_eq_ok.1 h) with ⟨d, rfl⟩ | ⟨t, rfl⟩
        · exact ⟨rfl, nofun⟩
        · exact ⟨rfl, nofun⟩
      · cases h
    · obtain rfl := Except.ok.inj h
      exact ⟨rfl, nofun⟩
    · cases h

/-! ## Nodes -/

/-- A node is the other one or stands in it. -/
inductive Node.Within (node : Node) : Node → Prop
  | here : Within node node
  | item {tag : Tag} {items : List Node} {mark : Mark} {item : Node} :
      item ∈ items → Within node item → Within node (.sequence tag items mark)
  | key {tag : Tag} {entries : List (Node × Node)} {mark : Mark} {entry : Node × Node} :
      entry ∈ entries → Within node entry.1 → Within node (.mapping tag entries mark)
  | value {tag : Tag} {entries : List (Node × Node)} {mark : Mark} {entry : Node × Node} :
      entry ∈ entries → Within node entry.2 → Within node (.mapping tag entries mark)

/-- There is a node whose text has no value of the type that its tag says. -/
def Node.Unmade (root : Node) (fault : Fault) : Prop :=
  ∃ node : Node, node.Within root ∧ typed node.tag node = .error (.fault fault)

/-- One of some nodes has a part that is not made. -/
def AnyUnmade (nodes : List Node) (fault : Fault) : Prop := ∃ node ∈ nodes, node.Unmade fault

def EntryUnmade (entries : List (Node × Node)) (fault : Fault) : Prop :=
  ∃ entry ∈ entries, entry.1.Unmade fault ∨ entry.2.Unmade fault

theorem AnyUnmade.cons {node : Node} {nodes : List Node} {fault : Fault}
    (h : AnyUnmade nodes fault) : AnyUnmade (node :: nodes) fault := by
  obtain ⟨other, hmem, hother⟩ := h
  exact ⟨other, List.mem_cons_of_mem node hmem, hother⟩

theorem EntryUnmade.cons {entry : Node × Node} {entries : List (Node × Node)} {fault : Fault}
    (h : EntryUnmade entries fault) : EntryUnmade (entry :: entries) fault := by
  obtain ⟨other, hmem, hother⟩ := h
  exact ⟨other, List.mem_cons_of_mem entry hmem, hother⟩

theorem AnyUnmade.sequence {tag : Tag} {items : List Node} {mark : Mark} {fault : Fault}
    (h : AnyUnmade items fault) : (Node.sequence tag items mark).Unmade fault := by
  obtain ⟨item, hmem, node, hnode, hfault⟩ := h
  exact ⟨node, .item hmem hnode, hfault⟩

theorem EntryUnmade.mapping {tag : Tag} {entries : List (Node × Node)} {mark : Mark}
    {fault : Fault} (h : EntryUnmade entries fault) :
    (Node.mapping tag entries mark).Unmade fault := by
  obtain ⟨entry, hmem, ⟨node, hnode, hfault⟩ | ⟨node, hnode, hfault⟩⟩ := h
  · exact ⟨node, .key hmem hnode, hfault⟩
  · exact ⟨node, .value hmem hnode, hfault⟩

theorem meets_typed (node : Node) :
    (Outcome.here (typed node.tag node)).Meets Value.Keyed node.Unmade :=
  Outcome.meets_here (fun _ hv => (leaf_of_typed hv).keyed) fun _ hfault => ⟨node, .here, hfault⟩

/-- The sign of a default value is made as a string, which any text is. -/
theorem meets_keyValue (key : Node) : (keyValue key).Meets (fun _ => True) key.Unmade := by
  refine Outcome.meets_here (fun _ _ => trivial) fun fault hfault => ?_
  split at hfault
  · unfold typed at hfault
    split at hfault <;> cases hfault
  · exact ⟨key, .here, hfault⟩

theorem meets_collected {parts : Outcome (List Value)} {cause : Fault → Prop}
    (h : parts.Meets (fun values => ∀ v ∈ values, v.Keyed) cause) :
    (collected parts .list).Meets Value.Keyed cause := by
  have hmap : collected parts .list = Except.map Value.list parts.deeper := by
    unfold collected
    cases parts.deeper <;> rfl
  rw [hmap]
  exact h.deeper.map fun _ hvalues => .list hvalues

theorem meets_collectedPairs {entries : List (Node × Node)} {pairs : Pairs} {cause : Fault → Prop}
    {make : List (Value × Value) → Value}
    (hmake : ∀ pairs, (∀ pair ∈ pairs, pair.2.Keyed) → (make (Value.ofAssignments pairs)).Keyed)
    (h : ∀ pair ∈ pairs.all, pair.Meets (fun pair => pair.2.Keyed) cause) :
    (collectedPairs entries pairs make).Meets Value.Keyed cause := by
  have hmap : collectedPairs entries pairs make =
      if !canMerge entries then .error (1, .malformed)
      else Except.map (fun pairs => make (Value.ofAssignments pairs))
        (Outcome.all pairs.all).deeper := by
    unfold collectedPairs
    cases (Outcome.all pairs.all).deeper <;> rfl
  rw [hmap]
  split
  · exact .malformed 1
  · exact (Outcome.meets_all h).deeper.map hmake

theorem meets_pairOf {tag : Tag} {key value : Outcome Value} {cause : Fault → Prop}
    (hkey : key.Meets (fun _ => True) cause) (hvalue : value.Meets Value.Keyed cause) :
    (pairOf tag key value).Meets (fun pair => pair.2.Keyed) cause := by
  unfold pairOf
  split
  · exact .malformed 0
  · exact (hkey.both hvalue).weaken fun _ h => h.2

/-- A pair is made as a tuple. -/
theorem meets_tupled {pair : Outcome (Value × Value)} {p : Value × Value → Prop}
    {cause : Fault → Prop} (h : pair.Meets p cause) : (tupled pair).Meets Value.Keyed cause := by
  have hmap : tupled pair = Except.map (fun pair => .tuple [pair.1, pair.2]) pair := by
    cases pair <;> rfl
  rw [hmap]
  exact h.map fun _ _ => .other nofun nofun

mutual

theorem meets_value (node : Node) : node.value.Meets Value.Keyed node.Unmade := by
  cases node with
  | scalar tag text mark =>
    unfold Node.value
    split
    · exact .malformed 1
    · exact meets_typed (.scalar tag text mark)
  | sequence tag items mark =>
    have hitems := Outcome.meets_all (meets_itemValues items)
    have hpairs := Outcome.meets_all (meets_pairValues items)
    unfold Node.value
    split
    · exact (meets_collected hitems).mono fun _ => AnyUnmade.sequence
    · exact (meets_collected hpairs).mono fun _ => AnyUnmade.sequence
    · exact (meets_collected hpairs).mono fun _ => AnyUnmade.sequence
    · exact .malformed 1
    · exact .malformed 1
    · exact meets_typed (.sequence tag items mark)
  | mapping tag entries mark =>
    have hentries := meets_entryValues entries
    unfold Node.value
    split
    · exact (meets_collectedPairs (fun _ => Value.keyed_ofAssignments) hentries).mono
        fun _ => EntryUnmade.mapping
    · have hset (elements : List Value) : (Value.set elements).Keyed := .other nofun nofun
      exact (meets_collectedPairs (fun _ _ => hset _) hentries).mono
        fun _ => EntryUnmade.mapping
    · exact .malformed 1
    · exact .malformed 1
    · exact .malformed 1
    · exact meets_typed (.mapping tag entries mark)
termination_by structural node

theorem meets_itemValues (items : List Node) :
    ∀ outcome ∈ itemValues items, outcome.Meets Value.Keyed (AnyUnmade items) := by
  cases items with
  | nil => exact nofun
  | cons item rest =>
    refine List.forall_mem_cons.2 ⟨?_, fun outcome hmem => ?_⟩
    · exact (meets_value item).mono fun _ h => ⟨item, List.mem_cons_self, h⟩
    · exact (meets_itemValues rest outcome hmem).mono fun _ => AnyUnmade.cons
termination_by structural items

theorem meets_pairValues (items : List Node) :
    ∀ outcome ∈ pairValues items, outcome.Meets Value.Keyed (AnyUnmade items) := by
  cases items with
  | nil => exact nofun
  | cons item rest =>
    refine List.forall_mem_cons.2 ⟨?_, fun outcome hmem => ?_⟩
    · exact (meets_pairValue item).mono fun _ h => ⟨item, List.mem_cons_self, h⟩
    · exact (meets_pairValues rest outcome hmem).mono fun _ => AnyUnmade.cons
termination_by structural items

theorem meets_pairValue (node : Node) : (pairValue node).Meets Value.Keyed node.Unmade := by
  cases node with
  | mapping tag entries mark =>
    exact (meets_singleValue entries).mono fun _ => EntryUnmade.mapping
  | scalar tag text mark => exact .malformed 0
  | sequence tag items mark => exact .malformed 0
termination_by structural node

theorem meets_singleValue (entries : List (Node × Node)) :
    (singleValue entries).Meets Value.Keyed (EntryUnmade entries) := by
  match entries with
  | [] => exact .malformed 0
  | [(key, value)] =>
    have hkey := (meets_value key).mono fun _ h =>
      (⟨(key, value), List.mem_cons_self, .inl h⟩ : EntryUnmade [(key, value)] _)
    have hvalue := (meets_value value).mono fun _ h =>
      (⟨(key, value), List.mem_cons_self, .inr h⟩ : EntryUnmade [(key, value)] _)
    exact meets_tupled (hkey.both hvalue)
  | _ :: _ :: _ => exact .malformed 0
termination_by structural entries

theorem meets_entryValues (entries : List (Node × Node)) :
    ∀ outcome ∈ (entryValues entries).all,
      outcome.Meets (fun pair => pair.2.Keyed) (EntryUnmade entries) := by
  cases entries with
  | nil => exact nofun
  | cons entry rest =>
    obtain ⟨key, value⟩ := entry
    have hrest := fun outcome hmem =>
      (meets_entryValues rest outcome hmem).mono fun _ => @EntryUnmade.cons (key, value) rest _
    simp only [Pairs.all, List.forall_mem_append] at hrest ⊢
    unfold entryValues
    split
    · refine ⟨List.forall_mem_append.2 ⟨fun outcome hmem => ?_, hrest.1⟩, hrest.2⟩
      exact (meets_mergedPairs value outcome hmem).mono
        fun _ h => ⟨(key, value), List.mem_cons_self, .inr h⟩
    · refine ⟨hrest.1, List.forall_mem_cons.2 ⟨?_, hrest.2⟩⟩
      exact meets_pairOf
        ((meets_keyValue key).mono fun _ h => ⟨(key, value), List.mem_cons_self, .inl h⟩)
        ((meets_value value).mono fun _ h => ⟨(key, value), List.mem_cons_self, .inr h⟩)
termination_by structural entries

theorem meets_mergedPairs (node : Node) :
    ∀ outcome ∈ mergedPairs node, outcome.Meets (fun pair => pair.2.Keyed) node.Unmade := by
  cases node with
  | mapping tag entries mark =>
    exact fun outcome hmem =>
      (meets_entryValues entries outcome hmem).mono fun _ => EntryUnmade.mapping
  | sequence tag items mark =>
    exact fun outcome hmem =>
      (meets_mergedItems items outcome hmem).mono fun _ => AnyUnmade.sequence
  | scalar tag text mark => exact nofun
termination_by structural node

theorem meets_mergedItems (items : List Node) :
    ∀ outcome ∈ mergedItems items,
      outcome.Meets (fun pair => pair.2.Keyed) (AnyUnmade items) := by
  cases items with
  | nil => exact nofun
  | cons item rest =>
    refine List.forall_mem_append.2 ⟨fun outcome hmem => ?_, fun outcome hmem => ?_⟩
    · exact (meets_mergedItems rest outcome hmem).mono fun _ => AnyUnmade.cons
    · exact (meets_mergedPairs item outcome hmem).mono
        fun _ h => ⟨item, List.mem_cons_self, h⟩
termination_by structural items

end

/-! ## Texts -/

theorem valueOf_eq_ok {root : Option Node} {v : Value} (h : valueOf root = .ok v) : v.Keyed := by
  cases root with
  | none =>
    obtain rfl := Except.ok.inj h
    exact .other nofun nofun
  | some root =>
    have hmeets := meets_value root
    cases hvalue : root.value with
    | error e => simp [valueOf, hvalue] at h
    | ok w =>
      simp only [valueOf, hvalue, Except.ok.injEq] at h
      rw [hvalue] at hmeets
      cases hmeets with
      | ok hw => rwa [← h]

theorem valueOf_eq_fault {root : Option Node} {fault : Fault}
    (h : valueOf root = .error (.fault fault)) : ∃ node, root = some node ∧ node.Unmade fault := by
  cases root with
  | none => cases h
  | some node =>
    have hmeets := meets_value node
    cases hvalue : node.value with
    | ok w => simp [valueOf, hvalue] at h
    | error e =>
      obtain ⟨depth, failure⟩ := e
      simp only [valueOf, hvalue, Except.error.injEq] at h
      subst h
      rw [hvalue] at hmeets
      cases hmeets with
      | fault _ hfault => exact ⟨node, rfl, hfault⟩

/-- A text is loaded if it has a tree, in which no node refers to one that it is in, and the tree is
that of a value. -/
theorem load_eq_ok {text : List Char} {v : Value} :
    load text = .ok v ↔ ∃ root, compose text = .ok root ∧ valueOf root = .ok v := by
  simp only [load, compose, bind_eq_ok]
  constructor
  · rintro ⟨⟨root, cyclic⟩, hread, value, hvalue, h⟩
    cases cyclic with
    | true => cases h
    | false =>
      cases h
      exact ⟨root, ⟨(root, false), hread, rfl⟩, hvalue⟩
  · rintro ⟨root, ⟨⟨root', cyclic⟩, hread, h⟩, hvalue⟩
    cases cyclic with
    | true => cases h
    | false =>
      cases h
      exact ⟨(_, false), hread, v, hvalue, rfl⟩

/-- A value that is made of a text in which a node refers to one that it is in contains itself. -/
theorem load_eq_selfContaining {text : List Char} {root : Option Node} {v : Value}
    (hread : read text = .ok (root, true)) (hvalue : valueOf root = .ok v) :
    load text = .error (.fault .selfContaining) := by
  simp only [load, hread, ok_bind, hvalue, if_true]

/-- The keys of a loaded value differ. -/
theorem keyed_of_load {text : List Char} {v : Value} (h : load text = .ok v) : v.Keyed := by
  obtain ⟨root, -, hvalue⟩ := load_eq_ok.1 h
  exact valueOf_eq_ok hvalue

/-- Why a text comes to a fault: an escape in it is no character, there is no value for the text of
a node, or a node refers to one that it is in. -/
inductive Unmade (text : List Char) : Fault → Prop
  | escape {fault : Fault} : read text = .error (.fault fault) → Unmade text fault
  | node {root : Node} {cyclic : Bool} {fault : Fault} :
      read text = .ok (some root, cyclic) → root.Unmade fault → Unmade text fault
  | cycle {root : Option Node} : read text = .ok (root, true) → Unmade text .selfContaining

theorem unmade_of_load {text : List Char} {fault : Fault} (h : load text = .error (.fault fault)) :
    Unmade text fault := by
  rcases bind_eq_error.1 h with h | ⟨⟨root, cyclic⟩, hread, h⟩
  · exact .escape h
  rcases bind_eq_error.1 h with h | ⟨value, -, h⟩
  · obtain ⟨node, rfl, hunmade⟩ := valueOf_eq_fault h
    exact .node hread hunmade
  · cases cyclic with
    | true =>
      cases h
      exact .cycle hread
    | false => cases h

end Yaml

end Conform
