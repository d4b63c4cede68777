import Conform.Proofs.Value.Equivalence
import Conform.Proofs.Value.Writable

/-!
# Rearranged data

`Value.Rearranged`: the same data with the entries of mappings in another order and with lists and
tuples for each other, independently at every depth. Deep equality takes no notice of it
(`Rearranged.deepEqual_eq`), nor does JSON text with sorted keys (`Rearranged.jsonAt_canonical`).

With sorted keys, what stands between the braces of a mapping are its lines in the order of their
names (`jsonAt_object`). Lines of distinct names have one such order (`mergeSort_eq_of_perm`), and
the lines of two rearranged mappings are the same up to order, as the values are written alike.
-/

namespace Conform.Value

/-- What has a name, with the name as a key. -/
def named {α : Type} (field : String × α) : Value × α := (.str field.1, field.2)

/-- A mapping of names to values. -/
def object (fields : List (String × Value)) : Value := .map (fields.map named)

/-- Data of null, booleans, numbers, strings, sequences and mappings with string keys; on the other
side, the entries of a mapping can come in another order, and a list can be a tuple. -/
inductive Rearranged : Value → Value → Prop
  | null : Rearranged .null .null
  | bool (b : Bool) : Rearranged (.bool b) (.bool b)
  | int (n : Int) : Rearranged (.int n) (.int n)
  | float (x : Binary64) : Rearranged (.float x) (.float x)
  | str (s : String) : Rearranged (.str s) (.str s)
  | sequence {v w : Value} {items others : List Value} :
      v.items? = some items → w.items? = some others → items.length = others.length →
      (∀ (i : Nat) (a b : Value), items[i]? = some a → others[i]? = some b → Rearranged a b) →
      Rearranged v w
  | object {fields others : List (String × Value)} :
      (fields.map (·.1)).Nodup → (fields.map (·.1)).Perm (others.map (·.1)) →
      (∀ name a b, (name, a) ∈ fields → (name, b) ∈ others → Rearranged a b) →
      Rearranged (object fields) (object others)

theorem Rearranged.symm {v w : Value} (h : Rearranged v w) : Rearranged w v := by
  induction h with
  | sequence hv hw hl _ ih =>
    exact .sequence hw hv hl.symm fun i b a hb ha => ih i a b ha hb
  | object hn hperm _ ih =>
    exact .object (hperm.nodup_iff.1 hn) hperm.symm fun name b a hb ha => ih name a b ha hb
  | null => exact .null
  | bool b => exact .bool b
  | int n => exact .int n
  | float x => exact .float x
  | str s => exact .str s

section
variable {fields others : List (String × Value)}

/-- Of mappings with the same names, each has a value under the names of the other. -/
theorem exists_field_of_perm (h : (fields.map (·.1)).Perm (others.map (·.1))) {name : String}
    {a : Value} (ha : (name, a) ∈ fields) : ∃ b, (name, b) ∈ others := by
  obtain ⟨⟨_, b⟩, hb, rfl⟩ := List.mem_map.1 (h.mem_iff.1 (List.mem_map_of_mem ha))
  exact ⟨b, hb⟩

/-! ## Deep equality -/

/-- A mapping with names for keys has values under names only. -/
theorem lookup_object_iff (hn : (fields.map (·.1)).Nodup) {key v : Value} :
    lookup key (fields.map named) = some v ↔ ∃ name, key = .str name ∧ (name, v) ∈ fields := by
  have hkeys : (fields.map named).map (·.1) = (fields.map (·.1)).map .str := by
    rw [List.map_map, List.map_map]
    rfl
  have hmem (name : String) : (.str name, v) ∈ fields.map named ↔ (name, v) ∈ fields := by
    simp [named]
  constructor
  · intro h
    obtain ⟨key', hkey', hsame⟩ := exists_same_of_lookup h
    obtain ⟨name, -, rfl⟩ := List.mem_map.1 (hkeys ▸ List.mem_map_of_mem hkey')
    obtain rfl := same_str_iff.1 hsame
    exact ⟨name, rfl, (hmem name).1 ((lookup_str_iff_mem hkeys hn).1 h)⟩
  · rintro ⟨name, rfl, h⟩
    exact (lookup_str_iff_mem hkeys hn).2 ((hmem name).2 h)

/-- Only sequences equal sequences, and only mappings mappings. -/
theorem exists_items_of_deepEqual {u v : Value} {items : List Value}
    (hv : v.items? = some items) (h : u.deepEqual v = true) : ∃ parts, u.items? = some parts := by
  cases v with
  | list | tuple => cases u <;> simp_all [deepEqual, items?, isNull]
  | _ => cases hv

theorem exists_entries_of_deepEqual {u : Value} (h : u.deepEqual (object fields) = true) :
    ∃ entries, u = .map entries := by
  cases u <;> simp_all [object, deepEqual, isNull]

theorem Rearranged.deepEqual_of {u v w : Value} (h : Rearranged v w) (hu : u.deepEqual v = true) :
    u.deepEqual w = true := by
  induction h generalizing u with
  | @sequence _ _ items _ hv hw hl _ ih =>
    obtain ⟨parts, hparts⟩ := exists_items_of_deepEqual hv hu
    obtain ⟨_, hv', hlength, hequal⟩ := (deepEqual_sequence_iff hparts).1 hu
    obtain rfl := Option.some.inj (hv.symm.trans hv')
    refine (deepEqual_sequence_iff hparts).2 ⟨_, hw, hlength.trans hl, fun i a c ha hc => ?_⟩
    have hi : i < items.length := hl ▸ (List.getElem?_eq_some_iff.1 hc).1
    have hb : items[i]? = some items[i] := List.getElem?_eq_getElem hi
    exact ih i _ c hb hc (hequal i a _ ha hb)
  | @object fields others hn hperm _ ih =>
    obtain ⟨entries, rfl⟩ := exists_entries_of_deepEqual hu
    obtain ⟨_, hfields, hlength, hequal⟩ := deepEqual_map_left_iff.1 hu
    obtain rfl := Value.map.inj hfields
    refine deepEqual_map_left_iff.2 ⟨_, rfl, ?_, fun key a ha => ?_⟩
    · have hsame := hperm.length_eq
      simp only [List.length_map] at hlength hsame ⊢
      rw [hlength, hsame]
    · obtain ⟨b, hb, hab⟩ := hequal key a ha
      obtain ⟨name, rfl, hfield⟩ := (lookup_object_iff hn).1 hb
      obtain ⟨c, hc⟩ := exists_field_of_perm hperm hfield
      have hlookup := (lookup_object_iff (hperm.nodup_iff.1 hn)).2 ⟨name, rfl, hc⟩
      exact ⟨c, hlookup, ih name b c hfield hc hab⟩
  | _ => exact hu

/-- Rearranged data equals the same values. -/
theorem Rearranged.deepEqual_eq {v w : Value} (h : Rearranged v w) (u : Value) :
    u.deepEqual v = u.deepEqual w :=
  Bool.eq_iff_iff.2 ⟨h.deepEqual_of, h.symm.deepEqual_of⟩

/-! ## Texts -/

theorem object_hasText_iff :
    (object fields).hasText = true ↔ ∀ field ∈ fields, field.2.hasText = true := by
  rw [object, hasText, entriesHaveText_iff, List.forall_mem_map]
  exact forall₂_congr fun field _ => and_iff_right rfl

theorem Rearranged.hasText_of {v w : Value} (h : Rearranged v w) (hv : v.hasText = true) :
    w.hasText = true := by
  induction h with
  | @sequence _ _ items _ hi ho hl _ ih =>
    rw [hasText_of_items? hi, haveText_iff] at hv
    rw [hasText_of_items? ho, haveText_iff]
    intro b hb
    obtain ⟨i, hlt, rfl⟩ := List.mem_iff_getElem.1 hb
    have ha : items[i]? = some _ := List.getElem?_eq_getElem (hl ▸ hlt)
    exact ih i _ _ ha (List.getElem?_eq_getElem hlt) (hv _ (List.mem_of_getElem? ha))
  | object _ hperm _ ih =>
    rw [object_hasText_iff] at hv ⊢
    rintro ⟨name, b⟩ hb
    obtain ⟨a, ha⟩ := exists_field_of_perm hperm.symm hb
    exact ih name a b ha hb (hv _ ha)
  | _ => exact hv

/-- Of rearranged data, both have a text or neither. -/
theorem Rearranged.hasText_eq {v w : Value} (h : Rearranged v w) : v.hasText = w.hasText :=
  Bool.eq_iff_iff.2 ⟨h.hasText_of, h.symm.hasText_of⟩

/-! ## Lines in order -/

/-- Order of lines by the name in front. -/
def precedes (line other : String × String) : Bool := decide (line.1 ≤ other.1)

/-- Lines of distinct names have one order. -/
theorem mergeSort_eq_of_perm {lines others : List (String × String)} (hn : (lines.map (·.1)).Nodup)
    (h : lines.Perm others) : lines.mergeSort precedes = others.mergeSort precedes := by
  have hsorted (lines : List (String × String)) :
      (lines.mergeSort precedes).Pairwise fun line other => precedes line other = true := by
    refine List.pairwise_mergeSort (fun a b c hab hbc => ?_) (fun a b => ?_) lines
    · exact decide_eq_true (String.le_trans (of_decide_eq_true hab) (of_decide_eq_true hbc))
    · simpa [precedes] using String.le_total a.1 b.1
  have hperm : (lines.mergeSort precedes).Perm (others.mergeSort precedes) :=
    (List.mergeSort_perm _ _).trans (h.trans (List.mergeSort_perm _ _).symm)
  refine hperm.eq_of_pairwise (fun a b ha hb hab hba => ?_) (hsorted lines) (hsorted others)
  exact List.inj_on_of_nodup_map hn (List.mem_mergeSort.1 ha)
    (h.mem_iff.2 (List.mem_mergeSort.1 hb))
    (String.le_antisymm (of_decide_eq_true hab) (of_decide_eq_true hba))

theorem sortByKey_lines (lines : List (String × String)) :
    sortByKey (lines.map named) = some ((lines.mergeSort precedes).map named) := by
  have hstrings : ((lines.map named).map (·.1)).all isString = true := by
    simp [named, isString]
  have horder (a b : String × String) :
      precedes a b = !keyBelow (named b).1 (named a).1 := by
    simp [precedes, named, keyBelow, ← String.not_lt]
  have hsort := List.map_mergeSort (f := named) (s := fun a b => !keyBelow b.1 a.1) (l := lines)
    fun a _ b _ => horder a b
  unfold sortByKey
  rw [if_pos (.inr (.inl hstrings)), hsort]

/-! ## Canonical text -/

/-- The line of a field: the name and the JSON text of the value. -/
def fieldLine (layout : JsonLayout) (depth : Nat) (field : String × Value) : String × String :=
  (field.1, Text.jsonQuoted field.1 ++ ": " ++ (field.2.jsonAt layout depth).getD "")

theorem jsonEntries_object {layout : JsonLayout} {depth : Nat} : ∀ {fields : List (String × Value)},
    (∀ field ∈ fields, ∃ text, field.2.jsonAt layout depth = some text) →
    jsonEntries layout depth (fields.map named) =
      some ((fields.map (fieldLine layout depth)).map named)
  | [], _ => rfl
  | (name, v) :: fields, h => by
    obtain ⟨⟨text, htext⟩, hfields⟩ := List.forall_mem_cons.1 h
    simp only [List.map_cons, named, jsonEntries, jsonKey?, htext, jsonEntries_object hfields,
      fieldLine, Option.getD_some]
    rfl

/-- The canonical text of a mapping: its lines in the order of their names. -/
theorem jsonAt_object {depth : Nat}
    (h : ∀ field ∈ fields, ∃ text, field.2.jsonAt .canonical (depth + 1) = some text) :
    (object fields).jsonAt .canonical depth = some (JsonLayout.canonical.enclose depth
      "\x7b" "\x7d" (((fields.map (fieldLine .canonical (depth + 1))).mergeSort precedes).map
        (·.2))) := by
  have hsort : JsonLayout.canonical.sortKeys = true := rfl
  rw [object, jsonAt_map, jsonEntries_object h, Option.bind_some, if_pos hsort, sortByKey_lines,
    Option.map_some, List.map_map]
  rfl

theorem mem_fieldLines_of_perm {layout : JsonLayout} {depth : Nat}
    (hperm : (fields.map (·.1)).Perm (others.map (·.1)))
    (h : ∀ name a b, (name, a) ∈ fields → (name, b) ∈ others →
      a.jsonAt layout depth = b.jsonAt layout depth)
    {line : String × String} (hline : line ∈ fields.map (fieldLine layout depth)) :
    line ∈ others.map (fieldLine layout depth) := by
  obtain ⟨⟨name, a⟩, ha, rfl⟩ := List.mem_map.1 hline
  obtain ⟨b, hb⟩ := exists_field_of_perm hperm ha
  refine List.mem_map.2 ⟨(name, b), hb, ?_⟩
  rw [fieldLine, fieldLine, h name a b ha hb]

theorem fieldLine_names (layout : JsonLayout) (depth : Nat) (fields : List (String × Value)) :
    (fields.map (fieldLine layout depth)).map (·.1) = fields.map (·.1) := by
  rw [List.map_map]
  rfl

/-- Mappings with the same names, and with values that are written alike, have the same lines. -/
theorem fieldLine_perm {layout : JsonLayout} {depth : Nat} (hn : (fields.map (·.1)).Nodup)
    (hperm : (fields.map (·.1)).Perm (others.map (·.1)))
    (h : ∀ name a b, (name, a) ∈ fields → (name, b) ∈ others →
      a.jsonAt layout depth = b.jsonAt layout depth) :
    (fields.map (fieldLine layout depth)).Perm (others.map (fieldLine layout depth)) := by
  have hnodup {fields : List (String × Value)} (hn : (fields.map (·.1)).Nodup) :
      (fields.map (fieldLine layout depth)).Nodup :=
    List.Nodup.of_map _ ((fieldLine_names layout depth fields).symm ▸ hn)
  refine (List.perm_ext_iff_of_nodup (hnodup hn) (hnodup (hperm.nodup_iff.1 hn))).2 fun line => ?_
  exact ⟨mem_fieldLines_of_perm hperm h,
    mem_fieldLines_of_perm hperm.symm fun name b a hb ha => (h name a b ha hb).symm⟩

theorem jsonAt_sequence {layout : JsonLayout} {depth : Nat} {v : Value} {items : List Value}
    (hv : v.items? = some items) :
    v.jsonAt layout depth =
      (jsonItems layout (depth + 1) items).map (layout.enclose depth "[" "]") := by
  cases v with
  | list | tuple =>
    obtain rfl := Option.some.inj hv
    rfl
  | _ => cases hv

theorem exists_jsonItems_both {layout : JsonLayout} {depth : Nat} :
    ∀ {items others : List Value}, items.length = others.length →
      (∀ (i : Nat) (a b : Value), items[i]? = some a → others[i]? = some b →
        ∃ text, a.jsonAt layout depth = some text ∧ b.jsonAt layout depth = some text) →
      ∃ texts, jsonItems layout depth items = some texts ∧
        jsonItems layout depth others = some texts
  | [], [], _, _ => ⟨[], rfl, rfl⟩
  | a :: items, b :: others, hl, h => by
    obtain ⟨text, ha, hb⟩ := h 0 a b rfl rfl
    obtain ⟨texts, hitems, hothers⟩ :=
      exists_jsonItems_both (Nat.succ.inj hl) fun i a b ha hb => h (i + 1) a b ha hb
    exact ⟨text :: texts, by simp [jsonItems, ha, hitems], by simp [jsonItems, hb, hothers]⟩

/-- Rearranged data has canonical text, one text for both. -/
theorem Rearranged.jsonAt_canonical {v w : Value} (h : Rearranged v w) (depth : Nat) :
    ∃ text, v.jsonAt .canonical depth = some text ∧ w.jsonAt .canonical depth = some text := by
  induction h generalizing depth with
  | sequence hv hw hl _ ih =>
    obtain ⟨texts, hitems, hothers⟩ :=
      exists_jsonItems_both hl fun i a b ha hb => ih i a b ha hb (depth + 1)
    rw [jsonAt_sequence hv, jsonAt_sequence hw, hitems, hothers]
    exact ⟨_, rfl, rfl⟩
  | @object fields others hn hperm _ ih =>
    have hfields : ∀ field ∈ fields, ∃ text,
        field.2.jsonAt .canonical (depth + 1) = some text := by
      rintro ⟨name, a⟩ ha
      obtain ⟨b, hb⟩ := exists_field_of_perm hperm ha
      obtain ⟨text, htext, -⟩ := ih name a b ha hb (depth + 1)
      exact ⟨text, htext⟩
    have hothers : ∀ field ∈ others, ∃ text,
        field.2.jsonAt .canonical (depth + 1) = some text := by
      rintro ⟨name, b⟩ hb
      obtain ⟨a, ha⟩ := exists_field_of_perm hperm.symm hb
      obtain ⟨text, -, htext⟩ := ih name a b ha hb (depth + 1)
      exact ⟨text, htext⟩
    have hlines : (fields.map (fieldLine .canonical (depth + 1))).Perm
        (others.map (fieldLine .canonical (depth + 1))) :=
      fieldLine_perm hn hperm fun name a b ha hb => by
        obtain ⟨text, ha, hb⟩ := ih name a b ha hb (depth + 1)
        rw [ha, hb]
    have hnodup := (fieldLine_names .canonical (depth + 1) fields).symm ▸ hn
    rw [jsonAt_object hfields, jsonAt_object hothers, mergeSort_eq_of_perm hnodup hlines]
    exact ⟨_, rfl, rfl⟩
  | _ => exact ⟨_, rfl, rfl⟩

end

end Conform.Value
