import Conform.Value.Equality
import Mathlib.Data.List.Induction

/-!
# Mappings under string keys

Two strings are the same key only if they are equal. So a value put under a string is found under it
and under no other string: of several assignments to a name the last one counts
(`lookup_ofAssignments`), and assignments to distinct names are a mapping as they stand
(`ofAssignments_eq`).
-/

namespace Conform.Value

@[simp] theorem same_str (s t : String) : (Value.str s).same (.str t) = (s == t) := by
  simp [same]

/-- The key that a string stands for is that string. -/
theorem same_str_iff {s : String} {v : Value} : v.same (.str s) = true ↔ v = .str s := by
  cases v <;> simp [same, sameNumber, extended?, isNull]

theorem str_same_iff {s : String} {v : Value} : (Value.str s).same v = true ↔ v = .str s := by
  cases v with
  | str t => rw [same_str, beq_iff_eq, str.injEq, eq_comm]
  | _ => simp [same]

theorem isAmong_str_iff {v : Value} {names : List String} :
    v.isAmong (names.map .str) = true ↔ ∃ s ∈ names, v = .str s := by
  simp [isAmong, same_str_iff]

/-- Values that are strings one by one are a list of strings. -/
theorem forall_str_iff {keys : List Value} :
    (∀ key ∈ keys, ∃ s, key = .str s) ↔ ∃ names : List String, keys = names.map .str := by
  induction keys with
  | nil => exact iff_of_true nofun ⟨[], rfl⟩
  | cons key keys ih =>
    rw [List.forall_mem_cons, ih]
    constructor
    · rintro ⟨⟨s, rfl⟩, names, rfl⟩
      exact ⟨s :: names, rfl⟩
    · rintro ⟨names, h⟩
      obtain ⟨s, names, rfl, rfl, rfl⟩ := List.map_eq_cons_iff.1 h.symm
      exact ⟨⟨s, rfl⟩, names, rfl⟩

theorem same_str_comm (s : String) (v : Value) : v.same (.str s) = (Value.str s).same v := by
  rw [Bool.eq_iff_iff, same_str_iff, str_same_iff]

theorem lookup_cons (s : String) (key v : Value) (entries : List (Value × Value)) :
    lookup (.str s) ((key, v) :: entries) =
      if (Value.str s).same key then some v else lookup (.str s) entries := by
  unfold lookup
  rw [List.find?_cons]
  cases (Value.str s).same key <;> simp

theorem lookup_str_cons (s t : String) (v : Value) (entries : List (Value × Value)) :
    lookup (.str s) ((.str t, v) :: entries) =
      if s = t then some v else lookup (.str s) entries := by
  rw [lookup_cons, same_str]
  by_cases h : s = t <;> simp [h]

theorem lookup_append (key : Value) (entries others : List (Value × Value)) :
    lookup key (entries ++ others) = (lookup key entries).or (lookup key others) := by
  unfold lookup
  rw [List.find?_append]
  cases entries.find? fun entry => same key entry.1 <;> simp

/-- What is found is the value of an entry. -/
theorem exists_mem_of_lookup {key v : Value} {entries : List (Value × Value)}
    (h : lookup key entries = some v) : ∃ entry ∈ entries, entry.2 = v := by
  obtain ⟨entry, hfound, rfl⟩ := Option.map_eq_some_iff.1 h
  exact ⟨entry, List.mem_of_find?_eq_some hfound, rfl⟩

theorem mem_of_lookup_str {s : String} {v : Value} {entries : List (Value × Value)}
    (h : lookup (.str s) entries = some v) : (.str s, v) ∈ entries := by
  obtain ⟨⟨key, w⟩, hfound, rfl⟩ := Option.map_eq_some_iff.1 h
  have hsame : (Value.str s).same key = true := by simpa using List.find?_some hfound
  rw [← str_same_iff.1 hsame]
  exact List.mem_of_find?_eq_some hfound

theorem lookup_str_isSome_iff {s : String} {entries : List (Value × Value)} :
    (lookup (.str s) entries).isSome = true ↔ .str s ∈ entries.map (·.1) := by
  simp only [lookup, Option.isSome_map, List.find?_isSome, str_same_iff, List.mem_map]

theorem lookup_isSome_of_mem {s : String} {names : List String} {entries : List (Value × Value)}
    (h : entries.map (·.1) = names.map .str) (hs : s ∈ names) :
    (lookup (.str s) entries).isSome = true := by
  rw [lookup_str_isSome_iff, h]
  exact List.mem_map_of_mem hs

theorem exists_name_of_mem {names : List String} {entries : List (Value × Value)} {key v : Value}
    (h : entries.map (·.1) = names.map .str) (hv : (key, v) ∈ entries) :
    ∃ s ∈ names, key = .str s := by
  have hmem : key ∈ entries.map (·.1) := List.mem_map_of_mem hv
  rw [h] at hmem
  obtain ⟨s, hs, rfl⟩ := List.mem_map.1 hmem
  exact ⟨s, hs, rfl⟩

/-- Under distinct string keys every entry is found. -/
theorem lookup_str_iff_mem {s : String} {v : Value} : ∀ {names : List String}
    {entries : List (Value × Value)}, entries.map (·.1) = names.map .str → names.Nodup →
      (lookup (.str s) entries = some v ↔ (.str s, v) ∈ entries)
  | _, [], _, _ => by simp [lookup]
  | [], _ :: _, h, _ => by cases h
  | name :: names, (_, w) :: entries, h, hn => by
    simp only [List.map_cons, List.cons.injEq] at h
    obtain ⟨rfl, h⟩ := h
    obtain ⟨hname, hnames⟩ := List.nodup_cons.1 hn
    have ih := lookup_str_iff_mem (s := s) (v := v) h hnames
    rw [lookup_str_cons, List.mem_cons, ← ih]
    by_cases hs : s = name
    · subst hs
      have hnone : lookup (.str s) entries ≠ some v := fun hl => by
        obtain ⟨_, ht, heq⟩ := exists_name_of_mem h (ih.1 hl)
        exact hname (str.inj heq ▸ ht)
      simp [hnone, eq_comm]
    · simp [hs]

/-- What is put under a key is found there, and nothing changes under other names. -/
theorem lookup_put (s : String) (key v : Value) (entries : List (Value × Value)) :
    lookup (.str s) (put key v entries) =
      if (Value.str s).same key then some v else lookup (.str s) entries := by
  induction entries with
  | nil => rw [put, lookup_cons]
  | cons entry entries ih =>
    obtain ⟨k, w⟩ := entry
    rw [put, lookup_cons]
    by_cases hkey : (Value.str s).same key = true
    · obtain rfl := str_same_iff.1 hkey
      cases hk : (Value.str s).same k <;> simp [lookup_cons, hk, ih]
    · cases hk : key.same k with
      | false => simp [lookup_cons, ih, hkey]
      | true =>
        -- a key that is the same as the name would be the name
        have hne : (Value.str s).same k = false := by
          rw [Bool.eq_false_iff, ne_eq, str_same_iff]
          rintro rfl
          exact hkey (by rwa [← same_str_comm])
        simp [lookup_cons, hkey, hne]

theorem ofAssignments_concat (pairs : List (Value × Value)) (pair : Value × Value) :
    ofAssignments (pairs ++ [pair]) = put pair.1 pair.2 (ofAssignments pairs) := by
  rw [ofAssignments, List.foldl_append]
  rfl

/-- Of several assignments to a name the last one counts. -/
theorem lookup_ofAssignments (s : String) (pairs : List (Value × Value)) :
    lookup (.str s) (ofAssignments pairs) = lookup (.str s) pairs.reverse := by
  induction pairs using List.reverseRecOn with
  | nil => rfl
  | append_singleton pairs pair ih =>
    rw [ofAssignments_concat, lookup_put, ih, List.reverse_concat, lookup_cons]

/-- What is put under a new name comes last. -/
theorem put_of_not_mem {s : String} {v : Value} : ∀ {names : List String}
    {entries : List (Value × Value)}, entries.map (·.1) = names.map .str → s ∉ names →
      put (.str s) v entries = entries ++ [(.str s, v)]
  | [], [], _, _ => rfl
  | [], _ :: _, h, _ => by cases h
  | _ :: _, [], h, _ => by cases h
  | name :: names, (_, w) :: entries, h, hs => by
    simp only [List.map_cons, List.cons.injEq] at h
    obtain ⟨rfl, h⟩ := h
    obtain ⟨hne, hs⟩ := not_or.1 (mt List.mem_cons.2 hs)
    rw [put, same_str, beq_false_of_ne hne, if_neg Bool.false_ne_true, put_of_not_mem h hs,
      List.cons_append]

theorem foldl_put {names : List String} : ∀ (seen : List String)
    {entries pairs : List (Value × Value)}, entries.map (·.1) = seen.map .str →
      pairs.map (·.1) = names.map .str → (seen ++ names).Nodup →
        pairs.foldl (fun entries pair => put pair.1 pair.2 entries) entries = entries ++ pairs := by
  induction names with
  | nil =>
    intro seen entries pairs _ hp _
    obtain rfl := List.map_eq_nil_iff.1 hp
    rw [List.foldl_nil, List.append_nil]
  | cons name names ih =>
    intro seen entries pairs he hp hn
    obtain ⟨⟨_, v⟩, rest, rfl, rfl, hrest⟩ := List.map_eq_cons_iff.1 hp
    have hs : name ∉ seen := fun hs =>
      (List.nodup_append.1 hn).2.2 name hs name List.mem_cons_self rfl
    have he' : (entries ++ [(str name, v)]).map (·.1) = (seen ++ [name]).map str := by
      rw [List.map_append, List.map_append, he, List.map_singleton, List.map_singleton]
    have hn' : (seen ++ [name] ++ names).Nodup := by
      rwa [List.append_assoc, List.singleton_append]
    rw [List.foldl_cons, put_of_not_mem he hs, ih (seen ++ [name]) he' hrest hn', List.append_assoc,
      List.singleton_append]

/-- Assignments to distinct names are kept as they are. -/
theorem ofAssignments_eq {names : List String} {pairs : List (Value × Value)}
    (h : pairs.map (·.1) = names.map .str) (hn : names.Nodup) : ofAssignments pairs = pairs :=
  foldl_put [] rfl h hn

end Conform.Value
