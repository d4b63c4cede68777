import Conform.DataFile
import Conform.Proofs.Outcome
import Mathlib.Data.List.Induction
import Mathlib.Data.List.Nodup

/-!
# Positions in a file

The source map of a tree has a line and a column for every pointer in it, and it has the empty
pointer, that of the root (`Yaml.rooted_sourceMap`). The pointer of any path comes down from the
empty one, so in such a map every path has a closest ancestor with a line and a column
(`SourceMap.closest_of_rooted`), whether or not the path leads to something.
-/

namespace Conform

/-- The line and the column are both known. -/
def Position.Complete (position : Position) : Prop :=
  ∃ line column, position = ⟨some line, some column⟩

namespace SourceMap

/-- The root is in the map, and all that is in it has a line and a column. -/
structure Rooted (map : SourceMap) : Prop where
  root : "" ∈ map.map (·.1)
  complete : ∀ entry ∈ map, entry.2.Complete

/-! ## Records -/

theorem mem_put {pointer : String} {position : Position} {map : SourceMap}
    {entry : String × Position} (h : entry ∈ put pointer position map) :
    entry ∈ map ∨ entry = (pointer, position) := by
  induction map with
  | nil => exact .inr (List.mem_singleton.1 h)
  | cons first rest ih =>
    obtain ⟨other, old⟩ := first
    rw [put] at h
    split at h
    · rename_i hother
      rcases List.mem_cons.1 h with rfl | h
      · exact .inr (by rw [hother])
      · exact .inl (List.mem_cons_of_mem _ h)
    · rcases List.mem_cons.1 h with rfl | h
      · exact .inl List.mem_cons_self
      · exact (ih h).imp_left (List.mem_cons_of_mem _)

theorem mem_keys_put {pointer other : String} {position : Position} {map : SourceMap} :
    other ∈ (put pointer position map).map (·.1) ↔ other = pointer ∨ other ∈ map.map (·.1) := by
  induction map with
  | nil => simp [put]
  | cons first rest ih =>
    obtain ⟨known, old⟩ := first
    rw [put]
    split
    · rename_i hknown
      simp [hknown]
    · rw [List.map_cons, List.mem_cons, ih, List.map_cons, List.mem_cons]
      exact or_left_comm

theorem nodup_keys_put {pointer : String} {position : Position} {map : SourceMap}
    (h : (map.map (·.1)).Nodup) : ((put pointer position map).map (·.1)).Nodup := by
  induction map with
  | nil => exact List.nodup_singleton _
  | cons first rest ih =>
    obtain ⟨other, old⟩ := first
    rw [List.map_cons, List.nodup_cons] at h
    rw [put]
    split
    · exact List.nodup_cons.2 h
    · rename_i hother
      rw [List.map_cons, List.nodup_cons, mem_keys_put]
      exact ⟨fun hmem => hmem.elim hother h.1, ih h.2⟩

section
variable {records : List (String × Position)}

theorem ofRecords_concat (records : List (String × Position)) (record : String × Position) :
    ofRecords (records ++ [record]) = put record.1 record.2 (ofRecords records) := by
  rw [ofRecords, List.foldl_append]
  rfl

theorem mem_ofRecords {entry : String × Position} (h : entry ∈ ofRecords records) :
    entry ∈ records := by
  induction records using List.reverseRecOn with
  | nil => exact h
  | append_singleton records record ih =>
    rw [ofRecords_concat] at h
    exact List.mem_append.2 ((mem_put h).imp ih List.mem_singleton.2)

theorem mem_keys_ofRecords {pointer : String} :
    pointer ∈ (ofRecords records).map (·.1) ↔ pointer ∈ records.map (·.1) := by
  induction records using List.reverseRecOn with
  | nil => rfl
  | append_singleton records record ih =>
    rw [ofRecords_concat, mem_keys_put, ih, List.map_append, List.mem_append, or_comm]
    exact or_congr_right List.mem_singleton.symm

theorem nodup_keys_ofRecords : ((ofRecords records).map (·.1)).Nodup := by
  induction records using List.reverseRecOn with
  | nil => exact List.nodup_nil
  | append_singleton records record ih =>
    rw [ofRecords_concat]
    exact nodup_keys_put ih

theorem lookup_put {pointer other : String} {position : Position} {map : SourceMap} :
    (put pointer position map).lookup other =
      if other == pointer then some position else map.lookup other := by
  induction map with
  | nil => cases hother : other == pointer <;> simp [put, List.lookup_cons, hother]
  | cons first rest ih =>
    obtain ⟨known, old⟩ := first
    rw [put]
    split
    · rename_i hknown
      cases hother : other == pointer <;> simp [List.lookup_cons, hknown, hother]
    · rename_i hknown
      rw [List.lookup_cons, List.lookup_cons, ih]
      cases hother : other == known with
      | false => rfl
      | true =>
        obtain rfl := eq_of_beq hother
        rw [beq_false_of_ne hknown]
        rfl

/-- Of several records of a pointer the last one counts. -/
theorem lookup_ofRecords {pointer : String} :
    (ofRecords records).lookup pointer = records.reverse.lookup pointer := by
  induction records using List.reverseRecOn with
  | nil => rfl
  | append_singleton records record ih =>
    rw [ofRecords_concat, lookup_put, ih, List.reverse_concat, List.lookup_cons]
    cases pointer == record.1 <;> rfl

/-- Records with lines and columns, the root among them, make a rooted map. -/
theorem rooted_ofRecords (hroot : "" ∈ records.map (·.1))
    (hcomplete : ∀ record ∈ records, record.2.Complete) : (ofRecords records).Rooted where
  root := mem_keys_ofRecords.2 hroot
  complete entry hentry := hcomplete entry (mem_ofRecords hentry)

end

/-! ## Lookups -/

section
variable {map : SourceMap}

theorem mem_of_lookup {pointer : String} {position : Position}
    (hlookup : map.lookup pointer = some position) : (pointer, position) ∈ map := by
  obtain ⟨before, after, hmap, -⟩ := List.lookup_eq_some_iff.1 hlookup
  rw [hmap]
  exact List.mem_append_right before List.mem_cons_self

theorem exists_lookup_of_mem {pointer : String} (h : pointer ∈ map.map (·.1)) :
    ∃ position, map.lookup pointer = some position := by
  cases hlookup : map.lookup pointer with
  | none =>
    obtain ⟨entry, hentry, hpointer⟩ := List.mem_map.1 h
    simpa [hpointer] using List.lookup_eq_none_iff.1 hlookup entry hentry
  | some position => exact ⟨position, rfl⟩

theorem Rooted.complete_of_lookup (h : map.Rooted) {pointer : String} {position : Position}
    (hlookup : map.lookup pointer = some position) : position.Complete :=
  h.complete (pointer, position) (mem_of_lookup hlookup)

/-- What is found in a rooted map has a line and a column. -/
theorem Rooted.complete_of_position? (h : map.Rooted) {pointer : String} {position : Position}
    (hfound : map.position? pointer = some position) : position.Complete :=
  h.complete_of_lookup (Option.filter_eq_some_iff.1 hfound).1

theorem Rooted.exists_position?_root (h : map.Rooted) :
    ∃ position, map.position? "" = some position := by
  obtain ⟨position, hlookup⟩ := exists_lookup_of_mem h.root
  obtain ⟨line, column, rfl⟩ := h.complete_of_lookup hlookup
  exact ⟨⟨some line, some column⟩, by simp [position?, hlookup, Position.isKnown]⟩

/-- The text before the slash that a pointer begins with is empty. -/
theorem nil_mem_ancestors (backwards : List Char) : [] ∈ ancestors (backwards ++ ['/']) := by
  induction backwards with
  | nil => exact List.mem_cons_self
  | cons c rest ih =>
    rw [List.cons_append, ancestors]
    split
    · exact List.mem_cons_of_mem _ ih
    · exact ih

/-- In a rooted map every path has a line and a column. -/
theorem closest_of_rooted (h : map.Rooted) (path : Pointer.Path) :
    ∃ line column, map.closest (Pointer.join path) = some ⟨some line, some column⟩ := by
  have hroot : [] ∈ (Pointer.join path).toList.reverse ::
      ancestors (Pointer.join path).toList.reverse := by
    cases path with
    | nil => exact List.mem_cons_self
    | cons segment rest =>
      refine List.mem_cons_of_mem _ ?_
      simp only [Pointer.join, Pointer.joinTokens, List.map_cons, List.flatMap_cons,
        List.cons_append, String.toList_ofList, List.reverse_cons]
      exact nil_mem_ancestors _
  obtain ⟨root, hposition⟩ := h.exists_position?_root
  cases hclosest : map.closest (Pointer.join path) with
  | none =>
    have hnone := List.findSome?_eq_none_iff.1 hclosest [] hroot
    cases hposition.symm.trans hnone
  | some position =>
    obtain ⟨candidate, -, hfound⟩ := List.exists_of_findSome?_eq_some hclosest
    obtain ⟨line, column, rfl⟩ := h.complete_of_position? hfound
    exact ⟨line, column, rfl⟩

end

end SourceMap

namespace Yaml

/-! ## Trees -/

mutual

theorem complete_positions (node : Node) (pointer : String) :
    ∀ record ∈ node.positions pointer, record.2.Complete := by
  cases node with
  | scalar tag text mark => exact List.forall_mem_singleton.2 ⟨_, _, rfl⟩
  | sequence tag items mark =>
    exact List.forall_mem_cons.2 ⟨⟨_, _, rfl⟩, complete_itemPositions items pointer 0⟩
  | mapping tag entries mark =>
    exact List.forall_mem_cons.2 ⟨⟨_, _, rfl⟩, complete_entryPositions entries pointer⟩
termination_by structural node

theorem complete_itemPositions (items : List Node) (pointer : String) (index : Nat) :
    ∀ record ∈ itemPositions items pointer index, record.2.Complete := by
  cases items with
  | nil => exact nofun
  | cons item rest =>
    exact List.forall_mem_append.2
      ⟨complete_positions item _, complete_itemPositions rest pointer (index + 1)⟩
termination_by structural items

theorem complete_entryPositions (entries : List (Node × Node)) (pointer : String) :
    ∀ record ∈ entryPositions entries pointer, record.2.Complete := by
  match entries with
  | [] => exact nofun
  | (.scalar _ text _, value) :: rest =>
    exact List.forall_mem_append.2
      ⟨complete_positions value _, complete_entryPositions rest pointer⟩
  | (.sequence _ _ _, _) :: rest => exact complete_entryPositions rest pointer
  | (.mapping _ _ _, _) :: rest => exact complete_entryPositions rest pointer
termination_by structural entries

end

theorem rooted_sourceMap (root : Node) : root.sourceMap.Rooted := by
  refine SourceMap.rooted_ofRecords ?_ (complete_positions root "")
  cases root <;> exact List.mem_cons_self

end Yaml

end Conform
