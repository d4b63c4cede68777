import Conform.Pointer
import Conform.Proofs.Value.Lookup

/-!
# Parts of values

What stands in a value: `PartOf` goes down items and values of mappings, at any depth, but not into
the keys of mappings and the elements of sets, which are named by `KeyOf` and `ElementOf`. `At` says
where the part is.
-/

namespace Conform.Value

/-- The value itself, or what stands in it as an item or under a key. -/
inductive PartOf : Value → Value → Prop
  | here {v : Value} : PartOf v v
  | item {w v item : Value} {items : List Value} :
      v.items? = some items → item ∈ items → PartOf w item → PartOf w v
  | entry {w : Value} {entry : Value × Value} {entries : List (Value × Value)} :
      entry ∈ entries → PartOf w entry.2 → PartOf w (.map entries)

/-- A key of a mapping, at any depth. -/
def KeyOf (key v : Value) : Prop :=
  ∃ entries, (Value.map entries).PartOf v ∧ key ∈ entries.map (·.1)

/-- An element of a set, at any depth. -/
def ElementOf (element v : Value) : Prop :=
  ∃ elements, (Value.set elements).PartOf v ∧ element ∈ elements

/-- A part of a value, with the keys and indices that lead to it. -/
inductive At : Value → Pointer.Path → Value → Prop
  | root {v : Value} : At v [] v
  | item {v item part : Value} {items : List Value} {index : Nat} {path : Pointer.Path} :
      v.items? = some items → items[index]? = some item → At item path part →
      At v (.int index :: path) part
  | entry {key v part : Value} {entries : List (Value × Value)} {path : Pointer.Path} :
      (key, v) ∈ entries → At v path part → At (.map entries) (key :: path) part

theorem PartOf.of_lookup {w v key : Value} {entries : List (Value × Value)}
    (h : lookup key entries = some v) (hw : w.PartOf v) : w.PartOf (.map entries) := by
  obtain ⟨entry, hmem, rfl⟩ := exists_mem_of_lookup h
  exact .entry hmem hw

theorem PartOf.exists_at {v part : Value} (h : part.PartOf v) : ∃ path, v.At path part := by
  induction h with
  | here => exact ⟨[], .root⟩
  | item hitems hmem _ ih =>
    obtain ⟨path, hpath⟩ := ih
    obtain ⟨index, hindex⟩ := List.getElem?_of_mem hmem
    exact ⟨_, .item hitems hindex hpath⟩
  | entry hmem _ ih =>
    obtain ⟨path, hpath⟩ := ih
    exact ⟨_, .entry hmem hpath⟩

theorem partOf_str {w : Value} {s : String} (h : w.PartOf (.str s)) : w = .str s := by
  cases h with
  | here => rfl
  | item hitems => cases hitems

theorem partOf_list {w : Value} {items : List Value} (h : w.PartOf (.list items)) :
    w = .list items ∨ ∃ item ∈ items, w.PartOf item := by
  cases h with
  | here => exact .inl rfl
  | item hitems hmem hw =>
    obtain rfl := Option.some.inj hitems
    exact .inr ⟨_, hmem, hw⟩

end Conform.Value
