import Conform.Proofs.Value.Lookup
import Conform.Proofs.Value.Number
import Conform.Value.Json
import Mathlib.Data.List.Nodup
import Mathlib.Data.List.Perm.Subperm

/-!
# JSON data

`Value.IsJson`: the values that JSON can express. `Value.JsonEqual` is their equality as data, said
without an algorithm: numbers by what they stand for, so that `1` equals `1.0` and no boolean,
arrays item by item, objects key by key in any order. `Value.deepEqual` decides it
(`deepEqual_iff_jsonEqual`), and `Value.isBelow` decides the order of numbers (`isBelow_iff`). In a
layout that leaves the keys where they are, all of it has JSON text (`exists_json?`).
-/

namespace Conform.Value

/-! ## Numbers -/

/-- The number that an integer or a finite double stands for. -/
def number? : Value → Option Rat
  | .int n => some n
  | .float x => x.dyadic?.map Dyadic.toRat
  | _ => none

theorem extended?_of_number? {v : Value} {x : Rat} (h : v.number? = some x) :
    ∃ d : Dyadic, v.extended? = some (.finite d) ∧ d.toRat = x := by
  cases v with
  | int n => exact ⟨.ofInt n, rfl, Option.some.inj h ▸ Dyadic.toRat_intCast n⟩
  | float y =>
    cases y with
    | negativeZero => exact ⟨0, rfl, Option.some.inj h⟩
    | finite d => exact ⟨d, rfl, Option.some.inj h⟩
    | _ => cases h
  | _ => cases h

theorem isBelow_iff {v w : Value} {x y : Rat} (hv : v.number? = some x) (hw : w.number? = some y) :
    v.isBelow w = true ↔ x < y := by
  obtain ⟨c, hc, rfl⟩ := extended?_of_number? hv
  obtain ⟨d, hd, rfl⟩ := extended?_of_number? hw
  simp only [isBelow, hc, hd, Extended.lt, decide_eq_true_eq, Dyadic.toRat_lt_toRat_iff]

theorem sameNumber_iff {v w : Value} {x y : Rat} (hv : v.number? = some x)
    (hw : w.number? = some y) : v.sameNumber w = true ↔ x = y := by
  obtain ⟨c, hc, rfl⟩ := extended?_of_number? hv
  obtain ⟨d, hd, rfl⟩ := extended?_of_number? hw
  simp [sameNumber, hc, hd, Dyadic.toRat_inj]

/-- The doubles without a fractional part are those that stand for an integer. -/
theorem finite_toInt?_eq_some_iff {d : Dyadic} {n : Int} :
    (Binary64.finite d).toInt? = some n ↔ d.toRat = n := by
  cases d with
  | zero =>
    have hzero : (Binary64.finite .zero).toInt? = some 0 := rfl
    have hrat : Dyadic.zero.toRat = ((0 : Int) : Rat) := rfl
    rw [hzero, hrat, Option.some.injEq, Rat.intCast_inj]
  | ofOdd m k hodd =>
    have hint : (Binary64.finite (.ofOdd m k hodd)).toInt? =
      if k ≤ 0 then some (m * pow2 (-k).toNat) else none := rfl
    rw [hint, Dyadic.toRat_ofOdd_eq_mkRat, ← Rat.mkRat_one n,
      Rat.mkRat_eq_iff (by simp [Nat.shiftLeft_eq]) Nat.one_ne_zero]
    simp only [Int.shiftLeft_eq, Nat.shiftLeft_eq, Int.natCast_one, Int.mul_one, Nat.one_mul]
    by_cases hk : k ≤ 0
    · simp [hk, pow2, Int.toNat_of_nonpos hk]
    · -- an odd number is no multiple of a power of two
      obtain ⟨j, hj⟩ : ∃ j, k.toNat = j + 1 := ⟨k.toNat - 1, by omega⟩
      have hneg : (-k).toNat = 0 := by omega
      simp only [hk, hneg, hj, if_false, reduceCtorEq, false_iff, Nat.pow_succ]
      push_cast
      rw [← Int.mul_assoc]
      omega

theorem toInt?_eq_some_iff {x : Binary64} {n : Int} :
    x.toInt? = some n ↔ (Value.float x).number? = some (n : Rat) := by
  cases x with
  | finite d =>
    rw [finite_toInt?_eq_some_iff]
    simp [number?, Binary64.dyadic?]
  | negativeZero =>
    have hzero : Binary64.negativeZero.toInt? = (Binary64.finite 0).toInt? := rfl
    rw [hzero, finite_toInt?_eq_some_iff]
    simp [number?, Binary64.dyadic?]
  | _ => simp [Binary64.toInt?, number?, Binary64.dyadic?]

/-! ## Data -/

/-- What JSON can express: no data but text, finite numbers, arrays that are lists, and objects
whose keys are strings that differ from each other. -/
inductive IsJson : Value → Prop
  | null : IsJson .null
  | bool (b : Bool) : IsJson (.bool b)
  | int (n : Int) : IsJson (.int n)
  | float {x : Binary64} : x.isFinite = true → IsJson (.float x)
  | str (s : String) : IsJson (.str s)
  | list {items : List Value} : (∀ v ∈ items, IsJson v) → IsJson (.list items)
  | map {names : List String} {entries : List (Value × Value)} :
      entries.map (·.1) = names.map .str → names.Nodup → (∀ entry ∈ entries, IsJson entry.2) →
      IsJson (.map entries)

/-- JSON data without doubles. -/
inductive IsExact : Value → Prop
  | null : IsExact .null
  | bool (b : Bool) : IsExact (.bool b)
  | int (n : Int) : IsExact (.int n)
  | str (s : String) : IsExact (.str s)
  | list {items : List Value} : (∀ v ∈ items, IsExact v) → IsExact (.list items)
  | map {names : List String} {entries : List (Value × Value)} :
      entries.map (·.1) = names.map .str → names.Nodup → (∀ entry ∈ entries, IsExact entry.2) →
      IsExact (.map entries)

theorem IsExact.isJson {v : Value} (h : v.IsExact) : v.IsJson := by
  induction h with
  | null => exact .null
  | bool b => exact .bool b
  | int n => exact .int n
  | str s => exact .str s
  | list _ ih => exact .list ih
  | map hnames hnodup _ ih => exact .map hnames hnodup ih

/-- Equality of JSON data. -/
inductive JsonEqual : Value → Value → Prop
  | null : JsonEqual .null .null
  | bool (b : Bool) : JsonEqual (.bool b) (.bool b)
  | number {v w : Value} {x : Rat} : v.number? = some x → w.number? = some x → JsonEqual v w
  | str (s : String) : JsonEqual (.str s) (.str s)
  | list {items others : List Value} :
      items.length = others.length →
      (∀ (i : Nat) (v w : Value), items[i]? = some v → others[i]? = some w → JsonEqual v w) →
      JsonEqual (.list items) (.list others)
  | map {entries others : List (Value × Value)} :
      (∀ key, key ∈ entries.map (·.1) ↔ key ∈ others.map (·.1)) →
      (∀ key v w, (key, v) ∈ entries → (key, w) ∈ others → JsonEqual v w) →
      JsonEqual (.map entries) (.map others)

theorem number?_of_isFinite {x : Binary64} (h : x.isFinite = true) :
    ∃ q, (Value.float x).number? = some q := by
  obtain ⟨d, hd⟩ := Option.isSome_iff_exists.1 h
  exact ⟨d.toRat, by rw [number?, hd, Option.map_some]⟩

/-! ## Parts -/

theorem deepEqualItems_iff : ∀ {items others : List Value},
    deepEqualItems items others = true ↔ items.length = others.length ∧
      ∀ (i : Nat) (v w : Value), items[i]? = some v → others[i]? = some w → v.deepEqual w = true
  | [], [] => by simp [deepEqualItems]
  | [], _ :: _ => by simp [deepEqualItems]
  | _ :: _, [] => by simp [deepEqualItems]
  | a :: items, b :: others => by
    rw [deepEqualItems, Bool.and_eq_true, deepEqualItems_iff, List.length_cons, List.length_cons,
      Nat.add_right_cancel_iff]
    constructor
    · rintro ⟨hab, hl, h⟩
      refine ⟨hl, fun i v w hv hw => ?_⟩
      cases i with
      | zero =>
        obtain rfl := Option.some.inj hv
        obtain rfl := Option.some.inj hw
        exact hab
      | succ i => exact h i v w hv hw
    · rintro ⟨hl, h⟩
      exact ⟨h 0 a b rfl rfl, hl, fun i v w hv hw => h (i + 1) v w hv hw⟩

theorem deepEqualEntries_iff {others : List (Value × Value)} : ∀ {entries : List (Value × Value)},
    deepEqualEntries entries others = true ↔
      ∀ key v, (key, v) ∈ entries → ∃ w, lookup key others = some w ∧ v.deepEqual w = true
  | [] => by simp [deepEqualEntries]
  | (k, a) :: entries => by
    rw [deepEqualEntries, Bool.and_eq_true, deepEqualEntries_iff]
    constructor
    · rintro ⟨hk, h⟩ key v hv
      rcases List.mem_cons.1 hv with heq | hv
      · simp only [Prod.mk.injEq] at heq
        obtain ⟨rfl, rfl⟩ := heq
        cases hl : lookup key others with
        | none => simp [hl] at hk
        | some w => exact ⟨w, rfl, by simpa [hl] using hk⟩
      · exact h key v hv
    · intro h
      obtain ⟨w, hw, ha⟩ := h k a List.mem_cons_self
      exact ⟨by simp [hw, ha], fun key v hv => h key v (List.mem_cons_of_mem _ hv)⟩

/-- Mappings of equally many distinct keys have the same keys if those of one are keys of the
other. -/
theorem keys_perm_of_subset {entries others : List (Value × Value)} {names : List String}
    (hk : entries.map (·.1) = names.map .str) (hn : names.Nodup)
    (hl : entries.length = others.length)
    (hsub : ∀ key v, (key, v) ∈ entries → key ∈ others.map (·.1)) :
    (entries.map (·.1)).Perm (others.map (·.1)) := by
  have hnodup : (entries.map (·.1)).Nodup := by
    rw [hk]
    exact hn.map fun _ _ => str.inj
  have hsubset : entries.map (·.1) ⊆ others.map (·.1) := fun k hmem => by
    obtain ⟨⟨_, v⟩, hv, rfl⟩ := List.mem_map.1 hmem
    exact hsub _ v hv
  exact (hnodup.subperm hsubset).perm_of_length_le (by simp [hl])

/-! ## Equality decided -/

theorem deepEqual_map_iff {entries others : List (Value × Value)} {names names' : List String}
    (hk : entries.map (·.1) = names.map .str) (hn : names.Nodup)
    (hk' : others.map (·.1) = names'.map .str) (hn' : names'.Nodup)
    (ih : ∀ key v w, (key, v) ∈ entries → (key, w) ∈ others →
      (v.deepEqual w = true ↔ JsonEqual v w)) :
    (Value.map entries).deepEqual (.map others) = true ↔
      JsonEqual (.map entries) (.map others) := by
  have hlookup {key v} (hv : (key, v) ∈ entries) (w : Value) :
      lookup key others = some w ↔ (key, w) ∈ others := by
    obtain ⟨s, -, rfl⟩ := exists_name_of_mem hk hv
    exact lookup_str_iff_mem hk' hn'
  rw [deepEqual, Bool.and_eq_true, beq_iff_eq, deepEqualEntries_iff]
  constructor
  · rintro ⟨hl, h⟩
    have hperm := keys_perm_of_subset hk hn hl fun key v hv => by
      obtain ⟨w, hw, -⟩ := h key v hv
      exact List.mem_map_of_mem ((hlookup hv w).1 hw)
    refine .map (fun key => hperm.mem_iff) fun key v w hv hw => ?_
    obtain ⟨w', hw', heq⟩ := h key v hv
    obtain rfl := Option.some.inj (hw'.symm.trans ((hlookup hv w).2 hw))
    exact (ih key v _ hv hw).1 heq
  · intro h
    cases h with
    | number hv => cases hv
    | map hkeys h =>
      refine ⟨?_, fun key v hv => ?_⟩
      · have hperm := (List.perm_ext_iff_of_nodup (hn.map fun _ _ => str.inj)
          (hn'.map fun _ _ => str.inj)).2 (by rw [← hk, ← hk']; exact hkeys)
        have hlength := congrArg List.length hk
        have hlength' := congrArg List.length hk'
        rw [List.length_map] at hlength hlength'
        rw [hlength, hlength', hperm.length_eq]
      · obtain ⟨⟨_, w⟩, hw, rfl⟩ := List.mem_map.1 ((hkeys key).1 (List.mem_map_of_mem hv))
        exact ⟨w, (hlookup hv w).2 hw, (ih _ v w hv hw).2 (h _ v w hv hw)⟩

theorem deepEqual_list_iff {items others : List Value}
    (ih : ∀ v ∈ items, ∀ w ∈ others, v.deepEqual w = true ↔ JsonEqual v w) :
    (Value.list items).deepEqual (.list others) = true ↔
      JsonEqual (.list items) (.list others) := by
  have hparts (i : Nat) (v w : Value) (hv : items[i]? = some v) (hw : others[i]? = some w) :=
    ih v (List.mem_of_getElem? hv) w (List.mem_of_getElem? hw)
  rw [deepEqual, deepEqualItems_iff]
  constructor
  · rintro ⟨hl, h⟩
    exact .list hl fun i v w hv hw => (hparts i v w hv hw).1 (h i v w hv hw)
  · intro h
    cases h with
    | number hv => cases hv
    | list hl h => exact ⟨hl, fun i v w hv hw => (hparts i v w hv hw).2 (h i v w hv hw)⟩

theorem jsonEqual_number_iff {v w : Value} {x : Rat} (hv : v.number? = some x) :
    JsonEqual v w ↔ w.number? = some x := by
  constructor
  · intro h
    cases h with
    | number hv' hw =>
      obtain rfl := Option.some.inj (hv.symm.trans hv')
      exact hw
    | _ => cases hv
  · exact .number hv

theorem deepEqual_number_iff {v w : Value} {x : Rat} (hv : v.number? = some x) (hw : w.IsJson) :
    v.deepEqual w = true ↔ w.number? = some x := by
  have hsame : v.deepEqual w = true ↔ w.number?.isSome = true ∧ v.sameNumber w = true := by
    cases hw with
    | float hfinite =>
      obtain ⟨y, hy⟩ := number?_of_isFinite hfinite
      cases v with
      | int | float => simp [deepEqual, hy]
      | _ => cases hv
    | _ =>
      cases v with
      | int | float => simp [deepEqual, number?]
      | _ => cases hv
  rw [hsame]
  cases hy : w.number? with
  | none => simp
  | some y => simp [sameNumber_iff hv hy, eq_comm]

/-- On JSON data, deep equality is equality as JSON. -/
theorem deepEqual_iff_jsonEqual {v w : Value} (hv : v.IsJson) (hw : w.IsJson) :
    v.deepEqual w = true ↔ JsonEqual v w := by
  induction hv generalizing w with
  | null =>
    constructor
    · intro h
      obtain rfl := isNull_iff.1 h
      exact .null
    · intro h
      cases h with
      | null => rfl
      | number h => cases h
  | bool b =>
    constructor
    · intro h
      cases hw with
      | bool c =>
        obtain rfl := beq_iff_eq.1 h
        exact .bool b
      | _ => cases h
    · intro h
      cases h with
      | bool => exact beq_self_eq_true b
      | number h => cases h
  | str s =>
    constructor
    · intro h
      cases hw with
      | str t =>
        obtain rfl := beq_iff_eq.1 h
        exact .str s
      | _ => cases h
    · intro h
      cases h with
      | str => exact beq_self_eq_true s
      | number h => cases h
  | int n => rw [deepEqual_number_iff rfl hw, jsonEqual_number_iff rfl]
  | float hfinite =>
    obtain ⟨x, hx⟩ := number?_of_isFinite hfinite
    rw [deepEqual_number_iff hx hw, jsonEqual_number_iff hx]
  | list _ ih =>
    cases hw with
    | list hothers => exact deepEqual_list_iff fun v hv w hw => ih v hv (hothers w hw)
    | _ => exact iff_of_false nofun fun h => by cases h with | number h => cases h
  | map hk hn _ ih =>
    cases hw with
    | map hk' hn' hothers =>
      exact deepEqual_map_iff hk hn hk' hn' fun key v w hv hw => ih (key, v) hv (hothers _ hw)
    | _ => exact iff_of_false nofun fun h => by cases h with | number h => cases h

/-! ## Text -/

/-- The entries of a mapping in the order of the layout, if they have one, are what is enclosed. -/
theorem jsonAt_map (layout : JsonLayout) (depth : Nat) (entries : List (Value × Value)) :
    (Value.map entries).jsonAt layout depth =
      (jsonEntries layout (depth + 1) entries).bind fun written =>
        (if layout.sortKeys then sortByKey written else some written).map fun ordered =>
          layout.enclose depth "\x7b" "\x7d" (ordered.map (·.2)) := by
  unfold jsonAt
  cases jsonEntries layout (depth + 1) entries with
  | none => rfl
  | some written =>
    cases layout.sortKeys with
    | false => rfl
    | true =>
      show (sortByKey written).bind _ = (sortByKey written).map _
      cases sortByKey written <;> rfl

theorem exists_jsonItems {layout : JsonLayout} {depth : Nat} : ∀ {items : List Value},
    (∀ v ∈ items, ∃ text, v.jsonAt layout depth = some text) →
      ∃ texts, jsonItems layout depth items = some texts
  | [], _ => ⟨[], rfl⟩
  | v :: items, h => by
    obtain ⟨hv, hitems⟩ := List.forall_mem_cons.1 h
    obtain ⟨text, htext⟩ := hv
    obtain ⟨texts, htexts⟩ := exists_jsonItems hitems
    exact ⟨text :: texts, by simp [jsonItems, htext, htexts]⟩

theorem exists_jsonEntries {layout : JsonLayout} {depth : Nat} :
    ∀ {entries : List (Value × Value)} {names : List String},
      entries.map (·.1) = names.map .str →
      (∀ entry ∈ entries, ∃ text, entry.2.jsonAt layout depth = some text) →
        ∃ written, jsonEntries layout depth entries = some written
  | [], _, _, _ => ⟨[], rfl⟩
  | (key, v) :: entries, names, hkeys, h => by
    obtain ⟨name, rest, rfl, rfl, hrest⟩ := List.map_eq_cons_iff.1 hkeys.symm
    obtain ⟨hv, hentries⟩ := List.forall_mem_cons.1 h
    obtain ⟨text, htext⟩ := hv
    obtain ⟨written, hwritten⟩ := exists_jsonEntries hrest.symm hentries
    exact ⟨_, by simp only [jsonEntries, jsonKey?, htext, hwritten]; rfl⟩

theorem exists_jsonAt {layout : JsonLayout} (hkeys : layout.sortKeys = false) {v : Value}
    (hv : v.IsJson) (depth : Nat) : ∃ text, v.jsonAt layout depth = some text := by
  induction hv generalizing depth with
  | list _ ih =>
    obtain ⟨texts, htexts⟩ := exists_jsonItems fun v hv => ih v hv (depth + 1)
    exact ⟨_, by simp only [jsonAt, htexts]; rfl⟩
  | map hnames _ _ ih =>
    obtain ⟨written, hwritten⟩ := exists_jsonEntries hnames fun entry h => ih entry h (depth + 1)
    exact ⟨_, by simp only [jsonAt, hwritten, hkeys]; rfl⟩
  | _ => exact ⟨_, rfl⟩

/-- JSON data has JSON text, unless the keys are to be sorted. -/
theorem exists_json? {layout : JsonLayout} (hkeys : layout.sortKeys = false) {v : Value}
    (hv : v.IsJson) : ∃ text, v.json? layout = some text :=
  exists_jsonAt hkeys hv 0

end Conform.Value
