import Conform.Proofs.Value.Json
import Conform.Proofs.Value.Key
import Conform.Proofs.Value.Part

/-!
# Deep equality is a partial equivalence

`Value.deepEqual` goes down two values side by side, the entries of mappings on the left being
looked up on the right. It is symmetric and transitive all the same (`deepEqual_symm`,
`deepEqual_trans`), and a value equals itself unless there is a NaN in it (`deepEqual_self_iff`).

Values without parts are equal if they are the same and not a boolean and a number; sequences item
by item; for mappings and sets, that the two sides have the same keys is only tested in one
direction, which is enough as they are equally large and their own keys differ (`covers_symm`).
-/

namespace Conform.Value

/-! ## Values whose keys are in order -/

/-- Neither a sequence nor a mapping nor a set. -/
def isScalar : Value → Bool
  | .list _ => false
  | .tuple _ => false
  | .map _ => false
  | .set _ => false
  | _ => true

/-- The keys of mappings and the elements of sets, at any depth, can be keys and differ from each
other: so it is with every mapping and every set that has been put together. -/
inductive WellKeyed : Value → Prop
  | scalar {v : Value} : v.isScalar = true → WellKeyed v
  | sequence {v : Value} {items : List Value} :
      v.items? = some items → (∀ item ∈ items, WellKeyed item) → WellKeyed v
  | map {entries : List (Value × Value)} :
      (∀ key ∈ entries.map (·.1), key.isKey = true) → KeysDiffer (entries.map (·.1)) →
      (∀ entry ∈ entries, WellKeyed entry.2) → WellKeyed (.map entries)
  | set {elements : List Value} :
      (∀ element ∈ elements, element.isKey = true) → KeysDiffer elements →
      WellKeyed (.set elements)

theorem items?_of_isScalar {v : Value} (h : v.isScalar = true) : v.items? = none := by
  cases v with
  | list | tuple => cases h
  | _ => rfl

/-- A scalar has no parts but itself. -/
theorem PartOf.of_scalar {w v : Value} (h : w.PartOf v) (hs : v.isScalar = true) : w = v := by
  cases h with
  | here => rfl
  | item hitems => cases (items?_of_isScalar hs).symm.trans hitems
  | entry => cases hs

theorem PartOf.of_sequence {w v : Value} {items : List Value} (h : w.PartOf v)
    (hv : v.items? = some items) (hw : w.items? = none) : ∃ item ∈ items, w.PartOf item := by
  cases h with
  | here => cases hw.symm.trans hv
  | item hv' hmem hpart =>
    obtain rfl := Option.some.inj (hv.symm.trans hv')
    exact ⟨_, hmem, hpart⟩
  | entry => cases hv

theorem KeyOf.not_scalar {key v : Value} (h : key.KeyOf v) : v.isScalar = false := by
  obtain ⟨entries, hpart, -⟩ := h
  cases hs : v.isScalar with
  | false => rfl
  | true =>
    rw [← hpart.of_scalar hs] at hs
    cases hs

theorem keyOf_sequence_iff {key v : Value} {items : List Value} (hv : v.items? = some items) :
    key.KeyOf v ↔ ∃ item ∈ items, key.KeyOf item := by
  constructor
  · rintro ⟨entries, hpart, hkey⟩
    obtain ⟨item, hmem, hpart⟩ := hpart.of_sequence hv rfl
    exact ⟨item, hmem, entries, hpart, hkey⟩
  · rintro ⟨item, hmem, entries, hpart, hkey⟩
    exact ⟨entries, .item hv hmem hpart, hkey⟩

theorem keyOf_map_iff {key : Value} {entries : List (Value × Value)} :
    key.KeyOf (.map entries) ↔
      key ∈ entries.map (·.1) ∨ ∃ entry ∈ entries, key.KeyOf entry.2 := by
  constructor
  · rintro ⟨fields, hpart, hkey⟩
    cases hpart with
    | here => exact .inl hkey
    | item hitems => cases hitems
    | entry hmem hpart => exact .inr ⟨_, hmem, fields, hpart, hkey⟩
  · rintro (hkey | ⟨entry, hmem, fields, hpart, hkey⟩)
    · exact ⟨entries, .here, hkey⟩
    · exact ⟨fields, .entry hmem hpart, hkey⟩

theorem wellKeyed_map {entries : List (Value × Value)} (h : (Value.map entries).WellKeyed) :
    (∀ key ∈ entries.map (·.1), key.isKey = true) ∧ KeysDiffer (entries.map (·.1)) ∧
      ∀ entry ∈ entries, entry.2.WellKeyed := by
  cases h with
  | scalar h => cases h
  | sequence h => cases h
  | map hk hd hentries => exact ⟨hk, hd, hentries⟩

theorem WellKeyed.of_scalars {v : Value} {items : List Value} (hv : v.items? = some items)
    (h : ∀ item ∈ items, item.isScalar = true) : v.WellKeyed :=
  .sequence hv fun item hitem => .scalar (h item hitem)

theorem WellKeyed.of_item {v : Value} {items : List Value} (h : v.WellKeyed)
    (hv : v.items? = some items) : ∀ item ∈ items, item.WellKeyed := by
  cases h with
  | scalar hs => cases (items?_of_isScalar hs).symm.trans hv
  | sequence hv' hitems =>
    obtain rfl := Option.some.inj (hv.symm.trans hv')
    exact hitems
  | map => cases hv
  | set => cases hv

theorem WellKeyed.of_lookup {entries : List (Value × Value)} {key v : Value}
    (h : (Value.map entries).WellKeyed) (hv : lookup key entries = some v) : v.WellKeyed := by
  obtain ⟨entry, hmem, rfl⟩ := exists_mem_of_lookup hv
  exact (wellKeyed_map h).2.2 entry hmem

/-! ## Equality by the shape of the value -/

/-- A boolean and a number are told apart before the data are compared. -/
theorem deepEqual_scalar {v w : Value} (h : v.isScalar = true ∨ w.isScalar = true) :
    v.deepEqual w = (v.isBoolean == w.isBoolean && v.same w) := by
  cases v with
  | bool a =>
    cases w with
    | bool b => cases a <;> cases b <;> decide
    | _ => simp [deepEqual, isBoolean]
  | int | float => cases w <;> simp [deepEqual, same, isBoolean, sameNumber, extended?]
  | null => cases w <;> simp [deepEqual, same, isBoolean, isNull]
  | str | bytes | date | datetime => cases w <;> simp [deepEqual, same, isBoolean]
  | list | tuple | map | set => cases w <;> simp_all [deepEqual, same, isScalar]

theorem isScalar_of_deepEqual {v w : Value} (h : v.deepEqual w = true)
    (hv : v.isScalar = true) : w.isScalar = true := by
  cases w with
  | list | tuple | map | set =>
    cases v <;> simp_all [deepEqual, isScalar, isNull]
  | _ => rfl

theorem isKey_of_isScalar {v : Value} (h : v.isScalar = true) : v.isKey = true := by
  cases v <;> first | rfl | cases h

/-- A sequence equals the sequences with equal items, lists and tuples alike. -/
theorem deepEqual_sequence_iff {v w : Value} {items : List Value} (hv : v.items? = some items) :
    v.deepEqual w = true ↔ ∃ others, w.items? = some others ∧ items.length = others.length ∧
      ∀ (i : Nat) (a b : Value), items[i]? = some a → others[i]? = some b →
        a.deepEqual b = true := by
  simp only [← deepEqualItems_iff]
  cases v with
  | list | tuple =>
    obtain rfl := Option.some.inj hv
    cases w <;> simp [deepEqual, items?]
  | _ => cases hv

theorem deepEqual_map_left_iff {entries : List (Value × Value)} {w : Value} :
    (Value.map entries).deepEqual w = true ↔
      ∃ others, w = .map others ∧ entries.length = others.length ∧
        ∀ key a, (key, a) ∈ entries → ∃ b, lookup key others = some b ∧ a.deepEqual b = true := by
  simp only [← deepEqualEntries_iff]
  cases w <;> simp [deepEqual]

theorem sameElements_iff {others : List Value} : ∀ {elements : List Value},
    sameElements elements others = true ↔ Covers others elements
  | [] => by simp [sameElements, Covers]
  | v :: elements => by
    rw [sameElements, Bool.and_eq_true, sameElements_iff, List.any_eq_true, Covers, Covers,
      List.forall_mem_cons]

theorem deepEqual_set_iff {elements : List Value} {w : Value} :
    (Value.set elements).deepEqual w = true ↔
      ∃ others, w = .set others ∧ elements.length = others.length ∧ Covers others elements := by
  simp only [← sameElements_iff]
  cases w <;> simp [deepEqual]

/-! ## Symmetry -/

/-- The keys of a mapping are keys of those that equal it. -/
theorem covers_of_deepEqual {entries others : List (Value × Value)}
    (h : (Value.map entries).deepEqual (.map others) = true) :
    Covers (others.map (·.1)) (entries.map (·.1)) := by
  obtain ⟨_, ⟨⟩, -, h⟩ := deepEqual_map_left_iff.1 h
  intro key hkey
  obtain ⟨⟨_, a⟩, ha, rfl⟩ := List.mem_map.1 hkey
  obtain ⟨b, hb, -⟩ := h _ a ha
  obtain ⟨key', hmem, hsame⟩ := exists_same_of_lookup hb
  exact ⟨key', List.mem_map_of_mem hmem, hsame⟩

theorem deepEqual_map_symm {entries others : List (Value × Value)}
    (hentries : (Value.map entries).WellKeyed) (hothers : (Value.map others).WellKeyed)
    (ih : ∀ entry ∈ entries, ∀ b : Value, b.WellKeyed → entry.2.deepEqual b = true →
      b.deepEqual entry.2 = true)
    (h : (Value.map entries).deepEqual (.map others) = true) :
    (Value.map others).deepEqual (.map entries) = true := by
  obtain ⟨hk, hd, -⟩ := wellKeyed_map hentries
  obtain ⟨hk', hd', hwell⟩ := wellKeyed_map hothers
  have hcovers := covers_of_deepEqual h
  obtain ⟨_, ⟨⟩, hl, h⟩ := deepEqual_map_left_iff.1 h
  refine deepEqual_map_left_iff.2 ⟨entries, rfl, hl.symm, fun key b hb => ?_⟩
  have hkey : key ∈ others.map (·.1) := List.mem_map_of_mem hb
  obtain ⟨_, hmem, hsame⟩ := covers_symm hk hd (by simpa using hl) hcovers key hkey
  obtain ⟨⟨first, a⟩, ha, rfl⟩ := List.mem_map.1 hmem
  refine ⟨a, lookup_of_mem hd (hk' key hkey) ha hsame, ?_⟩
  -- the entry under `first` is the one that is found under `key`, and the other way round
  obtain ⟨b', hb', hab⟩ := h first a ha
  have hsame' : first.same key = true := by rwa [← same_comm (.inl (hk' key hkey))]
  obtain rfl : b' = b :=
    Option.some.inj (hb'.symm.trans (lookup_of_mem hd' (hk first hmem) hb hsame'))
  exact ih (first, a) ha b' (hwell _ hb) hab

theorem deepEqual_symm {v w : Value} (hv : v.WellKeyed) (hw : w.WellKeyed)
    (h : v.deepEqual w = true) : w.deepEqual v = true := by
  induction hv generalizing w with
  | scalar hs =>
    rw [deepEqual_scalar (.inl hs), same_comm (.inl (isKey_of_isScalar hs)), Bool.beq_comm] at h
    rw [deepEqual_scalar (.inr hs), h]
  | sequence hv _ ih =>
    obtain ⟨others, hothers, hl, h⟩ := (deepEqual_sequence_iff hv).1 h
    refine (deepEqual_sequence_iff hothers).2 ⟨_, hv, hl.symm, fun i b a hb ha => ?_⟩
    have hb' : b.WellKeyed := hw.of_item hothers b (List.mem_of_getElem? hb)
    exact ih a (List.mem_of_getElem? ha) hb' (h i a b ha hb)
  | map hk hd hentries ih =>
    obtain ⟨others, rfl, -⟩ := deepEqual_map_left_iff.1 h
    exact deepEqual_map_symm (.map hk hd hentries) hw
      (fun entry hentry b hb hab => ih entry hentry hb hab) h
  | set hk hd =>
    obtain ⟨others, rfl, hl, h⟩ := deepEqual_set_iff.1 h
    exact deepEqual_set_iff.2 ⟨_, rfl, hl.symm, covers_symm hk hd hl h⟩

theorem deepEqual_comm {v w : Value} (hv : v.WellKeyed) (hw : w.WellKeyed) :
    v.deepEqual w = w.deepEqual v := by
  rw [Bool.eq_iff_iff]
  exact ⟨deepEqual_symm hv hw, deepEqual_symm hw hv⟩

/-! ## Transitivity -/

/-- Here it does not matter how the keys of the other two values are. -/
theorem deepEqual_trans {u v w : Value} (hu : u.WellKeyed) (huv : u.deepEqual v = true)
    (hvw : v.deepEqual w = true) : u.deepEqual w = true := by
  induction hu generalizing v w with
  | scalar hs =>
    have hs' := isScalar_of_deepEqual huv hs
    rw [deepEqual_scalar (.inl hs), Bool.and_eq_true, beq_iff_eq] at huv
    rw [deepEqual_scalar (.inl hs'), Bool.and_eq_true, beq_iff_eq] at hvw
    rw [deepEqual_scalar (.inl hs), Bool.and_eq_true, beq_iff_eq, huv.1,
      same_congr huv.2 (isKey_of_isScalar hs)]
    exact hvw
  | sequence hitems _ ih =>
    obtain ⟨middle, hmiddle, hl, huv⟩ := (deepEqual_sequence_iff hitems).1 huv
    obtain ⟨others, hothers, hl', hvw⟩ := (deepEqual_sequence_iff hmiddle).1 hvw
    refine (deepEqual_sequence_iff hitems).2 ⟨others, hothers, hl.trans hl', fun i a c ha hc => ?_⟩
    have hi : i < middle.length := by
      have := (List.getElem?_eq_some_iff.1 hc).1
      omega
    have hb : middle[i]? = some middle[i] := List.getElem?_eq_getElem hi
    exact ih a (List.mem_of_getElem? ha) (huv i a _ ha hb) (hvw i _ c hb hc)
  | map hk _ _ ih =>
    obtain ⟨middle, rfl, hl, huv⟩ := deepEqual_map_left_iff.1 huv
    obtain ⟨others, rfl, hl', hvw⟩ := deepEqual_map_left_iff.1 hvw
    refine deepEqual_map_left_iff.2 ⟨others, rfl, hl.trans hl', fun key a ha => ?_⟩
    obtain ⟨b, hb, hab⟩ := huv key a ha
    obtain ⟨key', hmem, hsame⟩ := exists_same_of_lookup hb
    obtain ⟨c, hc, hbc⟩ := hvw key' b hmem
    rw [← lookup_congr hsame (hk key (List.mem_map_of_mem ha))] at hc
    exact ⟨c, hc, ih (key, a) ha hab hbc⟩
  | set hk _ =>
    obtain ⟨middle, rfl, hl, huv⟩ := deepEqual_set_iff.1 huv
    obtain ⟨others, rfl, hl', hvw⟩ := deepEqual_set_iff.1 hvw
    refine deepEqual_set_iff.2 ⟨others, rfl, hl.trans hl', fun a ha => ?_⟩
    obtain ⟨b, hb, hab⟩ := huv a ha
    obtain ⟨c, hc, hbc⟩ := hvw b hb
    exact ⟨c, hc, by rwa [same_congr hab (hk a ha)]⟩

/-! ## Reflexivity -/

mutual

/-- A key has a form unless there is a NaN in it. -/
theorem exists_form (v : Value) (hk : v.isKey = true) (hn : ¬ (Value.float .nan).PartOf v) :
    ∃ form, v.keyForm? = some form := by
  cases v with
  | float x =>
    cases x with
    | nan => exact absurd .here hn
    | infinity negative => cases negative <;> exact ⟨_, rfl⟩
    | _ => exact ⟨_, rfl⟩
  | tuple items =>
    obtain ⟨forms, hforms⟩ := exists_forms items hk fun item hitem hpart =>
      hn (.item rfl hitem hpart)
    exact ⟨_, Option.map_eq_some_iff.2 ⟨forms, hforms, rfl⟩⟩
  | list | map | set => cases hk
  | _ => exact ⟨_, rfl⟩

theorem exists_forms (items : List Value) (hk : areKeys items = true)
    (hn : ∀ item ∈ items, ¬ (Value.float .nan).PartOf item) :
    ∃ forms, keyForms? items = some forms := by
  cases items with
  | nil => exact ⟨[], rfl⟩
  | cons v items =>
    obtain ⟨hv, hitems⟩ := Bool.and_eq_true_iff.1 hk
    obtain ⟨hnv, hnitems⟩ := List.forall_mem_cons.1 hn
    obtain ⟨form, hform⟩ := exists_form v hv hnv
    obtain ⟨forms, hforms⟩ := exists_forms items hitems hnitems
    exact ⟨form :: forms, by rw [keyForms?, hform, hforms]; rfl⟩

end

theorem same_self {v : Value} (hk : v.isKey = true) (hn : ¬ (Value.float .nan).PartOf v) :
    v.same v = true := by
  obtain ⟨form, hform⟩ := exists_form v hk hn
  exact (same_iff_form v v (.inl hk)).2 ⟨form, hform, hform⟩

theorem deepEqual_scalar_self_iff {v : Value} (hs : v.isScalar = true) :
    v.deepEqual v = true ↔ ¬ (Value.float .nan).PartOf v := by
  rw [deepEqual_scalar (.inl hs), beq_self_eq_true, Bool.true_and]
  constructor
  · intro hsame hpart
    obtain rfl := hpart.of_scalar hs
    cases hsame
  · exact same_self (isKey_of_isScalar hs)

theorem deepEqual_sequence_self_iff {v : Value} {items : List Value} (hv : v.items? = some items) :
    v.deepEqual v = true ↔ ∀ item ∈ items, item.deepEqual item = true := by
  rw [deepEqual_sequence_iff hv]
  constructor
  · rintro ⟨_, hv', -, h⟩ item hmem
    obtain rfl := Option.some.inj (hv.symm.trans hv')
    obtain ⟨i, hi⟩ := List.getElem?_of_mem hmem
    exact h i item item hi hi
  · intro h
    refine ⟨items, hv, rfl, fun i a b ha hb => ?_⟩
    obtain rfl := Option.some.inj (ha.symm.trans hb)
    exact h a (List.mem_of_getElem? ha)

theorem deepEqual_map_self_iff {entries : List (Value × Value)}
    (hk : ∀ key ∈ entries.map (·.1), key.isKey = true) (hd : KeysDiffer (entries.map (·.1)))
    (hsame : ∀ key ∈ entries.map (·.1), key.same key = true) :
    (Value.map entries).deepEqual (.map entries) = true ↔
      ∀ entry ∈ entries, entry.2.deepEqual entry.2 = true := by
  have hlookup : ∀ key a, (key, a) ∈ entries → lookup key entries = some a := by
    intro key a ha
    have hmem : key ∈ entries.map (·.1) := List.mem_map_of_mem ha
    exact lookup_of_mem hd (hk key hmem) ha (hsame key hmem)
  rw [deepEqual_map_left_iff]
  constructor
  · rintro ⟨_, ⟨⟩, -, h⟩ ⟨key, a⟩ ha
    obtain ⟨b, hb, heq⟩ := h key a ha
    obtain rfl := Option.some.inj ((hlookup key a ha).symm.trans hb)
    exact heq
  · intro h
    exact ⟨entries, rfl, rfl, fun key a ha => ⟨a, hlookup key a ha, h (key, a) ha⟩⟩

theorem nan_partOf_sequence_iff {v : Value} {items : List Value} (hv : v.items? = some items) :
    (Value.float .nan).PartOf v ↔ ∃ item ∈ items, (Value.float .nan).PartOf item := by
  constructor
  · intro h
    exact h.of_sequence hv rfl
  · rintro ⟨item, hmem, hpart⟩
    exact .item hv hmem hpart

theorem nan_partOf_map_iff {entries : List (Value × Value)} :
    (Value.float .nan).PartOf (.map entries) ↔
      ∃ entry ∈ entries, (Value.float .nan).PartOf entry.2 := by
  constructor
  · intro h
    cases h with
    | item hitems => cases hitems
    | entry hmem hpart => exact ⟨_, hmem, hpart⟩
  · rintro ⟨entry, hmem, hpart⟩
    exact .entry hmem hpart

/-- No NaN is used as a key or as an element of a set, or stands in one. -/
def NanFreeKeys (v : Value) : Prop :=
  ∀ key, key.KeyOf v ∨ key.ElementOf v → ¬ (Value.float .nan).PartOf key

theorem NanFreeKeys.of_part {v w : Value} (h : v.NanFreeKeys)
    (hw : ∀ part : Value, part.PartOf w → part.PartOf v) : w.NanFreeKeys := by
  rintro key (⟨entries, hentries, hkey⟩ | ⟨elements, helements, hkey⟩)
  · exact h key (.inl ⟨entries, hw _ hentries, hkey⟩)
  · exact h key (.inr ⟨elements, hw _ helements, hkey⟩)

theorem nanFreeKeys_scalar {v : Value} (hs : v.isScalar = true) : v.NanFreeKeys := by
  rintro key (hkey | ⟨elements, hpart, -⟩)
  · rw [hkey.not_scalar] at hs
    cases hs
  · rw [← hpart.of_scalar hs] at hs
    cases hs

theorem nanFreeKeys_sequence {v : Value} {items : List Value} (hv : v.items? = some items)
    (h : ∀ item ∈ items, item.NanFreeKeys) : v.NanFreeKeys := by
  rintro key (hkey | ⟨elements, hpart, hkey⟩)
  · obtain ⟨item, hmem, hkey⟩ := (keyOf_sequence_iff hv).1 hkey
    exact h item hmem key (.inl hkey)
  · obtain ⟨item, hmem, hpart⟩ := hpart.of_sequence hv rfl
    exact h item hmem key (.inr ⟨elements, hpart, hkey⟩)

theorem nanFreeKeys_scalars {v : Value} {items : List Value} (hv : v.items? = some items)
    (h : ∀ item ∈ items, item.isScalar = true) : v.NanFreeKeys :=
  nanFreeKeys_sequence hv fun item hitem => nanFreeKeys_scalar (h item hitem)

theorem nanFreeKeys_map {entries : List (Value × Value)}
    (hk : ∀ key ∈ entries.map (·.1), ¬ (Value.float .nan).PartOf key)
    (h : ∀ entry ∈ entries, entry.2.NanFreeKeys) : (Value.map entries).NanFreeKeys := by
  rintro key (hkey | ⟨elements, hpart, hkey⟩)
  · rcases keyOf_map_iff.1 hkey with hkey | ⟨entry, hmem, hkey⟩
    · exact hk key hkey
    · exact h entry hmem key (.inl hkey)
  · cases hpart with
    | item hitems => cases hitems
    | entry hmem hpart => exact h _ hmem key (.inr ⟨elements, hpart, hkey⟩)

/-- A value without a NaN in its keys equals itself if and only if there is none elsewhere in it. -/
theorem deepEqual_self_iff {v : Value} (hv : v.WellKeyed) (hn : v.NanFreeKeys) :
    v.deepEqual v = true ↔ ¬ (Value.float .nan).PartOf v := by
  induction hv with
  | scalar hs => exact deepEqual_scalar_self_iff hs
  | sequence hitems _ ih =>
    rw [deepEqual_sequence_self_iff hitems, nan_partOf_sequence_iff hitems]
    simp only [not_exists, not_and]
    exact forall₂_congr fun item hmem => ih item hmem (hn.of_part fun _ => .item hitems hmem)
  | @map entries hk hd _ ih =>
    have hsame : ∀ key ∈ entries.map (·.1), key.same key = true := fun key hkey =>
      same_self (hk key hkey) (hn key (.inl ⟨entries, .here, hkey⟩))
    rw [deepEqual_map_self_iff hk hd hsame, nan_partOf_map_iff]
    simp only [not_exists, not_and]
    exact forall₂_congr fun entry hmem => ih entry hmem (hn.of_part fun _ => .entry hmem)
  | @set elements hk hd =>
    have hself : Covers elements elements := fun a ha =>
      ⟨a, ha, same_self (hk a ha) (hn a (.inr ⟨elements, .here, ha⟩))⟩
    refine iff_of_true (deepEqual_set_iff.2 ⟨elements, rfl, rfl, hself⟩) fun hpart => ?_
    cases hpart with
    | item hitems => cases hitems

/-- Deep equality is a partial equivalence: symmetric and transitive, and a value equals itself if
and only if no NaN stands in it. -/
theorem deepEqual_partialEquivalence {u v : Value} (hu : u.WellKeyed) (hv : v.WellKeyed)
    (w : Value) :
    u.deepEqual v = v.deepEqual u ∧
      (u.deepEqual v = true → v.deepEqual w = true → u.deepEqual w = true) ∧
      (u.NanFreeKeys → (u.deepEqual u = true ↔ ¬ (Value.float .nan).PartOf u)) :=
  ⟨deepEqual_comm hu hv, deepEqual_trans hu, deepEqual_self_iff hu⟩

/-! ## A schedule written in three ways -/

/-- Half past nine on a day, and a list under a key that is a pair. -/
def scheduleValue : Value :=
  .map [(.str "at", .datetime ⟨⟨2024, 5, 17⟩, 9, 30, 0, 0, some 0⟩),
    (.tuple [.int 1, .str "x"], .list [.int 2, .bool true, .null])]

/-- The same instant in another zone; keys in another order, and numbers as doubles. -/
def scheduleAbroad : Value :=
  .map [(.tuple [.float (.finite 1), .str "x"], .tuple [.float (.finite 2), .bool true, .null]),
    (.str "at", .datetime ⟨⟨2024, 5, 17⟩, 11, 30, 0, 0, some 120⟩)]

theorem wellKeyed_schedule : scheduleValue.WellKeyed := by
  have hlist : (Value.list [.int 2, .bool true, .null]).WellKeyed := .of_scalars rfl (by decide)
  refine .map (by decide) ?_ ?_
  · simp [KeysDiffer, same]
  · simp only [List.forall_mem_cons]
    exact ⟨.scalar rfl, hlist, List.forall_mem_nil _⟩

theorem wellKeyed_scheduleAbroad : scheduleAbroad.WellKeyed := by
  have htuple : (Value.tuple [.float (.finite 2), .bool true, .null]).WellKeyed :=
    .of_scalars rfl (by decide)
  refine .map (by decide) ?_ ?_
  · simp [KeysDiffer, same]
  · simp only [List.forall_mem_cons]
    exact ⟨htuple, .scalar rfl, List.forall_mem_nil _⟩

theorem nanFreeKeys_schedule : scheduleValue.NanFreeKeys := by
  have hlist : (Value.list [.int 2, .bool true, .null]).NanFreeKeys :=
    nanFreeKeys_scalars rfl (by decide)
  have hpair : ¬ (Value.float .nan).PartOf (.tuple [.int 1, .str "x"]) := by
    rw [nan_partOf_sequence_iff rfl]
    rintro ⟨item, hmem, hpart⟩
    simp only [List.mem_cons, List.not_mem_nil, or_false] at hmem
    rcases hmem with rfl | rfl <;> cases hpart.of_scalar rfl
  refine nanFreeKeys_map ?_ ?_
  · simp only [List.map_cons, List.map_nil, List.forall_mem_cons]
    exact ⟨fun hpart => (nomatch hpart.of_scalar rfl), hpair, List.forall_mem_nil _⟩
  · simp only [List.forall_mem_cons]
    exact ⟨nanFreeKeys_scalar rfl, hlist, List.forall_mem_nil _⟩

theorem deepEqual_partialEquivalence_schedule :
    scheduleValue.WellKeyed ∧ scheduleAbroad.WellKeyed ∧ scheduleValue.NanFreeKeys ∧
      scheduleValue.deepEqual scheduleAbroad = true ∧
      scheduleAbroad.deepEqual scheduleValue = true ∧
      scheduleValue.deepEqual scheduleValue = true ∧
      ¬ (Value.float .nan).PartOf scheduleValue := by
  obtain ⟨hcomm, htrans, hself⟩ := deepEqual_partialEquivalence wellKeyed_schedule
    wellKeyed_scheduleAbroad scheduleValue
  have habroad : scheduleValue.deepEqual scheduleAbroad = true := by decide +kernel
  have hback : scheduleAbroad.deepEqual scheduleValue = true := hcomm ▸ habroad
  have hsame : scheduleValue.deepEqual scheduleValue = true := htrans habroad hback
  exact ⟨wellKeyed_schedule, wellKeyed_scheduleAbroad, nanFreeKeys_schedule, habroad, hback, hsame,
    (hself nanFreeKeys_schedule).1 hsame⟩

end Conform.Value
