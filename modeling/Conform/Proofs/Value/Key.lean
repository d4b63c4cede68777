import Conform.Proofs.Value.Lookup
import Mathlib.Data.List.Perm.Subperm

/-!
# Keys that coincide

`Value.same` decides which keys of mappings coincide, and goes down two values side by side to do
so. For a value that can be a key there is another way to say it: two keys coincide exactly if they
have one form (`same_iff_form`), where the form of a key is what is left of it when it is forgotten
how its numbers are written, a boolean being 0 or 1. NaN has no form, so it coincides with nothing.

That keys coincide is therefore symmetric (`same_comm`) and transitive (`same_congr`), and what is
found under a key is found under any that coincides with it (`lookup_congr`). Of two collections of
keys that are equally large, each covers the other if one does (`covers_symm`).
-/

namespace Conform.Value

/-- No key is the same as one before it. -/
def KeysDiffer (keys : List Value) : Prop :=
  keys.Pairwise fun earlier later => later.same earlier = false

theorem nodup_of_keysDiffer {names : List String} (h : KeysDiffer (names.map .str)) :
    names.Nodup := by
  refine (List.pairwise_map.1 h).imp fun {s t} hst heq => ?_
  rw [heq, same_str, beq_self_eq_true] at hst
  cases hst

/-! ## Forms -/

/-- What keys that coincide have in common. -/
inductive KeyForm where
  | null
  | number (place : Extended)
  | str (s : String)
  | bytes (data : List UInt8)
  | date (d : Date)
  | datetime (aware : Bool) (instant : Int × Nat)
  | tuple (forms : List KeyForm)

mutual

/-- The form of a key. NaN has none, and neither have values that cannot be keys. -/
def keyForm? : Value → Option KeyForm
  | .null => some .null
  | .bool b => (Value.bool b).extended?.map .number
  | .int n => (Value.int n).extended?.map .number
  | .float x => (Value.float x).extended?.map .number
  | .str s => some (.str s)
  | .bytes data => some (.bytes data)
  | .date d => some (.date d)
  | .datetime t => some (.datetime t.offset.isSome t.instant)
  | .tuple items => (keyForms? items).map .tuple
  | .list _ => none
  | .map _ => none
  | .set _ => none

def keyForms? : List Value → Option (List KeyForm)
  | [] => some []
  | v :: rest => (keyForm? v).bind fun form => (keyForms? rest).map (form :: ·)

end

theorem keyForm?_eq_number {v : Value} {place : Extended} :
    v.keyForm? = some (.number place) ↔ v.extended? = some place := by
  cases v with
  | bool | int | float => simp [keyForm?]
  | _ => simp [keyForm?, extended?]

theorem sameNumber_iff_extended {v w : Value} :
    v.sameNumber w = true ↔ ∃ place, v.extended? = some place ∧ w.extended? = some place := by
  unfold sameNumber
  cases v.extended? with
  | none => simp
  | some place =>
    cases w.extended? with
    | none => simp
    | some place' =>
      simp only [beq_iff_eq, Option.some.injEq, exists_eq_left']
      exact eq_comm

theorem sameNumber_iff_form {v w : Value} {place : Option Extended}
    (hv : v.keyForm? = place.map .number) (hp : v.extended? = place) :
    v.sameNumber w = true ↔ ∃ form, v.keyForm? = some form ∧ w.keyForm? = some form := by
  rw [sameNumber_iff_extended, hv, hp]
  constructor
  · rintro ⟨x, rfl, hw⟩
    exact ⟨.number x, rfl, keyForm?_eq_number.2 hw⟩
  · rintro ⟨form, hform, hw⟩
    obtain ⟨x, rfl, rfl⟩ := Option.map_eq_some_iff.1 hform
    exact ⟨x, rfl, keyForm?_eq_number.1 hw⟩

mutual

/-- Two values of which one can be a key are the same exactly if they have one form. -/
theorem same_iff_form (v w : Value) (h : v.isKey = true ∨ w.isKey = true) :
    v.same w = true ↔ ∃ form, v.keyForm? = some form ∧ w.keyForm? = some form := by
  cases v with
  | null => cases w <;> simp [same, isNull, keyForm?]
  | bool | int | float => exact sameNumber_iff_form rfl rfl
  | str s =>
    cases w with
    | str t =>
      simp only [same, keyForm?, beq_iff_eq, Option.some.injEq, exists_eq_left', KeyForm.str.injEq]
      exact eq_comm
    | _ => simp [same, keyForm?]
  | bytes a =>
    cases w with
    | bytes b =>
      simp only [same, keyForm?, beq_iff_eq, Option.some.injEq, exists_eq_left',
        KeyForm.bytes.injEq]
      exact eq_comm
    | _ => simp [same, keyForm?]
  | date d =>
    cases w with
    | date e =>
      simp only [same, keyForm?, beq_iff_eq, Option.some.injEq, exists_eq_left', KeyForm.date.injEq]
      exact eq_comm
    | _ => simp [same, keyForm?]
  | datetime t =>
    cases w with
    | datetime s =>
      simp only [same, keyForm?, DateTime.same, Bool.and_eq_true, beq_iff_eq, Option.some.injEq,
        exists_eq_left', KeyForm.datetime.injEq]
      exact and_congr eq_comm eq_comm
    | _ => simp [same, keyForm?]
  | tuple items =>
    cases w with
    | tuple others =>
      have hitems := sameItems_iff_forms items others (by simpa [isKey] using h)
      rw [same, hitems]
      simp only [keyForm?, Option.map_eq_some_iff]
      constructor
      · rintro ⟨forms, hv, hw⟩
        exact ⟨_, ⟨forms, hv, rfl⟩, forms, hw, rfl⟩
      · rintro ⟨_, ⟨forms, hv, rfl⟩, forms', hw, heq⟩
        obtain rfl := KeyForm.tuple.inj heq
        exact ⟨forms', hv, hw⟩
    | _ => simp [same, keyForm?]
  | list | map | set => cases w <;> simp_all [same, keyForm?, isKey]

theorem sameItems_iff_forms (items others : List Value)
    (h : areKeys items = true ∨ areKeys others = true) :
    sameItems items others = true ↔
      ∃ forms, keyForms? items = some forms ∧ keyForms? others = some forms := by
  cases items with
  | nil =>
    cases others with
    | nil => simp [sameItems, keyForms?]
    | cons w others => simp [sameItems, keyForms?, Option.bind_eq_some_iff]
  | cons v items =>
    cases others with
    | nil => simp [sameItems, keyForms?, Option.bind_eq_some_iff]
    | cons w others =>
      simp only [areKeys, Bool.and_eq_true] at h
      have hv := same_iff_form v w (h.imp And.left And.left)
      have hitems := sameItems_iff_forms items others (h.imp And.right And.right)
      rw [sameItems, Bool.and_eq_true, hv, hitems]
      simp only [keyForms?, Option.bind_eq_some_iff, Option.map_eq_some_iff]
      constructor
      · rintro ⟨⟨form, hv, hw⟩, forms, hitems, hothers⟩
        exact ⟨form :: forms, ⟨form, hv, forms, hitems, rfl⟩, form, hw, forms, hothers, rfl⟩
      · rintro ⟨_, ⟨form, hv, forms, hitems, rfl⟩, form', hw, forms', hothers, heq⟩
        obtain ⟨rfl, rfl⟩ := List.cons.inj heq
        exact ⟨⟨form', hv, hw⟩, forms', hitems, hothers⟩

end

mutual

/-- Only keys have a form. -/
theorem isKey_of_form (v : Value) {form : KeyForm} (h : v.keyForm? = some form) :
    v.isKey = true := by
  cases v with
  | tuple items =>
    obtain ⟨forms, hforms, -⟩ := Option.map_eq_some_iff.1 h
    exact areKeys_of_forms items hforms
  | list | map | set => cases h
  | _ => rfl

theorem areKeys_of_forms (items : List Value) {forms : List KeyForm}
    (h : keyForms? items = some forms) : areKeys items = true := by
  cases items with
  | nil => rfl
  | cons v items =>
    obtain ⟨form, hv, h⟩ := Option.bind_eq_some_iff.1 h
    obtain ⟨rest, hitems, -⟩ := Option.map_eq_some_iff.1 h
    rw [areKeys, isKey_of_form v hv, areKeys_of_forms items hitems, Bool.and_self]

end

/-! ## Coinciding -/

section
variable {v w : Value}

theorem same_comm (h : v.isKey = true ∨ w.isKey = true) : v.same w = w.same v := by
  rw [Bool.eq_iff_iff, same_iff_form v w h, same_iff_form w v h.symm]
  simp only [and_comm]

theorem isKey_of_same (h : v.same w = true) (hv : v.isKey = true) : w.isKey = true := by
  obtain ⟨form, -, hw⟩ := (same_iff_form v w (.inl hv)).1 h
  exact isKey_of_form w hw

/-- Keys that coincide coincide with the same values. -/
theorem same_congr (h : v.same w = true) (hv : v.isKey = true) (x : Value) :
    v.same x = w.same x := by
  have hw := isKey_of_same h hv
  obtain ⟨form, hfv, hfw⟩ := (same_iff_form v w (.inl hv)).1 h
  rw [Bool.eq_iff_iff, same_iff_form v x (.inl hv), same_iff_form w x (.inl hw), hfv, hfw]

end

/-! ## Keys of mappings -/

section
variable {key key' v : Value} {entries : List (Value × Value)} {keys others : List Value}

/-- What is found under a key is found under any that coincides with it. -/
theorem lookup_congr (h : key.same key' = true) (hk : key.isKey = true)
    (entries : List (Value × Value)) : lookup key entries = lookup key' entries := by
  unfold lookup
  simp only [same_congr h hk]

theorem isAmong_congr (h : key.same key' = true) (hk : key.isKey = true) (keys : List Value) :
    key.isAmong keys = key'.isAmong keys := by
  unfold isAmong
  simp only [same_congr h hk]

/-- What is found stands under a key that coincides with the one that is looked up. -/
theorem exists_same_of_lookup (h : lookup key entries = some v) :
    ∃ key', (key', v) ∈ entries ∧ key.same key' = true := by
  obtain ⟨⟨key', w⟩, hfound, rfl⟩ := Option.map_eq_some_iff.1 h
  exact ⟨key', List.mem_of_find?_eq_some hfound, by simpa using List.find?_some hfound⟩

/-- In a mapping whose keys differ, every entry is found. -/
theorem lookup_of_mem (hd : KeysDiffer (entries.map (·.1))) (hk : key.isKey = true)
    (hmem : (key', v) ∈ entries) (h : key.same key' = true) : lookup key entries = some v := by
  induction entries with
  | nil => cases hmem
  | cons entry entries ih =>
    obtain ⟨first, w⟩ := entry
    obtain ⟨hfirst, hrest⟩ := List.pairwise_cons.1 hd
    unfold lookup
    rw [List.find?_cons]
    rcases List.mem_cons.1 hmem with heq | hmem
    · obtain ⟨rfl, rfl⟩ := Prod.mk.inj heq
      rw [h, Option.map_some]
    · have hne : key'.same first = false := hfirst key' (List.mem_map_of_mem hmem)
      rw [← same_congr h hk] at hne
      rw [hne]
      exact ih hrest hmem

/-- Keys that coincide stand at the same place of a mapping. -/
theorem KeysDiffer.index_unique (hd : KeysDiffer keys) {i j : Nat} (hi : keys[i]? = some key)
    (hj : keys[j]? = some key') (hk : key.isKey = true) (h : key.same key' = true) : i = j := by
  obtain ⟨hil, rfl⟩ := List.getElem?_eq_some_iff.1 hi
  obtain ⟨hjl, rfl⟩ := List.getElem?_eq_some_iff.1 hj
  have hdiffer := List.pairwise_iff_getElem.1 hd
  rcases Nat.lt_trichotomy i j with hlt | heq | hlt
  · have hne := hdiffer i j hil hjl hlt
    rw [← same_comm (.inl hk), h] at hne
    cases hne
  · exact heq
  · have hne := hdiffer j i hjl hil hlt
    rw [h] at hne
    cases hne

/-- Every key coincides with one of the others. -/
def Covers (others keys : List Value) : Prop :=
  ∀ key ∈ keys, ∃ other ∈ others, key.same other = true

/-- Of two equally large collections of keys, the first of which differ, the first covers the
second if the second covers the first. -/
theorem covers_symm (hk : ∀ key ∈ keys, key.isKey = true) (hd : KeysDiffer keys)
    (hl : keys.length = others.length) (h : Covers others keys) : Covers keys others := by
  have hform : ∀ key ∈ keys, ∃ other ∈ others, ∃ form, key.keyForm? = some form ∧
      other.keyForm? = some form := by
    intro key hkey
    obtain ⟨other, hother, hsame⟩ := h key hkey
    exact ⟨other, hother, (same_iff_form key other (.inl (hk key hkey))).1 hsame⟩
  have hnodup : (keys.map keyForm?).Nodup := by
    refine List.pairwise_map.2 (hd.imp_of_mem fun {earlier later} he hlater hne heq => ?_)
    obtain ⟨-, -, form, hf, -⟩ := hform earlier he
    have hsame := (same_iff_form later earlier (.inl (hk later hlater))).2 ⟨form, heq ▸ hf, hf⟩
    rw [hne] at hsame
    cases hsame
  have hsubset : keys.map keyForm? ⊆ others.map keyForm? := by
    intro form hmem
    obtain ⟨key, hkey, rfl⟩ := List.mem_map.1 hmem
    obtain ⟨other, hother, form, hf, hf'⟩ := hform key hkey
    exact List.mem_map.2 ⟨other, hother, hf'.trans hf.symm⟩
  -- as many different forms as there are others, so no form is left out
  have hperm : (keys.map keyForm?).Perm (others.map keyForm?) :=
    (hnodup.subperm hsubset).perm_of_length_le (by simp [hl])
  intro other hother
  obtain ⟨key, hkey, heq⟩ := List.mem_map.1 (hperm.mem_iff.2 (List.mem_map_of_mem hother))
  obtain ⟨-, -, form, hf, -⟩ := hform key hkey
  have hsame : key.same other = true :=
    (same_iff_form key other (.inl (hk key hkey))).2 ⟨form, hf, heq ▸ hf⟩
  exact ⟨key, hkey, by rwa [← same_comm (.inl (hk key hkey))]⟩

end

end Conform.Value
