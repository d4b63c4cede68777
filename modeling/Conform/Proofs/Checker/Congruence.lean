import Conform.Proofs.Outcome
import Conform.Proofs.Value.Equivalence
import Conform.Schema.Build
import Conform.Validator

/-!
# Deep-equal values get the same answers

Nothing that a checker asks of a value tells deep-equal values apart. They are of the same kinds and
have one place among the numbers (`includes_congr`, `extended?_congr`), so they meet the same
refinements (`holds_congr`); literals are told by deep equality itself; sequences have equal items
and mappings equal values under every name (`Alike.items`, `Alike.lookup`). From there on the two
are gone down side by side: `accepts_congr` for verdicts, `collect_congr` for reports.

In a report the undeclared keys of an object come in the order in which the value has them, which is
all that may differ between the two (`Reordered`). The keys are written into the paths, so for
reports they have to be strings, which coincide only if they are equal (`Value.StringKeys`).
-/

namespace Conform

namespace Value

/-- Deep-equal values whose keys are in order. -/
structure Alike (v w : Value) : Prop where
  left : v.WellKeyed
  right : w.WellKeyed
  equal : v.deepEqual w = true

/-- All keys of mappings in the value are strings. -/
def StringKeys (v : Value) : Prop := ∀ key : Value, key.KeyOf v → ∃ s, key = .str s

theorem StringKeys.of_part {v w : Value} (h : v.StringKeys)
    (hw : ∀ part : Value, part.PartOf w → part.PartOf v) : w.StringKeys := by
  rintro key ⟨entries, hentries, hkey⟩
  exact h key ⟨entries, hw _ hentries, hkey⟩

theorem stringKeys_scalar {v : Value} (hs : v.isScalar = true) : v.StringKeys := by
  intro key hkey
  rw [hkey.not_scalar] at hs
  cases hs

theorem stringKeys_scalars {v : Value} {items : List Value} (hv : v.items? = some items)
    (h : ∀ item ∈ items, item.isScalar = true) : v.StringKeys := by
  intro key hkey
  obtain ⟨item, hmem, hkey⟩ := (keyOf_sequence_iff hv).1 hkey
  exact stringKeys_scalar (h item hmem) key hkey

theorem stringKeys_map {entries : List (Value × Value)} {names : List String}
    (hk : entries.map (·.1) = names.map .str) (h : ∀ entry ∈ entries, entry.2.StringKeys) :
    (Value.map entries).StringKeys := by
  intro key hkey
  rcases keyOf_map_iff.1 hkey with hkey | ⟨entry, hmem, hkey⟩
  · exact forall_str_iff.2 ⟨names, hk⟩ key hkey
  · exact h entry hmem key hkey

/-- Deep-equal values whose keys are strings. -/
structure TextAlike (v w : Value) : Prop extends Alike v w where
  leftKeys : v.StringKeys
  rightKeys : w.StringKeys

section
variable {v w : Value}

theorem Alike.symm (h : v.Alike w) : w.Alike v :=
  ⟨h.right, h.left, deepEqual_symm h.left h.right h.equal⟩

theorem Alike.deepEqual_congr (h : v.Alike w) (x : Value) : v.deepEqual x = w.deepEqual x := by
  rw [Bool.eq_iff_iff]
  exact ⟨deepEqual_trans h.right h.symm.equal, deepEqual_trans h.left h.equal⟩

/-! ## Kinds and bounds -/

theorem extended?_congr (h : v.deepEqual w = true) : v.extended? = w.extended? := by
  cases v with
  | bool a =>
    cases w with
    | bool b =>
      have hab : a = b := by simpa [deepEqual] using h
      rw [hab]
    | _ => simp [deepEqual] at h
  | int | float =>
    cases w with
    | int | float =>
      rw [deepEqual, sameNumber_iff_extended] at h
      obtain ⟨place, hv, hw⟩ := h
      rw [hv, hw]
    | _ => simp [deepEqual] at h
  | _ => cases w <;> simp_all [deepEqual, extended?, isNull]

theorem isBoolean_congr (h : v.deepEqual w = true) : v.isBoolean = w.isBoolean := by
  cases v <;> cases w <;> first | rfl | simp [deepEqual, isNull] at h

theorem isNumber_iff : v.isNumber = true ↔
    v.isBoolean = false ∧ ∃ d : Dyadic, v.extended? = some (.finite d) := by
  cases v with
  | float x =>
    cases x with
    | infinity negative =>
      cases negative <;> simp [isNumber, extended?, Binary64.isFinite, Binary64.dyadic?,
        Binary64.extended?]
    | _ => simp [isNumber, isBoolean, extended?, Binary64.isFinite, Binary64.dyadic?,
        Binary64.extended?]
  | _ => simp [isNumber, isBoolean, extended?, Extended.ofInt]

theorem includes_congr (h : v.deepEqual w = true) (kind : Kind) :
    kind.includes v = kind.includes w := by
  cases kind with
  | number =>
    have hnumber : v.isNumber = true ↔ w.isNumber = true := by
      rw [isNumber_iff, isNumber_iff, isBoolean_congr h, extended?_congr h]
    exact Bool.eq_iff_iff.2 hnumber
  | boolean => exact isBoolean_congr h
  | string | null =>
    cases v <;> cases w <;> first | rfl | simp [deepEqual, isNull] at h

theorem deepEqual_str_iff {s : String} : (Value.str s).deepEqual w = true ↔ w = .str s := by
  rw [deepEqual_scalar (.inl rfl), Bool.and_eq_true, str_same_iff]
  refine and_iff_right_of_imp ?_
  rintro rfl
  rfl

theorem isBelow_congr (h : v.deepEqual w = true) (bound : Value) :
    v.isBelow bound = w.isBelow bound ∧ bound.isBelow v = bound.isBelow w := by
  unfold isBelow
  rw [extended?_congr h]
  exact ⟨rfl, rfl⟩

/-! ## Parts -/

theorem Alike.items (h : v.Alike w) {items : List Value} (hv : v.items? = some items) :
    ∃ others, w.items? = some others ∧ List.Forall₂ Alike items others := by
  obtain ⟨others, hw, hl, hitems⟩ := (deepEqual_sequence_iff hv).1 h.equal
  refine ⟨others, hw, List.forall₂_iff_get.2 ⟨hl, fun i hi hi' => ?_⟩⟩
  have ha : items[i]? = some items[i] := List.getElem?_eq_getElem hi
  have hb : others[i]? = some others[i] := List.getElem?_eq_getElem hi'
  exact ⟨h.left.of_item hv _ (List.mem_of_getElem? ha),
    h.right.of_item hw _ (List.mem_of_getElem? hb), hitems i _ _ ha hb⟩

theorem Alike.items_none (h : v.Alike w) (hv : v.items? = none) : w.items? = none := by
  cases hw : w.items? with
  | none => rfl
  | some others =>
    obtain ⟨items, hv', -⟩ := h.symm.items hw
    cases hv.symm.trans hv'

theorem isObject_congr (h : v.deepEqual w = true) : v.isObject = w.isObject := by
  cases v <;> cases w <;> first | rfl | simp [deepEqual, isNull] at h

end

section
variable {entries others : List (Value × Value)} {name a : Value}

theorem Alike.lookup (h : (Value.map entries).Alike (.map others))
    (ha : Value.lookup name entries = some a) :
    ∃ b, Value.lookup name others = some b ∧ a.Alike b := by
  obtain ⟨key, hmem, hsame⟩ := exists_same_of_lookup ha
  obtain ⟨_, ⟨⟩, -, hentries⟩ := deepEqual_map_left_iff.1 h.equal
  obtain ⟨b, hb, hab⟩ := hentries key a hmem
  have hkey : key.isKey = true := (wellKeyed_map h.left).1 key (List.mem_map_of_mem hmem)
  have hsame' : key.same name = true := by rwa [same_comm (.inl hkey)]
  rw [lookup_congr hsame' hkey] at hb
  exact ⟨b, hb, h.left.of_lookup ha, h.right.of_lookup hb, hab⟩

theorem Alike.lookup_none (h : (Value.map entries).Alike (.map others))
    (ha : Value.lookup name entries = none) : Value.lookup name others = none := by
  cases hb : Value.lookup name others with
  | none => rfl
  | some b =>
    obtain ⟨a, ha', -⟩ := h.symm.lookup hb
    cases ha.symm.trans ha'

end

end Value

open Value

/-! ## Refinements -/

section
variable {v w : Value}

theorem Refinement.holds_congr (r : Refinement) (h : v.deepEqual w = true) :
    r.holds v = r.holds w := by
  by_cases hs : ∃ s, v = .str s
  · obtain ⟨s, rfl⟩ := hs
    rw [deepEqual_str_iff.1 h]
  · have hs' : ∀ s, w ≠ .str s := by
      rintro s rfl
      have hstring := includes_congr h .string
      cases v <;> simp_all [Kind.includes, isString]
    cases r with
    | minimum bound => rw [holds, holds, (isBelow_congr h bound).1]
    | maximum bound => rw [holds, holds, (isBelow_congr h bound).2]
    | minLength | maxLength | pattern | format => cases v <;> cases w <;> simp_all [holds]

theorem Refinement.allHold_congr (h : v.deepEqual w = true) :
    ∀ rs : List Refinement, allHold rs v = allHold rs w
  | [] => rfl
  | r :: rs => by rw [allHold, allHold, r.holds_congr h, allHold_congr h rs]

theorem Refinement.violations_congr (h : v.deepEqual w = true) (path : Pointer.Path) :
    ∀ rs : List Refinement, violations rs v path = violations rs w path
  | [] => rfl
  | r :: rs => by rw [violations, violations, r.holds_congr h, violations_congr h path rs]

end

/-! ## Verdicts -/

namespace Checker

theorem allPass_congr {test : Value → Except Fault Bool} {items others : List Value}
    (h : List.Forall₂ (fun a b => test a = test b) items others) :
    allPass test items = allPass test others := by
  induction h with
  | nil => rfl
  | cons hab _ ih => rw [allPass, allPass, hab, ih]

/-- A key is declared if one that coincides with it is. -/
theorem unexpectedKeys_eq_nil {entries others : List (Value × Value)}
    (h : (Value.map entries).Alike (.map others)) {declared : List Value}
    (hnone : unexpectedKeys declared entries = []) : unexpectedKeys declared others = [] := by
  simp only [unexpectedKeys, List.filter_eq_nil_iff, Bool.not_eq_true', Bool.not_eq_false] at *
  intro key hkey
  have hk : key.isKey = true := (wellKeyed_map h.right).1 key hkey
  obtain ⟨key', hkey', hsame⟩ := covers_of_deepEqual h.symm.equal key hkey
  rw [isAmong_congr hsame hk]
  exact hnone key' hkey'

theorem unexpectedKeys_isEmpty_congr {entries others : List (Value × Value)}
    (h : (Value.map entries).Alike (.map others)) (declared : List Value) :
    (unexpectedKeys declared entries).isEmpty = (unexpectedKeys declared others).isEmpty := by
  rw [Bool.eq_iff_iff, List.isEmpty_iff, List.isEmpty_iff]
  exact ⟨unexpectedKeys_eq_nil h, unexpectedKeys_eq_nil h.symm⟩

theorem accepts_of_not_object {fields : List FieldChecker} {strict : Bool} {v : Value}
    (h : v.isObject = false) : (object fields strict).accepts v = .ok false := by
  cases v with
  | map => cases h
  | _ => rfl

mutual

theorem accepts_congr (c : Checker) {v w : Value} (h : v.Alike w) : c.accepts v = c.accepts w := by
  cases c with
  | primitive kind rs =>
    rw [accepts, accepts, includes_congr h.equal, Refinement.allHold_congr h.equal]
  | literal expected => rw [accepts, accepts, h.deepEqual_congr]
  | list item minItems maxItems =>
    simp only [accepts]
    cases hv : v.items? with
    | none => rw [h.items_none hv]
    | some items =>
      obtain ⟨others, hw, hitems⟩ := h.items hv
      have hall : allPass (fun v => item.accepts v) items =
          allPass (fun v => item.accepts v) others :=
        allPass_congr (hitems.imp fun a b hab => accepts_congr item hab)
      rw [hw]
      simp only [hall, hitems.length_eq]
  | object fields strict =>
    cases v with
    | map entries =>
      obtain ⟨others, rfl, -⟩ := deepEqual_map_left_iff.1 h.equal
      simp only [accepts, acceptsFields_congr fields h, unexpectedKeys_isEmpty_congr h]
    | _ =>
      have hw := isObject_congr h.equal
      rw [accepts_of_not_object rfl, accepts_of_not_object hw.symm]
  | union options =>
    rw [accepts, accepts]
    exact acceptsAny_congr options h
termination_by structural c

theorem acceptsFields_congr (fields : List FieldChecker) {entries others : List (Value × Value)}
    (h : (Value.map entries).Alike (.map others)) :
    acceptsFields fields entries = acceptsFields fields others := by
  cases fields with
  | nil => rfl
  | cons field rest =>
    rw [acceptsFields, acceptsFields, acceptsField_congr field h, acceptsFields_congr rest h]
termination_by structural fields

theorem acceptsField_congr (field : FieldChecker) {entries others : List (Value × Value)}
    (h : (Value.map entries).Alike (.map others)) :
    acceptsField field entries = acceptsField field others := by
  cases field with
  | mk name required checker =>
    simp only [acceptsField]
    cases ha : Value.lookup name entries with
    | none => rw [h.lookup_none ha]
    | some a =>
      obtain ⟨b, hb, hab⟩ := h.lookup ha
      rw [hb]
      exact accepts_congr checker hab
termination_by structural field

theorem acceptsAny_congr (options : List Checker) {v w : Value} (h : v.Alike w) :
    acceptsAny options v = acceptsAny options w := by
  cases options with
  | nil => rfl
  | cons option rest =>
    rw [acceptsAny, acceptsAny, accepts_congr option h, acceptsAny_congr rest h]
termination_by structural options

end

end Checker

/-! ## Reports -/

/-- Equal up to the order in which the undeclared keys of an object are reported. -/
inductive Reordered : List Violation → List Violation → Prop
  | nil : Reordered [] []
  | cons (v : Violation) {l l' : List Violation} : Reordered l l' → Reordered (v :: l) (v :: l')
  | swap (path : Pointer.Path) (key key' : Value) (l : List Violation) :
      Reordered
        (.of (path ++ [key]) .unexpectedProperty .null ::
          .of (path ++ [key']) .unexpectedProperty .null :: l)
        (.of (path ++ [key']) .unexpectedProperty .null ::
          .of (path ++ [key]) .unexpectedProperty .null :: l)
  | trans {l l' l'' : List Violation} : Reordered l l' → Reordered l' l'' → Reordered l l''

namespace Reordered

variable {l l' m m' : List Violation}

theorem refl : ∀ l : List Violation, Reordered l l
  | [] => .nil
  | v :: l => .cons v (refl l)

theorem append_left (l : List Violation) (h : Reordered m m') : Reordered (l ++ m) (l ++ m') := by
  induction l with
  | nil => exact h
  | cons v l ih => exact .cons v ih

theorem append (h : Reordered l l') (hm : Reordered m m') : Reordered (l ++ m) (l' ++ m') := by
  have hright : Reordered (l ++ m) (l' ++ m) := by
    induction h with
    | nil => exact refl m
    | cons v _ ih => exact .cons v ih
    | swap path key key' l => exact .swap path key key' (l ++ m)
    | trans _ _ ih ih' => exact ih.trans ih'
  exact hright.trans (append_left l' hm)

theorem of_perm {keys others : List Value} (h : keys.Perm others) (path : Pointer.Path) :
    Reordered (keys.map fun key => .of (path ++ [key]) .unexpectedProperty .null)
      (others.map fun key => .of (path ++ [key]) .unexpectedProperty .null) := by
  induction h with
  | nil => exact .nil
  | cons key _ ih => exact .cons _ ih
  | swap key key' keys => exact .swap path key' key _
  | trans _ _ ih ih' => exact ih.trans ih'

end Reordered

/-- Both are violations and equal up to the order of an object's undeclared keys, or both are the
same fault. -/
inductive ReportsAlike : Except Fault (List Violation) → Except Fault (List Violation) → Prop
  | ok {l l' : List Violation} : Reordered l l' → ReportsAlike (.ok l) (.ok l')
  | error (fault : Fault) : ReportsAlike (.error fault) (.error fault)

namespace ReportsAlike

theorem refl (report : Except Fault (List Violation)) : ReportsAlike report report := by
  cases report with
  | error fault => exact .error fault
  | ok l => exact .ok (.refl l)

theorem bind {r r' : Except Fault (List Violation)}
    {f g : List Violation → Except Fault (List Violation)} (h : ReportsAlike r r')
    (hfg : ∀ l l', Reordered l l' → ReportsAlike (f l) (g l')) :
    ReportsAlike (r >>= f) (r' >>= g) := by
  cases h with
  | ok hl => exact hfg _ _ hl
  | error fault => exact .error fault

end ReportsAlike

namespace Value

namespace TextAlike

variable {v w name a : Value} {entries others : List (Value × Value)}

theorem items (h : v.TextAlike w) {items : List Value} (hv : v.items? = some items) :
    ∃ others, w.items? = some others ∧ List.Forall₂ TextAlike items others := by
  obtain ⟨others, hw, hitems⟩ := h.toAlike.items hv
  refine ⟨others, hw, List.forall₂_iff_get.2 ⟨hitems.length_eq, fun i hi hi' => ?_⟩⟩
  exact ⟨hitems.get hi hi',
    h.leftKeys.of_part fun _ => .item hv (List.get_mem items ⟨i, hi⟩),
    h.rightKeys.of_part fun _ => .item hw (List.get_mem others ⟨i, hi'⟩)⟩

theorem lookup (h : (Value.map entries).TextAlike (.map others))
    (ha : Value.lookup name entries = some a) :
    ∃ b, Value.lookup name others = some b ∧ a.TextAlike b := by
  obtain ⟨b, hb, hab⟩ := h.toAlike.lookup ha
  exact ⟨b, hb, hab, h.leftKeys.of_part fun _ => .of_lookup ha,
    h.rightKeys.of_part fun _ => .of_lookup hb⟩

/-- Keys that are strings coincide only if they are equal. -/
theorem keys_perm (h : (Value.map entries).TextAlike (.map others)) :
    (entries.map (·.1)).Perm (others.map (·.1)) := by
  obtain ⟨names, hnames⟩ := forall_str_iff.1 fun key hkey => h.leftKeys key ⟨entries, .here, hkey⟩
  obtain ⟨-, hd, -⟩ := wellKeyed_map h.left
  obtain ⟨_, ⟨⟩, hl, -⟩ := deepEqual_map_left_iff.1 h.equal
  rw [hnames] at hd
  refine keys_perm_of_subset hnames (nodup_of_keysDiffer hd) hl fun key a ha => ?_
  have hkey : key ∈ entries.map (·.1) := List.mem_map_of_mem ha
  obtain ⟨s, rfl⟩ := h.leftKeys key ⟨entries, .here, hkey⟩
  obtain ⟨key', hmem, hsame⟩ := covers_of_deepEqual h.equal _ hkey
  rwa [str_same_iff.1 hsame] at hmem

end TextAlike

end Value

namespace Checker

theorem collectFrom_congr {report : Nat → Value → Except Fault (List Violation)}
    {items others : List Value} (h : List.Forall₂
      (fun a b => ∀ index, ReportsAlike (report index a) (report index b)) items others) :
    ∀ index, ReportsAlike (collectFrom report index items) (collectFrom report index others) := by
  induction h with
  | nil => exact fun index => .refl _
  | cons hab _ ih =>
    intro index
    refine (hab index).bind fun found found' hfound => ?_
    refine (ih (index + 1)).bind fun rest rest' hrest => ?_
    exact .ok (hfound.append hrest)

theorem unexpected_congr {entries others : List (Value × Value)}
    (h : (Value.map entries).TextAlike (.map others)) (strict : Bool) (declared : List Value)
    (path : Pointer.Path) :
    Reordered
      ((if strict then unexpectedKeys declared entries else []).map fun key =>
        .of (path ++ [key]) .unexpectedProperty .null)
      ((if strict then unexpectedKeys declared others else []).map fun key =>
        .of (path ++ [key]) .unexpectedProperty .null) := by
  cases strict with
  | false => exact .nil
  | true => exact .of_perm (h.keys_perm.filter _) path

theorem collect_of_not_object {fields : List FieldChecker} {strict : Bool} {v : Value}
    {path : Pointer.Path} (h : v.isObject = false) :
    (object fields strict).collect v path = .ok [.of path .typeMismatch (.str "object")] := by
  cases v with
  | map => cases h
  | _ => rfl

mutual

theorem collect_congr (c : Checker) {v w : Value} (h : v.TextAlike w) (path : Pointer.Path) :
    ReportsAlike (c.collect v path) (c.collect w path) := by
  cases c with
  | primitive kind rs =>
    rw [collect, collect, includes_congr h.equal, Refinement.violations_congr h.equal]
    exact .refl _
  | literal expected =>
    rw [collect, collect, h.deepEqual_congr]
    exact .refl _
  | list item minItems maxItems =>
    simp only [collect]
    cases hv : v.items? with
    | none =>
      rw [h.items_none hv]
      exact .refl _
    | some items =>
      obtain ⟨others, hw, hitems⟩ := h.items hv
      rw [hw]
      have hreports : List.Forall₂ (fun a b => ∀ index : Nat, ReportsAlike
          (item.collect a (path ++ [.int index])) (item.collect b (path ++ [.int index])))
          items others :=
        hitems.imp fun a b hab index => collect_congr item hab _
      refine (collectFrom_congr hreports 0).bind fun found found' hfound => ?_
      rw [hitems.length_eq]
      exact .ok (.append_left _ hfound)
  | object fields strict =>
    cases v with
    | map entries =>
      obtain ⟨others, rfl, -⟩ := deepEqual_map_left_iff.1 h.equal
      simp only [collect]
      refine (collectFields_congr fields h path).bind fun found found' hfound => ?_
      exact .ok (hfound.append (unexpected_congr h strict _ path))
    | _ =>
      have hw := isObject_congr h.equal
      rw [collect_of_not_object rfl, collect_of_not_object hw.symm]
      exact .refl _
  | union options =>
    rw [collect, collect, acceptsAny_congr options h.toAlike]
    exact .refl _
termination_by structural c

theorem collectFields_congr (fields : List FieldChecker) {entries others : List (Value × Value)}
    (h : (Value.map entries).TextAlike (.map others)) (path : Pointer.Path) :
    ReportsAlike (collectFields fields entries path) (collectFields fields others path) := by
  cases fields with
  | nil => exact .refl _
  | cons field rest =>
    refine (collectField_congr field h path).bind fun found found' hfound => ?_
    refine (collectFields_congr rest h path).bind fun inner inner' hinner => ?_
    exact .ok (hfound.append hinner)
termination_by structural fields

theorem collectField_congr (field : FieldChecker) {entries others : List (Value × Value)}
    (h : (Value.map entries).TextAlike (.map others)) (path : Pointer.Path) :
    ReportsAlike (collectField field entries path) (collectField field others path) := by
  cases field with
  | mk name required checker =>
    simp only [collectField]
    cases ha : Value.lookup name entries with
    | none =>
      rw [h.lookup_none ha]
      exact .refl _
    | some a =>
      obtain ⟨b, hb, hab⟩ := h.lookup ha
      rw [hb]
      exact collect_congr checker hab (path ++ [name])
termination_by structural field

end

end Checker

/-! ## Validators -/

/-- A validator gives deep-equal values one verdict; and if their keys are strings, it reports the
same violations, up to the order in which the undeclared keys of an object come. -/
theorem Validator.answers_congr (validator : Validator) {v w : Value} (hv : v.WellKeyed)
    (hw : w.WellKeyed) (h : v.deepEqual w = true) :
    validator.check v = validator.check w ∧
      (v.StringKeys → w.StringKeys →
        ReportsAlike (validator.errors v) (validator.errors w)) := by
  have halike : v.Alike w := ⟨hv, hw, h⟩
  refine ⟨validator.checker.accepts_congr halike, fun hvk hwk => ?_⟩
  exact validator.checker.collect_congr ⟨halike, hvk, hwk⟩ []

/-! ## A parcel written in two ways -/

/-- A weight of at least two and a fixed origin; nothing else. -/
def parcelSchema : Schema :=
  .object
    [.named (.str "weight") (.field (.number (.int 2) .null) (.bool true)),
     .named (.str "origin") (.field (.literal (.list [.int 1, .str "x"])) (.bool true))]
    (.bool true)

def parcelValue : Value :=
  .map [(.str "weight", .int 1), (.str "note", .null),
    (.str "origin", .tuple [.float (.finite 1), .str "x"]), (.str "fragile", .bool true)]

/-- Keys in another order, a list for the tuple, and numbers of the other type. -/
def parcelRewritten : Value :=
  .map [(.str "fragile", .bool true), (.str "origin", .list [.int 1, .str "x"]),
    (.str "weight", .float (.finite 1)), (.str "note", .null)]

def parcelChecker : Checker :=
  .object
    [⟨.str "weight", true, .primitive .number [.minimum (.int 2)]⟩,
     ⟨.str "origin", true, .literal (.list [.int 1, .str "x"])⟩]
    true

theorem wellKeyed_parcel : parcelValue.WellKeyed ∧ parcelRewritten.WellKeyed := by
  have htuple : (Value.tuple [.float (.finite 1), .str "x"]).WellKeyed :=
    .of_scalars rfl (by decide)
  have hlist : (Value.list [.int 1, .str "x"]).WellKeyed := .of_scalars rfl (by decide)
  refine ⟨.map (by decide) (by simp [KeysDiffer]) ?_, .map (by decide) (by simp [KeysDiffer]) ?_⟩
  · simp only [List.forall_mem_cons]
    exact ⟨.scalar rfl, .scalar rfl, htuple, .scalar rfl, List.forall_mem_nil _⟩
  · simp only [List.forall_mem_cons]
    exact ⟨.scalar rfl, hlist, .scalar rfl, .scalar rfl, List.forall_mem_nil _⟩

theorem stringKeys_parcel : parcelValue.StringKeys ∧ parcelRewritten.StringKeys := by
  have htuple : (Value.tuple [.float (.finite 1), .str "x"]).StringKeys :=
    stringKeys_scalars rfl (by decide)
  have hlist : (Value.list [.int 1, .str "x"]).StringKeys := stringKeys_scalars rfl (by decide)
  have hkeys : [Value.str "weight", .str "note", .str "origin", .str "fragile"] =
      ["weight", "note", "origin", "fragile"].map .str := rfl
  have hkeys' : [Value.str "fragile", .str "origin", .str "weight", .str "note"] =
      ["fragile", "origin", "weight", "note"].map .str := rfl
  refine ⟨stringKeys_map hkeys ?_, stringKeys_map hkeys' ?_⟩
  · simp only [List.forall_mem_cons]
    exact ⟨stringKeys_scalar rfl, stringKeys_scalar rfl, htuple, stringKeys_scalar rfl,
      List.forall_mem_nil _⟩
  · simp only [List.forall_mem_cons]
    exact ⟨stringKeys_scalar rfl, hlist, stringKeys_scalar rfl, stringKeys_scalar rfl,
      List.forall_mem_nil _⟩

theorem Validator.answers_parcel : ∃ validator,
    Validator.ofSchema parcelSchema .standard = .ok validator ∧
    parcelValue.WellKeyed ∧ parcelRewritten.WellKeyed ∧
    parcelValue.deepEqual parcelRewritten = true ∧
    parcelValue.StringKeys ∧ parcelRewritten.StringKeys ∧
    validator.check parcelValue = .ok false ∧ validator.check parcelRewritten = .ok false ∧
    ReportsAlike (validator.errors parcelValue) (validator.errors parcelRewritten) ∧
    validator.errors parcelValue = .ok [.of [.str "weight"] .belowMinimum (.int 2),
      .of [.str "note"] .unexpectedProperty .null,
      .of [.str "fragile"] .unexpectedProperty .null] ∧
    validator.errors parcelRewritten = .ok [.of [.str "weight"] .belowMinimum (.int 2),
      .of [.str "fragile"] .unexpectedProperty .null,
      .of [.str "note"] .unexpectedProperty .null] := by
  obtain ⟨hv, hw⟩ := wellKeyed_parcel
  obtain ⟨hvk, hwk⟩ := stringKeys_parcel
  have hequal : parcelValue.deepEqual parcelRewritten = true := by decide +kernel
  obtain ⟨hcheck, herrors⟩ := Validator.answers_congr ⟨parcelSchema, parcelChecker⟩ hv hw hequal
  have hfalse : (Validator.mk parcelSchema parcelChecker).check parcelValue = .ok false := rfl
  exact ⟨⟨parcelSchema, parcelChecker⟩, rfl, hv, hw, hequal, hvk, hwk, hfalse,
    hcheck ▸ hfalse, herrors hvk hwk, rfl, rfl⟩

end Conform
