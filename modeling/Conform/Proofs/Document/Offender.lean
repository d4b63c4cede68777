import Conform.Proofs.Checker.Congruence
import Conform.Proofs.Document.Children
import Conform.Proofs.Pointer.Resolution

/-!
# The node that an error of reading is about

`AtFault` says what can be wrong with a value that is read as a node, whatever is below it, and
`Reached` which values are read when a value is: its children, their children and so on. Addresses
count the children on the way, so in the lexicographic order of addresses a value comes before its
children and these come one after the other, as they are read.

Reading fails with the error of the first value that is at fault (`Schema.read_error_place`). The
error says where it is: the pointer leads to it from the value that is read. Only where something
else than a list stands under `anyOf`, the pointer goes one step too far, since the first element of
a text or of a mapping has no pointer.
-/

namespace Conform

/-- Where the node is that the error is about. -/
def NodeError.place : NodeError → String
  | .notMapping place _ => place
  | .missingItems place => place
  | .undeclared place _ => place
  | .unsupportedType place _ => place

namespace Schema

open Grammar (Entries)
open Pointer (Path)

/-! ## Faults of a single node -/

/-- The names that are required and not declared, in the order in which they are required. -/
def Undeclared (entries : Entries) (names : List String) : Prop :=
  ∃ required, ((get? entries "required").getD (.list [])).elements = .ok required ∧
    ∃ declared : Value → Bool,
      (∀ name ∈ required,
        ((get? entries "properties").getD (.map [])).contains name = .ok (declared name)) ∧
      required.filter (fun name => !declared name) = names.map .str

/-- What is wrong with a value where a node is expected, whatever is below it. -/
inductive AtFault : Value → NodeError → Prop
  | notMapping {v : Value} {place : String} : (∀ entries, v ≠ .map entries) →
      AtFault v (.notMapping place v.typeName)
  | missingItems {entries : Entries} {place : String} : Typed entries (.str "array") →
      get? entries "items" = none → AtFault (.map entries) (.missingItems place)
  | undeclared {entries : Entries} {names : List String} {place : String} :
      Typed entries (.str "object") → Undeclared entries names → names ≠ [] →
      AtFault (.map entries) (.undeclared place names)
  | unsupportedType {entries : Entries} {type : Value} {place : String} : Typed entries type →
      (∀ name ∈ Grammar.typeNames, type ≠ .str name) →
      AtFault (.map entries) (.unsupportedType place type)

/-- Nothing is wrong with the value itself. -/
def Sound (v : Value) : Prop := ∀ error, ¬ AtFault v error

theorem sound_of_anyOf {entries : Entries} {v : Value} (hany : get? entries "anyOf" = some v) :
    Sound (.map entries) := by
  intro error h
  cases h with
  | notMapping hv => exact hv entries rfl
  | missingItems h | undeclared h | unsupportedType h => cases hany.symm.trans h.anyOf

theorem sound_of_items {entries : Entries} {item : Value} (htyped : Typed entries (.str "array"))
    (hitem : get? entries "items" = some item) : Sound (.map entries) := by
  intro error h
  cases h with
  | notMapping hv => exact hv entries rfl
  | missingItems _ hnone => cases hitem.symm.trans hnone
  | undeclared h => exact htyped.not_object h
  | unsupportedType h hne => exact hne "array" (by decide) (h.unique htyped)

theorem sound_of_declared {entries : Entries} (htyped : Typed entries (.str "object"))
    (hdeclared : ∀ names, Undeclared entries names → names = []) : Sound (.map entries) := by
  intro error h
  cases h with
  | notMapping hv => exact hv entries rfl
  | missingItems h => exact h.not_object htyped
  | undeclared _ hundeclared hne => exact hne (hdeclared _ hundeclared)
  | unsupportedType h hne => exact hne "object" (by decide) (h.unique htyped)

/-! ## Required names -/

theorem map_of_texts : ∀ {values : List Value} {names : List String},
    texts values = .ok names → values = names.map .str
  | [], _, h => by
    obtain rfl := Except.ok.inj h
    rfl
  | v :: values, _, h => by
    cases v with
    | str s =>
      obtain ⟨others, hothers, h⟩ := bind_eq_ok.1 h
      obtain rfl := Except.ok.inj h
      rw [List.map_cons, map_of_texts hothers]
    | _ => cases h

section
variable {entries : Entries} {place : String}

theorem undeclared_of_declaredNames_eq_ok {required : List Value}
    (h : declaredNames place entries = .ok required) (names : List String)
    (hnames : Undeclared entries names) : names = [] := by
  obtain ⟨required', hrequired', declared, hdeclared, hfilter⟩ := hnames
  have hundeclared : required'.filterM (fun name => do
      let declared ← ((get? entries "properties").getD (.map [])).contains name
      .ok !declared : Value → Except Fault Bool) = .ok (names.map .str) := by
    rw [← hfilter]
    exact filterM_of_all_ok fun name hname => by rw [hdeclared name hname, ok_bind]
  simp only [declaredNames, hrequired', hundeclared, ReadFailure.ofFault, ok_bind] at h
  split at h
  · rename_i hempty
    simpa using hempty
  · obtain ⟨_, -, h⟩ := bind_eq_ok.1 h
    cases h

theorem undeclared_of_declaredNames_eq_error {error : NodeError}
    (h : declaredNames place entries = .error (.node error)) :
    ∃ names, Undeclared entries names ∧ names ≠ [] ∧ error = .undeclared place names := by
  rcases bind_eq_error.1 h with h | ⟨required, hrequired, h⟩
  · exact absurd h ofFault_ne_node
  rcases bind_eq_error.1 h with h | ⟨undeclared, hundeclared, h⟩
  · exact absurd h ofFault_ne_node
  split at h
  · cases h
  rename_i hne
  rcases bind_eq_error.1 h with h | ⟨names, hnames, herror⟩
  · exact absurd h ofFault_ne_node
  obtain rfl := ReadFailure.node.inj (Except.error.inj herror)
  obtain ⟨q, hq, hfilter⟩ := exists_of_filterM (ofFault_eq_ok.1 hundeclared)
  obtain rfl := map_of_texts (ofFault_eq_ok.1 hnames)
  refine ⟨names, ⟨required, ofFault_eq_ok.1 hrequired, fun name => !q name, fun name hname => ?_,
    by simpa using hfilter⟩, by simpa using hne, rfl⟩
  obtain ⟨declared, hdeclared, h⟩ := bind_eq_ok.1 (hq name hname)
  simp [hdeclared, ← Except.ok.inj h]

end

/-! ## What is read is sound -/

theorem Readable.sound {v : Value} (h : Readable v) : Sound v := by
  obtain ⟨place, schema, h⟩ := h
  intro error hfault
  cases hfault with
  | notMapping hv => cases (read_other hv place).symm.trans h
  | missingItems htyped hitems =>
    rw [read_array place htyped.anyOf htyped.const htyped.enum htyped.get?_type, hitems] at h
    cases h
  | undeclared htyped hundeclared hne =>
    rw [read_typed_object place htyped] at h
    obtain ⟨required, hrequired, -⟩ := bind_eq_ok.1 h
    exact hne (undeclared_of_declaredNames_eq_ok hrequired _ hundeclared)
  | unsupportedType htyped hne => cases (read_unsupported place htyped hne).symm.trans h

/-! ## Reached values -/

/-- The value is read when another is; the path leads from there to it. -/
inductive Reached : Value → Path → List Nat → Value → Prop
  | here {v : Value} : Reached v [] [] v
  | under {entries : Entries} {segments path : Path} {i : Nat} {address : List Nat}
      {child v : Value} : Child entries segments i child → Reached child path address v →
      Reached (.map entries) (segments ++ path) (i :: address) v
  /-- Something else than a list is taken for a list of options as far as its first element, which
  is no mapping. -/
  | element {entries : Entries} {v first : Value} {rest : List Value} :
      get? entries "anyOf" = some v → v.items? = none → v.elements = .ok (first :: rest) →
      Reached (.map entries) [.str "anyOf", .int 0] [0] first

theorem Child.items?_ne_none {entries : Entries} {segments : Path} {i : Nat} {v w : Value}
    (h : Child entries segments i v) (hany : get? entries "anyOf" = some w) : w.items? ≠ none := by
  cases h with
  | option hany' hitems =>
    cases hany.symm.trans hany'
    rw [hitems]
    exact Option.some_ne_none _
  | item h | property h => cases hany.symm.trans h.anyOf

/-- Whatever is read when a value is read can be read. -/
theorem Readable.reached {d v : Value} {path : Path} {address : List Nat}
    (hv : Reached d path address v) (h : Readable d) : Readable v := by
  induction hv with
  | here => exact h
  | under hchild _ ih => exact ih (h.child hchild)
  | element hany hitems helements =>
    obtain ⟨place, schema, h⟩ := h
    rw [read_options place hany, readOptions_of_items?_eq_none hitems] at h
    obtain ⟨options, hoptions, -⟩ := bind_eq_ok.1 h
    obtain ⟨elements, helements', hoptions⟩ := bind_eq_ok.1 hoptions
    cases helements.symm.trans (ofFault_eq_ok.1 helements')
    cases hoptions

/-- All that is read before the address is sound. -/
def SoundBefore (d : Value) (address : List Nat) : Prop :=
  ∀ path address' v, Reached d path address' v → address' < address → Sound v

theorem soundBefore_nil (d : Value) : SoundBefore d [] :=
  fun _ _ _ _ hlt => absurd hlt (List.not_lt_nil _)

/-- Before something below a child come the mapping, the children before and what is below them. -/
theorem soundBefore_cons {entries : Entries} {segments : Path} {i : Nat} {child : Value}
    {address : List Nat} (hsound : Sound (.map entries)) (hchild : Child entries segments i child)
    (hread : ∀ segments j v, Child entries segments j v → j < i → Readable v)
    (h : SoundBefore child address) : SoundBefore (.map entries) (i :: address) := by
  intro path address' v hv hlt
  cases hv with
  | here => exact hsound
  | under hchild' hv =>
    -- below an earlier child everything has been read, below this one only what comes before
    rcases List.cons_lt_cons_iff.1 hlt with hindex | ⟨rfl, hinner⟩
    · exact ((hread _ _ _ hchild' hindex).reached hv).sound
    · obtain ⟨-, rfl⟩ := hchild.unique hchild'
      exact h _ _ _ hv hinner
  | element hany hitems => exact absurd hitems (hchild.items?_ne_none hany)

/-! ## Pointers to what is reached -/

section
variable {entries : Entries} {segments : Path} {i : Nat} {v : Value}

theorem Child.wellKeyed (h : Child entries segments i v) (hkeyed : (Value.map entries).WellKeyed) :
    v.WellKeyed := by
  cases h with
  | option hany hitems hitem =>
    exact (hkeyed.of_lookup hany).of_item hitems _ (List.mem_of_getElem? hitem)
  | item _ hitem => exact hkeyed.of_lookup hitem
  | property _ hproperties hv =>
    exact (Value.wellKeyed_map (hkeyed.of_lookup hproperties)).2.2 _ (List.mem_of_getElem? hv)

theorem Child.stringKeys (h : Child entries segments i v)
    (hkeys : (Value.map entries).StringKeys) : v.StringKeys := by
  refine hkeys.of_part fun part hpart => ?_
  cases h with
  | option hany hitems hitem =>
    exact .of_lookup hany (.item hitems (List.mem_of_getElem? hitem) hpart)
  | item _ hitem => exact .of_lookup hitem hpart
  | property _ hproperties hv =>
    exact .of_lookup hproperties (.entry (List.mem_of_getElem? hv) hpart)

/-- The texts on the way to a child lead to it. -/
theorem Child.follow (h : Child entries segments i v) (hkeyed : (Value.map entries).WellKeyed)
    (hkeys : (Value.map entries).StringKeys) (tokens : List String) :
    Pointer.follow (segments.map Value.text ++ tokens) (.map entries) =
      Pointer.follow tokens v := by
  cases h with
  | option hany hitems hitem =>
    exact (Pointer.follow_key hany _).trans (Pointer.follow_item hitems hitem _)
  | item _ hitem => exact Pointer.follow_key hitem _
  | @property properties _ name _ _ hproperties hv =>
    have hmem : (name, v) ∈ properties := List.mem_of_getElem? hv
    have hstrings : ∀ key ∈ properties.map (·.1), ∃ s, key = .str s := fun key hkey =>
      hkeys key ⟨properties, .of_lookup hproperties .here, hkey⟩
    obtain ⟨names, hnames⟩ := Value.forall_str_iff.1 hstrings
    have hdiffer := (Value.wellKeyed_map (hkeyed.of_lookup hproperties)).2.1
    rw [hnames] at hdiffer
    obtain ⟨s, -, rfl⟩ := Value.exists_name_of_mem hnames hmem
    have hlookup : get? properties s = some v :=
      (Value.lookup_str_iff_mem hnames (Value.nodup_of_keysDiffer hdiffer)).2 hmem
    exact (Pointer.follow_key hproperties _).trans (Pointer.follow_key hlookup _)

end

/-- The path ends with the first element of something else than a list that stands under `anyOf`,
where the path up to there leads. -/
def EndsInElement (d : Value) (path : Path) (v : Value) : Prop :=
  ∃ above container rest, path = above ++ [.str "anyOf", .int 0] ∧
    Pointer.resolve (Pointer.join (above ++ [.str "anyOf"])) d = some container ∧
    container.items? = none ∧ container.elements = .ok (v :: rest)

/-- The pointer of a path to what is reached stands for it, unless it is the element of something
else than a list. -/
theorem Reached.resolve {d v : Value} {path : Path} {address : List Nat}
    (h : Reached d path address v) (hkeyed : d.WellKeyed) (hkeys : d.StringKeys) :
    Pointer.resolve (Pointer.join path) d = some v ∨ EndsInElement d path v := by
  induction h with
  | here => exact .inl (Pointer.resolve_join [] _)
  | under hchild _ ih =>
    have hfollow := hchild.follow hkeyed hkeys
    rcases ih (hchild.wellKeyed hkeyed) (hchild.stringKeys hkeys) with
      h | ⟨above, container, rest, rfl, h, hitems, helements⟩
    · rw [Pointer.resolve_join] at h ⊢
      rw [List.map_append, hfollow]
      exact .inl h
    · refine .inr ⟨_ ++ above, container, rest, (List.append_assoc ..).symm, ?_, hitems, helements⟩
      rw [Pointer.resolve_join] at h ⊢
      rw [List.append_assoc, List.map_append, hfollow]
      exact h
  | element hany hitems helements =>
    refine .inr ⟨[], _, _, rfl, ?_, hitems, helements⟩
    rw [Pointer.resolve_join]
    exact Pointer.follow_key hany []

/-! ## The first fault -/

/-- Something that is reached is at fault, the error says what is wrong with it and where it is, and
all that is read before is sound. -/
def Locates (d : Value) (place : String) (error : NodeError) : Prop :=
  ∃ path address v, Reached d path address v ∧ AtFault v error ∧
    error.place = place ++ Pointer.join path ∧ SoundBefore d address

theorem locates_of_atFault {v : Value} {place : String} {error : NodeError} (h : AtFault v error)
    (hplace : error.place = place) : Locates v place error :=
  ⟨[], [], v, .here, h, by rw [hplace, Pointer.append_join_nil], soundBefore_nil v⟩

theorem locates_of_child {entries : Entries} {segments : Path} {i : Nat} {v : Value}
    {place : String} {error : NodeError} (hsound : Sound (.map entries))
    (hchild : Child entries segments i v)
    (hread : ∀ segments j v, Child entries segments j v → j < i → Readable v)
    (h : Locates v (place ++ Pointer.join segments) error) :
    Locates (.map entries) place error := by
  obtain ⟨path, address, w, hreached, hfault, hplace, hbefore⟩ := h
  refine ⟨segments ++ path, i :: address, w, .under hchild hreached, hfault, ?_,
    soundBefore_cons hsound hchild hread hbefore⟩
  rw [hplace, String.append_assoc, ← Pointer.join_append]

theorem not_map_of_elements {v first : Value} {rest : List Value} (hkeyed : v.WellKeyed)
    (hitems : v.items? = none) (h : v.elements = .ok (first :: rest)) (entries : Entries) :
    first ≠ .map entries := by
  have hkey : first.isKey = true → first ≠ .map entries := by
    rintro hkey rfl
    cases hkey
  cases v with
  | str s =>
    have hmem : first ∈ s.toList.map fun c => Value.str (String.singleton c) :=
      Except.ok.inj h ▸ List.mem_cons_self
    obtain ⟨c, -, rfl⟩ := List.mem_map.1 hmem
    nofun
  | bytes data =>
    have hmem : first ∈ data.map fun b => Value.int b.toNat :=
      Except.ok.inj h ▸ List.mem_cons_self
    obtain ⟨b, -, rfl⟩ := List.mem_map.1 hmem
    nofun
  | map keyed =>
    exact hkey ((Value.wellKeyed_map hkeyed).1 first (Except.ok.inj h ▸ List.mem_cons_self))
  | set elements =>
    cases hkeyed with
    | scalar hs => cases hs
    | sequence hitems' => cases hitems'
    | set hkeys => exact hkey (hkeys first (Except.ok.inj h ▸ List.mem_cons_self))
  | list | tuple => cases hitems
  | _ => cases h

/-- Options that are no list fail at the first element. -/
theorem locates_of_noOptions {entries : Entries} {v : Value} {place : String} {error : NodeError}
    (hkeyed : (Value.map entries).WellKeyed) (hany : get? entries "anyOf" = some v)
    (hitems : v.items? = none)
    (h : noOptions (Pointer.child place (.str "anyOf")) v = .error (.node error)) :
    Locates (.map entries) place error := by
  rcases bind_eq_error.1 h with h | ⟨elements, helements, h⟩
  · exact absurd h ofFault_ne_node
  cases elements with
  | nil => cases h
  | cons first rest =>
    have helements := ofFault_eq_ok.1 helements
    obtain rfl := ReadFailure.node.inj (Except.error.inj h)
    refine ⟨[.str "anyOf", .int 0], [0], first, .element hany hitems helements,
      .notMapping (not_map_of_elements (hkeyed.of_lookup hany) hitems helements), ?_, ?_⟩
    · exact Pointer.child_child place _ _
    · intro path address' w hw hlt
      cases hw with
      | here => exact sound_of_anyOf hany
      | under hchild => exact absurd hitems (hchild.items?_ne_none hany)
      | element => exact absurd hlt (List.lt_irrefl _)

theorem locates_of_readAll {entries : Entries} {v : Value} {items : List Value} {place : String}
    {error : NodeError} (hany : get? entries "anyOf" = some v) (hitems : v.items? = some items)
    (ih : ∀ segments i child, Child entries segments i child → ∀ place,
      read child place = .error (.node error) → Locates child place error)
    (h : readAll items (Pointer.child place (.str "anyOf")) 0 = .error (.node error)) :
    Locates (.map entries) place error := by
  obtain ⟨i, item, hitem, hread, hbefore⟩ := exists_child_of_readAll h
  have hchild : Child entries [.str "anyOf", .int i] i item := .option hany hitems hitem
  refine locates_of_child (sound_of_anyOf hany) hchild (fun segments j w hw hj => ?_)
    (ih _ _ _ hchild _ ?_)
  · cases hw with
    | option hany' hitems' hw =>
      cases hany.symm.trans hany'
      cases hitems.symm.trans hitems'
      exact hbefore j w hj hw
    | item h | property h => cases hany.symm.trans h.anyOf
  · rwa [Pointer.child_child, Nat.zero_add] at hread

theorem locates_array {entries : Entries} {place : String} {error : NodeError}
    (htyped : Typed entries (.str "array"))
    (ih : ∀ segments i child, Child entries segments i child → ∀ place,
      read child place = .error (.node error) → Locates child place error)
    (h : read (.map entries) place = .error (.node error)) :
    Locates (.map entries) place error := by
  rw [read_array place htyped.anyOf htyped.const htyped.enum htyped.get?_type] at h
  cases hitem : get? entries "items" with
  | none =>
    rw [hitem] at h
    cases h
    exact locates_of_atFault (.missingItems htyped hitem) rfl
  | some item =>
    rw [hitem] at h
    rcases bind_eq_error.1 h with h | ⟨_, -, h⟩
    · have hchild : Child entries [.str "items"] 0 item := .item htyped hitem
      rw [Pointer.child_eq] at h
      exact locates_of_child (sound_of_items htyped hitem) hchild
        (fun _ _ _ _ hj => absurd hj (Nat.not_lt_zero _)) (ih _ _ _ hchild _ h)
    · cases h

theorem locates_object {entries : Entries} {place : String} {error : NodeError}
    (htyped : Typed entries (.str "object"))
    (ih : ∀ segments i child, Child entries segments i child → ∀ place,
      read child place = .error (.node error) → Locates child place error)
    (h : read (.map entries) place = .error (.node error)) :
    Locates (.map entries) place error := by
  rw [read_typed_object place htyped, propertiesIn_eq] at h
  rcases bind_eq_error.1 h with h | ⟨required, hrequired, h⟩
  · obtain ⟨names, hnames, hne, rfl⟩ := undeclared_of_declaredNames_eq_error h
    exact locates_of_atFault (.undeclared htyped hnames hne) rfl
  rcases bind_eq_error.1 h with h | ⟨fields, -, h⟩
  swap
  · exact absurd h ofSchema_ne_node
  cases hget : get? entries "properties" with
  | none =>
    rw [hget] at h
    cases h
  | some container =>
    rw [hget, Option.map_some, Option.getD_some] at h
    cases container with
    | map properties =>
      rcases exists_child_of_readFields h with ⟨hfault, -⟩ | ⟨i, name, v, hv, hread, hbefore⟩
      · cases hfault
      have hchild : Child entries [.str "properties", name] i v := .property htyped hget hv
      have hsound := sound_of_declared htyped (undeclared_of_declaredNames_eq_ok hrequired)
      rw [Pointer.child_child] at hread
      refine locates_of_child hsound hchild (fun segments j w hw hj => ?_) (ih _ _ _ hchild _ hread)
      cases hw with
      | option hany => cases hany.symm.trans htyped.anyOf
      | item h => exact absurd htyped h.not_object
      | property _ hproperties hw =>
        cases hget.symm.trans hproperties
        exact hbefore j _ w hj hw
    | _ => cases h

/-- An error about a mapping is explained if those about its children are. -/
theorem locates_map {entries : Entries} {place : String} {error : NodeError}
    (hkeyed : (Value.map entries).WellKeyed)
    (ih : ∀ segments i child, Child entries segments i child → ∀ place,
      read child place = .error (.node error) → Locates child place error)
    (h : read (.map entries) place = .error (.node error)) :
    Locates (.map entries) place error := by
  cases nodeForm entries with
  | @anyOf v hany =>
    rw [read_options place hany] at h
    rcases bind_eq_error.1 h with h | ⟨_, -, h⟩
    · cases hitems : v.items? with
      | some items =>
        rw [readOptions_of_items? hitems] at h
        exact locates_of_readAll hany hitems ih h
      | none =>
        rw [readOptions_of_items?_eq_none hitems] at h
        exact locates_of_noOptions hkeyed hany hitems h
    · cases h
  | const hany hconst => cases (read_const place hany hconst).symm.trans h
  | enum hany hconst henum =>
    rw [read_choice place hany hconst henum] at h
    rcases bind_eq_error.1 h with h | ⟨_, -, h⟩
    · exact absurd h ofFault_ne_node
    · cases h
  | primitive htyped =>
    cases (read_primitive place htyped.anyOf htyped.const htyped.enum htyped.get?_type).symm.trans h
  | array htyped => exact locates_array htyped ih h
  | object htyped => exact locates_object htyped ih h
  | unsupported htyped hne =>
    rw [read_unsupported place htyped hne] at h
    obtain ⟨rfl, -⟩ := raise_eq_node.1 (Except.error.inj h)
    exact locates_of_atFault (.unsupportedType htyped hne) rfl

/-- Whatever an error of reading is about is found. -/
theorem locates_of_read (d : Value) : ∀ {place : String} {error : NodeError}, d.WellKeyed →
    read d place = .error (.node error) → Locates d place error := by
  induction d using child_induction with
  | map entries ih =>
    intro place error hkeyed h
    exact locates_map hkeyed
      (fun segments i child hchild place => ih segments i child hchild (hchild.wellKeyed hkeyed)) h
  | other v hv =>
    intro place error _ h
    cases (read_other hv place).symm.trans h
    exact locates_of_atFault (.notMapping hv) rfl

/-- The error of reading a value is about the first value, in the order of reading, that is at
fault. Its place is the pointer of this value, except that for the first element of something else
than a list under `anyOf` only all but the last token of the pointer lead anywhere. -/
theorem read_error_place {d : Value} {place : String} {error : NodeError} (hkeyed : d.WellKeyed)
    (hkeys : d.StringKeys) (h : read d place = .error (.node error)) :
    ∃ path address v, Reached d path address v ∧ AtFault v error ∧
      error.place = place ++ Pointer.join path ∧
      (Pointer.resolve (Pointer.join path) d = some v ∨ EndsInElement d path v) ∧
      SoundBefore d address := by
  obtain ⟨path, address, v, hreached, hfault, hplace, hbefore⟩ := locates_of_read d hkeyed h
  exact ⟨path, address, v, hreached, hfault, hplace, hreached.resolve hkeyed hkeys, hbefore⟩

/-- An object whose second property has an alternative that is an array without items. The third
has no type. -/
def itemlessValue : Value :=
  .map [(.str "type", .str "object"),
    (.str "properties", .map
      [(.str "a/b", .map [(.str "const", .int 1)]),
       (.str "c~d", .map [(.str "anyOf", .list
          [.map [(.str "type", .str "null")], .map [(.str "type", .str "array")]])]),
       (.str "e", .map [])])]

/-- A text where a list of options is expected. -/
def spelledOptions : Value := .map [(.str "anyOf", .str "ab")]

theorem keyed_map {names : List String} {entries : Entries}
    (hnames : entries.map (·.1) = names.map .str) (hnodup : names.Nodup)
    (h : ∀ entry ∈ entries, entry.2.WellKeyed ∧ entry.2.StringKeys) :
    (Value.map entries).WellKeyed ∧ (Value.map entries).StringKeys := by
  refine ⟨.map (fun key hkey => ?_) ?_ fun entry hentry => (h entry hentry).1,
    Value.stringKeys_map hnames fun entry hentry => (h entry hentry).2⟩
  · rw [hnames] at hkey
    obtain ⟨s, -, rfl⟩ := List.mem_map.1 hkey
    rfl
  · rw [hnames, Value.KeysDiffer, List.pairwise_map]
    exact hnodup.imp fun {s t} hne => by simpa using Ne.symm hne

theorem keyed_scalar {v : Value} (h : v.isScalar = true) : v.WellKeyed ∧ v.StringKeys :=
  ⟨.scalar h, Value.stringKeys_scalar h⟩

theorem keyed_itemless : itemlessValue.WellKeyed ∧ itemlessValue.StringKeys := by
  have htyped (s : String) : (Value.map [(.str "type", .str s)]).WellKeyed ∧
      (Value.map [(.str "type", .str s)]).StringKeys :=
    @keyed_map ["type"] _ rfl (by decide) (List.forall_mem_singleton.2 (keyed_scalar rfl))
  have hlist : (Value.list [.map [(.str "type", .str "null")],
        .map [(.str "type", .str "array")]]).WellKeyed ∧
      (Value.list [.map [(.str "type", .str "null")],
        .map [(.str "type", .str "array")]]).StringKeys := by
    refine ⟨.sequence rfl (List.forall_mem_cons.2 ⟨(htyped "null").1,
      List.forall_mem_singleton.2 (htyped "array").1⟩), fun key hkey => ?_⟩
    obtain ⟨item, hitem, hkey⟩ := (Value.keyOf_sequence_iff rfl).1 hkey
    rcases List.mem_pair.1 hitem with rfl | rfl
    · exact (htyped "null").2 key hkey
    · exact (htyped "array").2 key hkey
  have hproperties : (Value.map _).WellKeyed ∧ (Value.map _).StringKeys :=
    @keyed_map ["a/b", "c~d", "e"]
      [(.str "a/b", .map [(.str "const", .int 1)]),
       (.str "c~d", .map [(.str "anyOf", .list
          [.map [(.str "type", .str "null")], .map [(.str "type", .str "array")]])]),
       (.str "e", .map [])] rfl (by decide) <| by
      simp only [List.forall_mem_cons]
      exact ⟨@keyed_map ["const"] _ rfl (by decide)
          (List.forall_mem_singleton.2 (keyed_scalar rfl)),
        @keyed_map ["anyOf"] _ rfl (by decide) (List.forall_mem_singleton.2 hlist),
        @keyed_map [] _ rfl (by decide) (List.forall_mem_nil _), List.forall_mem_nil _⟩
  exact @keyed_map ["type", "properties"] _ rfl (by decide) (List.forall_mem_cons.2
    ⟨keyed_scalar rfl, List.forall_mem_singleton.2 hproperties⟩)

theorem keyed_spelled : spelledOptions.WellKeyed ∧ spelledOptions.StringKeys :=
  @keyed_map ["anyOf"] _ rfl (by decide) (List.forall_mem_singleton.2 (keyed_scalar rfl))

theorem read_error_place_itemless :
    itemlessValue.WellKeyed ∧ itemlessValue.StringKeys ∧
    read itemlessValue "/schema" =
      .error (.node (.missingItems "/schema/properties/c~0d/anyOf/1")) ∧
    ∃ path address v, Reached itemlessValue path address v ∧
      AtFault v (.missingItems "/schema/properties/c~0d/anyOf/1") ∧
      "/schema/properties/c~0d/anyOf/1" = "/schema" ++ Pointer.join path ∧
      (Pointer.resolve (Pointer.join path) itemlessValue = some v ∨
        EndsInElement itemlessValue path v) ∧
      SoundBefore itemlessValue address := by
  obtain ⟨hkeyed, hkeys⟩ := keyed_itemless
  have hread : read itemlessValue "/schema" =
      .error (.node (.missingItems "/schema/properties/c~0d/anyOf/1")) := rfl
  exact ⟨hkeyed, hkeys, hread, read_error_place hkeyed hkeys hread⟩

/-- The first letter is refused in the place of an option, and no pointer leads to it. -/
theorem read_error_misplaced :
    spelledOptions.WellKeyed ∧ spelledOptions.StringKeys ∧
    read spelledOptions "" = .error (.node (.notMapping "/anyOf/0" "str")) ∧
    Pointer.resolve "/anyOf/0" spelledOptions = none := by
  have hpointer : "/anyOf/0" = Pointer.join [.str "anyOf", .int 0] := by decide +kernel
  obtain ⟨hkeyed, hkeys⟩ := keyed_spelled
  refine ⟨hkeyed, hkeys, rfl, ?_⟩
  rw [hpointer, Pointer.resolve_join]
  rfl

end Schema

end Conform
