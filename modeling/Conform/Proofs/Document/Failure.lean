import Conform.Proofs.Document.Acceptance
import Conform.Proofs.Document.Children
import Conform.Proofs.Yaml.Load

/-!
# How a value fails to be a document

A value that is loaded and is no document is refused with an error of the document. The exceptions
(`Loader.parse_fails_with`) are counted up in `Document.Escapes`. A version may have more digits
than are read, or pass the gate and be too long to be looked up (`Document.Findable`). The grammar
asks of every pattern in a node whether it is one, and for some there is no answer
(`Grammar.Overtaxed`); and it shows every value that is at fault and every node that is checked,
which not all have a text. And it puts up with property names that are no texts, which the object
that is made of the properties does not (`Schema.Misnamed`).
-/

namespace Conform

open Grammar (Entries Node Shaped)

/-! ## Checking the grammar -/

namespace Grammar

/-- The node with the given entries is checked when the value is. What stands under `anyOf`, `items`
and `properties` is checked even where the node's kind makes no use of it. -/
inductive Visited : Value → Entries → Prop
  | here {entries : Entries} : Visited (.map entries) entries
  | option {entries node : Entries} {items : List Value} {item : Value} :
      Schema.get? entries "anyOf" = some (.list items) → item ∈ items → Visited item node →
      Visited (.map entries) node
  | item {entries node : Entries} {item : Value} :
      Schema.get? entries "items" = some item → Visited item node → Visited (.map entries) node
  | property {entries node properties : Entries} {property : Value × Value} :
      Schema.get? entries "properties" = some (.map properties) → property ∈ properties →
      Visited property.2 node → Visited (.map entries) node

/-- A text under `pattern`, in a node that is checked, of which it cannot be told whether it is a
pattern. -/
def Overtaxed (v : Value) (fault : Fault) : Prop :=
  ∃ node s, Visited v node ∧ Schema.get? node "pattern" = some (.str s) ∧
    Format.isPattern s = .error fault

/-- Why the problems of a value cannot be listed: of a pattern in it there is no telling, or it is
to be shown and has no text. -/
inductive Unlisted (v : Value) : Fault → Prop
  | overtaxed {fault : Fault} : Overtaxed v fault → Unlisted v fault
  | unwritten : v.hasText = false → Unlisted v .badValue

/-- What keeps the problems of a part from being listed does so for the whole. -/
theorem Unlisted.of_part {v w : Value} {fault : Fault} (h : Unlisted w fault)
    (hv : ∀ node, Visited w node → Visited v node) (htext : v.hasText = true → w.hasText = true) :
    Unlisted v fault := by
  cases h with
  | overtaxed h =>
    obtain ⟨node, s, hnode, hs⟩ := h
    exact .overtaxed ⟨node, s, hv node hnode, hs⟩
  | unwritten h => exact .unwritten (Bool.eq_false_iff.2 (mt htext (Bool.eq_false_iff.1 h)))

/-! ### Showing what is at fault -/

/-- What has a text can be shown to have the defects. -/
def Shows (defects : Value → List Defect) : Prop :=
  ∀ v, v.hasText = true → ∀ defect ∈ defects v, defect.hasText = true

theorem shown_unless {holds : Bool} {defect : Defect} (h : defect.hasText = true) :
    ∀ other ∈ defectUnless holds defect, other.hasText = true := by
  cases holds
  · exact List.forall_mem_singleton.2 h
  · exact List.forall_mem_nil _

theorem shows_text : Shows textDefects := fun _ htext => shown_unless htext

theorem shows_bound : Shows boundDefects := fun _ htext => shown_unless htext

theorem shows_boolean : Shows booleanDefects := fun _ htext => shown_unless htext

theorem shows_type : Shows typeDefects := fun _ htext => shown_unless htext

theorem shows_count : Shows countDefects := fun _ htext =>
  List.forall_mem_append.2 ⟨shown_unless htext, shown_unless htext⟩

theorem shows_enum : Shows enumDefects := by
  intro v htext
  unfold enumDefects
  split
  · exact List.forall_mem_singleton.2 htext
  · exact List.forall_mem_nil _
  · exact List.forall_mem_singleton.2 htext

section
variable {entries : Entries} {path : Pointer.Path}

theorem shown_located {defects : List Defect}
    (h : ∀ defect ∈ defects, defect.hasText = true) :
    ∀ problem ∈ located path defects, problem.defect.hasText = true :=
  List.forall_mem_map.2 h

theorem shown_keyword (htext : (Value.map entries).hasText = true) (keyword : String)
    {defects : Value → List Defect} (h : Shows defects) :
    ∀ problem ∈ keywordProblems entries keyword path defects, problem.defect.hasText = true := by
  unfold keywordProblems
  split
  · rename_i v hv
    exact shown_located (h v (Schema.hasText_of_get? htext hv))
  · exact List.forall_mem_nil _

theorem shown_unknown (htext : (Value.map entries).hasText = true) (known : List String) :
    ∀ problem ∈ located path (unknownDefects known entries), problem.defect.hasText = true := by
  refine shown_located (shown_unless ?_)
  rw [Defect.hasText, List.all_eq_true]
  intro key hkey
  obtain ⟨hmem, -⟩ := List.mem_filter.1 (List.mem_mergeSort.1 hkey)
  obtain ⟨entry, hentry, rfl⟩ := List.mem_map.1 hmem
  exact (Value.entriesHaveText_iff.1 htext entry hentry).1

theorem located_append (defects others : List Defect) :
    located path (defects ++ others) = located path defects ++ located path others :=
  List.map_append

theorem shown_textItems : ∀ {items : List Value} {index : Nat}, Value.haveText items = true →
    ∀ problem ∈ textItems path index items, problem.defect.hasText = true
  | [], _, _ => List.forall_mem_nil _
  | v :: items, _, h => by
    obtain ⟨hv, hitems⟩ := List.forall_mem_cons.1 (Value.haveText_iff.1 h)
    exact List.forall_mem_append.2 ⟨shown_located (shows_text v hv),
      shown_textItems (Value.haveText_iff.2 hitems)⟩

theorem shown_required (htext : (Value.map entries).hasText = true) :
    ∀ problem ∈ requiredProblems entries path, problem.defect.hasText = true := by
  unfold requiredProblems
  split
  · exact List.forall_mem_nil _
  · rename_i v hv
    have hshown := Schema.hasText_of_get? htext hv
    split
    · exact List.forall_mem_append.2 ⟨shown_textItems hshown,
        shown_located (shown_unless hshown)⟩
    · exact shown_located (List.forall_mem_singleton.2 hshown)

/-! ### Listing the problems -/

variable {v : Value} {fault : Fault}

theorem written_eq_error {problems : List Problem} (h : written problems = .error fault)
    (hshown : v.hasText = true → ∀ problem ∈ problems, problem.defect.hasText = true) :
    fault = .badValue ∧ v.hasText = false := by
  unfold written at h
  split at h <;> rename_i hall
  · cases h
  · cases h
    exact ⟨rfl, Bool.eq_false_iff.2 fun htext => hall (List.all_eq_true.2 (hshown htext))⟩

theorem unlisted_of_written {problems : List Problem} (h : written problems = .error fault)
    (hshown : v.hasText = true → ∀ problem ∈ problems, problem.defect.hasText = true) :
    Unlisted v fault := by
  obtain ⟨rfl, htext⟩ := written_eq_error h hshown
  exact .unwritten htext

theorem unlisted_of_patternProblems (h : patternProblems entries path = .error fault) :
    Unlisted (.map entries) fault := by
  unfold patternProblems at h
  split at h
  · rename_i v hv
    rcases bind_eq_error.1 h with h | ⟨defects, hdefects, h⟩
    · cases v with
      | str s =>
        refine .overtaxed ⟨entries, s, .here, hv, ?_⟩
        rcases bind_eq_error.1 h with hs | ⟨_, -, h⟩
        · exact hs
        · cases h
      | _ => cases h
    · refine unlisted_of_written h fun htext => shown_located ?_
      have hshown := Schema.hasText_of_get? htext hv
      cases v with
      | str s =>
        obtain ⟨valid, -, h⟩ := bind_eq_ok.1 hdefects
        cases h
        exact shown_unless hshown
      | _ =>
        cases hdefects
        exact shows_text _ hshown
  · cases h

theorem exists_of_nodesProblems : ∀ {items : List Value} {index : Nat},
    nodesProblems items path index = .error fault →
      ∃ item ∈ items, ∃ place, nodeProblems item place = .error fault
  | [], _, h => by cases h
  | item :: items, _, h => by
    rcases bind_both_eq_error h with h | h
    · exact ⟨item, List.mem_cons_self, _, h⟩
    · obtain ⟨other, hother, hfault⟩ := exists_of_nodesProblems h
      exact ⟨other, List.mem_cons_of_mem item hother, hfault⟩

theorem exists_of_namedProblems : ∀ {properties : Entries},
    namedProblems properties path = .error fault →
      ∃ property ∈ properties, ∃ place, nodeProblems property.2 place = .error fault
  | [], h => by cases h
  | property :: properties, h => by
    rcases bind_both_eq_error h with h | h
    · exact ⟨property, List.mem_cons_self, _, h⟩
    · obtain ⟨other, hother, hfault⟩ := exists_of_namedProblems h
      exact ⟨other, List.mem_cons_of_mem property hother, hfault⟩

/-- What the options are not listed for is due to one of them, or they are no list. -/
theorem unlisted_of_optionProblems (h : optionProblems entries path = .error fault)
    (ih : ∀ items, Schema.get? entries "anyOf" = some (.list items) → ∀ item ∈ items,
      ∀ path, nodeProblems item path = .error fault → Unlisted item fault) :
    Unlisted (.map entries) fault := by
  rw [optionProblems_eq] at h
  cases hv : Schema.get? entries "anyOf" with
  | none => simp [hv] at h
  | some v =>
    rw [hv, Option.map_some, Option.getD_some] at h
    have hshown (htext : (Value.map entries).hasText = true) : v.hasText = true :=
      Schema.hasText_of_get? htext hv
    cases v with
    | list items =>
      obtain ⟨item, hmem, place, hitem⟩ := exists_of_nodesProblems h
      exact (ih items hv item hmem place hitem).of_part (fun _ => .option hv hmem)
        fun htext => Value.hasText_of_mem_list (hshown htext) hmem
    | _ =>
      exact unlisted_of_written h fun htext =>
        shown_located (List.forall_mem_singleton.2 (hshown htext))

theorem unlisted_of_itemProblems (h : itemProblems entries path = .error fault)
    (ih : ∀ item, Schema.get? entries "items" = some item →
      ∀ path, nodeProblems item path = .error fault → Unlisted item fault) :
    Unlisted (.map entries) fault := by
  rw [itemProblems_eq] at h
  cases hv : Schema.get? entries "items" with
  | none => simp [hv] at h
  | some item =>
    rw [hv, Option.map_some, Option.getD_some] at h
    exact (ih item hv path h).of_part (fun _ => .item hv)
      fun htext => Schema.hasText_of_get? htext hv

/-- What the properties are not listed for is due to one of them, or they are no mapping. -/
theorem unlisted_of_propertyProblems (h : propertyProblems entries path = .error fault)
    (ih : ∀ properties, Schema.get? entries "properties" = some (.map properties) →
      ∀ property ∈ properties, ∀ path, nodeProblems property.2 path = .error fault →
        Unlisted property.2 fault) :
    Unlisted (.map entries) fault := by
  rw [propertyProblems_eq] at h
  cases hv : Schema.get? entries "properties" with
  | none => simp [hv] at h
  | some v =>
    rw [hv, Option.map_some, Option.getD_some] at h
    have hshown (htext : (Value.map entries).hasText = true) : v.hasText = true :=
      Schema.hasText_of_get? htext hv
    cases v with
    | map properties =>
      obtain ⟨property, hmem, place, hproperty⟩ := exists_of_namedProblems h
      exact (ih properties hv property hmem place hproperty).of_part (fun _ => .property hv hmem)
        fun htext => Value.hasText_of_mem_map (hshown htext) hmem
    | _ =>
      exact unlisted_of_written h fun htext =>
        shown_located (List.forall_mem_singleton.2 (hshown htext))

end

/-- The problems of a node can be listed unless there is a pattern in it of which there is no
telling, or it has no text. -/
theorem unlisted_of_nodeProblems (v : Value) :
    ∀ {path : Pointer.Path} {fault : Fault}, nodeProblems v path = .error fault →
      Unlisted v fault := by
  induction v using node_induction with
  | map entries hoptions hitems hproperties =>
    intro path fault h
    rw [nodeProblems] at h
    rcases bind_eq_error.1 h with h | ⟨_, -, h⟩
    · refine unlisted_of_written h fun htext => ?_
      simp only [List.forall_mem_append]
      exact ⟨⟨⟨shown_keyword htext _ shows_type, shown_keyword htext _ shows_text⟩,
        shown_keyword htext _ shows_text⟩, shown_keyword htext _ shows_enum⟩
    rcases bind_eq_error.1 h with h | ⟨_, -, h⟩
    · exact unlisted_of_optionProblems h fun items hget item hmem _ => hoptions items hget item hmem
    rcases bind_eq_error.1 h with h | ⟨_, -, h⟩
    · refine unlisted_of_written h fun htext => ?_
      simp only [List.forall_mem_append]
      exact ⟨shown_keyword htext _ shows_count, shown_keyword htext _ shows_count⟩
    rcases bind_eq_error.1 h with h | ⟨_, -, h⟩
    · exact unlisted_of_patternProblems h
    rcases bind_eq_error.1 h with h | ⟨_, -, h⟩
    · refine unlisted_of_written h fun htext => ?_
      simp only [List.forall_mem_append]
      exact ⟨⟨shown_keyword htext _ shows_text, shown_keyword htext _ shows_bound⟩,
        shown_keyword htext _ shows_bound⟩
    rcases bind_eq_error.1 h with h | ⟨_, -, h⟩
    · exact unlisted_of_itemProblems h fun item hget _ => hitems item hget
    rcases bind_eq_error.1 h with h | ⟨_, -, h⟩
    · refine unlisted_of_written h fun htext => ?_
      simp only [List.forall_mem_append]
      exact ⟨shown_keyword htext _ shows_count, shown_keyword htext _ shows_count⟩
    rcases bind_eq_error.1 h with h | ⟨_, -, h⟩
    · exact unlisted_of_propertyProblems h fun properties hget property hmem _ =>
        hproperties properties hget property hmem
    rcases bind_eq_error.1 h with h | ⟨_, -, h⟩
    · refine unlisted_of_written h fun htext => ?_
      simp only [List.forall_mem_append]
      exact ⟨⟨shown_required htext, shown_keyword htext _ shows_boolean⟩, shown_unknown htext _⟩
    rcases bind_eq_error.1 h with h | ⟨_, -, h⟩
    · obtain ⟨htext, rfl⟩ := Value.requireText_eq_error.1 h
      exact .unwritten htext
    · cases h
  | other v hv =>
    intro path fault h
    cases v with
    | map entries => exact absurd rfl (hv entries)
    | _ =>
      exact unlisted_of_written h fun htext =>
        shown_located (List.forall_mem_cons.2 ⟨htext, List.forall_mem_singleton.2 htext⟩)

/-- The problems of a document can be listed unless the document has no text, or there is no telling
of a pattern in its schema. -/
theorem exists_of_problems {entries : Entries} {fault : Fault}
    (h : problems entries = .error fault) :
    (fault = .badValue ∧ (Value.map entries).hasText = false) ∨
      ∃ root, Schema.get? entries "schema" = some root ∧ Overtaxed root fault := by
  rcases bind_eq_error.1 h with h | ⟨_, -, h⟩
  swap
  · cases h
  rcases bind_eq_error.1 h with h | ⟨_, -, h⟩
  · refine .inl (written_eq_error h fun htext => ?_)
    simp only [located_append, List.forall_mem_append]
    exact ⟨⟨⟨⟨shown_located (shown_unless rfl), shown_unknown htext _⟩,
      shown_keyword htext _ shows_text⟩, shown_keyword htext _ shows_text⟩,
      shown_keyword htext _ shows_text⟩
  cases hroot : Schema.get? entries "schema" with
  | none =>
    rw [hroot] at h
    cases h
  | some root =>
    rw [hroot] at h
    rcases bind_eq_error.1 h with h | ⟨_, -, h⟩
    swap
    · cases h
    cases unlisted_of_nodeProblems root h with
    | overtaxed hpattern => exact .inr ⟨root, rfl, hpattern⟩
    | unwritten htext =>
      exact .inl ⟨rfl, Bool.eq_false_iff.2 fun hall =>
        Bool.eq_false_iff.1 htext (Schema.hasText_of_get? hall hroot)⟩

end Grammar

/-! ## Reading the schema -/

theorem Value.Keyed.of_get? {entries : Entries} {keyword : String} {v : Value}
    (h : (Value.map entries).Keyed) (hv : Schema.get? entries keyword = some v) : v.Keyed :=
  (Value.keyed_map_iff.1 h).2 _ (Value.mem_of_lookup_str hv)

namespace Schema

/-- Under the properties of an object that is converted there is a name that is no text. -/
def Misnamed (v name : Value) : Prop :=
  ∃ node properties, Converted v node ∧ get? node "type" = some (.str "object") ∧
    get? node "properties" = some (.map properties) ∧ name ∈ properties.map (·.1) ∧
    ∀ s, name ≠ .str s

/-- A failure of reading that is the node's own, or the name of a property. -/
def Explains (v : Value) (e : ReadFailure) : Prop :=
  (∃ error, e = .node error) ∨ ∃ name, e = .schema (.nameNotText name) ∧ Misnamed v name

/-- If the value has a text, whatever fails in reading it, at any place, is explained. -/
def Explained (v : Value) : Prop :=
  v.hasText = true → ∀ place e, read v place = .error e → Explains v e

theorem Explains.of_converted {v w : Value} {e : ReadFailure} (h : Explains w e)
    (hv : ∀ node, Converted w node → Converted v node) : Explains v e := by
  rcases h with hnode | ⟨name, rfl, node, properties, hnode, hname⟩
  · exact .inl hnode
  · exact .inr ⟨name, rfl, node, properties, hv node hnode, hname⟩

/-- Fields whose names differ are refused only for a name that is no text. -/
theorem nameNotText_of_checkedFields : ∀ {fields : List (Value × Schema)} {seen : List String}
    {e : SchemaFailure}, Value.KeysDiffer (fields.map (·.1)) →
      (∀ s ∈ seen, .str s ∉ fields.map (·.1)) → checkedFields seen fields = .error e →
        ∃ name ∈ fields.map (·.1), (∀ s, name ≠ .str s) ∧ e = .raise (.nameNotText name)
  | [], _, _, _, _, h => by cases h
  | (name, node) :: fields, seen, e, hkeys, hseen, h => by
    obtain ⟨hname, hothers⟩ := List.pairwise_cons.1 hkeys
    cases name with
    | str s =>
      have hnew : seen.contains s = false := by
        simpa using fun hs => hseen s hs List.mem_cons_self
      rw [checkedFields, hnew, if_neg Bool.false_ne_true] at h
      rcases bind_eq_error.1 h with hrest | ⟨_, -, h⟩
      · have hseen' : ∀ t ∈ s :: seen, .str t ∉ fields.map (·.1) := by
          refine List.forall_mem_cons.2 ⟨fun hs => ?_, fun t ht hmem => ?_⟩
          · simpa using hname (.str s) hs
          · exact hseen t ht (List.mem_cons_of_mem _ hmem)
        obtain ⟨name, hmem, herror⟩ := nameNotText_of_checkedFields hothers hseen' hrest
        exact ⟨name, List.mem_cons_of_mem _ hmem, herror⟩
      · cases h
    | _ =>
      refine ⟨_, List.mem_cons_self, fun s hs => ?_, ?_⟩
      · cases hs
      · exact (Except.error.inj h).symm

theorem nameNotText_of_objectOf {fields : List (Value × Schema)} {flag : Value × Schema → Schema}
    {strict : Value} {e : SchemaFailure} (hkeys : Value.KeysDiffer (fields.map (·.1)))
    (h : objectOf (fields.map fun field => (field.1, flag field)) strict = .error e) :
    ∃ name ∈ fields.map (·.1), (∀ s, name ≠ .str s) ∧ e = .raise (.nameNotText name) := by
  have hnames : (fields.map fun field => (field.1, flag field)).map (·.1) = fields.map (·.1) := by
    rw [List.map_map]
    rfl
  rw [← hnames] at hkeys ⊢
  rcases bind_eq_error.1 h with h | ⟨_, -, h⟩
  · exact nameNotText_of_checkedFields hkeys (List.forall_mem_nil _) h
  · cases h

section
variable {entries : Entries} {place : String} {e : ReadFailure}

theorem texts_str (names : List String) : texts (names.map .str) = .ok names := by
  induction names with
  | nil => rfl
  | cons s names ih => rw [List.map_cons, texts, ih, ok_bind]

/-- Required names that are texts are refused only for not being declared. -/
theorem undeclared_of_declaredNames {properties : Entries} {names : List String}
    (hp : (get? entries "properties").getD (.map []) = .map properties)
    (hr : (get? entries "required").getD (.list []) = .list (names.map .str))
    (h : declaredNames place entries = .error e) : ∃ error, e = .node error := by
  have hcontains : ∀ name ∈ names.map Value.str, (do
      let declared ← (Value.map properties).contains name
      .ok !declared : Except Fault Bool) = .ok !(Value.lookup name properties).isSome := by
    simp [Value.contains, Value.isKey]
  simp only [declaredNames, hp, hr, Value.elements, ReadFailure.ofFault, ok_bind,
    filterM_of_all_ok hcontains, List.filter_map, texts_str] at h
  split at h
  · cases h
  · exact ⟨_, (Except.error.inj h).symm⟩

end

/-- An object with a text is refused for a name that is not declared, for a property that is not
read or for a name that is no text. -/
theorem explained_object {entries : Entries} (shaped : Shaped entries)
    (hkeys : (Value.map entries).Keyed) (hany : get? entries "anyOf" = none)
    (hconst : get? entries "const" = none) (henum : get? entries "enum" = none)
    (htype : get? entries "type" = some (.str "object"))
    (hread : ∀ properties, get? entries "properties" = some (.map properties) →
      ∀ property ∈ properties, Explained property.2) :
    Explained (.map entries) := by
  intro htext place e h
  obtain ⟨names, hr⟩ := names_of_shaped shaped
  obtain ⟨properties, hp⟩ := properties_of_shaped shaped
  rw [read_object place hany hconst henum htype hp] at h
  rcases bind_eq_error.1 h with h | ⟨required, -, h⟩
  · exact .inl (undeclared_of_declaredNames hp hr h)
  cases hv : get? entries "properties" with
  | none =>
    rw [hv] at hp
    cases hp
    cases h
  | some v =>
    rw [hv] at hp
    obtain rfl : v = .map properties := hp
    have hshown := Value.entriesHaveText_iff.1 (hasText_of_get? htext hv)
    rcases bind_eq_error.1 h with h | ⟨fields, hfields, h⟩
    · rcases exists_child_of_readFields h with ⟨-, property, hproperty, hname⟩ |
        ⟨i, name, w, hw, hproperty, -⟩
      · exact absurd (hshown property hproperty).1 (Bool.eq_false_iff.1 hname)
      have hmem := List.mem_of_getElem? hw
      exact (hread properties hv (name, w) hmem (hshown _ hmem).2 _ e hproperty).of_converted
        fun _ => .property htype hv hmem
    · have hdiffer := (Value.keyed_map_iff.1 (hkeys.of_get? hv)).1
      rw [← readFields_names hfields] at hdiffer
      obtain ⟨failure, hfailure, rfl⟩ := ofSchema_eq_error.1 h
      obtain ⟨name, hname, hother, rfl⟩ := nameNotText_of_objectOf hdiffer hfailure
      rw [readFields_names hfields] at hname
      obtain ⟨property, hproperty, rfl⟩ := List.mem_map.1 hname
      have hraise : SchemaFailure.raise (.nameNotText property.1) =
          .schema (.nameNotText property.1) := if_pos (hshown property hproperty).1
      exact .inr ⟨property.1, by rw [hraise]; rfl, entries, properties, .here, htype, hv, hname,
        hother⟩

/-- Why a node whose keys differ is not read. -/
theorem explained_of_node {v : Value} (h : Node v) (hkeys : v.Keyed) : Explained v := by
  induction h with
  | @mk entries shaped options items properties ihoptions ihitems ihproperties =>
    cases nodeKind_of_shaped shaped with
    | @anyOf items' hany htype =>
      intro htext place e h
      have hitems := Value.keyed_list_iff.1 (hkeys.of_get? hany)
      rw [read_anyOf place hany] at h
      rcases bind_eq_error.1 h with h | ⟨_, -, h⟩
      · obtain ⟨i, item, hi, hread, -⟩ := exists_child_of_readAll h
        have hmem := List.mem_of_getElem? hi
        have hitem := ihoptions items' hany item hmem (hitems item hmem)
          (Value.hasText_of_mem_list (hasText_of_get? htext hany) hmem)
        exact (hitem _ e hread).of_converted fun _ => .option hany hmem
      · cases h
    | const hany hconst htype =>
      intro _ place e h
      rw [read_const place hany hconst] at h
      cases h
    | enum hany hconst henum htype =>
      intro _ place e h
      rw [read_enum place hany hconst henum] at h
      cases h
    | @primitive kind hany hconst henum htype =>
      intro _ place e h
      rw [read_primitive place hany hconst henum htype] at h
      cases h
    | array hany hconst henum htype =>
      intro htext place e h
      rw [read_array place hany hconst henum htype] at h
      cases hitem : get? entries "items" with
      | none =>
        rw [hitem] at h
        exact .inl ⟨_, (Except.error.inj h).symm⟩
      | some item =>
        rw [hitem] at h
        rcases bind_eq_error.1 h with h | ⟨_, -, h⟩
        · exact (ihitems item hitem (hkeys.of_get? hitem) (hasText_of_get? htext hitem) _ e
            h).of_converted fun _ => .item htype hitem
        · cases h
    | object hany hconst henum htype =>
      refine explained_object shaped hkeys hany hconst henum htype
        fun properties' hget property hmem => ?_
      have hproperty := (Value.keyed_map_iff.1 (hkeys.of_get? hget)).2 property hmem
      exact ihproperties properties' hget property hmem hproperty

end Schema

/-! ## Versions -/

namespace Version

/-- A version with a number of more digits than are read. -/
def Overlong (s : String) : Prop := ∃ version, Written s.toList version ∧ ¬ FewDigits s.toList

theorem parse_eq_fault {s : String} {fault : Fault} (h : parse s = .error (.fault fault)) :
    fault = .badValue ∧ Overlong s := by
  unfold parse at h
  split at h
  · rename_i version hversion
    split at h <;> rename_i hall
    · cases h
    · cases h
      refine ⟨rfl, version, ofChars?_eq_some_iff.1 hversion, fun hfew => hall ?_⟩
      simpa [FewDigits] using hfew
  · cases h

/-- A declared version faults if it has too many digits, or is no text and cannot be shown. -/
theorem ofValue_eq_fault {v : Value} {fault : Fault} (h : ofValue v = .error (.fault fault)) :
    fault = .badValue ∧ (v.hasText = false ∨ ∃ s, v = .str s ∧ Overlong s) := by
  unfold ofValue at h
  split at h
  · rename_i s
    obtain ⟨rfl, hs⟩ := parse_eq_fault h
    exact ⟨rfl, .inr ⟨s, rfl, hs⟩⟩
  · unfold VersionFailure.raise at h
    split at h <;> rename_i hshown
    · cases h
    · cases h
      exact ⟨rfl, .inl (Bool.eq_false_iff.2 hshown)⟩

theorem gate_eq_fault {v : Value} {fault : Fault} (h : gate v = .error (.fault fault)) :
    fault = .badValue ∧ (v.hasText = false ∨ ∃ s, v = .str s ∧ Overlong s) := by
  unfold gate at h
  split at h
  · cases h
  rcases bind_eq_error.1 h with h | ⟨version, hversion, h⟩
  · exact ofValue_eq_fault h
  have htext : version.hasText = true := by
    unfold ofValue at hversion
    split at hversion
    · exact hasText_of_parse hversion
    · cases hversion
  split at h
  · have hraise : VersionFailure.raise (.incompatible version) =
        .version (.incompatible version) := if_pos htext
    cases hraise.symm.trans (Except.error.inj h)
  · split at h <;> cases h

end Version

/-! ## Documents -/

namespace Document

/-- How a value may fail to be a document with something else than an error of the document. -/
inductive Escapes (entries : Entries) : DocumentFailure → Prop
  | version {s : String} : Schema.get? entries Version.fieldName = some (.str s) →
      Version.Overlong s → Escapes entries (.fault .badValue)
  | lookup {s : String} {version : Version} :
      Schema.get? entries Version.fieldName = some (.str s) → Version.Written s.toList version →
      Disk.nameLimit < version.text.length → Escapes entries (.fault .nameTooLong)
  | unwritten : (Value.map entries).hasText = false → Escapes entries (.fault .badValue)
  | pattern {root : Value} {fault : Fault} : Schema.get? entries "schema" = some root →
      Grammar.Overtaxed root fault → Escapes entries (.fault fault)
  | name {root name : Value} : Schema.get? entries "schema" = some root →
      Schema.Misnamed root name → Escapes entries (.schema (.nameNotText name))

/-- A failure is an error of the document, or one of the few that are not. -/
def Accounts (entries : Entries) (e : DocumentFailure) : Prop :=
  (∃ error, e = .document error) ∨ Escapes entries e

theorem get?_of_getD {entries : Entries} {keyword s : String}
    (h : Schema.getD entries keyword = .str s) : Schema.get? entries keyword = some (.str s) := by
  unfold Schema.getD at h
  cases hget : Schema.get? entries keyword with
  | none =>
    rw [hget] at h
    cases h
  | some v =>
    rw [hget, Option.getD_some] at h
    rw [h]

section
variable {entries : Entries} {source : String} {e : DocumentFailure}

theorem accounts_of_header (h : header (.map entries) source = .error e) : Accounts entries e := by
  simp only [header] at h
  split at h
  · cases h
  · exact .inl ⟨_, (Except.error.inj h).symm⟩
  rename_i fault hfault
  obtain rfl := Except.error.inj h
  obtain ⟨rfl, htext | ⟨s, hs, hlong⟩⟩ : fault = .badValue ∧
      ((Schema.getD entries Version.fieldName).hasText = false ∨
        ∃ s, Schema.getD entries Version.fieldName = .str s ∧ Version.Overlong s) := by
    rcases bind_eq_error.1 hfault with hgate | ⟨warning, hgate, hfault⟩
    · exact Version.gate_eq_fault hgate
    -- what passes the gate has a normal form
    rcases Version.gate_eq_ok.1 hgate with ⟨hnull, -⟩ | ⟨s, version, hs, hversion, -⟩
    · rw [hnull] at hfault
      cases hfault
    · rw [hs, normalVersion_of_parse hversion] at hfault
      cases hfault
  · refine .inr (.unwritten (Bool.eq_false_iff.2 fun hall => ?_))
    exact Bool.eq_false_iff.1 htext (Schema.hasText_getD hall _)
  · exact .inr (.version (get?_of_getD hs) hlong)

theorem accounts_of_ofEntries {header : Header} (hkeys : (Value.map entries).Keyed)
    (h : ofEntries header entries source = .error e) : Accounts entries e := by
  rcases bind_eq_error.1 h with h | ⟨problems, hproblems, h⟩
  · obtain ⟨fault, hfault, rfl⟩ := mapError_eq_error.1 h
    rcases Grammar.exists_of_problems hfault with ⟨rfl, htext⟩ | ⟨root, hroot, hpattern⟩
    · exact .inr (.unwritten htext)
    · exact .inr (.pattern hroot hpattern)
  split at h
  · exact .inl ⟨_, (Except.error.inj h).symm⟩
  · rename_i hempty
    obtain rfl : problems = [] := by simpa using hempty
    obtain ⟨hwell, htext⟩ := Grammar.problems_eq_nil_iff.1 (mapError_eq_ok.1 hproblems)
    obtain ⟨root, hroot, hnode⟩ := hwell.schema
    rw [Grammar.NodeHasText, Schema.getD, hroot, Option.getD_some] at htext
    rw [Schema.getD, hroot, Option.getD_some] at h
    rcases bind_eq_error.1 h with h | ⟨_, -, h⟩
    · obtain ⟨failure, hread, rfl⟩ := mapError_eq_error.1 h
      rcases Schema.explained_of_node hnode (hkeys.of_get? hroot) htext _ failure hread with
        ⟨error, rfl⟩ | ⟨name, rfl, hname⟩
      · exact .inl ⟨_, rfl⟩
      · exact .inr (.name hroot hname)
    · cases h

end

/-- Why a value whose keys differ is no document. -/
theorem accounts_of_parse {v : Value} {source : String} {e : DocumentFailure} (hkeys : v.Keyed)
    (h : parse v source = .error e) :
    (∃ error, e = .document error) ∨ ∃ entries, v = .map entries ∧ Escapes entries e := by
  rcases bind_eq_error.1 h with h | ⟨⟨found, entries⟩, hheader, hfail⟩
  · cases v with
    | map entries => exact (accounts_of_header h).imp_right fun hescapes => ⟨entries, rfl, hescapes⟩
    | _ => exact .inl ⟨_, (Except.error.inj h).symm⟩
  obtain ⟨rfl, hversion⟩ := header_eq_ok.1 hheader
  rcases bind_eq_error.1 hfail with hfail | ⟨resolved, -, hfail⟩
  · by_cases hf : found.Findable
    · cases (grammarVersion_ok hheader hf).symm.trans hfail
    · cases (grammarVersion_error hheader hf).symm.trans hfail
      obtain ⟨-, rfl⟩ | ⟨s, version, hs, hversion, -, rfl⟩ := hversion
      · exact absurd (findable_undeclared _) hf
      · exact .inr ⟨entries, rfl, .lookup (get?_of_getD hs) (Version.parse_eq_ok_iff.1 hversion).1
          (Nat.lt_of_not_le hf)⟩
  · exact (accounts_of_ofEntries hkeys hfail).imp_right fun hescapes => ⟨entries, rfl, hescapes⟩

end Document

/-- A loaded value is a document or is refused with an error of the document, unless it is a mapping
of which one of the following holds. Its version has more digits than are read or is too long to be
looked up, it has no text and is to be shown, an object that is converted has a property whose name
is no text, which is then named, or of a pattern in a node that is checked there is no telling, with
the fault of that pattern. -/
theorem Loader.parse_fails_with {text : List Char} {v : Value} (h : Yaml.load text = .ok v)
    (source : String) (loader : Loader) :
    (∃ document, (Loader.parse v source).outcome loader = .ok document) ∨
    (∃ error, (Loader.parse v source).outcome loader = .error (.document error)) ∨
    ∃ entries e, v = .map entries ∧ (Loader.parse v source).outcome loader = .error e ∧
      Document.Escapes entries e := by
  rw [Loader.parse_outcome]
  cases houtcome : Document.parse v source with
  | ok document => exact .inl ⟨document, rfl⟩
  | error e =>
    refine .inr ?_
    rcases Document.accounts_of_parse (Yaml.keyed_of_load h) houtcome with
      ⟨error, rfl⟩ | ⟨entries, rfl, hescapes⟩
    · exact .inl ⟨error, rfl⟩
    · exact .inr ⟨entries, e, rfl, rfl, hescapes⟩

/-- A schema of objects with a property whose name is a number. -/
def numberNamedText : List Char :=
  "schema: {type: object, properties: {1: {type: string}}}".toList

/-- A schema of strings with a pattern that repeats more often than can be counted. -/
def overtaxingText : List Char :=
  "schema:\n  type: string\n  pattern: a\x7b99999999999\x7d\n".toList

/-- A schema of arrays of what the schema itself is of. -/
def nestedText : List Char := "schema: &node {type: array, items: *node}".toList

/-- The number that is refused as a name. -/
def refusedNumber? : Except DocumentFailure Document → Option Int
  | .error (.schema (.nameNotText (.int n))) => some n
  | _ => none

theorem refusedNumber?_eq_some {outcome : Except DocumentFailure Document} {n : Int}
    (h : refusedNumber? outcome = some n) : outcome = .error (.schema (.nameNotText (.int n))) := by
  unfold refusedNumber? at h
  split at h
  · rw [Option.some.inj h]
  · cases h

def faultOf? : Except DocumentFailure Document → Option Fault
  | .error (.fault fault) => some fault
  | _ => none

theorem faultOf?_eq_some {outcome : Except DocumentFailure Document} {fault : Fault}
    (h : faultOf? outcome = some fault) : outcome = .error (.fault fault) := by
  unfold faultOf? at h
  split at h
  · rw [Option.some.inj h]
  · cases h

theorem numberNamed_refused : ∃ v, Yaml.load numberNamedText = .ok v ∧
    (Loader.parse v "objects.yaml").outcome {} = .error (.schema (.nameNotText (.int 1))) := by
  have hrun : (Yaml.load numberNamedText).toOption.bind (fun v =>
      refusedNumber? ((Loader.parse v "objects.yaml").outcome {})) = some 1 := by decide +kernel
  cases hload : Yaml.load numberNamedText with
  | error e =>
    rw [hload] at hrun
    cases hrun
  | ok v =>
    rw [hload] at hrun
    exact ⟨v, rfl, refusedNumber?_eq_some hrun⟩

theorem overtaxing_refused : ∃ v, Yaml.load overtaxingText = .ok v ∧
    (Loader.parse v "strings.yaml").outcome {} = .error (.fault .tooLarge) := by
  have hrun : (Yaml.load overtaxingText).toOption.bind (fun v =>
      faultOf? ((Loader.parse v "strings.yaml").outcome {})) = some .tooLarge := by decide +kernel
  cases hload : Yaml.load overtaxingText with
  | error e =>
    rw [hload] at hrun
    cases hrun
  | ok v =>
    rw [hload] at hrun
    exact ⟨v, rfl, faultOf?_eq_some hrun⟩

theorem nested_refused : Yaml.load nestedText = .error (.fault .selfContaining) := by
  have hrun : (Yaml.read nestedText).toOption.any
      (fun found => found.2 && (Yaml.valueOf found.1).isOk) = true := by decide +kernel
  obtain ⟨⟨root, cyclic⟩, hread, hrun⟩ := exists_of_any_toOption hrun
  obtain ⟨rfl, hvalue⟩ := Bool.and_eq_true_iff.1 hrun
  cases hv : Yaml.valueOf root with
  | error e =>
    rw [hv] at hvalue
    cases hvalue
  | ok v => exact Yaml.load_eq_selfContaining hread hv

/-- The name that is refused is one of an object that is converted. -/
theorem Loader.parse_fails_with_numberNamed : ∃ v entries root,
    Yaml.load numberNamedText = .ok v ∧ v = .map entries ∧
      Schema.get? entries "schema" = some root ∧ Schema.Misnamed root (.int 1) := by
  obtain ⟨v, hload, hrefused⟩ := numberNamed_refused
  rcases Loader.parse_fails_with hload "objects.yaml" {} with
    ⟨document, h⟩ | ⟨error, h⟩ | ⟨entries, e, hv, h, hescapes⟩
  · cases hrefused.symm.trans h
  · cases hrefused.symm.trans h
  · obtain rfl := Except.error.inj (hrefused.symm.trans h)
    cases hescapes with
    | name hroot hname => exact ⟨v, entries, _, hload, hv, hroot, hname⟩

/-- Neither of two values is accepted, and neither is refused with an error of the document. A third
text is not even that of a value that could be checked to the end. -/
theorem Loader.parse_leaks :
    (∃ v, Yaml.load numberNamedText = .ok v ∧
      (∀ document, (Loader.parse v "objects.yaml").outcome {} ≠ .ok document) ∧
      ∀ error, (Loader.parse v "objects.yaml").outcome {} ≠ .error (.document error)) ∧
    (∃ v, Yaml.load overtaxingText = .ok v ∧
      (∀ document, (Loader.parse v "strings.yaml").outcome {} ≠ .ok document) ∧
      ∀ error, (Loader.parse v "strings.yaml").outcome {} ≠ .error (.document error)) ∧
    Yaml.load nestedText = .error (.fault .selfContaining) := by
  obtain ⟨v, hv, hname⟩ := numberNamed_refused
  obtain ⟨w, hw, hpattern⟩ := overtaxing_refused
  refine ⟨⟨v, hv, ?_⟩, ⟨w, hw, ?_⟩, nested_refused⟩
  · rw [hname]
    exact ⟨nofun, nofun⟩
  · rw [hpattern]
    exact ⟨nofun, nofun⟩

end Conform
