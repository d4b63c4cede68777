import Conform.Document.Grammar
import Conform.Proofs.Outcome
import Conform.Proofs.Schema.Keywords
import Conform.Proofs.Value.Json

/-!
# Nodes

`Grammar.Node` says which values are nodes: the keywords of a node are known, exactly one of them
decides its kind, and the value of each has its shape (`Fits`); what stands under `anyOf`, `items`
and `properties` are nodes again, whatever the kind. A value has no problems where a node is
expected if and only if it is one and has a text (`nodeProblems_eq_nil_iff`).

The problems of a keyword are found one by one, so the lemmas here say of each list of defects or
problems when it is empty.
-/

namespace Conform.Grammar

/-! ## Shapes -/

/-- If the keyword is there, its value has the property. -/
def Given (entries : Entries) (keyword : String) (p : Value → Prop) : Prop :=
  ∀ v, Schema.get? entries keyword = some v → p v

def IsText (v : Value) : Prop := ∃ s, v = .str s

def IsTypeName (v : Value) : Prop := ∃ name ∈ typeNames, v = .str name

/-- A number from 0 on without a fractional part, an integer or not. -/
def IsCount (v : Value) : Prop := ∃ n : Nat, v.number? = some (n : Rat)

/-- A number; doubles need not be finite. -/
def IsBound (v : Value) : Prop := (∃ n, v = .int n) ∨ ∃ x, v = .float x

def IsPattern (v : Value) : Prop := ∃ s program, v = .str s ∧ Pattern.compile s = .ok program

def IsChoice (v : Value) : Prop := ∃ first others, v = .list (first :: others)

/-- A list of strings that differ from each other. -/
def IsNames (v : Value) : Prop := ∃ names : List String, names.Nodup ∧ v = .list (names.map .str)

def IsFlag (v : Value) : Prop := ∃ b, v = .bool b

def IsList (v : Value) : Prop := ∃ items, v = .list items

def IsMapping (v : Value) : Prop := ∃ entries, v = .map entries

/-- The keywords that decide the kind of a node. -/
def kindKeywords : List String := ["type", "const", "enum", "anyOf"]

/-- The shape of a keyword's value, nodes below it aside. -/
def Fits (keyword : String) : Value → Prop :=
  match keyword with
  | "type" => IsTypeName
  | "title" => IsText
  | "description" => IsText
  | "enum" => IsChoice
  | "anyOf" => IsList
  | "minLength" => IsCount
  | "maxLength" => IsCount
  | "pattern" => IsPattern
  | "format" => IsText
  | "minimum" => IsBound
  | "maximum" => IsBound
  | "minItems" => IsCount
  | "maxItems" => IsCount
  | "properties" => IsMapping
  | "required" => IsNames
  | "additionalProperties" => IsFlag
  | _ => fun _ => True

/-- The keywords of a node are known, each fits, and one of them decides the kind. -/
structure Shaped (entries : Entries) : Prop where
  known : ∀ key ∈ entries.map (·.1), ∃ keyword ∈ nodeKeywords, key = .str keyword
  kind : ∃! keyword, keyword ∈ kindKeywords ∧ (Schema.get? entries keyword).isSome = true
  fits : ∀ keyword, Given entries keyword (Fits keyword)

inductive Node : Value → Prop
  | mk {entries : Entries} (shaped : Shaped entries)
      (options : ∀ items, Schema.get? entries "anyOf" = some (.list items) →
        ∀ item ∈ items, Node item)
      (items : ∀ item, Schema.get? entries "items" = some item → Node item)
      (properties : ∀ properties, Schema.get? entries "properties" = some (.map properties) →
        ∀ property ∈ properties, Node property.2) :
      Node (.map entries)

/-! ## Defects -/

@[simp] theorem defectUnless_eq_nil_iff {holds : Bool} {defect : Defect} :
    defectUnless holds defect = [] ↔ holds = true := by
  cases holds <;> simp [defectUnless]

@[simp] theorem located_eq_nil_iff {path : Pointer.Path} {defects : List Defect} :
    located path defects = [] ↔ defects = [] := List.map_eq_nil_iff

theorem textDefects_eq_nil_iff {v : Value} : textDefects v = [] ↔ IsText v := by
  cases v <;> simp [textDefects, IsText, Value.isString]

theorem booleanDefects_eq_nil_iff {v : Value} : booleanDefects v = [] ↔ IsFlag v := by
  cases v <;> simp [booleanDefects, IsFlag, Value.isBoolean]

theorem boundDefects_eq_nil_iff {v : Value} : boundDefects v = [] ↔ IsBound v := by
  cases v <;> simp [boundDefects, IsBound, isNumeric]

theorem enumDefects_eq_nil_iff {v : Value} : enumDefects v = [] ↔ IsChoice v := by
  cases v with
  | list items => cases items <;> simp [enumDefects, IsChoice]
  | _ => simp [enumDefects, IsChoice]

theorem typeDefects_eq_nil_iff {v : Value} : typeDefects v = [] ↔ IsTypeName v := by
  simp [typeDefects, IsTypeName, Value.str_same_iff]

theorem isIntegral_iff {v : Value} :
    isIntegral v = true ↔ ∃ n : Int, v.number? = some (n : Rat) := by
  cases v with
  | int n => simp [isIntegral, Value.number?]
  | float x => simp only [isIntegral, Option.isSome_iff_exists, Value.toInt?_eq_some_iff]
  | _ => simp [isIntegral, Value.number?]

theorem countDefects_eq_nil_iff {v : Value} : countDefects v = [] ↔ IsCount v := by
  have hbelow {n : Int} (hn : v.number? = some (n : Rat)) :
      (isNumeric v && v.isBelow (.int 0)) = true ↔ n < 0 := by
    have hnumeric : isNumeric v = true := by cases v <;> first | rfl | cases hn
    rw [hnumeric, Bool.true_and, Value.isBelow_iff hn rfl, Rat.intCast_lt_intCast]
  simp only [countDefects, List.append_eq_nil_iff, defectUnless_eq_nil_iff, isIntegral_iff,
    Bool.not_eq_true', ← Bool.not_eq_true]
  constructor
  · rintro ⟨⟨n, hn⟩, h⟩
    rw [hbelow hn] at h
    exact ⟨n.toNat, by rw [hn, ← Rat.intCast_natCast, Int.toNat_of_nonneg (by omega)]⟩
  · rintro ⟨n, hn⟩
    have hint : v.number? = some ((n : Int) : Rat) := by rw [hn, Rat.intCast_natCast]
    exact ⟨⟨n, hint⟩, by rw [hbelow hint]; omega⟩

theorem patternDefects_eq_nil_iff {v : Value} : patternDefects v = .ok [] ↔ IsPattern v := by
  cases v with
  | str s =>
    cases h : Pattern.compile s with
    | ok program => simp [patternDefects, Format.isPattern, IsPattern, h, defectUnless]
    | error e => cases e <;> simp [patternDefects, Format.isPattern, IsPattern, h, defectUnless]
  | _ => simp [patternDefects, IsPattern, textDefects, Value.isString, defectUnless]

/-! ## Names -/

theorem adjacentDiffer_iff : ∀ {names : List String}, names.Pairwise (· ≤ ·) →
    (adjacentDiffer (names.map .str) = true ↔ names.Nodup)
  | [], _ => by simp [adjacentDiffer]
  | [_], _ => by simp [adjacentDiffer]
  | s :: t :: names, h => by
    obtain ⟨hs, ht⟩ := List.pairwise_cons.1 h
    have ih := adjacentDiffer_iff ht
    simp only [List.map_cons] at ih
    rw [List.map_cons, List.map_cons, adjacentDiffer, Bool.and_eq_true, ih,
      List.nodup_cons (a := s)]
    refine and_congr_left fun _ => ?_
    simp only [Value.deepEqual, Bool.not_eq_true', beq_eq_false_iff_ne, List.mem_cons, not_or]
    refine ⟨fun hne => ⟨hne, fun hmem => hne ?_⟩, And.left⟩
    exact String.le_antisymm (hs t List.mem_cons_self) ((List.pairwise_cons.1 ht).1 s hmem)

/-- Names are compared after sorting, when equal ones are next to each other. -/
theorem areUnique_str_iff {names : List String} :
    areUnique (names.map .str) = true ↔ names.Nodup := by
  have hcomparable : ∀ names : List String, Value.areComparable (names.map .str) = true := by
    intro names
    induction names with
    | nil => rfl
    | cons s names ih => simp [Value.areComparable, Value.precedes?, ih]
  have hboolean : (names.map Value.str).any Value.isBoolean = false := by
    simp [Value.isBoolean]
  have hsort : (names.map Value.str).mergeSort (fun v w => Value.precedes? w v != some true) =
      (names.mergeSort fun s t => decide (s ≤ t)).map .str := by
    refine (List.map_mergeSort fun s _ t _ => ?_).symm
    by_cases h : t < s <;> simp [Value.precedes?, h, ← String.not_lt]
  have hsorted : (names.mergeSort fun s t => decide (s ≤ t)).Pairwise (· ≤ ·) := by
    have h : (names.mergeSort fun s t => decide (s ≤ t)).Pairwise
        fun s t => decide (s ≤ t) = true :=
      List.pairwise_mergeSort (by simpa using fun _ _ _ => String.le_trans)
        (by simpa using String.le_total) names
    simpa using h
  rw [areUnique, hboolean, hcomparable, if_neg (by simp), hsort, adjacentDiffer_iff hsorted,
    List.nodup_mergeSort]

/-! ## Problems of single keywords -/

theorem written_eq_ok {problems result : List Problem} : written problems = .ok result ↔
    (∀ problem ∈ problems, problem.defect.hasText = true) ∧ problems = result := by
  unfold written
  split <;> rename_i h <;> rw [List.all_eq_true] at h
  · rw [Except.ok.injEq, and_iff_right h]
  · exact iff_of_false nofun fun hall => h hall.1

@[simp] theorem written_eq_nil_iff {problems : List Problem} :
    written problems = .ok [] ↔ problems = [] := by
  rw [written_eq_ok]
  exact ⟨And.right, fun h => ⟨h ▸ nofun, h⟩⟩

section
variable {entries : Entries} {keyword : String} {path : Pointer.Path}

theorem keywordProblems_eq_nil_iff {defects : Value → List Defect} {p : Value → Prop}
    (h : ∀ {v}, defects v = [] ↔ p v) :
    keywordProblems entries keyword path defects = [] ↔ Given entries keyword p := by
  unfold keywordProblems Given
  cases Schema.get? entries keyword <;> simp [h]

theorem patternProblems_eq_nil_iff :
    patternProblems entries path = .ok [] ↔ Given entries "pattern" IsPattern := by
  unfold patternProblems Given
  cases Schema.get? entries "pattern" with
  | none => simp
  | some v => simp [bind_eq_ok, patternDefects_eq_nil_iff]

theorem textItems_eq_nil_iff : ∀ {items : List Value} {index : Nat},
    textItems path index items = [] ↔ ∀ item ∈ items, IsText item
  | [], _ => by simp [textItems]
  | v :: items, index => by
    rw [textItems, List.append_eq_nil_iff, located_eq_nil_iff, textDefects_eq_nil_iff,
      textItems_eq_nil_iff, List.forall_mem_cons]

theorem requiredProblems_eq_nil_iff :
    requiredProblems entries path = [] ↔ Given entries "required" IsNames := by
  unfold requiredProblems Given
  cases Schema.get? entries "required" with
  | none => simp
  | some v =>
    cases v with
    | list items =>
      simp only [List.append_eq_nil_iff, textItems_eq_nil_iff, IsText, Value.forall_str_iff,
        located_eq_nil_iff, defectUnless_eq_nil_iff, Option.some.injEq, forall_eq', IsNames,
        Value.list.injEq]
      constructor
      · rintro ⟨⟨names, rfl⟩, hunique⟩
        exact ⟨names, areUnique_str_iff.1 hunique, rfl⟩
      · rintro ⟨names, hnodup, rfl⟩
        exact ⟨⟨names, rfl⟩, areUnique_str_iff.2 hnodup⟩
    | _ => simp [IsNames]

theorem unknownDefects_eq_nil_iff {known : List String} : unknownDefects known entries = [] ↔
    ∀ key ∈ entries.map (·.1), ∃ keyword ∈ known, key = .str keyword := by
  have hsort (keys : List Value) (le : Value → Value → Bool) :
      (keys.mergeSort le).isEmpty = true ↔ keys = [] := by
    rw [List.isEmpty_iff_length_eq_zero, List.length_mergeSort, List.length_eq_zero_iff]
  simp only [unknownDefects, defectUnless_eq_nil_iff, unknownKeys, hsort, List.filter_eq_nil_iff,
    Bool.not_eq_true', Bool.not_eq_false, Value.isAmong_str_iff]

theorem length_filter_eq_one_iff {p : String → Bool} {names : List String} (hn : names.Nodup) :
    (names.filter p).length = 1 ↔ ∃! name, name ∈ names ∧ p name = true := by
  simp only [← List.mem_filter, List.length_eq_one_iff]
  constructor
  · rintro ⟨name, h⟩
    exact ⟨name, by simp [h], by simp [h]⟩
  · rintro ⟨name, hmem, hunique⟩
    refine ⟨name, ?_⟩
    have hnodup := hn.filter p
    cases h : names.filter p with
    | nil => simp [h] at hmem
    | cons first rest =>
      rw [h] at hnodup hunique
      obtain rfl := hunique first List.mem_cons_self
      suffices hrest : rest = [] by rw [hrest]
      refine List.eq_nil_iff_forall_not_mem.2 fun other hother => ?_
      obtain rfl := hunique other (List.mem_cons_of_mem _ hother)
      exact (List.nodup_cons.1 hnodup).1 hother

theorem alternativeDefects_eq_nil_iff {v : Value} : alternativeDefects v entries = [] ↔
    ∃! keyword, keyword ∈ kindKeywords ∧ (Schema.get? entries keyword).isSome = true := by
  rw [← length_filter_eq_one_iff (by decide)]
  simp [alternativeDefects, kindKeywords]

end

/-! ## Problems of nodes -/

theorem optionProblems_eq (entries : Entries) (path : Pointer.Path) :
    optionProblems entries path =
      ((Schema.get? entries "anyOf").map fun v => nodeListProblems v path).getD (.ok []) :=
  Schema.eq_of_descent (f := fun entries => optionProblems entries path) rfl (fun _ _ _ => rfl)
    entries

theorem itemProblems_eq (entries : Entries) (path : Pointer.Path) :
    itemProblems entries path =
      ((Schema.get? entries "items").map fun v => nodeProblems v path).getD (.ok []) :=
  Schema.eq_of_descent (f := fun entries => itemProblems entries path) rfl (fun _ _ _ => rfl)
    entries

theorem propertyProblems_eq (entries : Entries) (path : Pointer.Path) :
    propertyProblems entries path =
      ((Schema.get? entries "properties").map fun v => nodeMapProblems v path).getD (.ok []) :=
  Schema.eq_of_descent (f := fun entries => propertyProblems entries path) rfl (fun _ _ _ => rfl)
    entries

/-- The value has no problems, at any path, if and only if it is a node and has a text. -/
def Decided (v : Value) : Prop :=
  ∀ path, nodeProblems v path = .ok [] ↔ Node v ∧ v.hasText = true

theorem all_eq_nil_iff {x y : Except Fault (List Problem)} :
    (do let found ← x; let others ← y; .ok (found ++ others) : Except Fault (List Problem)) =
      .ok [] ↔ x = .ok [] ∧ y = .ok [] := by
  simp only [bind_eq_ok, Except.ok.injEq, List.append_eq_nil_iff]
  constructor
  · rintro ⟨_, hfound, _, hothers, rfl, rfl⟩
    exact ⟨hfound, hothers⟩
  · rintro ⟨hfound, hothers⟩
    exact ⟨_, hfound, _, hothers, rfl, rfl⟩

theorem nodesProblems_eq_nil_iff {path : Pointer.Path} : ∀ {items : List Value} {index : Nat},
    (∀ item ∈ items, Decided item) →
      (nodesProblems items path index = .ok [] ↔
        ∀ item ∈ items, Node item ∧ item.hasText = true)
  | [], _, _ => by simp [nodesProblems]
  | v :: items, index, h => by
    obtain ⟨hv, hitems⟩ := List.forall_mem_cons.1 h
    rw [nodesProblems, all_eq_nil_iff, hv, nodesProblems_eq_nil_iff hitems, List.forall_mem_cons]

theorem namedProblems_eq_nil_iff {path : Pointer.Path} : ∀ {properties : Entries},
    (∀ property ∈ properties, Decided property.2) →
      (namedProblems properties path = .ok [] ↔
        ∀ property ∈ properties, Node property.2 ∧ property.2.hasText = true)
  | [], _ => by simp [namedProblems]
  | (name, v) :: properties, h => by
    obtain ⟨hv, hproperties⟩ := List.forall_mem_cons.1 h
    rw [namedProblems, all_eq_nil_iff, hv, namedProblems_eq_nil_iff hproperties,
      List.forall_mem_cons]

section
variable {entries : Entries} {path : Pointer.Path}

theorem optionProblems_eq_nil_iff
    (h : ∀ items, Schema.get? entries "anyOf" = some (.list items) →
      ∀ item ∈ items, Decided item) :
    optionProblems entries path = .ok [] ↔ Given entries "anyOf" IsList ∧
      ∀ items, Schema.get? entries "anyOf" = some (.list items) →
        ∀ item ∈ items, Node item ∧ item.hasText = true := by
  rw [optionProblems_eq]
  unfold Given
  cases hv : Schema.get? entries "anyOf" with
  | none => simp
  | some v =>
    cases v with
    | list items => simp [nodeListProblems, nodesProblems_eq_nil_iff (h items hv), IsList]
    | _ => simp [nodeListProblems, IsList, located]

theorem itemProblems_eq_nil_iff
    (h : ∀ item, Schema.get? entries "items" = some item → Decided item) :
    itemProblems entries path = .ok [] ↔
      ∀ item, Schema.get? entries "items" = some item → Node item ∧ item.hasText = true := by
  rw [itemProblems_eq]
  cases hv : Schema.get? entries "items" with
  | none => simp
  | some item => simp [h item hv path]

theorem propertyProblems_eq_nil_iff
    (h : ∀ properties, Schema.get? entries "properties" = some (.map properties) →
      ∀ property ∈ properties, Decided property.2) :
    propertyProblems entries path = .ok [] ↔ Given entries "properties" IsMapping ∧
      ∀ properties, Schema.get? entries "properties" = some (.map properties) →
        ∀ property ∈ properties, Node property.2 ∧ property.2.hasText = true := by
  rw [propertyProblems_eq]
  unfold Given
  cases hv : Schema.get? entries "properties" with
  | none => simp
  | some v =>
    cases v with
    | map properties =>
      simp [nodeMapProblems, namedProblems_eq_nil_iff (h properties hv), IsMapping]
    | _ => simp [nodeMapProblems, IsMapping, located]

end

/-- A node is decided keyword by keyword once those below it are. -/
theorem decided_map {entries : Entries}
    (hoptions : ∀ items, Schema.get? entries "anyOf" = some (.list items) →
      ∀ item ∈ items, Decided item)
    (hitems : ∀ item, Schema.get? entries "items" = some item → Decided item)
    (hproperties : ∀ properties, Schema.get? entries "properties" = some (.map properties) →
      ∀ property ∈ properties, Decided property.2) :
    Decided (.map entries) := by
  intro path
  have hkeyword {keyword : String} {defects : Value → List Defect} {p : Value → Prop}
      (h : ∀ {v}, defects v = [] ↔ p v) :
      keywordProblems entries keyword path defects = [] ↔ Given entries keyword p :=
    keywordProblems_eq_nil_iff h
  simp only [nodeProblems, bind_eq_ok, Except.ok.injEq, List.append_eq_nil_iff,
    located_eq_nil_iff, Value.requireText_eq_ok, exists_const, alternativeDefects_eq_nil_iff]
  constructor
  · rintro ⟨_, kinds, _, hanyOf, _, lengths, _, hpattern, _, bounds, _, hitem, _, counts,
      _, hproperty, _, names, htext, h⟩
    simp only [and_assoc] at h
    obtain ⟨rfl, rfl, rfl, rfl, rfl, rfl, rfl, rfl, rfl, kind⟩ := h
    simp only [written_eq_nil_iff, List.append_eq_nil_iff, located_eq_nil_iff,
      hkeyword typeDefects_eq_nil_iff, hkeyword textDefects_eq_nil_iff,
      hkeyword enumDefects_eq_nil_iff, hkeyword countDefects_eq_nil_iff,
      hkeyword boundDefects_eq_nil_iff, hkeyword booleanDefects_eq_nil_iff,
      requiredProblems_eq_nil_iff, unknownDefects_eq_nil_iff, and_assoc]
      at kinds lengths bounds counts names
    obtain ⟨type, title, description, enum⟩ := kinds
    obtain ⟨minLength, maxLength⟩ := lengths
    obtain ⟨format, minimum, maximum⟩ := bounds
    obtain ⟨minItems, maxItems⟩ := counts
    obtain ⟨required, additionalProperties, known⟩ := names
    obtain ⟨anyOf, options⟩ := (optionProblems_eq_nil_iff hoptions).1 hanyOf
    have items := (itemProblems_eq_nil_iff hitems).1 hitem
    obtain ⟨properties, fields⟩ := (propertyProblems_eq_nil_iff hproperties).1 hproperty
    have pattern := patternProblems_eq_nil_iff.1 hpattern
    refine ⟨.mk ⟨known, kind, fun keyword => ?_⟩ (fun list hlist item hitem =>
      (options list hlist item hitem).1) (fun item hitem => (items item hitem).1)
      (fun list hlist property hproperty => (fields list hlist property hproperty).1), htext⟩
    unfold Fits
    split
    all_goals first
      | assumption
      | exact fun _ _ => trivial
  · rintro ⟨⟨shaped, options, items, properties⟩, htext⟩
    have hbelow {keyword : String} {v : Value} (hv : Schema.get? entries keyword = some v) :
        v.hasText = true := Schema.hasText_of_get? htext hv
    have hgiven (keyword : String) := shaped.fits keyword
    refine ⟨[], ?_, [], (optionProblems_eq_nil_iff hoptions).2 ⟨hgiven "anyOf", ?_⟩, [], ?_,
      [], patternProblems_eq_nil_iff.2 (hgiven "pattern"), [], ?_,
      [], (itemProblems_eq_nil_iff hitems).2 ?_, [], ?_,
      [], (propertyProblems_eq_nil_iff hproperties).2 ⟨hgiven "properties", ?_⟩, [], ?_, htext, ?_⟩
    · simp only [written_eq_nil_iff, List.append_eq_nil_iff, hkeyword typeDefects_eq_nil_iff,
        hkeyword textDefects_eq_nil_iff, hkeyword enumDefects_eq_nil_iff, and_assoc]
      exact ⟨hgiven "type", hgiven "title", hgiven "description", hgiven "enum"⟩
    · exact fun list hlist item hitem => ⟨options list hlist item hitem,
        Value.hasText_of_mem_list (hbelow hlist) hitem⟩
    · simp only [written_eq_nil_iff, List.append_eq_nil_iff, hkeyword countDefects_eq_nil_iff]
      exact ⟨hgiven "minLength", hgiven "maxLength"⟩
    · simp only [written_eq_nil_iff, List.append_eq_nil_iff, hkeyword textDefects_eq_nil_iff,
        hkeyword boundDefects_eq_nil_iff, and_assoc]
      exact ⟨hgiven "format", hgiven "minimum", hgiven "maximum"⟩
    · exact fun item hitem => ⟨items item hitem, hbelow hitem⟩
    · simp only [written_eq_nil_iff, List.append_eq_nil_iff, hkeyword countDefects_eq_nil_iff]
      exact ⟨hgiven "minItems", hgiven "maxItems"⟩
    · exact fun list hlist property hproperty => ⟨properties list hlist property hproperty,
        Value.hasText_of_mem_map (hbelow hlist) hproperty⟩
    · simp only [written_eq_nil_iff, List.append_eq_nil_iff, located_eq_nil_iff,
        requiredProblems_eq_nil_iff, hkeyword booleanDefects_eq_nil_iff,
        unknownDefects_eq_nil_iff, and_assoc]
      exact ⟨hgiven "required", hgiven "additionalProperties", shaped.known⟩
    · simp only [true_and]
      exact shaped.kind

/-- Induction on the places where nodes stand in a value. -/
theorem node_induction {p : Value → Prop}
    (map : ∀ entries : Entries,
      (∀ items, Schema.get? entries "anyOf" = some (.list items) → ∀ item ∈ items, p item) →
      (∀ item, Schema.get? entries "items" = some item → p item) →
      (∀ properties, Schema.get? entries "properties" = some (.map properties) →
        ∀ property ∈ properties, p property.2) → p (.map entries))
    (other : ∀ v, (∀ entries, v ≠ .map entries) → p v) (v : Value) : p v := by
  cases v with
  | map entries =>
    refine map entries (fun items hget item hmem => ?_) (fun item hget => ?_)
      fun properties hget property hmem => ?_
    · have hitem := List.sizeOf_lt_of_mem hmem
      have hitems := Schema.sizeOf_lt_of_get? hget
      exact node_induction map other item
    · have hitem := Schema.sizeOf_lt_of_get? hget
      exact node_induction map other item
    · have hproperty := List.sizeOf_lt_of_mem hmem
      have hproperties := Schema.sizeOf_lt_of_get? hget
      exact node_induction map other property.2
  | _ => exact other _ nofun
termination_by sizeOf v
decreasing_by
  · simp only [Value.list.sizeOf_spec] at hitems
    omega
  · exact hitem
  · obtain ⟨name, v⟩ := property
    simp only [Value.map.sizeOf_spec, Prod.mk.sizeOf_spec] at hproperties hproperty ⊢
    omega

theorem decided (v : Value) : Decided v := by
  induction v using node_induction with
  | map entries hoptions hitems hproperties => exact decided_map hoptions hitems hproperties
  | other v hv =>
    intro path
    refine ⟨fun h => ?_, fun ⟨h, _⟩ => ?_⟩
    · cases v with
      | map entries => exact absurd rfl (hv entries)
      | _ => simp [nodeProblems, located] at h
    · cases h
      exact absurd rfl (hv _)

theorem nodeProblems_eq_nil_iff {v : Value} {path : Pointer.Path} :
    nodeProblems v path = .ok [] ↔ Node v ∧ v.hasText = true := decided v path

/-! ## Documents -/

/-- What the grammar asks of the entries of a document. -/
structure WellFormed (entries : Entries) : Prop where
  known : ∀ key ∈ entries.map (·.1), ∃ keyword ∈ documentKeywords, key = .str keyword
  version : Given entries Version.fieldName IsText
  title : Given entries "title" IsText
  description : Given entries "description" IsText
  schema : ∃ v, Schema.get? entries "schema" = some v ∧ Node v

/-- What stands under `schema` has a text. -/
def NodeHasText (entries : Entries) : Prop := (Schema.getD entries "schema").hasText = true

theorem documentProblems_eq_nil_iff {entries : Entries} :
    documentProblems entries = .ok [] ↔ WellFormed entries ∧ NodeHasText entries := by
  have htext {keyword : String} : keywordProblems entries keyword [] textDefects = [] ↔
      Given entries keyword IsText := keywordProblems_eq_nil_iff textDefects_eq_nil_iff
  cases hv : Schema.get? entries "schema" with
  | none =>
    refine iff_of_false (fun h => ?_) fun ⟨h, _⟩ => ?_
    · simp only [documentProblems, hv, bind_eq_ok, ok_bind, Except.ok.injEq, List.append_nil,
        exists_eq_right, written_eq_nil_iff] at h
      cases h
    · obtain ⟨v, hschema, -⟩ := h.schema
      cases hv.symm.trans hschema
  | some v =>
    have hnode : NodeHasText entries ↔ v.hasText = true := by
      rw [NodeHasText, Schema.getD, hv, Option.getD_some]
    simp only [documentProblems, hv, bind_eq_ok, Except.ok.injEq, List.append_eq_nil_iff, hnode]
    constructor
    · rintro ⟨_, houter, _, hproblems, rfl, rfl⟩
      simp only [written_eq_nil_iff, List.append_eq_nil_iff, located_eq_nil_iff,
        defectUnless_eq_nil_iff, unknownDefects_eq_nil_iff, htext, and_assoc] at houter
      obtain ⟨-, known, version, title, description⟩ := houter
      obtain ⟨hnode, hnodeText⟩ := nodeProblems_eq_nil_iff.1 hproblems
      exact ⟨⟨known, version, title, description, v, hv, hnode⟩, hnodeText⟩
    · rintro ⟨⟨known, version, title, description, w, hw, hnode⟩, hnodeText⟩
      obtain rfl := Option.some.inj (hv.symm.trans hw)
      refine ⟨[], ?_, [], nodeProblems_eq_nil_iff.2 ⟨hnode, hnodeText⟩, rfl, rfl⟩
      simp only [written_eq_nil_iff, List.append_eq_nil_iff, located_eq_nil_iff,
        defectUnless_eq_nil_iff, unknownDefects_eq_nil_iff, htext, and_assoc]
      exact ⟨rfl, known, version, title, description⟩

theorem problems_eq_nil_iff {entries : Entries} :
    problems entries = .ok [] ↔ WellFormed entries ∧ NodeHasText entries := by
  rw [← documentProblems_eq_nil_iff]
  simp only [problems, bind_eq_ok, Except.ok.injEq, Problem.sort, ← List.length_eq_zero_iff,
    List.length_mergeSort]
  constructor
  · rintro ⟨_, hfound, hempty⟩
    rw [hfound, List.length_eq_zero_iff.1 hempty]
  · intro h
    exact ⟨[], h, rfl⟩

end Conform.Grammar
