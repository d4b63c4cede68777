import Conform.Proofs.Checker.Report
import Conform.Proofs.Value.Equivalence

/-!
# The order of what is reported

A schema and a value have positions in common, each with a path and an address
(`Schema.Located`): the address counts the children that the path goes through, items by their
index, fields in the order of declaration and behind them the undeclared keys in the order of the
value. In the lexicographic order of addresses a node comes before what is below it.

`inOrder_collect`: whatever a compiled checker reports is in this order, and at one position in the
order of `ViolationKind.traversal`. Reports are put together from pieces; `InOrder` says of a piece
that it has addresses of a certain sort, and pieces with the addresses of the one before those of
the other can be joined (`InOrder.append`). As the fields of an object have different names, and
undeclared keys have none of them, a path has one address (`Schema.Located.unique`), so nothing is
reported twice (`Validator.errors_in_order`).
-/

namespace Conform

/-! ## Positions -/

/-- The path leads to the position with the address. -/
inductive Schema.Located : Schema → Value → Pointer.Path → List Nat → Prop
  | here {schema : Schema} {v : Value} : Located schema v [] []
  | item {item : Schema} {least most v w : Value} {items : List Value} {i : Nat}
      {path : Pointer.Path} {address : List Nat} :
      v.items? = some items → items[i]? = some w → Located item w path address →
      Located (.list item least most) v (.int i :: path) (i :: address)
  | field {entries : List Entry} {strict name required w : Value} {schema : Schema}
      {fields : List (Value × Value)} {i : Nat} {path : Pointer.Path} {address : List Nat} :
      entries[i]? = some (.named name (.field schema required)) →
      Value.lookup name fields = some w → Located schema w path address →
      Located (.object entries strict) (.map fields) (name :: path) (i :: address)
  | absent {entries : List Entry} {strict name required : Value} {schema : Schema}
      {fields : List (Value × Value)} {i : Nat} :
      entries[i]? = some (.named name (.field schema required)) →
      Value.lookup name fields = none →
      Located (.object entries strict) (.map fields) [name] [i]
  | undeclared {entries : List Entry} {strict key w : Value} {fields : List (Value × Value)}
      {j : Nat} :
      fields[j]? = some (key, w) → ¬ Schema.Declares entries key →
      Located (.object entries strict) (.map fields) [key] [entries.length + j]

/-- The kinds of violations that can stand together at one position, as they come there. -/
def ViolationKind.traversal : List ViolationKind :=
  [.typeMismatch, .lengthTooShort, .lengthTooLong, .patternMismatch, .formatInvalid, .belowMinimum,
   .aboveMaximum, .tooFewItems, .tooManyItems]

def ViolationKind.Precedes (kind kind' : ViolationKind) : Prop :=
  [kind, kind'].Sublist traversal

theorem ViolationKind.not_precedes_self (kind : ViolationKind) : ¬ kind.Precedes kind := by
  have hnodup : traversal.Nodup := by decide
  exact List.nodup_iff_sublist.1 hnodup kind

theorem ViolationKind.pairwise_precedes {kinds : List ViolationKind}
    (h : kinds.Sublist traversal) : kinds.Pairwise Precedes :=
  List.pairwise_iff_forall_sublist.2 fun hpair => hpair.trans h

/-- A violation with the address of its position. -/
structure Placed where
  address : List Nat
  violation : Violation

/-- By position, and at one position by kind. -/
def Placed.Precedes (x y : Placed) : Prop :=
  x.address < y.address ∨
    x.address = y.address ∧ x.violation.kind.Precedes y.violation.kind

/-! ## Pieces of a report -/

/-- The violations have addresses of the given sort, and each comes before those behind it. -/
def InOrder (P : Placed → Prop) (violations : List Violation) : Prop :=
  ∃ placed : List Placed, placed.map Placed.violation = violations ∧ (∀ x ∈ placed, P x) ∧
    placed.Pairwise Placed.Precedes

namespace InOrder

variable {P Q : Placed → Prop} {l l' : List Violation}

theorem nil : InOrder P [] := ⟨[], rfl, nofun, .nil⟩

theorem mono (h : InOrder P l) (hPQ : ∀ x, P x → Q x) : InOrder Q l := by
  obtain ⟨placed, hplaced, hP, horder⟩ := h
  exact ⟨placed, hplaced, fun x hx => hPQ x (hP x hx), horder⟩

theorem append (h : InOrder P l) (h' : InOrder Q l') (hPQ : ∀ x y, P x → Q y → x.Precedes y) :
    InOrder (fun x => P x ∨ Q x) (l ++ l') := by
  obtain ⟨placed, rfl, hP, horder⟩ := h
  obtain ⟨placed', rfl, hQ, horder'⟩ := h'
  refine ⟨placed ++ placed', List.map_append, fun x hx => ?_, ?_⟩
  · rcases List.mem_append.1 hx with hx | hx
    · exact .inl (hP x hx)
    · exact .inr (hQ x hx)
  · exact List.pairwise_append.2 ⟨horder, horder', fun x hx y hy => hPQ x y (hP x hx) (hQ y hy)⟩

/-- What is in order below a child is in order with the number of the child in front. -/
theorem below (h : InOrder P l) (i : Nat) :
    InOrder (fun x => ∃ address, x.address = i :: address ∧ P ⟨address, x.violation⟩) l := by
  obtain ⟨placed, rfl, hP, horder⟩ := h
  refine ⟨placed.map fun x => ⟨i :: x.address, x.violation⟩, ?_, ?_, ?_⟩
  · rw [List.map_map]
    rfl
  · simp only [List.forall_mem_map]
    exact fun x hx => ⟨x.address, rfl, hP x hx⟩
  · refine List.pairwise_map.2 (horder.imp fun {x y} hxy => ?_)
    unfold Placed.Precedes
    rw [List.cons_lt_cons_iff, List.cons.injEq]
    rcases hxy with hlt | ⟨heq, hkind⟩
    · exact .inl (.inr ⟨rfl, hlt⟩)
    · exact .inr ⟨⟨rfl, heq⟩, hkind⟩

end InOrder

/-- Violations at one path, of some of the kinds and in their order. -/
structure OwnAt (path : Pointer.Path) (kinds : List ViolationKind) (l : List Violation) :
    Prop where
  path : ∀ x ∈ l, x.path = path
  kinds : (l.map (·.kind)).Sublist kinds

section
variable {path : Pointer.Path} {kinds kinds' : List ViolationKind} {l l' : List Violation}

theorem ownAt_of (kind : ViolationKind) (detail : Value) :
    OwnAt path [kind] [.of path kind detail] := by
  refine ⟨fun x hx => ?_, .refl [kind]⟩
  rw [List.mem_singleton.1 hx, Violation.of]

theorem ownAt_unless (holds : Bool) (kind : ViolationKind) (detail : Value) :
    OwnAt path [kind] (violationUnless holds path kind detail) := by
  cases holds with
  | true => exact ⟨nofun, List.nil_sublist [kind]⟩
  | false => exact ownAt_of kind detail

theorem OwnAt.append (h : OwnAt path kinds l) (h' : OwnAt path kinds' l') :
    OwnAt path (kinds ++ kinds') (l ++ l') := by
  refine ⟨fun x hx => ?_, ?_⟩
  · rcases List.mem_append.1 hx with hx | hx
    · exact h.path x hx
    · exact h'.path x hx
  · rw [List.map_append]
    exact h.kinds.append h'.kinds

theorem OwnAt.inOrder (h : OwnAt path kinds l) (hk : kinds.Pairwise ViolationKind.Precedes) :
    InOrder (fun x => x.address = [] ∧ x.violation.path = path) l := by
  refine ⟨l.map fun x => ⟨[], x⟩, ?_, ?_, ?_⟩
  · rw [List.map_map]
    exact List.map_id l
  · simp only [List.forall_mem_map, true_and]
    exact h.path
  · have hkinds := List.pairwise_map.1 (hk.sublist h.kinds)
    exact List.pairwise_map.2 (hkinds.imp fun hxy => .inr ⟨rfl, hxy⟩)

theorem ownAt_violations {v : Value} : ∀ {rs : List Refinement} {violations : List Violation},
    Refinement.violations rs v path = .ok violations →
      OwnAt path (rs.map Refinement.kind) violations
  | [], _, h => by
    obtain rfl := Except.ok.inj h
    exact ⟨nofun, .refl []⟩
  | r :: rs, _, h => by
    obtain ⟨holds, -, h⟩ := bind_eq_ok.1 h
    obtain ⟨others, hothers, h⟩ := bind_eq_ok.1 h
    obtain rfl := Except.ok.inj h
    exact (ownAt_unless holds r.kind r.detail).append (ownAt_violations hothers)

theorem ownAt_counts (minItems maxItems : Option Nat) (length : Nat) :
    OwnAt path [.tooFewItems, .tooManyItems]
      (Checker.countViolations minItems maxItems length path) :=
  (ownAt_unless (Checker.atLeast minItems length) .tooFewItems _).append
    (ownAt_unless (Checker.atMost maxItems length) .tooManyItems _)

end

/-- The refinements of a kind are compiled in the order in which their violations come. -/
theorem kinds_ofKind {r : Refinements} {registry : Registry} {place : String} {kind : Kind}
    {rs : List Refinement} (h : r.ofKind registry place kind = .ok rs) :
    (rs.map Refinement.kind).Sublist ViolationKind.traversal := by
  have hone {α : Type} (o : Option α) (f : α → Refinement) (k : ViolationKind)
      (hf : ∀ a, (f a).kind = k) : ((o.map f).toList.map Refinement.kind).Sublist [k] := by
    cases o with
    | none => exact List.nil_sublist [k]
    | some a => simp [hf a]
  cases kind with
  | string =>
    obtain ⟨least, -, most, -, -, -, pattern, -, format, -, rfl⟩ :=
      Refinements.ofString_eq_ok.1 h
    simp only [List.map_append]
    have hleast := hone least .minLength .lengthTooShort fun _ => rfl
    have hmost := hone most .maxLength .lengthTooLong fun _ => rfl
    have hpattern := hone pattern (fun found => .pattern found.1 found.2) .patternMismatch
      fun _ => rfl
    have hformat := hone format (.format r.format.text) .formatInvalid fun _ => rfl
    exact (((hleast.append hmost).append hpattern).append hformat).trans (by decide)
  | number =>
    obtain ⟨least, -, most, -, -, -, rfl⟩ := Refinements.ofNumber_eq_ok.1 h
    rw [List.map_append]
    have hleast := hone least .minimum .belowMinimum fun _ => rfl
    have hmost := hone most .maximum .aboveMaximum fun _ => rfl
    exact (hleast.append hmost).trans (by decide)
  | boolean | null =>
    obtain rfl := Except.ok.inj h
    exact List.nil_sublist _

/-! ## Nodes and their children -/

/-- At a position of the schema and the value, the path being continued from a base. -/
def At (schema : Schema) (v : Value) (base : Pointer.Path) (x : Placed) : Prop :=
  ∃ path, x.violation.path = base ++ path ∧ schema.Located v path x.address

/-- Below one of the children with the numbers from `low` up to `high`. -/
def Between (schema : Schema) (v : Value) (base : Pointer.Path) (low high : Nat) (x : Placed) :
    Prop :=
  At schema v base x ∧ ∃ i address, x.address = i :: address ∧ low ≤ i ∧ i < high

section
variable {schema : Schema} {v : Value} {base : Pointer.Path} {l l' : List Violation}
  {low middle high : Nat}

theorem inOrder_own {kinds : List ViolationKind} (h : OwnAt base kinds l)
    (hk : kinds.Pairwise ViolationKind.Precedes) : InOrder (At schema v base) l := by
  refine (h.inOrder hk).mono fun x hx => ⟨[], ?_, ?_⟩
  · rw [hx.2, List.append_nil]
  · rw [hx.1]
    exact .here

theorem inOrder_single {kind : ViolationKind} (h : OwnAt base [kind] l) :
    InOrder (At schema v base) l :=
  inOrder_own h (List.pairwise_singleton _ _)

theorem inOrder_child {inner : Schema} {w key : Value} {i : Nat}
    (h : InOrder (At inner w (base ++ [key])) l)
    (hchild : ∀ path address, inner.Located w path address →
      schema.Located v (key :: path) (i :: address)) :
    InOrder (Between schema v base i (i + 1)) l := by
  refine (h.below i).mono fun x hx => ?_
  obtain ⟨address, haddress, path, hpath, hlocated⟩ := hx
  refine ⟨⟨key :: path, ?_, ?_⟩, i, address, haddress, Nat.le_refl i, Nat.lt_succ_self i⟩
  · rw [hpath, List.append_assoc, List.singleton_append]
  · rw [haddress]
    exact hchild path address hlocated

theorem inOrder_leaf {key : Value} {i : Nat} {kind : ViolationKind}
    (h : OwnAt (base ++ [key]) [kind] l) (hkey : schema.Located v [key] [i]) :
    InOrder (Between schema v base i (i + 1)) l := by
  refine ((h.inOrder (List.pairwise_singleton _ _)).below i).mono fun x hx => ?_
  obtain ⟨address, haddress, hnil, hpath⟩ := hx
  obtain rfl : address = [] := hnil
  refine ⟨⟨[key], hpath, ?_⟩, i, [], haddress, Nat.le_refl i, Nat.lt_succ_self i⟩
  rwa [haddress]

/-- The children of lower numbers come first. -/
theorem inOrder_children (h : InOrder (Between schema v base low middle) l)
    (h' : InOrder (Between schema v base middle high) l') (hlow : low ≤ middle)
    (hhigh : middle ≤ high) : InOrder (Between schema v base low high) (l ++ l') := by
  have hbefore : ∀ x y, Between schema v base low middle x →
      Between schema v base middle high y → x.Precedes y := by
    intro x y ⟨_, i, address, hx, _, hi⟩ ⟨_, j, address', hy, hj, _⟩
    left
    rw [hx, hy, List.cons_lt_cons_iff]
    left
    omega
  refine (h.append h' hbefore).mono fun x hx => ?_
  rcases hx with ⟨hat, i, address, hx, hi, hi'⟩ | ⟨hat, i, address, hx, hi, hi'⟩
  · exact ⟨hat, i, address, hx, by omega, by omega⟩
  · exact ⟨hat, i, address, hx, by omega, by omega⟩

/-- The violations of a node come before those of its children. -/
theorem inOrder_node {kinds : List ViolationKind} (h : OwnAt base kinds l)
    (hk : kinds.Pairwise ViolationKind.Precedes)
    (h' : InOrder (Between schema v base low high) l') :
    InOrder (At schema v base) (l ++ l') := by
  have hbefore : ∀ x y : Placed, x.address = [] ∧ x.violation.path = base →
      Between schema v base low high y → x.Precedes y := by
    intro x y ⟨hx, _⟩ ⟨_, i, address, hy, _, _⟩
    left
    rw [hx, hy]
    exact List.nil_lt_cons i address
  refine ((h.inOrder hk).append h' hbefore).mono fun x hx => ?_
  rcases hx with ⟨haddress, hpath⟩ | ⟨hat, _⟩
  · refine ⟨[], ?_, ?_⟩
    · rw [hpath, List.append_nil]
    · rw [haddress]
      exact .here
  · exact hat

end

/-! ## Items, fields and undeclared keys -/

/-- A list from a place on, taken apart. -/
theorem getElem?_from {α : Type} {l rest : List α} {a : α} {start : Nat}
    (h : ∀ i, l[start + i]? = (a :: rest)[i]?) :
    l[start]? = some a ∧ ∀ i, l[start + 1 + i]? = rest[i]? := by
  refine ⟨h 0, fun i => ?_⟩
  rw [Nat.add_assoc, Nat.add_comm 1 i]
  exact h (i + 1)

/-- Whatever the checker compiled from the schema reports is in order. -/
def ReportsInOrder (schema : Schema) : Prop :=
  ∀ {registry : Registry} {place : String} {checker : Checker},
    schema.compileAt registry place = .ok checker →
    ∀ {v : Value} {base : Pointer.Path} {violations : List Violation},
      checker.collect v base = .ok violations → InOrder (At schema v base) violations

section
variable {registry : Registry} {place : String} {base : Pointer.Path}

theorem inOrder_items {item : Schema} (least most : Value) {v : Value} {items : List Value}
    {inner : Checker} (ih : ReportsInOrder item)
    (hc : item.compileAt registry place = .ok inner) (hv : v.items? = some items) :
    ∀ {rest : List Value} {start : Nat} {found : List Violation},
      collectFrom (fun index w => inner.collect w (base ++ [.int index])) start rest = .ok found →
      (∀ i, items[start + i]? = rest[i]?) →
      InOrder (Between (.list item least most) v base start (start + rest.length)) found
  | [], _, _, h, _ => by
    obtain rfl := Except.ok.inj h
    exact .nil
  | w :: rest, start, _, h, hrest => by
    obtain ⟨found, hfound, h⟩ := bind_eq_ok.1 h
    obtain ⟨others, hothers, h⟩ := bind_eq_ok.1 h
    obtain rfl := Except.ok.inj h
    obtain ⟨hw, hrest⟩ := getElem?_from hrest
    have hfirst : InOrder (Between (.list item least most) v base start (start + 1)) found :=
      inOrder_child (ih hc hfound) fun path address hlocated => .item hv hw hlocated
    have hothers := inOrder_items least most ih hc hv hothers hrest
    rw [List.length_cons, Nat.add_comm rest.length 1, ← Nat.add_assoc]
    exact inOrder_children hfirst hothers (by omega) (by omega)

variable {entries : List Entry} (strict : Value) {values : List (Value × Value)}

theorem inOrder_field {name required : Value} {schema : Schema} {checker : Checker} {i : Nat}
    {found : List Violation} (ih : ReportsInOrder schema)
    (hc : schema.compileAt registry place = .ok checker)
    (hentry : entries[i]? = some (.named name (.field schema required)))
    (h : Checker.collectField ⟨name, required.truthy, checker⟩ values base = .ok found) :
    InOrder (Between (.object entries strict) (.map values) base i (i + 1)) found := by
  unfold Checker.collectField at h
  cases hw : Value.lookup name values with
  | some w =>
    rw [hw] at h
    exact inOrder_child (ih hc h) fun path address hlocated => .field hentry hw hlocated
  | none =>
    rw [hw] at h
    obtain rfl := Except.ok.inj h
    exact inOrder_leaf (ownAt_unless _ _ _) (.absent hentry hw)

theorem inOrder_fields : ∀ {rest : List Entry} {fields : List FieldChecker} {start : Nat}
    {found : List Violation}, compileEntries rest registry place = .ok fields →
      (∀ name schema required, .named name (.field schema required) ∈ rest →
        ReportsInOrder schema) →
      Checker.collectFields fields values base = .ok found →
      (∀ i, entries[start + i]? = rest[i]?) →
      InOrder (Between (.object entries strict) (.map values) base start (start + rest.length))
        found
  | [], _, _, _, hc, _, h, _ => by
    obtain rfl := Except.ok.inj hc
    obtain rfl := Except.ok.inj h
    exact .nil
  | entry :: rest, _, start, _, hc, ih, h, hrest => by
    obtain ⟨field, hfield, fields, hfields, rfl⟩ := compileEntries_cons.1 hc
    obtain ⟨name, schema, required, rfl, -, checker, hs, rfl⟩ := compileAt_entry.1 hfield
    obtain ⟨found, hfound, h⟩ := bind_eq_ok.1 h
    obtain ⟨others, hothers, h⟩ := bind_eq_ok.1 h
    obtain rfl := Except.ok.inj h
    obtain ⟨hentry, hrest⟩ := getElem?_from hrest
    have hschema : ReportsInOrder schema := ih name schema required List.mem_cons_self
    have hschemas : ∀ name schema required, .named name (.field schema required) ∈ rest →
        ReportsInOrder schema := fun name schema required hmem =>
      ih name schema required (List.mem_cons_of_mem _ hmem)
    have hfirst := inOrder_field strict hschema hs hentry hfound
    have hothers := inOrder_fields hfields hschemas hothers hrest
    rw [List.length_cons, Nat.add_comm rest.length 1, ← Nat.add_assoc]
    exact inOrder_children hfirst hothers (by omega) (by omega)

/-- Undeclared keys have the numbers behind those of the fields. -/
theorem inOrder_unexpected {declared : List Value}
    (hdeclared : ∀ key : Value, key.isAmong declared = false → ¬ Schema.Declares entries key) :
    ∀ {rest : List (Value × Value)} {start : Nat}, (∀ i, values[start + i]? = rest[i]?) →
      InOrder (Between (.object entries strict) (.map values) base (entries.length + start)
          (entries.length + start + rest.length))
        ((unexpectedKeys declared rest).map fun key =>
          .of (base ++ [key]) .unexpectedProperty .null)
  | [], _, _ => .nil
  | (key, w) :: rest, start, hrest => by
    obtain ⟨hvalue, hrest⟩ := getElem?_from hrest
    have hothers := inOrder_unexpected hdeclared hrest
    have hfirst : InOrder (Between (.object entries strict) (.map values) base
        (entries.length + start) (entries.length + start + 1))
        ((unexpectedKeys declared [(key, w)]).map fun key =>
          .of (base ++ [key]) .unexpectedProperty .null) := by
      by_cases hd : key.isAmong declared = true
      · simp only [unexpectedKeys, List.map_cons, List.filter_cons, hd]
        exact .nil
      · rw [Bool.not_eq_true] at hd
        simp only [unexpectedKeys, List.map_cons, List.filter_cons, hd]
        exact inOrder_leaf (ownAt_of _ _) (.undeclared hvalue (hdeclared key hd))
    have happend : unexpectedKeys declared ((key, w) :: rest) =
        unexpectedKeys declared [(key, w)] ++ unexpectedKeys declared rest := by
      unfold unexpectedKeys
      rw [← List.filter_append, ← List.map_append, List.singleton_append]
    rw [happend, List.map_append, List.length_cons, Nat.add_comm rest.length 1, ← Nat.add_assoc]
    exact inOrder_children hfirst hothers (by omega) (by omega)

end

/-! ## Whole schemas -/

theorem reportsInOrder_list {item : Schema} {least most : Value} (ih : ReportsInOrder item) :
    ReportsInOrder (.list item least most) := by
  intro registry place checker hc v base violations h
  obtain ⟨minItems, -, maxItems, -, inner, hi, -, -, rfl⟩ := compileAt_list.1 hc
  simp only [Checker.collect] at h
  cases hv : v.items? with
  | none =>
    rw [hv] at h
    obtain rfl := Except.ok.inj h
    exact inOrder_single (ownAt_of _ _)
  | some items =>
    rw [hv] at h
    obtain ⟨found, hfound, h⟩ := bind_eq_ok.1 h
    obtain rfl := Except.ok.inj h
    have hitems := inOrder_items least most ih hi hv hfound fun i => by rw [Nat.zero_add]
    exact inOrder_node (ownAt_counts minItems maxItems items.length)
      (ViolationKind.pairwise_precedes (by decide)) hitems

theorem reportsInOrder_object {entries : List Entry} {strict : Value}
    (ih : ∀ name schema required, .named name (.field schema required) ∈ entries →
      ReportsInOrder schema) : ReportsInOrder (.object entries strict) := by
  intro registry place checker hc v base violations h
  obtain ⟨fields, hf, -, -, rfl⟩ := compileAt_object.1 hc
  cases v with
  | map values =>
    simp only [Checker.collect] at h
    obtain ⟨found, hfound, h⟩ := bind_eq_ok.1 h
    obtain rfl := Except.ok.inj h
    have hfields := inOrder_fields strict hf ih hfound fun i => by rw [Nat.zero_add]
    have hdeclared : ∀ key : Value, key.isAmong (fields.map FieldChecker.name) = false →
        ¬ Schema.Declares entries key := by
      intro key hkey
      rw [← isAmong_names_iff hf, hkey]
      exact Bool.false_ne_true
    have hunexpected : InOrder (Between (.object entries strict) (.map values) base
        (0 + entries.length) (0 + entries.length + values.length))
        ((if strict.truthy then unexpectedKeys (fields.map FieldChecker.name) values else []).map
          fun key => .of (base ++ [key]) .unexpectedProperty .null) := by
      rw [Nat.zero_add]
      cases strict.truthy with
      | false => exact .nil
      | true => exact inOrder_unexpected strict hdeclared fun i => by rw [Nat.zero_add]
    exact (inOrder_children hfields hunexpected (by omega) (by omega)).mono fun x hx => hx.1
  | _ =>
    obtain rfl := Except.ok.inj h
    exact inOrder_single (ownAt_of _ _)

theorem inOrder_collect (schema : Schema) : ReportsInOrder schema := by
  induction schema using Schema.memInduction with
  | primitive kind r =>
    intro registry place checker hc v base violations h
    obtain ⟨k, -, rs, hr, rfl⟩ := compilePrimitive_eq_ok.1 hc
    unfold Checker.collect at h
    split at h
    · exact inOrder_own (ownAt_violations h) (ViolationKind.pairwise_precedes (kinds_ofKind hr))
    · obtain rfl := Except.ok.inj h
      exact inOrder_single (ownAt_of _ _)
  | literal expected =>
    intro registry place checker hc v base violations h
    obtain ⟨-, rfl⟩ := compileAt_literal.1 hc
    obtain rfl := Except.ok.inj h
    exact inOrder_single (ownAt_unless _ _ _)
  | list item least most ih => exact reportsInOrder_list ih
  | object entries strict ih => exact reportsInOrder_object ih
  | union options ih =>
    intro registry place checker hc v base violations h
    obtain ⟨checkers, -, rfl⟩ := compileAt_union.1 hc
    obtain ⟨accepted, -, h⟩ := bind_eq_ok.1 h
    obtain rfl := Except.ok.inj h
    exact inOrder_single (ownAt_unless _ _ _)
  | field | other =>
    intro registry place checker hc
    cases hc

/-! ## A path has one address -/

theorem Value.same_index {i j : Nat} (h : (Value.int i).same (.int j) = true) : i = j := by
  rw [Value.same, Value.sameNumber_iff rfl rfl] at h
  exact_mod_cast h

theorem compileEntries_getElem? {registry : Registry} {place : String} {name required : Value}
    {schema : Schema} : ∀ {entries : List Entry} {fields : List FieldChecker} {i : Nat},
      compileEntries entries registry place = .ok fields →
      entries[i]? = some (.named name (.field schema required)) →
      (fields.map FieldChecker.name)[i]? = some name ∧
        ∃ place checker, schema.compileAt registry place = .ok checker
  | [], _, _, _, hi => by cases hi
  | entry :: entries, _, i, h, hi => by
    obtain ⟨field, hfield, others, hothers, rfl⟩ := compileEntries_cons.1 h
    cases i with
    | zero =>
      obtain rfl := Option.some.inj hi
      obtain ⟨_, _, _, heq, -, checker, hs, rfl⟩ := compileAt_entry.1 hfield
      cases heq
      exact ⟨rfl, _, checker, hs⟩
    | succ i =>
      have hrest := compileEntries_getElem? hothers hi
      exact hrest

section
variable {registry : Registry} {place : String} {checker : Checker} {entries : List Entry}
  {strict name required : Value} {schema : Schema} {i : Nat}

theorem compileAt_of_entry
    (hc : (Schema.object entries strict).compileAt registry place = .ok checker)
    (hi : entries[i]? = some (.named name (.field schema required))) :
    ∃ place checker, schema.compileAt registry place = .ok checker := by
  obtain ⟨fields, hf, -, -, -⟩ := compileAt_object.1 hc
  exact (compileEntries_getElem? hf hi).2

theorem isKey_of_entry
    (hc : (Schema.object entries strict).compileAt registry place = .ok checker)
    (hi : entries[i]? = some (.named name (.field schema required))) : name.isKey = true := by
  obtain ⟨fields, hf, hk, -, -⟩ := compileAt_object.1 hc
  have hname := (compileEntries_getElem? hf hi).1
  exact List.all_eq_true.1 hk name (List.mem_of_getElem? hname)

/-- The names of an object's fields differ. -/
theorem index_of_entry
    (hc : (Schema.object entries strict).compileAt registry place = .ok checker)
    (hi : entries[i]? = some (.named name (.field schema required))) {j : Nat}
    {name' required' : Value} {schema' : Schema}
    (hj : entries[j]? = some (.named name' (.field schema' required')))
    (h : name.same name' = true) : i = j := by
  have hkey := isKey_of_entry hc hi
  obtain ⟨fields, hf, hk, hd, -⟩ := compileAt_object.1 hc
  exact ((areDistinct_iff_keysDiffer hk).1 hd).index_unique (compileEntries_getElem? hf hi).1
    (compileEntries_getElem? hf hj).1 hkey h

theorem declares_of_entry {key : Value}
    (hc : (Schema.object entries strict).compileAt registry place = .ok checker)
    (hi : entries[i]? = some (.named name (.field schema required)))
    (h : name.same key = true ∨ key.same name = true) : Schema.Declares entries key := by
  rw [Value.same_comm (.inl (isKey_of_entry hc hi)), or_self] at h
  exact ⟨name, schema, required, List.mem_of_getElem? hi, h⟩

end

/-- A position is told by its path, keys being compared by whether they coincide. -/
theorem Schema.Located.unique {schema : Schema} {v : Value} {path : Pointer.Path}
    {address : List Nat} (h : schema.Located v path address) {registry : Registry}
    {place : String} {checker : Checker} (hc : schema.compileAt registry place = .ok checker)
    (hw : v.WellKeyed) {path' : Pointer.Path} {address' : List Nat}
    (h' : schema.Located v path' address') (hs : Value.sameItems path path' = true) :
    address = address' := by
  -- along the first position; the second goes through the same child, as its first key coincides
  induction h generalizing place checker path' address' with
  | here =>
    cases h' with
    | here => rfl
    | _ => cases hs
  | item hv hi _ ih =>
    cases h' with
    | here => cases hs
    | item hv' hj hlocated =>
      obtain ⟨hij, hrest⟩ := Bool.and_eq_true_iff.1 hs
      obtain ⟨-, -, -, -, inner, hinner, -⟩ := compileAt_list.1 hc
      obtain rfl := Option.some.inj (hv.symm.trans hv')
      obtain rfl := Value.same_index hij
      obtain rfl := Option.some.inj (hi.symm.trans hj)
      rw [ih hinner (hw.of_item hv _ (List.mem_of_getElem? hi)) hlocated hrest]
  | field hi hl _ ih =>
    cases h' with
    | here => cases hs
    | field hj hl' hlocated =>
      obtain ⟨hname, hrest⟩ := Bool.and_eq_true_iff.1 hs
      obtain rfl := index_of_entry hc hi hj hname
      cases hi.symm.trans hj
      obtain rfl := Option.some.inj (hl.symm.trans hl')
      obtain ⟨place, inner, hinner⟩ := compileAt_of_entry hc hi
      rw [ih hinner (hw.of_lookup hl) hlocated hrest]
    | absent hj hl' =>
      obtain ⟨hname, -⟩ := Bool.and_eq_true_iff.1 hs
      obtain rfl := index_of_entry hc hi hj hname
      cases hi.symm.trans hj
      cases hl.symm.trans hl'
    | undeclared hj hd =>
      obtain ⟨hname, -⟩ := Bool.and_eq_true_iff.1 hs
      exact absurd (declares_of_entry hc hi (.inl hname)) hd
  | absent hi hl =>
    cases h' with
    | here => cases hs
    | field hj hl' _ =>
      obtain ⟨hname, -⟩ := Bool.and_eq_true_iff.1 hs
      obtain rfl := index_of_entry hc hi hj hname
      cases hi.symm.trans hj
      cases hl.symm.trans hl'
    | absent hj _ =>
      obtain ⟨hname, -⟩ := Bool.and_eq_true_iff.1 hs
      rw [index_of_entry hc hi hj hname]
    | undeclared hj hd =>
      obtain ⟨hname, -⟩ := Bool.and_eq_true_iff.1 hs
      exact absurd (declares_of_entry hc hi (.inl hname)) hd
  | @undeclared entries _ key _ fields i hi hd =>
    cases h' with
    | here => cases hs
    | field hj _ _ | absent hj _ =>
      obtain ⟨hname, -⟩ := Bool.and_eq_true_iff.1 hs
      exact absurd (declares_of_entry hc hj (.inr hname)) hd
    | @undeclared _ _ key' _ _ j hj _ =>
      obtain ⟨hname, -⟩ := Bool.and_eq_true_iff.1 hs
      obtain ⟨hk, hdiffer, -⟩ := Value.wellKeyed_map hw
      have hki : (fields.map (·.1))[i]? = some key := by rw [List.getElem?_map, hi, Option.map_some]
      have hkj : (fields.map (·.1))[j]? = some key' := by
        rw [List.getElem?_map, hj, Option.map_some]
      have hkey : key.isKey = true := hk key (List.mem_of_getElem? hki)
      rw [hdiffer.index_unique hki hkj hkey hname]

/-! ## Validators -/

/-- What a validator reports is in the order of positions, and at one position in that of kinds; no
two violations have one path and one kind. Where its patterns and formats always answer, it reports
on every value. -/
theorem Validator.errors_in_order {schema : Schema} {registry : Registry} {validator : Validator}
    (hv : Validator.ofSchema schema registry = .ok validator) {value : Value}
    (hw : value.WellKeyed) :
    (validator.checker.Answers → ∃ violations, validator.errors value = .ok violations) ∧
      ∀ violations, validator.errors value = .ok violations →
        (∃ placed : List Placed, placed.map Placed.violation = violations ∧
          (∀ x ∈ placed, schema.Located value x.violation.path x.address) ∧
          placed.Pairwise Placed.Precedes) ∧
        violations.Pairwise fun x y =>
          ¬ (Value.sameItems x.path y.path = true ∧ x.kind = y.kind) := by
  obtain ⟨checker, hc, hv⟩ := bind_eq_ok.1 hv
  obtain rfl := Except.ok.inj hv
  refine ⟨fun ha => ?_, fun violations h => ?_⟩
  · obtain ⟨violations, hcollect, -⟩ := checker.agree_accepts_collect ha.decides value []
    exact ⟨violations, hcollect⟩
  · obtain ⟨placed, hplaced, hat, horder⟩ := inOrder_collect schema hc h
    have hlocated : ∀ x ∈ placed, schema.Located value x.violation.path x.address := by
      intro x hx
      obtain ⟨path, hpath, hlocated⟩ := hat x hx
      rwa [hpath]
    refine ⟨⟨placed, hplaced, hlocated, horder⟩, ?_⟩
    rw [← hplaced]
    refine List.pairwise_map.2 (horder.imp_of_mem fun {x y} hx hy hxy ⟨hs, hkind⟩ => ?_)
    have haddress := (hlocated x hx).unique hc hw (hlocated y hy) hs
    rcases hxy with hlt | ⟨-, hprecedes⟩
    · rw [haddress] at hlt
      exact List.lt_irrefl _ hlt
    · rw [hkind] at hprecedes
      exact y.violation.kind.not_precedes_self hprecedes

theorem wellKeyed_account : accountValue.WellKeyed := by
  have hroles : (Value.list [.str "guest", .str "owner"]).WellKeyed :=
    .of_scalars rfl (by decide)
  refine .map (by decide) (by simp [Value.KeysDiffer]) ?_
  simp only [List.forall_mem_cons]
  exact ⟨.scalar rfl, .scalar rfl, hroles, .scalar rfl, List.forall_mem_nil _⟩

theorem Validator.errors_in_order_account : ∃ validator,
    Validator.ofSchema accountSchema .standard = .ok validator ∧ accountValue.WellKeyed ∧
    validator.checker.Answers ∧
    ∃ violations, validator.errors accountValue = .ok violations ∧
      (∃ placed : List Placed, placed.map Placed.violation = violations ∧
        (∀ x ∈ placed, accountSchema.Located accountValue x.violation.path x.address) ∧
        placed.Pairwise Placed.Precedes) ∧
      (violations.Pairwise fun x y =>
        ¬ (Value.sameItems x.path y.path = true ∧ x.kind = y.kind)) ∧
      violations.map (fun v => (v.pointer, v.kind)) =
        [("/name", .lengthTooShort), ("/name", .patternMismatch), ("/born", .formatInvalid),
          ("/roles/1", .noAlternativeMatched), ("/age", .unexpectedProperty)] := by
  obtain ⟨validator, hv, ha⟩ := account_answers
  obtain ⟨hanswers, horder⟩ := Validator.errors_in_order hv wellKeyed_account
  obtain ⟨violations, he⟩ := hanswers ha
  obtain ⟨hplaced, hdiffer⟩ := horder violations he
  exact ⟨validator, hv, wellKeyed_account, ha, violations, he, hplaced, hdiffer,
    account_violations hv he⟩

end Conform
