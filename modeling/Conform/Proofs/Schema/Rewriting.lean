import Conform.Proofs.Schema.Violates
import Conform.Proofs.Value.Number

/-!
# Rewriting schemas

`Rewritten Rule`: one schema comes from another by the rules, at any number of places and at any
depth. What a rule does to one node stands apart from the places where it may be used: the item of a
list, a field of an object, an option of a union.

The rules of `Loosens` make a node ask for less: a refinement is left out or its bound moved, a
required field becomes optional, undeclared keys are let in, options are added. A value that is
accepted is still accepted after any number of such changes (`Looser.accepts`), since nothing that
accepts a value asks that a part of it be refused.

The rules of `Regroups` put the options of a union in another order, repeat them, or take the
options of an inner union among its own; those of `PermutesFields` put the fields of an object in
another order. What they change is proved where checkers are, as it is about what these report.
-/

namespace Conform

namespace Schema

/-- One schema comes from another by rules used at nodes of it. -/
inductive Rewritten (Rule : Schema → Schema → Prop) : Schema → Schema → Prop
  | refl (s : Schema) : Rewritten Rule s s
  | trans {s t u : Schema} : Rewritten Rule s t → Rewritten Rule t u → Rewritten Rule s u
  | rule {s t : Schema} : Rule s t → Rewritten Rule s t
  | item {s t : Schema} {minItems maxItems : Value} :
      Rewritten Rule s t → Rewritten Rule (.list s minItems maxItems) (.list t minItems maxItems)
  | field {s t : Schema} {name required strict : Value} {before after : List Entry} :
      Rewritten Rule s t →
      Rewritten Rule (.object (before ++ .named name (.field s required) :: after) strict)
        (.object (before ++ .named name (.field t required) :: after) strict)
  | option {s t : Schema} {before after : List Schema} :
      Rewritten Rule s t →
      Rewritten Rule (.union (before ++ s :: after)) (.union (before ++ t :: after))

/-! ## Asking for less -/

/-- A keyword stays as it is, is left out, or becomes one that asks for less. -/
inductive Relaxed (Weaker : Value → Value → Prop) (old : Value) : Value → Prop
  | same : Relaxed Weaker old old
  | dropped : Relaxed Weaker old .null
  | moved {new : Value} : Weaker old new → Relaxed Weaker old new

/-- The second of two integers is not below the first. -/
def CountUp (a b : Value) : Prop := ∃ m n : Int, a = .int m ∧ b = .int n ∧ m ≤ n

/-- The second of two numbers is not below the first. NaN is in no order with a number. -/
def BoundUp (a b : Value) : Prop :=
  (∃ x, a.extended? = some x) ∧ (∃ y, b.extended? = some y) ∧ b.isBelow a = false

/-- Refinements that ask for less of a value. -/
structure RefinementsRelaxed (r r' : Refinements) : Prop where
  minLength : Relaxed (fun old new => CountUp new old) r.minLength r'.minLength
  maxLength : Relaxed CountUp r.maxLength r'.maxLength
  pattern : Relaxed (fun _ _ => False) r.pattern r'.pattern
  format : Relaxed (fun _ _ => False) r.format r'.format
  minimum : Relaxed (fun old new => BoundUp new old) r.minimum r'.minimum
  maximum : Relaxed BoundUp r.maximum r'.maximum

/-- A node that asks for less than another. -/
inductive Loosens : Schema → Schema → Prop
  | primitive {kind : KindRef} {r r' : Refinements} :
      RefinementsRelaxed r r' → Loosens (.primitive kind r) (.primitive kind r')
  | counts {item : Schema} {minItems minItems' maxItems maxItems' : Value} :
      Relaxed (fun old new => CountUp new old) minItems minItems' →
      Relaxed CountUp maxItems maxItems' →
      Loosens (.list item minItems maxItems) (.list item minItems' maxItems')
  | optional {s : Schema} {name required required' strict : Value} {before after : List Entry} :
      required'.truthy = false →
      Loosens (.object (before ++ .named name (.field s required) :: after) strict)
        (.object (before ++ .named name (.field s required') :: after) strict)
  | lax {entries : List Entry} {strict strict' : Value} :
      strict'.truthy = false → Loosens (.object entries strict) (.object entries strict')
  | options {options options' : List Schema} :
      options ⊆ options' → Loosens (.union options) (.union options')
  | alternative {s : Schema} {options : List Schema} : s ∈ options → Loosens s (.union options)

/-- A schema made to ask for less, at any number of places. -/
abbrev Looser : Schema → Schema → Prop := Rewritten Loosens

/-! ## The order and the grouping of declarations -/

/-- A union with the same options, whatever their order and number, or with those of an inner union
in its place. -/
inductive Regroups : Schema → Schema → Prop
  | same {options options' : List Schema} :
      (∀ option, option ∈ options ↔ option ∈ options') →
      Regroups (.union options) (.union options')
  | flatten {before inner after : List Schema} :
      Regroups (.union (before ++ .union inner :: after)) (.union (before ++ inner ++ after))

/-- An object with its fields in another order. -/
inductive PermutesFields : Schema → Schema → Prop
  | object {entries entries' : List Entry} {strict : Value} :
      entries.Perm entries' → PermutesFields (.object entries strict) (.object entries' strict)

/-- A schema whose unions are regrouped, at any number of places. -/
abbrev Regrouped : Schema → Schema → Prop := Rewritten Regroups

/-- A schema whose objects have their fields in another order, at any number of places. -/
abbrev FieldsPermuted : Schema → Schema → Prop := Rewritten PermutesFields

/-! ## Refinements -/

section
variable {old new v : Value} {m : Int}

theorem Relaxed.least (h : Relaxed (fun old new => CountUp new old) old new)
    (hm : ∃ n : Int, new = .int n ∧ m < n) : ∃ n : Int, old = .int n ∧ m < n := by
  obtain ⟨n, rfl, hn⟩ := hm
  cases h with
  | same => exact ⟨n, rfl, hn⟩
  | moved h =>
    obtain ⟨k, n', hk, rfl, hle⟩ := h
    obtain rfl := Value.int.inj hk
    exact ⟨n', rfl, by omega⟩

theorem Relaxed.most (h : Relaxed CountUp old new)
    (hm : ∃ n : Int, new = .int n ∧ n < m) : ∃ n : Int, old = .int n ∧ n < m := by
  obtain ⟨n, rfl, hn⟩ := hm
  cases h with
  | same => exact ⟨n, rfl, hn⟩
  | moved h =>
    obtain ⟨n', k, rfl, hk, hle⟩ := h
    obtain rfl := Value.int.inj hk
    exact ⟨n', rfl, by omega⟩

theorem Relaxed.text {s : String} (h : Relaxed (fun _ _ => False) old new) (hs : new = .str s) :
    old = .str s := by
  cases h with
  | same => exact hs
  | dropped => cases hs
  | moved h => exact h.elim

theorem Relaxed.minimum (h : Relaxed (fun old new => BoundUp new old) old new)
    (hv : v.isBelow new = true) : v.isBelow old = true := by
  cases h with
  | same => exact hv
  | dropped => simp at hv
  | moved h =>
    obtain ⟨-, ⟨x, hx⟩, hup⟩ := h
    rcases Value.isBelow_or_isBelow hv hx with h | h
    · exact h
    · rw [hup] at h
      cases h

theorem Relaxed.maximum (h : Relaxed BoundUp old new) (hv : new.isBelow v = true) :
    old.isBelow v = true := by
  cases h with
  | same => exact hv
  | dropped => simp at hv
  | moved h =>
    obtain ⟨⟨x, hx⟩, -, hup⟩ := h
    rcases Value.isBelow_or_isBelow hv hx with h | h
    · rw [hup] at h
      cases h
    · exact h

end

section
variable {registry : Registry} {v : Value} {k : ViolationKind}

theorem RefinementsRelaxed.failsOwn {kind : KindRef} {r r' : Refinements}
    (h : RefinementsRelaxed r r') (hf : FailsOwn registry (.primitive kind r') v k) :
    FailsOwn registry (.primitive kind r) v k := by
  cases hf with
  | kind hk hv => exact .kind hk hv
  | minLength hk hr hn =>
    obtain ⟨n, hr, hn⟩ := h.minLength.least ⟨_, hr, hn⟩
    exact .minLength hk hr hn
  | maxLength hk hr hn =>
    obtain ⟨n, hr, hn⟩ := h.maxLength.most ⟨_, hr, hn⟩
    exact .maxLength hk hr hn
  | pattern hk hr hp hs => exact .pattern hk (h.pattern.text hr) hp hs
  | format hk hr hf hs => exact .format hk (h.format.text hr) hf hs
  | minimum hk hv hb => exact .minimum hk hv (h.minimum.minimum hb)
  | maximum hk hv hb => exact .maximum hk hv (h.maximum.maximum hb)

/-- One field of an object asks for less, the others stay. -/
theorem accepts_of_field {s t : Schema} {name required required' strict : Value}
    {before after : List Entry} (hreq : required'.truthy = true → required.truthy = true)
    (hst : ∀ w, Accepts registry s w → Accepts registry t w)
    (h : Accepts registry (.object (before ++ .named name (.field s required) :: after) strict) v) :
    Accepts registry (.object (before ++ .named name (.field t required') :: after) strict) v := by
  obtain ⟨fields, rfl, hfields, hkeys⟩ := accepts_object_iff.1 h
  have hfield := hfields name s required (by simp)
  refine accepts_object_iff.2 ⟨fields, rfl, fun name' schema required'' he => ?_, ?_⟩
  · rcases List.mem_append.1 he with he | he
    · exact hfields _ _ _ (List.mem_append_left _ he)
    · rcases List.mem_cons.1 he with he | he
      · cases he
        exact ⟨fun h => hfield.1 (hreq h), fun w hw => hst w (hfield.2 w hw)⟩
      · exact hfields _ _ _ (List.mem_append_right _ (List.mem_cons_of_mem _ he))
  · intro hs key hkey
    obtain ⟨name', schema, required'', he, hsame⟩ := hkeys hs key hkey
    rcases List.mem_append.1 he with he | he
    · exact ⟨name', schema, required'', List.mem_append_left _ he, hsame⟩
    · rcases List.mem_cons.1 he with he | he
      · cases he
        exact ⟨name, t, required', by simp, hsame⟩
      · exact ⟨name', schema, required'',
          List.mem_append_right _ (List.mem_cons_of_mem _ he), hsame⟩

/-! ## What is accepted after a change -/

theorem Loosens.accepts {s t : Schema} (h : Loosens s t) (ha : Accepts registry s v) :
    Accepts registry t v := by
  cases h with
  | @primitive kind r r' hr =>
    rw [accepts_primitive_iff] at ha ⊢
    exact fun k hf => ha k (hr.failsOwn hf)
  | counts hl hm =>
    obtain ⟨items, hv, hleast, hmost, hitems⟩ := accepts_list_iff.1 ha
    exact accepts_list_iff.2
      ⟨items, hv, fun h => hleast (hl.least h), fun h => hmost (hm.most h), hitems⟩
  | optional hreq =>
    exact accepts_of_field (fun h => absurd h (by simp [hreq])) (fun _ h => h) ha
  | lax hs =>
    obtain ⟨fields, rfl, hfields, -⟩ := accepts_object_iff.1 ha
    exact accepts_object_iff.2 ⟨fields, rfl, hfields, fun h => absurd h (by simp [hs])⟩
  | options hsub =>
    obtain ⟨option, ho, ha⟩ := accepts_union_iff.1 ha
    exact .union (hsub ho) ha
  | alternative hs => exact .union hs ha

/-- What a schema accepts is accepted by every looser one. -/
theorem Looser.accepts {s t : Schema} (h : Looser s t) {v : Value} (ha : Accepts registry s v) :
    Accepts registry t v := by
  induction h generalizing v with
  | refl => exact ha
  | trans _ _ ih ih' => exact ih' (ih ha)
  | rule h => exact h.accepts ha
  | item _ ih =>
    obtain ⟨items, hv, hleast, hmost, hitems⟩ := accepts_list_iff.1 ha
    exact accepts_list_iff.2 ⟨items, hv, hleast, hmost, fun w hw => ih (hitems w hw)⟩
  | field _ ih => exact accepts_of_field id (fun _ h => ih h) ha
  | @option s t before after _ ih =>
    obtain ⟨option, ho, hoption⟩ := accepts_union_iff.1 ha
    rcases List.mem_append.1 ho with ho | ho
    · exact .union (List.mem_append_left _ ho) hoption
    · rcases List.mem_cons.1 ho with rfl | ho
      · exact .union (List.mem_append_right _ List.mem_cons_self) (ih hoption)
      · exact .union (List.mem_append_right _ (List.mem_cons_of_mem _ ho)) hoption

end

end Schema

end Conform
