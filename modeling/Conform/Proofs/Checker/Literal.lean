import Conform.Proofs.Checker.Reading
import Conform.Proofs.Value.Equivalence
import Conform.Proofs.Value.Rearranged
import Conform.Validator

/-!
# Literals

A literal accepts the values that are deep-equal to it. Where the two are gone down side by side
(`Corresponds`), deep equality holds at every place (`deepEqual_of_corresponds`), and it holds of no
boolean and a number: `1` is not `true`, nor is `[1]` a list of booleans.

The keys of mappings are not compared by deep equality but by whether they coincide (`Value.same`),
and so are the elements of sets. There `false` counts as 0 and `true` as 1, at every place of two
keys (`same_of_corresponds`): `{1: "x"}` is accepted by the literal `{true: "x"}`
(`Validator.literal_takes_number_for_boolean`).

Neither the answer nor the message depends on the order of a literal's entries, nor on what in it is
a list and what a tuple (`Validator.literal_rearranged`). For the message this is so because such
data has JSON text whenever it has a text: data without JSON text is displayed as it stands.
-/

namespace Conform

namespace Value

/-- A boolean on one side and a number on the other. -/
inductive Mixed : Value → Value → Prop
  | boolInt (b : Bool) (n : Int) : Mixed (.bool b) (.int n)
  | boolFloat (b : Bool) (x : Binary64) : Mixed (.bool b) (.float x)
  | intBool (n : Int) (b : Bool) : Mixed (.int n) (.bool b)
  | floatBool (x : Binary64) (b : Bool) : Mixed (.float x) (.bool b)

/-- What stands at one place of two values: the values themselves, or what stands at one place of
two items with one index, or of the values that two mappings have under one key. -/
inductive Corresponds : Value → Value → Value → Value → Prop
  | here {v w : Value} : Corresponds v w v w
  | item {v w a b x y : Value} {items others : List Value} {i : Nat} :
      v.items? = some items → w.items? = some others → items[i]? = some a → others[i]? = some b →
      Corresponds a b x y → Corresponds v w x y
  | entry {key a b x y : Value} {entries others : List (Value × Value)} :
      (key, a) ∈ entries → lookup key others = some b → Corresponds a b x y →
      Corresponds (.map entries) (.map others) x y

/-- What stands at one place of two keys that coincide, or of two elements of sets, where the two
mappings or sets stand at one place of two values. -/
inductive KeysCorrespond (v w x y : Value) : Prop
  | key {key key' : Value} {entries others : List (Value × Value)} :
      Corresponds v w (.map entries) (.map others) → key ∈ entries.map (·.1) →
      key' ∈ others.map (·.1) → key.same key' = true → Corresponds key key' x y →
      KeysCorrespond v w x y
  | element {element element' : Value} {elements others : List Value} :
      Corresponds v w (.set elements) (.set others) → element ∈ elements → element' ∈ others →
      element.same element' = true → Corresponds element element' x y → KeysCorrespond v w x y

section
variable {v w x y : Value}

theorem not_deepEqual_of_mixed (h : Mixed x y) : x.deepEqual y = false := by
  cases h <;> rfl

/-- A boolean and a number that coincide are numerically equal. -/
theorem sameNumber_of_mixed (h : Mixed x y) (hs : x.same y = true) : x.sameNumber y = true := by
  cases h <;> simpa [same] using hs

/-! ## Values -/

theorem deepEqual_of_corresponds (h : Corresponds v w x y) (he : v.deepEqual w = true) :
    x.deepEqual y = true := by
  induction h with
  | here => exact he
  | item hv hw ha hb _ ih =>
    obtain ⟨_, hw', -, hitems⟩ := (deepEqual_sequence_iff hv).1 he
    obtain rfl := Option.some.inj (hw.symm.trans hw')
    exact ih (hitems _ _ _ ha hb)
  | @entry key a b _ _ _ _ ha hb _ ih =>
    obtain ⟨_, ⟨⟩, -, hentries⟩ := deepEqual_map_left_iff.1 he
    obtain ⟨b', hb', hab⟩ := hentries key a ha
    obtain rfl := Option.some.inj (hb.symm.trans hb')
    exact ih hab

/-! ## Keys -/

theorem sameItems_getElem? : ∀ {items others : List Value} {i : Nat} {a b : Value},
    sameItems items others = true → items[i]? = some a → others[i]? = some b → a.same b = true
  | v :: items, w :: others, i, a, b, h, ha, hb => by
    obtain ⟨hvw, hitems⟩ := Bool.and_eq_true_iff.1 h
    cases i with
    | zero =>
      obtain rfl := Option.some.inj ha
      obtain rfl := Option.some.inj hb
      exact hvw
    | succ i => exact sameItems_getElem? hitems ha hb
  | [], _, _, _, _, _, ha, _ => by cases ha
  | _ :: _, [], _, _, _, _, _, hb => by cases hb

theorem sameEntries_lookup {others : List (Value × Value)} {key a b : Value} :
    ∀ {entries : List (Value × Value)}, sameEntries entries others = true → (key, a) ∈ entries →
      lookup key others = some b → a.same b = true
  | (key', a') :: entries, h, ha, hb => by
    obtain ⟨hfirst, hentries⟩ := Bool.and_eq_true_iff.1 h
    rcases List.mem_cons.1 ha with heq | ha
    · obtain ⟨rfl, rfl⟩ := Prod.mk.inj heq
      obtain ⟨entry, hfound, rfl⟩ := Option.map_eq_some_iff.1 hb
      rwa [hfound] at hfirst
    · exact sameEntries_lookup hentries ha hb

/-- Unlike deep equality, a list is no tuple here. -/
theorem sameItems_of_items? {items others : List Value} (hv : v.items? = some items)
    (hw : w.items? = some others) (hs : v.same w = true) : sameItems items others = true := by
  cases v with
  | list | tuple =>
    obtain rfl := Option.some.inj hv
    cases w with
    | list | tuple =>
      obtain rfl := Option.some.inj hw
      first | exact hs | cases hs
    | _ => cases hw
  | _ => cases hv

theorem same_of_corresponds (h : Corresponds v w x y) (hs : v.same w = true) :
    x.same y = true := by
  induction h with
  | here => exact hs
  | item hv hw ha hb _ ih => exact ih (sameItems_getElem? (sameItems_of_items? hv hw hs) ha hb)
  | entry ha hb _ ih =>
    obtain ⟨-, hentries⟩ := Bool.and_eq_true_iff.1 hs
    exact ih (sameEntries_lookup hentries ha hb)

theorem same_of_keysCorrespond (h : KeysCorrespond v w x y) : x.same y = true := by
  cases h with
  | key _ _ _ hs hc => exact same_of_corresponds hc hs
  | element _ _ _ hs hc => exact same_of_corresponds hc hs

end

end Value

open Value

/-- A literal compiles if and only if it has a text for its message. -/
theorem Validator.ofSchema_literal_eq_ok {registry : Registry} {expected : Value}
    {validator : Validator} :
    Validator.ofSchema (.literal expected) registry = .ok validator ↔
      expected.hasText = true ∧ ⟨.literal expected, .literal expected⟩ = validator := by
  simp only [ofSchema, Schema.compile, bind_eq_ok, compileAt_literal, Except.ok.injEq]
  constructor
  · rintro ⟨checker, ⟨htext, rfl⟩, rfl⟩
    exact ⟨htext, rfl⟩
  · rintro ⟨htext, rfl⟩
    exact ⟨_, ⟨htext, rfl⟩, rfl⟩

theorem Validator.ofSchema_literal_eq_error {registry : Registry} {expected : Value}
    (h : expected.hasText = false) :
    Validator.ofSchema (.literal expected) registry = .error (.fault .badValue) := by
  simp [ofSchema, Schema.compile, Schema.compileAt, requireText, h, SchemaFailure.ofFault]

/-- A literal that has a text for its message is compiled, and accepts what is deep-equal to it.
Such a value has no boolean where the literal has a number, and no number where it has a boolean,
except in keys of mappings and elements of sets: there `false` and 0 coincide, `true` and 1, and no
other two. -/
theorem Validator.literal_accepts (registry : Registry) (value expected : Value) :
    ((∃ validator, Validator.ofSchema (.literal expected) registry = .ok validator) ↔
      expected.hasText = true) ∧
    (∀ validator, Validator.ofSchema (.literal expected) registry = .ok validator →
      validator.check value = .ok (value.deepEqual expected)) ∧
    (value.deepEqual expected = true →
      (∀ x y, Corresponds value expected x y → ¬ Mixed x y) ∧
      ∀ x y, KeysCorrespond value expected x y → Mixed x y → x.sameNumber y = true) := by
  refine ⟨⟨?_, fun htext => ⟨_, ofSchema_literal_eq_ok.2 ⟨htext, rfl⟩⟩⟩, ?_, fun he => ⟨?_, ?_⟩⟩
  · rintro ⟨validator, h⟩
    exact (ofSchema_literal_eq_ok.1 h).1
  · rintro validator h
    obtain ⟨-, rfl⟩ := ofSchema_literal_eq_ok.1 h
    rfl
  · intro x y hplace hmixed
    have hequal := deepEqual_of_corresponds hplace he
    rw [not_deepEqual_of_mixed hmixed] at hequal
    cases hequal
  · intro x y hplace hmixed
    exact sameNumber_of_mixed hmixed (same_of_keysCorrespond hplace)

theorem Validator.literal_accepts_oneKey : ∃ validator,
    Validator.ofSchema (.literal (.map [(.bool true, .list [.int 1])])) .standard = .ok validator ∧
      validator.check (.map [(.int 1, .tuple [.float (.finite 1)])]) = .ok true ∧
      ¬ Mixed (.float (.finite 1)) (.int 1) ∧
      KeysCorrespond (.map [(.int 1, .tuple [.float (.finite 1)])])
        (.map [(.bool true, .list [.int 1])]) (.int 1) (.bool true) ∧
      (Value.int 1).sameNumber (.bool true) = true := by
  obtain ⟨hcompiles, hcheck, h⟩ := Validator.literal_accepts .standard
    (.map [(.int 1, .tuple [.float (.finite 1)])]) (.map [(.bool true, .list [.int 1])])
  have hequal : (Value.map [(.int 1, .tuple [.float (.finite 1)])]).deepEqual
      (.map [(.bool true, .list [.int 1])]) = true := by decide +kernel
  rw [hequal] at hcheck
  obtain ⟨hvalues, hkeys⟩ := h hequal
  obtain ⟨validator, hv⟩ := hcompiles.2 (by decide +kernel)
  have hplace : KeysCorrespond (.map [(.int 1, .tuple [.float (.finite 1)])])
      (.map [(.bool true, .list [.int 1])]) (.int 1) (.bool true) :=
    .key .here List.mem_cons_self List.mem_cons_self (by decide) .here
  refine ⟨validator, hv, hcheck validator hv, hvalues _ _ ?_, hplace,
    hkeys _ _ hplace (.intBool 1 true)⟩
  exact .entry List.mem_cons_self (by rfl) (.item rfl rfl (i := 0) rfl rfl .here)

/-- Two values that are deep-equal, with a number as a key where the other has a boolean. -/
theorem Validator.literal_takes_number_for_boolean :
    (Value.map [(.int 1, .str "x")]).deepEqual (.map [(.bool true, .str "x")]) = true ∧
      KeysCorrespond (.map [(.int 1, .str "x")]) (.map [(.bool true, .str "x")])
        (.int 1) (.bool true) ∧
      Mixed (.int 1) (.bool true) ∧
      ∃ validator, Validator.ofSchema (.literal (.map [(.bool true, .str "x")])) .standard =
          .ok validator ∧
        validator.check (.map [(.int 1, .str "x")]) = .ok true :=
  ⟨by decide, .key .here List.mem_cons_self List.mem_cons_self (by decide) .here,
    .intBool 1 true, ⟨.literal _, .literal _⟩,
    Validator.ofSchema_literal_eq_ok.2 ⟨by decide +kernel, rfl⟩, rfl⟩

/-! ## Rearranged literals -/

/-- Rearranged data is the same, unless it has parts; and then it is no string. -/
theorem Value.Rearranged.eq_or_not_string {v w : Value} (h : v.Rearranged w) :
    v = w ∨ v.isString = false ∧ w.isString = false := by
  have hitems {v : Value} {items : List Value} (hv : v.items? = some items) :
      v.isString = false := by
    cases v with
    | str => cases hv
    | _ => rfl
  cases h with
  | sequence hv hw => exact .inr ⟨hitems hv, hitems hw⟩
  | object => exact .inr ⟨rfl, rfl⟩
  | _ => exact .inl rfl

theorem ViolationKind.literalText_of_json {v : Value} (hv : v.isString = false) {text : String}
    (h : v.json? .canonical = some text) : literalText v = text := by
  have htext : literalText v = (v.json? .canonical).getD v.display := by
    cases v with
    | str => cases hv
    | _ => rfl
  rw [htext, h, Option.getD_some]

theorem ViolationKind.literalText_eq {v w : Value} (h : v.Rearranged w) :
    literalText v = literalText w := by
  rcases h.eq_or_not_string with rfl | ⟨hv, hw⟩
  · rfl
  · obtain ⟨text, hvtext, hwtext⟩ := h.jsonAt_canonical 0
    rw [literalText_of_json hv hvtext, literalText_of_json hw hwtext]

/-- Two literals differ in the order of entries only, and in what is a list and what a tuple. Then
checking a value against them has one outcome. If one of them has a text, so has the other, both
have the same JSON text and the same message, both compile, and the same violations are reported of
every value; otherwise compilation of either fails, as the message cannot be written. -/
theorem Validator.literal_rearranged {expected other : Value} (h : expected.Rearranged other) :
    (∀ registry value,
      (do
        let validator ← Validator.ofSchema (.literal expected) registry
        SchemaFailure.ofFault (validator.errors value)) =
      (do
        let validator ← Validator.ofSchema (.literal other) registry
        SchemaFailure.ofFault (validator.errors value))) ∧
    expected.hasText = other.hasText ∧
    (expected.hasText = true →
      (∃ text, expected.json? .canonical = some text ∧ other.json? .canonical = some text) ∧
      ViolationKind.literalMismatch.message expected =
        ViolationKind.literalMismatch.message other ∧
      ∀ registry, ∃ validator rearranged,
        Validator.ofSchema (.literal expected) registry = .ok validator ∧
        Validator.ofSchema (.literal other) registry = .ok rearranged ∧
        ∀ value, ∃ violations, validator.errors value = .ok violations ∧
          rearranged.errors value = .ok violations) ∧
    (expected.hasText = false → ∀ registry,
      Validator.ofSchema (.literal expected) registry = .error (.fault .badValue) ∧
      Validator.ofSchema (.literal other) registry = .error (.fault .badValue)) := by
  have hmessage : ViolationKind.literalMismatch.message expected =
      ViolationKind.literalMismatch.message other :=
    congrArg ("Expected " ++ ·) (ViolationKind.literalText_eq h)
  have hviolation : Violation.of [] .literalMismatch expected =
      .of [] .literalMismatch other := by
    rw [Violation.of, Violation.of, hmessage]
  have herrors (value : Value) : (Checker.literal other).collect value [] =
      (Checker.literal expected).collect value [] := by
    simp only [Checker.collect, violationUnless, h.deepEqual_eq value, hviolation]
  have hcompiles (registry : Registry) (htext : expected.hasText = true) :
      Validator.ofSchema (.literal expected) registry =
        .ok ⟨.literal expected, .literal expected⟩ ∧
      Validator.ofSchema (.literal other) registry = .ok ⟨.literal other, .literal other⟩ :=
    ⟨ofSchema_literal_eq_ok.2 ⟨htext, rfl⟩, ofSchema_literal_eq_ok.2 ⟨h.hasText_eq ▸ htext, rfl⟩⟩
  have hfails (registry : Registry) (htext : expected.hasText = false) :
      Validator.ofSchema (.literal expected) registry = .error (.fault .badValue) ∧
      Validator.ofSchema (.literal other) registry = .error (.fault .badValue) :=
    ⟨ofSchema_literal_eq_error htext, ofSchema_literal_eq_error (h.hasText_eq ▸ htext)⟩
  refine ⟨fun registry value => ?_, h.hasText_eq, fun htext => ?_,
    fun htext registry => hfails registry htext⟩
  · cases htext : expected.hasText with
    | true =>
      obtain ⟨hexpected, hother⟩ := hcompiles registry htext
      rw [hexpected, hother, ok_bind, ok_bind, errors, errors, herrors]
    | false =>
      obtain ⟨hexpected, hother⟩ := hfails registry htext
      rw [hexpected, hother]
  · refine ⟨h.jsonAt_canonical 0, hmessage, fun registry => ?_⟩
    obtain ⟨hexpected, hother⟩ := hcompiles registry htext
    exact ⟨_, _, hexpected, hother, fun value => ⟨_, rfl, herrors value⟩⟩

/-- Roles and limits, in two orders. -/
def rolesFirst : Value :=
  object [("roles", .list [.str "admin", .float .nan]),
    ("limits", object [("size", .int 3), ("open", .tuple [])])]

def limitsFirst : Value :=
  object [("limits", object [("open", .list []), ("size", .int 3)]),
    ("roles", .tuple [.str "admin", .float .nan])]

theorem rearranged_limits : rolesFirst.Rearranged limitsFirst := by
  have hroles : (Value.list [.str "admin", .float .nan]).Rearranged
      (.tuple [.str "admin", .float .nan]) := by
    refine .sequence rfl rfl rfl fun i a b ha hb => ?_
    obtain rfl := Option.some.inj (ha.symm.trans hb)
    have hmem := List.mem_of_getElem? ha
    simp only [List.mem_cons, List.not_mem_nil, or_false] at hmem
    rcases hmem with rfl | rfl
    · exact .str "admin"
    · exact .float .nan
  have hopen : (Value.tuple []).Rearranged (.list []) := .sequence rfl rfl rfl nofun
  have hlimits : (object [("size", .int 3), ("open", .tuple [])]).Rearranged
      (object [("open", .list []), ("size", .int 3)]) := by
    refine .object (by decide) (by decide) fun name a b ha hb => ?_
    simp only [List.mem_cons, List.not_mem_nil, or_false, Prod.mk.injEq] at ha hb
    rcases ha with ⟨rfl, rfl⟩ | ⟨rfl, rfl⟩ <;> rcases hb with ⟨hname, rfl⟩ | ⟨hname, rfl⟩
    · exact absurd hname (by decide)
    · exact .int 3
    · exact hopen
    · exact absurd hname (by decide)
  refine .object (by decide) (by decide) fun name a b ha hb => ?_
  simp only [List.mem_cons, List.not_mem_nil, or_false, Prod.mk.injEq] at ha hb
  rcases ha with ⟨rfl, rfl⟩ | ⟨rfl, rfl⟩ <;> rcases hb with ⟨hname, rfl⟩ | ⟨hname, rfl⟩
  · exact absurd hname (by decide)
  · exact hroles
  · exact hlimits
  · exact absurd hname (by decide)

theorem Validator.literal_rearranged_limits : rolesFirst.Rearranged limitsFirst ∧
    ViolationKind.literalMismatch.message rolesFirst =
      ViolationKind.literalMismatch.message limitsFirst ∧
    ∃ validator rearranged, Validator.ofSchema (.literal rolesFirst) .standard = .ok validator ∧
      Validator.ofSchema (.literal limitsFirst) .standard = .ok rearranged ∧
      ∃ violations, validator.errors limitsFirst = .ok violations ∧
        rearranged.errors limitsFirst = .ok violations := by
  obtain ⟨-, -, hwritten, -⟩ := Validator.literal_rearranged rearranged_limits
  obtain ⟨-, hmessage, hvalidators⟩ := hwritten (by decide +kernel)
  obtain ⟨validator, rearranged, hv, hr, herrors⟩ := hvalidators .standard
  exact ⟨rearranged_limits, hmessage, validator, rearranged, hv, hr, herrors limitsFirst⟩

/-- Where a literal has no text there is neither a message nor a list of violations. -/
theorem Validator.literal_rearranged_long :
    (Value.list [.int longInteger]).Rearranged (.tuple [.int longInteger]) ∧
    Validator.ofSchema (.literal (.list [.int longInteger])) .standard =
      .error (.fault .badValue) ∧
    Validator.ofSchema (.literal (.tuple [.int longInteger])) .standard =
      .error (.fault .badValue) := by
  have hitems : haveText [.int longInteger] = false := by
    rw [haveText, longInteger_hasText, Bool.false_and]
  refine ⟨.sequence rfl rfl rfl fun i a b ha hb => ?_, ofSchema_literal_eq_error hitems,
    ofSchema_literal_eq_error hitems⟩
  obtain rfl := Option.some.inj (ha.symm.trans hb)
  obtain rfl := List.mem_singleton.1 (List.mem_of_getElem? ha)
  exact .int longInteger

end Conform
