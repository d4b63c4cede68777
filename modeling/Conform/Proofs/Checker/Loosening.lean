import Conform.Proofs.Checker.Meaning
import Conform.Proofs.Checker.Order
import Conform.Proofs.Checker.Returns
import Conform.Proofs.Schema.Rewriting

/-!
# Looser schemas

Every verdict of a compiled checker is whether the schema accepts the value (`settles_accepts`), so
a value that was found valid is not found invalid when the schema is made to ask for less
(`Validator.check_of_looser`). It may be that there is no verdict any more: an option of a union
whose length used to refuse the value without its format being asked may ask for the format once the
length is left out, and the test of a format can fail.
-/

namespace Conform

open Schema

/-- What a schema finds valid is found valid by every looser one that compiles, unless a pattern or
a format that the looser one asks for fails on a part of the value. -/
theorem Validator.check_of_looser {schema other : Schema} {registry : Registry}
    {validator validator' : Validator} (h : Looser schema other)
    (hv : Validator.ofSchema schema registry = .ok validator)
    (hv' : Validator.ofSchema other registry = .ok validator') {value : Value}
    (hcheck : validator.check value = .ok true) :
    validator'.check value = .ok true ∨ ∃ fault, validator'.check value = .error fault ∧
      Undecided validator'.checker.refinements value fault := by
  obtain ⟨checker, hc, hv⟩ := bind_eq_ok.1 hv
  obtain rfl := Except.ok.inj hv
  obtain ⟨checker', hc', hv'⟩ := bind_eq_ok.1 hv'
  obtain rfl := Except.ok.inj hv'
  have haccepts : Accepts registry schema value :=
    (settles_accepts registry schema hc value true hcheck).1 rfl
  have hother := h.accepts haccepts
  cases hresult : checker'.accepts value with
  | ok b =>
    have hb : b = true := (settles_accepts registry other hc' value b hresult).2 hother
    rw [hb] at hresult
    exact .inl hresult
  | error fault =>
    exact .inr ⟨fault, hresult, (checker'.agree value []).cause_of_verdict fault hresult⟩

/-- Accounts with shorter names, of people without a day of birth, perhaps without roles and with
further keys. -/
def lenientSchema : Schema :=
  .object
    [.named (.str "name")
      (.field (.string { minLength := .int 1, pattern := .str "^[a-z]+$" }) (.bool true)),
     .named (.str "born")
      (.field (.union [.string { format := .str "date" }, .null]) (.bool false)),
     .named (.str "roles")
      (.field (.list (.enumOf [.str "admin", .str "guest"]) (.int 1) .null) (.bool false))]
    (.bool false)

theorem looser_lenient : Looser accountSchema lenientSchema := by
  have hname : Loosens (.string { minLength := .int 2, pattern := .str "^[a-z]+$" })
      (.string { minLength := .int 1, pattern := .str "^[a-z]+$" }) :=
    .primitive ⟨.moved ⟨1, 2, rfl, rfl, by decide⟩, .same, .same, .same, .same, .same⟩
  have hborn : Loosens (.string { format := .str "date" })
      (.union [.string { format := .str "date" }, .null]) := .alternative List.mem_cons_self
  refine .trans (@Rewritten.field _ _ _ _ _ _ [] _ (.rule hname)) ?_
  refine .trans (@Rewritten.field _ _ _ _ _ _ [_] _ (.rule hborn)) ?_
  refine .trans (.rule (@Loosens.optional _ _ _ (.bool false) _ [_, _] [] rfl)) ?_
  exact .rule (.lax rfl)

/-- An account without a day of birth. -/
def guestValue : Value :=
  .map [(.str "name", .str "ann"), (.str "roles", .list [.str "guest"])]

theorem Validator.check_lenient : ∃ validator validator',
    Validator.ofSchema accountSchema .standard = .ok validator ∧
    Validator.ofSchema lenientSchema .standard = .ok validator' ∧
    Looser accountSchema lenientSchema ∧ validator.check guestValue = .ok true ∧
    validator'.check guestValue = .ok true := by
  have hrun : ((Validator.ofSchema accountSchema .standard).toOption.any fun validator =>
      (validator.check guestValue).toOption == some true) = true := by decide +kernel
  have hrun' : ((Validator.ofSchema lenientSchema .standard).toOption.any fun validator =>
      (validator.check guestValue).isOk) = true := by decide +kernel
  obtain ⟨validator, hv, hcheck⟩ := exists_of_any_toOption hrun
  obtain ⟨validator', hv', hok⟩ := exists_of_any_toOption hrun'
  have hcheck := eq_ok_of_toOption (beq_iff_eq.1 hcheck)
  refine ⟨validator, validator', hv, hv', looser_lenient, hcheck, ?_⟩
  rcases Validator.check_of_looser looser_lenient hv hv' hcheck with h | ⟨fault, hfault, -⟩
  · exact h
  · rw [hfault] at hok
    cases hok

/-- Without the length, the string is asked to be a pattern, which overtaxes the test. -/
theorem Validator.looser_overtaxed : ∃ (schema other : Schema) (validator validator' : Validator),
    Looser schema other ∧ Validator.ofSchema schema .standard = .ok validator ∧
    Validator.ofSchema other .standard = .ok validator' ∧
    validator.check (.str "a{99999999999}") = .ok true ∧
    validator'.check (.str "a{99999999999}") = .error .tooLarge := by
  have hpattern : Format.isPattern "a{99999999999}" = .error .tooLarge := by decide +kernel
  obtain ⟨-, hregex, -⟩ := fails_of_overtaxing hpattern
  have hloosens : Loosens (.string { minLength := .int 100, format := .str "regex" })
      regexSchema := .primitive ⟨.dropped, .same, .same, .same, .same, .same⟩
  have hunion : (Checker.union [regexChecker, .primitive .string []]).accepts
      (.str "a{99999999999}") = .error .tooLarge := by
    rw [Checker.accepts, Checker.acceptsAny, hregex, error_bind]
  refine ⟨.union [.string { minLength := .int 100, format := .str "regex" }, .string {}],
    .union [regexSchema, .string {}], _, _, @Rewritten.option _ _ _ [] _ (.rule hloosens), rfl, rfl,
    rfl, hunion⟩

end Conform
