import Conform.Proofs.Pointer

/-!
# Paths spelled out

A path can be written down without escaping anything: its texts as they are, each after a slash.
This is the path's pointer if and only if there is nothing to escape (`spell_eq_join_iff`), since an
escaped text is longer. Without slashes in the texts they can still be told apart
(`texts_of_spell`), with slashes they cannot.
-/

namespace Conform.Pointer

/-- The texts of a path, each after a slash. -/
def spell (path : Path) : String :=
  String.ofList ((path.map fun segment => segment.text.toList).flatMap ('/' :: ·))

section
variable (base : String) (path : Path)

theorem append_spell_nil : base ++ spell [] = base := String.append_empty

theorem append_spell_items :
    base ++ spell (.str "items" :: path) = base ++ "/items" ++ spell path := by
  apply String.toList_inj.1
  simp [spell, Value.text]

theorem append_spell_properties (name : Value) :
    base ++ spell (.str "properties" :: name :: path) =
      base ++ "/properties/" ++ name.text ++ spell path := by
  apply String.toList_inj.1
  simp [spell, Value.text]

theorem append_spell_anyOf (index : Nat) :
    base ++ spell (.str "anyOf" :: .int index :: path) =
      base ++ "/anyOf/" ++ toString index ++ spell path := by
  have hkeyword : (Value.str "anyOf").text = "anyOf" := rfl
  have hindex : (Value.int index).text = toString index := rfl
  apply String.toList_inj.1
  simp [spell, hkeyword, hindex]

end

/-! ## Spellings and pointers -/

/-- A text without the characters that are escaped. -/
def Plain (token : List Char) : Prop := '~' ∉ token ∧ '/' ∉ token

theorem plain_cons {c : Char} {token : List Char} :
    Plain (c :: token) ↔ c ≠ '~' ∧ c ≠ '/' ∧ Plain token := by
  simp only [Plain, List.mem_cons, not_or, ne_comm (a := c), ne_eq]
  tauto

theorem length_escapeToken (token : List Char) : token.length ≤ (escapeToken token).length := by
  induction token with
  | nil => exact Nat.le_refl 0
  | cons c token ih =>
    rw [escapeToken_cons, List.length_append, List.length_cons]
    rcases escapeChar_cases c with ⟨-, hc⟩ | ⟨-, hc⟩ | ⟨-, -, hc⟩ <;>
      simp only [hc, List.length_cons, List.length_nil] <;> omega

theorem escapeToken_eq_iff (token : List Char) : escapeToken token = token ↔ Plain token := by
  induction token with
  | nil => exact iff_of_true rfl ⟨List.not_mem_nil, List.not_mem_nil⟩
  | cons c token ih =>
    have hlength := length_escapeToken token
    rw [escapeToken_cons, plain_cons, ← ih]
    rcases escapeChar_cases c with ⟨rfl, hc⟩ | ⟨rfl, hc⟩ | ⟨htilde, hslash, hc⟩
    · refine iff_of_false (fun h => ?_) fun h => h.1 rfl
      have := congrArg List.length h
      simp only [hc, List.length_append, List.length_cons, List.length_nil] at this
      omega
    · refine iff_of_false (fun h => ?_) fun h => h.2.1 rfl
      have := congrArg List.length h
      simp only [hc, List.length_append, List.length_cons, List.length_nil] at this
      omega
    · simp [hc, htilde, hslash]

theorem length_joinTokens (tokens : List (List Char)) :
    (tokens.flatMap ('/' :: ·)).length ≤ (joinTokens tokens).length := by
  induction tokens with
  | nil => exact Nat.le_refl 0
  | cons token tokens ih =>
    have := length_escapeToken token
    simp only [joinTokens, List.flatMap_cons, List.length_append, List.length_cons] at ih ⊢
    omega

theorem flatMap_eq_joinTokens_iff (tokens : List (List Char)) :
    tokens.flatMap ('/' :: ·) = joinTokens tokens ↔ ∀ token ∈ tokens, Plain token := by
  induction tokens with
  | nil => exact iff_of_true rfl nofun
  | cons token tokens ih =>
    rw [List.flatMap_cons, joinTokens_cons, List.cons_append, List.cons_inj_right,
      List.forall_mem_cons, ← ih, ← escapeToken_eq_iff]
    constructor
    · intro h
      -- neither of the two parts can be longer, so both are as long as their escaped forms
      have hlength := congrArg List.length h
      rw [List.length_append, List.length_append] at hlength
      have := length_escapeToken token
      have := length_joinTokens tokens
      obtain ⟨htoken, htokens⟩ := List.append_inj h (by omega)
      exact ⟨htoken.symm, htokens⟩
    · rintro ⟨htoken, htokens⟩
      rw [htoken, htokens]

theorem spell_eq_join_iff (path : Path) :
    spell path = join path ↔ ∀ segment ∈ path, Plain segment.text.toList := by
  rw [spell, join, String.ofList_inj, flatMap_eq_joinTokens_iff, List.forall_mem_map]

/-- Paths with the same spelling and no slashes inside have the same texts. -/
theorem texts_of_spell {path other : Path} (h : spell path = spell other)
    (hpath : ∀ segment ∈ path, '/' ∉ segment.text.toList)
    (hother : ∀ segment ∈ other, '/' ∉ segment.text.toList) :
    path.map Value.text = other.map Value.text := by
  have hfields := congrArg (Text.fields '/') (String.ofList_injective h)
  rw [Text.fields_flatMap (List.forall_mem_map.2 hpath),
    Text.fields_flatMap (List.forall_mem_map.2 hother)] at hfields
  have htexts := congrArg (List.map String.ofList) (List.cons.inj hfields).2
  simpa only [List.map_map, Function.comp_def, String.ofList_toList] using htexts

end Conform.Pointer
