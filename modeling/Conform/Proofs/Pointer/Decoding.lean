import Conform.Proofs.Pointer.Resolution

/-!
# Pointers and their paths

A token is escaped as if every `~` in it were replaced first and every slash after that
(`escapeToken_eq_replaced`); `unescapeToken` replaces in the reverse order. `IsPointer` says which
texts are pointers: empty or with a slash in front, and with the digit of an escape behind each `~`.
They are the pointers of the paths of names and no other texts, and each path of names has a pointer
of its own (`join_decodable`).

That every pointer has a path is shown without cutting it at the slashes: at each place in it, what
comes is the rest of one token and then tokens in full (`exists_tokens`).
-/

namespace Conform.Pointer

/-- Behind each `~` there is a `0` or a `1`. -/
def Escaped (chars : List Char) : Prop :=
  ∀ i : Nat, chars[i]? = some '~' → chars[i + 1]? = some '0' ∨ chars[i + 1]? = some '1'

def IsPointer (text : String) : Prop :=
  (text = "" ∨ text.toList.head? = some '/') ∧ Escaped text.toList

/-! ## Escaping -/

theorem escapeToken_eq_replaced (token : List Char) : escapeToken token =
    (escapeTildes token).flatMap fun c => if c = '/' then ['~', '1'] else [c] := by
  induction token with
  | nil => rfl
  | cons c token ih =>
    have htildes : escapeTildes (c :: token) =
        (if c = '~' then ['~', '0'] else [c]) ++ escapeTildes token := rfl
    rw [escapeToken_cons, ih, htildes, List.flatMap_append]
    refine congrArg (· ++ _) ?_
    rcases escapeChar_cases c with ⟨rfl, hc⟩ | ⟨rfl, hc⟩ | ⟨htilde, hslash, hc⟩
    · rfl
    · rfl
    · rw [hc, if_neg htilde, List.flatMap_singleton, if_neg hslash]

theorem escaped_nil : Escaped [] := nofun

theorem escaped_cons_iff {c : Char} {rest : List Char} : Escaped (c :: rest) ↔
    (c = '~' → rest[0]? = some '0' ∨ rest[0]? = some '1') ∧ Escaped rest := by
  constructor
  · intro h
    exact ⟨fun hc => h 0 (congrArg some hc), fun i => h (i + 1)⟩
  · rintro ⟨hfirst, hrest⟩ i hi
    cases i with
    | zero => exact hfirst (Option.some.inj hi)
    | succ i => exact hrest i hi

theorem Escaped.escapeChar_append (c : Char) {rest : List Char} (h : Escaped rest) :
    Escaped (escapeChar c ++ rest) := by
  rcases escapeChar_cases c with ⟨-, hc⟩ | ⟨-, hc⟩ | ⟨htilde, -, hc⟩
  · simp [hc, escaped_cons_iff, h]
  · simp [hc, escaped_cons_iff, h]
  · simp [hc, escaped_cons_iff, h, htilde]

theorem Escaped.escapeToken_append (token : List Char) {rest : List Char} (h : Escaped rest) :
    Escaped (escapeToken token ++ rest) := by
  induction token with
  | nil => exact h
  | cons c token ih =>
    rw [escapeToken_cons, List.append_assoc]
    exact ih.escapeChar_append c

theorem escaped_joinTokens (tokens : List (List Char)) : Escaped (joinTokens tokens) := by
  induction tokens with
  | nil => exact escaped_nil
  | cons token tokens ih =>
    rw [joinTokens_cons, escaped_cons_iff]
    exact ⟨fun h => absurd h (by decide), ih.escapeToken_append token⟩

/-! ## Reading -/

/-- An escaped text is the rest of a token and the tokens after it. -/
theorem exists_tokens : ∀ {chars : List Char}, Escaped chars →
    ∃ token tokens, escapeToken token ++ joinTokens tokens = chars
  | [], _ => ⟨[], [], rfl⟩
  | c :: rest, h => by
    obtain ⟨hdigit, hrest⟩ := escaped_cons_iff.1 h
    by_cases htilde : c = '~'
    · -- the digit belongs to the escape, so it is what comes after it that is read
      match rest, hdigit htilde, hrest with
      | d :: after, hd, hafter =>
        obtain ⟨token, tokens, rfl⟩ := exists_tokens (escaped_cons_iff.1 hafter).2
        rcases hd with hd | hd <;> obtain rfl := Option.some.inj hd
        · exact ⟨'~' :: token, tokens, by rw [htilde]; rfl⟩
        · exact ⟨'/' :: token, tokens, by rw [htilde]; rfl⟩
    · obtain ⟨token, tokens, rfl⟩ := exists_tokens hrest
      by_cases hslash : c = '/'
      · exact ⟨[], token :: tokens, by rw [hslash]; rfl⟩
      · have hplain : escapeChar c = [c] := by rw [escapeChar, if_neg htilde, if_neg hslash]
        exact ⟨c :: token, tokens, by rw [escapeToken_cons, hplain]; rfl⟩

theorem texts_names (names : List String) : (names.map Value.str).map Value.text = names := by
  rw [List.map_map]
  exact List.map_id names

theorem join_str (names : List String) :
    join (names.map .str) = String.ofList (joinTokens (names.map String.toList)) := by
  rw [join, List.map_map]
  rfl

theorem isPointer_join (names : List String) : IsPointer (join (names.map .str)) := by
  rw [join_str]
  refine ⟨?_, String.toList_ofList ▸ escaped_joinTokens _⟩
  cases names with
  | nil => exact .inl rfl
  | cons name names => exact .inr (by rw [String.toList_ofList]; rfl)

theorem exists_join {pointer : String} (h : IsPointer pointer) :
    ∃ names : List String, join (names.map .str) = pointer := by
  obtain ⟨hstart, hescaped⟩ := h
  have hnames (tokens : List (List Char)) :
      ((tokens.map String.ofList).map String.toList) = tokens := by
    rw [List.map_map]
    exact List.map_id'' (fun token => String.toList_ofList) tokens
  rcases hstart with rfl | hslash
  · exact ⟨[], rfl⟩
  · obtain ⟨rest, hchars⟩ := List.head?_eq_some_iff.1 hslash
    rw [hchars] at hescaped
    obtain ⟨token, tokens, hrest⟩ := exists_tokens (escaped_cons_iff.1 hescaped).2
    refine ⟨(token :: tokens).map String.ofList, ?_⟩
    rw [join_str, hnames, joinTokens_cons, hrest, ← hchars, String.ofList_toList]

/-- The tokens of the pointer of a path of names are these names, whatever characters they are made
of. A text that is empty or begins with a slash, with `0` or `1` behind each `~`, is the pointer of
its own tokens, and there are no other pointers. So paths of names with the same pointer are the
same, and the pointer of two paths one after the other is that of the first and then that of the
second. -/
theorem join_decodable :
    (∀ names : List String, tokens? (join (names.map .str)) = some names) ∧
    (∀ pointer : String, IsPointer pointer ↔
      ∃ names, tokens? pointer = some names ∧ join (names.map .str) = pointer) ∧
    (∀ names others : List String,
      join (names.map .str) = join (others.map .str) → names = others) ∧
    ∀ path other : Path, join (path ++ other) = join path ++ join other := by
  have hdecodes (names : List String) : tokens? (join (names.map .str)) = some names := by
    rw [tokens?_join, texts_names]
  refine ⟨hdecodes, fun pointer => ⟨fun h => ?_, ?_⟩, fun names others h => ?_, join_append⟩
  · obtain ⟨names, rfl⟩ := exists_join h
    exact ⟨names, hdecodes names, rfl⟩
  · rintro ⟨names, -, rfl⟩
    exact isPointer_join names
  · have htexts := texts_of_join h
    rwa [texts_names, texts_names] at htexts

/-- Names that look like escapes themselves, and one without characters. -/
theorem join_decodable_tildes :
    tokens? (join (["~1", "", "~~/"].map .str)) = some ["~1", "", "~~/"] ∧
    ∃ names, tokens? "/~01//~0~0~1" = some names ∧ join (names.map .str) = "/~01//~0~0~1" := by
  refine ⟨join_decodable.1 _, (join_decodable.2.1 _).1 ⟨.inr rfl, ?_⟩⟩
  simp [escaped_cons_iff, escaped_nil]

end Conform.Pointer
