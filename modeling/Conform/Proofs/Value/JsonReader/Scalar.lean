import Conform.Value.JsonReader
import Conform.Text.Quoted

/-!
# Reading strings and numbers of JSON back

A character reads back as it was escaped, with a letter or with the codes of its halves
(`jsonEscaped_cases`, `character?_jsonEscaped`); so does a string after its first quote
(`string?_jsonQuoted`). The digits of an integer read back as the integer where no other character
of a number follows (`toList_int`).
-/

namespace Conform

namespace JsonReader

/-! ## Characters -/

theorem hexDigit?_digitChar : ∀ d < 16, hexDigit? (Nat.digitChar d) = some d := by decide

/-- Four hexadecimal digits read back as the code they were written for. -/
theorem unit?_hex {n : Nat} (hn : n ≤ 0xffff) (rest : List Char) :
    unit? (Text.hex 4 n ++ rest) = some (n, rest) := by
  have hhex : Text.hex 4 n = [Nat.digitChar (n / 16 / 16 / 16 % 16),
      Nat.digitChar (n / 16 / 16 % 16), Nat.digitChar (n / 16 % 16), Nat.digitChar (n % 16)] := rfl
  have hdigit (d : Nat) : hexDigit? (Nat.digitChar (d % 16)) = some (d % 16) :=
    hexDigit?_digitChar _ (Nat.mod_lt _ (by decide))
  rw [hhex]
  simp only [List.cons_append, List.nil_append, unit?, List.mapM_cons, List.mapM_nil, hdigit]
  simp
  omega

/-- A code that is no half of a pair is that of a character. -/
theorem coded?_unit {c : Char} (hc : c.toNat ≤ 0xffff) (rest : List Char) :
    coded? (Text.hex 4 c.toNat ++ rest) = some (c, rest) := by
  have hvalid : c.toNat < 0xd800 ∨ 0xe000 ≤ c.toNat := by
    rcases c.valid with h | ⟨h, -⟩
    · exact .inl h
    · exact .inr h
  have hwhole : (decide (c.toNat < 0xd800) || decide (0xe000 ≤ c.toNat)) = true := by
    simpa using hvalid
  simp only [coded?, unit?_hex hc, Option.bind_eq_bind, Option.bind_some, hwhole, if_true,
    Char.ofNat_toNat]

/-- Two codes that are the halves of a pair are read as one. -/
theorem coded?_halves {high low : Nat} (hhigh : 0xd800 ≤ high) (hhigh' : high < 0xdc00)
    (hlow : 0xdc00 ≤ low) (hlow' : low < 0xe000) (rest : List Char) :
    coded? (Text.hex 4 high ++ '\\' :: 'u' :: (Text.hex 4 low ++ rest)) =
      some (Char.ofNat (0x10000 + (high - 0xd800) * 0x400 + (low - 0xdc00)), rest) := by
  have hhalf : ¬(decide (high < 0xd800) || decide (0xe000 ≤ high)) = true := by
    simp only [Bool.or_eq_true, decide_eq_true_eq]
    omega
  have hpair : (decide (high < 0xdc00) && decide (0xdc00 ≤ low) && decide (low < 0xe000)) =
      true := by
    simp only [Bool.and_eq_true, decide_eq_true_eq]
    omega
  simp only [coded?, unit?_hex (show high ≤ 0xffff by omega),
    unit?_hex (show low ≤ 0xffff by omega), Option.bind_eq_bind, Option.bind_some, if_neg hhalf,
    hpair, if_true]

/-- The codes of a pair are those of a character above all single ones. -/
theorem coded?_pair {c : Char} (hc : 0xffff < c.toNat) (rest : List Char) :
    coded? (Text.hex 4 (0xd800 + (c.toNat - 0x10000) / 0x400) ++
      '\\' :: 'u' :: (Text.hex 4 (0xdc00 + (c.toNat - 0x10000) % 0x400) ++ rest)) =
        some (c, rest) := by
  have hlast : c.toNat < 0x110000 := by
    rcases c.valid with h | ⟨-, h⟩
    · exact Nat.lt_trans h (by decide)
    · exact h
  generalize hhigh : 0xd800 + (c.toNat - 0x10000) / 0x400 = high
  generalize hlow : 0xdc00 + (c.toNat - 0x10000) % 0x400 = low
  have hcode : 0x10000 + (high - 0xd800) * 0x400 + (low - 0xdc00) = c.toNat := by omega
  rw [coded?_halves (by omega) (by omega) (by omega) (by omega), hcode, Char.ofNat_toNat]

/-- How a character of a string is escaped: with a letter, not at all, or by its codes. -/
theorem jsonEscaped_cases (c : Char) :
    (∃ letter, Text.jsonEscaped c = ['\\', letter] ∧ letter ≠ 'u' ∧
      escapes.lookup letter = some c) ∨
    (c ≠ '"' ∧ c ≠ '\\' ∧ 0x20 ≤ c.toNat ∧ Text.jsonEscaped c = [c]) ∨
    (c.toNat ≤ 0xffff ∧ Text.jsonEscaped c = '\\' :: 'u' :: Text.hex 4 c.toNat) ∨
    (0xffff < c.toNat ∧ Text.jsonEscaped c =
      '\\' :: 'u' :: (Text.hex 4 (0xd800 + (c.toNat - 0x10000) / 0x400) ++
        '\\' :: 'u' :: Text.hex 4 (0xdc00 + (c.toNat - 0x10000) % 0x400))) := by
  unfold Text.jsonEscaped
  dsimp only
  repeat' split
  · rename_i h
    rcases h with rfl | rfl
    · exact .inl ⟨'"', rfl, by decide, rfl⟩
    · exact .inl ⟨'\\', rfl, by decide, rfl⟩
  · rename_i h
    exact .inl ⟨'n', rfl, by decide, h ▸ rfl⟩
  · rename_i h
    exact .inl ⟨'r', rfl, by decide, h ▸ rfl⟩
  · rename_i h
    exact .inl ⟨'t', rfl, by decide, h ▸ rfl⟩
  · rename_i h
    exact .inl ⟨'b', rfl, by decide, h ▸ rfl⟩
  · rename_i h
    exact .inl ⟨'f', rfl, by decide, h ▸ rfl⟩
  · rename_i hquote _ _ _ _ _ h
    exact .inr (.inl ⟨fun hc => hquote (.inl hc), fun hc => hquote (.inr hc), h.1, rfl⟩)
  · rename_i h
    exact .inr (.inr (.inl ⟨h, rfl⟩))
  · rename_i h
    exact .inr (.inr (.inr ⟨Nat.lt_of_not_le h, rfl⟩))

theorem character?_letter {letter c : Char} (hletter : letter ≠ 'u')
    (hlookup : escapes.lookup letter = some c) (rest : List Char) :
    character? ('\\' :: letter :: rest) = some (c, rest) := by
  rw [character?.eq_def]
  split
  · rename_i heq
    cases heq
    exact absurd rfl hletter
  · rename_i heq
    cases heq
    rw [hlookup, Option.map_some]
  · rename_i hcoded hescaped heq
    cases heq
    exact (hescaped letter rest rfl rfl).elim
  · rename_i heq
    cases heq

theorem character?_plain {c : Char} (hquote : c ≠ '"') (hslash : c ≠ '\\')
    (hblank : 0x20 ≤ c.toNat) (rest : List Char) : character? (c :: rest) = some (c, rest) := by
  rw [character?.eq_def]
  split
  · rename_i heq
    exact absurd (List.cons.inj heq).1 hslash
  · rename_i heq
    exact absurd (List.cons.inj heq).1 hslash
  · rename_i heq
    cases heq
    have hallowed : ¬(decide (c = '"') || decide (c = '\\') || decide (c.toNat < 0x20)) = true := by
      simp only [Bool.or_eq_true, decide_eq_true_eq]
      exact fun h => h.elim (fun h => h.elim hquote hslash) (Nat.not_lt.2 hblank)
    exact if_neg hallowed
  · rename_i heq
    cases heq

/-- A character of a string reads back as it was escaped. -/
theorem character?_jsonEscaped (c : Char) (rest : List Char) :
    character? (Text.jsonEscaped c ++ rest) = some (c, rest) := by
  rcases jsonEscaped_cases c with ⟨letter, h, hletter, hlookup⟩ | ⟨hquote, hslash, hblank, h⟩ |
    ⟨hc, h⟩ | ⟨hc, h⟩
  · rw [h]
    exact character?_letter hletter hlookup rest
  · rw [h]
    exact character?_plain hquote hslash hblank rest
  · rw [h]
    exact coded?_unit hc rest
  · rw [h]
    simp only [List.cons_append, List.append_assoc]
    exact coded?_pair hc rest

/-! ## Strings -/

theorem jsonEscaped_ne_quote (c : Char) :
    ∃ first tail, Text.jsonEscaped c = first :: tail ∧ first ≠ '"' := by
  rcases jsonEscaped_cases c with ⟨letter, h, -⟩ | ⟨hquote, -, -, h⟩ | ⟨-, h⟩ | ⟨-, h⟩
  · exact ⟨_, _, h, by decide⟩
  · exact ⟨_, _, h, hquote⟩
  · exact ⟨_, _, h, by decide⟩
  · exact ⟨_, _, h, by decide⟩

theorem characters?_step {first c : Char} {s rest : List Char} (hfirst : first ≠ '"')
    (hc : character? (first :: s) = some (c, rest)) (fuel : Nat) :
    characters? (fuel + 1) (first :: s) =
      (characters? fuel rest).map fun others => (c :: others.1, others.2) := by
  rw [characters?.eq_def]
  split
  · rename_i heq
    exact absurd (List.cons.inj heq).1 hfirst
  · rename_i hfuel _
    cases hfuel
  · rename_i hfuel _
    cases hfuel
    rw [hc]
    show Option.bind _ _ = _
    rw [Option.bind_some]
    cases hothers : characters? fuel rest <;> simp [hothers]

/-- The characters of a string read back as they were escaped. -/
theorem characters?_escaped (rest : List Char) : ∀ {fuel : Nat} {chars : List Char},
    chars.length ≤ fuel →
      characters? fuel (chars.flatMap Text.jsonEscaped ++ '"' :: rest) = some (chars, rest)
  | fuel, [], _ => by
    rw [List.flatMap_nil, List.nil_append]
    unfold characters?
    rfl
  | fuel + 1, c :: chars, h => by
    obtain ⟨first, tail, hescaped, hfirst⟩ := jsonEscaped_ne_quote c
    have hcharacter := character?_jsonEscaped c (chars.flatMap Text.jsonEscaped ++ '"' :: rest)
    rw [hescaped, List.cons_append] at hcharacter
    rw [List.flatMap_cons, List.append_assoc, hescaped, List.cons_append,
      characters?_step hfirst hcharacter, characters?_escaped rest (Nat.le_of_succ_le_succ h),
      Option.map_some]

theorem length_le_flatMap (chars : List Char) :
    chars.length ≤ (chars.flatMap Text.jsonEscaped).length := by
  induction chars with
  | nil => exact Nat.le_refl _
  | cons c chars ih =>
    obtain ⟨first, tail, hescaped, -⟩ := jsonEscaped_ne_quote c
    rw [List.flatMap_cons, List.length_append, hescaped, List.length_cons, List.length_cons]
    omega

/-- A string reads back as it was quoted, after the first of its quotes. -/
theorem string?_jsonQuoted (s : String) (rest : List Char) :
    string? (s.toList.flatMap Text.jsonEscaped ++ '"' :: rest) = some (s, rest) := by
  have hfuel : s.toList.length ≤ (s.toList.flatMap Text.jsonEscaped ++ '"' :: rest).length := by
    have hlength := length_le_flatMap s.toList
    rw [List.length_append]
    omega
  rw [string?, characters?_escaped rest hfuel, Option.map_some]
  show some (String.ofList s.toList, rest) = _
  rw [String.ofList_toList]

theorem toList_jsonQuoted (s : String) :
    (Text.jsonQuoted s).toList = '"' :: (s.toList.flatMap Text.jsonEscaped ++ ['"']) := by
  rw [Text.jsonQuoted, String.toList_ofList]
  rfl

/-! ## Numbers -/

theorem isDigit_of_mem_toDigits {n : Nat} {c : Char} (h : c ∈ Nat.toDigits 10 n) :
    isDigit c = true := by
  have hdigit := Nat.isDigit_of_mem_toDigits (by decide) (Nat.le_refl 10) h
  simp only [isDigit, Bool.and_eq_true, decide_eq_true_eq]
  simpa [Char.isDigit, Char.le_def] using hdigit

theorem decimal_toDigits (n : Nat) : decimal (Nat.toDigits 10 n) = n := by
  have hfold : decimal (Nat.toDigits 10 n) = Nat.ofDigitChars 10 (Nat.toDigits 10 n) 0 := by
    simp only [decimal, Nat.ofDigitChars, Nat.mul_comm 10]
    rfl
  rw [hfold, Nat.ofDigitChars_toDigits (by decide) (Nat.le_refl 10)]

/-- The first digit is zero only if it is alone. -/
theorem toDigits_ne_zero_cons (n : Nat) (c : Char) (rest : List Char) :
    Nat.toDigits 10 n ≠ '0' :: c :: rest := by
  have hhead : ∀ (n : Nat) (rest : List Char), Nat.toDigits 10 n = '0' :: rest → n = 0 := by
    intro n
    induction n using Nat.strongRecOn with
    | _ n ih =>
      intro rest h
      rw [Nat.toDigits_eq_if (by decide)] at h
      split at h
      · rename_i hsmall
        have hdigit : ∀ d < 10, Nat.digitChar d = '0' → d = 0 := by decide
        exact hdigit n hsmall (List.cons.inj h).1
      · rename_i hlarge
        cases hdigits : Nat.toDigits 10 (n / 10) with
        | nil => exact absurd hdigits Nat.toDigits_ne_nil
        | cons first others =>
          rw [hdigits, List.cons_append] at h
          rw [(List.cons.inj h).1] at hdigits
          have hzero := ih (n / 10) (by omega) others hdigits
          omega
  intro h
  rw [hhead n _ h] at h
  exact absurd h (by simp)

/-- What may stand after a value: nothing, a blank, a comma or the end of what the value is in. -/
def Ends (rest : List Char) : Prop :=
  ∀ c tail, rest = c :: tail → isSpace c = true ∨ c = ',' ∨ c = ']' ∨ c = '\x7d'

theorem Ends.head {c : Char} {tail : List Char} (h : Ends (c :: tail)) :
    isDigit c = false ∧ c ≠ '.' ∧ c ≠ 'e' ∧ c ≠ 'E' := by
  rcases h c tail rfl with h | rfl | rfl | rfl
  · simp only [isSpace, Bool.or_eq_true, decide_eq_true_eq] at h
    rcases h with ((rfl | rfl) | rfl) | rfl <;> decide
  · decide
  · decide
  · decide

theorem digits?_toDigits (n : Nat) {rest : List Char} (h : Ends rest) :
    digits? (Nat.toDigits 10 n ++ rest) = some (Nat.toDigits 10 n, rest) := by
  have hall : ∀ c ∈ Nat.toDigits 10 n, isDigit c = true := fun c => isDigit_of_mem_toDigits
  have hrest : rest.takeWhile isDigit = [] ∧ rest.dropWhile isDigit = rest := by
    cases rest with
    | nil => exact ⟨rfl, rfl⟩
    | cons c tail => simp [h.head.1]
  have htake : (Nat.toDigits 10 n ++ rest).takeWhile isDigit = Nat.toDigits 10 n := by
    rw [List.takeWhile_append_of_pos hall, hrest.1, List.append_nil]
  have hdrop : (Nat.toDigits 10 n ++ rest).dropWhile isDigit = rest := by
    rw [List.dropWhile_append_of_pos hall, hrest.2]
  rw [digits?, htake, hdrop]
  simp

theorem whole?_toDigits (n : Nat) {rest : List Char} (h : Ends rest) :
    whole? (Nat.toDigits 10 n ++ rest) = some (Nat.toDigits 10 n, rest) := by
  rw [whole?, digits?_toDigits n h]
  simp only [Option.bind_eq_bind, Option.bind_some]
  split
  · rename_i c others hdigits
    exact absurd hdigits (toDigits_ne_zero_cons n c others)
  · rfl

theorem fraction?_of_ends {rest : List Char} (h : Ends rest) :
    fraction? rest = some ([], rest) := by
  unfold fraction?
  split
  · exact absurd rfl h.head.2.1
  · rfl

theorem exponent?_of_ends {rest : List Char} (h : Ends rest) :
    exponent? rest = some (none, rest) := by
  cases rest with
  | nil => rfl
  | cons c tail =>
    have hletter : ¬(decide (c = 'e') || decide (c = 'E')) = true := by
      simp only [Bool.or_eq_true, decide_eq_true_eq]
      exact fun hc => hc.elim h.head.2.2.1 h.head.2.2.2
    exact if_neg hletter

theorem magnitude?_toDigits (negative : Bool) (n : Nat) {rest : List Char} (h : Ends rest) :
    magnitude? negative (Nat.toDigits 10 n ++ rest) =
      some (.int (if negative then -(n : Int) else n), rest) := by
  rw [magnitude?, whole?_toDigits n h]
  simp [fraction?_of_ends h, exponent?_of_ends h, decimal_toDigits]

/-- A number begins with a digit or with a minus sign. -/
def IsNumeric (c : Char) : Prop := isDigit c = true ∨ c = '-'

instance : DecidablePred IsNumeric := fun _ => inferInstanceAs (Decidable (_ ∨ _))

theorem IsNumeric.isSpace {c : Char} (h : IsNumeric c) : isSpace c = false := by
  cases hspace : JsonReader.isSpace c with
  | false => rfl
  | true =>
    simp only [JsonReader.isSpace, Bool.or_eq_true, decide_eq_true_eq] at hspace
    rcases hspace with ((rfl | rfl) | rfl) | rfl <;> exact absurd h (by decide)

/-- The text of an integer reads back as the integer. -/
theorem toList_int (n : Int) : ∃ first tail, (toString n).toList = first :: tail ∧
    IsNumeric first ∧ ∀ rest, Ends rest →
      number? (first :: tail ++ rest) = some (.int n, rest) := by
  have htext : toString n = if 0 ≤ n then n.toNat.repr else "-" ++ (-n).toNat.repr := Int.repr_eq_if
  rw [htext]
  by_cases hn : 0 ≤ n
  · rw [if_pos hn, Nat.toList_repr]
    cases hdigits : Nat.toDigits 10 n.toNat with
    | nil => exact absurd hdigits Nat.toDigits_ne_nil
    | cons first tail =>
      have hfirst : isDigit first = true :=
        isDigit_of_mem_toDigits (hdigits ▸ List.mem_cons_self : first ∈ Nat.toDigits 10 n.toNat)
      refine ⟨first, tail, rfl, .inl hfirst, fun rest hrest => ?_⟩
      have hplain : number? (first :: tail ++ rest) = magnitude? false (first :: tail ++ rest) := by
        unfold number?
        split
        · rename_i heq
          rw [(List.cons.inj heq).1] at hfirst
          exact absurd hfirst (by decide)
        · rfl
      rw [hplain, ← hdigits, magnitude?_toDigits false n.toNat hrest]
      simp [Int.toNat_of_nonneg hn]
  · rw [if_neg hn, String.toList_append, Nat.toList_repr]
    refine ⟨'-', Nat.toDigits 10 (-n).toNat, rfl, .inr rfl, fun rest hrest => ?_⟩
    show magnitude? true (Nat.toDigits 10 (-n).toNat ++ rest) = _
    rw [magnitude?_toDigits true _ hrest]
    simp only [if_true, Option.some.injEq, Prod.mk.injEq, Value.int.injEq, and_true]
    omega

end JsonReader

end Conform
