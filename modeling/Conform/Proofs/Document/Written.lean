import Conform.Proofs.Document.Version
import Conform.Proofs.Value.Writable
import Mathlib.Data.Nat.Digits.Defs

/-!
# How versions are written

`Version.Written` is the notation of versions: blanks, a `v` that may be left out, three runs of
decimal digits between full stops, and blanks again. The digits are those of any script, and a run
of them has its value in base ten (`Version.Numeral`). A text is read as a version if and only if it
is written so with no more digits than are read (`Version.parse_eq_ok_iff`), and then the version
can be written again (`Version.hasText_of_parse`).
-/

namespace Conform

/-! ## Digits and other characters -/

theorem Unicode.digitValue?_ascii {c d : Nat} (h : Unicode.digitValue? c = some d) (hc : c < 128) :
    48 ≤ c ∧ c ≤ 57 := by
  rw [digitValue?, if_pos hc] at h
  by_contra hdigit
  rw [if_neg hdigit] at h
  cases h

theorem Unicode.digitValue?_lt {c d : Nat} (h : Unicode.digitValue? c = some d) : d < 10 := by
  rw [digitValue?] at h
  split at h
  · split at h
    · obtain rfl := Option.some.inj h
      omega
    · cases h
  · obtain ⟨first, hfind, rfl⟩ := Option.map_eq_some_iff.1 h
    have hfirst := List.find?_some hfind
    simp only [Bool.and_eq_true, decide_eq_true_eq] at hfirst
    omega

/-- No script has its digits among the blanks. -/
theorem Unicode.isBlank_of_digitValue? {c : Char} {d : Nat}
    (h : Unicode.digitValue? c.toNat = some d) : Unicode.isBlank c = false := by
  have happart : ∀ first ∈ digitZeros, ∀ range ∈ blankRanges,
      first + 10 ≤ range.1 ∨ range.2 < first := by decide
  have hascii : ∀ range ∈ blankRanges, range.2 < 48 ∨ 57 < range.1 := by decide
  rw [isBlank, isBlankCode, Ranges.contains, List.any_eq_false]
  intro range hrange hc
  simp only [Bool.and_eq_true, decide_eq_true_eq] at hc
  by_cases hsmall : c.toNat < 128
  · have := digitValue?_ascii h hsmall
    have := hascii range hrange
    omega
  · rw [digitValue?, if_neg hsmall] at h
    obtain ⟨first, hfind, -⟩ := Option.map_eq_some_iff.1 h
    have hfirst := List.find?_some hfind
    simp only [Bool.and_eq_true, decide_eq_true_eq] at hfirst
    have := happart first (List.mem_of_find?_eq_some hfind) range hrange
    omega

namespace Version

/-! ## Numerals -/

/-- One or more decimal digits, and the number that they write in base ten. -/
def Numeral (digits : List Char) (n : Nat) : Prop :=
  digits ≠ [] ∧ ∃ values : List Nat,
    digits.map (fun c => Unicode.digitValue? c.toNat) = values.map some ∧
      Nat.ofDigits 10 values.reverse = n

theorem Numeral.exists_value {digits : List Char} {n : Nat} (h : Numeral digits n) {c : Char}
    (hc : c ∈ digits) : ∃ d, Unicode.digitValue? c.toNat = some d := by
  obtain ⟨-, values, hvalues, -⟩ := h
  have hmem : Unicode.digitValue? c.toNat ∈ values.map some :=
    hvalues ▸ List.mem_map_of_mem (f := fun c : Char => Unicode.digitValue? c.toNat) hc
  obtain ⟨d, -, hd⟩ := List.mem_map.1 hmem
  exact ⟨d, hd.symm⟩

theorem Numeral.not_mem {digits : List Char} {n : Nat} (h : Numeral digits n) {c : Char}
    (hc : Unicode.digitValue? c.toNat = none) : c ∉ digits := by
  intro hmem
  obtain ⟨d, hd⟩ := h.exists_value hmem
  cases hc.symm.trans hd

theorem Numeral.lt {digits : List Char} {n : Nat} (h : Numeral digits n) :
    n < 10 ^ digits.length := by
  obtain ⟨-, values, hvalues, rfl⟩ := h
  have hlength : values.reverse.length = digits.length := by
    have := congrArg List.length hvalues
    simpa using this.symm
  rw [← hlength]
  refine Nat.ofDigits_lt_base_pow_length (by decide) fun d hd => ?_
  have hmem : some d ∈ digits.map fun c => Unicode.digitValue? c.toNat :=
    hvalues ▸ List.mem_map_of_mem (List.mem_reverse.1 hd)
  obtain ⟨c, -, hc⟩ := List.mem_map.1 hmem
  exact Unicode.digitValue?_lt hc

theorem foldlM_eq_some_iff {digits : List Char} {sum n : Nat} :
    digits.foldlM (fun sum c => do
      let d ← Unicode.digitValue? c.toNat
      some (sum * 10 + d)) sum = some n ↔
      ∃ values : List Nat, digits.map (fun c => Unicode.digitValue? c.toNat) = values.map some ∧
        values.foldl (fun sum d => sum * 10 + d) sum = n := by
  induction digits generalizing sum with
  | nil =>
    constructor
    · exact fun h => ⟨[], rfl, Option.some.inj h⟩
    · rintro ⟨values, hvalues, h⟩
      obtain rfl := List.map_eq_nil_iff.1 hvalues.symm
      exact congrArg some h
  | cons c digits ih =>
    rw [List.foldlM_cons, List.map_cons]
    cases hc : Unicode.digitValue? c.toNat with
    | none =>
      refine iff_of_false nofun ?_
      rintro ⟨values, hvalues, -⟩
      cases values <;> cases hvalues
    | some d =>
      show digits.foldlM _ (sum * 10 + d) = some n ↔ _
      rw [ih]
      constructor
      · rintro ⟨values, hvalues, h⟩
        exact ⟨d :: values, congrArg (some d :: ·) hvalues, h⟩
      · rintro ⟨values, hvalues, h⟩
        cases values with
        | nil => cases hvalues
        | cons other values =>
          obtain ⟨hd, htail⟩ := List.cons.inj hvalues
          obtain rfl := Option.some.inj hd
          exact ⟨values, htail, h⟩

theorem foldl_eq_ofDigits (values : List Nat) :
    values.foldl (fun sum d => sum * 10 + d) 0 = Nat.ofDigits 10 values.reverse := by
  rw [Nat.ofDigits_eq_foldr, List.foldr_reverse]
  congr
  funext sum d
  rw [Nat.cast_id, Nat.add_comm, Nat.mul_comm]

theorem number?_eq_some_iff {digits : List Char} {n : Nat} :
    number? digits = some n ↔ Numeral digits n := by
  cases digits with
  | nil => exact iff_of_false nofun fun h => h.1 rfl
  | cons c digits =>
    have hnumber : number? (c :: digits) = (c :: digits).foldlM (fun sum c => do
      let d ← Unicode.digitValue? c.toNat
      some (sum * 10 + d)) 0 := rfl
    rw [hnumber, foldlM_eq_some_iff, Numeral]
    simp only [foldl_eq_ofDigits, ne_eq, reduceCtorEq, not_false_eq_true, true_and]

/-! ## Versions -/

/-- A text is a version, announced or not, that may have blanks on both sides. -/
def Written (s : List Char) (version : Version) : Prop :=
  ∃ before mark major minor patch after,
    s = before ++ (mark ++ (major ++ '.' :: (minor ++ '.' :: patch))) ++ after ∧
      (∀ c ∈ before, Unicode.isBlank c = true) ∧ (∀ c ∈ after, Unicode.isBlank c = true) ∧
      (mark = [] ∨ mark = ['v']) ∧ Numeral major version.major ∧ Numeral minor version.minor ∧
      Numeral patch version.patch

/-- The text without the announcement. -/
def unmark : List Char → List Char
  | 'v' :: rest => rest
  | s => s

theorem exists_mark (s : List Char) :
    ∃ mark, (mark = [] ∨ mark = ['v']) ∧ s = mark ++ unmark s := by
  unfold unmark
  split
  · exact ⟨['v'], .inr rfl, rfl⟩
  · exact ⟨[], .inl rfl, rfl⟩

theorem ofChars?_eq (s : List Char) : ofChars? s =
    match Text.fields '.' (unmark (Unicode.trimBlanks s)) with
    | [major, minor, patch] => do some ⟨← number? major, ← number? minor, ← number? patch⟩
    | _ => none := rfl

/-- Three numerals between full stops are read as what they write. -/
theorem fields_eq_some_iff {s : List Char} {version : Version} :
    (match Text.fields '.' s with
      | [major, minor, patch] => do some ⟨← number? major, ← number? minor, ← number? patch⟩
      | _ => none : Option Version) = some version ↔
      ∃ major minor patch, s = major ++ '.' :: (minor ++ '.' :: patch) ∧
        Numeral major version.major ∧ Numeral minor version.minor ∧
        Numeral patch version.patch := by
  simp only [← number?_eq_some_iff]
  constructor
  · intro h
    split at h
    · rename_i major minor patch hfields
      have hs := @Text.intercalate_fields '.' s
      rw [hfields] at hs
      refine ⟨major, minor, patch, hs.symm.trans (by simp [List.intercalate]), ?_⟩
      simp only [Option.bind_eq_bind, Option.bind_eq_some_iff, Option.some.injEq] at h
      obtain ⟨a, ha, b, hb, c, hc, rfl⟩ := h
      exact ⟨ha, hb, hc⟩
    · cases h
  · rintro ⟨major, minor, patch, rfl, hmajor, hminor, hpatch⟩
    have hpoint {digits : List Char} {n : Nat} (h : number? digits = some n) : '.' ∉ digits :=
      (number?_eq_some_iff.1 h).not_mem rfl
    rw [Text.fields_append _ (hpoint hmajor), Text.fields_append _ (hpoint hminor),
      Text.fields_of_not_mem (hpoint hpatch)]
    simp only [hmajor, hminor, hpatch]
    rfl

theorem Numeral.exists_first {digits : List Char} {n : Nat} (h : Numeral digits n) :
    ∃ c rest d, digits = c :: rest ∧ Unicode.digitValue? c.toNat = some d := by
  cases digits with
  | nil => exact absurd rfl h.1
  | cons c rest =>
    obtain ⟨d, hd⟩ := h.exists_value List.mem_cons_self
    exact ⟨c, rest, d, rfl, hd⟩

theorem Numeral.exists_last {digits : List Char} {n : Nat} (h : Numeral digits n) :
    ∃ init c d, digits = init ++ [c] ∧ Unicode.digitValue? c.toNat = some d := by
  obtain ⟨d, hd⟩ := h.exists_value (List.getLast_mem h.1)
  exact ⟨_, _, d, (List.dropLast_concat_getLast h.1).symm, hd⟩

theorem unmark_mark {mark major rest : List Char} {n : Nat} (hmark : mark = [] ∨ mark = ['v'])
    (h : Numeral major n) : unmark (mark ++ (major ++ rest)) = major ++ rest := by
  rcases hmark with rfl | rfl
  · obtain ⟨c, digits, d, rfl, hd⟩ := h.exists_first
    have hc : c ≠ 'v' := by
      rintro rfl
      cases hd
    simp only [List.nil_append, List.cons_append]
    unfold unmark
    split
    · rename_i heq
      exact absurd (List.cons.inj heq).1 hc
    · rfl
  · rfl

/-- A version begins with its announcement or a digit and ends in a digit, so exactly the blanks on
both sides are trimmed. -/
theorem trimBlanks_written {before after mark major rest patch : List Char} {m p : Nat}
    (hbefore : ∀ c ∈ before, Unicode.isBlank c = true)
    (hafter : ∀ c ∈ after, Unicode.isBlank c = true) (hmark : mark = [] ∨ mark = ['v'])
    (hmajor : Numeral major m) (hpatch : Numeral patch p) :
    Unicode.trimBlanks (before ++ (mark ++ (major ++ (rest ++ patch))) ++ after) =
      mark ++ (major ++ (rest ++ patch)) := by
  obtain ⟨c, digits, d, rfl, hd⟩ := hmajor.exists_first
  obtain ⟨init, last, d', rfl, hd'⟩ := hpatch.exists_last
  have hlast : mark ++ (c :: digits ++ (rest ++ (init ++ [last]))) =
      (mark ++ (c :: digits ++ (rest ++ init))) ++ [last] := by
    simp only [List.append_assoc, List.cons_append]
  rcases hmark with rfl | rfl
  · exact Text.trim_append hbefore hafter rfl hlast (Unicode.isBlank_of_digitValue? hd)
      (Unicode.isBlank_of_digitValue? hd')
  · exact Text.trim_append hbefore hafter rfl hlast (by decide)
      (Unicode.isBlank_of_digitValue? hd')

theorem ofChars?_eq_some_iff {s : List Char} {version : Version} :
    ofChars? s = some version ↔ Written s version := by
  rw [ofChars?_eq, fields_eq_some_iff]
  constructor
  · rintro ⟨major, minor, patch, heq, hnumerals⟩
    obtain ⟨before, after, hs, hbefore, hafter⟩ := Text.exists_trim Unicode.isBlank s
    obtain ⟨mark, hmark, htrim⟩ := exists_mark (Unicode.trimBlanks s)
    rw [heq] at htrim
    exact ⟨before, mark, major, minor, patch, after, htrim ▸ hs, hbefore, hafter, hmark,
      hnumerals⟩
  · rintro ⟨before, mark, major, minor, patch, after, rfl, hbefore, hafter, hmark, hmajor, hminor,
      hpatch⟩
    have hrest : '.' :: (minor ++ '.' :: patch) = '.' :: minor ++ ['.'] ++ patch := by simp
    refine ⟨major, minor, patch, ?_, hmajor, hminor, hpatch⟩
    rw [hrest, trimBlanks_written hbefore hafter hmark hmajor hpatch, unmark_mark hmark hmajor]

/-- The texts that are read as a version are those that are written as one, in as many digits as are
read. -/
theorem parse_eq_ok_iff {s : String} {version : Version} :
    parse s = .ok version ↔ Written s.toList version ∧ FewDigits s.toList := by
  rw [parse_eq_ok, ofChars?_eq_some_iff]

theorem exists_numerals {s : List Char} {version : Version} (h : ofChars? s = some version) :
    ∃ major minor patch, numerals s = [major, minor, patch] ∧ Numeral major version.major ∧
      Numeral minor version.minor ∧ Numeral patch version.patch := by
  unfold ofChars? at h
  split at h
  · rename_i major minor patch hnumerals
    simp only [Option.bind_eq_bind, Option.bind_eq_some_iff, Option.some.injEq,
      number?_eq_some_iff] at h
    obtain ⟨a, ha, b, hb, c, hc, rfl⟩ := h
    exact ⟨major, minor, patch, hnumerals, ha, hb, hc⟩
  · cases h

/-- What has been read in few digits is written in few digits. -/
theorem hasText_of_parse {s : String} {version : Version} (h : parse s = .ok version) :
    version.hasText = true := by
  obtain ⟨hchars, hfew⟩ := parse_eq_ok.1 h
  obtain ⟨major, minor, patch, hnumerals, hmajor, hminor, hpatch⟩ := exists_numerals hchars
  simp only [FewDigits, hnumerals, List.forall_mem_cons] at hfew
  have hwritable {digits : List Char} {n : Nat} (hn : Numeral digits n)
      (hlength : digits.length ≤ Numeral.digitLimit) : isWritable n = true := by
    rw [isWritable_iff, Int.natAbs_natCast]
    exact hn.lt.trans_le (Nat.pow_le_pow_right (by decide) hlength)
  simp only [hasText, Bool.and_eq_true]
  exact ⟨⟨hwritable hmajor hfew.1, hwritable hminor hfew.2.1⟩, hwritable hpatch hfew.2.2.1⟩

end Version

end Conform
