import Conform.Document.Version
import Conform.Proofs.Outcome
import Conform.Proofs.Text.Fields

/-!
# Versions and their texts

The text of a version, numbers of ASCII digits between full stops, reads as that version
(`Version.ofChars?_text`), unless a number has more digits than are read or written
(`Version.parse_text`). The gate lets pass what has no version, or one with the supported major
number (`Version.gate_eq_ok`).
-/

namespace Conform

/-! ## Digits -/

theorem isDigit_iff {c : Char} : c.isDigit = true ↔ 48 ≤ c.toNat ∧ c.toNat ≤ 57 := by
  simp only [Char.isDigit, Bool.and_eq_true, decide_eq_true_eq, ge_iff_le, UInt32.le_iff_toNat_le]
  exact Iff.rfl

theorem digitValue?_of_isDigit {c : Char} (h : c.isDigit = true) :
    Unicode.digitValue? c.toNat = some (c.toNat - '0'.toNat) := by
  have hc := isDigit_iff.1 h
  rw [Unicode.digitValue?, if_pos (by omega), if_pos hc]
  rfl

theorem isBlank_of_isDigit {c : Char} (h : c.isDigit = true) : Unicode.isBlank c = false := by
  have hc := isDigit_iff.1 h
  simp [Unicode.isBlank, Unicode.isBlankCode, Unicode.blankRanges, Unicode.Ranges.contains]
  omega

namespace Version

theorem foldlM_digits : ∀ {digits : List Char} {sum : Nat}, (∀ c ∈ digits, c.isDigit = true) →
    digits.foldlM (fun sum c => do
      let d ← Unicode.digitValue? c.toNat
      some (sum * 10 + d)) sum = some (Nat.ofDigitChars 10 digits sum)
  | [], _, _ => rfl
  | c :: digits, sum, h => by
    obtain ⟨hc, hdigits⟩ := List.forall_mem_cons.1 h
    rw [List.foldlM_cons, digitValue?_of_isDigit hc, Nat.ofDigitChars_cons,
      ← foldlM_digits hdigits, Nat.mul_comm]
    rfl

theorem isDigit_of_mem_toDigits {n : Nat} : ∀ c ∈ Nat.toDigits 10 n, c.isDigit = true :=
  fun _ => Nat.isDigit_of_mem_toDigits (by decide) (by decide)

theorem number?_toDigits (n : Nat) : number? (Nat.toDigits 10 n) = some n := by
  have hne : (Nat.toDigits 10 n).isEmpty = false := by
    rw [List.isEmpty_eq_false_iff]
    exact Nat.toDigits_ne_nil
  rw [number?, hne, if_neg Bool.false_ne_true, foldlM_digits isDigit_of_mem_toDigits,
    Nat.ofDigitChars_toDigits (by decide) (by decide)]

end Version

/-! ## Blanks -/

theorem Unicode.dropWhile_isBlank_eq {s : List Char} (h : ∀ c ∈ s, Unicode.isBlank c = false) :
    s.dropWhile Unicode.isBlank = s := by
  cases s with
  | nil => rfl
  | cons c s => rw [List.dropWhile_cons, h c List.mem_cons_self, if_neg Bool.false_ne_true]

theorem Unicode.trimBlanks_eq {s : List Char} (h : ∀ c ∈ s, Unicode.isBlank c = false) :
    Unicode.trimBlanks s = s := by
  have hreverse : ∀ c ∈ s.reverse, Unicode.isBlank c = false :=
    fun c hc => h c (List.mem_reverse.1 hc)
  rw [trimBlanks, dropWhile_isBlank_eq h, dropWhile_isBlank_eq hreverse, List.reverse_reverse]

/-! ## Texts of versions -/

namespace Version

theorem toList_text (version : Version) : version.text.toList =
    Nat.toDigits 10 version.major ++ '.' :: (Nat.toDigits 10 version.minor ++
      '.' :: Nat.toDigits 10 version.patch) := by
  simp [text, String.toList_append, Nat.toString_eq_repr, Nat.toList_repr]

theorem isBlank_of_mem_text (version : Version) :
    ∀ c ∈ version.text.toList, Unicode.isBlank c = false := by
  have hblank (n : Nat) : ∀ c ∈ Nat.toDigits 10 n, Unicode.isBlank c = false :=
    fun c hc => isBlank_of_isDigit (isDigit_of_mem_toDigits c hc)
  intro c hc
  rw [toList_text] at hc
  simp only [List.mem_append, List.mem_cons] at hc
  rcases hc with hc | rfl | hc | rfl | hc
  · exact hblank _ c hc
  · rfl
  · exact hblank _ c hc
  · rfl
  · exact hblank _ c hc

/-- A version is written without an announcement: a digit comes first. -/
theorem text_ne_announced (version : Version) (rest : List Char) :
    version.text.toList ≠ 'v' :: rest := by
  intro h
  rw [toList_text] at h
  cases hdigits : Nat.toDigits 10 version.major with
  | nil => exact Nat.toDigits_ne_nil hdigits
  | cons c digits =>
    have hc := isDigit_of_mem_toDigits (n := version.major) c (by simp [hdigits])
    rw [hdigits, List.cons_append, List.cons.injEq] at h
    rw [h.1] at hc
    exact absurd hc (by decide)

theorem fields_text (version : Version) : Text.fields '.' version.text.toList =
    [Nat.toDigits 10 version.major, Nat.toDigits 10 version.minor,
      Nat.toDigits 10 version.patch] := by
  have hpoint (n : Nat) : '.' ∉ Nat.toDigits 10 n := fun hmem =>
    absurd (isDigit_of_mem_toDigits _ hmem) (by decide)
  rw [toList_text, Text.fields_append _ (hpoint _), Text.fields_append _ (hpoint _),
    Text.fields_of_not_mem (hpoint _)]

theorem numerals_text (version : Version) : numerals version.text.toList =
    [Nat.toDigits 10 version.major, Nat.toDigits 10 version.minor,
      Nat.toDigits 10 version.patch] := by
  have hplain := text_ne_announced version
  rw [numerals, Unicode.trimBlanks_eq version.isBlank_of_mem_text]
  split
  · rename_i rest heq
    exact absurd heq (hplain rest)
  · exact version.fields_text

theorem ofChars?_text (version : Version) : ofChars? version.text.toList = some version := by
  simp only [ofChars?, version.numerals_text, number?_toDigits]
  rfl

/-- No number of the version that a text writes has more digits than are read. -/
def FewDigits (s : List Char) : Prop := ∀ digits ∈ numerals s, digits.length ≤ Numeral.digitLimit

theorem fewDigits_text_iff (version : Version) :
    FewDigits version.text.toList ↔ version.hasText = true := by
  simp [FewDigits, numerals_text, hasText, isWritable, and_assoc]

theorem parse_eq_ok {s : String} {version : Version} :
    parse s = .ok version ↔ ofChars? s.toList = some version ∧ FewDigits s.toList := by
  have hfew : ((numerals s.toList).all fun digits => digits.length ≤ Numeral.digitLimit) = true ↔
      FewDigits s.toList := by
    simp [FewDigits]
  unfold parse
  cases ofChars? s.toList with
  | none => simp
  | some found =>
    rw [← hfew, Option.some.injEq]
    by_cases h : ((numerals s.toList).all fun digits => digits.length ≤ Numeral.digitLimit) = true
    · simp only [h, if_true, Except.ok.injEq, and_true]
    · simp only [h, if_false, reduceCtorEq, and_false, Bool.false_eq_true]

/-- A version that is written reads as itself. -/
theorem parse_text {version : Version} (h : version.hasText = true) :
    parse version.text = .ok version :=
  parse_eq_ok.2 ⟨version.ofChars?_text, version.fewDigits_text_iff.2 h⟩

theorem format_eq_ok {version : Version} {s : String} :
    version.format = .ok s ↔ version.hasText = true ∧ version.text = s := by
  unfold format
  split <;> rename_i h <;> simp [h]

/-- What there is to say about a supported version. -/
def remark (version : Version) : Option String :=
  if supported.minor < version.minor then some (newerWarning version) else none

/-- The gate lets a document through that declares no version, or one with the supported major
number. -/
theorem gate_eq_ok {declared : Value} {warning : Option String} :
    gate declared = .ok warning ↔
      (declared = .null ∧ warning = some missingWarning) ∨
        ∃ s version, declared = .str s ∧ parse s = .ok version ∧
          version.major = supported.major ∧ warning = version.remark := by
  cases declared with
  | null => simp [gate, eq_comm]
  | str s =>
    have hremark {version : Version} : (if supported.minor < version.minor then
        .ok (some (newerWarning version)) else .ok none : Except VersionFailure (Option String)) =
          .ok version.remark := by
      unfold remark
      split <;> rfl
    cases hs : parse s with
    | error e => simp [gate, ofValue, hs]
    | ok version =>
      by_cases hmajor : version.major = supported.major <;>
        simp [gate, ofValue, hs, hmajor, hremark, eq_comm]
  | _ => simp [gate, ofValue]

end Version

end Conform
