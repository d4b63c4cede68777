import Conform.Proofs.Document.Acceptance
import Conform.Proofs.Document.Written

/-!
# From the gate to the grammar

What the gate lets pass finds its grammar (`Version.gate_then_find`): a declared version is looked
up by its normal text, which is in plain digits whatever script it was declared in, and for the
supported major number there is always one bundled grammar to fall back on. The one way to get past
the gate and no further is a version whose text is too long to be the name of a directory
(`Grammar.find_longVersion`). With still more digits, more than are read, a version does not even
reach the gate's decision (`Version.gate_overlong`).
-/

namespace Conform

/-! ## What the gate says -/

namespace Version

theorem exists_gate_iff (raw : Value) : (∃ warning, gate raw = .ok warning) ↔ raw = .null ∨
    ∃ s version, raw = .str s ∧ Written s.toList version ∧ FewDigits s.toList ∧
      version.major = 0 := by
  simp only [gate_eq_ok, parse_eq_ok_iff]
  constructor
  · rintro ⟨_, ⟨rfl, -⟩ | ⟨s, version, rfl, ⟨hwritten, hfew⟩, hmajor, -⟩⟩
    · exact .inl rfl
    · exact .inr ⟨s, version, rfl, hwritten, hfew, hmajor⟩
  · rintro (rfl | ⟨s, version, rfl, hwritten, hfew, hmajor⟩)
    · exact ⟨_, .inl ⟨rfl, rfl⟩⟩
    · exact ⟨_, .inr ⟨s, version, rfl, ⟨hwritten, hfew⟩, hmajor, rfl⟩⟩

/-- Too many digits are a fault, whatever the major number. -/
theorem gate_overlong {s : String} {version : Version} (h : Written s.toList version)
    (hlong : ¬ FewDigits s.toList) : gate (.str s) = .error (.fault .badValue) := by
  have hparse : parse s = .error (.fault .badValue) := by
    cases hs : parse s with
    | ok other => exact absurd (parse_eq_ok.1 hs).2 hlong
    | error failure =>
      have hchars := ofChars?_eq_some_iff.2 h
      simp only [parse, hchars] at hs
      split at hs
      · cases hs
      · exact hs.symm
  simp only [gate, ofValue, hparse, error_bind]

theorem remark_isSome_iff (version : Version) :
    version.remark.isSome = true ↔ 1 < version.minor := by
  have hminor : supported.minor = 1 := rfl
  rw [remark, hminor]
  split <;> simp [*]

/-- A warning is for a version that is missing or has a newer minor number. -/
theorem warns_iff {raw : Value} {warning : Option String} (h : gate raw = .ok warning) :
    warning.isSome = true ↔ raw = .null ∨
      ∃ s version, raw = .str s ∧ Written s.toList version ∧ 1 < version.minor := by
  rcases gate_eq_ok.1 h with ⟨rfl, rfl⟩ | ⟨s, version, rfl, hs, -, rfl⟩
  · exact iff_of_true rfl (.inl rfl)
  · obtain ⟨hwritten, hfew⟩ := parse_eq_ok_iff.1 hs
    rw [remark_isSome_iff]
    constructor
    · exact fun hminor => .inr ⟨s, version, rfl, hwritten, hminor⟩
    · rintro (hnull | ⟨t, other, ht, hother, hminor⟩)
      · cases hnull
      · obtain rfl := Value.str.inj ht
        have hparse := parse_eq_ok_iff.2 ⟨hother, hfew⟩
        obtain rfl := Except.ok.inj (hs.symm.trans hparse)
        exact hminor

end Version

/-! ## Documents -/

theorem Document.header_ne_noGrammar {v : Value} {source : String} {error : VersionError} :
    header v source ≠ .error (.document (.noGrammar error)) := by
  intro h
  cases v with
  | map entries =>
    simp only [header] at h
    split at h <;> cases h
  | _ => cases h

theorem Document.ofEntries_ne_noGrammar {header : Header} {entries : List (Value × Value)}
    {source : String} {error : VersionError} :
    ofEntries header entries source ≠ .error (.document (.noGrammar error)) := by
  intro h
  rcases bind_eq_error.1 h with h | ⟨problems, -, h⟩
  · obtain ⟨fault, -, h⟩ := mapError_eq_error.1 h
    cases h
  · split at h
    · cases h
    · rcases bind_eq_error.1 h with h | ⟨schema, -, h⟩
      · obtain ⟨failure, -, h⟩ := mapError_eq_error.1 h
        cases failure <;> cases h
      · cases h

/-- No document gets past the gate to be told that there is no grammar for its version. -/
theorem Document.parse_ne_noGrammar {v : Value} {source : String} {error : VersionError} :
    parse v source ≠ .error (.document (.noGrammar error)) := by
  intro h
  rcases bind_eq_error.1 h with h | ⟨⟨header, entries⟩, hheader, h⟩
  · exact header_ne_noGrammar h
  rcases bind_eq_error.1 h with h | ⟨resolved, -, h⟩
  · by_cases hf : header.Findable
    · cases (grammarVersion_ok hheader hf).symm.trans h
    · cases (grammarVersion_error hheader hf).symm.trans h
  · exact ofEntries_ne_noGrammar h

/-- The gate lets pass what declares no version, or a text that is a version with the major number
0, unless a number in it has more digits than are read. The version of such a text has a normal
text, of digits and two full stops, that reads as the same version and is a single name as a path;
and looking it up leads to the bundled grammar, unless it is longer than names are. So no document
is refused for want of a grammar. Every version that can be written reads as itself. -/
theorem Version.gate_then_find (raw : Value) :
    ((∃ warning, gate raw = .ok warning) ↔ raw = .null ∨
      ∃ s version, raw = .str s ∧ Written s.toList version ∧ FewDigits s.toList ∧
        version.major = 0) ∧
    (∀ s version, raw = .str s → Written s.toList version → ¬ FewDigits s.toList →
      gate raw = .error (.fault .badValue)) ∧
    (∀ warning, gate raw = .ok warning → (warning.isSome = true ↔ raw = .null ∨
      ∃ s version, raw = .str s ∧ Written s.toList version ∧ 1 < version.minor)) ∧
    (∀ s warning, raw = .str s → gate raw = .ok warning → ∃ version, parse s = .ok version ∧
      version.format = .ok version.text ∧
      (∀ c ∈ version.text.toList, c.isDigit = true ∨ c = '.') ∧
      version.text.toList.count '.' = 2 ∧
      FilePath.names (version.text ++ "/" ++ Grammar.fileName) =
        [version.text, Grammar.fileName] ∧
      parse version.text = .ok version ∧
      Grammar.find version.text =
        if version.text.length ≤ Disk.nameLimit then .ok supported.text
        else .error (.fault .nameTooLong)) ∧
    (∀ v source loader error,
      (Loader.parse v source).outcome loader ≠ .error (.document (.noGrammar error))) ∧
    ∀ version,
      (version.hasText = true → ∃ s, version.format = .ok s ∧ parse s = .ok version) ∧
      (version.hasText = false → version.format = .error .badValue) := by
  refine ⟨exists_gate_iff raw, ?_, fun warning => warns_iff, ?_,
    fun v source loader error => ?_, fun version => ⟨fun htext => ?_, fun htext => ?_⟩⟩
  · rintro s version rfl hwritten hlong
    exact gate_overlong hwritten hlong
  · rintro s warning rfl h
    obtain ⟨hnull, -⟩ | ⟨t, version, ht, hversion, hmajor, -⟩ := gate_eq_ok.1 h
    · cases hnull
    · obtain rfl := Value.str.inj ht
      have htext := hasText_of_parse hversion
      exact ⟨version, hversion, format_eq_ok.2 ⟨htext, rfl⟩, fun c => version.mem_text,
        version.count_text, Grammar.names_entry version, parse_text htext,
        Grammar.find_text version hmajor⟩
  · rw [Loader.parse_outcome]
    exact Document.parse_ne_noGrammar
  · exact ⟨version.text, format_eq_ok.2 ⟨htext, rfl⟩, parse_text htext⟩
  · rw [format, htext]
    rfl

/-- Digits of another script, blanks around them and zeros before them. -/
theorem Version.gate_then_find_arabic :
    gate (.str " v0.\u0663.07\n") = .ok (some (newerWarning ⟨0, 3, 7⟩)) ∧
      (⟨0, 3, 7⟩ : Version).text = "0.3.7" ∧ Grammar.find "0.3.7" = .ok "0.1.0" := by
  obtain ⟨-, -, -, hfind, -⟩ := gate_then_find (.str " v0.\u0663.07\n")
  have hparse : parse " v0.\u0663.07\n" = .ok ⟨0, 3, 7⟩ :=
    parse_eq_ok.2 ⟨by decide +kernel, by unfold FewDigits; decide +kernel⟩
  have hgate : gate (.str " v0.\u0663.07\n") = .ok (some (newerWarning ⟨0, 3, 7⟩)) :=
    gate_eq_ok.2 (.inr ⟨_, _, rfl, hparse, rfl, rfl⟩)
  have htext : (⟨0, 3, 7⟩ : Version).text = "0.3.7" := by decide +kernel
  have hsupported : supported.text = "0.1.0" := by decide +kernel
  obtain ⟨version, hversion, -, -, -, -, -, hlookup⟩ := hfind _ _ rfl hgate
  obtain rfl := Except.ok.inj (hparse.symm.trans hversion)
  rw [htext, hsupported, if_pos (by decide)] at hlookup
  exact ⟨hgate, htext, hlookup⟩

/-- A version that passes the gate without a warning, and cannot be looked up. -/
theorem Grammar.find_longVersion :
    Version.gate (.str longVersion.text) = .ok none ∧
      find longVersion.text = .error (.fault .nameTooLong) := by
  have hparse := Version.parse_text longVersion_hasText
  refine ⟨Version.gate_eq_ok.2 (.inr ⟨_, _, rfl, hparse, rfl, rfl⟩), ?_⟩
  rw [find_text longVersion rfl, if_neg (Nat.not_le.2 longVersion_overlong)]

end Conform
