import Conform.Proofs.Document.Version
import Mathlib.Data.String.Basic

/-!
# Looking a version's grammar up

The text of a version is looked up as the name of a directory beside the bundled grammars. It has
no slashes and is not one of the two names with a meaning of their own, so it leads nowhere else:
only the text of the bundled version leads to a grammar (`Grammar.isBundled_text_iff`), and for
every other one with the same major number that grammar serves (`Grammar.find_text`). But no name
has more than `Disk.nameLimit` bytes, and there are versions whose texts have.
-/

namespace Conform

/-! ## Texts as names -/

namespace Version

variable (version : Version)

theorem mem_text {c : Char} (h : c ∈ version.text.toList) : c.isDigit = true ∨ c = '.' := by
  rw [toList_text] at h
  simp only [List.mem_append, List.mem_cons] at h
  rcases h with hc | rfl | hc | rfl | hc
  · exact .inl (isDigit_of_mem_toDigits c hc)
  · exact .inr rfl
  · exact .inl (isDigit_of_mem_toDigits c hc)
  · exact .inr rfl
  · exact .inl (isDigit_of_mem_toDigits c hc)

theorem not_mem_text {c : Char} (hdigit : c.isDigit = false) (hpoint : c ≠ '.') :
    c ∉ version.text.toList := by
  intro h
  rcases version.mem_text h with hc | hc
  · cases hc.symm.trans hdigit
  · exact hpoint hc

theorem count_text : version.text.toList.count '.' = 2 := by
  have hlength := @Text.length_fields '.' version.text.toList
  rw [fields_text] at hlength
  simpa using hlength.symm

/-- Every character of the text takes one byte. -/
theorem utf8ByteSize_text : version.text.utf8ByteSize = version.text.length := by
  have hsize : ∀ {s : List Char}, (∀ c ∈ s, c.isDigit = true ∨ c = '.') →
      String.utf8Len s = s.length := by
    intro s hs
    induction s with
    | nil => rfl
    | cons c s ih =>
      obtain ⟨hc, hs⟩ := List.forall_mem_cons.1 hs
      have hone : c.utf8Size = 1 := by
        rcases hc with hc | rfl
        · have := isDigit_iff.1 hc
          rw [Char.utf8Size_eq_one_iff, UInt32.le_iff_toNat_le]
          show c.toNat ≤ 127
          omega
        · rfl
      rw [String.utf8Len_cons, ih hs, hone, List.length_cons]
  rw [← String.ofList_toList (s := version.text), String.utf8ByteSize_ofList, String.length_ofList]
  exact hsize fun c => version.mem_text

theorem text_injective : Function.Injective text := by
  intro version other h
  have hchars := ofChars?_text version
  rw [h, ofChars?_text other] at hchars
  exact (Option.some.inj hchars).symm

/-- A version whose text is a name has few enough digits to be read. -/
theorem hasText_of_length_le (h : version.text.length ≤ Disk.nameLimit) :
    version.hasText = true := by
  have hlimit : Disk.nameLimit ≤ Numeral.digitLimit := by decide
  rw [← String.length_toList, toList_text] at h
  simp only [List.length_append, List.length_cons] at h
  simp only [hasText, isWritable, Bool.and_eq_true, decide_eq_true_eq, Int.natAbs_natCast]
  omega

end Version

/-! ## Names as paths -/

namespace Grammar

variable (version : Version)

theorem toList_entry : (version.text ++ "/" ++ fileName).toList =
    version.text.toList ++ '/' :: fileName.toList := by
  simp [String.toList_append]

/-- The text is one name: neither empty, nor the directory itself, nor the one above. -/
theorem names_entry : FilePath.names (version.text ++ "/" ++ fileName) =
    [version.text, fileName] := by
  have hslash : '/' ∉ version.text.toList := version.not_mem_text rfl (by decide)
  have hname (name : String) (h : name.toList.count '.' ≠ 2) : version.text ≠ name := by
    intro heq
    rw [← heq] at h
    exact h version.count_text
  have hfile : Text.fields '/' fileName.toList = [fileName.toList] := by decide
  rw [FilePath.names, toList_entry, Text.fields_append _ hslash, hfile]
  simp only [List.map_cons, List.map_nil, String.ofList_toList]
  simp [hname "" (by decide), hname "." (by decide), fileName]

theorem root_entry (s : List Char) : FilePath.root (version.text.toList ++ s) = "" := by
  have hslash : '/' ∉ version.text.toList := version.not_mem_text rfl (by decide)
  cases htext : version.text.toList with
  | nil =>
    have hcount := version.count_text
    rw [htext] at hcount
    cases hcount
  | cons c rest =>
    rw [htext] at hslash
    have hc : c ≠ '/' := fun h => hslash (h ▸ List.mem_cons_self)
    simp [FilePath.root, hc]

theorem start_entry : files.start (version.text ++ "/" ++ fileName) = files.working := by
  rw [Disk.start, toList_entry, root_entry, if_pos rfl]

theorem isOverlong_text :
    isOverlong version.text = decide (Disk.nameLimit < version.text.length) := by
  have hnull : (version.text ++ "/" ++ fileName).toList.contains '\x00' = false := by
    rw [toList_entry, List.contains_eq_mem, decide_eq_false_iff_not, List.mem_append, not_or]
    exact ⟨version.not_mem_text rfl (by decide), by decide⟩
  have hworking : files.isDirectory files.working = true := by decide
  have hfile : ¬ Disk.nameLimit < fileName.utf8ByteSize := by decide
  -- a path is too long only if the name in it is
  have hpath : Disk.pathLimit < (version.text ++ "/" ++ fileName).utf8ByteSize →
      Disk.nameLimit < version.text.length := by
    have hrest : "/".utf8ByteSize = 1 ∧ fileName.utf8ByteSize = 13 := by decide
    have hlimits : Disk.pathLimit = 4095 ∧ Disk.nameLimit = 255 := ⟨rfl, rfl⟩
    rw [String.utf8ByteSize_append, String.utf8ByteSize_append, version.utf8ByteSize_text]
    omega
  rw [isOverlong, Disk.isOverlong, hnull, start_entry, names_entry, Disk.meetsLongName, hworking,
    version.utf8ByteSize_text]
  simpa [Disk.meetsLongName, hfile] using hpath

theorem isBundled_supported : isBundled Version.supported.text = true := by decide +kernel

theorem isBundled_text_iff : isBundled version.text = true ↔ version = Version.supported := by
  constructor
  · intro h
    by_contra hne
    have htext : version.text ≠ Version.supported.text := fun heq =>
      hne (Version.text_injective heq)
    have hparent : version.text ≠ ".." := by
      intro heq
      have hfields := congrArg (Text.fields '.' ·.toList) heq
      simp [Version.fields_text, Text.fields] at hfields
    have hdirectory : files.isDirectory (files.working ++ [version.text]) = false := by
      simpa [Disk.isDirectory, files, bundled, List.isPrefixOf, Version.supported] using htext
    have hfind : files.find? (version.text ++ "/" ++ fileName) = none := by
      have hwalk : files.walk files.working [version.text, fileName] = none := by
        simp [Disk.walk, hparent, hdirectory]
      rw [Disk.find?, Disk.resolve, start_entry, names_entry, hwalk]
      exact ite_self none
    simp [isBundled, hfind] at h
  · rintro rfl
    exact isBundled_supported

/-- A version with the supported major number is served by the bundled grammar, if its text can be
looked up. -/
theorem find_text (h : version.major = Version.supported.major) : find version.text =
    if version.text.length ≤ Disk.nameLimit then .ok Version.supported.text
    else .error (.fault .nameTooLong) := by
  by_cases hshort : version.text.length ≤ Disk.nameLimit
  · have hlookup : isOverlong version.text = false := by
      rw [isOverlong_text, decide_eq_false_iff_not]
      exact Nat.not_lt.2 hshort
    have hresolve : resolve version.text = .ok Version.supported.text := by
      rw [resolve, hlookup, if_neg Bool.false_ne_true]
      split
      · rename_i hbundled
        rw [(isBundled_text_iff version).1 hbundled]
      · have hfilter : bundled.filter (fun candidate => candidate.major = version.major) =
            bundled := by
          rw [h]
          rfl
        rw [Version.parse_text (version.hasText_of_length_le hshort), ok_bind, hfilter]
        rfl
    rw [find, hresolve, ok_bind, if_pos isBundled_supported, if_pos hshort]
  · have hlookup : isOverlong version.text = true := by
      rw [isOverlong_text, decide_eq_true_iff]
      exact Nat.lt_of_not_le hshort
    rw [find, resolve, hlookup, if_pos rfl, if_neg hshort]
    rfl

end Grammar

end Conform
