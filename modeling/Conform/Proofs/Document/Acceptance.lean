import Conform.Proofs.Document.Conversion
import Conform.Proofs.Document.Loader
import Conform.Proofs.Document.Lookup
import Conform.Proofs.Document.Written

/-!
# Which values are documents

`Document.Grammatical` is the whole grammar of documents: the entries are known, the version is a
supported one, title and description are texts, and the schema is a node (`Grammar.Node`) all of
whose converted nodes are complete (`Schema.Converted`, `Schema.Complete`). A loader accepts a value
if and only if it is a mapping with such entries, the grammar of its version can be looked up and
its node has a text (`Loader.accepts_iff_grammatical`); that a version is absent and that it is null
are two things, although both pass the gate. A version with more digits than are read, or whose text
is too long to be a file name, cannot be looked up (`Document.Findable`), so a document that
declares one is not accepted, nor is it refused with an error of its own
(`Loader.faults_longVersion`).
-/

namespace Conform

open Grammar (Entries Given IsText Node)

namespace Document

/-! ## Headers -/

theorem normalVersion_of_parse {s : String} {version : Version}
    (h : Version.parse s = .ok version) : normalVersion (.str s) = .ok (some version.text) := by
  simp only [normalVersion, Version.ofValue, h, ok_bind,
    mapError_eq_ok.2 (Version.format_eq_ok.2 ⟨Version.hasText_of_parse h, rfl⟩)]

theorem outcome_eq_ok {declared : Value} {header : Header} :
    (do
      let warning ← Version.gate declared
      let formatVersion ← normalVersion declared
      .ok ⟨formatVersion, warning⟩ : Except VersionFailure Header) = .ok header ↔
      (declared = .null ∧ header = ⟨none, some Version.missingWarning⟩) ∨
        ∃ s version, declared = .str s ∧ Version.parse s = .ok version ∧
          version.major = Version.supported.major ∧
          header = ⟨some version.text, version.remark⟩ := by
  simp only [bind_eq_ok, Version.gate_eq_ok, Except.ok.injEq]
  constructor
  · rintro ⟨_, ⟨rfl, rfl⟩ | ⟨s, version, rfl, hs, hmajor, rfl⟩, _, hversion, rfl⟩
    · obtain rfl := Except.ok.inj hversion
      exact .inl ⟨rfl, rfl⟩
    · obtain rfl := Except.ok.inj ((normalVersion_of_parse hs).symm.trans hversion)
      exact .inr ⟨s, version, rfl, hs, hmajor, rfl⟩
  · rintro (⟨rfl, rfl⟩ | ⟨s, version, rfl, hs, hmajor, rfl⟩)
    · exact ⟨_, .inl ⟨rfl, rfl⟩, none, rfl, rfl⟩
    · exact ⟨_, .inr ⟨s, version, rfl, hs, hmajor, rfl⟩, some version.text,
        normalVersion_of_parse hs, rfl⟩

/-- The header of a mapping that declares no version, or a supported one. -/
theorem header_eq_ok {v : Value} {entries : Entries} {source : String} {header : Header} :
    Document.header v source = .ok (header, entries) ↔ v = .map entries ∧
      ((Schema.getD entries Version.fieldName = .null ∧
          header = ⟨none, some Version.missingWarning⟩) ∨
        ∃ s version, Schema.getD entries Version.fieldName = .str s ∧
          Version.parse s = .ok version ∧ version.major = Version.supported.major ∧
          header = ⟨some version.text, version.remark⟩) := by
  cases v with
  | map others =>
    simp only [Document.header, Value.map.injEq]
    constructor
    · intro h
      split at h
      · rename_i found hfound
        cases h
        exact ⟨rfl, outcome_eq_ok.1 hfound⟩
      · cases h
      · cases h
    · rintro ⟨rfl, h⟩
      rw [outcome_eq_ok.2 h]
  | _ => simp [Document.header]

/-- The grammar that a header calls for can be looked up. -/
def Header.Findable (header : Header) : Prop :=
  (header.formatVersion.getD Version.supported.text).length ≤ Disk.nameLimit

theorem findable_undeclared (warning : Option String) : Header.Findable ⟨none, warning⟩ := by
  show Version.supported.text.length ≤ Disk.nameLimit
  decide +kernel

/-- The grammar that the declared version calls for can be looked up: its numbers have few enough
digits to be read, and its text few enough characters for a name. -/
def Findable (entries : Entries) : Prop :=
  Given entries Version.fieldName fun v => ∀ s version, v = .str s →
    Version.Written s.toList version →
      Version.FewDigits s.toList ∧ version.text.length ≤ Disk.nameLimit

section
variable {v : Value} {entries : Entries} {source : String} {header : Header}
  (h : Document.header v source = .ok (header, entries))
include h

theorem grammarVersion_ok (hf : header.Findable) :
    grammarVersion header = .ok Version.supported.text := by
  obtain ⟨version, hmajor, htext⟩ : ∃ version : Version,
      version.major = Version.supported.major ∧
        header.formatVersion.getD Version.supported.text = version.text := by
    obtain ⟨-, ⟨-, rfl⟩ | ⟨s, version, -, -, hmajor, rfl⟩⟩ := header_eq_ok.1 h
    · exact ⟨Version.supported, rfl, rfl⟩
    · exact ⟨version, hmajor, rfl⟩
  rw [Header.Findable, htext] at hf
  rw [grammarVersion, htext, Grammar.find_text version hmajor, if_pos hf]
  rfl

theorem grammarVersion_error (hf : ¬ header.Findable) :
    grammarVersion header = .error (.fault .nameTooLong) := by
  obtain ⟨-, ⟨-, rfl⟩ | ⟨s, version, -, -, hmajor, rfl⟩⟩ := header_eq_ok.1 h
  · exact absurd (findable_undeclared _) hf
  · have hlong : ¬ version.text.length ≤ Disk.nameLimit := hf
    rw [grammarVersion, Option.getD_some, Grammar.find_text version hmajor, if_neg hlong]
    rfl

theorem parse_unfindable (hf : ¬ header.Findable) :
    Document.parse v source = .error (.fault .nameTooLong) := by
  simp only [Document.parse, h, ok_bind, grammarVersion_error h hf, error_bind]

theorem findable_iff : header.Findable ↔ Findable entries := by
  obtain ⟨-, ⟨hnull, rfl⟩ | ⟨s, version, hs, hversion, -, rfl⟩⟩ := header_eq_ok.1 h
  · refine iff_of_true (findable_undeclared _) fun w hw s version hs _ => ?_
    rw [Schema.getD, hw, Option.getD_some, hs] at hnull
    cases hnull
  · have hget : Schema.get? entries Version.fieldName = some (.str s) := by
      rw [Schema.getD] at hs
      cases hget : Schema.get? entries Version.fieldName with
      | none => simp [hget] at hs
      | some w => rw [← hs, hget, Option.getD_some]
    obtain ⟨hwritten, hfew⟩ := Version.parse_eq_ok_iff.1 hversion
    constructor
    · rintro hf w hw t other rfl hother
      cases hw.symm.trans hget
      have hparse := Version.parse_eq_ok_iff.2 ⟨hother, hfew⟩
      obtain rfl := Except.ok.inj (hversion.symm.trans hparse)
      exact ⟨hfew, hf⟩
    · intro hf
      exact (hf _ hget s version rfl hwritten).2

end

/-! ## Documents -/

theorem ofEntries_eq_ok {header : Header} {entries : Entries} {source : String}
    {document : Document} :
    ofEntries header entries source = .ok document ↔
      (Grammar.WellFormed entries ∧ Grammar.NodeHasText entries) ∧
      ∃ schema, Schema.read (Schema.getD entries "schema") "/schema" = .ok schema ∧
        document = ⟨schema, source, header.formatVersion, text? entries "title",
          text? entries "description", header.warning.toList⟩ := by
  simp only [ofEntries, bind_eq_ok, mapError_eq_ok]
  constructor
  · rintro ⟨problems, hproblems, h⟩
    split at h
    · cases h
    · rename_i hempty
      obtain rfl : problems = [] := by simpa using hempty
      obtain ⟨schema, hschema, h⟩ := bind_eq_ok.1 h
      exact ⟨Grammar.problems_eq_nil_iff.1 hproblems, schema, mapError_eq_ok.1 hschema,
        (Except.ok.inj h).symm⟩
  · rintro ⟨hwell, schema, hschema, rfl⟩
    refine ⟨[], Grammar.problems_eq_nil_iff.2 hwell, ?_⟩
    rw [mapError_eq_ok.2 hschema]
    rfl

/-- A value is read as a document: its header passes, its grammar is found, its entries are well
formed and its schema is read. -/
theorem parse_eq_ok {v : Value} {source : String} {document : Document} :
    Document.parse v source = .ok document ↔
      ∃ header entries, Document.header v source = .ok (header, entries) ∧ header.Findable ∧
        ofEntries header entries source = .ok document := by
  simp only [Document.parse, bind_eq_ok]
  constructor
  · rintro ⟨⟨header, entries⟩, hheader, _, hresolved, h⟩
    refine ⟨header, entries, hheader, ?_, h⟩
    by_contra hf
    cases hresolved.symm.trans (grammarVersion_error hheader hf)
  · rintro ⟨header, entries, hheader, hf, h⟩
    exact ⟨(header, entries), hheader, _, grammarVersion_ok hheader hf, h⟩

/-- The entries of a document by the grammar: known ones only, a supported version if there is one,
texts for title and description, and a node as its schema of which all that is converted is
complete. -/
structure Grammatical (entries : Entries) : Prop where
  known : ∀ key ∈ entries.map (·.1), ∃ keyword ∈ Grammar.documentKeywords, key = .str keyword
  version : Given entries "structcheck_format" fun v => ∃ s version, v = .str s ∧
    Version.Written s.toList version ∧ version.major = 0
  title : Given entries "title" IsText
  description : Given entries "description" IsText
  schema : ∃ root, Schema.get? entries "schema" = some root ∧ Node root ∧
    ∀ node, Schema.Converted root node → Schema.Complete node

/-- A version that is there has to be a text, so that a null, which passes the gate like an absent
version, is refused by the grammar. -/
theorem exists_header_iff {entries : Entries} {source : String} :
    (∃ header, Document.header (.map entries) source = .ok (header, entries)) ∧
        Given entries Version.fieldName IsText ↔
      Given entries Version.fieldName fun v => ∃ s version, v = .str s ∧
        Version.parse s = .ok version ∧ version.major = Version.supported.major := by
  simp only [header_eq_ok, Schema.getD, Given]
  cases Schema.get? entries Version.fieldName with
  | none => simp
  | some v =>
    simp only [Option.getD_some, Option.some.injEq, forall_eq', true_and]
    constructor
    · rintro ⟨⟨_, ⟨rfl, -⟩ | ⟨s, version, rfl, hs, hmajor, -⟩⟩, htext⟩
      · obtain ⟨s, hs⟩ := htext
        cases hs
      · exact ⟨s, version, rfl, hs, hmajor⟩
    · rintro ⟨s, version, rfl, hs, hmajor⟩
      exact ⟨⟨_, .inr ⟨s, version, rfl, hs, hmajor, rfl⟩⟩, s, rfl⟩

theorem exists_parse_iff {v : Value} (hkeys : v.TextKeyed) {source : String} :
    (∃ document, Document.parse v source = .ok document) ↔
      ∃ entries, v = .map entries ∧ Grammatical entries ∧ Findable entries ∧
        Grammar.NodeHasText entries := by
  simp only [parse_eq_ok, ofEntries_eq_ok]
  constructor
  · rintro ⟨_, header, entries, hheader, hfindable, ⟨hwell, htext⟩, schema, hread, -⟩
    rw [findable_iff hheader] at hfindable
    obtain ⟨rfl, -⟩ := header_eq_ok.1 hheader
    obtain ⟨root, hroot, hnode⟩ := hwell.schema
    have hversion := exists_header_iff.1 ⟨⟨header, hheader⟩, hwell.version⟩
    rw [Schema.getD, hroot, Option.getD_some] at hread
    have hcomplete := (Schema.read_ok_iff hnode (hkeys.of_get? hroot) "/schema").1 ⟨schema, hread⟩
    refine ⟨entries, rfl, ⟨hwell.known, fun v hv => ?_, hwell.title, hwell.description, root, hroot,
      hnode, hcomplete⟩, hfindable, htext⟩
    obtain ⟨s, version, rfl, hs, hmajor⟩ := hversion v hv
    exact ⟨s, version, rfl, (Version.parse_eq_ok_iff.1 hs).1, hmajor⟩
  · rintro ⟨entries, rfl, ⟨known, hversion, title, description, root, hroot, hnode, hcomplete⟩,
      hfindable, htext⟩
    obtain ⟨⟨header, hheader⟩, version⟩ := exists_header_iff.2 fun v hv => by
      obtain ⟨s, version, rfl, hs, hmajor⟩ := hversion v hv
      obtain ⟨hfew, -⟩ := hfindable _ hv s version rfl hs
      exact ⟨s, version, rfl, Version.parse_eq_ok_iff.2 ⟨hs, hfew⟩, hmajor⟩
    obtain ⟨schema, hread⟩ :=
      (Schema.read_ok_iff hnode (hkeys.of_get? hroot) "/schema").2 hcomplete
    exact ⟨_, header, entries, hheader, (findable_iff hheader).2 hfindable,
      ⟨⟨known, version, title, description, root, hroot, hnode⟩, htext⟩,
      schema, by rw [Schema.getD, hroot, Option.getD_some, hread], rfl⟩

end Document

/-- A loader reads a value as a document, whatever it has loaded before, if and only if the value is
a mapping that follows the grammar, its version has not too many digits to be read and looked up,
and its node has a text. -/
theorem Loader.accepts_iff_grammatical {v : Value} (hkeys : v.TextKeyed) (source : String)
    (loader : Loader) :
    (∃ document, (Loader.parse v source).outcome loader = .ok document) ↔
      ∃ entries, v = .map entries ∧ Document.Grammatical entries ∧ Document.Findable entries ∧
        Grammar.NodeHasText entries := by
  simp only [Loader.parse_outcome]
  exact Document.exists_parse_iff hkeys

/-- A document, of some version, whose schema is of lists of users, or null. -/
def usersDocument (version : Value) : Value :=
  let name : Value := .map [(.str "type", .str "string"), (.str "minLength", .int 2),
    (.str "pattern", .str "^[a-z]+$")]
  let user : Value := .map [(.str "type", .str "object"),
    (.str "properties", .map [(.str "name", name)]), (.str "required", .list [.str "name"])]
  .map [(.str "structcheck_format", version),
    (.str "schema", .map [(.str "anyOf", .list [.map [(.str "const", .null)],
      .map [(.str "type", .str "array"), (.str "items", user)]])])]

theorem textKeyed_users {version : Value} (h : version.TextKeyed) :
    (usersDocument version).TextKeyed := by
  have hint (n : Int) : (Value.int n).TextKeyed := .other nofun nofun
  have hnull : Value.null.TextKeyed := .other nofun nofun
  simp [usersDocument, Value.textKeyed_iff_keys, Value.textKeyed_list_iff, Value.textKeyed_str,
    hint, hnull, h]

/-- A version with a newer minor number is accepted, one that is null is not. -/
theorem Loader.accepts_users :
    (usersDocument (.str "v0.7.0")).TextKeyed ∧ (usersDocument .null).TextKeyed ∧
      (∃ entries, usersDocument (.str "v0.7.0") = .map entries ∧
        Document.Grammatical entries ∧ Document.Findable entries ∧
        Grammar.NodeHasText entries) ∧
      ¬ ∃ entries, usersDocument .null = .map entries ∧ Document.Grammatical entries ∧
        Document.Findable entries ∧ Grammar.NodeHasText entries := by
  have hversion : (usersDocument (.str "v0.7.0")).TextKeyed :=
    textKeyed_users (Value.textKeyed_str "v0.7.0")
  have hnull : (usersDocument .null).TextKeyed :=
    textKeyed_users (.other nofun nofun)
  have haccepted : ((Loader.parse (usersDocument (.str "v0.7.0")) "users.json").outcome
      {}).isOk = true := by decide +kernel
  have hrefused : ((Loader.parse (usersDocument .null) "users.json").outcome {}).isOk =
      false := by decide +kernel
  refine ⟨hversion, hnull, (Loader.accepts_iff_grammatical hversion "users.json" {}).1 ?_,
    fun h => ?_⟩
  · cases h : (Loader.parse (usersDocument (.str "v0.7.0")) "users.json").outcome {} with
    | error e => simp [h, Except.isOk, Except.toBool] at haccepted
    | ok document => exact ⟨document, rfl⟩
  · obtain ⟨document, hdocument⟩ := (Loader.accepts_iff_grammatical hnull "users.json" {}).2 h
    simp [hdocument, Except.isOk, Except.toBool] at hrefused

/-- What follows the grammar with the supported version does so with any other that passes the gate.
-/
theorem grammatical_users {s : String} {version : Version} (hs : Version.Written s.toList version)
    (hmajor : version.major = 0) :
    ∃ entries, usersDocument (.str s) = .map entries ∧ Document.Grammatical entries := by
  have hparsed : (Document.parse (usersDocument (.str "0.1.0")) "users.json").toOption.any
      (fun _ => true) = true := by decide +kernel
  obtain ⟨document, hdocument, -⟩ := exists_of_any_toOption hparsed
  have hkeys : (usersDocument (.str "0.1.0")).TextKeyed :=
    textKeyed_users (Value.textKeyed_str "0.1.0")
  obtain ⟨entries, heq, hgrammar, -⟩ :=
    (Document.exists_parse_iff hkeys).1 ⟨document, hdocument⟩
  obtain rfl := Value.map.inj heq
  refine ⟨_, rfl, hgrammar.known, ?_, ?_, ?_, ?_⟩
  · rintro v hv
    obtain rfl : .str s = v := by simpa using hv
    exact ⟨s, version, rfl, hs, hmajor⟩
  · simp [Given]
  · simp [Given]
  · simpa using hgrammar.schema

/-- A version whose text has more characters than a name has bytes. -/
def longVersion : Version := ⟨0, 1, 10 ^ 255⟩

theorem longVersion_overlong : Disk.nameLimit < longVersion.text.length := by
  have hpatch : Disk.nameLimit < (toString longVersion.patch).length := by
    rw [← Nat.not_le, Nat.toString_eq_repr, Nat.repr, String.length_ofList,
      Nat.length_toDigits_le_iff (by decide) (by decide)]
    exact Nat.lt_irrefl _
  rw [Version.text, String.length_append]
  exact Nat.lt_add_left _ hpatch

theorem longVersion_hasText : longVersion.hasText = true := by
  have hpatch : isWritable longVersion.patch = true := by
    rw [isWritable_iff, Int.natAbs_natCast]
    exact Nat.pow_lt_pow_right (by decide) (by decide)
  rw [Version.hasText, hpatch, Bool.and_true]
  rfl

/-- A document that declares a long version follows the grammar, and yet loading it faults. -/
theorem Loader.faults_longVersion :
    (usersDocument (.str longVersion.text)).TextKeyed ∧
      (∃ entries, usersDocument (.str longVersion.text) = .map entries ∧
        Document.Grammatical entries) ∧
      (Loader.parse (usersDocument (.str longVersion.text)) "users.json").outcome {} =
        .error (.fault .nameTooLong) := by
  have hparse : Version.parse longVersion.text = .ok longVersion :=
    Version.parse_text longVersion_hasText
  obtain ⟨entries, heq, hgrammar⟩ :=
    grammatical_users (Version.parse_eq_ok_iff.1 hparse).1 rfl
  have hdeclared : Schema.getD entries Version.fieldName = .str longVersion.text := by
    obtain rfl := Value.map.inj heq
    simp [Schema.getD, Version.fieldName]
  have hheader : Document.header (.map entries) "users.json" =
      .ok (⟨some longVersion.text, longVersion.remark⟩, entries) :=
    Document.header_eq_ok.2 ⟨rfl, .inr ⟨_, _, hdeclared, hparse, rfl, rfl⟩⟩
  have hlong : ¬ (⟨some longVersion.text, longVersion.remark⟩ : Document.Header).Findable :=
    Nat.not_le.2 longVersion_overlong
  refine ⟨textKeyed_users (Value.textKeyed_str _), ⟨entries, heq, hgrammar⟩, ?_⟩
  rw [Loader.parse_outcome, heq, Document.parse_unfindable hheader hlong]

end Conform
