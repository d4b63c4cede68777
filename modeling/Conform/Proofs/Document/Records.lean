import Conform.Proofs.Document.Acceptance

/-!
# What a loader notes

A file that is read as a document leaves three kinds of records, in this order: that it is read, the
warnings of the document, and that the grammar is loaded, unless it was loaded before
(`Loader.records_readFile`). A loader that keeps nothing yet leaves the same whether caching is on
or off (`Loader.records_load`).
-/

namespace Conform

namespace Loading

variable {α β : Type}

/-- Of two steps that come to an end, both do. -/
theorem run_bind_eq_ok {steps : Loading α} {rest : α → Loading β} {loader after : Loader} {b : β} :
    (steps >>= rest).run.run loader = (.ok b, after) ↔ ∃ a between,
      steps.run.run loader = (.ok a, between) ∧ (rest a).run.run between = (.ok b, after) := by
  rw [ExceptT.run_bind, StateT.run_bind]
  cases steps.run.run loader with
  | mk result between =>
    constructor
    · intro h
      cases result with
      | ok a => exact ⟨a, between, rfl, h⟩
      | error failure => cases h
    · rintro ⟨a, between, hsteps, hrest⟩
      cases hsteps
      exact hrest

theorem run_lift_eq_ok {x : Except DocumentFailure α} {loader after : Loader} {a : α} :
    (liftM x : Loading α).run.run loader = (.ok a, after) ↔ x = .ok a ∧ loader = after := by
  cases x with
  | ok a' =>
    show (Except.ok a', loader) = (Except.ok a, after) ↔ _
    simp
  | error failure =>
    show (Except.error failure, loader) = (Except.ok a, after) ↔ _
    simp

end Loading

/-- The grammar that a document is checked against is that of its version. -/
def Document.HasGrammar (document : Document) (resolved : String) : Prop :=
  Grammar.find (document.formatVersion.getD Version.supported.text) = .ok resolved

namespace Loader

open Loading

theorem run_note_eq_ok {record : Record} {loader after : Loader} :
    (note record).run.run loader = (.ok (), after) ↔
      after = { loader with records := loader.records ++ [record] } := by
  show (Except.ok (), { loader with records := loader.records ++ [record] }) =
    (Except.ok (), after) ↔ _
  simp [eq_comm]

/-- A grammar is noted when it is loaded, which it is once. -/
theorem records_loadGrammar {resolved : String} {loader after : Loader}
    (h : (loadGrammar resolved).run.run loader = (.ok (), after)) :
    after.records = loader.records ++
      if loader.grammars.contains resolved then [] else [Document.grammarRecord resolved] := by
  have hget : (loadGrammar resolved).run.run loader =
      ((if !loader.grammars.contains resolved then
        (do
          set { loader with grammars := resolved :: loader.grammars }
          note (Document.grammarRecord resolved) : Loading Unit)
      else pure ()).run.run loader) := rfl
  rw [hget] at h
  cases hcontains : loader.grammars.contains resolved with
  | true =>
    rw [hcontains] at h
    cases h
    exact (List.append_nil _).symm
  | false =>
    rw [hcontains] at h
    cases h
    rfl

theorem grammarVersion_eq_ok {header : Document.Header} {resolved : String} :
    Document.grammarVersion header = .ok resolved ↔
      Grammar.find (header.formatVersion.getD Version.supported.text) = .ok resolved := by
  rw [Document.grammarVersion, mapError_eq_ok]

theorem records_parse {v : Value} {source : String} {loader after : Loader} {document : Document}
    (h : (parse v source).run.run loader = (.ok document, after)) :
    ∃ resolved, document.HasGrammar resolved ∧
      after.records = loader.records ++ document.warnings.map (Document.warningRecord · source) ++
        if loader.grammars.contains resolved then [] else [Document.grammarRecord resolved] := by
  have hload {header : Document.Header} {entries : List (Value × Value)} {loader : Loader}
      (h : (do
        let resolved ← Document.grammarVersion header
        loadGrammar resolved
        Document.ofEntries header entries source : Loading Document).run.run loader =
          (.ok document, after)) :
      document.warnings = header.warning.toList ∧ ∃ resolved, document.HasGrammar resolved ∧
        after.records = loader.records ++
          if loader.grammars.contains resolved then [] else [Document.grammarRecord resolved] := by
    obtain ⟨resolved, _, hrun, h⟩ := run_bind_eq_ok.1 h
    obtain ⟨hversion, rfl⟩ := run_lift_eq_ok.1 hrun
    obtain ⟨⟨⟩, between, hgrammar, h⟩ := run_bind_eq_ok.1 h
    obtain ⟨hentries, rfl⟩ := run_lift_eq_ok.1 h
    obtain ⟨-, schema, -, rfl⟩ := Document.ofEntries_eq_ok.1 hentries
    exact ⟨rfl, resolved, grammarVersion_eq_ok.1 hversion, records_loadGrammar hgrammar⟩
  unfold parse at h
  obtain ⟨⟨⟨formatVersion, warning⟩, entries⟩, _, hheader, h⟩ := run_bind_eq_ok.1 h
  obtain ⟨-, rfl⟩ := run_lift_eq_ok.1 hheader
  cases warning with
  | none =>
    obtain ⟨hwarnings, resolved, hgrammar, hrecords⟩ := hload h
    refine ⟨resolved, hgrammar, ?_⟩
    rw [hrecords, hwarnings]
    simp
  | some warning =>
    obtain ⟨⟨⟩, between, hnote, h⟩ := run_bind_eq_ok.1 h
    obtain rfl := run_note_eq_ok.1 hnote
    obtain ⟨hwarnings, resolved, hgrammar, hrecords⟩ := hload h
    refine ⟨resolved, hgrammar, ?_⟩
    rw [hrecords, hwarnings]
    simp

/-- What is noted of a file that is read as a document. -/
theorem records_readFile {path : String} {contents : List UInt8} {loader after : Loader}
    {loaded : Loaded} (h : (readFile path contents).run.run loader = (.ok loaded, after)) :
    ∃ resolved, loaded.document.HasGrammar resolved ∧
      after.records = loader.records ++ Document.loadingRecord path ::
        loaded.document.warnings.map (Document.warningRecord · path) ++
        if loader.grammars.contains resolved then [] else [Document.grammarRecord resolved] := by
  unfold readFile at h
  obtain ⟨⟨⟩, _, hnote, h⟩ := run_bind_eq_ok.1 h
  obtain rfl := run_note_eq_ok.1 hnote
  obtain ⟨v, _, hvalue, h⟩ := run_bind_eq_ok.1 h
  obtain ⟨-, rfl⟩ := run_lift_eq_ok.1 hvalue
  obtain ⟨document, between, hparse, h⟩ := run_bind_eq_ok.1 h
  obtain ⟨resolved, hgrammar, hrecords⟩ := records_parse hparse
  cases h
  refine ⟨resolved, hgrammar, ?_⟩
  show between.records = _
  rw [hrecords]
  simp

/-- What is noted of a load when nothing has been loaded before. -/
theorem records_load {disk : Disk} {caching : Bool} {path : String} {loaded : Loaded}
    {after : Loader} (h : (load disk caching path).run.run {} = (.ok loaded, after)) :
    ∃ resolved, loaded.document.HasGrammar resolved ∧
      after.records = Document.loadingRecord (FilePath.normalize path) ::
        loaded.document.warnings.map (Document.warningRecord · (FilePath.normalize path)) ++
          [Document.grammarRecord resolved] := by
  unfold load at h
  cases hfind : disk.find? (FilePath.normalize path) with
  | none =>
    simp only [hfind] at h
    cases h
  | some found =>
    obtain ⟨place, contents⟩ := found
    simp only [hfind] at h
    cases caching with
    | false => exact records_readFile h
    | true =>
      obtain ⟨_, _, hget, h⟩ := run_bind_eq_ok.1 h
      cases hget
      obtain ⟨_, between, hread, h⟩ := run_bind_eq_ok.1 h
      cases h
      exact records_readFile hread

end Loader

end Conform
