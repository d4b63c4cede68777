import Conform.Document.Session
import Conform.Proofs.Document.Acceptance
import Mathlib.Data.List.Induction

/-!
# What a loader keeps

A session loads documents while files come and go. A load that reads a file gives what the contents
of the file are as a document (`Document.ofContents`), whatever was loaded before, and nothing but
such a load, of a place for which nothing is kept, changes what is kept (`lookup_step`). So each
document that is kept goes back to one load, and it has been kept ever since (`kept_of_run`). While
the contents are the same, it differs from a document read anew in the source alone.
-/

namespace Conform

/-- The document that the contents of a file are. -/
def Document.ofContents (source : String) (contents : List UInt8) :
    Except DocumentFailure Document := do
  let v ← Loader.readValue source contents
  Document.parse v source

/-! ## Sources -/

/-- The source is not looked at. -/
theorem Document.parse_source {v : Value} {source other : String} {document : Document}
    (h : Document.parse v source = .ok document) :
    Document.parse v other = .ok { document with source := other } := by
  obtain ⟨header, entries, hheader, hfindable, hentries⟩ := parse_eq_ok.1 h
  obtain ⟨hwell, schema, hschema, rfl⟩ := ofEntries_eq_ok.1 hentries
  refine parse_eq_ok.2
    ⟨header, entries, ?_, hfindable, ofEntries_eq_ok.2 ⟨hwell, schema, hschema, rfl⟩⟩
  rw [header_eq_ok] at hheader ⊢
  exact hheader

theorem Loader.readValue_source {contents : List UInt8} {source other : String} {v : Value}
    (h : readValue source contents = .ok v) : readValue other contents = .ok v := by
  simp only [readValue, bind_eq_ok, mapError_eq_ok] at h ⊢
  exact h

theorem Document.ofContents_source {contents : List UInt8} {source other : String}
    {document : Document} (h : Document.ofContents source contents = .ok document) :
    Document.ofContents other contents = .ok { document with source := other } := by
  obtain ⟨v, hv, hparse⟩ := bind_eq_ok.1 h
  exact bind_eq_ok.2 ⟨v, Loader.readValue_source hv, Document.parse_source hparse⟩

theorem Document.source_of_ofContents {contents : List UInt8} {source : String}
    {document : Document} (h : Document.ofContents source contents = .ok document) :
    document.source = source := by
  obtain ⟨v, -, hparse⟩ := bind_eq_ok.1 h
  obtain ⟨header, entries, -, -, hentries⟩ := parse_eq_ok.1 hparse
  obtain ⟨-, schema, -, rfl⟩ := ofEntries_eq_ok.1 hentries
  rfl

/-! ## Steps of a loader -/

namespace Loading

variable {α β γ : Type}

/-- Steps that leave alone what is kept. -/
def KeepsDocuments (steps : Loading α) : Prop :=
  ∀ loader : Loader, (steps.run.run loader).2.documents = loader.documents

theorem KeepsDocuments.bind {steps : Loading α} {rest : α → Loading β}
    (hsteps : steps.KeepsDocuments) (hrest : ∀ a, (rest a).KeepsDocuments) :
    KeepsDocuments (steps >>= rest) := by
  intro loader
  rw [← hsteps loader, ExceptT.run_bind, StateT.run_bind]
  cases steps.run.run loader with
  | mk result after =>
    cases result with
    | ok a => exact hrest a after
    | error failure => rfl

theorem keepsDocuments_lift (x : Except DocumentFailure α) :
    KeepsDocuments (liftM x : Loading α) := by
  intro loader
  cases x <;> rfl

/-- A step whose outcome does not depend on the loader, and others after it. -/
theorem outcome_bind_map {step : Loading α} {rest : α → Loading β}
    {x : Except DocumentFailure α} {g : β → γ} {y : α → Except DocumentFailure γ}
    (hstep : ∀ loader, step.outcome loader = x)
    (hrest : ∀ a loader, ((rest a).outcome loader).map g = y a) (loader : Loader) :
    ((step >>= rest).outcome loader).map g = x >>= y := by
  have h := hstep loader
  unfold outcome at h ⊢
  rw [ExceptT.run_bind, StateT.run_bind, ← h]
  cases step.run.run loader with
  | mk result after =>
    cases result with
    | ok a => exact hrest a after
    | error failure => rfl

end Loading

namespace Loader

theorem keepsDocuments_note (record : Record) : (note record).KeepsDocuments := fun _ => rfl

theorem keepsDocuments_loadGrammar (resolved : String) :
    (loadGrammar resolved).KeepsDocuments := by
  intro loader
  have hget : (loadGrammar resolved).run.run loader =
      ((if !loader.grammars.contains resolved then
        (do
          set { loader with grammars := resolved :: loader.grammars }
          note (Document.grammarRecord resolved) : Loading Unit)
      else pure ()).run.run loader) := rfl
  rw [hget]
  cases loader.grammars.contains resolved <;> rfl

theorem keepsDocuments_number (document : Document) : (number document).KeepsDocuments :=
  fun _ => rfl

theorem keepsDocuments_parse (v : Value) (source : String) :
    (parse v source).KeepsDocuments := by
  have hload (header : Document.Header) (entries : List (Value × Value)) :
      Loading.KeepsDocuments (do
        let resolved ← Document.grammarVersion header
        loadGrammar resolved
        Document.ofEntries header entries source) := by
    refine .bind (Loading.keepsDocuments_lift _) fun resolved => ?_
    exact .bind (keepsDocuments_loadGrammar resolved) fun _ => Loading.keepsDocuments_lift _
  unfold parse
  refine .bind (Loading.keepsDocuments_lift _) fun ⟨⟨formatVersion, warning⟩, entries⟩ => ?_
  cases warning with
  | none => exact hload _ _
  | some warning => exact .bind (keepsDocuments_note _) fun _ => hload _ _

theorem keepsDocuments_readFile (path : String) (contents : List UInt8) :
    (readFile path contents).KeepsDocuments := by
  unfold readFile
  refine .bind (keepsDocuments_note _) fun _ => ?_
  refine .bind (Loading.keepsDocuments_lift _) fun v => ?_
  exact .bind (keepsDocuments_parse v path) fun document => keepsDocuments_number document

/-- What a file is read as does not depend on what was read before. -/
theorem readFile_outcome (path : String) (contents : List UInt8) (loader : Loader) :
    ((readFile path contents).outcome loader).map Loaded.document =
      Document.ofContents path contents := by
  unfold readFile
  have hnumber (document : Document) (loader : Loader) :
      ((number document).outcome loader).map Loaded.document = .ok document := rfl
  have hparse (v : Value) (loader : Loader) :
      (Loading.outcome (do
        let document ← parse v path
        number document) loader).map Loaded.document = Document.parse v path := by
    rw [Loading.outcome_bind_map (parse_outcome v path) hnumber]
    cases Document.parse v path <;> rfl
  exact Loading.outcome_bind_map (x := .ok ()) (note_outcome _)
    (fun _ => Loading.outcome_bind_map (Loading.outcome_lift _) hparse) loader

end Loader

/-! ## One load -/

theorem Loading.run_get_bind {α : Type} (rest : Loader → Loading α) (loader : Loader) :
    (do let state ← get; rest state : Loading α).run.run loader = (rest loader).run.run loader :=
  rfl

namespace Loader.Session

variable {session : Session} {path : String} {place : Place} {contents : List UInt8}
  {kept : Loaded}

theorem load_missing (h : session.disk.find? (FilePath.normalize path) = none) :
    session.load path =
      (.error (if session.disk.isOverlong (FilePath.normalize path) then .fault .nameTooLong
        else .document (.notFound (FilePath.normalize path))), session.loader) := by
  unfold load Loader.load
  simp only [h]
  rfl

section
variable (hfind : session.disk.find? (FilePath.normalize path) = some (place, contents))
include hfind

theorem load_uncached (h : session.caching = false) :
    session.load path =
      (readFile (FilePath.normalize path) contents).run.run session.loader := by
  unfold load Loader.load
  simp only [hfind, h]
  rfl

theorem load_kept (h : session.caching = true) (hkept : session.kept? place = some kept) :
    session.load path = (.ok kept, { session.loader with records :=
      session.loader.records ++ [Document.cachedRecord (FilePath.normalize path)] }) := by
  have hlookup : session.loader.documents.lookup place = some kept := hkept
  unfold load Loader.load
  simp only [hfind, h, if_true]
  rw [Loading.run_get_bind, hlookup]
  rfl

/-- What is read is kept. -/
theorem load_new (h : session.caching = true) (hkept : session.kept? place = none) :
    (session.load path).1 =
        (readFile (FilePath.normalize path) contents).outcome session.loader ∧
      (session.load path).2.documents =
        match (session.load path).1 with
        | .ok loaded => (place, loaded) :: session.loader.documents
        | .error _ => session.loader.documents := by
  have hlookup : session.loader.documents.lookup place = none := hkept
  have hread := keepsDocuments_readFile (FilePath.normalize path) contents session.loader
  unfold load Loader.load Loading.outcome
  simp only [hfind, h, if_true]
  rw [Loading.run_get_bind, hlookup, ← hread]
  simp only [ExceptT.run_bind, StateT.run_bind]
  cases (readFile (FilePath.normalize path) contents).run.run session.loader with
  | mk result after =>
    cases result with
    | ok loaded => exact ⟨rfl, rfl⟩
    | error failure => exact ⟨rfl, rfl⟩

end

/-- A load of a path that stores what it reads: nothing is kept for the place of the file. -/
structure Stores (session : Session) (path : String) (place : Place) (contents : List UInt8)
    (loaded : Loaded) : Prop where
  caching : session.caching = true
  found : session.disk.find? (FilePath.normalize path) = some (place, contents)
  absent : session.kept? place = none
  returned : (session.load path).1 = .ok loaded
  parsed : Document.ofContents (FilePath.normalize path) contents = .ok loaded.document

/-- A load changes what is kept only by storing what it gives. -/
theorem documents_load (session : Session) (path : String) :
    (session.load path).2.documents = session.loader.documents ∨
      ∃ place contents loaded, session.Stores path place contents loaded ∧
        (session.load path).2.documents = (place, loaded) :: session.loader.documents := by
  cases hfind : session.disk.find? (FilePath.normalize path) with
  | none =>
    rw [load_missing hfind]
    exact .inl rfl
  | some found =>
    obtain ⟨place, contents⟩ := found
    cases hcaching : session.caching with
    | false =>
      rw [load_uncached hfind hcaching]
      exact .inl (keepsDocuments_readFile _ contents session.loader)
    | true =>
      cases hkept : session.kept? place with
      | some kept =>
        rw [load_kept hfind hcaching hkept]
        exact .inl rfl
      | none =>
        obtain ⟨hresult, hdocuments⟩ := load_new hfind hcaching hkept
        cases hload : (session.load path).1 with
        | error failure =>
          rw [hload] at hdocuments
          exact .inl hdocuments
        | ok loaded =>
          have hparsed := readFile_outcome (FilePath.normalize path) contents session.loader
          rw [← hresult, hload] at hparsed
          rw [hload] at hdocuments
          exact .inr ⟨place, contents, loaded, ⟨hcaching, hfind, hkept, hload, hparsed.symm⟩,
            hdocuments⟩

/-- What a load of a path gives, and what is kept after it. -/
structure Serves (session : Session) (path : String) : Prop where
  missing : session.disk.find? (FilePath.normalize path) = none → (session.load path).1 =
    .error (if session.disk.isOverlong (FilePath.normalize path) then .fault .nameTooLong
      else .document (.notFound (FilePath.normalize path)))
  uncached : ∀ place contents,
    session.disk.find? (FilePath.normalize path) = some (place, contents) →
    session.caching = false →
      (session.load path).1.map Loaded.document =
          Document.ofContents (FilePath.normalize path) contents ∧
        (session.load path).2.documents = session.loader.documents
  kept : ∀ place contents loaded,
    session.disk.find? (FilePath.normalize path) = some (place, contents) →
    session.caching = true → session.kept? place = some loaded →
      (session.load path).1 = .ok loaded ∧
        (session.load path).2.documents = session.loader.documents
  new : ∀ place contents,
    session.disk.find? (FilePath.normalize path) = some (place, contents) →
    session.caching = true → session.kept? place = none →
      (session.load path).1.map Loaded.document =
          Document.ofContents (FilePath.normalize path) contents ∧
        ∀ loaded, (session.load path).1 = .ok loaded →
          (session.load path).2.documents = (place, loaded) :: session.loader.documents
  failed : ∀ failure, (session.load path).1 = .error failure →
    (session.load path).2.documents = session.loader.documents

theorem serves (session : Session) (path : String) : session.Serves path where
  missing h := by rw [load_missing h]
  uncached place contents hfind h := by
    rw [load_uncached hfind h]
    exact ⟨readFile_outcome _ contents session.loader, keepsDocuments_readFile _ _ _⟩
  kept place contents loaded hfind h hkept := by
    rw [load_kept hfind h hkept]
    exact ⟨rfl, rfl⟩
  new place contents hfind h hkept := by
    obtain ⟨hresult, hdocuments⟩ := load_new hfind h hkept
    refine ⟨?_, fun loaded hload => ?_⟩
    · rw [hresult, readFile_outcome]
    · rw [hload] at hdocuments
      exact hdocuments
  failed failure h := by
    rcases documents_load session path with hsame | ⟨_, _, _, hstores, -⟩
    · exact hsame
    · cases h.symm.trans hstores.returned

/-! ## Runs -/

/-- What is kept was kept before, or it is stored by a load. -/
theorem kept_of_step {event : Event} (h : (session.step event).kept? place = some kept) :
    (session.kept? place = some kept ∧ event ≠ .clear) ∨
      ∃ path contents, event = .load path ∧ session.Stores path place contents kept := by
  cases event with
  | edit change => exact .inl ⟨h, nofun⟩
  | setCaching caching => exact .inl ⟨h, nofun⟩
  | clear => cases h
  | load path =>
    simp only [kept?, step] at h
    rcases documents_load session path with hsame | ⟨other, contents, loaded, hstores, hnew⟩
    · rw [hsame] at h
      exact .inl ⟨h, nofun⟩
    · rw [hnew, List.lookup_cons] at h
      by_cases hplace : place = other
      · subst hplace
        obtain rfl : loaded = kept := by simpa using h
        exact .inr ⟨path, contents, rfl, hstores⟩
      · rw [beq_false_of_ne hplace] at h
        exact .inl ⟨h, nofun⟩

theorem run_append (start : Session) (events others : List Event) :
    start.run (events ++ others) = (start.run events).run others :=
  List.foldl_append

/-- All that is kept was stored by a load of the run, and nothing was cleared since. -/
theorem kept_of_run {start : Session} (hstart : start.loader.documents = [])
    {events : List Event} (h : (start.run events).kept? place = some kept) :
    ∃ before path after contents, events = before ++ .load path :: after ∧ .clear ∉ after ∧
      (start.run before).Stores path place contents kept := by
  induction events using List.reverseRecOn with
  | nil =>
    have hlookup : start.loader.documents.lookup place = some kept := h
    rw [hstart] at hlookup
    cases hlookup
  | append_singleton events event ih =>
    rw [run_append] at h
    rcases kept_of_step h with ⟨hkept, hclear⟩ | ⟨path, contents, rfl, hstores⟩
    · obtain ⟨before, path, after, contents, rfl, hafter, hstores⟩ := ih hkept
      refine ⟨before, path, after ++ [event], contents, by simp, ?_, hstores⟩
      simp [hafter, Ne.symm hclear]
    · exact ⟨events, path, [], contents, rfl, List.not_mem_nil, hstores⟩

/-- Whatever happens, a load gives what is kept for the place of its file, if caching is on and
something is kept for it, and otherwise what the contents of the file are; and what it stores stays
until all is cleared. A document that is kept is what the contents of its file were when it was
stored, under the name used then. If they still are the file's contents, a load that uses it and
one that reads the file give the same but for the source. -/
theorem cache_faithful {start : Session} (hstart : start.loader.documents = [])
    (events : List Event) :
    (∀ path, (start.run events).Serves path) ∧
    ∀ place kept, (start.run events).kept? place = some kept →
      ∃ before path after contents, events = before ++ .load path :: after ∧ .clear ∉ after ∧
        (start.run before).Stores path place contents kept ∧
        kept.document.source = FilePath.normalize path ∧
        ∀ again other,
          (start.run events).disk.find? (FilePath.normalize again) = some (place, contents) →
          (start.run events).disk.find? (FilePath.normalize other) = some (place, contents) →
            ({ start.run events with caching := true }.load again).1 = .ok kept ∧
            ({ start.run events with caching := false }.load other).1.map Loaded.document =
              .ok { kept.document with source := FilePath.normalize other } := by
  refine ⟨fun path => serves _ path, fun place kept hkept => ?_⟩
  obtain ⟨before, path, after, contents, hevents, hafter, hstores⟩ := kept_of_run hstart hkept
  have hsource := Document.source_of_ofContents hstores.parsed
  refine ⟨before, path, after, contents, hevents, hafter, hstores, hsource, ?_⟩
  intro again other hagain hother
  have hcached := serves { start.run events with caching := true } again
  have hfresh := serves { start.run events with caching := false } other
  refine ⟨(hcached.kept place contents kept hagain rfl hkept).1, ?_⟩
  rw [(hfresh.uncached place contents hother rfl).1]
  exact Document.ofContents_source hstores.parsed

/-- A document that two paths lead to. -/
def twoPaths : Session where
  disk := {
    working := ["data"]
    directories := [["data", "old"]]
    files :=
      [(["data", "text.yaml"],
        "structcheck_format: 0.1.0\ntitle: Texts\nschema:\n  type: string\n".toUTF8.toList)] }
  caching := true
  loader := {}

/-- The document is loaded under one name, another file is written and caching is switched off. -/
def twoPathsEvents : List Event :=
  [.load "old/../text.yaml", .edit (·.write ["data", "new.yaml"] [0x61]), .setCaching false]

/-- Under its other name the document is the same but for the source. -/
theorem cache_faithful_twoPaths : ∃ kept,
    twoPaths.loader.documents = [] ∧
    (twoPaths.run twoPathsEvents).kept? ["data", "text.yaml"] = some kept ∧
    kept.document.source = "old/../text.yaml" ∧ kept.document.title = some "Texts" ∧
    ({ twoPaths.run twoPathsEvents with caching := true }.load "text.yaml").1 = .ok kept ∧
    ({ twoPaths.run twoPathsEvents with caching := false }.load "text.yaml").1.map
      Loaded.document = .ok { kept.document with source := "text.yaml" } := by
  have hkept : ((twoPaths.run twoPathsEvents).kept? ["data", "text.yaml"]).map
      (fun kept => (kept.document.source, kept.document.title)) =
        some ("old/../text.yaml", some "Texts") := by decide +kernel
  obtain ⟨kept, hfound, htexts⟩ := Option.map_eq_some_iff.1 hkept
  obtain ⟨hsource, htitle⟩ := Prod.mk.inj htexts
  have hstart : twoPaths.loader.documents = [] := rfl
  obtain ⟨-, hhistory⟩ := cache_faithful hstart twoPathsEvents
  obtain ⟨before, path, after, contents, hevents, -, hstores, -, hagree⟩ := hhistory _ _ hfound
  cases before with
  | nil =>
    obtain rfl : "old/../text.yaml" = path := Event.load.inj (List.cons.inj hevents).1
    have hfile : twoPaths.disk.find? (FilePath.normalize "old/../text.yaml") =
        (twoPaths.run twoPathsEvents).disk.find? (FilePath.normalize "text.yaml") := by
      decide +kernel
    have hcontents := hfile.symm.trans hstores.found
    obtain ⟨hcached, hfresh⟩ := hagree "text.yaml" "text.yaml" hcontents hcontents
    have hname : FilePath.normalize "text.yaml" = "text.yaml" := by decide
    rw [hname] at hfresh
    exact ⟨kept, hstart, hfound, hsource, htitle, hcached, hfresh⟩
  | cons first rest =>
    have hrest := (List.cons.inj hevents).2
    have hload : Event.load path ∈
        [.edit (·.write ["data", "new.yaml"] [0x61]), .setCaching false] := by
      rw [hrest]
      simp
    simp at hload

end Loader.Session

end Conform
