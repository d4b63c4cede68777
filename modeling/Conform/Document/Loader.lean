import Conform.Disk
import Conform.Document.Basic

/-!
# Loading documents

A loader remembers which grammars it has loaded and keeps the documents that it has read from files,
each under the place of its file. It notes what it does in records; what it has noted before a
failure stays noted.
-/

namespace Conform

/-- A document that was read, with the number of the reading. -/
structure Loaded where
  document : Document
  serial : Nat

structure Loader where
  /-- The versions of the grammars that were loaded. -/
  grammars : List String := []
  /-- The documents that are kept. -/
  documents : List (Place × Loaded) := []
  records : List Record := []
  /-- How many documents were read. -/
  count : Nat := 0

/-- Steps of a loader that may fail. -/
abbrev Loading := ExceptT DocumentFailure (StateM Loader)

namespace Loader

def note (record : Record) : Loading Unit :=
  modify fun loader => { loader with records := loader.records ++ [record] }

/-- Load the grammar of a version, unless it was loaded before. -/
def loadGrammar (resolved : String) : Loading Unit := do
  let loader ← get
  if !loader.grammars.contains resolved then
    set { loader with grammars := resolved :: loader.grammars }
    note (Document.grammarRecord resolved)

/-- The document that a value is. -/
def parse (v : Value) (source : String) : Loading Document := do
  let (header, entries) ← Document.header v source
  if let some warning := header.warning then
    note (Document.warningRecord warning source)
  let resolved ← Document.grammarVersion header
  loadGrammar resolved
  Document.ofEntries header entries source

/-- The value of a file's contents. -/
def readValue (path : String) (contents : List UInt8) : Except DocumentFailure Value := do
  let chars ← (decodeFile contents).mapError (DocumentFailure.ofText path)
  (loadText chars).mapError (DocumentFailure.ofText path)

/-- Number a document. -/
def number (document : Document) : Loading Loaded := do
  let loader ← get
  set { loader with count := loader.count + 1 }
  return ⟨document, loader.count⟩

/-- Keep a document under the place of its file. -/
def keep (place : Place) (loaded : Loaded) : Loading Unit :=
  modify fun loader => { loader with documents := (place, loaded) :: loader.documents }

/-- Read the document of a file. -/
def readFile (path : String) (contents : List UInt8) : Loading Loaded := do
  note (Document.loadingRecord path)
  let v ← readValue path contents
  let document ← parse v path
  number document

/-- The document that a path stands for. With caching, a document that is kept is not read again. -/
def load (disk : Disk) (caching : Bool) (path : String) : Loading Loaded := do
  let path := FilePath.normalize path
  match disk.find? path with
  | none =>
    throw (if disk.isOverlong path then .fault .nameTooLong else .document (.notFound path))
  | some (place, contents) =>
    if caching then
      match (← get).documents.lookup place with
      | some loaded => do
        note (Document.cachedRecord path)
        return loaded
      | none => do
        let loaded ← readFile path contents
        keep place loaded
        return loaded
    else readFile path contents

/-- The loader with neither grammars nor documents kept. -/
def clear (loader : Loader) : Loader := { loader with grammars := [], documents := [] }

end Loader

end Conform
