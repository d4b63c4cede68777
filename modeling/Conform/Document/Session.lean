import Conform.Document.Loader

/-!
# Sessions

A loader is used for as long as a program runs. Between its loads files are written and removed,
caching is switched on and off, and what it keeps is forgotten, in any order.
-/

namespace Conform.Loader

/-- A loader at one time, with the files there are and the setting. -/
structure Session where
  disk : Disk
  caching : Bool
  loader : Loader

inductive Event where
  | load (path : String)
  /-- Files are written or removed, as by `Disk.write` and `Disk.erase`. -/
  | edit (change : Disk → Disk)
  | clear
  | setCaching (caching : Bool)

namespace Session

/-- What a path is loaded as, and the loader after that. -/
def load (session : Session) (path : String) : Except DocumentFailure Loaded × Loader :=
  (Loader.load session.disk session.caching path).run.run session.loader

def step (session : Session) (event : Event) : Session :=
  match event with
  | .load path => { session with loader := (session.load path).2 }
  | .edit change => { session with disk := change session.disk }
  | .clear => { session with loader := session.loader.clear }
  | .setCaching caching => { session with caching }

/-- The session after some events. -/
def run (session : Session) (events : List Event) : Session := events.foldl step session

/-- What is kept for a place. -/
def kept? (session : Session) (place : Place) : Option Loaded :=
  session.loader.documents.lookup place

end Session

end Conform.Loader
